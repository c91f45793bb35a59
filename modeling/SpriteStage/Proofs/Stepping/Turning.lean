import Mathlib.Algebra.Ring.Int.Defs
import SpriteStage.Proofs.Stage.SoloTicks

/-!
# Headings along a program

Of all that commands do, only turns change a heading, and each adds its degrees up to whole turns
(`apply_heading`). So a step adds what the first remaining command turns by, and steps in a row add
what the commands do that they get through (`Turned.trans`, `turned_of_advance`). These sums are the
sums of the integers: all passes of a program together turn by the degrees of its turns times their
counts (`sum_turning_program`), however large those are. Main statement: `turns_exactly`.
-/

namespace SpriteStage

namespace Command

/-- The degrees by which a command turns the actor it is carried out on. -/
def turning : Command → Int
  | .turn degrees => degrees
  | _ => 0

/-- The degrees that all passes of a command come to. -/
def turningInAll : Command → Int
  | .repeatTimes count body => max count 0 * (body.map turning).sum
  | command => command.turning

theorem sum_turning_append (commands more : List Command) :
    ((commands ++ more).map turning).sum = (commands.map turning).sum + (more.map turning).sum := by
  rw [List.map_append, List.sum_append]

theorem sum_turning_passes (passes : Nat) (body : List Command) :
    ((List.replicate passes body).flatten.map turning).sum = passes * (body.map turning).sum := by
  induction passes with
  | zero => simp
  | succ passes ih =>
    rw [List.replicate_succ, List.flatten_cons, sum_turning_append, ih, Nat.cast_succ, add_one_mul,
      add_comm]

theorem sum_turning_unfold (command : Command) :
    (command.unfold.map turning).sum = command.turningInAll := by
  cases command with
  | repeatTimes count body => rw [unfold, sum_turning_passes, turningInAll, Int.toNat_eq_max]
  | _ => exact Int.add_zero _

theorem sum_turning_program (program : List Command) :
    ((program.flatMap unfold).map turning).sum = (program.map turningInAll).sum := by
  induction program with
  | nil => rfl
  | cons command rest ih =>
    rw [List.flatMap_cons, sum_turning_append, sum_turning_unfold, ih, List.map_cons, List.sum_cons]

end Command

/-! ### One command -/

namespace Actor

variable {setting : Setting} {actor moved : Actor}

theorem move_heading {distance : Float} (done : actor.move setting distance = .ok moved) :
    moved.heading = actor.heading := by
  unfold move at done
  split at done
  · obtain ⟨x, -, done⟩ := bind_eq_ok.mp done
    split at done
    · cases done
      rfl
    · obtain ⟨y, -, done⟩ := bind_eq_ok.mp done
      cases done
      rfl
  · obtain ⟨held, -, done⟩ := bind_eq_ok.mp done
    cases done
    rfl

end Actor

namespace Command

variable {setting : Setting} {actor moved : Actor} {timers later : TimerQueue} {command : Command}

theorem apply_turn (setting : Setting) (timers : TimerQueue) (reduced : actor.heading < 360)
    (degrees : Int) : (Command.turn degrees).apply setting actor timers =
      .ok ({ actor with heading := (actor.heading + degrees) % 360 }, timers) := by
  show (actor.turn degrees >>= fun turned => pure (turned, timers)) = _
  rw [Actor.turn_eq reduced]
  rfl

/-- Whatever is carried out, the heading moves on by the degrees of turns alone. -/
theorem apply_heading (reduced : 0 ≤ actor.heading ∧ actor.heading < 360)
    (done : command.apply setting actor timers = .ok (moved, later)) :
    moved.heading = (actor.heading + command.turning) % 360 := by
  have kept (same : moved.heading = actor.heading) : moved.heading = (actor.heading + 0) % 360 := by
    rw [same, Int.add_zero, Int.emod_eq_of_lt reduced.1 reduced.2]
  cases command with
  | move distance =>
    obtain ⟨_, moves, done⟩ := bind_eq_ok.mp done
    cases done
    exact kept (Actor.move_heading moves)
  | turn degrees =>
    rw [apply_turn setting timers reduced.2] at done
    cases done
    rfl
  | goTo x y =>
    obtain ⟨held, -, done⟩ := bind_eq_ok.mp done
    cases done
    exact kept rfl
  | bubble kind text duration =>
    have shown := Actor.display_samePose setting actor timers kind text duration
    rw [Except.ok.inj done] at shown
    exact kept shown.heading
  | repeatTimes count body => cases done

/-- Two turns are one turn by the sum, or by anything that differs from it by whole turns. -/
theorem apply_turn_turn (setting : Setting) (timers : TimerQueue) (reduced : actor.heading < 360)
    {first second joined : Int} (same : joined % 360 = (first + second) % 360) :
    ((Command.turn first).apply setting actor timers >>= fun (turned, left) =>
      (Command.turn second).apply setting turned left) = (Command.turn joined).apply setting actor timers := by
  have between : (actor.heading + first) % 360 < 360 := Int.emod_lt_of_pos _ (by decide)
  have sum : ((actor.heading + first) % 360 + second) % 360 = (actor.heading + joined) % 360 :=
    calc ((actor.heading + first) % 360 + second) % 360
      _ = (actor.heading + (first + second)) % 360 := by rw [Int.emod_add_emod, Int.add_assoc]
      _ = (actor.heading + joined % 360) % 360 := by rw [same, Int.add_emod_emod]
      _ = (actor.heading + joined) % 360 := Int.add_emod_emod _ _ _
  rw [apply_turn setting timers reduced, apply_turn setting timers reduced]
  show (Command.turn second).apply setting { actor with heading := (actor.heading + first) % 360 } timers = _
  rw [apply_turn setting timers between]
  dsimp only
  rw [sum]

end Command

/-! ### Steps in a row -/

namespace Actor

/-- Steps an actor on, once in each of some settings; a fault ends it. -/
def advanceIn : List Setting → Actor → TimerQueue → Except Fault (Actor × TimerQueue)
  | [], actor, timers => .ok (actor, timers)
  | setting :: rest, actor, timers => do
    let (_, moved, later) ← actor.advance setting timers
    moved.advanceIn rest later

/-- What an actor is after a number of steps, as far as its program and its heading go. -/
structure Turned (actor : Actor) (steps : Nat) (moved : Actor) : Prop where
  program : moved.program = actor.program
  remaining : moved.remaining = actor.remaining.drop steps
  heading : moved.heading =
    (actor.heading + ((actor.remaining.take steps).map Command.turning).sum) % 360

variable {setting : Setting} {settings : List Setting} {actor between moved : Actor}
  {timers later : TimerQueue} {outcome : StepOutcome} {steps more : Nat}

theorem turned_nothing (sound : actor.Sound) : actor.Turned 0 actor where
  program := rfl
  remaining := rfl
  heading := by
    rw [List.take_zero, List.map_nil, List.sum_nil, Int.add_zero,
      Int.emod_eq_of_lt sound.heading_nonneg sound.heading_lt]

theorem Turned.trans (early : actor.Turned steps between) (late : between.Turned more moved) :
    actor.Turned (steps + more) moved where
  program := late.program.trans early.program
  remaining := by rw [late.remaining, early.remaining, List.drop_drop]
  heading := by
    rw [late.heading, early.heading, early.remaining, Int.emod_add_emod, Int.add_assoc,
      ← Command.sum_turning_append, ← List.take_add]

theorem Turned.sound (turned : actor.Turned steps moved) (sound : actor.Sound) : moved.Sound where
  flat := turned.program ▸ sound.flat
  heading_nonneg := turned.heading ▸ Int.emod_nonneg _ (by decide)
  heading_lt := turned.heading ▸ Int.emod_lt_of_pos _ (by decide)

/-- A step turns by the first command that remains, if any does. -/
theorem turned_of_advance (ordered : setting.bounds.Ordered) (sound : actor.Sound)
    (advanced : actor.advance setting timers = .ok (outcome, moved, later)) : actor.Turned 1 moved := by
  have stepped := advanced_of_advance ordered sound advanced
  refine ⟨stepped.program, stepped.remaining, ?_⟩
  cases work : actor.remaining with
  | nil =>
    obtain ⟨cursor, exhausts, -⟩ := advance_of_nothing setting timers work
    rw [exhausts] at advanced
    cases advanced
    have nothing := (turned_nothing sound).heading
    rwa [work] at nothing
  | cons command rest =>
    obtain ⟨after, left, cursor, applied, steps, -⟩ := advance_of_work ordered sound timers work
    rw [steps] at advanced
    cases advanced
    have turns := Command.apply_heading ⟨sound.heading_nonneg, sound.heading_lt⟩ applied
    rw [List.take_succ_cons, List.take_zero, List.map_singleton, List.sum_singleton]
    exact turns

/-- Steps in a row never break down and turn by the commands they get through, and the cursor keeps
fitting the program. -/
theorem advanceIn_turned (ordered : ∀ setting ∈ settings, setting.bounds.Ordered) (sound : actor.Sound)
    (fits : actor.cursor.Fits actor.program) (timers : TimerQueue) :
    ∃ moved later, actor.advanceIn settings timers = .ok (moved, later) ∧
      actor.Turned settings.length moved ∧ moved.cursor.Fits moved.program ∧
      (settings ≠ [] → (moved.isFinished = true ↔ actor.remaining.length ≤ settings.length)) := by
  induction settings generalizing actor timers with
  | nil => exact ⟨actor, timers, rfl, turned_nothing sound, fits, fun none => absurd rfl none⟩
  | cons setting rest ih =>
    rw [List.forall_mem_cons] at ordered
    obtain ⟨outcome, between, left, advanced⟩ := advance_ok ordered.1 sound timers
    have first := turned_of_advance ordered.1 sound advanced
    have fitsBetween := fits_advance fits advanced
    obtain ⟨moved, later, others, turned, fitsAfter, finished⟩ :=
      ih ordered.2 (first.sound sound) fitsBetween left
    refine ⟨moved, later, bind_eq_ok.mpr ⟨_, advanced, others⟩, ?_, fitsAfter, fun _ => ?_⟩
    · rw [List.length_cons, Nat.add_comm]
      exact first.trans turned
    · by_cases last : rest = []
      · subst last
        cases others
        exact (advanced_of_advance ordered.1 sound advanced).finished
      · rw [finished last, first.remaining, List.length_drop, List.length_cons]
        omega

end Actor

/-- A repeat that is running never has more passes left than its count, and never none. -/
theorem Cursor.Fits.passes_of_get? {program : List Command} {cursor : Cursor} {index : Nat} {passes : Int}
    (fits : cursor.Fits program) (held : cursor.loops.get? index = some passes) :
    ∃ count body, program[index]? = some (.repeatTimes count body) ∧ 1 ≤ passes ∧ passes ≤ count := by
  cases fits with
  | between inside => cases held
  | @running pc count left body next here passes_pos passes_le within =>
    have one : (if index = pc then some left else none) = some passes := by
      simpa [inLoop, Table.get?_insert] using held
    split at one
    · rename_i same
      cases one
      exact ⟨count, body, same ▸ here, passes_pos, passes_le⟩
    · cases one

/-! ### Whole programs -/

namespace Actor

/-- What a number of steps from the start of its program make of the heading of an actor. -/
structure HeadsOn (actor : Actor) (steps : Nat) (moved : Actor) : Prop where
  heading : moved.heading = (actor.heading +
    (((actor.program.flatMap Command.unfold).take steps).map Command.turning).sum) % 360
  reduced : 0 ≤ moved.heading ∧ moved.heading < 360
  /-- The sum that the next turn takes stays in range, by whatever angle it turns. -/
  roomy : ∀ degrees : Int, 0 ≤ moved.heading + degrees % 360 ∧ moved.heading + degrees % 360 ≤ maxHeading
  /-- Passes are counted down within the counts of the program. -/
  passes : ∀ index passes, moved.cursor.loops.get? index = some passes → ∃ count body,
    actor.program[index]? = some (.repeatTimes count body) ∧ 1 ≤ passes ∧ passes ≤ count
  /-- The program completes with the last of its commands. -/
  finished : 0 < steps →
    (moved.isFinished = true ↔ (actor.program.flatMap Command.unfold).length ≤ steps)
  completed : moved.isFinished = true →
    moved.heading = (actor.heading + (actor.program.map Command.turningInAll).sum) % 360

variable {settings : List Setting} {actor : Actor}

/-- Turning is exact modulo 360. After any number of steps of a program from its start, in any settings on
a valid stage, the heading has moved on by the sum of the turns among the first that many commands of the
unfolded program, and after the whole program by the sum of all turns of all passes. No step breaks down on
the way. In particular two turns in a row come to one turn by any angle congruent to their sum. -/
theorem turns_exactly {config : Config} (valid : config.validate = .ok ())
    (within : ∀ setting ∈ settings, setting.bounds = config.bounds) (start : actor.cursor = .start)
    (wellFormed : ∀ command ∈ actor.program, command.validate = .ok ())
    (heading : 0 ≤ actor.heading ∧ actor.heading < 360) (timers : TimerQueue) :
    (∃ moved later, actor.advanceIn settings timers = .ok (moved, later) ∧
      actor.HeadsOn settings.length moved) ∧
    ∀ first second joined : Int, joined % 360 = (first + second) % 360 → ∀ setting queue,
      ∃ turned, (Command.turn joined).apply setting actor queue = .ok (turned, queue) ∧
        ((Command.turn first).apply setting actor queue >>= fun (between, left) =>
          (Command.turn second).apply setting between left) = .ok (turned, queue) := by
  have ordered : ∀ setting ∈ settings, setting.bounds.Ordered := fun setting member =>
    within setting member ▸ (Config.valid_of_validate valid).bounds_ordered
  have sound : actor.Sound :=
    ⟨fun command member => Command.validate_eq_ok_iff.mp (wellFormed command member),
      heading.1, heading.2⟩
  have work : actor.remaining = actor.program.flatMap Command.unfold := by
    rw [remaining, start, Cursor.remaining_start]
  constructor
  · obtain ⟨moved, later, done, turned, fits, finished⟩ :=
      advanceIn_turned ordered sound (start ▸ Cursor.fits_start _) timers
    have soundAfter := turned.sound sound
    have reached := turned.heading
    rw [work] at reached finished
    refine ⟨moved, later, done, reached, ⟨soundAfter.heading_nonneg, soundAfter.heading_lt⟩, ?_, ?_, ?_, ?_⟩
    · intro degrees
      have low := soundAfter.heading_nonneg
      have high := soundAfter.heading_lt
      have positive := Int.emod_nonneg degrees (show (360 : Int) ≠ 0 by decide)
      have small := Int.emod_lt_of_pos degrees (show (0 : Int) < 360 by decide)
      unfold maxHeading
      omega
    · intro index passes held
      rw [← turned.program]
      exact fits.passes_of_get? held
    · exact fun some => finished (List.length_pos_iff.mp some)
    · intro ended
      have nothing : moved.remaining = [] := Cursor.remaining_behind (isFinished_iff.mp ended)
      rw [turned.remaining, work, List.drop_eq_nil_iff] at nothing
      rw [reached, List.take_of_length_le nothing, Command.sum_turning_program]
  · intro first second joined same setting queue
    have turns := Command.apply_turn setting queue heading.2 joined
    refine ⟨_, turns, ?_⟩
    rw [Command.apply_turn_turn setting queue heading.2 same, turns]

/-- The largest angle there is, and then twice the smallest with a move in between, under two kinds of
motion: the sums leave the range of angles, the heading does not. -/
theorem turns_exactly_extremes :
    let actor : Actor :=
      { id := ⟨1, by decide⟩, name := "Cat", heading := 359
        program := [.turn 9223372036854775807, .repeatTimes 2 [.turn (-9223372036854775808), .move 10],
          .repeatTimes (-3) [.turn 5]] }
    let setting (motion : Motion) : Setting := { bounds := ({} : Config).bounds, motion, now := .zero }
    let settings := List.replicate 4 (setting .heading) ++ [setting (.horizontal none)]
    let largest : Command := .turn 9223372036854775807
    (∀ command ∈ actor.program, command.validate = .ok ()) ∧
    (14 : Int) % 360 = (9223372036854775807 + 9223372036854775807) % 360 ∧
    (∃ moved later, actor.advanceIn settings .empty = .ok (moved, later) ∧ moved.isFinished = true ∧
      moved.heading = 350) ∧
    ∃ turned, (Command.turn 14).apply (setting .heading) actor .empty = .ok (turned, .empty) ∧
      (largest.apply (setting .heading) actor .empty >>= fun (between, left) =>
        largest.apply (setting .heading) between left) = .ok (turned, .empty) := by
  intro actor setting settings largest
  have wellFormed : ∀ command ∈ actor.program, command.validate = .ok () := by
    simp only [actor, List.forall_mem_cons]
    exact ⟨rfl, rfl, rfl, List.forall_mem_nil _⟩
  have within : ∀ other ∈ settings, other.bounds = ({} : Config).bounds := by
    intro other member
    rcases List.mem_append.mp member with member | member
    · rw [List.eq_of_mem_replicate member]
    · rw [List.mem_singleton.mp member]
  obtain ⟨⟨moved, later, done, heads⟩, joins⟩ :=
    turns_exactly (show ({} : Config).validate = .ok () from rfl) within rfl wellFormed (by decide) .empty
  obtain ⟨turned, joined, twice⟩ :=
    joins 9223372036854775807 9223372036854775807 14 (by decide) (setting .heading) .empty
  exact ⟨wellFormed, by decide, ⟨moved, later, done, (heads.finished (by decide)).mpr (by decide),
    heads.heading.trans rfl⟩, turned, joined, twice⟩

end Actor

end SpriteStage
