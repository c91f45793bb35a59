import SpriteStage.Stepping
import SpriteStage.Proofs.Cursor.Settling
import SpriteStage.Proofs.Execution.Effects

/-!
# A step takes the first of what remains

The meaning of a program under a cursor is the list of commands that remain. A step on an empty list
only moves the cursor (`advance_of_nothing`); a step on any other list carries out its first command
and leaves the rest (`advance_of_work`). Main statement: `advance_takes_first_remaining`.
-/

namespace SpriteStage

/-- What every actor on a stage keeps to: no repeat inside a repeat, and a reduced heading. -/
structure Actor.Sound (actor : Actor) : Prop where
  flat : ∀ command ∈ actor.program, command.isFlat = true
  heading_nonneg : 0 ≤ actor.heading
  heading_lt : actor.heading < 360

theorem Command.plain_of_mem_body {count : Int} {body : List Command} {command : Command}
    (flat : (Command.repeatTimes count body).isFlat = true) (member : command ∈ body) :
    command.isRepeat = false := by
  have plain := List.all_eq_true.mp flat command member
  simpa using plain

namespace Actor

variable {setting : Setting} {actor : Actor} {timers : TimerQueue}

theorem advance_eq (setting : Setting) (actor : Actor) (timers : TimerQueue) :
    actor.advance setting timers =
      match actor.program[(actor.cursor.settle actor.program).pc]? with
      | none => .ok (.exhausted, { actor with cursor := actor.cursor.settle actor.program }, timers)
      | some block => do
        let (command, fetched) ← (actor.cursor.settle actor.program).fetch block
        let (moved, later) ← command.apply setting { actor with cursor := fetched } timers
        let after := { moved with cursor := moved.cursor.settle moved.program }
        return (if after.isFinished then .completed else .progress, after, later) := rfl

/-- A step keeps the identifier, the name and the program. -/
theorem advance_frame {outcome : StepOutcome} {moved : Actor} {later : TimerQueue}
    (advanced : actor.advance setting timers = .ok (outcome, moved, later)) :
    moved.id = actor.id ∧ moved.name = actor.name ∧ moved.program = actor.program := by
  rw [advance_eq] at advanced
  split at advanced
  · cases advanced
    exact ⟨rfl, rfl, rfl⟩
  · obtain ⟨⟨command, fetched⟩, -, advanced⟩ := bind_eq_ok.mp advanced
    obtain ⟨⟨between, after⟩, applied, advanced⟩ := bind_eq_ok.mp advanced
    cases advanced
    obtain ⟨id, name, program, -⟩ := Command.apply_frame applied
    exact ⟨id, name, program⟩

theorem isFinished_iff : actor.isFinished = true ↔ actor.program.length ≤ actor.cursor.pc := by
  simp [isFinished]

/-- Without any work left a step only moves the cursor, behind the program. -/
theorem advance_of_nothing (setting : Setting) (timers : TimerQueue)
    (nothing : actor.cursor.remaining actor.program = []) :
    ∃ cursor, actor.advance setting timers = .ok (.exhausted, { actor with cursor }, timers) ∧
      cursor.remaining actor.program = [] ∧ actor.program.length ≤ cursor.pc := by
  have same := Cursor.remaining_settle actor.program actor.cursor
  have behind := (Cursor.behind_iff_of_settled
    (Cursor.settled_settle actor.program actor.cursor)).mpr (same.trans nothing)
  refine ⟨actor.cursor.settle actor.program, ?_, same.trans nothing, behind⟩
  rw [advance_eq, List.getElem?_eq_none behind]

/-- With work left a step carries out the first remaining command and leaves the rest. -/
theorem advance_of_work (ordered : setting.bounds.Ordered) (sound : actor.Sound) (timers : TimerQueue)
    {command : Command} {rest : List Command}
    (work : actor.cursor.remaining actor.program = command :: rest) :
    ∃ moved later cursor, command.apply setting actor timers = .ok (moved, later) ∧
      actor.advance setting timers =
        .ok (if rest = [] then .completed else .progress, { moved with cursor }, later) ∧
      cursor.remaining actor.program = rest ∧
      (actor.program.length ≤ cursor.pc ↔ rest = []) := by
  have settled := Cursor.settled_settle actor.program actor.cursor
  have same := (Cursor.remaining_settle actor.program actor.cursor).trans work
  have inside : (actor.cursor.settle actor.program).pc < actor.program.length := by
    rcases Nat.lt_or_ge (actor.cursor.settle actor.program).pc actor.program.length with lt | ge
    · exact lt
    · rw [Cursor.remaining_behind ge] at same
      cases same
  have here := List.getElem?_eq_getElem inside
  obtain ⟨first, fetched, fetches, split, shape⟩ := Cursor.fetch_settled settled here
  obtain ⟨rfl, restIs⟩ : command = first ∧ rest = fetched.remaining actor.program := by
    rw [same] at split
    exact List.cons.inj split
  have flat := sound.flat _ (List.getElem_mem inside)
  have plain : command.isRepeat = false := by
    rcases shape with ⟨is, plain⟩ | ⟨count, body, blockIs, member⟩
    · rw [is]; exact plain
    · rw [blockIs] at flat
      exact Command.plain_of_mem_body flat member
  obtain ⟨moved, later, applied⟩ := Command.apply_ok ordered timers sound.heading_lt plain
  obtain ⟨-, -, program, -⟩ := Command.apply_frame applied
  have left := (Cursor.remaining_settle actor.program fetched).trans restIs.symm
  have behind : actor.program.length ≤ (fetched.settle actor.program).pc ↔ rest = [] := by
    rw [Cursor.behind_iff_of_settled (Cursor.settled_settle actor.program fetched), left]
  refine ⟨moved, later, fetched.settle actor.program, applied, ?_, left, behind⟩
  have finished : ({ moved with cursor := fetched.settle actor.program } : Actor).isFinished = true ↔
      rest = [] := by
    rw [isFinished_iff, ← behind, ← program]
  rw [advance_eq, here]
  simp only [fetches]
  -- The command does not look at the cursor, so it may as well run on the actor as it was.
  show (command.apply setting { actor with cursor := fetched } timers >>= _) = _
  rw [Command.apply_withCursor, applied]
  show Except.ok (if _ then _ else _, _, _) = _
  simp only [program] at finished ⊢
  simp only [finished]

theorem advance_ok (ordered : setting.bounds.Ordered) (sound : actor.Sound) (timers : TimerQueue) :
    ∃ outcome moved later, actor.advance setting timers = .ok (outcome, moved, later) := by
  cases work : actor.cursor.remaining actor.program with
  | nil =>
    obtain ⟨_, advanced, -⟩ := advance_of_nothing setting timers work
    exact ⟨_, _, _, advanced⟩
  | cons command rest =>
    obtain ⟨_, _, _, -, advanced, -⟩ := advance_of_work ordered sound timers work
    exact ⟨_, _, _, advanced⟩

/-- The meaning of a program is its unfolding, under any cursor at all. A step never breaks down. It
is exhausted exactly when no command remains, and then changes nothing but the cursor; otherwise it
carries out the first remaining command, once, and leaves exactly the others. It has completed the
program when these are none. -/
theorem advance_takes_first_remaining {config : Config} {setting : Setting}
    (valid : config.validate = .ok ()) (bounds : setting.bounds = config.bounds) (actor : Actor)
    (wellFormed : ∀ command ∈ actor.program, command.validate = .ok ())
    (heading : 0 ≤ actor.heading ∧ actor.heading < 360) (timers : TimerQueue) :
    ∃ outcome after later, actor.advance setting timers = .ok (outcome, after, later) ∧
      (outcome = .exhausted ↔ actor.cursor.remaining actor.program = []) ∧
      (outcome = .exhausted → after = { actor with cursor := after.cursor } ∧ later = timers) ∧
      (∀ command rest, actor.cursor.remaining actor.program = command :: rest →
        (∃ moved, command.apply setting actor timers = .ok (moved, later) ∧
          after = { moved with cursor := after.cursor }) ∧
        after.program = actor.program ∧ after.cursor.remaining after.program = rest ∧
        (outcome = .completed ↔ rest = []) ∧ (outcome = .progress ↔ rest ≠ [])) ∧
      (after.isFinished = true ↔ after.cursor.remaining after.program = []) ∧
      (after.isFinished = true ↔ outcome ≠ .progress) := by
  have ordered : setting.bounds.Ordered := by
    rw [bounds]
    exact (Config.valid_of_validate valid).bounds_ordered
  have sound : actor.Sound :=
    ⟨fun command member => Command.validate_eq_ok_iff.mp (wellFormed command member),
      heading.1, heading.2⟩
  cases work : actor.cursor.remaining actor.program with
  | nil =>
    obtain ⟨cursor, advanced, nothing, behind⟩ := advance_of_nothing setting timers work
    refine ⟨_, _, _, advanced, by simp, fun _ => ⟨rfl, rfl⟩, by simp, ?_, ?_⟩
    · simp [isFinished_iff, behind, nothing]
    · simp [isFinished_iff, behind]
  | cons command rest =>
    obtain ⟨moved, later, cursor, applied, advanced, left, behind⟩ :=
      advance_of_work ordered sound timers work
    obtain ⟨-, -, program, -⟩ := Command.apply_frame applied
    have ran : (if rest = [] then StepOutcome.completed else .progress) ≠ .exhausted := by
      split <;> decide
    refine ⟨_, _, _, advanced, by simp [ran], fun exhausted => absurd exhausted ran, ?_, ?_, ?_⟩
    · intro command' rest' same
      obtain ⟨rfl, rfl⟩ := List.cons.inj same
      refine ⟨⟨moved, applied, rfl⟩, program, ?_, ?_, ?_⟩
      · simp only [program, left]
      · by_cases last : rest = []
        · simp [last]
        · simp [last]
      · by_cases last : rest = []
        · simp [last]
        · simp [last]
    · simp only [isFinished_iff, program, left, behind]
    · by_cases last : rest = []
      · simp [isFinished_iff, program, behind, last]
      · simp [isFinished_iff, program, behind, last]

/-- A pass that is over by far, a second pass, and an empty loop behind: one command is left. -/
theorem advance_takes_first_remaining_overrun :
    let actor : Actor :=
      { id := ⟨1, by decide⟩, name := "Cat", program := [.repeatTimes 2 [.turn 10], .repeatTimes 0 [.turn 20]],
        cursor := { loops := .ofList [(0, 2)], nested := .ofList [(0, 5)] } }
    let setting : Setting := { bounds := ({} : Config).bounds, motion := .heading, now := .zero }
    (∀ command ∈ actor.program, command.validate = .ok ()) ∧
      ∃ after later, actor.advance setting .empty = .ok (.completed, after, later) ∧
        (Command.turn 10).apply setting actor .empty = .ok ({ after with cursor := actor.cursor }, later) := by
  intro actor setting
  have wellFormed : ∀ command ∈ actor.program, command.validate = .ok () := by
    intro command member
    rcases List.mem_cons.mp member with rfl | member
    · rfl
    · rw [List.mem_singleton.mp member]; rfl
  refine ⟨wellFormed, ?_⟩
  obtain ⟨outcome, after, later, advanced, -, -, runs, -, -⟩ :=
    advance_takes_first_remaining (show ({} : Config).validate = .ok () from rfl)
      (show setting.bounds = ({} : Config).bounds from rfl) actor wellFormed (by decide) .empty
  obtain ⟨⟨moved, applied, afterIs⟩, -, -, completed, -⟩ := runs (.turn 10) [] rfl
  rw [completed.mpr rfl] at advanced
  refine ⟨after, later, advanced, ?_⟩
  have cursor := (Command.apply_frame applied).2.2.2
  rw [applied, afterIs, ← cursor]

end Actor

end SpriteStage
