import SpriteStage.Proofs.Stage.Acts

/-!
# The one way to break down

On every reachable stage the limits are in order, no program nests repeats and every heading is a
reduced one (`steady_of_reachable`). Turns then never break down, so the one fault that a tick, or
time passing, can meet is that the next tick would lie past the end of the clock.
-/

namespace SpriteStage

namespace Stage

/-- What steps of programs rely on. -/
structure Steady (stage : Stage) : Prop where
  ordered : stage.bounds.Ordered
  sound : ∀ actor ∈ stage.actors, actor.Sound

variable {stage after : Stage} {actor moved : Actor} {i : Nat} {fault : Fault}

theorem sound_of_same (sound : actor.Sound) (program : moved.program = actor.program)
    (heading : moved.heading = actor.heading) : moved.Sound :=
  ⟨program ▸ sound.flat, heading ▸ sound.heading_nonneg, heading ▸ sound.heading_lt⟩

theorem steady_put (steady : Steady stage) (sound : moved.Sound) (timers : TimerQueue) :
    Steady (stage.put i moved timers) := by
  refine ⟨steady.ordered, fun other member => ?_⟩
  rcases List.mem_or_eq_of_mem_set member with member | rfl
  · exact steady.sound other member
  · exact sound

theorem sound_of_posed {bounds : Bounds} (posed : actor.Posed bounds moved) (sound : actor.Sound) :
    moved.Sound := by
  rw [posed.frame]
  rcases posed.heading with kept | ⟨degrees, reduced⟩
  · exact ⟨sound.flat, kept ▸ sound.heading_nonneg, kept ▸ sound.heading_lt⟩
  · exact ⟨sound.flat, reduced ▸ normalizeHeading_nonneg degrees, reduced ▸ normalizeHeading_lt degrees⟩

theorem Steady.waited (steady : Steady stage) (time : Duration) : Steady { stage with now := time } :=
  ⟨steady.ordered, steady.sound⟩

theorem steady_of_touch (touch : Touch stage after) (steady : Steady stage) : Steady after := by
  cases touch with
  | control => exact ⟨steady.ordered, steady.sound⟩
  | posed here posed =>
    exact steady_put steady (sound_of_posed posed (steady.sound _ (List.mem_of_getElem? here))) _
  | @edited i actor name program cursor here flat =>
    have sound := steady.sound _ (List.mem_of_getElem? here)
    have edited : ({ actor with name, program, cursor } : Actor).Sound :=
      ⟨fun command member => (flat command member).elim (sound.flat command) id,
        sound.heading_nonneg, sound.heading_lt⟩
    exact steady_put steady edited _
  | @exchanged i j first second apart here there =>
    have firstSound := steady.sound _ (List.mem_of_getElem? here)
    have secondSound := steady.sound _ (List.mem_of_getElem? there)
    have given : ({ first with program := second.program } : Actor).Sound :=
      ⟨secondSound.flat, firstSound.heading_nonneg, firstSound.heading_lt⟩
    have taken : ({ second with program := first.program } : Actor).Sound :=
      ⟨firstSound.flat, secondSound.heading_nonneg, secondSound.heading_lt⟩
    exact steady_put (steady_put steady given _) taken _
  | shown kind text here =>
    refine steady_put steady ?_ _
    exact sound_of_same (steady.sound _ (List.mem_of_getElem? here)) rfl rfl
  | armed kind text here later =>
    refine steady_put steady ?_ _
    exact sound_of_same (steady.sound _ (List.mem_of_getElem? here)) rfl rfl
  | hushed here =>
    refine steady_put steady ?_ _
    exact sound_of_same (steady.sound _ (List.mem_of_getElem? here)) rfl rfl
  | silenced bare => exact ⟨steady.ordered, steady.sound⟩

theorem steady_of_touches (touches : Touches stage after) (steady : Steady stage) : Steady after := by
  induction touches with
  | refl => exact steady
  | tail _ touch ih => exact steady_of_touch touch ih

theorem steady_of_change (change : Change stage after) (steady : Steady stage) : Steady after := by
  cases change with
  | touched touch => exact steady_of_touch touch steady
  | planned => exact ⟨steady.ordered, steady.sound⟩
  | @arrived actor active fresh flat x y heading rewound =>
    refine ⟨steady.ordered, fun other member => ?_⟩
    obtain ⟨degrees, reduced⟩ := heading
    rcases List.mem_append.mp member with stands | arrives
    · exact steady.sound other stands
    · rw [List.mem_singleton.mp arrives]
      exact ⟨flat, reduced ▸ normalizeHeading_nonneg degrees, reduced ▸ normalizeHeading_lt degrees⟩
  | left id active =>
    exact ⟨steady.ordered, fun other member => steady.sound other (List.mem_of_mem_eraseP member)⟩
  | waited => exact ⟨steady.ordered, steady.sound⟩
  | @fired timer timers popped =>
    have popped : Steady { stage with timers } := ⟨steady.ordered, steady.sound⟩
    rcases expire_stage { stage with timers } timer with same | ⟨i, actor, here, hushed⟩
    · rw [same]
      exact popped
    · rw [hushed]
      have sound := steady.sound actor (List.mem_of_getElem? here)
      have bare : actor.withoutBubble.Sound := sound_of_same sound rfl rfl
      exact steady_put popped bare _

theorem steady_of_changes (changes : Changes stage after) (steady : Steady stage) : Steady after := by
  induction changes with
  | refl => exact steady
  | tail _ change ih => exact steady_of_change change ih

/-- Placing an actor keeps a stage steady, whatever its identifier. -/
theorem steady_place {outcome : Outcome ActorId} (steady : Steady stage)
    (flat : ∀ command ∈ actor.program, command.isFlat = true)
    (placed : stage.place actor = .ok outcome) : Steady outcome.stage := by
  obtain ⟨held, -, placed⟩ := bind_eq_ok.mp placed
  cases placed
  refine ⟨steady.ordered, fun other member => ?_⟩
  rcases List.mem_append.mp member with stands | arrives
  · exact steady.sound other stands
  · rw [List.mem_singleton.mp arrives]
    exact ⟨flat, normalizeHeading_nonneg _, normalizeHeading_lt _⟩

theorem place_ok (ordered : stage.bounds.Ordered) (actor : Actor) :
    ∃ outcome, stage.place actor = .ok outcome := by
  obtain ⟨held, clamped⟩ := ordered.clamp actor.x actor.y
  exact ⟨_, bind_eq_ok.mpr ⟨held, clamped, rfl⟩⟩

/-- Every operation is a sequence of changes, unless it adds an actor without an identifier left. -/
theorem changes_or_placed {operation : Operation} {outcome : Outcome Response}
    (period : 0 < stage.playback.period.nanos) (performed : stage.perform operation = .ok outcome) :
    Changes stage outcome.stage ∨ ∃ actor placed active, actor.program = [] ∧
      stage.place actor = .ok placed ∧ outcome.stage = { placed.stage with active } := by
  by_cases room : operation.hasRoom stage
  · exact .inl (changes_perform room period performed)
  · cases operation with
    | addActor =>
      obtain ⟨added, adds, same⟩ := bind_eq_ok.mp performed
      obtain ⟨placed, places, adds⟩ := bind_eq_ok.mp adds
      cases same
      cases adds
      exact .inr ⟨_, placed, _, rfl, places, rfl⟩
    | _ => exact absurd rfl room

/-- Every reachable stage is steady, also where an actor was added without an identifier left. -/
theorem steady_of_reachable {allowed : Stage → Operation → Prop} {config : Config}
    (reachable : ReachableBy allowed config stage) : Steady stage := by
  induction reachable with
  | opening opening =>
    obtain ⟨valid, changes⟩ := changes_of_opening opening
    refine steady_of_changes changes ⟨(Config.valid_of_validate valid).bounds_ordered, ?_⟩
    simp [unchecked]
  | step reachable _ performed ih =>
    rcases changes_or_placed reachable.period_pos performed with
      changes | ⟨actor, placed, active, bare, places, same⟩
    · exact steady_of_changes changes ih
    · have after := steady_place ih (by simp [bare]) places
      rw [same]
      exact ⟨after.ordered, after.sound⟩

/-- Configuration and period of a reachable stage are those it started with. -/
theorem settled_of_reachable {allowed : Stage → Operation → Prop} {config : Config}
    (reachable : ReachableBy allowed config stage) :
    config.validate = .ok () ∧ stage.config = config ∧ stage.playback.period = config.tickPeriod := by
  induction reachable with
  | opening opening =>
    obtain ⟨valid, changes⟩ := changes_of_opening opening
    exact ⟨valid, settled_of_changes changes⟩
  | step reachable _ performed ih =>
    obtain ⟨valid, configIs, periodIs⟩ := ih
    rcases changes_or_placed reachable.period_pos performed with
      changes | ⟨actor, placed, active, bare, places, same⟩
    · have settled := settled_of_changes changes
      exact ⟨valid, settled.1.trans configIs, settled.2.trans periodIs⟩
    · obtain ⟨held, -, places⟩ := bind_eq_ok.mp places
      cases places
      rw [same]
      exact ⟨valid, configIs, periodIs⟩

/-! ### Commands one after another -/

theorem sound_of_apply {setting : Setting} {timers later : TimerQueue} {command : Command}
    (applied : command.apply setting actor timers = .ok (moved, later)) (sound : actor.Sound) :
    moved.Sound := by
  rcases Command.apply_cases applied with ⟨posed, -⟩ | ⟨kind, text, duration, -, shown⟩
  · exact sound_of_posed posed sound
  · rcases actor.display_cases setting timers kind text duration with plain | ⟨deadline, -, armed⟩
    · rw [plain] at shown
      cases shown
      exact sound_of_same sound rfl rfl
    · rw [armed] at shown
      cases shown
      exact sound_of_same sound rfl rfl

/-- Plain commands can be carried out one after another. -/
theorem applyAll_ok {setting : Setting} (ordered : setting.bounds.Ordered) {commands : List Command}
    (plain : ∀ command ∈ commands, command.isRepeat = false) (sound : actor.Sound)
    (timers : TimerQueue) :
    ∃ moved later, commands.foldlM (fun (actor, timers) command => command.apply setting actor timers)
      (actor, timers) = .ok (moved, later) := by
  induction commands generalizing actor timers with
  | nil => exact ⟨actor, timers, rfl⟩
  | cons command rest ih =>
    rw [List.forall_mem_cons] at plain
    obtain ⟨between, queue, first⟩ := Command.apply_ok ordered timers sound.heading_lt plain.1
    obtain ⟨moved, later, others⟩ := ih plain.2 (sound_of_apply first sound) queue
    exact ⟨moved, later, bind_eq_ok.mpr ⟨_, first, others⟩⟩

/-- What a command without nested repeats amounts to is plain. -/
theorem plain_of_mem_unfold {command inner : Command} {limit : Int} (flat : command.isFlat = true)
    (member : inner ∈ (command.capped limit).unfold) : inner.isRepeat = false := by
  cases command with
  | repeatTimes count body =>
    obtain ⟨pass, passes, member⟩ := List.mem_flatten.mp member
    rw [List.eq_of_mem_replicate passes] at member
    exact Command.plain_of_mem_body flat member
  | _ =>
    rw [List.mem_singleton.mp member]
    rfl

/-! ### Ticks -/

theorem turn_ok {tick : TickState} (steady : Steady tick.stage) (id : ActorId) :
    ∃ next, tick.turn id = .ok next := by
  unfold TickState.turn
  cases found : tick.stage.actor? id with
  | none => exact ⟨_, rfl⟩
  | some actor =>
    have sound := steady.sound actor (List.mem_of_find?_eq_some found)
    obtain ⟨outcome, moved, later, advanced⟩ :=
      Actor.advance_ok (show tick.stage.setting.bounds.Ordered from steady.ordered) sound
        tick.stage.timers
    by_cases plays : (tick.stage.isRunning && !actor.program.isEmpty) = true
    · exact ⟨_, by simp only [plays, if_true, advanced]; rfl⟩
    · exact ⟨_, by simp only [plays]; rfl⟩

theorem turns_ok {tick : TickState} (steady : Steady tick.stage) (ids : List ActorId) :
    ∃ ended, ids.foldlM (fun tick id => if tick.stage.isScheduled id then tick.turn id else return tick)
      tick = .ok ended := by
  induction ids generalizing tick with
  | nil => exact ⟨tick, rfl⟩
  | cons id rest ih =>
    rw [List.foldlM_cons]
    by_cases scheduled : tick.stage.isScheduled id
    · obtain ⟨next, turned⟩ := turn_ok steady id
      obtain ⟨ended, turns⟩ := ih (steady_of_touches (TickState.follows_turn turned).touches steady)
      exact ⟨ended, bind_eq_ok.mpr ⟨next, by simp [scheduled, turned], turns⟩⟩
    · obtain ⟨ended, turns⟩ := ih steady
      exact ⟨ended, bind_eq_ok.mpr ⟨tick, by simp [scheduled]; rfl, turns⟩⟩

/-- A tick breaks down exactly if the next one cannot be planned behind its turns. -/
theorem runTick_turns (steady : Steady stage) :
    ∃ ended : TickState, TickState.Follows { stage, report := { time := stage.now } } ended ∧
      ∀ fault, stage.runTick = .error fault ↔
        ended.stage.playback.tickCompleted stage.now = .error fault := by
  have start : Steady ({ stage, report := { time := stage.now } } : TickState).stage := steady
  obtain ⟨ended, turns⟩ := turns_ok start stage.playback.scheduled.ids
  refine ⟨ended, TickState.follows_turns turns, fun fault => ?_⟩
  unfold runTick
  dsimp only
  rw [turns]
  exact bind_eq_error fun playback => ⟨_, rfl⟩

/-- A tick breaks down only when the next one would lie past the end of the clock. -/
theorem runTick_fault (steady : Steady stage) (failed : stage.runTick = .error fault) :
    fault = .clockOverflow := by
  obtain ⟨ended, -, breaks⟩ := runTick_turns steady
  exact Playback.tickCompleted_fault ((breaks fault).mp failed)

/-- Time passing breaks down only when a tick on the way would put the next one past the end of the
clock. -/
theorem advanceTime_fault {allowed : Stage → Operation → Prop} {config : Config} {elapsed : Duration}
    (reachable : ReachableBy allowed config stage) (failed : stage.advanceTime elapsed = .error fault) :
    fault = .clockOverflow := by
  obtain ⟨log, last, unfolds, result⟩ :=
    advanceTime_unfolds stage reachable.period_pos elapsed
  rcases result with ⟨-, done⟩ | ⟨other, time, breaks, failed'⟩
  · rw [done] at failed
    cases failed
  · rw [failed'] at failed
    cases failed
    have steady := steady_of_changes (changes_of_unfolds unfolds) (steady_of_reachable reachable)
    exact runTick_fault (steady.waited time) breaks.ran

end Stage

end SpriteStage
