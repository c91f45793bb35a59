import SpriteStage.Proofs.Stage.Refusals

/-!
# The end of the clock

Every tick plans the next one, a period later; past the end of the clock there is no such instant.
`Operation.Overruns` says which operations come to plan a tick there. Main statement:
`fault_iff_overruns`. This is the one way in which an operation on a reachable stage breaks down:
requests are answered, limits are in order, headings are reduced ones, and the cursor hands out one
plain command after another.
-/

namespace SpriteStage

/-- Whether the tick a period after an instant lies past the end of the clock. -/
def Playback.Overflows (playback : Playback) (now : Duration) : Prop :=
  maxNanos < now.nanos + playback.period.nanos

/-- Whether an operation comes to plan a tick past the end of the clock. Playing plans the first tick
from now, and a tick that runs plans the next one from its own instant; while time passes these are
the ticks that fall due on the way, behind the timers that go off before. -/
def Operation.Overruns (stage : Stage) : Operation → Prop
  | .play => stage.playback.Overflows stage.now
  | .tick => stage.isRunning = true ∧ stage.playback.Overflows stage.now
  | .advanceTime elapsed => ∃ log last time,
      stage.Unfolds (stage.now.saturatingAdd elapsed) log last ∧
      last.playback.nextTick = some time ∧ time ≤ stage.now.saturatingAdd elapsed ∧
      (∀ timer ∈ last.timers.pending, time < timer.deadline) ∧ stage.playback.Overflows time
  | _ => False

namespace Playback

variable {playback : Playback} {now : Duration} {fault : Fault}

theorem tickAfter_eq_error :
    playback.tickAfter now = .error fault ↔ fault = .clockOverflow ∧ playback.Overflows now := by
  unfold tickAfter Overflows
  rw [← Duration.add?_eq_none_iff]
  cases now.add? playback.period with
  | none => simp [eq_comm]
  | some next => simp

theorem start_eq_error {ids : List ActorId} :
    playback.start now ids = .error fault ↔ fault = .clockOverflow ∧ playback.Overflows now := by
  rw [← tickAfter_eq_error]
  exact bind_eq_error fun next => ⟨_, rfl⟩

/-- While playback runs, counting a tick plans the next one. -/
theorem tickCompleted_eq_error (running : playback.isRunning = true) :
    playback.tickCompleted now = .error fault ↔ fault = .clockOverflow ∧ playback.Overflows now := by
  rw [← tickAfter_eq_error]
  unfold tickCompleted
  unfold isRunning at running
  split at running
  · cases running
  · exact bind_eq_error fun next => ⟨_, rfl⟩

end Playback

namespace Stage

variable {stage : Stage} {fault : Fault}

theorem addActor_ok (ordered : stage.bounds.Ordered) : ∃ outcome, stage.addActor = .ok outcome := by
  let id := freshId stage.actors
  obtain ⟨placed, places⟩ := place_ok ordered { id := id, name := s!"Sprite {id}" }
  exact ⟨_, bind_eq_ok.mpr ⟨placed, places, rfl⟩⟩

/-- Actors can be placed on a stage whose limits are in order. -/
theorem placeAll_ok (ordered : stage.bounds.Ordered) (actors : List Actor) :
    ∃ populated, stage.placeAll actors = .ok populated := by
  induction actors generalizing stage with
  | nil => exact ⟨stage, rfl⟩
  | cons actor rest ih =>
    obtain ⟨placed, places⟩ := place_ok ordered actor
    have still : placed.stage.bounds.Ordered := by
      obtain ⟨_, -, places⟩ := bind_eq_ok.mp places
      cases places
      exact ordered
    obtain ⟨populated, others⟩ := ih still
    exact ⟨populated, bind_eq_ok.mpr ⟨placed.stage, bind_eq_ok.mpr ⟨placed, places, rfl⟩, others⟩⟩

theorem runTick_eq_error (steady : Steady stage) (running : stage.isRunning = true) :
    stage.runTick = .error fault ↔ fault = .clockOverflow ∧ stage.playback.Overflows stage.now := by
  obtain ⟨ended, follows, breaks⟩ := runTick_turns steady
  have frame := frame_of_touches follows.touches
  have still : ended.stage.playback.isRunning = true := frame.isRunning.trans running
  have same : ended.stage.playback.Overflows stage.now ↔ stage.playback.Overflows stage.now := by
    rw [Playback.Overflows, frame.period]
    rfl
  rw [breaks, ← same]
  exact Playback.tickCompleted_eq_error still

theorem play_eq_error :
    stage.play = .error fault ↔ fault = .clockOverflow ∧ stage.playback.Overflows stage.now := by
  rw [← @Playback.start_eq_error stage.playback stage.now fault stage.resetAll.ready]
  exact bind_eq_error fun playback => ⟨_, rfl⟩

theorem tick_eq_error (steady : Steady stage) :
    stage.tick = .error fault ↔ fault = .clockOverflow ∧ Operation.tick.Overruns stage := by
  unfold tick
  cases running : stage.isRunning with
  | true => simp [runTick_eq_error steady running, Operation.Overruns, running]
  | false =>
    refine iff_of_false (fun failed => (nomatch failed)) ?_
    rintro ⟨-, runs, -⟩
    rw [running] at runs
    cases runs

theorem advanceTime_eq_error {elapsed : Duration} (steady : Steady stage)
    (period : 0 < stage.playback.period.nanos) :
    stage.advanceTime elapsed = .error fault ↔
      fault = .clockOverflow ∧ (Operation.advanceTime elapsed).Overruns stage := by
  -- On every stage on the way a tick that is due breaks down exactly if it overflows.
  have onTheWay {log : List Happening} {last : Stage} {time : Duration} {other : Fault}
      (unfolds : stage.Unfolds (stage.now.saturatingAdd elapsed) log last)
      (due : last.playback.nextTick = some time) : { last with now := time }.runTick = .error other ↔
        other = .clockOverflow ∧ stage.playback.Overflows time := by
    have changes := changes_of_unfolds unfolds
    have after := steady_of_changes changes steady
    have running : ({ last with now := time } : Stage).isRunning = true := by
      rw [isRunning, Playback.isRunning_eq_isSome, due]
      rfl
    rw [runTick_eq_error (after.waited time) running, Playback.Overflows, Playback.Overflows,
      (settled_of_changes changes).2]
  obtain ⟨log, last, unfolds, result⟩ := advanceTime_unfolds stage period elapsed
  constructor
  · intro failed
    rcases result with ⟨-, done⟩ | ⟨other, time, breaks, failed'⟩
    · rw [done] at failed
      cases failed
    · rw [failed'] at failed
      cases failed
      obtain ⟨overflow, overruns⟩ := (onTheWay unfolds breaks.due).mp breaks.ran
      exact ⟨overflow, log, last, time, unfolds, breaks.due, breaks.reached, breaks.first, overruns⟩
  · rintro ⟨rfl, log', last', time, unfolds', due, reached, first, overruns⟩
    have breaks : last'.Breaks (stage.now.saturatingAdd elapsed) .clockOverflow time :=
      ⟨due, reached, first, (onTheWay unfolds' due).mpr ⟨rfl, overruns⟩⟩
    rcases result with ⟨calm, -⟩ | ⟨other, time', breaks', failed⟩
    · obtain ⟨-, rfl⟩ := unfolds_unique unfolds unfolds' (.inl calm) (.inr ⟨_, _, breaks⟩)
      exact absurd reached (Duration.not_le_of_lt (calm.tick time due))
    · rw [failed, ((onTheWay unfolds breaks'.due).mp breaks'.ran).1]

/-- What an operation other than these three is asked never plans a tick. -/
theorem perform_eq_error (steady : Steady stage) (period : 0 < stage.playback.period.nanos)
    (operation : Operation) :
    stage.perform operation = .error fault ↔
      fault = .clockOverflow ∧ operation.Overruns stage := by
  have calm (request : operation.isRequest = true) : ¬ stage.perform operation = .error fault := by
    obtain ⟨outcome, performed, -⟩ := settles_request steady request
    rw [performed]
    exact fun failed => (nomatch failed)
  cases operation with
  | addActor =>
    refine iff_of_false (fun failed => ?_) And.right
    obtain ⟨outcome, added⟩ := addActor_ok steady.ordered
    rw [perform, added] at failed
    cases failed
  | play => exact (bind_eq_error fun played => ⟨_, rfl⟩).trans play_eq_error
  | tick => exact (bind_eq_error fun ticked => ⟨_, rfl⟩).trans (tick_eq_error steady)
  | advanceTime elapsed =>
    exact (bind_eq_error fun advanced => ⟨_, rfl⟩).trans (advanceTime_eq_error steady period)
  | stop | subscribe | unsubscribe number =>
    exact iff_of_false (fun failed => (nomatch failed)) And.right
  | _ => exact iff_of_false (calm rfl) And.right

/-- The one way in which an operation on a reachable stage breaks down is that it comes to plan a tick
past the end of the clock. What else the engine relies on always holds: actors can be placed, both
pairs of limits are numbers in order, a cursor that is behind no program hands out a plain command,
and no turn takes a heading out of its range. -/
theorem fault_iff_overruns {config : Config} (reachable : Reachable config stage) :
    (∀ operation fault, stage.perform operation = .error fault ↔
      fault = .clockOverflow ∧ operation.Overruns stage) ∧
    stage.playback.period = config.tickPeriod ∧
    (∃ populated, (unchecked config).placeAll defaultCast = .ok populated) ∧
    (stage.bounds.minX ≤ stage.bounds.maxX ∧ stage.bounds.minY ≤ stage.bounds.maxY ∧
      stage.bounds.minX.isNaN = false ∧ stage.bounds.maxX.isNaN = false ∧
      stage.bounds.minY.isNaN = false ∧ stage.bounds.maxY.isNaN = false) ∧
    ∀ actor ∈ stage.actors,
      (∀ block, actor.program[(actor.cursor.settle actor.program).pc]? = some block →
        ∃ command fetched, (actor.cursor.settle actor.program).fetch block = .ok (command, fetched) ∧
          command.isRepeat = false) ∧
      ∀ degrees : Int, 0 ≤ actor.heading + degrees % 360 ∧ actor.heading + degrees % 360 ≤ maxHeading := by
  have steady := steady_of_reachable reachable
  obtain ⟨valid, -, period⟩ := settled_of_reachable reachable
  have ordered : (unchecked config).bounds.Ordered := (Config.valid_of_validate valid).bounds_ordered
  obtain ⟨minX, maxX⟩ := isNaN_of_le steady.ordered.horizontal
  obtain ⟨minY, maxY⟩ := isNaN_of_le steady.ordered.vertical
  refine ⟨fun operation fault => perform_eq_error steady reachable.period_pos operation, period,
    placeAll_ok ordered defaultCast,
    ⟨steady.ordered.horizontal, steady.ordered.vertical, minX, maxX, minY, maxY⟩, ?_⟩
  intro actor member
  have sound := steady.sound actor member
  constructor
  · intro block here
    obtain ⟨command, fetched, fetches, -, shape⟩ :=
      Cursor.fetch_settled (Cursor.settled_settle actor.program actor.cursor) here
    refine ⟨command, fetched, fetches, ?_⟩
    rcases shape with ⟨rfl, plain⟩ | ⟨count, body, rfl, inBody⟩
    · exact plain
    · exact Command.plain_of_mem_body (sound.flat _ (List.mem_of_getElem? here)) inBody
  · intro degrees
    have nonneg := sound.heading_nonneg
    have below := sound.heading_lt
    have turns := Int.emod_nonneg degrees (show (360 : Int) ≠ 0 by decide)
    have reduced := Int.emod_lt_of_pos degrees (show (0 : Int) < 360 by decide)
    unfold maxHeading
    omega

/-- Close to the end of the clock one command is left of the only program. The tick that would run it
and finish playback breaks down, at once as well as when it is due, for the one after it has no instant;
to turn the actor by hand does not. -/
theorem fault_iff_overruns_last_tick :
    ∃ stage time actor, Reachable {} stage ∧ stage.playback.nextTick = some time ∧
      stage.actors = [actor] ∧ (actor.cursor.remaining actor.program).length = 1 ∧
      stage.perform .tick = .error .clockOverflow ∧
      stage.perform (.advanceTime .last) = .error .clockOverflow ∧
      ∀ fault, stage.perform (.setHeading actor.id 30) ≠ .error fault := by
  obtain ⟨stage, reachable, passes⟩ := exists_reachable {}
    [ .insertActor { id := ⟨1, by decide⟩, name := "Cat", program := [.turn 10] },
      .advanceTime ⟨maxNanos - 700000000, Nat.sub_le _ _⟩, .play, .advanceTime (.ofMillis 300) ]
    (fun stage => stage.timers.pending.isEmpty &&
      decide (stage.actors.map (fun actor => (actor.cursor.remaining actor.program).length) = [1]) &&
      decide (maxNanos < stage.now.nanos + stage.playback.period.nanos) &&
      stage.playback.nextTick.any fun time => decide (stage.now ≤ time))
    rfl (by simp [Operation.hasRoom]) (by decide +kernel)
  simp only [Bool.and_eq_true, List.isEmpty_iff, decide_eq_true_eq, List.map_eq_singleton_iff,
    Option.any_eq_true] at passes
  obtain ⟨⟨⟨quiet, actor, alone, last⟩, late⟩, time, due, ahead⟩ := passes
  obtain ⟨breaks, -⟩ := fault_iff_overruns reachable.reachable
  have running : stage.isRunning = true := by
    rw [isRunning, Playback.isRunning_eq_isSome, due]
    rfl
  have reached : time ≤ stage.now.saturatingAdd .last := by
    rw [Duration.le_def]
    exact Nat.le_trans time.nanos_le (Nat.le_min.mpr ⟨Nat.le_add_left _ _, Nat.le_refl _⟩)
  refine ⟨stage, time, actor, reachable.reachable, due, alone, last, ?_, ?_, ?_⟩
  · exact (breaks _ _).mpr ⟨rfl, running, late⟩
  · refine (breaks _ _).mpr ⟨rfl, [], stage, time, .nothing, due, reached, by simp [quiet], ?_⟩
    exact Nat.lt_of_lt_of_le late (Nat.add_le_add_right ahead _)
  · intro fault failed
    exact ((breaks _ _).mp failed).2

end Stage

end SpriteStage
