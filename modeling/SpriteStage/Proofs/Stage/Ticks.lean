import SpriteStage.Proofs.Collision.Selection
import SpriteStage.Proofs.Stage.Touches

/-!
# What a tick does

The turns of a tick touch the stage, report events other than that a bubble cleared, and leave the
instant of the report alone (`TickState.Follows`). A tick is such turns, then the plan for the next
tick, then the end of playback if nothing is scheduled any more (`Ticked`).
-/

namespace SpriteStage

/-- Whether an event says that a bubble cleared by itself. -/
def StageEvent.isClearing : StageEvent → Bool
  | .bubbleCleared _ _ => true
  | _ => false

/-- A chain of steps, each of which moves on in an order, moves on in that order. -/
theorem foldlM_follows {ε σ α : Type} {follows : σ → σ → Prop} {step : σ → α → Except ε σ}
    (refl : ∀ state, follows state state)
    (trans : ∀ {first second third}, follows first second → follows second third → follows first third)
    (each : ∀ {state item next}, step state item = .ok next → follows state next)
    {items : List α} {state last : σ} (run : items.foldlM step state = .ok last) :
    follows state last := by
  induction items generalizing state with
  | nil =>
    cases run
    exact refl _
  | cons item rest ih =>
    rw [List.foldlM_cons] at run
    obtain ⟨next, first, run⟩ := bind_eq_ok.mp run
    exact trans (each first) (ih run)

namespace TickState

/-- One state of a tick comes after another. -/
structure Follows (before after : TickState) : Prop where
  touches : Stage.Touches before.stage after.stage
  time : after.report.time = before.report.time
  observers : after.stage.observers = before.stage.observers
  active : after.stage.active = before.stage.active
  events : ∃ more, after.events = before.events ++ more ∧ ∀ event ∈ more, event.isClearing = false
  swaps : before.report.swaps <+: after.report.swaps

variable {tick after : TickState} {id : ActorId}

theorem Follows.refl (tick : TickState) : Follows tick tick :=
  ⟨.refl, rfl, rfl, rfl, ⟨[], by simp, by simp⟩, List.prefix_rfl⟩

theorem Follows.trans {first second third : TickState} (early : Follows first second)
    (late : Follows second third) : Follows first third := by
  obtain ⟨more, grown, quiet⟩ := early.events
  obtain ⟨further, grownFurther, quietFurther⟩ := late.events
  refine ⟨early.touches.trans late.touches, late.time.trans early.time,
    late.observers.trans early.observers, late.active.trans early.active, ⟨more ++ further, ?_, ?_⟩,
    early.swaps.trans late.swaps⟩
  · rw [grownFurther, grown, List.append_assoc]
  · intro event member
    rcases List.mem_append.mp member with member | member
    · exact quiet event member
    · exact quietFurther event member

theorem follows_drop (tick : TickState) (id : ActorId) : Follows tick (tick.drop id) := by
  refine ⟨.single (Stage.touch_playback ?_ ?_), rfl, rfl, rfl, ⟨[], by simp [drop], by simp⟩,
    List.prefix_rfl⟩
  · simp
  · simp

/-- A step is reported unless no command was left. -/
theorem report_moved (tick : TickState) (id : ActorId) (outcome : StepOutcome) (moved : Actor)
    (timers : TimerQueue) : (tick.moved id outcome moved timers).report = { tick.report with
      stepped := tick.report.stepped ++ if outcome = .exhausted then [] else [id] } := by
  unfold TickState.moved
  split
  · rw [List.append_nil]
  · rfl

theorem swaps_retire (tick : TickState) (id : ActorId) :
    (tick.retire id).report.swaps = tick.report.swaps := by
  unfold retire
  split <;> rfl

theorem follows_moved {actor moved : Actor} {outcome : StepOutcome} {timers : TimerQueue}
    (found : tick.stage.actor? id = some actor)
    (advanced : actor.advance tick.stage.setting tick.stage.timers = .ok (outcome, moved, timers)) :
    Follows tick (tick.moved id outcome moved timers) := by
  obtain ⟨i, here, changed⟩ := Stage.modify_eq_put found
  refine ⟨?_, ?_, rfl, rfl, ⟨[.actorUpdated id], rfl, ?_⟩, ⟨[], ?_⟩⟩
  · show Stage.Touches tick.stage { tick.stage.modify id (fun _ => moved) with timers }
    rw [changed]
    exact Stage.touches_advance here advanced
  · rw [report_moved]
  · intro event member
    rw [List.mem_singleton.mp member]
    rfl
  · rw [report_moved, List.append_nil]

theorem touches_trades {swaps : List ActorPair} (stage : Stage) {actors : List Actor}
    {timers : TimerQueue}
    (folded : tradeAll swaps (stage.actors, stage.timers) = (actors, timers)) :
    Stage.Touches stage { stage with actors, timers } := by
  induction swaps generalizing stage with
  | nil =>
    cases folded
    exact .refl
  | cons pair rest ih =>
    cases traded : tradeIn? stage.actors stage.timers pair.first pair.second with
    | none =>
      simp only [tradeAll_cons, traded, Option.getD_none] at folded
      exact ih stage folded
    | some both =>
      simp only [tradeAll_cons, traded, Option.getD_some] at folded
      exact (Stage.touches_trade traded).trans
        (ih { stage with actors := both.1, timers := both.2 } folded)

theorem touches_afterSwaps (swaps : List ActorPair) (stage : Stage) :
    Stage.Touches stage (swaps.foldl Stage.afterSwap stage) := by
  induction swaps generalizing stage with
  | nil => exact .refl
  | cons pair rest ih => exact (Stage.touches_afterSwap stage pair).trans (ih _)

/-- Bringing the schedule in line changes nothing but playback. -/
theorem afterSwaps_frame (swaps : List ActorPair) (stage : Stage) :
    swaps.foldl Stage.afterSwap stage =
      { stage with playback := (swaps.foldl Stage.afterSwap stage).playback } := by
  induction swaps generalizing stage with
  | nil => rfl
  | cons pair rest ih => exact ih _

/-- Resolving collisions changes nothing but the actors, the timers and playback. -/
theorem resolve_frame (tick : TickState) : ∃ actors timers playback,
    tick.resolve.stage = { tick.stage with actors, timers, playback } :=
  ⟨_, _, _, afterSwaps_frame _ _⟩

theorem follows_resolve (tick : TickState) : Follows tick tick.resolve := by
  refine ⟨?_, rfl, ?_, ?_, ⟨_, rfl, ?_⟩, List.prefix_append _ _⟩
  · exact (touches_trades tick.stage rfl).trans (touches_afterSwaps _ _)
  · obtain ⟨_, _, _, frame⟩ := resolve_frame tick
    rw [frame]
  · obtain ⟨_, _, _, frame⟩ := resolve_frame tick
    rw [frame]
  · intro event member
    obtain ⟨pair, -, rfl⟩ := List.mem_map.mp member
    rfl

theorem follows_retire (tick : TickState) (id : ActorId) : Follows tick (tick.retire id) := by
  unfold retire
  cases found : tick.stage.actor? id with
  | none => exact .refl tick
  | some actor =>
    rw [Option.any_some]
    split
    · obtain ⟨i, here, changed⟩ := Stage.modify_eq_put found
      refine ⟨?_, rfl, rfl, rfl, ⟨[], by simp, by simp⟩, List.prefix_rfl⟩
      have rewinds := Stage.touch_recursored here .start
      rw [← changed (fun actor => { actor with cursor := .start })] at rewinds
      exact .tail (.single rewinds) (Stage.touch_playback (by simp [Stage.modify]) (by simp [Stage.modify]))
    · exact .refl tick

/-- A turn only touches the stage. -/
theorem follows_turn (turned : tick.turn id = .ok after) : Follows tick after := by
  unfold turn at turned
  split at turned
  · cases turned
    exact follows_drop tick id
  · rename_i actor found
    split at turned
    · obtain ⟨⟨outcome, moved, timers⟩, advanced, turned⟩ := bind_eq_ok.mp turned
      cases turned
      exact ((follows_moved found advanced).trans (follows_resolve _)).trans (follows_retire _ id)
    · cases turned
      exact follows_drop tick id

/-- The turns go over the schedule at the start of the tick, and skip who has left it since. -/
theorem follows_turns {ids : List ActorId} (turns : ids.foldlM
    (fun tick id => if tick.stage.isScheduled id then tick.turn id else return tick) tick = .ok after) :
    Follows tick after := by
  refine foldlM_follows Follows.refl Follows.trans ?_ turns
  intro tick id after step
  split at step
  · exact follows_turn step
  · cases step
    exact .refl tick

end TickState

namespace Stage

/-- A tick touched the stage, then planned the next tick, then ended playback if it was drained. -/
structure Ticked (stage touched : Stage) (playback : Playback) (outcome : Outcome TickReport) :
    Prop where
  touches : Touches stage touched
  planned : touched.playback.tickCompleted touched.now = .ok playback
  ended : outcome.stage = ({ touched with playback }.finishIfDrained).1
  finished : outcome.value.finished = playback.isDrained
  time : outcome.value.time = stage.now
  observers : outcome.stage.observers = stage.observers
  active : outcome.stage.active = stage.active
  notices : ∀ notice ∈ outcome.notices, notice.time = stage.now ∧ notice.event.isClearing = false

variable {stage touched : Stage} {playback : Playback} {outcome : Outcome TickReport}

/-- When the schedule has run dry only playback changes. -/
theorem finishIfDrained_frame (stage : Stage) :
    stage.finishIfDrained.1 = { stage with playback := stage.finishIfDrained.1.playback } := rfl

theorem finishIfDrained_now (stage : Stage) : stage.finishIfDrained.1.now = stage.now := by
  rw [finishIfDrained_frame]

theorem finishIfDrained_observers (stage : Stage) :
    stage.finishIfDrained.1.observers = stage.observers := by
  rw [finishIfDrained_frame]

theorem finishIfDrained_active (stage : Stage) :
    stage.finishIfDrained.1.active = stage.active := by
  rw [finishIfDrained_frame]

theorem finishIfDrained_actors (stage : Stage) : stage.finishIfDrained.1.actors = stage.actors := by
  rw [finishIfDrained_frame]

theorem finishIfDrained_timers (stage : Stage) : stage.finishIfDrained.1.timers = stage.timers := by
  rw [finishIfDrained_frame]

theorem finishIfDrained_quiet (stage : Stage) :
    ∀ event ∈ stage.finishIfDrained.2, event.isClearing = false := by
  rw [finishIfDrained_eq]
  split
  · intro event member
    rw [List.mem_singleton.mp member]
    rfl
  · intro event member
    cases member

/-- What a tick does, said once. -/
theorem ticked_of_runTick (ran : stage.runTick = .ok outcome) :
    ∃ touched playback, Ticked stage touched playback outcome := by
  obtain ⟨ended, turns, ran⟩ := bind_eq_ok.mp ran
  obtain ⟨playback, planned, ran⟩ := bind_eq_ok.mp ran
  cases ran
  have follows := TickState.follows_turns turns
  obtain ⟨more, grown, quiet⟩ := follows.events
  have now := (Stage.frame_of_touches follows.touches).now
  refine ⟨ended.stage, playback, follows.touches, now ▸ planned, rfl, rfl, follows.time,
    (finishIfDrained_observers _).trans follows.observers,
    (finishIfDrained_active _).trans follows.active, ?_⟩
  intro notice member
  obtain ⟨event, among, rfl⟩ := List.mem_map.mp member
  refine ⟨(finishIfDrained_now _).trans now, ?_⟩
  rcases List.mem_append.mp among with among | among
  · rw [grown] at among
    exact quiet event among
  · exact finishIfDrained_quiet _ event among

/-- While a tick is due, the next one is planned a period after this one, unless it finishes
playback. -/
theorem Ticked.replanned (tick : Ticked stage touched playback outcome) {time : Duration}
    (due : stage.playback.nextTick = some time) :
    outcome.stage.playback.period = stage.playback.period ∧
      (outcome.value.finished = true ∧ outcome.stage.playback.nextTick = none ∨
        outcome.value.finished = false ∧ ∃ next, stage.now.add? stage.playback.period = some next ∧
          outcome.stage.playback.nextTick = some next) := by
  have frame := frame_of_touches tick.touches
  obtain ⟨period, next, sum, planned⟩ :=
    Playback.tickCompleted_running (frame.nextTick.trans due) tick.planned
  rw [frame.now, frame.period] at sum
  rw [tick.ended, tick.finished]
  rw [finishIfDrained_eq]
  by_cases drained : playback.isDrained
  · simp [drained, period, frame.period]
  · simp [drained, period, frame.period, sum, planned]

end Stage

end SpriteStage
