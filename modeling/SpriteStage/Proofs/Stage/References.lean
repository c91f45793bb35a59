import SpriteStage.Proofs.Clock.Additivity
import SpriteStage.Proofs.Stage.Bubbles
import SpriteStage.Proofs.Stage.Overflow
import SpriteStage.Proofs.Stage.Schedule

/-!
# References

The selection and the schedule name actors by identifier, and playback names the instant of the next
tick. Only arrivals, departures and a request to select touch the selection, and only time passing
moves the clock (`kept_of_perform`); whatever else happens plans at most the tick one period ahead.
Main statement: `references_intact`. Names are unambiguous, each one that is held somewhere names an
actor on the stage, and the next tick lies ahead by one period at most.
-/

namespace SpriteStage

/-- Whether an operation leaves cast, selection and clock as they are. -/
def Operation.keeps : Operation → Bool
  | .addActor | .insertActor _ | .removeActor _ | .setActive _ | .advanceTime _ => false
  | _ => true

namespace Stage

/-- The selection names an actor on the stage; it names none only if there is none. -/
structure Selected (stage : Stage) : Prop where
  none_iff : stage.active = none ↔ stage.actors = []
  names : ∀ id, stage.active = some id → ∃ actor ∈ stage.actors, actor.id = id

/-- The next tick lies ahead, by one period at most. -/
def Imminent (stage : Stage) : Prop :=
  ∀ time, stage.playback.nextTick = some time →
    stage.now < time ∧ time.nanos ≤ stage.now.nanos + stage.playback.period.nanos

/-- The clock stands still, and at most the tick one period ahead is planned. -/
structure Paced (before after : Stage) : Prop where
  now : after.now = before.now
  period : after.playback.period = before.playback.period
  nextTick : ∀ time, after.playback.nextTick = some time → before.playback.nextTick = some time ∨
    before.now.add? before.playback.period = some time

/-- The cast and the selection stay as they are too. -/
structure Kept (before after : Stage) : Prop extends Paced before after where
  cast : after.actors.map (·.id) = before.actors.map (·.id)
  active : after.active = before.active

variable {stage between after last : Stage} {id : ActorId} {actor moved : Actor} {target : Duration}
  {log : List Happening}

/-! ### Within an instant -/

theorem Paced.trans (early : Paced stage between) (late : Paced between after) : Paced stage after := by
  refine ⟨late.now.trans early.now, late.period.trans early.period, fun time is => ?_⟩
  rcases late.nextTick time is with is | planned
  · exact early.nextTick time is
  · rw [early.now, early.period] at planned
    exact .inr planned

theorem Kept.refl (stage : Stage) : Kept stage stage :=
  ⟨⟨rfl, rfl, fun _ is => .inl is⟩, rfl, rfl⟩

theorem Kept.trans (early : Kept stage between) (late : Kept between after) : Kept stage after :=
  ⟨early.toPaced.trans late.toPaced, late.cast.trans early.cast, late.active.trans early.active⟩

theorem paced_of_framed (frame : Framed stage after) : Paced stage after :=
  ⟨frame.now, frame.period, fun _ is => .inl (frame.nextTick ▸ is)⟩

theorem kept_of_touches (touches : Touches stage after) (active : after.active = stage.active) :
    Kept stage after := by
  have frame := frame_of_touches touches
  exact ⟨paced_of_framed frame, frame.cast, active⟩

theorem kept_planned {playback : Playback} (period : playback.period = stage.playback.period)
    (planned : ∀ time, playback.nextTick = some time → stage.now.add? stage.playback.period = some time) :
    Kept stage { stage with playback } :=
  ⟨⟨rfl, period, fun time is => .inr (planned time is)⟩, rfl, rfl⟩

theorem kept_finishIfDrained (stage : Stage) : Kept stage stage.finishIfDrained.1 := by
  rw [finishIfDrained_eq]
  split
  · exact kept_planned rfl (by simp)
  · exact .refl stage

theorem kept_of_updated {α : Type} {outcome : Outcome α} (updated : stage.Updated id actor moved outcome)
    (same : moved.id = actor.id) : Kept stage outcome.stage := by
  obtain ⟨i, here, after⟩ := updated.place
  rw [after]
  exact ⟨⟨rfl, rfl, fun _ is => .inl is⟩, map_set_same here same, rfl⟩

theorem kept_executeImmediate {command : Command} {outcome : Outcome Unit}
    (done : stage.executeImmediate id command = .ok outcome) : Kept stage outcome.stage := by
  obtain ⟨actor, moved, timers, applied, updated⟩ := updated_of_executeImmediate done
  have arms : Kept stage { stage with timers } := ⟨⟨rfl, rfl, fun _ is => .inl is⟩, rfl, rfl⟩
  exact arms.trans (kept_of_updated updated (applyAll_frame applied).1)

theorem kept_swapPrograms {a b : ActorId} {outcome : Outcome Unit}
    (done : stage.swapPrograms a b = .ok outcome) : Kept stage outcome.stage := by
  refine kept_of_touches (touches_swapPrograms done) ?_
  obtain ⟨_, -, done⟩ := bind_eq_ok.mp done
  obtain ⟨_, -, done⟩ := bind_eq_ok.mp done
  split at done
  · cases done
    rfl
  · cases done
    rfl

theorem kept_play {outcome : Outcome Unit} (played : stage.play = .ok outcome) :
    Kept stage outcome.stage := by
  obtain ⟨playback, starts, played⟩ := bind_eq_ok.mp played
  obtain ⟨next, plans, starts⟩ := bind_eq_ok.mp starts
  cases played
  cases starts
  have resets : Kept stage stage.resetAll := kept_of_touches (touches_resetAll stage) rfl
  have starts (ids : IdSet) : Kept stage.resetAll { stage.resetAll with
      playback := { stage.resetAll.playback with state := .running ids next, ticks := 0 } } :=
    kept_planned rfl (by rintro time ⟨⟩; exact Playback.tickAfter_eq_ok.mp plans)
  exact (resets.trans (starts _)).trans (kept_finishIfDrained _)

theorem kept_stop (stage : Stage) : Kept stage stage.stop.stage := by
  have resets : Kept stage stage.resetAll := kept_of_touches (touches_resetAll stage) rfl
  exact ⟨⟨resets.now, resets.period, by simp [stop, outcome]⟩, resets.cast, resets.active⟩

theorem kept_runTick {outcome : Outcome TickReport} (ran : stage.runTick = .ok outcome) :
    Kept stage outcome.stage := by
  obtain ⟨touched, playback, ticked⟩ := ticked_of_runTick ran
  obtain ⟨period, next⟩ := Playback.tickCompleted_planned ticked.planned
  have plans : Kept touched { touched with playback } := kept_planned period next
  have ends := plans.trans (kept_finishIfDrained _)
  rw [← ticked.ended] at ends
  have frame := frame_of_touches ticked.touches
  exact ⟨(paced_of_framed frame).trans ends.toPaced, ends.cast.trans frame.cast, ticked.active⟩

theorem kept_tick {outcome : Outcome TickReport} (ran : stage.tick = .ok outcome) :
    Kept stage outcome.stage := by
  unfold tick at ran
  split at ran
  · exact kept_runTick ran
  · cases ran
    exact .refl stage

/-- Operations other than these five neither touch the cast or the selection nor move the clock. -/
theorem kept_of_perform {operation : Operation} {outcome : Outcome Response}
    (keeps : operation.keeps = true) (performed : stage.perform operation = .ok outcome) :
    Kept stage outcome.stage := by
  cases performed_of_perform performed with
  | refused error => exact .refl stage
  | rename done =>
    obtain ⟨actor, updated⟩ := updated_of_rename done
    exact kept_of_updated (updated.respond _) rfl
  | setPosition done =>
    obtain ⟨actor, _, _, -, -, updated⟩ := updated_of_setPosition done
    exact kept_of_updated (updated.respond _) rfl
  | setHeading done =>
    obtain ⟨actor, updated⟩ := updated_of_setHeading done
    exact kept_of_updated (updated.respond _) rfl
  | append done =>
    obtain ⟨actor, -, updated⟩ := updated_of_append done
    exact kept_of_updated (updated.respond _) rfl
  | patchCommand done =>
    obtain ⟨actor, _, _, -, -, updated⟩ := updated_of_patchCommand done
    exact kept_of_updated (updated.respond _) rfl
  | removeCommand removed =>
    obtain ⟨actor, -, updated⟩ := updated_of_removeCommand removed
    exact kept_of_updated (updated.respond _) rfl
  | swapPrograms done => exact kept_swapPrograms done
  | executeImmediate done => exact kept_executeImmediate done
  | play played => exact kept_play played
  | stop => exact kept_stop stage
  | tick ticked => exact kept_tick ticked
  | subscribe | unsubscribe number => exact ⟨⟨rfl, rfl, fun _ is => .inl is⟩, rfl, rfl⟩
  | _ => cases keeps

theorem Selected.kept (selected : Selected stage) (cast : after.actors.map (·.id) = stage.actors.map (·.id))
    (active : after.active = stage.active) : Selected after := by
  constructor
  · rw [active, selected.none_iff, ← List.map_eq_nil_iff, ← cast, List.map_eq_nil_iff]
  · intro id is
    rw [active] at is
    obtain ⟨actor, stands, rfl⟩ := selected.names id is
    have among : actor.id ∈ after.actors.map (·.id) := cast ▸ List.mem_map_of_mem stands
    exact List.mem_map.mp among

theorem Imminent.paced (imminent : Imminent stage) (positive : 0 < stage.playback.period.nanos)
    (paced : Paced stage after) : Imminent after := by
  intro time is
  rw [paced.now, paced.period]
  rcases paced.nextTick time is with is | planned
  · exact imminent time is
  · have sum := Duration.add?_eq_some_iff.mp planned
    rw [Duration.lt_def, sum]
    constructor
    · omega
    · omega

/-! ### Arrivals, departures and the selection -/

theorem selected_of_mem (active : stage.active = some id) (stands : actor ∈ stage.actors)
    (same : actor.id = id) : Selected stage := by
  constructor
  · simp [active, List.ne_nil_of_mem stands]
  · intro other is
    rw [active, Option.some.injEq] at is
    exact ⟨actor, stands, same.trans is⟩

/-- The first actor to arrive is selected. -/
theorem selected_place {outcome : Outcome ActorId} (selected : Selected stage)
    (placed : stage.place actor = .ok outcome) : Selected outcome.stage := by
  obtain ⟨_, -, placed⟩ := bind_eq_ok.mp placed
  cases placed
  cases active : stage.active with
  | none =>
    exact selected_of_mem (by rfl) (List.mem_append_right _ (List.mem_singleton_self _)) rfl
  | some held =>
    obtain ⟨other, stands, same⟩ := selected.names held active
    exact selected_of_mem (by rfl) (List.mem_append_left _ stands) same

theorem paced_place {outcome : Outcome ActorId} (placed : stage.place actor = .ok outcome) :
    Paced stage outcome.stage := by
  obtain ⟨_, -, placed⟩ := bind_eq_ok.mp placed
  cases placed
  exact ⟨rfl, rfl, fun _ is => .inl is⟩

/-- The stage without an actor, before playback ends for want of anyone to run. -/
def without (stage : Stage) (id : ActorId) : Stage :=
  { stage with
    actors := stage.actors.eraseP (·.id == id)
    active := if stage.active = some id then (stage.actors.eraseP (·.id == id)).head?.map Actor.id
      else stage.active
    timers := stage.timers.cancelActor id
    playback := stage.playback.unschedule id }

theorem removeActor_eq {outcome : Outcome Actor} (removed : stage.removeActor id = .ok outcome) :
    (∃ actor, actor ∈ stage.actors) ∧ outcome.stage = (stage.without id).finishIfDrained.1 := by
  obtain ⟨actor, required, removed⟩ := bind_eq_ok.mp removed
  cases removed
  exact ⟨⟨actor, List.mem_of_find?_eq_some (require_eq_ok.mp required)⟩, rfl⟩

/-- When the selected actor leaves, the first one takes over. -/
theorem selected_without (selected : Selected stage) (stands : actor ∈ stage.actors) (id : ActorId) :
    Selected (stage.without id) := by
  unfold without
  by_cases leaves : stage.active = some id
  · simp only [leaves, if_true]
    cases stage.actors.eraseP (·.id == id) with
    | nil => exact ⟨by simp, by simp⟩
    | cons head others => exact ⟨by simp, by simp⟩
  · simp only [leaves, if_false]
    obtain ⟨held, active⟩ : ∃ held, stage.active = some held := by
      rw [← Option.ne_none_iff_exists', ne_eq, selected.none_iff]
      exact List.ne_nil_of_mem stands
    obtain ⟨other, otherStands, rfl⟩ := selected.names held active
    have apart : other.id ≠ id := fun same => leaves (same ▸ active)
    exact selected_of_mem active ((List.mem_eraseP_of_neg (by simpa using apart)).mpr otherStands) rfl

theorem paced_without (stage : Stage) (id : ActorId) : Paced stage (stage.without id) := by
  refine ⟨rfl, Playback.period_unschedule _ _, fun time is => .inl ?_⟩
  rwa [without, Playback.nextTick_unschedule] at is

/-! ### Time -/

theorem Unfolds.nextTick_le (unfolds : Unfolds target stage log last)
    (near : ∀ time, stage.playback.nextTick = some time →
      time.nanos ≤ target.nanos + stage.playback.period.nanos) :
    ∀ time, last.playback.nextTick = some time →
      time.nanos ≤ target.nanos + last.playback.period.nanos := by
  induction unfolds with
  | nothing => exact near
  | next happens reached later ih =>
    refine ih fun time is => ?_
    cases happens with
    | cleared popped first =>
      rw [expire_playback] at is ⊢
      exact near time is
    | @ticked now outcome due first ran =>
      have kept := kept_runTick ran
      rw [kept.period]
      rcases kept.nextTick time is with is | planned
      · exact near time is
      · rw [Duration.add?_eq_some_iff.mp planned]
        exact Nat.add_le_add_right reached _

/-- Time passing keeps cast and selection, moves the clock on, and leaves the next tick ahead of it. -/
theorem advanceTime_references {elapsed : Duration} {outcome : Outcome (List TickReport)}
    (positive : 0 < stage.playback.period.nanos) (done : stage.advanceTime elapsed = .ok outcome) :
    outcome.stage.actors.map (·.id) = stage.actors.map (·.id) ∧
      outcome.stage.active = stage.active ∧ stage.now ≤ outcome.stage.now ∧
      (Imminent stage → Imminent outcome.stage) := by
  obtain ⟨log, last, unfolds, calm, rfl⟩ := unfolds_of_advanceTime positive done
  have ahead : stage.now ≤ stage.now.saturatingAdd elapsed := Duration.le_saturatingAdd ..
  refine ⟨(acts_of_unfolds unfolds).cast, unfolds.active, ahead, fun imminent time is => ?_⟩
  refine ⟨calm.tick time is, unfolds.nextTick_le (fun time is => ?_) time is⟩
  exact Nat.le_trans (imminent time is).2 (Nat.add_le_add_right ahead _)

/-! ### Every operation -/

/-- What a reachable stage refers to. -/
structure Referenced (stage : Stage) : Prop where
  selected : Selected stage
  imminent : Imminent stage

theorem Referenced.kept (referenced : Referenced stage) (positive : 0 < stage.playback.period.nanos)
    (kept : Kept stage after) : Referenced after :=
  ⟨referenced.selected.kept kept.cast kept.active, referenced.imminent.paced positive kept.toPaced⟩

theorem Referenced.place {outcome : Outcome ActorId} (referenced : Referenced stage)
    (positive : 0 < stage.playback.period.nanos) (placed : stage.place actor = .ok outcome) :
    Referenced outcome.stage :=
  ⟨selected_place referenced.selected placed, referenced.imminent.paced positive (paced_place placed)⟩

/-- Every operation keeps what refers to actors and instants in order, and never turns the clock
back. -/
theorem referenced_of_perform {operation : Operation} {outcome : Outcome Response}
    (positive : 0 < stage.playback.period.nanos) (referenced : Referenced stage)
    (performed : stage.perform operation = .ok outcome) :
    Referenced outcome.stage ∧ stage.now ≤ outcome.stage.now := by
  have paced {after : Stage} (holds : Referenced after) (paced : Paced stage after) :
      Referenced after ∧ stage.now ≤ after.now := ⟨holds, paced.now ▸ Duration.le_refl _⟩
  by_cases keeps : operation.keeps = true
  · have kept := kept_of_perform keeps performed
    exact paced (referenced.kept positive kept) kept.toPaced
  · cases performed_of_perform performed with
    | refused error => exact ⟨referenced, Duration.le_refl _⟩
    | addActor added =>
      obtain ⟨placed, places, added⟩ := bind_eq_ok.mp added
      cases added
      have arrives : freshId stage.actors ∈ placed.stage.actors.map (·.id) := by
        rw [place_cast places]
        exact List.mem_append_right _ (List.mem_singleton_self _)
      obtain ⟨actor, stands, named⟩ := List.mem_map.mp arrives
      have arrived := paced_place places
      have selects : Paced stage { placed.stage with active := some (freshId stage.actors) } :=
        ⟨arrived.now, arrived.period, arrived.nextTick⟩
      exact paced ⟨selected_of_mem (by rfl) stands named, referenced.imminent.paced positive selects⟩ selects
    | insertActor inserted =>
      unfold insertActor at inserted
      split at inserted
      · cases inserted
      · obtain ⟨_, -, inserted⟩ := bind_eq_ok.mp inserted
        have placed := sound_eq_ok.mp inserted
        exact paced (referenced.place positive placed) (paced_place placed)
    | @removeActor id after removed =>
      obtain ⟨⟨actor, stands⟩, same⟩ := removeActor_eq removed
      have leaves := paced_without stage id
      have ends := kept_finishIfDrained (stage.without id)
      show Referenced after.stage ∧ stage.now ≤ after.stage.now
      rw [same]
      refine paced ⟨?_, ?_⟩ (leaves.trans ends.toPaced)
      · exact (selected_without referenced.selected stands id).kept ends.cast ends.active
      · exact referenced.imminent.paced positive (leaves.trans ends.toPaced)
    | setActive done =>
      obtain ⟨actor, required, done⟩ := bind_eq_ok.mp done
      have found := require_eq_ok.mp required
      have stands := List.mem_of_find?_eq_some found
      cases done
      exact ⟨⟨selected_of_mem (by rfl) stands (actor?_id found), referenced.imminent⟩, Duration.le_refl _⟩
    | advanceTime advanced =>
      obtain ⟨cast, active, ahead, imminent⟩ := advanceTime_references positive advanced
      exact ⟨⟨referenced.selected.kept cast active, imminent referenced.imminent⟩, ahead⟩
    | _ => exact absurd rfl keeps

theorem referenced_unchecked (config : Config) : Referenced (unchecked config) :=
  ⟨⟨by simp [unchecked], by simp [unchecked]⟩, fun _ is => (nomatch is)⟩

/-- Placing actors one after another keeps what refers to them in order. -/
theorem referenced_placeAll {actors : List Actor} (referenced : Referenced stage)
    (positive : 0 < stage.playback.period.nanos) (populated : stage.placeAll actors = .ok after) :
    Referenced after := by
  induction actors generalizing stage with
  | nil =>
    cases populated
    exact referenced
  | cons actor rest ih =>
    rw [placeAll, List.foldlM_cons] at populated
    obtain ⟨between, step, populated⟩ := bind_eq_ok.mp populated
    obtain ⟨outcome, places, same⟩ := bind_eq_ok.mp step
    cases same
    refine ih (referenced.place positive places) ?_ populated
    rw [(paced_place places).period]
    exact positive

theorem referenced_of_reachable {allowed : Stage → Operation → Prop} {config : Config}
    (reachable : ReachableBy allowed config stage) : Referenced stage := by
  induction reachable with
  | opening opening =>
    cases opening with
    | empty start =>
      obtain ⟨-, rfl⟩ := ofConfig_eq_ok start
      exact referenced_unchecked config
    | cast start populated =>
      obtain ⟨valid, rfl⟩ := ofConfig_eq_ok start
      exact referenced_placeAll (referenced_unchecked config)
        (Config.valid_of_validate valid).tickPeriod_pos populated
  | step reachable _ performed ih => exact (referenced_of_perform reachable.period_pos ih performed).1

/-- In a reachable state every actor goes by an identifier of its own, and one that is added gets an
identifier that nobody goes by. The selection and the schedule name actors on the stage; nobody is
selected only if nobody is there. Playback plans the next tick exactly while it runs, ahead of the
clock by one period at most, and the clock never goes back. -/
theorem references_intact {config : Config} (reachable : ReachableWithRoom config stage) :
    (stage.actors.map (·.id)).Nodup ∧
    (stage.actors.length ≤ maxActorNumber → ∃ outcome, stage.addActor = .ok outcome ∧
      (∀ actor ∈ stage.actors, actor.id ≠ outcome.value) ∧
      ∃ actor ∈ outcome.stage.actors, actor.id = outcome.value) ∧
    (stage.active = none ↔ stage.actors = []) ∧
    (∀ id, stage.active = some id → ∃ actor ∈ stage.actors, actor.id = id) ∧
    (∀ id, stage.isScheduled id = true → ∃ actor ∈ stage.actors, actor.id = id) ∧
    (stage.isRunning = false →
      (∀ id, stage.isScheduled id = false) ∧ stage.playback.nextTick = none) ∧
    (stage.isRunning = true → ∃ time, stage.playback.nextTick = some time ∧ stage.now < time ∧
      time.nanos ≤ stage.now.nanos + config.tickPeriod.nanos) ∧
    ∀ operation outcome, stage.perform operation = .ok outcome → stage.now ≤ outcome.stage.now := by
  have referenced := referenced_of_reachable reachable
  obtain ⟨-, -, period⟩ := settled_of_reachable reachable
  refine ⟨(tidy_of_reachable reachable).distinct, ?_, referenced.selected.none_iff,
    referenced.selected.names, ?_, ?_, ?_, ?_⟩
  · intro room
    obtain ⟨outcome, added⟩ := addActor_ok (steady_of_reachable reachable).ordered
    refine ⟨outcome, added, ?_⟩
    obtain ⟨placed, places, added⟩ := bind_eq_ok.mp added
    cases added
    have cast := place_cast places
    obtain ⟨_, -, named⟩ := bind_eq_ok.mp places
    have same : placed.value = freshId stage.actors := by
      cases named
      rfl
    have arrives : placed.value ∈ placed.stage.actors.map (·.id) := by
      rw [cast, same]
      exact List.mem_append_right _ (List.mem_singleton_self _)
    refine ⟨?_, List.mem_map.mp arrives⟩
    rw [same]
    exact freshId_fresh room
  · intro id scheduled
    exact castScheduled_of_reachable reachable id (of_decide_eq_true scheduled)
  · intro idle
    constructor
    · intro id
      refine decide_eq_false fun scheduled => ?_
      have running : stage.isRunning = true := Playback.isRunning_of_mem scheduled
      rw [idle] at running
      cases running
    · rwa [isRunning, Playback.isRunning_eq_isSome, Option.isSome_eq_false_iff,
        Option.isNone_iff_eq_none] at idle
  · intro running
    rw [isRunning, Playback.isRunning_eq_isSome] at running
    obtain ⟨time, due⟩ := Option.isSome_iff_exists.mp running
    obtain ⟨ahead, near⟩ := referenced.imminent time due
    rw [period] at near
    exact ⟨time, due, ahead, near⟩
  · intro operation outcome performed
    exact (referenced_of_perform reachable.period_pos referenced performed).2

/-- With the largest and the smallest number in use an actor that is added gets the number one. The
tick that is planned lies ahead, in the middle of a period. -/
theorem references_intact_last_number :
    ∃ stage outcome time, ReachableWithRoom {} stage ∧
      stage.actors.map (·.id.number) = [4294967295, 0] ∧ stage.actors.length ≤ maxActorNumber ∧
      stage.addActor = .ok outcome ∧ outcome.value.number = 1 ∧
      (∀ actor ∈ stage.actors, actor.id ≠ outcome.value) ∧ stage.isRunning = true ∧
      stage.now.millis = 700 ∧ stage.playback.nextTick = some time ∧ stage.now < time := by
  obtain ⟨stage, reachable, passes⟩ := exists_reachable {}
    [ .insertActor { id := ⟨4294967295, by decide⟩, name := "Cat", program := [.turn 1, .turn 2] },
      .insertActor { id := ⟨0, by decide⟩, name := "Dog" }, .play, .advanceTime (.ofMillis 700) ]
    (fun stage => decide (stage.actors.map (·.id.number) = [4294967295, 0]) && stage.isRunning &&
      decide (stage.now.millis = 700) &&
      stage.addActor.toOption.any fun (added : Outcome ActorId) => decide (added.value.number = 1))
    rfl (by simp [Operation.hasRoom]) (by decide +kernel)
  simp only [Bool.and_eq_true, decide_eq_true_eq] at passes
  obtain ⟨⟨⟨numbers, running⟩, now⟩, adds⟩ := passes
  have room : stage.actors.length ≤ maxActorNumber := by
    have two := congrArg List.length numbers
    simp only [List.length_map, List.length_cons, List.length_nil] at two
    unfold maxActorNumber
    omega
  obtain ⟨-, arrives, -, -, -, -, plans, -⟩ := references_intact reachable
  obtain ⟨outcome, added, unused, -⟩ := arrives room
  obtain ⟨time, due, ahead, -⟩ := plans running
  rw [added] at adds
  exact ⟨stage, outcome, time, reachable, numbers, room, added, of_decide_eq_true adds, unused, running,
    now, due, ahead⟩

end Stage

end SpriteStage
