import SpriteStage.Stage.Reachable
import SpriteStage.Proofs.Clock.Timeline
import SpriteStage.Proofs.Stage.Answers
import SpriteStage.Proofs.Stage.FreshId

/-!
# Changes

Every public operation is a sequence of changes: touches, plans of the next tick, arrivals,
departures, moves of the clock up to what is due first, and timers that go off. Main statement:
changes lead from the empty stage of a valid configuration to every reachable stage
(`changes_of_reachable`), so what every change preserves holds on all of them.
-/

namespace SpriteStage

namespace Stage

/-- One change of a stage. -/
inductive Change (stage : Stage) : Stage → Prop
  | touched {after : Stage} (touch : Touch stage after) : Change stage after
  /-- The next tick is planned a period ahead, or playback ends. -/
  | planned (playback : Playback) (period : playback.period = stage.playback.period)
      (nextTick : ∀ time, playback.nextTick = some time →
        stage.now.add? stage.playback.period = some time) :
      Change stage { stage with playback }
  /-- An actor joins under an identifier that is not in use. -/
  | arrived {actor : Actor} (active : Option ActorId) (fresh : ∀ other ∈ stage.actors, other.id ≠ actor.id)
      (flat : ∀ command ∈ actor.program, command.isFlat = true)
      (x : ∃ target, stage.bounds.clampX target = .ok actor.x)
      (y : ∃ target, stage.bounds.clampY target = .ok actor.y)
      (heading : ∃ degrees, actor.heading = normalizeHeading degrees)
      (rewound : actor.rewound = actor) :
      Change stage { stage with actors := stage.actors ++ [actor], active }
  /-- An actor leaves, with its timers and its place on the schedule. -/
  | left (id : ActorId) (active : Option ActorId) :
      Change stage { stage with
        actors := stage.actors.eraseP (·.id == id)
        active
        timers := stage.timers.cancelActor id
        playback := stage.playback.unschedule id }
  /-- The clock moves, past nothing that is due. -/
  | waited {time : Duration} (timers : ∀ timer ∈ stage.timers.pending, time ≤ timer.deadline)
      (tick : ∀ next, stage.playback.nextTick = some next → time ≤ next) :
      Change stage { stage with now := time }
  /-- A timer that is due goes off. -/
  | fired {timer : BubbleTimer} {timers : TimerQueue}
      (popped : stage.timers.popDue stage.now = some (timer, timers)) :
      Change stage ({ stage with timers }.expire timer).1

/-- A sequence of changes. -/
abbrev Changes : Stage → Stage → Prop := Relation.ReflTransGen Change

variable {stage after between last : Stage} {id : ActorId}

theorem changes_of_touches (touches : Touches stage after) : Changes stage after :=
  touches.lift id fun _ _ => .touched

/-- Configuration and period never change. -/
theorem settled_of_change (change : Change stage after) :
    after.config = stage.config ∧ after.playback.period = stage.playback.period := by
  cases change with
  | touched touch =>
    have frame := frame_of_touch touch
    exact ⟨frame.config, frame.period⟩
  | planned playback period nextTick => exact ⟨rfl, period⟩
  | left id active => exact ⟨rfl, Playback.period_unschedule _ _⟩
  | @fired timer timers popped =>
    refine ⟨?_, by simp⟩
    by_cases shows : ({ stage with timers } : Stage).Shows timer
    · rw [expire_of_shows shows]; rfl
    · rw [expire_of_stale shows]
  | _ => exact ⟨rfl, rfl⟩

theorem settled_of_changes (changes : Changes stage after) :
    after.config = stage.config ∧ after.playback.period = stage.playback.period := by
  induction changes with
  | refl => exact ⟨rfl, rfl⟩
  | tail _ change ih =>
    have step := settled_of_change change
    exact ⟨step.1.trans ih.1, step.2.trans ih.2⟩

theorem changes_finishIfDrained (stage : Stage) : Changes stage stage.finishIfDrained.1 := by
  rw [finishIfDrained_eq]
  split
  · exact .single (.planned _ rfl (by simp))
  · exact .refl

/-! ### Playback -/

theorem changes_play {outcome : Outcome Unit} (played : stage.play = .ok outcome) :
    Changes stage outcome.stage := by
  obtain ⟨playback, starts, played⟩ := bind_eq_ok.mp played
  obtain ⟨next, after, starts⟩ := bind_eq_ok.mp starts
  cases played
  cases starts
  have planned (ids : IdSet) : Change stage.resetAll { stage.resetAll with
      playback := { stage.resetAll.playback with state := .running ids next, ticks := 0 } } :=
    .planned _ rfl (by rintro time ⟨⟩; exact Playback.tickAfter_eq_ok.mp after)
  exact (changes_of_touches (touches_resetAll stage)).trans
    (.head (planned _) (changes_finishIfDrained _))

theorem changes_stop (stage : Stage) : Changes stage stage.stop.stage := by
  have silenced : Touch stage.resetAll { stage.resetAll with timers := stage.resetAll.timers.clear } := by
    refine .silenced fun actor member => ?_
    obtain ⟨before, -, rfl⟩ := List.mem_map.mp member
    rfl
  refine (changes_of_touches (.tail (touches_resetAll stage) silenced)).tail ?_
  exact .planned _ rfl (by simp)

theorem changes_runTick {outcome : Outcome TickReport} (ran : stage.runTick = .ok outcome) :
    Changes stage outcome.stage := by
  obtain ⟨touched, playback, ticked⟩ := ticked_of_runTick ran
  rw [ticked.ended]
  obtain ⟨period, next⟩ := Playback.tickCompleted_planned ticked.planned
  exact (changes_of_touches ticked.touches).trans
    (.head (.planned playback period next) (changes_finishIfDrained _))

theorem changes_tick {outcome : Outcome TickReport} (ran : stage.tick = .ok outcome) :
    Changes stage outcome.stage := by
  unfold tick at ran
  split at ran
  · exact changes_runTick ran
  · cases ran
    exact .refl

/-! ### Time -/

theorem changes_of_happens {happening : Happening} (happens : stage.Happens happening after) :
    Changes stage after := by
  cases happens with
  | @cleared timer timers popped first =>
    have waits : Change stage { stage with now := timer.deadline } :=
      .waited (TimerQueue.deadline_le_of_popDue popped) first
    have fires : Change { stage with now := timer.deadline }
        ({ stage with timers, now := timer.deadline }.expire timer).1 := .fired popped
    exact .tail (.single waits) fires
  | @ticked time outcome due first ran =>
    have waits : Change stage { stage with now := time } :=
      .waited (fun timer member => Duration.le_of_lt (first timer member)) fun next is => by
        rw [due] at is
        cases is
        exact Duration.le_refl _
    exact .head waits (changes_runTick ran)

theorem changes_of_unfolds {target : Duration} {log : List Happening}
    (unfolds : stage.Unfolds target log last) : Changes stage last := by
  induction unfolds with
  | nothing => exact .refl
  | next happens reached later ih => exact (changes_of_happens happens).trans ih

/-- Everything in a log happens on a stage that changes lead to. -/
theorem Unfolds.happened {target : Duration} {log : List Happening} {happening : Happening}
    (unfolds : stage.Unfolds target log last) (member : happening ∈ log) :
    ∃ before after, Changes stage before ∧ before.Happens happening after := by
  obtain ⟨early, late, rfl⟩ := List.append_of_mem member
  obtain ⟨before, after, unfoldsEarly, happens, -⟩ := unfolds.split
  exact ⟨before, after, changes_of_unfolds unfoldsEarly, happens⟩

theorem changes_advanceTime {elapsed : Duration} {outcome : Outcome (List TickReport)}
    (period : 0 < stage.playback.period.nanos) (done : stage.advanceTime elapsed = .ok outcome) :
    Changes stage outcome.stage := by
  obtain ⟨log, last, unfolds, calm, rfl⟩ := unfolds_of_advanceTime period done
  refine (changes_of_unfolds unfolds).tail ?_
  exact .waited (fun timer member => Duration.le_of_lt (calm.timers timer member))
    fun next is => Duration.le_of_lt (calm.tick next is)

/-! ### The cast -/

/-- Placing an actor under a fresh identifier is an arrival. -/
theorem changes_place {actor : Actor} {outcome : Outcome ActorId}
    (fresh : ∀ other ∈ stage.actors, other.id ≠ actor.id)
    (flat : ∀ command ∈ actor.program, command.isFlat = true)
    (placed : stage.place actor = .ok outcome) : Changes stage outcome.stage := by
  obtain ⟨⟨x, y⟩, clamped, placed⟩ := bind_eq_ok.mp placed
  obtain ⟨clampedX, clampedY⟩ := Bounds.clamp_eq_ok.mp clamped
  cases placed
  exact .single (.arrived _ fresh flat ⟨_, clampedX⟩ ⟨_, clampedY⟩ ⟨_, rfl⟩ rfl)

theorem place_cast {actor : Actor} {outcome : Outcome ActorId}
    (placed : stage.place actor = .ok outcome) :
    outcome.stage.actors.map (·.id) = stage.actors.map (·.id) ++ [actor.id] := by
  obtain ⟨⟨x, y⟩, -, placed⟩ := bind_eq_ok.mp placed
  cases placed
  simp [outcome, Actor.rewound]

theorem changes_placeAll {actors : List Actor} (distinct : (actors.map (·.id)).Nodup)
    (fresh : ∀ actor ∈ actors, ∀ other ∈ stage.actors, other.id ≠ actor.id)
    (flat : ∀ actor ∈ actors, ∀ command ∈ actor.program, command.isFlat = true)
    (populated : stage.placeAll actors = .ok after) : Changes stage after := by
  induction actors generalizing stage with
  | nil =>
    cases populated
    exact .refl
  | cons actor rest ih =>
    rw [placeAll, List.foldlM_cons] at populated
    obtain ⟨between, step, populated⟩ := bind_eq_ok.mp populated
    obtain ⟨outcome, places, same⟩ := bind_eq_ok.mp step
    cases same
    rw [List.map_cons, List.nodup_cons] at distinct
    have first := changes_place (fresh actor List.mem_cons_self) (flat actor List.mem_cons_self) places
    refine first.trans (ih distinct.2 ?_ (fun a member => flat a (List.mem_cons_of_mem _ member)) populated)
    intro later member other present same
    have among : other.id ∈ stage.actors.map (·.id) ++ [actor.id] := by
      rw [← place_cast places]
      exact List.mem_map_of_mem present
    rcases List.mem_append.mp among with among | among
    · obtain ⟨before, stood, beforeId⟩ := List.mem_map.mp among
      exact fresh later (List.mem_cons_of_mem _ member) before stood (beforeId.trans same)
    · rw [List.mem_singleton.mp among] at same
      exact distinct.1 (same ▸ List.mem_map_of_mem member)

theorem changes_addActor {outcome : Outcome ActorId} (room : stage.actors.length ≤ maxActorNumber)
    (added : stage.addActor = .ok outcome) : Changes stage outcome.stage := by
  obtain ⟨placed, places, added⟩ := bind_eq_ok.mp added
  cases added
  refine (changes_place (freshId_fresh room) (by simp) places).tail (.touched ?_)
  exact .control _ placed.stage.playback placed.stage.observers placed.stage.registrations rfl rfl

theorem actor?_eq_none : stage.actor? id = none ↔ ∀ other ∈ stage.actors, other.id ≠ id := by
  simp [actor?, List.find?_eq_none]

theorem flat_of_validated {program : List Command}
    (validated : (program.forM fun command => stage.check command.validate) = .ok ()) :
    ∀ command ∈ program, command.isFlat = true := by
  induction program with
  | nil => simp
  | cons head rest ih =>
    obtain ⟨_, first, others⟩ := bind_eq_ok.mp validated
    intro command member
    rcases List.mem_cons.mp member with rfl | member
    · exact Command.validate_eq_ok_iff.mp (check_eq_ok.mp first)
    · exact ih others command member

theorem changes_insertActor {actor : Actor} {outcome : Outcome ActorId}
    (inserted : stage.insertActor actor = .ok outcome) : Changes stage outcome.stage := by
  unfold insertActor at inserted
  cases found : stage.actor? actor.id with
  | some other =>
    rw [found] at inserted
    cases inserted
  | none =>
    rw [found] at inserted
    obtain ⟨_, validated, inserted⟩ := bind_eq_ok.mp inserted
    exact changes_place (actor?_eq_none.mp found) (flat_of_validated validated)
      (sound_eq_ok.mp inserted)

theorem changes_removeActor {outcome : Outcome Actor} (removed : stage.removeActor id = .ok outcome) :
    Changes stage outcome.stage := by
  obtain ⟨actor, -, removed⟩ := bind_eq_ok.mp removed
  cases removed
  exact .head (.left id _) (changes_finishIfDrained _)

/-! ### Operations and runs -/

/-- Every operation is a sequence of changes. -/
theorem changes_perform {operation : Operation} {outcome : Outcome Response}
    (room : operation.hasRoom stage) (period : 0 < stage.playback.period.nanos)
    (performed : stage.perform operation = .ok outcome) : Changes stage outcome.stage := by
  cases performed_of_perform performed with
  | refused error => exact .refl
  | addActor added => exact changes_addActor (by simpa [Operation.hasRoom] using room) added
  | insertActor inserted => exact changes_insertActor inserted
  | removeActor removed => exact changes_removeActor removed
  | setActive done => exact .single (.touched (touch_setActive done))
  | rename done => exact .single (.touched (touch_rename done))
  | setPosition done => exact .single (.touched (touch_setPosition done))
  | setHeading done => exact .single (.touched (touch_setHeading done))
  | append done => exact .single (.touched (touch_append done))
  | patchCommand done => exact .single (.touched (touch_patchCommand done))
  | removeCommand removed => exact .single (.touched (touch_removeCommand removed))
  | swapPrograms done => exact changes_of_touches (touches_swapPrograms done)
  | executeImmediate done => exact changes_of_touches (touches_executeImmediate done)
  | play played => exact changes_play played
  | stop => exact changes_stop stage
  | tick ticked => exact changes_tick ticked
  | advanceTime advanced => exact changes_advanceTime period advanced
  | subscribe => exact .single (.touched (touch_subscribe stage))
  | unsubscribe number => exact .single (.touched (touch_unsubscribe stage number))

/-- A stage is made of a configuration that passes its checks. -/
theorem ofConfig_eq_ok {config : Config} (start : ofConfig config = .ok stage) :
    config.validate = .ok () ∧ stage = unchecked config := by
  obtain ⟨_, valid, same⟩ := bind_eq_ok.mp start
  exact ⟨valid, (pure_eq_ok.mp same).symm⟩

theorem changes_of_opening {config : Config} (opening : Opening config stage) :
    config.validate = .ok () ∧ Changes (unchecked config) stage := by
  cases opening with
  | empty start =>
    obtain ⟨valid, rfl⟩ := ofConfig_eq_ok start
    exact ⟨valid, .refl⟩
  | cast start populated =>
    obtain ⟨valid, rfl⟩ := ofConfig_eq_ok start
    exact ⟨valid, changes_placeAll (by decide) (by simp [unchecked]) (by decide) populated⟩

/-- Every reachable stage comes from the empty stage of a valid configuration by changes. -/
theorem changes_of_reachable {config : Config} (reachable : ReachableWithRoom config stage) :
    config.validate = .ok () ∧ Changes (unchecked config) stage := by
  induction reachable with
  | opening opening => exact changes_of_opening opening
  | @step stage operation outcome _ room performed ih =>
    obtain ⟨valid, changes⟩ := ih
    have period : 0 < stage.playback.period.nanos := by
      rw [(settled_of_changes changes).2]
      exact (Config.valid_of_validate valid).tickPeriod_pos
    exact ⟨valid, changes.trans (changes_perform room period performed)⟩

/-- Performs operations one after another. -/
def performAll (stage : Stage) (operations : List Operation) : Except Fault Stage :=
  operations.foldlM (fun stage operation => do return (← stage.perform operation).stage) stage

variable {allowed : Stage → Operation → Prop}

theorem ReachableBy.performAll {config : Config} {operations : List Operation}
    (reachable : ReachableBy allowed config stage)
    (allows : ∀ operation ∈ operations, ∀ stage, allowed stage operation)
    (performed : stage.performAll operations = .ok after) : ReachableBy allowed config after := by
  induction operations generalizing stage with
  | nil =>
    cases performed
    exact reachable
  | cons operation rest ih =>
    rw [Stage.performAll, List.foldlM_cons] at performed
    obtain ⟨between, step, performed⟩ := bind_eq_ok.mp performed
    obtain ⟨outcome, first, same⟩ := bind_eq_ok.mp step
    cases same
    exact ih (.step reachable (allows operation List.mem_cons_self stage) first)
      (fun other member => allows other (List.mem_cons_of_mem _ member)) performed

/-- An attempt whose outcome passes a test has that outcome. -/
theorem exists_outcome {ε α : Type} {attempt : Except ε α} {test : α → Bool}
    (passes : attempt.toOption.any test = true) :
    ∃ outcome, attempt = .ok outcome ∧ test outcome = true := by
  cases attempt with
  | error fault => cases passes
  | ok outcome => exact ⟨outcome, rfl, passes⟩

/-- Allowed operations that lead from the empty stage to one that passes a test show that such a
stage is reachable. -/
theorem exists_reachableBy (allowed : Stage → Operation → Prop) (config : Config)
    (operations : List Operation) (test : Stage → Bool) (valid : config.validate = .ok ())
    (allows : ∀ operation ∈ operations, ∀ stage, allowed stage operation)
    (passes : ((unchecked config).performAll operations).toOption.any test = true) :
    ∃ stage, ReachableBy allowed config stage ∧ test stage = true := by
  obtain ⟨stage, performed, passed⟩ := exists_outcome passes
  have start : ofConfig config = .ok (unchecked config) := bind_eq_ok.mpr ⟨(), valid, rfl⟩
  exact ⟨stage, ReachableBy.performAll (.opening (.empty start)) allows performed, passed⟩

theorem exists_reachable (config : Config) (operations : List Operation) (test : Stage → Bool)
    (valid : config.validate = .ok ())
    (room : ∀ operation ∈ operations, ∀ stage, operation.hasRoom stage = true)
    (passes : ((unchecked config).performAll operations).toOption.any test = true) :
    ∃ stage, ReachableWithRoom config stage ∧ test stage = true :=
  exists_reachableBy _ config operations test valid room passes

theorem period_pos_of_reachable {config : Config} (reachable : ReachableWithRoom config stage) :
    0 < stage.playback.period.nanos := by
  obtain ⟨valid, changes⟩ := changes_of_reachable reachable
  rw [(settled_of_changes changes).2]
  exact (Config.valid_of_validate valid).tickPeriod_pos

end Stage

end SpriteStage
