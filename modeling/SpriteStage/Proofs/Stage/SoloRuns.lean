import SpriteStage.Proofs.Stage.SoloTicks

/-!
# Playback without trades

As long as no programs are traded, a running stage is nothing but its scheduled actors side by side:
after any number of ticks each of them is where its own program takes it, alone, in as many steps, and
it has left the schedule on the tick of its last one (`SoloAfter`). Main statement: `plays_alone`, for
every way to let ticks run, forced or as time passes. It rests on one step for each thing that may
happen in between: a tick without a trade (`SoloAfter.ticked`), a forced tick after the end
(`SoloAfter.idled`), and a bubble that clears or a clock that moves (`SoloAfter.kept`).
-/

namespace SpriteStage

/-- Whether an operation does nothing but let time pass or a tick run. -/
def Operation.passesTime : Operation → Bool
  | .tick | .advanceTime _ => true
  | _ => false

theorem Operation.keepsPrograms_of_passesTime (operation : Operation)
    (passes : operation.passesTime = true) : operation.keepsPrograms = true := by
  cases operation with
  | tick | advanceTime => rfl
  | _ => cases passes

/-- The reports of the ticks that ran during an operation. -/
def Response.tickReports : Response → List TickReport
  | .report single => [single]
  | .reports all => all
  | _ => []

namespace Actor

variable {setting other : Setting} {actor between moved : Actor} {ticks : Nat}

/-- An actor at the same place with the same work before it. -/
structure SameWork (actor moved : Actor) : Prop where
  program : moved.program = actor.program
  cursor : moved.cursor = actor.cursor
  pose : moved.SamePose actor

theorem SameWork.refl (actor : Actor) : actor.SameWork actor := ⟨rfl, rfl, .refl actor⟩

theorem SameWork.trans (early : actor.SameWork between) (late : between.SameWork moved) :
    actor.SameWork moved :=
  ⟨late.program.trans early.program, late.cursor.trans early.cursor, late.pose.trans early.pose⟩

theorem SameWork.remaining (same : actor.SameWork moved) : moved.remaining = actor.remaining := by
  rw [Actor.remaining, same.program, same.cursor, Actor.remaining]

theorem stepsAlone_zero (setting : Setting) (actor : Actor) : actor.StepsAlone setting 0 actor := by
  refine ⟨rfl, fun _ => rfl, fun _ spent => ?_, .nothing setting (.refl actor)⟩
  unfold span at spent
  omega

theorem StepsAlone.kept (early : actor.StepsAlone setting ticks between)
    (same : between.SameWork moved) : actor.StepsAlone setting ticks moved := by
  refine ⟨same.program.trans early.program, ?_, ?_, ?_⟩
  · intro goesOn
    rw [same.remaining]
    exact early.goesOn goesOn
  · intro program spent
    rw [same.cursor]
    exact early.rests program spent
  · obtain ⟨alone, timers, done, pose⟩ := early.pose
    exact ⟨alone, timers, done, same.pose.trans pose⟩

/-- One more step, while there is something left to do. -/
theorem StepsAlone.next (bounds : other.bounds = setting.bounds) (motion : other.motion = setting.motion)
    (early : actor.StepsAlone setting ticks between) (inside : ticks < actor.span)
    (late : between.StepsAlone other 1 moved) : actor.StepsAlone setting (ticks + 1) moved := by
  have left := early.goesOn inside
  have spans : between.span = max 1 (actor.remaining.length - ticks) := by
    rw [span, left, List.length_drop]
  have program := late.program.trans early.program
  refine ⟨program, ?_, ?_, ?_⟩
  · intro goesOn
    unfold span at goesOn
    rw [late.goesOn (by omega), left, List.drop_drop]
  · intro notEmpty spent
    unfold span at spent
    exact late.rests (early.program ▸ notEmpty) (by omega)
  · rw [List.take_add, ← left]
    exact early.pose.append bounds motion late.pose

/-- Behind its last step an actor rests. -/
theorem StepsAlone.rest (early : actor.StepsAlone setting ticks moved) (spent : actor.span ≤ ticks) :
    actor.StepsAlone setting (ticks + 1) moved := by
  refine ⟨early.program, fun goesOn => ?_, fun program _ => early.rests program spent, ?_⟩
  · omega
  · unfold span at spent
    have pose := early.pose
    rw [List.take_of_length_le (by omega)] at pose ⊢
    exact pose

end Actor

namespace Stage

/-- Ticks run, forced or as they fall due, while timers go off and the clock moves on. -/
inductive Runs : Stage → List TickReport → Stage → Prop
  | nothing {stage : Stage} : Runs stage [] stage
  | forced {stage after : Stage} {outcome : Outcome TickReport} {reports : List TickReport}
      (ticked : stage.tick = .ok outcome) (later : Runs outcome.stage reports after) :
      Runs stage (outcome.value :: reports) after
  | happens {stage between after : Stage} {happening : Happening} {reports : List TickReport}
      (happens : stage.Happens happening between) (later : Runs between reports after) :
      Runs stage (happening.report?.toList ++ reports) after
  | waits {stage after : Stage} {reports : List TickReport} (now : Duration)
      (later : Runs { stage with now } reports after) : Runs stage reports after

/-- Performs operations one after another, and collects the reports of the ticks. -/
def performReporting (stage : Stage) : List Operation → Except Fault (List TickReport × Stage)
  | [] => return ([], stage)
  | operation :: rest => do
    let outcome ← stage.perform operation
    let (reports, after) ← outcome.stage.performReporting rest
    return (outcome.value.tickReports ++ reports, after)

/-- The ticks that it takes an actor on the stage to finish. -/
def spanOf (stage : Stage) (id : ActorId) : Nat := max 1 (stage.load id)

/-- The ticks until the last of the scheduled actors has finished; one also if none is scheduled. -/
def span (stage : Stage) : Nat := (stage.playback.scheduled.ids.map stage.load).foldr max 1

/-- What some ticks make of a stage on which no programs are traded: the scheduled actors have gone on
alone, and those that have finished are off the schedule. -/
structure SoloAfter (start : Stage) (ticks : Nat) (now : Stage) : Prop where
  config : now.config = start.config
  cast : now.actors.map (·.id) = start.actors.map (·.id)
  running : now.isRunning = true ↔ ticks < start.span
  scheduled : now.playback.scheduled.ids =
    start.playback.scheduled.ids.filter fun id => ticks < start.spanOf id
  steps : ∀ id, id ∈ start.playback.scheduled → ∀ actor, start.actor? id = some actor →
    ∃ moved, now.actor? id = some moved ∧ actor.StepsAlone start.setting ticks moved
  others : ∀ id, ¬ id ∈ start.playback.scheduled → ∀ actor, start.actor? id = some actor →
    ∃ moved, now.actor? id = some moved ∧ actor.SameWork moved

/-- What the report of a tick says, by its number. -/
structure SoloReport (start : Stage) (number : Nat) (report : TickReport) : Prop where
  stepped : report.stepped = start.playback.scheduled.ids.filter fun id => number ≤ start.load id
  completed : report.completed = start.playback.scheduled.ids.filter fun id =>
    start.hasProgram id && decide (number = start.spanOf id)
  finished : report.finished = true ↔ number = start.span

variable {start stage now between after : Stage} {reports more : List TickReport} {ticks : Nat}
  {id : ActorId} {actor : Actor}

theorem spanOf_of_found (found : stage.actor? id = some actor) : stage.spanOf id = actor.span := by
  rw [spanOf, load_of_found found, Actor.span]

theorem lt_foldr_max {loads : List Nat} {n : Nat} :
    n < loads.foldr max 1 ↔ n = 0 ∨ ∃ load ∈ loads, n < load := by
  induction loads with
  | nil => simp
  | cons load rest ih =>
    have either : n < max load (rest.foldr max 1) ↔ n < load ∨ n < rest.foldr max 1 := by omega
    rw [List.foldr_cons, either, ih]
    simp only [List.mem_cons, or_and_right, exists_or, exists_eq_left]
    exact or_left_comm

theorem lt_span :
    ticks < stage.span ↔ ticks = 0 ∨ ∃ id, id ∈ stage.playback.scheduled ∧ ticks < stage.load id := by
  rw [span, lt_foldr_max]
  simp only [List.mem_map, exists_exists_and_eq_and, IdSet.mem_def]

theorem spanOf_le_span (member : id ∈ stage.playback.scheduled) : stage.spanOf id ≤ stage.span := by
  have some : 0 < stage.span := lt_span.mpr (.inl rfl)
  have reached : stage.load id ≤ stage.span :=
    Nat.le_of_not_lt fun later => Nat.lt_irrefl _ (lt_span.mpr (.inr ⟨id, member, later⟩))
  unfold spanOf
  omega

theorem soloAfter_zero (running : start.isRunning = true) : start.SoloAfter 0 start := by
  refine ⟨rfl, rfl, ?_, ?_, ?_, ?_⟩
  · exact iff_of_true running (lt_span.mpr (.inl rfl))
  · refine (List.filter_eq_self.mpr fun id _ => decide_eq_true ?_).symm
    unfold spanOf
    omega
  · exact fun id _ actor found => ⟨actor, found, actor.stepsAlone_zero start.setting⟩
  · exact fun id _ actor found => ⟨actor, found, .refl actor⟩

namespace SoloAfter

theorem mem_scheduled (solo : start.SoloAfter ticks now) :
    id ∈ now.playback.scheduled ↔ id ∈ start.playback.scheduled ∧ ticks < start.spanOf id := by
  rw [IdSet.mem_def, solo.scheduled, List.mem_filter, decide_eq_true_iff]
  rfl

theorem found (solo : start.SoloAfter ticks now) (castScheduled : start.CastScheduled)
    (member : id ∈ start.playback.scheduled) :
    ∃ actor moved, start.actor? id = some actor ∧ now.actor? id = some moved ∧
      actor.StepsAlone start.setting ticks moved := by
  obtain ⟨other, stands, rfl⟩ := castScheduled id member
  obtain ⟨actor, found⟩ := exists_actor? (List.mem_map_of_mem (f := (·.id)) stands)
  obtain ⟨moved, foundMoved, steps⟩ := solo.steps _ member actor found
  exact ⟨actor, moved, found, foundMoved, steps⟩

/-- What is left to do for an actor that is still on the schedule. -/
theorem load (solo : start.SoloAfter ticks now) (castScheduled : start.CastScheduled)
    (member : id ∈ start.playback.scheduled) (inside : ticks < start.spanOf id) :
    now.load id = start.load id - ticks := by
  obtain ⟨actor, moved, found, foundMoved, steps⟩ := solo.found castScheduled member
  rw [spanOf_of_found found] at inside
  rw [load_of_found found, load_of_found foundMoved, steps.goesOn inside, List.length_drop]

theorem load_iff (solo : start.SoloAfter ticks now) (castScheduled : start.CastScheduled)
    (member : id ∈ start.playback.scheduled) (claim : Nat → Prop) :
    (claim (now.load id) ∧ ticks < start.spanOf id) ↔
      (claim (start.load id - ticks) ∧ ticks < max 1 (start.load id)) :=
  and_congr_left fun inside => by rw [solo.load castScheduled member inside]

theorem hasProgram (solo : start.SoloAfter ticks now) (castScheduled : start.CastScheduled)
    (member : id ∈ start.playback.scheduled) : now.hasProgram id = start.hasProgram id := by
  obtain ⟨actor, moved, found, foundMoved, steps⟩ := solo.found castScheduled member
  simp only [Stage.hasProgram, found, foundMoved, Option.any_some, steps.program]

/-- Nothing changes when a bubble clears or the clock moves. -/
theorem kept (solo : start.SoloAfter ticks now) (config : after.config = now.config)
    (cast : after.actors.map (·.id) = now.actors.map (·.id)) (playback : after.playback = now.playback)
    (same : ∀ id actor, now.actor? id = some actor →
      ∃ twin, after.actor? id = some twin ∧ actor.SameWork twin) :
    start.SoloAfter ticks after := by
  refine ⟨config.trans solo.config, cast.trans solo.cast, ?_, ?_, ?_, ?_⟩
  · rw [isRunning, playback]
    exact solo.running
  · rw [playback]
    exact solo.scheduled
  · intro id member actor found
    obtain ⟨moved, foundMoved, steps⟩ := solo.steps id member actor found
    obtain ⟨twin, foundTwin, twinSame⟩ := same id moved foundMoved
    exact ⟨twin, foundTwin, steps.kept twinSame⟩
  · intro id outside actor found
    obtain ⟨moved, foundMoved, movedSame⟩ := solo.others id outside actor found
    obtain ⟨twin, foundTwin, twinSame⟩ := same id moved foundMoved
    exact ⟨twin, foundTwin, movedSame.trans twinSame⟩

/-- A tick without a trade takes every actor that is still on the schedule one step on. -/
theorem ticked {report : TickReport} (solo : start.SoloAfter ticks now)
    (castScheduled : start.CastScheduled) (running : now.isRunning = true)
    (tick : now.SoloTick report after) (config : after.config = now.config)
    (cast : after.actors.map (·.id) = now.actors.map (·.id)) :
    start.SoloAfter (ticks + 1) after ∧ start.SoloReport (ticks + 1) report := by
  have inside := solo.running.mp running
  -- Whoever has more than one command left stays; by its load at the start, whoever has not finished yet.
  have scheduled (id : ActorId) : id ∈ after.playback.scheduled ↔
      id ∈ start.playback.scheduled ∧ ticks + 1 < start.spanOf id := by
    rw [tick.scheduled, solo.mem_scheduled, and_assoc]
    refine and_congr_right fun member => ?_
    rw [and_comm, solo.load_iff castScheduled member (1 < ·), spanOf]
    omega
  have goesOn : after.isRunning = true ↔ ticks + 1 < start.span := by
    rw [tick.running, lt_span, or_iff_right (Nat.succ_ne_zero ticks)]
    refine exists_congr fun id => (scheduled id).trans (and_congr_right fun _ => ?_)
    unfold spanOf
    omega
  refine ⟨⟨config.trans solo.config, cast.trans solo.cast, goesOn, ?_, ?_, ?_⟩, ?_, ?_, ?_⟩
  · refine eq_of_increasing after.playback.scheduled.increasing
      (start.playback.scheduled.increasing.filter _) fun id => ?_
    rw [List.mem_filter, decide_eq_true_iff]
    exact scheduled id
  · intro id member actor found
    obtain ⟨between, foundBetween, steps⟩ := solo.steps id member actor found
    have spans := spanOf_of_found found
    by_cases still : ticks < actor.span
    · have there : id ∈ now.playback.scheduled := solo.mem_scheduled.mpr ⟨member, spans ▸ still⟩
      obtain ⟨moved, foundMoved, step⟩ := tick.steps id there between foundBetween
      refine ⟨moved, foundMoved, steps.next ?_ ?_ still step⟩
      · rw [setting, setting, bounds, bounds, solo.config]
      · rw [setting, setting, solo.config]
    · have gone : ¬ id ∈ now.playback.scheduled := fun there =>
        still (spans ▸ (solo.mem_scheduled.mp there).2)
      exact ⟨between, (tick.others id gone).trans foundBetween, steps.rest (Nat.le_of_not_lt still)⟩
  · intro id outside actor found
    obtain ⟨moved, foundMoved, same⟩ := solo.others id outside actor found
    have gone : ¬ id ∈ now.playback.scheduled := fun there => outside (solo.mem_scheduled.mp there).1
    exact ⟨moved, (tick.others id gone).trans foundMoved, same⟩
  · rw [tick.stepped, solo.scheduled, List.filter_filter]
    refine List.filter_congr fun id member => ?_
    rw [← Bool.decide_and, decide_eq_decide, solo.load_iff castScheduled member (0 < ·)]
    omega
  · rw [tick.completed, solo.scheduled, List.filter_filter]
    refine List.filter_congr fun id member => ?_
    rw [solo.hasProgram castScheduled member, Bool.and_assoc, ← Bool.decide_and]
    refine congrArg _ (decide_eq_decide.mpr ?_)
    rw [solo.load_iff castScheduled member (· ≤ 1), spanOf]
    omega
  · rw [tick.finished, Bool.not_eq_true', Bool.eq_false_iff, ne_eq, goesOn]
    omega

/-- A forced tick while playback is idle does nothing. -/
theorem idled (solo : start.SoloAfter ticks now) (idle : now.isRunning = false) (time : Duration) :
    start.SoloAfter (ticks + 1) now ∧ start.SoloReport (ticks + 1) { time } := by
  -- Every span has passed, so one more tick crosses none of the bounds that are compared with it.
  have spent : start.span ≤ ticks := by
    rw [← Nat.not_lt, ← solo.running, idle]
    exact Bool.false_ne_true
  have finished {id : ActorId} (member : id ∈ start.playback.scheduled) : start.spanOf id ≤ ticks :=
    Nat.le_trans (spanOf_le_span member) spent
  have nobody {test : ActorId → Bool} (none : ∀ id, id ∈ start.playback.scheduled → test id = false) :
      start.playback.scheduled.ids.filter test = [] :=
    List.filter_eq_nil_iff.mpr fun id member => by rw [none id member]; exact Bool.false_ne_true
  refine ⟨⟨solo.config, solo.cast, ?_, ?_, ?_, solo.others⟩, ?_, ?_, ?_⟩
  · rw [idle]
    exact iff_of_false Bool.false_ne_true (by omega)
  · rw [solo.scheduled, nobody, nobody]
    · intro id member
      exact decide_eq_false (by have := finished member; omega)
    · intro id member
      exact decide_eq_false (by have := finished member; omega)
  · intro id member actor found
    obtain ⟨moved, foundMoved, steps⟩ := solo.steps id member actor found
    exact ⟨moved, foundMoved, steps.rest (spanOf_of_found found ▸ finished member)⟩
  · refine (nobody fun id member => decide_eq_false ?_).symm
    have := finished member
    unfold spanOf at this
    omega
  · refine (nobody fun id member => ?_).symm
    have := finished member
    rw [decide_eq_false (by omega), Bool.and_false]
  · exact iff_of_false Bool.false_ne_true (by omega)

end SoloAfter

/-! ### Runs -/

theorem Runs.append (early : stage.Runs reports between) (late : between.Runs more after) :
    stage.Runs (reports ++ more) after := by
  induction early with
  | nothing => exact late
  | forced ticked _ ih => exact .forced ticked (ih late)
  | happens happens _ ih =>
    rw [List.append_assoc]
    exact .happens happens (ih late)
  | waits now _ ih => exact .waits now (ih late)

/-- A run may be cut behind any of its ticks. -/
theorem Runs.cut (run : stage.Runs reports after) {ticks : Nat} (inside : ticks ≤ reports.length) :
    ∃ middle, stage.Runs (reports.take ticks) middle ∧ middle.Runs (reports.drop ticks) after := by
  induction run generalizing ticks with
  | nothing =>
    rw [List.take_nil, List.drop_nil]
    exact ⟨_, .nothing, .nothing⟩
  | forced ticked later ih =>
    cases ticks with
    | zero => exact ⟨_, .nothing, .forced ticked later⟩
    | succ ticks =>
      obtain ⟨middle, early, late⟩ := ih (Nat.le_of_succ_le_succ inside)
      exact ⟨middle, .forced ticked early, late⟩
  | happens happens later ih =>
    cases happens with
    | cleared popped first =>
      obtain ⟨middle, early, late⟩ := ih inside
      exact ⟨middle, .happens (.cleared popped first) early, late⟩
    | ticked due first ran =>
      cases ticks with
      | zero => exact ⟨_, .nothing, .happens (.ticked due first ran) later⟩
      | succ ticks =>
        obtain ⟨middle, early, late⟩ := ih (Nat.le_of_succ_le_succ inside)
        exact ⟨middle, .happens (.ticked due first ran) early, late⟩
  | waits now later ih =>
    obtain ⟨middle, early, late⟩ := ih inside
    exact ⟨middle, .waits now early, late⟩

theorem runs_of_unfolds {target : Duration} {log : List Happening}
    (unfolds : stage.Unfolds target log after) : stage.Runs (log.filterMap Happening.report?) after := by
  induction unfolds with
  | nothing => exact .nothing
  | @next _ _ _ happening _ happens _ _ ih =>
    cases happening with
    | cleared => exact .happens happens ih
    | ticked => exact .happens happens ih

theorem runs_of_perform {operation : Operation} {outcome : Outcome Response}
    (period : 0 < stage.playback.period.nanos) (passes : operation.passesTime = true)
    (performed : stage.perform operation = .ok outcome) :
    stage.Runs outcome.value.tickReports outcome.stage := by
  cases operation with
  | tick =>
    obtain ⟨ticked, ticks, same⟩ := bind_eq_ok.mp performed
    cases same
    exact .forced ticks .nothing
  | advanceTime elapsed =>
    obtain ⟨advanced, advances, same⟩ := bind_eq_ok.mp performed
    cases same
    obtain ⟨log, last, unfolds, -, rfl⟩ := unfolds_of_advanceTime period advances
    have run := (runs_of_unfolds unfolds).append (.waits (stage.now.saturatingAdd elapsed) .nothing)
    rwa [List.append_nil] at run
  | _ => cases passes

theorem runs_of_performReporting {config : Config} {operations : List Operation}
    (reachable : ReachableWithRoom config stage)
    (pass : ∀ operation ∈ operations, operation.passesTime = true)
    (performed : stage.performReporting operations = .ok (reports, after)) : stage.Runs reports after := by
  induction operations generalizing stage reports with
  | nil =>
    cases performed
    exact .nothing
  | cons operation rest ih =>
    obtain ⟨outcome, first, performed⟩ := bind_eq_ok.mp performed
    obtain ⟨⟨others, last⟩, later, same⟩ := bind_eq_ok.mp performed
    cases same
    rw [List.forall_mem_cons] at pass
    have run := runs_of_perform reachable.period_pos pass.1 first
    have room := operation.hasRoom_of_keepsPrograms (operation.keepsPrograms_of_passesTime pass.1) stage
    exact run.append (ih (.step reachable room first) pass.2 later)

theorem SoloAfter.runTick {outcome : Outcome TickReport} (solo : start.SoloAfter ticks now)
    (castScheduled : start.CastScheduled) (distinct : (start.actors.map (·.id)).Nodup)
    (steady : now.Steady) (running : now.isRunning = true) (ran : now.runTick = .ok outcome)
    (quiet : outcome.value.swaps = []) :
    start.SoloAfter (ticks + 1) outcome.stage ∧ start.SoloReport (ticks + 1) outcome.value := by
  have distinctNow : (now.actors.map (·.id)).Nodup := solo.cast ▸ distinct
  have castNow := castScheduled_of_cast castScheduled solo.cast fun id member =>
    (solo.mem_scheduled.mp member).1
  exact solo.ticked castScheduled running (soloTick_of_runTick distinctNow steady castNow running ran quiet)
    (settled_of_changes (changes_runTick ran)).1 (exchanged_runTick distinctNow ran).cast

theorem SoloAfter.tick {outcome : Outcome TickReport} (solo : start.SoloAfter ticks now)
    (castScheduled : start.CastScheduled) (distinct : (start.actors.map (·.id)).Nodup)
    (steady : now.Steady) (ticked : now.tick = .ok outcome) (quiet : outcome.value.swaps = []) :
    start.SoloAfter (ticks + 1) outcome.stage ∧ start.SoloReport (ticks + 1) outcome.value := by
  unfold Stage.tick at ticked
  split at ticked
  · rename_i running
    exact solo.runTick castScheduled distinct steady running ticked quiet
  · rename_i idle
    cases ticked
    exact solo.idled (Bool.eq_false_iff.mpr idle) now.now

theorem SoloAfter.clockMoved (solo : start.SoloAfter ticks now) (time : Duration) :
    start.SoloAfter ticks { now with now := time } :=
  solo.kept rfl rfl rfl fun _ actor found => ⟨actor, found, .refl actor⟩

theorem SoloAfter.expired (solo : start.SoloAfter ticks now)
    (distinct : (start.actors.map (·.id)).Nodup) (timer : BubbleTimer) :
    start.SoloAfter ticks (now.expire timer).1 := by
  have cast := (exchanged_expire now timer).cast
  by_cases shows : now.Shows timer
  · rw [expire_of_shows shows] at cast ⊢
    obtain ⟨actor, -, found, -⟩ := shows
    obtain ⟨i, here, changed⟩ := modify_eq_put found
    have look := actor?_put (solo.cast ▸ distinct) here
      (show actor.withoutBubble.id = actor.id from rfl) now.timers
    rw [← changed Actor.withoutBubble, actor?_id found] at look
    refine solo.kept rfl cast rfl fun id other foundOther => ?_
    by_cases named : id = timer.actor
    · rw [named, found] at foundOther
      cases foundOther
      exact ⟨actor.withoutBubble, (look id).trans (if_pos named), rfl, rfl, rfl, rfl, rfl⟩
    · exact ⟨other, (look id).trans ((if_neg named).trans foundOther), .refl other⟩
  · rw [expire_of_stale shows]
    exact solo

/-- A run without trades: where it leads, and what its reports say. -/
structure SoloRun (start : Stage) (ticks : Nat) (reports : List TickReport) (after : Stage) : Prop where
  after : start.SoloAfter (ticks + reports.length) after
  reports : ∀ (i : Nat) report, reports[i]? = some report → start.SoloReport (ticks + i + 1) report

theorem SoloRun.quiet (solo : start.SoloAfter ticks after) : start.SoloRun ticks [] after :=
  ⟨solo, by simp⟩

theorem SoloRun.single {report : TickReport}
    (solo : start.SoloAfter (ticks + 1) after ∧ start.SoloReport (ticks + 1) report) :
    start.SoloRun ticks [report] after := by
  refine ⟨solo.1, fun i other here => ?_⟩
  cases i with
  | zero =>
    cases here
    exact solo.2
  | succ => cases here

theorem SoloRun.append (early : start.SoloRun ticks reports between)
    (late : start.SoloRun (ticks + reports.length) more after) :
    start.SoloRun ticks (reports ++ more) after := by
  refine ⟨?_, fun i report here => ?_⟩
  · rw [List.length_append, ← Nat.add_assoc]
    exact late.after
  · by_cases inside : i < reports.length
    · rw [List.getElem?_append_left inside] at here
      exact early.reports i report here
    · rw [List.getElem?_append_right (Nat.le_of_not_lt inside)] at here
      have number : ticks + reports.length + (i - reports.length) = ticks + i := by omega
      exact number ▸ late.reports (i - reports.length) report here

/-- What happens on its own, on a stage whose ticks trade nothing. -/
theorem soloRun_of_happens {happening : Happening} (solo : start.SoloAfter ticks now)
    (castScheduled : start.CastScheduled) (distinct : (start.actors.map (·.id)).Nodup)
    (steady : now.Steady) (happens : now.Happens happening after)
    (quiet : ∀ report ∈ happening.report?.toList, report.swaps = []) :
    start.SoloRun ticks happening.report?.toList after := by
  cases happens with
  | @cleared timer timers popped first =>
    have moved : start.SoloAfter ticks { now with timers, now := timer.deadline } :=
      solo.kept rfl rfl rfl fun _ actor found => ⟨actor, found, .refl actor⟩
    exact .quiet (moved.expired distinct timer)
  | @ticked time outcome due first ran =>
    have running : now.isRunning = true := by
      rw [isRunning, Playback.isRunning_eq_isSome, due]
      rfl
    exact .single ((solo.clockMoved time).runTick castScheduled distinct ⟨steady.ordered, steady.sound⟩
      running ran (quiet _ (List.mem_singleton_self _)))

theorem soloRun_of_runs (castScheduled : start.CastScheduled) (distinct : (start.actors.map (·.id)).Nodup)
    (solo : start.SoloAfter ticks now) (steady : now.Steady) (run : now.Runs reports after)
    (quiet : ∀ report ∈ reports, report.swaps = []) : start.SoloRun ticks reports after := by
  -- By induction on the run; what is left of it starts behind one tick more, or none.
  induction run generalizing ticks with
  | nothing => exact .quiet solo
  | forced ticked later ih =>
    rw [List.forall_mem_cons] at quiet
    have first := SoloRun.single (solo.tick castScheduled distinct steady ticked quiet.1)
    exact first.append (ih first.after (steady_of_changes (changes_tick ticked) steady) quiet.2)
  | happens happens later ih =>
    rw [List.forall_mem_append] at quiet
    have first := soloRun_of_happens solo castScheduled distinct steady happens quiet.1
    exact first.append (ih first.after (steady_of_changes (changes_of_happens happens) steady) quiet.2)
  | waits time later ih => exact ih (solo.clockMoved time) ⟨steady.ordered, steady.sound⟩ quiet

/-- Playback without trades is every scheduled program running alone, and it ends on time. Whichever
way ticks run, and however many, the scheduled actors are where their own next commands take them, one
for each tick; each is off the schedule, rewound and reported as completed, on the tick of its last
command, and playback is over on the last of these ticks, the only one that is reported to finish it.
Forced ticks and time passing in any order make such runs, and every tick on the way is one to stop
at. -/
theorem plays_alone {config : Config} (reachable : ReachableWithRoom config start)
    (running : start.isRunning = true) :
    (∀ reports after, start.Runs reports after → (∀ report ∈ reports, report.swaps = []) →
      start.SoloAfter reports.length after ∧
      ∀ (i : Nat) report, reports[i]? = some report → start.SoloReport (i + 1) report) ∧
    ∀ operations reports after, (∀ operation ∈ operations, operation.passesTime = true) →
      start.performReporting operations = .ok (reports, after) →
      start.Runs reports after ∧ ∀ ticks ≤ reports.length, ∃ middle,
        start.Runs (reports.take ticks) middle ∧ middle.Runs (reports.drop ticks) after := by
  refine ⟨fun reports after run quiet => ?_, fun operations reports after pass performed => ?_⟩
  · have solo := soloRun_of_runs (castScheduled_of_reachable reachable)
      (tidy_of_reachable reachable).distinct (soloAfter_zero running) (steady_of_reachable reachable)
      run quiet
    refine ⟨Nat.zero_add reports.length ▸ solo.after, fun i report here => ?_⟩
    exact Nat.zero_add i ▸ solo.reports i report here
  · have run := runs_of_performReporting reachable pass performed
    exact ⟨run, fun ticks inside => run.cut inside⟩

/-- A repeat takes four ticks, far from an actor with one command and one whose repeat is of no pass:
with the first tick forced, and the others in two seconds of time, playback is over on the fourth. -/
theorem plays_alone_four_ticks :
    let cat : ActorId := ⟨1, by decide⟩
    ∃ start reports after actor moved, ReachableWithRoom {} start ∧ start.isRunning = true ∧
      start.performReporting [.tick, .advanceTime (.ofMillis 2000)] = .ok (reports, after) ∧
      start.Runs reports after ∧ after.isRunning = false ∧
      (∀ (i : Nat) report, reports[i]? = some report → (report.finished = true ↔ i = 3)) ∧
      start.actor? cat = some actor ∧ after.actor? cat = some moved ∧ actor.remaining.length = 4 ∧
      actor.PosedBy start.setting actor.remaining moved := by
  intro cat
  obtain ⟨start, reachable, passes⟩ := exists_reachable {}
    [ .insertActor { id := cat, name := "Cat", x := -100, y := 0
                     program := [.repeatTimes 2 [.turn 10, .move 5]] },
      .insertActor { id := ⟨2, by decide⟩, name := "Dog", x := 50, y := 0, program := [.turn 30] },
      .insertActor { id := ⟨3, by decide⟩, name := "Owl", x := 200, y := 0
                     program := [.repeatTimes 0 [.turn 30]] },
      .play ]
    (fun stage => stage.isRunning && decide (stage.span = 4) && stage.isScheduled cat &&
      ((stage.actor? cat).any fun (actor : Actor) => decide (actor.remaining.length = 4)) &&
      (stage.performReporting [.tick, .advanceTime (.ofMillis 2000)]).toOption.any
        fun (run : List TickReport × Stage) =>
          decide (run.1.length = 4) && run.1.all fun report => report.swaps.isEmpty)
    rfl (by simp [Operation.hasRoom]) (by decide +kernel)
  simp only [Bool.and_eq_true, decide_eq_true_eq] at passes
  obtain ⟨⟨⟨⟨running, span⟩, scheduled⟩, anyActor⟩, runs⟩ := passes
  obtain ⟨actor, found, four⟩ := (Option.any_eq_true _ _).mp anyActor
  have left : actor.remaining.length = 4 := of_decide_eq_true four
  obtain ⟨⟨reports, after⟩, performed, runs⟩ := exists_outcome runs
  simp only [Bool.and_eq_true, decide_eq_true_eq] at runs
  obtain ⟨count, quiet⟩ := runs
  have untraded : ∀ report ∈ reports, report.swaps = [] := fun report member =>
    List.isEmpty_iff.mp (List.all_eq_true.mp quiet report member)
  obtain ⟨alone, runs⟩ := plays_alone reachable running
  obtain ⟨run, -⟩ := runs _ reports after (by simp [Operation.passesTime]) performed
  obtain ⟨solo, reported⟩ := alone reports after run untraded
  obtain ⟨moved, foundMoved, steps⟩ := solo.steps cat (of_decide_eq_true scheduled) actor found
  refine ⟨start, reports, after, actor, moved, reachable, running, performed, run, ?_, ?_, found,
    foundMoved, left, ?_⟩
  · rw [Bool.eq_false_iff, ne_eq, solo.running, count, span]
    decide
  · intro i report here
    rw [(reported i report here).finished, span]
    omega
  · have whole : actor.remaining.take reports.length = actor.remaining :=
      List.take_of_length_le (Nat.le_of_eq (left.trans count.symm))
    rw [← whole]
    exact steps.pose

end Stage

end SpriteStage
