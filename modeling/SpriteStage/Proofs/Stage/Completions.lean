import SpriteStage.Proofs.Stage.Turns

/-!
# Whose program is reported to have run out

Whether an actor is reported to have completed its program is decided at the end of its own turn, by
the program it holds then. If its own turn brings it no trade that is the program it came with, and it
has completed that if the step was the last (`Concluded.kept`). If its own turn brings it a trade, the
program it came with does not matter any more: it counts as completed exactly if the partner had no
program to give (`Concluded.traded`). Main statement: `completes_in_turn`.
-/

namespace SpriteStage

/-! ### The end of a turn -/

namespace TickState

variable {start : Stage} {tick after : TickState} {id : ActorId} {actor now : Actor}

/-- At the end of its turn an actor is reported if it is finished then. -/
theorem completed_turned (tick : TickState) (id : ActorId) (outcome : StepOutcome) (moved : Actor)
    (timers : TimerQueue) : ((tick.moved id outcome moved timers).resolve.retire id).report.completed =
      tick.report.completed ++
        if ((tick.moved id outcome moved timers).resolve.stage.actor? id).any Actor.isFinished then [id]
        else [] := by
  have before : (tick.moved id outcome moved timers).resolve.report.completed = tick.report.completed := by
    show (tick.moved id outcome moved timers).report.completed = _
    rw [report_moved]
  unfold retire
  split
  · rw [← before]
  · rw [← before, List.append_nil]

theorem program?_retire (distinct : (tick.stage.actors.map (·.id)).Nodup)
    (found : tick.stage.actor? id = some actor) :
    (tick.retire id).stage.program? id = some actor.program := by
  cases finished : actor.isFinished with
  | false =>
    rw [retire_of_unfinished found finished, Stage.program?, found]
    rfl
  | true =>
    rw [Stage.program?, (retire_of_finished distinct found finished).1 id, if_pos rfl]
    rfl

/-- The turn of an actor without a program at most takes it off the schedule. -/
theorem visit_of_bare (found : tick.stage.actor? id = some actor) (bare : actor.program = [])
    (visits : tick.visit id = .ok after) : after = tick ∨ after = tick.drop id := by
  unfold visit at visits
  split at visits
  · simp only [turn, found, bare, List.isEmpty_nil, Bool.not_true, Bool.and_false] at visits
    cases visits
    exact .inr rfl
  · cases visits
    exact .inl rfl

/-- What the turn of an actor comes to, which stands there as `now` when its turn comes. -/
structure Concluded (start : Stage) (now : Actor) (tick after : TickState) (own : List ActorPair) :
    Prop where
  trades : after.report.swaps = tick.report.swaps ++ own
  kept : (∀ pair ∈ own, ¬ pair.involves now.id = true) →
    after.stage.program? now.id = some now.program ∧ after.report.completed = tick.report.completed ++
      if now.program ≠ [] ∧ now.remaining.length ≤ 1 then [now.id] else []
  /-- Partners have the programs from the beginning of the tick. -/
  traded : ∀ pair ∈ own, pair.involves now.id = true → ∃ program,
    start.program? (pair.partner now.id) = some program ∧ after.stage.program? now.id = some program ∧
      after.report.completed = tick.report.completed ++ if program = [] then [now.id] else []

theorem concluded_of_bare (found : tick.stage.actor? now.id = some now) (bare : now.program = [])
    (visits : tick.visit now.id = .ok after) : Concluded start now tick after [] := by
  have same : after.report = tick.report ∧ after.stage.actor? now.id = some now := by
    rcases visit_of_bare found bare visits with rfl | rfl
    · exact ⟨rfl, found⟩
    · exact ⟨rfl, found⟩
  refine ⟨by rw [same.1, List.append_nil], fun _ => ⟨?_, ?_⟩, fun pair member => nomatch member⟩
  · rw [Stage.program?, same.2, Option.map_some]
  · simp [same.1, bare]

theorem concluded_of_stepped (distinct : (start.actors.map (·.id)).Nodup) (steady : start.Steady)
    (underway : Underway start tick) (running : tick.stage.isRunning = true)
    (found : tick.stage.actor? now.id = some now) (ready : now.program ≠ []) {moved : Actor}
    {outcome : StepOutcome} {timers : TimerQueue}
    (advanced : now.advance tick.stage.setting tick.stage.timers = .ok (outcome, moved, timers)) :
    ∃ own, Concluded start now tick ((tick.moved now.id outcome moved timers).resolve.retire now.id) own := by
  have steadyNow := Stage.steady_of_touches underway.touches steady
  have step := Actor.advanced_of_advance steadyNow.ordered
    (steadyNow.sound now (List.mem_of_find?_eq_some found)) advanced
  have balanced := balanced_moved underway.balanced found advanced
  have distinctMoved := balanced.distinct distinct
  have distinctResolved := (balanced_resolve distinct balanced).distinct distinct
  have look := (look_moved (underway.balanced.distinct distinct) found advanced now.id).trans (if_pos rfl)
  obtain ⟨own, resolved⟩ := resolved_resolve distinctMoved
    (show (tick.moved now.id outcome moved timers).stage.isRunning = true from running)
  obtain ⟨queue, trade⟩ := resolved.trade
  have ends {later : Actor}
      (found : (tick.moved now.id outcome moved timers).resolve.stage.actor? now.id = some later) :
      ((tick.moved now.id outcome moved timers).resolve.retire now.id).stage.program? now.id =
        some later.program ∧
      ((tick.moved now.id outcome moved timers).resolve.retire now.id).report.completed =
        tick.report.completed ++ if later.isFinished then [now.id] else [] := by
    refine ⟨program?_retire distinctResolved found, ?_⟩
    rw [completed_turned, found, Option.any_some]
  refine ⟨own, ?_, fun free => ?_, fun pair member involved => ?_⟩
  · rw [swaps_retire, resolved.report, report_moved]
  · obtain ⟨program, completed⟩ := ends (Stage.actor?_of_free distinctMoved trade look free)
    rw [step.program] at program
    refine ⟨program, completed.trans ?_⟩
    simp only [step.finished, ready, ne_eq, not_false_eq_true, true_and]
  · obtain ⟨partner, foundPartner, lookTraded⟩ :=
      Stage.actor?_of_traded distinctMoved trade look member involved
    obtain ⟨program, completed⟩ := ends lookTraded
    have unused := resolved.unused balanced member (pair.involves_partner now.id)
    refine ⟨partner.program, ?_, program, completed.trans ?_⟩
    · rw [← balanced.exchanged.kept _ unused, Stage.program?, foundPartner, Option.map_some]
    · simp [Actor.isFinished, Actor.rewound, Cursor.start]

/-- What is reported when the turn of an actor ends is decided by its trades. -/
theorem concluded_of_visit (distinct : (start.actors.map (·.id)).Nodup) (steady : start.Steady)
    (underway : Underway start tick) (waiting : Waiting start actor tick now)
    (scheduled : actor.id ∈ start.playback.scheduled) (visits : tick.visit actor.id = .ok after) :
    ∃ own, Concluded start now tick after own := by
  have same : now.id = actor.id := Stage.actor?_id waiting.found
  by_cases bare : now.program = []
  · exact ⟨[], concluded_of_bare (same ▸ waiting.found) bare (same ▸ visits)⟩
  · cases visited_of_visit visits with
    | skipped absent => exact absurd ((waiting.due scheduled).resolve_left absent) bare
    | dropped without => exact absurd (without now waiting.found) bare
    | stepped running found advanced =>
      rw [waiting.found, Option.some.injEq] at found
      subst found
      rw [← same]
      exact concluded_of_stepped distinct steady underway running (same ▸ waiting.found) bare advanced

/-- The completions that the turns of some actors report are of these actors, in their order. -/
theorem completed_of_visits {ids : List ActorId} (visits : ids.foldlM visit tick = .ok after) :
    ∃ more, after.report.completed = tick.report.completed ++ more ∧ more.Sublist ids := by
  induction ids generalizing tick with
  | nil =>
    cases visits
    exact ⟨[], by simp, .slnil⟩
  | cons id rest ih =>
    rw [List.foldlM_cons] at visits
    obtain ⟨next, first, visits⟩ := bind_eq_ok.mp visits
    obtain ⟨more, grown, among⟩ := ih visits
    obtain ⟨own, grownFirst, mine⟩ : ∃ own, next.report.completed = tick.report.completed ++ own ∧
        own.Sublist [id] := by
      cases visited_of_visit first with
      | skipped => exact ⟨[], by simp, List.nil_sublist _⟩
      | dropped => exact ⟨[], by simp [drop], List.nil_sublist _⟩
      | @stepped actor moved outcome timers running found advanced =>
        exact ⟨_, completed_turned tick id outcome moved timers, by split <;> simp⟩
    exact ⟨own ++ more, by rw [grown, grownFirst, List.append_assoc], mine.append among⟩

end TickState

namespace Stage

variable {stage : Stage} {id : ActorId} {actor : Actor}

/-- Who is reported to have completed its program in a tick. An actor comes to its turn with a program,
and the trades of the turn are those that it adds to the report. -/
structure CompletesInTurn (stage : Stage) (report : TickReport) : Prop where
  increasing : report.completed.Pairwise (· < ·)
  scheduled : ∀ id ∈ report.completed, id ∈ stage.playback.scheduled
  decided : ∀ id, id ∈ stage.playback.scheduled → ∃ early late actor own,
    stage.turns (stage.playback.scheduled.ids.filter (· < id)) = .ok early ∧
    early.visit id = .ok late ∧ early.stage.actor? id = some actor ∧
    late.report.swaps = early.report.swaps ++ own ∧ late.report.swaps <+: report.swaps ∧
    -- An actor that keeps its program has completed it with the last command.
    ((∀ pair ∈ own, ¬ pair.involves id = true) → late.stage.program? id = some actor.program ∧
      (id ∈ report.completed ↔ actor.program ≠ [] ∧ actor.remaining.length ≤ 1)) ∧
    -- For one that trades it matters only whether the partner had a program when the tick began.
    ∀ pair ∈ own, pair.involves id = true → ∃ program,
      stage.program? (pair.partner id) = some program ∧ late.stage.program? id = some program ∧
      (id ∈ report.completed ↔ program = [])

theorem completesInTurn_of_turns {ended : TickState} (distinct : (stage.actors.map (·.id)).Nodup)
    (steady : stage.Steady) (castScheduled : stage.CastScheduled)
    (turns : stage.turns stage.playback.scheduled.ids = .ok ended) :
    stage.CompletesInTurn ended.report := by
  obtain ⟨completed, is, among⟩ := TickState.completed_of_visits turns
  rw [List.nil_append] at is
  subst is
  refine ⟨stage.playback.scheduled.increasing.sublist among, fun id member => among.subset member, ?_⟩
  intro id scheduled
  obtain ⟨actor, stands, rfl⟩ := castScheduled id scheduled
  have found := actor?_of_distinct distinct stands
  obtain ⟨before, behind, split, below, notBefore, notBehind⟩ := exists_split scheduled
  rw [split, Stage.turns, List.foldlM_append] at turns
  obtain ⟨early, visitsBefore, turns⟩ := bind_eq_ok.mp turns
  rw [List.foldlM_cons] at turns
  obtain ⟨late, visit, visitsBehind⟩ := bind_eq_ok.mp turns
  have waiting : TickState.Waiting stage actor { stage, report := { time := stage.now } } actor :=
    ⟨found, .refl actor, (task_nil found).symm, .inl⟩
  obtain ⟨now, waits⟩ :=
    TickState.waiting_of_visits distinct (underway_start stage) visitsBefore notBefore waiting
  have same : now.id = actor.id := actor?_id waits.found
  obtain ⟨own, concluded⟩ := TickState.concluded_of_visit distinct steady
    (TickState.underway_of_visits distinct (underway_start stage) visitsBefore) waits scheduled visit
  -- Of all the completions that are reported only the one of this turn can be of this actor.
  obtain ⟨first, completedEarly, amongBefore⟩ := TickState.completed_of_visits visitsBefore
  obtain ⟨last, completedLate, amongBehind⟩ := TickState.completed_of_visits visitsBehind
  have reported {condition : Prop} [Decidable condition] (gained : late.report.completed =
      early.report.completed ++ if condition then [now.id] else []) :
      actor.id ∈ ended.report.completed ↔ condition := by
    have notFirst : ¬ actor.id ∈ first := fun member => notBefore (amongBefore.subset member)
    have notLast : ¬ actor.id ∈ last := fun member => notBehind (amongBehind.subset member)
    rw [completedLate, gained, completedEarly, same]
    by_cases holds : condition <;> simp [holds, notFirst, notLast]
  refine ⟨early, late, now, own, below ▸ visitsBefore, visit, waits.found, concluded.trades,
    (TickState.follows_turns visitsBehind).swaps, fun free => ?_, fun pair member involved => ?_⟩
  · obtain ⟨program, gained⟩ := concluded.kept (same ▸ free)
    exact ⟨same ▸ program, reported gained⟩
  · obtain ⟨program, ofPartner, holds, gained⟩ := concluded.traded pair member (same ▸ involved)
    exact ⟨program, same ▸ ofPartner, same ▸ holds, reported gained⟩

theorem completesInTurn_of_runTick {outcome : Outcome TickReport}
    (distinct : (stage.actors.map (·.id)).Nodup) (steady : stage.Steady)
    (castScheduled : stage.CastScheduled) (ran : stage.runTick = .ok outcome) :
    stage.CompletesInTurn outcome.value := by
  obtain ⟨ended, turns, ran⟩ := bind_eq_ok.mp ran
  obtain ⟨playback, -, ran⟩ := bind_eq_ok.mp ran
  cases ran
  obtain ⟨increasing, scheduled, decided⟩ :=
    completesInTurn_of_turns distinct steady castScheduled turns
  exact ⟨increasing, scheduled, decided⟩

/-- Those that a tick reports to have completed their programs were scheduled when it began. An actor
that has kept its program through its turn is reported exactly if it came to its turn with one command
left or none. One whose program was taken away by a trade of its own turn is reported exactly if the
partner had no program, however much of the own one was left. Short of the end of the clock a tick while
playback runs comes to an outcome, and the ticks on the way through time are of the same kind. -/
theorem completes_in_turn {config : Config} (reachable : ReachableWithRoom config stage) :
    (stage.isRunning = true → ¬ stage.playback.Overflows stage.now →
      ∃ outcome, stage.tick = .ok outcome ∧ stage.CompletesInTurn outcome.value) ∧
    ∀ elapsed, ∃ log last, stage.Elapses elapsed log last ∧
      ∀ before outcome, .ticked before outcome ∈ log → before.CompletesInTurn outcome.value := by
  have each {before : Stage} {outcome : Outcome TickReport} (poised : Poised before)
      (ran : before.runTick = .ok outcome) : before.CompletesInTurn outcome.value :=
    completesInTurn_of_runTick poised.distinct poised.steady poised.castScheduled ran
  constructor
  · intro running inTime
    obtain ⟨outcome, ticked, ran⟩ := exists_tick reachable running inTime
    exact ⟨outcome, ticked, each (poised_of_reachable reachable) ran⟩
  · intro elapsed
    obtain ⟨log, last, elapses, ticks⟩ := exists_ticks reachable elapsed
    refine ⟨log, last, elapses, fun before outcome member => ?_⟩
    obtain ⟨poised, ran⟩ := ticks before outcome member
    exact each poised ran

/-- In its turn the cat bumps into the dog and gets the program of the dog for its own one. The dog then
runs the first command of that, and the owl carries out its only one. Only the owl is reported. -/
theorem completes_in_turn_bump :
    let cat : ActorId := ⟨1, by decide⟩
    let dog : ActorId := ⟨2, by decide⟩
    let owl : ActorId := ⟨3, by decide⟩
    ∃ stage outcome, ReachableWithRoom {} stage ∧ stage.isRunning = true ∧
      ¬ stage.playback.Overflows stage.now ∧ stage.tick = .ok outcome ∧
      stage.CompletesInTurn outcome.value ∧ outcome.value.swaps = [.of cat dog] ∧
      outcome.value.completed = [owl] := by
  intro cat dog owl
  obtain ⟨stage, reachable, passes⟩ := exists_reachable {}
    [ .insertActor { id := cat, name := "Cat", x := 0, y := 0, program := [.turn 10, .turn 20] },
      .insertActor { id := dog, name := "Dog", x := 30, y := 0, program := [.turn 30] },
      .insertActor { id := owl, name := "Owl", x := 300, y := 0, program := [.turn 50] },
      .play ]
    (fun stage => stage.isRunning &&
      decide (stage.now.nanos + stage.playback.period.nanos ≤ maxNanos) &&
      stage.tick.toOption.any fun (outcome : Outcome TickReport) =>
        decide (outcome.value.swaps = [.of cat dog]) && decide (outcome.value.completed = [owl]))
    rfl (by simp [Operation.hasRoom]) (by decide +kernel)
  simp only [Bool.and_eq_true, decide_eq_true_eq] at passes
  obtain ⟨⟨running, room⟩, passes⟩ := passes
  have inTime : ¬ stage.playback.Overflows stage.now := Nat.not_lt.mpr room
  obtain ⟨outcome, ticked, completes⟩ := (completes_in_turn reachable).1 running inTime
  rw [ticked] at passes
  simp only [Except.toOption, Option.any_some, Bool.and_eq_true, decide_eq_true_eq] at passes
  exact ⟨stage, outcome, reachable, running, inTime, ticked, completes, passes.1, passes.2⟩

/-- The only actor on the schedule is reported to have completed its program, of which both commands
were left when its turn came, and of which one was left when a collision took it away. -/
theorem lost_program_completes :
    let cat : ActorId := ⟨1, by decide⟩
    let dog : ActorId := ⟨2, by decide⟩
    ∃ stage outcome, ReachableWithRoom {} stage ∧ stage.isRunning = true ∧
      stage.playback.scheduled.ids = [cat] ∧ stage.load cat = 2 ∧ stage.tick = .ok outcome ∧
      outcome.value.completed = [cat] ∧ outcome.value.swaps = [.of cat dog] ∧
      (outcome.stage.program? cat).map List.length = some 0 ∧
      (outcome.stage.program? dog).map List.length = some 2 := by
  intro cat dog
  obtain ⟨stage, reachable, passes⟩ := exists_reachable {}
    [ .insertActor { id := cat, name := "Cat", x := 0, y := 0, program := [.turn 10, .turn 20] },
      .insertActor { id := dog, name := "Dog", x := 30, y := 0 },
      .play ]
    (fun stage => stage.isRunning && decide (stage.playback.scheduled.ids = [cat]) &&
      decide (stage.load cat = 2) && stage.tick.toOption.any fun (outcome : Outcome TickReport) =>
        decide (outcome.value.completed = [cat]) && decide (outcome.value.swaps = [.of cat dog]) &&
        decide ((outcome.stage.program? cat).map List.length = some 0) &&
        decide ((outcome.stage.program? dog).map List.length = some 2))
    rfl (by simp [Operation.hasRoom]) (by decide +kernel)
  simp only [Bool.and_eq_true, decide_eq_true_eq] at passes
  obtain ⟨⟨⟨running, alone⟩, work⟩, passes⟩ := passes
  obtain ⟨outcome, ticked, passed⟩ := exists_outcome passes
  simp only [Bool.and_eq_true, decide_eq_true_eq] at passed
  obtain ⟨⟨⟨completed, swaps⟩, cats⟩, dogs⟩ := passed
  exact ⟨stage, outcome, reachable, running, alone, work, ticked, completed, swaps, cats, dogs⟩

end Stage

end SpriteStage
