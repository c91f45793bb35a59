import SpriteStage.Proofs.Stage.Exchanges
import SpriteStage.Proofs.Stage.Faults
import SpriteStage.Proofs.Stage.LiveEdits

/-!
# Ticks without trades

As long as no programs are traded, the turn of an actor concerns nobody else: it takes the actor one
step on in its own program, and off the schedule with the last one (`soloTurn`). So a tick without
trades gives every scheduled actor exactly one step, as if it were alone (`soloTick_of_runTick`).
-/

namespace SpriteStage

/-- Commands carried out on an actor that is alone lead to the pose of another. -/
def Actor.PosedBy (setting : Setting) (actor : Actor) (commands : List Command) (moved : Actor) : Prop :=
  ∃ alone timers, commands.foldlM (fun (actor, timers) command => command.apply setting actor timers)
    (actor, TimerQueue.empty) = .ok (alone, timers) ∧ moved.SamePose alone

/-- The ticks that what remains of an actor's program takes: one for each command, and one also if
there is none. -/
def Actor.span (actor : Actor) : Nat := max 1 actor.remaining.length

/-- What some ticks make of an actor that is alone: each carries out one command of what remains of
its program, which starts over when it has run out, and rests. -/
structure Actor.StepsAlone (setting : Setting) (actor : Actor) (ticks : Nat) (moved : Actor) : Prop where
  program : moved.program = actor.program
  goesOn : ticks < actor.span → moved.remaining = actor.remaining.drop ticks
  rests : actor.program ≠ [] → actor.span ≤ ticks → moved.cursor = .start
  pose : actor.PosedBy setting (actor.remaining.take ticks) moved

namespace Actor

variable {setting other : Setting} {actor twin moved : Actor}

theorem applyAll_samePose {commands : List Command} {timers later : TimerQueue}
    (bounds : other.bounds = setting.bounds) (motion : other.motion = setting.motion)
    (same : actor.SamePose twin)
    (done : commands.foldlM (fun (actor, timers) command => command.apply setting actor timers)
      (actor, timers) = .ok (moved, later)) (queue : TimerQueue) :
    ∃ after left, commands.foldlM (fun (actor, timers) command => command.apply other actor timers)
      (twin, queue) = .ok (after, left) ∧ moved.SamePose after := by
  induction commands generalizing actor twin timers queue with
  | nil =>
    cases done
    exact ⟨twin, queue, rfl, same⟩
  | cons command rest ih =>
    rw [List.foldlM_cons] at done
    obtain ⟨⟨between, left⟩, first, done⟩ := bind_eq_ok.mp done
    obtain ⟨betweenToo, leftToo, firstToo, sameBetween⟩ :=
      Command.apply_samePose bounds motion same first queue
    obtain ⟨after, last, others, sameAfter⟩ := ih sameBetween done leftToo
    exact ⟨after, last, bind_eq_ok.mpr ⟨_, firstToo, others⟩, sameAfter⟩

theorem PosedBy.nothing (setting : Setting) (same : moved.SamePose actor) :
    actor.PosedBy setting [] moved := ⟨actor, .empty, rfl, same⟩

/-- Commands in a row may be carried out in two goes, and other bubbles, timers or instants in between
make no difference. -/
theorem PosedBy.append {commands more : List Command} (bounds : other.bounds = setting.bounds)
    (motion : other.motion = setting.motion) (early : actor.PosedBy setting commands twin)
    (late : twin.PosedBy other more moved) : actor.PosedBy setting (commands ++ more) moved := by
  obtain ⟨alone, timers, first, same⟩ := early
  obtain ⟨between, left, second, sameBetween⟩ := late
  obtain ⟨after, last, again, sameAfter⟩ :=
    applyAll_samePose bounds.symm motion.symm same second timers
  refine ⟨after, last, ?_, sameBetween.trans sameAfter⟩
  rw [List.foldlM_append]
  exact bind_eq_ok.mpr ⟨_, first, again⟩

/-- A step takes the first of what remains, and it has finished the program if no other is left. -/
structure Advanced (setting : Setting) (actor : Actor) (outcome : StepOutcome) (moved : Actor) : Prop where
  id : moved.id = actor.id
  program : moved.program = actor.program
  remaining : moved.remaining = actor.remaining.drop 1
  exhausted : outcome = .exhausted ↔ actor.remaining.length = 0
  finished : moved.isFinished = true ↔ actor.remaining.length ≤ 1
  pose : actor.PosedBy setting (actor.remaining.take 1) moved

theorem advanced_of_advance {outcome : StepOutcome} {timers later : TimerQueue}
    (ordered : setting.bounds.Ordered) (sound : actor.Sound)
    (advanced : actor.advance setting timers = .ok (outcome, moved, later)) :
    actor.Advanced setting outcome moved := by
  cases work : actor.remaining with
  | nil =>
    obtain ⟨cursor, exhausts, nothing, behind⟩ := advance_of_nothing setting timers work
    rw [exhausts] at advanced
    cases advanced
    refine ⟨rfl, rfl, ?_, by simp [work], by simp [work, isFinished_iff, behind], ?_⟩
    · rw [work]
      exact nothing
    · rw [work]
      exact .nothing _ ⟨rfl, rfl, rfl⟩
  | cons command rest =>
    obtain ⟨between, left, cursor, applied, steps, others, behind⟩ :=
      advance_of_work ordered sound timers work
    rw [steps] at advanced
    cases advanced
    obtain ⟨id, -, program, -⟩ := Command.apply_frame applied
    refine ⟨id, program, ?_, ?_, ?_, ?_⟩
    · rw [work, remaining, program]
      exact others
    · rw [work]
      split <;> simp
    · rw [isFinished_iff, program, behind, work]
      simp
    · obtain ⟨alone, queue, appliedAlone, same⟩ :=
        Command.apply_samePose rfl rfl (.refl actor) applied TimerQueue.empty
      rw [work]
      exact ⟨alone, queue, bind_eq_ok.mpr ⟨_, appliedAlone, rfl⟩, ⟨same.x, same.y, same.heading⟩⟩

end Actor

namespace Stage

/-- The number of commands an actor on the stage still has to carry out. -/
def load (stage : Stage) (id : ActorId) : Nat :=
  ((stage.actor? id).map fun actor => actor.remaining.length).getD 0

theorem load_of_found {stage : Stage} {id : ActorId} {actor : Actor} (found : stage.actor? id = some actor) :
    stage.load id = actor.remaining.length := by
  rw [load, found]
  rfl

theorem setting_of_framed {stage after : Stage} (frame : Framed stage after) :
    after.setting = stage.setting := by
  simp only [setting, bounds, frame.config, frame.now]

end Stage

/-! ### Turns -/

namespace TickState

variable {tick after : TickState} {actor moved : Actor} {id : ActorId}

/-- Where resolving collisions reports no trade, it changes nothing. -/
theorem resolve_of_quiet (quiet : tick.resolve.report.swaps = tick.report.swaps) :
    tick.resolve.stage = tick.stage ∧ tick.resolve.report = tick.report := by
  let swaps := (selectSwaps tick.busy
    (collidingPairs tick.stage.config.collisionDistance tick.stage.actors)).1
  let trades := tradeAll swaps (tick.stage.actors, tick.stage.timers)
  have none : swaps = [] := List.append_right_eq_self.mp quiet
  have stage : tick.resolve.stage = swaps.foldl Stage.afterSwap
      { tick.stage with actors := trades.1, timers := trades.2 } := rfl
  have report : tick.resolve.report = { tick.report with swaps := tick.report.swaps ++ swaps } := rfl
  rw [stage, report]
  simp only [trades, none, tradeAll_nil, List.foldl_nil, List.append_nil, and_self]

theorem retire_of_unfinished (found : tick.stage.actor? id = some actor)
    (unfinished : actor.isFinished = false) : tick.retire id = tick := by
  simp [retire, found, unfinished]

/-- An actor whose program has run out starts over, off the schedule. -/
theorem retire_of_finished (distinct : (tick.stage.actors.map (·.id)).Nodup)
    (found : tick.stage.actor? id = some actor) (finished : actor.isFinished = true) :
    (∀ other, (tick.retire id).stage.actor? other =
      if other = id then some { actor with cursor := .start } else tick.stage.actor? other) ∧
    (tick.retire id).stage.playback = tick.stage.playback.unschedule id ∧
    (tick.retire id).report = { tick.report with completed := tick.report.completed ++ [id] } := by
  obtain ⟨i, here, changed⟩ := Stage.modify_eq_put found
  let reset : Actor := { actor with cursor := .start }
  have put := changed (fun actor => { actor with cursor := .start }) tick.stage.timers
  have look := Stage.actor?_put distinct here (show reset.id = actor.id from rfl) tick.stage.timers
  rw [Stage.actor?_id found] at look
  have retired : (tick.stage.actor? id).any Actor.isFinished = true := by rw [found]; exact finished
  rw [retire, if_pos retired]
  refine ⟨fun other => ?_, rfl, rfl⟩
  rw [← look other, ← put]
  rfl

/-- A turn in which no programs are traded takes the actor one step on in its own program, and off
the schedule with the last one. -/
structure SoloTurn (tick after : TickState) (id : ActorId) (actor : Actor) : Prop where
  self : ∃ moved, after.stage.actor? id = some moved ∧ actor.StepsAlone tick.stage.setting 1 moved
  others : ∀ other, other ≠ id → after.stage.actor? other = tick.stage.actor? other
  scheduled : ∀ other, other ∈ after.stage.playback.scheduled ↔
    other ∈ tick.stage.playback.scheduled ∧ (other = id → 1 < actor.remaining.length)
  stepped : after.report.stepped =
    tick.report.stepped ++ if 0 < actor.remaining.length then [id] else []
  completed : after.report.completed = tick.report.completed ++
    if actor.program ≠ [] ∧ actor.remaining.length ≤ 1 then [id] else []

theorem soloTurn_drop (found : tick.stage.actor? id = some actor) (bare : actor.program = []) :
    SoloTurn tick (tick.drop id) id actor := by
  have nothing := Actor.remaining_of_bare bare
  refine ⟨⟨actor, found, rfl, ?_, fun program => absurd bare program, ?_⟩, fun other _ => rfl,
    fun other => ?_, ?_, ?_⟩
  · simp [nothing]
  · rw [nothing]
    exact .nothing _ (.refl actor)
  · rw [nothing]
    show other ∈ (tick.stage.playback.unschedule id).scheduled ↔ _
    simp [Playback.mem_scheduled_unschedule]
  · simp [nothing, drop]
  · simp [bare, drop]

/-- Behind the step of an actor that led to no trade, nothing but this actor and the report of its step
has changed. -/
theorem moved_of_quiet (distinct : (tick.stage.actors.map (·.id)).Nodup)
    (found : tick.stage.actor? id = some actor) {outcome : StepOutcome} (timers : TimerQueue)
    (step : actor.Advanced tick.stage.setting outcome moved)
    (quiet : (tick.moved id outcome moved timers).resolve.report.swaps = tick.report.swaps) :
    (∀ other, (tick.moved id outcome moved timers).resolve.stage.actor? other =
      if other = id then some moved else tick.stage.actor? other) ∧
    (tick.moved id outcome moved timers).resolve.stage.playback = tick.stage.playback ∧
    (tick.moved id outcome moved timers).resolve.stage.actors.map (·.id) = tick.stage.actors.map (·.id) ∧
    (tick.moved id outcome moved timers).resolve.report = { tick.report with
      stepped := tick.report.stepped ++ if 0 < actor.remaining.length then [id] else [] } := by
  obtain ⟨i, here, changed⟩ := Stage.modify_eq_put found
  have stage : (tick.moved id outcome moved timers).stage = tick.stage.put i moved timers :=
    changed (fun _ => moved) timers
  have report := report_moved tick id outcome moved timers
  have swaps : (tick.moved id outcome moved timers).report.swaps = tick.report.swaps := by rw [report]
  obtain ⟨sameStage, sameReport⟩ := resolve_of_quiet (quiet.trans swaps.symm)
  have look := Stage.actor?_put distinct here step.id timers
  rw [Stage.actor?_id found, ← stage, ← sameStage] at look
  refine ⟨look, ?_, ?_, ?_⟩
  · rw [sameStage, stage]
    rfl
  · rw [sameStage, stage]
    exact Stage.map_set_same here step.id
  · rw [sameReport, report]
    by_cases exhausted : outcome = .exhausted
    · rw [if_pos exhausted, if_neg (by rw [step.exhausted.mp exhausted]; decide)]
    · rw [if_neg exhausted, if_pos (Nat.pos_of_ne_zero (exhausted ∘ step.exhausted.mpr))]

/-- The turn of an actor with a program: its step, and its retirement behind the last command. -/
theorem soloTurn_step (distinct : (tick.stage.actors.map (·.id)).Nodup) (steady : tick.stage.Steady)
    (found : tick.stage.actor? id = some actor) (program : actor.program ≠ []) {outcome : StepOutcome}
    {timers : TimerQueue}
    (advanced : actor.advance tick.stage.setting tick.stage.timers = .ok (outcome, moved, timers))
    (quiet : (tick.moved id outcome moved timers).resolve.report.swaps = tick.report.swaps) :
    SoloTurn tick ((tick.moved id outcome moved timers).resolve.retire id) id actor := by
  have step := Actor.advanced_of_advance steady.ordered
    (steady.sound actor (List.mem_of_find?_eq_some found)) advanced
  obtain ⟨look, playback, cast, report⟩ := moved_of_quiet distinct found timers step quiet
  have foundMoved := (look id).trans (if_pos rfl)
  cases finished : moved.isFinished with
  | false =>
    have more : 1 < actor.remaining.length := by
      rw [← Nat.not_le, ← step.finished, finished]
      exact Bool.false_ne_true
    rw [retire_of_unfinished foundMoved finished]
    refine ⟨⟨moved, foundMoved, step.program, fun _ => step.remaining, ?_, step.pose⟩, ?_, ?_, ?_, ?_⟩
    · intro _ few
      unfold Actor.span at few
      omega
    · intro other apart
      rw [look, if_neg apart]
    · intro other
      rw [playback]
      exact ⟨fun member => ⟨member, fun _ => more⟩, And.left⟩
    · rw [report]
    · have goesOn : ¬ (actor.program ≠ [] ∧ actor.remaining.length ≤ 1) := fun both => by omega
      rw [report, if_neg goesOn, List.append_nil]
  | true =>
    have few : actor.remaining.length ≤ 1 := step.finished.mp finished
    obtain ⟨lookAfter, playbackAfter, reportAfter⟩ :=
      retire_of_finished (cast ▸ distinct) foundMoved finished
    refine ⟨⟨{ moved with cursor := .start }, ?_, step.program, ?_, fun _ _ => rfl, ?_⟩, ?_, ?_, ?_, ?_⟩
    · rw [lookAfter, if_pos rfl]
    · intro more
      unfold Actor.span at more
      omega
    · obtain ⟨alone, queue, applied, same⟩ := step.pose
      exact ⟨alone, queue, applied, same.x, same.y, same.heading⟩
    · intro other apart
      rw [lookAfter, if_neg apart, look, if_neg apart]
    · intro other
      rw [playbackAfter, playback, Playback.mem_scheduled_unschedule]
      exact and_congr_right fun _ => ⟨fun apart same => absurd same apart, fun more same => by
        have := more same
        omega⟩
    · rw [reportAfter, report]
    · have ranOut : actor.program ≠ [] ∧ actor.remaining.length ≤ 1 := ⟨program, few⟩
      rw [reportAfter, report, if_pos ranOut]

/-- Without a trade a turn is a step in the actor's own program. -/
theorem soloTurn (distinct : (tick.stage.actors.map (·.id)).Nodup) (steady : tick.stage.Steady)
    (found : tick.stage.actor? id = some actor) (scheduled : id ∈ tick.stage.playback.scheduled)
    (turned : tick.turn id = .ok after) (quiet : after.report.swaps = tick.report.swaps) :
    SoloTurn tick after id actor := by
  have running : tick.stage.isRunning = true := Playback.isRunning_of_mem scheduled
  unfold turn at turned
  simp only [found, running, Bool.true_and] at turned
  split at turned
  · rename_i program
    obtain ⟨⟨outcome, moved, timers⟩, advanced, turned⟩ := bind_eq_ok.mp turned
    cases turned
    rw [swaps_retire] at quiet
    exact soloTurn_step distinct steady found (by simpa using program) advanced quiet
  · rename_i bare
    cases turned
    exact soloTurn_drop found (by simpa using bare)

/-- The turns of several actors without a trade: each of them takes one step in its own program. -/
structure SoloTurns (tick after : TickState) (ids : List ActorId) : Prop where
  steps : ∀ id ∈ ids, ∀ actor, tick.stage.actor? id = some actor →
    ∃ moved, after.stage.actor? id = some moved ∧ actor.StepsAlone tick.stage.setting 1 moved
  others : ∀ id, id ∉ ids → after.stage.actor? id = tick.stage.actor? id
  scheduled : ∀ id, id ∈ after.stage.playback.scheduled ↔
    id ∈ tick.stage.playback.scheduled ∧ (id ∈ ids → 1 < tick.stage.load id)
  stepped : after.report.stepped = tick.report.stepped ++ ids.filter fun id => 0 < tick.stage.load id
  completed : after.report.completed = tick.report.completed ++
    ids.filter fun id => tick.stage.hasProgram id && decide (tick.stage.load id ≤ 1)

/-- One turn, then those of others. -/
theorem SoloTurn.cons {next : TickState} {rest : List ActorId} (first : SoloTurn tick next id actor)
    (found : tick.stage.actor? id = some actor) (once : id ∉ rest)
    (setting : next.stage.setting = tick.stage.setting) (later : SoloTurns next after rest) :
    SoloTurns tick after (id :: rest) := by
  have apart {other : ActorId} (member : other ∈ rest) : other ≠ id := fun same => once (same ▸ member)
  have loads : ∀ other ∈ rest, next.stage.load other = tick.stage.load other := by
    intro other member
    rw [Stage.load, first.others other (apart member), Stage.load]
  have programs : ∀ other ∈ rest, next.stage.hasProgram other = tick.stage.hasProgram other := by
    intro other member
    rw [Stage.hasProgram, first.others other (apart member), Stage.hasProgram]
  have load := Stage.load_of_found found
  refine ⟨?_, ?_, ?_, ?_, ?_⟩
  · intro other member actor' found'
    rcases List.mem_cons.mp member with rfl | member
    · rw [found] at found'
      cases found'
      rw [later.others _ once]
      exact first.self
    · rw [← first.others other (apart member)] at found'
      rw [← setting]
      exact later.steps other member actor' found'
  · intro other outside
    rw [List.mem_cons, not_or] at outside
    rw [later.others other outside.2, first.others other outside.1]
  · intro other
    rw [later.scheduled, first.scheduled, and_assoc]
    refine and_congr_right fun _ => ?_
    by_cases same : other = id
    · subst same
      simp [once, load]
    · by_cases member : other ∈ rest
      · simp [same, member, loads other member]
      · simp [same, member]
  · rw [later.stepped, first.stepped, List.append_assoc, List.filter_cons, load,
      List.filter_congr fun other member => by rw [loads other member]]
    by_cases some : 0 < actor.remaining.length
    · simp [some]
    · simp [some]
  · rw [later.completed, first.completed, List.append_assoc, List.filter_cons, load,
      List.filter_congr fun other member => by rw [loads other member, programs other member]]
    by_cases bare : actor.program = []
    · simp [Stage.hasProgram, found, bare]
    · by_cases few : actor.remaining.length ≤ 1
      · simp [Stage.hasProgram, found, bare, few]
      · simp [Stage.hasProgram, found, bare, few]

theorem soloTurns {ids : List ActorId} (distinct : (tick.stage.actors.map (·.id)).Nodup)
    (steady : tick.stage.Steady) (once : ids.Nodup)
    (present : ∀ id ∈ ids, id ∈ tick.stage.playback.scheduled ∧ ∃ actor, tick.stage.actor? id = some actor)
    (turns : ids.foldlM (fun tick id => if tick.stage.isScheduled id then tick.turn id else return tick)
      tick = .ok after) (quiet : after.report.swaps = tick.report.swaps) :
    SoloTurns tick after ids := by
  induction ids generalizing tick with
  | nil =>
    cases turns
    exact ⟨by simp, fun _ _ => rfl, by simp, by simp, by simp⟩
  | cons id rest ih =>
    rw [List.nodup_cons] at once
    rw [List.forall_mem_cons] at present
    obtain ⟨⟨scheduled, actor, found⟩, others⟩ := present
    rw [List.foldlM_cons] at turns
    obtain ⟨next, turned, turns⟩ := bind_eq_ok.mp turns
    have isScheduled : tick.stage.isScheduled id = true := decide_eq_true scheduled
    rw [if_pos isScheduled] at turned
    have follows := follows_turn turned
    have frame := Stage.frame_of_touches follows.touches
    -- Trades are only ever added to the report, so neither the first turn nor the others made one.
    have quietFirst : next.report.swaps = tick.report.swaps := by
      refine (follows.swaps.eq_of_length_le ?_).symm
      rw [← quiet]
      exact (follows_turns turns).swaps.length_le
    have first := soloTurn distinct steady found scheduled turned quietFirst
    refine first.cons found once.1 (Stage.setting_of_framed frame) ?_
    refine ih (frame.cast ▸ distinct) (Stage.steady_of_touches follows.touches steady) once.2 ?_ turns
      (quiet.trans quietFirst.symm)
    intro other member
    obtain ⟨scheduledOther, foundOther⟩ := others other member
    have apart : other ≠ id := fun same => once.1 (same ▸ member)
    rw [first.others other apart]
    exact ⟨(first.scheduled other).mpr ⟨scheduledOther, fun same => absurd same apart⟩, foundOther⟩

end TickState

/-! ### Ticks -/

namespace Stage

/-- A tick without a trade: every scheduled actor takes one step in its own program, and those with
another command left stay scheduled. Playback goes on as long as there are any. -/
structure SoloTick (stage : Stage) (report : TickReport) (after : Stage) : Prop where
  steps : ∀ id, id ∈ stage.playback.scheduled → ∀ actor, stage.actor? id = some actor →
    ∃ moved, after.actor? id = some moved ∧ actor.StepsAlone stage.setting 1 moved
  others : ∀ id, ¬ id ∈ stage.playback.scheduled → after.actor? id = stage.actor? id
  scheduled : ∀ id, id ∈ after.playback.scheduled ↔ id ∈ stage.playback.scheduled ∧ 1 < stage.load id
  running : after.isRunning = true ↔ ∃ id, id ∈ after.playback.scheduled
  stepped : report.stepped = stage.playback.scheduled.ids.filter fun id => 0 < stage.load id
  completed : report.completed = stage.playback.scheduled.ids.filter fun id =>
    stage.hasProgram id && decide (stage.load id ≤ 1)
  finished : report.finished = !after.isRunning

variable {stage : Stage} {outcome : Outcome TickReport}

/-- After a tick, playback goes on exactly if somebody is left on the schedule. -/
theorem running_finishIfDrained (running : stage.isRunning = true) :
    (stage.finishIfDrained.1.isRunning = !stage.playback.isDrained) ∧
    (∀ id, id ∈ stage.finishIfDrained.1.playback.scheduled ↔ id ∈ stage.playback.scheduled) ∧
    (stage.finishIfDrained.1.isRunning = true ↔ ∃ id, id ∈ stage.playback.scheduled) := by
  rw [finishIfDrained_eq]
  by_cases drained : stage.playback.isDrained
  · have nobody := (Playback.isDrained_iff.mp drained).2
    rw [if_pos drained, drained]
    refine ⟨rfl, fun id => iff_of_false (IdSet.not_mem_empty id) (nobody id), ?_⟩
    exact iff_of_false (by exact Bool.false_ne_true) fun ⟨id, member⟩ => nobody id member
  · have somebody : ∃ id, id ∈ stage.playback.scheduled := by
      by_contra none
      exact drained (Playback.isDrained_iff.mpr ⟨running, not_exists.mp none⟩)
    rw [if_neg drained, Bool.eq_false_iff.mpr drained]
    exact ⟨running, fun id => Iff.rfl, iff_of_true running somebody⟩

theorem soloTick_of_runTick (distinct : (stage.actors.map (·.id)).Nodup) (steady : stage.Steady)
    (castScheduled : stage.CastScheduled) (running : stage.isRunning = true)
    (ran : stage.runTick = .ok outcome) (quiet : outcome.value.swaps = []) :
    stage.SoloTick outcome.value outcome.stage := by
  obtain ⟨ended, turns, ran⟩ := bind_eq_ok.mp ran
  obtain ⟨playback, planned, ran⟩ := bind_eq_ok.mp ran
  cases ran
  have once := nodup_of_increasing stage.playback.scheduled.increasing
  have present (id : ActorId) (member : id ∈ stage.playback.scheduled.ids) :
      id ∈ stage.playback.scheduled ∧ ∃ actor, stage.actor? id = some actor := by
    obtain ⟨actor, stands, same⟩ := castScheduled id member
    exact ⟨member, exists_actor? (same ▸ List.mem_map_of_mem stands)⟩
  have solo : TickState.SoloTurns { stage, report := { time := stage.now } } ended _ :=
    TickState.soloTurns distinct steady once present turns quiet
  have frame := frame_of_touches (TickState.follows_turns turns).touches
  obtain ⟨keptRunning, keptScheduled⟩ := Playback.tickCompleted_kept planned
  have still : ({ ended.stage with playback } : Stage).isRunning = true := by
    exact keptRunning.trans (frame.isRunning.trans running)
  obtain ⟨goesOn, sameScheduled, somebody⟩ := running_finishIfDrained still
  have look (id : ActorId) : ({ ended.stage with playback } : Stage).finishIfDrained.1.actor? id =
      ended.stage.actor? id := by
    rw [actor?, finishIfDrained_actors]
    rfl
  refine ⟨?_, ?_, ?_, ?_, ?_, ?_, ?_⟩
  · intro id member actor found
    show ∃ moved, ({ ended.stage with playback } : Stage).finishIfDrained.1.actor? id = some moved ∧ _
    rw [look]
    exact solo.steps id member actor found
  · intro id outside
    show ({ ended.stage with playback } : Stage).finishIfDrained.1.actor? id = _
    rw [look]
    exact solo.others id outside
  · intro id
    refine (sameScheduled id).trans ?_
    show id ∈ playback.scheduled ↔ _
    rw [keptScheduled, solo.scheduled]
    exact and_congr_right fun member => ⟨fun more => more member, fun more _ => more⟩
  · exact somebody.trans (exists_congr fun id => (sameScheduled id).symm)
  · exact solo.stepped
  · exact solo.completed
  · show playback.isDrained = !({ ended.stage with playback } : Stage).finishIfDrained.1.isRunning
    rw [goesOn, Bool.not_not]

end Stage

end SpriteStage
