import SpriteStage.Proofs.Collision.Matching
import SpriteStage.Proofs.Stage.Overflow
import SpriteStage.Proofs.Stage.SoloTicks

/-!
# One turn for everyone on the schedule

A tick goes once over the actors that are scheduled when it begins. What an actor has to do when its turn
comes is its task: what remains of its program, or the whole program it got in a trade since the tick
began. The turns and trades of others leave the pose of an actor alone, and its task but for that trade
(`Waiting`), and its own turn carries out the first command of the task (`served_of_visit`). Main
statement: `each_in_turn`.
-/

namespace SpriteStage

/-- The other actor of a pair. -/
def ActorPair.partner (pair : ActorPair) (id : ActorId) : ActorId :=
  if pair.first = id then pair.second else pair.first

theorem ActorPair.involves_partner (pair : ActorPair) (id : ActorId) :
    pair.involves (pair.partner id) = true := by
  rw [involves_iff, partner]
  split
  · exact .inr rfl
  · exact .inl rfl

/-- The turn of an actor, unless it has left the schedule. -/
def TickState.visit (tick : TickState) (id : ActorId) : Except Fault TickState :=
  if tick.stage.isScheduled id then tick.turn id else return tick

namespace Stage

/-- The turns of some actors, from the beginning of a tick. -/
def turns (stage : Stage) (ids : List ActorId) : Except Fault TickState :=
  ids.foldlM TickState.visit { stage, report := { time := stage.now } }

/-- What an actor has to do in a tick after some trades: the whole program its partner had when the tick
began, or, if it did not trade, what remained of its own. -/
def task (stage : Stage) (swaps : List ActorPair) (id : ActorId) : List Command :=
  match swaps.find? (·.involves id) with
  | some pair => ((stage.program? (pair.partner id)).getD []).flatMap Command.unfold
  | none => ((stage.actor? id).map Actor.remaining).getD []

variable {stage : Stage} {swaps more : List ActorPair} {pair : ActorPair} {id : ActorId} {actor : Actor}

theorem task_nil (found : stage.actor? id = some actor) : stage.task [] id = actor.remaining := by
  rw [task, List.find?_nil, found]
  rfl

/-- Trades of others leave a task alone. -/
theorem task_append_of_free (free : ∀ pair ∈ more, ¬ pair.involves id = true) :
    stage.task (swaps ++ more) id = stage.task swaps id := by
  have none : more.find? (·.involves id) = none := List.find?_eq_none.mpr free
  rw [task, List.find?_append, none, Option.or_none, task]

/-- Whoever trades for the first time has the program of its partner for a task. -/
theorem task_append_of_traded (free : ∀ pair ∈ swaps, ¬ pair.involves id = true)
    (traded : ∃ pair ∈ more, pair.involves id = true) : ∃ pair ∈ more, pair.involves id = true ∧
      stage.task (swaps ++ more) id =
        ((stage.program? (pair.partner id)).getD []).flatMap Command.unfold := by
  have none : swaps.find? (·.involves id) = none := List.find?_eq_none.mpr free
  obtain ⟨pair, found⟩ := Option.isSome_iff_exists.mp (List.find?_isSome.mpr traded)
  have involved := List.find?_some found
  refine ⟨pair, List.mem_of_find?_eq_some found, involved, ?_⟩
  rw [task, List.find?_append, none, Option.none_or, found]

/-! ### Trades, seen from one actor -/

section

variable {after : Stage} {timers queue : TimerQueue}

theorem actor?_of_free (distinct : (stage.actors.map (·.id)).Nodup)
    (trade : Traded swaps stage.actors after.actors timers queue) (found : stage.actor? id = some actor)
    (free : ∀ pair ∈ swaps, ¬ pair.involves id = true) : after.actor? id = some actor := by
  obtain ⟨i, here⟩ := List.mem_iff_getElem?.mp (List.mem_of_find?_eq_some found)
  have same := actor?_id found
  rw [← same] at free ⊢
  exact actor?_of_distinct (trade.cast ▸ distinct) (List.mem_of_getElem? (trade.kept i actor here free))

/-- Whoever trades starts over with the program of the partner. -/
theorem actor?_of_traded (distinct : (stage.actors.map (·.id)).Nodup)
    (trade : Traded swaps stage.actors after.actors timers queue) (found : stage.actor? id = some actor)
    (member : pair ∈ swaps) (involved : pair.involves id = true) :
    ∃ partner, stage.actor? (pair.partner id) = some partner ∧
      after.actor? id = some { actor.rewound with program := partner.program } := by
  obtain ⟨i, j, first, second, -, here, firstId, there, secondId, given, taken⟩ :=
    trade.exchanged pair member
  have distinctAfter : (after.actors.map (·.id)).Nodup := trade.cast ▸ distinct
  have foundFirst := actor?_of_distinct distinct (List.mem_of_getElem? here)
  have foundSecond := actor?_of_distinct distinct (List.mem_of_getElem? there)
  have givenFirst := actor?_of_distinct distinctAfter (List.mem_of_getElem? given)
  have takenSecond := actor?_of_distinct distinctAfter (List.mem_of_getElem? taken)
  rw [firstId] at foundFirst
  rw [secondId] at foundSecond
  by_cases isFirst : pair.first = id
  · rw [isFirst, found, Option.some.injEq] at foundFirst
    subst foundFirst
    refine ⟨second, ?_, ?_⟩
    · rw [ActorPair.partner, if_pos isFirst, foundSecond]
    · rw [← actor?_id found]
      exact givenFirst
  · have isSecond : pair.second = id := (ActorPair.involves_iff.mp involved).resolve_left isFirst
    rw [isSecond, found, Option.some.injEq] at foundSecond
    subst foundSecond
    refine ⟨first, ?_, ?_⟩
    · rw [ActorPair.partner, if_neg isFirst, foundFirst]
    · rw [← actor?_id found]
      exact takenSecond

theorem mem_scheduled_afterSwaps (running : stage.isRunning = true) :
    id ∈ (swaps.foldl afterSwap stage).playback.scheduled ↔
      (∃ pair ∈ swaps, pair.involves id = true) ∧ stage.hasProgram id = true ∨
        (¬ ∃ pair ∈ swaps, pair.involves id = true) ∧ id ∈ stage.playback.scheduled := by
  induction swaps generalizing stage with
  | nil => simp
  | cons pair rest ih =>
    have still : (stage.afterSwap pair).isRunning = true := by simpa [afterSwap] using running
    have program : (stage.afterSwap pair).hasProgram id = stage.hasProgram id := by simp [afterSwap]
    rw [List.foldl_cons, ih still, mem_scheduled_afterSwap running, program]
    rw [List.exists_mem_cons_iff]
    by_cases involved : pair.involves id = true
    · by_cases later : ∃ pair ∈ rest, pair.involves id = true
      · simp only [involved, later, true_or, true_and, not_true, false_and, or_false]
      · simp only [involved, later, true_and, not_true, false_and, or_false, false_or, not_false_eq_true]
    · simp only [involved, false_or, false_and, not_false_eq_true, true_and, Bool.false_eq_true]

end

end Stage

/-! ### What a turn leaves alone -/

namespace TickState

variable {tick after : TickState} {id other : ActorId} {actor : Actor} {swaps : List ActorPair}

/-- What resolving collisions does to a tick: free actors trade, and those of them that have a program
then are on the schedule. -/
structure Resolved (tick after : TickState) (swaps : List ActorPair) : Prop where
  report : after.report = { tick.report with swaps := tick.report.swaps ++ swaps }
  free : ∀ pair ∈ swaps, ∀ id, pair.involves id = true → ¬ id ∈ tick.busy
  trade : ∃ queue, Traded swaps tick.stage.actors after.stage.actors tick.stage.timers queue
  scheduled : ∀ id, id ∈ after.stage.playback.scheduled ↔
    (∃ pair ∈ swaps, pair.involves id = true) ∧ after.stage.hasProgram id = true ∨
      (¬ ∃ pair ∈ swaps, pair.involves id = true) ∧ id ∈ tick.stage.playback.scheduled

theorem resolved_resolve (distinct : (tick.stage.actors.map (·.id)).Nodup)
    (running : tick.stage.isRunning = true) : ∃ swaps, Resolved tick tick.resolve swaps := by
  let pairs := collidingPairs tick.stage.config.collisionDistance tick.stage.actors
  let swaps := (selectSwaps tick.busy pairs).1
  let trades := tradeAll swaps (tick.stage.actors, tick.stage.timers)
  let traded : Stage := { tick.stage with actors := trades.1, timers := trades.2 }
  have stage : tick.resolve.stage = swaps.foldl Stage.afterSwap traded := rfl
  have trade : Traded swaps tick.stage.actors trades.1 tick.stage.timers trades.2 :=
    traded_tradeAll distinct (pairwise_selectSwaps _ _)
      (fun pair member => present_of_mem_collidingPairs distinct ((selectSwaps_sublist _ _).subset member)) _
  refine ⟨swaps, rfl, fun pair member id => free_of_mem_selectSwaps member, ⟨trades.2, ?_⟩, fun id => ?_⟩
  · rw [stage, afterSwaps_frame]
    exact trade
  · have program : tick.resolve.stage.hasProgram id = traded.hasProgram id := by
      rw [stage, afterSwaps_frame]
      rfl
    rw [program, stage]
    exact @Stage.mem_scheduled_afterSwaps traded swaps id running

/-- A turn in which an actor other than the one it belongs to is not so much as looked at. -/
structure Aside (id : ActorId) (tick after : TickState) : Prop where
  look : after.stage.actor? id = tick.stage.actor? id
  swaps : after.report.swaps = tick.report.swaps
  scheduled : id ∈ tick.stage.playback.scheduled → id ∈ after.stage.playback.scheduled

theorem aside_drop (tick : TickState) (apart : other ≠ id) : Aside other tick (tick.drop id) :=
  ⟨rfl, rfl, fun member => Playback.mem_scheduled_unschedule.mpr ⟨member, apart⟩⟩

theorem look_moved (distinct : (tick.stage.actors.map (·.id)).Nodup)
    (found : tick.stage.actor? id = some actor) {outcome : StepOutcome} {moved : Actor} {timers : TimerQueue}
    (advanced : actor.advance tick.stage.setting tick.stage.timers = .ok (outcome, moved, timers))
    (other : ActorId) : (tick.moved id outcome moved timers).stage.actor? other =
      if other = id then some moved else tick.stage.actor? other := by
  obtain ⟨i, here, changed⟩ := Stage.modify_eq_put found
  have look := Stage.actor?_put distinct here (Actor.advance_frame advanced).1 timers other
  rwa [Stage.actor?_id found, ← changed (fun _ => moved)] at look

theorem aside_moved (distinct : (tick.stage.actors.map (·.id)).Nodup)
    (found : tick.stage.actor? id = some actor) {outcome : StepOutcome} {moved : Actor} {timers : TimerQueue}
    (advanced : actor.advance tick.stage.setting tick.stage.timers = .ok (outcome, moved, timers))
    (apart : other ≠ id) : Aside other tick (tick.moved id outcome moved timers) :=
  ⟨(look_moved distinct found advanced other).trans (if_neg apart), by rw [report_moved], fun member => member⟩

theorem aside_retire (distinct : (tick.stage.actors.map (·.id)).Nodup) (apart : other ≠ id) :
    Aside other tick (tick.retire id) := by
  cases found : tick.stage.actor? id with
  | none =>
    rw [retire, found, Option.any_none]
    exact ⟨rfl, rfl, fun member => member⟩
  | some actor =>
    cases finished : actor.isFinished with
    | false =>
      rw [retire_of_unfinished found finished]
      exact ⟨rfl, rfl, fun member => member⟩
    | true =>
      obtain ⟨look, playback, report⟩ := retire_of_finished distinct found finished
      refine ⟨(look other).trans (if_neg apart), by rw [report], fun member => ?_⟩
      rw [playback]
      exact Playback.mem_scheduled_unschedule.mpr ⟨member, apart⟩

/-- What becomes of a tick when the turn of an actor comes. -/
inductive Visited (tick : TickState) (id : ActorId) : TickState → Prop
  /-- The actor has left the schedule. -/
  | skipped (absent : ¬ id ∈ tick.stage.playback.scheduled) : Visited tick id tick
  /-- The actor has no program. -/
  | dropped (bare : ∀ actor, tick.stage.actor? id = some actor → actor.program = []) :
      Visited tick id (tick.drop id)
  | stepped {actor moved : Actor} {outcome : StepOutcome} {timers : TimerQueue}
      (running : tick.stage.isRunning = true) (found : tick.stage.actor? id = some actor)
      (advanced : actor.advance tick.stage.setting tick.stage.timers = .ok (outcome, moved, timers)) :
      Visited tick id ((tick.moved id outcome moved timers).resolve.retire id)

theorem visited_of_visit (visits : tick.visit id = .ok after) : Visited tick id after := by
  unfold visit at visits
  split at visits
  · rename_i scheduled
    have running : tick.stage.isRunning = true := Playback.isRunning_of_mem (of_decide_eq_true scheduled)
    unfold turn at visits
    cases found : tick.stage.actor? id with
    | none =>
      rw [found] at visits
      cases visits
      exact .dropped fun actor present => by rw [found] at present; cases present
    | some actor =>
      simp only [found, running, Bool.true_and] at visits
      split at visits
      · obtain ⟨⟨outcome, moved, timers⟩, advanced, visits⟩ := bind_eq_ok.mp visits
        cases visits
        exact .stepped running found advanced
      · rename_i bare
        cases visits
        refine .dropped fun other present => ?_
        rw [found, Option.some.injEq] at present
        simpa [← present] using bare
  · rename_i absent
    cases visits
    exact .skipped fun member => absent (decide_eq_true member)

/-- A tick under way since it began on a stage. -/
structure Underway (start : Stage) (tick : TickState) : Prop where
  balanced : Balanced start tick
  touches : Stage.Touches start tick.stage

section

variable {start : Stage}

theorem Balanced.distinct (balanced : Balanced start tick) (distinct : (start.actors.map (·.id)).Nodup) :
    (tick.stage.actors.map (·.id)).Nodup := balanced.exchanged.cast ▸ distinct

theorem underway_of_visit (distinct : (start.actors.map (·.id)).Nodup) (underway : Underway start tick)
    (visits : tick.visit id = .ok after) : Underway start after := by
  unfold visit at visits
  split at visits
  · exact ⟨balanced_turn distinct underway.balanced visits,
      underway.touches.trans (follows_turn visits).touches⟩
  · cases visits
    exact underway

/-- What neither breaks while an actor is left aside nor when collisions are resolved, the turn of
another actor does not break. -/
theorem keeps_of_visited (keeps : TickState → Prop) (distinct : (start.actors.map (·.id)).Nodup)
    (aside : ∀ {tick after}, Aside other tick after → keeps tick → keeps after)
    (resolves : ∀ {tick}, Balanced start tick → tick.stage.isRunning = true → keeps tick → keeps tick.resolve)
    (balanced : Balanced start tick) (visited : Visited tick id after) (apart : other ≠ id)
    (kept : keeps tick) : keeps after := by
  cases visited with
  | skipped => exact kept
  | dropped => exact aside (aside_drop tick apart) kept
  | stepped running found advanced =>
    have balancedMoved := balanced_moved balanced found advanced
    have keptMoved := aside (aside_moved (balanced.distinct distinct) found advanced apart) kept
    have distinctResolved := (balanced_resolve distinct balancedMoved).distinct distinct
    exact aside (aside_retire distinctResolved apart) (resolves balancedMoved running keptMoved)

theorem keeps_of_visits (keeps : TickState → Prop) {ids : List ActorId}
    (distinct : (start.actors.map (·.id)).Nodup)
    (aside : ∀ {tick after}, Aside other tick after → keeps tick → keeps after)
    (resolves : ∀ {tick}, Balanced start tick → tick.stage.isRunning = true → keeps tick → keeps tick.resolve)
    (underway : Underway start tick) (visits : ids.foldlM visit tick = .ok after) (outside : ¬ other ∈ ids)
    (kept : keeps tick) : keeps after := by
  induction ids generalizing tick with
  | nil =>
    cases visits
    exact kept
  | cons id rest ih =>
    rw [List.mem_cons, not_or] at outside
    rw [List.foldlM_cons] at visits
    obtain ⟨next, first, visits⟩ := bind_eq_ok.mp visits
    have keptNext := keeps_of_visited keeps distinct aside resolves underway.balanced (visited_of_visit first)
      outside.1 kept
    exact ih (underway_of_visit distinct underway first) visits outside.2 keptNext

/-- An actor that has yet to take its turn stands as it stood, has its task before it, and is on the
schedule if it was, unless it lost its program. -/
structure Waiting (start : Stage) (actor : Actor) (tick : TickState) (now : Actor) : Prop where
  found : tick.stage.actor? actor.id = some now
  pose : now.SamePose actor
  work : now.remaining = start.task tick.report.swaps actor.id
  due : actor.id ∈ start.playback.scheduled →
    actor.id ∈ tick.stage.playback.scheduled ∨ now.program = []

theorem Waiting.aside {now : Actor} (aside : Aside actor.id tick after)
    (waiting : Waiting start actor tick now) : Waiting start actor after now := by
  refine ⟨aside.look.trans waiting.found, waiting.pose, ?_, fun scheduled => ?_⟩
  · rw [aside.swaps]
    exact waiting.work
  · exact (waiting.due scheduled).imp_left aside.scheduled

/-- Whoever trades now was in no trade of the tick before. -/
theorem Resolved.unused {pair : ActorPair} (resolved : Resolved tick after swaps)
    (balanced : Balanced start tick) (member : pair ∈ swaps) (involved : pair.involves id = true) :
    ∀ earlier ∈ tick.report.swaps, ¬ earlier.involves id = true := fun earlier among takesPart =>
  resolved.free pair member id involved ((balanced.busy id).mpr ⟨earlier, among, takesPart⟩)

/-- After a trade an actor has the program of its partner before it, from the top. -/
theorem Waiting.of_traded {now : Actor} (distinct : (tick.stage.actors.map (·.id)).Nodup)
    (balanced : Balanced start tick) (resolved : Resolved tick after swaps)
    (waiting : Waiting start actor tick now) (traded : ∃ pair ∈ swaps, pair.involves actor.id = true) :
    ∃ later, Waiting start actor after later := by
  obtain ⟨queue, trade⟩ := resolved.trade
  obtain ⟨first, firstIn, firstInvolved⟩ := id traded
  obtain ⟨pair, member, involved, task⟩ := start.task_append_of_traded
    (resolved.unused balanced firstIn firstInvolved) traded
  obtain ⟨partner, foundPartner, look⟩ :=
    Stage.actor?_of_traded distinct trade waiting.found member involved
  have program : start.program? (pair.partner actor.id) = some partner.program := by
    have unused := resolved.unused balanced member (pair.involves_partner actor.id)
    rw [← balanced.exchanged.kept _ unused, Stage.program?, foundPartner, Option.map_some]
  refine ⟨_, look, ⟨waiting.pose.x, waiting.pose.y, waiting.pose.heading⟩, ?_, fun _ => ?_⟩
  · rw [resolved.report, task, program]
    exact Cursor.remaining_start _
  · by_cases bare : partner.program = []
    · exact .inr bare
    · refine .inl ((resolved.scheduled _).mpr (.inl ⟨⟨pair, member, involved⟩, ?_⟩))
      simpa [Stage.hasProgram, look] using bare

/-- Trades of others leave an actor waiting as it did. -/
theorem Waiting.of_free {now : Actor} (distinct : (tick.stage.actors.map (·.id)).Nodup)
    (resolved : Resolved tick after swaps) (waiting : Waiting start actor tick now)
    (untraded : ¬ ∃ pair ∈ swaps, pair.involves actor.id = true) : Waiting start actor after now := by
  obtain ⟨queue, trade⟩ := resolved.trade
  have free : ∀ pair ∈ swaps, ¬ pair.involves actor.id = true := fun pair member involved =>
    untraded ⟨pair, member, involved⟩
  have found := Stage.actor?_of_free distinct trade waiting.found free
  refine ⟨found, waiting.pose, ?_, fun scheduled => ?_⟩
  · rw [resolved.report, Stage.task_append_of_free free]
    exact waiting.work
  · exact (waiting.due scheduled).imp_left fun member => (resolved.scheduled _).mpr (.inr ⟨untraded, member⟩)

theorem Waiting.resolve {now : Actor} (distinct : (start.actors.map (·.id)).Nodup)
    (balanced : Balanced start tick) (running : tick.stage.isRunning = true)
    (waiting : Waiting start actor tick now) : ∃ later, Waiting start actor tick.resolve later := by
  have distinctNow := balanced.distinct distinct
  obtain ⟨swaps, resolved⟩ := resolved_resolve distinctNow running
  by_cases traded : ∃ pair ∈ swaps, pair.involves actor.id = true
  · exact waiting.of_traded distinctNow balanced resolved traded
  · exact ⟨now, waiting.of_free distinctNow resolved traded⟩

/-- Trades leave poses alone. -/
theorem pose_resolve (distinct : (tick.stage.actors.map (·.id)).Nodup) (running : tick.stage.isRunning = true)
    (found : tick.stage.actor? id = some actor) :
    ∃ later, tick.resolve.stage.actor? id = some later ∧ later.SamePose actor := by
  obtain ⟨swaps, resolved⟩ := resolved_resolve distinct running
  obtain ⟨queue, trade⟩ := resolved.trade
  by_cases traded : ∃ pair ∈ swaps, pair.involves id = true
  · obtain ⟨pair, member, involved⟩ := traded
    obtain ⟨partner, -, look⟩ := Stage.actor?_of_traded distinct trade found member involved
    exact ⟨_, look, ⟨rfl, rfl, rfl⟩⟩
  · have look := Stage.actor?_of_free distinct trade found fun pair member involved =>
      traded ⟨pair, member, involved⟩
    exact ⟨actor, look, .refl actor⟩

theorem pose_retire (distinct : (tick.stage.actors.map (·.id)).Nodup)
    (found : tick.stage.actor? id = some actor) :
    ∃ later, (tick.retire id).stage.actor? id = some later ∧ later.SamePose actor := by
  cases finished : actor.isFinished with
  | false =>
    rw [retire_of_unfinished found finished]
    exact ⟨actor, found, .refl actor⟩
  | true =>
    obtain ⟨look, -⟩ := retire_of_finished distinct found finished
    exact ⟨_, (look id).trans (if_pos rfl), ⟨rfl, rfl, rfl⟩⟩

theorem stepped_retire (tick : TickState) (id : ActorId) :
    (tick.retire id).report.stepped = tick.report.stepped := by
  unfold retire
  split <;> rfl

/-- What the turn of an actor makes of it: it carries out the first command of its task. -/
structure Served (start : Stage) (actor : Actor) (tick after : TickState) : Prop where
  stepped : after.report.stepped =
    tick.report.stepped ++ if start.task tick.report.swaps actor.id = [] then [] else [actor.id]
  pose : ∃ moved, after.stage.actor? actor.id = some moved ∧
    actor.PosedBy start.setting ((start.task tick.report.swaps actor.id).take 1) moved

theorem served_of_visited {now : Actor} (distinct : (start.actors.map (·.id)).Nodup) (steady : start.Steady)
    (underway : Underway start tick) (waiting : Waiting start actor tick now)
    (scheduled : actor.id ∈ start.playback.scheduled) (visited : Visited tick actor.id after) :
    Served start actor tick after := by
  -- Nothing happens to an actor without a program.
  have idle (bare : now.program = []) : start.task tick.report.swaps actor.id = [] := by
    rw [← waiting.work, Actor.remaining_of_bare bare]
  have rests (bare : now.program = []) (same : after.stage.actor? actor.id = some now)
      (stepped : after.report.stepped = tick.report.stepped) : Served start actor tick after := by
    refine ⟨?_, now, same, ?_⟩
    · rw [if_pos (idle bare), List.append_nil, stepped]
    · rw [idle bare]
      exact .nothing _ waiting.pose
  cases visited with
  | skipped absent => exact rests ((waiting.due scheduled).resolve_left absent) waiting.found rfl
  | dropped bare => exact rests (bare now waiting.found) waiting.found rfl
  | @stepped other moved outcome timers running found advanced =>
    rw [waiting.found, Option.some.injEq] at found
    subst found
    have steadyNow := Stage.steady_of_touches underway.touches steady
    have setting := Stage.setting_of_framed (Stage.frame_of_touches underway.touches)
    have step := Actor.advanced_of_advance steadyNow.ordered
      (steadyNow.sound now (List.mem_of_find?_eq_some waiting.found)) advanced
    have balancedMoved := balanced_moved underway.balanced waiting.found advanced
    have runningMoved : (tick.moved actor.id outcome moved timers).stage.isRunning = true := running
    have look := (look_moved (underway.balanced.distinct distinct) waiting.found advanced actor.id).trans
      (if_pos rfl)
    obtain ⟨traded, lookTraded, sameTraded⟩ :=
      pose_resolve (balancedMoved.distinct distinct) runningMoved look
    obtain ⟨retired, lookRetired, sameRetired⟩ :=
      pose_retire ((balanced_resolve distinct balancedMoved).distinct distinct) lookTraded
    refine ⟨?_, retired, lookRetired, ?_⟩
    · rw [stepped_retire]
      show (tick.moved actor.id outcome moved timers).report.stepped = _
      rw [report_moved, ← waiting.work]
      by_cases exhausted : outcome = .exhausted
      · rw [if_pos exhausted, if_pos (List.length_eq_zero_iff.mp (step.exhausted.mp exhausted))]
      · rw [if_neg exhausted, if_neg (exhausted ∘ step.exhausted.mpr ∘ List.length_eq_zero_iff.mpr)]
    · rw [← setting, ← waiting.work]
      have before := Actor.PosedBy.nothing tick.stage.setting waiting.pose
      obtain ⟨alone, queue, applied, same⟩ := before.append rfl rfl step.pose
      exact ⟨alone, queue, applied, sameRetired.trans (sameTraded.trans same)⟩

/-- The steps that the turns of some actors report are of these actors, in their order. -/
theorem stepped_of_visits {ids : List ActorId} (visits : ids.foldlM visit tick = .ok after) :
    ∃ more, after.report.stepped = tick.report.stepped ++ more ∧ more.Sublist ids := by
  induction ids generalizing tick with
  | nil =>
    cases visits
    exact ⟨[], by simp, .slnil⟩
  | cons id rest ih =>
    rw [List.foldlM_cons] at visits
    obtain ⟨next, first, visits⟩ := bind_eq_ok.mp visits
    obtain ⟨more, grown, among⟩ := ih visits
    obtain ⟨own, grownFirst, mine⟩ : ∃ own, next.report.stepped = tick.report.stepped ++ own ∧
        own.Sublist [id] := by
      cases visited_of_visit first with
      | skipped => exact ⟨[], by simp, List.nil_sublist _⟩
      | dropped => exact ⟨[], by simp [drop], List.nil_sublist _⟩
      | @stepped actor moved outcome timers running found advanced =>
        refine ⟨if outcome = .exhausted then [] else [id], ?_, by split <;> simp⟩
        rw [stepped_retire]
        show (tick.moved id outcome moved timers).report.stepped = _
        rw [report_moved]
    exact ⟨own ++ more, by rw [grown, grownFirst, List.append_assoc], mine.append among⟩

/-- The pose of an actor lasts through the turns of others. -/
theorem pose_of_visits {ids : List ActorId} {now : Actor} (distinct : (start.actors.map (·.id)).Nodup)
    (underway : Underway start tick) (visits : ids.foldlM visit tick = .ok after) (outside : ¬ id ∈ ids)
    (found : tick.stage.actor? id = some now) :
    ∃ later, after.stage.actor? id = some later ∧ later.SamePose now := by
  refine keeps_of_visits (fun tick => ∃ later, tick.stage.actor? id = some later ∧ later.SamePose now)
    distinct ?_ ?_ underway visits outside ⟨now, found, .refl now⟩
  · rintro tick after aside ⟨later, found, same⟩
    exact ⟨later, aside.look.trans found, same⟩
  · rintro tick balanced running ⟨later, found, same⟩
    obtain ⟨traded, look, sameToo⟩ := pose_resolve (balanced.distinct distinct) running found
    exact ⟨traded, look, sameToo.trans same⟩

/-- An actor waits through the turns of others. -/
theorem waiting_of_visits {ids : List ActorId} {now : Actor} (distinct : (start.actors.map (·.id)).Nodup)
    (underway : Underway start tick) (visits : ids.foldlM visit tick = .ok after)
    (outside : ¬ actor.id ∈ ids) (waiting : Waiting start actor tick now) :
    ∃ later, Waiting start actor after later := by
  refine keeps_of_visits (fun tick => ∃ later, Waiting start actor tick later) distinct ?_ ?_ underway visits
    outside ⟨now, waiting⟩
  · rintro tick after aside ⟨later, waiting⟩
    exact ⟨later, waiting.aside aside⟩
  · rintro tick balanced running ⟨later, waiting⟩
    exact waiting.resolve distinct balanced running

theorem underway_of_visits {ids : List ActorId} (distinct : (start.actors.map (·.id)).Nodup)
    (underway : Underway start tick) (visits : ids.foldlM visit tick = .ok after) :
    Underway start after := by
  induction ids generalizing tick with
  | nil =>
    cases visits
    exact underway
  | cons id rest ih =>
    rw [List.foldlM_cons] at visits
    obtain ⟨next, first, visits⟩ := bind_eq_ok.mp visits
    exact ih (underway_of_visit distinct underway first) visits

end

end TickState

namespace Stage

open TickState (Underway)

/-- In a tick everyone on the schedule has one turn, in the order of identifiers. -/
structure EachInTurn (stage : Stage) (outcome : Outcome TickReport) : Prop where
  increasing : outcome.value.stepped.Pairwise (· < ·)
  scheduled : ∀ id ∈ outcome.value.stepped, id ∈ stage.playback.scheduled
  /-- The task of an actor is what is left to do after the trades from the turns before its own. It steps
  if there is anything to do, and carries out the first command of its task, once. -/
  served : ∀ id, id ∈ stage.playback.scheduled → ∃ actor moved early,
    stage.actor? id = some actor ∧ outcome.stage.actor? id = some moved ∧
    stage.turns (stage.playback.scheduled.ids.filter (· < id)) = .ok early ∧
    early.report.swaps <+: outcome.value.swaps ∧
    (id ∈ outcome.value.stepped ↔ stage.task early.report.swaps id ≠ []) ∧
    (stage.task early.report.swaps id = [] → moved.SamePose actor) ∧
    actor.PosedBy stage.setting ((stage.task early.report.swaps id).take 1) moved
  others : ∀ id, ¬ id ∈ stage.playback.scheduled → ∀ actor, stage.actor? id = some actor →
    ∃ moved, outcome.stage.actor? id = some moved ∧ moved.SamePose actor

variable {stage : Stage} {id : ActorId} {actor : Actor}

/-- A scheduled actor has those with smaller identifiers before it, and is not scheduled twice. -/
theorem exists_split {set : IdSet} (member : id ∈ set) : ∃ before behind,
    set.ids = before ++ id :: behind ∧ set.ids.filter (· < id) = before ∧ ¬ id ∈ before ∧ ¬ id ∈ behind := by
  obtain ⟨before, behind, split⟩ := List.append_of_mem member
  have increasing := set.increasing
  rw [split] at increasing ⊢
  obtain ⟨-, late, apart⟩ := List.pairwise_append.mp increasing
  obtain ⟨above, -⟩ := List.pairwise_cons.mp late
  have unlike := List.nodup_append.mp (nodup_of_increasing increasing)
  have all : before.filter (· < id) = before := List.filter_eq_self.mpr fun other among =>
    decide_eq_true (apart other among id List.mem_cons_self)
  have none : (id :: behind).filter (· < id) = [] := by
    rw [List.filter_eq_nil_iff]
    intro other among below
    have below : other.number < id.number := by simpa [ActorId.lt_def] using below
    rcases List.mem_cons.mp among with rfl | among
    · exact Nat.lt_irrefl _ below
    · exact Nat.lt_asymm below (above other among)
  refine ⟨before, behind, rfl, ?_, fun early => unlike.2.2 _ early _ List.mem_cons_self rfl,
    (List.nodup_cons.mp unlike.2.1).1⟩
  rw [List.filter_append, all, none, List.append_nil]

theorem underway_start (stage : Stage) : Underway stage { stage, report := { time := stage.now } } :=
  ⟨⟨exchanged_nothing rfl, by simp⟩, .refl⟩

/-- The turns of a tick serve everyone on the schedule. -/
theorem served_of_turns {ended : TickState} (distinct : (stage.actors.map (·.id)).Nodup)
    (steady : stage.Steady) (turns : stage.turns stage.playback.scheduled.ids = .ok ended)
    (scheduled : actor.id ∈ stage.playback.scheduled) (found : stage.actor? actor.id = some actor) :
    ∃ moved early, ended.stage.actor? actor.id = some moved ∧
      stage.turns (stage.playback.scheduled.ids.filter (· < actor.id)) = .ok early ∧
      early.report.swaps <+: ended.report.swaps ∧
      (actor.id ∈ ended.report.stepped ↔ stage.task early.report.swaps actor.id ≠ []) ∧
      actor.PosedBy stage.setting ((stage.task early.report.swaps actor.id).take 1) moved := by
  obtain ⟨before, behind, split, below, notBefore, notBehind⟩ := exists_split scheduled
  rw [split] at turns
  rw [below]
  rw [Stage.turns, List.foldlM_append] at turns
  obtain ⟨early, visitsBefore, turns⟩ := bind_eq_ok.mp turns
  have swaps := (TickState.follows_turns turns).swaps
  rw [List.foldlM_cons] at turns
  obtain ⟨next, visit, visitsBehind⟩ := bind_eq_ok.mp turns
  have underway := TickState.underway_of_visits distinct (underway_start stage) visitsBefore
  have waiting : TickState.Waiting stage actor { stage, report := { time := stage.now } } actor :=
    ⟨found, .refl actor, (task_nil found).symm, .inl⟩
  obtain ⟨now, waits⟩ :=
    TickState.waiting_of_visits distinct (underway_start stage) visitsBefore notBefore waiting
  have served := TickState.served_of_visited distinct steady underway waits scheduled
    (TickState.visited_of_visit visit)
  obtain ⟨posed, lookPosed, alone, queue, applied, pose⟩ := served.pose
  obtain ⟨moved, look, same⟩ := TickState.pose_of_visits distinct
    (TickState.underway_of_visit distinct underway visit) visitsBehind notBehind lookPosed
  refine ⟨moved, early, look, visitsBefore, swaps, ?_, alone, queue, applied, same.trans pose⟩
  -- Of all the steps that are reported only the one of this turn can be of this actor.
  obtain ⟨first, steppedEarly, amongBefore⟩ := TickState.stepped_of_visits visitsBefore
  obtain ⟨last, steppedLate, amongBehind⟩ := TickState.stepped_of_visits visitsBehind
  have notFirst : ¬ actor.id ∈ early.report.stepped := by
    rw [steppedEarly, List.nil_append]
    exact fun member => notBefore (amongBefore.subset member)
  have notLast : ¬ actor.id ∈ last := fun member => notBehind (amongBehind.subset member)
  rw [steppedLate, served.stepped, List.mem_append, List.mem_append, or_iff_left notLast,
    or_iff_right notFirst]
  by_cases nothing : stage.task early.report.swaps actor.id = []
  · simp [nothing]
  · simp [nothing]

theorem eachInTurn_of_runTick {outcome : Outcome TickReport} (distinct : (stage.actors.map (·.id)).Nodup)
    (steady : stage.Steady) (castScheduled : stage.CastScheduled) (ran : stage.runTick = .ok outcome) :
    stage.EachInTurn outcome := by
  obtain ⟨ended, turns, ran⟩ := bind_eq_ok.mp ran
  obtain ⟨playback, -, ran⟩ := bind_eq_ok.mp ran
  cases ran
  have turns : stage.turns stage.playback.scheduled.ids = .ok ended := turns
  have look (id : ActorId) : ({ ended.stage with playback } : Stage).finishIfDrained.1.actor? id =
      ended.stage.actor? id := by
    rw [actor?, finishIfDrained_actors]
    rfl
  obtain ⟨stepped, is, among⟩ := TickState.stepped_of_visits turns
  rw [List.nil_append] at is
  subst is
  constructor
  case increasing => exact stage.playback.scheduled.increasing.sublist among
  case scheduled => exact fun id member => among.subset member
  case served =>
    intro id scheduled
    obtain ⟨actor, stands, rfl⟩ := castScheduled id scheduled
    have found := actor?_of_distinct distinct stands
    obtain ⟨moved, early, lookMoved, turnsEarly, swaps, stepped, pose⟩ :=
      served_of_turns distinct steady turns scheduled found
    refine ⟨actor, moved, early, found, (look _).trans lookMoved, turnsEarly, swaps, stepped, ?_, pose⟩
    intro nothing
    rw [nothing] at pose
    obtain ⟨alone, queue, rests, same⟩ := pose
    cases rests
    exact same
  case others =>
    intro id absent actor found
    obtain ⟨moved, lookMoved, same⟩ :=
      TickState.pose_of_visits distinct (underway_start stage) turns absent found
    exact ⟨moved, (look id).trans lookMoved, same⟩

/-- A tick gives everyone who is scheduled when it begins one turn, in the order of identifiers. It steps
those who then have something to do, once each: they carry out the first command of their task, which is
what remained of their program, or, after a trade in the turn of an earlier one, the whole program their
partner had when the tick began. Nobody else moves, whatever it gets in a trade. Short of the end of the
clock a tick while playback runs comes to an outcome, and the ticks on the way through time are of the same
kind. -/
theorem each_in_turn {config : Config} (reachable : ReachableWithRoom config stage) :
    (stage.isRunning = true → ¬ stage.playback.Overflows stage.now →
      ∃ outcome, stage.tick = .ok outcome ∧ stage.EachInTurn outcome) ∧
    ∀ elapsed, ∃ log last, stage.Elapses elapsed log last ∧
      ∀ before outcome, .ticked before outcome ∈ log → before.EachInTurn outcome := by
  have each {before : Stage} {outcome : Outcome TickReport} (poised : Poised before)
      (ran : before.runTick = .ok outcome) : before.EachInTurn outcome :=
    eachInTurn_of_runTick poised.distinct poised.steady poised.castScheduled ran
  constructor
  · intro running inTime
    obtain ⟨outcome, ticked, ran⟩ := exists_tick reachable running inTime
    exact ⟨outcome, ticked, each (poised_of_reachable reachable) ran⟩
  · intro elapsed
    obtain ⟨log, last, elapses, ticks⟩ := exists_ticks reachable elapsed
    refine ⟨log, last, elapses, fun before outcome member => ?_⟩
    obtain ⟨poised, ran⟩ := ticks before outcome member
    exact each poised ran

/-- The cat turns by ten degrees and bumps into the dog. The trade makes the program of the cat the task of
the dog, which so turns by ten degrees as well, and not by thirty; the owl has nothing to do. -/
theorem each_in_turn_bump :
    let cat : ActorId := ⟨1, by decide⟩
    let dog : ActorId := ⟨2, by decide⟩
    ∃ stage outcome, ReachableWithRoom {} stage ∧ stage.isRunning = true ∧
      ¬ stage.playback.Overflows stage.now ∧ stage.tick = .ok outcome ∧ stage.EachInTurn outcome ∧
      outcome.value.swaps = [.of cat dog] ∧ outcome.value.stepped = [cat, dog] ∧
      (outcome.stage.actor? dog).map (·.heading) = some 100 := by
  intro cat dog
  let owl : ActorId := ⟨3, by decide⟩
  obtain ⟨stage, reachable, passes⟩ := exists_reachable {}
    [ .insertActor { id := cat, name := "Cat", x := 0, y := 0, program := [.turn 10, .turn 20] },
      .insertActor { id := dog, name := "Dog", x := 30, y := 0, program := [.turn 30] },
      .insertActor { id := owl, name := "Owl", x := 300, y := 0, program := [.repeatTimes 0 [.turn 50]] },
      .play ]
    (fun stage => stage.isRunning &&
      decide (stage.now.nanos + stage.playback.period.nanos ≤ maxNanos) &&
      stage.tick.toOption.any fun (outcome : Outcome TickReport) =>
        decide (outcome.value.swaps = [.of cat dog]) && decide (outcome.value.stepped = [cat, dog]) &&
          decide ((outcome.stage.actor? dog).map (·.heading) = some 100))
    rfl (by simp [Operation.hasRoom]) (by decide +kernel)
  simp only [Bool.and_eq_true, decide_eq_true_eq] at passes
  obtain ⟨⟨running, room⟩, passes⟩ := passes
  have inTime : ¬ stage.playback.Overflows stage.now := Nat.not_lt.mpr room
  obtain ⟨outcome, ticked, each⟩ := (each_in_turn reachable).1 running inTime
  rw [ticked] at passes
  simp only [Except.toOption, Option.any_some, Bool.and_eq_true, decide_eq_true_eq] at passes
  obtain ⟨⟨swaps, stepped⟩, heading⟩ := passes
  exact ⟨stage, outcome, reachable, running, inTime, ticked, each, swaps, stepped, heading⟩

end Stage

end SpriteStage
