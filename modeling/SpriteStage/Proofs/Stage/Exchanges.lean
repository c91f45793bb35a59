import SpriteStage.Proofs.Collision.Selection
import SpriteStage.Proofs.Stage.EveryTick

/-!
# What becomes of the programs

A tick resolves collisions after the step of every actor, and still an actor takes part in one trade
at most, since whoever traded is busy for the rest of the tick. So the trades of a tick are between
pairs that have no actor in common, and their order does not show: each actor of a reported pair goes
on with what was the program of the other before the tick, and all others with their own
(`Exchanged`). Main statement: `programs_exchanged`. Playback loses, copies and alters no program.
-/

namespace SpriteStage

/-- Whether an operation neither edits programs nor changes the cast. -/
def Operation.keepsPrograms : Operation → Bool
  | .play | .stop | .tick | .advanceTime _ | .swapPrograms _ _ | .executeImmediate _ _
  | .setPosition _ _ _ | .setHeading _ _ | .rename _ _ | .setActive _ => true
  | _ => false

theorem Operation.hasRoom_of_keepsPrograms (operation : Operation)
    (keeps : operation.keepsPrograms = true) (stage : Stage) : operation.hasRoom stage = true := by
  cases operation with
  | addActor => cases keeps
  | _ => rfl

namespace Stage

/-- The program of the actor that goes by an identifier. -/
def program? (stage : Stage) (id : ActorId) : Option (List Command) :=
  (stage.actor? id).map (·.program)

/-- The actors of some pairs have each other's program now; whoever is in no pair has kept the own
one. -/
structure Exchanged (before after : Stage) (swaps : List ActorPair) : Prop where
  cast : after.actors.map (·.id) = before.actors.map (·.id)
  /-- The pairs are of different actors on the stage. -/
  present : ∀ pair ∈ swaps, pair.first ≠ pair.second ∧
    pair.first ∈ before.actors.map (·.id) ∧ pair.second ∈ before.actors.map (·.id)
  apart : swaps.Pairwise ActorPair.Apart
  traded : ∀ pair ∈ swaps, after.program? pair.first = before.program? pair.second ∧
    after.program? pair.second = before.program? pair.first
  kept : ∀ id, (∀ pair ∈ swaps, ¬ pair.involves id = true) → after.program? id = before.program? id
  programs : (after.actors.map (·.program)).Perm (before.actors.map (·.program))

variable {stage between after : Stage} {actor moved : Actor} {id : ActorId} {i : Nat}
  {swaps more : List ActorPair}

/-- Where one actor is replaced under its identifier, everyone else is found as before. -/
theorem actor?_put (distinct : (stage.actors.map (·.id)).Nodup) (here : stage.actors[i]? = some actor)
    (same : moved.id = actor.id) (timers : TimerQueue) (id : ActorId) :
    (stage.put i moved timers).actor? id = if id = actor.id then some moved else stage.actor? id := by
  have cast : (stage.put i moved timers).actors.map (·.id) = stage.actors.map (·.id) :=
    map_set_same here same
  have still : ((stage.put i moved timers).actors.map (·.id)).Nodup := cast ▸ distinct
  have member (other : Actor) := mem_set_of_distinct distinct here moved other
  by_cases named : id = actor.id
  · rw [if_pos named, named, ← same]
    exact actor?_of_distinct still ((member moved).mpr (.inl rfl))
  · rw [if_neg named]
    cases found : stage.actor? id with
    | none =>
      refine actor?_eq_none.mpr fun other among => ?_
      rcases (member other).mp among with rfl | ⟨stands, -⟩
      · rw [same]
        exact fun equal => named equal.symm
      · exact actor?_eq_none.mp found other stands
    | some other =>
      have otherId := actor?_id found
      rw [← otherId] at named ⊢
      exact actor?_of_distinct still
        ((member other).mpr (.inr ⟨List.mem_of_find?_eq_some found, named⟩))

/-! ### Trades -/

/-- A stage on which everyone has the program from before. -/
theorem exchanged_nothing (same : after.actors.map (fun actor => (actor.id, actor.program)) =
    stage.actors.map fun actor => (actor.id, actor.program)) : Exchanged stage after [] := by
  have through (stage : Stage) (id : ActorId) : stage.program? id =
      ((stage.actors.map fun actor => (actor.id, actor.program)).find? (·.1 == id)).map (·.2) := by
    rw [List.find?_map, Option.map_map]
    rfl
  have images {β : Type} (image : ActorId × List Command → β) :
      after.actors.map (fun actor => image (actor.id, actor.program)) =
        stage.actors.map fun actor => image (actor.id, actor.program) := by
    have mapped := congrArg (List.map image) same
    rwa [List.map_map, List.map_map] at mapped
  refine ⟨images Prod.fst, by simp, .nil, by simp, fun id _ => ?_, ?_⟩
  · rw [through, same, ← through]
  · rw [images Prod.snd]

theorem exchanged_put (here : stage.actors[i]? = some actor) (same : moved.id = actor.id)
    (program : moved.program = actor.program) (timers : TimerQueue) :
    Exchanged stage (stage.put i moved timers) [] :=
  exchanged_nothing (map_set_same here (by rw [same, program]))

/-- Trades between pairs without a common actor add up. -/
theorem Exchanged.trans (early : Exchanged stage between swaps) (late : Exchanged between after more)
    (apart : ∀ pair ∈ swaps, ∀ other ∈ more, pair.Apart other) :
    Exchanged stage after (swaps ++ more) := by
  refine ⟨late.cast.trans early.cast, ?_, ?_, ?_, ?_, late.programs.trans early.programs⟩
  · intro pair member
    rcases List.mem_append.mp member with member | member
    · exact early.present pair member
    · rw [← early.cast]
      exact late.present pair member
  · exact List.pairwise_append.mpr ⟨early.apart, late.apart, apart⟩
  · intro pair member
    have first : pair.involves pair.first = true := ActorPair.involves_iff.mpr (.inl rfl)
    have second : pair.involves pair.second = true := ActorPair.involves_iff.mpr (.inr rfl)
    rcases List.mem_append.mp member with member | member
    · obtain ⟨given, taken⟩ := early.traded pair member
      exact ⟨(late.kept _ fun other among => apart pair member other among _ first).trans given,
        (late.kept _ fun other among => apart pair member other among _ second).trans taken⟩
    · obtain ⟨given, taken⟩ := late.traded pair member
      have before (other : ActorPair) (among : other ∈ swaps) : pair.Apart other :=
        (apart other among pair member).symm
      exact ⟨given.trans (early.kept _ fun other among => before other among _ second),
        taken.trans (early.kept _ fun other among => before other among _ first)⟩
  · intro id free
    have freeLate := late.kept id fun pair member => free pair (List.mem_append_right _ member)
    exact freeLate.trans (early.kept id fun pair member => free pair (List.mem_append_left _ member))

theorem exists_actor? (present : id ∈ stage.actors.map (·.id)) :
    ∃ actor, stage.actor? id = some actor := exists_find? present

section

variable {a b : ActorId} {actors : List Actor} {timers : TimerQueue}

/-- A trade concerns nobody but its two actors. -/
theorem find?_of_tradeIn?_of_ne (distinct : (stage.actors.map (·.id)).Nodup)
    (traded : tradeIn? stage.actors stage.timers a b = some (actors, timers))
    (notFirst : id ≠ a) (notSecond : id ≠ b) : actors.find? (·.id == id) = stage.actor? id := by
  obtain ⟨i, j, first, second, different, findsFirst, here, findsSecond, there, rfl, -⟩ :=
    tradeIn?_eq_some traded
  rw [← stage.actor?_id (find?_of_findIdx? findsFirst here)] at notFirst
  rw [← stage.actor?_id (find?_of_findIdx? findsSecond there)] at notSecond
  let given : Actor := { first.rewound with program := second.program }
  let taken : Actor := { second.rewound with program := first.program }
  have cast : (stage.put i given timers).actors.map (·.id) = stage.actors.map (·.id) :=
    map_set_same here rfl
  have still : (stage.put i given timers).actors[j]? = some second :=
    (List.getElem?_set_ne different).trans there
  have early := actor?_put distinct here (show given.id = first.id from rfl) timers id
  have late := actor?_put (cast ▸ distinct) still (show taken.id = second.id from rfl) timers id
  rw [if_neg notFirst] at early
  rw [if_neg notSecond, early] at late
  exact late

/-- A trade reorders the programs on the stage. -/
theorem perm_of_tradeIn? (traded : tradeIn? stage.actors stage.timers a b = some (actors, timers)) :
    (actors.map (·.program)).Perm (stage.actors.map (·.program)) := by
  obtain ⟨i, j, first, second, -, -, here, -, there, rfl, -⟩ := tradeIn?_eq_some traded
  obtain ⟨insideI, isI⟩ := List.getElem?_eq_some_iff.mp here
  obtain ⟨insideJ, isJ⟩ := List.getElem?_eq_some_iff.mp there
  have swapped := @List.set_set_perm _ (stage.actors.map (·.program)) i j
    (by simpa using insideI) (by simpa using insideJ)
  rw [List.getElem_map, List.getElem_map, isI, isJ] at swapped
  rw [List.map_set, List.map_set]
  exact swapped

end

/-- Two different actors on the stage exchange their programs. -/
theorem exchanged_trade {pair : ActorPair} (distinct : (stage.actors.map (·.id)).Nodup)
    (present : pair.Present (stage.actors.map (·.id))) :
    ∃ actors timers, tradeIn? stage.actors stage.timers pair.first pair.second = some (actors, timers) ∧
      Exchanged stage { stage with actors, timers } [pair] := by
  obtain ⟨apart, first, second⟩ := id present
  obtain ⟨atFirst, foundFirst⟩ := exists_actor? first
  obtain ⟨atSecond, foundSecond⟩ := exists_actor? second
  obtain ⟨actors, timers, traded⟩ := exists_tradeIn? stage.timers apart foundFirst foundSecond
  obtain ⟨given, taken⟩ := find?_of_tradeIn? traded foundFirst foundSecond
  have cast := (frame_of_touches (touches_trade traded)).cast
  refine ⟨actors, timers, traded, cast, ?_, List.pairwise_singleton _ _, ?_, ?_, perm_of_tradeIn? traded⟩
  · intro other member
    rw [List.mem_singleton.mp member]
    exact present
  · intro other member
    rw [List.mem_singleton.mp member]
    simp only [program?, actor?] at foundFirst foundSecond ⊢
    simp only [given, taken, foundFirst, foundSecond, Option.map_some, and_self]
  · intro id free
    have outside := free pair (List.mem_singleton_self pair)
    rw [ActorPair.involves_iff, not_or] at outside
    exact congrArg (Option.map (·.program))
      (find?_of_tradeIn?_of_ne distinct traded (Ne.symm outside.1) (Ne.symm outside.2))

/-- Pairs without a common actor trade one after another. -/
theorem exchanged_trades (distinct : (stage.actors.map (·.id)).Nodup)
    (present : ∀ pair ∈ swaps, pair.Present (stage.actors.map (·.id)))
    (apart : swaps.Pairwise ActorPair.Apart) {actors : List Actor} {timers : TimerQueue}
    (folded : tradeAll swaps (stage.actors, stage.timers) = (actors, timers)) :
    Exchanged stage { stage with actors, timers } swaps := by
  induction swaps generalizing stage with
  | nil =>
    cases folded
    exact exchanged_nothing rfl
  | cons pair rest ih =>
    rw [List.pairwise_cons] at apart
    rw [List.forall_mem_cons] at present
    obtain ⟨here, others⟩ := present
    obtain ⟨between, queue, traded, exchanged⟩ := exchanged_trade distinct here
    simp only [tradeAll_cons, traded, Option.getD_some] at folded
    rw [← exchanged.cast] at distinct others
    have later : Exchanged { stage with actors := between, timers := queue }
      { stage with actors, timers } rest := ih distinct others apart.2 folded
    refine exchanged.trans later fun earlier member other among => ?_
    rw [List.mem_singleton.mp member]
    exact apart.1 other among

end Stage

/-! ### Ticks -/

namespace TickState

open Stage (Exchanged)

/-- Since the start of a tick programs were exchanged between the reported pairs, whose actors are
busy now. -/
structure Balanced (start : Stage) (tick : TickState) : Prop where
  exchanged : start.Exchanged tick.stage tick.report.swaps
  busy : ∀ id, id ∈ tick.busy ↔ ∃ pair ∈ tick.report.swaps, pair.involves id = true

variable {start : Stage} {tick after : TickState} {id : ActorId}

theorem Balanced.kept (balanced : Balanced start tick) (exchanged : tick.stage.Exchanged after.stage [])
    (swaps : after.report.swaps = tick.report.swaps) (busy : after.busy = tick.busy) :
    Balanced start after := by
  refine ⟨?_, fun id => ?_⟩
  · have all := balanced.exchanged.trans exchanged (by simp)
    rwa [List.append_nil, ← swaps] at all
  · rw [swaps, busy]
    exact balanced.busy id

theorem balanced_drop (balanced : Balanced start tick) (id : ActorId) :
    Balanced start (tick.drop id) :=
  balanced.kept (Stage.exchanged_nothing rfl) rfl rfl

theorem balanced_moved (balanced : Balanced start tick) {actor moved : Actor} {outcome : StepOutcome}
    {timers : TimerQueue} (found : tick.stage.actor? id = some actor)
    (advanced : actor.advance tick.stage.setting tick.stage.timers = .ok (outcome, moved, timers)) :
    Balanced start (tick.moved id outcome moved timers) := by
  obtain ⟨i, here, changed⟩ := Stage.modify_eq_put found
  obtain ⟨same, -, program⟩ := Actor.advance_frame advanced
  refine balanced.kept ?_ ?_ rfl
  · show tick.stage.Exchanged { tick.stage.modify id (fun _ => moved) with timers } []
    rw [changed]
    exact Stage.exchanged_put here same program timers
  · rw [report_moved]

/-- Whoever trades was free before, so the new trades are apart from the earlier ones. -/
theorem balanced_resolve (distinct : (start.actors.map (·.id)).Nodup) (balanced : Balanced start tick) :
    Balanced start tick.resolve := by
  let pairs := collidingPairs tick.stage.config.collisionDistance tick.stage.actors
  let resolution := resolveCollisions tick.stage.config.collisionDistance tick.stage.actors tick.busy
    tick.stage.timers
  have swaps : resolution.swaps = (selectSwaps tick.busy pairs).1 := rfl
  have distinctNow : (tick.stage.actors.map (·.id)).Nodup := balanced.exchanged.cast ▸ distinct
  have trades : tick.stage.Exchanged
      { tick.stage with actors := resolution.actors, timers := resolution.timers } resolution.swaps := by
    refine Stage.exchanged_trades distinctNow (fun pair member => ?_) (pairwise_selectSwaps _ _) rfl
    exact present_of_mem_collidingPairs distinctNow ((selectSwaps_sublist _ _).subset member)
  have rescheduled : Stage.Exchanged
      { tick.stage with actors := resolution.actors, timers := resolution.timers } tick.resolve.stage [] :=
    Stage.exchanged_nothing (by rw [resolve, afterSwaps_frame])
  have resolved := trades.trans rescheduled (by simp)
  rw [List.append_nil] at resolved
  refine ⟨balanced.exchanged.trans resolved fun earlier member later among => ?_, fun id => ?_⟩
  · exact ActorPair.apart_of_free (fun id inEarlier => (balanced.busy id).mpr ⟨earlier, member, inEarlier⟩)
      fun id inLater => free_of_mem_selectSwaps among inLater
  · show id ∈ (selectSwaps tick.busy pairs).2 ↔ ∃ pair ∈ tick.report.swaps ++ resolution.swaps, _
    rw [mem_selectSwaps_busy, balanced.busy, swaps]
    simp only [List.mem_append, or_and_right, exists_or]

theorem balanced_retire (balanced : Balanced start tick) (id : ActorId) :
    Balanced start (tick.retire id) := by
  unfold retire
  cases found : tick.stage.actor? id with
  | none => exact balanced
  | some actor =>
    rw [Option.any_some]
    split
    · obtain ⟨i, here, changed⟩ := Stage.modify_eq_put found
      let reset : Actor := { actor with cursor := .start }
      have exchanged := Stage.exchanged_put here (show reset.id = actor.id from rfl)
        (show reset.program = actor.program from rfl) tick.stage.timers
      rw [← changed fun actor => { actor with cursor := .start }] at exchanged
      exact balanced.kept (exchanged.trans (Stage.exchanged_nothing rfl) (by simp)) rfl rfl
    · exact balanced

/-- A turn only adds trades to those of the tick so far. -/
theorem balanced_turn (distinct : (start.actors.map (·.id)).Nodup) (balanced : Balanced start tick)
    (turned : tick.turn id = .ok after) : Balanced start after := by
  unfold turn at turned
  split at turned
  · cases turned
    exact balanced_drop balanced id
  · rename_i actor found
    split at turned
    · obtain ⟨⟨outcome, moved, timers⟩, advanced, turned⟩ := bind_eq_ok.mp turned
      cases turned
      exact balanced_retire (balanced_resolve distinct (balanced_moved balanced found advanced)) id
    · cases turned
      exact balanced_drop balanced id

end TickState

namespace Stage

variable {stage after : Stage}

/-- The reported trades are what a tick does to the programs. -/
theorem exchanged_runTick {outcome : Outcome TickReport} (distinct : (stage.actors.map (·.id)).Nodup)
    (ran : stage.runTick = .ok outcome) : stage.Exchanged outcome.stage outcome.value.swaps := by
  obtain ⟨ended, turns, ran⟩ := bind_eq_ok.mp ran
  obtain ⟨playback, -, ran⟩ := bind_eq_ok.mp ran
  cases ran
  have start : TickState.Balanced stage { stage, report := { time := stage.now } } :=
    ⟨exchanged_nothing rfl, by simp⟩
  have balanced : TickState.Balanced stage ended := by
    refine @foldlM_follows _ _ _ (fun before after => TickState.Balanced stage before →
      TickState.Balanced stage after) _ (fun _ => id) (fun early late => late ∘ early) ?_ _ _ _ turns start
    intro tick id after step balanced
    split at step
    · exact TickState.balanced_turn distinct balanced step
    · cases step
      exact balanced
  have finished : ended.stage.Exchanged ({ ended.stage with playback }.finishIfDrained).1 [] :=
    exchanged_nothing (by rw [finishIfDrained_actors])
  have all := balanced.exchanged.trans finished (by simp)
  rwa [List.append_nil] at all

theorem exchanged_tick {outcome : Outcome TickReport} (distinct : (stage.actors.map (·.id)).Nodup)
    (ticked : stage.tick = .ok outcome) : stage.Exchanged outcome.stage outcome.value.swaps := by
  unfold tick at ticked
  split at ticked
  · exact exchanged_runTick distinct ticked
  · cases ticked
    exact exchanged_nothing rfl

theorem exchanged_expire (stage : Stage) (timer : BubbleTimer) :
    stage.Exchanged (stage.expire timer).1 [] := by
  by_cases shows : stage.Shows timer
  · rw [expire_of_shows shows]
    obtain ⟨actor, -, found, -⟩ := shows
    obtain ⟨i, here, changed⟩ := modify_eq_put found
    have exchanged := exchanged_put here (show actor.withoutBubble.id = actor.id from rfl)
      (show actor.withoutBubble.program = actor.program from rfl) stage.timers
    rw [← changed Actor.withoutBubble] at exchanged
    exact exchanged
  · rw [expire_of_stale shows]
    exact exchanged_nothing rfl

/-- What happens on its own reorders the programs and keeps the cast. -/
theorem perm_of_happens {happening : Happening} (distinct : (stage.actors.map (·.id)).Nodup)
    (happens : stage.Happens happening after) : after.actors.map (·.id) = stage.actors.map (·.id) ∧
      (after.actors.map (·.program)).Perm (stage.actors.map (·.program)) := by
  cases happens with
  | @cleared timer timers popped first =>
    have exchanged := exchanged_expire { stage with timers, now := timer.deadline } timer
    exact ⟨exchanged.cast, exchanged.programs⟩
  | @ticked time outcome due first ran =>
    have exchanged := @exchanged_runTick { stage with now := time } outcome distinct ran
    exact ⟨exchanged.cast, exchanged.programs⟩

theorem perm_of_unfolds {target : Duration} {log : List Happening}
    (distinct : (stage.actors.map (·.id)).Nodup) (unfolds : stage.Unfolds target log after) :
    (after.actors.map (·.program)).Perm (stage.actors.map (·.program)) := by
  induction unfolds with
  | nothing => exact .refl _
  | next happens reached later ih =>
    obtain ⟨cast, perm⟩ := perm_of_happens distinct happens
    exact (ih (cast ▸ distinct)).trans perm

theorem programs_of_updated {α : Type} {outcome : Outcome α} {actor moved : Actor} {id : ActorId}
    (updated : stage.Updated id actor moved outcome) (program : moved.program = actor.program) :
    (outcome.stage.actors.map (·.program)).Perm (stage.actors.map (·.program)) := by
  obtain ⟨i, here, same⟩ := updated.place
  rw [same]
  exact .of_eq (map_set_same here program)

/-- An operation that neither edits programs nor changes the cast at most reorders the programs. -/
theorem perm_of_perform {operation : Operation} {outcome : Outcome Response}
    (distinct : (stage.actors.map (·.id)).Nodup) (period : 0 < stage.playback.period.nanos)
    (keeps : operation.keepsPrograms = true) (performed : stage.perform operation = .ok outcome) :
    (outcome.stage.actors.map (·.program)).Perm (stage.actors.map (·.program)) := by
  cases performed_of_perform performed with
  | refused error => exact .refl _
  | setActive done =>
    obtain ⟨_, -, done⟩ := bind_eq_ok.mp done
    cases done
    exact .refl _
  | rename done =>
    obtain ⟨_, updated⟩ := updated_of_rename done
    exact programs_of_updated (updated.respond _) rfl
  | setPosition done =>
    obtain ⟨_, _, _, -, -, updated⟩ := updated_of_setPosition done
    exact programs_of_updated (updated.respond _) rfl
  | setHeading done =>
    obtain ⟨_, updated⟩ := updated_of_setHeading done
    exact programs_of_updated (updated.respond _) rfl
  | swapPrograms done =>
    obtain ⟨_, -, done⟩ := bind_eq_ok.mp done
    obtain ⟨_, -, done⟩ := bind_eq_ok.mp done
    split at done
    · cases done
      exact .refl _
    · rename_i actors timers traded
      cases done
      exact perm_of_tradeIn? traded
  | executeImmediate done =>
    obtain ⟨actor, moved, timers, applied, updated⟩ := updated_of_executeImmediate done
    have kept := programs_of_updated updated (applyAll_frame applied).2.2.1
    exact kept
  | play played =>
    obtain ⟨playback, -, played⟩ := bind_eq_ok.mp played
    cases played
    show ((finishIfDrained _).1.actors.map _).Perm _
    rw [finishIfDrained_actors]
    exact .of_eq List.map_map
  | stop => exact .of_eq List.map_map
  | tick ticked => exact (exchanged_tick distinct ticked).programs
  | advanceTime advanced =>
    obtain ⟨log, last, unfolds, -, rfl⟩ := unfolds_of_advanceTime period advanced
    show (last.actors.map (·.program)).Perm _
    exact perm_of_unfolds distinct unfolds
  | _ => cases keeps

theorem perm_of_performAll {config : Config} {operations : List Operation}
    (reachable : ReachableWithRoom config stage)
    (keep : ∀ operation ∈ operations, operation.keepsPrograms = true)
    (performed : stage.performAll operations = .ok after) :
    (after.actors.map (·.program)).Perm (stage.actors.map (·.program)) := by
  induction operations generalizing stage with
  | nil =>
    cases performed
    exact .refl _
  | cons operation rest ih =>
    rw [performAll, List.foldlM_cons] at performed
    obtain ⟨between, step, performed⟩ := bind_eq_ok.mp performed
    obtain ⟨outcome, first, same⟩ := bind_eq_ok.mp step
    cases same
    rw [List.forall_mem_cons] at keep
    have early := perm_of_perform (tidy_of_reachable reachable).distinct reachable.period_pos keep.1 first
    have room := operation.hasRoom_of_keepsPrograms keep.1 stage
    exact (ih (.step reachable room first) keep.2 performed).trans early

/-- Playback loses, copies and alters no program. What a tick reports as trades, forced or on the way
through time, are pairs of different actors without a common one; the actors of each pair leave the
tick with the program the other had before it, and everyone else with the own. So as long as nobody
edits programs, adds or removes actors, the programs on the stage are the same up to order. -/
theorem programs_exchanged {config : Config} (reachable : ReachableWithRoom config stage) :
    (∀ outcome, stage.tick = .ok outcome → stage.Exchanged outcome.stage outcome.value.swaps) ∧
    (∀ elapsed, ∃ log last, stage.Elapses elapsed log last ∧
      ∀ before outcome, .ticked before outcome ∈ log →
        before.Exchanged outcome.stage outcome.value.swaps) ∧
    ∀ operations after, (∀ operation ∈ operations, operation.keepsPrograms = true) →
      stage.performAll operations = .ok after →
      (after.actors.map (·.program)).Perm (stage.actors.map (·.program)) := by
  have distinct := (tidy_of_reachable reachable).distinct
  refine ⟨fun outcome => exchanged_tick distinct, fun elapsed => ?_,
    fun operations after => perm_of_performAll reachable⟩
  obtain ⟨log, last, elapses, ticks⟩ := exists_ticks reachable elapsed
  refine ⟨log, last, elapses, fun before outcome member => ?_⟩
  obtain ⟨poised, ran⟩ := ticks before outcome member
  exact exchanged_runTick poised.distinct ran

/-- Three actors in a row collide on the first tick: the first two trade, and the third, which is near
the second, has to wait. -/
theorem programs_exchanged_row :
    let cat : ActorId := ⟨1, by decide⟩
    let dog : ActorId := ⟨2, by decide⟩
    let owl : ActorId := ⟨3, by decide⟩
    ∃ stage outcome, ReachableWithRoom {} stage ∧ stage.tick = .ok outcome ∧
      outcome.value.swaps = [.of cat dog] ∧ outcome.stage.program? cat = stage.program? dog ∧
      outcome.stage.program? dog = stage.program? cat ∧ outcome.stage.program? owl = stage.program? owl := by
  intro cat dog owl
  obtain ⟨stage, reachable, passes⟩ := exists_reachable {}
    [ .insertActor { id := cat, name := "Cat", x := 0, y := 0, program := [.turn 10, .turn 20] },
      .insertActor { id := dog, name := "Dog", x := 30, y := 0, program := [.turn 30, .turn 40] },
      .insertActor { id := owl, name := "Owl", x := 60, y := 0, program := [.turn 50] },
      .play ]
    (fun stage => stage.tick.toOption.any fun (outcome : Outcome TickReport) =>
      decide (outcome.value.swaps = [.of cat dog]))
    rfl (by simp [Operation.hasRoom]) (by decide +kernel)
  obtain ⟨outcome, ticked, passed⟩ := exists_outcome passes
  have swaps : outcome.value.swaps = [.of cat dog] := of_decide_eq_true passed
  have exchanged := (programs_exchanged reachable).1 outcome ticked
  rw [swaps] at exchanged
  obtain ⟨first, second⟩ := exchanged.traded _ (List.mem_singleton_self _)
  have third := exchanged.kept owl (by decide)
  exact ⟨stage, outcome, reachable, ticked, swaps, first, second, third⟩

end Stage

end SpriteStage
