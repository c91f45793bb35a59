import SpriteStage.Stage.Playbill
import SpriteStage.Proofs.Stage.Bubbles
import SpriteStage.Proofs.Stage.Guises
import SpriteStage.Proofs.Stage.Schedule

/-!
# The events tell the playbill

Whoever knows the playbill of a stage at one time and follows the events from then on knows it ever
after. Each act tells what it does to the playbill, and tells nothing that the playbill at that moment
rules out (`accepts_of_act`); so does every operation, and an observer hears every event once as long as
it stays (`heard_eq`). Main statement: `events_tell_playbill`.
-/

namespace SpriteStage

namespace Playbill

/-- What an operation may announce to someone with this playbill. -/
def Admits (playbill : Playbill) (operation : Operation) : StageEvent → Prop
  | .actorAdded id => ¬ id ∈ playbill.cast
  | .actorRemoved id | .actorUpdated id | .bubbleCleared id _ => id ∈ playbill.cast
  | .programsSwapped pair => pair.Present playbill.cast
  | .playbackStarted => True
  | .playbackStopped reason =>
    playbill.running = true ∧ (reason = .requested ↔ operation = .stop)

/-- Following a log of events leads from one playbill to another, and every event is admitted at its
moment. -/
inductive Accepts : Playbill → List (Operation × StageEvent) → Playbill → Prop
  | nothing {playbill : Playbill} : Accepts playbill [] playbill
  | next {playbill after : Playbill} {operation : Operation} {event : StageEvent}
      {log : List (Operation × StageEvent)} (admitted : playbill.Admits operation event)
      (later : Accepts (playbill.follow event) log after) :
      Accepts playbill ((operation, event) :: log) after

variable {playbill between after : Playbill} {operation : Operation} {event : StageEvent}
  {log more : List (Operation × StageEvent)}

theorem Accepts.of_eq (same : after = playbill) : playbill.Accepts [] after := same ▸ .nothing

theorem Accepts.single (admitted : playbill.Admits operation event) (same : after = playbill.follow event) :
    playbill.Accepts [(operation, event)] after :=
  .next admitted (.of_eq same)

theorem Accepts.trans (early : playbill.Accepts log between) (late : between.Accepts more after) :
    playbill.Accepts (log ++ more) after := by
  induction early with
  | nothing => exact late
  | next admitted _ ih => exact .next admitted (ih late)

theorem Accepts.follows (accepts : playbill.Accepts log after) :
    (log.map (·.2)).foldl follow playbill = after := by
  induction accepts with
  | nothing => rfl
  | next _ _ ih => exact ih

theorem Accepts.admits (accepts : playbill.Accepts log after) {earlier later : List (Operation × StageEvent)}
    (split : log = earlier ++ (operation, event) :: later) :
    ((earlier.map (·.2)).foldl follow playbill).Admits operation event := by
  induction accepts generalizing earlier with
  | nothing => simp at split
  | next admitted _ ih =>
    cases earlier with
    | nil =>
      cases split
      exact admitted
    | cons first rest =>
      cases split
      exact ih rfl

end Playbill

namespace Stage

open Playbill (Accepts)

variable {stage between after : Stage} {actor : Actor} {events : List StageEvent} {operation : Operation}
  {observer : Nat} {log : List (Operation × StageEvent)} {i j : Nat}

/-! ### Acts -/

theorem playbill_eq (cast : after.actors.map (·.id) = stage.actors.map (·.id))
    (running : after.isRunning = stage.isRunning) : after.playbill = stage.playbill := by
  rw [playbill, cast, running]
  rfl

theorem mem_playbill (here : stage.actors[i]? = some actor) : actor.id ∈ stage.playbill.cast :=
  List.mem_map_of_mem (List.mem_of_getElem? here)

/-- Two places on a stage without twins have different actors. -/
theorem present_of_apart (distinct : (stage.actors.map (·.id)).Nodup) {first second : Actor}
    (apart : i ≠ j) (here : stage.actors[i]? = some first) (there : stage.actors[j]? = some second) :
    (ActorPair.of first.id second.id).Present stage.playbill.cast := by
  refine ActorPair.present_of (fun same => apart ?_) (mem_playbill here) (mem_playbill there)
  have hereId : (stage.actors.map (·.id))[i]? = some first.id := by rw [List.getElem?_map, here]; rfl
  have thereId : (stage.actors.map (·.id))[j]? = some second.id := by rw [List.getElem?_map, there]; rfl
  obtain ⟨inside, -⟩ := List.getElem?_eq_some_iff.mp hereId
  exact (List.getElem?_inj inside distinct).mp (by rw [hereId, thereId, same])

/-- An act tells what it does to the playbill, and nothing that the playbill rules out. -/
theorem accepts_of_act (other : operation ≠ .stop) (distinct : (stage.actors.map (·.id)).Nodup)
    (act : Act stage events after) : stage.playbill.Accepts (events.map (operation, ·)) after.playbill := by
  have cast := act.cast
  cases act with
  | updated timers here same edited => exact .single (mem_playbill here) (playbill_eq cast rfl)
  | stepped here scheduled advanced => exact .single (mem_playbill here) (playbill_eq cast rfl)
  | cleared kind here => exact .single (mem_playbill here) (playbill_eq cast rfl)
  | traded timers apart here there =>
    exact .single (present_of_apart distinct apart here there) (playbill_eq cast rfl)
  | untraded none among => exact .single (among.present distinct) rfl
  | rescheduled id => exact .of_eq (playbill_eq cast (isRunning_reschedule stage id))
  | retired here => exact .of_eq (playbill_eq cast (Playback.isRunning_unschedule _ _))
  | started next => exact .single trivial (congrArg (Playbill.mk · true) cast)
  | planned playback period running scheduled => exact .of_eq (playbill_eq cast running)
  | finished drained =>
    exact .single ⟨(Playback.isDrained_iff.mp drained).1, iff_of_false (by simp) other⟩ rfl
  | aside => exact .nothing

theorem accepts_of_acts (other : operation ≠ .stop) (distinct : (stage.actors.map (·.id)).Nodup)
    (acts : Acts stage events after) : stage.playbill.Accepts (events.map (operation, ·)) after.playbill := by
  induction acts with
  | nothing => exact .nothing
  | next act _ ih =>
    rw [List.map_append]
    exact (accepts_of_act other distinct act).trans (ih (act.cast ▸ distinct))

/-! ### Operations -/

/-- Stopping is told of exactly while playback runs. -/
theorem accepts_stop (stage : Stage) :
    stage.playbill.Accepts ((told stage.stop.notices).map (.stop, ·)) stage.stop.stage.playbill := by
  have cast : stage.stop.stage.actors.map (·.id) = stage.actors.map (·.id) := List.map_map
  cases running : stage.isRunning with
  | true =>
    have tells : told stage.stop.notices = [.playbackStopped .requested] := by simp [stop, running]
    rw [tells]
    exact .single ⟨running, iff_of_true rfl rfl⟩ (congrArg (Playbill.mk · false) cast)
  | false =>
    have tells : told stage.stop.notices = [] := by simp [stop, running]
    rw [tells]
    exact .of_eq (playbill_eq cast running.symm)

theorem accepts_of_course (course : stage.Course operation events after) (other : operation ≠ .stop)
    (distinct : (stage.actors.map (·.id)).Nodup) (distinctAfter : (after.actors.map (·.id)).Nodup) :
    stage.playbill.Accepts (events.map (operation, ·)) after.playbill := by
  cases course with
  | acts acts => exact accepts_of_acts other distinct acts
  | arrived actor active rewound =>
    rw [List.map_append, List.nodup_append] at distinctAfter
    have fresh : ¬ actor.id ∈ stage.actors.map (·.id) := fun member =>
      distinctAfter.2.2 _ member _ (List.mem_singleton_self actor.id) rfl
    exact .single fresh (congrArg (Playbill.mk · stage.isRunning) List.map_append)
  | @departed id events after active acts present =>
    let gone : Stage := { stage with
      actors := stage.actors.eraseP (·.id == id)
      active
      timers := stage.timers.cancelActor id
      playback := stage.playback.unschedule id }
    have left : gone.playbill = stage.playbill.follow (.actorRemoved id) := by
      refine congrArg₂ Playbill.mk ?_ (Playback.isRunning_unschedule _ _)
      show _ = (stage.actors.map (·.id)).erase id
      rw [List.erase_eq_eraseP', List.eraseP_map]
      rfl
    have distinctGone : (gone.actors.map (·.id)).Nodup := distinct.sublist (List.eraseP_sublist.map _)
    have acted := accepts_of_acts other distinctGone acts
    rw [left] at acted
    exact .next present acted
  | stopped => exact absurd rfl other

/-- Every operation tells what it does to the playbill, and nothing that the playbill rules out at its
moment. -/
theorem accepts_of_perform {config : Config} {outcome : Outcome Response}
    (reachable : ReachableWithRoom config stage) (room : operation.hasRoom stage = true)
    (performed : stage.perform operation = .ok outcome) :
    stage.playbill.Accepts ((told outcome.notices).map (operation, ·)) outcome.stage.playbill := by
  by_cases stops : operation = .stop
  · subst stops
    cases performed
    exact accepts_stop stage
  · have after : ReachableWithRoom config outcome.stage := .step reachable room performed
    exact accepts_of_course (reachable.course performed) stops (tidy_of_reachable reachable).distinct
      (tidy_of_reachable after).distinct

/-! ### Observers -/

/-- What an observer hears of some notices. -/
def heard (stage : Stage) (observer : Nat) (notices : List Notice) : List StageEvent :=
  ((stage.deliveries notices).filter (·.1 == observer)).map (·.2.event)

/-- The observer is registered once, and its number will not be given to another one. -/
structure Enrolled (observer : Nat) (stage : Stage) : Prop where
  once : stage.observers.count observer = 1
  numbered : observer ≤ stage.registrations

/-- An observer that is registered once hears every event once. -/
theorem heard_eq (once : stage.observers.count observer = 1) (notices : List Notice) :
    stage.heard observer notices = told notices := by
  have own : stage.observers.filter (· == observer) = [observer] := by
    rw [List.filter_beq, once]
    rfl
  have each (notice : Notice) : (stage.observers.map (·, notice)).filter (·.1 == observer) =
      [(observer, notice)] := by
    rw [List.filter_map]
    exact congrArg (List.map (·, notice)) own
  rw [heard, deliveries, List.filter_flatMap, List.map_flatMap, told, List.map_eq_flatMap]
  simp only [each, List.map_cons, List.map_nil]

/-- Numbers are handed out in order, so the next one is new. -/
theorem numbered_of_reachable {allowed : Stage → Operation → Prop} {config : Config}
    (reachable : ReachableBy allowed config stage) :
    ∀ number ∈ stage.observers, number ≤ stage.registrations := by
  induction reachable with
  | opening opening =>
    refine @holds_of_opening _ config (fun stage => ∀ number ∈ stage.observers,
      number ≤ stage.registrations) (by simp [unchecked]) (fun _ numbered _ => numbered) opening
  | @step stage operation outcome _ _ performed ih =>
    by_cases unobserved : operation.observes = false
    · obtain ⟨observers, registrations⟩ := observers_of_perform stage unobserved performed
      rw [observers, registrations]
      exact ih
    · cases operation with
      | subscribe =>
        cases performed
        intro number member
        rcases List.mem_append.mp member with before | new
        · exact Nat.le_succ_of_le (ih number before)
        · exact Nat.le_of_eq (List.mem_singleton.mp new)
      | unsubscribe gone =>
        cases performed
        exact fun number member => ih number (List.mem_of_mem_filter member)
      | _ => exact absurd rfl unobserved

theorem enrolled_subscribe {allowed : Stage → Operation → Prop} {config : Config}
    (reachable : ReachableBy allowed config stage) :
    Enrolled stage.subscribe.value stage.subscribe.stage := by
  have new : ¬ stage.registrations + 1 ∈ stage.observers := fun member =>
    absurd (numbered_of_reachable reachable _ member) (Nat.not_succ_le_self _)
  refine ⟨?_, Nat.le_refl _⟩
  show (stage.observers ++ [stage.registrations + 1]).count (stage.registrations + 1) = 1
  rw [List.count_append, List.count_eq_zero.mpr new, List.count_singleton_self]

/-- Whoever does not unsubscribe stays enrolled. -/
theorem Enrolled.perform {outcome : Outcome Response} (enrolled : Enrolled observer stage)
    (stays : operation ≠ .unsubscribe observer) (performed : stage.perform operation = .ok outcome) :
    Enrolled observer outcome.stage := by
  by_cases unobserved : operation.observes = false
  · obtain ⟨observers, registrations⟩ := observers_of_perform stage unobserved performed
    exact ⟨observers ▸ enrolled.once, registrations ▸ enrolled.numbered⟩
  · cases operation with
    | subscribe =>
      cases performed
      have other : observer ≠ stage.registrations + 1 := Nat.ne_of_lt (Nat.lt_succ_of_le enrolled.numbered)
      refine ⟨?_, Nat.le_succ_of_le enrolled.numbered⟩
      show (stage.observers ++ [stage.registrations + 1]).count observer = 1
      rw [List.count_append, enrolled.once, List.count_singleton, beq_false_of_ne other.symm]
      rfl
    | unsubscribe gone =>
      cases performed
      have other : observer ≠ gone := fun same => stays (same ▸ rfl)
      exact ⟨(List.count_filter (by simpa using other)).trans enrolled.once, enrolled.numbered⟩
    | _ => exact absurd rfl unobserved

/-- What an observer hears, operation by operation, while it stays. -/
inductive Attends (observer : Nat) (stage : Stage) : List (Operation × StageEvent) → Stage → Prop
  | start : Attends observer stage [] stage
  | next {log : List (Operation × StageEvent)} {between : Stage} {operation : Operation}
      {outcome : Outcome Response} (earlier : Attends observer stage log between)
      (room : operation.hasRoom between = true) (stays : operation ≠ .unsubscribe observer)
      (performed : between.perform operation = .ok outcome) :
      Attends observer stage (log ++ (between.heard observer outcome.notices).map (operation, ·))
        outcome.stage

theorem accepts_of_attends {config : Config} (reachable : ReachableWithRoom config stage)
    (enrolled : Enrolled observer stage) (attends : Attends observer stage log after) :
    ReachableWithRoom config after ∧ Enrolled observer after ∧ stage.playbill.Accepts log after.playbill := by
  induction attends with
  | start => exact ⟨reachable, enrolled, .nothing⟩
  | next earlier room stays performed ih =>
    obtain ⟨reached, still, accepts⟩ := ih
    refine ⟨.step reached room performed, still.perform stays performed, ?_⟩
    rw [heard_eq still.once]
    exact accepts.trans (accepts_of_perform reached room performed)

/-- An observer that knows the playbill when it subscribes knows it after every operation from then on,
by following what it hears. No event is at odds with the playbill of the moment: only a newcomer is
added, only who is on stage is removed, updated, cleared of a bubble or swapped, and with someone else,
and playback stops only while it runs, at a request exactly if the operation is to stop. -/
theorem events_tell_playbill {config : Config} (reachable : ReachableWithRoom config stage)
    (attends : Attends stage.subscribe.value stage.subscribe.stage log after) :
    (log.map (·.2)).foldl Playbill.follow stage.playbill = after.playbill ∧
      ∀ earlier operation event later, log = earlier ++ (operation, event) :: later →
        ((earlier.map (·.2)).foldl Playbill.follow stage.playbill).Admits operation event := by
  have room : Operation.subscribe.hasRoom stage = true := rfl
  have subscribed : ReachableWithRoom config stage.subscribe.stage := .step reachable room rfl
  obtain ⟨-, -, accepts⟩ := accepts_of_attends subscribed (enrolled_subscribe reachable) attends
  exact ⟨accepts.follows, fun _ _ _ _ split => accepts.admits split⟩

/-- A show of one turn starts, and is over after the tick that sees the turn. -/
theorem events_tell_playbill_turn :
    ∃ stage log after, ReachableWithRoom {} stage ∧
      Attends stage.subscribe.value stage.subscribe.stage log after ∧
      log.map (·.2) =
        [.playbackStarted, .actorUpdated ⟨1, by decide⟩, .playbackStopped .finished] ∧
      stage.playbill = ⟨[⟨1, by decide⟩], false⟩ ∧ after.playbill = ⟨[⟨1, by decide⟩], false⟩ ∧
      Playbill.Admits ⟨[⟨1, by decide⟩], true⟩ .tick (.playbackStopped .finished) := by
  let cat : ActorId := ⟨1, by decide⟩
  obtain ⟨stage, reachable, passes⟩ := exists_reachable {}
    [.insertActor { id := cat, name := "Cat", program := [.turn 10] }]
    (fun stage => stage.playbill = ⟨[cat], false⟩ &&
      (stage.subscribe.stage.perform .play).toOption.any fun played =>
        stage.subscribe.stage.heard stage.subscribe.value played.notices = [.playbackStarted] &&
        (played.stage.perform .tick).toOption.any fun ticked =>
          played.stage.heard stage.subscribe.value ticked.notices =
            [.actorUpdated cat, .playbackStopped .finished])
    rfl (by simp [Operation.hasRoom]) (by decide +kernel)
  simp only [Bool.and_eq_true, decide_eq_true_eq] at passes
  obtain ⟨opening, plays⟩ := passes
  obtain ⟨played, performed, passes⟩ := exists_outcome plays
  simp only [Bool.and_eq_true, decide_eq_true_eq] at passes
  obtain ⟨heardPlay, ticks⟩ := passes
  obtain ⟨ticked, performedTick, hears⟩ := exists_outcome ticks
  have heardTick := of_decide_eq_true hears
  have joins : Attends stage.subscribe.value stage.subscribe.stage [] stage.subscribe.stage := .start
  have attends := (joins.next rfl (by simp) performed).next rfl (by simp) performedTick
  rw [heardPlay, heardTick] at attends
  obtain ⟨follows, admits⟩ := events_tell_playbill reachable attends
  rw [opening] at follows admits
  exact ⟨stage, _, ticked.stage, reachable, attends, rfl, opening, follows.symm,
    admits [(.play, .playbackStarted), (.tick, .actorUpdated cat)] .tick (.playbackStopped .finished) [] rfl⟩

end Stage

end SpriteStage
