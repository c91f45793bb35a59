import SpriteStage.Stage.Tick

/-!
# The clock of the stage

Time moves forward to a target. Everything that falls due on the way happens at its own instant, in
order; a bubble clears before a tick that is due at the same instant.
-/

namespace SpriteStage

/-- A stretch of time under way: the stage, what observers are told, and the reports of ticks. -/
structure Passage where
  stage : Stage
  notices : Array Notice := #[]
  reports : Array TickReport := #[]

namespace Stage

/-- Clears the bubble that a timer belongs to, unless the actor shows another one by now. -/
def expire (stage : Stage) (timer : BubbleTimer) : Stage × List StageEvent :=
  match (stage.actor? timer.actor).bind (·.bubble) with
  | some bubble =>
    if bubble.kind = timer.kind ∧ bubble.timer = some timer.handle then
      (stage.modify timer.actor Actor.withoutBubble, [.bubbleCleared timer.actor timer.kind])
    else (stage, [])
  | none => (stage, [])

theorem expire_timers (stage : Stage) (timer : BubbleTimer) :
    (stage.expire timer).1.timers = stage.timers := by
  unfold expire
  split
  · split <;> rfl
  · rfl

@[simp] theorem expire_playback (stage : Stage) (timer : BubbleTimer) :
    (stage.expire timer).1.playback = stage.playback := by
  unfold expire
  split
  · split <;> rfl
  · rfl

@[simp] theorem expire_observers (stage : Stage) (timer : BubbleTimer) :
    (stage.expire timer).1.observers = stage.observers := by
  unfold expire
  split
  · split <;> rfl
  · rfl

@[simp] theorem expire_active (stage : Stage) (timer : BubbleTimer) :
    (stage.expire timer).1.active = stage.active := by
  unfold expire
  split
  · split <;> rfl
  · rfl

@[simp] theorem expire_now (stage : Stage) (timer : BubbleTimer) :
    (stage.expire timer).1.now = stage.now := by
  unfold expire
  split
  · split <;> rfl
  · rfl

end Stage

namespace Passage

/-- Fires the timers due by an instant, first things first, each with the clock at its deadline. -/
def fireThrough (limit : Duration) (passage : Passage) : Passage :=
  match _popped : passage.stage.timers.popDue limit with
  | none => passage
  | some (timer, timers) =>
    let fired := { passage.stage with timers, now := timer.deadline }.expire timer
    fireThrough limit
      { passage with
        stage := fired.1
        notices := passage.notices ++ (fired.2.map fired.1.notice).toArray }
termination_by passage.stage.timers.size
decreasing_by
  have := TimerQueue.size_of_popDue _popped
  simp only [Stage.expire_timers]
  omega

theorem fireThrough_of_none {passage : Passage} {limit : Duration}
    (none : passage.stage.timers.popDue limit = none) : passage.fireThrough limit = passage := by
  rw [fireThrough]
  split
  · rfl
  · simp_all

theorem fireThrough_of_some {passage : Passage} {limit : Duration} {timer : BubbleTimer}
    {timers : TimerQueue} (popped : passage.stage.timers.popDue limit = some (timer, timers)) :
    passage.fireThrough limit =
      let fired := { passage.stage with timers, now := timer.deadline }.expire timer
      fireThrough limit { passage with
        stage := fired.1
        notices := passage.notices ++ (fired.2.map fired.1.notice).toArray } := by
  rw [fireThrough]
  split
  · simp_all
  · rename_i popped'
    rw [popped] at popped'
    cases popped'
    rfl

def tickAt (passage : Passage) (time : Duration) : Except Fault Passage := do
  let ticked ← { passage.stage with now := time }.runTick
  return {
    stage := ticked.stage
    notices := passage.notices ++ ticked.notices.toArray
    reports := passage.reports.push ticked.value }

/-- How far the next tick is away from the instant after a target. -/
def ticksLeft (target : Duration) (passage : Passage) : Nat :=
  match passage.stage.playback.nextTick with
  | none => 0
  | some time => target.nanos + 1 - time.nanos

/-- Runs everything due up to a target, tick by tick. A tick that leaves the next one where it was
would go on for ever and is a fault. -/
def runThrough (target : Duration) (passage : Passage) : Except Fault Passage :=
  match passage.stage.playback.nextTick with
  | none => .ok (passage.fireThrough target)
  | some time =>
    if time ≤ target then do
      let ticked ← (passage.fireThrough time).tickAt time
      if _sooner : ticked.ticksLeft target < passage.ticksLeft target then runThrough target ticked
      else .error .clockStalled
    else .ok (passage.fireThrough target)
termination_by passage.ticksLeft target

theorem runThrough_of_idle (passage : Passage) {target : Duration}
    (idle : passage.stage.playback.nextTick = none) :
    passage.runThrough target = .ok (passage.fireThrough target) := by
  rw [runThrough]
  split
  · rfl
  · simp_all

/-- With a tick planned, time runs through it if it is due. -/
theorem runThrough_of_tick (passage : Passage) {target time : Duration}
    (tick : passage.stage.playback.nextTick = some time) :
    passage.runThrough target =
      if time ≤ target then do
        let ticked ← (passage.fireThrough time).tickAt time
        if ticked.ticksLeft target < passage.ticksLeft target then runThrough target ticked
        else .error .clockStalled
      else .ok (passage.fireThrough target) := by
  rw [runThrough]
  split
  · simp_all
  · rename_i tick'
    rw [tick] at tick'
    cases tick'
    rfl

end Passage

namespace Stage

/-- Moves the clock forward, as far as it goes. Answers the reports of the ticks on the way. -/
def advanceTime (stage : Stage) (elapsed : Duration) :
    Except Fault (Outcome (List TickReport)) := do
  let target := stage.now.saturatingAdd elapsed
  let passage ← Passage.runThrough target { stage }
  return ⟨passage.reports.toList, { passage.stage with now := target }, passage.notices.toList⟩

end Stage

end SpriteStage
