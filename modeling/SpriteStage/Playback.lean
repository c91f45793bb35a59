import SpriteStage.ActorId
import SpriteStage.Duration
import SpriteStage.Fault

/-!
# Playback

Playback is idle, or it runs with a set of scheduled actors and an instant for the next tick. One
periodic tick serves all scheduled actors.
-/

namespace SpriteStage

/-- Whether playback runs, and what it waits for. -/
inductive PlayState where
  | idle
  | running (scheduled : IdSet) (nextTick : Duration)

structure Playback where
  period : Duration
  state : PlayState := .idle
  ticks : Nat := 0

namespace Playback

def isRunning (playback : Playback) : Bool :=
  match playback.state with
  | .idle => false
  | .running _ _ => true

/-- The actors that take a step on the next tick. -/
def scheduled (playback : Playback) : IdSet :=
  match playback.state with
  | .idle => ∅
  | .running scheduled _ => scheduled

def nextTick (playback : Playback) : Option Duration :=
  match playback.state with
  | .idle => none
  | .running _ nextTick => some nextTick

def isScheduled (playback : Playback) (id : ActorId) : Bool := decide (id ∈ playback.scheduled)

/-- The tick one period after `now`; past the end of the clock there is none. -/
def tickAfter (playback : Playback) (now : Duration) : Except Fault Duration :=
  match now.add? playback.period with
  | some next => .ok next
  | none => .error .clockOverflow

/-- Starts to run with the given actors. The first tick comes after one period. -/
def start (playback : Playback) (now : Duration) (ids : List ActorId) :
    Except Fault Playback := do
  return { playback with
    state := .running (IdSet.ofList ids) (← playback.tickAfter now)
    ticks := 0 }

def stop (playback : Playback) : Playback := { playback with state := .idle }

/-- Schedules an actor; while idle nothing is scheduled. -/
def schedule (playback : Playback) (id : ActorId) : Playback :=
  match playback.state with
  | .idle => playback
  | .running scheduled nextTick => { playback with state := .running (scheduled.insert id) nextTick }

def canSchedule (playback : Playback) (id : ActorId) : Bool :=
  playback.isRunning && !playback.isScheduled id

def unschedule (playback : Playback) (id : ActorId) : Playback :=
  match playback.state with
  | .idle => playback
  | .running scheduled nextTick => { playback with state := .running (scheduled.erase id) nextTick }

/-- Counts a tick that ran at `now`, and plans the next one while running. -/
def tickCompleted (playback : Playback) (now : Duration) : Except Fault Playback := do
  match playback.state with
  | .idle => return { playback with ticks := playback.ticks + 1 }
  | .running scheduled _ =>
    return { playback with
      state := .running scheduled (← playback.tickAfter now)
      ticks := playback.ticks + 1 }

def isDrained (playback : Playback) : Bool := playback.isRunning && playback.scheduled.isEmpty

/-- Ends when nobody is scheduled any more. -/
def finishIfDrained (playback : Playback) : Playback :=
  if playback.isDrained then playback.stop else playback

variable (playback : Playback) (id : ActorId)

@[simp] theorem period_schedule : (playback.schedule id).period = playback.period := by
  unfold schedule; split <;> rfl

@[simp] theorem nextTick_schedule : (playback.schedule id).nextTick = playback.nextTick := by
  unfold schedule; split <;> simp_all [nextTick]

@[simp] theorem period_unschedule : (playback.unschedule id).period = playback.period := by
  unfold unschedule; split <;> rfl

@[simp] theorem nextTick_unschedule : (playback.unschedule id).nextTick = playback.nextTick := by
  unfold unschedule; split <;> simp_all [nextTick]

@[simp] theorem period_stop : playback.stop.period = playback.period := rfl

@[simp] theorem nextTick_stop : playback.stop.nextTick = none := rfl

@[simp] theorem isRunning_schedule : (playback.schedule id).isRunning = playback.isRunning := by
  unfold schedule; split <;> simp_all [isRunning]

@[simp] theorem isRunning_unschedule : (playback.unschedule id).isRunning = playback.isRunning := by
  unfold unschedule; split <;> simp_all [isRunning]

/-- While playback runs, the next tick is planned. -/
theorem isRunning_eq_isSome (playback : Playback) :
    playback.isRunning = playback.nextTick.isSome := by
  unfold isRunning nextTick
  cases playback.state <;> rfl

/-- Only while playback runs is anyone scheduled. -/
theorem isRunning_of_mem {playback : Playback} {id : ActorId} (member : id ∈ playback.scheduled) :
    playback.isRunning = true := by
  unfold scheduled at member
  unfold isRunning
  split at member
  · exact absurd member (IdSet.not_mem_empty id)
  · rfl

theorem mem_scheduled_schedule {playback : Playback} {id other : ActorId} :
    other ∈ (playback.schedule id).scheduled ↔
      other ∈ playback.scheduled ∨ playback.isRunning = true ∧ other = id := by
  unfold schedule isRunning
  split
  · simp
  · rename_i running
    simp [scheduled, running, or_comm]

theorem mem_scheduled_unschedule {playback : Playback} {id other : ActorId} :
    other ∈ (playback.unschedule id).scheduled ↔ other ∈ playback.scheduled ∧ other ≠ id := by
  unfold unschedule
  split
  · rename_i idle
    simp [scheduled, idle]
  · rename_i running
    simp [scheduled, running]

theorem isDrained_iff {playback : Playback} :
    playback.isDrained = true ↔ playback.isRunning = true ∧ ∀ id, ¬ id ∈ playback.scheduled := by
  rw [isDrained, Bool.and_eq_true, IdSet.isEmpty_iff]

theorem tickAfter_eq_ok {playback : Playback} {now next : Duration} :
    playback.tickAfter now = .ok next ↔ now.add? playback.period = some next := by
  unfold tickAfter
  split <;> simp_all

/-- A tick while running puts the next one a period after it. -/
theorem tickCompleted_running {playback later : Playback} {now time : Duration}
    (running : playback.nextTick = some time) (planned : playback.tickCompleted now = .ok later) :
    later.period = playback.period ∧
      ∃ next, now.add? playback.period = some next ∧ later.nextTick = some next := by
  unfold tickCompleted at planned
  split at planned
  · simp_all [nextTick]
  · cases after : playback.tickAfter now with
    | error fault =>
      rw [after] at planned
      cases planned
    | ok next =>
      rw [after] at planned
      cases planned
      exact ⟨rfl, next, tickAfter_eq_ok.mp after, rfl⟩

/-- Any tick counted puts the next one, if there is one, a period after it. -/
theorem tickCompleted_planned {playback later : Playback} {now : Duration}
    (planned : playback.tickCompleted now = .ok later) :
    later.period = playback.period ∧
      ∀ next, later.nextTick = some next → now.add? playback.period = some next := by
  cases due : playback.nextTick with
  | some time =>
    obtain ⟨period, next, sum, nextIs⟩ := tickCompleted_running due planned
    refine ⟨period, fun other is => ?_⟩
    rw [nextIs] at is
    cases is
    exact sum
  | none =>
    unfold tickCompleted at planned
    unfold nextTick at due
    split at planned
    · cases planned
      simp_all [nextTick]
    · simp_all

/-- Counting a tick changes neither whether playback runs nor who is scheduled. -/
theorem tickCompleted_kept {playback later : Playback} {now : Duration}
    (planned : playback.tickCompleted now = .ok later) :
    later.isRunning = playback.isRunning ∧ later.scheduled = playback.scheduled := by
  unfold tickCompleted at planned
  split at planned
  · cases planned
    simp_all [isRunning, scheduled]
  · cases after : playback.tickAfter now with
    | error fault =>
      rw [after] at planned
      cases planned
    | ok next =>
      rw [after] at planned
      cases planned
      simp_all [isRunning, scheduled]

theorem tickCompleted_fault {playback : Playback} {now : Duration} {fault : Fault}
    (failed : playback.tickCompleted now = .error fault) : fault = .clockOverflow := by
  unfold tickCompleted tickAfter at failed
  split at failed
  · cases failed
  · split at failed
    · cases failed
    · cases failed
      rfl

end Playback

end SpriteStage
