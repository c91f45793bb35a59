import SpriteStage.Playback
import SpriteStage.Proofs.Execution.Renumbering

/-!
# Playback in separate fields

A scheduler that keeps apart whether it runs, who is scheduled and when the next tick is due could say
that it is idle and yet have somebody scheduled, or run without a tick to come. `Playback` rules that out
by its type. Nothing else sets the two apart: whatever is asked of them they answer the same and stay the
same (`call_fields`), so no run of calls makes the three fields contradict one another
(`consistent_of_callAll`).
-/

namespace SpriteStage

structure Scheduler where
  period : Duration
  running : Bool := false
  /-- The actors that take a step on the next tick. -/
  scheduled : IdSet := ∅
  nextTick : Option Duration := none
  ticks : Nat := 0

/-- What can be asked of playback. -/
inductive PlaybackCall where
  | start (now : Duration) (ids : List ActorId)
  | stop
  | schedule (id : ActorId)
  | unschedule (id : ActorId)
  | isScheduled (id : ActorId)
  | tickCompleted (now : Duration)
  | finishIfDrained

namespace Scheduler

/-- The first tick comes one period after `now`. -/
def start (scheduler : Scheduler) (now : Duration) (ids : List ActorId) : Except Fault Scheduler :=
  match now.add? scheduler.period with
  | none => .error .clockOverflow
  | some next =>
    .ok { scheduler with running := true, scheduled := .ofList ids, nextTick := some next, ticks := 0 }

def stop (scheduler : Scheduler) : Scheduler :=
  { scheduler with running := false, scheduled := ∅, nextTick := none }

/-- Answers whether the actor was put on the schedule. -/
def schedule (scheduler : Scheduler) (id : ActorId) : Bool × Scheduler :=
  if scheduler.running then
    (!decide (id ∈ scheduler.scheduled), { scheduler with scheduled := scheduler.scheduled.insert id })
  else (false, scheduler)

/-- Answers whether the actor was on the schedule. -/
def unschedule (scheduler : Scheduler) (id : ActorId) : Bool × Scheduler :=
  (decide (id ∈ scheduler.scheduled), { scheduler with scheduled := scheduler.scheduled.erase id })

def tickCompleted (scheduler : Scheduler) (now : Duration) : Except Fault Scheduler :=
  let counted := { scheduler with ticks := scheduler.ticks + 1 }
  if scheduler.running then
    match now.add? scheduler.period with
    | none => .error .clockOverflow
    | some next => .ok { counted with nextTick := some next }
  else .ok counted

/-- Answers whether it went idle. -/
def finishIfDrained (scheduler : Scheduler) : Bool × Scheduler :=
  if scheduler.running && scheduler.scheduled.isEmpty then (true, scheduler.stop) else (false, scheduler)

/-- Does what a call asks for; some calls have an answer. -/
def call (scheduler : Scheduler) : PlaybackCall → Except Fault (Option Bool × Scheduler)
  | .start now ids => (scheduler.start now ids).map (none, ·)
  | .stop => .ok (none, scheduler.stop)
  | .schedule actor => .ok ((scheduler.schedule actor).map some id)
  | .unschedule actor => .ok ((scheduler.unschedule actor).map some id)
  | .isScheduled actor => .ok (some (decide (actor ∈ scheduler.scheduled)), scheduler)
  | .tickCompleted now => (scheduler.tickCompleted now).map (none, ·)
  | .finishIfDrained => .ok (scheduler.finishIfDrained.map some id)

/-- The three fields do not contradict one another. -/
structure Consistent (scheduler : Scheduler) : Prop where
  due : scheduler.nextTick.isSome = scheduler.running
  idle : scheduler.running = false → scheduler.scheduled = ∅

/-- Does what some calls ask for, one after another, and collects the answers. -/
def callAll (scheduler : Scheduler) : List PlaybackCall → Except Fault (List (Option Bool) × Scheduler)
  | [] => .ok ([], scheduler)
  | call :: rest => do
    let (answer, after) ← scheduler.call call
    let (answers, last) ← after.callAll rest
    return (answer :: answers, last)

end Scheduler

namespace Playback

/-- Playback in separate fields. -/
def fields (playback : Playback) : Scheduler where
  period := playback.period
  running := playback.isRunning
  scheduled := playback.scheduled
  nextTick := playback.nextTick
  ticks := playback.ticks

def call (playback : Playback) : PlaybackCall → Except Fault (Option Bool × Playback)
  | .start now ids => (playback.start now ids).map (none, ·)
  | .stop => .ok (none, playback.stop)
  | .schedule actor => .ok (some (playback.canSchedule actor), playback.schedule actor)
  | .unschedule actor => .ok (some (playback.isScheduled actor), playback.unschedule actor)
  | .isScheduled actor => .ok (some (playback.isScheduled actor), playback)
  | .tickCompleted now => (playback.tickCompleted now).map (none, ·)
  | .finishIfDrained => .ok (some playback.isDrained, playback.finishIfDrained)

def callAll (playback : Playback) : List PlaybackCall → Except Fault (List (Option Bool) × Playback)
  | [] => .ok ([], playback)
  | call :: rest => do
    let (answer, after) ← playback.call call
    let (answers, last) ← after.callAll rest
    return (answer :: answers, last)

variable {playback other : Playback}

/-! ### The fields of playback -/

theorem fields_idle (idle : playback.state = .idle) :
    playback.fields = { period := playback.period, ticks := playback.ticks } := by
  simp [fields, isRunning, scheduled, nextTick, idle]

theorem fields_running {ids : IdSet} {next : Duration} (running : playback.state = .running ids next) :
    playback.fields = ⟨playback.period, true, ids, some next, playback.ticks⟩ := by
  simp [fields, isRunning, scheduled, nextTick, running]

theorem consistent_fields (playback : Playback) : playback.fields.Consistent := by
  cases state : playback.state with
  | idle =>
    rw [fields_idle state]
    exact ⟨rfl, fun _ => rfl⟩
  | running ids next =>
    rw [fields_running state]
    exact ⟨rfl, fun idle => (nomatch idle)⟩

/-- Fields that do not contradict one another are those of playback. -/
theorem exists_fields {scheduler : Scheduler} (consistent : scheduler.Consistent) :
    ∃ playback : Playback, playback.fields = scheduler := by
  obtain ⟨period, running, scheduled, nextTick, ticks⟩ := scheduler
  obtain ⟨due, idle⟩ := consistent
  cases nextTick with
  | none =>
    cases due
    cases idle rfl
    exact ⟨⟨period, .idle, ticks⟩, rfl⟩
  | some next =>
    cases due
    exact ⟨⟨period, .running scheduled next, ticks⟩, rfl⟩

/-- Playback is known by its fields. -/
theorem fields_inj (same : playback.fields = other.fields) : playback = other := by
  obtain ⟨period, state, ticks⟩ := playback
  obtain ⟨period', state', ticks'⟩ := other
  cases state <;> cases state' <;> cases same <;> rfl

/-! ### Call by call -/

theorem start_fields (playback : Playback) (now : Duration) (ids : List ActorId) :
    playback.fields.start now ids = (playback.start now ids).map fields := by
  have same : playback.fields.period = playback.period := rfl
  unfold Scheduler.start Playback.start tickAfter
  rw [same]
  cases now.add? playback.period <;> rfl

theorem schedule_fields (playback : Playback) (id : ActorId) :
    playback.fields.schedule id = (playback.canSchedule id, (playback.schedule id).fields) := by
  cases state : playback.state with
  | idle =>
    rw [fields_idle state]
    simp [Scheduler.schedule, canSchedule, isRunning, Playback.schedule, state, fields_idle state]
  | running ids next =>
    rw [fields_running state]
    simp [Scheduler.schedule, canSchedule, isRunning, isScheduled, scheduled, Playback.schedule, state, fields,
      nextTick]

theorem unschedule_fields (playback : Playback) (id : ActorId) :
    playback.fields.unschedule id = (playback.isScheduled id, (playback.unschedule id).fields) := by
  cases state : playback.state with
  | idle =>
    have nobody : (∅ : IdSet).erase id = ∅ := rfl
    rw [fields_idle state]
    simp [Scheduler.unschedule, isScheduled, scheduled, Playback.unschedule, state, fields_idle state, nobody]
  | running ids next =>
    rw [fields_running state]
    simp [Scheduler.unschedule, isScheduled, scheduled, isRunning, Playback.unschedule, state, fields, nextTick]

theorem tickCompleted_fields (playback : Playback) (now : Duration) :
    playback.fields.tickCompleted now = (playback.tickCompleted now).map fields := by
  unfold Playback.tickCompleted tickAfter
  cases state : playback.state with
  | idle =>
    rw [fields_idle state]
    show _ = Except.ok (fields _)
    simp [Scheduler.tickCompleted, fields, isRunning, scheduled, nextTick]
  | running ids next =>
    rw [fields_running state]
    unfold Scheduler.tickCompleted
    dsimp only
    cases now.add? playback.period <;> rfl

theorem finishIfDrained_fields (playback : Playback) :
    playback.fields.finishIfDrained = (playback.isDrained, playback.finishIfDrained.fields) := by
  show (if playback.isDrained then (true, playback.fields.stop) else (false, playback.fields)) = _
  unfold Playback.finishIfDrained
  by_cases drained : playback.isDrained
  · simp only [drained, if_true]
    rfl
  · simp [drained]

/-- Every call comes to the same in separate fields. -/
theorem call_fields (playback : Playback) (call : PlaybackCall) :
    playback.fields.call call = (playback.call call).map (Prod.map id fields) := by
  cases call with
  | start now ids =>
    show (playback.fields.start now ids).map _ = ((playback.start now ids).map (none, ·)).map _
    rw [start_fields]
    cases playback.start now ids <;> rfl
  | stop => rfl
  | schedule actor =>
    show Except.ok ((playback.fields.schedule actor).map some id) = _
    rw [schedule_fields]
    rfl
  | unschedule actor =>
    show Except.ok ((playback.fields.unschedule actor).map some id) = _
    rw [unschedule_fields]
    rfl
  | isScheduled actor => rfl
  | tickCompleted now =>
    show (playback.fields.tickCompleted now).map _ = ((playback.tickCompleted now).map (none, ·)).map _
    rw [tickCompleted_fields]
    cases playback.tickCompleted now <;> rfl
  | finishIfDrained =>
    show Except.ok (playback.fields.finishIfDrained.map some id) = _
    rw [finishIfDrained_fields]
    rfl

/-! ### Runs -/

/-- Calls one after another get the same answers in separate fields, and leave the same. -/
theorem callAll_fields (playback : Playback) (calls : List PlaybackCall) :
    playback.fields.callAll calls = (playback.callAll calls).map (Prod.map id fields) := by
  induction calls generalizing playback with
  | nil => rfl
  | cons call rest ih =>
    refine bind_commutes (call_fields playback call) fun (answer, after) => ?_
    exact bind_commutes (ih after) fun _ => rfl

/-- Whatever is asked of a new scheduler, its fields do not contradict one another. -/
theorem consistent_of_callAll {period : Duration} {calls : List PlaybackCall} {answers : List (Option Bool)}
    {last : Scheduler} (called : Scheduler.callAll { period } calls = .ok (answers, last)) :
    last.Consistent := by
  have fresh : ({ period } : Scheduler) = ({ period } : Playback).fields := rfl
  rw [fresh, callAll_fields] at called
  cases played : ({ period } : Playback).callAll calls with
  | error fault =>
    rw [played] at called
    cases called
  | ok result =>
    rw [played] at called
    cases called
    exact consistent_fields result.2

end Playback

end SpriteStage
