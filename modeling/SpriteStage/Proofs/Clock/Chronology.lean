import SpriteStage.Proofs.Stage.Bubbles
import SpriteStage.Proofs.Stage.Faults

/-!
# Everything in its time

What happens while time passes happens in order and at its own instant: ticks one period apart,
timers at their deadlines and in their order, a timer before a tick that is due at once with it.
Each fact is a lemma about logs; they rest on the clock never being past anything due, which every
change keeps (`timely_of_change`). Main statement: `advanceTime_chronological`.
-/

namespace SpriteStage

namespace Stage

/-- The clock is not past the next tick. -/
def Timely (stage : Stage) : Prop :=
  ∀ time, stage.playback.nextTick = some time → stage.now ≤ time

variable {stage between after last : Stage} {target : Duration} {log : List Happening}
  {happening : Happening}

theorem timely_of_change (change : Change stage after) (timely : Timely stage) : Timely after := by
  intro time is
  cases change with
  | touched touch =>
    have frame := frame_of_touch touch
    rw [frame.nextTick] at is
    rw [frame.now]
    exact timely time is
  | planned playback period nextTick =>
    have sum := Duration.add?_eq_some_iff.mp (nextTick time is)
    rw [Duration.le_def]
    dsimp only
    omega
  | arrived => exact timely time is
  | left id active =>
    simp only [Playback.nextTick_unschedule] at is
    exact timely time is
  | waited timers tick => exact tick time is
  | fired popped =>
    rw [expire_playback] at is
    rw [expire_now]
    exact timely time is

theorem timely_of_changes (changes : Changes stage after) (timely : Timely stage) : Timely after := by
  induction changes with
  | refl => exact timely
  | tail _ change ih => exact timely_of_change change ih

theorem timely_of_reachable {config : Config} (reachable : ReachableWithRoom config stage) :
    Timely stage := by
  refine timely_of_changes (changes_of_reachable reachable).2 ?_
  intro time is
  cases is

/-! ### Instants -/

theorem Happens.now (happens : stage.Happens happening between) : between.now = happening.time := by
  cases happens with
  | cleared popped first => exact expire_now _ _
  | ticked due first ran =>
    obtain ⟨touched, playback, tick⟩ := ticked_of_runTick ran
    rw [tick.ended, finishIfDrained_now]
    exact (frame_of_touches tick.touches).now

theorem Happens.now_le (happens : stage.Happens happening between) (tidy : Tidy stage)
    (timely : Timely stage) : stage.now ≤ happening.time := by
  cases happens with
  | cleared popped first => exact tidy.notPast _ (TimerQueue.mem_of_popDue popped)
  | ticked due first ran => exact timely _ due

theorem Unfolds.now_le (unfolds : Unfolds target stage log last) (tidy : Tidy stage)
    (timely : Timely stage) : ∀ happening ∈ log, stage.now ≤ happening.time := by
  induction unfolds with
  | nothing => simp
  | next happens reached later ih =>
    have changes := changes_of_happens happens
    have soon := happens.now_le tidy timely
    intro other member
    rcases List.mem_cons.mp member with rfl | member
    · exact soon
    · have later := ih (tidy_of_changes changes tidy) (timely_of_changes changes timely) other member
      rw [happens.now] at later
      exact Duration.le_trans soon later

/-- Instants never go back. -/
theorem Unfolds.ordered (unfolds : Unfolds target stage log last) (tidy : Tidy stage)
    (timely : Timely stage) : (log.map Happening.time).Pairwise (· ≤ ·) := by
  induction unfolds with
  | nothing => exact .nil
  | next happens reached later ih =>
    have changes := changes_of_happens happens
    have tidyNext := tidy_of_changes changes tidy
    have timelyNext := timely_of_changes changes timely
    refine List.pairwise_cons.mpr ⟨fun time among => ?_, ih tidyNext timelyNext⟩
    obtain ⟨other, member, rfl⟩ := List.mem_map.mp among
    rw [← happens.now]
    exact later.now_le tidyNext timelyNext other member

theorem Unfolds.reached (unfolds : Unfolds target stage log last) :
    ∀ happening ∈ log, happening.time ≤ target := by
  induction unfolds with
  | nothing => simp
  | next happens reached later ih =>
    intro other member
    rcases List.mem_cons.mp member with rfl | member
    · exact reached
    · exact ih other member

/-! ### Ticks -/

theorem Unfolds.idle (unfolds : Unfolds target stage log last)
    (none : stage.playback.nextTick = none) : log.filterMap Happening.report? = [] := by
  induction unfolds with
  | nothing => rfl
  | next happens reached later ih =>
    cases happens with
    | cleared popped first => exact ih (by rw [expire_playback]; exact none)
    | ticked due first ran =>
      rw [none] at due
      cases due

/-- Ticks lie on a grid one period wide, and end at the first that finishes playback. -/
theorem Unfolds.grid (unfolds : Unfolds target stage log last) {start : Duration}
    (due : stage.playback.nextTick = some start) :
    (log.filterMap Happening.report?).map (·.time.nanos) =
        List.range' start.nanos (log.filterMap Happening.report?).length stage.playback.period.nanos ∧
      (∀ report ∈ (log.filterMap Happening.report?).dropLast, report.finished = false) ∧
      ((∃ report, (log.filterMap Happening.report?).getLast? = some report ∧ report.finished = true) ∨
        ∃ next, last.playback.nextTick = some next ∧ next.nanos = start.nanos +
          (log.filterMap Happening.report?).length * stage.playback.period.nanos) := by
  induction unfolds generalizing start with
  | nothing => exact ⟨rfl, by simp, .inr ⟨start, due, by simp⟩⟩
  | @next stage between last happening log happens reached later ih =>
    cases happens with
    | cleared popped first =>
      have grid := ih (by rw [expire_playback]; exact due)
      rw [expire_playback] at grid
      exact grid
    | @ticked time outcome due' first ran =>
      rw [due'] at due
      cases due
      obtain ⟨touched, playback, tick⟩ := ticked_of_runTick ran
      obtain ⟨period, next⟩ := tick.replanned due'
      have reports : (Happening.ticked { stage with now := start } outcome :: log).filterMap
          Happening.report? = outcome.value :: log.filterMap Happening.report? := rfl
      have here : outcome.value.time = start := tick.time
      rw [reports]
      -- Nothing ticks after the tick that finishes; after any other the grid goes on one period later.
      rcases next with ⟨finished, idle⟩ | ⟨unfinished, next, sum, planned⟩
      · rw [later.idle idle]
        exact ⟨by simp [here], by simp, .inl ⟨outcome.value, rfl, finished⟩⟩
      · obtain ⟨times, unfinishedLater, stops⟩ := ih planned
        have step := Duration.add?_eq_some_iff.mp sum
        rw [period] at times stops
        refine ⟨?_, ?_, ?_⟩
        · rw [List.map_cons, times, here, step]
          rfl
        · intro report member
          cases others : log.filterMap Happening.report? with
          | nil => simp [others] at member
          | cons second more =>
            rw [others] at member unfinishedLater
            rw [List.dropLast_cons_cons] at member
            rcases List.mem_cons.mp member with rfl | member
            · exact unfinished
            · exact unfinishedLater report member
        · rcases stops with ⟨report, lastReport, finished⟩ | ⟨following, followingDue, position⟩
          · exact .inl ⟨report, by rw [List.getLast?_cons, lastReport]; rfl, finished⟩
          · refine .inr ⟨following, followingDue, ?_⟩
            rw [position, step, List.length_cons, Nat.succ_mul]
            dsimp only
            omega

theorem Happens.ticked_at {at_ : Stage} {outcome : Outcome TickReport}
    (happens : stage.Happens (.ticked at_ outcome) between) :
    outcome.value.time = at_.now ∧ (∀ timer ∈ at_.timers.pending, at_.now < timer.deadline) ∧
      ∀ notice ∈ outcome.notices, notice.time = at_.now ∧ notice.event.isClearing = false := by
  cases happens with
  | ticked due first ran =>
    obtain ⟨touched, playback, tick⟩ := ticked_of_runTick ran
    exact ⟨tick.time, first, tick.notices⟩

/-! ### Timers that go off -/

/-- After something happened, what is armed was armed before or is armed since. -/
theorem Happens.rearmed (happens : stage.Happens happening between) :
    Rearmed { stage with now := happening.time } between := by
  cases happens with
  | cleared popped first =>
    obtain ⟨pending, issued, -⟩ := TimerQueue.pending_of_popDue popped
    refine rearmed_of_kept ?_ fun timer member => ?_
    · rw [expire_timers]
      exact issued
    · rw [expire_timers] at member
      show timer ∈ stage.timers.pending
      rw [pending]
      exact List.mem_cons_of_mem _ member
  | ticked due first ran =>
    obtain ⟨touched, playback, tick⟩ := ticked_of_runTick ran
    have rearmed := rearmed_of_touches tick.touches
    have timers : ({ touched with playback } : Stage).finishIfDrained.1.timers = touched.timers :=
      finishIfDrained_timers _
    rw [tick.ended]
    exact ⟨by rw [timers]; exact rearmed.issued, by rw [timers]; exact rearmed.pending⟩

/-- A timer that goes off was armed at the start, or has a later handle and is not due before the
start. -/
theorem Unfolds.armed (unfolds : Unfolds target stage log last) (tidy : Tidy stage)
    (timely : Timely stage) : ∀ timer ∈ log.filterMap Happening.timer?,
      timer ∈ stage.timers.pending ∨
        stage.timers.issued < timer.handle ∧ stage.now ≤ timer.deadline := by
  induction unfolds with
  | nothing => simp
  | @next stage between last happening log happens reached later ih =>
    have changes := changes_of_happens happens
    have soon := happens.now_le tidy timely
    have rearmed := happens.rearmed
    have others (timer : BubbleTimer) (member : timer ∈ log.filterMap Happening.timer?) :
        timer ∈ stage.timers.pending ∨
          stage.timers.issued < timer.handle ∧ stage.now ≤ timer.deadline := by
      rcases ih (tidy_of_changes changes tidy) (timely_of_changes changes timely) timer member with
        pending | ⟨handle, deadline⟩
      · rcases rearmed.pending timer pending with pending | ⟨handle, deadline⟩
        · exact .inl pending
        · exact .inr ⟨handle, Duration.le_trans soon deadline⟩
      · rw [happens.now] at deadline
        exact .inr ⟨Nat.lt_of_le_of_lt rearmed.issued handle, Duration.le_trans soon deadline⟩
    intro timer member
    cases happens with
    | cleared popped first =>
      rcases List.mem_cons.mp member with rfl | member
      · exact .inl (TimerQueue.mem_of_popDue popped)
      · exact others timer member
    | ticked due first ran => exact others timer member

/-- Timers go off in their order. -/
theorem Unfolds.timers_ordered (unfolds : Unfolds target stage log last) (tidy : Tidy stage)
    (timely : Timely stage) : (log.filterMap Happening.timer?).Pairwise BubbleTimer.Before := by
  induction unfolds with
  | nothing => exact .nil
  | next happens reached later ih =>
    have changes := changes_of_happens happens
    have tidyNext := tidy_of_changes changes tidy
    have timelyNext := timely_of_changes changes timely
    have now := happens.now
    cases happens with
    | @cleared timer timers popped first =>
      refine List.pairwise_cons.mpr ⟨fun other member => ?_, ih tidyNext timelyNext⟩
      rcases later.armed tidyNext timelyNext other member with pending | ⟨handle, deadline⟩
      · rw [expire_timers] at pending
        exact TimerQueue.before_of_popDue popped other pending
      -- Armed since: its handle is later, and its deadline no earlier than the clock.
      · rw [expire_timers] at handle
        rw [now] at deadline
        have issued := (TimerQueue.pending_of_popDue popped).2.1
        have old := TimerQueue.handle_le _ timer (TimerQueue.mem_of_popDue popped)
        have due : timer.deadline.nanos ≤ other.deadline.nanos := deadline
        rw [BubbleTimer.before_def]
        dsimp only at handle
        omega
    | ticked due first ran => exact ih tidyNext timelyNext

/-! ### The whole stretch -/

/-- What the log of a stretch of time up to a target keeps to. -/
structure Chronicle (stage : Stage) (target : Duration) (log : List Happening) : Prop where
  /-- Instants never go back. -/
  ordered : (log.map Happening.time).Pairwise (· ≤ ·)
  within : ∀ happening ∈ log, stage.now ≤ happening.time ∧ happening.time ≤ target
  /-- Observers are told at the instant. -/
  stamped : ∀ happening ∈ log, ∀ notice ∈ happening.notices, notice.time = happening.time
  idle : stage.playback.nextTick = none → log.filterMap Happening.report? = []
  /-- Ticks run one period apart, from the one that was next. -/
  grid : ∀ start, stage.playback.nextTick = some start →
    (log.filterMap Happening.report?).map (·.time.nanos) =
      List.range' start.nanos (log.filterMap Happening.report?).length stage.playback.period.nanos
  /-- The instant of a report is the one its tick ran at. -/
  reported : ∀ at_ outcome, .ticked at_ outcome ∈ log → outcome.value.time = at_.now
  /-- No tick but the last finishes playback. -/
  unfinished : ∀ report ∈ (log.filterMap Happening.report?).dropLast, report.finished = false
  /-- Ticks end because one finished playback, or because the next would fall after the target. -/
  stops : ∀ start, stage.playback.nextTick = some start →
    (∃ report, (log.filterMap Happening.report?).getLast? = some report ∧ report.finished = true) ∨
      target.nanos < start.nanos +
        (log.filterMap Happening.report?).length * stage.playback.period.nanos
  /-- A bubble clears at the deadline of the timer it knows. -/
  onTime : ∀ at_ timer, .cleared at_ timer ∈ log → at_.now = timer.deadline ∧ at_.Shows timer ∧
    (Happening.cleared at_ timer).notices =
      [⟨timer.deadline, .bubbleCleared timer.actor timer.kind⟩]
  /-- Ticks clear no bubble this way. -/
  quiet : ∀ at_ outcome, .ticked at_ outcome ∈ log →
    ∀ notice ∈ outcome.notices, notice.event.isClearing = false
  /-- Timers go off by deadline, and then by handle. -/
  sequence : (log.filterMap Happening.timer?).Pairwise BubbleTimer.Before
  /-- What is armed when a tick runs is due later. -/
  timersFirst : ∀ at_ outcome, .ticked at_ outcome ∈ log →
    ∀ timer ∈ at_.timers.pending, at_.now < timer.deadline
  /-- A timer that goes off after a tick at the same instant was armed by it or later. -/
  armedSince : ∀ early late at_ outcome, log = early ++ .ticked at_ outcome :: late →
    ∀ timer ∈ late.filterMap Happening.timer?, timer.deadline = at_.now →
      at_.timers.issued < timer.handle

theorem chronicle_of_unfolds (unfolds : Unfolds target stage log last) (calm : last.Calm target)
    (tidy : Tidy stage) (timely : Timely stage) : Chronicle stage target log := by
  constructor
  case ordered => exact unfolds.ordered tidy timely
  case within =>
    intro happening member
    exact ⟨unfolds.now_le tidy timely happening member, unfolds.reached happening member⟩
  case stamped =>
    intro happening member notice told
    obtain ⟨before, after, changes, happens⟩ := unfolds.happened member
    cases happening with
    | cleared at_ timer =>
      obtain ⟨now, -, notices⟩ := happens.cleared_at (tidy_of_changes changes tidy)
      rw [notices] at told
      rw [List.mem_singleton.mp told]
      exact now.symm
    | ticked at_ outcome => exact (happens.ticked_at.2.2 notice told).1
  case idle => exact unfolds.idle
  case grid =>
    intro start due
    exact (unfolds.grid due).1
  case reported =>
    intro at_ outcome member
    obtain ⟨before, after, -, happens⟩ := unfolds.happened member
    exact happens.ticked_at.1
  case unfinished =>
    cases due : stage.playback.nextTick with
    | none => simp [unfolds.idle due]
    | some start => exact (unfolds.grid due).2.1
  case stops =>
    intro start due
    rcases (unfolds.grid due).2.2 with finished | ⟨next, nextDue, position⟩
    · exact .inl finished
    · have late := Duration.lt_def.mp (calm.tick next nextDue)
      exact .inr (position ▸ late)
  case onTime =>
    intro at_ timer member
    obtain ⟨before, after, changes, happens⟩ := unfolds.happened member
    exact happens.cleared_at (tidy_of_changes changes tidy)
  case quiet =>
    intro at_ outcome member notice told
    obtain ⟨before, after, -, happens⟩ := unfolds.happened member
    exact (happens.ticked_at.2.2 notice told).2
  case sequence => exact unfolds.timers_ordered tidy timely
  case timersFirst =>
    intro at_ outcome member
    obtain ⟨before, after, -, happens⟩ := unfolds.happened member
    exact happens.ticked_at.2.1
  case armedSince =>
    intro early late at_ outcome is timer member due
    rw [is] at unfolds
    obtain ⟨before, after, unfoldsEarly, happens, unfoldsLate⟩ := unfolds.split
    have changes := (changes_of_unfolds unfoldsEarly).trans (changes_of_happens happens)
    have rearmed := happens.rearmed
    have origin := unfoldsLate.armed (tidy_of_changes changes tidy) (timely_of_changes changes timely)
      timer member
    cases happens with
    | ticked nextIs first ran =>
      -- A timer with an old handle was pending when the tick ran, and the tick waits for what is due.
      rcases origin with pending | ⟨handle, -⟩
      · rcases rearmed.pending timer pending with pending | ⟨handle, -⟩
        · have notDue := Duration.lt_def.mp (first timer pending)
          rw [due] at notDue
          exact absurd notDue (Nat.lt_irrefl _)
        · exact handle
      · exact Nat.lt_of_le_of_lt rearmed.issued handle

/-- Moving the clock forward is exact and chronological, as long as no tick on the way runs past the
end of the clock: the log of it keeps to `Chronicle`, it ends at the target, and nothing that is due
by then is left. -/
theorem advanceTime_chronological {config : Config} (reachable : ReachableWithRoom config stage)
    {elapsed : Duration} (runs : stage.advanceTime elapsed ≠ .error .clockOverflow) :
    ∃ log last outcome, Unfolds (stage.now.saturatingAdd elapsed) stage log last ∧
      stage.advanceTime elapsed = .ok outcome ∧
      outcome.value = log.filterMap Happening.report? ∧
      outcome.notices = log.flatMap Happening.notices ∧
      outcome.stage = { last with now := stage.now.saturatingAdd elapsed } ∧
      Chronicle stage (stage.now.saturatingAdd elapsed) log ∧
      (∀ timer ∈ outcome.stage.timers.pending, outcome.stage.now < timer.deadline) ∧
      ∀ time, outcome.stage.playback.nextTick = some time → outcome.stage.now < time := by
  obtain ⟨log, last, unfolds, result⟩ :=
    advanceTime_unfolds stage (period_pos_of_reachable reachable) elapsed
  rcases result with ⟨calm, done⟩ | ⟨fault, time, -, failed⟩
  · exact ⟨log, last, _, unfolds, done, rfl, rfl, rfl,
      chronicle_of_unfolds unfolds calm (tidy_of_reachable reachable) (timely_of_reachable reachable),
      calm.timers, calm.tick⟩
  · rw [advanceTime_fault reachable failed] at failed
    exact absurd failed runs

/-- An actor speaks on a tick, and its bubble clears a second later. -/
theorem advanceTime_chronological_speech :
    ∃ stage outcome log, ReachableWithRoom {} stage ∧
      stage.advanceTime (.ofMillis 2000) ≠ .error .clockOverflow ∧
      stage.advanceTime (.ofMillis 2000) = .ok outcome ∧
      outcome.notices.map (·.time.millis) = [500, 500, 1500] ∧
      outcome.notices = log.flatMap Happening.notices ∧
      Chronicle stage (stage.now.saturatingAdd (.ofMillis 2000)) log := by
  obtain ⟨stage, reachable, passes⟩ := exists_reachable {}
    [ .insertActor { id := ⟨7, by decide⟩, name := "Cat", program := [.bubble .speech "Hello" (some 1)] },
      .play ]
    (fun stage => (stage.advanceTime (.ofMillis 2000)).toOption.any fun outcome =>
      outcome.notices.map (·.time.millis) = [500, 500, 1500])
    rfl (by simp [Operation.hasRoom]) (by decide +kernel)
  have runs : stage.advanceTime (.ofMillis 2000) ≠ .error .clockOverflow := by
    intro failed
    rw [failed] at passes
    cases passes
  obtain ⟨log, last, outcome, -, done, -, notices, -, chronicle, -⟩ :=
    advanceTime_chronological reachable runs
  rw [done] at passes
  exact ⟨stage, outcome, log, reachable, runs, done, of_decide_eq_true passes, notices, chronicle⟩

end Stage

end SpriteStage
