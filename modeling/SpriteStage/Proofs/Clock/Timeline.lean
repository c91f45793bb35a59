import SpriteStage.Stage.Clock
import SpriteStage.Proofs.Stage.Ticks

/-!
# The timeline

While time passes, one thing happens after another: the first timer goes off, or the next tick runs,
whichever is due first, and of two due at once the timer. `Happens` says what one such happening
does, without a target; `Unfolds` strings happenings together. Main statement: moving the clock
forward unfolds what is due up to the target, in order, until nothing is left or a tick breaks down
(`advanceTime_unfolds`), and there is only one way to do so (`unfolds_unique`).
-/

namespace SpriteStage

/-- One thing that happens as time passes, with the stage it happens on, the clock at its instant. -/
inductive Happening where
  /-- A timer went off; it is not pending any more. -/
  | cleared (stage : Stage) (timer : BubbleTimer)
  /-- A tick ran. -/
  | ticked (stage : Stage) (outcome : Outcome TickReport)

namespace Happening

/-- The stage on which it happens. -/
def stage : Happening → Stage
  | .cleared stage _ => stage
  | .ticked stage _ => stage

/-- The instant of the clock. -/
def time (happening : Happening) : Duration := happening.stage.now

/-- What observers are told. -/
def notices : Happening → List Notice
  | .cleared stage timer => (stage.expire timer).2.map (stage.expire timer).1.notice
  | .ticked _ outcome => outcome.notices

/-- The report of a tick. -/
def report? : Happening → Option TickReport
  | .cleared _ _ => none
  | .ticked _ outcome => some outcome.value

/-- The timer that went off. -/
def timer? : Happening → Option BubbleTimer
  | .cleared _ timer => some timer
  | .ticked _ _ => none

end Happening

namespace Stage

/-- The actor of a timer shows the very bubble that the timer clears. -/
def Shows (stage : Stage) (timer : BubbleTimer) : Prop :=
  ∃ actor bubble, stage.actor? timer.actor = some actor ∧ actor.bubble = some bubble ∧
    bubble.kind = timer.kind ∧ bubble.timer = some timer.handle

theorem expire_of_shows {stage : Stage} {timer : BubbleTimer} (shows : stage.Shows timer) :
    stage.expire timer = (stage.modify timer.actor Actor.withoutBubble,
      [.bubbleCleared timer.actor timer.kind]) := by
  obtain ⟨actor, bubble, found, bubbleIs, kind, handle⟩ := shows
  simp [expire, found, bubbleIs, kind, handle]

theorem expire_of_stale {stage : Stage} {timer : BubbleTimer} (stale : ¬ stage.Shows timer) :
    stage.expire timer = (stage, []) := by
  unfold expire
  split
  · rename_i bubble shown
    obtain ⟨actor, found, bubbleIs⟩ := Option.bind_eq_some_iff.mp shown
    split
    · rename_i current
      exact absurd ⟨actor, bubble, found, bubbleIs, current.1, current.2⟩ stale
    · rfl
  · rfl

/-- A timer that goes off takes a bubble away from one actor, or changes nothing. -/
theorem expire_stage (stage : Stage) (timer : BubbleTimer) :
    (stage.expire timer).1 = stage ∨ ∃ (i : Nat) (actor : Actor), stage.actors[i]? = some actor ∧
      (stage.expire timer).1 = stage.put i actor.withoutBubble stage.timers := by
  by_cases shows : stage.Shows timer
  · rw [expire_of_shows shows]
    obtain ⟨actor, -, found, -⟩ := shows
    obtain ⟨i, here, changed⟩ := modify_eq_put found
    exact .inr ⟨i, actor, here, changed Actor.withoutBubble stage.timers⟩
  · rw [expire_of_stale shows]
    exact .inl rfl

/-- Nothing is due up to an instant. -/
structure Calm (stage : Stage) (target : Duration) : Prop where
  timers : ∀ timer ∈ stage.timers.pending, target < timer.deadline
  tick : ∀ time, stage.playback.nextTick = some time → target < time

/-- The thing that is due first happens. -/
inductive Happens (stage : Stage) : Happening → Stage → Prop
  | cleared {timer : BubbleTimer} {timers : TimerQueue}
      (popped : stage.timers.popDue timer.deadline = some (timer, timers))
      (first : ∀ time, stage.playback.nextTick = some time → timer.deadline ≤ time) :
      Happens stage (.cleared { stage with timers, now := timer.deadline } timer)
        ({ stage with timers, now := timer.deadline }.expire timer).1
  | ticked {time : Duration} {outcome : Outcome TickReport}
      (due : stage.playback.nextTick = some time)
      (first : ∀ timer ∈ stage.timers.pending, time < timer.deadline)
      (ran : { stage with now := time }.runTick = .ok outcome) :
      Happens stage (.ticked { stage with now := time } outcome) outcome.stage

/-- The tick that is due first breaks down. -/
structure Breaks (stage : Stage) (target : Duration) (fault : Fault) (time : Duration) : Prop where
  due : stage.playback.nextTick = some time
  reached : time ≤ target
  first : ∀ timer ∈ stage.timers.pending, time < timer.deadline
  ran : { stage with now := time }.runTick = .error fault

/-- Things happen one after another, all of them up to an instant. -/
inductive Unfolds (target : Duration) : Stage → List Happening → Stage → Prop
  | nothing {stage : Stage} : Unfolds target stage [] stage
  | next {stage between last : Stage} {happening : Happening} {log : List Happening}
      (happens : stage.Happens happening between) (reached : happening.time ≤ target)
      (later : Unfolds target between log last) : Unfolds target stage (happening :: log) last

end Stage

/-- The passage after more has happened. -/
def Passage.afterAll (passage : Passage) (log : List Happening) (stage : Stage) : Passage where
  stage := stage
  notices := passage.notices ++ (log.flatMap Happening.notices).toArray
  reports := passage.reports ++ (log.filterMap Happening.report?).toArray

namespace Stage

variable {stage between last : Stage} {target : Duration} {log : List Happening}
  {happening : Happening}

theorem Unfolds.append {more : List Happening} (early : Unfolds target stage log between)
    (late : Unfolds target between more last) : Unfolds target stage (log ++ more) last := by
  induction early with
  | nothing => exact late
  | next happens reached _ ih => exact .next happens reached (ih late)

theorem Unfolds.mono {later : Duration} (unfolds : Unfolds target stage log last)
    (le : target ≤ later) : Unfolds later stage log last := by
  induction unfolds with
  | nothing => exact .nothing
  | next happens reached _ ih => exact .next happens (Nat.le_trans reached le) ih

theorem Unfolds.split {early late : List Happening}
    (unfolds : Unfolds target stage (early ++ happening :: late) last) :
    ∃ before after, Unfolds target stage early before ∧ before.Happens happening after ∧
      Unfolds target after late last := by
  induction early generalizing stage with
  | nil =>
    cases unfolds with
    | next happens reached later => exact ⟨_, _, .nothing, happens, later⟩
  | cons head rest ih =>
    cases unfolds with
    | next happens reached later =>
      obtain ⟨before, after, unfoldsEarly, happensThere, unfoldsLate⟩ := ih later
      exact ⟨before, after, .next happens reached unfoldsEarly, happensThere, unfoldsLate⟩

end Stage

namespace Passage

variable {passage : Passage} {limit target : Duration}

theorem afterAll_nil (passage : Passage) : passage.afterAll [] passage.stage = passage := by
  simp [afterAll]

theorem afterAll_append (passage : Passage) (log more : List Happening) (stage last : Stage) :
    (passage.afterAll log stage).afterAll more last = passage.afterAll (log ++ more) last := by
  simp [afterAll]

/-- Firing what is due up to an instant, no later than the next tick, only lets timers go off, until
none is due. -/
theorem fireThrough_unfolds (limit : Duration) (passage : Passage)
    (tick : ∀ time, passage.stage.playback.nextTick = some time → limit ≤ time) :
    ∃ log last, passage.stage.Unfolds limit log last ∧
      passage.fireThrough limit = passage.afterAll log last ∧
      last.playback = passage.stage.playback ∧
      ∀ timer ∈ last.timers.pending, limit < timer.deadline := by
  fun_induction fireThrough limit passage with
  | case1 passage popped =>
    exact ⟨[], passage.stage, .nothing, (afterAll_nil passage).symm, rfl,
      TimerQueue.popDue_eq_none popped⟩
  | case2 passage timer timers popped fired ih =>
    have due := (TimerQueue.pending_of_popDue popped).2.2
    have happens : passage.stage.Happens
        (.cleared { passage.stage with timers, now := timer.deadline } timer) fired.1 :=
      .cleared (TimerQueue.popDue_self popped) fun time is => Nat.le_trans due (tick time is)
    obtain ⟨log, last, unfolds, after, playback, rest⟩ := ih (by simpa [fired] using tick)
    refine ⟨_ :: log, last, .next happens due unfolds, ?_, by simpa [fired] using playback, rest⟩
    rw [after]
    simp [afterAll, Happening.notices, fired]
    rfl

theorem tickAt_eq_ok {time : Duration} {log : List Happening} {stage : Stage} {ticked : Passage}
    (done : (passage.afterAll log stage).tickAt time = .ok ticked) :
    ∃ outcome, { stage with now := time }.runTick = .ok outcome ∧
      ticked = passage.afterAll (log ++ [.ticked { stage with now := time } outcome]) outcome.stage := by
  obtain ⟨outcome, ran, done⟩ := bind_eq_ok.mp done
  cases done
  exact ⟨outcome, ran, by simp [afterAll, Happening.notices, Happening.report?]⟩

theorem tickAt_eq_error {time : Duration} {log : List Happening} {stage : Stage} {fault : Fault}
    (failed : (passage.afterAll log stage).tickAt time = .error fault) :
    { stage with now := time }.runTick = .error fault := by
  cases ran : ({ stage with now := time } : Stage).runTick with
  | error other =>
    simp only [tickAt, afterAll, ran] at failed
    cases failed
    rfl
  | ok outcome =>
    simp only [tickAt, afterAll, ran] at failed
    cases failed

/-- A tick that is due leaves fewer ticks to run: it ends playback or moves the next one on. -/
theorem ticksLeft_lt {ticked : Passage} {time period : Duration} (positive : 0 < period.nanos)
    (due : passage.stage.playback.nextTick = some time) (reached : time ≤ target)
    (next : ticked.stage.playback.nextTick = none ∨
      ∃ next, time.add? period = some next ∧ ticked.stage.playback.nextTick = some next) :
    ticked.ticksLeft target < passage.ticksLeft target := by
  rw [Duration.le_def] at reached
  unfold ticksLeft
  rcases next with idle | ⟨next, sum, planned⟩
  · simp only [due, idle]
    omega
  · have := Duration.add?_eq_some_iff.mp sum
    simp only [due, planned]
    omega

/-- Running what is due up to a target unfolds it. -/
theorem runThrough_unfolds (target : Duration) (passage : Passage)
    (period : 0 < passage.stage.playback.period.nanos) :
    ∃ log last, passage.stage.Unfolds target log last ∧
      (last.Calm target ∧ passage.runThrough target = .ok (passage.afterAll log last) ∨
        ∃ fault time, last.Breaks target fault time ∧ passage.runThrough target = .error fault) := by
  fun_induction runThrough target passage with
  | case1 passage idle =>
    obtain ⟨log, last, unfolds, after, playback, rest⟩ :=
      fireThrough_unfolds target passage (by simp [idle])
    exact ⟨log, last, unfolds, .inl ⟨⟨rest, by simp [playback, idle]⟩, by rw [after]⟩⟩
  | case2 passage time due reached ih =>
    obtain ⟨log, last, unfolds, after, playback, rest⟩ :=
      fireThrough_unfolds time passage (by simp [due, Duration.le_refl])
    have early := unfolds.mono reached
    have stillDue : last.playback.nextTick = some time := by rw [playback, due]
    rw [after]
    -- All timers due by the tick have gone off; what is left is the tick, which may break down.
    cases ticks : (passage.afterAll log last).tickAt time with
    | error fault =>
      exact ⟨log, last, early, .inr ⟨fault, time, ⟨stillDue, reached, rest, tickAt_eq_error ticks⟩, rfl⟩⟩
    | ok ticked =>
      obtain ⟨outcome, ran, rfl⟩ := tickAt_eq_ok ticks
      obtain ⟨touched, planned, tick⟩ := Stage.ticked_of_runTick ran
      obtain ⟨samePeriod, next⟩ := tick.replanned stillDue
      have happens : last.Happens (.ticked { last with now := time } outcome) outcome.stage :=
        .ticked stillDue rest ran
      rw [← playback] at period
      have sooner : (passage.afterAll (log ++ [.ticked { last with now := time } outcome])
          outcome.stage).ticksLeft target < passage.ticksLeft target :=
        ticksLeft_lt period due reached (next.imp And.right And.right)
      have periodNext : 0 < outcome.stage.playback.period.nanos := by
        rw [samePeriod]
        exact period
      obtain ⟨more, final, unfoldsLater, result⟩ := ih _ sooner periodNext
      refine ⟨log ++ _ :: more, final, early.append (.next happens reached unfoldsLater), ?_⟩
      simp only [afterAll_append, List.append_assoc, List.singleton_append] at result
      simpa only [bind, Except.bind, sooner, dif_pos] using result
  | case3 passage time due late =>
    have early := Duration.lt_of_not_le late
    obtain ⟨log, last, unfolds, after, playback, rest⟩ :=
      fireThrough_unfolds target passage (by simpa [due] using Duration.le_of_lt early)
    exact ⟨log, last, unfolds, .inl ⟨⟨rest, by simpa [playback, due] using early⟩, by rw [after]⟩⟩

end Passage

namespace Stage

variable {stage between last other : Stage} {target : Duration} {log more : List Happening}
  {happening : Happening}

/-! ### There is only one way for time to pass -/

theorem Happens.unique {another : Happening} (first : stage.Happens happening between)
    (second : stage.Happens another other) : happening = another ∧ between = other := by
  cases first with
  | cleared popped early =>
    cases second with
    | cleared popped' early' =>
      obtain ⟨rfl, rfl⟩ := TimerQueue.popDue_unique popped popped'
      exact ⟨rfl, rfl⟩
    | ticked due late ran =>
      have here := late _ (TimerQueue.mem_of_popDue popped)
      exact absurd (early _ due) (Duration.not_le_of_lt here)
  | ticked due late ran =>
    cases second with
    | cleared popped early =>
      have here := late _ (TimerQueue.mem_of_popDue popped)
      exact absurd (early _ due) (Duration.not_le_of_lt here)
    | ticked due' late' ran' =>
      rw [due] at due'
      cases due'
      rw [ran] at ran'
      cases ran'
      exact ⟨rfl, rfl⟩

/-- Up to an instant there is nothing to go on with: nothing is due, or the tick that is due first
breaks down. -/
def Ends (stage : Stage) (target : Duration) : Prop :=
  stage.Calm target ∨ ∃ fault time, stage.Breaks target fault time

theorem Ends.past (ends : stage.Ends target) (happens : stage.Happens happening between) :
    ¬ happening.time ≤ target := by
  intro reached
  rcases ends with calm | ⟨fault, time, breaks⟩
  · cases happens with
    | cleared popped early =>
      exact Duration.not_le_of_lt (calm.timers _ (TimerQueue.mem_of_popDue popped)) reached
    | ticked due late ran => exact Duration.not_le_of_lt (calm.tick _ due) reached
  · cases happens with
    | cleared popped early =>
      have here := breaks.first _ (TimerQueue.mem_of_popDue popped)
      exact Duration.not_le_of_lt here (early _ breaks.due)
    | ticked due late ran =>
      rw [breaks.due] at due
      cases due
      rw [breaks.ran] at ran
      cases ran

theorem unfolds_unique (first : Unfolds target stage log last) (second : Unfolds target stage more other)
    (firstEnds : last.Ends target) (secondEnds : other.Ends target) :
    log = more ∧ last = other := by
  induction first generalizing more with
  | nothing =>
    cases second with
    | nothing => exact ⟨rfl, rfl⟩
    | next happens reached later => exact absurd reached (firstEnds.past happens)
  | next happens reached later ih =>
    cases second with
    | nothing => exact absurd reached (secondEnds.past happens)
    | next happens' reached' later' =>
      obtain ⟨rfl, rfl⟩ := happens.unique happens'
      obtain ⟨rfl, rfl⟩ := ih later' firstEnds
      exact ⟨rfl, rfl⟩

/-- What a stretch of time comes to once the log of it is known. -/
def afterwards (target : Duration) (log : List Happening) (last : Stage) : Outcome (List TickReport) :=
  ⟨log.filterMap Happening.report?, { last with now := target }, log.flatMap Happening.notices⟩

/-- This is what happens while time passes: what is due unfolds, until nothing is any more and the clock
shows the target, or until the tick that is due first breaks down, and the passing of time with it. -/
structure Elapses (stage : Stage) (elapsed : Duration) (log : List Happening) (last : Stage) : Prop where
  unfolds : stage.Unfolds (stage.now.saturatingAdd elapsed) log last
  result : last.Calm (stage.now.saturatingAdd elapsed) ∧ stage.advanceTime elapsed =
      .ok (afterwards (stage.now.saturatingAdd elapsed) log last) ∨
    ∃ fault time, last.Breaks (stage.now.saturatingAdd elapsed) fault time ∧
      stage.advanceTime elapsed = .error fault

/-- Moving the clock forward unfolds what is due, until nothing is or a tick breaks down. -/
theorem advanceTime_unfolds (stage : Stage) (period : 0 < stage.playback.period.nanos)
    (elapsed : Duration) : ∃ log last, stage.Elapses elapsed log last := by
  obtain ⟨log, last, unfolds, result⟩ :=
    Passage.runThrough_unfolds (stage.now.saturatingAdd elapsed) { stage } period
  refine ⟨log, last, unfolds, ?_⟩
  unfold advanceTime
  rcases result with ⟨calm, run⟩ | ⟨fault, time, breaks, run⟩
  · refine .inl ⟨calm, ?_⟩
    simp only [run, bind, Except.bind, pure, Except.pure, Passage.afterAll, afterwards,
      List.append_toArray, List.nil_append]
  · refine .inr ⟨fault, time, breaks, ?_⟩
    simp only [run, bind, Except.bind]

/-- A stretch of time that ends well has a log behind which nothing is due. -/
theorem unfolds_of_advanceTime {elapsed : Duration} {outcome : Outcome (List TickReport)}
    (period : 0 < stage.playback.period.nanos) (done : stage.advanceTime elapsed = .ok outcome) :
    ∃ log last, stage.Unfolds (stage.now.saturatingAdd elapsed) log last ∧
      last.Calm (stage.now.saturatingAdd elapsed) ∧
      outcome = afterwards (stage.now.saturatingAdd elapsed) log last := by
  obtain ⟨log, last, unfolds, result⟩ := advanceTime_unfolds stage period elapsed
  rw [done] at result
  rcases result with ⟨calm, same⟩ | ⟨_, _, _, failed⟩
  · cases same
    exact ⟨log, last, unfolds, calm, rfl⟩
  · cases failed

/-- The log of a stretch of time that ends well is the only one that ends. -/
theorem advanceTime_of_unfolds {elapsed : Duration} (period : 0 < stage.playback.period.nanos)
    (unfolds : stage.Unfolds (stage.now.saturatingAdd elapsed) log last)
    (calm : last.Calm (stage.now.saturatingAdd elapsed)) :
    stage.advanceTime elapsed = .ok (afterwards (stage.now.saturatingAdd elapsed) log last) := by
  obtain ⟨more, other, unfolds', result⟩ := advanceTime_unfolds stage period elapsed
  rcases result with ⟨calm', done⟩ | ⟨fault, time, breaks, -⟩
  · obtain ⟨rfl, rfl⟩ := unfolds_unique unfolds unfolds' (.inl calm) (.inl calm')
    exact done
  · obtain ⟨-, rfl⟩ := unfolds_unique unfolds unfolds' (.inl calm) (.inr ⟨fault, time, breaks⟩)
    exact absurd breaks.reached (Duration.not_le_of_lt (calm.tick _ breaks.due))

end Stage

end SpriteStage
