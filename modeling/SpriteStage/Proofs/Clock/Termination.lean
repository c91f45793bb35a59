import Mathlib.Data.Prod.Lex
import SpriteStage.Proofs.Clock.Timeline
import SpriteStage.Proofs.Stage.Overflow
import SpriteStage.Proofs.Timers.History

/-!
# Moving the clock ends

`Passage.runThrough` stops a tick that leaves the next one where it was. The loop here has no such
check: it looks for what is due first, timers or a tick, lets it happen and looks again (`loop`), and
an inner loop takes out one due timer after another (`drain`). Each is given a number of rounds, and
a loop that wants more of them has no result.

A round may arm timers for any number of actors, so their number alone does not go down, and playback
need not come to an end. What goes down with each round is how far the next tick is from the target,
or else that stays and timers go (`Passes.weight_lt`). Main statement: `advanceTime_terminates`.
-/

namespace SpriteStage

namespace TimerQueue

/-- A timer that is taken out may be taken out at any instant from its deadline on. -/
theorem popDue_of_le {queue rest : TimerQueue} {now later : Duration} {timer : BubbleTimer}
    (popped : queue.popDue now = some (timer, rest)) (le : timer.deadline ≤ later) :
    queue.popDue later = some (timer, rest) := by
  cases pops : queue.popDue later with
  | none => exact absurd le (Duration.not_le_of_lt (popDue_eq_none pops timer (mem_of_popDue popped)))
  | some both =>
    obtain ⟨rfl, rfl⟩ := popDue_unique pops popped
    rfl

end TimerQueue

namespace Passage

/-! ### The loop -/

/-- A timer that was taken out goes off, the clock staying where it is. -/
def clear (passage : Passage) (timer : BubbleTimer) (timers : TimerQueue) : Passage :=
  let fired := { passage.stage with timers }.expire timer
  { passage with
    stage := fired.1
    notices := passage.notices ++ (fired.2.map fired.1.notice).toArray }

/-- Takes out the first timer and lets it go off, as long as one is due. -/
def drain (limit : Duration) : Nat → Passage → Option Passage
  | 0, _ => none
  | rounds + 1, passage =>
    match passage.stage.timers.popDue limit with
    | none => some passage
    | some (timer, timers) => drain limit rounds (passage.clear timer timers)

def startAt (passage : Passage) (time : Duration) : Passage :=
  { passage with stage := { passage.stage with now := time } }

/-- What comes next on the way to a target. -/
inductive Due where
  | bubbles (time : Duration)
  | tick (time : Duration)
  | nothing

/-- Bubbles come before a tick that is due at the same instant. -/
def due (target : Duration) (passage : Passage) : Due :=
  match passage.stage.timers.nextDeadline.filter (· ≤ target),
      passage.stage.playback.nextTick.filter (· ≤ target) with
  | some time, some tick => if time ≤ tick then .bubbles time else .tick tick
  | some time, none => .bubbles time
  | none, some tick => .tick tick
  | none, none => .nothing

/-- Lets what comes next happen, until nothing is due any more or a tick breaks down. -/
def loop (target : Duration) : Nat → Passage → Option (Except Fault Passage)
  | 0, _ => none
  | rounds + 1, passage =>
    match passage.due target with
    | .bubbles time => ((passage.startAt time).drain time rounds).bind (loop target rounds)
    | .tick time =>
      match passage.tickAt time with
      | .ok ticked => loop target rounds ticked
      | .error fault => some (.error fault)
    | .nothing => some (.ok passage)

/-- What the loop comes to, with the clock at the target. -/
def arrive (target : Duration) (passage : Passage) : Outcome (List TickReport) :=
  ⟨passage.reports.toList, { passage.stage with now := target }, passage.notices.toList⟩

theorem value_arrive (target : Duration) (passage : Passage) :
    (passage.arrive target).value = passage.reports.toList := rfl

theorem isRunning_arrive (target : Duration) (passage : Passage) :
    (passage.arrive target).stage.isRunning = passage.stage.isRunning := rfl

/-- One round of the loop leads from a passage to a later one. -/
inductive Passes (target : Duration) (later earlier : Passage) : Prop
  | bubbles {time : Duration} {rounds : Nat} (first : earlier.due target = .bubbles time)
      (drains : (earlier.startAt time).drain time rounds = some later)
  | tick {time : Duration} (first : earlier.due target = .tick time)
      (ticks : earlier.tickAt time = .ok later)

variable {passage later earlier : Passage} {target time limit : Duration} {rounds : Nat}

/-! ### What comes next -/

theorem filter_nextTick_eq_none : passage.stage.playback.nextTick.filter (· ≤ target) = none ↔
    ∀ tick, passage.stage.playback.nextTick = some tick → target < tick := by
  simp [Option.filter_eq_none_iff, Duration.lt_def, Duration.le_def]

theorem filter_nextDeadline_eq_none :
    passage.stage.timers.nextDeadline.filter (· ≤ target) = none ↔
      ∀ timer ∈ passage.stage.timers.pending, target < timer.deadline := by
  cases next : passage.stage.timers.nextDeadline with
  | none =>
    have empty : passage.stage.timers.pending = [] := by simpa [TimerQueue.nextDeadline] using next
    simp [empty]
  | some deadline =>
    obtain ⟨⟨timer, member, rfl⟩, least⟩ := TimerQueue.nextDeadline_eq_some_iff.mp next
    simp only [Option.filter_eq_none_iff, Option.some.injEq, forall_eq', decide_eq_true_eq]
    exact ⟨fun late other among => Nat.lt_of_lt_of_le (Duration.lt_of_not_le late) (least other among),
      fun late => Duration.not_le_of_lt (late timer member)⟩

/-- What comes next is due, and nothing else is due before. -/
theorem due_spec (target : Duration) (passage : Passage) :
    match passage.due target with
    | .bubbles time => passage.stage.timers.nextDeadline = some time ∧ time ≤ target ∧
        ∀ tick, passage.stage.playback.nextTick = some tick → time ≤ tick
    | .tick time => passage.stage.playback.nextTick = some time ∧ time ≤ target ∧
        ∀ timer ∈ passage.stage.timers.pending, time < timer.deadline
    | .nothing => passage.stage.Calm target := by
  unfold due
  cases deadline : passage.stage.timers.nextDeadline.filter (· ≤ target) with
  | none =>
    have timers := filter_nextDeadline_eq_none.mp deadline
    cases nextTick : passage.stage.playback.nextTick.filter (· ≤ target) with
    | none => exact ⟨timers, filter_nextTick_eq_none.mp nextTick⟩
    | some tick =>
      obtain ⟨tickIs, reached⟩ := by simpa using nextTick
      exact ⟨tickIs, reached, fun timer member => Nat.lt_of_le_of_lt reached (timers timer member)⟩
  | some time =>
    obtain ⟨deadlineIs, reached⟩ := by simpa using deadline
    cases nextTick : passage.stage.playback.nextTick.filter (· ≤ target) with
    | none =>
      have late := filter_nextTick_eq_none.mp nextTick
      exact ⟨deadlineIs, reached, fun tick is => Nat.le_trans reached (Duration.le_of_lt (late tick is))⟩
    | some tick =>
      obtain ⟨tickIs, tickReached⟩ := by simpa using nextTick
      by_cases before : time ≤ tick
      · simp only [before, if_true]
        exact ⟨deadlineIs, reached, fun other is => by rwa [← Option.some.inj (tickIs.symm.trans is)]⟩
      · simp only [before, if_false]
        have least := (TimerQueue.nextDeadline_eq_some_iff.mp deadlineIs).2
        exact ⟨tickIs, tickReached, fun timer member =>
          Nat.lt_of_lt_of_le (Duration.lt_of_not_le before) (least timer member)⟩

/-! ### Timers that go off -/

theorem fireThrough_of_late (late : ∀ timer ∈ passage.stage.timers.pending, limit < timer.deadline) :
    passage.fireThrough limit = passage :=
  fireThrough_of_none (TimerQueue.popDue_eq_none_iff.mpr late)

theorem fireThrough_of_due {timer : BubbleTimer} {timers : TimerQueue}
    (popped : passage.stage.timers.popDue limit = some (timer, timers)) :
    passage.fireThrough limit =
      ((passage.startAt timer.deadline).clear timer timers).fireThrough limit :=
  fireThrough_of_some popped

@[simp] theorem clear_now (passage : Passage) (timer : BubbleTimer) (timers : TimerQueue) :
    (passage.clear timer timers).stage.now = passage.stage.now :=
  Stage.expire_now _ _

@[simp] theorem clear_timers (passage : Passage) (timer : BubbleTimer) (timers : TimerQueue) :
    (passage.clear timer timers).stage.timers = timers :=
  Stage.expire_timers _ _

theorem playback_fireThrough (limit : Duration) (passage : Passage) :
    (passage.fireThrough limit).stage.playback = passage.stage.playback := by
  fun_induction fireThrough limit passage with
  | case1 passage popped => rfl
  | case2 passage timer timers popped fired ih => rw [ih]; simp [fired]

theorem size_fireThrough_le (limit : Duration) (passage : Passage) :
    (passage.fireThrough limit).stage.timers.size ≤ passage.stage.timers.size := by
  fun_induction fireThrough limit passage with
  | case1 passage popped => exact Nat.le_refl _
  | case2 passage timer timers popped fired ih =>
    have gone := TimerQueue.size_of_popDue popped
    rw [Stage.expire_timers] at ih
    exact Nat.le_trans ih (by simp [gone])

/-- What has gone off by an earlier instant does not matter for a later one. -/
theorem fireThrough_fireThrough {early late : Duration} (le : early ≤ late) (passage : Passage) :
    (passage.fireThrough early).fireThrough late = passage.fireThrough late := by
  fun_induction fireThrough early passage with
  | case1 passage popped => rfl
  | case2 passage timer timers popped fired ih =>
    have due := (TimerQueue.pending_of_popDue popped).2.2
    rw [ih, fireThrough_of_due (TimerQueue.popDue_of_le popped (Nat.le_trans due le))]
    rfl

/-- All pending timers being at the instant or later, those that the inner loop takes out are at the
instant, where the clock is. It has rounds enough if there are more of them than timers. -/
theorem drain_spec (rounds : Nat) (here : passage.stage.now = time)
    (ahead : ∀ timer ∈ passage.stage.timers.pending, time ≤ timer.deadline) :
    passage.drain time rounds = some (passage.fireThrough time) ∨
      passage.drain time rounds = none ∧ rounds ≤ passage.stage.timers.size := by
  induction rounds generalizing passage with
  | zero => exact .inr ⟨rfl, Nat.zero_le _⟩
  | succ rounds ih =>
    rw [drain]
    cases pops : passage.stage.timers.popDue time with
    | none =>
      rw [fireThrough_of_none pops]
      exact .inl rfl
    | some both =>
      obtain ⟨timer, timers⟩ := both
      obtain ⟨pending, -, due⟩ := TimerQueue.pending_of_popDue pops
      have same : timer.deadline = time :=
        Duration.ext (Nat.le_antisymm due (ahead timer (TimerQueue.mem_of_popDue pops)))
      have stays : passage.startAt timer.deadline = passage := by rw [same, ← here]; rfl
      have aheadNext : ∀ other ∈ (passage.clear timer timers).stage.timers.pending,
          time ≤ other.deadline := by
        rw [clear_timers]
        exact fun other member => ahead other (pending ▸ List.mem_cons_of_mem _ member)
      rw [fireThrough_of_due pops, stays, TimerQueue.size_of_popDue pops]
      refine (ih ((clear_now passage timer timers).trans here) aheadNext).imp_right
        fun ⟨nothing, few⟩ => ⟨nothing, ?_⟩
      rw [clear_timers] at few
      exact Nat.succ_le_succ few

/-- The timers at the first deadline go off, and one there is. -/
theorem drain_startAt (next : passage.stage.timers.nextDeadline = some time) (rounds : Nat) :
    (passage.fireThrough time).stage.timers.size < passage.stage.timers.size ∧
      ((passage.startAt time).drain time rounds = some (passage.fireThrough time) ∨
        (passage.startAt time).drain time rounds = none ∧ rounds ≤ passage.stage.timers.size) := by
  obtain ⟨⟨first, member, atTime⟩, least⟩ := TimerQueue.nextDeadline_eq_some_iff.mp next
  have some_due : passage.stage.timers.popDue time ≠ none := fun none =>
    Duration.not_le_of_lt (TimerQueue.popDue_eq_none none first member) (atTime ▸ Duration.le_refl _)
  obtain ⟨⟨timer, timers⟩, pops⟩ := Option.ne_none_iff_exists'.mp some_due
  have startPops : (passage.startAt time).stage.timers.popDue time = some (timer, timers) := pops
  constructor
  · have fewer := size_fireThrough_le time ((passage.startAt timer.deadline).clear timer timers)
    rw [fireThrough_of_due pops, TimerQueue.size_of_popDue pops]
    rw [clear_timers] at fewer
    exact Nat.lt_succ_of_le fewer
  · have forgets : (passage.startAt time).fireThrough time = passage.fireThrough time := by
      rw [fireThrough_of_due startPops, fireThrough_of_due pops]
      rfl
    rw [← forgets]
    exact drain_spec rounds rfl least

/-! ### The check never strikes -/

/-- A tick that is due plans the next one a period later, or none. -/
theorem replanned_of_tickAt (due : passage.stage.playback.nextTick = some time)
    (ticks : passage.tickAt time = .ok later) :
    later.stage.playback.period = passage.stage.playback.period ∧
      (later.stage.playback.nextTick = none ∨ ∃ next,
        time.add? passage.stage.playback.period = some next ∧
          later.stage.playback.nextTick = some next) := by
  obtain ⟨outcome, ran, ticks⟩ := bind_eq_ok.mp ticks
  cases ticks
  obtain ⟨touched, playback, tick⟩ := Stage.ticked_of_runTick ran
  obtain ⟨period, next⟩ := tick.replanned due
  exact ⟨period, next.imp And.right And.right⟩

theorem runThrough_of_far
    (far : ∀ tick, passage.stage.playback.nextTick = some tick → target < tick) :
    passage.runThrough target = .ok (passage.fireThrough target) := by
  cases planned : passage.stage.playback.nextTick with
  | none => exact runThrough_of_idle passage planned
  | some tick => rw [runThrough_of_tick passage planned, if_neg (Duration.not_le_of_lt (far tick planned))]

theorem runThrough_of_due (period : 0 < passage.stage.playback.period.nanos)
    (due : passage.stage.playback.nextTick = some time) (reached : time ≤ target) :
    passage.runThrough target = (passage.fireThrough time).tickAt time >>= runThrough target := by
  rw [runThrough_of_tick passage due, if_pos reached]
  cases ticks : (passage.fireThrough time).tickAt time with
  | error fault => rfl
  | ok ticked =>
    obtain ⟨-, next⟩ := replanned_of_tickAt (by rw [playback_fireThrough, due]) ticks
    rw [playback_fireThrough] at next
    exact if_pos (ticksLeft_lt period due reached next)

/-- What has gone off on the way does not matter. -/
theorem runThrough_fireThrough (period : 0 < passage.stage.playback.period.nanos)
    (reached : time ≤ target)
    (first : ∀ tick, passage.stage.playback.nextTick = some tick → time ≤ tick) :
    (passage.fireThrough time).runThrough target = passage.runThrough target := by
  have playback := playback_fireThrough time passage
  by_cases soon : ∃ tick, passage.stage.playback.nextTick = some tick ∧ tick ≤ target
  · obtain ⟨tick, due, tickReached⟩ := soon
    rw [runThrough_of_due period due tickReached, runThrough_of_due (by rwa [playback])
      (by rw [playback, due]) tickReached, fireThrough_fireThrough (first tick due)]
  · have far (tick : Duration) (is : passage.stage.playback.nextTick = some tick) : target < tick :=
      Duration.lt_of_not_le fun tickReached => soon ⟨tick, is, tickReached⟩
    rw [runThrough_of_far far, runThrough_of_far (by rwa [playback]), fireThrough_fireThrough reached]

/-! ### What goes down -/

/-- How far the next tick is from the target, and then the number of timers. -/
def weight (target : Duration) (passage : Passage) : Nat ×ₗ Nat :=
  toLex (passage.ticksLeft target, passage.stage.timers.size)

theorem eq_fireThrough_of_drain (next : passage.stage.timers.nextDeadline = some time)
    (drains : (passage.startAt time).drain time rounds = some later) :
    later = passage.fireThrough time := by
  rcases (drain_startAt next rounds).2 with done | ⟨failed, -⟩
  · exact (Option.some.inj (drains.symm.trans done))
  · rw [drains] at failed
    cases failed

theorem Passes.period (passes : Passes target later earlier) :
    later.stage.playback.period = earlier.stage.playback.period := by
  have spec := due_spec target earlier
  cases passes with
  | bubbles first drains =>
    rw [first] at spec
    rw [eq_fireThrough_of_drain spec.1 drains, playback_fireThrough]
  | tick first ticks =>
    rw [first] at spec
    exact (replanned_of_tickAt spec.1 ticks).1

/-- A tick may arm timers, but brings the next tick closer; letting timers go off leaves it where it
is. -/
theorem Passes.weight_lt (passes : Passes target later earlier)
    (period : 0 < earlier.stage.playback.period.nanos) : later.weight target < earlier.weight target := by
  have spec := due_spec target earlier
  cases passes with
  | bubbles first drains =>
    rw [first] at spec
    rw [eq_fireThrough_of_drain spec.1 drains]
    refine Prod.Lex.toLex_lt_toLex.mpr (.inr ⟨?_, (drain_startAt spec.1 0).1⟩)
    simp only [ticksLeft, playback_fireThrough]
  | tick first ticks =>
    rw [first] at spec
    obtain ⟨-, next⟩ := replanned_of_tickAt spec.1 ticks
    exact Prod.Lex.toLex_lt_toLex.mpr (.inl (ticksLeft_lt period spec.1 spec.2.1 next))

/-- Rounds cannot follow one another for ever. -/
theorem acc_passes (target : Duration) (passage : Passage)
    (period : 0 < passage.stage.playback.period.nanos) : Acc (Passes target) passage := by
  induction weighs : passage.weight target using WellFoundedLT.induction generalizing passage with
  | ind weight ih =>
    refine ⟨_, fun later passes => ?_⟩
    exact ih (later.weight target) (weighs ▸ passes.weight_lt period) later (by rwa [passes.period]) rfl

/-- With rounds enough the loop ends, and comes to what the checked one comes to. -/
theorem loop_ends (target : Duration) (passage : Passage)
    (period : 0 < passage.stage.playback.period.nanos) : ∃ enough, ∀ rounds, enough ≤ rounds →
      passage.loop target rounds = some (passage.runThrough target) := by
  induction acc_passes target passage period with
  | intro passage _ ih =>
    have spec := due_spec target passage
    cases first : passage.due target with
    | bubbles time =>
      rw [first] at spec
      obtain ⟨next, reached, beforeTick⟩ := spec
      have drains {rounds : Nat} (more : passage.stage.timers.size < rounds) :
          (passage.startAt time).drain time rounds = some (passage.fireThrough time) :=
        (drain_startAt next rounds).2.resolve_right fun short => Nat.not_le_of_lt more short.2
      have passes : Passes target (passage.fireThrough time) passage :=
        .bubbles first (drains (Nat.lt_succ_self _))
      obtain ⟨enough, ends⟩ := ih _ passes (by rwa [passes.period])
      -- Each round leaves its inner loop as many rounds as the loop itself has left.
      refine ⟨max enough (passage.stage.timers.size + 1) + 1, fun rounds le => ?_⟩
      obtain ⟨rest, rfl⟩ := Nat.exists_eq_add_of_le' (Nat.le_of_add_left_le le)
      have both := Nat.max_le.mp (Nat.le_of_succ_le_succ le)
      rw [loop]
      simp only [first, drains both.2, Option.bind_some]
      rw [ends rest both.1, runThrough_fireThrough period reached beforeTick]
    | tick time =>
      rw [first] at spec
      obtain ⟨due, reached, afterTimers⟩ := spec
      rw [runThrough_of_due period due reached, fireThrough_of_late afterTimers]
      cases ticks : passage.tickAt time with
      | error fault =>
        refine ⟨1, fun rounds le => ?_⟩
        obtain ⟨rest, rfl⟩ := Nat.exists_eq_add_of_le' le
        rw [loop]
        simp only [first, ticks, bind, Except.bind]
      | ok ticked =>
        have passes : Passes target ticked passage := .tick first ticks
        obtain ⟨enough, ends⟩ := ih _ passes (by rwa [passes.period])
        refine ⟨enough + 1, fun rounds le => ?_⟩
        obtain ⟨rest, rfl⟩ := Nat.exists_eq_add_of_le' (Nat.le_of_add_left_le le)
        rw [loop]
        simp only [first, ticks, bind, Except.bind]
        exact ends rest (Nat.le_of_succ_le_succ le)
    | nothing =>
      rw [first] at spec
      refine ⟨1, fun rounds le => ?_⟩
      obtain ⟨rest, rfl⟩ := Nat.exists_eq_add_of_le' le
      rw [loop, runThrough_of_far spec.tick, fireThrough_of_late spec.timers]
      simp only [first]

end Passage

namespace Stage

variable {stage : Stage} {config : Config}

theorem advanceTime_eq_arrive (stage : Stage) (elapsed : Duration) : stage.advanceTime elapsed =
    (Passage.runThrough (stage.now.saturatingAdd elapsed) { stage }).map
      (Passage.arrive (stage.now.saturatingAdd elapsed)) := by
  show (Passage.runThrough _ _ >>= _) = _
  cases Passage.runThrough (stage.now.saturatingAdd elapsed) { stage } <;> rfl

/-- Moving the clock forward always ends, however far, although a tick may arm timers for any number
of actors, also ones that are due at once, and playback may go on for ever: round does not follow
round for ever, and with rounds enough the loop and its inner loop come to an end. The only other end
is a tick due on the way whose next one would lie past the end of the clock. -/
theorem advanceTime_terminates (reachable : Reachable config stage) (elapsed : Duration) :
    Acc (Passage.Passes (stage.now.saturatingAdd elapsed)) { stage } ∧
    ∃ enough result,
      (∀ rounds, enough ≤ rounds →
        Passage.loop (stage.now.saturatingAdd elapsed) rounds { stage } = some result) ∧
      stage.advanceTime elapsed = result.map (Passage.arrive (stage.now.saturatingAdd elapsed)) ∧
      ∀ fault, result = .error fault ↔
        fault = .clockOverflow ∧ (Operation.advanceTime elapsed).Overruns stage := by
  have period := reachable.period_pos
  have arrives := advanceTime_eq_arrive stage elapsed
  obtain ⟨enough, ends⟩ := Passage.loop_ends (stage.now.saturatingAdd elapsed) { stage } period
  refine ⟨Passage.acc_passes _ _ period, enough, _, ends, arrives, fun fault => ?_⟩
  rw [← advanceTime_eq_error (steady_of_reachable reachable) period, arrives]
  cases Passage.runThrough (stage.now.saturatingAdd elapsed) { stage } <;> simp [Except.map]

/-- Two actors within reach of each other trade programs on every tick and never finish. Both say
something for a tenth of a nanosecond, which is over at the instant at which it starts. -/
theorem advanceTime_terminates_swaps :
    ∃ stage enough passage, Reachable {} stage ∧
      (∀ rounds, enough ≤ rounds →
        Passage.loop (stage.now.saturatingAdd (.ofMillis 2000)) rounds { stage } =
          some (.ok passage)) ∧
      passage.stage.isRunning = true ∧ passage.reports.toList.map (·.swaps.length) = [1, 1, 1, 1] := by
  obtain ⟨stage, reachable, passes⟩ := exists_reachable {}
    [ .insertActor {
        id := ⟨1, by decide⟩
        name := "Cat"
        program := [.bubble .speech "Hi" (some 1e-10), .turn 10] },
      .insertActor {
        id := ⟨2, by decide⟩
        name := "Dog"
        program := [.bubble .speech "Ho" (some 1e-10), .turn 10] },
      .play ]
    (fun stage => (stage.advanceTime (.ofMillis 2000)).toOption.any
      fun (whole : Outcome (List TickReport)) => whole.stage.isRunning &&
        decide (whole.value.map (·.swaps.length) = [1, 1, 1, 1]))
    rfl (by simp [Operation.hasRoom]) (by decide +kernel)
  obtain ⟨whole, done, ends⟩ := exists_outcome passes
  simp only [Bool.and_eq_true, decide_eq_true_eq] at ends
  obtain ⟨-, enough, result, loops, arrives, -⟩ :=
    advanceTime_terminates reachable.reachable (.ofMillis 2000)
  rw [done] at arrives
  cases result with
  | error fault => cases arrives
  | ok passage =>
    rw [Except.ok.inj arrives, Passage.isRunning_arrive, Passage.value_arrive] at ends
    exact ⟨stage, enough, passage, reachable.reachable, loops, ends⟩

end Stage

end SpriteStage
