import SpriteStage.Proofs.Stage.Faults

/-!
# Time is additive

How a stretch of time is cut into calls does not matter. A log up to a later instant starts with the
log up to an earlier one (`Unfolds.cut`), and where the clock stood before makes no difference to
what happens next (`Unfolds.from_any_time`). Main statement: `time_additive`.
-/

namespace SpriteStage

namespace Stage

variable {stage between mid last : Stage} {target early : Duration} {log : List Happening}
  {happening : Happening}

/-! ### Cutting a log -/

theorem Calm.mono (calm : stage.Calm target) (le : early ≤ target) : stage.Calm early :=
  ⟨fun timer member => Nat.lt_of_le_of_lt le (calm.timers timer member),
    fun time is => Nat.lt_of_le_of_lt le (calm.tick time is)⟩

/-- Nothing is due before the thing that is due first. -/
theorem Happens.calm (happens : stage.Happens happening between) (late : ¬ happening.time ≤ early) :
    stage.Calm early := by
  have later := Duration.lt_of_not_le late
  cases happens with
  | cleared popped first =>
    exact ⟨fun timer member => Nat.lt_of_lt_of_le later (TimerQueue.deadline_le_of_popDue popped timer member),
      fun time is => Nat.lt_of_lt_of_le later (first time is)⟩
  | ticked due first ran =>
    refine ⟨fun timer member => Nat.lt_trans later (first timer member), fun time is => ?_⟩
    rw [due] at is
    cases is
    exact later

theorem Unfolds.cut (unfolds : Unfolds target stage log last) (calm : last.Calm target)
    (le : early ≤ target) :
    ∃ before after mid, log = before ++ after ∧ Unfolds early stage before mid ∧ mid.Calm early ∧
      Unfolds target mid after last := by
  induction unfolds with
  | nothing => exact ⟨[], [], _, rfl, .nothing, calm.mono le, .nothing⟩
  | @next _ _ _ happening _ happens reached later ih =>
    by_cases soon : happening.time ≤ early
    · obtain ⟨before, after, mid, split, unfoldsEarly, calmEarly, unfoldsLate⟩ := ih calm
      exact ⟨_ :: before, after, mid, by rw [split]; rfl, .next happens soon unfoldsEarly, calmEarly,
        unfoldsLate⟩
    · exact ⟨[], _, _, rfl, .nothing, happens.calm soon, .next happens reached later⟩

theorem Happens.from_any_time (happens : stage.Happens happening between) (now : Duration) :
    { stage with now }.Happens happening between := by
  cases happens with
  | cleared popped first => exact .cleared popped first
  | ticked due first ran => exact .ticked due first ran

theorem Unfolds.from_any_time (unfolds : Unfolds target stage log last) (calm : last.Calm target)
    (now : Duration) :
    ∃ last', Unfolds target { stage with now } log last' ∧ last'.Calm target ∧
      ∀ later, { last' with now := later } = { last with now := later } := by
  cases unfolds with
  -- Only if nothing happens does the end still know where the clock stood.
  | nothing => exact ⟨_, .nothing, ⟨calm.timers, calm.tick⟩, fun _ => rfl⟩
  | next happens reached later =>
    exact ⟨last, .next (happens.from_any_time now) reached later, calm, fun _ => rfl⟩

theorem Happens.observers (happens : stage.Happens happening between) :
    between.observers = stage.observers := by
  cases happens with
  | cleared popped first => simp
  | ticked due first ran =>
    obtain ⟨_, _, tick⟩ := ticked_of_runTick ran
    exact tick.observers

theorem Unfolds.observers (unfolds : Unfolds target stage log last) :
    last.observers = stage.observers := by
  induction unfolds with
  | nothing => rfl
  | next happens reached later ih => exact ih.trans happens.observers

theorem Unfolds.active (unfolds : Unfolds target stage log last) : last.active = stage.active := by
  induction unfolds with
  | nothing => rfl
  | next happens reached later ih =>
    rw [ih]
    cases happens with
    | cleared popped first => simp
    | ticked due first ran =>
      obtain ⟨_, _, tick⟩ := ticked_of_runTick ran
      exact tick.active

theorem Unfolds.period (unfolds : Unfolds target stage log last) :
    last.playback.period = stage.playback.period :=
  (settled_of_changes (changes_of_unfolds unfolds)).2

/-! ### Calls in a row -/

theorem saturatingAdd_add (now : Duration) {first second total : Duration}
    (sum : first.add? second = some total) :
    (now.saturatingAdd first).saturatingAdd second = now.saturatingAdd total := by
  have := Duration.add?_eq_some_iff.mp sum
  simp only [Duration.saturatingAdd, Duration.ext_iff]
  omega

/-- Nothing that happens changes the period, nor who observes. -/
theorem advanceTime_frame (period : 0 < stage.playback.period.nanos) {elapsed : Duration}
    {outcome : Outcome (List TickReport)} (done : stage.advanceTime elapsed = .ok outcome) :
    0 < outcome.stage.playback.period.nanos ∧ outcome.stage.observers = stage.observers := by
  obtain ⟨log, last, unfolds, -, rfl⟩ := unfolds_of_advanceTime period done
  refine ⟨?_, unfolds.observers⟩
  show 0 < last.playback.period.nanos
  rw [unfolds.period]
  exact period

/-- A stretch of time comes to what its two parts come to, one after the other. -/
theorem advanceTime_eq_ok_iff_parts (period : 0 < stage.playback.period.nanos)
    {first second total : Duration}
    (together : (stage.now.saturatingAdd first).saturatingAdd second = stage.now.saturatingAdd total)
    {whole : Outcome (List TickReport)} :
    stage.advanceTime total = .ok whole ↔ ∃ head tail, stage.advanceTime first = .ok head ∧
      head.stage.advanceTime second = .ok tail ∧
      whole = ⟨head.value ++ tail.value, tail.stage, head.notices ++ tail.notices⟩ := by
  have earlier : stage.now.saturatingAdd first ≤ stage.now.saturatingAdd total := by
    rw [← together]
    exact Duration.le_saturatingAdd _ _
  constructor
  · intro done
    obtain ⟨log, last, unfolds, calm, rfl⟩ := unfolds_of_advanceTime period done
    obtain ⟨before, after, mid, rfl, unfoldsEarly, calmEarly, unfoldsLate⟩ := unfolds.cut calm earlier
    obtain ⟨last', unfoldsRest, calmRest, sameEnd⟩ :=
      unfoldsLate.from_any_time calm (stage.now.saturatingAdd first)
    rw [← together] at unfoldsRest calmRest
    have head := advanceTime_of_unfolds period unfoldsEarly calmEarly
    have tail := advanceTime_of_unfolds (advanceTime_frame period head).1 unfoldsRest calmRest
    refine ⟨_, _, head, tail, ?_⟩
    simp only [afterwards, together, sameEnd, List.filterMap_append, List.flatMap_append]
  · rintro ⟨head, tail, headDone, tailDone, rfl⟩
    have later := (advanceTime_frame period headDone).1
    obtain ⟨before, mid, unfoldsEarly, calmEarly, rfl⟩ := unfolds_of_advanceTime period headDone
    obtain ⟨after, last, unfoldsRest, calmRest, rfl⟩ := unfolds_of_advanceTime later tailDone
    obtain ⟨last', unfoldsLate, calmLate, sameEnd⟩ := unfoldsRest.from_any_time calmRest mid.now
    simp only [afterwards, together] at unfoldsLate calmLate
    rw [advanceTime_of_unfolds period ((unfoldsEarly.mono earlier).append unfoldsLate) calmLate]
    simp only [afterwards, together, sameEnd, List.filterMap_append, List.flatMap_append]

theorem advanceTime_split (period : 0 < stage.playback.period.nanos) {first second total : Duration}
    (sum : first.add? second = some total) {whole : Outcome (List TickReport)}
    (done : stage.advanceTime total = .ok whole) :
    ∃ head tail, stage.advanceTime first = .ok head ∧ head.stage.advanceTime second = .ok tail ∧
      tail.stage = whole.stage ∧ head.notices ++ tail.notices = whole.notices ∧
      head.value ++ tail.value = whole.value ∧ head.stage.observers = stage.observers := by
  obtain ⟨head, tail, headDone, tailDone, rfl⟩ :=
    (advanceTime_eq_ok_iff_parts period (saturatingAdd_add stage.now sum)).mp done
  exact ⟨head, tail, headDone, tailDone, rfl, rfl, rfl, (advanceTime_frame period headDone).2⟩

end Stage

/-- The nanoseconds of several spans together. -/
def totalNanos : List Duration → Nat
  | [] => 0
  | first :: rest => first.nanos + totalNanos rest

/-- What calls in a row come to. -/
structure Calls where
  stage : Stage
  reports : List TickReport := []
  notices : List Notice := []
  /-- What observers got, each call telling those registered then. -/
  deliveries : List (Nat × Notice) := []

namespace Stage

variable {stage : Stage} {config : Config}

/-- Moves the clock forward several times in a row. -/
def advanceEach (stage : Stage) : List Duration → Except Fault Calls
  | [] => .ok { stage }
  | elapsed :: rest => do
    let head ← stage.advanceTime elapsed
    let tail ← head.stage.advanceEach rest
    return {
      stage := tail.stage
      reports := head.value ++ tail.reports
      notices := head.notices ++ tail.notices
      deliveries := stage.deliveries head.notices ++ tail.deliveries }

theorem advanceTime_ok {elapsed : Duration} (reachable : ReachableWithRoom config stage)
    (runs : stage.advanceTime elapsed ≠ .error .clockOverflow) :
    ∃ outcome, stage.advanceTime elapsed = .ok outcome := by
  cases done : stage.advanceTime elapsed with
  | ok outcome => exact ⟨outcome, rfl⟩
  | error fault =>
    rw [advanceTime_fault reachable done] at done
    exact absurd done runs

theorem advanceEach_eq (period : 0 < stage.playback.period.nanos) {first : Duration}
    {rest : List Duration} {total : Duration}
    (sum : total.nanos = totalNanos (first :: rest)) {whole : Outcome (List TickReport)}
    (done : stage.advanceTime total = .ok whole) :
    stage.advanceEach (first :: rest) =
      .ok ⟨whole.stage, whole.value, whole.notices, stage.deliveries whole.notices⟩ := by
  induction rest generalizing stage first total whole with
  | nil =>
    have same : total = first := by simpa [totalNanos, Duration.ext_iff] using sum
    rw [← same]
    simp [advanceEach, done, bind, Except.bind, pure, Except.pure, deliveries]
  | cons second more ih =>
    -- All calls but the first are taken as one, which the induction hypothesis cuts further.
    have split : total.nanos = first.nanos + totalNanos (second :: more) := sum
    have fits : totalNanos (second :: more) ≤ maxNanos :=
      Nat.le_trans (split ▸ Nat.le_add_left _ _) total.nanos_le
    obtain ⟨remaining, is⟩ : ∃ remaining : Duration, remaining.nanos = totalNanos (second :: more) :=
      ⟨⟨_, fits⟩, rfl⟩
    have parts : first.add? remaining = some total :=
      Duration.add?_eq_some_iff.mpr (by rw [is]; exact split)
    obtain ⟨head, tail, headDone, tailDone, sameStage, notices, reports, observers⟩ :=
      advanceTime_split period parts done
    have later : 0 < head.stage.playback.period.nanos := by
      rw [(settled_of_changes (changes_advanceTime period headDone)).2]
      exact period
    rw [advanceEach, headDone]
    show (head.stage.advanceEach (second :: more) >>= _) = _
    rw [ih later is tailDone]
    simp [bind, Except.bind, pure, Except.pure, sameStage, ← notices, reports, deliveries, observers]

/-- How a stretch of time is cut into calls does not matter, as long as no tick in it runs past the
end of the clock: the calls leave the stage that one call leaves, tell observers the same in the same
order, and their reports together are the reports of the one call. A cut has one call at least, since
without any call not even what is due now happens. -/
theorem time_additive (reachable : ReachableWithRoom config stage) {total : Duration}
    (runs : stage.advanceTime total ≠ .error .clockOverflow) :
    (∀ first second, first.add? second = some total →
      ∃ whole head tail, stage.advanceTime total = .ok whole ∧ stage.advanceTime first = .ok head ∧
        head.stage.advanceTime second = .ok tail ∧ tail.stage = whole.stage ∧
        head.notices ++ tail.notices = whole.notices ∧ head.value ++ tail.value = whole.value ∧
        stage.deliveries head.notices ++ head.stage.deliveries tail.notices =
          stage.deliveries whole.notices) ∧
    ∀ first rest, total.nanos = totalNanos (first :: rest) →
      ∃ whole, stage.advanceTime total = .ok whole ∧ stage.advanceEach (first :: rest) =
        .ok ⟨whole.stage, whole.value, whole.notices, stage.deliveries whole.notices⟩ := by
  have period := period_pos_of_reachable reachable
  obtain ⟨whole, done⟩ := advanceTime_ok reachable runs
  constructor
  · intro first second sum
    obtain ⟨head, tail, headDone, tailDone, sameStage, notices, reports, observers⟩ :=
      advanceTime_split period sum done
    refine ⟨whole, head, tail, done, headDone, tailDone, sameStage, notices, reports, ?_⟩
    simp only [deliveries, observers, ← notices, List.flatMap_append]
  · intro first rest sum
    exact ⟨whole, done, advanceEach_eq period sum done⟩

/-- Two seconds cut in two: the actor speaks on the tick in the first part, and its bubble clears in
the second. -/
theorem time_additive_speech :
    ∃ stage whole head tail, ReachableWithRoom {} stage ∧
      stage.advanceTime (.ofMillis 2000) ≠ .error .clockOverflow ∧
      stage.advanceTime (.ofMillis 2000) = .ok whole ∧
      whole.notices.map (·.time.millis) = [500, 500, 1500] ∧
      stage.advanceTime (.ofMillis 700) = .ok head ∧ head.stage.advanceTime (.ofMillis 1300) = .ok tail ∧
      tail.stage = whole.stage ∧ head.notices ++ tail.notices = whole.notices := by
  obtain ⟨stage, reachable, passes⟩ := exists_reachable {}
    [ .insertActor { id := ⟨7, by decide⟩, name := "Cat", program := [.bubble .speech "Hello" (some 1)] },
      .play ]
    (fun stage => (stage.advanceTime (.ofMillis 2000)).toOption.any fun whole =>
      whole.notices.map (·.time.millis) = [500, 500, 1500])
    rfl (by simp [Operation.hasRoom]) (by decide +kernel)
  have runs : stage.advanceTime (.ofMillis 2000) ≠ .error .clockOverflow := by
    intro failed
    rw [failed] at passes
    cases passes
  obtain ⟨whole, head, tail, done, headDone, tailDone, sameStage, notices, -⟩ :=
    (time_additive reachable runs).1 (.ofMillis 700) (.ofMillis 1300) (by decide +kernel)
  rw [done] at passes
  exact ⟨stage, whole, head, tail, reachable, runs, done, of_decide_eq_true passes, headDone, tailDone,
    sameStage, notices⟩

end Stage

end SpriteStage
