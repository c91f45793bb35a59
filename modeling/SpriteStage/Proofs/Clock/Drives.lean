import Mathlib.Data.Nat.Find
import SpriteStage.Stage.Drive
import SpriteStage.Proofs.Clock.Additivity
import SpriteStage.Proofs.Clock.Chronology

/-!
# Drives

A drive feeds a stage the same time in more or fewer frames. Since time is additive, behind each of
its frames stands what one stretch of time up to there comes to (`Ran`), so a drive that returns does
so at the first frame that finds the stage quiescent or the limit reached. Once a stage is quiescent
nothing happens to it any more, so from the same instant on every frame finds it so, however long
frames are (`QuietFrom`). Main statement: `frame_rate_independent`.
-/

namespace SpriteStage

namespace Duration

/-- The span so many times, held at the end of the clock. -/
def times (span : Duration) (count : Nat) : Duration :=
  ⟨min (count * span.nanos) maxNanos, Nat.min_le_right _ _⟩

@[simp] theorem times_zero (span : Duration) : span.times 0 = zero := by
  simp [times, zero]

/-- One span more. -/
theorem saturatingAdd_times (now span : Duration) (count : Nat) :
    (now.saturatingAdd (span.times count)).saturatingAdd span =
      now.saturatingAdd (span.times (count + 1)) := by
  simp only [times, saturatingAdd, Duration.ext_iff, Nat.succ_mul]
  omega

/-- So many nanoseconds are over behind as many spans. -/
theorem le_saturatingAdd_times (now quiet : Duration) {span : Duration} (positive : 0 < span.nanos) :
    quiet ≤ now.saturatingAdd (span.times quiet.nanos) := by
  have many : quiet.nanos * 1 ≤ quiet.nanos * span.nanos := Nat.mul_le_mul_left _ positive
  have := quiet.nanos_le
  simp only [times, saturatingAdd, Duration.le_def]
  omega

/-- The first of the spans that reaches an instant passes it by less than a span. -/
theorem saturatingAdd_times_lt {now quiet span : Duration} {count : Nat} (positive : 0 < span.nanos)
    (ahead : now ≤ quiet) (short : ∀ fewer < count, now.saturatingAdd (span.times fewer) < quiet) :
    (now.saturatingAdd (span.times count)).nanos < quiet.nanos + span.nanos := by
  cases count with
  | zero =>
    rw [Duration.le_def] at ahead
    simp only [times, saturatingAdd, Nat.zero_mul]
    omega
  | succ fewer =>
    have before := short fewer (Nat.lt_succ_self fewer)
    rw [← saturatingAdd_times]
    simp only [Duration.lt_def] at before
    show min _ _ < _
    omega

end Duration

namespace Stage

/-- The instant from which on a stage that is left to itself is quiescent. -/
structure QuietFrom (stage : Stage) (quiet : Duration) : Prop where
  ahead : stage.now ≤ quiet
  reaches : ∀ elapsed, ∃ outcome, stage.advanceTime elapsed = .ok outcome ∧
    outcome.stage.now = stage.now.saturatingAdd elapsed ∧
    (outcome.stage.isQuiescent = true ↔ quiet ≤ outcome.stage.now)

variable {stage between last : Stage} {target : Duration} {log : List Happening}
  {happening : Happening}

theorem isQuiescent_iff :
    stage.isQuiescent = true ↔ stage.playback.nextTick = none ∧ stage.timers.pending = [] := by
  rw [isQuiescent, isRunning, Playback.isRunning_eq_isSome, TimerQueue.isEmpty]
  simp

/-- Nothing is ever due on a quiescent stage. -/
theorem calm_of_quiescent (quiescent : stage.isQuiescent = true) (target : Duration) :
    stage.Calm target := by
  obtain ⟨idle, bare⟩ := isQuiescent_iff.mp quiescent
  constructor
  · simp [bare]
  · simp [idle]

theorem Happens.not_quiescent (happens : stage.Happens happening between) :
    stage.isQuiescent = false := by
  refine Bool.eq_false_iff.mpr fun quiescent => ?_
  obtain ⟨idle, bare⟩ := isQuiescent_iff.mp quiescent
  cases happens with
  | cleared popped first =>
    have pending := TimerQueue.mem_of_popDue popped
    rw [bare] at pending
    cases pending
  | ticked due first ran =>
    rw [idle] at due
    cases due

/-! ### Where a log ends -/

/-- A log unfolds up to any instant that nothing in it passes. -/
theorem Unfolds.within {other : Duration} (unfolds : Unfolds target stage log last)
    (inside : ∀ happening ∈ log, happening.time ≤ other) : Unfolds other stage log last := by
  induction unfolds with
  | nothing => exact .nothing
  | next happens _ _ ih =>
    rw [List.forall_mem_cons] at inside
    exact .next happens inside.1 (ih inside.2)

theorem Unfolds.last_now_le (unfolds : Unfolds target stage log last) (started : stage.now ≤ target) :
    last.now ≤ target := by
  induction unfolds with
  | nothing => exact started
  | next happens reached _ ih =>
    apply ih
    rw [happens.now]
    exact reached

/-- The clock ends where the last thing happened. -/
theorem Unfolds.le_last_now (unfolds : Unfolds target stage log last) (tidy : Tidy stage)
    (timely : Timely stage) : stage.now ≤ last.now ∧ ∀ happening ∈ log, happening.time ≤ last.now := by
  induction unfolds with
  | nothing => exact ⟨Duration.le_refl _, by simp⟩
  | next happens reached later ih =>
    have changes := changes_of_happens happens
    obtain ⟨first, others⟩ := ih (tidy_of_changes changes tidy) (timely_of_changes changes timely)
    rw [happens.now] at first
    refine ⟨Duration.le_trans (happens.now_le tidy timely) first, ?_⟩
    exact List.forall_mem_cons.mpr ⟨first, others⟩

/-- Before a log that leaves the stage quiescent is over, the stage is not. -/
theorem Unfolds.cut_not_quiescent {early : Duration} (unfolds : Unfolds last.now stage log last)
    (quiescent : last.isQuiescent = true) (started : stage.now ≤ early) (soon : early < last.now) :
    ∃ before mid, Unfolds early stage before mid ∧ mid.Calm early ∧ mid.isQuiescent = false := by
  obtain ⟨before, after, mid, -, unfoldsEarly, calm, unfoldsLate⟩ :=
    unfolds.cut (calm_of_quiescent quiescent _) (Duration.le_of_lt soon)
  refine ⟨before, mid, unfoldsEarly, calm, ?_⟩
  cases unfoldsLate with
  | nothing => exact absurd (unfoldsEarly.last_now_le started) (Duration.not_le_of_lt soon)
  | next happens reached later => exact happens.not_quiescent

/-- A stage that some time leaves quiescent is so from one instant on, and from then on no more time
makes a difference to it, to its observers or to the reports. -/
theorem exists_quietFrom {total : Duration} {whole : Outcome (List TickReport)}
    (period : 0 < stage.playback.period.nanos) (tidy : Tidy stage) (timely : Timely stage)
    (done : stage.advanceTime total = .ok whole) (quiescent : whole.stage.isQuiescent = true) :
    ∃ quiet, QuietFrom stage quiet ∧ ∀ elapsed, quiet ≤ stage.now.saturatingAdd elapsed →
      stage.advanceTime elapsed = .ok { whole with
        stage := { whole.stage with now := stage.now.saturatingAdd elapsed } } := by
  obtain ⟨log, last, unfolds, -, rfl⟩ := unfolds_of_advanceTime period done
  have quiescent : last.isQuiescent = true := quiescent
  obtain ⟨ahead, inside⟩ := unfolds.le_last_now tidy timely
  have afterQuiet (elapsed : Duration) (late : last.now ≤ stage.now.saturatingAdd elapsed) :
      stage.advanceTime elapsed = .ok (afterwards (stage.now.saturatingAdd elapsed) log last) :=
    advanceTime_of_unfolds period
      (unfolds.within fun happening member => Duration.le_trans (inside happening member) late)
      (calm_of_quiescent quiescent _)
  refine ⟨last.now, ⟨ahead, fun elapsed => ?_⟩, afterQuiet⟩
  by_cases late : last.now ≤ stage.now.saturatingAdd elapsed
  · exact ⟨_, afterQuiet elapsed late, rfl, iff_of_true quiescent late⟩
  · obtain ⟨before, mid, unfoldsEarly, calm, busy⟩ := (unfolds.within inside).cut_not_quiescent quiescent
      (Duration.le_saturatingAdd stage.now elapsed) (Duration.lt_of_not_le late)
    refine ⟨_, advanceTime_of_unfolds period unfoldsEarly calm, rfl, iff_of_false ?_ late⟩
    exact Bool.eq_false_iff.mp busy

end Stage

namespace Drive

variable {stage : Stage} {limit : Option Duration} {frame : Duration} {n budget : Nat}
  {drive fed : Drive} {exit : DriveExit} {whole : Outcome (List TickReport)}

/-- The drive behind its frame of a number, from what all the time up to that frame came to. -/
def behind (limit : Option Duration) (frame : Duration) (n : Nat)
    (whole : Outcome (List TickReport)) : Drive :=
  ⟨whole.stage, limit, n * frame.nanos, n + 1, whole.notices.toArray, whole.value.toArray⟩

/-- A drive that has run so many frames: one stretch of time would have come to the same. -/
inductive Ran (stage : Stage) (limit : Option Duration) (frame : Duration) : Nat → Drive → Prop
  | start : Ran stage limit frame 0 { stage, limit }
  | fed {n : Nat} {whole : Outcome (List TickReport)}
      (done : stage.advanceTime (frame.times n) = .ok whole) :
      Ran stage limit frame (n + 1) (behind limit frame n whole)

/-- The drive after more has happened. -/
def joined (drive : Drive) (elapsed : Duration) (moved : Outcome (List TickReport)) : Drive :=
  { drive with
    stage := moved.stage
    spent := drive.spent + elapsed.nanos
    frames := drive.frames + 1
    notices := drive.notices ++ moved.notices.toArray
    reports := drive.reports ++ moved.value.toArray }

theorem feed_eq_ok {elapsed : Duration} : drive.feed elapsed = .ok fed ↔
    ∃ moved, drive.stage.advanceTime elapsed = .ok moved ∧ drive.joined elapsed moved = fed :=
  bind_eq_ok.trans (exists_congr fun _ => and_congr_right fun _ => pure_eq_ok)

theorem joined_start (stage : Stage) (limit : Option Duration) (frame : Duration)
    (whole : Outcome (List TickReport)) :
    ({ stage, limit } : Drive).joined .zero whole = behind limit frame 0 whole := by
  simp [joined, behind, Duration.zero]

theorem joined_behind (limit : Option Duration) (frame : Duration) (n : Nat)
    (head tail : Outcome (List TickReport)) :
    (behind limit frame n head).joined frame tail = behind limit frame (n + 1)
      ⟨head.value ++ tail.value, tail.stage, head.notices ++ tail.notices⟩ := by
  simp [joined, behind, Nat.succ_mul]

/-- A frame brings the drive to what all the time up to that frame comes to. -/
theorem feed_eq_ok_of_ran (period : 0 < stage.playback.period.nanos)
    (ran : Ran stage limit frame n drive) :
    drive.feed (if drive.frames = 0 then .zero else frame) = .ok fed ↔
      ∃ whole, stage.advanceTime (frame.times n) = .ok whole ∧ behind limit frame n whole = fed := by
  rw [feed_eq_ok]
  cases ran with
  | start => simp only [if_true, joined_start stage limit frame, Duration.times_zero]
  | @fed n head done =>
    have parts {whole : Outcome (List TickReport)} :=
      @Stage.advanceTime_eq_ok_iff_parts stage period _ _ _
        (Duration.saturatingAdd_times stage.now frame n) whole
    have later : ¬ (behind limit frame n head).frames = 0 := Nat.succ_ne_zero n
    simp only [later, if_false, joined_behind]
    constructor
    · rintro ⟨tail, tailDone, rfl⟩
      exact ⟨_, parts.mpr ⟨head, tail, done, tailDone, rfl⟩, rfl⟩
    · rintro ⟨whole, wholeDone, rfl⟩
      obtain ⟨first, tail, firstDone, tailDone, rfl⟩ := parts.mp wholeDone
      rw [done] at firstDone
      cases firstDone
      exact ⟨tail, tailDone, rfl⟩

/-- The drive does not end with its frame of a number. -/
def Passes (stage : Stage) (limit : Option Duration) (frame : Duration) (n : Nat) : Prop :=
  ∃ whole, stage.advanceTime (frame.times n) = .ok whole ∧ (behind limit frame n whole).exit? = none

/-- A drive returns with the first frame that it does not pass. -/
theorem run_eq_ok (period : 0 < stage.playback.period.nanos) (ran : Ran stage limit frame n drive)
    {ended : Drive} : run frame budget drive = .ok (ended, some exit) ↔
      ∃ last whole, n ≤ last ∧ last < n + budget ∧ stage.advanceTime (frame.times last) = .ok whole ∧
        ended = behind limit frame last whole ∧ ended.exit? = some exit ∧
        ∀ m, n ≤ m → m < last → Passes stage limit frame m := by
  induction budget generalizing n drive with
  | zero =>
    refine iff_of_false (fun done => (nomatch done)) ?_
    rintro ⟨last, _, le, lt, -⟩
    omega
  | succ budget ih =>
    unfold run
    rw [bind_eq_ok]
    constructor
    · rintro ⟨fed, feeds, goesOn⟩
      obtain ⟨whole, done, rfl⟩ := (feed_eq_ok_of_ran period ran).mp feeds
      split at goesOn
      · rename_i exits
        cases goesOn
        exact ⟨n, whole, Nat.le_refl n, by omega, done, rfl, exits, by omega⟩
      · rename_i goes
        obtain ⟨last, other, le, lt, reached, same, exits, passes⟩ := (ih (.fed done)).mp goesOn
        refine ⟨last, other, by omega, by omega, reached, same, exits, fun m from_n before => ?_⟩
        rcases Nat.eq_or_lt_of_le from_n with rfl | later
        · exact ⟨whole, done, goes⟩
        · exact passes m later before
    · rintro ⟨last, whole, le, lt, done, rfl, exits, passes⟩
      rcases Nat.eq_or_lt_of_le le with rfl | later
      · refine ⟨_, (feed_eq_ok_of_ran period ran).mpr ⟨whole, done, rfl⟩, ?_⟩
        rw [exits]
        rfl
      · obtain ⟨earlier, first, goes⟩ := passes n (Nat.le_refl n) later
        refine ⟨_, (feed_eq_ok_of_ran period ran).mpr ⟨earlier, first, rfl⟩, ?_⟩
        rw [goes]
        exact (ih (.fed first)).mpr
          ⟨last, whole, later, by omega, done, rfl, exits, fun m le => passes m (by omega)⟩

/-! ### When a drive is over -/

/-- A drive is over when the stage is quiescent, or else when the limit is reached. -/
theorem exit?_eq_some : drive.exit? = some exit ↔
    drive.stage.isQuiescent = true ∧ exit = .quiescent ∨
      drive.stage.isQuiescent = false ∧ exit = .timedOut ∧
        ∃ bound ∈ drive.limit, bound.nanos ≤ drive.spent := by
  have reached : (drive.limit.any fun bound => decide (bound.nanos ≤ drive.spent)) = true ↔
      ∃ bound ∈ drive.limit, bound.nanos ≤ drive.spent := by
    simp [Option.any_eq_true]
  unfold exit?
  cases drive.stage.isQuiescent with
  | true => simp [eq_comm]
  | false =>
    rw [← reached]
    cases drive.limit.any fun bound => decide (bound.nanos ≤ drive.spent) with
    | true => simp [eq_comm]
    | false => simp

theorem exit?_eq_none : drive.exit? = none ↔
    drive.stage.isQuiescent = false ∧ ∀ bound ∈ drive.limit, drive.spent < bound.nanos := by
  unfold exit?
  cases drive.stage.isQuiescent with
  | true => simp
  | false => cases drive.limit with
    | none => simp
    | some bound => simp

theorem frameLength_pos (asked : Option Duration) : 0 < (frameLength asked).nanos := by
  cases asked with
  | none => decide
  | some frame =>
    have least : 0 < (Duration.ofMillis 1).nanos := by decide
    unfold frameLength Duration.later
    dsimp only
    split
    · rename_i long
      exact Nat.lt_of_lt_of_le least long
    · exact least

/-- With enough frames to run a drive returns exactly if there is a frame that it does not pass. -/
theorem returns_iff (period : 0 < stage.playback.period.nanos) {ended : Drive} :
    (∃ budget, run frame budget { stage, limit } = .ok (ended, some exit)) ↔
      ∃ last whole, stage.advanceTime (frame.times last) = .ok whole ∧
        ended = behind limit frame last whole ∧ ended.exit? = some exit ∧
        ∀ m < last, Passes stage limit frame m := by
  constructor
  · rintro ⟨budget, done⟩
    obtain ⟨last, whole, -, -, reached, same, exits, passes⟩ := (run_eq_ok period .start).mp done
    exact ⟨last, whole, reached, same, exits, fun m => passes m (Nat.zero_le m)⟩
  · rintro ⟨last, whole, reached, same, exits, passes⟩
    refine ⟨last + 1, (run_eq_ok period .start).mpr ?_⟩
    exact ⟨last, whole, Nat.zero_le _, by omega, reached, same, exits, fun m _ => passes m⟩

/-- A drive that returned returns the same with more frames to run. -/
theorem run_more {more : Nat} {ended : Drive} (period : 0 < stage.playback.period.nanos)
    (done : run frame budget { stage, limit } = .ok (ended, some exit)) (le : budget ≤ more) :
    run frame more { stage, limit } = .ok (ended, some exit) := by
  obtain ⟨last, whole, first, lt, rest⟩ := (run_eq_ok period .start).mp done
  exact (run_eq_ok period .start).mpr ⟨last, whole, first, by omega, rest⟩

/-! ### Quiescence at any frame rate -/

/-- A first frame finds the stage quiescent, and the ones before do not end a drive without limit. -/
theorem exists_quiet_frame {quiet : Duration} (positive : 0 < frame.nanos)
    (quietFrom : stage.QuietFrom quiet) :
    ∃ last whole, stage.advanceTime (frame.times last) = .ok whole ∧
      whole.stage.isQuiescent = true ∧ ∀ m < last, Passes stage none frame m := by
  have reached : ∃ n, quiet ≤ stage.now.saturatingAdd (frame.times n) :=
    ⟨_, Duration.le_saturatingAdd_times stage.now quiet positive⟩
  obtain ⟨whole, done, now, quiescent⟩ := quietFrom.reaches (frame.times (Nat.find reached))
  rw [now] at quiescent
  refine ⟨Nat.find reached, whole, done, quiescent.mpr (Nat.find_spec reached), fun m before => ?_⟩
  obtain ⟨earlier, first, soon, busy⟩ := quietFrom.reaches (frame.times m)
  rw [soon] at busy
  refine ⟨earlier, first, exit?_eq_none.mpr ⟨?_, by simp [behind]⟩⟩
  exact Bool.eq_false_iff.mpr (mt busy.mp (Nat.find_min reached before))

/-- The first frame that finds the stage quiescent comes less than a frame after it is. -/
theorem now_of_quiet_frame {quiet : Duration} {last : Nat} (positive : 0 < frame.nanos)
    (quietFrom : stage.QuietFrom quiet) (done : stage.advanceTime (frame.times last) = .ok whole)
    (quiescent : whole.stage.isQuiescent = true) (passes : ∀ m < last, Passes stage limit frame m) :
    whole.stage.now = stage.now.saturatingAdd (frame.times last) ∧ quiet ≤ whole.stage.now ∧
      whole.stage.now.nanos < quiet.nanos + frame.nanos := by
  obtain ⟨same, doneAgain, now, reaches⟩ := quietFrom.reaches (frame.times last)
  rw [done] at doneAgain
  cases doneAgain
  refine ⟨now, reaches.mp quiescent, ?_⟩
  rw [now]
  refine Duration.saturatingAdd_times_lt positive quietFrom.ahead fun m before => ?_
  obtain ⟨earlier, first, goes⟩ := passes m before
  obtain ⟨same, firstAgain, soon, busy⟩ := quietFrom.reaches (frame.times m)
  rw [first] at firstAgain
  cases firstAgain
  have notYet : earlier.stage.isQuiescent = false := (exit?_eq_none.mp goes).1
  rw [← soon]
  exact Duration.lt_of_not_le (mt busy.mpr (Bool.eq_false_iff.mp notYet))

/-- How long the frames of a drive are does not matter. A drive returns exactly at the first frame that
finds the stage quiescent or the limit reached, with quiescence as the reason if both hold; behind it
stand the stage, the notices and the reports that one stretch of time up to that frame comes to. If a
drive without limit ends in quiescence, so does one with any other frames, once it may run enough of
them: the stages are the same but for the clock, which each drive stops less than a frame after the
instant from which on the stage is quiescent, and so are notices and reports. -/
theorem frame_rate_independent {config : Config} (reachable : Stage.ReachableWithRoom config stage)
    (asked : Option Duration) :
    (∀ limit drive exit,
      (∃ budget, run (frameLength asked) budget { stage, limit } = .ok (drive, some exit)) ↔
      ∃ n whole, stage.advanceTime ((frameLength asked).times n) = .ok whole ∧
        drive = ⟨whole.stage, limit, n * (frameLength asked).nanos, n + 1, whole.notices.toArray,
          whole.value.toArray⟩ ∧
        (whole.stage.isQuiescent = true ∧ exit = .quiescent ∨
          whole.stage.isQuiescent = false ∧ exit = .timedOut ∧
            ∃ bound ∈ limit, bound.nanos ≤ n * (frameLength asked).nanos) ∧
        ∀ m < n, ∃ earlier, stage.advanceTime ((frameLength asked).times m) = .ok earlier ∧
          earlier.stage.isQuiescent = false ∧
          ∀ bound ∈ limit, m * (frameLength asked).nanos < bound.nanos) ∧
    ∀ budget drive, run (frameLength asked) budget { stage } = .ok (drive, some .quiescent) →
      ∃ quiet, stage.QuietFrom quiet ∧
        quiet ≤ drive.stage.now ∧ drive.stage.now.nanos < quiet.nanos + (frameLength asked).nanos ∧
        ∀ other, ∃ enough driven,
          (∀ more, enough ≤ more →
            run (frameLength other) more { stage } = .ok (driven, some .quiescent)) ∧
          { driven.stage with now := drive.stage.now } = drive.stage ∧
          driven.notices = drive.notices ∧ driven.reports = drive.reports ∧
          quiet ≤ driven.stage.now ∧
          driven.stage.now.nanos < quiet.nanos + (frameLength other).nanos := by
  have period := Stage.period_pos_of_reachable reachable
  constructor
  · intro limit drive exit
    rw [returns_iff period]
    constructor
    · rintro ⟨n, whole, done, rfl, exits, passes⟩
      refine ⟨n, whole, done, rfl, exit?_eq_some.mp exits, fun m before => ?_⟩
      obtain ⟨earlier, first, goes⟩ := passes m before
      exact ⟨earlier, first, exit?_eq_none.mp goes⟩
    · rintro ⟨n, whole, done, rfl, exits, passes⟩
      refine ⟨n, whole, done, rfl, exit?_eq_some.mpr exits, fun m before => ?_⟩
      obtain ⟨earlier, first, goes⟩ := passes m before
      exact ⟨earlier, first, exit?_eq_none.mpr goes⟩
  · intro budget drive returns
    obtain ⟨n, whole, done, rfl, exits, passes⟩ := (returns_iff period).mp ⟨budget, returns⟩
    have quiescent : whole.stage.isQuiescent = true := by
      rcases exit?_eq_some.mp exits with ⟨quiescent, -⟩ | ⟨-, timedOut, -⟩
      · exact quiescent
      · cases timedOut
    obtain ⟨quiet, quietFrom, afterQuiet⟩ := Stage.exists_quietFrom period
      (Stage.tidy_of_reachable reachable) (Stage.timely_of_reachable reachable) done quiescent
    obtain ⟨-, late, soon⟩ :=
      now_of_quiet_frame (frameLength_pos asked) quietFrom done quiescent passes
    refine ⟨quiet, quietFrom, late, soon, fun other => ?_⟩
    obtain ⟨last, others, othersDone, othersQuiescent, othersPass⟩ :=
      exists_quiet_frame (frameLength_pos other) quietFrom
    obtain ⟨now, othersLate, othersSoon⟩ :=
      now_of_quiet_frame (frameLength_pos other) quietFrom othersDone othersQuiescent othersPass
    obtain ⟨enough, ended⟩ := (returns_iff period).mpr ⟨last, others, othersDone, rfl,
      exit?_eq_some.mpr (.inl ⟨othersQuiescent, rfl⟩), othersPass⟩
    have same := afterQuiet ((frameLength other).times last) (now ▸ othersLate)
    rw [othersDone] at same
    cases same
    exact ⟨enough, _, fun more le => run_more period ended le, rfl, rfl, rfl, othersLate, othersSoon⟩

/-- The actor speaks after half a second and is silent again a second later. Frames of 400 ms end the
drive at 1600 ms, and frames of 700 ms end it too. -/
theorem frame_rate_independent_speech :
    ∃ stage drive driven enough, Stage.ReachableWithRoom {} stage ∧
      run (.ofMillis 400) 10 { stage } = .ok (drive, some .quiescent) ∧
      drive.stage.now.millis = 1600 ∧ drive.notices.size = 3 ∧
      (∀ more, enough ≤ more → run (.ofMillis 700) more { stage } = .ok (driven, some .quiescent)) ∧
      { driven.stage with now := drive.stage.now } = drive.stage ∧ driven.notices = drive.notices ∧
      ∃ quiet, stage.QuietFrom quiet ∧ quiet ≤ driven.stage.now ∧
        driven.stage.now.nanos < quiet.nanos + 700000000 := by
  obtain ⟨stage, reachable, passes⟩ := Stage.exists_reachable {}
    [ .insertActor { id := ⟨7, by decide⟩, name := "Cat", program := [.bubble .speech "Hello" (some 1)] },
      .play ]
    (fun stage => (run (.ofMillis 400) 10 { stage }).toOption.any fun (ended : Drive × Option DriveExit) =>
      decide (ended.2 = some .quiescent) && decide (ended.1.stage.now.millis = 1600) &&
        decide (ended.1.notices.size = 3))
    rfl (by simp [Operation.hasRoom]) (by decide +kernel)
  obtain ⟨⟨drive, exit⟩, returns, ended⟩ := Stage.exists_outcome passes
  simp only [Bool.and_eq_true, decide_eq_true_eq] at ended
  obtain ⟨⟨rfl, now⟩, notices⟩ := ended
  obtain ⟨quiet, quietFrom, -, -, others⟩ :=
    (frame_rate_independent reachable (some (.ofMillis 400))).2 10 drive returns
  obtain ⟨enough, driven, drives, same, sameNotices, -, late, soon⟩ := others (some (.ofMillis 700))
  exact ⟨stage, drive, driven, enough, reachable, returns, now, notices, drives, same, sameNotices, quiet,
    quietFrom, late, soon⟩

end Drive

end SpriteStage
