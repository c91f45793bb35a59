import SpriteStage.Timers.Requests

/-!
# The timer queue and its history

A timer is live if the log of the queue armed it and has not ended it since (`Live`); nothing here looks into
the queue. What is pending are the live timers: one request keeps it so (`tracks_serve`), hence a whole run
does (`tracks_serveAll`). Main statement: after any requests the queue answers as its log tells
(`true_to_history`).
-/

namespace SpriteStage

/-! ### Live timers -/

namespace TimerEntry

/-- The entry of a log that armed a timer. -/
def Arms (entry : TimerEntry) (timer : BubbleTimer) : Prop :=
  entry.request = .arm timer.actor timer.kind timer.deadline ∧ entry.answer = .armed timer.handle

theorem Arms.unique {entry : TimerEntry} {timer other : BubbleTimer} (first : entry.Arms timer)
    (second : entry.Arms other) : timer = other := by
  have requests := first.1.symm.trans second.1
  have answers := first.2.symm.trans second.2
  cases timer
  cases other
  simp_all

/-- The timer was cancelled by its handle, cancelled with its actor, cleared or popped. -/
def Ends (entry : TimerEntry) (timer : BubbleTimer) : Prop :=
  entry.request = .cancel timer.handle ∨ entry.request = .cancelActor timer.actor ∨
    entry.request = .clear ∨
    ∃ popped, entry.answer = .popped (some popped) ∧ popped.handle = timer.handle

/-- The handle that was handed out. -/
def handle? (entry : TimerEntry) : Option Nat :=
  match entry.answer with
  | .armed handle => some handle
  | _ => none

end TimerEntry

/-- A timer was armed and nothing since has ended it. -/
def Live (log : List TimerEntry) (timer : BubbleTimer) : Prop :=
  ∃ early armed late, log = early ++ armed :: late ∧ armed.Arms timer ∧
    ∀ entry ∈ late, ¬ entry.Ends timer

theorem live_concat {log : List TimerEntry} {entry : TimerEntry} {timer : BubbleTimer} :
    Live (log ++ [entry]) timer ↔ entry.Arms timer ∨ Live log timer ∧ ¬ entry.Ends timer := by
  constructor
  · rintro ⟨early, armed, late, split, arms, lasting⟩
    rcases late.eq_nil_or_concat with rfl | ⟨between, last, rfl⟩
    · obtain ⟨-, same⟩ := List.append_inj' split rfl
      cases same
      exact .inl arms
    · rw [List.concat_eq_append, ← List.cons_append, ← List.append_assoc] at split
      obtain ⟨rfl, same⟩ := List.append_inj' split rfl
      cases same
      refine .inr ⟨⟨early, armed, between, rfl, arms, fun other member => ?_⟩, ?_⟩
      · exact lasting other (by simp [member])
      · exact lasting entry (by simp)
  · rintro (arms | ⟨⟨early, armed, late, rfl, arms, lasting⟩, stays⟩)
    · exact ⟨log, entry, [], rfl, arms, fun _ member => nomatch member⟩
    · refine ⟨early, armed, late ++ [entry], by simp, arms, fun other member => ?_⟩
      rcases List.mem_append.mp member with member | member
      · exact lasting other member
      · rw [List.mem_singleton.mp member]
        exact stays

namespace BubbleTimer

/-- Which of two timers is the more urgent one: the one with the earlier deadline, of equal deadlines the
older one. -/
def urgency (a b : BubbleTimer) : Ordering :=
  (compare b.deadline.nanos a.deadline.nanos).then (compare b.handle a.handle)

theorem Before.irrefl (timer : BubbleTimer) : ¬ timer.Before timer := by
  rw [before_def]
  omega

theorem before_iff_urgency {a b : BubbleTimer} : a.Before b ↔ b.urgency a = .lt := by
  rw [before_def, urgency, Ordering.then_eq_lt, Nat.compare_eq_lt, Nat.compare_eq_eq, Nat.compare_eq_lt]

end BubbleTimer

namespace TimerQueue

variable {queue : TimerQueue} {log : List TimerEntry} {timer : BubbleTimer} {now : Duration}

/-! ### What is pending -/

/-- The log of a queue tells what is pending. -/
structure Tracks (log : List TimerEntry) (queue : TimerQueue) : Prop where
  live : ∀ timer, timer ∈ queue.pending ↔ Live log timer
  distinct : ∀ a ∈ queue.pending, ∀ b ∈ queue.pending, a.handle = b.handle → a = b
  increasing : (log.filterMap TimerEntry.handle?).Pairwise (· < ·)
  issued : ∀ handle ∈ log.filterMap TimerEntry.handle?, handle ≤ queue.issued

/-- What is popped is gone, and nothing else. -/
theorem mem_rest {first : BubbleTimer} {rest : TimerQueue}
    (distinct : ∀ a ∈ queue.pending, ∀ b ∈ queue.pending, a.handle = b.handle → a = b)
    (popped : queue.popDue now = some (first, rest)) :
    timer ∈ rest.pending ↔ timer ∈ queue.pending ∧ first.handle ≠ timer.handle := by
  have pending := (pending_of_popDue popped).1
  have before := before_of_popDue popped
  constructor
  · intro member
    have stands : timer ∈ queue.pending := pending ▸ List.mem_cons_of_mem _ member
    refine ⟨stands, fun same => ?_⟩
    have equal := distinct first (mem_of_popDue popped) timer stands same
    have itself := BubbleTimer.before_def.mp (before timer member)
    rw [equal] at itself
    omega
  · rintro ⟨stands, other⟩
    rw [pending] at stands
    exact (List.mem_cons.mp stands).resolve_left fun same => other (congrArg (·.handle) same.symm)

/-- A request arms the timer of its entry, and takes away those that the entry ends. -/
theorem mem_serve (distinct : ∀ a ∈ queue.pending, ∀ b ∈ queue.pending, a.handle = b.handle → a = b)
    (request : TimerRequest) : timer ∈ (queue.serve request).2.pending ↔
      TimerEntry.Arms ⟨request, (queue.serve request).1⟩ timer ∨
        timer ∈ queue.pending ∧ ¬ TimerEntry.Ends ⟨request, (queue.serve request).1⟩ timer := by
  cases request with
  | arm actor kind deadline =>
    cases timer
    simp only [serve, mem_arm, arm_fst, TimerEntry.Arms, TimerEntry.Ends]
    grind
  | cancel handle => simp [serve, TimerEntry.Arms, TimerEntry.Ends, eq_comm]
  | cancelActor actor => simp [serve, TimerEntry.Arms, TimerEntry.Ends, eq_comm]
  | clear => simp [serve, TimerEntry.Arms, TimerEntry.Ends]
  | popDue now =>
    cases pops : queue.popDue now with
    | none => simp [serve, pops, TimerEntry.Arms, TimerEntry.Ends]
    | some popped =>
      obtain ⟨first, rest⟩ := popped
      simp [serve, pops, TimerEntry.Arms, TimerEntry.Ends, mem_rest distinct pops]

/-- A handle is handed out when a timer is armed, and is the next one. -/
theorem handle?_serve (queue : TimerQueue) (request : TimerRequest) :
    TimerEntry.handle? ⟨request, (queue.serve request).1⟩ = none ∧
        (queue.serve request).2.issued = queue.issued ∨
      TimerEntry.handle? ⟨request, (queue.serve request).1⟩ = some (queue.issued + 1) ∧
        (queue.serve request).2.issued = queue.issued + 1 := by
  cases request with
  | arm actor kind deadline => exact .inr ⟨rfl, rfl⟩
  | popDue now =>
    refine .inl ?_
    cases pops : queue.popDue now with
    | none => simp [serve, pops, TimerEntry.handle?]
    | some popped => simp [serve, pops, TimerEntry.handle?, (pending_of_popDue pops).2.1]
  | _ => exact .inl ⟨rfl, rfl⟩

theorem issued_le_serve (queue : TimerQueue) (request : TimerRequest) :
    queue.issued ≤ (queue.serve request).2.issued := by
  rcases handle?_serve queue request with ⟨-, issued⟩ | ⟨-, issued⟩ <;> omega

theorem handle_of_arms {request : TimerRequest}
    (arms : TimerEntry.Arms ⟨request, (queue.serve request).1⟩ timer) :
    timer.handle = queue.issued + 1 := by
  have handed : TimerEntry.handle? ⟨request, (queue.serve request).1⟩ = some timer.handle := by
    rw [TimerEntry.handle?, arms.2]
  rcases handle?_serve queue request with ⟨none, -⟩ | ⟨next, -⟩
  · rw [none] at handed
    cases handed
  · rw [next] at handed
    exact (Option.some.inj handed).symm

theorem tracks_serve (tracks : Tracks log queue) (request : TimerRequest) :
    Tracks (log ++ [⟨request, (queue.serve request).1⟩]) (queue.serve request).2 := by
  refine ⟨fun timer => ?_, fun a aMember b bMember same => ?_, ?_, ?_⟩
  · rw [mem_serve tracks.distinct, live_concat, tracks.live]
  · -- The handle of a timer just armed is above those of the timers pending before.
    rw [mem_serve tracks.distinct] at aMember bMember
    rcases aMember with aArms | ⟨aPending, -⟩
    · rcases bMember with bArms | ⟨bPending, -⟩
      · exact aArms.unique bArms
      · have new := handle_of_arms aArms
        have old := queue.handle_le b bPending
        omega
    · rcases bMember with bArms | ⟨bPending, -⟩
      · have new := handle_of_arms bArms
        have old := queue.handle_le a aPending
        omega
      · exact tracks.distinct a aPending b bPending same
  · rw [List.filterMap_append, List.pairwise_append]
    refine ⟨tracks.increasing, ?_, fun old oldMember new newMember => ?_⟩
    · rcases handle?_serve queue request with ⟨none, -⟩ | ⟨next, -⟩ <;> simp [*]
    · have oldLe := tracks.issued old oldMember
      rcases handle?_serve queue request with ⟨none, -⟩ | ⟨next, -⟩
      · simp [none] at newMember
      · simp only [List.filterMap_cons, next, List.filterMap_nil, List.mem_singleton] at newMember
        omega
  · intro handle member
    rw [List.filterMap_append, List.mem_append] at member
    rcases member with old | new
    · exact Nat.le_trans (tracks.issued handle old) (issued_le_serve queue request)
    · rcases handle?_serve queue request with ⟨none, -⟩ | ⟨next, issued⟩
      · simp [none] at new
      · simp only [List.filterMap_cons, next, List.filterMap_nil, List.mem_singleton] at new
        omega

theorem tracks_empty : Tracks [] empty where
  live := fun timer => by simp [Live, empty]
  distinct := fun a member => by cases member
  increasing := .nil
  issued := fun handle member => by cases member

/-- The log of a run, behind the one before it, tells what is pending. -/
theorem tracks_serveAll (tracks : Tracks log queue) (requests : List TimerRequest) :
    Tracks (log ++ (queue.serveAll requests).1) (queue.serveAll requests).2 := by
  induction requests generalizing log queue with
  | nil => simpa [serveAll] using tracks
  | cons request rest ih =>
    have later := ih (tracks_serve tracks request)
    rw [List.append_assoc] at later
    exact later

/-! ### Handles that are used up -/

/-- No timer goes by a handle any more, and none ever will. -/
def Spent (queue : TimerQueue) (handle : Nat) : Prop :=
  handle ≤ queue.issued ∧ ∀ timer ∈ queue.pending, timer.handle ≠ handle

theorem mem_of_popped {request : TimerRequest} {popped : BubbleTimer}
    (answer : (queue.serve request).1 = .popped (some popped)) : popped ∈ queue.pending := by
  cases request with
  | popDue now =>
    cases pops : queue.popDue now with
    | none => simp [serve, pops] at answer
    | some both =>
      simp only [serve, pops, TimerAnswer.popped.injEq, Option.some.injEq] at answer
      exact answer ▸ mem_of_popDue pops
  | _ => cases answer

theorem spent_serve {handle : Nat} (tracks : Tracks log queue) (spent : queue.Spent handle)
    (request : TimerRequest) : (queue.serve request).2.Spent handle := by
  refine ⟨Nat.le_trans spent.1 (issued_le_serve queue request), fun timer member => ?_⟩
  rcases (mem_serve tracks.distinct request).mp member with arms | ⟨pending, -⟩
  · have new := handle_of_arms arms
    have old := spent.1
    omega
  · exact spent.2 timer pending

/-- A handle that is used up is never popped. -/
theorem spent_serveAll {handle : Nat} (tracks : Tracks log queue) (spent : queue.Spent handle)
    (requests : List TimerRequest) : ∀ entry ∈ (queue.serveAll requests).1, ∀ popped,
      entry.answer = .popped (some popped) → popped.handle ≠ handle := by
  induction requests generalizing log queue with
  | nil => exact fun entry member => nomatch member
  | cons request rest ih =>
    intro entry member popped answer
    rcases List.mem_cons.mp member with rfl | later
    · exact spent.2 popped (mem_of_popped answer)
    · exact ih (tracks_serve tracks request) (spent_serve tracks spent request) entry later popped answer

/-- A timer that is ended leaves its handle used up. -/
theorem spent_of_ends {request : TimerRequest} (tracks : Tracks log queue) (live : Live log timer)
    (ends : TimerEntry.Ends ⟨request, (queue.serve request).1⟩ timer) :
    (queue.serve request).2.Spent timer.handle := by
  have stands := (tracks.live timer).mpr live
  refine ⟨Nat.le_trans (queue.handle_le timer stands) (issued_le_serve queue request), ?_⟩
  intro other member same
  rcases (mem_serve tracks.distinct request).mp member with arms | ⟨pending, stays⟩
  · have new := handle_of_arms arms
    have old := queue.handle_le timer stands
    omega
  · rw [tracks.distinct other pending timer stands same] at stays
    exact stays ends

theorem serveAll_cons (queue : TimerQueue) (request : TimerRequest) (rest : List TimerRequest) :
    (queue.serveAll (request :: rest)).1 =
      ⟨request, (queue.serve request).1⟩ :: ((queue.serve request).2.serveAll rest).1 := rfl

/-- A log that is cut is the log of the requests before the cut and of those behind it. -/
theorem serveAll_split {requests : List TimerRequest} {early late : List TimerEntry} {entry : TimerEntry}
    (split : (queue.serveAll requests).1 = early ++ entry :: late) :
    ∃ before request after, (queue.serveAll before).1 = early ∧
      entry = ⟨request, ((queue.serveAll before).2.serve request).1⟩ ∧
      late = (((queue.serveAll before).2.serve request).2.serveAll after).1 := by
  induction early generalizing queue requests with
  | nil =>
    cases requests with
    | nil => cases split
    | cons request after =>
      obtain ⟨rfl, rfl⟩ := List.cons.inj split
      exact ⟨[], request, after, rfl, rfl, rfl⟩
  | cons head early ih =>
    cases requests with
    | nil => cases split
    | cons first rest =>
      rw [serveAll_cons, List.cons_append, List.cons.injEq] at split
      obtain ⟨before, request, after, logged, entered, behind⟩ := ih split.2
      refine ⟨first :: before, request, after, ?_, entered, behind⟩
      rw [serveAll_cons, split.1, logged]

/-! ### Answers -/

/-- The timer that is popped comes before every other that is pending. -/
theorem popDue_eq_some_iff {first : BubbleTimer} : (∃ rest, queue.popDue now = some (first, rest)) ↔
    first ∈ queue.pending ∧ first.deadline ≤ now ∧
      ∀ other ∈ queue.pending, other ≠ first → first.Before other := by
  constructor
  · rintro ⟨rest, popped⟩
    obtain ⟨pending, -, due⟩ := pending_of_popDue popped
    refine ⟨mem_of_popDue popped, due, fun other member apart => ?_⟩
    rw [pending] at member
    exact before_of_popDue popped other ((List.mem_cons.mp member).resolve_left apart)
  · rintro ⟨member, due, least⟩
    cases pops : queue.popDue now with
    | none => exact absurd due (Duration.not_le_of_lt (popDue_eq_none pops first member))
    | some both =>
      obtain ⟨head, rest⟩ := both
      by_cases same : head = first
      · exact ⟨rest, by rw [same]⟩
      · have ahead := least head (mem_of_popDue pops) same
        rw [(pending_of_popDue pops).1] at member
        have behind := before_of_popDue pops first ((List.mem_cons.mp member).resolve_left (Ne.symm same))
        exact absurd (ahead.trans behind) (BubbleTimer.Before.irrefl first)

theorem popDue_eq_none_iff :
    queue.popDue now = none ↔ ∀ timer ∈ queue.pending, now < timer.deadline := by
  refine ⟨popDue_eq_none, fun late => Option.eq_none_iff_forall_ne_some.mpr fun both popped => ?_⟩
  exact Duration.not_le_of_lt (late both.1 (mem_of_popDue popped)) (pending_of_popDue popped).2.2

theorem serve_popDue_eq_some_iff : (queue.serve (.popDue now)).1 = .popped (some timer) ↔
    ∃ rest, queue.popDue now = some (timer, rest) := by
  cases pops : queue.popDue now with
  | none => simp [serve, pops]
  | some both => simp [serve, pops, Prod.ext_iff]

theorem serve_popDue_eq_none_iff :
    (queue.serve (.popDue now)).1 = .popped none ↔ queue.popDue now = none := by
  cases pops : queue.popDue now with
  | none => simp [serve, pops]
  | some both => simp [serve, pops]

/-- Draining takes the timers that are due, in order, and leaves the others. -/
theorem drain_spec (now : Duration) (queue : TimerQueue) :
    queue.pending = (queue.drain now).1 ++ (queue.drain now).2.pending ∧
      (∀ timer ∈ (queue.drain now).1, timer.deadline ≤ now) ∧
      ∀ timer ∈ (queue.drain now).2.pending, now < timer.deadline := by
  fun_induction drain now queue with
  | case1 queue popped => exact ⟨rfl, fun _ member => (nomatch member), popDue_eq_none popped⟩
  | case2 queue timer rest popped timers last drained ih =>
    rw [drained] at ih
    obtain ⟨pending, due, late⟩ := ih
    obtain ⟨front, -, first⟩ := pending_of_popDue popped
    exact ⟨by rw [front, pending, List.cons_append], List.forall_mem_cons.mpr ⟨first, due⟩, late⟩

/-- The next deadline is the least that is pending. -/
theorem nextDeadline_eq_some_iff {deadline : Duration} : queue.nextDeadline = some deadline ↔
    (∃ timer ∈ queue.pending, timer.deadline = deadline) ∧
      ∀ timer ∈ queue.pending, deadline ≤ timer.deadline := by
  have ordered := queue.ordered
  unfold nextDeadline
  cases pending : queue.pending with
  | nil => simp
  | cons first rest =>
    rw [pending] at ordered
    have least : ∀ timer ∈ first :: rest, first.deadline ≤ timer.deadline := by
      refine List.forall_mem_cons.mpr ⟨Duration.le_refl _, fun timer member => ?_⟩
      have before := BubbleTimer.before_def.mp ((List.pairwise_cons.mp ordered).1 timer member)
      rw [Duration.le_def]
      omega
    rw [List.head?_cons, Option.map_some, Option.some.injEq]
    constructor
    · rintro rfl
      exact ⟨⟨first, List.mem_cons_self, rfl⟩, least⟩
    · rintro ⟨⟨timer, member, rfl⟩, all⟩
      exact Duration.ext (Nat.le_antisymm (least timer member) (all first List.mem_cons_self))

theorem isPending_iff {handle : Nat} :
    queue.isPending handle = true ↔ ∃ timer ∈ queue.pending, timer.handle = handle := by
  simp [isPending]

/-- Cancelling finds out whether a timer went by the handle from the number of those left. -/
theorem size_cancel_ne_iff {handle : Nat} : ((queue.cancel handle).size != queue.size) = true ↔
    ∃ timer ∈ queue.pending, timer.handle = handle := by
  have counts : (queue.cancel handle).size = queue.size ↔
      ∀ timer ∈ queue.pending, (timer.handle != handle) = true := List.length_filter_eq_length_iff
  rw [bne_iff_ne, ne_eq, counts]
  simp

/-- The queue answers as its log tells. -/
structure TrueTo (log : List TimerEntry) (queue : TimerQueue) : Prop where
  /-- Handles grow, so none is handed out twice. -/
  fresh : (log.filterMap TimerEntry.handle?).Pairwise (· < ·)
  pending : ∀ handle, queue.isPending handle = true ↔ ∃ timer, Live log timer ∧ timer.handle = handle
  cancels : ∀ handle, ∃ found, (queue.serve (.cancel handle)).1 = .cancelled found ∧
    (found = true ↔ ∃ timer, Live log timer ∧ timer.handle = handle)
  size : ∃ timers : List BubbleTimer, timers.Nodup ∧ (∀ timer, timer ∈ timers ↔ Live log timer) ∧
    queue.size = timers.length
  next : ∀ deadline, queue.nextDeadline = some deadline ↔
    (∃ timer, Live log timer ∧ timer.deadline = deadline) ∧
      ∀ timer, Live log timer → deadline ≤ timer.deadline
  idle : queue.nextDeadline = none ↔ ∀ timer, ¬ Live log timer
  /-- What is popped is the first live timer by deadline and handle, if it is due. -/
  pops : ∀ now timer, (queue.serve (.popDue now)).1 = .popped (some timer) ↔
    Live log timer ∧ timer.deadline ≤ now ∧ ∀ other, Live log other → other ≠ timer →
      timer.deadline < other.deadline ∨ timer.deadline = other.deadline ∧ timer.handle < other.handle
  /-- So it is the most urgent one. -/
  urgent : ∀ now timer, (queue.serve (.popDue now)).1 = .popped (some timer) →
    ∀ other, Live log other → other ≠ timer → other.urgency timer = .lt
  waits : ∀ now, (queue.serve (.popDue now)).1 = .popped none ↔
    ∀ timer, Live log timer → now < timer.deadline
  kept : ∀ now, (queue.serve (.popDue now)).1 = .popped none → (queue.serve (.popDue now)).2 = queue
  /-- Only live timers are popped. -/
  origin : ∀ early entry late popped, log = early ++ entry :: late →
    entry.answer = .popped (some popped) → Live early popped
  /-- Once a timer is popped or cancelled, its handle is not popped any more. -/
  once : ∀ early entry late timer, log = early ++ entry :: late → Live early timer → entry.Ends timer →
    ∀ later ∈ late, ∀ popped, later.answer = .popped (some popped) → popped.handle ≠ timer.handle
  drains : ∀ now, (queue.drain now).1.Pairwise BubbleTimer.Before ∧
    ∀ timer, timer ∈ (queue.drain now).1 ↔ Live log timer ∧ timer.deadline ≤ now

/-- Whatever is asked of a fresh queue, its answers are those that the log asks for: each timer is known by a
handle of its own from the request that armed it to the one that ends it, and timers that fall due are popped
in the order of deadlines and handles. -/
theorem true_to_history (requests : List TimerRequest) :
    TrueTo (empty.serveAll requests).1 (empty.serveAll requests).2 := by
  have tracks : Tracks (empty.serveAll requests).1 (empty.serveAll requests).2 :=
    tracks_serveAll tracks_empty requests
  generalize logged : (empty.serveAll requests).1 = log at tracks ⊢
  generalize (empty.serveAll requests).2 = queue at tracks ⊢
  constructor
  case fresh => exact tracks.increasing
  case pending =>
    intro handle
    simp only [isPending_iff, tracks.live]
  case cancels =>
    intro handle
    refine ⟨_, rfl, ?_⟩
    simp only [size_cancel_ne_iff, tracks.live]
  case size =>
    refine ⟨queue.pending, queue.ordered.imp ?_, tracks.live, rfl⟩
    rintro first second before rfl
    exact BubbleTimer.Before.irrefl first before
  case next =>
    intro deadline
    simp only [nextDeadline_eq_some_iff, tracks.live]
  case idle =>
    simp only [nextDeadline, Option.map_eq_none_iff, List.head?_eq_none_iff, ← tracks.live]
    exact List.eq_nil_iff_forall_not_mem
  case pops =>
    intro now timer
    simp only [serve_popDue_eq_some_iff, popDue_eq_some_iff, tracks.live]
    rfl
  case urgent =>
    intro now timer popped other live apart
    rw [serve_popDue_eq_some_iff, popDue_eq_some_iff] at popped
    exact BubbleTimer.before_iff_urgency.mp (popped.2.2 other ((tracks.live other).mpr live) apart)
  case waits =>
    intro now
    simp only [serve_popDue_eq_none_iff, popDue_eq_none_iff, tracks.live]
  case kept =>
    intro now none
    rw [serve_popDue_eq_none_iff] at none
    simp only [serve, none]
  case origin =>
    intro early entry late popped split answer
    obtain ⟨before, request, after, rfl, rfl, rfl⟩ := serveAll_split (logged.trans split)
    have tracksBefore : Tracks (empty.serveAll before).1 (empty.serveAll before).2 :=
      tracks_serveAll tracks_empty before
    exact (tracksBefore.live popped).mp (mem_of_popped answer)
  case once =>
    intro early entry late timer split live ends
    obtain ⟨before, request, after, rfl, rfl, rfl⟩ := serveAll_split (logged.trans split)
    have tracksBefore : Tracks (empty.serveAll before).1 (empty.serveAll before).2 :=
      tracks_serveAll tracks_empty before
    exact spent_serveAll (tracks_serve tracksBefore request) (spent_of_ends tracksBefore live ends) after
  case drains =>
    intro now
    obtain ⟨pending, due, late⟩ := drain_spec now queue
    have ordered := queue.ordered
    rw [pending] at ordered
    refine ⟨(List.pairwise_append.mp ordered).1, fun timer => ?_⟩
    rw [← tracks.live, pending, List.mem_append]
    constructor
    · exact fun member => ⟨.inl member, due timer member⟩
    · rintro ⟨member | left, reached⟩
      · exact member
      · exact absurd reached (Duration.not_le_of_lt (late timer left))

/-- Three timers, two of them due at one instant: the cancelled one never goes off, and of the others the
older one is popped first. -/
theorem true_to_history_tie :
    let second := Duration.ofMillis 1000
    let requests : List TimerRequest := [
      .arm ⟨1, by decide⟩ .speech second, .arm ⟨2, by decide⟩ .thought second,
      .arm ⟨3, by decide⟩ .speech (Duration.ofMillis 500), .cancel 3, .cancel 3, .popDue (Duration.ofMillis 999),
      .popDue second, .popDue second, .popDue second ]
    let (log, queue) := empty.serveAll requests
    log.map (·.answer) = [.armed 1, .armed 2, .armed 3, .cancelled true, .cancelled false, .popped none,
      .popped (some ⟨1, second, ⟨1, by decide⟩, .speech⟩),
      .popped (some ⟨2, second, ⟨2, by decide⟩, .thought⟩), .popped none] ∧
    (∀ timer, ¬ Live log timer) ∧ queue.size = 0 := by
  intro second requests
  have empties : (empty.serveAll requests).2.nextDeadline = none := by decide
  exact ⟨by decide, (true_to_history requests).idle.mp empties, by decide⟩

end TimerQueue

end SpriteStage
