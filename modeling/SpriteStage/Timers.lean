import SpriteStage.ActorId
import SpriteStage.Duration
import SpriteStage.Command.Kind

/-!
# Bubble timers

Armed timers wait in order of deadline, of equal deadlines the older first. Handles are handed out
once and in increasing order. The queue carries both facts, so equal contents are equal queues.
-/

namespace SpriteStage

/-- An armed timer that clears one bubble of one actor. -/
structure BubbleTimer where
  handle : Nat
  deadline : Duration
  actor : ActorId
  kind : BubbleKind
deriving DecidableEq

namespace BubbleTimer

def Before (a b : BubbleTimer) : Prop :=
  a.deadline < b.deadline ∨ a.deadline = b.deadline ∧ a.handle < b.handle

instance (a b : BubbleTimer) : Decidable (a.Before b) :=
  inferInstanceAs (Decidable (_ ∨ _))

theorem before_def {a b : BubbleTimer} : a.Before b ↔ a.deadline.nanos < b.deadline.nanos ∨
    a.deadline.nanos = b.deadline.nanos ∧ a.handle < b.handle := by
  simp [Before, Duration.lt_def, Duration.ext_iff]

theorem Before.trans {a b c : BubbleTimer} (ab : a.Before b) (bc : b.Before c) : a.Before c := by
  rw [before_def] at ab bc ⊢
  omega

end BubbleTimer

def insertTimer (timer : BubbleTimer) : List BubbleTimer → List BubbleTimer
  | [] => [timer]
  | head :: rest =>
    if timer.Before head then timer :: head :: rest else head :: insertTimer timer rest

theorem mem_insertTimer {t timer : BubbleTimer} {timers : List BubbleTimer} :
    t ∈ insertTimer timer timers ↔ t = timer ∨ t ∈ timers := by
  induction timers with
  | nil => simp [insertTimer]
  | cons head rest ih => grind [insertTimer]

theorem pairwise_insertTimer {timer : BubbleTimer} {timers : List BubbleTimer}
    (ordered : timers.Pairwise BubbleTimer.Before)
    (other : ∀ t ∈ timers, t.handle ≠ timer.handle) :
    (insertTimer timer timers).Pairwise BubbleTimer.Before := by
  induction timers with
  | nil => simp [insertTimer]
  | cons head rest ih =>
    obtain ⟨first, later⟩ := List.pairwise_cons.mp ordered
    unfold insertTimer
    split
    · rename_i before
      refine List.pairwise_cons.mpr ⟨fun t mem => ?_, ordered⟩
      rcases List.mem_cons.mp mem with rfl | mem
      · exact before
      · exact before.trans (first t mem)
    · rename_i notBefore
      refine List.pairwise_cons.mpr
        ⟨fun t mem => ?_, ih later fun t mem => other t (List.mem_cons_of_mem _ mem)⟩
      rcases mem_insertTimer.mp mem with rfl | mem
      · have different := other head List.mem_cons_self
        have late := mt BubbleTimer.before_def.mpr notBefore
        refine BubbleTimer.before_def.mpr ?_
        omega
      · exact first t mem

/-- The armed timers, and the number of handles handed out so far. -/
@[ext] structure TimerQueue where
  pending : List BubbleTimer := []
  issued : Nat := 0
  ordered : pending.Pairwise BubbleTimer.Before := by exact List.Pairwise.nil
  handle_le : ∀ t ∈ pending, t.handle ≤ issued := by exact fun _ mem => nomatch mem

namespace TimerQueue

def empty : TimerQueue := {}

/-- Arms a timer under the next handle. -/
def arm (queue : TimerQueue) (actor : ActorId) (kind : BubbleKind) (deadline : Duration) :
    Nat × TimerQueue :=
  let handle := queue.issued + 1
  (handle,
    { pending := insertTimer ⟨handle, deadline, actor, kind⟩ queue.pending
      issued := handle
      ordered := pairwise_insertTimer queue.ordered fun t mem => by
        exact Nat.ne_of_lt (Nat.lt_succ_of_le (queue.handle_le t mem))
      handle_le := fun t mem => by
        rcases mem_insertTimer.mp mem with rfl | mem
        · exact Nat.le_refl _
        · exact Nat.le_succ_of_le (queue.handle_le t mem) })

def keep (queue : TimerQueue) (wanted : BubbleTimer → Bool) : TimerQueue where
  pending := queue.pending.filter wanted
  issued := queue.issued
  ordered := queue.ordered.filter _
  handle_le := fun t mem => queue.handle_le t (List.mem_filter.mp mem).1

def isPending (queue : TimerQueue) (handle : Nat) : Bool :=
  queue.pending.any (·.handle == handle)

def cancel (queue : TimerQueue) (handle : Nat) : TimerQueue :=
  queue.keep (·.handle != handle)

def cancel? (queue : TimerQueue) : Option Nat → TimerQueue
  | some handle => queue.cancel handle
  | none => queue

def cancelActor (queue : TimerQueue) (actor : ActorId) : TimerQueue :=
  queue.keep (·.actor != actor)

/-- Disarms every timer; handles handed out stay used. -/
def clear (queue : TimerQueue) : TimerQueue := queue.keep fun _ => false

def nextDeadline (queue : TimerQueue) : Option Duration := queue.pending.head?.map (·.deadline)

def size (queue : TimerQueue) : Nat := queue.pending.length

def isEmpty (queue : TimerQueue) : Bool := queue.pending.isEmpty

/-- Takes out the first timer, if it is due at `now`. -/
def popDue (queue : TimerQueue) (now : Duration) : Option (BubbleTimer × TimerQueue) :=
  match h : queue.pending with
  | [] => none
  | timer :: rest =>
    if timer.deadline ≤ now then
      some (timer,
        { pending := rest
          issued := queue.issued
          ordered := (List.pairwise_cons.mp (h ▸ queue.ordered)).2
          handle_le := fun t mem => queue.handle_le t (h ▸ List.mem_cons_of_mem _ mem) })
    else none

@[simp] theorem mem_keep {queue : TimerQueue} {wanted : BubbleTimer → Bool} {t : BubbleTimer} :
    t ∈ (queue.keep wanted).pending ↔ t ∈ queue.pending ∧ wanted t = true := List.mem_filter

@[simp] theorem mem_cancel {queue : TimerQueue} {handle : Nat} {t : BubbleTimer} :
    t ∈ (queue.cancel handle).pending ↔ t ∈ queue.pending ∧ t.handle ≠ handle := by
  simp [cancel]

@[simp] theorem mem_cancel? {queue : TimerQueue} {handle : Option Nat} {t : BubbleTimer} :
    t ∈ (queue.cancel? handle).pending ↔ t ∈ queue.pending ∧ handle ≠ some t.handle := by
  cases handle with
  | none => simp [cancel?]
  | some handle => simp [cancel?, eq_comm]

@[simp] theorem mem_cancelActor {queue : TimerQueue} {actor : ActorId} {t : BubbleTimer} :
    t ∈ (queue.cancelActor actor).pending ↔ t ∈ queue.pending ∧ t.actor ≠ actor := by
  simp [cancelActor]

@[simp] theorem pending_clear (queue : TimerQueue) : queue.clear.pending = [] := by
  simp [clear, keep]

@[simp] theorem mem_arm {queue : TimerQueue} {actor : ActorId} {kind : BubbleKind}
    {deadline : Duration} {t : BubbleTimer} :
    t ∈ (queue.arm actor kind deadline).2.pending ↔
      t = ⟨queue.issued + 1, deadline, actor, kind⟩ ∨ t ∈ queue.pending := mem_insertTimer

@[simp] theorem issued_keep (queue : TimerQueue) (wanted : BubbleTimer → Bool) :
    (queue.keep wanted).issued = queue.issued := rfl

@[simp] theorem issued_cancel? (queue : TimerQueue) (handle : Option Nat) :
    (queue.cancel? handle).issued = queue.issued := by
  cases handle <;> rfl

@[simp] theorem arm_fst (queue : TimerQueue) (actor : ActorId) (kind : BubbleKind)
    (deadline : Duration) : (queue.arm actor kind deadline).1 = queue.issued + 1 := rfl

@[simp] theorem issued_arm (queue : TimerQueue) (actor : ActorId) (kind : BubbleKind)
    (deadline : Duration) : (queue.arm actor kind deadline).2.issued = queue.issued + 1 := rfl

/-- What is popped was pending in front, and only it is gone. -/
theorem pending_of_popDue {queue rest : TimerQueue} {now : Duration} {timer : BubbleTimer}
    (h : queue.popDue now = some (timer, rest)) :
    queue.pending = timer :: rest.pending ∧ rest.issued = queue.issued ∧ timer.deadline ≤ now := by
  unfold popDue at h
  split at h
  · cases h
  · split at h
    · cases h
      exact ⟨by assumption, rfl, by assumption⟩
    · cases h

theorem size_of_popDue {queue rest : TimerQueue} {now : Duration} {timer : BubbleTimer}
    (h : queue.popDue now = some (timer, rest)) : queue.size = rest.size + 1 := by
  simp [size, (pending_of_popDue h).1]

theorem popDue_eq_none {queue : TimerQueue} {now : Duration}
    (none : queue.popDue now = none) : ∀ timer ∈ queue.pending, now < timer.deadline := by
  unfold popDue at none
  split at none
  · rename_i empty
    simp [empty]
  · rename_i head rest pending
    split at none
    · cases none
    · rename_i late
      intro timer member
      have headLate : now < head.deadline := Nat.lt_of_not_le late
      have ordered := queue.ordered
      rw [pending] at member ordered
      rcases List.mem_cons.mp member with rfl | member
      · exact headLate
      · have before := BubbleTimer.before_def.mp ((List.pairwise_cons.mp ordered).1 timer member)
        rw [Duration.lt_def] at headLate ⊢
        omega

theorem popDue_self {queue rest : TimerQueue} {now : Duration} {timer : BubbleTimer}
    (popped : queue.popDue now = some (timer, rest)) :
    queue.popDue timer.deadline = some (timer, rest) := by
  unfold popDue at popped ⊢
  split at popped
  · cases popped
  · split at popped
    · cases popped
      exact if_pos (Duration.le_refl _)
    · cases popped

theorem mem_of_popDue {queue rest : TimerQueue} {now : Duration} {timer : BubbleTimer}
    (popped : queue.popDue now = some (timer, rest)) : timer ∈ queue.pending := by
  rw [(pending_of_popDue popped).1]
  exact List.mem_cons_self

theorem before_of_popDue {queue rest : TimerQueue} {now : Duration} {timer : BubbleTimer}
    (popped : queue.popDue now = some (timer, rest)) : ∀ t ∈ rest.pending, timer.Before t := by
  have ordered := queue.ordered
  rw [(pending_of_popDue popped).1] at ordered
  exact (List.pairwise_cons.mp ordered).1

theorem deadline_le_of_popDue {queue rest : TimerQueue} {now : Duration} {timer : BubbleTimer}
    (popped : queue.popDue now = some (timer, rest)) :
    ∀ t ∈ queue.pending, timer.deadline ≤ t.deadline := by
  intro t member
  rw [(pending_of_popDue popped).1] at member
  rcases List.mem_cons.mp member with rfl | member
  · exact Duration.le_refl _
  · have before := BubbleTimer.before_def.mp (before_of_popDue popped t member)
    rw [Duration.le_def]
    omega

theorem popDue_unique {queue rest rest' : TimerQueue} {now now' : Duration}
    {timer timer' : BubbleTimer} (first : queue.popDue now = some (timer, rest))
    (second : queue.popDue now' = some (timer', rest')) : timer = timer' ∧ rest = rest' := by
  obtain ⟨pending, issued, -⟩ := pending_of_popDue first
  obtain ⟨pending', issued', -⟩ := pending_of_popDue second
  rw [pending, List.cons.injEq] at pending'
  exact ⟨pending'.1, TimerQueue.ext pending'.2 (issued.trans issued'.symm)⟩

end TimerQueue

end SpriteStage
