import SpriteStage.Proofs.Collision.Selection
import SpriteStage.Proofs.Stepping.Unfolding

/-!
# Handles counted on

How many timers were armed before makes no difference to what timers do. A queue that has handed out
some more handles gives every timer a handle larger by that number, and so keeps their order, also that
of timers with the same deadline. Main statements: commands, steps and trades on actors and timers with
their handles counted on come to the same actors and timers, with their handles counted on
(`apply_renumbered`, `advance_renumbered`, `resolveCollisions_renumbered`).
-/

namespace SpriteStage

section Images

variable {ε α β γ δ : Type}

/-- Steps that commute with an image, one after the other, commute with it together. -/
theorem bind_commutes {first : Except ε α} {other : Except ε β} {next : α → Except ε γ}
    {following : β → Except ε δ} {image : α → β} {result : γ → δ} (starts : other = first.map image)
    (goesOn : ∀ value, following (image value) = (next value).map result) :
    other >>= following = (first >>= next).map result := by
  rw [starts]
  cases first with
  | error fault => rfl
  | ok value => exact goesOn value

/-- After a step that the image leaves alone only the rest has to commute with it. -/
theorem bind_map {first : Except ε α} {next : α → Except ε γ} {following : α → Except ε δ}
    {result : γ → δ} (goesOn : ∀ value, following value = (next value).map result) :
    first >>= following = (first >>= next).map result := by
  cases first with
  | error fault => rfl
  | ok value => exact goesOn value

theorem foldlM_commutes {step : α → γ → Except ε α} {other : β → γ → Except ε β} {image : α → β}
    (each : ∀ state item, other (image state) item = (step state item).map image) (items : List γ)
    (state : α) : items.foldlM other (image state) = (items.foldlM step state).map image := by
  induction items generalizing state with
  | nil => rfl
  | cons item rest ih =>
    rw [List.foldlM_cons, List.foldlM_cons]
    exact bind_commutes (each state item) ih

end Images

/-! ### Timers -/

def BubbleTimer.renumbered (offset : Nat) (timer : BubbleTimer) : BubbleTimer :=
  { timer with handle := offset + timer.handle }

theorem BubbleTimer.before_renumbered {offset : Nat} {a b : BubbleTimer} :
    (a.renumbered offset).Before (b.renumbered offset) ↔ a.Before b := by
  simp [before_def, renumbered]

theorem insertTimer_renumbered (offset : Nat) (timer : BubbleTimer) (timers : List BubbleTimer) :
    insertTimer (timer.renumbered offset) (timers.map (.renumbered offset)) =
      (insertTimer timer timers).map (.renumbered offset) := by
  induction timers with
  | nil => rfl
  | cons head rest ih =>
    simp only [List.map_cons, insertTimer, BubbleTimer.before_renumbered]
    split
    · rfl
    · rw [ih, List.map_cons]

namespace TimerQueue

variable {queue : TimerQueue} {offset : Nat}

/-- The queue with some more handles handed out before its first one. -/
def renumbered (offset : Nat) (queue : TimerQueue) : TimerQueue where
  pending := queue.pending.map (.renumbered offset)
  issued := offset + queue.issued
  ordered := List.pairwise_map.mpr (queue.ordered.imp BubbleTimer.before_renumbered.mpr)
  handle_le := by
    intro timer member
    obtain ⟨before, pending, rfl⟩ := List.mem_map.mp member
    exact Nat.add_le_add_left (queue.handle_le before pending) offset

theorem arm_renumbered (actor : ActorId) (kind : BubbleKind) (deadline : Duration) :
    (queue.renumbered offset).arm actor kind deadline =
      (queue.arm actor kind deadline).map (offset + ·) (.renumbered offset) := by
  refine Prod.ext rfl (TimerQueue.ext ?_ rfl)
  exact insertTimer_renumbered offset ⟨queue.issued + 1, deadline, actor, kind⟩ queue.pending

theorem keep_renumbered {wanted other : BubbleTimer → Bool}
    (same : ∀ timer, other (timer.renumbered offset) = wanted timer) :
    (queue.renumbered offset).keep other = (queue.keep wanted).renumbered offset := by
  refine TimerQueue.ext ?_ rfl
  show (queue.pending.map _).filter other = (queue.pending.filter wanted).map _
  rw [List.filter_map]
  congr 2
  exact funext same

theorem cancel?_renumbered (handle : Option Nat) :
    (queue.renumbered offset).cancel? (handle.map (offset + ·)) =
      (queue.cancel? handle).renumbered offset := by
  cases handle with
  | none => rfl
  | some handle =>
    refine keep_renumbered fun timer => ?_
    rw [Bool.eq_iff_iff]
    simp [BubbleTimer.renumbered]

theorem cancelActor_renumbered (actor : ActorId) :
    (queue.renumbered offset).cancelActor actor = (queue.cancelActor actor).renumbered offset :=
  keep_renumbered fun _ => rfl

theorem clear_renumbered : (queue.renumbered offset).clear = queue.clear.renumbered offset :=
  keep_renumbered fun _ => rfl

/-- A first timer that is due is due in either queue. -/
theorem popDue_eq_some {rest : TimerQueue} {now : Duration} {timer : BubbleTimer}
    (pending : queue.pending = timer :: rest.pending) (issued : rest.issued = queue.issued)
    (due : timer.deadline ≤ now) : queue.popDue now = some (timer, rest) := by
  cases popped : queue.popDue now with
  | none =>
    have late := popDue_eq_none popped timer (pending ▸ List.mem_cons_self)
    exact absurd due (Duration.not_le_of_lt late)
  | some both =>
    obtain ⟨pending', issued', -⟩ := pending_of_popDue popped
    rw [pending, List.cons.injEq] at pending'
    have same : rest = both.2 := TimerQueue.ext pending'.2 (issued.trans issued'.symm)
    rw [same, pending'.1]

theorem popDue_renumbered (now : Duration) :
    (queue.renumbered offset).popDue now =
      (queue.popDue now).map (Prod.map (.renumbered offset) (.renumbered offset)) := by
  cases popped : queue.popDue now with
  | none =>
    have late := popDue_eq_none popped
    refine Option.eq_none_iff_forall_ne_some.mpr fun both due => ?_
    obtain ⟨pending, -, due⟩ := pending_of_popDue due
    have member : both.1 ∈ (queue.renumbered offset).pending := pending ▸ List.mem_cons_self
    obtain ⟨timer, among, same⟩ := List.mem_map.mp member
    rw [← same] at due
    exact Duration.not_le_of_lt (late timer among) due
  | some both =>
    obtain ⟨pending, issued, due⟩ := pending_of_popDue popped
    refine popDue_eq_some ?_ ?_ due
    · exact congrArg (List.map (BubbleTimer.renumbered offset)) pending
    · exact congrArg (offset + ·) issued

end TimerQueue

/-! ### Actors -/

/-- The actor with another handle on the timer of its bubble. -/
def Actor.renamed (rename : Nat → Nat) (actor : Actor) : Actor :=
  { actor with bubble := actor.bubble.map fun bubble => { bubble with timer := bubble.timer.map rename } }

/-- An actor and the timers, with handles counted on. -/
def renumberBoth (offset : Nat) : Actor × TimerQueue → Actor × TimerQueue :=
  Prod.map (.renamed (offset + ·)) (.renumbered offset)

namespace Actor

variable {actor : Actor} {timers : TimerQueue} {rename : Nat → Nat} {offset : Nat}

@[simp] theorem bubbleTimer_renamed : (actor.renamed rename).bubbleTimer = actor.bubbleTimer.map rename := by
  unfold bubbleTimer renamed
  cases actor.bubble <;> rfl

@[simp] theorem bubbleText_renamed (kind : BubbleKind) :
    (actor.renamed rename).bubbleText kind = actor.bubbleText kind := by
  unfold bubbleText renamed
  cases actor.bubble <;> rfl

theorem cancel_bubble_renumbered :
    (timers.renumbered offset).cancel? (actor.renamed (offset + ·)).bubbleTimer =
      (timers.cancel? actor.bubbleTimer).renumbered offset := by
  rw [bubbleTimer_renamed, TimerQueue.cancel?_renumbered]

theorem move_renamed (setting : Setting) (distance : Float) :
    (actor.renamed rename).move setting distance =
      (actor.move setting distance).map (.renamed rename) := by
  unfold move
  cases setting.motion with
  | horizontal floor =>
    refine bind_map fun x => ?_
    cases floor with
    | none => rfl
    | some floor => exact bind_map fun y => rfl
  | heading => exact bind_map fun held => rfl

theorem turn_renamed (degrees : Int) :
    (actor.renamed rename).turn degrees = (actor.turn degrees).map (.renamed rename) := by
  unfold turn
  dsimp only [renamed]
  split <;> rfl

theorem display_renumbered (setting : Setting) (kind : BubbleKind) (text : String)
    (duration : Option Float) :
    (actor.renamed (offset + ·)).display setting (timers.renumbered offset) kind text duration =
      renumberBoth offset (actor.display setting timers kind text duration) := by
  unfold display
  rw [cancel_bubble_renumbered]
  cases bubbleDeadline setting.now duration with
  | none => rfl
  | some deadline =>
    dsimp only
    rw [TimerQueue.arm_renumbered]
    rfl

theorem apply_renumbered (setting : Setting) (command : Command) :
    command.apply setting (actor.renamed (offset + ·)) (timers.renumbered offset) =
      (command.apply setting actor timers).map (renumberBoth offset) := by
  cases command with
  | move distance => exact bind_commutes (move_renamed setting distance) fun moved => rfl
  | turn degrees => exact bind_commutes (turn_renamed degrees) fun moved => rfl
  | goTo x y => exact bind_map fun held => rfl
  | bubble kind text duration => exact congrArg Except.ok (display_renumbered setting kind text duration)
  | repeatTimes count body => rfl

/-- A step comes to the same with handles counted on. -/
theorem advance_renumbered (setting : Setting) :
    (actor.renamed (offset + ·)).advance setting (timers.renumbered offset) =
      (actor.advance setting timers).map fun (outcome, moved) => (outcome, renumberBoth offset moved) := by
  have same : (actor.renamed (offset + ·)).program[((actor.renamed (offset + ·)).cursor.settle
      (actor.renamed (offset + ·)).program).pc]? =
      actor.program[(actor.cursor.settle actor.program).pc]? := rfl
  rw [advance_eq, advance_eq, same]
  cases actor.program[(actor.cursor.settle actor.program).pc]? with
  | none => rfl
  | some block =>
    refine bind_map fun (command, fetched) => ?_
    have applies := @apply_renumbered { actor with cursor := fetched } timers offset setting command
    exact bind_commutes applies fun moved => rfl

end Actor

/-! ### Trades -/

section Trades

variable (rename : Nat → Nat) (offset : Nat) (actors : List Actor) (timers : TimerQueue)

theorem collidingPairs_renamed (distance : Float) :
    collidingPairs distance (actors.map (.renamed rename)) = collidingPairs distance actors := by
  induction actors with
  | nil => rfl
  | cons actor rest ih =>
    rw [List.map_cons, collidingPairs, ih, List.filter_map, List.map_map]
    rfl

theorem locatePair_renamed (a b : ActorId) :
    locatePair (actors.map (.renamed rename)) a b = locatePair actors a b := by
  simp only [locatePair, List.findIdx?_map]
  rfl

theorem tradePrograms_renumbered (a b : Actor) :
    tradePrograms (a.renamed (offset + ·)) (b.renamed (offset + ·)) (timers.renumbered offset) =
      let (first, second, timers) := tradePrograms a b timers
      (first.renamed (offset + ·), second.renamed (offset + ·), timers.renumbered offset) := by
  simp only [tradePrograms, Actor.bubbleTimer_renamed, TimerQueue.cancel?_renumbered]
  rfl

/-- A list of actors and the timers, with handles counted on. -/
def renumberAll (offset : Nat) : List Actor × TimerQueue → List Actor × TimerQueue :=
  Prod.map (List.map (.renamed (offset + ·))) (.renumbered offset)

/-- A trade comes to the same with handles counted on. -/
theorem tradeIn?_renumbered (a b : ActorId) :
    tradeIn? (actors.map (.renamed (offset + ·))) (timers.renumbered offset) a b =
      (tradeIn? actors timers a b).map (renumberAll offset) := by
  unfold tradeIn?
  rw [locatePair_renamed]
  cases locatePair actors a b with
  | none => rfl
  | some places =>
    obtain ⟨i, j⟩ := places
    simp only [Option.bind_eq_bind, Option.bind_some, List.getElem?_map]
    cases actors[i]? with
    | none => rfl
    | some first =>
      cases actors[j]? with
      | none => rfl
      | some second =>
        simp only [Option.map_some, Option.bind_some, tradePrograms_renumbered]
        simp [renumberAll, List.map_set]

/-- So do trades one after another. -/
theorem tradeAll_renumbered (swaps : List ActorPair) (both : List Actor × TimerQueue) :
    tradeAll swaps (renumberAll offset both) = renumberAll offset (tradeAll swaps both) := by
  induction swaps generalizing both with
  | nil => rfl
  | cons pair rest ih =>
    have traded : tradeIn? (renumberAll offset both).1 (renumberAll offset both).2 pair.first pair.second =
        _ := tradeIn?_renumbered offset both.1 both.2 pair.first pair.second
    rw [tradeAll_cons, tradeAll_cons, traded, ← ih]
    cases tradeIn? both.1 both.2 pair.first pair.second <;> rfl

theorem resolveCollisions_renumbered (distance : Float) (busy : IdSet) :
    resolveCollisions distance (actors.map (.renamed (offset + ·))) busy (timers.renumbered offset) =
      let resolution := resolveCollisions distance actors busy timers
      { resolution with
        actors := resolution.actors.map (.renamed (offset + ·))
        timers := resolution.timers.renumbered offset } := by
  let swaps := (selectSwaps busy (collidingPairs distance actors)).1
  have traded : tradeAll swaps (actors.map (.renamed (offset + ·)), timers.renumbered offset) =
      renumberAll offset (tradeAll swaps (actors, timers)) :=
    tradeAll_renumbered offset swaps (actors, timers)
  rw [resolveCollisions_eq, resolveCollisions_eq, collidingPairs_renamed]
  dsimp only
  rw [traded]
  rfl

end Trades

end SpriteStage
