import SpriteStage.Collision

/-!
# Which pairs trade

The colliding pairs of a list of actors are the pairs of an earlier and a later actor that are near
each other (`mem_collidingPairs`). Of a list of pairs those are selected whose actors are both free, so
the selected pairs have no actor in common, neither with each other nor with those that were busy
before, and exactly their actors get busy. Resolving collisions selects pairs and has them trade one
after another (`resolveCollisions_eq`).
-/

namespace SpriteStage

namespace ActorPair

/-- No actor takes part in both pairs. -/
def Apart (pair other : ActorPair) : Prop :=
  ∀ id, pair.involves id = true → ¬ other.involves id = true

variable {pair other : ActorPair} {id : ActorId}

theorem involves_iff : pair.involves id = true ↔ pair.first = id ∨ pair.second = id := by
  simp [involves]

theorem Apart.symm (apart : pair.Apart other) : other.Apart pair :=
  fun id inOther inPair => apart id inPair inOther

theorem apart_of_free {busy : IdSet} (busied : ∀ id, pair.involves id = true → id ∈ busy)
    (free : ∀ id, other.involves id = true → ¬ id ∈ busy) : pair.Apart other :=
  fun id inPair inOther => free id inOther (busied id inPair)

/-- The members of a pair of two actors, in one order or the other. -/
theorem members_of (a b : ActorId) :
    (of a b).first = a ∧ (of a b).second = b ∨ (of a b).first = b ∧ (of a b).second = a := by
  unfold of
  split
  · exact .inl ⟨rfl, rfl⟩
  · exact .inr ⟨rfl, rfl⟩

theorem involves_of {a b : ActorId} : (of a b).involves id = true ↔ a = id ∨ b = id := by
  rw [involves_iff]
  rcases members_of a b with ⟨first, second⟩ | ⟨first, second⟩
  · rw [first, second]
  · rw [first, second, or_comm]

/-- The pair is of an earlier and a later one of the identifiers. -/
def Among (pair : ActorPair) (ids : List ActorId) : Prop :=
  ∃ a b, [a, b].Sublist ids ∧ pair = .of a b

/-- The pair is of two different ones of the identifiers. -/
def Present (pair : ActorPair) (ids : List ActorId) : Prop :=
  pair.first ≠ pair.second ∧ pair.first ∈ ids ∧ pair.second ∈ ids

theorem present_of {a b : ActorId} {ids : List ActorId} (apart : a ≠ b) (first : a ∈ ids) (second : b ∈ ids) :
    (of a b).Present ids := by
  unfold Present
  rcases members_of a b with ⟨isFirst, isSecond⟩ | ⟨isFirst, isSecond⟩
  · rw [isFirst, isSecond]
    exact ⟨apart, first, second⟩
  · rw [isFirst, isSecond]
    exact ⟨apart.symm, second, first⟩

theorem Among.present {ids : List ActorId} (distinct : ids.Nodup) (among : pair.Among ids) :
    pair.Present ids := by
  obtain ⟨a, b, below, rfl⟩ := among
  have apart : a ≠ b := by simpa using distinct.sublist below
  exact present_of apart (below.subset (by simp)) (below.subset (by simp))

end ActorPair

/-- Colliding pairs are made of an earlier and a later actor that are near each other. -/
theorem mem_collidingPairs {distance : Float} {actors : List Actor} {pair : ActorPair} :
    pair ∈ collidingPairs distance actors ↔
      ∃ a b, [a, b].Sublist actors ∧ a.near distance b = true ∧ pair = .of a.id b.id := by
  induction actors with
  | nil => simp [collidingPairs]
  | cons head rest ih =>
    simp only [collidingPairs, List.mem_append, List.mem_map, List.mem_filter, ih]
    constructor
    · rintro (⟨b, ⟨later, near⟩, rfl⟩ | ⟨a, b, behind, near, rfl⟩)
      · exact ⟨head, b, List.Sublist.cons_cons _ (List.singleton_sublist.mpr later), near, rfl⟩
      · exact ⟨a, b, behind.cons _, near, rfl⟩
    · rintro ⟨a, b, among, near, rfl⟩
      rcases List.sublist_cons_iff.mp among with behind | ⟨later, same, behind⟩
      · exact .inr ⟨a, b, behind, near, rfl⟩
      · cases same
        exact .inl ⟨b, ⟨List.singleton_sublist.mp behind, near⟩, rfl⟩

/-- Colliding actors stand one before the other. -/
theorem among_of_mem_collidingPairs {distance : Float} {actors : List Actor} {pair : ActorPair}
    (member : pair ∈ collidingPairs distance actors) : pair.Among (actors.map (·.id)) := by
  obtain ⟨a, b, among, -, rfl⟩ := mem_collidingPairs.mp member
  exact ⟨a.id, b.id, among.map _, rfl⟩

/-- On a stage without twins a colliding pair is of two different actors on it. -/
theorem present_of_mem_collidingPairs {distance : Float} {actors : List Actor} {pair : ActorPair}
    (distinct : (actors.map (·.id)).Nodup) (member : pair ∈ collidingPairs distance actors) :
    pair.Present (actors.map (·.id)) :=
  (among_of_mem_collidingPairs member).present distinct

/-! ### Selecting -/

variable {busy : IdSet} {pair : ActorPair} {pairs : List ActorPair} {id : ActorId}

theorem selectSwaps_of_busy (taken : pair.first ∈ busy ∨ pair.second ∈ busy) :
    selectSwaps busy (pair :: pairs) = selectSwaps busy pairs := by
  rw [selectSwaps, if_pos taken]

theorem selectSwaps_of_free (free : ¬ (pair.first ∈ busy ∨ pair.second ∈ busy)) :
    selectSwaps busy (pair :: pairs) =
      (pair :: (selectSwaps ((busy.insert pair.first).insert pair.second) pairs).1,
        (selectSwaps ((busy.insert pair.first).insert pair.second) pairs).2) := by
  rw [selectSwaps, if_neg free]

/-- The actors of a selected pair get busy. -/
theorem mem_busied : id ∈ (busy.insert pair.first).insert pair.second ↔
    pair.involves id = true ∨ id ∈ busy := by
  rw [IdSet.mem_insert, IdSet.mem_insert, ActorPair.involves_iff, or_assoc, or_left_comm,
    @eq_comm _ id pair.first, @eq_comm _ id pair.second]

theorem selectSwaps_sublist (busy : IdSet) (pairs : List ActorPair) :
    (selectSwaps busy pairs).1.Sublist pairs := by
  induction pairs generalizing busy with
  | nil => exact .slnil
  | cons pair rest ih =>
    by_cases taken : pair.first ∈ busy ∨ pair.second ∈ busy
    · rw [selectSwaps_of_busy taken]
      exact (ih busy).cons _
    · rw [selectSwaps_of_free taken]
      exact (ih _).cons_cons _

/-- Whoever is busy afterwards was so before or takes part in a selected pair. -/
theorem mem_selectSwaps_busy (busy : IdSet) (pairs : List ActorPair) :
    id ∈ (selectSwaps busy pairs).2 ↔
      id ∈ busy ∨ ∃ pair ∈ (selectSwaps busy pairs).1, pair.involves id = true := by
  induction pairs generalizing busy with
  | nil => simp [selectSwaps]
  | cons pair rest ih =>
    by_cases taken : pair.first ∈ busy ∨ pair.second ∈ busy
    · rw [selectSwaps_of_busy taken]
      exact ih busy
    · rw [selectSwaps_of_free taken]
      simp only [ih, mem_busied, List.mem_cons, exists_eq_or_imp]
      rw [or_assoc, or_left_comm]

/-- A selected pair has no actor that was busy before. -/
theorem free_of_mem_selectSwaps (selected : pair ∈ (selectSwaps busy pairs).1)
    (involved : pair.involves id = true) : ¬ id ∈ busy := by
  induction pairs generalizing busy with
  | nil => simp [selectSwaps] at selected
  | cons head rest ih =>
    by_cases taken : head.first ∈ busy ∨ head.second ∈ busy
    · rw [selectSwaps_of_busy taken] at selected
      exact ih selected
    · rw [selectSwaps_of_free taken] at selected
      rcases List.mem_cons.mp selected with rfl | selected
      · rcases ActorPair.involves_iff.mp involved with rfl | rfl
        · exact fun member => taken (.inl member)
        · exact fun member => taken (.inr member)
      · exact fun member => ih selected (mem_busied.mpr (.inr member))

/-- Selected pairs have no actor in common. -/
theorem pairwise_selectSwaps (busy : IdSet) (pairs : List ActorPair) :
    (selectSwaps busy pairs).1.Pairwise ActorPair.Apart := by
  induction pairs generalizing busy with
  | nil => exact .nil
  | cons head rest ih =>
    by_cases taken : head.first ∈ busy ∨ head.second ∈ busy
    · rw [selectSwaps_of_busy taken]
      exact ih busy
    · rw [selectSwaps_of_free taken]
      refine List.pairwise_cons.mpr ⟨fun other selected => ?_, ih _⟩
      exact ActorPair.apart_of_free (fun id involved => mem_busied.mpr (.inl involved))
        fun id involved => free_of_mem_selectSwaps selected involved

/-! ### Trades one after another -/

/-- The actors of every pair trade; a pair of which someone is missing is passed over. -/
def tradeAll (swaps : List ActorPair) (both : List Actor × TimerQueue) : List Actor × TimerQueue :=
  swaps.foldl (fun both pair => (tradeIn? both.1 both.2 pair.first pair.second).getD both) both

@[simp] theorem tradeAll_nil (both : List Actor × TimerQueue) : tradeAll [] both = both := rfl

theorem tradeAll_cons (pair : ActorPair) (rest : List ActorPair) (both : List Actor × TimerQueue) :
    tradeAll (pair :: rest) both =
      tradeAll rest ((tradeIn? both.1 both.2 pair.first pair.second).getD both) := rfl

theorem resolveCollisions_eq (distance : Float) (actors : List Actor) (busy : IdSet)
    (timers : TimerQueue) : resolveCollisions distance actors busy timers =
      let selected := selectSwaps busy (collidingPairs distance actors)
      let traded := tradeAll selected.1 (actors, timers)
      ⟨selected.1, traded.1, selected.2, traded.2⟩ := rfl

end SpriteStage
