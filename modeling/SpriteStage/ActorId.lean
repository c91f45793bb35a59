/-!
# Actor identifiers

An identifier is a 32-bit number. `IdSet` holds identifiers in increasing order without
repetition, so equal sets are equal values and the order of a walk over the set is fixed.
-/

namespace SpriteStage

/-- The largest number an identifier can carry. -/
def maxActorNumber : Nat := 4294967295

@[ext] structure ActorId where
  number : Nat
  number_le : number ≤ maxActorNumber := by decide
deriving DecidableEq

namespace ActorId

instance : LE ActorId := ⟨fun a b => a.number ≤ b.number⟩
instance : LT ActorId := ⟨fun a b => a.number < b.number⟩

theorem le_def {a b : ActorId} : a ≤ b ↔ a.number ≤ b.number := Iff.rfl
theorem lt_def {a b : ActorId} : a < b ↔ a.number < b.number := Iff.rfl

instance (a b : ActorId) : Decidable (a ≤ b) := decidable_of_iff _ le_def.symm
instance (a b : ActorId) : Decidable (a < b) := decidable_of_iff _ lt_def.symm

def ofNat? (n : Nat) : Option ActorId :=
  if h : n ≤ maxActorNumber then some ⟨n, h⟩ else none

instance : ToString ActorId := ⟨fun id => toString id.number⟩

end ActorId

/-- Puts an identifier into an increasing list, unless it is there already. -/
def insertId (id : ActorId) : List ActorId → List ActorId
  | [] => [id]
  | head :: rest =>
    if id < head then id :: head :: rest
    else if id = head then head :: rest
    else head :: insertId id rest

theorem mem_insertId {x id : ActorId} {ids : List ActorId} :
    x ∈ insertId id ids ↔ x = id ∨ x ∈ ids := by
  induction ids with
  | nil => simp [insertId]
  | cons head rest ih => grind [insertId]

theorem pairwise_insertId {id : ActorId} {ids : List ActorId} (h : ids.Pairwise (· < ·)) :
    (insertId id ids).Pairwise (· < ·) := by
  induction ids with
  | nil => simp [insertId]
  | cons head rest ih =>
    obtain ⟨first, later⟩ := List.pairwise_cons.mp h
    unfold insertId
    split
    · rename_i below
      refine List.pairwise_cons.mpr ⟨fun x mem => ?_, h⟩
      rcases List.mem_cons.mp mem with rfl | mem
      · exact below
      · have := first x mem
        simp only [ActorId.lt_def] at *
        omega
    · split
      · exact h
      · rename_i notBelow notSame
        refine List.pairwise_cons.mpr ⟨fun x mem => ?_, ih later⟩
        rcases mem_insertId.mp mem with rfl | mem
        · simp only [ActorId.lt_def, ActorId.ext_iff] at *
          omega
        · exact first x mem

theorem nodup_of_increasing {ids : List ActorId} (increasing : ids.Pairwise (· < ·)) : ids.Nodup :=
  increasing.imp @fun a b (below : a.number < b.number) same =>
    absurd (congrArg ActorId.number same) (Nat.ne_of_lt below)

/-- An increasing list is determined by its members. -/
theorem eq_of_increasing {ids others : List ActorId} (increasing : ids.Pairwise (· < ·))
    (rising : others.Pairwise (· < ·)) (same : ∀ id, id ∈ ids ↔ id ∈ others) : ids = others := by
  have perm : ids.Perm others :=
    (List.perm_ext_iff_of_nodup (nodup_of_increasing increasing) (nodup_of_increasing rising)).mpr same
  refine perm.eq_of_pairwise (fun a b _ _ below above => ?_) increasing rising
  exact absurd below (Nat.lt_asymm above)

/-- A finite set of identifiers, listed in increasing order. -/
@[ext] structure IdSet where
  ids : List ActorId := []
  increasing : ids.Pairwise (· < ·) := by exact List.Pairwise.nil

namespace IdSet

def empty : IdSet := {}

instance : EmptyCollection IdSet := ⟨empty⟩
instance : Membership ActorId IdSet := ⟨fun set id => id ∈ set.ids⟩
instance (id : ActorId) (set : IdSet) : Decidable (id ∈ set) :=
  inferInstanceAs (Decidable (id ∈ set.ids))

theorem mem_def {id : ActorId} {set : IdSet} : id ∈ set ↔ id ∈ set.ids := Iff.rfl

def insert (set : IdSet) (id : ActorId) : IdSet :=
  ⟨insertId id set.ids, pairwise_insertId set.increasing⟩

def erase (set : IdSet) (id : ActorId) : IdSet :=
  ⟨set.ids.filter (· ≠ id), set.increasing.filter _⟩

def ofList (ids : List ActorId) : IdSet := ids.foldl insert empty

def isEmpty (set : IdSet) : Bool := set.ids.isEmpty

def size (set : IdSet) : Nat := set.ids.length

@[simp] theorem not_mem_empty (id : ActorId) : ¬ id ∈ (∅ : IdSet) := by
  simp [mem_def, EmptyCollection.emptyCollection, empty]

@[simp] theorem mem_insert {x id : ActorId} {set : IdSet} :
    x ∈ set.insert id ↔ x = id ∨ x ∈ set := mem_insertId

@[simp] theorem mem_erase {x id : ActorId} {set : IdSet} :
    x ∈ set.erase id ↔ x ∈ set ∧ x ≠ id := by
  simp [mem_def, erase]

@[simp] theorem mem_ofList {id : ActorId} {ids : List ActorId} : id ∈ ofList ids ↔ id ∈ ids := by
  have grown (set : IdSet) : id ∈ ids.foldl insert set ↔ id ∈ ids ∨ id ∈ set := by
    induction ids generalizing set with
    | nil => simp
    | cons head rest ih => grind [mem_insert]
  have none : ¬ id ∈ empty := not_mem_empty id
  rw [ofList, grown, or_iff_left none]

theorem isEmpty_iff {set : IdSet} : set.isEmpty = true ↔ ∀ id, ¬ id ∈ set := by
  rw [isEmpty, List.isEmpty_iff, List.eq_nil_iff_forall_not_mem]
  rfl

end IdSet

end SpriteStage
