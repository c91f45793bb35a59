/-!
# Tables keyed by program position

A `Table` maps finitely many positions to values. Entries are kept in increasing order of
position, one per position, so two tables with the same contents are the same value.
`closeGap` renumbers the entries after the command at one position is taken out.
-/

namespace SpriteStage

/-- Puts an entry into an increasing list, replacing the one at its position. -/
def insertEntry {α : Type} (key : Nat) (value : α) : List (Nat × α) → List (Nat × α)
  | [] => [(key, value)]
  | entry :: rest =>
    if key < entry.1 then (key, value) :: entry :: rest
    else if key = entry.1 then (key, value) :: rest
    else entry :: insertEntry key value rest

theorem eq_or_mem_of_mem_insertEntry {α : Type} {key : Nat} {value : α} {entry : Nat × α}
    {entries : List (Nat × α)} (h : entry ∈ insertEntry key value entries) :
    entry = (key, value) ∨ entry ∈ entries := by
  induction entries with
  | nil => simpa [insertEntry] using h
  | cons head rest ih => grind [insertEntry]

theorem pairwise_insertEntry {α : Type} {key : Nat} {value : α} {entries : List (Nat × α)}
    (h : entries.Pairwise fun a b => a.1 < b.1) :
    (insertEntry key value entries).Pairwise fun a b => a.1 < b.1 := by
  induction entries with
  | nil => simp [insertEntry]
  | cons head rest ih =>
    obtain ⟨first, later⟩ := List.pairwise_cons.mp h
    unfold insertEntry
    split
    · rename_i below
      refine List.pairwise_cons.mpr ⟨fun entry mem => ?_, h⟩
      rcases List.mem_cons.mp mem with rfl | mem
      · exact below
      · exact Nat.lt_trans below (first entry mem)
    · split
      · rename_i same
        exact List.pairwise_cons.mpr ⟨fun entry mem => same ▸ first entry mem, later⟩
      · rename_i notBelow notSame
        refine List.pairwise_cons.mpr ⟨fun entry mem => ?_, ih later⟩
        rcases eq_or_mem_of_mem_insertEntry mem with rfl | mem
        · show head.1 < key
          omega
        · exact first entry mem

theorem find?_insertEntry {α : Type} (key other : Nat) (value : α) (entries : List (Nat × α)) :
    (insertEntry key value entries).find? (·.1 == other) =
      if other = key then some (key, value) else entries.find? (·.1 == other) := by
  induction entries with
  | nil =>
    by_cases same : other = key
    · simp [insertEntry, same]
    · simp [insertEntry, same, Ne.symm same]
  | cons head rest ih =>
    unfold insertEntry
    by_cases same : other = key
    · subst same
      split
      · simp
      · split
        · simp
        · rename_i notSame
          simp [Ne.symm notSame, ih]
    · split
      · simp [Ne.symm same]
      · split
        · rename_i atHead
          have passed : ¬ head.1 = other := fun equal => same (equal.symm.trans atHead.symm)
          simp [Ne.symm same, passed]
        · simp only [List.find?_cons, ih, same, if_false]

/-- Where an entry stands once the one at `gap` is taken out. -/
def shiftEntry {α : Type} (gap : Nat) (entry : Nat × α) : Option (Nat × α) :=
  if entry.1 < gap then some entry
  else if entry.1 = gap then none
  else some (entry.1 - 1, entry.2)

/-- A finite map from positions to values, in increasing order of position. -/
@[ext] structure Table (α : Type) where
  entries : List (Nat × α) := []
  increasing : entries.Pairwise (fun a b => a.1 < b.1) := by exact List.Pairwise.nil

namespace Table

variable {α : Type}

def empty : Table α := {}

instance : EmptyCollection (Table α) := ⟨empty⟩

def get? (table : Table α) (key : Nat) : Option α :=
  (table.entries.find? (·.1 == key)).map (·.2)

def isEmpty (table : Table α) : Bool := table.entries.isEmpty

def insert (table : Table α) (key : Nat) (value : α) : Table α :=
  ⟨insertEntry key value table.entries, pairwise_insertEntry table.increasing⟩

def erase (table : Table α) (key : Nat) : Table α :=
  ⟨table.entries.filter (·.1 != key), table.increasing.filter _⟩

/-- The table after the entry at `gap` is dropped and the ones behind it move up by one. -/
def closeGap (table : Table α) (gap : Nat) : Table α where
  entries := table.entries.filterMap (shiftEntry gap)
  increasing := by
    refine List.pairwise_filterMap.mpr (table.increasing.imp ?_)
    intro a b below a' ha b' hb
    simp only [shiftEntry] at ha hb
    grind

/-- The positions that have an entry, in increasing order. -/
def keys (table : Table α) : List Nat := table.entries.map (·.1)

@[simp] theorem get?_empty (key : Nat) : (∅ : Table α).get? key = none := rfl

theorem get?_insert (table : Table α) (key other : Nat) (value : α) :
    (table.insert key value).get? other = if other = key then some value else table.get? other := by
  unfold get? insert
  rw [find?_insertEntry]
  by_cases same : other = key
  · simp [same]
  · simp [same]

theorem get?_erase (table : Table α) (key other : Nat) :
    (table.erase key).get? other = if other = key then none else table.get? other := by
  unfold get? erase
  rw [List.find?_filter]
  by_cases same : other = key
  · subst same
    simp
  · simp only [same, if_false]
    congr 2
    funext entry
    by_cases found : entry.1 = other
    · simp [found, same]
    · simp [found]

theorem get?_eq_some_iff {table : Table α} {key : Nat} {value : α} :
    table.get? key = some value ↔ (key, value) ∈ table.entries := by
  obtain ⟨entries, increasing⟩ := table
  show (entries.find? (·.1 == key)).map (·.2) = some value ↔ (key, value) ∈ entries
  induction increasing with
  | nil => simp
  | @cons head rest first _ ih =>
    by_cases here : head.1 = key
    · -- The positions behind the first one are larger, so none of them is looked for.
      have absent : ¬ (key, value) ∈ rest := fun member => absurd (first _ member) (by simp [here])
      simp [here, absent, Prod.ext_iff, eq_comm]
    · have other : ¬ (key, value) = head := fun same => here (congrArg Prod.fst same).symm
      simp only [List.find?_cons, beq_false_of_ne here, List.mem_cons, other, false_or]
      exact ih

/-- A table is what it holds. -/
theorem ext_get? {table other : Table α} (same : ∀ key, table.get? key = other.get? key) :
    table = other := by
  have members (entry : Nat × α) : entry ∈ table.entries ↔ entry ∈ other.entries := by
    rw [← get?_eq_some_iff, ← get?_eq_some_iff, same]
  have distinct (table : Table α) : table.entries.Nodup :=
    table.increasing.imp fun below same => absurd (congrArg Prod.fst same) (Nat.ne_of_lt below)
  have perm := (List.perm_ext_iff_of_nodup (distinct table) (distinct other)).mpr members
  refine Table.ext (perm.eq_of_pairwise (fun a b _ _ below above => ?_) table.increasing other.increasing)
  exact absurd below (Nat.lt_asymm above)

/-! ### Tables with at most one entry -/

@[simp] theorem entries_insert_empty (key : Nat) (value : α) :
    ((∅ : Table α).insert key value).entries = [(key, value)] := rfl

@[simp] theorem insert_insert_empty (key : Nat) (first second : α) :
    ((∅ : Table α).insert key first).insert key second = (∅ : Table α).insert key second := by
  ext1
  show insertEntry key second [(key, first)] = [(key, second)]
  simp [insertEntry]

@[simp] theorem erase_empty (key : Nat) : (∅ : Table α).erase key = ∅ := rfl

@[simp] theorem erase_insert_empty (key : Nat) (value : α) :
    ((∅ : Table α).insert key value).erase key = ∅ := by
  ext1
  show [(key, value)].filter (·.1 != key) = []
  simp

theorem erase_insert_empty_of_ne {key other : Nat} (apart : key ≠ other) (value : α) :
    ((∅ : Table α).insert key value).erase other = (∅ : Table α).insert key value := by
  ext1
  show [(key, value)].filter (·.1 != other) = [(key, value)]
  simp [apart]

@[simp] theorem closeGap_empty (gap : Nat) : (∅ : Table α).closeGap gap = ∅ := rfl

/-- The one entry of a table moves up when a command before it is taken out, and is dropped with
its own command. -/
theorem closeGap_insert_empty (key gap : Nat) (value : α) :
    ((∅ : Table α).insert key value).closeGap gap =
      if key < gap then (∅ : Table α).insert key value
      else if key = gap then ∅
      else (∅ : Table α).insert (key - 1) value := by
  have shifted : (((∅ : Table α).insert key value).closeGap gap).entries =
      [(key, value)].filterMap (shiftEntry gap) := rfl
  ext1
  rw [shifted]
  rcases Nat.lt_trichotomy key gap with below | same | above
  · simp [shiftEntry, below]
  · simp [shiftEntry, same]
    rfl
  · have notBelow : ¬ key < gap := by omega
    have notSame : ¬ key = gap := by omega
    simp [shiftEntry, notBelow, notSame]

/-- The table of a list of entries; of two at one position the later counts. -/
def ofList (entries : List (Nat × α)) : Table α :=
  entries.foldl (fun table entry => table.insert entry.1 entry.2) empty

end Table

end SpriteStage
