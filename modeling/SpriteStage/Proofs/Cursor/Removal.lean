import SpriteStage.Cursor

/-!
# Cursors behind a removal

Taking a command out of a program moves the commands behind it up by one, and what a cursor knows of
its loops has to move with them. Tables are compared by what they hold (`Table.ext_get?`): after a
removal a position holds what stood at `beforeRemoval` of it, in the program as in the tables
(`Table.get?_closeGap`). Nothing else is assumed of a cursor; its tables may hold anything anywhere.
Main statement: `removal_reindexes`.
-/

namespace SpriteStage

/-! ### Positions -/

/-- The position, before an item is taken out, of what stands at a position afterwards. -/
def beforeRemoval (removed position : Nat) : Nat :=
  if position < removed then position else position + 1

theorem beforeRemoval_of_lt {removed position : Nat} (before : position < removed) :
    beforeRemoval removed position = position := if_pos before

theorem beforeRemoval_of_le {removed position : Nat} (behind : removed ≤ position) :
    beforeRemoval removed position = position + 1 := if_neg (Nat.not_lt_of_le behind)

/-- Two removals may be made in either order, the later item being one further on while the earlier
one is still there. -/
theorem beforeRemoval_comm {first later : Nat} (behind : first ≤ later) (position : Nat) :
    beforeRemoval first (beforeRemoval later position) =
      beforeRemoval (later + 1) (beforeRemoval first position) := by
  rcases Nat.lt_or_ge position first with before | reached
  · rw [beforeRemoval_of_lt (by omega : position < later), beforeRemoval_of_lt before,
      beforeRemoval_of_lt (by omega)]
  · rw [beforeRemoval_of_le reached]
    rcases Nat.lt_or_ge position later with between | beyond
    · rw [beforeRemoval_of_lt between, beforeRemoval_of_le reached, beforeRemoval_of_lt (by omega)]
    · rw [beforeRemoval_of_le beyond, beforeRemoval_of_le (by omega), beforeRemoval_of_le (by omega)]

theorem getElem?_eraseIdx_beforeRemoval {α : Type} (items : List α) (removed position : Nat) :
    (items.eraseIdx removed)[position]? = items[beforeRemoval removed position]? := by
  rw [List.getElem?_eraseIdx]
  unfold beforeRemoval
  split <;> rfl

theorem eraseIdx_comm {α : Type} (items : List α) {first later : Nat} (behind : first ≤ later) :
    (items.eraseIdx first).eraseIdx later = (items.eraseIdx (later + 1)).eraseIdx first := by
  apply List.ext_getElem?
  intro position
  simp only [getElem?_eraseIdx_beforeRemoval, beforeRemoval_comm behind]

/-! ### Tables -/

/-- An entry moves to a position exactly if it stood there before the removal. -/
theorem shiftEntry_eq_some_iff {α : Type} {gap key : Nat} {value : α} {entry : Nat × α} :
    shiftEntry gap entry = some (key, value) ↔ entry = (beforeRemoval gap key, value) := by
  obtain ⟨position, held⟩ := entry
  simp only [shiftEntry, beforeRemoval]
  grind

/-- Where an entry goes that is not itself taken out. -/
def movedUp {α : Type} (gap : Nat) (entry : Nat × α) : Nat × α :=
  if gap < entry.1 then (entry.1 - 1, entry.2) else entry

theorem insertEntry_of_behind {α : Type} {key : Nat} {value : α} {entries : List (Nat × α)}
    (behind : ∀ entry ∈ entries, entry.1 < key) :
    insertEntry key value entries = entries ++ [(key, value)] := by
  induction entries with
  | nil => rfl
  | cons head rest ih =>
    rw [List.forall_mem_cons] at behind
    have after : ¬ key < head.1 := Nat.not_lt_of_lt behind.1
    have apart : ¬ key = head.1 := Nat.ne_of_gt behind.1
    rw [insertEntry, if_neg after, if_neg apart, ih behind.2, List.cons_append]

namespace Table

variable {α : Type}

/-- After a removal a position holds what it held where it was before. -/
theorem get?_closeGap (table : Table α) (gap key : Nat) :
    (table.closeGap gap).get? key = table.get? (beforeRemoval gap key) := by
  apply Option.ext
  intro value
  rw [get?_eq_some_iff, get?_eq_some_iff]
  show (key, value) ∈ table.entries.filterMap (shiftEntry gap) ↔ _
  simp only [List.mem_filterMap, shiftEntry_eq_some_iff, exists_eq_right]

theorem closeGap_comm (table : Table α) {first later : Nat} (behind : first ≤ later) :
    (table.closeGap first).closeGap later = (table.closeGap (later + 1)).closeGap first := by
  apply ext_get?
  intro key
  simp only [get?_closeGap, beforeRemoval_comm behind]

/-- All entries are kept but the one taken out, in their order. -/
theorem entries_closeGap (table : Table α) (gap : Nat) :
    (table.closeGap gap).entries = (table.erase gap).entries.map (movedUp gap) := by
  show table.entries.filterMap (shiftEntry gap) = (table.entries.filter (·.1 != gap)).map (movedUp gap)
  rw [← List.filterMap_eq_map, List.filterMap_filter]
  congr 1
  funext entry
  simp only [shiftEntry, movedUp, Function.comp_apply]
  grind

/-- Entries put into a table one by one in increasing order are its entries. -/
theorem ofList_entries (table : Table α) : ofList table.entries = table := by
  have grown (entries more : List (Nat × α)) (increasing : (entries ++ more).Pairwise fun a b => a.1 < b.1)
      (held : entries.Pairwise fun a b => a.1 < b.1) :
      (more.foldl (fun table entry => table.insert entry.1 entry.2) ⟨entries, held⟩ : Table α).entries =
        entries ++ more := by
    induction more generalizing entries with
    | nil => simp
    | cons entry rest ih =>
      have split : (entries ++ [entry] ++ rest).Pairwise fun a b => a.1 < b.1 := by
        simpa using increasing
      have behind : ∀ other ∈ entries, other.1 < entry.1 := fun other member =>
        (List.pairwise_append.mp increasing).2.2 other member entry List.mem_cons_self
      have inserted : (⟨entries, held⟩ : Table α).insert entry.1 entry.2 =
          ⟨entries ++ [entry], (List.pairwise_append.mp split).1⟩ :=
        Table.ext (insertEntry_of_behind behind)
      rw [List.foldl_cons, inserted, ih _ split, List.append_assoc, List.singleton_append]
  exact Table.ext (grown [] table.entries table.increasing .nil)

/-- A table after a removal: what stood at the gap is gone, and nothing else is. -/
structure ClosesTo (gap : Nat) (before after : Table α) : Prop where
  front : ∀ key, key < gap → after.get? key = before.get? key
  behind : ∀ key, gap ≤ key → after.get? key = before.get? (key + 1)
  /-- The values that stood elsewhere are all there, in their order. -/
  values : after.entries.map (·.2) = (before.erase gap).entries.map (·.2)
  /-- Moving the other entries up and putting them in one by one overwrites none of them. -/
  rebuilt : after = .ofList ((before.erase gap).entries.map (movedUp gap))

theorem closesTo_closeGap (table : Table α) (gap : Nat) : ClosesTo gap table (table.closeGap gap) where
  front key before := by rw [get?_closeGap, beforeRemoval_of_lt before]
  behind key behind := by rw [get?_closeGap, beforeRemoval_of_le behind]
  values := by
    rw [entries_closeGap, List.map_map]
    congr 1
    funext entry
    simp only [Function.comp_apply, movedUp]
    split <;> rfl
  rebuilt := by rw [← entries_closeGap, ofList_entries]

end Table

/-! ### Cursors -/

namespace Cursor

theorem commandRemoved_comm (cursor : Cursor) {first later : Nat} (behind : first ≤ later) :
    (cursor.commandRemoved first).commandRemoved later =
      (cursor.commandRemoved (later + 1)).commandRemoved first := by
  apply Cursor.ext
  · simp only [commandRemoved]
    grind
  · exact cursor.loops.closeGap_comm behind
  · exact cursor.nested.closeGap_comm behind

/-- A cursor follows the removal of a command, whatever it knows of whichever loops: exactly what it
knows of the removed command is lost, all else moves with its command, and the place moves exactly if
it lies behind. So removals compose as they do on programs. -/
theorem removal_reindexes (cursor : Cursor) (index : Nat) :
    let after := cursor.commandRemoved index
    Table.ClosesTo index cursor.loops after.loops ∧ Table.ClosesTo index cursor.nested after.nested ∧
    (after.pc + 1 = cursor.pc ↔ index < cursor.pc) ∧ (after.pc = cursor.pc ↔ cursor.pc ≤ index) ∧
    ∀ later, index ≤ later →
      after.commandRemoved later = (cursor.commandRemoved (later + 1)).commandRemoved index ∧
      ∀ program : List Command,
        (program.eraseIdx index).eraseIdx later = (program.eraseIdx (later + 1)).eraseIdx index := by
  intro after
  have place : after.pc = if index < cursor.pc then cursor.pc - 1 else cursor.pc := rfl
  refine ⟨cursor.loops.closesTo_closeGap index, cursor.nested.closesTo_closeGap index, ?_, ?_, ?_⟩
  · rw [place]
    split <;> omega
  · rw [place]
    split <;> omega
  · exact fun later behind =>
      ⟨cursor.commandRemoved_comm behind, fun program => eraseIdx_comm program behind⟩

/-- Two neighbouring commands are taken out from under a cursor with a loop at each of them, one before
them and one behind, where the cursor stands. -/
theorem removal_reindexes_neighbours :
    let cursor : Cursor :=
      { pc := 3, loops := .ofList [(0, 7), (1, 4), (2, 5), (3, 2)], nested := .ofList [(3, 1), (9, 6)] }
    let after := (cursor.commandRemoved 1).commandRemoved 1
    1 ≤ 1 ∧ after = (cursor.commandRemoved 2).commandRemoved 1 ∧ after.pc = 1 ∧
      after.loops.entries = [(0, 7), (1, 2)] ∧ after.nested.entries = [(1, 1), (7, 6)] := by
  intro cursor after
  obtain ⟨-, -, -, -, composes⟩ := removal_reindexes cursor 1
  exact ⟨Nat.le_refl 1, (composes 1 (Nat.le_refl 1)).1, by decide, by decide, by decide⟩

end Cursor

end SpriteStage
