import SpriteStage.Proofs.Cursor.Fitting

/-!
# The work that remains after an edit

From a cursor that fits, the rest of the current command remains, and then whole commands
(`Fits.remaining_eq`). So what remains can be cut at any command from the cursor on
(`Fits.remaining_around`), and an edit of that command replaces its share and nothing else
(`Fits.remaining_eraseIdx`, `Fits.remaining_set`). An edit before the cursor changes nothing of it
(`Fits.remaining_eraseIdx_of_lt`, `Fits.remaining_set_of_lt`).
-/

namespace SpriteStage

/-- Past the index of an item that is taken out, a list goes on one later. -/
theorem drop_eraseIdx_of_le {α : Type} (items : List α) {index from_ : Nat} (le : index ≤ from_) :
    (items.eraseIdx index).drop from_ = items.drop (from_ + 1) := by
  apply List.ext_getElem?
  intro i
  rw [List.getElem?_drop, List.getElem?_drop, List.getElem?_eraseIdx_of_ge (by omega)]
  congr 1
  omega

namespace Cursor

variable {program : List Command} {cursor : Cursor} {command : Command} {pc index : Nat}
  {passes : Int} {next : Nat}

/-- What remains of the command the cursor stands on; nothing behind the program. -/
def remainingHere (program : List Command) (cursor : Cursor) : List Command :=
  (program[cursor.pc]?).elim [] (cursor.remainingAt cursor.pc)

theorem remaining_between (program : List Command) (pc : Nat) :
    remaining program { pc } = (program.drop pc).flatMap Command.unfold := by
  have each (entry : Command × Nat) : ({ pc } : Cursor).remainingAt entry.2 entry.1 = entry.1.unfold :=
    remainingAt_eq_unfold entry.1 rfl rfl
  simp only [remaining, each]
  rw [← List.flatMap_map Prod.fst, List.zipIdx_map_fst]

theorem remaining_inLoop (here : program[pc]? = some command) :
    (inLoop { pc } passes next).remaining program =
      (inLoop { pc } passes next).remainingAt pc command ++
        (program.drop (pc + 1)).flatMap Command.unfold := by
  obtain ⟨inside, block⟩ := List.getElem?_eq_some_iff.mp here
  rw [remaining_step inside, ← remaining_between program (pc + 1)]
  simp only [pc_inLoop, block]
  congr 1
  exact remaining_congr rfl (inLoop_agree { pc } passes next)

/-- The rest of the current command remains, and then every later command as a whole. -/
theorem Fits.remaining_eq (fits : cursor.Fits program) :
    cursor.remaining program =
      cursor.remainingHere program ++ (program.drop (cursor.pc + 1)).flatMap Command.unfold := by
  unfold remainingHere
  cases fits with
  | @between pc inside =>
    rw [remaining_between]
    rcases Nat.lt_or_eq_of_le inside with before | behind
    · have here : program[pc]? = some program[pc] := List.getElem?_eq_getElem before
      have whole : ({ pc } : Cursor).remainingAt pc program[pc] = program[pc].unfold :=
        remainingAt_eq_unfold _ rfl rfl
      rw [here, Option.elim_some, whole, List.drop_eq_getElem_cons before, List.flatMap_cons]
    · have nothing : program[pc]? = none := List.getElem?_eq_none (Nat.le_of_eq behind.symm)
      have past : program.length ≤ pc + 1 := by omega
      rw [nothing, List.drop_of_length_le (Nat.le_of_eq behind.symm), List.drop_of_length_le past]
      rfl
  | running here passes_pos passes_le within =>
    rw [remaining_inLoop here, pc_inLoop, here]
    rfl

/-- Whole commands behind the program are left to do after all else. -/
theorem Fits.remaining_append (fits : cursor.Fits program) (more : List Command) :
    cursor.remaining (program ++ more) = cursor.remaining program ++ more.flatMap Command.unfold := by
  cases fits with
  | @between pc inside =>
    rw [remaining_between, remaining_between, List.drop_append_of_le_length inside,
      List.flatMap_append]
  | running here passes_pos passes_le within =>
    have inside := lt_length_of_getElem? here
    rw [remaining_inLoop here, remaining_inLoop ((List.getElem?_append_left inside).trans here),
      List.drop_append_of_le_length inside, List.flatMap_append, List.append_assoc]

/-- No repeat but the current one is running, so the later commands are whole. -/
theorem Fits.remainingAt_of_lt (fits : cursor.Fits program) (behind : cursor.pc < index)
    (command : Command) : cursor.remainingAt index command = command.unfold := by
  apply remainingAt_eq_unfold
  · cases fits with
    | between => rfl
    | @running pc =>
      have other : index ≠ pc := Nat.ne_of_gt behind
      simp [inLoop, Table.get?_insert, other]
  · cases fits with
    | between => rfl
    | @running pc =>
      have other : index ≠ pc := Nat.ne_of_gt behind
      simp [inLoop, Table.get?_insert, other]

/-- What remains, cut at a command from the current one on: what remains before it, of it, and the
whole commands behind it. -/
theorem Fits.remaining_around (fits : cursor.Fits program) (here : program[index]? = some command)
    (reached : cursor.pc ≤ index) :
    cursor.remaining program = cursor.remaining (program.take index) ++
      (cursor.remainingAt index command ++ (program.drop (index + 1)).flatMap Command.unfold) := by
  obtain ⟨inside, block⟩ := List.getElem?_eq_some_iff.mp here
  rcases Nat.lt_or_eq_of_le reached with behind | same
  · have parts : program.take index ++ command :: program.drop (index + 1) = program := by
      rw [← block, ← List.drop_eq_getElem_cons inside, List.take_append_drop]
    have cut := (fits.take behind).remaining_append (command :: program.drop (index + 1))
    rw [parts, List.flatMap_cons] at cut
    rw [cut, fits.remainingAt_of_lt behind]
  · subst same
    rw [remaining_behind (List.length_take_le cursor.pc program), List.nil_append, fits.remaining_eq,
      remainingHere, here, Option.elim_some]

/-! ### Where a cursor stands after an edit -/

/-- An edit behind the cursor leaves it where it is. -/
theorem Fits.commandRemoved_of_lt (fits : cursor.Fits program) (behind : cursor.pc < index) :
    cursor.commandRemoved index = cursor := by
  cases fits with
  | @between pc =>
    have behind : pc < index := behind
    rw [commandRemoved_between, if_neg (by omega)]
  | @running pc =>
    have behind : pc < index := behind
    rw [commandRemoved_inLoop, if_neg (by omega), if_neg (by omega)]

theorem Fits.commandRemoved_here (fits : cursor.Fits program) :
    cursor.commandRemoved cursor.pc = { pc := cursor.pc } := by
  cases fits with
  | @between pc => rw [commandRemoved_between, if_neg (Nat.lt_irrefl _)]
  | @running pc =>
    rw [pc_inLoop, commandRemoved_inLoop, if_neg (Nat.lt_irrefl _), if_pos rfl]

theorem Fits.exitLoop_of_ne (fits : cursor.Fits program) (other : index ≠ cursor.pc) :
    cursor.exitLoop index = cursor := by
  cases fits with
  | between => exact exitLoop_between _ _
  | @running pc =>
    rw [pc_inLoop] at other
    rw [exitLoop_inLoop, if_neg other]

theorem Fits.exitLoop_here (fits : cursor.Fits program) :
    cursor.exitLoop cursor.pc = { pc := cursor.pc } := by
  cases fits with
  | between => exact exitLoop_between _ _
  | @running pc => rw [pc_inLoop, exitLoop_inLoop, if_pos rfl]

/-! ### Taking a command out -/

theorem Fits.remaining_eraseIdx_of_lt (fits : cursor.Fits program) (passed : index < cursor.pc) :
    (cursor.commandRemoved index).remaining (program.eraseIdx index) = cursor.remaining program := by
  cases fits with
  | @between pc inside =>
    have passed : index < pc := passed
    rw [commandRemoved_between, if_pos passed, remaining_between, remaining_between,
      drop_eraseIdx_of_le program (by omega), Nat.sub_add_cancel (by omega)]
  | @running pc count passes body next here =>
    have passed : index < pc := passed
    have moved : (program.eraseIdx index)[pc - 1]? = some (.repeatTimes count body) := by
      rw [List.getElem?_eraseIdx_of_ge (by omega), Nat.sub_add_cancel (by omega)]
      exact here
    have share : (inLoop { pc := pc - 1 } passes next).remainingAt (pc - 1) (.repeatTimes count body) =
        (inLoop { pc } passes next).remainingAt pc (.repeatTimes count body) := by
      simp [remainingAt, inLoop, Table.get?_insert]
    rw [commandRemoved_inLoop, if_pos passed, remaining_inLoop moved, remaining_inLoop here, share,
      drop_eraseIdx_of_le program (by omega), Nat.sub_add_cancel (by omega)]

/-- Taking out a command from the current one on takes out its share of what remains. -/
theorem Fits.remaining_eraseIdx (fits : cursor.Fits program) (reached : cursor.pc ≤ index) :
    (cursor.commandRemoved index).remaining (program.eraseIdx index) =
      cursor.remaining (program.take index) ++ (program.drop (index + 1)).flatMap Command.unfold := by
  rcases Nat.lt_or_eq_of_le reached with behind | same
  · rw [fits.commandRemoved_of_lt behind, List.eraseIdx_eq_take_drop_succ,
      (fits.take behind).remaining_append]
  · subst same
    rw [fits.commandRemoved_here, remaining_between, drop_eraseIdx_of_le program (Nat.le_refl _),
      remaining_behind (List.length_take_le cursor.pc program), List.nil_append]

/-! ### Replacing a command -/

theorem Fits.remaining_set_of_lt (fits : cursor.Fits program) (passed : index < cursor.pc)
    (command : Command) :
    (cursor.exitLoop index).remaining (program.set index command) = cursor.remaining program := by
  rw [fits.exitLoop_of_ne (Nat.ne_of_lt passed)]
  cases fits with
  | @between pc =>
    have passed : index < pc := passed
    rw [remaining_between, remaining_between, List.drop_set_of_lt passed]
  | @running pc count passes body next here =>
    have passed : index < pc := passed
    have kept : (program.set index command)[pc]? = some (.repeatTimes count body) :=
      (List.getElem?_set_ne (Nat.ne_of_lt passed)).trans here
    rw [remaining_inLoop kept, remaining_inLoop here, List.drop_set_of_lt (by omega)]

/-- Replacing a command from the current one on puts the whole new command in place of its share of
what remains; a repeat that was running starts over. -/
theorem Fits.remaining_set (fits : cursor.Fits program) (reached : cursor.pc ≤ index)
    (inside : index < program.length) (command : Command) :
    (cursor.exitLoop index).remaining (program.set index command) =
      cursor.remaining (program.take index) ++
        (command.unfold ++ (program.drop (index + 1)).flatMap Command.unfold) := by
  rcases Nat.lt_or_eq_of_le reached with behind | same
  · rw [fits.exitLoop_of_ne (Nat.ne_of_gt behind), List.set_eq_take_append_cons_drop, if_pos inside,
      (fits.take behind).remaining_append, List.flatMap_cons]
  · subst same
    have length : cursor.pc < (program.set cursor.pc command).length := by
      rw [List.length_set]
      exact inside
    rw [fits.exitLoop_here, remaining_between, List.drop_eq_getElem_cons length, List.flatMap_cons,
      List.getElem_set_self, List.drop_set_of_lt (Nat.lt_succ_self _),
      remaining_behind (List.length_take_le cursor.pc program), List.nil_append]

end Cursor

end SpriteStage
