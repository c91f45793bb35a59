import SpriteStage.Cursor

/-!
# The work that remains

A cursor into a program stands for the list of plain commands still to be carried out: the rest of
every repeat that is running, and whole commands behind the cursor. Nothing here is carried out.
Main statement: at the start the whole unfolded program remains.
-/

namespace SpriteStage

namespace Cursor

/-- What remains of the command at an index: the rest of the current pass of a repeat and the passes
after it. A repeat that is not running has its whole count before it. -/
def remainingAt (cursor : Cursor) (index : Nat) : Command → List Command
  | .repeatTimes count body =>
    let passes := (cursor.loops.get? index).getD count
    let next := (cursor.nested.get? index).getD 0
    if 0 < passes then body.drop next ++ (List.replicate (passes.toNat - 1) body).flatten else []
  | command => [command]

/-- The plain commands still to be carried out, in order. -/
def remaining (program : List Command) (cursor : Cursor) : List Command :=
  ((program.drop cursor.pc).zipIdx cursor.pc).flatMap fun entry =>
    cursor.remainingAt entry.2 entry.1

theorem remainingAt_eq_unfold {cursor : Cursor} {index : Nat} (command : Command)
    (loops : cursor.loops.get? index = none) (nested : cursor.nested.get? index = none) :
    cursor.remainingAt index command = command.unfold := by
  cases command with
  | repeatTimes count body =>
    simp only [remainingAt, loops, nested, Option.getD_none, List.drop_zero, Command.unfold]
    split
    · obtain ⟨passes, eq⟩ : ∃ passes, count.toNat = passes + 1 := ⟨count.toNat - 1, by omega⟩
      simp [eq, List.replicate_succ]
    · simp [show count.toNat = 0 by omega]
  | _ => rfl

theorem remaining_start (program : List Command) :
    start.remaining program = program.flatMap Command.unfold := by
  have each (entry : Command × Nat) : start.remainingAt entry.2 entry.1 = entry.1.unfold :=
    remainingAt_eq_unfold entry.1 rfl rfl
  simp only [remaining, each]
  show ((program.zipIdx 0).flatMap fun entry => entry.1.unfold) = _
  rw [← List.flatMap_map Prod.fst, List.zipIdx_map_fst]

end Cursor

end SpriteStage
