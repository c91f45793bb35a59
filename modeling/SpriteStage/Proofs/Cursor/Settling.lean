import SpriteStage.Cursor.Remaining

/-!
# Settling and fetching

Moving a cursor to the next command that can be carried out costs nothing: it keeps the work that
remains (`remaining_settle`) and ends on a command with something to run, or behind the program
(`settled_settle`). Fetching from such a place takes the first remaining command and leaves the rest
(`fetch_settled`). Nothing is assumed of the cursor: passes may be used up, body indices may lie
past the end, and entries may be left over from loops that are not running.
-/

namespace SpriteStage

namespace Cursor

/-- The passes left of the repeat at an index, its whole count when it is not running. -/
def passesAt (cursor : Cursor) (index : Nat) (count : Int) : Int :=
  (cursor.loops.get? index).getD count

/-- The next body index of the repeat at an index. -/
def nextAt (cursor : Cursor) (index : Nat) : Nat := (cursor.nested.get? index).getD 0

/-- Two cursors know the same about every repeat from an index on. -/
def AgreeFrom (index : Nat) (a b : Cursor) : Prop :=
  ∀ i, index ≤ i → a.loops.get? i = b.loops.get? i ∧ a.nested.get? i = b.nested.get? i

/-- The cursor stands behind the program, on a plain command, or on a repeat whose current pass has
a command left. -/
def Settled (program : List Command) (cursor : Cursor) : Prop :=
  ∀ count body, program[cursor.pc]? = some (.repeatTimes count body) →
    0 < cursor.passesAt cursor.pc count ∧ cursor.nextAt cursor.pc < body.length

theorem remainingAt_repeat (cursor : Cursor) (index : Nat) (count : Int) (body : List Command) :
    cursor.remainingAt index (.repeatTimes count body) =
      if 0 < cursor.passesAt index count then
        body.drop (cursor.nextAt index) ++
          (List.replicate ((cursor.passesAt index count).toNat - 1) body).flatten
      else [] := rfl

theorem remainingAt_congr {a b : Cursor} {index : Nat} (command : Command)
    (loops : a.loops.get? index = b.loops.get? index)
    (nested : a.nested.get? index = b.nested.get? index) :
    a.remainingAt index command = b.remainingAt index command := by
  cases command with
  | repeatTimes count body => simp only [remainingAt, loops, nested]
  | _ => rfl

/-- Only what a cursor knows from its place on counts for the work that remains. -/
theorem remaining_congr {program : List Command} {a b : Cursor} (same : a.pc = b.pc)
    (agree : AgreeFrom b.pc a b) : a.remaining program = b.remaining program := by
  unfold remaining
  rw [same, List.flatMap_def, List.flatMap_def]
  congr 1
  apply List.map_congr_left
  rintro ⟨command, index⟩ member
  have behind : b.pc ≤ index := List.le_snd_of_mem_zipIdx member
  exact remainingAt_congr command (agree index behind).1 (agree index behind).2

theorem remaining_behind {program : List Command} {cursor : Cursor}
    (behind : program.length ≤ cursor.pc) : cursor.remaining program = [] := by
  simp [remaining, List.drop_of_length_le behind]

/-- What remains is what remains of the current command, and then of the commands after it. -/
theorem remaining_step {program : List Command} {cursor : Cursor}
    (inside : cursor.pc < program.length) :
    cursor.remaining program = cursor.remainingAt cursor.pc program[cursor.pc] ++
      remaining program { cursor with pc := cursor.pc + 1 } := by
  unfold remaining
  rw [List.drop_eq_getElem_cons inside, List.zipIdx_cons, List.flatMap_cons]
  rfl

/-! ### Settling -/

/-- The cursor with these passes left of the repeat it stands on, at this index of the body. -/
def inLoop (cursor : Cursor) (passes : Int) (next : Nat) : Cursor :=
  { cursor with
    loops := cursor.loops.insert cursor.pc passes
    nested := cursor.nested.insert cursor.pc next }

@[simp] theorem passesAt_inLoop (cursor : Cursor) (passes count : Int) (next : Nat) :
    (cursor.inLoop passes next).passesAt cursor.pc count = passes := by
  simp [inLoop, passesAt, Table.get?_insert]

@[simp] theorem nextAt_inLoop (cursor : Cursor) (passes : Int) (next : Nat) :
    (cursor.inLoop passes next).nextAt cursor.pc = next := by
  simp [inLoop, nextAt, Table.get?_insert]

theorem inLoop_agree (cursor : Cursor) (passes : Int) (next : Nat) :
    AgreeFrom (cursor.pc + 1) (cursor.inLoop passes next) cursor := by
  intro i behind
  have other : i ≠ cursor.pc := by omega
  simp [inLoop, Table.get?_insert, other]

theorem leave_agree (cursor : Cursor) :
    AgreeFrom (cursor.pc + 1) cursor.leave { cursor with pc := cursor.pc + 1 } := by
  intro i behind
  have other : i ≠ cursor.pc := by omega
  simp [leave, exitLoop, Table.get?_erase, other]

theorem stay?_eq (cursor : Cursor) (count : Int) (body : List Command) :
    cursor.stay? count body =
      if 0 < cursor.passesAt cursor.pc count ∧ body ≠ [] then
        if cursor.nextAt cursor.pc < body.length then some cursor
        else if 1 < cursor.passesAt cursor.pc count then
          some (cursor.inLoop (cursor.passesAt cursor.pc count - 1) 0)
        else none
      else none := rfl

/-- A pass that is over and the start of the next one leave the same to do. -/
theorem remainingAt_nextPass {cursor : Cursor} {count : Int} {body : List Command}
    (passed : body.length ≤ cursor.nextAt cursor.pc) (more : 1 < cursor.passesAt cursor.pc count) :
    (cursor.inLoop (cursor.passesAt cursor.pc count - 1) 0).remainingAt cursor.pc
        (.repeatTimes count body) =
      cursor.remainingAt cursor.pc (.repeatTimes count body) := by
  obtain ⟨rest, restIs⟩ : ∃ rest : Nat, cursor.passesAt cursor.pc count = rest + 2 :=
    ⟨(cursor.passesAt cursor.pc count - 2).toNat, by omega⟩
  have before : ((rest : Int) + 2).toNat - 1 = rest + 1 := by omega
  have after : ((rest : Int) + 2 - 1).toNat - 1 = rest := by omega
  rw [remainingAt_repeat, remainingAt_repeat, passesAt_inLoop, nextAt_inLoop, if_pos (by omega),
    if_pos (by omega), List.drop_zero, List.drop_of_length_le passed, restIs, before, after,
    List.replicate_succ, List.flatten_cons, List.nil_append]

/-- A cursor that stays on a repeat keeps what remains of it and has a command of it left to run. -/
theorem stay?_eq_some {cursor stayed : Cursor} {count : Int} {body : List Command}
    (stays : cursor.stay? count body = some stayed) :
    stayed.pc = cursor.pc ∧ 0 < stayed.passesAt cursor.pc count ∧
      stayed.nextAt cursor.pc < body.length ∧
      stayed.remainingAt cursor.pc (.repeatTimes count body) =
        cursor.remainingAt cursor.pc (.repeatTimes count body) ∧
      AgreeFrom (cursor.pc + 1) stayed cursor := by
  rw [stay?_eq] at stays
  split at stays
  · rename_i running
    split at stays
    · rename_i within
      cases stays
      exact ⟨rfl, running.1, within, rfl, fun i _ => ⟨rfl, rfl⟩⟩
    · rename_i passed
      split at stays
      · rename_i more
        cases stays
        refine ⟨rfl, ?_, ?_, remainingAt_nextPass (Nat.le_of_not_lt passed) more, inLoop_agree _ _ _⟩
        · rw [passesAt_inLoop]; omega
        · rw [nextAt_inLoop]; exact List.length_pos_iff.mpr running.2
      · cases stays
  · cases stays

/-- A repeat is left exactly when nothing of it remains. -/
theorem remainingAt_of_stay?_eq_none {cursor : Cursor} {count : Int} {body : List Command}
    (leaves : cursor.stay? count body = none) :
    cursor.remainingAt cursor.pc (.repeatTimes count body) = [] := by
  rw [stay?_eq] at leaves
  rw [remainingAt_repeat]
  by_cases running : 0 < cursor.passesAt cursor.pc count
  · by_cases empty : body = []
    · simp [empty]
    · rw [if_pos ⟨running, empty⟩] at leaves
      by_cases within : cursor.nextAt cursor.pc < body.length
      · simp [within] at leaves
      · by_cases more : 1 < cursor.passesAt cursor.pc count
        · simp [within, more] at leaves
        · have last : (cursor.passesAt cursor.pc count).toNat - 1 = 0 := by omega
          simp [last, List.drop_of_length_le (Nat.le_of_not_lt within)]
  · simp [running]

/-- Settling is free: it keeps the work that remains. -/
theorem remaining_settle (program : List Command) (cursor : Cursor) :
    (cursor.settle program).remaining program = cursor.remaining program := by
  fun_induction settle program cursor with
  | case1 cursor inside count body block stayed stays =>
    -- The end of the recursion: what remains here is kept, and what is behind is not looked at.
    obtain ⟨place, _, _, kept, agree⟩ := stay?_eq_some stays
    have insideStayed : stayed.pc < program.length := by rw [place]; exact inside
    rw [remaining_step inside, remaining_step insideStayed]
    simp only [place, block, kept]
    congr 1
    exact remaining_congr rfl agree
  | case2 cursor inside count body block leaves ih =>
    -- A repeat is left only with nothing of it remaining, so the first part of the list is empty.
    rw [ih, remaining_step inside, block, remainingAt_of_stay?_eq_none leaves, List.nil_append]
    exact remaining_congr rfl (leave_agree cursor)
  | case3 => rfl
  | case4 => rfl

/-- Settling ends on a command that can be carried out, or behind the program. -/
theorem settled_settle (program : List Command) (cursor : Cursor) :
    (cursor.settle program).Settled program := by
  fun_induction settle program cursor with
  | case1 cursor inside count body block stayed stays =>
    obtain ⟨place, passes, next, _, _⟩ := stay?_eq_some stays
    intro count' body' here
    rw [place, List.getElem?_eq_getElem inside, block] at here
    cases here
    rw [place]
    exact ⟨passes, next⟩
  | case2 cursor inside count body block leaves ih => exact ih
  | case3 cursor inside plain =>
    intro count body here
    rw [List.getElem?_eq_getElem inside] at here
    exact absurd (Option.some.inj here) (plain count body)
  | case4 cursor behind =>
    intro count body here
    rw [List.getElem?_eq_none (Nat.le_of_not_lt behind)] at here
    cases here

/-! ### Fetching -/

theorem fetch_repeat (cursor : Cursor) (count : Int) (body : List Command) :
    cursor.fetch (.repeatTimes count body) =
      match body[cursor.nextAt cursor.pc]? with
      | none => .error .bodyExhausted
      | some command => .ok (command,
          cursor.inLoop (cursor.passesAt cursor.pc count) (cursor.nextAt cursor.pc + 1)) := rfl

/-- Inside a repeat the first remaining command is the next one of the body. -/
theorem remainingAt_running {cursor : Cursor} {count : Int} {body : List Command}
    (passes : 0 < cursor.passesAt cursor.pc count)
    (next : cursor.nextAt cursor.pc < body.length) :
    cursor.remainingAt cursor.pc (.repeatTimes count body) = body[cursor.nextAt cursor.pc] ::
      (cursor.inLoop (cursor.passesAt cursor.pc count) (cursor.nextAt cursor.pc + 1)).remainingAt
        cursor.pc (.repeatTimes count body) := by
  rw [remainingAt_repeat, remainingAt_repeat, passesAt_inLoop, nextAt_inLoop, if_pos passes,
    if_pos passes, List.drop_eq_getElem_cons next, List.cons_append]

/-- From a settled place the first remaining command is fetched, and the rest remains. -/
theorem fetch_settled {program : List Command} {cursor : Cursor} {block : Command}
    (settled : cursor.Settled program) (here : program[cursor.pc]? = some block) :
    ∃ command fetched, cursor.fetch block = .ok (command, fetched) ∧
      cursor.remaining program = command :: fetched.remaining program ∧
      (command = block ∧ block.isRepeat = false ∨
        ∃ count body, block = .repeatTimes count body ∧ command ∈ body) := by
  obtain ⟨inside, atPlace⟩ := List.getElem?_eq_some_iff.mp here
  rw [remaining_step inside, atPlace]
  cases block with
  | repeatTimes count body =>
    obtain ⟨passes, next⟩ := settled count body here
    let fetched := cursor.inLoop (cursor.passesAt cursor.pc count) (cursor.nextAt cursor.pc + 1)
    have insideFetched : fetched.pc < program.length := inside
    have later : remaining program { fetched with pc := cursor.pc + 1 } =
        remaining program { cursor with pc := cursor.pc + 1 } :=
      remaining_congr rfl (inLoop_agree cursor _ _)
    refine ⟨body[cursor.nextAt cursor.pc], fetched, ?_, ?_,
      .inr ⟨count, body, rfl, List.getElem_mem next⟩⟩
    · rw [fetch_repeat, List.getElem?_eq_getElem next]
    · rw [remainingAt_running passes next, remaining_step insideFetched, List.cons_append]
      simp only [show fetched.pc = cursor.pc from rfl, atPlace, later]
      rfl
  | _ =>
    exact ⟨_, { cursor with pc := cursor.pc + 1 }, rfl, rfl, .inl ⟨rfl, rfl⟩⟩

/-- A settled cursor stands behind the program exactly when nothing remains. -/
theorem behind_iff_of_settled {program : List Command} {cursor : Cursor}
    (settled : cursor.Settled program) :
    program.length ≤ cursor.pc ↔ cursor.remaining program = [] := by
  constructor
  · exact remaining_behind
  · intro nothing
    rcases Nat.lt_or_ge cursor.pc program.length with inside | behind
    · have here : program[cursor.pc]? = some program[cursor.pc] := List.getElem?_eq_getElem inside
      obtain ⟨command, fetched, _, first, _⟩ := fetch_settled settled here
      rw [nothing] at first
      cases first
    · exact behind

end Cursor

end SpriteStage
