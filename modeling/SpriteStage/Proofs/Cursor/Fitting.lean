import SpriteStage.Proofs.Stepping.Unfolding

/-!
# Cursors that fit their program

A cursor fits a program when it stands inside it or right behind it, and at most the repeat it
stands on is running, in the middle of a pass. The start fits every program (`fits_start`). A step
keeps a cursor fitting (`Actor.fits_advance`), and so does every edit that the cursor follows
(`Fits.append`, `Fits.set`, `Fits.eraseIdx`).
-/

namespace SpriteStage

namespace Cursor

/-- A place in a program that running it can lead to. -/
inductive Fits (program : List Command) : Cursor → Prop
  /-- No repeat is running. -/
  | between {pc : Nat} (inside : pc ≤ program.length) : Fits program { pc }
  /-- The repeat the cursor stands on is running, in the middle of a pass. -/
  | running {pc : Nat} {count passes : Int} {body : List Command} {next : Nat}
      (here : program[pc]? = some (.repeatTimes count body)) (passes_pos : 1 ≤ passes)
      (passes_le : passes ≤ count) (within : next < body.length) :
      Fits program (inLoop { pc } passes next)

variable {program : List Command} {cursor fetched : Cursor} {block command : Command}
  {pc index : Nat} {passes : Int} {next : Nat}

theorem fits_start (program : List Command) : Fits program start := .between (Nat.zero_le _)

theorem lt_length_of_getElem? {α : Type} {items : List α} {i : Nat} {item : α}
    (here : items[i]? = some item) : i < items.length :=
  (List.getElem?_eq_some_iff.mp here).1

theorem Fits.pc_le (fits : cursor.Fits program) : cursor.pc ≤ program.length := by
  cases fits with
  | between inside => exact inside
  | running here => exact Nat.le_of_lt (lt_length_of_getElem? here)

/-- Without a program there is only one place. -/
theorem Fits.eq_start (fits : cursor.Fits []) : cursor = start := by
  cases fits with
  | between inside =>
    rw [Nat.le_zero.mp inside]
    rfl
  | running here => cases here

/-! ### What is known of the one repeat that runs -/

@[simp] theorem pc_inLoop (cursor : Cursor) : (cursor.inLoop passes next).pc = cursor.pc := rfl

@[simp] theorem inLoop_inLoop (passes later : Int) (next following : Nat) :
    (inLoop { pc } passes next).inLoop later following = inLoop { pc } later following := by
  simp [inLoop]

theorem leave_between (pc : Nat) : ({ pc } : Cursor).leave = { pc := pc + 1 } := rfl

theorem leave_inLoop : (inLoop { pc } passes next).leave = { pc := pc + 1 } := by
  simp [leave, exitLoop, inLoop]

theorem exitLoop_between (pc index : Nat) : ({ pc } : Cursor).exitLoop index = { pc } := rfl

theorem exitLoop_inLoop (index : Nat) :
    (inLoop { pc } passes next).exitLoop index =
      if index = pc then { pc } else inLoop { pc } passes next := by
  by_cases same : index = pc
  · simp [exitLoop, inLoop, same]
  · simp [exitLoop, inLoop, same, Table.erase_insert_empty_of_ne (Ne.symm same)]

theorem commandRemoved_between (pc index : Nat) :
    ({ pc } : Cursor).commandRemoved index = { pc := if index < pc then pc - 1 else pc } := rfl

theorem commandRemoved_inLoop (index : Nat) :
    (inLoop { pc } passes next).commandRemoved index =
      if index < pc then inLoop { pc := pc - 1 } passes next
      else if index = pc then { pc } else inLoop { pc } passes next := by
  rcases Nat.lt_trichotomy index pc with before | same | behind
  · have notBelow : ¬ pc < index := by omega
    have notSame : ¬ pc = index := by omega
    simp [commandRemoved, inLoop, Table.closeGap_insert_empty, before, notBelow, notSame]
  · simp [commandRemoved, inLoop, Table.closeGap_insert_empty, same]
  · have notBefore : ¬ index < pc := by omega
    have notSame : ¬ index = pc := by omega
    simp [commandRemoved, inLoop, Table.closeGap_insert_empty, behind, notBefore, notSame]

/-! ### Steps -/

/-- Settling from a place between commands ends between commands. -/
theorem fits_settle_between (inside : pc ≤ program.length) :
    (settle program { pc }).Fits program := by
  generalize placed : ({ pc } : Cursor) = cursor
  fun_induction settle program cursor generalizing pc with
  | case1 cursor here count body block stayed stays =>
    subst placed
    rw [stay?_eq] at stays
    split at stays
    · rename_i running
      -- Nothing of the body has run, so the pass has a command left and nothing moves.
      have left : ({ pc } : Cursor).nextAt pc < body.length := List.length_pos_iff.mpr running.2
      rw [if_pos left] at stays
      cases stays
      exact .between inside
    · cases stays
  | case2 cursor here count body block leaves ih =>
    subst placed
    exact ih here (leave_between pc).symm
  | case3 cursor here plain =>
    subst placed
    exact .between inside
  | case4 cursor behind =>
    subst placed
    exact .between inside

/-- Settling in a repeat whose pass may be over goes on with the next pass, or behind the repeat. -/
theorem fits_settle_inLoop {count : Int} {body : List Command}
    (here : program[pc]? = some (.repeatTimes count body)) (passes_pos : 1 ≤ passes)
    (passes_le : passes ≤ count) (nonempty : body ≠ []) :
    (settle program (inLoop { pc } passes next)).Fits program := by
  obtain ⟨inside, block⟩ := List.getElem?_eq_some_iff.mp here
  have passesAt : (inLoop { pc } passes next).passesAt pc count = passes :=
    passesAt_inLoop { pc } passes count next
  have nextAt : (inLoop { pc } passes next).nextAt pc = next := nextAt_inLoop { pc } passes next
  unfold settle
  simp only [pc_inLoop, inside, dif_pos, block, stay?_eq, passesAt, nextAt]
  rw [if_pos ⟨by omega, nonempty⟩]
  by_cases within : next < body.length
  · rw [if_pos within]
    exact .running here passes_pos passes_le within
  · rw [if_neg within]
    by_cases more : 1 < passes
    · rw [if_pos more, inLoop_inLoop]
      exact .running here (by omega) (by omega) (List.length_pos_iff.mpr nonempty)
    · rw [if_neg more, leave_inLoop]
      exact fits_settle_between inside

theorem Fits.settle (fits : cursor.Fits program) : (cursor.settle program).Fits program := by
  cases fits with
  | between inside => exact fits_settle_between inside
  | running here passes_pos passes_le within =>
    refine fits_settle_inLoop here passes_pos passes_le ?_
    rintro rfl
    exact Nat.not_lt_zero _ within

/-- Fetching from a settled place and settling again keeps a cursor fitting. -/
theorem Fits.settle_fetch (fits : cursor.Fits program) (settled : cursor.Settled program)
    (here : program[cursor.pc]? = some block) (fetches : cursor.fetch block = .ok (command, fetched)) :
    (fetched.settle program).Fits program := by
  cases block with
  | repeatTimes count body =>
    obtain ⟨passes_pos, within⟩ := settled count body here
    rw [fetch_repeat, List.getElem?_eq_getElem within] at fetches
    cases fetches
    have nonempty : body ≠ [] := List.length_pos_iff.mp (Nat.zero_lt_of_lt within)
    cases fits with
    | between inside => exact fits_settle_inLoop here passes_pos (Int.le_refl count) nonempty
    | @running pc count' passes body' next here' passes_pos' passes_le within' =>
      rw [pc_inLoop, here'] at here
      cases here
      have passesAt : (inLoop { pc } passes next).passesAt pc count = passes :=
        passesAt_inLoop { pc } passes count next
      simp only [pc_inLoop, passesAt, inLoop_inLoop]
      exact fits_settle_inLoop here' passes_pos' passes_le nonempty
  | _ =>
    cases fetches
    cases fits with
    | between inside => exact fits_settle_between (lt_length_of_getElem? here)
    | running here' =>
      rw [pc_inLoop, here'] at here
      cases here

/-! ### Edits -/

theorem Fits.append (fits : cursor.Fits program) (more : List Command) :
    cursor.Fits (program ++ more) := by
  cases fits with
  | between inside => exact .between (by rw [List.length_append]; omega)
  | running here passes_pos passes_le within =>
    refine .running ?_ passes_pos passes_le within
    rw [List.getElem?_append_left (lt_length_of_getElem? here)]
    exact here

/-- The start of a program that ends behind the cursor is enough of it. -/
theorem Fits.take (fits : cursor.Fits program) (behind : cursor.pc < index) :
    cursor.Fits (program.take index) := by
  cases fits with
  | @between pc inside =>
    have behind : pc < index := behind
    exact .between (by rw [List.length_take]; omega)
  | running here passes_pos passes_le within =>
    rw [pc_inLoop] at behind
    refine .running ?_ passes_pos passes_le within
    rw [List.getElem?_take_of_lt behind]
    exact here

theorem Fits.set (fits : cursor.Fits program) (index : Nat) (command : Command) :
    (cursor.exitLoop index).Fits (program.set index command) := by
  cases fits with
  | between inside => exact .between (by rw [List.length_set]; exact inside)
  | @running pc count passes body next here passes_pos passes_le within =>
    rw [exitLoop_inLoop]
    by_cases same : index = pc
    · rw [if_pos same]
      exact .between (by rw [List.length_set]; exact Nat.le_of_lt (lt_length_of_getElem? here))
    · rw [if_neg same]
      refine .running ?_ passes_pos passes_le within
      rw [List.getElem?_set_ne same]
      exact here

theorem Fits.eraseIdx (fits : cursor.Fits program) (inside : index < program.length) :
    (cursor.commandRemoved index).Fits (program.eraseIdx index) := by
  have length := List.length_eraseIdx_of_lt inside
  cases fits with
  | @between pc place =>
    rw [commandRemoved_between]
    refine .between ?_
    rw [length]
    split <;> omega
  | @running pc count passes body next here passes_pos passes_le within =>
    have place := lt_length_of_getElem? here
    rw [commandRemoved_inLoop]
    rcases Nat.lt_trichotomy index pc with before | same | behind
    · rw [if_pos before]
      refine .running ?_ passes_pos passes_le within
      rw [List.getElem?_eraseIdx_of_ge (by omega), Nat.sub_add_cancel (by omega)]
      exact here
    · rw [if_neg (by omega), if_pos same]
      exact .between (by rw [length]; omega)
    · rw [if_neg (by omega), if_neg (by omega)]
      refine .running ?_ passes_pos passes_le within
      rw [List.getElem?_eraseIdx_of_lt behind]
      exact here

end Cursor

/-- A step of a program keeps the cursor fitting. -/
theorem Actor.fits_advance {setting : Setting} {actor moved : Actor} {timers later : TimerQueue}
    {outcome : StepOutcome} (fits : actor.cursor.Fits actor.program)
    (advanced : actor.advance setting timers = .ok (outcome, moved, later)) :
    moved.cursor.Fits moved.program := by
  rw [advance_eq] at advanced
  split at advanced
  · cases advanced
    exact fits.settle
  · rename_i block here
    obtain ⟨⟨command, fetched⟩, fetches, advanced⟩ := bind_eq_ok.mp advanced
    obtain ⟨⟨between, after⟩, applied, advanced⟩ := bind_eq_ok.mp advanced
    cases advanced
    obtain ⟨-, -, program, cursor⟩ := Command.apply_frame applied
    have settles := fits.settle.settle_fetch (Cursor.settled_settle _ _) here fetches
    dsimp only
    rw [program, cursor]
    exact settles

end SpriteStage
