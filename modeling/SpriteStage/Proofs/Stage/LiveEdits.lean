import SpriteStage.Proofs.Stage.Progress

/-!
# Editing a program while it runs

What remains of a program is made up of the shares of its commands, in order: nothing of those the
cursor has passed, the rest of the one it stands on, and the later ones as a whole. An edit of one
command replaces the share of that command and touches nothing else. Main statement:
`edits_change_one_share`.
-/

namespace SpriteStage

namespace Actor

/-- The plain commands an actor still has to carry out. -/
def remaining (actor : Actor) : List Command := actor.cursor.remaining actor.program

theorem remaining_of_bare {actor : Actor} (bare : actor.program = []) : actor.remaining = [] := by
  simp [remaining, bare, Cursor.remaining]

/-- What remains before the command at an index. -/
def remainingBefore (actor : Actor) (index : Nat) : List Command :=
  actor.cursor.remaining (actor.program.take index)

/-- The commands behind the one at an index, as a whole. -/
def unfoldedBehind (actor : Actor) (index : Nat) : List Command :=
  (actor.program.drop (index + 1)).flatMap Command.unfold

/-- Of what remains, exactly the share of the command at an index is replaced. -/
structure ShareBecomes (actor moved : Actor) (index : Nat) (command : Command) (share : List Command) :
    Prop where
  here : actor.program[index]? = some command
  /-- Nothing remains of a command that the cursor has passed. -/
  passed : index < actor.cursor.pc → moved.remaining = actor.remaining
  ahead : actor.cursor.pc ≤ index →
    actor.remaining = actor.remainingBefore index ++
      (actor.cursor.remainingAt index command ++ actor.unfoldedBehind index) ∧
    moved.remaining = actor.remainingBefore index ++ (share ++ actor.unfoldedBehind index)
  /-- Of the command the cursor stands on, its rest is first. -/
  current : index = actor.cursor.pc → actor.remainingBefore index = []
  /-- A later command remains as a whole. -/
  later : actor.cursor.pc < index → actor.cursor.remainingAt index command = command.unfold

variable {actor moved : Actor} {command : Command} {index : Nat} {share : List Command}

/-- To know what an edit makes of the share, it is enough to know what remains after it. -/
theorem shareBecomes_of_remaining (fits : actor.cursor.Fits actor.program)
    (here : actor.program[index]? = some command)
    (passed : index < actor.cursor.pc → moved.remaining = actor.remaining)
    (ahead : actor.cursor.pc ≤ index →
      moved.remaining = actor.remainingBefore index ++ (share ++ actor.unfoldedBehind index)) :
    actor.ShareBecomes moved index command share := by
  refine ⟨here, passed, fun reached => ⟨fits.remaining_around here reached, ahead reached⟩, ?_, ?_⟩
  · rintro rfl
    exact Cursor.remaining_behind (List.length_take_le _ _)
  · exact fun behind => fits.remainingAt_of_lt behind command

end Actor

namespace Stage

/-- The stage after an edit: one actor has another program and another cursor, and nothing else on
the stage changed. -/
structure Rewrites (stage : Stage) (actor moved : Actor) (after : Stage) : Prop where
  place : ∃ i : Nat, stage.actors[i]? = some actor ∧ after = stage.put i moved stage.timers
  frame : moved = { actor with program := moved.program, cursor := moved.cursor }

variable {stage : Stage} {actor : Actor}

/-- Editing the program of an actor, also while it runs, changes what remains of it in one place. A
command that is appended is left to do after all else. The share of one that is taken out is taken
out, and the share of one that is patched is replaced by the whole new command. -/
theorem edits_change_one_share {config : Config} (reachable : ReachableWithRoom config stage)
    (member : actor ∈ stage.actors) :
    (∀ command outcome, stage.append actor.id command = .ok outcome →
      ∃ moved, stage.Rewrites actor moved outcome.stage ∧
        moved.program = actor.program ++ [command] ∧
        moved.remaining = actor.remaining ++ command.unfold) ∧
    (∀ index outcome, stage.removeCommand actor.id index = .ok outcome →
      ∃ moved, stage.Rewrites actor moved outcome.stage ∧
        moved.program = actor.program.eraseIdx index ∧
        actor.ShareBecomes moved index outcome.value []) ∧
    (∀ index patch outcome, stage.patchCommand actor.id index patch = .ok outcome →
      ∃ moved command patched, stage.Rewrites actor moved outcome.stage ∧
        command.patched patch = .ok patched ∧ moved.program = actor.program.set index patched ∧
        actor.ShareBecomes moved index command patched.unfold) := by
  have fits := (onTrack_of_reachable reachable actor member).fits
  have found := actor?_of_distinct (tidy_of_reachable reachable).distinct member
  refine ⟨?_, ?_, ?_⟩
  · intro command outcome done
    obtain ⟨other, -, updated⟩ := updated_of_append done
    obtain rfl := updated.actor_eq found
    refine ⟨_, ⟨updated.place, rfl⟩, rfl, ?_⟩
    have appended := fits.remaining_append [command]
    rwa [List.flatMap_singleton] at appended
  · intro index outcome done
    obtain ⟨other, removed, updated⟩ := updated_of_removeCommand done
    obtain rfl := updated.actor_eq found
    refine ⟨_, ⟨updated.place, rfl⟩, rfl, ?_⟩
    exact Actor.shareBecomes_of_remaining fits removed fits.remaining_eraseIdx_of_lt
      fits.remaining_eraseIdx
  · intro index patch outcome done
    obtain ⟨other, command, patched, here, patches, updated⟩ := updated_of_patchCommand done
    obtain rfl := updated.actor_eq found
    refine ⟨_, command, patched, ⟨updated.place, rfl⟩, patches, rfl, ?_⟩
    have inside := Cursor.lt_length_of_getElem? here
    exact Actor.shareBecomes_of_remaining fits here
      (fun passed => fits.remaining_set_of_lt passed patched)
      (fun reached => fits.remaining_set reached inside patched)

/-- A repeat is taken out in the middle of its second pass, with three turns left of it: what remains
is the command behind it. -/
theorem edits_change_one_share_repeat :
    ∃ stage outcome, ReachableWithRoom {} stage ∧ ∃ actor ∈ stage.actors,
      stage.removeCommand actor.id 0 = .ok outcome ∧ actor.remaining.length = 4 ∧
      ∃ moved, stage.Rewrites actor moved outcome.stage ∧ moved.remaining = actor.unfoldedBehind 0 ∧
        moved.remaining.length = 1 := by
  let cat : ActorId := ⟨1, by decide⟩
  obtain ⟨stage, reachable, passes⟩ := exists_reachable {}
    [ .insertActor { id := cat, name := "Cat"
                     program := [.repeatTimes 3 [.turn 10, .turn 20], .turn 30] },
      .play, .tick, .tick, .tick ]
    (fun stage => (stage.removeCommand cat 0).toOption.isSome &&
      (stage.actor? cat).any fun actor => actor.cursor.pc = 0 && actor.remaining.length = 4 &&
        (actor.unfoldedBehind 0).length = 1)
    rfl (by simp [Operation.hasRoom]) (by decide +kernel)
  simp only [Bool.and_eq_true] at passes
  obtain ⟨removes, passes⟩ := passes
  obtain ⟨actor, found, passes⟩ := (Option.any_eq_true _ _).mp passes
  simp only [Bool.and_eq_true, decide_eq_true_eq] at passes
  obtain ⟨⟨atStart, left⟩, behind⟩ := passes
  have member := List.mem_of_find?_eq_some found
  cases removed : stage.removeCommand cat 0 with
  | error failure =>
    rw [removed] at removes
    cases removes
  | ok outcome =>
    rw [← actor?_id found] at removed
    obtain ⟨-, removal, -⟩ := edits_change_one_share reachable member
    obtain ⟨moved, rewrites, -, share⟩ := removal 0 outcome removed
    have remains : moved.remaining = actor.unfoldedBehind 0 := by
      rw [(share.ahead (Nat.le_of_eq atStart)).2, share.current atStart.symm]
      rfl
    exact ⟨stage, outcome, reachable, actor, member, removed, left, moved, rewrites, remains,
      remains ▸ behind⟩

end Stage

end SpriteStage
