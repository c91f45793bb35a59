import SpriteStage.Stage.Operation
import SpriteStage.Proofs.Stage.Ticks

/-!
# Requests that only touch the stage

A request about one actor replaces the actor at its place and tells observers of it; `Updated` says
so for renaming, moving, turning, editing and carrying out a command at once. These requests, and
selecting and trading, are sequences of touches, whatever the arguments.
-/

namespace SpriteStage

theorem sound_eq_ok {α : Type} {result : Except Fault α} {value : α} :
    sound result = .ok value ↔ result = .ok value := by
  cases result with
  | error => exact ⟨fun done => (nomatch done), fun done => (nomatch done)⟩
  | ok => exact ⟨fun done => by cases done; rfl, fun done => by cases done; rfl⟩

/-- What a patch leads to was validated. -/
theorem Command.isFlat_of_patched {command updated : Command} {patch : Patch}
    (patched : command.patched patch = .ok updated) : updated.isFlat = true := by
  unfold Command.patched at patched
  by_cases foreign : (patch.foreign command.kind).isEmpty
  · simp only [foreign, if_true] at patched
    obtain ⟨_, validated, same⟩ := bind_eq_ok.mp patched
    cases same
    exact Command.validate_eq_ok_iff.mp validated
  · simp only [foreign] at patched
    cases patched

namespace Stage

variable {stage : Stage} {id : ActorId} {actor : Actor} {outcome : Outcome Unit}

theorem check_eq_ok {α : Type} {result : Except StageError α} {value : α} :
    stage.check result = .ok value ↔ result = .ok value := by
  cases result <;> simp [check, refuse]

theorem require_eq_ok : stage.require id = .ok actor ↔ stage.actor? id = some actor := by
  unfold require
  cases stage.actor? id <;> simp [refuse]

theorem requireCommand_eq_ok {index : Nat} {command : Command} :
    stage.requireCommand actor index = .ok command ↔ actor.program[index]? = some command := by
  unfold requireCommand
  cases actor.program[index]? <;> simp [refuse]

/-! ### Updates of one actor -/

variable {moved : Actor} {command : Command} {index : Nat}

/-- The actor that goes by an identifier is replaced at its place and observers are told of it;
nothing else changes. -/
structure Updated {α : Type} (stage : Stage) (id : ActorId) (actor moved : Actor) (outcome : Outcome α) :
    Prop where
  found : stage.actor? id = some actor
  place : ∃ i : Nat, stage.actors[i]? = some actor ∧ outcome.stage = stage.put i moved stage.timers
  notices : outcome.notices = [stage.notice (.actorUpdated id)]

theorem updated_update {change : Actor → Actor} (found : stage.actor? id = some actor)
    (becomes : change actor = moved) : stage.Updated id actor moved (stage.update id change) := by
  obtain ⟨i, here, changed⟩ := modify_eq_put found
  exact ⟨found, ⟨i, here, becomes ▸ changed change stage.timers⟩, rfl⟩

theorem Updated.actor_eq {α : Type} {outcome : Outcome α} {other : Actor}
    (updated : stage.Updated id other moved outcome) (found : stage.actor? id = some actor) :
    other = actor :=
  Option.some.inj (updated.found.symm.trans found)

theorem Updated.playback {α : Type} {outcome : Outcome α} (updated : stage.Updated id actor moved outcome) :
    outcome.stage.playback = stage.playback := by
  obtain ⟨i, -, after⟩ := updated.place
  rw [after]
  rfl

theorem Updated.respond {α : Type} {outcome : Outcome α} (updated : stage.Updated id actor moved outcome)
    (respond : α → Response) : stage.Updated id actor moved (outcome.respond respond) :=
  ⟨updated.found, updated.place, updated.notices⟩

theorem updated_of_rename {name : String} (done : stage.rename id name = .ok outcome) :
    ∃ actor, stage.Updated id actor { actor with name } outcome := by
  obtain ⟨actor, required, done⟩ := bind_eq_ok.mp done
  cases done
  exact ⟨actor, updated_update (require_eq_ok.mp required) rfl⟩

theorem updated_of_setPosition {x y : Float} (done : stage.setPosition id x y = .ok outcome) :
    ∃ actor heldX heldY, stage.bounds.clampX x = .ok heldX ∧ stage.bounds.clampY y = .ok heldY ∧
      stage.Updated id actor { actor with x := heldX, y := heldY } outcome := by
  obtain ⟨actor, required, done⟩ := bind_eq_ok.mp done
  obtain ⟨⟨heldX, heldY⟩, clamped, done⟩ := bind_eq_ok.mp done
  obtain ⟨clampedX, clampedY⟩ := Bounds.clamp_eq_ok.mp (sound_eq_ok.mp clamped)
  cases done
  exact ⟨actor, heldX, heldY, clampedX, clampedY, updated_update (require_eq_ok.mp required) rfl⟩

theorem updated_of_setHeading {degrees : Int} (done : stage.setHeading id degrees = .ok outcome) :
    ∃ actor, stage.Updated id actor { actor with heading := normalizeHeading degrees } outcome := by
  obtain ⟨actor, required, done⟩ := bind_eq_ok.mp done
  cases done
  exact ⟨actor, updated_update (require_eq_ok.mp required) rfl⟩

theorem updated_of_append (done : stage.append id command = .ok outcome) :
    ∃ actor, command.isFlat = true ∧
      stage.Updated id actor { actor with program := actor.program ++ [command] } outcome := by
  obtain ⟨_, validated, done⟩ := bind_eq_ok.mp done
  obtain ⟨actor, required, done⟩ := bind_eq_ok.mp done
  cases done
  exact ⟨actor, Command.validate_eq_ok_iff.mp (check_eq_ok.mp validated),
    updated_update (require_eq_ok.mp required) rfl⟩

theorem updated_of_patchCommand {patch : Patch} (done : stage.patchCommand id index patch = .ok outcome) :
    ∃ actor command patched, actor.program[index]? = some command ∧ command.patched patch = .ok patched ∧
      stage.Updated id actor { actor with
        program := actor.program.set index patched
        cursor := actor.cursor.exitLoop index } outcome := by
  obtain ⟨actor, required, done⟩ := bind_eq_ok.mp done
  obtain ⟨command, commandRequired, done⟩ := bind_eq_ok.mp done
  obtain ⟨patched, patches, done⟩ := bind_eq_ok.mp done
  cases done
  exact ⟨actor, command, patched, requireCommand_eq_ok.mp commandRequired, check_eq_ok.mp patches,
    updated_update (require_eq_ok.mp required) rfl⟩

theorem updated_of_removeCommand {removed : Outcome Command}
    (done : stage.removeCommand id index = .ok removed) :
    ∃ actor, actor.program[index]? = some removed.value ∧
      stage.Updated id actor { actor with
        program := actor.program.eraseIdx index
        cursor := actor.cursor.commandRemoved index } removed := by
  obtain ⟨actor, required, done⟩ := bind_eq_ok.mp done
  obtain ⟨command, commandRequired, done⟩ := bind_eq_ok.mp done
  cases done
  have updated : stage.Updated id actor _ (stage.update id fun actor =>
      { actor with program := actor.program.eraseIdx index, cursor := actor.cursor.commandRemoved index }) :=
    updated_update (require_eq_ok.mp required) rfl
  exact ⟨actor, requireCommand_eq_ok.mp commandRequired, updated.found, updated.place, updated.notices⟩

/-- A command carried out at once changes the timers, and then the actor. -/
theorem updated_of_executeImmediate (done : stage.executeImmediate id command = .ok outcome) :
    ∃ actor moved timers, (command.capped immediateRepeatLimit).unfold.foldlM
        (fun (actor, timers) command => command.apply stage.setting actor timers)
        (actor.withoutBubble, stage.timers.cancel? actor.bubbleTimer) = .ok (moved, timers) ∧
      ({ stage with timers } : Stage).Updated id actor moved outcome := by
  obtain ⟨_, -, done⟩ := bind_eq_ok.mp done
  obtain ⟨actor, required, done⟩ := bind_eq_ok.mp done
  obtain ⟨⟨moved, timers⟩, applied, done⟩ := bind_eq_ok.mp done
  cases done
  have found : stage.actor? id = some actor := require_eq_ok.mp required
  exact ⟨actor, moved, timers, sound_eq_ok.mp applied, updated_update (by exact found) rfl⟩

/-! ### Requests are touches -/

theorem touch_of_updated {α : Type} {outcome : Outcome α} (updated : stage.Updated id actor moved outcome)
    (touch : ∀ i : Nat, stage.actors[i]? = some actor → Touch stage (stage.put i moved stage.timers)) :
    Touch stage outcome.stage := by
  obtain ⟨i, here, after⟩ := updated.place
  rw [after]
  exact touch i here

theorem touch_setActive (done : stage.setActive id = .ok outcome) : Touch stage outcome.stage := by
  obtain ⟨actor, -, done⟩ := bind_eq_ok.mp done
  cases done
  exact .control _ stage.playback stage.observers stage.registrations rfl rfl

theorem touch_rename {name : String} (done : stage.rename id name = .ok outcome) :
    Touch stage outcome.stage := by
  obtain ⟨actor, updated⟩ := updated_of_rename done
  exact touch_of_updated updated fun i here =>
    .edited name actor.program actor.cursor here fun _ member => .inl member

theorem touch_setPosition {x y : Float} (done : stage.setPosition id x y = .ok outcome) :
    Touch stage outcome.stage := by
  obtain ⟨actor, heldX, heldY, clampedX, clampedY, updated⟩ := updated_of_setPosition done
  exact touch_of_updated updated fun i here =>
    .posed here ⟨rfl, .inr ⟨_, clampedX⟩, .inr ⟨_, clampedY⟩, .inl rfl⟩

theorem touch_setHeading {degrees : Int} (done : stage.setHeading id degrees = .ok outcome) :
    Touch stage outcome.stage := by
  obtain ⟨actor, updated⟩ := updated_of_setHeading done
  exact touch_of_updated updated fun i here =>
    .posed here ⟨rfl, .inl rfl, .inl rfl, .inr ⟨degrees, rfl⟩⟩

theorem touch_append (done : stage.append id command = .ok outcome) : Touch stage outcome.stage := by
  obtain ⟨actor, flat, updated⟩ := updated_of_append done
  refine touch_of_updated updated fun i here =>
    .edited actor.name (actor.program ++ [command]) actor.cursor here fun other member => ?_
  rcases List.mem_append.mp member with member | member
  · exact .inl member
  · exact .inr (List.mem_singleton.mp member ▸ flat)

theorem touch_patchCommand {patch : Patch} (done : stage.patchCommand id index patch = .ok outcome) :
    Touch stage outcome.stage := by
  obtain ⟨actor, command, patched, -, patches, updated⟩ := updated_of_patchCommand done
  refine touch_of_updated updated fun i here =>
    .edited actor.name (actor.program.set index patched) (actor.cursor.exitLoop index) here
      fun other member => ?_
  rcases List.mem_or_eq_of_mem_set member with member | rfl
  · exact .inl member
  · exact .inr (Command.isFlat_of_patched patches)

theorem touch_removeCommand {removed : Outcome Command}
    (done : stage.removeCommand id index = .ok removed) : Touch stage removed.stage := by
  obtain ⟨actor, -, updated⟩ := updated_of_removeCommand done
  exact touch_of_updated updated fun i here =>
    .edited actor.name (actor.program.eraseIdx index) (actor.cursor.commandRemoved index) here
      fun _ member => .inl (List.mem_of_mem_eraseIdx member)

theorem touches_swapPrograms {a b : ActorId} (done : stage.swapPrograms a b = .ok outcome) :
    Touches stage outcome.stage := by
  obtain ⟨_, -, done⟩ := bind_eq_ok.mp done
  obtain ⟨_, -, done⟩ := bind_eq_ok.mp done
  split at done
  · cases done
    exact .refl
  · rename_i actors timers traded
    cases done
    exact (touches_trade traded).trans (touches_afterSwap _ _)

theorem touches_executeImmediate (done : stage.executeImmediate id command = .ok outcome) :
    Touches stage outcome.stage := by
  obtain ⟨actor, moved, timers, applied, updated⟩ := updated_of_executeImmediate done
  obtain ⟨i, here, after⟩ := updated.place
  have here : stage.actors[i]? = some actor := here
  have applies := touches_applyAll (put_here here _ _) applied
  rw [put_put] at applies
  rw [after]
  exact .head (.hushed here) applies

theorem touch_subscribe (stage : Stage) : Touch stage stage.subscribe.stage :=
  .control stage.active stage.playback _ _ rfl rfl

theorem touch_unsubscribe (stage : Stage) (number : Nat) : Touch stage (stage.unsubscribe number).stage :=
  .control stage.active stage.playback _ stage.registrations rfl rfl

end Stage

end SpriteStage
