import SpriteStage.Execution
import SpriteStage.Proofs.Config.Valid

/-!
# What carrying out a command does

A command either gives its actor a pose and leaves the timers alone, or shows a bubble
(`apply_cases`). It succeeds on every plain command when the limits are in order and the heading is
a reduced one (`apply_ok`), and it neither reads nor writes the program and the cursor (`apply_withWork`).
-/

namespace SpriteStage

/-- A chain of steps succeeds exactly when each of its two parts does. -/
theorem bind_eq_ok {ε α β : Type} {first : Except ε α} {next : α → Except ε β} {result : β} :
    first >>= next = .ok result ↔ ∃ value, first = .ok value ∧ next value = .ok result := by
  cases first with
  | error fault => exact ⟨fun done => (nomatch done), fun ⟨_, done, _⟩ => (nomatch done)⟩
  | ok value =>
    constructor
    · intro done
      exact ⟨value, rfl, done⟩
    · rintro ⟨_, same, done⟩
      cases same
      exact done

theorem pure_eq_ok {ε α : Type} {value result : α} :
    (pure value : Except ε α) = .ok result ↔ value = result := by
  show Except.ok value = Except.ok result ↔ _
  rw [Except.ok.injEq]

/-- A chain of steps breaks down with its first part if the second one cannot. -/
theorem bind_eq_error {ε α β : Type} {first : Except ε α} {next : α → Except ε β} {fault : ε}
    (calm : ∀ value, ∃ result, next value = .ok result) :
    first >>= next = .error fault ↔ first = .error fault := by
  cases first with
  | error other =>
    show (Except.error other : Except ε β) = _ ↔ _
    rw [Except.error.injEq, Except.error.injEq]
  | ok value =>
    obtain ⟨result, done⟩ := calm value
    refine iff_of_false ?_ (fun failed => (nomatch failed))
    show ¬ next value = .error fault
    rw [done]
    exact fun failed => (nomatch failed)

namespace Bounds

theorem clamp_eq_ok {bounds : Bounds} {x y heldX heldY : Float} :
    bounds.clamp x y = .ok (heldX, heldY) ↔
      bounds.clampX x = .ok heldX ∧ bounds.clampY y = .ok heldY := by
  unfold clamp
  simp only [bind_eq_ok, pure_eq_ok, Prod.mk.injEq]
  constructor
  · rintro ⟨_, clampedX, _, clampedY, rfl, rfl⟩
    exact ⟨clampedX, clampedY⟩
  · rintro ⟨clampedX, clampedY⟩
    exact ⟨_, clampedX, _, clampedY, rfl, rfl⟩

end Bounds

/-- Two actors that differ at most in position and heading: each coordinate is kept or the result
of clamping, and the heading is kept or a reduced one. -/
structure Actor.Posed (bounds : Bounds) (before after : Actor) : Prop where
  frame : after = { before with x := after.x, y := after.y, heading := after.heading }
  x : after.x = before.x ∨ ∃ target, bounds.clampX target = .ok after.x
  y : after.y = before.y ∨ ∃ target, bounds.clampY target = .ok after.y
  heading : after.heading = before.heading ∨ ∃ degrees, after.heading = normalizeHeading degrees

namespace Actor

variable {setting : Setting} {actor moved : Actor} {timers later : TimerQueue}

theorem move_posed {distance : Float} (done : actor.move setting distance = .ok moved) :
    Posed setting.bounds actor moved := by
  unfold move at done
  split at done
  · obtain ⟨x, clampedX, done⟩ := bind_eq_ok.mp done
    split at done
    · cases done
      exact ⟨rfl, .inr ⟨_, clampedX⟩, .inl rfl, .inl rfl⟩
    · obtain ⟨y, clampedY, done⟩ := bind_eq_ok.mp done
      cases done
      exact ⟨rfl, .inr ⟨_, clampedX⟩, .inr ⟨_, clampedY⟩, .inl rfl⟩
  · obtain ⟨⟨x, y⟩, clamped, done⟩ := bind_eq_ok.mp done
    obtain ⟨clampedX, clampedY⟩ := Bounds.clamp_eq_ok.mp clamped
    cases done
    exact ⟨rfl, .inr ⟨_, clampedX⟩, .inr ⟨_, clampedY⟩, .inl rfl⟩

theorem turn_posed {bounds : Bounds} {degrees : Int} (done : actor.turn degrees = .ok moved) :
    Posed bounds actor moved := by
  unfold turn at done
  dsimp only at done
  split at done
  · cases done
    exact ⟨rfl, .inl rfl, .inl rfl, .inr ⟨_, rfl⟩⟩
  · cases done

theorem move_withWork (setting : Setting) (actor : Actor) (distance : Float) (program : List Command)
    (cursor : Cursor) : ({ actor with program, cursor } : Actor).move setting distance =
      (actor.move setting distance).map fun moved => { moved with program, cursor } := by
  unfold move
  cases setting.motion with
  | horizontal floor =>
    dsimp only
    cases setting.bounds.clampX (actor.x + distance) with
    | error fault => rfl
    | ok x =>
      cases floor with
      | none => rfl
      | some floor =>
        show (setting.bounds.clampY (raiseTo floor actor.y) >>= _) =
          Except.map _ (setting.bounds.clampY (raiseTo floor actor.y) >>= _)
        cases setting.bounds.clampY (raiseTo floor actor.y) <;> rfl
  | heading =>
    dsimp only
    cases setting.bounds.clamp (actor.x + distance * (radians actor.heading).sin)
      (actor.y + distance * (radians actor.heading).cos) <;> rfl

/-- Moving cannot break down while limits are in order. -/
theorem move_ok (ordered : setting.bounds.Ordered) (actor : Actor) (distance : Float) :
    ∃ moved, actor.move setting distance = .ok moved := by
  unfold move
  cases setting.motion with
  | horizontal floor =>
    obtain ⟨x, clampedX⟩ := ordered.clampX (actor.x + distance)
    cases floor with
    | none => exact ⟨{ actor with x }, bind_eq_ok.mpr ⟨x, clampedX, rfl⟩⟩
    | some floor =>
      obtain ⟨y, clampedY⟩ := ordered.clampY (raiseTo floor actor.y)
      exact ⟨{ actor with x, y }, bind_eq_ok.mpr ⟨x, clampedX, bind_eq_ok.mpr ⟨y, clampedY, rfl⟩⟩⟩
  | heading =>
    obtain ⟨held, clamped⟩ := ordered.clamp (actor.x + distance * (radians actor.heading).sin)
      (actor.y + distance * (radians actor.heading).cos)
    exact ⟨{ actor with x := held.1, y := held.2 }, bind_eq_ok.mpr ⟨held, clamped, rfl⟩⟩

/-- From a reduced heading any angle can be turned by, and it is turned by exactly up to whole turns. -/
theorem turn_eq (reduced : actor.heading < 360) (degrees : Int) :
    actor.turn degrees = .ok { actor with heading := (actor.heading + degrees) % 360 } := by
  have small : actor.heading + degrees % 360 ≤ maxHeading := by
    have := Int.emod_lt_of_pos degrees (show (0 : Int) < 360 by decide)
    unfold maxHeading
    omega
  unfold turn
  dsimp only
  rw [if_pos small, normalizeHeading, Int.add_emod_emod]

/-- A bubble is shown without a timer, or under the handle that was just handed out. -/
theorem display_cases (setting : Setting) (actor : Actor) (timers : TimerQueue) (kind : BubbleKind)
    (text : String) (duration : Option Float) :
    actor.display setting timers kind text duration =
        ({ actor with bubble := some ⟨kind, text, none⟩ }, timers.cancel? actor.bubbleTimer) ∨
      ∃ deadline, setting.now ≤ deadline ∧
        actor.display setting timers kind text duration =
          ({ actor with bubble := some ⟨kind, text,
              some ((timers.cancel? actor.bubbleTimer).arm actor.id kind deadline).1⟩ },
            ((timers.cancel? actor.bubbleTimer).arm actor.id kind deadline).2) := by
  unfold display
  cases due : bubbleDeadline setting.now duration with
  | none => exact .inl rfl
  | some deadline =>
    refine .inr ⟨deadline, ?_, rfl⟩
    obtain ⟨seconds, _, due⟩ := Option.bind_eq_some_iff.mp due
    split at due
    · obtain ⟨after, _, sum⟩ := Option.bind_eq_some_iff.mp due
      have := Duration.add?_eq_some_iff.mp sum
      rw [Duration.le_def]
      omega
    · cases due

end Actor

namespace Command

variable {setting : Setting} {actor moved : Actor} {timers later : TimerQueue} {command : Command}

/-- A command gives its actor a pose, or shows a bubble. -/
theorem apply_cases (done : command.apply setting actor timers = .ok (moved, later)) :
    actor.Posed setting.bounds moved ∧ later = timers ∨
      ∃ kind text duration, command = .bubble kind text duration ∧
        (moved, later) = actor.display setting timers kind text duration := by
  cases command with
  | move distance =>
    obtain ⟨_, moves, done⟩ := bind_eq_ok.mp done
    cases done
    exact .inl ⟨Actor.move_posed moves, rfl⟩
  | turn degrees =>
    obtain ⟨_, turns, done⟩ := bind_eq_ok.mp done
    cases done
    exact .inl ⟨Actor.turn_posed turns, rfl⟩
  | goTo x y =>
    obtain ⟨⟨heldX, heldY⟩, clamped, done⟩ := bind_eq_ok.mp done
    obtain ⟨clampedX, clampedY⟩ := Bounds.clamp_eq_ok.mp clamped
    cases done
    exact .inl ⟨⟨rfl, .inr ⟨_, clampedX⟩, .inr ⟨_, clampedY⟩, .inl rfl⟩, rfl⟩
  | bubble kind text duration =>
    exact .inr ⟨kind, text, duration, rfl, (Except.ok.inj done).symm⟩
  | repeatTimes count body => cases done

/-- A command leaves an actor what it is but for its pose and its bubble. -/
theorem apply_frame (done : command.apply setting actor timers = .ok (moved, later)) :
    moved.id = actor.id ∧ moved.name = actor.name ∧ moved.program = actor.program ∧
      moved.cursor = actor.cursor := by
  rcases apply_cases done with ⟨posed, -⟩ | ⟨kind, text, duration, -, shown⟩
  · rw [posed.frame]
    exact ⟨rfl, rfl, rfl, rfl⟩
  · rcases actor.display_cases setting timers kind text duration with plain | ⟨deadline, -, armed⟩
    · rw [plain] at shown
      cases shown
      exact ⟨rfl, rfl, rfl, rfl⟩
    · rw [armed] at shown
      cases shown
      exact ⟨rfl, rfl, rfl, rfl⟩

/-- The program of an actor and its cursor are neither read nor written. -/
theorem apply_withWork (setting : Setting) (actor : Actor) (timers : TimerQueue) (command : Command)
    (program : List Command) (cursor : Cursor) :
    command.apply setting { actor with program, cursor } timers =
      (command.apply setting actor timers).map fun (moved, later) =>
        ({ moved with program, cursor }, later) := by
  cases command with
  | move distance =>
    show (({ actor with program, cursor } : Actor).move setting distance >>= fun moved => pure (moved, timers)) =
      (actor.move setting distance >>= fun moved => pure (moved, timers)).map _
    rw [Actor.move_withWork]
    cases actor.move setting distance <;> rfl
  | turn degrees =>
    simp only [apply, Actor.turn]
    split <;> rfl
  | goTo x y =>
    simp only [apply]
    cases setting.bounds.clamp x y <;> rfl
  | bubble kind text duration =>
    simp only [apply, Actor.display]
    cases Actor.bubbleDeadline setting.now duration <;> rfl
  | repeatTimes count body => rfl

theorem apply_withCursor (setting : Setting) (actor : Actor) (timers : TimerQueue)
    (command : Command) (cursor : Cursor) :
    command.apply setting { actor with cursor } timers =
      (command.apply setting actor timers).map fun (moved, later) =>
        ({ moved with cursor }, later) := by
  have general := apply_withWork setting actor timers command actor.program cursor
  cases applied : command.apply setting actor timers with
  | error fault => rwa [applied] at general
  | ok result =>
    have program : result.1.program = actor.program := (apply_frame applied).2.2.1
    rw [general, applied]
    simp only [Except.map, program]

/-- Carrying out a plain command cannot break down while limits are in order and the heading is a
reduced one. -/
theorem apply_ok (ordered : setting.bounds.Ordered) (timers : TimerQueue)
    (reduced : actor.heading < 360) (plain : command.isRepeat = false) :
    ∃ moved later, command.apply setting actor timers = .ok (moved, later) := by
  cases command with
  | move distance =>
    obtain ⟨moved, moves⟩ := Actor.move_ok ordered actor distance
    exact ⟨moved, timers, bind_eq_ok.mpr ⟨moved, moves, rfl⟩⟩
  | turn degrees => exact ⟨_, timers, bind_eq_ok.mpr ⟨_, Actor.turn_eq reduced degrees, rfl⟩⟩
  | goTo x y =>
    obtain ⟨held, clamped⟩ := ordered.clamp x y
    exact ⟨{ actor with x := held.1, y := held.2 }, timers, bind_eq_ok.mpr ⟨held, clamped, rfl⟩⟩
  | bubble kind text duration => exact ⟨_, _, rfl⟩
  | repeatTimes count body => cases plain

end Command

/-! ### Poses -/

/-- Two actors stand at the same place and point the same way. -/
structure Actor.SamePose (actor other : Actor) : Prop where
  x : actor.x = other.x
  y : actor.y = other.y
  heading : actor.heading = other.heading

namespace Actor

variable {setting other : Setting} {actor twin moved : Actor}

theorem SamePose.refl (actor : Actor) : actor.SamePose actor := ⟨rfl, rfl, rfl⟩

theorem SamePose.symm (same : actor.SamePose twin) : twin.SamePose actor :=
  ⟨same.x.symm, same.y.symm, same.heading.symm⟩

theorem SamePose.trans (first : actor.SamePose moved) (second : moved.SamePose twin) :
    actor.SamePose twin :=
  ⟨first.x.trans second.x, first.y.trans second.y, first.heading.trans second.heading⟩

theorem move_samePose {distance : Float} (bounds : other.bounds = setting.bounds)
    (motion : other.motion = setting.motion) (same : actor.SamePose twin)
    (done : actor.move setting distance = .ok moved) :
    ∃ after, twin.move other distance = .ok after ∧ moved.SamePose after := by
  unfold move at done ⊢
  rw [bounds, motion, ← same.x, ← same.y, ← same.heading]
  cases motionIs : setting.motion with
  | horizontal floor =>
    rw [motionIs] at done
    obtain ⟨x, clampedX, done⟩ := bind_eq_ok.mp done
    cases floor with
    | none =>
      cases done
      exact ⟨_, bind_eq_ok.mpr ⟨x, clampedX, rfl⟩, rfl, rfl, rfl⟩
    | some floor =>
      obtain ⟨y, clampedY, done⟩ := bind_eq_ok.mp done
      cases done
      exact ⟨_, bind_eq_ok.mpr ⟨x, clampedX, bind_eq_ok.mpr ⟨y, clampedY, rfl⟩⟩, rfl, rfl, rfl⟩
  | heading =>
    rw [motionIs] at done
    obtain ⟨held, clamped, done⟩ := bind_eq_ok.mp done
    cases done
    exact ⟨_, bind_eq_ok.mpr ⟨held, clamped, rfl⟩, rfl, rfl, rfl⟩

theorem turn_samePose {degrees : Int} (same : actor.SamePose twin)
    (done : actor.turn degrees = .ok moved) :
    ∃ after, twin.turn degrees = .ok after ∧ moved.SamePose after := by
  unfold turn at done ⊢
  rw [← same.heading]
  dsimp only at done ⊢
  split at done
  · rename_i small
    cases done
    exact ⟨_, if_pos small, same.x, same.y, rfl⟩
  · cases done

theorem display_samePose (setting : Setting) (actor : Actor) (timers : TimerQueue) (kind : BubbleKind)
    (text : String) (duration : Option Float) :
    (actor.display setting timers kind text duration).1.SamePose actor := by
  unfold display
  dsimp only
  split <;> exact ⟨rfl, rfl, rfl⟩

end Actor

/-- The pose that a command leads to depends on the pose before, the bounds and the kind of motion, on
nothing else. -/
theorem Command.apply_samePose {setting other : Setting} {actor twin moved : Actor}
    {timers later : TimerQueue} {command : Command} (bounds : other.bounds = setting.bounds)
    (motion : other.motion = setting.motion) (same : actor.SamePose twin)
    (done : command.apply setting actor timers = .ok (moved, later)) (queue : TimerQueue) :
    ∃ after left, command.apply other twin queue = .ok (after, left) ∧ moved.SamePose after := by
  cases command with
  | move distance =>
    obtain ⟨_, moves, done⟩ := bind_eq_ok.mp done
    cases done
    obtain ⟨after, movesToo, sameAfter⟩ := Actor.move_samePose bounds motion same moves
    exact ⟨after, queue, bind_eq_ok.mpr ⟨after, movesToo, rfl⟩, sameAfter⟩
  | turn degrees =>
    obtain ⟨_, turns, done⟩ := bind_eq_ok.mp done
    cases done
    obtain ⟨after, turnsToo, sameAfter⟩ := Actor.turn_samePose same turns
    exact ⟨after, queue, bind_eq_ok.mpr ⟨after, turnsToo, rfl⟩, sameAfter⟩
  | goTo x y =>
    obtain ⟨held, clamped, done⟩ := bind_eq_ok.mp done
    cases done
    rw [← bounds] at clamped
    exact ⟨_, queue, bind_eq_ok.mpr ⟨held, clamped, rfl⟩, rfl, rfl, same.heading⟩
  | bubble kind text duration =>
    refine ⟨_, _, rfl, ?_⟩
    have shown := Actor.display_samePose setting actor timers kind text duration
    rw [Except.ok.inj done] at shown
    have shownToo := Actor.display_samePose other twin queue kind text duration
    exact shown.trans (same.trans shownToo.symm)
  | repeatTimes count body => cases done

end SpriteStage
