import SpriteStage.Proofs.Stage.Edits

/-!
# Answers to operations

A refusal carries the stage it was made on and what observers were told by then. Every request goes
through its checks before it changes or tells anything, so that a refusal spares the stage (`Spares`):
this is shown check by check, and from the checks request by request. What performing an operation comes
to is then said once, in `Performed`.
-/

namespace SpriteStage.Stage

/-- If this attempt is refused, the stage is as it was and observers were told nothing. -/
def Spares {α : Type} (stage : Stage) (attempt : Attempt α) : Prop :=
  ∀ refusal, attempt = .error (.refused refusal) → refusal.stage = stage ∧ refusal.notices = []

/-- What performing an operation comes to. -/
inductive Performed (stage : Stage) : Operation → Outcome Response → Prop
  | refused {operation : Operation} (error : StageError) :
      Performed stage operation (stage.outcome (.refused error) [])
  | addActor {after : Outcome ActorId} (added : stage.addActor = .ok after) :
      Performed stage .addActor (after.respond .id)
  | insertActor {actor : Actor} {after : Outcome ActorId} (inserted : stage.insertActor actor = .ok after) :
      Performed stage (.insertActor actor) (after.respond .id)
  | removeActor {id : ActorId} {after : Outcome Actor} (removed : stage.removeActor id = .ok after) :
      Performed stage (.removeActor id) (after.respond .actor)
  | setActive {id : ActorId} {after : Outcome Unit} (done : stage.setActive id = .ok after) :
      Performed stage (.setActive id) (after.respond fun _ => .done)
  | rename {id : ActorId} {name : String} {after : Outcome Unit} (done : stage.rename id name = .ok after) :
      Performed stage (.rename id name) (after.respond fun _ => .done)
  | setPosition {id : ActorId} {x y : Float} {after : Outcome Unit}
      (done : stage.setPosition id x y = .ok after) :
      Performed stage (.setPosition id x y) (after.respond fun _ => .done)
  | setHeading {id : ActorId} {degrees : Int} {after : Outcome Unit}
      (done : stage.setHeading id degrees = .ok after) :
      Performed stage (.setHeading id degrees) (after.respond fun _ => .done)
  | append {id : ActorId} {command : Command} {after : Outcome Unit}
      (done : stage.append id command = .ok after) :
      Performed stage (.append id command) (after.respond fun _ => .done)
  | patchCommand {id : ActorId} {index : Nat} {patch : Patch} {after : Outcome Unit}
      (done : stage.patchCommand id index patch = .ok after) :
      Performed stage (.patchCommand id index patch) (after.respond fun _ => .done)
  | removeCommand {id : ActorId} {index : Nat} {after : Outcome Command}
      (removed : stage.removeCommand id index = .ok after) :
      Performed stage (.removeCommand id index) (after.respond .command)
  | swapPrograms {a b : ActorId} {after : Outcome Unit} (done : stage.swapPrograms a b = .ok after) :
      Performed stage (.swapPrograms a b) (after.respond fun _ => .done)
  | executeImmediate {id : ActorId} {command : Command} {after : Outcome Unit}
      (done : stage.executeImmediate id command = .ok after) :
      Performed stage (.executeImmediate id command) (after.respond fun _ => .done)
  | play {after : Outcome Unit} (played : stage.play = .ok after) :
      Performed stage .play (after.respond fun _ => .done)
  | stop : Performed stage .stop (stage.stop.respond fun _ => .done)
  | tick {after : Outcome TickReport} (ticked : stage.tick = .ok after) :
      Performed stage .tick (after.respond .report)
  | advanceTime {elapsed : Duration} {after : Outcome (List TickReport)}
      (advanced : stage.advanceTime elapsed = .ok after) :
      Performed stage (.advanceTime elapsed) (after.respond .reports)
  | subscribe : Performed stage .subscribe (stage.subscribe.respond .observer)
  | unsubscribe (number : Nat) :
      Performed stage (.unsubscribe number) ((stage.unsubscribe number).respond .found)

variable {α β : Type} {stage : Stage}

/-! ### Checks -/

theorem spares_ok (value : α) : stage.Spares (.ok value) := by
  rintro refusal ⟨⟩

theorem spares_refuse (error : StageError) : stage.Spares (stage.refuse error : Attempt α) := by
  rintro refusal ⟨⟩
  exact ⟨rfl, rfl⟩

theorem spares_check (result : Except StageError α) : stage.Spares (stage.check result) := by
  cases result with
  | error error => exact spares_refuse error
  | ok value => exact spares_ok value

theorem spares_sound (result : Except Fault α) : stage.Spares (sound result) := by
  cases result with
  | error fault => rintro refusal ⟨⟩
  | ok value => exact spares_ok value

theorem spares_require (id : ActorId) : stage.Spares (stage.require id) := by
  unfold require
  split
  · exact spares_ok _
  · exact spares_refuse _

theorem spares_requireCommand (actor : Actor) (index : Nat) :
    stage.Spares (stage.requireCommand actor index) := by
  unfold requireCommand
  split
  · exact spares_ok _
  · exact spares_refuse _

theorem Spares.bind {first : Attempt α} {next : α → Attempt β} (spares : stage.Spares first)
    (rest : ∀ value, stage.Spares (next value)) : stage.Spares (first >>= next) := by
  cases first with
  | ok value => exact rest value
  | error failure =>
    intro refusal refused
    cases refused
    exact spares refusal rfl

theorem spares_validate (program : List Command) :
    stage.Spares (program.forM fun command => stage.check command.validate) := by
  induction program with
  | nil => exact spares_ok ()
  | cons command rest ih => exact (spares_check _).bind fun _ => ih

/-! ### Requests -/

variable (stage) (id : ActorId)

theorem spares_insertActor (actor : Actor) : stage.Spares (stage.insertActor actor) := by
  unfold insertActor
  by_cases taken : (stage.actor? actor.id).isSome
  · rw [if_pos taken]
    exact (spares_refuse _).bind fun _ => (spares_validate _).bind fun _ => spares_sound _
  · rw [if_neg taken]
    exact (spares_validate _).bind fun _ => spares_sound _

theorem spares_removeActor : stage.Spares (stage.removeActor id) :=
  (spares_require id).bind fun _ => spares_ok _

theorem spares_setActive : stage.Spares (stage.setActive id) :=
  (spares_require id).bind fun _ => spares_ok _

theorem spares_rename (name : String) : stage.Spares (stage.rename id name) :=
  (spares_require id).bind fun _ => spares_ok _

theorem spares_setPosition (x y : Float) : stage.Spares (stage.setPosition id x y) :=
  (spares_require id).bind fun _ => (spares_sound _).bind fun _ => spares_ok _

theorem spares_setHeading (degrees : Int) : stage.Spares (stage.setHeading id degrees) :=
  (spares_require id).bind fun _ => spares_ok _

theorem spares_append (command : Command) : stage.Spares (stage.append id command) :=
  (spares_check _).bind fun _ => (spares_require id).bind fun _ => spares_ok _

theorem spares_patchCommand (index : Nat) (patch : Patch) :
    stage.Spares (stage.patchCommand id index patch) :=
  (spares_require id).bind fun actor => (spares_requireCommand actor index).bind fun _ =>
    (spares_check _).bind fun _ => spares_ok _

theorem spares_removeCommand (index : Nat) : stage.Spares (stage.removeCommand id index) :=
  (spares_require id).bind fun actor => (spares_requireCommand actor index).bind fun _ => spares_ok _

theorem spares_swapPrograms (a b : ActorId) : stage.Spares (stage.swapPrograms a b) := by
  refine (spares_require a).bind fun _ => (spares_require b).bind fun _ => ?_
  split
  · exact spares_ok _
  · exact spares_ok _

theorem spares_executeImmediate (command : Command) :
    stage.Spares (stage.executeImmediate id command) :=
  (spares_check _).bind fun _ => (spares_require id).bind fun _ =>
    (spares_sound _).bind fun _ => spares_ok _

/-! ### Operations -/

variable {stage} {operation : Operation} {outcome : Outcome Response}

/-- A request that spares the stage is refused on the stage it was made to, or granted. -/
theorem performed_of_answer {respond : α → Response} {attempt : Attempt (Outcome α)}
    (spares : stage.Spares attempt)
    (granted : ∀ after, attempt = .ok after → stage.Performed operation (after.respond respond))
    (answered : answer respond attempt = .ok outcome) : stage.Performed operation outcome := by
  cases attempt with
  | ok after =>
    cases answered
    exact granted after rfl
  | error failure =>
    cases failure with
    | faulted fault => cases answered
    | refused refusal =>
      obtain ⟨unmoved, silent⟩ := spares refusal rfl
      have same : refusal.respond .refused = stage.outcome (.refused refusal.value) [] := by
        rw [Outcome.respond, unmoved, silent]
        rfl
      cases answered
      rw [same]
      exact .refused refusal.value

theorem performed_of_perform (performed : stage.perform operation = .ok outcome) :
    stage.Performed operation outcome := by
  cases operation with
  | addActor =>
    obtain ⟨after, added, same⟩ := bind_eq_ok.mp performed
    cases same
    exact .addActor added
  | insertActor actor =>
    exact performed_of_answer (spares_insertActor stage actor) (fun _ => .insertActor) performed
  | removeActor id => exact performed_of_answer (spares_removeActor stage id) (fun _ => .removeActor) performed
  | setActive id => exact performed_of_answer (spares_setActive stage id) (fun _ => .setActive) performed
  | rename id name => exact performed_of_answer (spares_rename stage id name) (fun _ => .rename) performed
  | setPosition id x y =>
    exact performed_of_answer (spares_setPosition stage id x y) (fun _ => .setPosition) performed
  | setHeading id degrees =>
    exact performed_of_answer (spares_setHeading stage id degrees) (fun _ => .setHeading) performed
  | append id command =>
    exact performed_of_answer (spares_append stage id command) (fun _ => .append) performed
  | patchCommand id index patch =>
    exact performed_of_answer (spares_patchCommand stage id index patch) (fun _ => .patchCommand) performed
  | removeCommand id index =>
    exact performed_of_answer (spares_removeCommand stage id index) (fun _ => .removeCommand) performed
  | swapPrograms a b =>
    exact performed_of_answer (spares_swapPrograms stage a b) (fun _ => .swapPrograms) performed
  | executeImmediate id command =>
    exact performed_of_answer (spares_executeImmediate stage id command) (fun _ => .executeImmediate)
      performed
  | play =>
    obtain ⟨after, played, same⟩ := bind_eq_ok.mp performed
    cases same
    exact .play played
  | stop =>
    cases performed
    exact .stop
  | tick =>
    obtain ⟨after, ticked, same⟩ := bind_eq_ok.mp performed
    cases same
    exact .tick ticked
  | advanceTime elapsed =>
    obtain ⟨after, advanced, same⟩ := bind_eq_ok.mp performed
    cases same
    exact .advanceTime advanced
  | subscribe =>
    cases performed
    exact .subscribe
  | unsubscribe number =>
    cases performed
    exact .unsubscribe number

end SpriteStage.Stage
