import SpriteStage.Proofs.Stage.Faults

/-!
# Refused requests

What may be wrong with a request is said in `Objection`, together with the check that finds it out.
A request is refused with the error of the first check that fails, and carried out if none does
(`Decided`); and it goes through its checks before it changes anything (`Spares`). Main statement:
`refused_iff_objection`.
-/

namespace SpriteStage

/-- A repeat that holds another repeat. -/
def Command.NestsRepeat (command : Command) : Prop :=
  ∃ count body inner, command = .repeatTimes count body ∧ inner ∈ body ∧ inner.isRepeat = true

/-- The checks of requests, in the order in which they are made. -/
inductive Check where
  | identifier
  | nesting
  | actor
  | partner
  | index
  | patch
deriving DecidableEq

def Check.rank : Check → Nat
  | .identifier => 0
  | .nesting => 1
  | .actor => 2
  | .partner => 3
  | .index => 4
  | .patch => 5

namespace Operation

/-- Whether an operation is a request, which may be refused. -/
def isRequest : Operation → Bool
  | .addActor | .play | .stop | .tick | .advanceTime _ | .subscribe | .unsubscribe _ => false
  | _ => true

/-- The commands that come with a request. -/
def commands : Operation → List Command
  | .insertActor actor => actor.program
  | .append _ command | .executeImmediate _ command => [command]
  | _ => []

/-- The actor that a request is about; of a swap, the first of the two. -/
def addressee? : Operation → Option ActorId
  | .removeActor id | .setActive id | .rename id _ | .setPosition id _ _ | .setHeading id _
  | .append id _ | .patchCommand id _ _ | .removeCommand id _ | .swapPrograms id _
  | .executeImmediate id _ => some id
  | _ => none

/-- The index of the command that a request is about. -/
def index? : Operation → Option Nat
  | .patchCommand _ index _ | .removeCommand _ index => some index
  | _ => none

end Operation

namespace Stage

/-- What is wrong with a request, the check that finds it out, and the error that tells of it. -/
inductive Objection (stage : Stage) : Operation → Check → StageError → Prop
  | identifier {actor other : Actor} (stands : other ∈ stage.actors) (taken : other.id = actor.id) :
      Objection stage (.insertActor actor) .identifier (.duplicateActor actor.id)
  | nesting {operation : Operation} {command : Command} (given : command ∈ operation.commands)
      (nested : command.NestsRepeat) : Objection stage operation .nesting .nestedRepeat
  | actor {operation : Operation} {id : ActorId} (addressed : operation.addressee? = some id)
      (missing : ∀ other ∈ stage.actors, other.id ≠ id) :
      Objection stage operation .actor (.actorNotFound id)
  | partner {a b : ActorId} (missing : ∀ other ∈ stage.actors, other.id ≠ b) :
      Objection stage (.swapPrograms a b) .partner (.actorNotFound b)
  | index {operation : Operation} {id : ActorId} {index : Nat} {actor : Actor}
      (addressed : operation.addressee? = some id) (asked : operation.index? = some index)
      (found : stage.actor? id = some actor) (outside : actor.program.length ≤ index) :
      Objection stage operation .index (.commandIndexOutOfRange id index actor.program.length)
  | patch {id : ActorId} {index : Nat} {patch : Patch} {actor : Actor} {command : Command}
      {error : StageError} (found : stage.actor? id = some actor)
      (here : actor.program[index]? = some command) (rejected : command.patched patch = .error error) :
      Objection stage (.patchCommand id index patch) .patch error

/-- The error of the first check that a request fails. -/
def FirstObjection (stage : Stage) (operation : Operation) (error : StageError) : Prop :=
  ∃ check, Objection stage operation check error ∧
    ∀ other another, Objection stage operation other another → check.rank ≤ other.rank

/-- Whatever is wrong with a request is found out by later checks. -/
def PassedBefore (stage : Stage) (operation : Operation) (rank : Nat) : Prop :=
  ∀ check error, Objection stage operation check error → rank ≤ check.rank

/-- An attempt at a request is decided by the checks: refused for the first that fails, or carried
out. -/
inductive Decided {α : Type} (stage : Stage) (operation : Operation) : Attempt (Outcome α) → Prop
  | refused {refusal : Outcome StageError} (first : FirstObjection stage operation refusal.value) :
      Decided stage operation (.error (.refused refusal))
  | granted {outcome : Outcome α} (passed : ∀ check error, ¬ Objection stage operation check error) :
      Decided stage operation (.ok outcome)

end Stage

theorem Check.rank_inj {check other : Check} (same : check.rank = other.rank) : check = other := by
  revert same
  cases check <;> cases other <;> decide

theorem Command.isFlat_eq_false_iff {command : Command} :
    command.isFlat = false ↔ command.NestsRepeat := by
  cases command with
  | repeatTimes count body => simp [isFlat, NestsRepeat]
  | _ => simp [isFlat, NestsRepeat]

theorem Command.not_nestsRepeat {command : Command} (flat : command.isFlat = true) :
    ¬ command.NestsRepeat := by
  rw [← isFlat_eq_false_iff, flat]
  exact Bool.noConfusion

namespace Stage

variable {stage : Stage} {operation : Operation} {check : Check} {error : StageError} {id : ActorId}
  {rank : Nat} {α β : Type}

/-- A check finds out one error at most. -/
theorem Objection.unique {another : StageError} (first : Objection stage operation check error)
    (second : Objection stage operation check another) : error = another := by
  cases first with
  | identifier => cases second; rfl
  | nesting => cases second; rfl
  | actor addressed =>
    cases second with
    | actor addressed' =>
      rw [addressed] at addressed'
      cases addressed'
      rfl
  | partner => cases second; rfl
  | index addressed asked found outside =>
    cases second with
    | index addressed' asked' found' outside' =>
      rw [addressed] at addressed'
      cases addressed'
      rw [asked] at asked'
      cases asked'
      rw [found] at found'
      cases found'
      rfl
  | patch found here rejected =>
    cases second with
    | patch found' here' rejected' =>
      rw [found] at found'
      cases found'
      rw [here] at here'
      cases here'
      rw [rejected] at rejected'
      cases rejected'
      rfl

theorem FirstObjection.unique {another : StageError} (first : FirstObjection stage operation error)
    (second : FirstObjection stage operation another) : error = another := by
  obtain ⟨check, objection, least⟩ := first
  obtain ⟨other, objection', least'⟩ := second
  have same : check = other :=
    Check.rank_inj (Nat.le_antisymm (least _ _ objection') (least' _ _ objection))
  subst same
  exact objection.unique objection'

/-! ### One check after another -/

/-- A check that everything before it passed is the first to object. -/
theorem PassedBefore.first (passed : PassedBefore stage operation check.rank)
    (objection : Objection stage operation check error) : FirstObjection stage operation error :=
  ⟨check, objection, passed⟩

theorem PassedBefore.next (passed : PassedBefore stage operation check.rank)
    (silent : ∀ error, ¬ Objection stage operation check error) :
    PassedBefore stage operation (check.rank + 1) := by
  intro other error objection
  refine Nat.lt_of_le_of_ne (passed other error objection) fun same => ?_
  rw [Check.rank_inj same] at silent
  exact silent error objection

/-- Only a new actor has its identifier checked. -/
theorem passedBefore_nesting (addressed : operation.addressee? = some id) :
    PassedBefore stage operation Check.nesting.rank := by
  intro check error objection
  cases objection with
  | identifier => cases addressed
  | _ => decide

theorem passedBefore_actor (addressed : operation.addressee? = some id)
    (flat : ∀ command ∈ operation.commands, command.isFlat = true) :
    PassedBefore stage operation Check.actor.rank := by
  refine (passedBefore_nesting addressed).next fun error objection => ?_
  cases objection with
  | nesting given nested =>
    exact Command.not_nestsRepeat (flat _ given) nested

theorem decided_nesting {command : Command} {next : Unit → Attempt (Outcome α)}
    (passed : PassedBefore stage operation Check.nesting.rank) (given : command ∈ operation.commands)
    (rest : command.isFlat = true → Decided stage operation (next ())) :
    Decided stage operation (stage.check command.validate >>= next) := by
  cases flat : command.isFlat with
  | true =>
    rw [Command.validate_eq_ok_iff.mpr flat]
    exact rest flat
  | false =>
    have refused : command.validate = .error .nestedRepeat := by simp [Command.validate, flat]
    rw [refused]
    exact .refused (passed.first (.nesting given (Command.isFlat_eq_false_iff.mp flat)))

theorem decided_actor {next : Actor → Attempt (Outcome α)}
    (passed : PassedBefore stage operation Check.actor.rank) (addressed : operation.addressee? = some id)
    (rest : ∀ actor, stage.actor? id = some actor →
      PassedBefore stage operation Check.partner.rank → Decided stage operation (next actor)) :
    Decided stage operation (stage.require id >>= next) := by
  cases found : stage.actor? id with
  | none =>
    have refused : stage.require id = stage.refuse (.actorNotFound id) := by simp [require, found]
    rw [refused]
    exact .refused (passed.first (.actor addressed (actor?_eq_none.mp found)))
  | some actor =>
    rw [require_eq_ok.mpr found]
    refine rest actor found (passed.next fun error objection => ?_)
    cases objection with
    | actor addressed' missing =>
      rw [addressed] at addressed'
      cases addressed'
      rw [actor?_eq_none.mpr missing] at found
      cases found

theorem decided_index {actor : Actor} {index : Nat} {next : Command → Attempt (Outcome α)}
    (passed : PassedBefore stage operation Check.index.rank) (addressed : operation.addressee? = some id)
    (asked : operation.index? = some index) (found : stage.actor? id = some actor)
    (rest : ∀ command, actor.program[index]? = some command →
      PassedBefore stage operation Check.patch.rank → Decided stage operation (next command)) :
    Decided stage operation (stage.requireCommand actor index >>= next) := by
  cases here : actor.program[index]? with
  | none =>
    have refused : stage.requireCommand actor index =
        stage.refuse (.commandIndexOutOfRange id index actor.program.length) := by
      simp [requireCommand, here, actor?_id found]
    rw [refused]
    exact .refused (passed.first (.index addressed asked found (List.getElem?_eq_none_iff.mp here)))
  | some command =>
    rw [requireCommand_eq_ok.mpr here]
    refine rest command here (passed.next fun error objection => ?_)
    cases objection with
    | index addressed' asked' found' outside =>
      rw [addressed] at addressed'
      cases addressed'
      rw [asked] at asked'
      cases asked'
      rw [found] at found'
      cases found'
      rw [List.getElem?_eq_none outside] at here
      cases here

/-- Behind the check of the actor there is nothing more to check, unless the request is about a
second actor or a command. -/
theorem decided_granted {outcome : Outcome α} (passed : PassedBefore stage operation Check.partner.rank)
    (noPartner : ∀ a b, operation ≠ .swapPrograms a b) (noIndex : operation.index? = none) :
    Decided stage operation (.ok outcome) := by
  refine .granted fun check error objection => ?_
  have late := passed check error objection
  cases objection with
  | partner => exact noPartner _ _ rfl
  | index addressed asked => rw [noIndex] at asked; cases asked
  | patch => cases noIndex
  | _ => exact absurd late (by decide)

/-! ### Request by request -/

/-- A request that needs nothing but its actor is refused only where that actor is missing. -/
theorem decided_plain {next : Actor → Attempt (Outcome α)} (addressed : operation.addressee? = some id)
    (bare : operation.commands = []) (noPartner : ∀ a b, operation ≠ .swapPrograms a b)
    (noIndex : operation.index? = none)
    (rest : ∀ actor, stage.actor? id = some actor → ∃ outcome, next actor = .ok outcome) :
    Decided stage operation (stage.require id >>= next) := by
  refine decided_actor (passedBefore_actor addressed (by simp [bare])) addressed ?_
  intro actor found passed
  obtain ⟨outcome, done⟩ := rest actor found
  rw [done]
  exact decided_granted passed noPartner noIndex

theorem decided_setPosition (steady : Steady stage) (id : ActorId) (x y : Float) :
    Decided stage (.setPosition id x y) (stage.setPosition id x y) := by
  refine decided_plain rfl rfl (by simp) rfl fun actor found => ?_
  obtain ⟨held, clamped⟩ := Bounds.Ordered.clamp steady.ordered x y
  exact ⟨_, bind_eq_ok.mpr ⟨held, sound_eq_ok.mpr clamped, rfl⟩⟩

theorem decided_append (stage : Stage) (id : ActorId) (command : Command) :
    Decided stage (.append id command) (stage.append id command) := by
  refine decided_nesting (passedBefore_nesting rfl) List.mem_cons_self fun flat => ?_
  refine decided_actor (passedBefore_actor rfl (by simpa [Operation.commands])) rfl ?_
  intro actor found passed
  exact decided_granted passed (by simp) rfl

theorem decided_executeImmediate (steady : Steady stage) (id : ActorId) (command : Command) :
    Decided stage (.executeImmediate id command) (stage.executeImmediate id command) := by
  refine decided_nesting (passedBefore_nesting rfl) List.mem_cons_self fun flat => ?_
  refine decided_actor (passedBefore_actor rfl (by simpa [Operation.commands])) rfl ?_
  intro actor found passed
  have sound := steady.sound actor (List.mem_of_find?_eq_some found)
  have bare : actor.withoutBubble.Sound := sound_of_same sound rfl rfl
  obtain ⟨moved, timers, applied⟩ := applyAll_ok (show stage.setting.bounds.Ordered from steady.ordered)
    (fun _ => plain_of_mem_unfold flat) bare (stage.timers.cancel? actor.bubbleTimer)
  rw [applied]
  exact decided_granted passed (by simp) rfl

/-- Behind the check of the actor, only the index of a request for a command is left to check. -/
theorem passedBefore_index (passed : PassedBefore stage operation Check.partner.rank)
    (noPartner : ∀ a b, operation ≠ .swapPrograms a b) :
    PassedBefore stage operation Check.index.rank := by
  refine passed.next fun error objection => ?_
  cases objection with
  | partner => exact noPartner _ _ rfl

theorem decided_removeCommand (stage : Stage) (id : ActorId) (index : Nat) :
    Decided stage (.removeCommand id index) (stage.removeCommand id index) := by
  refine decided_actor (passedBefore_actor rfl (by simp [Operation.commands])) rfl ?_
  intro actor found passed
  refine decided_index (passedBefore_index passed (by simp)) rfl rfl found fun command here passed => ?_
  refine .granted fun check error objection => ?_
  have late := passed check error objection
  cases objection <;> exact absurd late (by decide)

theorem decided_patchCommand (stage : Stage) (id : ActorId) (index : Nat) (patch : Patch) :
    Decided stage (.patchCommand id index patch) (stage.patchCommand id index patch) := by
  refine decided_actor (passedBefore_actor rfl (by simp [Operation.commands])) rfl ?_
  intro actor found passed
  refine decided_index (passedBefore_index passed (by simp)) rfl rfl found fun command here passed => ?_
  cases patches : command.patched patch with
  | error error => exact .refused (passed.first (.patch found here patches))
  | ok patched =>
    refine .granted fun check error objection => ?_
    have late := passed check error objection
    cases objection with
    | patch found' here' rejected =>
      rw [found] at found'
      cases found'
      rw [here] at here'
      cases here'
      rw [patches] at rejected
      cases rejected
    | _ => exact absurd late (by decide)

theorem decided_swapPrograms (stage : Stage) (a b : ActorId) :
    Decided stage (.swapPrograms a b) (stage.swapPrograms a b) := by
  refine decided_actor (passedBefore_actor rfl (by simp [Operation.commands])) rfl ?_
  intro actor found passed
  cases foundPartner : stage.actor? b with
  | none =>
    have refused : stage.require b = stage.refuse (.actorNotFound b) := by simp [require, foundPartner]
    rw [refused]
    exact .refused (passed.first (.partner (actor?_eq_none.mp foundPartner)))
  | some partner =>
    rw [require_eq_ok.mpr foundPartner]
    have granted (outcome : Outcome Unit) : Decided stage (.swapPrograms a b) (.ok outcome) := by
      refine .granted fun check error objection => ?_
      have late := passed check error objection
      cases objection with
      | partner missing =>
        rw [actor?_eq_none.mpr missing] at foundPartner
        cases foundPartner
      | index addressed asked => cases asked
      | _ => exact absurd late (by decide)
    cases tradeIn? stage.actors stage.timers a b with
    | none => exact granted _
    | some traded => exact granted _

/-- A program is validated command by command. -/
theorem validated_or (stage : Stage) (program : List Command) :
    ((program.forM fun command => stage.check command.validate) = .ok () ∧
      ∀ command ∈ program, command.isFlat = true) ∨
    (program.forM fun command => stage.check command.validate) = stage.refuse .nestedRepeat ∧
      ∃ command ∈ program, command.NestsRepeat := by
  induction program with
  | nil => exact .inl ⟨rfl, by simp⟩
  | cons command rest ih =>
    have step : ((command :: rest).forM fun command => stage.check command.validate) =
        stage.check command.validate >>= fun _ => rest.forM fun command => stage.check command.validate := rfl
    rw [step]
    cases flat : command.isFlat with
    | false =>
      have refused : command.validate = .error .nestedRepeat := by simp [Command.validate, flat]
      rw [refused]
      exact .inr ⟨rfl, command, List.mem_cons_self, Command.isFlat_eq_false_iff.mp flat⟩
    | true =>
      rw [Command.validate_eq_ok_iff.mpr flat]
      rcases ih with ⟨validated, others⟩ | ⟨refused, other, member, nested⟩
      · exact .inl ⟨validated, List.forall_mem_cons.mpr ⟨flat, others⟩⟩
      · exact .inr ⟨refused, other, List.mem_cons_of_mem _ member, nested⟩

theorem decided_insertActor (steady : Steady stage) (actor : Actor) :
    Decided stage (.insertActor actor) (stage.insertActor actor) := by
  have start : PassedBefore stage (.insertActor actor) Check.identifier.rank := fun _ _ _ => Nat.zero_le _
  unfold insertActor
  cases found : stage.actor? actor.id with
  | some other =>
    exact .refused (start.first (.identifier (List.mem_of_find?_eq_some found) (actor?_id found)))
  | none =>
    have passed : PassedBefore stage (.insertActor actor) Check.nesting.rank := by
      refine start.next fun error objection => ?_
      cases objection with
      | identifier stands taken => exact actor?_eq_none.mp found _ stands taken
    rcases validated_or stage actor.program with ⟨validated, flat⟩ | ⟨refused, command, member, nested⟩
    · obtain ⟨outcome, placed⟩ := place_ok steady.ordered actor
      rw [validated, placed]
      refine .granted fun check error objection => ?_
      have late := passed check error objection
      cases objection with
      | identifier => exact absurd late (by decide)
      | nesting given nested =>
        exact Command.not_nestsRepeat (flat _ given) nested
      | actor addressed => cases addressed
      | index addressed => cases addressed
    · rw [refused]
      exact .refused (passed.first (.nesting member nested))

/-! ### Every request -/

/-- The answer to a decided request: the error of the first failed check, the stage as it was and no
word to observers, or what was asked for. -/
structure Settles (stage : Stage) (operation : Operation) (outcome : Outcome Response) : Prop where
  refused : ∀ error, outcome.value = .refused error ↔ FirstObjection stage operation error
  unmoved : ∀ error, outcome.value = .refused error → outcome.stage = stage ∧ outcome.notices = []
  granted : (∀ error, outcome.value ≠ .refused error) →
    ∀ check error, ¬ Objection stage operation check error

theorem settles_of_decided {respond : α → Response} {attempt : Attempt (Outcome α)}
    (grants : ∀ value error, respond value ≠ .refused error) (spares : stage.Spares attempt)
    (decided : Decided stage operation attempt) :
    ∃ outcome, answer respond attempt = .ok outcome ∧ Settles stage operation outcome := by
  cases decided with
  | @refused refusal first =>
    refine ⟨_, rfl, fun other => ⟨?_, ?_⟩, fun _ _ => spares refusal rfl,
      fun granted => absurd rfl (granted refusal.value)⟩
    · rintro ⟨⟩
      exact first
    · intro another
      rw [another.unique first]
      rfl
  | @granted outcome passed =>
    refine ⟨_, rfl, fun error => ⟨fun refused => absurd refused (grants _ error), ?_⟩,
      fun error refused => absurd refused (grants _ error), fun _ => passed⟩
    rintro ⟨check, objection, -⟩
    exact absurd objection (passed check error)

theorem settles_request (steady : Steady stage) (request : operation.isRequest = true) :
    ∃ outcome, stage.perform operation = .ok outcome ∧ Settles stage operation outcome := by
  cases operation with
  | insertActor actor =>
    exact settles_of_decided (by simp) (spares_insertActor stage actor) (decided_insertActor steady actor)
  | removeActor id =>
    exact settles_of_decided (by simp) (spares_removeActor stage id)
      (decided_plain rfl rfl (by simp) rfl fun _ _ => ⟨_, rfl⟩)
  | setActive id =>
    exact settles_of_decided (by simp) (spares_setActive stage id)
      (decided_plain rfl rfl (by simp) rfl fun _ _ => ⟨_, rfl⟩)
  | rename id name =>
    exact settles_of_decided (by simp) (spares_rename stage id name)
      (decided_plain rfl rfl (by simp) rfl fun _ _ => ⟨_, rfl⟩)
  | setPosition id x y =>
    exact settles_of_decided (by simp) (spares_setPosition stage id x y) (decided_setPosition steady id x y)
  | setHeading id degrees =>
    exact settles_of_decided (by simp) (spares_setHeading stage id degrees)
      (decided_plain rfl rfl (by simp) rfl fun _ _ => ⟨_, rfl⟩)
  | append id command =>
    exact settles_of_decided (by simp) (spares_append stage id command) (decided_append stage id command)
  | patchCommand id index patch =>
    exact settles_of_decided (by simp) (spares_patchCommand stage id index patch)
      (decided_patchCommand stage id index patch)
  | removeCommand id index =>
    exact settles_of_decided (by simp) (spares_removeCommand stage id index)
      (decided_removeCommand stage id index)
  | swapPrograms a b =>
    exact settles_of_decided (by simp) (spares_swapPrograms stage a b) (decided_swapPrograms stage a b)
  | executeImmediate id command =>
    exact settles_of_decided (by simp) (spares_executeImmediate stage id command)
      (decided_executeImmediate steady id command)
  | _ => cases request

/-- Every request to a reachable stage is answered and never breaks down. It is refused exactly if
something is wrong with it, and with the error of the first check that finds it out. A refused request
leaves the whole stage as it was, and no observer is told of it. -/
theorem refused_iff_objection {config : Config} (reachable : Reachable config stage)
    (request : operation.isRequest = true) :
    ∃ outcome, stage.perform operation = .ok outcome ∧
      (∀ error, outcome.value = .refused error ↔ FirstObjection stage operation error) ∧
      ((∃ error, outcome.value = .refused error) ↔
        ∃ check error, Objection stage operation check error) ∧
      ((∃ error, outcome.value = .refused error) → outcome.stage = stage ∧ outcome.notices = [] ∧
        stage.deliveries outcome.notices = []) := by
  obtain ⟨outcome, performed, settles⟩ := settles_request (steady_of_reachable reachable) request
  refine ⟨outcome, performed, settles.refused, ⟨?_, ?_⟩, ?_⟩
  · rintro ⟨error, refused⟩
    obtain ⟨check, objection, -⟩ := (settles.refused error).mp refused
    exact ⟨check, error, objection⟩
  · rintro ⟨check, error, objection⟩
    by_contra granted
    rw [not_exists] at granted
    exact settles.granted granted check error objection
  · rintro ⟨error, refused⟩
    obtain ⟨unmoved, silent⟩ := settles.unmoved error refused
    refine ⟨unmoved, silent, ?_⟩
    rw [silent]
    rfl

/-- While its program runs, an actor is to be inserted again, with a nested repeat: the identifier is
checked first, and the one on the stage goes on undisturbed. -/
theorem refused_iff_objection_taken :
    let cat : ActorId := ⟨1, by decide⟩
    let again : Operation :=
      .insertActor { id := cat, name := "Cat", program := [.repeatTimes 2 [.repeatTimes 2 [.turn 1]]] }
    ∃ stage outcome, Reachable {} stage ∧ again.isRequest = true ∧ stage.isScheduled cat = true ∧
      stage.perform again = .ok outcome ∧ outcome.value = .refused (.duplicateActor cat) ∧
      outcome.stage = stage ∧ outcome.notices = [] := by
  intro cat again
  obtain ⟨stage, reachable, passes⟩ := exists_reachable {}
    [ .insertActor { id := cat, name := "Cat", program := [.turn 10, .bubble .speech "Hello" (some 1)] },
      .subscribe, .play, .tick ]
    (fun stage => (stage.actor? cat).isSome && stage.isScheduled cat)
    rfl (by simp [Operation.hasRoom]) (by decide +kernel)
  simp only [Bool.and_eq_true] at passes
  obtain ⟨stands, scheduled⟩ := passes
  obtain ⟨actor, found⟩ := Option.isSome_iff_exists.mp stands
  obtain ⟨outcome, performed, refusedIff, -, unmoved⟩ :=
    refused_iff_objection reachable.reachable (show again.isRequest = true from rfl)
  have first : FirstObjection stage again (.duplicateActor cat) :=
    ⟨.identifier, .identifier (List.mem_of_find?_eq_some found) (actor?_id found),
      fun _ _ _ => Nat.zero_le _⟩
  have refused := (refusedIff _).mpr first
  obtain ⟨same, silent, -⟩ := unmoved ⟨_, refused⟩
  exact ⟨stage, outcome, reachable.reachable, rfl, scheduled, performed, refused, same, silent⟩

end Stage

end SpriteStage
