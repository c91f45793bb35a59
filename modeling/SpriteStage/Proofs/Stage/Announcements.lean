import Mathlib.Data.List.Forall2
import SpriteStage.Proofs.Stage.Acts

/-!
# What observers are told of the actors

An event covers an actor if it says that what a view shows of the actor may have changed. Every act
that changes what is shown comes with an event that covers the actor (`accounted_of_act`), and so
does every operation but one. Main statement: `silent_iff_idle_stop`. Stopping while idle takes away
the bubbles that were left over, and nobody is told.
-/

namespace SpriteStage

/-- A view shows the same of an actor before and after. -/
structure Actor.ShownAlike (before after : Actor) : Prop where
  name : after.name = before.name
  x : after.x = before.x
  y : after.y = before.y
  heading : after.heading = before.heading
  program : after.program = before.program
  bubble : after.bubble = before.bubble

/-- Whether an event says that an actor may be shown differently: it names the actor, or it announces
that everyone was rewound. -/
def StageEvent.covers (event : StageEvent) (id : ActorId) : Bool :=
  match event with
  | .actorUpdated other | .bubbleCleared other _ => other = id
  | .programsSwapped pair => pair.involves id
  | .playbackStarted | .playbackStopped _ => true
  | .actorAdded _ | .actorRemoved _ => false

namespace Actor

variable {before between after : Actor} {events more : List StageEvent}

theorem ShownAlike.refl (actor : Actor) : actor.ShownAlike actor := ⟨rfl, rfl, rfl, rfl, rfl, rfl⟩

theorem ShownAlike.trans (early : before.ShownAlike between) (late : between.ShownAlike after) :
    before.ShownAlike after :=
  ⟨late.name.trans early.name, late.x.trans early.x, late.y.trans early.y,
    late.heading.trans early.heading, late.program.trans early.program,
    late.bubble.trans early.bubble⟩

/-- The actor is shown as before, or one of the events covers it. -/
structure Accounted (events : List StageEvent) (before after : Actor) : Prop where
  same : after.id = before.id
  shown : before.ShownAlike after ∨ ∃ event ∈ events, event.covers before.id = true

theorem Accounted.refl (events : List StageEvent) (actor : Actor) : Accounted events actor actor :=
  ⟨rfl, .inl (.refl actor)⟩

theorem Accounted.covered {event : StageEvent} (same : after.id = before.id)
    (covers : event.covers before.id = true) : Accounted [event] before after :=
  ⟨same, .inr ⟨event, List.mem_singleton_self event, covers⟩⟩

theorem Accounted.mono (accounted : Accounted events before after) (fewer : events ⊆ more) :
    Accounted more before after :=
  ⟨accounted.same, accounted.shown.imp_right fun ⟨event, member, covers⟩ =>
    ⟨event, fewer member, covers⟩⟩

theorem Accounted.trans (early : Accounted events before between)
    (late : Accounted events between after) : Accounted events before after := by
  refine ⟨late.same.trans early.same, ?_⟩
  rcases early.shown with alike | covered
  · rcases late.shown with alikeLate | ⟨event, member, covers⟩
    · exact .inl (alike.trans alikeLate)
    · exact .inr ⟨event, member, early.same ▸ covers⟩
  · exact .inr covered

end Actor

namespace Stage

/-- Everyone stays in place and is accounted for. -/
abbrev Accounted (events : List StageEvent) : List Actor → List Actor → Prop :=
  List.Forall₂ (Actor.Accounted events)

variable {stage after : Stage} {actor moved : Actor} {events more : List StageEvent} {id : ActorId}
  {actors between later : List Actor}

theorem accounted_refl (events : List StageEvent) (actors : List Actor) :
    Accounted events actors actors :=
  List.forall₂_same.mpr fun actor _ => .refl events actor

theorem accounted_again (early : Accounted events actors between)
    (late : Accounted events between later) : Accounted events actors later := by
  induction early generalizing later with
  | nil => exact late
  | cons first _ ih =>
    cases late with
    | cons next rest => exact .cons (first.trans next) (ih rest)

theorem accounted_mono (fewer : events ⊆ more) (accounted : Accounted events actors later) :
    Accounted more actors later :=
  accounted.imp fun _ _ accounted => accounted.mono fewer

theorem accounted_trans (early : Accounted events actors between) (late : Accounted more between later) :
    Accounted (events ++ more) actors later :=
  accounted_again (accounted_mono (List.subset_append_left events more) early)
    (accounted_mono (List.subset_append_right events more) late)

/-- Replacing one actor needs an account of that actor only. -/
theorem accounted_set {i : Nat} (here : actors[i]? = some actor)
    (accounted : Actor.Accounted events actor moved) : Accounted events actors (actors.set i moved) := by
  induction actors generalizing i with
  | nil => cases here
  | cons head rest ih =>
    cases i with
    | zero =>
      cases here
      exact .cons accounted (accounted_refl events rest)
    | succ i => exact .cons (.refl events head) (ih here)

theorem accounted_traded {i j : Nat} {first second given taken : Actor} (apart : i ≠ j)
    (here : actors[i]? = some first) (there : actors[j]? = some second) (sameFirst : given.id = first.id)
    (sameSecond : taken.id = second.id) :
    Accounted [.programsSwapped (.of first.id second.id)] actors ((actors.set i given).set j taken) := by
  have coversFirst : (ActorPair.of first.id second.id).involves first.id = true :=
    ActorPair.involves_of.mpr (.inl rfl)
  have coversSecond : (ActorPair.of first.id second.id).involves second.id = true :=
    ActorPair.involves_of.mpr (.inr rfl)
  have still : (actors.set i given)[j]? = some second := by rwa [List.getElem?_set_ne apart]
  exact accounted_again (accounted_set here (.covered sameFirst coversFirst))
    (accounted_set still (.covered sameSecond coversSecond))

/-- An act accounts for everyone. -/
theorem accounted_of_act (act : Act stage events after) :
    Accounted events stage.actors after.actors := by
  cases act with
  | updated timers here same edited => exact accounted_set here (.covered same (by simp [StageEvent.covers]))
  | stepped here scheduled advanced =>
    exact accounted_set here (.covered (Actor.advance_frame advanced).1 (by simp [StageEvent.covers]))
  | cleared kind here => exact accounted_set here (.covered rfl (by simp [StageEvent.covers]))
  | traded timers apart here there => exact accounted_traded apart here there rfl rfl
  | retired here => exact accounted_set here ⟨rfl, .inl ⟨rfl, rfl, rfl, rfl, rfl, rfl⟩⟩
  | started next =>
    exact List.forall₂_map_right_iff.mpr (List.forall₂_same.mpr fun actor _ => .covered rfl rfl)
  | _ => exact accounted_refl _ _

theorem accounted_of_acts (acts : Acts stage events after) :
    Accounted events stage.actors after.actors := by
  induction acts with
  | nothing => exact accounted_refl _ _
  | next act _ ih => exact accounted_trans (accounted_of_act act) ih

/-! ### Who goes by an identifier -/

/-- Whoever goes by an identifier still does, and is accounted for. -/
theorem Accounted.find? (accounted : Accounted events actors later)
    (found : actors.find? (·.id == id) = some actor) :
    ∃ moved, later.find? (·.id == id) = some moved ∧ Actor.Accounted events actor moved := by
  induction accounted with
  | nil => cases found
  | @cons before after rest restLater first _ ih =>
    rw [List.find?_cons] at found ⊢
    rw [first.same]
    split at found
    · cases found
      exact ⟨after, rfl, first⟩
    · exact ih found

theorem actor?_stop (stage : Stage) (id : ActorId) :
    stage.stop.stage.actor? id = (stage.actor? id).map Actor.rewound :=
  List.find?_map

theorem find?_eraseP_of_ne {actors : List Actor} {gone : ActorId} (other : gone ≠ id) :
    (actors.eraseP (·.id == gone)).find? (·.id == id) = actors.find? (·.id == id) := by
  induction actors with
  | nil => rfl
  | cons head rest ih =>
    by_cases leaves : head.id = gone
    · simp [leaves, other]
    · simp [leaves, List.find?_cons, ih]

/-- Whoever does not leave stays, and is accounted for unless playback was stopped while idle. -/
theorem accounted_of_course {operation : Operation} (course : stage.Course operation events after)
    (found : stage.actor? id = some actor) (stays : operation ≠ .removeActor id) :
    ∃ later, after.actor? id = some later ∧
      (Actor.Accounted events actor later ∨
        operation = .stop ∧ stage.isRunning = false ∧ later = actor.rewound) := by
  cases course with
  | acts acts =>
    obtain ⟨later, foundLater, accounted⟩ := (accounted_of_acts acts).find? found
    exact ⟨later, foundLater, .inl accounted⟩
  | arrived arrival active rewound =>
    refine ⟨actor, ?_, .inl (.refl _ actor)⟩
    show (stage.actors ++ [arrival]).find? (·.id == id) = some actor
    rw [List.find?_append, show stage.actors.find? (·.id == id) = some actor from found]
    rfl
  | @departed gone events after active acts =>
    have other : gone ≠ id := fun same => stays (same ▸ rfl)
    have remains : (stage.actors.eraseP (·.id == gone)).find? (·.id == id) = some actor :=
      (find?_eraseP_of_ne other).trans found
    obtain ⟨later, foundLater, accounted⟩ := (accounted_of_acts acts).find? remains
    exact ⟨later, foundLater, .inl (accounted.mono (List.subset_cons_self _ _))⟩
  | stopped =>
    have rewound : stage.stop.stage.actor? id = some actor.rewound := by rw [actor?_stop, found]; rfl
    refine ⟨actor.rewound, rewound, ?_⟩
    cases running : stage.isRunning with
    | false => exact .inr ⟨rfl, rfl, rfl⟩
    | true =>
      refine .inl ⟨rfl, .inr ⟨.playbackStopped .requested, ?_, rfl⟩⟩
      simp [stop, running]

/-! ### Observers -/

theorem delivered {notices : List Notice} {event : StageEvent} {observer : Nat}
    (observing : observer ∈ stage.observers) (member : event ∈ told notices) :
    ∃ notice, (observer, notice) ∈ stage.deliveries notices ∧ notice.event = event := by
  obtain ⟨notice, among, rfl⟩ := List.mem_map.mp member
  exact ⟨notice, List.mem_flatMap.mpr ⟨notice, among, List.mem_map_of_mem observing⟩, rfl⟩

/-- Stopping while idle tells nobody anything. -/
theorem notices_idle_stop (idle : stage.isRunning = false) : stage.stop.notices = [] := by
  simp [stop, outcome, idle]

/-- An operation changes what a view shows of an actor that stays, without telling an observer, in
exactly one case: it stops playback while idle, and the actor shows a bubble. -/
theorem silent_iff_idle_stop {config : Config} {operation : Operation} {outcome : Outcome Response}
    {observer : Nat} (reachable : Reachable config stage)
    (performed : stage.perform operation = .ok outcome) (observing : observer ∈ stage.observers)
    (found : stage.actor? id = some actor) (stays : operation ≠ .removeActor id) :
    ∃ later, outcome.stage.actor? id = some later ∧
      ((¬ actor.ShownAlike later ∧ ∀ notice, (observer, notice) ∈ stage.deliveries outcome.notices →
          notice.event.covers id = false) ↔
        operation = .stop ∧ stage.isRunning = false ∧ actor.bubble ≠ none) := by
  obtain ⟨later, foundLater, account⟩ :=
    accounted_of_course (reachable.course performed) found stays
  refine ⟨later, foundLater, ?_, ?_⟩
  · rintro ⟨changed, silent⟩
    rcases account with ⟨-, alike | ⟨event, member, covers⟩⟩ | ⟨rfl, idle, rfl⟩
    · exact absurd alike changed
    · obtain ⟨notice, delivery, rfl⟩ := delivered observing member
      rw [actor?_id found, silent notice delivery] at covers
      cases covers
    · refine ⟨rfl, idle, fun bare => changed ⟨rfl, rfl, rfl, rfl, rfl, ?_⟩⟩
      exact bare.symm
  · rintro ⟨rfl, idle, bubble⟩
    cases performed
    have rewound : later = actor.rewound := by
      have foundLater : stage.stop.stage.actor? id = some later := foundLater
      rw [actor?_stop, found] at foundLater
      exact (Option.some.inj foundLater).symm
    refine ⟨fun alike => bubble ?_, fun notice delivery => ?_⟩
    · rw [← alike.bubble, rewound]
      rfl
    · have nothing : (stage.stop.respond fun _ => Response.done).notices = [] := notices_idle_stop idle
      rw [nothing] at delivery
      cases delivery

/-- A bubble that clears after its second is announced while time goes on. -/
theorem silent_iff_idle_stop_speech :
    ∃ stage outcome actor later, Reachable {} stage ∧ 1 ∈ stage.observers ∧
      stage.perform (.advanceTime (.ofMillis 1000)) = .ok outcome ∧
      stage.actor? ⟨7, by decide⟩ = some actor ∧ outcome.stage.actor? ⟨7, by decide⟩ = some later ∧
      actor.speech = "Hello" ∧ later.speech = "" ∧
      ∃ notice, (1, notice) ∈ stage.deliveries outcome.notices ∧
        notice.event.covers ⟨7, by decide⟩ = true := by
  let cat : ActorId := ⟨7, by decide⟩
  obtain ⟨stage, reachable, passes⟩ := exists_reachable {}
    [ .subscribe, .insertActor { id := cat, name := "Cat" },
      .executeImmediate cat (.bubble .speech "Hello" (some 1)) ]
    (fun stage => stage.observers = [1] &&
      (stage.actor? cat).any (fun actor => actor.speech = "Hello") &&
      (stage.perform (.advanceTime (.ofMillis 1000))).toOption.any fun outcome =>
        (outcome.stage.actor? cat).any fun later => later.speech = "")
    rfl (by simp [Operation.hasRoom]) (by decide +kernel)
  simp only [Bool.and_eq_true, decide_eq_true_eq] at passes
  obtain ⟨⟨observers, spokeBefore⟩, spokeAfter⟩ := passes
  have observing : 1 ∈ stage.observers := by simp [observers]
  obtain ⟨actor, found, before⟩ := (Option.any_eq_true _ _).mp spokeBefore
  obtain ⟨outcome, performed, silent⟩ := exists_outcome spokeAfter
  obtain ⟨later, foundLater, account⟩ :=
    silent_iff_idle_stop reachable.reachable performed observing found (by simp)
  obtain ⟨other, foundOther, after⟩ := (Option.any_eq_true _ _).mp silent
  rw [foundLater, Option.some.injEq] at foundOther
  subst foundOther
  have spoke := of_decide_eq_true before
  have hushed := of_decide_eq_true after
  refine ⟨stage, outcome, actor, later, reachable.reachable, observing, performed, found, foundLater,
    spoke, hushed, ?_⟩
  have changed : ¬ actor.ShownAlike later := by
    intro alike
    have same : later.speech = actor.speech := by rw [Actor.speech, Actor.bubbleText, alike.bubble]; rfl
    rw [spoke, hushed] at same
    exact absurd same (by decide)
  by_contra untold
  refine absurd (account.mp ⟨changed, fun notice delivery => ?_⟩).1 (by simp)
  exact Bool.eq_false_iff.mpr fun covers => untold ⟨notice, delivery, covers⟩

/-- Stopping while idle takes a bubble out of the view of an observer, who is told nothing. -/
theorem idle_stop_hides_speech :
    ∃ stage outcome actor later, Reachable {} stage ∧ 1 ∈ stage.observers ∧
      stage.perform .stop = .ok outcome ∧ stage.actor? ⟨1, by decide⟩ = some actor ∧
      outcome.stage.actor? ⟨1, by decide⟩ = some later ∧ actor.speech = "Hello" ∧ later.speech = "" ∧
      stage.deliveries outcome.notices = [] := by
  let cat : ActorId := ⟨1, by decide⟩
  obtain ⟨stage, reachable, passes⟩ := exists_reachable {}
    [ .subscribe, .insertActor { id := cat, name := "Cat" },
      .executeImmediate cat (.bubble .speech "Hello" none) ]
    (fun stage => stage.observers = [1] && !stage.isRunning &&
      (stage.actor? cat).any fun actor => actor.speech = "Hello")
    rfl (by simp [Operation.hasRoom]) (by decide +kernel)
  simp only [Bool.and_eq_true, Bool.not_eq_true', decide_eq_true_eq] at passes
  obtain ⟨⟨observers, idle⟩, speaks⟩ := passes
  obtain ⟨actor, found, spoke⟩ := (Option.any_eq_true _ _).mp speaks
  have rewound : stage.stop.stage.actor? cat = some actor.rewound := by rw [actor?_stop, found]; rfl
  refine ⟨stage, stage.stop.respond fun _ => .done, actor, actor.rewound, reachable.reachable,
    by simp [observers], rfl, found, rewound, of_decide_eq_true spoke, rfl, ?_⟩
  have nothing : (stage.stop.respond fun _ => Response.done).notices = [] := notices_idle_stop idle
  rw [nothing]
  rfl

end Stage

end SpriteStage
