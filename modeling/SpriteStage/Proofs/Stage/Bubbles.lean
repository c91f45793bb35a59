import Mathlib.Data.List.Nodup
import SpriteStage.Proofs.Stage.Changes

/-!
# Bubbles and their timers

An armed timer and the bubble it clears know each other: the bubble by the handle, the timer by the
identifier of the actor. Every change keeps the two in step (`tidy_of_change`), whichever way it
disarms timers: one by one, all of an actor, all at once, or by letting the first one go off. Main
statement: `bubbles_match_timers`.
-/

namespace SpriteStage

/-- The actor shows a bubble that knows this timer. -/
def Actor.Owns (actor : Actor) (timer : BubbleTimer) : Prop :=
  actor.id = timer.actor ∧
    ∃ bubble, actor.bubble = some bubble ∧ bubble.kind = timer.kind ∧ bubble.timer = some timer.handle

theorem Actor.Owns.bubbleTimer {actor : Actor} {timer : BubbleTimer} (owns : actor.Owns timer) :
    actor.bubbleTimer = some timer.handle := by
  obtain ⟨-, bubble, shown, -, handle⟩ := owns
  simp [Actor.bubbleTimer, shown, handle]

namespace Stage

/-- Bubbles and armed timers are in step, and no timer is overdue. -/
structure Tidy (stage : Stage) : Prop where
  distinct : (stage.actors.map (·.id)).Nodup
  owned : ∀ timer ∈ stage.timers.pending, ∃ actor ∈ stage.actors, actor.Owns timer
  armed : ∀ actor ∈ stage.actors, ∀ handle, actor.bubbleTimer = some handle →
    ∃ timer ∈ stage.timers.pending, timer.handle = handle ∧ timer.actor = actor.id
  handles : ∀ first ∈ stage.timers.pending, ∀ second ∈ stage.timers.pending,
    first.handle = second.handle → first = second
  notPast : ∀ timer ∈ stage.timers.pending, stage.now ≤ timer.deadline

variable {stage after : Stage} {actor moved : Actor} {i : Nat}

/-! ### Actors under different identifiers -/

theorem eq_of_same_id (tidy : Tidy stage) {first second : Actor} (firstIn : first ∈ stage.actors)
    (secondIn : second ∈ stage.actors) (same : first.id = second.id) : first = second :=
  List.inj_on_of_nodup_map tidy.distinct firstIn secondIn same

theorem mem_set_of_distinct {actors : List Actor} (distinct : (actors.map (·.id)).Nodup)
    (here : actors[i]? = some actor) (moved other : Actor) :
    other ∈ actors.set i moved ↔ other = moved ∨ other ∈ actors ∧ other.id ≠ actor.id := by
  induction actors generalizing i with
  | nil => simp at here
  | cons head rest ih =>
    rw [List.map_cons, List.nodup_cons] at distinct
    cases i with
    | zero =>
      cases here
      have apart : ∀ other ∈ rest, other.id ≠ actor.id := fun other member equal =>
        distinct.1 (equal ▸ List.mem_map_of_mem member)
      simp only [List.set_cons_zero, List.mem_cons]
      grind
    | succ i =>
      have among := ih distinct.2 here
      have headApart : head.id ≠ actor.id := fun equal =>
        distinct.1 (equal ▸ List.mem_map_of_mem (List.mem_of_getElem? here))
      simp only [List.set_cons_succ, List.mem_cons]
      grind

theorem actor?_of_distinct (distinct : (stage.actors.map (·.id)).Nodup) (member : actor ∈ stage.actors) :
    stage.actor? actor.id = some actor := by
  cases found : stage.actor? actor.id with
  | none => exact absurd rfl (actor?_eq_none.mp found actor member)
  | some other =>
    have stands := List.mem_of_find?_eq_some found
    rw [List.inj_on_of_nodup_map distinct stands member (actor?_id found)]

theorem actor?_eq_some (tidy : Tidy stage) (member : actor ∈ stage.actors) :
    stage.actor? actor.id = some actor :=
  actor?_of_distinct tidy.distinct member

/-! ### The timers of one actor -/

/-- Disarming the timer of the actor's bubble disarms what is armed for the actor, nothing else. -/
theorem mem_cancel_bubble (tidy : Tidy stage) (member : actor ∈ stage.actors) {timer : BubbleTimer} :
    timer ∈ (stage.timers.cancel? actor.bubbleTimer).pending ↔
      timer ∈ stage.timers.pending ∧ timer.actor ≠ actor.id := by
  rw [TimerQueue.mem_cancel?]
  constructor
  · rintro ⟨pending, other⟩
    refine ⟨pending, fun same => other ?_⟩
    obtain ⟨owner, stands, owns⟩ := tidy.owned timer pending
    rw [eq_of_same_id tidy member stands (same.symm.trans owns.1.symm)]
    exact owns.bubbleTimer
  · rintro ⟨pending, other⟩
    refine ⟨pending, fun same => other ?_⟩
    obtain ⟨own, ownPending, handle, ownActor⟩ := tidy.armed actor member timer.handle same
    rw [tidy.handles timer pending own ownPending handle.symm]
    exact ownActor

/-- Replacing an actor keeps a stage tidy if the timers of the others stay and those of the actor
fit its bubble. -/
theorem tidy_put (tidy : Tidy stage) {timers : TimerQueue} (here : stage.actors[i]? = some actor)
    (same : moved.id = actor.id)
    (others : ∀ timer, timer.actor ≠ actor.id →
      (timer ∈ timers.pending ↔ timer ∈ stage.timers.pending))
    (owned : ∀ timer ∈ timers.pending, timer.actor = actor.id → moved.Owns timer)
    (armed : ∀ handle, moved.bubbleTimer = some handle →
      ∃ timer ∈ timers.pending, timer.handle = handle ∧ timer.actor = actor.id)
    (handles : ∀ first ∈ timers.pending, ∀ second ∈ timers.pending,
      first.handle = second.handle → first = second)
    (notPast : ∀ timer ∈ timers.pending, stage.now ≤ timer.deadline) :
    Tidy (stage.put i moved timers) := by
  have cast : (stage.actors.set i moved).map (·.id) = stage.actors.map (·.id) :=
    map_set_same here same
  have mem {other : Actor} := mem_set_of_distinct tidy.distinct here moved other
  refine ⟨?_, ?_, ?_, handles, notPast⟩
  · show ((stage.actors.set i moved).map (·.id)).Nodup
    rw [cast]
    exact tidy.distinct
  · intro timer pending
    by_cases own : timer.actor = actor.id
    · exact ⟨moved, mem.mpr (.inl rfl), owned timer pending own⟩
    · obtain ⟨owner, stands, owns⟩ := tidy.owned timer ((others timer own).mp pending)
      exact ⟨owner, mem.mpr (.inr ⟨stands, fun equal => own (owns.1 ▸ equal)⟩), owns⟩
  · intro other member handle held
    rcases mem.mp member with rfl | ⟨stands, apart⟩
    · rw [same]
      exact armed handle held
    · obtain ⟨timer, pending, is, owner⟩ := tidy.armed other stands handle held
      exact ⟨timer, (others timer (by rw [owner]; exact apart)).mpr pending, is, owner⟩

/-- Replacing an actor by one with the same bubble keeps a stage tidy. -/
theorem tidy_put_same_bubble (tidy : Tidy stage) (here : stage.actors[i]? = some actor)
    (same : moved.id = actor.id) (bubble : moved.bubble = actor.bubble) :
    Tidy (stage.put i moved stage.timers) := by
  have member := List.mem_of_getElem? here
  refine tidy_put tidy here same (fun _ _ => Iff.rfl) ?_ ?_ tidy.handles tidy.notPast
  · intro timer pending own
    obtain ⟨owner, stands, owns⟩ := tidy.owned timer pending
    rw [eq_of_same_id tidy stands member (owns.1.trans own)] at owns
    unfold Actor.Owns
    rw [same, bubble]
    exact owns
  · intro handle held
    rw [Actor.bubbleTimer, bubble] at held
    exact tidy.armed actor member handle held

/-- Disarming the timer of an actor's bubble and showing no bubble that has one keeps a stage
tidy. -/
theorem tidy_put_disarmed (tidy : Tidy stage) (here : stage.actors[i]? = some actor)
    (same : moved.id = actor.id) (bare : moved.bubbleTimer = none) :
    Tidy (stage.put i moved (stage.timers.cancel? actor.bubbleTimer)) := by
  have mem {timer : BubbleTimer} :
      timer ∈ (stage.timers.cancel? actor.bubbleTimer).pending ↔
        timer ∈ stage.timers.pending ∧ timer.actor ≠ actor.id :=
    mem_cancel_bubble tidy (List.mem_of_getElem? here)
  refine tidy_put tidy here same ?_ ?_ ?_ ?_ ?_
  · intro timer other
    rw [mem]
    exact and_iff_left other
  · intro timer pending own
    exact absurd own (mem.mp pending).2
  · intro handle held
    rw [bare] at held
    cases held
  · intro first firstIn second secondIn
    exact tidy.handles first (mem.mp firstIn).1 second (mem.mp secondIn).1
  · intro timer pending
    exact tidy.notPast timer (mem.mp pending).1

/-- Showing a bubble whose timer was just armed keeps a stage tidy. -/
theorem tidy_put_armed (tidy : Tidy stage) (here : stage.actors[i]? = some actor) {kind : BubbleKind}
    {text : String} {deadline : Duration} (later : stage.now ≤ deadline) :
    Tidy (stage.put i { actor with bubble := some ⟨kind, text, some (stage.timers.issued + 1)⟩ }
      ((stage.timers.cancel? actor.bubbleTimer).arm actor.id kind deadline).2) := by
  have mem {timer : BubbleTimer} :
      timer ∈ ((stage.timers.cancel? actor.bubbleTimer).arm actor.id kind deadline).2.pending ↔
        timer = ⟨stage.timers.issued + 1, deadline, actor.id, kind⟩ ∨
          timer ∈ stage.timers.pending ∧ timer.actor ≠ actor.id := by
    rw [TimerQueue.mem_arm, mem_cancel_bubble tidy (List.mem_of_getElem? here),
      TimerQueue.issued_cancel?]
  have fresh : ∀ timer ∈ stage.timers.pending, timer.handle ≠ stage.timers.issued + 1 := by
    intro timer pending
    have := stage.timers.handle_le timer pending
    omega
  refine tidy_put tidy here rfl ?_ ?_ ?_ ?_ ?_
  · intro timer other
    rw [mem]
    constructor
    · rintro (rfl | ⟨pending, -⟩)
      · exact absurd rfl other
      · exact pending
    · exact fun pending => .inr ⟨pending, other⟩
  · intro timer pending own
    rcases mem.mp pending with rfl | ⟨-, other⟩
    · exact ⟨rfl, _, rfl, rfl, rfl⟩
    · exact absurd own other
  · intro handle held
    cases held
    exact ⟨_, mem.mpr (.inl rfl), rfl, rfl⟩
  · intro first firstIn second secondIn same
    rcases mem.mp firstIn with rfl | ⟨firstIn, -⟩
    · rcases mem.mp secondIn with rfl | ⟨secondIn, -⟩
      · rfl
      · exact absurd same.symm (fresh second secondIn)
    · rcases mem.mp secondIn with rfl | ⟨secondIn, -⟩
      · exact absurd same (fresh first firstIn)
      · exact tidy.handles first firstIn second secondIn same
  · intro timer pending
    rcases mem.mp pending with rfl | ⟨pending, -⟩
    · exact later
    · exact tidy.notPast timer pending

/-! ### Every change keeps a stage tidy -/

theorem tidy_of_touch (touch : Touch stage after) (tidy : Tidy stage) : Tidy after := by
  cases touch with
  | control => exact ⟨tidy.distinct, tidy.owned, tidy.armed, tidy.handles, tidy.notPast⟩
  | posed here posed => exact tidy_put_same_bubble tidy here (by rw [posed.frame]) (by rw [posed.frame])
  | edited name program cursor here flat => exact tidy_put_same_bubble tidy here rfl rfl
  | @exchanged i j first second apart here there =>
    -- Programs are given one actor at a time; neither bubble changes.
    have given : Tidy (stage.put i { first with program := second.program } stage.timers) :=
      tidy_put_same_bubble tidy here rfl rfl
    have still : (stage.put i { first with program := second.program } stage.timers).actors[j]? =
        some second := by simpa [put, apart] using there
    exact tidy_put_same_bubble given still rfl rfl
  | shown kind text here => exact tidy_put_disarmed tidy here rfl rfl
  | armed kind text here later => exact tidy_put_armed tidy here later
  | hushed here => exact tidy_put_disarmed tidy here rfl rfl
  | silenced bare =>
    refine ⟨tidy.distinct, ?_, ?_, ?_, ?_⟩
    · intro timer pending
      simp at pending
    · intro actor member handle held
      rw [Actor.bubbleTimer, bare actor member] at held
      cases held
    · intro first firstIn
      simp at firstIn
    · intro timer pending
      simp at pending

theorem tidy_arrived (tidy : Tidy stage) (fresh : ∀ other ∈ stage.actors, other.id ≠ actor.id)
    (bare : actor.bubble = none) (active : Option ActorId) :
    Tidy { stage with actors := stage.actors ++ [actor], active } := by
  refine ⟨?_, ?_, ?_, tidy.handles, tidy.notPast⟩
  · rw [List.map_append, List.nodup_append]
    refine ⟨tidy.distinct, by simp, ?_⟩
    intro id among other same
    obtain ⟨before, stands, rfl⟩ := List.mem_map.mp among
    rw [List.mem_singleton.mp same]
    exact fresh before stands
  · intro timer pending
    obtain ⟨owner, stands, owns⟩ := tidy.owned timer pending
    exact ⟨owner, List.mem_append_left _ stands, owns⟩
  · intro other member handle held
    rcases List.mem_append.mp member with stands | arrives
    · exact tidy.armed other stands handle held
    · rw [List.mem_singleton.mp arrives, Actor.bubbleTimer, bare] at held
      cases held

/-- The one actor under an identifier is gone once the first is taken out. -/
theorem id_ne_of_mem_eraseP {actors : List Actor} (distinct : (actors.map (·.id)).Nodup) (id : ActorId) :
    ∀ other ∈ actors.eraseP (·.id == id), other.id ≠ id := by
  intro other member same
  have stood := List.mem_of_mem_eraseP member
  obtain ⟨first, before, behind, -, firstId, split, erased⟩ :=
    List.exists_of_eraseP (p := (·.id == id)) stood (by simpa using same)
  have firstSame : first.id = other.id := by rw [same]; simpa using firstId
  rw [erased] at member
  rw [split, List.map_append, List.map_cons, List.nodup_append, List.nodup_cons] at distinct
  obtain ⟨-, ⟨notBehind, -⟩, apart⟩ := distinct
  rcases List.mem_append.mp member with early | late
  · exact apart _ (List.mem_map_of_mem early) _ List.mem_cons_self firstSame.symm
  · exact notBehind (firstSame ▸ List.mem_map_of_mem late)

theorem tidy_left (tidy : Tidy stage) (id : ActorId) (active : Option ActorId) (playback : Playback) :
    Tidy { stage with
      actors := stage.actors.eraseP (·.id == id)
      active
      timers := stage.timers.cancelActor id
      playback } := by
  have stays {other : Actor} (apart : other.id ≠ id) :
      other ∈ stage.actors.eraseP (·.id == id) ↔ other ∈ stage.actors :=
    List.mem_eraseP_of_neg (by simpa using apart)
  have gone := id_ne_of_mem_eraseP tidy.distinct id
  refine ⟨?_, ?_, ?_, ?_, ?_⟩
  · exact tidy.distinct.sublist (List.eraseP_sublist.map _)
  · intro timer pending
    obtain ⟨pending, other⟩ := TimerQueue.mem_cancelActor.mp pending
    obtain ⟨owner, stands, owns⟩ := tidy.owned timer pending
    exact ⟨owner, (stays (owns.1 ▸ other)).mpr stands, owns⟩
  · intro other member handle held
    have apart := gone other member
    obtain ⟨timer, pending, is, owner⟩ := tidy.armed other ((stays apart).mp member) handle held
    exact ⟨timer, TimerQueue.mem_cancelActor.mpr ⟨pending, owner ▸ apart⟩, is, owner⟩
  · intro first firstIn second secondIn
    exact tidy.handles first (TimerQueue.mem_cancelActor.mp firstIn).1 second
      (TimerQueue.mem_cancelActor.mp secondIn).1
  · intro timer pending
    exact tidy.notPast timer (TimerQueue.mem_cancelActor.mp pending).1

/-- On a tidy stage a pending timer is the one its actor's bubble knows. -/
theorem shows_of_pending (tidy : Tidy stage) {timer : BubbleTimer} (pending : timer ∈ stage.timers.pending) :
    ∃ actor ∈ stage.actors, stage.actor? timer.actor = some actor ∧ actor.Owns timer ∧
      stage.Shows timer := by
  obtain ⟨owner, stands, owns⟩ := tidy.owned timer pending
  have found := actor?_eq_some tidy stands
  rw [owns.1] at found
  obtain ⟨-, bubble, shown, kind, handle⟩ := id owns
  exact ⟨owner, stands, found, owns, owner, bubble, found, shown, kind, handle⟩

theorem tidy_fired (tidy : Tidy stage) {timer : BubbleTimer} {timers : TimerQueue}
    (popped : stage.timers.popDue stage.now = some (timer, timers)) :
    Tidy ({ stage with timers }.expire timer).1 := by
  have all := (TimerQueue.pending_of_popDue popped).1
  obtain ⟨owner, stands, found, owns, shows⟩ := shows_of_pending tidy (TimerQueue.mem_of_popDue popped)
  obtain ⟨i, here, changed⟩ := modify_eq_put found
  have current : ({ stage with timers } : Stage).Shows timer := shows
  have expires : ({ stage with timers } : Stage).expire timer =
      ({ stage.modify timer.actor Actor.withoutBubble with timers }, _) := expire_of_shows current
  rw [expires, changed]
  have others {other : BubbleTimer} (apart : other ≠ timer) :
      other ∈ timers.pending ↔ other ∈ stage.timers.pending := by
    rw [all, List.mem_cons]
    exact ⟨.inr, fun member => member.resolve_left apart⟩
  have left {other : BubbleTimer} (member : other ∈ timers.pending) : other ∈ stage.timers.pending := by
    rw [all]
    exact List.mem_cons_of_mem _ member
  refine tidy_put tidy here rfl ?_ ?_ ?_ ?_ ?_
  · intro other apart
    exact others fun same => apart (same ▸ owns.1.symm)
  · intro other member own
    obtain ⟨holder, holds, ownsOther⟩ := tidy.owned other (left member)
    rw [eq_of_same_id tidy holds stands (ownsOther.1.trans own)] at ownsOther
    have sameHandle := Option.some.inj (owns.bubbleTimer.symm.trans ownsOther.bubbleTimer)
    have same := tidy.handles timer (TimerQueue.mem_of_popDue popped) other (left member) sameHandle
    have before := BubbleTimer.before_def.mp (TimerQueue.before_of_popDue popped other member)
    rw [same] at before
    omega
  · intro handle held
    cases held
  · intro first firstIn second secondIn
    exact tidy.handles first (left firstIn) second (left secondIn)
  · intro other member
    exact tidy.notPast other (left member)

theorem tidy_of_change (change : Change stage after) (tidy : Tidy stage) : Tidy after := by
  cases change with
  | touched touch => exact tidy_of_touch touch tidy
  | planned => exact ⟨tidy.distinct, tidy.owned, tidy.armed, tidy.handles, tidy.notPast⟩
  | @arrived actor active fresh flat x y heading rewound =>
    exact tidy_arrived tidy fresh (by rw [← rewound]; rfl) active
  | left id active => exact tidy_left tidy id active _
  | waited timers tick => exact ⟨tidy.distinct, tidy.owned, tidy.armed, tidy.handles, timers⟩
  | fired popped => exact tidy_fired tidy popped

theorem tidy_of_changes (changes : Changes stage after) (tidy : Tidy stage) : Tidy after := by
  induction changes with
  | refl => exact tidy
  | tail _ change ih => exact tidy_of_change change ih

theorem tidy_of_reachable {config : Config} (reachable : ReachableWithRoom config stage) :
    Tidy stage := by
  refine tidy_of_changes (changes_of_reachable reachable).2 ⟨?_, ?_, ?_, ?_, ?_⟩
  all_goals simp [unchecked, TimerQueue.empty]

/-! ### What it comes to -/

theorem pairwise_apart (tidy : Tidy stage) :
    stage.timers.pending.Pairwise fun a b => a.handle ≠ b.handle ∧ a.actor ≠ b.actor := by
  have different : stage.timers.pending.Nodup :=
    stage.timers.ordered.imp fun before same => by
      rw [same, BubbleTimer.before_def] at before
      omega
  refine different.pairwise_of_forall_ne fun a aIn b bIn apart => ⟨?_, ?_⟩
  · intro same
    exact apart (tidy.handles a aIn b bIn same)
  · intro same
    obtain ⟨first, firstIn, firstOwns⟩ := tidy.owned a aIn
    obtain ⟨second, secondIn, secondOwns⟩ := tidy.owned b bIn
    rw [eq_of_same_id tidy firstIn secondIn (firstOwns.1.trans (same.trans secondOwns.1.symm))] at firstOwns
    have sameHandle := Option.some.inj (firstOwns.bubbleTimer.symm.trans secondOwns.bubbleTimer)
    exact apart (tidy.handles a aIn b bIn sameHandle)

/-- As many timers are armed as actors show a bubble that clears by itself. -/
theorem size_timers (tidy : Tidy stage) :
    stage.timers.size = (stage.actors.filter fun actor => actor.bubbleTimer.isSome).length := by
  have waiting : (stage.timers.pending.map (·.actor)).Nodup :=
    List.pairwise_map.mpr ((pairwise_apart tidy).imp And.right)
  have showing : ((stage.actors.filter fun actor => actor.bubbleTimer.isSome).map (·.id)).Nodup :=
    tidy.distinct.sublist (List.filter_sublist.map _)
  have same : (stage.timers.pending.map (·.actor)).Perm
      ((stage.actors.filter fun actor => actor.bubbleTimer.isSome).map (·.id)) := by
    rw [List.perm_ext_iff_of_nodup waiting showing]
    intro id
    simp only [List.mem_map, List.mem_filter]
    constructor
    · rintro ⟨timer, pending, rfl⟩
      obtain ⟨owner, stands, owns⟩ := tidy.owned timer pending
      exact ⟨owner, ⟨stands, by rw [owns.bubbleTimer]; rfl⟩, owns.1⟩
    · rintro ⟨actor, ⟨stands, held⟩, rfl⟩
      obtain ⟨handle, is⟩ := Option.isSome_iff_exists.mp held
      obtain ⟨timer, pending, -, owner⟩ := tidy.armed actor stands handle is
      exact ⟨timer, pending, owner⟩
  simpa [TimerQueue.size] using same.length_eq

/-- A timer that goes off does so at its deadline, and clears the bubble that its actor shows. -/
theorem Happens.cleared_at {at_ : Stage} {timer : BubbleTimer} (tidy : Tidy stage)
    (happens : stage.Happens (.cleared at_ timer) after) :
    at_.now = timer.deadline ∧ at_.Shows timer ∧ (Happening.cleared at_ timer).notices =
      [⟨timer.deadline, .bubbleCleared timer.actor timer.kind⟩] := by
  cases happens with
  | @cleared timer timers popped first =>
    obtain ⟨-, -, -, -, shows⟩ := shows_of_pending tidy (TimerQueue.mem_of_popDue popped)
    have current : ({ stage with timers, now := timer.deadline } : Stage).Shows timer := shows
    refine ⟨rfl, current, ?_⟩
    simp only [Happening.notices, expire_of_shows current]
    rfl

/-- Bubbles and armed timers correspond one to one on every stage that operations lead to. An armed
timer belongs to the bubble of its kind that its actor shows, a bubble's handle is armed for its
actor, no two armed timers share a handle or an actor, and none is overdue. So there are as many
armed timers as bubbles that clear by themselves, and whatever timer goes off as time passes, its
actor still shows the bubble. -/
theorem bubbles_match_timers {config : Config} (reachable : ReachableWithRoom config stage) :
    (∀ timer ∈ stage.timers.pending, ∃ actor ∈ stage.actors, actor.id = timer.actor ∧
      ∃ bubble, actor.bubble = some bubble ∧ bubble.kind = timer.kind ∧
        bubble.timer = some timer.handle) ∧
    (∀ actor ∈ stage.actors, ∀ bubble, actor.bubble = some bubble → ∀ handle,
      bubble.timer = some handle →
      ∃ timer ∈ stage.timers.pending, timer.handle = handle ∧ timer.actor = actor.id) ∧
    (stage.timers.pending.Pairwise fun a b => a.handle ≠ b.handle ∧ a.actor ≠ b.actor) ∧
    (∀ timer ∈ stage.timers.pending, stage.now ≤ timer.deadline) ∧
    stage.timers.size = (stage.actors.filter fun actor => actor.bubbleTimer.isSome).length ∧
    ∀ elapsed, ∃ log last, stage.Elapses elapsed log last ∧
      ∀ happening ∈ log, ∀ timer, happening.timer? = some timer → happening.stage.Shows timer := by
  have tidy := tidy_of_reachable reachable
  refine ⟨tidy.owned, ?_, pairwise_apart tidy, tidy.notPast, size_timers tidy, ?_⟩
  · intro actor member bubble shown handle is
    exact tidy.armed actor member handle (by simp [Actor.bubbleTimer, shown, is])
  · intro elapsed
    obtain ⟨log, last, elapses⟩ := advanceTime_unfolds stage (period_pos_of_reachable reachable) elapsed
    refine ⟨log, last, elapses, fun happening member timer is => ?_⟩
    obtain ⟨before, after, changes, happens⟩ := elapses.unfolds.happened member
    cases happening with
    | cleared at_ timer =>
      cases is
      exact (happens.cleared_at (tidy_of_changes changes tidy)).2.1
    | ticked at_ outcome => cases is

/-- An actor that says something for a second, on the first tick of its program. -/
theorem bubbles_match_timers_spoken :
    ∃ stage, ReachableWithRoom {} stage ∧
      stage.timers.pending = [⟨1, Duration.ofMillis 1000, ⟨7, by decide⟩, .speech⟩] ∧
      ∃ actor ∈ stage.actors, actor.id = ⟨7, by decide⟩ ∧
        ∃ bubble, actor.bubble = some bubble ∧ bubble.kind = .speech ∧ bubble.timer = some 1 := by
  obtain ⟨stage, reachable, passes⟩ := exists_reachable {}
    [ .insertActor { id := ⟨7, by decide⟩, name := "Cat", program := [.bubble .speech "Hello" (some 1)] },
      .play, .tick ]
    (fun stage => stage.timers.pending = [⟨1, Duration.ofMillis 1000, ⟨7, by decide⟩, .speech⟩])
    rfl (by simp [Operation.hasRoom]) (by decide +kernel)
  have pending := of_decide_eq_true passes
  obtain ⟨owned, -⟩ := bubbles_match_timers reachable
  exact ⟨stage, reachable, pending, owned _ (by rw [pending]; exact List.mem_singleton_self _)⟩

end Stage

end SpriteStage
