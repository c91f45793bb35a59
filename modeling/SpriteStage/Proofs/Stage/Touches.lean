import Mathlib.Logic.Relation
import SpriteStage.Stage.Tick
import SpriteStage.Proofs.Execution.Effects
import SpriteStage.Proofs.Stepping.Unfolding

/-!
# Touches

A touch is one elementary change of a stage. Touches keep the cast in its order, the configuration,
the clock and the plan of the next tick. Whatever happens within one instant, short of arrivals,
departures and timers that fire, is a sequence of touches: what every touch preserves, every such
operation preserves.
-/

namespace SpriteStage

namespace Stage

/-- The stage with the actor at a position replaced, and the timers. -/
def put (stage : Stage) (i : Nat) (actor : Actor) (timers : TimerQueue) : Stage :=
  { stage with actors := stage.actors.set i actor, timers }

/-- One elementary change of a stage. -/
inductive Touch (stage : Stage) : Stage → Prop
  /-- The schedule, the selection or the observers change. -/
  | control (active : Option ActorId) (playback : Playback) (observers : List Nat)
      (registrations : Nat) (period : playback.period = stage.playback.period)
      (nextTick : playback.nextTick = stage.playback.nextTick) :
      Touch stage { stage with active, playback, observers, registrations }
  /-- An actor takes a pose. -/
  | posed {i : Nat} {actor moved : Actor} (here : stage.actors[i]? = some actor)
      (posed : actor.Posed stage.bounds moved) : Touch stage (stage.put i moved stage.timers)
  /-- An actor gets a name, a cursor, or another program without nested repeats. -/
  | edited {i : Nat} {actor : Actor} (name : String) (program : List Command) (cursor : Cursor)
      (here : stage.actors[i]? = some actor)
      (flat : ∀ command ∈ program, command ∈ actor.program ∨ command.isFlat = true) :
      Touch stage (stage.put i { actor with name, program, cursor } stage.timers)
  /-- Two actors exchange their programs. -/
  | exchanged {i j : Nat} {first second : Actor} (apart : i ≠ j)
      (here : stage.actors[i]? = some first) (there : stage.actors[j]? = some second) :
      Touch stage ((stage.put i { first with program := second.program } stage.timers).put j
        { second with program := first.program } stage.timers)
  /-- An actor shows a bubble until further notice. -/
  | shown {i : Nat} {actor : Actor} (kind : BubbleKind) (text : String)
      (here : stage.actors[i]? = some actor) :
      Touch stage (stage.put i { actor with bubble := some ⟨kind, text, none⟩ }
        (stage.timers.cancel? actor.bubbleTimer))
  /-- An actor shows a bubble, and a timer is armed that clears it. -/
  | armed {i : Nat} {actor : Actor} (kind : BubbleKind) (text : String) {deadline : Duration}
      (here : stage.actors[i]? = some actor) (later : stage.now ≤ deadline) :
      Touch stage (stage.put i
        { actor with bubble := some ⟨kind, text, some (stage.timers.issued + 1)⟩ }
        ((stage.timers.cancel? actor.bubbleTimer).arm actor.id kind deadline).2)
  /-- An actor loses its bubble, whose timer is disarmed. -/
  | hushed {i : Nat} {actor : Actor} (here : stage.actors[i]? = some actor) :
      Touch stage (stage.put i actor.withoutBubble (stage.timers.cancel? actor.bubbleTimer))
  /-- Every timer is disarmed while no bubble is shown. -/
  | silenced (bare : ∀ actor ∈ stage.actors, actor.bubble = none) :
      Touch stage { stage with timers := stage.timers.clear }

/-- A sequence of touches. -/
abbrev Touches : Stage → Stage → Prop := Relation.ReflTransGen Touch

/-- What touches keep. -/
structure Framed (before after : Stage) : Prop where
  config : after.config = before.config
  now : after.now = before.now
  period : after.playback.period = before.playback.period
  nextTick : after.playback.nextTick = before.playback.nextTick
  cast : after.actors.map (·.id) = before.actors.map (·.id)

variable {stage after : Stage} {actor : Actor} {id : ActorId}

theorem map_set_same {α β : Type} {image : α → β} {items : List α} {i : Nat} {before after : α}
    (here : items[i]? = some before) (same : image after = image before) :
    (items.set i after).map image = items.map image := by
  obtain ⟨inside, is⟩ := List.getElem?_eq_some_iff.mp here
  have insideMap : i < (items.map image).length := by simpa using inside
  have kept := List.set_getElem_self insideMap
  rwa [List.getElem_map, is, ← same, ← List.map_set] at kept

theorem map_set_set_same {α β : Type} {image : α → β} {items : List α} {i j : Nat}
    {first second given taken : α} (apart : i ≠ j) (here : items[i]? = some first)
    (there : items[j]? = some second) (sameFirst : image given = image first)
    (sameSecond : image taken = image second) :
    ((items.set i given).set j taken).map image = items.map image := by
  have still : (items.set i given)[j]? = some second := (List.getElem?_set_ne apart).trans there
  exact (map_set_same still sameSecond).trans (map_set_same here sameFirst)

theorem Framed.isRunning (frame : Framed stage after) : after.isRunning = stage.isRunning := by
  rw [Stage.isRunning, Playback.isRunning_eq_isSome, frame.nextTick, ← Playback.isRunning_eq_isSome]
  rfl

theorem frame_of_touch (touch : Touch stage after) : Framed stage after := by
  cases touch with
  | control active playback observers registrations period nextTick =>
    exact ⟨rfl, rfl, period, nextTick, rfl⟩
  | posed here posed =>
    refine ⟨rfl, rfl, rfl, rfl, map_set_same here ?_⟩
    rw [posed.frame]
  | edited name program cursor here flat =>
    exact ⟨rfl, rfl, rfl, rfl, map_set_same here rfl⟩
  | exchanged apart here there =>
    exact ⟨rfl, rfl, rfl, rfl, map_set_set_same apart here there rfl rfl⟩
  | shown kind text here => exact ⟨rfl, rfl, rfl, rfl, map_set_same here rfl⟩
  | armed kind text here later => exact ⟨rfl, rfl, rfl, rfl, map_set_same here rfl⟩
  | hushed here => exact ⟨rfl, rfl, rfl, rfl, map_set_same here rfl⟩
  | silenced bare => exact ⟨rfl, rfl, rfl, rfl, rfl⟩

theorem frame_of_touches (touches : Touches stage after) : Framed stage after := by
  induction touches with
  | refl => exact ⟨rfl, rfl, rfl, rfl, rfl⟩
  | tail _ touch ih =>
    have step := frame_of_touch touch
    exact ⟨step.config.trans ih.config, step.now.trans ih.now, step.period.trans ih.period,
      step.nextTick.trans ih.nextTick, step.cast.trans ih.cast⟩

/-- What touches do to the timers: none comes back, and those armed in between got later handles
and are not due before the present instant. -/
structure Rearmed (before after : Stage) : Prop where
  issued : before.timers.issued ≤ after.timers.issued
  pending : ∀ timer ∈ after.timers.pending, timer ∈ before.timers.pending ∨
    before.timers.issued < timer.handle ∧ before.now ≤ timer.deadline

theorem rearmed_of_kept (issued : after.timers.issued = stage.timers.issued)
    (pending : ∀ timer ∈ after.timers.pending, timer ∈ stage.timers.pending) :
    Rearmed stage after :=
  ⟨Nat.le_of_eq issued.symm, fun timer member => .inl (pending timer member)⟩

theorem rearmed_of_touch (touch : Touch stage after) : Rearmed stage after := by
  cases touch with
  | shown kind text here =>
    exact rearmed_of_kept (by simp [put]) fun timer member => (TimerQueue.mem_cancel?.mp member).1
  | armed kind text here later =>
    refine ⟨by simp [put], fun timer member => ?_⟩
    rcases TimerQueue.mem_arm.mp member with rfl | member
    · exact .inr ⟨by simp, later⟩
    · exact .inl (TimerQueue.mem_cancel?.mp member).1
  | hushed here =>
    exact rearmed_of_kept (by simp [put]) fun timer member => (TimerQueue.mem_cancel?.mp member).1
  | silenced bare => exact rearmed_of_kept rfl fun timer member => by simp at member
  | _ => exact rearmed_of_kept rfl fun timer member => member

theorem rearmed_of_touches (touches : Touches stage after) : Rearmed stage after := by
  induction touches with
  | refl => exact rearmed_of_kept rfl fun timer member => member
  | tail earlier touch ih =>
    have step := rearmed_of_touch touch
    refine ⟨Nat.le_trans ih.issued step.issued, fun timer member => ?_⟩
    rcases step.pending timer member with member | ⟨handle, deadline⟩
    · exact ih.pending timer member
    · refine .inr ⟨Nat.lt_of_le_of_lt ih.issued handle, ?_⟩
      rw [← (frame_of_touches earlier).now]
      exact deadline

/-! ### The stage with one actor replaced -/

@[simp] theorem put_put (stage : Stage) (i : Nat) (first second : Actor) (timers later : TimerQueue) :
    (stage.put i first timers).put i second later = stage.put i second later := by
  simp [put]

theorem put_here {i : Nat} (here : stage.actors[i]? = some actor) (moved : Actor) (timers : TimerQueue) :
    (stage.put i moved timers).actors[i]? = some moved := by
  obtain ⟨inside, -⟩ := List.getElem?_eq_some_iff.mp here
  simp [put, inside]

theorem put_same {i : Nat} (here : stage.actors[i]? = some actor) :
    stage.put i actor stage.timers = stage := by
  obtain ⟨inside, is⟩ := List.getElem?_eq_some_iff.mp here
  simp [put, ← is]

theorem changeFirst_eq_set {actors : List Actor} (found : actors.find? (·.id == id) = some actor) :
    ∃ i : Nat, actors[i]? = some actor ∧
      ∀ change, changeFirst id change actors = actors.set i (change actor) := by
  induction actors with
  | nil => cases found
  | cons head rest ih =>
    by_cases same : head.id = id
    · simp only [List.find?_cons, same, BEq.rfl, Option.some.injEq] at found
      subst found
      exact ⟨0, rfl, fun change => by simp [changeFirst, same]⟩
    · have other : (head.id == id) = false := by simp [same]
      rw [List.find?_cons, other] at found
      obtain ⟨i, here, changed⟩ := ih found
      exact ⟨i + 1, here, fun change => by simp [changeFirst, same, changed]⟩

/-- Changing the actor that goes by an identifier changes the actor at one position. -/
theorem modify_eq_put (found : stage.actor? id = some actor) :
    ∃ i : Nat, stage.actors[i]? = some actor ∧
      ∀ change timers, { stage.modify id change with timers } = stage.put i (change actor) timers := by
  obtain ⟨i, here, changed⟩ := changeFirst_eq_set found
  exact ⟨i, here, fun change timers => by simp [modify, put, changed]⟩

theorem actor?_id (found : stage.actor? id = some actor) : actor.id = id := by
  simpa using List.find?_some found

/-! ### One actor at a time -/

/-- Carrying out a command is a touch. -/
theorem touch_apply {i : Nat} {moved : Actor} {timers : TimerQueue} {command : Command}
    (here : stage.actors[i]? = some actor)
    (applied : command.apply stage.setting actor stage.timers = .ok (moved, timers)) :
    Touch stage (stage.put i moved timers) := by
  rcases Command.apply_cases applied with ⟨posed, same⟩ | ⟨kind, text, duration, -, display⟩
  · rw [same]
    exact .posed here posed
  · rcases actor.display_cases stage.setting stage.timers kind text duration with
      plain | ⟨deadline, later, armed⟩
    · rw [plain] at display
      cases display
      exact .shown kind text here
    · rw [armed, TimerQueue.arm_fst, TimerQueue.issued_cancel?] at display
      cases display
      exact .armed kind text here later

/-- Carrying out commands one after another is a sequence of touches. -/
theorem touches_applyAll {i : Nat} {moved : Actor} {timers : TimerQueue} {commands : List Command}
    (here : stage.actors[i]? = some actor)
    (applied : commands.foldlM (fun (actor, timers) command => command.apply stage.setting actor timers)
      (actor, stage.timers) = .ok (moved, timers)) :
    Touches stage (stage.put i moved timers) := by
  induction commands generalizing stage actor with
  | nil =>
    cases applied
    rw [put_same here]
  | cons command rest ih =>
    rw [List.foldlM_cons] at applied
    obtain ⟨⟨between, later⟩, first, applied⟩ := bind_eq_ok.mp applied
    have next := ih (put_here here between later) applied
    rw [put_put] at next
    exact .head (touch_apply here first) next

theorem touch_recursored {i : Nat} (here : stage.actors[i]? = some actor) (cursor : Cursor) :
    Touch stage (stage.put i { actor with cursor } stage.timers) :=
  .edited actor.name actor.program cursor here fun _ member => .inl member

/-- A step of a program is a sequence of touches. -/
theorem touches_advance {i : Nat} {outcome : StepOutcome} {moved : Actor} {timers : TimerQueue}
    (here : stage.actors[i]? = some actor)
    (advanced : actor.advance stage.setting stage.timers = .ok (outcome, moved, timers)) :
    Touches stage (stage.put i moved timers) := by
  rw [Actor.advance_eq] at advanced
  split at advanced
  · cases advanced
    exact .single (touch_recursored here _)
  · obtain ⟨⟨command, fetched⟩, -, advanced⟩ := bind_eq_ok.mp advanced
    obtain ⟨⟨between, later⟩, applied, advanced⟩ := bind_eq_ok.mp advanced
    cases advanced
    have fetches := touch_recursored here fetched
    have applies : Touch (stage.put i { actor with cursor := fetched } stage.timers)
        ((stage.put i { actor with cursor := fetched } stage.timers).put i between timers) :=
      touch_apply (put_here here _ _) applied
    rw [put_put] at applies
    have settles := touch_recursored (put_here here between timers)
      (between.cursor.settle between.program)
    rw [put_put] at settles
    exact .tail (.tail (.single fetches) applies) settles

/-- Sending an actor back to the start, without its bubble, is a sequence of touches. -/
theorem touches_rewound {i : Nat} (here : stage.actors[i]? = some actor) :
    Touches stage (stage.put i actor.rewound (stage.timers.cancel? actor.bubbleTimer)) := by
  have hushes := Touch.hushed here
  have rewinds := touch_recursored
    (put_here here actor.withoutBubble (stage.timers.cancel? actor.bubbleTimer)) .start
  rw [put_put] at rewinds
  exact .tail (.single hushes) rewinds

/-! ### Several actors at once -/

/-- A trade replaces the first actors that go by the two identifiers, at different places, by ones
that start over with the program of the other, and disarms the timers of their bubbles. -/
theorem tradeIn?_eq_some {actors after : List Actor} {timers later : TimerQueue} {a b : ActorId}
    (traded : tradeIn? actors timers a b = some (after, later)) :
    ∃ (i j : Nat) (first second : Actor), i ≠ j ∧
      actors.findIdx? (·.id == a) = some i ∧ actors[i]? = some first ∧
      actors.findIdx? (·.id == b) = some j ∧ actors[j]? = some second ∧
      after = (actors.set i { first.rewound with program := second.program }).set j
        { second.rewound with program := first.program } ∧
      later = (timers.cancel? first.bubbleTimer).cancel? second.bubbleTimer := by
  unfold tradeIn? at traded
  obtain ⟨⟨i, j⟩, located, traded⟩ := Option.bind_eq_some_iff.mp traded
  obtain ⟨first, here, traded⟩ := Option.bind_eq_some_iff.mp traded
  obtain ⟨second, there, traded⟩ := Option.bind_eq_some_iff.mp traded
  cases traded
  unfold locatePair at located
  obtain ⟨_, findsFirst, located⟩ := Option.bind_eq_some_iff.mp located
  obtain ⟨_, findsSecond, located⟩ := Option.bind_eq_some_iff.mp located
  split at located
  · cases located
  · rename_i apart
    cases located
    exact ⟨i, j, first, second, apart, findsFirst, here, findsSecond, there, rfl, rfl⟩

theorem find?_of_findIdx? {actors : List Actor} {i : Nat} (finds : actors.findIdx? (·.id == id) = some i)
    (here : actors[i]? = some actor) : actors.find? (·.id == id) = some actor := by
  rw [List.find?_eq_bind_findIdx?_getElem?, finds]
  exact here

theorem exists_find? {actors : List Actor} (present : id ∈ actors.map (·.id)) :
    ∃ actor, actors.find? (·.id == id) = some actor := by
  obtain ⟨actor, stands, same⟩ := List.mem_map.mp present
  exact Option.isSome_iff_exists.mp (List.find?_isSome.mpr ⟨actor, stands, beq_iff_eq.mpr same⟩)

/-- Two different actors of a list can trade. -/
theorem exists_tradeIn? {actors : List Actor} {a b : ActorId} {first second : Actor} (timers : TimerQueue)
    (apart : a ≠ b) (foundFirst : actors.find? (·.id == a) = some first)
    (foundSecond : actors.find? (·.id == b) = some second) :
    ∃ after later, tradeIn? actors timers a b = some (after, later) := by
  rw [List.find?_eq_bind_findIdx?_getElem?] at foundFirst foundSecond
  obtain ⟨i, findsFirst, here⟩ := Option.bind_eq_some_iff.mp foundFirst
  obtain ⟨j, findsSecond, there⟩ := Option.bind_eq_some_iff.mp foundSecond
  have different : i ≠ j := by
    rintro rfl
    have isFirst := (List.findIdx?_eq_some_iff_getElem.mp findsFirst).2.1
    have isSecond := (List.findIdx?_eq_some_iff_getElem.mp findsSecond).2.1
    exact apart ((eq_of_beq isFirst).symm.trans (eq_of_beq isSecond))
  simp [tradeIn?, locatePair, findsFirst, findsSecond, different, here, there]

/-- A trade of programs is a sequence of touches. -/
theorem touches_trade {actors : List Actor} {timers : TimerQueue} {a b : ActorId}
    (traded : tradeIn? stage.actors stage.timers a b = some (actors, timers)) :
    Touches stage { stage with actors, timers } := by
  obtain ⟨i, j, first, second, apart, -, here, -, there, rfl, rfl⟩ := tradeIn?_eq_some traded
  have insideI := (List.getElem?_eq_some_iff.mp here).1
  have insideJ := (List.getElem?_eq_some_iff.mp there).1
  have exchange := Touch.exchanged apart here there
  have givenHere : ((stage.put i { first with program := second.program } stage.timers).put j
      { second with program := first.program } stage.timers).actors[i]? =
      some { first with program := second.program } := by
    simp [put, insideI, Ne.symm apart]
  have takenThere : (((stage.put i { first with program := second.program } stage.timers).put j
      { second with program := first.program } stage.timers).put i
      ({ first with program := second.program } : Actor).rewound
      (stage.timers.cancel? first.bubbleTimer)).actors[j]? =
      some { second with program := first.program } := by
    simp [put, insideJ, apart]
  have rewinds := (touches_rewound givenHere).trans (touches_rewound takenThere)
  have all := Relation.ReflTransGen.head exchange rewinds
  simp only [put] at all
  rw [List.set_comm _ _ (Ne.symm apart), List.set_set, List.set_set] at all
  exact all

theorem touches_rewindRest (rest : List Actor) {stage : Stage} {start : List Actor}
    (actors : stage.actors = start ++ rest) :
    Touches stage { stage with
      actors := start ++ rest.map Actor.rewound
      timers := rest.foldl (fun timers actor => timers.cancel? actor.bubbleTimer) stage.timers } := by
  induction rest generalizing stage start with
  | nil =>
    simp only [List.map_nil, List.foldl_nil, ← actors]
    exact .refl
  | cons head rest ih =>
    have here : stage.actors[start.length]? = some head := by simp [actors]
    have rewinds := touches_rewound here
    have next : (stage.put start.length head.rewound
        (stage.timers.cancel? head.bubbleTimer)).actors = (start ++ [head.rewound]) ++ rest := by
      simp [put, actors]
    have all := rewinds.trans (ih next)
    simpa [put] using all

/-- Rewinding everyone is a sequence of touches. -/
theorem touches_resetAll (stage : Stage) : Touches stage stage.resetAll :=
  touches_rewindRest stage.actors (List.nil_append stage.actors).symm

theorem touch_playback {playback : Playback} (period : playback.period = stage.playback.period)
    (nextTick : playback.nextTick = stage.playback.nextTick) : Touch stage { stage with playback } :=
  .control stage.active playback stage.observers stage.registrations period nextTick

theorem touch_reschedule (stage : Stage) (id : ActorId) : Touch stage (stage.reschedule id) := by
  unfold reschedule
  apply touch_playback
  · split <;> simp
  · split <;> simp

theorem touches_afterSwap (stage : Stage) (pair : ActorPair) : Touches stage (stage.afterSwap pair) :=
  .tail (.single (touch_reschedule stage pair.first)) (touch_reschedule _ pair.second)

end Stage

end SpriteStage
