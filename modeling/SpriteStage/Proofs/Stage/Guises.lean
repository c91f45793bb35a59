import SpriteStage.Snapshot
import SpriteStage.Stage.Operation
import SpriteStage.Proofs.Execution.Renumbering

/-!
# Guises

A stage may have armed some timers before, and may have other observers, than a stage that is otherwise
the same. It then behaves the same: every operation but those about observers comes to the same answer,
notices and stage, under the same guise (`perform_under`). There is one lemma for each function; those
for loops follow the recursion of the loop.
-/

namespace SpriteStage

/-- In what a stage may differ from one that behaves like it. -/
structure Guise where
  /-- Handles that were handed out before. -/
  offset : Nat
  observers : List Nat
  registrations : Nat

/-- Whether an operation is about observers. -/
def Operation.observes : Operation → Bool
  | .subscribe | .unsubscribe _ => true
  | _ => false

/-- The answer with other handles; only an actor that was taken out carries one. -/
def Response.renamed (rename : Nat → Nat) : Response → Response
  | .actor gone => .actor (gone.renamed rename)
  | response => response

namespace Stage

def under (guise : Guise) (stage : Stage) : Stage :=
  { stage with
    actors := stage.actors.map (.renamed (guise.offset + ·))
    timers := stage.timers.renumbered guise.offset
    observers := guise.observers
    registrations := guise.registrations }

end Stage

/-- The outcome on the stage under a guise, with an image of the answer. -/
def Outcome.under {α β : Type} (guise : Guise) (image : α → β) (outcome : Outcome α) : Outcome β :=
  ⟨image outcome.value, outcome.stage.under guise, outcome.notices⟩

/-- The failure on the stage under a guise. -/
def Failure.under (guise : Guise) : Failure → Failure
  | .refused refusal => .refused (refusal.under guise fun error => error)
  | .faulted fault => .faulted fault

/-- The attempt on the stage under a guise, with an image of the result. -/
def Attempt.under {α β : Type} (guise : Guise) (image : α → β) : Attempt α → Attempt β
  | .ok value => .ok (image value)
  | .error failure => .error (failure.under guise)

/-- A chain of attempts is under a guise if each of its parts is. -/
theorem bind_under {α β γ δ : Type} {guise : Guise} {first : Attempt α} {other : Attempt β}
    {next : α → Attempt γ} {following : β → Attempt δ} {image : α → β} {last : γ → δ}
    (alike : other = first.under guise image)
    (each : ∀ value, following (image value) = (next value).under guise last) :
    other >>= following = (first >>= next).under guise last := by
  rw [alike]
  cases first with
  | error failure => rfl
  | ok value => exact each value

theorem sound_under {α β : Type} {guise : Guise} {result : Except Fault α} {other : Except Fault β}
    {image : α → β} (alike : other = result.map image) :
    sound other = (sound result).under guise image := by
  rw [alike]
  cases result <;> rfl

namespace Stage

variable (guise : Guise) (stage : Stage) (id : ActorId)

theorem actor?_under :
    (stage.under guise).actor? id = (stage.actor? id).map (.renamed (guise.offset + ·)) :=
  List.find?_map ..

theorem check_under {α : Type} (result : Except StageError α) :
    (stage.under guise).check result = (stage.check result).under guise fun value => value := by
  cases result <;> rfl

theorem require_under :
    (stage.under guise).require id = (stage.require id).under guise (.renamed (guise.offset + ·)) := by
  unfold require
  rw [actor?_under]
  cases stage.actor? id <;> rfl

theorem requireCommand_under (actor : Actor) (index : Nat) :
    (stage.under guise).requireCommand (actor.renamed (guise.offset + ·)) index =
      (stage.requireCommand actor index).under guise fun command => command := by
  have same : (actor.renamed (guise.offset + ·)).program = actor.program := rfl
  unfold requireCommand
  rw [same]
  cases actor.program[index]? <;> rfl

theorem validate_under (program : List Command) :
    (program.forM fun command => (stage.under guise).check command.validate) =
      Attempt.under guise (fun done => done) (program.forM fun command => stage.check command.validate) := by
  induction program with
  | nil => rfl
  | cons command rest ih => exact bind_under (check_under guise stage command.validate) fun _ => ih

theorem changeFirst_renamed {rename : Nat → Nat} {change other : Actor → Actor}
    (same : ∀ actor, other (actor.renamed rename) = (change actor).renamed rename)
    (actors : List Actor) :
    changeFirst id other (actors.map (.renamed rename)) =
      (changeFirst id change actors).map (.renamed rename) := by
  induction actors with
  | nil => rfl
  | cons actor rest ih =>
    by_cases named : actor.id = id
    · have renamed : (actor.renamed rename).id = id := named
      simp [changeFirst, named, renamed, same]
    · have renamed : ¬ (actor.renamed rename).id = id := named
      simp [changeFirst, named, renamed, ih]

theorem modify_under {change other : Actor → Actor}
    (same : ∀ actor, other (actor.renamed (guise.offset + ·)) = (change actor).renamed (guise.offset + ·)) :
    (stage.under guise).modify id other = (stage.modify id change).under guise := by
  unfold modify under
  rw [changeFirst_renamed id same]

theorem update_under {change other : Actor → Actor}
    (same : ∀ actor, other (actor.renamed (guise.offset + ·)) = (change actor).renamed (guise.offset + ·)) :
    (stage.under guise).update id other = (stage.update id change).under guise (fun value => value) := by
  unfold update
  rw [modify_under guise stage id same]
  rfl

theorem finishIfDrained_under :
    (stage.under guise).finishIfDrained =
      (stage.finishIfDrained.1.under guise, stage.finishIfDrained.2) := rfl

theorem reschedule_under : (stage.under guise).reschedule id = (stage.reschedule id).under guise := by
  unfold reschedule
  rw [actor?_under, Option.any_map]
  rfl

theorem afterSwap_under (pair : ActorPair) :
    (stage.under guise).afterSwap pair = (stage.afterSwap pair).under guise := by
  unfold afterSwap
  rw [reschedule_under, reschedule_under]

theorem afterSwaps_under (swaps : List ActorPair) :
    swaps.foldl afterSwap (stage.under guise) = (swaps.foldl afterSwap stage).under guise := by
  induction swaps generalizing stage with
  | nil => rfl
  | cons pair rest ih =>
    rw [List.foldl_cons, List.foldl_cons, afterSwap_under, ih]

end Stage

/-! ### Ticks -/

namespace TickState

variable (guise : Guise) (tick : TickState) (id : ActorId)

def under (guise : Guise) (tick : TickState) : TickState :=
  { tick with stage := tick.stage.under guise }

theorem resolve_under : (tick.under guise).resolve = tick.resolve.under guise := by
  let resolution := resolveCollisions tick.stage.config.collisionDistance tick.stage.actors
    tick.busy tick.stage.timers
  have resolved : resolveCollisions (tick.under guise).stage.config.collisionDistance
      (tick.under guise).stage.actors (tick.under guise).busy (tick.under guise).stage.timers =
      { resolution with
        actors := resolution.actors.map (.renamed (guise.offset + ·))
        timers := resolution.timers.renumbered guise.offset } := resolveCollisions_renumbered ..
  have traded := Stage.afterSwaps_under guise
    { tick.stage with actors := resolution.actors, timers := resolution.timers } resolution.swaps
  unfold resolve
  simp only [resolved]
  exact congrArg (fun stage => { tick.resolve with stage }) traded

theorem moved_under (outcome : StepOutcome) (actor : Actor) (timers : TimerQueue) :
    (tick.under guise).moved id outcome (actor.renamed (guise.offset + ·))
        (timers.renumbered guise.offset) =
      (tick.moved id outcome actor timers).under guise := by
  have changed : (tick.stage.under guise).modify id (fun _ => actor.renamed (guise.offset + ·)) =
      (tick.stage.modify id fun _ => actor).under guise := Stage.modify_under guise tick.stage id fun _ => rfl
  exact congrArg (fun stage => { tick.moved id outcome actor timers with
    stage := { stage with timers := timers.renumbered guise.offset } }) changed

theorem retire_under : (tick.under guise).retire id = (tick.retire id).under guise := by
  have found : (tick.under guise).stage.actor? id =
      (tick.stage.actor? id).map (.renamed (guise.offset + ·)) := Stage.actor?_under guise tick.stage id
  have changed : (tick.stage.under guise).modify id (fun actor => { actor with cursor := .start }) =
      (tick.stage.modify id fun actor => { actor with cursor := .start }).under guise :=
    Stage.modify_under guise tick.stage id fun _ => rfl
  unfold retire
  rw [found, Option.any_map]
  show (if (tick.stage.actor? id).any Actor.isFinished = true then _ else _) = _
  split
  · exact congrArg (fun stage => { tick.under guise with
      stage := { stage with playback := tick.stage.playback.unschedule id }
      report := { tick.report with completed := tick.report.completed ++ [id] } }) changed
  · rfl

theorem turn_under : (tick.under guise).turn id = (tick.turn id).map (under guise) := by
  have found : (tick.under guise).stage.actor? id =
      (tick.stage.actor? id).map (.renamed (guise.offset + ·)) := Stage.actor?_under guise tick.stage id
  unfold turn
  rw [found]
  cases tick.stage.actor? id with
  | none => rfl
  | some actor =>
    dsimp only [Option.map_some]
    show (if (tick.stage.isRunning && !actor.program.isEmpty) = true then _ else _) = _
    split
    · refine bind_commutes (Actor.advance_renumbered tick.stage.setting) fun (outcome, moved, timers) => ?_
      refine congrArg Except.ok ?_
      show (((tick.under guise).moved id outcome (moved.renamed (guise.offset + ·))
        (timers.renumbered guise.offset)).resolve).retire id = _
      rw [moved_under, resolve_under, retire_under]
    · rfl

end TickState

namespace Stage

variable (guise : Guise) (stage : Stage)

theorem runTick_under :
    (stage.under guise).runTick = stage.runTick.map (.under guise fun report => report) := by
  let start : TickState := { stage, report := { time := stage.now } }
  let step (tick : TickState) (id : ActorId) : Except Fault TickState :=
    if tick.stage.isScheduled id then tick.turn id else return tick
  have each (tick : TickState) (id : ActorId) :
      step (tick.under guise) id = (step tick id).map (.under guise) := by
    show (if tick.stage.isScheduled id = true then (tick.under guise).turn id else _) = _
    rw [TickState.turn_under]
    unfold step
    split <;> rfl
  refine bind_commutes (foldlM_commutes each stage.playback.scheduled.ids start) fun ended => ?_
  refine bind_map fun playback => congrArg Except.ok ?_
  have ends := finishIfDrained_under guise { ended.stage with playback }
  exact congrArg (fun finished => finished.1.outcome { ended.report with finished := playback.isDrained }
    (ended.events ++ finished.2)) ends

theorem tick_under :
    (stage.under guise).tick = stage.tick.map (.under guise fun report => report) := by
  unfold tick
  rw [runTick_under]
  show (if stage.isRunning = true then _ else _) = _
  split <;> rfl

theorem disarmed_renumbered (offset : Nat) (actors : List Actor) (timers : TimerQueue) :
    (actors.map (Actor.renamed (offset + ·))).foldl
        (fun timers (actor : Actor) => timers.cancel? actor.bubbleTimer) (timers.renumbered offset) =
      (actors.foldl (fun timers (actor : Actor) => timers.cancel? actor.bubbleTimer) timers).renumbered
        offset := by
  induction actors generalizing timers with
  | nil => rfl
  | cons actor rest ih =>
    rw [List.map_cons, List.foldl_cons, List.foldl_cons, Actor.cancel_bubble_renumbered, ih]

theorem resetAll_under : (stage.under guise).resetAll = stage.resetAll.under guise := by
  unfold resetAll under
  dsimp only
  rw [disarmed_renumbered, List.map_map, List.map_map]
  rfl

theorem play_under :
    (stage.under guise).play = stage.play.map (.under guise fun done => done) := by
  have ready : ((stage.resetAll.under guise).actors.filter fun actor => !actor.program.isEmpty).map
      (·.id) = (stage.resetAll.actors.filter fun actor => !actor.program.isEmpty).map (·.id) := by
    show ((stage.resetAll.actors.map _).filter _).map _ = _
    rw [List.filter_map, List.map_map]
    rfl
  unfold play
  rw [resetAll_under]
  dsimp only
  rw [ready]
  refine bind_map fun playback => congrArg Except.ok ?_
  have ends := finishIfDrained_under guise { stage.resetAll with playback }
  exact congrArg (fun finished => finished.1.outcome () (.playbackStarted :: finished.2)) ends

theorem stop_under : (stage.under guise).stop = stage.stop.under guise fun done => done := by
  unfold stop
  rw [resetAll_under]
  have cleared : (stage.resetAll.under guise).timers.clear =
      stage.resetAll.timers.clear.renumbered guise.offset := TimerQueue.clear_renumbered
  dsimp only
  rw [cleared]
  rfl

/-! ### Time -/

theorem expire_under (timer : BubbleTimer) :
    (stage.under guise).expire (timer.renumbered guise.offset) =
      ((stage.expire timer).1.under guise, (stage.expire timer).2) := by
  have found : (stage.under guise).actor? (timer.renumbered guise.offset).actor = _ :=
    actor?_under guise stage timer.actor
  have changed : (stage.under guise).modify timer.actor Actor.withoutBubble =
      (stage.modify timer.actor Actor.withoutBubble).under guise :=
    modify_under guise stage timer.actor fun _ => rfl
  unfold expire
  rw [found]
  cases stage.actor? timer.actor with
  | none => rfl
  | some actor =>
    cases shown : actor.bubble with
    | none => simp [Actor.renamed, shown]
    | some bubble =>
      have same : (bubble.timer.map (guise.offset + ·) = some (guise.offset + timer.handle)) ↔
          bubble.timer = some timer.handle := by
        cases bubble.timer <;> simp
      simp only [Option.map_some, Option.bind_some, Actor.renamed, shown, BubbleTimer.renumbered, same]
      split
      · exact congrArg (·, _) changed
      · rfl

end Stage

namespace Passage

variable (guise : Guise) (passage : Passage)

def under (guise : Guise) (passage : Passage) : Passage :=
  { passage with stage := passage.stage.under guise }

theorem fireThrough_under (limit : Duration) :
    (passage.under guise).fireThrough limit = (passage.fireThrough limit).under guise := by
  have popDue (passage : Passage) : (passage.under guise).stage.timers.popDue limit =
      (passage.stage.timers.popDue limit).map
        (Prod.map (.renumbered guise.offset) (.renumbered guise.offset)) :=
    TimerQueue.popDue_renumbered limit
  fun_induction fireThrough limit passage with
  | case1 passage popped => exact fireThrough_of_none (by rw [popDue, popped]; rfl)
  | case2 passage timer timers popped fired ih =>
    have due : (passage.under guise).stage.timers.popDue limit =
        some (timer.renumbered guise.offset, timers.renumbered guise.offset) := by
      rw [popDue, popped]
      rfl
    have expires := Stage.expire_under guise { passage.stage with timers, now := timer.deadline } timer
    rw [fireThrough_of_some due, ← ih]
    refine congrArg (fireThrough limit) ?_
    exact congrArg (fun fired => (⟨fired.1,
      passage.notices ++ (fired.2.map fired.1.notice).toArray, passage.reports⟩ : Passage)) expires

theorem tickAt_under (time : Duration) :
    (passage.under guise).tickAt time = (passage.tickAt time).map (.under guise) :=
  bind_commutes (Stage.runTick_under guise { passage.stage with now := time }) fun _ => rfl

theorem runThrough_under (target : Duration) :
    (passage.under guise).runThrough target = (passage.runThrough target).map (.under guise) := by
  fun_induction runThrough target passage with
  | case1 passage idle =>
    rw [runThrough_of_idle (passage.under guise) idle, fireThrough_under]
    rfl
  | case2 passage time tick reached ih =>
    rw [runThrough_of_tick (passage.under guise) tick, if_pos reached, fireThrough_under]
    refine bind_commutes (tickAt_under guise _ time) fun ticked => ?_
    show (if ticked.ticksLeft target < passage.ticksLeft target then _ else _) = _
    split
    · exact ih ticked (by assumption)
    · rfl
  | case3 passage time tick late =>
    rw [runThrough_of_tick (passage.under guise) tick, if_neg late, fireThrough_under]
    rfl

end Passage

namespace Stage

variable (guise : Guise) (stage : Stage)

theorem advanceTime_under (elapsed : Duration) :
    (stage.under guise).advanceTime elapsed =
      (stage.advanceTime elapsed).map (.under guise fun reports => reports) :=
  bind_commutes (Passage.runThrough_under guise { stage } (stage.now.saturatingAdd elapsed)) fun _ => rfl

/-! ### The cast -/

/-- An actor arrives without a bubble, and so without a handle. -/
theorem place_under (actor : Actor) :
    (stage.under guise).place actor = (stage.place actor).map (.under guise fun id => id) := by
  unfold place
  refine bind_map fun (x, y) => congrArg Except.ok ?_
  have actors : stage.actors.map (.renamed (guise.offset + ·)) ++
      [{ actor.rewound with x, y, heading := normalizeHeading actor.heading }] =
      (stage.actors ++ [{ actor.rewound with x, y, heading := normalizeHeading actor.heading }]).map
        (.renamed (guise.offset + ·)) := by
    rw [List.map_append]
    rfl
  exact congrArg (fun actors => ({ stage.under guise with
    actors, active := stage.active <|> some actor.id } : Stage).outcome actor.id [.actorAdded actor.id]) actors

theorem freshId_renamed (rename : Nat → Nat) (actors : List Actor) :
    freshId (actors.map (.renamed rename)) = freshId actors := by
  unfold freshId
  rw [List.map_map]
  rfl

theorem addActor_under :
    (stage.under guise).addActor = stage.addActor.map (.under guise fun id => id) := by
  have fresh : freshId (stage.under guise).actors = freshId stage.actors := freshId_renamed _ _
  unfold addActor
  rw [fresh]
  exact bind_commutes (place_under guise stage _) fun added => rfl

theorem insertActor_under (actor : Actor) :
    (stage.under guise).insertActor actor = (stage.insertActor actor).under guise (.under guise fun id => id) := by
  have found : ((stage.under guise).actor? actor.id).isSome = (stage.actor? actor.id).isSome := by
    rw [actor?_under, Option.isSome_map]
  unfold insertActor
  rw [found]
  cases (stage.actor? actor.id).isSome with
  | true => rfl
  | false =>
    exact bind_under (validate_under guise stage actor.program) fun _ => sound_under (place_under guise stage actor)

theorem removeActor_under (id : ActorId) :
    (stage.under guise).removeActor id =
      (stage.removeActor id).under guise (.under guise (.renamed (guise.offset + ·))) := by
  unfold removeActor
  refine bind_under (require_under guise stage id) fun actor => congrArg Except.ok ?_
  have cast : (stage.under guise).actors.eraseP (·.id == id) =
      (stage.actors.eraseP (·.id == id)).map (.renamed (guise.offset + ·)) := List.eraseP_map ..
  have timers : (stage.under guise).timers.cancelActor id =
      (stage.timers.cancelActor id).renumbered guise.offset := TimerQueue.cancelActor_renumbered id
  dsimp only
  rw [cast, timers, List.head?_map, Option.map_map]
  have ends := finishIfDrained_under guise { stage with
    actors := stage.actors.eraseP (·.id == id)
    active := if stage.active = some id then (stage.actors.eraseP (·.id == id)).head?.map Actor.id
      else stage.active
    timers := stage.timers.cancelActor id
    playback := stage.playback.unschedule id }
  exact congrArg (fun finished => finished.1.outcome (actor.renamed (guise.offset + ·))
    (.actorRemoved id :: finished.2)) ends

theorem setActive_under (id : ActorId) :
    (stage.under guise).setActive id = (stage.setActive id).under guise (.under guise fun done => done) :=
  bind_under (require_under guise stage id) fun _ => rfl

theorem rename_under (id : ActorId) (name : String) :
    (stage.under guise).rename id name = (stage.rename id name).under guise (.under guise fun done => done) :=
  bind_under (require_under guise stage id) fun _ =>
    congrArg Except.ok (update_under guise stage id fun _ => rfl)

theorem setPosition_under (id : ActorId) (x y : Float) :
    (stage.under guise).setPosition id x y =
      (stage.setPosition id x y).under guise (.under guise fun done => done) := by
  refine bind_under (require_under guise stage id) fun _ => ?_
  have clamps : sound (stage.bounds.clamp x y) = (sound (stage.bounds.clamp x y)).under guise fun held => held :=
    sound_under (congrFun Except.map_id _).symm
  exact bind_under clamps fun _ => congrArg Except.ok (update_under guise stage id fun _ => rfl)

theorem setHeading_under (id : ActorId) (degrees : Int) :
    (stage.under guise).setHeading id degrees =
      (stage.setHeading id degrees).under guise (.under guise fun done => done) :=
  bind_under (require_under guise stage id) fun _ =>
    congrArg Except.ok (update_under guise stage id fun _ => rfl)

/-! ### Programs -/

theorem append_under (id : ActorId) (command : Command) :
    (stage.under guise).append id command =
      (stage.append id command).under guise (.under guise fun done => done) :=
  bind_under (check_under guise stage command.validate) fun _ =>
    bind_under (require_under guise stage id) fun _ =>
      congrArg Except.ok (update_under guise stage id fun _ => rfl)

theorem patchCommand_under (id : ActorId) (index : Nat) (patch : Patch) :
    (stage.under guise).patchCommand id index patch =
      (stage.patchCommand id index patch).under guise (.under guise fun done => done) := by
  refine bind_under (require_under guise stage id) fun actor => ?_
  refine bind_under (requireCommand_under guise stage actor index) fun command => ?_
  refine bind_under (check_under guise stage (command.patched patch)) fun patched => ?_
  exact congrArg Except.ok (update_under guise stage id fun _ => rfl)

theorem removeCommand_under (id : ActorId) (index : Nat) :
    (stage.under guise).removeCommand id index =
      (stage.removeCommand id index).under guise (.under guise fun command => command) := by
  refine bind_under (require_under guise stage id) fun actor => ?_
  refine bind_under (requireCommand_under guise stage actor index) fun command => ?_
  let edit (actor : Actor) : Actor := { actor with
    program := actor.program.eraseIdx index, cursor := actor.cursor.commandRemoved index }
  have edited : (stage.under guise).update id edit = (stage.update id edit).under guise _ :=
    update_under guise stage id fun _ => rfl
  exact congrArg (fun edited : Outcome Unit =>
    (Except.ok { edited with value := command } : Attempt (Outcome Command))) edited

theorem swapPrograms_under (a b : ActorId) :
    (stage.under guise).swapPrograms a b =
      (stage.swapPrograms a b).under guise (.under guise fun done => done) := by
  refine bind_under (require_under guise stage a) fun _ => ?_
  refine bind_under (require_under guise stage b) fun _ => ?_
  have traded : tradeIn? (stage.under guise).actors (stage.under guise).timers a b = _ :=
    tradeIn?_renumbered guise.offset stage.actors stage.timers a b
  rw [traded]
  cases tradeIn? stage.actors stage.timers a b with
  | none => rfl
  | some both =>
    have swaps := afterSwap_under guise { stage with actors := both.1, timers := both.2 } (.of a b)
    exact congrArg (fun swapped : Stage =>
      (Except.ok (swapped.outcome () [.programsSwapped (.of a b)]) : Attempt (Outcome Unit))) swaps

theorem executeImmediate_under (id : ActorId) (command : Command) :
    (stage.under guise).executeImmediate id command =
      (stage.executeImmediate id command).under guise (.under guise fun done => done) := by
  refine bind_under (check_under guise stage command.validate) fun _ => ?_
  refine bind_under (require_under guise stage id) fun actor => ?_
  let apply (both : Actor × TimerQueue) (command : Command) := command.apply stage.setting both.1 both.2
  have each (both : Actor × TimerQueue) (command : Command) :
      apply (renumberBoth guise.offset both) command =
        (apply both command).map (renumberBoth guise.offset) :=
    Actor.apply_renumbered stage.setting command
  have start : ((actor.renamed (guise.offset + ·)).withoutBubble,
      (stage.under guise).timers.cancel? (actor.renamed (guise.offset + ·)).bubbleTimer) =
      renumberBoth guise.offset (actor.withoutBubble, stage.timers.cancel? actor.bubbleTimer) :=
    Prod.ext rfl Actor.cancel_bubble_renumbered
  rw [start]
  refine bind_under (sound_under (foldlM_commutes each (command.capped immediateRepeatLimit).unfold
    (actor.withoutBubble, stage.timers.cancel? actor.bubbleTimer))) fun (moved, timers) => ?_
  exact congrArg Except.ok (update_under guise { stage with timers } id fun _ => rfl)

/-! ### Operations -/

theorem answer_under {α : Type} {respond : α → Response} {image : α → α}
    {attempt other : Attempt (Outcome α)}
    (same : ∀ value, respond (image value) = (respond value).renamed (guise.offset + ·))
    (alike : other = attempt.under guise (.under guise image)) :
    answer respond other = (answer respond attempt).map (.under guise (.renamed (guise.offset + ·))) := by
  rw [alike]
  cases attempt with
  | ok outcome =>
    show Except.ok ({ (outcome.under guise image) with value := respond (image outcome.value) } :
      Outcome Response) = _
    rw [same]
    rfl
  | error failure => cases failure <;> rfl

theorem respond_under {α : Type} {respond : α → Response} {attempt other : Except Fault (Outcome α)}
    (same : ∀ value, respond value = (respond value).renamed (guise.offset + ·))
    (alike : other = attempt.map (.under guise fun value => value)) :
    (do return (← other).respond respond) =
      (do return (← attempt).respond respond : Except Fault (Outcome Response)).map
        (.under guise (.renamed (guise.offset + ·))) := by
  refine bind_commutes alike fun outcome => ?_
  show Except.ok ({ (outcome.under guise fun value => value) with value := respond outcome.value } :
    Outcome Response) = _
  rw [same]
  rfl

/-- What happens to a stage under a guise is what happens to the stage, under the guise. -/
theorem perform_under {operation : Operation} (unobserved : operation.observes = false) :
    (stage.under guise).perform operation =
      (stage.perform operation).map (.under guise (.renamed (guise.offset + ·))) := by
  cases operation with
  | addActor => exact respond_under guise (fun _ => rfl) (addActor_under guise stage)
  | insertActor actor => exact answer_under guise (fun _ => rfl) (insertActor_under guise stage actor)
  | removeActor id => exact answer_under guise (fun _ => rfl) (removeActor_under guise stage id)
  | setActive id => exact answer_under guise (fun _ => rfl) (setActive_under guise stage id)
  | rename id name => exact answer_under guise (fun _ => rfl) (rename_under guise stage id name)
  | setPosition id x y =>
    exact answer_under guise (fun _ => rfl) (setPosition_under guise stage id x y)
  | setHeading id degrees =>
    exact answer_under guise (fun _ => rfl) (setHeading_under guise stage id degrees)
  | append id command => exact answer_under guise (fun _ => rfl) (append_under guise stage id command)
  | patchCommand id index patch =>
    exact answer_under guise (fun _ => rfl) (patchCommand_under guise stage id index patch)
  | removeCommand id index =>
    exact answer_under guise (fun _ => rfl) (removeCommand_under guise stage id index)
  | swapPrograms a b => exact answer_under guise (fun _ => rfl) (swapPrograms_under guise stage a b)
  | executeImmediate id command =>
    exact answer_under guise (fun _ => rfl) (executeImmediate_under guise stage id command)
  | play => exact respond_under guise (fun _ => rfl) (play_under guise stage)
  | stop =>
    rw [perform, stop_under]
    rfl
  | tick => exact respond_under guise (fun _ => rfl) (tick_under guise stage)
  | advanceTime elapsed => exact respond_under guise (fun _ => rfl) (advanceTime_under guise stage elapsed)
  | subscribe | unsubscribe number => cases unobserved

/-- A stage is under the guise of its own observers, with no handles before its own. -/
theorem under_own : stage.under ⟨0, stage.observers, stage.registrations⟩ = stage := by
  have timer (timer : BubbleTimer) : timer.renumbered 0 = timer := by
    rw [BubbleTimer.renumbered, Nat.zero_add]
  have actor (actor : Actor) : actor.renamed (0 + ·) = actor := by
    simp only [Actor.renamed, Nat.zero_add, Option.map_id']
  have timers : stage.timers.renumbered 0 = stage.timers :=
    TimerQueue.ext (List.map_id'' timer _) (Nat.zero_add _)
  rw [under, timers, List.map_id'' actor]

/-- Only operations about observers change who observes. -/
theorem observers_of_perform {operation : Operation} {outcome : Outcome Response}
    (unobserved : operation.observes = false) (performed : stage.perform operation = .ok outcome) :
    outcome.stage.observers = stage.observers ∧ outcome.stage.registrations = stage.registrations := by
  have alike := perform_under ⟨0, stage.observers, stage.registrations⟩ stage unobserved
  rw [under_own, performed] at alike
  have same := congrArg Outcome.stage (Except.ok.inj alike)
  rw [same]
  exact ⟨rfl, rfl⟩

/-- No view of a stage tells its guise. -/
theorem snapshot_under : (stage.under guise).snapshot = stage.snapshot := by
  have shown (scheduled : Bool) (actor : Actor) :
      (actor.renamed (guise.offset + ·)).snapshot scheduled = actor.snapshot scheduled := by
    simp only [Actor.snapshot, Actor.speech, Actor.thought, Actor.bubbleText_renamed]
    rfl
  refine congrArg (fun actors => { stage.snapshot with actors }) ?_
  show (stage.actors.map _).map _ = _
  rw [List.map_map]
  exact List.map_congr_left fun actor _ => shown (stage.isScheduled actor.id) actor

end Stage

end SpriteStage
