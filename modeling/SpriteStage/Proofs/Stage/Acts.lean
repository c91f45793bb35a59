import SpriteStage.Stage.Reachable
import SpriteStage.Proofs.Stage.Changes

/-!
# Acts

An act is an elementary change together with the events that tell of it. Acts keep the cast: whoever
is on the stage stays, at the same place. Every operation is a sequence of acts, but for three: an
actor arrives, an actor leaves, playback is stopped. `Course` says which events and which stage an
operation comes to; main statement: every operation takes such a course (`course_of_perform`), on
any stage at all whose period is positive.
-/

namespace SpriteStage

/-- What a request does to the program of an actor and to the cursor in it. -/
inductive Actor.Edited (actor moved : Actor) : Prop
  | kept (program : moved.program = actor.program) (cursor : moved.cursor = actor.cursor)
  | appended (command : Command) (program : moved.program = actor.program ++ [command])
      (cursor : moved.cursor = actor.cursor)
  /-- The cursor leaves the repeat of a command that is replaced. -/
  | patched (index : Nat) (command : Command) (program : moved.program = actor.program.set index command)
      (cursor : moved.cursor = actor.cursor.exitLoop index)
  /-- The cursor follows when a command is taken out. -/
  | removed (index : Nat) (inside : index < actor.program.length)
      (program : moved.program = actor.program.eraseIdx index)
      (cursor : moved.cursor = actor.cursor.commandRemoved index)

namespace Stage

/-- The actors that are scheduled when playback starts. -/
def ready (stage : Stage) : List ActorId :=
  (stage.actors.filter fun actor => !actor.program.isEmpty).map (·.id)

/-- One elementary change of a stage, and what observers are told of it. -/
inductive Act (stage : Stage) : List StageEvent → Stage → Prop
  /-- Selection, timers, clock or observers change, which no view of an actor shows. -/
  | aside (active : Option ActorId) (timers : TimerQueue) (now : Duration) (observers : List Nat)
      (registrations : Nat) : Act stage [] { stage with active, timers, now, observers, registrations }
  /-- An actor changes at a request. -/
  | updated {i : Nat} {actor moved : Actor} (timers : TimerQueue) (here : stage.actors[i]? = some actor)
      (same : moved.id = actor.id) (edited : actor.Edited moved) :
      Act stage [.actorUpdated actor.id] (stage.put i moved timers)
  /-- A scheduled actor takes a step of its program. -/
  | stepped {i : Nat} {actor moved : Actor} {outcome : StepOutcome} {timers : TimerQueue}
      (here : stage.actors[i]? = some actor) (scheduled : stage.isScheduled actor.id = true)
      (advanced : actor.advance stage.setting stage.timers = .ok (outcome, moved, timers)) :
      Act stage [.actorUpdated actor.id] (stage.put i moved timers)
  /-- The bubble of an actor clears by itself. -/
  | cleared {i : Nat} {actor : Actor} (kind : BubbleKind) (here : stage.actors[i]? = some actor) :
      Act stage [.bubbleCleared actor.id kind] (stage.put i actor.withoutBubble stage.timers)
  /-- Two actors start over with the program of the other. -/
  | traded {i j : Nat} {first second : Actor} (timers : TimerQueue) (apart : i ≠ j)
      (here : stage.actors[i]? = some first) (there : stage.actors[j]? = some second) :
      Act stage [.programsSwapped (.of first.id second.id)] { stage with
        actors := (stage.actors.set i { first.rewound with program := second.program }).set j
          { second.rewound with program := first.program }
        timers }
  /-- A pair that cannot trade is told of all the same. -/
  | untraded {pair : ActorPair}
      (none : tradeIn? stage.actors stage.timers pair.first pair.second = none)
      (among : pair.Among (stage.actors.map (·.id))) :
      Act stage [.programsSwapped pair] stage
  /-- An actor goes onto the schedule if it has a program, and off it otherwise. -/
  | rescheduled (id : ActorId) : Act stage [] (stage.reschedule id)
  /-- An actor whose program has run out starts over, off the schedule. -/
  | retired {i : Nat} {actor : Actor} (here : stage.actors[i]? = some actor) :
      Act stage [] { stage.put i { actor with cursor := .start } stage.timers with
        playback := stage.playback.unschedule actor.id }
  /-- Playback starts from the top of every program. -/
  | started (next : Duration) : Act stage [.playbackStarted] { stage.resetAll with
      playback := { stage.playback with state := .running (.ofList stage.resetAll.ready) next, ticks := 0 } }
  /-- The next tick is planned. -/
  | planned (playback : Playback) (period : playback.period = stage.playback.period)
      (running : playback.isRunning = stage.playback.isRunning)
      (scheduled : playback.scheduled = stage.playback.scheduled) : Act stage [] { stage with playback }
  /-- Playback ends with nobody left on the schedule. -/
  | finished (drained : stage.playback.isDrained = true) :
      Act stage [.playbackStopped .finished] { stage with playback := stage.playback.stop }

/-- Acts one after another, and what observers are told of all of them. -/
inductive Acts : Stage → List StageEvent → Stage → Prop
  | nothing {stage : Stage} : Acts stage [] stage
  | next {stage between after : Stage} {events more : List StageEvent}
      (act : Act stage events between) (later : Acts between more after) :
      Acts stage (events ++ more) after

variable {stage between after : Stage} {events more : List StageEvent} {id : ActorId} {actor : Actor}

theorem Acts.single (act : Act stage events after) : Acts stage events after := by
  have one := Acts.next act .nothing
  rwa [List.append_nil] at one

theorem Acts.trans (early : Acts stage events between) (late : Acts between more after) :
    Acts stage (events ++ more) after := by
  induction early with
  | nothing => exact late
  | next act _ ih =>
    rw [List.append_assoc]
    exact .next act (ih late)

/-- An act that nobody is told of goes first. -/
theorem Acts.silently (act : Act stage [] between) (later : Acts between events after) :
    Acts stage events after := .next act later

/-- What every act preserves, acts one after another preserve. -/
theorem Acts.preserves {kept : Stage → Prop}
    (each : ∀ {before events after}, Act before events after → kept before → kept after)
    (acts : Acts stage events after) (holds : kept stage) : kept after := by
  induction acts with
  | nothing => exact holds
  | next act _ ih => exact ih (each act holds)

theorem acts_finishIfDrained (stage : Stage) :
    Acts stage stage.finishIfDrained.2 stage.finishIfDrained.1 := by
  rw [finishIfDrained_eq]
  split
  · exact .single (.finished (by assumption))
  · exact .nothing

theorem acts_afterSwap (stage : Stage) (pair : ActorPair) : Acts stage [] (stage.afterSwap pair) :=
  .silently (.rescheduled pair.first) (.single (.rescheduled pair.second))

theorem acts_trade {actors : List Actor} {timers : TimerQueue} {a b : ActorId}
    (traded : tradeIn? stage.actors stage.timers a b = some (actors, timers)) :
    Acts stage [.programsSwapped (.of a b)] { stage with actors, timers } := by
  obtain ⟨i, j, first, second, apart, finds, here, findsSecond, there, rfl, rfl⟩ :=
    tradeIn?_eq_some traded
  have firstId : first.id = a := stage.actor?_id (find?_of_findIdx? finds here)
  have secondId : second.id = b := stage.actor?_id (find?_of_findIdx? findsSecond there)
  rw [← firstId, ← secondId]
  exact .single (.traded _ apart here there)

end Stage

/-! ### Ticks -/

theorem ActorPair.of_members (pair : ActorPair) : ActorPair.of pair.first pair.second = pair := by
  rw [ActorPair.of, dif_pos pair.first_le]

namespace TickState

open Stage (Acts)

/-- One state of a tick comes after another by acts, and notes what they tell. -/
def ActsTo (tick after : TickState) : Prop :=
  ∃ more, after.events = tick.events ++ more ∧ Acts tick.stage more after.stage

variable {tick after : TickState} {id : ActorId}

theorem ActsTo.refl (tick : TickState) : ActsTo tick tick := ⟨[], by simp, .nothing⟩

theorem ActsTo.trans {first second third : TickState} (early : ActsTo first second)
    (late : ActsTo second third) : ActsTo first third := by
  obtain ⟨more, grown, acts⟩ := early
  obtain ⟨further, grownFurther, actsFurther⟩ := late
  exact ⟨more ++ further, by rw [grownFurther, grown, List.append_assoc], acts.trans actsFurther⟩

/-- Taking an actor without a program off the schedule brings the schedule in line with it. -/
theorem actsTo_drop (bare : ∀ actor, tick.stage.actor? id = some actor → actor.program = []) :
    ActsTo tick (tick.drop id) := by
  refine ⟨[], by simp [drop], .single ?_⟩
  have empty : (tick.stage.actor? id).any (fun actor => !actor.program.isEmpty) = false := by
    cases found : tick.stage.actor? id with
    | none => rfl
    | some actor => simp [bare actor found]
  have same : (tick.drop id).stage = tick.stage.reschedule id := by
    simp [drop, Stage.reschedule, empty]
  rw [same]
  exact .rescheduled id

theorem actsTo_moved {actor moved : Actor} {outcome : StepOutcome} {timers : TimerQueue}
    (found : tick.stage.actor? id = some actor) (scheduled : tick.stage.isScheduled id = true)
    (advanced : actor.advance tick.stage.setting tick.stage.timers = .ok (outcome, moved, timers)) :
    ActsTo tick (tick.moved id outcome moved timers) := by
  obtain ⟨i, here, changed⟩ := Stage.modify_eq_put found
  have same := Stage.actor?_id found
  refine ⟨[.actorUpdated id], rfl, ?_⟩
  show Acts tick.stage _ { tick.stage.modify id (fun _ => moved) with timers }
  rw [changed, ← same]
  exact .single (.stepped here (same ▸ scheduled) advanced)

/-- Trades one after another, each told of. -/
theorem acts_trades {swaps : List ActorPair} {stage : Stage}
    (among : ∀ pair ∈ swaps, pair.Among (stage.actors.map (·.id))) {actors : List Actor}
    {timers : TimerQueue} (folded : tradeAll swaps (stage.actors, stage.timers) = (actors, timers)) :
    Acts stage (swaps.map .programsSwapped) { stage with actors, timers } := by
  induction swaps generalizing stage with
  | nil =>
    cases folded
    exact .nothing
  | cons pair rest ih =>
    rw [List.forall_mem_cons] at among
    cases traded : tradeIn? stage.actors stage.timers pair.first pair.second with
    | none =>
      simp only [tradeAll_cons, traded, Option.getD_none] at folded
      exact .next (.untraded traded among.1) (ih among.2 folded)
    | some both =>
      simp only [tradeAll_cons, traded, Option.getD_some] at folded
      have trades := Stage.acts_trade traded
      rw [ActorPair.of_members] at trades
      let between : Stage := { stage with actors := both.1, timers := both.2 }
      have later : ∀ pair ∈ rest, pair.Among (between.actors.map (·.id)) := by
        rw [(Stage.frame_of_touches (Stage.touches_trade traded)).cast]
        exact among.2
      exact trades.trans (ih later folded)

theorem acts_afterSwaps (swaps : List ActorPair) (stage : Stage) :
    Acts stage [] (swaps.foldl Stage.afterSwap stage) := by
  induction swaps generalizing stage with
  | nil => exact .nothing
  | cons pair rest ih => exact (Stage.acts_afterSwap stage pair).trans (ih _)

theorem actsTo_resolve (tick : TickState) : ActsTo tick tick.resolve := by
  refine ⟨_, rfl, ?_⟩
  let swaps := (resolveCollisions tick.stage.config.collisionDistance tick.stage.actors tick.busy
    tick.stage.timers).swaps
  have among : ∀ pair ∈ swaps, pair.Among (tick.stage.actors.map (·.id)) := fun pair member =>
    among_of_mem_collidingPairs ((selectSwaps_sublist _ _).subset member)
  have trades := acts_trades among rfl
  have all := trades.trans (acts_afterSwaps swaps _)
  rwa [List.append_nil] at all

theorem actsTo_retire (tick : TickState) (id : ActorId) : ActsTo tick (tick.retire id) := by
  unfold retire
  cases found : tick.stage.actor? id with
  | none => exact .refl tick
  | some actor =>
    rw [Option.any_some]
    split
    · obtain ⟨i, here, changed⟩ := Stage.modify_eq_put found
      refine ⟨[], by simp, ?_⟩
      have put := changed (fun actor => { actor with cursor := .start }) tick.stage.timers
      have retires := Stage.Act.retired here
      rw [← put, Stage.actor?_id found] at retires
      exact .single retires
    · exact .refl tick

/-- The turn of a scheduled actor is a sequence of acts. -/
theorem actsTo_turn (scheduled : tick.stage.isScheduled id = true)
    (turned : tick.turn id = .ok after) : ActsTo tick after := by
  have running : tick.stage.isRunning = true :=
    Playback.isRunning_of_mem (of_decide_eq_true scheduled)
  unfold turn at turned
  split at turned
  · rename_i gone
    cases turned
    exact actsTo_drop fun actor found => by rw [gone] at found; cases found
  · rename_i actor found
    split at turned
    · obtain ⟨⟨outcome, moved, timers⟩, advanced, turned⟩ := bind_eq_ok.mp turned
      cases turned
      exact ((actsTo_moved found scheduled advanced).trans (actsTo_resolve _)).trans (actsTo_retire _ id)
    · rename_i bare
      cases turned
      refine actsTo_drop fun other found' => ?_
      rw [found] at found'
      cases found'
      simpa [running] using bare

end TickState

namespace Stage

variable {stage between after : Stage} {events more : List StageEvent} {id : ActorId} {actor : Actor}

/-- The events among notices. -/
def told (notices : List Notice) : List StageEvent := notices.map (·.event)

@[simp] theorem told_outcome {α : Type} (stage : Stage) (value : α) (events : List StageEvent) :
    told (stage.outcome value events).notices = events := by
  simp [told, outcome, notice, Function.comp_def]

theorem acts_runTick {outcome : Outcome TickReport} (ran : stage.runTick = .ok outcome) :
    Acts stage (told outcome.notices) outcome.stage := by
  obtain ⟨ended, turns, ran⟩ := bind_eq_ok.mp ran
  obtain ⟨playback, planned, ran⟩ := bind_eq_ok.mp ran
  cases ran
  have acts : TickState.ActsTo { stage, report := { time := stage.now } } ended := by
    refine foldlM_follows TickState.ActsTo.refl TickState.ActsTo.trans ?_ turns
    intro tick id after step
    split at step
    · exact TickState.actsTo_turn (by assumption) step
    · cases step
      exact .refl tick
  obtain ⟨more, grown, acts⟩ := acts
  obtain ⟨period, -⟩ := Playback.tickCompleted_planned planned
  obtain ⟨running, scheduled⟩ := Playback.tickCompleted_kept planned
  rw [List.nil_append] at grown
  rw [told_outcome, grown]
  exact acts.trans (.silently (.planned playback period running scheduled) (acts_finishIfDrained _))

theorem acts_tick {outcome : Outcome TickReport} (ran : stage.tick = .ok outcome) :
    Acts stage (told outcome.notices) outcome.stage := by
  unfold tick at ran
  split at ran
  · exact acts_runTick ran
  · cases ran
    exact .nothing

theorem acts_play {outcome : Outcome Unit} (played : stage.play = .ok outcome) :
    Acts stage (told outcome.notices) outcome.stage := by
  obtain ⟨playback, starts, played⟩ := bind_eq_ok.mp played
  obtain ⟨next, -, starts⟩ := bind_eq_ok.mp starts
  cases played
  cases starts
  rw [told_outcome]
  exact .next (.started next) (acts_finishIfDrained _)

/-! ### Time -/

theorem acts_expire (stage : Stage) (timer : BubbleTimer) :
    Acts stage (stage.expire timer).2 (stage.expire timer).1 := by
  by_cases shows : stage.Shows timer
  · rw [expire_of_shows shows]
    obtain ⟨actor, -, found, -⟩ := shows
    obtain ⟨i, here, changed⟩ := modify_eq_put found
    have clears := Act.cleared timer.kind here
    rw [← changed Actor.withoutBubble stage.timers, actor?_id found] at clears
    exact .single clears
  · rw [expire_of_stale shows]
    exact .nothing

theorem acts_of_happens {happening : Happening} (happens : stage.Happens happening after) :
    Acts stage (told happening.notices) after := by
  cases happens with
  | @cleared timer timers popped first =>
    have waits : Act stage [] { stage with timers, now := timer.deadline } :=
      .aside stage.active timers timer.deadline stage.observers stage.registrations
    have told : told (Happening.cleared { stage with timers, now := timer.deadline } timer).notices =
        ({ stage with timers, now := timer.deadline }.expire timer).2 := by
      simp [Stage.told, Happening.notices, notice, Function.comp_def]
    rw [told]
    exact .silently waits (acts_expire _ timer)
  | @ticked time outcome due first ran =>
    have waits : Act stage [] { stage with now := time } :=
      .aside stage.active stage.timers time stage.observers stage.registrations
    exact .silently waits (acts_runTick ran)

theorem acts_of_unfolds {target : Duration} {log : List Happening} {last : Stage}
    (unfolds : stage.Unfolds target log last) :
    Acts stage (told (log.flatMap Happening.notices)) last := by
  induction unfolds with
  | nothing => exact .nothing
  | next happens reached later ih =>
    rw [List.flatMap_cons, told, List.map_append]
    exact (acts_of_happens happens).trans ih

theorem acts_advanceTime {elapsed : Duration} {outcome : Outcome (List TickReport)}
    (period : 0 < stage.playback.period.nanos) (done : stage.advanceTime elapsed = .ok outcome) :
    Acts stage (told outcome.notices) outcome.stage := by
  obtain ⟨log, last, unfolds, -, rfl⟩ := unfolds_of_advanceTime period done
  have waits : Act last [] { last with now := stage.now.saturatingAdd elapsed } :=
    .aside last.active last.timers (stage.now.saturatingAdd elapsed) last.observers last.registrations
  have all := (acts_of_unfolds unfolds).trans (.single waits)
  rwa [List.append_nil] at all

/-! ### Requests -/

theorem acts_of_updated {α : Type} {moved : Actor} {outcome : Outcome α}
    (updated : stage.Updated id actor moved outcome) (same : moved.id = actor.id)
    (edited : actor.Edited moved) : Acts stage (told outcome.notices) outcome.stage := by
  obtain ⟨i, here, after⟩ := updated.place
  have tells : told outcome.notices = [.actorUpdated actor.id] := by
    rw [updated.notices, actor?_id updated.found]
    rfl
  rw [tells, after]
  exact .single (.updated stage.timers here same edited)

theorem acts_rename {name : String} {outcome : Outcome Unit} (done : stage.rename id name = .ok outcome) :
    Acts stage (told outcome.notices) outcome.stage := by
  obtain ⟨actor, updated⟩ := updated_of_rename done
  exact acts_of_updated updated rfl (.kept rfl rfl)

theorem acts_setPosition {x y : Float} {outcome : Outcome Unit}
    (done : stage.setPosition id x y = .ok outcome) :
    Acts stage (told outcome.notices) outcome.stage := by
  obtain ⟨actor, _, _, -, -, updated⟩ := updated_of_setPosition done
  exact acts_of_updated updated rfl (.kept rfl rfl)

theorem acts_setHeading {degrees : Int} {outcome : Outcome Unit}
    (done : stage.setHeading id degrees = .ok outcome) :
    Acts stage (told outcome.notices) outcome.stage := by
  obtain ⟨actor, updated⟩ := updated_of_setHeading done
  exact acts_of_updated updated rfl (.kept rfl rfl)

theorem acts_append {command : Command} {outcome : Outcome Unit}
    (done : stage.append id command = .ok outcome) :
    Acts stage (told outcome.notices) outcome.stage := by
  obtain ⟨actor, -, updated⟩ := updated_of_append done
  exact acts_of_updated updated rfl (.appended command rfl rfl)

theorem acts_patchCommand {index : Nat} {patch : Patch} {outcome : Outcome Unit}
    (done : stage.patchCommand id index patch = .ok outcome) :
    Acts stage (told outcome.notices) outcome.stage := by
  obtain ⟨actor, command, patched, -, -, updated⟩ := updated_of_patchCommand done
  exact acts_of_updated updated rfl (.patched index patched rfl rfl)

theorem acts_removeCommand {index : Nat} {outcome : Outcome Command}
    (done : stage.removeCommand id index = .ok outcome) :
    Acts stage (told outcome.notices) outcome.stage := by
  obtain ⟨actor, removed, updated⟩ := updated_of_removeCommand done
  obtain ⟨inside, -⟩ := List.getElem?_eq_some_iff.mp removed
  exact acts_of_updated updated rfl (.removed index inside rfl rfl)

theorem acts_swapPrograms {a b : ActorId} {outcome : Outcome Unit}
    (done : stage.swapPrograms a b = .ok outcome) :
    Acts stage (told outcome.notices) outcome.stage := by
  obtain ⟨_, -, done⟩ := bind_eq_ok.mp done
  obtain ⟨_, -, done⟩ := bind_eq_ok.mp done
  split at done
  · cases done
    exact .nothing
  · rename_i actors timers traded
    cases done
    rw [told_outcome]
    exact (acts_trade traded).trans (acts_afterSwap _ _)

/-- Carrying out plain commands leaves an actor what it is but for its pose and its bubble. -/
theorem applyAll_frame {setting : Setting} {commands : List Command} {moved : Actor}
    {timers later : TimerQueue}
    (applied : commands.foldlM (fun (actor, timers) command => command.apply setting actor timers)
      (actor, timers) = .ok (moved, later)) :
    moved.id = actor.id ∧ moved.name = actor.name ∧ moved.program = actor.program ∧
      moved.cursor = actor.cursor := by
  induction commands generalizing actor timers with
  | nil =>
    cases applied
    exact ⟨rfl, rfl, rfl, rfl⟩
  | cons command rest ih =>
    rw [List.foldlM_cons] at applied
    obtain ⟨⟨between, after⟩, first, applied⟩ := bind_eq_ok.mp applied
    obtain ⟨id, name, program, cursor⟩ := Command.apply_frame first
    obtain ⟨idLater, nameLater, programLater, cursorLater⟩ := ih applied
    exact ⟨idLater.trans id, nameLater.trans name, programLater.trans program, cursorLater.trans cursor⟩

theorem acts_executeImmediate {command : Command} {outcome : Outcome Unit}
    (done : stage.executeImmediate id command = .ok outcome) :
    Acts stage (told outcome.notices) outcome.stage := by
  obtain ⟨actor, moved, timers, applied, updated⟩ := updated_of_executeImmediate done
  obtain ⟨same, -, program, cursor⟩ := applyAll_frame applied
  have arms : Act stage [] { stage with timers } :=
    .aside stage.active timers stage.now stage.observers stage.registrations
  exact .silently arms (acts_of_updated updated same (.kept program cursor))

/-! ### Operations -/

/-- What an operation tells observers, and the stage it leads to. -/
inductive Course (stage : Stage) : Operation → List StageEvent → Stage → Prop
  | acts {operation : Operation} {events : List StageEvent} {after : Stage}
      (acts : Acts stage events after) : Course stage operation events after
  /-- An actor arrives, at the start of its program. -/
  | arrived {operation : Operation} (actor : Actor) (active : Option ActorId)
      (rewound : actor.rewound = actor) : Course stage operation [.actorAdded actor.id]
        { stage with actors := stage.actors ++ [actor], active }
  /-- An actor leaves, with its timers and its place on the schedule. -/
  | departed {id : ActorId} {events : List StageEvent} {after : Stage} (active : Option ActorId)
      (acts : Acts { stage with
        actors := stage.actors.eraseP (·.id == id)
        active
        timers := stage.timers.cancelActor id
        playback := stage.playback.unschedule id } events after)
      (present : id ∈ stage.actors.map (·.id)) :
      Course stage (.removeActor id) (.actorRemoved id :: events) after
  | stopped : Course stage .stop (told stage.stop.notices) stage.stop.stage

theorem course_place {operation : Operation} {outcome : Outcome ActorId}
    (placed : stage.place actor = .ok outcome) :
    stage.Course operation (told outcome.notices) outcome.stage := by
  obtain ⟨⟨x, y⟩, -, placed⟩ := bind_eq_ok.mp placed
  cases placed
  rw [told_outcome]
  exact .arrived { actor.rewound with x, y, heading := normalizeHeading actor.heading } _ rfl

theorem course_insertActor {operation : Operation} {outcome : Outcome ActorId}
    (inserted : stage.insertActor actor = .ok outcome) :
    stage.Course operation (told outcome.notices) outcome.stage := by
  unfold insertActor at inserted
  split at inserted
  · cases inserted
  · obtain ⟨_, -, inserted⟩ := bind_eq_ok.mp inserted
    exact course_place (sound_eq_ok.mp inserted)

theorem course_addActor {operation : Operation} {outcome : Outcome ActorId}
    (added : stage.addActor = .ok outcome) :
    stage.Course operation (told outcome.notices) outcome.stage := by
  obtain ⟨placed, places, added⟩ := bind_eq_ok.mp added
  cases added
  obtain ⟨⟨x, y⟩, -, places⟩ := bind_eq_ok.mp places
  cases places
  let id := freshId stage.actors
  let sprite : Actor := { id := id, name := s!"Sprite {id}" }
  exact .arrived { sprite.rewound with x, y, heading := normalizeHeading sprite.heading } (some id) rfl

theorem course_removeActor {outcome : Outcome Actor} (removed : stage.removeActor id = .ok outcome) :
    stage.Course (.removeActor id) (told outcome.notices) outcome.stage := by
  obtain ⟨actor, required, removed⟩ := bind_eq_ok.mp removed
  cases removed
  have found := require_eq_ok.mp required
  have present := List.mem_map.mpr ⟨actor, List.mem_of_find?_eq_some found, actor?_id found⟩
  rw [told_outcome]
  exact .departed _ (acts_finishIfDrained _) present

/-- Every operation takes a course. -/
theorem course_of_perform {operation : Operation} {outcome : Outcome Response}
    (period : 0 < stage.playback.period.nanos) (performed : stage.perform operation = .ok outcome) :
    stage.Course operation (told outcome.notices) outcome.stage := by
  cases performed_of_perform performed with
  | refused error => exact .acts .nothing
  | addActor added => exact course_addActor added
  | insertActor inserted => exact course_insertActor inserted
  | removeActor removed => exact course_removeActor removed
  | setActive done =>
    obtain ⟨actor, -, done⟩ := bind_eq_ok.mp done
    cases done
    exact .acts (.single (.aside _ stage.timers stage.now stage.observers stage.registrations))
  | rename done => exact .acts (acts_rename done)
  | setPosition done => exact .acts (acts_setPosition done)
  | setHeading done => exact .acts (acts_setHeading done)
  | append done => exact .acts (acts_append done)
  | patchCommand done => exact .acts (acts_patchCommand done)
  | removeCommand removed => exact .acts (acts_removeCommand removed)
  | swapPrograms done => exact .acts (acts_swapPrograms done)
  | executeImmediate done => exact .acts (acts_executeImmediate done)
  | play played => exact .acts (acts_play played)
  | stop => exact .stopped
  | tick ticked => exact .acts (acts_tick ticked)
  | advanceTime advanced => exact .acts (acts_advanceTime period advanced)
  | subscribe => exact .acts (.single (.aside stage.active stage.timers stage.now _ _))
  | unsubscribe number =>
    exact .acts (.single (.aside stage.active stage.timers stage.now _ stage.registrations))

/-! ### Runs -/

/-- Acts keep the cast, in its order. -/
theorem Act.cast (act : Act stage events after) :
    after.actors.map (·.id) = stage.actors.map (·.id) := by
  cases act with
  | updated timers here same edited => exact map_set_same here same
  | stepped here scheduled advanced => exact map_set_same here (Actor.advance_frame advanced).1
  | cleared kind here => exact map_set_same here rfl
  | traded timers apart here there => exact map_set_set_same apart here there rfl rfl
  | retired here => exact map_set_same here rfl
  | started next => exact List.map_map
  | _ => rfl

theorem Acts.cast (acts : Acts stage events after) :
    after.actors.map (·.id) = stage.actors.map (·.id) := by
  induction acts with
  | nothing => rfl
  | next act _ ih => exact ih.trans act.cast

theorem Act.period (act : Act stage events after) :
    after.playback.period = stage.playback.period := by
  cases act with
  | rescheduled id =>
    unfold reschedule
    dsimp only
    split <;> simp
  | retired here => exact Playback.period_unschedule _ _
  | planned playback period => exact period
  | _ => rfl

theorem Acts.period (acts : Acts stage events after) :
    after.playback.period = stage.playback.period := by
  induction acts with
  | nothing => rfl
  | next act _ ih => exact ih.trans act.period

theorem Course.period {operation : Operation} (course : stage.Course operation events after) :
    after.playback.period = stage.playback.period := by
  cases course with
  | acts acts => exact acts.period
  | arrived actor active rewound => rfl
  | departed active acts => exact acts.period.trans (Playback.period_unschedule _ _)
  | stopped => rfl

/-- On the stages to start from, actors arrived and nothing else happened. -/
theorem holds_of_opening {config : Config} {holds : Stage → Prop} (empty : holds (unchecked config))
    (arrived : ∀ {stage : Stage} {actor : Actor} (active : Option ActorId), holds stage →
      actor.rewound = actor → holds { stage with actors := stage.actors ++ [actor], active })
    (opening : Opening config stage) : holds stage := by
  cases opening with
  | empty starts =>
    rw [(ofConfig_eq_ok starts).2]
    exact empty
  | cast starts populated =>
    rw [(ofConfig_eq_ok starts).2] at populated
    refine @foldlM_follows _ _ _ (fun before after => holds before → holds after) _
      (fun _ => id) (fun early late => late ∘ early) ?_ _ _ _ populated empty
    intro before actor after step held
    obtain ⟨outcome, places, same⟩ := bind_eq_ok.mp step
    cases same
    obtain ⟨⟨x, y⟩, -, places⟩ := bind_eq_ok.mp places
    cases places
    exact arrived _ held rfl

/-- The period of a reachable stage is positive, however many actors were added. -/
theorem ReachableBy.period_pos {allowed : Stage → Operation → Prop} {config : Config}
    (reachable : ReachableBy allowed config stage) : 0 < stage.playback.period.nanos := by
  induction reachable with
  | opening opening =>
    obtain ⟨valid, changes⟩ := changes_of_opening opening
    rw [(settled_of_changes changes).2]
    exact (Config.valid_of_validate valid).tickPeriod_pos
  | step _ _ performed ih =>
    rw [(course_of_perform ih performed).period]
    exact ih

/-- An operation on a reachable stage takes a course. -/
theorem ReachableBy.course {allowed : Stage → Operation → Prop} {config : Config}
    {operation : Operation} {outcome : Outcome Response} (reachable : ReachableBy allowed config stage)
    (performed : stage.perform operation = .ok outcome) :
    stage.Course operation (told outcome.notices) outcome.stage :=
  course_of_perform reachable.period_pos performed

end Stage

end SpriteStage
