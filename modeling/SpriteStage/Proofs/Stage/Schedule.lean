import SpriteStage.Proofs.Stage.Acts

/-!
# Who is scheduled

Whoever is scheduled is on the stage (`castScheduled_of_reachable`), and only while playback runs is
anyone scheduled. Every operation that takes an actor off the schedule ends playback with the last
one, but for a swap of two actors without programs. Main statement: `running_iff_scheduled`. As long
as no such swap was made, playback runs exactly while an actor on the stage is scheduled.
-/

namespace SpriteStage

/-- Whether an operation takes the last actors off the schedule and leaves playback running: it swaps
two actors without programs, and nobody else is scheduled. -/
def Operation.Strands (stage : Stage) : Operation → Prop
  | .swapPrograms a b => a ≠ b ∧ stage.isRunning = true ∧
      (∃ first second, stage.actor? a = some first ∧ stage.actor? b = some second ∧
        first.program = [] ∧ second.program = []) ∧
      ∀ id, id ∈ stage.playback.scheduled → id = a ∨ id = b
  | _ => False

/-- Whether an operation may change playback. -/
def Operation.drives : Operation → Bool
  | .removeActor _ | .swapPrograms _ _ | .play | .stop | .tick | .advanceTime _ => true
  | _ => false

namespace Stage

/-- Playback runs exactly while an actor on the stage is scheduled. -/
def Staffed (stage : Stage) : Prop :=
  stage.isRunning = true ↔ ∃ actor ∈ stage.actors, stage.isScheduled actor.id = true

/-- Whoever is scheduled is on the stage. -/
def CastScheduled (stage : Stage) : Prop :=
  ∀ id, id ∈ stage.playback.scheduled → ∃ actor ∈ stage.actors, actor.id = id

variable {stage after : Stage} {events : List StageEvent} {id other : ActorId}

/-- On a stage where only the cast is scheduled, playback has something to run unless it is drained. -/
theorem staffed_iff (castScheduled : CastScheduled stage) :
    Staffed stage ↔ stage.playback.isDrained = false := by
  have running_of_scheduled : (∃ actor ∈ stage.actors, stage.isScheduled actor.id = true) →
      stage.isRunning = true := fun ⟨_, _, scheduled⟩ =>
    Playback.isRunning_of_mem (of_decide_eq_true scheduled)
  rw [← Bool.not_eq_true, Playback.isDrained_iff]
  constructor
  · rintro staffed ⟨running, empty⟩
    obtain ⟨actor, -, scheduled⟩ := staffed.mp running
    exact empty actor.id (of_decide_eq_true scheduled)
  · refine fun busy => ⟨fun running => ?_, running_of_scheduled⟩
    by_contra nobody
    refine busy ⟨running, fun id member => nobody ?_⟩
    obtain ⟨actor, stands, rfl⟩ := castScheduled id member
    exact ⟨actor, stands, decide_eq_true member⟩

/-! ### Only the cast is scheduled -/

theorem castScheduled_of_cast (castScheduled : CastScheduled stage)
    (cast : after.actors.map (·.id) = stage.actors.map (·.id))
    (scheduled : ∀ id, id ∈ after.playback.scheduled → id ∈ stage.playback.scheduled) :
    CastScheduled after := by
  intro id member
  obtain ⟨actor, stands, same⟩ := castScheduled id (scheduled id member)
  have among : id ∈ after.actors.map (·.id) := by
    rw [cast, ← same]
    exact List.mem_map_of_mem stands
  exact List.mem_map.mp among

/-- Whether the actor that goes by an identifier has a program. -/
def hasProgram (stage : Stage) (id : ActorId) : Bool :=
  (stage.actor? id).any fun actor => !actor.program.isEmpty

/-- An actor is on the schedule afterwards if it has a program; nobody else comes or goes. -/
theorem mem_scheduled_reschedule :
    other ∈ (stage.reschedule id).playback.scheduled ↔
      other ≠ id ∧ other ∈ stage.playback.scheduled ∨
        other = id ∧ stage.isRunning = true ∧ stage.hasProgram id = true := by
  unfold reschedule hasProgram
  dsimp only
  split
  · rename_i program
    rw [Playback.mem_scheduled_schedule]
    by_cases same : other = id
    · simp only [same, ne_eq, not_true, false_and, true_and, and_true, false_or, program]
      exact ⟨fun member => member.elim Playback.isRunning_of_mem fun running => running, .inr⟩
    · simp [same]
  · rename_i bare
    rw [Playback.mem_scheduled_unschedule]
    by_cases same : other = id
    · simp [same, bare]
    · simp [same]

theorem castScheduled_of_act (act : Act stage events after) (castScheduled : CastScheduled stage) :
    CastScheduled after := by
  have cast := act.cast
  cases act with
  | rescheduled id =>
    intro other member
    rcases mem_scheduled_reschedule.mp member with ⟨-, member⟩ | ⟨rfl, -, program⟩
    · exact castScheduled other member
    · obtain ⟨actor, found, -⟩ := (Option.any_eq_true _ _).mp program
      exact ⟨actor, List.mem_of_find?_eq_some found, actor?_id found⟩
  | retired here =>
    exact castScheduled_of_cast castScheduled cast fun _ member =>
      (Playback.mem_scheduled_unschedule.mp member).1
  | started next =>
    intro id member
    have ready : id ∈ stage.resetAll.ready := IdSet.mem_ofList.mp member
    obtain ⟨actor, stands, same⟩ := List.mem_map.mp ready
    exact ⟨actor, (List.mem_filter.mp stands).1, same⟩
  | planned playback period running scheduled =>
    exact castScheduled_of_cast castScheduled cast fun _ member => scheduled ▸ member
  | finished drained => exact fun id member => absurd member (IdSet.not_mem_empty id)
  | _ => exact castScheduled_of_cast castScheduled cast fun _ member => member

theorem castScheduled_of_course {operation : Operation} (course : stage.Course operation events after)
    (castScheduled : CastScheduled stage) : CastScheduled after := by
  cases course with
  | acts acts => exact acts.preserves castScheduled_of_act castScheduled
  | arrived actor active rewound =>
    intro id member
    obtain ⟨other, stands, same⟩ := castScheduled id member
    exact ⟨other, List.mem_append_left _ stands, same⟩
  | departed active acts =>
    refine acts.preserves castScheduled_of_act fun id member => ?_
    obtain ⟨member, other⟩ := Playback.mem_scheduled_unschedule.mp member
    obtain ⟨actor, stands, rfl⟩ := castScheduled id member
    exact ⟨actor, (List.mem_eraseP_of_neg (by simpa using other)).mpr stands, rfl⟩
  | stopped =>
    intro id member
    exact absurd member (IdSet.not_mem_empty id)

theorem castScheduled_of_reachable {allowed : Stage → Operation → Prop} {config : Config}
    (reachable : ReachableBy allowed config stage) : CastScheduled stage := by
  induction reachable with
  | opening opening =>
    refine holds_of_opening (fun id member => absurd member (IdSet.not_mem_empty id)) ?_ opening
    intro stage actor active castScheduled rewound
    have arrives : stage.Course .addActor _ _ := .arrived actor active rewound
    exact castScheduled_of_course arrives castScheduled
  | step reachable _ performed ih => exact castScheduled_of_course (reachable.course performed) ih

/-! ### Swaps -/

@[simp] theorem isRunning_reschedule (stage : Stage) (id : ActorId) :
    (stage.reschedule id).isRunning = stage.isRunning := by
  unfold reschedule isRunning
  dsimp only
  split <;> simp

@[simp] theorem hasProgram_reschedule (stage : Stage) (id other : ActorId) :
    (stage.reschedule id).hasProgram other = stage.hasProgram other := rfl

/-- After a swap its two actors are on the schedule if they have a program; nobody else comes or goes. -/
theorem mem_scheduled_afterSwap (running : stage.isRunning = true) (pair : ActorPair) (id : ActorId) :
    id ∈ (stage.afterSwap pair).playback.scheduled ↔ pair.involves id = true ∧ stage.hasProgram id = true ∨
      ¬ pair.involves id = true ∧ id ∈ stage.playback.scheduled := by
  simp only [afterSwap, mem_scheduled_reschedule, isRunning_reschedule, hasProgram_reschedule, running,
    true_and, ActorPair.involves_iff]
  constructor
  · rintro (⟨notSecond, ⟨notFirst, member⟩ | ⟨rfl, program⟩⟩ | ⟨rfl, program⟩)
    · exact .inr ⟨not_or.mpr ⟨Ne.symm notFirst, Ne.symm notSecond⟩, member⟩
    · exact .inl ⟨.inl rfl, program⟩
    · exact .inl ⟨.inr rfl, program⟩
  · rintro (⟨rfl | rfl, program⟩ | ⟨outside, member⟩)
    · by_cases same : pair.first = pair.second
      · exact .inr ⟨same, same ▸ program⟩
      · exact .inl ⟨same, .inr ⟨rfl, program⟩⟩
    · exact .inr ⟨rfl, program⟩
    · rw [not_or] at outside
      exact .inl ⟨Ne.symm outside.2, .inl ⟨Ne.symm outside.1, member⟩⟩

/-- A swap leaves nobody on the schedule when neither actor has a program and nobody else was on
it. -/
theorem isDrained_afterSwap (pair : ActorPair) :
    (stage.afterSwap pair).playback.isDrained = true ↔ stage.isRunning = true ∧
      stage.hasProgram pair.first = false ∧ stage.hasProgram pair.second = false ∧
      ∀ id, id ∈ stage.playback.scheduled → id = pair.first ∨ id = pair.second := by
  have running : (stage.afterSwap pair).playback.isRunning = stage.isRunning := by
    show (stage.afterSwap pair).isRunning = stage.isRunning
    simp [afterSwap]
  rw [Playback.isDrained_iff, running]
  refine and_congr_right fun runs => ?_
  simp only [mem_scheduled_afterSwap runs, ActorPair.involves_iff]
  constructor
  · intro nobody
    refine ⟨?_, ?_, fun id member => ?_⟩
    · by_contra program
      exact nobody pair.first (.inl ⟨.inl rfl, by simpa using program⟩)
    · by_contra program
      exact nobody pair.second (.inl ⟨.inr rfl, by simpa using program⟩)
    · by_contra other
      refine nobody id (.inr ⟨fun involved => other (involved.imp Eq.symm Eq.symm), member⟩)
  · rintro ⟨first, second, others⟩ id (⟨rfl | rfl, program⟩ | ⟨outside, member⟩)
    · rw [first] at program
      cases program
    · rw [second] at program
      cases program
    · exact outside ((others id member).imp Eq.symm Eq.symm)

theorem isDrained_afterSwap_of (a b : ActorId) :
    (stage.afterSwap (.of a b)).playback.isDrained = true ↔ stage.isRunning = true ∧
      stage.hasProgram a = false ∧ stage.hasProgram b = false ∧
      ∀ id, id ∈ stage.playback.scheduled → id = a ∨ id = b := by
  unfold ActorPair.of
  split
  · exact isDrained_afterSwap _
  · rw [isDrained_afterSwap]
    simp only [or_comm, and_left_comm]

/-- Where an actor stands depends on the identifiers only. -/
theorem findIdx?_of_cast {actors later : List Actor} (cast : later.map (·.id) = actors.map (·.id)) :
    later.findIdx? (·.id == id) = actors.findIdx? (·.id == id) := by
  have through (cast : List Actor) :
      cast.findIdx? (·.id == id) = (cast.map (·.id)).findIdx? (· == id) := by
    rw [List.findIdx?_map]
    rfl
  rw [through, cast, ← through]

variable {a b : ActorId} {first second : Actor} {actors : List Actor} {timers : TimerQueue}

/-- After a trade each actor goes on with the program of the other. -/
theorem find?_of_tradeIn? (traded : tradeIn? stage.actors stage.timers a b = some (actors, timers))
    (foundFirst : stage.actor? a = some first) (foundSecond : stage.actor? b = some second) :
    actors.find? (·.id == a) = some { first.rewound with program := second.program } ∧
      actors.find? (·.id == b) = some { second.rewound with program := first.program } := by
  obtain ⟨i, j, atFirst, atSecond, apart, findsFirst, here, findsSecond, there, rfl, -⟩ :=
    tradeIn?_eq_some traded
  have isFirst : stage.actor? a = some atFirst := find?_of_findIdx? findsFirst here
  have isSecond : stage.actor? b = some atSecond := find?_of_findIdx? findsSecond there
  rw [foundFirst, Option.some.injEq] at isFirst
  rw [foundSecond, Option.some.injEq] at isSecond
  subst isFirst isSecond
  have cast : ((stage.actors.set i { first.rewound with program := second.program }).set j
      { second.rewound with program := first.program }).map (·.id) = stage.actors.map (·.id) :=
    map_set_set_same apart here there rfl rfl
  have insideI := (List.getElem?_eq_some_iff.mp here).1
  have insideJ := (List.getElem?_eq_some_iff.mp there).1
  constructor
  · refine find?_of_findIdx? ((findIdx?_of_cast cast).trans findsFirst) ?_
    simp [Ne.symm apart, insideI]
  · refine find?_of_findIdx? ((findIdx?_of_cast cast).trans findsSecond) ?_
    simp [insideJ]

theorem exists_swapPrograms (foundFirst : stage.actor? a = some first)
    (foundSecond : stage.actor? b = some second) : ∃ done, stage.swapPrograms a b = .ok done := by
  rw [swapPrograms, require_eq_ok.mpr foundFirst, require_eq_ok.mpr foundSecond]
  cases tradeIn? stage.actors stage.timers a b with
  | none => exact ⟨_, rfl⟩
  | some traded => exact ⟨_, rfl⟩

/-- A swap takes the last actors off the schedule exactly if it strands the schedule. -/
theorem isDrained_swapPrograms {outcome : Outcome Unit}
    (done : stage.swapPrograms a b = .ok outcome) (busy : stage.playback.isDrained = false) :
    outcome.stage.playback.isDrained = true ↔ (Operation.swapPrograms a b).Strands stage := by
  obtain ⟨first, requiredFirst, done⟩ := bind_eq_ok.mp done
  obtain ⟨second, requiredSecond, done⟩ := bind_eq_ok.mp done
  have foundFirst := require_eq_ok.mp requiredFirst
  have foundSecond := require_eq_ok.mp requiredSecond
  split at done
  · rename_i untraded
    cases done
    show stage.playback.isDrained = true ↔ _
    constructor
    · intro drained
      rw [busy] at drained
      cases drained
    · intro strands
      obtain ⟨actors, timers, trades⟩ := exists_tradeIn? stage.timers strands.1 foundFirst foundSecond
      rw [trades] at untraded
      cases untraded
  · rename_i actors timers trades
    cases done
    have apart : a ≠ b := by
      rintro rfl
      obtain ⟨i, j, -, -, different, findsFirst, -, findsSecond, -⟩ := tradeIn?_eq_some trades
      rw [findsFirst, Option.some.injEq] at findsSecond
      exact different findsSecond
    obtain ⟨given, taken⟩ := find?_of_tradeIn? trades foundFirst foundSecond
    let traded : Stage := { stage with actors, timers }
    have bareFirst : traded.hasProgram a = false ↔ second.program = [] := by
      simp [traded, hasProgram, actor?, given]
    have bareSecond : traded.hasProgram b = false ↔ first.program = [] := by
      simp [traded, hasProgram, actor?, taken]
    show (traded.afterSwap (.of a b)).playback.isDrained = true ↔ _
    rw [isDrained_afterSwap_of, bareFirst, bareSecond]
    constructor
    · rintro ⟨running, bareSecond, bareFirst, others⟩
      exact ⟨apart, running, ⟨first, second, foundFirst, foundSecond, bareFirst, bareSecond⟩, others⟩
    · rintro ⟨-, running, ⟨atFirst, atSecond, isFirst, isSecond, bareFirst, bareSecond⟩, others⟩
      rw [foundFirst, Option.some.injEq] at isFirst
      rw [foundSecond, Option.some.injEq] at isSecond
      subst isFirst isSecond
      exact ⟨running, bareSecond, bareFirst, others⟩

/-! ### Every operation -/

/-- What is edited, inserted, selected or observed changes nothing about playback. -/
theorem playback_of_perform {operation : Operation} {outcome : Outcome Response}
    (aside : operation.drives = false) (performed : stage.perform operation = .ok outcome) :
    outcome.stage.playback = stage.playback := by
  cases performed_of_perform performed with
  | refused error => rfl
  | addActor added =>
    obtain ⟨placed, places, added⟩ := bind_eq_ok.mp added
    obtain ⟨_, -, places⟩ := bind_eq_ok.mp places
    cases added
    cases places
    rfl
  | insertActor inserted =>
    unfold insertActor at inserted
    split at inserted
    · cases inserted
    · obtain ⟨_, -, inserted⟩ := bind_eq_ok.mp inserted
      obtain ⟨_, -, placed⟩ := bind_eq_ok.mp (sound_eq_ok.mp inserted)
      cases placed
      rfl
  | setActive done =>
    obtain ⟨_, -, done⟩ := bind_eq_ok.mp done
    cases done
    rfl
  | rename done =>
    obtain ⟨_, updated⟩ := updated_of_rename done
    exact updated.playback
  | setPosition done =>
    obtain ⟨_, _, _, -, -, updated⟩ := updated_of_setPosition done
    exact updated.playback
  | setHeading done =>
    obtain ⟨_, updated⟩ := updated_of_setHeading done
    exact updated.playback
  | append done =>
    obtain ⟨_, -, updated⟩ := updated_of_append done
    exact updated.playback
  | patchCommand done =>
    obtain ⟨_, _, _, -, -, updated⟩ := updated_of_patchCommand done
    exact updated.playback
  | removeCommand removed =>
    obtain ⟨_, -, updated⟩ := updated_of_removeCommand removed
    exact updated.playback
  | executeImmediate done =>
    obtain ⟨_, _, _, -, updated⟩ := updated_of_executeImmediate done
    exact updated.playback
  | subscribe | unsubscribe number => rfl
  | _ => cases aside

theorem isDrained_finishIfDrained (stage : Stage) :
    stage.finishIfDrained.1.playback.isDrained = false := by
  rw [finishIfDrained_eq]
  split
  · rfl
  · rename_i busy
    exact Bool.eq_false_iff.mpr busy

theorem isDrained_runTick {outcome : Outcome TickReport} (ran : stage.runTick = .ok outcome) :
    outcome.stage.playback.isDrained = false := by
  obtain ⟨touched, playback, ticked⟩ := ticked_of_runTick ran
  rw [ticked.ended]
  exact isDrained_finishIfDrained _

/-- Time leaves playback drained only if it was. -/
theorem isDrained_of_unfolds {target : Duration} {log : List Happening} {last : Stage}
    (unfolds : stage.Unfolds target log last) (busy : stage.playback.isDrained = false) :
    last.playback.isDrained = false := by
  induction unfolds with
  | nothing => exact busy
  | next happens reached later ih =>
    apply ih
    cases happens with
    | cleared popped first =>
      rw [expire_playback]
      exact busy
    | ticked due first ran => exact isDrained_runTick ran

/-- No operation but a stranding swap leaves playback running with nobody scheduled. -/
theorem isDrained_of_perform {operation : Operation} {outcome : Outcome Response}
    (period : 0 < stage.playback.period.nanos) (busy : stage.playback.isDrained = false)
    (performed : stage.perform operation = .ok outcome) :
    outcome.stage.playback.isDrained = true ↔ operation.Strands stage := by
  have neither {after : Stage} (calm : after.playback.isDrained = false) :
      after.playback.isDrained = true ↔ False := by simp [calm]
  cases performed_of_perform performed with
  | refused error =>
    refine iff_of_false (Bool.eq_false_iff.mp busy) fun strands => ?_
    cases operation with
    | swapPrograms a b =>
      obtain ⟨-, -, ⟨first, second, foundFirst, foundSecond, -⟩, -⟩ := strands
      obtain ⟨after, swapped⟩ := exists_swapPrograms foundFirst foundSecond
      rw [perform, swapped] at performed
      cases performed
    | _ => cases strands
  | removeActor removed =>
    obtain ⟨actor, -, removed⟩ := bind_eq_ok.mp removed
    cases removed
    exact neither (isDrained_finishIfDrained _)
  | swapPrograms done => exact isDrained_swapPrograms done busy
  | play played =>
    obtain ⟨playback, -, played⟩ := bind_eq_ok.mp played
    cases played
    exact neither (isDrained_finishIfDrained _)
  | stop => exact neither rfl
  | tick ticked =>
    refine neither ?_
    unfold tick at ticked
    split at ticked
    · exact isDrained_runTick ticked
    · cases ticked
      exact busy
  | advanceTime advanced =>
    refine neither ?_
    obtain ⟨log, last, unfolds, -, rfl⟩ := unfolds_of_advanceTime period advanced
    show last.playback.isDrained = false
    exact isDrained_of_unfolds unfolds busy
  | _ =>
    refine neither ?_
    rw [playback_of_perform rfl performed]
    exact busy

/-! ### The end of playback -/

theorem finished_told_of_act (act : Act stage events after) (running : stage.isRunning = true)
    (idle : after.isRunning = false) : .playbackStopped .finished ∈ events := by
  have contrary (same : after.isRunning = stage.isRunning) : False := by
    rw [same, running] at idle
    cases idle
  cases act with
  | rescheduled id => exact (contrary (isRunning_reschedule stage id)).elim
  | retired here => exact (contrary (Playback.isRunning_unschedule _ _)).elim
  | started next => cases idle
  | planned playback period same scheduled => exact (contrary same).elim
  | finished drained => exact List.mem_singleton_self _
  | _ => exact (contrary rfl).elim

/-- Acts that end playback tell of its end. -/
theorem finished_told_of_acts (acts : Acts stage events after) (running : stage.isRunning = true)
    (idle : after.isRunning = false) : .playbackStopped .finished ∈ events := by
  induction acts with
  | nothing =>
    rw [running] at idle
    cases idle
  | @next stage between after events more act later ih =>
    cases still : between.isRunning with
    | true => exact List.mem_append_right _ (ih still idle)
    | false => exact List.mem_append_left _ (finished_told_of_act act running still)

/-- An operation that ends playback tells of its end: at a request if it stops playback, and
otherwise because nobody was scheduled any more. -/
theorem end_told {operation : Operation} {outcome : Outcome Response}
    (period : 0 < stage.playback.period.nanos) (performed : stage.perform operation = .ok outcome)
    (running : stage.isRunning = true) (idle : outcome.stage.isRunning = false) :
    ∃ reason, .playbackStopped reason ∈ told outcome.notices ∧
      (reason = .requested ↔ operation = .stop) := by
  by_cases stops : operation = .stop
  · subst stops
    cases performed
    refine ⟨.requested, ?_, iff_of_true rfl rfl⟩
    simp [Outcome.respond, stop, running]
  · refine ⟨.finished, ?_, iff_of_false (by simp) stops⟩
    have course := course_of_perform period performed
    generalize told outcome.notices = events at course
    generalize outcome.stage = after at course idle
    cases course with
    | acts acts => exact finished_told_of_acts acts running idle
    | arrived actor active rewound =>
      rw [show stage.isRunning = false from idle] at running
      cases running
    | departed active acts =>
      refine List.mem_cons_of_mem _ (finished_told_of_acts acts ?_ idle)
      exact (Playback.isRunning_unschedule _ _).trans running
    | stopped => exact absurd rfl stops

/-- As long as no swap stranded the schedule, playback runs exactly while an actor on the stage is
scheduled. Whatever operation comes next keeps it so unless it strands the schedule, and if it ends
playback it tells of the end. -/
theorem running_iff_scheduled {config : Config}
    (reachable : ReachableBy (fun stage operation => ¬ operation.Strands stage) config stage) :
    Staffed stage ∧ ∀ operation outcome, stage.perform operation = .ok outcome →
      (Staffed outcome.stage ↔ ¬ operation.Strands stage) ∧
      (stage.isRunning = true → outcome.stage.isRunning = false →
        ∃ reason, .playbackStopped reason ∈ told outcome.notices ∧
          (reason = .requested ↔ operation = .stop)) := by
  have busy : stage.playback.isDrained = false := by
    induction reachable with
    | @opening stage opening =>
      exact @holds_of_opening stage config (fun stage => stage.playback.isDrained = false) rfl
        (fun _ busy _ => busy) opening
    | step reachable sound performed ih =>
      exact Bool.eq_false_iff.mpr fun drained =>
        sound ((isDrained_of_perform reachable.period_pos ih performed).mp drained)
  refine ⟨(staffed_iff (castScheduled_of_reachable reachable)).mpr busy, fun operation outcome performed => ?_⟩
  have drained := isDrained_of_perform reachable.period_pos busy performed
  have castScheduled := castScheduled_of_course (reachable.course performed)
    (castScheduled_of_reachable reachable)
  refine ⟨?_, end_told reachable.period_pos performed⟩
  rw [staffed_iff castScheduled, ← drained, Bool.not_eq_true]

/-- The only command of the only program runs on a tick, which ends playback and tells of it. -/
theorem running_iff_scheduled_turn :
    ∃ stage outcome, ReachableBy (fun stage operation => ¬ operation.Strands stage) {} stage ∧
      stage.perform .tick = .ok outcome ∧
      (∃ actor ∈ stage.actors, stage.isScheduled actor.id = true) ∧
      (¬ ∃ actor ∈ outcome.stage.actors, outcome.stage.isScheduled actor.id = true) ∧
      .playbackStopped .finished ∈ told outcome.notices := by
  obtain ⟨stage, reachable, passes⟩ := exists_reachableBy
    (fun stage operation => ¬ operation.Strands stage) {}
    [ .insertActor { id := ⟨1, by decide⟩, name := "Cat", program := [.turn 10] }, .play ]
    (fun stage => stage.isRunning &&
      (stage.perform .tick).toOption.any fun outcome => !outcome.stage.isRunning)
    rfl (by simp [Operation.Strands]) (by decide +kernel)
  simp only [Bool.and_eq_true] at passes
  obtain ⟨running, ends⟩ := passes
  obtain ⟨outcome, performed, ended⟩ := exists_outcome ends
  have idle : outcome.stage.isRunning = false := by simpa using ended
  obtain ⟨staffed, next⟩ := running_iff_scheduled reachable
  obtain ⟨kept, ending⟩ := next .tick outcome performed
  obtain ⟨reason, member, reasonIs⟩ := ending running idle
  refine ⟨stage, outcome, reachable, performed, staffed.mp running, ?_, ?_⟩
  · intro scheduled
    have still : Staffed outcome.stage := kept.mpr (by simp [Operation.Strands])
    rw [still.mpr scheduled] at idle
    cases idle
  · cases reason with
    | requested => exact absurd (reasonIs.mp rfl) (by simp)
    | finished => exact member

/-- An actor loses its only command while it is scheduled, and swaps programs with one that has none:
playback runs on with nobody on the schedule, and observers are told of the swap only. -/
theorem swap_strands_playback :
    ∃ stage outcome, Reachable {} stage ∧
      stage.perform (.swapPrograms ⟨1, by decide⟩ ⟨2, by decide⟩) = .ok outcome ∧
      outcome.stage.isRunning = true ∧
      (∀ actor ∈ outcome.stage.actors, outcome.stage.isScheduled actor.id = false) ∧
      told outcome.notices = [.programsSwapped (.of ⟨1, by decide⟩ ⟨2, by decide⟩)] := by
  let cat : ActorId := ⟨1, by decide⟩
  let dog : ActorId := ⟨2, by decide⟩
  obtain ⟨stage, reachable, passes⟩ := exists_reachable {}
    [ .insertActor { id := cat, name := "Cat", program := [.turn 10] },
      .insertActor { id := dog, name := "Dog" }, .play, .removeCommand cat 0 ]
    (fun stage => (stage.perform (.swapPrograms cat dog)).toOption.any fun outcome =>
      outcome.stage.isRunning &&
      outcome.stage.actors.all (fun actor => !outcome.stage.isScheduled actor.id) &&
      told outcome.notices = [.programsSwapped (.of cat dog)])
    rfl (by simp [Operation.hasRoom]) (by decide +kernel)
  obtain ⟨outcome, performed, stranded⟩ := exists_outcome passes
  simp only [Bool.and_eq_true, List.all_eq_true, Bool.not_eq_true', decide_eq_true_eq] at stranded
  obtain ⟨⟨running, nobody⟩, told⟩ := stranded
  exact ⟨stage, outcome, reachable.reachable, performed, running, nobody, told⟩

end Stage

end SpriteStage
