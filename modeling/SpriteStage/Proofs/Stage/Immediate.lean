import SpriteStage.Proofs.Stage.Faults
import SpriteStage.Proofs.Stage.LiveEdits

/-!
# Commands carried out at once

A command that is carried out at once goes through its passes in a row, without any cursor. A program
made of that command alone, stepped until a step reports no more progress, carries out the same plain
commands, and since a command neither reads nor writes program and cursor, both come to the same
(`runsOut_applyAll`). Main statement: `immediate_as_stepped`.
-/

namespace SpriteStage

namespace Actor

/-- An actor is stepped until a step comes to something other than progress. -/
inductive RunsOut (setting : Setting) : Actor → TimerQueue → Actor → TimerQueue → Prop
  | last {actor moved : Actor} {timers later : TimerQueue} {outcome : StepOutcome} :
      actor.advance setting timers = .ok (outcome, moved, later) → outcome ≠ .progress →
      RunsOut setting actor timers moved later
  | again {actor between moved : Actor} {timers left later : TimerQueue} :
      actor.advance setting timers = .ok (.progress, between, left) →
      RunsOut setting between left moved later → RunsOut setting actor timers moved later

variable {setting : Setting} {actor moved other : Actor} {timers later queue : TimerQueue}

/-- There is one way only to step an actor. -/
theorem RunsOut.unique (run : RunsOut setting actor timers moved later)
    (again : RunsOut setting actor timers other queue) : other = moved ∧ queue = later := by
  induction run with
  | last advanced ended =>
    cases again with
    | last advancedToo _ =>
      rw [advanced] at advancedToo
      cases advancedToo
      exact ⟨rfl, rfl⟩
    | again advancedToo _ =>
      rw [advanced] at advancedToo
      cases advancedToo
      exact absurd rfl ended
  | again advanced rest ih =>
    cases again with
    | last advancedToo ended =>
      rw [advanced] at advancedToo
      cases advancedToo
      exact absurd rfl ended
    | again advancedToo restToo =>
      rw [advanced] at advancedToo
      cases advancedToo
      exact ih restToo

/-- Commands in a row neither read nor write the program and the cursor of their actor. -/
theorem applyAll_withWork {commands : List Command} (program : List Command) (cursor : Cursor)
    (done : commands.foldlM (fun (actor, timers) command => command.apply setting actor timers)
      (actor, timers) = .ok (moved, later)) :
    commands.foldlM (fun (actor, timers) command => command.apply setting actor timers)
      ({ actor with program, cursor }, timers) = .ok ({ moved with program, cursor }, later) := by
  induction commands generalizing actor timers with
  | nil =>
    cases done
    rfl
  | cons command rest ih =>
    rw [List.foldlM_cons] at done ⊢
    obtain ⟨⟨between, left⟩, first, done⟩ := bind_eq_ok.mp done
    refine bind_eq_ok.mpr ⟨({ between with program, cursor }, left), ?_, ih done⟩
    have applied : command.apply setting actor timers = .ok (between, left) := first
    show command.apply setting { actor with program, cursor } timers = _
    rw [Command.apply_withWork, applied]
    rfl

/-- Stepping an actor to the end carries out what remains of its program, command by command. -/
theorem runsOut_applyAll (ordered : setting.bounds.Ordered) (sound : actor.Sound) (timers : TimerQueue) :
    ∃ moved later cursor,
      actor.remaining.foldlM (fun (actor, timers) command => command.apply setting actor timers)
        (actor, timers) = .ok (moved, later) ∧
      RunsOut setting actor timers { moved with cursor } later := by
  generalize work : actor.remaining = commands
  induction commands generalizing actor timers with
  | nil =>
    obtain ⟨cursor, advanced, -⟩ := advance_of_nothing setting timers work
    exact ⟨actor, timers, cursor, rfl, .last advanced (by simp)⟩
  | cons command rest ih =>
    obtain ⟨between, left, cursor, applied, advanced, others, -⟩ :=
      advance_of_work ordered sound timers work
    by_cases done : rest = []
    · subst done
      exact ⟨between, left, cursor, bind_eq_ok.mpr ⟨_, applied, rfl⟩, .last advanced (by simp)⟩
    · rw [if_neg done] at advanced
      have soundBetween : ({ between with cursor } : Actor).Sound :=
        Stage.sound_of_same (Stage.sound_of_apply applied sound) rfl rfl
      have ahead : ({ between with cursor } : Actor).remaining = rest := by
        rw [remaining, (Command.apply_frame applied).2.2.1]
        exact others
      obtain ⟨moved, later, behind, finishes, run⟩ := ih soundBetween left ahead
      -- The commands behind come to the same on the actor with its cursor as it was.
      have finishesToo := applyAll_withWork between.program between.cursor finishes
      refine ⟨_, later, behind, bind_eq_ok.mpr ⟨_, applied, finishesToo⟩, .again advanced ?_⟩
      have program : moved.program = between.program := (Stage.applyAll_frame finishes).2.2.1
      rw [program] at run
      exact run

end Actor

namespace Stage

variable {stage : Stage} {actor : Actor}

/-- No actor has more than one timer. -/
theorem length_timers_le_one (tidy : Tidy stage) (id : ActorId) :
    (stage.timers.pending.filter (·.actor = id)).length ≤ 1 := by
  have apart := (pairwise_apart tidy).filter (·.actor = id)
  have mine : ∀ timer ∈ stage.timers.pending.filter (·.actor = id), timer.actor = id := by
    intro timer member
    simpa using (List.mem_filter.mp member).2
  cases found : stage.timers.pending.filter (·.actor = id) with
  | nil => simp
  | cons first rest =>
    cases rest with
    | nil => simp
    | cons second others =>
      rw [found] at apart mine
      have different := (List.rel_of_pairwise_cons apart List.mem_cons_self).2
      rw [mine first (by simp), mine second (by simp)] at different
      exact absurd rfl different

/-- To carry out a command at once is to step a copy of the actor that has nothing else to do. The copy
shows no bubble, the timer of the bubble is disarmed, and the copy starts on a program of the one command,
of a thousand passes at most. It can be stepped until a step comes to something other than progress, in one way only,
and the actor takes over its pose and its bubble, and the stage its timers. All else on the stage is as
before, the program and the cursor of the actor included; observers are told of the actor once; and no
more than one timer of the actor is armed. -/
theorem immediate_as_stepped {config : Config} (reachable : ReachableWithRoom config stage)
    (member : actor ∈ stage.actors) {command : Command} (valid : command.validate = .ok ()) :
    let limited : Command :=
      match command with
      | .repeatTimes count body => .repeatTimes (min count 1000) body
      | other => other
    let copy : Actor := { actor.withoutBubble with program := [limited], cursor := .start }
    let timers := stage.timers.cancel? actor.bubbleTimer
    ∃ outcome moved later, stage.executeImmediate actor.id command = .ok outcome ∧
      copy.RunsOut stage.setting timers moved later ∧
      (∀ other queue, copy.RunsOut stage.setting timers other queue → other = moved ∧ queue = later) ∧
      (∃ i : Nat, stage.actors[i]? = some actor ∧ outcome.stage = stage.put i
        { actor with x := moved.x, y := moved.y, heading := moved.heading, bubble := moved.bubble } later) ∧
      outcome.notices = [stage.notice (.actorUpdated actor.id)] ∧
      (outcome.stage.timers.pending.filter (·.actor = actor.id)).length ≤ 1 := by
  intro limited copy timers
  have limits : limited = command.capped immediateRepeatLimit := by cases command <;> rfl
  have tidy := tidy_of_reachable reachable
  have steady := steady_of_reachable reachable
  have found := actor?_of_distinct tidy.distinct member
  have sound := steady.sound actor member
  have flat : limited.isFlat = true := by
    have flat := Command.validate_eq_ok_iff.mp valid
    cases command <;> exact flat
  have soundCopy : copy.Sound := by
    refine ⟨fun other among => ?_, sound.heading_nonneg, sound.heading_lt⟩
    rw [List.mem_singleton.mp among]
    exact flat
  have work : copy.remaining = (command.capped immediateRepeatLimit).unfold := by
    rw [Actor.remaining, Cursor.remaining_start, List.flatMap_singleton, limits]
  obtain ⟨moved, later, cursor, done, run⟩ :=
    Actor.runsOut_applyAll (show stage.setting.bounds.Ordered from steady.ordered) soundCopy timers
  obtain ⟨id, name, -⟩ := applyAll_frame done
  have applied := Actor.applyAll_withWork actor.program actor.cursor done
  rw [work] at applied
  let after : Actor :=
    { actor with x := moved.x, y := moved.y, heading := moved.heading, bubble := moved.bubble }
  have same : { moved with program := actor.program, cursor := actor.cursor } = after := by
    rw [show moved.id = actor.id from id, show moved.name = actor.name from name]
  rw [same] at applied
  have executes : stage.executeImmediate actor.id command =
      .ok (({ stage with timers := later } : Stage).update actor.id fun _ => after) := by
    refine bind_eq_ok.mpr ⟨(), check_eq_ok.mpr valid, bind_eq_ok.mpr ⟨actor, require_eq_ok.mpr found, ?_⟩⟩
    exact bind_eq_ok.mpr ⟨(after, later), sound_eq_ok.mpr applied, rfl⟩
  have updated : ({ stage with timers := later } : Stage).Updated actor.id actor after
      (({ stage with timers := later } : Stage).update actor.id fun _ => after) := updated_update found rfl
  exact ⟨_, _, later, executes, run, fun other queue => run.unique, updated.place, updated.notices,
    length_timers_le_one (tidy_of_changes (changes_of_touches (touches_executeImmediate executes)) tidy) _⟩

/-- A cat that says something is to turn and speak up a thousand and one times. It does so a thousand
times, each time with a timer of its own, and the last timer is left. -/
theorem immediate_as_stepped_turns :
    let body : List Command := [.turn 1, .bubble .speech "Round" (some 1)]
    let command : Command := .repeatTimes 1001 body
    ∃ stage actor outcome moved later, ReachableWithRoom {} stage ∧ actor ∈ stage.actors ∧
      command.validate = .ok () ∧ stage.timers.size = 1 ∧
      stage.executeImmediate actor.id command = .ok outcome ∧
      Actor.RunsOut stage.setting
        { actor.withoutBubble with program := [.repeatTimes 1000 body], cursor := .start }
        (stage.timers.cancel? actor.bubbleTimer) moved later ∧
      outcome.stage.timers = later ∧ later.issued = 1001 ∧ later.size = 1 := by
  intro body command
  let cat : ActorId := ⟨1, by decide⟩
  obtain ⟨stage, reachable, passes⟩ := exists_reachable {}
    [ .insertActor { id := cat, name := "Cat", program := [.turn 10] },
      .executeImmediate cat (.bubble .speech "Hello" (some 1)) ]
    (fun stage => decide (stage.timers.size = 1) && (stage.actor? cat).isSome &&
      (stage.executeImmediate cat command).toOption.any fun (outcome : Outcome Unit) =>
        decide (outcome.stage.timers.issued = 1001) && decide (outcome.stage.timers.size = 1))
    rfl (by simp [Operation.hasRoom]) (by decide +kernel)
  simp only [Bool.and_eq_true, decide_eq_true_eq, Option.isSome_iff_exists] at passes
  obtain ⟨⟨armed, actor, found⟩, passes⟩ := passes
  have member := List.mem_of_find?_eq_some found
  have valid : command.validate = .ok () := rfl
  obtain ⟨outcome, moved, later, executes, run, -, ⟨i, -, after⟩, -⟩ :=
    immediate_as_stepped reachable member valid
  rw [← actor?_id found, executes] at passes
  obtain ⟨issued, size⟩ : outcome.stage.timers.issued = 1001 ∧ outcome.stage.timers.size = 1 := by
    simpa [Except.toOption] using passes
  have timers : outcome.stage.timers = later := by rw [after]; rfl
  rw [timers] at issued size
  exact ⟨stage, actor, outcome, moved, later, reachable, member, valid, armed, executes, run, timers, issued,
    size⟩

end Stage

end SpriteStage
