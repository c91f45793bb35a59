import SpriteStage.Proofs.Cursor.Editing
import SpriteStage.Proofs.Stage.Bubbles
import SpriteStage.Proofs.Stage.Schedule

/-!
# How far programs have run

The cursor of every actor fits its program, and an actor that is not scheduled stands at the start.
Every act keeps it so (`onTrack_of_act`): steps and edits keep a cursor fitting, and whoever leaves
the schedule either is put back to the start or has no program to be in the middle of. Main
statement: `cursors_coherent`.
-/

namespace SpriteStage

/-- An actor is where its program and the schedule allow it to be. -/
structure Actor.OnTrack (playback : Playback) (actor : Actor) : Prop where
  fits : actor.cursor.Fits actor.program
  rested : ¬ actor.id ∈ playback.scheduled → actor.cursor = .start

/-- At the start of its program an actor may be on the schedule or off it. -/
theorem Actor.onTrack_of_start {playback : Playback} {actor : Actor} (start : actor.cursor = .start) :
    actor.OnTrack playback :=
  ⟨start ▸ Cursor.fits_start _, fun _ => start⟩

namespace Cursor

/-- The tables of a cursor hold nothing, or one entry each, for the repeat the cursor stands on. -/
structure Coherent (program : List Command) (cursor : Cursor) : Prop where
  pc_le : cursor.pc ≤ program.length
  same_keys : cursor.loops.keys = cursor.nested.keys
  keys : cursor.loops.keys = [] ∨ cursor.loops.keys = [cursor.pc]
  running : cursor.loops.keys = [cursor.pc] → ∃ count body passes next,
    program[cursor.pc]? = some (.repeatTimes count body) ∧ body ≠ [] ∧
      cursor.loops.get? cursor.pc = some passes ∧ 1 ≤ passes ∧ passes ≤ count ∧
      cursor.nested.get? cursor.pc = some next ∧ next < body.length

theorem Fits.coherent {program : List Command} {cursor : Cursor} (fits : cursor.Fits program) :
    cursor.Coherent program := by
  refine ⟨fits.pc_le, ?_, ?_, ?_⟩
  · cases fits with
    | between inside => rfl
    | running here => rfl
  · cases fits with
    | between inside => exact .inl rfl
    | running here => exact .inr rfl
  · intro keys
    cases fits with
    | between inside => cases keys
    | @running pc count passes body next here passes_pos passes_le within =>
      have nonempty : body ≠ [] := List.length_pos_iff.mp (Nat.zero_lt_of_lt within)
      refine ⟨count, body, passes, next, here, nonempty, ?_, passes_pos, passes_le, ?_, within⟩
      · simp [inLoop, Table.get?_insert]
      · simp [inLoop, Table.get?_insert]

/-- After an edit of a command no repeat is running at its index. -/
theorem Fits.not_mem_keys_exitLoop {program : List Command} {cursor : Cursor}
    (fits : cursor.Fits program) (index : Nat) :
    ¬ index ∈ (cursor.exitLoop index).loops.keys ∧ ¬ index ∈ (cursor.exitLoop index).nested.keys := by
  by_cases here : index = cursor.pc
  · rw [here, fits.exitLoop_here]
    exact ⟨List.not_mem_nil, List.not_mem_nil⟩
  · rw [fits.exitLoop_of_ne here, ← fits.coherent.same_keys, and_self]
    rcases fits.coherent.keys with none | one
    · rw [none]
      exact List.not_mem_nil
    · rw [one, List.mem_singleton]
      exact here

theorem start_exitLoop (index : Nat) : start.exitLoop index = start := rfl

theorem start_commandRemoved (index : Nat) : start.commandRemoved index = start := by
  show ({ pc := if index < 0 then 0 - 1 else 0 } : Cursor) = start
  rw [if_neg (Nat.not_lt_zero index)]
  rfl

end Cursor

/-- An edit keeps an actor on track: the cursor follows, and the start stays the start. -/
theorem Actor.OnTrack.edited {playback : Playback} {actor moved : Actor}
    (onTrack : actor.OnTrack playback) (same : moved.id = actor.id) (edited : actor.Edited moved) :
    moved.OnTrack playback := by
  refine ⟨?_, fun off => ?_⟩
  · cases edited with
    | kept program cursor =>
      rw [program, cursor]
      exact onTrack.fits
    | appended command program cursor =>
      rw [program, cursor]
      exact onTrack.fits.append _
    | patched index command program cursor =>
      rw [program, cursor]
      exact onTrack.fits.set index command
    | removed index inside program cursor =>
      rw [program, cursor]
      exact onTrack.fits.eraseIdx inside
  · rw [same] at off
    have start := onTrack.rested off
    cases edited with
    | kept program cursor => rw [cursor, start]
    | appended command program cursor => rw [cursor, start]
    | patched index command program cursor => rw [cursor, start, Cursor.start_exitLoop]
    | removed index inside program cursor => rw [cursor, start, Cursor.start_commandRemoved]

namespace Stage

/-- Everyone is on track. -/
def OnTrack (stage : Stage) : Prop := ∀ actor ∈ stage.actors, actor.OnTrack stage.playback

variable {stage after : Stage} {actor moved : Actor} {events : List StageEvent} {i : Nat}

theorem onTrack_put (onTrack : OnTrack stage) (timers : TimerQueue)
    (movedOnTrack : moved.OnTrack stage.playback) : OnTrack (stage.put i moved timers) := by
  intro other member
  rcases List.mem_or_eq_of_mem_set member with stands | rfl
  · exact onTrack other stands
  · exact movedOnTrack

/-- Who goes off the schedule for want of a program is at its start. -/
theorem onTrack_reschedule (distinct : (stage.actors.map (·.id)).Nodup) (onTrack : OnTrack stage)
    (id : ActorId) : OnTrack (stage.reschedule id) := by
  intro actor member
  have stands : actor ∈ stage.actors := member
  have before := onTrack actor stands
  refine ⟨before.fits, fun off => ?_⟩
  by_cases named : actor.id = id
  · by_cases bare : actor.program = []
    · exact (bare ▸ before.fits).eq_start
    · refine before.rested fun scheduled => off (mem_scheduled_reschedule.mpr (.inr ⟨named, ?_, ?_⟩))
      · exact Playback.isRunning_of_mem scheduled
      · simp [hasProgram, ← named, actor?_of_distinct distinct stands, bare]
  · exact before.rested fun scheduled => off (mem_scheduled_reschedule.mpr (.inl ⟨named, scheduled⟩))

theorem onTrack_of_act (distinct : (stage.actors.map (·.id)).Nodup) (act : Act stage events after)
    (onTrack : OnTrack stage) : OnTrack after := by
  cases act with
  | aside => exact onTrack
  | updated timers here same edited =>
    exact onTrack_put onTrack timers ((onTrack _ (List.mem_of_getElem? here)).edited same edited)
  | stepped here scheduled advanced =>
    refine onTrack_put onTrack _ ⟨?_, fun off => ?_⟩
    · exact Actor.fits_advance (onTrack _ (List.mem_of_getElem? here)).fits advanced
    · rw [(Actor.advance_frame advanced).1] at off
      exact absurd (of_decide_eq_true scheduled) off
  | cleared kind here =>
    have before := onTrack _ (List.mem_of_getElem? here)
    exact onTrack_put onTrack _ ⟨before.fits, before.rested⟩
  | traded timers apart here there =>
    intro other member
    rcases List.mem_or_eq_of_mem_set member with member | rfl
    · rcases List.mem_or_eq_of_mem_set member with stands | rfl
      · exact onTrack other stands
      · exact Actor.onTrack_of_start rfl
    · exact Actor.onTrack_of_start rfl
  | untraded none => exact onTrack
  | rescheduled id => exact onTrack_reschedule distinct onTrack id
  | @retired i actor here =>
    intro other member
    rcases (mem_set_of_distinct distinct here _ other).mp member with rfl | ⟨stands, apart⟩
    · exact Actor.onTrack_of_start rfl
    · have before := onTrack other stands
      refine ⟨before.fits, fun off => before.rested fun scheduled => off ?_⟩
      exact Playback.mem_scheduled_unschedule.mpr ⟨scheduled, apart⟩
  | started next =>
    intro other member
    obtain ⟨before, -, rfl⟩ := List.mem_map.mp member
    exact Actor.onTrack_of_start rfl
  | planned playback period running scheduled =>
    intro other member
    have before := onTrack other member
    exact ⟨before.fits, fun off => before.rested (scheduled ▸ off)⟩
  | finished drained =>
    intro other member
    have nobody := (Playback.isDrained_iff.mp drained).2 other.id
    exact Actor.onTrack_of_start ((onTrack other member).rested nobody)

theorem onTrack_of_acts (acts : Acts stage events after) (distinct : (stage.actors.map (·.id)).Nodup)
    (onTrack : OnTrack stage) : OnTrack after := by
  induction acts with
  | nothing => exact onTrack
  | next act _ ih => exact ih (act.cast ▸ distinct) (onTrack_of_act distinct act onTrack)

theorem onTrack_arrived (onTrack : OnTrack stage) (rewound : actor.rewound = actor)
    (active : Option ActorId) : OnTrack { stage with actors := stage.actors ++ [actor], active } := by
  intro other member
  rcases List.mem_append.mp member with stands | arrives
  · exact onTrack other stands
  · rw [List.mem_singleton.mp arrives, ← rewound]
    exact Actor.onTrack_of_start rfl

theorem onTrack_of_course {operation : Operation} (course : stage.Course operation events after)
    (distinct : (stage.actors.map (·.id)).Nodup) (onTrack : OnTrack stage) : OnTrack after := by
  cases course with
  | acts acts => exact onTrack_of_acts acts distinct onTrack
  | arrived actor active rewound => exact onTrack_arrived onTrack rewound active
  | @departed id events after active acts =>
    refine onTrack_of_acts acts (distinct.sublist (List.eraseP_sublist.map _)) ?_
    intro other member
    have before := onTrack other (List.mem_of_mem_eraseP member)
    refine ⟨before.fits, fun off => before.rested fun scheduled => off ?_⟩
    exact Playback.mem_scheduled_unschedule.mpr
      ⟨scheduled, id_ne_of_mem_eraseP distinct id other member⟩
  | stopped =>
    intro other member
    obtain ⟨before, -, rfl⟩ := List.mem_map.mp member
    exact Actor.onTrack_of_start rfl

theorem onTrack_of_reachable {config : Config} (reachable : ReachableWithRoom config stage) :
    OnTrack stage := by
  induction reachable with
  | opening opening =>
    refine holds_of_opening (fun actor member => absurd member List.not_mem_nil) ?_ opening
    exact fun active onTrack rewound => onTrack_arrived onTrack rewound active
  | step reachable room performed ih =>
    exact onTrack_of_course (reachable.course performed) (tidy_of_reachable reachable).distinct ih

/-- A trade puts both actors back to the start. -/
theorem cursor_of_tradeIn? {actors later : List Actor} {timers queue : TimerQueue} {a b : ActorId}
    (distinct : (actors.map (·.id)).Nodup) (traded : tradeIn? actors timers a b = some (later, queue))
    (member : moved ∈ later) (named : moved.id = a ∨ moved.id = b) : moved.cursor = .start := by
  obtain ⟨i, j, first, second, apart, findsFirst, here, findsSecond, there, rfl, -⟩ :=
    tradeIn?_eq_some traded
  have firstId : first.id = a := by simpa using List.find?_some (find?_of_findIdx? findsFirst here)
  have secondId : second.id = b := by simpa using List.find?_some (find?_of_findIdx? findsSecond there)
  have still : (actors.set i { first.rewound with program := second.program })[j]? = some second := by
    rwa [List.getElem?_set_ne apart]
  have cast : (actors.set i { first.rewound with program := second.program }).map (·.id) =
      actors.map (·.id) := map_set_same here rfl
  rcases (mem_set_of_distinct (cast ▸ distinct) still _ moved).mp member with rfl | ⟨member, notSecond⟩
  · rfl
  · rcases (mem_set_of_distinct distinct here _ moved).mp member with rfl | ⟨-, notFirst⟩
    · rfl
    · rw [firstId] at notFirst
      rw [secondId] at notSecond
      exact absurd named (not_or.mpr ⟨notFirst, notSecond⟩)

/-- Every cursor stands inside its program or right behind it, at most the repeat it stands on is
running, in the middle of a pass, and off the schedule it stands at the start. A swap puts both
actors back to the start, and an edit of a command ends its repeat. -/
theorem cursors_coherent {config : Config} (reachable : ReachableWithRoom config stage)
    (member : actor ∈ stage.actors) :
    actor.cursor.Coherent actor.program ∧
    (stage.isScheduled actor.id = false → actor.cursor.isReset = true) ∧
    (stage.isRunning = false → actor.cursor.isReset = true) ∧
    (∀ a b outcome, stage.swapPrograms a b = .ok outcome → a ≠ b →
      ∀ moved ∈ outcome.stage.actors, moved.id = a ∨ moved.id = b → moved.cursor.isReset = true) ∧
    (∀ index patch outcome, stage.patchCommand actor.id index patch = .ok outcome →
      ∀ moved ∈ outcome.stage.actors, moved.id = actor.id →
        ¬ index ∈ moved.cursor.loops.keys ∧ ¬ index ∈ moved.cursor.nested.keys) ∧
    (∀ outcome, stage.removeCommand actor.id actor.cursor.pc = .ok outcome →
      ∀ moved ∈ outcome.stage.actors, moved.id = actor.id →
        moved.cursor.loops.keys = [] ∧ moved.cursor.nested.keys = []) := by
  have distinct := (tidy_of_reachable reachable).distinct
  have found := actor?_of_distinct distinct member
  have onTrack := onTrack_of_reachable reachable actor member
  have edited {α : Type} {other changed moved : Actor} {outcome : Outcome α}
      (updated : stage.Updated actor.id other changed outcome) (stands : moved ∈ outcome.stage.actors)
      (same : moved.id = actor.id) : other = actor ∧ moved = changed := by
    obtain ⟨i, here, after⟩ := updated.place
    have named := actor?_id updated.found
    rw [after] at stands
    refine ⟨updated.actor_eq found, ?_⟩
    refine ((mem_set_of_distinct distinct here changed moved).mp stands).resolve_right fun apart => ?_
    exact apart.2 (same.trans named.symm)
  have rested (off : ¬ actor.id ∈ stage.playback.scheduled) : actor.cursor.isReset = true := by
    rw [onTrack.rested off]
    rfl
  refine ⟨onTrack.fits.coherent, ?_, ?_, ?_, ?_, ?_⟩
  · intro off
    exact rested (of_decide_eq_false off)
  · intro idle
    refine rested fun scheduled => ?_
    rw [show stage.isRunning = true from Playback.isRunning_of_mem scheduled] at idle
    cases idle
  · intro a b outcome done apart moved stands named
    obtain ⟨first, requiredFirst, done⟩ := bind_eq_ok.mp done
    obtain ⟨second, requiredSecond, done⟩ := bind_eq_ok.mp done
    obtain ⟨actors, timers, trades⟩ :=
      exists_tradeIn? stage.timers apart (require_eq_ok.mp requiredFirst)
        (require_eq_ok.mp requiredSecond)
    rw [trades] at done
    cases done
    rw [cursor_of_tradeIn? distinct trades stands named]
    rfl
  · intro index patch outcome done moved stands same
    obtain ⟨other, command, patched, -, -, updated⟩ := updated_of_patchCommand done
    obtain ⟨rfl, rfl⟩ := edited updated stands same
    exact onTrack.fits.not_mem_keys_exitLoop index
  · intro outcome done moved stands same
    obtain ⟨other, -, updated⟩ := updated_of_removeCommand done
    obtain ⟨rfl, rfl⟩ := edited updated stands same
    dsimp only
    rw [onTrack.fits.commandRemoved_here]
    exact ⟨rfl, rfl⟩

/-- An actor in the second pass of a repeat. -/
theorem cursors_coherent_repeat :
    ∃ stage, ReachableWithRoom {} stage ∧ ∃ actor ∈ stage.actors,
      actor.cursor.loops.get? 0 = some 2 ∧ actor.cursor.nested.get? 0 = some 1 ∧
      actor.cursor.Coherent actor.program ∧ stage.isScheduled actor.id = true := by
  obtain ⟨stage, reachable, passes⟩ := exists_reachable {}
    [ .insertActor { id := ⟨1, by decide⟩, name := "Cat"
                     program := [.repeatTimes 3 [.turn 10, .turn 20]] },
      .play, .tick, .tick, .tick ]
    (fun stage => stage.actors.any fun actor =>
      actor.cursor.loops.get? 0 = some 2 && actor.cursor.nested.get? 0 = some 1 &&
        !actor.cursor.isReset)
    rfl (by simp [Operation.hasRoom]) (by decide +kernel)
  obtain ⟨actor, member, running⟩ := List.any_eq_true.mp passes
  simp only [Bool.and_eq_true, decide_eq_true_eq, Bool.not_eq_true'] at running
  obtain ⟨⟨loops, nested⟩, moving⟩ := running
  obtain ⟨coherent, rested, -⟩ := cursors_coherent reachable member
  refine ⟨stage, reachable, actor, member, loops, nested, coherent, ?_⟩
  by_contra off
  rw [rested (Bool.eq_false_iff.mpr off)] at moving
  cases moving

end Stage

end SpriteStage
