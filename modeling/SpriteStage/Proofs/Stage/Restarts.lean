import Mathlib.Data.List.Forall2
import Mathlib.Data.Nat.Basic
import Mathlib.Order.Monotone.Defs
import SpriteStage.Proofs.Stage.Bubbles
import SpriteStage.Proofs.Stage.Faults
import SpriteStage.Proofs.Stage.Guises

/-!
# Playing starts afresh

Playing rewinds every program and clears every bubble, and with the bubbles their timers. What is left of
a stage then is what a new stage with that cast would be, under a guise: handles are counted on from
those handed out before (`resetAll_eq`). So a transcript of what callers see from then on is that of the
new stage, with larger handles (`transcript_play`). Main statement: `play_erases_history`.
-/

namespace SpriteStage

/-- What a caller sees of one operation. -/
structure Impression where
  response : Response
  notices : List Notice
  snapshot : Snapshot

/-- What a caller sees of operations one after another. -/
structure Transcript where
  impressions : List Impression := []
  /-- The fault that broke off the operations, if one did. -/
  fault : Option Fault := none

/-- Performs operations one after another and takes down what a caller sees of them. -/
def Stage.transcript (stage : Stage) : List Operation → Transcript
  | [] => {}
  | operation :: rest =>
    match stage.perform operation with
    | .error fault => { fault := some fault }
    | .ok outcome =>
      let later := outcome.stage.transcript rest
      { later with impressions :=
          ⟨outcome.value, outcome.notices, outcome.stage.snapshot⟩ :: later.impressions }

def Impression.renamed (rename : Nat → Nat) (impression : Impression) : Impression :=
  { impression with response := impression.response.renamed rename }

/-- The transcript with other handles. -/
def Transcript.renamed (rename : Nat → Nat) (transcript : Transcript) : Transcript :=
  { transcript with impressions := transcript.impressions.map (.renamed rename) }

/-- The handle in an answer: that of the bubble an actor was taken out with. -/
def Response.handle? : Response → Option Nat
  | .actor gone => gone.bubbleTimer
  | _ => none

/-- The handles that a caller sees. -/
def Transcript.handles (transcript : Transcript) : List Nat :=
  transcript.impressions.filterMap (·.response.handle?)

/-- The actors are the same but for what playing has done to them: cursor and bubble. -/
structure Actor.SameRole (actor other : Actor) : Prop where
  id : actor.id = other.id
  name : actor.name = other.name
  x : actor.x = other.x
  y : actor.y = other.y
  heading : actor.heading = other.heading
  program : actor.program = other.program

theorem Actor.SameRole.rewound {actor other : Actor} (same : actor.SameRole other) :
    actor.rewound = other.rewound := by
  cases actor
  cases other
  cases same
  simp_all [Actor.rewound]

theorem Transcript.renamed_renamed (first second : Nat → Nat) (transcript : Transcript) :
    (transcript.renamed first).renamed second = transcript.renamed fun handle => second (first handle) := by
  have actors (actor : Actor) :
      (actor.renamed first).renamed second = actor.renamed fun handle => second (first handle) := by
    unfold Actor.renamed
    cases actor.bubble with
    | none => rfl
    | some bubble => cases timer : bubble.timer <;> simp [timer]
  have responses (response : Response) :
      (response.renamed first).renamed second = response.renamed fun handle => second (first handle) := by
    cases response with
    | actor gone => exact congrArg Response.actor (actors gone)
    | _ => rfl
  unfold Transcript.renamed
  rw [List.map_map]
  refine congrArg (fun impressions => { transcript with impressions }) (List.map_congr_left ?_)
  intro impression _
  exact congrArg (fun response => { impression with response }) (responses impression.response)

theorem Transcript.handles_renamed (rename : Nat → Nat) (transcript : Transcript) :
    (transcript.renamed rename).handles = transcript.handles.map rename := by
  have answered (response : Response) :
      (response.renamed rename).handle? = response.handle?.map rename := by
    cases response with
    | actor gone => exact Actor.bubbleTimer_renamed
    | _ => rfl
  unfold handles
  rw [List.map_filterMap]
  show (transcript.impressions.map _).filterMap _ = _
  rw [List.filterMap_map]
  exact congrArg (List.filterMap · transcript.impressions)
    (funext fun impression => answered impression.response)

namespace Stage

variable {stage : Stage}

/-- A stage and its guise show a caller the same, but for handles. -/
theorem transcript_under (guise : Guise) (stage : Stage) {operations : List Operation}
    (unobserved : ∀ operation ∈ operations, operation.observes = false) :
    (stage.under guise).transcript operations =
      (stage.transcript operations).renamed (guise.offset + ·) := by
  induction operations generalizing stage with
  | nil => rfl
  | cons operation rest ih =>
    rw [List.forall_mem_cons] at unobserved
    rw [transcript, transcript, perform_under guise stage unobserved.1]
    cases stage.perform operation with
    | error fault => rfl
    | ok outcome =>
      show ({ ((outcome.stage.under guise).transcript rest) with impressions :=
          ⟨_, _, (outcome.stage.under guise).snapshot⟩ ::
            ((outcome.stage.under guise).transcript rest).impressions } : Transcript) = _
      rw [ih outcome.stage unobserved.2, snapshot_under]
      rfl

/-! ### What is left behind when playing starts -/

/-- The stage as a new one with its cast, from the top of every program. -/
def fresh (stage : Stage) : Stage where
  config := stage.config
  actors := stage.actors.map Actor.rewound
  active := stage.active
  playback := { period := stage.playback.period }
  now := stage.now

/-- What a new stage does not know: the handles that were handed out, and the observers. -/
def guise (stage : Stage) : Guise := ⟨stage.timers.issued, stage.observers, stage.registrations⟩

theorem disarmed_issued (actors : List Actor) (timers : TimerQueue) :
    (actors.foldl (fun timers (actor : Actor) => timers.cancel? actor.bubbleTimer) timers).issued =
      timers.issued := by
  induction actors generalizing timers with
  | nil => rfl
  | cons actor rest ih => rw [List.foldl_cons, ih, TimerQueue.issued_cancel?]

theorem disarmed_bare {actors : List Actor} (bare : ∀ actor ∈ actors, actor.bubble = none)
    (timers : TimerQueue) :
    actors.foldl (fun timers (actor : Actor) => timers.cancel? actor.bubbleTimer) timers = timers := by
  induction actors with
  | nil => rfl
  | cons actor rest ih =>
    rw [List.forall_mem_cons] at bare
    rw [List.foldl_cons, Actor.bubbleTimer, bare.1]
    exact ih bare.2

theorem bubble_resetAll (stage : Stage) : ∀ actor ∈ stage.resetAll.actors, actor.bubble = none := by
  intro actor member
  obtain ⟨before, -, rfl⟩ := List.mem_map.mp member
  rfl

/-- With every bubble cleared no timer is left, since each belonged to a bubble. -/
theorem pending_resetAll (tidy : Tidy stage) : stage.resetAll.timers.pending = [] := by
  have after := tidy_of_changes (changes_of_touches (touches_resetAll stage)) tidy
  refine List.eq_nil_iff_forall_not_mem.mpr fun timer pending => ?_
  obtain ⟨actor, member, -, bubble, shown, -⟩ := after.owned timer pending
  rw [bubble_resetAll stage actor member] at shown
  cases shown

theorem resetAll_eq (tidy : Tidy stage) :
    stage.resetAll = { stage.fresh.under stage.guise with playback := stage.playback } := by
  have timers : stage.resetAll.timers = TimerQueue.empty.renumbered stage.timers.issued :=
    TimerQueue.ext (pending_resetAll tidy) (disarmed_issued stage.actors stage.timers)
  have actors : stage.actors.map Actor.rewound =
      (stage.actors.map Actor.rewound).map (.renamed (stage.timers.issued + ·)) := by
    rw [List.map_map]
    rfl
  exact congrArg₂ (fun (actors : List Actor) timers => { stage with actors, timers }) actors timers

/-- On a new stage there is nothing to reset. -/
theorem resetAll_fresh (stage : Stage) : stage.fresh.resetAll = stage.fresh := by
  have timers : stage.fresh.resetAll.timers = stage.fresh.timers :=
    disarmed_bare (bubble_resetAll stage) _
  have actors : stage.fresh.resetAll.actors = stage.fresh.actors := by
    show (stage.actors.map Actor.rewound).map Actor.rewound = _
    rw [List.map_map]
    rfl
  exact congrArg₂ (fun (actors : List Actor) timers => { stage.fresh with actors, timers }) actors timers

/-- Playing uses nothing of playback so far but its period. -/
theorem play_eq (tidy : Tidy stage) : stage.play = (stage.fresh.under stage.guise).play := by
  unfold play
  rw [resetAll_eq tidy, resetAll_under, resetAll_fresh]
  rfl

theorem transcript_play (tidy : Tidy stage) {operations : List Operation}
    (unobserved : ∀ operation ∈ operations, operation.observes = false) :
    stage.transcript (.play :: operations) =
      (stage.fresh.transcript (.play :: operations)).renamed (stage.timers.issued + ·) := by
  have plays : stage.perform .play = (stage.fresh.under stage.guise).perform .play :=
    congrArg (fun played => do return (← played).respond fun _ => .done) (play_eq tidy)
  calc stage.transcript (.play :: operations)
      = (stage.fresh.under stage.guise).transcript (.play :: operations) := by
        rw [transcript, transcript, plays]
    _ = (stage.fresh.transcript (.play :: operations)).renamed (stage.timers.issued + ·) :=
        transcript_under stage.guise stage.fresh (List.forall_mem_cons.mpr ⟨rfl, unobserved⟩)

/-- Stages of one configuration that agree on clock, selection and cast are the same afresh. -/
theorem fresh_eq {config : Config} {first second : Stage} (firstReachable : ReachableWithRoom config first)
    (secondReachable : ReachableWithRoom config second) (now : first.now = second.now)
    (active : first.active = second.active)
    (cast : List.Forall₂ Actor.SameRole first.actors second.actors) : first.fresh = second.fresh := by
  obtain ⟨-, firstConfig, firstPeriod⟩ := settled_of_reachable firstReachable
  obtain ⟨-, secondConfig, secondPeriod⟩ := settled_of_reachable secondReachable
  have actors : first.actors.map Actor.rewound = second.actors.map Actor.rewound := by
    rw [← List.forall₂_eq_eq_eq, List.forall₂_map_left_iff, List.forall₂_map_right_iff]
    exact cast.imp fun _ _ same => same.rewound
  simp only [fresh, actors, active, now, firstConfig, secondConfig, firstPeriod, secondPeriod]

/-- Right after playing starts no actor has a bubble and no timer is left. -/
theorem play_clears (tidy : Tidy stage) {outcome : Outcome Unit} (played : stage.play = .ok outcome) :
    outcome.stage.timers.pending = [] ∧ ∀ actor ∈ outcome.stage.actors, actor.bubble = none := by
  obtain ⟨playback, -, same⟩ := bind_eq_ok.mp played
  have ends : outcome.stage = ({ stage.resetAll with playback } : Stage).finishIfDrained.1 := by
    cases same
    rfl
  rw [ends, finishIfDrained_timers, finishIfDrained_actors]
  exact ⟨pending_resetAll tidy, bubble_resetAll stage⟩

/-- Playing erases all history. Two stages of one configuration that agree on clock, selection and cast,
but may differ in cursors, bubbles, timers and playback, show a caller the same from when both start to
play on, whatever operations follow: the same answers, notices, snapshots and faults, but for a renaming
of handles that keeps their order. Right after playing starts no bubble is shown and no timer is left. -/
theorem play_erases_history {config : Config} {first second : Stage}
    (firstReachable : ReachableWithRoom config first) (secondReachable : ReachableWithRoom config second)
    (now : first.now = second.now) (active : first.active = second.active)
    (cast : List.Forall₂ Actor.SameRole first.actors second.actors) :
    (∃ rename : Nat → Nat, ∀ operations : List Operation,
      (∀ operation ∈ operations, operation.observes = false) →
        StrictMonoOn rename { handle | handle ∈ (first.transcript (.play :: operations)).handles } ∧
        second.transcript (.play :: operations) =
          (first.transcript (.play :: operations)).renamed rename) ∧
    ∀ outcome, first.play = .ok outcome ∨ second.play = .ok outcome →
      outcome.stage.timers.pending = [] ∧ ∀ actor ∈ outcome.stage.actors, actor.bubble = none := by
  have firstTidy := tidy_of_reachable firstReachable
  have secondTidy := tidy_of_reachable secondReachable
  have same := fresh_eq firstReachable secondReachable now active cast
  refine ⟨⟨fun handle => second.timers.issued + (handle - first.timers.issued), ?_⟩, ?_⟩
  · intro operations unobserved
    have shown := transcript_play firstTidy unobserved
    constructor
    · -- Every handle seen was handed out after playing started.
      have after : ∀ handle ∈ (first.transcript (.play :: operations)).handles,
          first.timers.issued ≤ handle := by
        rw [shown, Transcript.handles_renamed]
        intro handle member
        obtain ⟨fresh, -, rfl⟩ := List.mem_map.mp member
        exact Nat.le_add_right ..
      intro a memberA b memberB less
      have later := after a memberA
      show second.timers.issued + (a - first.timers.issued) <
        second.timers.issued + (b - first.timers.issued)
      omega
    · rw [transcript_play secondTidy unobserved, ← same, shown, Transcript.renamed_renamed]
      simp only [Nat.add_sub_cancel_left]
  · rintro outcome (played | played)
    · exact play_clears firstTidy played
    · exact play_clears secondTidy played

/-- The degrees of a program that only turns. -/
def turns? : List Command → Option (List Int)
  | [] => some []
  | .turn degrees :: rest => (turns? rest).map (degrees :: ·)
  | _ :: _ => none

theorem eq_of_turns? {program : List Command} {degrees : List Int}
    (turns : turns? program = some degrees) : program = degrees.map .turn := by
  fun_induction turns? program generalizing degrees with
  | case1 =>
    cases turns
    rfl
  | case2 first rest ih =>
    obtain ⟨others, turnsRest, rfl⟩ := Option.map_eq_some_iff.mp turns
    rw [ih turnsRest, List.map_cons]
  | case3 => cases turns

/-- A cat that speaks halfway through its program and one that has just arrived: when both start to play,
speak and are taken out, they are taken out with the second and with the first handle handed out. -/
theorem play_erases_history_spoken :
    let cat : ActorId := ⟨1, by decide⟩
    let operations : List Operation :=
      [.executeImmediate cat (.bubble .speech "Bye" (some 2)), .tick, .removeActor cat]
    ∃ first second, ReachableWithRoom {} first ∧ ReachableWithRoom {} second ∧
      first.isRunning = true ∧ first.timers.size = 1 ∧ second.isRunning = false ∧
      (first.transcript (.play :: operations)).handles = [2] ∧
      ∃ rename : Nat → Nat, rename 2 = 1 ∧ second.transcript (.play :: operations) =
        (first.transcript (.play :: operations)).renamed rename := by
  intro cat operations
  let arrives : Operation :=
    .insertActor { id := cat, name := "Cat", x := 0, y := 0, program := [.turn 10, .turn 20] }
  let alone (stage : Stage) : Prop :=
    (stage.now = .zero ∧ stage.active = some cat) ∧
      stage.actors.map (fun actor => (actor.id, actor.name, actor.x, actor.y)) = [(cat, "Cat", 0, 0)] ∧
      stage.actors.map (fun actor => (actor.heading, turns? actor.program)) = [(100, some [10, 20])]
  obtain ⟨first, firstReachable, passes⟩ := exists_reachable {}
    [arrives, .play, .tick, .executeImmediate cat (.bubble .speech "Hi" (some 2))]
    (fun stage => decide (alone stage) && decide (stage.isRunning = true ∧ stage.timers.size = 1 ∧
      (stage.transcript (.play :: operations)).handles = [2]))
    rfl (by simp [Operation.hasRoom, arrives]) (by decide +kernel)
  rw [Bool.and_eq_true, decide_eq_true_eq, decide_eq_true_eq] at passes
  obtain ⟨⟨⟨firstNow, firstActive⟩, firstPose, firstTurns⟩, running, spoken, two⟩ := passes
  obtain ⟨second, secondReachable, passes⟩ := exists_reachable {}
    [arrives, .executeImmediate cat (.turn 10)]
    (fun stage => decide (alone stage) && decide (stage.isRunning = false ∧
      (stage.transcript (.play :: operations)).handles = [1]))
    rfl (by simp [Operation.hasRoom, arrives]) (by decide +kernel)
  rw [Bool.and_eq_true, decide_eq_true_eq, decide_eq_true_eq] at passes
  obtain ⟨⟨⟨secondNow, secondActive⟩, secondPose, secondTurns⟩, idle, one⟩ := passes
  have cast : List.Forall₂ Actor.SameRole first.actors second.actors := by
    obtain ⟨a, only, poseA⟩ := List.map_eq_singleton_iff.mp firstPose
    obtain ⟨b, other, poseB⟩ := List.map_eq_singleton_iff.mp secondPose
    rw [only, List.map_singleton, List.singleton_inj] at firstTurns
    rw [other, List.map_singleton, List.singleton_inj] at secondTurns
    simp only [Prod.mk.injEq] at poseA poseB firstTurns secondTurns
    obtain ⟨idA, nameA, xA, yA⟩ := poseA
    obtain ⟨idB, nameB, xB, yB⟩ := poseB
    obtain ⟨headingA, programA⟩ := firstTurns
    obtain ⟨headingB, programB⟩ := secondTurns
    rw [only, other]
    refine .cons ⟨idA.trans idB.symm, nameA.trans nameB.symm, xA.trans xB.symm, yA.trans yB.symm,
      headingA.trans headingB.symm, ?_⟩ .nil
    rw [eq_of_turns? programA, eq_of_turns? programB]
  obtain ⟨⟨rename, shown⟩, -⟩ := play_erases_history firstReachable secondReachable
    (firstNow.trans secondNow.symm) (firstActive.trans secondActive.symm) cast
  obtain ⟨-, same⟩ := shown operations (by simp [Operation.observes, operations])
  refine ⟨first, second, firstReachable, secondReachable, running, spoken, idle, two, rename, ?_, same⟩
  rw [same, Transcript.handles_renamed, two] at one
  exact (List.cons.inj one).1

end Stage

end SpriteStage
