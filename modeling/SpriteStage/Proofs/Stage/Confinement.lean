import SpriteStage.Proofs.Geometry.Order
import SpriteStage.Proofs.Stage.Faults

/-!
# Actors stay on the stage

Wherever a position is written, each coordinate is the result of clamping to the limits, or the one
that was there before. So the invariant is that every actor stands inside: a step that leaves y alone
relies on y having been inside. What is clamped may be any double, a sum that overflowed or an
argument that is not a number. Main statement: `stays_on_stage`.
-/

namespace SpriteStage

/-- The actor stands inside the bounds. -/
structure Actor.Inside (bounds : Bounds) (actor : Actor) : Prop where
  x : bounds.minX ≤ actor.x ∧ actor.x ≤ bounds.maxX
  y : bounds.minY ≤ actor.y ∧ actor.y ≤ bounds.maxY

/-- Taking a pose keeps an actor inside. -/
theorem Actor.Posed.inside {bounds : Bounds} {actor moved : Actor} (posed : actor.Posed bounds moved)
    (inside : actor.Inside bounds) : moved.Inside bounds := by
  constructor
  · rcases posed.x with kept | ⟨target, clamped⟩
    · rw [kept]
      exact inside.x
    · exact clampBetween_within clamped
  · rcases posed.y with kept | ⟨target, clamped⟩
    · rw [kept]
      exact inside.y
    · exact clampBetween_within clamped

namespace Stage

/-- Every actor stands inside the bounds. -/
def Confined (stage : Stage) : Prop := ∀ actor ∈ stage.actors, actor.Inside stage.bounds

variable {stage after : Stage} {actor moved : Actor} {i : Nat}

theorem confined_put (confined : Confined stage) (inside : moved.Inside stage.bounds)
    (timers : TimerQueue) : Confined (stage.put i moved timers) := by
  intro other member
  rcases List.mem_or_eq_of_mem_set member with member | rfl
  · exact confined other member
  · exact inside

/-- An actor that stays where it is stays inside. -/
theorem confined_put_same (confined : Confined stage) (here : stage.actors[i]? = some actor)
    (x : moved.x = actor.x) (y : moved.y = actor.y) (timers : TimerQueue) :
    Confined (stage.put i moved timers) := by
  have inside := confined actor (List.mem_of_getElem? here)
  exact confined_put confined ⟨x ▸ inside.x, y ▸ inside.y⟩ timers

theorem confined_of_touch (touch : Touch stage after) (confined : Confined stage) : Confined after := by
  cases touch with
  | control => exact confined
  | posed here posed =>
    exact confined_put confined (posed.inside (confined _ (List.mem_of_getElem? here))) _
  | @exchanged i j first second apart here there =>
    have given : Confined (stage.put i { first with program := second.program } stage.timers) :=
      confined_put_same confined here (by rfl) (by rfl) _
    have still : (stage.put i { first with program := second.program } stage.timers).actors[j]? =
        some second := by simpa [put, apart] using there
    exact confined_put_same given still (by rfl) (by rfl) _
  | edited _ _ _ here | shown _ _ here | armed _ _ here | hushed here =>
    exact confined_put_same confined here (by rfl) (by rfl) _
  | silenced bare => exact confined

theorem confined_arrived (confined : Confined stage) (inside : actor.Inside stage.bounds)
    (active : Option ActorId) :
    Confined { stage with actors := stage.actors ++ [actor], active } := by
  intro other member
  rcases List.mem_append.mp member with stands | arrives
  · exact confined other stands
  · rw [List.mem_singleton.mp arrives]
    exact inside

theorem confined_of_change (change : Change stage after) (confined : Confined stage) :
    Confined after := by
  cases change with
  | touched touch => exact confined_of_touch touch confined
  | arrived active fresh flat x y heading rewound =>
    obtain ⟨_, clampedX⟩ := x
    obtain ⟨_, clampedY⟩ := y
    exact confined_arrived confined ⟨clampBetween_within clampedX, clampBetween_within clampedY⟩ active
  | left id active => exact fun other member => confined other (List.mem_of_mem_eraseP member)
  | planned | waited => exact confined
  | @fired timer timers popped =>
    have popped : Confined { stage with timers } := confined
    rcases expire_stage { stage with timers } timer with same | ⟨i, actor, here, hushed⟩
    · rw [same]
      exact popped
    · rw [hushed]
      exact confined_put_same popped here (by rfl) (by rfl) _

theorem confined_of_changes (changes : Changes stage after) (confined : Confined stage) :
    Confined after := by
  induction changes with
  | refl => exact confined
  | tail _ change ih => exact confined_of_change change ih

/-- Placing an actor puts it inside, whatever its identifier and its coordinates. -/
theorem confined_place {outcome : Outcome ActorId} (confined : Confined stage)
    (placed : stage.place actor = .ok outcome) : Confined outcome.stage := by
  obtain ⟨⟨x, y⟩, clamped, placed⟩ := bind_eq_ok.mp placed
  obtain ⟨clampedX, clampedY⟩ := Bounds.clamp_eq_ok.mp clamped
  cases placed
  refine confined_arrived confined ?_ _
  exact ⟨clampBetween_within clampedX, clampBetween_within clampedY⟩

theorem confined_of_reachable {allowed : Stage → Operation → Prop} {config : Config}
    (reachable : ReachableBy allowed config stage) : Confined stage := by
  induction reachable with
  | opening opening =>
    obtain ⟨-, changes⟩ := changes_of_opening opening
    exact confined_of_changes changes (by simp [Confined, unchecked])
  | step reachable _ performed ih =>
    rcases changes_or_placed reachable.period_pos performed with
      changes | ⟨actor, placed, active, bare, places, same⟩
    · exact confined_of_changes changes ih
    · rw [same]
      exact confined_place ih places

/-- Actors never leave the stage. On every stage that operations lead to, whatever coordinates,
distances and floors they were given, every actor stands inside the bounds of the configuration, at
coordinates that are numbers, and its heading is a reduced one. -/
theorem stays_on_stage {config : Config} (reachable : Reachable config stage) :
    stage.bounds = config.bounds ∧ ∀ actor ∈ stage.actors,
      stage.bounds.contains actor.x actor.y = true ∧
      actor.x.isNaN = false ∧ actor.y.isNaN = false ∧
      0 ≤ actor.heading ∧ actor.heading < 360 := by
  obtain ⟨-, same, -⟩ := settled_of_reachable reachable
  refine ⟨congrArg Config.bounds same, fun actor member => ?_⟩
  have inside := confined_of_reachable reachable actor member
  have sound := (steady_of_reachable reachable).sound actor member
  have contained : stage.bounds.contains actor.x actor.y = true :=
    Bounds.contains_iff.mpr ⟨inside.x, inside.y⟩
  obtain ⟨x, y⟩ := Bounds.isNaN_of_contains contained
  exact ⟨contained, x, y, sound.heading_nonneg, sound.heading_lt⟩

/-- On a stage whose floor is not a number an actor is placed at coordinates that are none either, or
infinite, and then takes an infinite step. It stands at the right edge, and at the bottom. -/
theorem stays_on_stage_infinite_step :
    ∃ stage actor, Reachable { motion := .horizontal (some (0 / 0)) } stage ∧ actor ∈ stage.actors ∧
      actor.x.toBits = stage.bounds.maxX.toBits ∧ actor.y.toBits = stage.bounds.minY.toBits ∧
      stage.bounds.contains actor.x actor.y = true ∧ 0 ≤ actor.heading ∧ actor.heading < 360 := by
  let cat : ActorId := ⟨1, by decide⟩
  obtain ⟨stage, reachable, passes⟩ := exists_reachable { motion := .horizontal (some (0 / 0)) }
    [ .insertActor { id := cat, name := "Cat", x := 0 / 0, y := -1 / 0, heading := -10 },
      .executeImmediate cat (.move (1 / 0)) ]
    (fun stage => stage.actors.any fun actor =>
      actor.x.toBits = stage.bounds.maxX.toBits && actor.y.toBits = stage.bounds.minY.toBits)
    rfl (by simp [Operation.hasRoom]) (by decide +kernel)
  obtain ⟨actor, member, stands⟩ := List.any_eq_true.mp passes
  simp only [Bool.and_eq_true, decide_eq_true_eq] at stands
  obtain ⟨-, inside⟩ := stays_on_stage reachable.reachable
  obtain ⟨contained, -, -, heading⟩ := inside actor member
  exact ⟨stage, actor, reachable.reachable, member, stands.1, stands.2, contained, heading⟩

end Stage

end SpriteStage
