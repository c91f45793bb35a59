import SpriteStage.Proofs.Stage.Bubbles
import SpriteStage.Proofs.Stage.Overflow
import SpriteStage.Proofs.Stage.Schedule

/-!
# Every tick

A tick relies on actors told apart by their identifiers, on limits and programs that are in order, and on
a schedule of actors that stand on the stage (`Poised`). Reachable stages are poised, and stay so while
time passes, so what holds of every tick on a poised stage holds of the tick that is forced
(`exists_tick`) and of all ticks on the way through time (`exists_ticks`).
-/

namespace SpriteStage.Stage

/-- What a tick relies on. -/
structure Poised (stage : Stage) : Prop where
  distinct : (stage.actors.map (·.id)).Nodup
  steady : stage.Steady
  castScheduled : stage.CastScheduled

variable {stage last before : Stage} {config : Config} {outcome : Outcome TickReport}

theorem poised_of_reachable (reachable : ReachableWithRoom config stage) : Poised stage :=
  ⟨(tidy_of_reachable reachable).distinct, steady_of_reachable reachable,
    castScheduled_of_reachable reachable⟩

/-- Whatever has happened on the way through time, the stage is poised for the next tick. -/
theorem poised_of_unfolds {target : Duration} {log : List Happening}
    (reachable : ReachableWithRoom config stage) (unfolds : stage.Unfolds target log last) : Poised last := by
  have changes := changes_of_unfolds unfolds
  constructor
  case distinct => exact (tidy_of_changes changes (tidy_of_reachable reachable)).distinct
  case steady => exact steady_of_changes changes (steady_of_reachable reachable)
  case castScheduled =>
    exact (acts_of_unfolds unfolds).preserves castScheduled_of_act (castScheduled_of_reachable reachable)

/-- A tick on the way through time runs on a poised stage. -/
theorem poised_of_ticked {target : Duration} {log : List Happening}
    (reachable : ReachableWithRoom config stage) (unfolds : stage.Unfolds target log last)
    (member : .ticked before outcome ∈ log) : Poised before ∧ before.runTick = .ok outcome := by
  obtain ⟨early, late, rfl⟩ := List.append_of_mem member
  obtain ⟨reached, after, unfoldsEarly, happens, -⟩ := unfolds.split
  have poised := poised_of_unfolds reachable unfoldsEarly
  cases happens with
  | @ticked time _ due first ran =>
    exact ⟨⟨poised.distinct, poised.steady.waited time, poised.castScheduled⟩, ran⟩

/-- Short of the end of the clock, a tick that is forced while playback runs comes to an outcome. -/
theorem exists_tick (reachable : ReachableWithRoom config stage) (running : stage.isRunning = true)
    (inTime : ¬ stage.playback.Overflows stage.now) :
    ∃ outcome, stage.tick = .ok outcome ∧ stage.runTick = .ok outcome := by
  cases ticked : stage.tick with
  | error fault =>
    obtain ⟨-, -, late⟩ := (tick_eq_error (steady_of_reachable reachable)).mp ticked
    exact absurd late inTime
  | ok outcome =>
    rw [tick, if_pos running] at ticked
    exact ⟨outcome, rfl, ticked⟩

/-- While time passes, all ticks on the way run on poised stages. -/
theorem exists_ticks (reachable : ReachableWithRoom config stage) (elapsed : Duration) :
    ∃ log last, stage.Elapses elapsed log last ∧
      ∀ before outcome, .ticked before outcome ∈ log → Poised before ∧ before.runTick = .ok outcome := by
  obtain ⟨log, last, elapses⟩ := advanceTime_unfolds stage reachable.period_pos elapsed
  exact ⟨log, last, elapses, fun _ _ => poised_of_ticked reachable elapses.unfolds⟩

end SpriteStage.Stage
