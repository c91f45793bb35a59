import Mathlib.Data.List.Perm.Subperm
import SpriteStage.Stage.Cast

/-!
# Fresh identifiers

While fewer actors are on the stage than there are identifiers, the identifier an added actor gets
is not in use, also when the numbers at either end are taken (`freshId_fresh`).
-/

namespace SpriteStage

/-- Different numbers that are all in use are at most as many as there are users. -/
theorem length_le_of_all_used {numbers used : List Nat} (distinct : numbers.Nodup)
    (allUsed : ∀ n ∈ numbers, n ∈ used) : numbers.length ≤ used.length :=
  (List.subperm_of_subset distinct allUsed).length_le

/-- The smallest number from one on that is free, or zero if it is none of the numbers of
identifiers, is free. -/
theorem smallest_free {used : List Nat} (room : used.length ≤ maxActorNumber) :
    (((List.range' 1 (used.length + 1)).find? fun n => !used.contains n).bind
      ActorId.ofNat?).elim 0 ActorId.number ∉ used := by
  cases found : (List.range' 1 (used.length + 1)).find? fun n => !used.contains n with
  | none =>
    have allUsed := length_le_of_all_used List.nodup_range' fun n inRange => by
      simpa using List.find?_eq_none.mp found n inRange
    rw [List.length_range'] at allUsed
    omega
  | some n =>
    obtain ⟨unused, inRange, earlier⟩ := List.find?_range'_eq_some.mp found
    rw [Option.bind_some, ActorId.ofNat?]
    by_cases fits : n ≤ maxActorNumber
    · simpa [fits] using unused
    · -- every number from one on is taken, so zero is free
      simp only [fits, dif_neg, not_false_eq_true, Option.elim_none]
      intro zeroUsed
      have allUsed : ∀ m ∈ List.range (used.length + 1), m ∈ used := by
        intro m member
        rw [List.mem_range] at member
        rcases Nat.eq_zero_or_pos m with rfl | positive
        · exact zeroUsed
        · simpa using earlier m positive (by omega)
      have tooMany := length_le_of_all_used List.nodup_range allUsed
      rw [List.length_range] at tooMany
      omega

theorem freshId_fresh {actors : List Actor} (room : actors.length ≤ maxActorNumber) :
    ∀ actor ∈ actors, actor.id ≠ freshId actors := by
  intro actor member same
  have inUse : actor.id.number ∈ actors.map (·.id.number) := List.mem_map_of_mem member
  rw [same] at inUse
  unfold freshId at inUse
  dsimp only at inUse
  split at inUse
  · rename_i empty
    simp [List.max?_eq_none_iff.mp empty] at inUse
  · rename_i largest max
    split at inUse
    · have bounded := (List.max?_eq_some_iff.mp max).2 _ inUse
      dsimp only at bounded
      omega
    · have roomFor : (actors.map (·.id.number)).length ≤ maxActorNumber := by simpa using room
      have free := smallest_free roomFor
      revert inUse free
      cases ((List.range' 1 ((actors.map (·.id.number)).length + 1)).find?
        fun n => !(actors.map (·.id.number)).contains n).bind ActorId.ofNat? with
      | none => exact fun inUse free => free inUse
      | some id => exact fun inUse free => free inUse

end SpriteStage
