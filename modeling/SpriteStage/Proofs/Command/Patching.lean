import SpriteStage.Command.Patch

/-!
# What a patch makes of a command

A command is its kind together with the values of its fields (`eq_of_value?`), and a patch is the values it
sets. `PatchedBy` says in these words what patching comes to. The table of fields by which patches are
refused and the function that writes them are separate; that they agree field by field is `has_kind` and
`value?_overwrite`. Main statement: `patches_overwrite`.
-/

namespace SpriteStage

/-- The values that a field can have. -/
abbrev Field.Value : Field → Type
  | .distance | .x | .y => Float
  | .degrees | .count => Int
  | .text => String
  | .duration => Option Float
  | .body => List Command

/-- The value that a patch sets a field to, if it sets it. -/
def Patch.value? (patch : Patch) : (field : Field) → Option field.Value
  | .distance => patch.distance
  | .degrees => patch.degrees
  | .x => patch.x
  | .y => patch.y
  | .text => patch.text
  | .duration => patch.duration
  | .count => patch.count
  | .body => patch.body

namespace Command

/-- The value of a field, if commands of this kind have it. -/
def value? : Command → (field : Field) → Option field.Value
  | .move distance, .distance => some distance
  | .turn degrees, .degrees => some degrees
  | .goTo x _, .x => some x
  | .goTo _ y, .y => some y
  | .bubble _ text _, .text => some text
  | .bubble _ _ duration, .duration => some duration
  | .repeatTimes count _, .count => some count
  | .repeatTimes _ body, .body => some body
  | _, _ => none

/-- The fields that a patch sets and a command does not have, in the order in which messages list them. -/
def strays (command : Command) (patch : Patch) : List Field :=
  [.distance, .degrees, .x, .y, .text, .duration, .count, .body].filter fun field =>
    (patch.value? field).isSome && (command.value? field).isNone

/-- A command of the same kind has the values that a patch sets, and the values of the old one otherwise. -/
structure Takes (command : Command) (patch : Patch) (updated : Command) : Prop where
  kind : updated.kind = command.kind
  set : ∀ field value, patch.value? field = some value → updated.value? field = some value
  kept : ∀ field, patch.value? field = none → updated.value? field = command.value? field

/-- The body of a command holds a repeat. -/
def BodyRepeats (command : Command) : Prop :=
  ∃ body inner, command.value? .body = some body ∧ inner ∈ body ∧ inner.isRepeat = true

/-- What patching a command comes to: it is refused for all fields that the command does not have, else
for a repeat inside the body it would have, and carried out otherwise. -/
inductive PatchedBy (command : Command) (patch : Patch) : Except StageError Command → Prop
  | refused (strays : command.strays patch ≠ []) :
      PatchedBy command patch (.error (.invalidPatch command.kind (command.strays patch)))
  | nested {updated : Command} (fits : command.strays patch = []) (takes : command.Takes patch updated)
      (repeats : updated.BodyRepeats) : PatchedBy command patch (.error .nestedRepeat)
  | written {updated : Command} (fits : command.strays patch = []) (takes : command.Takes patch updated)
      (flat : ¬ updated.BodyRepeats) : PatchedBy command patch (.ok updated)

variable {command updated : Command} {patch : Patch}

/-! ### Commands by their fields -/

/-- Commands of one kind with the same values are equal. -/
theorem eq_of_value? {other : Command} (kind : command.kind = other.kind)
    (same : ∀ field, command.value? field = other.value? field) : command = other := by
  cases command with
  | move distance =>
    cases other <;> cases kind
    cases same .distance
    rfl
  | turn degrees =>
    cases other <;> cases kind
    cases same .degrees
    rfl
  | goTo x y =>
    cases other <;> cases kind
    cases same .x
    cases same .y
    rfl
  | bubble kind text duration =>
    cases other <;> cases kind
    cases same .text
    cases same .duration
    rfl
  | repeatTimes count body =>
    cases other <;> cases kind
    cases same .count
    cases same .body
    rfl

/-- The table of fields lists those that have a value. -/
theorem has_kind (command : Command) (field : Field) :
    command.kind.has field = (command.value? field).isSome := by
  cases command <;> cases field <;> rfl

theorem names_eq (patch : Patch) (field : Field) : patch.names field = (patch.value? field).isSome := by
  cases field <;> rfl

theorem strays_eq (command : Command) (patch : Patch) :
    command.strays patch = patch.foreign command.kind := by
  show Field.all.filter _ = Field.all.filter _
  congr 1
  funext field
  rw [names_eq, has_kind, Option.not_isSome]

theorem isFlat_eq_false (command : Command) : command.isFlat = false ↔ command.BodyRepeats := by
  cases command with
  | repeatTimes count body => simp [isFlat, BodyRepeats, value?]
  | _ => simp [isFlat, BodyRepeats, value?]

@[simp] theorem kind_overwrite (command : Command) (patch : Patch) :
    (command.overwrite patch).kind = command.kind := by
  cases command <;> rfl

/-- Every field that a command has is written, if the patch sets it. -/
theorem value?_overwrite (command : Command) (patch : Patch) (field : Field) :
    (command.overwrite patch).value? field =
      (command.value? field).map fun old => (patch.value? field).getD old := by
  cases command <;> cases field <;> rfl

theorem takes_overwrite (fits : command.strays patch = []) :
    command.Takes patch (command.overwrite patch) := by
  refine ⟨kind_overwrite command patch, fun field value sets => ?_, fun field keeps => ?_⟩
  · have has : (command.value? field).isSome = true := by
      have none := List.filter_eq_nil_iff.mp fits field (Field.mem_all field)
      simpa [sets, Option.isSome_iff_ne_none] using none
    obtain ⟨old, is⟩ := Option.isSome_iff_exists.mp has
    rw [value?_overwrite, is, sets]
    rfl
  · rw [value?_overwrite, keeps]
    simp

theorem Takes.unique {other : Command} (takes : command.Takes patch updated)
    (also : command.Takes patch other) : updated = other := by
  refine eq_of_value? (takes.kind.trans also.kind.symm) fun field => ?_
  cases sets : patch.value? field with
  | some value => rw [takes.set field value sets, also.set field value sets]
  | none => rw [takes.kept field sets, also.kept field sets]

/-! ### One patch -/

theorem patched_of_strays (strays : command.strays patch ≠ []) :
    command.patched patch = .error (.invalidPatch command.kind (command.strays patch)) := by
  rw [strays_eq] at strays ⊢
  simp [patched, strays]
  rfl

theorem patched_of_fits (fits : command.strays patch = []) : command.patched patch =
    if (command.overwrite patch).isFlat then .ok (command.overwrite patch) else .error .nestedRepeat := by
  rw [strays_eq] at fits
  simp only [patched, fits, validate]
  by_cases flat : (command.overwrite patch).isFlat
  · rw [if_pos flat, if_pos flat]
    rfl
  · rw [if_neg flat, if_neg flat]
    rfl

theorem patchedBy_patched (command : Command) (patch : Patch) :
    command.PatchedBy patch (command.patched patch) := by
  by_cases fits : command.strays patch = []
  · have takes := takes_overwrite fits
    rw [patched_of_fits fits]
    by_cases flat : (command.overwrite patch).isFlat
    · rw [if_pos flat]
      refine .written fits takes fun repeats => ?_
      rw [← isFlat_eq_false, flat] at repeats
      cases repeats
    · rw [if_neg flat]
      exact .nested fits takes ((isFlat_eq_false _).mp (Bool.eq_false_iff.mpr flat))
  · rw [patched_of_strays fits]
    exact .refused fits

theorem PatchedBy.unique {result other : Except StageError Command} (first : command.PatchedBy patch result)
    (second : command.PatchedBy patch other) : result = other := by
  cases first with
  | refused strays =>
    cases second with
    | refused => rfl
    | nested fits => exact absurd fits strays
    | written fits => exact absurd fits strays
  | nested fits takes repeats =>
    cases second with
    | refused strays => exact absurd fits strays
    | nested => rfl
    | written fits' takes' flat => exact absurd (takes.unique takes' ▸ repeats) flat
  | written fits takes flat =>
    cases second with
    | refused strays => exact absurd fits strays
    | nested fits' takes' repeats => exact absurd (takes'.unique takes ▸ repeats) flat
    | written fits' takes' flat' => rw [takes.unique takes']

/-! ### One patch after another -/

theorem value?_override (first second : Patch) (field : Field) :
    (first.override second).value? field = (second.value? field).or (first.value? field) := by
  cases field <;> exact Option.orElse_eq_or

/-- A field is written by the later of two patches that sets it. -/
theorem overwrite_overwrite (command : Command) (first second : Patch) :
    (command.overwrite first).overwrite second = command.overwrite (first.override second) := by
  refine eq_of_value? (by simp) fun field => ?_
  rw [value?_overwrite, value?_overwrite, value?_overwrite, value?_override, Option.map_map]
  congr 1
  funext old
  cases second.value? field <;> rfl

/-- Behind a patch that fits, a second one is strange in the same fields as the two at once. -/
theorem strays_override {first : Patch} (fits : command.strays first = []) (second : Patch) :
    command.strays (first.override second) = (command.overwrite first).strays second := by
  refine List.filter_congr fun field member => ?_
  have known := List.filter_eq_nil_iff.mp fits field member
  rw [value?_override, value?_overwrite, Option.isSome_or, Option.isNone_map]
  cases lacks : (command.value? field).isNone with
  | false => simp
  | true =>
    rw [lacks, Bool.and_true, Bool.not_eq_true] at known
    rw [known, Bool.or_false]

theorem patched_override {first : Patch} (fits : command.strays first = []) (second : Patch) :
    (command.overwrite first).patched second = command.patched (first.override second) := by
  have same := strays_override fits second
  by_cases fitsToo : (command.overwrite first).strays second = []
  · rw [patched_of_fits fitsToo, patched_of_fits (same.trans fitsToo), overwrite_overwrite]
  · rw [patched_of_strays fitsToo, patched_of_strays (same ▸ fitsToo), same, kind_overwrite]

/-- Patching a command is refused, with its kind and all fields that it does not have, exactly if the patch
sets any; else it is refused exactly if the body would hold a repeat; else it writes the values that the
patch sets, and no others. A second patch then comes to what the two come to at once, where the second
counts before the first. -/
theorem patches_overwrite (command : Command) (patch : Patch) :
    (∀ result, command.patched patch = result ↔ command.PatchedBy patch result) ∧
    ∀ updated, command.patched patch = .ok updated →
      ∀ next, updated.patched next = command.patched (patch.override next) := by
  constructor
  · intro result
    constructor
    · rintro rfl
      exact patchedBy_patched command patch
    · exact (patchedBy_patched command patch).unique
  · intro updated done next
    have patchedBy := patchedBy_patched command patch
    rw [done] at patchedBy
    cases patchedBy with
    | written fits takes flat =>
      rw [takes.unique (takes_overwrite fits)]
      exact patched_override fits next

/-- A bubble loses its duration, then gets another text, and has no count to be set. -/
theorem patches_overwrite_bubble :
    let hello : Command := .bubble .speech "Hello" (some 2)
    let cleared : Command := .bubble .speech "Hello" none
    let clears : Patch := { duration := some none }
    hello.patched clears = .ok cleared ∧
      cleared.patched { text := some "Bye" } = hello.patched (clears.override { text := some "Bye" }) ∧
      hello.patched (clears.override { text := some "Bye" }) = .ok (.bubble .speech "Bye" none) ∧
      hello.patched (clears.override { count := some 3, x := some 0 }) =
        .error (.invalidPatch (.bubble .speech) [.x, .count]) := by
  intro hello cleared clears
  have done : hello.patched clears = .ok cleared := rfl
  obtain ⟨-, next⟩ := patches_overwrite hello clears
  exact ⟨done, next cleared done _, rfl, rfl⟩

end Command

end SpriteStage
