import UplinkFlow.Layout.Validation

/-!
# What a valid layout is

* `FieldKind.Allows` — the lengths that a type of fields may have.
* `Layout.IsValid` — names are declared once, every field has a length that its type allows, and the
  time of a device is taken from a declared field in a given format.
* `Layout.validate_eq_ok_iff` — **exactly the valid layouts pass the check.**
-/

set_option autoImplicit false

namespace UplinkFlow

/-- The lengths that a type of fields may have; there is none for a type that is not known. -/
def FieldKind.Allows : FieldKind → UInt64 → Prop
  | .int, n | .uint, n => n = 1 ∨ n = 2 ∨ n = 4 ∨ n = 8
  | .float, n => n = 2 ∨ n = 4 ∨ n = 8
  | .asciiText, n | .unicodeText, n => n ≠ 0
  | .unknown _, _ => False

namespace Layout

variable {l : Layout} {f : Field} {fields : List Field} {seen declared : List String}
  {time : TimeRule}

/-- The time of a device is taken from a declared field in a given format. -/
def HasTime (declared : List String) (time : TimeRule) : Prop :=
  time.source = .device →
    ∃ name format, time.field = some name ∧ time.format = some format ∧ name ∈ declared

/-- What a layout must be to be put to use. -/
structure IsValid (l : Layout) : Prop where
  distinct : (l.fields.map (·.name)).Nodup
  allowed : ∀ f ∈ l.fields, f.kind.Allows f.length
  timed : HasTime (l.fields.map (·.name)) l.time

/-! ## The parts of the check -/

theorem fieldFault?_eq_none_iff : fieldFault? f = none ↔ f.kind.Allows f.length := by
  unfold fieldFault? FieldKind.Allows
  cases f.kind with
  | int | uint | float | asciiText | unicodeText =>
    dsimp only
    split <;> rename_i h <;> simp [h]
  | unknown type => simp

theorem fieldsFault?_eq_none_iff :
    fieldsFault? seen fields = none ↔ (fields.map (·.name)).Nodup ∧
      (∀ f ∈ fields, f.name ∉ seen) ∧ ∀ f ∈ fields, f.kind.Allows f.length := by
  -- the names seen so far grow by one with every field
  induction fields generalizing seen with
  | nil => simp [fieldsFault?]
  | cons f rest ih =>
    rw [fieldsFault?]
    split
    · rename_i hseen
      simp [hseen]
    · rename_i hnew
      rw [Option.or_eq_none_iff, fieldFault?_eq_none_iff, ih, List.map_cons, List.nodup_cons,
        List.forall_mem_cons, List.forall_mem_cons]
      constructor
      · rintro ⟨hallows, hnodup, hrest, hallowed⟩
        refine ⟨⟨fun hmem => ?_, hnodup⟩, ⟨hnew, fun g hg hmem => ?_⟩, hallows, hallowed⟩
        · obtain ⟨g, hg, hname⟩ := List.mem_map.mp hmem
          exact hrest g hg (hname ▸ List.mem_cons_self)
        · exact hrest g hg (List.mem_cons_of_mem _ hmem)
      · rintro ⟨⟨hnot, hnodup⟩, ⟨-, hrest⟩, hallows, hallowed⟩
        refine ⟨hallows, hnodup, fun g hg hmem => ?_, hallowed⟩
        rcases List.mem_cons.mp hmem with hname | hmem
        · exact hnot (hname ▸ List.mem_map_of_mem hg)
        · exact hrest g hg hmem

theorem timeFault?_eq_none_iff : timeFault? declared time = none ↔ HasTime declared time := by
  obtain ⟨source, field, format⟩ := time
  unfold timeFault? HasTime
  cases source with
  | network => simp
  | device => cases field <;> cases format <;> simp

/-- **Exactly the valid layouts pass the check.** -/
theorem validate_eq_ok_iff : l.validate = .ok () ↔ l.IsValid := by
  have hnone : l.validate = .ok () ↔
      (fieldsFault? [] l.fields).or (timeFault? (l.fields.map (·.name)) l.time) = none := by
    unfold validate
    split
    · rename_i fault hfault
      simp [hfault]
    · rename_i hfault
      simp [hfault]
  rw [hnone, Option.or_eq_none_iff, fieldsFault?_eq_none_iff, timeFault?_eq_none_iff]
  constructor
  · rintro ⟨⟨hdistinct, -, hallowed⟩, htimed⟩
    exact ⟨hdistinct, hallowed, htimed⟩
  · rintro ⟨hdistinct, hallowed, htimed⟩
    exact ⟨⟨hdistinct, fun _ _ => List.not_mem_nil, hallowed⟩, htimed⟩

end Layout

end UplinkFlow
