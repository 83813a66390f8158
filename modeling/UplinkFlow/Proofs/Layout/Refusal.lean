import UplinkFlow.Proofs.Layout.Validation

/-!
# Why a layout is refused

* `Field.Breaks` — what can be wrong with a field taken for itself.
* `Layout.FaultAfter` — the violation of a field that follows others: that its name is taken comes
  before anything else.
* `Layout.FirstFault` — the first violation of a layout in the order of declaration, where the time
  is looked at last.
* `Layout.validate_exact` — **exactly the valid layouts pass the check, in whatever order their
  fields stand, and any other is refused for its first violation.**
-/

set_option autoImplicit false

namespace UplinkFlow

open Layout (Fault)

/-- What is wrong with a field taken for itself. -/
inductive Field.Breaks (f : Field) : Fault → Prop where
  | unknownType (type : String) (kind : f.kind = .unknown type) :
    f.Breaks (.unknownType f.name type)
  | integerLength (kind : f.kind = .int ∨ f.kind = .uint) (length : f.length ∉ [1, 2, 4, 8]) :
    f.Breaks (.integerLength f.name f.length)
  | floatLength (kind : f.kind = .float) (length : f.length ∉ [2, 4, 8]) :
    f.Breaks (.floatLength f.name f.length)
  | emptyField (kind : f.kind = .asciiText ∨ f.kind = .unicodeText) (length : f.length = 0) :
    f.Breaks (.emptyField f.name)

namespace Layout

variable {l : Layout} {f : Field} {fields before after : List Field} {seen declared : List String}
  {time : TimeRule} {fault : Fault}

/-- The violation of a field that follows fields with the names `declared`. -/
inductive FaultAfter (declared : List String) (f : Field) : Fault → Prop where
  | repeated (taken : f.name ∈ declared) : FaultAfter declared f (.duplicateField f.name)
  | broken {fault : Fault} (new : f.name ∉ declared) (breaks : f.Breaks fault) :
    FaultAfter declared f fault

/-- Fields without a violation: names are declared once, and every length is allowed. -/
structure AreSound (fields : List Field) : Prop where
  distinct : (fields.map (·.name)).Nodup
  allowed : ∀ f ∈ fields, f.kind.Allows f.length

/-- The first violation of a layout. -/
inductive FirstFault (l : Layout) : Fault → Prop where
  | field {before after : List Field} {f : Field} {fault : Fault}
    (parts : l.fields = before ++ f :: after) (earlier : AreSound before)
    (here : FaultAfter (before.map (·.name)) f fault) : FirstFault l fault
  | missingTimeField (sound : AreSound l.fields) (device : l.time.source = .device)
    (missing : l.time.field = none ∨ l.time.format = none) : FirstFault l .missingTimeField
  | unknownTimeField {name : String} (sound : AreSound l.fields) (device : l.time.source = .device)
    (field : l.time.field = some name) (format : l.time.format ≠ none)
    (undeclared : ∀ f ∈ l.fields, f.name ≠ name) : FirstFault l (.unknownTimeField name)

/-! ## Fields -/

theorem fieldFault?_eq_some_iff : fieldFault? f = some fault ↔ f.Breaks fault := by
  obtain ⟨name, kind, offset, length⟩ := f
  constructor
  · intro h
    unfold fieldFault? at h
    split at h
    case h_1 | h_2 =>
      split at h
      · cases h
      · rename_i hlength
        cases h
        exact .integerLength (by simp_all) (by simpa using hlength)
    case h_3 =>
      split at h
      · cases h
      · rename_i hlength
        cases h
        exact .floatLength (by simp_all) (by simpa using hlength)
    case h_4 | h_5 =>
      split at h
      · rename_i hlength
        cases h
        exact .emptyField (by simp_all) hlength
      · cases h
    case h_6 =>
      cases h
      exact .unknownType _ (by simp_all)
  · intro h
    cases h with
    | unknownType type hkind => simp_all [fieldFault?]
    | integerLength hkind hlength => rcases hkind with hkind | hkind <;> simp_all [fieldFault?]
    | floatLength hkind hlength => simp_all [fieldFault?]
    | emptyField hkind hlength => rcases hkind with hkind | hkind <;> simp_all [fieldFault?]

theorem faultAfter_iff : FaultAfter declared f fault ↔
    (if f.name ∈ declared then some (.duplicateField f.name) else fieldFault? f) = some fault := by
  split
  · rename_i htaken
    constructor
    · intro h
      cases h with
      | repeated => rfl
      | broken new => exact absurd htaken new
    · intro h
      cases h
      exact .repeated htaken
  · rename_i hnew
    rw [fieldFault?_eq_some_iff]
    constructor
    · intro h
      cases h with
      | repeated taken => exact absurd taken hnew
      | broken _ breaks => exact breaks
    · exact .broken hnew

theorem fieldsFault?_cons : fieldsFault? seen (f :: after) =
    (if f.name ∈ seen then some (.duplicateField f.name) else fieldFault? f).or
      (fieldsFault? (f.name :: seen) after) := by
  rw [fieldsFault?]
  split <;> simp

/-- Fields are refused for the first of them that has a violation. -/
theorem fieldsFault?_eq_some_iff : fieldsFault? seen fields = some fault ↔
    ∃ before f after, fields = before ++ f :: after ∧ fieldsFault? seen before = none ∧
      FaultAfter ((before.map (·.name)).reverse ++ seen) f fault := by
  -- the names seen so far grow by one with every field that is passed
  induction fields generalizing seen with
  | nil => simp [fieldsFault?]
  | cons g rest ih =>
    rw [fieldsFault?_cons, Option.or_eq_some_iff, ih, ← faultAfter_iff]
    constructor
    · rintro (hhere | ⟨hpassed, before, f, after, rfl, hbefore, hfault⟩)
      · exact ⟨[], g, rest, rfl, rfl, hhere⟩
      · refine ⟨g :: before, f, after, rfl, ?_, ?_⟩
        · rw [fieldsFault?_cons, hpassed, hbefore]
          rfl
        · simpa using hfault
    · rintro ⟨before, f, after, hparts, hbefore, hfault⟩
      cases before with
      | nil =>
        obtain ⟨rfl, rfl⟩ := List.cons.inj hparts
        exact .inl hfault
      | cons g' before =>
        obtain ⟨rfl, rfl⟩ := List.cons.inj hparts
        rw [fieldsFault?_cons, Option.or_eq_none_iff] at hbefore
        exact .inr ⟨hbefore.1, before, f, after, rfl, hbefore.2, by simpa using hfault⟩

theorem areSound_iff : AreSound fields ↔ fieldsFault? [] fields = none := by
  rw [fieldsFault?_eq_none_iff]
  constructor
  · rintro ⟨hdistinct, hallowed⟩
    exact ⟨hdistinct, fun _ _ => List.not_mem_nil, hallowed⟩
  · rintro ⟨hdistinct, -, hallowed⟩
    exact ⟨hdistinct, hallowed⟩

/-! ## Layouts -/

theorem timeFault?_eq_some_iff : timeFault? declared time = some fault ↔
    time.source = .device ∧
      ((time.field = none ∨ time.format = none) ∧ fault = .missingTimeField ∨
        ∃ name, time.field = some name ∧ time.format ≠ none ∧ name ∉ declared ∧
          fault = .unknownTimeField name) := by
  obtain ⟨source, field, format⟩ := time
  cases source with
  | network => simp [timeFault?]
  | device => cases field <;> cases format <;> simp [timeFault?, eq_comm]

/-- A layout is refused for its first violation. -/
theorem validate_eq_error_iff : l.validate = .error fault ↔ l.FirstFault fault := by
  have hsome : l.validate = .error fault ↔
      (fieldsFault? [] l.fields).or (timeFault? (l.fields.map (·.name)) l.time) = some fault := by
    unfold validate
    split
    · rename_i found hfound
      simp [hfound]
    · rename_i hnone
      simp [hnone]
  rw [hsome, Option.or_eq_some_iff, fieldsFault?_eq_some_iff, ← areSound_iff,
    timeFault?_eq_some_iff]
  constructor
  · rintro (⟨before, f, after, hparts, hbefore, hfault⟩ |
      ⟨hsound, hdevice, ⟨hmissing, rfl⟩ | ⟨name, hfield, hformat, hnew, rfl⟩⟩)
    · exact .field hparts (areSound_iff.mpr hbefore) (by simpa [faultAfter_iff] using hfault)
    · exact .missingTimeField hsound hdevice hmissing
    · exact .unknownTimeField hsound hdevice hfield hformat fun f hf hname =>
        hnew (hname ▸ List.mem_map_of_mem hf)
  · intro h
    cases h with
    | field parts earlier here =>
      exact .inl ⟨_, _, _, parts, areSound_iff.mp earlier, by simpa [faultAfter_iff] using here⟩
    | missingTimeField sound device missing => exact .inr ⟨sound, device, .inl ⟨missing, rfl⟩⟩
    | unknownTimeField sound device field format undeclared =>
      exact .inr ⟨sound, device, .inr ⟨_, field, format, by simpa using undeclared, rfl⟩⟩

/-- A layout that is valid stays so with its fields in another order. -/
theorem IsValid.of_perm {l' : Layout} (h : l.IsValid) (hfields : l'.fields.Perm l.fields)
    (htime : l'.time = l.time) : l'.IsValid where
  distinct := (hfields.map _).nodup_iff.mpr h.distinct
  allowed := fun f hf => h.allowed f (hfields.mem_iff.mp hf)
  timed := by
    intro hdevice
    rw [htime] at hdevice
    obtain ⟨name, format, hfield, hformat, hname⟩ := h.timed hdevice
    exact ⟨name, format, htime ▸ hfield, htime ▸ hformat, (hfields.map _).mem_iff.mpr hname⟩

/-- **The check is exact.**  The valid layouts pass, and any other is refused for its first
violation; whether a layout passes does not depend on the order of its fields. -/
theorem validate_exact (l : Layout) :
    (l.validate = .ok () ↔ l.IsValid) ∧
      (∀ fault, l.validate = .error fault ↔ l.FirstFault fault) ∧
        ∀ l' : Layout, l'.fields.Perm l.fields → l'.time = l.time →
          (l'.validate = .ok () ↔ l.validate = .ok ()) := by
  refine ⟨validate_eq_ok_iff, fun _ => validate_eq_error_iff, fun l' hfields htime => ?_⟩
  rw [validate_eq_ok_iff, validate_eq_ok_iff]
  exact ⟨fun h => h.of_perm hfields.symm htime.symm, fun h => h.of_perm hfields htime⟩

/-- A layout that takes the time from the field `t`. -/
def timedLayout (fields : List Field) : Layout where
  kind := ""
  version := ""
  fields := fields
  time := ⟨.device, some "t", some .epochSeconds⟩
  measurement := "soil"

/-- Two fields are valid in both orders.  With a third one, which repeats a name and has a type that
is not known, the violation is the name, the length of a field before it, or the type if it comes
first. -/
theorem validate_exact_timed :
    (timedLayout [⟨"t", .int, 0, 4⟩, ⟨"h", .float, 4, 8⟩]).IsValid ∧
    (timedLayout [⟨"h", .float, 4, 8⟩, ⟨"t", .int, 0, 4⟩]).fields.Perm
      (timedLayout [⟨"t", .int, 0, 4⟩, ⟨"h", .float, 4, 8⟩]).fields ∧
    (timedLayout [⟨"h", .float, 4, 8⟩, ⟨"t", .int, 0, 4⟩]).validate = .ok () ∧
    (timedLayout [⟨"t", .int, 0, 4⟩, ⟨"t", .unknown "half", 8, 2⟩]).FirstFault
      (.duplicateField "t") ∧
    (timedLayout [⟨"t", .int, 0, 4⟩, ⟨"h", .float, 4, 16⟩, ⟨"t", .unknown "half", 8, 2⟩]).FirstFault
      (.floatLength "h" 16) ∧
    (timedLayout [⟨"t", .unknown "half", 8, 2⟩, ⟨"h", .float, 4, 16⟩, ⟨"t", .int, 0, 4⟩]).FirstFault
      (.unknownType "t" "half") := by
  have hperm : (timedLayout [⟨"h", .float, 4, 8⟩, ⟨"t", .int, 0, 4⟩]).fields.Perm
      (timedLayout [⟨"t", .int, 0, 4⟩, ⟨"h", .float, 4, 8⟩]).fields := .swap ..
  exact ⟨(validate_exact _).1.mp rfl, hperm, ((validate_exact _).2.2 _ hperm rfl).mpr rfl,
    ((validate_exact _).2.1 _).mp rfl, ((validate_exact _).2.1 _).mp rfl,
    ((validate_exact _).2.1 _).mp rfl⟩

end Layout

end UplinkFlow
