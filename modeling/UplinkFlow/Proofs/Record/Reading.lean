import UplinkFlow.Proofs.Json.Members
import UplinkFlow.Record.Basic

/-!
# What comes of reading a payload

* `Field.isBeyond` — a field that is not skipped reaches beyond the end of the payload.
* `readFields_eq_error_iff` — **the first such field is reported, and that is the only fault of
  reading.**
* `readFields_isSome_iff` — the values read stand under the names of the fields that are not skipped.
* `readFields_member?` — under distinct names, each field that is read keeps its value.
* `addTime_eq_error`, `addTime_isSome` — what is missing when there is no time, and what a record
  has when there is one.
-/

set_option autoImplicit false

namespace UplinkFlow

variable {f : Field} {payload : Payload} {fields : List Field} {values values' : Members}
  {fault : DecodeFault} {key : String} {value : Json}

/-! ## One field -/

namespace Field

/-- Whether a field that is not skipped reaches beyond the end of the payload. -/
def isBeyond (f : Field) (payload : Payload) : Bool :=
  f.width?.any fun width => decide (payload.length < offsetAfter f.offset.toNat width)

/-- Where a field lies, next to the size of the payload. -/
def placeIn (f : Field) (payload : Payload) : OutOfBounds :=
  ⟨f.name, f.offset.toNat, offsetAfter f.offset.toNat (f.width?.getD 0), payload.length⟩

theorem read_eq_error_iff {place : OutOfBounds} :
    f.read payload = .error place ↔ f.isBeyond payload = true ∧ place = f.placeIn payload := by
  unfold read isBeyond placeIn window?
  cases f.width? with
  | none => simp
  | some width =>
    simp only [Option.any_some, Option.getD_some, decide_eq_true_eq]
    split
    · rename_i bytes hbytes
      rw [Option.ite_none_right_eq_some] at hbytes
      exact ⟨nofun, fun h => absurd h.1 (Nat.not_lt.mpr hbytes.1)⟩
    · rename_i hbytes
      rw [ite_eq_right_iff] at hbytes
      constructor
      · intro h
        refine ⟨Nat.lt_of_not_le fun hle => ?_, (Except.error.inj h).symm⟩
        cases hbytes hle
      · rintro ⟨-, rfl⟩
        rfl

theorem isBeyond_of_read_eq_ok {found : Option Json} (h : f.read payload = .ok found) :
    f.isBeyond payload = false := by
  cases hbeyond : f.isBeyond payload with
  | false => rfl
  | true =>
    have herror := read_eq_error_iff.mpr ⟨hbeyond, rfl⟩
    rw [h] at herror
    cases herror

/-- All bytes of a field that is not skipped lie in the payload. -/
def FitsIn (f : Field) (payload : Payload) : Prop :=
  ∀ width ∈ f.width?, f.offset.toNat + width ≤ payload.length

instance (f : Field) (payload : Payload) : Decidable (f.FitsIn payload) :=
  inferInstanceAs (Decidable (∀ width ∈ f.width?, f.offset.toNat + width ≤ payload.length))

theorem FitsIn.isBeyond (h : f.FitsIn payload) : f.isBeyond payload = false := by
  unfold Field.isBeyond
  cases hwidth : f.width? with
  | none => rfl
  | some width =>
    have hle := h width hwidth
    have hafter : offsetAfter f.offset.toNat width ≤ f.offset.toNat + width := Nat.min_le_left _ _
    simp only [Option.any_some, decide_eq_false_iff_not]
    omega

theorem FitsIn.exists_window (h : f.FitsIn payload) {width : Nat} (hwidth : f.width? = some width) :
    ∃ bytes, window? payload f.offset.toNat width = some bytes := by
  have hle := h width hwidth
  have hafter : offsetAfter f.offset.toNat width ≤ f.offset.toNat + width := Nat.min_le_left _ _
  exact ⟨_, if_pos (Nat.le_trans hafter hle)⟩

theorem read_of_window {width : Nat} {bytes : List UInt8} (hwidth : f.width? = some width)
    (hbytes : window? payload f.offset.toNat width = some bytes) :
    f.read payload = .ok (some (f.valueOf bytes)) := by
  simp only [read, hwidth, hbytes]

/-- Integers of this length are read. -/
def HasWordLength (f : Field) : Prop := (1 ≤ f.length ∧ f.length ≤ 6) ∨ f.length = 8

instance (f : Field) : Decidable f.HasWordLength := inferInstanceAs (Decidable (_ ∨ _))

theorem width?_of_integer (hkind : f.kind = .int ∨ f.kind = .uint) (h : f.HasWordLength) :
    f.width? = some f.length.toNat := by
  unfold width?
  rcases hkind with hkind | hkind
  · rw [hkind]
    exact if_pos h
  · rw [hkind]
    exact if_pos h

theorem isSome_of_read_eq_ok {found : Option Json} (h : f.read payload = .ok found) :
    found.isSome = f.width?.isSome := by
  unfold read at h
  split at h
  · rename_i hwidth
    cases h
    rw [hwidth]
    rfl
  · rename_i width hwidth
    split at h
    · cases h
      rw [hwidth]
      rfl
    · cases h

end Field

/-! ## All fields -/

/-- The first field beyond the end of the payload is reported, and nothing else. -/
theorem readFields_eq_error_iff : readFields payload fields values = .error fault ↔
    ∃ f, fields.find? (·.isBeyond payload) = some f ∧ fault = .outOfBounds (f.placeIn payload) := by
  induction fields generalizing values with
  | nil => simp [readFields]
  | cons f rest ih =>
    rw [readFields, List.find?_cons]
    split
    · rename_i place hread
      obtain ⟨hbeyond, rfl⟩ := Field.read_eq_error_iff.mp hread
      simp [hbeyond, eq_comm]
    · rename_i hread
      rw [Field.isBeyond_of_read_eq_ok hread]
      exact ih
    · rename_i value hread
      rw [Field.isBeyond_of_read_eq_ok hread]
      exact ih

/-- The values read stand under the names of the fields that are not skipped. -/
theorem readFields_isSome_iff (h : readFields payload fields values = .ok values') :
    (values'.member? key).isSome ↔
      (values.member? key).isSome ∨ ∃ f ∈ fields, f.name = key ∧ f.width?.isSome := by
  induction fields generalizing values with
  | nil =>
    cases h
    simp
  | cons f rest ih =>
    rw [readFields] at h
    split at h
    · cases h
    · rename_i hread
      have hskip := Field.isSome_of_read_eq_ok hread
      rw [ih h]
      simp [← hskip]
    · rename_i value hread
      have hvalue := Field.isSome_of_read_eq_ok hread
      rw [ih h, Members.member?_insert]
      by_cases hkey : key = f.name
      · simp [hkey, ← hvalue]
      · simp [hkey, Ne.symm hkey]

/-! ## Values under distinct names -/

theorem readFields_other (h : readFields payload fields values = .ok values')
    (hkey : ∀ f ∈ fields, f.name ≠ key) : values'.member? key = values.member? key := by
  induction fields generalizing values with
  | nil =>
    cases h
    rfl
  | cons f rest ih =>
    have hrest : ∀ g ∈ rest, g.name ≠ key := fun g hg => hkey g (List.mem_cons_of_mem f hg)
    rw [readFields] at h
    split at h
    · cases h
    · exact ih h hrest
    · rw [ih h hrest, Members.member?_insert, if_neg (hkey f List.mem_cons_self).symm]

/-- Under distinct names, each field that is read keeps its value. -/
theorem readFields_member? (h : readFields payload fields values = .ok values')
    (hnames : (fields.map (·.name)).Nodup) (hf : f ∈ fields)
    (hread : f.read payload = .ok (some value)) : values'.member? f.name = some value := by
  induction fields generalizing values with
  | nil => cases hf
  | cons g rest ih =>
    rw [List.map_cons, List.nodup_cons] at hnames
    rw [readFields] at h
    rcases List.mem_cons.mp hf with rfl | hf
    · -- the fields behind have other names, so the value stays
      have hothers : ∀ g ∈ rest, g.name ≠ f.name := fun g hg heq =>
        hnames.1 (List.mem_map.mpr ⟨g, hg, heq⟩)
      rw [hread] at h
      rw [readFields_other h hothers, Members.member?_insert, if_pos rfl]
    · split at h
      · cases h
      · exact ih h hnames.2 hf
      · exact ih h hnames.2 hf

theorem exists_readFields (hfits : ∀ f ∈ fields, f.isBeyond payload = false) :
    ∃ values', readFields payload fields values = .ok values' := by
  cases h : readFields payload fields values with
  | ok values' => exact ⟨values', rfl⟩
  | error fault =>
    obtain ⟨f, hfind, -⟩ := readFields_eq_error_iff.mp h
    have hbeyond : f.isBeyond payload = true := by simpa using List.find?_some hfind
    rw [hfits f (List.mem_of_find?_eq_some hfind)] at hbeyond
    cases hbeyond

/-! ## The time -/

variable {time : Timing} {received : Int64}

/-- The time is missing only if its field has not been read. -/
theorem addTime_eq_error (h : addTime time received values = .error fault) :
    ∃ field format, time = .device (some field) format ∧
      ((values.member? field = none ∧ fault = .missingTimeField field) ∨
        ∃ reason, fault = .invalidTimestamp field reason) := by
  unfold addTime at h
  split at h
  · cases h
  · cases h
  · rename_i field format
    refine ⟨field, format, rfl, ?_⟩
    split at h
    · rename_i hnone
      exact .inl ⟨hnone, (Except.error.inj h).symm⟩
    · split at h
      · cases h
      · rename_i reason _
        exact .inr ⟨reason, (Except.error.inj h).symm⟩

/-- A record has what has been read, and the time unless a device names no field for it. -/
theorem addTime_isSome (h : addTime time received values = .ok values') :
    ((values.member? key).isSome → (values'.member? key).isSome) ∧
      ((∀ format, time ≠ .device none format) → (values'.member? timeKey).isSome) := by
  have hstored : ∀ n : Int64, values' = values.insert timeKey (.num (Number.ofInt64 n)) →
      ((values.member? key).isSome → (values'.member? key).isSome) ∧
        (values'.member? timeKey).isSome := by
    rintro n rfl
    simp only [Members.member?_insert, if_true, Option.isSome_some, and_true]
    intro hkey
    split
    · rfl
    · exact hkey
  unfold addTime at h
  split at h
  · obtain ⟨hkept, htime⟩ := hstored received (Except.ok.inj h).symm
    exact ⟨hkept, fun _ => htime⟩
  · rename_i format
    cases h
    exact ⟨id, fun htimed => absurd rfl (htimed format)⟩
  · split at h
    · cases h
    · split at h
      · rename_i n _
        obtain ⟨hkept, htime⟩ := hstored n (Except.ok.inj h).symm
        exact ⟨hkept, fun _ => htime⟩
      · cases h

end UplinkFlow
