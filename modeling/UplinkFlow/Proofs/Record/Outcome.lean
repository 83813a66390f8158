import UplinkFlow.Proofs.Json.Update
import UplinkFlow.Proofs.Record.Reading

/-!
# What comes of decoding

* `Field.Takes` — how many bytes a field takes; a field that takes none is skipped.
* `ReadsAs` — the names and the values of the fields that are not skipped, in order, all of which lie
  in the payload.
* `Plan.Yields` — the six ways in which decoding can end.
* `Plan.decode_eq_iff` — **decoding ends in one of these ways, and which one is settled by the plan,
  the payload and the time of receipt.**
-/

set_option autoImplicit false

namespace UplinkFlow

variable {f : Field} {fields before after : List Field} {payload : Payload} {width : Nat}
  {found values : Members}

/-! ## The bytes of a field -/

namespace Field

/-- How many bytes a field takes: as many as it declares for a text and for an integer of a length
that is read, and two, four or eight for a floating-point number. -/
inductive Takes (f : Field) : Nat → Prop where
  | integer (kind : f.kind = .int ∨ f.kind = .uint) (length : f.HasWordLength) :
    f.Takes f.length.toNat
  | half (kind : f.kind = .float) (length : f.length = 2) : f.Takes 2
  | single (kind : f.kind = .float) (length : f.length = 4) : f.Takes 4
  | double (kind : f.kind = .float) (half : f.length ≠ 2) (single : f.length ≠ 4) : f.Takes 8
  | text (kind : f.kind = .asciiText ∨ f.kind = .unicodeText) : f.Takes f.length.toNat

theorem Takes.width?_eq (h : f.Takes width) : f.width? = some width := by
  cases h with
  | integer kind length => exact width?_of_integer kind length
  | half kind length => simp [width?, kind, length]
  | single kind length => simp [width?, kind, length]
  | double kind half single => simp [width?, kind, half, single]
  | text kind => rcases kind with kind | kind <;> simp [width?, kind]

theorem width?_eq_some_iff : f.width? = some width ↔ f.Takes width := by
  constructor
  · intro h
    unfold width? at h
    split at h
    · rename_i kind
      split at h
      · rename_i length
        cases h
        exact .integer (.inl kind) length
      · cases h
    · rename_i kind
      split at h
      · rename_i length
        cases h
        exact .integer (.inr kind) length
      · cases h
    · rename_i kind
      cases h
      by_cases half : f.length = 2
      · rw [if_pos half]
        exact .half kind half
      · rw [if_neg half]
        by_cases single : f.length = 4
        · rw [if_pos single]
          exact .single kind single
        · rw [if_neg single]
          exact .double kind half single
    · rename_i kind
      cases h
      exact .text (.inl kind)
    · rename_i kind
      cases h
      exact .text (.inr kind)
    · cases h
  · exact Takes.width?_eq

theorem width?_eq_none_iff : f.width? = none ↔ ∀ width, ¬ f.Takes width := by
  rw [Option.eq_none_iff_forall_ne_some]
  exact forall_congr' fun width => not_congr width?_eq_some_iff

theorem isBeyond_iff_takes : f.isBeyond payload = true ↔
    ∃ width, f.Takes width ∧ payload.length < offsetAfter f.offset.toNat width := by
  unfold isBeyond
  rw [Option.any_eq_true]
  simp only [width?_eq_some_iff, decide_eq_true_eq]

theorem isBeyond_eq_false_iff : f.isBeyond payload = false ↔
    ∀ width, f.Takes width → offsetAfter f.offset.toNat width ≤ payload.length := by
  rw [← Bool.not_eq_true, isBeyond_iff_takes]
  constructor
  · intro h width htakes
    exact Nat.le_of_not_lt fun hlt => h ⟨width, htakes, hlt⟩
  · rintro h ⟨width, htakes, hlt⟩
    exact Nat.not_le.mpr hlt (h width htakes)

theorem Takes.read_eq (h : f.Takes width)
    (hfits : offsetAfter f.offset.toNat width ≤ payload.length) :
    f.read payload = .ok (some (f.valueOf ((payload.drop f.offset.toNat).take width))) :=
  read_of_window h.width?_eq (if_pos hfits)

theorem read_of_skipped (h : ∀ width, ¬ f.Takes width) : f.read payload = .ok none := by
  simp only [read, width?_eq_none_iff.mpr h]

end Field

/-! ## The fields of a plan -/

/-- The names and the values of fields in a payload, in order; fields that take no bytes are
skipped, and all others lie in the payload. -/
inductive ReadsAs (payload : Payload) : List Field → Members → Prop where
  | nil : ReadsAs payload [] []
  | skip {f : Field} {fields : List Field} {found : Members}
    (skipped : ∀ width, ¬ f.Takes width) (rest : ReadsAs payload fields found) :
    ReadsAs payload (f :: fields) found
  | read {f : Field} {fields : List Field} {found : Members} {width : Nat} (takes : f.Takes width)
    (fits : offsetAfter f.offset.toNat width ≤ payload.length)
    (rest : ReadsAs payload fields found) :
    ReadsAs payload (f :: fields)
      ((f.name, f.valueOf ((payload.drop f.offset.toNat).take width)) :: found)

theorem ReadsAs.readFields_eq (h : ReadsAs payload fields found) :
    readFields payload fields values = .ok (values.storeAll found) := by
  induction h generalizing values with
  | nil => rfl
  | skip skipped rest ih => rw [readFields, Field.read_of_skipped skipped, ih]
  | read takes fits rest ih =>
    rw [readFields, takes.read_eq fits, Members.storeAll_cons]
    exact ih

theorem exists_readsAs (h : ∀ f ∈ fields, f.isBeyond payload = false) :
    ∃ found, ReadsAs payload fields found := by
  induction fields with
  | nil => exact ⟨[], .nil⟩
  | cons f fields ih =>
    obtain ⟨found, hfound⟩ := ih fun g hg => h g (List.mem_cons_of_mem f hg)
    have hfits := Field.isBeyond_eq_false_iff.mp (h f List.mem_cons_self)
    cases hwidth : f.width? with
    | none => exact ⟨found, .skip (Field.width?_eq_none_iff.mp hwidth) hfound⟩
    | some width =>
      have htakes := Field.width?_eq_some_iff.mp hwidth
      exact ⟨_, .read htakes (hfits width htakes) hfound⟩

theorem readFields_beyond
    (hbefore : ∀ g ∈ before, ∀ w, g.Takes w → offsetAfter g.offset.toNat w ≤ payload.length)
    (htakes : f.Takes width) (hbeyond : payload.length < offsetAfter f.offset.toNat width) :
    readFields payload (before ++ f :: after) values = .error (.outOfBounds
      ⟨f.name, f.offset.toNat, offsetAfter f.offset.toNat width, payload.length⟩) := by
  refine readFields_eq_error_iff.mpr ⟨f, ?_, ?_⟩
  · refine List.find?_eq_some_iff_append.mpr ⟨?_, before, after, rfl, ?_⟩
    · exact Field.isBeyond_iff_takes.mpr ⟨width, htakes, hbeyond⟩
    · intro g hg
      rw [Field.isBeyond_eq_false_iff.mpr (hbefore g hg)]
      rfl
  · rw [Field.placeIn, htakes.width?_eq, Option.getD_some]

/-! ## Decoding -/

namespace Plan

variable {plan : Plan} {received : Int64} {outcome : Except DecodeFault Record}

/-- The ways in which decoding can end.  In all but the first one the fields that are not skipped lie
in the payload, and `values` has the distinct names in the order in which they first come, each with
the value of the last field of that name.

* `beyond` — a field that is not skipped reaches beyond the end of the payload, and no field before
  it does: that field is reported;
* `network` — the time is that of the receipt: it is stored in the place of a field that is called
  so, or at the end;
* `untimed` — a device that names no field has no time;
* `missing` — no field of the time's name has been read;
* `timed` — that field holds a time, which is stored;
* `refused` — that field holds none, for a reason. -/
inductive Yields (plan : Plan) (payload : Payload) (received : Int64) :
    Except DecodeFault Record → Prop where
  | beyond {before after : List Field} {f : Field} {width : Nat}
    (order : plan.fields = before ++ f :: after)
    (fit : ∀ g ∈ before, ∀ w, g.Takes w → offsetAfter g.offset.toNat w ≤ payload.length)
    (takes : f.Takes width) (reaches : payload.length < offsetAfter f.offset.toNat width) :
    Yields plan payload received (.error (.outOfBounds
      ⟨f.name, f.offset.toNat, offsetAfter f.offset.toNat width, payload.length⟩))
  | network {found values stored : Members} (time : plan.time = .network)
    (reads : ReadsAs payload plan.fields found) (merges : Members.IsUpdated [] found values)
    (stores : values.IsUpdated [(timeKey, .num (.ofInt64 received))] stored) :
    Yields plan payload received (.ok ⟨stored, plan.tags⟩)
  | untimed {found values : Members} {format : TimestampFormat}
    (time : plan.time = .device none format) (reads : ReadsAs payload plan.fields found)
    (merges : Members.IsUpdated [] found values) :
    Yields plan payload received (.ok ⟨values, plan.tags⟩)
  | missing {found values : Members} {name : String} {format : TimestampFormat}
    (time : plan.time = .device (some name) format) (reads : ReadsAs payload plan.fields found)
    (merges : Members.IsUpdated [] found values) (absent : name ∉ values.map Prod.fst) :
    Yields plan payload received (.error (.missingTimeField name))
  | timed {found values stored : Members} {name : String} {format : TimestampFormat} {value : Json}
    {n : Int64} (time : plan.time = .device (some name) format)
    (reads : ReadsAs payload plan.fields found) (merges : Members.IsUpdated [] found values)
    (present : values.member? name = some value) (holds : timestamp value format = .ok n)
    (stores : values.IsUpdated [(timeKey, .num (.ofInt64 n))] stored) :
    Yields plan payload received (.ok ⟨stored, plan.tags⟩)
  | refused {found values : Members} {name : String} {format : TimestampFormat} {value : Json}
    {reason : TimestampFault} (time : plan.time = .device (some name) format)
    (reads : ReadsAs payload plan.fields found) (merges : Members.IsUpdated [] found values)
    (present : values.member? name = some value)
    (holds : timestamp value format = .error reason) :
    Yields plan payload received (.error (.invalidTimestamp name reason))

theorem decode_of_error {fault : DecodeFault}
    (h : readFields payload plan.fields [] = .error fault) :
    plan.decode payload received = .error fault := by
  rw [decode, h]
  rfl

theorem decode_of_readsAs (h : ReadsAs payload plan.fields found) :
    plan.decode payload received =
      (addTime plan.time received (Members.storeAll [] found)).map (⟨·, plan.tags⟩) := by
  rw [decode, h.readFields_eq]
  show (do let fields ← addTime plan.time received (Members.storeAll [] found)
           pure (Record.mk fields plan.tags)) = _
  cases addTime plan.time received (Members.storeAll [] found) <;> rfl

theorem yields_decode (plan : Plan) (payload : Payload) (received : Int64) :
    plan.Yields payload received (plan.decode payload received) := by
  cases hfind : plan.fields.find? (·.isBeyond payload) with
  | some f =>
    obtain ⟨hbeyond, before, after, horder, hbefore⟩ := List.find?_eq_some_iff_append.mp hfind
    obtain ⟨width, htakes, hreaches⟩ := Field.isBeyond_iff_takes.mp hbeyond
    have hfit : ∀ g ∈ before, ∀ w, g.Takes w →
        offsetAfter g.offset.toNat w ≤ payload.length := by
      intro g hg
      exact Field.isBeyond_eq_false_iff.mp (by simpa using hbefore g hg)
    rw [decode_of_error (horder ▸ readFields_beyond hfit htakes hreaches)]
    exact .beyond horder hfit htakes hreaches
  | none =>
    obtain ⟨found, hreads⟩ : ∃ found, ReadsAs payload plan.fields found := by
      apply exists_readsAs
      intro g hg
      simpa using List.find?_eq_none.mp hfind g hg
    have hmerges := Members.isUpdated_storeAll [] found
    rw [decode_of_readsAs hreads]
    cases htime : plan.time with
    | network => exact .network htime hreads hmerges (Members.isUpdated_storeAll _ _)
    | device field format =>
      cases field with
      | none => exact .untimed htime hreads hmerges
      | some name =>
        cases hpresent : (Members.storeAll [] found).member? name with
        | none =>
          simp only [addTime, hpresent]
          exact .missing htime hreads hmerges (Members.member?_eq_none_iff.mp hpresent)
        | some value =>
          cases hholds : timestamp value format with
          | error reason =>
            simp only [addTime, hpresent, hholds]
            exact .refused htime hreads hmerges hpresent hholds
          | ok n =>
            simp only [addTime, hpresent, hholds]
            exact .timed htime hreads hmerges hpresent hholds (Members.isUpdated_storeAll _ _)

theorem Yields.decode_eq (h : plan.Yields payload received outcome) :
    plan.decode payload received = outcome := by
  have hempty : Members.HasDistinctKeys [] := List.nodup_nil
  cases h with
  | beyond order fit takes reaches =>
    exact decode_of_error (order ▸ readFields_beyond fit takes reaches)
  | network time reads merges stores =>
    obtain rfl := (Members.isUpdated_iff hempty).mp merges
    obtain rfl := (Members.isUpdated_iff (hempty.storeAll _)).mp stores
    rw [decode_of_readsAs reads, time]
    rfl
  | untimed time reads merges =>
    obtain rfl := (Members.isUpdated_iff hempty).mp merges
    rw [decode_of_readsAs reads, time]
    rfl
  | missing time reads merges absent =>
    obtain rfl := (Members.isUpdated_iff hempty).mp merges
    rw [decode_of_readsAs reads, time]
    simp only [addTime, Members.member?_eq_none_iff.mpr absent]
    rfl
  | timed time reads merges present holds stores =>
    obtain rfl := (Members.isUpdated_iff hempty).mp merges
    obtain rfl := (Members.isUpdated_iff (hempty.storeAll _)).mp stores
    rw [decode_of_readsAs reads, time]
    simp only [addTime, present, holds]
    rfl
  | refused time reads merges present holds =>
    obtain rfl := (Members.isUpdated_iff hempty).mp merges
    rw [decode_of_readsAs reads, time]
    simp only [addTime, present, holds]
    rfl

/-- **Decoding ends in exactly one way**, for every plan, every payload and every time of receipt:
the first field beyond the end of the payload is reported before anything else; then the values
stand under the distinct names, and the time is added, or reported as missing or as none. -/
theorem decode_eq_iff (plan : Plan) (payload : Payload) (received : Int64)
    (outcome : Except DecodeFault Record) :
    plan.decode payload received = outcome ↔ plan.Yields payload received outcome := by
  constructor
  · rintro rfl
    exact plan.yields_decode payload received
  · exact Yields.decode_eq

end Plan

end UplinkFlow
