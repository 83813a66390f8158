import UplinkFlow.Proofs.Record.Outcome

/-!
# What decoding depends on

* `Field.Covers` — the positions of the bytes that a field takes.
* `Plan.AgreesOn` — two payloads of one length have the same bytes where the fields of a plan lie.
* `SameButTime` — two results differ in the time of a record at most.
* `Plan.decode_dependence` — **decoding depends on nothing but the declared bytes**, and on the time
  of receipt only where that is the time of the record.
-/

set_option autoImplicit false

namespace UplinkFlow

variable {f : Field} {fields : List Field} {payload payload' extra : Payload} {width : Nat}
  {values : Members}

/-! ## Fields -/

namespace Field

/-- The positions of the bytes that a field takes.  No payload reaches so far that the end of a field
would have to be cut off. -/
def Covers (f : Field) (i : Nat) : Prop :=
  ∃ width, f.Takes width ∧ f.offset.toNat ≤ i ∧ i < f.offset.toNat + width

/-- A field is read alike in payloads of one length that have the same bytes where it lies. -/
theorem read_congr (hlength : payload'.length = payload.length)
    (hbytes : ∀ i, f.Covers i → payload'[i]? = payload[i]?) :
    f.read payload' = f.read payload := by
  unfold read
  cases hwidth : f.width? with
  | none => rfl
  | some width =>
    have htakes := width?_eq_some_iff.mp hwidth
    have hwindow : (payload'.drop f.offset.toNat).take width =
        (payload.drop f.offset.toNat).take width := by
      apply List.ext_getElem?
      intro i
      rw [List.getElem?_take, List.getElem?_take, List.getElem?_drop, List.getElem?_drop]
      by_cases hi : i < width
      · rw [if_pos hi, if_pos hi]
        exact hbytes _ ⟨width, htakes, by omega, by omega⟩
      · rw [if_neg hi, if_neg hi]
    simp only [window?, hlength, hwindow]

theorem read_append (hfits : f.FitsIn payload) :
    f.read (payload ++ extra) = f.read payload := by
  unfold read
  cases hwidth : f.width? with
  | none => rfl
  | some width =>
    have hle : f.offset.toNat + width ≤ payload.length := hfits width hwidth
    have hafter : offsetAfter f.offset.toNat width ≤ f.offset.toNat + width := Nat.min_le_left _ _
    have hwindow : ((payload ++ extra).drop f.offset.toNat).take width =
        (payload.drop f.offset.toNat).take width := by
      rw [List.drop_append_of_le_length (by omega), List.take_append_of_le_length]
      rw [List.length_drop]
      omega
    simp only [window?, List.length_append, hwindow]
    rw [if_pos (by omega), if_pos (by omega)]

end Field

/-- Fields that are read alike give the same values and the same fault. -/
theorem readFields_congr (h : ∀ f ∈ fields, f.read payload' = f.read payload) :
    readFields payload' fields values = readFields payload fields values := by
  induction fields generalizing values with
  | nil => rfl
  | cons f fields ih =>
    obtain ⟨hf, hfields⟩ := List.forall_mem_cons.mp h
    rw [readFields, readFields, hf]
    split
    · rfl
    · exact ih hfields
    · exact ih hfields

/-! ## Decoding -/

/-- Two results that differ at most in the time: they are the same fault, or two records with the
same keys in order, the same tags, and the same values under all other keys. -/
inductive SameButTime : Except DecodeFault Record → Except DecodeFault Record → Prop where
  | fault (fault : DecodeFault) : SameButTime (.error fault) (.error fault)
  | record {r r' : Record} (keys : r'.fields.map Prod.fst = r.fields.map Prod.fst)
    (values : ∀ key ≠ timeKey, r'.fields.member? key = r.fields.member? key)
    (tags : r'.tags = r.tags) : SameButTime (.ok r) (.ok r')

namespace Plan

variable {plan : Plan} {received received' : Int64}

/-- Two payloads have one length and the same bytes where fields of the plan lie. -/
structure AgreesOn (plan : Plan) (payload payload' : Payload) : Prop where
  length : payload'.length = payload.length
  bytes : ∀ f ∈ plan.fields, ∀ i, f.Covers i → payload'[i]? = payload[i]?

theorem decode_congr (h : ∀ f ∈ plan.fields, f.read payload' = f.read payload) :
    plan.decode payload' received = plan.decode payload received := by
  rw [decode, decode, readFields_congr h]

/-- A time that does not come from the receipt does not depend on it. -/
theorem decode_of_device (h : plan.time ≠ .network) :
    plan.decode payload received' = plan.decode payload received := by
  have htime (values : Members) :
      addTime plan.time received' values = addTime plan.time received values := by
    cases htime : plan.time with
    | network => exact absurd htime h
    | device field format => cases field <;> rfl
  simp only [decode, htime]

theorem sameButTime_decode :
    SameButTime (plan.decode payload received) (plan.decode payload received') := by
  by_cases hnetwork : plan.time = .network
  · cases hread : readFields payload plan.fields [] with
    | error fault =>
      rw [decode_of_error hread, decode_of_error hread]
      exact .fault fault
    | ok values =>
      have hstored (n : Int64) : plan.decode payload n =
          .ok ⟨values.insert timeKey (.num (.ofInt64 n)), plan.tags⟩ := by
        rw [decode, hread, hnetwork]
        rfl
      rw [hstored, hstored]
      refine .record ?_ ?_ rfl
      · rw [Members.map_fst_insert, Members.map_fst_insert]
      · intro key hkey
        rw [Members.member?_insert, Members.member?_insert, if_neg hkey, if_neg hkey]
  · have hsame : plan.decode payload received' = plan.decode payload received :=
      decode_of_device hnetwork
    rw [hsame]
    cases plan.decode payload received with
    | error fault => exact .fault fault
    | ok r => exact .record rfl (fun _ _ => rfl) rfl

/-- **Decoding depends on nothing but the declared bytes.**  Payloads of one length that agree on
the bytes of the fields that are not skipped have the same result, faults included; bytes behind a
payload that has all these fields change nothing; and the time of receipt matters in no plan but one
that takes its time from the network, and there for nothing but the time of the record. -/
theorem decode_dependence (plan : Plan) (payload : Payload) (received : Int64) :
    (∀ payload', plan.AgreesOn payload payload' →
      plan.decode payload' received = plan.decode payload received) ∧
    (∀ extra, (∀ f ∈ plan.fields, f.FitsIn payload) →
      plan.decode (payload ++ extra) received = plan.decode payload received) ∧
    (plan.time ≠ .network → ∀ received',
      plan.decode payload received' = plan.decode payload received) ∧
    ∀ received', SameButTime (plan.decode payload received) (plan.decode payload received') := by
  refine ⟨?_, ?_, ?_, ?_⟩
  · intro payload' hagrees
    apply decode_congr
    intro f hf
    exact Field.read_congr hagrees.length (hagrees.bytes f hf)
  · intro extra hfits
    apply decode_congr
    intro f hf
    exact Field.read_append (hfits f hf)
  · intro hdevice received'
    exact decode_of_device hdevice
  · intro received'
    exact sameButTime_decode

/-- A plan of two overlapping fields and of one before them that is skipped. -/
def overlapping : Plan where
  fields := [⟨"skipped", .int, 0, 7⟩, ⟨"t", .uint, 1, 2⟩, ⟨"site", .asciiText, 2, 2⟩]
  time := .device (some "t") .epochSeconds
  tags := []

/-- The bytes at both ends do not matter, nor does the time of receipt. -/
theorem decode_dependence_overlapping :
    let payload : Payload := [0x00, 0x10, 0x41, 0x42, 0x00]
    overlapping.AgreesOn payload [0xff, 0x10, 0x41, 0x42, 0x07] ∧
      overlapping.decode [0xff, 0x10, 0x41, 0x42, 0x07] 0 = overlapping.decode payload 0 ∧
      overlapping.decode (payload ++ [0x09]) 0 = overlapping.decode payload 0 ∧
      overlapping.decode payload 1 = overlapping.decode payload 0 := by
  intro payload
  obtain ⟨hagreeing, hlonger, hlater, -⟩ := decode_dependence overlapping payload 0
  have hagrees : overlapping.AgreesOn payload [0xff, 0x10, 0x41, 0x42, 0x07] := by
    refine ⟨rfl, ?_⟩
    -- the fields that are read lie between the first byte and the last
    have hinner : ∀ f ∈ overlapping.fields, ∀ width ∈ f.width?,
        1 ≤ f.offset.toNat ∧ f.offset.toNat + width ≤ 4 := by decide
    intro f hf i hi
    obtain ⟨width, htakes, hlow, hhigh⟩ := hi
    obtain ⟨hfirst, hlast⟩ := hinner f hf width htakes.width?_eq
    obtain rfl | rfl | rfl : i = 1 ∨ i = 2 ∨ i = 3 := by omega
    · rfl
    · rfl
    · rfl
  refine ⟨hagrees, hagreeing _ hagrees, hlonger _ ?_, hlater ?_ 1⟩
  · decide
  · decide

end Plan

end UplinkFlow
