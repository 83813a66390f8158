import Mathlib.Data.List.Forall2
import UplinkFlow.Proofs.Script.Text

/-!
# Texts in a script are quoted

* `IsSlot`, `IsStore`, `IsTimeExpression`, `IsTag` — the forms of a script's lines, in which every
  text that the sensor and the layout bring in is a literal.
* `exists_tagging` — what the measurements of a sensor are tagged with.
* `Quotes`, `quotes_and_determines` — **the script of a sensor and a layout has these lines and no
  others, and a script determines the reads, the time and the tags of its plan.**
-/

set_option autoImplicit false

namespace UplinkFlow.Script

open Text (partsAt)

/-! ## Where texts stand in a script -/

/-- The place of a field, whose name is written as a literal. -/
def IsSlot (field : String) (cs : List Char) : Prop :=
  ∃ quoted, Json.IsLiteral quoted field ∧ cs = "fields[".toList ++ quoted ++ [']']

theorem isSlot_slotText (field : String) : IsSlot field (slotText field).toList :=
  ⟨_, Json.isLiteral_literal field, toList_slotText field⟩

/-- A line that stores an expression in the place of a field. -/
def IsStore (field : String) (expression line : List Char) : Prop :=
  ∃ slot, IsSlot field slot ∧ line = slot ++ " = ".toList ++ expression ++ [';']

theorem isStore_storeLine (field expression : String) :
    IsStore field expression.toList (storeLine field expression).toList :=
  ⟨_, isSlot_slotText field, toList_storeLine field expression⟩

/-- The expression of a time statement, where the name of the field is written as a literal. -/
inductive IsTimeExpression : TimeStep → List Char → Prop where
  | now : IsTimeExpression .now "new Date().getTime() * 1000000".toList
  | plain {field : String} {slot : List Char} (place : IsSlot field slot) :
    IsTimeExpression (.scaled field 1) slot
  | scaled {field : String} {factor : Nat} {slot : List Char} (place : IsSlot field slot)
    (proper : factor ≠ 1) :
    IsTimeExpression (.scaled field factor) (slot ++ " * ".toList ++ Text.digits factor)
  | calendar {field : String} {slot : List Char} (place : IsSlot field slot) :
    IsTimeExpression (.calendar field) ("Date.parse(".toList ++ slot ++ ") * 1000000".toList)

theorem isTimeExpression_timeExpression (step : TimeStep) :
    IsTimeExpression step (timeExpression step).toList := by
  cases step with
  | now => exact .now
  | scaled field factor =>
    rw [toList_scaled, factorText]
    split
    · rename_i hfactor
      subst hfactor
      rw [List.append_nil]
      exact .plain (isSlot_slotText field)
    · rename_i hfactor
      rw [← List.append_assoc]
      exact .scaled (isSlot_slotText field) hfactor
  | calendar field =>
    rw [toList_calendar, ← List.append_assoc]
    exact .calendar (isSlot_slotText field)

/-- A tag, whose key and value are written as literals. -/
def IsTag (tag : String × String) (cs : List Char) : Prop :=
  ∃ key value, Json.IsLiteral key tag.1 ∧ Json.IsLiteral value tag.2 ∧ cs = key ++ ':' :: value

def tagText (tag : String × String) : List Char := Json.literal tag.1 ++ ':' :: Json.literal tag.2

theorem isTag_tagText (tag : String × String) : IsTag tag (tagText tag) :=
  ⟨_, _, Json.isLiteral_literal tag.1, Json.isLiteral_literal tag.2, rfl⟩

/-- Tags with textual values as members. -/
def textMembers (tags : List (String × String)) : Members :=
  tags.map fun (key, value) => (key, .str value)

theorem intercalate_cons (part : List Char) (parts : List (List Char)) :
    [','].intercalate (part :: parts) = part ++ parts.flatMap (',' :: ·) := by
  induction parts generalizing part with
  | nil => simp
  | cons next parts ih => rw [List.intercalate_cons_cons, ih, List.flatMap_cons]; simp

theorem compactMembers_textMembers (tags : List (String × String)) :
    Json.compactMembers (textMembers tags) =
      (tags.map tagText).flatMap (',' :: ·) ++ ['\x7d'] := by
  induction tags with
  | nil => rfl
  | cons tag tags ih =>
    have hcons : Json.compactMembers (textMembers (tag :: tags)) =
        ',' :: (tagText tag ++ Json.compactMembers (textMembers tags)) := by
      simp [textMembers, Json.compactMembers, Json.compactChars, tagText]
    rw [hcons, ih]
    simp

theorem compactChars_textMembers (tags : List (String × String)) :
    (Json.obj (textMembers tags)).compactChars =
      '\x7b' :: ([','].intercalate (tags.map tagText) ++ ['\x7d']) := by
  cases tags with
  | nil => rfl
  | cons tag tags =>
    have hcons : (Json.obj (textMembers (tag :: tags))).compactChars =
        '\x7b' :: (tagText tag ++ Json.compactMembers (textMembers tags)) := by
      simp [textMembers, Json.compactChars, tagText]
    rw [hcons, compactMembers_textMembers, List.map_cons, intercalate_cons]
    simp

theorem toList_payload (tags : List (String × String)) :
    ("msg.payload = [fields, " ++ (Json.obj (textMembers tags)).compact ++ "];").toList =
      "msg.payload = [fields, \x7b".toList ++ [','].intercalate (tags.map tagText) ++
        "\x7d];".toList := by
  simp [Json.compact, compactChars_textMembers]

/-! ## The tags of a sensor -/

/-- What a sensor's measurements are tagged with: its own tags, except that its identifier and the
source of the time take the place of tags under their keys. -/
structure IsTagging (sensor : Sensor) (time : Timing) (tags : List (String × String)) : Prop where
  id : ("ID", sensor.id) ∈ tags
  source : ("measuretime", time.measureTime) ∈ tags
  own : ∀ tag ∈ sensor.tags, tag.1 ≠ "ID" → tag.1 ≠ "measuretime" → tag ∈ tags
  only : ∀ tag ∈ tags, tag ∈ sensor.tags ∨ tag = ("ID", sensor.id) ∨
    tag = ("measuretime", time.measureTime)

theorem exists_insert_textMembers (key value : String) (tags : List (String × String)) :
    ∃ tags', (textMembers tags).insert key (.str value) = textMembers tags' ∧
      (key, value) ∈ tags' ∧ (∀ tag ∈ tags, tag.1 ≠ key → tag ∈ tags') ∧
        ∀ tag ∈ tags', tag ∈ tags ∨ tag = (key, value) := by
  induction tags with
  | nil => exact ⟨[(key, value)], rfl, by simp, by simp, by simp⟩
  | cons tag tags ih =>
    obtain ⟨k, v⟩ := tag
    by_cases hk : k = key
    · subst hk
      refine ⟨(k, value) :: tags, by simp [textMembers, Members.insert], by simp, ?_, ?_⟩
      · rintro tag htag hne
        rcases List.mem_cons.mp htag with rfl | htag
        · exact absurd rfl hne
        · exact List.mem_cons_of_mem _ htag
      · rintro tag htag
        rcases List.mem_cons.mp htag with rfl | htag
        · exact .inr rfl
        · exact .inl (List.mem_cons_of_mem _ htag)
    · obtain ⟨tags', hinsert, hmem, hkept, honly⟩ := ih
      refine ⟨(k, v) :: tags', ?_, List.mem_cons_of_mem _ hmem, ?_, ?_⟩
      · have hcons : (textMembers ((k, v) :: tags)).insert key (.str value) =
            (k, .str v) :: (textMembers tags).insert key (.str value) := if_neg hk
        rw [hcons, hinsert]
        rfl
      · rintro tag htag hne
        rcases List.mem_cons.mp htag with rfl | htag
        · exact List.mem_cons_self
        · exact List.mem_cons_of_mem _ (hkept tag htag hne)
      · rintro tag htag
        rcases List.mem_cons.mp htag with rfl | htag
        · exact .inl List.mem_cons_self
        · exact (honly tag htag).imp_left (List.mem_cons_of_mem _)

/-- All values of a sensor's tags are texts. -/
theorem exists_tagging (sensor : Sensor) (time : Timing) :
    ∃ tags, tagsOf sensor time = textMembers tags ∧ IsTagging sensor time tags := by
  obtain ⟨tags, hid, hmem, hkept, honly⟩ :=
    exists_insert_textMembers "ID" sensor.id sensor.tags
  obtain ⟨tags', hsource, hmem', hkept', honly'⟩ :=
    exists_insert_textMembers "measuretime" time.measureTime tags
  refine ⟨tags', ?_, hkept' _ hmem (by simp), hmem', fun tag htag hne hne' => ?_,
    fun tag htag => ?_⟩
  · rw [← hsource, ← hid]
    rfl
  · exact hkept' tag (hkept tag htag hne) hne'
  · rcases honly' tag htag with htag | heq
    · exact (honly tag htag).imp_right .inl
    · exact .inr (.inr heq)

/-! ## The decoder of a sensor -/

/-- The lines of a decoder that depend on the sensor and the layout; a payload line is given by the
texts of its tags. -/
structure Pieces where
  reads : List (List Char)
  time : Option (List Char)
  tags : List (List Char)

/-- All lines behind the routine. -/
def Pieces.lines (p : Pieces) : List (List Char) :=
  [[], "var buf = msg.payload_raw;".toList, "var fields = \x7b\x7d;".toList] ++
    p.reads ++ p.time.toList ++
    ["msg.payload = [fields, \x7b".toList ++ [','].intercalate p.tags ++ "\x7d];".toList,
      "return msg;".toList]

/-- The pieces belong to a sensor and a layout, and hold their texts as literals. -/
structure Quotes (sensor : Sensor) (layout : Layout) (p : Pieces) : Prop where
  /-- There is a line for every field of the plan that can be read, in order. -/
  reads : List.Forall₂
    (fun f line => ∃ call, Call.of? f = some call ∧ IsStore f.name (callText call).toList line)
    ((Plan.of sensor layout).fields.filter fun f => (Call.of? f).isSome) p.reads
  time : Option.Rel
    (fun step line => ∃ e, IsTimeExpression step e ∧ IsStore timeKey e line)
    (TimeStep.of? layout.time.timing) p.time
  tags : ∃ tags, (Plan.of sensor layout).tags = textMembers tags ∧
    IsTagging sensor layout.time.timing tags ∧ List.Forall₂ IsTag tags p.tags

theorem forall₂_reads (fields : List Field) :
    List.Forall₂
      (fun f line => ∃ call, Call.of? f = some call ∧ IsStore f.name (callText call).toList line)
      (fields.filter fun f => (Call.of? f).isSome)
      ((fields.filterMap fun f => (Call.of? f).map fun call => (f.name, call)).map
        fun (field, call) => (storeLine field (callText call)).toList) := by
  induction fields with
  | nil => exact .nil
  | cons f fields ih =>
    cases hcall : Call.of? f with
    | none => simpa [hcall] using ih
    | some call =>
      have hread := isStore_storeLine f.name (callText call)
      simpa [hcall, hread] using ih

/-- The pieces of a script with textual tags. -/
def Pieces.of (s : Script) (tags : List (String × String)) : Pieces where
  reads := s.reads.map fun (field, call) => (storeLine field (callText call)).toList
  time := s.time.map fun step => (storeLine timeKey (timeExpression step)).toList
  tags := tags.map tagText

theorem Pieces.lines_of {s : Script} {tags : List (String × String)}
    (h : s.tags = textMembers tags) : (Pieces.of s tags).lines = s.lines.map String.toList := by
  have hreads : (Pieces.of s tags).reads =
      (s.reads.map fun (field, call) => storeLine field (callText call)).map String.toList := by
    rw [List.map_map]
    rfl
  have htime : (Pieces.of s tags).time.toList =
      (s.time.map fun step => storeLine timeKey (timeExpression step)).toList.map
        String.toList := by
    cases hs : s.time <;> simp [Pieces.of, hs]
  rw [Pieces.lines, hreads, htime, Script.lines, h]
  simp only [List.map_append, List.map_cons, List.map_nil, toList_payload]
  rfl

theorem exists_quotes (sensor : Sensor) (layout : Layout) : ∃ p : Pieces, Quotes sensor layout p ∧
    partsAt '\n' (decoderText sensor layout).toList =
      halfRoutine.map String.toList ++ p.lines ++ [[]] := by
  obtain ⟨tags, htags, htagging⟩ := exists_tagging sensor layout.time.timing
  refine ⟨Pieces.of (Script.of (Plan.of sensor layout)) tags,
    ⟨forall₂_reads _, ?_, tags, htags, htagging, ?_⟩, ?_⟩
  · show Option.Rel _ _ ((TimeStep.of? layout.time.timing).map _)
    cases TimeStep.of? layout.time.timing with
    | none => exact .none
    | some step =>
      exact .some ⟨_, isTimeExpression_timeExpression step, isStore_storeLine timeKey _⟩
  · exact List.forall₂_map_right_iff.mpr (List.forall₂_same.mpr fun tag _ => isTag_tagText tag)
  · rw [decoderText, scriptEmitter, partsAt_text, List.map_append, Pieces.lines_of htags]

/-- **The script of a sensor and a layout quotes their texts, and a script determines the reads, the
time and the tags of its plan.** -/
theorem quotes_and_determines :
    (∀ (sensor : Sensor) (layout : Layout), ∃ p : Pieces, Quotes sensor layout p ∧
      partsAt '\n' (decoderText sensor layout).toList =
        halfRoutine.map String.toList ++ p.lines ++ [[]]) ∧
    ∀ p q : Plan, scriptEmitter p = scriptEmitter q →
      (of p).readExpressions = (of q).readExpressions ∧ (of p).time = (of q).time ∧
        p.tags = q.tags :=
  ⟨exists_quotes, fun _ _ h => text_inj h⟩

/-- A plan whose identifier would end a statement if it were not quoted. -/
def samplePlan (fields : List Field) : Plan where
  fields := fields
  time := .device (some "at\n") .epochMillis
  tags := [("ID", .str "\"]; return [")]

/-- A field of seven bytes cannot be read, so two plans that differ by it have one script. -/
theorem quotes_and_determines_skippedField :
    scriptEmitter (samplePlan [⟨"odd", .int, 0, 7⟩]) = scriptEmitter (samplePlan []) ∧
      (of (samplePlan [⟨"odd", .int, 0, 7⟩])).readExpressions =
        (of (samplePlan [])).readExpressions ∧
      (of (samplePlan [⟨"odd", .int, 0, 7⟩])).time = (of (samplePlan [])).time ∧
      (samplePlan [⟨"odd", .int, 0, 7⟩]).tags = (samplePlan []).tags :=
  have hscript : scriptEmitter (samplePlan [⟨"odd", .int, 0, 7⟩]) = scriptEmitter (samplePlan []) :=
    congrArg text rfl
  ⟨hscript, quotes_and_determines.2 _ _ hscript⟩

end UplinkFlow.Script
