import Mathlib.Data.List.Basic
import UplinkFlow.Proofs.Json.Compact
import UplinkFlow.Script.Printer
import UplinkFlow.Text.Parts

/-!
# The text of a script and what it is made of

* `partsAt_text` — the text of a script is divided into its lines at line ends: no name, tag or
  identifier adds one.
* `storeLine_inj`, `timeExpression_inj`, `payload_inj` — what a line is determined by.
* `text_inj` — **a text determines the reads, the time and the tags of its script.**
-/

set_option autoImplicit false

namespace UplinkFlow

/-! ## Lines of a text -/

namespace Text

theorem partsAt_append {mark : Char} {part : List Char} (h : mark ∉ part) (rest : List Char) :
    partsAt mark (part ++ mark :: rest) = part :: partsAt mark rest := by
  induction part with
  | nil => simp [partsAt]
  | cons c part ih =>
    rw [List.mem_cons, not_or] at h
    rw [List.cons_append, partsAt, if_neg (Ne.symm h.1), ih h.2]

theorem partsAt_flatMap {mark : Char} {parts : List (List Char)} (h : ∀ part ∈ parts, mark ∉ part) :
    partsAt mark (parts.flatMap (· ++ [mark])) = parts ++ [[]] := by
  induction parts with
  | nil => rfl
  | cons part parts ih =>
    rw [List.forall_mem_cons] at h
    rw [List.flatMap_cons, List.append_assoc, List.singleton_append, partsAt_append h.1, ih h.2,
      List.cons_append]

theorem Printable.newline_not_mem {cs : List Char} (h : Printable cs) : '\n' ∉ cs := by
  intro hmem
  have := h _ hmem
  simp at this

theorem printable_decimal (n : Nat) : Printable (decimal n).toList := by
  rw [decimal, String.toList_ofList]
  intro c hc
  have := Binary64.digit_bounds (isDigit_digits hc)
  omega

end Text

namespace Script

open Text (Printable printable_append_iff printable_decimal partsAt)

/-! ## Parts of a line -/

theorem toList_slotText (field : String) :
    (slotText field).toList = "fields[".toList ++ Json.literal field ++ [']'] := by
  simp [slotText]

theorem toList_storeLine (field expression : String) : (storeLine field expression).toList =
    (slotText field).toList ++ " = ".toList ++ expression.toList ++ [';'] := by
  simp [storeLine]

theorem printable_slotText (field : String) : Printable (slotText field).toList := by
  rw [toList_slotText, printable_append_iff, printable_append_iff]
  exact ⟨⟨by decide, Json.printable_literal field⟩, by decide⟩

theorem printable_storeLine {field expression : String} (h : Printable expression.toList) :
    Printable (storeLine field expression).toList := by
  rw [toList_storeLine, printable_append_iff, printable_append_iff, printable_append_iff]
  exact ⟨⟨⟨printable_slotText field, by decide⟩, h⟩, by decide⟩

theorem printable_arguments (ns : List Nat) : Printable (arguments ns).toList := by
  have hlist : Printable (", ".toList.intercalate ((ns.map Text.decimal).map String.toList)) := by
    induction ns with
    | nil => decide
    | cons n ns ih =>
      cases ns with
      | nil => simpa using printable_decimal n
      | cons m ns =>
        simp only [List.map_cons, List.intercalate_cons_cons, printable_append_iff] at ih ⊢
        exact ⟨⟨printable_decimal n, by decide⟩, ih⟩
  simp only [arguments, String.toList_append, String.toList_intercalate, printable_append_iff]
  exact ⟨⟨by decide, hlist⟩, by decide⟩

theorem printable_integerName (signed : Bool) : Printable (integerName signed).toList := by
  cases signed <;> decide

theorem printable_encodingName (encoding : Encoding) :
    Printable (encodingName encoding).toList := by
  cases encoding <;> decide

theorem printable_callText (call : Call) : Printable (callText call).toList := by
  cases call with
  | byte signed offset =>
    show Printable ("buf.read" ++ integerName signed ++ "8" ++ arguments [offset]).toList
    simp only [String.toList_append, printable_append_iff]
    exact ⟨⟨⟨by decide, printable_integerName signed⟩, by decide⟩, printable_arguments _⟩
  | fixed signed bytes offset =>
    show Printable ("buf.read" ++ integerName signed ++ Text.decimal (8 * bytes) ++ "LE" ++
      arguments [offset]).toList
    simp only [String.toList_append, printable_append_iff]
    exact ⟨⟨⟨⟨by decide, printable_integerName signed⟩, printable_decimal _⟩, by decide⟩,
      printable_arguments _⟩
  | wide signed offset =>
    show Printable ("Number(buf.readBig" ++ integerName signed ++ "64LE" ++ arguments [offset] ++
      ")").toList
    simp only [String.toList_append, printable_append_iff]
    exact ⟨⟨⟨⟨by decide, printable_integerName signed⟩, by decide⟩, printable_arguments _⟩,
      by decide⟩
  | sized signed offset bytes =>
    show Printable ("buf.read" ++ integerName signed ++ "LE" ++ arguments [offset, bytes]).toList
    simp only [String.toList_append, printable_append_iff]
    exact ⟨⟨⟨by decide, printable_integerName signed⟩, by decide⟩, printable_arguments _⟩
  | half start stop =>
    show Printable ("halfToFloat(buf.slice" ++ arguments [start, stop] ++ ")").toList
    simp only [String.toList_append, printable_append_iff]
    exact ⟨⟨by decide, printable_arguments _⟩, by decide⟩
  | single offset =>
    show Printable ("buf.readFloatLE" ++ arguments [offset]).toList
    simp only [String.toList_append, printable_append_iff]
    exact ⟨by decide, printable_arguments _⟩
  | double offset =>
    show Printable ("buf.readDoubleLE" ++ arguments [offset]).toList
    simp only [String.toList_append, printable_append_iff]
    exact ⟨by decide, printable_arguments _⟩
  | text encoding start stop =>
    show Printable ("buf.toString(\"" ++ encodingName encoding ++ "\", " ++ Text.decimal start ++
      ", " ++ Text.decimal stop ++ ")").toList
    simp only [String.toList_append, printable_append_iff]
    exact ⟨⟨⟨⟨⟨⟨by decide, printable_encodingName encoding⟩, by decide⟩, printable_decimal _⟩,
      by decide⟩, printable_decimal _⟩, by decide⟩

theorem printable_timeExpression (step : TimeStep) : Printable (timeExpression step).toList := by
  cases step with
  | now => decide
  | scaled field factor =>
    rw [timeExpression]
    split
    · exact printable_slotText field
    · simp only [String.toList_append, printable_append_iff]
      exact ⟨⟨printable_slotText field, by decide⟩, printable_decimal factor⟩
  | calendar field =>
    rw [timeExpression]
    simp only [String.toList_append, printable_append_iff]
    exact ⟨⟨by decide, printable_slotText field⟩, by decide⟩

theorem printable_payload (tags : Members) :
    Printable ("msg.payload = [fields, " ++ (Json.obj tags).compact ++ "];").toList := by
  simp only [String.toList_append, printable_append_iff, Json.compact, String.toList_ofList]
  exact ⟨⟨by decide, Json.printable_compactChars _⟩, by decide⟩

/-- No line of a script has a control character. -/
theorem printable_lines (s : Script) :
    ∀ line ∈ halfRoutine ++ s.lines, Printable line.toList := by
  have hroutine : ∀ line ∈ halfRoutine, Printable line.toList := by decide +kernel
  have hstart : ∀ line ∈ ["", "var buf = msg.payload_raw;", "var fields = \x7b\x7d;"],
      Printable line.toList := by decide +kernel
  simp only [lines, List.forall_mem_append]
  refine ⟨hroutine, ⟨⟨hstart, ?_⟩, ?_⟩, ?_⟩
  · intro line hline
    obtain ⟨⟨field, call⟩, -, rfl⟩ := List.mem_map.mp hline
    exact printable_storeLine (printable_callText call)
  · intro line hline
    obtain ⟨step, -, rfl⟩ := Option.map_eq_some_iff.mp (Option.mem_toList.mp hline)
    exact printable_storeLine (printable_timeExpression step)
  · exact List.forall_mem_cons.mpr ⟨printable_payload s.tags,
      List.forall_mem_singleton.mpr (by decide)⟩

/-- The text of a script is divided into its lines. -/
theorem partsAt_text (s : Script) :
    partsAt '\n' s.text.toList = (halfRoutine ++ s.lines).map String.toList ++ [[]] := by
  have hlines : s.text.toList =
      ((halfRoutine ++ s.lines).map String.toList).flatMap (· ++ ['\n']) := by
    rw [text, String.toList_join, List.flatMap_map, List.flatMap_map]
    simp
  rw [hlines, Text.partsAt_flatMap]
  intro part hpart
  obtain ⟨line, hline, rfl⟩ := List.mem_map.mp hpart
  exact (s.printable_lines line hline).newline_not_mem

/-! ## What a line is determined by -/

theorem slotText_append_inj {field field' : String} {r r' : List Char}
    (h : (slotText field).toList ++ r = (slotText field').toList ++ r') :
    field = field' ∧ r = r' := by
  rw [toList_slotText, toList_slotText] at h
  simp only [List.append_assoc] at h
  obtain ⟨rfl, hrest⟩ := Json.literal_append_inj (List.append_cancel_left h)
  exact ⟨rfl, List.append_cancel_left hrest⟩

theorem storeLine_inj {field field' expression expression' : String}
    (h : storeLine field expression = storeLine field' expression') :
    field = field' ∧ expression = expression' := by
  have hchars := congrArg String.toList h
  rw [toList_storeLine, toList_storeLine] at hchars
  simp only [List.append_assoc] at hchars
  obtain ⟨rfl, hrest⟩ := slotText_append_inj hchars
  exact ⟨rfl, String.toList_inj.mp (List.append_cancel_right (List.append_cancel_left hrest))⟩

/-- The text of a factor, which one does not have. -/
def factorText (factor : Nat) : List Char :=
  if factor = 1 then [] else " * ".toList ++ Text.digits factor

theorem factorText_inj {n m : Nat} (h : factorText n = factorText m) : n = m := by
  unfold factorText at h
  split at h <;> split at h
  · rename_i hn hm
    rw [hn, hm]
  · simp at h
  · simp at h
  · exact Text.digits_inj (List.append_cancel_left h)

theorem toList_scaled (field : String) (factor : Nat) :
    (timeExpression (.scaled field factor)).toList =
      (slotText field).toList ++ factorText factor := by
  rw [timeExpression, factorText]
  split <;> simp [Text.decimal]

theorem toList_calendar (field : String) : (timeExpression (.calendar field)).toList =
    "Date.parse(".toList ++ ((slotText field).toList ++ ") * 1000000".toList) := by
  simp [timeExpression]

/-- The first character tells the three time statements from each other. -/
theorem head_timeExpression (step : TimeStep) : (timeExpression step).toList.head? =
    some (match step with | .now => 'n' | .scaled _ _ => 'f' | .calendar _ => 'D') := by
  cases step with
  | now => rfl
  | scaled field factor =>
    rw [toList_scaled, toList_slotText]
    rfl
  | calendar field =>
    rw [toList_calendar]
    rfl

theorem timeExpression_inj {step step' : TimeStep}
    (h : timeExpression step = timeExpression step') : step = step' := by
  have hhead := head_timeExpression step
  rw [h, head_timeExpression] at hhead
  have hchars := congrArg String.toList h
  cases step with
  | now => cases step' <;> simp at hhead ⊢
  | scaled field factor =>
    cases step' with
    | scaled field' factor' =>
      rw [toList_scaled, toList_scaled] at hchars
      obtain ⟨rfl, hfactor⟩ := slotText_append_inj hchars
      rw [factorText_inj hfactor]
    | _ => simp at hhead
  | calendar field =>
    cases step' with
    | calendar field' =>
      rw [toList_calendar, toList_calendar] at hchars
      obtain ⟨rfl, -⟩ := slotText_append_inj (List.append_cancel_left hchars)
      rfl
    | _ => simp at hhead

/-- Whether an expression begins as a read of the payload does. -/
def isRead (expression : String) : Bool :=
  expression.toList.head?.any ['b', 'N', 'h'].contains

theorem isRead_append {s t : String} (h : isRead s = true) : isRead (s ++ t) = true := by
  obtain ⟨c, hhead, hc⟩ := (Option.any_eq_true _ _).mp h
  obtain ⟨cs, hcs⟩ := List.head?_eq_some_iff.mp hhead
  rw [isRead, String.toList_append, hcs]
  exact hc

theorem isRead_callText (call : Call) : isRead (callText call) = true := by
  cases call with
  | byte => exact isRead_append (isRead_append (isRead_append rfl))
  | fixed => exact isRead_append (isRead_append (isRead_append (isRead_append rfl)))
  | wide => exact isRead_append (isRead_append (isRead_append (isRead_append rfl)))
  | sized => exact isRead_append (isRead_append (isRead_append rfl))
  | half => exact isRead_append (isRead_append rfl)
  | single => exact isRead_append rfl
  | double => exact isRead_append rfl
  | text =>
    exact isRead_append (isRead_append (isRead_append (isRead_append (isRead_append
      (isRead_append rfl)))))

theorem isRead_timeExpression (step : TimeStep) : isRead (timeExpression step) = false := by
  rw [isRead, head_timeExpression]
  cases step <;> rfl

theorem payload_inj {tags tags' : Members}
    (h : "msg.payload = [fields, " ++ (Json.obj tags).compact ++ "];" =
      "msg.payload = [fields, " ++ (Json.obj tags').compact ++ "];") : tags = tags' := by
  have hchars := congrArg String.toList h
  simp only [String.toList_append, List.append_assoc, Json.compact, String.toList_ofList] at hchars
  obtain ⟨heq, -⟩ := Json.compactChars_append_inj (.obj tags) (.obj tags') (.cons (by decide))
    (.cons (by decide)) (List.append_cancel_left hchars)
  cases heq
  rfl

/-! ## What a script is determined by -/

/-- The fields that a script reads, and the expressions that it reads them with. -/
def readExpressions (s : Script) : List (String × String) :=
  s.reads.map fun (field, call) => (field, callText call)

/-- The place of the time, and the expression that is stored there. -/
def timeExpressions (s : Script) : List (String × String) :=
  (s.time.map fun step => (timeKey, timeExpression step)).toList

/-- Whatever its field is called, the statement for the time is not taken for a read. -/
theorem filter_isRead (s : Script) :
    (s.readExpressions ++ s.timeExpressions).filter (isRead ·.2) = s.readExpressions := by
  have hreads : s.readExpressions.filter (isRead ·.2) = s.readExpressions := by
    refine List.filter_eq_self.mpr fun read hread => ?_
    obtain ⟨⟨field, call⟩, -, rfl⟩ := List.mem_map.mp hread
    exact isRead_callText call
  have htime : s.timeExpressions.filter (isRead ·.2) = [] := by
    refine List.filter_eq_nil_iff.mpr fun stored hstored => ?_
    obtain ⟨step, -, rfl⟩ := Option.map_eq_some_iff.mp (Option.mem_toList.mp hstored)
    simp [isRead_timeExpression]
  rw [List.filter_append, hreads, htime, List.append_nil]

theorem timeExpressions_inj {s t : Script} (h : s.timeExpressions = t.timeExpressions) :
    s.time = t.time := by
  unfold timeExpressions at h
  cases hs : s.time <;> cases ht : t.time <;> simp [hs, ht] at h ⊢
  exact timeExpression_inj h

theorem lines_eq (s : Script) : s.lines =
    ["", "var buf = msg.payload_raw;", "var fields = \x7b\x7d;"] ++
      ((s.readExpressions ++ s.timeExpressions).map fun (field, expression) =>
        storeLine field expression) ++
      ["msg.payload = [fields, " ++ (Json.obj s.tags).compact ++ "];", "return msg;"] := by
  cases htime : s.time <;> simp [lines, readExpressions, timeExpressions, htime]

/-- A script is determined by its text, up to reads that are written alike. -/
theorem text_inj {s t : Script} (h : s.text = t.text) :
    s.readExpressions = t.readExpressions ∧ s.time = t.time ∧ s.tags = t.tags := by
  have hlines : s.lines = t.lines := by
    have hparts := congrArg (fun text => partsAt '\n' text.toList) h
    simp only [partsAt_text] at hparts
    exact List.append_cancel_left (List.map_injective_iff.mpr (fun _ _ => String.toList_inj.mp)
      (List.append_cancel_right hparts))
  rw [lines_eq, lines_eq] at hlines
  obtain ⟨hbody, htail⟩ := List.append_inj' hlines rfl
  have hinj : Function.Injective fun (field, expression) => storeLine field expression :=
    fun _ _ hstore => Prod.ext (storeLine_inj hstore).1 (storeLine_inj hstore).2
  have hstores := List.map_injective_iff.mpr hinj (List.append_cancel_left hbody)
  have hreads : s.readExpressions = t.readExpressions := by
    rw [← filter_isRead s, hstores, filter_isRead t]
  rw [hreads] at hstores
  exact ⟨hreads, timeExpressions_inj (List.append_cancel_left hstores),
    payload_inj (List.cons.inj htail).1⟩

end Script

end UplinkFlow
