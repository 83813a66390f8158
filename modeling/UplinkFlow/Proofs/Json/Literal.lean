import UplinkFlow.Json.Literal
import UplinkFlow.Json.Outline
import UplinkFlow.Proofs.Text.Hexadecimal

/-!
# Literals of texts

* `untilQuote` — where a literal ends, for one who knows of quotes and backslashes only.
* `run_literal` — a scanner that has read a literal has found its text and is between tokens again.
* `IsLiteral`, `isLiteral_literal` — **the literal of every text is one line of quoted characters,
  ends at its last quote, and is read back as the text.**
* `literal_append_inj` — what follows a literal does not blur where it ends.
-/

set_option autoImplicit false

namespace UplinkFlow.Text

/-! ## Control characters -/

/-- No control character, and so no line end either. -/
def Printable (cs : List Char) : Prop := ∀ c ∈ cs, 0x20 ≤ c.toNat

theorem Printable.nil : Printable [] := by simp [Printable]

theorem Printable.cons {c : Char} {cs : List Char} (hc : 0x20 ≤ c.toNat) (h : Printable cs) :
    Printable (c :: cs) :=
  List.forall_mem_cons.mpr ⟨hc, h⟩

theorem printable_append_iff {cs ds : List Char} :
    Printable (cs ++ ds) ↔ Printable cs ∧ Printable ds :=
  List.forall_mem_append

theorem Printable.append {cs ds : List Char} (hcs : Printable cs) (hds : Printable ds) :
    Printable (cs ++ ds) :=
  printable_append_iff.mpr ⟨hcs, hds⟩

instance (cs : List Char) : Decidable (Printable cs) :=
  decidable_of_iff (cs.all fun c => decide (0x20 ≤ c.toNat)) (by simp [Printable])

end UplinkFlow.Text

namespace UplinkFlow.Json

open Text (Printable)

/-! ## One character -/

theorem hexPadded_control : ∀ n < 0x20,
    Text.hexPadded 4 n = ['0', '0', Text.hexDigitChar (n / 16), Text.hexDigitChar (n % 16)] := by
  decide +kernel

/-- A character stands for itself, or is escaped by name or by number. -/
inductive Escapes (c : Char) : List Char → Prop where
  | plain (noQuote : c ≠ '"') (noBackslash : c ≠ '\\') (printable : 0x20 ≤ c.toNat) : Escapes c [c]
  | named {x : Char} (names : unescape? x = some c) : Escapes c ['\\', x]
  | numbered (control : c.toNat < 0x20) : Escapes c ['\\', 'u', '0', '0',
      Text.hexDigitChar (c.toNat / 16), Text.hexDigitChar (c.toNat % 16)]

theorem escapes_escape (c : Char) : Escapes c (escape c) := by
  unfold escape
  split
  · subst_vars
    exact .named rfl
  split
  · subst_vars
    exact .named rfl
  split
  · subst_vars
    exact .named rfl
  split
  · subst_vars
    exact .named rfl
  split
  · subst_vars
    exact .named rfl
  split
  · subst_vars
    exact .named rfl
  split
  · subst_vars
    exact .named rfl
  split
  · rename_i hcontrol
    rw [hexPadded_control c.toNat hcontrol]
    exact .numbered hcontrol
  · rename_i hquote hbackslash _ _ _ _ _ hprintable
    exact .plain hquote hbackslash (Nat.le_of_not_lt hprintable)

theorem unescape?_eq_some {x c : Char} (h : unescape? x = some c) :
    x ∈ ['"', '\\', '/', 'b', 'f', 'n', 'r', 't'] := by
  unfold unescape? at h
  grind

theorem hexDigitChar_toNat : ∀ d < 16, 0x20 ≤ (Text.hexDigitChar d).toNat := by decide

namespace Escapes

variable {c : Char} {cs : List Char}

theorem printable (h : Escapes c cs) : Printable cs := by
  cases h with
  | plain _ _ hprintable => exact .cons hprintable .nil
  | named names =>
    have hx : Printable ['"', '\\', '/', 'b', 'f', 'n', 'r', 't'] := by decide
    exact .cons (by decide) (.cons (hx _ (unescape?_eq_some names)) .nil)
  | numbered hcontrol =>
    have hhigh := hexDigitChar_toNat (c.toNat / 16) (by omega)
    have hlow := hexDigitChar_toNat (c.toNat % 16) (by omega)
    have hprefix : Printable ['\\', 'u', '0', '0'] := by decide
    exact hprefix.append (.cons hhigh (.cons hlow .nil))

end Escapes

/-! ## Where a literal ends -/

/-- The text before the first quote that no backslash escapes, and the text behind that quote. -/
def untilQuote : List Char → Option (List Char × List Char)
  | [] => none
  | '"' :: rest => some ([], rest)
  | '\\' :: c :: rest =>
    (untilQuote rest).map fun (inner, behind) => ('\\' :: c :: inner, behind)
  | c :: rest => (untilQuote rest).map fun (inner, behind) => (c :: inner, behind)

theorem untilQuote_plain {c : Char} (hquote : c ≠ '"') (hbackslash : c ≠ '\\') (rest : List Char) :
    untilQuote (c :: rest) =
      (untilQuote rest).map fun (inner, behind) => (c :: inner, behind) := by
  rw [untilQuote.eq_def]
  split <;> simp_all

theorem hexDigitChar_ne : ∀ d < 16, Text.hexDigitChar d ≠ '"' ∧ Text.hexDigitChar d ≠ '\\' := by
  decide

theorem Escapes.untilQuote {c : Char} {cs : List Char} (h : Escapes c cs) (rest : List Char) :
    untilQuote (cs ++ rest) =
      (Json.untilQuote rest).map fun (inner, behind) => (cs ++ inner, behind) := by
  cases h with
  | plain hquote hbackslash _ => exact untilQuote_plain hquote hbackslash rest
  | named names => rfl
  | numbered hcontrol =>
    obtain ⟨hquote, hbackslash⟩ := hexDigitChar_ne (c.toNat / 16) (by omega)
    obtain ⟨hquote', hbackslash'⟩ := hexDigitChar_ne (c.toNat % 16) (by omega)
    simp only [List.cons_append, List.nil_append]
    rw [Json.untilQuote, untilQuote_plain (by decide) (by decide),
      untilQuote_plain (by decide) (by decide), untilQuote_plain hquote hbackslash,
      untilQuote_plain hquote' hbackslash']
    cases Json.untilQuote rest <;> rfl

theorem untilQuote_flatMap_escape (cs rest : List Char) :
    untilQuote (cs.flatMap escape ++ '"' :: rest) = some (cs.flatMap escape, rest) := by
  induction cs with
  | nil => rfl
  | cons c cs ih =>
    rw [List.flatMap_cons, List.append_assoc, (escapes_escape c).untilQuote, ih]
    rfl

/-! ## Reading a literal -/

/-- Reading the escape of a character finds the character. -/
theorem Escapes.run {c : Char} {cs : List Char} (h : Escapes c cs) (reversed : List Piece)
    (rest : List Char) :
    (Scan.text reversed).run (cs ++ rest) = (Scan.text (.char c :: reversed)).run rest := by
  cases h with
  | plain hquote hbackslash hprintable =>
    simp [Scan.run, Scan.step, hquote, hbackslash, Nat.not_lt.mpr hprintable]
  | @named x names =>
    have hu : x ≠ 'u' := by
      rintro rfl
      cases names
    simp [Scan.run, Scan.step, hu, names]
  | numbered hcontrol =>
    have hhigh := Text.hexDigit?_hexDigitChar (c.toNat / 16) (by omega)
    have hlow := Text.hexDigit?_hexDigitChar (c.toNat % 16) (by omega)
    have hzero : Text.hexDigit? '0' = some 0 := rfl
    have hunit : Piece.ofUnit (c.toNat / 16 * 16 + c.toNat % 16) = .char c := by
      rw [Nat.div_add_mod', Piece.ofUnit, if_neg (by omega), Char.ofNat_toNat]
    simp [Scan.run, Scan.step, hzero, hhigh, hlow, hunit]

theorem run_flatMap_escape (cs rest : List Char) (reversed : List Piece) :
    (Scan.text reversed).run (cs.flatMap escape ++ rest) =
      (Scan.text ((cs.map Piece.char).reverse ++ reversed)).run rest := by
  induction cs generalizing reversed with
  | nil => rfl
  | cons c cs ih => simp [List.append_assoc, (escapes_escape c).run, ih]

theorem assemble_map_char (cs : List Char) : assemble (cs.map Piece.char) = some cs := by
  induction cs with
  | nil => rfl
  | cons c cs ih => simp [assemble, ih]

/-- A scanner that has read a literal has found its text and is between tokens again. -/
theorem run_literal (s : String) (rest : List Char) :
    Scan.between.run (literal s ++ rest) = .str (some s) :: Scan.between.run rest := by
  have hstart : Scan.between.run (literal s ++ rest) =
      (Scan.text []).run (s.toList.flatMap escape ++ ('"' :: rest)) := by
    simp [literal, Scan.run, Scan.step, Scan.start, isSpace]
  rw [hstart, run_flatMap_escape]
  simp [Scan.run, Scan.step, Token.ofPieces, assemble_map_char]

theorem literal_append_inj {s t : String} {rest rest' : List Char}
    (h : literal s ++ rest = literal t ++ rest') : s = t ∧ rest = rest' := by
  have htokens := congrArg Scan.between.run h
  rw [run_literal, run_literal] at htokens
  obtain rfl : s = t := by simpa using (List.cons.inj htokens).1
  exact ⟨rfl, List.append_cancel_left h⟩

/-! ## Literals -/

/-- Characters that are a literal of a text: between two quotes there is neither a control character
nor a quote that would end the literal, whatever follows; and it reads as the text. -/
structure IsLiteral (cs : List Char) (s : String) : Prop where
  printable : Printable cs
  closed : ∃ inner, cs = '"' :: (inner ++ ['"']) ∧
    ∀ rest, untilQuote (inner ++ '"' :: rest) = some (inner, rest)
  reads : ofText? (String.ofList cs) = some (.str s)

theorem isLiteral_literal (s : String) : IsLiteral (literal s) s where
  printable := by
    have hinner : Printable (s.toList.flatMap escape) := by
      intro c hc
      obtain ⟨x, -, hc⟩ := List.mem_flatMap.mp hc
      exact (escapes_escape x).printable c hc
    exact .cons (by decide) (hinner.append (by decide))
  closed := ⟨s.toList.flatMap escape, rfl, untilQuote_flatMap_escape s.toList⟩
  reads := by
    have htokens : tokens (String.ofList (literal s)) = [.str (some s)] := by
      have h := run_literal s []
      rw [List.append_nil] at h
      rw [tokens, String.toList_ofList, h]
      rfl
    rw [ofText?, Outline.ofText, htokens]
    rfl

end UplinkFlow.Json
