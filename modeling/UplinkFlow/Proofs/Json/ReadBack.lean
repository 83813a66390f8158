import Mathlib.Data.List.Forall2
import UplinkFlow.Proofs.Json.Nesting
import UplinkFlow.Proofs.Json.Printed
import UplinkFlow.Proofs.Json.Records

/-!
# Documents that are read back

* `Number.ReadsBack` — a number whose text denotes it; `Number.readsBack_whole` — whole numbers do.
* `Json.nesting`, `Json.numbers`, `Json.ReadsBackWithin`, `Json.ReadsBack` — a document that is
  nested no deeper than a reader follows, and whose numbers are read back.
* `Reader.Rereading`, `Reader.Rereading.eq_ofJson?` — **the text of such a document is read as the
  document is.**
* `Json.readsBackWithin_of_toJson?` — no other document is kept as it was.
-/

set_option autoImplicit false

namespace UplinkFlow

open Binary64 (digitsValue isDigit)
open Outline (maxDepth)

/-! ## Numbers -/

namespace Number

/-- The text of a number denotes it. -/
def ReadsBack (n : Number) : Prop := ofLexeme? n.chars = some n

instance (n : Number) : Decidable n.ReadsBack := inferInstanceAs (Decidable (_ = _))

theorem ofLexeme?_digits (n : Nat) :
    ofLexeme? (Text.digits n) =
      (ofInteger? false (Text.digits n)).or (ofParts? false (Text.digits n) [] 0) := by
  have hall : ∀ c ∈ Text.digits n, isDigit c = true := fun _ => Text.isDigit_digits
  have hsign : ∀ rest, Text.digits n ≠ '-' :: rest := by
    intro rest h
    have hminus : isDigit '-' = true := hall '-' (by simp [h])
    cases hminus
  have htake := Text.takeWhile_of_stops hall (Text.Stops.nil (p := isDigit))
  have hdrop := Text.dropWhile_of_stops hall (Text.Stops.nil (p := isDigit))
  rw [List.append_nil] at htake hdrop
  unfold ofLexeme?
  split
  · rename_i negative cs hcs
    split at hcs
    · rename_i rest heq
      exact absurd heq (hsign rest)
    · obtain ⟨rfl, rfl⟩ := Prod.mk.inj hcs
      simp only [htake, hdrop]

theorem ofLexeme?_minus_digits (n : Nat) :
    ofLexeme? ('-' :: Text.digits n) =
      (ofInteger? true (Text.digits n)).or (ofParts? true (Text.digits n) [] 0) := by
  have hall : ∀ c ∈ Text.digits n, isDigit c = true := fun _ => Text.isDigit_digits
  have htake := Text.takeWhile_of_stops hall (Text.Stops.nil (p := isDigit))
  have hdrop := Text.dropWhile_of_stops hall (Text.Stops.nil (p := isDigit))
  rw [List.append_nil] at htake hdrop
  unfold ofLexeme?
  split
  rename_i negative cs hcs
  obtain ⟨rfl, rfl⟩ := Prod.mk.inj hcs
  simp only [htake, hdrop]

theorem ofInteger?_digits {n : Int} (fits : -0x8000000000000000 ≤ n ∧ n < 0x10000000000000000) :
    ofInteger? (decide (n < 0)) (Text.digits n.natAbs) = some (whole n fits) := by
  simp only [ofInteger?, Text.digitsValue_digits]
  by_cases hn : n < 0
  · have hvalue : -(n.natAbs : Int) = n := by omega
    have hrange : 0 < (n.natAbs : Int) ∧ (n.natAbs : Int) ≤ 0x8000000000000000 := by omega
    simp only [decide_eq_true hn, if_true, hvalue, dif_pos hrange]
  · have hvalue : (n.natAbs : Int) = n := by omega
    have hrange : 0 ≤ n ∧ n < 0x10000000000000000 := by omega
    simp only [decide_eq_false hn, Bool.false_eq_true, if_false, hvalue, dif_pos hrange]

theorem readsBack_whole (n : Int) (fits : -0x8000000000000000 ≤ n ∧ n < 0x10000000000000000) :
    (whole n fits).ReadsBack := by
  have hvalue := ofInteger?_digits fits
  rw [ReadsBack, chars]
  by_cases hn : n < 0
  · rw [decide_eq_true hn] at hvalue
    rw [if_pos hn, ofLexeme?_minus_digits, hvalue, Option.some_or]
  · rw [decide_eq_false hn] at hvalue
    rw [if_neg hn, ofLexeme?_digits, hvalue, Option.some_or]

end Number

/-! ## Documents -/

namespace Json

mutual
/-- The numbers in a document, in order. -/
def numbers : Json → List Number
  | .num n => [n]
  | .arr items => itemNumbers items
  | .obj ms => memberNumbers ms
  | .null | .bool _ | .str _ => []
def itemNumbers : List Json → List Number
  | [] => []
  | x :: xs => numbers x ++ itemNumbers xs
def memberNumbers : List (String × Json) → List Number
  | [] => []
  | (_, v) :: ms => numbers v ++ memberNumbers ms
end

theorem mem_numbers_arr {items : List Json} {n : Number} :
    n ∈ (arr items).numbers ↔ ∃ x ∈ items, n ∈ x.numbers := by
  rw [numbers]
  induction items with
  | nil => simp [itemNumbers]
  | cons x xs ih => simp [itemNumbers, ih]

theorem mem_numbers_obj {ms : Members} {n : Number} :
    n ∈ (obj ms).numbers ↔ ∃ m ∈ ms, n ∈ m.2.numbers := by
  rw [numbers]
  induction ms with
  | nil => simp [memberNumbers]
  | cons m ms ih => simp [memberNumbers, ih, or_and_right, exists_or]

/-- A document that is nested no deeper than `limit`, and whose numbers are read back. -/
structure ReadsBackWithin (limit : Nat) (j : Json) : Prop where
  nesting : j.nesting ≤ limit
  numbers : ∀ n ∈ j.numbers, n.ReadsBack

/-- A document whose text is read as the document. -/
abbrev ReadsBack (j : Json) : Prop := j.ReadsBackWithin maxDepth

variable {limit : Nat}

theorem ReadsBackWithin.mono {j : Json} (h : j.ReadsBackWithin limit) {limit' : Nat}
    (hlimit : limit ≤ limit') : j.ReadsBackWithin limit' :=
  ⟨h.nesting.trans hlimit, h.numbers⟩

@[simp] theorem readsBackWithin_str (s : String) : (str s).ReadsBackWithin limit :=
  ⟨by simp [nesting], by simp [numbers]⟩

@[simp] theorem readsBackWithin_num {n : Number} :
    (num n).ReadsBackWithin limit ↔ n.ReadsBack :=
  ⟨fun h => h.numbers n (by simp [numbers]), fun h => ⟨by simp [nesting], by simpa [numbers]⟩⟩

@[simp] theorem readsBackWithin_arr {items : List Json} :
    (arr items).ReadsBackWithin (limit + 1) ↔ ∀ x ∈ items, x.ReadsBackWithin limit := by
  constructor
  · intro h x hx
    exact ⟨nesting_arr_le.mp h.nesting x hx,
      fun n hn => h.numbers n (mem_numbers_arr.mpr ⟨x, hx, hn⟩)⟩
  · refine fun h => ⟨nesting_arr_le.mpr fun x hx => (h x hx).nesting, fun n hn => ?_⟩
    obtain ⟨x, hx, hn⟩ := mem_numbers_arr.mp hn
    exact (h x hx).numbers n hn

@[simp] theorem readsBackWithin_obj {ms : Members} :
    (obj ms).ReadsBackWithin (limit + 1) ↔ ∀ m ∈ ms, m.2.ReadsBackWithin limit := by
  constructor
  · intro h m hm
    exact ⟨nesting_obj_le.mp h.nesting m hm,
      fun n hn => h.numbers n (mem_numbers_obj.mpr ⟨m, hm, hn⟩)⟩
  · refine fun h => ⟨nesting_obj_le.mpr fun m hm => (h m hm).nesting, fun n hn => ?_⟩
    obtain ⟨m, hm, hn⟩ := mem_numbers_obj.mp hn
    exact (h m hm).numbers n hn

end Json

namespace Outline

mutual
/-- The text of a document has the document's outline, if its numbers are read back and no container
is nested too deep. -/
theorem ofPrinted_eq_ofJson : ∀ {j : Json} {depth : Nat}, j.nesting ≤ maxDepth - depth →
    (∀ n ∈ j.numbers, n.ReadsBack) → ofPrinted depth j = ofJson j
  | .null, depth, _, _ | .bool _, depth, _, _ | .str _, depth, _, _ => rfl
  | .num n, depth, _, hnumbers => by
    have hn : Number.ofLexeme? n.chars = some n := hnumbers n (by simp [Json.numbers])
    simp [ofPrinted, hn, ofJson]
  | .arr items, depth, hnesting, hnumbers => by
    rw [Json.nesting] at hnesting
    rw [ofPrinted, ofJson, ofPrintedItems_eq_ofItems (by omega)
      (by simpa [Json.numbers] using hnumbers), decide_eq_false (by omega)]
  | .obj ms, depth, hnesting, hnumbers => by
    rw [Json.nesting] at hnesting
    rw [ofPrinted, ofJson, ofPrintedMembers_eq_ofMembers (by omega)
      (by simpa [Json.numbers] using hnumbers), decide_eq_false (by omega)]
theorem ofPrintedItems_eq_ofItems : ∀ {items : List Json} {depth : Nat},
    Json.itemNesting items ≤ maxDepth - depth → (∀ n ∈ Json.itemNumbers items, n.ReadsBack) →
      ofPrintedItems depth items = ofItems items
  | [], depth, _, _ => rfl
  | x :: xs, depth, hnesting, hnumbers => by
    rw [Json.itemNesting] at hnesting
    rw [Json.itemNumbers] at hnumbers
    obtain ⟨hx, hxs⟩ := List.forall_mem_append.mp hnumbers
    rw [ofPrintedItems, ofItems, ofPrinted_eq_ofJson (by omega) hx,
      ofPrintedItems_eq_ofItems (by omega) hxs]
theorem ofPrintedMembers_eq_ofMembers : ∀ {ms : List (String × Json)} {depth : Nat},
    Json.memberNesting ms ≤ maxDepth - depth → (∀ n ∈ Json.memberNumbers ms, n.ReadsBack) →
      ofPrintedMembers depth ms = ofMembers ms
  | [], depth, _, _ => rfl
  | (k, v) :: ms, depth, hnesting, hnumbers => by
    rw [Json.memberNesting] at hnesting
    rw [Json.memberNumbers] at hnumbers
    obtain ⟨hv, hms⟩ := List.forall_mem_append.mp hnumbers
    rw [ofPrintedMembers, ofMembers, ofPrinted_eq_ofJson (by omega) hv,
      ofPrintedMembers_eq_ofMembers (by omega) hms]
end

theorem ofPrinted_of_readsBack {j : Json} (h : j.ReadsBack) : ofPrinted 0 j = ofJson j :=
  ofPrinted_eq_ofJson h.nesting h.numbers

end Outline

/-! ## Texts -/

/-- What is written of a document: its text in one line, or over several lines with blanks behind
it. -/
inductive Json.IsWrittenAs (j : Json) : String → Prop where
  | line : IsWrittenAs j j.compact
  | lines {blanks : String} (blank : ∀ c ∈ blanks.toList, Json.isSpace c = true) :
    IsWrittenAs j (j.pretty ++ blanks)

theorem Outline.ofText_of_isWrittenAs {j : Json} {text : String} (h : j.IsWrittenAs text) :
    ofText text = ⟨ofPrinted 0 j, true⟩ := by
  cases h with
  | line => exact ofText_compact j
  | lines blank => exact ofText_pretty j blank

theorem Json.ofText?_of_isWrittenAs {j : Json} {text : String} (h : j.ReadsBack)
    (hunique : j.HasUniqueKeys) (htext : j.IsWrittenAs text) : ofText? text = some j := by
  simp only [ofText?, Outline.ofText_of_isWrittenAs htext, if_true,
    Outline.ofPrinted_of_readsBack h, Outline.toJson?_ofJson hunique]

namespace Reader

variable {α : Type} {reader : Reader α} {j : Json} {text : String}

theorem ofText_of_isWrittenAs (reader : Reader α) (h : j.IsWrittenAs text) :
    reader.ofText text = reader (Outline.ofPrinted 0 j) := by
  rw [ofText, ofFound, Outline.ofText_of_isWrittenAs h]
  exact bind_pure _

/-- What is written of a document that is read back is read as the document is. -/
theorem ofText_of_readsBack (reader : Reader α) (h : j.ReadsBack) (htext : j.IsWrittenAs text) :
    reader.ofText text = reader (Outline.ofJson j) := by
  rw [ofText_of_isWrittenAs reader htext, Outline.ofPrinted_of_readsBack h]

/-- What comes of reading a document again: as it stands, or out of what is written of it. -/
inductive Rereading (reader : Reader α) (j : Json) : Option α → Prop where
  | document : Rereading reader j (reader.ofJson? j)
  | text {text : String} (written : j.IsWrittenAs text) :
    Rereading reader j (reader.ofText text).toOption

/-- A document that is read back is read again as it stands, in whatever way. -/
theorem Rereading.eq_ofJson? (h : j.ReadsBack) {found : Option α}
    (hfound : reader.Rereading j found) : found = reader.ofJson? j := by
  cases hfound with
  | document => rfl
  | text written => rw [reader.ofText_of_readsBack h written, ofJson?]

end Reader

/-! ## What is kept as it was -/

namespace Outline

/-- What is kept of a member that is printed: the key, and what is kept of the value. -/
def IsKept (depth : Nat) (m kept : String × Json) : Prop :=
  kept.1 = m.1 ∧ (ofPrinted depth m.2).toJson? = some kept.2

theorem map_fst_of_isKept {depth : Nat} {ms kept : Members}
    (h : List.Forall₂ (IsKept depth) ms kept) : kept.map Prod.fst = ms.map Prod.fst := by
  induction h with
  | nil => rfl
  | cons hm _ ih => rw [List.map_cons, List.map_cons, hm.1, ih]

theorem toMembers?_ofPrintedMembers : ∀ {ms : Members} {depth : Nat} {before after : Members},
    ((before ++ ms).map Prod.fst).Nodup →
    toMembers? before (ofPrintedMembers depth ms) = some after →
      ∃ kept, after = before ++ kept ∧ List.Forall₂ (IsKept depth) ms kept
  | [], depth, before, after, _, h => by
    cases h
    exact ⟨[], (List.append_nil before).symm, .nil⟩
  | (k, v) :: ms, depth, before, after, hkeys, h => by
    obtain ⟨w, hw, h⟩ := Option.bind_eq_some_iff.mp h
    rw [Members.insert_of_notMem (Members.notMem_before hkeys)] at h
    obtain ⟨kept, rfl, hkept⟩ := toMembers?_ofPrintedMembers (by simpa using hkeys) h
    exact ⟨(k, w) :: kept, by simp, .cons ⟨rfl, hw⟩ hkept⟩

mutual
/-- A document that is kept as it was when its text is read has no number that is not read back and
no container that is nested too deep. -/
theorem readsBack_of_toJson? : ∀ {j : Json} {depth : Nat}, j.HasUniqueKeys →
    (ofPrinted depth j).toJson? = some j →
      j.nesting ≤ maxDepth - depth ∧ ∀ n ∈ j.numbers, n.ReadsBack
  | .null, depth, _, _ | .bool _, depth, _, _ | .str _, depth, _, _ => by
    simp [Json.nesting, Json.numbers]
  | .num n, depth, _, h => by
    have hn : n.ReadsBack := by
      rw [Number.ReadsBack]
      cases hread : Number.ofLexeme? n.chars with
      | none => simp [ofPrinted, hread, toJson?] at h
      | some m => simpa [ofPrinted, hread, toJson?] using h
    simpa [Json.nesting, Json.numbers] using hn
  | .arr items, depth, hkeys, h => by
    rw [ofPrinted, toJson?] at h
    split at h
    · cases h
    · rename_i hdepth
      simp only [Bool.not_true, Bool.or_false, decide_eq_true_eq] at hdepth
      obtain ⟨xs, hxs, heq⟩ := Option.map_eq_some_iff.mp h
      rw [Json.arr.inj heq] at hxs
      obtain ⟨hnesting, hnumbers⟩ := readsBack_of_toItems? hkeys hxs
      rw [Json.nesting, Json.numbers]
      exact ⟨by omega, hnumbers⟩
  | .obj ms, depth, hkeys, h => by
    rw [ofPrinted, toJson?] at h
    split at h
    · cases h
    · rename_i hdepth
      simp only [Bool.not_true, Bool.or_false, decide_eq_true_eq] at hdepth
      obtain ⟨ns, hns, heq⟩ := Option.map_eq_some_iff.mp h
      rw [Json.obj.inj heq] at hns
      obtain ⟨_, rfl, hsame⟩ := toMembers?_ofPrintedMembers (by simpa using hkeys.1) hns
      obtain ⟨hnesting, hnumbers⟩ := readsBack_of_isKept hkeys.2 hsame
      rw [Json.nesting, Json.numbers]
      exact ⟨by omega, hnumbers⟩
theorem readsBack_of_toItems? : ∀ {items : List Json} {depth : Nat},
    Json.itemsHaveUniqueKeys items → toItems? (ofPrintedItems depth items) = some items →
      Json.itemNesting items ≤ maxDepth - depth ∧ ∀ n ∈ Json.itemNumbers items, n.ReadsBack
  | [], depth, _, _ => by simp [Json.itemNesting, Json.itemNumbers]
  | x :: xs, depth, hkeys, h => by
    obtain ⟨y, hy, h⟩ := Option.bind_eq_some_iff.mp h
    obtain ⟨ys, hys, heq⟩ := Option.map_eq_some_iff.mp h
    rw [(List.cons.inj heq).1] at hy
    rw [(List.cons.inj heq).2] at hys
    obtain ⟨hnesting, hnumbers⟩ := readsBack_of_toJson? hkeys.1 hy
    obtain ⟨hnesting', hnumbers'⟩ := readsBack_of_toItems? hkeys.2 hys
    rw [Json.itemNesting, Json.itemNumbers]
    exact ⟨Nat.max_le.mpr ⟨hnesting, hnesting'⟩, List.forall_mem_append.mpr ⟨hnumbers, hnumbers'⟩⟩
theorem readsBack_of_isKept : ∀ {ms : Members} {depth : Nat}, Json.valuesHaveUniqueKeys ms →
    List.Forall₂ (IsKept depth) ms ms →
      Json.memberNesting ms ≤ maxDepth - depth ∧ ∀ n ∈ Json.memberNumbers ms, n.ReadsBack
  | [], depth, _, _ => by simp [Json.memberNesting, Json.memberNumbers]
  | (k, v) :: ms, depth, hvalues, h => by
    obtain ⟨⟨-, hv⟩, hms⟩ := List.forall₂_cons.mp h
    obtain ⟨hnesting, hnumbers⟩ := readsBack_of_toJson? hvalues.1 hv
    obtain ⟨hnesting', hnumbers'⟩ := readsBack_of_isKept hvalues.2 hms
    rw [Json.memberNesting, Json.memberNumbers]
    exact ⟨Nat.max_le.mpr ⟨hnesting, hnesting'⟩, List.forall_mem_append.mpr ⟨hnumbers, hnumbers'⟩⟩
end

end Outline

/-- Only a document that is read back is kept as it was. -/
theorem Json.readsBackWithin_of_toJson? {j : Json} {depth : Nat} (hkeys : j.HasUniqueKeys)
    (h : (Outline.ofPrinted depth j).toJson? = some j) : j.ReadsBackWithin (maxDepth - depth) :=
  have hread := Outline.readsBack_of_toJson? hkeys h
  ⟨hread.1, hread.2⟩

end UplinkFlow
