import UplinkFlow.Json.Printer
import UplinkFlow.Proofs.Binary64.ReadBack
import UplinkFlow.Proofs.Json.Literal

/-!
# Documents in one line

* `Number.chars_inj` — no two numbers have one text.
* `printable_compactChars` — the text of a document has no control character.
* `compactChars_append_inj` — **a document is determined by its text**, whatever follows the text
  as long as it does not go on as a number.
-/

set_option autoImplicit false

namespace UplinkFlow

open Binary64 (isDigit isNumberChar)
open Text (Printable Stops takeWhile_of_stops)

/-! ## Numbers -/

namespace Number

def isNegative : Number → Bool
  | .whole n _ => decide (n < 0)
  | .real x _ => x.isNegative

def unsignedText : Number → List Char
  | .whole n _ => Text.digits n.natAbs
  | .real x _ => x.unsignedText

theorem chars_eq (n : Number) :
    n.chars = if n.isNegative then '-' :: n.unsignedText else n.unsignedText := by
  cases n with
  | whole n _ => simp [chars, isNegative, unsignedText]
  | real x _ => exact x.render_eq

theorem exists_head (n : Number) : ∃ c cs, n.unsignedText = c :: cs ∧ isDigit c = true := by
  cases n with
  | whole n _ =>
    obtain ⟨c, cs, hcs⟩ := List.exists_cons_of_ne_nil (Text.digits_ne_nil n.natAbs)
    exact ⟨c, cs, hcs, Text.isDigit_digits (n := n.natAbs) (by simp [hcs])⟩
  | real x _ =>
    obtain ⟨c, hhead, hc⟩ := x.isRealText_unsignedText.head
    obtain ⟨cs, hcs⟩ := List.head?_eq_some_iff.mp hhead
    exact ⟨c, cs, hcs, hc⟩

theorem isNumberChar_chars (n : Number) : ∀ c ∈ n.chars, isNumberChar c = true := by
  have hunsigned : ∀ c ∈ n.unsignedText, isNumberChar c = true := by
    cases n with
    | whole n _ => exact fun _ hc => Binary64.isNumberChar_digit (Text.isDigit_digits hc)
    | real x _ => exact x.isRealText_unsignedText.chars
  rw [chars_eq]
  split
  · exact List.forall_mem_cons.mpr ⟨rfl, hunsigned⟩
  · exact hunsigned

theorem chars_ne_nil (n : Number) : n.chars ≠ [] := by
  obtain ⟨c, cs, hcs, -⟩ := n.exists_head
  rw [chars_eq, hcs]
  split <;> simp

theorem unsignedText_inj {n m : Number} (h : n.chars = m.chars) :
    n.isNegative = m.isNegative ∧ n.unsignedText = m.unsignedText := by
  obtain ⟨c, cs, hcs, hc⟩ := n.exists_head
  obtain ⟨d, ds, hds, hd⟩ := m.exists_head
  have hminus : isDigit '-' = false := rfl
  rw [chars_eq, chars_eq, hcs, hds] at h
  rw [hcs, hds]
  cases hn : n.isNegative <;> cases hm : m.isNegative <;> simp [hn, hm] at h ⊢
  · exact h
  · rw [h.1, hminus] at hc
    cases hc
  · rw [← h.1, hminus] at hd
    cases hd
  · exact h

theorem digits_ne_unsignedText (n : Nat) (x : Binary64) : Text.digits n ≠ x.unsignedText := by
  intro h
  have hmark := x.isRealText_unsignedText.mark
  rw [← h] at hmark
  rcases hmark with hmark | hmark <;> cases Text.isDigit_digits hmark

theorem chars_inj {n m : Number} (h : n.chars = m.chars) : n = m := by
  obtain ⟨hsign, htext⟩ := unsignedText_inj h
  cases n with
  | whole n hn =>
    cases m with
    | whole m hm =>
      have habs : n.natAbs = m.natAbs := Text.digits_inj htext
      have hneg : n < 0 ↔ m < 0 := decide_eq_decide.mp hsign
      obtain rfl : n = m := by omega
      rfl
    | real y hy => exact absurd htext (digits_ne_unsignedText _ y)
  | real x hx =>
    cases m with
    | whole m hm => exact absurd htext.symm (digits_ne_unsignedText _ x)
    | real y hy =>
      obtain rfl : x = y := Binary64.render_inj hx hy h
      rfl

end Number

namespace Json

theorem chars_append_inj {n m : Number} {r r' : List Char} (hr : Stops isNumberChar r)
    (hr' : Stops isNumberChar r') (h : n.chars ++ r = m.chars ++ r') : n = m ∧ r = r' := by
  have hchars := congrArg (List.takeWhile isNumberChar) h
  rw [takeWhile_of_stops n.isNumberChar_chars hr,
    takeWhile_of_stops m.isNumberChar_chars hr'] at hchars
  rw [hchars] at h
  exact ⟨Number.chars_inj hchars, List.append_cancel_left h⟩

/-! ## How a document begins -/

/-- The first character of a document's text, with `0` for every number. -/
def opening : Json → Char
  | .null => 'n'
  | .bool b => if b then 't' else 'f'
  | .num _ => '0'
  | .str _ => '"'
  | .arr _ => '['
  | .obj _ => '\x7b'

theorem exists_opening (j : Json) :
    ∃ c cs, j.compactChars = c :: cs ∧ (if isNumberChar c then '0' else c) = j.opening := by
  cases j with
  | null => exact ⟨_, _, rfl, rfl⟩
  | bool b => cases b <;> exact ⟨_, _, rfl, rfl⟩
  | num n =>
    obtain ⟨c, cs, hcs⟩ := List.exists_cons_of_ne_nil n.chars_ne_nil
    exact ⟨c, cs, hcs, if_pos (n.isNumberChar_chars c (by simp [hcs]))⟩
  | str s => exact ⟨_, _, rfl, rfl⟩
  | arr xs => cases xs <;> exact ⟨_, _, rfl, rfl⟩
  | obj ms => cases ms <;> exact ⟨_, _, rfl, rfl⟩

/-- Two documents are of one form. -/
inductive SameForm : Json → Json → Prop where
  | null : SameForm .null .null
  | bool (b : Bool) : SameForm (.bool b) (.bool b)
  | num (n m : Number) : SameForm (.num n) (.num m)
  | str (s t : String) : SameForm (.str s) (.str t)
  | arr (xs ys : List Json) : SameForm (.arr xs) (.arr ys)
  | obj (ms ns : Members) : SameForm (.obj ms) (.obj ns)

theorem sameForm_of_opening_eq {a b : Json} (h : a.opening = b.opening) : SameForm a b := by
  cases a with
  | bool a =>
    cases b with
    | bool b =>
      obtain rfl : a = b := by cases a <;> cases b <;> simp [opening] at h ⊢
      exact .bool a
    | _ => cases a <;> simp [opening] at h
  | _ =>
    cases b with
    | bool b => cases b <;> simp [opening] at h
    | _ => simp [opening] at h <;> constructor

/-- The first characters of two texts tell whether the documents are of one form. -/
theorem sameForm_of_append {a b : Json} {r r' : List Char}
    (h : a.compactChars ++ r = b.compactChars ++ r') : SameForm a b := by
  obtain ⟨c, cs, hc, hopening⟩ := a.exists_opening
  obtain ⟨d, ds, hd, hopening'⟩ := b.exists_opening
  rw [hc, hd, List.cons_append, List.cons_append] at h
  exact sameForm_of_opening_eq (by rw [← hopening, ← hopening', (List.cons.inj h).1])

/-- An element is not the end of an array. -/
theorem compactChars_append_ne (j : Json) (r r' : List Char) :
    j.compactChars ++ r ≠ ']' :: r' := by
  obtain ⟨c, cs, hcs, hc⟩ := j.exists_opening
  rw [hcs]
  intro h
  rw [(List.cons.inj h).1, if_neg (by decide)] at hc
  cases j with
  | bool b => cases b <;> simp [opening] at hc
  | _ => simp [opening] at hc

/-! ## What a text determines -/

theorem stops_compactItems (xs : List Json) (r : List Char) :
    Stops isNumberChar (compactItems xs ++ r) := by
  cases xs <;> exact .cons rfl

theorem stops_compactMembers (ms : Members) (r : List Char) :
    Stops isNumberChar (compactMembers ms ++ r) := by
  cases ms <;> exact .cons rfl

-- by the first document, which fixes the form of the second one
mutual
theorem compactChars_append_inj : ∀ (a b : Json) {r r' : List Char}, Stops isNumberChar r →
    Stops isNumberChar r' → a.compactChars ++ r = b.compactChars ++ r' → a = b ∧ r = r'
  | .null, b, r, r', _, _, h => by
    cases sameForm_of_append h
    exact ⟨rfl, List.append_cancel_left h⟩
  | .bool a, b, r, r', _, _, h => by
    cases sameForm_of_append h
    exact ⟨rfl, List.append_cancel_left h⟩
  | .num n, b, r, r', hr, hr', h => by
    cases sameForm_of_append h
    obtain ⟨rfl, hrest⟩ := chars_append_inj hr hr' h
    exact ⟨rfl, hrest⟩
  | .str s, b, r, r', _, _, h => by
    cases sameForm_of_append h
    obtain ⟨rfl, hrest⟩ := literal_append_inj h
    exact ⟨rfl, hrest⟩
  | .arr xs, b, r, r', _, _, h => by
    cases sameForm_of_append h with
    | arr _ ys =>
      match xs, ys, h with
      | [], [], h => exact ⟨rfl, List.append_cancel_left h⟩
      | [], y :: ys, h =>
        simp only [compactChars, List.cons_append, List.nil_append, List.append_assoc] at h
        exact absurd (List.cons.inj h).2.symm (compactChars_append_ne y _ _)
      | x :: xs, [], h =>
        simp only [compactChars, List.cons_append, List.nil_append, List.append_assoc] at h
        exact absurd (List.cons.inj h).2 (compactChars_append_ne x _ _)
      | x :: xs, y :: ys, h =>
        simp only [compactChars, List.cons_append, List.append_assoc] at h
        obtain ⟨rfl, htail⟩ := compactChars_append_inj x y (stops_compactItems xs r)
          (stops_compactItems ys r') (List.cons.inj h).2
        obtain ⟨rfl, hrest⟩ := compactItems_append_inj xs ys htail
        exact ⟨rfl, hrest⟩
  | .obj ms, b, r, r', _, _, h => by
    cases sameForm_of_append h with
    | obj _ ns =>
      match ms, ns, h with
      | [], [], h => exact ⟨rfl, List.append_cancel_left h⟩
      | [], (l, w) :: ns, h => simp [compactChars, literal] at h
      | (k, v) :: ms, [], h => simp [compactChars, literal] at h
      | (k, v) :: ms, (l, w) :: ns, h =>
        simp only [compactChars, List.cons_append, List.append_assoc] at h
        obtain ⟨rfl, hvalue⟩ := literal_append_inj (List.cons.inj h).2
        obtain ⟨rfl, htail⟩ := compactChars_append_inj v w (stops_compactMembers ms r)
          (stops_compactMembers ns r') (List.cons.inj hvalue).2
        obtain ⟨rfl, hrest⟩ := compactMembers_append_inj ms ns htail
        exact ⟨rfl, hrest⟩
theorem compactItems_append_inj : ∀ (xs ys : List Json) {r r' : List Char},
    compactItems xs ++ r = compactItems ys ++ r' → xs = ys ∧ r = r'
  | [], [], r, r', h => ⟨rfl, List.append_cancel_left h⟩
  | [], y :: ys, r, r', h => by simp [compactItems] at h
  | x :: xs, [], r, r', h => by simp [compactItems] at h
  | x :: xs, y :: ys, r, r', h => by
    simp only [compactItems, List.cons_append, List.append_assoc] at h
    obtain ⟨rfl, htail⟩ := compactChars_append_inj x y (stops_compactItems xs r)
      (stops_compactItems ys r') (List.cons.inj h).2
    obtain ⟨rfl, hrest⟩ := compactItems_append_inj xs ys htail
    exact ⟨rfl, hrest⟩
theorem compactMembers_append_inj : ∀ (ms ns : List (String × Json)) {r r' : List Char},
    compactMembers ms ++ r = compactMembers ns ++ r' → ms = ns ∧ r = r'
  | [], [], r, r', h => ⟨rfl, List.append_cancel_left h⟩
  | [], (l, w) :: ns, r, r', h => by simp [compactMembers] at h
  | (k, v) :: ms, [], r, r', h => by simp [compactMembers] at h
  | (k, v) :: ms, (l, w) :: ns, r, r', h => by
    simp only [compactMembers, List.cons_append, List.append_assoc] at h
    obtain ⟨rfl, hvalue⟩ := literal_append_inj (List.cons.inj h).2
    obtain ⟨rfl, htail⟩ := compactChars_append_inj v w (stops_compactMembers ms r)
      (stops_compactMembers ns r') (List.cons.inj hvalue).2
    obtain ⟨rfl, hrest⟩ := compactMembers_append_inj ms ns htail
    exact ⟨rfl, hrest⟩
end

/-! ## Control characters -/

theorem printable_number (n : Number) : Printable n.chars := by
  intro c hc
  have hnumber := n.isNumberChar_chars c hc
  rw [isNumberChar, Bool.or_eq_true] at hnumber
  rcases hnumber with hdigit | hother
  · have := Binary64.digit_bounds hdigit
    omega
  · have hsigns : Printable ['-', '+', '.', 'e'] := by decide
    exact hsigns c (List.contains_iff_mem.mp hother)

theorem printable_literal (s : String) : Printable (literal s) := (isLiteral_literal s).printable

mutual
theorem printable_compactChars : ∀ j : Json, Printable j.compactChars
  | .null => by decide
  | .bool b => by cases b <;> decide
  | .num n => printable_number n
  | .str s => printable_literal s
  | .arr [] => by decide
  | .arr (x :: xs) =>
    .cons (by decide) ((printable_compactChars x).append (printable_compactItems xs))
  | .obj [] => by decide
  | .obj ((k, v) :: ms) =>
    .cons (by decide) ((printable_literal k).append
      (.cons (by decide) ((printable_compactChars v).append (printable_compactMembers ms))))
theorem printable_compactItems : ∀ xs : List Json, Printable (compactItems xs)
  | [] => by decide
  | x :: xs =>
    .cons (by decide) ((printable_compactChars x).append (printable_compactItems xs))
theorem printable_compactMembers : ∀ ms : List (String × Json), Printable (compactMembers ms)
  | [] => by decide
  | (k, v) :: ms =>
    .cons (by decide) ((printable_literal k).append
      (.cons (by decide) ((printable_compactChars v).append (printable_compactMembers ms))))
end

end Json

end UplinkFlow
