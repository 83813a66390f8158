import UplinkFlow.Proofs.Binary64.Exact
import UplinkFlow.Proofs.Text.Digits

/-!
# Reading a rendered number back

* `shortest_roundsTo` — the shortest decimal of a number rounds to that number.
* `unsigned?_render` — the text of a decimal is read as that decimal, in each of its four forms.
* `ofText?_render` — **the text of every finite number is read as that number**, bit for bit.
-/

set_option autoImplicit false

namespace UplinkFlow.Binary64

open Text (digits Stops takeWhile_of_stops dropWhile_of_stops)

variable {x : Binary64} {d : Decimal}

/-! ## The exact value -/

theorem mul_two_pow_lt {q a k m : Nat} (hq : q < 2 ^ a) (hk : k ≤ m) :
    q * 2 ^ k < 2 ^ (a + m) := by
  rw [Nat.pow_add]
  exact Nat.mul_lt_mul_of_lt_of_le hq (Nat.pow_le_pow_right (by decide) hk) (Nat.two_pow_pos _)

theorem magnitude_lt (h : x.isFinite = true) : x.magnitude < 2 ^ (53 + 2045) := by
  have hfraction := x.fractionBits_lt
  have hexponent := exponentBits_lt h
  unfold leadingBit at hfraction
  unfold magnitude
  split
  · have hlt := @mul_two_pow_lt x.fractionBits 53 0 2045 (by omega) (by omega)
    rwa [Nat.pow_zero, Nat.mul_one] at hlt
  · rw [Nat.shiftLeft_eq]
    refine mul_two_pow_lt ?_ (by omega)
    unfold leadingBit
    omega

theorem ofParts_zero (h : x.isZero = true) : ofParts x.isNegative 0 = x := by
  rw [← lowBits_of_isZero h, ofParts_lowBits]

/-- The exact value has neither too few nor too many places to be rounded. -/
theorem exact_places (hfinite : x.isFinite = true) (hzero : x.isZero = false) :
    748 < (digits x.exact.significand).length ∧ (digits x.exact.significand).length ≤ 1384 := by
  have hne : x.magnitude ≠ 0 := by simpa [isZero] using hzero
  have hlow : 10 ^ 748 ≤ Nat.pow 5 1074 := by decide +kernel
  have hhigh : 2 ^ (53 + 2045) * Nat.pow 5 1074 < 10 ^ 1384 := by decide +kernel
  have hfive : 0 < Nat.pow 5 1074 := by decide +kernel
  have hlt := magnitude_lt hfinite
  show 748 < (digits (x.magnitude * Nat.pow 5 1074)).length ∧
    (digits (x.magnitude * Nat.pow 5 1074)).length ≤ 1384
  generalize Nat.pow 5 1074 = five at *
  refine ⟨Text.lt_length_digits ?_,
    Text.length_digits_le (Nat.mul_ne_zero hne (Nat.ne_of_gt hfive)) ?_⟩
  · calc 10 ^ 748 ≤ five := hlow
      _ ≤ x.magnitude * five := Nat.le_mul_of_pos_left five (Nat.pos_of_ne_zero hne)
  · calc x.magnitude * five < 2 ^ (53 + 2045) * five := Nat.mul_lt_mul_of_pos_right hlt hfive
      _ < 10 ^ 1384 := hhigh

theorem ofRatio_of_units {negative : Bool} {n m k : Nat} (hk : 0 < k)
    (h : n * unitsPerOne = m * k) : ofRatio negative n k = ofParts negative (roundUnits m 1) := by
  have hround := roundUnits_mul_right (n := m) (d := 1) hk
  rw [Nat.one_mul] at hround
  rw [ofRatio, h, hround]

theorem pow_five_mul_unitsPerOne :
    Nat.pow 5 1074 * unitsPerOne = Nat.pow 10 (-(-1074 : Int)).toNat := by
  decide +kernel

/-- The exact value of a number is rounded to that number. -/
theorem ofDecimal_exact (hfinite : x.isFinite = true) (hzero : x.isZero = false) :
    ofDecimal x.isNegative x.exact.significand x.exact.exponent = x := by
  obtain ⟨hlow, hhigh⟩ := exact_places hfinite hzero
  have hne : x.exact.significand ≠ 0 := by
    intro h
    rw [h] at hlow
    simp [digits] at hlow
  have hexponent : x.exact.exponent = -1074 := rfl
  rw [ofDecimal, hexponent, if_neg (by omega), if_neg (by omega), if_neg (by omega)]
  refine (ofRatio_of_units (m := x.magnitude) ?_ ?_).trans ?_
  · decide +kernel
  · rw [exact, Nat.mul_assoc, pow_five_mul_unitsPerOne]
  · rw [roundUnits_magnitude hfinite, ofParts_lowBits]

/-! ## The shortest decimal -/

theorem onGrid_roundsTo {exponent : Int} (h : onGrid x exponent = some d) :
    d.roundsTo x = true := by
  unfold onGrid at h
  dsimp only at h
  grind

theorem firstOnGrid_roundsTo {exponent : Int} {tries : Nat}
    (h : firstOnGrid x exponent tries = some d) : d.roundsTo x = true := by
  induction tries generalizing exponent with
  | zero => simp [firstOnGrid] at h
  | succ tries ih =>
    rw [firstOnGrid, Option.or_eq_some_iff] at h
    rcases h with h | ⟨-, h⟩
    · exact onGrid_roundsTo h
    · exact ih h

theorem shortest_roundsTo (hfinite : x.isFinite = true) (hzero : x.isZero = false) :
    ofDecimal x.isNegative x.shortest.significand x.shortest.exponent = x := by
  unfold shortest
  cases h : firstOnGrid x (decimalPlaces x.magnitude unitsPerOne) 18 with
  | none => exact ofDecimal_exact hfinite hzero
  | some d => simpa [Decimal.roundsTo] using firstOnGrid_roundsTo h

/-! ## Reading digits -/

variable {negative : Bool} {whole tail : List Char}

theorem unsigned?_whole {e : Int} (hne : whole ≠ []) (hwhole : ∀ c ∈ whole, isDigit c = true)
    (htail : Stops isDigit tail) (hpoint : ∀ cs, tail ≠ '.' :: cs)
    (hexponent : exponent? tail = some e) :
    unsigned? negative (whole ++ tail) = some (ofDecimal negative (digitsValue whole) e) := by
  rw [unsigned?, takeWhile_of_stops hwhole htail, dropWhile_of_stops hwhole htail]
  simp [hne, hexponent]

theorem unsigned?_point (whole fraction : List Char) {e : Int} (hne : whole ≠ [])
    (hwhole : ∀ c ∈ whole, isDigit c = true)
    (hfraction : ∀ c ∈ fraction, isDigit c = true) (htail : Stops isDigit tail)
    (hexponent : exponent? tail = some e) :
    unsigned? negative (whole ++ '.' :: (fraction ++ tail)) =
      some (ofDecimal negative (digitsValue (whole ++ fraction)) (e - fraction.length)) := by
  have hpoint : Stops isDigit ('.' :: (fraction ++ tail)) := .cons rfl
  rw [unsigned?, takeWhile_of_stops hwhole hpoint, dropWhile_of_stops hwhole hpoint]
  simp only [takeWhile_of_stops hfraction htail, dropWhile_of_stops hfraction htail]
  simp [hne, hexponent]

theorem unsigned?_fixed (whole fraction : List Char) (hne : whole ≠ [])
    (hwhole : ∀ c ∈ whole, isDigit c = true)
    (hfraction : ∀ c ∈ fraction, isDigit c = true) :
    unsigned? negative (whole ++ '.' :: fraction) =
      some (ofDecimal negative (digitsValue (whole ++ fraction)) (-fraction.length)) := by
  have h := @unsigned?_point negative [] whole fraction 0 hne hwhole hfraction .nil rfl
  rwa [List.append_nil, Int.zero_sub] at h

theorem exponent?_digits (n : Nat) :
    exponent? ('e' :: '-' :: digits n) = some (-(n : Int)) ∧
      exponent? ('e' :: '+' :: digits n) = some (n : Int) := by
  have hne := Text.digits_ne_nil n
  have hall : (digits n).all isDigit = true :=
    List.all_eq_true.mpr fun c hc => Text.isDigit_digits hc
  constructor <;> simp [exponent?, hne, hall, Text.digitsValue_digits]

theorem exponent?_signed (e : Int) :
    exponent? ('e' :: (if e < 0 then '-' else '+') :: digits e.natAbs) = some e := by
  obtain ⟨hminus, hplus⟩ := exponent?_digits e.natAbs
  split
  · rw [hminus]
    congr 1
    omega
  · rw [hplus]
    congr 1
    omega

/-! ## The four forms of a decimal -/

/-- Zeros at the end of the significand stand for its exponent. -/
theorem ofDecimal_mul_pow (n k : Nat) :
    ofDecimal negative (n * 10 ^ (k + 1)) (-1) = ofDecimal negative n k := by
  rcases Nat.eq_zero_or_pos n with rfl | hpos
  · simp [ofDecimal]
  have hne : n ≠ 0 := Nat.ne_of_gt hpos
  have hmul : n * 10 ^ (k + 1) ≠ 0 := Nat.mul_ne_zero hne (Nat.ne_of_gt (Nat.pow_pos (by decide)))
  have hlength : (digits (n * 10 ^ (k + 1))).length = (digits n).length + (k + 1) := by
    rw [Text.digits_mul_pow hne, List.length_append, List.length_replicate]
  have hplaces : ((digits n).length + (k + 1) : Nat) + (-1 : Int) = (digits n).length + k := by
    omega
  have hratio : ofRatio negative (n * 10 ^ (k + 1)) (Nat.pow 10 (- -1 : Int).toNat) =
      ofRatio negative (n * Nat.pow 10 k) 1 := by
    have h := @ofRatio_mul_right (n * 10 ^ k) 1 10 negative (by decide)
    rwa [Nat.mul_assoc, ← pow_succ] at h
  simp only [ofDecimal, hlength, hplaces, hne, hmul, false_or, hratio, Int.toNat_natCast]
  rw [if_neg (by omega : ¬ (0 : Int) ≤ -1), if_pos (by omega : (0 : Int) ≤ k)]

theorem isDigit_zeros (k : Nat) : ∀ c ∈ List.replicate k '0', isDigit c = true := by
  intro c hc
  rw [List.eq_of_mem_replicate hc]
  rfl

section Forms

variable {ds : List Char}

/-- A digit, a point before the others if there are any, and the exponent. -/
theorem unsigned?_scientific (hne : ds ≠ []) (hall : ∀ c ∈ ds, isDigit c = true) (e : Int) :
    unsigned? negative (ds.take 1 ++ (if ds.length = 1 then [] else '.' :: ds.tail) ++
        ['e', if e < 0 then '-' else '+'] ++ digits e.natAbs) =
      some (ofDecimal negative (digitsValue ds) (e - (ds.length - 1 : Int))) := by
  have hexponent := exponent?_signed e
  have hhead : Stops isDigit ('e' :: (if e < 0 then '-' else '+') :: digits e.natAbs) := .cons rfl
  obtain ⟨c, cs, rfl⟩ := List.exists_cons_of_ne_nil hne
  cases cs with
  | nil =>
    have h := @unsigned?_whole negative _ _ e hne hall hhead (by simp) hexponent
    simpa using h
  | cons c' cs =>
    have h := @unsigned?_point negative _ [c] (c' :: cs) e (by simp) (by simp_all)
      (by simp_all) hhead hexponent
    simpa using h

theorem unsigned?_zeros_before (hall : ∀ c ∈ ds, isDigit c = true) (k : Nat) :
    unsigned? negative (['0', '.'] ++ List.replicate k '0' ++ ds) =
      some (ofDecimal negative (digitsValue ds) (-(k + ds.length : Nat))) := by
  have h := @unsigned?_fixed negative ['0'] (List.replicate k '0' ++ ds) (by simp)
    (isDigit_zeros 1) (fun c hc => (List.mem_append.mp hc).elim (isDigit_zeros k c) (hall c))
  have hvalue : digitsValue (['0'] ++ (List.replicate k '0' ++ ds)) = digitsValue ds := by
    rw [← List.append_assoc, Text.digitsValue_append, List.singleton_append,
      ← List.replicate_succ, Text.digitsValue_zeros, Nat.zero_mul, Nat.zero_add]
  rw [hvalue, List.length_append, List.length_replicate] at h
  simpa using h

theorem unsigned?_zeros_behind (hne : ds ≠ []) (hall : ∀ c ∈ ds, isDigit c = true) (k : Nat) :
    unsigned? negative (ds ++ List.replicate k '0' ++ ['.', '0']) =
      some (ofDecimal negative (digitsValue ds) k) := by
  have h := @unsigned?_fixed negative (ds ++ List.replicate k '0') ['0'] (by simp [hne])
    (fun c hc => (List.mem_append.mp hc).elim (hall c) (isDigit_zeros k c)) (isDigit_zeros 1)
  rw [List.append_assoc ds _ ['0'], ← List.replicate_succ', Text.digitsValue_append_zeros] at h
  rw [← ofDecimal_mul_pow]
  simpa using h

theorem unsigned?_between (hall : ∀ c ∈ ds, isDigit c = true) {k : Nat} (hk : 0 < k)
    (hlt : k < ds.length) : unsigned? negative (ds.take k ++ ['.'] ++ ds.drop k) =
      some (ofDecimal negative (digitsValue ds) (-(ds.length - k : Nat))) := by
  have hne : ds.take k ≠ [] := by
    rw [← List.length_pos_iff, List.length_take]
    omega
  have h := @unsigned?_fixed negative (ds.take k) (ds.drop k) hne
    (fun c hc => hall c (List.mem_of_mem_take hc)) (fun c hc => hall c (List.mem_of_mem_drop hc))
  rw [List.take_append_drop, List.length_drop] at h
  simpa using h

end Forms

/-- The text of a decimal is read as that decimal. -/
theorem unsigned?_render (d : Decimal) :
    unsigned? negative d.render = some (ofDecimal negative d.significand d.exponent) := by
  have hne : digits d.significand ≠ [] := Text.digits_ne_nil _
  have hall : ∀ c ∈ digits d.significand, isDigit c = true := fun _ => Text.isDigit_digits
  have hvalue := Text.digitsValue_digits d.significand
  unfold Decimal.render
  generalize digits d.significand = ds at *
  have hpos : 0 < ds.length := List.length_pos_iff.mpr hne
  dsimp only
  split
  · rw [unsigned?_scientific hne hall, hvalue]
    congr 2
    omega
  split
  · rw [unsigned?_zeros_before hall, hvalue]
    congr 2
    omega
  split
  · rw [unsigned?_zeros_behind hne hall, hvalue]
    congr 2
    omega
  · rw [unsigned?_between hall (by omega) (by omega), hvalue]
    congr 2
    omega

/-! ## Texts of numbers -/

theorem digit_bounds {c : Char} (h : isDigit c = true) : 0x30 ≤ c.toNat ∧ c.toNat ≤ 0x39 := by
  unfold isDigit Text.digit? at h
  split at h
  · rename_i hc
    exact hc
  · simp at h

theorem toLower_digit {c : Char} (h : isDigit c = true) : c.toLower = c := by
  have hbounds := digit_bounds h
  delta Char.toLower
  rw [dif_neg]
  simp only [UInt32.le_iff_toNat_le, ge_iff_le]
  simp
  omega

/-- Neither infinity nor NaN has a name that begins with a digit. -/
theorem named?_digit {c : Char} {cs : List Char} (h : isDigit c = true) :
    named? negative (c :: cs) = none := by
  have hne (name : String) (hname : name.toList.head?.any isDigit = false) :
      String.ofList ((c :: cs).map Char.toLower) ≠ name := by
    rintro rfl
    simp [toLower_digit h, h] at hname
  unfold named?
  dsimp only
  rw [if_neg (not_or.mpr ⟨hne "inf" (by decide), hne "infinity" (by decide)⟩),
    if_neg (hne "nan" (by decide))]

/-- A character that texts of numbers are made of. -/
def isNumberChar (c : Char) : Bool := isDigit c || ['-', '+', '.', 'e'].contains c

/-- Begins with a digit, is made of the characters of numbers, and has a point or an exponent. -/
structure IsRealText (cs : List Char) : Prop where
  head : ∃ c ∈ cs.head?, isDigit c = true
  chars : ∀ c ∈ cs, isNumberChar c = true
  mark : '.' ∈ cs ∨ 'e' ∈ cs

theorem isNumberChar_digit {c : Char} (h : isDigit c = true) : isNumberChar c = true := by
  rw [isNumberChar, h, Bool.true_or]

theorem isRealText_render (d : Decimal) : IsRealText d.render := by
  have hnumber (n : Nat) : ∀ c ∈ digits n, isNumberChar c = true :=
    fun _ hc => isNumberChar_digit (Text.isDigit_digits hc)
  have hzeros (k : Nat) : ∀ c ∈ List.replicate k '0', isNumberChar c = true :=
    fun c hc => isNumberChar_digit (isDigit_zeros k c hc)
  have hdigits := hnumber d.significand
  obtain ⟨c, cs, hcs⟩ := List.exists_cons_of_ne_nil (Text.digits_ne_nil d.significand)
  have hc : isDigit c = true := Text.isDigit_digits (n := d.significand) (by simp [hcs])
  unfold Decimal.render
  rw [hcs] at hdigits ⊢
  dsimp only
  split
  · refine ⟨⟨c, by simp, hc⟩, ?_, .inr (by simp)⟩
    have htail : ∀ x ∈ (if (c :: cs).length = 1 then [] else '.' :: cs), isNumberChar x = true := by
      split
      · simp
      · exact List.forall_mem_cons.mpr ⟨rfl, fun x hx => hdigits x (by simp [hx])⟩
    have hsign (e : Int) : ∀ x ∈ ['e', if e < 0 then '-' else '+'], isNumberChar x = true := by
      split <;> exact List.all_eq_true.mp rfl
    simp only [List.forall_mem_append]
    exact ⟨⟨⟨fun x hx => hdigits x (List.mem_of_mem_take hx), htail⟩, hsign _⟩, hnumber _⟩
  split
  · refine ⟨⟨'0', by simp, rfl⟩, ?_, .inl (by simp)⟩
    simp only [List.forall_mem_append]
    exact ⟨⟨List.all_eq_true.mp rfl, hzeros _⟩, hdigits⟩
  split
  · refine ⟨⟨c, by simp, hc⟩, ?_, .inl (by simp)⟩
    simp only [List.forall_mem_append]
    exact ⟨⟨hdigits, hzeros _⟩, List.all_eq_true.mp rfl⟩
  · rename_i hpoint _
    refine ⟨⟨c, ?_, hc⟩, ?_, .inl (by simp)⟩
    · rw [show ((c :: cs).length + d.exponent : Int).toNat =
        ((c :: cs).length + d.exponent : Int).toNat - 1 + 1 by omega]
      simp
    · simp only [List.forall_mem_append]
      exact ⟨⟨fun x hx => hdigits x (List.mem_of_mem_take hx), List.all_eq_true.mp rfl⟩,
        fun x hx => hdigits x (List.mem_of_mem_drop hx)⟩

/-- The text of a finite number without its sign. -/
def unsignedText (x : Binary64) : List Char :=
  if x.isZero then ['0', '.', '0'] else x.shortest.render

theorem isRealText_unsignedText (x : Binary64) : IsRealText x.unsignedText := by
  unfold unsignedText
  split
  · exact ⟨⟨'0', rfl, rfl⟩, List.all_eq_true.mp rfl, .inl (by decide)⟩
  · exact isRealText_render _

theorem unsigned?_unsignedText (h : x.isFinite = true) :
    unsigned? x.isNegative x.unsignedText = some x := by
  have hzero : unsigned? x.isNegative ['0', '.', '0'] = some (ofDecimal x.isNegative 0 (-1)) := rfl
  unfold unsignedText
  split
  · rename_i hx
    rw [hzero, ofDecimal, if_pos (Or.inl rfl), ofParts_zero hx]
  · rename_i hx
    rw [unsigned?_render, shortest_roundsTo h (Bool.eq_false_of_not_eq_true hx)]

theorem render_eq (x : Binary64) :
    x.render = if x.isNegative then '-' :: x.unsignedText else x.unsignedText := rfl

section Signs

variable {s : String} {c : Char} {cs : List Char}

theorem ofText?_of_digit (hs : s.toList = c :: cs) (hc : isDigit c = true) :
    ofText? s = unsigned? false (c :: cs) := by
  have hminus : c ≠ '-' := by
    rintro rfl
    cases hc
  have hplus : c ≠ '+' := by
    rintro rfl
    cases hc
  rw [ofText?, hs]
  simp [hminus, hplus, named?_digit hc]

theorem ofText?_of_minus (hs : s.toList = '-' :: c :: cs) (hc : isDigit c = true) :
    ofText? s = unsigned? true (c :: cs) := by
  rw [ofText?, hs]
  simp only [named?_digit hc, Option.none_or]

theorem ofText?_of_plus (hs : s.toList = '+' :: c :: cs) (hc : isDigit c = true) :
    ofText? s = unsigned? false (c :: cs) := by
  rw [ofText?, hs]
  simp only [named?_digit hc, Option.none_or]

end Signs

/-- The text of every finite number is read as that number. -/
theorem ofText?_render (h : x.isFinite = true) : ofText? (String.ofList x.render) = some x := by
  have htext := unsigned?_unsignedText h
  have hrender := x.render_eq
  obtain ⟨⟨c, hhead, hc⟩, -, -⟩ := isRealText_unsignedText x
  obtain ⟨cs, hcs⟩ := List.head?_eq_some_iff.mp hhead
  rw [hcs] at htext hrender
  rw [← String.toList_ofList (l := x.render)] at hrender
  cases hsign : x.isNegative with
  | true =>
    rw [hsign] at htext hrender
    rw [ofText?_of_minus hrender hc, htext]
  | false =>
    rw [hsign] at htext hrender
    rw [ofText?_of_digit hrender hc, htext]

/-- No two finite numbers have one text. -/
theorem render_inj {y : Binary64} (hx : x.isFinite = true) (hy : y.isFinite = true)
    (h : x.render = y.render) : x = y := by
  have htext := ofText?_render hx
  rw [h, ofText?_render hy] at htext
  exact (Option.some.inj htext).symm

end UplinkFlow.Binary64
