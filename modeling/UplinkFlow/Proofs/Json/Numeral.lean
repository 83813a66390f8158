import UplinkFlow.Proofs.Json.Compact

/-!
# Scanning the text of a number

* `NumberPart.walk`, `IsNumeral` — the grammar of numbers without a sign, as the scanner follows it.
* `Number.isNumeral_unsignedText` — the text of every number follows it.
* `run_number` — **a scanner that has read the text of a number, and meets nothing that goes on as a
  number, has found what the text denotes** and is between tokens again.
-/

set_option autoImplicit false

namespace UplinkFlow

open Binary64 (isDigit)
open Text (Stops)

namespace Json

/-! ## The grammar -/

namespace NumberPart

/-- The part of a number in which a text ends that begins behind the given part. -/
def walk : NumberPart → List Char → Option NumberPart
  | part, [] => some part
  | part, c :: cs => (part.next? c).bind fun next => next.walk cs

theorem walk_append (part : NumberPart) (cs ds : List Char) :
    part.walk (cs ++ ds) = (part.walk cs).bind fun next => next.walk ds := by
  induction cs generalizing part with
  | nil => rfl
  | cons c cs ih =>
    rw [List.cons_append, walk, walk]
    cases part.next? c with
    | none => rfl
    | some next => exact ih next

/-- Digits stay in one part, apart from the first one, which may lead into it. -/
theorem walk_run {first part : NumberPart} {cs : List Char} (hall : ∀ c ∈ cs, isDigit c = true)
    (hfirst : ∀ c, isDigit c = true → first.next? c = some part)
    (hpart : ∀ c, isDigit c = true → part.next? c = some part)
    (hne : cs ≠ [] ∨ first = part) : first.walk cs = some part := by
  induction cs generalizing first with
  | nil =>
    rcases hne with hne | rfl
    · exact absurd rfl hne
    · rfl
  | cons c cs ih =>
    obtain ⟨hc, hcs⟩ := List.forall_mem_cons.mp hall
    rw [walk, hfirst c hc, Option.bind_some, ih hcs hpart (.inr rfl)]

variable {cs : List Char} (hall : ∀ c ∈ cs, isDigit c = true)

include hall

theorem walk_whole : whole.walk cs = some whole :=
  walk_run hall (fun c hc => by simp [next?, hc]) (fun c hc => by simp [next?, hc]) (.inr rfl)

theorem walk_point (hne : cs ≠ []) : point.walk cs = some fraction :=
  walk_run hall (fun c hc => by simp [next?, hc]) (fun c hc => by simp [next?, hc]) (.inl hne)

theorem walk_exponentSign (hne : cs ≠ []) : exponentSign.walk cs = some exponent :=
  walk_run hall (fun c hc => by simp [next?, hc]) (fun c hc => by simp [next?, hc]) (.inl hne)

theorem walk_sign {c : Char} (hhead : cs.head? = some c) (hzero : c ≠ '0') :
    sign.walk cs = some whole := by
  obtain ⟨rest, rfl⟩ := List.head?_eq_some_iff.mp hhead
  obtain ⟨hc, hrest⟩ := List.forall_mem_cons.mp hall
  rw [walk, show sign.next? c = some whole by simp [next?, hc, hzero], Option.bind_some,
    walk_whole hrest]

end NumberPart

/-- A number without a sign, as the scanner takes it. -/
def IsNumeral (cs : List Char) : Prop :=
  ∃ part, NumberPart.sign.walk cs = some part ∧ part.isComplete = true

end Json

/-! ## The texts of numbers -/

theorem Text.digits_head_ne_zero {n : Nat} (hn : n ≠ 0) :
    ∃ c, (Text.digits n).head? = some c ∧ c ≠ '0' := by
  rw [Text.digits]
  split
  · rename_i hlt
    have hdigit : ∀ d < 10, d ≠ 0 → Text.digitChar d ≠ '0' := by decide
    exact ⟨_, rfl, hdigit n hlt hn⟩
  · obtain ⟨c, hhead, hc⟩ := Text.digits_head_ne_zero (n := n / 10) (by omega)
    exact ⟨c, by rw [List.head?_append, hhead, Option.some_or], hc⟩
termination_by n
decreasing_by omega

open Json (IsNumeral NumberPart)

theorem Text.isNumeral_digits (n : Nat) : IsNumeral (Text.digits n) := by
  by_cases hn : n = 0
  · subst hn
    have hzero : Text.digits 0 = ['0'] := by
      rw [Text.digits]
      rfl
    exact ⟨.zero, by rw [hzero]; rfl, rfl⟩
  · obtain ⟨c, hhead, hc⟩ := Text.digits_head_ne_zero hn
    exact ⟨.whole, NumberPart.walk_sign (fun _ => Text.isDigit_digits) hhead hc, rfl⟩

namespace Binary64

variable {ds : List Char} {c : Char}

/-- A significand with a point behind its first digit, if there are more, and an exponent. -/
theorem isNumeral_scientific (hall : ∀ c ∈ ds, isDigit c = true) (hhead : ds.head? = some c)
    (hc : c ≠ '0') (e : Int) : IsNumeral (ds.take 1 ++
      (if ds.length = 1 then [] else '.' :: ds.tail) ++ ['e', if e < 0 then '-' else '+'] ++ Text.digits e.natAbs) := by
  obtain ⟨rest, rfl⟩ := List.head?_eq_some_iff.mp hhead
  obtain ⟨hdigit, hrest⟩ := List.forall_mem_cons.mp hall
  have hfirst : NumberPart.sign.walk [c] = some .whole :=
    NumberPart.walk_sign (List.forall_mem_singleton.mpr hdigit) rfl hc
  have hmark : ∀ part : NumberPart, part = .whole ∨ part = .fraction →
      part.walk ['e', if e < 0 then '-' else '+'] = some .exponentSign := by
    rintro part (rfl | rfl) <;> split <;> rfl
  have hexponent := NumberPart.walk_exponentSign (fun _ => Text.isDigit_digits (n := e.natAbs))
    (Text.digits_ne_nil e.natAbs)
  refine ⟨.exponent, ?_, rfl⟩
  rw [NumberPart.walk_append, NumberPart.walk_append, NumberPart.walk_append,
    show (c :: rest).take 1 = [c] from rfl, hfirst, Option.bind_some]
  cases rest with
  | nil =>
    rw [if_pos (by simp), NumberPart.walk, Option.bind_some, hmark _ (.inl rfl), Option.bind_some,
      hexponent]
  | cons d rest =>
    have hpoint : NumberPart.whole.walk ('.' :: d :: rest) = some .fraction :=
      NumberPart.walk_point hrest (by simp)
    rw [if_neg (by simp), List.tail_cons, hpoint, Option.bind_some, hmark _ (.inr rfl),
      Option.bind_some, hexponent]

theorem isNumeral_point {before behind : List Char} (hbefore : ∀ c ∈ before, isDigit c = true)
    (hhead : before.head? = some c) (hc : c ≠ '0' ∨ before = ['0'])
    (hbehind : ∀ c ∈ behind, isDigit c = true) (hne : behind ≠ []) :
    IsNumeral (before ++ '.' :: behind) := by
  refine ⟨.fraction, ?_, rfl⟩
  rw [NumberPart.walk_append]
  rcases hc with hc | rfl
  · rw [NumberPart.walk_sign hbefore hhead hc]
    exact NumberPart.walk_point hbehind hne
  · exact NumberPart.walk_point hbehind hne

theorem isNumeral_render {d : Decimal} (h : d.significand ≠ 0) : IsNumeral d.render := by
  obtain ⟨c, hhead, hc⟩ := Text.digits_head_ne_zero h
  have hall : ∀ c ∈ Text.digits d.significand, isDigit c = true := fun _ => Text.isDigit_digits
  have hne := Text.digits_ne_nil d.significand
  unfold Decimal.render
  generalize Text.digits d.significand = ds at hhead hall hne
  dsimp only
  split
  · have h := isNumeral_scientific hall hhead hc (ds.length + d.exponent - 1)
    simpa only [List.append_assoc] using h
  split
  · have hzeros : ∀ c ∈ List.replicate (-(ds.length + d.exponent)).toNat '0' ++ ds,
        isDigit c = true := List.forall_mem_append.mpr ⟨isDigit_zeros _, hall⟩
    have hzero : ∀ c ∈ ['0'], isDigit c = true := List.forall_mem_singleton.mpr rfl
    have h := isNumeral_point hzero rfl (.inr rfl) hzeros (by simp [hne])
    simpa using h
  split
  · have hzeros : ∀ c ∈ ds ++ List.replicate (ds.length + d.exponent - ds.length).toNat '0',
        isDigit c = true := List.forall_mem_append.mpr ⟨hall, isDigit_zeros _⟩
    exact isNumeral_point hzeros (by rw [List.head?_append, hhead, Option.some_or]) (.inl hc)
      (List.forall_mem_singleton.mpr rfl) (by simp)
  · rename_i hpositive hinside
    have htake : (ds.take (ds.length + d.exponent).toNat).head? = some c := by
      rw [List.head?_take, if_neg (by omega), hhead]
    have hdrop : ds.drop (ds.length + d.exponent).toNat ≠ [] := by
      rw [Ne, List.drop_eq_nil_iff]
      omega
    have h := isNumeral_point (fun x hx => hall x (List.mem_of_mem_take hx)) htake (.inl hc)
      (fun x hx => hall x (List.mem_of_mem_drop hx)) hdrop
    simpa using h

theorem isNumeral_unsignedText {x : Binary64} (h : x.isFinite = true) :
    IsNumeral x.unsignedText := by
  unfold unsignedText
  split
  · exact ⟨.fraction, rfl, rfl⟩
  · rename_i hzero
    refine isNumeral_render fun hsignificand => hzero ?_
    -- a significand of zero would round to zero
    have hrounds := shortest_roundsTo h (Bool.eq_false_of_not_eq_true hzero)
    rw [hsignificand, ofDecimal, if_pos (.inl rfl)] at hrounds
    rw [← hrounds]
    cases x.isNegative <;> decide +kernel

end Binary64

/-- The text of every number follows the grammar behind its sign. -/
theorem Number.isNumeral_unsignedText (n : Number) : IsNumeral n.unsignedText := by
  cases n with
  | whole n _ => exact Text.isNumeral_digits n.natAbs
  | real x hx => exact Binary64.isNumeral_unsignedText hx

/-! ## Scanning -/

namespace Json

/-- Whether a character can go on with a number. -/
def goesOn (c : Char) : Bool := isDigit c || ['.', 'e', 'E', '+', '-'].contains c

theorem NumberPart.next?_eq_none {c : Char} (h : goesOn c = false) (part : NumberPart) :
    part.next? c = none := by
  simp only [goesOn, Bool.or_eq_false_iff, List.contains_eq_mem, decide_eq_false_iff_not,
    List.mem_cons, List.not_mem_nil, or_false, not_or] at h
  simp [next?, h]

theorem run_walk {part last : NumberPart} {cs reversed rest : List Char}
    (h : part.walk cs = some last) :
    (Scan.number part reversed).run (cs ++ rest) =
      (Scan.number last (cs.reverse ++ reversed)).run rest := by
  induction cs generalizing part reversed with
  | nil =>
    obtain rfl := Option.some.inj h
    rfl
  | cons c cs ih =>
    obtain ⟨next, hnext, hwalk⟩ := Option.bind_eq_some_iff.mp h
    have hstep : (Scan.number part reversed).step c = (.number next (c :: reversed), []) := by
      simp only [Scan.step, hnext]
    rw [List.cons_append, Scan.run, hstep]
    simp only [List.nil_append, ih hwalk, List.reverse_cons, List.append_assoc,
      List.singleton_append]

theorem run_complete {part : NumberPart} {reversed rest : List Char}
    (hpart : part.isComplete = true) (hrest : Stops goesOn rest) : (Scan.number part reversed).run rest =
      .num (Number.ofLexeme? reversed.reverse) :: Scan.between.run rest := by
  cases rest with
  | nil => simp [Scan.run, Scan.finish, hpart]
  | cons c rest =>
    have hc : goesOn c = false := hrest c rfl
    have hdigit : isDigit c = false := (Bool.or_eq_false_iff.mp hc).1
    simp only [Scan.run, Scan.step, NumberPart.next?_eq_none hc, hpart, hdigit, Bool.and_false,
      Bool.not_false, Bool.and_self, if_true, List.cons_append]

theorem start_digit {c : Char} (hc : isDigit c = true) {next : NumberPart}
    (hnext : NumberPart.sign.next? c = some next) : Scan.start c = (.number next [c], []) := by
  have hne : ∀ x, isDigit x = false → c ≠ x := by
    rintro x hx rfl
    rw [hc] at hx
    cases hx
  simp [Scan.start, isSpace, hnext, hne ' ' rfl, hne '\n' rfl, hne '\t' rfl, hne '\r' rfl,
    hne '[' rfl, hne ']' rfl, hne '\x7b' rfl, hne '\x7d' rfl, hne ',' rfl, hne ':' rfl, hne '"' rfl,
    hne 'n' rfl, hne 't' rfl, hne 'f' rfl, hne '-' rfl]

/-- A scanner that has read the text of a number has found what the text denotes. -/
theorem run_number (n : Number) {rest : List Char} (hrest : Stops goesOn rest) :
    Scan.between.run (n.chars ++ rest) =
      .num (Number.ofLexeme? n.chars) :: Scan.between.run rest := by
  obtain ⟨last, hwalk, hlast⟩ := n.isNumeral_unsignedText
  have hnumber : ∀ reversed, (Scan.number .sign reversed).run (n.unsignedText ++ rest) =
      .num (Number.ofLexeme? (reversed.reverse ++ n.unsignedText)) :: Scan.between.run rest := by
    intro reversed
    rw [run_walk hwalk, run_complete hlast hrest, List.reverse_append, List.reverse_reverse]
  obtain ⟨c, cs, hcs, hc⟩ := n.exists_head
  rw [Number.chars_eq]
  split
  · exact hnumber ['-']
  · have hbegin : Scan.between.run (n.unsignedText ++ rest) =
        (Scan.number .sign []).run (n.unsignedText ++ rest) := by
      rw [hcs] at hwalk ⊢
      obtain ⟨next, hnext, -⟩ := Option.bind_eq_some_iff.mp hwalk
      simp only [List.cons_append, Scan.run, Scan.step, start_digit hc hnext, hnext]
    rw [hbegin]
    exact hnumber []

end Json

end UplinkFlow
