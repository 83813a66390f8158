import UplinkFlow.Binary64.FreeForm
import UplinkFlow.Json.Basic

/-!
# The value of a number's text

`Number.ofLexeme?` gives the value of a text that follows the grammar of JSON numbers, or `none`
when it lies beyond the double-precision range.

An integer of at most 64 bits keeps its exact value; `-0` and every other text denote a
double-precision number.  That number is computed in two roundings: as many leading digits as fit
64 bits form the significand, which is then multiplied or divided by the power of ten.  The result
can differ in the last place from the nearest number.
-/

set_option autoImplicit false

namespace UplinkFlow.Number

open Binary64

/-- Appends digits to a significand as long as it fits 64 bits; the second component counts the
digits that were taken. -/
def gather (significand : Nat) : List Char → Nat × Nat
  | [] => (significand, 0)
  | c :: cs =>
    let next := significand * 10 + (Text.digit? c).getD 0
    if next ≤ Text.maxWord then
      let (all, taken) := gather next cs
      (all, taken + 1)
    else (significand, 0)

/-- The largest exponent of a power of ten that is a finite number. -/
def maxTen : Nat := 308

/-- The number nearest to a power of ten. -/
def powerOfTen (e : Nat) : Binary64 := ofDecimal false 1 e

/-- A number divided by a power of ten, in steps of the largest one. -/
def scaleDown (x : Binary64) (e : Nat) : Binary64 :=
  if e ≤ maxTen then x.div (powerOfTen e)
  else if x.isZero then x
  else scaleDown (x.div (powerOfTen maxTen)) (e - maxTen)
termination_by e
decreasing_by simp only [maxTen] at *; omega

/-- A number times a power of ten, unless the product is not finite. -/
def scale? (x : Binary64) (e : Int) : Option Binary64 :=
  if e < 0 then some (scaleDown x e.natAbs)
  else if e.natAbs ≤ maxTen then
    let product := x.mul (powerOfTen e.natAbs)
    if product.isFinite then some product else none
  else if x.isZero then some x
  else none

/-- The value of a number with a sign, whole digits, fraction digits and an exponent. -/
def ofParts? (negative : Bool) (whole fraction : List Char) (e : Int) : Option Number :=
  let (head, takenWhole) := gather 0 whole
  let (significand, takenFraction) := gather head fraction
  let exponent := (whole.length - takenWhole : Nat) - (takenFraction : Int) + e
  (scale? (ofInt significand) exponent).bind fun x =>
    let y := if negative then x.neg else x
    if h : y.isFinite = true then some (.real y h) else none

/-- The value of an integer that fits 64 bits. -/
def ofInteger? (negative : Bool) (whole : List Char) : Option Number :=
  let n : Int := digitsValue whole
  if negative then
    if h : 0 < n ∧ n ≤ 0x8000000000000000 then some (.whole (-n) (by omega)) else none
  else
    if h : 0 ≤ n ∧ n < 0x10000000000000000 then some (.whole n (by omega)) else none

/-- The value of a number's text. -/
def ofLexeme? (cs : List Char) : Option Number :=
  let (negative, cs) := match cs with
    | '-' :: rest => (true, rest)
    | _ => (false, cs)
  let whole := cs.takeWhile isDigit
  match cs.dropWhile isDigit with
  | [] => (ofInteger? negative whole).or (ofParts? negative whole [] 0)
  | '.' :: rest =>
    (exponent? (rest.dropWhile isDigit)).bind (ofParts? negative whole (rest.takeWhile isDigit))
  | rest => (exponent? rest).bind (ofParts? negative whole [])

end UplinkFlow.Number
