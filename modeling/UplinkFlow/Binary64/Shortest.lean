import UplinkFlow.Binary64.Basic
import UplinkFlow.Text.Decimal

/-!
# The shortest decimal of a double-precision number

* `shortest` — the significant digits and the decimal exponent of the shortest decimal that rounds
  to a given finite number; of several, the nearest, and of two equally near ones the even one.
* `render` — its text: positional from `1e-5` up to sixteen whole digits, else with an exponent.
-/

set_option autoImplicit false

namespace UplinkFlow.Binary64

/-- The decimal number `significand * 10 ^ exponent`. -/
structure Decimal where
  significand : Nat
  exponent : Int
deriving DecidableEq, Repr

/-- Whether the decimal rounds to the absolute value of a number. -/
def Decimal.roundsTo (d : Decimal) (x : Binary64) : Bool :=
  (ofDecimal x.isNegative d.significand d.exponent) == x

/-- The number of decimal digits before the point of `n / d`, negative for zeros after it: the
least `e` with `n / d < 10 ^ e`. -/
def decimalPlaces (n d : Nat) : Int :=
  if d ≤ n then ((Text.digits (n / d)).length : Int)
  else 1 - ((Text.digits ((d - 1) / n)).length : Int)

/-- The distance between `significand * scale` and `n`, both counted in the same unit. -/
def gap (significand scale n : Nat) : Nat :=
  (significand * scale - n) + (n - significand * scale)

/-- The decimal with the given exponent next to a number that rounds to it, if there is one. -/
def onGrid (x : Binary64) (exponent : Int) : Option Decimal :=
  let n := x.magnitude * Nat.pow 10 (-exponent).toNat
  let scale := unitsPerOne * Nat.pow 10 exponent.toNat
  let below : Decimal := ⟨n / scale, exponent⟩
  let above : Decimal := ⟨n / scale + 1, exponent⟩
  match below.roundsTo x, above.roundsTo x with
  | true, false => some below
  | false, true => some above
  | false, false => none
  | true, true =>
    let low := gap below.significand scale n
    let high := gap above.significand scale n
    if low < high then some below
    else if high < low then some above
    else if below.significand % 2 = 0 then some below else some above

/-- The first hit on the grids that are finer by one digit each, beginning with the given one. -/
def firstOnGrid (x : Binary64) (exponent : Int) : Nat → Option Decimal
  | 0 => none
  | tries + 1 => (onGrid x exponent).or (firstOnGrid x (exponent - 1) tries)

/-- The exact value of a finite number as a decimal. -/
def exact (x : Binary64) : Decimal := ⟨x.magnitude * Nat.pow 5 1074, -1074⟩

/-- The shortest decimal that rounds to a finite number other than zero.  The first grid holds the
next larger power of ten; seventeen digits are always enough after it, and the exact value stands
behind them. -/
def shortest (x : Binary64) : Decimal :=
  (firstOnGrid x (decimalPlaces x.magnitude unitsPerOne) 18).getD x.exact

/-- The least exponent of ten, in scientific notation, that is written positionally. -/
def leastPositional : Int := -5

/-- The least exponent of ten that is too large for positional notation. -/
def leastScientific : Int := 16

/-- The digits and the exponent of a decimal as text. -/
def Decimal.render (d : Decimal) : List Char :=
  let ds := Text.digits d.significand
  let point := (ds.length : Int) + d.exponent
  let scientific := point - 1
  if scientific < leastPositional ∨ leastScientific ≤ scientific then
    let tail := if ds.length = 1 then [] else '.' :: ds.tail
    let sign := if scientific < 0 then '-' else '+'
    ds.take 1 ++ tail ++ ['e', sign] ++ Text.digits scientific.natAbs
  else if point ≤ 0 then
    ['0', '.'] ++ List.replicate (-point).toNat '0' ++ ds
  else if (ds.length : Int) ≤ point then
    ds ++ List.replicate (point - ds.length).toNat '0' ++ ['.', '0']
  else
    ds.take point.toNat ++ ['.'] ++ ds.drop point.toNat

/-- The text of a finite number. -/
def render (x : Binary64) : List Char :=
  let text := if x.isZero then ['0', '.', '0'] else x.shortest.render
  if x.isNegative then '-' :: text else text

end UplinkFlow.Binary64
