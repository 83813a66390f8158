import UplinkFlow.Binary64.Basic

/-!
# Double-precision numbers in free-form decimal text

`ofText?` reads an optional sign and then either a name of infinity or NaN in any case, or digits
with an optional point and exponent; there must be a digit before or after the point.  The decimal
is rounded once.
-/

set_option autoImplicit false

namespace UplinkFlow.Binary64

/-- A quiet NaN. -/
def nan : Binary64 := ofParts false (infinityBits + 0x8000000000000)

/-- The value of decimal digits; other characters count as zero. -/
def digitsValue (cs : List Char) : Nat :=
  cs.foldl (fun acc c => acc * 10 + (Text.digit? c).getD 0) 0

def isDigit (c : Char) : Bool := (Text.digit? c).isSome

/-- Reads an exponent of ten: nothing, or `e` with an optional sign and at least one digit. -/
def exponent? : List Char → Option Int
  | [] => some 0
  | e :: rest =>
    if e = 'e' ∨ e = 'E' then
      let (negative, ds) := match rest with
        | '+' :: ds => (false, ds)
        | '-' :: ds => (true, ds)
        | ds => (false, ds)
      if ds.isEmpty || !ds.all isDigit then none
      else some (if negative then -(digitsValue ds : Int) else digitsValue ds)
    else none

/-- Reads a decimal without a sign. -/
def unsigned? (negative : Bool) (cs : List Char) : Option Binary64 :=
  let whole := cs.takeWhile isDigit
  let rest := cs.dropWhile isDigit
  let (fraction, rest) := match rest with
    | '.' :: more => (more.takeWhile isDigit, more.dropWhile isDigit)
    | _ => ([], rest)
  if whole.isEmpty && fraction.isEmpty then none
  else (exponent? rest).map fun e =>
    ofDecimal negative (digitsValue (whole ++ fraction)) (e - fraction.length)

/-- Reads a name of a value that no decimal denotes. -/
def named? (negative : Bool) (cs : List Char) : Option Binary64 :=
  let name := String.ofList (cs.map Char.toLower)
  if name = "inf" ∨ name = "infinity" then some (ofParts negative infinityBits)
  else if name = "nan" then some nan
  else none

/-- Reads a number in free form. -/
def ofText? (s : String) : Option Binary64 :=
  let (negative, cs) := match s.toList with
    | '-' :: cs => (true, cs)
    | '+' :: cs => (false, cs)
    | cs => (false, cs)
  (named? negative cs).or (unsigned? negative cs)

end UplinkFlow.Binary64
