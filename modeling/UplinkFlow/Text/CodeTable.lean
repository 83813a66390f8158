import UplinkFlow.Text.Hex
import UplinkFlow.Text.Parts

/-!
# Tables of code points

A property of characters is written as a text: stretches of code points in ascending order, divided
by spaces or line ends, all numbers in hexadecimal.  `41-5A` stands for the code points from `41`
to `5A` and `100-12E/2` for every second one of them; behind a colon follow the numbers that belong
to the first, joined by `+`.

* `CodeTable.ofText` — reads a table.
* `CodeTable.find?` — the stretch that a code point lies in, by halving.
* `CodeTable.holds` — whether there is one.
-/

set_option autoImplicit false

namespace UplinkFlow.Text

/-- Code points from `low` to `high`, `step` apart, and the numbers that belong to the first. -/
structure Stretch where
  low : Nat
  high : Nat
  step : Nat
  numbers : List Nat
deriving Repr

namespace Stretch

/-- Whether a code point is one of the stretch. -/
def contains (s : Stretch) (n : Nat) : Bool :=
  s.low ≤ n && n ≤ s.high && (n - s.low) % s.step == 0

/-- The numbers of a code point when the first of them grows with it. -/
def shifted (s : Stretch) (n : Nat) : List Nat :=
  match s.numbers with
  | first :: rest => (first + (n - s.low)) :: rest
  | [] => []

/-- The characters before a mark, and those behind it if it is there. -/
def cut (mark : Char) (cs : List Char) : List Char × Option (List Char) :=
  let before := cs.takeWhile (· != mark)
  (before, (cs.drop before.length).tail?)

/-- Reads one stretch. -/
def ofChars (cs : List Char) : Stretch :=
  let (place, numbers) := cut ':' cs
  let (bounds, step) := cut '/' place
  let (low, high) := cut '-' bounds
  { low := hexValue low
    high := hexValue (high.getD low)
    step := (step.map hexValue).getD 1
    numbers := (numbers.map fun ns => (partsAt '+' ns).map hexValue).getD [] }

end Stretch

/-- Stretches in ascending order. -/
structure CodeTable where
  stretches : Array Stretch

namespace CodeTable

/-- Reads a table. -/
def ofText (s : String) : CodeTable :=
  let words := partsAt ' ' (s.toList.map fun c => if c = '\n' then ' ' else c)
  ⟨((words.filter (!·.isEmpty)).map Stretch.ofChars).toArray⟩

/-- The first place from `low` to `high` whose stretch begins behind a code point. -/
def placeBehind (t : CodeTable) (n low high : Nat) : Nat :=
  if low < high then
    let mid := (low + high) / 2
    if (t.stretches[mid]?).any fun s => s.low ≤ n then t.placeBehind n (mid + 1) high
    else t.placeBehind n low mid
  else low
termination_by high - low

/-- The stretch of a code point. -/
def find? (t : CodeTable) (n : Nat) : Option Stretch :=
  (t.stretches[t.placeBehind n 0 t.stretches.size - 1]?).filter (·.contains n)

/-- Whether a code point is in the table. -/
def holds (t : CodeTable) (n : Nat) : Bool := (t.find? n).isSome

end CodeTable

end UplinkFlow.Text
