import UplinkFlow.Binary64.Basic

/-!
# JSON documents

* `Number` — an integer of at most 64 bits, or a finite double-precision number.
* `Json` — a document; an object keeps its members in order.
* `member?`, `insert` — access to a member list by key; an inserted value takes the place of the
  key's old one, and a new key goes to the end.
-/

set_option autoImplicit false

namespace UplinkFlow

/-- A number in a document. -/
inductive Number where
  | whole (n : Int) (fits : -0x8000000000000000 ≤ n ∧ n < 0x10000000000000000)
  | real (x : Binary64) (finite : x.isFinite = true)
deriving DecidableEq

namespace Number

/-- An unsigned word as a number. -/
def ofWord (n : UInt64) : Number :=
  .whole n.toNat ⟨by omega, by have := n.toNat_lt; omega⟩

/-- A signed word as a number. -/
def ofInt64 (n : Int64) : Number :=
  .whole n.toInt ⟨by have := n.le_toInt; omega, by have := n.toInt_lt; omega⟩

/-- The double-precision number nearest to a number. -/
def toBinary64 : Number → Binary64
  | .whole n _ => Binary64.ofInt n
  | .real x _ => x

end Number

/-- A document. -/
inductive Json where
  | null
  | bool (b : Bool)
  | num (n : Number)
  | str (s : String)
  | arr (items : List Json)
  | obj (members : List (String × Json))
deriving Inhabited

/-- The members of an object in order. -/
abbrev Members := List (String × Json)

namespace Members

def member? (key : String) : Members → Option Json
  | [] => none
  | (k, v) :: rest => if k = key then some v else member? key rest

/-- Stores a value under a key: in the key's place, or at the end for a new key. -/
def insert (key : String) (value : Json) : Members → Members
  | [] => [(key, value)]
  | (k, v) :: rest => if k = key then (k, value) :: rest else (k, v) :: insert key value rest

end Members

namespace Json

def asString? : Json → Option String
  | .str s => some s
  | _ => none

/-- A double-precision number as a document, where a number that is not finite has none but
`null`. -/
def ofBinary64 (x : Binary64) : Json :=
  if h : x.isFinite = true then .num (.real x h) else .null

end Json

end UplinkFlow
