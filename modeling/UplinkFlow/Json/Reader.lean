import UplinkFlow.Json.Outline

/-!
# Reading typed values

A `Reader` turns an outline into a typed value or reports the first fault met from left to right:
the text is `malformed` at a place that the reader looks at, or a value there is a `mismatch`.

* `Reader.string`, `Reader.word`, `Reader.int64`, `Reader.json` — scalars and whole documents.
* `Reader.optional`, `Reader.list`, `Reader.variant` — a value or `null`, arrays, names of cases.
* `Reader.record` — a record, as an object with one slot a key or as an array of its slots in
  order.  Members under other keys are skipped; a key that comes twice is a mismatch.
* `Reader.ofText`, `Reader.ofBytes`, `Reader.ofJson?` — reading a whole text or bytes, which must
  hold nothing else, and reading a document.
-/

set_option autoImplicit false

namespace UplinkFlow

/-- The first fault met by a reader. -/
inductive ReadFault where
  | malformed
  | mismatch
deriving DecidableEq, Repr

/-- Reads a value of one type. -/
abbrev Reader (α : Type) := Outline → Except ReadFault α

namespace Reader

variable {α β σ : Type}

/-- The fault of a value of a kind that the reader does not take: a scalar without a value is
noticed first. -/
def refuse : Outline → ReadFault
  | .missing | .unreadable => .malformed
  | _ => .mismatch

def string : Reader String
  | .str s => .ok s
  | o => .error (refuse o)

/-- Reads an unsigned 64-bit integer. -/
def word : Reader UInt64
  | .num (.whole n _) => if 0 ≤ n then .ok (UInt64.ofNat n.toNat) else .error .mismatch
  | o => .error (refuse o)

/-- Reads a signed 64-bit integer. -/
def int64 : Reader Int64
  | .num (.whole n _) => if n < 0x8000000000000000 then .ok (Int64.ofInt n) else .error .mismatch
  | o => .error (refuse o)

def json : Reader Json := fun o =>
  match o.toJson? with
  | some j => .ok j
  | none => .error .malformed

/-- Passes over the value of a member. -/
def skip (_ : String) (value : Outline) (s : σ) : Except ReadFault σ :=
  if value.isBroken then .error .malformed else .ok s

def map (f : α → β) (reader : Reader α) : Reader β := fun o => (reader o).map f

/-- Reads a value, or `null` as its absence. -/
def optional (reader : Reader α) : Reader (Option α)
  | .null => .ok none
  | o => (reader o).map some

/-- Reads the elements of an array in order. -/
def list (reader : Reader α) : Reader (List α)
  | .arr deep items whole => do
    if deep then .error .malformed
    let values ← items.mapM reader
    if whole then .ok values else .error .malformed
  | o => .error (refuse o)

/-- Reads the name of a case, given as a string or as the only key of an object with the value
`null`.  A value of another kind in the place of that key is a mismatch. -/
def variant (case? : String → Option α) : Reader α := fun o =>
  let pick (name : String) : Except ReadFault α :=
    match case? name with
    | some a => .ok a
    | none => .error .mismatch
  match o with
  | .str name => pick name
  | .obj false ((some name, value) :: rest) whole => do
    let a ← pick name
    match value with
    | .null => if rest.isEmpty && whole then .ok a else .error .malformed
    | _ => .error (refuse value)
  | .obj false ((none, value) :: _) _ => .error (refuse value)
  | _ => .error .malformed

/-- One field of a record under construction. -/
structure Slot (σ : Type) where
  key : String
  isFilled : σ → Bool
  fill : Outline → σ → Except ReadFault σ

/-- The slot of a field that is read by `reader`, given how to get and set it. -/
def slot (key : String) (reader : Reader α) (get : σ → Option α) (set : α → σ → σ) : Slot σ where
  key := key
  isFilled := fun s => (get s).isSome
  fill := fun o s => (reader o).map fun a => set a s

/-- Reads the members of an object into a record; `other` takes those that have no slot. -/
def members (slots : List (Slot σ)) (other : String → Outline → σ → Except ReadFault σ) :
    List (Option String × Outline) → σ → Except ReadFault σ
  | [], s => .ok s
  | (none, _) :: _, _ => .error .malformed
  | (some key, value) :: rest, s => do
    match slots.find? fun slot => slot.key == key with
    | none =>
      let s ← other key value s
      members slots other rest s
    | some slot =>
      if slot.isFilled s then .error .mismatch
      let s ← slot.fill value s
      members slots other rest s

/-- Reads the elements of an array into a record, one slot after the other; there may be fewer
elements than slots, but not more. -/
def elements : List (Slot σ) → List Outline → σ → Except ReadFault σ
  | _, [], s => .ok s
  | [], _ :: _, _ => .error .malformed
  | slot :: slots, value :: rest, s => do
    let s ← slot.fill value s
    elements slots rest s

/-- Reads a record in either form; `finish` makes the value out of the filled slots, if none that
it needs is empty. -/
def record (slots : List (Slot σ)) (empty : σ) (finish : σ → Option α) : Reader α := fun o => do
  let (deep, whole, fields) ← match o with
    | .obj deep ms whole => pure (deep, whole, members slots skip ms)
    | .arr deep items whole => pure (deep, whole, elements slots items)
    | _ => .error (refuse o)
  if deep then .error .malformed
  let s ← fields empty
  if !whole then .error .malformed
  match finish s with
  | some a => .ok a
  | none => .error .mismatch

/-- Reads what has been found, which must be one value and nothing else. -/
def ofFound (reader : Reader α) (found : Outline.Found) : Except ReadFault α := do
  let value ← reader found.document
  if found.alone then .ok value else .error .malformed

def ofText (reader : Reader α) (s : String) : Except ReadFault α :=
  reader.ofFound (Outline.ofText s)

/-- Reads bytes.  They may fail to be a text where the reader passes over strings. -/
def ofBytes (reader : Reader α) (bytes : List UInt8) : Except ReadFault α :=
  reader.ofFound (Outline.ofBytes bytes)

def ofJson? (reader : Reader α) (j : Json) : Option α := (reader (Outline.ofJson j)).toOption

end Reader

end UplinkFlow
