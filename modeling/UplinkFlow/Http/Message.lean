import UplinkFlow.Text.Blank
import UplinkFlow.Text.Decimal
import UplinkFlow.Text.Hex

/-!
# HTTP messages as received

A message is read from the bytes that have arrived so far: a head that ends with an empty line, then
a body, whose end is told by a length, by the last chunk or by the end of the connection.

* `Head` — the first line and the headers.
* `readRequest`, `readResponse` — how far a message has arrived.
-/

set_option autoImplicit false

namespace UplinkFlow.Http

/-- The first line of a message and its headers, whose names are in lower case. -/
structure Head where
  start : String
  headers : List (String × String)
deriving DecidableEq, Repr

/-- How far a message has arrived: not its whole head, its head, or all of it; or it is none. -/
inductive Arrival where
  | nothing
  | head (head : Head)
  | all (head : Head) (body : List UInt8)
  | malformed
deriving DecidableEq, Repr

/-! ## Heads -/

/-- Divides bytes behind the first line end; the line comes without it. -/
def splitLine? : List UInt8 → Option (List UInt8 × List UInt8)
  | [] => none
  | 13 :: 10 :: rest => some ([], rest)
  | b :: rest => (splitLine? rest).map fun (line, after) => (b :: line, after)

/-- The text of bytes, each of which stands for the character with its number. -/
def lineText (line : List UInt8) : String := String.ofList (line.map fun b => Char.ofNat b.toNat)

/-- Reads lines up to an empty one, at most so many. -/
def readLines (limit : Nat) (bytes : List UInt8) : Option (List String × List UInt8) :=
  match limit, splitLine? bytes with
  | 0, _ | _, none => none
  | _ + 1, some ([], rest) => some ([], rest)
  | limit + 1, some (line, rest) =>
    (readLines limit rest).map fun (lines, after) => (lineText line :: lines, after)

/-- A header: its name in lower case and its value without blanks around it. -/
def readHeader? (line : String) : Option (String × String) :=
  let name := line.toList.takeWhile (· != ':')
  if name.isEmpty || name.length = line.length then none
  else
    some (Text.lowerAscii (String.ofList name),
      Text.trim (String.ofList (line.toList.drop (name.length + 1))))

def Head.ofLines? : List String → Option Head
  | [] => none
  | start :: lines => (lines.mapM readHeader?).map (Head.mk start)

def Head.header? (h : Head) (name : String) : Option String := h.headers.lookup name

/-- The parts of the first line between spaces. -/
def Head.startParts (h : Head) : List String := h.start.splitOn " "

/-- The status code of a response. -/
def Head.status? (h : Head) : Option Nat :=
  match h.startParts with
  | version :: code :: _ =>
    if version.startsWith "HTTP/1." && code.length == 3 then
      (Text.readDigits 999 code.toList).toOption
    else none
  | _ => none

/-- The method and the target of a request. -/
def Head.request? (h : Head) : Option (String × String) :=
  match h.startParts with
  | [method, target, version] =>
    if version.startsWith "HTTP/1." then some (method, target) else none
  | _ => none

/-! ## Bodies -/

/-- What tells where a body ends. -/
inductive Framing where
  | length (n : Nat)
  | chunks
  | close
deriving DecidableEq, Repr

/-- What the headers tell about the end of the body; without them there is a default. -/
def Head.framing? (h : Head) (default : Framing) : Option Framing :=
  if (h.header? "transfer-encoding").map Text.lowerAscii = some "chunked" then some .chunks
  else
    match h.header? "content-length" with
    | none => some default
    | some length => ((Text.readDigits Text.maxWord length.toList).toOption).map .length

/-- The bytes of chunks, each of which is preceded by its length; `none` while the last one is
missing, and a fault if a length is none. -/
def readChunks (limit : Nat) (bytes : List UInt8) : Except Unit (Option (List UInt8)) :=
  match limit, splitLine? bytes with
  | 0, _ | _, none => .ok none
  | limit + 1, some (line, rest) =>
    let digits := (lineText line).toList.takeWhile Text.isHexDigit
    if digits.isEmpty then .error ()
    else
      let size := Text.hexValue digits
      if size = 0 then .ok (some [])
      else if rest.length < size + 2 then .ok none
      else (readChunks limit (rest.drop (size + 2))).map (·.map (rest.take size ++ ·))

/-- Reads the body behind a head; `closed` tells that nothing more will come. -/
def readBody (closed : Bool) (h : Head) (framing : Option Framing) (bytes : List UInt8) : Arrival :=
  match framing with
  | none => .malformed
  | some (.length n) => if n ≤ bytes.length then .all h (bytes.take n) else .head h
  | some .close => if closed then .all h bytes else .head h
  | some .chunks =>
    match readChunks bytes.length bytes with
    | .error () => .malformed
    | .ok none => .head h
    | .ok (some body) => .all h body

/-! ## Messages -/

def readRequest (bytes : List UInt8) : Arrival :=
  match readLines bytes.length bytes with
  | none => .nothing
  | some (lines, rest) =>
    match Head.ofLines? lines with
    | none => .malformed
    | some h =>
      match h.request? with
      | none => .malformed
      | some _ => readBody false h (h.framing? (.length 0)) rest

/-- Reads a response; those that only announce another, at most so many, are passed over. -/
def readResponseIn (limit : Nat) (closed : Bool) (bytes : List UInt8) : Arrival :=
  match readLines bytes.length bytes with
  | none => .nothing
  | some (lines, rest) =>
    match Head.ofLines? lines with
    | none => .malformed
    | some h =>
      match limit, h.status? with
      | _, none => .malformed
      | limit + 1, some status =>
        if 100 ≤ status ∧ status < 200 then readResponseIn limit closed rest
        else if status = 204 ∨ status = 304 then .all h []
        else readBody closed h (h.framing? .close) rest
      | 0, some _ => .malformed

/-- Reads a response. -/
def readResponse (closed : Bool) (bytes : List UInt8) : Arrival :=
  readResponseIn bytes.length closed bytes

end UplinkFlow.Http
