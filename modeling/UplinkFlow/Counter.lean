import UplinkFlow.Storage.Basic
import UplinkFlow.Text.Blank
import UplinkFlow.Text.Decimal
import UplinkFlow.Text.Quoted

/-!
# The sequence counter

A `Counter` hands out numbers one after the other and keeps the last one in a file, as a decimal
number.  A missing or blank file stands for zero.

* `Counter.parse` — the number that the content of the file denotes.
* `Counter.read` — the last number handed out.
* `Counter.advance` — under the lock, offers the next number to a computation and stores it only
  after the computation has succeeded.  The number is written to a file beside the counter, which
  then takes the counter's place.
-/

set_option autoImplicit false

namespace UplinkFlow

/-- A counter: the place of its file, and how many milliseconds it waits for its lock. -/
structure Counter where
  place : Place
  lockTimeout : Nat
deriving DecidableEq, Repr

/-- Why a counter does not hand out a number. -/
inductive CounterFault where
  | storage (path : String) (fault : StorageFault)
  | corrupt (path content : String)
  | lockTimeout (path : String) (waited : Nat)
  | exhausted (path : String)
deriving DecidableEq, Repr

namespace CounterFault

def message : CounterFault → String
  | .storage path fault => "counter " ++ path ++ ": " ++ fault.message
  | .corrupt path content =>
    "counter file " ++ path ++ " holds " ++ Text.quoted content ++
      ", expected a non-negative integer"
  | .lockTimeout path waited =>
    "timed out after " ++ Text.decimal waited ++ "ms waiting for counter lock " ++ path
  | .exhausted path => "counter " ++ path ++ " is exhausted"

def chain (f : CounterFault) : List String :=
  match f with
  | .storage _ fault => [f.message, fault.message]
  | _ => [f.message]

end CounterFault

namespace Counter

/-- The counter whose file has a path. -/
def atPath (path : String) (lockTimeout : Nat) : Counter := ⟨Place.ofText path, lockTimeout⟩

/-- The file whose lock keeps others from the counter. -/
def lockPlace (c : Counter) : Place := c.place.withSuffix ".lock"

/-- The file that a new number is written to. -/
def draftPlace (c : Counter) : Place := c.place.withSuffix ".tmp"

/-- The number that a content denotes, or the content without blanks around it. -/
def parse (content : String) : Except String Nat :=
  let trimmed := Text.trim content
  if trimmed.isEmpty then .ok 0 else (Text.readWord trimmed).mapError fun _ => trimmed

/-- The last number handed out. -/
def read (c : Counter) (s : Storage) : Except CounterFault Nat :=
  match s.readText c.place with
  | .ok content => (parse content).mapError (CounterFault.corrupt c.place.text)
  | .error .notFound => .ok 0
  | .error fault => .error (.storage c.place.text fault)

def next (c : Counter) (s : Storage) : Except CounterFault Nat := do
  let last ← c.read s
  if last < Text.maxWord then .ok (last + 1) else .error (.exhausted c.place.text)

def store (c : Counter) (n : Nat) (s : Storage) : Except CounterFault Unit × Storage :=
  match s.replace c.draftPlace (Text.utf8Bytes (Text.decimal n)) with
  | .error fault => (.error (.storage c.draftPlace.text fault), s)
  | .ok written =>
    match written.rename c.draftPlace c.place with
    | .error fault => (.error (.storage c.place.text fault), written)
    | .ok renamed => (.ok (), renamed)

/-- Makes the folder and the file of the lock, and takes the lock. -/
def lock (c : Counter) (s : Storage) : Except CounterFault Unit × Storage :=
  match s.makeFolders c.lockPlace with
  | (.error fault, s) => (.error (.storage c.lockPlace.folderText fault), s)
  | (.ok (), s) =>
    match s.openFile c.lockPlace with
    | .error fault => (.error (.storage c.lockPlace.text fault), s)
    | .ok opened =>
      if opened.isLocked c.lockPlace then
        (.error (.lockTimeout c.lockPlace.text c.lockTimeout), opened)
      else (.ok (), opened)

/-- Offers the next number to `build` and stores it if `build` succeeds. -/
def advance {ε α : Type} (c : Counter) (lift : CounterFault → ε) (build : Nat → Except ε α)
    (s : Storage) : Except ε α × Storage :=
  match c.lock s with
  | (.error fault, s) => (.error (lift fault), s)
  | (.ok (), s) =>
    match c.next s with
    | .error fault => (.error (lift fault), s)
    | .ok n =>
      match build n with
      | .error e => (.error e, s)
      | .ok a =>
        match c.store n s with
        | (.error fault, s) => (.error (lift fault), s)
        | (.ok (), s) => (.ok a, s)

end Counter

end UplinkFlow
