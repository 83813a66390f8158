import UplinkFlow.Counter

/-!
# The files of the system

The program decides on a `Storage`.  Here one is taken from the files at given paths, and what has
changed in it is written back, under the lock of a counter if there is one.
-/

set_option autoImplicit false

namespace UplinkFlow.Host

/-- What stands at a path, if it can be read. -/
def probe (path : String) : IO (Option Entry) := do
  try
    return some (.file (← IO.FS.readBinFile path).toList)
  catch
    | .inappropriateType _ 21 _ => return some .folder
    | _ => return none

/-- The folders and files on the way to given paths. -/
def stepsTo (paths : List String) : List (Location × String) :=
  paths.flatMap fun path => (Place.ofText path).steps

/-- The storage that given paths show. -/
def snapshot (paths : List String) : IO Storage :=
  (stepsTo paths).foldlM (fun s (location, path) => do
    match ← probe path with
    | some entry => return s.put location entry
    | none => return s) Storage.empty

/-- Writes a file beside its place and then puts it there. -/
def writeFile (path : String) (bytes : List UInt8) : IO Unit := do
  let draft := path ++ ".tmp"
  IO.FS.writeBinFile draft ⟨bytes.toArray⟩
  IO.FS.rename draft path

/-- Writes back what has changed at given paths. -/
def writeBack (paths : List String) (before after : Storage) : IO Unit :=
  (stepsTo paths).forM fun (location, path) => do
    let old := before.lookup location
    match after.lookup location with
    | some .folder => if old.isNone then IO.FS.createDirAll path
    | some (.file bytes) => if old != some (.file bytes) then writeFile path bytes
    | none => if old.isSome then IO.FS.removeFile path

/-- Tries to take a lock, up to so many times. -/
def takeLock (handle : IO.FS.Handle) : (tries : Nat) → IO Bool
  | 0 => return false
  | tries + 1 => do
    if ← handle.tryLock then return true
    IO.sleep 20
    takeLock handle tries

/-- Runs an action under the lock of a counter; it is told whether the lock has been taken. -/
def withLock {α : Type} (c : Counter) (act : Bool → IO α) : IO α := do
  if !c.lockPlace.folderText.isEmpty then IO.FS.createDirAll c.lockPlace.folderText
  let handle ← IO.FS.Handle.mk c.lockPlace.text .append
  if ← takeLock handle (c.lockTimeout / 20 + 1) then
    try act true finally handle.unlock
  else act false

/-- Acts on the files at given paths.  Before anything changes, the lock of the counter is taken and
the action is decided again. -/
def transact {α : Type} (paths : List String) (counter : Option Counter)
    (act : Storage → α × Storage) : IO α := do
  let before ← snapshot paths
  let (result, after) := act before
  if after.entries == before.entries then return result
  match counter with
  | none =>
    writeBack paths before after
    return result
  | some c =>
    withLock c fun taken => do
      let before ← snapshot paths
      let before := if taken then before else { before with locked := [c.lockPlace.location] }
      let (result, after) := act before
      writeBack paths before after
      return result

def counterPaths (c : Counter) : List String := [c.place.text, c.lockPlace.text, c.draftPlace.text]

end UplinkFlow.Host
