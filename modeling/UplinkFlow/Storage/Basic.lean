import UplinkFlow.Storage.Place
import UplinkFlow.Text.Decimal
import UplinkFlow.Text.Utf8

/-!
# Files

A `Storage` is a tree of files and folders together with the locks that others hold on files.  An
operation that fails for one of the reasons of `StorageFault` changes nothing, except that folders
made on the way stay.

* `read`, `readText` — the bytes of a file, and its text.
* `makeFolders` — makes a folder and those above it.
* `open`, `replace` — makes sure that a file exists, and gives it new bytes.
* `rename` — puts a file in the place of another.
* `delete` — takes away a file or an empty folder.
-/

set_option autoImplicit false

namespace UplinkFlow

/-- Why an operation on files fails. -/
inductive StorageFault where
  | notFound
  | exists
  | notFolder
  | isFolder
  | notEmpty
  | nameTooLong
  | nulInName
  | notText
deriving DecidableEq, Repr

def StorageFault.message : StorageFault → String
  | .notFound => "No such file or directory (os error 2)"
  | .exists => "File exists (os error 17)"
  | .notFolder => "Not a directory (os error 20)"
  | .isFolder => "Is a directory (os error 21)"
  | .notEmpty => "Directory not empty (os error 39)"
  | .nameTooLong => "File name too long (os error 36)"
  | .nulInName => "file name contained an unexpected NUL byte"
  | .notText => "stream did not contain valid UTF-8"

/-- What stands at a location. -/
inductive Entry where
  | file (bytes : List UInt8)
  | folder
deriving DecidableEq, Repr

/-- A tree of files, and the files that are locked by others. -/
structure Storage where
  entries : List ((Nat × Location) × Entry)
  locked : List Location
deriving Repr

namespace Storage

def empty : Storage := ⟨[], []⟩

/-- The entry at a location. -/
def lookup (s : Storage) (l : Location) : Option Entry :=
  if l.isFixed then some .folder else s.entries.lookup l.key

def put (s : Storage) (l : Location) (e : Entry) : Storage :=
  { s with entries := (l.key, e) :: s.entries.filter fun pair => pair.1 != l.key }

def remove (s : Storage) (l : Location) : Storage :=
  { s with entries := s.entries.filter fun pair => pair.1 != l.key }

/-- The largest number of bytes in a name. -/
def maxName : Nat := 255

/-- The largest number of bytes in a path. -/
def maxPath : Nat := 4095

/-- Refuses the paths that nothing can have. -/
def checkPath (path : String) : Except StorageFault Unit :=
  if path.toList.contains '\x00' then .error .nulInName
  else if maxPath < path.utf8ByteSize then .error .nameTooLong
  else .ok ()

/-- Goes through folders that must exist, one inside the other. -/
def reach (s : Storage) (outer : Location) : List String → Except StorageFault Unit
  | [] => .ok ()
  | name :: rest =>
    match s.lookup (outer.enter name) with
    | some .folder => reach s (outer.enter name) rest
    | some (.file _) => .error .notFolder
    | none => if maxName < name.utf8ByteSize then .error .nameTooLong else .error .notFound

/-- The entry at a place, if its folders exist. -/
def find (s : Storage) (p : Place) : Except StorageFault (Option Entry) := do
  checkPath p.text
  if p.text.isEmpty then .error .notFound
  s.reach p.start p.folders
  if maxName < p.name.utf8ByteSize then .error .nameTooLong
  .ok (s.lookup p.location)

def read (s : Storage) (p : Place) : Except StorageFault (List UInt8) := do
  match ← s.find p with
  | some (.file bytes) => .ok bytes
  | some .folder => .error .isFolder
  | none => .error .notFound

def readText (s : Storage) (p : Place) : Except StorageFault String := do
  match Text.ofUtf8? (← s.read p) with
  | some text => .ok text
  | none => .error .notText

/-- Makes the missing ones of folders that lie one inside the other. -/
def makeFoldersIn (s : Storage) (outer : Location) :
    List String → Except StorageFault Unit × Storage
  | [] => (.ok (), s)
  | name :: rest =>
    match s.lookup (outer.enter name) with
    | some .folder => makeFoldersIn s (outer.enter name) rest
    | some (.file _) => (.error (if rest.isEmpty then .exists else .notFolder), s)
    | none =>
      if maxName < name.utf8ByteSize then (.error .nameTooLong, s)
      else makeFoldersIn (s.put (outer.enter name) .folder) (outer.enter name) rest

/-- Makes the folder of a place and those above it. -/
def makeFolders (s : Storage) (p : Place) : Except StorageFault Unit × Storage :=
  match checkPath p.folderText with
  | .error fault => (.error fault, s)
  | .ok () => makeFoldersIn s p.start p.folders

/-- Makes sure that there is a file at a place. -/
def openFile (s : Storage) (p : Place) : Except StorageFault Storage := do
  match ← s.find p with
  | some (.file _) => .ok s
  | some .folder => .error .isFolder
  | none => .ok (s.put p.location (.file []))

/-- Gives the file at a place new bytes, and makes it if it is missing. -/
def replace (s : Storage) (p : Place) (bytes : List UInt8) : Except StorageFault Storage := do
  match ← s.find p with
  | some .folder => .error .isFolder
  | _ => .ok (s.put p.location (.file bytes))

/-- Puts a file in the place of another. -/
def rename (s : Storage) (source target : Place) : Except StorageFault Storage := do
  let bytes ← s.read source
  match ← s.find target with
  | some .folder => .error .isFolder
  | _ => .ok ((s.remove source.location).put target.location (.file bytes))

/-- Whether an entry lies in the folder at a location. -/
def isFilled (s : Storage) (l : Location) : Bool :=
  s.entries.any fun pair => pair.1.1 == l.length + 1 && pair.1.2.dropLast == l

/-- Takes away a file or an empty folder. -/
def delete (s : Storage) (p : Place) : Except StorageFault Storage := do
  match ← s.find p with
  | some .folder => if s.isFilled p.location then .error .notEmpty else .ok (s.remove p.location)
  | some (.file _) => .ok (s.remove p.location)
  | none => .error .notFound

/-- Whether another holds the lock on a file. -/
def isLocked (s : Storage) (p : Place) : Bool := s.locked.contains p.location

end Storage

end UplinkFlow
