import UplinkFlow.Json.Reader
import UplinkFlow.Text.Blank
import UplinkFlow.Text.Quoted

/-!
# Sensors

A `Sensor` is a device with its binding to the network it sends through, and with tags that mark
its measurements.  Tags are kept in ascending order of their keys.

* `Sensor.reader`, `Sensor.toJson` — the document form; tags may be left out, and are left out when
  there are none.
* `Sensor.validate` — the identifier is not empty and has no blank in it.
-/

set_option autoImplicit false

namespace UplinkFlow

/-- The names under which the network knows a sensor. -/
structure Binding where
  deviceId : String
  appId : String
  accessKey : String
deriving DecidableEq, Repr

/-- Tags in ascending order of their keys. -/
abbrev Tags := List (String × String)

/-- Stores a tag in its place. -/
def Tags.insert (key value : String) : Tags → Tags
  | [] => [(key, value)]
  | (k, v) :: rest =>
    if key = k then (key, value) :: rest
    else if key < k then (key, value) :: (k, v) :: rest
    else (k, v) :: insert key value rest

/-- A sensor's description. -/
structure Sensor where
  id : String
  kind : String
  version : String
  binding : Binding
  tags : Tags
deriving DecidableEq, Repr

namespace Binding

/-- A binding under construction. -/
structure Draft where
  deviceId : Option String := none
  appId : Option String := none
  accessKey : Option String := none

def slots : List (Reader.Slot Draft) :=
  [ Reader.slot "DevId" Reader.string (·.deviceId) fun a d => { d with deviceId := some a },
    Reader.slot "AppId" Reader.string (·.appId) fun a d => { d with appId := some a },
    Reader.slot "AccessKey" Reader.string (·.accessKey) fun a d => { d with accessKey := some a } ]

def reader : Reader Binding :=
  Reader.record slots {} fun d =>
    match d with
    | ⟨some deviceId, some appId, some accessKey⟩ => some ⟨deviceId, appId, accessKey⟩
    | _ => none

def toJson (b : Binding) : Json :=
  .obj [("DevId", .str b.deviceId), ("AppId", .str b.appId), ("AccessKey", .str b.accessKey)]

end Binding

namespace Tags

/-- Reads the members of an object into tags. -/
def readMembers : List (Option String × Outline) → Tags → Except ReadFault Tags
  | [], tags => .ok tags
  | (none, _) :: _, _ => .error .malformed
  | (some key, value) :: rest, tags => do
    let text ← Reader.string value
    readMembers rest (tags.insert key text)

/-- Reads tags from an object whose values are strings; of a repeated key the last value counts. -/
def reader : Reader Tags
  | .obj deep members whole => do
    if deep then .error .malformed
    let tags ← readMembers members []
    if whole then .ok tags else .error .malformed
  | o => .error (Reader.refuse o)

def toJson (tags : Tags) : Json := .obj (tags.map fun (key, value) => (key, .str value))

end Tags

namespace Sensor

/-- A sensor under construction. -/
structure Draft where
  id : Option String := none
  kind : Option String := none
  version : Option String := none
  binding : Option Binding := none
  tags : Option Tags := none

def slots : List (Reader.Slot Draft) :=
  [ Reader.slot "ID" Reader.string (·.id) fun a d => { d with id := some a },
    Reader.slot "type" Reader.string (·.kind) fun a d => { d with kind := some a },
    Reader.slot "version" Reader.string (·.version) fun a d => { d with version := some a },
    Reader.slot "TTN" Binding.reader (·.binding) fun a d => { d with binding := some a },
    Reader.slot "tags" Tags.reader (·.tags) fun a d => { d with tags := some a } ]

def reader : Reader Sensor :=
  Reader.record slots {} fun d =>
    match d with
    | ⟨some id, some kind, some version, some binding, tags⟩ =>
      some ⟨id, kind, version, binding, tags.getD []⟩
    | _ => none

def toJson (s : Sensor) : Json :=
  .obj ([("ID", .str s.id), ("type", .str s.kind), ("version", .str s.version),
    ("TTN", s.binding.toJson)] ++ if s.tags.isEmpty then [] else [("tags", s.tags.toJson)])

/-- Why a sensor is not valid. -/
inductive Fault where
  | emptyId
  | blankInId (id : String)
deriving DecidableEq, Repr

def Fault.message : Fault → String
  | .emptyId => "sensor ID must not be empty"
  | .blankInId id => "sensor ID " ++ Text.quoted id ++ " must not contain whitespace"

/-- Checks a sensor's identifier. -/
def validate (s : Sensor) : Except Fault Unit :=
  if s.id.isEmpty then .error .emptyId
  else if s.id.toList.any Text.isBlank then .error (.blankInId s.id)
  else .ok ()

end Sensor

end UplinkFlow
