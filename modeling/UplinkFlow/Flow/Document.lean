import UplinkFlow.Flow.Basic
import UplinkFlow.Json.Reader

/-!
# Reading flows

`Node.reader` reads an object with a textual `id` and `type` and an optional `z`, and keeps every
other member in order; of a repeated member the last value counts, in the first place.
`Flow.reader` reads an array of nodes.
-/

set_option autoImplicit false

namespace UplinkFlow

namespace Node

/-- A node under construction. -/
structure Draft where
  id : Option String := none
  kind : Option String := none
  tab : Option (Option String) := none
  props : Members := []

/-- The members that every node has. -/
def slots : List (Reader.Slot Draft) :=
  [ Reader.slot "id" Reader.string (·.id) fun a d => { d with id := some a },
    Reader.slot "type" Reader.string (·.kind) fun a d => { d with kind := some a },
    Reader.slot "z" Reader.string.optional (·.tab) fun a d => { d with tab := some a } ]

/-- Keeps a member as a property. -/
def keep (key : String) (value : Outline) (d : Draft) : Except ReadFault Draft :=
  (Reader.json value).map fun j => { d with props := d.props.insert key j }

/-- The node of a draft that has an identifier and a type. -/
def Draft.finish? (d : Draft) : Option Node :=
  match d.id, d.kind with
  | some id, some kind => some ⟨id, kind, d.tab.getD none, d.props⟩
  | _, _ => none

def reader : Reader Node
  | .obj deep members whole => do
    if deep then .error .malformed
    let d ← Reader.members slots keep members {}
    if !whole then .error .malformed
    match d.finish? with
    | some node => .ok node
    | none => .error .mismatch
  | o => .error (Reader.refuse o)

end Node

def Flow.reader : Reader Flow := Node.reader.list

end UplinkFlow
