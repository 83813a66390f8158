import UplinkFlow.Flow.Basic
import UplinkFlow.Json.Reader
import UplinkFlow.Text.Utf8

/-!
# Listings of deployed flows

The engine lists the nodes of all its flows, as an array or as an object that holds the array under
`flows`.  A `ListedNode` is what a flow is recognized by.

* `Listing.ofText?`, `Listing.ofBytes?` — the nodes of a listing.
* `Listing.tabId?` — the identifier of the first tab with a label.
-/

set_option autoImplicit false

namespace UplinkFlow.Engine

/-- A node on the engine. -/
structure ListedNode where
  id : String
  kind : String
  label : Option Json

/-- The nodes on the engine in the order of the listing. -/
abbrev Listing := List ListedNode

namespace ListedNode

/-- The label of a node, if it is a text. -/
def labelText? (n : ListedNode) : Option String := n.label.bind Json.asString?

/-- Whether a node is the tab with a label. -/
def isTab (n : ListedNode) (label : String) : Bool :=
  n.kind == Node.tabKind && n.labelText? == some label

/-- A node under construction. -/
structure Draft where
  id : Option String := none
  kind : Option String := none
  label : Option (Option Json) := none

def slots : List (Reader.Slot Draft) :=
  [ Reader.slot "id" Reader.string (·.id) fun a d => { d with id := some a },
    Reader.slot "type" Reader.string (·.kind) fun a d => { d with kind := some a },
    Reader.slot "label" Reader.json.optional (·.label) fun a d => { d with label := some a } ]

/-- The node of a draft; a text that is missing is empty. -/
def Draft.finish (d : Draft) : ListedNode := ⟨d.id.getD "", d.kind.getD "", d.label.getD none⟩

def reader : Reader ListedNode := Reader.record slots {} fun d => some d.finish

end ListedNode

namespace Listing

def nodes : Reader Listing := ListedNode.reader.list

/-- Reads a listing in either form. -/
def reader : Reader Listing
  | .obj deep members whole =>
    Reader.record [Reader.slot "flows" nodes id fun a _ => some a] none id (.obj deep members whole)
  | o => nodes o

/-- The nodes of a listing, all of which must be sound JSON. -/
def ofText? (s : String) : Option Listing :=
  let found := Outline.ofText s
  if found.alone && found.document.toJson?.isSome then (reader found.document).toOption else none

/-- The nodes of the listing in a body. -/
def ofBytes? (bytes : List UInt8) : Option Listing := (Text.ofUtf8? bytes).bind ofText?

/-- The identifier of the first tab with a label. -/
def tabId? (listing : Listing) (label : String) : Option String :=
  (listing.find? fun n => n.isTab label).map (·.id)

end Listing

end UplinkFlow.Engine
