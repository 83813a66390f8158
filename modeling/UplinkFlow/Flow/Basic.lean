import UplinkFlow.Json.Basic

/-!
# Flows

A `Flow` is the flat list of nodes that the engine works with.  A `Node` has an identifier, a type,
the identifier of the tab that it belongs to, and properties that depend on its type and are kept
as they are.

* `Flow.tab?`, `Flow.withoutTab` — the first tab, and the flow without it.
* `Flow.ids`, `Flow.ofKind` — the distinct identifiers, and the nodes of a type.
-/

set_option autoImplicit false

namespace UplinkFlow

/-- A node of a flow. -/
structure Node where
  id : String
  kind : String
  tab : Option String
  props : Members
deriving Inhabited

abbrev Flow := List Node

namespace Node

/-- The type of tabs. -/
def tabKind : String := "tab"
/-- The type of nodes that receive uplinks from the network. -/
def uplinkKind : String := "ttn uplink"
/-- The type of nodes that hold the access to the network. -/
def appKind : String := "ttn app"
/-- The type of nodes that run a script. -/
def functionKind : String := "function"
/-- The type of nodes that store measurements. -/
def storeKind : String := "influxdb out"

def isTab (n : Node) : Bool := n.kind == tabKind

/-- The label of a node, if it is a text. -/
def label? (n : Node) : Option String := (n.props.member? "label").bind Json.asString?

/-- Sets a property to a text. -/
def set (n : Node) (key value : String) : Node :=
  { n with props := n.props.insert key (.str value) }

/-- The document of a node: identifier and type, then the tab if there is one, then the
properties. -/
def toJson (n : Node) : Json :=
  .obj ([("id", .str n.id), ("type", .str n.kind)] ++
    (n.tab.map fun tab => ("z", Json.str tab)).toList ++ n.props)

end Node

namespace Flow

/-- The first tab. -/
def tab? (flow : Flow) : Option Node := flow.find? Node.isTab

/-- The flow without its first tab. -/
def withoutTab (flow : Flow) : Flow := flow.eraseP Node.isTab

/-- The distinct identifiers, in the order of first occurrence. -/
def ids (flow : Flow) : List String := (flow.map (·.id)).eraseDups

def ofKind (flow : Flow) (kind : String) : Flow := flow.filter fun n => n.kind == kind

def toJson (flow : Flow) : Json := .arr (flow.map Node.toJson)

end Flow

end UplinkFlow
