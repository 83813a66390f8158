import UplinkFlow.Flow.Document
import UplinkFlow.Proofs.Json.Rewriting

/-!
# Rewriting the strings of a flow

* `Node.rewrite` — a node with its identifier, its type, its tab and the strings in its properties
  replaced where a function is defined.
* `Flow.ofJson?_rewrite` — the flow in a rewritten document is the rewritten flow: no replacement of
  strings makes a flow of a document that is none, or the other way round.
-/

set_option autoImplicit false

namespace UplinkFlow

variable {f : String → Option String}

/-! ## Slots -/

namespace Reader

/-- A slot is compatible with rewriting if its reader is. -/
theorem slot_rewrites {α σ : Type} {key : String} {reader : Reader α} {get : σ → Option α}
    {set : α → σ → σ} {h : α → α} {g : σ → σ}
    (hreader : ∀ j : Json, reader (Outline.ofJson (j.rewrite f)) =
      (reader (Outline.ofJson j)).map h)
    (hget : ∀ s, get (g s) = (get s).map h) (hset : ∀ a s, set (h a) (g s) = g (set a s)) :
    (slot key reader get set).Rewrites f g where
  isFilled := fun s => by simp [slot, hget]
  fill := fun j s => by
    simp only [slot, hreader]
    cases reader (Outline.ofJson j) <;> simp [Except.map, hset]

end Reader

/-! ## Nodes -/

namespace Node

/-- A node with its strings replaced. -/
def rewrite (f : String → Option String) (n : Node) : Node where
  id := Json.rewriteText f n.id
  kind := Json.rewriteText f n.kind
  tab := n.tab.map (Json.rewriteText f)
  props := n.props.rewrite f

/-- A node under construction with its strings replaced. -/
def Draft.rewrite (f : String → Option String) (d : Draft) : Draft where
  id := d.id.map (Json.rewriteText f)
  kind := d.kind.map (Json.rewriteText f)
  tab := d.tab.map (Option.map (Json.rewriteText f))
  props := d.props.rewrite f

theorem slots_rewrite : ∀ slot ∈ slots, slot.Rewrites f (Draft.rewrite f) := by
  intro slot hslot
  simp only [slots, List.mem_cons, List.not_mem_nil, or_false] at hslot
  rcases hslot with rfl | rfl | rfl
  · exact Reader.slot_rewrites Reader.string_rewrite (fun _ => rfl) (fun _ _ => rfl)
  · exact Reader.slot_rewrites Reader.string_rewrite (fun _ => rfl) (fun _ _ => rfl)
  · exact Reader.slot_rewrites Reader.optional_string_rewrite (fun _ => rfl) (fun _ _ => rfl)

theorem keep_rewrite (key : String) (j : Json) (d : Draft) :
    keep key (Outline.ofJson (j.rewrite f)) (d.rewrite f) =
      (keep key (Outline.ofJson j) d).map (Draft.rewrite f) := by
  simp only [keep, Reader.json_rewrite]
  cases Reader.json (Outline.ofJson j) <;> simp [Except.map, Draft.rewrite]

theorem Draft.finish?_rewrite (d : Draft) :
    (d.rewrite f).finish? = d.finish?.map (Node.rewrite f) := by
  obtain ⟨id, kind, tab, props⟩ := d
  cases id with
  | none => rfl
  | some id =>
    cases kind with
    | none => rfl
    | some kind => rcases tab with _ | _ | tab <;> rfl

theorem reader_rewrite (j : Json) :
    reader (Outline.ofJson (j.rewrite f)) = (reader (Outline.ofJson j)).map (Node.rewrite f) := by
  cases j with
  | obj ms =>
    have hmembers := Reader.members_rewrite (f := f) slots_rewrite keep_rewrite ms {}
    rw [show Draft.rewrite f {} = {} from rfl] at hmembers
    simp only [Json.rewrite_obj, Outline.ofJson, reader, hmembers, bind, Except.bind,
      Bool.false_eq_true, if_false, Bool.not_true]
    cases Reader.members slots keep (Outline.ofMembers ms) {} with
    | error e => rfl
    | ok d =>
      simp only [Except.map, Draft.finish?_rewrite]
      cases d.finish? <;> rfl
  | null | bool | num | arr => rfl
  | str s => simp [Outline.ofJson, reader, Reader.refuse, Except.map]

end Node

/-! ## Flows -/

/-- The flow in a rewritten document is the rewritten flow. -/
theorem Flow.ofJson?_rewrite (j : Json) :
    Flow.reader.ofJson? (j.rewrite f) =
      (Flow.reader.ofJson? j).map (List.map (Node.rewrite f)) := by
  cases j with
  | arr items =>
    have hitems := Reader.list_rewrite (f := f) (fun j => Node.reader_rewrite j) items
    simp only [Reader.ofJson?, Flow.reader, Json.rewrite_arr, Outline.ofJson, Reader.list, hitems,
      bind, Except.bind, Bool.false_eq_true, if_false, if_true]
    cases (Outline.ofItems items).mapM Node.reader <;> rfl
  | null | bool | num | obj => rfl
  | str s => simp [Reader.ofJson?, Flow.reader, Outline.ofJson, Reader.list, Except.toOption]

end UplinkFlow
