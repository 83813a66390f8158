import Mathlib.Data.List.Forall2
import UplinkFlow.Proofs.Flow.Reading

/-!
# Which documents are flows

* `Members.values` — the values under a key, so that a key that comes twice shows.
* `Reader.collect` — what a field of a record holds once the values under its key have been read.
* `Json.IsNode`, `Json.IsFlow` — the form of a document that is a node or a flow.
* `Flow.isFlow_iff` — **a document can be read as a flow exactly if it has that form**, and then the
  flow has the identifiers and the types that stand there, in order.
-/

set_option autoImplicit false

namespace UplinkFlow

/-- The values under a key, in order. -/
def Members.values (key : String) (ms : Members) : List Json :=
  ms.filterMap fun (k, v) => if k = key then some v else none

@[simp] theorem Members.values_cons (key k : String) (v : Json) (ms : Members) :
    Members.values key ((k, v) :: ms) = if k = key then v :: ms.values key else ms.values key := by
  by_cases h : k = key <;> simp [Members.values, h]

/-! ## Every document can be kept -/

namespace Outline

mutual
theorem exists_toJson? : ∀ j : Json, ∃ w, (ofJson j).toJson? = some w
  | .null => ⟨_, rfl⟩
  | .bool _ => ⟨_, rfl⟩
  | .num _ => ⟨_, rfl⟩
  | .str _ => ⟨_, rfl⟩
  | .arr items => by
    obtain ⟨ws, hws⟩ := exists_toItems? items
    exact ⟨.arr ws, by simp [ofJson, toJson?, hws]⟩
  | .obj ms => by
    obtain ⟨ws, hws⟩ := exists_toMembers? ms []
    exact ⟨.obj ws, by simp [ofJson, toJson?, hws]⟩
theorem exists_toItems? : ∀ items : List Json, ∃ ws, toItems? (ofItems items) = some ws
  | [] => ⟨[], rfl⟩
  | x :: xs => by
    obtain ⟨w, hw⟩ := exists_toJson? x
    obtain ⟨ws, hws⟩ := exists_toItems? xs
    exact ⟨w :: ws, by simp [ofItems, toItems?, hw, hws]⟩
theorem exists_toMembers? : ∀ (ms : List (String × Json)) (before : Members),
    ∃ ws, toMembers? before (ofMembers ms) = some ws
  | [], before => ⟨before, rfl⟩
  | (k, v) :: ms, before => by
    obtain ⟨w, hw⟩ := exists_toJson? v
    obtain ⟨ws, hws⟩ := exists_toMembers? ms (before.insert k w)
    exact ⟨ws, by simp [ofMembers, toMembers?, hw, hws]⟩
end

end Outline

/-! ## Fields of a record -/

namespace Reader

variable {α : Type} {reader : Reader α}

/-- What a field holds once the values under its key have been read into it: every value must be
readable, and none comes after another. -/
def collect (reader : Reader α) : Option α → List Json → Option (Option α)
  | held, [] => some held
  | none, v :: vs => (reader.ofJson? v).bind fun a => collect reader (some a) vs
  | some _, _ :: _ => none

@[simp] theorem collect_nil (held : Option α) : reader.collect held [] = some held := by
  cases held <;> rfl

/-- A field that was empty and is not has been given one value. -/
theorem collect_eq_some {vs : List Json} {a : α} :
    reader.collect none vs = some (some a) ↔ ∃ v, vs = [v] ∧ reader.ofJson? v = some a := by
  cases vs with
  | nil => simp
  | cons v vs =>
    rw [collect, Option.bind_eq_some_iff]
    cases vs with
    | nil => simp
    | cons w vs => simp [collect]

theorem collect_eq_none {vs : List Json} : reader.collect none vs = some none ↔ vs = [] := by
  cases vs with
  | nil => simp
  | cons v vs =>
    rw [collect, Option.bind_eq_some_iff]
    cases vs <;> simp [collect]

theorem ofJson?_eq_some {v : Json} {a : α} :
    reader.ofJson? v = some a ↔ reader (Outline.ofJson v) = .ok a := by
  unfold ofJson?
  cases reader (Outline.ofJson v) <;> simp [Except.toOption]

theorem collect_cons {held held' : Option α} {v : Json} {vs : List Json} :
    reader.collect held (v :: vs) = some held' ↔
      held = none ∧ ∃ a, reader.ofJson? v = some a ∧ reader.collect (some a) vs = some held' := by
  cases held <;> simp [collect, Option.bind_eq_some_iff]

theorem string_ofJson? {v : Json} {s : String} : string.ofJson? v = some s ↔ v = .str s := by
  rw [ofJson?_eq_some]
  exact ⟨string_ofJson_eq_ok, fun h => by rw [h]; rfl⟩

theorem optional_string_ofJson? {v : Json} {s : Option String} :
    string.optional.ofJson? v = some s ↔ v = (s.map Json.str).getD .null := by
  rw [ofJson?_eq_some]
  refine ⟨optional_string_ofJson_eq_ok, fun h => ?_⟩
  subst h
  cases s <;> rfl

section Members

variable {σ : Type} {slots : List (Slot σ)} {other : String → Outline → σ → Except ReadFault σ}
  {key : String} {v : Json} {ms : Members} {s s' : σ}

/-- A member that has a slot fills it, unless the slot is filled. -/
theorem members_cons_slot {get : σ → Option α} {set : α → σ → σ}
    (hfind : (slots.find? fun slot => slot.key == key) = some (slot key reader get set)) :
    members slots other (Outline.ofMembers ((key, v) :: ms)) s = .ok s' ↔
      get s = none ∧ ∃ a, reader.ofJson? v = some a ∧
        members slots other (Outline.ofMembers ms) (set a s) = .ok s' := by
  rw [Outline.ofMembers, members, hfind]
  simp only [slot, ofJson?_eq_some]
  by_cases hnone : get s = none
  · cases reader (Outline.ofJson v) <;> simp [hnone, bind, Except.bind, Except.map]
  · simp [Option.isSome_iff_ne_none.mpr hnone, hnone, bind, Except.bind]

theorem members_cons_other (hfind : (slots.find? fun slot => slot.key == key) = none) :
    members slots other (Outline.ofMembers ((key, v) :: ms)) s = .ok s' ↔
      ∃ s₁, other key (Outline.ofJson v) s = .ok s₁ ∧
        members slots other (Outline.ofMembers ms) s₁ = .ok s' := by
  rw [Outline.ofMembers, members, hfind]
  exact bind_eq_ok_iff

end Members

end Reader

/-! ## Nodes -/

namespace Node

theorem exists_keep (key : String) (v : Json) (d : Draft) :
    ∃ props, keep key (Outline.ofJson v) d = .ok { d with props } := by
  obtain ⟨w, hw⟩ := Outline.exists_toJson? v
  exact ⟨d.props.insert key w, by simp [keep, Reader.json, hw, Except.map]⟩

/-- The members of an object can be read exactly if the values under each of the three keys can. -/
theorem exists_members_iff {ms : Members} {d : Draft} {id kind : Option String}
    {tab : Option (Option String)} :
    (∃ props, Reader.members slots keep (Outline.ofMembers ms) d = .ok ⟨id, kind, tab, props⟩) ↔
      Reader.string.collect d.id (ms.values "id") = some id ∧
      Reader.string.collect d.kind (ms.values "type") = some kind ∧
      Reader.string.optional.collect d.tab (ms.values "z") = some tab := by
  induction ms generalizing d with
  | nil =>
    obtain ⟨id', kind', tab', props'⟩ := d
    simp [Outline.ofMembers, Reader.members, Members.values]
  | cons m ms ih =>
    obtain ⟨k, v⟩ := m
    rcases find?_slots k with ⟨rfl, hfind⟩ | ⟨rfl, hfind⟩ | ⟨rfl, hfind⟩ | ⟨hk, hfind⟩
    · simp only [Reader.members_cons_slot hfind, exists_and_left, exists_comm (α := Members), ih,
        Members.values_cons, if_true, Reader.collect_cons]
      constructor
      · rintro ⟨hnone, a, ha, hid, hkind, htab⟩
        exact ⟨⟨hnone, a, ha, hid⟩, hkind, htab⟩
      · rintro ⟨⟨hnone, a, ha, hid⟩, hkind, htab⟩
        exact ⟨hnone, a, ha, hid, hkind, htab⟩
    · simp only [Reader.members_cons_slot hfind, exists_and_left, exists_comm (α := Members), ih,
        Members.values_cons, if_true, Reader.collect_cons]
      constructor
      · rintro ⟨hnone, a, ha, hid, hkind, htab⟩
        exact ⟨hid, ⟨hnone, a, ha, hkind⟩, htab⟩
      · rintro ⟨hid, ⟨hnone, a, ha, hkind⟩, htab⟩
        exact ⟨hnone, a, ha, hid, hkind, htab⟩
    · simp only [Reader.members_cons_slot hfind, exists_and_left, exists_comm (α := Members), ih,
        Members.values_cons, if_true, Reader.collect_cons]
      constructor
      · rintro ⟨hnone, a, ha, hid, hkind, htab⟩
        exact ⟨hid, hkind, hnone, a, ha, htab⟩
      · rintro ⟨hid, hkind, hnone, a, ha, htab⟩
        exact ⟨hnone, a, ha, hid, hkind, htab⟩
    · obtain ⟨props, hkeep⟩ := exists_keep k v d
      simp only [List.mem_cons, List.not_mem_nil, or_false, not_or] at hk
      simp only [Reader.members_cons_other hfind, hkeep, Except.ok.injEq, exists_eq_left', ih,
        Members.values_cons, hk, if_false]

theorem Draft.head_of_finish? {d : Draft} {n : Node} (h : d.finish? = some n) :
    d.id = some n.id ∧ d.kind = some n.kind := by
  unfold finish? at h
  split at h
  · rename_i id kind hid hkind
    cases h
    exact ⟨hid, hkind⟩
  · cases h

theorem reader_obj_eq_ok {ms : Members} {n : Node} : reader (Outline.ofJson (.obj ms)) = .ok n ↔
    ∃ d, Reader.members slots keep (Outline.ofMembers ms) {} = .ok d ∧ d.finish? = some n := by
  simp only [Outline.ofJson, reader, Bool.false_eq_true, if_false, Bool.not_true]
  refine bind_eq_ok_iff.trans (exists_congr fun d => and_congr_right fun _ => ?_)
  cases d.finish? <;> simp

end Node

/-! ## The form of a flow -/

/-- The form of a node: one string under `id` and one under `type`, and under `z` nothing, `null` or
one string. -/
structure Members.IsNode (ms : Members) (id kind : String) : Prop where
  id : ms.values "id" = [.str id]
  kind : ms.values "type" = [.str kind]
  tab : ms.values "z" = [] ∨ ms.values "z" = [.null] ∨ ∃ tab, ms.values "z" = [.str tab]

/-- An object in the form of a node, with its identifier and its type. -/
def Json.IsNode (j : Json) (id kind : String) : Prop :=
  ∃ ms : Members, j = .obj ms ∧ ms.IsNode id kind

/-- An array of nodes, with their identifiers and types in order. -/
def Json.IsFlow (document : Json) (heads : List (String × String)) : Prop :=
  ∃ items, document = .arr items ∧
    List.Forall₂ (fun item (id, kind) => item.IsNode id kind) items heads

namespace Node

def head (n : Node) : String × String := (n.id, n.kind)

/-- A document can be read as a node exactly if it has the form of one. -/
theorem isNode_iff {j : Json} {id kind : String} :
    j.IsNode id kind ↔ ∃ n, reader (Outline.ofJson j) = .ok n ∧ n.head = (id, kind) := by
  constructor
  · rintro ⟨ms, rfl, hid, hkind, htab⟩
    obtain ⟨tab, htab⟩ : ∃ tab, Reader.string.optional.collect none (ms.values "z") = some tab := by
      rcases htab with h | h | ⟨tab, h⟩ <;> rw [h] <;> exact ⟨_, rfl⟩
    obtain ⟨props, hread⟩ : ∃ props, Reader.members slots keep (Outline.ofMembers ms) {} =
        .ok ⟨some id, some kind, tab, props⟩ :=
      exists_members_iff.mpr ⟨by rw [hid]; rfl, by rw [hkind]; rfl, htab⟩
    exact ⟨⟨id, kind, tab.getD none, props⟩, reader_obj_eq_ok.mpr ⟨_, hread, rfl⟩, rfl⟩
  · rintro ⟨n, hread, hhead⟩
    obtain ⟨rfl, rfl⟩ : n.id = id ∧ n.kind = kind := by simpa [head] using hhead
    cases j with
    | obj ms =>
      obtain ⟨⟨id, kind, tab, props⟩, hmembers, hfinish⟩ := reader_obj_eq_ok.mp hread
      obtain ⟨rfl, rfl⟩ := Draft.head_of_finish? hfinish
      obtain ⟨hid, hkind, htab⟩ := exists_members_iff.mp ⟨props, hmembers⟩
      obtain ⟨v, hv, hid⟩ := Reader.collect_eq_some.mp hid
      obtain ⟨w, hw, hkind⟩ := Reader.collect_eq_some.mp hkind
      obtain rfl := Reader.string_ofJson?.mp hid
      obtain rfl := Reader.string_ofJson?.mp hkind
      refine ⟨ms, rfl, hv, hw, ?_⟩
      cases tab with
      | none => exact .inl (Reader.collect_eq_none.mp htab)
      | some tab =>
        obtain ⟨u, hu, htab⟩ := Reader.collect_eq_some.mp htab
        obtain rfl := Reader.optional_string_ofJson?.mp htab
        cases tab with
        | none => exact .inr (.inl hu)
        | some tab => exact .inr (.inr ⟨tab, hu⟩)
    | null | bool | num | arr | str => cases hread

end Node

/-- The elements of an array can be read one by one or not at all. -/
theorem Reader.exists_mapM_iff {α β : Type} {reader : Reader α} {g : α → β} {items : List Json}
    {bs : List β} :
    (∃ xs, (Outline.ofItems items).mapM reader = .ok xs ∧ xs.map g = bs) ↔
      List.Forall₂ (fun item b => ∃ x, reader (Outline.ofJson item) = .ok x ∧ g x = b) items bs := by
  induction items generalizing bs with
  | nil => simp [Outline.ofItems, pure, Except.pure, List.forall₂_nil_left_iff, eq_comm]
  | cons item items ih =>
    rw [Outline.ofItems, List.mapM_cons, List.forall₂_cons_left_iff]
    simp only [bind_eq_ok_iff, ← ih]
    constructor
    · rintro ⟨_, ⟨x, hx, xs, hxs, hcons⟩, rfl⟩
      cases hcons
      exact ⟨g x, xs.map g, ⟨x, hx, rfl⟩, ⟨xs, hxs, rfl⟩, rfl⟩
    · rintro ⟨_, _, ⟨x, hx, rfl⟩, ⟨xs, hxs, rfl⟩, rfl⟩
      exact ⟨x :: xs, ⟨x, hx, xs, hxs, rfl⟩, rfl⟩

/-- **A document can be read as a flow exactly if it has the form of one**, and the flow has the
identifiers and the types that stand there. -/
theorem Flow.isFlow_iff {document : Json} {heads : List (String × String)} :
    document.IsFlow heads ↔
      ∃ flow, Flow.reader.ofJson? document = some flow ∧ flow.map Node.head = heads := by
  cases document with
  | arr items =>
    have hread (flow : Flow) : Flow.reader.ofJson? (.arr items) = some flow ↔
        (Outline.ofItems items).mapM Node.reader = .ok flow := by
      rw [Reader.ofJson?_eq_some]
      simp only [Flow.reader, Outline.ofJson, Reader.list, Bool.false_eq_true, if_false, if_true]
      refine bind_eq_ok_iff.trans ?_
      simp
    simp only [hread, Reader.exists_mapM_iff, ← Node.isNode_iff, Json.IsFlow, Json.arr.injEq,
      exists_eq_left']
  | null | bool | num | obj | str =>
    constructor
    · rintro ⟨items, heq, -⟩
      cases heq
    · rintro ⟨flow, hread, -⟩
      cases hread

end UplinkFlow
