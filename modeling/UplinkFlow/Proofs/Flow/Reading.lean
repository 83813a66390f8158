import UplinkFlow.Flow.Document
import UplinkFlow.Proofs.Except
import UplinkFlow.Proofs.Json.Pointer

/-!
# Reading a flow loses no string

A node takes its identifier, its type and its tab out of the members of an object and keeps the
others as properties.

* `Reader.members_induction` — what every member preserves holds of the record that is read.
* `Node.at?_of_reader` — a string of the document of a node stands in the same place of the node.
* `Flow.at?_of_ofJson?` — **and so it does in a flow.**
-/

set_option autoImplicit false

namespace UplinkFlow

/-! ## Members -/

namespace Reader

variable {σ : Type} {slots : List (Slot σ)} {other : String → Outline → σ → Except ReadFault σ}

/-- What holds of a record and the members read so far, and is preserved by every member, holds of
the record that is read and of all members. -/
theorem members_induction {I : σ → Members → Prop}
    (hother : ∀ {k v s s' before}, (slots.find? fun slot => slot.key == k) = none → I s before →
      other k (Outline.ofJson v) s = .ok s' → I s' (before ++ [(k, v)]))
    (hslot : ∀ {k v s s' before slot}, (slots.find? fun slot => slot.key == k) = some slot →
      I s before → slot.isFilled s = false → slot.fill (Outline.ofJson v) s = .ok s' →
      I s' (before ++ [(k, v)])) :
    ∀ {ms : Members} {s s' : σ} {before : Members}, I s before →
      members slots other (Outline.ofMembers ms) s = .ok s' → I s' (before ++ ms)
  | [], s, s', before, hI, h => by
    cases h
    rwa [List.append_nil]
  | (k, v) :: ms, s, s', before, hI, h => by
    rw [← List.singleton_append, ← List.append_assoc]
    simp only [Outline.ofMembers, members] at h
    split at h
    · rename_i hfind
      obtain ⟨s₁, hs, h⟩ := bind_eq_ok_iff.mp h
      exact members_induction hother hslot (hother hfind hI hs) h
    · rename_i slot hfind
      cases hfilled : slot.isFilled s with
      | true =>
        rw [if_pos hfilled] at h
        cases h
      | false =>
        rw [if_neg (by simp [hfilled])] at h
        obtain ⟨s₁, hs, h⟩ := bind_eq_ok_iff.mp h
        exact members_induction hother hslot (hslot hfind hI hfilled hs) h

theorem slot_fill_eq_ok {α : Type} {key : String} {reader : Reader α} {get : σ → Option α}
    {set : α → σ → σ} {o : Outline} {s s' : σ}
    (h : (slot key reader get set).fill o s = .ok s') : ∃ a, reader o = .ok a ∧ s' = set a s := by
  simp only [slot] at h
  cases hread : reader o with
  | error e => simp [hread, Except.map] at h
  | ok a => exact ⟨a, rfl, by simpa [hread, Except.map] using h.symm⟩

theorem string_ofJson_eq_ok {v : Json} {s : String} (h : string (Outline.ofJson v) = .ok s) :
    v = .str s := by
  cases v <;> simp [Outline.ofJson, string] at h
  rw [h]

theorem optional_string_ofJson_eq_ok {v : Json} {s : Option String}
    (h : string.optional (Outline.ofJson v) = .ok s) : v = (s.map Json.str).getD .null := by
  cases v <;> simp [Outline.ofJson, optional, string, Except.map] at h
  all_goals
    subst h
    rfl

end Reader

/-! ## Nodes -/

namespace Node

theorem find?_slots (key : String) :
    (key = "id" ∧ (slots.find? fun slot => slot.key == key) = some (Reader.slot "id" Reader.string
      (·.id) fun a d => { d with id := some a })) ∨
    (key = "type" ∧ (slots.find? fun slot => slot.key == key) = some (Reader.slot "type"
      Reader.string (·.kind) fun a d => { d with kind := some a })) ∨
    (key = "z" ∧ (slots.find? fun slot => slot.key == key) = some (Reader.slot "z"
      Reader.string.optional (·.tab) fun a d => { d with tab := some a })) ∨
    (key ∉ ["id", "type", "z"] ∧ (slots.find? fun slot => slot.key == key) = none) := by
  by_cases hid : key = "id"
  · subst hid
    exact .inl ⟨rfl, rfl⟩
  by_cases hkind : key = "type"
  · subst hkind
    exact .inr (.inl ⟨rfl, rfl⟩)
  by_cases htab : key = "z"
  · subst htab
    exact .inr (.inr (.inl ⟨rfl, rfl⟩))
  · refine .inr (.inr (.inr ⟨by simp [hid, hkind, htab], ?_⟩))
    simp [slots, Reader.slot, Ne.symm hid, Ne.symm hkind, Ne.symm htab]

theorem not_mem_of_find?_eq_none {key : String}
    (h : (slots.find? fun slot => slot.key == key) = none) : key ∉ ["id", "type", "z"] := by
  rcases find?_slots key with ⟨-, hfind⟩ | ⟨-, hfind⟩ | ⟨-, hfind⟩ | ⟨hnot, -⟩
  · rw [hfind] at h
    cases h
  · rw [hfind] at h
    cases h
  · rw [hfind] at h
    cases h
  · exact hnot

/-- A node under construction holds the values of the members read so far. -/
structure Draft.Holds (d : Draft) (ms : Members) : Prop where
  id : ms.last? "id" = d.id.map Json.str
  kind : ms.last? "type" = d.kind.map Json.str
  tab : ms.last? "z" = d.tab.map fun tab => (tab.map Json.str).getD .null
  props : ∀ key ∉ ["id", "type", "z"], ∀ v, ms.last? key = some v →
    ∃ w, (Outline.ofJson v).toJson? = some w ∧ d.props.last? key = some w
  free : ∀ key ∈ ["id", "type", "z"], d.props.last? key = none
  distinct : d.props.HasDistinctKeys

theorem last?_append_singleton (key k : String) (v : Json) (ms : Members) :
    Members.last? key (ms ++ [(k, v)]) = if k = key then some v else ms.last? key := by
  rw [Members.last?_append]
  by_cases h : k = key <;> simp [Members.last?, h]

theorem Draft.Holds.keep {d d' : Draft} {ms : Members} {k : String} {v : Json} (h : d.Holds ms)
    (hk : k ∉ ["id", "type", "z"]) (hkeep : Node.keep k (Outline.ofJson v) d = .ok d') :
    d'.Holds (ms ++ [(k, v)]) := by
  obtain ⟨w, hw, rfl⟩ : ∃ w, (Outline.ofJson v).toJson? = some w ∧
      d' = { d with props := d.props.insert k w } := by
    simp only [Node.keep, Reader.json] at hkeep
    cases hw : (Outline.ofJson v).toJson? with
    | none => simp [hw, Except.map] at hkeep
    | some w => exact ⟨w, rfl, by simpa [hw, Except.map] using hkeep.symm⟩
  have hne : ∀ key ∈ ["id", "type", "z"], key ≠ k := fun key hkey heq => hk (heq ▸ hkey)
  refine ⟨?_, ?_, ?_, ?_, ?_, h.distinct.insert k w⟩
  · rw [last?_append_singleton, if_neg (Ne.symm (hne "id" (by simp))), h.id]
  · rw [last?_append_singleton, if_neg (Ne.symm (hne "type" (by simp))), h.kind]
  · rw [last?_append_singleton, if_neg (Ne.symm (hne "z" (by simp))), h.tab]
  · intro key hkey u hu
    rw [last?_append_singleton] at hu
    by_cases heq : k = key
    · subst heq
      obtain rfl : v = u := by simpa using hu
      exact ⟨w, hw, h.distinct.last?_insert_self k w⟩
    · rw [if_neg heq] at hu
      obtain ⟨x, hx, hlast⟩ := h.props key hkey u hu
      exact ⟨x, hx, by rw [Members.last?_insert_of_ne (Ne.symm heq), hlast]⟩
  · intro key hkey
    rw [Members.last?_insert_of_ne (hne key hkey), h.free key hkey]

/-- A member of a slot does not touch the properties. -/
theorem Draft.Holds.props_append {d : Draft} {ms : Members} (h : d.Holds ms) {k : String} (v : Json)
    (hk : k ∈ ["id", "type", "z"]) : ∀ key ∉ ["id", "type", "z"], ∀ u,
      Members.last? key (ms ++ [(k, v)]) = some u →
        ∃ w, (Outline.ofJson u).toJson? = some w ∧ d.props.last? key = some w := by
  intro key hkey u hu
  rw [last?_append_singleton, if_neg (fun heq => hkey (by rwa [← heq]))] at hu
  exact h.props key hkey u hu

theorem Draft.Holds.fill {d d' : Draft} {ms : Members} {k : String} {v : Json}
    {slot : Reader.Slot Draft} (hfind : (slots.find? fun slot => slot.key == k) = some slot)
    (h : d.Holds ms) (hfill : slot.fill (Outline.ofJson v) d = .ok d') :
    d'.Holds (ms ++ [(k, v)]) := by
  rcases find?_slots k with
    ⟨rfl, hslot⟩ | ⟨rfl, hslot⟩ | ⟨rfl, hslot⟩ | ⟨-, hslot⟩
  · obtain rfl : _ = slot := Option.some.inj (hslot.symm.trans hfind)
    obtain ⟨s, hread, rfl⟩ := Reader.slot_fill_eq_ok hfill
    obtain rfl := Reader.string_ofJson_eq_ok hread
    exact ⟨by simp [last?_append_singleton], by simpa [last?_append_singleton] using h.kind,
      by simpa [last?_append_singleton] using h.tab, h.props_append _ (by simp), h.free, h.distinct⟩
  · obtain rfl : _ = slot := Option.some.inj (hslot.symm.trans hfind)
    obtain ⟨s, hread, rfl⟩ := Reader.slot_fill_eq_ok hfill
    obtain rfl := Reader.string_ofJson_eq_ok hread
    exact ⟨by simpa [last?_append_singleton] using h.id, by simp [last?_append_singleton],
      by simpa [last?_append_singleton] using h.tab, h.props_append _ (by simp), h.free, h.distinct⟩
  · obtain rfl : _ = slot := Option.some.inj (hslot.symm.trans hfind)
    obtain ⟨s, hread, rfl⟩ := Reader.slot_fill_eq_ok hfill
    obtain rfl := Reader.optional_string_ofJson_eq_ok hread
    exact ⟨by simpa [last?_append_singleton] using h.id,
      by simpa [last?_append_singleton] using h.kind, by simp [last?_append_singleton],
      h.props_append _ (by simp), h.free, h.distinct⟩
  · rw [hslot] at hfind
    cases hfind

/-- The members of a node's document. -/
def members (n : Node) : Members :=
  [("id", .str n.id), ("type", .str n.kind)] ++
    (n.tab.map fun tab => ("z", Json.str tab)).toList ++ n.props

theorem toJson_eq (n : Node) : n.toJson = .obj n.members := rfl

theorem last?_members {n : Node} {key : String} (hkey : key ∉ ["id", "type", "z"]) :
    n.members.last? key = n.props.last? key := by
  simp only [List.mem_cons, List.not_mem_nil, or_false, not_or] at hkey
  obtain ⟨hid, hkind, htab⟩ := hkey
  rw [members, Members.last?_append, Members.last?_append]
  cases n.tab with
  | none => simp [Members.last?, Ne.symm hid, Ne.symm hkind]
  | some tab => simp [Members.last?, Ne.symm hid, Ne.symm hkind, Ne.symm htab]

/-- The members that every node has stand under their keys, unless a property does. -/
theorem last?_members_of_free {n : Node} (hfree : ∀ key ∈ ["id", "type", "z"],
      n.props.last? key = none) :
    n.members.last? "id" = some (.str n.id) ∧ n.members.last? "type" = some (.str n.kind) ∧
      n.members.last? "z" = n.tab.map Json.str := by
  simp only [members, Members.last?_append, hfree "id" (by simp), hfree "type" (by simp),
    hfree "z" (by simp)]
  cases n.tab <;> simp [Members.last?]

/-- What a member of an object holds is held by the node, except that there is no tab for `null`. -/
theorem Draft.Holds.last?_members {d : Draft} {ms : Members} {n : Node} (h : d.Holds ms)
    (hfinish : d.finish? = some n) {key : String} {v : Json} (hv : ms.last? key = some v)
    (hnull : v ≠ .null) :
    ∃ w, (Outline.ofJson v).toJson? = some w ∧ n.members.last? key = some w := by
  obtain ⟨id, kind, tab, props⟩ := d
  cases id with
  | none => cases hfinish
  | some id =>
  cases kind with
  | none => cases hfinish
  | some kind =>
  obtain rfl := Option.some.inj hfinish
  by_cases hkey : key ∈ ["id", "type", "z"]
  · obtain ⟨hid, hkind, htab⟩ :=
      last?_members_of_free (n := ⟨id, kind, tab.getD none, props⟩) h.free
    simp only [List.mem_cons, List.not_mem_nil, or_false] at hkey
    rcases hkey with rfl | rfl | rfl
    · obtain rfl : v = .str id := by simpa [hv] using h.id
      exact ⟨_, rfl, hid⟩
    · obtain rfl : v = .str kind := by simpa [hv] using h.kind
      exact ⟨_, rfl, hkind⟩
    · have hsame := h.tab
      rw [hv] at hsame
      rcases tab with _ | _ | tab
      · cases hsame
      · exact absurd (Option.some.inj hsame) hnull
      · obtain rfl : v = .str tab := Option.some.inj hsame
        exact ⟨_, rfl, htab⟩
  · obtain ⟨w, hw, hlast⟩ := h.props key hkey v hv
    exact ⟨w, hw, by rw [Node.last?_members hkey, hlast]⟩

/-- **A string in the document of a node stands in the same place of the node.** -/
theorem at?_of_reader {j : Json} {n : Node} (h : reader (Outline.ofJson j) = .ok n)
    {place : List Json.Step} {s : String} (hs : j.at? place = some (.str s)) :
    n.toJson.at? place = some (.str s) := by
  cases j with
  | obj ms =>
    simp only [Outline.ofJson, reader, Bool.false_eq_true, if_false, Bool.not_true] at h
    obtain ⟨d, hd, h⟩ := bind_eq_ok_iff.mp h
    have hempty : Draft.Holds {} [] :=
      ⟨rfl, rfl, rfl, fun _ _ _ hv => absurd hv (by simp), fun _ _ => rfl, List.nodup_nil⟩
    have hholds : d.Holds ms := Reader.members_induction
      (fun hfind h hkeep => h.keep (not_mem_of_find?_eq_none hfind) hkeep)
      (fun hfind h _ hfill => h.fill hfind hfill) hempty hd
    split at h
    · rename_i node hfinish
      cases h
      cases place with
      | nil => cases hs
      | cons step rest =>
        cases step with
        | item index => cases hs
        | key name =>
          obtain ⟨ms', v, hobj, hv, hrest⟩ := Json.at?_key_eq_some hs
          cases hobj
          have hnull : v ≠ .null := by
            rintro rfl
            rcases rest with _ | ⟨_ | _, rest⟩ <;> cases hrest
          obtain ⟨w, hw, hlast⟩ := hholds.last?_members hfinish hv hnull
          obtain ⟨u, hu, hplace⟩ := Json.at?_toJson? hw hrest
          obtain rfl : .str s = u := Option.some.inj hu
          simpa [toJson_eq, Json.at?, hlast] using hplace
    · cases h
  | null | bool | num | arr | str => cases h

end Node

/-! ## Flows -/

theorem Reader.mapM_ofItems {α : Type} {reader : Reader α} : ∀ {items : List Json} {xs : List α},
    (Outline.ofItems items).mapM reader = .ok xs → ∀ {i : Nat} {j : Json}, items[i]? = some j →
      ∃ x, xs[i]? = some x ∧ reader (Outline.ofJson j) = .ok x
  | [], _, _, i, j, hj => by simp at hj
  | item :: items, xs, h, i, j, hj => by
    rw [Outline.ofItems, List.mapM_cons] at h
    obtain ⟨x, hx, h⟩ := bind_eq_ok_iff.mp h
    obtain ⟨rest, hrest, h⟩ := bind_eq_ok_iff.mp h
    cases h
    cases i with
    | zero =>
      obtain rfl : item = j := by simpa using hj
      exact ⟨x, rfl, hx⟩
    | succ i => simpa using mapM_ofItems hrest (i := i) (by simpa using hj)

/-- **A string in the document of a flow stands in the same place of the flow.** -/
theorem Flow.at?_of_ofJson? {document : Json} {flow : Flow}
    (h : Flow.reader.ofJson? document = some flow) {place : List Json.Step} {s : String}
    (hs : document.at? place = some (.str s)) : flow.toJson.at? place = some (.str s) := by
  cases document with
  | arr items =>
    cases place with
    | nil => cases hs
    | cons step rest =>
      cases step with
      | key name => cases hs
      | item index =>
        obtain ⟨items', j, harr, hj, hrest⟩ := Json.at?_item_eq_some hs
        cases harr
        have hread : (Outline.ofItems items).mapM Node.reader = .ok flow := by
          simp only [Reader.ofJson?, Flow.reader, Outline.ofJson, Reader.list, bind, Except.bind,
            Bool.false_eq_true, if_false, if_true] at h
          cases hitems : (Outline.ofItems items).mapM Node.reader with
          | error e => simp [hitems, Except.toOption] at h
          | ok nodes => simpa [hitems, Except.toOption] using h
        obtain ⟨n, hn, hnode⟩ := Reader.mapM_ofItems hread hj
        have hplace := Node.at?_of_reader hnode hrest
        simpa [Flow.toJson, Json.at?, hn] using hplace
  | null | bool | num | obj | str => cases h

end UplinkFlow
