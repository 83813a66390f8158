import UplinkFlow.Engine.Listing
import UplinkFlow.Proofs.Except
import UplinkFlow.Proofs.Json.Members

/-!
# What a listing tells

A listing is read from the outline of a text.  When it is read at all, the nodes found are those of
the document that the text holds.

* `Reader.members_invariant` — what every member preserves holds of the record that is read.
* `ListedNode.reader_spec` — a node has the identifier, the type and the label of its document.
* `Listing.ofText?_spec` — **the nodes of a listing are those of the document**, in either form.
-/

set_option autoImplicit false

namespace UplinkFlow

/-! ## Records -/

namespace Members

/-- The text under a key. -/
def text? (key : String) (ms : Members) : Option String := (ms.member? key).bind Json.asString?

end Members

namespace Reader

variable {σ : Type} {slots : List (Slot σ)}

/-- One member of an object is read into a record. -/
def member (slots : List (Slot σ)) (key : String) (value : Outline) (s : σ) : Except ReadFault σ :=
  match slots.find? fun slot => slot.key == key with
  | none => skip key value s
  | some slot => if slot.isFilled s then .error .mismatch else slot.fill value s

theorem members_cons (key : String) (value : Outline) (rest : List (Option String × Outline))
    (s : σ) : members slots skip ((some key, value) :: rest) s =
      member slots key value s >>= members slots skip rest := by
  simp only [members, member, bind]
  cases slots.find? fun slot => slot.key == key with
  | none => rfl
  | some slot =>
    simp only
    cases slot.isFilled s <;> rfl

/-- What holds of a record and the members read so far, and is preserved by every member, holds of
the record that is read and of all members. -/
theorem members_invariant {I : σ → Members → Prop}
    (hmember : ∀ {key value j s s' before}, value.toJson? = some j → I s before →
      member slots key value s = .ok s' → I s' (before.insert key j)) :
    ∀ {ms : List (Option String × Outline)} {s s' : σ} {before after : Members},
      Outline.toMembers? before ms = some after → I s before →
        members slots skip ms s = .ok s' → I s' after
  | [], s, s', before, after, hafter, hI, h => by
    cases hafter
    cases h
    exact hI
  | (none, _) :: _, s, s', before, after, hafter, hI, h => by cases h
  | (some key, value) :: rest, s, s', before, after, hafter, hI, h => by
    obtain ⟨j, hj, hrest⟩ := Option.bind_eq_some_iff.mp hafter
    rw [members_cons] at h
    obtain ⟨s₁, hs, h⟩ := bind_eq_ok_iff.mp h
    exact members_invariant hmember hrest (hmember hj hI hs) h

theorem record_obj {α : Type} {empty : σ} {finish : σ → Option α}
    {ms : List (Option String × Outline)} {a : α}
    (h : record slots empty finish (.obj false ms true) = .ok a) :
    ∃ s, members slots skip ms empty = .ok s ∧ finish s = some a := by
  simp only [record, bind, Except.bind, pure, Except.pure, Bool.false_eq_true, if_false,
    Bool.not_true] at h
  cases hs : members slots skip ms empty with
  | error e => simp [hs] at h
  | ok s =>
    simp only [hs] at h
    split at h
    · rename_i b hb
      cases h
      exact ⟨s, rfl, hb⟩
    · cases h

end Reader

theorem Outline.toJson?_eq_obj {o : Outline} {ms : Members} (h : o.toJson? = some (.obj ms)) :
    ∃ members, o = .obj false members true ∧ toMembers? [] members = some ms := by
  cases o with
  | obj deep members whole =>
    cases deep <;> cases whole <;> simp [toJson?] at h
    exact ⟨members, rfl, h⟩
  | arr deep items whole => cases deep <;> cases whole <;> simp [toJson?] at h
  | _ => simp [toJson?] at h

theorem Outline.toJson?_eq_arr {o : Outline} {xs : List Json} (h : o.toJson? = some (.arr xs)) :
    ∃ items, o = .arr false items true ∧ toItems? items = some xs := by
  cases o with
  | arr deep items whole =>
    cases deep <;> cases whole <;> simp [toJson?] at h
    exact ⟨items, rfl, h⟩
  | obj deep members whole => cases deep <;> cases whole <;> simp [toJson?] at h
  | _ => simp [toJson?] at h

namespace Engine

/-! ## Nodes -/

namespace ListedNode

/-- A node under construction has what the members tell. -/
structure Draft.Matches (d : Draft) (ms : Members) : Prop where
  id : ms.member? "id" = d.id.map Json.str
  kind : ms.member? "type" = d.kind.map Json.str
  label : ms.member? "label" = d.label.map fun j => j.getD .null

theorem find?_slots (key : String) :
    (key = "id" ∧ (slots.find? fun slot => slot.key == key) = some (Reader.slot "id" Reader.string
      (·.id) fun a d => { d with id := some a })) ∨
    (key = "type" ∧ (slots.find? fun slot => slot.key == key) = some (Reader.slot "type"
      Reader.string (·.kind) fun a d => { d with kind := some a })) ∨
    (key = "label" ∧ (slots.find? fun slot => slot.key == key) = some (Reader.slot "label"
      Reader.json.optional (·.label) fun a d => { d with label := some a })) ∨
    (key ≠ "id" ∧ key ≠ "type" ∧ key ≠ "label" ∧
      (slots.find? fun slot => slot.key == key) = none) := by
  by_cases hid : key = "id"
  · subst hid
    exact .inl ⟨rfl, rfl⟩
  by_cases hkind : key = "type"
  · subst hkind
    exact .inr (.inl ⟨rfl, rfl⟩)
  by_cases hlabel : key = "label"
  · subst hlabel
    exact .inr (.inr (.inl ⟨rfl, rfl⟩))
  · refine .inr (.inr (.inr ⟨hid, hkind, hlabel, ?_⟩))
    simp [slots, Reader.slot, Ne.symm hid, Ne.symm hkind, Ne.symm hlabel]

theorem string_eq_ok {o : Outline} {s : String} (h : Reader.string o = .ok s) : o = .str s := by
  cases o <;> simp [Reader.string] at h
  rw [h]

theorem optional_json_eq_ok {o : Outline} {label : Option Json} {j : Json}
    (hj : o.toJson? = some j) (h : Reader.json.optional o = .ok label) : j = label.getD .null := by
  cases o <;> simp [Reader.optional, Reader.json, hj, Except.map] at h
  all_goals subst h
  all_goals first | rfl | simpa [Outline.toJson?] using hj.symm

/-- A slot that is filled now was empty before. -/
theorem slot_eq_ok {α : Type} {key : String} {reader : Reader α} {get : Draft → Option α}
    {set : α → Draft → Draft} {value : Outline} {d d' : Draft}
    (hfind : (slots.find? fun slot => slot.key == key) = some (Reader.slot key reader get set))
    (h : Reader.member slots key value d = .ok d') :
    ∃ a, reader value = .ok a ∧ d' = set a d := by
  simp only [Reader.member, hfind, Reader.slot] at h
  split at h
  · cases h
  · cases hread : reader value with
    | error e => simp [hread, Except.map] at h
    | ok a => exact ⟨a, rfl, by simpa [hread, Except.map] using h.symm⟩

theorem Draft.Matches.member {key : String} {value : Outline} {j : Json} {d d' : Draft}
    {before : Members} (hj : value.toJson? = some j) (hd : d.Matches before)
    (h : Reader.member slots key value d = .ok d') : d'.Matches (before.insert key j) := by
  rcases find?_slots key with
    ⟨rfl, hfind⟩ | ⟨rfl, hfind⟩ | ⟨rfl, hfind⟩ | ⟨hid, hkind, hlabel, hfind⟩
  · obtain ⟨s, hread, rfl⟩ := slot_eq_ok hfind h
    obtain rfl := string_eq_ok hread
    cases hj
    exact ⟨by simp [Members.member?_insert], by simpa [Members.member?_insert] using hd.kind,
      by simpa [Members.member?_insert] using hd.label⟩
  · obtain ⟨s, hread, rfl⟩ := slot_eq_ok hfind h
    obtain rfl := string_eq_ok hread
    cases hj
    exact ⟨by simpa [Members.member?_insert] using hd.id, by simp [Members.member?_insert],
      by simpa [Members.member?_insert] using hd.label⟩
  · obtain ⟨label, hread, rfl⟩ := slot_eq_ok hfind h
    obtain rfl := optional_json_eq_ok hj hread
    exact ⟨by simpa [Members.member?_insert] using hd.id,
      by simpa [Members.member?_insert] using hd.kind, by simp [Members.member?_insert]⟩
  · have hkeep : d' = d := by
      simp only [Reader.member, hfind, Reader.skip] at h
      split at h
      · cases h
      · exact (Except.ok.inj h).symm
    subst hkeep
    exact ⟨by simpa [Members.member?_insert, Ne.symm hid] using hd.id,
      by simpa [Members.member?_insert, Ne.symm hkind] using hd.kind,
      by simpa [Members.member?_insert, Ne.symm hlabel] using hd.label⟩

/-- What a listing says of a node. -/
structure Shows (n : ListedNode) (ms : Members) : Prop where
  id : n.id = (ms.text? "id").getD ""
  kind : n.kind = (ms.text? "type").getD ""
  label : n.labelText? = ms.text? "label"

/-- A node has the identifier, the type and the label of its document. -/
theorem reader_spec {o : Outline} {ms : Members} {n : ListedNode}
    (ho : o.toJson? = some (.obj ms)) (h : reader o = .ok n) : n.Shows ms := by
  obtain ⟨members, rfl, hms⟩ := Outline.toJson?_eq_obj ho
  obtain ⟨d, hd, hfinish⟩ := Reader.record_obj h
  have hempty : Draft.Matches {} [] := ⟨rfl, rfl, rfl⟩
  have hmatch : d.Matches ms :=
    Reader.members_invariant (fun hj hd h => hd.member hj h) hms hempty hd
  cases hfinish
  obtain ⟨id, kind, label⟩ := d
  refine ⟨?_, ?_, ?_⟩
  · cases id <;> simp [Members.text?, hmatch.id, Draft.finish, Json.asString?]
  · cases kind <;> simp [Members.text?, hmatch.kind, Draft.finish, Json.asString?]
  · rcases label with _ | _ | label <;>
      simp [Members.text?, hmatch.label, Draft.finish, labelText?, Json.asString?]

end ListedNode

/-! ## Listings -/

namespace Listing

/-- The nodes of a listing are those of documents. -/
structure Shows (listing : Listing) (docs : List Members) : Prop where
  sound : ∀ n ∈ listing, ∃ ms ∈ docs, n.Shows ms
  complete : ∀ ms ∈ docs, ∃ n ∈ listing, n.Shows ms

theorem Shows.cons {n : ListedNode} {listing : Listing} {ms : Members} {docs : List Members}
    (hn : n.Shows ms) (h : Shows listing docs) : Shows (n :: listing) (ms :: docs) where
  sound := fun n' hn' => by
    rcases List.mem_cons.mp hn' with rfl | hn'
    · exact ⟨ms, List.mem_cons_self, hn⟩
    · obtain ⟨ms', hms', hshows⟩ := h.sound n' hn'
      exact ⟨ms', List.mem_cons_of_mem ms hms', hshows⟩
  complete := fun ms' hms' => by
    rcases List.mem_cons.mp hms' with rfl | hms'
    · exact ⟨n, List.mem_cons_self, hn⟩
    · obtain ⟨n', hn', hshows⟩ := h.complete ms' hms'
      exact ⟨n', List.mem_cons_of_mem n hn', hshows⟩

theorem mapM_spec : ∀ {items : List Outline} {docs : List Members} {listing : Listing},
    Outline.toItems? items = some (docs.map Json.obj) →
      items.mapM ListedNode.reader = .ok listing → Shows listing docs
  | [], docs, listing, hdocs, h => by
    cases h
    cases docs with
    | nil => exact ⟨by simp, by simp⟩
    | cons ms docs => simp [Outline.toItems?] at hdocs
  | o :: items, docs, listing, hdocs, h => by
    obtain ⟨j, hj, hitems⟩ := Option.bind_eq_some_iff.mp hdocs
    obtain ⟨js, hjs, heq⟩ := Option.map_eq_some_iff.mp hitems
    cases docs with
    | nil => cases heq
    | cons ms docs =>
      obtain ⟨rfl, rfl⟩ := List.cons.inj heq
      rw [List.mapM_cons] at h
      obtain ⟨n, hn, h⟩ := bind_eq_ok_iff.mp h
      obtain ⟨rest, hrest, h⟩ := bind_eq_ok_iff.mp h
      cases h
      exact .cons (ListedNode.reader_spec hj hn) (mapM_spec hjs hrest)

theorem nodes_spec {o : Outline} {docs : List Members} {listing : Listing}
    (ho : o.toJson? = some (.arr (docs.map Json.obj))) (h : nodes o = .ok listing) :
    Shows listing docs := by
  obtain ⟨items, rfl, hitems⟩ := Outline.toJson?_eq_arr ho
  simp only [nodes, Reader.list, bind, Except.bind, Bool.false_eq_true, if_false, if_true] at h
  cases hread : items.mapM ListedNode.reader with
  | error e => simp [hread] at h
  | ok nodes =>
    simp only [hread, Except.ok.injEq] at h
    subst h
    exact mapM_spec hitems hread

/-- A document that lists nodes: their array, or an object that has the array under `flows`. -/
inductive IsOf (docs : List Members) : Json → Prop where
  | flat : IsOf docs (.arr (docs.map Json.obj))
  | versioned (ms : Members) (h : ms.member? "flows" = some (.arr (docs.map Json.obj))) :
    IsOf docs (.obj ms)

/-- The array under `flows` has been read, if there is one. -/
def Found (listing : Option Listing) (ms : Members) : Prop :=
  match listing with
  | none => ms.member? "flows" = none
  | some listing => ∃ o : Outline, nodes o = .ok listing ∧ o.toJson? = ms.member? "flows"

theorem Found.member {key : String} {value : Outline} {j : Json} {s s' : Option Listing}
    {before : Members} (hj : value.toJson? = some j) (hs : Found s before)
    (h : Reader.member [Reader.slot "flows" nodes id fun a _ => some a] key value s = .ok s') :
    Found s' (before.insert key j) := by
  by_cases hkey : key = "flows"
  · subst hkey
    simp only [Reader.member, Reader.slot, List.find?_cons, beq_self_eq_true] at h
    split at h
    · cases h
    · cases hread : nodes value with
      | error e => simp [hread, Except.map] at h
      | ok listing =>
        simp only [hread, Except.map, Except.ok.injEq] at h
        subst h
        exact ⟨value, hread, by simp [Members.member?_insert, hj]⟩
  · have hkeep : s' = s := by
      simp only [Reader.member, Reader.slot, List.find?_cons, List.find?_nil,
        beq_eq_false_iff_ne.mpr (Ne.symm hkey), Reader.skip] at h
      split at h
      · cases h
      · exact (Except.ok.inj h).symm
    subst hkeep
    cases s' with
    | none => simpa [Found, Members.member?_insert, Ne.symm hkey] using hs
    | some listing => simpa [Found, Members.member?_insert, Ne.symm hkey] using hs

theorem reader_spec {o : Outline} {doc : Json} {docs : List Members} {listing : Listing}
    (hdoc : IsOf docs doc) (ho : o.toJson? = some doc) (h : reader o = .ok listing) :
    Shows listing docs := by
  cases hdoc with
  | flat =>
    obtain ⟨items, rfl, -⟩ := Outline.toJson?_eq_arr ho
    exact nodes_spec ho h
  | versioned ms hflows =>
    obtain ⟨members, rfl, hms⟩ := Outline.toJson?_eq_obj ho
    obtain ⟨s, hs, hfinish⟩ := Reader.record_obj h
    have hempty : Found none [] := rfl
    have hfound : Found s ms := Reader.members_invariant Found.member hms hempty hs
    cases hfinish
    obtain ⟨o, hnodes, ho⟩ := hfound
    exact nodes_spec (ho.trans hflows) hnodes

theorem ofText?_spec {text : String} {doc : Json} {docs : List Members} {listing : Listing}
    (hdoc : IsOf docs doc) (htext : Json.ofText? text = some doc)
    (h : ofText? text = some listing) : Shows listing docs := by
  unfold Json.ofText? at htext
  unfold ofText? at h
  simp only at htext h
  split at htext
  · split at h
    · cases hread : reader (Outline.ofText text).document with
      | error e => simp [hread, Except.toOption] at h
      | ok found =>
        simp only [hread, Except.toOption, Option.some.injEq] at h
        subst h
        exact reader_spec hdoc htext hread
    · cases h
  · cases htext

end Listing

end Engine

end UplinkFlow
