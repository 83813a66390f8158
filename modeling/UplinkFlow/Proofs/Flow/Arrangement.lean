import UplinkFlow.Proofs.Flow.Rewriting
import UplinkFlow.Proofs.Flow.Shape
import UplinkFlow.Proofs.Json.Records
import UplinkFlow.Proofs.Json.Unique

/-!
# How a flow arranges the members of its nodes

A node writes its identifier, its type and its tab before its properties, wherever they have stood.

* `Members.arranged`, `Json.arranged` — a node's members and a flow's document in the order in which
  they are written.
* `Node.toJson_of_reader`, `Flow.toJson_of_reader` — **what has been read is written as it was, but
  arranged.**
* `Node.IsProper` — what holds of every node that has been read, and of every rendered one.
* `Flow.ofJson?_toJson` — **the document of proper nodes is read as these nodes.**
-/

set_option autoImplicit false

namespace UplinkFlow

/-! ## Arranged members -/

def Json.isNull : Json → Bool
  | .null => true
  | _ => false

namespace Members

/-- The members under a key. -/
def under (key : String) (ms : Members) : Members := ms.filter (·.1 == key)

/-- The members under other keys than those that every node has. -/
def others (ms : Members) : Members :=
  ms.filter fun m => !(["id", "type", "z"].contains m.1)

/-- The members with the identifier, the type and a tab that is not `null` in front, and the others
behind in their order. -/
def arranged (ms : Members) : Members :=
  ms.under "id" ++ ms.under "type" ++ (ms.under "z").filter (!·.2.isNull) ++ ms.others

theorem filter_insert (p : String → Bool) (key : String) (value : Json) (ms : Members) :
    (ms.insert key value).filter (fun m => p m.1) =
      if p key then insert key value (ms.filter fun m => p m.1) else ms.filter fun m => p m.1 := by
  induction ms with
  | nil => cases h : p key <;> simp [insert, h]
  | cons m ms ih =>
    obtain ⟨k, v⟩ := m
    by_cases hk : k = key
    · subst hk
      cases h : p k <;> simp [insert, h]
    · cases hkey : p key <;> cases h : p k <;> simp [insert, hk, h, hkey, ih]

@[simp] theorem under_insert_self (key : String) (value : Json) (ms : Members) :
    (ms.insert key value).under key = (ms.under key).insert key value := by
  simpa [under] using filter_insert (· == key) key value ms

theorem under_insert_of_ne {key key' : String} (h : key ≠ key') (value : Json) (ms : Members) :
    (ms.insert key value).under key' = ms.under key' := by
  simpa [under, h] using filter_insert (· == key') key value ms

theorem others_insert_of_mem {key : String} (h : key ∈ ["id", "type", "z"]) (value : Json)
    (ms : Members) : (ms.insert key value).others = ms.others := by
  refine (filter_insert (fun k => !(["id", "type", "z"].contains k)) key value ms).trans (if_neg ?_)
  simp only [List.contains_eq_mem, h, decide_true, Bool.not_true, Bool.false_eq_true,
    not_false_eq_true]

theorem others_insert_of_notMem {key : String} (h : key ∉ ["id", "type", "z"]) (value : Json)
    (ms : Members) : (ms.insert key value).others = ms.others.insert key value := by
  refine (filter_insert (fun k => !(["id", "type", "z"].contains k)) key value ms).trans (if_pos ?_)
  simp only [List.contains_eq_mem, h, decide_false, Bool.not_false]

end Members

/-- A node's document, or a flow's, in the order in which it is written. -/
def Json.arrangedNode : Json → Json
  | .obj ms => .obj (Members.arranged ms)
  | j => j

@[inherit_doc Json.arrangedNode]
def Json.arranged : Json → Json
  | .arr items => .arr (items.map Json.arrangedNode)
  | j => j

/-! ## Reading a node -/

namespace Node

/-- A node under construction holds all members read so far, apart from their order. -/
structure Draft.Keeps (d : Draft) (before : Members) : Prop where
  id : before.under "id" = (d.id.map fun id => ("id", Json.str id)).toList
  kind : before.under "type" = (d.kind.map fun kind => ("type", Json.str kind)).toList
  tab : before.under "z" = (d.tab.map fun tab => ("z", (tab.map Json.str).getD .null)).toList
  props : before.others = d.props

theorem Draft.Keeps.member {d d' : Draft} {before : Members} {k : String} {o : Outline}
    {rest : List (Option String × Outline)} (h : d.Keeps before)
    (hread : Reader.members slots keep ((some k, o) :: rest) d = .ok d') :
    ∃ j d₁, o.toJson? = some j ∧ d₁.Keeps (before.insert k j) ∧
      Reader.members slots keep rest d₁ = .ok d' := by
  rcases find?_slots k with ⟨rfl, hfind⟩ | ⟨rfl, hfind⟩ | ⟨rfl, hfind⟩ | ⟨hk, hfind⟩
  · obtain ⟨hempty, id, hid, hrest⟩ := Reader.members_slot hfind hread
    obtain rfl := Reader.string_eq_ok.mp hid
    refine ⟨.str id, _, rfl, ⟨?_, ?_, ?_, ?_⟩, hrest⟩
    · rw [Members.under_insert_self, h.id, hempty]
      rfl
    · rw [Members.under_insert_of_ne (by decide), h.kind]
    · rw [Members.under_insert_of_ne (by decide), h.tab]
    · rw [Members.others_insert_of_mem (by decide), h.props]
  · obtain ⟨hempty, kind, hkind, hrest⟩ := Reader.members_slot hfind hread
    obtain rfl := Reader.string_eq_ok.mp hkind
    refine ⟨.str kind, _, rfl, ⟨?_, ?_, ?_, ?_⟩, hrest⟩
    · rw [Members.under_insert_of_ne (by decide), h.id]
    · rw [Members.under_insert_self, h.kind, hempty]
      rfl
    · rw [Members.under_insert_of_ne (by decide), h.tab]
    · rw [Members.others_insert_of_mem (by decide), h.props]
  · obtain ⟨hempty, tab, htab, hrest⟩ := Reader.members_slot hfind hread
    refine ⟨_, _, Reader.toJson?_of_optional_string htab, ⟨?_, ?_, ?_, ?_⟩, hrest⟩
    · rw [Members.under_insert_of_ne (by decide), h.id]
    · rw [Members.under_insert_of_ne (by decide), h.kind]
    · rw [Members.under_insert_self, h.tab, hempty]
      rfl
    · rw [Members.others_insert_of_mem (by decide), h.props]
  · obtain ⟨d₁, hkeep, hrest⟩ := Reader.members_other hfind hread
    obtain ⟨j, hj, rfl⟩ : ∃ j, o.toJson? = some j ∧
        d₁ = { d with props := d.props.insert k j } := by
      simp only [keep, Reader.json] at hkeep
      cases hj : o.toJson? with
      | none => simp [hj, Except.map] at hkeep
      | some j => exact ⟨j, rfl, by simpa [hj, Except.map] using hkeep.symm⟩
    have hne : ∀ key ∈ ["id", "type", "z"], k ≠ key := fun key hkey heq => hk (heq ▸ hkey)
    refine ⟨j, _, hj, ⟨?_, ?_, ?_, ?_⟩, hrest⟩
    · rw [Members.under_insert_of_ne (hne "id" (by decide)), h.id]
    · rw [Members.under_insert_of_ne (hne "type" (by decide)), h.kind]
    · rw [Members.under_insert_of_ne (hne "z" (by decide)), h.tab]
    · rw [Members.others_insert_of_notMem hk, h.props]

theorem Draft.Keeps.members : ∀ {ms : List (Option String × Outline)} {d d' : Draft}
    {before : Members}, d.Keeps before → Reader.members slots keep ms d = .ok d' →
      ∃ after, Outline.toMembers? before ms = some after ∧ d'.Keeps after
  | [], d, d', before, h, hread => by
    cases hread
    exact ⟨before, rfl, h⟩
  | (none, _) :: _, _, _, _, _, hread => by cases hread
  | (some k, o) :: ms, d, d', before, h, hread => by
    obtain ⟨j, d₁, hj, hkeeps, hrest⟩ := h.member hread
    obtain ⟨after, hafter, hd'⟩ := Draft.Keeps.members hkeeps hrest
    exact ⟨after, by rw [Outline.toMembers?, hj, Option.bind_some, hafter], hd'⟩

theorem Draft.Keeps.members_eq {d : Draft} {ms : Members} {n : Node} (h : d.Keeps ms)
    (hfinish : d.finish? = some n) : n.members = ms.arranged ∧ n.props = ms.others := by
  obtain ⟨id, kind, tab, props⟩ := d
  cases id with
  | none => cases hfinish
  | some id =>
  cases kind with
  | none => cases hfinish
  | some kind =>
  obtain rfl := Option.some.inj hfinish
  refine ⟨?_, h.props.symm⟩
  rw [Members.arranged, h.id, h.kind, h.tab, h.props]
  rcases tab with _ | _ | tab <;> rfl

/-- What is kept of a node's outline is an object, and the node has its members. -/
theorem members_of_reader {o : Outline} {n : Node} (h : reader o = .ok n) :
    ∃ ms : Members, o.toJson? = some (.obj ms) ∧ n.members = ms.arranged ∧ n.props = ms.others := by
  cases o with
  | obj deep members whole =>
    cases deep with
    | true => cases h
    | false =>
      obtain ⟨d, hd, h⟩ := bind_eq_ok_iff.mp h
      have hempty : Draft.Keeps {} [] := ⟨rfl, rfl, rfl, rfl⟩
      obtain ⟨ms, hms, hkeeps⟩ := hempty.members hd
      cases whole with
      | false => cases h
      | true =>
        cases hfinish : d.finish? with
        | none => simp [hfinish] at h
        | some n' =>
          obtain rfl : n' = n := by simpa [hfinish] using h
          exact ⟨ms, by simp [Outline.toJson?, hms], hkeeps.members_eq hfinish⟩
  | _ => cases h

/-- **A node that has been read is written as its document was, but arranged.** -/
theorem toJson_of_reader {o : Outline} {n : Node} (h : reader o = .ok n) :
    ∃ j, o.toJson? = some j ∧ n.toJson = j.arrangedNode := by
  obtain ⟨ms, hms, hmembers, -⟩ := members_of_reader h
  exact ⟨.obj ms, hms, by rw [toJson_eq, hmembers, Json.arrangedNode]⟩

/-! ## Proper nodes -/

/-- The properties of a node have unique keys, none of which is that of a member that every node
has. -/
structure IsProper (n : Node) : Prop where
  unique : (Json.obj n.props).HasUniqueKeys
  free : ∀ key ∈ ["id", "type", "z"], key ∉ n.props.map Prod.fst

theorem isProper_of_reader {o : Outline} {n : Node} (h : reader o = .ok n) : n.IsProper := by
  obtain ⟨ms, hms, -, hprops⟩ := members_of_reader h
  obtain ⟨hdistinct, hvalues⟩ := Json.hasUniqueKeys_obj.mp (Outline.hasUniqueKeys_of_toJson? hms)
  have hsub : ms.others.Sublist ms := List.filter_sublist
  refine ⟨hprops ▸ Json.hasUniqueKeys_obj.mpr ⟨?_, fun m hm => hvalues m (hsub.mem hm)⟩, ?_⟩
  · exact hdistinct.sublist (hsub.map Prod.fst)
  · intro key hkey hmem
    rw [hprops] at hmem
    obtain ⟨m, hm, rfl⟩ := List.mem_map.mp hmem
    have hother := (List.mem_filter.mp hm).2
    simp only [List.contains_eq_mem, hkey, decide_true, Bool.not_true, Bool.false_eq_true] at hother

namespace IsProper

variable {n : Node} {f : String → Option String}

theorem rewrite (h : n.IsProper) : (n.rewrite f).IsProper where
  unique := by
    have hrewrite := h.unique.rewrite (f := f)
    rwa [Json.rewrite_obj] at hrewrite
  free := fun key hkey => by
    rw [Node.rewrite, Members.map_fst_rewrite]
    exact h.free key hkey

theorem set (h : n.IsProper) {key : String} (hkey : key ∉ ["id", "type", "z"]) (value : String) :
    (n.set key value).IsProper where
  unique := Members.hasUniqueKeys_insert h.unique (Json.hasUniqueKeys_str value) key
  free := fun own hown => by
    rw [Node.set, Members.map_fst_insert]
    split
    · exact h.free own hown
    · rw [List.mem_append, List.mem_singleton, not_or]
      exact ⟨h.free own hown, fun heq => hkey (heq ▸ hown)⟩

end IsProper

/-- Members without a slot are kept as they are, if their keys are unique. -/
theorem members_keep : ∀ {props : Members} {d : Draft},
    (∀ key ∈ ["id", "type", "z"], key ∉ props.map Prod.fst) →
    ((d.props ++ props).map Prod.fst).Nodup → (∀ m ∈ props, m.2.HasUniqueKeys) →
    Reader.members slots keep (Outline.ofMembers props) d = .ok { d with props := d.props ++ props }
  | [], d, _, _, _ => by
    rw [List.append_nil]
    rfl
  | (k, v) :: props, d, hfree, hkeys, hvalues => by
    obtain ⟨hv, hvalues⟩ := List.forall_mem_cons.mp hvalues
    have hnew : k ∉ d.props.map Prod.fst := Members.notMem_before hkeys
    have hk : k ∉ ["id", "type", "z"] := fun hk => hfree k hk (by simp)
    rcases find?_slots k with ⟨rfl, -⟩ | ⟨rfl, -⟩ | ⟨rfl, -⟩ | ⟨-, hfind⟩
    · simp at hk
    · simp at hk
    · simp at hk
    · have hkeep : keep k (Outline.ofJson v) d = .ok { d with props := d.props ++ [(k, v)] } := by
        simp [keep, Reader.json, Outline.toJson?_ofJson hv, Except.map,
          Members.insert_of_notMem hnew]
      rw [List.append_cons] at hkeys ⊢
      refine (Reader.members_cons_other hfind).mpr ⟨_, hkeep, ?_⟩
      exact members_keep (fun key hkey hmem => hfree key hkey (List.mem_cons_of_mem k hmem)) hkeys
        hvalues

theorem reader_toJson {n : Node} (h : n.IsProper) : reader (Outline.ofJson n.toJson) = .ok n := by
  obtain ⟨id, kind, tab, props⟩ := n
  obtain ⟨hdistinct, hvalues⟩ := Json.hasUniqueKeys_obj.mp h.unique
  have hprops (d : Draft) (hd : d.props = []) :
      Reader.members slots keep (Outline.ofMembers props) d = .ok { d with props } := by
    have hall := members_keep (d := d) h.free
      (by simpa [hd, Members.HasDistinctKeys] using hdistinct) hvalues
    rwa [hd, List.nil_append] at hall
  rw [toJson_eq, reader_obj_eq_ok]
  rcases find?_slots "id" with ⟨-, hid⟩ | ⟨h, -⟩ | ⟨h, -⟩ | ⟨h, -⟩
  rcases find?_slots "type" with ⟨h, -⟩ | ⟨-, hkind⟩ | ⟨h, -⟩ | ⟨h, -⟩
  all_goals try simp at h
  refine ⟨⟨some id, some kind, tab.map some, props⟩, ?_, by cases tab <;> rfl⟩
  refine (Reader.members_cons_slot hid).mpr ⟨rfl, id, rfl, ?_⟩
  refine (Reader.members_cons_slot hkind).mpr ⟨rfl, kind, rfl, ?_⟩
  cases tab with
  | none => exact hprops _ rfl
  | some tab =>
    rcases find?_slots "z" with ⟨h, -⟩ | ⟨h, -⟩ | ⟨-, htab⟩ | ⟨h, -⟩
    all_goals try simp at h
    exact (Reader.members_cons_slot htab).mpr ⟨rfl, some tab, rfl, hprops _ rfl⟩

end Node

/-! ## Flows -/

namespace Flow

variable {flow : Flow}

theorem isProper_of_reader {o : Outline} (h : Flow.reader o = .ok flow) :
    ∀ n ∈ flow, n.IsProper :=
  Reader.forall_of_list (fun _ _ => Node.isProper_of_reader) h

/-- **A flow that has been read is written as its document was, but arranged.** -/
theorem toJson_of_reader {o : Outline} (h : Flow.reader o = .ok flow) :
    ∃ j, o.toJson? = some j ∧ flow.toJson = j.arranged := by
  obtain ⟨items, rfl, hitems⟩ := Reader.list_eq_ok.mp h
  clear h
  obtain ⟨js, hjs, hmap⟩ : ∃ js, Outline.toItems? items = some js ∧
      flow.map Node.toJson = js.map Json.arrangedNode := by
    induction items generalizing flow with
    | nil =>
      cases hitems
      exact ⟨[], rfl, rfl⟩
    | cons o items ih =>
      rw [List.mapM_cons] at hitems
      obtain ⟨n, hn, hitems⟩ := bind_eq_ok_iff.mp hitems
      obtain ⟨rest, hrest, hitems⟩ := bind_eq_ok_iff.mp hitems
      cases hitems
      obtain ⟨j, hj, hnode⟩ := Node.toJson_of_reader hn
      obtain ⟨js, hjs, hmap⟩ := ih hrest
      exact ⟨j :: js, by simp [Outline.toItems?, hj, hjs], by simp [hnode, hmap]⟩
  exact ⟨.arr js, by simp [Outline.toJson?, hjs], by rw [toJson, hmap, Json.arranged]⟩

/-- **The document of proper nodes is read as these nodes.** -/
theorem ofJson?_toJson (h : ∀ n ∈ flow, n.IsProper) : Flow.reader.ofJson? flow.toJson = some flow :=
  Reader.ofJson?_eq_some.mpr (Reader.list_ofJson fun n hn => Node.reader_toJson (h n hn))

end Flow

end UplinkFlow
