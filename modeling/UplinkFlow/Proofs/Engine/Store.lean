import UplinkFlow.Engine.Basic
import UplinkFlow.Proofs.Engine.Listing

/-!
# An engine that holds flows

* `Store` — the flows that an engine holds, each with an identifier, a label and its nodes.
* `Store.IsSound` — identifiers are pairwise different, and each is of hexadecimal digits and dots.
* `Answers` — what an engine can do with a request.  It may list its flows or change one, and it
  may refuse any request.  Nothing is assumed of the answer to a change that takes effect, which may
  also get lost.
-/

set_option autoImplicit false

namespace UplinkFlow.Engine

/-- A flow that the engine holds. -/
structure Deployed where
  id : String
  label : String
  nodes : Json

/-- The flows that the engine holds. -/
abbrev Store := List Deployed

/-- Hexadecimal digits and dots, with a digit among them. -/
structure IsNodeId (id : String) : Prop where
  chars : (id.toList.all fun c => Text.isHexDigit c || c == '.') = true
  digit : id.toList.any Text.isHexDigit = true

namespace Store

/-- Identifiers tell the flows apart. -/
structure IsSound (s : Store) : Prop where
  distinct : (s.map (·.id)).Nodup
  ids : ∀ d ∈ s, IsNodeId d.id

/-- No label stands for two flows. -/
def HasDistinctLabels (s : Store) : Prop := (s.map (·.label)).Nodup

def labelled (label : String) (s : Store) : Store := s.filter fun d => d.label == label

/-- The store with another label and other nodes under an identifier. -/
def replace (id label : String) (nodes : Json) (s : Store) : Store :=
  s.map fun d => if d.id = id then ⟨id, label, nodes⟩ else d

def remove (id : String) (s : Store) : Store := s.filter fun d => d.id != id

def isTab (ms : Members) : Bool := ms.text? "type" == some Node.tabKind

/-- Documents list a store if there is one tab for each flow, in any order; there may be any other
nodes between them. -/
def IsListedBy (s : Store) (docs : List Members) : Prop :=
  ((docs.filter isTab).map fun ms => (ms.text? "id", ms.text? "label")).Perm
    (s.map fun d => (some d.id, some d.label))

end Store

/-- The label and the nodes that a request submits. -/
structure Submits (r : Request) (label : String) (nodes : Json) : Prop where
  body : ∃ ms : Members, r.body = some (.obj ms) ∧ ms.text? "label" = some label ∧
    ms.member? "nodes" = some nodes

/-- Whether an outcome tells that a change has been made. -/
def Outcome.isAccepted : Outcome → Bool
  | .answered response => response.status == 200 || response.status == 204
  | _ => false

theorem Outcome.isUnconnected_of_isAccepted {outcome : Outcome} (h : outcome.isAccepted = true) :
    outcome.isUnconnected = false := by
  cases outcome with
  | answered => rfl
  | _ => cases h

/-- What an engine can do with a request, and the flows that it holds afterwards.  Its interface
begins at the path `mount`.

* `refused` — nothing, whatever the request;
* `listed`, `cut` — it lists its flows, or the listing breaks off;
* `created`, `replaced`, `removed` — it makes the change that it is asked for. -/
inductive Answers (mount : String) (s : Store) (r : Request) : Outcome → Store → Prop where
  | refused (outcome : Outcome) (h : outcome.isAccepted = false) : Answers mount s r outcome s
  | listed (method : r.method = .get) (path : r.url.path.text = mount ++ "/flows")
    (docs : List Members) (all : s.IsListedBy docs) (doc : Json) (form : Listing.IsOf docs doc)
    (text : String) (parsed : Json.ofText? text = some doc) :
    Answers mount s r (.answered ⟨200, .whole (Text.utf8Bytes text)⟩) s
  | cut (method : r.method = .get) (content : Content) (h : ∀ bytes, content ≠ .whole bytes) :
    Answers mount s r (.answered ⟨200, content⟩) s
  | created (method : r.method = .post) (path : r.url.path.text = mount ++ "/flow")
    (label : String) (nodes : Json) (submits : Submits r label nodes) (id : String)
    (valid : IsNodeId id) (fresh : ∀ d ∈ s, d.id ≠ id) (outcome : Outcome)
    (sent : outcome.isUnconnected = false) : Answers mount s r outcome (⟨id, label, nodes⟩ :: s)
  | replaced (method : r.method = .put) (id : String) (held : ∃ d ∈ s, d.id = id)
    (path : r.url.path.text = mount ++ "/flow/" ++ id) (label : String) (nodes : Json)
    (submits : Submits r label nodes) (outcome : Outcome) (sent : outcome.isUnconnected = false) :
    Answers mount s r outcome (s.replace id label nodes)
  | removed (method : r.method = .delete) (id : String) (held : ∃ d ∈ s, d.id = id)
    (path : r.url.path.text = mount ++ "/flow/" ++ id) (outcome : Outcome)
    (sent : outcome.isUnconnected = false) : Answers mount s r outcome (s.remove id)

namespace Answers

variable {mount : String} {s s' : Store} {r : Request} {outcome : Outcome}

/-- A request that does not reach the engine has no effect. -/
theorem eq_of_isUnconnected (h : Answers mount s r outcome s')
    (hunconnected : outcome.isUnconnected = true) : s' = s := by
  cases h with
  | refused => rfl
  | listed => rfl
  | cut => rfl
  | created _ _ _ _ _ _ _ _ _ sent => simp [hunconnected] at sent
  | replaced _ _ _ _ _ _ _ _ sent => simp [hunconnected] at sent
  | removed _ _ _ _ _ sent => simp [hunconnected] at sent

end Answers

/-! ## Changes under one label -/

namespace Store

variable {s s' : Store} {label : String}

/-- What an operation on a label can do to a store. -/
inductive Change (label : String) (s : Store) : Store → Prop where
  | nothing : Change label s s
  | created (d : Deployed) (same : d.label = label) (new : ∀ e ∈ s, e.label ≠ label)
    (valid : IsNodeId d.id) (fresh : ∀ e ∈ s, e.id ≠ d.id) : Change label s (d :: s)
  | replaced (d : Deployed) (held : d ∈ s) (same : d.label = label) (nodes : Json) :
    Change label s (s.replace d.id label nodes)
  | removed (d : Deployed) (held : d ∈ s) (same : d.label = label) : Change label s (s.remove d.id)

/-- The state of an engine that the client keeps in order. -/
structure IsTidy (s : Store) : Prop extends IsSound s where
  labels : s.HasDistinctLabels

theorem IsSound.label_eq {d e : Deployed} (h : s.IsSound) (hd : d ∈ s) (he : e ∈ s)
    (hid : e.id = d.id) : e.label = d.label := by
  have hdistinct := h.distinct
  clear h
  induction s with
  | nil => cases hd
  | cons f s ih =>
    obtain ⟨hnot, hrest⟩ := List.nodup_cons.mp hdistinct
    have hother : ∀ {g : Deployed}, g ∈ s → g.id ≠ f.id :=
      fun hg heq => hnot (List.mem_map.mpr ⟨_, hg, heq⟩)
    rcases List.mem_cons.mp hd with rfl | hd'
    · rcases List.mem_cons.mp he with rfl | he'
      · rfl
      · exact absurd hid (hother he')
    · rcases List.mem_cons.mp he with rfl | he'
      · exact absurd hid.symm (hother hd')
      · exact ih hd' he' hrest

/-- A label stands for the one flow that has it. -/
theorem HasDistinctLabels.labelled_eq {d : Deployed} (h : s.HasDistinctLabels) (hd : d ∈ s) :
    s.labelled d.label = [d] := by
  unfold HasDistinctLabels at h
  induction s with
  | nil => cases hd
  | cons e s ih =>
    obtain ⟨hnot, hrest⟩ := List.nodup_cons.mp h
    rcases List.mem_cons.mp hd with rfl | hd
    · have hnone : s.filter (fun e => e.label == d.label) = [] := by
        refine List.filter_eq_nil_iff.mpr fun e he heq => ?_
        exact hnot (List.mem_map.mpr ⟨e, he, by simpa using heq⟩)
      simp [labelled, hnone]
    · have hne : e.label ≠ d.label := fun heq => hnot (List.mem_map.mpr ⟨d, hd, heq.symm⟩)
      have := ih hrest hd
      simpa [labelled, hne] using this

theorem HasDistinctLabels.labelled_remove {d : Deployed} (h : s.HasDistinctLabels) (hd : d ∈ s) :
    (s.remove d.id).labelled d.label = [] := by
  refine List.filter_eq_nil_iff.mpr fun e he hlabel => ?_
  obtain ⟨he, hid⟩ := List.mem_filter.mp he
  have honly : e ∈ s.labelled d.label := List.mem_filter.mpr ⟨he, hlabel⟩
  rw [h.labelled_eq hd, List.mem_singleton] at honly
  simp [honly] at hid

theorem replace_ids (id : String) (nodes : Json) :
    (s.replace id label nodes).map (·.id) = s.map (·.id) := by
  rw [replace, List.map_map]
  refine List.map_congr_left fun e _ => ?_
  by_cases h : e.id = id <;> simp [h]

theorem replace_labels {id : String} (nodes : Json) (h : ∀ e ∈ s, e.id = id → e.label = label) :
    (s.replace id label nodes).map (·.label) = s.map (·.label) := by
  rw [replace, List.map_map]
  refine List.map_congr_left fun e he => ?_
  by_cases hid : e.id = id
  · simp [hid, h e he hid]
  · simp [hid]

theorem labelled_replace_of_ne {id label' : String} (nodes : Json)
    (h : ∀ e ∈ s, e.id = id → e.label = label) (hne : label' ≠ label) :
    (s.replace id label nodes).labelled label' = s.labelled label' := by
  induction s with
  | nil => rfl
  | cons e s ih =>
    have ih := ih fun e' he' => h e' (List.mem_cons_of_mem e he')
    unfold replace labelled at *
    by_cases hid : e.id = id
    · have he : e.label = label := h e List.mem_cons_self hid
      simp only [List.map_cons, if_pos hid, List.filter_cons, he, beq_eq_false_iff_ne.mpr hne.symm,
        Bool.false_eq_true, if_false, ih]
    · simp only [List.map_cons, if_neg hid, List.filter_cons, ih]

theorem labelled_remove_of_ne {id label' : String} (h : ∀ e ∈ s, e.id = id → e.label ≠ label') :
    (s.remove id).labelled label' = s.labelled label' := by
  rw [labelled, remove, List.filter_filter]
  refine List.filter_congr fun e he => ?_
  by_cases hid : e.id = id
  · simp [hid, h e he hid]
  · simp [hid]

namespace Change

theorem isTidy (h : Change label s s') (hs : s.IsTidy) : s'.IsTidy := by
  cases h with
  | nothing => exact hs
  | created d same new valid fresh =>
    refine ⟨⟨?_, ?_⟩, ?_⟩
    · refine List.nodup_cons.mpr ⟨fun hmem => ?_, hs.distinct⟩
      obtain ⟨e, he, heq⟩ := List.mem_map.mp hmem
      exact fresh e he heq
    · intro e he
      rcases List.mem_cons.mp he with rfl | he
      · exact valid
      · exact hs.ids e he
    · refine List.nodup_cons.mpr ⟨fun hmem => ?_, hs.labels⟩
      obtain ⟨e, he, heq⟩ := List.mem_map.mp hmem
      exact new e he (heq.trans same)
  | replaced d held same nodes =>
    have hlabel : ∀ e ∈ s, e.id = d.id → e.label = label :=
      fun e he hid => (hs.toIsSound.label_eq held he hid).trans same
    refine ⟨⟨?_, ?_⟩, ?_⟩
    · rw [replace_ids]
      exact hs.distinct
    · intro e he
      obtain ⟨e', he', heq⟩ := List.mem_map.mp he
      have hid : e.id = e'.id := by
        rw [← heq]
        split
        · rename_i hid
          exact hid.symm
        · rfl
      rw [hid]
      exact hs.ids e' he'
    · rw [HasDistinctLabels, replace_labels nodes hlabel]
      exact hs.labels
  | removed d held same =>
    exact ⟨⟨hs.distinct.sublist (List.filter_sublist.map _),
      fun e he => hs.ids e (List.mem_filter.mp he).1⟩,
      hs.labels.sublist (List.filter_sublist.map _)⟩

/-- A change under one label leaves the flows of all other labels alone. -/
theorem labelled_eq (h : Change label s s') (hs : s.IsSound) {label' : String}
    (hne : label' ≠ label) : s'.labelled label' = s.labelled label' := by
  cases h with
  | nothing => rfl
  | created d same new valid fresh =>
    rw [labelled, List.filter_cons, same, beq_eq_false_iff_ne.mpr hne.symm]
    rfl
  | replaced d held same nodes =>
    exact labelled_replace_of_ne nodes
      (fun e he hid => (hs.label_eq held he hid).trans same) hne
  | removed d held same =>
    refine labelled_remove_of_ne fun e he hid heq => hne ?_
    rw [← heq, hs.label_eq held he hid, same]

end Change

end Store

end UplinkFlow.Engine
