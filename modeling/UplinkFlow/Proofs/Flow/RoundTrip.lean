import UplinkFlow.Proofs.Flow.Arrangement
import UplinkFlow.Proofs.Json.ReadBack

/-!
# A flow's document

* `Node.toJson?_ofPrinted` — a node that is read again from its text has a text that loses nothing.
* `Flow.ofText_eq_ok_iff` — **a flow is read again from its text exactly if its document is read
  back**.
* `Flow.toJson_of_ofJson?`, `Flow.toJson_of_ofText` — a flow is written as its document was, but
  arranged.
* `Flow.nesting_arranged_of_ofText?` — the document of a text is not nested too deep then, so that
  the numbers alone decide.
-/

set_option autoImplicit false

namespace UplinkFlow

open Outline (maxDepth)

/-! ## Nodes -/

namespace Node

variable {n : Node} {depth : Nat}

theorem IsProper.unique_members (h : n.IsProper) : (Json.obj n.members).HasUniqueKeys := by
  obtain ⟨id, kind, tab, props⟩ := n
  obtain ⟨hdistinct, hvalues⟩ := Json.hasUniqueKeys_obj.mp h.unique
  obtain ⟨hid, hkind, htab⟩ : "id" ∉ props.map Prod.fst ∧ "type" ∉ props.map Prod.fst ∧
      "z" ∉ props.map Prod.fst := by simpa using h.free
  refine Json.hasUniqueKeys_obj.mpr ⟨?_, ?_⟩
  · rw [Members.HasDistinctKeys] at hdistinct ⊢
    cases tab <;> simp only [members, Option.map_none, Option.map_some, Option.toList_none,
      Option.toList_some, List.cons_append, List.nil_append, List.map_cons, List.nodup_cons,
      List.mem_cons, hid, hkind, htab, hdistinct] <;> decide
  · cases tab <;> simpa [members] using hvalues

/-- Members under other keys than those that every node has are the others. -/
theorem others_of_free {ms : Members} (h : ∀ key ∈ ["id", "type", "z"], key ∉ ms.map Prod.fst) :
    ms.others = ms := by
  refine List.filter_eq_self.mpr fun m hm => ?_
  have hkey : m.1 ∉ ["id", "type", "z"] := fun hkey => h m.1 hkey (List.mem_map_of_mem hm)
  simpa using hkey

/-- What is kept of a proper node's members is these members, if the others are its properties. -/
theorem IsProper.eq_members (h : n.IsProper) {kept : Members}
    (hkept : List.Forall₂ (Outline.IsKept depth) n.members kept) (hprops : n.props = kept.others) :
    kept = n.members := by
  have hstring {key s : String} {m : String × Json} (hm : Outline.IsKept depth (key, .str s) m) :
      m = (key, .str s) := Prod.ext hm.1 (Option.some.inj hm.2).symm
  have hothers {ms : Members} (hms : List.Forall₂ (Outline.IsKept depth) n.props ms) :
      ms.others = ms := others_of_free (Outline.map_fst_of_isKept hms ▸ h.free)
  obtain ⟨id, kind, tab, props⟩ := n
  cases tab with
  | none =>
    rcases hkept with _ | ⟨hid, _ | @⟨_, _, _, ms, hkind, hms⟩⟩
    obtain rfl := hstring hid
    obtain rfl := hstring hkind
    obtain rfl : props = ms := hprops.trans (hothers hms)
    rfl
  | some tab =>
    rcases hkept with _ | ⟨hid, _ | ⟨hkind, _ | @⟨_, _, _, ms, htab, hms⟩⟩⟩
    obtain rfl := hstring hid
    obtain rfl := hstring hkind
    obtain rfl := hstring htab
    obtain rfl : props = ms := hprops.trans (hothers hms)
    rfl

/-- A node that is read again from its text has a text that loses nothing. -/
theorem toJson?_ofPrinted (h : n.IsProper)
    (hread : reader (Outline.ofPrinted depth n.toJson) = .ok n) :
    (Outline.ofPrinted depth n.toJson).toJson? = some n.toJson := by
  obtain ⟨ns, hns, -, hprops⟩ := members_of_reader hread
  have hsame : ns = n.members := by
    rw [toJson_eq, Outline.ofPrinted, Outline.toJson?] at hns
    split at hns
    · cases hns
    obtain ⟨_, hmembers, ⟨⟩⟩ := Option.map_eq_some_iff.mp hns
    obtain ⟨_, rfl, hkept⟩ :=
      Outline.toMembers?_ofPrintedMembers (by simpa using h.unique_members.1) hmembers
    exact h.eq_members hkept hprops
  rw [hns, hsame, toJson_eq]

end Node

/-! ## Arranged documents -/

theorem Members.mem_of_mem_arranged {ms : Members} {m : String × Json} (h : m ∈ ms.arranged) :
    m ∈ ms := by
  simp only [arranged, under, others, List.mem_append, List.mem_filter] at h
  tauto

theorem Json.nesting_arranged_le (j : Json) : j.arranged.nesting ≤ j.nesting := by
  have hnode (j : Json) : j.arrangedNode.nesting ≤ j.nesting := by
    cases j with
    | obj ms =>
      exact nesting_obj_le.mpr fun m hm =>
        memberNesting_le.mp (Nat.le_refl _) m (Members.mem_of_mem_arranged hm)
    | _ => exact Nat.le_refl _
  cases j with
  | arr items =>
    refine nesting_arr_le.mpr (List.forall_mem_map.mpr fun x hx => (hnode x).trans ?_)
    exact itemNesting_le.mp (Nat.le_refl _) x hx
  | _ => exact Nat.le_refl _

/-! ## Flows -/

namespace Flow

variable {flow : Flow} {text : String}

theorem forall_of_mapM_ofPrintedItems {depth : Nat} : ∀ {flow : Flow},
    (Outline.ofPrintedItems depth (flow.map Node.toJson)).mapM Node.reader = .ok flow →
      ∀ n ∈ flow, Node.reader (Outline.ofPrinted depth n.toJson) = .ok n
  | [], _ => nofun
  | n :: flow, h => by
    rw [List.map_cons, Outline.ofPrintedItems, List.mapM_cons] at h
    obtain ⟨m, hm, h⟩ := bind_eq_ok_iff.mp h
    obtain ⟨rest, hrest, h⟩ := bind_eq_ok_iff.mp h
    obtain ⟨rfl, rfl⟩ := List.cons.inj (Except.ok.inj h)
    exact List.forall_mem_cons.mpr ⟨hm, forall_of_mapM_ofPrintedItems hrest⟩

/-- **A flow of proper nodes is read again from its text exactly if its document is read back.** -/
theorem ofText_eq_ok_iff (h : ∀ n ∈ flow, n.IsProper) (htext : flow.toJson.IsWrittenAs text) :
    Flow.reader.ofText text = .ok flow ↔ flow.toJson.ReadsBack := by
  rw [Reader.ofText_of_isWrittenAs _ htext]
  constructor
  · intro hread
    obtain ⟨items, hitems, hread⟩ := Reader.list_eq_ok.mp hread
    obtain rfl := (Outline.arr.inj hitems).2.1
    refine Json.readsBackWithin_arr.mpr (List.forall_mem_map.mpr fun n hn => ?_)
    exact Json.readsBackWithin_of_toJson? (h n hn).unique_members
      (Node.toJson?_ofPrinted (h n hn) (forall_of_mapM_ofPrintedItems hread n hn))
  · intro hback
    rw [Outline.ofPrinted_of_readsBack hback]
    exact Reader.ofJson?_eq_some.mp (ofJson?_toJson h)

theorem toJson_of_ofJson? {document : Json} (hunique : document.HasUniqueKeys)
    (h : Flow.reader.ofJson? document = some flow) : flow.toJson = document.arranged := by
  obtain ⟨kept, hkept, harranged⟩ := toJson_of_reader (Reader.ofJson?_eq_some.mp h)
  obtain rfl : document = kept := by simpa [Outline.toJson?_ofJson hunique] using hkept
  exact harranged

/-- A flow that has been read from a text is written as the text's document, but arranged. -/
theorem toJson_of_ofText (h : Flow.reader.ofText text = .ok flow) :
    ∃ document, Json.ofText? text = some document ∧ flow.toJson = document.arranged := by
  obtain ⟨halone, hread⟩ := Reader.ofText_eq_ok.mp h
  obtain ⟨document, hdocument, harranged⟩ := toJson_of_reader hread
  exact ⟨document, by simp [Json.ofText?, halone, hdocument], harranged⟩

theorem isProper_of_ofText (h : Flow.reader.ofText text = .ok flow) : ∀ n ∈ flow, n.IsProper :=
  isProper_of_reader (Reader.ofText_eq_ok.mp h).2

theorem nesting_arranged_of_ofText? {document : Json} (h : Json.ofText? text = some document) :
    document.arranged.nesting ≤ maxDepth :=
  document.nesting_arranged_le.trans (Json.nesting_le_of_ofText? h)

end Flow

end UplinkFlow
