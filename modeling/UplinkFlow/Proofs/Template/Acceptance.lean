import UplinkFlow.Proofs.Flow.Shape
import UplinkFlow.Proofs.Template.Reference

/-!
# Accepted templates

* `Template.ofJson_of_flow`, `Template.ofJson_of_not_flow` — what becomes of a document.
* `Template.splicedKinds` — the types of the nodes that take the sensor's data.
* `Template.accepted_iff_and_renders` — **a document is accepted exactly if it is a flow with a tab,
  and then every rendering of it succeeds**, node by node, with nodes of those types in the same
  places.
-/

set_option autoImplicit false

namespace UplinkFlow

theorem Flow.tab?_eq_none_iff {flow : Flow} :
    flow.tab? = none ↔ Node.tabKind ∉ flow.map (·.kind) := by
  simp [Flow.tab?, Node.isTab, List.find?_eq_none]

namespace Template

open NodeIdPattern (shifted)

variable {t : Template} {p : NodeIdPattern} {document : Json}

/-! ## Acceptance -/

theorem ofJson_of_flow {heads : List (String × String)} (h : document.IsFlow heads) :
    ofJson document p = if Node.tabKind ∈ heads.map Prod.snd then .ok ⟨document, p⟩
      else .error .noTab := by
  obtain ⟨flow, hflow, rfl⟩ := Flow.isFlow_iff.mp h
  have hkinds : (flow.map Node.head).map Prod.snd = flow.map (·.kind) := by simp [Node.head]
  simp only [ofJson, hflow, hkinds]
  cases htab : flow.tab? with
  | none => rw [if_neg (Flow.tab?_eq_none_iff.mp htab)]
  | some tab =>
    refine (if_pos (by_contra fun hnot => ?_)).symm
    rw [Flow.tab?_eq_none_iff.mpr hnot] at htab
    cases htab

theorem ofJson_of_not_flow (h : ¬ ∃ heads, document.IsFlow heads) :
    ofJson document p = .error .notNodes := by
  cases hflow : Flow.reader.ofJson? document with
  | none => simp only [ofJson, hflow]
  | some flow => exact absurd ⟨_, Flow.isFlow_iff.mpr ⟨flow, hflow, rfl⟩⟩ h

theorem ofJson_cases (document : Json) (p : NodeIdPattern) :
    (∃ heads, document.IsFlow heads ∧ Node.tabKind ∈ heads.map Prod.snd ∧
        ofJson document p = .ok ⟨document, p⟩) ∨
      (∃ heads, document.IsFlow heads ∧ Node.tabKind ∉ heads.map Prod.snd ∧
        ofJson document p = .error .noTab) ∨
      ((¬ ∃ heads, document.IsFlow heads) ∧ ofJson document p = .error .notNodes) := by
  by_cases hflow : ∃ heads, document.IsFlow heads
  · obtain ⟨heads, hheads⟩ := hflow
    have hresult := ofJson_of_flow (p := p) hheads
    by_cases htab : Node.tabKind ∈ heads.map Prod.snd
    · rw [if_pos htab] at hresult
      exact .inl ⟨heads, hheads, htab, hresult⟩
    · rw [if_neg htab] at hresult
      exact .inr (.inl ⟨heads, hheads, htab, hresult⟩)
  · exact .inr (.inr ⟨hflow, ofJson_of_not_flow hflow⟩)

/-! ## Rendering -/

/-- The types of the nodes that take the sensor's data. -/
def splicedKinds : List String :=
  [Node.tabKind, Node.uplinkKind, Node.appKind, Node.functionKind, Node.storeKind]

@[simp] theorem splice_kind (decoder : String) (sensor : Sensor) (layout : Layout) (node : Node) :
    (splice decoder sensor layout node).kind = node.kind := by
  unfold splice
  repeat' split
  all_goals rfl

/-- No type becomes one of those that take data, nor does one of these change. -/
theorem shifted_eq_splicedKind_iff {kind spliced : String} (h : spliced ∈ splicedKinds) (n : Nat) :
    shifted p n kind = spliced ↔ kind = spliced := by
  refine shifted_eq_iff_of_no_dot ?_ kind
  simp only [splicedKinds, List.mem_cons, List.not_mem_nil, or_false] at h
  rcases h with rfl | rfl | rfl | rfl | rfl <;> decide

/-- A node stands for a node of the template: its identifier is moved, and it takes the sensor's
data exactly if that node does. -/
def StandsFor (p : NodeIdPattern) (n : Nat) : String × String → Node → Prop
  | (id, kind), node => node.id = shifted p n id ∧
      ∀ spliced ∈ splicedKinds, node.kind = spliced ↔ kind = spliced

/-- Rendering goes node by node. -/
theorem renderBy_standsFor (haccept : ofJson document p = .ok t) (emitter : Emitter) (n : Nat)
    (sensor : Sensor) (layout : Layout) : ∃ F : Flow,
      t.renderBy emitter n sensor layout = .ok F ∧
      List.Forall₂ (StandsFor p n) (t.flow.map Node.head) F := by
  refine ⟨_, renderBy_eq_ok haccept emitter n sensor layout, ?_⟩
  rw [List.map_map, List.forall₂_map_left_iff, List.forall₂_map_right_iff, List.forall₂_same]
  intro node _
  refine ⟨splice_id .., fun spliced hspliced => ?_⟩
  rw [Function.comp_apply, splice_kind]
  exact shifted_eq_splicedKind_iff hspliced n

/-- **A document is accepted exactly if it is a flow with a tab, and then every rendering of it
succeeds.**  A flow without a tab and a document that is no flow are refused each for its own
reason.  A rendering has one node for each node of the template, in order, and the nodes that take
the sensor's data are in the places where they were. -/
theorem accepted_iff_and_renders (document : Json) (p : NodeIdPattern) :
    ((∃ t, ofJson document p = .ok t) ↔
      ∃ heads, document.IsFlow heads ∧ Node.tabKind ∈ heads.map Prod.snd) ∧
    (ofJson document p = .error .noTab ↔
      ∃ heads, document.IsFlow heads ∧ Node.tabKind ∉ heads.map Prod.snd) ∧
    (ofJson document p = .error .notNodes ↔ ¬ ∃ heads, document.IsFlow heads) ∧
    ∀ t heads, ofJson document p = .ok t → document.IsFlow heads →
      ∀ (emitter : Emitter) (n : Nat) (sensor : Sensor) (layout : Layout), ∃ F : Flow,
        t.renderBy emitter n sensor layout = .ok F ∧ List.Forall₂ (StandsFor p n) heads F := by
  refine ⟨⟨?_, ?_⟩, ⟨?_, ?_⟩, ⟨?_, ofJson_of_not_flow⟩, ?_⟩
  · rintro ⟨t, haccept⟩
    rcases ofJson_cases document p with ⟨heads, hflow, htab, -⟩ | ⟨_, -, -, h⟩ | ⟨-, h⟩
    · exact ⟨heads, hflow, htab⟩
    · cases haccept.symm.trans h
    · cases haccept.symm.trans h
  · rintro ⟨heads, hflow, htab⟩
    exact ⟨_, (ofJson_of_flow hflow).trans (if_pos htab)⟩
  · intro hrefused
    rcases ofJson_cases document p with ⟨_, -, -, h⟩ | ⟨heads, hflow, htab, -⟩ | ⟨-, h⟩
    · cases hrefused.symm.trans h
    · exact ⟨heads, hflow, htab⟩
    · cases hrefused.symm.trans h
  · rintro ⟨heads, hflow, htab⟩
    exact (ofJson_of_flow hflow).trans (if_neg htab)
  · intro hrefused
    rcases ofJson_cases document p with ⟨_, -, -, h⟩ | ⟨_, -, -, h⟩ | ⟨hnot, -⟩
    · cases hrefused.symm.trans h
    · cases hrefused.symm.trans h
    · exact hnot
  · intro t heads haccept hflow emitter n sensor layout
    obtain ⟨flow, hread, rfl⟩ := Flow.isFlow_iff.mp hflow
    obtain rfl : t.flow = flow := Option.some.inj ((ofJson_eq_ok haccept).2.symm.trans hread)
    exact renderBy_standsFor haccept emitter n sensor layout

/-- A document of a node whose type is written like an identifier, and a tab that belongs to none. -/
def typedLikeIdentifier : Json :=
  .arr [.obj [("type", .str "aaaaaaaa.000002"), ("id", .str "aaaaaaaa.000001")],
    .obj [("id", .str "tab"), ("z", .null), ("type", .str "tab")]]

/-- The type is moved like an identifier, and the tab stays a tab. -/
theorem accepted_iff_and_renders_movedType :
    ∃ (t : Template) (x y : Node), ofJson typedLikeIdentifier .fixed = .ok t ∧
      t.renderBy scriptEmitter 7 sampleSensor sampleLayout = .ok [x, y] ∧
      x.id = shifted .fixed 7 "aaaaaaaa.000001" ∧ x.kind ∉ splicedKinds ∧
      y.id = shifted .fixed 7 "tab" ∧ y.kind = Node.tabKind := by
  have hflow : typedLikeIdentifier.IsFlow [("aaaaaaaa.000001", "aaaaaaaa.000002"), ("tab", "tab")] :=
    ⟨_, rfl, .cons ⟨_, rfl, rfl, rfl, .inl rfl⟩ (.cons ⟨_, rfl, rfl, rfl, .inr (.inl rfl)⟩ .nil)⟩
  obtain ⟨haccept, -, -, hrender⟩ := accepted_iff_and_renders typedLikeIdentifier .fixed
  obtain ⟨t, ht⟩ := haccept.mpr ⟨_, hflow, by decide⟩
  obtain ⟨F, hF, hnodes⟩ := hrender t _ ht hflow scriptEmitter 7 sampleSensor sampleLayout
  obtain _ | ⟨hx, _ | ⟨hy, _ | _⟩⟩ := hnodes
  refine ⟨t, _, _, ht, hF, hx.1, fun hspliced => ?_, hy.1, (hy.2 _ (by decide)).mpr rfl⟩
  have hkind := (hx.2 _ hspliced).mp rfl
  rw [← hkind] at hspliced
  exact absurd hspliced (by decide)

end Template

end UplinkFlow
