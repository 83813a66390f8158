import UplinkFlow.Proofs.Flow.Reading
import UplinkFlow.Proofs.Template.Rendering

/-!
# References between the nodes of a rendered flow

* `Template.IsSpliced` — the places of a node that rendering fills with the sensor's data.
* `Template.splice_eq` — splicing sets the texts of `Template.splicedTexts` in order, and that is all.
* `Template.renderBy_at?` — every other string of a template is moved where it stands.
* `Template.references_survive` — **a string that names a node of the template names the same node
  of the rendered flow**, at every other place and for every number.
-/

set_option autoImplicit false

namespace UplinkFlow

/-! ## Documents of rewritten nodes -/

namespace Node

variable {f : String → Option String}

theorem toJson_rewrite (n : Node) : (n.rewrite f).toJson = n.toJson.rewrite f := by
  obtain ⟨id, kind, tab, props⟩ := n
  cases tab <;> simp [toJson, rewrite]

/-- Setting a property leaves what stands under the other keys alone. -/
theorem at?_set_of_ne {name key : String} (h : name ≠ key) (n : Node) (value : String)
    (rest : List Json.Step) :
    (n.set key value).toJson.at? (.key name :: rest) = n.toJson.at? (.key name :: rest) := by
  simp only [toJson_eq, Json.at?, members, set, Members.last?_append, Members.last?_insert_of_ne h]

end Node

namespace Template

open NodeIdPattern (shifted)

variable {t : Template} {p : NodeIdPattern} {document : Json} {n : Nat} {emitter : Emitter}
  {sensor : Sensor} {layout : Layout} {F : Flow}

/-! ## Splicing -/

/-- The properties of a type of nodes that rendering sets. -/
def splicedKeys (kind : String) : List String :=
  if kind = Node.tabKind then ["label"]
  else if kind = Node.uplinkKind then ["dev_id"]
  else if kind = Node.appKind then ["appId", "accessKey"]
  else if kind = Node.functionKind then ["func"]
  else if kind = Node.storeKind then ["measurement"]
  else []

/-- Whether a place of a node is one that rendering fills, or lies in one. -/
def IsSpliced (kind : String) : List Json.Step → Prop
  | .key name :: _ => name ∈ splicedKeys kind
  | _ => False

instance (kind : String) (place : List Json.Step) : Decidable (IsSpliced kind place) :=
  match place with
  | .key name :: _ => inferInstanceAs (Decidable (name ∈ splicedKeys kind))
  | .item _ :: _ | [] => isFalse id

@[simp] theorem splice_tab (decoder : String) (sensor : Sensor) (layout : Layout) (node : Node) :
    (splice decoder sensor layout node).tab = node.tab := by
  unfold splice
  repeat' split
  all_goals rfl

/-- The texts that go into the properties of a node, by its type, with their keys. -/
def splicedTexts (decoder : String) (sensor : Sensor) (layout : Layout) (kind : String) :
    List (String × String) :=
  if kind = Node.tabKind then [("label", sensor.id)]
  else if kind = Node.uplinkKind then [("dev_id", sensor.binding.deviceId)]
  else if kind = Node.appKind then
    [("appId", sensor.binding.appId), ("accessKey", sensor.binding.accessKey)]
  else if kind = Node.functionKind then [("func", decoder)]
  else if kind = Node.storeKind then [("measurement", layout.measurement)]
  else []

theorem map_fst_splicedTexts (decoder : String) (sensor : Sensor) (layout : Layout)
    (kind : String) :
    (splicedTexts decoder sensor layout kind).map Prod.fst = splicedKeys kind := by
  unfold splicedTexts splicedKeys
  repeat' split
  all_goals rfl

/-- Splicing sets these texts in order, and that is all. -/
theorem splice_eq (decoder : String) (sensor : Sensor) (layout : Layout) (node : Node) :
    splice decoder sensor layout node = (splicedTexts decoder sensor layout node.kind).foldl
      (fun n text => n.set text.1 text.2) node := by
  unfold splice splicedTexts
  repeat' split
  all_goals rfl

theorem at?_splice {node : Node} {name : String} (h : name ∉ splicedKeys node.kind)
    (decoder : String) (sensor : Sensor) (layout : Layout) (rest : List Json.Step) :
    (splice decoder sensor layout node).toJson.at? (.key name :: rest) =
      node.toJson.at? (.key name :: rest) := by
  rw [← map_fst_splicedTexts decoder sensor layout] at h
  rw [splice_eq]
  generalize splicedTexts decoder sensor layout node.kind = texts at h ⊢
  induction texts generalizing node with
  | nil => rfl
  | cons text texts ih =>
    simp only [List.map_cons, List.mem_cons, not_or] at h
    rw [List.foldl_cons, ih h.2, Node.at?_set_of_ne h.1]

/-- A text without a dot is no identifier, nor does one become such a text. -/
theorem shifted_eq_iff_of_no_dot {name : String} (hname : '.' ∉ name.toList) (a : String) :
    shifted p n a = name ↔ a = name := by
  unfold shifted NodeIdPattern.shift?
  cases hparts : p.split? a with
  | none => rfl
  | some parts =>
    obtain ⟨stem, u⟩ := parts
    have ha : a ≠ name := by
      rintro rfl
      rw [(NodeIdPattern.split?_spec hparts).1] at hname
      exact hname (by simp)
    simp only [Option.bind_some]
    split
    · have hmoved : String.ofList (stem ++ '.' :: Text.hexPadded u.length (Text.hexValue u + n)) ≠
          name := by
        rintro rfl
        exact hname (by simp)
      simp only [Option.getD_some, ha, hmoved]
    · rfl

/-- Rendering changes no node into one of another type that matters. -/
theorem splicedKeys_shifted (kind : String) :
    splicedKeys (shifted p n kind) = splicedKeys kind := by
  simp only [splicedKeys, shifted_eq_iff_of_no_dot (show '.' ∉ Node.tabKind.toList by decide),
    shifted_eq_iff_of_no_dot (show '.' ∉ Node.uplinkKind.toList by decide),
    shifted_eq_iff_of_no_dot (show '.' ∉ Node.appKind.toList by decide),
    shifted_eq_iff_of_no_dot (show '.' ∉ Node.functionKind.toList by decide),
    shifted_eq_iff_of_no_dot (show '.' ∉ Node.storeKind.toList by decide)]

/-! ## Rendering -/

section Rendered

variable (haccept : ofJson document p = .ok t)
  (hF : t.renderBy emitter n sensor layout = .ok F)

include haccept hF

/-- A string of a template is moved where it stands, unless it is overwritten. -/
theorem renderBy_at? {i : Nat} {node : Node} {place : List Json.Step} {s : String}
    (hi : t.flow[i]? = some node) (hplace : ¬ IsSpliced node.kind place)
    (hs : document.at? (.item i :: place) = some (.str s)) :
    F.toJson.at? (.item i :: place) = some (.str (shifted p n s)) := by
  have hflow := Flow.at?_of_ofJson? (ofJson_eq_ok haccept).2 hs
  have hnode : node.toJson.at? place = some (.str s) := by
    simpa [Flow.toJson, Json.at?, hi] using hflow
  have hmoved : (node.rewrite (p.shift? n)).toJson.at? place = some (.str (shifted p n s)) := by
    rw [Node.toJson_rewrite, Json.at?_rewrite, hnode]
    simp [shifted, Json.rewriteText]
  rcases place with _ | ⟨name | index, rest⟩
  · cases hnode
  · have hname : name ∉ splicedKeys (node.rewrite (p.shift? n)).kind := by
      show name ∉ splicedKeys (shifted p n node.kind)
      rw [splicedKeys_shifted]
      exact hplace
    have hget := renderBy_getElem? haccept hF i
    rw [hi, Option.map_some] at hget
    simpa [Flow.toJson, Json.at?, hget] using
      (at?_splice hname (emitter (Plan.of sensor layout)) sensor layout rest).trans hmoved
  · cases hnode

/-- A rendered node belongs to a tab if the node of the template does. -/
theorem renderBy_tab {x : Node} (hx : x ∈ F) :
    ∃ node ∈ t.flow, x.tab = node.tab.map (shifted p n) := by
  rw [renderBy_eq_ok haccept] at hF
  obtain rfl := Except.ok.inj hF
  simp only [List.map_map, List.mem_map, Function.comp_apply] at hx
  obtain ⟨node, hnode, rfl⟩ := hx
  exact ⟨node, hnode, by rw [splice_tab]; rfl⟩

end Rendered

/-- **References survive rendering.**  A string that is the identifier of a node in the template, at
any place that the sensor's data do not fill, is in the rendered flow the identifier of the node
that stands where that node stood; so tabs that belong to the template belong to the flow.  That
holds for every number: identifiers that it does not move stay, and so do the references to them. -/
theorem references_survive (haccept : ofJson document p = .ok t) (emitter : Emitter) (n : Nat)
    (sensor : Sensor) (layout : Layout) :
    ∃ F : Flow, t.renderBy emitter n sensor layout = .ok F ∧ F.length = t.flow.length ∧
      (∀ (i j : Nat) (node target : Node) (place : List Json.Step),
        t.flow[i]? = some node → t.flow[j]? = some target → ¬ IsSpliced node.kind place →
        document.at? (.item i :: place) = some (.str target.id) →
        ∃ target', F[j]? = some target' ∧
          F.toJson.at? (.item i :: place) = some (.str target'.id)) ∧
      ((∀ node ∈ t.flow, ∀ tab, node.tab = some tab → tab ∈ t.flow.ids) →
        ∀ node ∈ F, ∀ tab, node.tab = some tab → tab ∈ F.ids) := by
  have hF := renderBy_eq_ok haccept emitter n sensor layout
  refine ⟨_, hF, renderBy_length haccept hF, ?_, ?_⟩
  · intro i j node target place hi hj hplace hs
    obtain ⟨target', htarget, hid⟩ := renderBy_id haccept hF hj
    exact ⟨target', htarget, hid ▸ renderBy_at? haccept hF hi hplace hs⟩
  · intro hresolve x hx tab htab
    obtain ⟨node, hnode, hmoved⟩ := renderBy_tab haccept hF hx
    rw [hmoved, Option.map_eq_some_iff] at htab
    obtain ⟨tab, htab, rfl⟩ := htab
    have hmem : tab ∈ t.nodeIds := List.mem_eraseDups.mp (hresolve node hnode tab htab)
    rw [Flow.ids, List.mem_eraseDups, renderBy_ids haccept hF]
    exact List.mem_map_of_mem hmem

/-- A document of a tab and a node that refers to it twice. -/
def referring : Json :=
  .arr [.obj [("id", .str "aaaaaaaa.000001"), ("type", .str "tab")],
    .obj [("id", .str "aaaaaaaa.000002"), ("type", .str "function"),
      ("z", .str "aaaaaaaa.000001"), ("wires", .arr [.arr [.str "aaaaaaaa.000001"]])]]

/-- The number moves the tab to the greatest word and leaves the other node where it is. -/
theorem references_survive_overflow :
    let t : Template := ⟨referring, .legacy⟩
    ofJson referring .legacy = .ok t ∧
      ∃ (F : Flow) (tab : Node),
        t.renderBy scriptEmitter 0xFFFFFFFFFFFFFFFE sampleSensor sampleLayout = .ok F ∧
        F[0]? = some tab ∧ tab.id = "aaaaaaaa.ffffffffffffffff" ∧
        F.toJson.at? [.item 1, .key "z"] = some (.str tab.id) ∧
        F.toJson.at? [.item 1, .key "wires", .item 0, .item 0] = some (.str tab.id) ∧
        ∀ node ∈ F, ∀ tab, node.tab = some tab → tab ∈ F.ids := by
  intro t
  have haccept : ofJson referring .legacy = .ok t := rfl
  have hflow : t.flow = [⟨"aaaaaaaa.000001", "tab", none, []⟩, ⟨"aaaaaaaa.000002", "function",
      some "aaaaaaaa.000001", [("wires", .arr [.arr [.str "aaaaaaaa.000001"]])]⟩] := rfl
  have hresolve : ∀ node ∈ t.flow, ∀ tab, node.tab = some tab → tab ∈ t.flow.ids := by
    rw [hflow]
    simp [Flow.ids]
  obtain ⟨F, hF, -, hplaces, htabs⟩ := references_survive haccept scriptEmitter 0xFFFFFFFFFFFFFFFE
    sampleSensor sampleLayout
  obtain ⟨tab, htab, hid⟩ := renderBy_id haccept hF (i := 0) (by rw [hflow]; rfl)
  have hrefers : ∀ place, ¬ IsSpliced "function" place →
      referring.at? (.item 1 :: place) = some (.str "aaaaaaaa.000001") →
      F.toJson.at? (.item 1 :: place) = some (.str tab.id) := by
    intro place hplace hs
    obtain ⟨target, htarget, hat⟩ := hplaces 1 0 _ _ place (by rw [hflow]; rfl) (by rw [hflow]; rfl)
      hplace hs
    obtain rfl : tab = target := Option.some.inj (htab.symm.trans htarget)
    exact hat
  have hmoved : shifted .legacy 0xFFFFFFFFFFFFFFFE "aaaaaaaa.000001" =
      "aaaaaaaa.ffffffffffffffff" := by decide +kernel
  exact ⟨haccept, F, tab, hF, htab, hid.trans hmoved, hrefers _ (by decide +kernel) rfl,
    hrefers _ (by decide +kernel) rfl, htabs hresolve⟩

end Template

end UplinkFlow
