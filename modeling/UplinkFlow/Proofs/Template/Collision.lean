import Mathlib.Data.List.Nodup
import UplinkFlow.Proofs.Template.Rendering

/-!
# When rendered identifiers coincide

* `Template.Fits` — a number that takes no suffix of the template beyond 64 bits.
* `Template.renderBy_id_eq_iff` — **for such numbers, two rendered identifiers are the same exactly
  if the identifiers that they come from meet**; identifiers with different stems never do.
* `Template.renderBy_ids_nodup_iff` — **a rendered flow repeats no identifier exactly if no two of
  the template meet at its number**, which may be any.
* `Template.rendering_repeats_identifier` — two that differ in the case of a letter do meet.
-/

set_option autoImplicit false

namespace UplinkFlow

def NodeIdPattern.stem? (p : NodeIdPattern) (a : String) : Option (List Char) :=
  (p.split? a).map Prod.fst

namespace Template

open NodeIdPattern (Meets shifted shifted_eq_iff_of_le shifted_eq_iff_of_ne)

variable {t : Template} {p : NodeIdPattern} {document : Json} {n m : Nat}

/-- Adding a number to a suffix of the template never leaves 64 bits. -/
def Fits (t : Template) (n : Nat) : Prop :=
  ∀ a ∈ t.nodeIds, ∀ stem u, t.pattern.split? a = some (stem, u) →
    Text.hexValue u + n ≤ Text.maxWord

/-- No two nodes of the template have identifiers with the same stem. -/
def HasDistinctStems (t : Template) : Prop := (t.nodeIds.map t.pattern.stem?).Nodup

theorem mem_nodeIds {i : Nat} {node : Node} (hi : t.flow[i]? = some node) :
    node.id ∈ t.nodeIds :=
  List.mem_map_of_mem (List.mem_of_getElem? hi)

/-- Two identifiers of the template come to the same text exactly if they meet. -/
theorem Fits.shifted_eq_iff (hids : ∀ a ∈ t.nodeIds, t.pattern.isMatch a = true) (hn : t.Fits n)
    (hm : t.Fits m) {a b : String} (ha : a ∈ t.nodeIds) (hb : b ∈ t.nodeIds) :
    shifted t.pattern n a = shifted t.pattern m b ↔ Meets t.pattern n m a b := by
  obtain ⟨stem, u, hu⟩ := NodeIdPattern.isMatch_iff.mp (hids a ha)
  obtain ⟨stem', v, hv⟩ := NodeIdPattern.isMatch_iff.mp (hids b hb)
  exact shifted_eq_iff_of_le hu hv (hn a ha stem u hu) (hm b hb stem' v hv)

/-- Only an identifier itself has its stem, and it meets itself at one number alone. -/
theorem HasDistinctStems.eq_of_meets (h : t.HasDistinctStems) {a b : String} (ha : a ∈ t.nodeIds)
    (hb : b ∈ t.nodeIds) (hmeets : Meets t.pattern n m a b) : a = b ∧ n = m := by
  obtain ⟨stem, u, v, hu, hv, hsum, -⟩ := hmeets
  have hstem : t.pattern.stem? a = t.pattern.stem? b := by
    simp [NodeIdPattern.stem?, hu, hv]
  obtain rfl := List.inj_on_of_nodup_map h ha hb hstem
  obtain rfl : u = v := by simpa [hu] using hv
  exact ⟨rfl, by omega⟩

/-- **Two rendered identifiers are the same exactly if they have one stem, reach the same sum, and
write it in the same width.**  The numbers may be equal or not, as long as no sum leaves 64 bits.
A template whose identifiers have different stems is therefore rendered without a repetition, and
shares no identifier between two numbers. -/
theorem renderBy_id_eq_iff (haccept : ofJson document p = .ok t)
    (hids : ∀ a ∈ t.nodeIds, p.isMatch a = true) (hn : t.Fits n) (hm : t.Fits m)
    (emitter emitter' : Emitter) (sensor sensor' : Sensor) (layout layout' : Layout) :
    ∃ F G : Flow, t.renderBy emitter n sensor layout = .ok F ∧
      t.renderBy emitter' m sensor' layout' = .ok G ∧
      F.length = t.flow.length ∧ G.length = t.flow.length ∧
      (∀ (i j : Nat) (node node' : Node), t.flow[i]? = some node → t.flow[j]? = some node' →
        ∃ x y, F[i]? = some x ∧ G[j]? = some y ∧
          (x.id = y.id ↔ Meets p n m node.id node'.id)) ∧
      (t.HasDistinctStems → (F.map (·.id)).Nodup ∧ (n ≠ m → ∀ id ∈ F.ids, id ∉ G.ids)) := by
  have hF := renderBy_eq_ok haccept emitter n sensor layout
  have hG := renderBy_eq_ok haccept emitter' m sensor' layout'
  have hp : p = t.pattern := by rw [(ofJson_eq_ok haccept).1]
  refine ⟨_, _, hF, hG, renderBy_length haccept hF, renderBy_length haccept hG, ?_, ?_⟩
  · intro i j node node' hi hj
    obtain ⟨x, hx, hxid⟩ := renderBy_id haccept hF hi
    obtain ⟨y, hy, hyid⟩ := renderBy_id haccept hG hj
    refine ⟨x, y, hx, hy, ?_⟩
    subst hp
    rw [hxid, hyid]
    exact hn.shifted_eq_iff hids hm (mem_nodeIds hi) (mem_nodeIds hj)
  · intro hstems
    subst hp
    constructor
    · rw [renderBy_ids haccept hF]
      refine List.Nodup.map_on (fun a ha b hb heq => ?_) hstems.of_map
      exact (hstems.eq_of_meets ha hb ((hn.shifted_eq_iff hids hn ha hb).mp heq)).1
    · intro hne id hidF hidG
      simp only [Flow.ids, List.mem_eraseDups, renderBy_ids haccept hF, renderBy_ids haccept hG,
        List.mem_map] at hidF hidG
      obtain ⟨a, ha, rfl⟩ := hidF
      obtain ⟨b, hb, heq⟩ := hidG
      exact hne (hstems.eq_of_meets ha hb ((hn.shifted_eq_iff hids hm ha hb).mp heq.symm)).2

/-- A document with two identifiers of one stem and of different lengths. -/
def grown : Json :=
  .arr [.obj [("id", .str "aaaaaaaa.ffffe"), ("type", .str "tab")],
    .obj [("id", .str "aaaaaaaa.0fffff"), ("type", .str "comment")]]

/-- The shorter suffix outgrows its width and comes to where the longer one is a number earlier. -/
theorem renderBy_id_eq_iff_grown :
    let t : Template := ⟨grown, .legacy⟩
    (∀ a ∈ t.nodeIds, t.pattern.isMatch a = true) ∧ t.Fits 2 ∧ t.Fits 1 ∧
      ∃ (F G : Flow) (x y : Node), t.renderBy scriptEmitter 2 sampleSensor sampleLayout = .ok F ∧
        t.renderBy scriptEmitter 1 sampleSensor sampleLayout = .ok G ∧
        F[0]? = some x ∧ G[1]? = some y ∧ x.id = y.id := by
  intro t
  have hids : ∀ a ∈ t.nodeIds, t.pattern.isMatch a = true := by decide +kernel
  have hfits : ∀ n, n < 3 → t.Fits n := by
    intro n hn a ha stem u hu
    have hlt := NodeIdPattern.hexValue_suffix_lt hu
    have hmax : Text.maxWord = 0xFFFFFFFFFFFFFFFF := rfl
    omega
  have haccept : ofJson grown .legacy = .ok t := rfl
  obtain ⟨F, G, hF, hG, -, -, hiff, -⟩ := renderBy_id_eq_iff haccept hids (hfits 2 (by decide))
    (hfits 1 (by decide)) scriptEmitter scriptEmitter sampleSensor sampleSensor sampleLayout
    sampleLayout
  obtain ⟨x, y, hx, hy, heq⟩ := hiff 0 1 _ _ rfl rfl
  have hmeets : Meets .legacy 2 1 "aaaaaaaa.ffffe" "aaaaaaaa.0fffff" :=
    ⟨"aaaaaaaa".toList, "ffffe".toList, "0fffff".toList, by decide +kernel, by decide +kernel,
      by decide +kernel, by decide +kernel⟩
  exact ⟨hids, hfits 2 (by decide), hfits 1 (by decide), F, G, x, y, hF, hG, hx, hy,
    heq.mpr hmeets⟩

/-! ## One number -/

/-- **A rendered flow repeats no identifier exactly if no two identifiers of the template meet at
its number.**  Those that meet have one stem and suffixes that denote one number, but spell it in
different ways: with letters of another case, or with another number of zeros, which the sum
outgrows. -/
theorem renderBy_ids_nodup_iff (haccept : ofJson document p = .ok t)
    (hids : ∀ a ∈ t.nodeIds, p.isMatch a = true) (hdistinct : t.nodeIds.Nodup)
    (emitter : Emitter) (n : Nat) (sensor : Sensor) (layout : Layout) :
    ∃ F : Flow, t.renderBy emitter n sensor layout = .ok F ∧
      ((F.map (·.id)).Nodup ↔ ∀ a ∈ t.nodeIds, ∀ b ∈ t.nodeIds,
        (p.shift? n a).isSome = true → Meets p n n a b → a = b) := by
  have hF := renderBy_eq_ok haccept emitter n sensor layout
  refine ⟨_, hF, ?_⟩
  rw [renderBy_ids haccept hF, List.nodup_map_iff_inj_on hdistinct]
  constructor
  · intro hinj a ha b hb hmoves hmeets
    by_cases hne : a = b
    · exact hne
    · exact hinj a ha b hb ((shifted_eq_iff_of_ne (hids a ha) (hids b hb) hne).mpr ⟨hmoves, hmeets⟩)
  · intro hfree a ha b hb heq
    by_cases hne : a = b
    · exact hne
    · obtain ⟨hmoves, hmeets⟩ := (shifted_eq_iff_of_ne (hids a ha) (hids b hb) hne).mp heq
      exact hfree a ha b hb hmoves hmeets

/-- A document with two identifiers that differ in the case of a letter. -/
def letterCase : Json :=
  .arr [.obj [("id", .str "aaaaaaaa.00000a"), ("type", .str "tab")],
    .obj [("id", .str "aaaaaaaa.00000A"), ("type", .str "comment")]]

theorem letterCase_nodeIds : (⟨letterCase, .fixed⟩ : Template).nodeIds =
    ["aaaaaaaa.00000a", "aaaaaaaa.00000A"] := by
  decide +kernel

/-- Letters of another case spell the same number. -/
theorem renderBy_ids_nodup_iff_letterCase :
    let t : Template := ⟨letterCase, .fixed⟩
    (∀ a ∈ t.nodeIds, t.pattern.isMatch a = true) ∧ t.nodeIds.Nodup ∧
      ∃ F : Flow, t.renderBy scriptEmitter 1 sampleSensor sampleLayout = .ok F ∧
        ¬ (F.map (·.id)).Nodup := by
  intro t
  have hids : ∀ a ∈ t.nodeIds, t.pattern.isMatch a = true := by decide +kernel
  have hdistinct : t.nodeIds.Nodup := by decide +kernel
  have haccept : ofJson letterCase .fixed = .ok t := rfl
  obtain ⟨F, hF, hiff⟩ := renderBy_ids_nodup_iff haccept hids hdistinct scriptEmitter 1 sampleSensor
    sampleLayout
  refine ⟨hids, hdistinct, F, hF, fun hnodup => ?_⟩
  have hmeets : Meets .fixed 1 1 "aaaaaaaa.00000a" "aaaaaaaa.00000A" :=
    ⟨"aaaaaaaa".toList, "00000a".toList, "00000A".toList, by decide +kernel, by decide +kernel,
      by decide +kernel, by decide +kernel⟩
  have hmem : ∀ a ∈ ["aaaaaaaa.00000a", "aaaaaaaa.00000A"], a ∈ t.nodeIds := by
    intro a ha
    rwa [letterCase_nodeIds]
  have heq := hiff.mp hnodup "aaaaaaaa.00000a" (hmem _ (by simp)) "aaaaaaaa.00000A"
    (hmem _ (by simp)) (by decide +kernel) hmeets
  exact absurd heq (by decide)

/-- **A rendered flow may repeat an identifier** although the template's identifiers all follow the
pattern and are pairwise different. -/
theorem rendering_repeats_identifier : ¬ ∀ (document : Json) (p : NodeIdPattern) (t : Template)
    (n : Nat) (sensor : Sensor) (layout : Layout) (F : Flow),
    ofJson document p = .ok t → (∀ a ∈ t.nodeIds, p.isMatch a = true) → t.nodeIds.Nodup →
    n ≤ Text.maxWord → t.render n sensor layout = .ok F → (F.map (·.id)).Nodup := by
  intro hall
  have haccept : ofJson letterCase .fixed = .ok ⟨letterCase, .fixed⟩ := rfl
  obtain ⟨F, hF, hFids⟩ := render_eq_ok haccept 1 sampleSensor sampleLayout
  have hnodup := hall letterCase .fixed _ 1 sampleSensor sampleLayout F haccept (by decide +kernel)
    (by decide +kernel) (by decide) hF
  have hsame : shifted .fixed 1 "aaaaaaaa.00000a" = shifted .fixed 1 "aaaaaaaa.00000A" := by
    decide +kernel
  rw [hFids, letterCase_nodeIds] at hnodup
  simp [hsame] at hnodup

end Template

end UplinkFlow
