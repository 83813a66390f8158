import UplinkFlow.Proofs.Counter.Run
import UplinkFlow.Proofs.Template.Rendering

/-!
# Identifiers of the flows of a run

* `Template.IsClashFree` — no identifier moved by one number takes the place of one that is moved by
  another number.
* `Template.issues_disjoint_iff` — **two flows of a run share no identifier exactly if the template
  is free of clashes between their numbers.**
* `Template.IsClashFree.of_stems` — one stem for each identifier, and sums within 64 bits, are
  enough.
* `Template.issues_share_identifier` — they do share identifiers if two suffixes of one stem are
  neighbours.
-/

set_option autoImplicit false

namespace UplinkFlow.Template

open Counter (Step successes)
open NodeIdPattern (Clash shifted)

variable {t : Template} {p : NodeIdPattern} {document : Json} {n m : Nat} {sensor : Sensor}
  {layout : Layout}

/-! ## Clashes -/

/-- Identifiers moved by `n` and identifiers moved by `m` are different. -/
def IsClashFree (t : Template) (n m : Nat) : Prop :=
  ∀ a ∈ t.nodeIds, ∀ b ∈ t.nodeIds, ¬ Clash t.pattern n m a b

/-- Two renderings share no identifier exactly if there is no clash between their numbers. -/
theorem render_disjoint_iff (h : ofJson document p = .ok t)
    (hids : ∀ a ∈ t.nodeIds, p.isMatch a = true) {sensor' : Sensor} {layout' : Layout} {F G : Flow}
    (hF : t.render n sensor layout = .ok F) (hG : t.render m sensor' layout' = .ok G) :
    (∀ id ∈ F.ids, id ∉ G.ids) ↔ t.IsClashFree n m := by
  obtain ⟨F', hF', hFids⟩ := render_eq_ok h n sensor layout
  obtain ⟨G', hG', hGids⟩ := render_eq_ok h m sensor' layout'
  obtain rfl : F = F' := by simpa [hF] using hF'
  obtain rfl : G = G' := by simpa [hG] using hG'
  have hp : t.pattern = p := by rw [(ofJson_eq_ok h).1]
  simp only [Flow.ids, hFids, hGids, List.mem_eraseDups, List.mem_map, IsClashFree, hp]
  constructor
  · intro hne a ha b hb hclash
    have heq := (NodeIdPattern.shifted_eq_iff (hids a ha) (hids b hb)).mpr hclash
    exact hne _ ⟨a, ha, rfl⟩ ⟨b, hb, heq.symm⟩
  · rintro hfree _ ⟨a, ha, rfl⟩ ⟨b, hb, heq⟩
    exact hfree a ha b hb ((NodeIdPattern.shifted_eq_iff (hids a ha) (hids b hb)).mp heq.symm)

/-- Identifiers of different stems never clash as long as no sum leaves 64 bits. -/
theorem IsClashFree.of_stems
    (hstems : ∀ a ∈ t.nodeIds, ∀ b ∈ t.nodeIds, ∀ stem u v,
      t.pattern.split? a = some (stem, u) → t.pattern.split? b = some (stem, v) → a = b)
    (hfits : ∀ a ∈ t.nodeIds, ∀ stem u,
      t.pattern.split? a = some (stem, u) → Text.hexValue u + m ≤ Text.maxWord)
    (hlt : n < m) : t.IsClashFree n m := by
  intro a ha b hb hclash
  cases hclash with
  | meet stem u v left right fits sum width =>
    obtain rfl := hstems a ha b hb stem u v left right
    obtain rfl : u = v := by simpa [left] using right
    omega
  | onto h =>
    obtain ⟨stem, u, v, -, hv, -, hm, -⟩ := h
    exact absurd (hfits b hb stem v hv) (by omega)
  | under h =>
    obtain ⟨stem, u, v, -, hv, -, hn, -⟩ := h
    exact absurd (hfits a ha stem v hv) (by omega)
  | stay same stem u parts left right => exact absurd (hfits a ha stem u parts) (by omega)

/-! ## Runs -/

/-- A request for a sensor's flow, with the files that others hold locked meanwhile. -/
structure Request where
  locked : List Location
  sensor : Sensor
  layout : Layout

/-- The call of the counter that serves a request. -/
def Request.call (t : Template) (r : Request) : Counter.Call TemplateFault Flow where
  locked := r.locked
  build := fun n => t.render n r.sensor r.layout

/-- The steps of a run of requests on one counter. -/
def issues (t : Template) (c : Counter) (s : Storage) (requests : List Request) :
    List (Step TemplateFault Flow) :=
  c.trace TemplateFault.counter s (requests.map (Request.call t))

theorem issues_issue {c : Counter} {s : Storage} {requests : List Request}
    {step : Step TemplateFault Flow} (h : step ∈ t.issues c s requests) :
    ∃ r ∈ requests, t.issue c r.sensor r.layout step.before = (step.result, step.after) ∧
      step.call = r.call t := by
  obtain ⟨r, hr, hcall⟩ := List.mem_map.mp (Counter.trace_call h)
  have hstep := Counter.trace_advance h
  rw [← hcall] at hstep
  exact ⟨r, hr, hstep, hcall.symm⟩

/-- A flow that a run issues has been rendered with the next number of the run. -/
theorem issues_render {c : Counter} {s : Storage} {requests : List Request}
    {earlier later : List (Step TemplateFault Flow)} {step : Step TemplateFault Flow}
    (hrun : t.issues c s requests = earlier ++ step :: later) {F : Flow}
    (hF : step.result = .ok F) :
    ∃ v r, c.value? s = some v ∧ r ∈ requests ∧
      t.render (v + successes earlier + 1) r.sensor r.layout = .ok F := by
  have hmem : step ∈ t.issues c s requests :=
    hrun ▸ List.mem_append_right earlier List.mem_cons_self
  obtain ⟨r, hr, -, hcall⟩ := issues_issue hmem
  obtain ⟨v, hv, hbuild, -⟩ := Counter.trace_ok hrun hF
  rw [hcall] at hbuild
  exact ⟨v, r, hv, hr, hbuild⟩

/-- **Two flows of a run share no identifier exactly if the template is free of clashes between
their numbers.**  The numbers are the next ones of the run at the two requests, counted from the
number in the file at the start; sensors, layouts and the other requests make no difference. -/
theorem issues_disjoint_iff (haccept : ofJson document p = .ok t)
    (hids : ∀ a ∈ t.nodeIds, p.isMatch a = true) {c : Counter} {s : Storage}
    {requests : List Request} {earlier between later : List (Step TemplateFault Flow)}
    {first second : Step TemplateFault Flow}
    (hrun : t.issues c s requests = earlier ++ first :: between ++ second :: later) {F G : Flow}
    (hF : first.result = .ok F) (hG : second.result = .ok G) :
    ∃ v, c.value? s = some v ∧
      ((∀ id ∈ F.ids, id ∉ G.ids) ↔
        t.IsClashFree (v + successes earlier + 1)
          (v + successes earlier + successes between + 2)) := by
  have hfirst : t.issues c s requests = earlier ++ first :: (between ++ second :: later) := by
    simpa using hrun
  obtain ⟨v, r, hv, -, hrender⟩ := issues_render hfirst hF
  obtain ⟨v', r', hv', -, hrender'⟩ := issues_render hrun hG
  obtain rfl : v = v' := by simpa [hv] using hv'
  have hcount : v + successes (earlier ++ first :: between) + 1 =
      v + successes earlier + successes between + 2 := by
    simp [successes, List.countP_append, hF, Except.isOk, Except.toBool]
    omega
  rw [hcount] at hrender'
  exact ⟨v, hv, render_disjoint_iff haccept hids hrender hrender'⟩

/-! ## Neighbouring suffixes -/

/-- A document of two nodes with one stem, whose suffixes are neighbours. -/
def neighbours : Json :=
  .arr [.obj [("id", .str "aaaaaaaa.000001"), ("type", .str "tab"), ("label", .str "")],
    .obj [("id", .str "aaaaaaaa.000002"), ("type", .str "comment"), ("z", .str "aaaaaaaa.000001")]]

/-- A request for the flow of a sensor, while nobody else holds a lock. -/
def plainRequest : Request := ⟨[], sampleSensor, sampleLayout⟩

/-- Two requests to a counter that has no file yet. -/
def firstTwo : List (Step TemplateFault Flow) :=
  issues ⟨neighbours, .legacy⟩ (Counter.atPath "count" 1000) ⟨[], []⟩ [plainRequest, plainRequest]

theorem firstTwo_ids : ∃ first second F G, firstTwo = [first, second] ∧ first.result = .ok F ∧
    second.result = .ok G ∧ F.ids = ["aaaaaaaa.000002", "aaaaaaaa.000003"] ∧
    G.ids = ["aaaaaaaa.000003", "aaaaaaaa.000004"] := by
  have hids : firstTwo.map (fun step => step.result.toOption.map Flow.ids) =
      [some ["aaaaaaaa.000002", "aaaaaaaa.000003"],
        some ["aaaaaaaa.000003", "aaaaaaaa.000004"]] := by
    decide +kernel
  obtain ⟨first, second, hrun⟩ : ∃ first second, firstTwo = [first, second] := ⟨_, _, rfl⟩
  simp only [hrun, List.map_cons, List.map_nil, List.cons.injEq, and_true,
    Option.map_eq_some_iff] at hids
  obtain ⟨⟨F, hF, hFids⟩, G, hG, hGids⟩ := hids
  exact ⟨first, second, F, G, hrun, Step.result_eq_ok hF, Step.result_eq_ok hG, hFids, hGids⟩

/-- The first two numbers clash on neighbouring suffixes. -/
theorem issues_disjoint_iff_neighbours :
    let t : Template := ⟨neighbours, .legacy⟩
    ∃ first second F G, firstTwo = [first, second] ∧ first.result = .ok F ∧
      second.result = .ok G ∧ ((∀ id ∈ F.ids, id ∉ G.ids) ↔ t.IsClashFree 1 2) := by
  intro t
  obtain ⟨first, second, F, G, hrun, hF, hG, -⟩ := firstTwo_ids
  have haccept : ofJson neighbours .legacy = .ok t := rfl
  have hsteps : t.issues (Counter.atPath "count" 1000) ⟨[], []⟩ [plainRequest, plainRequest] =
      [] ++ first :: [] ++ second :: [] := hrun
  obtain ⟨v, hv, hiff⟩ := issues_disjoint_iff haccept (by decide +kernel) hsteps hF hG
  have hzero : (Counter.atPath "count" 1000).value? ⟨[], []⟩ = some 0 := by decide +kernel
  obtain rfl : 0 = v := by simpa [hzero] using hv
  exact ⟨first, second, F, G, hrun, hF, hG, hiff⟩

/-- **Flows of a run may share an identifier** although the template's identifiers all follow the
pattern and are pairwise different. -/
theorem issues_share_identifier : ¬ ∀ (document : Json) (p : NodeIdPattern) (t : Template)
    (c : Counter) (s : Storage) (requests : List Request)
    (earlier between later : List (Step TemplateFault Flow))
    (first second : Step TemplateFault Flow) (F G : Flow),
    ofJson document p = .ok t → (∀ a ∈ t.nodeIds, p.isMatch a = true) → t.nodeIds.Nodup →
    t.issues c s requests = earlier ++ first :: between ++ second :: later →
    first.result = .ok F → second.result = .ok G → ∀ id ∈ F.ids, id ∉ G.ids := by
  intro hall
  obtain ⟨first, second, F, G, hrun, hF, hG, hFids, hGids⟩ := firstTwo_ids
  have hdisjoint := hall neighbours .legacy _ _ _ _ [] [] [] first second F G rfl
    (by decide +kernel) (by decide +kernel) hrun hF hG
  exact hdisjoint "aaaaaaaa.000003" (by simp [hFids]) (by simp [hGids])

end UplinkFlow.Template
