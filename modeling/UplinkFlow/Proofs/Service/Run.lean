import UplinkFlow.Proofs.Rollout.Run
import UplinkFlow.Proofs.Service.Handling

/-!
# Runs of the service

The service answers one request after the other while the engine answers as it likes and others do
with the files what they like, except that they leave the counter's file alone.

* `serve`, `Step`, `trace` — one request that is answered, and a run.
* `Step.IsFramed` — what one request may do to the counter and the engine.
* `requests_framed` — **in every run, only a deployment that generates a flow counts, only it and a
  deletion reach the engine, and the answer tells whether they have succeeded.**
-/

set_option autoImplicit false

namespace UplinkFlow.Service

open Engine (Conversation)
open Rollout (Attempt Surroundings World)
open Template (sampleSensor sampleSensorText sampleLayoutText)

variable {p : Rollout} {e : Surroundings} {w : World} {now : Int64} {r : Request} {s : Storage}
  {sensor : Sensor} {layout : Layout} {id : String}

/-! ## One step of a run -/

/-- A request that comes in, the time, and what others make of the files before it. -/
structure Visit where
  request : Request
  now : Int64
  meanwhile : Storage → Storage

/-- The file at a location is left alone before the request. -/
def Visit.Spares (visit : Visit) (l : Location) : Prop :=
  ∀ s, (visit.meanwhile s).lookup l = s.lookup l

/-- The world as a request finds it. -/
def Visit.before (visit : Visit) (w : World) : World :=
  { w with files := visit.meanwhile w.files }

def serve (p : Rollout) (e : Surroundings) (now : Int64) (r : Request) : StateM World Response :=
  fun w =>
    let (conversation, files) := respond p now r w.files
    (conversation.run e.answer).run { w with files }

/-- A request that has been answered, between two states of the world. -/
structure Step where
  before : World
  visit : Visit
  response : Response
  after : World

namespace Step

def attempts (step : Step) : List Attempt :=
  step.after.attempts.drop step.before.attempts.length

def of (p : Rollout) (e : Surroundings) (w : World) (visit : Visit) : Step where
  before := visit.before w
  visit := visit
  response := (serve p e visit.now visit.request (visit.before w)).1
  after := (serve p e visit.now visit.request (visit.before w)).2

/-- A flow has been generated for a valid deployment. -/
def Generates (p : Rollout) (step : Step) (flow : Flow) : Prop :=
  ∃ sensor layout, step.visit.request.Deploys sensor layout ∧
    (p.generate sensor layout step.before.files).1 = .ok flow

/-- The attempts are those of an operation that has succeeded. -/
def HasDone {α : Type} (step : Step) (operation : Engine.Exchange α) : Prop :=
  ∃ value, operation.run.Logs (step.attempts.map Attempt.entry) (.ok value)

/-- What one request may do.

* `counts`, `keeps` — the number in the counter's file grows by one exactly if a flow has been
  generated for a valid deployment, and the content is the same otherwise;
* `asks` — the engine is asked only for such a flow or for a deletion;
* `refuses` — what does not read or is not valid is the client's mistake and changes nothing;
* `deployed`, `deleted` — the response to a valid deployment and to a deletion tells whether the
  operation has been carried out and has succeeded. -/
structure IsFramed (p : Rollout) (step : Step) : Prop where
  counts : (∃ flow, step.Generates p flow) → ∃ v,
    p.counter.value? step.before.files = some v ∧
      p.counter.value? step.after.files = some (v + 1)
  keeps : (¬∃ flow, step.Generates p flow) →
    p.counter.content? step.after.files = p.counter.content? step.before.files ∧
      ∀ v, p.counter.value? step.after.files = some v →
        p.counter.value? step.before.files = some v
  asks : step.attempts ≠ [] →
    (∃ flow, step.Generates p flow) ∨ ∃ id, step.visit.request.Deletes id
  refuses : step.visit.request.IsRefused →
    step.response.IsClientError ∧ step.attempts = [] ∧ step.after = step.before
  deployed : (∃ sensor layout, step.visit.request.Deploys sensor layout) →
    (step.response = .done ↔
      ∃ flow, step.Generates p flow ∧ step.HasDone (p.client.deploy flow)) ∧
    (step.response ≠ .done → step.response = .failed)
  deleted : ∀ id, step.visit.request.Deletes id →
    (step.response = .done ↔ step.HasDone (p.client.delete id)) ∧
    (step.response ≠ .done → step.response = .failed)

variable {step : Step} {flow : Flow}

theorem generates_iff (asks : step.visit.request.Deploys sensor layout) :
    step.Generates p flow ↔ (p.generate sensor layout step.before.files).1 = .ok flow := by
  constructor
  · rintro ⟨sensor', layout', asks', hflow⟩
    obtain ⟨rfl, rfl⟩ := asks.unique asks'
    exact hflow
  · exact fun hflow => ⟨sensor, layout, asks, hflow⟩

theorem hasDone_iff {α : Type} {operation : Engine.Exchange α} {result : Except Engine.Fault α}
    (h : operation.run.Logs (step.attempts.map Attempt.entry) result) :
    step.HasDone operation ↔ result.isOk = true := by
  constructor
  · rintro ⟨value, hvalue⟩
    rw [h.unique hvalue]
    rfl
  · intro hok
    cases result with
    | error fault => cases hok
    | ok value => exact ⟨value, h⟩

theorem isFramed_of_answers
    (noDeployment : ∀ sensor layout, ¬step.visit.request.Deploys sensor layout)
    (noDeletion : ∀ id, ¬step.visit.request.Deletes id)
    (blames : step.visit.request.IsRefused → step.response.IsClientError)
    (hafter : step.after = step.before) : step.IsFramed p := by
  have hattempts : step.attempts = [] := by simp [attempts, hafter]
  refine
    { counts := ?_
      keeps := fun _ => ⟨by rw [hafter], fun v hv => by rwa [hafter] at hv⟩
      asks := fun h => absurd hattempts h
      refuses := fun h => ⟨blames h, hattempts, hafter⟩
      deployed := ?_
      deleted := fun id h => absurd h (noDeletion id) }
  · rintro ⟨flow, sensor, layout, asks, -⟩
    exact absurd asks (noDeployment sensor layout)
  · rintro ⟨sensor, layout, asks⟩
    exact absurd asks (noDeployment sensor layout)

/-- A deletion that has been carried out, or has been tried, is framed. -/
theorem isFramed_of_deletes {result : Except Engine.Fault Engine.Deletion}
    (asks : step.visit.request.Deletes id)
    (hlogs : (p.client.delete id).run.Logs (step.attempts.map Attempt.entry) result)
    (hresponse : step.response = .success result.isOk)
    (hfiles : step.after.files.lookup p.counter.place.location =
      step.before.files.lookup p.counter.place.location) : step.IsFramed p := by
  obtain ⟨hdone, hfailed⟩ := Response.success_cases result.isOk
  refine
    { counts := ?_
      keeps := fun _ => ⟨Rollout.content?_congr hfiles,
        fun v hv => by rwa [Rollout.value?_congr hfiles] at hv⟩
      asks := fun _ => .inr ⟨id, asks⟩
      refuses := fun h => absurd asks h.not_deletes
      deployed := ?_
      deleted := fun id' asks' => ?_ }
  · rintro ⟨flow, sensor, layout, asks', -⟩
    exact absurd asks asks'.not_deletes
  · rintro ⟨sensor, layout, asks'⟩
    exact absurd asks asks'.not_deletes
  · obtain rfl := asks.unique asks'
    rw [hresponse, hasDone_iff hlogs]
    exact ⟨hdone, hfailed⟩

theorem isFramed_of_deploys {served : Rollout.Step}
    (asks : step.visit.request.Deploys served.call.sensor served.call.layout)
    (hbefore : step.before = served.before) (hafter : step.after = served.after)
    (hresponse : step.response = .success served.result)
    (hserved : (∃ fault, served.Fails p fault) ∨ ∃ n flow, served.Deploys p n flow) :
    step.IsFramed p := by
  have hattempts : step.attempts = served.attempts := by
    rw [attempts, hbefore, hafter]
    rfl
  obtain ⟨hdone, hfailed⟩ := Response.success_cases served.result
  have hgenerates (flow : Flow) : step.Generates p flow ↔
      (p.generate served.call.sensor served.call.layout served.before.files).1 = .ok flow :=
    hbefore ▸ generates_iff asks
  rcases hserved with ⟨fault, hfails⟩ | ⟨n, flow, hdeploys⟩
  · have hnone (flow : Flow) : ¬step.Generates p flow := by
      rw [hgenerates, hfails.generated]
      nofun
    rw [hfails.result] at hresponse hdone hfailed
    refine
      { counts := fun ⟨flow, h⟩ => absurd h (hnone flow)
        keeps := fun _ => hafter ▸ hbefore ▸
          ⟨hfails.kept.content?, fun v hv => hfails.kept.value? hv⟩
        asks := fun h => absurd (hattempts.trans hfails.silent) h
        refuses := fun h => absurd asks h.not_deploys
        deployed := fun _ => ?_
        deleted := fun id h => absurd h asks.not_deletes }
    rw [hresponse]
    exact ⟨⟨fun h => absurd (hdone.mp h) nofun, fun ⟨flow, h, _⟩ => absurd h (hnone flow)⟩, hfailed⟩
  · have hflow : step.Generates p flow := (hgenerates flow).mpr hdeploys.generated
    obtain ⟨result, hlogs, hresult⟩ := hdeploys.deployed
    rw [← hattempts] at hlogs
    obtain ⟨u, hu, hn⟩ := hdeploys.before
    refine
      { counts := fun _ => hafter ▸ hbefore ▸ ⟨u, hu, hn ▸ hdeploys.after⟩
        keeps := fun h => absurd ⟨flow, hflow⟩ h
        asks := fun _ => .inl ⟨flow, hflow⟩
        refuses := fun h => absurd asks h.not_deploys
        deployed := fun _ => ?_
        deleted := fun id h => absurd h asks.not_deletes }
    rw [hresponse, hdone]
    refine ⟨?_, hfailed⟩
    rw [hresult, ← hasDone_iff hlogs]
    refine ⟨fun h => ⟨flow, hflow, h⟩, ?_⟩
    rintro ⟨flow', hflow', h⟩
    obtain rfl : flow = flow' :=
      Except.ok.inj (hdeploys.generated.symm.trans ((hgenerates flow').mp hflow'))
    exact h

end Step

/-! ## What a request makes of the world -/

theorem run_bind_done {α β : Type} (c : Conversation α) (f : α → β) (w : World) :
    ((c.bind fun a => .done (f a)).run e.answer).run w =
      (f ((c.run e.answer).run w).1, ((c.run e.answer).run w).2) := by
  induction c generalizing w with
  | done value => rfl
  | ask pause request next ih => exact ih _ _

theorem serve_answers {response : Response}
    (h : respond p now r w.files = (.done response, w.files)) :
    serve p e now r w = (response, w) := by
  simp only [serve, h]
  rfl

theorem serve_deletes (h : respond p now r w.files =
      ((p.withdraw id).bind fun done => .done (.success done), w.files)) :
    serve p e now r w = (.success (((p.withdraw id).run e.answer).run w).1,
      (((p.withdraw id).run e.answer).run w).2) := by
  simp only [serve, h]
  exact run_bind_done _ _ w

theorem serve_deploys (h : respond p now r w.files =
      ((p.rollOut sensor layout w.files).1.bind fun done => .done (.success done),
        (p.rollOut sensor layout w.files).2)) :
    serve p e now r w =
      (.success (p.serve e sensor layout w).1, (p.serve e sensor layout w).2) := by
  unfold Rollout.serve
  generalize p.rollOut sensor layout w.files = rolled at h
  simp only [serve, h]
  exact run_bind_done _ _ _

/-- **What one request may do.** -/
theorem Step.of_isFramed (he : e.Spares p.counter.place.location) (w : World) (visit : Visit) :
    (Step.of p e w visit).IsFramed p := by
  have hhandles := respond_handles p visit.now visit.request (visit.before w).files
  generalize houtcome : respond p visit.now visit.request (visit.before w).files = outcome
    at hhandles
  cases hhandles with
  | answers response noDeployment noDeletion blames =>
    have hserve := serve_answers (e := e) houtcome
    refine isFramed_of_answers noDeployment noDeletion (fun h => ?_) ?_
    · simpa only [Step.of, hserve] using blames h
    · simp only [Step.of, hserve]
  | @deletes id asks =>
    have hserve := serve_deletes (e := e) houtcome
    obtain ⟨value, attempts, files, hrun, hlogs, hfiles, -⟩ :=
      Rollout.run_attempts he (p.withdraw id) (visit.before w)
    -- telling whether the deletion has succeeded asks nothing
    obtain ⟨result, asked, rest, hdelete, hrest, hlog⟩ := Conversation.Logs.bind_cases hlogs
    obtain ⟨rfl, rfl⟩ := Conversation.Logs.done_iff.mp hrest
    rw [List.append_nil] at hlog
    rw [hrun] at hserve
    have hstep : Step.of p e w visit = ⟨visit.before w, visit, .success result.isOk,
        ⟨files, (visit.before w).attempts ++ attempts⟩⟩ := by
      simp only [Step.of, hserve]
    have hnew : (Step.of p e w visit).attempts = attempts := by simp [hstep, Step.attempts]
    have hlogs : (p.client.delete id).run.Logs ((Step.of p e w visit).attempts.map Attempt.entry)
        result := by rwa [hnew, hlog]
    refine isFramed_of_deletes asks hlogs ?_ ?_
    · rw [hstep]
    · rw [hstep]
      exact hfiles
  | @deploys sensor layout asks =>
    have hserve := serve_deploys (e := e) houtcome
    have hbefore : visit.before w = Rollout.Call.before ⟨sensor, layout, visit.meanwhile⟩ w := rfl
    have hserved := Rollout.Step.cases he w ⟨sensor, layout, visit.meanwhile⟩
    refine @isFramed_of_deploys _ _ (Rollout.Step.of p e w ⟨sensor, layout, visit.meanwhile⟩) asks
      hbefore ?_ ?_ hserved
    · simp only [Step.of, Rollout.Step.of, ← hbefore, hserve]
    · simp only [Step.of, Rollout.Step.of, ← hbefore, hserve]

/-! ## Runs -/

def trace (p : Rollout) (e : Surroundings) : World → List Visit → List Step
  | _, [] => []
  | w, visit :: rest => Step.of p e w visit :: trace p e (Step.of p e w visit).after rest

def final (p : Rollout) (e : Surroundings) (w : World) (visits : List Visit) : World :=
  visits.foldl (fun w visit => (Step.of p e w visit).after) w

theorem final_cons (p : Rollout) (e : Surroundings) (w : World) (visit : Visit)
    (rest : List Visit) :
    final p e w (visit :: rest) = final p e (Step.of p e w visit).after rest := by
  rw [final, final, List.foldl_cons]

open Classical in
/-- How many steps have generated a flow for a valid deployment. -/
noncomputable def generations (p : Rollout) (steps : List Step) : Nat :=
  steps.countP fun step => ∃ flow, step.Generates p flow

theorem generations_cons (p : Rollout) (step : Step) (steps : List Step) :
    generations p (step :: steps) = generations p [step] + generations p steps := by
  rw [generations, List.countP_cons, Nat.add_comm]
  simp [generations, List.countP_cons]

section Run

variable {visit : Visit} {visits : List Visit} {step : Step}

theorem Visit.Spares.lookup_eq {l : Location} (h : visit.Spares l) (w : World) :
    (visit.before w).files.lookup l = w.files.lookup l :=
  h w.files

theorem Step.IsFramed.value? (h : step.IsFramed p) {v : Nat}
    (hv : p.counter.value? step.after.files = some v) :
    ∃ u, p.counter.value? step.before.files = some u ∧ v = u + generations p [step] := by
  by_cases hflow : ∃ flow, step.Generates p flow
  · obtain ⟨u, hu, hafter⟩ := h.counts hflow
    refine ⟨u, hu, ?_⟩
    simpa [generations, hflow, hafter] using hv.symm
  · exact ⟨v, (h.keeps hflow).2 v hv, by simp [generations, hflow]⟩

theorem trace_isFramed (he : e.Spares p.counter.place.location) (h : step ∈ trace p e w visits) :
    step.IsFramed p := by
  induction visits generalizing w with
  | nil => cases h
  | cons visit rest ih =>
    rcases List.mem_cons.mp h with rfl | h
    · exact Step.of_isFramed he w visit
    · exact ih h

theorem final_value? (he : e.Spares p.counter.place.location)
    (hvisits : ∀ visit ∈ visits, visit.Spares p.counter.place.location) {v : Nat}
    (hv : p.counter.value? (final p e w visits).files = some v) :
    ∃ u, p.counter.value? w.files = some u ∧ v = u + generations p (trace p e w visits) := by
  induction visits generalizing w with
  | nil => exact ⟨v, hv, rfl⟩
  | cons visit rest ih =>
    rw [final_cons] at hv
    obtain ⟨u, hu, rfl⟩ := ih (fun other hother => hvisits other (List.mem_cons_of_mem _ hother)) hv
    obtain ⟨t, ht, rfl⟩ := (Step.of_isFramed he w visit).value? hu
    have hspared := (hvisits visit List.mem_cons_self).lookup_eq w
    refine ⟨t, (Rollout.value?_congr hspared).symm.trans ht, ?_⟩
    rw [trace, generations_cons p _ (trace p e _ rest), Nat.add_assoc]

/-- A run that generates nothing leaves the counter's file as it was. -/
theorem final_content? (he : e.Spares p.counter.place.location)
    (hvisits : ∀ visit ∈ visits, visit.Spares p.counter.place.location)
    (hnone : generations p (trace p e w visits) = 0) :
    p.counter.content? (final p e w visits).files = p.counter.content? w.files := by
  induction visits generalizing w with
  | nil => rfl
  | cons visit rest ih =>
    rw [trace, generations_cons] at hnone
    obtain ⟨hfirst, hrest⟩ := Nat.add_eq_zero_iff.mp hnone
    have hflow : ¬∃ flow, (Step.of p e w visit).Generates p flow := by
      simpa [generations] using hfirst
    have hspared := (hvisits visit List.mem_cons_self).lookup_eq w
    rw [final_cons]
    calc p.counter.content? (final p e (Step.of p e w visit).after rest).files
        = p.counter.content? (Step.of p e w visit).after.files :=
          ih (fun other hother => hvisits other (List.mem_cons_of_mem _ hother)) hrest
      _ = p.counter.content? (visit.before w).files :=
          ((Step.of_isFramed he w visit).keeps hflow).1
      _ = p.counter.content? w.files := Rollout.content?_congr hspared

/-- **Only a deployment that generates a flow counts, only it and a deletion reach the engine, and
the answer tells whether they have succeeded.**  Whatever the requests, the files and the engine,
in a run that nobody else's writing to the counter's file disturbs, every request keeps within
`Step.IsFramed`; so the number at the end is the number at first and one more for each flow that
has been generated, and a run that generates none leaves the content of the file as it was. -/
theorem requests_framed (p : Rollout) (e : Surroundings) (w : World) (visits : List Visit)
    (he : e.Spares p.counter.place.location)
    (hvisits : ∀ visit ∈ visits, visit.Spares p.counter.place.location) :
    (∀ step ∈ trace p e w visits, step.IsFramed p) ∧
    (∀ v, p.counter.value? (final p e w visits).files = some v →
      ∃ u, p.counter.value? w.files = some u ∧ v = u + generations p (trace p e w visits)) ∧
    (generations p (trace p e w visits) = 0 →
      p.counter.content? (final p e w visits).files = p.counter.content? w.files) :=
  ⟨fun _ hstep => trace_isFramed he hstep, fun _ hv => final_value? he hvisits hv,
    final_content? he hvisits⟩

end Run

/-! ## A run of three requests -/

/-- A request that carries a document, with nobody else at work. -/
def sampleVisit (method target body : String) : Visit where
  request := ⟨method, target, some "application/json", Text.utf8Bytes body⟩
  now := 0
  meanwhile := fun s => s

/-- The document of a sensor and its layout. -/
def sampleBody : String := "[" ++ sampleSensorText ++ "," ++ sampleLayoutText ++ "]"

theorem sample_route : Route.ofPath? (pathOf "/v1/deployments") = some .deployments := by
  decide +kernel

theorem sample_read : readBody deploymentReader
    ⟨"POST", "/v1/deployments", some "application/json", Text.utf8Bytes sampleBody⟩ =
      .ok (sampleSensor, Template.sampleLayout) := by
  rw [← toOption_eq_some_iff]
  decide +kernel

theorem sample_deploys :
    (sampleVisit "POST" "/v1/deployments" sampleBody).request.Deploys sampleSensor
      Template.sampleLayout :=
  ⟨sample_route, rfl, sample_read, rfl, rfl⟩

theorem sample_refused :
    (sampleVisit "POST" "/v1/deployments" "[]").request.IsRefused := by
  refine .deployment sample_route rfl fun sensor layout hbody => ?_
  have hread : deploymentReader.ofBytes (Text.utf8Bytes "[]") = .ok (sensor, layout) :=
    (readBody_eq_ok_iff.mp hbody).2.2
  have hnone : (deploymentReader.ofBytes (Text.utf8Bytes "[]")).toOption.isSome = false := by
    decide +kernel
  rw [hread] at hnone
  cases hnone

/-- A deployment counts even if the engine cannot be reached; a deletion does not count, and a body
that does not read changes nothing. -/
theorem requests_framed_deployment :
    let w : World := ⟨⟨[((1, ["count"]), .file [52, 49])], []⟩, []⟩
    let visits := [sampleVisit "POST" "/v1/deployments" sampleBody,
      sampleVisit "DELETE" "/v1/deployments/sensorA" "", sampleVisit "POST" "/v1/deployments" "[]"]
    ∃ deployed deleted refused,
      trace Rollout.sample Rollout.silence w visits = [deployed, deleted, refused] ∧
      Rollout.sample.counter.value? deployed.before.files = some 41 ∧
      Rollout.sample.counter.value? deployed.after.files = some 42 ∧
      Rollout.sample.counter.content? deleted.after.files =
        Rollout.sample.counter.content? deleted.before.files ∧
      refused.response.IsClientError ∧ refused.attempts = [] ∧ refused.after = refused.before := by
  intro w visits
  have hspares : ∀ visit ∈ visits, visit.Spares Rollout.sample.counter.place.location := by
    simp only [visits, List.mem_cons, List.not_mem_nil, or_false]
    rintro visit (rfl | rfl | rfl) <;> exact fun _ => rfl
  obtain ⟨hframed, -, -⟩ :=
    requests_framed Rollout.sample Rollout.silence w visits (fun _ _ => rfl) hspares
  obtain ⟨deployed, hdeployed⟩ : ∃ step, step = Step.of Rollout.sample Rollout.silence w
    (sampleVisit "POST" "/v1/deployments" sampleBody) := ⟨_, rfl⟩
  obtain ⟨deleted, hdeleted⟩ : ∃ step, step = Step.of Rollout.sample Rollout.silence deployed.after
    (sampleVisit "DELETE" "/v1/deployments/sensorA" "") := ⟨_, rfl⟩
  obtain ⟨refused, hrefused⟩ : ∃ step, step = Step.of Rollout.sample Rollout.silence deleted.after
    (sampleVisit "POST" "/v1/deployments" "[]") := ⟨_, rfl⟩
  have hrun : trace Rollout.sample Rollout.silence w visits = [deployed, deleted, refused] := by
    rw [hrefused, hdeleted, hdeployed]
    rfl
  have hbefore : deployed.before = w := by rw [hdeployed]; rfl
  have hvalue : Rollout.sample.counter.value? w.files = some 41 := by decide +kernel
  have hgenerated : (Rollout.sample.generate sampleSensor Template.sampleLayout
      w.files).1.toOption.isSome = true := by
    decide +kernel
  have hflow : ∃ flow, deployed.Generates Rollout.sample flow := by
    cases hresult : (Rollout.sample.generate sampleSensor Template.sampleLayout w.files).1 with
    | error fault => simp [hresult, Except.toOption] at hgenerated
    | ok flow =>
      exact ⟨flow, sampleSensor, Template.sampleLayout, hdeployed ▸ sample_deploys,
        hbefore ▸ hresult⟩
  have hdeletes : deleted.visit.request.Deletes "sensorA" := by
    have hroute : Route.ofPath? (pathOf "/v1/deployments/sensorA") =
        some (.deployment "sensorA") := by
      decide +kernel
    exact hdeleted ▸ ⟨⟨"sensorA", hroute, by decide +kernel⟩, rfl⟩
  have hrefuses : refused.visit.request.IsRefused := hrefused ▸ sample_refused
  obtain ⟨v, hv, hafter⟩ := (hframed deployed (by simp [hrun])).counts hflow
  obtain rfl : 41 = v := by simpa [hbefore, hvalue] using hv
  refine ⟨deployed, deleted, refused, hrun, hv, hafter,
    ((hframed deleted (by simp [hrun])).keeps ?_).1,
    (hframed refused (by simp [hrun])).refuses hrefuses⟩
  rintro ⟨flow, sensor, layout, asks, -⟩
  exact asks.not_deletes hdeletes

end UplinkFlow.Service
