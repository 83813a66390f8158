import UplinkFlow.Proofs.Except
import UplinkFlow.Proofs.Template.Rendering
import UplinkFlow.Service.Basic

/-!
# What the service does with a request

* `readBody_eq_ok_iff` — when a body reads.
* `Request.Deploys`, `Request.Deletes`, `Request.IsRefused` — what a request asks for, or that its
  body does not read or is not valid.
* `Response.done`, `Response.failed`, `Response.IsClientError` — the responses that tell what has
  become of it.
* `respond_handles` — **everything that the service does with a request.**
-/

set_option autoImplicit false

namespace UplinkFlow.Service

open Engine (Conversation)

variable {p : Rollout} {now : Int64} {r : Request} {s : Storage}
  {sensor : Sensor} {layout : Layout} {id : String}

/-! ## Bodies -/

/-- A body is read if it comes as JSON, is not too long, and its bytes are read.  These need not be
a text. -/
theorem readBody_eq_ok_iff {α : Type} {reader : Reader α} {a : α} :
    readBody reader r = .ok a ↔
      (r.contentType.bind Http.MediaType.ofText?).map Http.MediaType.isJson = some true ∧
        r.body.length ≤ maxBody ∧ reader.ofBytes r.body = .ok a := by
  unfold readBody
  generalize (r.contentType.bind Http.MediaType.ofText?).map Http.MediaType.isJson = json
  by_cases hjson : json = some true
  · by_cases hsize : r.body.length ≤ maxBody
    · simp [hjson, hsize, Nat.not_lt.mpr hsize, mapError_eq_ok_iff]
    · simp [hjson, hsize, Nat.lt_of_not_le hsize, bind_eq_ok_iff]
  · simp [hjson, bind_eq_ok_iff]

/-- A string that no field takes may hold bytes that are no character. -/
example : (readBody deploymentReader ⟨"POST", "/v1/deployments", some "application/json",
    Text.utf8Bytes "\x7b\"note\":\"caf" ++ [0xe9] ++ Text.utf8Bytes ("\",\"sensor\":" ++
      Template.sampleSensorText ++ ",\"config\":" ++ Template.sampleLayoutText ++
      "\x7d")⟩).toOption = some (Template.sampleSensor, Template.sampleLayout) := by
  decide +kernel

/-! ## What is asked for -/

def Request.route? (r : Request) : Option Route := Route.ofPath? (pathOf r.target)

/-- A sensor and a layout that may be used. -/
def IsValid (sensor : Sensor) (layout : Layout) : Prop :=
  sensor.validate = .ok () ∧ layout.validate = .ok ()

/-- A deployment whose body reads as a sensor and a layout, both of them valid. -/
structure Request.Deploys (r : Request) (sensor : Sensor) (layout : Layout) : Prop where
  route : r.route? = some .deployments
  method : r.method = "POST"
  body : readBody deploymentReader r = .ok (sensor, layout)
  valid : IsValid sensor layout

/-- A deletion whose identifier reads as text. -/
structure Request.Deletes (r : Request) (id : String) : Prop where
  route : ∃ encoded, r.route? = some (.deployment encoded) ∧
    Text.ofUtf8? (Text.percentDecode (Text.utf8Bytes encoded)) = some id
  method : r.method = "DELETE"

/-- A deployment or a preview whose body does not read or is not valid. -/
inductive Request.IsRefused (r : Request) : Prop where
  | deployment (route : r.route? = some .deployments) (method : r.method = "POST")
    (body : ∀ sensor layout, readBody deploymentReader r = .ok (sensor, layout) →
      ¬IsValid sensor layout)
  | preview (route : r.route? = some .preview) (method : r.method = "POST")
    (body : ∀ q, readBody previewReader r = .ok q → ¬IsValid q.sensor q.layout)

theorem checkInputs_eq_ok_iff : checkInputs sensor layout = .ok () ↔ IsValid sensor layout := by
  unfold checkInputs IsValid
  cases sensor.validate with
  | error _ => exact ⟨nofun, fun h => nomatch h.1⟩
  | ok _ =>
    cases layout.validate with
    | error _ => exact ⟨nofun, fun h => nomatch h.2⟩
    | ok _ => exact ⟨fun _ => ⟨rfl, rfl⟩, fun _ => rfl⟩

namespace Request

theorem Deploys.unique {sensor' : Sensor} {layout' : Layout} (h : r.Deploys sensor layout)
    (h' : r.Deploys sensor' layout') : sensor' = sensor ∧ layout' = layout := by
  simpa using h'.body.symm.trans h.body

theorem Deletes.unique {id' : String} (h : r.Deletes id) (h' : r.Deletes id') : id' = id := by
  obtain ⟨encoded, hroute, hid⟩ := h.route
  obtain ⟨encoded', hroute', hid'⟩ := h'.route
  obtain rfl : encoded' = encoded := by simpa using hroute'.symm.trans hroute
  simpa using hid'.symm.trans hid

theorem Deploys.not_deletes (h : r.Deploys sensor layout) : ¬r.Deletes id := by
  intro h'
  obtain ⟨encoded, hroute, -⟩ := h'.route
  cases h.route.symm.trans hroute

theorem IsRefused.not_deploys (h : r.IsRefused) : ¬r.Deploys sensor layout := by
  intro h'
  cases h with
  | deployment _ _ body => exact body sensor layout h'.body h'.valid
  | preview route => cases route.symm.trans h'.route

theorem IsRefused.not_deletes (h : r.IsRefused) : ¬r.Deletes id := by
  intro h'
  obtain ⟨encoded, hroute, -⟩ := h'.route
  cases h with
  | deployment route => cases route.symm.trans hroute
  | preview route => cases route.symm.trans hroute

end Request

/-! ## Responses -/

/-- A response that blames the client. -/
def Response.IsClientError (response : Response) : Prop :=
  400 ≤ response.status ∧ response.status < 500

/-- The response to an operation that has succeeded. -/
def Response.done : Response := ⟨200, some "application/json", "\x7b\"success\":true\x7d"⟩

/-- The response to an operation that has failed. -/
def Response.failed : Response := ⟨502, some "application/json", "\x7b\"success\":false\x7d"⟩

theorem Response.success_cases (ok : Bool) :
    (Response.success ok = .done ↔ ok = true) ∧
      (Response.success ok ≠ .done → Response.success ok = .failed) := by
  cases ok
  · exact ⟨⟨fun h => absurd h (by decide +kernel), nofun⟩, fun _ => rfl⟩
  · exact ⟨⟨fun _ => rfl, fun _ => rfl⟩, fun h => absurd rfl h⟩

theorem Response.isClientError_text {status : Nat} (hlow : 400 ≤ status) (hhigh : status < 500)
    (body : String) : (Response.text status body).IsClientError :=
  ⟨hlow, hhigh⟩

theorem BodyFault.isClientError (fault : BodyFault) : fault.response.IsClientError := by
  cases fault <;> exact ⟨by decide, by decide⟩

/-! ## One request -/

/-- What does not pass the checks is answered as the client's mistake. -/
theorem respondPreview_refused
    (h : ∀ q, readBody previewReader r = .ok q → ¬IsValid q.sensor q.layout) :
    (respondPreview now r).IsClientError := by
  unfold respondPreview
  cases hbody : readBody previewReader r with
  | error fault => exact fault.isClientError
  | ok q =>
    cases hcheck : checkInputs q.sensor q.layout with
    | ok => exact absurd (checkInputs_eq_ok_iff.mp hcheck) (h q hbody)
    | error fault =>
      have hpreview : preview q.sensor q.layout q.digits (q.received.getD now) =
          .error (.input fault) := by
        rw [preview, hcheck]
        rfl
      simp only [hpreview]
      exact Response.isClientError_text (by decide) (by decide) _

theorem respondDeployment_refused
    (h : ∀ sensor layout, readBody deploymentReader r = .ok (sensor, layout) →
      ¬IsValid sensor layout) :
    ∃ response : Response, respondDeployment p r s = (.done response, s) ∧
      response.IsClientError := by
  unfold respondDeployment
  cases hbody : readBody deploymentReader r with
  | error fault => exact ⟨_, rfl, fault.isClientError⟩
  | ok inputs =>
    obtain ⟨sensor, layout⟩ := inputs
    cases hcheck : checkInputs sensor layout with
    | ok => exact absurd (checkInputs_eq_ok_iff.mp hcheck) (h sensor layout hbody)
    | error fault =>
      simp only [hcheck]
      exact ⟨_, rfl, Response.isClientError_text (by decide) (by decide) _⟩

theorem respondDeployment_valid (hbody : readBody deploymentReader r = .ok (sensor, layout))
    (hvalid : IsValid sensor layout) :
    respondDeployment p r s = ((p.rollOut sensor layout s).1.bind fun done =>
      .done (.success done), (p.rollOut sensor layout s).2) := by
  unfold respondDeployment
  simp only [hbody, checkInputs_eq_ok_iff.mpr hvalid]

/-- What the service does with a request: it rolls a flow out, withdraws one, or answers at once and
leaves the files and the engine alone. -/
inductive Handles (p : Rollout) (r : Request) (s : Storage) :
    Conversation Response × Storage → Prop where
  | deploys {sensor : Sensor} {layout : Layout} (asks : r.Deploys sensor layout) :
    Handles p r s ((p.rollOut sensor layout s).1.bind fun done => .done (.success done),
      (p.rollOut sensor layout s).2)
  | deletes {id : String} (asks : r.Deletes id) :
    Handles p r s ((p.withdraw id).bind fun done => .done (.success done), s)
  | answers (response : Response) (noDeployment : ∀ sensor layout, ¬r.Deploys sensor layout)
    (noDeletion : ∀ id, ¬r.Deletes id) (blames : r.IsRefused → response.IsClientError) :
    Handles p r s (.done response, s)

/-- Off the three routes that do something, any response will do. -/
theorem Handles.elsewhere
    (hpost : r.method = "POST" → r.route? ≠ some .deployments ∧ r.route? ≠ some .preview)
    (hdelete : r.method = "DELETE" → ∀ encoded, r.route? ≠ some (.deployment encoded))
    (response : Response) : Handles p r s (.done response, s) := by
  refine .answers response (fun _ _ h => (hpost h.method).1 h.route) (fun _ h => ?_) fun h => ?_
  · obtain ⟨encoded, hroute, -⟩ := h.route
    exact hdelete h.method encoded hroute
  · cases h with
    | deployment route method => exact absurd route (hpost method).1
    | preview route method => exact absurd route (hpost method).2

theorem respondDeployment_handles (hroute : r.route? = some .deployments)
    (hmethod : r.method = "POST") : Handles p r s (respondDeployment p r s) := by
  by_cases hvalid : ∃ sensor layout, readBody deploymentReader r = .ok (sensor, layout) ∧
      IsValid sensor layout
  · obtain ⟨sensor, layout, hbody, hvalid⟩ := hvalid
    rw [respondDeployment_valid hbody hvalid]
    exact .deploys ⟨hroute, hmethod, hbody, hvalid⟩
  · obtain ⟨response, hresponse, hblames⟩ := @respondDeployment_refused p r s
      fun sensor layout hbody hsound => hvalid ⟨sensor, layout, hbody, hsound⟩
    rw [hresponse]
    refine .answers response (fun sensor layout h => hvalid ⟨sensor, layout, h.body, h.valid⟩)
      (fun _ h => ?_) fun _ => hblames
    obtain ⟨encoded, hroute', -⟩ := h.route
    cases hroute.symm.trans hroute'

theorem respondDeletion_handles {encoded : String} (hroute : r.route? = some (.deployment encoded))
    (hmethod : r.method = "DELETE") : Handles p r s (respondDeletion p encoded, s) := by
  unfold respondDeletion
  cases hid : Text.ofUtf8? (Text.percentDecode (Text.utf8Bytes encoded)) with
  | some id => exact .deletes ⟨⟨encoded, hroute, hid⟩, hmethod⟩
  | none =>
    refine .answers _ (fun _ _ h => ?_) (fun id h => ?_) fun h => ?_
    · cases hroute.symm.trans h.route
    · obtain ⟨encoded', hroute', hid'⟩ := h.route
      obtain rfl : encoded = encoded' := by simpa using hroute.symm.trans hroute'
      cases hid.symm.trans hid'
    · cases h with
      | deployment route => cases hroute.symm.trans route
      | preview route => cases hroute.symm.trans route

theorem respondPreview_handles (hroute : r.route? = some .preview) :
    Handles p r s (.done (respondPreview now r), s) := by
  refine .answers _ (fun _ _ h => ?_) (fun _ h => ?_) fun h => ?_
  · cases hroute.symm.trans h.route
  · obtain ⟨encoded, hroute', -⟩ := h.route
    cases hroute.symm.trans hroute'
  · cases h with
    | deployment route => cases hroute.symm.trans route
    | preview _ _ body => exact respondPreview_refused body

/-- **Everything that the service does with a request.** -/
theorem respond_handles (p : Rollout) (now : Int64) (r : Request) (s : Storage) :
    Handles p r s (respond p now r s) := by
  have hother {name other : String} (h : r.method = name) (hne : name ≠ other) :
      r.method ≠ other := fun h' => hne (h.symm.trans h')
  unfold respond
  split
  · rename_i hroute
    have hnone : r.route? = none := hroute
    exact .elsewhere (fun _ => by simp [hnone]) (fun _ => by simp [hnone]) _
  · rename_i hmethod
    exact .elsewhere (fun h => absurd h (hother hmethod (by decide)))
      (fun h => absurd h (hother hmethod (by decide))) _
  · rename_i hmethod
    exact .elsewhere (fun h => absurd h (hother hmethod (by decide)))
      (fun h => absurd h (hother hmethod (by decide))) _
  · rename_i hroute hmethod
    exact respondDeployment_handles hroute hmethod
  · rename_i hroute hmethod
    exact respondDeletion_handles hroute hmethod
  · rename_i hroute _
    exact respondPreview_handles hroute
  · rename_i route hroute _ _ hdeployments hdeployment hpreview
    have hsome : r.route? = some route := hroute
    exact .elsewhere (fun h => by simpa [hsome] using ⟨hdeployments h, hpreview h⟩)
      (fun h => by simpa [hsome] using fun encoded => hdeployment encoded h) _

end UplinkFlow.Service
