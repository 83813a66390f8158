import UplinkFlow.Proofs.Counter.Run
import UplinkFlow.Proofs.Engine.Requests
import UplinkFlow.Proofs.Template.Rendering
import UplinkFlow.Rollout

/-!
# Runs of rollouts

One sensor after the other is served while the engine answers as it likes and others do with the
files what they like, except that they leave the counter's file alone.

* `World`, `Surroundings` — the files and all attempts so far, and what happens during an attempt.
* `trace` — a run; `Step.cases` — **everything that serving one sensor can do**.
* `trace_counts` — **the engine hears of a flow only after the flow's number is in the counter's
  file**, later flows have greater numbers, and without a flow nothing happens.
-/

set_option autoImplicit false

namespace UplinkFlow

open Engine (Conversation Log Outcome Request Submission)

namespace Rollout

/-! ## What happens around a rollout -/

/-- One attempt to send a request, with the files at the time. -/
structure Attempt where
  request : Request
  outcome : Outcome
  files : Storage

/-- The files, and all attempts so far. -/
structure World where
  files : Storage
  attempts : List Attempt

/-- What becomes of an attempt, and what the files are after it: both may depend on everything that
has happened. -/
abbrev Surroundings := World → Request → Outcome × Storage

/-- The file at a location is left alone during attempts. -/
def Surroundings.Spares (e : Surroundings) (l : Location) : Prop :=
  ∀ w request, (e w request).2.lookup l = w.files.lookup l

/-- Makes an attempt. -/
def Surroundings.answer (e : Surroundings) (_pause : Nat) (request : Request) :
    StateM World Outcome := fun w =>
  let (outcome, files) := e w request
  (outcome, ⟨files, w.attempts ++ [⟨request, outcome, w.files⟩]⟩)

/-- A request and its outcome. -/
def Attempt.entry (a : Attempt) : Request × Outcome := (a.request, a.outcome)

variable {α : Type} {p : Rollout} {e : Surroundings} {l : Location}

/-- A conversation adds attempts, none of which finds the file changed. -/
theorem run_attempts (he : e.Spares l) (c : Conversation α) (w : World) :
    ∃ value attempts files, (c.run e.answer).run w = (value, ⟨files, w.attempts ++ attempts⟩) ∧
      c.Logs (attempts.map Attempt.entry) value ∧ files.lookup l = w.files.lookup l ∧
      ∀ a ∈ attempts, a.files.lookup l = w.files.lookup l := by
  induction c generalizing w with
  | done value =>
    exact ⟨value, [], w.files, by rw [List.append_nil]; rfl, .done value, rfl, by simp⟩
  | ask pause request next ih =>
    obtain ⟨value, attempts, files, hrun, hlogs, hfiles, hattempts⟩ :=
      ih (e w request).1 ⟨(e w request).2, w.attempts ++ [⟨request, (e w request).1, w.files⟩]⟩
    have hspared := he w request
    refine ⟨value, ⟨request, (e w request).1, w.files⟩ :: attempts, files, ?_, .ask _ hlogs,
      hfiles.trans hspared, ?_⟩
    · rw [List.append_assoc] at hrun
      exact hrun
    · intro a ha
      rcases List.mem_cons.mp ha with rfl | ha
      · rfl
      · exact (hattempts a ha).trans hspared

/-! ## One call -/

/-- A call of a run: the sensor to serve, and what others make of the files before it. -/
structure Call where
  sensor : Sensor
  layout : Layout
  meanwhile : Storage → Storage

/-- The file at a location is left alone before the call. -/
def Call.Spares (call : Call) (l : Location) : Prop :=
  ∀ s, (call.meanwhile s).lookup l = s.lookup l

def Call.before (call : Call) (w : World) : World := { w with files := call.meanwhile w.files }

def serve (p : Rollout) (e : Surroundings) (sensor : Sensor) (layout : Layout) :
    StateM World Bool := fun w =>
  let (conversation, files) := p.rollOut sensor layout w.files
  (conversation.run e.answer).run { w with files }

/-- A call that has been made, between two states of the world. -/
structure Step where
  before : World
  call : Call
  result : Bool
  after : World

def Step.attempts (step : Step) : List Attempt :=
  step.after.attempts.drop step.before.attempts.length

def Step.of (p : Rollout) (e : Surroundings) (w : World) (call : Call) : Step where
  before := call.before w
  call := call
  result := (p.serve e call.sensor call.layout (call.before w)).1
  after := (p.serve e call.sensor call.layout (call.before w)).2

@[simp] theorem Step.of_before (p : Rollout) (e : Surroundings) (w : World) (call : Call) :
    (Step.of p e w call).before = call.before w := rfl

/-- The flow of the number `n` has been deployed, after the number had been counted. -/
structure Step.Deploys (p : Rollout) (step : Step) (n : Nat) (flow : Flow) : Prop where
  generated : (p.generate step.call.sensor step.call.layout step.before.files).1 = .ok flow
  rendered : p.template.render n step.call.sensor step.call.layout = .ok flow
  before : ∃ v, p.counter.value? step.before.files = some v ∧ n = v + 1
  counted : ∀ a ∈ step.attempts,
    p.counter.content? a.files = some (Text.utf8Bytes (Text.decimal n))
  after : p.counter.value? step.after.files = some n
  asked : ∀ a ∈ step.attempts, p.client.Asks flow a.request
  deployed : ∃ result, (p.client.deploy flow).run.Logs (step.attempts.map Attempt.entry) result ∧
    step.result = result.isOk

/-- There has been no flow, and nothing has happened. -/
structure Step.Fails (p : Rollout) (step : Step) (fault : GenerationFault) : Prop where
  generated : (p.generate step.call.sensor step.call.layout step.before.files).1 = .error fault
  result : step.result = false
  silent : step.attempts = []
  kept : p.counter.KeepsFile step.before.files step.after.files

/-- Generating either fails and leaves the counter's file alone, or counts a number and renders its
flow. -/
theorem generate_cases {sensor : Sensor} {layout : Layout} {s s' : Storage}
    {result : Except GenerationFault Flow} (h : p.generate sensor layout s = (result, s')) :
    (∃ fault, result = .error fault ∧ p.counter.KeepsFile s s') ∨
      ∃ n flow, result = .ok flow ∧ p.template.render n sensor layout = .ok flow ∧
        p.counter.Issues n s s' := by
  cases hissue : p.template.issue p.counter sensor layout s with
  | mk issued after =>
    rw [generate, hissue] at h
    cases h
    rcases Counter.advance_cases hissue with ⟨cause, rfl, hkeeps, -⟩ | ⟨n, flow, rfl, hbuild, hissues⟩
    · exact .inl ⟨_, rfl, hkeeps⟩
    · exact .inr ⟨n, flow, rfl, hbuild, hissues⟩

theorem content?_congr {c : Counter} {s s' : Storage}
    (h : s'.lookup c.place.location = s.lookup c.place.location) : c.content? s' = c.content? s := by
  rw [Counter.content?, Counter.content?, h]

theorem value?_congr {c : Counter} {s s' : Storage}
    (h : s'.lookup c.place.location = s.lookup c.place.location) : c.value? s' = c.value? s := by
  rw [Counter.value?, Counter.value?, h]

section Serving

variable {sensor : Sensor} {layout : Layout} {w : World} {s : Storage} {flow : Flow}
  {fault : GenerationFault}

theorem serve_of_error (h : p.generate sensor layout w.files = (.error fault, s)) :
    p.serve e sensor layout w = (false, { w with files := s }) := by
  have hrollOut : p.rollOut sensor layout w.files = (.done false, s) := by
    delta rollOut
    rw [h]
  simp only [serve, hrollOut]
  rfl

theorem serve_of_ok (h : p.generate sensor layout w.files = (.ok flow, s)) :
    p.serve e sensor layout w = ((p.deploy flow).run e.answer).run { w with files := s } := by
  have hrollOut : p.rollOut sensor layout w.files = (p.deploy flow, s) := by
    delta rollOut
    rw [h]
  simp only [serve, hrollOut]

end Serving

theorem Call.Spares.value? {call : Call} (h : call.Spares p.counter.place.location) (w : World) :
    p.counter.value? (call.before w).files = p.counter.value? w.files :=
  value?_congr (h w.files)

/-- **Everything that a call can do.** -/
theorem Step.cases (he : e.Spares p.counter.place.location) (w : World) (call : Call) :
    (∃ fault, (Step.of p e w call).Fails p fault) ∨
      ∃ n flow, (Step.of p e w call).Deploys p n flow := by
  cases hgenerate : p.generate call.sensor call.layout (call.before w).files with
  | mk result issued =>
    rcases generate_cases hgenerate with ⟨fault, rfl, hkeeps⟩ | ⟨n, flow, rfl, hrender, hissues⟩
    · have hstep : Step.of p e w call =
          ⟨call.before w, call, false, { call.before w with files := issued }⟩ := by
        rw [Step.of, serve_of_error hgenerate]
      rw [hstep]
      exact .inl ⟨fault, congrArg Prod.fst hgenerate, rfl, by simp [Step.attempts], hkeeps⟩
    · obtain ⟨value, attempts, files, hrun, hlogs, hfiles, hattempts⟩ :=
        run_attempts he (p.deploy flow) { call.before w with files := issued }
      have hstep : Step.of p e w call =
          ⟨call.before w, call, value, ⟨files, (call.before w).attempts ++ attempts⟩⟩ := by
        rw [Step.of, serve_of_ok hgenerate, hrun]
      have hnew : (Step.of p e w call).attempts = attempts := by simp [hstep, Step.attempts]
      -- telling whether the deployment has succeeded asks nothing
      obtain ⟨deployed, asked, rest, hdeploy, hrest, hlog⟩ := Conversation.Logs.bind_cases hlogs
      obtain ⟨rfl, hvalue⟩ := Conversation.Logs.done_iff.mp hrest
      rw [List.append_nil] at hlog
      refine .inr ⟨n, flow, ?_, ?_, ?_, fun a ha => ?_, ?_, fun a ha => ?_, deployed, ?_, ?_⟩
      · rw [hstep]
        exact congrArg Prod.fst hgenerate
      · rw [hstep]
        exact hrender
      · obtain ⟨v, hv, -, hn⟩ := hissues.before
        rw [hstep]
        exact ⟨v, hv, hn⟩
      · rw [hnew] at ha
        rw [content?_congr (hattempts a ha), hissues.content]
      · rw [hstep, value?_congr hfiles, hissues.value]
      · rw [hnew] at ha
        have hentry : a.entry ∈ asked := hlog ▸ List.mem_map_of_mem ha
        exact Engine.deploy_asks hdeploy hentry
      · rwa [hnew, hlog]
      · rw [hstep, hvalue]

theorem Step.Deploys.attempts_ne_nil {step : Step} {n : Nat} {flow : Flow} {sub : Submission}
    (h : step.Deploys p n flow) (hc : p.client.IsSendable)
    (hsub : Submission.ofFlow? flow = some sub) : step.attempts ≠ [] := by
  obtain ⟨result, hlogs, -⟩ := h.deployed
  intro hnil
  rw [hnil] at hlogs
  generalize hlog : ([] : List Attempt).map Attempt.entry = log at hlogs
  cases Engine.deploy_course hc hlogs with
  | malformed hnone => simp [hsub] at hnone
  | unlisted _ lists => exact lists.ne_nil hlog.symm
  | submitted _ lists => exact lists.ne_nil (List.append_eq_nil_iff.mp hlog.symm).1

/-! ## Runs -/

def trace (p : Rollout) (e : Surroundings) : World → List Call → List Step
  | _, [] => []
  | w, call :: rest => Step.of p e w call :: trace p e (Step.of p e w call).after rest

section Run

variable {w : World} {calls : List Call} {earlier later : List Step} {step : Step}

/-- What follows a step of a run is a run from where the step ends. -/
theorem trace_split (h : p.trace e w calls = earlier ++ step :: later) :
    ∃ w' call before rest, calls = before ++ call :: rest ∧ step = Step.of p e w' call ∧
      later = p.trace e step.after rest := by
  induction earlier generalizing w calls with
  | nil =>
    cases calls with
    | nil => cases h
    | cons call rest =>
      obtain ⟨rfl, rfl⟩ := List.cons.inj h
      exact ⟨w, call, [], rest, rfl, rfl, rfl⟩
  | cons first earlier ih =>
    cases calls with
    | nil => cases h
    | cons call rest =>
      obtain ⟨w', call', before, rest', rfl, hstep, hlater⟩ := ih (List.cons.inj h).2
      exact ⟨w', call', call :: before, rest', rfl, hstep, hlater⟩

theorem trace_mem (h : step ∈ p.trace e w calls) : ∃ w' call, step = Step.of p e w' call := by
  obtain ⟨earlier, later, hrun⟩ := List.append_of_mem h
  obtain ⟨w', call, -, -, -, hstep, -⟩ := trace_split hrun
  exact ⟨w', call, hstep⟩

theorem Step.value_le {call : Call} (he : e.Spares p.counter.place.location)
    (hcall : call.Spares p.counter.place.location) {v : Nat}
    (hv : p.counter.value? (Step.of p e w call).after.files = some v) :
    ∃ u, p.counter.value? w.files = some u ∧ u ≤ v := by
  rw [← hcall.value? w, ← Step.of_before p e w call]
  rcases Step.cases he w call with ⟨fault, hfails⟩ | ⟨n, flow, hdeploys⟩
  · exact ⟨v, hfails.kept.value? hv, Nat.le_refl v⟩
  · obtain ⟨u, hu, rfl⟩ := hdeploys.before
    obtain rfl : u + 1 = v := by simpa [hdeploys.after] using hv
    exact ⟨u, hu, Nat.le_succ u⟩

theorem trace_value_le (he : e.Spares p.counter.place.location)
    (hcalls : ∀ call ∈ calls, call.Spares p.counter.place.location)
    (h : p.trace e w calls = earlier ++ step :: later) {v : Nat}
    (hv : p.counter.value? step.before.files = some v) :
    ∃ u, p.counter.value? w.files = some u ∧ u ≤ v := by
  induction earlier generalizing w calls with
  | nil =>
    cases calls with
    | nil => cases h
    | cons call rest =>
      obtain ⟨rfl, -⟩ := List.cons.inj h
      rw [Step.of_before, (hcalls call List.mem_cons_self).value? w] at hv
      exact ⟨v, hv, Nat.le_refl v⟩
  | cons first earlier ih =>
    cases calls with
    | nil => cases h
    | cons call rest =>
      obtain ⟨u, hu, hle⟩ := ih (fun c hc => hcalls c (List.mem_cons_of_mem call hc))
        (List.cons.inj h).2
      obtain ⟨t, ht, hle'⟩ := Step.value_le he (hcalls call List.mem_cons_self) hu
      exact ⟨t, ht, Nat.le_trans hle' hle⟩

theorem trace_numbers_lt (he : e.Spares p.counter.place.location)
    (hcalls : ∀ call ∈ calls, call.Spares p.counter.place.location) {first second : Step}
    {middle : List Step} (h : p.trace e w calls = earlier ++ first :: (middle ++ second :: later))
    {n m : Nat} {flow flow' : Flow} (hfirst : first.Deploys p n flow)
    (hsecond : second.Deploys p m flow') : n < m := by
  obtain ⟨w', call, before, rest, rfl, -, hrest⟩ := trace_split h
  obtain ⟨v, hv, rfl⟩ := hsecond.before
  obtain ⟨u, hu, hle⟩ := trace_value_le he
    (fun c hc => hcalls c (List.mem_append_right before (List.mem_cons_of_mem call hc)))
    hrest.symm hv
  obtain rfl : n = u := by simpa [hfirst.after] using hu
  exact Nat.lt_succ_of_le hle

/-- **The engine hears of a flow only after the flow's number is in the counter's file.**  Whatever
the template, the files and the engine, in a run that nobody else's writing to the counter's file
disturbs, all that a call asks belongs to the flow of one number, which stands in the file at each
attempt; the numbers of two calls are different, since they grow; and a call that generates no flow
fails without an attempt and leaves the content of the file as it was. -/
theorem trace_counts (p : Rollout) (e : Surroundings) (w : World) (calls : List Call)
    (he : e.Spares p.counter.place.location)
    (hcalls : ∀ call ∈ calls, call.Spares p.counter.place.location) :
    (∀ step ∈ p.trace e w calls, step.attempts ≠ [] → ∃ n flow, step.Deploys p n flow) ∧
    (∀ (earlier middle later : List Step) (first second : Step) (n m : Nat) (flow flow' : Flow),
      p.trace e w calls = earlier ++ first :: (middle ++ second :: later) →
      first.Deploys p n flow → second.Deploys p m flow' → n < m) ∧
    (∀ step ∈ p.trace e w calls, ∀ fault,
      (p.generate step.call.sensor step.call.layout step.before.files).1 = .error fault →
      step.result = false ∧ step.attempts = [] ∧
        p.counter.content? step.after.files = p.counter.content? step.before.files) := by
  refine ⟨fun step hstep hcontact => ?_, fun earlier middle later first second n m flow flow' hrun =>
    trace_numbers_lt he hcalls hrun, fun step hstep fault hfault => ?_⟩
  · obtain ⟨w', call, rfl⟩ := trace_mem hstep
    rcases Step.cases he w' call with ⟨fault, hfails⟩ | hdeploys
    · exact absurd hfails.silent hcontact
    · exact hdeploys
  · obtain ⟨w', call, rfl⟩ := trace_mem hstep
    rcases Step.cases he w' call with ⟨_, hfails⟩ | ⟨n, flow, hdeploys⟩
    · exact ⟨hfails.result, hfails.silent, hfails.kept.content?⟩
    · cases hdeploys.generated.symm.trans hfault

end Run

/-! ## A run of three calls -/

/-- A rollout to an engine on this machine, whose template is a tab alone. -/
def sample : Rollout where
  template := ⟨.arr [.obj [("id", .str "aaaaaaaa.000001"), ("type", .str "tab")]], .legacy⟩
  counter := .atPath "count" 1000
  client := ⟨⟨false, "", "localhost", some 1880, .root, none, none⟩, none, 1000, 0, 100⟩

/-- An engine that cannot be reached, and nobody who writes files. -/
def silence : Surroundings := fun w _ => (.unreachable, w.files)

/-- A call before which others take some locks and release all others. -/
def sampleCall (locked : List Location) : Call where
  sensor := Template.sampleSensor
  layout := Template.sampleLayout
  meanwhile := fun s => { s with locked }

/-- Generating for a call of the sample. -/
def sampleGenerate (locked : List Location) (s : Storage) : Except GenerationFault Flow × Storage :=
  sample.generate (sampleCall locked).sensor (sampleCall locked).layout { s with locked }

theorem run_silence (c : Conversation α) (w : World) :
    ((c.run silence.answer).run w).2.files = w.files := by
  induction c generalizing w with
  | done value => rfl
  | ask pause request next ih => exact ih _ _

theorem silence_after (w : World) (call : Call) : (Step.of p silence w call).after.files =
    (p.generate call.sensor call.layout (call.before w).files).2 := by
  cases hgenerate : p.generate call.sensor call.layout (call.before w).files with
  | mk result s =>
    cases result with
    | error fault => rw [Step.of, serve_of_error hgenerate]
    | ok flow => rw [Step.of, serve_of_ok hgenerate, run_silence]

/-- A call that generates a flow with a label comes to an attempt. -/
theorem sample_contacts {w : World} {locked : List Location}
    (h : ((sampleGenerate locked w.files).1.toOption.bind Submission.ofFlow?).isSome = true) :
    (Step.of sample silence w (sampleCall locked)).attempts ≠ [] := by
  obtain ⟨sub, hsub⟩ := Option.isSome_iff_exists.mp h
  obtain ⟨flow, hflow, hsub⟩ := Option.bind_eq_some_iff.mp hsub
  rcases Step.cases (p := sample) (e := silence) (fun _ _ => rfl) w (sampleCall locked) with
    ⟨fault, hfails⟩ | ⟨n, flow', hdeploys⟩
  · have hfault : (sampleGenerate locked w.files).1 = .error fault := hfails.generated
    rw [hfault] at hflow
    cases hflow
  · have hok : (sampleGenerate locked w.files).1 = .ok flow' := hdeploys.generated
    rw [hok] at hflow
    obtain rfl : flow' = flow := Option.some.inj hflow
    exact hdeploys.attempts_ne_nil nofun hsub

/-- A lock that others hold costs a call, but no number. -/
theorem trace_counts_locked :
    let w : World := ⟨⟨[((1, ["count"]), .file [52, 49])], []⟩, []⟩
    let calls := [sampleCall [], sampleCall [["count.lock"]], sampleCall []]
    ∃ first second third, sample.trace silence w calls = [first, second, third] ∧
      first.attempts ≠ [] ∧ third.attempts ≠ [] ∧
      (∃ n m flow flow', first.Deploys sample n flow ∧ third.Deploys sample m flow' ∧ n < m) ∧
      second.result = false ∧ second.attempts = [] := by
  intro w calls
  have hspares : ∀ call ∈ calls, call.Spares sample.counter.place.location := by
    simp only [calls, List.mem_cons, List.not_mem_nil, or_false]
    rintro call (rfl | rfl | rfl) <;> exact fun _ => rfl
  obtain ⟨hdeploys, hgrow, hfails⟩ := trace_counts sample silence w calls (fun _ _ => rfl) hspares
  obtain ⟨first, hfirst⟩ : ∃ first, first = Step.of sample silence w (sampleCall []) := ⟨_, rfl⟩
  obtain ⟨second, hsecond⟩ : ∃ second, second =
    Step.of sample silence first.after (sampleCall [["count.lock"]]) := ⟨_, rfl⟩
  obtain ⟨third, hthird⟩ : ∃ third, third =
    Step.of sample silence second.after (sampleCall []) := ⟨_, rfl⟩
  have hrun : sample.trace silence w calls = [first, second, third] := by
    rw [hthird, hsecond, hfirst]
    rfl
  have hfiles : first.after.files = (sampleGenerate [] w.files).2 := by
    rw [hfirst]
    exact silence_after w (sampleCall [])
  have hfiles' : second.after.files = (sampleGenerate [["count.lock"]] first.after.files).2 := by
    rw [hsecond]
    exact silence_after first.after (sampleCall [["count.lock"]])
  have hfirstContacts : first.attempts ≠ [] := hfirst ▸ sample_contacts (by decide +kernel)
  have hthirdContacts : third.attempts ≠ [] :=
    hthird ▸ sample_contacts (by rw [hfiles', hfiles]; decide +kernel)
  have hlocked : (sampleGenerate [["count.lock"]] first.after.files).1.toOption.isSome = false := by
    rw [hfiles]
    decide +kernel
  obtain ⟨fault, hfault⟩ : ∃ fault,
      (sampleGenerate [["count.lock"]] first.after.files).1 = .error fault := by
    cases hresult : (sampleGenerate [["count.lock"]] first.after.files).1 with
    | error fault => exact ⟨fault, rfl⟩
    | ok flow => simp [hresult, Except.toOption] at hlocked
  obtain ⟨n, flow, hn⟩ := hdeploys first (by simp [hrun]) hfirstContacts
  obtain ⟨m, flow', hm⟩ := hdeploys third (by simp [hrun]) hthirdContacts
  obtain ⟨hresult, hsilent, -⟩ := hfails second (by simp [hrun]) fault (by rw [hsecond]; exact hfault)
  exact ⟨first, second, third, hrun, hfirstContacts, hthirdContacts,
    ⟨n, m, flow, flow', hn, hm, hgrow [] [second] [] first third n m flow flow' hrun hn hm⟩,
    hresult, hsilent⟩

end Rollout

end UplinkFlow
