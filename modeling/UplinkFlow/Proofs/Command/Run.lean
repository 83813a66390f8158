import UplinkFlow.Proofs.Command.Inputs
import UplinkFlow.Proofs.Service.Run

/-!
# Runs of commands

A command is run while the engine answers as it likes and others do with the files what they like.

* `Reception`, `Task.finish`, `perform` — what comes of listening, and a command up to its report.
* `generateReport_cases` — everything that generating can do with a counter.
* `Run.IsFramed` — what one command may print, and what it may do to the counter and the engine.
* `commands_framed` — **every command keeps within that**: a failure prints nothing on the standard
  output, generating counts exactly if it succeeds, and whatever a flow is made from is looked at
  before anything changes.
-/

set_option autoImplicit false

namespace UplinkFlow.Command

open Engine (Conversation)
open Rollout (Attempt World)

/-! ## One run -/

/-- What comes of listening for requests: the system refuses the address, or requests come in until
the program is interrupted. -/
inductive Reception where
  | refused (fault : Service.Address.Fault)
  | interrupted (visits : List Service.Visit)

variable {e : Surroundings} {others : Rollout.Surroundings} {reception : Reception}
  {paths : InputPaths} {s s' : Storage} {c : Counter} {report : Report}

/-- Does what a command has left to do. -/
def Task.finish (others : Rollout.Surroundings) (reception : Reception) :
    Task → StateM World Report
  | .converse conversation => conversation.run others.answer
  | .listen text _ rollout => fun w =>
    match reception with
    | .refused fault => (.error (.address text fault), w)
    | .interrupted visits => (.ok "", Service.final rollout others w visits)

def perform (e : Surroundings) (others : Rollout.Surroundings) (reception : Reception)
    (command : Command) : StateM World Report := fun w =>
  let (task, files) := start e command w.files
  (task.finish others reception).run { w with files }

/-- A command that has been run, between two states of the world. -/
structure Run where
  before : World
  command : Command
  report : Report
  after : World

namespace Run

/-- The run that a command makes of a state of the world. -/
def of (e : Surroundings) (others : Rollout.Surroundings) (reception : Reception)
    (command : Command) (w : World) : Run where
  before := w
  command := command
  report := (perform e others reception command w).1
  after := (perform e others reception command w).2

def ending (run : Run) : Ending := Command.ending run.report

def attempts (run : Run) : List Attempt := run.after.attempts.drop run.before.attempts.length

/-- What one command may do.

* `silent` — a failure prints nothing on the standard output;
* `inspects` — decoding and checking change nothing and ask nothing;
* `generates` — generating asks nothing; the number in the file of the counter that the settings
  name grows by one exactly if the command succeeds, and the content is the same otherwise;
* `deletes` — deleting leaves every file as it is, at each attempt and in the end, unless others
  change it meanwhile;
* `refuses` — where something is lacking that a flow is made from, the command fails, and nothing
  has been changed and nothing asked. -/
structure IsFramed (e : Surroundings) (others : Rollout.Surroundings) (run : Run) : Prop where
  silent : run.ending.code ≠ 0 → run.ending.output = ""
  inspects : (∃ paths digits received, run.command = .decode paths digits received) ∨
    (∃ paths, run.command = .checkConfig paths) → run.after = run.before
  generates : ∀ paths, run.command = .generate paths →
    run.after.attempts = run.before.attempts ∧
    ∀ c, Names e run.before.files c →
      ((∃ v, c.value? run.before.files = some v ∧ c.value? run.after.files = some (v + 1)) ↔
        run.ending.code = 0) ∧
      (run.ending.code ≠ 0 → c.content? run.after.files = c.content? run.before.files)
  deletes : ∀ id, run.command = .delete id → ∀ l, others.Spares l →
    run.after.files.lookup l = run.before.files.lookup l ∧
      ∀ a ∈ run.attempts, a.files.lookup l = run.before.files.lookup l
  refuses : ∀ paths, run.command = .generate paths ∨ run.command = .deploy paths →
    Lacks e paths run.before.files → run.ending.code ≠ 0 ∧ run.after = run.before

end Run

/-! ## The end of a run -/

theorem ending_code_eq_zero_iff : (ending report).code = 0 ↔ ∃ output, report = .ok output := by
  cases report with
  | error fault => exact ⟨nofun, nofun⟩
  | ok output => exact ⟨fun _ => ⟨output, rfl⟩, fun _ => rfl⟩

theorem ending_output_of_code_ne_zero (h : (ending report).code ≠ 0) :
    (ending report).output = "" := by
  cases report with
  | error fault => rfl
  | ok output => exact absurd rfl h

/-! ## Making a flow -/

theorem Lacks.generateReport_eq (h : Lacks e paths s) :
    ∃ fault, generateReport e paths s = (.error fault, s) := by
  obtain ⟨fault, hfault⟩ := h.prepare_eq_error
  refine ⟨fault, ?_⟩
  delta generateReport
  rw [hfault]

theorem Lacks.deployReport_eq (h : Lacks e paths s) :
    ∃ fault, deployReport e paths s = (.done (.error fault), s) := by
  obtain ⟨fault, hfault⟩ := h.prepare_eq_error
  refine ⟨fault, ?_⟩
  delta deployReport
  rw [hfault]

/-- **Everything that generating can do with the counter that the settings name**: it fails and
leaves the counter's file alone, or it counts a number and succeeds. -/
theorem generateReport_cases (hc : Names e s c) (h : generateReport e paths s = (report, s')) :
    (∃ fault, report = .error fault ∧ c.KeepsFile s s') ∨
      ∃ n output, report = .ok output ∧ c.Issues n s s' := by
  delta generateReport at h
  split at h
  · cases h
    exact .inl ⟨_, rfl, .inl rfl⟩
  · rename_i sensor layout rollout hprepare
    obtain rfl := (prepare_eq_ok_iff.mp hprepare).names.unique hc
    cases hgenerate : rollout.generate sensor layout s with
    | mk result after =>
      rw [hgenerate] at h
      cases h
      rcases Rollout.generate_cases hgenerate with
        ⟨fault, rfl, hkeeps⟩ | ⟨n, flow, rfl, -, hissues⟩
      · exact .inl ⟨_, rfl, hkeeps⟩
      · exact .inr ⟨n, _, rfl, hissues⟩

theorem generateReport_counts (hc : Names e s c) (h : generateReport e paths s = (report, s')) :
    ((∃ v, c.value? s = some v ∧ c.value? s' = some (v + 1)) ↔ (ending report).code = 0) ∧
      ((ending report).code ≠ 0 → c.content? s' = c.content? s) := by
  rw [Ne, ending_code_eq_zero_iff]
  rcases generateReport_cases hc h with ⟨fault, rfl, hkeeps⟩ | ⟨n, output, rfl, hissues⟩
  · refine ⟨⟨?_, nofun⟩, fun _ => hkeeps.content?⟩
    rintro ⟨v, hv, hnext⟩
    -- a number that is in the file now has been there before
    have hsame := hkeeps.value? hnext
    rw [hv] at hsame
    exact absurd (Option.some.inj hsame) (by omega)
  · obtain ⟨v, hv, -, rfl⟩ := hissues.before
    exact ⟨⟨fun _ => ⟨output, rfl⟩, fun _ => ⟨v, hv, hissues.value⟩⟩,
      fun hfails => absurd ⟨output, rfl⟩ hfails⟩

/-! ## Commands -/

theorem perform_generate (w : World) : perform e others reception (.generate paths) w =
    ((generateReport e paths w.files).1,
      { w with files := (generateReport e paths w.files).2 }) := by
  rfl

theorem perform_deploy (w : World) : perform e others reception (.deploy paths) w =
    ((deployReport e paths w.files).1.run others.answer).run
      { w with files := (deployReport e paths w.files).2 } := by
  rfl

theorem perform_delete (id : String) (w : World) : perform e others reception (.delete id) w =
    ((deleteReport e id w.files).run others.answer).run w := rfl

theorem Run.of_eq {command : Command} {w after : World}
    (h : perform e others reception command w = (report, after)) :
    Run.of e others reception command w = ⟨w, command, report, after⟩ := by
  rw [Run.of, h]

/-- A command that makes a flow stops at once where something is lacking. -/
theorem Lacks.perform_eq {command : Command} {w : World}
    (hcommand : command = .generate paths ∨ command = .deploy paths)
    (h : Lacks e paths w.files) :
    ∃ fault, perform e others reception command w = (.error fault, w) := by
  rcases hcommand with rfl | rfl
  · obtain ⟨fault, hfault⟩ := h.generateReport_eq
    exact ⟨fault, by rw [perform_generate, hfault]⟩
  · obtain ⟨fault, hfault⟩ := h.deployReport_eq
    exact ⟨fault, by rw [perform_deploy, hfault]; rfl⟩

/-- **Every command is framed.**  Whatever the command, the files, the environment, the engine and
the others, a failure prints nothing on the standard output; decoding and checking change and ask
nothing; generating asks nothing and counts one exactly if it succeeds; deleting writes no file; and
a flow is generated or deployed only after everything that it is made from has been found, without
which nothing changes and nothing is asked. -/
theorem commands_framed (e : Surroundings) (others : Rollout.Surroundings) (reception : Reception)
    (command : Command) (w : World) :
    (Run.of e others reception command w).IsFramed e others where
  silent := ending_output_of_code_ne_zero
  inspects := by
    rintro (⟨paths, digits, received, (rfl : command = _)⟩ | ⟨paths, (rfl : command = _)⟩)
    · rfl
    · rfl
  generates := by
    rintro paths (rfl : command = .generate paths)
    cases hreport : generateReport e paths w.files with
    | mk report files =>
      have hperform : perform e others reception (.generate paths) w =
          (report, { w with files }) := by
        rw [perform_generate, hreport]
      rw [Run.of_eq hperform]
      exact ⟨rfl, fun c hc => generateReport_counts hc hreport⟩
  deletes := by
    rintro id (rfl : command = .delete id) l hspares
    obtain ⟨value, attempts, files, hrun, -, hfiles, hattempts⟩ :=
      Rollout.run_attempts hspares (deleteReport e id w.files) w
    have hnew : Run.attempts ⟨w, .delete id, value, ⟨files, w.attempts ++ attempts⟩⟩ = attempts :=
      List.drop_left
    rw [Run.of_eq ((perform_delete id w).trans hrun), hnew]
    exact ⟨hfiles, hattempts⟩
  refuses := by
    intro paths (hcommand : command = .generate paths ∨ command = .deploy paths)
      (hlacks : Lacks e paths w.files)
    obtain ⟨fault, hfault⟩ : ∃ fault, perform e others reception command w = (.error fault, w) :=
      hlacks.perform_eq hcommand
    rw [Run.of_eq hfault]
    exact ⟨nofun, rfl⟩

/-! ## Two commands -/

/-- The files of a sensor, its layout, a template and a counter. -/
def sampleFiles : Storage where
  entries :=
    [ sampleFile "sensor" Template.sampleSensorText,
      sampleFile "layout" Template.sampleLayoutText,
      sampleFile "template" "[\x7b\"id\":\"aaaaaaaa.000001\",\"type\":\"tab\"\x7d]",
      sampleFile "count" "41" ]
  locked := []

/-- An environment that names the template and the counter. -/
def sampleSurroundings : Surroundings where
  environment := [("PROVISIONER_TEMPLATE_PATH", "template"), ("PROVISIONER_COUNTER_PATH", "count")]
  now := 0

theorem sample_names : Names sampleSurroundings sampleFiles (.atPath "count" 5000) := by
  have hpaths : (Settings.ofEnvironment sampleSurroundings.environment
      (sampleFiles.readText (Place.ofText variablesPath)).toOption).toOption.map
        (fun settings => (settings.counterPath, settings.lockTimeout)) = some ("count", 5000) := by
    decide +kernel
  obtain ⟨settings, hsettings, hpath⟩ := Option.map_eq_some_iff.mp hpaths
  obtain ⟨hcounter, htimeout⟩ := Prod.mk.inj hpath
  exact ⟨settings, toOption_eq_some_iff.mp hsettings, by rw [hcounter, htimeout]⟩

theorem sample_generates : (Run.of sampleSurroundings Rollout.silence (.interrupted [])
    (.generate ⟨"sensor", "layout"⟩) ⟨sampleFiles, []⟩).ending.code = 0 := by
  rw [Run.ending, Run.of, perform_generate]
  decide +kernel

theorem sample_lacks : Lacks sampleSurroundings ⟨"layout", "sensor"⟩ sampleFiles := by
  refine .sensor fun sensor hsensor => ?_
  have hnone : (readDocument Sensor.reader "layout" sampleFiles).toOption.isSome = false := by
    decide +kernel
  rw [readDocument_eq_ok_iff.mpr hsensor] at hnone
  cases hnone

/-- Generating a flow counts; deploying with the two documents interchanged changes nothing. -/
theorem commands_framed_generate :
    let w : World := ⟨sampleFiles, []⟩
    let c := Counter.atPath "count" 5000
    let generated := Run.of sampleSurroundings Rollout.silence (.interrupted [])
      (.generate ⟨"sensor", "layout"⟩) w
    let refused := Run.of sampleSurroundings Rollout.silence (.interrupted [])
      (.deploy ⟨"layout", "sensor"⟩) w
    generated.ending.code = 0 ∧ c.value? generated.before.files = some 41 ∧
      c.value? generated.after.files = some 42 ∧ refused.ending.code ≠ 0 ∧
      refused.ending.output = "" ∧ refused.after = refused.before := by
  intro w c generated refused
  have hgenerated : generated.IsFramed sampleSurroundings Rollout.silence :=
    commands_framed sampleSurroundings Rollout.silence (.interrupted []) _ w
  have hrefused : refused.IsFramed sampleSurroundings Rollout.silence :=
    commands_framed sampleSurroundings Rollout.silence (.interrupted []) _ w
  have hcode : generated.ending.code = 0 := sample_generates
  have hcount : c.value? generated.before.files = some 41 := by decide +kernel
  obtain ⟨v, hv, hafter⟩ := ((hgenerated.generates _ rfl).2 c sample_names).1.mpr hcode
  rw [hcount] at hv
  obtain rfl : 41 = v := Option.some.inj hv
  obtain ⟨hfails, hsame⟩ := hrefused.refuses _ (.inr rfl) sample_lacks
  exact ⟨hcode, hcount, hafter, hfails, hrefused.silent hfails, hsame⟩

end UplinkFlow.Command
