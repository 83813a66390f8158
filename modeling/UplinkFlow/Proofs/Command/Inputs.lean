import Mathlib.Tactic.ByContra
import UplinkFlow.Command.Run
import UplinkFlow.Proofs.Except
import UplinkFlow.Proofs.Service.Handling

/-!
# What a command reads

* `Command.Shows` — a file shows a document.
* `Command.Provides` — the files and the environment provide what a flow is made from.
* `Command.Lacks` — they do not, and for what reason.
* `Command.prepare_eq_ok_iff`, `Command.lacks_iff` — a flow is prepared from exactly what is
  provided, and nothing is provided exactly if something is lacking.
-/

set_option autoImplicit false

namespace UplinkFlow.Command

open Service (IsValid)

variable {α : Type} {reader : Reader α} {path : String} {paths : InputPaths} {e : Surroundings}
  {s : Storage} {sensor : Sensor} {layout : Layout} {settings : Settings} {rollout : Rollout}

/-! ## Documents -/

/-- The file at a path shows a document. -/
def Shows (reader : Reader α) (path : String) (s : Storage) (document : α) : Prop :=
  ∃ text, s.readText (Place.ofText path) = .ok text ∧ reader.ofText text = .ok document

theorem readDocument_eq_ok_iff {document : α} :
    readDocument reader path s = .ok document ↔ Shows reader path s document := by
  unfold readDocument Shows
  cases s.readText (Place.ofText path) with
  | error fault => simp
  | ok text => simp [mapError_eq_ok_iff]

theorem readInputs_eq_ok_iff : readInputs paths s = .ok (sensor, layout) ↔
    Shows Sensor.reader paths.sensor s sensor ∧ Shows Layout.reader paths.layout s layout := by
  simp only [readInputs, bind_eq_ok_iff, readDocument_eq_ok_iff, pure, Except.pure]
  constructor
  · rintro ⟨_, hsensor, _, hlayout, ⟨⟩⟩
    exact ⟨hsensor, hlayout⟩
  · rintro ⟨hsensor, hlayout⟩
    exact ⟨sensor, hsensor, layout, hlayout, rfl⟩

theorem checkedInputs_eq_ok_iff : checkedInputs paths s = .ok (sensor, layout) ↔
    (Shows Sensor.reader paths.sensor s sensor ∧ Shows Layout.reader paths.layout s layout) ∧
      IsValid sensor layout := by
  simp only [checkedInputs, bind_eq_ok_iff, mapError_eq_ok_iff, pure, Except.pure]
  constructor
  · rintro ⟨⟨_, _⟩, hread, ⟨⟩, hvalid, ⟨⟩⟩
    exact ⟨readInputs_eq_ok_iff.mp hread, Service.checkInputs_eq_ok_iff.mp hvalid⟩
  · rintro ⟨hread, hvalid⟩
    exact ⟨(sensor, layout), readInputs_eq_ok_iff.mpr hread, (),
      Service.checkInputs_eq_ok_iff.mpr hvalid, rfl⟩

/-! ## Settings -/

/-- The settings that the environment and the file of variables describe. -/
def Configures (e : Surroundings) (s : Storage) (settings : Settings) : Prop :=
  Settings.ofEnvironment e.environment (s.readText (Place.ofText variablesPath)).toOption =
    .ok settings

/-- The settings name a counter. -/
def Names (e : Surroundings) (s : Storage) (c : Counter) : Prop :=
  ∃ settings, Configures e s settings ∧ c = Counter.atPath settings.counterPath settings.lockTimeout

theorem Configures.unique {settings' : Settings} (h : Configures e s settings)
    (h' : Configures e s settings') : settings' = settings :=
  Except.ok.inj (h'.symm.trans h)

theorem Names.unique {c c' : Counter} (h : Names e s c) (h' : Names e s c') : c' = c := by
  obtain ⟨settings, hsettings, rfl⟩ := h
  obtain ⟨_, hsettings', rfl⟩ := h'
  rw [hsettings.unique hsettings']

theorem readSettings_eq_ok_iff : readSettings e s = .ok (settings, rollout) ↔
    Configures e s settings ∧ Rollout.ofSettings settings s = .ok rollout := by
  simp only [readSettings, Configures, bind_eq_ok_iff, mapError_eq_ok_iff, pure, Except.pure]
  constructor
  · rintro ⟨_, hsettings, _, hrollout, ⟨⟩⟩
    exact ⟨hsettings, hrollout⟩
  · rintro ⟨hsettings, hrollout⟩
    exact ⟨settings, hsettings, rollout, hrollout, rfl⟩

theorem ofSettings_eq_ok_iff : Rollout.ofSettings settings s = .ok rollout ↔
    ∃ template, Template.load s settings.templatePath settings.idPattern = .ok template ∧
      rollout = ⟨template, Counter.atPath settings.counterPath settings.lockTimeout,
        Engine.Client.ofSettings settings⟩ := by
  simp only [Rollout.ofSettings, bind_eq_ok_iff, pure, Except.pure]
  constructor
  · rintro ⟨template, htemplate, ⟨⟩⟩
    exact ⟨template, htemplate, rfl⟩
  · rintro ⟨template, htemplate, rfl⟩
    exact ⟨template, htemplate, rfl⟩

/-! ## What a flow is made from -/

/-- The files and the environment provide what a flow is made from: two documents that may be used
together, and a rollout with the counter that the environment names. -/
structure Provides (e : Surroundings) (paths : InputPaths) (s : Storage) (sensor : Sensor)
    (layout : Layout) (rollout : Rollout) : Prop where
  readsSensor : Shows Sensor.reader paths.sensor s sensor
  readsLayout : Shows Layout.reader paths.layout s layout
  valid : IsValid sensor layout
  describes : ∃ settings, Configures e s settings ∧ Rollout.ofSettings settings s = .ok rollout

/-- Something that a flow is made from is lacking: a document does not read, the two may not be used
together, the environment describes no settings, or there is no template. -/
inductive Lacks (e : Surroundings) (paths : InputPaths) (s : Storage) : Prop where
  | sensor (unread : ∀ sensor, ¬Shows Sensor.reader paths.sensor s sensor)
  | layout (unread : ∀ layout, ¬Shows Layout.reader paths.layout s layout)
  | validity {sensor : Sensor} {layout : Layout} (read : Shows Sensor.reader paths.sensor s sensor)
    (read' : Shows Layout.reader paths.layout s layout) (invalid : ¬IsValid sensor layout)
  | environment (bad : ∀ settings, ¬Configures e s settings)
  | template {settings : Settings} (configures : Configures e s settings)
    (bad : ∀ template, Template.load s settings.templatePath settings.idPattern ≠ .ok template)

theorem Shows.unique {document document' : α} (h : Shows reader path s document)
    (h' : Shows reader path s document') : document' = document := by
  rw [← readDocument_eq_ok_iff] at h h'
  exact Except.ok.inj (h'.symm.trans h)

theorem Provides.names (h : Provides e paths s sensor layout rollout) :
    Names e s rollout.counter := by
  obtain ⟨settings, hsettings, hrollout⟩ := h.describes
  obtain ⟨template, -, rfl⟩ := ofSettings_eq_ok_iff.mp hrollout
  exact ⟨settings, hsettings, rfl⟩

/-- **A flow is prepared from what is provided.** -/
theorem prepare_eq_ok_iff : prepare e paths s = .ok (sensor, layout, rollout) ↔
    Provides e paths s sensor layout rollout := by
  simp only [prepare, bind_eq_ok_iff, pure, Except.pure]
  constructor
  · rintro ⟨⟨_, _⟩, hinputs, ⟨settings, _⟩, hsettings, ⟨⟩⟩
    obtain ⟨⟨hsensor, hlayout⟩, hvalid⟩ := checkedInputs_eq_ok_iff.mp hinputs
    exact ⟨hsensor, hlayout, hvalid, settings, readSettings_eq_ok_iff.mp hsettings⟩
  · rintro ⟨hsensor, hlayout, hvalid, settings, hsettings⟩
    exact ⟨_, checkedInputs_eq_ok_iff.mpr ⟨⟨hsensor, hlayout⟩, hvalid⟩, (settings, rollout),
      readSettings_eq_ok_iff.mpr hsettings, rfl⟩

/-- **Something is lacking exactly if nothing is provided.** -/
theorem lacks_iff : Lacks e paths s ↔
    ∀ sensor layout rollout, ¬Provides e paths s sensor layout rollout := by
  constructor
  · rintro h sensor layout rollout ⟨hsensor, hlayout, hvalid, settings, hsettings, hrollout⟩
    cases h with
    | sensor unread => exact unread sensor hsensor
    | layout unread => exact unread layout hlayout
    | validity read read' invalid =>
      exact invalid (hsensor.unique read ▸ hlayout.unique read' ▸ hvalid)
    | environment bad => exact bad settings hsettings
    | template configures bad =>
      obtain ⟨template, htemplate, -⟩ := ofSettings_eq_ok_iff.mp hrollout
      rw [configures.unique hsettings] at htemplate
      exact bad template htemplate
  · intro hnone
    by_contra hlacks
    -- each part is there, for its absence would be one of the reasons
    obtain ⟨sensor, hsensor⟩ : ∃ sensor, Shows Sensor.reader paths.sensor s sensor :=
      not_forall_not.mp fun unread => hlacks (.sensor unread)
    obtain ⟨layout, hlayout⟩ : ∃ layout, Shows Layout.reader paths.layout s layout :=
      not_forall_not.mp fun unread => hlacks (.layout unread)
    have hvalid : IsValid sensor layout :=
      not_not.mp fun invalid => hlacks (.validity hsensor hlayout invalid)
    obtain ⟨settings, hsettings⟩ : ∃ settings, Configures e s settings :=
      not_forall_not.mp fun bad => hlacks (.environment bad)
    obtain ⟨template, htemplate⟩ : ∃ template,
        Template.load s settings.templatePath settings.idPattern = .ok template :=
      not_forall_not.mp fun bad => hlacks (.template hsettings bad)
    exact hnone sensor layout _ ⟨hsensor, hlayout, hvalid, settings, hsettings,
      ofSettings_eq_ok_iff.mpr ⟨template, htemplate, rfl⟩⟩

theorem Lacks.prepare_eq_error (h : Lacks e paths s) :
    ∃ fault, prepare e paths s = .error fault := by
  cases hprepare : prepare e paths s with
  | error fault => exact ⟨fault, rfl⟩
  | ok ready => exact absurd (prepare_eq_ok_iff.mp hprepare) (lacks_iff.mp h _ _ _)

/-- A file in the working folder. -/
def sampleFile (name content : String) : (Nat × Location) × Entry :=
  ((1, [name]), .file (Text.utf8Bytes content))

end UplinkFlow.Command
