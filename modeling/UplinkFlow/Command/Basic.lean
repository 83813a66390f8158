import UplinkFlow.Text.Decimal

/-!
# Commands

A `Command` is what the program is asked to do.  The arguments name the command first; options with
two hyphens take a value, which follows them or an equals sign, and may be given once.

* `Command.ofArguments` — the command that arguments stand for, or why there is none.
-/

set_option autoImplicit false

namespace UplinkFlow

/-- The files of a sensor and of its layout. -/
structure InputPaths where
  sensor : String
  layout : String
deriving DecidableEq, Repr

/-- What the program does: print or deploy the flow of a sensor, delete a flow, decode a payload,
check a sensor and its layout, or answer requests. -/
inductive Command where
  | generate (inputs : InputPaths)
  | deploy (inputs : InputPaths)
  | delete (sensorId : String)
  | decode (inputs : InputPaths) (digits : String) (received : Option Int64)
  | checkConfig (inputs : InputPaths)
  | serve (bind : Option String)
deriving DecidableEq, Repr

namespace Command

/-- The files that a command reads as inputs. -/
def inputs? : Command → Option InputPaths
  | .generate inputs | .deploy inputs | .decode inputs _ _ | .checkConfig inputs => some inputs
  | .delete _ | .serve _ => none

/-- Whether a command hands out a number of the counter. -/
def advances : Command → Bool
  | .generate _ | .deploy _ => true
  | _ => false

/-- Why arguments stand for no command. -/
inductive Stop where
  | help
  | version
  | misuse
deriving DecidableEq, Repr

def programName : String := "sensor-flow-provisioner"

def versionText : String := programName ++ " 0.1.0\n"

/-- What the value of an option must be. -/
inductive ValueKind where
  | path
  | text
  | integer
deriving DecidableEq, Repr

/-- Whether a text is a value of a kind. -/
def ValueKind.admits (kind : ValueKind) (value : String) : Bool :=
  match kind with
  | .path => !value.isEmpty
  | .text => true
  | .integer => (Text.readInt? value).isSome

/-- The arguments that a command takes: options with values, and a number of operands. -/
structure Usage where
  options : List (String × ValueKind)
  operands : Nat

/-- The arguments of a command as far as they have been read. -/
structure Given where
  values : List (String × String) := []
  operands : List String := []
deriving DecidableEq, Repr

namespace Given

def value? (g : Given) (option : String) : Option String := g.values.lookup option

def addValue (g : Given) (usage : Usage) (option value : String) : Except Stop Given :=
  match usage.options.lookup option with
  | none => .error .misuse
  | some kind =>
    if (g.value? option).isSome || !kind.admits value then .error .misuse
    else .ok { g with values := g.values ++ [(option, value)] }

def addOperand (usage : Usage) (g : Given) (operand : String) : Except Stop Given :=
  if g.operands.length < usage.operands then
    .ok { g with operands := g.operands ++ [operand] }
  else .error .misuse

end Given

/-- Whether an argument is an option rather than a value. -/
def isOption (argument : String) : Bool :=
  argument.toList.head? == some '-' && 1 < argument.length

/-- Reads the arguments behind the name of a command. -/
def readArguments (usage : Usage) (g : Given) : List String → Except Stop Given
  | [] => .ok g
  | argument :: rest =>
    match argument.toList with
    | ['-', '-'] => rest.foldlM (Given.addOperand usage) g
    | '-' :: '-' :: body =>
      let option := String.ofList (body.takeWhile (· != '='))
      match body.drop option.length with
      | _ :: attached =>
        match g.addValue usage option (String.ofList attached) with
        | .ok g => readArguments usage g rest
        | .error stop => .error stop
      | [] =>
        if option = "help" then .error .help
        else
          match rest with
          | [] => .error .misuse
          | value :: rest =>
            if isOption value then .error .misuse
            else
              match g.addValue usage option value with
              | .ok g => readArguments usage g rest
              | .error stop => .error stop
    | '-' :: letter :: _ => .error (if letter = 'h' then .help else .misuse)
    | _ =>
      match Given.addOperand usage g argument with
      | .ok g => readArguments usage g rest
      | .error stop => .error stop

/-- The options of a sensor and its layout. -/
def inputOptions : List (String × ValueKind) := [("sensor", .path), ("config", .path)]

/-- The files that the options name. -/
def Given.inputs? (g : Given) : Option InputPaths :=
  match g.value? "sensor", g.value? "config" with
  | some sensor, some layout => some ⟨sensor, layout⟩
  | _, _ => none

/-- The arguments of a command, and the command that they make. -/
structure Form where
  name : String
  usage : Usage
  make? : Given → Option Command

def forms : List Form :=
  [ ⟨"generate", ⟨inputOptions, 0⟩, fun g => g.inputs?.map .generate⟩,
    ⟨"deploy", ⟨inputOptions, 0⟩, fun g => g.inputs?.map .deploy⟩,
    ⟨"delete", ⟨[], 1⟩, fun g => g.operands.head?.map .delete⟩,
    ⟨"decode",
      ⟨inputOptions ++ [("payload-hex", .text), ("received-at-ns", .integer)], 0⟩,
      fun g =>
        match g.inputs?, g.value? "payload-hex" with
        | some inputs, some digits =>
          some (.decode inputs digits
            (((g.value? "received-at-ns").bind Text.readInt?).map Int64.ofInt))
        | _, _ => none⟩,
    ⟨"check-config", ⟨inputOptions, 0⟩, fun g => g.inputs?.map .checkConfig⟩,
    ⟨"serve", ⟨[("bind", .text)], 0⟩, fun g => some (.serve (g.value? "bind"))⟩ ]

def form? (name : String) : Option Form := forms.find? fun f => f.name == name

/-- Why a request for help on a command stops the program. -/
def helpOn : List String → Stop
  | [] => .help
  | [name] => if name = "help" ∨ (form? name).isSome then .help else .misuse
  | _ => .misuse

/-- Why arguments that do not begin with a command stop the program. -/
def stopAt (argument : String) (rest : List String) : Stop :=
  if argument = "help" then helpOn rest
  else
    match argument.toList with
    | '-' :: '-' :: option =>
      if option = "help".toList then .help
      else if option = "version".toList then .version
      else .misuse
    | '-' :: 'h' :: _ => .help
    | '-' :: 'V' :: _ => .version
    | _ => .misuse

/-- The command that arguments stand for. -/
def ofArguments : List String → Except Stop Command
  | [] => .error .misuse
  | argument :: rest =>
    match form? argument with
    | none => .error (stopAt argument rest)
    | some form => do
      let given ← readArguments form.usage {} rest
      match form.make? given with
      | some command => .ok command
      | none => .error .misuse

end Command

end UplinkFlow
