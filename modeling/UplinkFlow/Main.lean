import UplinkFlow.Host.Server

/-!
# The program

Reads the arguments and the environment, runs the command and prints its report.  The program ends
with 0, with 1 if the command fails, and with 2 if the arguments stand for no command.
-/

set_option autoImplicit false

namespace UplinkFlow.Host

/-- What the program tells about its use. -/
def usageText : String :=
  "Usage: " ++ Command.programName ++ " <COMMAND>\n\nCommands:\n" ++
  "  generate --sensor <FILE> --config <FILE>      print the flow of a sensor\n" ++
  "  deploy --sensor <FILE> --config <FILE>        create or update its flow on the engine\n" ++
  "  delete <SENSOR_ID>                            remove its flow from the engine\n" ++
  "  decode --sensor <FILE> --config <FILE> --payload-hex <HEX> [--received-at-ns <TIME>]\n" ++
  "                                                decode a captured payload\n" ++
  "  check-config --sensor <FILE> --config <FILE>  check a sensor and its layout\n" ++
  "  serve [--bind <ADDRESS>]                      answer requests over HTTP\n"

/-- The text of the file of variables in the working folder or the nearest one around it. -/
def findVariables (path : String) : (levels : Nat) → IO (Option String)
  | 0 => return none
  | levels + 1 => do
    match ← probe path with
    | some (.file bytes) => return Text.ofUtf8? bytes
    | _ => findVariables ("../" ++ path) levels

/-- The words of a text that can be names of variables. -/
def wordsOf (text : String) : List String :=
  let separated := text.toList.map fun c => if EnvFile.isKeyChar c then c else ' '
  ((Text.partsAt ' ' separated).filter (!·.isEmpty)).map String.ofList

/-- The environment variables with given names. -/
def environment (names : List String) : IO EnvFile.Variables :=
  names.eraseDups.filterMapM fun name => do
    return (← IO.getEnv name).map fun value => (name, value)

/-- The variables that the program goes by: those of the environment and of the file. -/
def readVariables : IO EnvFile.Variables := do
  let folder := toString (← IO.currentDir)
  match ← findVariables Command.variablesPath folder.length with
  | none => environment Settings.variableNames
  | some text =>
    let given ← environment (Settings.variableNames ++ wordsOf text)
    return EnvFile.assignments given text

/-- The paths that a command works on, and the counter that it advances. -/
def pathsOf (command : Command) (environment : EnvFile.Variables) : List String × Option Counter :=
  let inputs := (command.inputs?.map fun paths => [paths.sensor, paths.layout]).getD []
  match Settings.ofVariables environment.get? with
  | .error _ => (inputs, none)
  | .ok settings =>
    let counter := Counter.atPath settings.counterPath settings.lockTimeout
    let paths := settings.templatePath :: inputs
    if command.advances then (counterPaths counter ++ paths, some counter) else (paths, none)

/-- The time that the engine may take for an answer. -/
def engineTimeout (environment : EnvFile.Variables) : Nat :=
  ((Settings.ofVariables environment.get?).toOption.map (·.httpTimeout)).getD 0

/-- Runs a command to its report. -/
def runCommand (command : Command) : IO Command.Report := do
  let environment ← readVariables
  let (paths, counter) := pathsOf command environment
  let present ← now
  match ← transact paths counter (Command.start ⟨environment, present⟩ command) with
  | .converse conversation => conversation.run (ask (engineTimeout environment))
  | .listen text address rollout => serve rollout text address

/-- Prints what the arguments ask for and gives the code that the program ends with. -/
def run (arguments : List String) : IO UInt32 := do
  match Command.ofArguments arguments with
  | .error .help => IO.print usageText; return 0
  | .error .version => IO.print Command.versionText; return 0
  | .error .misuse => IO.eprint usageText; return 2
  | .ok command =>
    let ending := Command.ending (← runCommand command)
    IO.print ending.output
    IO.eprint ending.complaint
    return ending.code

end UplinkFlow.Host

/-- Runs the program. -/
def main (arguments : List String) : IO UInt32 := UplinkFlow.Host.run arguments
