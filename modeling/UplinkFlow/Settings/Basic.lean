import UplinkFlow.NodeId.Pattern
import UplinkFlow.Settings.EnvFile
import UplinkFlow.Text.Decimal
import UplinkFlow.Url.Basic

/-!
# Settings

The `Settings` of the program come from environment variables; a variable that is not set stands
for its default.  Blanks around a value do not count, and durations are milliseconds.

* `Settings.ofVariables` — the settings, or the fault of the first variable that has one.
* `Settings.ofEnvironment` — the same after a file of variables has been added.
-/

set_option autoImplicit false

namespace UplinkFlow

/-- What the program needs to know about its surroundings. -/
structure Settings where
  engineUrl : Url
  engineToken : Option String
  httpTimeout : Nat
  connectRetries : Nat
  retryBackoff : Nat
  templatePath : String
  idPattern : NodeIdPattern
  counterPath : String
  lockTimeout : Nat
  httpBind : String

namespace Settings

/-- Why variables are no settings. -/
inductive Fault where
  | invalidUrl (fault : Url.Fault)
  | foreignScheme (scheme : String)
  | invalidNumber (variableName : String) (fault : Text.WholeFault)
  | invalidPattern (fault : NodeIdPattern.UnknownName)
deriving DecidableEq, Repr

/-- The name of the variable with the address of the engine. -/
def engineUrlName : String := "PROVISIONER_ENGINE_URL"

/-- The name of the variable with the pattern of identifiers. -/
def idPatternName : String := "PROVISIONER_ID_PATTERN"

def variableNames : List String :=
  [ engineUrlName, "PROVISIONER_ENGINE_TOKEN", "PROVISIONER_HTTP_TIMEOUT_MS",
    "PROVISIONER_CONNECT_RETRIES", "PROVISIONER_RETRY_BACKOFF_MS", "PROVISIONER_TEMPLATE_PATH",
    idPatternName, "PROVISIONER_COUNTER_PATH", "PROVISIONER_LOCK_TIMEOUT_MS",
    "PROVISIONER_HTTP_BIND" ]

def Fault.chain : Fault → List String
  | .invalidUrl fault => ["invalid " ++ engineUrlName, fault.message]
  | .foreignScheme scheme => [engineUrlName ++ " must be http or https, got " ++ scheme]
  | .invalidNumber name fault => ["invalid " ++ name, fault.message]
  | .invalidPattern fault => ["invalid " ++ idPatternName, fault.message]

variable (lookup : String → Option String)

def textOf (name default : String) : String := ((lookup name).map Text.trim).getD default

/-- The text of a variable, unless it is blank. -/
def optionalText (name : String) : Option String :=
  ((lookup name).map Text.trim).filter fun s => !s.isEmpty

def numberOf (name : String) (default : Nat) : Except Fault Nat :=
  match lookup name with
  | none => .ok default
  | some value => (Text.readWord (Text.trim value)).mapError (Fault.invalidNumber name)

/-- The address of the engine, which must be on the web. -/
def readEngineUrl : Except Fault Url :=
  match Url.parse (textOf lookup engineUrlName "http://127.0.0.1:1880") with
  | .error fault => .error (.invalidUrl fault)
  | .ok (.other scheme) => .error (.foreignScheme scheme)
  | .ok (.web url) => .ok url

/-- The settings that variables stand for.  The number of retries is kept in 32 bits. -/
def ofVariables : Except Fault Settings := do
  let engineUrl ← readEngineUrl lookup
  let httpTimeout ← numberOf lookup "PROVISIONER_HTTP_TIMEOUT_MS" 10000
  let connectRetries ← numberOf lookup "PROVISIONER_CONNECT_RETRIES" 2
  let retryBackoff ← numberOf lookup "PROVISIONER_RETRY_BACKOFF_MS" 250
  let idPattern ←
    (NodeIdPattern.ofName (textOf lookup idPatternName "legacy")).mapError Fault.invalidPattern
  let lockTimeout ← numberOf lookup "PROVISIONER_LOCK_TIMEOUT_MS" 5000
  return {
    engineUrl := engineUrl
    engineToken := optionalText lookup "PROVISIONER_ENGINE_TOKEN"
    httpTimeout := httpTimeout
    connectRetries := connectRetries % 0x100000000
    retryBackoff := retryBackoff
    templatePath := textOf lookup "PROVISIONER_TEMPLATE_PATH" "templates/sensordata_to_db.json"
    idPattern := idPattern
    counterPath := textOf lookup "PROVISIONER_COUNTER_PATH" "state/flow-counter"
    lockTimeout := lockTimeout
    httpBind := textOf lookup "PROVISIONER_HTTP_BIND" "127.0.0.1:3034" }

/-- The settings of an environment to which the assignments of a file have been added, if there is
such a file. -/
def ofEnvironment (environment : EnvFile.Variables) (file : Option String) :
    Except Fault Settings :=
  let environment := (file.map (EnvFile.assignments environment)).getD environment
  ofVariables environment.get?

end Settings

end UplinkFlow
