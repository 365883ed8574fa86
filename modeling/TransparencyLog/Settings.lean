import TransparencyLog.Decimal.Numeral
import TransparencyLog.FileTree
import TransparencyLog.Record.Batch
import TransparencyLog.Text.LetterCase
import TransparencyLog.Text.Quoted

namespace TransparencyLog

/-- What surrounds a run: its variables, and the home directory of the account that it runs under,
where the accounts name one. -/
structure Environment where
  bindings : List (String × String)
  accountHome : Option String

namespace Environment

def empty : Environment := ⟨[], none⟩

def get? (environment : Environment) (name : String) : Option String :=
  environment.bindings.lookup name

/-- The home directory: the variable, even an empty one, or else that of the account. -/
def home? (environment : Environment) : Option String :=
  environment.get? "HOME" <|> environment.accountHome

end Environment

namespace Settings

/-- A number among the settings: its variable, its value where it is not set, its least value. -/
structure NumberSetting where
  name : String
  fallback : Int
  least : Int

def workersSetting : NumberSetting := ⟨"LOGTRUST_MAX_WORKERS", 0, 0⟩

def thresholdSetting : NumberSetting := ⟨"LOGTRUST_PARALLEL_THRESHOLD", defaultThreshold, 1⟩

def portSetting : NumberSetting := ⟨"METRICS_PORT", 8080, 1⟩

/-- Why an environment makes no settings: it names no home directory, or the value of a variable is
refused. -/
inductive Fault
  | noHome
  | notNumber (name text : String)
  | tooSmall (name : String) (least value : Int)
deriving DecidableEq, Repr

def Fault.message : Fault → String
  | .noHome => "Could not determine home directory."
  | .notNumber name text => s!"{name} must be an integer, got {Text.quoted text}"
  | .tooSmall name least value =>
      s!"{name} must be >= {String.ofList (Numeral.chars least)}, got " ++
        String.ofList (Numeral.chars value)

/-- The number under a setting; a variable that is blank counts as not set. -/
def NumberSetting.read (setting : NumberSetting) (environment : Environment) : Except Fault Int :=
  match environment.get? setting.name with
  | none => .ok setting.fallback
  | some text =>
      if text.toList.all Text.isSpace then .ok setting.fallback
      else
        match Numeral.parse? text with
        | none => .error (.notNumber setting.name text)
        | some value =>
            if value < setting.least then .error (.tooSmall setting.name setting.least value)
            else .ok value

def tidyPath (path : String) : String :=
  let cs := path.toList
  let slashes := (cs.takeWhile (· = '/')).length
  let names := (FileTree.pieces cs).filter fun name => name ≠ [] ∧ name ≠ ['.']
  let root := if slashes = 0 then "" else if slashes = 2 then "//" else "/"
  root ++ String.intercalate "/" (names.map String.ofList)

def variableNames : List String :=
  ["HOME", "LOGTRUST_REGISTRY", "LOGTRUST_MAX_WORKERS", "LOGTRUST_PARALLEL_THRESHOLD",
    "LOGTRUST_LOG_LEVEL", "LOGTRUST_LOG_FORMAT", "METRICS_ENABLED", "METRICS_PORT"]

/-- A path under the home directory. A home that starts with a tilde only stands for another one,
which nothing names. -/
def homePath (environment : Environment) (path : String) : Except Fault String :=
  match environment.home? with
  | none => .error .noHome
  | some home =>
      if home.toList.head? = some '~' then .error .noHome
      else
        let home := String.ofList (Text.trimEnd (· = '/') home.toList)
        .ok (tidyPath (home ++ "/" ++ path))

def defaultRegistryPath (environment : Environment) : Except Fault String :=
  homePath environment ".logtrust/keys.json"

def defaultKeyPath (environment : Environment) : Except Fault String :=
  homePath environment ".logtrust/keys/signing_ed25519"

end Settings

/-- The settings of a run. -/
structure Settings where
  registryPath : String
  maxWorkers : Int
  parallelThreshold : Int
  logLevel : String
  logFormat : String
  metricsEnabled : Bool
  metricsPort : Int
deriving DecidableEq, Repr

namespace Settings

/-- The path of the registry: the variable, unless it is unset or empty. -/
def registryPathOf (environment : Environment) : Except Fault String :=
  match environment.get? "LOGTRUST_REGISTRY" with
  | some path => if path.isEmpty then defaultRegistryPath environment else .ok path
  | none => defaultRegistryPath environment

def ofEnvironment (environment : Environment) : Except Fault Settings := do
  let registryPath ← registryPathOf environment
  let maxWorkers ← workersSetting.read environment
  let parallelThreshold ← thresholdSetting.read environment
  let metricsPort ← portSetting.read environment
  return {
    registryPath := registryPath
    maxWorkers := maxWorkers
    parallelThreshold := parallelThreshold
    logLevel := Text.upper ((environment.get? "LOGTRUST_LOG_LEVEL").getD "WARNING")
    logFormat := Text.lower ((environment.get? "LOGTRUST_LOG_FORMAT").getD "text")
    metricsEnabled :=
      decide (Text.lower ((environment.get? "METRICS_ENABLED").getD "false") = "true")
    metricsPort := metricsPort }

def poolSize (settings : Settings) : Option Int :=
  if settings.maxWorkers = 0 then none else some settings.maxWorkers

end Settings

end TransparencyLog
