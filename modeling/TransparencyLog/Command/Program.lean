import TransparencyLog.Command.Arguments
import TransparencyLog.Command.Keys
import TransparencyLog.Command.Records
import TransparencyLog.Command.Usage
import TransparencyLog.Decimal.Lenient

namespace TransparencyLog.Command

/-- What a run comes to. -/
structure Outcome where
  ending : Ending
  output : String
  setup : Journal.Setup
  journal : List Journal.Entry
  files : FileTree
  tally : Tally
  generated : Option SigningKey

def Outcome.shown (outcome : Outcome) : List Journal.Entry :=
  outcome.setup.shown outcome.journal

def version : String := "0.1.0"

def helpForm : OptionForm := ⟨"--help", none, false⟩
def jsonForm : OptionForm := ⟨"--json", none, false⟩
def registryForm : OptionForm := ⟨"--registry", some 'r', true⟩
def keyForm : OptionForm := ⟨"--key", some 'k', true⟩
def keyIdForm : OptionForm := ⟨"--key-id", none, true⟩
def outForm : OptionForm := ⟨"--out", some 'o', true⟩
def packageForm : OptionForm := ⟨"--package", some 'p', true⟩

def programForms : List OptionForm := [⟨"--log-level", none, true⟩, helpForm]

/-- A group of commands. -/
inductive Group
  | keys
  | checkpoint
  | records
deriving DecidableEq, Repr

/-- A command. -/
inductive CommandName
  | version
  | generateKeys
  | signCheckpoint
  | verifyCheckpoint
  | signRecord
  | validateRecords
deriving DecidableEq, Repr

/-- What a word after the options of the program says. -/
inductive Word
  | group (group : Group)
  | command (name : CommandName)

def Word.of? (word : String) : Option Word :=
  if word = "keys" then some (.group .keys)
  else if word = "checkpoint" then some (.group .checkpoint)
  else if word = "records" then some (.group .records)
  else if word = "version" then some (.command .version)
  else none

def Group.command? (group : Group) (word : String) : Option CommandName :=
  match group with
  | .keys => if word = "generate" then some .generateKeys else none
  | .checkpoint =>
      if word = "sign" then some .signCheckpoint
      else if word = "verify" then some .verifyCheckpoint
      else none
  | .records =>
      if word = "sign" then some .signRecord
      else if word = "validate" then some .validateRecords
      else none

def CommandName.forms : CommandName → List OptionForm
  | .version => [helpForm]
  | .generateKeys =>
      [outForm, ⟨"--algorithm", some 'a', true⟩, keyIdForm, registryForm, jsonForm, helpForm]
  | .signCheckpoint => [keyForm, keyIdForm, outForm, jsonForm, helpForm]
  | .verifyCheckpoint => [registryForm, jsonForm, helpForm]
  | .signRecord =>
      [packageForm, ⟨"--logs", some 'l', true⟩, keyForm, keyIdForm, jsonForm, helpForm]
  | .validateRecords =>
      [registryForm, packageForm, ⟨"--workers", some 'w', true⟩, jsonForm, helpForm]

/-- A command with everything that it needs. -/
inductive Task
  | version
  | generateKeys (options : GenerateOptions)
  | signCheckpoint (options : SignCheckpointOptions)
  | verifyCheckpoint (options : VerifyOptions)
  | signRecord (options : SignRecordOptions)
  | validateRecords (options : ValidateOptions)

def Arguments.operand? (arguments : Arguments) : Option String :=
  match arguments.operands with
  | [operand] => some operand
  | _ => none

/-- The number of workers: none where the option is not given; no number is no task. -/
def Arguments.workers? (arguments : Arguments) : Option (Option Int) :=
  match arguments.value? "--workers" with
  | none => some none
  | some text => (Numeral.parseLenient? text).map some

def CommandName.task? (name : CommandName) (arguments : Arguments) : Option Task :=
  let value? := arguments.value?
  let json := arguments.hasFlag "--json"
  match name with
  | .version => if arguments.operands.isEmpty then some .version else none
  | .generateKeys => do
      let out ← value? "--out"
      if arguments.operands.isEmpty then
        some (.generateKeys ⟨out, (value? "--algorithm").getD Scheme.ed25519.name,
          value? "--key-id", value? "--registry", json⟩)
      else none
  | .signCheckpoint => do
      let path ← arguments.operand?
      let key ← value? "--key"
      some (.signCheckpoint ⟨path, key, value? "--key-id", value? "--out", json⟩)
  | .verifyCheckpoint => do
      let path ← arguments.operand?
      some (.verifyCheckpoint ⟨path, value? "--registry", json⟩)
  | .signRecord => do
      let path ← arguments.operand?
      let package ← value? "--package"
      let logs ← value? "--logs"
      let key ← value? "--key"
      some (.signRecord ⟨path, package, logs, key, value? "--key-id", json⟩)
  | .validateRecords => do
      let path ← arguments.operand?
      let workers ← arguments.workers?
      some (.validateRecords ⟨path, value? "--registry", value? "--package", workers, json⟩)

namespace Run

def help : Run Unit := do
  usage.forM emit
  finish 0

def perform (suite : SignatureSuite) (console : Console) (request : Request)
    (settings : Settings) : Task → Run Unit
  | .version => present console (.grid [[styled "bold" "logtrust", "v" ++ version],
      ["Algorithms", "ed25519, ecdsa-p256"], ["Root id", "sha256"]])
  | .generateKeys options => generate suite console request.entropy options
  | .signCheckpoint options => signCheckpoint console options
  | .verifyCheckpoint options => verifyCheckpoint suite console settings options
  | .signRecord options => signRecord console options
  | .validateRecords options => validateRecords suite console settings options

def command (suite : SignatureSuite) (console : Console) (request : Request)
    (settings : Settings) (name : CommandName) (arguments : List String) : Run Unit := do
  match Arguments.parse name.forms .anywhere arguments with
  | .error _ => finish exitError
  | .ok arguments =>
      if arguments.hasFlag "--help" then help
      match name.task? arguments with
      | none => finish exitError
      | some task => perform suite console request settings task

/-- Reads the arguments of a group and goes on to the command named there. -/
def group (suite : SignatureSuite) (console : Console) (request : Request)
    (settings : Settings) (group : Group) (arguments : List String) : Run Unit := do
  match Arguments.parse [helpForm] .last arguments with
  | .error _ => finish exitError
  | .ok arguments =>
      if arguments.hasFlag "--help" then help
      match arguments.operands with
      | [] => finish exitError
      | word :: rest =>
          match group.command? word with
          | none => finish exitError
          | some name => command suite console request settings name rest

def follow (suite : SignatureSuite) (console : Console) (request : Request)
    (settings : Settings) (word : Word) (arguments : List String) : Run Unit := do
  if !settings.metricsEnabled then
    note "logtrust.metrics" .debug "Metrics server disabled" none
  match word with
  | .group name => group suite console request settings name arguments
  | .command name => command suite console request settings name arguments

end Run

def outcomeOf (setup : Journal.Setup) (files : FileTree) (tally : Tally) (run : Run Unit) :
    Outcome :=
  let (result, state) := run.run.run ⟨files, tally, [], "", none⟩
  let ending :=
    match result with
    | .ok () => Ending.exit 0
    | .error ending => ending
  ⟨ending, state.output, setup, state.journal, state.files, state.tally, state.generated⟩

def run (suite : SignatureSuite) (console : Console) (request : Request) (files : FileTree)
    (tally : Tally) : Outcome :=
  let silent := Journal.Setup.of none none .empty
  let usage := outcomeOf silent files tally (Run.finish exitError)
  match Arguments.parse programForms .last request.arguments with
  | .error _ => usage
  | .ok arguments =>
      if arguments.hasFlag "--help" then outcomeOf silent files tally Run.help
      else
        match arguments.operands with
        | [] => usage
        | word :: rest =>
            match Word.of? word with
            | none => usage
            | some word =>
                match Settings.ofEnvironment request.environment with
                | .error .noHome =>
                    outcomeOf silent files tally (Run.breakOff (.settings .noHome))
                | .error fault =>
                    outcomeOf silent files tally
                      (Run.fail console fault.message exitError false [])
                | .ok settings =>
                    let level := (nonempty? (arguments.value? "--log-level")).getD settings.logLevel
                    let setup :=
                      Journal.Setup.of (some level) (some settings.logFormat) request.environment
                    outcomeOf setup files tally
                      (Run.follow suite console request settings word rest)

end TransparencyLog.Command
