import TransparencyLog.Checkpoint.Verification
import TransparencyLog.Command.Console
import TransparencyLog.FileTree.Document
import TransparencyLog.Journal
import TransparencyLog.Key.KeyPair
import TransparencyLog.Key.RegistryFile

namespace TransparencyLog.Command

/-- What a run is asked to do, where, and with which random octets. -/
structure Request where
  arguments : List String
  environment : Environment
  entropy : Bytes

/-- Why a run breaks off: at a number that is too long, at octets that spell no text, at a document
that is nested too deep, at a value that cannot be quoted, at a key that cannot be used, at a path
that nothing can have, at a display that the console refuses, at a text that cannot be encoded, or
for want of a home directory. -/
inductive Breakdown
  | number (fault : Numeral.Overlong)
  | encoding (fault : DecodingFault)
  | nesting (fault : Json.TooDeep)
  | value (fault : Value.QuoteFault)
  | key (fault : KeyFile.Fault)
  | path (fault : FileFault)
  | console (fault : Console.Fault)
  | text (fault : EncodingFault)
  | settings (fault : Settings.Fault)
deriving DecidableEq, Repr

def Breakdown.message : Breakdown → String
  | .number fault => fault.message
  | .encoding fault => fault.message
  | .nesting fault => fault.message
  | .value fault => fault.message
  | .key fault => fault.message
  | .path fault => fault.message
  | .console fault => fault.message
  | .text fault => fault.message
  | .settings fault => fault.message

/-- How a run ends. -/
inductive Ending
  | exit (code : Nat)
  | broken (breakdown : Breakdown)
deriving DecidableEq, Repr

def Ending.code : Ending → Nat
  | .exit code => code
  | _ => 1

def exitInvalid : Nat := 1

def exitError : Nat := 2

/-- What a run has done so far. -/
structure State where
  files : FileTree
  tally : Tally
  journal : List Journal.Entry
  output : String
  generated : Option SigningKey

abbrev Run (α : Type) := ExceptT Ending (StateM State) α

namespace Run

def finish {α : Type} (code : Nat) : Run α :=
  throw (.exit code)

def breakOff {α : Type} (breakdown : Breakdown) : Run α :=
  throw (.broken breakdown)

def write (text : String) : Run Unit :=
  modify fun state => { state with output := state.output ++ text }

def emit (text : String) : Run Unit :=
  write (text ++ "\n")

/-- Shows something to people; where the console refuses it, the run breaks off. -/
def present (console : Console) (display : Display) : Run Unit :=
  match console.render display with
  | .ok text => write text
  | .error fault => breakOff (.console fault)

def say (console : Console) (text : LooseText) : Run Unit :=
  present console (.text text)

def sayAll (console : Console) (texts : List LooseText) : Run Unit :=
  texts.forM (say console)

def emitDocument (document : Value) : Run Unit :=
  match Json.print .indented document with
  | .ok text => emit text
  | .error _ => breakOff (.number .written)

/-- What is said of a fault. The message may have marks of its own. -/
def report (message : String) (code : Nat) : LooseText :=
  let label := if code = exitInvalid then "Verification failed" else "Error"
  styled "red" (label ++ ":" : String) ++ (" " ++ message : String)

/-- Reports a fault, as an object where that is asked for, and ends the run. -/
def fail {α : Type} (console : Console) (message : String) (code : Nat) (json : Bool)
    (details : List (LooseText × Value)) : Run α := do
  if json then
    emitDocument (.object (("success", .bool false) :: ("error", .str message) :: details))
  else
    say console (report message code)
  finish code

/-- Reports a fault of a file that a command writes, and ends the run; a path that nothing can have
breaks it off. -/
def failToWrite {α : Type} (console : Console) (fault : FileFault) (json : Bool) : Run α :=
  match fault with
  | .nulInPath => breakOff (.path fault)
  | fault => fail console fault.message exitError json []

def note (logger : String) (level : Journal.Level) (message : LooseText)
    (trace : Option LooseText) : Run Unit :=
  modify fun state =>
    { state with journal := state.journal ++ [.of logger level message trace] }

def onFiles {ε α : Type} (action : FileAction ε α) : Run (Except ε α) := do
  let state ← get
  let (result, files) := action.perform state.files
  set { state with files := files }
  return result

def noteEntries (entries : List KeyEntry) : Run Unit :=
  entries.forM fun entry =>
    let active := if entry.active then "True" else "False"
    note "logtrust.keys.registry" .debug
      ("Registered key " ++ entry.keyId ++ " (" ++ entry.publicKey.algorithm ++
        s!", active={active})") none

end Run

def nonempty? : Option String → Option String
  | some text => if text.isEmpty then none else some text
  | none => none

def textOrNull : Option String → Value
  | some text => .str text
  | none => .null

end TransparencyLog.Command
