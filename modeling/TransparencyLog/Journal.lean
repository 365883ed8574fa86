import TransparencyLog.Json.Escape
import TransparencyLog.Settings

namespace TransparencyLog.Journal

/-- How much a message matters. -/
inductive Level
  | debug
  | info
  | warning
  | error
  | critical
deriving DecidableEq, Repr

namespace Level

def name : Level → String
  | .debug => "DEBUG"
  | .info => "INFO"
  | .warning => "WARNING"
  | .error => "ERROR"
  | .critical => "CRITICAL"

def rank : Level → Nat
  | .debug => 10
  | .info => 20
  | .warning => 30
  | .error => 40
  | .critical => 50

def ofName? (text : String) : Option Level :=
  [debug, info, warning, error, critical].find? fun level => decide (level.name = text)

end Level

/-- How messages are written. -/
inductive Format
  | text
  | json
deriving DecidableEq, Repr

/-- Which messages are shown, and how. -/
structure Setup where
  threshold : Level
  format : Format
deriving DecidableEq, Repr

/-- The given text, or the variable or its fallback where none or an empty one is given. -/
def choice (given : Option String) (environment : Environment) (name fallback : String) : String :=
  match given with
  | some text => if text.isEmpty then (environment.get? name).getD fallback else text
  | none => (environment.get? name).getD fallback

/-- The setup for the given level and format; a level that is unknown counts as `WARNING`. -/
def Setup.of (level format : Option String) (environment : Environment) : Setup where
  threshold :=
    (Level.ofName? (Text.upper (choice level environment "LOGTRUST_LOG_LEVEL" "WARNING"))).getD
      .warning
  format :=
    if Text.lower (choice format environment "LOGTRUST_LOG_FORMAT" "text") = "json" then .json
    else .text

/-- A message: who wrote it, how much it matters, and what it belongs to. -/
structure Entry where
  logger : String
  level : Level
  message : LooseText
  trace : LooseText
deriving DecidableEq, Repr

def noTrace : String := "N/A"

/-- A message under a name; an empty name is the common one, an empty trace is none. -/
def Entry.of (logger : String) (level : Level) (message : LooseText)
    (trace : Option LooseText) : Entry where
  logger := if logger.isEmpty then "root" else logger
  level := level
  message := message
  trace :=
    match trace with
    | some trace => if trace.isEmpty then noTrace else trace
    | none => noTrace

def Setup.shows (setup : Setup) (entry : Entry) : Bool :=
  decide (setup.threshold.rank ≤ entry.level.rank)

def Setup.shown (setup : Setup) (entries : List Entry) : List Entry :=
  entries.filter setup.shows

def Entry.text (entry : Entry) : String :=
  s!"{entry.logger} - {entry.level.name} - {entry.message.spelled} " ++
    s!"[trace_id={entry.trace.spelled}]"

def Entry.members (entry : Entry) : List (String × LooseText) :=
  [("logger", entry.logger), ("level", entry.level.name), ("message", entry.message),
    ("trace_id", entry.trace)]

def Setup.line (setup : Setup) (time : String) (entry : Entry) : String :=
  match setup.format with
  | .text => time ++ " - " ++ entry.text
  | .json =>
      let member := fun m : String × LooseText =>
        Json.quote .ascii m.1 ++ [.char ':', .char ' '] ++ Json.quote .ascii m.2
      let members := (("timestamp", (time : LooseText)) :: entry.members).map member
      let codes := .char '\x7b' :: List.intercalate [.char ',', .char ' '] members ++
        [.char '\x7d']
      String.ofList (codes.flatMap CodePoint.spelled)

end TransparencyLog.Journal
