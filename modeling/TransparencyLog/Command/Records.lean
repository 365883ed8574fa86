import TransparencyLog.Command.Checkpoint
import TransparencyLog.Record.Appending

namespace TransparencyLog.Command

/-- What a record is signed with, and where it goes. -/
structure SignRecordOptions where
  contentPath : String
  package : String
  logs : String
  keyPath : String
  keyId : Option String
  json : Bool

/-- Which records are judged, and how. -/
structure ValidateOptions where
  logs : String
  registry : Option String
  package : Option String
  workers : Option Int
  json : Bool

namespace Run

def signRecord (console : Console) (options : SignRecordOptions) : Run Unit := do
  if !PrefixedDigest.accepts options.package then
    fail console s!"Package digest must be 'sha256:<64 hex>', got {Text.quoted options.package}"
      exitError options.json []
  let (octets, key) ← contentAndKey console options.contentPath options.keyPath options.json
  let record : LogRecord :=
    ⟨octets, (nonempty? options.keyId).getD key.keyId, key.signText octets⟩
  match ← onFiles (LogResponse.append options.logs options.package record) with
  | .error (.intake (.tooDeep fault)) => breakOff (.nesting fault)
  | .error (.shape (.unquotable fault)) => breakOff (.value fault)
  | .error fault => fail console fault.message exitError options.json []
  | .ok index =>
      if options.json then
        emitDocument (.object [("success", .bool true), ("package", .str options.package),
          ("index", .int index), ("record", record.toValue)])
      else
        sayAll console [styled "green" "✓ Record signed", "  Package: " ++ options.package,
          s!"  Index: {index}", "  Key id: " ++ record.keyId]

def noteRejections (suite : SignatureSuite) (source : KeySource) (records : List LogRecord) :
    Run Unit :=
  records.forM fun record =>
    let logger := "logtrust.validation.engine"
    match examine suite source record.toItem with
    | .error (.unknownKey _) => note logger .debug ("Unknown key id " ++ record.keyId) none
    | .error (.verification _ fault) =>
        note logger .debug
          ("Record rejected (key_id=" ++ record.keyId ++ s!"): {fault.message}") none
    | _ => return ()

/-- The records of a package with their verdicts. -/
structure JudgedPackage where
  digest : LooseText
  records : List (LogRecord × Bool)

def JudgedPackage.invalid (package : JudgedPackage) : Nat :=
  package.records.countP fun judged => !judged.2

/-- Judges the records of a package, counts the verdicts and notes them. -/
def judgePackage (suite : SignatureSuite) (engine : Engine) (registry : Registry)
    (digest : LooseText) (records : List LogRecord) : Run JudgedPackage := do
  let items := records.map LogRecord.toItem
  let (verdicts, tally) :=
    engine.judge suite registry.source items (.inOrder _) (← get).tally
  modify fun state => { state with tally := tally }
  let package : JudgedPackage := ⟨digest, records.zip verdicts⟩
  noteRejections suite registry.source records
  note "logtrust.validation.engine" .debug
    (s!"Validated {records.length} record(s): {records.length - package.invalid} valid, " ++
      s!"{package.invalid} invalid") none
  note "logtrust.cli.commands.records" .info
    s!"Validated {records.length} record(s), {package.invalid} invalid" (some digest)
  return package

def judgePackages (suite : SignatureSuite) (engine : Engine) (registry : Registry) :
    List (Value × List LogRecord) → Run (List JudgedPackage)
  | [] => return []
  | (.str digest, records) :: rest => do
      let package ← judgePackage suite engine registry digest records
      return package :: (← judgePackages suite engine registry rest)
  | _ :: rest => judgePackages suite engine registry rest

def numbered {α : Type} (start : Nat) : List α → List (Nat × α)
  | [] => []
  | x :: rest => (start, x) :: numbered (start + 1) rest

def JudgedPackage.toValue (package : JudgedPackage) : Value :=
  .list ((numbered 0 package.records).map fun (index, record, verdict) =>
    .object [("index", .int index), ("keyId", .str record.keyId), ("valid", .bool verdict)])

def JudgedPackage.rows (package : JudgedPackage) : List (List LooseText) :=
  (numbered 0 package.records).map fun (index, record, verdict) =>
    [LooseText.ofCodes (package.digest.codes.take 19) ++ "...", toString index, record.keyId,
      if verdict then styled "green" "valid" else styled "red" "invalid"]

def verdictColumns : List Column :=
  [⟨"Package", .left⟩, ⟨"#", .right⟩, ⟨"Key id", .left⟩, ⟨"Verdict", .left⟩]

def selectPackages (document : Value) (package : Option String) :
    Except LogResponse.Fault (List (Value × List LogRecord)) :=
  match package with
  | some digest => do return [(.str digest, ← LogResponse.recordsOfPackage document digest)]
  | none => do return (← LogResponse.ofValue document).packages

def validateRecords (suite : SignatureSuite) (console : Console) (settings : Settings)
    (options : ValidateOptions) : Run Unit := do
  match textOf (← get).files options.logs with
  | .error message => fail console message exitError options.json []
  | .ok text =>
      match loadDocument "logs" (.str text) with
      | .error (.tooDeep fault) => breakOff (.nesting fault)
      | .error fault => fail console fault.message exitError options.json []
      | .ok document =>
          match selectPackages document (nonempty? options.package) with
          | .error (.unquotable fault) => breakOff (.value fault)
          | .error fault => fail console fault.message exitError options.json []
          | .ok selected =>
              let registry ← loadRegistry suite console settings options.registry options.json
              if options.workers.any (· < 1) then
                fail console "--workers must be >= 1" exitError options.json []
              let workers := options.workers <|> settings.poolSize
              match Engine.ofNumbers workers settings.parallelThreshold with
              | .error fault => fail console fault.message exitError options.json []
              | .ok engine =>
                  let packages ← judgePackages suite engine registry selected
                  let allValid := packages.all fun package => package.invalid == 0
                  if options.json then
                    emitDocument (.object [("success", .bool allValid),
                      ("packages", .object (packages.map fun package =>
                        (package.digest, package.toValue)))])
                  else
                    let rows := packages.flatMap JudgedPackage.rows
                    present console
                      (.table s!"Record verdicts: {options.logs}" verdictColumns rows)
                    let invalid := packages.foldl (fun sum package => sum + package.invalid) 0
                    say console s!"{rows.length} record(s), {invalid} invalid"
                  finish (if allValid then 0 else exitInvalid)

end Run

end TransparencyLog.Command
