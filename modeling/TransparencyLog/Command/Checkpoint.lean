import TransparencyLog.Checkpoint.Signing
import TransparencyLog.Command.Session

namespace TransparencyLog.Command

/-- What a checkpoint is signed with. -/
structure SignCheckpointOptions where
  bodyPath : String
  keyPath : String
  keyId : Option String
  out : Option String
  json : Bool

/-- What a checkpoint is verified against. -/
structure VerifyOptions where
  checkpointPath : String
  registry : Option String
  json : Bool

namespace Run

/-- Ends the run at a key file: a file that cannot be read or holds no signing key is reported, a
key that cannot be used breaks the run off. -/
def failToLoadKey {α : Type} (console : Console) (fault : KeyPair.LoadFault) (json : Bool) :
    Run α :=
  match fault with
  | .file _ | .key .unreadable | .key .otherKind => fail console fault.message exitError json []
  | .key fault => breakOff (.key fault)

def contentAndKey (console : Console) (contentPath keyPath : String) (json : Bool) :
    Run (Bytes × SigningKey) := do
  let files := (← get).files
  match files.read contentPath with
  | .error fault => fail console fault.message exitError json []
  | .ok octets =>
      match KeyPair.load files keyPath with
      | .error fault => failToLoadKey console fault json
      | .ok key => return (octets, key)

def signCheckpoint (console : Console) (options : SignCheckpointOptions) : Run Unit := do
  let (octets, key) ← contentAndKey console options.bodyPath options.keyPath options.json
  let keyId := (nonempty? options.keyId).getD key.keyId
  match TransparencyLog.signCheckpoint key keyId .canonical (.bytes octets) with
  | .error (.overlong fault) => breakOff (.number fault)
  | .error (.malformed cause) => fail console cause.message exitError options.json []
  | .ok checkpoint =>
      match checkpoint.toJson, checkpoint.toValue with
      | .error fault, _ | _, .error fault => breakOff (.encoding fault)
      | .ok text, .ok value =>
          match nonempty? options.out with
          | some path =>
              match ← onFiles (FileAction.write path (Utf8.encode (text ++ "\n"))) with
              | .error fault => failToWrite console fault options.json
              | .ok () => pure ()
          | none => pure ()
          if options.json then
            emitDocument (.object [("success", .bool true), ("checkpoint", value),
              ("path", textOrNull options.out)])
          else
            match nonempty? options.out with
            | some path =>
                sayAll console [styled "green" "✓ Checkpoint signed",
                  "  File: " ++ styled "cyan" path, "  Key id: " ++ checkpoint.keyId]
            | none => emit text

def textOf (files : FileTree) (path : String) : Except String String :=
  match files.read path with
  | .error fault =>
      match fault with
      | .blocked .missing _ => .error ("File not found: " ++ fault.message)
      | fault => .error fault.message
  | .ok octets =>
      match Json.fileText octets with
      | .ok text => .ok text
      | .error fault => .error fault.message

def loadRegistry (suite : SignatureSuite) (console : Console) (settings : Settings)
    (path : Option String) (json : Bool) : Run Registry := do
  let path := (nonempty? path).getD settings.registryPath
  let files := (← get).files
  noteEntries (RegistryFile.admitted suite files path)
  match RegistryFile.load suite files path with
  | .ok registry => return registry
  | .error (.missing fault) => fail console ("File not found: " ++ fault.message) exitError json []
  | .error (.tooDeep fault) => breakOff (.nesting fault)
  | .error fault => fail console fault.message exitError json []

def judgeCheckpoint (suite : SignatureSuite) (console : Console) (registry : Registry)
    (checkpoint : SignedCheckpoint) (json : Bool) : Run VerifiedCheckpoint := do
  let result := checkpoint.verify suite registry.source
  modify fun state => { state with tally := state.tally.countCheckpoint result }
  match result with
  | .error (.overlong fault) => breakOff (.number fault)
  | .error (.unquotable fault) => breakOff (.value fault)
  | .error (.encoding fault) => breakOff (.text fault)
  | .error (.lookup fault) => fail console fault.message exitError json []
  | .error (.trust fault) =>
      note "logtrust.checkpoint.hasher" .warning
        ("Checkpoint verification failed (key_id=" ++ checkpoint.keyId ++
          s!"): {fault.message}") none
      fail console fault.message exitInvalid json [("error_type", .str fault.kind.label)]
  | .ok verified =>
      let size := String.ofList (Numeral.chars verified.body.size)
      let summary : LooseText :=
        s!"Checkpoint verified: origin={verified.body.origin} size={size} key_id=" ++ verified.keyId
      note "logtrust.checkpoint.hasher" .debug (summary ++ s!" root={verified.root.text}") none
      note "logtrust.cli.commands.checkpoint" .info summary (some verified.root.text)
      return verified

def verifyCheckpoint (suite : SignatureSuite) (console : Console) (settings : Settings)
    (options : VerifyOptions) : Run Unit := do
  match textOf (← get).files options.checkpointPath with
  | .error message => fail console message exitError options.json []
  | .ok text =>
      match SignedCheckpoint.ofJson (.str text) with
      | .error (.tooDeep fault) => breakOff (.nesting fault)
      | .error fault => fail console fault.message exitError options.json []
      | .ok checkpoint =>
          let registry ← loadRegistry suite console settings options.registry options.json
          if !options.json then say console (styled "bold" "Verifying checkpoint...")
          let verified ← judgeCheckpoint suite console registry checkpoint options.json
          if options.json then
            emitDocument (.object [("success", .bool true), ("root", .str verified.root.text),
              ("key_id", .str verified.keyId), ("origin", .str verified.body.origin),
              ("size", .int verified.body.size), ("root_hash", .str verified.body.rootHash)])
          else
            sayAll console [styled "green" "✓ Checkpoint signature valid",
              "  Root id: " ++ styled "cyan" verified.root.text,
              s!"  Origin: {verified.body.origin}",
              s!"  Size: {String.ofList (Numeral.chars verified.body.size)}",
              "  Key id: " ++ verified.keyId]

end Run

end TransparencyLog.Command
