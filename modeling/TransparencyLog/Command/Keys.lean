import TransparencyLog.Command.Session

namespace TransparencyLog.Command

/-- What a key pair is made from. -/
structure GenerateOptions where
  out : String
  algorithm : String
  keyId : Option String
  registry : Option String
  json : Bool

namespace Run

def reachedRegistry : Except RegistryFile.Fault (List KeyEntry) → Bool
  | .ok _ | .error (.file _) | .error (.print _) => true
  | _ => false

def register (suite : SignatureSuite) (console : Console) (path : String) (entry : KeyEntry)
    (json : Bool) : Run Unit := do
  match ← onFiles (FileAction.lock path) with
  | .error fault => failToWrite console fault json
  | .ok () =>
      let files := (← get).files
      if files.holds path then noteEntries (RegistryFile.admitted suite files path)
      let result ← onFiles (RegistryFile.extend suite path entry)
      if reachedRegistry result then noteEntries [entry]
      match result with
      | .ok _ => return ()
      | .error (.undecodable fault) => breakOff (.encoding fault)
      | .error (.overlong fault) => breakOff (.number fault)
      | .error (.tooDeep fault) => breakOff (.nesting fault)
      | .error (.file fault) => failToWrite console fault json
      | .error fault => fail console fault.message exitError json []

def generate (suite : SignatureSuite) (console : Console) (entropy : Bytes)
    (options : GenerateOptions) : Run Unit := do
  match Scheme.ofName? options.algorithm with
  | none => fail console (PublicKey.unsupportedMessage options.algorithm) exitError options.json []
  | some scheme =>
      let key := SigningKey.generate entropy scheme
      let publicPath := KeyPair.publicPath options.out
      match ← onFiles (KeyPair.save key options.out publicPath) with
      | .error fault => failToWrite console fault options.json
      | .ok () =>
          let keyId := (nonempty? options.keyId).getD key.keyId
          match nonempty? options.registry with
          | some path => register suite console path ⟨keyId, key.publicKey, true⟩ options.json
          | none => pure ()
          modify fun state => { state with generated := some key }
          if options.json then
            emitDocument (.object [("success", .bool true),
              ("private_key_path", .str options.out), ("public_key_path", .str publicPath),
              ("key_id", .str keyId), ("public_key", .str key.publicKey.text),
              ("registry", textOrNull options.registry)])
          else
            sayAll console ([styled "green" "✓ Keypair generated",
              "  Private key: " ++ styled "cyan" options.out,
              "  Public key: " ++ styled "cyan" publicPath,
              "  Key id: " ++ keyId, "  Public key: " ++ key.publicKey.text] ++
              (nonempty? options.registry).toList.map fun path : String =>
                "  Registry: " ++ styled "cyan" path)

end Run

end TransparencyLog.Command
