import TransparencyLog.Checkpoint.RootIdentifier
import TransparencyLog.Checkpoint.Signed
import TransparencyLog.Key.Registry
import TransparencyLog.Key.Verification

namespace TransparencyLog

inductive TrustFault
  | malformed (cause : CheckpointBody.Malformation)
  | unknownKey (keyId : LooseText)
  | verification (fault : VerificationFault)
deriving DecidableEq, Repr

namespace TrustFault

def message : TrustFault → String
  | .malformed cause => cause.message
  | .unknownKey keyId => s!"Unknown key id: {Text.quoted keyId}"
  | .verification fault => fault.message

def kind : TrustFault → Kind
  | .malformed _ => .malformed
  | .unknownKey _ => .unknownKey
  | .verification (.unsupported _) => .unsupportedAlgorithm
  | .verification (.signature _) => .signatureInvalid

end TrustFault

/-- Why verification ends without a result: the checkpoint is not trusted, a number is too long, a
key id cannot be quoted, the look-up of the key fails, or what the identifier covers cannot be
encoded. -/
inductive CheckpointFault
  | trust (fault : TrustFault)
  | overlong (fault : Numeral.Overlong)
  | unquotable (fault : Value.QuoteFault)
  | lookup (fault : LookupFault)
  | encoding (fault : EncodingFault)
deriving DecidableEq, Repr

def CheckpointFault.message : CheckpointFault → String
  | .trust fault => fault.message
  | .overlong fault => fault.message
  | .unquotable fault => fault.message
  | .lookup fault => fault.message
  | .encoding fault => fault.message

/-- The class of an error of distrust, also of one that a registry raises; anything else has none.
-/
def CheckpointFault.class? : CheckpointFault → Option TrustFault.Class
  | .trust fault => some (.listed fault.kind)
  | .lookup (.trust raised _) => some raised
  | _ => none

/-- The statements of a verified checkpoint, the key that signed them, and their identifier. -/
structure VerifiedCheckpoint where
  body : CheckpointBody
  keyId : LooseText
  root : RootIdentifier
deriving DecidableEq

namespace VerifiedCheckpoint

def ofReadFault : CheckpointBody.ReadFault → CheckpointFault
  | .malformed cause => .trust (.malformed cause)
  | .overlong fault => .overlong fault

def foreignKeyId (keyId : Value) : CheckpointFault :=
  match keyId.plain with
  | .ok text => .trust (.unknownKey text)
  | .error fault => .unquotable fault

def ofLookup (suite : SignatureSuite) (body : CheckpointBody) (keyId : LooseText)
    (signature : Value) :
    Except LookupFault (Option PublicKey) → Except CheckpointFault VerifiedCheckpoint
  | .error fault => .error (.lookup fault)
  | .ok none => .error (.trust (.unknownKey keyId))
  | .ok (some key) =>
      match key.verify suite body.octets signature with
      | .error fault => .error (.trust (.verification fault))
      | .ok octets =>
          match RootIdentifier.compute body keyId octets with
          | .error fault => .error (.encoding fault)
          | .ok root => .ok ⟨body, keyId, root⟩

section Via

variable {m : Type → Type} [Monad m] (suite : SignatureSuite)
  (resolve : Value → m (Except LookupFault (Option PublicKey)))

/-- Checks the statements under a key id; `resolve` is what looks up the key. -/
def ofBodyVia (body : CheckpointBody) (keyId : LooseText) (signature : Value) :
    m (Except CheckpointFault VerifiedCheckpoint) :=
  match signature with
  | .str "" => return .error (.trust (.verification (.signature .notText)))
  | .str _ => return ofLookup suite body keyId signature (← resolve (.str keyId))
  | _ => return .error (.trust (.verification (.signature .notText)))

/-- Verifies contents, key id and signature of any shape; `resolve` is what looks up the key. -/
def verifyVia (content keyId signature : Value) : m (Except CheckpointFault VerifiedCheckpoint) :=
  match CheckpointBody.readValue content with
  | .error fault => return .error (ofReadFault fault)
  | .ok body =>
      match keyId with
      | .str text =>
          if text.isEmpty then return .error (foreignKeyId keyId)
          else ofBodyVia suite resolve body text signature
      | _ => return .error (foreignKeyId keyId)

end Via

def verify (suite : SignatureSuite) (source : KeySource) (content keyId signature : Value) :
    Except CheckpointFault VerifiedCheckpoint :=
  Id.run (verifyVia suite (fun id => pure (source.resolve id)) content keyId signature)

end VerifiedCheckpoint

def hashCheckpoint (suite : SignatureSuite) (source : KeySource)
    (content keyId signature : Value) : Except CheckpointFault RootIdentifier :=
  match VerifiedCheckpoint.verify suite source content keyId signature with
  | .ok verified => .ok verified.root
  | .error fault => .error fault

def SignedCheckpoint.verify (suite : SignatureSuite) (source : KeySource)
    (checkpoint : SignedCheckpoint) : Except CheckpointFault VerifiedCheckpoint :=
  VerifiedCheckpoint.verify suite source (.bytes checkpoint.content) (.str checkpoint.keyId)
    (.str checkpoint.signature)

end TransparencyLog
