import TransparencyLog.Checkpoint.Body
import TransparencyLog.Digest.Prefixed
import TransparencyLog.Json.Escape
import TransparencyLog.Value.Quoted

namespace TransparencyLog

/-- The identifier of a checkpoint. -/
@[ext] structure RootIdentifier where
  digest : Bytes
  length_digest : digest.length = 32

namespace RootIdentifier

instance : DecidableEq RootIdentifier := fun a b =>
  decidable_of_iff (a.digest = b.digest) RootIdentifier.ext_iff.symm

def hex (root : RootIdentifier) : String :=
  Hex.encode root.digest

def text (root : RootIdentifier) : String :=
  PrefixedDigest.ofOctets root.digest

def sizeMessage : String := "RootIdentifier must be a 32-byte sha256 digest"

def ofDigest? (algorithm : String) (digest : Bytes) : Option RootIdentifier :=
  if h : algorithm = "sha256" ∧ digest.length = 32 then some ⟨digest, h.2⟩ else none

def ofText? (text : String) : Option RootIdentifier := do
  let digits ← PrefixedDigest.digits? text
  let digest ← Hex.octets? digits
  ofDigest? "sha256" digest

inductive TextFault
  | notRoot (quoted : String)
  | unquotable (fault : Value.QuoteFault)
deriving DecidableEq, Repr

def TextFault.message : TextFault → String
  | .notRoot quoted => s!"Not a root identifier: {quoted}"
  | .unquotable fault => fault.message

def TextFault.ofValue (value : Value) : TextFault :=
  match value.quote with
  | .ok quoted => .notRoot quoted
  | .error fault => .unquotable fault

def ofValue : Value → Except TextFault RootIdentifier
  | .str (.whole text) =>
      match ofText? text with
      | some root => .ok root
      | none => .error (.ofValue (.str text))
  | value => .error (.ofValue value)

/-- The canonical JSON text of an object whose values are texts, its names being in order. -/
def objectText (members : List (String × LooseText)) : List CodePoint :=
  let member := fun m : String × LooseText =>
    Json.quote .unicode m.1 ++ .char ':' :: Json.quote .unicode m.2
  .char '\x7b' :: List.intercalate [.char ','] (members.map member) ++ [.char '\x7d']

def material (body : CheckpointBody) (keyId : LooseText) (signature : Bytes) :
    Except EncodingFault Bytes :=
  CodePoint.encode (objectText
    [("checkpoint", body.text), ("key_id", keyId), ("signature", Hex.encode signature)])

def ofMaterial (material : Bytes) : RootIdentifier :=
  ⟨sha256 material, length_sha256 _⟩

/-- The identifier of a checkpoint with the key id and the octets of its signature. -/
def compute (body : CheckpointBody) (keyId : LooseText) (signature : Bytes) :
    Except EncodingFault RootIdentifier :=
  ofMaterial <$> material body keyId signature

end RootIdentifier

end TransparencyLog
