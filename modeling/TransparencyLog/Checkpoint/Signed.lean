import TransparencyLog.Checkpoint.BodyText
import TransparencyLog.DocumentFault
import TransparencyLog.Json.Printer

namespace TransparencyLog

/-- The contents of a checkpoint with the id of the signing key and the signature. -/
structure SignedCheckpoint where
  content : Bytes
  keyId : LooseText
  signature : LooseText
deriving DecidableEq, Repr

namespace SignedCheckpoint

/-- The members of the form in documents, provided that the contents are text. -/
def members (checkpoint : SignedCheckpoint) : Except DecodingFault (List (String × LooseText)) :=
  match Utf8.decode checkpoint.content with
  | .ok text =>
      .ok [("contents", text), ("keyId", checkpoint.keyId), ("signature", checkpoint.signature)]
  | .error fault => .error fault

def toValue (checkpoint : SignedCheckpoint) : Except DecodingFault Value :=
  match checkpoint.members with
  | .ok members => .ok (.object (members.map fun m => (m.1, .str m.2)))
  | .error fault => .error fault

/-- The JSON text of an object whose values are texts, one member a line. -/
def objectLines (members : List (String × LooseText)) : List CodePoint :=
  Json.Layout.indented.enclose 0 '\x7b' '\x7d' (members.map fun m =>
    Json.quote .ascii m.1 ++ [.char ':', .char ' '] ++ Json.quote .ascii m.2)

def toJson (checkpoint : SignedCheckpoint) : Except DecodingFault String :=
  match checkpoint.members with
  | .ok members => .ok (String.ofList ((objectLines members).flatMap CodePoint.spelled))
  | .error fault => .error fault

def path : String := "checkpoint"

/-- The contents, the key id and the signature among the members of an object. -/
def textsOf (members : List (Value × Value)) :
    Except DocumentFault (LooseText × LooseText × LooseText) := do
  let contents ← textMember path members "contents"
  let keyId ← textMember path members "keyId"
  let signature ← textMember path members "signature"
  return (contents, keyId, signature)

def ofMembers (members : List (Value × Value)) : Except IntakeFault SignedCheckpoint :=
  match textsOf members with
  | .error fault => .error (.document fault)
  | .ok (contents, keyId, signature) =>
      match contents.encode with
      | .error fault => .error (.unencodable fault)
      | .ok octets => .ok ⟨octets, keyId, signature⟩

def ofValue : Value → Except IntakeFault SignedCheckpoint
  | .map members => ofMembers members
  | value => .error (.document ⟨path, .notObject value.typeName⟩)

def ofJson (source : Value) : Except IntakeFault SignedCheckpoint :=
  match Json.load source with
  | .error (.undecodable fault) => .error (.undecodable fault)
  | .error fault => .error (.ofLoad path fault)
  | .ok document => ofValue document

end SignedCheckpoint

end TransparencyLog
