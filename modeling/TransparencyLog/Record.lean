import TransparencyLog.DocumentFault

namespace TransparencyLog

/-- A record of a package log. -/
structure LogRecord where
  content : Bytes
  keyId : LooseText
  signature : LooseText
deriving DecidableEq, Repr

namespace LogRecord

def toItem (record : LogRecord) : Value :=
  .record (.bytes record.content) (.str record.keyId) (.str record.signature)

def toValue (record : LogRecord) : Value :=
  .object [("contentBytes", .str (Base64.encode record.content)), ("keyId", .str record.keyId),
    ("signature", .str record.signature)]

def ofMembers (path : String) (members : List (Value × Value)) :
    Except DocumentFault LogRecord := do
  let content ← textMember path members "contentBytes"
  let keyId ← textMember path members "keyId"
  let signature ← textMember path members "signature"
  match Base64.decode content with
  | .error fault => .error ⟨path, .notBase64 "contentBytes" fault⟩
  | .ok octets => return ⟨octets, keyId, signature⟩

def ofValue (path : String) : Value → Except DocumentFault LogRecord
  | .map members => ofMembers path members
  | value => .error ⟨path, .notObject value.typeName⟩

end LogRecord

end TransparencyLog
