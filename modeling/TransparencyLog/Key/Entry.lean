import TransparencyLog.Key.PublicKey
import TransparencyLog.Value

namespace TransparencyLog

/-- A key under an id. An entry that is not active is kept but never looked up. -/
structure KeyEntry where
  keyId : LooseText
  publicKey : PublicKey
  active : Bool
deriving DecidableEq, Repr

namespace KeyEntry

inductive Fault
  | notObject (typeName : String)
  | noKeyId
  | noPublicKey (keyId : LooseText)
  | foreignActive (keyId : LooseText)
  | publicKey (keyId : LooseText) (fault : Labelled.Fault)
deriving DecidableEq, Repr

def Fault.message : Fault → String
  | .notObject typeName => s!"Key entry must be an object, got {typeName}"
  | .noKeyId => "Key entry requires a non-empty string 'keyId'"
  | .noPublicKey keyId => s!"Key entry {Text.quoted keyId} requires a string 'publicKey'"
  | .foreignActive keyId => s!"Key entry {Text.quoted keyId} has non-boolean 'active'"
  | .publicKey keyId fault =>
      s!"Key entry {Text.quoted keyId}: {PublicKey.textFaultMessage fault}"

def toValue (entry : KeyEntry) : Value :=
  .object [("keyId", .str entry.keyId), ("publicKey", .str entry.publicKey.text),
    ("active", .bool entry.active)]

def ofMembers (members : List (Value × Value)) : Except Fault KeyEntry :=
  match Value.lookup? "keyId" members with
  | some (.str keyId) =>
      if keyId.isEmpty then .error .noKeyId
      else
        match Value.lookup? "publicKey" members with
        | some (.str text) =>
            match (Value.lookup? "active" members).getD (.bool true) with
            | .bool active =>
                match PublicKey.ofText text with
                | .error fault => .error (.publicKey keyId fault)
                | .ok key => .ok ⟨keyId, key, active⟩
            | _ => .error (.foreignActive keyId)
        | _ => .error (.noPublicKey keyId)
  | _ => .error .noKeyId

def ofValue : Value → Except Fault KeyEntry
  | .map members => ofMembers members
  | value => .error (.notObject value.typeName)

end KeyEntry

end TransparencyLog
