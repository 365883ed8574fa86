import TransparencyLog.Key.Registry
import TransparencyLog.Key.Verification
import TransparencyLog.Record

namespace TransparencyLog

inductive Rejection
  | notRecord (typeName : String)
  | notBytes (keyId : Value)
  | lookup (keyId : Value) (fault : LookupFault)
  | unknownKey (keyId : Value)
  | verification (keyId : Value) (fault : VerificationFault)

/-- Examines an item: a record with octets, a key that is found, and a signature that fits. -/
def examine (suite : SignatureSuite) (source : KeySource) : Value → Except Rejection Unit
  | .record content keyId signature =>
      match content.octets? with
      | none => .error (.notBytes keyId)
      | some octets =>
          match source.resolve keyId with
          | .error fault => .error (.lookup keyId fault)
          | .ok none => .error (.unknownKey keyId)
          | .ok (some key) =>
              match key.verify suite octets signature with
              | .error fault => .error (.verification keyId fault)
              | .ok _ => .ok ()
  | item => .error (.notRecord item.typeName)

def verdict (suite : SignatureSuite) (source : KeySource) (item : Value) : Bool :=
  match examine suite source item with
  | .ok () => true
  | .error _ => false

end TransparencyLog
