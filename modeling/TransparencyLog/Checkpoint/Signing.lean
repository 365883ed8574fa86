import TransparencyLog.Checkpoint.Signed
import TransparencyLog.Key.SigningKey

namespace TransparencyLog

/-- What a signed checkpoint carries as its contents. -/
inductive Carriage
  | canonical
  | verbatim
deriving DecidableEq, Repr

def signCheckpoint (key : SigningKey) (keyId : LooseText) (carriage : Carriage) (content : Value) :
    Except CheckpointBody.ReadFault SignedCheckpoint :=
  match CheckpointBody.readValue content with
  | .error fault => .error fault
  | .ok body =>
      let carried :=
        match carriage with
        | .canonical => body.octets
        | .verbatim => content.octets?.getD []
      .ok ⟨carried, keyId, key.signText body.octets⟩

end TransparencyLog
