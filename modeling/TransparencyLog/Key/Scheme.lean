import TransparencyLog.Signature.Ecdsa
import TransparencyLog.Signature.Ed25519
import TransparencyLog.Text.Loose

namespace TransparencyLog

/-- A signature scheme. -/
inductive Scheme
  | ed25519
  | ecdsaP256
deriving DecidableEq, Repr

namespace Scheme

def name : Scheme → String
  | .ed25519 => "ed25519"
  | .ecdsaP256 => "ecdsa-p256"

def ofName? (name : LooseText) : Option Scheme :=
  if name = "ed25519" then some .ed25519
  else if name = "ecdsa-p256" then some .ecdsaP256
  else none

@[simp] theorem ofName?_name (scheme : Scheme) : ofName? scheme.name = some scheme := by
  cases scheme <;> rfl

end Scheme

/-- The primitive checks: why octets are no point of the curve, if they are none, and whether a
signature fits a key and a message. -/
structure SignatureSuite where
  pointFault? : Bytes → Option PointFault
  accepts : Scheme → (key signature message : Bytes) → Bool

def SignatureSuite.standard : SignatureSuite where
  pointFault? key :=
    match WeierstrassCurve.p256.decode key with
    | .ok _ => none
    | .error fault => some fault
  accepts
    | .ed25519 => Ed25519.accepts
    | .ecdsaP256 => Ecdsa.accepts

end TransparencyLog
