import TransparencyLog.Digest.Prefixed
import TransparencyLog.Key.Labelled
import TransparencyLog.Key.Scheme
import TransparencyLog.Text.Utf8

namespace TransparencyLog

/-- A public key. -/
structure PublicKey where
  algorithm : LooseText
  octets : Bytes
deriving DecidableEq, Repr

namespace PublicKey

def textFaultMessage : Labelled.Fault → String
  | .noLabel text => (Labelled.Fault.noLabel text).message
  | .payload fault => s!"Public key is not valid base64: {fault.message}"

def ofText (text : LooseText) : Except Labelled.Fault PublicKey :=
  match Labelled.read text with
  | .error fault => .error fault
  | .ok (algorithm, octets) => .ok ⟨algorithm, octets⟩

def text (key : PublicKey) : LooseText :=
  Labelled.write key.algorithm key.octets

/-- The digest of the key's text, which names the key where it has no other id. -/
def fingerprint (key : PublicKey) : Except EncodingFault String :=
  PrefixedDigest.ofMessage <$> key.text.encode

def scheme? (key : PublicKey) : Option Scheme :=
  Scheme.ofName? key.algorithm

inductive MaterialFault
  | size (octets : Nat)
  | point (fault : PointFault)
deriving DecidableEq, Repr

def MaterialFault.message : MaterialFault → String
  | .size octets => s!"ed25519 public key must be 32 bytes, got {octets}"
  | .point fault => fault.message

def materialFault? (suite : SignatureSuite) (octets : Bytes) : Scheme → Option MaterialFault
  | .ed25519 => if octets.length = 32 then none else some (.size octets.length)
  | .ecdsaP256 => (suite.pointFault? octets).map .point

inductive LoadFault
  | unsupported (algorithm : LooseText)
  | material (fault : MaterialFault)
deriving DecidableEq, Repr

def unsupportedMessage (algorithm : LooseText) : String :=
  s!"Unsupported signature algorithm: {Text.quoted algorithm}"

def LoadFault.message : LoadFault → String
  | .unsupported algorithm => unsupportedMessage algorithm
  | .material fault => fault.message

def load (suite : SignatureSuite) (key : PublicKey) : Except LoadFault Scheme :=
  match key.scheme? with
  | none => .error (.unsupported key.algorithm)
  | some scheme =>
      match materialFault? suite key.octets scheme with
      | some fault => .error (.material fault)
      | none => .ok scheme

end PublicKey

end TransparencyLog
