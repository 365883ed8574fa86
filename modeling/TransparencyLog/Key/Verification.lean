import TransparencyLog.Key.PublicKey
import TransparencyLog.Value

namespace TransparencyLog

inductive SignatureFault
  | notText
  | malformed (fault : Labelled.Fault)
  | empty
  | size (octets : Nat)
  | otherAlgorithm (signature key : LooseText)
  | unusableKey (fault : PublicKey.MaterialFault)
  | mismatch
deriving DecidableEq, Repr

def SignatureFault.message : SignatureFault → String
  | .notText => "Signature must be a non-empty string"
  | .malformed fault => s!"Malformed signature: {fault.message}"
  | .empty => "Signature payload is empty"
  | .size octets => s!"ed25519 signature must be 64 bytes, got {octets}"
  | .otherAlgorithm signature key =>
      s!"Signature algorithm {Text.quoted signature} does not match key algorithm " ++
        Text.quoted key
  | .unusableKey fault => s!"Key material unusable: {fault.message}"
  | .mismatch => "Signature does not verify"

def decodeSignature (text : LooseText) : Except SignatureFault (LooseText × Bytes) :=
  if text.isEmpty then .error .notText
  else
    match Labelled.read text with
    | .error fault => .error (.malformed fault)
    | .ok (algorithm, octets) =>
        if octets.isEmpty then .error .empty
        else if algorithm = Scheme.ed25519.name ∧ octets.length ≠ 64 then
          .error (.size octets.length)
        else .ok (algorithm, octets)

def decodeSignatureValue : Value → Except SignatureFault (LooseText × Bytes)
  | .str text => decodeSignature text
  | _ => .error .notText

inductive VerificationFault
  | unsupported (algorithm : LooseText)
  | signature (fault : SignatureFault)
deriving DecidableEq, Repr

def VerificationFault.message : VerificationFault → String
  | .unsupported algorithm => PublicKey.unsupportedMessage algorithm
  | .signature fault => fault.message

namespace PublicKey

/-- The octets of a signature that fits a key and a message. The algorithm of the key is looked at
first, then the signature, then the octets of the key. -/
def verify (suite : SignatureSuite) (key : PublicKey) (message : Bytes) (signature : Value) :
    Except VerificationFault Bytes :=
  match key.scheme? with
  | none => .error (.unsupported key.algorithm)
  | some scheme =>
      match decodeSignatureValue signature with
      | .error fault => .error (.signature fault)
      | .ok (algorithm, octets) =>
          if algorithm ≠ key.algorithm then
            .error (.signature (.otherAlgorithm algorithm key.algorithm))
          else
            match materialFault? suite key.octets scheme with
            | some fault => .error (.signature (.unusableKey fault))
            | none =>
                if suite.accepts scheme key.octets octets message then .ok octets
                else .error (.signature .mismatch)

end PublicKey

end TransparencyLog
