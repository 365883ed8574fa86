import TransparencyLog.Key.KeyFile.Private
import TransparencyLog.Key.Pem

namespace TransparencyLog.KeyFile

open Der

def privateLabel : String := "PRIVATE KEY"

def encryptedLabel : String := "ENCRYPTED PRIVATE KEY"

def curveLabel : String := "EC PRIVATE KEY"

def rsaLabel : String := "RSA PRIVATE KEY"

def dsaLabel : String := "DSA PRIVATE KEY"

def publicLabel : String := "PUBLIC KEY"

def privateOctets : SigningKey → Bytes
  | .ed25519 seed _ =>
      write sequenceTag (writeNatural 0 ++ write sequenceTag (write objectTag ed25519Object) ++
        write octetStringTag (write octetStringTag seed))
  | .ecdsaP256 secret _ _ =>
      let (x, y) := Ecdsa.publicPoint secret
      let algorithm := write objectTag curveKeyObject ++ write objectTag p256Object
      let point :=
        write (contextTag 1) (write bitStringTag (0 :: WeierstrassCurve.p256.encodeFull x y))
      let key := write sequenceTag
        (writeNatural 1 ++ write octetStringTag (Bytes.ofNatBE 32 secret) ++ point)
      write sequenceTag (writeNatural 0 ++ write sequenceTag algorithm ++ write octetStringTag key)

def publicOctets : SigningKey → Bytes
  | .ed25519 seed _ =>
      write sequenceTag (write sequenceTag (write objectTag ed25519Object) ++
        write bitStringTag (0 :: Ed25519.publicKey seed))
  | .ecdsaP256 secret _ _ =>
      let (x, y) := Ecdsa.publicPoint secret
      let algorithm := write objectTag curveKeyObject ++ write objectTag p256Object
      write sequenceTag (write sequenceTag algorithm ++
        write bitStringTag (0 :: WeierstrassCurve.p256.encodeFull x y))

def privateText (key : SigningKey) : Bytes :=
  Pem.write privateLabel (privateOctets key)

def publicText (key : SigningKey) : Bytes :=
  Pem.write publicLabel (publicOctets key)

def reader? (label : String) : Option (Bytes → Except Fault SigningKey) :=
  if label = privateLabel then some readPrivate
  else if label = encryptedLabel then some readEncrypted
  else if label = curveLabel then some (readCurve none)
  else if label = rsaLabel then some fun octets => otherKindIf (isRsaKey octets)
  else if label = dsaLabel then some fun octets => otherKindIf (isDsaKey octets)
  else none

/-- What the headers of a block say against reading it: it may be encrypted, in a way that a second
header has to name, and nothing else. -/
def headerFault? (block : Pem.Block) : Option Fault :=
  match block.header? "Proc-Type" with
  | none => none
  | some process =>
      match block.header? "DEK-Info" with
      | some cipher =>
          if process = "4,ENCRYPTED" ∧ cipher.toList.contains ',' then some .encrypted
          else some .unreadable
      | none => some .unreadable

def readBlock (block : Pem.Block) (reader : Bytes → Except Fault SigningKey) :
    Except Fault SigningKey :=
  match headerFault? block with
  | some fault => .error fault
  | none => reader block.octets

def read (octets : Bytes) : Except Fault SigningKey :=
  match Pem.read? octets with
  | none => .error .unreadable
  | some blocks =>
      match blocks.findSome? fun block => (reader? block.label).map (readBlock block) with
      | some result => result
      | none => .error .unreadable

end TransparencyLog.KeyFile
