import TransparencyLog.Curve.Edwards25519
import TransparencyLog.Digest.Sha2

/-!
Ed25519 signatures. A signature is accepted if the point computed from its scalar has exactly the
octets that the signature carries; no cofactor is applied.
-/

namespace TransparencyLog.Ed25519

open Edwards25519

def scalarOfDigest (message : Bytes) : Nat :=
  Bytes.toNatLE (sha512 message) % order

/-- The secret scalar of a seed: the low half of its digest with fixed low and high bits. -/
def secretScalar (seed : Bytes) : Nat :=
  let n := Bytes.toNatLE ((sha512 seed).take 32)
  Nat.pow 2 254 + n % Nat.pow 2 254 / 8 * 8

def publicKey (seed : Bytes) : Bytes :=
  (Point.smul (secretScalar seed) Point.base).encode

def sign (seed message : Bytes) : Bytes :=
  let key := publicKey seed
  let nonce := scalarOfDigest ((sha512 seed).drop 32 ++ message)
  let commitment := (Point.smul nonce Point.base).encode
  let challenge := scalarOfDigest (commitment ++ key ++ message)
  commitment ++ Bytes.ofNatLE 32 ((nonce + challenge * secretScalar seed) % order)

def accepts (key signature message : Bytes) : Bool :=
  let commitment := signature.take 32
  let scalar := Bytes.toNatLE (signature.drop 32)
  match Point.decode? key with
  | none => false
  | some point =>
      let challenge := scalarOfDigest (commitment ++ key ++ message)
      let expected := (Point.smul scalar Point.base).add (Point.smul challenge point.neg)
      key.length = 32 && signature.length = 64 && decide (scalar < order) &&
        decide (expected.encode = commitment)

end TransparencyLog.Ed25519
