import TransparencyLog.Curve.Weierstrass
import TransparencyLog.Der
import TransparencyLog.Digest.Hmac

namespace TransparencyLog.Ecdsa

open Residue

def curve : WeierstrassCurve := .p256

def write (r s : Nat) : Bytes :=
  Der.write Der.sequenceTag (Der.writeNatural r ++ Der.writeNatural s)

/-- The two numbers of a signature; every length and integer has its only form. -/
def read? (signature : Bytes) : Option (Nat × Nat) := do
  let body ← Der.only? Der.sequenceTag signature
  let (first, rest) ← Der.expect? Der.integerTag body
  let second ← Der.only? Der.integerTag rest
  return (← Der.natural? first, ← Der.natural? second)

def digestNumber (message : Bytes) : Nat :=
  Bytes.toNatBE (sha256 message)

def holds (x y r s : Nat) (message : Bytes) : Bool :=
  let n := curve.order
  if 0 < r ∧ r < n ∧ 0 < s ∧ s < n then
    let w := inv n s
    let sum := curve.add (curve.smul (digestNumber message * w % n) curve.base)
      (curve.smul (r * w % n) ⟨x, y, 1⟩)
    match curve.affine? sum with
    | none => false
    | some (x, _) => decide (x % n = r)
  else false

def accepts (key signature message : Bytes) : Bool :=
  match curve.decode key, read? signature with
  | .ok (x, y), some (r, s) => holds x y r s message
  | _, _ => false

def publicPoint (secret : Nat) : Nat × Nat :=
  (curve.affine? (curve.smul secret curve.base)).getD (0, 0)

def attempt? (secret digest nonce : Nat) : Option (Nat × Nat) := do
  let n := curve.order
  if nonce = 0 ∨ n ≤ nonce then none
  else
    let (x, _) ← curve.affine? (curve.smul nonce curve.base)
    let r := x % n
    let s := mul n (inv n nonce) (digest + r * secret)
    if r = 0 ∨ s = 0 then none else return (r, s)

/-- Tries the nonces drawn from a keyed generator in the state `key`, `value`. -/
def search (secret digest : Nat) : (fuel : Nat) → (key value : Bytes) → Nat × Nat
  | 0, _, _ => (0, 0)
  | fuel + 1, key, value =>
      let value := hmacSha256 key value
      match attempt? secret digest (Bytes.toNatBE value) with
      | some numbers => numbers
      | none =>
          let key := hmacSha256 key (value ++ [0])
          search secret digest fuel key (hmacSha256 key value)

/-- The two numbers that sign a message. -/
def numbers (secret : Nat) (message : Bytes) : Nat × Nat :=
  let digest := digestNumber message
  let seed := Bytes.ofNatBE 32 secret ++ Bytes.ofNatBE 32 (digest % curve.order)
  let value := List.replicate 32 1
  let key := hmacSha256 (List.replicate 32 0) (value ++ 0 :: seed)
  let value := hmacSha256 key value
  let key := hmacSha256 key (value ++ 1 :: seed)
  search secret digest 64 key (hmacSha256 key value)

def sign (secret : Nat) (message : Bytes) : Bytes :=
  write (numbers secret message).1 (numbers secret message).2

end TransparencyLog.Ecdsa
