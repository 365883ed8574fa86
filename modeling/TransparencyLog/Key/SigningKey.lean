import TransparencyLog.Key.PublicKey

namespace TransparencyLog

/-- A signing key: the seed of an Ed25519 key, or the secret number of a P-256 key. -/
inductive SigningKey
  | ed25519 (seed : Bytes) (length_seed : seed.length = 32)
  | ecdsaP256 (secret : Nat) (pos : 0 < secret) (lt : secret < WeierstrassCurve.p256.order)
deriving DecidableEq

namespace SigningKey

def scheme : SigningKey → Scheme
  | .ed25519 .. => .ed25519
  | .ecdsaP256 .. => .ecdsaP256

def ofSeed? (seed : Bytes) : Option SigningKey :=
  if h : seed.length = 32 then some (.ed25519 seed h) else none

def ofSecret? (secret : Nat) : Option SigningKey :=
  if h : 0 < secret ∧ secret < WeierstrassCurve.p256.order then some (.ecdsaP256 secret h.1 h.2)
  else none

def generate (entropy : Bytes) : Scheme → SigningKey
  | .ed25519 => .ed25519 (sha256 entropy) (length_sha256 entropy)
  | .ecdsaP256 =>
      let range := WeierstrassCurve.p256.order - 1
      .ecdsaP256 (Bytes.toNatBE (sha512 entropy) % range + 1) (Nat.succ_pos _)
        (Nat.add_lt_of_lt_sub (Nat.mod_lt _ (by decide)))

def publicKey : SigningKey → PublicKey
  | .ed25519 seed _ => ⟨Scheme.ed25519.name, Ed25519.publicKey seed⟩
  | .ecdsaP256 secret _ _ =>
      let (x, y) := Ecdsa.publicPoint secret
      ⟨Scheme.ecdsaP256.name, WeierstrassCurve.p256.encodeShort x y⟩

def publicText (key : SigningKey) : String :=
  key.scheme.name ++ (":" ++ Base64.encode key.publicKey.octets)

def keyId (key : SigningKey) : String :=
  PrefixedDigest.ofMessage (Utf8.encode key.publicText)

def sign (key : SigningKey) (message : Bytes) : Bytes :=
  match key with
  | .ed25519 seed _ => Ed25519.sign seed message
  | .ecdsaP256 secret _ _ => Ecdsa.sign secret message

def signText (key : SigningKey) (message : Bytes) : LooseText :=
  Labelled.write key.scheme.name (key.sign message)

end SigningKey

end TransparencyLog
