import TransparencyLog.Key.SigningKey
import TransparencyLog.Proofs.Key.Labelled
import TransparencyLog.Proofs.Key.Verification

namespace TransparencyLog

theorem Edwards25519.Point.length_encode (u : Point) : u.encode.length = 32 := by
  unfold encode
  exact Bytes.length_ofNatLE 32 _

theorem Ed25519.length_sign (seed message : Bytes) : (sign seed message).length = 64 := by
  unfold sign
  dsimp only
  rw [List.length_append, Edwards25519.Point.length_encode, Bytes.length_ofNatLE]

theorem Ecdsa.write_ne_nil (r s : Nat) : write r s ≠ [] := by
  unfold write Der.write
  exact List.cons_ne_nil _ _

theorem Ecdsa.sign_ne_nil (secret : Nat) (message : Bytes) : sign secret message ≠ [] := by
  rw [sign]
  exact write_ne_nil _ _

namespace SigningKey

variable {suite : SignatureSuite} {key : SigningKey} {message : Bytes}

theorem algorithm_publicKey (key : SigningKey) : key.publicKey.algorithm = key.scheme.name := by
  cases key with
  | ed25519 => rfl
  | ecdsaP256 => rfl

theorem text_publicKey (key : SigningKey) : key.publicKey.text = key.publicText := by
  rw [PublicKey.text, algorithm_publicKey]
  rfl

theorem fingerprint_publicKey (key : SigningKey) : key.publicKey.fingerprint = .ok key.keyId := by
  rw [PublicKey.fingerprint, text_publicKey, LooseText.encode_whole]
  rfl

theorem sign_ne_nil (key : SigningKey) (message : Bytes) : key.sign message ≠ [] := by
  cases key with
  | ed25519 seed _ =>
      apply List.ne_nil_of_length_pos
      rw [sign, Ed25519.length_sign]
      decide
  | ecdsaP256 secret _ _ => exact Ecdsa.sign_ne_nil secret message

theorem length_sign_of_ed25519 (h : key.scheme.name = Scheme.ed25519.name) :
    (key.sign message).length = 64 := by
  cases key with
  | ed25519 seed _ => exact Ed25519.length_sign seed message
  | ecdsaP256 secret _ _ =>
      have hname : Scheme.ecdsaP256.name ≠ Scheme.ed25519.name := by decide
      exact absurd h hname

theorem isWritable_sign (key : SigningKey) (message : Bytes) :
    Labelled.IsWritable key.scheme.name (key.sign message) := by
  refine ⟨?_, ?_, key.sign_ne_nil message⟩
  · cases key.scheme <;> decide
  · cases key.scheme <;> decide

theorem decodeSignature_signText (key : SigningKey) (message : Bytes) :
    decodeSignature (key.signText message) = .ok (key.scheme.name, key.sign message) :=
  decodeSignature_eq_ok_iff.mpr
    ⟨Labelled.read_write (key.isWritable_sign message),
      fun h => length_sign_of_ed25519 (LooseText.whole.inj h)⟩

/-- The public half of a key can be used, and it accepts what the key signs a message with. -/
structure Signs (suite : SignatureSuite) (key : SigningKey) (message : Bytes) : Prop where
  loads : key.publicKey.load suite = .ok key.scheme
  accepts : suite.accepts key.scheme key.publicKey.octets (key.sign message) message = true

theorem accepts_signText (h : key.Signs suite message) :
    key.publicKey.Accepts suite message (.str (key.signText message)) (key.sign message) := by
  refine ⟨?_, key.scheme, h.loads, h.accepts⟩
  rw [algorithm_publicKey]
  exact key.decodeSignature_signText message

end SigningKey

end TransparencyLog
