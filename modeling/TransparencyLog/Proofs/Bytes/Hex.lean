import TransparencyLog.Bytes.Hex

namespace TransparencyLog.Hex

@[simp] theorem value?_digit {n : Nat} (h : n < 16) : value? (digit n) = some n := by
  revert n
  decide

theorem octets?_chars (bytes : Bytes) : octets? (chars bytes) = some bytes := by
  induction bytes with
  | nil => rfl
  | cons b bytes ih =>
      have hb : b.toNat < 256 := b.toNat_lt
      have hvalue : (16 * (b.toNat / 16) + b.toNat % 16).toUInt8 = b := by
        rw [Nat.div_add_mod, ← UInt8.toNat_inj]
        simp
      have hchars : chars (b :: bytes) =
          digit (b.toNat / 16) :: digit (b.toNat % 16) :: chars bytes := rfl
      rw [hchars, octets?, value?_digit (by omega), value?_digit (by omega), ih]
      simp only [Option.bind_eq_bind, Option.bind_some, Option.pure_def, hvalue]

theorem chars_injective : Function.Injective chars := by
  intro a b h
  have hoctets := octets?_chars a
  rw [h, octets?_chars] at hoctets
  exact (Option.some.inj hoctets).symm

theorem encode_injective : Function.Injective encode := fun _ _ h =>
  chars_injective (String.ofList_injective h)

end TransparencyLog.Hex
