import Mathlib.Data.Nat.Bitwise
import Mathlib.FieldTheory.Finite.Basic
import TransparencyLog.Curve.Residue

namespace TransparencyLog.Residue

section Multiple

/-- The number that bits spell, the most significant one first, behind the bits of `start`. -/
def ofBits (start : Nat) (bits : List Bool) : Nat :=
  bits.foldl (fun n bit => 2 * n + bit.toNat) start

theorem ofBits_eq_add (start : Nat) (bits : List Bool) :
    ofBits start bits = start * 2 ^ bits.length + ofBits 0 bits := by
  induction bits generalizing start with
  | nil => simp [ofBits]
  | cons bit bits ih =>
      have hcons (n : Nat) : ofBits n (bit :: bits) = ofBits (2 * n + bit.toNat) bits := rfl
      rw [hcons, hcons, ih (2 * start + bit.toNat), ih (2 * 0 + bit.toNat), List.length_cons]
      ring

theorem ofBits_range (n count : Nat) :
    ofBits 0 ((List.range count).reverse.map n.testBit) = n % 2 ^ count := by
  induction count with
  | zero => simp [ofBits, Nat.mod_one]
  | succ count ih =>
      have hcons (bit : Bool) (bits : List Bool) :
          ofBits 0 (bit :: bits) = ofBits (2 * 0 + bit.toNat) bits := rfl
      rw [List.range_succ, List.reverse_append, List.reverse_singleton, List.singleton_append,
        List.map_cons, hcons, ofBits_eq_add, ih, Nat.toNat_testBit, Nat.mod_pow_succ,
        List.length_map, List.length_reverse, List.length_range]
      ring

theorem ofBits_bits (n : Nat) : ofBits 0 (bits n) = n := by
  rw [bits, ofBits_range, Nat.mod_eq_of_lt Nat.lt_log2_self]

variable {α : Type} {zero x : α} {add : α → α → α} (relation : Nat → α → Prop)

theorem multiple_spec (hzero : relation 0 zero) (hone : relation 1 x)
    (hadd : ∀ {m n a b}, relation m a → relation n b → relation (m + n) (add a b)) (n : Nat) :
    relation n (multiple zero add n x) := by
  have hfold (bits : List Bool) : ∀ {start : Nat} {sum : α}, relation start sum →
      relation (ofBits start bits)
        (bits.foldl (fun sum bit => if bit then add (add sum sum) x else add sum sum) sum) := by
    induction bits with
    | nil => exact id
    | cons bit bits ih =>
        intro start sum hsum
        have hdouble := hadd hsum hsum
        rw [← two_mul] at hdouble
        cases bit with
        | false => exact ih hdouble
        | true => exact ih (hadd hdouble hone)
  have hbits := hfold (bits n) hzero
  rwa [ofBits_bits] at hbits

end Multiple

variable {p : Nat} (a b : Nat)

theorem cast_mul : ((mul p a b : Nat) : ZMod p) = a * b := by
  rw [mul, ZMod.natCast_mod, Nat.cast_mul]

theorem cast_sub [NeZero p] : ((sub p a b : Nat) : ZMod p) = a - b := by
  have hle : b % p ≤ p := (Nat.mod_lt b (NeZero.pos p)).le
  rw [sub, ZMod.natCast_mod, Nat.cast_add, Nat.cast_sub hle, ZMod.natCast_self, ZMod.natCast_mod]
  ring

theorem cast_pow (exponent : Nat) : ((pow p a exponent : Nat) : ZMod p) = a ^ exponent := by
  refine multiple_spec (fun n c => ((c : Nat) : ZMod p) = (a : ZMod p) ^ n) ?_ ?_ ?_
    exponent
  · rw [ZMod.natCast_mod, Nat.cast_one, pow_zero]
  · rw [ZMod.natCast_mod, pow_one]
  · intro m n c d hc hd
    rw [cast_mul, hc, hd, pow_add]

theorem mul_lt [NeZero p] : mul p a b < p :=
  Nat.mod_lt _ (NeZero.pos p)

theorem sub_lt [NeZero p] : sub p a b < p :=
  Nat.mod_lt _ (NeZero.pos p)

theorem cast_inv [Fact p.Prime] {a : Nat} (ha : (a : ZMod p) ≠ 0) :
    ((inv p a : Nat) : ZMod p) = (a : ZMod p)⁻¹ := by
  have hp : 2 ≤ p := (Fact.out : p.Prime).two_le
  have hexponent : p - 2 + 1 = p - 1 := by omega
  rw [inv, cast_pow]
  refine eq_inv_of_mul_eq_one_left ?_
  rw [← pow_succ, hexponent, ZMod.pow_card_sub_one_eq_one ha]

theorem cast_inj [NeZero p] {a b : Nat} (ha : a < p) (hb : b < p) :
    ((a : Nat) : ZMod p) = b ↔ a = b := by
  rw [ZMod.natCast_eq_natCast_iff', Nat.mod_eq_of_lt ha, Nat.mod_eq_of_lt hb]

theorem pow_lt [NeZero p] (exponent : Nat) : pow p a exponent < p := by
  refine multiple_spec (fun _ c => c < p) (Nat.mod_lt _ (NeZero.pos p))
    (Nat.mod_lt _ (NeZero.pos p)) ?_ exponent
  intro m n c d _ _
  exact mul_lt c d

end TransparencyLog.Residue
