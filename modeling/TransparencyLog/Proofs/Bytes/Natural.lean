import Mathlib.Algebra.Group.Nat.Defs
import TransparencyLog.Bytes

namespace TransparencyLog.Bytes

theorem toNat_toUInt8 {n : Nat} (h : n < 256) : n.toUInt8.toNat = n :=
  UInt8.toNat_ofNat_of_lt h

theorem toUInt8_eq {n : Nat} {b : UInt8} (h : n = b.toNat) : n.toUInt8 = b := by
  subst h
  exact UInt8.ofNat_toNat

theorem toNatLE_ofNatLE (count n : Nat) : toNatLE (ofNatLE count n) = n % 256 ^ count := by
  induction count generalizing n with
  | zero =>
      rw [Nat.pow_zero, Nat.mod_one]
      rfl
  | succ count ih =>
      have hdigit : n.toUInt8.toNat = n % 256 := UInt8.toNat_ofNat'
      rw [ofNatLE, toNatLE, ih, hdigit, Nat.pow_succ', Nat.mod_mul]

theorem toNatBE_reverse (bytes : Bytes) : toNatBE bytes.reverse = toNatLE bytes := by
  induction bytes with
  | nil => rfl
  | cons b bytes ih =>
      have hlast : toNatBE (bytes.reverse ++ [b]) = 256 * toNatBE bytes.reverse + b.toNat :=
        List.foldl_append
      rw [List.reverse_cons, hlast, ih, toNatLE, Nat.add_comm]

theorem toNatBE_ofNatBE {count n : Nat} (h : n < 256 ^ count) :
    toNatBE (ofNatBE count n) = n := by
  rw [ofNatBE, toNatBE_reverse, toNatLE_ofNatLE, Nat.mod_eq_of_lt h]

end TransparencyLog.Bytes
