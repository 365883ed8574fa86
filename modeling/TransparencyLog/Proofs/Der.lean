import TransparencyLog.Der
import TransparencyLog.Proofs.Bytes.Natural

namespace TransparencyLog.Der

open Bytes (toNat_toUInt8)

/-- The number of octets is one that the two octets of a length state. -/
abbrev HasRoom (contents : Bytes) : Prop :=
  contents.length < 65536

variable {tag other : UInt8} {contents : Bytes}

theorem length?_counted {first : UInt8} {digits : Bytes}
    (hfirst : first.toNat = 128 + digits.length) (hne : digits ≠ [])
    (hlong : 128 ≤ Bytes.toNatBE digits)
    (hdigits : 256 ^ (digits.length - 1) ≤ Bytes.toNatBE digits) (rest : Bytes) :
    length? (first :: (digits ++ rest)) = some (Bytes.toNatBE digits, rest) := by
  have hlarge : ¬ first < 128 := by
    rw [UInt8.lt_iff_toNat_lt, hfirst, Nat.not_lt]
    exact Nat.le_add_right 128 _
  have hcount : first.toNat - 128 = digits.length := by omega
  have hzero : digits.length ≠ 0 := by simpa using hne
  rw [length?, if_neg hlarge, hcount]
  dsimp only
  rw [List.take_left, List.drop_left, if_neg]
  simp only [not_or, Nat.not_lt, List.length_append]
  exact ⟨hzero, Nat.le_add_right _ _, hlong, hdigits⟩

theorem length?_lengthOctets {n : Nat} (h : n < 65536) (rest : Bytes) :
    length? (lengthOctets n ++ rest) = some (n, rest) := by
  unfold lengthOctets
  split
  · rename_i hshort
    have hsmall : n.toUInt8 < 128 := by
      rw [UInt8.lt_iff_toNat_lt, toNat_toUInt8 (by omega)]
      exact hshort
    rw [List.singleton_append, length?, if_pos hsmall, toNat_toUInt8 (by omega)]
  · split
    · have hvalue : Bytes.toNatBE [n.toUInt8] = n := by
        simp [Bytes.toNatBE, toNat_toUInt8 ‹_›]
      have hread := @length?_counted 0x81 [n.toUInt8] rfl (by simp) (by omega)
        (by rw [hvalue]; simp; omega) rest
      rwa [hvalue] at hread
    · have hvalue : Bytes.toNatBE [(n / 256).toUInt8, n.toUInt8] = n := by
        have hlow : n.toUInt8.toNat = n % 256 := UInt8.toNat_ofNat'
        have hhigh : (n / 256).toUInt8.toNat = n / 256 := toNat_toUInt8 (by omega)
        simp only [Bytes.toNatBE, List.foldl_cons, List.foldl_nil, hlow, hhigh]
        omega
      have hread := @length?_counted 0x82 [(n / 256).toUInt8, n.toUInt8] rfl (by simp) (by omega)
        (by rw [hvalue]; simp; omega) rest
      rwa [hvalue] at hread

theorem next?_write (h : HasRoom contents) (rest : Bytes) :
    next? (write tag contents ++ rest) = some (⟨tag, contents⟩, rest) := by
  have hlength := length?_lengthOctets h (contents ++ rest)
  rw [write, List.cons_append, List.cons_append, List.append_assoc, next?, hlength,
    Option.bind_eq_bind, Option.bind_some]
  dsimp only
  rw [if_neg (by simp), List.take_left, List.drop_left]
  rfl

theorem expect?_write (h : HasRoom contents) (rest : Bytes) :
    expect? tag (write tag contents ++ rest) = some (contents, rest) := by
  rw [expect?, next?_write h, Option.bind_eq_bind, Option.bind_some]
  exact if_pos rfl

theorem expect?_write_nil (h : HasRoom contents) :
    expect? tag (write tag contents) = some (contents, []) := by
  have hread : expect? tag (write tag contents ++ []) = some (contents, []) := expect?_write h []
  rwa [List.append_nil] at hread

theorem only?_write (h : HasRoom contents) : only? tag (write tag contents) = some contents := by
  rw [only?, expect?_write_nil h]
  rfl

theorem optional?_write (h : HasRoom contents) :
    optional? tag (write tag contents) = some (some contents, []) := by
  have hhead : (write tag contents).head? = some tag := rfl
  rw [optional?, if_pos hhead, expect?_write_nil h]
  rfl

theorem optional?_write_of_ne (hne : other ≠ tag) :
    optional? tag (write other contents) = some (none, write other contents) := by
  have hhead : (write other contents).head? = some other := rfl
  rw [optional?, if_neg]
  rw [hhead, Option.some.injEq]
  exact hne

theorem optional?_nil : optional? tag [] = some (none, []) :=
  rfl

theorem bitOctets?_zero (octets : Bytes) : bitOctets? (0 :: octets) = some octets := by
  have hzero : Nat.pow 2 (0 : UInt8).toNat = 1 := rfl
  rw [bitOctets?]
  cases hlast : octets.getLast? with
  | none => rw [List.getLast?_eq_none_iff.mp hlast, if_pos rfl]
  | some last =>
      dsimp only
      rw [hzero, Nat.mod_one, if_pos ⟨by decide, rfl⟩]

theorem length_lengthOctets_le (n : Nat) : (lengthOctets n).length ≤ 3 := by
  unfold lengthOctets
  split
  · simp
  · split <;> simp

theorem length_write_le (tag : UInt8) (contents : Bytes) :
    (write tag contents).length ≤ contents.length + 4 := by
  have hlength := length_lengthOctets_le contents.length
  rw [write, List.cons_append, List.length_cons, List.length_append]
  omega

end TransparencyLog.Der
