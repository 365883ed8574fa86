import TransparencyLog.Decimal.Numeral

namespace TransparencyLog.Numeral

@[simp] theorem ofDigitChars_digits (n : Nat) : Nat.ofDigitChars 10 (digits n) 0 = n :=
  Nat.ofDigitChars_ten_toDigits

theorem isDigit_eq_decide (c : Char) : c.isDigit = (decide ('0' ≤ c) && decide (c ≤ '9')) := by
  rw [Bool.eq_iff_iff, Char.isDigit_iff_toNat]
  simp only [Bool.and_eq_true, decide_eq_true_eq, Char.le_def, UInt32.le_iff_toNat_le]
  rfl

theorem isDigit_of_mem_digits {n : Nat} {c : Char} (hc : c ∈ digits n) : c.isDigit = true :=
  Nat.isDigit_of_mem_toDigits (by decide) (by decide) hc

theorem digits_of_lt {n : Nat} (h : n < 10) : digits n = [Nat.digitChar n] :=
  Nat.toDigits_of_lt_base h

theorem digits_of_le {n : Nat} (h : 10 ≤ n) :
    digits n = digits (n / 10) ++ [Nat.digitChar (n % 10)] :=
  Nat.toDigits_of_base_le (by decide) h

theorem length_digits_le_iff {n limit : Nat} (h : 0 < limit) :
    (digits n).length ≤ limit ↔ n < Nat.pow 10 limit :=
  Nat.length_toDigits_le_iff (by decide) h

theorem exists_digits_eq_cons {n : Nat} (h : 0 < n) :
    ∃ c rest, digits n = c :: rest ∧ c ≠ '0' := by
  induction n using Nat.strongRecOn with
  | ind n ih =>
      by_cases hlt : n < 10
      · exact ⟨Nat.digitChar n, [], digits_of_lt hlt, by simp; omega⟩
      · obtain ⟨c, rest, heq, hc⟩ := ih (n / 10) (by omega) (by omega)
        refine ⟨c, rest ++ [Nat.digitChar (n % 10)], ?_, hc⟩
        rw [digits_of_le (by omega), heq, List.cons_append]

theorem exists_eq_digitChar {c : Char} (hc : c.isDigit = true) : ∃ d < 10, c = Nat.digitChar d := by
  have hrange : 48 ≤ c.toNat ∧ c.toNat ≤ 57 := Char.isDigit_iff_toNat.mp hc
  refine ⟨c.toNat - 48, by omega, Char.toNat_inj.mp ?_⟩
  rw [Nat.toNat_digitChar_of_lt_ten (by omega)]
  omega

theorem digits_append {n : Nat} (h : 0 < n) {cs : List Char} (hcs : ∀ c ∈ cs, c.isDigit = true) :
    digits n ++ cs = digits (Nat.ofDigitChars 10 cs n) := by
  induction cs generalizing n with
  | nil => simp
  | cons c cs ih =>
      obtain ⟨d, hd, rfl⟩ := exists_eq_digitChar (hcs c (by simp))
      have hfirst : digits n ++ [Nat.digitChar d] = digits (10 * n + d) := by
        rw [← digits_of_lt hd]
        exact Nat.toDigits_append_toDigits (by decide) h hd
      rw [Nat.ofDigitChars_cons_digitChar_of_lt_ten hd,
        ← ih (by omega) fun c hc => hcs c (by simp [hc]), ← hfirst, List.append_assoc,
        List.singleton_append]

theorem digits_ofDigitChars {c : Char} {rest : List Char} (hne : c ≠ '0')
    (hdigits : ∀ d ∈ c :: rest, d.isDigit = true) :
    digits (Nat.ofDigitChars 10 (c :: rest) 0) = c :: rest := by
  obtain ⟨d, hd, rfl⟩ := exists_eq_digitChar (hdigits c (by simp))
  have hpositive : 0 < d := by
    rw [ne_eq, Nat.digitChar_eq_zero] at hne
    omega
  rw [Nat.ofDigitChars_cons_digitChar_of_lt_ten hd, Nat.mul_zero, Nat.zero_add,
    ← digits_append hpositive fun c hc => hdigits c (by simp [hc]), digits_of_lt hd,
    List.singleton_append]

@[simp] theorem chars_ofNat (n : Nat) : chars (n : Int) = digits n := by
  rw [chars, if_neg (by omega), Int.natAbs_natCast]

theorem write_eq_ok_iff {n : Int} {cs : List Char} :
    write n = .ok cs ↔ (digits n.natAbs).length ≤ digitLimit ∧ cs = chars n := by
  rw [write, length_digits_le_iff (by decide)]
  split
  · rename_i hlimit
    simp only [hlimit, Except.ok.injEq, true_and]
    exact eq_comm
  · rename_i hlimit
    simp only [hlimit, reduceCtorEq, false_and]

theorem eq_chars_of_write {n : Int} {cs : List Char} (h : write n = .ok cs) : cs = chars n :=
  (write_eq_ok_iff.mp h).2

/-- The numbers that are not too long to be written. -/
def IsShort (n : Nat) : Prop :=
  (digits n).length ≤ digitLimit

theorem IsShort.of_le {m n : Nat} (h : IsShort n) (hle : m ≤ n) : IsShort m := by
  rw [IsShort, length_digits_le_iff (by decide)] at h ⊢
  exact Nat.lt_of_le_of_lt hle h

theorem isShort_of_lt {n : Nat} (h : n < 10) : IsShort n := by
  rw [IsShort, digits_of_lt h, List.length_singleton]
  decide

theorem IsShort.write_eq {n : Nat} (h : IsShort n) : write n = .ok (digits n) :=
  write_eq_ok_iff.mpr ⟨h, (chars_ofNat n).symm⟩

theorem read_digits (n : Nat) :
    read (digits n) = if (digits n).length ≤ digitLimit then .ok n
      else .error (.read (digits n).length) := by
  rw [read, ofDigitChars_digits]

end TransparencyLog.Numeral
