import TransparencyLog.Proofs.Bytes.Base64

/-!
Base64 text in standard form: whole groups of four digits, and at the end perhaps a group that
padding fills up, whose last digit has no bits beyond the octets. What octets are written as is
in this form, and nothing else is (`isStandard_iff`), so a text that is read is written again from
its octets if and only if it is in standard form (`encode_eq_iff_isStandard`).
-/

namespace TransparencyLog.Base64

/-- Text in standard form, group by group. -/
inductive IsStandard : List Char → Prop
  | nil : IsStandard []
  /-- Two digits spell one octet; the four low bits of the second one are not used. -/
  | one {a b : Char} {m n : Nat} (ha : value? a = some m) (hb : value? b = some n)
      (hunused : n % 16 = 0) : IsStandard [a, b, '=', '=']
  /-- Three digits spell two octets; the two low bits of the third one are not used. -/
  | two {a b c : Char} {l m n : Nat} (ha : value? a = some l) (hb : value? b = some m)
      (hc : value? c = some n) (hunused : n % 4 = 0) : IsStandard [a, b, c, '=']
  | group {a b c d : Char} {k l m n : Nat} {rest : List Char} (ha : value? a = some k)
      (hb : value? b = some l) (hc : value? c = some m) (hd : value? d = some n)
      (hrest : IsStandard rest) : IsStandard (a :: b :: c :: d :: rest)

/-- The characters of the text are in standard form. -/
def IsStandardText (text : LooseText) : Prop :=
  ∃ whole : String, text = whole ∧ IsStandard whole.toList

section Digits

variable {c : Char} {n : Nat}

theorem toNat_of_value? (h : value? c = some n) :
    65 ≤ c.toNat ∧ c.toNat ≤ 90 ∧ n = c.toNat - 65 ∨
      97 ≤ c.toNat ∧ c.toNat ≤ 122 ∧ n = c.toNat - 71 ∨
      48 ≤ c.toNat ∧ c.toNat ≤ 57 ∧ n = c.toNat + 4 ∨ c = '+' ∧ n = 62 ∨ c = '/' ∧ n = 63 := by
  unfold value? at h
  split at h
  · rename_i hupper
    exact .inl ⟨hupper.1, hupper.2, (Option.some.inj h).symm⟩
  · split at h
    · rename_i hlower
      exact .inr (.inl ⟨hlower.1, hlower.2, (Option.some.inj h).symm⟩)
    · split at h
      · rename_i hfigure
        exact .inr (.inr (.inl ⟨hfigure.1, hfigure.2, (Option.some.inj h).symm⟩))
      · split at h
        · rename_i hplus
          exact .inr (.inr (.inr (.inl ⟨hplus, (Option.some.inj h).symm⟩)))
        · split at h
          · rename_i hslash
            exact .inr (.inr (.inr (.inr ⟨hslash, (Option.some.inj h).symm⟩)))
          · cases h

theorem lt_of_value? (h : value? c = some n) : n < 64 := by
  rcases toNat_of_value? h with h | h | h | h | h
  all_goals omega

theorem digit_of_value? (h : value? c = some n) : digit n = c := by
  unfold digit
  rcases toNat_of_value? h with ⟨hlow, hhigh, rfl⟩ | ⟨hlow, hhigh, rfl⟩ | ⟨hlow, hhigh, rfl⟩ |
    ⟨rfl, rfl⟩ | ⟨rfl, rfl⟩
  · rw [if_pos (by omega), Nat.add_sub_cancel' hlow, Char.ofNat_toNat]
  · rw [if_neg (by omega), if_pos (by omega), Nat.add_sub_cancel' (by omega), Char.ofNat_toNat]
  · rw [if_neg (by omega), if_neg (by omega), if_pos (by omega), Nat.add_sub_cancel,
      Char.ofNat_toNat]
  · rfl
  · rfl

end Digits

theorem isStandard_chars (bytes : Bytes) : IsStandard (chars bytes) := by
  induction bytes using chars.induct with
  | case1 => exact .nil
  | case2 a =>
      have ha : a.toNat < 256 := a.toNat_lt
      exact .one (value?_digit (by omega)) (value?_digit (by omega)) (by omega)
  | case3 a b =>
      have ha : a.toNat < 256 := a.toNat_lt
      have hb : b.toNat < 256 := b.toNat_lt
      exact .two (value?_digit (by omega)) (value?_digit (by omega)) (value?_digit (by omega))
        (by omega)
  | case4 a b c rest ih =>
      have ha : a.toNat < 256 := a.toNat_lt
      have hb : b.toNat < 256 := b.toNat_lt
      have hc : c.toNat < 256 := c.toNat_lt
      exact .group (value?_digit (by omega)) (value?_digit (by omega)) (value?_digit (by omega))
        (value?_digit (by omega)) ih

theorem exists_chars_eq {cs : List Char} (h : IsStandard cs) : ∃ bytes, chars bytes = cs := by
  have hbyte : ∀ n < 256, n.toUInt8.toNat = n := fun _ => UInt8.toNat_ofNat_of_lt
  induction h with
  | nil => exact ⟨[], rfl⟩
  | @one a b m n ha hb hunused =>
      have hm := lt_of_value? ha
      have hn := lt_of_value? hb
      have hoctet : (m * 4 + n / 16).toUInt8.toNat = m * 4 + n / 16 := hbyte _ (by omega)
      refine ⟨[(m * 4 + n / 16).toUInt8], ?_⟩
      rw [chars, hoctet, ← digit_of_value? ha, ← digit_of_value? hb]
      have hfirst : (m * 4 + n / 16) / 4 = m := by omega
      have hlast : (m * 4 + n / 16) % 4 * 16 = n := by omega
      rw [hfirst, hlast]
  | @two a b c l m n ha hb hc hunused =>
      have hl := lt_of_value? ha
      have hm := lt_of_value? hb
      have hn := lt_of_value? hc
      have hoctet : (l * 4 + m / 16).toUInt8.toNat = l * 4 + m / 16 := hbyte _ (by omega)
      have hoctet' : (m % 16 * 16 + n / 4).toUInt8.toNat = m % 16 * 16 + n / 4 := hbyte _ (by omega)
      refine ⟨[(l * 4 + m / 16).toUInt8, (m % 16 * 16 + n / 4).toUInt8], ?_⟩
      rw [chars, hoctet, hoctet', ← digit_of_value? ha, ← digit_of_value? hb, ← digit_of_value? hc]
      have hfirst : (l * 4 + m / 16) / 4 = l := by omega
      have hsecond : (l * 4 + m / 16) % 4 * 16 + (m % 16 * 16 + n / 4) / 16 = m := by omega
      have hlast : (m % 16 * 16 + n / 4) % 16 * 4 = n := by omega
      rw [hfirst, hsecond, hlast]
  | @group a b c d k l m n rest ha hb hc hd _ ih =>
      have hk := lt_of_value? ha
      have hl := lt_of_value? hb
      have hm := lt_of_value? hc
      have hn := lt_of_value? hd
      have hoctet : (k * 4 + l / 16).toUInt8.toNat = k * 4 + l / 16 := hbyte _ (by omega)
      have hoctet' : (l % 16 * 16 + m / 4).toUInt8.toNat = l % 16 * 16 + m / 4 := hbyte _ (by omega)
      have hoctet'' : (m % 4 * 64 + n).toUInt8.toNat = m % 4 * 64 + n := hbyte _ (by omega)
      obtain ⟨bytes, rfl⟩ := ih
      refine ⟨(k * 4 + l / 16).toUInt8 :: (l % 16 * 16 + m / 4).toUInt8 ::
        (m % 4 * 64 + n).toUInt8 :: bytes, ?_⟩
      rw [chars, hoctet, hoctet', hoctet'', ← digit_of_value? ha, ← digit_of_value? hb,
        ← digit_of_value? hc, ← digit_of_value? hd]
      have hfirst : (k * 4 + l / 16) / 4 = k := by omega
      have hsecond : (k * 4 + l / 16) % 4 * 16 + (l % 16 * 16 + m / 4) / 16 = l := by omega
      have hthird : (l % 16 * 16 + m / 4) % 16 * 4 + (m % 4 * 64 + n) / 64 = m := by omega
      have hlast : (m % 4 * 64 + n) % 64 = n := by omega
      rw [hfirst, hsecond, hthird, hlast]

theorem isStandard_iff {cs : List Char} : IsStandard cs ↔ ∃ bytes, chars bytes = cs := by
  refine ⟨exists_chars_eq, ?_⟩
  rintro ⟨bytes, rfl⟩
  exact isStandard_chars bytes

theorem encode_eq_iff_isStandard {text : LooseText} {bytes : Bytes} (h : decode text = .ok bytes) :
    encode bytes = text ↔ IsStandardText text := by
  obtain ⟨whole, rfl, -, hread⟩ := decode_eq_ok_iff.mp h
  simp only [IsStandardText, isStandard_iff, LooseText.whole.injEq]
  constructor
  · rintro rfl
    exact ⟨_, rfl, bytes, by rw [encode, String.toList_ofList]⟩
  · rintro ⟨_, rfl, written, hwritten⟩
    rw [← hwritten, read_chars] at hread
    obtain rfl := Except.ok.inj hread
    rw [encode, hwritten, String.ofList_toList]

end TransparencyLog.Base64
