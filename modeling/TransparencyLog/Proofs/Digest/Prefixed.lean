import TransparencyLog.Digest.Prefixed
import TransparencyLog.Proofs.Bytes.Hex
import Mathlib.Data.List.Basic

namespace TransparencyLog

namespace Hex

/-- A lower-case hexadecimal digit. -/
def IsLower (c : Char) : Prop :=
  ('0' ≤ c ∧ c ≤ '9') ∨ ('a' ≤ c ∧ c ≤ 'f')

variable {c : Char} {cs : List Char}

theorem isLower_digit {n : Nat} (h : n < 16) : IsLower (digit n) := by
  revert n
  simp only [IsLower]
  decide

theorem exists_eq_digit (h : IsLower c) : ∃ n < 16, c = digit n := by
  simp only [IsLower, Char.le_def, UInt32.le_iff_toNat_le] at h
  have hrange : (48 ≤ c.toNat ∧ c.toNat ≤ 57) ∨ (97 ≤ c.toNat ∧ c.toNat ≤ 102) := h
  rcases hrange with ⟨hlow, hhigh⟩ | ⟨hlow, hhigh⟩
  · refine ⟨c.toNat - 48, by omega, ?_⟩
    rw [digit, if_pos (by omega), Nat.add_sub_cancel' hlow, Char.ofNat_toNat]
  · refine ⟨c.toNat - 87, by omega, ?_⟩
    rw [digit, if_neg (by omega), Nat.add_sub_cancel' (by omega), Char.ofNat_toNat]

theorem isLower_of_mem_chars {bytes : Bytes} (h : c ∈ chars bytes) : IsLower c := by
  obtain ⟨b, -, hc⟩ := List.mem_flatMap.mp h
  have hb : b.toNat < 256 := b.toNat_lt
  simp only [ofOctet, List.mem_cons, List.not_mem_nil, or_false] at hc
  rcases hc with rfl | rfl
  · exact isLower_digit (by omega)
  · exact isLower_digit (by omega)

theorem length_chars (bytes : Bytes) : (chars bytes).length = 2 * bytes.length := by
  induction bytes with
  | nil => rfl
  | cons b bytes ih =>
      have hchars : chars (b :: bytes) = ofOctet b ++ chars bytes := rfl
      rw [hchars, List.length_append, ih, ofOctet, List.length_cons]
      simp
      omega

theorem exists_chars_eq {count : Nat} (hlength : cs.length = 2 * count)
    (hcs : ∀ c ∈ cs, IsLower c) : ∃ bytes, bytes.length = count ∧ chars bytes = cs := by
  induction count generalizing cs with
  | zero => exact ⟨[], rfl, (List.eq_nil_of_length_eq_zero hlength).symm⟩
  | succ count ih =>
      obtain _ | ⟨high, _ | ⟨low, rest⟩⟩ := cs
      · simp at hlength
      · simp only [List.length_cons, List.length_nil] at hlength
        omega
      · have hrest : rest.length = 2 * count := by
          simp only [List.length_cons] at hlength
          omega
        obtain ⟨bytes, hbytes, rfl⟩ := ih hrest fun c hc => hcs c (by simp [hc])
        obtain ⟨h, hh, rfl⟩ := exists_eq_digit (hcs high (by simp))
        obtain ⟨l, hl, rfl⟩ := exists_eq_digit (hcs low (by simp))
        have hoctet : (16 * h + l).toUInt8.toNat = 16 * h + l :=
          UInt8.toNat_ofNat_of_lt (Nat.lt_of_lt_of_le (by omega) (Nat.le_refl 256))
        refine ⟨(16 * h + l).toUInt8 :: bytes, by simp [hbytes], ?_⟩
        have hhigh : (16 * h + l) / 16 = h := by omega
        have hlow : (16 * h + l) % 16 = l := by omega
        have hchars : chars ((16 * h + l).toUInt8 :: bytes) =
            ofOctet (16 * h + l).toUInt8 ++ chars bytes := rfl
        rw [hchars, ofOctet, hoctet, hhigh, hlow]
        rfl

end Hex

namespace PrefixedDigest

/-- The text of a digest: its name, a colon, sixty-four lower-case digits, and nothing else. -/
def IsText (text : String) : Prop :=
  ∃ digits : List Char, text.toList = "sha256:".toList ++ digits ∧ digits.length = 64 ∧
    ∀ c ∈ digits, Hex.IsLower c

/-- A text that is taken for that of a digest: it is one, or one with a line feed after it. -/
def IsTaken (text : String) : Prop :=
  IsText text ∨ ∃ front, IsText front ∧ text = front ++ "\n"

variable {text : String} {digits : List Char}

theorem isText_iff :
    IsText text ↔ ∃ digest : Bytes, digest.length = 32 ∧ ofOctets digest = text := by
  constructor
  · rintro ⟨digits, htext, hlength, hdigits⟩
    have hpairs : digits.length = 2 * 32 := hlength
    obtain ⟨digest, hdigest, rfl⟩ := Hex.exists_chars_eq hpairs hdigits
    refine ⟨digest, hdigest, String.toList_inj.mp ?_⟩
    rw [ofOctets, Hex.encode, String.toList_append, String.toList_ofList, htext]
    rfl
  · rintro ⟨digest, hdigest, rfl⟩
    refine ⟨Hex.chars digest, ?_, ?_, fun c hc => Hex.isLower_of_mem_chars hc⟩
    · rw [ofOctets, Hex.encode, String.toList_append, String.toList_ofList]
      rfl
    · rw [Hex.length_chars, hdigest]

theorem isDigit_iff {c : Char} : isDigit c = true ↔ Hex.IsLower c := by
  simp [isDigit, Hex.IsLower]

theorem digits?_eq_some_iff :
    digits? text = some digits ↔ digits.length = 64 ∧ (∀ c ∈ digits, Hex.IsLower c) ∧
      ∃ tail, text.toList = "sha256:".toList ++ (digits ++ tail) ∧ (tail = [] ∨ tail = ['\n']) := by
  constructor
  · intro h
    unfold digits? at h
    split at h
    · cases h
    · rename_i rest hrest
      dsimp only at h
      split at h
      · rename_i hdigits
        obtain ⟨hlength, hall, htail⟩ := hdigits
        obtain rfl := Option.some.inj h
        refine ⟨hlength, fun c hc => isDigit_iff.mp (List.all_eq_true.mp hall c hc),
          rest.drop 64, ?_, htail⟩
        rw [List.take_append_drop]
        exact (List.isPrefixOf?_eq_some_iff_append_eq.mp hrest).symm
      · cases h
  · rintro ⟨hlength, hdigits, tail, htext, htail⟩
    have hrest : label.toList.isPrefixOf? text.toList = some (digits ++ tail) :=
      List.isPrefixOf?_eq_some_iff_append_eq.mpr htext.symm
    have hall : digits.all isDigit = true :=
      List.all_eq_true.mpr fun c hc => isDigit_iff.mpr (hdigits c hc)
    rw [digits?, hrest]
    dsimp only
    rw [← hlength, List.take_left, List.drop_left, if_pos ⟨rfl, hall, htail⟩]

/-- The texts that are accepted are those of digests, and each of these with a line feed after
it. -/
theorem accepts_iff : accepts text = true ↔ IsTaken text := by
  rw [accepts, Option.isSome_iff_exists]
  simp only [digits?_eq_some_iff]
  constructor
  · rintro ⟨digits, hlength, hdigits, tail, htext, rfl | rfl⟩
    · rw [List.append_nil] at htext
      exact .inl ⟨digits, htext, hlength, hdigits⟩
    · refine .inr ⟨String.ofList ("sha256:".toList ++ digits), ⟨digits, ?_, hlength, hdigits⟩, ?_⟩
      · rw [String.toList_ofList]
      · rw [← String.toList_inj, String.toList_append, String.toList_ofList, htext,
          List.append_assoc]
        rfl
  · rintro (⟨digits, htext, hlength, hdigits⟩ | ⟨front, ⟨digits, hfront, hlength, hdigits⟩, rfl⟩)
    · exact ⟨digits, hlength, hdigits, [], by rw [List.append_nil, htext], .inl rfl⟩
    · refine ⟨digits, hlength, hdigits, ['\n'], ?_, .inr rfl⟩
      rw [String.toList_append, hfront, List.append_assoc]
      rfl

theorem getLast?_of_isText (h : IsText text) : text.toList.getLast? ≠ some '\n' := by
  obtain ⟨digits, htext, hlength, hdigits⟩ := h
  intro hlast
  have hne : digits ≠ [] := by
    rintro rfl
    simp at hlength
  rw [htext, List.getLast?_append_of_ne_nil _ hne] at hlast
  have hmem : '\n' ∈ digits := List.mem_of_getLast? hlast
  exact absurd (hdigits '\n' hmem) (by simp only [Hex.IsLower]; decide)

theorem isTaken_iff_isText (h : text.toList.getLast? ≠ some '\n') : IsTaken text ↔ IsText text := by
  constructor
  · rintro (htext | ⟨front, -, rfl⟩)
    · exact htext
    · refine absurd ?_ h
      rw [String.toList_append]
      exact List.getLast?_concat
  · exact .inl

end PrefixedDigest

end TransparencyLog
