import Mathlib.Data.Nat.Digits.Lemmas
import TransparencyLog.Proofs.Decimal.Numeral
import TransparencyLog.Proofs.Text.Blank

namespace TransparencyLog

namespace Decimal

variable {c : Char} {d : Nat}

theorem exists_zero_of_digitValue? (h : digitValue? c = some d) :
    ∃ first ∈ zeros, first ≤ c.toNat ∧ c.toNat < first + 10 ∧ d = c.toNat - first := by
  rw [digitValue?, Option.map_eq_some_iff] at h
  obtain ⟨first, hfind, rfl⟩ := h
  have hrange := List.find?_some hfind
  rw [decide_eq_true_eq] at hrange
  exact ⟨first, List.mem_of_find?_eq_some hfind, hrange.1, hrange.2, rfl⟩

theorem lt_ten_of_digitValue? (h : digitValue? c = some d) : d < 10 := by
  obtain ⟨first, -, hle, hlt, rfl⟩ := exists_zero_of_digitValue? h
  omega

/-- Where the digits are not: below those of ASCII, among the other signs of ASCII, and around the
white space of other scripts. -/
theorem code_of_digitValue? (h : digitValue? c = some d) :
    48 ≤ c.toNat ∧ (c.toNat < 58 ∨ 0xA0 < c.toNat) ∧ c.toNat ≠ 0x1680 ∧
      (c.toNat < 0x2000 ∨ 0x3000 < c.toNat) := by
  have hzeros : ∀ first ∈ zeros, 48 ≤ first ∧ (first = 48 ∨ 0xA0 < first) ∧
      (first + 10 ≤ 0x1680 ∨ 0x1680 < first) ∧ (first + 10 ≤ 0x2000 ∨ 0x3000 < first) := by
    decide
  obtain ⟨first, hfirst, hle, hlt, -⟩ := exists_zero_of_digitValue? h
  obtain ⟨hleast, hascii, hmark, hwide⟩ := hzeros first hfirst
  omega

theorem isWhiteSpace_of_digitValue? (h : digitValue? c = some d) : Text.isWhiteSpace c = false := by
  obtain ⟨hleast, hascii, hmark, hwide⟩ := code_of_digitValue? h
  have hblank : c ≠ ' ' := by
    rintro rfl
    exact absurd hleast (by decide)
  simp only [Text.isWhiteSpace, Text.isAsciiSpace, Text.isWideSpace, List.contains_eq_mem,
    List.mem_cons, List.not_mem_nil, or_false, Bool.or_eq_false_iff, Bool.and_eq_false_iff,
    decide_eq_false_iff_not, hblank, not_false_eq_true, true_and]
  omega

theorem ne_of_digitValue? (h : digitValue? c = some d) : c ∉ ['+', '-', '_'] := by
  obtain ⟨hleast, hascii, -, -⟩ := code_of_digitValue? h
  intro hmem
  simp only [List.mem_cons, List.not_mem_nil, or_false] at hmem
  rcases hmem with rfl | rfl | rfl <;> revert hleast hascii <;> decide

end Decimal

namespace Numeral

variable {cs : List Char} {ds : List Nat} {text : String} {m : Nat} {n : Int}

/-- Digits of any script and their values; single underscores may stand between the digits. -/
inductive SpellsDigits : List Char → List Nat → Prop
  | last {c : Char} {d : Nat} (hc : Decimal.digitValue? c = some d) : SpellsDigits [c] [d]
  | next {c : Char} {d : Nat} {cs : List Char} {ds : List Nat}
      (hc : Decimal.digitValue? c = some d) (hcs : SpellsDigits cs ds) :
      SpellsDigits (c :: cs) (d :: ds)
  | marked {c : Char} {d : Nat} {cs : List Char} {ds : List Nat}
      (hc : Decimal.digitValue? c = some d) (hcs : SpellsDigits cs ds) :
      SpellsDigits (c :: '_' :: cs) (d :: ds)

/-- The natural number that digits spell in the decimal system; more than 4300 spell none. -/
def SpellsNatural (cs : List Char) (m : Nat) : Prop :=
  ∃ ds, SpellsDigits cs ds ∧ ds.length ≤ digitLimit ∧ m = Nat.ofDigits 10 ds.reverse

/-- The integer that digits spell, with a sign in front or without. -/
inductive SpellsInteger : List Char → Int → Prop
  | unsigned {cs : List Char} {m : Nat} (h : SpellsNatural cs m) : SpellsInteger cs m
  | plus {cs : List Char} {m : Nat} (h : SpellsNatural cs m) : SpellsInteger ('+' :: cs) m
  | minus {cs : List Char} {m : Nat} (h : SpellsNatural cs m) : SpellsInteger ('-' :: cs) (-m)

/-- The integer that a text spells; white space may stand around it. -/
def Spells (text : String) (n : Int) : Prop :=
  ∃ front cs tail, text.toList = front ++ cs ++ tail ∧
    (∀ c ∈ front, Text.isWhiteSpace c = true) ∧ SpellsInteger cs n ∧
    ∀ c ∈ tail, Text.isWhiteSpace c = true

section Digits

theorem SpellsDigits.exists_head (h : SpellsDigits cs ds) :
    ∃ c rest d, cs = c :: rest ∧ Decimal.digitValue? c = some d := by
  cases h with
  | last hc => exact ⟨_, _, _, rfl, hc⟩
  | next hc _ => exact ⟨_, _, _, rfl, hc⟩
  | marked hc _ => exact ⟨_, _, _, rfl, hc⟩

theorem SpellsDigits.exists_getLast? (h : SpellsDigits cs ds) :
    ∃ c d, cs.getLast? = some c ∧ Decimal.digitValue? c = some d := by
  induction h with
  | last hc => exact ⟨_, _, rfl, hc⟩
  | next _ _ ih =>
      obtain ⟨c, d, hlast, hc⟩ := ih
      exact ⟨c, d, by rw [List.getLast?_cons, hlast, Option.getD_some], hc⟩
  | marked _ _ ih =>
      obtain ⟨c, d, hlast, hc⟩ := ih
      exact ⟨c, d, by rw [List.getLast?_cons, List.getLast?_cons, hlast, Option.getD_some,
        Option.getD_some], hc⟩

theorem SpellsDigits.lt_ten (h : SpellsDigits cs ds) : ∀ d ∈ ds, d < 10 := by
  induction h with
  | last hc => simpa using Decimal.lt_ten_of_digitValue? hc
  | next hc _ ih => exact List.forall_mem_cons.mpr ⟨Decimal.lt_ten_of_digitValue? hc, ih⟩
  | marked hc _ ih => exact List.forall_mem_cons.mpr ⟨Decimal.lt_ten_of_digitValue? hc, ih⟩

theorem spellsDigits_of_digitValues? (h : digitValues? cs = some ds) : SpellsDigits cs ds := by
  induction cs using digitValues?.induct generalizing ds with
  | case1 => cases h
  | case2 c =>
      obtain ⟨d, hc, rfl⟩ := Option.map_eq_some_iff.mp h
      exact .last hc
  | case3 c rest ih =>
      simp only [digitValues?, Option.bind_eq_bind, Option.bind_eq_some_iff] at h
      obtain ⟨d, hc, values, hvalues, heq⟩ := h
      obtain rfl := Option.some.inj heq
      exact .marked hc (ih hvalues)
  | case4 c rest hsingle hmark ih =>
      rw [digitValues?.eq_4 c rest hsingle hmark] at h
      simp only [Option.bind_eq_bind, Option.bind_eq_some_iff] at h
      obtain ⟨d, hc, values, hvalues, heq⟩ := h
      obtain rfl := Option.some.inj heq
      exact .next hc (ih hvalues)

theorem digitValues?_of_spellsDigits (h : SpellsDigits cs ds) : digitValues? cs = some ds := by
  induction h with
  | last hc =>
      rw [digitValues?, hc]
      rfl
  | next hc hcs ih =>
      obtain ⟨c, rest, d, rfl, hhead⟩ := hcs.exists_head
      have hmark : c ≠ '_' := fun heq => Decimal.ne_of_digitValue? hhead (by simp [heq])
      rw [digitValues?.eq_4 _ _ (by simp) (by simp [hmark]), hc, ih]
      rfl
  | marked hc _ ih =>
      rw [digitValues?, hc, ih]
      rfl

theorem digitValues?_eq_some_iff : digitValues? cs = some ds ↔ SpellsDigits cs ds :=
  ⟨spellsDigits_of_digitValues?, digitValues?_of_spellsDigits⟩

end Digits

theorem foldl_eq_ofDigits (ds : List Nat) :
    ds.foldl (fun n d => 10 * n + d) 0 = Nat.ofDigits 10 ds.reverse := by
  rw [Nat.ofDigits_eq_foldr, List.foldr_reverse]
  simp only [Nat.cast_id, Nat.add_comm]

theorem ofDigitValues?_eq_some_iff :
    ofDigitValues? ds = some m ↔ ds.length ≤ digitLimit ∧ m = Nat.ofDigits 10 ds.reverse := by
  rw [ofDigitValues?, foldl_eq_ofDigits, Option.ite_none_right_eq_some, Option.some.injEq]
  exact and_congr_right fun _ => eq_comm

theorem length_digits_ofDigits_le {limit : Nat} (hlimit : 0 < limit) (hds : ∀ d ∈ ds, d < 10)
    (h : ds.length ≤ limit) : (digits (Nat.ofDigits 10 ds)).length ≤ limit := by
  rw [length_digits_le_iff hlimit]
  calc
    Nat.ofDigits 10 ds < 10 ^ ds.length := Nat.ofDigits_lt_base_pow_length (by decide) hds
    _ ≤ 10 ^ limit := Nat.pow_le_pow_right (by decide) h

theorem SpellsNatural.isShort (h : SpellsNatural cs m) : IsShort m := by
  obtain ⟨ds, hds, hlimit, rfl⟩ := h
  refine length_digits_ofDigits_le (by decide) ?_ (by rwa [List.length_reverse])
  exact fun d hd => hds.lt_ten d (List.mem_reverse.mp hd)

theorem signed_eq_some_iff (sign : Nat → Int) (cs : List Char) :
    (do
      let values ← digitValues? cs
      let m ← ofDigitValues? values
      return sign m) = some n ↔ ∃ m, SpellsNatural cs m ∧ sign m = n := by
  simp only [Option.bind_eq_bind, Option.bind_eq_some_iff, Option.pure_def, Option.some.injEq,
    digitValues?_eq_some_iff, ofDigitValues?_eq_some_iff]
  constructor
  · rintro ⟨ds, hds, m, ⟨hlimit, hm⟩, heq⟩
    exact ⟨m, ⟨ds, hds, hlimit, hm⟩, heq⟩
  · rintro ⟨m, ⟨ds, hds, hlimit, hm⟩, heq⟩
    exact ⟨ds, hds, m, ⟨hlimit, hm⟩, heq⟩

section Integers

theorem SpellsNatural.exists_head (h : SpellsNatural cs m) :
    ∃ c rest, cs = c :: rest ∧ c ∉ ['+', '-', '_'] ∧ Text.isWhiteSpace c = false := by
  obtain ⟨ds, hds, -, -⟩ := h
  obtain ⟨c, rest, d, rfl, hc⟩ := hds.exists_head
  exact ⟨c, rest, rfl, Decimal.ne_of_digitValue? hc, Decimal.isWhiteSpace_of_digitValue? hc⟩

theorem SpellsNatural.isTrimmed (h : SpellsNatural cs m) :
    Text.IsTrimmed Text.isWhiteSpace cs := by
  obtain ⟨c, rest, rfl, -, hhead⟩ := h.exists_head
  obtain ⟨ds, hds, -, -⟩ := h
  obtain ⟨last, d, hlast, hc⟩ := hds.exists_getLast?
  refine ⟨by simpa using hhead, ?_⟩
  rw [hlast]
  simpa using Decimal.isWhiteSpace_of_digitValue? hc

theorem SpellsNatural.isTrimmed_cons {sign : Char} (hsign : Text.isWhiteSpace sign = false)
    (h : SpellsNatural cs m) : Text.IsTrimmed Text.isWhiteSpace (sign :: cs) := by
  refine ⟨by simpa using hsign, ?_⟩
  obtain ⟨c, rest, rfl, -, -⟩ := h.exists_head
  rw [List.getLast?_cons_cons]
  exact h.isTrimmed.last

theorem SpellsInteger.isTrimmed (h : SpellsInteger cs n) :
    Text.IsTrimmed Text.isWhiteSpace cs := by
  cases h with
  | unsigned h => exact h.isTrimmed
  | plus h => exact h.isTrimmed_cons (by decide)
  | minus h => exact h.isTrimmed_cons (by decide)

theorem Spells.trim (h : Spells text n) :
    SpellsInteger (Text.trim Text.isWhiteSpace text.toList) n := by
  obtain ⟨front, cs, tail, heq, hfront, hcs, htail⟩ := h
  rwa [heq, Text.trim_append hfront hcs.isTrimmed htail]

theorem spells_of_trim (h : SpellsInteger (Text.trim Text.isWhiteSpace text.toList) n) :
    Spells text n := by
  obtain ⟨front, tail, hfront, htail, heq⟩ :=
    Text.exists_eq_append_trim Text.isWhiteSpace text.toList
  exact ⟨front, _, tail, heq, hfront, h, htail⟩

theorem parse?_eq_some_iff : parse? text = some n ↔ Spells text n := by
  constructor
  · intro h
    apply spells_of_trim
    rw [parse?] at h
    split at h
    · rename_i rest htrim
      rw [htrim]
      obtain ⟨m, hm, rfl⟩ := (signed_eq_some_iff (fun m => -(m : Int)) rest).mp h
      exact .minus hm
    · rename_i rest htrim
      rw [htrim]
      obtain ⟨m, hm, rfl⟩ := (signed_eq_some_iff (fun m => (m : Int)) rest).mp h
      exact .plus hm
    · obtain ⟨m, hm, rfl⟩ := (signed_eq_some_iff (fun m => (m : Int)) _).mp h
      exact .unsigned hm
  · intro h
    have htrim := h.trim
    rw [parse?]
    generalize Text.trim Text.isWhiteSpace text.toList = cs at htrim
    cases htrim with
    | minus hm => exact (signed_eq_some_iff (fun m => -(m : Int)) _).mpr ⟨_, hm, rfl⟩
    | plus hm => exact (signed_eq_some_iff (fun m => (m : Int)) _).mpr ⟨_, hm, rfl⟩
    | unsigned hm =>
        obtain ⟨c, rest, rfl, hsign, -⟩ := hm.exists_head
        split
        · rename_i heq
          simp [(List.cons.inj heq).1] at hsign
        · rename_i heq
          simp [(List.cons.inj heq).1] at hsign
        · exact (signed_eq_some_iff (fun m => (m : Int)) _).mpr ⟨_, hm, rfl⟩

theorem Spells.isShort (h : Spells text n) : IsShort n.natAbs := by
  obtain ⟨front, cs, tail, -, -, hcs, -⟩ := h
  cases hcs with
  | unsigned h => exact h.isShort
  | plus h => exact h.isShort
  | minus h =>
      rw [Int.natAbs_neg]
      exact h.isShort

end Integers

end Numeral

end TransparencyLog
