import Mathlib.Tactic.IntervalCases
import TransparencyLog.Json.Reader
import TransparencyLog.Proofs.Decimal.Numeral

namespace TransparencyLog.Json

theorem digit?_char (c : Char) : digit? (.char c) = if c.isDigit then some c else none := by
  rw [Numeral.isDigit_eq_decide]
  exact Option.filter_some

/-- What may follow a value: nothing that would make a number longer. -/
def EndsNumber (rest : List CodePoint) : Prop :=
  ∀ c : Char, rest.head? = some (.char c) → c.isDigit = false ∧ c ∉ ['.', 'e', 'E']

section Digits

variable {rest : List CodePoint} (hrest : EndsNumber rest)

include hrest

theorem digit?_of_ends {code : CodePoint} {tail : List CodePoint} (h : rest = code :: tail) :
    digit? code = none := by
  cases code with
  | half part => rfl
  | char c => rw [digit?_char, (hrest c (by rw [h]; rfl)).1, if_neg (by simp)]

theorem leadingDigits_append {digits : List Char} (h : ∀ c ∈ digits, c.isDigit = true) :
    leadingDigits (digits.map .char ++ rest) = digits := by
  induction digits with
  | nil =>
      cases rest with
      | nil => rfl
      | cons code tail => simp [leadingDigits, digit?_of_ends hrest rfl]
  | cons c digits ih =>
      have hc : digit? (.char c) = some c := by rw [digit?_char, if_pos (h c (by simp))]
      have ih := ih fun d hd => h d (by simp [hd])
      simp only [leadingDigits, List.map_cons, List.cons_append] at ih ⊢
      rw [List.takeWhile_cons_of_pos (by simp [hc]), List.filterMap_cons_some hc, ih]

theorem afterDigits_append {digits : List Char} (h : ∀ c ∈ digits, c.isDigit = true) :
    afterDigits (digits.map .char ++ rest) = rest := by
  have hdigits : ∀ code ∈ digits.map CodePoint.char, (digit? code).isSome = true := by
    intro code hcode
    obtain ⟨c, hc, rfl⟩ := List.mem_map.mp hcode
    rw [digit?_char, if_pos (h c hc)]
    rfl
  rw [afterDigits, List.dropWhile_append_of_pos hdigits]
  cases rest with
  | nil => simp
  | cons code tail => simp [digit?_of_ends hrest rfl]

theorem wholeDigits?_append (n : Nat) :
    wholeDigits? ((Numeral.digits n).map .char ++ rest) = some (Numeral.digits n, rest) := by
  rcases Nat.eq_zero_or_pos n with rfl | hpositive
  · rfl
  · obtain ⟨c, tail, heq, hne⟩ := Numeral.exists_digits_eq_cons hpositive
    have hdigits : ∀ d ∈ c :: tail, d.isDigit = true := fun d hd =>
      Numeral.isDigit_of_mem_digits (heq ▸ hd)
    rw [heq, List.map_cons, List.cons_append, wholeDigits?]
    · rw [digit?_char, if_pos (hdigits c (by simp)),
        leadingDigits_append hrest fun d hd => hdigits d (by simp [hd]),
        afterDigits_append hrest fun d hd => hdigits d (by simp [hd])]
      rfl
    · simpa using hne

theorem places_of_ends : places rest = ([], rest) := by
  unfold places
  split
  · exact absurd (by simp) (hrest '.' rfl).2
  · rfl

theorem exponent?_of_ends : exponent? rest = none := by
  unfold exponent?
  split
  · rename_i e rest
    rw [if_neg]
    rintro (rfl | rfl)
    · exact absurd (by simp) (hrest 'e' rfl).2
    · exact absurd (by simp) (hrest 'E' rfl).2
  · rfl

theorem readNumber_digits {n : Nat} (hlength : (Numeral.digits n).length ≤ Numeral.digitLimit)
    (start : List CodePoint) (negative : Bool) :
    readNumber start negative ((Numeral.digits n).map .char ++ rest) =
      .ok (.int (if negative then -(n : Int) else n), rest) := by
  rw [readNumber, wholeDigits?_append hrest]
  dsimp only
  rw [places_of_ends hrest]
  dsimp only
  rw [exponent?_of_ends hrest]
  dsimp only
  rw [if_pos (by simp), Numeral.read_digits, if_pos hlength]

end Digits

theorem readAtom_digit {c : Char} (hc : c.isDigit = true) (rest : List CodePoint) :
    readAtom (.char c :: rest) = readNumber (.char c :: rest) false (.char c :: rest) := by
  obtain ⟨d, hd, rfl⟩ := Numeral.exists_eq_digitChar hc
  interval_cases d <;> rfl

theorem readAtom_minus {c : Char} (hc : c.isDigit = true) (rest : List CodePoint) :
    readAtom (.char '-' :: .char c :: rest) =
      readNumber (.char '-' :: .char c :: rest) true (.char c :: rest) := by
  obtain ⟨d, hd, rfl⟩ := Numeral.exists_eq_digitChar hc
  interval_cases d <;> rfl

theorem exists_digits_eq (n : Nat) :
    ∃ c tail, Numeral.digits n = c :: tail ∧ c.isDigit = true := by
  cases heq : Numeral.digits n with
  | nil => simp [Numeral.digits] at heq
  | cons c tail => exact ⟨c, tail, rfl, Numeral.isDigit_of_mem_digits (n := n) (by simp [heq])⟩

theorem readAtom_append {n : Int} {cs : List Char} {rest : List CodePoint}
    (h : Numeral.write n = .ok cs) (hrest : EndsNumber rest) :
    readAtom (cs.map .char ++ rest) = .ok (.int n, rest) := by
  obtain ⟨hlength, rfl⟩ := Numeral.write_eq_ok_iff.mp h
  obtain ⟨c, tail, heq, hc⟩ := exists_digits_eq n.natAbs
  rw [Numeral.chars]
  split
  · rename_i hnegative
    have hvalue : -(n.natAbs : Int) = n := by omega
    rw [heq, List.map_cons, List.map_cons, List.cons_append, List.cons_append, readAtom_minus hc,
      ← List.cons_append, ← List.map_cons, ← heq, readNumber_digits hrest hlength, if_pos rfl,
      hvalue]
  · rename_i hpositive
    have hvalue : (n.natAbs : Int) = n := by omega
    rw [heq, List.map_cons, List.cons_append, readAtom_digit hc, ← List.cons_append,
      ← List.map_cons, ← heq, readNumber_digits hrest hlength, if_neg (by simp), hvalue]

theorem exists_cons_of_write {n : Int} {cs : List Char} (h : Numeral.write n = .ok cs) :
    ∃ c tail, cs = c :: tail ∧ isGap (.char c) = false ∧ c ∉ [']', '"', '[', '\x7b'] ∧
      c.toNat < 128 := by
  obtain rfl := Numeral.eq_chars_of_write h
  obtain ⟨c, tail, heq, hc⟩ := exists_digits_eq n.natAbs
  rw [Numeral.chars, heq]
  split
  · exact ⟨_, _, rfl, by decide, by decide, by decide⟩
  · refine ⟨_, _, rfl, ?_⟩
    obtain ⟨d, hd, rfl⟩ := Numeral.exists_eq_digitChar hc
    interval_cases d <;> decide

end TransparencyLog.Json
