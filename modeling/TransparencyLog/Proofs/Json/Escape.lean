import TransparencyLog.Json.Escape
import TransparencyLog.Json.Reader
import TransparencyLog.Proofs.Bytes.Hex
import TransparencyLog.Proofs.Text.Loose

namespace TransparencyLog.Json

open CodePoint

variable {charset : Charset} {backslash opening done rest : List CodePoint} {next : CodePoint}

theorem exists_append_eq_cons (cs : List CodePoint) (code : CodePoint) (rest : List CodePoint) :
    ∃ next more, cs ++ code :: rest = next :: more := by
  cases cs with
  | nil => exact ⟨_, _, rfl⟩
  | cons next more => exact ⟨_, _, rfl⟩

theorem exists_padded_eq {n : Nat} (h : n < 0x10000) :
    ∃ a b c d : Char, Hex.padded 4 n = [a, b, c, d] ∧ unit? a b c d = some n := by
  refine ⟨_, _, _, _, rfl, ?_⟩
  simp only [unit?, digitValue?, char?_char, Option.bind_some]
  rw [Hex.value?_digit (by omega), Hex.value?_digit (by omega), Hex.value?_digit (by omega),
    Hex.value?_digit (by omega)]
  simp only [Option.bind_eq_bind, Option.bind_some, Option.pure_def, Option.some.injEq]
  omega

theorem ofNat_toNat (c : Char) : CodePoint.ofNat c.toNat = .char c := by
  have hvalid : c.toNat < 0xD800 ∨ 0xDFFF < c.toNat ∧ c.toNat < 0x110000 := c.valid
  rw [CodePoint.ofNat, dif_neg (by omega), Char.ofNat_toNat]

theorem ofNat_code (part : Half) : CodePoint.ofNat part.code = .half part := by
  rw [CodePoint.ofNat, dif_pos part.isHalf]

theorem isHigh_toNat (c : Char) : isHigh c.toNat = false := by
  have hvalid : c.toNat < 0xD800 ∨ 0xDFFF < c.toNat ∧ c.toNat < 0x110000 := c.valid
  simp only [isHigh, Bool.and_eq_false_iff, decide_eq_false_iff_not]
  omega

theorem isLow_toNat (c : Char) : isLow c.toNat = false := by
  have hvalid : c.toNat < 0xD800 ∨ 0xDFFF < c.toNat ∧ c.toNat < 0x110000 := c.valid
  simp only [isLow, Bool.and_eq_false_iff, decide_eq_false_iff_not]
  omega

theorem isHigh_code (part : Half) : isHigh part.code = part.isFirst := by
  have hhalf := part.isHalf
  simp only [isHigh, Half.isFirst]
  rw [decide_eq_true hhalf.1, Bool.true_and]

theorem isLow_code (part : Half) : isLow part.code = !part.isFirst := by
  have hhalf := part.isHalf
  simp only [isLow, Half.isFirst]
  rw [decide_eq_true hhalf.2, Bool.and_true, ← decide_not, decide_eq_decide]
  omega

theorem paired_halves {c : Char} (h : 0x10000 ≤ c.toNat) :
    paired (0xD800 + (c.toNat - 0x10000) / 0x400) (0xDC00 + (c.toNat - 0x10000) % 0x400) = c := by
  have hnumber : 0x10000 + (0xD800 + (c.toNat - 0x10000) / 0x400 - 0xD800) * 0x400 +
      (0xDC00 + (c.toNat - 0x10000) % 0x400 - 0xDC00) = c.toNat := by omega
  rw [paired, hnumber, Char.ofNat_toNat]

theorem isHigh_highHalf (c : Char) :
    isHigh (0xD800 + (c.toNat - 0x10000) / 0x400) = true := by
  have hvalid : c.toNat < 0xD800 ∨ 0xDFFF < c.toNat ∧ c.toNat < 0x110000 := c.valid
  simp only [isHigh, Bool.and_eq_true, decide_eq_true_eq]
  omega

theorem isLow_lowHalf (c : Char) : isLow (0xDC00 + (c.toNat - 0x10000) % 0x400) = true := by
  simp only [isLow, Bool.and_eq_true, decide_eq_true_eq]
  omega

theorem lt_of_isHigh {n : Nat} (h : isHigh n = true) : n < 0x10000 ∧ isLow n = false := by
  simp only [isHigh, isLow, Bool.and_eq_true, Bool.and_eq_false_iff, decide_eq_true_eq,
    decide_eq_false_iff_not] at h ⊢
  omega

theorem lt_of_isLow {n : Nat} (h : isLow n = true) : n < 0x10000 := by
  simp only [isLow, Bool.and_eq_true, decide_eq_true_eq] at h
  omega

theorem secondHalf?_unitEscape {n : Nat} (hn : n < 0x10000) :
    secondHalf? ((unitEscape n).map .char ++ next :: rest) =
      .ok (if isLow n then some (n, next :: rest) else none) := by
  obtain ⟨x, y, z, w, heq, hunit⟩ := exists_padded_eq hn
  rw [unitEscape, heq]
  simp only [List.cons_append, List.nil_append, List.map_cons, List.map_nil]
  rw [secondHalf?, hunit]

theorem readEscape_unit {n : Nat} (hn : n < 0x10000)
    (h : isHigh n = true → secondHalf? (next :: rest) = .ok none) :
    readEscape backslash ('u' :: ((Hex.padded 4 n).map .char ++ next :: rest)) =
      .ok (.ofNat n, next :: rest) := by
  obtain ⟨x, y, z, w, heq, hunit⟩ := exists_padded_eq hn
  rw [heq]
  simp only [List.cons_append, List.nil_append, List.map_cons, List.map_nil]
  rw [readEscape, hunit]
  dsimp only
  split
  · rename_i hhigh
    rw [h hhigh]
  · rfl

theorem readEscape_pair {high low : Nat} (hhigh : isHigh high = true) (hlow : isLow low = true) :
    readEscape backslash
        ('u' :: ((Hex.padded 4 high).map .char ++ ((unitEscape low).map .char ++ next :: rest))) =
      .ok (.char (paired high low), next :: rest) := by
  obtain ⟨x, y, z, w, heq, hunit⟩ := exists_padded_eq (lt_of_isHigh hhigh).1
  have hsecond := @secondHalf?_unitEscape rest next low (lt_of_isLow hlow)
  rw [if_pos hlow] at hsecond
  obtain ⟨first, more, hmore⟩ := exists_append_eq_cons ((unitEscape low).map .char) next rest
  rw [hmore] at hsecond ⊢
  rw [heq]
  simp only [List.cons_append, List.nil_append, List.map_cons, List.map_nil]
  rw [readEscape, hunit]
  dsimp only
  rw [if_pos hhigh, hsecond]

/-- The escape of a character is read as the character: those beyond the first 65536 are read from
the two halves of their pair. -/
theorem exists_codeEscape (c : Char) :
    ∃ escape, codeEscape c.toNat = '\\' :: escape ∧ ∀ backslash next rest,
      readEscape backslash (escape.map .char ++ next :: rest) = .ok (.char c, next :: rest) := by
  rw [codeEscape]
  split
  · rename_i hlt
    refine ⟨'u' :: Hex.padded 4 c.toNat, rfl, fun backslash next rest => ?_⟩
    rw [List.map_cons, List.cons_append, readEscape_unit hlt (by simp [isHigh_toNat]), ofNat_toNat]
  · refine ⟨'u' :: (Hex.padded 4 (0xD800 + (c.toNat - 0x10000) / 0x400) ++
      unitEscape (0xDC00 + (c.toNat - 0x10000) % 0x400)), by simp [unitEscape],
      fun backslash next rest => ?_⟩
    rw [List.map_cons, List.map_append, List.cons_append, List.append_assoc,
      readEscape_pair (isHigh_highHalf c) (isLow_lowHalf c), paired_halves (by omega)]

theorem readString_plain {code : CodePoint} (hquote : code ≠ .char '"')
    (hbackslash : code ≠ .char '\\') (hcontrol : ¬ code.toNat < 32) :
    readString opening done (code :: rest) = readString opening (code :: done) rest := by
  rw [readString]
  · rw [if_neg hcontrol]
  · exact hquote
  · exact hbackslash

theorem readString_backslash {escape left : List CodePoint} {code : CodePoint}
    (h : readEscape (.char '\\' :: escape) escape = .ok (code, left)) :
    readString opening done (.char '\\' :: escape) = readString opening (code :: done) left := by
  cases escape with
  | nil => simp [readEscape] at h
  | cons first escape =>
      rw [readString]
      dsimp only [List.isEmpty_cons]
      rw [if_neg (by simp)]
      split
      · rename_i hread
        rw [h] at hread
        cases hread
      · rename_i hread
        rw [h] at hread
        cases hread
        rfl

theorem exists_escapeChar (charset : Charset) (c : Char) :
    (escapeChar charset c = [c] ∧ c ≠ '"' ∧ c ≠ '\\' ∧ ¬ c.toNat < 32) ∨
      ∃ escape, escapeChar charset c = '\\' :: escape ∧ ∀ backslash next rest,
        readEscape backslash (escape.map .char ++ next :: rest) = .ok (.char c, next :: rest) := by
  fun_cases escapeChar charset c with
  | case1 =>
      subst_vars
      exact .inr ⟨['"'], rfl, fun _ _ _ => rfl⟩
  | case2 =>
      subst_vars
      exact .inr ⟨['\\'], rfl, fun _ _ _ => rfl⟩
  | case3 =>
      subst_vars
      exact .inr ⟨['n'], rfl, fun _ _ _ => rfl⟩
  | case4 =>
      subst_vars
      exact .inr ⟨['r'], rfl, fun _ _ _ => rfl⟩
  | case5 =>
      subst_vars
      exact .inr ⟨['t'], rfl, fun _ _ _ => rfl⟩
  | case6 _ _ _ _ _ _ hc =>
      obtain rfl : c = '\x0c' := Char.toNat_inj.mp hc
      exact .inr ⟨['f'], rfl, fun _ _ _ => rfl⟩
  | case7 _ _ _ _ _ _ _ hc =>
      obtain rfl : c = '\x08' := Char.toNat_inj.mp hc
      exact .inr ⟨['b'], rfl, fun _ _ _ => rfl⟩
  | case8 =>
      have hunit : unitEscape c.toNat = codeEscape c.toNat := by
        rw [codeEscape, if_pos (by omega)]
      rw [hunit]
      exact .inr (exists_codeEscape c)
  | case9 hquote hbackslash _ _ _ _ _ hcontrol => exact .inl ⟨rfl, hquote, hbackslash, hcontrol⟩
  | case10 hquote hbackslash _ _ _ _ _ hcontrol => exact .inl ⟨rfl, hquote, hbackslash, hcontrol⟩
  | case11 => exact .inr (exists_codeEscape c)

theorem secondHalf?_escapeChar (c : Char) :
    secondHalf? ((escapeChar charset c).map .char ++ next :: rest) = .ok none := by
  have hunit : c.toNat < 0x10000 →
      secondHalf? ((unitEscape c.toNat).map .char ++ next :: rest) = .ok none := by
    intro hlt
    rw [secondHalf?_unitEscape hlt, isLow_toNat, if_neg (by simp)]
  have hcode : secondHalf? ((codeEscape c.toNat).map .char ++ next :: rest) = .ok none := by
    rw [codeEscape]
    split
    · exact hunit ‹_›
    · obtain ⟨hlt, hlow⟩ := lt_of_isHigh (isHigh_highHalf c)
      obtain ⟨first, more, hmore⟩ := exists_append_eq_cons
        ((unitEscape (0xDC00 + (c.toNat - 0x10000) % 0x400)).map .char) next rest
      rw [List.map_append, List.append_assoc, hmore, secondHalf?_unitEscape hlt, hlow,
        if_neg (by simp)]
  have hplain : c ≠ '\\' → secondHalf? (.char c :: next :: rest) = .ok none := by
    intro hc
    rw [secondHalf?]
    simp [hc]
  fun_cases escapeChar charset c with
  | case8 => exact hunit (by omega)
  | case9 _ hbackslash => exact hplain hbackslash
  | case10 _ hbackslash => exact hplain hbackslash
  | case11 => exact hcode
  | _ => rfl

theorem secondHalf?_escape {code : CodePoint}
    (h : ∀ part, code = .half part → part.isFirst = true) :
    secondHalf? (escape charset code ++ next :: rest) = .ok none := by
  cases code with
  | char c => exact secondHalf?_escapeChar c
  | half part =>
      cases charset with
      | unicode => rfl
      | ascii =>
          have hhalf := part.isHalf
          have hlow : isLow part.code = false := by rw [isLow_code, h part rfl]; rfl
          rw [escape, secondHalf?_unitEscape (by omega), hlow, if_neg (by simp)]

theorem readString_escape {code : CodePoint}
    (h : ∀ part, code = .half part → part.isFirst = true → secondHalf? (next :: rest) = .ok none) :
    readString opening done (escape charset code ++ next :: rest) =
      readString opening (code :: done) (next :: rest) := by
  cases code with
  | char c =>
      rw [escape]
      rcases exists_escapeChar charset c with
        ⟨heq, hquote, hbackslash, hcontrol⟩ | ⟨escape, heq, hread⟩
      · have hquote' : CodePoint.char c ≠ .char '"' := by simpa using hquote
        have hbackslash' : CodePoint.char c ≠ .char '\\' := by simpa using hbackslash
        rw [heq, List.map_singleton, List.singleton_append,
          readString_plain hquote' hbackslash' hcontrol]
      · rw [heq, List.map_cons, List.cons_append, readString_backslash (hread _ _ _)]
  | half part =>
      have hhalf := part.isHalf
      cases charset with
      | unicode =>
          exact readString_plain (by simp) (by simp) (by simp only [CodePoint.toNat]; omega)
      | ascii =>
          have hread : ∀ backslash, readEscape backslash
              ('u' :: ((Hex.padded 4 part.code).map .char ++ next :: rest)) =
                .ok (.half part, next :: rest) := by
            intro backslash
            rw [readEscape_unit (by omega) (by rw [isHigh_code]; exact h part rfl), ofNat_code]
          exact readString_backslash (hread _)

theorem secondHalf?_of_joined {part : Half} {codes : List CodePoint} (hfirst : part.isFirst = true)
    (hjoined : join (.half part :: codes) = .half part :: codes) :
    secondHalf? (codes.flatMap (escape charset) ++ .char '"' :: rest) = .ok none := by
  cases codes with
  | nil => rfl
  | cons code codes =>
      obtain ⟨hpair, -⟩ := pair?_of_join_eq hjoined
      have hsecond : ∀ part, code = .half part → part.isFirst = true := by
        rintro other rfl
        simpa [pair?, hfirst] using hpair
      obtain ⟨next, more, heq⟩ := exists_append_eq_cons (codes.flatMap (escape charset)) '"' rest
      rw [List.flatMap_cons, List.append_assoc, heq]
      exact secondHalf?_escape hsecond

theorem readString_codes {codes : List CodePoint} (hjoined : join codes = codes) :
    readString opening done (codes.flatMap (escape charset) ++ .char '"' :: rest) =
      .ok (done.reverse ++ codes, rest) := by
  induction codes generalizing done with
  | nil => simp [readString]
  | cons code codes ih =>
      have hsecond : ∀ part, code = .half part → part.isFirst = true →
          secondHalf? (codes.flatMap (escape charset) ++ .char '"' :: rest) = .ok none := by
        rintro part rfl hfirst
        exact secondHalf?_of_joined hfirst hjoined
      obtain ⟨next, more, heq⟩ := exists_append_eq_cons (codes.flatMap (escape charset)) '"' rest
      rw [heq] at hsecond
      rw [List.flatMap_cons, List.append_assoc, heq, readString_escape hsecond, ← heq,
        ih (join_tail hjoined)]
      simp

theorem readString_quote (charset : Charset) (opening done : List CodePoint) (text : LooseText)
    (rest : List CodePoint) :
    readString opening done (text.codes.flatMap (escape charset) ++ .char '"' :: rest) =
      .ok (done.reverse ++ text.codes, rest) :=
  readString_codes text.join_codes

end TransparencyLog.Json
