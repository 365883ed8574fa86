import TransparencyLog.Proofs.Checkpoint.Canonical

namespace TransparencyLog.CheckpointBody

/-- The statements whose fields may stand on lines, but whose size has too many digits. -/
structure HasOverlongSize (body : CheckpointBody) : Prop where
  size_nonneg : 0 ≤ body.size
  length_size : 4300 < (Nat.toDigits 10 body.size.toNat).length
  field : ∀ field ∈ body.fields, IsFieldName field.1.toList ∧ IsLineValue field.2.toList

theorem ofFields_eq_overlong_iff {fields : List (String × String)} {fault : Numeral.Overlong} :
    ofFields fields = .error (.overlong fault) ↔ ∃ body : CheckpointBody, fields = body.fields ∧
      0 ≤ body.size ∧ 4300 < (Nat.toDigits 10 body.size.toNat).length ∧
      fault = .read (Nat.toDigits 10 body.size.toNat).length := by
  constructor
  · intro h
    unfold ofFields at h
    split at h
    · rename_i a origin b size c root extensions
      split at h
      · cases h
      · rename_i hnames
        obtain ⟨rfl, rfl, rfl⟩ := firstMismatch?_eq_none_iff.mp hnames
        split at h
        · rename_i hsize
          obtain ⟨n, hn⟩ := (isSize_iff _).mp hsize
          rw [hn, Numeral.read_digits] at h
          split at h
          · rename_i fault' hfault
            split at hfault
            · cases hfault
            · rename_i hlength
              obtain rfl := Except.error.inj hfault
              cases h
              exact ⟨⟨origin, n, root, extensions⟩, by simp [CheckpointBody.fields, ← hn], by simp,
                Nat.lt_of_not_le hlength, rfl⟩
          · split at h
            · split at h <;> cases h
            · cases h
        · cases h
    · cases h
  · rintro ⟨body, rfl, hnonneg, hlength, rfl⟩
    obtain ⟨n, hn⟩ := Int.eq_ofNat_of_zero_le hnonneg
    have hsize : (String.ofList (Numeral.chars body.size)).toList = Numeral.digits n := by
      rw [String.toList_ofList, hn, Numeral.chars_ofNat]
    rw [hn, Int.toNat_natCast] at hlength ⊢
    have hlimit : ¬ (Numeral.digits n).length ≤ Numeral.digitLimit := Nat.not_le_of_lt hlength
    rw [ofFields.eq_def, fields]
    simp only [List.cons_append, List.nil_append, List.map_cons]
    rw [firstMismatch?_eq_none_iff.mpr ⟨rfl, rfl, rfl⟩]
    dsimp only
    rw [hsize, if_pos ((isSize_iff _).mpr ⟨n, rfl⟩), Numeral.read_digits, if_neg hlimit]
    rfl

theorem read_eq_overlong_iff {octets : Bytes} {fault : Numeral.Overlong} :
    read octets = .error (.overlong fault) ↔ ∃ body : CheckpointBody, body.HasOverlongSize ∧
      body.Renders octets ∧ fault = .read (Nat.toDigits 10 body.size.toNat).length := by
  have hread : read octets = .error (.overlong fault) ↔ ∃ lines fields,
      contentLines octets = .ok lines ∧ readLines 1 lines = .ok fields ∧
        ofFields fields = .error (.overlong fault) := by
    unfold read
    cases hlines : contentLines octets with
    | error cause => simp
    | ok lines =>
        cases hfields : readLines 1 lines with
        | error cause => simp [hfields]
        | ok fields => simp [hfields]
  rw [hread]
  constructor
  · rintro ⟨lines, fields, hlines, hfields, hfault⟩
    obtain ⟨body, rfl, hnonneg, hlength, hfault⟩ := ofFields_eq_overlong_iff.mp hfault
    obtain ⟨hvalues, hrenders⟩ := exists_readLines_iff.mp ⟨lines, hlines, hfields⟩
    exact ⟨body, ⟨hnonneg, hlength, hvalues⟩, hrenders, hfault⟩
  · rintro ⟨body, hbody, hrenders, hfault⟩
    obtain ⟨lines, hlines, hfields⟩ := exists_readLines_iff.mpr ⟨hbody.field, hrenders⟩
    exact ⟨lines, body.fields, hlines, hfields, ofFields_eq_overlong_iff.mpr
      ⟨body, rfl, hbody.size_nonneg, hbody.length_size, hfault⟩⟩

theorem not_ok_or_malformed_of_overlong {octets : Bytes} {body : CheckpointBody}
    (hbody : body.HasOverlongSize) (hrenders : body.Renders octets) :
    ¬ ((∃ body, read octets = .ok body) ∨ ∃ cause, read octets = .error (.malformed cause)) := by
  have hoverlong := read_eq_overlong_iff.mpr ⟨body, hbody, hrenders, rfl⟩
  rintro (⟨body', hread⟩ | ⟨cause, hread⟩)
  · cases hoverlong.symm.trans hread
  · cases hoverlong.symm.trans hread

/-- Octets are read, or refused as malformed, unless they state a size with too many digits. -/
theorem read_ok_or_malformed_iff {octets : Bytes} :
    ((∃ body, read octets = .ok body) ∨ ∃ cause, read octets = .error (.malformed cause)) ↔
      ¬ ∃ body : CheckpointBody, body.HasOverlongSize ∧ body.Renders octets := by
  constructor
  · rintro h ⟨body, hbody, hrenders⟩
    exact not_ok_or_malformed_of_overlong hbody hrenders h
  · intro h
    cases hread : read octets with
    | ok body => exact .inl ⟨body, rfl⟩
    | error fault =>
        cases fault with
        | malformed cause => exact .inr ⟨cause, rfl⟩
        | overlong fault =>
            obtain ⟨body, hbody, hrenders, -⟩ := read_eq_overlong_iff.mp hread
            exact absurd ⟨body, hbody, hrenders⟩ h

/-- The statements of a log with so many leaves. -/
def bodyOfSize (n : Nat) : CheckpointBody :=
  ⟨"example-log", n, String.ofList (List.replicate 64 '0'), []⟩

theorem hasOverlongSize_bodyOfSize {n : Nat} (h : 4300 < (Numeral.digits n).length) :
    (bodyOfSize n).HasOverlongSize where
  size_nonneg := Int.natCast_nonneg n
  length_size := h
  field := by
    intro field hfield
    simp only [fields, bodyOfSize, List.cons_append, List.nil_append, List.mem_cons,
      List.not_mem_nil, or_false] at hfield
    rcases hfield with rfl | rfl | rfl
    · exact ⟨(isName_iff "origin".toList).mp (by decide),
        isLineValue_of_forall (by simp) (by simp)⟩
    · refine ⟨(isName_iff "size".toList).mp (by decide), ?_⟩
      rw [String.toList_ofList, Numeral.chars_ofNat]
      exact isLineValue_digits n
    · refine ⟨(isName_iff "root".toList).mp (by decide), ?_⟩
      rw [String.toList_ofList]
      exact isLineValue_of_forall (by simp) (by simp)

/-- A log whose number of leaves has one digit more than are read. -/
def overlongBody : CheckpointBody :=
  bodyOfSize (Nat.ofDigitChars 10 (List.replicate 4301 '1') 0)

theorem length_digits_replicate (n : Nat) :
    (Numeral.digits (Nat.ofDigitChars 10 (List.replicate (n + 1) '1') 0)).length = n + 1 := by
  have hdigits : ∀ c ∈ '1' :: List.replicate n '1', c.isDigit = true := by
    intro c hc
    rw [← List.replicate_succ] at hc
    rw [List.eq_of_mem_replicate hc]
    rfl
  rw [List.replicate_succ, Numeral.digits_ofDigitChars (by decide) hdigits,
    ← List.replicate_succ, List.length_replicate]

/-- The canonical octets of such statements are neither read nor refused as malformed. -/
theorem not_read_overlongBody :
    ¬ ((∃ body, read overlongBody.octets = .ok body) ∨
      ∃ cause, read overlongBody.octets = .error (.malformed cause)) := by
  have hrenders : overlongBody.Renders overlongBody.octets := by
    rw [← octetsWith_lf]
    exact renders_octetsWith (by simp [Text.lineEnds]) overlongBody
  have hsize : overlongBody.HasOverlongSize := by
    apply hasOverlongSize_bodyOfSize
    rw [length_digits_replicate]
    decide
  exact not_ok_or_malformed_of_overlong hsize hrenders

end TransparencyLog.CheckpointBody
