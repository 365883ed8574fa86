import Mathlib.Data.List.Forall2
import TransparencyLog.Checkpoint.BodyText
import TransparencyLog.Proofs.Decimal.Numeral
import TransparencyLog.Proofs.Outcome
import TransparencyLog.Proofs.Text.Blank

namespace TransparencyLog.CheckpointBody

/-- The names of fields: a small letter, then small letters, digits, underscores, points and
hyphens. -/
def IsFieldName (cs : List Char) : Prop :=
  ∃ first rest, cs = first :: rest ∧ ('a' ≤ first ∧ first ≤ 'z') ∧
    ∀ c ∈ rest, ('a' ≤ c ∧ c ≤ 'z') ∨ ('0' ≤ c ∧ c ≤ '9') ∨ c = '_' ∨ c = '.' ∨ c = '-'

/-- The texts that may stand as a value on a line. -/
structure IsLineValue (cs : List Char) : Prop where
  ne_nil : cs ≠ []
  trimmed : Text.IsTrimmed Text.isBlank cs
  chars : ∀ c ∈ cs, c ≠ '\n' ∧ c ≠ '\r' ∧ c ≠ '\x00'

/-- The lines that state a field: its name, a colon, and its value, with blanks before and after the
value. -/
def IsLineOf (field : String × String) (line : List Char) : Prop :=
  ∃ front tail, (∀ c ∈ front, Text.isBlank c = true) ∧ (∀ c ∈ tail, Text.isBlank c = true) ∧
    line = field.1.toList ++ ':' :: (front ++ field.2.toList ++ tail)

/-- The texts of a root hash: sixty-four hexadecimal digits of either case. -/
structure IsRootHashText (cs : List Char) : Prop where
  length : cs.length = 64
  digits : ∀ c ∈ cs, ('0' ≤ c ∧ c ≤ '9') ∨ ('a' ≤ c ∧ c ≤ 'f') ∨ ('A' ≤ c ∧ c ≤ 'F')

/-- What is asked of the size, of the root hash, and of the names of extensions together. -/
structure IsAdmissible (body : CheckpointBody) : Prop where
  size_nonneg : 0 ≤ body.size
  length_size : (Nat.toDigits 10 body.size.toNat).length ≤ 4300
  rootHash : IsRootHashText body.rootHash.toList
  nodup : (body.extensions.map (·.1)).Nodup
  foreign : ∀ field ∈ body.extensions, field.1 ∉ ["origin", "size", "root"]

/-- The statements that a checkpoint may make. -/
structure WellFormed (body : CheckpointBody) : Prop extends IsAdmissible body where
  origin : IsLineValue body.origin.toList
  name : ∀ field ∈ body.extensions, IsFieldName field.1.toList
  value : ∀ field ∈ body.extensions, IsLineValue field.2.toList

theorem isName_iff (cs : List Char) : isName cs = true ↔ IsFieldName cs := by
  cases cs with
  | nil => simp [isName, IsFieldName]
  | cons first rest =>
      simp only [isName, isNameChar, isLetter, isDigit, IsFieldName, List.all_eq_true,
        Bool.and_eq_true, Bool.or_eq_true, decide_eq_true_eq, List.cons.injEq]
      constructor
      · rintro ⟨hfirst, hrest⟩
        exact ⟨first, rest, ⟨rfl, rfl⟩, hfirst, fun c hc => by have := hrest c hc; tauto⟩
      · rintro ⟨_, _, ⟨rfl, rfl⟩, hfirst, hrest⟩
        exact ⟨hfirst, fun c hc => by have := hrest c hc; tauto⟩

theorem IsFieldName.ne_nil {cs : List Char} (h : IsFieldName cs) : cs ≠ [] := by
  obtain ⟨first, rest, rfl, -, -⟩ := h
  simp

theorem IsFieldName.ne_of_mem {cs : List Char} (h : IsFieldName cs) {c d : Char} (hc : c ∈ cs)
    (hd : d ∈ [':', ' ', '\t', '\n', '\r', '\x00']) : c ≠ d := by
  obtain ⟨first, rest, rfl, hfirst, hrest⟩ := h
  have hclass : ('a' ≤ c ∧ c ≤ 'z') ∨ ('0' ≤ c ∧ c ≤ '9') ∨ c = '_' ∨ c = '.' ∨ c = '-' := by
    rcases List.mem_cons.mp hc with rfl | hc
    · exact .inl hfirst
    · exact hrest c hc
  rintro rfl
  simp only [List.mem_cons, List.not_mem_nil, or_false] at hd
  rcases hd with rfl | rfl | rfl | rfl | rfl | rfl <;> revert hclass <;> decide

theorem readLine_eq_ok_iff {number : Nat} {line : List Char} {field : String × String} :
    readLine number line = .ok field ↔
      (IsFieldName field.1.toList ∧ field.2.toList ≠ [] ∧
        Text.IsTrimmed Text.isBlank field.2.toList) ∧ IsLineOf field line := by
  constructor
  · intro h
    have hline : line.takeWhile (· ≠ ':') ++ line.dropWhile (· ≠ ':') = line :=
      List.takeWhile_append_dropWhile
    have hcolon := List.head?_dropWhile_not (fun c => decide (c ≠ ':')) line
    unfold readLine at h
    dsimp only at h
    split at h
    · simp at h
    · rename_i colon rest hrest
      split at h
      · rename_i hname
        split at h
        · simp at h
        · rename_i hvalue
          obtain rfl := Except.ok.inj h
          obtain ⟨front, tail, hfront, htail, heq⟩ := Text.exists_eq_append_trim Text.isBlank rest
          refine ⟨⟨by simpa using (isName_iff _).mp hname, by simpa using hvalue,
            by simpa using Text.isTrimmed_trim rest⟩, front, tail, hfront, htail, ?_⟩
          rw [hrest] at hline hcolon
          obtain rfl : colon = ':' := by simpa using hcolon
          rw [String.toList_ofList, String.toList_ofList, ← heq]
          exact hline.symm
      · simp at h
  · rintro ⟨⟨hname, hvalue, htrimmed⟩, front, tail, hfront, htail, rfl⟩
    have hcolon : ':' ∉ field.1.toList := fun hmem =>
      hname.ne_of_mem hmem (by simp) rfl
    rw [readLine, Text.takeWhile_ne_append hcolon, Text.dropWhile_ne_append hcolon]
    dsimp only
    rw [if_pos ((isName_iff _).mpr hname), Text.trim_append hfront htrimmed htail,
      if_neg (by simpa using hvalue), String.ofList_toList, String.ofList_toList]

theorem readLines_eq_ok_iff {number : Nat} {lines : List (List Char)}
    {fields : List (String × String)} :
    readLines number lines = .ok fields ↔
      List.Forall₂ (fun field line => (IsFieldName field.1.toList ∧ field.2.toList ≠ [] ∧
        Text.IsTrimmed Text.isBlank field.2.toList) ∧ IsLineOf field line) fields lines := by
  induction lines generalizing number fields with
  | nil =>
      rw [readLines, List.forall₂_nil_right_iff, Except.ok.injEq]
      exact eq_comm
  | cons line lines ih =>
      rw [readLines, List.forall₂_cons_right_iff]
      simp only [bind_eq_ok_iff, pure, Except.pure, Except.ok.injEq, readLine_eq_ok_iff, ih]
      constructor
      · rintro ⟨field, hfield, rest, hrest, rfl⟩
        exact ⟨field, rest, hfield, hrest, rfl⟩
      · rintro ⟨field, rest, hfield, hrest, rfl⟩
        exact ⟨field, hfield, rest, hrest, rfl⟩

theorem isDigit_eq (c : Char) : isDigit c = c.isDigit :=
  (Numeral.isDigit_eq_decide c).symm

theorem isSize_iff (cs : List Char) : isSize cs = true ↔ ∃ n, cs = Numeral.digits n := by
  constructor
  · intro h
    unfold isSize at h
    split at h
    · exact ⟨0, rfl⟩
    · rename_i c rest _
      simp only [isDigit_eq, Bool.and_eq_true, List.all_eq_true, decide_eq_true_eq] at h
      obtain ⟨⟨hc, hne⟩, hrest⟩ := h
      exact ⟨_, (Numeral.digits_ofDigitChars hne (by simpa [hc] using hrest)).symm⟩
    · simp at h
  · rintro ⟨n, rfl⟩
    rcases Nat.eq_zero_or_pos n with rfl | hpositive
    · rfl
    · obtain ⟨c, rest, heq, hne⟩ := Numeral.exists_digits_eq_cons hpositive
      have hdigits : ∀ d ∈ c :: rest, d.isDigit = true := fun d hd =>
        Numeral.isDigit_of_mem_digits (heq ▸ hd)
      rw [heq, isSize]
      · simpa [isDigit_eq, hne] using hdigits
      · rintro rfl rfl
        exact hne rfl

theorem isRootHash_iff (cs : List Char) : isRootHash cs = true ↔ IsRootHashText cs := by
  have hvalue : ∀ c, (Hex.value? c).isSome = true ↔
      ('0' ≤ c ∧ c ≤ '9') ∨ ('a' ≤ c ∧ c ≤ 'f') ∨ ('A' ≤ c ∧ c ≤ 'F') := by
    intro c
    unfold Hex.value?
    split
    · simp [*]
    split
    · simp [*]
    split
    · simp [*]
    · simp [*]
  simp only [isRootHash, Bool.and_eq_true, decide_eq_true_eq, List.all_eq_true, hvalue]
  exact ⟨fun h => ⟨h.1, h.2⟩, fun h => ⟨h.1, h.2⟩⟩

theorem firstDuplicate?_eq_none_iff {seen names : List String} :
    firstDuplicate? seen names = none ↔ names.Nodup ∧ ∀ name ∈ names, name ∉ seen := by
  induction names generalizing seen with
  | nil => simp [firstDuplicate?]
  | cons name names ih =>
      rw [firstDuplicate?]
      by_cases hseen : name ∈ seen
      · simp [hseen]
      · rw [if_neg (by simpa using hseen), ih, List.nodup_cons, List.forall_mem_cons]
        constructor
        · rintro ⟨hnodup, hnames⟩
          exact ⟨⟨fun hmem => hnames name hmem (by simp), hnodup⟩, hseen,
            fun other hmem hmem' => hnames other hmem (by simp [hmem'])⟩
        · rintro ⟨⟨hname, hnodup⟩, -, hnames⟩
          refine ⟨hnodup, fun other hmem hmem' => ?_⟩
          rcases List.mem_cons.mp hmem' with rfl | hmem'
          · exact hname hmem
          · exact hnames other hmem hmem'

theorem firstMismatch?_eq_none_iff {a b c : String} {names : List String} :
    firstMismatch? 1 requiredNames (a :: b :: c :: names) = none ↔
      a = "origin" ∧ b = "size" ∧ c = "root" := by
  unfold requiredNames firstMismatch? firstMismatch? firstMismatch?
  split
  · split
    · split
      · simp_all [firstMismatch?]
      · simp_all
    · simp_all
  · simp_all

theorem isAdmissible_of_ofFields {fields : List (String × String)} {body : CheckpointBody}
    (h : ofFields fields = .ok body) : fields = body.fields ∧ body.IsAdmissible := by
  unfold ofFields at h
  split at h
  · rename_i a origin b size c root extensions
    split at h
    · cases h
    · rename_i hnames
      obtain ⟨rfl, rfl, rfl⟩ := firstMismatch?_eq_none_iff.mp hnames
      split at h
      · rename_i hsize
        obtain ⟨n, hn⟩ := (isSize_iff _).mp hsize
        rw [hn, Numeral.read_digits] at h
        split at h
        · cases h
        · rename_i m hm
          split at hm
          · rename_i hlength
            obtain rfl := Except.ok.inj hm
            split at h
            · rename_i hroot
              split at h
              · cases h
              · rename_i hduplicate
                obtain rfl := Except.ok.inj h
                obtain ⟨hnodup, hforeign⟩ := firstDuplicate?_eq_none_iff.mp hduplicate
                refine ⟨by simp [CheckpointBody.fields, ← hn], ?_⟩
                exact {
                  size_nonneg := by simp
                  length_size := hlength
                  rootHash := (isRootHash_iff _).mp hroot
                  nodup := hnodup
                  foreign := fun field hfield => hforeign _ (List.mem_map_of_mem hfield) }
            · cases h
          · cases hm
      · cases h
  · cases h

theorem ofFields_fields {body : CheckpointBody} (h : body.IsAdmissible) :
    ofFields body.fields = .ok body := by
  obtain ⟨n, hn⟩ := Int.eq_ofNat_of_zero_le h.size_nonneg
  have hsize : (String.ofList (Numeral.chars body.size)).toList = Numeral.digits n := by
    rw [String.toList_ofList, hn, Numeral.chars_ofNat]
  have hduplicate : firstDuplicate? requiredNames (body.extensions.map (·.1)) = none := by
    rw [firstDuplicate?_eq_none_iff]
    refine ⟨h.nodup, fun name hname => ?_⟩
    obtain ⟨field, hfield, rfl⟩ := List.mem_map.mp hname
    exact h.foreign field hfield
  have hlimit : (Numeral.digits n).length ≤ Numeral.digitLimit := by
    have hlength := h.length_size
    rwa [hn, Int.toNat_natCast] at hlength
  rw [ofFields.eq_def, fields]
  simp only [List.cons_append, List.nil_append, List.map_cons]
  rw [firstMismatch?_eq_none_iff.mpr ⟨rfl, rfl, rfl⟩]
  dsimp only
  rw [hsize, if_pos ((isSize_iff _).mpr ⟨n, rfl⟩), Numeral.read_digits, if_pos hlimit]
  dsimp only
  rw [if_pos ((isRootHash_iff _).mpr h.rootHash), hduplicate, ← hn]

theorem ofFields_eq_ok_iff {fields : List (String × String)} {body : CheckpointBody} :
    ofFields fields = .ok body ↔ fields = body.fields ∧ body.IsAdmissible := by
  constructor
  · exact isAdmissible_of_ofFields
  · rintro ⟨rfl, h⟩
    exact ofFields_fields h

end TransparencyLog.CheckpointBody
