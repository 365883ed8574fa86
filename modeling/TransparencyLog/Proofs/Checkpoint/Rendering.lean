import TransparencyLog.Proofs.Checkpoint.Fields
import TransparencyLog.Proofs.Pairing
import TransparencyLog.Proofs.Text.Line
import TransparencyLog.Proofs.Text.Utf8

/-!
Which octets are a checkpoint: the renderings of well-formed statements, and no others. A rendering
has the fields on lines in order, with line ends of any kind between them, and after them any number
of blank lines.
-/

namespace TransparencyLog.CheckpointBody

/-- The octets that render a checkpoint: its fields, a line each, then lines that are runs of
blanks, with a line end of any kind between each two lines. -/
def Renders (body : CheckpointBody) (octets : Bytes) : Prop :=
  ∃ main blanks cs, List.Forall₂ IsLineOf body.fields main ∧
    (∀ line ∈ blanks, ∀ c ∈ line, Text.isBlank c = true) ∧
    Text.Joined (main ++ blanks) cs ∧ octets = Utf8.encodeChars cs

section Lines

variable {field : String × String} {line : List Char}

theorem isLineOf_append {tail : List Char} (h : IsLineOf field line)
    (htail : ∀ c ∈ tail, Text.isBlank c = true) : IsLineOf field (line ++ tail) := by
  obtain ⟨front, back, hfront, hback, rfl⟩ := h
  refine ⟨front, back ++ tail, hfront, ?_, by simp⟩
  intro c hc
  rcases List.mem_append.mp hc with hc | hc
  · exact hback c hc
  · exact htail c hc

theorem trimEnd_isLineOf (h : IsLineOf field line) (hvalue : IsLineValue field.2.toList) :
    IsLineOf field (Text.trimEnd Text.isBlank line) ∧ Text.trimEnd Text.isBlank line ≠ [] := by
  obtain ⟨front, back, hfront, hback, rfl⟩ := h
  have hlast : ∀ c ∈ (field.1.toList ++ ':' :: (front ++ field.2.toList)).getLast?,
      Text.isBlank c = false := by
    intro c hc
    rw [← List.cons_append, ← List.append_assoc,
      List.getLast?_append_of_ne_nil _ hvalue.ne_nil] at hc
    exact hvalue.trimmed.last c hc
  have htrim : Text.trimEnd Text.isBlank
      (field.1.toList ++ ':' :: (front ++ field.2.toList ++ back)) =
        field.1.toList ++ ':' :: (front ++ field.2.toList) := by
    rw [← List.cons_append, ← List.append_assoc, Text.trimEnd_append hback,
      Text.trimEnd_eq_self hlast]
  rw [htrim]
  exact ⟨⟨front, [], hfront, by simp, by simp⟩, by simp⟩

theorem isLineOf_chars (h : IsLineOf field line) (hname : IsFieldName field.1.toList)
    (hvalue : IsLineValue field.2.toList) :
    ∀ c ∈ line, c ≠ '\n' ∧ c ≠ '\r' ∧ c ≠ '\x00' := by
  obtain ⟨front, back, hfront, hback, rfl⟩ := h
  have hblank : ∀ c, Text.isBlank c = true → c ≠ '\n' ∧ c ≠ '\r' ∧ c ≠ '\x00' := by
    intro c hc
    simp only [Text.isBlank, Bool.or_eq_true, decide_eq_true_eq] at hc
    rcases hc with rfl | rfl <;> decide
  intro c hc
  simp only [List.mem_append, List.mem_cons] at hc
  rcases hc with hc | rfl | (hc | hc) | hc
  · exact ⟨hname.ne_of_mem hc (by simp), hname.ne_of_mem hc (by simp),
      hname.ne_of_mem hc (by simp)⟩
  · decide
  · exact hblank c (hfront c hc)
  · exact hvalue.chars c hc
  · exact hblank c (hback c hc)

theorem value_chars (h : IsLineOf field line) {c : Char} (hc : c ∈ field.2.toList) : c ∈ line := by
  obtain ⟨front, back, -, -, rfl⟩ := h
  simp [hc]

end Lines

theorem isLineValue_of_forall {cs : List Char} (hne : cs ≠ [])
    (hcs : ∀ c ∈ cs, c ∉ [' ', '\t', '\n', '\r', '\x00']) : IsLineValue cs := by
  have hblank : ∀ c ∈ cs, Text.isBlank c = false := by
    intro c hc
    have := hcs c hc
    simp only [List.mem_cons, List.not_mem_nil, or_false, not_or] at this
    simp [Text.isBlank, this]
  refine ⟨hne, ⟨fun c hc => hblank c (List.mem_of_mem_head? hc),
    fun c hc => hblank c (List.mem_of_getLast? hc)⟩, fun c hc => ?_⟩
  have := hcs c hc
  simp only [List.mem_cons, List.not_mem_nil, or_false, not_or] at this
  exact this.2.2

theorem isLineValue_digits (n : Nat) : IsLineValue (Numeral.digits n) := by
  refine isLineValue_of_forall (by simp [Numeral.digits]) fun c hc hmem => ?_
  have hdigit := Numeral.isDigit_of_mem_digits hc
  simp only [List.mem_cons, List.not_mem_nil, or_false] at hmem
  rcases hmem with rfl | rfl | rfl | rfl | rfl <;> simp at hdigit

theorem IsRootHashText.isLineValue {cs : List Char} (h : IsRootHashText cs) : IsLineValue cs := by
  refine isLineValue_of_forall (List.ne_nil_of_length_pos (by simp [h.length])) fun c hc hmem => ?_
  have hdigit := h.digits c hc
  simp only [List.mem_cons, List.not_mem_nil, or_false] at hmem
  rcases hmem with rfl | rfl | rfl | rfl | rfl <;> revert hdigit <;> decide

theorem WellFormed.field {body : CheckpointBody} (h : body.WellFormed) :
    ∀ field ∈ body.fields, IsFieldName field.1.toList ∧ IsLineValue field.2.toList := by
  intro field hfield
  simp only [fields, List.cons_append, List.nil_append, List.mem_cons] at hfield
  rcases hfield with rfl | rfl | rfl | hfield
  · exact ⟨(isName_iff "origin".toList).mp (by decide), h.origin⟩
  · obtain ⟨n, hn⟩ := Int.eq_ofNat_of_zero_le h.size_nonneg
    refine ⟨(isName_iff "size".toList).mp (by decide), ?_⟩
    rw [String.toList_ofList, hn, Numeral.chars_ofNat]
    exact isLineValue_digits n
  · exact ⟨(isName_iff "root".toList).mp (by decide), h.rootHash.isLineValue⟩
  · exact ⟨h.name field hfield, h.value field hfield⟩

theorem contentLines_eq_ok_iff {octets : Bytes} {lines : List (List Char)} :
    contentLines octets = .ok lines ↔
      ∃ cs, octets = Utf8.encodeChars cs ∧ '\x00' ∉ cs ∧ trimmedLines cs = lines ∧
        lines ≠ [] ∧ [] ∉ lines := by
  constructor
  · intro h
    unfold contentLines at h
    split at h
    · simp at h
    split at h
    · simp at h
    rename_i hnul
    split at h
    · simp at h
    rename_i cs hdecode
    dsimp only at h
    split at h
    · simp at h
    rename_i hne
    split at h
    · simp at h
    rename_i hblank
    obtain rfl := Except.ok.inj h
    obtain rfl := Utf8.decodeChars_eq_ok_iff.mp hdecode
    refine ⟨cs, rfl, ?_, rfl, by simpa using hne, fun hmem => ?_⟩
    · rw [← Utf8.zero_mem_encodeChars]
      simpa using hnul
    · simpa using List.findIdx?_eq_none_iff.mp hblank [] hmem
  · rintro ⟨cs, rfl, hnul, rfl, hne, hblank⟩
    have hoctets : Utf8.encodeChars cs ≠ [] := by
      intro hempty
      obtain rfl : cs = [] := Utf8.encodeChars_injective hempty
      exact hne rfl
    have hindex : (trimmedLines cs).findIdx? List.isEmpty = none := by
      rw [List.findIdx?_eq_none_iff]
      intro line hline
      have hne : line ≠ [] := fun heq => hblank (heq ▸ hline)
      simpa using hne
    rw [← Utf8.zero_mem_encodeChars] at hnul
    rw [contentLines, if_neg (by simpa using hoctets), if_neg (by simpa using hnul),
      Utf8.decodeChars_encodeChars]
    dsimp only
    rw [if_neg (by simpa using hne), hindex]

theorem trimmedLines_eq (cs : List Char) :
    trimmedLines cs =
      ((Text.lines cs).map (Text.trimEnd Text.isBlank)).rdropWhile List.isEmpty := rfl

theorem exists_lines_eq_append (cs : List Char) :
    ∃ main blanks, Text.lines cs = main ++ blanks ∧
      main.map (Text.trimEnd Text.isBlank) = trimmedLines cs ∧
      ∀ line ∈ blanks, ∀ c ∈ line, Text.isBlank c = true := by
  have hsplit := List.rdropWhile_append_rtakeWhile (p := List.isEmpty)
    (l := (Text.lines cs).map (Text.trimEnd Text.isBlank))
  obtain ⟨main, blanks, hlines, hmain, hblanks⟩ := List.map_eq_append_iff.mp hsplit.symm
  refine ⟨main, blanks, hlines, hmain, fun line hline => ?_⟩
  have hempty := List.mem_rtakeWhile_imp (hblanks ▸ List.mem_map_of_mem hline)
  exact Text.trimEnd_eq_nil_iff.mp (by simpa using hempty)

theorem trimmedLines_of_joined {main blanks : List (List Char)} {cs : List Char}
    (h : Text.Joined (main ++ blanks) cs) (hne : main ≠ [])
    (hmain : ∀ line ∈ main, Text.trimEnd Text.isBlank line ≠ [] ∧ ∀ c ∈ line, c ≠ '\n' ∧ c ≠ '\r')
    (hblanks : ∀ line ∈ blanks, ∀ c ∈ line, Text.isBlank c = true) :
    trimmedLines cs = main.map (Text.trimEnd Text.isBlank) := by
  have hlines : ∀ line ∈ main, line ≠ [] ∧ ∀ c ∈ line, c ≠ '\n' ∧ c ≠ '\r' := by
    refine fun line hline => ⟨?_, (hmain line hline).2⟩
    rintro rfl
    exact (hmain [] hline).1 rfl
  obtain ⟨empties, hempties, heq⟩ := Text.exists_map_trimEnd_lines h hne hlines hblanks
  rw [trimmedLines_eq, heq, Text.rdropWhile_append (by simpa using hempties),
    List.rdropWhile_eq_self_iff]
  intro hmap
  obtain ⟨line, hline, hlast⟩ := List.mem_map.mp (List.getLast_mem hmap)
  simpa [← hlast] using (hmain line hline).1

theorem read_eq_ok_iff {octets : Bytes} {body : CheckpointBody} :
    read octets = .ok body ↔ ∃ lines fields, contentLines octets = .ok lines ∧
      readLines 1 lines = .ok fields ∧ ofFields fields = .ok body := by
  unfold read
  cases hlines : contentLines octets with
  | error cause => simp
  | ok lines =>
      cases hfields : readLines 1 lines with
      | error cause => simp [hfields]
      | ok fields => simp [hfields]

theorem forall₂_isLineOf {cs : List Char} {main : List (List Char)}
    {fields : List (String × String)} (hnul : '\x00' ∉ cs)
    (hmain : ∀ line ∈ main, line ∈ Text.lines cs)
    (h : readLines 1 (main.map (Text.trimEnd Text.isBlank)) = .ok fields) :
    (∀ field ∈ fields, IsFieldName field.1.toList ∧ IsLineValue field.2.toList) ∧
      List.Forall₂ IsLineOf fields main := by
  rw [readLines_eq_ok_iff, List.forall₂_map_right_iff] at h
  rw [← List.forall₂_and_left]
  refine (forall₂_and_mem h).imp ?_
  rintro field line ⟨⟨-, hline⟩, ⟨hname, hne, htrimmed⟩, hof⟩
  obtain ⟨tail, htail, heq⟩ := Text.exists_eq_trimEnd_append Text.isBlank line
  have hof : IsLineOf field line := by
    rw [heq]
    exact isLineOf_append hof htail
  refine ⟨⟨hname, hne, htrimmed, fun c hc => ?_⟩, hof⟩
  obtain ⟨hcs, hlf, hcr⟩ :=
    Text.mem_of_mem_lines (hmain line hline) (value_chars hof hc)
  exact ⟨hlf, hcr, fun hc => hnul (hc ▸ hcs)⟩

theorem readLines_trimEnd {fields : List (String × String)} {main : List (List Char)}
    (h : List.Forall₂ IsLineOf fields main)
    (hfields : ∀ field ∈ fields, IsFieldName field.1.toList ∧ IsLineValue field.2.toList)
    (number : Nat) : readLines number (main.map (Text.trimEnd Text.isBlank)) = .ok fields := by
  rw [readLines_eq_ok_iff, List.forall₂_map_right_iff]
  refine ((List.forall₂_and_left _ _).mpr ⟨hfields, h⟩).imp ?_
  rintro field line ⟨⟨hname, hvalue⟩, hof⟩
  exact ⟨⟨hname, hvalue.ne_nil, hvalue.trimmed⟩, (trimEnd_isLineOf hof hvalue).1⟩

theorem chars_of_forall₂ {fields : List (String × String)} {main : List (List Char)}
    (h : List.Forall₂ IsLineOf fields main)
    (hfields : ∀ field ∈ fields, IsFieldName field.1.toList ∧ IsLineValue field.2.toList) :
    ∀ line ∈ main, Text.trimEnd Text.isBlank line ≠ [] ∧
      ∀ c ∈ line, c ≠ '\n' ∧ c ≠ '\r' ∧ c ≠ '\x00' := by
  induction h with
  | nil => simp
  | cons hof _ ih =>
      intro line hline
      rcases List.mem_cons.mp hline with rfl | hline
      · obtain ⟨hname, hvalue⟩ := hfields _ List.mem_cons_self
        exact ⟨(trimEnd_isLineOf hof hvalue).2, isLineOf_chars hof hname hvalue⟩
      · exact ih (fun field hfield => hfields field (by simp [hfield])) line hline

/-- The fields of a statement are read from octets if and only if they may stand on lines and the
octets render them. -/
theorem exists_readLines_iff {octets : Bytes} {body : CheckpointBody} :
    (∃ lines, contentLines octets = .ok lines ∧ readLines 1 lines = .ok body.fields) ↔
      (∀ field ∈ body.fields, IsFieldName field.1.toList ∧ IsLineValue field.2.toList) ∧
        body.Renders octets := by
  constructor
  · rintro ⟨lines, hlines, hfields⟩
    obtain ⟨cs, rfl, hnul, rfl, -, -⟩ := contentLines_eq_ok_iff.mp hlines
    obtain ⟨main, blanks, hsplit, hmain, hblanks⟩ := exists_lines_eq_append cs
    rw [← hmain] at hfields
    have hmem : ∀ line ∈ main, line ∈ Text.lines cs := fun line hline => by simp [hsplit, hline]
    obtain ⟨hvalues, hlineOf⟩ := forall₂_isLineOf hnul hmem hfields
    exact ⟨hvalues, main, blanks, cs, hlineOf, hblanks, hsplit ▸ Text.joined_lines cs, rfl⟩
  · rintro ⟨hfields, main, blanks, cs, hlineOf, hblanks, hjoined, rfl⟩
    have hmain := chars_of_forall₂ hlineOf hfields
    have hne : main ≠ [] := by
      rintro rfl
      simpa [fields] using hlineOf.length_eq
    have hnul : '\x00' ∉ cs := by
      intro hc
      rcases Text.mem_of_joined hjoined hc with ⟨line, hline, hc⟩ | hc | hc
      · rcases List.mem_append.mp hline with hline | hline
        · exact ((hmain line hline).2 _ hc).2.2 rfl
        · simpa [Text.isBlank] using hblanks line hline _ hc
      · simp at hc
      · simp at hc
    have htrimmed := trimmedLines_of_joined hjoined hne
      (fun line hline => ⟨(hmain line hline).1, fun c hc =>
        ⟨((hmain line hline).2 c hc).1, ((hmain line hline).2 c hc).2.1⟩⟩) hblanks
    refine ⟨_, contentLines_eq_ok_iff.mpr ⟨cs, rfl, hnul, htrimmed, by simpa using hne,
      fun hmem => ?_⟩, readLines_trimEnd hlineOf hfields 1⟩
    obtain ⟨line, hline, hempty⟩ := List.mem_map.mp hmem
    exact (hmain line hline).1 hempty

theorem renders_of_read {octets : Bytes} {body : CheckpointBody} (h : read octets = .ok body) :
    body.WellFormed ∧ body.Renders octets := by
  obtain ⟨lines, fields, hlines, hfields, hbody⟩ := read_eq_ok_iff.mp h
  obtain ⟨rfl, hadmissible⟩ := ofFields_eq_ok_iff.mp hbody
  obtain ⟨hvalues, hrenders⟩ := exists_readLines_iff.mp ⟨lines, hlines, hfields⟩
  refine ⟨?_, hrenders⟩
  exact {
    toIsAdmissible := hadmissible
    origin := (hvalues ("origin", body.origin) (by simp [fields])).2
    name := fun field hfield => (hvalues field (by simp [fields, hfield])).1
    value := fun field hfield => (hvalues field (by simp [fields, hfield])).2 }

theorem read_of_renders {octets : Bytes} {body : CheckpointBody} (hbody : body.WellFormed)
    (h : body.Renders octets) : read octets = .ok body := by
  obtain ⟨lines, hlines, hfields⟩ := exists_readLines_iff.mpr ⟨hbody.field, h⟩
  exact read_eq_ok_iff.mpr ⟨lines, body.fields, hlines, hfields,
    ofFields_fields hbody.toIsAdmissible⟩

/-- Octets are a checkpoint if and only if they render a well-formed statement, and then it is the
one that is read. -/
theorem read_eq_ok_iff_renders {octets : Bytes} {body : CheckpointBody} :
    read octets = .ok body ↔ body.WellFormed ∧ body.Renders octets :=
  ⟨renders_of_read, fun ⟨hbody, h⟩ => read_of_renders hbody h⟩

end TransparencyLog.CheckpointBody
