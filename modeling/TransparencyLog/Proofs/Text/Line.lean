import TransparencyLog.Proofs.Text.Blank
import TransparencyLog.Text.Line

/-!
Texts as lines with ends of any kind between them. A text is made of the lines found in it
(`joined_lines`), and the lines that make it are found again, except that blank lines after the last
other one may run together (`exists_map_trimEnd_lines`).
-/

namespace TransparencyLog.Text

/-- The ends that a line may have. -/
def lineEnds : List (List Char) :=
  [['\n'], ['\r', '\n'], ['\r']]

theorem mem_lineEnd {lineEnd : List Char} (hend : lineEnd ∈ lineEnds) {c : Char}
    (hc : c ∈ lineEnd) : c = '\n' ∨ c = '\r' := by
  simp only [lineEnds, List.mem_cons, List.not_mem_nil, or_false] at hend
  rcases hend with rfl | rfl | rfl
  · exact .inl (List.mem_singleton.mp hc)
  · simpa [or_comm] using hc
  · exact .inr (List.mem_singleton.mp hc)

/-- The text of lines with an end between each two, whichever ends these are. -/
inductive Joined : List (List Char) → List Char → Prop
  | single (line : List Char) : Joined [line] line
  | cons (line : List Char) {lineEnd text : List Char} {lines : List (List Char)}
      (hend : lineEnd ∈ lineEnds) (htext : Joined lines text) :
      Joined (line :: lines) (line ++ lineEnd ++ text)

/-- The lines of a text. -/
def lines (cs : List Char) : List (List Char) :=
  splitLines (unifyLineEnds cs)

theorem splitLines_ne_nil (cs : List Char) : splitLines cs ≠ [] := by
  cases cs with
  | nil => simp [splitLines]
  | cons c cs =>
      rw [splitLines]
      split
      · simp
      · split <;> simp

theorem lines_ne_nil (cs : List Char) : lines cs ≠ [] :=
  splitLines_ne_nil _

theorem splitLines_cons {c : Char} (hc : c ≠ '\n') (cs : List Char) :
    splitLines (c :: cs) = (splitLines cs).modifyHead (c :: ·) := by
  rw [splitLines, if_neg hc]
  cases h : splitLines cs with
  | nil => exact absurd h (splitLines_ne_nil cs)
  | cons line lines => rfl

theorem unifyLineEnds_cons {c : Char} (hc : c ≠ '\r') (cs : List Char) :
    unifyLineEnds (c :: cs) = c :: unifyLineEnds cs := by
  rw [unifyLineEnds] <;> simp_all

theorem unifyLineEnds_cr {cs : List Char} (hcs : cs.head? ≠ some '\n') :
    unifyLineEnds ('\r' :: cs) = '\n' :: unifyLineEnds cs := by
  rw [unifyLineEnds]
  rintro rest rfl
  simp at hcs

theorem unifyLineEnds_eq_self {cs : List Char} (h : '\r' ∉ cs) : unifyLineEnds cs = cs := by
  induction cs with
  | nil => rfl
  | cons c cs ih =>
      have hc : c ≠ '\r' := fun heq => h (by simp [heq])
      rw [unifyLineEnds_cons hc, ih fun hmem => h (by simp [hmem])]

theorem eq_nil_of_prefix_lf {run rest : List Char} (hrun : '\n' ∉ run) (h : run <+: '\n' :: rest) :
    run = [] := by
  cases run with
  | nil => rfl
  | cons c run =>
      obtain ⟨rfl, -⟩ := List.cons_prefix_cons.mp h
      exact absurd List.mem_cons_self hrun

theorem prefix_of_prefix_unifyLineEnds {run cs : List Char} (hrun : '\n' ∉ run)
    (h : run <+: unifyLineEnds cs) : run <+: cs := by
  induction cs using unifyLineEnds.induct generalizing run with
  | case1 rest ih =>
      rw [eq_nil_of_prefix_lf hrun h]
      exact List.nil_prefix
  | case2 rest hlf ih =>
      rw [unifyLineEnds] at h
      · rw [eq_nil_of_prefix_lf hrun h]
        exact List.nil_prefix
      · exact hlf
  | case3 c rest hcrlf hcr ih =>
      rw [unifyLineEnds_cons hcr] at h
      cases run with
      | nil => exact List.nil_prefix
      | cons d run =>
          obtain ⟨rfl, hrest⟩ := List.cons_prefix_cons.mp h
          exact List.cons_prefix_cons.mpr
            ⟨rfl, ih (fun hmem => hrun (List.mem_cons_of_mem _ hmem)) hrest⟩
  | case4 => exact h

theorem infix_of_infix_unifyLineEnds {run cs : List Char} (hrun : '\n' ∉ run)
    (h : run <:+: unifyLineEnds cs) : run <:+: cs := by
  induction cs using unifyLineEnds.induct with
  | case1 rest ih =>
      rcases List.infix_cons_iff.mp h with hprefix | hrest
      · rw [eq_nil_of_prefix_lf hrun hprefix]
        exact List.nil_infix
      · exact (ih hrest).trans ⟨['\r', '\n'], [], by simp⟩
  | case2 rest hlf ih =>
      rw [unifyLineEnds] at h
      · rcases List.infix_cons_iff.mp h with hprefix | hrest
        · rw [eq_nil_of_prefix_lf hrun hprefix]
          exact List.nil_infix
        · exact (ih hrest).trans (List.suffix_cons _ _).isInfix
      · exact hlf
  | case3 c rest hcrlf hcr ih =>
      rcases List.infix_cons_iff.mp (unifyLineEnds_cons hcr rest ▸ h) with hprefix | hrest
      · exact (prefix_of_prefix_unifyLineEnds hrun (unifyLineEnds_cons hcr rest ▸ hprefix)).isInfix
      · exact (ih hrest).trans (List.suffix_cons _ _).isInfix
  | case4 => exact h

theorem head?_ne_lf {cs : List Char} (hcs : ∀ rest, cs = '\n' :: rest → False) :
    cs.head? ≠ some '\n' := by
  cases cs with
  | nil => simp
  | cons c rest =>
      simp only [List.head?_cons, ne_eq, Option.some.injEq]
      rintro rfl
      exact hcs rest rfl

@[simp] theorem lines_nil : lines [] = [[]] := rfl

@[simp] theorem lines_lf (cs : List Char) : lines ('\n' :: cs) = [] :: lines cs := by
  simp [lines, unifyLineEnds_cons, splitLines]

@[simp] theorem lines_crlf (cs : List Char) : lines ('\r' :: '\n' :: cs) = [] :: lines cs := by
  simp [lines, unifyLineEnds, splitLines]

theorem lines_cr {cs : List Char} (hcs : cs.head? ≠ some '\n') :
    lines ('\r' :: cs) = [] :: lines cs := by
  rw [lines, unifyLineEnds_cr hcs]
  simp [lines, splitLines]

theorem lines_cons {c : Char} (hlf : c ≠ '\n') (hcr : c ≠ '\r') (cs : List Char) :
    lines (c :: cs) = (lines cs).modifyHead (c :: ·) := by
  rw [lines, unifyLineEnds_cons hcr, splitLines_cons hlf, lines]

theorem lines_append {line : List Char} (hline : ∀ c ∈ line, c ≠ '\n' ∧ c ≠ '\r')
    (cs : List Char) : lines (line ++ cs) = (lines cs).modifyHead (line ++ ·) := by
  induction line with
  | nil => cases h : lines cs <;> simp [h]
  | cons c line ih =>
      have hc := hline c (by simp)
      rw [List.cons_append, lines_cons hc.1 hc.2, ih fun d hd => hline d (by simp [hd])]
      cases lines cs <;> simp

theorem lines_lineEnd_append {lineEnd : List Char} (hend : lineEnd ∈ lineEnds) {cs : List Char}
    (hcs : cs.head? ≠ some '\n') : lines (lineEnd ++ cs) = [] :: lines cs := by
  simp only [lineEnds, List.mem_cons, List.not_mem_nil, or_false] at hend
  rcases hend with rfl | rfl | rfl
  · exact lines_lf cs
  · exact lines_crlf cs
  · exact lines_cr hcs

theorem joined_cons {c : Char} {cs line : List Char} {lines : List (List Char)}
    (h : Joined (line :: lines) cs) : Joined ((c :: line) :: lines) (c :: cs) := by
  cases h with
  | single => exact .single _
  | cons _ hend htext => exact .cons (c :: line) hend htext

theorem joined_nil_cons {lineEnd text : List Char} {lines : List (List Char)}
    (hend : lineEnd ∈ lineEnds) (htext : Joined lines text) :
    Joined ([] :: lines) (lineEnd ++ text) :=
  .cons [] hend htext

theorem joined_lines (cs : List Char) : Joined (lines cs) cs := by
  induction cs using unifyLineEnds.induct with
  | case1 rest ih =>
      rw [lines_crlf]
      have hend : ['\r', '\n'] ∈ lineEnds := by simp [lineEnds]
      exact joined_nil_cons hend ih
  | case2 rest hrest ih =>
      rw [lines_cr (head?_ne_lf hrest)]
      have hend : ['\r'] ∈ lineEnds := by simp [lineEnds]
      exact joined_nil_cons hend ih
  | case3 c rest _ hcr ih =>
      by_cases hlf : c = '\n'
      · subst hlf
        rw [lines_lf]
        have hend : ['\n'] ∈ lineEnds := by simp [lineEnds]
        exact joined_nil_cons hend ih
      · rw [lines_cons hlf hcr]
        cases hlines : lines rest with
        | nil => exact absurd hlines (lines_ne_nil rest)
        | cons line more =>
            rw [hlines] at ih
            exact joined_cons ih
  | case4 => exact .single []

theorem mem_of_mem_lines {cs line : List Char} (hline : line ∈ lines cs) {d : Char}
    (hd : d ∈ line) : d ∈ cs ∧ d ≠ '\n' ∧ d ≠ '\r' := by
  induction cs using unifyLineEnds.induct generalizing line with
  | case1 rest ih =>
      rw [lines_crlf] at hline
      rcases List.mem_cons.mp hline with rfl | hline
      · simp at hd
      · exact ⟨by simp [ih hline hd], (ih hline hd).2⟩
  | case2 rest hrest ih =>
      rw [lines_cr (head?_ne_lf hrest)] at hline
      rcases List.mem_cons.mp hline with rfl | hline
      · simp at hd
      · exact ⟨by simp [ih hline hd], (ih hline hd).2⟩
  | case3 c rest _ hcr ih =>
      by_cases hlf : c = '\n'
      · subst hlf
        rw [lines_lf] at hline
        rcases List.mem_cons.mp hline with rfl | hline
        · simp at hd
        · exact ⟨by simp [ih hline hd], (ih hline hd).2⟩
      · rw [lines_cons hlf hcr] at hline
        cases hlines : lines rest with
        | nil => exact absurd hlines (lines_ne_nil rest)
        | cons first more =>
            rw [hlines] at hline ih
            rcases List.mem_cons.mp hline with rfl | hline
            · rcases List.mem_cons.mp hd with rfl | hd
              · exact ⟨by simp, hlf, hcr⟩
              · exact ⟨by simp [ih List.mem_cons_self hd], (ih List.mem_cons_self hd).2⟩
            · have hmem := ih (List.mem_cons_of_mem first hline) hd
              exact ⟨by simp [hmem], hmem.2⟩
  | case4 =>
      rw [lines_nil, List.mem_singleton] at hline
      subst hline
      simp at hd

theorem mem_of_joined {lines : List (List Char)} {cs : List Char} (h : Joined lines cs) {c : Char}
    (hc : c ∈ cs) : (∃ line ∈ lines, c ∈ line) ∨ c = '\n' ∨ c = '\r' := by
  induction h with
  | single line => exact .inl ⟨line, by simp, hc⟩
  | @cons line lineEnd text lines hend htext ih =>
      rcases List.mem_append.mp hc with hc | hc
      · rcases List.mem_append.mp hc with hc | hc
        · exact .inl ⟨line, by simp, hc⟩
        · exact .inr (mem_lineEnd hend hc)
      · rcases ih hc with ⟨other, hother, hc⟩ | hc
        · exact .inl ⟨other, by simp [hother], hc⟩
        · exact .inr hc

theorem isBlank_of_mem_lines {blanks : List (List Char)} {cs : List Char} (h : Joined blanks cs)
    (hblanks : ∀ line ∈ blanks, ∀ c ∈ line, isBlank c = true) :
    ∀ line ∈ lines cs, ∀ c ∈ line, isBlank c = true := by
  intro line hline c hc
  obtain ⟨hmem, hlf, hcr⟩ := mem_of_mem_lines hline hc
  rcases mem_of_joined h hmem with ⟨blank, hblank, hc⟩ | hc
  · exact hblanks blank hblank c hc
  · exact absurd hc (by simp [hlf, hcr])

theorem head?_of_joined {line text : List Char} {lines : List (List Char)}
    (h : Joined (line :: lines) text) (hline : line ≠ []) : text.head? = line.head? := by
  cases h with
  | single => rfl
  | cons _ hend htext =>
      cases line with
      | nil => exact absurd rfl hline
      | cons c line => simp

/-- The last line with contents is found again; the blank lines after it become empty ones, though
perhaps fewer. -/
theorem exists_map_trimEnd_lines_last {line cs : List Char} {blanks : List (List Char)}
    (h : Joined (line :: blanks) cs) (hline : ∀ c ∈ line, c ≠ '\n' ∧ c ≠ '\r')
    (hblanks : ∀ line ∈ blanks, ∀ c ∈ line, isBlank c = true) :
    ∃ empties, (∀ line ∈ empties, line = []) ∧
      (lines cs).map (trimEnd isBlank) = trimEnd isBlank line :: empties := by
  cases h with
  | single =>
      have hlines := lines_append hline []
      rw [List.append_nil] at hlines
      exact ⟨[], by simp, by simp [hlines]⟩
  | @cons _ lineEnd text _ hend htext =>
      -- the end of the line and what follows it are blank lines, the first one empty
      have hblank := isBlank_of_mem_lines (joined_nil_cons hend htext) (by simpa using hblanks)
      rw [List.append_assoc, lines_append hline]
      cases hlines : lines (lineEnd ++ text) with
      | nil => exact absurd hlines (lines_ne_nil _)
      | cons first more =>
          rw [hlines] at hblank
          refine ⟨more.map (trimEnd isBlank), ?_, ?_⟩
          · intro line hmem
            obtain ⟨blank, hmore, rfl⟩ := List.mem_map.mp hmem
            exact trimEnd_eq_nil_iff.mpr (hblank blank (by simp [hmore]))
          · simp [trimEnd_append (hblank first (by simp))]

/-- Lines that are not empty are found again, without the blanks after them; the blank lines after
the last of them become empty ones, though perhaps fewer. -/
theorem exists_map_trimEnd_lines {main blanks : List (List Char)} {cs : List Char}
    (h : Joined (main ++ blanks) cs) (hne : main ≠ [])
    (hmain : ∀ line ∈ main, line ≠ [] ∧ ∀ c ∈ line, c ≠ '\n' ∧ c ≠ '\r')
    (hblanks : ∀ line ∈ blanks, ∀ c ∈ line, isBlank c = true) :
    ∃ empties, (∀ line ∈ empties, line = []) ∧
      (lines cs).map (trimEnd isBlank) = main.map (trimEnd isBlank) ++ empties := by
  induction main generalizing cs with
  | nil => exact absurd rfl hne
  | cons line main ih =>
      have hline := (hmain line (by simp)).2
      cases main with
      | nil => exact exists_map_trimEnd_lines_last h hline hblanks
      | cons next main =>
          cases h with
          | @cons _ lineEnd text _ hend htext =>
              -- the next line starts with no line feed, so it does not go on with this line's end
              obtain ⟨empties, hempties, heq⟩ :=
                ih htext (by simp) fun line hmem => hmain line (by simp [hmem])
              have hnext := hmain next (by simp)
              have hhead : text.head? ≠ some '\n' := by
                rw [head?_of_joined htext hnext.1]
                intro hlf
                exact (hnext.2 '\n' (List.mem_of_mem_head? hlf)).1 rfl
              refine ⟨empties, hempties, ?_⟩
              rw [List.append_assoc, lines_append hline, lines_lineEnd_append hend hhead]
              simp [heq]

end TransparencyLog.Text
