import TransparencyLog.Json.Load
import TransparencyLog.Proofs.Json.RoundTrip
import TransparencyLog.Proofs.Text.Line
import TransparencyLog.Proofs.Text.Utf8

namespace TransparencyLog.Json

open Value

theorem Layout.isSpaced_indented : Layout.indented.IsSpaced :=
  ⟨⟨[], rfl, by simp⟩, ⟨[.char ' '], rfl, by simp [isGap]⟩⟩

theorem Layout.isSpaced_oneLine : Layout.oneLine.IsSpaced :=
  ⟨⟨[.char ' '], rfl, by simp [isGap]⟩, ⟨[.char ' '], rfl, by simp [isGap]⟩⟩

theorem isDocument_object {members : List (LooseText × Value)} (hnames : (members.map (·.1)).Nodup)
    (h : ∀ member ∈ members, IsDocument member.2) : IsDocument (.object members) := by
  refine .map ?_ ?_ ?_
  · intro entry hentry
    obtain ⟨member, -, rfl⟩ := List.mem_map.mp hentry
    exact ⟨member.1, rfl⟩
  · rw [KeysDistinct, List.pairwise_map]
    rw [List.Nodup, List.pairwise_map] at hnames
    refine hnames.imp fun hne => ?_
    simpa [sameKey] using hne
  · intro entry hentry
    obtain ⟨member, hmember, rfl⟩ := List.mem_map.mp hentry
    exact h member hmember

section Print

variable {layout : Layout} {depth : Nat}

theorem exists_printItems {items : List Value}
    (h : ∀ item ∈ items, ∃ text, printChars layout depth item = .ok text) :
    ∃ texts, printItems layout depth items = .ok texts := by
  induction items with
  | nil => exact ⟨[], rfl⟩
  | cons item items ih =>
      obtain ⟨text, htext⟩ := h item (by simp)
      obtain ⟨texts, htexts⟩ := ih fun other hother => h other (by simp [hother])
      exact ⟨_, printItems_cons_eq_ok_iff.mpr ⟨text, texts, rfl, htext, htexts⟩⟩

theorem exists_printMembers {entries : List (Value × Value)}
    (hnames : ∀ entry ∈ entries, ∃ name, entry.1 = .str name)
    (h : ∀ entry ∈ entries, ∃ text, printChars layout depth entry.2 = .ok text) :
    ∃ texts, printMembers layout depth entries = .ok texts := by
  induction entries with
  | nil => exact ⟨[], rfl⟩
  | cons entry entries ih =>
      obtain ⟨name, hname⟩ := hnames entry (by simp)
      obtain ⟨text, htext⟩ := h entry (by simp)
      obtain ⟨texts, htexts⟩ := ih (fun other hother => hnames other (by simp [hother]))
        fun other hother => h other (by simp [hother])
      exact ⟨_, printMembers_cons_eq_ok_iff.mpr ⟨name, text, texts, hname, rfl, htext, htexts⟩⟩

theorem IsDocument.exists_printChars {value : Value} (h : IsDocument value) (layout : Layout)
    (depth : Nat) : ∃ cs, printChars layout depth value = .ok cs := by
  induction h generalizing depth with
  | null => exact ⟨_, rfl⟩
  | bool b =>
      cases b
      · exact ⟨_, rfl⟩
      · exact ⟨_, rfl⟩
  | int hwrite => exact ⟨_, printChars_int_eq_ok_iff.mpr ⟨_, hwrite, rfl⟩⟩
  | str text => exact ⟨_, rfl⟩
  | list _ ih =>
      obtain ⟨texts, htexts⟩ := exists_printItems fun item hitem => ih item hitem (depth + 1)
      exact ⟨_, printChars_list_eq_ok_iff.mpr ⟨texts, htexts, rfl⟩⟩
  | map hnames _ _ ih =>
      obtain ⟨texts, htexts⟩ :=
        exists_printMembers hnames fun entry hentry => ih entry hentry (depth + 1)
      exact ⟨_, printChars_map_eq_ok_iff.mpr ⟨texts, htexts, rfl⟩⟩

theorem IsDocument.exists_print {value : Value} (h : IsDocument value) (layout : Layout) :
    ∃ text, print layout value = .ok text := by
  obtain ⟨cs, hprint⟩ := h.exists_printChars layout 0
  exact ⟨String.ofList (cs.flatMap CodePoint.spelled), by rw [print, hprint]; rfl⟩

theorem printMembers_texts (layout : Layout) (depth : Nat)
    (members : List (LooseText × LooseText)) :
    printMembers layout depth (members.map fun member => (.str member.1, .str member.2)) =
      .ok (members.map fun member => quote layout.charset member.1 ++ layout.colon ++
        quote layout.charset member.2) := by
  induction members with
  | nil => rfl
  | cons member members ih =>
      rw [List.map_cons, printMembers_cons_eq_ok_iff]
      exact ⟨member.1, _, _, rfl, rfl, rfl, ih⟩

end Print

/-- The code points of lines in ASCII: none of the control characters but the line feed. -/
def IsPlain (code : CodePoint) : Prop :=
  code = .char '\n' ∨ 32 ≤ code.toNat ∧ code.toNat < 127

theorem IsPlain.exists_char {code : CodePoint} (h : IsPlain code) : ∃ c, code = .char c := by
  cases code with
  | char c => exact ⟨c, rfl⟩
  | half part =>
      have hhalf := part.isHalf
      rcases h with h | h
      · cases h
      · simp only [CodePoint.toNat] at h
        omega

theorem exists_map_char {codes : List CodePoint} (h : ∀ code ∈ codes, IsPlain code) :
    ∃ cs : List Char, codes = cs.map .char := by
  induction codes with
  | nil => exact ⟨[], rfl⟩
  | cons code codes ih =>
      obtain ⟨hcode, hcodes⟩ := List.forall_mem_cons.mp h
      obtain ⟨c, rfl⟩ := hcode.exists_char
      obtain ⟨cs, rfl⟩ := ih hcodes
      exact ⟨c :: cs, rfl⟩

/-- All that a layout puts into a text is plain. -/
structure Layout.IsPlain (layout : Layout) : Prop where
  charset : layout.charset = .ascii
  separator : ∀ c ∈ layout.separator, Json.IsPlain c
  colon : ∀ c ∈ layout.colon, Json.IsPlain c

theorem isPlain_of_range {code : CodePoint} (h : 32 ≤ code.toNat ∧ code.toNat < 127) :
    IsPlain code :=
  .inr h

theorem Layout.isPlain_indented : Layout.indented.IsPlain := by
  refine ⟨rfl, ?_, ?_⟩
  · intro c hc
    obtain rfl := List.mem_singleton.mp hc
    exact isPlain_of_range (by decide)
  · intro c hc
    simp only [indented, List.mem_cons, List.not_mem_nil, or_false] at hc
    rcases hc with rfl | rfl
    · exact isPlain_of_range (by decide)
    · exact isPlain_of_range (by decide)

theorem isPlain_hexDigit {n : Nat} (h : n < 16) : IsPlain (.char (Hex.digit n)) := by
  refine isPlain_of_range ?_
  rw [CodePoint.toNat_char]
  revert n
  decide

theorem isPlain_of_mem_padded {count n : Nat} {c : Char} (hc : c ∈ Hex.padded count n) :
    IsPlain (.char c) := by
  induction count generalizing n with
  | zero => simp [Hex.padded] at hc
  | succ count ih =>
      rw [Hex.padded] at hc
      rcases List.mem_append.mp hc with hc | hc
      · exact ih hc
      · rw [List.mem_singleton.mp hc]
        exact isPlain_hexDigit (Nat.mod_lt n (by decide))

theorem isPlain_of_mem_unitEscape {n : Nat} {c : Char} (hc : c ∈ unitEscape n) :
    IsPlain (.char c) := by
  rcases List.mem_append.mp hc with hc | hc
  · simp only [List.mem_cons, List.not_mem_nil, or_false] at hc
    rcases hc with rfl | rfl
    · exact isPlain_of_range (by decide)
    · exact isPlain_of_range (by decide)
  · exact isPlain_of_mem_padded hc

theorem isPlain_of_mem_codeEscape {n : Nat} {c : Char} (hc : c ∈ codeEscape n) :
    IsPlain (.char c) := by
  rw [codeEscape] at hc
  split at hc
  · exact isPlain_of_mem_unitEscape hc
  · exact (List.mem_append.mp hc).elim isPlain_of_mem_unitEscape isPlain_of_mem_unitEscape

theorem isPlain_of_mem_escape {a b c : Char} (hc : c ∈ [a, b])
    (ha : 32 ≤ a.toNat ∧ a.toNat < 127) (hb : 32 ≤ b.toNat ∧ b.toNat < 127) :
    IsPlain (.char c) := by
  simp only [List.mem_cons, List.not_mem_nil, or_false] at hc
  rcases hc with rfl | rfl
  · exact isPlain_of_range ha
  · exact isPlain_of_range hb

theorem isPlain_of_mem_escapeChar {charset : Charset} (hcharset : charset = .ascii) {c d : Char}
    (hd : d ∈ escapeChar charset c) : IsPlain (.char d) := by
  revert hcharset hd
  fun_cases escapeChar charset c with
  | case1 | case2 | case3 | case4 | case5 | case6 | case7 =>
      intro _ hd
      exact isPlain_of_mem_escape hd (by decide) (by decide)
  | case8 => exact fun _ => isPlain_of_mem_unitEscape
  | case9 =>
      intro hcharset
      cases hcharset
  | case10 _ _ _ _ _ _ _ hcontrol hascii =>
      intro _ hd
      obtain rfl := List.mem_singleton.mp hd
      exact isPlain_of_range ⟨Nat.le_of_not_lt hcontrol, hascii⟩
  | case11 => exact fun _ => isPlain_of_mem_codeEscape

theorem isPlain_quotationMark : IsPlain (.char '"') :=
  isPlain_of_range (by decide)

theorem isPlain_of_mem_escapeCode {code escaped : CodePoint} (h : escaped ∈ escape .ascii code) :
    IsPlain escaped := by
  cases code with
  | char c =>
      obtain ⟨d, hd, rfl⟩ := List.mem_map.mp h
      exact isPlain_of_mem_escapeChar rfl hd
  | half part =>
      obtain ⟨d, hd, rfl⟩ := List.mem_map.mp h
      exact isPlain_of_mem_unitEscape hd

theorem isPlain_of_mem_quote {text : LooseText} {code : CodePoint} (h : code ∈ quote .ascii text) :
    IsPlain code := by
  rw [quote, List.cons_append, List.mem_cons, List.mem_append, List.mem_singleton] at h
  rcases h with rfl | h | rfl
  · exact isPlain_quotationMark
  · obtain ⟨inside, -, h⟩ := List.mem_flatMap.mp h
    exact isPlain_of_mem_escapeCode h
  · exact isPlain_quotationMark

theorem isPlain_of_mem_write {n : Int} {cs : List Char} (h : Numeral.write n = .ok cs) {c : Char}
    (hc : c ∈ cs) : IsPlain (.char c) := by
  obtain rfl := Numeral.eq_chars_of_write h
  have hdigit : ∀ d ∈ Numeral.digits n.natAbs, IsPlain (.char d) := by
    intro d hd
    obtain ⟨k, hk, rfl⟩ := Numeral.exists_eq_digitChar (Numeral.isDigit_of_mem_digits hd)
    refine isPlain_of_range ?_
    rw [CodePoint.toNat_char, Nat.toNat_digitChar_of_lt_ten hk]
    omega
  rw [Numeral.chars] at hc
  split at hc
  · rcases List.mem_cons.mp hc with rfl | hc
    · exact isPlain_of_range (by decide)
    · exact hdigit c hc
  · exact hdigit c hc

section Plain

variable {layout : Layout} {depth : Nat}

theorem isPlain_of_mem_lineBreak {c : CodePoint} (hc : c ∈ layout.lineBreak depth) : IsPlain c := by
  unfold Layout.lineBreak at hc
  split at hc
  · simp at hc
  · rcases List.mem_cons.mp hc with rfl | hc
    · exact .inl rfl
    · rw [List.eq_of_mem_replicate hc]
      exact isPlain_of_range (by decide)

theorem isPlain_of_mem_intercalate {separator : List CodePoint} {texts : List (List CodePoint)}
    (hseparator : ∀ c ∈ separator, IsPlain c) (htexts : ∀ text ∈ texts, ∀ c ∈ text, IsPlain c) :
    ∀ c ∈ List.intercalate separator texts, IsPlain c := by
  intro c hc
  rw [List.intercalate, List.mem_flatten] at hc
  obtain ⟨text, htext, hc⟩ := hc
  induction texts with
  | nil => simp at htext
  | cons first rest ih =>
      cases rest with
      | nil =>
          obtain rfl : text = first := by simpa using htext
          exact htexts text (by simp) c hc
      | cons second rest =>
          rw [List.intersperse_cons_cons, List.mem_cons, List.mem_cons] at htext
          rcases htext with rfl | rfl | htext
          · exact htexts text (by simp) c hc
          · exact hseparator c hc
          · exact ih (fun other hother => htexts other (by simp [hother])) htext

theorem isPlain_of_mem_enclose (hlayout : layout.IsPlain) {opening closing : CodePoint}
    (hopening : IsPlain opening) (hclosing : IsPlain closing) {texts : List (List CodePoint)}
    (htexts : ∀ text ∈ texts, ∀ c ∈ text, IsPlain c) {c : CodePoint}
    (hc : c ∈ layout.enclose depth opening closing texts) : IsPlain c := by
  by_cases hnil : texts = []
  · rw [hnil, Layout.enclose_nil] at hc
    simp only [List.mem_cons, List.not_mem_nil, or_false] at hc
    rcases hc with rfl | rfl
    · exact hopening
    · exact hclosing
  · rw [layout.enclose_of_ne_nil depth opening closing hnil] at hc
    simp only [List.mem_cons, List.mem_append, List.not_mem_nil, or_false] at hc
    rcases hc with rfl | hc | hc | hc | rfl
    · exact hopening
    · exact isPlain_of_mem_lineBreak hc
    · refine isPlain_of_mem_intercalate (fun d hd => ?_) htexts c hc
      exact (List.mem_append.mp hd).elim (hlayout.separator d) isPlain_of_mem_lineBreak
    · exact isPlain_of_mem_lineBreak hc
    · exact hclosing

theorem forall_of_printItems {P : List CodePoint → Prop} {items : List Value}
    {texts : List (List CodePoint)} (hprint : printItems layout depth items = .ok texts)
    (h : ∀ item ∈ items, ∀ cs, printChars layout depth item = .ok cs → P cs) :
    ∀ text ∈ texts, P text := by
  induction items generalizing texts with
  | nil =>
      obtain rfl := Except.ok.inj hprint
      simp
  | cons item items ih =>
      obtain ⟨text, more, rfl, htext, hmore⟩ := printItems_cons_eq_ok_iff.mp hprint
      exact List.forall_mem_cons.mpr ⟨h item (by simp) text htext,
        ih hmore fun other hother => h other (by simp [hother])⟩

theorem forall_of_printMembers {P : List CodePoint → Prop} {entries : List (Value × Value)}
    {texts : List (List CodePoint)} (hprint : printMembers layout depth entries = .ok texts)
    (h : ∀ entry ∈ entries, ∀ name cs, printChars layout depth entry.2 = .ok cs →
      P (quote layout.charset name ++ layout.colon ++ cs)) : ∀ text ∈ texts, P text := by
  induction entries generalizing texts with
  | nil =>
      obtain rfl := Except.ok.inj hprint
      simp
  | cons entry entries ih =>
      obtain ⟨name, text, more, -, rfl, htext, hmore⟩ := printMembers_cons_eq_ok_iff.mp hprint
      exact List.forall_mem_cons.mpr ⟨h entry (by simp) name text htext,
        ih hmore fun other hother => h other (by simp [hother])⟩

theorem isPlain_of_mem_printChars (hlayout : layout.IsPlain) {value : Value}
    (hvalue : IsDocument value) {cs : List CodePoint}
    (hprint : printChars layout depth value = .ok cs) : ∀ c ∈ cs, IsPlain c := by
  have hword : ∀ word : List CodePoint, (∀ c ∈ word, 32 ≤ c.toNat ∧ c.toNat < 127) →
      ∀ c ∈ word, IsPlain c := fun word h c hc => isPlain_of_range (h c hc)
  induction hvalue generalizing depth cs with
  | null =>
      obtain rfl := Except.ok.inj hprint
      exact hword _ (by simp)
  | bool b =>
      cases b with
      | false =>
          obtain rfl := Except.ok.inj hprint
          exact hword _ (by simp)
      | true =>
          obtain rfl := Except.ok.inj hprint
          exact hword _ (by simp)
  | int _ =>
      obtain ⟨digits, hwrite, rfl⟩ := printChars_int_eq_ok_iff.mp hprint
      intro code hcode
      obtain ⟨c, hc, rfl⟩ := List.mem_map.mp hcode
      exact isPlain_of_mem_write hwrite hc
  | str text =>
      obtain rfl := Except.ok.inj hprint
      rw [hlayout.charset]
      exact fun c => isPlain_of_mem_quote
  | list _ ih =>
      obtain ⟨texts, htexts, rfl⟩ := printChars_list_eq_ok_iff.mp hprint
      have hplain := forall_of_printItems (P := fun text => ∀ c ∈ text, IsPlain c) htexts
        fun item hitem _ h => ih item hitem h
      exact fun c => isPlain_of_mem_enclose hlayout (isPlain_of_range (by decide))
        (isPlain_of_range (by decide)) hplain
  | map _ _ _ ih =>
      obtain ⟨texts, htexts, rfl⟩ := printChars_map_eq_ok_iff.mp hprint
      have hplain := forall_of_printMembers (P := fun text => ∀ c ∈ text, IsPlain c) htexts
        fun entry hentry name cs hcs => by
          rw [hlayout.charset]
          exact List.forall_mem_append.mpr ⟨List.forall_mem_append.mpr
            ⟨fun _ => isPlain_of_mem_quote, hlayout.colon⟩, ih entry hentry hcs⟩
      exact fun c => isPlain_of_mem_enclose hlayout (isPlain_of_range (by decide))
        (isPlain_of_range (by decide)) hplain

theorem IsDocument.exists_chars (hlayout : layout.IsPlain) {value : Value}
    (hvalue : IsDocument value) (depth : Nat) :
    ∃ cs : List Char, printChars layout depth value = .ok (cs.map .char) := by
  obtain ⟨codes, hprint⟩ := hvalue.exists_printChars layout depth
  obtain ⟨cs, rfl⟩ := exists_map_char (isPlain_of_mem_printChars hlayout hvalue hprint)
  exact ⟨cs, hprint⟩

theorem print_of_printChars {value : Value} {cs : List Char}
    (h : printChars layout 0 value = .ok (cs.map .char)) :
    print layout value = .ok (String.ofList cs) := by
  rw [print, h]
  exact congrArg (fun cs => Except.ok (String.ofList cs)) (CodePoint.flatMap_spelled_map_char cs)

end Plain

section Read

variable {layout : Layout} {value : Value}

theorem readDocument_append {cs gap : List CodePoint} (hlayout : layout.IsSpaced)
    (hvalue : IsDocument value) (hnesting : nesting value ≤ nestingLimit)
    (hprint : printChars layout 0 value = .ok cs)
    (hgap : ∀ c ∈ gap, isGap c = true) : readDocument (cs ++ gap) = .ok value := by
  have hends : EndsNumber gap := by
    rw [← List.append_nil gap]
    exact endsNumber_append hgap (by simp [EndsNumber])
  have hfuel : cs.length ≤ 2 * (cs ++ gap).length + 2 := by
    rw [List.length_append]
    omega
  have hread := readValue_append hlayout hvalue hprint hnesting hfuel hends
  have hskip : skip (cs ++ gap) = cs ++ gap := by
    obtain ⟨c, tail, rfl, hc, -⟩ := exists_cons_of_printChars hvalue hprint
    exact skip_cons hc (tail ++ gap)
  have hend : skip gap = [] := List.dropWhile_eq_nil_iff.mpr hgap
  rw [readDocument, hskip, hread, ok_bind]
  dsimp only
  rw [hend]
  rfl

theorem parse_append {cs gap : List Char} (hlayout : layout.IsSpaced) (hvalue : IsDocument value)
    (hnesting : nesting value ≤ nestingLimit)
    (hprint : printChars layout 0 value = .ok (cs.map .char))
    (hgap : ∀ c ∈ gap, isGap (.char c) = true) :
    parse (String.ofList (cs ++ gap)) = .ok value := by
  have hmark : (cs.map CodePoint.char ++ gap.map CodePoint.char).head? ≠ some (.char '\uFEFF') := by
    obtain ⟨c, tail, heq, -, -, hascii⟩ := exists_cons_of_printChars hvalue hprint
    rw [heq, List.cons_append, List.head?_cons, ne_eq, Option.some.injEq]
    rintro rfl
    revert hascii
    decide
  have hspace : ∀ code ∈ gap.map CodePoint.char, isGap code = true := by
    intro code hcode
    obtain ⟨c, hc, rfl⟩ := List.mem_map.mp hcode
    exact hgap c hc
  rw [parse, LooseText.codes_whole, String.toList_ofList, List.map_append, readText, if_neg hmark,
    readDocument_append hlayout hvalue hnesting hprint hspace]

theorem loadFile_encodeChars {cs gap : List Char} (hlayout : layout.IsSpaced)
    (hplain : layout.IsPlain) (hvalue : IsDocument value) (hnesting : nesting value ≤ nestingLimit)
    (hprint : printChars layout 0 value = .ok (cs.map .char)) (hgap : ∀ c ∈ gap, c = '\n') :
    loadFile (Utf8.encodeChars (cs ++ gap)) = .ok value := by
  have hcr : '\r' ∉ cs ++ gap := by
    intro hmem
    rcases List.mem_append.mp hmem with hmem | hmem
    · rcases isPlain_of_mem_printChars hplain hvalue hprint _
        (List.mem_map_of_mem hmem) with hc | hc
      · revert hc
        decide
      · revert hc
        decide
    · exact absurd (hgap _ hmem) (by decide)
  have hspace : ∀ c ∈ gap, isGap (.char c) = true := by
    intro c hc
    rw [hgap c hc]
    rfl
  rw [loadFile, fileText, Utf8.decodeChars_encodeChars]
  dsimp only
  rw [Text.unifyLineEnds_eq_self hcr, loadText,
    parse_append hlayout hvalue hnesting hprint hspace]

end Read

end TransparencyLog.Json
