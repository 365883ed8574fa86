import TransparencyLog.Json.Printer
import TransparencyLog.Proofs.Json.Escape
import TransparencyLog.Proofs.Json.Number
import TransparencyLog.Proofs.Outcome
import TransparencyLog.Proofs.Value

/-!
Documents are read from their text (`readValue_append`), in every layout that puts nothing but white
space around its commas and colons; so no two documents have the same text.
-/

namespace TransparencyLog.Json

open Value

/-- The values that are read as what they are: their integers are not too long, their maps have each
name once, and there are no tuples and no floating-point numbers in them. -/
inductive IsDocument : Value → Prop
  | null : IsDocument .null
  | bool (b : Bool) : IsDocument (.bool b)
  | int {n : Int} {cs : List Char} (h : Numeral.write n = .ok cs) : IsDocument (.int n)
  | str (text : LooseText) : IsDocument (.str text)
  | list {items : List Value} (h : ∀ item ∈ items, IsDocument item) : IsDocument (.list items)
  | map {entries : List (Value × Value)} (hnames : ∀ entry ∈ entries, ∃ name, entry.1 = .str name)
      (hkeys : KeysDistinct entries) (h : ∀ entry ∈ entries, IsDocument entry.2) :
      IsDocument (.map entries)

/-- Nothing but white space stands around the commas and colons. -/
structure Layout.IsSpaced (layout : Layout) : Prop where
  separator : ∃ gap, layout.separator = .char ',' :: gap ∧ ∀ c ∈ gap, isGap c = true
  colon : ∃ gap, layout.colon = .char ':' :: gap ∧ ∀ c ∈ gap, isGap c = true

theorem Layout.isSpaced_compact : Layout.compact.IsSpaced :=
  ⟨⟨[], rfl, by simp⟩, ⟨[], rfl, by simp⟩⟩

theorem Layout.isGap_of_mem_lineBreak (layout : Layout) (depth : Nat) :
    ∀ c ∈ layout.lineBreak depth, isGap c = true := by
  intro c hc
  unfold lineBreak at hc
  split at hc
  · simp at hc
  · rcases List.mem_cons.mp hc with rfl | hc
    · rfl
    · rw [List.eq_of_mem_replicate hc]
      rfl

theorem skip_cons {c : CodePoint} (hc : isGap c = false) (rest : List CodePoint) :
    skip (c :: rest) = c :: rest := by
  rw [skip, List.dropWhile_cons_of_neg (by simp [hc])]

theorem skip_append {gap : List CodePoint} (hgap : ∀ c ∈ gap, isGap c = true) {c : CodePoint}
    (hc : isGap c = false) (rest : List CodePoint) : skip (gap ++ c :: rest) = c :: rest := by
  rw [skip, List.dropWhile_append_of_pos hgap]
  exact skip_cons hc rest

theorem Layout.enclose_nil (layout : Layout) (depth : Nat) (opening closing : CodePoint) :
    layout.enclose depth opening closing [] = [opening, closing] := rfl

theorem Layout.enclose_of_ne_nil (layout : Layout) (depth : Nat) (opening closing : CodePoint)
    {texts : List (List CodePoint)} (h : texts ≠ []) :
    layout.enclose depth opening closing texts =
      opening :: (layout.lineBreak (depth + 1) ++
        (List.intercalate (layout.separator ++ layout.lineBreak (depth + 1)) texts ++
          (layout.lineBreak depth ++ [closing]))) := by
  rw [enclose, if_neg (by simpa using h)]
  simp

section Printer

variable {layout : Layout} {depth : Nat}

theorem printChars_int_eq_ok_iff {n : Int} {cs : List CodePoint} :
    printChars layout depth (.int n) = .ok cs ↔
      ∃ digits, Numeral.write n = .ok digits ∧ digits.map .char = cs := by
  rw [printChars]
  unfold printInt
  split <;> rename_i heq <;> simp [heq]

theorem printItems_cons_eq_ok_iff {item : Value} {rest : List Value}
    {texts : List (List CodePoint)} :
    printItems layout depth (item :: rest) = .ok texts ↔
      ∃ text more, texts = text :: more ∧ printChars layout depth item = .ok text ∧
        printItems layout depth rest = .ok more := by
  simp only [printItems, bind_eq_ok_iff, pure, Except.pure, Except.ok.injEq]
  constructor
  · rintro ⟨text, htext, more, hmore, rfl⟩
    exact ⟨text, more, rfl, htext, hmore⟩
  · rintro ⟨text, more, rfl, htext, hmore⟩
    exact ⟨text, htext, more, hmore, rfl⟩

theorem printMembers_cons_eq_ok_iff {entry : Value × Value} {rest : List (Value × Value)}
    {texts : List (List CodePoint)} :
    printMembers layout depth (entry :: rest) = .ok texts ↔
      ∃ name text more, entry.1 = .str name ∧
        texts = (quote layout.charset name ++ layout.colon ++ text) :: more ∧
        printChars layout depth entry.2 = .ok text ∧ printMembers layout depth rest = .ok more := by
  obtain ⟨key, value⟩ := entry
  cases key <;>
    simp only [printMembers, bind_eq_ok_iff, pure, Except.pure, Except.ok.injEq, reduceCtorEq,
      false_and, exists_false, Value.str.injEq]
  case str name =>
    constructor
    · rintro ⟨text, htext, more, hmore, rfl⟩
      exact ⟨name, text, more, rfl, rfl, htext, hmore⟩
    · rintro ⟨_, text, more, rfl, rfl, htext, hmore⟩
      exact ⟨text, htext, more, hmore, rfl⟩

theorem exists_printChars_of_mem_items {items : List Value} {texts : List (List CodePoint)}
    (h : printItems layout depth items = .ok texts) {item : Value} (hitem : item ∈ items) :
    ∃ text, printChars layout depth item = .ok text := by
  induction items generalizing texts with
  | nil => simp at hitem
  | cons first items ih =>
      obtain ⟨text, more, -, htext, hmore⟩ := printItems_cons_eq_ok_iff.mp h
      rcases List.mem_cons.mp hitem with rfl | hitem
      · exact ⟨text, htext⟩
      · exact ih hmore hitem

theorem exists_printChars_of_mem_entries {entries : List (Value × Value)}
    {texts : List (List CodePoint)} (h : printMembers layout depth entries = .ok texts)
    {entry : Value × Value} (hentry : entry ∈ entries) :
    ∃ text, printChars layout depth entry.2 = .ok text := by
  induction entries generalizing texts with
  | nil => simp at hentry
  | cons first entries ih =>
      obtain ⟨_, text, more, -, -, htext, hmore⟩ := printMembers_cons_eq_ok_iff.mp h
      rcases List.mem_cons.mp hentry with rfl | hentry
      · exact ⟨text, htext⟩
      · exact ih hmore hentry

theorem printChars_list_eq_ok_iff {items : List Value} {cs : List CodePoint} :
    printChars layout depth (.list items) = .ok cs ↔
      ∃ texts, printItems layout (depth + 1) items = .ok texts ∧
        layout.enclose depth (.char '[') (.char ']') texts = cs := by
  simp only [printChars, bind_eq_ok_iff, pure, Except.pure, Except.ok.injEq]

theorem printChars_map_eq_ok_iff {entries : List (Value × Value)} {cs : List CodePoint} :
    printChars layout depth (.map entries) = .ok cs ↔
      ∃ texts, printMembers layout (depth + 1) entries = .ok texts ∧
        layout.enclose depth (.char '\x7b') (.char '\x7d') texts = cs := by
  simp only [printChars, bind_eq_ok_iff, pure, Except.pure, Except.ok.injEq]

end Printer

theorem quote_append (charset : Charset) (text : LooseText) (cs : List CodePoint) :
    quote charset text ++ cs =
      .char '"' :: (text.codes.flatMap (escape charset) ++ .char '"' :: cs) := by
  simp [quote]

section Reader

variable {fuel room : Nat} {cs left more rest : List CodePoint}

theorem readValue_atom {c : CodePoint} (hc : c ∉ [.char '"', .char '[', .char '\x7b']) :
    readValue (fuel + 1) room (c :: cs) = readAtom (c :: cs) := by
  simp only [List.mem_cons, List.not_mem_nil, or_false, not_or] at hc
  rw [readValue] <;> simp [hc]

theorem readValue_quote (charset : Charset) (text : LooseText) :
    readValue (fuel + 1) room (quote charset text ++ rest) = .ok (.str text, rest) := by
  rw [quote_append, readValue, readString_quote, List.reverse_nil, List.nil_append, ok_bind]
  dsimp only
  rw [LooseText.ofCodes_codes]
  rfl

theorem goInside_succ (container : TooDeep) : goInside (room + 1) container = .ok room := rfl

theorem readValue_list_nil (hskip : skip cs = .char ']' :: rest) :
    readValue (fuel + 1) (room + 1) (.char '[' :: cs) = .ok (.list [], rest) := by
  rw [readValue, goInside_succ, ok_bind, hskip]
  rfl

theorem readValue_list {items : List Value} {c : CodePoint} (hskip : skip cs = c :: left)
    (hc : c ≠ .char ']') (hread : readItems fuel room [] (c :: left) = .ok (items, rest)) :
    readValue (fuel + 1) (room + 1) (.char '[' :: cs) = .ok (.list items, rest) := by
  rw [readValue, goInside_succ, ok_bind, hskip]
  split
  · rename_i heq
    exact absurd (List.cons.inj heq).1 hc
  · rw [hread]
    rfl

theorem readValue_map_nil (hskip : skip cs = .char '\x7d' :: rest) :
    readValue (fuel + 1) (room + 1) (.char '\x7b' :: cs) = .ok (.map [], rest) := by
  rw [readValue, goInside_succ, ok_bind, hskip]
  rfl

theorem readValue_map {entries : List (Value × Value)} {c : CodePoint} (hskip : skip cs = c :: left)
    (hc : c ≠ .char '\x7d') (hread : readMembers fuel room [] (c :: left) = .ok (entries, rest)) :
    readValue (fuel + 1) (room + 1) (.char '\x7b' :: cs) =
      .ok (.map (entriesOf entries), rest) := by
  rw [readValue, goInside_succ, ok_bind, hskip]
  split
  · rename_i heq
    exact absurd (List.cons.inj heq).1 hc
  · rw [hread]
    rfl

theorem readItems_last {done : List Value} {item : Value}
    (hread : readValue fuel room cs = .ok (item, left)) (hskip : skip left = .char ']' :: rest) :
    readItems (fuel + 1) room done cs = .ok ((item :: done).reverse, rest) := by
  rw [readItems, hread, ok_bind]
  dsimp only
  rw [hskip]
  rfl

theorem readItems_more {done : List Value} {item : Value}
    (hread : readValue fuel room cs = .ok (item, left)) (hskip : skip left = .char ',' :: rest) :
    readItems (fuel + 1) room done cs = readItems fuel room (item :: done) (skip rest) := by
  rw [readItems, hread, ok_bind]
  dsimp only
  rw [hskip]
  rfl

theorem readMembers_last {done : List (Value × Value)} {charset : Charset} {name : LooseText}
    {value : Value} (hcolon : skip cs = .char ':' :: left)
    (hread : readValue fuel room (skip left) = .ok (value, more))
    (hskip : skip more = .char '\x7d' :: rest) :
    readMembers (fuel + 1) room done (quote charset name ++ cs) =
      .ok (((.str name, value) :: done).reverse, rest) := by
  rw [quote_append, readMembers, readString_quote]
  simp only [ok_bind, hcolon, hread, hskip, List.reverse_nil, List.nil_append,
    LooseText.ofCodes_codes]
  rfl

theorem readMembers_more {done : List (Value × Value)} {charset : Charset} {name : LooseText}
    {value : Value} (hcolon : skip cs = .char ':' :: left)
    (hread : readValue fuel room (skip left) = .ok (value, more))
    (hskip : skip more = .char ',' :: rest) :
    readMembers (fuel + 1) room done (quote charset name ++ cs) =
      readMembers fuel room ((.str name, value) :: done) (skip rest) := by
  rw [quote_append, readMembers, readString_quote]
  simp only [ok_bind, hcolon, hread, hskip, List.reverse_nil, List.nil_append,
    LooseText.ofCodes_codes]

end Reader

theorem Layout.exists_enclose_eq (layout : Layout) (depth : Nat) (opening closing : CodePoint)
    (texts : List (List CodePoint)) :
    ∃ tail, layout.enclose depth opening closing texts = opening :: tail := by
  by_cases h : texts = []
  · exact ⟨_, by rw [h, enclose_nil]⟩
  · exact ⟨_, layout.enclose_of_ne_nil depth opening closing h⟩

theorem exists_cons_of_printChars {layout : Layout} {depth : Nat} {value : Value}
    {cs : List CodePoint} (hvalue : IsDocument value) (h : printChars layout depth value = .ok cs) :
    ∃ c tail, cs = c :: tail ∧ isGap c = false ∧ c ≠ .char ']' ∧ c.toNat < 128 := by
  cases hvalue with
  | null =>
      obtain rfl := Except.ok.inj h
      exact ⟨_, _, rfl, by decide, by decide, by decide⟩
  | bool b =>
      cases b <;> obtain rfl := Except.ok.inj h <;>
        exact ⟨_, _, rfl, by decide, by decide, by decide⟩
  | int _ =>
      obtain ⟨digits, hwrite, rfl⟩ := printChars_int_eq_ok_iff.mp h
      obtain ⟨c, tail, rfl, hgap, hc, hascii⟩ := exists_cons_of_write hwrite
      exact ⟨.char c, tail.map .char, rfl, hgap, fun heq => hc (by simp_all), hascii⟩
  | str text =>
      obtain rfl := Except.ok.inj h
      exact ⟨_, _, rfl, by decide, by decide, by decide⟩
  | @list items _ =>
      obtain ⟨texts, -, rfl⟩ := printChars_list_eq_ok_iff.mp h
      obtain ⟨tail, heq⟩ := layout.exists_enclose_eq depth (.char '[') (.char ']') texts
      exact ⟨_, _, heq, by decide, by decide, by decide⟩
  | @map entries _ _ _ =>
      obtain ⟨texts, -, rfl⟩ := printChars_map_eq_ok_iff.mp h
      obtain ⟨tail, heq⟩ := layout.exists_enclose_eq depth (.char '\x7b') (.char '\x7d') texts
      exact ⟨_, _, heq, by decide, by decide, by decide⟩

theorem endsNumber_cons {c : CodePoint} (hc : c ∈ [.char ',', .char ']', .char '\x7d'])
    (rest : List CodePoint) :
    EndsNumber (c :: rest) := by
  intro d hd
  obtain rfl : c = .char d := by simpa using hd
  simp only [List.mem_cons, List.not_mem_nil, or_false, CodePoint.char.injEq] at hc
  rcases hc with rfl | rfl | rfl <;> decide

theorem endsNumber_append {gap rest : List CodePoint} (hgap : ∀ c ∈ gap, isGap c = true)
    (hrest : EndsNumber rest) : EndsNumber (gap ++ rest) := by
  cases gap with
  | nil => exact hrest
  | cons first gap =>
      intro d hd
      obtain rfl : first = .char d := by simpa using hd
      have hfirst := hgap (.char d) (by simp)
      simp only [isGap, List.contains_iff_mem, List.mem_cons, List.not_mem_nil, or_false,
        CodePoint.char.injEq] at hfirst
      rcases hfirst with rfl | rfl | rfl | rfl <;> decide

theorem Layout.IsSpaced.length_separator_pos {layout : Layout} (h : layout.IsSpaced) :
    0 < layout.separator.length := by
  obtain ⟨space, hseparator, -⟩ := h.separator
  simp [hseparator]

theorem Layout.IsSpaced.exists_separator {layout : Layout} (h : layout.IsSpaced)
    {gap : List CodePoint} (hgap : ∀ c ∈ gap, isGap c = true) {c : CodePoint} (hc : isGap c = false)
    (rest : List CodePoint) :
    ∃ left, layout.separator ++ gap ++ c :: rest = .char ',' :: left ∧ skip left = c :: rest := by
  obtain ⟨space, hseparator, hspace⟩ := h.separator
  refine ⟨space ++ gap ++ c :: rest, by simp [hseparator], skip_append (fun d hd => ?_) hc rest⟩
  exact (List.mem_append.mp hd).elim (hspace d) (hgap d)

theorem Layout.IsSpaced.exists_colon {layout : Layout} (h : layout.IsSpaced) {c : CodePoint}
    (hc : isGap c = false) (rest : List CodePoint) :
    ∃ left, layout.colon ++ c :: rest = .char ':' :: left ∧ skip left = c :: rest := by
  obtain ⟨space, hcolon, hspace⟩ := h.colon
  exact ⟨space ++ c :: rest, by simp [hcolon], skip_append hspace hc rest⟩

/-- A value is read from its texts in a layout, whatever follows them. -/
def IsReadBack (layout : Layout) (value : Value) : Prop :=
  ∀ {depth fuel room : Nat} {cs rest : List CodePoint}, printChars layout depth value = .ok cs →
    nesting value ≤ room → cs.length ≤ fuel → EndsNumber rest →
    readValue fuel room (cs ++ rest) = .ok (value, rest)

theorem readItems_append {layout : Layout} (hlayout : layout.IsSpaced)
    {gap tail rest : List CodePoint}
    (hgap : ∀ c ∈ gap, isGap c = true) (htail : ∀ c ∈ tail, isGap c = true) {depth fuel room : Nat}
    {items done : List Value} {texts : List (List CodePoint)} (hne : items ≠ [])
    (hitems : ∀ item ∈ items, IsDocument item ∧ IsReadBack layout item ∧ nesting item ≤ room)
    (hprint : printItems layout depth items = .ok texts)
    (hfuel : (List.intercalate (layout.separator ++ gap) texts).length < fuel) :
    readItems fuel room done (List.intercalate (layout.separator ++ gap) texts ++
      (tail ++ .char ']' :: rest)) = .ok (done.reverse ++ items, rest) := by
  induction items generalizing texts fuel done with
  | nil => exact absurd rfl hne
  | cons item items ih =>
      obtain ⟨text, more, rfl, htext, hmore⟩ := printItems_cons_eq_ok_iff.mp hprint
      obtain ⟨-, hread, hnesting⟩ := hitems item (by simp)
      obtain ⟨fuel, rfl⟩ := Nat.exists_eq_add_one_of_ne_zero (Nat.ne_zero_of_lt hfuel)
      cases items with
      | nil =>
          obtain rfl := Except.ok.inj hmore
          rw [List.intercalate_singleton] at hfuel ⊢
          have hends : EndsNumber (tail ++ .char ']' :: rest) :=
            endsNumber_append htail (endsNumber_cons (by simp) rest)
          rw [readItems_last (hread htext hnesting (by omega) hends)
            (skip_append htail (by decide) rest), List.reverse_cons]
      | cons next items =>
          obtain ⟨text', more, rfl, htext', -⟩ := printItems_cons_eq_ok_iff.mp hmore
          obtain ⟨c, cs, rfl, hc, -⟩ := exists_cons_of_printChars (hitems next (by simp)).1 htext'
          rw [List.intercalate_cons_cons] at hfuel ⊢
          have hseparator := hlayout.length_separator_pos
          simp only [List.length_append] at hfuel
          have hnext : readItems fuel room (item :: done)
              (List.intercalate (layout.separator ++ gap) ((c :: cs) :: more) ++
                (tail ++ .char ']' :: rest)) =
              .ok ((item :: done).reverse ++ next :: items, rest) :=
            ih (by simp) (fun other hother => hitems other (by simp [hother])) hmore (by omega)
          -- the next text starts with no white space, so skipping after the comma stops at it
          rw [List.intercalate_cons_cons_left] at hnext ⊢
          obtain ⟨left, hleft, hskip⟩ := hlayout.exists_separator hgap hc
            (List.intercalate (layout.separator ++ gap) (cs :: more) ++ (tail ++ .char ']' :: rest))
          have hcomma : text ++ (layout.separator ++ gap) ++
              c :: List.intercalate (layout.separator ++ gap) (cs :: more) ++
                (tail ++ .char ']' :: rest) = text ++ .char ',' :: left := by
            rw [← hleft]
            simp
          rw [List.cons_append] at hnext
          have hends : EndsNumber (.char ',' :: left) := endsNumber_cons (by simp) left
          rw [hcomma, readItems_more (hread htext hnesting (by omega) hends)
            (skip_cons (by decide) left), hskip, hnext]
          simp

theorem Layout.IsSpaced.exists_member {layout : Layout} (h : layout.IsSpaced) {depth : Nat}
    {value : Value} {text : List CodePoint} (hvalue : IsDocument value)
    (htext : printChars layout depth value = .ok text) (name : LooseText) (rest : List CodePoint) :
    ∃ left, quote layout.charset name ++ layout.colon ++ text ++ rest =
      quote layout.charset name ++ .char ':' :: left ∧ skip left = text ++ rest := by
  obtain ⟨c, cs, rfl, hc, -⟩ := exists_cons_of_printChars hvalue htext
  obtain ⟨left, hleft, hskip⟩ := h.exists_colon hc (cs ++ rest)
  exact ⟨left, by rw [← hleft]; simp, hskip⟩

theorem exists_cons_of_printMembers {layout : Layout} {depth : Nat} {entry : Value × Value}
    {rest : List (Value × Value)} {texts : List (List CodePoint)}
    (h : printMembers layout depth (entry :: rest) = .ok texts) :
    ∃ cs more, texts = (.char '"' :: cs) :: more := by
  obtain ⟨name, text, more, -, rfl, -, -⟩ := printMembers_cons_eq_ok_iff.mp h
  exact ⟨_, more, rfl⟩

theorem readMembers_append {layout : Layout} (hlayout : layout.IsSpaced)
    {gap tail rest : List CodePoint}
    (hgap : ∀ c ∈ gap, isGap c = true) (htail : ∀ c ∈ tail, isGap c = true) {depth fuel room : Nat}
    {entries done : List (Value × Value)} {texts : List (List CodePoint)} (hne : entries ≠ [])
    (hentries : ∀ entry ∈ entries,
      IsDocument entry.2 ∧ IsReadBack layout entry.2 ∧ nesting entry.2 ≤ room)
    (hprint : printMembers layout depth entries = .ok texts)
    (hfuel : (List.intercalate (layout.separator ++ gap) texts).length < fuel) :
    readMembers fuel room done (List.intercalate (layout.separator ++ gap) texts ++
      (tail ++ .char '\x7d' :: rest)) = .ok (done.reverse ++ entries, rest) := by
  induction entries generalizing texts fuel done with
  | nil => exact absurd rfl hne
  | cons entry entries ih =>
      obtain ⟨name, text, more, hname, rfl, htext, hmore⟩ := printMembers_cons_eq_ok_iff.mp hprint
      obtain ⟨hdocument, hread, hnesting⟩ := hentries entry (by simp)
      obtain ⟨key, value⟩ := entry
      obtain rfl : key = .str name := hname
      obtain ⟨fuel, rfl⟩ := Nat.exists_eq_add_one_of_ne_zero (Nat.ne_zero_of_lt hfuel)
      cases entries with
      | nil =>
          obtain rfl := Except.ok.inj hmore
          rw [List.intercalate_singleton] at hfuel ⊢
          simp only [List.length_append] at hfuel
          have hends : EndsNumber (tail ++ .char '\x7d' :: rest) :=
            endsNumber_append htail (endsNumber_cons (by simp) rest)
          obtain ⟨left, hleft, hskip⟩ :=
            hlayout.exists_member hdocument htext name (tail ++ .char '\x7d' :: rest)
          rw [hleft, readMembers_last (skip_cons (by decide) left)
            (hskip ▸ hread htext hnesting (by omega) hends) (skip_append htail (by decide) rest),
            List.reverse_cons]
      | cons next entries =>
          obtain ⟨cs, more, rfl⟩ := exists_cons_of_printMembers hmore
          rw [List.intercalate_cons_cons] at hfuel ⊢
          have hseparator := hlayout.length_separator_pos
          simp only [List.length_append] at hfuel
          have hnext : readMembers fuel room ((.str name, value) :: done)
              (List.intercalate (layout.separator ++ gap) ((.char '"' :: cs) :: more) ++
                (tail ++ .char '\x7d' :: rest)) =
                  .ok (((.str name, value) :: done).reverse ++ next :: entries, rest) :=
            ih (by simp) (fun other hother => hentries other (by simp [hother])) hmore (by omega)
          rw [List.intercalate_cons_cons_left] at hnext ⊢
          obtain ⟨left, hleft, hskip⟩ := hlayout.exists_separator hgap (c := .char '"') (by decide)
            (List.intercalate (layout.separator ++ gap) (cs :: more) ++
              (tail ++ .char '\x7d' :: rest))
          obtain ⟨left', hleft', hskip'⟩ :=
            hlayout.exists_member hdocument htext name (.char ',' :: left)
          have hcomma : quote layout.charset name ++ layout.colon ++ text ++
              (layout.separator ++ gap) ++
              .char '"' :: List.intercalate (layout.separator ++ gap) (cs :: more) ++
              (tail ++ .char '\x7d' :: rest) = quote layout.charset name ++ .char ':' :: left' := by
            rw [← hleft', ← hleft]
            simp
          have hends : EndsNumber (.char ',' :: left) := endsNumber_cons (by simp) left
          rw [List.cons_append] at hnext
          rw [hcomma, readMembers_more (skip_cons (by decide) left')
            (hskip' ▸ hread htext hnesting (by omega) hends) (skip_cons (by decide) left), hskip,
            hnext]
          simp

theorem isReadBack_list {layout : Layout} (hlayout : layout.IsSpaced) {items : List Value}
    (hitems : ∀ item ∈ items, IsDocument item ∧ IsReadBack layout item) :
    IsReadBack layout (.list items) := by
  intro depth fuel room cs rest hprint hnesting hfuel _
  obtain ⟨texts, htexts, rfl⟩ := printChars_list_eq_ok_iff.mp hprint
  rw [nesting] at hnesting
  obtain ⟨room, rfl⟩ := Nat.exists_eq_add_one_of_ne_zero (Nat.ne_zero_of_lt hnesting)
  have hroom := nestingOfItems_le_iff.mp (Nat.le_of_succ_le_succ hnesting)
  cases items with
  | nil =>
      obtain rfl := Except.ok.inj htexts
      obtain ⟨fuel, rfl⟩ := Nat.exists_eq_add_one_of_ne_zero (Nat.ne_zero_of_lt hfuel)
      exact readValue_list_nil (skip_cons (by decide) rest)
  | cons item items =>
      obtain ⟨text, more, rfl, htext, -⟩ := printItems_cons_eq_ok_iff.mp htexts
      obtain ⟨c, cs, rfl, hc, hbracket, -⟩ :=
        exists_cons_of_printChars (hitems item (by simp)).1 htext
      rw [layout.enclose_of_ne_nil depth (.char '[') (.char ']') (by simp)] at hfuel ⊢
      simp only [List.length_cons, List.length_append] at hfuel
      obtain ⟨fuel, rfl⟩ := Nat.exists_eq_add_one_of_ne_zero (Nat.ne_zero_of_lt hfuel)
      have hread : readItems fuel room []
          (List.intercalate (layout.separator ++ layout.lineBreak (depth + 1))
            ((c :: cs) :: more) ++ (layout.lineBreak depth ++ .char ']' :: rest)) =
              .ok (item :: items, rest) :=
        readItems_append hlayout (layout.isGap_of_mem_lineBreak (depth + 1))
          (layout.isGap_of_mem_lineBreak depth) (by simp)
          (fun other hother =>
            ⟨(hitems other hother).1, (hitems other hother).2, hroom other hother⟩)
          htexts (by omega)
      rw [List.intercalate_cons_cons_left, List.cons_append] at hread
      have hskip := skip_append (layout.isGap_of_mem_lineBreak (depth + 1)) hc
        (List.intercalate (layout.separator ++ layout.lineBreak (depth + 1)) (cs :: more) ++
          (layout.lineBreak depth ++ .char ']' :: rest))
      simpa using readValue_list hskip hbracket hread

theorem isReadBack_map {layout : Layout} (hlayout : layout.IsSpaced)
    {entries : List (Value × Value)} (hkeys : KeysDistinct entries)
    (hentries : ∀ entry ∈ entries, IsDocument entry.2 ∧ IsReadBack layout entry.2) :
    IsReadBack layout (.map entries) := by
  intro depth fuel room cs rest hprint hnesting hfuel _
  obtain ⟨texts, htexts, rfl⟩ := printChars_map_eq_ok_iff.mp hprint
  rw [nesting] at hnesting
  obtain ⟨room, rfl⟩ := Nat.exists_eq_add_one_of_ne_zero (Nat.ne_zero_of_lt hnesting)
  have hroom := nestingOfEntries_le_iff.mp (Nat.le_of_succ_le_succ hnesting)
  cases entries with
  | nil =>
      obtain rfl := Except.ok.inj htexts
      obtain ⟨fuel, rfl⟩ := Nat.exists_eq_add_one_of_ne_zero (Nat.ne_zero_of_lt hfuel)
      exact readValue_map_nil (skip_cons (by decide) rest)
  | cons entry entries =>
      obtain ⟨cs, more, rfl⟩ := exists_cons_of_printMembers htexts
      rw [layout.enclose_of_ne_nil depth (.char '\x7b') (.char '\x7d') (by simp)] at hfuel ⊢
      simp only [List.length_cons, List.length_append] at hfuel
      obtain ⟨fuel, rfl⟩ := Nat.exists_eq_add_one_of_ne_zero (Nat.ne_zero_of_lt hfuel)
      have hread : readMembers fuel room []
          (List.intercalate (layout.separator ++ layout.lineBreak (depth + 1))
            ((.char '"' :: cs) :: more) ++ (layout.lineBreak depth ++ .char '\x7d' :: rest)) =
              .ok (entry :: entries, rest) :=
        readMembers_append hlayout (layout.isGap_of_mem_lineBreak (depth + 1))
          (layout.isGap_of_mem_lineBreak depth) (by simp)
          (fun other hother =>
            ⟨(hentries other hother).1, (hentries other hother).2, hroom other hother⟩)
          htexts (by omega)
      rw [List.intercalate_cons_cons_left, List.cons_append] at hread
      have hskip := skip_append (layout.isGap_of_mem_lineBreak (depth + 1)) (c := .char '"')
        (by decide)
        (List.intercalate (layout.separator ++ layout.lineBreak (depth + 1)) (cs :: more) ++
          (layout.lineBreak depth ++ .char '\x7d' :: rest))
      have hmap := readValue_map hskip (by decide) hread
      rw [entriesOf_eq_self hkeys] at hmap
      simpa using hmap

theorem readValue_append {layout : Layout} (hlayout : layout.IsSpaced) {value : Value}
    (hvalue : IsDocument value) : IsReadBack layout value := by
  induction hvalue with
  | null =>
      intro depth fuel room cs rest hprint _ hfuel _
      obtain rfl := Except.ok.inj hprint
      obtain ⟨fuel, rfl⟩ := Nat.exists_eq_add_one_of_ne_zero (Nat.ne_zero_of_lt hfuel)
      rfl
  | bool b =>
      intro depth fuel room cs rest hprint _ hfuel _
      cases b <;> obtain rfl := Except.ok.inj hprint <;>
        obtain ⟨fuel, rfl⟩ := Nat.exists_eq_add_one_of_ne_zero (Nat.ne_zero_of_lt hfuel) <;> rfl
  | int _ =>
      intro depth fuel room cs rest hprint _ hfuel hrest
      obtain ⟨digits, hwrite, rfl⟩ := printChars_int_eq_ok_iff.mp hprint
      obtain ⟨c, tail, rfl, -, hc, -⟩ := exists_cons_of_write hwrite
      obtain ⟨fuel, rfl⟩ := Nat.exists_eq_add_one_of_ne_zero (Nat.ne_zero_of_lt hfuel)
      have hatom : CodePoint.char c ∉ [.char '"', .char '[', .char '\x7b'] := by
        simpa using fun hmem => hc (List.mem_cons_of_mem _ hmem)
      rw [List.map_cons, List.cons_append, readValue_atom hatom, ← List.cons_append,
        ← List.map_cons, readAtom_append hwrite hrest]
  | str text =>
      intro depth fuel room cs rest hprint _ hfuel _
      obtain rfl := Except.ok.inj hprint
      obtain ⟨fuel, rfl⟩ := Nat.exists_eq_add_one_of_ne_zero (Nat.ne_zero_of_lt hfuel)
      rw [readValue_quote]
  | list hitems ih =>
      exact isReadBack_list hlayout fun item hitem => ⟨hitems item hitem, ih item hitem⟩
  | map _ hkeys hentries ih =>
      exact isReadBack_map hlayout hkeys fun entry hentry =>
        ⟨hentries entry hentry, ih entry hentry⟩

theorem IsDocument.eq_of_printChars {layout : Layout} (hlayout : layout.IsSpaced) {depth : Nat}
    {u v : Value} {cs : List CodePoint} (hu : IsDocument u) (hv : IsDocument v)
    (hprint : printChars layout depth u = .ok cs) (hprint' : printChars layout depth v = .ok cs) :
    u = v := by
  have hends : EndsNumber [] := by simp [EndsNumber]
  have hroom := Nat.le_max_left (nesting u) (nesting v)
  have hroom' := Nat.le_max_right (nesting u) (nesting v)
  have hread := readValue_append hlayout hu hprint hroom le_rfl hends
  have hread' := readValue_append hlayout hv hprint' hroom' le_rfl hends
  rw [hread] at hread'
  exact congrArg Prod.fst (Except.ok.inj hread')

end TransparencyLog.Json
