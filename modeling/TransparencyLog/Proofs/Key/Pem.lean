import TransparencyLog.Key.Pem
import TransparencyLog.Proofs.Bytes.Base64
import TransparencyLog.Proofs.Text.Utf8

namespace TransparencyLog

namespace Bytes

theorem ofAscii_append (text text' : String) :
    ofAscii (text ++ text') = ofAscii text ++ ofAscii text' := by
  simp [ofAscii]

theorem ofAscii_join (texts : List String) :
    ofAscii (String.join texts) = texts.flatMap ofAscii := by
  induction texts with
  | nil => rfl
  | cons text texts ih => rw [String.join_cons, ofAscii_append, ih, List.flatMap_cons]

end Bytes

namespace Pem

section Seek

variable {first : UInt8} {more front passed rest text : Bytes}

theorem seek?_append (h : first ∉ front) :
    seek? (first :: more) (first :: more) passed (front ++ rest) =
      seek? (first :: more) (first :: more) (front.reverse ++ passed) rest := by
  induction front generalizing passed with
  | nil => rfl
  | cons b front ih =>
      have hb : b ≠ first := fun heq => h (heq ▸ List.mem_cons_self)
      rw [List.cons_append, seek?, if_pos hb, ih fun hmem => h (List.mem_cons_of_mem _ hmem),
        List.reverse_cons, List.append_assoc, List.singleton_append]

theorem seek?_left (seen : Bytes) {left : Bytes} (hleft : left ≠ []) :
    seek? (seen ++ left) left (seen.reverse ++ passed) (left ++ rest) =
      some (passed.reverse, rest) := by
  induction left generalizing seen with
  | nil => exact absurd rfl hleft
  | cons b left ih =>
      rw [List.cons_append, seek?, if_neg (not_not_intro rfl)]
      cases left with
      | nil => simp
      | cons next left =>
          have hseen := ih (seen ++ [b]) (List.cons_ne_nil next left)
          rw [List.reverse_append, List.append_assoc, List.append_assoc] at hseen
          exact hseen

variable {mark : String}

theorem splitAt?_append (hmark : Bytes.ofAscii mark = first :: more) (h : first ∉ front) :
    splitAt? mark (front ++ (Bytes.ofAscii mark ++ rest)) = some (front, rest) := by
  have hfound : seek? (first :: more) (first :: more) front.reverse (first :: more ++ rest) =
      some (front.reverse.reverse, rest) := seek?_left [] (List.cons_ne_nil first more)
  rw [splitAt?, hmark, seek?_append h, List.append_nil, hfound, List.reverse_reverse]

theorem splitAt?_eq_none (hmark : Bytes.ofAscii mark = first :: more) (h : first ∉ text) :
    splitAt? mark text = none := by
  rw [splitAt?, hmark, ← List.append_nil text, seek?_append h, seek?]

end Seek

section Lines

/-- Lines with an end after each. -/
def ended (lines : List Bytes) : Bytes :=
  lines.flatMap (· ++ [0x0A])

variable {lines : List Bytes}

theorem splitAt?_ended (h : ∀ line ∈ lines, line ≠ [] ∧ 0x0A ∉ line) :
    splitAt? "\n\n" (ended lines) = none := by
  have hseek : ∀ left ∈ [[0x0A], [0x0A, 0x0A]], ∀ passed,
      seek? [0x0A, 0x0A] left passed (ended lines) = none := by
    induction lines with
    | nil => exact fun _ _ _ => rfl
    | cons line lines ih =>
        obtain ⟨hne, hline⟩ := h line (by simp)
        obtain ⟨b, line, rfl⟩ := List.exists_cons_of_ne_nil hne
        rw [List.mem_cons, not_or] at hline
        intro left hleft passed
        have hstart : seek? [0x0A, 0x0A] left passed (ended ((b :: line) :: lines)) =
            seek? [0x0A, 0x0A] [0x0A, 0x0A] (b :: passed) (line ++ 0x0A :: ended lines) := by
          simp only [List.mem_cons, List.not_mem_nil, or_false] at hleft
          rcases hleft with rfl | rfl <;> simp [ended, seek?, Ne.symm hline.1]
        rw [hstart, seek?_append hline.2, seek?, if_neg (not_not_intro rfl), if_neg (by simp)]
        exact ih (fun other hother => h other (List.mem_cons_of_mem _ hother)) _ (by simp) _
  exact hseek (Bytes.ofAscii "\n\n") (by decide) []

theorem splitBody_ended (h : ∀ line ∈ lines, line ≠ [] ∧ 0x0A ∉ line ∧ 0x0D ∉ line) :
    splitBody (ended lines) = ([], ended lines) := by
  have hreturn : 0x0D ∉ ended lines := by
    intro hmem
    obtain ⟨line, hline, hmem⟩ := List.mem_flatMap.mp hmem
    rcases List.mem_append.mp hmem with hmem | hmem
    · exact (h line hline).2.2 hmem
    · exact absurd hmem (by decide)
  rw [splitBody, splitAt?_ended fun line hline => ⟨(h line hline).1, (h line hline).2.1⟩,
    Option.orElse_none, splitAt?_eq_none rfl hreturn]
  rfl

end Lines

section Digits

variable {size fuel : Nat} {cs : List Char} {octets : Bytes}

theorem flatten_chunks (hsize : 0 < size) (h : cs.length ≤ fuel) :
    (chunks size fuel cs).flatten = cs := by
  induction fuel generalizing cs with
  | zero =>
      rw [List.length_eq_zero_iff.mp (Nat.le_zero.mp h)]
      rfl
  | succ fuel ih =>
      cases cs with
      | nil => rfl
      | cons c cs =>
          have hdrop : ((c :: cs).drop size).length ≤ fuel := by
            rw [List.length_drop]
            omega
          rw [chunks, if_neg (by simp), List.flatten_cons, ih hdrop, List.take_append_drop]

theorem ne_nil_of_mem_chunks (hsize : 0 < size) {piece : List Char}
    (h : piece ∈ chunks size fuel cs) : piece ≠ [] := by
  induction fuel generalizing cs with
  | zero => cases h
  | succ fuel ih =>
      cases cs with
      | nil => cases h
      | cons c cs =>
          rw [chunks, if_neg (by simp)] at h
          rcases List.mem_cons.mp h with rfl | h
          · simp [Nat.ne_of_gt hsize]
          · exact ih h

/-- The lines of digits in a text. -/
def digitLines (octets : Bytes) : List (List Char) :=
  chunks 64 (Base64.chars octets).length (Base64.chars octets)

theorem flatten_digitLines : (digitLines octets).flatten = Base64.chars octets :=
  flatten_chunks (by decide) le_rfl

theorem ne_dash_of_mem_chars {c : Char} (hc : c ∈ Base64.chars octets) :
    c ≠ '-' ∧ Text.isWhiteSpace c = false := by
  have hdigit : ∀ n < 64, Base64.digit n ≠ '-' ∧ Text.isWhiteSpace (Base64.digit n) = false := by
    decide
  rw [Base64.chars_eq_append] at hc
  rcases List.mem_append.mp hc with hc | hc
  · obtain ⟨n, hn, rfl⟩ := List.mem_map.mp hc
    exact hdigit n (Base64.lt_of_mem_sextets hn)
  · rw [Base64.eq_of_mem_padding hc]
    decide

theorem mem_chars_of_mem_digitLines {line : List Char} {c : Char} (hline : line ∈ digitLines octets)
    (hc : c ∈ line) : c ∈ Base64.chars octets :=
  flatten_digitLines ▸ List.mem_flatten.mpr ⟨line, hline, hc⟩

/-- The lines of digits, with an end after each. -/
def digitText (octets : Bytes) : List Char :=
  (digitLines octets).flatMap (· ++ ['\n'])

theorem of_mem_digitText {c : Char} (hc : c ∈ digitText octets) :
    c ∈ Base64.chars octets ∨ c = '\n' := by
  obtain ⟨line, hline, hc⟩ := List.mem_flatMap.mp hc
  rcases List.mem_append.mp hc with hc | hc
  · exact .inl (mem_chars_of_mem_digitLines hline hc)
  · exact .inr (List.mem_singleton.mp hc)

theorem readDigits?_digitText : readDigits? (digitText octets) = some octets := by
  have hfilter : (digitText octets).filter (fun c => !Text.isWhiteSpace c) =
      Base64.chars octets := by
    have hline : ∀ line ∈ digitLines octets,
        (line ++ ['\n']).filter (fun c => !Text.isWhiteSpace c) = line := by
      intro line hline
      have hkeep : line.filter (fun c => !Text.isWhiteSpace c) = line :=
        List.filter_eq_self.mpr fun c hc => by
          simp [(ne_dash_of_mem_chars (mem_chars_of_mem_digitLines hline hc)).2]
      rw [List.filter_append, hkeep]
      exact List.append_nil line
    rw [digitText, List.filter_flatMap, ← flatten_digitLines, List.flatMap_def,
      List.map_congr_left hline, List.map_id']
  rw [readDigits?, hfilter, Base64.read_chars]
  exact if_pos rfl

end Digits

section Block

variable {label : String} {octets : Bytes}

def digitOctets (octets : Bytes) : List Bytes :=
  (digitLines octets).map fun line => Bytes.ofAscii (String.ofList line)

theorem ended_digitOctets :
    ended (digitOctets octets) = Bytes.ofAscii (String.ofList (digitText octets)) := by
  simp [ended, digitOctets, digitText, Bytes.ofAscii, List.flatMap_map, List.map_flatMap]

theorem write_eq_append : write label octets =
    Bytes.ofAscii openingMark ++ (Bytes.ofAscii label ++ (Bytes.ofAscii labelMark ++
      0x0A :: (ended (digitOctets octets) ++ (Bytes.ofAscii closingMark ++
        (Bytes.ofAscii label ++ (Bytes.ofAscii labelMark ++ [0x0A])))))) := by
  have hend : Bytes.ofAscii "\n" = [0x0A] := rfl
  simp [write, Bytes.ofAscii_join, Bytes.ofAscii_append, hend, ended, digitOctets, digitLines,
    List.flatMap_map]

theorem ne_dash_of_mem_digitOctets {line : Bytes} {b : UInt8} (hline : line ∈ digitOctets octets)
    (hb : b ∈ line) : b ≠ 0x2D ∧ isGap b = false := by
  obtain ⟨cs, hcs, rfl⟩ := List.mem_map.mp hline
  rw [Bytes.ofAscii, String.toList_ofList] at hb
  obtain ⟨c, hc, rfl⟩ := List.mem_map.mp hb
  have hmem := mem_chars_of_mem_digitLines hcs hc
  have hlt := Base64.toNat_lt_of_mem_chars hmem
  obtain ⟨hdash, hblank⟩ := ne_dash_of_mem_chars hmem
  have hoctet : c.toNat.toUInt8.toNat = c.toNat := Bytes.toNat_toUInt8 (by omega)
  rw [← Char.ofNat_toNat c, ← hoctet] at hdash hblank
  generalize c.toNat.toUInt8 = b at hdash hblank ⊢
  constructor
  · rintro rfl
    exact hdash rfl
  · rw [Bool.eq_false_iff]
    intro hgap
    simp only [isGap, List.contains_iff_mem, List.mem_cons, List.not_mem_nil, or_false] at hgap
    rcases hgap with rfl | rfl | rfl | rfl <;> exact absurd hblank (by decide)

theorem ne_nil_of_mem_digitOctets {line : Bytes} (hline : line ∈ digitOctets octets) :
    line ≠ [] := by
  obtain ⟨cs, hcs, rfl⟩ := List.mem_map.mp hline
  have hne : cs ≠ [] := ne_nil_of_mem_chunks (by decide) hcs
  simpa [Bytes.ofAscii] using hne

theorem splitBody_digits :
    splitBody (ended (digitOctets octets)) = ([], ended (digitOctets octets)) := by
  refine splitBody_ended fun line hline => ⟨ne_nil_of_mem_digitOctets hline, ?_, ?_⟩
  · exact fun hmem => absurd (ne_dash_of_mem_digitOctets hline hmem).2 (by decide)
  · exact fun hmem => absurd (ne_dash_of_mem_digitOctets hline hmem).2 (by decide)

theorem dash_not_mem_digits : 0x2D ∉ ended (digitOctets octets) := by
  intro hmem
  obtain ⟨line, hline, hmem⟩ := List.mem_flatMap.mp hmem
  rcases List.mem_append.mp hmem with hmem | hmem
  · exact (ne_dash_of_mem_digitOctets hline hmem).1 rfl
  · exact absurd hmem (by decide)

theorem dropWhile_isGap (rest : Bytes) :
    (0x0A :: (ended (digitOctets octets) ++ (Bytes.ofAscii closingMark ++ rest))).dropWhile isGap =
      ended (digitOctets octets) ++ (Bytes.ofAscii closingMark ++ rest) := by
  rw [List.dropWhile_cons_of_pos (by decide)]
  cases hlines : digitOctets octets with
  | nil => rfl
  | cons line lines =>
      have hline : line ∈ digitOctets octets := hlines ▸ List.mem_cons_self
      obtain ⟨b, line, rfl⟩ := List.exists_cons_of_ne_nil (ne_nil_of_mem_digitOctets hline)
      have hb := (ne_dash_of_mem_digitOctets hline List.mem_cons_self).2
      exact List.dropWhile_cons_of_neg (by simp [hb])

/-- A label that can stand between its marks. -/
structure IsLabel (label : String) : Prop where
  ne_empty : label ≠ ""
  ascii : ∀ c ∈ label.toList, c.toNat < 128
  dash : '-' ∉ label.toList

theorem IsLabel.dash_not_mem (h : IsLabel label) : 0x2D ∉ Bytes.ofAscii label := by
  intro hmem
  obtain ⟨c, hc, heq⟩ := List.mem_map.mp hmem
  have hlt := h.ascii c hc
  have hoctet : c.toNat.toUInt8.toNat = c.toNat := Bytes.toNat_toUInt8 (by omega)
  rw [heq] at hoctet
  exact h.dash ((Char.toNat_inj.mp hoctet : '-' = c) ▸ hc)

theorem next?_write (h : IsLabel label) : next? (write label octets) =
    some (⟨Bytes.ofAscii label, ended (digitOctets octets), Bytes.ofAscii label⟩, []) := by
  have hopening : ∀ rest, splitAt? openingMark (Bytes.ofAscii openingMark ++ rest) =
      some ([], rest) := fun _ => splitAt?_append rfl List.not_mem_nil
  have hlabel : ∀ rest, splitAt? labelMark
      (Bytes.ofAscii label ++ (Bytes.ofAscii labelMark ++ rest)) =
        some (Bytes.ofAscii label, rest) := fun _ => splitAt?_append rfl h.dash_not_mem
  have hclosing : ∀ rest, splitAt? closingMark
      (ended (digitOctets octets) ++ (Bytes.ofAscii closingMark ++ rest)) =
        some (ended (digitOctets octets), rest) :=
    fun _ => splitAt?_append rfl dash_not_mem_digits
  have hgap : ([0x0A] : Bytes).dropWhile isGap = [] := rfl
  simp only [next?, write_eq_append, hopening, hlabel, dropWhile_isGap, hclosing, hgap,
    Option.bind_eq_bind, Option.bind_some]
  rfl

theorem block?_digits (h : IsLabel label) :
    Span.block? ⟨Bytes.ofAscii label, ended (digitOctets octets), Bytes.ofAscii label⟩ =
      some ⟨label, [], octets⟩ := by
  have hlabel : Utf8.decode (Bytes.ofAscii label) = .ok label :=
    Utf8.decode_eq_ok_iff.mpr (Utf8.encode_eq_ofAscii h.ascii).symm
  have hdigits : Utf8.decodeChars (ended (digitOctets octets)) = .ok (digitText octets) := by
    rw [Utf8.decodeChars_eq_ok_iff, ended_digitOctets, ← Utf8.encode_eq_ofAscii, Utf8.encode,
      String.toList_ofList]
    intro c hc
    rw [String.toList_ofList] at hc
    rcases of_mem_digitText hc with hc | rfl
    · exact Base64.toNat_lt_of_mem_chars hc
    · decide
  have hheaders : Utf8.decodeChars [] = .ok [] := rfl
  have hnone : readHeaders? [] = some [] := rfl
  simp only [Span.block?, hlabel, splitBody_digits, hheaders, hnone, hdigits, readDigits?_digitText,
    Except.toOption, Option.bind_eq_bind, Option.bind_some]
  rw [if_neg (by simp [h.ne_empty])]
  rfl

theorem read?_write (h : IsLabel label) :
    read? (write label octets) = some [⟨label, [], octets⟩] := by
  have hspans : spans (write label octets).length (write label octets) =
      [⟨Bytes.ofAscii label, ended (digitOctets octets), Bytes.ofAscii label⟩] := by
    have hnext := @next?_write label octets h
    generalize write label octets = text at hnext
    cases text with
    | nil => cases hnext
    | cons b text =>
        have hrest : spans text.length [] = [] := by cases text <;> rfl
        rw [List.length_cons, spans, hnext]
        exact congrArg _ hrest
  rw [read?, hspans, List.mapM_cons, block?_digits h]
  rfl

end Block

end Pem

end TransparencyLog
