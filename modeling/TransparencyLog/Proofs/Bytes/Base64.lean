import Mathlib.Data.List.TakeWhile
import TransparencyLog.Bytes.Base64
import TransparencyLog.Proofs.Bytes.Natural
import TransparencyLog.Proofs.Text.Loose

namespace TransparencyLog.Base64

open Bytes (toUInt8_eq)

/-- The values of the digits that write a byte string. -/
def sextets : Bytes → List Nat
  | [] => []
  | [a] => [a.toNat / 4, a.toNat % 4 * 16]
  | [a, b] => [a.toNat / 4, a.toNat % 4 * 16 + b.toNat / 16, b.toNat % 16 * 4]
  | a :: b :: c :: rest =>
      a.toNat / 4 :: (a.toNat % 4 * 16 + b.toNat / 16) :: (b.toNat % 16 * 4 + c.toNat / 64) ::
        c.toNat % 64 :: sextets rest

/-- What fills the last group of digits. -/
def padding : Bytes → List Char
  | [] => []
  | [_] => ['=', '=']
  | [_, _] => ['=']
  | _ :: _ :: _ :: rest => padding rest

theorem chars_eq_append (bytes : Bytes) :
    chars bytes = (sextets bytes).map digit ++ padding bytes := by
  induction bytes using chars.induct with
  | case1 => rfl
  | case2 a => rfl
  | case3 a b => rfl
  | case4 a b c rest ih => simp [chars, sextets, padding, ih]

theorem lt_of_mem_sextets {bytes : Bytes} {n : Nat} (hn : n ∈ sextets bytes) : n < 64 := by
  induction bytes using chars.induct with
  | case1 => simp [sextets] at hn
  | case2 a =>
      have ha : a.toNat < 256 := a.toNat_lt
      simp only [sextets, List.mem_cons, List.not_mem_nil, or_false] at hn
      omega
  | case3 a b =>
      have ha : a.toNat < 256 := a.toNat_lt
      have hb : b.toNat < 256 := b.toNat_lt
      simp only [sextets, List.mem_cons, List.not_mem_nil, or_false] at hn
      omega
  | case4 a b c rest ih =>
      have ha : a.toNat < 256 := a.toNat_lt
      have hb : b.toNat < 256 := b.toNat_lt
      have hc : c.toNat < 256 := c.toNat_lt
      simp only [sextets, List.mem_cons] at hn
      rcases hn with hn | hn | hn | hn | hn
      · omega
      · omega
      · omega
      · omega
      · exact ih hn

theorem octets_sextets (bytes : Bytes) : octets (sextets bytes) = bytes := by
  induction bytes using chars.induct with
  | case1 => rfl
  | case2 a =>
      have ha : a.toNat < 256 := a.toNat_lt
      rw [sextets, octets, toUInt8_eq (b := a) (by omega)]
  | case3 a b =>
      have ha : a.toNat < 256 := a.toNat_lt
      have hb : b.toNat < 256 := b.toNat_lt
      rw [sextets, octets, toUInt8_eq (b := a) (by omega), toUInt8_eq (b := b) (by omega)]
  | case4 a b c rest ih =>
      have ha : a.toNat < 256 := a.toNat_lt
      have hb : b.toNat < 256 := b.toNat_lt
      have hc : c.toNat < 256 := c.toNat_lt
      rw [sextets, octets, toUInt8_eq (b := a) (by omega), toUInt8_eq (b := b) (by omega),
        toUInt8_eq (b := c) (by omega), ih]

theorem value?_digit {n : Nat} (h : n < 64) : value? (digit n) = some n := by
  revert n
  decide

theorem toNat_digit_lt {n : Nat} (h : n < 64) : (digit n).toNat < 128 := by
  revert n
  decide

theorem closing_padding (bytes : Bytes) :
    closing (sextets bytes).length 0 (padding bytes) = .ok () := by
  have hgroup : (padding bytes = [] ∧ (sextets bytes).length % 4 = 0) ∨
      (padding bytes = ['=', '='] ∧ (sextets bytes).length % 4 = 2) ∨
      (padding bytes = ['='] ∧ (sextets bytes).length % 4 = 3) := by
    induction bytes using chars.induct with
    | case1 => exact .inl ⟨rfl, rfl⟩
    | case2 a => exact .inr (.inl ⟨rfl, rfl⟩)
    | case3 a b => exact .inr (.inr ⟨rfl, rfl⟩)
    | case4 a b c rest ih =>
        have hlength : (sextets (a :: b :: c :: rest)).length = (sextets rest).length + 4 := rfl
        rw [hlength, Nat.add_mod_right]
        exact ih
  rcases hgroup with ⟨heq, hcount⟩ | ⟨heq, hcount⟩ | ⟨heq, hcount⟩
  · simp [heq, closing, hcount]
  · simp [heq, closing, hcount]
  · simp [heq, closing, hcount]

theorem eq_of_mem_padding {bytes : Bytes} {c : Char} (hc : c ∈ padding bytes) : c = '=' := by
  induction bytes using chars.induct with
  | case1 => simp [padding] at hc
  | case2 a => simpa [padding] using hc
  | case3 a b => simpa [padding] using hc
  | case4 a b d rest ih => exact ih hc

theorem filterMap_value?_digit {ns : List Nat} (h : ∀ n ∈ ns, n < 64) :
    (ns.map digit).filterMap value? = ns := by
  induction ns with
  | nil => rfl
  | cons n ns ih =>
      rw [List.map_cons, List.filterMap_cons_some (value?_digit (h n (by simp))),
        ih fun m hm => h m (by simp [hm])]

theorem isDigit_of_mem_digits {bytes : Bytes} {c : Char} (hc : c ∈ (sextets bytes).map digit) :
    isDigit c = true := by
  obtain ⟨n, hn, rfl⟩ := List.mem_map.mp hc
  rw [isDigit, value?_digit (lt_of_mem_sextets hn)]
  rfl

theorem takeWhile_chars (bytes : Bytes) :
    (chars bytes).takeWhile isDigit = (sextets bytes).map digit := by
  rw [chars_eq_append, List.takeWhile_append_of_pos fun _ => isDigit_of_mem_digits]
  cases hpad : padding bytes with
  | nil => simp
  | cons c rest =>
      obtain rfl := eq_of_mem_padding (hpad ▸ List.mem_cons_self : c ∈ padding bytes)
      exact List.append_nil _

theorem dropWhile_chars (bytes : Bytes) : (chars bytes).dropWhile isDigit = padding bytes := by
  rw [chars_eq_append, List.dropWhile_append_of_pos fun _ => isDigit_of_mem_digits]
  cases hpad : padding bytes with
  | nil => rfl
  | cons c rest =>
      obtain rfl := eq_of_mem_padding (hpad ▸ List.mem_cons_self : c ∈ padding bytes)
      rfl

theorem head?_chars (bytes : Bytes) : (chars bytes).head? ≠ some '=' := by
  intro hhead
  have hnot : isDigit '=' = false := rfl
  cases hsextets : sextets bytes with
  | nil =>
      have hbytes : bytes = [] := by
        rw [← octets_sextets bytes, hsextets]
        rfl
      subst hbytes
      cases hhead
  | cons n ns =>
      rw [chars_eq_append, hsextets, List.map_cons, List.cons_append, List.head?_cons,
        Option.some.injEq] at hhead
      have hdigit : isDigit (digit n) = true :=
        @isDigit_of_mem_digits bytes (digit n) (by simp [hsextets])
      rw [hhead, hnot] at hdigit
      cases hdigit

theorem read_chars (bytes : Bytes) : read (chars bytes) = .ok bytes := by
  rw [read, if_neg (head?_chars bytes)]
  dsimp only
  rw [takeWhile_chars, dropWhile_chars, List.length_map, closing_padding]
  dsimp only
  rw [filterMap_value?_digit fun _ => lt_of_mem_sextets, octets_sextets]

theorem toNat_lt_of_mem_chars {bytes : Bytes} {c : Char} (hc : c ∈ chars bytes) :
    c.toNat < 128 := by
  rw [chars_eq_append] at hc
  rcases List.mem_append.mp hc with hc | hc
  · obtain ⟨n, hn, rfl⟩ := List.mem_map.mp hc
    exact toNat_digit_lt (lt_of_mem_sextets hn)
  · rw [eq_of_mem_padding hc]
    decide

theorem foreignRun?_eq_none_iff {codes : List CodePoint} :
    foreignRun? codes = none ↔ ∀ code ∈ codes, code.toNat < 128 := by
  have hstart : codes.findIdx (fun code => decide (128 ≤ code.toNat)) = codes.length ↔
      ∀ code ∈ codes, code.toNat < 128 := by
    simp only [List.findIdx_eq_length, decide_eq_false_iff_not, Nat.not_le]
  rw [← hstart, foreignRun?]
  split
  · rename_i hdrop
    exact iff_of_true rfl (Nat.le_antisymm List.findIdx_le_length (List.drop_eq_nil_iff.mp hdrop))
  · rename_i code rest hdrop
    refine iff_of_false (by simp) fun hlength => ?_
    rw [hlength, List.drop_length] at hdrop
    cases hdrop

theorem decode_eq_ok_iff {text : LooseText} {bytes : Bytes} :
    decode text = .ok bytes ↔ ∃ whole : String, text = whole ∧
      (∀ c ∈ whole.toList, c.toNat < 128) ∧ read whole.toList = .ok bytes := by
  unfold decode
  split
  · rename_i fault hfault
    refine iff_of_false (by simp) ?_
    rintro ⟨whole, rfl, hchars, -⟩
    rw [foreignRun?_eq_none_iff.mpr (by simpa using hchars)] at hfault
    cases hfault
  · rename_i hnone
    have hcodes := foreignRun?_eq_none_iff.mp hnone
    have hwhole : text.IsWhole := LooseText.areWhole_codes_iff.mp fun part hpart =>
      absurd (hcodes _ hpart) (Nat.not_lt.mpr (Nat.le_trans (by decide) part.isHalf.1))
    obtain ⟨whole, rfl⟩ := hwhole
    have hchars : ∀ c ∈ whole.toList, c.toNat < 128 := by simpa using hcodes
    rw [LooseText.codes_whole, CodePoint.filterMap_char?_map_char]
    simpa using fun _ => hchars

theorem decode_encode (bytes : Bytes) : decode (encode bytes) = .ok bytes := by
  refine decode_eq_ok_iff.mpr ⟨_, rfl, ?_⟩
  rw [encode, String.toList_ofList]
  exact ⟨fun _ => toNat_lt_of_mem_chars, read_chars bytes⟩

theorem encode_injective : Function.Injective encode := by
  intro bytes bytes' h
  have hdecode := decode_encode bytes
  rw [h, decode_encode] at hdecode
  exact (Except.ok.inj hdecode).symm

theorem closing_ne_ok_of_mod {count pads : Nat} {cs : List Char} (hcount : count % 4 = 1) :
    closing count pads cs ≠ .ok () := by
  induction cs generalizing pads with
  | nil => simp [closing, hcount]
  | cons c cs ih =>
      have hopen : ¬ (2 ≤ count % 4 ∧ 4 ≤ count % 4 + (pads + 1)) := by omega
      rw [closing, if_neg hopen]
      split
      · exact ih
      · split
        · simp
        · simp

theorem length_filterMap_value? {cs : List Char} (h : ∀ c ∈ cs, isDigit c = true) :
    (cs.filterMap value?).length = cs.length := by
  induction cs with
  | nil => rfl
  | cons c cs ih =>
      obtain ⟨n, hn⟩ := Option.isSome_iff_exists.mp (h c (by simp))
      rw [List.filterMap_cons_some hn, List.length_cons, List.length_cons,
        ih fun d hd => h d (by simp [hd])]

theorem octets_ne_nil {ns : List Nat} (h : 2 ≤ ns.length) : octets ns ≠ [] := by
  match ns, h with
  | [a, b], _ => simp [octets]
  | [a, b, c], _ => simp [octets]
  | a :: b :: c :: d :: rest, _ => simp [octets]

theorem read_eq_ok_iff {cs : List Char} {bytes : Bytes} :
    read cs = .ok bytes ↔
      cs.head? ≠ some '=' ∧
        closing (cs.takeWhile isDigit).length 0 (cs.dropWhile isDigit) = .ok () ∧
        octets ((cs.takeWhile isDigit).filterMap value?) = bytes := by
  unfold read
  split
  · rename_i hhead
    simp [hhead]
  · rename_i hhead
    dsimp only
    split
    · rename_i hclosing
      simp [hclosing]
    · rename_i hclosing
      simp [hclosing, hhead]

theorem two_le_length_takeWhile {cs : List Char} {bytes : Bytes} (hne : cs ≠ [])
    (h : read cs = .ok bytes) : 2 ≤ (cs.takeWhile isDigit).length := by
  obtain ⟨hhead, hclosing, -⟩ := read_eq_ok_iff.mp h
  obtain ⟨c, rest, rfl⟩ := List.exists_cons_of_ne_nil hne
  rw [List.head?_cons, ne_eq, Option.some.injEq] at hhead
  by_cases hc : isDigit c = true
  · have hone : ((c :: rest).takeWhile isDigit).length % 4 ≠ 1 :=
      fun hmod => closing_ne_ok_of_mod hmod hclosing
    rw [List.takeWhile_cons_of_pos hc, List.length_cons] at hone ⊢
    omega
  · simp [hc, closing, hhead] at hclosing

theorem ne_nil_of_decode {text : LooseText} {bytes : Bytes} (hne : text ≠ "")
    (h : decode text = .ok bytes) : bytes ≠ [] := by
  obtain ⟨whole, rfl, -, hread⟩ := decode_eq_ok_iff.mp h
  have htwo := two_le_length_takeWhile (by simpa using hne) hread
  obtain ⟨-, -, rfl⟩ := read_eq_ok_iff.mp hread
  apply octets_ne_nil
  rw [length_filterMap_value? fun _ hc => List.mem_takeWhile_imp hc]
  exact htwo

theorem eq_of_mem_of_closing {count pads : Nat} {cs : List Char} {c : Char}
    (h : closing count pads cs = .ok ()) (hc : c ∈ cs) : c = '=' := by
  induction cs generalizing pads with
  | nil => cases hc
  | cons first rest ih =>
      rw [closing] at h
      split at h
      · rename_i hfirst
        rcases List.mem_cons.mp hc with rfl | hc
        · exact hfirst
        · split at h
          · split at h
            · rename_i hempty
              rw [List.isEmpty_iff.mp hempty] at hc
              cases hc
            · cases h
          · exact ih h hc
      · split at h
        · cases h
        · cases h

theorem isDigit_or_eq_of_decode {text : LooseText} {bytes : Bytes} {c : Char}
    (h : decode text = .ok bytes) (hc : .char c ∈ text.codes) : isDigit c = true ∨ c = '=' := by
  obtain ⟨whole, rfl, -, hread⟩ := decode_eq_ok_iff.mp h
  obtain ⟨-, hclosing, -⟩ := read_eq_ok_iff.mp hread
  rw [LooseText.codes_whole, List.mem_map_of_injective CodePoint.char_injective,
    ← List.takeWhile_append_dropWhile (p := isDigit) (l := whole.toList)] at hc
  rcases List.mem_append.mp hc with hc | hc
  · exact .inl (List.mem_takeWhile_imp hc)
  · exact .inr (eq_of_mem_of_closing hclosing hc)

end TransparencyLog.Base64
