import Mathlib.Data.List.Basic
import Mathlib.Order.Defs.LinearOrder
import TransparencyLog.Proofs.Text.Utf8
import TransparencyLog.Text.Loose

namespace TransparencyLog

namespace CodePoint

theorem toNat_injective : Function.Injective CodePoint.toNat := by
  rintro (c | part) (d | part') h
  · exact congrArg char (Char.toNat_inj.mp h)
  · have hvalid := c.valid
    have hhalf := part'.isHalf
    simp only [toNat] at h
    rcases hvalid with hlow | ⟨hlow, _⟩ <;> simp only [← Char.toNat_val] at * <;> omega
  · have hvalid := d.valid
    have hhalf := part.isHalf
    simp only [toNat] at h
    rcases hvalid with hlow | ⟨hlow, _⟩ <;> simp only [← Char.toNat_val] at * <;> omega
  · cases part
    cases part'
    simp only [toNat] at h
    subst h
    rfl

theorem char_injective : Function.Injective char := fun _ _ h => by
  injection h

@[simp] theorem toNat_char (c : Char) : (char c).toNat = c.toNat := rfl

@[simp] theorem char?_char (c : Char) : (char c).char? = some c := rfl

@[simp] theorem pair?_char_left (c : Char) (code : CodePoint) : pair? (.char c) code = none := by
  cases code <;> rfl

@[simp] theorem pair?_char_right (code : CodePoint) (c : Char) : pair? code (.char c) = none := by
  cases code <;> rfl

@[simp] theorem filterMap_char?_map_char (cs : List Char) :
    (cs.map char).filterMap char? = cs := by
  induction cs with
  | nil => rfl
  | cons c cs ih => simpa using ih

theorem chars?_eq_some_iff {codes : List CodePoint} {cs : List Char} :
    chars? codes = some cs ↔ codes = cs.map char := by
  induction codes generalizing cs with
  | nil => cases cs <;> simp [chars?]
  | cons code codes ih =>
      cases code with
      | half part => cases cs <;> simp [chars?]
      | char c =>
          cases cs with
          | nil => simp [chars?]
          | cons d cs =>
              simp only [chars?, Option.map_eq_map, Option.map_eq_some_iff, ih, List.cons.injEq,
                List.map_cons, CodePoint.char.injEq]
              constructor
              · rintro ⟨cs', rfl, rfl, rfl⟩
                exact ⟨rfl, rfl⟩
              · rintro ⟨rfl, rfl⟩
                exact ⟨cs, rfl, rfl, rfl⟩

@[simp] theorem chars?_map_char (cs : List Char) : chars? (cs.map char) = some cs :=
  chars?_eq_some_iff.mpr rfl

theorem chars?_eq_none_iff {codes : List CodePoint} :
    chars? codes = none ↔ ∃ part, .half part ∈ codes := by
  induction codes with
  | nil => simp [chars?]
  | cons code codes ih =>
      cases code with
      | half part => simp [chars?]
      | char c => simp [chars?, ih]

@[simp] theorem join_map_char (cs : List Char) : join (cs.map char) = cs.map char := by
  induction cs with
  | nil => rfl
  | cons c cs ih => rw [List.map_cons, join_char_cons, ih]

theorem pair?_of_join_eq {a b : CodePoint} {codes : List CodePoint}
    (h : join (a :: b :: codes) = a :: b :: codes) :
    pair? a b = none ∧ join (b :: codes) = b :: codes := by
  cases hpair : pair? a b with
  | some c =>
      rw [join, hpair] at h
      obtain rfl : CodePoint.char c = a := (List.cons.inj h).1
      rw [pair?_char_left] at hpair
      cases hpair
  | none =>
      rw [join_cons_cons hpair] at h
      exact ⟨rfl, (List.cons.inj h).2⟩

theorem join_tail {code : CodePoint} {codes : List CodePoint}
    (h : join (code :: codes) = code :: codes) : join codes = codes := by
  cases codes with
  | nil => rfl
  | cons next codes => exact (pair?_of_join_eq h).2

theorem join_of_append {a b : List CodePoint} (h : join (a ++ b) = a ++ b) :
    join a = a ∧ join b = b := by
  induction a with
  | nil => exact ⟨rfl, h⟩
  | cons code a ih =>
      obtain ⟨ha, hb⟩ := ih (join_tail h)
      refine ⟨?_, hb⟩
      cases a with
      | nil => rfl
      | cons next a => rw [join_cons_cons (pair?_of_join_eq h).1, ha]

theorem join_append_char_cons (codes rest : List CodePoint) (c : Char) :
    join (codes ++ .char c :: rest) = join codes ++ .char c :: join rest := by
  fun_induction join codes with
  | case1 a b codes d hpair ih =>
      simp only [List.cons_append, join, hpair, ih]
  | case2 a b codes hpair ih =>
      rw [List.cons_append, List.cons_append, join_cons_cons hpair, ← List.cons_append, ih]
      rfl
  | case3 codes hfew =>
      cases codes with
      | nil => exact join_char_cons c rest
      | cons a codes =>
          cases codes with
          | nil =>
              rw [List.singleton_append, join_cons_cons (pair?_char_right a c), join_char_cons]
              rfl
          | cons b codes => exact (hfew a b codes rfl).elim

end CodePoint

namespace LooseText

open CodePoint

@[simp] theorem codes_whole (text : String) : codes (.whole text) = text.toList.map .char := rfl

@[simp] theorem codes_ofCodes (codes : List CodePoint) : (ofCodes codes).codes = join codes := by
  unfold ofCodes
  split
  · rename_i cs h
    rw [codes_whole, String.toList_ofList, ← chars?_eq_some_iff.mp h]
  · rfl

@[simp] theorem join_codes (text : LooseText) : join text.codes = text.codes := by
  cases text with
  | whole text => exact join_map_char _
  | torn text => exact text.joined

theorem codes_injective : Function.Injective codes := by
  rintro (text | text) (text' | text') h
  · have hchars := chars?_map_char text.toList
    rw [← codes_whole, h, codes_whole, chars?_map_char] at hchars
    exact congrArg whole (String.toList_inj.mp (Option.some.inj hchars.symm))
  · have htorn := text'.torn
    rw [show text'.codes = _ from h.symm, codes_whole, chars?_map_char] at htorn
    cases htorn
  · have htorn := text.torn
    rw [show text.codes = _ from h, codes_whole, chars?_map_char] at htorn
    cases htorn
  · cases text
    cases text'
    simp only [codes] at h
    subst h
    rfl

@[simp] theorem ofCodes_codes (text : LooseText) : ofCodes text.codes = text :=
  codes_injective (by rw [codes_ofCodes, join_codes])

theorem codes_ofCodes_of_join {codes : List CodePoint} (h : join codes = codes) :
    (ofCodes codes).codes = codes :=
  (codes_ofCodes codes).trans h

@[simp] theorem ofCodes_map_char (cs : List Char) :
    ofCodes (cs.map .char) = .whole (String.ofList cs) :=
  codes_injective (by simp)

@[simp] theorem whole_append_whole (a b : String) :
    (.whole a ++ .whole b : LooseText) = .whole (a ++ b) := rfl

theorem codes_append (a b : LooseText) : (a ++ b).codes = join (a.codes ++ b.codes) := by
  change (append a b).codes = _
  unfold append
  split
  · rw [codes_whole, codes_whole, codes_whole, ← List.map_append, join_map_char,
      String.toList_append]
  · exact codes_ofCodes _

@[simp] theorem isEmpty_iff {text : LooseText} : text.isEmpty = true ↔ text = .whole "" := by
  cases text with
  | whole text => simp [isEmpty]
  | torn text => simp [isEmpty]

@[simp] theorem isEmpty_eq_false_iff {text : LooseText} :
    text.isEmpty = false ↔ text ≠ .whole "" := by
  rw [ne_eq, ← isEmpty_iff, Bool.not_eq_true]

theorem isEmpty_iff_codes {text : LooseText} : text.isEmpty = true ↔ text.codes = [] := by
  rw [isEmpty_iff]
  constructor
  · rintro rfl
    rfl
  · exact fun h => codes_injective h

/-- The key of the order of texts. -/
def numbers (text : LooseText) : List Nat :=
  text.codes.map CodePoint.toNat

theorem numbers_injective : Function.Injective numbers := fun _ _ h =>
  codes_injective (List.map_injective_iff.mpr toNat_injective h)

instance : LT LooseText := ⟨fun a b => List.lt a.numbers b.numbers⟩

theorem le_total (a b : LooseText) : a ≤ b ∨ b ≤ a :=
  List.le_total a.numbers b.numbers

instance : LinearOrder LooseText where
  le_refl a := List.le_refl a.numbers
  le_trans _ _ _ hab hbc := List.le_trans hab hbc
  lt_iff_le_not_ge a b := by
    have hlt : a < b ↔ ¬ b ≤ a := List.not_le.symm
    rw [hlt]
    exact ⟨fun h => ⟨(le_total a b).resolve_right h, h⟩, And.right⟩
  le_antisymm _ _ hab hba := numbers_injective (List.le_antisymm hab hba)
  le_total := le_total
  toDecidableLE := inferInstance

end LooseText

namespace CodePoint

/-- No half stands among code points. -/
def AreWhole (codes : List CodePoint) : Prop :=
  ∀ part, .half part ∉ codes

theorem areWhole_append_iff {a b : List CodePoint} :
    AreWhole (a ++ b) ↔ AreWhole a ∧ AreWhole b := by
  simp [AreWhole, not_or, forall_and]

theorem areWhole_cons_char_iff {c : Char} {codes : List CodePoint} :
    AreWhole (.char c :: codes) ↔ AreWhole codes := by
  simp [AreWhole]

theorem areWhole_map_char (cs : List Char) : AreWhole (cs.map .char) := by
  simp [AreWhole]

theorem wholeChars_eq_ok_iff {codes : List CodePoint} {cs : List Char} :
    wholeChars codes = .ok cs ↔ codes = cs.map char := by
  rw [← chars?_eq_some_iff, wholeChars]
  cases chars? codes <;> simp

@[simp] theorem wholeChars_map_char (cs : List Char) : wholeChars (cs.map char) = .ok cs :=
  wholeChars_eq_ok_iff.mpr rfl

theorem exists_wholeChars_iff {codes : List CodePoint} :
    (∃ cs, wholeChars codes = .ok cs) ↔ AreWhole codes := by
  rw [AreWhole, ← not_exists, ← chars?_eq_none_iff, wholeChars]
  cases chars? codes <;> simp

theorem encode_eq_ok_iff {codes : List CodePoint} {octets : Bytes} :
    encode codes = .ok octets ↔ ∃ cs, codes = List.map char cs ∧ octets = Utf8.encodeChars cs := by
  unfold encode
  cases h : wholeChars codes with
  | error fault =>
      constructor
      · rintro ⟨⟩
      · rintro ⟨cs, hcs, _⟩
        rw [wholeChars_eq_ok_iff.mpr hcs] at h
        cases h
  | ok cs =>
      have hcs := wholeChars_eq_ok_iff.mp h
      subst hcs
      constructor
      · rintro ⟨⟩
        exact ⟨cs, rfl, rfl⟩
      · rintro ⟨cs', hcs', rfl⟩
        rw [List.map_injective_iff.mpr char_injective hcs']
        rfl

@[simp] theorem encode_map_char (cs : List Char) :
    encode (cs.map char) = .ok (Utf8.encodeChars cs) :=
  encode_eq_ok_iff.mpr ⟨cs, rfl, rfl⟩

theorem exists_encode_iff {codes : List CodePoint} :
    (∃ octets, encode codes = .ok octets) ↔ AreWhole codes := by
  rw [← exists_wholeChars_iff]
  simp only [encode_eq_ok_iff, wholeChars_eq_ok_iff]
  constructor
  · rintro ⟨_, cs, hcs, -⟩
    exact ⟨cs, hcs⟩
  · rintro ⟨cs, hcs⟩
    exact ⟨_, cs, hcs, rfl⟩

@[simp] theorem flatMap_spelled_map_char (cs : List Char) :
    (cs.map char).flatMap spelled = cs := by
  simp [List.flatMap_map, spelled]

end CodePoint

namespace LooseText

open CodePoint

/-- No half stands in the text. -/
def IsWhole (text : LooseText) : Prop :=
  ∃ whole : String, text = .whole whole

theorem areWhole_codes_iff {text : LooseText} : AreWhole text.codes ↔ text.IsWhole := by
  cases text with
  | whole text => simp [IsWhole, areWhole_map_char]
  | torn text =>
      obtain ⟨part, hpart⟩ := chars?_eq_none_iff.mp text.torn
      simp only [IsWhole, reduceCtorEq, exists_false, iff_false]
      exact fun h => h part hpart

@[simp] theorem encode_whole (text : String) : encode (.whole text) = .ok (Utf8.encode text) :=
  CodePoint.encode_map_char _

theorem encode_eq_ok_iff {text : LooseText} {octets : Bytes} :
    text.encode = .ok octets ↔
      ∃ whole : String, text = .whole whole ∧ octets = Utf8.encode whole := by
  rw [encode, CodePoint.encode_eq_ok_iff]
  constructor
  · rintro ⟨cs, hcs, rfl⟩
    exact ⟨String.ofList cs, codes_injective (by simpa using hcs), by simp [Utf8.encode]⟩
  · rintro ⟨whole, rfl, rfl⟩
    exact ⟨whole.toList, rfl, rfl⟩

@[simp] theorem spelled_whole (text : String) : spelled (.whole text) = text := by
  simp [spelled]

/-- The first of all halves, on its own. -/
def loneHalf : LooseText := .ofCodes [.ofNat 0xD800]

theorem not_isWhole_loneHalf : ¬ loneHalf.IsWhole := by
  rintro ⟨whole, h⟩
  cases h

end LooseText

end TransparencyLog
