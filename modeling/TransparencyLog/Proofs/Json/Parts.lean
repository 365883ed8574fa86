import TransparencyLog.Proofs.Json.Document
import TransparencyLog.Proofs.Json.Equivalence

namespace TransparencyLog.Json

open Value

/-- A part of a value: the value itself, or a part of an item or of what stands under a key. -/
inductive Within : Value → Value → Prop
  | self (value : Value) : Within value value
  | item {part item value : Value} {items : List Value} (hitems : items? value = some items)
      (hitem : item ∈ items) (h : Within part item) : Within part value
  | entry {part : Value} {entry : Value × Value} {entries : List (Value × Value)}
      (hentry : entry ∈ entries) (h : Within part entry.2) : Within part (.map entries)

section Within

variable {P : Value → Prop} {value : Value} {items : List Value} {entries : List (Value × Value)}

end Within

section Encodable

variable {value : Value} {items : List Value}

end Encodable

section Print

variable {depth : Nat}

open CodePoint LooseText

theorem areWhole_quote_iff {text : LooseText} : AreWhole (quote .unicode text) ↔ text.IsWhole := by
  rw [quote, List.cons_append, areWhole_cons_char_iff, areWhole_append_iff, ← areWhole_codes_iff]
  have hescape : ∀ part, CodePoint.half part ∈ text.codes.flatMap (escape .unicode) ↔
      .half part ∈ text.codes := by
    intro part
    rw [List.mem_flatMap]
    constructor
    · rintro ⟨code, hcode, hpart⟩
      cases code with
      | char c => simp [escape] at hpart
      | half other =>
          obtain rfl : other = part := by simpa [escape, eq_comm] using hpart
          exact hcode
    · exact fun hpart => ⟨_, hpart, by simp [escape]⟩
  simp [AreWhole, hescape]

theorem areWhole_intercalate_iff {texts : List (List CodePoint)} :
    AreWhole (List.intercalate [.char ','] texts) ↔ ∀ text ∈ texts, AreWhole text := by
  induction texts with
  | nil => simp [AreWhole]
  | cons first texts ih =>
      cases texts with
      | nil => simp
      | cons second texts =>
          rw [List.intercalate_cons_cons, areWhole_append_iff, areWhole_append_iff,
            List.forall_mem_cons, ih]
          simp [AreWhole]

end Print

end TransparencyLog.Json
