import TransparencyLog.Proofs.Bytes.StandardForm
import TransparencyLog.Proofs.Key.Labelled
import TransparencyLog.Proofs.Record.Growth

namespace TransparencyLog

namespace Labelled

/-- The part after the first colon is in standard form. -/
def IsStandard (text : LooseText) : Prop :=
  ∃ algorithm payload, split? text = some (algorithm, payload) ∧
    Base64.IsStandardText payload

variable {text algorithm : LooseText} {octets : Bytes}

theorem write_eq_iff_isStandard (h : read text = .ok (algorithm, octets)) :
    write algorithm octets = text ↔ IsStandard text := by
  obtain ⟨payload, hsplit, hdecode⟩ := read_eq_ok_iff.mp h
  obtain ⟨htext, -⟩ := split?_eq_some_iff.mp hsplit
  have hparts : write algorithm octets = text ↔ Base64.encode octets = payload := by
    rw [← LooseText.codes_injective.eq_iff, codes_write, htext]
    simp only [List.append_cancel_left_eq, List.cons.injEq, true_and,
      LooseText.codes_injective.eq_iff]
  rw [hparts, Base64.encode_eq_iff_isStandard hdecode]
  constructor
  · exact fun hstandard => ⟨algorithm, payload, hsplit, hstandard⟩
  · rintro ⟨_, _, hother, hstandard⟩
    obtain ⟨-, rfl⟩ := Prod.mk.inj (Option.some.inj (hsplit.symm.trans hother))
    exact hstandard

end Labelled

/-- A text, what it denotes, and the text that this is written as: the text written is in standard
form, the text is written again if and only if it is so, too, and of two texts in standard form that
denote one thing both are the same. -/
structure IsFaithful {α : Type} (denotes : LooseText → α → Prop) (write : α → LooseText)
    (standard : LooseText → Prop) (text text' : LooseText) : Prop where
  denotes_write : ∀ {a}, denotes text a → denotes (write a) a ∧ standard (write a)
  write_eq_iff : ∀ {a}, denotes text a → (write a = text ↔ standard text)
  unique : ∀ {a}, denotes text a → denotes text' a → standard text → standard text' → text = text'

theorem IsFaithful.of_write_eq_iff {α : Type} {denotes : LooseText → α → Prop}
    {write : α → LooseText}
    {standard : LooseText → Prop} (hwrite : ∀ {text a}, denotes text a → denotes (write a) a)
    (h : ∀ {text a}, denotes text a → (write a = text ↔ standard text)) (text text' : LooseText) :
    IsFaithful denotes write standard text text' where
  denotes_write hdenotes := ⟨hwrite hdenotes, (h (hwrite hdenotes)).mp rfl⟩
  write_eq_iff := h
  unique hdenotes hdenotes' hstandard hstandard' :=
    ((h hdenotes).mpr hstandard).symm.trans ((h hdenotes').mpr hstandard')

namespace LogRecord

/-- The text of the contents in the form of a record. -/
def contentText? : Value → Option LooseText
  | .map members =>
      match Value.lookup? "contentBytes" members with
      | some (.str text) => some text
      | _ => none
  | _ => none

/-- Some record with the given contents is read from a form with the given text. -/
def HasContentText (text : LooseText) (content : Bytes) : Prop :=
  ∃ path document record, ofValue path document = .ok record ∧
    contentText? document = some text ∧ record.content = content

theorem contentText?_toValue (record : LogRecord) :
    contentText? record.toValue = some (Base64.encode record.content) :=
  rfl

theorem decode_of_hasContentText {text : LooseText} {content : Bytes}
    (h : HasContentText text content) : Base64.decode text = .ok content := by
  obtain ⟨path, document, record, hread, htext, rfl⟩ := h
  obtain ⟨members, written, rfl, hwritten, -, -, hdecode⟩ := ofValue_eq_ok_iff.mp hread
  rw [contentText?, hwritten] at htext
  rwa [← Option.some.inj htext]

theorem hasContentText_encode (content : Bytes) : HasContentText (Base64.encode content) content :=
  ⟨"", _, ⟨content, "", ""⟩, ofValue_toValue "" _, contentText?_toValue _, rfl⟩

end LogRecord

/-- Keys, signatures and record contents each have one text in standard form; this is the one that
is written, and it alone is written again as it was read. -/
theorem texts_faithful (text text' : LooseText) (record : LogRecord) :
    IsFaithful (fun text key => PublicKey.ofText text = .ok key) PublicKey.text
        Labelled.IsStandard text text' ∧
      IsFaithful (fun text signature => decodeSignature text = .ok signature)
        (fun signature => Labelled.write signature.1 signature.2) Labelled.IsStandard text text' ∧
      IsFaithful LogRecord.HasContentText (fun content => .whole (Base64.encode content))
        Base64.IsStandardText text text' ∧
      LogRecord.contentText? record.toValue = some (Base64.encode record.content) := by
  refine ⟨?keys, ?signatures, ?contents, record.contentText?_toValue⟩
  case keys =>
    refine IsFaithful.of_write_eq_iff ?_ ?_ text text'
    · intro _ _ hkey
      exact PublicKey.ofText_text hkey
    · intro _ _ hkey
      exact Labelled.write_eq_iff_isStandard (PublicKey.ofText_eq_ok_iff.mp hkey)
  case signatures =>
    refine IsFaithful.of_write_eq_iff ?_ ?_ text text'
    · intro _ _ hsignature
      obtain ⟨hread, hlength⟩ := decodeSignature_eq_ok_iff.mp hsignature
      exact decodeSignature_eq_ok_iff.mpr
        ⟨Labelled.read_write (Labelled.isWritable_of_read hread), hlength⟩
    · intro _ _ hsignature
      exact Labelled.write_eq_iff_isStandard (decodeSignature_eq_ok_iff.mp hsignature).1
  case contents =>
    refine IsFaithful.of_write_eq_iff ?_ ?_ text text'
    · intro _ content _
      exact LogRecord.hasContentText_encode content
    · intro _ _ hcontent
      exact Base64.encode_eq_iff_isStandard (LogRecord.decode_of_hasContentText hcontent)

/-- Padding after a whole group, and bits that are not used, are read and lost. -/
theorem exists_two_texts :
    (∃ key, PublicKey.ofText "ed25519:AAAA=" = .ok key ∧
        PublicKey.ofText "ed25519:AAAA" = .ok key ∧ key.text ≠ "ed25519:AAAA=") ∧
      (∃ signature, decodeSignature "ecdsa-p256:AB==" = .ok signature ∧
        decodeSignature "ecdsa-p256:AA==" = .ok signature ∧
        Labelled.write signature.1 signature.2 ≠ "ecdsa-p256:AB==") ∧
      ∃ content, LogRecord.HasContentText "AAAA====" content ∧
        LogRecord.HasContentText "AAAA" content ∧ Base64.encode content ≠ "AAAA====" := by
  refine ⟨⟨⟨"ed25519", [0, 0, 0]⟩, ?_, ?_, ?_⟩, ⟨("ecdsa-p256", [0]), ?_, ?_, ?_⟩,
    [0, 0, 0], ⟨"", .object [("contentBytes", .str "AAAA===="), ("keyId", .str "K1"),
      ("signature", .str "")], ⟨[0, 0, 0], "K1", ""⟩, ?_, rfl, rfl⟩,
    LogRecord.hasContentText_encode [0, 0, 0], ?_⟩
  · decide +kernel
  · decide +kernel
  · decide +kernel
  · decide +kernel
  · decide +kernel
  · decide +kernel
  · decide +kernel
  · decide +kernel

end TransparencyLog
