import TransparencyLog.Key.Verification
import TransparencyLog.Proofs.Bytes.Base64
import TransparencyLog.Proofs.Text.Blank

namespace TransparencyLog

namespace Labelled

/-- What may stand in a text: a name without a colon, and at least one octet. -/
structure IsWritable (algorithm : LooseText) (octets : Bytes) : Prop where
  ne_empty : algorithm ≠ ""
  colon : .char ':' ∉ algorithm.codes
  ne_nil : octets ≠ []

variable {text algorithm payload : LooseText} {octets : Bytes}

theorem ne_empty_iff : text ≠ "" ↔ text.codes ≠ [] :=
  not_congr (LooseText.isEmpty_iff.symm.trans LooseText.isEmpty_iff_codes)

theorem split?_eq_some_iff :
    split? text = some (algorithm, payload) ↔
      text.codes = algorithm.codes ++ .char ':' :: payload.codes ∧ algorithm ≠ "" ∧
        .char ':' ∉ algorithm.codes ∧ payload ≠ "" := by
  constructor
  · intro h
    have hparts : text.codes.takeWhile (· ≠ .char ':') ++ text.codes.dropWhile (· ≠ .char ':') =
        text.codes := List.takeWhile_append_dropWhile
    have hmark := List.head?_dropWhile_not (fun code => decide (code ≠ .char ':')) text.codes
    unfold split? at h
    dsimp only at h
    split at h
    · rename_i mark code rest hrest
      split at h
      · cases h
      · rename_i hne
        simp only [Option.some.injEq, Prod.mk.injEq] at h
        obtain ⟨rfl, rfl⟩ := h
        rw [hrest] at hparts hmark
        obtain rfl : mark = .char ':' := by simpa using hmark
        -- the parts are joined because the whole text is
        have hjoin : CodePoint.join (_ ++ _) = _ := hparts ▸ text.join_codes
        obtain ⟨hfront, htail⟩ := CodePoint.join_of_append hjoin
        have hfront := LooseText.codes_ofCodes_of_join hfront
        have htail := LooseText.codes_ofCodes_of_join (CodePoint.join_tail htail)
        rw [ne_empty_iff, ne_empty_iff, hfront, htail]
        refine ⟨hparts.symm, by simpa using hne, fun hmem => ?_, by simp⟩
        simpa using List.mem_takeWhile_imp hmem
    · cases h
  · rintro ⟨htext, halgorithm, hcolon, hpayload⟩
    rw [ne_empty_iff] at halgorithm hpayload
    obtain ⟨code, rest, hrest⟩ := List.exists_cons_of_ne_nil hpayload
    rw [split?, htext, Text.takeWhile_ne_append hcolon, Text.dropWhile_ne_append hcolon, hrest]
    dsimp only
    rw [if_neg (by simpa using halgorithm), ← hrest, LooseText.ofCodes_codes,
      LooseText.ofCodes_codes]

theorem read_eq_ok_iff :
    read text = .ok (algorithm, octets) ↔
      ∃ payload, split? text = some (algorithm, payload) ∧ Base64.decode payload = .ok octets := by
  unfold read
  split
  · rename_i hsplit
    simp [hsplit]
  · rename_i label payload hsplit
    rw [hsplit]
    split
    · rename_i fault hdecode
      simp only [reduceCtorEq, false_iff, not_exists, not_and]
      intro other hother
      obtain ⟨-, rfl⟩ := Prod.mk.inj (Option.some.inj hother)
      simp [hdecode]
    · rename_i decoded hdecode
      simp only [Except.ok.injEq, Prod.mk.injEq, Option.some.injEq]
      constructor
      · rintro ⟨rfl, rfl⟩
        exact ⟨payload, ⟨rfl, rfl⟩, hdecode⟩
      · rintro ⟨_, ⟨rfl, rfl⟩, hother⟩
        exact ⟨rfl, Except.ok.inj (hdecode.symm.trans hother)⟩

theorem codes_write (algorithm : LooseText) (octets : Bytes) :
    (write algorithm octets).codes =
      algorithm.codes ++ .char ':' :: LooseText.codes (Base64.encode octets) := by
  have htail : (":" ++ Base64.encode octets).toList = ':' :: (Base64.encode octets).toList :=
    String.toList_append
  rw [write, LooseText.codes_append, LooseText.codes_whole, htail, List.map_cons,
    CodePoint.join_append_char_cons, LooseText.join_codes, CodePoint.join_map_char,
    LooseText.codes_whole]

theorem not_isEmpty_write (algorithm : LooseText) (octets : Bytes) :
    ¬ (write algorithm octets).isEmpty = true := by
  rw [LooseText.isEmpty_iff_codes, codes_write]
  simp

theorem encode_ne_empty (h : octets ≠ []) : LooseText.whole (Base64.encode octets) ≠ "" := by
  intro hencode
  have hdecode := Base64.decode_encode octets
  rw [hencode] at hdecode
  exact h (Except.ok.inj hdecode).symm

theorem read_write (h : IsWritable algorithm octets) :
    read (write algorithm octets) = .ok (algorithm, octets) := by
  have hsplit : split? (write algorithm octets) = some (algorithm, .whole (Base64.encode octets)) :=
    split?_eq_some_iff.mpr ⟨codes_write _ _, h.ne_empty, h.colon, encode_ne_empty h.ne_nil⟩
  exact read_eq_ok_iff.mpr ⟨_, hsplit, Base64.decode_encode octets⟩

theorem isWritable_of_read (h : read text = .ok (algorithm, octets)) :
    IsWritable algorithm octets := by
  obtain ⟨payload, hsplit, hdecode⟩ := read_eq_ok_iff.mp h
  obtain ⟨-, halgorithm, hcolon, hpayload⟩ := split?_eq_some_iff.mp hsplit
  exact ⟨halgorithm, hcolon, Base64.ne_nil_of_decode hpayload hdecode⟩

theorem colon_not_mem_of_decode (h : Base64.decode payload = .ok octets) :
    .char ':' ∉ payload.codes := by
  intro hmem
  rcases Base64.isDigit_or_eq_of_decode h hmem with hdigit | hpad
  · exact absurd hdigit (by decide)
  · exact absurd hpad (by decide)

theorem colon_not_mem_encode : .char ':' ∉ LooseText.codes (Base64.encode octets) :=
  colon_not_mem_of_decode (Base64.decode_encode octets)

theorem write_inj {algorithm' : LooseText} {octets' : Bytes} :
    write algorithm octets = write algorithm' octets' ↔
      algorithm = algorithm' ∧ octets = octets' := by
  rw [← LooseText.codes_injective.eq_iff, codes_write, codes_write,
    Text.append_cons_inj colon_not_mem_encode colon_not_mem_encode,
    LooseText.codes_injective.eq_iff, LooseText.codes_injective.eq_iff, LooseText.whole.injEq,
    Base64.encode_injective.eq_iff]

theorem isWritable_of_read_write {pair : LooseText × Bytes}
    (h : read (write algorithm octets) = .ok pair) : IsWritable algorithm octets := by
  obtain ⟨label, decoded⟩ := pair
  obtain ⟨payload, hsplit, hdecode⟩ := read_eq_ok_iff.mp h
  obtain ⟨htext, hlabel, hcolon, hpayload⟩ := split?_eq_some_iff.mp hsplit
  -- neither what is encoded nor what is decoded has a colon, so both cuts are at the last one
  rw [codes_write, Text.append_cons_inj colon_not_mem_encode (colon_not_mem_of_decode hdecode),
    LooseText.codes_injective.eq_iff, LooseText.codes_injective.eq_iff] at htext
  obtain ⟨rfl, rfl⟩ := htext
  refine ⟨hlabel, hcolon, ?_⟩
  rintro rfl
  exact hpayload rfl

theorem read_write_eq_ok_iff {pair : LooseText × Bytes} :
    read (write algorithm octets) = .ok pair ↔
      IsWritable algorithm octets ∧ pair = (algorithm, octets) := by
  constructor
  · intro h
    have hwritable := isWritable_of_read_write h
    rw [read_write hwritable] at h
    exact ⟨hwritable, (Except.ok.inj h).symm⟩
  · rintro ⟨h, rfl⟩
    exact read_write h

end Labelled

theorem decodeSignature_eq_ok_iff {text algorithm : LooseText} {octets : Bytes} :
    decodeSignature text = .ok (algorithm, octets) ↔
      Labelled.read text = .ok (algorithm, octets) ∧
        (algorithm = Scheme.ed25519.name → octets.length = 64) := by
  unfold decodeSignature
  split
  · rename_i hempty
    obtain rfl := LooseText.isEmpty_iff.mp hempty
    have hread : Labelled.read "" = .error (.noLabel "") := rfl
    simp [hread]
  · split
    · rename_i fault hread
      simp [hread]
    · rename_i label decoded hread
      have hne : ¬ decoded.isEmpty = true := by
        simpa using (Labelled.isWritable_of_read hread).ne_nil
      rw [if_neg hne, hread]
      split
      · rename_i hlength
        simp only [reduceCtorEq, Except.ok.injEq, Prod.mk.injEq, false_iff, not_and]
        rintro ⟨rfl, rfl⟩ hall
        exact hlength.2 (hall hlength.1)
      · rename_i hlength
        simp only [Except.ok.injEq, Prod.mk.injEq, iff_self_and]
        rintro ⟨rfl, rfl⟩ hname
        exact Decidable.not_not.mp fun hother => hlength ⟨hname, hother⟩

namespace PublicKey

theorem ofText_eq_ok_iff {text : LooseText} {key : PublicKey} :
    ofText text = .ok key ↔ Labelled.read text = .ok (key.algorithm, key.octets) := by
  unfold ofText
  split
  · rename_i hread
    simp [hread]
  · rename_i algorithm octets hread
    obtain ⟨algorithm', octets'⟩ := key
    simp [hread]

theorem ofText_text {text : LooseText} {key : PublicKey} (h : ofText text = .ok key) :
    ofText key.text = .ok key :=
  ofText_eq_ok_iff.mpr (Labelled.read_write (Labelled.isWritable_of_read (ofText_eq_ok_iff.mp h)))

end PublicKey

/-- What may stand in the text of a signature: what may stand in any text, and under `ed25519`
sixty-four octets. -/
structure IsSignature (algorithm : LooseText) (octets : Bytes) : Prop where
  writable : Labelled.IsWritable algorithm octets
  length : algorithm = Scheme.ed25519.name → octets.length = 64

section Written

variable {algorithm : LooseText} {octets : Bytes}

theorem ofText_text_eq_ok_iff {key read : PublicKey} :
    PublicKey.ofText key.text = .ok read ↔
      Labelled.IsWritable key.algorithm key.octets ∧ read = key := by
  rw [PublicKey.ofText_eq_ok_iff, PublicKey.text, Labelled.read_write_eq_ok_iff]
  obtain ⟨algorithm, octets⟩ := read
  obtain ⟨algorithm', octets'⟩ := key
  simp

theorem decodeSignature_write_eq_ok_iff {pair : LooseText × Bytes} :
    decodeSignature (Labelled.write algorithm octets) = .ok pair ↔
      IsSignature algorithm octets ∧ pair = (algorithm, octets) := by
  obtain ⟨label, decoded⟩ := pair
  rw [decodeSignature_eq_ok_iff, Labelled.read_write_eq_ok_iff]
  constructor
  · rintro ⟨⟨hwritable, hpair⟩, hlength⟩
    obtain ⟨rfl, rfl⟩ := Prod.mk.inj hpair
    exact ⟨⟨hwritable, hlength⟩, rfl⟩
  · rintro ⟨⟨hwritable, hlength⟩, hpair⟩
    obtain ⟨rfl, rfl⟩ := Prod.mk.inj hpair
    exact ⟨⟨hwritable, rfl⟩, hlength⟩

theorem exists_malformed_write_iff :
    (∃ cause, PublicKey.ofText (PublicKey.mk algorithm octets).text = .error cause ∧
        decodeSignature (Labelled.write algorithm octets) = .error (.malformed cause)) ↔
      ¬ Labelled.IsWritable algorithm octets := by
  rw [PublicKey.text, PublicKey.ofText, decodeSignature,
    if_neg (Labelled.not_isEmpty_write algorithm octets)]
  dsimp only
  cases hread : Labelled.read (Labelled.write algorithm octets) with
  | ok pair =>
      have hwritable := Labelled.isWritable_of_read_write hread
      simp [hwritable]
  | error cause =>
      have hnot : ¬ Labelled.IsWritable algorithm octets := by
        intro hwritable
        rw [Labelled.read_write hwritable] at hread
        cases hread
      simp [hnot]

theorem decodeSignature_write_eq_size_iff :
    decodeSignature (Labelled.write algorithm octets) = .error (.size octets.length) ↔
      Labelled.IsWritable algorithm octets ∧ algorithm = Scheme.ed25519.name ∧
        octets.length ≠ 64 := by
  by_cases hwritable : Labelled.IsWritable algorithm octets
  · have hoctets : ¬ octets.isEmpty = true := by simpa using hwritable.ne_nil
    rw [decodeSignature, if_neg (Labelled.not_isEmpty_write algorithm octets),
      Labelled.read_write hwritable]
    dsimp only
    rw [if_neg hoctets]
    split
    · rename_i hlength
      exact iff_of_true rfl ⟨hwritable, hlength⟩
    · rename_i hlength
      exact iff_of_false (by simp) fun h => hlength h.2
  · obtain ⟨cause, -, hmalformed⟩ := exists_malformed_write_iff.mpr hwritable
    rw [hmalformed]
    simp [hwritable]

/-- A name and octets are read from their text as a key if and only if a text can hold them, and as
a signature if and only if moreover there are sixty-four octets under `ed25519`; nothing else is
ever read from that text. No two keys have one text, whatever their names are. What a text cannot
hold is malformed, as a key and as a signature for the same cause, and a signature of another length
is refused for that. -/
theorem texts_read_as_written (algorithm : LooseText) (octets : Bytes) :
    let key : PublicKey := ⟨algorithm, octets⟩
    let signature := Labelled.write algorithm octets
    (∀ read, PublicKey.ofText key.text = .ok read ↔
        Labelled.IsWritable algorithm octets ∧ read = key) ∧
      (∀ other : PublicKey, key.text = other.text ↔ key = other) ∧
      (∀ pair, decodeSignature signature = .ok pair ↔
        IsSignature algorithm octets ∧ pair = (algorithm, octets)) ∧
      ((∃ cause, PublicKey.ofText key.text = .error cause ∧
          decodeSignature signature = .error (.malformed cause)) ↔
        ¬ Labelled.IsWritable algorithm octets) ∧
      (decodeSignature signature = .error (.size octets.length) ↔
        Labelled.IsWritable algorithm octets ∧ algorithm = Scheme.ed25519.name ∧
          octets.length ≠ 64) := by
  intro key signature
  refine ⟨fun read => ofText_text_eq_ok_iff, fun other => ?_,
    fun pair => decodeSignature_write_eq_ok_iff, exists_malformed_write_iff,
    decodeSignature_write_eq_size_iff⟩
  obtain ⟨algorithm', octets'⟩ := other
  exact Labelled.write_inj.trans (by simp [key])

/-- The name `a:b` is cut at its colon, and what is left after that is no base64. -/
example : PublicKey.ofText (PublicKey.mk "a:b" [0]).text = .error (.payload .foreignCharacter) := by
  decide +kernel

end Written

end TransparencyLog
