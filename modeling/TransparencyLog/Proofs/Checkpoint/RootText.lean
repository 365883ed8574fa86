import TransparencyLog.LogQuery
import TransparencyLog.Proofs.Digest.Prefixed
import TransparencyLog.Proofs.Text.Loose

namespace TransparencyLog.RootIdentifier

open PrefixedDigest

variable {text : String} {root : RootIdentifier} {value : Value}

theorem isText_iff_exists : IsText text ↔ ∃ root : RootIdentifier, root.text = text := by
  rw [isText_iff]
  constructor
  · rintro ⟨digest, hdigest, htext⟩
    exact ⟨⟨digest, hdigest⟩, htext⟩
  · rintro ⟨root, htext⟩
    exact ⟨root.digest, root.length_digest, htext⟩

theorem isText_text (root : RootIdentifier) : IsText root.text :=
  isText_iff_exists.mpr ⟨root, rfl⟩

theorem exists_of_digits? {digits : List Char} (h : digits? text = some digits) :
    ∃ root, ofText? text = some root := by
  obtain ⟨hlength, hdigits, -⟩ := digits?_eq_some_iff.mp h
  have hpairs : digits.length = 2 * 32 := hlength
  obtain ⟨digest, hdigest, rfl⟩ := Hex.exists_chars_eq hpairs hdigits
  refine ⟨⟨digest, hdigest⟩, ?_⟩
  rw [ofText?, h]
  simp [Hex.octets?_chars, ofDigest?, hdigest]

theorem isSome_ofText? : (ofText? text).isSome = accepts text := by
  cases hdigits : digits? text with
  | none => simp [ofText?, accepts, hdigits]
  | some digits =>
      obtain ⟨root, hroot⟩ := exists_of_digits? hdigits
      simp [accepts, hdigits, hroot]

theorem exists_ofValue_iff : (∃ root, ofValue (.str text) = .ok root) ↔ accepts text = true := by
  rw [← isSome_ofText?, ofValue]
  cases ofText? text with
  | none => simp
  | some root => simp

theorem ofDigest?_eq_some_iff {digest : Bytes} :
    ofDigest? "sha256" digest = some root ↔ digest = root.digest := by
  rw [ofDigest?]
  constructor
  · intro h
    split at h
    · obtain rfl := Option.some.inj h
      rfl
    · cases h
  · rintro rfl
    rw [dif_pos ⟨rfl, root.length_digest⟩]

/-- The digits that are taken from a text are those of a digest if and only if the text is that of
the digest, or that text with a line feed after it. -/
theorem digits?_eq_chars_iff :
    digits? text = some (Hex.chars root.digest) ↔ text = root.text ∨ text = root.text ++ "\n" := by
  have hlength : (Hex.chars root.digest).length = 64 := by
    rw [Hex.length_chars, root.length_digest]
  have hlower : ∀ c ∈ Hex.chars root.digest, Hex.IsLower c :=
    fun c hc => Hex.isLower_of_mem_chars hc
  have htext : root.text.toList = "sha256:".toList ++ Hex.chars root.digest := by
    rw [RootIdentifier.text, ofOctets, Hex.encode, String.toList_append, String.toList_ofList]
    rfl
  rw [digits?_eq_some_iff, ← String.toList_inj, ← String.toList_inj, String.toList_append, htext,
    List.append_assoc]
  constructor
  · rintro ⟨-, -, tail, htail, rfl | rfl⟩
    · rw [List.append_nil] at htail
      exact .inl htail
    · exact .inr htail
  · rintro (h | h)
    · exact ⟨hlength, hlower, [], by rw [h, List.append_nil], .inl rfl⟩
    · exact ⟨hlength, hlower, ['\n'], h, .inr rfl⟩

theorem ofText?_eq_some_iff :
    ofText? text = some root ↔ text = root.text ∨ text = root.text ++ "\n" := by
  rw [← digits?_eq_chars_iff]
  constructor
  · intro h
    obtain ⟨digits, hdigits, hread⟩ := Option.bind_eq_some_iff.mp h
    obtain ⟨digest, hdigest, hroot⟩ := Option.bind_eq_some_iff.mp hread
    obtain rfl := ofDigest?_eq_some_iff.mp hroot
    obtain ⟨hlength, hlower, -⟩ := digits?_eq_some_iff.mp hdigits
    have hpairs : digits.length = 2 * 32 := hlength
    obtain ⟨octets, -, rfl⟩ := Hex.exists_chars_eq hpairs hlower
    rw [Hex.octets?_chars] at hdigest
    obtain rfl := Option.some.inj hdigest
    exact hdigits
  · intro h
    rw [ofText?, h, Option.bind_eq_bind, Option.bind_some, Hex.octets?_chars, Option.bind_eq_bind,
      Option.bind_some, ofDigest?_eq_some_iff]

theorem ofValue_eq_ok_iff :
    ofValue value = .ok root ↔
      value = .str root.text ∨ value = .str (.whole (root.text ++ "\n")) := by
  cases value with
  | str text =>
      cases text with
      | whole text =>
          rw [ofValue, Value.str.injEq, Value.str.injEq, LooseText.whole.injEq,
            LooseText.whole.injEq, ← ofText?_eq_some_iff]
          cases ofText? text with
          | none => simp
          | some root => simp
      | torn text => simp [ofValue]
  | _ => simp [ofValue]

theorem ofValue_text (root : RootIdentifier) : ofValue (.str root.text) = .ok root :=
  ofValue_eq_ok_iff.mpr (.inl rfl)

theorem ofValue_eq_ok_iff_of_unterminated
    (h : ∀ text, value = .str text → text.codes.getLast? ≠ some (.char '\n')) :
    ofValue value = .ok root ↔ value = .str root.text := by
  rw [ofValue_eq_ok_iff]
  constructor
  · rintro (hvalue | hvalue)
    · exact hvalue
    · refine absurd ?_ (h _ hvalue)
      rw [LooseText.codes_whole, String.toList_append, List.map_append]
      exact List.getLast?_concat
  · exact .inl

theorem eq_ofValue_of_error {fault : TextFault} (h : ofValue value = .error fault) :
    fault = .ofValue value := by
  unfold ofValue at h
  split at h
  · split at h
    · cases h
    · exact (Except.error.inj h).symm
  · exact (Except.error.inj h).symm

theorem kind_of_ofValue_error {fault : TextFault} (h : ofValue value = .error fault) :
    (LogQuery.Fault.root fault).kind = .value ∨
      (LogQuery.Fault.root fault).kind = .nesting ∧ value.quote = .error .tooDeep := by
  obtain rfl := eq_ofValue_of_error h
  rw [TextFault.ofValue]
  cases value.quote with
  | ok quoted => exact .inl rfl
  | error fault =>
      cases fault with
      | overlong fault => exact .inl rfl
      | tooDeep => exact .inr ⟨rfl, rfl⟩

/-- The digests of thirty-two octets make identifiers, each of which is read from its text. Besides
this text, an identifier is read from the text with a line feed after it, and from no other value;
so it is read from this text alone among the values that are no text with a line feed at its end.
Every other value is refused as a value, unless it is nested too deep to be quoted. -/
theorem ofValue_text_outcome (digest : Bytes) (value : Value) :
    ((∃ root, ofDigest? "sha256" digest = some root ∧ root.digest = digest ∧
      ofValue (.str root.text) = .ok root) ↔ digest.length = 32) ∧
    (∀ root, ofValue value = .ok root ↔
      value = .str root.text ∨ value = .str (.whole (root.text ++ "\n"))) ∧
    ((∀ text, value = .str text → text.codes.getLast? ≠ some (.char '\n')) →
      ∀ root, ofValue value = .ok root ↔ value = .str root.text) ∧
    ∀ fault, ofValue value = .error fault →
      (LogQuery.Fault.root fault).kind = .value ∨
        (LogQuery.Fault.root fault).kind = .nesting ∧ value.quote = .error .tooDeep := by
  refine ⟨⟨?length, ?made⟩, fun root => ofValue_eq_ok_iff,
    fun hlast root => ofValue_eq_ok_iff_of_unterminated hlast,
    fun fault => kind_of_ofValue_error⟩
  case length =>
    rintro ⟨root, -, rfl, -⟩
    exact root.length_digest
  case made =>
    intro hdigest
    exact ⟨⟨digest, hdigest⟩, ofDigest?_eq_some_iff.mpr rfl, rfl, ofValue_text _⟩

/-- An identifier is read from a text that is not its own. -/
theorem ofValue_line_feed :
    ∃ root, ofValue (.str
        "sha256:1111111111111111111111111111111111111111111111111111111111111111\n") = .ok root ∧
      root.text = "sha256:1111111111111111111111111111111111111111111111111111111111111111" := by
  refine ⟨⟨List.replicate 32 0x11, List.length_replicate⟩, ?_, ?_⟩
  · decide +kernel
  · decide +kernel

end TransparencyLog.RootIdentifier
