import TransparencyLog.Proofs.Key.Verification
import TransparencyLog.Record.Verdict
import Mathlib.Logic.ExistsUnique

/-!
The verdict on an item decides whether it is attested: a record with octets, under an id for which a
key is found that accepts its signature over them. Any other item has one reason for which it is
rejected, and neither what a source of keys raises nor what verification does leads to anything else
(`verdict_outcome`).
-/

namespace TransparencyLog

theorem Value.octets?_eq_some_iff {content : Value} {octets : Bytes} :
    content.octets? = some octets ↔ content = .bytes octets ∨ content = .buffer octets := by
  cases content with
  | bytes octets => simp [octets?]
  | buffer octets => simp [octets?]
  | _ => simp [octets?]

/-- The records that are attested: the content is octets, a key of a verified algorithm is found
under the id, the signature is a text that spells octets under the same algorithm, the key can be
used, and it accepts these octets over the content. -/
inductive IsAttested (suite : SignatureSuite) (source : KeySource) : Value → Prop
  | intro {content keyId : Value} {octets signed : Bytes} {key : PublicKey} {scheme : Scheme}
      {text : LooseText} (hcontent : content = .bytes octets ∨ content = .buffer octets)
      (hfound : source.resolve keyId = .ok (some key)) (hscheme : key.algorithm = scheme.name)
      (hdecodes : decodeSignature text = .ok (key.algorithm, signed))
      (hloads : key.load suite = .ok scheme)
      (haccepts : suite.accepts scheme key.octets signed octets = true) :
      IsAttested suite source (.record content keyId (.str text))

/-- Why an item is rejected, the first reason first: it is no record, its content is not octets, the
look-up of its key fails or finds none, or the key refuses its signature. -/
inductive IsRejected (suite : SignatureSuite) (source : KeySource) : Value → Rejection → Prop
  | notRecord {item : Value}
      (h : ∀ content keyId signature, item ≠ .record content keyId signature) :
      IsRejected suite source item (.notRecord item.typeName)
  | notBytes {content keyId signature : Value}
      (h : ∀ octets, content ≠ .bytes octets ∧ content ≠ .buffer octets) :
      IsRejected suite source (.record content keyId signature) (.notBytes keyId)
  | lookup {content keyId signature : Value} {octets : Bytes} {fault : LookupFault}
      (hcontent : content = .bytes octets ∨ content = .buffer octets)
      (h : source.resolve keyId = .error fault) :
      IsRejected suite source (.record content keyId signature) (.lookup keyId fault)
  | unknownKey {content keyId signature : Value} {octets : Bytes}
      (hcontent : content = .bytes octets ∨ content = .buffer octets)
      (h : source.resolve keyId = .ok none) :
      IsRejected suite source (.record content keyId signature) (.unknownKey keyId)
  | verification {content keyId signature : Value} {octets : Bytes} {key : PublicKey}
      {fault : VerificationFault} (hcontent : content = .bytes octets ∨ content = .buffer octets)
      (hfound : source.resolve keyId = .ok (some key))
      (h : key.Refuses suite octets signature fault) :
      IsRejected suite source (.record content keyId signature) (.verification keyId fault)

variable {suite : SignatureSuite} {source : KeySource} {item content keyId signature : Value}
  {octets : Bytes} {rejection : Rejection}

theorem examine_of_octets (h : content = .bytes octets ∨ content = .buffer octets) :
    examine suite source (.record content keyId signature) =
      match source.resolve keyId with
      | .error fault => .error (.lookup keyId fault)
      | .ok none => .error (.unknownKey keyId)
      | .ok (some key) =>
          match key.verify suite octets signature with
          | .error fault => .error (.verification keyId fault)
          | .ok _ => .ok () := by
  rewrite [examine, Value.octets?_eq_some_iff.mpr h]
  rfl

theorem IsAttested.examine_eq (h : IsAttested suite source item) :
    examine suite source item = .ok () := by
  obtain @⟨_, keyId, octets, signed, key, scheme, text, hcontent, hfound, -, hdecodes, hloads,
    haccepts⟩ := h
  have hverify : key.verify suite octets (.str text) = .ok signed :=
    PublicKey.verify_eq_ok_iff.mpr ⟨hdecodes, scheme, hloads, haccepts⟩
  rw [examine_of_octets hcontent, hfound]
  dsimp only
  rw [hverify]

theorem PublicKey.Accepts.isAttested {key : PublicKey} {signed : Bytes}
    (h : key.Accepts suite octets signature signed)
    (hcontent : content = .bytes octets ∨ content = .buffer octets)
    (hfound : source.resolve keyId = .ok (some key)) :
    IsAttested suite source (.record content keyId signature) := by
  obtain ⟨text, rfl, -⟩ := h.exists_eq_str
  obtain ⟨scheme, hloads, hfits⟩ := h.fits
  have hscheme := scheme?_eq_some_iff.mp (load_eq_ok_iff.mp hloads).1
  exact .intro hcontent hfound hscheme h.decodes hloads hfits

theorem IsRejected.examine_eq (h : IsRejected suite source item rejection) :
    examine suite source item = .error rejection := by
  cases h with
  | notRecord h =>
      cases item with
      | record content keyId signature => exact absurd rfl (h content keyId signature)
      | _ => rfl
  | @notBytes content _ _ h =>
      have hnone : content.octets? = none := by
        refine Option.eq_none_iff_forall_ne_some.mpr fun octets hoctets => ?_
        exact (Value.octets?_eq_some_iff.mp hoctets).elim (h octets).1 (h octets).2
      rw [examine, hnone]
  | lookup hcontent h => rw [examine_of_octets hcontent, h]
  | unknownKey hcontent h => rw [examine_of_octets hcontent, h]
  | verification hcontent hfound h =>
      rw [examine_of_octets hcontent, hfound]
      dsimp only
      rw [h.verify_eq]

theorem attested_or_rejected (suite : SignatureSuite) (source : KeySource) (item : Value) :
    IsAttested suite source item ∨ ∃ rejection, IsRejected suite source item rejection := by
  cases item with
  | record content keyId signature =>
      cases hoctets : content.octets? with
      | none =>
          refine .inr ⟨_, .notBytes fun octets => ⟨?_, ?_⟩⟩
          · rintro rfl
            cases hoctets
          · rintro rfl
            cases hoctets
      | some octets =>
          have hcontent := Value.octets?_eq_some_iff.mp hoctets
          rcases hfound : source.resolve keyId with fault | _ | key
          · exact .inr ⟨_, .lookup hcontent hfound⟩
          · exact .inr ⟨_, .unknownKey hcontent hfound⟩
          · rcases PublicKey.accepts_or_refuses suite key octets signature with
              ⟨signed, haccepts⟩ | ⟨fault, hrefuses⟩
            · exact .inl (haccepts.isAttested hcontent hfound)
            · exact .inr ⟨_, .verification hcontent hfound hrefuses⟩
  | _ => exact .inr ⟨_, .notRecord fun _ _ _ => by simp⟩

theorem examine_eq_ok_iff : examine suite source item = .ok () ↔ IsAttested suite source item := by
  refine ⟨fun h => ?_, IsAttested.examine_eq⟩
  rcases attested_or_rejected suite source item with hattested | ⟨rejection, hrejected⟩
  · exact hattested
  · rw [hrejected.examine_eq] at h
    cases h

theorem examine_eq_error_iff :
    examine suite source item = .error rejection ↔ IsRejected suite source item rejection := by
  refine ⟨fun h => ?_, IsRejected.examine_eq⟩
  rcases attested_or_rejected suite source item with hattested | ⟨other, hrejected⟩
  · rw [hattested.examine_eq] at h
    cases h
  · obtain rfl := Except.error.inj (hrejected.examine_eq.symm.trans h)
    exact hrejected

theorem verdict_eq_true_iff_isAttested :
    verdict suite source item = true ↔ IsAttested suite source item := by
  rw [← examine_eq_ok_iff, verdict]
  cases examine suite source item with
  | ok _ => simp
  | error rejection => simp

theorem verdict_eq_true_iff :
    verdict suite source (.record content keyId signature) = true ↔
      ∃ octets key signed, content.octets? = some octets ∧ source.resolve keyId = .ok (some key) ∧
        key.Accepts suite octets signature signed := by
  rw [verdict_eq_true_iff_isAttested]
  constructor
  · intro h
    obtain ⟨hcontent, hfound, -, hdecodes, hloads, haccepts⟩ := h
    exact ⟨_, _, _, Value.octets?_eq_some_iff.mpr hcontent, hfound, hdecodes, _, hloads, haccepts⟩
  · rintro ⟨octets, key, signed, hoctets, hfound, haccepts⟩
    exact haccepts.isAttested (Value.octets?_eq_some_iff.mp hoctets) hfound

/-- The verdict on an item of any shape, whatever the source of keys answers or raises: it is good
if and only if the item is attested, and bad if and only if there is a reason for which it is
rejected, of which an item has one. -/
theorem verdict_outcome (suite : SignatureSuite) (source : KeySource) (item : Value) :
    (verdict suite source item = true ↔ IsAttested suite source item) ∧
      (verdict suite source item = false ↔
        ∃! rejection, IsRejected suite source item rejection) ∧
      ∀ rejection, examine suite source item = .error rejection ↔
        IsRejected suite source item rejection := by
  refine ⟨verdict_eq_true_iff_isAttested, ?_, fun rejection => examine_eq_error_iff⟩
  simp only [ExistsUnique, ← examine_eq_error_iff]
  rw [verdict]
  cases examine suite source item with
  | ok _ => simp
  | error rejection => simp

end TransparencyLog
