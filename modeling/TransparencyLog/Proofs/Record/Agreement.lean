import TransparencyLog.Proofs.Record.Batch

namespace TransparencyLog

theorem CheckpointBody.canonicalize_eq_ok_iff {octets form : Bytes} :
    canonicalize octets = .ok form ↔ ∃ body, read octets = .ok body ∧ body.octets = form := by
  unfold canonicalize
  cases read octets with
  | error fault => simp
  | ok body => simp

namespace VerifiedCheckpoint

variable {suite : SignatureSuite} {source : KeySource} {content : Value} {body : CheckpointBody}
  {keyId signature : LooseText}

/-- What the verification of contents that are read comes to under an id: the key of a signature
that is not empty is looked up. -/
theorem verify_of_read (hcontent : CheckpointBody.readValue content = .ok body)
    (hkeyId : keyId ≠ "") (signature : LooseText) :
    verify suite source content (.str keyId) (.str signature) =
      if signature = "" then .error (.trust (.verification (.signature .notText)))
      else ofLookup suite body keyId (.str signature) (source.resolve (.str keyId)) := by
  rw [verify, verifyVia_of_keyId hcontent hkeyId]
  split
  · rename_i hempty
    rw [hempty, ofBodyVia_of_noSignature]
    rfl
  · rename_i hsignature
    rw [ofBodyVia_of_signature hsignature]
    rfl

/-- The faults of contents that are read: there is no key for the id, the algorithm of the key is
not supported, or the signature is blamed. -/
def IsSignerFault (fault : TrustFault) : Prop :=
  fault.kind = .unknownKey ∨ fault.kind = .unsupportedAlgorithm ∨ fault.kind = .signatureInvalid

theorem isSignerFault_verification (fault : VerificationFault) :
    IsSignerFault (.verification fault) := by
  cases fault with
  | unsupported algorithm => exact .inr (.inl rfl)
  | signature cause => exact .inr (.inr rfl)

/-- A checkpoint whose record is valid is verified, unless a half stands in the key id: then what
its identifier covers cannot be encoded. -/
theorem verify_of_verdict (hcontent : CheckpointBody.readValue content = .ok body)
    (hkeyId : keyId ≠ "")
    (h : verdict suite source (LogRecord.mk body.octets keyId signature).toItem = true) :
    (keyId.IsWhole → ∃ verified,
        verify suite source content (.str keyId) (.str signature) = .ok verified) ∧
      (¬ keyId.IsWhole → ∃ fault,
        verify suite source content (.str keyId) (.str signature) = .error (.encoding fault)) := by
  obtain ⟨octets, key, signed, hoctets, hfound, haccepts⟩ := verdict_eq_true_iff.mp h
  obtain rfl := Option.some.inj hoctets
  obtain ⟨text, htext, hsignature⟩ := haccepts.exists_eq_str
  obtain rfl := Value.str.inj htext
  rw [verify_of_read hcontent hkeyId, if_neg hsignature, hfound]
  obtain ⟨hwhole, htorn⟩ := ofLookup_of_accepts keyId haccepts
  refine ⟨fun h => ?_, htorn⟩
  obtain ⟨root, -, hresult⟩ := hwhole h
  exact ⟨_, hresult⟩

theorem verify_of_not_verdict {found : Option PublicKey}
    (hcontent : CheckpointBody.readValue content = .ok body) (hkeyId : keyId ≠ "")
    (hfound : source.resolve (.str keyId) = .ok found)
    (h : verdict suite source (LogRecord.mk body.octets keyId signature).toItem = false) :
    ∃ fault, verify suite source content (.str keyId) (.str signature) = .error (.trust fault) ∧
      IsSignerFault fault := by
  rw [verify_of_read hcontent hkeyId, hfound]
  split
  · exact ⟨_, rfl, isSignerFault_verification _⟩
  · cases found with
    | none => exact ⟨.unknownKey keyId, rfl, .inl rfl⟩
    | some key =>
        cases hverify : key.verify suite body.octets (.str signature) with
        | error fault =>
            exact ⟨.verification fault, by rw [ofLookup, hverify], isSignerFault_verification fault⟩
        | ok signed =>
            have hvalid : verdict suite source (LogRecord.mk body.octets keyId signature).toItem =
                true :=
              verdict_eq_true_iff.mpr
                ⟨_, key, signed, rfl, hfound, PublicKey.verify_eq_ok_iff.mp hverify⟩
            rw [hvalid] at h
            cases h

end VerifiedCheckpoint

open VerifiedCheckpoint

theorem exists_hashCheckpoint_iff {suite : SignatureSuite} {source : KeySource}
    {content keyId signature : Value} :
    (∃ root, hashCheckpoint suite source content keyId signature = .ok root) ↔
      ∃ verified, verify suite source content keyId signature = .ok verified := by
  unfold hashCheckpoint
  cases verify suite source content keyId signature with
  | error fault => simp
  | ok verified => simp

theorem hashCheckpoint_eq_error_iff {suite : SignatureSuite} {source : KeySource}
    {content keyId signature : Value} {fault : CheckpointFault} :
    hashCheckpoint suite source content keyId signature = .error fault ↔
      verify suite source content keyId signature = .error fault := by
  unfold hashCheckpoint
  cases verify suite source content keyId signature with
  | error fault => simp
  | ok verified => simp

/-- Under a source that finds a key or none for each id, a checkpoint that can be read has an
identifier if and only if the record with its canonical octets is valid and no half stands in the
key id. Where the record is not valid, the checkpoint fails for want of a key, for its algorithm, or
for the signature; where it is valid in spite of a half, what the identifier covers cannot be
encoded. -/
theorem hash_agrees_with_verdict (suite : SignatureSuite) {source : KeySource}
    {lookup : LooseText → Option PublicKey}
    (hsource : ∀ id, source.resolve (.str id) = .ok (lookup id)) {content : Value}
    {octets form : Bytes} (hcontent : content.octets? = some octets)
    (hform : CheckpointBody.canonicalize octets = .ok form) {keyId : LooseText}
    (hkeyId : keyId ≠ "") (signature : LooseText) :
    let hashed := hashCheckpoint suite source content (.str keyId) (.str signature)
    let valid := verdict suite source (LogRecord.mk form keyId signature).toItem
    ((∃ root, hashed = .ok root) ↔ valid = true ∧ keyId.IsWhole) ∧
      (valid = false → ∃ fault, hashed = .error (.trust fault) ∧ IsSignerFault fault) ∧
      (valid = true → ¬ keyId.IsWhole → ∃ fault, hashed = .error (.encoding fault)) := by
  intro hashed valid
  obtain ⟨body, hbody, rfl⟩ := CheckpointBody.canonicalize_eq_ok_iff.mp hform
  have hread : CheckpointBody.readValue content = .ok body := by
    rw [CheckpointBody.readValue, hcontent]
    exact hbody
  have hfails (hvalid : valid = false) :
      ∃ fault, hashed = .error (.trust fault) ∧ IsSignerFault fault := by
    obtain ⟨fault, hverify, hfault⟩ :=
      verify_of_not_verdict hread hkeyId (hsource keyId) hvalid
    exact ⟨fault, hashCheckpoint_eq_error_iff.mpr hverify, hfault⟩
  have htorn (hvalid : valid = true) (hkeyId' : ¬ keyId.IsWhole) :
      ∃ fault, hashed = .error (.encoding fault) := by
    obtain ⟨fault, hverify⟩ := (verify_of_verdict hread hkeyId hvalid).2 hkeyId'
    exact ⟨fault, hashCheckpoint_eq_error_iff.mpr hverify⟩
  refine ⟨⟨fun ⟨root, hroot⟩ => ?_, fun ⟨hvalid, hwhole⟩ => ?_⟩, hfails, htorn⟩
  · have hvalid : valid = true := by
      rw [← Bool.not_eq_false]
      intro hinvalid
      obtain ⟨fault, hfault, -⟩ := hfails hinvalid
      cases hroot.symm.trans hfault
    refine ⟨hvalid, Classical.byContradiction fun hkeyId' => ?_⟩
    obtain ⟨fault, hfault⟩ := htorn hvalid hkeyId'
    cases hroot.symm.trans hfault
  · exact exists_hashCheckpoint_iff.mpr ((verify_of_verdict hread hkeyId hvalid).1 hwhole)

section Example

/-- A checkpoint whose lines end in a way of their own is verified, so the record with its canonical
octets is valid; without its signature neither is. -/
theorem verdict_logRecord :
    verdict .standard (logRegistry ["K1"]).source
        (LogRecord.mk logBody.octets "K1" logSignature).toItem = true ∧
      verdict .standard (logRegistry ["K1"]).source
        (LogRecord.mk logBody.octets "K1" "").toItem = false ∧
      ∃ fault, hashCheckpoint .standard (logRegistry ["K1"]).source
        (.bytes (logBody.octetsWith ['\r', '\n'])) (.str "K1") (.str "") =
          .error (.trust fault) ∧ IsSignerFault fault := by
  have hsource : ∀ id, (logRegistry ["K1"]).source.resolve (.str id) =
      .ok ((logRegistry ["K1"]).resolve id) := fun _ => rfl
  have hend : ['\r', '\n'] ∈ Text.lineEnds := by simp [Text.lineEnds]
  have hcontent : (Value.bytes (logBody.octetsWith ['\r', '\n'])).octets? =
      some (logBody.octetsWith ['\r', '\n']) := rfl
  have hform := CheckpointBody.canonicalize_eq_ok
    (CheckpointBody.read_octetsWith hend wellFormed_logBody)
  have hname : LooseText.whole "K1" ≠ "" := by simp
  have hagrees := hash_agrees_with_verdict .standard hsource hcontent hform hname
  obtain ⟨signed, haccepts⟩ := exists_accepts_logSignature
  obtain ⟨root, -, hverified⟩ := @verify_logBody ["K1"] _ _ List.mem_cons_self hend haccepts
  obtain ⟨hvalid, -⟩ := (hagrees logSignature).1.mp (exists_hashCheckpoint_iff.mpr ⟨_, hverified⟩)
  have hinvalid : verdict .standard (logRegistry ["K1"]).source
      (LogRecord.mk logBody.octets "K1" "").toItem = false := by
    rw [← Bool.not_eq_true]
    intro hunsigned
    obtain ⟨root', hroot'⟩ := (hagrees "").1.mpr ⟨hunsigned, "K1", rfl⟩
    obtain ⟨verified, hverified⟩ := exists_hashCheckpoint_iff.mp ⟨root', hroot'⟩
    rw [verify_of_read (readValue_logBody hend) hname, if_pos rfl] at hverified
    cases hverified
  exact ⟨hvalid, hinvalid, (hagrees "").2.1 hinvalid⟩

/-- Under half of a surrogate pair as the key id, the record is valid, but the checkpoint has no
identifier, and no error of distrust says so. -/
theorem verdict_torn_logRecord :
    LooseText.loneHalf ≠ "" ∧
      verdict .standard (logRegistry [.loneHalf]).source
        (LogRecord.mk logBody.octets .loneHalf logSignature).toItem = true ∧
      ∃ fault, hashCheckpoint .standard (logRegistry [.loneHalf]).source
        (.bytes logBody.octets) (.str .loneHalf) (.str logSignature) =
          .error (.encoding fault) := by
  have hne : LooseText.loneHalf ≠ "" := by decide
  have hread := @readValue_logBody ['\n'] (by simp [Text.lineEnds])
  rw [CheckpointBody.octetsWith_lf] at hread
  obtain ⟨signed, haccepts⟩ := exists_accepts_logSignature
  have hfound := resolve_logRegistry (List.mem_singleton_self LooseText.loneHalf)
  have hvalid : verdict .standard (logRegistry [.loneHalf]).source
      (LogRecord.mk logBody.octets .loneHalf logSignature).toItem = true :=
    verdict_eq_true_iff.mpr
      ⟨logBody.octets, logKey, signed, rfl, congrArg Except.ok hfound, haccepts⟩
  obtain ⟨-, htorn⟩ := verify_of_verdict hread hne hvalid
  obtain ⟨fault, hfault⟩ := htorn LooseText.not_isWhole_loneHalf
  exact ⟨hne, hvalid, fault, hashCheckpoint_eq_error_iff.mpr hfault⟩

end Example

end TransparencyLog
