import TransparencyLog.Proofs.Checkpoint.Outcome

namespace TransparencyLog

namespace VerifiedCheckpoint

variable {suite suite' : SignatureSuite} {source source' : KeySource}
  {content content' keyId keyId' signature signature' : Value} {v v' : VerifiedCheckpoint}

/-- What a verification has been given and what its result states: the contents spell the
statements, the key id is the one that is reported, the signature spells the octets, and the digest
is taken of the message made of them. -/
structure Binds (content keyId signature : Value) (v : VerifiedCheckpoint)
    (octets message : Bytes) : Prop where
  body : CheckpointBody.readValue content = .ok v.body
  keyId : keyId = .str v.keyId
  signature : ∃ algorithm, decodeSignatureValue signature = .ok (algorithm, octets)
  material : RootIdentifier.material v.body v.keyId octets = .ok message
  root : v.root.digest = sha256 message

theorem exists_binds (h : verify suite source content keyId signature = .ok v) :
    ∃ octets message, Binds content keyId signature v octets message := by
  obtain ⟨hcontent, hkeyId, -, key, octets, -, haccepts, hroot⟩ := verify_eq_ok_iff.mp h
  obtain ⟨message, hmessage, hroot⟩ := RootIdentifier.compute_eq_ok_iff.mp hroot
  exact ⟨octets, message, hcontent, hkeyId, ⟨key.algorithm, haccepts.decodes⟩, hmessage,
    congrArg RootIdentifier.digest hroot⟩

theorem wellFormed_of_readValue {body : CheckpointBody}
    (h : CheckpointBody.readValue content = .ok body) : body.WellFormed := by
  unfold CheckpointBody.readValue at h
  split at h
  · exact (CheckpointBody.renders_of_read h).1
  · cases h

/-- The messages under the digests of two verified checkpoints are the same if and only if their
statements, their key ids and the octets of their signatures are; so are their identifiers, if the
digest tells the two messages apart. -/
theorem material_eq_iff_of_verify (h : verify suite source content keyId signature = .ok v)
    (h' : verify suite' source' content' keyId' signature' = .ok v') :
    ∃ octets octets' message message', Binds content keyId signature v octets message ∧
      Binds content' keyId' signature' v' octets' message' ∧
      (message = message' ↔ v.body = v'.body ∧ v.keyId = v'.keyId ∧ octets = octets') ∧
      ((sha256 message = sha256 message' → message = message') →
        (v.root = v'.root ↔ v.body = v'.body ∧ v.keyId = v'.keyId ∧ octets = octets')) := by
  obtain ⟨octets, message, hbinds⟩ := exists_binds h
  obtain ⟨octets', message', hbinds'⟩ := exists_binds h'
  refine ⟨octets, octets', message, message', hbinds, hbinds', ?_⟩
  have hmessage : message = message' ↔
      v.body = v'.body ∧ v.keyId = v'.keyId ∧ octets = octets' := by
    rw [RootIdentifier.material_eq_iff hbinds.material hbinds'.material]
    constructor
    · rintro ⟨htext, hkeyId, hoctets⟩
      exact ⟨(wellFormed_of_readValue hbinds.body).eq_of_text_eq
        (wellFormed_of_readValue hbinds'.body) htext, hkeyId, hoctets⟩
    · rintro ⟨hbody, hkeyId, hoctets⟩
      exact ⟨congrArg CheckpointBody.text hbody, hkeyId, hoctets⟩
  refine ⟨hmessage, fun hcollision => ?_⟩
  rw [RootIdentifier.ext_iff, hbinds.root, hbinds'.root, ← hmessage]
  exact ⟨hcollision, congrArg sha256⟩

/-- A checkpoint has the same identifier under other line ends and another registry. -/
theorem exists_root_eq_of_lineEnds :
    ∃ v v', verify .standard (logRegistry ["K1"]).source (.bytes (logBody.octetsWith ['\n']))
        (.str "K1") (.str logSignature) = .ok v ∧
      verify .standard (logRegistry ["K2", "K1"]).source (.bytes (logBody.octetsWith ['\r', '\n']))
        (.str "K1") (.str logSignature) = .ok v' ∧ v.root = v'.root := by
  obtain ⟨octets, haccepts⟩ := exists_accepts_logSignature
  have hend : ['\n'] ∈ Text.lineEnds ∧ ['\r', '\n'] ∈ Text.lineEnds := by simp [Text.lineEnds]
  obtain ⟨root, -, hlf⟩ := @verify_logBody ["K1"] _ _ (by simp) hend.1 haccepts
  obtain ⟨root', -, hcrlf⟩ := @verify_logBody ["K2", "K1"] _ _ (by simp) hend.2 haccepts
  obtain ⟨octets', octets'', message, message', hbinds, hbinds', hmessage, hroot⟩ :=
    material_eq_iff_of_verify hlf hcrlf
  obtain ⟨algorithm, hdecodes⟩ := hbinds.signature
  obtain ⟨algorithm', hdecodes'⟩ := hbinds'.signature
  obtain rfl : octets' = octets'' :=
    congrArg Prod.snd (Except.ok.inj (hdecodes.symm.trans hdecodes'))
  exact ⟨_, _, hlf, hcrlf, (hroot fun _ => hmessage.mpr ⟨rfl, rfl, rfl⟩).mpr ⟨rfl, rfl, rfl⟩⟩

end VerifiedCheckpoint

end TransparencyLog
