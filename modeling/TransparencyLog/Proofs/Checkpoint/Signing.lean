import TransparencyLog.Checkpoint.Signing
import TransparencyLog.Proofs.Checkpoint.RootIdentifier
import TransparencyLog.Proofs.Key.SigningKey

namespace TransparencyLog

namespace CheckpointBody

theorem exists_encode_of_read {octets : Bytes} {body : CheckpointBody}
    (h : read octets = .ok body) :
    ∃ text, octets = Utf8.encode text := by
  obtain ⟨-, main, blanks, cs, -, -, -, rfl⟩ := renders_of_read h
  exact ⟨String.ofList cs, by rw [Utf8.encode, String.toList_ofList]⟩

theorem readValue_eq_ok_iff {content : Value} {body : CheckpointBody} :
    readValue content = .ok body ↔
      ∃ octets, content.octets? = some octets ∧ read octets = .ok body := by
  unfold readValue
  cases content.octets? with
  | none => simp
  | some octets => simp

end CheckpointBody

namespace SignedCheckpoint

open Json

variable {checkpoint : SignedCheckpoint}

theorem members_eq_ok_iff {members : List (String × LooseText)} :
    checkpoint.members = .ok members ↔
      ∃ text, checkpoint.content = Utf8.encode text ∧
        members = [("contents", .whole text), ("keyId", checkpoint.keyId),
          ("signature", checkpoint.signature)] := by
  simp only [SignedCheckpoint.members, ← Utf8.decode_eq_ok_iff]
  cases Utf8.decode checkpoint.content with
  | error fault => simp
  | ok text =>
      simp only [Except.ok.injEq, exists_eq_left']
      exact eq_comm

theorem toJson_eq_ok_iff {json : String} :
    checkpoint.toJson = .ok json ↔ ∃ members, checkpoint.members = .ok members ∧
      json = String.ofList ((objectLines members).flatMap CodePoint.spelled) := by
  unfold toJson
  cases checkpoint.members with
  | error fault => simp
  | ok members =>
      simp only [Except.ok.injEq, exists_eq_left']
      exact eq_comm

theorem printChars_objectLines (members : List (String × LooseText)) :
    printChars .indented 0 (RootIdentifier.textObject members) = .ok (objectLines members) := by
  have hmembers := printMembers_texts .indented 1
    (members.map fun member => (.whole member.1, member.2))
  rw [List.map_map, List.map_map] at hmembers
  rw [RootIdentifier.textObject_eq_map, printChars_map_eq_ok_iff]
  exact ⟨_, hmembers, rfl⟩

theorem parse_objectLines {members : List (String × LooseText)} (h : (members.map (·.1)).Nodup) :
    parse (String.ofList ((objectLines members).flatMap CodePoint.spelled)) =
      .ok (RootIdentifier.textObject members) := by
  have hdocument : IsDocument (RootIdentifier.textObject members) := by
    apply isDocument_object
    · simpa [List.map_map, Function.comp_def] using
        h.map fun _ _ hname => LooseText.whole.inj hname
    · intro member hmember
      obtain ⟨m, -, rfl⟩ := List.mem_map.mp hmember
      exact .str m.2
  have hnesting : Value.nesting (RootIdentifier.textObject members) ≤ nestingLimit := by
    rw [RootIdentifier.textObject_eq_map, Value.nesting]
    have hflat : Value.nestingOfEntries
        (members.map fun member => (.str (.whole member.1), .str member.2)) ≤ 0 := by
      refine Value.nestingOfEntries_le_iff.mpr fun entry hentry => ?_
      obtain ⟨member, -, rfl⟩ := List.mem_map.mp hentry
      exact Nat.le_refl 0
    exact Nat.le_trans (Nat.succ_le_succ hflat) (by decide)
  obtain ⟨cs, hprint⟩ := hdocument.exists_chars Layout.isPlain_indented 0
  have hread := @parse_append .indented _ _ [] Layout.isSpaced_indented hdocument hnesting hprint
    (by simp)
  rw [Except.ok.inj ((printChars_objectLines members).symm.trans hprint),
    CodePoint.flatMap_spelled_map_char]
  rwa [List.append_nil] at hread

theorem ofJson_of_toJson {json : String} (h : checkpoint.toJson = .ok json) :
    ofJson (.str json) = .ok checkpoint := by
  obtain ⟨members, hmembers, rfl⟩ := toJson_eq_ok_iff.mp h
  obtain ⟨text, hcontent, rfl⟩ := members_eq_ok_iff.mp hmembers
  have hnames : (([("contents", .whole text), ("keyId", checkpoint.keyId),
      ("signature", checkpoint.signature)] : List (String × LooseText)).map (·.1)).Nodup := by simp
  rw [ofJson, Json.load, loadText, parse_objectLines hnames]
  simp [ofValue, RootIdentifier.textObject, Value.object, ofMembers, textsOf, textMember,
    Value.lookup?, pure, Except.pure, ← hcontent]

end SignedCheckpoint

namespace SigningKey

variable {suite : SignatureSuite} {source : KeySource} {key : SigningKey} {keyId : LooseText}
  {content : Value} {body : CheckpointBody}

theorem exists_signCheckpoint (hcontent : CheckpointBody.readValue content = .ok body)
    (key : SigningKey) (keyId : LooseText) (carriage : Carriage) :
    ∃ carried, signCheckpoint key keyId carriage content =
        .ok ⟨carried, keyId, key.signText body.octets⟩ ∧
      CheckpointBody.read carried = .ok body := by
  have hbody := VerifiedCheckpoint.wellFormed_of_readValue hcontent
  rw [signCheckpoint, hcontent]
  cases carriage with
  | canonical => exact ⟨body.octets, rfl, CheckpointBody.read_octets hbody⟩
  | verbatim =>
      obtain ⟨octets, hoctets, hread⟩ := CheckpointBody.readValue_eq_ok_iff.mp hcontent
      refine ⟨octets, ?_, hread⟩
      rw [hoctets]
      rfl

theorem exists_transported (hcontent : CheckpointBody.readValue content = .ok body)
    (key : SigningKey) (keyId : LooseText) (carriage : Carriage) :
    ∃ carried json, let signed : SignedCheckpoint := ⟨carried, keyId, key.signText body.octets⟩
      signCheckpoint key keyId carriage content = .ok signed ∧ signed.toJson = .ok json ∧
        SignedCheckpoint.ofJson (.str json) = .ok signed ∧
        CheckpointBody.readValue (.bytes carried) = .ok body := by
  obtain ⟨carried, hsign, hcarried⟩ := exists_signCheckpoint hcontent key keyId carriage
  obtain ⟨text, htext⟩ := CheckpointBody.exists_encode_of_read hcarried
  have hmembers := (@SignedCheckpoint.members_eq_ok_iff
    ⟨carried, keyId, key.signText body.octets⟩ _).mpr ⟨text, htext, rfl⟩
  have hjson := SignedCheckpoint.toJson_eq_ok_iff.mpr ⟨_, hmembers, rfl⟩
  exact ⟨carried, _, hsign, hjson, SignedCheckpoint.ofJson_of_toJson hjson, hcarried⟩

theorem verify_signText (hkeyId : keyId ≠ "")
    (hfound : source.resolve (.str keyId) = .ok (some key.publicKey)) (message : Bytes)
    {content : Value} (hcontent : CheckpointBody.readValue content = .ok body) :
    VerifiedCheckpoint.verify suite source content (.str keyId) (.str (key.signText message)) =
      VerifiedCheckpoint.ofLookup suite body keyId (.str (key.signText message))
        (.ok (some key.publicKey)) := by
  have hsignature : key.signText message ≠ "" := LooseText.isEmpty_iff.not.mp
    (Labelled.not_isEmpty_write key.scheme.name (key.sign message))
  rw [VerifiedCheckpoint.verify, VerifiedCheckpoint.verifyVia_of_keyId hcontent hkeyId,
    VerifiedCheckpoint.ofBodyVia_of_signature hsignature, ← hfound]
  rfl

/-- A checkpoint that is signed, written as JSON text and read from it is verified under every
source that finds the public half of the key, and the same signature gives the same identifier over
every other rendering of the statements, unless a half stands in the key id: then the checkpoint is
signed and survives transport, but neither it nor any other rendering is identified. -/
theorem verify_transported (hcontent : CheckpointBody.readValue content = .ok body)
    (hkeyId : keyId ≠ "") (hfound : source.resolve (.str keyId) = .ok (some key.publicKey))
    (hsigns : key.Signs suite body.octets) (carriage : Carriage) :
    ∃ signed json octets, signCheckpoint key keyId carriage content = .ok signed ∧
      signed.toJson = .ok json ∧ SignedCheckpoint.ofJson (.str json) = .ok signed ∧
      decodeSignature signed.signature = .ok (.whole key.scheme.name, octets) ∧
      (keyId.IsWhole → ∃ root, RootIdentifier.compute body keyId octets = .ok root ∧
        signed.verify suite source = .ok ⟨body, keyId, root⟩ ∧
        ∀ content', CheckpointBody.readValue content' = .ok body →
          hashCheckpoint suite source content' (.str keyId) (.str signed.signature) = .ok root) ∧
      (¬ keyId.IsWhole → ∃ fault, signed.verify suite source = .error (.encoding fault) ∧
        ∀ content', CheckpointBody.readValue content' = .ok body →
          hashCheckpoint suite source content' (.str keyId) (.str signed.signature) =
            .error (.encoding fault)) := by
  obtain ⟨carried, json, hsign, hjson, hread, hcarried⟩ :=
    exists_transported hcontent key keyId carriage
  have hverify {content : Value} (hcontent : CheckpointBody.readValue content = .ok body) :=
    @verify_signText suite source key keyId body hkeyId hfound body.octets content hcontent
  obtain ⟨hidentified, hfails⟩ :=
    VerifiedCheckpoint.ofLookup_of_accepts keyId (accepts_signText hsigns)
  refine ⟨_, json, key.sign body.octets, hsign, hjson, hread,
    key.decodeSignature_signText body.octets, ?_, ?_⟩
  · intro hwhole
    obtain ⟨root, hroot, hresult⟩ := hidentified hwhole
    refine ⟨root, hroot, (hverify hcarried).trans hresult, fun content' hcontent' => ?_⟩
    rw [hashCheckpoint, hverify hcontent', hresult]
  · intro htorn
    obtain ⟨fault, hresult⟩ := hfails htorn
    refine ⟨fault, (hverify hcarried).trans hresult, fun content' hcontent' => ?_⟩
    rw [hashCheckpoint, hverify hcontent', hresult]

section Example

open VerifiedCheckpoint

/-- The key that signs the statements of the log. -/
def logSigner : SigningKey :=
  .ed25519 ((List.range 32).map Nat.toUInt8) (by decide)

theorem publicKey_logSigner : logSigner.publicKey = logKey := by
  decide +kernel

theorem signText_logSigner : logSigner.signText logBody.octets = logSignature := by
  decide +kernel

theorem signs_logSigner : logSigner.Signs .standard logBody.octets := by
  obtain ⟨octets, hdecodes, scheme, hload, haccepts⟩ := exists_accepts_logSignature
  have hsigned := logSigner.decodeSignature_signText logBody.octets
  rw [signText_logSigner] at hsigned
  rw [decodeSignatureValue, hsigned] at hdecodes
  obtain rfl : logSigner.sign logBody.octets = octets :=
    congrArg Prod.snd (Except.ok.inj hdecodes)
  obtain rfl : Scheme.ed25519 = scheme := Option.some.inj (PublicKey.load_eq_ok_iff.mp hload).1
  refine ⟨?_, ?_⟩
  · rw [publicKey_logSigner]
    exact hload
  · rw [publicKey_logSigner]
    exact haccepts

/-- A checkpoint that is carried with its own line ends verifies after transport. -/
theorem exists_verify_logSigner :
    ∃ signed json octets root,
      signCheckpoint logSigner "K1" .verbatim (.bytes (logBody.octetsWith ['\r', '\n'])) =
        .ok signed ∧
      signed.toJson = .ok json ∧ SignedCheckpoint.ofJson (.str json) = .ok signed ∧
      RootIdentifier.compute logBody "K1" octets = .ok root ∧
      signed.verify .standard (logRegistry ["K2", "K1"]).source = .ok ⟨logBody, "K1", root⟩ := by
  have hcontent := @readValue_logBody ['\r', '\n'] (by simp [Text.lineEnds])
  have hfound : (logRegistry ["K2", "K1"]).source.resolve (.str "K1") =
      .ok (some logSigner.publicKey) := by
    rw [publicKey_logSigner]
    exact congrArg Except.ok (resolve_logRegistry (by simp))
  obtain ⟨signed, json, octets, hsign, hjson, hread, -, hwhole, -⟩ :=
    verify_transported hcontent (by simp) hfound signs_logSigner .verbatim
  obtain ⟨root, hroot, hverify, -⟩ := hwhole ⟨"K1", rfl⟩
  exact ⟨signed, json, octets, root, hsign, hjson, hread, hroot, hverify⟩

/-- Under half of a surrogate pair as the key id, a checkpoint is signed and survives transport, but
it is not identified. -/
theorem not_verify_signed_loneHalf :
    LooseText.loneHalf ≠ "" ∧
      (logRegistry [.loneHalf]).resolve .loneHalf = some logSigner.publicKey ∧
      ∃ signed json fault,
        signCheckpoint logSigner .loneHalf .canonical (.bytes logBody.octets) = .ok signed ∧
        signed.toJson = .ok json ∧ SignedCheckpoint.ofJson (.str json) = .ok signed ∧
        signed.verify .standard (logRegistry [.loneHalf]).source = .error (.encoding fault) := by
  have hne : LooseText.loneHalf ≠ "" := by decide
  have hcontent := @readValue_logBody ['\n'] (by simp [Text.lineEnds])
  rw [CheckpointBody.octetsWith_lf] at hcontent
  have hfound : (logRegistry [.loneHalf]).resolve .loneHalf = some logSigner.publicKey := by
    rw [publicKey_logSigner]
    exact resolve_logRegistry (List.mem_singleton_self _)
  obtain ⟨carried, json, hsign, hjson, hread, hcarried⟩ :=
    exists_transported hcontent logSigner .loneHalf .canonical
  obtain ⟨-, htorn⟩ := ofLookup_of_accepts .loneHalf (accepts_signText signs_logSigner)
  obtain ⟨fault, hfault⟩ := htorn LooseText.not_isWhole_loneHalf
  have hverify := @verify_signText .standard (logRegistry [.loneHalf]).source logSigner .loneHalf
    logBody hne (congrArg Except.ok hfound) logBody.octets _ hcarried
  exact ⟨hne, hfound, _, json, fault, hsign, hjson, hread, hverify.trans hfault⟩

end Example

end SigningKey

end TransparencyLog
