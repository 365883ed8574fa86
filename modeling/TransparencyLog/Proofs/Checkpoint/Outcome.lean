import TransparencyLog.Checkpoint.Verification
import TransparencyLog.Proofs.Checkpoint.Canonical
import TransparencyLog.Proofs.Checkpoint.Material
import TransparencyLog.Proofs.Key.Verification

namespace TransparencyLog.VerifiedCheckpoint

section Via

variable {m : Type → Type} [Monad m] {suite : SignatureSuite}
  {resolve : Value → m (Except LookupFault (Option PublicKey))} {content signature : Value}
  {body : CheckpointBody}

theorem verifyVia_of_unread {keyId : Value} {fault : CheckpointBody.ReadFault}
    (hcontent : CheckpointBody.readValue content = .error fault) :
    verifyVia suite resolve content keyId signature = pure (.error (ofReadFault fault)) := by
  rw [verifyVia, hcontent]

theorem verifyVia_of_noKeyId (hcontent : CheckpointBody.readValue content = .ok body) :
    verifyVia suite resolve content (.str "") signature =
      pure (.error (.trust (.unknownKey ""))) := by
  rw [verifyVia, hcontent]
  rfl

theorem verifyVia_of_keyId {keyId : LooseText}
    (hcontent : CheckpointBody.readValue content = .ok body) (hkeyId : keyId ≠ "") :
    verifyVia suite resolve content (.str keyId) signature =
      ofBodyVia suite resolve body keyId signature := by
  rw [verifyVia, hcontent]
  dsimp only
  rw [if_neg (LooseText.isEmpty_iff.not.mpr hkeyId)]

theorem ofBodyVia_of_noSignature (keyId : LooseText) :
    ofBodyVia suite resolve body keyId (.str "") =
      pure (.error (.trust (.verification (.signature .notText)))) := rfl

theorem ofBodyVia_of_signature {keyId signature : LooseText} (hsignature : signature ≠ "") :
    ofBodyVia suite resolve body keyId (.str signature) = do
      return ofLookup suite body keyId (.str signature) (← resolve (.str keyId)) := by
  unfold ofBodyVia
  split
  · rename_i heq
    exact absurd (Value.str.inj heq) hsignature
  · rfl
  · rename_i hno
    exact absurd rfl (hno signature)

end Via

/-- Verification with the ids that are looked up, in order. -/
def verifyTraced (suite : SignatureSuite) (source : KeySource) (content keyId signature : Value) :
    Except CheckpointFault VerifiedCheckpoint × List Value :=
  let resolve : Value → StateM (List Value) (Except LookupFault (Option PublicKey)) := fun id => do
    modify (· ++ [id])
    return source.resolve id
  (verifyVia suite resolve content keyId signature).run []

variable {suite : SignatureSuite} {source : KeySource}

theorem verifyTraced_fst (content keyId signature : Value) :
    (verifyTraced suite source content keyId signature).1 =
      verify suite source content keyId signature := by
  unfold verifyTraced verify verifyVia
  cases CheckpointBody.readValue content with
  | error fault => rfl
  | ok body =>
      cases keyId with
      | str keyId =>
          dsimp only
          split
          · rfl
          · unfold ofBodyVia
            split <;> rfl
      | _ => rfl

theorem verifyTraced_of_unread {content keyId signature : Value}
    {fault : CheckpointBody.ReadFault}
    (hcontent : CheckpointBody.readValue content = .error fault) :
    verifyTraced suite source content keyId signature = (.error (ofReadFault fault), []) := by
  rw [verifyTraced, verifyVia_of_unread hcontent]
  rfl

section Read

variable {content : Value} {body : CheckpointBody}
  (hcontent : CheckpointBody.readValue content = .ok body)

include hcontent

theorem verifyTraced_of_noKeyId (signature : Value) :
    verifyTraced suite source content (.str "") signature =
      (.error (.trust (.unknownKey "")), []) := by
  rw [verifyTraced, verifyVia_of_noKeyId hcontent]
  rfl

theorem verifyTraced_of_noSignature {keyId : LooseText} (hkeyId : keyId ≠ "") :
    verifyTraced suite source content (.str keyId) (.str "") =
      (.error (.trust (.verification (.signature .notText))), []) := by
  rw [verifyTraced, verifyVia_of_keyId hcontent hkeyId, ofBodyVia_of_noSignature]
  rfl

theorem verifyTraced_of_signature {keyId signature : LooseText} (hkeyId : keyId ≠ "")
    (hsignature : signature ≠ "") :
    verifyTraced suite source content (.str keyId) (.str signature) =
      (ofLookup suite body keyId (.str signature) (source.resolve (.str keyId)), [.str keyId]) := by
  rw [verifyTraced, verifyVia_of_keyId hcontent hkeyId, ofBodyVia_of_signature hsignature]
  rfl

end Read

theorem ofLookup_eq_ok_iff {body : CheckpointBody} {keyId : LooseText} {signature : Value}
    {found : Except LookupFault (Option PublicKey)} {verified : VerifiedCheckpoint} :
    ofLookup suite body keyId signature found = .ok verified ↔
      ∃ key octets root, found = .ok (some key) ∧
        key.Accepts suite body.octets signature octets ∧
        RootIdentifier.compute body keyId octets = .ok root ∧ verified = ⟨body, keyId, root⟩ := by
  constructor
  · intro h
    unfold ofLookup at h
    split at h
    · cases h
    · cases h
    · rename_i key
      split at h
      · cases h
      · rename_i octets hverify
        split at h
        · cases h
        · rename_i root hroot
          exact ⟨key, octets, root, rfl, PublicKey.verify_eq_ok_iff.mp hverify, hroot,
            (Except.ok.inj h).symm⟩
  · rintro ⟨key, octets, root, rfl, haccepts, hroot, rfl⟩
    rw [ofLookup, PublicKey.verify_eq_ok_iff.mpr haccepts]
    dsimp only
    rw [hroot]

/-- A checkpoint is verified if its contents are read, its key id stands for a key, and the key
accepts the signature over the canonical octets. -/
theorem verify_eq_ok_iff {content keyId signature : Value} {verified : VerifiedCheckpoint} :
    verify suite source content keyId signature = .ok verified ↔
      CheckpointBody.readValue content = .ok verified.body ∧ keyId = .str verified.keyId ∧
      verified.keyId ≠ "" ∧ ∃ key octets, source.resolve (.str verified.keyId) = .ok (some key) ∧
        key.Accepts suite verified.body.octets signature octets ∧
        RootIdentifier.compute verified.body verified.keyId octets = .ok verified.root := by
  constructor
  · intro h
    cases hcontent : CheckpointBody.readValue content with
    | error fault =>
        rw [verify, verifyVia_of_unread hcontent] at h
        cases h
    | ok body =>
        unfold verify verifyVia at h
        rw [hcontent] at h
        cases keyId with
        | str keyId =>
            dsimp only at h
            split at h
            · cases h
            · rename_i hkeyId
              unfold ofBodyVia at h
              split at h
              · cases h
              · obtain ⟨key, octets, root, hfound, haccepts, hroot, rfl⟩ :=
                  ofLookup_eq_ok_iff.mp h
                exact ⟨rfl, rfl, LooseText.isEmpty_iff.not.mp hkeyId, key, octets, hfound, haccepts,
                  hroot⟩
              · cases h
        | _ => cases h
  · rintro ⟨hcontent, rfl, hkeyId, key, octets, hfound, haccepts, hroot⟩
    obtain ⟨text, rfl, hsignature⟩ := haccepts.exists_eq_str
    rw [verify, verifyVia_of_keyId hcontent hkeyId, ofBodyVia_of_signature hsignature]
    exact ofLookup_eq_ok_iff.mpr ⟨key, octets, _, hfound, haccepts, hroot, rfl⟩

/-- A key of a supported algorithm that is found accepts the signature, or the signature is
blamed. -/
theorem ofLookup_of_supported {body : CheckpointBody} {keyId signature : LooseText}
    {key : PublicKey} (hkey : key.algorithm ∈ (["ed25519", "ecdsa-p256"] : List LooseText))
    (hno : ¬ ∃ octets, key.Accepts suite body.octets (.str signature) octets) :
    ∃ fault, ofLookup suite body keyId (.str signature) (.ok (some key)) =
      .error (.trust (.verification (.signature fault))) := by
  obtain ⟨scheme, hscheme⟩ : ∃ scheme, key.scheme? = some scheme := by
    rw [← Option.isSome_iff_exists, Option.isSome_iff_ne_none]
    exact fun hnone => Scheme.ofName?_eq_none_iff.mp hnone hkey
  cases hverify : key.verify suite body.octets (.str signature) with
  | ok octets => exact absurd ⟨octets, PublicKey.verify_eq_ok_iff.mp hverify⟩ hno
  | error fault =>
      obtain ⟨cause, rfl⟩ := PublicKey.exists_verify_eq_signature hscheme hverify
      exact ⟨cause, by rw [ofLookup, hverify]⟩

theorem ofLookup_of_accepts {body : CheckpointBody} (keyId : LooseText) {signature : Value}
    {key : PublicKey} {octets : Bytes} (haccepts : key.Accepts suite body.octets signature octets) :
    (keyId.IsWhole → ∃ root, RootIdentifier.compute body keyId octets = .ok root ∧
        ofLookup suite body keyId signature (.ok (some key)) = .ok ⟨body, keyId, root⟩) ∧
      (¬ keyId.IsWhole → ∃ fault,
        ofLookup suite body keyId signature (.ok (some key)) = .error (.encoding fault)) := by
  rw [← @RootIdentifier.exists_compute_iff body keyId octets, ofLookup,
    PublicKey.verify_eq_ok_iff.mpr haccepts]
  dsimp only
  cases RootIdentifier.compute body keyId octets with
  | error fault => simp
  | ok root => simp

theorem cases_of_ofLookup_error {body : CheckpointBody} {keyId : LooseText} {signature : Value}
    {found : Option PublicKey} {fault : CheckpointFault}
    (h : ofLookup suite body keyId signature (.ok found) = .error fault) :
    (∃ cause, fault = .trust cause) ∨ ∃ cause, fault = .encoding cause ∧ ¬ keyId.IsWhole := by
  cases found with
  | none => exact .inl ⟨_, (Except.error.inj h).symm⟩
  | some key =>
      rw [ofLookup] at h
      split at h
      · exact .inl ⟨_, (Except.error.inj h).symm⟩
      · rename_i octets _
        split at h
        · rename_i cause hcompute
          refine .inr ⟨cause, (Except.error.inj h).symm, fun hwhole => ?_⟩
          obtain ⟨root, hroot⟩ := (@RootIdentifier.exists_compute_iff body keyId octets).mpr hwhole
          rw [hroot] at hcompute
          cases hcompute
        · cases h

/-- Under a source that finds a key or none for each id, contents that are not verified are not
trusted, or they state too long a size, or a half stands in the key id. -/
theorem cases_of_verify_error {lookup : LooseText → Option PublicKey}
    (hsource : ∀ id, source.resolve (.str id) = .ok (lookup id)) {content : Value}
    {keyId signature : LooseText} {fault : CheckpointFault}
    (h : verify suite source content (.str keyId) (.str signature) = .error fault) :
    (∃ cause, fault = .trust cause) ∨
      (∃ cause, fault = .overlong cause ∧
        CheckpointBody.readValue content = .error (.overlong cause)) ∨
      ∃ cause, fault = .encoding cause ∧ ¬ keyId.IsWhole := by
  rw [← verifyTraced_fst] at h
  cases hread : CheckpointBody.readValue content with
  | error cause =>
      rw [verifyTraced_of_unread hread] at h
      cases cause with
      | malformed cause => exact .inl ⟨_, (Except.error.inj h).symm⟩
      | overlong cause => exact .inr (.inl ⟨cause, (Except.error.inj h).symm, rfl⟩)
  | ok body =>
      by_cases hkeyId : keyId = ""
      · rw [hkeyId, verifyTraced_of_noKeyId hread] at h
        exact .inl ⟨_, (Except.error.inj h).symm⟩
      · by_cases hsignature : signature = ""
        · rw [hsignature, verifyTraced_of_noSignature hread hkeyId] at h
          exact .inl ⟨_, (Except.error.inj h).symm⟩
        · rw [verifyTraced_of_signature hread hkeyId hsignature, hsource] at h
          exact (cases_of_ofLookup_error h).imp_right .inr

/-- The result of verification, and the ids looked up for it, under a source that finds a key or
none for each id. A signature that is accepted comes to no result if a half stands in the key id. -/
theorem verify_outcome (suite : SignatureSuite) {lookup : LooseText → Option PublicKey}
    (hsource : ∀ id, source.resolve (.str id) = .ok (lookup id)) (content : Value)
    (keyId signature : LooseText) :
    let result := verify suite source content (.str keyId) (.str signature)
    let asked := (verifyTraced suite source content (.str keyId) (.str signature)).2
    (∀ cause, CheckpointBody.readValue content = .error (.malformed cause) →
      result = .error (.trust (.malformed cause)) ∧ asked = []) ∧
    ∀ body, CheckpointBody.readValue content = .ok body →
      (keyId = "" → result = .error (.trust (.unknownKey keyId)) ∧ asked = []) ∧
      (keyId ≠ "" → signature = "" →
        result = .error (.trust (.verification (.signature .notText))) ∧ asked = []) ∧
      (keyId ≠ "" → signature ≠ "" → asked = [.str keyId] ∧
        (lookup keyId = none → result = .error (.trust (.unknownKey keyId))) ∧
        ∀ key, lookup keyId = some key →
          (key.algorithm ∉ (["ed25519", "ecdsa-p256"] : List LooseText) →
            result = .error (.trust (.verification (.unsupported key.algorithm)))) ∧
          (key.algorithm ∈ (["ed25519", "ecdsa-p256"] : List LooseText) →
            (¬ ∃ octets, key.Accepts suite body.octets (.str signature) octets) →
            ∃ fault, result = .error (.trust (.verification (.signature fault)))) ∧
          ∀ octets, key.Accepts suite body.octets (.str signature) octets →
            (keyId.IsWhole → ∃ root, RootIdentifier.compute body keyId octets = .ok root ∧
              result = .ok ⟨body, keyId, root⟩) ∧
            (¬ keyId.IsWhole → ∃ fault, result = .error (.encoding fault))) := by
  intro result asked
  have hresult : result = (verifyTraced suite source content (.str keyId) (.str signature)).1 :=
    (verifyTraced_fst _ _ _).symm
  refine ⟨fun cause hcontent => ?_, fun body hcontent => ⟨?_, ?_, ?_⟩⟩
  · rw [hresult]
    simp only [asked, verifyTraced_of_unread hcontent]
    exact ⟨rfl, trivial⟩
  · rintro rfl
    rw [hresult]
    simp only [asked, verifyTraced_of_noKeyId hcontent, and_self]
  · rintro hkeyId rfl
    rw [hresult]
    simp only [asked, verifyTraced_of_noSignature hcontent hkeyId, and_self]
  · intro hkeyId hsignature
    rw [hresult]
    simp only [asked, verifyTraced_of_signature hcontent hkeyId hsignature, hsource, true_and]
    refine ⟨?_, ?_⟩
    · intro hnone
      rw [hnone]
      rfl
    · intro key hkey
      rw [hkey]
      refine ⟨fun hunsupported => ?_, fun hsupported hno => ofLookup_of_supported hsupported hno,
        fun octets haccepts => ofLookup_of_accepts keyId haccepts⟩
      rw [ofLookup, PublicKey.verify_of_unsupported (Scheme.ofName?_eq_none_iff.mpr hunsupported)]

section Example

/-- The statements of a log with forty-two leaves. -/
def logBody : CheckpointBody :=
  ⟨"example-log", 42, "b6c6f8af66df02a083ce18de5ee8688e013105c16e26836b4f99acbfcaa88fb5", []⟩

def logKey : PublicKey :=
  ⟨"ed25519", (Base64.decode "A6EHv/POEL4dcN0Y50vAmWfk1jCbpQ1fHdyGZBJVMbg=").toOption.getD []⟩

def logSignature : String :=
  "ed25519:1zFPyPCiwqZ7HSl65J3ZRgr8mENhmPjSz4YZhd/uUd162fwDeepEpM1LPENYn1oMGHQLYUZPgJF5rzYa8+wODw=="

/-- The key under each of some ids. -/
def logRegistry (keyIds : List LooseText) : Registry :=
  ⟨keyIds.map fun keyId => ⟨keyId, logKey, true⟩⟩

theorem wellFormed_logBody : logBody.WellFormed where
  origin := CheckpointBody.isLineValue_of_forall (by simp [logBody]) (by simp [logBody])
  size_nonneg := by decide
  length_size := by decide
  rootHash := ⟨by simp [logBody], by simp [logBody]⟩
  name := by simp [logBody]
  value := by simp [logBody]
  nodup := by simp [logBody]
  foreign := by simp [logBody]

theorem readValue_logBody {lineEnd : List Char} (hend : lineEnd ∈ Text.lineEnds) :
    CheckpointBody.readValue (.bytes (logBody.octetsWith lineEnd)) = .ok logBody :=
  CheckpointBody.read_octetsWith hend wellFormed_logBody

theorem exists_accepts_logSignature :
    ∃ octets, logKey.Accepts .standard logBody.octets (.str logSignature) octets := by
  have hverify : (logKey.verify .standard logBody.octets (.str logSignature)).isOk = true := by
    decide +kernel
  cases h : logKey.verify .standard logBody.octets (.str logSignature) with
  | error fault =>
      rw [h] at hverify
      cases hverify
  | ok octets => exact ⟨octets, PublicKey.verify_eq_ok_iff.mp h⟩

theorem resolve_logRegistry {keyIds : List LooseText} {keyId : LooseText} (h : keyId ∈ keyIds) :
    (logRegistry keyIds).resolve keyId = some logKey := by
  unfold Registry.resolve logRegistry
  induction keyIds with
  | nil => simp at h
  | cons first keyIds ih =>
      rw [List.map_cons, List.find?_cons]
      by_cases hfirst : first = keyId
      · simp [hfirst]
      · simpa [hfirst] using ih ((List.mem_cons.mp h).resolve_left (Ne.symm hfirst))

/-- A signed checkpoint verifies under every registry that has the key, whichever ends its lines
have. -/
theorem verify_logBody {keyIds : List LooseText} {lineEnd : List Char} {octets : Bytes}
    (hkeyId : .whole "K1" ∈ keyIds) (hend : lineEnd ∈ Text.lineEnds)
    (haccepts : logKey.Accepts .standard logBody.octets (.str logSignature) octets) :
    ∃ root, RootIdentifier.compute logBody "K1" octets = .ok root ∧
      verify .standard (logRegistry keyIds).source (.bytes (logBody.octetsWith lineEnd))
        (.str "K1") (.str logSignature) = .ok ⟨logBody, "K1", root⟩ := by
  obtain ⟨root, hroot⟩ :=
    (@RootIdentifier.exists_compute_iff logBody "K1" octets).mpr ⟨"K1", rfl⟩
  have hfound := resolve_logRegistry hkeyId
  exact ⟨root, hroot, verify_eq_ok_iff.mpr ⟨readValue_logBody hend, rfl, by simp, logKey, octets,
    congrArg Except.ok hfound, haccepts, hroot⟩⟩

/-- What a signed checkpoint verifies as, by the stages that its verification goes through. -/
theorem exists_verify_logBody :
    ∃ octets root, logKey.Accepts .standard logBody.octets (.str logSignature) octets ∧
      RootIdentifier.compute logBody "K1" octets = .ok root ∧
      verify .standard (logRegistry ["K1"]).source (.bytes (logBody.octetsWith ['\r', '\n']))
        (.str "K1") (.str logSignature) = .ok ⟨logBody, "K1", root⟩ := by
  obtain ⟨octets, haccepts⟩ := exists_accepts_logSignature
  have hsource : ∀ id, (logRegistry ["K1"]).source.resolve (.str id) =
      .ok ((logRegistry ["K1"]).resolve id) := fun _ => rfl
  obtain ⟨-, hread⟩ := verify_outcome .standard hsource (.bytes (logBody.octetsWith ['\r', '\n']))
    "K1" logSignature
  obtain ⟨-, -, hsigned⟩ := hread logBody (readValue_logBody (by simp [Text.lineEnds]))
  obtain ⟨-, -, hkey⟩ := hsigned (by simp) (by simp [logSignature])
  obtain ⟨-, -, haccepted⟩ := hkey logKey (resolve_logRegistry (by simp))
  obtain ⟨root, hroot, hresult⟩ := (haccepted octets haccepts).1 ⟨"K1", rfl⟩
  exact ⟨octets, root, haccepts, hroot, hresult⟩

/-- Under half of a surrogate pair as the key id, a signature that is accepted comes to no result.
-/
theorem not_verify_loneHalf :
    LooseText.loneHalf ≠ "" ∧ logKey.algorithm = "ed25519" ∧
      (logRegistry [.loneHalf]).resolve .loneHalf = some logKey ∧
      (∃ octets, logKey.Accepts .standard logBody.octets (.str logSignature) octets) ∧
      ∃ fault, verify .standard (logRegistry [.loneHalf]).source (.bytes logBody.octets)
        (.str .loneHalf) (.str logSignature) = .error (.encoding fault) := by
  have hne : LooseText.loneHalf ≠ "" := by decide
  have hread := @readValue_logBody ['\n'] (by simp [Text.lineEnds])
  have hfound := resolve_logRegistry (List.mem_singleton_self LooseText.loneHalf)
  obtain ⟨octets, haccepts⟩ := exists_accepts_logSignature
  refine ⟨hne, rfl, hfound, ⟨octets, haccepts⟩, ?_⟩
  rw [← CheckpointBody.octetsWith_lf, ← verifyTraced_fst,
    verifyTraced_of_signature hread hne (by simp [logSignature])]
  have hsource : (logRegistry [.loneHalf]).source.resolve (.str .loneHalf) = .ok (some logKey) :=
    congrArg Except.ok hfound
  obtain ⟨-, htorn⟩ := ofLookup_of_accepts .loneHalf haccepts
  obtain ⟨fault, hfault⟩ := htorn LooseText.not_isWhole_loneHalf
  rw [hsource, hfault]
  exact ⟨fault, rfl⟩

end Example

end TransparencyLog.VerifiedCheckpoint
