import TransparencyLog.Proofs.Key.KeyStore
import TransparencyLog.Proofs.Record.Agreement

/-!
What is trusted stays trusted while keys are added. A verdict and the outcome for a checkpoint
depend on what the source of keys finds for one id (`examine_congr`, `verify_congr`), and if an
addition does anything to look-ups, it finds a key for an id that had none (`resolve_of_perform`).
So nothing is lost by it (`trust_kept_by_addition`), nor by a run of additions
(`trust_kept_after`).
-/

namespace TransparencyLog

namespace KeySource

/-- Every key that the first source finds is found by the second one. -/
def Extends (source source' : KeySource) : Prop :=
  ∀ keyId key, source.resolve keyId = .ok (some key) → source'.resolve keyId = .ok (some key)

theorem Extends.refl (source : KeySource) : source.Extends source :=
  fun _ _ h => h

theorem Extends.trans {a b c : KeySource} (h : a.Extends b) (h' : b.Extends c) : a.Extends c :=
  fun keyId key hfound => h' keyId key (h keyId key hfound)

/-- A table as a source of keys: only texts are ids, and what can be no key of a table fails. -/
def ofTable (lookup : LooseText → Option PublicKey) : KeySource where
  resolve
    | .str keyId => .ok (lookup keyId)
    | value =>
        match value.unkeyable? with
        | some typeName => .error (.unkeyable typeName)
        | none => .ok none

section Table

variable {lookup lookup' : LooseText → Option PublicKey}

theorem resolve_ofTable_congr {keyId : Value}
    (h : ∀ name, keyId = .str name → lookup' name = lookup name) :
    (ofTable lookup').resolve keyId = (ofTable lookup).resolve keyId := by
  cases keyId with
  | str name => exact congrArg Except.ok (h name rfl)
  | _ => rfl

theorem extends_ofTable (h : ∀ name key, lookup name = some key → lookup' name = some key) :
    (ofTable lookup).Extends (ofTable lookup') := by
  intro keyId key hfound
  rw [← hfound]
  refine resolve_ofTable_congr fun name hname => ?_
  rw [hname] at hfound
  have hkey : lookup name = some key := Except.ok.inj hfound
  rw [h name key hkey, hkey]

end Table

end KeySource

theorem Registry.source_eq_ofTable (registry : Registry) :
    registry.source = .ofTable registry.resolve := rfl

section Congr

variable {suite : SignatureSuite} {source source' : KeySource}
  {content keyId signature item : Value}

theorem examine_congr (h : ∀ content keyId signature, item = .record content keyId signature →
      source'.resolve keyId = source.resolve keyId) :
    examine suite source' item = examine suite source item := by
  cases item with
  | record content keyId signature =>
      have hresolve := h content keyId signature rfl
      cases hoctets : content.octets? with
      | none => rw [examine, examine, hoctets]
      | some octets =>
          have hcontent := Value.octets?_eq_some_iff.mp hoctets
          rw [examine_of_octets hcontent, examine_of_octets hcontent, hresolve]
  | _ => rfl

theorem verdict_congr (h : examine suite source' item = examine suite source item) :
    verdict suite source' item = verdict suite source item := by
  rw [verdict, verdict, h]

theorem verdict_of_extends (h : source.Extends source')
    (hverdict : verdict suite source item = true) : verdict suite source' item = true := by
  rw [← hverdict]
  refine verdict_congr (examine_congr ?_)
  rintro content keyId signature rfl
  obtain ⟨_, key, _, -, hfound, -⟩ := verdict_eq_true_iff.mp hverdict
  rw [hfound, h keyId key hfound]

namespace VerifiedCheckpoint

theorem verify_congr (h : source'.resolve keyId = source.resolve keyId) :
    verify suite source' content keyId signature = verify suite source content keyId signature := by
  cases hread : CheckpointBody.readValue content with
  | error fault =>
      rw [verify, verify, verifyVia_of_unread hread, verifyVia_of_unread hread]
  | ok body =>
      cases keyId with
      | str keyId =>
          by_cases hkeyId : keyId = ""
          · rw [hkeyId, verify, verify, verifyVia_of_noKeyId hread, verifyVia_of_noKeyId hread]
          · cases signature with
            | str signature =>
                rw [verify_of_read hread hkeyId, verify_of_read hread hkeyId, h]
            | _ =>
                rw [verify, verify, verifyVia_of_keyId hread hkeyId,
                  verifyVia_of_keyId hread hkeyId]
                rfl
      | _ => rw [verify, verify, verifyVia, verifyVia, hread]

theorem verify_of_extends {verified : VerifiedCheckpoint} (h : source.Extends source')
    (hverify : verify suite source content keyId signature = .ok verified) :
    verify suite source' content keyId signature = .ok verified := by
  rw [← hverify]
  obtain ⟨-, rfl, -, key, -, hfound, -⟩ := verify_eq_ok_iff.mp hverify
  exact verify_congr (by rw [hfound, h _ key hfound])

end VerifiedCheckpoint

open VerifiedCheckpoint

theorem hashCheckpoint_congr (h : verify suite source' content keyId signature =
      verify suite source content keyId signature) :
    hashCheckpoint suite source' content keyId signature =
      hashCheckpoint suite source content keyId signature := by
  rw [hashCheckpoint, hashCheckpoint, h]

theorem hashCheckpoint_of_extends {root : RootIdentifier} (h : source.Extends source')
    (hroot : hashCheckpoint suite source content keyId signature = .ok root) :
    hashCheckpoint suite source' content keyId signature = .ok root := by
  rw [← hroot]
  obtain ⟨verified, hverified⟩ := exists_hashCheckpoint_iff.mp ⟨root, hroot⟩
  exact hashCheckpoint_congr ((verify_of_extends h hverified).trans hverified.symm)

end Congr

namespace KeyStore

/-- A store as a source of keys. -/
def source (store : KeyStore) : KeySource := .ofTable store.resolve

variable {suite : SignatureSuite} {store store' : KeyStore} {registry : Registry}
  {addition : Addition}

theorem Keeps.source_eq (h : Keeps store registry) : store.source = registry.source := by
  rw [source, funext h.resolve, registry.source_eq_ofTable]

/-- What an addition that succeeds does: the key can be used, the id has none yet if the entry is
active, and the entry comes last. -/
theorem perform_eq_ok_iff :
    (addition.change suite).perform store = (.ok (), store') ↔
      Registry.unusable? suite addition.entry.publicKey = none ∧
        (addition.entry.active = true → store.resolve addition.entry.keyId = none) ∧
        store' = ⟨store.entries ++ [addition.entry], if addition.entry.active then
          store.active.insert addition.entry.keyId addition.entry.publicKey
          else store.active⟩ := by
  rw [perform_change, perform_addEntry]
  cases Registry.unusable? suite addition.entry.publicKey with
  | some fault => simp
  | none =>
      dsimp only
      split
      · rename_i htaken
        simp only [Prod.mk.injEq, reduceCtorEq, false_and, true_and, false_iff, not_and]
        intro hfree
        rw [hfree htaken.1] at htaken
        cases htaken.2
      · rename_i hnot
        have hfree : addition.entry.active = true →
            store.resolve addition.entry.keyId = none := by
          simpa using hnot
        rw [Prod.mk.injEq, and_iff_right rfl, and_iff_right rfl, and_iff_right hfree]
        exact eq_comm

theorem eq_of_perform_error {fault : Registry.Fault}
    (h : (addition.change suite).perform store = (.error fault, store')) : store' = store := by
  rw [perform_change, perform_addEntry] at h
  split at h
  · exact (Prod.mk.inj h).2.symm
  · split at h
    · exact (Prod.mk.inj h).2.symm
    · cases (Prod.mk.inj h).1

theorem resolve_of_perform (h : (addition.change suite).perform store = (.ok (), store'))
    (keyId : LooseText) :
    store'.resolve keyId =
      if addition.entry.active = true ∧ addition.entry.keyId = keyId then
        some addition.entry.publicKey
      else store.resolve keyId := by
  obtain ⟨-, -, rfl⟩ := perform_eq_ok_iff.mp h
  exact resolve_insert store _ addition.entry keyId

theorem extends_of_perform (h : (addition.change suite).perform store = (.ok (), store')) :
    store.source.Extends store'.source := by
  refine KeySource.extends_ofTable fun keyId key hkey => ?_
  rw [resolve_of_perform h, if_neg, hkey]
  rintro ⟨hactive, rfl⟩
  rw [(perform_eq_ok_iff.mp h).2.1 hactive] at hkey
  cases hkey

theorem resolve_source_of_perform (h : (addition.change suite).perform store = (.ok (), store'))
    {keyId : Value} (hother : addition.entry.active = false ∨ keyId ≠ .str addition.entry.keyId) :
    store'.source.resolve keyId = store.source.resolve keyId := by
  refine KeySource.resolve_ofTable_congr fun name hname => ?_
  rw [resolve_of_perform h, if_neg]
  rintro ⟨hactive, rfl⟩
  rcases hother with hinactive | hne
  · rw [hactive] at hinactive
    cases hinactive
  · exact hne hname

theorem examine_of_perform (h : (addition.change suite).perform store = (.ok (), store'))
    {item : Value} (hother : addition.entry.active = false ∨
      ∀ content signature, item ≠ .record content (.str addition.entry.keyId) signature) :
    examine suite store'.source item = examine suite store.source item := by
  refine examine_congr ?_
  rintro content keyId signature rfl
  refine resolve_source_of_perform h (hother.imp_right fun hne hkeyId => ?_)
  exact hne content signature (by rw [hkeyId])

theorem Keeps.source_eq_of_perform (hkeeps : Keeps store registry)
    (h : (addition.change suite).perform store = (.ok (), store')) :
    store.source = registry.source ∧ ∃ registry',
      registry.add suite addition.entry = .ok registry' ∧ store'.source = registry'.source := by
  refine ⟨hkeeps.source_eq, ?_⟩
  rcases hkeeps.perform addition with ⟨_, -, hperform⟩ | ⟨registry', _, hadd, hperform, hkeeps'⟩
  · cases (Prod.mk.inj (hperform.symm.trans h)).1
  · obtain rfl := (Prod.mk.inj (hperform.symm.trans h)).2
    exact ⟨registry', hadd, hkeeps'.source_eq⟩

theorem extends_after (suite : SignatureSuite) (store : KeyStore) (additions : List Addition) :
    store.source.Extends (store.after suite additions).source := by
  induction additions generalizing store with
  | nil => exact .refl _
  | cons addition additions ih =>
      have hfirst : store.source.Extends ((addition.change suite).perform store).2.source := by
        cases hperform : (addition.change suite).perform store with
        | mk result store' =>
            cases result with
            | ok _ => exact extends_of_perform hperform
            | error fault =>
                rw [eq_of_perform_error hperform]
                exact .refl _
      exact hfirst.trans (ih _)

theorem trust_kept_after (suite : SignatureSuite) (store : KeyStore) (additions : List Addition) :
    (∀ item, verdict suite store.source item = true →
        verdict suite (store.after suite additions).source item = true) ∧
      ∀ content keyId signature root,
        hashCheckpoint suite store.source content keyId signature = .ok root →
          hashCheckpoint suite (store.after suite additions).source content keyId signature =
            .ok root :=
  ⟨fun _ => verdict_of_extends (extends_after suite store additions), fun _ _ _ _ =>
    hashCheckpoint_of_extends (extends_after suite store additions)⟩

/-- A key that is added, whether it is active or not, costs nothing that is trusted: what is valid
stays valid, and checkpoints keep their identifiers. For any other id, and for every id if the entry
is inactive, the verdicts and the outcomes for checkpoints are the same ones, errors included. The
stores that additions lead to are sources like the registries with their entries. -/
theorem trust_kept_by_addition {additions : List Addition}
    (h : (addition.change suite).perform (empty.after suite additions) = (.ok (), store')) :
    let store := empty.after suite additions
    let registry := (additions.map Addition.entry).foldl (Registry.offer suite) .empty
    (∀ item, verdict suite store.source item = true → verdict suite store'.source item = true) ∧
      (∀ content keyId signature root,
        hashCheckpoint suite store.source content keyId signature = .ok root →
          hashCheckpoint suite store'.source content keyId signature = .ok root) ∧
      (∀ item, (addition.entry.active = false ∨
          ∀ content signature, item ≠ .record content (.str addition.entry.keyId) signature) →
        examine suite store'.source item = examine suite store.source item ∧
          verdict suite store'.source item = verdict suite store.source item) ∧
      (∀ content keyId signature,
        (addition.entry.active = false ∨ keyId ≠ .str addition.entry.keyId) →
          hashCheckpoint suite store'.source content keyId signature =
            hashCheckpoint suite store.source content keyId signature) ∧
      store.source = registry.source ∧
        ∃ registry', registry.add suite addition.entry = .ok registry' ∧
          store'.source = registry'.source := by
  intro store registry
  have hextends : store.source.Extends store'.source := extends_of_perform h
  refine ⟨fun item => verdict_of_extends hextends, fun content keyId signature root =>
    hashCheckpoint_of_extends hextends, fun item hother => ?_, fun content keyId signature hother =>
    ?_, ?_⟩
  · have hexamine := examine_of_perform h hother
    exact ⟨hexamine, verdict_congr hexamine⟩
  · exact hashCheckpoint_congr
      (VerifiedCheckpoint.verify_congr (resolve_source_of_perform h hother))
  · have hkeeps := (keeps_empty.after (Registry.isSound_empty suite) additions).1
    exact hkeeps.source_eq_of_perform h

section Example

open VerifiedCheckpoint (logKey logBody logSignature)

theorem exists_hashCheckpoint_logBody {source : KeySource} {lineEnd : List Char}
    (hend : lineEnd ∈ Text.lineEnds) (hfound : source.resolve (.str "K1") = .ok (some logKey)) :
    ∃ root, hashCheckpoint .standard source (.bytes (logBody.octetsWith lineEnd)) (.str "K1")
      (.str logSignature) = .ok root := by
  obtain ⟨octets, haccepts⟩ := VerifiedCheckpoint.exists_accepts_logSignature
  obtain ⟨root, hroot⟩ :=
    (@RootIdentifier.exists_compute_iff logBody "K1" octets).mpr ⟨"K1", rfl⟩
  have hverify : VerifiedCheckpoint.verify .standard source (.bytes (logBody.octetsWith lineEnd))
      (.str "K1") (.str logSignature) = .ok ⟨logBody, "K1", root⟩ :=
    VerifiedCheckpoint.verify_eq_ok_iff.mpr ⟨VerifiedCheckpoint.readValue_logBody hend, rfl,
      by simp, logKey, octets, hfound, haccepts, hroot⟩
  exact exists_hashCheckpoint_iff.mpr ⟨_, hverify⟩

/-- A key that is withdrawn under the id of a log does not touch what the log has signed. -/
theorem exists_root_after_addition :
    let store := empty.after .standard [.ofKey "K1" logKey true]
    let addition := Addition.ofEntry ⟨"K1", sampleKey 7, false⟩
    let store' := ((addition.change .standard).perform store).2
    ((addition.change .standard).perform store).1 = .ok () ∧
      (∃ root, hashCheckpoint .standard store.source (.bytes (logBody.octetsWith ['\r', '\n']))
          (.str "K1") (.str logSignature) = .ok root ∧
        hashCheckpoint .standard store'.source (.bytes (logBody.octetsWith ['\r', '\n']))
          (.str "K1") (.str logSignature) = .ok root) ∧
      ∀ item, verdict .standard store'.source item = verdict .standard store.source item := by
  intro store addition store'
  have hresult : ((addition.change .standard).perform store).1 = .ok () := by decide +kernel
  have hperform : (addition.change .standard).perform store = (.ok (), store') :=
    Prod.ext hresult rfl
  obtain ⟨-, hkept, hsame, -⟩ := trust_kept_by_addition hperform
  have hkey : store.resolve "K1" = some logKey := by decide +kernel
  have hfound : store.source.resolve (.str "K1") = .ok (some logKey) := congrArg Except.ok hkey
  have hend : ['\r', '\n'] ∈ Text.lineEnds := by simp [Text.lineEnds]
  obtain ⟨root, hroot⟩ := exists_hashCheckpoint_logBody hend hfound
  exact ⟨hresult, ⟨root, hroot, hkept _ _ _ root hroot⟩, fun item => (hsame item (.inl rfl)).2⟩

end Example

end KeyStore

end TransparencyLog
