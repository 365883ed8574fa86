import TransparencyLog.Proofs.Key.Trust
import TransparencyLog.Proofs.Record.Batch

namespace TransparencyLog

namespace Registry

variable {suite : SignatureSuite} {entries entries' : List KeyEntry} {registry registry' : Registry}
  {keyId : LooseText} {key : PublicKey}

theorem IsSound.perm (h : IsSound suite ⟨entries⟩) (hperm : entries.Perm entries') :
    IsSound suite ⟨entries'⟩ := by
  constructor
  case unique =>
    apply h.unique.perm hperm
    intro a b hne hactive hactive' heq
    exact hne hactive' hactive heq.symm
  case usable =>
    intro entry hentry
    exact h.usable entry (hperm.mem_iff.mpr hentry)

theorem exists_ofEntries_iff :
    (∃ registry, ofEntries suite entries = .ok registry) ↔ IsSound suite ⟨entries⟩ := by
  simp only [ofEntries_eq_ok_iff_isSound]
  constructor
  · rintro ⟨⟨_⟩, rfl, hsound⟩
    exact hsound
  · intro hsound
    exact ⟨⟨entries⟩, rfl, hsound⟩

theorem resolve_eq_some_iff_of_ofEntries (h : ofEntries suite entries = .ok registry) :
    registry.resolve keyId = some key ↔
      ∃ entry ∈ entries, entry.active = true ∧ entry.keyId = keyId ∧ entry.publicKey = key := by
  obtain ⟨rfl, hsound⟩ := ofEntries_eq_ok_iff_isSound.mp h
  exact hsound.resolve_eq_some_iff

theorem exists_ofEntries_iff_of_perm (hperm : entries.Perm entries') :
    (∃ registry, ofEntries suite entries = .ok registry) ↔
      ∃ registry', ofEntries suite entries' = .ok registry' := by
  rw [exists_ofEntries_iff, exists_ofEntries_iff]
  exact ⟨fun h => h.perm hperm, fun h => h.perm hperm.symm⟩

theorem source_eq_of_perm (hperm : entries.Perm entries')
    (h : ofEntries suite entries = .ok registry) (h' : ofEntries suite entries' = .ok registry') :
    registry'.source = registry.source := by
  rw [source_eq_ofTable, source_eq_ofTable]
  congr 1
  funext keyId
  apply Option.ext
  intro key
  rw [resolve_eq_some_iff_of_ofEntries h, resolve_eq_some_iff_of_ofEntries h']
  simp only [hperm.mem_iff]

end Registry

namespace KeyStore

variable {suite : SignatureSuite} {entries entries' : List KeyEntry} {store store' : KeyStore}
  {registry : Registry}

/-- The store that is made of entries: they are added one after the other until one is refused. -/
def ofEntries (suite : SignatureSuite) (entries : List KeyEntry) :
    Except Registry.Fault KeyStore :=
  match Change.perform (forM entries (addEntry suite)) empty with
  | (.ok _, store) => .ok store
  | (.error fault, _) => .error fault

theorem Keeps.forM (h : Keeps store registry) (suite : SignatureSuite) (entries : List KeyEntry) :
    (∃ registry' store' fault, registry.grow suite entries = ⟨registry', some fault⟩ ∧
        Change.perform (forM entries (addEntry suite)) store = (.error fault, store')) ∨
      ∃ registry' store', registry.grow suite entries = ⟨registry', none⟩ ∧
        Change.perform (forM entries (addEntry suite)) store = (.ok (), store') ∧
        Keeps store' registry' := by
  induction entries generalizing store registry with
  | nil => exact .inr ⟨registry, store, rfl, rfl, h⟩
  | cons entry entries ih =>
      rw [List.forM_cons, perform_bind, Registry.grow]
      rcases h.perform (.ofEntry entry) with
        ⟨fault, hadd, hperform⟩ | ⟨registry', store', hadd, hperform, hkeeps⟩
      · change registry.add suite entry = .error fault at hadd
        change (addEntry suite entry).perform store = (.error fault, store) at hperform
        rw [hadd, hperform]
        exact .inl ⟨registry, store, fault, rfl, rfl⟩
      · change registry.add suite entry = .ok registry' at hadd
        change (addEntry suite entry).perform store = (.ok (), store') at hperform
        rw [hadd, hperform]
        exact ih hkeeps

theorem ofEntries_eq (suite : SignatureSuite) (entries : List KeyEntry) :
    (∃ fault, Registry.ofEntries suite entries = .error fault ∧
        ofEntries suite entries = .error fault) ∨
      ∃ registry store, Registry.ofEntries suite entries = .ok registry ∧
        ofEntries suite entries = .ok store ∧ store.source = registry.source := by
  rcases keeps_empty.forM suite entries with
    ⟨registry, store, fault, hgrow, hperform⟩ | ⟨registry, store, hgrow, hperform, hkeeps⟩
  · left
    refine ⟨fault, ?_, ?_⟩
    · rw [Registry.ofEntries, hgrow]
    · rw [ofEntries, hperform]
  · right
    refine ⟨registry, store, ?_, ?_, hkeeps.source_eq⟩
    · rw [Registry.ofEntries, hgrow]
    · rw [ofEntries, hperform]

theorem exists_registry_of_ofEntries (h : ofEntries suite entries = .ok store) :
    ∃ registry, Registry.ofEntries suite entries = .ok registry ∧
      store.source = registry.source := by
  rcases ofEntries_eq suite entries with ⟨fault, -, hfault⟩ | ⟨registry, _, hmade, hstore, hsource⟩
  · rw [h] at hfault
    cases hfault
  · obtain rfl := Except.ok.inj (h.symm.trans hstore)
    exact ⟨registry, hmade, hsource⟩

theorem exists_ofEntries_iff :
    (∃ store, ofEntries suite entries = .ok store) ↔
      ∃ registry, Registry.ofEntries suite entries = .ok registry := by
  constructor
  · rintro ⟨store, h⟩
    obtain ⟨registry, hmade, -⟩ := exists_registry_of_ofEntries h
    exact ⟨registry, hmade⟩
  · rintro ⟨registry, h⟩
    rcases ofEntries_eq suite entries with ⟨fault, hfault, -⟩ | ⟨_, store, -, hstore, -⟩
    · rw [h] at hfault
      cases hfault
    · exact ⟨store, hstore⟩

theorem resolve_eq_of_source_eq (h : store'.source = store.source) (keyId : LooseText) :
    store'.resolve keyId = store.resolve keyId :=
  Except.ok.inj (congrArg (fun source => source.resolve (.str keyId)) h)

/-- A store can be made of entries if and only if one can be made of them in another order, and then
the two find the same key for every id. So they give the same verdicts on every batch, and the same
identifier or the same fault for every checkpoint. The registries that look into their entries do
so, too: they are the same sources of keys. -/
theorem trust_of_perm (hperm : entries.Perm entries') :
    ((∃ store, ofEntries suite entries = .ok store) ↔
        ∃ store', ofEntries suite entries' = .ok store') ∧
      ∀ store store', ofEntries suite entries = .ok store →
        ofEntries suite entries' = .ok store' →
          (∀ keyId, store'.resolve keyId = store.resolve keyId) ∧
          (∀ (engine engine' : Engine) records tally,
            engine'.validate suite store'.source records tally =
              engine.validate suite store.source records tally) ∧
          (∀ content keyId signature,
            hashCheckpoint suite store'.source content keyId signature =
              hashCheckpoint suite store.source content keyId signature) ∧
          ∃ registry registry', Registry.ofEntries suite entries = .ok registry ∧
            Registry.ofEntries suite entries' = .ok registry' ∧
            store.source = registry.source ∧ store'.source = registry'.source := by
  refine ⟨?made, fun store store' h h' => ?_⟩
  case made =>
    rw [exists_ofEntries_iff, exists_ofEntries_iff]
    exact Registry.exists_ofEntries_iff_of_perm hperm
  obtain ⟨registry, hmade, hsource⟩ := exists_registry_of_ofEntries h
  obtain ⟨registry', hmade', hsource'⟩ := exists_registry_of_ofEntries h'
  have heq : store'.source = store.source := by
    rw [hsource, hsource', Registry.source_eq_of_perm hperm hmade hmade']
  refine ⟨resolve_eq_of_source_eq heq, fun engine engine' records tally => ?_,
    fun content keyId signature => ?_, registry, registry', hmade, hmade', hsource, hsource'⟩
  · rw [heq]
    exact engine.validate_alike engine' suite store.source records tally
  · rw [heq]

section Example

open VerifiedCheckpoint (logKey logBody logSignature)

/-- The key of a log between one that has been withdrawn and one of an algorithm that is not
supported. -/
def rotatedEntries : List KeyEntry :=
  [⟨"K1", sampleKey 7, false⟩, ⟨"K1", logKey, true⟩, ⟨"K2", ⟨"x", []⟩, true⟩]

/-- The keys may as well be listed the other way round: what the log has signed has the same
identifier. -/
theorem exists_root_of_reversed :
    ∃ store store', ofEntries .standard rotatedEntries = .ok store ∧
      ofEntries .standard rotatedEntries.reverse = .ok store' ∧
      store'.resolve "K1" = some logKey ∧
      ∃ root, hashCheckpoint .standard store'.source (.bytes (logBody.octetsWith ['\n']))
          (.str "K1") (.str logSignature) = .ok root ∧
        hashCheckpoint .standard store.source (.bytes (logBody.octetsWith ['\n']))
          (.str "K1") (.str logSignature) = .ok root := by
  have hperm : rotatedEntries.Perm rotatedEntries.reverse := rotatedEntries.reverse_perm.symm
  have hregistry : Registry.ofEntries .standard rotatedEntries = .ok ⟨rotatedEntries⟩ := by
    decide +kernel
  obtain ⟨hmade, htrust⟩ := @trust_of_perm .standard _ _ hperm
  obtain ⟨store, hstore⟩ := exists_ofEntries_iff.mpr ⟨_, hregistry⟩
  obtain ⟨store', hstore'⟩ := hmade.mp ⟨store, hstore⟩
  obtain ⟨hresolve, -, hroots, registry, -, hregistry', -, hsource, -⟩ :=
    htrust store store' hstore hstore'
  obtain rfl := Except.ok.inj (hregistry.symm.trans hregistry')
  have hfound : store.source.resolve (.str "K1") = .ok (some logKey) := by
    rw [hsource]
    exact congrArg Except.ok ((Registry.resolve_eq_some_iff_of_ofEntries hregistry).mpr
      ⟨⟨"K1", logKey, true⟩, by simp [rotatedEntries], rfl, rfl, rfl⟩)
  have hend : ['\n'] ∈ Text.lineEnds := by simp [Text.lineEnds]
  obtain ⟨root, hroot⟩ := exists_hashCheckpoint_logBody hend hfound
  refine ⟨store, store', hstore, hstore', ?_, root, ?_, hroot⟩
  · rw [hresolve]
    exact Except.ok.inj hfound
  · rw [hroots]
    exact hroot

end Example

end KeyStore

end TransparencyLog
