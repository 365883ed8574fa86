import TransparencyLog.Proofs.Key.Registry
import TransparencyLog.Proofs.Key.Verification
import Mathlib.Data.List.AList

/-!
Registries in memory, which keep a table of the active keys beside their entries and change both in
place. The table says what the entries say (`Keeps`), an addition that is refused changes nothing
(`perform_addEntry`), and after any additions the entries are those that were taken, no id has two
active ones, and every key can be used (`sound_after_additions`).
-/

namespace TransparencyLog

namespace PublicKey

theorem verify_ne_unusableKey {suite : SignatureSuite} {key : PublicKey}
    (h : Registry.unusable? suite key = none) (message : Bytes) (signature : Value)
    (fault : MaterialFault) :
    key.verify suite message signature ≠ .error (.signature (.unusableKey fault)) := by
  intro hverify
  cases verify_eq_error_iff.mp hverify with
  | undecodable _ hdecode =>
      -- whatever is wrong with a signature text, it is not the key
      cases signature with
      | str text =>
          rw [decodeSignatureValue, decodeSignature] at hdecode
          grind
      | _ => cases hdecode
  | unusableKey _ hload =>
      obtain ⟨scheme, hscheme, hmaterial⟩ := load_eq_material_iff.mp hload
      rw [Registry.unusable?, hscheme, Option.bind_some, hmaterial] at h
      cases h

end PublicKey

namespace Registry

variable {suite : SignatureSuite} {registry registry' : Registry} {entry : KeyEntry}
  {keyId : LooseText} {key : PublicKey}

theorem resolve_eq_none_iff :
    registry.resolve keyId = none ↔
      ∀ entry ∈ registry.entries, entry.active = true → entry.keyId ≠ keyId := by
  simp [resolve]

theorem contains_eq_false_iff :
    registry.contains keyId = false ↔ registry.resolve keyId = none := by
  simp [contains]

theorem add_eq_ok_iff :
    registry.add suite entry = .ok registry' ↔
      unusable? suite entry.publicKey = none ∧
        (entry.active = true → registry.resolve entry.keyId = none) ∧
        registry' = ⟨registry.entries ++ [entry]⟩ := by
  unfold add
  split
  · rename_i fault hfault
    simp [hfault]
  · rename_i hfault
    split
    · rename_i hduplicate
      obtain ⟨hactive, hcontains⟩ := hduplicate
      simp only [reduceCtorEq, false_iff, not_and]
      intro _ hfree
      rw [contains, hfree hactive] at hcontains
      cases hcontains
    · rename_i hfree
      rw [not_and, Bool.not_eq_true, contains_eq_false_iff] at hfree
      rw [Except.ok.injEq]
      constructor
      · rintro rfl
        exact ⟨hfault, hfree, rfl⟩
      · rintro ⟨-, -, rfl⟩
        rfl

theorem resolve_of_add (h : registry.add suite entry = .ok registry') (keyId : LooseText) :
    registry'.resolve keyId =
      if entry.active = true ∧ entry.keyId = keyId then some entry.publicKey
      else registry.resolve keyId := by
  obtain ⟨-, hfree, rfl⟩ := add_eq_ok_iff.mp h
  split
  · rename_i hfound
    obtain ⟨hactive, rfl⟩ := hfound
    have hnone := hfree hactive
    rw [resolve, Option.map_eq_none_iff] at hnone
    simp [resolve, List.find?_append, hnone, hactive]
  · rename_i hother
    have hskip : (entry.active && decide (entry.keyId = keyId)) = false := by simpa using hother
    simp [resolve, List.find?_append, hskip]

/-- Each id has one active entry at most, and each key of a supported algorithm can be used. -/
structure IsSound (suite : SignatureSuite) (registry : Registry) : Prop where
  unique : registry.entries.Pairwise fun a b =>
    a.active = true → b.active = true → a.keyId ≠ b.keyId
  usable : ∀ entry ∈ registry.entries, unusable? suite entry.publicKey = none

theorem isSound_empty (suite : SignatureSuite) : IsSound suite empty :=
  ⟨List.Pairwise.nil, by simp [empty]⟩

theorem IsSound.add (h : registry.IsSound suite) (hadd : registry.add suite entry = .ok registry') :
    registry'.IsSound suite := by
  obtain ⟨hfault, hfree, rfl⟩ := add_eq_ok_iff.mp hadd
  refine ⟨?_, ?_⟩
  · refine List.pairwise_append.mpr ⟨h.unique, List.pairwise_singleton _ _, ?_⟩
    intro old hold new hnew hactive hactive'
    obtain rfl := List.mem_singleton.mp hnew
    exact resolve_eq_none_iff.mp (hfree hactive') old hold hactive
  · intro other hother
    rcases List.mem_append.mp hother with hother | hother
    · exact h.usable other hother
    · obtain rfl := List.mem_singleton.mp hother
      exact hfault

theorem IsSound.grow {entries : List KeyEntry} {start : Registry} (h : start.IsSound suite)
    (hgrow : start.grow suite entries = ⟨registry, none⟩) : registry.IsSound suite := by
  induction entries generalizing start with
  | nil =>
      obtain rfl : start = registry := congrArg Growth.registry hgrow
      exact h
  | cons entry entries ih =>
      rw [Registry.grow] at hgrow
      cases hadd : start.add suite entry with
      | error fault =>
          rw [hadd] at hgrow
          cases congrArg Growth.fault? hgrow
      | ok next =>
          rw [hadd] at hgrow
          exact ih (h.add hadd) hgrow

theorem grow_of_isSound {entries : List KeyEntry} {start : Registry}
    (h : IsSound suite ⟨start.entries ++ entries⟩) :
    start.grow suite entries = ⟨⟨start.entries ++ entries⟩, none⟩ := by
  induction entries generalizing start with
  | nil => rw [Registry.grow, List.append_nil]
  | cons entry entries ih =>
      have hadd : start.add suite entry = .ok ⟨start.entries ++ [entry]⟩ := by
        refine add_eq_ok_iff.mpr ⟨h.usable entry (by simp), fun hactive => ?_, rfl⟩
        refine resolve_eq_none_iff.mpr fun old hold hold' => ?_
        have hunique := (List.pairwise_append.mp h.unique).2.2
        exact hunique old hold entry List.mem_cons_self hold' hactive
      have hlist : start.entries ++ entry :: entries = start.entries ++ [entry] ++ entries := by
        rw [List.append_assoc, List.singleton_append]
      rw [hlist] at h ⊢
      rw [Registry.grow, hadd]
      exact ih h

theorem ofEntries_eq_ok_iff_isSound {entries : List KeyEntry} :
    ofEntries suite entries = .ok registry ↔
      registry.entries = entries ∧ registry.IsSound suite := by
  rw [ofEntries_eq_ok_iff]
  constructor
  · intro h
    exact ⟨entries_of_grow h, (isSound_empty suite).grow h⟩
  · rintro ⟨rfl, hsound⟩
    exact @grow_of_isSound suite registry.entries .empty hsound

theorem IsSound.offer (h : registry.IsSound suite) (entry : KeyEntry) :
    (registry.offer suite entry).IsSound suite := by
  cases hadd : registry.add suite entry with
  | ok registry' =>
      rw [offer_of_ok hadd]
      exact h.add hadd
  | error fault =>
      rw [offer_of_error hadd]
      exact h

theorem IsSound.resolve_eq_some (h : registry.IsSound suite) (hentry : entry ∈ registry.entries)
    (hactive : entry.active = true) : registry.resolve entry.keyId = some entry.publicKey := by
  obtain ⟨front, back, hsplit⟩ := List.append_of_mem hentry
  have hunique := h.unique
  rw [hsplit, List.pairwise_append] at hunique
  have hfront : front.find? (fun other => other.active && decide (other.keyId = entry.keyId)) =
      none := by
    rw [List.find?_eq_none]
    intro other hother hfound
    simp only [Bool.and_eq_true, decide_eq_true_eq] at hfound
    exact hunique.2.2 other hother entry (by simp) hfound.1 hactive hfound.2
  simp [resolve, hsplit, List.find?_append, hfront, hactive]

theorem exists_of_resolve (h : registry.resolve keyId = some key) :
    ∃ entry ∈ registry.entries, entry.active = true ∧ entry.keyId = keyId ∧
      entry.publicKey = key := by
  obtain ⟨entry, hfind, rfl⟩ := Option.map_eq_some_iff.mp h
  have hfound := List.find?_some hfind
  simp only [Bool.and_eq_true, decide_eq_true_eq] at hfound
  exact ⟨entry, List.mem_of_find?_eq_some hfind, hfound.1, hfound.2, rfl⟩

theorem IsSound.resolve_eq_some_iff (h : registry.IsSound suite) :
    registry.resolve keyId = some key ↔
      ∃ entry ∈ registry.entries, entry.active = true ∧ entry.keyId = keyId ∧
        entry.publicKey = key := by
  refine ⟨exists_of_resolve, ?_⟩
  rintro ⟨entry, hentry, hactive, rfl, rfl⟩
  exact h.resolve_eq_some hentry hactive

theorem IsSound.load_eq (h : registry.IsSound suite) (hentry : entry ∈ registry.entries)
    {scheme : Scheme} (hscheme : entry.publicKey.scheme? = some scheme) :
    entry.publicKey.load suite = .ok scheme := by
  have husable := h.usable entry hentry
  rw [unusable?, hscheme] at husable
  exact PublicKey.load_eq_ok_iff.mpr ⟨hscheme, husable⟩

end Registry

/-- A registry in memory: its entries in the order in which they were added, and beside them a table
of the active keys, which is all that look-ups read. -/
structure KeyStore where
  entries : List KeyEntry
  active : AList fun _ : LooseText => PublicKey

namespace KeyStore

def empty : KeyStore := ⟨[], ∅⟩

def resolve (store : KeyStore) (keyId : LooseText) : Option PublicKey :=
  store.active.lookup keyId

/-- A change to a store, which it may break off. -/
abbrev Change (α : Type) := ExceptT Registry.Fault (StateM KeyStore) α

def Change.perform {α : Type} (change : Change α) (store : KeyStore) :
    Except Registry.Fault α × KeyStore :=
  change.run.run store

/-- Adds an entry: its key is looked at first and its id second, and after that the entry is
appended and the table set. -/
def addEntry (suite : SignatureSuite) (entry : KeyEntry) : Change Unit := do
  match Registry.unusable? suite entry.publicKey with
  | some fault => throw (.material entry.keyId fault)
  | none =>
      if entry.active ∧ ((← get).resolve entry.keyId).isSome then throw (.duplicate entry.keyId)
      else
        modify fun store => { store with entries := store.entries ++ [entry] }
        if entry.active then
          modify fun store =>
            { store with active := store.active.insert entry.keyId entry.publicKey }

/-- Adds a key under an id. Returns the entry that is made of them. -/
def addKey (suite : SignatureSuite) (keyId : LooseText) (key : PublicKey) (active : Bool) :
    Change KeyEntry := do
  let entry : KeyEntry := ⟨keyId, key, active⟩
  addEntry suite entry
  return entry

/-- A request to add something: an entry, or a key under an id. -/
inductive Addition
  | ofEntry (entry : KeyEntry)
  | ofKey (keyId : LooseText) (key : PublicKey) (active : Bool)

namespace Addition

def entry : Addition → KeyEntry
  | ofEntry entry => entry
  | ofKey keyId key active => ⟨keyId, key, active⟩

def change (suite : SignatureSuite) : Addition → Change Unit
  | ofEntry entry => addEntry suite entry
  | ofKey keyId key active => do let _ ← addKey suite keyId key active

end Addition

variable {suite : SignatureSuite} {store : KeyStore} {registry : Registry}

theorem resolve_insert (store : KeyStore) (entries : List KeyEntry) (entry : KeyEntry)
    (keyId : LooseText) :
    (KeyStore.mk entries (if entry.active then store.active.insert entry.keyId entry.publicKey
      else store.active)).resolve keyId =
      if entry.active = true ∧ entry.keyId = keyId then some entry.publicKey
      else store.resolve keyId := by
  rw [resolve]
  cases entry.active with
  | false => simp [resolve]
  | true =>
      by_cases hkeyId : entry.keyId = keyId
      · rw [← hkeyId]
        simp
      · simp [hkeyId, resolve, AList.lookup_insert_ne (Ne.symm hkeyId)]

/-- The store after some additions have been requested of it, one after the other. -/
def after (suite : SignatureSuite) (store : KeyStore) (additions : List Addition) : KeyStore :=
  additions.foldl (fun store addition => ((addition.change suite).perform store).2) store

/-- The entries of the additions that are not refused, in their order. -/
def taken (suite : SignatureSuite) (store : KeyStore) : List Addition → List KeyEntry
  | [] => []
  | addition :: rest =>
      match (addition.change suite).perform store with
      | (.ok _, store') => addition.entry :: taken suite store' rest
      | (.error _, store') => taken suite store' rest

theorem perform_bind {α β : Type} (change : Change α) (next : α → Change β) (store : KeyStore) :
    (change >>= next).perform store =
      match change.perform store with
      | (.ok a, store') => (next a).perform store'
      | (.error fault, store') => (.error fault, store') := by
  have hbind : (change >>= next).perform store =
      ExceptT.bindCont next (change.perform store).1 (change.perform store).2 := rfl
  rw [hbind]
  rcases change.perform store with ⟨result, store'⟩
  cases result with
  | ok a => rfl
  | error fault => rfl

theorem perform_addEntry (suite : SignatureSuite) (entry : KeyEntry) (store : KeyStore) :
    (addEntry suite entry).perform store =
      match Registry.unusable? suite entry.publicKey with
      | some fault => (.error (.material entry.keyId fault), store)
      | none =>
          if entry.active ∧ (store.resolve entry.keyId).isSome then
            (.error (.duplicate entry.keyId), store)
          else
            (.ok (), ⟨store.entries ++ [entry],
              if entry.active then store.active.insert entry.keyId entry.publicKey
              else store.active⟩) := by
  rw [addEntry]
  cases Registry.unusable? suite entry.publicKey with
  | some fault => rfl
  | none =>
      have hget : (get : Change KeyStore).perform store = (.ok store, store) := rfl
      dsimp only
      rw [perform_bind, hget]
      dsimp only
      split
      · rfl
      · cases entry.active with
        | true => rfl
        | false => rfl

theorem perform_change (suite : SignatureSuite) (addition : Addition) (store : KeyStore) :
    (addition.change suite).perform store = (addEntry suite addition.entry).perform store := by
  cases addition with
  | ofEntry entry => rfl
  | ofKey keyId key active =>
      rw [Addition.change, addKey, perform_bind, perform_bind, Addition.entry]
      rcases (addEntry suite ⟨keyId, key, active⟩).perform store with ⟨result, store'⟩
      cases result with
      | ok _ => rfl
      | error fault => rfl

/-- A store says what a registry says: its entries are the same, and look-ups find the same. -/
structure Keeps (store : KeyStore) (registry : Registry) : Prop where
  entries : store.entries = registry.entries
  resolve : ∀ keyId, store.resolve keyId = registry.resolve keyId

theorem keeps_empty : Keeps empty .empty :=
  ⟨rfl, fun _ => rfl⟩

theorem Keeps.add {registry' : Registry} {entry : KeyEntry} (h : Keeps store registry)
    (hadd : registry.add suite entry = .ok registry') :
    Keeps ⟨store.entries ++ [entry],
      if entry.active then store.active.insert entry.keyId entry.publicKey else store.active⟩
      registry' := by
  refine ⟨?_, fun keyId => ?_⟩
  · rw [Registry.entries_of_add hadd, h.entries]
  · rw [Registry.resolve_of_add hadd, ← h.resolve, resolve_insert]

/-- An addition does to the store what it does to the registry, and where it is refused it does
nothing. -/
theorem Keeps.perform (h : Keeps store registry) (addition : Addition) :
    (∃ fault, registry.add suite addition.entry = .error fault ∧
        (addition.change suite).perform store = (.error fault, store)) ∨
      ∃ registry' store', registry.add suite addition.entry = .ok registry' ∧
        (addition.change suite).perform store = (.ok (), store') ∧ Keeps store' registry' := by
  rw [perform_change, perform_addEntry]
  cases hadd : registry.add suite addition.entry with
  | ok registry' =>
      obtain ⟨husable, hfree, -⟩ := Registry.add_eq_ok_iff.mp hadd
      refine .inr ⟨registry', _, rfl, ?_, h.add hadd⟩
      rw [husable]
      dsimp only
      rw [if_neg]
      rintro ⟨hactive, hfound⟩
      rw [h.resolve, hfree hactive] at hfound
      cases hfound
  | error fault =>
      refine .inl ⟨fault, rfl, ?_⟩
      rw [Registry.add] at hadd
      cases hunusable : Registry.unusable? suite addition.entry.publicKey with
      | some cause =>
          rw [hunusable] at hadd
          obtain rfl := Except.error.inj hadd
          rfl
      | none =>
          rw [hunusable] at hadd
          dsimp only at hadd ⊢
          split at hadd
          · rename_i hduplicate
            obtain rfl := Except.error.inj hadd
            rw [if_pos (by rw [h.resolve]; exact hduplicate)]
          · cases hadd

/-- What a run of additions does to the store, it does to the registry, whose invariants hold all
along. -/
theorem Keeps.after (h : Keeps store registry) (hsound : registry.IsSound suite)
    (additions : List Addition) :
    Keeps (store.after suite additions)
        ((additions.map Addition.entry).foldl (Registry.offer suite) registry) ∧
      ((additions.map Addition.entry).foldl (Registry.offer suite) registry).IsSound suite ∧
      (store.after suite additions).entries = store.entries ++ store.taken suite additions := by
  induction additions generalizing store registry with
  | nil => exact ⟨h, hsound, by simp [KeyStore.after, taken]⟩
  | cons addition additions ih =>
      have hsound' := hsound.offer addition.entry
      rcases h.perform addition with
        ⟨fault, hadd, hperform⟩ | ⟨registry', store', hadd, hperform, hkeeps⟩
      · have hafter : store.after suite (addition :: additions) = store.after suite additions := by
          rw [KeyStore.after, List.foldl_cons, hperform]
          rfl
        have htaken : store.taken suite (addition :: additions) = store.taken suite additions := by
          rw [taken, hperform]
        rw [Registry.offer_of_error hadd] at hsound'
        rw [hafter, htaken, List.map_cons, List.foldl_cons, Registry.offer_of_error hadd]
        exact ih h hsound'
      · have hafter : store.after suite (addition :: additions) = store'.after suite additions := by
          rw [KeyStore.after, List.foldl_cons, hperform]
          rfl
        have htaken : store.taken suite (addition :: additions) =
            addition.entry :: store'.taken suite additions := by
          rw [taken, hperform]
        have hentries : store'.entries = store.entries ++ [addition.entry] := by
          rw [hkeeps.entries, Registry.entries_of_add hadd, h.entries]
        rw [Registry.offer_of_ok hadd] at hsound'
        rw [hafter, htaken, List.map_cons, List.foldl_cons, Registry.offer_of_ok hadd]
        obtain ⟨hkeeps', hsound'', htaken'⟩ := ih hkeeps hsound'
        refine ⟨hkeeps', hsound'', ?_⟩
        rw [htaken', hentries, List.append_assoc, List.singleton_append]

/-- What holds of a store all along: an id stands for the key of its one active entry, if it has
one, and the key of an entry can be used wherever its algorithm is supported. -/
structure IsSound (suite : SignatureSuite) (store : KeyStore) : Prop where
  unique : store.entries.Pairwise fun a b => a.active = true → b.active = true → a.keyId ≠ b.keyId
  found : ∀ entry ∈ store.entries, entry.active = true →
    store.resolve entry.keyId = some entry.publicKey
  missing : ∀ keyId, (∀ entry ∈ store.entries, entry.active = true → entry.keyId ≠ keyId) →
    store.resolve keyId = none
  resolved : ∀ keyId key, store.resolve keyId = some key →
    ∃ entry ∈ store.entries, entry.active = true ∧ entry.keyId = keyId ∧ entry.publicKey = key
  loads : ∀ entry ∈ store.entries, ∀ scheme, entry.publicKey.scheme? = some scheme →
    entry.publicKey.load suite = .ok scheme
  blameless : ∀ entry ∈ store.entries, ∀ message signature fault,
    entry.publicKey.verify suite message signature ≠ .error (.signature (.unusableKey fault))

theorem Keeps.isSound (h : Keeps store registry) (hsound : registry.IsSound suite) :
    store.IsSound suite where
  unique := by
    rw [h.entries]
    exact hsound.unique
  found entry hentry hactive := by
    rw [h.entries] at hentry
    rw [h.resolve]
    exact hsound.resolve_eq_some hentry hactive
  missing keyId hother := by
    rw [h.entries] at hother
    rw [h.resolve]
    exact Registry.resolve_eq_none_iff.mpr hother
  resolved keyId key hkey := by
    rw [h.resolve] at hkey
    rw [h.entries]
    exact Registry.exists_of_resolve hkey
  loads entry hentry scheme hscheme := by
    rw [h.entries] at hentry
    exact hsound.load_eq hentry hscheme
  blameless entry hentry := by
    rw [h.entries] at hentry
    exact PublicKey.verify_ne_unusableKey (hsound.usable entry hentry)

/-- After any additions, refused or not, the store is sound, its entries are those that were taken,
in their order, and it is what the additions make of a registry that looks into its entries. What
is refused next is what the registry refuses, and it leaves the store as it is. -/
theorem sound_after_additions (suite : SignatureSuite) (additions : List Addition) :
    let store := empty.after suite additions
    let registry := (additions.map Addition.entry).foldl (Registry.offer suite) .empty
    store.IsSound suite ∧ store.entries = empty.taken suite additions ∧
      (store.entries = registry.entries ∧
        ∀ keyId, store.resolve keyId = registry.resolve keyId) ∧
      ∀ (addition : Addition) fault,
        (((addition.change suite).perform store).1 = .error fault ↔
          registry.add suite addition.entry = .error fault) ∧
        (((addition.change suite).perform store).1 = .error fault →
          ((addition.change suite).perform store).2 = store) := by
  intro store registry
  obtain ⟨hkeeps, hsound, htaken⟩ :
      Keeps store registry ∧ registry.IsSound suite ∧
        store.entries = [] ++ empty.taken suite additions :=
    keeps_empty.after (Registry.isSound_empty suite) additions
  refine ⟨hkeeps.isSound hsound, htaken, ⟨hkeeps.entries, hkeeps.resolve⟩,
    fun addition fault => ?_⟩
  rcases hkeeps.perform addition with ⟨cause, hadd, hperform⟩ | ⟨_, _, hadd, hperform, -⟩
  · rw [hadd, hperform]
    simp
  · rw [hadd, hperform]
    simp

section Example

def sampleKey (octet : UInt8) : PublicKey :=
  ⟨"ed25519", List.replicate 32 octet⟩

/-- A key that is replaced, one under an id that is in use, and one that cannot be used, between
others. -/
def sampleAdditions : List Addition :=
  [.ofKey "K1" (sampleKey 1) false, .ofEntry ⟨"K1", sampleKey 2, true⟩,
    .ofKey "K1" (sampleKey 3) true, .ofKey "K2" ⟨"ed25519", [4]⟩ true,
    .ofEntry ⟨"K2", ⟨"x", []⟩, true⟩]

/-- Two of the additions are refused, and the active one of two entries with one id is found. An id
that is in use is refused after that as well, and nothing changes. -/
theorem exists_addition_refused :
    let store := empty.after .standard sampleAdditions
    store.entries = [⟨"K1", sampleKey 1, false⟩, ⟨"K1", sampleKey 2, true⟩,
        ⟨"K2", ⟨"x", []⟩, true⟩] ∧
      store.resolve "K1" = some (sampleKey 2) ∧
      (((Addition.ofKey "K2" (sampleKey 5) true).change .standard).perform store).1 =
        .error (.duplicate "K2") ∧
      (((Addition.ofKey "K2" (sampleKey 5) true).change .standard).perform store).2 = store := by
  intro store
  obtain ⟨hsound, -, -, hrefused⟩ := sound_after_additions .standard sampleAdditions
  have hentries : store.entries = [⟨"K1", sampleKey 1, false⟩, ⟨"K1", sampleKey 2, true⟩,
      ⟨"K2", ⟨"x", []⟩, true⟩] := by
    decide +kernel
  have hduplicate : (((Addition.ofKey "K2" (sampleKey 5) true).change .standard).perform store).1 =
      .error (.duplicate "K2") := by
    decide +kernel
  refine ⟨hentries, hsound.found ⟨"K1", sampleKey 2, true⟩ ?_ rfl, hduplicate,
    (hrefused _ _).2 hduplicate⟩
  rw [hentries]
  simp

end Example

end KeyStore

end TransparencyLog
