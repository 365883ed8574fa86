import TransparencyLog.Key.RegistryFile
import TransparencyLog.Proofs.FileTree.Document
import TransparencyLog.Proofs.Key.Registry

/-!
A registry file goes through what a registry in memory goes through. The entries that are written
are read back (`exists_octets`), so each append does what adding the entry does to the registry
(`append_of_mirrors`), and every run of appends keeps the two alike (`Mirrors.foldl`).
-/

namespace TransparencyLog.RegistryFile

open FileTree FileAction

variable {suite : SignatureSuite} {path : String} {tree : FileTree} {registry : Registry}
  {entries : List KeyEntry} {entry : KeyEntry} {octets : Bytes}

/-- Each of the entries has been read from some document. -/
def AreRead (entries : List KeyEntry) : Prop :=
  ∀ entry ∈ entries, ∃ document, KeyEntry.ofValue document = .ok entry

section Document

theorem readEntries_map_toValue (h : AreRead entries) :
    readEntries (entries.map KeyEntry.toValue) = .ok entries := by
  induction entries with
  | nil => rfl
  | cons entry entries ih =>
      obtain ⟨document, hdocument⟩ := h entry (by simp)
      rw [List.map_cons, readEntries, KeyEntry.ofValue_toValue hdocument, ok_bind,
        ih fun other hother => h other (by simp [hother])]
      rfl

theorem entriesOfDocument_document_eq_mapError (path : String) (entries : List KeyEntry) :
    entriesOfDocument path (document entries) =
      (readEntries (entries.map KeyEntry.toValue)).mapError .entry := by
  have hkeys : Value.lookup? "keys" [(.str "keys", .list (entries.map KeyEntry.toValue))] =
      some (.list (entries.map KeyEntry.toValue)) := by
    simp [Value.lookup?]
  rw [document, Value.object, List.map_cons, List.map_nil, entriesOfDocument]
  dsimp only
  rw [hkeys]
  dsimp only
  cases readEntries (entries.map KeyEntry.toValue) with
  | ok entries => rfl
  | error fault => rfl

theorem entriesOfDocument_document (path : String) (h : AreRead entries) :
    entriesOfDocument path (document entries) = .ok entries := by
  rw [entriesOfDocument_document_eq_mapError, readEntries_map_toValue h]
  rfl

theorem isDocument_document (entries : List KeyEntry) : Json.IsDocument (document entries) := by
  refine Json.isDocument_object (by simp) ?_
  intro member hmember
  obtain rfl := List.mem_singleton.mp hmember
  refine .list fun item hitem => ?_
  obtain ⟨entry, -, rfl⟩ := List.mem_map.mp hitem
  refine Json.isDocument_object (by simp) ?_
  intro member hmember
  simp only [List.mem_cons, List.not_mem_nil, or_false] at hmember
  rcases hmember with rfl | rfl | rfl
  · exact .str _
  · exact .str _
  · exact .bool _

theorem nesting_document_le (entries : List KeyEntry) :
    Value.nesting (document entries) ≤ Json.nestingLimit := by
  have hitems : Value.nestingOfItems (entries.map KeyEntry.toValue) ≤ 1 := by
    refine Value.nestingOfItems_le_iff.mpr fun item hitem => ?_
    obtain ⟨entry, -, rfl⟩ := List.mem_map.mp hitem
    simp [KeyEntry.toValue, Value.object, Value.nesting, Value.nestingOfEntries]
  have hnesting : Value.nesting (document entries) =
      Value.nestingOfItems (entries.map KeyEntry.toValue) + 1 + 1 := by
    simp [document, Value.object, Value.nesting, Value.nestingOfEntries]
  rw [hnesting]
  exact Nat.le_trans (Nat.add_le_add_right hitems 2) (by decide)

theorem exists_octets (path : String) (h : AreRead entries) :
    ∃ octets, documentOctets (document entries) = .ok octets ∧
      entriesOfOctets path octets = .ok entries := by
  obtain ⟨octets, hoctets, hload⟩ :=
    exists_documentOctets (isDocument_document entries) (nesting_document_le entries)
  refine ⟨octets, hoctets, ?_⟩
  rw [entriesOfOctets, hload]
  exact entriesOfDocument_document path h

end Document

section Load

theorem load_congr {tree' : FileTree} (h : tree.read path = tree'.read path) :
    load suite tree path = load suite tree' path := by
  rw [load, load, RegistryFile.entries, RegistryFile.entries, h]

theorem load_of_file (hlocate : tree.locate path = .ok (placeOf path))
    (hfile : tree.node? (placeOf path) = some (.file octets))
    (hentries : entriesOfOctets path octets = .ok registry.entries)
    (hgrown : Registry.ofEntries suite registry.entries = .ok registry) :
    load suite tree path = .ok registry := by
  rw [load, RegistryFile.entries, read_eq_ok_iff.mpr (file?_of_locate hlocate hfile)]
  dsimp only
  rw [hentries]
  dsimp only
  rw [hgrown]

/-- The registry that an entry is to be added to. -/
def standing (suite : SignatureSuite) (tree : FileTree) (path : String) : Except Fault Registry :=
  if tree.holds path then load suite tree path else .ok .empty

theorem perform_extend (suite : SignatureSuite) (path : String) (entry : KeyEntry)
    (tree : FileTree) :
    (extend suite path entry).perform tree =
      match standing suite tree path with
      | .error fault => (.error fault, tree)
      | .ok registry =>
          match registry.add suite entry with
          | .error fault => (.error (.refused fault), tree)
          | .ok registry => (do
              rename .ofStore (store path (document registry.entries))
              return registry.entries : FileAction Fault (List KeyEntry)).perform tree := by
  have hholds : (holds path : FileAction Fault Bool).perform tree = (.ok (tree.holds path), tree) :=
    perform_holds path
  rw [extend, perform_bind_ok _ hholds, standing]
  cases tree.holds path with
  | false =>
      have hempty : (pure Registry.empty : FileAction Fault Registry).perform tree =
          (.ok .empty, tree) := rfl
      simp only [Bool.false_eq_true, if_false, perform_bind_ok _ hempty]
      cases Registry.add suite .empty entry with
      | error fault => rfl
      | ok registry => rfl
  | true =>
      simp only [if_true, perform_ask_bind]
      cases load suite tree path with
      | error fault => rfl
      | ok registry =>
          dsimp only
          cases registry.add suite entry with
          | error fault => rfl
          | ok registry => rfl

theorem not_directory_of_standing (hlocate : tree.locate path = .ok (placeOf path))
    (h : standing suite tree path = .ok registry) :
    tree.node? (placeOf path) ≠ some .directory := by
  intro hdirectory
  have hholds : tree.holds path = true := by
    rw [FileTree.holds, at?_of_locate hlocate, hdirectory]
    rfl
  have hread : tree.read path = .error (.blocked .isDirectory path) := by
    rw [FileTree.read, hlocate]
    dsimp only
    rw [hdirectory]
  rw [standing, if_pos hholds, load, RegistryFile.entries, hread] at h
  cases h

theorem perform_extend_error {fault : Fault} (hlocate : tree.locate path = .ok (placeOf path))
    (h : ((extend suite path entry).perform tree).1 = .error fault) :
    ((extend suite path entry).perform tree).2 = tree := by
  rw [perform_extend] at h ⊢
  cases hstanding : standing suite tree path with
  | error fault => rfl
  | ok registry =>
      simp only [hstanding] at h ⊢
      cases hadd : registry.add suite entry with
      | error fault => rfl
      | ok registry' =>
          simp only [hadd] at h ⊢
          cases hdraft : tree.locateFile (path ++ ".tmp") with
          | error fault =>
              have hstore :=
                @perform_store_error tree path (document registry'.entries) fault _ hlocate hdraft
              rw [perform_bind_error _ (perform_rename_error _ hstore)]
          | ok place =>
              -- with a place for the draft, nothing is left that could fail
              obtain rfl := eq_placeOf_of_locateFile hdraft
              have hnode := not_directory_of_standing hlocate hstanding
              have hstorable : IsStorable tree path :=
                ⟨hdraft, (locateTarget_of_locate hlocate hnode).1⟩
              obtain ⟨octets, hoctets, -⟩ := exists_documentOctets
                (isDocument_document registry'.entries) (nesting_document_le registry'.entries)
              obtain ⟨tree', hstore, -⟩ := FileAction.exists_perform_store hstorable hoctets
              rw [perform_bind_ok _ (perform_rename_ok _ hstore)] at h
              cases h

end Load

/-- The file at a path and a registry in memory that has been offered the same entries: there is no
file as long as all of them have been refused, and then there is one with those that have not. -/
structure Mirrors (suite : SignatureSuite) (path : String) (tree : FileTree)
    (registry : Registry) : Prop where
  ready : IsReady tree path
  read : AreRead registry.entries
  grown : Registry.ofEntries suite registry.entries = .ok registry
  file : (registry = .empty ∧ ∀ octets, tree.node? (placeOf path) ≠ some (.file octets)) ∨
    IsSettled tree path ∧ ∃ octets, tree.node? (placeOf path) = some (.file octets) ∧
      entriesOfOctets path octets = .ok registry.entries

theorem Mirrors.load_eq (h : Mirrors suite path tree registry) (hne : registry.entries ≠ []) :
    load suite tree path = .ok registry := by
  rcases h.file with ⟨hempty, -⟩ | ⟨hsettled, octets, hfile, hentries⟩
  · exact absurd (congrArg Registry.entries hempty) hne
  · exact load_of_file hsettled.locate hfile hentries h.grown

theorem Mirrors.exists_perform_lock (h : Mirrors suite path tree registry) :
    ∃ tree', (lock path).perform tree = (.ok (), tree') ∧ IsSettled tree' path ∧
      Mirrors suite path tree' registry ∧ tree'.file? path = tree.file? path := by
  rcases h.file with ⟨hempty, hfresh⟩ | ⟨hsettled, octets, hfile, hentries⟩
  · obtain ⟨tree', hlock, hsettled⟩ := h.ready
    have hframe := within_lock path tree
    rw [hlock] at hframe
    have hplace : placeOf path ∉ [placeOf (path ++ ".lock")] := by
      simpa using hsettled.places_ne.2.1.symm
    have hfresh' : ∀ octets, tree'.node? (placeOf path) ≠ some (.file octets) :=
      fun octets hfile => hfresh octets ((hframe.file _ hplace octets).mp hfile)
    refine ⟨tree', hlock, hsettled, ⟨hsettled.isReady, h.read, h.grown, .inl ⟨hempty, hfresh'⟩⟩, ?_⟩
    rw [file?_eq_none hfresh, file?_eq_none hfresh']
  · obtain ⟨tree', hlock, hsettled', hnode⟩ := hsettled.exists_perform_lock
    have hfile' : tree'.node? (placeOf path) = some (.file octets) := hnode.trans hfile
    refine ⟨tree', hlock, hsettled', ⟨hsettled'.isReady, h.read, h.grown,
      .inr ⟨hsettled', octets, hfile', hentries⟩⟩, ?_⟩
    rw [file?_of_locate hsettled.locate hfile, file?_of_locate hsettled'.locate hfile']

theorem Mirrors.standing_eq (h : Mirrors suite path tree registry)
    (hsettled : IsSettled tree path) : standing suite tree path = .ok registry := by
  rw [standing, FileTree.holds, at?_of_locate hsettled.locate]
  rcases h.file with ⟨rfl, hfresh⟩ | ⟨-, octets, hfile, hentries⟩
  · cases hnode : tree.node? (placeOf path) with
    | none => rfl
    | some node =>
        cases node with
        | file octets => exact absurd hnode (hfresh octets)
        | directory => exact absurd hnode hsettled.not_directory
  · rw [hfile]
    exact load_of_file hsettled.locate hfile hentries h.grown

theorem append_of_mirrors (h : Mirrors suite path tree registry)
    (hentry : ∃ document, KeyEntry.ofValue document = .ok entry) :
    ∃ tree', Mirrors suite path tree' (registry.offer suite entry) ∧
      ((∃ fault, registry.add suite entry = .error fault ∧
          (append suite path entry).perform tree = (.error (.refused fault), tree') ∧
          tree'.file? path = tree.file? path) ∨
        ∃ registry', registry.add suite entry = .ok registry' ∧
          (append suite path entry).perform tree = (.ok registry'.entries, tree')) := by
  obtain ⟨locked, hlock, hsettled, hmirrors, hfile⟩ := h.exists_perform_lock
  have happend : (append suite path entry).perform tree =
      (extend suite path entry).perform locked :=
    perform_bind_ok _ (perform_rename_ok _ hlock)
  rw [perform_extend, hmirrors.standing_eq hsettled] at happend
  dsimp only at happend
  cases hadd : registry.add suite entry with
  | error fault =>
      rw [hadd] at happend
      rw [Registry.offer_of_error hadd]
      exact ⟨locked, hmirrors, .inl ⟨fault, rfl, happend, hfile⟩⟩
  | ok registry' =>
      rw [hadd] at happend
      rw [Registry.offer_of_ok hadd]
      -- all entries have been read, so what is written of them is read back
      have hread : AreRead registry'.entries := by
        intro other hother
        rw [Registry.entries_of_add hadd, List.mem_append, List.mem_singleton] at hother
        rcases hother with hother | rfl
        · exact h.read other hother
        · exact hentry
      obtain ⟨octets, hoctets, hentries⟩ := exists_octets path hread
      obtain ⟨stored, hstore, hsettled', hstored⟩ := hsettled.exists_perform_store hoctets
      refine ⟨stored, ⟨hsettled'.isReady, hread, Registry.ofEntries_of_add h.grown hadd,
        .inr ⟨hsettled', octets, hstored, hentries⟩⟩, .inr ⟨registry', rfl, ?_⟩⟩
      rw [happend]
      exact perform_bind_ok _ (perform_rename_ok _ hstore)

/-- The tree after an entry has been appended to the file at a path, which may refuse it. -/
def appended (suite : SignatureSuite) (path : String) (tree : FileTree) (entry : KeyEntry) :
    FileTree :=
  ((append suite path entry).perform tree).2

theorem Mirrors.foldl (h : Mirrors suite path tree registry) (hentries : AreRead entries) :
    Mirrors suite path (entries.foldl (appended suite path) tree)
      (entries.foldl (Registry.offer suite) registry) := by
  induction entries generalizing tree registry with
  | nil => exact h
  | cons entry entries ih =>
      obtain ⟨tree', hmirrors, hresult⟩ := append_of_mirrors h (hentries entry (by simp))
      have htree : appended suite path tree entry = tree' := by
        rw [appended]
        rcases hresult with ⟨_, -, hperform, -⟩ | ⟨_, -, hperform⟩
        · rw [hperform]
        · rw [hperform]
      rw [List.foldl_cons, List.foldl_cons, htree]
      exact ih hmirrors fun other hother => hentries other (by simp [hother])

theorem isReady_of_perform_write (h : ((write path entries).perform tree).1 = .ok ()) :
    IsReady tree path := by
  obtain ⟨_, locked, hlock, hstore⟩ := exists_of_perform_bind h
  have hlock' := perform_of_rename_ok hlock
  exact ⟨locked, hlock', isSettled_of_perform_store hlock' (perform_fst_of_rename hstore)⟩

section Example

/-- An entry for a key of thirty-two octets. -/
def sampleEntry : KeyEntry :=
  ⟨"K1", ⟨"ed25519", List.replicate 32 7⟩, true⟩

end Example

end TransparencyLog.RegistryFile
