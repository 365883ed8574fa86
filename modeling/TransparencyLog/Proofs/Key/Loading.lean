import TransparencyLog.Proofs.Json.Overlong
import TransparencyLog.Proofs.Key.RegistryFile

namespace TransparencyLog

/-- The file at a path holds no document that is nested too deep to be read. -/
def FileTree.IsShallow (tree : FileTree) (path : String) : Prop :=
  ∀ octets fault, tree.file? path = some octets → Json.loadFile octets ≠ .error (.tooDeep fault)

theorem isShallow_of_load {suite : SignatureSuite} {tree : FileTree} {path : String}
    {registry : Registry} (h : RegistryFile.load suite tree path = .ok registry) :
    tree.IsShallow path := by
  intro octets fault hfile hload
  rw [RegistryFile.load, RegistryFile.entries, FileTree.read_eq_ok_iff.mpr hfile] at h
  dsimp only at h
  rw [RegistryFile.entriesOfOctets, hload] at h
  cases h

namespace Json

theorem exists_undecodable_iff {octets : Bytes} :
    (∃ fault, loadFile octets = .error (.undecodable fault)) ↔
      ¬ ∃ text, octets = Utf8.encode text := by
  have hdecode : (∃ text, octets = Utf8.encode text) ↔
      ∃ cs, Utf8.decodeChars octets = .ok cs := by
    simp only [Utf8.decodeChars_eq_ok_iff]
    constructor
    · rintro ⟨text, rfl⟩
      exact ⟨text.toList, rfl⟩
    · rintro ⟨cs, rfl⟩
      exact ⟨String.ofList cs, by rw [Utf8.encode, String.toList_ofList]⟩
  rw [hdecode, loadFile, fileText]
  cases Utf8.decodeChars octets with
  | ok cs => simpa using loadText_ne_undecodable _
  | error fault => simp

end Json

namespace RegistryFile

open FileTree FileAction

variable {suite : SignatureSuite} {path : String} {tree : FileTree} {octets : Bytes}
  {fault : Fault}

/-- The kind of the faults that contents give. -/
def kindOfContents (octets : Bytes) : Kind :=
  match Json.loadFile octets with
  | .error (.undecodable _) => .encoding
  | .error (.overlong _) => .number
  | .error (.tooDeep _) => .nesting
  | _ => .registry

/-- Contents that are text, in which no number is too long to be read. -/
structure IsReadable (octets : Bytes) : Prop where
  text : ∃ text, octets = Utf8.encode text
  numbers : ∀ fault, Json.loadFile octets ≠ .error (.overlong fault)

theorem isReadable_encode {text : String} (h : ¬ Json.HasLongRun (text.toList.map .char)) :
    IsReadable (Utf8.encode text) :=
  ⟨⟨text, rfl⟩, fun _ hoverlong => h (Json.hasLongRun_of_loadFile hoverlong)⟩

theorem kindOfContents_eq_registry_iff
    (hdeep : ∀ fault, Json.loadFile octets ≠ .error (.tooDeep fault)) :
    kindOfContents octets = .registry ↔ IsReadable octets := by
  have hiff : IsReadable octets ↔ (∀ fault, Json.loadFile octets ≠ .error (.undecodable fault)) ∧
      ∀ fault, Json.loadFile octets ≠ .error (.overlong fault) := by
    rw [← not_exists, Json.exists_undecodable_iff, not_not]
    exact ⟨fun h => ⟨h.text, h.numbers⟩, fun h => ⟨h.1, h.2⟩⟩
  rw [hiff, kindOfContents]
  cases hload : Json.loadFile octets with
  | ok document => simp
  | error cause =>
      cases cause with
      | tooDeep fault => exact absurd hload (hdeep fault)
      | _ => simp

theorem kind_of_entriesOfDocument {document : Value}
    (h : entriesOfDocument path document = .error fault) : fault.kind = .registry := by
  unfold entriesOfDocument at h
  split at h
  · split at h
    · split at h
      · cases h
      · obtain rfl := Except.error.inj h
        rfl
    · obtain rfl := Except.error.inj h
      rfl
  · obtain rfl := Except.error.inj h
    rfl

theorem kind_of_entriesOfOctets (h : entriesOfOctets path octets = .error fault) :
    fault.kind = kindOfContents octets := by
  rw [entriesOfOctets] at h
  rw [kindOfContents]
  cases hload : Json.loadFile octets with
  | ok document =>
      rw [hload] at h
      exact kind_of_entriesOfDocument h
  | error cause =>
      rw [hload] at h
      cases cause <;> obtain rfl := Except.error.inj h <;> rfl

theorem kindOfContents_of_ok {entries : List KeyEntry}
    (h : entriesOfOctets path octets = .ok entries) : kindOfContents octets = .registry := by
  rw [entriesOfOctets] at h
  rw [kindOfContents]
  cases hload : Json.loadFile octets with
  | ok document => rfl
  | error cause =>
      rw [hload] at h
      cases cause <;> cases h

section Load

variable (hfile : tree.file? path = some octets)

include hfile

theorem kind_of_load (h : load suite tree path = .error fault) :
    fault.kind = kindOfContents octets := by
  rw [load, RegistryFile.entries, read_eq_ok_iff.mpr hfile] at h
  dsimp only at h
  cases hentries : entriesOfOctets path octets with
  | error cause =>
      rw [hentries] at h
      obtain rfl := Except.error.inj h
      exact kind_of_entriesOfOctets hentries
  | ok entries =>
      rw [hentries] at h
      dsimp only at h
      rw [kindOfContents_of_ok hentries]
      split at h
      · cases h
      · obtain rfl := Except.error.inj h
        rfl

theorem kindOfContents_of_load {registry : Registry} (h : load suite tree path = .ok registry) :
    kindOfContents octets = .registry := by
  rw [load, RegistryFile.entries, read_eq_ok_iff.mpr hfile] at h
  dsimp only at h
  cases hentries : entriesOfOctets path octets with
  | error cause =>
      rw [hentries] at h
      cases h
  | ok entries => exact kindOfContents_of_ok hentries

theorem kindOfContents_eq_registry_iff_load :
    kindOfContents octets = .registry ↔
      ∀ fault, load suite tree path = .error fault → fault.kind = .registry := by
  constructor
  · exact fun hkind fault hload => (kind_of_load hfile hload).trans hkind
  · intro hfaults
    cases hload : load suite tree path with
    | ok registry => exact kindOfContents_of_load hfile hload
    | error fault => exact (kind_of_load hfile hload).symm.trans (hfaults fault hload)

end Load

theorem load_ne_tooDeep (h : tree.IsShallow path) (fault : Json.TooDeep) :
    load suite tree path ≠ .error (.tooDeep fault) := by
  intro hload
  cases hfile : tree.file? path with
  | some octets =>
      have hkind : Kind.nesting = kindOfContents octets := kind_of_load hfile hload
      rw [kindOfContents] at hkind
      cases hread : Json.loadFile octets with
      | ok document =>
          rw [hread] at hkind
          cases hkind
      | error cause =>
          rw [hread] at hkind
          cases cause with
          | tooDeep deep => exact h octets deep hfile hread
          | _ => cases hkind
  | none =>
      rw [load, RegistryFile.entries] at hload
      cases hread : tree.read path with
      | ok octets =>
          rw [read_eq_ok_iff.mp hread] at hfile
          cases hfile
      | error cause =>
          rw [hread] at hload
          split at hload
          · rename_i hentries
            obtain rfl := Except.error.inj hload
            split at hentries
            · cases hentries
            · cases hentries
            · cases hentries
            · rename_i hok
              cases hok
          · split at hload
            · cases hload
            · cases hload

theorem kind_of_standing (hfile : tree.file? path = some octets)
    (hkind : kindOfContents octets = .registry) (h : standing suite tree path = .error fault) :
    fault.kind = .registry := by
  rw [standing] at h
  split at h
  · exact (kind_of_load hfile h).trans hkind
  · cases h

theorem failsAs_store_document (path : String) (entries : List KeyEntry) :
    FailsAs (fun fault : Fault => fault.kind = .file) (do
      rename .ofStore (store path (document entries))
      return entries : FileAction Fault (List KeyEntry)) := by
  obtain ⟨printed, hprinted, -⟩ :=
    exists_documentOctets (isDocument_document entries) (nesting_document_le entries)
  refine failsAs_bind (failsAs_rename (failsAs_store path hprinted) ?_) fun _ => ?_
  · rintro _ ⟨cause, rfl⟩
    rfl
  · intro tree fault h
    cases h

/-- Appending to a file whose contents give faults of the registry fails with such a fault, or with
one of some file. -/
theorem kind_of_perform_append {entry : KeyEntry} (hfile : tree.file? path = some octets)
    (hkind : kindOfContents octets = .registry)
    (h : ((append suite path entry).perform tree).1 = .error fault) :
    fault.kind = .registry ∨ fault.kind = .file := by
  rcases hlock : (lock path).perform tree with ⟨result, locked⟩
  cases result with
  | error cause =>
      rw [append, perform_bind_error _ (perform_rename_error _ hlock)] at h
      obtain rfl := Except.error.inj h
      exact .inr rfl
  | ok _ =>
      have hlocked := (keeps_of_lock hlock).file octets hfile
      rw [append, perform_bind_ok _ (perform_rename_ok _ hlock), perform_extend] at h
      cases hstanding : standing suite locked path with
      | error cause =>
          rw [hstanding] at h
          obtain rfl := Except.error.inj h
          exact .inl (kind_of_standing hlocked hkind hstanding)
      | ok registry =>
          simp only [hstanding] at h
          cases hadd : registry.add suite entry with
          | error cause =>
              rw [hadd] at h
              obtain rfl := Except.error.inj h
              exact .inl rfl
          | ok registry' =>
              rw [hadd] at h
              exact .inr (failsAs_store_document path registry'.entries locked fault h)

/-- Loading a file fails with nothing but faults of the registry if and only if the file is
readable, as every text without a long run of digits is, and then this holds of appending to it,
too, apart from the faults of other files. -/
theorem fails_as_registry_iff_isReadable (suite : SignatureSuite) {tree : FileTree} {path : String}
    {octets : Bytes} (hfile : tree.file? path = some octets) (hshallow : tree.IsShallow path) :
    ((∀ fault, load suite tree path = .error fault → fault.kind = .registry) ↔
        IsReadable octets) ∧
      (IsReadable octets → ∀ entry fault,
        ((append suite path entry).perform tree).1 = .error fault →
          fault.kind = .registry ∨ fault.kind = .file) ∧
      ∀ text, octets = Utf8.encode text → ¬ Json.HasLongRun (text.toList.map .char) →
        IsReadable octets := by
  have hreadable := kindOfContents_eq_registry_iff fun fault => hshallow octets fault hfile
  refine ⟨?_, fun hread entry fault hfault => ?_, ?_⟩
  · rw [← hreadable]
    exact (kindOfContents_eq_registry_iff_load hfile).symm
  · exact kind_of_perform_append hfile (hreadable.mpr hread) hfault
  · rintro text rfl hlong
    exact isReadable_encode hlong

section Example

/-- One file with the given contents. -/
def heldFiles (octets : Bytes) : FileTree :=
  ⟨[(["keys.json"], .file octets)]⟩

theorem load_shapelessFile :
    load .standard (heldFiles (Utf8.encode "\x7b\"keys\": 1\x7d")) "keys.json" =
      .error (.shape "keys.json") := by
  decide +kernel

theorem append_shapelessFile :
    ((append .standard "keys.json" sampleEntry).perform
      (heldFiles (Utf8.encode "\x7b\"keys\": 1\x7d"))).1 = .error (.shape "keys.json") := by
  decide +kernel

/-- An object without a list of keys gives a fault of the registry. -/
theorem kind_shapelessFile :
    (∃ fault, load .standard (heldFiles (Utf8.encode "\x7b\"keys\": 1\x7d")) "keys.json" =
        .error fault ∧ fault.kind = .registry) ∧
      ∃ fault, ((append .standard "keys.json" sampleEntry).perform
        (heldFiles (Utf8.encode "\x7b\"keys\": 1\x7d"))).1 = .error fault ∧
          (fault.kind = .registry ∨ fault.kind = .file) := by
  have hread : (Json.loadFile (Utf8.encode "\x7b\"keys\": 1\x7d")).isOk = true := by decide +kernel
  have hshallow : (heldFiles (Utf8.encode "\x7b\"keys\": 1\x7d")).IsShallow "keys.json" := by
    intro octets fault hfile hdeep
    obtain rfl := Option.some.inj hfile
    rw [hdeep] at hread
    cases hread
  obtain ⟨hload, happend, hshort⟩ := fails_as_registry_iff_isReadable .standard rfl hshallow
  have hreadable := hshort _ rfl (Json.not_hasLongRun_of_length (by decide))
  exact ⟨⟨_, load_shapelessFile, hload.mpr hreadable _ load_shapelessFile⟩,
    _, append_shapelessFile, happend hreadable _ _ append_shapelessFile⟩

/-- An octet that begins no character is put down neither to the registry nor to a file. -/
theorem not_registry_of_undecodable :
    (heldFiles [0xFF]).file? "keys.json" = some [0xFF] ∧
      (heldFiles [0xFF]).IsShallow "keys.json" ∧
      ∃ fault, load .standard (heldFiles [0xFF]) "keys.json" = .error fault ∧
        ((append .standard "keys.json" sampleEntry).perform (heldFiles [0xFF])).1 =
          .error fault ∧ fault.kind = .encoding := by
  have hread : Json.loadFile [0xFF] = .error (.undecodable ⟨"utf-8", 0, 1, 0xFF, .start⟩) := by
    rfl
  refine ⟨rfl, fun octets fault hfile hdeep => ?_,
    .undecodable ⟨"utf-8", 0, 1, 0xFF, .start⟩, ?_, ?_, rfl⟩
  · obtain rfl := Option.some.inj hfile
    rw [hread] at hdeep
    cases hdeep
  · decide +kernel
  · decide +kernel

end Example

end RegistryFile

end TransparencyLog
