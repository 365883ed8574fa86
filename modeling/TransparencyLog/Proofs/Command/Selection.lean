import TransparencyLog.Proofs.Command.ValidateRecords
import TransparencyLog.Proofs.LogResponse

namespace TransparencyLog

namespace LogResponse

open Command.Run (named)

/-- The packages of an answer that are asked for: the one under a digest, or all of them. -/
def Selects (response : LogResponse) (digest? : Option String)
    (packages : List (LooseText × List LogRecord)) : Prop :=
  match digest? with
  | some digest => ∃ records, response.records? digest = some records ∧
      packages = [(.whole digest, records)]
  | none => response.packages = packages.map named

theorem Selects.exists_entry {response : LogResponse} {digest? : Option String}
    {packages : List (LooseText × List LogRecord)} (h : response.Selects digest? packages)
    {package : LooseText × List LogRecord} (hpackage : package ∈ packages) :
    ∃ entry ∈ response.packages, entry.2 = package.2 := by
  cases digest? with
  | none =>
      have hpackages : response.packages = packages.map named := h
      exact ⟨named package, hpackages ▸ List.mem_map_of_mem hpackage, rfl⟩
  | some digest =>
      obtain ⟨records, hrecords, rfl⟩ := h
      obtain rfl := List.mem_singleton.mp hpackage
      obtain ⟨entry, hentry, rfl⟩ := Option.map_eq_some_iff.mp hrecords
      exact ⟨entry, List.mem_of_find?_eq_some hentry, rfl⟩

section Named

variable {document : Value} {packages : List (Value × Value)}
  {read : List (Value × List LogRecord)}

theorem exists_eq_map_named (h : List.Forall₂ IsReadPackage packages read)
    (hnames : ∀ entry ∈ packages, ∃ name, entry.1 = .str name) :
    ∃ selected : List (LooseText × List LogRecord), read = selected.map named := by
  induction h with
  | nil => exact ⟨[], rfl⟩
  | @cons entry package packages read hentry _ ih =>
      obtain ⟨⟨name, hname⟩, hrest⟩ := List.forall_mem_cons.mp hnames
      obtain ⟨selected, rfl⟩ := ih hrest
      refine ⟨(name, package.2) :: selected, ?_⟩
      rw [List.map_cons, named, ← hname, ← hentry.digest]

theorem exists_packages_eq {response : LogResponse} (h : Json.IsNamed document)
    (hread : ofValue document = .ok response) :
    ∃ selected : List (LooseText × List LogRecord), response.packages = selected.map named := by
  cases document with
  | map members =>
      obtain ⟨packages, hpackages, hforall⟩ := ofValue_map_eq_ok_iff.mp hread
      exact exists_eq_map_named hforall (exists_name_of_lookup? h hpackages)
  | _ => cases hread

end Named

end LogResponse

namespace Command.Run

open LogResponse

variable {document : Value} {digest? : Option String}

theorem selectPackages_eq_ok {response : LogResponse} {packages : List (LooseText × List LogRecord)}
    (hread : ofValue document = .ok response) (h : response.Selects digest? packages) :
    selectPackages document digest? = .ok (packages.map named) := by
  cases digest? with
  | none =>
      have hpackages : response.packages = packages.map named := h
      rw [selectPackages, hread, ← hpackages]
      rfl
  | some digest =>
      obtain ⟨records, hrecords, rfl⟩ := h
      rw [selectPackages, recordsOfPackage_eq_ok_iff.mpr ⟨response, hread, hrecords⟩]
      rfl

theorem exists_selects_of_selectPackages {selected : List (Value × List LogRecord)}
    (hnamed : Json.IsNamed document) (h : selectPackages document digest? = .ok selected) :
    ∃ response packages, ofValue document = .ok response ∧ response.Selects digest? packages := by
  cases digest? with
  | none =>
      obtain ⟨response, hread, -⟩ := bind_eq_ok_iff.mp h
      obtain ⟨packages, hpackages⟩ := exists_packages_eq hnamed hread
      exact ⟨response, packages, hread, hpackages⟩
  | some digest =>
      obtain ⟨records, hrecords, -⟩ := bind_eq_ok_iff.mp h
      obtain ⟨response, hread, hfound⟩ := recordsOfPackage_eq_ok_iff.mp hrecords
      exact ⟨response, [(digest, records)], hread, records, hfound, rfl⟩

theorem recordsOfPackage_ne_unquotable (hnamed : Json.IsNamed document) (digest : String)
    (fault : Value.QuoteFault) : recordsOfPackage document digest ≠ .error (.unquotable fault) := by
  intro h
  rcases bind_eq_error_iff.mp h with hread | ⟨response, -, hfound⟩
  · exact ofValue_ne_unquotable hnamed fault hread
  · cases hrecords : response.records? digest with
    | none =>
        rw [hrecords] at hfound
        cases hfound
    | some records =>
        rw [hrecords] at hfound
        cases hfound

theorem selectPackages_ne_unquotable (hnamed : Json.IsNamed document) (fault : Value.QuoteFault) :
    selectPackages document digest? ≠ .error (.unquotable fault) := by
  intro h
  cases digest? with
  | none =>
      rcases bind_eq_error_iff.mp h with hread | ⟨_, -, hselected⟩
      · exact ofValue_ne_unquotable hnamed fault hread
      · cases hselected
  | some digest =>
      rcases bind_eq_error_iff.mp h with hrecords | ⟨_, -, hselected⟩
      · exact recordsOfPackage_ne_unquotable hnamed digest fault hrecords
      · cases hselected

end Command.Run

end TransparencyLog
