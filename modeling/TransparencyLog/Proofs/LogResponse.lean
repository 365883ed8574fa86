import TransparencyLog.Proofs.Json.Names
import TransparencyLog.Proofs.Pairing
import TransparencyLog.Proofs.Record.Growth
import Mathlib.Data.List.Nodup

/-!
Answers of a log are read by their shape. All places where a document violates it are listed in the
order of the document (`violations`), and reading goes through them in this order: it fails for the
first one (`failsAtFirst_ofValue`), and where there is none, the response has what stands in the
document (`ofValue_outcome`).
-/

namespace TransparencyLog

section First

variable {ε α β : Type} {place : ε → Option String} {violations : List String}

/-- What fails for the first of some violations, and succeeds where there is none. -/
def FailsAtFirst (place : ε → Option String) (violations : List String) (result : Except ε α) :
    Prop :=
  match result with
  | .ok _ => violations = []
  | .error fault => ∃ first rest, place fault = some first ∧ violations = first :: rest

theorem failsAtFirst_error {fault : ε} {path : String} (h : place fault = some path) :
    FailsAtFirst place [path] (.error fault : Except ε α) :=
  ⟨path, [], h, rfl⟩

theorem failsAtFirst_bind {back : List String} {x : Except ε α} {f : α → Except ε β}
    (h : FailsAtFirst place violations x)
    (hf : ∀ a, x = .ok a → FailsAtFirst place back (f a)) :
    FailsAtFirst place (violations ++ back) (x >>= f) := by
  cases x with
  | ok a =>
      obtain rfl : violations = [] := h
      exact hf a rfl
  | error fault =>
      obtain ⟨first, rest, hplace, rfl⟩ := h
      exact ⟨first, rest ++ back, hplace, rfl⟩

theorem failsAtFirst_return {x : Except ε α} (f : α → β) (h : FailsAtFirst place violations x) :
    FailsAtFirst place violations (x >>= fun a => pure (f a)) := by
  cases x with
  | ok a => exact h
  | error fault => exact h

theorem failsAtFirst_mapError {ε' : Type} {place' : ε' → Option String} {x : Except ε α}
    (f : ε → ε') (hplace : ∀ fault, place' (f fault) = place fault)
    (h : FailsAtFirst place violations x) : FailsAtFirst place' violations (x.mapError f) := by
  cases x with
  | ok a => exact h
  | error fault =>
      obtain ⟨first, rest, hfirst, rfl⟩ := h
      exact ⟨first, rest, (hplace fault).trans hfirst, rfl⟩

theorem FailsAtFirst.eq_nil_iff {result : Except ε α} (h : FailsAtFirst place violations result) :
    violations = [] ↔ ∃ a, result = .ok a := by
  cases result with
  | ok a => exact iff_of_true h ⟨a, rfl⟩
  | error fault =>
      obtain ⟨first, rest, -, rfl⟩ := h
      simp

end First

/-- What the path of a fault is followed by where a member is at fault. -/
def DocumentFlaw.suffix : DocumentFlaw → String
  | .missing name | .notText name _ | .notBase64 name _ => "." ++ name
  | _ => ""

theorem DocumentFlaw.exists_message_eq (flaw : DocumentFlaw) :
    ∃ rest, flaw.message = flaw.suffix ++ (": " ++ rest) := by
  cases flaw with
  | unreadable flaw line column position => exact ⟨"invalid JSON: " ++ _, rfl⟩
  | undecodable fault => exact ⟨"invalid JSON: " ++ fault.message, rfl⟩
  | notObject typeName => exact ⟨"expected object, got " ++ typeName, rfl⟩
  | noObject => exact ⟨"expected object", rfl⟩
  | missing name => exact ⟨"missing", rfl⟩
  | notText name typeName =>
      exact ⟨"expected string, got " ++ typeName, String.append_assoc ..⟩
  | notBase64 name fault =>
      exact ⟨"not valid base64: " ++ fault.message, String.append_assoc ..⟩
  | notList typeName => exact ⟨"expected list of records, got " ++ typeName, rfl⟩
  | noEntry quoted => exact ⟨"no entry for " ++ quoted, rfl⟩

namespace DocumentFault

/-- The place of a fault: a value, or a member of it. -/
def place (fault : DocumentFault) : String :=
  fault.path ++ fault.flaw.suffix

theorem place_eq_path {path : String} {flaw : DocumentFlaw} (h : flaw.suffix = "") :
    place ⟨path, flaw⟩ = path := by
  rw [place, h, String.append_empty]

theorem exists_message_eq (fault : DocumentFault) :
    ∃ rest, fault.message = fault.place ++ ": " ++ rest := by
  obtain ⟨rest, hrest⟩ := fault.flaw.exists_message_eq
  refine ⟨rest, ?_⟩
  rw [message, place, hrest, String.append_assoc, String.append_assoc]

end DocumentFault

namespace LogRecord

/-- The place of a member that is missing or no text. -/
def memberViolations (path : String) (members : List (Value × Value)) (name : String) :
    List String :=
  match Value.lookup? name members with
  | some (.str _) => []
  | _ => [path ++ ("." ++ name)]

/-- The place of the content if it is a text, but not in base64. -/
def contentViolations (path : String) (members : List (Value × Value)) : List String :=
  match Value.lookup? "contentBytes" members with
  | some (.str text) =>
      match Base64.decode text with
      | .ok _ => []
      | .error _ => [path ++ ("." ++ "contentBytes")]
  | _ => []

/-- The places where a value violates the shape of a record. -/
def violations (path : String) : Value → List String
  | .map members =>
      ["contentBytes", "keyId", "signature"].flatMap (memberViolations path members) ++
        contentViolations path members
  | _ => [path]

/-- The shape of a record: an object with three texts, the first of them in base64. -/
def IsForm (value : Value) : Prop :=
  ∃ members content keyId signature octets, value = .map members ∧
    Value.lookup? "contentBytes" members = some (.str content) ∧
    Value.lookup? "keyId" members = some (.str keyId) ∧
    Value.lookup? "signature" members = some (.str signature) ∧
    Base64.decode content = .ok octets

theorem exists_isRead_iff {value : Value} : (∃ record, IsRead value record) ↔ IsForm value := by
  constructor
  · rintro ⟨record, members, content, h⟩
    exact ⟨members, content, record.keyId, record.signature, record.content, h⟩
  · rintro ⟨members, content, keyId, signature, octets, h⟩
    exact ⟨⟨octets, keyId, signature⟩, members, content, h⟩

theorem failsAtFirst_textMember (path : String) (members : List (Value × Value)) (name : String) :
    FailsAtFirst (some ·.place) (memberViolations path members name)
      (textMember path members name) := by
  rw [memberViolations.eq_def, textMember]
  cases Value.lookup? name members with
  | none => exact failsAtFirst_error rfl
  | some value =>
      cases value with
      | str text => rfl
      | _ => exact failsAtFirst_error rfl

theorem failsAtFirst_ofMembers (path : String) (members : List (Value × Value)) :
    FailsAtFirst (some ·.place) (violations path (.map members)) (ofMembers path members) := by
  have hviolations : violations path (.map members) =
      memberViolations path members "contentBytes" ++ (memberViolations path members "keyId" ++
        (memberViolations path members "signature" ++ contentViolations path members)) := by
    simp [violations]
  rw [hviolations, ofMembers]
  refine failsAtFirst_bind (failsAtFirst_textMember path members _) fun content hcontent => ?_
  refine failsAtFirst_bind (failsAtFirst_textMember path members _) fun keyId _ => ?_
  refine failsAtFirst_bind (failsAtFirst_textMember path members _) fun signature _ => ?_
  -- the content is looked at again, now that it is known to be a text
  rw [contentViolations, textMember_eq_ok_iff.mp hcontent]
  dsimp only
  cases Base64.decode content with
  | ok octets => rfl
  | error fault => exact failsAtFirst_error rfl

theorem failsAtFirst_ofValue (path : String) (value : Value) :
    FailsAtFirst (some ·.place) (violations path value) (ofValue path value) := by
  cases value with
  | map members => exact failsAtFirst_ofMembers path members
  | _ => exact failsAtFirst_error (congrArg some (DocumentFault.place_eq_path rfl))

end LogRecord

namespace LogResponse

/-- The place of a fault, if it is one of the document. -/
def Fault.place? : Fault → Option String
  | .document fault => some fault.place
  | .unquotable _ => none

/-- The path of what stands under a digest. -/
def packagePath (digest : LooseText) : String :=
  packagesPath ++ "[" ++ Text.quoted digest ++ "]"

/-- The path of an item of a list. -/
def itemPath (path : String) (index : Nat) : String :=
  path ++ "[" ++ toString index ++ "]"

/-- The places where a value violates the shape of a list of records, one record after the other. -/
def packageViolations (path : String) : Value → List String
  | .list items =>
      items.zipIdx.flatMap fun (item, index) => LogRecord.violations (itemPath path index) item
  | _ => [path]

def entryViolations : Value × Value → List String
  | (.str digest, value) => packageViolations (packagePath digest) value
  | _ => []

/-- The places where a document whose keys are texts violates the shape of an answer, in the order
of the document. -/
def violations : Value → List String
  | .map members =>
      match Value.lookup? "packages" members with
      | some (.map packages) => packages.flatMap entryViolations
      | _ => [packagesPath]
  | _ => ["logs"]

variable {document : Value} {members packages : List (Value × Value)}

theorem failsAtFirst_readRecords (path : String) (start : Nat) (items : List Value) :
    FailsAtFirst (some ·.place)
      ((items.zipIdx start).flatMap fun (item, index) =>
        LogRecord.violations (itemPath path index) item)
      (readRecords path start items) := by
  induction items generalizing start with
  | nil => rfl
  | cons item items ih =>
      rw [readRecords, List.zipIdx_cons, List.flatMap_cons]
      refine failsAtFirst_bind (LogRecord.failsAtFirst_ofValue _ item) fun record _ => ?_
      exact failsAtFirst_return _ (ih (start + 1))

theorem failsAtFirst_readPackage (path : String) (value : Value) :
    FailsAtFirst (some ·.place) (packageViolations path value) (readPackage path value) := by
  cases value with
  | list items => exact failsAtFirst_readRecords path 0 items
  | _ => exact failsAtFirst_error (congrArg some (DocumentFault.place_eq_path rfl))

theorem readPackages_cons_str (digest : LooseText) (value : Value) :
    readPackages ((.str digest, value) :: packages) =
      ((readPackage (packagePath digest) value).mapError .document >>= fun records =>
        readPackages packages >>= fun rest => pure ((.str digest, records) :: rest)) := by
  have hquote : (Value.str digest).quote = .ok (Text.quoted digest) := rfl
  have hpath : s!"{packagesPath}[{Text.quoted digest}]" = packagePath digest := rfl
  rw [readPackages, hquote]
  dsimp only
  rw [hpath]
  cases readPackage (packagePath digest) value with
  | error fault => rfl
  | ok records => rfl

theorem failsAtFirst_readPackages (h : ∀ entry ∈ packages, ∃ name, entry.1 = .str name) :
    FailsAtFirst Fault.place? (packages.flatMap entryViolations) (readPackages packages) := by
  induction packages with
  | nil => rfl
  | cons entry packages ih =>
      obtain ⟨⟨name, hname⟩, hrest⟩ := List.forall_mem_cons.mp h
      obtain ⟨digest, value⟩ := entry
      obtain rfl : digest = .str name := hname
      rw [readPackages_cons_str, List.flatMap_cons, entryViolations]
      refine failsAtFirst_bind ?_ fun records _ => failsAtFirst_return _ (ih hrest)
      exact failsAtFirst_mapError _ (fun _ => rfl) (failsAtFirst_readPackage _ value)

theorem exists_name_of_lookup? (h : Json.IsNamed (.map members))
    (hpackages : Value.lookup? "packages" members = some (.map packages)) :
    ∀ entry ∈ packages, ∃ name, entry.1 = .str name := by
  obtain ⟨front, back, rfl, -⟩ := Value.exists_of_lookup? hpackages
  cases h with
  | map hname hvalue =>
      have hinner := hvalue (.str "packages", .map packages) (by simp)
      cases hinner with
      | map hname hvalue => exact hname

theorem failsAtFirst_ofValue (h : Json.IsNamed document) :
    FailsAtFirst Fault.place? (violations document) (ofValue document) := by
  cases document with
  | map members =>
      rw [violations, ofValue]
      cases hpackages : Value.lookup? "packages" members with
      | none => exact failsAtFirst_error (congrArg some (DocumentFault.place_eq_path rfl))
      | some value =>
          cases value with
          | map packages =>
              have hnames := exists_name_of_lookup? h hpackages
              exact failsAtFirst_return _ (failsAtFirst_readPackages hnames)
          | _ => exact failsAtFirst_error (congrArg some (DocumentFault.place_eq_path rfl))
  | _ => exact failsAtFirst_error (congrArg some (DocumentFault.place_eq_path rfl))

theorem ofValue_ne_unquotable (h : Json.IsNamed document) (fault : Value.QuoteFault) :
    ofValue document ≠ .error (.unquotable fault) := by
  intro hread
  have hfirst := failsAtFirst_ofValue h
  rw [hread] at hfirst
  obtain ⟨first, rest, hplace, -⟩ := hfirst
  cases hplace

theorem recordsOfPackage_eq_ok_iff {digest : LooseText} {records : List LogRecord} :
    recordsOfPackage document digest = .ok records ↔
      ∃ response, ofValue document = .ok response ∧ response.records? digest = some records := by
  rw [recordsOfPackage, bind_eq_ok_iff]
  refine exists_congr fun response => and_congr_right fun _ => ?_
  cases response.records? digest with
  | none => simp
  | some found => simp [pure, Except.pure]

/-- The shape of an answer: an object whose member `packages` is an object of lists of records. -/
def IsAnswer (document : Value) : Prop :=
  ∃ members packages, document = .map members ∧
    Value.lookup? "packages" members = some (.map packages) ∧
    ∀ entry ∈ packages, ∃ items, entry.2 = .list items ∧ ∀ item ∈ items, LogRecord.IsForm item

/-- The records of the items under a digest, in their order. -/
def HasRecords (entry : Value × Value) (package : Value × List LogRecord) : Prop :=
  package.1 = entry.1 ∧
    ∃ items, entry.2 = .list items ∧ List.Forall₂ LogRecord.IsRead items package.2

/-- A response has the packages of a document under the same digests in the same order, each with
its records. -/
def Represents (response : LogResponse) (document : Value) : Prop :=
  ∃ members packages, document = .map members ∧
    Value.lookup? "packages" members = some (.map packages) ∧
    List.Forall₂ HasRecords packages response.packages

variable {response : LogResponse}

theorem ofValue_eq_ok_iff (h : Json.IsNamed document) :
    ofValue document = .ok response ↔ response.Represents document := by
  constructor
  · intro hread
    cases document with
    | map members =>
        obtain ⟨packages, hpackages, hforall⟩ := ofValue_map_eq_ok_iff.mp hread
        exact ⟨members, packages, rfl, hpackages,
          hforall.imp fun entry package hpackage => ⟨hpackage.digest, hpackage.records⟩⟩
    | _ => cases hread
  · rintro ⟨members, packages, rfl, hpackages, hforall⟩
    have hnames := exists_name_of_lookup? h hpackages
    refine ofValue_map_eq_ok_iff.mpr ⟨packages, hpackages, ?_⟩
    refine (forall₂_and_mem hforall).imp fun entry package hpackage => ?_
    obtain ⟨⟨hentry, -⟩, hdigest, hrecords⟩ := hpackage
    obtain ⟨name, hname⟩ := hnames entry hentry
    exact ⟨hdigest, ⟨Text.quoted name, by rw [hname]; rfl⟩, hrecords⟩

theorem exists_hasRecords_iff {entry : Value × Value} :
    (∃ package, HasRecords entry package) ↔
      ∃ items, entry.2 = .list items ∧ ∀ item ∈ items, LogRecord.IsForm item := by
  simp only [← LogRecord.exists_isRead_iff, ← exists_forall₂_iff]
  constructor
  · rintro ⟨⟨_, records⟩, -, items, hitems, hrecords⟩
    exact ⟨items, hitems, records, hrecords⟩
  · rintro ⟨items, hitems, records, hrecords⟩
    exact ⟨(entry.1, records), rfl, items, hitems, hrecords⟩

theorem exists_represents_iff :
    (∃ response : LogResponse, response.Represents document) ↔ IsAnswer document := by
  simp only [IsAnswer, ← exists_hasRecords_iff, ← exists_forall₂_iff]
  constructor
  · rintro ⟨response, members, packages, hdocument, hpackages, hforall⟩
    exact ⟨members, packages, hdocument, hpackages, response.packages, hforall⟩
  · rintro ⟨members, packages, hdocument, hpackages, read, hread⟩
    exact ⟨⟨read⟩, members, packages, hdocument, hpackages, hread⟩

/-- A document whose keys are texts is read if and only if it has the shape of an answer, and the
response has what stands in it. Otherwise the message names the first place that violates the shape,
where the places stand in the order of the document: the packages, their items, in an item the
members that are missing or no texts, and then its base64. -/
theorem ofValue_outcome (h : Json.IsNamed document) :
    ((∃ response, ofValue document = .ok response) ↔ IsAnswer document) ∧
      (∀ response, ofValue document = .ok response ↔ response.Represents document) ∧
      (IsAnswer document ↔ violations document = []) ∧
      (¬ IsAnswer document → ∃ fault first rest text,
        ofValue document = .error (.document fault) ∧ violations document = first :: rest ∧
          fault.message = first ++ ": " ++ text) := by
  have hread : (∃ response, ofValue document = .ok response) ↔ IsAnswer document := by
    simp only [ofValue_eq_ok_iff h]
    exact exists_represents_iff
  have hfirst := failsAtFirst_ofValue h
  refine ⟨hread, fun response => ofValue_eq_ok_iff h, hread.symm.trans hfirst.eq_nil_iff.symm, ?_⟩
  intro hnot
  cases hresult : ofValue document with
  | ok response => exact absurd (hread.mp ⟨response, hresult⟩) hnot
  | error fault =>
      rw [hresult] at hfirst
      obtain ⟨first, rest, hplace, hviolations⟩ := hfirst
      cases fault with
      | document fault =>
          obtain rfl := Option.some.inj hplace
          obtain ⟨text, hmessage⟩ := fault.exists_message_eq
          exact ⟨fault, fault.place, rest, text, rfl, hviolations, hmessage⟩
      | unquotable fault => exact absurd hresult (ofValue_ne_unquotable h fault)

section Example

/-- A document with four violations: in one record a key id that is no text and a content that is
not in base64, after it an item that is no record, and a package that is no list. -/
def brokenDocument : Value :=
  .object [("packages", .object [
    ("c", .list []),
    ("a", .list [
      .object [("signature", .str "s"), ("keyId", .int 5), ("contentBytes", .str "?")], .int 7]),
    ("b", .null)])]

theorem isNamed_brokenDocument : Json.IsNamed brokenDocument := by
  have hrecord : Json.IsNamed (.object [("signature", .str "s"), ("keyId", .int 5),
      ("contentBytes", .str "?")]) :=
    .map (by simp) (by simp [Json.IsNamed.str, Json.IsNamed.int])
  have hpackage : Json.IsNamed (.list [.object [("signature", .str "s"), ("keyId", .int 5),
      ("contentBytes", .str "?")], .int 7]) :=
    .list (by simp [hrecord, Json.IsNamed.int])
  have hempty : Json.IsNamed (.list []) := .list (by simp)
  exact .map (by simp) (by
    simp only [List.map_cons, List.map_nil, List.mem_singleton, forall_eq]
    exact .map (by simp) (by simp [hempty, hpackage, Json.IsNamed.null]))

/-- The message names the key id, which stands before the content in the order of the members that
are looked for. -/
theorem exists_message_brokenDocument :
    ∃ fault text, ofValue brokenDocument = .error (.document fault) ∧
      fault.message = "logs.packages['a'][0].keyId" ++ ": " ++ text := by
  have hviolations : violations brokenDocument = ["logs.packages['a'][0].keyId",
      "logs.packages['a'][0].contentBytes", "logs.packages['a'][1]", "logs.packages['b']"] := by
    decide +kernel
  obtain ⟨-, -, hshape, hfirst⟩ := ofValue_outcome isNamed_brokenDocument
  have hnot : ¬ IsAnswer brokenDocument := by
    intro hanswer
    rw [hshape.mp hanswer] at hviolations
    cases hviolations
  obtain ⟨fault, first, rest, text, hread, hlist, hmessage⟩ := hfirst hnot
  obtain ⟨rfl, -⟩ := List.cons.inj (hlist.symm.trans hviolations)
  exact ⟨fault, text, hread, hmessage⟩

end Example

end LogResponse

end TransparencyLog
