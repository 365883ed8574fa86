import TransparencyLog.Proofs.Bytes.Base64
import TransparencyLog.Proofs.Json.Document
import TransparencyLog.Record.Appending
import Mathlib.Data.List.Forall2

namespace TransparencyLog

/-- One item comes to the end of the list under a key, and to the given place in that list. A key
that is not there comes last. Lists stand under their keys in some wrapping. -/
inductive Grows {α β : Type} (wrap : List α → β) (key : Value) (item : α) :
    List (Value × β) → List (Value × β) → Nat → Prop
  | added {entries : List (Value × β)} (absent : ∀ entry ∈ entries, entry.1 ≠ key) :
      Grows wrap key item entries (entries ++ [(key, wrap [item])]) 0
  | extended {before after : List (Value × β)} {items : List α}
      (absent : ∀ entry ∈ before, entry.1 ≠ key) :
      Grows wrap key item (before ++ (key, wrap items) :: after)
        (before ++ (key, wrap (items ++ [item])) :: after) items.length

theorem Grows.cons {α β : Type} {wrap : List α → β} {key : Value} {item : α}
    {entries entries' : List (Value × β)} {index : Nat}
    (h : Grows wrap key item entries entries' index) {entry : Value × β} (hne : entry.1 ≠ key) :
    Grows wrap key item (entry :: entries) (entry :: entries') index := by
  cases h with
  | added absent => exact .added (List.forall_mem_cons.mpr ⟨hne, absent⟩)
  | extended absent => exact .extended (List.forall_mem_cons.mpr ⟨hne, absent⟩)

theorem Value.sameKey_str_iff {key : Value} {name : LooseText} :
    key.sameKey (.str name) = true ↔ key = .str name := by
  cases key <;> simp [sameKey]

theorem Value.lookup?_append {name : LooseText} {value : Value} {front back : List (Value × Value)}
    (h : ∀ entry ∈ front, entry.1 ≠ .str name) :
    lookup? name (front ++ (.str name, value) :: back) = some value := by
  induction front with
  | nil => simp [lookup?]
  | cons entry front ih =>
      obtain ⟨key, other⟩ := entry
      have hkey : key ≠ .str name := h (key, other) (by simp)
      have hrest := ih fun entry hentry => h entry (by simp [hentry])
      cases key with
      | str text =>
          have htext : text ≠ name := fun heq => hkey (congrArg Value.str heq)
          rw [List.cons_append, lookup?, if_neg htext, hrest]
      | _ => simpa [lookup?] using hrest

theorem Value.exists_of_lookup? {name : LooseText} {value : Value} {members : List (Value × Value)}
    (h : lookup? name members = some value) :
    ∃ front back, members = front ++ (.str name, value) :: back ∧
      ∀ entry ∈ front, entry.1 ≠ .str name := by
  induction members with
  | nil => cases h
  | cons entry members ih =>
      by_cases hkey : entry.1 = .str name
      · obtain ⟨key, other⟩ := entry
        obtain rfl : key = .str name := hkey
        rw [lookup?, if_pos rfl] at h
        obtain rfl := Option.some.inj h
        exact ⟨[], members, rfl, by simp⟩
      · have hrest : lookup? name members = some value := by
          obtain ⟨key, other⟩ := entry
          cases key with
          | str text =>
              have htext : text ≠ name := fun heq => hkey (congrArg Value.str heq)
              rwa [lookup?, if_neg htext] at h
          | _ => simpa [lookup?] using h
        obtain ⟨front, back, rfl, hfront⟩ := ih hrest
        exact ⟨entry :: front, back, rfl, List.forall_mem_cons.mpr ⟨hkey, hfront⟩⟩

namespace LogRecord

theorem ofValue_toValue (path : String) (record : LogRecord) :
    ofValue path record.toValue = .ok record := by
  simp [toValue, ofValue, Value.object, ofMembers, textMember, Value.lookup?, Base64.decode_encode,
    pure, Except.pure]

theorem ofMembers_eq_ok_iff {path : String} {members : List (Value × Value)} {record : LogRecord} :
    ofMembers path members = .ok record ↔
      ∃ content, textMember path members "contentBytes" = .ok content ∧
        textMember path members "keyId" = .ok record.keyId ∧
        textMember path members "signature" = .ok record.signature ∧
        Base64.decode content = .ok record.content := by
  simp only [ofMembers, bind_eq_ok_iff]
  constructor
  · rintro ⟨content, hcontent, keyId, hkeyId, signature, hsignature, h⟩
    split at h
    · cases h
    · rename_i octets hdecode
      obtain rfl := Except.ok.inj h
      exact ⟨content, hcontent, hkeyId, hsignature, hdecode⟩
  · rintro ⟨content, hcontent, hkeyId, hsignature, hdecode⟩
    refine ⟨content, hcontent, _, hkeyId, _, hsignature, ?_⟩
    rw [hdecode]
    rfl

theorem textMember_eq_ok_iff {path name : String} {text : LooseText}
    {members : List (Value × Value)} :
    textMember path members name = .ok text ↔ Value.lookup? name members = some (.str text) := by
  unfold textMember
  split
  · simp [*]
  · simp [*]
  · rename_i value hvalue hlookup
    rw [hlookup]
    simpa using hvalue text

/-- A record is read from a value, wherever that stands. -/
def IsRead (value : Value) (record : LogRecord) : Prop :=
  ∃ members content, value = .map members ∧
    Value.lookup? "contentBytes" members = some (.str content) ∧
    Value.lookup? "keyId" members = some (.str record.keyId) ∧
    Value.lookup? "signature" members = some (.str record.signature) ∧
    Base64.decode content = .ok record.content

theorem ofValue_eq_ok_iff {path : String} {value : Value} {record : LogRecord} :
    ofValue path value = .ok record ↔ IsRead value record := by
  cases value with
  | map members =>
      rw [ofValue, ofMembers_eq_ok_iff]
      simp only [textMember_eq_ok_iff]
      constructor
      · rintro ⟨content, h⟩
        exact ⟨members, content, rfl, h⟩
      · rintro ⟨_, content, hvalue, h⟩
        obtain rfl := Value.map.inj hvalue
        exact ⟨content, h⟩
  | _ => simp [ofValue, IsRead]

theorem isRead_toValue (record : LogRecord) : IsRead record.toValue record :=
  ofValue_eq_ok_iff.mp (record.ofValue_toValue "")

theorem isDocument_toValue (record : LogRecord) : Json.IsDocument record.toValue := by
  refine Json.isDocument_object (by simp) ?_
  intro member hmember
  simp only [List.mem_cons, List.not_mem_nil, or_false] at hmember
  rcases hmember with rfl | rfl | rfl
  · exact .str _
  · exact .str _
  · exact .str _

end LogRecord

namespace LogResponse

variable {package : LooseText} {record : LogRecord} {members packages : List (Value × Value)}
  {read : List (Value × List LogRecord)} {index : Nat}

theorem readRecords_eq_ok_iff {path : String} {start : Nat} {entries : List Value}
    {records : List LogRecord} :
    readRecords path start entries = .ok records ↔
      List.Forall₂ LogRecord.IsRead entries records := by
  induction entries generalizing start records with
  | nil =>
      rw [readRecords, List.forall₂_nil_left_iff]
      simp [eq_comm]
  | cons entry entries ih =>
      simp only [readRecords, bind_eq_ok_iff, LogRecord.ofValue_eq_ok_iff, ih,
        List.forall₂_cons_left_iff]
      constructor
      · rintro ⟨record, hrecord, rest, hrest, h⟩
        exact ⟨record, rest, hrecord, hrest, (Except.ok.inj h).symm⟩
      · rintro ⟨record, rest, hrecord, hrest, rfl⟩
        exact ⟨record, hrecord, rest, hrest, rfl⟩

/-- The records of a package are read from its entry. -/
structure IsReadPackage (entry : Value × Value) (package : Value × List LogRecord) : Prop where
  digest : package.1 = entry.1
  quotable : ∃ quoted, entry.1.quote = .ok quoted
  records : ∃ items, entry.2 = .list items ∧ List.Forall₂ LogRecord.IsRead items package.2

theorem readPackage_eq_ok_iff {path : String} {value : Value} {records : List LogRecord} :
    readPackage path value = .ok records ↔
      ∃ items, value = .list items ∧ List.Forall₂ LogRecord.IsRead items records := by
  cases value with
  | list items => simp [readPackage, readRecords_eq_ok_iff]
  | _ => simp [readPackage]

theorem readPackages_eq_ok_iff :
    readPackages packages = .ok read ↔ List.Forall₂ IsReadPackage packages read := by
  induction packages generalizing read with
  | nil =>
      rw [readPackages, List.forall₂_nil_left_iff]
      simp [eq_comm]
  | cons entry packages ih =>
      obtain ⟨digest, entries⟩ := entry
      rw [readPackages, List.forall₂_cons_left_iff]
      constructor
      · intro h
        split at h
        · cases h
        · rename_i quoted hquoted
          split at h
          · cases h
          · rename_i records hrecords
            obtain ⟨rest, hrest, h⟩ := bind_eq_ok_iff.mp h
            exact ⟨_, rest, ⟨rfl, ⟨quoted, hquoted⟩, readPackage_eq_ok_iff.mp hrecords⟩,
              ih.mp hrest, (Except.ok.inj h).symm⟩
      · rintro ⟨⟨_, records⟩, rest, ⟨rfl, ⟨quoted, hquoted⟩, hrecords⟩, hrest, rfl⟩
        rw [hquoted]
        dsimp only at hrecords ⊢
        rw [readPackage_eq_ok_iff.mpr hrecords]
        dsimp only
        rw [ih.mpr hrest]
        rfl

theorem ofValue_map_eq_ok_iff {response : LogResponse} :
    ofValue (.map members) = .ok response ↔
      ∃ packages, Value.lookup? "packages" members = some (.map packages) ∧
        List.Forall₂ IsReadPackage packages response.packages := by
  rw [ofValue]
  split
  · rename_i packages hpackages
    simp only [bind_eq_ok_iff, readPackages_eq_ok_iff, hpackages]
    constructor
    · rintro ⟨read, hread, h⟩
      obtain rfl := Except.ok.inj h
      exact ⟨packages, rfl, hread⟩
    · rintro ⟨_, heq, hread⟩
      obtain rfl := Value.map.inj (Option.some.inj heq)
      exact ⟨_, hread, rfl⟩
  · rename_i hother
    constructor
    · intro h
      cases h
    · rintro ⟨packages, hpackages, -⟩
      exact absurd hpackages (hother packages)

/-- A document with one item more under a package, and all else as it was. -/
inductive GrowsBy (package : LooseText) (item : Value) : Value → Value → Nat → Prop
  | intro {front back packages packages' : List (Value × Value)} {index : Nat}
      (absent : ∀ entry ∈ front, entry.1 ≠ .str "packages")
      (grows : Grows Value.list (.str package) item packages packages' index) :
      GrowsBy package item (.map (front ++ (.str "packages", .map packages) :: back))
        (.map (front ++ (.str "packages", .map packages') :: back)) index

end LogResponse

section Document

open Json Value

variable {package : LooseText} {item document document' : Value}
  {entries entries' front back : List (Value × Value)} {key value value' : Value} {index n : Nat}

theorem isDocument_map_iff :
    IsDocument (.map entries) ↔ (∀ entry ∈ entries, ∃ name, entry.1 = .str name) ∧
      KeysDistinct entries ∧ ∀ entry ∈ entries, IsDocument entry.2 := by
  constructor
  · intro h
    cases h with
    | map hnames hkeys hvalues => exact ⟨hnames, hkeys, hvalues⟩
  · rintro ⟨hnames, hkeys, hvalues⟩
    exact .map hnames hkeys hvalues

theorem isDocument_replace (h : IsDocument (.map (front ++ (key, value) :: back)))
    (hvalue : IsDocument value') : IsDocument (.map (front ++ (key, value') :: back)) := by
  obtain ⟨hnames, hkeys, hvalues⟩ := isDocument_map_iff.mp h
  simp only [List.mem_append, List.mem_cons] at hnames hvalues
  refine isDocument_map_iff.mpr ⟨fun entry hentry => ?_, ?_, fun entry hentry => ?_⟩
  · rcases List.mem_append.mp hentry with hfront | hback
    · exact hnames entry (.inl hfront)
    · rcases List.mem_cons.mp hback with rfl | hback
      · exact hnames (key, value) (.inr (.inl rfl))
      · exact hnames entry (.inr (.inr hback))
  · -- the keys are the same ones
    rw [KeysDistinct, ← List.pairwise_map (f := Prod.fst) (R := fun a b => sameKey a b = false)]
      at hkeys ⊢
    simpa using hkeys
  · rcases List.mem_append.mp hentry with hfront | hback
    · exact hvalues entry (.inl hfront)
    · rcases List.mem_cons.mp hback with rfl | hback
      · exact hvalue
      · exact hvalues entry (.inr (.inr hback))

theorem isDocument_list_append {items : List Value} (h : IsDocument (.list items))
    (hitem : IsDocument item) : IsDocument (.list (items ++ [item])) := by
  cases h with
  | list hitems =>
      refine .list fun other hother => ?_
      rcases List.mem_append.mp hother with hother | hother
      · exact hitems other hother
      · rw [List.mem_singleton.mp hother]
        exact hitem

theorem Grows.isDocument (h : Grows Value.list (.str package) item entries entries' index)
    (hentries : IsDocument (.map entries)) (hitem : IsDocument item) :
    IsDocument (.map entries') := by
  cases h with
  | added absent =>
      obtain ⟨hnames, hkeys, hvalues⟩ := isDocument_map_iff.mp hentries
      refine isDocument_map_iff.mpr ⟨fun entry hentry => ?_, ?_, fun entry hentry => ?_⟩
      · rcases List.mem_append.mp hentry with hentry | hentry
        · exact hnames entry hentry
        · exact ⟨package, by rw [List.mem_singleton.mp hentry]⟩
      · refine List.pairwise_append.mpr ⟨hkeys, List.pairwise_singleton _ _, ?_⟩
        intro entry hentry last hlast
        rw [List.mem_singleton.mp hlast]
        exact Bool.eq_false_iff.mpr fun hsame => absent entry hentry (sameKey_str_iff.mp hsame)
      · rcases List.mem_append.mp hentry with hentry | hentry
        · exact hvalues entry hentry
        · rw [List.mem_singleton.mp hentry]
          exact .list (List.forall_mem_singleton.mpr hitem)
  | extended absent =>
      have hitems := (isDocument_map_iff.mp hentries).2.2 _
        (List.mem_append_right _ List.mem_cons_self)
      exact isDocument_replace hentries (isDocument_list_append hitems hitem)

namespace LogResponse

theorem GrowsBy.isDocument (h : GrowsBy package item document document' index)
    (hdocument : IsDocument document) (hitem : IsDocument item) : IsDocument document' := by
  obtain ⟨absent, hgrows⟩ := h
  have hpackages := (isDocument_map_iff.mp hdocument).2.2 _
    (List.mem_append_right _ List.mem_cons_self)
  exact isDocument_replace hdocument (hgrows.isDocument hpackages hitem)

end LogResponse

end Document

end TransparencyLog
