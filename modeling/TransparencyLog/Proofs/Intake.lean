import TransparencyLog.Proofs.Checkpoint.Transport
import TransparencyLog.Proofs.Json.LoneHalf
import TransparencyLog.Proofs.Json.Names
import TransparencyLog.Proofs.Json.RoundTrip

namespace TransparencyLog

namespace Json

/-- What may hold a document: a text, or octets. -/
def IsSource : Value → Prop
  | .str _ | .bytes _ => True
  | _ => False

/-- The code points of a text, and those of octets that have an encoding. -/
inductive Spells : Value → List CodePoint → Prop
  | str (text : LooseText) : Spells (.str text) text.codes
  | bytes {octets : Bytes} {cs : List CodePoint} (h : decodeUnknown octets = .ok cs) :
      Spells (.bytes octets) cs

/-- Reading stops at no list and no object that is nested too deep. -/
def IsShallow (source : Value) : Prop :=
  ∀ fault, load source ≠ .error (.tooDeep fault)

/-- Reading stops at no number that is too long. -/
def HasShortNumbers (source : Value) : Prop :=
  ∀ fault, load source ≠ .error (.overlong fault)

variable {source : Value}

theorem readDocument_of_loadBytes {octets : Bytes} {fault : Numeral.Overlong}
    (h : loadBytes octets = .error (.overlong fault)) :
    ∃ cs, decodeUnknown octets = .ok cs ∧ readDocument cs = .error (.overlong fault) := by
  unfold loadBytes at h
  split at h
  · cases h
  · rename_i cs hdecode
    split at h
    · cases h
    · rename_i stop hread
      cases stop with
      | overlong cause =>
          rw [LoadFault.overlong.inj (Except.error.inj h)] at hread
          exact ⟨cs, hdecode, hread⟩
      | flaw kind left => cases h
      | tooDeep cause => cases h

theorem hasShortNumbers_of_spells (hsource : IsSource source)
    (h : ∀ cs, Spells source cs → ¬ HasLongRun cs) : HasShortNumbers source := by
  intro fault hload
  cases source with
  | str text => exact h _ (.str text) (hasLongRun_of_loadText hload)
  | bytes octets =>
      obtain ⟨cs, hdecode, hread⟩ := readDocument_of_loadBytes hload
      exact h cs (.bytes hdecode) (hasLongRun_of_readDocument hread)
  | _ => exact hsource

theorem load_ne_notText (hsource : IsSource source) (typeName : String) :
    load source ≠ .error (.notText typeName) := by
  intro hload
  cases source with
  | str text =>
      obtain ⟨cause, hcause⟩ := exists_eq_ofRead_of_loadText hload
      cases cause <;> cases hcause
  | bytes octets =>
      rw [load, loadBytes] at hload
      split at hload
      · cases hload
      · split at hload
        · cases hload
        · rename_i stop hread
          cases stop <;> cases hload
  | _ => exact hsource

theorem loadText_numeral {cs : List Char} (hcs : ∀ c ∈ cs, c.isDigit = true)
    (hzero : cs.head? ≠ some '0') (hlong : Numeral.digitLimit < cs.length) :
    loadText (.whole (String.ofList cs)) = .error (.overlong (.read cs.length)) := by
  obtain _ | ⟨c, rest⟩ := cs
  · cases hlong
  have hends : EndsNumber [] := by simp [EndsNumber]
  obtain ⟨hc, hrest⟩ := List.forall_mem_cons.mp hcs
  have hwhole : wholeDigits? (.char c :: rest.map .char) = some (c :: rest, []) := by
    have hleading := leadingDigits_append hends hrest
    have hafter := afterDigits_append hends hrest
    rw [List.append_nil] at hleading hafter
    rw [wholeDigits?, digit?_char, if_pos hc, hleading, hafter]
    · rfl
    · intro h
      obtain rfl := CodePoint.char_injective h
      exact hzero rfl
  have hnumber : readAtom (.char c :: rest.map .char) =
      .error (.overlong (.read (c :: rest).length)) := by
    rw [readAtom_digit hc, readNumber, hwhole]
    dsimp only
    rw [places_of_ends hends]
    dsimp only
    rw [exponent?_of_ends hends]
    dsimp only
    rw [if_pos List.isEmpty_nil, Numeral.read, if_neg (Nat.not_le_of_lt hlong)]
  have hfirst : isGap (.char c) = false ∧
      CodePoint.char c ∉ [.char '"', .char '[', .char '\x7b'] ∧ c ≠ '\uFEFF' := by
    obtain ⟨d, hd, rfl⟩ := Numeral.exists_eq_digitChar hc
    interval_cases d <;> decide
  obtain ⟨hgap, hopening, hmark⟩ := hfirst
  have hread : readText (.char c :: rest.map .char) =
      .error (.overlong (.read (c :: rest).length)) := by
    rw [readText, if_neg (by simpa using hmark), readDocument, skip_cons hgap,
      readValue_atom hopening, hnumber]
    rfl
  rw [loadText, parse, LooseText.codes_whole, String.toList_ofList, List.map_cons, hread]
  rfl

end Json

/-- Whatever fails is put down to the document under a path. -/
def FailsAt {α : Type} (path : String) (result : Except IntakeFault α) : Prop :=
  ∀ fault, result = .error fault → ∃ flaw, fault = .document ⟨path, flaw⟩

variable {path : String} {source : Value}

open Json

theorem failsAt_loadDocument_iff (hsource : IsSource source) :
    FailsAt path (loadDocument path source) ↔ IsShallow source ∧ HasShortNumbers source := by
  rw [FailsAt, IsShallow, HasShortNumbers, loadDocument]
  cases hload : load source with
  | ok document => simp
  | error cause =>
      cases cause with
      | notText typeName => exact absurd hload (load_ne_notText hsource typeName)
      | _ => simp [IntakeFault.ofLoad]

namespace SignedCheckpoint

theorem path_of_textMember {members : List (Value × Value)} {name : String} {fault : DocumentFault}
    (h : textMember path members name = .error fault) : fault.path = path := by
  unfold textMember at h
  split at h
  · obtain rfl := Except.error.inj h
    rfl
  · cases h
  · obtain rfl := Except.error.inj h
    rfl

theorem path_of_textsOf {members : List (Value × Value)} {fault : DocumentFault}
    (h : textsOf members = .error fault) : fault.path = SignedCheckpoint.path := by
  rcases bind_eq_error_iff.mp h with h | ⟨contents, -, h⟩
  · exact path_of_textMember h
  rcases bind_eq_error_iff.mp h with h | ⟨keyId, -, h⟩
  · exact path_of_textMember h
  rcases bind_eq_error_iff.mp h with h | ⟨signature, -, h⟩
  · exact path_of_textMember h
  · cases h

/-- If the text is read as an object with the texts of a checkpoint, its contents are whole. -/
def HasWholeContents (text : LooseText) : Prop :=
  ∀ {members contents keyId signature}, load (.str text) = .ok (.map members) →
    textsOf members = .ok (contents, keyId, signature) → contents.IsWhole

theorem failsAt_ofMembers_iff {members : List (Value × Value)} :
    FailsAt SignedCheckpoint.path (ofMembers members) ↔
      ∀ {contents keyId signature}, textsOf members = .ok (contents, keyId, signature) →
        contents.IsWhole := by
  rw [FailsAt, ofMembers]
  cases htexts : textsOf members with
  | error cause =>
      refine iff_of_true (fun fault h => ?_) (by simp)
      obtain rfl := Except.error.inj h
      exact ⟨cause.flaw, by rw [← path_of_textsOf htexts]⟩
  | ok texts =>
      obtain ⟨contents, keyId, signature⟩ := texts
      simp only [Except.ok.injEq, Prod.mk.injEq]
      cases hencode : contents.encode with
      | error cause =>
          refine iff_of_false (fun h => ?_) (fun h => ?_)
          · obtain ⟨flaw, hflaw⟩ := h _ rfl
            cases hflaw
          · obtain ⟨whole, rfl⟩ := h ⟨rfl, rfl, rfl⟩
            cases (LooseText.encode_whole whole).symm.trans hencode
      | ok octets =>
          obtain ⟨whole, rfl, -⟩ := LooseText.encode_eq_ok_iff.mp hencode
          refine iff_of_true (fun fault h => ?_) ?_
          · cases h
          · rintro _ _ _ ⟨rfl, -, -⟩
            exact ⟨whole, rfl⟩

theorem failsAt_ofJson_iff {text : LooseText} :
    FailsAt SignedCheckpoint.path (ofJson (.str text)) ↔
      IsShallow (.str text) ∧ HasShortNumbers (.str text) ∧ HasWholeContents text := by
  rw [IsShallow, HasShortNumbers, HasWholeContents, ofJson]
  cases hload : load (.str text) with
  | ok document =>
      cases document with
      | map members =>
          simp only [ne_eq, reduceCtorEq, not_false_eq_true, implies_true, true_and,
            Except.ok.injEq,
            Value.map.injEq]
          rw [ofValue, failsAt_ofMembers_iff]
          constructor
          · rintro h _ _ _ _ rfl
            exact h
          · exact fun h _ _ _ => h rfl
      | _ => simp [FailsAt, ofValue]
  | error cause =>
      cases cause with
      | notText typeName =>
          have hsource : IsSource (.str text) := trivial
          exact absurd hload (load_ne_notText hsource typeName)
      | undecodable fault => exact absurd hload (loadText_ne_undecodable text fault)
      | _ => simp [FailsAt, IntakeFault.ofLoad]

theorem hasWholeContents_of_not_hasLoneHalf {text : LooseText} (hwhole : text.IsWhole)
    (hlone : ¬ HasLoneHalf text.codes) : HasWholeContents text := by
  intro members contents keyId signature hload htexts
  obtain ⟨front, back, rfl, -⟩ := Value.exists_of_lookup? (textsOf_eq_ok_iff.mp htexts).1
  exact isWholeText_of_readDocument (LooseText.areWhole_codes_iff.mpr hwhole) hlone
    (readDocument_of_loadText hload) (.str "contents", .str contents)
    (List.mem_append_right front List.mem_cons_self) contents rfl

end SignedCheckpoint

/-- Reading a text or octets fails as a document, and in no other way, if and only if no nesting is
too deep and no number is too long, and so does reading a signed checkpoint from a text that gives
it whole contents, as every text does in which no half of a surrogate pair stands on its own. A
number that is too long stands only where a long run of digits does. -/
theorem failsAt_iff_hasShortNumbers (path : String) (source : Value) (text : LooseText) :
    (IsSource source →
      (FailsAt path (loadDocument path source) ↔ IsShallow source ∧ HasShortNumbers source)) ∧
    (FailsAt SignedCheckpoint.path (SignedCheckpoint.ofJson (.str text)) ↔
      IsShallow (.str text) ∧ HasShortNumbers (.str text) ∧
        SignedCheckpoint.HasWholeContents text) ∧
    (text.IsWhole → ¬ HasLoneHalf text.codes → SignedCheckpoint.HasWholeContents text) ∧
    (IsSource source → (∀ cs, Spells source cs → ¬ HasLongRun cs) → HasShortNumbers source) :=
  ⟨failsAt_loadDocument_iff, SignedCheckpoint.failsAt_ofJson_iff,
    SignedCheckpoint.hasWholeContents_of_not_hasLoneHalf, hasShortNumbers_of_spells⟩

/-- A numeral of one digit more than may be read. -/
def overlongText : String :=
  String.ofList (List.replicate 4301 '1')

theorem load_overlongText : load (.str overlongText) = .error (.overlong (.read 4301)) := by
  have hdigits : ∀ c ∈ List.replicate 4301 '1', c.isDigit = true := by
    intro c hc
    rw [List.eq_of_mem_replicate hc]
    rfl
  have hload := loadText_numeral hdigits (by simp) (by rw [List.length_replicate]; decide)
  rwa [List.length_replicate] at hload

/-- Such a numeral is put down to no document, neither by itself nor as a checkpoint. -/
theorem not_failsAt_overlongText :
    IsSource (.str overlongText) ∧ IsShallow (.str overlongText) ∧
      ¬ HasLoneHalf (LooseText.whole overlongText).codes ∧
      (∀ path, ¬ FailsAt path (loadDocument path (.str overlongText))) ∧
      ¬ FailsAt SignedCheckpoint.path (SignedCheckpoint.ofJson (.str overlongText)) := by
  have hsource : IsSource (.str overlongText) := trivial
  have hshallow : IsShallow (.str overlongText) := by
    intro fault hdeep
    cases load_overlongText.symm.trans hdeep
  have hlong : ¬ HasShortNumbers (.str overlongText) := fun h => h _ load_overlongText
  have hdigits :
      ∀ n, .char '\\' ∉ (LooseText.whole (String.ofList (List.replicate n '1'))).codes := by
    intro n hmem
    rw [LooseText.codes_whole, String.toList_ofList, List.map_replicate] at hmem
    exact absurd (List.eq_of_mem_replicate hmem) (by decide)
  refine ⟨hsource, hshallow, not_hasLoneHalf (hdigits 4301), fun path => ?_, ?_⟩
  · rw [failsAt_loadDocument_iff hsource]
    exact fun h => hlong h.2
  · rw [SignedCheckpoint.failsAt_ofJson_iff]
    exact fun h => hlong h.2.1

end TransparencyLog
