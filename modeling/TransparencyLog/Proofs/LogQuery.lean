import TransparencyLog.LogQuery
import TransparencyLog.Proofs.Checkpoint.RootText
import TransparencyLog.Proofs.Outcome

namespace TransparencyLog.LogQuery

open PrefixedDigest

variable {root : LooseText} {name text : String} {value digests : Value}
  {values rest : List Value} {texts seen : List String}

/-- A value that is taken for the text of a digest. -/
def IsDigest (value : Value) : Prop :=
  ∃ text : String, value = .str text ∧ IsTaken text

theorem readDigests_cons (h : IsTaken text) :
    readDigests seen (.str text :: rest) =
      if text ∈ seen then readDigests seen rest
      else (text :: ·) <$> readDigests (text :: seen) rest := by
  rw [readDigests, if_pos (accepts_iff.mpr h)]
  simp

theorem readDigests_of_not_isDigest (h : ¬ IsDigest value) :
    readDigests seen (value :: rest) = .error (.ofDigest value) := by
  cases value with
  | str text =>
      cases text with
      | whole text =>
          rw [readDigests, if_neg]
          exact fun haccepts => h ⟨text, rfl, accepts_iff.mp haccepts⟩
      | torn text => rfl
  | _ => rfl

theorem readDigests_map_str (h : ∀ text ∈ texts, IsTaken text) :
    readDigests seen (texts.map fun text => .str (.whole text)) =
      .ok (texts.filter (· ∉ seen)).eraseDups := by
  induction texts generalizing seen with
  | nil => rfl
  | cons text texts ih =>
      obtain ⟨htext, htexts⟩ := List.forall_mem_cons.mp h
      rw [List.map_cons, readDigests_cons htext]
      split
      · rename_i hseen
        rw [ih htexts, List.filter_cons_of_neg (by simpa using hseen)]
      · rename_i hseen
        have hfilter : texts.filter (· ∉ text :: seen) =
            (texts.filter (· ∉ seen)).filter fun other => !other == text := by
          rw [List.filter_filter]
          refine List.filter_congr fun other _ => ?_
          simp [beq_eq_decide]
        rw [ih htexts, List.filter_cons_of_pos (by simpa using hseen), List.eraseDups_cons, hfilter]
        rfl

theorem readDigests_map_str_append (h : ∀ text ∈ texts, IsTaken text) (hvalue : ¬ IsDigest value) :
    readDigests seen ((texts.map fun text => .str (.whole text)) ++ value :: rest) =
      .error (.ofDigest value) := by
  induction texts generalizing seen with
  | nil => exact readDigests_of_not_isDigest hvalue
  | cons text texts ih =>
      obtain ⟨htext, htexts⟩ := List.forall_mem_cons.mp h
      rw [List.map_cons, List.cons_append, readDigests_cons htext, ih htexts, ih htexts]
      exact ite_self _

theorem digests_or_exists_first (values : List Value) :
    (∃ texts : List String, (values = texts.map fun text => .str (.whole text)) ∧
        ∀ text ∈ texts, IsTaken text) ∨
      ∃ (texts : List String) (value : Value) (rest : List Value),
        values = (texts.map fun text => .str (.whole text)) ++ value :: rest ∧
          (∀ text ∈ texts, IsTaken text) ∧
          ¬ IsDigest value := by
  induction values with
  | nil => exact .inl ⟨[], rfl, by simp⟩
  | cons value values ih =>
      by_cases hvalue : IsDigest value
      · obtain ⟨text, rfl, htext⟩ := hvalue
        rcases ih with ⟨texts, rfl, htexts⟩ | ⟨texts, other, rest, rfl, htexts, hother⟩
        · exact .inl ⟨text :: texts, rfl, List.forall_mem_cons.mpr ⟨htext, htexts⟩⟩
        · exact .inr ⟨text :: texts, other, rest, rfl, List.forall_mem_cons.mpr ⟨htext, htexts⟩,
            hother⟩
      · exact .inr ⟨[], value, values, rfl, by simp, hvalue⟩

theorem build_of_not_isDigest (h : ¬ IsDigest (.str root)) :
    build root digests = .error (.root (.notRoot (Text.quoted root))) := by
  cases root with
  | whole name =>
      have hnone : RootIdentifier.ofText? name = none := by
        rw [← Option.not_isSome_iff_eq_none, RootIdentifier.isSome_ofText?, accepts_iff]
        exact fun htaken => h ⟨name, rfl, htaken⟩
      rw [build, RootIdentifier.ofValue, hnone]
      rfl
  | torn text => rfl

theorem build_of_isTaken (h : IsTaken name) (hvalues : digests.elements? = some values) :
    build name digests =
      match readDigests [] values with
      | .error fault => .error fault
      | .ok [] => .error .noDigest
      | .ok packages => .ok ⟨name, packages⟩ := by
  obtain ⟨identifier, hroot⟩ := RootIdentifier.exists_ofValue_iff.mpr (accepts_iff.mpr h)
  rw [build, hroot]
  dsimp only
  rewrite [hvalues]
  rfl

theorem build_map_str (h : IsTaken name)
    (hvalues : digests.elements? = some (texts.map fun text => .str (.whole text)))
    (htexts : ∀ text ∈ texts, IsTaken text) :
    build name digests = if texts = [] then .error .noDigest else .ok ⟨name, texts.eraseDups⟩ := by
  have hfilter : texts.filter (· ∉ ([] : List String)) = texts :=
    List.filter_eq_self.mpr (by simp)
  rw [build_of_isTaken h hvalues, readDigests_map_str htexts, hfilter]
  cases texts with
  | nil => rfl
  | cons text texts =>
      rw [List.eraseDups_cons, if_neg (by simp)]

theorem build_map_str_append (h : IsTaken name)
    (hvalues : digests.elements? =
      some ((texts.map fun text => .str (.whole text)) ++ value :: rest))
    (htexts : ∀ text ∈ texts, IsTaken text) (hvalue : ¬ IsDigest value) :
    build name digests = .error (.ofDigest value) := by
  rw [build_of_isTaken h hvalues, readDigests_map_str_append htexts hvalue]

/-- A question is made of a root that is taken and of digests, at least one, each of which stands in
it once. -/
theorem build_eq_ok_iff (hvalues : digests.elements? = some values) {query : LogQuery} :
    build root digests = .ok query ↔
      IsDigest (.str root) ∧ ∃ texts : List String, texts ≠ [] ∧
        (values = texts.map fun text => .str (.whole text)) ∧ (∀ text ∈ texts, IsTaken text) ∧
        query = ⟨root, texts.eraseDups⟩ := by
  constructor
  · intro h
    have hdigest : IsDigest (.str root) := by
      by_contra hnot
      rw [build_of_not_isDigest hnot] at h
      cases h
    refine ⟨hdigest, ?_⟩
    obtain ⟨name, hname, hroot⟩ := hdigest
    obtain rfl := Value.str.inj hname
    rcases digests_or_exists_first values with
      ⟨texts, rfl, htexts⟩ | ⟨texts, value, rest, rfl, htexts, hvalue⟩
    · rw [build_map_str hroot hvalues htexts] at h
      split at h
      · cases h
      · rename_i hne
        exact ⟨texts, hne, rfl, htexts, (Except.ok.inj h).symm⟩
    · rw [build_map_str_append hroot hvalues htexts hvalue] at h
      cases h
  · rintro ⟨⟨name, hname, hroot⟩, texts, hne, rfl, htexts, rfl⟩
    obtain rfl := Value.str.inj hname
    rw [build_map_str hroot hvalues htexts, if_neg hne]

theorem kind_ofDigest (value : Value) :
    (Fault.ofDigest value).kind = .value ∨
      (Fault.ofDigest value).kind = .nesting ∧ value.quote = .error .tooDeep := by
  rw [Fault.ofDigest]
  cases value.quote with
  | ok quoted => exact .inl rfl
  | error fault =>
      cases fault with
      | overlong fault => exact .inl rfl
      | tooDeep => exact .inr ⟨rfl, rfl⟩

/-- A question that is not made is put down to a value, unless one of the values is nested too deep
to be quoted. -/
theorem kind_of_build_error {fault : Fault} (hvalues : digests.elements? = some values)
    (h : build root digests = .error fault) :
    fault.kind = .value ∨
      fault.kind = .nesting ∧ ∃ value ∈ values, value.quote = .error .tooDeep := by
  by_cases hdigest : IsDigest (.str root)
  · obtain ⟨name, hname, hroot⟩ := hdigest
    obtain rfl := Value.str.inj hname
    rcases digests_or_exists_first values with
      ⟨texts, rfl, htexts⟩ | ⟨texts, value, rest, rfl, htexts, hvalue⟩
    · rw [build_map_str hroot hvalues htexts] at h
      split at h
      · obtain rfl := Except.error.inj h
        exact .inl rfl
      · cases h
    · rw [build_map_str_append hroot hvalues htexts hvalue] at h
      obtain rfl := Except.error.inj h
      refine (kind_ofDigest value).imp id fun hkind => ⟨hkind.1, value, ?_, hkind.2⟩
      exact List.mem_append_right _ List.mem_cons_self
  · rw [build_of_not_isDigest hdigest] at h
    obtain rfl := Except.error.inj h
    exact .inl rfl

/-- A question is made if and only if the root and the values, of which there is at least one, are
texts of digests and nothing else. It has the root as it is, and the digests in the order in which
they stand first, each with nothing under it. -/
structure IsExact (root : LooseText) (values : List Value) (result : Except Fault LogQuery) :
    Prop where
  made : (∃ query, result = .ok query) ↔
    (∃ name : String, root = name ∧ IsText name) ∧ values ≠ [] ∧
      ∀ value ∈ values, ∃ text : String, value = .str text ∧ IsText text
  query : ∀ query, result = .ok query → ∃ texts : List String,
    (values = texts.map fun text => .str (.whole text)) ∧
    query.toValue = .object [("root", .str root),
      ("packages", .object (texts.eraseDups.map fun text => (.whole text, .null)))]
  refused : ∀ fault, result = .error fault → fault.kind = .value

theorem getLast?_codes_ne_iff :
    (LooseText.codes text).getLast? ≠ some (.char '\n') ↔ text.toList.getLast? ≠ some '\n' := by
  simp [List.getLast?_map]

theorem exists_build_iff_of_unterminated (hvalues : digests.elements? = some values)
    (hroot : root.codes.getLast? ≠ some (.char '\n'))
    (hlast : ∀ text, .str text ∈ values → text.codes.getLast? ≠ some (.char '\n')) :
    (∃ query, build root digests = .ok query) ↔
      (∃ name : String, root = name ∧ IsText name) ∧ values ≠ [] ∧
        ∀ value ∈ values, ∃ text : String, value = .str text ∧ IsText text := by
  simp only [build_eq_ok_iff hvalues]
  constructor
  · rintro ⟨query, ⟨name, hname, htaken⟩, texts, hne, rfl, htexts, -⟩
    obtain rfl := Value.str.inj hname
    have hname := (isTaken_iff_isText (getLast?_codes_ne_iff.mp hroot)).mp htaken
    refine ⟨⟨name, rfl, hname⟩, by simpa using hne, fun value hvalue => ?_⟩
    obtain ⟨text, hmem, rfl⟩ := List.mem_map.mp hvalue
    have hunterminated := getLast?_codes_ne_iff.mp (hlast text hvalue)
    exact ⟨text, rfl, (isTaken_iff_isText hunterminated).mp (htexts text hmem)⟩
  · rintro ⟨⟨name, rfl, hname⟩, hne, hall⟩
    rcases digests_or_exists_first values with
      ⟨texts, rfl, htexts⟩ | ⟨texts, value, rest, rfl, -, hvalue⟩
    · exact ⟨_, ⟨name, rfl, .inl hname⟩, texts, by simpa using hne, rfl, htexts, rfl⟩
    · obtain ⟨text, rfl, hother⟩ := hall value (List.mem_append_right _ List.mem_cons_self)
      exact absurd ⟨text, rfl, .inl hother⟩ hvalue

/-- A question is made of what is taken for texts of digests: such a text, or one with a line feed
after it, which then stands in the question. So the question is exact where no text ends in a line
feed and no value is nested too deep to be quoted; the text of an identifier never does. -/
theorem build_outcome (root : LooseText) {digests : Value} {values : List Value}
    (hvalues : digests.elements? = some values) :
    (∀ query, build root digests = .ok query ↔
      IsDigest (.str root) ∧ ∃ texts : List String, texts ≠ [] ∧
        (values = texts.map fun text => .str (.whole text)) ∧ (∀ text ∈ texts, IsTaken text) ∧
        query = ⟨root, texts.eraseDups⟩) ∧
    (∀ fault, build root digests = .error fault → fault.kind = .value ∨
      fault.kind = .nesting ∧ ∃ value ∈ values, value.quote = .error .tooDeep) ∧
    (root.codes.getLast? ≠ some (.char '\n') →
      (∀ text, .str text ∈ values → text.codes.getLast? ≠ some (.char '\n')) →
      (∀ value ∈ values, value.quote ≠ .error .tooDeep) →
      IsExact root values (build root digests)) ∧
    ∀ identifier : RootIdentifier, IsText identifier.text ∧
      identifier.text.toList.getLast? ≠ some '\n' := by
  refine ⟨fun query => build_eq_ok_iff hvalues, fun fault => kind_of_build_error hvalues, ?exact,
    fun identifier => ⟨identifier.isText_text, getLast?_of_isText identifier.isText_text⟩⟩
  case exact =>
    intro hroot hlast hquote
    refine ⟨exists_build_iff_of_unterminated hvalues hroot hlast, fun query hquery => ?_,
      fun fault hfault => ?_⟩
    · obtain ⟨-, texts, -, htexts, -, rfl⟩ := (build_eq_ok_iff hvalues).mp hquery
      exact ⟨texts, htexts, rfl⟩
    · rcases kind_of_build_error hvalues hfault with hkind | ⟨-, value, hvalue, hdeep⟩
      · exact hkind
      · exact absurd hdeep (hquote value hvalue)

section Example

/-- The text of a digest of equal digits. -/
def sampleDigest (digit : Char) : String :=
  String.ofList ("sha256:".toList ++ List.replicate 64 digit)

theorem isText_sampleDigest {digit : Char} (h : Hex.IsLower digit) :
    IsText (sampleDigest digit) := by
  refine ⟨List.replicate 64 digit, String.toList_ofList, List.length_replicate, fun c hc => ?_⟩
  rwa [List.eq_of_mem_replicate hc]

/-- A digest that is asked for twice stands in the question once, where it stands first. -/
theorem exists_build_sampleDigests :
    ∃ query, build (sampleDigest '1')
        (.list [.str (sampleDigest 'a'), .str (sampleDigest '0'), .str (sampleDigest 'a')]) =
          .ok query ∧
      query.toValue = .object [("root", .str (sampleDigest '1')),
        ("packages", .object [(sampleDigest 'a', .null), (sampleDigest '0', .null)])] := by
  have hroot : IsText (sampleDigest '1') := isText_sampleDigest (.inl (by decide))
  have hfirst : IsText (sampleDigest 'a') := isText_sampleDigest (.inr (by decide))
  have hsecond : IsText (sampleDigest '0') := isText_sampleDigest (.inl (by decide))
  have hvalues : (Value.list [.str (sampleDigest 'a'), .str (sampleDigest '0'),
      .str (sampleDigest 'a')]).elements? = some
        ([sampleDigest 'a', sampleDigest '0', sampleDigest 'a'].map fun text =>
          .str (.whole text)) := rfl
  obtain ⟨-, -, hexact, -⟩ := build_outcome (sampleDigest '1') hvalues
  have hall : ∀ text ∈ [sampleDigest 'a', sampleDigest '0', sampleDigest 'a'], IsText text := by
    simp [hfirst, hsecond]
  have hlast {text : String} (htext : IsText text) :
      (LooseText.codes text).getLast? ≠ some (.char '\n') :=
    getLast?_codes_ne_iff.mpr (getLast?_of_isText htext)
  have hlasts : ∀ text : LooseText, .str text ∈ [sampleDigest 'a', sampleDigest '0',
      sampleDigest 'a'].map (fun text => Value.str (.whole text)) →
        text.codes.getLast? ≠ some (.char '\n') := by
    intro text hmem
    obtain ⟨digest, hdigest, htext⟩ := List.mem_map.mp hmem
    obtain rfl := Value.str.inj htext
    exact hlast (hall digest hdigest)
  obtain ⟨hmade, hquery, -⟩ := hexact (hlast hroot) hlasts (by simp [Value.quote, Value.spell])
  obtain ⟨query, hbuild⟩ := hmade.mpr ⟨⟨_, rfl, hroot⟩, by simp, by simpa using hall⟩
  obtain ⟨texts, htexts, hdocument⟩ := hquery query hbuild
  obtain rfl : [sampleDigest 'a', sampleDigest '0', sampleDigest 'a'] = texts :=
    List.map_injective_iff.mpr
      (fun _ _ heq => LooseText.whole.inj (Value.str.inj heq)) htexts
  have hdups : [sampleDigest 'a', sampleDigest '0', sampleDigest 'a'].eraseDups =
      [sampleDigest 'a', sampleDigest '0'] := by
    decide +kernel
  rw [hdups] at hdocument
  exact ⟨query, hbuild, hdocument⟩

/-- A line feed after the text of a digest goes into the question, under the root and among the
packages. -/
theorem build_line_feed :
    build (.whole (sampleDigest '1' ++ "\n"))
        (.list [.str (.whole (sampleDigest 'a' ++ "\n"))]) =
      .ok ⟨.whole (sampleDigest '1' ++ "\n"), [sampleDigest 'a' ++ "\n"]⟩ ∧
      ¬ IsText (sampleDigest '1' ++ "\n") ∧ ¬ IsText (sampleDigest 'a' ++ "\n") := by
  have hlast : ∀ text : String, ¬ IsText (text ++ "\n") := by
    intro text htext
    refine getLast?_of_isText htext ?_
    rw [String.toList_append]
    exact List.getLast?_concat
  exact ⟨by decide +kernel, hlast _, hlast _⟩

end Example

end TransparencyLog.LogQuery
