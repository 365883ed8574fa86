import TransparencyLog.Proofs.Checkpoint.Signing
import TransparencyLog.Proofs.Record.Growth

namespace TransparencyLog

namespace Value

/-- The members that have one of the names. -/
def restrict (names : List String) (members : List (Value × Value)) : List (Value × Value) :=
  members.filter fun member => names.any fun name => member.1.sameKey (.str name)

section Restrict

variable {names : List String} {members : List (Value × Value)}

theorem mem_restrict_iff {member : Value × Value} :
    member ∈ restrict names members ↔
      member ∈ members ∧ ∃ name ∈ names, member.1 = .str name := by
  simp only [restrict, List.mem_filter, List.any_eq_true, sameKey_str_iff]

theorem lookup?_eq_some_iff_mem (h : KeysDistinct members) {name : LooseText} {value : Value} :
    lookup? name members = some value ↔ (.str name, value) ∈ members := by
  constructor
  · intro hlookup
    obtain ⟨front, back, rfl, -⟩ := exists_of_lookup? hlookup
    simp
  · intro hmember
    obtain ⟨front, back, rfl⟩ := List.append_of_mem hmember
    have hfront : ∀ entry ∈ front, sameKey entry.1 (.str name) = false := fun entry hentry =>
      (List.pairwise_append.mp h).2.2 entry hentry _ List.mem_cons_self
    refine lookup?_append fun entry hentry hkey => ?_
    exact absurd (sameKey_str_iff.mpr hkey) (by simp [hfront entry hentry])

theorem nodup_restrict (h : KeysDistinct members) : (restrict names members).Nodup := by
  refine (List.Pairwise.sublist List.filter_sublist h).imp_of_mem ?_
  rintro a b ha - hkeys rfl
  obtain ⟨-, name, -, hname⟩ := mem_restrict_iff.mp ha
  rw [hname, sameKey_str_iff.mpr rfl] at hkeys
  cases hkeys

/-- A map holds the given texts and no other members under their names if and only if looking each
of the names up finds its text. -/
theorem perm_restrict_iff {texts : List (String × LooseText)} (hnames : (texts.map (·.1)).Nodup)
    (h : KeysDistinct members) :
    (texts.map fun text => (.str text.1, .str text.2)).Perm
        (restrict (texts.map (·.1)) members) ↔
      ∀ text ∈ texts, lookup? text.1 members = some (.str text.2) := by
  constructor
  · intro hperm text htext
    have hmember := hperm.subset (List.mem_map_of_mem htext)
    exact (lookup?_eq_some_iff_mem h).mpr (mem_restrict_iff.mp hmember).1
  · intro hlookup
    have hinj : Function.Injective fun name : String => Value.str name :=
      fun _ _ heq => LooseText.whole.inj (Value.str.inj heq)
    have htexts : (texts.map fun text => (Value.str text.1, Value.str text.2)).Nodup := by
      refine List.Nodup.of_map (fun member => member.1) ?_
      rw [List.map_map]
      simpa [Function.comp_def] using (List.nodup_map_iff hinj).mpr hnames
    refine (List.perm_ext_iff_of_nodup htexts (nodup_restrict h)).mpr fun member => ?_
    rw [List.mem_map, mem_restrict_iff]
    constructor
    · rintro ⟨text, htext, rfl⟩
      exact ⟨(lookup?_eq_some_iff_mem h).mp (hlookup text htext), text.1,
        List.mem_map_of_mem htext, rfl⟩
    · rintro ⟨hmember, name, hname, hkey⟩
      obtain ⟨text, htext, rfl⟩ := List.mem_map.mp hname
      have hfound : lookup? text.1 members = some member.2 :=
        (lookup?_eq_some_iff_mem h).mpr (by rwa [← hkey])
      rw [hlookup text htext, Option.some.injEq] at hfound
      exact ⟨text, htext, Prod.ext hkey.symm hfound⟩

end Restrict

end Value

namespace SignedCheckpoint

variable {checkpoint : SignedCheckpoint} {members : List (Value × Value)}

theorem textsOf_eq_ok_iff {contents keyId signature : LooseText} :
    textsOf members = .ok (contents, keyId, signature) ↔
      Value.lookup? "contents" members = some (.str contents) ∧
        Value.lookup? "keyId" members = some (.str keyId) ∧
        Value.lookup? "signature" members = some (.str signature) := by
  simp only [textsOf, bind_eq_ok_iff, LogRecord.textMember_eq_ok_iff]
  constructor
  · rintro ⟨_, hcontents, _, hkeyId, _, hsignature, h⟩
    simp only [pure, Except.pure, Except.ok.injEq, Prod.mk.injEq] at h
    obtain ⟨rfl, rfl, rfl⟩ := h
    exact ⟨hcontents, hkeyId, hsignature⟩
  · rintro ⟨hcontents, hkeyId, hsignature⟩
    exact ⟨_, hcontents, _, hkeyId, _, hsignature, rfl⟩

theorem ofMembers_eq_ok_iff :
    ofMembers members = .ok checkpoint ↔
      ∃ contents, textsOf members = .ok (contents, checkpoint.keyId, checkpoint.signature) ∧
        contents.encode = .ok checkpoint.content := by
  unfold ofMembers
  split
  · rename_i fault hfault
    simp [hfault]
  · rename_i contents keyId signature htexts
    rw [htexts]
    simp only [Except.ok.injEq, Prod.mk.injEq]
    split
    · rename_i fault hfault
      refine iff_of_false (by simp) ?_
      rintro ⟨_, ⟨rfl, -, -⟩, hencode⟩
      cases hfault.symm.trans hencode
    · rename_i octets hencode
      constructor
      · rintro ⟨⟩
        exact ⟨contents, ⟨rfl, rfl, rfl⟩, hencode⟩
      · rintro ⟨_, ⟨rfl, rfl, rfl⟩, hencode'⟩
        rw [Except.ok.inj (hencode.symm.trans hencode')]

theorem ofValue_map_eq_ok_iff :
    ofValue (.map members) = .ok checkpoint ↔
      ∃ texts, checkpoint.members = .ok texts ∧
        ∀ text ∈ texts, Value.lookup? text.1 members = some (.str text.2) := by
  simp only [ofValue, ofMembers_eq_ok_iff, textsOf_eq_ok_iff, LooseText.encode_eq_ok_iff,
    members_eq_ok_iff]
  constructor
  · rintro ⟨_, ⟨hcontents, hkeyId, hsignature⟩, text, rfl, hcontent⟩
    exact ⟨_, ⟨text, hcontent, rfl⟩, by simp [hcontents, hkeyId, hsignature]⟩
  · rintro ⟨_, ⟨text, hcontent, rfl⟩, hlookup⟩
    simp only [List.forall_mem_cons] at hlookup
    exact ⟨text, ⟨hlookup.1, hlookup.2.1, hlookup.2.2.1⟩, text, rfl, hcontent⟩

theorem toValue_eq_ok_iff {value : Value} :
    checkpoint.toValue = .ok value ↔
      ∃ texts, checkpoint.members = .ok texts ∧
        value = .map (texts.map fun text => (.str text.1, .str text.2)) := by
  unfold toValue
  cases checkpoint.members with
  | error fault => simp
  | ok texts =>
      simp only [Value.object, List.map_map, Except.ok.injEq, exists_eq_left']
      exact eq_comm

theorem map_fst_of_members {texts : List (String × LooseText)}
    (h : checkpoint.members = .ok texts) :
    texts.map (·.1) = ["contents", "keyId", "signature"] := by
  obtain ⟨text, -, rfl⟩ := members_eq_ok_iff.mp h
  rfl

/-- An object is read as a checkpoint if and only if it is the form of the checkpoint as far as its
members under the names of a checkpoint go. -/
theorem ofValue_map_eq_ok_iff_perm (hkeys : Value.KeysDistinct members) :
    ofValue (.map members) = .ok checkpoint ↔
      ∃ kept, checkpoint.toValue = .ok (.map kept) ∧
        kept.Perm (Value.restrict ["contents", "keyId", "signature"] members) := by
  have hperm : ∀ {texts}, checkpoint.members = .ok texts →
      ((texts.map fun text => (Value.str text.1, Value.str text.2)).Perm
          (Value.restrict ["contents", "keyId", "signature"] members) ↔
        ∀ text ∈ texts, Value.lookup? text.1 members = some (.str text.2)) := by
    intro texts hmembers
    have hnames := map_fst_of_members hmembers
    have hnodup : (texts.map (·.1)).Nodup := by
      rw [hnames]
      decide
    have hiff := Value.perm_restrict_iff hnodup hkeys
    rwa [hnames] at hiff
  rw [ofValue_map_eq_ok_iff]
  constructor
  · rintro ⟨texts, hmembers, hlookup⟩
    exact ⟨_, toValue_eq_ok_iff.mpr ⟨texts, hmembers, rfl⟩, (hperm hmembers).mpr hlookup⟩
  · rintro ⟨kept, hvalue, hkept⟩
    obtain ⟨texts, hmembers, hmap⟩ := toValue_eq_ok_iff.mp hvalue
    obtain rfl := Value.map.inj hmap
    exact ⟨texts, hmembers, (hperm hmembers).mp hkept⟩

/-- The checkpoints that are read from the JSON text that they write are those whose contents are
text, and an object is read as a checkpoint if and only if what is written for this checkpoint is
the object with the members under other names left out. -/
theorem lossless_in_documents (hkeys : Value.KeysDistinct members) :
    ((∃ json, checkpoint.toJson = .ok json ∧ ofJson (.str json) = .ok checkpoint) ↔
        ∃ text, checkpoint.content = Utf8.encode text) ∧
      (ofValue (.map members) = .ok checkpoint ↔
        ∃ kept, checkpoint.toValue = .ok (.map kept) ∧
          kept.Perm (Value.restrict ["contents", "keyId", "signature"] members)) := by
  refine ⟨?_, ofValue_map_eq_ok_iff_perm hkeys⟩
  constructor
  · rintro ⟨json, hjson, -⟩
    obtain ⟨texts, hmembers, -⟩ := toJson_eq_ok_iff.mp hjson
    obtain ⟨text, hcontent, -⟩ := members_eq_ok_iff.mp hmembers
    exact ⟨text, hcontent⟩
  · rintro ⟨text, hcontent⟩
    have hjson := toJson_eq_ok_iff.mpr ⟨_, members_eq_ok_iff.mpr ⟨text, hcontent, rfl⟩, rfl⟩
    exact ⟨_, hjson, ofJson_of_toJson hjson⟩

section Example

/-- Quotes, backslashes, control characters, line ends and characters of each length in UTF-8. -/
def oddText : String :=
  String.ofList ['"', '\\', '/', Char.ofNat 0, Char.ofNat 27, '\r', '\n', '\t', Char.ofNat 127,
    Char.ofNat 233, Char.ofNat 8232, Char.ofNat 65535, Char.ofNat 128273]

/-- A checkpoint with odd texts in all of its fields. -/
def oddCheckpoint : SignedCheckpoint :=
  ⟨Utf8.encode oddText, oddText, oddText⟩

/-- The odd checkpoint is kept as it is, and an object gives it whose members stand in another order
and next to one with another name. -/
theorem exists_json_oddCheckpoint :
    (∃ json, oddCheckpoint.toJson = .ok json ∧ ofJson (.str json) = .ok oddCheckpoint) ∧
      ∃ kept, oddCheckpoint.toValue = .ok (.map kept) ∧
        kept.Perm (Value.restrict ["contents", "keyId", "signature"]
          [(.str "signature", .str oddText), (.str "note", .null), (.str "keyId", .str oddText),
            (.str "contents", .str oddText)]) := by
  have hlossless := @lossless_in_documents oddCheckpoint
    [(.str "signature", .str oddText), (.str "note", .null), (.str "keyId", .str oddText),
      (.str "contents", .str oddText)] (by simp [Value.KeysDistinct, Value.sameKey])
  exact ⟨hlossless.1.mpr ⟨oddText, rfl⟩, hlossless.2.mp (by
    simp [ofValue, ofMembers, textsOf, textMember, Value.lookup?, oddCheckpoint, pure,
      Except.pure])⟩

end Example

end SignedCheckpoint

end TransparencyLog
