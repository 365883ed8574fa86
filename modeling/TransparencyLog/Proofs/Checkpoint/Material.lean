import TransparencyLog.Checkpoint.RootIdentifier
import TransparencyLog.Proofs.Bytes.Hex
import TransparencyLog.Proofs.Json.Parts

namespace TransparencyLog.RootIdentifier

open Json CodePoint

/-- The object with texts under names. -/
def textObject (members : List (String × LooseText)) : Value :=
  .object (members.map fun member => (.whole member.1, .str member.2))

/-- The names stand in order. -/
def InOrder (members : List (String × LooseText)) : Prop :=
  (members.map fun member => LooseText.whole member.1).Pairwise (· < ·)

variable {members members' : List (String × LooseText)}

theorem textObject_eq_map (members : List (String × LooseText)) :
    textObject members =
      .map (members.map fun member => (.str (.whole member.1), .str member.2)) := by
  rw [textObject, Value.object, List.map_map]
  rfl

theorem printMembers_textObject (depth : Nat) :
    printMembers .compact depth
        (members.map fun member => (.str (.whole member.1), .str member.2)) =
      .ok (members.map fun member =>
        quote .unicode member.1 ++ .char ':' :: quote .unicode member.2) := by
  have hprint := printMembers_texts .compact depth
    (members.map fun member => (.whole member.1, member.2))
  rw [List.map_map, List.map_map] at hprint
  simpa [Function.comp_def, Layout.compact] using hprint

theorem printChars_textObject :
    printChars .compact 0 (textObject members) = .ok (objectText members) := by
  rw [textObject_eq_map, printChars_map_eq_ok_iff]
  refine ⟨_, printMembers_textObject 1, ?_⟩
  cases members with
  | nil => rfl
  | cons member members =>
      rw [Layout.enclose_of_ne_nil _ _ _ _ (by simp)]
      rfl

theorem namesIncrease_textObject (h : InOrder members) :
    NamesIncrease (members.map fun member => (.str (.whole member.1), .str member.2)) :=
  ⟨_, by simp, h⟩

theorem isDocument_textObject (h : InOrder members) : IsDocument (textObject members) := by
  have hincrease := namesIncrease_textObject h
  rw [textObject_eq_map]
  refine .map (exists_name_of_namesIncrease hincrease) (keysDistinct_of_namesIncrease hincrease) ?_
  intro entry hentry
  obtain ⟨member, -, rfl⟩ := List.mem_map.mp hentry
  exact .str member.2

theorem canonicalize_textObject (h : InOrder members) :
    canonicalize (textObject members) = .ok (textObject members) := by
  have hincrease := namesIncrease_textObject h
  rw [textObject_eq_map]
  refine (canonicalizeIn_map_eq_ok_iff (keysDistinct_of_namesIncrease hincrease)).mpr
    ⟨_, _, _, rfl, rfl, List.Perm.refl _, hincrease, List.forall₂_same.mpr fun entry hentry => ?_⟩
  obtain ⟨member, -, rfl⟩ := List.mem_map.mp hentry
  exact ⟨⟨member.1, rfl⟩, rfl, rfl⟩

theorem objectText_inj (h : InOrder members) (h' : InOrder members')
    (heq : objectText members = objectText members') :
    textObject members = textObject members' := by
  have hprint : printChars .compact 0 (textObject members) = .ok (objectText members') := by
    rw [printChars_textObject, heq]
  exact (isDocument_textObject h).eq_of_printChars Layout.isSpaced_compact
    (isDocument_textObject h') hprint printChars_textObject

/-- The parts that an identifier binds, under their names. -/
def parts (body : CheckpointBody) (keyId : LooseText) (signature : Bytes) :
    List (String × LooseText) :=
  [("checkpoint", body.text), ("key_id", keyId), ("signature", Hex.encode signature)]

section Parts

variable {body body' : CheckpointBody} {keyId keyId' : LooseText}
  {signature signature' message message' : Bytes}

theorem inOrder_parts : InOrder (parts body keyId signature) := by
  have hincrease : (["checkpoint", "key_id", "signature"] : List LooseText).Pairwise (· < ·) := by
    decide
  exact hincrease

theorem material_eq_ok_iff :
    material body keyId signature = .ok message ↔ ∃ cs : List Char,
      objectText (parts body keyId signature) = cs.map .char ∧ message = Utf8.encodeChars cs :=
  encode_eq_ok_iff

theorem exists_material_iff :
    (∃ message, material body keyId signature = .ok message) ↔ keyId.IsWhole := by
  have hwhole : ∀ text : String, (LooseText.whole text).IsWhole := fun text => ⟨text, rfl⟩
  have hclosing : AreWhole [.char '\x7d'] := by simp [AreWhole]
  rw [material, exists_encode_iff, objectText, List.cons_append, areWhole_cons_char_iff,
    areWhole_append_iff, and_iff_left hclosing, areWhole_intercalate_iff]
  simp [areWhole_append_iff, areWhole_cons_char_iff, areWhole_quote_iff, hwhole]

theorem exists_compute_iff :
    (∃ root, compute body keyId signature = .ok root) ↔ keyId.IsWhole := by
  rw [← @exists_material_iff body keyId signature, compute]
  cases material body keyId signature with
  | error fault => simp
  | ok message => simp

theorem compute_eq_ok_iff {root : RootIdentifier} :
    compute body keyId signature = .ok root ↔
      ∃ message, material body keyId signature = .ok message ∧ root = ofMaterial message := by
  rw [compute]
  cases material body keyId signature with
  | error fault => simp
  | ok message => simp [eq_comm]

theorem canonicalBytes_eq_ok_iff_material :
    canonicalBytes (.object [("checkpoint", .str body.text), ("key_id", .str keyId),
      ("signature", .str (Hex.encode signature))]) = .ok message ↔
        material body keyId signature = .ok message := by
  have hform := canonicalize_textObject (@inOrder_parts body keyId signature)
  rw [canonicalBytes_eq_ok_iff, material_eq_ok_iff]
  constructor
  · rintro ⟨_, cs, hcanonical, hprint, rfl⟩
    obtain rfl := Except.ok.inj (hform.symm.trans hcanonical)
    exact ⟨cs, Except.ok.inj (printChars_textObject.symm.trans hprint), rfl⟩
  · rintro ⟨cs, hcs, rfl⟩
    exact ⟨_, cs, hform, printChars_textObject.trans (congrArg Except.ok hcs), rfl⟩

theorem material_eq_iff (h : material body keyId signature = .ok message)
    (h' : material body' keyId' signature' = .ok message') :
    message = message' ↔ body.text = body'.text ∧ keyId = keyId' ∧ signature = signature' := by
  obtain ⟨cs, hcs, rfl⟩ := material_eq_ok_iff.mp h
  obtain ⟨cs', hcs', rfl⟩ := material_eq_ok_iff.mp h'
  constructor
  · intro heq
    obtain rfl := Utf8.encodeChars_injective heq
    -- the printer tells documents apart, whatever quotes or commas stand in their texts
    have hobject := objectText_inj inOrder_parts inOrder_parts (hcs.trans hcs'.symm)
    simp only [textObject, parts, Value.object, List.map_cons, List.map_nil, Value.map.injEq,
      List.cons.injEq, Prod.mk.injEq, Value.str.injEq, true_and, and_true,
      LooseText.whole.injEq] at hobject
    obtain ⟨htext, hkeyId, hsignature⟩ := hobject
    exact ⟨htext, hkeyId, Hex.encode_injective hsignature⟩
  · rintro ⟨htext, rfl, rfl⟩
    rw [parts, htext] at hcs
    rw [List.map_injective_iff.mpr char_injective (hcs.symm.trans hcs')]

end Parts

end TransparencyLog.RootIdentifier
