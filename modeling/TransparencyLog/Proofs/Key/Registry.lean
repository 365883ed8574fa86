import TransparencyLog.Key.Registry
import TransparencyLog.Proofs.Key.Labelled

namespace TransparencyLog

namespace KeyEntry

variable {entry : KeyEntry} {document : Value}

theorem ofMembers_eq_ok_iff {members : List (Value × Value)} :
    ofMembers members = .ok entry ↔
      Value.lookup? "keyId" members = some (.str entry.keyId) ∧ entry.keyId ≠ "" ∧
        (∃ text, Value.lookup? "publicKey" members = some (.str text) ∧
          PublicKey.ofText text = .ok entry.publicKey) ∧
        (Value.lookup? "active" members).getD (.bool true) = .bool entry.active := by
  constructor
  · intro h
    unfold ofMembers at h
    split at h
    · rename_i keyId hkeyId
      split at h
      · cases h
      · rename_i hne
        split at h
        · rename_i text htext
          split at h
          · rename_i active hactive
            split at h
            · cases h
            · rename_i key hkey
              obtain rfl := Except.ok.inj h
              exact ⟨hkeyId, by simpa using hne, ⟨text, htext, hkey⟩, hactive⟩
          · cases h
        · cases h
    · cases h
  · rintro ⟨hkeyId, hne, ⟨text, htext, hkey⟩, hactive⟩
    rw [ofMembers, hkeyId]
    dsimp only
    rw [if_neg (by simpa using hne), htext]
    dsimp only
    rw [hactive]
    dsimp only
    rw [hkey]

theorem ofValue_toValue (h : ofValue document = .ok entry) : ofValue entry.toValue = .ok entry := by
  obtain ⟨members, hmembers⟩ : ∃ members, ofMembers members = .ok entry := by
    unfold ofValue at h
    split at h
    · exact ⟨_, h⟩
    · cases h
  obtain ⟨-, hne, ⟨text, -, hkey⟩, -⟩ := ofMembers_eq_ok_iff.mp hmembers
  rw [toValue, Value.object, ofValue, ofMembers_eq_ok_iff]
  refine ⟨by simp [Value.lookup?], hne, ⟨entry.publicKey.text, by simp [Value.lookup?], ?_⟩,
    by simp [Value.lookup?]⟩
  exact PublicKey.ofText_text hkey

end KeyEntry

namespace Registry

variable {suite : SignatureSuite} {registry registry' : Registry} {entry : KeyEntry}

/-- The registry after an entry has been offered to it, which it may refuse. -/
def offer (suite : SignatureSuite) (registry : Registry) (entry : KeyEntry) : Registry :=
  match registry.add suite entry with
  | .ok registry => registry
  | .error _ => registry

theorem offer_of_ok (h : registry.add suite entry = .ok registry') :
    registry.offer suite entry = registry' := by
  rw [offer, h]

theorem offer_of_error {fault : Fault} (h : registry.add suite entry = .error fault) :
    registry.offer suite entry = registry := by
  rw [offer, h]

theorem entries_of_add (h : registry.add suite entry = .ok registry') :
    registry'.entries = registry.entries ++ [entry] := by
  unfold add at h
  split at h
  · cases h
  · split at h
    · cases h
    · obtain rfl := Except.ok.inj h
      rfl

theorem entries_of_grow {entries : List KeyEntry} {start : Registry}
    (h : start.grow suite entries = ⟨registry, none⟩) :
    registry.entries = start.entries ++ entries := by
  induction entries generalizing start with
  | nil =>
      obtain rfl : start = registry := congrArg Growth.registry h
      rw [List.append_nil]
  | cons first entries ih =>
      rw [grow] at h
      cases hfirst : start.add suite first with
      | error fault =>
          rw [hfirst] at h
          cases congrArg Growth.fault? h
      | ok next =>
          rw [hfirst] at h
          rw [ih h, entries_of_add hfirst, List.append_assoc, List.singleton_append]

theorem grow_concat {entries : List KeyEntry} {start : Registry}
    (hgrow : start.grow suite entries = ⟨registry, none⟩)
    (h : registry.add suite entry = .ok registry') :
    start.grow suite (entries ++ [entry]) = ⟨registry', none⟩ := by
  induction entries generalizing start with
  | nil =>
      obtain rfl : start = registry := congrArg Growth.registry hgrow
      rw [List.nil_append, grow, h]
      rfl
  | cons first entries ih =>
      rw [List.cons_append, grow]
      rw [grow] at hgrow
      cases hfirst : start.add suite first with
      | error fault =>
          rw [hfirst] at hgrow
          cases congrArg Growth.fault? hgrow
      | ok next =>
          rw [hfirst] at hgrow
          exact ih hgrow

theorem ofEntries_eq_ok_iff {entries : List KeyEntry} :
    ofEntries suite entries = .ok registry ↔ empty.grow suite entries = ⟨registry, none⟩ := by
  unfold ofEntries
  rcases empty.grow suite entries with ⟨grown, fault⟩
  cases fault with
  | none => simp
  | some fault => simp

theorem ofEntries_of_add (hentries : ofEntries suite registry.entries = .ok registry)
    (h : registry.add suite entry = .ok registry') :
    ofEntries suite registry'.entries = .ok registry' := by
  rw [entries_of_add h, ofEntries_eq_ok_iff]
  exact grow_concat (ofEntries_eq_ok_iff.mp hentries) h

end Registry

end TransparencyLog
