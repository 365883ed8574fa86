import TransparencyLog.Json.Load
import TransparencyLog.Proofs.Outcome
import TransparencyLog.Proofs.Value

namespace TransparencyLog.Json

/-- Values as they are read: every key in them is a text. -/
inductive IsNamed : Value → Prop
  | null : IsNamed .null
  | bool (b : Bool) : IsNamed (.bool b)
  | int (n : Int) : IsNamed (.int n)
  | float (x : Binary64) : IsNamed (.float x)
  | str (text : LooseText) : IsNamed (.str text)
  | list {items : List Value} (h : ∀ item ∈ items, IsNamed item) : IsNamed (.list items)
  | map {entries : List (Value × Value)} (hname : ∀ entry ∈ entries, ∃ name, entry.1 = .str name)
      (hvalue : ∀ entry ∈ entries, IsNamed entry.2) : IsNamed (.map entries)

/-- A member of an object that is read. -/
def IsMember (entry : Value × Value) : Prop :=
  (∃ name, entry.1 = .str name) ∧ IsNamed entry.2

theorem isNamed_map_entriesOf {pairs : List (Value × Value)} (h : ∀ pair ∈ pairs, IsMember pair) :
    IsNamed (.map (Value.entriesOf pairs)) := by
  have hmembers : ∀ entry ∈ Value.entriesOf pairs, IsMember entry := fun _ hentry =>
    Value.of_mem_entriesOf (P := fun key => ∃ name, key = .str name) h hentry
  exact .map (fun entry hentry => (hmembers entry hentry).1)
    fun entry hentry => (hmembers entry hentry).2

theorem isNamed_of_readNumber {start cs left : List CodePoint} {negative : Bool} {value : Value}
    (h : readNumber start negative cs = .ok (value, left)) : IsNamed value := by
  unfold readNumber at h
  split at h
  · cases h
  · dsimp only at h
    split at h
    · obtain ⟨rfl, -⟩ := Prod.mk.inj (Except.ok.inj h)
      exact .float _
    · split at h
      · split at h
        · cases h
        · obtain ⟨rfl, -⟩ := Prod.mk.inj (Except.ok.inj h)
          exact .int _
      · obtain ⟨rfl, -⟩ := Prod.mk.inj (Except.ok.inj h)
        exact .float _

theorem isNamed_of_readAtom {cs left : List CodePoint} {value : Value}
    (h : readAtom cs = .ok (value, left)) : IsNamed value := by
  unfold readAtom at h
  split at h
  · obtain ⟨rfl, -⟩ := Prod.mk.inj (Except.ok.inj h)
    exact .null
  · obtain ⟨rfl, -⟩ := Prod.mk.inj (Except.ok.inj h)
    exact .bool true
  · obtain ⟨rfl, -⟩ := Prod.mk.inj (Except.ok.inj h)
    exact .bool false
  · obtain ⟨rfl, -⟩ := Prod.mk.inj (Except.ok.inj h)
    exact .float _
  · obtain ⟨rfl, -⟩ := Prod.mk.inj (Except.ok.inj h)
    exact .float _
  · obtain ⟨rfl, -⟩ := Prod.mk.inj (Except.ok.inj h)
    exact .float _
  · exact isNamed_of_readNumber h
  · exact isNamed_of_readNumber h

/-- What the three readers give with some fuel: named values, lists of them, and members. -/
structure ReadsNamed (fuel : Nat) : Prop where
  value : ∀ {room cs value left}, readValue fuel room cs = .ok (value, left) → IsNamed value
  items : ∀ {room done cs items left}, (∀ item ∈ done, IsNamed item) →
    readItems fuel room done cs = .ok (items, left) → ∀ item ∈ items, IsNamed item
  members : ∀ {room done cs members left}, (∀ member ∈ done, IsMember member) →
    readMembers fuel room done cs = .ok (members, left) → ∀ member ∈ members, IsMember member

namespace ReadsNamed

variable {fuel room : Nat} {cs left : List CodePoint}

theorem readValue_succ {value : Value} (h : ReadsNamed fuel)
    (hread : readValue (fuel + 1) room cs = .ok (value, left)) : IsNamed value := by
  unfold readValue at hread
  split at hread
  · obtain ⟨⟨text, rest⟩, -, hread⟩ := bind_eq_ok_iff.mp hread
    obtain ⟨rfl, -⟩ := Prod.mk.inj (Except.ok.inj hread)
    exact .str _
  · obtain ⟨inside, -, hread⟩ := bind_eq_ok_iff.mp hread
    split at hread
    · obtain ⟨rfl, -⟩ := Prod.mk.inj (Except.ok.inj hread)
      exact .list (by simp)
    · obtain ⟨⟨items, rest⟩, hitems, hread⟩ := bind_eq_ok_iff.mp hread
      obtain ⟨rfl, -⟩ := Prod.mk.inj (Except.ok.inj hread)
      exact .list (h.items (by simp) hitems)
  · obtain ⟨inside, -, hread⟩ := bind_eq_ok_iff.mp hread
    split at hread
    · obtain ⟨rfl, -⟩ := Prod.mk.inj (Except.ok.inj hread)
      exact .map (by simp) (by simp)
    · obtain ⟨⟨members, rest⟩, hmembers, hread⟩ := bind_eq_ok_iff.mp hread
      obtain ⟨rfl, -⟩ := Prod.mk.inj (Except.ok.inj hread)
      exact isNamed_map_entriesOf (h.members (by simp) hmembers)
  · exact isNamed_of_readAtom hread

theorem readItems_succ {done items : List Value} (h : ReadsNamed fuel)
    (hdone : ∀ item ∈ done, IsNamed item)
    (hread : readItems (fuel + 1) room done cs = .ok (items, left)) :
    ∀ item ∈ items, IsNamed item := by
  rw [readItems] at hread
  obtain ⟨⟨item, rest⟩, hitem, hread⟩ := bind_eq_ok_iff.mp hread
  have hmore : ∀ item' ∈ item :: done, IsNamed item' :=
    List.forall_mem_cons.mpr ⟨h.value hitem, hdone⟩
  dsimp only at hread
  split at hread
  · obtain ⟨rfl, -⟩ := Prod.mk.inj (Except.ok.inj hread)
    exact fun other hother => hmore other (List.mem_reverse.mp hother)
  · exact h.items hmore hread
  · cases hread

theorem readMembers_succ {done members : List (Value × Value)} (h : ReadsNamed fuel)
    (hdone : ∀ member ∈ done, IsMember member)
    (hread : readMembers (fuel + 1) room done cs = .ok (members, left)) :
    ∀ member ∈ members, IsMember member := by
  unfold readMembers at hread
  split at hread
  · obtain ⟨⟨name, rest⟩, -, hread⟩ := bind_eq_ok_iff.mp hread
    dsimp only at hread
    split at hread
    · obtain ⟨⟨value, rest⟩, hvalue, hread⟩ := bind_eq_ok_iff.mp hread
      have hmore : ∀ member ∈ (Value.str (.ofCodes name), value) :: done, IsMember member :=
        List.forall_mem_cons.mpr ⟨⟨⟨_, rfl⟩, h.value hvalue⟩, hdone⟩
      dsimp only at hread
      split at hread
      · obtain ⟨rfl, -⟩ := Prod.mk.inj (Except.ok.inj hread)
        exact fun member hmember => hmore member (List.mem_reverse.mp hmember)
      · exact h.members hmore hread
      · cases hread
    · cases hread
  · cases hread

end ReadsNamed

theorem readsNamed (fuel : Nat) : ReadsNamed fuel := by
  induction fuel with
  | zero =>
      constructor
      · intro room cs value left hread
        cases hread
      · intro room done cs items left _ hread
        cases hread
      · intro room done cs members left _ hread
        cases hread
  | succ fuel ih => exact ⟨ih.readValue_succ, ih.readItems_succ, ih.readMembers_succ⟩

theorem readDocument_of_loadText {text : LooseText} {document : Value}
    (h : loadText text = .ok document) : readDocument text.codes = .ok document := by
  unfold loadText parse readText at h
  split at h
  · rename_i value hparse
    obtain rfl := Except.ok.inj h
    split at hparse
    · rename_i read hread
      obtain rfl := Except.ok.inj hparse
      split at hread
      · cases hread
      · exact hread
    · cases hparse
  · cases h

theorem isNamed_of_loadText {text : LooseText} {document : Value}
    (h : loadText text = .ok document) : IsNamed document := by
  obtain ⟨⟨value, left⟩, hvalue, hrest⟩ := bind_eq_ok_iff.mp (readDocument_of_loadText h)
  dsimp only at hrest
  split at hrest
  · obtain rfl := Except.ok.inj hrest
    exact (readsNamed _).value hvalue
  · cases hrest

end TransparencyLog.Json
