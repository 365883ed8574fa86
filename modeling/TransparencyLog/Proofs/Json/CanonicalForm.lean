import Mathlib.Data.List.Nodup
import Mathlib.Data.List.Perm.Basic
import TransparencyLog.Json.Canonical
import TransparencyLog.Proofs.Outcome
import TransparencyLog.Proofs.Pairing
import TransparencyLog.Proofs.Text.Loose
import TransparencyLog.Proofs.Value

namespace TransparencyLog.Json

open Value

/-- The items of a list or a tuple. -/
def items? : Value → Option (List Value)
  | .list items | .tuple items => some items
  | _ => none

variable {room : Nat}

theorem enterShape_eq_ok_iff {n : Nat} : enterShape room = .ok n ↔ room = n + 1 := by
  cases room with
  | zero => simp [enterShape]
  | succ room => simp [enterShape]

theorem canonicalizeItems_eq_ok_iff {items forms : List Value} :
    canonicalizeItems room items = .ok forms ↔
      List.Forall₂ (fun item form => canonicalizeIn room item = .ok form) items forms := by
  induction items generalizing forms with
  | nil =>
      rw [canonicalizeItems, List.forall₂_nil_left_iff, Except.ok.injEq]
      exact eq_comm
  | cons item items ih =>
      rw [canonicalizeItems, List.forall₂_cons_left_iff]
      simp only [bind_eq_ok_iff, pure, Except.pure, Except.ok.injEq, ih]
      constructor
      · rintro ⟨form, hform, rest, hrest, rfl⟩
        exact ⟨form, rest, hform, hrest, rfl⟩
      · rintro ⟨form, rest, hform, hrest, rfl⟩
        exact ⟨form, hform, rest, hrest, rfl⟩

theorem canonicalizeIn_of_items {value : Value} {items : List Value}
    (h : items? value = some items) :
    canonicalizeIn room value = do
      let room ← enterShape room
      return .list (← canonicalizeItems room items) := by
  cases value <;> simp only [items?, reduceCtorEq, Option.some.injEq] at h <;> subst h <;>
    rw [canonicalizeIn]

theorem canonicalizeIn_items_eq_ok_iff {value form : Value} {items : List Value}
    (h : items? value = some items) :
    canonicalizeIn room value = .ok form ↔ ∃ n forms, room = n + 1 ∧ form = .list forms ∧
      List.Forall₂ (fun item form => canonicalizeIn n item = .ok form) items forms := by
  rw [canonicalizeIn_of_items h]
  simp only [bind_eq_ok_iff, enterShape_eq_ok_iff, canonicalizeItems_eq_ok_iff, pure, Except.pure,
    Except.ok.injEq]
  constructor
  · rintro ⟨n, hroom, forms, hforms, rfl⟩
    exact ⟨n, forms, hroom, rfl, hforms⟩
  · rintro ⟨n, forms, hroom, rfl, hforms⟩
    exact ⟨n, hroom, forms, hforms, rfl⟩

theorem checkKeys_eq_ok_iff {entries : List (Value × Value)} {u : Unit} :
    checkKeys entries = .ok u ↔ ∀ entry ∈ entries, ∃ name, entry.1 = .str name := by
  induction entries with
  | nil => simp [checkKeys]
  | cons entry entries ih =>
      obtain ⟨key, value⟩ := entry
      cases key <;> simp [checkKeys, ih]

theorem collect_eq_ok_iff {members : List (LooseText × Except CanonicalFault Value)}
    {entries : List (Value × Value)} :
    collect members = .ok entries ↔
      List.Forall₂ (fun member entry => entry.1 = .str member.1 ∧ member.2 = .ok entry.2) members
        entries := by
  induction members generalizing entries with
  | nil =>
      rw [collect, List.forall₂_nil_left_iff, Except.ok.injEq]
      exact eq_comm
  | cons member members ih =>
      rw [collect, List.forall₂_cons_left_iff]
      simp only [bind_eq_ok_iff, pure, Except.pure, Except.ok.injEq, ih]
      constructor
      · rintro ⟨value, hvalue, rest, hrest, rfl⟩
        exact ⟨_, rest, ⟨rfl, hvalue⟩, hrest, rfl⟩
      · rintro ⟨⟨key, value⟩, rest, ⟨rfl, hvalue⟩, hrest, rfl⟩
        exact ⟨value, hvalue, rest, hrest, rfl⟩

theorem forall₂_canonicalizeMembers (room : Nat) {entries : List (Value × Value)}
    (h : ∀ entry ∈ entries, ∃ name, entry.1 = .str name) :
    List.Forall₂ (fun member entry => entry.1 = .str member.1 ∧
      member.2 = canonicalizeIn room entry.2) (canonicalizeMembers room entries) entries := by
  induction entries with
  | nil => exact .nil
  | cons entry entries ih =>
      obtain ⟨name, hname⟩ := h entry (by simp)
      obtain ⟨key, value⟩ := entry
      obtain rfl : key = .str name := hname
      exact .cons ⟨rfl, rfl⟩ (ih fun other hother => h other (by simp [hother]))

/-- The canonical form of the value of an entry under its name. -/
def canonicalizeMember? (room : Nat) :
    Value × Value → Option (LooseText × Except CanonicalFault Value)
  | (.str name, value) => some (name, canonicalizeIn room value)
  | _ => none

theorem canonicalizeMembers_eq_filterMap (entries : List (Value × Value)) :
    canonicalizeMembers room entries = entries.filterMap (canonicalizeMember? room) := by
  induction entries with
  | nil => rfl
  | cons entry entries ih =>
      obtain ⟨key, value⟩ := entry
      cases key <;> simp [canonicalizeMembers, canonicalizeMember?, List.filterMap_cons, ih]

theorem perm_canonicalizeMembers {entries entries' : List (Value × Value)}
    (h : entries.Perm entries') :
    (canonicalizeMembers room entries).Perm (canonicalizeMembers room entries') := by
  rw [canonicalizeMembers_eq_filterMap, canonicalizeMembers_eq_filterMap]
  exact h.filterMap _

theorem nodup_names {α : Type} {members : List (LooseText × α)} {entries : List (Value × Value)}
    (hkeys : KeysDistinct entries)
    (h : List.Forall₂ (fun member entry => entry.1 = .str member.1) members entries) :
    (members.map (·.1)).Nodup := by
  induction h with
  | nil => exact List.nodup_nil
  | @cons member entry members entries hname hrest ih =>
      obtain ⟨hfirst, hkeys⟩ := List.pairwise_cons.mp hkeys
      refine List.nodup_cons.mpr ⟨fun hmem => ?_, ih hkeys⟩
      obtain ⟨other, hother, heq⟩ := List.mem_map.mp hmem
      obtain ⟨entry', hentry', hname'⟩ := exists_mem_right_of_forall₂ hrest hother
      have hdistinct := hfirst entry' hentry'
      simp [hname, hname', heq, sameKey] at hdistinct

theorem perm_sortByName {α : Type} (members : List (LooseText × α)) :
    (sortByName members).Perm members :=
  List.mergeSort_perm _ _

theorem pairwise_sortByName {α : Type} (members : List (LooseText × α)) :
    (sortByName members).Pairwise fun a b => a.1 ≤ b.1 := by
  have hsorted : (sortByName members).Pairwise fun a b => decide (a.1 ≤ b.1) = true := by
    refine List.pairwise_mergeSort (fun a b c hab hbc => ?_) (fun a b => ?_) members
    · simpa using le_trans (by simpa using hab) (by simpa using hbc)
    · simpa using le_total a.1 b.1
  simpa using hsorted

theorem pairwise_lt_sortByName {α : Type} {members : List (LooseText × α)}
    (h : (members.map (·.1)).Nodup) : ((sortByName members).map (·.1)).Pairwise (· < ·) := by
  have hnodup : ((sortByName members).map (·.1)).Nodup :=
    ((perm_sortByName members).map _).nodup_iff.mpr h
  exact List.pairwise_map.mpr
    (((pairwise_sortByName members).and (List.pairwise_map.mp hnodup)).imp
      fun ⟨hle, hne⟩ => lt_of_le_of_ne hle hne)

theorem sortByName_eq {α : Type} {members sorted : List (LooseText × α)}
    (hperm : sorted.Perm members)
    (hsorted : (sorted.map (·.1)).Pairwise (· < ·)) : sortByName members = sorted := by
  have hnodup : (sorted.map (·.1)).Nodup := hsorted.imp ne_of_lt
  have hle : sorted.Pairwise fun a b => a.1 ≤ b.1 := List.pairwise_map.mp (hsorted.imp le_of_lt)
  refine List.Perm.eq_of_pairwise ?_ (pairwise_sortByName members) hle
    ((perm_sortByName members).trans hperm.symm)
  intro a b ha hb hab hba
  have hmem : a ∈ sorted := hperm.mem_iff.mpr ((perm_sortByName members).mem_iff.mp ha)
  exact List.inj_on_of_nodup_map hnodup hmem hb (le_antisymm hab hba)

/-- The names of entries increase. -/
def NamesIncrease (entries : List (Value × Value)) : Prop :=
  ∃ names : List LooseText, entries.map (·.1) = names.map .str ∧ names.Pairwise (· < ·)

theorem keysDistinct_of_namesIncrease {entries : List (Value × Value)} (h : NamesIncrease entries) :
    KeysDistinct entries := by
  obtain ⟨names, hnames, hincrease⟩ := h
  have hdistinct : (names.map Value.str).Pairwise fun a b => sameKey a b = false :=
    List.pairwise_map.mpr (hincrease.imp fun hlt => by simpa [sameKey] using ne_of_lt hlt)
  exact List.pairwise_map.mp (hnames ▸ hdistinct)

theorem exists_name_of_namesIncrease {entries : List (Value × Value)} (h : NamesIncrease entries) :
    ∀ entry ∈ entries, ∃ name, entry.1 = .str name := by
  obtain ⟨names, hnames, -⟩ := h
  intro entry hentry
  have hmem : entry.1 ∈ names.map Value.str := hnames ▸ List.mem_map_of_mem hentry
  obtain ⟨name, -, hname⟩ := List.mem_map.mp hmem
  exact ⟨name, hname.symm⟩

theorem namesIncrease_of_forall₂ {α : Type} {members : List (LooseText × α)}
    {entries : List (Value × Value)}
    (h : List.Forall₂ (fun member entry => entry.1 = .str member.1) members entries) :
    NamesIncrease entries ↔ (members.map (·.1)).Pairwise (· < ·) := by
  have hmap : entries.map (·.1) = (members.map (·.1)).map .str := by
    induction h with
    | nil => rfl
    | cons hname _ ih => simp [hname, ih]
  constructor
  · rintro ⟨names, hnames, hincrease⟩
    rw [hmap] at hnames
    rwa [List.map_injective_iff.mpr (fun _ _ => Value.str.inj) hnames]
  · exact fun hincrease => ⟨_, hmap, hincrease⟩

/-- The canonical form of a map has the canonical forms of its values under their names, whose order
is the increasing one. -/
theorem canonicalizeIn_map_eq_ok_iff {entries : List (Value × Value)} {form : Value}
    (hkeys : KeysDistinct entries) :
    canonicalizeIn room (.map entries) = .ok form ↔
      ∃ n sorted members, room = n + 1 ∧ form = .map members ∧ sorted.Perm entries ∧
        NamesIncrease members ∧ List.Forall₂ (fun entry member => (∃ name, entry.1 = .str name) ∧
          member.1 = entry.1 ∧ canonicalizeIn n entry.2 = .ok member.2) sorted members := by
  simp only [canonicalizeIn, bind_eq_ok_iff, enterShape_eq_ok_iff, checkKeys_eq_ok_iff, pure,
    Except.pure, Except.ok.injEq]
  constructor
  · rintro ⟨-, hnames, n, hroom, members, hmembers, rfl⟩
    have hcollect := collect_eq_ok_iff.mp hmembers
    have hresults := forall₂_canonicalizeMembers n hnames
    -- sorting the results rearranges the entries that they come from in the same way
    obtain ⟨sorted, hsorted, hperm⟩ := List.perm_comp_forall₂ (perm_sortByName _) hresults
    refine ⟨n, sorted, members, hroom, rfl, hperm, ?_, ?_⟩
    · rw [namesIncrease_of_forall₂ (hcollect.imp fun _ _ h => h.1)]
      exact pairwise_lt_sortByName (nodup_names hkeys (hresults.imp fun _ _ h => h.1))
    · refine forall₂_comp ?_ hsorted.flip hcollect.flip
      rintro entry member form ⟨hname, hresult⟩ ⟨hname', hresult'⟩
      exact ⟨⟨_, hname⟩, hname'.trans hname.symm, hresult.symm.trans hresult'⟩
  · rintro ⟨n, sorted, members, hroom, rfl, hperm, hincrease, hforms⟩
    have hnames : ∀ entry ∈ sorted, ∃ name, entry.1 = .str name := by
      intro entry hentry
      obtain ⟨member, -, hname, -⟩ := exists_mem_right_of_forall₂ hforms hentry
      exact hname
    have hresults := forall₂_canonicalizeMembers n hnames
    have hcollect : collect (canonicalizeMembers n sorted) = .ok members := by
      refine collect_eq_ok_iff.mpr (forall₂_comp ?_ hresults hforms.flip)
      rintro member entry form ⟨hname, hresult⟩ ⟨-, hname', hresult'⟩
      exact ⟨hname'.trans hname, hresult.trans hresult'⟩
    rw [namesIncrease_of_forall₂ ((collect_eq_ok_iff.mp hcollect).imp fun _ _ h => h.1)]
      at hincrease
    refine ⟨(), fun entry hentry => hnames entry (hperm.mem_iff.mpr hentry), n, hroom, members, ?_,
      rfl⟩
    rw [sortByName_eq (perm_canonicalizeMembers hperm) hincrease, hcollect]

end TransparencyLog.Json
