import TransparencyLog.Value

namespace TransparencyLog.Value

/-- Induction on the values inside a value; the keys of maps and the fields of records are left
out. -/
@[elab_as_elim]
theorem nestedInduction {P : Value → Prop} (null : P .null) (bool : ∀ b, P (.bool b))
    (int : ∀ n, P (.int n)) (float : ∀ x, P (.float x)) (str : ∀ text, P (.str text))
    (bytes : ∀ octets, P (.bytes octets)) (buffer : ∀ octets, P (.buffer octets))
    (list : ∀ items, (∀ item ∈ items, P item) → P (.list items))
    (tuple : ∀ items, (∀ item ∈ items, P item) → P (.tuple items))
    (map : ∀ entries, (∀ entry ∈ entries, P entry.2) → P (.map entries))
    (record : ∀ content keyId signature, P (.record content keyId signature)) (value : Value) :
    P value := by
  refine @Value.rec P (fun items => ∀ item ∈ items, P item)
    (fun entries => ∀ entry ∈ entries, P entry.2) (fun entry => P entry.2) null bool int float str
    bytes buffer list tuple map
    (fun content keyId signature _ _ _ => record content keyId signature) ?_ ?_ ?_ ?_ ?_ value
  · simp
  · intro item items hitem hitems
    exact List.forall_mem_cons.mpr ⟨hitem, hitems⟩
  · simp
  · intro entry entries hentry hentries
    exact List.forall_mem_cons.mpr ⟨hentry, hentries⟩
  · exact fun _ _ _ hvalue => hvalue

/-- No two of the entries have one key. -/
def KeysDistinct (entries : List (Value × Value)) : Prop :=
  entries.Pairwise fun a b => sameKey a.1 b.1 = false

mutual

/-- The values whose maps, here and inside lists and maps, have each key once. -/
def HasDistinctKeys : Value → Prop
  | .list items | .tuple items => HaveDistinctKeys items
  | .map entries => KeysDistinct entries ∧ EntriesHaveDistinctKeys entries
  | _ => True

/-- Each of the items has distinct keys in its maps. -/
def HaveDistinctKeys : List Value → Prop
  | [] => True
  | item :: rest => HasDistinctKeys item ∧ HaveDistinctKeys rest

/-- Each of the values under keys has distinct keys in its maps. -/
def EntriesHaveDistinctKeys : List (Value × Value) → Prop
  | [] => True
  | (_, value) :: rest => HasDistinctKeys value ∧ EntriesHaveDistinctKeys rest

end

mutual

/-- How many lists and maps stand inside each other in a value. -/
def nesting : Value → Nat
  | .list items | .tuple items => nestingOfItems items + 1
  | .map entries => nestingOfEntries entries + 1
  | _ => 0

/-- How many lists and maps stand inside each other in one of the items. -/
def nestingOfItems : List Value → Nat
  | [] => 0
  | item :: rest => max (nesting item) (nestingOfItems rest)

/-- How many lists and maps stand inside each other in one of the values under keys. -/
def nestingOfEntries : List (Value × Value) → Nat
  | [] => 0
  | (_, value) :: rest => max (nesting value) (nestingOfEntries rest)

end

theorem haveDistinctKeys_iff {items : List Value} :
    HaveDistinctKeys items ↔ ∀ item ∈ items, HasDistinctKeys item := by
  induction items with
  | nil => simp [HaveDistinctKeys]
  | cons item items ih => rw [HaveDistinctKeys, ih, List.forall_mem_cons]

theorem entriesHaveDistinctKeys_iff {entries : List (Value × Value)} :
    EntriesHaveDistinctKeys entries ↔ ∀ entry ∈ entries, HasDistinctKeys entry.2 := by
  induction entries with
  | nil => simp [EntriesHaveDistinctKeys]
  | cons entry entries ih => rw [EntriesHaveDistinctKeys, ih, List.forall_mem_cons]

theorem nestingOfItems_le_iff {items : List Value} {n : Nat} :
    nestingOfItems items ≤ n ↔ ∀ item ∈ items, nesting item ≤ n := by
  induction items with
  | nil => simp [nestingOfItems]
  | cons item items ih => rw [nestingOfItems, Nat.max_le, ih, List.forall_mem_cons]

theorem nestingOfEntries_le_iff {entries : List (Value × Value)} {n : Nat} :
    nestingOfEntries entries ≤ n ↔ ∀ entry ∈ entries, nesting entry.2 ≤ n := by
  induction entries with
  | nil => simp [nestingOfEntries]
  | cons entry entries ih => rw [nestingOfEntries, Nat.max_le, ih, List.forall_mem_cons]

theorem insert_eq_append {key value : Value} {entries : List (Value × Value)}
    (h : ∀ entry ∈ entries, sameKey entry.1 key = false) :
    insert key value entries = entries ++ [(key, value)] := by
  induction entries with
  | nil => rfl
  | cons entry entries ih =>
      rw [insert, if_neg (by simp [h entry (by simp)]),
        ih fun other hother => h other (by simp [hother])]
      rfl

theorem foldl_insert {pairs : List (Value × Value)} (entries : List (Value × Value))
    (h : KeysDistinct (entries ++ pairs)) :
    pairs.foldl (fun entries pair => insert pair.1 pair.2 entries) entries = entries ++ pairs := by
  induction pairs generalizing entries with
  | nil => simp
  | cons pair pairs ih =>
      have hpair : ∀ entry ∈ entries, sameKey entry.1 pair.1 = false := by
        intro entry hentry
        exact (List.pairwise_append.mp h).2.2 entry hentry pair (by simp)
      rw [List.foldl_cons, insert_eq_append hpair, ih _ (by simpa using h)]
      simp

theorem entriesOf_eq_self {entries : List (Value × Value)} (h : KeysDistinct entries) :
    entriesOf entries = entries := by
  rw [entriesOf, foldl_insert [] (by simpa using h), List.nil_append]

section Entries

variable {P Q : Value → Prop} {entries pairs : List (Value × Value)} {entry : Value × Value}

theorem of_mem_insert {key value : Value} (h : ∀ entry ∈ entries, P entry.1 ∧ Q entry.2)
    (hnew : P key ∧ Q value) (hentry : entry ∈ insert key value entries) :
    P entry.1 ∧ Q entry.2 := by
  induction entries with
  | nil =>
      rw [insert, List.mem_singleton] at hentry
      rwa [hentry]
  | cons first entries ih =>
      obtain ⟨hfirst, hrest⟩ := List.forall_mem_cons.mp h
      rw [insert] at hentry
      split at hentry
      · rcases List.mem_cons.mp hentry with rfl | hentry
        · exact ⟨hfirst.1, hnew.2⟩
        · exact hrest entry hentry
      · rcases List.mem_cons.mp hentry with rfl | hentry
        · exact hfirst
        · exact ih hrest hentry

theorem of_mem_entriesOf (h : ∀ pair ∈ pairs, P pair.1 ∧ Q pair.2)
    (hentry : entry ∈ entriesOf pairs) : P entry.1 ∧ Q entry.2 := by
  have hfold : ∀ entries, (∀ entry ∈ entries, P entry.1 ∧ Q entry.2) → ∀ entry ∈
      pairs.foldl (fun entries pair => insert pair.1 pair.2 entries) entries,
        P entry.1 ∧ Q entry.2 := by
    clear hentry
    induction pairs with
    | nil => exact fun entries h => h
    | cons pair pairs ih =>
        obtain ⟨hpair, hpairs⟩ := List.forall_mem_cons.mp h
        exact fun entries hentries =>
          ih hpairs _ fun entry hentry => of_mem_insert hentries hpair hentry
  exact hfold [] (by simp) entry hentry

end Entries

end TransparencyLog.Value
