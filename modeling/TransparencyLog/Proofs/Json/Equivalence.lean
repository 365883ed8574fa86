import TransparencyLog.Proofs.Json.CanonicalForm
import TransparencyLog.Proofs.Json.RoundTrip
import TransparencyLog.Proofs.Text.Utf8

namespace TransparencyLog.Json

open Value

/-- Equal but for the order in which entries stand in maps, and for tuples in the place of lists. -/
inductive Equivalent : Value → Value → Prop
  | refl (value : Value) : Equivalent value value
  | items {u v : Value} {xs ys : List Value} (hu : items? u = some xs) (hv : items? v = some ys)
      (h : List.Forall₂ Equivalent xs ys) : Equivalent u v
  | map {entries arranged entries' : List (Value × Value)}
      (hkeys : entries.map (·.1) = arranged.map (·.1))
      (h : List.Forall₂ (fun a b => Equivalent a.2 b.2) entries arranged)
      (hperm : arranged.Perm entries') : Equivalent (.map entries) (.map entries')

variable {room : Nat}

theorem canonicalizeIn_cases {value form : Value} (h : canonicalizeIn room value = .ok form) :
    (∃ items forms, items? value = some items ∧ form = .list forms) ∨
      (∃ entries members, value = .map entries ∧ form = .map members) ∨
      (value = form ∧ items? form = none) := by
  cases hitems : items? value with
  | some items =>
      obtain ⟨n, forms, -, rfl, -⟩ := (canonicalizeIn_items_eq_ok_iff hitems).mp h
      exact .inl ⟨items, forms, rfl, rfl⟩
  | none =>
      cases value with
      | list items => cases hitems
      | tuple items => cases hitems
      | map entries =>
          simp only [canonicalizeIn, bind_eq_ok_iff, pure, Except.pure, Except.ok.injEq] at h
          obtain ⟨-, -, n, -, members, -, rfl⟩ := h
          exact .inr (.inl ⟨entries, members, rfl, rfl⟩)
      | float x => cases h
      | _ =>
          obtain rfl := Except.ok.inj h
          exact .inr (.inr ⟨rfl, rfl⟩)

theorem exists_items_of_canonicalizeIn {value : Value} {forms : List Value}
    (h : canonicalizeIn room value = .ok (.list forms)) :
    ∃ items n, items? value = some items ∧ room = n + 1 ∧
      List.Forall₂ (fun item form => canonicalizeIn n item = .ok form) items forms := by
  have hitems : ∃ items, items? value = some items := by
    rcases canonicalizeIn_cases h with ⟨items, -, hitems, -⟩ | ⟨_, _, -, hform⟩ | ⟨-, hform⟩
    · exact ⟨items, hitems⟩
    · cases hform
    · cases hform
  obtain ⟨items, hitems⟩ := hitems
  obtain ⟨n, _, rfl, hforms, hitem⟩ := (canonicalizeIn_items_eq_ok_iff hitems).mp h
  cases hforms
  exact ⟨items, n, hitems, rfl, hitem⟩

theorem exists_entries_of_canonicalizeIn {value : Value} {members : List (Value × Value)}
    (h : canonicalizeIn room value = .ok (.map members)) : ∃ entries, value = .map entries := by
  rcases canonicalizeIn_cases h with ⟨_, _, -, hform⟩ | ⟨entries, -, rfl, -⟩ | ⟨rfl, -⟩
  · cases hform
  · exact ⟨entries, rfl⟩
  · exact ⟨members, rfl⟩

theorem eq_of_canonicalizeIn {value form : Value} (hlist : ∀ forms, form ≠ .list forms)
    (hmap : ∀ members, form ≠ .map members) (h : canonicalizeIn room value = .ok form) :
    value = form ∧ items? form = none := by
  rcases canonicalizeIn_cases h with ⟨_, forms, -, rfl⟩ | ⟨_, members, -, rfl⟩ | hform
  · exact absurd rfl (hlist forms)
  · exact absurd rfl (hmap members)
  · exact hform

theorem hasDistinctKeys_of_items {value : Value} {items : List Value} (h : value.HasDistinctKeys)
    (hitems : items? value = some items) : ∀ item ∈ items, item.HasDistinctKeys := by
  cases value <;> simp only [items?, reduceCtorEq, Option.some.injEq] at hitems <;> subst hitems <;>
    exact haveDistinctKeys_iff.mp h

theorem equivalent_of_canonicalizeIn {u v form : Value} {room' : Nat} (hu : u.HasDistinctKeys)
    (hv : v.HasDistinctKeys) (h : canonicalizeIn room u = .ok form)
    (h' : canonicalizeIn room' v = .ok form) : Equivalent u v := by
  -- on the form and not on `u`: it has one shape where `u` and `v` may be a tuple and a list
  induction form using nestedInduction generalizing u v room room' with
  | list forms ih =>
      obtain ⟨xs, n, hxs, -, hitems⟩ := exists_items_of_canonicalizeIn h
      obtain ⟨ys, m, hys, -, hitems'⟩ := exists_items_of_canonicalizeIn h'
      refine .items hxs hys (forall₂_comp ?_ (forall₂_and_mem hitems) (forall₂_and_mem hitems'))
      rintro x form y ⟨⟨hx, hform⟩, hcanonical⟩ ⟨⟨hy, -⟩, hcanonical'⟩
      exact ih form hform (hasDistinctKeys_of_items hu hxs x hx)
        (hasDistinctKeys_of_items hv hys y hy) hcanonical hcanonical'
  | map members ih =>
      obtain ⟨entries, rfl⟩ := exists_entries_of_canonicalizeIn h
      obtain ⟨entries', rfl⟩ := exists_entries_of_canonicalizeIn h'
      obtain ⟨n, sorted, _, -, hform, hperm, -, hitems⟩ := (canonicalizeIn_map_eq_ok_iff hu.1).mp h
      obtain ⟨m, sorted', _, -, hform', hperm', -, hitems'⟩ :=
        (canonicalizeIn_map_eq_ok_iff hv.1).mp h'
      cases hform
      cases hform'
      have hpair : List.Forall₂ (fun a b => a.1 = b.1 ∧ Equivalent a.2 b.2) sorted sorted' := by
        refine forall₂_comp ?_ (forall₂_and_mem hitems) (forall₂_and_mem hitems')
        rintro a member b ⟨⟨ha, hmember⟩, -, hkey, hcanonical⟩ ⟨⟨hb, -⟩, -, hkey', hcanonical'⟩
        have hvalue := entriesHaveDistinctKeys_iff.mp hu.2 a (hperm.mem_iff.mp ha)
        have hvalue' := entriesHaveDistinctKeys_iff.mp hv.2 b (hperm'.mem_iff.mp hb)
        exact ⟨hkey.symm.trans hkey', ih member hmember hvalue hvalue' hcanonical hcanonical'⟩
      obtain ⟨arranged, harranged, hperm''⟩ := List.perm_comp_forall₂ hperm.symm hpair
      exact .map (map_eq_map_iff_forall₂.mpr (harranged.imp fun _ _ h => h.1))
        (harranged.imp fun _ _ h => h.2) (hperm''.trans hperm')
  | _ =>
      obtain ⟨rfl, -⟩ := eq_of_canonicalizeIn (by simp) (by simp) h
      obtain ⟨rfl, -⟩ := eq_of_canonicalizeIn (by simp) (by simp) h'
      exact .refl _

theorem canonicalizeIn_of_equivalent {u v form : Value} (hu : u.HasDistinctKeys)
    (hv : v.HasDistinctKeys) (hequivalent : Equivalent u v)
    (h : canonicalizeIn room u = .ok form) : canonicalizeIn room v = .ok form := by
  induction form using nestedInduction generalizing u v room with
  | list forms ih =>
      obtain ⟨xs, n, hxs, rfl, hitems⟩ := exists_items_of_canonicalizeIn h
      cases hequivalent with
      | refl => exact h
      | @items _ _ xs' ys hxs' hys hpair =>
          obtain rfl : xs = xs' := by rw [← Option.some_inj, ← hxs, hxs']
          refine (canonicalizeIn_items_eq_ok_iff hys).mpr ⟨n, forms, rfl, rfl, ?_⟩
          refine forall₂_comp ?_ (forall₂_and_mem hpair).flip (forall₂_and_mem hitems).flip
          rintro y x form ⟨⟨hx, hy⟩, hxy⟩ ⟨⟨-, hform⟩, hcanonical⟩
          exact ih form hform (hasDistinctKeys_of_items hu hxs x hx)
            (hasDistinctKeys_of_items hv hys y hy) hxy hcanonical
      | map => cases hxs
  | map members ih =>
      obtain ⟨entries, rfl⟩ := exists_entries_of_canonicalizeIn h
      cases hequivalent with
      | refl => exact h
      | items hxs => cases hxs
      | @map _ arranged entries' hkeys hpair hperm =>
          obtain ⟨n, sorted, _, rfl, hform, hperm', hincrease, hitems⟩ :=
            (canonicalizeIn_map_eq_ok_iff hu.1).mp h
          cases hform
          obtain ⟨arranged', harranged, hperm''⟩ :=
            List.perm_comp_forall₂ hperm' (forall₂_and (map_eq_map_iff_forall₂.mp hkeys) hpair)
          refine (canonicalizeIn_map_eq_ok_iff hv.1).mpr
            ⟨n, arranged', members, rfl, rfl, hperm''.trans hperm, hincrease, ?_⟩
          refine forall₂_comp ?_ (forall₂_and_mem harranged).flip (forall₂_and_mem hitems).flip
          rintro b a member ⟨⟨ha, hb⟩, hkey, hab⟩ ⟨⟨-, hmember⟩, hname, hkey', hcanonical⟩
          have hvalue := entriesHaveDistinctKeys_iff.mp hu.2 a (hperm'.mem_iff.mp ha)
          have hvalue' :=
            entriesHaveDistinctKeys_iff.mp hv.2 b ((hperm''.trans hperm).mem_iff.mp hb)
          exact ⟨hkey ▸ hname, hkey'.trans hkey, ih member hmember hvalue hvalue' hab hcanonical⟩
  | _ =>
      obtain ⟨rfl, hnone⟩ := eq_of_canonicalizeIn (by simp) (by simp) h
      cases hequivalent with
      | refl => exact h
      | items hxs =>
          rw [hnone] at hxs
          cases hxs

/-- The items of a canonical form are canonical forms, and so are the values in it under names that
increase. -/
theorem exists_of_canonicalizeIn_list {value : Value} {forms : List Value}
    (hvalue : value.HasDistinctKeys) (h : canonicalizeIn room value = .ok (.list forms)) :
    ∃ n, room = n + 1 ∧ ∀ form ∈ forms, ∃ item : Value, item.HasDistinctKeys ∧
      canonicalizeIn n item = .ok form := by
  obtain ⟨items, n, hitems, hroom, hforms⟩ := exists_items_of_canonicalizeIn h
  refine ⟨n, hroom, fun form hform => ?_⟩
  obtain ⟨item, hitem, hcanonical⟩ := exists_mem_left_of_forall₂ hforms hform
  exact ⟨item, hasDistinctKeys_of_items hvalue hitems item hitem, hcanonical⟩

theorem exists_of_canonicalizeIn_map {value : Value} {members : List (Value × Value)}
    (hvalue : value.HasDistinctKeys) (h : canonicalizeIn room value = .ok (.map members)) :
    ∃ n, room = n + 1 ∧ NamesIncrease members ∧ ∀ member ∈ members, ∃ part : Value,
      part.HasDistinctKeys ∧ canonicalizeIn n part = .ok member.2 := by
  obtain ⟨entries, rfl⟩ := exists_entries_of_canonicalizeIn h
  obtain ⟨n, sorted, _, hroom, hform, hperm, hincrease, hforms⟩ :=
    (canonicalizeIn_map_eq_ok_iff hvalue.1).mp h
  cases hform
  refine ⟨n, hroom, hincrease, fun member hmember => ?_⟩
  obtain ⟨entry, hentry, -, -, hcanonical⟩ := exists_mem_left_of_forall₂ hforms hmember
  exact ⟨entry.2, entriesHaveDistinctKeys_iff.mp hvalue.2 entry (hperm.mem_iff.mp hentry),
    hcanonical⟩

theorem isDocument_of_canonicalizeIn {value form : Value} {layout : Layout} {depth : Nat}
    {cs : List CodePoint} (hvalue : value.HasDistinctKeys)
    (h : canonicalizeIn room value = .ok form)
    (hprint : printChars layout depth form = .ok cs) : IsDocument form := by
  -- the form says which keys stand in it, the text that its integers are not too long
  induction form using nestedInduction generalizing value room depth cs with
  | null => exact .null
  | bool b => exact .bool b
  | int n =>
      obtain ⟨digits, hwrite, -⟩ := printChars_int_eq_ok_iff.mp hprint
      exact .int hwrite
  | str text => exact .str text
  | list forms ih =>
      obtain ⟨n, -, hforms⟩ := exists_of_canonicalizeIn_list hvalue h
      obtain ⟨texts, htexts, -⟩ := printChars_list_eq_ok_iff.mp hprint
      refine .list fun form hform => ?_
      obtain ⟨item, hitem, hcanonical⟩ := hforms form hform
      obtain ⟨text, htext⟩ := exists_printChars_of_mem_items htexts hform
      exact ih form hform hitem hcanonical htext
  | map members ih =>
      obtain ⟨n, -, hincrease, hforms⟩ := exists_of_canonicalizeIn_map hvalue h
      obtain ⟨texts, htexts, -⟩ := printChars_map_eq_ok_iff.mp hprint
      refine .map (exists_name_of_namesIncrease hincrease)
        (keysDistinct_of_namesIncrease hincrease) fun member hmember => ?_
      obtain ⟨part, hpart, hcanonical⟩ := hforms member hmember
      obtain ⟨text, htext⟩ := exists_printChars_of_mem_entries htexts hmember
      exact ih member hmember hpart hcanonical htext
  | float x =>
      obtain ⟨rfl, -⟩ := eq_of_canonicalizeIn (by simp) (by simp) h
      cases h
  | tuple forms _ =>
      obtain ⟨-, hnone⟩ := eq_of_canonicalizeIn (by simp) (by simp) h
      cases hnone
  | bytes octets => cases hprint
  | buffer octets => cases hprint
  | record content keyId signature => cases hprint

theorem canonicalBytes_eq_ok_iff {value : Value} {octets : Bytes} :
    canonicalBytes value = .ok octets ↔ ∃ form cs, canonicalize value = .ok form ∧
      printChars .compact 0 form = .ok (cs.map .char) ∧ octets = Utf8.encodeChars cs := by
  unfold canonicalBytes canonicalChars
  cases hform : canonicalize value with
  | error fault => simp
  | ok form =>
      cases hprint : printChars .compact 0 form with
      | error fault => simp [hprint]
      | ok codes =>
          cases hwhole : CodePoint.wholeChars codes with
          | error fault =>
              have htorn : ∀ cs : List Char, codes ≠ cs.map .char := by
                rintro cs rfl
                rw [CodePoint.wholeChars_map_char] at hwhole
                cases hwhole
              simp [hprint, hwhole, Except.mapError, htorn]
          | ok cs =>
              obtain rfl := CodePoint.wholeChars_eq_ok_iff.mp hwhole
              have hinjective := List.map_injective_iff.mpr CodePoint.char_injective
              simp [hprint, Except.mapError, hinjective.eq_iff, eq_comm]

/-- Values with the same canonical octets are equivalent, and equivalent values have the same. The
keys of each map differ from each other. -/
theorem canonicalBytes_eq_iff {u v : Value} {octets octets' : Bytes} (hu : u.HasDistinctKeys)
    (hv : v.HasDistinctKeys) (h : canonicalBytes u = .ok octets)
    (h' : canonicalBytes v = .ok octets') : octets = octets' ↔ Equivalent u v := by
  obtain ⟨form, cs, hform, hprint, rfl⟩ := canonicalBytes_eq_ok_iff.mp h
  obtain ⟨form', cs', hform', hprint', rfl⟩ := canonicalBytes_eq_ok_iff.mp h'
  constructor
  · intro heq
    obtain rfl : cs = cs' := Utf8.encodeChars_injective heq
    have hdocument := isDocument_of_canonicalizeIn hu hform hprint
    have hdocument' := isDocument_of_canonicalizeIn hv hform' hprint'
    obtain rfl : form = form' :=
      hdocument.eq_of_printChars Layout.isSpaced_compact hdocument' hprint hprint'
    exact equivalent_of_canonicalizeIn hu hv hform hform'
  · intro hequivalent
    have hsame := canonicalizeIn_of_equivalent hu hv hequivalent hform
    obtain rfl : form = form' := Except.ok.inj (hsame.symm.trans hform')
    have hchars := Except.ok.inj (hprint.symm.trans hprint')
    rw [List.map_injective_iff.mpr CodePoint.char_injective hchars]

/-- The order of names and a tuple in the place of a list leave no mark on the octets. -/
theorem exists_canonicalBytes_of_rearranged :
    ∃ octets, canonicalBytes (.object [("b", .tuple [.int (-1)]), ("a", .null)]) = .ok octets ∧
      canonicalBytes (.object [("a", .null), ("b", .list [.int (-1)])]) = .ok octets := by
  have hab : LooseText.whole "a" ≤ .whole "b" := by decide
  have hba : ¬ LooseText.whole "b" ≤ .whole "a" := by decide
  have hform : canonicalize (.object [("b", .tuple [.int (-1)]), ("a", .null)]) =
      .ok (.object [("a", .null), ("b", .list [.int (-1)])]) := by
    simp [canonicalize, canonicalizeIn, object, checkKeys, enterShape, canonicalLimit,
      canonicalizeMembers, canonicalizeItems, sortByName, List.mergeSort, hba, collect]
  have hform' : canonicalize (.object [("a", .null), ("b", .list [.int (-1)])]) =
      .ok (.object [("a", .null), ("b", .list [.int (-1)])]) := by
    simp [canonicalize, canonicalizeIn, object, checkKeys, enterShape, canonicalLimit,
      canonicalizeMembers, canonicalizeItems, sortByName, List.mergeSort, hab, collect]
  have hprint : printChars .compact 0 (.object [("a", .null), ("b", .list [.int (-1)])]) =
      .ok (['\x7b', '"', 'a', '"', ':', 'n', 'u', 'l', 'l', ',', '"', 'b', '"', ':', '[', '-',
        '1', ']', '\x7d'].map .char) := by
    decide +kernel
  have hdistinct : (Value.object [("b", .tuple [.int (-1)]), ("a", .null)]).HasDistinctKeys := by
    simp [object, HasDistinctKeys, HaveDistinctKeys, EntriesHaveDistinctKeys, KeysDistinct, sameKey]
  have hdistinct' : (Value.object [("a", .null), ("b", .list [.int (-1)])]).HasDistinctKeys := by
    simp [object, HasDistinctKeys, HaveDistinctKeys, EntriesHaveDistinctKeys, KeysDistinct, sameKey]
  have hequivalent : Equivalent (.object [("b", .tuple [.int (-1)]), ("a", .null)])
      (.object [("a", .null), ("b", .list [.int (-1)])]) := by
    have hperm : List.Perm [(Value.str "b", Value.list [.int (-1)]), (.str "a", .null)]
        [(.str "a", .null), (.str "b", .list [.int (-1)])] := List.Perm.swap _ _ _
    refine .map ?_ ?_ hperm
    · rfl
    · exact .cons (.items rfl rfl (.cons (.refl _) .nil)) (.cons (.refl _) .nil)
  have h := canonicalBytes_eq_ok_iff.mpr ⟨_, _, hform, hprint, rfl⟩
  have h' := canonicalBytes_eq_ok_iff.mpr ⟨_, _, hform', hprint, rfl⟩
  have heq := (canonicalBytes_eq_iff hdistinct hdistinct' h h').mpr hequivalent
  exact ⟨_, h, heq ▸ h'⟩

end TransparencyLog.Json
