import Mathlib.Algebra.Group.Nat.Even
import TransparencyLog.Proofs.Json.Escape
import TransparencyLog.Proofs.Json.Overlong
import TransparencyLog.Proofs.Outcome
import TransparencyLog.Proofs.Value

namespace TransparencyLog.Json

open CodePoint

/-- The backslashes at the end stand in pairs: none of them escapes what follows. -/
def EndsInPairs (front : List CodePoint) : Prop :=
  Even (front.reverse.takeWhile (· = .char '\\')).length

/-- An escape that names a unit of two octets: a backslash that no other one escapes, and digits. -/
def EscapesUnit (cs : List CodePoint) (place n : Nat) : Prop :=
  ∃ a b c d, unit? a b c d = some n ∧ [.char '\\', .char 'u', a, b, c, d] <+: cs.drop place ∧
    EndsInPairs (cs.take place)

/-- One half of a surrogate pair is escaped without the other one. -/
def HasLoneHalf (cs : List CodePoint) : Prop :=
  (∃ place high, EscapesUnit cs place high ∧ isHigh high = true ∧
      ∀ low, EscapesUnit cs (place + 6) low → isLow low = false) ∨
    ∃ place low, EscapesUnit cs place low ∧ isLow low = true ∧
      ∀ front high, place = front + 6 → EscapesUnit cs front high → isHigh high = false

variable {cs front rest opening done left text : List CodePoint} {a b c d code : CodePoint}
  {n : Nat}

theorem mem_of_escapesUnit {place n : Nat} (h : EscapesUnit cs place n) : .char '\\' ∈ cs := by
  obtain ⟨a, b, c, d, -, hescape, -⟩ := h
  exact List.mem_of_mem_drop (hescape.subset List.mem_cons_self)

theorem not_hasLoneHalf (h : .char '\\' ∉ cs) : ¬ HasLoneHalf cs := by
  rintro (⟨place, high, hescape, -⟩ | ⟨place, low, hescape, -⟩)
  · exact h (mem_of_escapesUnit hescape)
  · exact h (mem_of_escapesUnit hescape)

theorem escapesUnit_of_append (hunit : unit? a b c d = some n) (h : EndsInPairs front) :
    EscapesUnit (front ++ .char '\\' :: .char 'u' :: a :: b :: c :: d :: rest) front.length n := by
  refine ⟨a, b, c, d, hunit, ?_, ?_⟩
  · rw [List.drop_left]
    exact ⟨rest, rfl⟩
  · rwa [List.take_left]

theorem endsInPairs_concat (h : code ≠ .char '\\') (front : List CodePoint) :
    EndsInPairs (front ++ [code]) := by
  simp [EndsInPairs, h]

theorem endsInPairs_backslash_iff :
    EndsInPairs (front ++ [char '\\']) ↔ ¬ EndsInPairs front := by
  simp [EndsInPairs, Nat.even_add_one]

theorem ne_of_unit? (hunit : unit? a b c d = some n) (hcode : digitValue? code = none) :
    code ∉ [a, b, c, d] := by
  intro hmem
  simp only [unit?, Option.bind_eq_bind, Option.bind_eq_some_iff] at hunit
  obtain ⟨_, ha, _, hb, _, hc, _, hd, -⟩ := hunit
  simp only [List.mem_cons, List.not_mem_nil, or_false] at hmem
  rcases hmem with rfl | rfl | rfl | rfl
  · rw [hcode] at ha
    cases ha
  · rw [hcode] at hb
    cases hb
  · rw [hcode] at hc
    cases hc
  · rw [hcode] at hd
    cases hd

/-- The first of the code points after `front` starts no escape that a backslash in front of it has
begun, and no first half is escaped right in front of it. -/
structure IsAtCode (front : List CodePoint) : Prop where
  paired : EndsInPairs front
  settled : ∀ {before tail a b c d n}, front = before ++ char '\\' :: tail → EndsInPairs before →
    unit? a b c d = some n → tail <+: [char 'u', a, b, c, d] → tail.length = 5 ∧ isHigh n = false

theorem cases_of_append {more before tail : List CodePoint}
    (h : front ++ more = before ++ code :: tail) :
    (∃ inside, before = front ++ inside ∧ more = inside ++ code :: tail) ∨
      ∃ inside, front = before ++ code :: inside ∧ tail = inside ++ more := by
  rcases List.append_eq_append_iff.mp h with ⟨inside, hbefore, hmore⟩ | ⟨inside, hfront, htail⟩
  · exact .inl ⟨inside, hbefore, hmore⟩
  · cases inside with
    | nil => exact .inl ⟨[], by simpa using hfront.symm, by simpa using htail.symm⟩
    | cons first inside =>
        obtain ⟨rfl, rfl⟩ := List.cons.inj htail
        exact .inr ⟨inside, hfront, rfl⟩

theorem isAtCode_quote (front : List CodePoint) : IsAtCode (front ++ [char '"']) := by
  refine ⟨endsInPairs_concat (by simp) front, fun {before tail a b c d n} heq _ hunit htail => ?_⟩
  have hquote : char '"' ∈ tail := by
    rcases cases_of_append heq with ⟨inside, -, hmore⟩ | ⟨inside, -, rfl⟩
    · have hbackslash : char '\\' ∈ [char '"'] := hmore ▸ by simp
      simp at hbackslash
    · simp
  have hdigits : char '"' ∉ [a, b, c, d] := ne_of_unit? hunit rfl
  have hmem := htail.subset hquote
  rw [List.mem_cons] at hmem
  rcases hmem with hu | hmem
  · simp at hu
  · exact absurd hmem hdigits

namespace IsAtCode

variable (h : IsAtCode front)

include h

theorem not_settled {before inside more : List CodePoint}
    (heq : front = before ++ char '\\' :: inside)
    (hbefore : EndsInPairs before) (hunit : unit? a b c d = some n) (hmore : more ≠ []) :
    ¬ inside ++ more <+: [char 'u', a, b, c, d] := by
  intro hprefix
  have hlength := hprefix.length_le
  have hfive := (h.settled heq hbefore hunit ((List.prefix_append _ _).trans hprefix)).1
  rw [List.length_append, hfive] at hlength
  have hpos := List.length_pos_iff.mpr hmore
  simp only [List.length_cons, List.length_nil] at hlength
  omega

theorem plain (hcode : code ≠ char '\\') : IsAtCode (front ++ [code]) := by
  refine ⟨endsInPairs_concat hcode front, fun {before tail a b c d n} heq hbefore hunit htail => ?_⟩
  rcases cases_of_append heq with ⟨inside, -, hmore⟩ | ⟨inside, hfront, rfl⟩
  · have hbackslash : char '\\' ∈ [code] := hmore ▸ by simp
    exact absurd (List.mem_singleton.mp hbackslash).symm hcode
  · exact absurd htail (h.not_settled hfront hbefore hunit (by simp))

theorem escaped (hcode : code ≠ char 'u') : IsAtCode (front ++ [char '\\', code]) := by
  have hodd : ¬ EndsInPairs (front ++ [char '\\']) := by
    rw [endsInPairs_backslash_iff, not_not]
    exact h.paired
  have hsplit : front ++ [char '\\', code] = front ++ [char '\\'] ++ [code] := by simp
  constructor
  · rw [hsplit]
    by_cases hbackslash : code = char '\\'
    · rwa [hbackslash, endsInPairs_backslash_iff]
    · exact endsInPairs_concat hbackslash _
  · intro before tail a b c d n heq hbefore hunit htail
    rcases cases_of_append heq with ⟨inside, rfl, hmore⟩ | ⟨inside, hfront, rfl⟩
    · match inside, hmore with
      | [], hmore =>
          obtain rfl : [code] = tail := (List.cons.inj hmore).2
          obtain ⟨rest, hrest⟩ := htail
          exact absurd (List.cons.inj hrest).1 hcode
      | [first], hmore =>
          obtain ⟨rfl, -⟩ := List.cons.inj hmore
          exact absurd hbefore hodd
      | _ :: _ :: inside, hmore => simp at hmore
    · exact absurd htail (h.not_settled hfront hbefore hunit (by simp))

end IsAtCode

theorem isAtCode_unit (front : List CodePoint) (hunit : unit? a b c d = some n)
    (hn : isHigh n = false) : IsAtCode (front ++ [char '\\', char 'u', a, b, c, d]) := by
  have hnone : char '\\' ∉ [a, b, c, d] := ne_of_unit? hunit rfl
  constructor
  · have hlast : d ≠ char '\\' := by
      rintro rfl
      simp at hnone
    have hsplit : front ++ [char '\\', char 'u', a, b, c, d] =
        front ++ [char '\\', char 'u', a, b, c] ++ [d] := by simp
    rw [hsplit]
    exact endsInPairs_concat hlast _
  · intro before tail a' b' c' d' n' heq hbefore hunit' htail
    rcases cases_of_append heq with ⟨inside, rfl, hmore⟩ | ⟨inside, -, rfl⟩
    · cases inside with
      | nil =>
          obtain ⟨-, rfl⟩ := List.cons.inj hmore
          have hsame := htail.eq_of_length rfl
          simp only [List.cons.injEq, and_true, true_and] at hsame
          obtain ⟨rfl, rfl, rfl, rfl⟩ := hsame
          rw [hunit] at hunit'
          obtain rfl := Option.some.inj hunit'
          exact ⟨rfl, hn⟩
      | cons first inside =>
          obtain ⟨-, hmore⟩ := List.cons.inj hmore
          have hbackslash : char '\\' ∈ [char 'u', a, b, c, d] := hmore ▸ by simp
          rcases List.mem_cons.mp hbackslash with hu | hmem
          · simp at hu
          · exact absurd hmem hnone
    · have hlength := htail.length_le
      simp only [List.length_append, List.length_cons, List.length_nil] at hlength
      omega

theorem exists_of_secondHalf? {low : Nat} (h : secondHalf? rest = .ok (some (low, left))) :
    ∃ a b c d, unit? a b c d = some low ∧ isLow low = true ∧
      rest = char '\\' :: char 'u' :: a :: b :: c :: d :: left := by
  unfold secondHalf? at h
  split at h
  · rename_i a b c d more rest
    split at h
    · cases h
    · rename_i low' hunit
      split at h
      · rename_i hlow
        obtain ⟨rfl, rfl⟩ := Prod.mk.inj (Option.some.inj (Except.ok.inj h))
        exact ⟨a, b, c, d, hunit, hlow, rfl⟩
      · cases h
  · cases h

/-- What an escape names: a character of its own, a unit that makes no pair with what follows, or a
character by both halves of its pair. -/
theorem cases_of_readEscape {backslash : List CodePoint}
    (h : readEscape backslash rest = .ok (code, left)) :
    (∃ first c, first ≠ char 'u' ∧ rest = first :: left ∧ code = char c) ∨
      (∃ a b c d n, unit? a b c d = some n ∧ rest = char 'u' :: a :: b :: c :: d :: left ∧
        code = .ofNat n ∧ (isHigh n = true → secondHalf? left = .ok none)) ∨
      ∃ high a b c d low, unit? a b c d = some low ∧ isLow low = true ∧
        rest = high ++ char '\\' :: char 'u' :: a :: b :: c :: d :: left ∧ ∃ c, code = char c := by
  have hshort : ∀ {name : CodePoint} {c : Char} {rest : List CodePoint}, name ≠ char 'u' →
      (Except.ok (char c, rest) : Except Stop _) = .ok (code, left) →
      ∃ first c, first ≠ char 'u' ∧ name :: rest = first :: left ∧ code = char c := by
    rintro name c rest hname h
    obtain ⟨rfl, rfl⟩ := Prod.mk.inj (Except.ok.inj h)
    exact ⟨name, c, hname, rfl, rfl⟩
  unfold readEscape at h
  split at h
  · rename_i a b c d next rest
    split at h
    · cases h
    · rename_i n hunit
      split at h
      · split at h
        · cases h
        · rename_i low left' hsecond
          obtain ⟨rfl, rfl⟩ := Prod.mk.inj (Except.ok.inj h)
          obtain ⟨a', b', c', d', hunit', hlow, heq⟩ := exists_of_secondHalf? hsecond
          exact .inr (.inr ⟨[char 'u', a, b, c, d], a', b', c', d', low, hunit', hlow,
            by rw [heq]; rfl, _, rfl⟩)
        · rename_i hsecond
          obtain ⟨rfl, rfl⟩ := Prod.mk.inj (Except.ok.inj h)
          exact .inr (.inl ⟨a, b, c, d, n, hunit, rfl, rfl, fun _ => hsecond⟩)
      · rename_i hhigh
        obtain ⟨rfl, rfl⟩ := Prod.mk.inj (Except.ok.inj h)
        exact .inr (.inl ⟨a, b, c, d, n, hunit, rfl, rfl, fun h => absurd h hhigh⟩)
  · cases h
  -- the short escapes, and what is none
  all_goals first
    | exact .inl (hshort (by simp) h)
    | cases h

theorem readString_unit_end (a b c d : CodePoint) (text left : List CodePoint) :
    readString opening done [char '\\', char 'u', a, b, c, d] ≠ .ok (text, left) := by
  intro h
  rw [readString] at h
  dsimp only [List.isEmpty_cons] at h
  rw [if_neg (by simp)] at h
  split at h
  · cases h
  · rename_i hread
    cases hread

theorem hasLoneHalf_of_high (hunit : unit? a b c d = some n) (hat : EndsInPairs front)
    (hhigh : isHigh n = true) (hsecond : secondHalf? left = .ok none)
    (hread : readString opening done left = .ok (text, rest)) :
    HasLoneHalf (front ++ char '\\' :: char 'u' :: a :: b :: c :: d :: left) := by
  refine .inl ⟨front.length, n, escapesUnit_of_append hunit hat, hhigh, fun low hlow => ?_⟩
  obtain ⟨a', b', c', d', hunit', hprefix, -⟩ := hlow
  have hdrop : (front ++ char '\\' :: char 'u' :: a :: b :: c :: d :: left).drop
      (front.length + 6) = left := by
    rw [← List.drop_drop, List.drop_left]
    rfl
  rw [hdrop] at hprefix
  obtain ⟨more, rfl⟩ := hprefix
  cases more with
  -- a text that ends with an escape is never closed, so something follows the second one
  | nil => exact absurd hread (readString_unit_end a' b' c' d' text rest)
  | cons next more =>
      simp only [List.cons_append, List.nil_append, secondHalf?, hunit', Except.ok.injEq,
        ite_eq_right_iff, reduceCtorEq, imp_false, Bool.not_eq_true] at hsecond
      exact hsecond

theorem hasLoneHalf_of_low (hunit : unit? a b c d = some n) (hat : IsAtCode front)
    (hlow : isLow n = true) :
    HasLoneHalf (front ++ char '\\' :: char 'u' :: a :: b :: c :: d :: left) := by
  refine .inr ⟨front.length, n, escapesUnit_of_append hunit hat.paired, hlow, ?_⟩
  rintro place high hplace ⟨a', b', c', d', hunit', ⟨more, hmore⟩, hpaired⟩
  rw [List.drop_append_of_le_length (by omega)] at hmore
  rw [List.take_append_of_le_length (by omega)] at hpaired
  have hlength : [char '\\', char 'u', a', b', c', d'].length = (front.drop place).length := by
    rw [List.length_drop, hplace]
    simp
  have hfront := List.take_append_drop place front
  rw [← (List.append_inj hmore hlength).1] at hfront
  exact (hat.settled hfront.symm hpaired hunit' (List.prefix_refl _)).2

theorem char_of_readEscape {backslash : List CodePoint} (hat : IsAtCode front)
    (hlone : ¬ HasLoneHalf (front ++ char '\\' :: rest))
    (hescape : readEscape backslash rest = .ok (code, left))
    (hread : ∃ opening done text more, readString opening done left = .ok (text, more)) :
    (∃ c, code = char c) ∧
      ∃ next, front ++ char '\\' :: rest = next ++ left ∧ IsAtCode next := by
  rcases cases_of_readEscape hescape with ⟨first, c, hfirst, rfl, hcode⟩ |
    ⟨a, b, c, d, n, hunit, rfl, rfl, hsecond⟩ |
    ⟨high, a, b, c, d, low, hunit, hlow, rfl, hcode⟩
  · exact ⟨⟨c, hcode⟩, front ++ [char '\\', first], by simp, hat.escaped hfirst⟩
  · obtain ⟨opening, done, text, more, hread⟩ := hread
    have hhigh : isHigh n = false := by
      by_contra hhigh
      rw [Bool.not_eq_false] at hhigh
      exact hlone (hasLoneHalf_of_high hunit hat.paired hhigh (hsecond hhigh) hread)
    have hlow : isLow n = false := by
      by_contra hlow
      rw [Bool.not_eq_false] at hlow
      exact hlone (hasLoneHalf_of_low hunit hat hlow)
    refine ⟨⟨Char.ofNat n, ?_⟩, front ++ [char '\\', char 'u', a, b, c, d], by simp,
      isAtCode_unit front hunit hhigh⟩
    simp only [isHigh, isLow, Bool.and_eq_false_iff, decide_eq_false_iff_not] at hhigh hlow
    rw [CodePoint.ofNat, dif_neg (by omega)]
  · have hhigh : isHigh low = false := by
      by_contra hhigh
      rw [Bool.not_eq_false] at hhigh
      rw [(lt_of_isHigh hhigh).2] at hlow
      cases hlow
    refine ⟨hcode, front ++ [char '\\'] ++ high ++ [char '\\', char 'u', a, b, c, d], by simp,
      isAtCode_unit _ hunit hhigh⟩

theorem areWhole_of_readString (hwhole : AreWhole cs) (hlone : ¬ HasLoneHalf cs)
    (hcs : cs = front ++ rest) (hat : IsAtCode front) (hdone : AreWhole done)
    (hread : readString opening done rest = .ok (text, left)) : AreWhole text := by
  -- along the reader's own cases: `IsAtCode` is kept, so an escape that is read is one of the text
  fun_induction readString opening done rest generalizing front with
  | case1 => cases hread
  | case2 done rest =>
      obtain ⟨rfl, -⟩ := Prod.mk.inj (Except.ok.inj hread)
      exact fun part hpart => hdone part (List.mem_reverse.mp hpart)
  | case3 => cases hread
  | case4 => cases hread
  | case5 done rest hnonempty code left' hescape ih =>
      subst hcs
      obtain ⟨⟨c, rfl⟩, next, heq, hnext⟩ :=
        char_of_readEscape hat hlone hescape ⟨_, _, _, _, hread⟩
      exact ih heq hnext (areWhole_cons_char_iff.mpr hdone) hread
  | case6 => cases hread
  | case7 done code rest hquote hbackslash hprintable ih =>
      have hcode : ∃ c, code = char c := by
        cases code with
        | char c => exact ⟨c, rfl⟩
        | half part => exact absurd (by simp [hcs]) (hwhole part)
      obtain ⟨c, rfl⟩ := hcode
      exact ih (by rw [hcs]; simp) (hat.plain hbackslash) (areWhole_cons_char_iff.mpr hdone) hread

/-- Neither a text nor anything with values inside. -/
def IsScalar : Value → Prop
  | .null | .bool _ | .int _ | .float _ => True
  | _ => False

theorem isScalar_of_readNumber {start : List CodePoint} {negative : Bool} {value : Value}
    (h : readNumber start negative cs = .ok (value, left)) : IsScalar value := by
  unfold readNumber at h
  split at h
  · cases h
  · dsimp only at h
    split at h
    · cases h
      trivial
    · split at h
      · split at h
        · cases h
        · cases h
          trivial
      · cases h
        trivial

theorem isScalar_of_readAtom {value : Value} (h : readAtom cs = .ok (value, left)) :
    IsScalar value := by
  unfold readAtom at h
  split at h
  case h_7 | h_8 => exact isScalar_of_readNumber h
  all_goals
    cases h
    trivial

/-- If the value is a text, it is a whole one. -/
def IsWholeText (value : Value) : Prop :=
  ∀ text, value = .str text → text.IsWhole

theorem isWhole_ofCodes (h : AreWhole text) : (LooseText.ofCodes text).IsWhole := by
  obtain ⟨cs, hcs⟩ := exists_wholeChars_iff.mpr h
  rw [wholeChars_eq_ok_iff.mp hcs, LooseText.ofCodes_map_char]
  exact ⟨_, rfl⟩

section Members

variable {fuel room : Nat} (hwhole : AreWhole cs) (hlone : ¬ HasLoneHalf cs)

include hwhole hlone

theorem isWholeText_of_readValue {value : Value} (hrest : rest <:+ cs)
    (h : readValue fuel room rest = .ok (value, left)) : IsWholeText value := by
  rintro text rfl
  obtain ⟨front, hcs⟩ := hrest
  cases fuel with
  | zero => cases h
  | succ fuel =>
      unfold readValue at h
      split at h
      · rename_i rest
        obtain ⟨⟨codes, more⟩, hread, hvalue⟩ := bind_eq_ok_iff.mp h
        obtain ⟨htext, -⟩ := Prod.mk.inj (Except.ok.inj hvalue)
        rw [← Value.str.inj htext]
        refine isWhole_ofCodes (areWhole_of_readString hwhole hlone ?_ (isAtCode_quote front)
          (by simp [AreWhole]) hread)
        rw [← hcs]
        simp
      · obtain ⟨inside, -, h⟩ := bind_eq_ok_iff.mp h
        split at h
        · cases h
        · obtain ⟨items, -, h⟩ := bind_eq_ok_iff.mp h
          cases h
      · obtain ⟨inside, -, h⟩ := bind_eq_ok_iff.mp h
        split at h
        · cases h
        · obtain ⟨members, -, h⟩ := bind_eq_ok_iff.mp h
          cases h
      · exact (isScalar_of_readAtom h).elim

theorem isWholeText_of_readMembers {done members : List (Value × Value)} (hrest : rest <:+ cs)
    (hdone : ∀ member ∈ done, IsWholeText member.2)
    (h : readMembers fuel room done rest = .ok (members, left)) :
    ∀ member ∈ members, IsWholeText member.2 := by
  induction fuel generalizing done rest with
  | zero => cases h
  | succ fuel ih =>
      unfold readMembers at h
      split at h
      · rename_i opened
        obtain ⟨⟨name, afterName⟩, hname, h⟩ := bind_eq_ok_iff.mp h
        have hstays := staysIn_readString (.char '"' :: opened) [] opened
        rw [hname] at hstays
        have hafterName : afterName <:+ cs :=
          (List.IsSuffix.trans hstays (List.suffix_cons _ _)).trans hrest
        dsimp only at h
        split at h
        · rename_i afterColon hskip
          have hafterColon := (suffix_of_skip hskip).trans hafterName
          obtain ⟨⟨value, afterValue⟩, hvalue, h⟩ := bind_eq_ok_iff.mp h
          have hvalueAt := (skip_suffix afterColon).trans hafterColon
          have hstays := (readersStay fuel).value room (skip afterColon)
          rw [hvalue] at hstays
          have hafterValue : afterValue <:+ cs := List.IsSuffix.trans hstays hvalueAt
          have hmore : ∀ member ∈ (Value.str (.ofCodes name), value) :: done,
              IsWholeText member.2 :=
            List.forall_mem_cons.mpr
              ⟨isWholeText_of_readValue hwhole hlone hvalueAt hvalue, hdone⟩
          dsimp only at h
          split at h
          · obtain ⟨rfl, -⟩ := Prod.mk.inj (Except.ok.inj h)
            exact fun member hmember => hmore member (List.mem_reverse.mp hmember)
          · rename_i afterComma hskip
            have hafterComma := (suffix_of_skip hskip).trans hafterValue
            exact ih ((skip_suffix afterComma).trans hafterComma) hmore h
          · cases h
        · cases h
      · cases h

theorem isWholeText_of_readDocument {members : List (Value × Value)}
    (h : readDocument cs = .ok (.map members)) : ∀ member ∈ members, IsWholeText member.2 := by
  obtain ⟨⟨value, left⟩, hread, hend⟩ := bind_eq_ok_iff.mp h
  dsimp only at hend
  split at hend
  · obtain rfl := Except.ok.inj hend
    unfold readValue at hread
    split at hread
    · obtain ⟨read, -, hread⟩ := bind_eq_ok_iff.mp hread
      cases hread
    · obtain ⟨inside, -, hread⟩ := bind_eq_ok_iff.mp hread
      split at hread
      · cases hread
      · obtain ⟨items, -, hread⟩ := bind_eq_ok_iff.mp hread
        cases hread
    · rename_i rest hskip
      have hrest : rest <:+ cs := suffix_of_skip hskip
      obtain ⟨inside, -, hread⟩ := bind_eq_ok_iff.mp hread
      split at hread
      · cases hread
        simp
      · obtain ⟨⟨pairs, more⟩, hpairs, hread⟩ := bind_eq_ok_iff.mp hread
        obtain ⟨hvalue, -⟩ := Prod.mk.inj (Except.ok.inj hread)
        rw [← Value.map.inj hvalue]
        have hwholePairs := isWholeText_of_readMembers hwhole hlone
          ((skip_suffix rest).trans hrest) (by simp) hpairs
        exact fun member hmember => (Value.of_mem_entriesOf (P := fun _ => True)
          (fun pair hpair => ⟨trivial, hwholePairs pair hpair⟩) hmember).2
    · exact (isScalar_of_readAtom hread).elim
  · cases hend

end Members

end TransparencyLog.Json
