import TransparencyLog.Json.Load
import TransparencyLog.Proofs.Json.Number
import TransparencyLog.Proofs.Outcome
import TransparencyLog.Proofs.Text.Line
import TransparencyLog.Proofs.Text.Loose

namespace TransparencyLog.Json

/-- Somewhere among code points stand more digits in a row than a number may have. -/
def HasLongRun (cs : List CodePoint) : Prop :=
  ∃ run : List Char, run.map .char <:+: cs ∧ (∀ c ∈ run, c.isDigit = true) ∧
    Numeral.digitLimit < run.length

/-- A reader stays within the characters that it gets: what it leaves is the end of them, and where
it stops at a number that is too long there is a long run of digits among them. -/
def StaysIn {α : Type} (cs : List CodePoint) : Except Stop (α × List CodePoint) → Prop
  | .ok (_, left) => left <:+ cs
  | .error (.overlong _) => HasLongRun cs
  | .error _ => True

section Steps

variable {α β : Type} {cs left : List CodePoint}

theorem HasLongRun.of_suffix (h : HasLongRun left) (hleft : left <:+ cs) : HasLongRun cs := by
  obtain ⟨run, hrun, hdigits, hlong⟩ := h
  exact ⟨run, hrun.trans hleft.isInfix, hdigits, hlong⟩

theorem StaysIn.of_suffix {result : Except Stop (α × List CodePoint)} (h : StaysIn left result)
    (hleft : left <:+ cs) : StaysIn cs result := by
  cases result with
  | ok read => exact List.IsSuffix.trans h hleft
  | error stop =>
      cases stop with
      | overlong fault => exact HasLongRun.of_suffix h hleft
      | flaw kind left => trivial
      | tooDeep fault => trivial

theorem StaysIn.of_error {stop : Stop}
    (h : StaysIn cs (Except.error stop : Except Stop (α × List CodePoint))) :
    StaysIn cs (Except.error stop : Except Stop (β × List CodePoint)) := by
  cases stop with
  | overlong fault => exact h
  | flaw kind left => trivial
  | tooDeep fault => trivial

theorem StaysIn.bind {first : Except Stop (α × List CodePoint)}
    {next : α × List CodePoint → Except Stop (β × List CodePoint)} (h : StaysIn cs first)
    (hnext : ∀ a left, left <:+ cs → StaysIn cs (next (a, left))) :
    StaysIn cs (first >>= next) := by
  cases first with
  | ok read => exact hnext read.1 read.2 h
  | error stop => exact h.of_error

theorem skip_suffix (cs : List CodePoint) : skip cs <:+ cs :=
  List.dropWhile_suffix _

theorem suffix_of_skip {c : CodePoint} (h : skip cs = c :: left) : left <:+ cs :=
  (h ▸ List.suffix_cons c left : left <:+ skip cs).trans (skip_suffix cs)

end Steps

section Strings

theorem suffix_of_secondHalf? {cs left : List CodePoint} {low : Nat}
    (h : secondHalf? cs = .ok (some (low, left))) : left <:+ cs := by
  unfold secondHalf? at h
  split at h
  · rename_i a b c d more rest
    split at h
    · cases h
    · split at h
      · obtain ⟨-, rfl⟩ := Prod.mk.inj (Option.some.inj (Except.ok.inj h))
        exact ⟨[.char '\\', .char 'u', a, b, c, d], rfl⟩
      · cases h
  · cases h

theorem exists_flaw_of_secondHalf? {cs : List CodePoint} {stop : Stop}
    (h : secondHalf? cs = .error stop) : ∃ kind left, stop = .flaw kind left := by
  unfold secondHalf? at h
  split at h
  · split at h
    · exact ⟨_, _, (Except.error.inj h).symm⟩
    · cases h
  · cases h

theorem staysIn_readEscape (backslash cs : List CodePoint) :
    StaysIn cs (readEscape backslash cs) := by
  unfold readEscape
  split
  · rename_i a b c d next rest
    have hnext : next :: rest <:+ .char 'u' :: a :: b :: c :: d :: next :: rest :=
      ⟨[.char 'u', a, b, c, d], rfl⟩
    split
    · trivial
    · split
      · split
        · rename_i stop hhalf
          obtain ⟨kind, left, rfl⟩ := exists_flaw_of_secondHalf? hhalf
          trivial
        · rename_i hhalf
          exact (suffix_of_secondHalf? hhalf).trans hnext
        · exact hnext
      · exact hnext
  · trivial
  · exact List.suffix_cons _ _
  · exact List.suffix_cons _ _
  · exact List.suffix_cons _ _
  · exact List.suffix_cons _ _
  · exact List.suffix_cons _ _
  · exact List.suffix_cons _ _
  · exact List.suffix_cons _ _
  · exact List.suffix_cons _ _
  · trivial

theorem staysIn_readString (opening done cs : List CodePoint) :
    StaysIn cs (readString opening done cs) := by
  fun_induction readString opening done cs with
  | case1 => trivial
  | case2 done rest => exact List.suffix_cons _ _
  | case3 => trivial
  | case4 done rest hnonempty stop hread =>
      have hescape := staysIn_readEscape (.char '\\' :: rest) rest
      rw [hread] at hescape
      exact hescape.of_error.of_suffix (List.suffix_cons _ _)
  | case5 done rest hnonempty c left hread ih =>
      have hescape := staysIn_readEscape (.char '\\' :: rest) rest
      rw [hread] at hescape
      exact ih.of_suffix (List.IsSuffix.trans hescape (List.suffix_cons _ _))
  | case6 => trivial
  | case7 done c rest hquote hbackslash hprintable ih => exact ih.of_suffix (List.suffix_cons _ _)

end Strings

section Numbers

variable {cs rest : List CodePoint} {whole : List Char}

theorem eq_char_of_digit? {code : CodePoint} {c : Char} (h : digit? code = some c) :
    code = .char c ∧ c.isDigit = true := by
  cases code with
  | half part => cases h
  | char d =>
      rw [digit?_char] at h
      split at h
      · rename_i hdigit
        obtain rfl := Option.some.inj h
        exact ⟨rfl, hdigit⟩
      · cases h

theorem append_afterDigits (cs : List CodePoint) :
    (leadingDigits cs).map .char ++ afterDigits cs = cs := by
  induction cs with
  | nil => rfl
  | cons code cs ih =>
      cases hcode : digit? code with
      | none => simp [leadingDigits, afterDigits, hcode]
      | some c =>
          simp only [leadingDigits, afterDigits] at ih ⊢
          rw [List.takeWhile_cons_of_pos (by simp [hcode]), List.filterMap_cons_some hcode,
            List.dropWhile_cons_of_pos (by simp [hcode]), List.map_cons, List.cons_append, ih,
            (eq_char_of_digit? hcode).1]

theorem isDigit_of_mem_leadingDigits {c : Char} (h : c ∈ leadingDigits cs) : c.isDigit = true := by
  obtain ⟨code, -, hcode⟩ := List.mem_filterMap.mp h
  exact (eq_char_of_digit? hcode).2

theorem afterDigits_suffix (cs : List CodePoint) : afterDigits cs <:+ cs :=
  List.dropWhile_suffix _

theorem append_of_wholeDigits? (h : wholeDigits? cs = some (whole, rest)) :
    whole.map .char ++ rest = cs := by
  unfold wholeDigits? at h
  split at h
  · obtain ⟨rfl, rfl⟩ := Prod.mk.inj (Option.some.inj h)
    rfl
  · obtain ⟨c, hcode, heq⟩ := Option.map_eq_some_iff.mp h
    obtain ⟨rfl, rfl⟩ := Prod.mk.inj heq
    rw [(eq_char_of_digit? hcode).1, List.map_cons, List.cons_append, append_afterDigits]
  · cases h

theorem isDigit_of_wholeDigits? (h : wholeDigits? cs = some (whole, rest)) :
    ∀ c ∈ whole, c.isDigit = true := by
  unfold wholeDigits? at h
  split at h
  · obtain ⟨rfl, rfl⟩ := Prod.mk.inj (Option.some.inj h)
    exact List.forall_mem_singleton.mpr rfl
  · obtain ⟨c, hcode, heq⟩ := Option.map_eq_some_iff.mp h
    obtain ⟨rfl, rfl⟩ := Prod.mk.inj heq
    exact List.forall_mem_cons.mpr
      ⟨(eq_char_of_digit? hcode).2, fun _ => isDigit_of_mem_leadingDigits⟩
  · cases h

theorem places_suffix (cs : List CodePoint) : (places cs).2 <:+ cs := by
  unfold places
  split
  · rename_i code rest
    split
    · exact (afterDigits_suffix rest).trans ⟨[.char '.', code], rfl⟩
    · exact List.suffix_rfl
  · exact List.suffix_rfl

theorem exponentSign_suffix (cs : List CodePoint) : (exponentSign cs).2 <:+ cs := by
  unfold exponentSign
  split
  · exact List.suffix_cons _ _
  · exact List.suffix_cons _ _
  · exact List.suffix_rfl

theorem suffix_of_exponent? {n : Int} (h : exponent? cs = some (n, rest)) : rest <:+ cs := by
  unfold exponent? at h
  split at h
  · rename_i e digits
    split at h
    · dsimp only at h
      split at h
      · cases h
      · obtain ⟨-, rfl⟩ := Prod.mk.inj (Option.some.inj h)
        exact ((afterDigits_suffix _).trans (exponentSign_suffix digits)).trans
          (List.suffix_cons e digits)
    · cases h
  · cases h

theorem staysIn_readNumber (start cs : List CodePoint) (negative : Bool) :
    StaysIn cs (readNumber start negative cs) := by
  unfold readNumber
  split
  · trivial
  · rename_i whole rest hwhole
    have happend := append_of_wholeDigits? hwhole
    have hleft : (places rest).2 <:+ cs := (places_suffix rest).trans ⟨whole.map .char, happend⟩
    dsimp only
    split
    · rename_i hexponent
      exact (suffix_of_exponent? hexponent).trans hleft
    · split
      · split
        · rename_i fault hread
          rw [Numeral.read] at hread
          split at hread
          · cases hread
          · rename_i hlong
            exact ⟨whole, ⟨[], rest, happend⟩, isDigit_of_wholeDigits? hwhole,
              Nat.lt_of_not_le hlong⟩
        · exact hleft
      · exact hleft

theorem staysIn_readAtom (cs : List CodePoint) : StaysIn cs (readAtom cs) := by
  unfold readAtom
  split
  · exact ⟨['n', 'u', 'l', 'l'].map .char, rfl⟩
  · exact ⟨['t', 'r', 'u', 'e'].map .char, rfl⟩
  · exact ⟨['f', 'a', 'l', 's', 'e'].map .char, rfl⟩
  · exact ⟨['N', 'a', 'N'].map .char, rfl⟩
  · exact ⟨['I', 'n', 'f', 'i', 'n', 'i', 't', 'y'].map .char, rfl⟩
  · exact ⟨['-', 'I', 'n', 'f', 'i', 'n', 'i', 't', 'y'].map .char, rfl⟩
  · exact (staysIn_readNumber _ _ true).of_suffix (List.suffix_cons _ _)
  · exact staysIn_readNumber cs cs false

end Numbers

/-- The three readers stay within the characters that they get, with some fuel. -/
structure ReadersStay (fuel : Nat) : Prop where
  value : ∀ room cs, StaysIn cs (readValue fuel room cs)
  items : ∀ room done cs, StaysIn cs (readItems fuel room done cs)
  members : ∀ room done cs, StaysIn cs (readMembers fuel room done cs)

namespace ReadersStay

variable {fuel : Nat}

theorem readValue_succ (h : ReadersStay fuel) (room : Nat) (cs : List CodePoint) :
    StaysIn cs (readValue (fuel + 1) room cs) := by
  unfold readValue
  split
  · rename_i rest
    refine ((staysIn_readString _ [] rest).of_suffix (List.suffix_cons _ _)).bind ?_
    exact fun _ _ hleft => hleft
  · rename_i rest
    cases room with
    | zero => trivial
    | succ room =>
        rw [goInside, ok_bind]
        split
        · rename_i left hskip
          exact (suffix_of_skip hskip).trans (List.suffix_cons _ _)
        · refine ((h.items room [] _).of_suffix ?_).bind fun _ _ hleft => hleft
          exact (skip_suffix rest).trans (List.suffix_cons _ _)
  · rename_i rest
    cases room with
    | zero => trivial
    | succ room =>
        rw [goInside, ok_bind]
        split
        · rename_i left hskip
          exact (suffix_of_skip hskip).trans (List.suffix_cons _ _)
        · refine ((h.members room [] _).of_suffix ?_).bind fun _ _ hleft => hleft
          exact (skip_suffix rest).trans (List.suffix_cons _ _)
  · exact staysIn_readAtom cs

theorem readItems_succ (h : ReadersStay fuel) (room : Nat) (done : List Value)
    (cs : List CodePoint) :
    StaysIn cs (readItems (fuel + 1) room done cs) := by
  rw [readItems]
  refine (h.value room cs).bind fun item left hleft => ?_
  dsimp only
  split
  · rename_i hskip
    exact (suffix_of_skip hskip).trans hleft
  · rename_i rest hskip
    refine (h.items room _ _).of_suffix ?_
    exact (skip_suffix rest).trans ((suffix_of_skip hskip).trans hleft)
  · trivial

theorem readMembers_succ (h : ReadersStay fuel) (room : Nat) (done : List (Value × Value))
    (cs : List CodePoint) : StaysIn cs (readMembers (fuel + 1) room done cs) := by
  unfold readMembers
  split
  · rename_i opened
    refine ((staysIn_readString _ [] opened).of_suffix (List.suffix_cons _ _)).bind
      fun name left hleft => ?_
    dsimp only
    split
    · rename_i rest hskip
      have hrest := (skip_suffix rest).trans ((suffix_of_skip hskip).trans hleft)
      refine ((h.value room _).of_suffix hrest).bind fun value left hleft => ?_
      dsimp only
      split
      · rename_i hskip
        exact (suffix_of_skip hskip).trans hleft
      · rename_i rest hskip
        refine (h.members room _ _).of_suffix ?_
        exact (skip_suffix rest).trans ((suffix_of_skip hskip).trans hleft)
      · trivial
    · trivial
  · trivial

end ReadersStay

theorem readersStay (fuel : Nat) : ReadersStay fuel := by
  induction fuel with
  | zero => exact ⟨fun _ _ => trivial, fun _ _ _ => trivial, fun _ _ _ => trivial⟩
  | succ fuel ih => exact ⟨ih.readValue_succ, ih.readItems_succ, ih.readMembers_succ⟩

theorem hasLongRun_of_readDocument {cs : List CodePoint} {fault : Numeral.Overlong}
    (h : readDocument cs = .error (.overlong fault)) : HasLongRun cs := by
  have hstays := (readersStay (2 * cs.length + 2)).value nestingLimit (skip cs)
  rcases bind_eq_error_iff.mp h with hread | ⟨⟨value, left⟩, -, hextra⟩
  · rw [hread] at hstays
    exact HasLongRun.of_suffix hstays (skip_suffix cs)
  · dsimp only at hextra
    split at hextra
    · cases hextra
    · cases hextra

theorem exists_eq_ofRead_of_loadText {text : LooseText} {fault : LoadFault}
    (h : loadText text = .error fault) : ∃ cause, fault = .ofRead cause := by
  unfold loadText at h
  split at h
  · cases h
  · rename_i cause _
    exact ⟨cause, (Except.error.inj h).symm⟩

theorem loadText_ne_undecodable (text : LooseText) (fault : DecodingFault) :
    loadText text ≠ .error (.undecodable fault) := by
  intro h
  obtain ⟨cause, hcause⟩ := exists_eq_ofRead_of_loadText h
  cases cause <;> cases hcause

theorem readText_of_loadText {text : LooseText} {fault : Numeral.Overlong}
    (h : loadText text = .error (.overlong fault)) :
    readText text.codes = .error (.overlong fault) := by
  unfold loadText parse at h
  cases hread : readText text.codes with
  | ok document =>
      rw [hread] at h
      cases h
  | error stop =>
      rw [hread] at h
      cases stop with
      | overlong cause => rw [LoadFault.overlong.inj (Except.error.inj h)]
      | flaw kind left => cases h
      | tooDeep cause => cases h

theorem hasLongRun_of_loadText {text : LooseText} {fault : Numeral.Overlong}
    (h : loadText text = .error (.overlong fault)) : HasLongRun text.codes := by
  have hread := readText_of_loadText h
  rw [readText] at hread
  split at hread
  · cases hread
  · exact hasLongRun_of_readDocument hread

theorem HasLongRun.of_unifyLineEnds {cs : List Char}
    (h : HasLongRun ((Text.unifyLineEnds cs).map .char)) : HasLongRun (cs.map .char) := by
  obtain ⟨run, hrun, hdigits, hlong⟩ := h
  obtain ⟨run', hrun', heq⟩ := List.infix_map_iff.mp hrun
  obtain rfl := List.map_injective_iff.mpr CodePoint.char_injective heq
  have hlf : '\n' ∉ run := fun hlf => absurd (hdigits _ hlf) (by decide)
  exact ⟨run, (Text.infix_of_infix_unifyLineEnds hlf hrun').map _, hdigits, hlong⟩

theorem hasLongRun_of_loadFile {text : String} {fault : Numeral.Overlong}
    (h : loadFile (Utf8.encode text) = .error (.overlong fault)) :
    HasLongRun (text.toList.map .char) := by
  rw [loadFile, fileText, Utf8.encode, Utf8.decodeChars_encodeChars] at h
  have hlong := hasLongRun_of_loadText h
  rw [LooseText.codes_whole, String.toList_ofList] at hlong
  exact hlong.of_unifyLineEnds

theorem not_hasLongRun_of_length {cs : List CodePoint} (h : cs.length ≤ Numeral.digitLimit) :
    ¬ HasLongRun cs := by
  rintro ⟨run, hrun, -, hlong⟩
  have hlength := hrun.length_le
  rw [List.length_map] at hlength
  exact absurd (Nat.le_trans hlength h) (Nat.not_le_of_lt hlong)

end TransparencyLog.Json
