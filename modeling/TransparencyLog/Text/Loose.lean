import TransparencyLog.Bytes.Hex
import TransparencyLog.Text.Utf8

/-!
Texts in which a half of a surrogate pair may stand on its own. Such a half is no character and
nothing encodes it, but JSON can spell it. Two halves that make a pair are the character that they
stand for.
-/

namespace TransparencyLog

/-- The first or the second half of a surrogate pair. -/
structure Half where
  code : Nat
  isHalf : 0xD800 ≤ code ∧ code < 0xE000
deriving DecidableEq, Repr

def Half.isFirst (half : Half) : Bool := half.code < 0xDC00

/-- A character, or half of one. -/
inductive CodePoint
  | char (c : Char)
  | half (part : Half)
deriving DecidableEq, Repr

namespace CodePoint

instance : Coe Char CodePoint := ⟨.char⟩

def toNat : CodePoint → Nat
  | .char c => c.toNat
  | .half part => part.code

def char? : CodePoint → Option Char
  | .char c => some c
  | .half _ => none

def half? : CodePoint → Option Half
  | .char _ => none
  | .half part => some part

/-- The code point of a number below the end of all of them. -/
def ofNat (n : Nat) : CodePoint :=
  if h : 0xD800 ≤ n ∧ n < 0xE000 then .half ⟨n, h⟩ else .char (Char.ofNat n)

/-- The character that a first and a second half stand for. -/
def paired (first second : Nat) : Char :=
  Char.ofNat (0x10000 + (first - 0xD800) * 0x400 + (second - 0xDC00))

/-- The character that the first two code points stand for, if they are a pair. -/
def pair? : CodePoint → CodePoint → Option Char
  | .half first, .half second =>
      if first.isFirst && !second.isFirst then some (paired first.code second.code) else none
  | _, _ => none

/-- Puts a character in the place of each pair. -/
def join : List CodePoint → List CodePoint
  | a :: b :: rest =>
      match pair? a b with
      | some c => .char c :: join rest
      | none => a :: join (b :: rest)
  | codes => codes

/-- The characters that code points are, if none of them is a half. -/
def chars? : List CodePoint → Option (List Char)
  | [] => some []
  | .char c :: rest => (c :: ·) <$> chars? rest
  | .half _ :: _ => none

theorem join_char_cons (c : Char) (codes : List CodePoint) :
    join (.char c :: codes) = .char c :: join codes := by
  cases codes <;> rfl

theorem join_cons_cons {a b : CodePoint} (h : pair? a b = none) (codes : List CodePoint) :
    join (a :: b :: codes) = a :: join (b :: codes) := by
  rw [join, h]

theorem exists_join_cons (a : CodePoint) (codes : List CodePoint) :
    ∃ b rest, join (a :: codes) = b :: rest ∧ (b = a ∨ ∃ c, b = .char c) := by
  cases codes with
  | nil => exact ⟨a, [], rfl, .inl rfl⟩
  | cons b codes =>
      cases h : pair? a b with
      | some c => exact ⟨.char c, join codes, by rw [join, h], .inr ⟨c, rfl⟩⟩
      | none => exact ⟨a, join (b :: codes), join_cons_cons h codes, .inl rfl⟩

theorem join_join (codes : List CodePoint) : join (join codes) = join codes := by
  fun_induction join codes with
  | case1 a b rest c hpair ih => rw [join_char_cons, ih]
  | case2 a b rest hpair ih =>
      obtain ⟨b', rest', hjoin, hb⟩ := exists_join_cons b rest
      rw [hjoin] at ih ⊢
      have hpair' : pair? a b' = none := by
        rcases hb with rfl | ⟨c, rfl⟩
        · exact hpair
        · cases a <;> rfl
      rw [join_cons_cons hpair', ih]
  | case3 codes hfew =>
      match codes, hfew with
      | [], _ | [_], _ => rfl
      | a :: b :: rest, hfew => exact (hfew a b rest rfl).elim

/-- A half as an escape sequence, a character as it is. -/
def spelled : CodePoint → List Char
  | .char c => [c]
  | .half part => ['\\', 'u'] ++ Hex.padded 4 part.code

end CodePoint

/-- Code points that are no text, because a half stands on its own among them. -/
structure TornText where
  codes : List CodePoint
  joined : CodePoint.join codes = codes
  torn : CodePoint.chars? codes = none
deriving DecidableEq, Repr

/-- A text, or code points that are none. -/
inductive LooseText
  | whole (text : String)
  | torn (text : TornText)
deriving DecidableEq, Repr

namespace LooseText

instance : Coe String LooseText := ⟨.whole⟩

instance : Inhabited LooseText := ⟨.whole ""⟩

def ofCodes (codes : List CodePoint) : LooseText :=
  match h : CodePoint.chars? (CodePoint.join codes) with
  | some cs => .whole (String.ofList cs)
  | none => .torn ⟨CodePoint.join codes, CodePoint.join_join codes, h⟩

def codes : LooseText → List CodePoint
  | .whole text => text.toList.map .char
  | .torn text => text.codes

def append : LooseText → LooseText → LooseText
  | .whole a, .whole b => .whole (a ++ b)
  | a, b => ofCodes (a.codes ++ b.codes)

instance : Append LooseText := ⟨append⟩

def isEmpty : LooseText → Bool
  | .whole text => text.isEmpty
  | .torn _ => false

/-- Texts stand in the order of the numbers of their code points. -/
instance : LE LooseText :=
  ⟨fun a b => List.le (a.codes.map CodePoint.toNat) (b.codes.map CodePoint.toNat)⟩

instance (a b : LooseText) : Decidable (a ≤ b) :=
  List.decidableLE (a.codes.map CodePoint.toNat) (b.codes.map CodePoint.toNat)

/-- The text with an escape sequence in the place of each half. -/
def spelled (text : LooseText) : String :=
  String.ofList (text.codes.flatMap CodePoint.spelled)

end LooseText

/-- Halves in a row that keep a text from being encoded, and the position where they start. -/
structure EncodingFault where
  start : Nat
  halves : List Half
deriving DecidableEq, Repr

namespace EncodingFault

/-- The first halves in a row among code points. -/
def ofCodes (codes : List CodePoint) : EncodingFault where
  start := codes.findIdx fun code => code.half?.isSome
  halves := ((codes.dropWhile fun code => code.half?.isNone).takeWhile
    fun code => code.half?.isSome).filterMap CodePoint.half?

def span (fault : EncodingFault) : String :=
  match fault.halves with
  | [part] =>
      "character '" ++ String.ofList (CodePoint.spelled (.half part)) ++ "' in position " ++
        toString fault.start
  | halves =>
      "characters in position " ++ toString fault.start ++ "-" ++
        toString (fault.start + halves.length - 1)

def message (fault : EncodingFault) : String :=
  "'utf-8' codec can't encode " ++ fault.span ++ ": surrogates not allowed"

end EncodingFault

namespace CodePoint

/-- The characters of code points none of which is a half. -/
def wholeChars (codes : List CodePoint) : Except EncodingFault (List Char) :=
  match chars? codes with
  | some cs => .ok cs
  | none => .error (.ofCodes codes)

def encode (codes : List CodePoint) : Except EncodingFault Bytes :=
  Utf8.encodeChars <$> wholeChars codes

end CodePoint

def LooseText.encode (text : LooseText) : Except EncodingFault Bytes :=
  CodePoint.encode text.codes

namespace Utf8

/-- The half that three octets spell in the way in which they spell a character. -/
def half? : Bytes → Option Half
  | 0xED :: b :: c :: _ =>
      let code := 0xD000 + (b.toNat - 0x80) * 64 + (c.toNat - 0x80)
      if h : 0x80 ≤ c ∧ c ≤ 0xBF ∧ 0xD800 ≤ code ∧ code < 0xE000 then some ⟨code, h.2.2⟩
      else none
  | _ => none

theorem ne_nil_of_half? {octets : Bytes} {part : Half} (h : half? octets = some part) :
    octets ≠ [] := by
  rintro rfl
  simp [half?] at h

/-- Reads the octets from `position` on. Where they are no text, half of a surrogate pair may be
spelled in them. -/
def decodeLoose (position : Nat) (octets : Bytes) : Except DecodingFault (List CodePoint) :=
  match read position [] none octets with
  | .ok cs => .ok (cs.map .char)
  | .error fault =>
      match _half : half? (octets.drop (fault.start - position)) with
      | none => .error fault
      | some part => do
          let before ← read position [] none (octets.take (fault.start - position))
          let after ← decodeLoose (fault.start + 3) (octets.drop (fault.start - position + 3))
          return before.map .char ++ .half part :: after
termination_by octets.length
decreasing_by
  have := ne_nil_of_half? ‹_›
  have : 0 < (octets.drop (fault.start - position)).length := List.length_pos_iff.2 this
  simp at this ⊢
  omega

end Utf8

end TransparencyLog
