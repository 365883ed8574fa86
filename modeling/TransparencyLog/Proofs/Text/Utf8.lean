import TransparencyLog.Proofs.Bytes.Natural
import TransparencyLog.Text.Utf8

namespace TransparencyLog.Utf8

open Bytes (toNat_toUInt8 toUInt8_eq)

theorem toNat_ofNat {n : Nat} (h : n < 0xD800 ∨ 0xDFFF < n ∧ n < 0x110000) :
    (Char.ofNat n).toNat = n := by
  have hvalid : n.isValidChar := h
  rw [Char.ofNat, dif_pos hvalid]
  rfl

section Steps

variable {position : Nat} {done : List Char} {b : UInt8} {p : Pending} {rest : Bytes}

theorem read_ascii (hb : b.toNat < 0x80) :
    read position done none (b :: rest) =
      read (position + 1) (Char.ofNat b.toNat :: done) none rest := by
  rw [read, if_pos hb]

theorem read_begin (hb : ¬ b.toNat < 0x80) (hp : begin? position b = some p) :
    read position done none (b :: rest) = read (position + 1) done (some p) rest := by
  rw [read, if_neg hb, hp]

theorem read_more {more : Nat} (hmore : p.more = more + 1)
    (hb : p.low ≤ b.toNat ∧ b.toNat ≤ p.high) :
    read position done (some p) (b :: rest) =
      read (position + 1) done
        (some ⟨p.start, p.first, p.value * 64 + b.toNat % 64, 0x80, 0xBF, more⟩) rest := by
  rw [read, if_pos hb, hmore]

theorem read_last (hmore : p.more = 0) (hb : p.low ≤ b.toNat ∧ b.toNat ≤ p.high) :
    read position done (some p) (b :: rest) =
      read (position + 1) (Char.ofNat (p.value * 64 + b.toNat % 64) :: done) none rest := by
  rw [read, if_pos hb, hmore]

theorem begin?_two (h : 0xC2 ≤ b.toNat ∧ b.toNat < 0xE0) :
    begin? position b = some ⟨position, b, b.toNat - 0xC0, 0x80, 0xBF, 0⟩ := by
  rw [begin?, if_neg (by omega), if_pos h.2]

theorem begin?_three (h : 0xE0 ≤ b.toNat ∧ b.toNat < 0xF0) :
    begin? position b = some ⟨position, b, b.toNat - 0xE0,
      if b.toNat = 0xE0 then 0xA0 else 0x80, if b.toNat = 0xED then 0x9F else 0xBF, 1⟩ := by
  rw [begin?, if_neg (by omega), if_neg (by omega), if_pos h.2]

theorem begin?_four (h : 0xF0 ≤ b.toNat ∧ b.toNat < 0xF5) :
    begin? position b = some ⟨position, b, b.toNat - 0xF0,
      if b.toNat = 0xF0 then 0x90 else 0x80, if b.toNat = 0xF4 then 0x8F else 0xBF, 2⟩ := by
  rw [begin?, if_neg (by omega), if_neg (by omega), if_neg (by omega), if_pos h.2]

theorem begin?_eq_none (h : b.toNat < 0xC2 ∨ 0xF5 ≤ b.toNat) : begin? position b = none := by
  rw [begin?]
  split
  · rfl
  · rw [if_neg (by omega), if_neg (by omega), if_neg (by omega)]

theorem exists_cons_of_read {octets : Bytes} {cs : List Char}
    (h : read position done (some p) octets = .ok cs) :
    ∃ b rest, octets = b :: rest ∧ p.low ≤ b.toNat ∧ b.toNat ≤ p.high := by
  cases octets with
  | nil => simp [read] at h
  | cons b rest =>
      by_cases hb : p.low ≤ b.toNat ∧ b.toNat ≤ p.high
      · exact ⟨b, rest, rfl, hb.1, hb.2⟩
      · rw [read, if_neg hb] at h
        simp at h

end Steps

theorem second_mem_iff {a b least greatest low high : Nat} (hlow : 0x80 ≤ low)
    (hhigh : high ≤ 0xBF) :
    ((if a = least then low else 0x80) ≤ b ∧ b ≤ if a = greatest then high else 0xBF) ↔
      (0x80 ≤ b ∧ b ≤ 0xBF) ∧ (a = least → low ≤ b) ∧ (a = greatest → b ≤ high) := by
  split <;> split <;> omega

/-- The octets of one character: its code point in seven bits, or in the low bits of two, three or
four octets, of which no fewer would do and which do not name half of a surrogate pair. -/
inductive Sequence : Bytes → Char → Prop
  | one {a : UInt8} (ha : a.toNat < 0x80) : Sequence [a] (Char.ofNat a.toNat)
  | two {a b : UInt8} (ha : 0xC2 ≤ a.toNat ∧ a.toNat < 0xE0)
      (hb : 0x80 ≤ b.toNat ∧ b.toNat ≤ 0xBF) :
      Sequence [a, b] (Char.ofNat ((a.toNat - 0xC0) * 64 + b.toNat % 64))
  | three {a b c : UInt8} (ha : 0xE0 ≤ a.toNat ∧ a.toNat < 0xF0)
      (hb : (0x80 ≤ b.toNat ∧ b.toNat ≤ 0xBF) ∧
        (a.toNat = 0xE0 → 0xA0 ≤ b.toNat) ∧ (a.toNat = 0xED → b.toNat ≤ 0x9F))
      (hc : 0x80 ≤ c.toNat ∧ c.toNat ≤ 0xBF) :
      Sequence [a, b, c]
        (Char.ofNat (((a.toNat - 0xE0) * 64 + b.toNat % 64) * 64 + c.toNat % 64))
  | four {a b c d : UInt8} (ha : 0xF0 ≤ a.toNat ∧ a.toNat < 0xF5)
      (hb : (0x80 ≤ b.toNat ∧ b.toNat ≤ 0xBF) ∧
        (a.toNat = 0xF0 → 0x90 ≤ b.toNat) ∧ (a.toNat = 0xF4 → b.toNat ≤ 0x8F))
      (hc : 0x80 ≤ c.toNat ∧ c.toNat ≤ 0xBF) (hd : 0x80 ≤ d.toNat ∧ d.toNat ≤ 0xBF) :
      Sequence [a, b, c, d] (Char.ofNat
        ((((a.toNat - 0xF0) * 64 + b.toNat % 64) * 64 + c.toNat % 64) * 64 + d.toNat % 64))

theorem Sequence.encodeChar_eq {octets : Bytes} {c : Char} (h : Sequence octets c) :
    encodeChar c = octets := by
  cases h with
  | one ha =>
      rw [encodeChar, toNat_ofNat (by omega), if_pos ha, toUInt8_eq rfl]
  | two ha hb =>
      rw [encodeChar, toNat_ofNat (by omega), if_neg (by omega), if_pos (by omega), toUInt8_eq,
        toUInt8_eq] <;> omega
  | three ha hb hc =>
      rw [encodeChar, toNat_ofNat (by omega), if_neg (by omega), if_neg (by omega),
        if_pos (by omega), toUInt8_eq, toUInt8_eq, toUInt8_eq] <;> omega
  | four ha hb hc hd =>
      rw [encodeChar, toNat_ofNat (by omega), if_neg (by omega), if_neg (by omega),
        if_neg (by omega), toUInt8_eq, toUInt8_eq, toUInt8_eq, toUInt8_eq] <;> omega

theorem sequence_encodeChar (c : Char) : Sequence (encodeChar c) c := by
  have hscalar : c.toNat < 0xD800 ∨ 0xDFFF < c.toNat ∧ c.toNat < 0x110000 := c.valid
  have hc : Char.ofNat c.toNat = c := Char.ofNat_toNat c
  generalize hn : c.toNat = n at hscalar hc
  rw [encodeChar, hn]
  split
  · have h0 : n.toUInt8.toNat = n := toNat_toUInt8 (by omega)
    have hs := Sequence.one (a := n.toUInt8) (by omega)
    rwa [h0, hc] at hs
  split
  · have h0 : (0xC0 + n / 0x40).toUInt8.toNat = 0xC0 + n / 0x40 := toNat_toUInt8 (by omega)
    have h1 : (0x80 + n % 0x40).toUInt8.toNat = 0x80 + n % 0x40 := toNat_toUInt8 (by omega)
    have hs := Sequence.two (a := (0xC0 + n / 0x40).toUInt8) (b := (0x80 + n % 0x40).toUInt8)
      (by omega) (by omega)
    rw [show ((0xC0 + n / 0x40).toUInt8.toNat - 0xC0) * 64 +
      (0x80 + n % 0x40).toUInt8.toNat % 64 = n by omega, hc] at hs
    exact hs
  split
  · have h0 : (0xE0 + n / 0x1000).toUInt8.toNat = 0xE0 + n / 0x1000 := toNat_toUInt8 (by omega)
    have h1 : (0x80 + n / 0x40 % 0x40).toUInt8.toNat = 0x80 + n / 0x40 % 0x40 :=
      toNat_toUInt8 (by omega)
    have h2 : (0x80 + n % 0x40).toUInt8.toNat = 0x80 + n % 0x40 := toNat_toUInt8 (by omega)
    have hs := Sequence.three (a := (0xE0 + n / 0x1000).toUInt8)
      (b := (0x80 + n / 0x40 % 0x40).toUInt8) (c := (0x80 + n % 0x40).toUInt8)
      (by omega) (by omega) (by omega)
    rw [show (((0xE0 + n / 0x1000).toUInt8.toNat - 0xE0) * 64 +
      (0x80 + n / 0x40 % 0x40).toUInt8.toNat % 64) * 64 +
      (0x80 + n % 0x40).toUInt8.toNat % 64 = n by omega, hc] at hs
    exact hs
  · have h0 : (0xF0 + n / 0x40000).toUInt8.toNat = 0xF0 + n / 0x40000 := toNat_toUInt8 (by omega)
    have h1 : (0x80 + n / 0x1000 % 0x40).toUInt8.toNat = 0x80 + n / 0x1000 % 0x40 :=
      toNat_toUInt8 (by omega)
    have h2 : (0x80 + n / 0x40 % 0x40).toUInt8.toNat = 0x80 + n / 0x40 % 0x40 :=
      toNat_toUInt8 (by omega)
    have h3 : (0x80 + n % 0x40).toUInt8.toNat = 0x80 + n % 0x40 := toNat_toUInt8 (by omega)
    have hs := Sequence.four (a := (0xF0 + n / 0x40000).toUInt8)
      (b := (0x80 + n / 0x1000 % 0x40).toUInt8) (c := (0x80 + n / 0x40 % 0x40).toUInt8)
      (d := (0x80 + n % 0x40).toUInt8)
      (by omega) (by omega) (by omega) (by omega)
    rw [show ((((0xF0 + n / 0x40000).toUInt8.toNat - 0xF0) * 64 +
      (0x80 + n / 0x1000 % 0x40).toUInt8.toNat % 64) * 64 +
      (0x80 + n / 0x40 % 0x40).toUInt8.toNat % 64) * 64 +
      (0x80 + n % 0x40).toUInt8.toNat % 64 = n by omega, hc] at hs
    exact hs

theorem Sequence.read_append {octets : Bytes} {c : Char} (h : Sequence octets c) (position : Nat)
    (done : List Char) (rest : Bytes) :
    read position done none (octets ++ rest) =
      read (position + octets.length) (c :: done) none rest := by
  cases h with
  | one ha => exact read_ascii ha
  | two ha hb =>
      rw [List.cons_append, read_begin (by omega) (begin?_two ha), List.cons_append,
        read_last rfl hb]
      rfl
  | three ha hb hc =>
      rw [List.cons_append, read_begin (by omega) (begin?_three ha), List.cons_append,
        read_more rfl ((second_mem_iff (by omega) (by omega)).mpr hb), List.cons_append,
        read_last rfl hc]
      rfl
  | four ha hb hc hd =>
      rw [List.cons_append, read_begin (by omega) (begin?_four ha), List.cons_append,
        read_more rfl ((second_mem_iff (by omega) (by omega)).mpr hb), List.cons_append,
        read_more rfl hc, List.cons_append, read_last rfl hd]
      rfl

theorem exists_sequence_of_read {position : Nat} {done : List Char} {a : UInt8} {rest : Bytes}
    {cs : List Char} (h : read position done none (a :: rest) = .ok cs) :
    ∃ octets c left, Sequence octets c ∧ a :: rest = octets ++ left := by
  by_cases ha : a.toNat < 0x80
  · exact ⟨[a], _, rest, .one ha, rfl⟩
  by_cases hnone : a.toNat < 0xC2 ∨ 0xF5 ≤ a.toNat
  · rw [read, if_neg ha, begin?_eq_none hnone] at h
    simp at h
  by_cases htwo : a.toNat < 0xE0
  · have htwo : 0xC2 ≤ a.toNat ∧ a.toNat < 0xE0 := by omega
    rw [read_begin ha (begin?_two htwo)] at h
    obtain ⟨b, rest, rfl, hb⟩ := exists_cons_of_read h
    exact ⟨[a, b], _, rest, .two htwo hb, rfl⟩
  by_cases hthree : a.toNat < 0xF0
  · have hthree : 0xE0 ≤ a.toNat ∧ a.toNat < 0xF0 := by omega
    rw [read_begin ha (begin?_three hthree)] at h
    obtain ⟨b, rest, rfl, hb⟩ := exists_cons_of_read h
    rw [read_more rfl hb] at h
    obtain ⟨c, rest, rfl, hc⟩ := exists_cons_of_read h
    exact ⟨[a, b, c], _, rest, .three hthree ((second_mem_iff (by omega) (by omega)).mp hb) hc, rfl⟩
  · have hfour : 0xF0 ≤ a.toNat ∧ a.toNat < 0xF5 := by omega
    rw [read_begin ha (begin?_four hfour)] at h
    obtain ⟨b, rest, rfl, hb⟩ := exists_cons_of_read h
    rw [read_more rfl hb] at h
    obtain ⟨c, rest, rfl, hc⟩ := exists_cons_of_read h
    rw [read_more rfl hc] at h
    obtain ⟨d, rest, rfl, hd⟩ := exists_cons_of_read h
    have hsecond := (second_mem_iff (by omega) (by omega)).mp hb
    exact ⟨[a, b, c, d], _, rest, .four hfour hsecond hc hd, rfl⟩

theorem read_encodeChars (position : Nat) (done cs : List Char) :
    read position done none (encodeChars cs) = .ok (done.reverse ++ cs) := by
  induction cs generalizing position done with
  | nil => simp [encodeChars, read]
  | cons c cs ih =>
      have hcons : encodeChars (c :: cs) = encodeChar c ++ encodeChars cs := List.flatMap_cons
      rw [hcons, (sequence_encodeChar c).read_append, ih]
      simp

theorem exists_of_read {position : Nat} {done : List Char} {octets : Bytes} {cs : List Char}
    (h : read position done none octets = .ok cs) :
    ∃ read, cs = done.reverse ++ read ∧ octets = encodeChars read := by
  -- a step of the reader may end inside a sequence, so whole sequences are taken off
  induction hlen : octets.length using Nat.strongRecOn
    generalizing position done octets with
  | ind length ih =>
      cases octets with
      | nil =>
          refine ⟨[], ?_, rfl⟩
          simpa [read] using h.symm
      | cons a rest =>
          obtain ⟨front, c, left, hfront, heq⟩ := exists_sequence_of_read h
          rw [heq, hfront.read_append] at h
          have hpositive : 0 < front.length := by cases hfront <;> simp
          have hshorter : left.length < length := by
            rw [← hlen, heq, List.length_append]
            omega
          obtain ⟨cs', rfl, rfl⟩ := ih _ hshorter h rfl
          refine ⟨c :: cs', by simp, ?_⟩
          rw [heq, ← hfront.encodeChar_eq]
          rfl

theorem decodeChars_encodeChars (cs : List Char) : decodeChars (encodeChars cs) = .ok cs :=
  read_encodeChars 0 [] cs

theorem encode_eq_ofAscii {text : String} (h : ∀ c ∈ text.toList, c.toNat < 128) :
    encode text = Bytes.ofAscii text := by
  have hchar : ∀ c ∈ text.toList, encodeChar c = [c.toNat.toUInt8] := by
    intro c hc
    rw [encodeChar]
    exact if_pos (h c hc)
  rw [encode, encodeChars, List.flatMap_def, List.map_congr_left hchar, ← List.flatMap_def,
    ← List.map_eq_flatMap, Bytes.ofAscii]

theorem decodeChars_eq_ok_iff {octets : Bytes} {cs : List Char} :
    decodeChars octets = .ok cs ↔ octets = encodeChars cs := by
  constructor
  · intro h
    obtain ⟨cs', rfl, hoctets⟩ := exists_of_read h
    simpa using hoctets
  · rintro rfl
    exact decodeChars_encodeChars cs

theorem decode_eq_ok_iff {octets : Bytes} {text : String} :
    decode octets = .ok text ↔ octets = encode text := by
  rw [encode, ← decodeChars_eq_ok_iff, decode]
  cases decodeChars octets with
  | error fault => simp [Functor.map, Except.map]
  | ok cs =>
      simp only [Functor.map, Except.map, Except.ok.injEq]
      constructor
      · rintro rfl
        exact String.toList_ofList.symm
      · rintro rfl
        exact String.ofList_toList

theorem zero_mem_encodeChars {cs : List Char} : 0 ∈ encodeChars cs ↔ '\x00' ∈ cs := by
  have hchar : ∀ c, 0 ∈ encodeChar c ↔ '\x00' = c := by
    intro c
    constructor
    · intro hzero
      have hc := sequence_encodeChar c
      generalize encodeChar c = octets at hzero hc
      cases hc with
      | one ha =>
          obtain rfl := List.mem_singleton.mp hzero
          rfl
      | two ha hb =>
          simp only [List.mem_cons, List.not_mem_nil, or_false] at hzero
          rcases hzero with rfl | rfl <;> simp at ha hb
      | three ha hb hc =>
          simp only [List.mem_cons, List.not_mem_nil, or_false] at hzero
          rcases hzero with rfl | rfl | rfl <;> simp at ha hb hc
      | four ha hb hc hd =>
          simp only [List.mem_cons, List.not_mem_nil, or_false] at hzero
          rcases hzero with rfl | rfl | rfl | rfl <;> simp at ha hb hc hd
    · rintro rfl
      decide
  simp [encodeChars, hchar]

theorem encodeChars_injective : Function.Injective encodeChars := by
  intro cs ds h
  have hcs := decodeChars_encodeChars cs
  rw [h, decodeChars_encodeChars] at hcs
  exact (Except.ok.inj hcs).symm

theorem encode_injective : Function.Injective encode :=
  fun _ _ h => String.toList_injective (encodeChars_injective h)

theorem encodeChar_eq_utf8EncodeChar (c : Char) : encodeChar c = String.utf8EncodeChar c := by
  have hbound : c.toNat < 0x110000 := by
    rcases c.valid with h | h
    · exact Nat.lt_trans h (by decide)
    · exact h.2
  have hval : c.val.toNat = c.toNat := rfl
  rw [encodeChar, String.utf8EncodeChar, hval]
  generalize c.toNat = n at hbound
  simp only [Nat.toUInt8_eq, Nat.add_comm 0xC0, Nat.add_comm 0xE0, Nat.add_comm 0xF0,
    Nat.add_comm 0x80]
  by_cases hone : n < 0x80
  · rw [if_pos hone, if_pos (by omega)]
  by_cases htwo : n < 0x800
  · rw [if_neg hone, if_pos htwo, if_neg (by omega), if_pos (by omega),
      Nat.mod_eq_of_lt (a := n / 64) (b := 32) (by omega)]
  by_cases hthree : n < 0x10000
  · rw [if_neg hone, if_neg htwo, if_pos hthree, if_neg (by omega), if_neg (by omega),
      if_pos (by omega), Nat.mod_eq_of_lt (a := n / 4096) (b := 16) (by omega)]
  · rw [if_neg hone, if_neg htwo, if_neg hthree, if_neg (by omega), if_neg (by omega),
      if_neg (by omega), Nat.mod_eq_of_lt (a := n / 262144) (b := 8) (by omega)]

theorem toByteArray_encode (text : String) : (encode text).toByteArray = text.toUTF8 := by
  rw [encode, encodeChars, funext encodeChar_eq_utf8EncodeChar]
  exact String.utf8Encode_toList

end TransparencyLog.Utf8
