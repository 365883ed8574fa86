import Mathlib.Data.List.DropRight
import TransparencyLog.Text.Blank

namespace TransparencyLog.Text

variable {drop : Char → Bool}

/-- Neither the first nor the last character is one to be dropped. -/
structure IsTrimmed (drop : Char → Bool) (cs : List Char) : Prop where
  head : ∀ c ∈ cs.head?, drop c = false
  last : ∀ c ∈ cs.getLast?, drop c = false

theorem trimEnd_eq_rdropWhile (cs : List Char) : trimEnd drop cs = cs.rdropWhile drop := rfl

theorem trimEnd_eq_nil_iff {cs : List Char} : trimEnd drop cs = [] ↔ ∀ c ∈ cs, drop c = true :=
  List.rdropWhile_eq_nil_iff

theorem rdropWhile_append {α : Type*} {p : α → Bool} {xs tail : List α}
    (htail : ∀ x ∈ tail, p x = true) : (xs ++ tail).rdropWhile p = xs.rdropWhile p := by
  rw [List.rdropWhile, List.rdropWhile, List.reverse_append,
    List.dropWhile_append_of_pos (by simpa using htail)]

theorem trimEnd_append {cs tail : List Char} (htail : ∀ c ∈ tail, drop c = true) :
    trimEnd drop (cs ++ tail) = trimEnd drop cs :=
  rdropWhile_append htail

theorem trimEnd_eq_self {cs : List Char} (hlast : ∀ c ∈ cs.getLast?, drop c = false) :
    trimEnd drop cs = cs := by
  rw [trimEnd_eq_rdropWhile, List.rdropWhile_eq_self_iff]
  intro hcs
  simp [hlast _ (List.getLast?_eq_some_getLast hcs)]

theorem exists_eq_trimEnd_append (drop : Char → Bool) (cs : List Char) :
    ∃ tail, (∀ c ∈ tail, drop c = true) ∧ cs = trimEnd drop cs ++ tail :=
  ⟨cs.rtakeWhile drop, fun _ hc => List.mem_rtakeWhile_imp hc,
    (List.rdropWhile_append_rtakeWhile).symm⟩

theorem head?_dropWhile (cs : List Char) : ∀ c ∈ (cs.dropWhile drop).head?, drop c = false := by
  intro c hc
  have hnot := List.head?_dropWhile_not drop cs
  rw [Option.mem_def.mp hc] at hnot
  simpa using hnot

theorem getLast?_trimEnd (cs : List Char) : ∀ c ∈ (trimEnd drop cs).getLast?, drop c = false := by
  rw [trimEnd, List.getLast?_reverse]
  exact head?_dropWhile cs.reverse

theorem trim_append {front cs tail : List Char} (hfront : ∀ c ∈ front, drop c = true)
    (hcs : IsTrimmed drop cs) (htail : ∀ c ∈ tail, drop c = true) :
    trim drop (front ++ cs ++ tail) = cs := by
  rw [trim, List.append_assoc, List.dropWhile_append_of_pos hfront]
  cases cs with
  | nil =>
      rw [List.nil_append, trimEnd_eq_nil_iff]
      exact fun c hc => htail c ((List.dropWhile_suffix drop).mem hc)
  | cons c cs =>
      have hc : drop c = false := hcs.head c rfl
      rw [List.cons_append, List.dropWhile_cons_of_neg (by simp [hc]), ← List.cons_append,
        trimEnd_append htail, trimEnd_eq_self hcs.last]

theorem isTrimmed_trim (cs : List Char) : IsTrimmed drop (trim drop cs) := by
  refine ⟨?_, getLast?_trimEnd _⟩
  intro c hc
  obtain ⟨tail, -, heq⟩ := exists_eq_trimEnd_append drop (cs.dropWhile drop)
  apply head?_dropWhile cs c
  rw [heq, List.head?_append]
  exact Option.mem_def.mpr (by rw [← trim, Option.mem_def.mp hc, Option.some_or])

theorem exists_eq_append_trim (drop : Char → Bool) (cs : List Char) :
    ∃ front tail, (∀ c ∈ front, drop c = true) ∧ (∀ c ∈ tail, drop c = true) ∧
      cs = front ++ trim drop cs ++ tail := by
  obtain ⟨tail, htail, heq⟩ := exists_eq_trimEnd_append drop (cs.dropWhile drop)
  refine ⟨cs.takeWhile drop, tail, fun c hc => List.mem_takeWhile_imp hc, htail, ?_⟩
  rw [trim, List.append_assoc, ← heq, List.takeWhile_append_dropWhile]

section Mark

variable {α : Type} [DecidableEq α] {mark : α} {front : List α}

theorem takeWhile_ne_append (h : mark ∉ front) (rest : List α) :
    (front ++ mark :: rest).takeWhile (· ≠ mark) = front := by
  rw [List.takeWhile_append_of_pos]
  · simp
  · intro c hc
    have hne : c ≠ mark := fun heq => h (heq ▸ hc)
    simpa using hne

theorem dropWhile_ne_append (h : mark ∉ front) (rest : List α) :
    (front ++ mark :: rest).dropWhile (· ≠ mark) = mark :: rest := by
  rw [List.dropWhile_append_of_pos]
  · simp
  · intro c hc
    have hne : c ≠ mark := fun heq => h (heq ▸ hc)
    simpa using hne

theorem append_cons_inj {front' tail tail' : List α} (h : mark ∉ tail) (h' : mark ∉ tail') :
    front ++ mark :: tail = front' ++ mark :: tail' ↔ front = front' ∧ tail = tail' := by
  constructor
  · intro heq
    have hreverse : tail.reverse ++ mark :: front.reverse =
        tail'.reverse ++ mark :: front'.reverse := by
      simpa using congrArg List.reverse heq
    have hcut := congrArg (List.takeWhile (· ≠ mark)) hreverse
    rw [takeWhile_ne_append (by simpa using h), takeWhile_ne_append (by simpa using h')] at hcut
    obtain rfl := List.reverse_injective hcut
    exact ⟨List.append_cancel_right heq, rfl⟩
  · rintro ⟨rfl, rfl⟩
    rfl

end Mark

end TransparencyLog.Text
