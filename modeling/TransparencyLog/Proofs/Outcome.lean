namespace TransparencyLog

variable {ε α β : Type}

@[simp] theorem ok_bind (a : α) (f : α → Except ε β) : (Except.ok a >>= f) = f a := rfl

theorem bind_eq_ok_iff {x : Except ε α} {f : α → Except ε β} {b : β} :
    (x >>= f) = .ok b ↔ ∃ a, x = .ok a ∧ f a = .ok b := by
  cases x with
  | error fault =>
      constructor
      · intro h
        cases h
      · rintro ⟨a, h, -⟩
        cases h
  | ok a => simp

theorem bind_eq_error_iff {x : Except ε α} {f : α → Except ε β} {fault : ε} :
    (x >>= f) = .error fault ↔ x = .error fault ∨ ∃ a, x = .ok a ∧ f a = .error fault := by
  cases x with
  | error cause =>
      constructor
      · intro h
        exact .inl (congrArg Except.error (Except.error.inj h))
      · rintro (h | ⟨a, h, -⟩)
        · exact congrArg Except.error (Except.error.inj h)
        · cases h
  | ok a => simp

theorem unless_eq_ok_iff {c : Prop} [Decidable c] {fault : ε} {x : Except ε α} {a : α} :
    (if c then (do throw fault; x) else x) = .ok a ↔ ¬ c ∧ x = .ok a := by
  split
  · rename_i h
    constructor
    · intro heq
      cases heq
    · rintro ⟨hnot, -⟩
      exact absurd h hnot
  · rename_i h
    simp [h]

end TransparencyLog
