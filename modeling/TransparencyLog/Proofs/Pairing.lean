import Mathlib.Data.List.Forall2

namespace TransparencyLog

variable {α β γ : Type} {R : α → β → Prop} {xs : List α} {ys : List β}

theorem forall₂_and_mem (h : List.Forall₂ R xs ys) :
    List.Forall₂ (fun x y => (x ∈ xs ∧ y ∈ ys) ∧ R x y) xs ys :=
  List.forall₂_iff_zip.mpr
    ⟨h.length_eq, fun hmem => ⟨List.of_mem_zip hmem, List.forall₂_zip h hmem⟩⟩

theorem forall₂_and {S : α → β → Prop} (h : List.Forall₂ R xs ys) (h' : List.Forall₂ S xs ys) :
    List.Forall₂ (fun x y => R x y ∧ S x y) xs ys :=
  List.forall₂_iff_zip.mpr
    ⟨h.length_eq, fun hmem => ⟨List.forall₂_zip h hmem, List.forall₂_zip h' hmem⟩⟩

theorem exists_mem_left_of_forall₂ (h : List.Forall₂ R xs ys) {y : β} (hy : y ∈ ys) :
    ∃ x ∈ xs, R x y := by
  induction h with
  | nil => simp at hy
  | cons hxy _ ih =>
      rcases List.mem_cons.mp hy with rfl | hy
      · exact ⟨_, by simp, hxy⟩
      · obtain ⟨x, hx, hxy⟩ := ih hy
        exact ⟨x, by simp [hx], hxy⟩

theorem exists_mem_right_of_forall₂ (h : List.Forall₂ R xs ys) {x : α} (hx : x ∈ xs) :
    ∃ y ∈ ys, R x y :=
  exists_mem_left_of_forall₂ h.flip hx

theorem exists_forall₂_iff : (∃ ys, List.Forall₂ R xs ys) ↔ ∀ x ∈ xs, ∃ y, R x y := by
  constructor
  · rintro ⟨ys, h⟩ x hx
    obtain ⟨y, -, hxy⟩ := exists_mem_right_of_forall₂ h hx
    exact ⟨y, hxy⟩
  · intro h
    induction xs with
    | nil => exact ⟨[], .nil⟩
    | cons x xs ih =>
        obtain ⟨⟨y, hxy⟩, hrest⟩ := List.forall_mem_cons.mp h
        obtain ⟨ys, hys⟩ := ih hrest
        exact ⟨y :: ys, .cons hxy hys⟩

theorem forall₂_comp {S : γ → β → Prop} {T : α → γ → Prop} {zs : List γ}
    (hcomp : ∀ x y z, R x y → S z y → T x z) (h : List.Forall₂ R xs ys)
    (h' : List.Forall₂ S zs ys) : List.Forall₂ T xs zs := by
  induction h generalizing zs with
  | nil =>
      obtain rfl := List.forall₂_nil_right_iff.mp h'
      exact .nil
  | cons hxy _ ih =>
      obtain ⟨z, rest, hzy, hrest, rfl⟩ := List.forall₂_cons_right_iff.mp h'
      exact .cons (hcomp _ _ _ hxy hzy) (ih hrest)

theorem map_eq_map_iff_forall₂ {f : α → γ} {g : β → γ} :
    xs.map f = ys.map g ↔ List.Forall₂ (fun x y => f x = g y) xs ys := by
  rw [← List.forall₂_eq_eq_eq, List.forall₂_map_left_iff, List.forall₂_map_right_iff]

end TransparencyLog
