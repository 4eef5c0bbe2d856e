/-!
# Strictly sorted lists

A list that is strictly sorted by a relation without two-way pairs is determined by its members
(`eq_of_pairwise_of_mem_iff`). Finite maps and sets are kept as such lists.
-/

namespace SweepPlot

/-- Two strictly sorted lists with the same members are equal. -/
theorem eq_of_pairwise_of_mem_iff {α : Type} {r : α → α → Prop}
    (asymm : ∀ a b, r a b → ¬ r b a) {l₁ l₂ : List α}
    (h₁ : l₁.Pairwise r) (h₂ : l₂.Pairwise r) (h : ∀ a, a ∈ l₁ ↔ a ∈ l₂) : l₁ = l₂ := by
  have irrefl : ∀ a, ¬ r a a := fun a ha => asymm a a ha ha
  induction l₁ generalizing l₂ with
  | nil =>
    cases l₂ with
    | nil => rfl
    | cons y _ => exact absurd ((h y).2 List.mem_cons_self) (by simp)
  | cons x xs ih =>
    cases l₂ with
    | nil => exact absurd ((h x).1 List.mem_cons_self) (by simp)
    | cons y ys =>
      obtain ⟨hx, hxs⟩ := List.pairwise_cons.1 h₁
      obtain ⟨hy, hys⟩ := List.pairwise_cons.1 h₂
      have hxy : x = y := by
        rcases List.mem_cons.1 ((h x).1 List.mem_cons_self) with e | hin
        · exact e
        · rcases List.mem_cons.1 ((h y).2 List.mem_cons_self) with e | hin'
          · exact e.symm
          · exact absurd (hx _ hin') (asymm _ _ (hy _ hin))
      subst hxy
      congr 1
      refine ih hxs hys fun a => ⟨fun ha => ?_, fun ha => ?_⟩
      · rcases List.mem_cons.1 ((h a).1 (List.mem_cons_of_mem _ ha)) with rfl | h'
        · exact absurd (hx _ ha) (irrefl _)
        · exact h'
      · rcases List.mem_cons.1 ((h a).2 (List.mem_cons_of_mem _ ha)) with rfl | h'
        · exact absurd (hy _ ha) (irrefl _)
        · exact h'

end SweepPlot
