/-!
# The first failure

Attempts at the members of a list are made in order, and the first that fails ends them: all of them
succeed exactly if each does (`mapM_eq_ok_iff`), and else the failure is that of the first member
that has one (`mapM_eq_error_iff`).
-/

namespace SweepPlot

variable {ε α β : Type} {f : α → Except ε β}

theorem mapM_cons_of_error {a : α} {e : ε} (h : f a = .error e) (l : List α) :
    (a :: l).mapM f = .error e := by
  rw [List.mapM_cons, h]
  rfl

theorem mapM_cons_of_ok {a : α} {b : β} (h : f a = .ok b) (l : List α) :
    (a :: l).mapM f = (l.mapM f).map (b :: ·) := by
  rw [List.mapM_cons, h]
  cases l.mapM f <;> rfl

theorem mapM_eq_ok_iff {l : List α} {l' : List β} :
    l.mapM f = .ok l' ↔ l.map f = l'.map .ok := by
  induction l generalizing l' with
  | nil => cases l' <;> simp [pure, Except.pure]
  | cons a l ih =>
    cases l' with
    | nil =>
      cases ha : f a with
      | error e => simp [mapM_cons_of_error ha]
      | ok b => cases hl : l.mapM f <;> simp [mapM_cons_of_ok ha, hl, Except.map]
    | cons b' l' =>
      cases ha : f a with
      | error e => simp [mapM_cons_of_error ha, ha]
      | ok b =>
        rw [mapM_cons_of_ok ha, List.map_cons, List.map_cons, List.cons.injEq, ← ih, ha]
        cases l.mapM f <;> simp [Except.map]

theorem mapM_eq_error_iff {l : List α} {e : ε} :
    l.mapM f = .error e ↔ ∃ before a after, l = before ++ a :: after ∧
      (∀ x ∈ before, ∃ b, f x = .ok b) ∧ f a = .error e := by
  induction l with
  | nil => simp [pure, Except.pure]
  | cons x l ih =>
    cases hx : f x with
    | error e' =>
      rw [mapM_cons_of_error hx]
      constructor
      · intro h
        cases h
        exact ⟨[], x, l, rfl, by simp, hx⟩
      · rintro ⟨before, a, after, hl, hbefore, ha⟩
        cases before with
        | nil =>
          cases hl
          obtain rfl := Except.error.inj (hx.symm.trans ha)
          rfl
        | cons y before =>
          cases hl
          obtain ⟨b, hb⟩ := hbefore x List.mem_cons_self
          cases hx.symm.trans hb
    | ok b =>
      have hmap : (x :: l).mapM f = .error e ↔ l.mapM f = .error e := by
        rw [mapM_cons_of_ok hx]
        cases l.mapM f <;> simp [Except.map]
      rw [hmap, ih]
      constructor
      · rintro ⟨before, a, after, rfl, hbefore, ha⟩
        refine ⟨x :: before, a, after, rfl, ?_, ha⟩
        exact List.forall_mem_cons.2 ⟨⟨b, hx⟩, hbefore⟩
      · rintro ⟨before, a, after, hl, hbefore, ha⟩
        cases before with
        | nil =>
          cases hl
          cases hx.symm.trans ha
        | cons y before =>
          cases hl
          exact ⟨before, a, after, rfl, (List.forall_mem_cons.1 hbefore).2, ha⟩

end SweepPlot
