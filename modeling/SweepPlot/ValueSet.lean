import SweepPlot.Sorted
import SweepPlot.Value

/-!
# Finite sets of values in increasing order

The distinct values of a parameter are kept as a strictly increasing list, so that a set is fixed
by its members (`ValueSet.ext_mem`).
-/

namespace SweepPlot

/-- A finite set of values. -/
structure ValueSet where
  toList : List Value
  /-- Values increase strictly along the list. -/
  sorted : toList.Pairwise (· < ·)
  deriving DecidableEq, Repr

namespace ValueSet

/-- The set without members. -/
def empty : ValueSet := ⟨[], .nil⟩

instance : EmptyCollection ValueSet := ⟨empty⟩
instance : Inhabited ValueSet := ⟨empty⟩

instance : Membership Value ValueSet := ⟨fun s v => v ∈ s.toList⟩

/-- An increasing list with a value put in its place, once. -/
def insertList (v : Value) : List Value → List Value
  | [] => [v]
  | w :: rest =>
    match compare v w with
    | .lt => v :: w :: rest
    | .eq => w :: rest
    | .gt => w :: insertList v rest

theorem mem_insertList {v a : Value} {l : List Value} : a ∈ insertList v l ↔ a = v ∨ a ∈ l := by
  induction l with
  | nil => simp [insertList]
  | cons w rest ih =>
    unfold insertList
    split
    · simp
    · rename_i h
      have := Std.LawfulEqOrd.eq_of_compare h
      simp [this]
    · simp only [List.mem_cons, ih]
      constructor
      · rintro (h | h | h) <;> simp [h]
      · rintro (h | h | h) <;> simp [h]

theorem sorted_insertList (v : Value) {l : List Value} (h : l.Pairwise (· < ·)) :
    (insertList v l).Pairwise (· < ·) := by
  induction l with
  | nil => simp [insertList]
  | cons w rest ih =>
    obtain ⟨hw, hr⟩ := List.pairwise_cons.1 h
    unfold insertList
    split
    · rename_i hlt
      refine List.pairwise_cons.2 ⟨fun b hb => ?_, h⟩
      rcases List.mem_cons.1 hb with rfl | hb
      · exact hlt
      · exact Value.lt_trans hlt (hw b hb)
    · exact h
    · rename_i hgt
      refine List.pairwise_cons.2 ⟨fun b hb => ?_, ih hr⟩
      rcases mem_insertList.1 hb with rfl | hb
      · exact Std.OrientedCmp.lt_of_gt hgt
      · exact hw b hb

/-- The set with a value added. -/
def insert (s : ValueSet) (v : Value) : ValueSet :=
  ⟨insertList v s.toList, sorted_insertList v s.sorted⟩

/-- The set of the values of a list. -/
def ofList (values : List Value) : ValueSet := values.foldl insert empty

@[simp] theorem mem_insert {s : ValueSet} {v a : Value} : a ∈ s.insert v ↔ a = v ∨ a ∈ s :=
  mem_insertList

@[simp] theorem not_mem_empty (a : Value) : a ∉ empty := List.not_mem_nil

@[simp] theorem mem_ofList {values : List Value} {a : Value} : a ∈ ofList values ↔ a ∈ values := by
  have key : ∀ s : ValueSet, a ∈ values.foldl insert s ↔ a ∈ s ∨ a ∈ values := by
    induction values with
    | nil => simp
    | cons v vs ih =>
      intro s
      simp only [List.foldl_cons, ih, mem_insert, List.mem_cons]
      constructor
      · rintro ((h | h) | h) <;> simp [h]
      · rintro (h | h | h) <;> simp [h]
  simp [ofList, key]

/-- Sets with the same members are equal. -/
theorem ext_mem {s t : ValueSet} (h : ∀ a, a ∈ s ↔ a ∈ t) : s = t := by
  obtain ⟨l₁, h₁⟩ := s
  obtain ⟨l₂, h₂⟩ := t
  congr
  exact eq_of_pairwise_of_mem_iff
    (fun _ _ hab hba => Value.lt_irrefl _ (Value.lt_trans hab hba)) h₁ h₂ h

end ValueSet

end SweepPlot
