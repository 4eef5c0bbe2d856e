import SweepPlot.Sorted

/-!
# Finite maps in name order

A `NameMap α` binds names to values of type `α` and lists its bindings in strictly increasing
name order. The order is a field of the type, so a map is fixed by what it binds:

* `get?_insert` says what an insertion changes;
* `ext_get?` says that maps with the same bindings are equal.
-/

namespace SweepPlot

/-- A finite map from names to values of type `α`. -/
structure NameMap (α : Type) where
  toList : List (String × α)
  /-- Names increase strictly along the list. -/
  sorted : toList.Pairwise (·.1 < ·.1)
  deriving DecidableEq, Repr

namespace NameMap

variable {α : Type}

/-- The map that binds nothing. -/
def empty : NameMap α := ⟨[], .nil⟩

instance : EmptyCollection (NameMap α) := ⟨empty⟩
instance : Inhabited (NameMap α) := ⟨empty⟩

/-- The value bound to a name. -/
def get? (m : NameMap α) (name : String) : Option α := m.toList.lookup name

/-- A list of bindings with one of them set: in place if the name is there, else before the
first greater name. -/
def insertList (name : String) (value : α) : List (String × α) → List (String × α)
  | [] => [(name, value)]
  | (n, v) :: rest =>
    if name < n then (name, value) :: (n, v) :: rest
    else if name = n then (name, value) :: rest
    else (n, v) :: insertList name value rest

theorem mem_insertList {name : String} {value : α} {b : String × α} {l : List (String × α)}
    (h : b ∈ insertList name value l) : b = (name, value) ∨ b ∈ l := by
  induction l with
  | nil => simp_all [insertList]
  | cons hd tl ih =>
    obtain ⟨n, v⟩ := hd
    unfold insertList at h
    split at h
    · simpa using h
    · split at h
      · rcases List.mem_cons.1 h with h | h
        · exact .inl h
        · exact .inr (List.mem_cons_of_mem _ h)
      · rcases List.mem_cons.1 h with h | h
        · exact .inr (h ▸ List.mem_cons_self)
        · exact (ih h).imp_right (List.mem_cons_of_mem _)

theorem sorted_insertList (name : String) (value : α) {l : List (String × α)}
    (h : l.Pairwise (·.1 < ·.1)) : (insertList name value l).Pairwise (·.1 < ·.1) := by
  induction l with
  | nil => simp [insertList]
  | cons hd tl ih =>
    obtain ⟨n, v⟩ := hd
    obtain ⟨hn, ht⟩ := List.pairwise_cons.1 h
    unfold insertList
    split
    · rename_i hlt
      refine List.pairwise_cons.2 ⟨fun b hb => ?_, h⟩
      rcases List.mem_cons.1 hb with rfl | hb
      · exact hlt
      · exact String.lt_trans hlt (hn b hb)
    · split
      · rename_i heq
        exact List.pairwise_cons.2 ⟨fun b hb => heq ▸ hn b hb, ht⟩
      · rename_i hlt hne
        refine List.pairwise_cons.2 ⟨fun b hb => ?_, ih ht⟩
        rcases mem_insertList hb with rfl | hb
        · exact Decidable.byContradiction fun h =>
            hne (String.le_antisymm (String.not_lt.1 h) (String.not_lt.1 hlt))
        · exact hn b hb

/-- The map with a name bound to a value. -/
def insert (m : NameMap α) (name : String) (value : α) : NameMap α :=
  ⟨insertList name value m.toList, sorted_insertList name value m.sorted⟩

/-- The map of a list of bindings, of which a later one wins over an earlier one. -/
def ofList (bindings : List (String × α)) : NameMap α :=
  bindings.foldl (fun m (name, value) => m.insert name value) empty

/-- The bindings of both maps, where those of `b` win. -/
def union (a b : NameMap α) : NameMap α :=
  b.toList.foldl (fun m (name, value) => m.insert name value) a

/-- The number of bindings. -/
def size (m : NameMap α) : Nat := m.toList.length

/-- The bound names in increasing order. -/
def names (m : NameMap α) : List String := m.toList.map (·.1)

theorem lookup_cons_eq_ite (k n : String) (v : α) (l : List (String × α)) :
    ((n, v) :: l).lookup k = if k = n then some v else l.lookup k := by
  by_cases hk : k = n
  · simp [hk]
  · simp [List.lookup_cons, hk, beq_eq_false_iff_ne.2 hk]

theorem lookup_insertList (name : String) (value : α) (k : String) (l : List (String × α)) :
    (insertList name value l).lookup k = if k = name then some value else l.lookup k := by
  induction l with
  | nil => simp [insertList, lookup_cons_eq_ite]
  | cons hd tl ih =>
    obtain ⟨n, v⟩ := hd
    unfold insertList
    split
    · simp only [lookup_cons_eq_ite]
    · split
      · rename_i heq
        subst heq
        by_cases hk : k = name <;> simp [lookup_cons_eq_ite, hk]
      · rename_i hne
        by_cases hk : k = n
        · subst hk
          simp [Ne.symm hne]
        · simp [lookup_cons_eq_ite, hk, ih]

@[simp] theorem get?_empty (k : String) : (empty : NameMap α).get? k = none := rfl

/-- An insertion binds its name and leaves every other name as it was. -/
@[simp] theorem get?_insert (m : NameMap α) (name : String) (value : α) (k : String) :
    (m.insert name value).get? k = if k = name then some value else m.get? k :=
  lookup_insertList name value k m.toList

theorem get?_eq_some_iff {m : NameMap α} {k : String} {v : α} :
    m.get? k = some v ↔ (k, v) ∈ m.toList := by
  obtain ⟨l, hl⟩ := m
  simp only [get?]
  induction l with
  | nil => simp
  | cons hd tl ih =>
    obtain ⟨n, w⟩ := hd
    obtain ⟨hn, ht⟩ := List.pairwise_cons.1 hl
    by_cases hk : k = n
    · subst hk
      have : (k, v) ∉ tl := fun h => String.lt_irrefl k (hn _ h)
      simp [this, eq_comm]
    · simp [lookup_cons_eq_ite, hk, ih ht]

/-- Maps with the same bindings are equal. -/
theorem ext_get? {a b : NameMap α} (h : ∀ k, a.get? k = b.get? k) : a = b := by
  have hmem : ∀ e : String × α, e ∈ a.toList ↔ e ∈ b.toList := fun e => by
    rw [← get?_eq_some_iff (k := e.1) (v := e.2), ← get?_eq_some_iff (k := e.1) (v := e.2), h]
  obtain ⟨l₁, h₁⟩ := a
  obtain ⟨l₂, h₂⟩ := b
  congr
  exact eq_of_pairwise_of_mem_iff (fun _ _ => String.lt_asymm) h₁ h₂ hmem

end NameMap

end SweepPlot
