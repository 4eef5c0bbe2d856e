import Mathlib.Data.List.Perm.Subperm
import SweepPlot.NameMap

/-!
# The bindings of built maps

Maps are built by insertions, one by one or from a list.

* `exists_insertList_eq` and `mem_toList_insert` are about the list behind an insertion.
* `get?_foldl_insert` and `mem_toList_foldl_insert` are about insertions one after the other, and
  `get?_foldl_insert_reverse` says that the last one counts; `ofList_toList` says that a map is
  built from its own bindings, `get?_union` what a union binds, and `ofList_cons` that a first
  binding gives way to later ones of its name.
* `ofList_perm` says that a list without repeated names is the bindings of its map, and
  `eq_ofList_of_size` that no other map with as many bindings has them all.
* `isSome_lookup_iff` and `mem_names_iff` say which names are bound, `lookup_eq_some_iff` and
  `lookup_eq_of_perm` that a list without repeated names is looked up in any order, and
  `toList_eq_filterMap_names` that names and their values are all there is to a map.
* `restrict` is the part of a map with some of its names.
-/

namespace SweepPlot.NameMap

variable {α : Type}

/-- The place of a binding depends on its name only. -/
theorem exists_insertList_eq (name : String) (l : List (String × α)) :
    ∃ before after, ∀ value, insertList name value l = before ++ (name, value) :: after := by
  induction l with
  | nil => exact ⟨[], [], fun _ => rfl⟩
  | cons hd tl ih =>
    obtain ⟨n, v⟩ := hd
    obtain ⟨before, after, ih⟩ := ih
    by_cases hlt : name < n
    · exact ⟨[], (n, v) :: tl, fun value => by rw [insertList, if_pos hlt]; rfl⟩
    · by_cases heq : name = n
      · exact ⟨[], tl, fun value => by rw [insertList, if_neg hlt, if_pos heq]; rfl⟩
      · exact ⟨(n, v) :: before, after, fun value => by
          rw [insertList, if_neg hlt, if_neg heq, ih]
          rfl⟩

/-- What is bound in an extended list was bound before or is the new binding. -/
theorem mem_toList_insert {m : NameMap α} {name : String} {value : α} {b : String × α}
    (h : b ∈ (m.insert name value).toList) : b = (name, value) ∨ b ∈ m.toList :=
  mem_insertList h

/-- What is bound after insertions was bound before or is one of the new bindings. -/
theorem mem_toList_foldl_insert {l : List (String × α)} {m : NameMap α} {b : String × α}
    (h : b ∈ (l.foldl (fun m (c : String × α) => m.insert c.1 c.2) m).toList) :
    b ∈ m.toList ∨ b ∈ l := by
  induction l generalizing m with
  | nil => exact .inl h
  | cons c l ih =>
    rcases ih h with hb | hb
    · rcases mem_toList_insert hb with rfl | hb
      · exact .inr List.mem_cons_self
      · exact .inl hb
    · exact .inr (List.mem_cons_of_mem _ hb)

/-- What a map of a list binds is in the list. -/
theorem mem_of_mem_ofList {l : List (String × α)} {b : String × α} (h : b ∈ (ofList l).toList) :
    b ∈ l :=
  (mem_toList_foldl_insert h).resolve_left List.not_mem_nil

/-- Where names differ, insertions do not touch each other. -/
theorem get?_foldl_insert {l : List (String × α)} (hl : l.Pairwise (·.1 ≠ ·.1)) (m : NameMap α)
    (k : String) :
    (l.foldl (fun m (b : String × α) => m.insert b.1 b.2) m).get? k =
      (l.lookup k).or (m.get? k) := by
  induction l generalizing m with
  | nil => rfl
  | cons b l ih =>
    obtain ⟨n, v⟩ := b
    obtain ⟨hn, hl⟩ := List.pairwise_cons.1 hl
    rw [List.foldl_cons, ih hl, get?_insert, lookup_cons_eq_ite]
    by_cases hk : k = n
    · have hnone : l.lookup k = none := List.lookup_eq_none_iff.2 fun b hb => by
        simpa [hk] using hn b hb
      rw [if_pos hk, if_pos hk, hnone, Option.none_or, Option.some_or]
    · rw [if_neg hk, if_neg hk]

/-- After insertions a name has the value that was inserted last, or the one from before. -/
theorem get?_foldl_insert_reverse (l : List (String × α)) (m : NameMap α) (k : String) :
    (l.foldl (fun m (b : String × α) => m.insert b.1 b.2) m).get? k =
      (l.reverse.lookup k).or (m.get? k) := by
  induction l generalizing m with
  | nil => rfl
  | cons b l ih =>
    obtain ⟨n, v⟩ := b
    rw [List.foldl_cons, ih, get?_insert, List.reverse_cons, List.lookup_append, Option.or_assoc,
      lookup_cons_eq_ite]
    by_cases hk : k = n
    · rw [if_pos hk, if_pos hk, Option.some_or]
    · rw [if_neg hk, if_neg hk, List.lookup_nil, Option.none_or]

/-- No name is bound twice. -/
theorem pairwise_ne (m : NameMap α) : m.toList.Pairwise (·.1 ≠ ·.1) :=
  m.sorted.imp fun {a b} hlt (heq : a.1 = b.1) => String.lt_irrefl b.1 (heq ▸ hlt)

/-- The map of a list without repeated names is looked up like the list. -/
theorem get?_ofList {l : List (String × α)} (hl : l.Pairwise (·.1 ≠ ·.1)) (k : String) :
    (ofList l).get? k = l.lookup k := by
  rw [ofList, get?_foldl_insert hl, get?_empty, Option.or_none]

/-- A map is built from its bindings. -/
theorem ofList_toList (m : NameMap α) : ofList m.toList = m :=
  ext_get? fun k => get?_ofList m.pairwise_ne k

/-- In a list without repeated names, each name has the value that stands beside it. -/
theorem lookup_eq_some_iff {l : List (String × α)} (hl : l.Pairwise (·.1 ≠ ·.1)) {b : String × α} :
    l.lookup b.1 = some b.2 ↔ b ∈ l := by
  constructor
  · intro h
    obtain ⟨before, after, rfl, -⟩ := List.lookup_eq_some_iff.1 h
    exact List.mem_append_right _ List.mem_cons_self
  · intro hb
    induction l with
    | nil => cases hb
    | cons c l ih =>
      obtain ⟨n, v⟩ := c
      obtain ⟨hn, hl⟩ := List.pairwise_cons.1 hl
      rw [lookup_cons_eq_ite]
      rcases List.mem_cons.1 hb with rfl | hb
      · exact if_pos rfl
      · rw [if_neg fun heq => hn b hb heq.symm, ih hl hb]

/-- The order of a list without repeated names does not show in what is looked up. -/
theorem lookup_eq_of_perm {l l' : List (String × α)} (hl : l.Pairwise (·.1 ≠ ·.1))
    (hl' : l'.Pairwise (·.1 ≠ ·.1)) (h : l.Perm l') (k : String) : l.lookup k = l'.lookup k :=
  Option.ext fun v => (lookup_eq_some_iff hl (b := (k, v))).trans
    (h.mem_iff.trans (lookup_eq_some_iff hl' (b := (k, v))).symm)

/-- The map of a list without repeated names has the bindings of the list. -/
theorem mem_ofList_iff {l : List (String × α)} (hl : l.Pairwise (·.1 ≠ ·.1)) {b : String × α} :
    b ∈ (ofList l).toList ↔ b ∈ l := by
  rw [← lookup_eq_some_iff hl, ← get?_ofList hl]
  exact get?_eq_some_iff.symm

theorem nodup_of_pairwise_ne {l : List (String × α)} (hl : l.Pairwise (·.1 ≠ ·.1)) : l.Nodup :=
  hl.imp fun hne heq => hne (congrArg Prod.fst heq)

/-- A list without repeated names is the bindings of its map, in some order. -/
theorem ofList_perm {l : List (String × α)} (hl : l.Pairwise (·.1 ≠ ·.1)) :
    (ofList l).toList.Perm l :=
  (List.perm_ext_iff_of_nodup (nodup_of_pairwise_ne (ofList l).pairwise_ne)
    (nodup_of_pairwise_ne hl)).2 fun _ => mem_ofList_iff hl

/-- A map with as many bindings as a list without repeated names, and with all of these, is the map
of the list. -/
theorem eq_ofList_of_size {m : NameMap α} {l : List (String × α)} (hl : l.Pairwise (·.1 ≠ ·.1))
    (hsize : m.size = l.length) (hget : ∀ b ∈ l, m.get? b.1 = some b.2) : m = ofList l := by
  have hsubset : l ⊆ m.toList := fun b hb => get?_eq_some_iff.1 (hget b hb)
  have hsubperm : l.Subperm m.toList := List.subperm_of_subset (nodup_of_pairwise_ne hl) hsubset
  have hperm : l.Perm m.toList := hsubperm.perm_of_length_le (Nat.le_of_eq hsize)
  refine ext_get? fun k => Option.ext fun v => ?_
  rw [get?_eq_some_iff, get?_eq_some_iff, mem_ofList_iff hl, hperm.mem_iff]

/-- A union binds what the second map binds, and else what the first one does. -/
@[simp] theorem get?_union (a b : NameMap α) (k : String) :
    (a.union b).get? k = (b.get? k).or (a.get? k) :=
  get?_foldl_insert b.pairwise_ne a k

/-- A first binding is one to which the others are added. -/
theorem ofList_cons {l : List (String × α)} (hl : l.Pairwise (·.1 ≠ ·.1)) (name : String)
    (value : α) : ofList ((name, value) :: l) = (empty.insert name value).union (ofList l) := by
  refine ext_get? fun k => ?_
  rw [get?_union, get?_ofList hl, ofList, List.foldl_cons, get?_foldl_insert hl]

/-! ## Names -/

/-- A list has a value for the names that stand in it. -/
theorem isSome_lookup_iff {l : List (String × α)} {name : String} :
    (l.lookup name).isSome ↔ name ∈ l.map (·.1) := by
  induction l with
  | nil => simp
  | cons b l ih =>
    obtain ⟨n, v⟩ := b
    rw [lookup_cons_eq_ite, List.map_cons, List.mem_cons, ← ih]
    by_cases hn : name = n <;> simp [hn]

theorem mem_names_iff {m : NameMap α} {name : String} : name ∈ m.names ↔ (m.get? name).isSome :=
  isSome_lookup_iff.symm

theorem pairwise_names (m : NameMap α) : m.names.Pairwise (· < ·) := List.pairwise_map.2 m.sorted

theorem nodup_names (m : NameMap α) : m.names.Nodup := by
  refine m.pairwise_names.imp ?_
  rintro a b hlt rfl
  exact String.lt_irrefl a hlt

/-- The bindings are the bound names with their values. -/
theorem toList_eq_filterMap_names (m : NameMap α) :
    m.toList = m.names.filterMap fun name => (m.get? name).map (name, ·) := by
  have hsome : ∀ b ∈ m.toList, (m.get? b.1).map (b.1, ·) = some b := fun b hb => by
    rw [get?_eq_some_iff.2 hb]
    rfl
  rw [names, List.filterMap_map]
  exact ((List.filterMap_congr hsome).trans List.filterMap_some).symm

/-! ## Parts of a map -/

/-- The bindings of the names that are kept. -/
def restrict (m : NameMap α) (keep : String → Bool) : NameMap α :=
  ⟨m.toList.filter fun b => keep b.1, m.sorted.filter _⟩

@[simp] theorem get?_restrict (m : NameMap α) (keep : String → Bool) (k : String) :
    (m.restrict keep).get? k = if keep k then m.get? k else none := by
  ext v
  rw [get?_eq_some_iff, restrict, List.mem_filter, ← get?_eq_some_iff]
  split <;> simp_all

end SweepPlot.NameMap
