import SweepPlot.Proofs.NameMap.Bindings
import SweepPlot.Proofs.Selection.Stable

/-!
# Narrowing a selection

Adding a predicate or constraints narrows a selection. Where two sets constrain a name, the added
one takes the place of the one that was there, so that the wider selection is that without these
names.

* `Constraints.without` leaves out the names of another set; `Constraints.satisfiedBy_union` says
  that a union asks for what is left and for what is added.
* `ResultSet.IsSelection.narrow` says that the narrower selection is the part of the wider one that
  is to be kept, in the same order, and `ResultSet.select_narrow_of_matches` says so of places and
  of results. `ResultSet.select_some` is the case of a predicate, `ResultSet.select_narrow` that of
  constraints and `ResultSet.select_union` that of a union.
-/

namespace SweepPlot

namespace Constraints

theorem get?_union (a b : Constraints) (k : String) :
    (a.union b).get? k = (b.get? k).or (a.get? k) :=
  NameMap.get?_union ..

/-- The constraints on the names that the other set leaves free. -/
def without (c d : Constraints) : Constraints :=
  ⟨c.bindings.restrict fun name => (d.get? name).isNone⟩

theorem get?_without (c d : Constraints) (k : String) :
    (c.without d).get? k = if (d.get? k).isNone then c.get? k else none :=
  NameMap.get?_restrict ..

/-- A union asks for what is added and, on other names, for what was there. -/
theorem satisfiedBy_union {c d : Constraints} {p : Parameters} :
    (c.union d).satisfiedBy p = true ↔
      (c.without d).satisfiedBy p = true ∧ d.satisfiedBy p = true := by
  simp only [satisfiedBy_iff, get?_union, get?_without]
  constructor
  · intro h
    refine ⟨fun name value hv => h name value ?_, fun name value hv => h name value ?_⟩
    · split at hv
      · rename_i hnone
        rw [Option.isNone_iff_eq_none.1 hnone, Option.none_or, hv]
      · cases hv
    · rw [hv, Option.some_or]
  · rintro ⟨hrest, hadded⟩ name value hv
    cases hd : d.get? name with
    | none =>
      rw [hd, Option.none_or] at hv
      exact hrest name value (by rw [hd, hv]; rfl)
    | some added =>
      rw [hd, Option.some_or] at hv
      exact hadded name value (hd.trans hv)

/-- Nothing is left out if no name is shared. -/
theorem without_of_disjoint {c d : Constraints}
    (h : ∀ name, c.get? name = none ∨ d.get? name = none) : c.without d = c := by
  refine ext_get? fun k => ?_
  rw [get?_without]
  rcases h k with hc | hd
  · rw [hc, ite_self]
  · rw [hd]
    rfl

/-- A union of sets that agree on the names they share asks for what both ask for. -/
theorem satisfiedBy_union_of_agree {c d : Constraints} {p : Parameters}
    (h : ∀ name x y, c.get? name = some x → d.get? name = some y → x = y) :
    (c.union d).satisfiedBy p = true ↔
      c.satisfiedBy p = true ∧ d.satisfiedBy p = true := by
  rw [satisfiedBy_union]
  refine and_congr_left fun hadded => ?_
  simp only [satisfiedBy_iff, get?_without] at hadded ⊢
  constructor
  · intro hrest name value hv
    cases hname : d.get? name with
    | none => exact hrest name value (by rw [hname, hv]; rfl)
    | some added =>
      obtain rfl := h name value added hv hname
      exact hadded name value hname
  · intro hall name value hv
    split at hv
    · exact hall name value hv
    · cases hv

end Constraints

namespace ResultSet

variable {s : ResultSet} {c c' d : Constraints} {q q' : Option Predicate} {o : Order}
  {keep : Entry → Bool}

/-- Whether the result at a place has all values asked for. -/
def satisfiedAt (s : ResultSet) (d : Constraints) (i : Nat) : Bool :=
  (s.entries[i]?).any fun e => d.satisfiedBy e.parameters

/-- If the results that match are those of a selection that are to be kept, their selection is the
part of it that is kept. -/
theorem IsSelection.narrow {places : List Nat} (h : s.IsSelection c q o places)
    (hkeep : ∀ e : Entry, e.matches c' q' = true ↔ e.matches c q = true ∧ keep e = true) :
    s.IsSelection c' q' o (places.filter fun i => (s.entries[i]?).any keep) where
  nodup := h.nodup.filter _
  mem i := by
    simp only [List.mem_filter, h.mem, ← Constraints.satisfiedBy_iff, ← Entry.matches_iff, hkeep]
    constructor
    · rintro ⟨⟨e, he, hwide⟩, hkept⟩
      rw [he, Option.any_some] at hkept
      exact ⟨e, he, hwide, hkept⟩
    · rintro ⟨e, he, hwide, hkept⟩
      refine ⟨⟨e, he, hwide⟩, ?_⟩
      rw [he, Option.any_some, hkept]
  ordered := h.ordered.filter _

/-- The results at the places that are left are the results that are left. -/
theorem filterMap_filter_any (places : List Nat) :
    (places.filter fun i => (s.entries[i]?).any keep).filterMap (fun i => s.entries[i]?) =
      (places.filterMap fun i => s.entries[i]?).filter keep := by
  rw [List.filterMap_filter, List.filter_filterMap]
  refine congrArg (List.filterMap · places) (funext fun i => ?_)
  cases s.entries[i]? with
  | none => rfl
  | some e => rfl

/-- The narrower selection keeps what is to be kept, where it stands. -/
theorem select_narrow_of_matches
    (hkeep : ∀ e : Entry, e.matches c' q' = true ↔ e.matches c q = true ∧ keep e = true) :
    s.positions c' q' o = (s.positions c q o).filter (fun i => (s.entries[i]?).any keep) ∧
      s.select c' q' o = (s.select c q o).filter keep := by
  have hplaces : s.positions c' q' o =
      (s.positions c q o).filter fun i => (s.entries[i]?).any keep :=
    (isSelection_positions s c' q' o).unique ((isSelection_positions s c q o).narrow hkeep)
  refine ⟨hplaces, ?_⟩
  rw [select_eq_positions, hplaces, filterMap_filter_any, ← select_eq_positions]

/-- A predicate keeps the selected results of which it holds. -/
theorem select_some (s : ResultSet) (c : Constraints) (q : Predicate) (o : Order) :
    s.select c (some q) o = (s.select c none o).filter fun e => q.holds e.parameters :=
  (select_narrow_of_matches fun e => by simp [Entry.matches_iff]).2

/-- Added constraints keep the selected results that satisfy them. -/
theorem select_narrow
    (hc : ∀ p, c'.satisfiedBy p = true ↔ c.satisfiedBy p = true ∧ d.satisfiedBy p = true) :
    s.positions c' q o = (s.positions c q o).filter (s.satisfiedAt d) ∧
      s.select c' q o = (s.select c q o).filter fun e => d.satisfiedBy e.parameters :=
  select_narrow_of_matches fun e => by
    rw [Entry.matches_iff, Entry.matches_iff, hc, and_right_comm]

/-- **Adding constraints narrows a selection.** What a union selects is the part that satisfies the
added constraints of what is selected without the names that they constrain, where it stands: the
same places of the set, and the same results, in the same order. If the sets agree on the names they
share, it is that part of what the first set selects; and if they share none, nothing is left out
of it. -/
theorem select_union (s : ResultSet) (c d : Constraints) (q : Option Predicate) (o : Order) :
    (s.positions (c.union d) q o = (s.positions (c.without d) q o).filter (s.satisfiedAt d) ∧
      s.select (c.union d) q o =
        (s.select (c.without d) q o).filter fun e => d.satisfiedBy e.parameters) ∧
    ((∀ name x y, c.get? name = some x → d.get? name = some y → x = y) →
      s.positions (c.union d) q o = (s.positions c q o).filter (s.satisfiedAt d) ∧
      s.select (c.union d) q o = (s.select c q o).filter fun e => d.satisfiedBy e.parameters) ∧
    (∀ name, (c.without d).get? name = if (d.get? name).isNone then c.get? name else none) ∧
    ((∀ name, c.get? name = none ∨ d.get? name = none) → c.without d = c) :=
  ⟨select_narrow fun _ => Constraints.satisfiedBy_union,
    fun hagree => select_narrow fun _ => Constraints.satisfiedBy_union_of_agree hagree,
    Constraints.get?_without c d, Constraints.without_of_disjoint⟩

/-- The result with the value that is asked for, also if another value was asked for before. -/
theorem select_union_partlyMeasured :
    (partlyMeasured.select ((Constraints.single "n" (.int 2)).union (.single "n" (.int 1))) none
        (.descending "n") = [⟨"b_n=1", .ofList [("n", .int 1)]⟩] ∧
      partlyMeasured.select (Constraints.empty.union (.single "n" (.int 1))) none
        (.descending "n") = [⟨"b_n=1", .ofList [("n", .int 1)]⟩]) ∧
    Constraints.empty.without (.single "n" (.int 1)) = .empty := by
  obtain ⟨⟨-, hconflict⟩, -⟩ := select_union partlyMeasured (.single "n" (.int 2))
    (.single "n" (.int 1)) none (.descending "n")
  obtain ⟨-, hagree, -, hdisjoint⟩ := select_union partlyMeasured .empty
    (.single "n" (.int 1)) none (.descending "n")
  have hfree : (Constraints.single "n" (.int 2)).without (.single "n" (.int 1)) = .empty := by
    decide
  refine ⟨⟨?_, ?_⟩, hdisjoint fun _ => .inl rfl⟩
  · rw [hconflict, hfree, select_partlyMeasured (.inr rfl)]
    decide
  · rw [(hagree fun _ _ _ h => nomatch h).2, select_partlyMeasured (.inr rfl)]
    decide

end ResultSet

end SweepPlot
