import SweepPlot.Proofs.Selection.Sorted
import SweepPlot.Proofs.Text.ByteOrder

/-!
# Selections are stable

A selection is fixed by four things: which results match, how their values compare, that results
without the parameter come last, and that results that compare equal stay as they were found.

* `Value.Below` spells out the order of values, and `Order.Lists` what an order lists first of two
  results at their places.
* `ResultSet.IsSelection` says what a selection is, as a list of places. There is no more than one
  (`IsSelection.unique`), and `ResultSet.positions` is one (`isSelection_positions`).
* `filter_mergeSort_of_pairwise` is the stability of sorting: elements that compare equal keep their
  order.
-/

namespace SweepPlot

/-- Integers are below texts, integers go by size, and texts go by their bytes. -/
def Value.Below : Value → Value → Prop
  | .int a, .int b => a.toInt < b.toInt
  | .int _, .text _ => True
  | .text _, .int _ => False
  | .text a, .text b => Text.Utf8.encode a < Text.Utf8.encode b

theorem Value.compare_eq_lt_iff {a b : Value} : compare a b = .lt ↔ a.Below b := by
  cases a with
  | int a =>
    cases b with
    | int b => rw [compare_int_int, Std.compare_eq_lt, Int64.lt_iff_toInt_lt, Below]
    | text b => simp [Below]
  | text a =>
    cases b with
    | int b => simp [Below]
    | text b =>
      rw [compare_text_text, Below, Text.Utf8.encode_lt_encode_iff]
      exact compareOfLessAndEq_eq_lt

namespace Order

/-- What is listed first of two results, by the value of each and the place at which it was found: a
result with a value before one without, of two values the one that is `first`, and else the result
that was found earlier. -/
def Precedes (first : Value → Value → Prop) : Option Value × Nat → Option Value × Nat → Prop
  | (some x, i), (some y, j) => first x y ∨ x = y ∧ i < j
  | (some _, _), (none, _) => True
  | (none, _), (some _, _) => False
  | (none, i), (none, j) => i < j

/-- What an order lists first of two results at their places. -/
def Lists (o : Order) (a b : Entry × Nat) : Prop :=
  match o with
  | .discovery => a.2 < b.2
  | .ascending axis =>
    Precedes Value.Below (a.1.parameters.get? axis, a.2) (b.1.parameters.get? axis, b.2)
  | .descending axis =>
    Precedes (fun x y => y.Below x) (a.1.parameters.get? axis, a.2) (b.1.parameters.get? axis, b.2)

/-- The comparison of options agrees with what is listed first. -/
theorem precedes_iff {first : Value → Value → Prop} {values : Value → Value → Ordering}
    (hfirst : ∀ x y, values x y = .lt ↔ first x y) (heq : ∀ x y, values x y = .eq ↔ x = y)
    (x y : Option Value) (i j : Nat) : Precedes first (x, i) (y, j) ↔
      compareMissingLast values x y = .lt ∨ compareMissingLast values x y = .eq ∧ i < j := by
  cases x <;> cases y <;> simp [Precedes, compareMissingLast, hfirst, heq]

/-- Results are listed as they compare, and those that compare equal as they were found. -/
theorem lists_iff {o : Order} {a b : Entry × Nat} :
    o.Lists a b ↔ o.compare a.1 b.1 = .lt ∨ o.compare a.1 b.1 = .eq ∧ a.2 < b.2 := by
  cases o with
  | discovery => simp [Lists, Order.compare]
  | ascending axis =>
    exact precedes_iff (fun _ _ => Value.compare_eq_lt_iff)
      (fun _ _ => Std.LawfulEqCmp.compare_eq_iff_eq) _ _ _ _
  | descending axis =>
    exact precedes_iff (fun _ _ => Value.compare_eq_lt_iff)
      (fun _ _ => Std.LawfulEqCmp.compare_eq_iff_eq.trans eq_comm) _ _ _ _

end Order

/-- Sorting keeps the order of elements of which none has to change places. -/
theorem filter_mergeSort_of_pairwise {α : Type} {le : α → α → Bool} {p : α → Bool} {l : List α}
    (trans : ∀ a b c, le a b = true → le b c = true → le a c = true)
    (total : ∀ a b, (le a b || le b a) = true)
    (h : (l.filter p).Pairwise fun a b => le a b = true) :
    (l.mergeSort le).filter p = l.filter p := by
  have hsub : (l.filter p).Sublist (l.mergeSort le) :=
    List.sublist_mergeSort trans total h List.filter_sublist
  have hfilter : (l.filter p).Sublist ((l.mergeSort le).filter p) := by
    simpa [List.filter_filter] using hsub.filter p
  exact (hfilter.eq_of_length ((List.mergeSort_perm l le).filter p).length_eq.symm).symm

/-- Results at increasing places are sorted as an order lists them. -/
theorem Order.pairwise_lists (o : Order) {l : List (Entry × Nat)}
    (hl : l.Pairwise (·.2 < ·.2)) :
    (l.mergeSort fun a b => (o.compare a.1 b.1).isLE).Pairwise o.Lists := by
  have trans : ∀ a b c : Entry × Nat, (o.compare a.1 b.1).isLE = true →
      (o.compare b.1 c.1).isLE = true → (o.compare a.1 c.1).isLE = true :=
    fun _ _ _ => Std.TransCmp.isLE_trans
  have total : ∀ a b : Entry × Nat, ((o.compare a.1 b.1).isLE || (o.compare b.1 a.1).isLE) = true :=
    fun a b => o.isLE_total a.1 b.1
  refine List.pairwise_iff_forall_sublist.2 fun {a b} hab => lists_iff.2 ?_
  have hle := List.pairwise_iff_forall_sublist.1 (List.pairwise_mergeSort trans total l) hab
  rcases hcmp : o.compare a.1 b.1 with _ | _ | _
  · exact .inl rfl
  · -- both are in the class of what compares equal to `a`, which sorting leaves as it is
    refine .inr ⟨rfl, ?_⟩
    have hclass : (l.filter fun x => o.compare a.1 x.1 == .eq).Pairwise
        fun x y => (o.compare x.1 y.1).isLE = true := by
      refine List.pairwise_of_forall_mem_list fun x hx y hy => ?_
      have hx' : o.compare a.1 x.1 = .eq := by simpa using (List.mem_filter.1 hx).2
      have hy' : o.compare a.1 y.1 = .eq := by simpa using (List.mem_filter.1 hy).2
      rw [← Std.TransCmp.congr_left hx', hy']
      rfl
    have hsame := filter_mergeSort_of_pairwise trans total hclass
    have hpair := hab.filter fun x => o.compare a.1 x.1 == .eq
    rw [hsame] at hpair
    have hself : o.compare a.1 a.1 = .eq := Std.ReflCmp.compare_self
    simp only [List.filter_cons, hself, hcmp, beq_self_eq_true, if_true, List.filter_nil] at hpair
    exact List.pairwise_iff_forall_sublist.1 hl (hpair.trans List.filter_sublist)
  · rw [hcmp] at hle
    cases hle

namespace ResultSet

/-- The list of places is the selection of the results that have all values asked for and meet the
predicate: it has the place of each of them once, and no other, and one place before another as the
order lists the results there. -/
structure IsSelection (s : ResultSet) (c : Constraints) (q : Option Predicate) (o : Order)
    (places : List Nat) : Prop where
  nodup : places.Nodup
  mem : ∀ i, i ∈ places ↔ ∃ e, s.entries[i]? = some e ∧
    (∀ name value, c.get? name = some value → e.parameters.get? name = some value) ∧
    ∀ q', q = some q' → q'.holds e.parameters = true
  ordered : places.Pairwise fun i j => ∀ a b, s.entries[i]? = some a → s.entries[j]? = some b →
    o.Lists (a, i) (b, j)

variable {s : ResultSet} {c : Constraints} {q : Option Predicate} {o : Order}

/-- The places of the selected results are the selection. -/
theorem isSelection_positions (s : ResultSet) (c : Constraints) (q : Option Predicate)
    (o : Order) : s.IsSelection c q o (s.positions c q o) where
  nodup := nodup_positions
  mem i := by simp only [mem_positions, Entry.matches_iff, Constraints.satisfiedBy_iff]
  ordered := by
    have hplaces : (s.entries.zipIdx.filter fun x => x.1.matches c q).Pairwise (·.2 < ·.2) := by
      refine List.Pairwise.filter _ (List.pairwise_map.1 ?_)
      rw [List.zipIdx_map_snd]
      exact List.pairwise_lt_range'
    refine List.pairwise_map.2 ((o.pairwise_lists hplaces).imp_of_mem fun {x y} hx hy hxy => ?_)
    intro a b ha hb
    have hentry : ∀ {z : Entry × Nat}, z ∈ (s.entries.zipIdx.filter fun x =>
        x.1.matches c q).mergeSort (fun a b => (o.compare a.1 b.1).isLE) →
        s.entries[z.2]? = some z.1 := fun hz =>
      List.mem_zipIdx_iff_getElem?.1 (List.mem_filter.1 (List.mem_mergeSort.1 hz)).1
    obtain rfl : a = x.1 := Option.some.inj (ha.symm.trans (hentry hx))
    obtain rfl : b = y.1 := Option.some.inj (hb.symm.trans (hentry hy))
    exact hxy

/-- There is only one selection. -/
theorem IsSelection.unique {places places' : List Nat} (h : s.IsSelection c q o places)
    (h' : s.IsSelection c q o places') : places = places' := by
  have hperm : places.Perm places' := (List.perm_ext_iff_of_nodup h.nodup h'.nodup).2 fun i => by
    rw [h.mem, h'.mem]
  refine hperm.eq_of_pairwise (fun i j hi hj hij hji => ?_) h.ordered h'.ordered
  obtain ⟨a, ha, -⟩ := (h.mem i).1 hi
  obtain ⟨b, hb, -⟩ := (h'.mem j).1 hj
  have hab := Order.lists_iff.1 (hij a b ha hb)
  have hba := Order.lists_iff.1 (hji b a hb ha)
  have hswap : o.compare b a = (o.compare a b).swap := Std.OrientedCmp.eq_swap
  rw [hswap] at hba
  cases hcmp : o.compare a b <;> simp [hcmp] at hab hba
  omega

/-! ## Upwards and downwards -/

/-- Results with the same value of the parameter, or both without one, compare equal. -/
theorem compare_eq_of_get?_eq {axis : String} (ho : o = .ascending axis ∨ o = .descending axis)
    {a b : Entry} (h : a.parameters.get? axis = b.parameters.get? axis) : o.compare a b = .eq := by
  rcases ho with rfl | rfl
  · rw [Order.compare_ascending, h]
    exact Std.ReflCmp.compare_self
  · rw [Order.compare_descending, h]
    exact Std.ReflCmp.compare_self

/-- The selected results with one value of the parameter, or without one, are listed as they were
found, upwards and downwards. -/
theorem filter_select_of_value {axis : String} (ho : o = .ascending axis ∨ o = .descending axis)
    (value : Option Value) :
    (s.select c q o).filter (fun e => e.parameters.get? axis == value) =
      s.entries.filter fun e => e.matches c q && e.parameters.get? axis == value := by
  rw [select, Order.sort, filter_mergeSort_of_pairwise (fun _ _ _ => Std.TransCmp.isLE_trans)
    o.isLE_total, List.filter_filter]
  · simp only [Bool.and_comm]
  · refine List.pairwise_of_forall_mem_list fun a ha b hb => ?_
    have ha' : a.parameters.get? axis = value := by simpa using (List.mem_filter.1 ha).2
    have hb' : b.parameters.get? axis = value := by simpa using (List.mem_filter.1 hb).2
    rw [compare_eq_of_get?_eq ho (ha'.trans hb'.symm)]
    rfl

/-- Two results, of which the second one lacks the parameter of the first. -/
def partlyMeasured : ResultSet where
  label := "b"
  entries := [⟨"b_n=1", .ofList [("n", .int 1)]⟩, ⟨"b", .empty⟩]
  parsed e he := by
    rcases List.mem_cons.1 he with rfl | he
    · rfl
    · cases List.mem_singleton.1 he
      rfl

/-- The result without the parameter stays behind the other one in both directions. -/
theorem select_partlyMeasured (ho : o = .ascending "n" ∨ o = .descending "n") :
    partlyMeasured.select .empty none o = partlyMeasured.entries := by
  have hall : (partlyMeasured.entries.filter (·.matches .empty none)) =
      partlyMeasured.entries := by decide
  rw [select_of_pairwise, hall]
  rcases ho with rfl | rfl <;> decide

/-- **A selection is determined.** It lists the results at the places of the only list that has the
place of each matching result once and goes by the order: results that have the parameter come
before those without, values go up or down, and otherwise results stay as they were found. The
comparison behind an order is transitive and total, so that there is such a list. Downwards is not
upwards read backwards: in both directions results with the same value, and those without one, are
listed as they were found. -/
theorem select_determined (s : ResultSet) (c : Constraints) (q : Option Predicate) (o : Order) :
    (∃ places, s.IsSelection c q o places ∧
      s.select c q o = places.filterMap (fun i => s.entries[i]?) ∧
      ∀ places', s.IsSelection c q o places' → places' = places) ∧
    (∀ a b, (o.compare a b).isLE = true ∨ (o.compare b a).isLE = true) ∧
    (∀ a b d, (o.compare a b).isLE = true → (o.compare b d).isLE = true →
      (o.compare a d).isLE = true) ∧
    (∀ axis value, ∀ o' ∈ [Order.ascending axis, .descending axis],
      (s.select c q o').filter (fun e => e.parameters.get? axis == value) =
        s.entries.filter fun e => e.matches c q && e.parameters.get? axis == value) ∧
    ∃ r axis, ResultSet.select r .empty none (.descending axis) ≠
      (r.select .empty none (.ascending axis)).reverse := by
  have hplaces := isSelection_positions s c q o
  refine ⟨⟨_, hplaces, s.select_eq_positions c q o, fun places' h' => h'.unique hplaces⟩,
    fun a b => by simpa using o.isLE_total a b, fun a b d => Std.TransCmp.isLE_trans,
    fun axis value o' ho => ?_, partlyMeasured, "n", ?_⟩
  · exact filter_select_of_value (by simpa using ho) value
  · rw [select_partlyMeasured (.inr rfl), select_partlyMeasured (.inl rfl)]
    decide

end ResultSet

end SweepPlot
