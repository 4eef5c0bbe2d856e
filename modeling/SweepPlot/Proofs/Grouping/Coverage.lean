import SweepPlot.Proofs.Grouping.Key
import SweepPlot.Proofs.Selection.Positions

/-!
# Groupings cover the results

The groupings of a variant are combinations of values of its outer axes. A result that has a value
of each axis belongs to one of them, and to no other, as different groupings ask for different
values of some axis.

* `Variant.Eligible` says which results a variant is about.
* `Variant.exists_satisfiedBy_iff` says when there is a grouping that a result satisfies, by
  induction on the axes.
* `Variant.groupings_pairwise` says that two groupings differ in the value of an axis.
* `Variant.groupings_cover` puts both together.
-/

namespace SweepPlot.Variant

variable {v : Variant} {results : ResultSet}

/-- The variant is about the result: it has the values that all plots share, unless an axis replaces
them, it meets the predicate, and it has a value of each axis, which is a listed one if the axis has
a list. -/
structure Eligible (v : Variant) (e : Entry) : Prop where
  base : ∀ name value, v.base.get? name = some value → name ∉ v.outerAxes.map OuterAxis.name →
    e.parameters.get? name = some value
  predicate : ∀ q, v.predicate = some q → q.holds e.parameters = true
  carries : ∀ axis ∈ v.outerAxes, ∃ value, e.parameters.get? axis.name = some value
  listed : ∀ name values, .listed name values ∈ v.outerAxes →
    ∀ value, e.parameters.get? name = some value → value ∈ values

/-! ## Results belong to a grouping -/

/-- The parameters satisfy one of the expanded constraints if they satisfy one of the given ones
apart from the axes and have a value of each axis. -/
theorem exists_satisfiedBy_iff {axes : List OuterAxis} (hnames : (axes.map OuterAxis.name).Nodup)
    {gs : List Constraints} {p : Parameters} :
    (∃ g ∈ axes.foldl (expand results) gs, g.satisfiedBy p = true) ↔
      (∃ g ∈ gs, ∀ name value, g.get? name = some value → name ∉ axes.map OuterAxis.name →
        p.get? name = some value) ∧
      ∀ axis ∈ axes, ∃ value ∈ axis.values results, p.get? axis.name = some value := by
  induction axes generalizing gs with
  | nil => simp [Constraints.satisfiedBy_iff]
  | cons axis axes ih =>
    obtain ⟨hnew, hnames⟩ := List.nodup_cons.1 hnames
    rw [List.foldl_cons, ih hnames, List.forall_mem_cons]
    constructor
    · rintro ⟨⟨g, hg, hrest⟩, haxes⟩
      obtain ⟨g₀, hg₀, value, hvalue, rfl⟩ := mem_expand.1 hg
      refine ⟨⟨g₀, hg₀, fun name w hw hn => ?_⟩, ⟨value, hvalue, hrest _ value (by simp) hnew⟩,
        haxes⟩
      rw [List.map_cons, List.mem_cons, not_or] at hn
      exact hrest name w (by rw [Constraints.get?_insert, if_neg hn.1, hw]) hn.2
    · rintro ⟨⟨g₀, hg₀, hrest⟩, ⟨value, hvalue, hp⟩, haxes⟩
      refine ⟨⟨_, mem_expand.2 ⟨g₀, hg₀, value, hvalue, rfl⟩, fun name w hw hn => ?_⟩, haxes⟩
      rw [Constraints.get?_insert] at hw
      split at hw
      · rename_i heq
        cases hw
        rw [heq, hp]
      · rename_i hne
        exact hrest name w hw (by simp [hne, hn])

/-- A discovered axis has the values of the results. -/
theorem mem_values_iff {axis : OuterAxis} {e : Entry} (he : e ∈ results.entries) {value : Value}
    (hv : e.parameters.get? axis.name = some value) :
    value ∈ axis.values results ↔ ∀ name values, axis = .listed name values → value ∈ values := by
  cases axis with
  | listed name values =>
    exact ⟨fun h _ _ heq => by cases heq; exact h, fun h => h name values rfl⟩
  | discovered name =>
    refine ⟨fun _ _ _ heq => (nomatch heq), fun _ => ?_⟩
    exact ValueSet.mem_ofList.2 (List.mem_filterMap.2 ⟨e, he, hv⟩)

/-- The eligible results are those that match a grouping. -/
theorem exists_matches_iff_eligible (hnames : (v.outerAxes.map OuterAxis.name).Nodup) {e : Entry}
    (he : e ∈ results.entries) :
    (∃ g ∈ v.groupings results, e.matches g v.predicate = true) ↔ v.Eligible e := by
  have hgroupings := @exists_satisfiedBy_iff results v.outerAxes hnames [v.base] e.parameters
  constructor
  · rintro ⟨g, hg, hm⟩
    obtain ⟨hsat, hq⟩ := Entry.matches_iff.1 hm
    obtain ⟨⟨g₀, hg₀, hbase⟩, haxes⟩ := hgroupings.1 ⟨g, hg, hsat⟩
    rw [List.mem_singleton.1 hg₀] at hbase
    refine ⟨hbase, hq, fun axis haxis => ?_, fun name values haxis value hv => ?_⟩
    · obtain ⟨value, -, hv⟩ := haxes axis haxis
      exact ⟨value, hv⟩
    · obtain ⟨value', hvalue', hv'⟩ := haxes _ haxis
      obtain rfl : value' = value := Option.some.inj (hv'.symm.trans hv)
      exact hvalue'
  · rintro ⟨hbase, hq, hcarries, hlisted⟩
    obtain ⟨g, hg, hsat⟩ := hgroupings.2 ⟨⟨v.base, List.mem_singleton_self _, hbase⟩,
      fun axis haxis => by
        obtain ⟨value, hv⟩ := hcarries axis haxis
        refine ⟨value, (mem_values_iff he hv).2 fun name values heq => ?_, hv⟩
        subst heq
        exact hlisted name values haxis value hv⟩
    exact ⟨g, hg, Entry.matches_iff.2 ⟨hsat, hq⟩⟩

/-! ## Different groupings have different results -/

/-- The constraints ask for different values of one of the names. -/
def Differ (names : List String) (g g' : Constraints) : Prop :=
  ∃ name ∈ names, ∃ x y, x ≠ y ∧ g.get? name = some x ∧ g'.get? name = some y

theorem Differ.not_satisfiedBy {names : List String} {g g' : Constraints} (h : Differ names g g')
    {p : Parameters} (hg : g.satisfiedBy p = true) : g'.satisfiedBy p ≠ true := by
  intro hg'
  obtain ⟨name, -, x, y, hne, hx, hy⟩ := h
  have hpx := Constraints.satisfiedBy_iff.1 hg name x hx
  have hpy := Constraints.satisfiedBy_iff.1 hg' name y hy
  exact hne (Option.some.inj (hpx.symm.trans hpy))

theorem Differ.irrefl {names : List String} (g : Constraints) : ¬ Differ names g g := by
  rintro ⟨name, -, x, y, hne, hx, hy⟩
  exact hne (Option.some.inj (hx.symm.trans hy))

theorem expand_pairwise {names : List String} {gs : List Constraints} {axis : OuterAxis}
    (hgs : gs.Pairwise (Differ names)) (hname : axis.name ∉ names)
    (hvalues : (axis.values results).Nodup) :
    (expand results gs axis).Pairwise (Differ (names ++ [axis.name])) := by
  refine List.pairwise_flatMap.2 ⟨fun g _ => ?_, hgs.imp fun {g g'} hd => ?_⟩
  · refine List.pairwise_map.2 (hvalues.imp fun {x y} hne => ?_)
    exact ⟨axis.name, by simp, x, y, hne, by simp [Constraints.union_single],
      by simp [Constraints.union_single]⟩
  · intro a ha b hb
    obtain ⟨x, -, rfl⟩ := List.mem_map.1 ha
    obtain ⟨y, -, rfl⟩ := List.mem_map.1 hb
    obtain ⟨name, hmem, x', y', hne, hx, hy⟩ := hd
    have hother : name ≠ axis.name := fun heq => hname (heq ▸ hmem)
    exact ⟨name, List.mem_append_left _ hmem, x', y', hne,
      by simp [Constraints.union_single, hother, hx],
      by simp [Constraints.union_single, hother, hy]⟩

/-- Two groupings ask for different values of an axis. -/
theorem groupings_pairwise (results : ResultSet)
    (hnames : (v.outerAxes.map OuterAxis.name).Nodup)
    (hlisted : ∀ name values, .listed name values ∈ v.outerAxes → values.Nodup) :
    (v.groupings results).Pairwise (Differ (v.outerAxes.map OuterAxis.name)) := by
  have hvalues : ∀ axis ∈ v.outerAxes, (axis.values results).Nodup := by
    intro axis haxis
    cases axis with
    | listed name values => exact hlisted name values haxis
    | discovered name =>
      refine (results.axisValues name).sorted.imp fun {x y} hlt heq => ?_
      exact Value.lt_irrefl x (heq ▸ hlt)
  have hfold : ∀ (axes : List OuterAxis) (names : List String) (gs : List Constraints),
      (names ++ axes.map OuterAxis.name).Nodup → (∀ axis ∈ axes, (axis.values results).Nodup) →
      gs.Pairwise (Differ names) →
      (axes.foldl (expand results) gs).Pairwise (Differ (names ++ axes.map OuterAxis.name)) := by
    intro axes
    induction axes with
    | nil => intro names gs _ _ hgs; simpa using hgs
    | cons axis axes ih =>
      intro names gs hnodup hvalues hgs
      rw [List.forall_mem_cons] at hvalues
      rw [List.map_cons, List.append_cons] at hnodup ⊢
      refine ih _ _ hnodup hvalues.2 (expand_pairwise hgs (fun hmem => ?_) hvalues.1)
      have := (List.nodup_append.1 (List.nodup_append.1 hnodup).1).2.2
      exact this _ hmem _ (List.mem_singleton_self _) rfl
  exact hfold v.outerAxes [] [v.base] hnames hvalues (List.pairwise_singleton ..)

/-- **No result is lost or plotted twice.** A result, told by its position, is selected for exactly
one grouping if the variant is about it, and for none otherwise. Taken together the selections have
the position of each eligible result once, and no other. -/
theorem groupings_cover (hnames : (v.outerAxes.map OuterAxis.name).Nodup)
    (hlisted : ∀ name values, .listed name values ∈ v.outerAxes → values.Nodup) (o : Order) :
    (∀ g, results.select g v.predicate o =
      (results.positions g v.predicate o).filterMap fun i => results.entries[i]?) ∧
    (∀ (i : Nat) e, results.entries[i]? = some e → v.Eligible e →
      ∃ (k : Nat) (g : Constraints), (v.groupings results)[k]? = some g ∧
        i ∈ results.positions g v.predicate o ∧
        ∀ (k' : Nat) g', (v.groupings results)[k']? = some g' →
          i ∈ results.positions g' v.predicate o → k' = k) ∧
    (∀ (i : Nat) e, results.entries[i]? = some e → ¬ v.Eligible e →
      ∀ g ∈ v.groupings results, i ∉ results.positions g v.predicate o) ∧
    ((v.groupings results).flatMap fun g => results.positions g v.predicate o).Nodup ∧
    ∀ i, i ∈ ((v.groupings results).flatMap fun g => results.positions g v.predicate o) ↔
      ∃ e, results.entries[i]? = some e ∧ v.Eligible e := by
  have hpairwise := groupings_pairwise results hnames hlisted
  -- two groupings have no position in common
  have hdisjoint : ∀ {g g' i}, Differ (v.outerAxes.map OuterAxis.name) g g' →
      i ∈ results.positions g v.predicate o → i ∉ results.positions g' v.predicate o := by
    intro g g' i hd hi hi'
    obtain ⟨e, he, hm⟩ := ResultSet.mem_positions.1 hi
    obtain ⟨e', he', hm'⟩ := ResultSet.mem_positions.1 hi'
    obtain rfl : e = e' := Option.some.inj (he.symm.trans he')
    exact hd.not_satisfiedBy (Entry.matches_iff.1 hm).1 (Entry.matches_iff.1 hm').1
  have heligible : ∀ {i : Nat} {e}, results.entries[i]? = some e →
      ((∃ g ∈ v.groupings results, i ∈ results.positions g v.predicate o) ↔ v.Eligible e) := by
    intro i e he
    rw [← exists_matches_iff_eligible hnames (List.mem_of_getElem? he)]
    simp [ResultSet.mem_positions, he]
  refine ⟨fun g => results.select_eq_positions g v.predicate o, fun i e he hel => ?_,
    fun i e he hel g hg hi => hel ((heligible he).1 ⟨g, hg, hi⟩), ?_, fun i => ?_⟩
  · obtain ⟨g, hg, hi⟩ := (heligible he).2 hel
    obtain ⟨k, hk⟩ := List.mem_iff_getElem?.1 hg
    refine ⟨k, g, hk, hi, fun k' g' hk' hi' => ?_⟩
    obtain ⟨hlt, rfl⟩ := List.getElem?_eq_some_iff.1 hk
    obtain ⟨hlt', rfl⟩ := List.getElem?_eq_some_iff.1 hk'
    rw [List.pairwise_iff_getElem] at hpairwise
    rcases Nat.lt_trichotomy k' k with h | h | h
    · exact absurd hi (hdisjoint (hpairwise k' k hlt' hlt h) hi')
    · exact h
    · exact absurd hi' (hdisjoint (hpairwise k k' hlt hlt' h) hi)
  · refine List.pairwise_flatMap.2 ⟨fun g _ => ResultSet.nodup_positions,
      hpairwise.imp fun {g g'} hd i hi j hj heq => ?_⟩
    exact hdisjoint hd hi (heq ▸ hj)
  · rw [List.mem_flatMap]
    constructor
    · rintro ⟨g, hg, hi⟩
      obtain ⟨e, he, -⟩ := ResultSet.mem_positions.1 hi
      exact ⟨e, he, (heligible he).1 ⟨g, hg, hi⟩⟩
    · rintro ⟨e, he, hel⟩
      exact (heligible he).2 hel

/-- A result that is listed twice. -/
def repeatedResults : ResultSet where
  label := "b"
  entries := [⟨"b_n=1", .ofList [("n", .int 1)]⟩, ⟨"b_n=1", .ofList [("n", .int 1)]⟩]
  parsed e he := by
    rcases List.mem_cons.1 he with rfl | he
    · rfl
    · cases List.mem_singleton.1 he
      rfl

/-- One plot for each of two values. -/
def twoPlots : Variant := (Variant.named "v").across (.listed "n" [.int 2, .int 1])

theorem twoPlots_listed (name : String) (values : List Value)
    (h : .listed name values ∈ twoPlots.outerAxes) : values = [.int 2, .int 1] := by
  cases List.mem_singleton.1 h
  rfl

theorem twoPlots_eligible : twoPlots.Eligible ⟨"b_n=1", .ofList [("n", .int 1)]⟩ where
  base _ _ h := nomatch h
  predicate _ h := nomatch h
  carries axis haxis := by
    cases List.mem_singleton.1 haxis
    exact ⟨.int 1, by decide⟩
  listed name values haxis value hv := by
    cases List.mem_singleton.1 haxis
    cases hv
    decide

/-- The second listing of the result is selected for one of the two groupings. -/
theorem groupings_cover_repeated : ∃ (k : Nat) (g : Constraints),
    (twoPlots.groupings repeatedResults)[k]? = some g ∧
      1 ∈ repeatedResults.positions g none .discovery ∧
      ∀ (k' : Nat) g', (twoPlots.groupings repeatedResults)[k']? = some g' →
        1 ∈ repeatedResults.positions g' none .discovery → k' = k := by
  obtain ⟨-, hone, -⟩ := @groupings_cover twoPlots repeatedResults (by decide)
    (fun name values h => twoPlots_listed name values h ▸ by decide) .discovery
  exact hone 1 _ rfl twoPlots_eligible

end SweepPlot.Variant
