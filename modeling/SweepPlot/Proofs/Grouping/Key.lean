import SweepPlot.Proofs.NameMap.Bindings
import SweepPlot.Proofs.ResultName.Segments
import SweepPlot.Proofs.Value.Canonical
import SweepPlot.Variant

/-!
# The keys of groups

The data file of a group is named by the key of its constraints.

* `Constraints.key_insert_inj` says that groups that differ in the value of one name have different
  keys, as long as the values differ as texts.
* `Constraints.Lacks` says that names and values are free of a character, and
  `Constraints.SlashFree` that they are free of slashes; then the key is too.
* `Variant.forall_mem_groupings` says what the groupings of a variant bind. Discovered values come
  from file names and hold no other characters than those (`Variant.lacks_of_mem_groupings`).
-/

namespace SweepPlot

/-- The place of a text among joined ones depends on those before and after it only. -/
theorem exists_intercalate_eq (d : String) (before after : List String) :
    ∃ start rest, ∀ x, d.intercalate (before ++ x :: after) = start ++ x ++ rest := by
  induction before with
  | nil =>
    cases after with
    | nil => exact ⟨"", "", fun x => by simp⟩
    | cons y after =>
      exact ⟨"", d ++ d.intercalate (y :: after), fun x => by
        simp [String.intercalate_cons_cons, String.append_assoc]⟩
  | cons y before ih =>
    obtain ⟨start, rest, ih⟩ := ih
    refine ⟨y ++ d ++ start, rest, fun x => ?_⟩
    rw [List.cons_append, String.intercalate_cons_of_ne_nil (by simp), ih]
    simp only [String.append_assoc]

namespace Constraints

theorem union_single (c : Constraints) (name : String) (value : Value) :
    c.union (.single name value) = c.insert name value := rfl

/-- The key shows the value of a name. -/
theorem exists_key_insert_eq (c : Constraints) (name : String) :
    ∃ start rest, ∀ value, (c.insert name value).key = start ++ value.display ++ rest := by
  obtain ⟨before, after, hplace⟩ := NameMap.exists_insertList_eq name c.bindings.toList
  obtain ⟨start, rest, hkey⟩ := exists_intercalate_eq segmentDelimiter.toString
    (before.map segment) (after.map segment)
  refine ⟨start ++ (name ++ valueDelimiter.toString), rest, fun value => ?_⟩
  have hlist : (c.insert name value).toList = before ++ (name, value) :: after := hplace value
  rw [key, hlist, List.map_append, List.map_cons, hkey, segment]
  simp only [String.append_assoc]

/-- Groups with values that differ as texts have different keys. -/
theorem key_insert_inj {c : Constraints} {name : String} {a b : Value}
    (h : (c.insert name a).key = (c.insert name b).key) : a.display = b.display := by
  obtain ⟨start, rest, hkey⟩ := c.exists_key_insert_eq name
  rw [hkey, hkey] at h
  exact (String.append_right_inj _).1 ((String.append_left_inj _).1 h)

/-! ## Characters -/

/-- Neither names nor values hold the character. -/
def Lacks (x : Char) (c : Constraints) : Prop :=
  ∀ b ∈ c.toList, x ∉ b.1.toList ∧ x ∉ b.2.display.toList

/-- Neither names nor values hold a slash. -/
def SlashFree (c : Constraints) : Prop :=
  ∀ b ∈ c.toList, '/' ∉ b.1.toList ∧ '/' ∉ b.2.display.toList

theorem Lacks.insert {x : Char} {c : Constraints} (h : c.Lacks x) {name : String} {value : Value}
    (hn : x ∉ name.toList) (hv : x ∉ value.display.toList) : (c.insert name value).Lacks x := by
  intro b hb
  rcases NameMap.mem_toList_insert hb with rfl | hb
  · exact ⟨hn, hv⟩
  · exact h b hb

/-- The key adds delimiters only. -/
theorem Lacks.key {x : Char} {c : Constraints} (h : c.Lacks x) (hsegment : x ≠ segmentDelimiter)
    (hvalue : x ≠ valueDelimiter) : x ∉ c.key.toList := by
  rw [Constraints.key, Text.mem_intercalate (by simpa using hsegment)]
  rintro ⟨text, htext, hx⟩
  obtain ⟨b, hb, rfl⟩ := List.mem_map.1 htext
  simp [segment, hvalue, h b hb] at hx

theorem SlashFree.insert {c : Constraints} (h : c.SlashFree) {name : String} {value : Value}
    (hn : '/' ∉ name.toList) (hv : '/' ∉ value.display.toList) :
    (c.insert name value).SlashFree :=
  Lacks.insert h hn hv

theorem SlashFree.key {c : Constraints} (h : c.SlashFree) : '/' ∉ c.key.toList :=
  Lacks.key h (by decide) (by decide)

end Constraints

/-- A value that is read off a text has the characters of the text or is a numeral. -/
theorem Value.not_mem_display_parse {x : Char} {raw : String} (hx : x.isDigit = false)
    (h : x ∉ raw.toList) : x ∉ (parse raw).display.toList := by
  have hcanonical := isCanonical_parse raw
  unfold parse at hcanonical ⊢
  split
  · rename_i hnumeral
    rw [if_pos hnumeral] at hcanonical
    rw [display_int hcanonical, String.toList_ofList]
    exact Text.Decimal.not_mem_digits hx _
  · exact h

namespace Variant

/-- The constraints on the groupings of a variant hold no slash, as far as they are given. -/
structure SlashFree (v : Variant) : Prop where
  base : v.base.SlashFree
  axisName : ∀ axis ∈ v.outerAxes, '/' ∉ axis.name.toList
  listed : ∀ name values, .listed name values ∈ v.outerAxes →
    ∀ value ∈ values, '/' ∉ value.display.toList

theorem mem_expand {gs : List Constraints} {axis : OuterAxis} {g : Constraints} :
    g ∈ expand results gs axis ↔
      ∃ g₀ ∈ gs, ∃ value ∈ axis.values results, g = g₀.insert axis.name value := by
  simp only [expand, List.mem_flatMap, List.mem_map]
  constructor
  · rintro ⟨g₀, hg₀, value, hvalue, rfl⟩
    exact ⟨g₀, hg₀, value, hvalue, rfl⟩
  · rintro ⟨g₀, hg₀, value, hvalue, rfl⟩
    exact ⟨g₀, hg₀, value, hvalue, rfl⟩

/-- A property of bindings holds in every grouping if the shared bindings have it and the values of
the axes do, listed ones and those of the results. -/
theorem forall_mem_groupings {P : String × Value → Prop} {v : Variant} {results : ResultSet}
    (hbase : ∀ b ∈ v.base.toList, P b)
    (hlisted : ∀ name values, .listed name values ∈ v.outerAxes → ∀ value ∈ values, P (name, value))
    (hdiscovered : ∀ name, .discovered name ∈ v.outerAxes → ∀ e ∈ results.entries, ∀ value,
      e.parameters.get? name = some value → P (name, value)) :
    ∀ g ∈ v.groupings results, ∀ b ∈ g.toList, P b := by
  have hvalues : ∀ axis ∈ v.outerAxes, ∀ value ∈ axis.values results, P (axis.name, value) := by
    intro axis haxis value hvalue
    cases axis with
    | listed name values => exact hlisted name values haxis value hvalue
    | discovered name =>
      obtain ⟨e, he, hv⟩ := List.mem_filterMap.1 (ValueSet.mem_ofList.1 hvalue)
      exact hdiscovered name haxis e he value hv
  have hfold : ∀ (axes : List OuterAxis) (gs : List Constraints),
      (∀ axis ∈ axes, axis ∈ v.outerAxes) → (∀ g ∈ gs, ∀ b ∈ g.toList, P b) →
      ∀ g ∈ axes.foldl (expand results) gs, ∀ b ∈ g.toList, P b := by
    intro axes
    induction axes with
    | nil => exact fun gs _ hgs => hgs
    | cons axis axes ih =>
      intro gs haxes hgs
      rw [List.forall_mem_cons] at haxes
      refine ih _ haxes.2 fun g hg b hb => ?_
      obtain ⟨g₀, hg₀, value, hvalue, rfl⟩ := mem_expand.1 hg
      rcases NameMap.mem_toList_insert hb with rfl | hb
      · exact hvalues axis haxes.1 value hvalue
      · exact hgs g₀ hg₀ b hb
  refine hfold v.outerAxes [v.base] (fun _ => id) fun g hg => ?_
  rw [List.mem_singleton.1 hg]
  exact hbase

/-- The groupings are free of a character, discovered values with the file names. -/
theorem lacks_of_mem_groupings {x : Char} {v : Variant} {results : ResultSet}
    (hx : x.isDigit = false) (hbase : v.base.Lacks x)
    (hnames : ∀ axis ∈ v.outerAxes, x ∉ axis.name.toList)
    (hlisted : ∀ name values, .listed name values ∈ v.outerAxes →
      ∀ value ∈ values, x ∉ value.display.toList)
    (hfiles : ∀ e ∈ results.entries, x ∉ e.filename.toList) :
    ∀ g ∈ v.groupings results, g.Lacks x := by
  refine forall_mem_groupings hbase (fun name values haxis value hvalue => ?_)
    fun name haxis e he value hv => ?_
  · exact ⟨hnames _ haxis, hlisted name values haxis value hvalue⟩
  · obtain ⟨raw, rfl, -, -, hraw⟩ := ResultName.exists_raw_of_parse (results.parsed e he) hv
    exact ⟨hnames _ haxis, Value.not_mem_display_parse hx fun hmem => hfiles e he (hraw x hmem)⟩

/-- The constraints on the groupings are free of slashes, discovered values with the file names. -/
theorem slashFree_of_mem_groupings {v : Variant} {results : ResultSet} (h : v.SlashFree)
    (hfiles : ∀ e ∈ results.entries, '/' ∉ e.filename.toList) :
    ∀ g ∈ v.groupings results, g.SlashFree :=
  lacks_of_mem_groupings (by decide) h.base h.axisName h.listed hfiles

end Variant

end SweepPlot
