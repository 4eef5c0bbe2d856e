import SweepPlot.Proofs.Constraints.Union
import SweepPlot.Proofs.Grouping.KeyReading
import SweepPlot.Proofs.ResultName.Grammar

/-!
# Canonical result names

A result has many names: segments may come in any order, and numbers may have leading zeros. Its
canonical name is the label and the key of the parameters.

* `canonical` is that name, and `canonical_eq` shows its segments.
* `isPlain_of_parse` says what the parameters of an accepted name are like, and `parse_canonical`
  that a result with such parameters is read off its canonical name.
* `parseKey_of_parse` says what the lenient reader of keys makes of an accepted file name: the label
  is a segment to it if it holds an equals sign.
* `readings_agree` puts these together.
-/

namespace SweepPlot.ResultName

open Text Constraints

variable {filename label : String} {p : Parameters}

/-- The canonical name of a result: the label, and the key of the parameters if there are any. -/
def canonical (label : String) (p : Parameters) : String :=
  if p.size = 0 then label else label ++ "_" ++ (ofParameters p).key

/-- Names and values of a result as an accepted file name gives them: no name holds a delimiter, and
no value does, and each value is what its text stands for. -/
def IsPlain (p : Parameters) : Prop :=
  ∀ b ∈ p.toList, IsKeyName b.1 ∧ b.2.IsKeyValue ∧ '=' ∉ b.2.display.toList

theorem isPlain_of_parse (h : parse filename = .ok (label, p)) : IsPlain p := by
  rintro ⟨name, value⟩ hb
  obtain ⟨segment, hmem, raw, hseg, rfl⟩ :=
    exists_segment_of_parse h (NameMap.get?_eq_some_iff.2 hb)
  have hparts : split valueDelimiter segment = [name, raw] := segment?_eq_some_iff.1 hseg
  have hname : name ∈ split valueDelimiter segment := by simp [hparts]
  have hraw : raw ∈ split valueDelimiter segment := by simp [hparts]
  have hlacks : ∀ part ∈ split valueDelimiter segment,
      '_' ∉ part.toList ∧ '=' ∉ part.toList := fun part hpart =>
    ⟨fun hx => delimiter_not_mem_of_mem_split hmem (mem_of_mem_split hpart hx),
      delimiter_not_mem_of_mem_split hpart⟩
  refine ⟨hlacks name hname, Value.isKeyValue_iff.2 ⟨Value.isCanonical_parse raw, ?_⟩, ?_⟩
  · exact Value.not_mem_display_parse (by decide) (hlacks raw hraw).1
  · exact Value.not_mem_display_parse (by decide) (hlacks raw hraw).2

/-! ## The strict reader -/

/-- A canonical name is the label and the written parameters with underscores between them. -/
theorem canonical_eq (label : String) (p : Parameters) :
    canonical label p = "_".intercalate (label :: p.toList.map Constraints.segment) := by
  unfold canonical
  rw [ofParameters_eq, key]
  cases hp : p.toList with
  | nil =>
    have hsize : p.size = 0 := congrArg List.length hp
    rw [if_pos hsize, List.map_nil, String.intercalate_singleton]
  | cons b l =>
    have hsize : p.size ≠ 0 := by
      have : p.size = (b :: l).length := congrArg List.length hp
      simp [this]
    have hlist : Constraints.toList ⟨p.bindings⟩ = b :: l := hp
    rw [if_neg hsize, hlist, List.map_cons, String.intercalate_cons_cons]
    rfl

theorem toList_segment (b : String × Value) :
    (Constraints.segment b).toList = b.1.toList ++ '=' :: b.2.display.toList := by
  simp [Constraints.segment, valueDelimiter]

theorem count_segment {b : String × Value} (hname : '=' ∉ b.1.toList)
    (hvalue : '=' ∉ b.2.display.toList) : (Constraints.segment b).toList.count '=' = 1 := by
  rw [toList_segment, List.count_append, List.count_cons_self, List.count_eq_zero.2 hname,
    List.count_eq_zero.2 hvalue]

theorem nameOf_segment {b : String × Value} (hname : '=' ∉ b.1.toList) :
    nameOf (Constraints.segment b) = b.1 ∧ rawOf (Constraints.segment b) = b.2.display := by
  have hparts := parts_of_eq (toList_segment b) hname
  rwa [String.ofList_toList, String.ofList_toList] at hparts

/-- A result with plain parameters is read off its canonical name. -/
theorem parse_canonical (hlabel : '_' ∉ label.toList) (hp : IsPlain p) :
    parse (canonical label p) = .ok (label, p) := by
  have hsegments : ∀ s ∈ p.toList.map Constraints.segment, '_' ∉ s.toList := by
    intro s hs
    obtain ⟨b, hb, rfl⟩ := List.mem_map.1 hs
    obtain ⟨hname, hvalue, -⟩ := hp b hb
    rw [toList_segment]
    simp [hname.1, (Value.isKeyValue_iff.1 hvalue).2]
  have hnames : (p.toList.map Constraints.segment).map nameOf = p.toList.map Prod.fst := by
    rw [List.map_map]
    exact List.map_congr_left fun b hb => (nameOf_segment (hp b hb).1.2).1
  have haccepted : Accepted (p.toList.map Constraints.segment) := by
    constructor
    · intro s hs
      obtain ⟨b, hb, rfl⟩ := List.mem_map.1 hs
      exact count_segment (hp b hb).1.2 (hp b hb).2.2
    · rw [hnames]
      exact List.pairwise_map.2 p.bindings.pairwise_ne
  have hgiven : given (p.toList.map Constraints.segment) = p := by
    have hpairs : (p.toList.map Constraints.segment).map
        (fun s => (nameOf s, Value.parse (rawOf s))) = p.toList := by
      rw [List.map_map]
      refine (List.map_congr_left fun b hb => ?_).trans (List.map_id _)
      obtain ⟨hname, hraw⟩ := nameOf_segment (hp b hb).1.2
      have hvalue := Value.parse_display (Value.isKeyValue_iff.1 (hp b hb).2.1).1
      exact Prod.ext hname (by rw [Function.comp_apply, hraw, hvalue]; rfl)
    rw [given, hpairs]
    exact congrArg Parameters.mk (NameMap.ofList_toList p.bindings)
  let c : Cut (canonical label p) :=
    ⟨label, p.toList.map Constraints.segment, hlabel, hsegments, canonical_eq label p⟩
  exact (parse_eq_ok_iff c).2 ⟨haccepted, rfl, hgiven.symm⟩

/-! ## The lenient reader -/

/-- A segment is cut at its first equals sign, if it holds one. -/
theorem splitOnce_eq (s : String) : splitOnce '=' s =
    if '=' ∈ s.toList then some (nameOf s, rawOf s) else none := by
  split
  · rename_i hmem
    obtain ⟨a, b, hs, ha⟩ := List.eq_append_cons_of_mem hmem
    obtain ⟨hname, hraw⟩ := parts_of_eq hs ha
    rw [hname, hraw, splitOnce, cut_eq_some_iff.2 ⟨hs, ha⟩]
    rfl
  · rename_i hmem
    rw [splitOnce, Option.map_eq_none_iff]
    cases hcut : cut '=' s.toList with
    | none => rfl
    | some parts =>
      refine absurd ?_ hmem
      rw [(cut_eq_some_iff.1 hcut).1]
      simp

/-- The pair that a segment of a key stands for, if it holds an equals sign. -/
def pair? (s : String) : Option (String × Value) :=
  if '=' ∈ s.toList then some (nameOf s, Value.parse (rawOf s)) else none

theorem parseKey_eq (c : Cut filename) :
    parseKey filename = ofList ((c.label :: c.segments).filterMap pair?) := by
  rw [parseKey, c.split_eq, List.map_filterMap]
  refine congrArg ofList (congrFun (congrArg _ (funext fun s => ?_)) _)
  rw [valueDelimiter, splitOnce_eq, pair?]
  split <;> rfl

theorem filterMap_pair?_of_accepted {segments : List String} (h : Accepted segments) :
    segments.filterMap pair? = segments.map fun s => (nameOf s, Value.parse (rawOf s)) := by
  have hsome : ∀ s ∈ segments, pair? s = some (nameOf s, Value.parse (rawOf s)) := by
    intro s hs
    refine if_pos (Decidable.byContradiction fun hmem => ?_)
    have hone := h.one_sign s hs
    rw [List.count_eq_zero.2 hmem] at hone
    cases hone
  rw [List.filterMap_congr hsome, ← List.filterMap_eq_map]
  rfl

/-- The lenient reader takes the parameters from an accepted file name, and a pair more if the label
holds an equals sign; the parameters win. -/
theorem parseKey_of_parse (h : parse filename = .ok (label, p)) : parseKey filename =
    if '=' ∈ label.toList then
      (single (nameOf label) (Value.parse (rawOf label))).union (ofParameters p)
    else ofParameters p := by
  let c := Cut.ofFilename filename
  obtain ⟨haccepted, rfl, rfl⟩ := (parse_eq_ok_iff c).1 h
  have hsegments := filterMap_pair?_of_accepted haccepted
  rw [parseKey_eq c, ofParameters_eq]
  by_cases hsign : '=' ∈ c.label.toList
  · have hlabel : pair? c.label = some (nameOf c.label, Value.parse (rawOf c.label)) := if_pos hsign
    rw [if_pos hsign, List.filterMap_cons_some hlabel, hsegments]
    exact congrArg Constraints.mk (NameMap.ofList_cons haccepted.pairwise_ne _ _)
  · have hlabel : pair? c.label = none := if_neg hsign
    rw [if_neg hsign, List.filterMap_cons_none hlabel, hsegments]
    rfl

/-- **The two readers agree.** What has been read off a key is read off its own key again. What has
been read off a file name is read off the canonical name again, and the reader of keys takes the
same parameters from the file name; a label that holds an equals sign is one more segment to it, in
front of the others. -/
theorem readings_agree :
    (∀ key, parseKey (parseKey key).key = parseKey key) ∧
    ∀ filename label p, parse filename = .ok (label, p) →
      parse (canonical label p) = .ok (label, p) ∧
      parseKey filename = if '=' ∈ label.toList then
          (single (nameOf label) (Value.parse (rawOf label))).union (ofParameters p)
        else ofParameters p := by
  refine ⟨fun key => (parseKey_legible key).parseKey_key, fun filename label p h => ⟨?_, ?_⟩⟩
  · obtain ⟨-, rfl, -⟩ := (parse_eq_ok_iff (Cut.ofFilename filename)).1 h
    exact parse_canonical (Cut.ofFilename filename).not_mem_label (isPlain_of_parse h)
  · exact parseKey_of_parse h

/-- A label that looks like a segment of the parameter `w`, a number with leading zeros and an empty
value. -/
theorem readings_agree_label :
    parse "w=1=2_w=007_n=" = .ok ("w=1=2", .ofList [("n", .text ""), ("w", .int 7)]) ∧
    canonical "w=1=2" (.ofList [("n", .text ""), ("w", .int 7)]) = "w=1=2_n=_w=7" ∧
    parse "w=1=2_n=_w=7" = .ok ("w=1=2", .ofList [("n", .text ""), ("w", .int 7)]) ∧
    parseKey "w=1=2_w=007_n=" = .ofList [("n", .text ""), ("w", .int 7)] := by
  have hparse : parse "w=1=2_w=007_n=" =
      .ok ("w=1=2", .ofList [("n", .text ""), ("w", .int 7)]) := by decide +kernel
  have hcanonical : canonical "w=1=2" (.ofList [("n", .text ""), ("w", .int 7)]) =
      "w=1=2_n=_w=7" := by decide +kernel
  obtain ⟨hagain, hkey⟩ := readings_agree.2 _ _ _ hparse
  refine ⟨hparse, hcanonical, hcanonical ▸ hagain, ?_⟩
  rw [hkey, if_pos (by decide)]
  decide +kernel

end SweepPlot.ResultName
