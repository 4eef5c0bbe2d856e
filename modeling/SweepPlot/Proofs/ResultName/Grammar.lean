import Mathlib.Data.List.Induction
import Mathlib.Data.List.Perm.Subperm
import SweepPlot.Proofs.NameMap.Bindings
import SweepPlot.Proofs.ResultName.Segments

/-!
# The grammar of result names

A result name is a label and segments, each with an underscore before it. A segment is well-formed
if it holds one equals sign, and the name before the sign may not be that of another segment.

* `Cut` is a file name that is cut at its underscores; every file name can be cut in one way.
* `segment?_eq` says what a segment gives, by the number of its equals signs.
* `Accepted` is the grammar, and `given` what the segments give together. Accepted segments give
  their parameters (`foldlM_addSegment_of_accepted`).
* `Offence` is what can be wrong with a segment after some others. Either the segments are accepted
  or there is a first one with an offence (`accepted_or_offence`), which then is the outcome
  (`foldlM_addSegment_of_offence`).
* `given_unique` says that the given parameters are fixed by their number and values, so that the
  order of the segments does not matter.
-/

namespace SweepPlot.ResultName

open Text

variable {filename : String} {segments before after : List String} {segment : String}

/-! ## Cutting -/

/-- A file name that is cut at its underscores. -/
structure Cut (filename : String) where
  /-- What stands before the first underscore. -/
  label : String
  /-- What follows each of the underscores. -/
  segments : List String
  not_mem_label : '_' ∉ label.toList
  not_mem_segments : ∀ s ∈ segments, '_' ∉ s.toList
  filename_eq : filename = "_".intercalate (label :: segments)

/-- The pieces of a cut are those that are read. -/
theorem Cut.split_eq (c : Cut filename) :
    split segmentDelimiter filename = c.label :: c.segments := by
  have hclean : ∀ s ∈ c.label :: c.segments, segmentDelimiter ∉ s.toList :=
    List.forall_mem_cons.2 ⟨c.not_mem_label, c.not_mem_segments⟩
  conv => lhs; rw [c.filename_eq]
  exact split_intercalate (List.cons_ne_nil _ _) hclean

/-- Every file name can be cut. -/
def Cut.ofFilename (filename : String) : Cut filename where
  label := (split '_' filename).head (split_ne_nil _ _)
  segments := (split '_' filename).tail
  not_mem_label := delimiter_not_mem_of_mem_split (List.head_mem _)
  not_mem_segments _ hs := delimiter_not_mem_of_mem_split (List.mem_of_mem_tail hs)
  filename_eq := by
    rw [List.cons_head_tail]
    exact (intercalate_split '_' filename).symm

/-! ## Segments -/

/-- The part of a segment before its first equals sign. -/
def nameOf (segment : String) : String := String.ofList (segment.toList.takeWhile (· != '='))

/-- The part of a segment after its first equals sign. -/
def rawOf (segment : String) : String := String.ofList (segment.toList.dropWhile (· != '=')).tail

theorem parts_of_eq {a b : List Char} (h : segment.toList = a ++ '=' :: b) (ha : '=' ∉ a) :
    nameOf segment = String.ofList a ∧ rawOf segment = String.ofList b := by
  have hbefore : ∀ x ∈ a, (x != '=') = true := by
    intro x hx
    simp only [bne_iff_ne, ne_eq]
    rintro rfl
    exact ha hx
  unfold nameOf rawOf
  rw [h, List.takeWhile_append_of_pos hbefore, List.dropWhile_append_of_pos hbefore]
  simp

/-- A segment gives a name and a raw value exactly if it holds one equals sign. -/
theorem segment?_eq (segment : String) : segment? segment =
    if segment.toList.count '=' = 1 then some (nameOf segment, rawOf segment) else none := by
  have hlength := length_pieces '=' segment.toList
  by_cases hcount : segment.toList.count '=' = 1
  · rw [if_pos hcount]
    obtain ⟨a, b, hpieces⟩ := List.length_eq_two.1 (hlength.trans (by rw [hcount]))
    have hjoin := intercalate_pieces '=' segment.toList
    have ha : '=' ∉ a := not_mem_of_mem_pieces (s := segment.toList) (by rw [hpieces]; simp)
    rw [hpieces] at hjoin
    have hsegment : segment.toList = a ++ '=' :: b := by
      rw [← hjoin]
      simp [List.intercalate_cons_cons]
    obtain ⟨hname, hraw⟩ := parts_of_eq hsegment ha
    rw [hname, hraw, segment?_eq_some_iff, split, valueDelimiter, hpieces]
    rfl
  · rw [if_neg hcount]
    unfold segment?
    split
    · rename_i name raw hsplit
      have := congrArg List.length hsplit
      rw [split, List.length_map, valueDelimiter, hlength] at this
      exact absurd (Nat.succ.inj this) hcount
    · rfl

/-! ## Accepted segments -/

/-- Every segment holds one equals sign, and no two segments have the same name. -/
structure Accepted (segments : List String) : Prop where
  one_sign : ∀ s ∈ segments, s.toList.count '=' = 1
  distinct : (segments.map nameOf).Nodup

/-- The parameters that segments give. -/
def given (segments : List String) : Parameters :=
  .ofList (segments.map fun s => (nameOf s, Value.parse (rawOf s)))

theorem given_append_singleton (before : List String) (segment : String) :
    given (before ++ [segment]) =
      (given before).insert (nameOf segment) (Value.parse (rawOf segment)) := by
  unfold given Parameters.ofList NameMap.ofList Parameters.insert
  rw [List.map_append, List.foldl_append]
  rfl

/-- The names of the given parameters are those of the segments. -/
theorem isSome_get?_given {name : String} :
    ((given segments).get? name).isSome ↔ name ∈ segments.map nameOf := by
  induction segments using List.reverseRecOn with
  | nil => simp [given, Parameters.ofList, NameMap.ofList, Parameters.get?]
  | append_singleton before segment ih =>
    rw [given_append_singleton, Parameters.get?_insert, List.map_append, List.mem_append, ← ih]
    by_cases h : name = nameOf segment <;> simp [h]

theorem Accepted.of_append (h : Accepted (before ++ after)) : Accepted before where
  one_sign s hs := h.one_sign s (List.mem_append_left _ hs)
  distinct := by
    have hdistinct := h.distinct
    rw [List.map_append] at hdistinct
    exact (List.nodup_append.1 hdistinct).1

/-- Accepted segments give their parameters. -/
theorem foldlM_addSegment_of_accepted (h : Accepted segments) :
    segments.foldlM (addSegment filename) Parameters.empty = .ok (given segments) := by
  induction segments using List.reverseRecOn with
  | nil => rfl
  | append_singleton before segment ih =>
    have hsign := h.one_sign segment (by simp)
    have hnew : nameOf segment ∉ before.map nameOf := by
      have hdistinct := h.distinct
      rw [List.map_append, List.map_singleton, List.nodup_append] at hdistinct
      exact fun hmem => hdistinct.2.2 _ hmem _ (List.mem_singleton_self _) rfl
    rw [← isSome_get?_given] at hnew
    rw [List.foldlM_append, ih h.of_append, given_append_singleton]
    show addSegment filename (given before) segment >>= pure = _
    rw [addSegment, segment?_eq, if_pos hsign]
    simp only [if_neg hnew]
    rfl

/-! ## Offences -/

/-- What is wrong with a segment that follows others, and the failure that says so. -/
inductive Offence (filename : String) (before : List String) (segment : String) : Failure → Prop
  /-- The segment does not hold exactly one equals sign. -/
  | malformed : segment.toList.count '=' ≠ 1 →
      Offence filename before segment (.malformedSegment filename segment)
  /-- The name is that of a segment before. -/
  | duplicate : segment.toList.count '=' = 1 → nameOf segment ∈ before.map nameOf →
      Offence filename before segment (.duplicateParameter filename (nameOf segment))

/-- The first segment with an offence is the outcome. -/
theorem foldlM_addSegment_of_offence {e : Failure} (h : Accepted before)
    (he : Offence filename before segment e) :
    (before ++ segment :: after).foldlM (addSegment filename) Parameters.empty = .error e := by
  have hadd : addSegment filename (given before) segment = .error e := by
    rw [addSegment, segment?_eq]
    cases he with
    | malformed hsign => rw [if_neg hsign]
    | duplicate hsign hold =>
      rw [if_pos hsign]
      exact if_pos (isSome_get?_given.2 hold)
  rw [List.foldlM_append, foldlM_addSegment_of_accepted h]
  show (segment :: after).foldlM (addSegment filename) (given before) = _
  rw [List.foldlM_cons, hadd]
  rfl

/-- Segments are accepted, or one of them is the first with an offence. -/
theorem accepted_or_offence (filename : String) (segments : List String) :
    Accepted segments ∨ ∃ before segment after e, segments = before ++ segment :: after ∧
      Accepted before ∧ Offence filename before segment e := by
  induction segments using List.reverseRecOn with
  | nil => exact .inl ⟨by simp, List.nodup_nil⟩
  | append_singleton before segment ih =>
    rcases ih with haccepted | ⟨first, offender, after, e, rfl, hfirst, he⟩
    · by_cases hsign : segment.toList.count '=' = 1
      · by_cases hold : nameOf segment ∈ before.map nameOf
        · exact .inr ⟨before, segment, [], _, rfl, haccepted, .duplicate hsign hold⟩
        · refine .inl ⟨fun s hs => ?_, ?_⟩
          · rcases List.mem_append.1 hs with hs | hs
            · exact haccepted.one_sign s hs
            · exact List.mem_singleton.1 hs ▸ hsign
          · rw [List.map_append, List.map_singleton, List.nodup_append]
            refine ⟨haccepted.distinct, by simp, fun a ha b hb hab => hold ?_⟩
            rw [← List.mem_singleton.1 hb, ← hab]
            exact ha
      · exact .inr ⟨before, segment, [], _, rfl, haccepted, .malformed hsign⟩
    · exact .inr ⟨first, offender, after ++ [segment], e, by simp, hfirst, he⟩

/-! ## Result names -/

theorem parse_eq (c : Cut filename) : parse filename =
    (c.segments.foldlM (addSegment filename) Parameters.empty).map (c.label, ·) := by
  rw [parse, c.split_eq]
  rfl

theorem parse_of_accepted (c : Cut filename) (h : Accepted c.segments) :
    parse filename = .ok (c.label, given c.segments) := by
  rw [parse_eq c, foldlM_addSegment_of_accepted h]
  rfl

theorem parse_of_offence (c : Cut filename) {e : Failure}
    (hcut : c.segments = before ++ segment :: after) (h : Accepted before)
    (he : Offence filename before segment e) : parse filename = .error e := by
  rw [parse_eq c, hcut, foldlM_addSegment_of_offence h he]
  rfl

/-- A file name is accepted exactly if its segments are. -/
theorem parse_eq_ok_iff (c : Cut filename) {label : String} {p : Parameters} :
    parse filename = .ok (label, p) ↔
      Accepted c.segments ∧ label = c.label ∧ p = given c.segments := by
  constructor
  · intro h
    rcases accepted_or_offence filename c.segments with
      haccepted | ⟨before, segment, after, e, hcut, hbefore, he⟩
    · rw [parse_of_accepted c haccepted] at h
      cases h
      exact ⟨haccepted, rfl, rfl⟩
    · rw [parse_of_offence c hcut hbefore he] at h
      cases h
  · rintro ⟨haccepted, rfl, rfl⟩
    exact parse_of_accepted c haccepted

/-- The failure of a file name is the first offence of its segments. -/
theorem parse_eq_error_iff (c : Cut filename) {e : Failure} :
    parse filename = .error e ↔ ∃ before segment after,
      c.segments = before ++ segment :: after ∧ Accepted before ∧
        Offence filename before segment e := by
  constructor
  · intro h
    rcases accepted_or_offence filename c.segments with
      haccepted | ⟨before, segment, after, e', hcut, hbefore, he⟩
    · rw [parse_of_accepted c haccepted] at h
      cases h
    · rw [parse_of_offence c hcut hbefore he] at h
      cases h
      exact ⟨before, segment, after, hcut, hbefore, he⟩
  · rintro ⟨before, segment, after, hcut, hbefore, he⟩
    exact parse_of_offence c hcut hbefore he

/-! ## The order of segments -/

/-- The pairs of names and values that accepted segments stand for have different names. -/
theorem Accepted.pairwise_ne (h : Accepted segments) :
    (segments.map fun s => (nameOf s, Value.parse (rawOf s))).Pairwise (·.1 ≠ ·.1) :=
  List.pairwise_map.2 (List.pairwise_map.1 h.distinct)

theorem size_given (h : Accepted segments) : (given segments).size = segments.length := by
  have hperm := NameMap.ofList_perm h.pairwise_ne
  exact hperm.length_eq.trans (List.length_map _)

theorem get?_given (h : Accepted segments) {s : String} (hs : s ∈ segments) :
    (given segments).get? (nameOf s) = some (Value.parse (rawOf s)) :=
  NameMap.get?_eq_some_iff.2 ((NameMap.mem_ofList_iff h.pairwise_ne).2
    (List.mem_map_of_mem (f := fun s => (nameOf s, Value.parse (rawOf s))) hs))

/-- The given parameters are the only ones of their number in which each segment has its value. -/
theorem given_unique (h : Accepted segments) {p : Parameters} (hsize : p.size = segments.length)
    (hget : ∀ s ∈ segments, p.get? (nameOf s) = some (Value.parse (rawOf s))) :
    p = given segments := by
  refine congrArg Parameters.mk (NameMap.eq_ofList_of_size h.pairwise_ne ?_ fun b hb => ?_)
  · rw [List.length_map]
    exact hsize
  · obtain ⟨s, hs, rfl⟩ := List.mem_map.1 hb
    exact hget s hs

theorem Accepted.of_perm {segments' : List String} (h : Accepted segments)
    (hperm : segments'.Perm segments) : Accepted segments' where
  one_sign s hs := h.one_sign s (hperm.mem_iff.1 hs)
  distinct := (hperm.map nameOf).nodup_iff.2 h.distinct

/-- Accepted segments give the same parameters in every order. -/
theorem given_eq_of_perm {segments' : List String} (h : Accepted segments)
    (hperm : segments'.Perm segments) : given segments' = given segments := by
  have h' := h.of_perm hperm
  refine given_unique h ?_ fun s hs => get?_given h' (hperm.mem_iff.2 hs)
  rw [size_given h', hperm.length_eq]

/-- **The grammar of result names.** A file name that is cut at its underscores is accepted exactly
if each segment after the label holds one equals sign and the names before the signs are distinct.
It then gives the label and as many parameters as there are segments, with the value of each, and
the same for every order of the segments. Otherwise the failure is about the first segment with an
offence: it is malformed if it does not hold exactly one equals sign, and else a duplicate of an
earlier segment. -/
theorem parse_outcome (c : Cut filename) :
    ((∃ r, parse filename = .ok r) ↔ Accepted c.segments) ∧
    (∀ label p, parse filename = .ok (label, p) ↔
      Accepted c.segments ∧ label = c.label ∧ p.size = c.segments.length ∧
        ∀ s ∈ c.segments, p.get? (nameOf s) = some (Value.parse (rawOf s))) ∧
    (∀ filename' (c' : Cut filename'), c'.label = c.label → c'.segments.Perm c.segments →
      ∀ r, parse filename' = .ok r ↔ parse filename = .ok r) ∧
    ∀ e, parse filename = .error e ↔ ∃ before segment after,
      c.segments = before ++ segment :: after ∧ Accepted before ∧
        (segment.toList.count '=' ≠ 1 ∧ e = .malformedSegment filename segment ∨
          segment.toList.count '=' = 1 ∧ nameOf segment ∈ before.map nameOf ∧
            e = .duplicateParameter filename (nameOf segment)) := by
  refine ⟨⟨?_, fun h => ⟨_, parse_of_accepted c h⟩⟩, fun label p => ?_, ?_, fun e => ?_⟩
  · rintro ⟨⟨label, p⟩, h⟩
    exact ((parse_eq_ok_iff c).1 h).1
  · rw [parse_eq_ok_iff c]
    refine and_congr_right fun haccepted => and_congr_right fun _ => ⟨?_, ?_⟩
    · rintro rfl
      exact ⟨size_given haccepted, fun s hs => get?_given haccepted hs⟩
    · rintro ⟨hsize, hget⟩
      exact given_unique haccepted hsize hget
  · rintro filename' c' hlabel hperm ⟨label, p⟩
    rw [parse_eq_ok_iff c, parse_eq_ok_iff c', hlabel]
    constructor
    · rintro ⟨h, hl, rfl⟩
      exact ⟨h.of_perm hperm.symm, hl, given_eq_of_perm (h.of_perm hperm.symm) hperm⟩
    · rintro ⟨h, hl, rfl⟩
      exact ⟨h.of_perm hperm, hl, (given_eq_of_perm h hperm).symm⟩
  · rw [parse_eq_error_iff c]
    refine exists₃_congr fun before segment after => and_congr_right fun _ =>
      and_congr_right fun _ => ⟨?_, ?_⟩
    · rintro (hsign | ⟨hsign, hold⟩)
      · exact .inl ⟨hsign, rfl⟩
      · exact .inr ⟨hsign, hold, rfl⟩
    · rintro (⟨hsign, rfl⟩ | ⟨hsign, hold, rfl⟩)
      · exact .malformed hsign
      · exact .duplicate hsign hold

/-- A name with an empty parameter name and an empty value, and the same with its segments in
another order. -/
theorem parse_outcome_reordered :
    parse "=_w=1_=" = .ok ("=", .ofList [("", .text ""), ("w", .int 1)]) ∧
      ∀ r, parse "=_=_w=1" = .ok r ↔ parse "=_w=1_=" = .ok r :=
  ⟨by decide +kernel, (parse_outcome (Cut.ofFilename "=_w=1_=")).2.2.1 "=_=_w=1"
    (Cut.ofFilename "=_=_w=1") (by decide +kernel) (by decide +kernel)⟩

end SweepPlot.ResultName
