import SweepPlot.Listing
import SweepPlot.Proofs.Failure.First

/-!
# What a listing shows

The results of a directory are read off its entries in order. Some entries have a failure, and the
first failure is the outcome; without failures the results are those with the names that the entries
give (`resultNames_eq`).

Hidden entries and directories give no names. Directories have no failures either, but hidden
entries may have one: every entry is looked at through links, and if it is no directory its name has
to be text, before a dot at the start of the name counts. `results_visible_iff` says when the
outcome is that of the visible entries nevertheless, and `results_dangling_hidden` is a listing for
which it is not.
-/

namespace SweepPlot.Listing

/-- The failure that the entry makes of the whole listing. -/
def failure? : FileName × Except IoFault EntryKind → Option Failure
  | (_, .error fault) => some (.io fault)
  | (.raw bytes, .ok .file) =>
    some (.malformedSegment (FileName.raw bytes).display "non-UTF-8 filename")
  | _ => none

/-- The name of the result that the entry stands for, if it has no failure. -/
def name? : FileName × Except IoFault EntryKind → Option String
  | (.text name, .ok .file) => if (FileName.text name).isHidden then none else some name
  | _ => none

theorem resultName?_eq (entry : FileName × Except IoFault EntryKind) :
    resultName? entry = match failure? entry with
      | some e => .error e
      | none => .ok (name? entry) := by
  obtain ⟨name | bytes, fault | ⟨directory | file⟩⟩ := entry <;> rfl

/-- The first failure is the outcome; without failures every entry gives its name. -/
theorem resultNames_eq (l : Listing) :
    l.resultNames = match l.findSome? failure? with
      | some e => .error e
      | none => .ok (l.filterMap name?) := by
  cases hfirst : l.findSome? failure? with
  | some e =>
    obtain ⟨before, entry, after, hl, he, hbefore⟩ := List.findSome?_eq_some_iff.1 hfirst
    have hmapM : l.mapM resultName? = .error e := by
      refine mapM_eq_error_iff.2 ⟨before, entry, after, hl, fun x hx => ⟨name? x, ?_⟩, ?_⟩
      · rw [resultName?_eq, hbefore x hx]
      · rw [resultName?_eq, he]
    rw [resultNames, hmapM]
    rfl
  | none =>
    have hnone := List.findSome?_eq_none_iff.1 hfirst
    have hmapM : l.mapM resultName? = .ok (l.map name?) := by
      refine mapM_eq_ok_iff.2 ?_
      rw [List.map_map]
      exact List.map_congr_left fun x hx => by rw [resultName?_eq, hnone x hx]; rfl
    rw [resultNames, hmapM]
    show Except.ok ((l.map name?).filterMap id) = _
    rw [List.filterMap_map, Function.id_comp]

theorem results_of_failure {l : Listing} {e : Failure} (h : l.findSome? failure? = some e)
    (path : String) : l.results path = .error e := by
  rw [results, resultNames_eq, h]
  rfl

/-! ## Visible entries -/

/-- The entry is neither hidden nor a directory. -/
def isVisible : FileName × Except IoFault EntryKind → Bool
  | (_, .ok .directory) => false
  | (name, _) => !name.isHidden

/-- The visible entries of a listing. -/
def visible (l : Listing) : Listing := l.filter isVisible

theorem isVisible_of_name? {entry : FileName × Except IoFault EntryKind} {name : String}
    (h : name? entry = some name) : isVisible entry = true := by
  unfold name? at h
  split at h
  · split at h
    · cases h
    · rename_i hhidden
      simpa [isVisible] using hhidden
  · cases h

/-- Of the entries with a failure those that are not hidden are visible. -/
theorem isVisible_of_failure? {entry : FileName × Except IoFault EntryKind} {e : Failure}
    (h : failure? entry = some e) (hhidden : entry.1.isHidden = false) :
    isVisible entry = true := by
  obtain ⟨name, fault | ⟨directory | file⟩⟩ := entry
  · simpa [isVisible] using hhidden
  · cases h
  · simpa [isVisible] using hhidden

/-- The visible entries give the names. -/
theorem filterMap_visible (l : Listing) : l.visible.filterMap name? = l.filterMap name? := by
  rw [visible, List.filterMap_filter]
  congr 1
  funext entry
  cases hname : name? entry with
  | none => exact ite_self none
  | some name => rw [if_pos (isVisible_of_name? hname)]

/-- **The outcome is that of the visible entries** unless the first entry with a failure is hidden;
then it is so only if the visible entries have the same failure as outcome. -/
theorem results_visible_iff (path : String) (l : Listing) :
    l.results path = l.visible.results path ↔
      ∀ before entry after e, l = before ++ entry :: after → (∀ x ∈ before, failure? x = none) →
        failure? entry = some e → entry.1.isHidden = true → l.visible.results path = .error e := by
  constructor
  · intro heq before entry after e hl hbefore he _
    have hfirst := List.findSome?_eq_some_iff.2 ⟨before, entry, after, hl, he, hbefore⟩
    rw [← heq, results_of_failure hfirst]
  · intro h
    cases hfirst : l.findSome? failure? with
    | none =>
      have hnone : l.visible.findSome? failure? = none := by
        rw [List.findSome?_eq_none_iff] at hfirst ⊢
        exact fun entry hentry => hfirst entry (List.mem_filter.1 hentry).1
      rw [results, results, resultNames_eq, resultNames_eq, hfirst, hnone, filterMap_visible]
    | some e =>
      obtain ⟨before, entry, after, hl, he, hbefore⟩ := List.findSome?_eq_some_iff.1 hfirst
      rw [results_of_failure hfirst]
      cases hhidden : entry.1.isHidden with
      | true => exact (h before entry after e hl hbefore he hhidden).symm
      | false =>
        have hvisible : l.visible = visible before ++ entry :: visible after := by
          rw [hl, visible, List.filter_append,
            List.filter_cons_of_pos (isVisible_of_failure? he hhidden)]
          rfl
        refine (results_of_failure (List.findSome?_eq_some_iff.2
          ⟨visible before, entry, visible after, hvisible, he, fun x hx => ?_⟩) path).symm
        exact hbefore x (List.mem_filter.1 hx).1

/-- A result beside a hidden link that leads nowhere, as an editor leaves one while a file is
open. -/
def danglingHidden : Listing :=
  [(.text ".#b_n=1", .error (.os .notFound)), (.text "b_n=1", .ok .file)]

/-- The link is the outcome, although the visible entries are a result. -/
theorem results_dangling_hidden :
    danglingHidden.results "d" = .error (.io (.os .notFound)) ∧
      ((danglingHidden.visible.results "d").map ResultSet.filenames).toOption =
        some ["b_n=1"] := by
  refine ⟨rfl, ?_⟩
  decide +kernel

end SweepPlot.Listing
