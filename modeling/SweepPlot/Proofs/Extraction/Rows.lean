import Mathlib.Data.List.TakeWhile
import SweepPlot.Proofs.Extraction.Lines
import SweepPlot.Proofs.FileTree.Scratch

/-!
# What an extraction writes

`Extraction.plotData` is what a result file gives: a row for each of its lines that carries the
tag. An extraction that succeeds adds exactly these bytes to its data file and changes nothing else
(`extract_spec`), as long as the two files are not one. For data files in a scratch directory
`extract_fills` says so.
-/

namespace SweepPlot.Extraction

open FileTree

/-- The data that a result file with a content gives. -/
def plotData (tag : String) (content : Bytes) : Bytes := rowBytes (taggedRows tag (lines content))

theorem addAt_ok {t t' : FileTree} {loc : Location} {bytes : Bytes}
    (h : t.addAt loc bytes = (.ok (), t')) : t' = t.append loc bytes := by
  unfold addAt at h
  split at h <;> cases h
  rfl

/-- An extraction that succeeds changes its data file only, to which it adds the data of the result
file, unless that is the data file itself. -/
theorem extract_spec {source tag dest : String} {mode : WriteMode} {t t' : FileTree} {n : Nat}
    (h : extract source tag dest mode t = (.ok n, t')) :
    ∃ origin loc t₁ content, t.openRead source = .ok origin ∧
      t.openWrite (mode == .truncate) dest = .ok (loc, t₁) ∧ t₁.readAt origin = .ok content ∧
      Agree (· = loc) t₁ t' ∧
      ∀ old, t₁.lookup loc = some (.file old) → ∃ added,
        t'.lookup loc = some (.file (old ++ added)) ∧
          (origin ≠ loc → added = plotData tag content) := by
  unfold extract at h
  rcases ho : t.openRead source with e | origin <;> rw [ho] at h <;> simp only at h
  · cases h
  rcases hw : t.openWrite (mode == .truncate) dest with e | ⟨loc, t₁⟩ <;> rw [hw] at h <;>
    simp only at h
  · cases h
  rcases hr : t₁.readAt origin with e | content <;> rw [hr] at h <;> simp only at h
  · cases h
  refine ⟨origin, loc, t₁, content, rfl, rfl, hr, ?_⟩
  split at h
  · rename_i heq
    rcases hf : Feedback.extract tag content with ⟨result, added⟩
    rw [hf] at h
    obtain rfl : t₁.append loc added = t' := (Prod.mk.inj h).2
    exact ⟨append_agree .., fun old hold => ⟨added, (append_spec hold added).2,
      fun hne => absurd heq hne⟩⟩
  · rcases hs : scan tag (lines content) with ⟨rows, complete⟩
    rw [hs] at h
    rcases ha : t₁.addAt loc (rowBytes rows) with ⟨e | u, t₂⟩ <;> simp only [ha] at h
    · cases complete <;> cases h
    · cases complete with
      | false => cases h
      | true =>
        cases h
        rw [scan_eq] at hs
        obtain ⟨hrows, htext⟩ := Prod.mk.inj hs
        rw [List.takeWhile_eq_self_iff.2 (List.all_eq_true.1 htext)] at hrows
        rw [addAt_ok ha]
        exact ⟨append_agree .., fun old hold =>
          ⟨_, (append_spec hold _).2, fun _ => by rw [plotData, hrows]⟩⟩

/-- An extraction into the directory adds the rows of a result to a data file, which is empty before
if the mode says so. -/
theorem extract_fills {source tag dir x : String} {mode : WriteMode} {t₀ t t' : FileTree}
    {loc : Location} {n : Nat}
    (h : Scratch t₀ dir loc t) (hx : IsName x)
    (he : extract source tag (Path.join dir x) mode t = (.ok n, t')) :
    Reachable dir x ∧ Scratch t₀ dir loc t' ∧ Grows (· = loc ++ [.text x]) t t' ∧
      ∃ start added origin content,
        t'.lookup (loc ++ [.text x]) = some (.file (start ++ added)) ∧
        (mode = .truncate → start = []) ∧
        (∀ old, t.lookup (loc ++ [.text x]) = some (.file old) → mode = .append → start = old) ∧
        t'.openRead source = .ok origin ∧ t'.readAt origin = .ok content ∧
        (¬ loc <+: origin → added = plotData tag content) := by
  obtain ⟨origin, k, t₁, content, hopen, hw, hread, hagree, hadd⟩ := extract_spec he
  obtain ⟨rfl, hreach, hscratch, hgrows, start, hl₁, htrunc, happ⟩ := h.openWrite_fills hx hw
  obtain ⟨added, hl', hadded⟩ := hadd start hl₁
  have hgrows' : Grows (· = loc ++ [.text x]) t₁ t' := .of_agree hagree (.inr ⟨start, hl₁⟩) hl'
  have hscratch' := hscratch.changesFiles (.of_agree hagree (hl₁ ▸ isLeaf_file start) hl')
  have hopen' := (hgrows.trans hgrows').openRead hopen
  have hne : ¬ loc <+: origin → origin ≠ loc ++ [.text x] := by
    rintro hout rfl
    exact hout (List.prefix_append ..)
  obtain ⟨content', hread', hsame⟩ : ∃ content', t'.readAt origin = .ok content' ∧
      (origin ≠ loc ++ [.text x] → content' = content) := by
    by_cases horigin : origin = loc ++ [.text x]
    · exact ⟨start ++ added, by rw [horigin, readAt, hl'], fun hno => absurd horigin hno⟩
    · exact ⟨content, by rw [readAt_congr (hagree.lookup _ horigin), hread], fun _ => rfl⟩
  refine ⟨hreach, hscratch', hgrows.trans hgrows', start, added, origin, content', hl', ?_, ?_,
    hopen', hread', fun hout => ?_⟩
  · rintro rfl
    exact htrunc rfl
  · rintro old hold rfl
    exact happ old hold rfl
  · rw [hadded (hne hout), hsame (hne hout)]

end SweepPlot.Extraction
