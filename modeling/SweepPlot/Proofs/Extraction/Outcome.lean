import SweepPlot.Proofs.Extraction.HeldBack
import SweepPlot.Proofs.FileTree.Opened

/-!
# How an extraction ends

An extraction from one file into another writes the rows of the tagged lines before the first line
that is no text, after what the destination holds already, and succeeds if all lines are text
(`extract_outcome`). What is written to a device is not kept, so that this is about destinations
that are files or do not exist yet (`extract_discarded`).
-/

namespace SweepPlot

namespace Extraction

open FileTree

variable {source tag dest : String} {mode : WriteMode} {t t₁ t' : FileTree} {loc : Location}

/-- What a destination holds before the first row: nothing if it is emptied or did not exist. -/
def startOf (mode : WriteMode) (t : FileTree) (dest : String) : Bytes :=
  match mode with
  | .truncate => []
  | .append => (t.read dest).toOption.getD []

/-- A destination that is a file, or becomes one, has the start when it has been opened. -/
theorem lookup_openWrite (h : t.openWrite (mode == .truncate) dest = .ok (loc, t₁))
    (hdevice : ∀ d, t.lookup loc ≠ some (.device d)) :
    t₁.lookup loc = some (.file (startOf mode t dest)) := by
  obtain ⟨s, -, -, -, -, ⟨hl, hl'⟩ | ⟨content, hl, hl'⟩ | ⟨d, hl, -⟩⟩ := openWrite_spec h
  · cases mode with
    | truncate => exact hl'
    | append =>
      have hstart : startOf .append t dest = [] := by
        unfold startOf
        cases hr : t.read dest with
        | error fault => rfl
        | ok content => exact absurd hr (read_of_lookup_none h hl content)
      rw [hstart, hl']
  · cases mode with
    | truncate => exact hl'
    | append =>
      have hread : t.read dest = .ok content := read_of_openWrite h (.refl _ _) hl
      have hstart : startOf .append t dest = content := by simp [startOf, hread, Except.toOption]
      rw [hstart, hl']
      rfl
  · exact absurd hl (hdevice d)

/-- The outcome of an extraction whose lines have been read. -/
def outcome (source tag : String) (ls : List Bytes) : Except Failure Nat :=
  if ls.all isText then .ok (taggedRows tag (ls.takeWhile isText)).length
  else .error (.extraction source tag .notUtf8)

/-- An extraction from one file into another adds the rows of the lines before the first that is no
text. -/
theorem extract_eq {origin : Location} {content : Bytes} (hopen : t.openRead source = .ok origin)
    (hwrite : t.openWrite (mode == .truncate) dest = .ok (loc, t₁))
    (hread : t.readAt origin = .ok content) (hne : origin ≠ loc)
    (hfull : t.lookup loc ≠ some (.device .full)) :
    extract source tag dest mode t = (outcome source tag (lines content),
      t₁.append loc (rowBytes (taggedRows tag ((lines content).takeWhile isText)))) := by
  obtain ⟨s, -, -, -, hagree, hcase⟩ := openWrite_spec hwrite
  have hread₁ : t₁.readAt origin = .ok content := by
    rw [readAt_congr (hagree.lookup origin hne), hread]
  have hfull₁ : t₁.lookup loc ≠ some (.device .full) := by
    rcases hcase with ⟨-, hl'⟩ | ⟨content, -, hl'⟩ | ⟨d, hl, hl'⟩ <;> rw [hl']
    · simp
    · simp
    · rwa [← hl]
  have hadd : ∀ bytes, t₁.addAt loc bytes = (.ok (), t₁.append loc bytes) := fun bytes =>
    if_neg fun h => hfull₁ h.1
  unfold extract outcome
  simp only [hopen, hwrite, hread₁, if_neg hne, scan_eq, hadd]
  split <;> rfl

/-- A source that cannot be opened ends the extraction before the destination is opened. -/
theorem extract_of_openRead_error {fault : IoFault} (hopen : t.openRead source = .error fault) :
    extract source tag dest mode t = (.error (.extraction source tag fault), t) := by
  unfold extract
  simp only [hopen]

theorem extract_of_openWrite_error {origin : Location} {fault : IoFault}
    (hopen : t.openRead source = .ok origin)
    (hwrite : t.openWrite (mode == .truncate) dest = .error fault) :
    extract source tag dest mode t = (.error (.extraction source tag fault), t) := by
  unfold extract
  simp only [hopen, hwrite]

/-- A source that can be opened but not read fails when the destination has been opened. -/
theorem extract_of_readAt_error {origin : Location} {fault : IoFault}
    (hopen : t.openRead source = .ok origin)
    (hwrite : t.openWrite (mode == .truncate) dest = .ok (loc, t₁))
    (hread : t₁.readAt origin = .error fault) :
    extract source tag dest mode t = (.error (.extraction source tag fault), t₁) := by
  unfold extract
  simp only [hopen, hwrite, hread]

/-- **The outcome of an extraction.** If the source cannot be opened, nothing changes. Else, with a
destination that can be opened and is another file than the source, which is cut at its line feeds,
the destination holds in the end what it held before, or nothing of it, and then the rows of the
lines with the tag before the first line that is no text; these are also the rows that a writer
leaves that holds them back in blocks. Nothing else changes. The extraction succeeds if all lines
are text, and fails with the path of the source and the tag if one is not. A device that takes
everything as a destination keeps nothing, and the extraction ends in the same way. -/
theorem extract_outcome (source tag dest : String) (mode : WriteMode) (t : FileTree) :
    (∀ fault, t.openRead source = .error fault →
      extract source tag dest mode t = (.error (.extraction source tag fault), t)) ∧
    ∀ content (cut : Cut content) loc t₁, t.read source = .ok content →
      t.openWrite (mode == .truncate) dest = .ok (loc, t₁) → t.openRead source ≠ .ok loc →
      t.lookup loc ≠ some (.device .full) →
      let rows := taggedRows tag (cut.lines.takeWhile isText)
      let result := (extract source tag dest mode t).1
      let t' := (extract source tag dest mode t).2
      ((∀ line ∈ cut.lines, isText line = true) → result = .ok rows.length) ∧
      ((∃ line ∈ cut.lines, isText line = false) →
        result = .error (.extraction source tag .notUtf8)) ∧
      ((∀ d, t.lookup loc ≠ some (.device d)) →
        t'.read dest = .ok (startOf mode t dest ++ rowBytes rows) ∧
        ((Feedback.ofContent (startOf mode t dest)).takeLines tag cut.lines).1.flush.content =
          startOf mode t dest ++ rowBytes rows ∧
        Agree (· = loc) t t') ∧
      ∀ d, t.lookup loc = some (.device d) → t' = t := by
  constructor
  · intro fault hfault
    exact extract_of_openRead_error hfault
  · intro content cut loc t₁ hread hwrite hother hfull rows result t'
    obtain ⟨origin, hopen, hcontent⟩ := read_eq_ok_iff.1 hread
    have hne : origin ≠ loc := by
      rintro rfl
      exact hother hopen
    have heq : extract source tag dest mode t =
        (outcome source tag cut.lines, t₁.append loc (rowBytes rows)) := by
      rw [extract_eq hopen hwrite hcontent hne hfull, cut.lines_eq]
    have hresult : result = outcome source tag cut.lines := congrArg Prod.fst heq
    have htree : t' = t₁.append loc (rowBytes rows) := congrArg Prod.snd heq
    refine ⟨fun hall => ?_, fun ⟨line, hline, hno⟩ => ?_, fun hdevice => ?_, fun d hd => ?_⟩
    · have hall' : cut.lines.all isText = true := List.all_eq_true.2 hall
      rw [hresult, outcome, if_pos hall']
    · have hnot : ¬ cut.lines.all isText = true := fun hall => by
        rw [List.all_eq_true.1 hall line hline] at hno
        cases hno
      rw [hresult, outcome, if_neg hnot]
    · have hstart := lookup_openWrite hwrite hdevice
      obtain ⟨s, -, -, -, hagree, -⟩ := openWrite_spec hwrite
      obtain ⟨hagree', hend⟩ := append_spec hstart (rowBytes rows)
      rw [htree]
      exact ⟨read_of_openWrite hwrite (hagree.trans hagree') hend,
        Feedback.flush_takeLines tag _ _, hagree.trans hagree'⟩
    · obtain ⟨s, hs, rfl, hn, -, -⟩ := openWrite_spec hwrite
      have ht₁ : t₁ = t := by
        have hd' := dirOnly_of_openWrite hwrite hs
        unfold openWrite at hwrite
        rw [hs] at hwrite
        simp only [bind, Except.bind, hd', hn, hd] at hwrite
        cases hwrite
        rfl
      rw [htree, ht₁, append_device hd]

/-- Lines with an end of each kind, a line that is no text and one after it. -/
def mixedContent : Bytes :=
  Text.Utf8.encode "T\r\nT\ta\tb\tc\td\n\nx\tT\n" ++ [0xff, 0x0a] ++ Text.Utf8.encode "T\n"

/-- A file with these lines, and one with rows from before. -/
def mixedTree : FileTree where
  nodes := [([.text "s"], .file mixedContent), ([.text "d"], .file (Text.Utf8.encode "old\n"))]
  workDir := []

/-- Rows are added up to the line that is no text, with which the extraction ends. -/
theorem extract_outcome_mixed : mixedTree.read "s" = .ok mixedContent ∧
    (∃ line ∈ (Cut.ofContent mixedContent).lines, isText line = false) ∧
    (extract "s" "T" "d" .append mixedTree).1 = .error (.extraction "s" "T" .notUtf8) ∧
    (extract "s" "T" "d" .append mixedTree).2.read "d" =
      .ok (Text.Utf8.encode "old\nT\nb\tc\n\n") := by
  have hread : mixedTree.read "s" = .ok mixedContent := ok_of_toOption (by decide +kernel)
  have hwrite : mixedTree.openWrite (WriteMode.append == .truncate) "d" =
      .ok ([.text "d"], mixedTree) := ok_of_toOption (by decide +kernel)
  have hopen : mixedTree.openRead "s" = .ok [.text "s"] := ok_of_toOption (by decide +kernel)
  have hother : mixedTree.openRead "s" ≠ .ok [.text "d"] := by
    rw [hopen]
    simp
  have hfile : mixedTree.lookup [.text "d"] = some (.file (Text.Utf8.encode "old\n")) := by
    decide +kernel
  have hdevice : ∀ d, mixedTree.lookup [.text "d"] ≠ some (.device d) := by
    rw [hfile]
    simp
  obtain ⟨-, hbroken, hkept, -⟩ := (extract_outcome "s" "T" "d" .append mixedTree).2 _
    (Cut.ofContent _) _ _ hread hwrite hother (hdevice .full)
  have hline : ∃ line ∈ (Cut.ofContent mixedContent).lines, isText line = false := by
    decide +kernel
  refine ⟨hread, hline, hbroken hline, ok_of_toOption ?_⟩
  rw [(hkept hdevice).1]
  decide +kernel

/-- A file, and a link to a device that keeps nothing. -/
def discardingTree : FileTree where
  nodes := [([.text "a"], .file (Text.Utf8.encode "X\n")), ([.text "d"], .link "/dev/null"),
    ([.text "dev"], .dir), ([.text "dev", .text "null"], .device .null)]
  workDir := []

/-- Rows for a device are not kept: all lines are text and one of them has the tag, the destination
can be opened and is not the source, and the extraction succeeds without a row in the
destination. -/
theorem extract_discarded : discardingTree.read "a" = .ok (Text.Utf8.encode "X\n") ∧
    (∀ line ∈ (Cut.ofContent (Text.Utf8.encode "X\n")).lines, isText line = true) ∧
    taggedRows "X" (Cut.ofContent (Text.Utf8.encode "X\n")).lines = ["X"] ∧
    (∃ opened, discardingTree.openWrite true "d" = .ok opened) ∧
    ¬ discardingTree.SamePlace "a" "d" ∧
    (extract "a" "X" "d" .truncate discardingTree).1 = .ok 1 ∧
    (extract "a" "X" "d" .truncate discardingTree).2.read "d" = .ok [] := by
  refine ⟨ok_of_toOption (by decide +kernel), by decide +kernel, by decide +kernel, ?_,
    by decide +kernel, ok_of_toOption (by decide +kernel), ok_of_toOption (by decide +kernel)⟩
  exact ⟨([.text "dev", .text "null"], discardingTree), ok_of_toOption (by decide +kernel)⟩

end Extraction

end SweepPlot
