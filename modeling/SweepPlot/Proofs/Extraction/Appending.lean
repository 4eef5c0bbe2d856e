import SweepPlot.Proofs.Extraction.Outcome
import SweepPlot.Proofs.Extraction.TextLines

/-!
# Rows of several sources in one file

A data file can hold the rows of several sources: those of the first replace what it held, and those
of the others are added.

* `extractAll` is an extraction from each of some sources, one after the other.
* `extract_text` is one of them from a source that is text, and `extractAll_append` any number of
  them, by induction on the sources.
* `extractAll_rows` says that the file then holds the rows of all sources, in their order and each
  on a line of its own, and compares this with one source that holds all of the texts.
-/

namespace SweepPlot.Extraction

open FileTree Text

variable {source dest s : String} {mode : WriteMode} {t t₁ u : FileTree} {loc : Location}
  {start acc : Bytes}

/-- Extract from sources into one destination, in a mode from the first and by appending from the
others, as long as nothing fails. The result are the numbers of rows. -/
def extractAll (tag dest : String) (mode : WriteMode) :
    List String → FileTree → Except Failure (List Nat) × FileTree
  | [], t => (.ok [], t)
  | source :: sources, t =>
    match extract source tag dest mode t with
    | (.error failure, t) => (.error failure, t)
    | (.ok n, t) =>
      let (result, t) := extractAll tag dest .append sources t
      (result.map (n :: ·), t)

/-- The path leads to a text, in another file than the one at a location. -/
def ReadsElsewhere (t : FileTree) (loc : Location) (path text : String) : Prop :=
  t.read path = .ok (Utf8.encode text) ∧ t.openRead path ≠ .ok loc

/-- An extraction from a text adds its rows to what the opened destination holds. -/
theorem extract_text (tag : String) (hs : ReadsElsewhere t loc source s)
    (hwrite : t.openWrite (mode == .truncate) dest = .ok (loc, t₁))
    (hstart : t₁.lookup loc = some (.file start)) :
    ∃ t', extract source tag dest mode t = (.ok (tagCount tag (textLines s)), t') ∧
      Agree (· = loc) t t' ∧
      t'.lookup loc = some (.file (start ++ rowBytes (textRows tag s))) := by
  obtain ⟨origin, hopen, hcontent, hne⟩ := read_elsewhere_iff.1 hs
  obtain ⟨-, -, -, -, hagree, hcase⟩ := openWrite_spec hwrite
  have hfull : t.lookup loc ≠ some (.device .full) := by
    intro hd
    rw [hd, hstart] at hcase
    simp at hcase
  have hscan := scan_encode tag s
  rw [scan_eq] at hscan
  obtain ⟨hrows, hall⟩ := Prod.mk.inj hscan
  have heq : extract source tag dest mode t =
      (.ok (tagCount tag (textLines s)), t₁.append loc (rowBytes (textRows tag s))) := by
    rw [extract_eq hopen hwrite hcontent hne hfull, outcome, if_pos hall, hrows, length_textRows]
  obtain ⟨hagree', hend⟩ := append_spec hstart (rowBytes (textRows tag s))
  exact ⟨_, heq, hagree.trans hagree', hend⟩

/-- Extractions that append add the rows of all texts to what a written destination holds. -/
theorem extractAll_append (tag : String) {sources : List (String × String)}
    (hwrite : t.openWrite (mode == .truncate) dest = .ok (loc, t₁))
    (hsources : ∀ x ∈ sources, ReadsElsewhere t loc x.1 x.2)
    (hu : Agree (· = loc) t u) (hacc : u.lookup loc = some (.file acc)) :
    ∃ t', extractAll tag dest .append (sources.map Prod.fst) u =
        (.ok (sources.map fun x => tagCount tag (textLines x.2)), t') ∧ Agree (· = loc) t t' ∧
      t'.lookup loc =
        some (.file (acc ++ rowBytes (sources.flatMap fun x => textRows tag x.2))) := by
  -- each extraction opens the destination anew and finds there what the ones before it have left
  induction sources generalizing u acc with
  | nil => exact ⟨u, rfl, hu, by simpa [rowBytes] using hacc⟩
  | cons x sources ih =>
    rw [List.forall_mem_cons] at hsources
    have hsource : ReadsElsewhere u loc x.1 x.2 := read_of_agree hwrite hu hsources.1
    have hagain : u.openWrite (WriteMode.append == .truncate) dest = .ok (loc, u) :=
      openWrite_again hwrite hu hacc
    obtain ⟨u', hfirst, hagree, hl⟩ := extract_text tag hsource hagain hacc
    obtain ⟨t', hrest, hagree', hl'⟩ := ih hsources.2 (hu.trans hagree) hl
    refine ⟨t', ?_, hagree', ?_⟩
    · rw [List.map_cons, extractAll, hfirst]
      simp only [hrest]
      rfl
    · rw [hl', List.append_assoc]
      simp [rowBytes]

/-- **Appending is concatenation.** Extractions from any number of texts into one file, of which
the first empties the file and the others append, succeed and leave the rows of all texts in it, in
the order of the texts. Each row is on a line of its own, also the first one of a text after a text
that does not end with a line, so that there are as many line feeds as lines that carry the tag.
Nothing else changes. If all texts but the last end with a line, one extraction from a source that
holds them after one another leaves the same. -/
theorem extractAll_rows (tag dest : String) (t t₁ : FileTree) (loc : Location)
    (first : String × String) (rest : List (String × String))
    (hwrite : t.openWrite true dest = .ok (loc, t₁))
    (hfile : ∀ d, t.lookup loc ≠ some (.device d))
    (hsources : ∀ x ∈ first :: rest, ReadsElsewhere t loc x.1 x.2) :
    let sources := first :: rest
    let rows := sources.flatMap fun x => textRows tag x.2
    let count := tagCount tag (sources.flatMap fun x => textLines x.2)
    ∃ t', extractAll tag dest .truncate (sources.map Prod.fst) t =
        (.ok (sources.map fun x => tagCount tag (textLines x.2)), t') ∧
      Agree (· = loc) t t' ∧ t'.read dest = .ok (Utf8.encode (rowText rows)) ∧
      split '\n' (rowText rows) = rows ++ [""] ∧ (rowText rows).toList.count '\n' = count ∧
      ∀ whole, ReadsElsewhere t loc whole (String.join (sources.map Prod.snd)) →
        (∀ x ∈ sources.dropLast, EndsLine x.2) →
        ∃ t'', extract whole tag dest .truncate t = (.ok count, t'') ∧
          Agree (· = loc) t t'' ∧ t''.read dest = t'.read dest := by
  intro sources rows count
  rw [List.forall_mem_cons] at hsources
  have hwrite' : t.openWrite (WriteMode.truncate == .truncate) dest = .ok (loc, t₁) := hwrite
  have hempty : t₁.lookup loc = some (.file []) := lookup_openWrite hwrite' hfile
  obtain ⟨u, hfirst, hagree, hl⟩ := extract_text tag hsources.1 hwrite' hempty
  obtain ⟨t', hrest, hagree', hl'⟩ := extractAll_append tag hwrite' hsources.2 hagree hl
  have hread : t'.read dest = .ok (Utf8.encode (rowText rows)) := by
    rw [read_of_openWrite hwrite hagree' hl', encode_rowText]
    simp [rows, sources, rowBytes]
  have hclean : ∀ r ∈ rows, '\n' ∉ r.toList := by
    intro r hr
    obtain ⟨x, -, hx⟩ := List.mem_flatMap.1 hr
    exact feed_not_mem_of_mem_textRows hx
  have htexts : rows = (sources.map Prod.snd).flatMap (textRows tag) := by
    rw [List.flatMap_map]
  have hlength : rows.length = count := by
    rw [htexts, length_flatMap_textRows, List.flatMap_map]
  refine ⟨t', ?_, hagree', hread, split_rowText hclean, ?_, fun whole hwhole hends => ?_⟩
  · simp only [sources, List.map_cons, extractAll, hfirst, hrest]
    rfl
  · rw [count_feed_rowText hclean, hlength]
  · have hrows : textRows tag (String.join (sources.map Prod.snd)) = rows := by
      rw [textRows_join, htexts]
      rw [← List.map_dropLast]
      exact List.forall_mem_map.2 hends
    obtain ⟨t'', hone, hagree'', hl''⟩ := extract_text tag hwhole hwrite' hempty
    refine ⟨t'', ?_, hagree'', ?_⟩
    · rw [hone, ← length_textRows, hrows, hlength]
    · rw [hread, read_of_openWrite hwrite hagree'' hl'', hrows, encode_rowText, List.nil_append]

/-- A text that does not end with a line, two more of which the first does, and these two after one
another. -/
def parts : List (String × String) :=
  [("a", "T\t0\t1\t2"), ("b", "x\nT\t0\t3\t4\r\n"), ("c", "T"), ("bc", "x\nT\t0\t3\t4\r\nT")]

/-- Files with these texts, and one with rows from before. -/
def partsTree : FileTree where
  nodes := ([.text "d"], .file (Utf8.encode "old\n")) ::
    parts.map fun x => ([.text x.1], .file (Utf8.encode x.2))
  workDir := []

/-- The rows do not run into one another, and the two texts give what they give after one
another. -/
theorem extractAll_rows_parts :
    (∃ t', extractAll "T" "d" .truncate ["a", "b", "c"] partsTree = (.ok [1, 1, 1], t') ∧
      t'.read "d" = .ok (Utf8.encode "1\t2\n3\t4\nT\n")) ∧
    ∃ t' t'', extractAll "T" "d" .truncate ["b", "c"] partsTree = (.ok [1, 1], t') ∧
      extract "bc" "T" "d" .truncate partsTree = (.ok 2, t'') ∧ t''.read "d" = t'.read "d" := by
  have hwrite : partsTree.openWrite true "d" =
      .ok ([.text "d"], partsTree.set [.text "d"] (.file [])) := ok_of_toOption (by decide +kernel)
  have hfile : ∀ d, partsTree.lookup [.text "d"] ≠ some (.device d) := by
    have hl : partsTree.lookup [.text "d"] = some (.file (Utf8.encode "old\n")) := by
      decide +kernel
    rw [hl]
    simp
  have hfound : ∀ x ∈ parts, (partsTree.openRead x.1).toOption = some [.text x.1] ∧
      (partsTree.readAt [.text x.1]).toOption = some (Utf8.encode x.2) ∧
      [FileName.text x.1] ≠ [.text "d"] := by decide +kernel
  have hparts : ∀ x ∈ parts, ReadsElsewhere partsTree [.text "d"] x.1 x.2 := by
    intro x hx
    obtain ⟨hopen, hread, hne⟩ := hfound x hx
    exact read_elsewhere_iff.2 ⟨_, ok_of_toOption hopen, ok_of_toOption hread, hne⟩
  obtain ⟨t', hall, -, hread, -⟩ := extractAll_rows "T" "d" partsTree _ _ parts[0]
    [parts[1], parts[2]] hwrite hfile fun x hx => hparts x (by revert x; decide)
  obtain ⟨u', htwo, -, -, -, -, hwhole⟩ := extractAll_rows "T" "d" partsTree _ _ parts[1]
    [parts[2]] hwrite hfile fun x hx => hparts x (by revert x; decide)
  obtain ⟨u'', hone, -, hsame⟩ := hwhole "bc" (hparts parts[3] (by decide))
    (List.forall_mem_singleton.2 (.inr (by decide)))
  refine ⟨⟨t', ?_, ?_⟩, u', u'', ?_, ?_, hsame⟩
  · exact hall.trans (congrArg (·, t') (ok_of_toOption (by decide +kernel)))
  · exact hread.trans (ok_of_toOption (by decide +kernel))
  · exact htwo.trans (congrArg (·, u') (ok_of_toOption (by decide +kernel)))
  · exact hone.trans (congrArg (·, u'') (ok_of_toOption (by decide +kernel)))

end SweepPlot.Extraction
