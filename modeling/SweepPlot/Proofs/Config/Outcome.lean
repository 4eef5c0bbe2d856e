import Mathlib
import SweepPlot.Program
import SweepPlot.Proofs.Config.Fields
import SweepPlot.Proofs.Toml.Unambiguous

/-!
# What a configuration document gives

* `Sectioned` documents have tables for sections and name the form of log lines by a text.
* `Known` documents have no sections, fields or values but those of the `schema`, and `described` is
  the configuration that a document describes.
* `ofEntries_eq_ok_iff` says that exactly the known documents are accepted, as what they describe,
  and `ofEntries_of_reordered` that the order of sections and fields is of no importance.
* `configOf_of_file` and `configOf_of_none` add the directories of the command line.
* `document_outcome` puts these together.
-/

namespace SweepPlot.Config

open Toml NameMap

/-! ## Documents -/

/-- The entries of a table; no other value has entries. -/
def members : Toml.Value → Entries
  | .table _ es => es
  | _ => []

/-- The entries of the section with a title; a missing section has none. -/
def under (d : Entries) (title : String) : Entries := ((d.lookup title).map members).getD []

/-- The sections with their fields. -/
def schema : List (String × Schema) :=
  [("paths", pathsSchema), ("render", renderSchema), ("logging", loggingSchema)]

/-- All sections are known, and in each of them all fields, and these have values that they take. -/
def Known (d : Entries) : Prop :=
  ∀ title ∈ d.map (·.1), ∃ fields, schema.lookup title = some fields ∧ fields.Fits (under d title)

/-- The sections are tables, and the form of log lines, if it is given, is named by a text. -/
structure Sectioned (d : Entries) : Prop where
  tables : ∀ b ∈ d, b.1 ∈ schema.map (·.1) → ∃ form es, b.2 = .table form es
  format : ∀ v, ("format", v) ∈ under d "logging" → ∃ name, v = .string name

/-- The configuration that a document describes: each field that it gives has its value there, and
each other one its default. -/
def described (d : Entries) : Config where
  paths := pathsOf ⟨"results", "plots"⟩ (under d "paths")
  render := renderOf ⟨"gnuplot"⟩ (under d "render")
  logging := loggingOf ⟨"info", .pretty, false, false⟩ (under d "logging")

/-- The same sections with the same fields, in any order. -/
def Reordered (d d' : Entries) : Prop :=
  (d.map (·.1)).Perm (d'.map (·.1)) ∧ ∀ title, (under d title).Perm (under d' title)

variable {d d' : Entries} {c : Config}

theorem under_of_mem (hd : d.Unambiguous) {title : String} {v : Toml.Value} (h : (title, v) ∈ d) :
    under d title = members v := by
  rw [under, (lookup_eq_some_iff hd.keys (b := (title, v))).2 h]
  rfl

theorem pairwise_under (hd : d.Unambiguous) (title : String) :
    (under d title).Pairwise (·.1 ≠ ·.1) := by
  unfold under
  cases hv : d.lookup title with
  | none => exact .nil
  | some v =>
    cases v with
    | table form es => exact (Value.unambiguous_table_iff.1 (hd.lookup hv)).keys
    | _ => exact .nil

theorem known_iff (hd : d.Unambiguous) :
    Known d ↔ ∀ b ∈ d, ∃ fields, schema.lookup b.1 = some fields ∧ fields.Fits (members b.2) := by
  simp only [Known, List.forall_mem_map]
  refine forall₂_congr fun b hb => ?_
  rw [under_of_mem hd hb]

/-- A section that is a table sets the fields that its entries name. -/
theorem readSection_of_table {σ : Type} {title : String} {fields : Fields σ} {start : σ}
    {v : Toml.Value} (h : ∃ form es, v = .table form es) :
    readSection title fields start v = setEntries fields start (members v) := by
  obtain ⟨form, es, rfl⟩ := h
  rfl

/-- A known section can be read if its entries fit, and what it gives takes the place of what was
there. -/
theorem setEntry_sections (hs : Sectioned d) (hd : d.Unambiguous) {title : String} {v : Toml.Value}
    (h : (title, v) ∈ d) {c' : Config} :
    setEntry sections c (title, v) = .ok c' ↔
      if title = "paths" then
        pathsSchema.Fits (members v) ∧ c' = { c with paths := pathsOf defaultPaths (members v) }
      else if title = "render" then
        renderSchema.Fits (members v) ∧ c' = { c with render := renderOf defaultRender (members v) }
      else if title = "logging" then
        loggingSchema.Fits (members v) ∧
          c' = { c with logging := loggingOf defaultLogging (members v) }
      else False := by
  have hunder := under_of_mem hd h
  have hkeys : (members v).Pairwise (·.1 ≠ ·.1) := hunder ▸ pairwise_under hd title
  -- A section starts from the defaults, whatever `c` has.
  simp only [sections, setEntry_cons_eq_ok_iff, setEntry_nil_eq_ok_iff, bind_pure_eq_ok_iff]
  split_ifs with hpaths hrender hlogging
  · have htable := hs.tables _ h (by simp [schema, hpaths])
    simp only [readSection_of_table htable, setEntries_pathsFields hkeys, and_assoc,
      exists_and_left, exists_eq_left]
  · have htable := hs.tables _ h (by simp [schema, hrender])
    simp only [readSection_of_table htable, setEntries_renderFields hkeys, and_assoc,
      exists_and_left, exists_eq_left]
  · have htable := hs.tables _ h (by simp [schema, hlogging])
    subst hlogging
    have hformat := hunder ▸ hs.format
    simp only [readSection_of_table htable, setEntries_loggingFields hkeys hformat, and_assoc,
      exists_and_left, exists_eq_left]
  · rfl

/-- The configuration with the sections that a document has in their place. -/
def withSections (c : Config) (d : Entries) : Config where
  paths := fieldOr (fun v => some (pathsOf defaultPaths (members v))) d "paths" c.paths
  render := fieldOr (fun v => some (renderOf defaultRender (members v))) d "render" c.render
  logging := fieldOr (fun v => some (loggingOf defaultLogging (members v))) d "logging" c.logging

/-- A missing section is as good as an empty one. -/
theorem fieldOr_members {α : Type} (f : Entries → α) (d : Entries) (title : String) :
    fieldOr (fun v => some (f (members v))) d title (f []) = f (under d title) := by
  unfold fieldOr under
  cases d.lookup title <;> rfl

theorem withSections_default (d : Entries) : withSections default d = described d := by
  have hpaths := fieldOr_members (pathsOf defaultPaths) d "paths"
  have hrender := fieldOr_members (renderOf defaultRender) d "render"
  have hlogging := fieldOr_members (loggingOf defaultLogging) d "logging"
  exact (Config.mk.injEq ..).mpr ⟨hpaths, hrender, hlogging⟩

/-- Exactly the known documents are accepted, and as what they describe. -/
theorem ofEntries_eq_ok_iff (hd : d.Unambiguous) (hs : Sectioned d) :
    ofEntries d = .ok c ↔ Known d ∧ c = described d := by
  rw [known_iff hd, ← withSections_default]
  refine eq_ok_iff_of (setEntries_isOk_iff (fun b hb c => ?_) default)
    (setEntries_eq_result (fun c => rfl) ?_ hd.keys)
  · obtain ⟨title, v⟩ := b
    simp only [setEntry_sections hs hd hb, schema, lookup_cons_eq_ite, List.lookup_nil]
    split_ifs <;> simp
  · intro title v rest c c₁ hv hrest h
    rw [setEntry_sections hs hd hv] at h
    split_ifs at h with hpaths hrender hlogging
    · obtain ⟨-, rfl⟩ := h
      subst hpaths
      simp [withSections, fieldOr_cons, fieldOr_of_lookup hrest]
    · obtain ⟨-, rfl⟩ := h
      subst hrender
      simp [withSections, fieldOr_cons, fieldOr_of_lookup hrest]
    · obtain ⟨-, rfl⟩ := h
      subst hlogging
      simp [withSections, fieldOr_cons, fieldOr_of_lookup hrest]

/-! ## Order -/

theorem Reordered.symm (h : Reordered d d') : Reordered d' d :=
  ⟨h.1.symm, fun title => (h.2 title).symm⟩

/-- Sections can be moved as a whole. -/
theorem reordered_of_perm (hd : d.Unambiguous) (hd' : d'.Unambiguous) (h : d.Perm d') :
    Reordered d d' :=
  ⟨h.map _, fun title => by rw [under, under, lookup_eq_of_perm hd.keys hd'.keys h]⟩

theorem Known.of_reordered (h : Reordered d d') (hk : Known d) : Known d' := by
  intro title htitle
  obtain ⟨fields, hfields, hfits⟩ := hk title (h.1.mem_iff.2 htitle)
  exact ⟨fields, hfields, fun b hb => hfits b ((h.2 title).mem_iff.2 hb)⟩

theorem fieldOr_of_reordered {α : Type} (hd : d.Unambiguous) (hd' : d'.Unambiguous)
    (h : Reordered d d') (read : Toml.Value → Option α) (title key : String) (default : α) :
    fieldOr read (under d title) key default = fieldOr read (under d' title) key default := by
  rw [fieldOr, fieldOr,
    lookup_eq_of_perm (pairwise_under hd title) (pairwise_under hd' title) (h.2 title)]

theorem described_of_reordered (hd : d.Unambiguous) (hd' : d'.Unambiguous) (h : Reordered d d') :
    described d = described d' := by
  simp only [described, pathsOf, renderOf, loggingOf, fieldOr_of_reordered hd hd' h]

/-- The order of sections and of their fields is of no importance. -/
theorem ofEntries_of_reordered (hd : d.Unambiguous) (hs : Sectioned d) (hd' : d'.Unambiguous)
    (hs' : Sectioned d') (h : Reordered d d') : ofEntries d = .ok c ↔ ofEntries d' = .ok c := by
  rw [ofEntries_eq_ok_iff hd hs, ofEntries_eq_ok_iff hd' hs', described_of_reordered hd hd' h]
  exact and_congr_left fun _ => ⟨.of_reordered h, .of_reordered h.symm⟩

/-! ## Texts and invocations -/

/-- A text is accepted if its document is. -/
theorem parse_eq_ok_iff {text : String} (h : Document.parse text = some d) :
    parse text = .ok c ↔ ofEntries d = .ok c := by
  unfold parse
  rw [h]
  dsimp only
  split <;> simp_all

section

open Program

variable {i : Invocation} {t : FileTree}

theorem load_of_read {path text : String} (h : t.read path = .ok (Text.Utf8.encode text)) :
    load path t = parse text := by
  simp only [load, h, Text.Utf8.decode?_encode]

/-- With a configuration file, the directories of the command line come in place of those in the
file. -/
theorem configOf_of_file {path text : String} (hpath : i.config = some path)
    (hread : t.read path = .ok (Text.Utf8.encode text)) :
    configOf i t = .ok c ↔
      ∃ file, parse text = .ok file ∧ c = file.withDirs i.resultsDir i.plotsDir := by
  simp only [configOf, hpath, load_of_read hread, bind_pure_eq_ok_iff]

/-- Without a configuration file, they come in place of the default ones. -/
theorem configOf_of_none (h : i.config = none) :
    configOf i t = .ok (default.withDirs i.resultsDir i.plotsDir) := by
  simp only [configOf, h]
  rfl

end

/-- **What a configuration document gives.** Let a document have tables for sections, and name the
form of log lines by a text if at all. It is accepted exactly if there are no sections, fields or
values in it but those of the `schema`. Each field then has its value in the document, or else its
default, whatever else there is, and the order of sections and fields is of no importance. The same
holds of a text with the document, and of an invocation that names a file with the text: it works in
the directories of the command line, or else in those of the document, or else in the default ones,
as it does without a file. -/
theorem document_outcome :
    (∀ d, d.Unambiguous → Sectioned d →
      ∀ c, ofEntries d = .ok c ↔ Known d ∧ c = described d) ∧
    (∀ d d', d.Unambiguous → Sectioned d → d'.Unambiguous → Sectioned d' → Reordered d d' →
      ∀ c, ofEntries d = .ok c ↔ ofEntries d' = .ok c) ∧
    (∀ text d, Document.parse text = some d → Sectioned d →
      (∀ c, parse text = .ok c ↔ Known d ∧ c = described d) ∧
      ∀ i t path, i.config = some path → t.read path = .ok (Text.Utf8.encode text) →
        ((∃ c, Program.configOf i t = .ok c) ↔ Known d) ∧
        ∀ c, Program.configOf i t = .ok c →
          (Program.contextOf c i).resultsDir =
            i.resultsDir.getD (fieldOr text? (under d "paths") "results_dir" "results") ∧
          (Program.contextOf c i).plotsDir =
            i.plotsDir.getD (fieldOr text? (under d "paths") "plots_dir" "plots")) ∧
    ∀ i t, i.config = none → ∃ c, Program.configOf i t = .ok c ∧
      (Program.contextOf c i).resultsDir = i.resultsDir.getD "results" ∧
      (Program.contextOf c i).plotsDir = i.plotsDir.getD "plots" := by
  refine ⟨fun d hd hs c => ofEntries_eq_ok_iff hd hs,
    fun d d' hd hs hd' hs' h c => ofEntries_of_reordered hd hs hd' hs' h, ?_,
    fun i t h => ⟨_, configOf_of_none h, rfl, rfl⟩⟩
  intro text d htext hs
  have hparse : ∀ c, parse text = .ok c ↔ Known d ∧ c = described d := fun c =>
    (parse_eq_ok_iff htext).trans (ofEntries_eq_ok_iff (Document.parse_unambiguous htext) hs)
  refine ⟨hparse, fun i t path hpath hread => ?_⟩
  simp only [configOf_of_file hpath hread, hparse]
  constructor
  · exact ⟨fun ⟨_, _, ⟨hk, _⟩, _⟩ => hk, fun hk => ⟨_, _, ⟨hk, rfl⟩, rfl⟩⟩
  · rintro c ⟨file, ⟨-, rfl⟩, rfl⟩
    exact ⟨rfl, rfl⟩

/-- The text of a document with one field in each of two sections. -/
def briefText : String := "[paths]\nresults_dir = \"r\"\n[logging]\nformat = \"json\"\n"

/-- The document of this text. -/
def briefDocument : Entries :=
  [("paths", .table .header [("results_dir", .string "r")]),
    ("logging", .table .header [("format", .string "json")])]

/-- A tree with the text in a file. -/
def briefTree : FileTree := ⟨[([.text "c"], .file (Text.Utf8.encode briefText))], []⟩

/-- An invocation that names the file and a directory for plots. -/
def briefInvocation : Invocation := ⟨"1", "x", some "/c", none, some "p", .axes⟩

theorem parse_briefText : Document.parse briefText = some briefDocument := by cbv

theorem sectioned_briefDocument : Sectioned briefDocument where
  tables := by simp [briefDocument]
  format := by simp [briefDocument, under, lookup_cons_eq_ite, members]

theorem known_briefDocument : Known briefDocument := by
  simp [Known, briefDocument, under, lookup_cons_eq_ite, members, schema, Schema.Fits,
    Schema.Takes, pathsSchema, loggingSchema, text?, format?]

/-- Two fields have the values of the document, and all others their defaults, in either order of
the sections; the directory for plots is that of the invocation. -/
theorem document_outcome_brief :
    ofEntries briefDocument.reverse =
      .ok ⟨⟨"r", "plots"⟩, ⟨"gnuplot"⟩, ⟨"info", .json, false, false⟩⟩ ∧
    ∃ c, Program.configOf briefInvocation briefTree = .ok c ∧
      (Program.contextOf c briefInvocation).resultsDir = "r" ∧
      (Program.contextOf c briefInvocation).plotsDir = "p" := by
  obtain ⟨htree, horder, htext, -⟩ := document_outcome
  have hd := Document.parse_unambiguous parse_briefText
  have hs := sectioned_briefDocument
  have hperm := briefDocument.reverse_perm.symm
  have hd' := hd.of_perm hperm
  have hs' : Sectioned briefDocument.reverse :=
    ⟨by simp [briefDocument], by simp [briefDocument, under, members]⟩
  constructor
  · refine (horder _ _ hd hs hd' hs' (reordered_of_perm hd hd' hperm) _).1 ?_
    exact (htree _ hd hs _).2 ⟨known_briefDocument, rfl⟩
  · have hread : briefTree.read "/c" = .ok (Text.Utf8.encode briefText) := by decide +kernel
    obtain ⟨hok, hdirs⟩ := (htext _ _ parse_briefText hs).2 briefInvocation briefTree "/c" rfl
      hread
    obtain ⟨c, hc⟩ := hok.2 known_briefDocument
    exact ⟨c, hc, (hdirs c hc).1, (hdirs c hc).2⟩

end SweepPlot.Config
