import SweepPlot.Template
import SweepPlot.Text.Split

/-!
# Scripts of one line

A plotting program reads a script line by line, so the whole script should stand on one line, with
the line feed that ends it (`Text.IsLine`). Quoting keeps every line feed, and the rest of a script
adds none but the last one: the script is a line exactly if no setting and no text of a curve holds
a line feed (`Script.isLine_text_iff`).
-/

namespace SweepPlot

namespace Text

/-- The text is a line: its only line feed is its last character. -/
def IsLine (s : String) : Prop := ∃ line, '\n' ∉ line.toList ∧ s = line ++ "\n"

theorem isLine_append_feed {s : String} : IsLine (s ++ "\n") ↔ '\n' ∉ s.toList := by
  constructor
  · rintro ⟨line, hline, heq⟩
    rwa [(String.append_left_inj _).1 heq]
  · exact fun h => ⟨s, h, rfl⟩

/-- Backslashes are all that is added to a text. -/
theorem mem_escape {x : Char} (hx : x ≠ '\\') {s : List Char} : x ∈ escape s ↔ x ∈ s := by
  induction s with
  | nil => rfl
  | cons c s ih =>
    unfold escape
    split <;> simp [ih, hx]

theorem mem_quote {x : Char} (hx : x ≠ '\\') (hquote : x ≠ '"') {s : List Char} :
    x ∈ quote s ↔ x ∈ s := by
  simp [quote, mem_escape hx, hquote]

end Text

/-- The text of a curve has the line feeds of its parts. -/
theorem Series.feed_mem_text {c : Series} : '\n' ∈ c.text.toList ↔
    '\n' ∈ c.path.toList ∨ '\n' ∈ c.style.toList ∨ '\n' ∈ c.title.toList := by
  have hquote : ∀ s : String, '\n' ∈ Text.quote s.toList ↔ '\n' ∈ s.toList := fun s =>
    Text.mem_quote (by decide) (by decide)
  simp [text, hquote]

/-- A script is a line exactly if none of its parts holds a line feed. -/
theorem Script.isLine_text_iff {s : Script} : Text.IsLine s.text ↔
    (∀ d ∈ s.directives, '\n' ∉ d.toList) ∧
      ∀ c ∈ s.series, '\n' ∉ c.path.toList ∧ '\n' ∉ c.style.toList ∧ '\n' ∉ c.title.toList := by
  have hpreamble : '\n' ∈ s.preamble.toList ↔ ∃ d ∈ s.directives, '\n' ∈ d.toList := by
    rw [preamble, String.toList_append, String.toList_join, List.flatMap_map, List.mem_append,
      List.mem_flatMap]
    simp
  have hseries : '\n' ∈ (", ".intercalate (s.series.map Series.text)).toList ↔
      ∃ c ∈ s.series, '\n' ∈ c.text.toList := by
    rw [Text.mem_intercalate (by decide)]
    constructor
    · rintro ⟨text, htext, hfeed⟩
      obtain ⟨c, hc, rfl⟩ := List.mem_map.1 htext
      exact ⟨c, hc, hfeed⟩
    · rintro ⟨c, hc, hfeed⟩
      exact ⟨c.text, List.mem_map_of_mem hc, hfeed⟩
  rw [text, Text.isLine_append_feed, String.toList_append, List.mem_append, hpreamble, hseries]
  simp [Series.feed_mem_text]

/-! ## Settings -/

namespace Template

/-- The texts that a template may leave out. -/
def optionalTexts (t : Template) : List (Option String) :=
  [t.bottomMargin, t.xrange, t.yrange, t.formatX, t.formatY, t.xlabel, t.ylabel, t.key]

/-- The texts of a template. -/
def texts (t : Template) : List String := t.size :: t.optionalTexts.filterMap id

/-- The settings have no line feeds but those of the texts of the template. -/
theorem feed_not_mem_directives {t : Template} (h : ∀ text ∈ t.texts, '\n' ∉ text.toList) :
    ∀ d ∈ t.directives, '\n' ∉ d.toList := by
  have hsize : '\n' ∉ t.size.toList := h t.size List.mem_cons_self
  have hflag : ∀ (b : Bool) (setting : String), '\n' ∉ setting.toList →
      ∀ d ∈ (if b then [setting] else []), '\n' ∉ d.toList := by
    intro b setting hs d hd
    cases b with
    | false => cases hd
    | true => exact List.mem_singleton.1 hd ▸ hs
  have hoption : ∀ o ∈ t.optionalTexts, ∀ setting : String → String,
      (∀ text, '\n' ∉ text.toList → '\n' ∉ (setting text).toList) →
      ∀ d ∈ (o.map setting).toList, '\n' ∉ d.toList := by
    intro o ho setting hsetting d hd
    obtain ⟨text, rfl, rfl⟩ := Option.map_eq_some_iff.1 (Option.mem_toList.1 hd)
    exact hsetting text
      (h text (List.mem_cons_of_mem _ (List.mem_filterMap.2 ⟨some text, ho, rfl⟩)))
  simp only [directives, List.append_assoc, List.forall_mem_append]
  refine ⟨by simp [hsize], hflag _ _ (by decide), hflag _ _ (by decide), hoption _ ?_ _ ?_,
    hoption _ ?_ _ ?_, hoption _ ?_ _ ?_, hoption _ ?_ _ ?_, hoption _ ?_ _ ?_, hoption _ ?_ _ ?_,
    hoption _ ?_ _ ?_, hoption _ ?_ _ ?_⟩ <;> simp [optionalTexts]

end Template

end SweepPlot
