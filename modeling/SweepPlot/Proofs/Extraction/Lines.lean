import SweepPlot.Extraction

/-!
# Lines, tags and rows

What `lines`, `occursIn`, `row` and `scan` give, said without their recursions.

* `Cut` is a content that is cut at its line feeds, and `Cut.lines` the lines that the pieces are;
  `lines` gives these (`Cut.lines_eq`).
* `occursIn` is the relation of being an infix (`occursIn_iff`), and `row` gives the third and
  fourth field (`row_intercalate`).
* `scan` stops at the first line that is no text: it gives the rows of the lines before it
  (`scan_eq`).
-/

namespace SweepPlot.Extraction

/-! ## Lines -/

/-- A content that is cut at its line feeds. -/
structure Cut (content : Bytes) where
  /-- The pieces that a line feed ends. -/
  ended : List Bytes
  /-- What follows the last line feed. -/
  last : Bytes
  feed_not_mem_ended : ∀ piece ∈ ended, 0x0a ∉ piece
  feed_not_mem_last : 0x0a ∉ last
  content_eq : content = ended.flatMap (· ++ [0x0a]) ++ last

/-- The lines that the pieces are: one carriage return before a line feed belongs to the end of the
line, and what follows the last line feed is a line as it is, unless it is empty. -/
def Cut.lines {content : Bytes} (c : Cut content) : List Bytes :=
  c.ended.map Feedback.dropReturn ++ if c.last = [] then [] else [c.last]

theorem Feedback.dropReturn_cons {b : UInt8} {piece : Bytes} (h : b = 0x0d → piece ≠ []) :
    dropReturn (b :: piece) = b :: dropReturn piece := by
  cases piece with
  | nil =>
    have hb : ¬ b = 0x0d := fun hb => h hb rfl
    simp [dropReturn, hb]
  | cons c piece =>
    unfold dropReturn
    rw [List.getLast?_cons_cons]
    split <;> simp

/-- A piece and its line feed are a line before those of the rest. -/
theorem lines_append_feed {piece : Bytes} (h : 0x0a ∉ piece) (rest : Bytes) :
    lines (piece ++ 0x0a :: rest) = Feedback.dropReturn piece :: lines rest := by
  induction piece with
  | nil => simp [lines, Feedback.dropReturn]
  | cons b piece ih =>
    rw [List.mem_cons, not_or] at h
    by_cases hreturn : b = 0x0d ∧ piece = []
    · obtain ⟨rfl, rfl⟩ := hreturn
      simp [lines, Feedback.dropReturn]
    · have hb : b = 0x0d → piece ≠ [] := fun hb hp => hreturn ⟨hb, hp⟩
      have hfeed : ∀ r, b = 0x0d → piece ++ 0x0a :: rest = 0x0a :: r → False := by
        intro r hb' heq
        cases piece with
        | nil => exact hb hb' rfl
        | cons c piece =>
          rw [List.cons_append] at heq
          exact h.2 ((List.cons.inj heq).1 ▸ List.mem_cons_self)
      rw [List.cons_append, lines.eq_4 _ _ (fun hb => h.1 hb.symm) hfeed, ih h.2,
        Feedback.dropReturn_cons hb]

/-- Without a line feed there is one line at most. -/
theorem lines_of_feed_not_mem {last : Bytes} (h : 0x0a ∉ last) :
    lines last = if last = [] then [] else [last] := by
  induction last with
  | nil => rfl
  | cons b last ih =>
    rw [List.mem_cons, not_or] at h
    have hfeed : ∀ r, b = 0x0d → last = 0x0a :: r → False := fun r _ heq =>
      h.2 (heq ▸ List.mem_cons_self)
    rw [lines.eq_4 _ _ (fun hb => h.1 hb.symm) hfeed, ih h.2, if_neg (List.cons_ne_nil b last)]
    cases last <;> rfl

/-- The lines of a content are those of its pieces. -/
theorem Cut.lines_eq {content : Bytes} (c : Cut content) : Extraction.lines content = c.lines := by
  obtain ⟨ended, last, hended, hlast, rfl⟩ := c
  unfold Cut.lines
  simp only
  induction ended with
  | nil => exact lines_of_feed_not_mem hlast
  | cons piece ended ih =>
    rw [List.forall_mem_cons] at hended
    rw [List.flatMap_cons, List.append_assoc, List.append_assoc, List.singleton_append,
      lines_append_feed hended.1, ih hended.2, List.map_cons, List.cons_append]

theorem Feedback.endedLines_spec (content : Bytes) :
    (∀ piece ∈ (endedLines content).1, 0x0a ∉ piece) ∧ 0x0a ∉ (endedLines content).2 ∧
      content = (endedLines content).1.flatMap (· ++ [0x0a]) ++ (endedLines content).2 := by
  induction content with
  | nil => simp [endedLines]
  | cons b rest ih =>
    obtain ⟨hended, hlast, heq⟩ := ih
    unfold endedLines
    by_cases hb : b = 0x0a
    · subst hb
      simp only [if_true]
      refine ⟨?_, hlast, ?_⟩
      · rw [List.forall_mem_cons]
        exact ⟨by simp, hended⟩
      · rw [List.flatMap_cons, List.append_assoc, ← heq]
        rfl
    · simp only [if_neg hb]
      cases hl : (endedLines rest).1 with
      | nil =>
        rw [hl] at heq
        refine ⟨by simp, by simp [hlast, Ne.symm hb], ?_⟩
        simpa using heq
      | cons line more =>
        rw [hl, List.forall_mem_cons] at hended
        rw [hl] at heq
        refine ⟨?_, hlast, ?_⟩
        · rw [List.forall_mem_cons]
          refine ⟨?_, hended.2⟩
          simp [hended.1, Ne.symm hb]
        · simp only [List.flatMap_cons, List.cons_append] at heq ⊢
          rw [← heq]

/-- Every content can be cut. -/
def Cut.ofContent (content : Bytes) : Cut content where
  ended := (Feedback.endedLines content).1
  last := (Feedback.endedLines content).2
  feed_not_mem_ended := (Feedback.endedLines_spec content).1
  feed_not_mem_last := (Feedback.endedLines_spec content).2.1
  content_eq := (Feedback.endedLines_spec content).2.2

/-! ## Tags and rows -/

theorem occursIn_iff {tag s : List Char} : occursIn tag s = true ↔ tag <:+: s := by
  induction s with
  | nil => simp [occursIn, List.infix_nil]
  | cons c s ih =>
    rw [occursIn, Bool.or_eq_true, ih, List.isPrefixOf_iff_prefix, List.infix_cons_iff]

theorem row_of_not_mem {line : List Char} (h : fieldDelimiter ∉ line) : row line = line := by
  unfold row
  rw [if_neg (by simpa using h)]

/-- The row of a line with several fields: the third and the fourth of them, as far as there are
any. -/
theorem row_intercalate {fields : List (List Char)} (hlen : 2 ≤ fields.length)
    (h : ∀ f ∈ fields, fieldDelimiter ∉ f) :
    row ([fieldDelimiter].intercalate fields) =
      [fieldDelimiter].intercalate ((fields.drop 2).take 2) := by
  have hmem : fieldDelimiter ∈ [fieldDelimiter].intercalate fields := by
    match fields, hlen with
    | _ :: _ :: _, _ =>
      rw [List.intercalate_cons_cons]
      simp
  have hne : fields ≠ [] := by
    rintro rfl
    simp at hlen
  unfold row
  rw [if_pos (by simpa using hmem), Text.pieces_intercalate hne h]

/-! ## Scans -/

/-- Whether a line is text. -/
def isText (line : Bytes) : Bool := (Text.Utf8.decode? line).isSome

/-- The rows of the lines that carry the tag. -/
def taggedRows (tag : String) (ls : List Bytes) : List String :=
  ((ls.filterMap Text.Utf8.decode?).filter fun line => occursIn tag.toList line.toList).map
    fun line => String.ofList (row line.toList)

theorem taggedRows_cons {tag line : String} {bytes : Bytes} {ls : List Bytes}
    (h : Text.Utf8.decode? bytes = some line) : taggedRows tag (bytes :: ls) =
      (if occursIn tag.toList line.toList then [String.ofList (row line.toList)] else []) ++
        taggedRows tag ls := by
  unfold taggedRows
  rw [List.filterMap_cons_some h, List.filter_cons]
  split <;> simp

theorem taggedRows_append (tag : String) (a b : List Bytes) :
    taggedRows tag (a ++ b) = taggedRows tag a ++ taggedRows tag b := by
  simp [taggedRows]

/-- A scan gives the rows of the lines before the first one that is no text. -/
theorem scan_eq (tag : String) (ls : List Bytes) :
    scan tag ls = (taggedRows tag (ls.takeWhile isText), ls.all isText) := by
  induction ls with
  | nil => rfl
  | cons bytes ls ih =>
    unfold scan
    cases hd : Text.Utf8.decode? bytes with
    | none =>
      have hno : isText bytes = false := by simp [isText, hd]
      simp [hno, taggedRows]
    | some line =>
      have htext : isText bytes = true := by simp [isText, hd]
      rw [List.takeWhile_cons_of_pos htext, taggedRows_cons hd]
      simp only [ih, List.all_cons, htext, Bool.true_and]
      split <;> simp

end SweepPlot.Extraction
