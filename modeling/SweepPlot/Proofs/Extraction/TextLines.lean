import SweepPlot.Proofs.Extraction.Lines
import SweepPlot.Proofs.Text.Ascii

/-!
# Lines and rows of a text

A source that is text can be cut into lines before or after it is written in bytes.

* `textLines` are the lines of a text, and `lines_encode` says that they are those of its bytes, so
  that a scan of the bytes gives the `textRows` (`scan_encode`).
* A text that ends with a line adds its lines to those of whatever follows it
  (`textLines_append`).
* `rowText` is what rows are written as. The rows can be read off it (`split_rowText`), as none of
  them holds a line feed.
-/

namespace SweepPlot.Extraction

open Text

variable {tag a b s : String} {rows ended : List String} {last : String}

/-! ## Lines -/

/-- A line without the carriage return at its end. -/
def withoutReturn (line : String) : String :=
  if line.toList.getLast? = some '\r' then String.ofList line.toList.dropLast else line

/-- The lines of a text: what a line feed ends, without a carriage return before it, and what
follows the last line feed as it is, unless it is empty. -/
def textLines (s : String) : List String :=
  (split '\n' s).dropLast.map withoutReturn ++
    if (split '\n' s).getLastD "" = "" then [] else [(split '\n' s).getLastD ""]

theorem exists_split_eq (c : Char) (s : String) : ∃ ended last, split c s = ended ++ [last] := by
  rcases List.eq_nil_or_concat (split c s) with h | ⟨ended, last, h⟩
  · exact absurd h (split_ne_nil c s)
  · exact ⟨ended, last, h.trans (List.concat_eq_append ..)⟩

theorem textLines_of_split (h : split '\n' s = ended ++ [last]) :
    textLines s = ended.map withoutReturn ++ if last = "" then [] else [last] := by
  rw [textLines, h, List.dropLast_concat, List.getLastD_concat]

/-- Only a line feed ends a line, and only before it a carriage return is left out. -/
example : textLines "a\r\n\nb\r" = ["a", "", "b\r"] := by decide

/-- What rows are written as: each has a line feed after it. -/
def rowText (rows : List String) : String := String.join (rows.map (· ++ "\n"))

theorem rowText_cons (row : String) (rows : List String) :
    rowText (row :: rows) = row ++ "\n" ++ rowText rows := by
  rw [rowText, List.map_cons, String.join_cons, rowText]

/-- The pieces of a text are the text again when the line feeds are put back. -/
theorem eq_rowText_append_of_split (h : split '\n' s = ended ++ [last]) :
    s = rowText ended ++ last := by
  have hjoin : ∀ ended : List String,
      "\n".intercalate (ended ++ [last]) = rowText ended ++ last := by
    intro ended
    induction ended with
    | nil => simp [rowText]
    | cons piece ended ih =>
      rw [List.cons_append, String.intercalate_cons_of_ne_nil (by simp), ih, rowText_cons,
        String.append_assoc, String.append_assoc, String.append_assoc]
  rw [← hjoin, ← h]
  exact (intercalate_split '\n' s).symm

theorem encode_rowText (rows : List String) : Utf8.encode (rowText rows) = rowBytes rows := by
  induction rows with
  | nil => rfl
  | cons row rows ih =>
    rw [rowText_cons, Utf8.encode_append, Utf8.encode_append, ih]
    rfl

/-- The carriage return at the end of a line is the byte at the end of its bytes. -/
theorem encode_withoutReturn (line : String) :
    Utf8.encode (withoutReturn line) = Feedback.dropReturn (Utf8.encode line) := by
  have hlast : (Utf8.encode line).getLast? = some 0x0d ↔ line.toList.getLast? = some '\r' :=
    Utf8.getLast?_encode_iff (c := '\r') (by decide)
  unfold withoutReturn Feedback.dropReturn
  by_cases h : line.toList.getLast? = some '\r'
  · rw [if_pos h, if_pos (hlast.2 h), Utf8.dropLast_encode (by decide) h]
  · rw [if_neg h, if_neg (mt hlast.1 h)]

/-- The lines of the bytes of a text are those of the text. -/
theorem lines_encode (s : String) :
    lines (Utf8.encode s) = (textLines s).map Utf8.encode := by
  obtain ⟨ended, last, h⟩ := exists_split_eq '\n' s
  have hfeed : ∀ piece ∈ ended ++ [last], (0x0a : UInt8) ∉ Utf8.encode piece := by
    intro piece hp hmem
    rw [← h] at hp
    exact delimiter_not_mem_of_mem_split hp
      ((Utf8.mem_encode_iff (c := '\n') (by decide)).1 hmem)
  rw [List.forall_mem_append, List.forall_mem_singleton] at hfeed
  -- the bytes of the pieces are a cut, as no other character has the byte of a line feed
  let cut : Cut (Utf8.encode s) :=
    { ended := ended.map Utf8.encode
      last := Utf8.encode last
      feed_not_mem_ended := List.forall_mem_map.2 hfeed.1
      feed_not_mem_last := hfeed.2
      content_eq := by
        conv => lhs; rw [eq_rowText_append_of_split h]
        rw [Utf8.encode_append, encode_rowText, rowBytes, List.flatMap_map] }
  rw [cut.lines_eq, Cut.lines, textLines_of_split h, List.map_append, List.map_map, List.map_map]
  congr 1
  · exact List.map_congr_left fun line _ => (encode_withoutReturn line).symm
  · simp only [cut, Utf8.encode_eq_nil_iff]
    split <;> rfl

/-! ## Texts after one another -/

/-- The text ends with a line, so that what follows it is on a line of its own. -/
def EndsLine (s : String) : Prop := s = "" ∨ s.toList.getLast? = some '\n'

theorem textLines_empty : textLines "" = [] := by decide

/-- After the end of a line there are the lines of what follows. -/
theorem textLines_append (h : EndsLine a) (b : String) :
    textLines (a ++ b) = textLines a ++ textLines b := by
  rcases h with rfl | h
  · rw [String.empty_append, textLines_empty, List.nil_append]
  · obtain ⟨init, hinit⟩ := List.getLast?_eq_some_iff.1 h
    obtain rfl : a = String.ofList init ++ '\n'.toString := String.toList_inj.1 (by simp [hinit])
    obtain ⟨ended, last, hb⟩ := exists_split_eq '\n' b
    -- the last piece of `a` is empty, and what follows `a` starts a piece of its own
    have hends : split '\n' (String.ofList init ++ '\n'.toString) =
        split '\n' (String.ofList init) ++ [""] := by
      have := split_append_delimiter '\n' (String.ofList init) ""
      rwa [String.append_empty] at this
    have hwhole : split '\n' (String.ofList init ++ '\n'.toString ++ b) =
        (split '\n' (String.ofList init) ++ ended) ++ [last] := by
      rw [split_append_delimiter, hb, List.append_assoc]
    rw [textLines_of_split hwhole, textLines_of_split hends, textLines_of_split hb]
    simp

/-! ## Rows -/

/-- The rows of the lines of a text that carry the tag. -/
def textRows (tag s : String) : List String :=
  ((textLines s).filter fun line => occursIn tag.toList line.toList).map fun line =>
    String.ofList (row line.toList)

/-- A scan of the bytes of a text meets text only and gives the rows of the text. -/
theorem scan_encode (tag s : String) :
    scan tag (lines (Utf8.encode s)) = (textRows tag s, true) := by
  rw [lines_encode, textRows]
  induction textLines s with
  | nil => rfl
  | cons line ls ih =>
    rw [List.map_cons, scan, Utf8.decode?_encode, List.filter_cons]
    simp only [ih]
    split <;> rfl

/-- The number of lines that carry the tag. -/
def tagCount (tag : String) (ls : List String) : Nat :=
  ls.countP fun line => occursIn tag.toList line.toList

theorem length_textRows (tag s : String) :
    (textRows tag s).length = tagCount tag (textLines s) := by
  rw [textRows, List.length_map, tagCount, List.countP_eq_length_filter]

/-- Several texts give as many rows as they have lines that carry the tag. -/
theorem length_flatMap_textRows (tag : String) (texts : List String) :
    (texts.flatMap (textRows tag)).length = tagCount tag (texts.flatMap textLines) := by
  induction texts with
  | nil => rfl
  | cons s texts ih =>
    rw [List.flatMap_cons, List.flatMap_cons, List.length_append, ih, length_textRows, tagCount,
      tagCount, tagCount, List.countP_append]

theorem textRows_append (tag : String) (h : EndsLine a) (b : String) :
    textRows tag (a ++ b) = textRows tag a ++ textRows tag b := by
  simp [textRows, textLines_append h]

/-- Texts that end with lines, except the last one, give their rows when they are joined. -/
theorem textRows_join (tag : String) {texts : List String}
    (h : ∀ s ∈ texts.dropLast, EndsLine s) :
    textRows tag (String.join texts) = texts.flatMap (textRows tag) := by
  induction texts with
  | nil => simp [textRows, textLines_empty]
  | cons s texts ih =>
    cases texts with
    | nil => simp
    | cons s' texts =>
      rw [List.dropLast_cons_of_ne_nil (List.cons_ne_nil _ _), List.forall_mem_cons] at h
      rw [String.join_cons, textRows_append tag h.1, ih h.2, ← List.flatMap_cons]

theorem not_mem_row {c : Char} (hc : c ≠ fieldDelimiter) {line : List Char} (h : c ∉ line) :
    c ∉ row line := by
  unfold row
  split
  · generalize hps : ((pieces fieldDelimiter line).drop 2).take 2 = fields
    have hrow : [fieldDelimiter].intercalate fields =
        ("\t".intercalate (fields.map String.ofList)).toList := by
      simp [String.toList_intercalate, fieldDelimiter]
    rw [hrow, mem_intercalate (by simpa [fieldDelimiter] using hc)]
    rintro ⟨text, htext, hmem⟩
    obtain ⟨field, hfield, rfl⟩ := List.mem_map.1 htext
    rw [← hps] at hfield
    rw [String.toList_ofList] at hmem
    exact h (mem_of_mem_pieces (List.mem_of_mem_drop (List.mem_of_mem_take hfield)) hmem)
  · exact h

theorem feed_not_mem_of_mem_textLines {line : String} (h : line ∈ textLines s) :
    '\n' ∉ line.toList := by
  obtain ⟨ended, last, hs⟩ := exists_split_eq '\n' s
  have hclean : ∀ piece ∈ ended ++ [last], '\n' ∉ piece.toList := by
    rw [← hs]
    exact fun piece hp => delimiter_not_mem_of_mem_split hp
  rw [List.forall_mem_append, List.forall_mem_singleton] at hclean
  rw [textLines_of_split hs, List.mem_append, List.mem_map] at h
  rcases h with ⟨piece, hpiece, rfl⟩ | h
  · unfold withoutReturn
    split
    · rw [String.toList_ofList]
      exact fun hmem => hclean.1 piece hpiece ((List.dropLast_subset _) hmem)
    · exact hclean.1 piece hpiece
  · split at h
    · cases h
    · exact List.mem_singleton.1 h ▸ hclean.2

/-- A row is one line. -/
theorem feed_not_mem_of_mem_textRows {r : String} (h : r ∈ textRows tag s) : '\n' ∉ r.toList := by
  obtain ⟨line, hline, rfl⟩ := List.mem_map.1 h
  rw [String.toList_ofList]
  exact not_mem_row (by decide) (feed_not_mem_of_mem_textLines (List.mem_filter.1 hline).1)

/-- What is between the line feeds of written rows are the rows. -/
theorem split_rowText (h : ∀ r ∈ rows, '\n' ∉ r.toList) :
    split '\n' (rowText rows) = rows ++ [""] := by
  induction rows with
  | nil => rfl
  | cons r rows ih =>
    rw [List.forall_mem_cons] at h
    have hr : split '\n' r = [r] := by simp [split, pieces_of_not_mem h.1]
    have := split_append_delimiter '\n' r (rowText rows)
    rw [rowText_cons]
    exact this.trans (by rw [hr, ih h.2, List.singleton_append, List.cons_append])

/-- There are as many line feeds as rows. -/
theorem count_feed_rowText (h : ∀ r ∈ rows, '\n' ∉ r.toList) :
    (rowText rows).toList.count '\n' = rows.length := by
  have hlength := length_pieces '\n' (rowText rows).toList
  have hsplit := congrArg List.length (split_rowText h)
  rw [split, List.length_map, hlength, List.length_append, List.length_singleton] at hsplit
  exact Nat.add_right_cancel hsplit

end SweepPlot.Extraction
