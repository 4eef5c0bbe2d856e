import SweepPlot.Proofs.Extraction.Lines

/-!
# Rows that are held back

Rows reach a file in blocks: they are held back until a block is full, and what is held back goes to
the file at the end, also when a line that is no text ends the extraction. `Feedback.written` is
what has been written so far, be it in the file or not. Writing adds to it at its end
(`written_put`), so that no row is lost or written twice (`flush_takeLines`).
-/

namespace SweepPlot.Extraction.Feedback

/-- What has been written, in the file or held back. -/
def written (f : Feedback) : Bytes := f.content ++ f.held.reverse.flatten

/-- The room that is left and the bytes that are held back make up a block. -/
def Balanced (f : Feedback) : Prop := f.room + f.held.flatten.length = blockSize

variable {f : Feedback}

theorem balanced_ofContent (content : Bytes) : (ofContent content).Balanced := rfl

theorem written_ofContent (content : Bytes) : (ofContent content).written = content := by
  simp [written, ofContent]

theorem flush_content (f : Feedback) : f.flush.content = f.written := rfl

theorem balanced_flush (f : Feedback) : f.flush.Balanced := rfl

/-- Writing when there is room adds the bytes at the end. -/
theorem put_of_room (hf : f.Balanced) {bytes : Bytes} (hroom : bytes.length ≤ f.room) :
    (f.put bytes).Balanced ∧ (f.put bytes).written = f.written ++ bytes := by
  unfold Balanced at hf
  unfold put
  rw [if_neg (Nat.not_lt.2 hroom)]
  by_cases hblock : blockSize ≤ bytes.length
  · -- such a row fills a block, so that none is held back before it
    have hheld : f.held.flatten = [] := List.eq_nil_of_length_eq_zero (by omega)
    have hreverse : f.held.reverse.flatten = [] := by
      rw [List.flatten_eq_nil_iff] at hheld ⊢
      intro row hrow
      exact hheld row (List.mem_reverse.1 hrow)
    rw [if_pos hblock]
    exact ⟨hf, by simp [written, hreverse]⟩
  · rw [if_neg hblock]
    constructor
    · simp only [Balanced, List.flatten_cons, List.length_append]
      omega
    · simp [written]

/-- Writing adds the bytes at the end of what has been written. -/
theorem written_put (hf : f.Balanced) (bytes : Bytes) :
    (f.put bytes).Balanced ∧ (f.put bytes).written = f.written ++ bytes := by
  by_cases hroom : f.room < bytes.length
  · have hput : f.put bytes = if blockSize ≤ bytes.length then
        { f.flush with content := f.flush.content ++ bytes }
        else { f.flush with
          held := bytes :: f.flush.held, room := f.flush.room - bytes.length } := by
      unfold put
      rw [if_pos hroom]
    rw [hput]
    split
    · exact ⟨balanced_flush f, by simp [written, flush]⟩
    · rename_i hblock
      refine ⟨?_, by simp [written, flush]⟩
      simp only [Balanced, flush, List.flatten_cons, List.flatten_nil, List.append_nil]
      omega
  · exact put_of_room hf (Nat.not_lt.1 hroom)

/-- A line that is text is written as its row, if it carries the tag. -/
theorem written_takeLine (tag : String) (hf : f.Balanced) {bytes : Bytes}
    (h : isText bytes = true) : ∃ g, f.takeLine tag bytes = some g ∧ g.Balanced ∧
      g.written = f.written ++ rowBytes (taggedRows tag [bytes]) := by
  obtain ⟨line, hd⟩ := Option.isSome_iff_exists.1 h
  rw [taggedRows_cons hd]
  unfold takeLine
  rw [hd]
  by_cases htag : occursIn tag.toList line.toList = true
  · obtain ⟨hrow, hwritten⟩ := written_put hf (Text.Utf8.encode (String.ofList (row line.toList)))
    obtain ⟨hend, hwritten'⟩ := written_put hrow [0x0a]
    rw [hwritten] at hwritten'
    simp only [Option.map_some, htag, if_true]
    -- counting the row changes neither the room nor what has been written
    generalize (f.put (Text.Utf8.encode (String.ofList (row line.toList)))).put [0x0a] = g at *
    refine ⟨{ g with rows := g.rows + 1 }, rfl, hend, ?_⟩
    have hrows : { g with rows := g.rows + 1 }.written = g.written := rfl
    rw [hrows, hwritten', List.append_assoc]
    simp [taggedRows, rowBytes]
  · exact ⟨f, by simp [htag], hf, by simp [htag, taggedRows, rowBytes]⟩

/-- The lines of a block are written as the rows of those before the first that is no text. -/
theorem written_takeLines (tag : String) (hf : f.Balanced) (ls : List Bytes) :
    (f.takeLines tag ls).1.written =
        f.written ++ rowBytes (taggedRows tag (ls.takeWhile isText)) ∧
      (f.takeLines tag ls).2 = ls.all isText := by
  induction ls generalizing f with
  | nil => simp [takeLines, taggedRows, rowBytes]
  | cons bytes ls ih =>
    unfold takeLines
    by_cases htext : isText bytes = true
    · obtain ⟨g, htake, hg, hwritten⟩ := written_takeLine tag hf htext
      obtain ⟨hrest, hall⟩ := ih hg
      have hrows : taggedRows tag (bytes :: ls.takeWhile isText) =
          taggedRows tag [bytes] ++ taggedRows tag (ls.takeWhile isText) :=
        taggedRows_append tag [bytes] (ls.takeWhile isText)
      rw [htake, List.takeWhile_cons_of_pos htext, hrows, List.all_cons, htext, Bool.true_and]
      simp only [hrest, hall, hwritten]
      simp [rowBytes]
    · have hd : Text.Utf8.decode? bytes = none := by simpa [isText] using htext
      have hno : isText bytes = false := by simpa using htext
      simp [takeLine, hd, hno, taggedRows, rowBytes]

/-- A writer that holds rows back has written all of them in the end, each once and in order. -/
theorem flush_takeLines (tag : String) (start : Bytes) (ls : List Bytes) :
    ((ofContent start).takeLines tag ls).1.flush.content =
      start ++ rowBytes (taggedRows tag (ls.takeWhile isText)) := by
  rw [flush_content, (written_takeLines tag (balanced_ofContent start) ls).1, written_ofContent]

end SweepPlot.Extraction.Feedback
