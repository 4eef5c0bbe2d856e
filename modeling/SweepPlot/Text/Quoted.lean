/-!
# Double-quoted strings

Inside a quoted string a backslash makes the next character literal, and the first quote that is
not made literal ends the string. `quote` writes a text so, and `readQuoted` reads it back together
with what follows (`readQuoted_quote`).
-/

namespace SweepPlot.Text

/-- The text with a backslash before every quote and every backslash. -/
def escape : List Char → List Char
  | [] => []
  | c :: cs => if c = '"' ∨ c = '\\' then '\\' :: c :: escape cs else c :: escape cs

/-- The text as a quoted string. -/
def quote (s : List Char) : List Char := '"' :: escape s ++ ['"']

/-- The text up to the quote that ends it, and what follows the quote. -/
def readQuotedBody : List Char → Option (List Char × List Char)
  | [] => none
  | '"' :: rest => some ([], rest)
  | '\\' :: c :: rest => (readQuotedBody rest).map fun (s, r) => (c :: s, r)
  | '\\' :: [] => none
  | c :: rest => (readQuotedBody rest).map fun (s, r) => (c :: s, r)

/-- The text of the quoted string at the front, and what follows it. -/
def readQuoted : List Char → Option (List Char × List Char)
  | '"' :: rest => readQuotedBody rest
  | _ => none

theorem readQuotedBody_escape (s rest : List Char) :
    readQuotedBody (escape s ++ '"' :: rest) = some (s, rest) := by
  induction s with
  | nil => simp [escape, readQuotedBody]
  | cons c cs ih =>
    unfold escape
    split
    · simp [readQuotedBody, ih]
    · rename_i h
      simp only [not_or] at h
      simp only [List.cons_append]
      rw [readQuotedBody.eq_5 _ _ (fun e => h.1 e) (fun _ _ e _ => h.2 e) (fun e _ => h.2 e), ih]
      rfl

/-- Reading a quoted string gives its text back, whatever follows. -/
theorem readQuoted_quote (s rest : List Char) :
    readQuoted (quote s ++ rest) = some (s, rest) := by
  simp [quote, readQuoted, readQuotedBody_escape]

end SweepPlot.Text
