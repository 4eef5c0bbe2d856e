import SweepPlot.Run

/-!
# Reading the curves of a script back

The plot command of a script names the curves one after the other, each as a quoted path, its style
and a quoted title. The command can be read back, as nothing in a path or a title ends a quoted
string early.

* `Series.read` reads one curve at the front of a text (`Series.read_text`).
* `Script.clause` is what follows the word that starts the plot command, and `Script.readClause`
  reads its curves.

Styles are not quoted, so that they may not hold a quote; those of the plots have none
(`quote_not_mem_entryStyle`). `Script.readClause_clause` says that reading gives back the curves
that a script was made of, whatever their paths and titles are.
-/

namespace SweepPlot

/-! ## Quoting as replacement -/

namespace Text

/-- The text with every `c` replaced by `r`. -/
def replace (c : Char) (r s : List Char) : List Char :=
  s.flatMap fun x => if x = c then r else [x]

/-- Escaping replaces backslashes first: in the other order the backslashes that are put before
quotes would be doubled. -/
theorem escape_eq_replace (s : List Char) :
    escape s = replace '"' ['\\', '"'] (replace '\\' ['\\', '\\'] s) := by
  induction s with
  | nil => rfl
  | cons c s ih =>
    have hcons : ∀ x r, replace x r (c :: s) = (if c = x then r else [c]) ++ replace x r s :=
      fun x r => List.flatMap_cons
    have happend : ∀ x r a b, replace x r (a ++ b) = replace x r a ++ replace x r b :=
      fun x r a b => List.flatMap_append
    rw [hcons, happend, ← ih, escape]
    by_cases hback : c = '\\'
    · subst hback
      rfl
    · by_cases hquote : c = '"'
      · subst hquote
        rfl
      · simp [hback, hquote, replace]

/-- What follows a quoted string is shorter than the text. -/
theorem length_lt_of_readQuotedBody {s text rest : List Char}
    (h : readQuotedBody s = some (text, rest)) : rest.length < s.length := by
  induction s using readQuotedBody.induct generalizing text with
  | case1 => cases h
  | case2 rest' =>
    cases h
    exact Nat.lt_succ_self _
  | case3 c rest' ih =>
    rw [readQuotedBody, Option.map_eq_some_iff] at h
    obtain ⟨⟨text', r⟩, hread, heq⟩ := h
    cases heq
    have := ih hread
    simp only [List.length_cons]
    omega
  | case4 => cases h
  | case5 c rest' hquote hpair hback ih =>
    rw [readQuotedBody.eq_5 _ _ hquote hpair hback, Option.map_eq_some_iff] at h
    obtain ⟨⟨text', r⟩, hread, heq⟩ := h
    cases heq
    have := ih hread
    simp only [List.length_cons]
    omega

theorem length_lt_of_readQuoted {s text rest : List Char}
    (h : readQuoted s = some (text, rest)) : rest.length < s.length := by
  unfold readQuoted at h
  split at h
  · have := length_lt_of_readQuotedBody h
    simp only [List.length_cons]
    omega
  · cases h

end Text

/-! ## One curve -/

namespace Series

/-- What stands between the style of a curve and its title. -/
def titleWord : List Char := [' ', 't', 'i', 't', 'l', 'e', ' ']

/-- The style in the text between the two quoted strings of a curve: it has a blank before it and
the word for the title after it. -/
def readStyle (between : List Char) : Option (List Char) :=
  let style := (between.drop 1).take (between.length - 1 - titleWord.length)
  if between = ' ' :: style ++ titleWord then some style else none

theorem readStyle_append (style : List Char) :
    readStyle (' ' :: style ++ titleWord) = some style := by
  have hstyle : ((' ' :: style ++ titleWord).drop 1).take
      ((' ' :: style ++ titleWord).length - 1 - titleWord.length) = style := by
    simp
  unfold readStyle
  simp only [hstyle, if_true]

/-- The curve at the front of a text, and what follows it. -/
def read (s : List Char) : Option (Series × List Char) :=
  match Text.readQuoted s with
  | none => none
  | some (path, rest) =>
    match readStyle (rest.takeWhile (· != '"')), Text.readQuoted (rest.dropWhile (· != '"')) with
    | some style, some (title, rest) =>
      some (⟨String.ofList path, String.ofList style, String.ofList title⟩, rest)
    | _, _ => none

theorem length_lt_of_read {s rest : List Char} {c : Series} (h : read s = some (c, rest)) :
    rest.length < s.length := by
  unfold read at h
  split at h
  · cases h
  · rename_i path rest' hpath
    split at h
    · rename_i style title rest'' hstyle htitle
      cases h
      have h₁ := Text.length_lt_of_readQuoted hpath
      have h₂ := Text.length_lt_of_readQuoted htitle
      have h₃ := (List.dropWhile_suffix (l := rest') (· != '"')).length_le
      omega
    · cases h

theorem toList_text (c : Series) : c.text.toList =
    Text.quote c.path.toList ++ ((' ' :: c.style.toList ++ titleWord) ++
      Text.quote c.title.toList) := by
  simp [text, titleWord]

/-- Reading a curve gives it back, whatever follows. -/
theorem read_text (c : Series) (hstyle : '"' ∉ c.style.toList) (rest : List Char) :
    read (c.text.toList ++ rest) = some (c, rest) := by
  have hfree : ∀ x ∈ ' ' :: c.style.toList ++ titleWord, (x != '"') = true := by
    intro x hx
    rw [bne_iff_ne]
    rintro rfl
    have hword : '"' ∉ titleWord := by decide
    simp [hstyle, hword] at hx
  obtain ⟨title, htitle⟩ : ∃ t, Text.quote c.title.toList ++ rest = '"' :: t := ⟨_, rfl⟩
  have hbetween : ((' ' :: c.style.toList ++ titleWord) ++
      (Text.quote c.title.toList ++ rest)).takeWhile (· != '"') =
        ' ' :: c.style.toList ++ titleWord := by
    rw [List.takeWhile_append_of_pos hfree, htitle]
    simp
  have hafter : ((' ' :: c.style.toList ++ titleWord) ++
      (Text.quote c.title.toList ++ rest)).dropWhile (· != '"') =
        Text.quote c.title.toList ++ rest := by
    rw [List.dropWhile_append_of_pos hfree, htitle]
    simp
  rw [toList_text, List.append_assoc, List.append_assoc, read, Text.readQuoted_quote]
  simp only [hbetween, hafter, readStyle_append, Text.readQuoted_quote, String.ofList_toList]

end Series

/-! ## All curves -/

namespace Script

/-- The text of the curves of a plot command, with the line feed that ends it. -/
def clause (s : Script) : String := ", ".intercalate (s.series.map Series.text) ++ "\n"

theorem text_eq (s : Script) : s.text = s.preamble ++ s.clause := String.append_assoc ..

/-- The curves of a text that has at least one: they are separated by a comma and a blank, and a
line feed ends the text. What follows a curve is always shorter than the text. -/
def readCurves (s : List Char) : Option (List Series) :=
  match Series.read s with
  | none => none
  | some (c, rest) =>
    if rest = ['\n'] then some [c]
    else if _h : rest.take 2 = [',', ' '] ∧ rest.length < s.length then
      (readCurves (rest.drop 2)).map (c :: ·)
    else none
termination_by s.length
decreasing_by
  rw [List.length_drop]
  omega

/-- The curves of a plot command. -/
def readClause (s : String) : Option (List Series) :=
  if s = "\n" then some [] else readCurves s.toList

theorem readCurves_last {s : List Char} {c : Series} (h : Series.read s = some (c, ['\n'])) :
    readCurves s = some [c] := by
  rw [readCurves, h]
  rfl

theorem readCurves_next {s rest : List Char} {c : Series}
    (h : Series.read s = some (c, ',' :: ' ' :: rest)) :
    readCurves s = (readCurves rest).map (c :: ·) := by
  have hshort := Series.length_lt_of_read h
  have hmore : ¬ ',' :: ' ' :: rest = ['\n'] := by simp
  have hnext : (',' :: ' ' :: rest).take 2 = [',', ' '] ∧
      (',' :: ' ' :: rest).length < s.length := ⟨rfl, hshort⟩
  rw [readCurves, h]
  simp only [if_neg hmore, dif_pos hnext]
  rfl

theorem readCurves_append {c : Series} {cs : List Series}
    (hstyle : ∀ c' ∈ c :: cs, '"' ∉ c'.style.toList) :
    readCurves ((", ".intercalate ((c :: cs).map Series.text)).toList ++ ['\n']) =
      some (c :: cs) := by
  induction cs generalizing c with
  | nil =>
    have hread := c.read_text (hstyle c List.mem_cons_self) ['\n']
    rw [List.map_singleton, String.intercalate_singleton, readCurves_last hread]
  | cons d ds ih =>
    have hrest := ih fun c' hc' => hstyle c' (List.mem_cons_of_mem _ hc')
    have htext : (", ".intercalate ((c :: d :: ds).map Series.text)).toList ++ ['\n'] =
        c.text.toList ++ (',' :: ' ' ::
          ((", ".intercalate ((d :: ds).map Series.text)).toList ++ ['\n'])) := by
      rw [List.map_cons, List.map_cons, String.intercalate_cons_cons]
      simp
    have hread := c.read_text (hstyle c List.mem_cons_self) (',' :: ' ' ::
      ((", ".intercalate ((d :: ds).map Series.text)).toList ++ ['\n']))
    rw [htext, readCurves_next hread, hrest]
    rfl

/-- Reading the plot command of a script gives its curves. -/
theorem readClause_eq {s : Script} (hstyle : ∀ c ∈ s.series, '"' ∉ c.style.toList) :
    readClause s.clause = some s.series := by
  unfold readClause clause
  cases hs : s.series with
  | nil => rfl
  | cons c cs =>
    have hne : ¬ ", ".intercalate ((c :: cs).map Series.text) ++ "\n" = "\n" := by
      intro heq
      have hmem : '"' ∈ (", ".intercalate ((c :: cs).map Series.text)).toList := by
        rw [Text.mem_intercalate (by decide)]
        refine ⟨c.text, List.mem_map_of_mem List.mem_cons_self, ?_⟩
        simp [Series.toList_text, Text.quote]
      have hempty : (", ".intercalate ((c :: cs).map Series.text)).toList = [] := by
        simpa using congrArg String.toList heq
      rw [hempty] at hmem
      cases hmem
    rw [if_neg hne, String.toList_append]
    exact readCurves_append (hs ▸ hstyle)

theorem foldl_addDirective (s : Script) (directives : List String) :
    directives.foldl addDirective s = { s with directives := s.directives ++ directives } := by
  induction directives generalizing s with
  | nil => simp
  | cons d ds ih => simp [ih, addDirective]

theorem foldl_addSeries (s : Script) (curves : List Series) :
    curves.foldl addSeries s = { s with series := s.series ++ curves } := by
  induction curves generalizing s with
  | nil => simp
  | cons c cs ih => simp [ih, addSeries]

end Script

theorem Plotter.quote_not_mem_entryStyle (index : Nat) :
    '"' ∉ (Plotter.entryStyle index).toList := by
  have hdash : '"' ∉ (Text.Decimal.text (Plotter.firstDashType + index)).toList := by
    rw [Text.Decimal.text, String.toList_ofList]
    exact Text.Decimal.not_mem_digits (by decide) _
  unfold Plotter.entryStyle
  rw [String.toList_append, List.mem_append, not_or]
  exact ⟨by decide, hdash⟩

/-- **A script gives its curves back.** After the settings and the word that starts the plot command
comes a text that reads as the curves that were added, in order, whatever their paths and titles
are, if no style holds a quote. So scripts with the same plot command have the same curves. The
styles of the plots hold none. -/
theorem Script.readClause_clause (directives : List String) (curves : List Series)
    (hstyle : ∀ c ∈ curves, '"' ∉ c.style.toList) :
    let s := curves.foldl addSeries (directives.foldl addDirective empty)
    s.text = String.join (directives.map (· ++ "; ")) ++ "plot " ++ s.clause ∧
      readClause s.clause = some curves ∧
      (∀ s' : Script, (∀ c ∈ s'.series, '"' ∉ c.style.toList) → s'.clause = s.clause →
        s'.series = curves) ∧
      (∀ index, '"' ∉ (Plotter.entryStyle index).toList) ∧ '"' ∉ Plotter.groupStyle.toList := by
  intro s
  have hs : s = ⟨directives, curves⟩ := by
    show curves.foldl addSeries (directives.foldl addDirective empty) = _
    rw [foldl_addDirective, foldl_addSeries]
    rfl
  have hread : readClause s.clause = some curves := by
    rw [hs]
    exact readClause_eq hstyle
  refine ⟨?_, hread, ?_, Plotter.quote_not_mem_entryStyle, by decide⟩
  · rw [text_eq, hs]
    rfl
  · intro s' hstyle' hclause
    have hread' := readClause_eq hstyle'
    rw [hclause, hread] at hread'
    exact (Option.some.inj hread').symm

/-- A path that ends in a backslash and a title that looks like the start of another curve. -/
def Script.misleadingCurves : List Series :=
  [⟨"/t/a\"b\\", "using 1:2", "c\", \"d\" title \\"⟩, ⟨"", "", ", "⟩]

theorem Script.readClause_clause_misleading :
    (∀ c ∈ misleadingCurves, '"' ∉ c.style.toList) ∧
      readClause (misleadingCurves.foldl addSeries
        (["set logscale x"].foldl addDirective empty)).clause = some misleadingCurves := by
  have hstyle : ∀ c ∈ misleadingCurves, '"' ∉ c.style.toList := by decide
  exact ⟨hstyle, (readClause_clause ["set logscale x"] misleadingCurves hstyle).2.1⟩

end SweepPlot
