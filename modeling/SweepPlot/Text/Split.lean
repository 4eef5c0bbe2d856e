/-!
# Cutting text at a delimiter

* `pieces c` cuts a text at every `c`; there is one piece more than there are `c` in the text
  (`length_pieces`), and joining the pieces with `c` gives the text back (`intercalate_pieces`).
* `cut c` cuts a text at its first `c` only.

Both have a version on `String`, which is what the rest of the library uses.
-/

namespace SweepPlot.Text

/-- The pieces of a text between the delimiters `c`. -/
def pieces (c : Char) : List Char → List (List Char)
  | [] => [[]]
  | x :: xs =>
    if x = c then [] :: pieces c xs
    else match pieces c xs with
      | [] => [[x]]
      | p :: ps => (x :: p) :: ps

/-- The texts before and after the first `c`, if there is one. -/
def cut (c : Char) : List Char → Option (List Char × List Char)
  | [] => none
  | x :: xs => if x = c then some ([], xs) else (cut c xs).map fun (a, b) => (x :: a, b)

@[simp] theorem pieces_nil (c : Char) : pieces c [] = [[]] := rfl

theorem pieces_ne_nil (c : Char) (s : List Char) : pieces c s ≠ [] := by
  cases s with
  | nil => simp
  | cons x xs =>
    unfold pieces
    split
    · simp
    · split <;> simp

/-- No piece holds the delimiter. -/
theorem not_mem_of_mem_pieces {c : Char} {s p : List Char} (h : p ∈ pieces c s) : c ∉ p := by
  induction s generalizing p with
  | nil => simp_all
  | cons x xs ih =>
    unfold pieces at h
    split at h
    · rcases List.mem_cons.1 h with rfl | h
      · simp
      · exact ih h
    · rename_i hx
      split at h
      · simp_all [Ne.symm hx]
      · rename_i q qs hq
        rcases List.mem_cons.1 h with rfl | h
        · have := ih (p := q) (by simp [hq])
          simp_all [Ne.symm hx]
        · exact ih (by simp [hq, h])

/-- Joining the pieces of a text with their delimiter gives the text back. -/
theorem intercalate_pieces (c : Char) (s : List Char) : [c].intercalate (pieces c s) = s := by
  induction s with
  | nil => simp
  | cons x xs ih =>
    have hne := pieces_ne_nil c xs
    unfold pieces
    cases hp : pieces c xs with
    | nil => exact absurd hp hne
    | cons q qs =>
      rw [hp] at ih
      split
      · rename_i hx
        simp [List.intercalate_cons_cons, ih, hx]
      · cases qs with
        | nil => simp at ih ⊢; exact ih
        | cons r rs => simp [List.intercalate_cons_cons] at ih ⊢; exact ih

/-- There is one piece more than there are delimiters. -/
theorem length_pieces (c : Char) (s : List Char) : (pieces c s).length = s.count c + 1 := by
  induction s with
  | nil => rfl
  | cons x xs ih =>
    have hne := pieces_ne_nil c xs
    unfold pieces
    by_cases hx : x = c
    · rw [if_pos hx, List.length_cons, ih, hx, List.count_cons_self]
    · rw [if_neg hx, List.count_cons_of_ne hx, ← ih]
      cases hp : pieces c xs with
      | nil => exact absurd hp hne
      | cons p ps => rfl

/-- A text without the delimiter is its own only piece. -/
theorem pieces_of_not_mem {c : Char} {s : List Char} (h : c ∉ s) : pieces c s = [s] := by
  induction s with
  | nil => rfl
  | cons x xs ih =>
    have hx : ¬ x = c := fun e => h (by simp [e])
    simp [pieces, hx, ih fun m => h (List.mem_cons_of_mem _ m)]

/-- The pieces of a text with a delimiter in it are those before and those after it. -/
theorem pieces_append_delimiter (c : Char) (a b : List Char) :
    pieces c (a ++ c :: b) = pieces c a ++ pieces c b := by
  induction a with
  | nil => simp [pieces]
  | cons x xs ih =>
    have hne := pieces_ne_nil c xs
    rw [List.cons_append, pieces, pieces, ih]
    cases hp : pieces c xs with
    | nil => exact absurd hp hne
    | cons q qs => split <;> simp

/-- The pieces of a text that starts with a piece and its delimiter. -/
theorem pieces_append_cons {c : Char} {p : List Char} (h : c ∉ p) (s : List Char) :
    pieces c (p ++ c :: s) = p :: pieces c s := by
  rw [pieces_append_delimiter, pieces_of_not_mem h, List.singleton_append]

/-- Texts without the delimiter that are joined with it are the pieces of the whole. -/
theorem pieces_intercalate {c : Char} {ps : List (List Char)} (hne : ps ≠ [])
    (h : ∀ p ∈ ps, c ∉ p) : pieces c ([c].intercalate ps) = ps := by
  induction ps with
  | nil => exact absurd rfl hne
  | cons p ps ih =>
    rw [List.forall_mem_cons] at h
    cases ps with
    | nil => rw [List.intercalate_singleton, pieces_of_not_mem h.1]
    | cons q qs =>
      rw [List.intercalate_cons_cons, List.append_assoc, List.singleton_append,
        pieces_append_cons h.1, ih (by simp) h.2]

/-- A piece has no other characters than the text. -/
theorem mem_of_mem_pieces {c x : Char} {s p : List Char} (hp : p ∈ pieces c s) (hx : x ∈ p) :
    x ∈ s := by
  induction s generalizing p with
  | nil =>
    rw [pieces_nil, List.mem_singleton] at hp
    rwa [hp] at hx
  | cons y s ih =>
    unfold pieces at hp
    split at hp
    · rcases List.mem_cons.1 hp with rfl | hp
      · cases hx
      · exact List.mem_cons_of_mem _ (ih hp hx)
    · split at hp
      · rw [List.mem_singleton.1 hp, List.mem_singleton] at hx
        exact hx ▸ List.mem_cons_self
      · rename_i q qs hq
        rcases List.mem_cons.1 hp with rfl | hp
        · rcases List.mem_cons.1 hx with rfl | hx
          · exact List.mem_cons_self
          · exact List.mem_cons_of_mem _ (ih (by rw [hq]; exact List.mem_cons_self) hx)
        · exact List.mem_cons_of_mem _ (ih (by rw [hq]; exact List.mem_cons_of_mem _ hp) hx)

/-- The first cut gives the text back and leaves no delimiter before it. -/
theorem cut_eq_some_iff {c : Char} {s a b : List Char} :
    cut c s = some (a, b) ↔ s = a ++ c :: b ∧ c ∉ a := by
  induction s generalizing a with
  | nil => simp [cut]
  | cons x xs ih =>
    unfold cut
    split
    · rename_i hx
      subst hx
      constructor
      · intro h; simp at h; obtain ⟨rfl, rfl⟩ := h; simp
      · rintro ⟨h, hn⟩
        cases a with
        | nil => simp_all
        | cons y ys => simp at h; simp_all
    · rename_i hx
      rw [Option.map_eq_some_iff]
      constructor
      · rintro ⟨⟨a', b'⟩, h, e⟩
        simp at e
        obtain ⟨rfl, rfl⟩ := e
        obtain ⟨h, hn⟩ := ih.1 h
        simp [h, hn, Ne.symm hx]
      · rintro ⟨h, hn⟩
        cases a with
        | nil => simp at h; exact absurd h.1 hx
        | cons y ys =>
          simp at h hn
          exact ⟨(ys, b), ih.2 ⟨h.2, hn.2⟩, by simp [h.1]⟩

/-- The texts before and after the last delimiter are fixed by the whole. -/
theorem append_delimiter_inj {c : Char} {a b x y : List Char} (hx : c ∉ x) (hy : c ∉ y)
    (h : a ++ c :: x = b ++ c :: y) : a = b ∧ x = y := by
  -- the last delimiter is the first one from the end
  have hcut : ∀ {a x : List Char}, c ∉ x →
      cut c (a ++ c :: x).reverse = some (x.reverse, a.reverse) := fun hx =>
    cut_eq_some_iff.2 (by simp [hx])
  have heq := hcut (a := a) hx
  rw [h, hcut hy] at heq
  simp only [Option.some.injEq, Prod.mk.injEq, List.reverse_inj] at heq
  exact ⟨heq.2.symm, heq.1.symm⟩

/-- The pieces of a string between the delimiters `c`. -/
def split (c : Char) (s : String) : List String :=
  (pieces c s.toList).map String.ofList

theorem split_ne_nil (c : Char) (s : String) : split c s ≠ [] := by
  intro h
  exact pieces_ne_nil c s.toList (List.map_eq_nil_iff.1 h)

/-- Joining the pieces of a string with their delimiter gives the string back. -/
theorem intercalate_split (c : Char) (s : String) : c.toString.intercalate (split c s) = s := by
  apply String.toList_injective
  rw [split, String.toList_intercalate, List.map_map, Char.toString, String.toList_singleton]
  simpa [Function.comp_def] using intercalate_pieces c s.toList

/-- The pieces of a string with a delimiter in it are those before and those after it. -/
theorem split_append_delimiter (c : Char) (a b : String) :
    split c (a ++ c.toString ++ b) = split c a ++ split c b := by
  rw [split, split, split, String.toList_append, String.toList_append, Char.toString,
    String.toList_singleton, List.append_assoc, List.singleton_append, pieces_append_delimiter,
    List.map_append]

theorem delimiter_not_mem_of_mem_split {c : Char} {s p : String} (hp : p ∈ split c s) :
    c ∉ p.toList := by
  obtain ⟨q, hq, rfl⟩ := List.mem_map.1 hp
  rw [String.toList_ofList]
  exact not_mem_of_mem_pieces hq

theorem mem_of_mem_split {c x : Char} {s p : String} (hp : p ∈ split c s) (hx : x ∈ p.toList) :
    x ∈ s.toList := by
  obtain ⟨q, hq, rfl⟩ := List.mem_map.1 hp
  rw [String.toList_ofList] at hx
  exact mem_of_mem_pieces hq hx

/-- Strings without the delimiter that are joined with it are the pieces of the whole. -/
theorem split_intercalate {c : Char} {l : List String} (hne : l ≠ [])
    (h : ∀ s ∈ l, c ∉ s.toList) : split c (c.toString.intercalate l) = l := by
  rw [split, String.toList_intercalate, Char.toString, String.toList_singleton,
    pieces_intercalate (by simpa using hne) (by simpa using h), List.map_map]
  simp

/-- Apart from the delimiter, joined strings have the characters of each. -/
theorem mem_intercalate {x : Char} {d : String} (hd : x ∉ d.toList) {l : List String} :
    x ∈ (d.intercalate l).toList ↔ ∃ s ∈ l, x ∈ s.toList := by
  induction l with
  | nil => simp
  | cons s l ih =>
    cases l with
    | nil => simp
    | cons t l =>
      rw [String.intercalate_cons_cons, String.toList_append, String.toList_append,
        List.mem_append, List.mem_append, ih]
      simp [hd]

/-- The strings before and after the first `c`, if there is one. -/
def splitOnce (c : Char) (s : String) : Option (String × String) :=
  (cut c s.toList).map fun (a, b) => (String.ofList a, String.ofList b)

/-- The text without the blank characters at its end. -/
def trimEnd (blank : Char → Bool) (s : String) : String :=
  String.ofList (s.toList.reverse.dropWhile blank).reverse

/-- The text without the blank characters at either end. -/
def trim (blank : Char → Bool) (s : String) : String :=
  trimEnd blank (String.ofList (s.toList.dropWhile blank))

/-- The characters with the Unicode property White_Space. -/
def isWhiteSpace (c : Char) : Bool :=
  let n := c.toNat
  (9 ≤ n && n ≤ 13) || n == 0x20 || n == 0x85 || n == 0xa0 || n == 0x1680 ||
    (0x2000 ≤ n && n ≤ 0x200a) || n == 0x2028 || n == 0x2029 || n == 0x202f || n == 0x205f ||
    n == 0x3000

end SweepPlot.Text
