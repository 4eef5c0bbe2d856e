import SweepPlot.Toml.Document

/-!
# Documents bind no key twice

What a document says under a key is one thing only: neither its own table nor any table in it has
two values for one key.

* `Value.Unambiguous` and `Entries.Unambiguous` say so of values and of tables.
* `Gives` is a property of all that may come out of a reader, with one rule for each way to build
  readers.
* `Entries.descend_unambiguous` is the step: a change far down in a table keeps it unambiguous if it
  does so where it is made. `Entries.bind_unambiguous` and `Building.add_unambiguous` are its uses.
* `Reader.value_unambiguous` says that what is read is unambiguous, and `Document.parse_unambiguous`
  that documents are.
-/

namespace SweepPlot.Toml

/-- No table in the value binds a key twice. -/
inductive Value.Unambiguous : Value → Prop
  | string (s : String) : Unambiguous (.string s)
  | integer (n : Int) : Unambiguous (.integer n)
  | float (x : Text.Binary64) : Unambiguous (.float x)
  | boolean (b : Bool) : Unambiguous (.boolean b)
  | datetime (text : String) : Unambiguous (.datetime text)
  | array (ofTables : Bool) {items : List Value} (h : ∀ v ∈ items, Unambiguous v) :
    Unambiguous (.array ofTables items)
  /-- The keys differ, and all values are unambiguous. -/
  | table (form : TableForm) {entries : Entries} (hkeys : entries.Pairwise (·.1 ≠ ·.1))
    (h : ∀ b ∈ entries, Unambiguous b.2) : Unambiguous (.table form entries)

/-- No key is bound twice, here and in the tables below. -/
structure Entries.Unambiguous (es : Entries) : Prop where
  keys : es.Pairwise (·.1 ≠ ·.1)
  values : ∀ b ∈ es, b.2.Unambiguous

theorem Value.unambiguous_table_iff {form : TableForm} {es : Entries} :
    Unambiguous (.table form es) ↔ es.Unambiguous := by
  constructor
  · intro h
    cases h with
    | table _ hkeys hvalues => exact ⟨hkeys, hvalues⟩
  · intro h
    exact .table form h.keys h.values

theorem Value.unambiguous_array_iff {ofTables : Bool} {items : List Value} :
    Unambiguous (.array ofTables items) ↔ ∀ v ∈ items, v.Unambiguous := by
  constructor
  · intro h
    cases h with
    | array _ hitems => exact hitems
  · exact .array ofTables

/-! ## What comes out of an attempt -/

/-- What an attempt gives, if anything, has the property. -/
def Gives {α : Type} (P : α → Prop) (x : Option α) : Prop := ∀ a, x = some a → P a

namespace Gives

variable {α β : Type} {P : α → Prop} {Q : β → Prop} {x y : Option α}

theorem none : Gives P none := fun _ h => nomatch h

theorem some {a : α} (h : P a) : Gives P (some a) := fun _ heq => Option.some.inj heq ▸ h

/-- What follows may rely on what the first attempt gives. -/
theorem bind {f : α → Option β} (hx : Gives P x) (hf : ∀ a, P a → Gives Q (f a)) :
    Gives Q (x.bind f) := by
  intro b hb
  obtain ⟨a, ha, hb⟩ := Option.bind_eq_some_iff.1 hb
  exact hf a (hx a ha) b hb

/-- What follows need not rely on anything. -/
theorem bind_any {f : α → Option β} (hf : ∀ a, Gives Q (f a)) : Gives Q (x.bind f) :=
  bind (P := fun _ => True) (fun _ _ => trivial) fun a _ => hf a

theorem map {f : α → β} (hx : Gives (fun a => Q (f a)) x) : Gives Q (x.map f) := by
  intro b hb
  obtain ⟨a, ha, rfl⟩ := Option.map_eq_some_iff.1 hb
  exact hx a ha

theorem ite {c : Prop} [Decidable c] (hx : Gives P x) (hy : Gives P y) :
    Gives P (if c then x else y) := by
  split
  · exact hx
  · exact hy

theorem orElse {f : Unit → Option α} (hx : Gives P x) (hf : Gives P (f ())) :
    Gives P (x.orElse f) := by
  cases x with
  | none => exact hf
  | some a => exact hx

end Gives

/-! ## Tables -/

namespace Entries

variable {es : Entries} {key : String} {v : Value}

theorem unambiguous_nil : Unambiguous [] := ⟨.nil, fun _ hb => nomatch hb⟩

theorem Unambiguous.lookup (h : es.Unambiguous) (hv : es.lookup key = some v) : v.Unambiguous := by
  obtain ⟨before, after, rfl, -⟩ := List.lookup_eq_some_iff.1 hv
  exact h.values (key, v) (by simp)

theorem Unambiguous.of_perm {es' : Entries} (h : es.Unambiguous) (hperm : es.Perm es') :
    es'.Unambiguous :=
  ⟨(hperm.pairwise_iff fun hne => hne.symm).1 h.keys,
    fun b hb => h.values b (hperm.mem_iff.2 hb)⟩

/-- A key that is not bound can be bound. -/
theorem Unambiguous.add (h : es.Unambiguous) (hkey : es.lookup key = none) (hv : v.Unambiguous) :
    Unambiguous (es ++ [(key, v)]) where
  keys := by
    refine List.pairwise_append.2 ⟨h.keys, List.pairwise_singleton .., fun b hb c hc => ?_⟩
    obtain rfl := List.mem_singleton.1 hc
    have hne : ¬ key = b.1 := by simpa using List.lookup_eq_none_iff.1 hkey b hb
    exact fun heq => hne heq.symm
  values := by
    intro b hb
    rcases List.mem_append.1 hb with hb | hb
    · exact h.values b hb
    · obtain rfl := List.mem_singleton.1 hb
      exact hv

/-- A replaced entry keeps its key. -/
theorem Unambiguous.replace (h : es.Unambiguous) (hv : v.Unambiguous) :
    (es.replace key v).Unambiguous where
  keys := by
    refine List.pairwise_map.2 (h.keys.imp ?_)
    intro b c hne
    dsimp only
    split <;> split <;> exact hne
  values := by
    intro b hb
    obtain ⟨⟨k, w⟩, hc, rfl⟩ := List.mem_map.1 hb
    dsimp only
    split
    · exact hv
    · exact h.values (k, w) hc

theorem Unambiguous.filter (h : es.Unambiguous) (keep : String × Value → Bool) :
    Unambiguous (es.filter keep) :=
  ⟨h.keys.filter keep, fun b hb => h.values b (List.mem_filter.1 hb).1⟩

/-- A change far down in a table keeps the whole table unambiguous if it keeps the entries there so,
and what comes out of the change comes out at the top. -/
theorem descend_unambiguous {β : Type} {inTheLine dotted : Bool}
    {change : TableForm → Entries → Option (β × Entries)} {P : β → Prop}
    (hchange : ∀ form es, Unambiguous es →
      Gives (fun r => P r.1 ∧ r.2.Unambiguous) (change form es))
    (path : List String) (form : TableForm) (hes : es.Unambiguous) :
    Gives (fun r => P r.1 ∧ r.2.Unambiguous) (es.descend inTheLine dotted change path form) := by
  induction path generalizing form es with
  | nil => exact hchange form es hes
  | cons key path ih =>
    rw [descend]
    simp only [Option.bind_eq_bind]
    -- The way goes on in a new table, in one that stands, or in the latest of a list.
    split
    · rename_i hnone
      refine .bind (ih _ unambiguous_nil) fun r hr => .some ⟨hr.1, ?_⟩
      exact hes.add hnone (Value.unambiguous_table_iff.2 hr.2)
    · rename_i form sub hsome
      have hsub := Value.unambiguous_table_iff.1 (hes.lookup hsome)
      refine .ite .none (.bind (ih _ hsub) fun r hr => .some ⟨hr.1, ?_⟩)
      exact hes.replace (Value.unambiguous_table_iff.2 hr.2)
    · rename_i items hsome
      have hitems := Value.unambiguous_array_iff.1 (hes.lookup hsome)
      split
      · rename_i form sub earlier
        obtain ⟨hlatest, hearlier⟩ := List.forall_mem_cons.1 hitems
        refine .bind (ih _ (Value.unambiguous_table_iff.1 hlatest)) fun r hr => .some ⟨hr.1, ?_⟩
        refine hes.replace (Value.unambiguous_array_iff.2 (List.forall_mem_cons.2 ⟨?_, hearlier⟩))
        exact Value.unambiguous_table_iff.2 hr.2
      · exact .none
    · exact .none

theorem bind_unambiguous {inTheLine : Bool} {path : List String} {form : TableForm}
    (hes : es.Unambiguous) (hv : v.Unambiguous) :
    Gives Unambiguous (es.bind inTheLine path key v form) := by
  refine .bind (descend_unambiguous (P := fun _ => True) (fun form es hes => ?_) path form hes)
    fun r hr => .some hr.2
  split
  · exact .none
  · rename_i hfree
    have hnone : es.lookup key = none := by
      rw [← Option.not_isSome_iff_eq_none]
      exact fun hbound => hfree (.inr hbound)
    exact .some ⟨trivial, hes.add hnone hv⟩

end Entries

/-! ## What is read -/

namespace Reader

theorem integer_unambiguous (cs : List Char) : Gives Value.Unambiguous (integer? cs) := by
  unfold integer?
  simp only [Option.bind_eq_bind]
  split
  · split
    · exact .bind_any fun n => .ite (.some (.integer n)) .none
    · exact .bind_any fun n => .ite (.some (.integer n)) .none
  · refine .bind_any fun _ => ?_
    split
    · exact .bind_any fun n => .ite (.some (.integer n)) .none
    · exact .bind_any fun n => .ite (.some (.integer n)) .none

theorem float_unambiguous (cs : List Char) : Gives Value.Unambiguous (float? cs) := by
  unfold float?
  simp only [Option.bind_eq_bind]
  refine .ite (.some (.float _)) (.ite (.some (.float _)) (.bind_any fun _ => ?_))
  split
  all_goals exact .bind_any fun _ => .bind_any fun _ => .ite .none (.some (.float _))

theorem datetime_unambiguous (cs : List Char) : Gives Value.Unambiguous (datetime? cs) := by
  unfold datetime?
  simp only [Option.bind_eq_bind]
  split
  · exact .some (.datetime _)
  · exact .ite (.bind_any fun _ => .bind_any fun _ => .some (.datetime _)) .none
  · split
    · exact .some (.datetime _)
    · exact .none

theorem word_unambiguous (cs : List Char) : Gives Value.Unambiguous (word? cs) := by
  unfold word?
  refine .ite (.some (.boolean true)) (.ite (.some (.boolean false)) ?_)
  exact (datetime_unambiguous cs).orElse ((float_unambiguous cs).orElse (integer_unambiguous cs))

theorem scalar_unambiguous (cs : List Char) :
    Gives (fun r => r.1.Unambiguous) (scalar cs) := by
  unfold scalar
  simp only [Option.bind_eq_bind]
  split
  · exact .ite (.bind (word_unambiguous _) fun _ hv => .some hv)
      (.bind (word_unambiguous _) fun _ hv => .some hv)
  · exact .bind (word_unambiguous _) fun _ hv => .some hv

/-- Values, items and pairs are read together: the induction is on the fuel that they share. -/
theorem value_items_pairs_unambiguous (fuel : Nat) :
    (∀ depth cs, Gives (fun r => r.1.Unambiguous) (value depth fuel cs)) ∧
    (∀ depth cs, Gives (fun r => ∀ v ∈ r.1, v.Unambiguous) (items depth fuel cs)) ∧
    ∀ depth (es : Entries) cs, es.Unambiguous →
      Gives (fun r => r.1.Unambiguous) (pairs depth fuel es cs) := by
  induction fuel with
  | zero => exact ⟨fun _ _ => .none, fun _ _ => .none, fun _ _ _ _ => .none⟩
  | succ fuel ih =>
    obtain ⟨hvalue, hitems, hpairs⟩ := ih
    refine ⟨fun depth cs => ?_, fun depth cs => ?_, fun depth es cs hes => ?_⟩
    · rw [value.eq_def]
      dsimp only
      split
      · exact .map fun r _ => .string r.1
      · exact .map fun r _ => .string r.1
      · refine .ite .none (.map fun r hr => ?_)
        exact .array false (hitems _ _ r hr)
      · refine .ite .none ?_
        split
        · exact .some (Value.unambiguous_table_iff.2 Entries.unambiguous_nil)
        · refine .map fun r hr => Value.unambiguous_table_iff.2 ?_
          exact hpairs _ _ _ Entries.unambiguous_nil r hr
      · exact scalar_unambiguous cs
    · -- One item is read, and then the others.
      rw [items.eq_def]
      dsimp only
      split
      · exact .none
      · exact .some fun v hv => nomatch hv
      · split
        · exact .none
        · rename_i v rest hv
          have hv : v.Unambiguous := hvalue _ _ _ hv
          split
          · refine .map fun r hr => List.forall_mem_cons.2 ⟨hv, hitems _ _ r hr⟩
          · exact .some (List.forall_mem_singleton.2 hv)
          · exact .none
    · -- Each pair is bound in what the earlier ones left, which stays unambiguous.
      rw [pairs.eq_def]
      dsimp only
      split
      · split
        · exact .none
        · rename_i v rest hv
          have hv : v.Unambiguous := hvalue _ _ _ hv
          split
          · exact .none
          · rename_i es' hes'
            have hes' : es'.Unambiguous := Entries.bind_unambiguous hes hv es' hes'
            split
            · exact hpairs _ _ _ hes'
            · exact .some hes'
            · exact .none
      · exact .none

end Reader

/-! ## Documents -/

/-- The value of a line is unambiguous. -/
def Line.Unambiguous : Line → Prop
  | .pair _ _ v => v.Unambiguous
  | _ => True

theorem Line.read_unambiguous (bound : Nat) (cs : List Char) :
    Gives (fun r => r.1.Unambiguous) (read bound cs) := by
  unfold read
  simp only [Option.bind_eq_bind]
  split
  · refine .bind_any fun _ => ?_
    split
    · exact .bind_any fun _ => .some trivial
    · exact .none
  · refine .bind_any fun _ => ?_
    split
    · exact .bind_any fun _ => .some trivial
    · exact .none
  · refine .bind_any fun _ => ?_
    split
    · refine .bind ((Reader.value_items_pairs_unambiguous _).1 _ _) fun _ hv => ?_
      exact .bind_any fun _ => .some hv
    · exact .none

theorem Line.readAll_unambiguous (fuel : Nat) (cs : List Char) :
    Gives (fun lines => ∀ line ∈ lines, line.Unambiguous) (readAll fuel cs) := by
  induction fuel generalizing cs with
  | zero => exact .none
  | succ fuel ih =>
    rw [readAll.eq_def]
    simp only [Option.bind_eq_bind]
    split
    · exact .some fun line hline => nomatch hline
    · exact .bind_any fun _ => ih _
    · exact ih _
    · exact .bind_any fun _ => ih _
    · refine .bind (read_unambiguous fuel _) fun r hr => .bind (ih r.2) fun lines hlines => ?_
      exact .some (List.forall_mem_cons.2 ⟨hr, hlines⟩)

namespace Building

/-- The tables that are complete and the open one are unambiguous. -/
structure Unambiguous (b : Building) : Prop where
  /-- The complete tables are. -/
  root : b.root.Unambiguous
  /-- The open table is. -/
  opened : b.opened.Unambiguous

variable {b : Building}

theorem finish_unambiguous (h : b.Unambiguous) : Gives Entries.Unambiguous b.finish := by
  have htable : (Value.table .header b.opened).Unambiguous :=
    Value.unambiguous_table_iff.2 h.opened
  unfold finish
  split
  · exact .some h.opened
  · refine .bind (Entries.descend_unambiguous (P := fun _ => True) (fun _ es hes => ?_) _ _ h.root)
      fun r hr => .some hr.2
    -- The open table ends a list of tables or a table of its own.
    split
    · rename_i items hitems _
      have hitems := Value.unambiguous_array_iff.1 (hes.lookup hitems)
      refine .some ⟨trivial, hes.replace (Value.unambiguous_array_iff.2 ?_)⟩
      exact List.forall_mem_cons.2 ⟨htable, hitems⟩
    · rename_i hnone _
      exact .some ⟨trivial, hes.add hnone htable⟩
    · exact .none

theorem openTable_unambiguous (h : b.Unambiguous) (path : List String) (key : String) :
    Gives Unambiguous (b.openTable path key) := by
  refine .bind (finish_unambiguous h) fun root hroot => ?_
  refine .bind
    (Entries.descend_unambiguous (P := Entries.Unambiguous) (fun _ es hes => ?_) _ _ hroot)
    fun r hr => .some ⟨hr.2, hr.1⟩
  split
  · exact .some ⟨Entries.unambiguous_nil, hes⟩
  · rename_i sub hsub
    exact .some ⟨Value.unambiguous_table_iff.1 (hes.lookup hsub), hes.filter _⟩
  · exact .none

theorem openItem_unambiguous (h : b.Unambiguous) (path : List String) (key : String) :
    Gives Unambiguous (b.openItem path key) := by
  refine .bind (finish_unambiguous h) fun root hroot => ?_
  refine .bind (Entries.descend_unambiguous (P := fun _ => True) (fun _ es hes => ?_) _ _ hroot)
    fun r hr => .some ⟨hr.2, Entries.unambiguous_nil⟩
  split
  · rename_i hnone
    refine .some ⟨trivial, hes.add hnone (Value.unambiguous_array_iff.2 ?_)⟩
    exact fun v hv => nomatch hv
  · exact .some ⟨trivial, hes⟩
  · exact .none

/-- One more line keeps the tables unambiguous. -/
theorem add_unambiguous (h : b.Unambiguous) {line : Line} (hline : line.Unambiguous) :
    Gives Unambiguous (b.add line) := by
  cases line with
  | pair path key v =>
    exact .bind (Entries.bind_unambiguous h.opened hline) fun _ hopened => .some ⟨h.root, hopened⟩
  | tableHeader path key => exact openTable_unambiguous h path key
  | itemHeader path key => exact openItem_unambiguous h path key

theorem foldlM_add_unambiguous {lines : List Line} (hlines : ∀ line ∈ lines, line.Unambiguous)
    (h : b.Unambiguous) : Gives Unambiguous (lines.foldlM add b) := by
  induction lines generalizing b with
  | nil => exact .some h
  | cons line lines ih =>
    obtain ⟨hline, hlines⟩ := List.forall_mem_cons.1 hlines
    rw [List.foldlM_cons]
    exact .bind (add_unambiguous h hline) fun _ hb => ih hlines hb

end Building

/-- **A document binds no key twice**, in none of its tables. -/
theorem Document.parse_unambiguous {text : String} {entries : Entries}
    (h : parse text = some entries) : entries.Unambiguous := by
  have hgives : Gives Entries.Unambiguous (parse text) := by
    refine .bind (Line.readAll_unambiguous _ _) fun lines hlines => ?_
    exact .bind (Building.foldlM_add_unambiguous hlines
      ⟨Entries.unambiguous_nil, Entries.unambiguous_nil⟩) fun b hb => Building.finish_unambiguous hb
  exact hgives entries h

end SweepPlot.Toml
