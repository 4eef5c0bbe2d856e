import SweepPlot.Config
import SweepPlot.Proofs.NameMap.Bindings

/-!
# Tables of fields

A table sets the fields that its entries name, one entry after the other.

* `Fits` says of a table that its entries are fields with values that these take, and `fieldOr` is
  what a table says of one field.
* `setEntry_cons_eq_ok_iff` is all that one entry does. From it, `setEntries_isOk_iff` says which
  tables can be read, and `setEntries_eq_result` what is read, entry by entry.
* `AgreeOn` compares a field with one of a schema, and `setEntry_isOk_iff` a section with a schema.
* `setEntries_pathsFields`, `setEntries_renderFields` and `setEntries_loggingFields` say both of the
  three sections.
-/

namespace SweepPlot.Config

open Toml NameMap

/-! ## What a table says -/

/-- The text of a value that is one. -/
def text? : Toml.Value → Option String
  | .string s => some s
  | _ => none

/-- The truth value of a value that is one. -/
def truth? : Toml.Value → Option Bool
  | .boolean b => some b
  | _ => none

/-- The form of log lines that a text names. -/
def format? : Toml.Value → Option LogFormat
  | .string "pretty" => some .pretty
  | .string "compact" => some .compact
  | .string "json" => some .json
  | _ => none

/-- What the value of a field is read as, or the default if the table does not have the field. -/
def fieldOr {α : Type} (read : Toml.Value → Option α) (es : Entries) (key : String)
    (default : α) : α :=
  ((es.lookup key).bind read).getD default

section

variable {α : Type} {read : Toml.Value → Option α} {es : Entries} {k key : String} {v : Toml.Value}
  {default : α}

theorem fieldOr_cons : fieldOr read ((k, v) :: es) key default =
    if key = k then (read v).getD default else fieldOr read es key default := by
  rw [fieldOr, lookup_cons_eq_ite]
  split <;> rfl

theorem fieldOr_of_lookup (h : es.lookup key = none) : fieldOr read es key default = default := by
  rw [fieldOr, h]
  rfl

end

/-- The fields that a table may have, each with the values that it takes. -/
abbrev Schema := List (String × (Toml.Value → Bool))

/-- The entry is a field of the schema with a value that the field takes. -/
def Schema.Takes (schema : Schema) (b : String × Toml.Value) : Prop :=
  ∃ takes, schema.lookup b.1 = some takes ∧ takes b.2 = true

/-- Every entry of the table is a field of the schema with a value that the field takes. -/
def Schema.Fits (schema : Schema) (es : Entries) : Prop := ∀ b ∈ es, schema.Takes b

theorem Schema.takes_cons_iff {schema : Schema} {name k : String} {takes : Toml.Value → Bool}
    {v : Toml.Value} : Schema.Takes ((name, takes) :: schema) (k, v) ↔
      if k = name then takes v = true else schema.Takes (k, v) := by
  unfold Schema.Takes
  rw [lookup_cons_eq_ite]
  split <;> simp

/-! ## Attempts -/

section

variable {ε α β : Type}

theorem bind_eq_ok_iff {x : Except ε α} {f : α → Except ε β} {b : β} :
    (x >>= f) = .ok b ↔ ∃ a, x = .ok a ∧ f a = .ok b := by
  cases x <;> simp [bind, Except.bind]

theorem bind_pure_eq_ok_iff {x : Except ε α} {f : α → β} {b : β} :
    (do return f (← x)) = Except.ok b ↔ ∃ a, x = .ok a ∧ b = f a := by
  rw [bind_eq_ok_iff]
  simp only [pure, Except.pure, Except.ok.injEq, eq_comm]

/-- An attempt is described by when it succeeds and by what it gives then. -/
theorem eq_ok_iff_of {x : Except ε α} {P : Prop} {a a' : α}
    (hok : (∃ a, x = .ok a) ↔ P) (hvalue : ∀ {a}, x = .ok a → a = a') :
    x = .ok a ↔ P ∧ a = a' := by
  constructor
  · exact fun h => ⟨hok.1 ⟨a, h⟩, hvalue h⟩
  · rintro ⟨hP, rfl⟩
    obtain ⟨a, ha⟩ := hok.2 hP
    exact hvalue ha ▸ ha

/-- An attempt that makes something of what is read succeeds if anything is. -/
theorem exists_ok_iff_isSome {x : Except ε β} {read : Option α} {make : α → β}
    (h : ∀ {b}, x = .ok b ↔ ∃ a, read = some a ∧ b = make a) :
    (∃ b, x = .ok b) ↔ read.isSome = true := by
  rw [Option.isSome_iff_exists]
  constructor
  · rintro ⟨b, hb⟩
    obtain ⟨a, ha, -⟩ := h.1 hb
    exact ⟨a, ha⟩
  · rintro ⟨a, ha⟩
    exact ⟨make a, h.2 ⟨a, ha, rfl⟩⟩

end

/-! ## One entry and a whole table -/

section

variable {σ : Type} {fields : Fields σ} {schema : Schema} {s s' : σ} {b : String × Toml.Value}
  {es : Entries}

/-- Set the field that an entry names. -/
def setEntry (fields : Fields σ) (s : σ) (b : String × Toml.Value) : Except ConfigFault σ :=
  match fields.lookup b.1 with
  | some set => set s b.2
  | none => .error (.unknownField b.1 (fields.map (·.1)))

theorem setEntries_eq_foldlM (fields : Fields σ) (s : σ) (es : Entries) :
    setEntries fields s es = es.foldlM (setEntry fields) s := rfl

theorem setEntries_cons_eq_ok_iff :
    setEntries fields s (b :: es) = .ok s' ↔
      ∃ s₁, setEntry fields s b = .ok s₁ ∧ setEntries fields s₁ es = .ok s' := by
  rw [setEntries_eq_foldlM, List.foldlM_cons, bind_eq_ok_iff]
  rfl

theorem setEntry_nil_eq_ok_iff : setEntry [] s b = .ok s' ↔ False := by
  simp [setEntry]

/-- An entry sets the first field of its name. -/
theorem setEntry_cons_eq_ok_iff {name k : String} {set : Setter σ} {v : Toml.Value} :
    setEntry ((name, set) :: fields) s (k, v) = .ok s' ↔
      if k = name then set s v = .ok s' else setEntry fields s (k, v) = .ok s' := by
  simp only [setEntry, lookup_cons_eq_ite]
  by_cases hk : k = name
  · simp only [if_pos hk]
  · simp only [if_neg hk]
    cases fields.lookup k <;> simp

/-- A table can be read if every entry can be. -/
theorem setEntries_isOk_iff {accepts : String × Toml.Value → Prop}
    (haccepts : ∀ b ∈ es, ∀ s, (∃ s', setEntry fields s b = .ok s') ↔ accepts b) (s : σ) :
    (∃ s', setEntries fields s es = .ok s') ↔ ∀ b ∈ es, accepts b := by
  induction es generalizing s with
  | nil => exact ⟨fun _ _ hb => (nomatch hb), fun _ => ⟨s, rfl⟩⟩
  | cons b es ih =>
    obtain ⟨hb, hes⟩ := List.forall_mem_cons.1 haccepts
    simp only [setEntries_cons_eq_ok_iff, List.forall_mem_cons, ← hb s]
    constructor
    · rintro ⟨s', s₁, hs₁, hs'⟩
      exact ⟨⟨s₁, hs₁⟩, (ih hes s₁).1 ⟨s', hs'⟩⟩
    · rintro ⟨⟨s₁, hs₁⟩, hrest⟩
      obtain ⟨s', hs'⟩ := (ih hes s₁).2 hrest
      exact ⟨s', s₁, hs₁, hs'⟩

/-- What a table whose keys differ gives is found entry by entry: `result` takes an entry into
account that no later one shares the key of, and an empty table changes nothing. -/
theorem setEntries_eq_result {result : σ → Entries → σ} (hnil : ∀ s, result s [] = s)
    (hcons : ∀ k v rest s s₁, (k, v) ∈ es → rest.lookup k = none →
      setEntry fields s (k, v) = .ok s₁ → result s ((k, v) :: rest) = result s₁ rest)
    (hkeys : es.Pairwise (·.1 ≠ ·.1)) (h : setEntries fields s es = .ok s') :
    s' = result s es := by
  induction es generalizing s with
  | nil =>
    cases h
    exact (hnil _).symm
  | cons b es ih =>
    obtain ⟨k, v⟩ := b
    obtain ⟨hk, hkeys⟩ := List.pairwise_cons.1 hkeys
    obtain ⟨s₁, hs₁, h⟩ := setEntries_cons_eq_ok_iff.1 h
    -- The entry counts as it stands: no later one replaces it.
    have hnone : es.lookup k = none := List.lookup_eq_none_iff.2 fun c hc => by
      simpa using hk c hc
    rw [hcons k v es s s₁ List.mem_cons_self hnone hs₁]
    exact ih (fun k v rest s s₁ hv => hcons k v rest s s₁ (List.mem_cons_of_mem _ hv)) hkeys h

/-- A field and one of a schema have the same name, and it makes no difference which of them an
entry of this name is shown to. -/
def AgreeOn (s : σ) (b : String × Toml.Value) (f : String × Setter σ)
    (g : String × (Toml.Value → Bool)) : Prop :=
  f.1 = g.1 ∧ (b.1 = f.1 → ((∃ s', f.2 s b.2 = .ok s') ↔ g.2 b.2 = true))

/-- An entry can be set if the schema takes it, when fields and schema agree one by one. -/
theorem setEntry_isOk_iff (h : List.Forall₂ (AgreeOn s b) fields schema) :
    (∃ s', setEntry fields s b = .ok s') ↔ schema.Takes b := by
  obtain ⟨k, v⟩ := b
  induction h with
  | nil => simp [setEntry_nil_eq_ok_iff, Schema.Takes]
  | @cons f g fields schema hfg _ ih =>
    obtain ⟨name, set⟩ := f
    obtain ⟨name', takes⟩ := g
    obtain ⟨rfl, hset⟩ := hfg
    simp only [setEntry_cons_eq_ok_iff, Schema.takes_cons_iff]
    by_cases hk : k = name
    · simpa only [if_pos hk] using hset hk
    · simpa only [if_neg hk] using ih

end

/-! ## The kinds of fields -/

section

variable {σ : Type} {s s' : σ} {v : Toml.Value} {b : String × Toml.Value} {name : String}

theorem textField_eq_ok_iff {expected : String} {set : σ → String → σ} :
    textField expected set s v = .ok s' ↔ ∃ text, text? v = some text ∧ s' = set s text := by
  cases v <;> simp [textField, text?, eq_comm]

theorem agreeOn_text {expected : String} {set : σ → String → σ} :
    AgreeOn s b (name, textField expected set) (name, fun v => (text? v).isSome) :=
  ⟨rfl, fun _ => exists_ok_iff_isSome textField_eq_ok_iff⟩

theorem boolField_eq_ok_iff {set : σ → Bool → σ} :
    boolField set s v = .ok s' ↔ ∃ b, truth? v = some b ∧ s' = set s b := by
  cases v <;> simp [boolField, truth?, eq_comm]

theorem agreeOn_truth {set : σ → Bool → σ} :
    AgreeOn s b (name, boolField set) (name, fun v => (truth? v).isSome) :=
  ⟨rfl, fun _ => exists_ok_iff_isSome boolField_eq_ok_iff⟩

/-- A text is read as the form of log lines that it names. -/
theorem formatOf_string_eq_ok_iff {f : LogFormat} :
    formatOf (.string name) = .ok f ↔ format? (.string name) = some f := by
  simp only [formatOf, formatNamed, formats, lookup_cons_eq_ite, List.lookup_nil]
  by_cases hpretty : name = "pretty"
  · subst hpretty
    simp [format?]
  by_cases hcompact : name = "compact"
  · subst hcompact
    simp [format?]
  by_cases hjson : name = "json"
  · subst hjson
    simp [format?]
  · simp [format?, hpretty, hcompact, hjson]

end

/-! ## Sections -/

section

variable {es : Entries}

/-- The directories that a table names, and else those from before. -/
def pathsOf (p : PathsConfig) (es : Entries) : PathsConfig :=
  ⟨fieldOr text? es "results_dir" p.resultsDir, fieldOr text? es "plots_dir" p.plotsDir⟩

/-- The plotting program that a table names, and else the one from before. -/
def renderOf (r : RenderConfig) (es : Entries) : RenderConfig :=
  ⟨fieldOr text? es "program" r.program⟩

/-- The log that a table asks for, and else the one from before. -/
def loggingOf (l : LoggingConfig) (es : Entries) : LoggingConfig :=
  ⟨fieldOr text? es "level" l.level, fieldOr format? es "format" l.format,
    fieldOr truth? es "timestamps" l.timestamps, fieldOr truth? es "target" l.target⟩

/-- The fields of the directories. -/
def pathsSchema : Schema :=
  [("results_dir", fun v => (text? v).isSome), ("plots_dir", fun v => (text? v).isSome)]

/-- The fields of the plotting program. -/
def renderSchema : Schema := [("program", fun v => (text? v).isSome)]

/-- The fields of the log. -/
def loggingSchema : Schema :=
  [("level", fun v => (text? v).isSome), ("format", fun v => (format? v).isSome),
    ("timestamps", fun v => (truth? v).isSome), ("target", fun v => (truth? v).isSome)]

theorem setEntries_pathsFields (hkeys : es.Pairwise (·.1 ≠ ·.1)) {p p' : PathsConfig} :
    setEntries pathsFields p es = .ok p' ↔ pathsSchema.Fits es ∧ p' = pathsOf p es := by
  refine eq_ok_iff_of (setEntries_isOk_iff (fun b _ s => ?_) p) (setEntries_eq_result ?_ ?_ hkeys)
  · exact setEntry_isOk_iff (.cons agreeOn_text (.cons agreeOn_text .nil))
  · exact fun p => rfl
  · intro k v rest p p₁ _ hrest h
    simp only [pathsFields, setEntry_cons_eq_ok_iff, setEntry_nil_eq_ok_iff,
      textField_eq_ok_iff] at h
    split_ifs at h with hresults hplots
    · obtain ⟨text, htext, rfl⟩ := h
      subst hresults
      simp [pathsOf, fieldOr_cons, fieldOr_of_lookup hrest, htext]
    · obtain ⟨text, htext, rfl⟩ := h
      subst hplots
      simp [pathsOf, fieldOr_cons, fieldOr_of_lookup hrest, htext]

theorem setEntries_renderFields (hkeys : es.Pairwise (·.1 ≠ ·.1)) {r r' : RenderConfig} :
    setEntries renderFields r es = .ok r' ↔ renderSchema.Fits es ∧ r' = renderOf r es := by
  refine eq_ok_iff_of (setEntries_isOk_iff (fun b _ s => ?_) r) (setEntries_eq_result ?_ ?_ hkeys)
  · exact setEntry_isOk_iff (.cons agreeOn_text .nil)
  · exact fun r => rfl
  · intro k v rest r r₁ _ hrest h
    simp only [renderFields, setEntry_cons_eq_ok_iff, setEntry_nil_eq_ok_iff,
      textField_eq_ok_iff] at h
    split_ifs at h with hprogram
    obtain ⟨text, htext, rfl⟩ := h
    subst hprogram
    simp [renderOf, fieldOr_cons, fieldOr_of_lookup hrest, htext]

/-- The form of log lines must be a text: a table may name it too, and other values do not. -/
theorem setEntries_loggingFields (hkeys : es.Pairwise (·.1 ≠ ·.1))
    (hformat : ∀ v, ("format", v) ∈ es → ∃ name, v = .string name) {l l' : LoggingConfig} :
    setEntries loggingFields l es = .ok l' ↔ loggingSchema.Fits es ∧ l' = loggingOf l es := by
  refine eq_ok_iff_of (setEntries_isOk_iff (fun b hb s => ?_) l) (setEntries_eq_result ?_ ?_ hkeys)
  · refine setEntry_isOk_iff (.cons agreeOn_text (.cons ⟨rfl, fun hkey => ?_⟩
      (.cons agreeOn_truth (.cons agreeOn_truth .nil))))
    obtain ⟨k, v⟩ := b
    obtain rfl : k = "format" := hkey
    obtain ⟨name, rfl⟩ := hformat v hb
    exact exists_ok_iff_isSome (bind_pure_eq_ok_iff.trans
      (exists_congr fun f => and_congr_left' formatOf_string_eq_ok_iff))
  · exact fun l => rfl
  · intro k v rest l l₁ hv hrest h
    simp only [loggingFields, setEntry_cons_eq_ok_iff, setEntry_nil_eq_ok_iff,
      textField_eq_ok_iff, boolField_eq_ok_iff, bind_pure_eq_ok_iff] at h
    split_ifs at h with hlevel hform htimestamps htarget
    · obtain ⟨text, htext, rfl⟩ := h
      subst hlevel
      simp [loggingOf, fieldOr_cons, fieldOr_of_lookup hrest, htext]
    · obtain ⟨f, hf, rfl⟩ := h
      subst hform
      obtain ⟨name, rfl⟩ := hformat v hv
      simp [loggingOf, fieldOr_cons, fieldOr_of_lookup hrest, formatOf_string_eq_ok_iff.1 hf]
    · obtain ⟨b, hb, rfl⟩ := h
      subst htimestamps
      simp [loggingOf, fieldOr_cons, fieldOr_of_lookup hrest, hb]
    · obtain ⟨b, hb, rfl⟩ := h
      subst htarget
      simp [loggingOf, fieldOr_cons, fieldOr_of_lookup hrest, hb]

end

end SweepPlot.Config
