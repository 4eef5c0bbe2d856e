import SweepPlot.Journal

/-!
# What an activity adds to the journal

An activity only adds events to the journal, and a step that fails is the last of them.
`RunM.Faithful` says so of a result and the events before it: a success comes without a failed
step, and a failure is that of the one step that failed, after which nothing happened.
-/

namespace SweepPlot

/-- A call of the renderer. -/
structure RenderCall where
  script : String
  output : String
  /-- The files at that moment. -/
  tree : FileTree

/-- The calls of the renderer among events, in order. -/
def renderCalls (events : List Event) : List RenderCall :=
  events.filterMap fun
    | .rendering script output tree => some ⟨script, output, tree⟩
    | _ => none

theorem renderCalls_append (a b : List Event) :
    renderCalls (a ++ b) = renderCalls a ++ renderCalls b := List.filterMap_append

theorem countP_isRendering (events : List Event) :
    events.countP Event.isRendering = (renderCalls events).length := by
  induction events with
  | nil => rfl
  | cons e rest ih =>
    cases e <;> simp [renderCalls, Event.isRendering, List.countP_cons] at ih ⊢ <;> exact ih

/-- What is added in two parts is the first part and the second. -/
theorem events_eq_append {journal journal₁ journal₂ events first more : List Event}
    (h : journal₂ = journal ++ events) (h₁ : journal₁ = journal ++ first)
    (h₂ : journal₂ = journal₁ ++ more) : events = first ++ more := by
  refine List.append_cancel_left (h.symm.trans ?_)
  rw [h₂, h₁, List.append_assoc]

namespace RunM

variable {α β : Type}

theorem bind_apply (x : RunM α) (f : α → RunM β) (s : RunState) :
    (x >>= f) s = match x s with
      | (.ok a, s') => f a s'
      | (.error e, s') => (.error e, s') := by
  show (ExceptT.bind x f) s = _
  rcases h : x s with ⟨_ | a, s'⟩
  · simp [ExceptT.bind, ExceptT.mk, bind, StateT.bind, h, ExceptT.bindCont]
    rfl
  · simp [ExceptT.bind, ExceptT.mk, bind, StateT.bind, h, ExceptT.bindCont]

/-- Two activities one after the other succeed if both do. -/
theorem bind_ok {x : RunM α} {f : α → RunM β} {s s' : RunState} {b : β}
    (h : (x >>= f) s = (.ok b, s')) : ∃ a s₁, x s = (.ok a, s₁) ∧ f a s₁ = (.ok b, s') := by
  rw [bind_apply] at h
  rcases hx : x s with ⟨e | a, s₁⟩ <;> rw [hx] at h
  · cases h
  · exact ⟨a, s₁, rfl, h⟩

theorem changing_ok {op : FileTree → Except Failure α × FileTree} {s s' : RunState} {a : α}
    (h : changing op s = (.ok a, s')) : op s.tree = (.ok a, s'.tree) := by
  unfold changing at h
  rcases hop : op s.tree with ⟨_ | a', t'⟩ <;> rw [hop] at h <;> cases h
  rfl

theorem changing_result (op : FileTree → Except Failure α × FileTree) (s : RunState) :
    (changing op s).1 = (op s.tree).1 := by
  unfold changing
  rcases op s.tree with ⟨_ | _, _⟩ <;> rfl

theorem changing_tree (op : FileTree → Except Failure α × FileTree) (s : RunState) :
    (changing op s).2.tree = (op s.tree).2 := by
  unfold changing
  rcases op s.tree with ⟨_ | _, _⟩ <;> rfl

theorem pure_apply (a : α) (s : RunState) : (pure a : RunM α) s = (.ok a, s) := rfl

theorem lift_apply (x : Except Failure α) (s : RunState) : (x : RunM α) s = (x, s) := by
  cases x <;> rfl

/-- The result of an activity is what its events say: none of them is a failed step if it
succeeded, and else the last one is, and no other. -/
def Faithful (result : Except Failure α) (events : List Event) : Prop :=
  match result with
  | .ok _ => ∀ e, .failed e ∉ events
  | .error e => ∃ before, events = before ++ [.failed e] ∧ ∀ e', .failed e' ∉ before

namespace Faithful

variable {result : Except Failure α} {events : List Event}

theorem ok_iff (h : Faithful result events) :
    (∃ a, result = .ok a) ↔ ∀ e, .failed e ∉ events := by
  rcases result with e | a
  · obtain ⟨before, rfl, -⟩ := h
    constructor
    · rintro ⟨a, hok⟩
      cases hok
    · intro hnone
      exact absurd (List.mem_append_right _ List.mem_cons_self) (hnone e)
  · exact ⟨fun _ => h, fun _ => ⟨a, rfl⟩⟩

theorem of_failed (h : Faithful result events) {e : Failure} (he : .failed e ∈ events) :
    result = .error e ∧ ∃ before, events = before ++ [.failed e] ∧ ∀ e', .failed e' ∉ before := by
  rcases result with e' | a
  · obtain ⟨before, rfl, hbefore⟩ := h
    have : e = e' := by simpa [hbefore e] using he
    subst this
    exact ⟨rfl, before, rfl, hbefore⟩
  · exact absurd he (h e)

theorem map (h : Faithful result events) (f : α → β) : Faithful (result.map f) events := by
  cases result <;> exact h

end Faithful

/-- The journal after an activity is the one before it with `events`, which the result agrees
with. -/
def Adds (x : RunM α) (s : RunState) (events : List Event) : Prop :=
  (x s).2.journal = s.journal ++ events ∧ Faithful (x s).1 events

theorem adds_pure (a : α) (s : RunState) : Adds (pure a) s [] :=
  ⟨(List.append_nil _).symm, fun _ => by simp⟩

theorem adds_record {e : Event} (h : ∀ cause, e ≠ .failed cause) (s : RunState) :
    Adds (record e) s [e] :=
  ⟨rfl, fun cause => by simpa using fun he => h cause he.symm⟩

theorem Adds.of_ok {x : RunM α} {s s' : RunState} {events : List Event} {a : α}
    (h : Adds x s events) (hx : x s = (.ok a, s')) :
    s'.journal = s.journal ++ events ∧ ∀ e, .failed e ∉ events := by
  obtain ⟨hj, hf⟩ := h
  rw [hx] at hj hf
  exact ⟨hj, hf⟩

theorem Adds.of_error {x : RunM α} {s s' : RunState} {events : List Event} {e : Failure}
    (h : Adds x s events) (hx : x s = (.error e, s')) :
    s'.journal = s.journal ++ events ∧
      ∃ before, events = before ++ [.failed e] ∧ ∀ e', .failed e' ∉ before := by
  obtain ⟨hj, hf⟩ := h
  rw [hx] at hj hf
  exact ⟨hj, hf⟩

/-- An activity that changes files adds nothing if it succeeds, and else its failure. -/
theorem adds_changing (op : FileTree → Except Failure α × FileTree) (s : RunState) :
    Adds (changing op) s (match (op s.tree).1 with | .ok _ => [] | .error e => [.failed e]) := by
  unfold Adds changing
  rcases op s.tree with ⟨_ | a, t⟩
  · exact ⟨rfl, [], rfl, by simp⟩
  · exact ⟨(List.append_nil _).symm, fun _ => by simp⟩

/-- The events of two activities one after the other: those of the second follow if the first
succeeds. -/
theorem Adds.bind {x : RunM α} {f : α → RunM β} {s : RunState} {events : List Event}
    (hx : Adds x s events) {more : List Event}
    (hf : ∀ a s', x s = (.ok a, s') → Adds (f a) s' more)
    (he : ∀ e s', x s = (.error e, s') → more = []) :
    Adds (x >>= f) s (events ++ more) := by
  unfold Adds
  rw [bind_apply]
  rcases h : x s with ⟨e | a, s'⟩
  · obtain ⟨hj, before, rfl, hb⟩ := hx.of_error h
    rw [he e s' h, List.append_nil]
    exact ⟨hj, before, rfl, hb⟩
  · obtain ⟨hj, hn⟩ := hx.of_ok h
    obtain ⟨hj', hf'⟩ := hf a s' h
    refine ⟨by rw [hj', hj, List.append_assoc], ?_⟩
    show Faithful (f a s').1 (events ++ more)
    rcases hr : (f a s').1 with e | b <;> rw [hr] at hf'
    · obtain ⟨before, rfl, hb⟩ := hf'
      exact ⟨events ++ before, by simp, fun e' => by simp [hn e', hb e']⟩
    · exact fun e' => by simp [hn e', hf' e']

/-- The activity keeps the journal faithful, and `calls` are its calls of the renderer. -/
def Calls (x : RunM α) (s : RunState) (calls : List RenderCall) : Prop :=
  ∃ events, Adds x s events ∧ renderCalls events = calls

theorem calls_record {e : Event} (h : ∀ cause, e ≠ .failed cause) (s : RunState) :
    Calls (record e) s (renderCalls [e]) := ⟨_, adds_record h s, rfl⟩

theorem calls_log (level : LogLevel) (source : LogSource) (message : String) (s : RunState) :
    Calls (log level source message) s [] := calls_record (fun _ => by simp) s

theorem calls_changing (op : FileTree → Except Failure α × FileTree) (s : RunState) :
    Calls (changing op) s [] :=
  ⟨_, adds_changing op s, by split <;> rfl⟩

/-- A second activity that does not call the renderer adds no call. -/
theorem Calls.bind {x : RunM α} {f : α → RunM β} {s : RunState} {calls : List RenderCall}
    (hx : Calls x s calls) (hf : ∀ a s', x s = (.ok a, s') → Calls (f a) s' []) :
    Calls (x >>= f) s calls := by
  obtain ⟨events, hx, rfl⟩ := hx
  rcases h : x s with ⟨e | a, s'⟩
  · refine ⟨events ++ [], hx.bind (fun a s'' h' => ?_) (fun _ _ _ => rfl), by simp⟩
    rw [h] at h'
    cases h'
  · obtain ⟨more, ha, hm⟩ := hf a s' h
    refine ⟨events ++ more, hx.bind (fun a' s'' h' => ?_) (fun e s'' h' => ?_), ?_⟩
    · rw [h] at h'
      cases h'
      exact ha
    · rw [h] at h'
      cases h'
    · rw [renderCalls_append, hm, List.append_nil]

end RunM

end SweepPlot
