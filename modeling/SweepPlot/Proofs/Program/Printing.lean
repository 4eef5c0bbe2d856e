import SweepPlot.Program
import SweepPlot.Proofs.Run.Steps

/-!
# What is printed

Lines are printed between the runs of variants only: a run prints nothing itself, whatever comes of
it (`silent_plotVariant`). Log messages and the calls of extractor and renderer are recorded, but
they are no printed lines.
-/

namespace SweepPlot

open RunM

namespace Program

theorem printed_append (a b : List Event) : printed (a ++ b) = printed a ++ printed b :=
  List.filterMap_append

@[simp] theorem printed_map_print (lines : List String) :
    printed (lines.map .print) = lines := by
  induction lines with
  | nil => rfl
  | cons line lines ih => rw [List.map_cons, ← List.singleton_append, printed_append, ih]; rfl

/-- The activity prints nothing. -/
def Silent {α : Type} (x : RunM α) : Prop :=
  ∀ s, printed (x s).2.journal = printed s.journal

theorem silent_pure {α : Type} (a : α) : Silent (pure a) := fun _ => rfl

theorem silent_get : Silent get := fun _ => rfl

theorem silent_record {e : Event} (h : ∀ line, e ≠ .print line) : Silent (record e) := by
  intro s
  show printed (s.journal ++ [e]) = printed s.journal
  have hnone : printed [e] = [] := by
    cases e with
    | print line => exact absurd rfl (h line)
    | log | extracting | rendering | failed => rfl
  rw [printed_append, hnone, List.append_nil]

theorem silent_log (level : LogLevel) (source : LogSource) (message : String) :
    Silent (log level source message) := silent_record (by simp)

theorem silent_changing {α : Type} (op : FileTree → Except Failure α × FileTree) :
    Silent (changing op) := by
  intro s
  unfold changing
  rcases op s.tree with ⟨e | a, t⟩
  · exact (printed_append ..).trans (List.append_nil _)
  · rfl

theorem Silent.bind {α β : Type} {x : RunM α} {f : α → RunM β} (hx : Silent x)
    (hf : ∀ a, Silent (f a)) : Silent (x >>= f) := by
  intro s
  have hs := hx s
  rw [bind_apply]
  rcases h : x s with ⟨e | a, s'⟩ <;> rw [h] at hs
  · exact hs
  · exact (hf a s').trans hs

variable (p : Plotter) (v : Variant) (results : ResultSet)

theorem silent_perform (step : Plotter.Step) : Silent (p.perform step) := by
  cases step with
  | log level message => exact silent_log level .plotting message
  | createFile path => exact silent_changing _
  | takeRows tag mode dataFile e =>
    refine silent_get.bind fun _ => (silent_record (by simp)).bind fun _ => ?_
    exact (silent_changing _).bind fun _ => silent_log _ _ _
  | createPlotsDir => exact silent_changing _
  | render script output =>
    exact silent_get.bind fun _ => (silent_record (by simp)).bind fun _ => silent_changing _

theorem silent_performAll (steps : List Plotter.Step) : Silent (p.performAll steps) := by
  induction steps with
  | nil => exact silent_pure ()
  | cons step steps ih => exact (silent_perform p step).bind fun _ => ih

/-- A run of a variant prints nothing. -/
theorem silent_plotVariant : Silent (p.plotVariant results v) := by
  intro s
  rcases hm : p.makeScratch v s.tree with ⟨e | ⟨dir, loc⟩, t⟩
  · rw [Plotter.plotVariant_of_error p v results hm]
    exact (printed_append ..).trans (List.append_nil _)
  · rw [Plotter.plotVariant_of_ok p v results hm]
    exact silent_performAll p (Plotter.variantSteps p v results dir) ⟨t, s.journal⟩

end Program

end SweepPlot
