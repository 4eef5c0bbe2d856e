import Mathlib.Data.List.Dedup
import SweepPlot.Proofs.Constraints.Union

/-!
# Sets of constraints however they are built

Constraints are bound one by one, joined, collected from a list, read off a key or taken over from
the parameters of a result. A `Construction` is any combination of these.

* `build` is the set that comes out, and `history` says which bindings were made on the way, the
  latest first.
* `get?_build` says that the set has the latest binding of each name and nothing else.
* `build_canonical` says what follows: nothing of a set but these bindings depends on how it was
  built, neither the order of its pairs nor its key.
-/

namespace SweepPlot.Constraints

/-- A way to build constraints. -/
inductive Construction
  /-- Nothing is bound. -/
  | empty
  /-- A name is bound, which may have been bound before. -/
  | insert (c : Construction) (name : String) (value : Value)
  /-- The second set is added to the first one. -/
  | union (a b : Construction)
  /-- Bindings are collected, one after the other. -/
  | collect (bindings : List (String × Value))
  /-- A key is read. -/
  | readKey (key : String)
  /-- Parameters are taken over, which were set one after the other. -/
  | takeOver (parameters : List (String × Value))
  deriving Repr

/-- The bindings that the segments of a key stand for. -/
def keyBindings (key : String) : List (String × Value) :=
  ((Text.split segmentDelimiter key).filterMap (Text.splitOnce valueDelimiter)).map
    fun (name, raw) => (name, Value.parse raw)

/-- The parameters that are left when some are set one after the other. -/
def parametersOf (l : List (String × Value)) : Parameters :=
  l.foldl (fun p b => p.insert b.1 b.2) .empty

namespace Construction

/-- The set that is built. -/
def build : Construction → Constraints
  | .empty => .empty
  | .insert c name value => c.build.insert name value
  | .union a b => a.build.union b.build
  | .collect bindings => .ofList bindings
  | .readKey key => .parseKey key
  | .takeOver parameters => .ofParameters (parametersOf parameters)

/-- The bindings that are made, the latest first. Those of a set that is added are later than those
of the set to which it is added. -/
def history : Construction → List (String × Value)
  | .empty => []
  | .insert c name value => (name, value) :: c.history
  | .union a b => b.history ++ a.history
  | .collect bindings => bindings.reverse
  | .readKey key => (keyBindings key).reverse
  | .takeOver parameters => parameters.reverse

/-- The names that are bound, in the order of `history`. -/
def boundNames (c : Construction) : List String := c.history.map (·.1)

end Construction

theorem get?_ofList (l : List (String × Value)) (name : String) :
    (ofList l).get? name = l.reverse.lookup name := by
  rw [get?, ofList, NameMap.ofList, NameMap.get?_foldl_insert_reverse, NameMap.get?_empty,
    Option.or_none]

/-- Setting parameters one after the other collects them. -/
theorem parametersOf_eq (l : List (String × Value)) : parametersOf l = .ofList l := by
  have hfold : ∀ (l : List (String × Value)) (p : Parameters),
      l.foldl (fun p b => p.insert b.1 b.2) p =
        ⟨l.foldl (fun m (b : String × Value) => m.insert b.1 b.2) p.bindings⟩ := by
    intro l
    induction l with
    | nil => exact fun p => rfl
    | cons b l ih => exact fun p => ih (p.insert b.1 b.2)
  exact hfold l .empty

namespace Construction

variable {c d : Construction}

/-- **The latest binding counts.** -/
theorem get?_build (c : Construction) (name : String) :
    c.build.get? name = c.history.lookup name := by
  induction c with
  | empty => rfl
  | insert c n value ih => rw [build, get?_insert, history, NameMap.lookup_cons_eq_ite, ih]
  | union a b iha ihb => rw [build, get?_union, history, List.lookup_append, iha, ihb]
  | collect bindings => exact get?_ofList bindings name
  | readKey key => exact get?_ofList (keyBindings key) name
  | takeOver parameters =>
    rw [build, get?_ofParameters, parametersOf_eq]
    exact get?_ofList parameters name

/-- The bound names are those of the set. -/
theorem mem_names_build {name : String} :
    name ∈ c.build.bindings.names ↔ name ∈ c.boundNames := by
  have hget : c.build.bindings.get? name = c.history.lookup name := c.get?_build name
  rw [NameMap.mem_names_iff, hget, NameMap.isSome_lookup_iff, boundNames]

/-- Sets with the same latest bindings are equal. -/
theorem build_eq_iff :
    c.build = d.build ↔ ∀ name, c.history.lookup name = d.history.lookup name := by
  constructor
  · intro h name
    rw [← get?_build, ← get?_build, h]
  · intro h
    refine ext_get? fun name => ?_
    rw [get?_build, get?_build, h]

/-- **A set does not show how it was built.** Its pairs are the bound names, each once and in
strictly increasing order, with the values that they were bound to last; a lookup gives that value,
and the size is the number of different bound names. Two sets are equal exactly if all lookups
agree. The key has a segment for each of the pairs, in their order, and sets in which every name was
bound last to the same value have the same key. -/
theorem build_canonical (c : Construction) :
    (c.build.toList.map (·.1)).Pairwise (· < ·) ∧ (c.build.toList.map (·.1)).Nodup ∧
    (∀ name, name ∈ c.build.toList.map (·.1) ↔ name ∈ c.boundNames) ∧
    c.build.toList = (c.build.toList.map (·.1)).filterMap
      (fun name => (c.history.lookup name).map (name, ·)) ∧
    (∀ name, c.build.get? name = c.history.lookup name) ∧
    c.build.size = c.boundNames.dedup.length ∧
    c.build.key = segmentDelimiter.toString.intercalate ((c.build.toList.map (·.1)).filterMap
      fun name => (c.history.lookup name).map fun value =>
        name ++ valueDelimiter.toString ++ value.display) ∧
    ∀ d : Construction, (c.build = d.build ↔ ∀ name, c.build.get? name = d.build.get? name) ∧
      ((∀ name, c.history.lookup name = d.history.lookup name) → c.build.key = d.build.key) := by
  have hpairs : c.build.toList = (c.build.toList.map (·.1)).filterMap
      (fun name => (c.history.lookup name).map (name, ·)) := by
    refine (NameMap.toList_eq_filterMap_names c.build.bindings).trans ?_
    exact congrArg (List.filterMap · _) (funext fun name => by rw [← get?_build]; rfl)
  refine ⟨NameMap.pairwise_names _, NameMap.nodup_names _, fun name => mem_names_build, hpairs,
    c.get?_build, ?_, ?_, fun d => ⟨?_, fun h => ?_⟩⟩
  · have hperm : (c.build.bindings.names).Perm c.boundNames.dedup :=
      (List.perm_ext_iff_of_nodup (NameMap.nodup_names _) (List.nodup_dedup _)).2 fun name =>
        mem_names_build.trans List.mem_dedup.symm
    rw [← hperm.length_eq, NameMap.names, List.length_map]
    rfl
  · rw [key]
    conv_lhs => rw [hpairs]
    rw [List.map_filterMap]
    simp only [Option.map_map]
    rfl
  · rw [build_eq_iff]
    simp only [get?_build]
  · rw [build_eq_iff.2 h]

/-- A set that is read, joined and then changed. -/
def sampleJoined : Construction :=
  .insert (.union (.readKey "n=1_k=x_n=2") (.takeOver [("w", .int 3)])) "n" (.int 7)

/-- The same set, collected with another value that gives way when a set is added. -/
def sampleCollected : Construction :=
  .union (.collect [("w", .int 3), ("n", .int 1), ("k", .text "y")])
    (.insert (.insert .empty "n" (.int 7)) "k" (.text "x"))

/-- Names that were bound before to other values and in another order do not show. -/
theorem build_canonical_rebound :
    (∀ name, sampleJoined.history.lookup name = sampleCollected.history.lookup name) ∧
      sampleJoined.build.key = sampleCollected.build.key ∧
      sampleCollected.build.key = "k=x_n=7_w=3" := by
  obtain ⟨-, -, -, -, -, -, -, hsame⟩ := build_canonical sampleJoined
  have hlatest : ∀ name, sampleJoined.history.lookup name = sampleCollected.history.lookup name :=
    build_eq_iff.1 (by decide)
  exact ⟨hlatest, (hsame sampleCollected).2 hlatest, by decide +kernel⟩

end Construction

end SweepPlot.Constraints
