import SweepPlot.Proofs.Selection.Narrowing

/-!
# Unions of constraints

On a common name the second set of a union wins, so that unions are not commutative, and a union
does not ask for all that its parts ask for. All laws are read off the lookups (`get?_union`).

* `union_assoc`, `empty_union`, `union_empty` and `union_self` make unions a monoid of idempotents.
* `Agree` says that two sets ask for the same value of every name they share;
  `union_comm_iff_agree` says that these are the sets whose union does not depend on the order.
* `satisfiedBy_iff_union` turns the test of parameters into an equation, and
  `satisfiedBy_union_iff_forall` says what of the first set is left in a union.
-/

namespace SweepPlot.Constraints

variable {a b c : Constraints} {p : Parameters}

theorem union_assoc (a b c : Constraints) : (a.union b).union c = a.union (b.union c) :=
  ext_get? fun k => by simp only [get?_union, Option.or_assoc]

theorem empty_union (a : Constraints) : empty.union a = a :=
  ext_get? fun k => by rw [get?_union, get?_empty, Option.or_none]

theorem union_empty (a : Constraints) : a.union empty = a :=
  ext_get? fun k => by rw [get?_union, get?_empty, Option.none_or]

theorem union_self (a : Constraints) : a.union a = a :=
  ext_get? fun k => by rw [get?_union, Option.or_self]

/-- A name is constrained by a union if one of the sets constrains it. -/
theorem isSome_get?_union {name : String} :
    ((a.union b).get? name).isSome ↔ (a.get? name).isSome ∨ (b.get? name).isSome := by
  rw [get?_union, Option.isSome_or, Bool.or_eq_true, or_comm]

/-- The sets ask for the same value of every name that both constrain. -/
def Agree (a b : Constraints) : Prop :=
  ∀ name x y, a.get? name = some x → b.get? name = some y → x = y

/-- The union of two sets is the same in both orders exactly if they agree. -/
theorem union_comm_iff_agree : a.union b = b.union a ↔ a.Agree b := by
  constructor
  · intro h name x y hx hy
    have hget : ((a.union b).get? name) = ((b.union a).get? name) := by rw [h]
    rw [get?_union, get?_union, hx, hy] at hget
    exact (Option.some.inj hget).symm
  · intro h
    refine ext_get? fun name => ?_
    rw [get?_union, get?_union]
    cases hx : a.get? name with
    | none => rw [Option.or_none, Option.none_or]
    | some x =>
      cases hy : b.get? name with
      | none => rfl
      | some y => rw [h name x y hx hy]

/-! ## Parameters -/

theorem ofParameters_eq (p : Parameters) : ofParameters p = ⟨p.bindings⟩ :=
  congrArg Constraints.mk (NameMap.ofList_toList p.bindings)

/-- The filter for exactly some parameters asks for each of them. -/
theorem get?_ofParameters (p : Parameters) (name : String) :
    (ofParameters p).get? name = p.get? name := by
  rw [ofParameters_eq]
  rfl

/-- Parameters have all values asked for exactly if asking for these in place of their own changes
nothing. -/
theorem satisfiedBy_iff_union :
    c.satisfiedBy p = true ↔ (ofParameters p).union c = ofParameters p := by
  rw [satisfiedBy_iff]
  constructor
  · intro h
    refine ext_get? fun name => ?_
    rw [get?_union, get?_ofParameters]
    cases hc : c.get? name with
    | none => rw [Option.none_or]
    | some value => rw [Option.some_or, h name value hc]
  · intro h name value hc
    have hget : ((ofParameters p).union c).get? name = p.get? name := by rw [h, get?_ofParameters]
    rw [← hget, get?_union, hc, Option.some_or]

/-- A union asks for all that the second set asks for, and of the first one for the values of names
that the second one leaves free. -/
theorem satisfiedBy_union_iff_forall :
    (a.union b).satisfiedBy p = true ↔ b.satisfiedBy p = true ∧
      ∀ name value, a.get? name = some value → b.get? name = none → p.get? name = some value := by
  rw [satisfiedBy_union, and_comm]
  refine and_congr_right fun _ => ?_
  simp only [satisfiedBy_iff, get?_without]
  constructor
  · intro h name value ha hb
    exact h name value (by rw [hb, ha]; rfl)
  · intro h name value hleft
    split at hleft
    · rename_i hnone
      exact h name value hleft (Option.isNone_iff_eq_none.1 hnone)
    · cases hleft

/-- **The laws of unions.** Unions are associative and idempotent, and the empty set adds nothing on
either side. A union constrains the names of both sets, with the value of the second set where it
has one, and is the same in both orders exactly if the sets agree on the names they share.
Parameters satisfy constraints exactly if the filter for these parameters stays as it is when the
constraints are added to it. They satisfy a union exactly if they satisfy the second set and have
the values of the first one for the names that the second one leaves free; and if the sets agree,
exactly if they satisfy both. -/
theorem union_laws (a b c : Constraints) (p : Parameters) :
    (a.union b).union c = a.union (b.union c) ∧
    empty.union a = a ∧ a.union empty = a ∧ a.union a = a ∧
    (∀ name, ((a.union b).get? name).isSome ↔ (a.get? name).isSome ∨ (b.get? name).isSome) ∧
    (∀ name, (a.union b).get? name = (b.get? name).or (a.get? name)) ∧
    (a.union b = b.union a ↔ a.Agree b) ∧
    (c.satisfiedBy p = true ↔ (ofParameters p).union c = ofParameters p) ∧
    (a.Agree b → ((a.union b).satisfiedBy p = true ↔
      a.satisfiedBy p = true ∧ b.satisfiedBy p = true)) ∧
    ((a.union b).satisfiedBy p = true ↔ b.satisfiedBy p = true ∧
      ∀ name value, a.get? name = some value → b.get? name = none → p.get? name = some value) :=
  ⟨union_assoc a b c, empty_union a, union_empty a, union_self a, fun _ => isSome_get?_union,
    get?_union a b, union_comm_iff_agree, satisfiedBy_iff_union, satisfiedBy_union_of_agree,
    satisfiedBy_union_iff_forall⟩

/-- A filter of two names. -/
def sampleLeft : Constraints := .ofList [("n", .int 1), ("k", .text "x")]

/-- A filter that shares a name with `sampleLeft`. -/
def sampleRight : Constraints := .ofList [("n", .int 1), ("w", .int 2)]

/-- The sets agree on the name that they share, so that parameters that lack what only one of them
asks for satisfy the other one and not the union. -/
theorem union_laws_sharing : sampleLeft.Agree sampleRight ∧
    sampleRight.satisfiedBy (.ofList [("n", .int 1), ("w", .int 2)]) = true ∧
    (sampleLeft.union sampleRight).satisfiedBy (.ofList [("n", .int 1), ("w", .int 2)]) =
      false := by
  obtain ⟨-, -, -, -, -, -, hcomm, -, hboth, -⟩ := union_laws sampleLeft sampleRight .empty
    (.ofList [("n", .int 1), ("w", .int 2)])
  have hagree : sampleLeft.Agree sampleRight := hcomm.1 (by decide)
  refine ⟨hagree, by decide, ?_⟩
  rw [Bool.eq_false_iff, ne_eq, hboth hagree]
  decide

end SweepPlot.Constraints
