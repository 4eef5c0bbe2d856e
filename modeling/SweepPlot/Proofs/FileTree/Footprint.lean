import SweepPlot.Proofs.FileTree.Ways

/-!
# What a path depends on

`FileTree.footprint` lists the locations that are looked up when a path is followed to what it leads
to. In a tree with the same nodes there the path leads to the same place (`locate_stable`,
`openRead_stable`), and this place is one of them (`mem_footprint_of_openRead`).
-/

namespace SweepPlot.FileTree

/-- The locations that are looked up on the steps from the directory `here`; `follow` lists those
for the target of a link, the directory that it is in and the steps after it. -/
def footprintWith (t : FileTree) (follow : String → Location → List Route.Step → List Location) :
    Location → List Route.Step → List Location
  | here, [] => [here]
  | here, .up :: rest => footprintWith t follow here.dropLast rest
  | here, .stay :: rest => footprintWith t follow here rest
  | here, .down name :: rest =>
    (here ++ [name]) ::
      match t.lookup (here ++ [name]) with
      | some .dir => footprintWith t follow (here ++ [name]) rest
      | some (.link target) => follow target here rest
      | _ => []

/-- The locations that are looked up on the steps from the directory `here`, along `links` links at
most. -/
def footprintFrom (t : FileTree) : Nat → Location → List Route.Step → List Location
  | 0 => footprintWith t fun _ _ _ => []
  | links + 1 => footprintWith t fun target here rest =>
    let route := Route.ofPath target
    footprintFrom t links (if route.absolute then [] else here) (route.steps ++ rest)

/-- The locations that are looked up on the way to what a path leads to. -/
def footprint (t : FileTree) (path : String) : List Location :=
  t.footprintFrom maxLinks (t.start path) (Route.ofPath path).steps

variable {t t' : FileTree} {here : Location} {steps : List Route.Step} {dirOnly : Bool}
  {path : String}

theorem walkWith_stable {follow follow' : String → Location → List Route.Step → Bool →
      Except IoFault Spot} {list : String → Location → List Route.Step → List Location}
    (hfollow : ∀ target here rest dirOnly, (∀ k ∈ list target here rest, t'.lookup k = t.lookup k) →
      follow' target here rest dirOnly = follow target here rest dirOnly)
    (h : ∀ k ∈ t.footprintWith list here steps, t'.lookup k = t.lookup k) :
    t'.walkWith .target follow' here steps dirOnly =
      t.walkWith .target follow here steps dirOnly := by
  induction steps generalizing here with
  | nil => rfl
  | cons step rest ih =>
    cases step with
    | up => exact ih h
    | stay => exact ih h
    | down name =>
      rw [footprintWith, List.forall_mem_cons] at h
      obtain ⟨hl, h⟩ := h
      rw [walkWith, walkWith, hl]
      rcases hn : t.lookup (here ++ [name]) with _ | ⟨content | _ | target | d⟩
      case some.dir =>
        rw [hn] at h
        simp only [ih h]
      case some.link =>
        rw [hn] at h
        simp only [hfollow target here rest dirOnly h]
      all_goals rfl

theorem walk_stable {links : Nat}
    (h : ∀ k ∈ t.footprintFrom links here steps, t'.lookup k = t.lookup k) :
    t'.walk .target links here steps dirOnly = t.walk .target links here steps dirOnly := by
  induction links generalizing here steps dirOnly with
  | zero => exact walkWith_stable (fun _ _ _ _ _ => rfl) h
  | succ links ih =>
    refine walkWith_stable (fun target here rest dirOnly h => ?_) h
    simp only [ih h]

/-- A path leads to the same place in a tree with the same nodes on its way. -/
theorem locate_stable (hwork : t'.workDir = t.workDir)
    (h : ∀ k ∈ t.footprint path, t'.lookup k = t.lookup k) :
    t'.locate .target path = t.locate .target path := by
  unfold locate
  split
  · rfl
  · split
    · rfl
    · split
      · rfl
      · rw [hwork]
        exact walk_stable h

theorem openRead_stable (hwork : t'.workDir = t.workDir)
    (h : ∀ k ∈ t.footprint path, t'.lookup k = t.lookup k) :
    t'.openRead path = t.openRead path := by
  rw [openRead, openRead, locate_stable hwork h]

/-- The place to which steps lead is looked up. -/
theorem Leads.mem_footprintFrom {links : Nat} {s : Spot}
    (hw : Leads t .target links here steps dirOnly s) :
    s.location ∈ t.footprintFrom links here steps := by
  have hfrom : ∀ links, ∃ list, t.footprintFrom links = t.footprintWith list := fun links => by
    cases links <;> exact ⟨_, rfl⟩
  induction hw with
  | @done links =>
    obtain ⟨list, hlist⟩ := hfrom links
    rw [hlist, footprintWith]
    exact List.mem_singleton_self _
  | @up links _ _ _ _ _ ih | @stay links _ _ _ _ _ ih =>
    obtain ⟨list, hlist⟩ := hfrom links
    rw [hlist] at ih ⊢
    exact ih
  | @dir links _ _ _ _ _ _ _ hl _ ih =>
    obtain ⟨list, hlist⟩ := hfrom links
    rw [hlist] at ih ⊢
    rw [footprintWith, hl]
    exact List.mem_cons_of_mem _ ih
  | @leaf links =>
    obtain ⟨list, hlist⟩ := hfrom links
    rw [hlist, footprintWith]
    exact List.mem_cons_self
  | named ha => cases ha
  | link _ _ hl _ _ _ ih =>
    rw [footprintFrom, footprintWith, hl]
    exact List.mem_cons_of_mem _ ih

theorem mem_footprint_of_openRead {loc : Location} (h : t.openRead path = .ok loc) :
    loc ∈ t.footprint path := by
  obtain ⟨s, hs, -, -, rfl⟩ := openRead_eq_ok_iff.1 h
  exact (locate_eq_ok_iff.1 hs).2.mem_footprintFrom

end SweepPlot.FileTree
