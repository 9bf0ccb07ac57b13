import RestQuery.Proofs.Plan.Comparison
import RestQuery.Proofs.Plan.Effects

/-!
# Nodes of a plan

The node at the end of a path of relations is the plan of the visit there, but for its errors,
which have moved up.  So what a level makes of its parameters is found in the node.

Main statements: `Catalog.Sound.exists_node`, `Visit.via_eq` and `Visit.target_of_via`.
-/

namespace RestQuery

theorem Plan.exists_of_along?_withErrors {plan node : Plan} {errors : List RequestError}
    {path : List String} (hnode : { plan with errors }.along? path = some node) :
    ∃ other, plan.along? path = some other ∧ node = { other with errors := node.errors } := by
  cases path with
  | nil =>
      obtain rfl := Option.some.inj hnode
      exact ⟨plan, rfl, rfl⟩
  | cons name rest => exact ⟨node, hnode, by cases node; rfl⟩

namespace Visit

variable {catalog : Catalog} {visit : Visit} {depth : Nat} {plan node : Plan} {name : String}
  {path : List String}

theorem exists_of_lookup_planOf {entry : String} {depthErrors : List RequestError}
    {relations : List (String × Plan)} {sub : Plan}
    (hlookup : (visit.planOf catalog entry depthErrors relations).relations.lookup name =
      some sub) : ∃ full, (name, full) ∈ relations ∧ sub = { full with errors := [] } := by
  obtain ⟨result, hresult, heq⟩ := List.mem_map.1 (Table.mem_of_lookup_eq_some hlookup)
  obtain ⟨rfl, rfl⟩ := Prod.mk.inj heq
  exact ⟨result.2, hresult, rfl⟩

/-- The plan of a visit holds plans of the visits below, under different names; its own errors are
those of its level and, at the greatest depth, errors about depth. -/
theorem Plans.exists_relations (hplans : visit.Plans catalog depth plan)
    (hsound : catalog.Sound) :
    ∃ (depthErrors : List RequestError) (relations : List (String × Plan)),
      plan = visit.planOf catalog plan.referrer depthErrors relations ∧
      (∀ error ∈ depthErrors, error.problem.isDepth = true) ∧
      (relations.map Prod.fst).Nodup ∧
      ∀ result ∈ relations, ∃ child left, depth = left + 1 ∧ result.1 ∈ visit.shown ∧
        visit.below? catalog result.1 = some child ∧
        child.level.trace = visit.level.trace ++ "." ++ result.1 ∧
        child.Plans catalog left result.2 := by
  cases depth with
  | zero =>
      obtain ⟨referrer, rfl⟩ := hplans.eq_deepest
      exact ⟨_, [], rfl, List.forall_mem_map.2 fun _ _ => rfl, List.nodup_nil, nofun⟩
  | succ depth =>
      obtain ⟨relations, hnames, hrelations, referrer, rfl⟩ := hplans.exists_below hsound
      refine ⟨[], relations, rfl, nofun, ?_, fun result hresult => ?_⟩
      · rw [hnames]
        exact (Table.keys_nodup _).filter _
      · obtain ⟨child, hbelow, htrace, hchild⟩ := hrelations result hresult
        have hshown : result.1 ∈ visit.shown := hnames ▸ List.mem_map_of_mem hresult
        exact ⟨child, depth, rfl, hshown, hbelow, htrace, hchild⟩

/-- The plan of a relation of a level is one of the visit there. -/
theorem Plans.exists_of_lookup (hplans : visit.Plans catalog depth plan) (hsound : catalog.Sound)
    {sub : Plan} (hlookup : plan.relations.lookup name = some sub) :
    ∃ child left full, depth = left + 1 ∧ name ∈ visit.shown ∧
      visit.below? catalog name = some child ∧
      child.level.trace = visit.level.trace ++ "." ++ name ∧ child.Plans catalog left full ∧
      sub = { full with errors := [] } := by
  obtain ⟨_, relations, heq, -, -, hrelations⟩ := hplans.exists_relations hsound
  rw [heq] at hlookup
  obtain ⟨full, hresult, hsub⟩ := exists_of_lookup_planOf hlookup
  obtain ⟨child, left, hdepth, hshown, hbelow, htrace, hchild⟩ := hrelations _ hresult
  exact ⟨child, left, full, hdepth, hshown, hbelow, htrace, hchild, hsub⟩

/-- A node of the plan of a visit is a plan of the visit at the end of its path. -/
theorem Plans.exists_node (hplans : visit.Plans catalog depth plan) (hsound : catalog.Sound)
    (hnode : plan.along? path = some node) :
    ∃ reached left full, visit.along? catalog path = some reached ∧
      reached.level.trace = Text.join '.' (visit.level.trace :: path) ∧
      reached.Plans catalog left full ∧ node = { full with errors := node.errors } := by
  induction path generalizing visit depth plan node with
  | nil =>
      obtain rfl := Option.some.inj hnode
      exact ⟨visit, depth, plan, rfl, (Text.join_singleton '.' _).symm, hplans, by cases plan; rfl⟩
  | cons name rest ih =>
      obtain ⟨sub, hlookup, hrest⟩ := Option.bind_eq_some_iff.1 hnode
      obtain ⟨child, left, full, -, -, hbelow, htrace, hchild, rfl⟩ :=
        hplans.exists_of_lookup hsound hlookup
      obtain ⟨other, hother, hnode⟩ := Plan.exists_of_along?_withErrors hrest
      obtain ⟨reached, depth, found, halong, hreached, hplan, heq⟩ := ih hchild hother
      refine ⟨reached, depth, found, ?_, ?_, hplan, ?_⟩
      · rw [along?, hbelow, Option.bind_some, halong]
      · rw [hreached, htrace, Text.join_cons_cons]
        rfl
      · rw [hnode, heq]

end Visit

namespace Catalog.Sound

variable {catalog : Catalog} {resource : String} {target : Target} {params : Params}
  {plan node : Plan} {path : List String}

/-- Each node of the plan of a request is a plan of the visit at the end of its path. -/
theorem exists_plans_of_along? (hsound : catalog.Sound)
    (hplan : catalog.plan resource target params = .ok plan)
    (hnode : plan.along? path = some node) :
    ∃ visit left full, catalog.visit? resource target params path = some visit ∧
      visit.level.trace = Text.join '.' (resource :: path) ∧
      visit.Plans catalog left full ∧ node = { full with errors := node.errors } := by
  obtain ⟨root, hplans, -, rfl, hvisit⟩ := hsound.exists_visit hplan
  obtain ⟨visit, left, full, halong, htrace, hvisited, heq⟩ := hplans.exists_node hsound hnode
  exact ⟨visit, left, full, (hvisit path).trans halong, htrace, hvisited, heq⟩

/-- Each node of the plan of a request holds what the visit at the end of its path makes of its
parameters, under the capability entry that is named in the node. -/
theorem exists_node (hsound : catalog.Sound)
    (hplan : catalog.plan resource target params = .ok plan)
    (hnode : plan.along? path = some node) :
    ∃ visit depthErrors relations, catalog.visit? resource target params path = some visit ∧
      visit.level.trace = Text.join '.' (resource :: path) ∧ visit.level.Held catalog ∧
      visit.level.capability = .ok (node.referrer, visit.capability) ∧
      node = { visit.planOf catalog node.referrer depthErrors relations with
        errors := node.errors } := by
  obtain ⟨visit, left, full, hvisit, htrace, hplans, heq⟩ :=
    hsound.exists_plans_of_along? hplan hnode
  obtain ⟨depthErrors, relations, hfull, -⟩ := hplans.exists_relations hsound
  have hreferrer : node.referrer = full.referrer := congrArg (·.referrer) heq
  refine ⟨visit, depthErrors, relations, hvisit, htrace, hplans.held, ?_, ?_⟩
  · rw [hreferrer]
    exact hplans.capability_eq
  · rw [hreferrer, ← hfull]
    exact heq

end Catalog.Sound

/-! ## The relation that leads to a level -/

namespace Visit

variable {catalog : Catalog} {visit reached : Visit}

/-- A path is followed in two parts. -/
theorem along?_append (visit : Visit) (path rest : List String) :
    visit.along? catalog (path ++ rest) =
      (visit.along? catalog path).bind (·.along? catalog rest) := by
  induction path generalizing visit with
  | nil => rfl
  | cons name path ih => simp only [List.cons_append, along?, Option.bind_assoc, ih]

/-- A visit below comes through the relation of the name that was followed. -/
theorem via_of_below? {name : String} (hbelow : visit.below? catalog name = some reached) :
    reached.level.via = visit.level.resource.relations.get? name := by
  obtain ⟨relation, hrelation, hchild, -⟩ := below?_eq_some_iff.1 hbelow
  obtain ⟨resource, -, hlevel⟩ := Level.child_eq_ok_iff.1 hchild
  rw [hlevel, hrelation]

end Visit

/-- The relation that leads to the end of a path: the one of its last name, at the level before. -/
def Catalog.relationAt? (catalog : Catalog) (resource : String) (target : Target)
    (params : Params) (path : List String) : Option Relation := do
  let name ← path.getLast?
  let parent ← catalog.visit? resource target params path.dropLast
  parent.level.resource.relations.get? name

section Paths

variable {catalog : Catalog} {resource : String} {target : Target} {params : Params}
  {path : List String} {visit : Visit}

theorem Catalog.visit?_append_singleton (name : String) :
    catalog.visit? resource target params (path ++ [name]) =
      (catalog.visit? resource target params path).bind (·.below? catalog name) := by
  have hlast : ∀ visit : Visit, visit.along? catalog [name] = visit.below? catalog name :=
    fun visit => Option.bind_fun_some (visit.below? catalog name)
  simp only [visit?, bind, Option.bind_assoc, Visit.along?_append, hlast]

/-- A level that a path leads to comes through the relation of its last name. -/
theorem Visit.via_eq (hvisit : catalog.visit? resource target params path = some visit) :
    visit.level.via = catalog.relationAt? resource target params path := by
  rcases List.eq_nil_or_concat path with rfl | ⟨path, name, rfl⟩
  · obtain ⟨hroot, -, -⟩ := Catalog.visit?_nil_eq_some_iff.1 hvisit
    obtain ⟨found, -, hlevel⟩ := Level.root_eq_ok_iff.1 hroot
    rw [hlevel]
    rfl
  · rw [List.concat_eq_append, Catalog.visit?_append_singleton] at hvisit
    obtain ⟨parent, hparent, hbelow⟩ := Option.bind_eq_some_iff.1 hvisit
    simp [Catalog.relationAt?, hparent, via_of_below? hbelow]

/-- A relation that leads to a level has the resource of the level as its target. -/
theorem Visit.target_of_via (hvisit : catalog.visit? resource target params path = some visit)
    {relation : Relation} (hvia : visit.level.via = some relation) :
    catalog.resources.get? relation.target = some visit.level.resource := by
  rcases List.eq_nil_or_concat path with rfl | ⟨path, name, rfl⟩
  · rw [via_eq hvisit] at hvia
    cases hvia
  · rw [List.concat_eq_append, Catalog.visit?_append_singleton] at hvisit
    obtain ⟨parent, -, hbelow⟩ := Option.bind_eq_some_iff.1 hvisit
    obtain ⟨found, -, hchild, -⟩ := below?_eq_some_iff.1 hbelow
    obtain ⟨reached, hreached, hlevel⟩ := Level.child_eq_ok_iff.1 hchild
    rw [hlevel] at hvia ⊢
    rwa [Option.some.inj hvia] at hreached

end Paths

end RestQuery
