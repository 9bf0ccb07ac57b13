import RestQuery.Proofs.Answer
import RestQuery.Proofs.Plan.Visits

/-!
# The depth of plans

A plan shows the relations that its levels project and those that entries reach into, down to
the greatest depth.  The levels there show none.  They report the relations that the caller
asks for, one error for each, and leave out those that are shown by default.

Main statement: `Document.plan_depth`.
-/

namespace RestQuery

/-! ## Paths into a plan -/

namespace Plan

mutual

/-- The nodes of a plan by the paths of relations that lead to them, each with the names of its
own relations. -/
def outline : Plan → List (List String × List String)
  | ⟨_, _, _, _, _, _, _, _, relations, _⟩ => ([], relations.map Prod.fst) :: outlineBelow relations

def outlineBelow : List (String × Plan) → List (List String × List String)
  | [] => []
  | (name, plan) :: rest =>
    plan.outline.map (fun node => (name :: node.1, node.2)) ++ outlineBelow rest

end

/-- The outline of a plan is its root and the outlines below, each a relation further. -/
theorem outline_eq (plan : Plan) :
    plan.outline = ([], plan.relations.map Prod.fst) :: plan.relations.flatMap fun entry =>
      entry.2.outline.map fun node => (entry.1 :: node.1, node.2) := by
  have hbelow : ∀ relations, outlineBelow relations = relations.flatMap fun entry =>
      entry.2.outline.map fun node => (entry.1 :: node.1, node.2) := by
    intro relations
    induction relations with
    | nil => rfl
    | cons entry rest ih => rw [outlineBelow, ih, List.flatMap_cons]
  cases plan
  rw [outline, hbelow]

theorem outline_withErrors (plan : Plan) (errors : List RequestError) :
    { plan with errors := errors }.outline = plan.outline := by
  rw [outline_eq, outline_eq]

/-- If no node has two relations of one name, no two nodes are at the end of one path. -/
theorem nodup_outline {plan : Plan} (hnames : ∀ node ∈ plan.outline, node.2.Nodup) :
    (plan.outline.map Prod.fst).Nodup := by
  induction plan using Plan.induction with
  | step plan ih =>
      rw [outline_eq, List.forall_mem_cons] at hnames
      obtain ⟨hroot, hbelow⟩ := hnames
      rw [outline_eq, List.map_cons, List.nodup_cons, List.map_flatMap, List.nodup_flatMap]
      simp only [List.map_map, Function.comp_def]
      refine ⟨?_, fun entry hentry => ?_, ?_⟩
      · simp
      · have hinner : ∀ node ∈ entry.2.outline, node.2.Nodup := fun node hnode =>
          hbelow (entry.1 :: node.1, node.2)
            (List.mem_flatMap.2 ⟨entry, hentry, List.mem_map_of_mem hnode⟩)
        have hpaths := (ih entry hentry hinner).map (List.cons_injective (a := entry.1))
        rwa [List.map_map] at hpaths
      · refine (List.pairwise_map.1 hroot).imp fun {left right} hne => ?_
        refine List.disjoint_left.2 fun path hleft hright => ?_
        obtain ⟨node, -, rfl⟩ := List.mem_map.1 hleft
        obtain ⟨other, -, heq⟩ := List.mem_map.1 hright
        exact hne (List.cons.inj heq).1.symm

/-- A plan is as deep as the deepest of its relations, and one level more. -/
theorem depth_le_iff {plan : Plan} {bound : Nat} :
    plan.depth ≤ bound ↔ ∀ entry ∈ plan.relations, entry.2.depth + 1 ≤ bound := by
  have hdeepest : ∀ relations, deepest relations ≤ bound ↔
      ∀ entry ∈ relations, entry.2.depth + 1 ≤ bound := by
    intro relations
    induction relations with
    | nil => simp [deepest]
    | cons entry rest ih => rw [deepest, Nat.max_le, ih, List.forall_mem_cons]
  cases plan
  rw [depth, hdeepest]

theorem depth_withErrors (plan : Plan) (errors : List RequestError) :
    { plan with errors := errors }.depth = plan.depth := by
  cases plan
  rfl

end Plan

/-! ## Visits of a plan -/

namespace Visit

variable {document : Document} {catalog : Catalog} {visit child : Visit} {depth : Nat}
  {plan : Plan} {name : String}

/-- What a plan shows at the end of a path: everything above the greatest depth, and nothing
there. -/
def Shows (depth : Nat) (visit : Visit) (path names : List String) : Prop :=
  path.length < depth ∧ names.Nodup ∧
      (∀ name, name ∈ names ↔ name ∈ visit.projection.relations ∨ visit.nests name = true) ∨
    path.length = depth ∧ names = []

/-- The errors for relations below the greatest depth that the end of a path is asked for. -/
def depthErrors (catalog : Catalog) (depth : Nat) (visit : Visit) (path : List String) :
    List RequestError :=
  if path.length < depth then []
  else
    (((visit.along? catalog path).map asked).getD []).map fun name =>
      ⟨Text.join '.' (visit.level.trace :: (path ++ [name])), .tooDeep maxDepth⟩

/-- The errors about depth below a relation are those of its own visit. -/
theorem depthErrors_cons (hbelow : visit.below? catalog name = some child)
    (htrace : child.level.trace = visit.level.trace ++ "." ++ name) (path : List String) :
    visit.depthErrors catalog (depth + 1) (name :: path) =
      child.depthErrors catalog depth path := by
  simp only [depthErrors, along?, hbelow, Option.bind_some, List.length_cons, List.cons_append,
    Text.join_cons_cons, htrace, Nat.add_lt_add_iff_right]
  rfl

/-- No plan goes further than it was permitted to. -/
theorem Plans.depth_le (hplans : visit.Plans catalog depth plan) (hsound : catalog.Sound) :
    plan.depth ≤ depth := by
  induction depth generalizing visit plan with
  | zero =>
      obtain ⟨_, rfl⟩ := hplans.eq_deepest
      rw [Plan.depth_le_iff]
      exact nofun
  | succ depth ih =>
      obtain ⟨relations, -, hrelations, _, rfl⟩ := hplans.exists_below hsound
      rw [Plan.depth_le_iff]
      intro entry hentry
      obtain ⟨⟨name, plan⟩, hmem, rfl⟩ := List.mem_map.1 hentry
      obtain ⟨child, -, -, hchild⟩ := hrelations _ hmem
      have hbelow : plan.depth ≤ depth := ih hchild
      dsimp only
      rw [Plan.depth_withErrors]
      omega

theorem Plans.shows (hplans : visit.Plans catalog depth plan)
    (hresolve : document.resolve = .ok catalog) {path names : List String}
    (hnode : (path, names) ∈ plan.outline) :
    ∃ reached, visit.along? catalog path = some reached ∧ reached.Shows depth path names := by
  -- On the relations that may still be followed: each step along the path uses up one of them.
  induction depth generalizing visit plan path with
  | zero =>
      obtain ⟨_, rfl⟩ := hplans.eq_deepest
      rw [Plan.outline_eq] at hnode
      obtain ⟨rfl, rfl⟩ := Prod.mk.inj (List.mem_singleton.1 hnode)
      exact ⟨visit, rfl, .inr ⟨rfl, rfl⟩⟩
  | succ depth ih =>
      obtain ⟨relations, hnames, hrelations, _, rfl⟩ :=
        hplans.exists_below (Document.sound_of_resolve hresolve)
      rw [Plan.outline_eq, List.mem_cons, List.mem_flatMap] at hnode
      rcases hnode with hroot | ⟨entry, hentry, hnode⟩
      · obtain ⟨rfl, rfl⟩ := Prod.mk.inj hroot
        rw [names_planOf, hnames]
        exact ⟨visit, rfl, .inl ⟨Nat.succ_pos depth, (Table.keys_nodup _).filter _,
          fun name => hplans.mem_shown hresolve⟩⟩
      · obtain ⟨⟨name, plan⟩, hmem, rfl⟩ := List.mem_map.1 hentry
        obtain ⟨node, hinner, heq⟩ := List.mem_map.1 hnode
        obtain ⟨rfl, rfl⟩ := Prod.mk.inj heq
        rw [Plan.outline_withErrors] at hinner
        obtain ⟨child, hbelow, -, hchild⟩ := hrelations _ hmem
        obtain ⟨reached, halong, hshows⟩ := ih hchild hinner
        refine ⟨reached, ?_, ?_⟩
        · rw [along?, hbelow, Option.bind_some, halong]
        · simpa [Shows] using hshows

/-- Entries that are to blame for errors leave the depth of a request alone. -/
theorem filter_isDepth_eq_nil {errors : List RequestError}
    (hblamed : ∀ error ∈ errors, visit.params.Blamed visit.level.trace error) :
    errors.filter (·.problem.isDepth) = [] := by
  rw [List.filter_eq_nil_iff]
  intro error hmem
  rw [(hblamed error hmem).isLocal]
  exact Bool.false_ne_true

/-- Of the errors of a plan, those about depth are its own and those of its relations. -/
theorem filter_errors_plan (entry : String) {depthErrors : List RequestError}
    (hdepth : ∀ error ∈ depthErrors, error.problem.isDepth = true)
    (relations : List (String × Plan)) :
    (visit.planOf catalog entry depthErrors relations).errors.filter (·.problem.isDepth) =
      depthErrors ++ relations.flatMap fun result =>
        result.2.errors.filter (·.problem.isDepth) := by
  have hread : (visit.reading catalog entry).errors.filter (·.problem.isDepth) = [] :=
    filter_isDepth_eq_nil Level.blamed_of_mem_errors
  have happly : ((visit.reading catalog entry).apply visit.level).errors.filter
      (·.problem.isDepth) = [] :=
    filter_isDepth_eq_nil Level.Reading.blamed_of_mem_apply
  simp only [planOf, Level.Reading.plan, List.filter_append, hread, happly,
    List.filter_eq_self.2 hdepth, List.nil_append, List.append_nil, List.filter_flatMap]

/-- The errors about depth are those of the nodes at the greatest depth, in the order of the nodes.
-/
theorem Plans.filter_errors (hplans : visit.Plans catalog depth plan)
    (hsound : catalog.Sound) :
    plan.errors.filter (·.problem.isDepth) =
      plan.outline.flatMap fun node => visit.depthErrors catalog depth node.1 := by
  induction depth generalizing visit plan with
  | zero =>
      obtain ⟨entry, rfl⟩ := hplans.eq_deepest
      rw [filter_errors_plan entry (by simp [Problem.isDepth]), Plan.outline_eq]
      simp [planOf, Level.Reading.plan, depthErrors, along?, Text.join_cons_cons]
  | succ depth ih =>
      obtain ⟨relations, hnames, hrelations, entry, rfl⟩ := hplans.exists_below hsound
      rw [filter_errors_plan entry (by simp), List.nil_append, Plan.outline_eq, List.flatMap_cons]
      -- The level itself is not at the greatest depth, so all these errors come from below.
      have hroot : visit.depthErrors catalog (depth + 1) [] = [] := if_pos (Nat.succ_pos depth)
      rw [hroot, List.nil_append, List.flatMap_assoc, planOf, Level.Reading.plan,
        List.flatMap_map]
      refine List.flatMap_congr fun result hmem => ?_
      obtain ⟨child, hbelow, htrace, hchild⟩ := hrelations result hmem
      rw [ih hchild, Plan.outline_withErrors, List.flatMap_map]
      simp only [depthErrors_cons hbelow htrace]

/-! ## One error for each relation -/

/-- The trace of such an error tells its path, if no relation on it has a point in its name. -/
theorem path_of_trace {trace last other : String} {left right : List String}
    (hlength : left.length = right.length) (hleft : ∀ part ∈ left, '.' ∉ part.toList)
    (hright : ∀ part ∈ right, '.' ∉ part.toList)
    (heq : Text.join '.' (trace :: (left ++ [last])) =
      Text.join '.' (trace :: (right ++ [other]))) : left = right ∧ last = other := by
  rw [Text.join_cons trace (by simp), Text.join_cons trace (by simp)] at heq
  exact Text.join_append_inj hlength hleft hright ((String.append_right_inj _).1 heq)

theorem mem_depthErrors {reached : Visit} {path : List String} {error : RequestError}
    (halong : visit.along? catalog path = some reached)
    (hmem : error ∈ visit.depthErrors catalog depth path) :
    depth ≤ path.length ∧ (∀ part ∈ path, '.' ∉ part.toList) ∧
      ∃ name ∈ reached.asked, error =
        ⟨Text.join '.' (visit.level.trace :: (path ++ [name])), .tooDeep maxDepth⟩ := by
  rw [depthErrors] at hmem
  split at hmem
  next => cases hmem
  next hlength =>
    rw [halong] at hmem
    obtain ⟨name, hasked, rfl⟩ := List.mem_map.1 hmem
    have hentries := entries_ne_nil_of_mem_asked hasked
    exact ⟨Nat.le_of_not_lt hlength, (point_notMem_of_along? halong hentries).2, name,
      hasked, rfl⟩

/-- No relation too deep is reported twice. -/
theorem nodup_depthErrors {reached : Visit} {path : List String}
    (halong : visit.along? catalog path = some reached) :
    (visit.depthErrors catalog depth path).Nodup := by
  rw [depthErrors]
  split
  · exact List.nodup_nil
  · rw [halong]
    refine ((Table.keys_nodup _).filter _).map_on fun name hname other _ heq => ?_
    have hentries := entries_ne_nil_of_mem_asked hname
    have hpath := (point_notMem_of_along? halong hentries).2
    exact (path_of_trace rfl hpath hpath (congrArg RequestError.trace heq)).2

/-- No two errors about depth are the same, not even where names of relations have points. -/
theorem Plans.nodup_errors (hplans : visit.Plans catalog depth plan)
    (hresolve : document.resolve = .ok catalog) :
    (plan.errors.filter (·.problem.isDepth)).Nodup := by
  have hnames : ∀ node ∈ plan.outline, node.2.Nodup := by
    intro node hnode
    obtain ⟨_, -, ⟨-, hnodup, -⟩ | ⟨-, hnone⟩⟩ := hplans.shows hresolve hnode
    · exact hnodup
    · rw [hnone]
      exact List.nodup_nil
  have hlength : ∀ node ∈ plan.outline, node.1.length ≤ depth := by
    intro node hnode
    obtain ⟨_, -, ⟨hless, -⟩ | ⟨hequal, -⟩⟩ := hplans.shows hresolve hnode
    · exact hless.le
    · exact hequal.le
  rw [hplans.filter_errors (Document.sound_of_resolve hresolve), List.nodup_flatMap]
  refine ⟨fun node hnode => ?_, ?_⟩
  · obtain ⟨reached, halong, -⟩ := hplans.shows hresolve hnode
    exact nodup_depthErrors halong
  · refine (List.pairwise_map.1 (Plan.nodup_outline hnames)).imp_of_mem
      fun {left right} hleft hright hne => ?_
    -- An error at both ends would have one trace, which only one path leads to.
    refine List.disjoint_left.2 fun error hleftError hrightError => ?_
    obtain ⟨_, hleftAlong, -⟩ := hplans.shows hresolve hleft
    obtain ⟨_, hrightAlong, -⟩ := hplans.shows hresolve hright
    obtain ⟨hleftLength, hleftPath, name, -, rfl⟩ := mem_depthErrors hleftAlong hleftError
    obtain ⟨hrightLength, hrightPath, other, -, heq⟩ := mem_depthErrors hrightAlong hrightError
    have hsame : left.1.length = right.1.length :=
      ((hlength _ hleft).antisymm hleftLength).trans ((hlength _ hright).antisymm hrightLength).symm
    exact hne (path_of_trace hsame hleftPath hrightPath (congrArg RequestError.trace heq)).1

end Visit

/-! ## Plans of requests -/

/-- The errors for relations below the greatest depth that a request asks for at the end of a
path. -/
def Catalog.depthErrors (catalog : Catalog) (resource : String) (target : Target)
    (params : Params) (path : List String) : List RequestError :=
  if path.length < maxDepth then []
  else
    (((catalog.visit? resource target params path).map Visit.asked).getD []).map fun name =>
      ⟨Text.join '.' (resource :: (path ++ [name])), .tooDeep maxDepth⟩

/-- Every level above the greatest depth shows the relations that it projects and those that
entries reach into; a level at that depth shows none, and has one error for each relation that
entries reach into and for each that is named and still projected. -/
theorem Document.plan_depth {document : Document} {catalog : Catalog}
    (hresolve : document.resolve = .ok catalog) {resource : String} {target : Target}
    {params : Params} {plan : Plan}
    (hplan : catalog.plan resource target params = .ok plan) :
    plan.depth ≤ maxDepth ∧
      (∀ node ∈ plan.outline, ∃ visit,
        catalog.visit? resource target params node.1 = some visit ∧
          visit.Shows maxDepth node.1 node.2) ∧
      plan.errors.filter (·.problem.isDepth) =
        plan.outline.flatMap (fun node => catalog.depthErrors resource target params node.1) ∧
      (plan.errors.filter (·.problem.isDepth)).Nodup := by
  have hsound := sound_of_resolve hresolve
  obtain ⟨visit, hplans, -, htrace, hvisit⟩ := hsound.exists_visit hplan
  refine ⟨hplans.depth_le hsound, fun node hnode => ?_, ?_, hplans.nodup_errors hresolve⟩
  · rw [hvisit]
    exact hplans.shows hresolve hnode
  · rw [hplans.filter_errors hsound]
    simp only [Visit.depthErrors, Catalog.depthErrors, hvisit, htrace]

/-- Areas and cabins with a filter four relations away. -/
def Sample.deep : Params := ⟨.ofList [("cabins.area.cabins.area.name", .string "~lake")]⟩

/-- The fourth relation is an error, although the third level shows it by default. -/
theorem plan_depth_cabins :
    ∃ plan, Sample.catalog.plan "area" .list Sample.deep = .ok plan ∧ plan.depth ≤ maxDepth ∧
      (["cabins", "area", "cabins"], []) ∈ plan.outline ∧
      plan.errors.filter (·.problem.isDepth) =
        [⟨"area.cabins.area.cabins.area", .tooDeep maxDepth⟩] := by
  have hknown : (Sample.catalog.resources.get? "area").isSome = true := by decide +kernel
  obtain ⟨resource, hresource⟩ := Option.isSome_iff_exists.1 hknown
  have hsound := Document.sound_of_resolve Sample.resolve_document
  obtain ⟨plan, hplan⟩ := hsound.exists_plan hresource .list Sample.deep
  have hvalue : plan = (Sample.catalog.plan "area" .list Sample.deep).toOption.getD default := by
    rw [hplan]
    rfl
  obtain ⟨hdepth, -, herrors, -⟩ := Document.plan_depth Sample.resolve_document hplan
  rw [hvalue] at herrors
  refine ⟨plan, hplan, hdepth, ?_⟩
  rw [hvalue, herrors]
  decide +kernel

end RestQuery
