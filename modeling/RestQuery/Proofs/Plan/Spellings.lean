import RestQuery.Proofs.Plan.Comparison
import RestQuery.Proofs.Plan.Tree
import RestQuery.Proofs.Request.Spellings

/-!
# Plans for other spellings

A level that reads its entries in another order finds the same controls and the same relations,
and the same filters in another order.  Joins do not depend on the order of filters, so plans for
parameters in other spellings differ in nothing but the order of filters and errors.

Main statement: `Document.plan_respelled`.
-/

namespace RestQuery

/-- Plans that agree but for their errors, the order of their filters and the plans of their
relations. -/
structure Plan.Alike (plan other : Plan) : Prop where
  resource : plan.resource = other.resource
  referrer : plan.referrer = other.referrer
  filters : plan.filters.Perm other.filters
  joins : plan.joins = other.joins
  limit : plan.limit = other.limit
  offset : plan.offset = other.offset
  order : plan.order = other.order
  fields : plan.fields = other.fields
  relations : plan.relations.map Prod.fst = other.relations.map Prod.fst

theorem forall₂_flatMap {R : α → β → Prop} {S : γ → δ → Prop} {look : α → List γ}
    {other : β → List δ} (heach : ∀ {left right}, R left right →
      List.Forall₂ S (look left) (other right))
    {lefts : List α} {rights : List β} (hrel : List.Forall₂ R lefts rights) :
    List.Forall₂ S (lefts.flatMap look) (rights.flatMap other) := by
  induction hrel with
  | nil => exact .nil
  | cons hhead _ ih =>
      rw [List.flatMap_cons, List.flatMap_cons]
      exact List.rel_append (heach hhead) ih

/-! ## Without the spelling -/

namespace Level

def Filter.bare (filter : Level.Filter) : Level.Filter :=
  { filter with parameter := filter.parameter.bare }

/-- What a filter is does not depend on how its key was written. -/
theorem filter_bare (catalog : Catalog) (level : Level) (capability : Capability)
    (parameter : Parameter) :
    level.filter catalog capability parameter.bare =
      (level.filter catalog capability parameter).map Filter.bare := by
  have hkey : parameter.bare.key = parameter.key := rfl
  rw [Level.filter, Level.filter, hkey]
  cases level.subject? catalog parameter.key <;> rfl

end Level

namespace Visit

variable {document : Document} {catalog : Catalog} {visit : Visit} {params : Params}
  {name : String} {depth : Nat} {plan other : Plan}

theorem map_bare_filters (visit : Visit) : (visit.filters catalog).map Level.Filter.bare =
    (visit.routed.filters.map Parameter.bare).filterMap fun parameter =>
      (visit.level.filter catalog visit.capability parameter).toOption := by
  rw [filters, List.map_filterMap, List.filterMap_map]
  refine List.filterMap_congr fun parameter _ => ?_
  rw [Function.comp_apply, Level.filter_bare]
  cases visit.level.filter catalog visit.capability parameter <;> rfl

theorem unknown_bare (catalog : Catalog) (level : Level) (capability : Capability)
    (parameters : List Parameter) :
    (parameters.map Parameter.bare).filterMap (fun parameter =>
        failure? (level.filter catalog capability parameter)) =
      parameters.filterMap fun parameter =>
        failure? (level.filter catalog capability parameter) := by
  rw [List.filterMap_map]
  refine List.filterMap_congr fun parameter _ => ?_
  rw [Function.comp_apply, Level.filter_bare, failure?_map]

/-! ## What a level makes of other spellings -/

section Respelling

variable (hrespells : visit.params.Respells params)

include hrespells

theorem bare_filters_perm : (visit.routed.filters.map Parameter.bare).Perm
    ((visit.withParams params).routed.filters.map Parameter.bare) :=
  hrespells.filters_route

theorem sameControls_respelled :
    visit.routed.SameControls (visit.withParams params).routed := hrespells.control?_route

/-- Respelled parameters ask for the same filters, perhaps in another order. -/
theorem filters_perm : ((visit.filters catalog).map Level.Filter.bare).Perm
    (((visit.withParams params).filters catalog).map Level.Filter.bare) := by
  rw [map_bare_filters, map_bare_filters]
  exact (bare_filters_perm hrespells).filterMap _

/-- What does not depend on the keys of filters as given is found in some order. -/
theorem flatMap_filters_perm {pick : Level.Filter → List α}
    (hbare : ∀ filter : Level.Filter, pick filter.bare = pick filter) :
    ((visit.filters catalog).flatMap pick).Perm
      (((visit.withParams params).filters catalog).flatMap pick) := by
  have hpick : ∀ filters : List Level.Filter,
      (filters.map Level.Filter.bare).flatMap pick = filters.flatMap pick := by
    intro filters
    rw [List.flatMap_map]
    exact List.flatMap_congr fun filter _ => hbare filter
  rw [← hpick, ← hpick ((visit.withParams params).filters catalog)]
  exact (filters_perm hrespells).flatMap_right _

theorem joins_perm (name : String) :
    ((visit.filters catalog).filterMap (Level.Filter.join? name)).Perm
      (((visit.withParams params).filters catalog).filterMap (Level.Filter.join? name)) := by
  rw [List.filterMap_eq_flatMap_toList, List.filterMap_eq_flatMap_toList]
  exact flatMap_filters_perm hrespells fun _ => rfl

theorem unknown_perm : (visit.routed.filters.filterMap fun parameter =>
      failure? (visit.level.filter catalog visit.capability parameter)).Perm
    ((visit.withParams params).routed.filters.filterMap fun parameter =>
      failure? (visit.level.filter catalog visit.capability parameter)) := by
  rw [← unknown_bare, ← unknown_bare _ _ _ (visit.withParams params).routed.filters]
  exact (bare_filters_perm hrespells).filterMap _

theorem projection_respelled : visit.projection = (visit.withParams params).projection :=
  congrArg Prod.fst (Level.projection_congr (sameControls_respelled hrespells))

theorem nests_respelled (name : String) :
    visit.nests name = (visit.withParams params).nests name := by
  have hrests : ∀ visit : Visit, visit.nests name = true ↔
      (visit.params.entries.entries.filterMap fun entry =>
        (visit.route entry.1 entry.2).bare.rest? name) ≠ [] := by
    intro visit
    rw [nests, List.any_eq_true, Ne, List.filterMap_eq_nil_iff, not_forall]
    refine exists_congr fun entry => ?_
    rw [not_forall, exists_prop, ← Route.isSome_rest?, Route.rest?_bare, Option.map_eq_none_iff,
      ← Option.not_isSome_iff_eq_none, not_not]
  have hperm : (visit.params.entries.entries.filterMap fun entry =>
        (visit.route entry.1 entry.2).bare.rest? name).Perm
      (params.entries.entries.filterMap fun entry =>
        (visit.route entry.1 entry.2).bare.rest? name) := hrespells.filterMap_perm (·.rest? name)
  rw [Bool.eq_iff_iff, hrests, hrests]
  refine not_congr ⟨fun hnil => ?_, fun hnil => ?_⟩
  · exact (hnil ▸ hperm).nil_eq.symm
  · exact (hnil ▸ hperm).eq_nil

theorem shown_respelled : visit.shown = (visit.withParams params).shown := by
  rw [shown, shown, projection_respelled hrespells, level_withParams]
  exact List.filter_congr fun name _ => by rw [nests_respelled hrespells]

theorem names_respelled (name : String) :
    visit.names name = (visit.withParams params).names name := by
  have hlist : ∀ given : Option Parameter, (given.map Parameter.bare).bind
      (Level.fieldList? ·.value) = given.bind (Level.fieldList? ·.value) := by
    intro given
    cases given <;> rfl
  rw [names, names, fieldList?, fieldList?, ← hlist, sameControls_respelled hrespells, hlist]
  rfl

/-- Respelled parameters ask for the same relations. -/
theorem asked_respelled : visit.asked = (visit.withParams params).asked := by
  rw [asked, asked, projection_respelled hrespells, level_withParams]
  exact List.filter_congr fun name _ => by
    rw [nests_respelled hrespells, names_respelled hrespells]

theorem readErrors_perm :
    (visit.readErrors catalog).Perm ((visit.withParams params).readErrors catalog) := by
  have hcontrols := sameControls_respelled hrespells
  rw [readErrors, readErrors, level_withParams, capability_withParams,
    Level.limit_congr hcontrols, Level.offset_congr hcontrols, Level.order_congr hcontrols,
    Level.projection_congr hcontrols]
  exact ((((unknown_perm hrespells).append_right _).append_right _).append_right _).append_right _

theorem applyErrors_perm :
    (visit.applyErrors catalog).Perm ((visit.withParams params).applyErrors catalog) := by
  rw [applyErrors, applyErrors, level_withParams,
    Level.search_congr (sameControls_respelled hrespells)]
  exact (flatMap_filters_perm hrespells fun _ => rfl).append_right _

variable {referrer : String} {depthErrors : List RequestError}
  {relations others : List (String × Plan)}

/-- Respelled parameters give plans that agree but for errors and the order of filters. -/
theorem alike_planOf (hnames : relations.map Prod.fst = others.map Prod.fst) :
    (visit.planOf catalog referrer depthErrors relations).Alike
      ((visit.withParams params).planOf catalog referrer depthErrors others) := by
  have hcontrols := sameControls_respelled hrespells
  obtain ⟨hlimit, hoffset, horder, hfields⟩ :=
    planOf_of_sameControls hcontrols referrer depthErrors relations others
  refine ⟨rfl, rfl, ?_, Table.ext_get? fun name => ?_, hlimit, hoffset, horder, hfields, ?_⟩
  · rw [filters_planOf, filters_planOf, level_withParams, Level.search_congr hcontrols]
    exact (flatMap_filters_perm hrespells fun _ => rfl).append_right _
  · rw [get?_joins_planOf, get?_joins_planOf]
    exact JoinKind.strongest_perm (joins_perm hrespells name)
  · rw [names_planOf, names_planOf, hnames]

/-- Respelled parameters give the same errors, perhaps in another order. -/
theorem errors_planOf_perm
    (hbelow : List.Forall₂ (fun left right => left.2.errors.Perm right.2.errors)
      relations others) :
    (visit.planOf catalog referrer depthErrors relations).errors.Perm
      ((visit.withParams params).planOf catalog referrer depthErrors others).errors := by
  rw [errors_planOf_eq, errors_planOf_eq]
  have hrouted : visit.routed.errors.Perm (visit.withParams params).routed.errors :=
    hrespells.errors_route
  exact ((((hrouted.append (readErrors_perm hrespells)).append_right _).append
    (applyErrors_perm hrespells)).append (flatMap_perm_of_forall₂ hbelow))

end Respelling

/-! ## Plans -/

/-- Plans of relations are alike node by node without their errors, too. -/
theorem alike_nodesBelow {relations others : List (String × Plan)}
    (hrelations : List.Forall₂ (fun left right : String × Plan =>
      List.Forall₂ Plan.Alike left.2.nodes right.2.nodes) relations others) :
    List.Forall₂ Plan.Alike
      (Plan.nodesBelow (relations.map fun result => (result.1, { result.2 with errors := [] })))
      (Plan.nodesBelow (others.map fun result => (result.1, { result.2 with errors := [] }))) := by
  rw [Plan.nodesBelow_eq_flatMap, Plan.nodesBelow_eq_flatMap, List.flatMap_map, List.flatMap_map]
  refine forall₂_flatMap (fun hnodes => ?_) hrelations
  rw [Plan.nodes_eq, Plan.nodes_eq] at hnodes ⊢
  obtain ⟨hroot, hbelow⟩ := List.forall₂_cons.1 hnodes
  exact .cons ⟨hroot.resource, hroot.referrer, hroot.filters, hroot.joins, hroot.limit,
    hroot.offset, hroot.order, hroot.fields, hroot.relations⟩ hbelow

/-- Plans of one level for parameters in different spellings are alike, with the same errors in
some order. -/
theorem Plans.alike (hplans : visit.Plans catalog depth plan)
    (hother : (visit.withParams params).Plans catalog depth other) (hsound : catalog.Sound)
    (hrespells : visit.params.Respells params) :
    List.Forall₂ Plan.Alike plan.nodes other.nodes ∧ plan.errors.Perm other.errors := by
  induction depth generalizing visit params plan other with
  | zero =>
      have hreferrer : plan.referrer = other.referrer := hplans.referrer_eq hother rfl
      obtain ⟨referrer, rfl⟩ := hplans.eq_deepest
      obtain ⟨otherReferrer, rfl⟩ := hother.eq_deepest
      obtain rfl : referrer = otherReferrer := hreferrer
      rw [level_withParams, ← asked_respelled hrespells, Plan.nodes_eq, Plan.nodes_eq]
      exact ⟨.cons (alike_planOf hrespells rfl) .nil, errors_planOf_perm hrespells .nil⟩
  | succ depth ih =>
      obtain ⟨referrer, relations, others, rfl, rfl, hnames, hotherNames, hboth⟩ :=
        hplans.exists_below_both hother hsound
      have hshown : relations.map Prod.fst = others.map Prod.fst := by
        rw [hnames, hotherNames, shown_respelled hrespells]
      have hbelow : List.Forall₂ (fun left right : String × Plan =>
          List.Forall₂ Plan.Alike left.2.nodes right.2.nodes ∧
            left.2.errors.Perm right.2.errors) relations others := by
        refine forall₂_of_map_eq hshown fun left hleft right hright hname => ?_
        obtain ⟨child, hbelow, -, hchild, hplan⟩ := hboth left hleft right hright hname
        refine ih hchild hplan ?_
        rw [params_of_below? hbelow]
        exact hrespells.nested left.1
      rw [Plan.nodes_eq, Plan.nodes_eq]
      refine ⟨.cons (alike_planOf hrespells hshown) ?_, errors_planOf_perm hrespells ?_⟩
      · exact alike_nodesBelow (hbelow.imp fun _ _ => And.left)
      · exact hbelow.imp fun _ _ => And.right

end Visit

/-- Requests whose keys are spelled in different ways, but mean the same with the same values, have
plans that agree node by node but for the order of filters, and the same errors in some order. -/
theorem Document.plan_respelled {document : Document} {catalog : Catalog}
    (hresolve : document.resolve = .ok catalog) {resource : String} {target : Target}
    {params others : Params} {plan : Plan}
    (hplan : catalog.plan resource target params = .ok plan)
    (hrespells : params.Respells others) :
    ∃ other, catalog.plan resource target others = .ok other ∧
      List.Forall₂ Plan.Alike plan.nodes other.nodes ∧ plan.errors.Perm other.errors := by
  have hsound := sound_of_resolve hresolve
  obtain ⟨visit, other, -, -, rfl, hplans, hothers, hother⟩ := hsound.exists_plans hplan others
  exact ⟨other, hother, hplans.alike hothers hsound hrespells⟩

/-- Areas by their names and those of their cabins, with the area of each cabin by its name. -/
def Sample.camelCase : Params :=
  ⟨[("Cabins.Area.name", .string "~hill"), ("Name", .string "~lake"),
    ("cabins.name", .string "~red")], by decide⟩

def Sample.capitals : Params :=
  ⟨[("CABINS.NAME", .string "~red"), ("cabins.area.name", .string "~hill"),
    ("name", .string "~lake")], by decide⟩

theorem plan_respelled_cabins :
    ∃ plan other, Sample.catalog.plan "area" .list Sample.camelCase = .ok plan ∧
      Sample.catalog.plan "area" .list Sample.capitals = .ok other ∧
      plan.filters.map Clause.scope? = [some .resource, some (.relation "cabins")] ∧
      other.filters.map Clause.scope? = [some (.relation "cabins"), some .resource] ∧
      List.Forall₂ Plan.Alike plan.nodes other.nodes ∧ plan.errors.Perm other.errors := by
  have hplan : Sample.catalog.plan "area" .list Sample.camelCase =
      .ok ((Sample.catalog.plan "area" .list Sample.camelCase).toOption.getD default) :=
    eq_ok_of_isOk default (by decide +kernel)
  have hrespells : Sample.camelCase.Respells Sample.capitals := by
    have harea : Key.normal "Cabins.Area.name" = Key.normal "cabins.area.name" := by
      decide +kernel
    have hname : Key.normal "Name" = Key.normal "name" := by decide +kernel
    have hcabins : Key.normal "cabins.name" = Key.normal "CABINS.NAME" := by decide +kernel
    refine ⟨?_, by decide +kernel⟩
    have hmeanings : Sample.camelCase.meanings =
        [(Key.normal "cabins.area.name", .string "~hill"), (Key.normal "name", .string "~lake")]
          ++ [(Key.normal "CABINS.NAME", .string "~red")] := by
      rw [← harea, ← hname, ← hcabins]
      rfl
    rw [hmeanings]
    exact List.perm_append_comm
  obtain ⟨other, hother, halike⟩ :=
    Document.plan_respelled Sample.resolve_document hplan hrespells
  refine ⟨_, other, hplan, hother, by decide +kernel, ?_, halike⟩
  have hvalue : other =
      (Sample.catalog.plan "area" .list Sample.capitals).toOption.getD default := by
    rw [hother]
    rfl
  rw [hvalue]
  decide +kernel

end RestQuery
