import RestQuery.Proofs.Plan.Readings

/-!
# Requests to one resource

Requests to one resource visit its level under one capability, each with its own parameters, and
every one of them has a plan.  What two plans have in common is found level by level: the plans
of relations are compared name by name.

Main statements: `Catalog.Sound.exists_plans` and `Visit.Plans.unique`.
-/

namespace RestQuery

/-- Items that agree by position in something are related if all that agree in it are. -/
theorem forall₂_of_map_eq {R : α → β → Prop} {look : α → γ} {other : β → γ} {lefts : List α}
    {rights : List β} (hmap : lefts.map look = rights.map other)
    (heach : ∀ left ∈ lefts, ∀ right ∈ rights, look left = other right → R left right) :
    List.Forall₂ R lefts rights := by
  induction lefts generalizing rights with
  | nil =>
      rw [List.map_eq_nil_iff.1 hmap.symm]
      exact .nil
  | cons left rest ih =>
      cases rights with
      | nil => cases hmap
      | cons right others =>
          obtain ⟨hhead, htail⟩ := List.cons.inj hmap
          refine .cons (heach left List.mem_cons_self right List.mem_cons_self hhead) ?_
          exact ih htail fun next hnext last hlast =>
            heach next (List.mem_cons_of_mem _ hnext) last (List.mem_cons_of_mem _ hlast)

/-- Items that agree by position in something are the same if all that agree in it are. -/
theorem eq_of_map_eq {look : α → γ} {lefts rights : List α}
    (hmap : lefts.map look = rights.map look)
    (heach : ∀ left ∈ lefts, ∀ right ∈ rights, look left = look right → left = right) :
    lefts = rights := by
  rw [← List.forall₂_eq_eq_eq]
  exact forall₂_of_map_eq hmap heach

/-! ## Items left out -/

section Leaving

variable {kept : α → Bool} (keeps : β → Bool) {items : List α}

theorem flatMap_filter {f : α → List β}
    (hkept : ∀ item ∈ items, ∀ result ∈ f item, keeps result = kept item) :
    (items.filter kept).flatMap f = (items.flatMap f).filter keeps := by
  rw [List.filter_flatMap]
  induction items with
  | nil => rfl
  | cons item rest ih =>
      obtain ⟨hitem, hrest⟩ := List.forall_mem_cons.1 hkept
      cases hk : kept item with
      | true =>
          rw [List.filter_cons_of_pos hk, List.flatMap_cons, List.flatMap_cons, ih hrest,
            List.filter_eq_self.2 fun result hresult => (hitem result hresult).trans hk]
      | false =>
          have hnone : (f item).filter keeps = [] :=
            List.filter_eq_nil_iff.2 fun result hresult => by simp [hitem result hresult, hk]
          rw [List.filter_cons_of_neg (by simp [hk]), List.flatMap_cons, hnone, ih hrest]
          rfl

theorem filterMap_filter {f : α → Option β}
    (hkept : ∀ item ∈ items, ∀ result ∈ f item, keeps result = kept item) :
    (items.filter kept).filterMap f = (items.filterMap f).filter keeps := by
  rw [List.filterMap_eq_flatMap_toList, List.filterMap_eq_flatMap_toList]
  exact flatMap_filter _ fun item hitem result hresult =>
    hkept item hitem result (Option.mem_toList.1 hresult)

/-- Leaving out items that give nothing changes nothing. -/
theorem filterMap_filter_of_eq_none {f : α → Option β}
    (hnone : ∀ item ∈ items, kept item = false → f item = none) :
    (items.filter kept).filterMap f = items.filterMap f := by
  rw [List.filterMap_filter]
  refine List.filterMap_congr fun item hitem => ?_
  cases hk : kept item with
  | true => rfl
  | false => exact (hnone item hitem hk).symm

/-- Of items with keys of their own, one gives all if the others give nothing. -/
theorem flatMap_eq_of_others {key : α → γ} {f : α → List β} (hnodup : (items.map key).Nodup)
    {item : α} (hitem : item ∈ items)
    (hothers : ∀ other ∈ items, key other ≠ key item → f other = []) :
    items.flatMap f = f item := by
  induction items with
  | nil => cases hitem
  | cons head rest ih =>
      obtain ⟨hhead, hrest⟩ := List.nodup_cons.1 hnodup
      obtain ⟨hfirst, hlater⟩ := List.forall_mem_cons.1 hothers
      rw [List.flatMap_cons]
      rcases List.mem_cons.1 hitem with rfl | hmem
      · have hnone : rest.flatMap f = [] := List.flatMap_eq_nil_iff.2 fun other hother =>
          hlater other hother fun hsame => hhead (hsame ▸ List.mem_map_of_mem hother)
        rw [hnone, List.append_nil]
      · rw [hfirst fun hsame => hhead (hsame ▸ List.mem_map_of_mem hmem), List.nil_append,
          ih hrest hmem hlater]

/-- Where all that is looked for is left out, or none of it. -/
theorem find?_filter {wanted kept : α → Bool} (all : Bool) {items : List α}
    (hkept : ∀ item ∈ items, wanted item = true → kept item = all) :
    (items.filter kept).find? wanted = (items.find? wanted).filter kept := by
  induction items with
  | nil => rfl
  | cons item rest ih =>
      obtain ⟨hitem, hrest⟩ := List.forall_mem_cons.1 hkept
      cases hwanted : wanted item with
      | false => cases hk : kept item <;> simp [hk, hwanted, ih hrest]
      | true =>
          have hk := hitem hwanted
          cases all with
          | true => simp [hk, hwanted, Option.filter]
          | false =>
              rw [List.filter_cons_of_neg (by simp [hk]), ih hrest, List.find?_cons_of_pos hwanted,
                Option.filter_some_neg (by simp [hk])]
              cases hfind : rest.find? wanted with
              | none => rfl
              | some found =>
                  have hfound := hrest found (List.mem_of_find?_eq_some hfind)
                    (List.find?_some hfind)
                  rw [Option.filter_some_neg (by simp [hfound])]

end Leaving

/-! ## Errors at a place -/

/-- Whether an error is about what is found at a place, and not about depth. -/
def RequestError.isAt (located : String) (error : RequestError) : Bool :=
  error.trace == located && !error.problem.isDepth

theorem RequestError.not_isAt {error : RequestError} {located other : String}
    (hat : error.isAt located = true) : (!error.isAt other) = (located != other) := by
  obtain ⟨htrace, hlocal⟩ := Bool.and_eq_true_iff.1 hat
  rw [isAt, hlocal, Bool.and_true, beq_iff_eq.1 htrace]
  rfl

namespace Route

def trace : Route → String
  | filter parameter | control parameter | relation _ _ parameter => parameter.trace
  | refused error => error.trace

variable {route : Route} {located : String}

theorem Traced.trace_eq (htraced : route.Traced located) : route.trace = located := by
  cases route with
  | filter parameter => exact htraced
  | control parameter => exact htraced
  | relation name rest parameter => exact htraced
  | refused error => exact htraced.1

/-- An entry is refused where its trace says. -/
theorem Traced.isAt (htraced : route.Traced located) {taken : List Place} {error : RequestError}
    (herror : route.refusal? taken = some error) : error.isAt located = true := by
  have hduplicate : ∀ {parameter : Parameter} {p : Prop} [Decidable p],
      parameter.trace = located →
        (if p then some (parameter.error .duplicateParameter) else none) = some error →
          error.isAt located = true := by
    intro parameter p _ htrace herror
    obtain ⟨-, rfl⟩ := Option.ite_some_none_eq_some.1 herror
    simp [RequestError.isAt, Parameter.error, htrace, Problem.isDepth]
  cases route with
  | filter parameter => cases herror
  | control parameter => exact hduplicate htraced herror
  | relation name rest parameter => exact hduplicate htraced herror
  | refused refusal =>
      obtain rfl := Option.some.inj herror
      simp [RequestError.isAt, htraced.1, htraced.2]

end Route

/-! ## Plans for one level -/

theorem Plan.eq_of_parts {left right : Plan} (hresource : left.resource = right.resource)
    (hreferrer : left.referrer = right.referrer) (hfilters : left.filters = right.filters)
    (hjoins : left.joins = right.joins) (hlimit : left.limit = right.limit)
    (hoffset : left.offset = right.offset) (horder : left.order = right.order)
    (hfields : left.fields = right.fields) (hrelations : left.relations = right.relations)
    (herrors : left.errors = right.errors) : left = right := by
  cases left
  cases right
  simp_all

theorem Route.isSome_rest? (route : Route) (name : String) :
    (route.rest? name).isSome = route.leadsTo name := by
  cases route with
  | relation other rest parameter => by_cases hname : other = name <;> simp [rest?, leadsTo, hname]
  | filter parameter => rfl
  | control parameter => rfl
  | refused error => rfl

theorem Route.exists_of_leadsTo {route : Route} {name : String}
    (hleads : route.leadsTo name = true) :
    ∃ rest parameter, route = .relation name rest parameter := by
  rw [← isSome_rest?] at hleads
  obtain ⟨rest, hrest⟩ := Option.isSome_iff_exists.1 hleads
  obtain ⟨parameter, hroute⟩ := rest?_eq_some_iff.1 hrest
  exact ⟨rest, parameter, hroute⟩

namespace Visit

variable {catalog : Catalog} {visit : Visit} {depth : Nat} {plan other : Plan} {params : Params}
  {name : String}

def withParams (visit : Visit) (params : Params) : Visit := { visit with params }

theorem level_withParams (visit : Visit) (params : Params) :
    (visit.withParams params).level = visit.level := rfl

theorem capability_withParams (visit : Visit) (params : Params) :
    (visit.withParams params).capability = visit.capability := rfl

theorem filters_routed (visit : Visit) : visit.routed.filters =
    visit.params.entries.entries.filterMap fun entry =>
      (visit.route entry.1 entry.2).filter? := Params.filters_route _ _ _

theorem control?_routed (visit : Visit) (control : Control) : visit.routed.control? control =
    (visit.params.entries.entries.filterMap fun entry =>
      (visit.route entry.1 entry.2).control?).find? (·.key == control.name) :=
  Params.control?_route _ _ _ control

/-- Problems with a control are found at its name, however the key for it is spelled. -/
theorem trace_of_control? {control : Control} {parameter : Parameter}
    (hgiven : visit.routed.control? control = some parameter) :
    parameter.trace = visit.level.trace ++ "." ++ control.name := by
  rw [control?_routed] at hgiven
  obtain ⟨entry, -, hcontrol⟩ := List.mem_filterMap.1 (List.mem_of_find?_eq_some hgiven)
  obtain ⟨hkey, htrace⟩ := Keys.key_of_control? hcontrol
  have hname := List.find?_some hgiven
  rw [beq_iff_eq] at hname
  rw [htrace, ← hkey, hname]

theorem getD_relations_routed (visit : Visit) (name : String) :
    (visit.routed.relations.get? name).getD {} =
      ⟨.ofList (visit.params.entries.entries.filterMap fun entry =>
        ((visit.route entry.1 entry.2).rest? name).map (·, entry.2))⟩ :=
  Params.getD_relations_route _ _ _ name

theorem errors_routed (visit : Visit) : visit.routed.errors =
    (Route.refusals [] (visit.params.entries.entries.map fun entry =>
      visit.route entry.1 entry.2)).map Prod.snd := Params.errors_route _ _ _

theorem Plans.capability_eq (hplans : visit.Plans catalog depth plan) :
    visit.level.capability = .ok (plan.referrer, visit.capability) := by
  obtain ⟨entry, hentry⟩ := hplans.hasEntry
  obtain ⟨params, reading, hread, -, hreferrer, -⟩ :=
    (Level.gives_of_planWithin hplans.isPlan).read
  obtain ⟨found, capability, hfound, rfl⟩ := Level.read_eq_ok_iff.1 hread
  have hname : plan.referrer = found := hreferrer
  rw [hentry] at hfound
  rw [hentry, hname, (Prod.mk.inj (Except.ok.inj hfound)).1]

theorem Plans.referrer_eq {left right : Visit} (hleft : left.Plans catalog depth plan)
    (hright : right.Plans catalog depth other) (hlevel : left.level = right.level) :
    plan.referrer = other.referrer := by
  have hentry := hleft.capability_eq
  rw [hlevel, hright.capability_eq] at hentry
  exact (Prod.mk.inj (Except.ok.inj hentry)).1.symm

/-- There is one plan for a visit, at each depth. -/
theorem Plans.unique (hplan : visit.Plans catalog depth plan)
    (hother : visit.Plans catalog depth other) : plan = other :=
  Except.ok.inj (hplan.isPlan.symm.trans hother.isPlan)

/-- A visit that has a plan has one with any other parameters. -/
theorem Plans.exists_withParams (hplans : visit.Plans catalog depth plan)
    (hsound : catalog.Sound) (params : Params) :
    ∃ other, (visit.withParams params).Plans catalog depth other := by
  obtain ⟨other, hother⟩ := Level.exists_planWithin hsound depth hplans.held params
  exact ⟨other, hplans.held, hplans.hasEntry, hother⟩

/-- Relations for which two sets of parameters are the same are visited in the same way. -/
theorem below?_withParams
    (hnested : ((visit.withParams params).routed.relations.get? name).getD {} =
      (visit.routed.relations.get? name).getD {}) :
    (visit.withParams params).below? catalog name = visit.below? catalog name := by
  rw [below?, below?, hnested]
  rfl

/-- Where the same controls are given, plans of a level agree on what these decide. -/
theorem planOf_of_sameControls
    (hsame : visit.routed.SameControls (visit.withParams params).routed) (referrer : String)
    (depthErrors : List RequestError) (relations others : List (String × Plan)) :
    let plan := visit.planOf catalog referrer depthErrors relations
    let other := (visit.withParams params).planOf catalog referrer depthErrors others
    plan.limit = other.limit ∧ plan.offset = other.offset ∧ plan.order = other.order ∧
      plan.fields = other.fields := by
  have hlimit : Level.limit visit.capability visit.routed =
      Level.limit visit.capability (visit.withParams params).routed := Level.limit_congr hsame
  have hoffset : Level.offset visit.capability visit.routed =
      Level.offset visit.capability (visit.withParams params).routed := Level.offset_congr hsame
  have horder : visit.level.order visit.capability visit.routed =
      visit.level.order visit.capability (visit.withParams params).routed :=
    Level.order_congr hsame
  have hprojection : visit.projection = (visit.withParams params).projection :=
    congrArg Prod.fst (Level.projection_congr hsame)
  dsimp only
  rw [limit_planOf, offset_planOf, order_planOf, fields_planOf, hlimit, hoffset, horder,
    hprojection]
  exact ⟨rfl, rfl, rfl, rfl⟩

theorem params_of_below? {child : Visit} (hbelow : visit.below? catalog name = some child) :
    child.params = (visit.routed.relations.get? name).getD {} := by
  obtain ⟨-, -, -, hparams, -⟩ := below?_eq_some_iff.1 hbelow
  exact hparams

/-- Whatever the parameters, a relation leads to one level under one capability. -/
theorem eq_withParams_of_below? {child found : Visit}
    (hbelow : visit.below? catalog name = some child)
    (hfound : (visit.withParams params).below? catalog name = some found) :
    found =
      child.withParams (((visit.withParams params).routed.relations.get? name).getD {}) := by
  obtain ⟨relation, hrelation, hchild, -, entry, hentry⟩ := below?_eq_some_iff.1 hbelow
  obtain ⟨other, hother, hlevel, hparams, otherEntry, hotherEntry⟩ := below?_eq_some_iff.1 hfound
  obtain rfl := Option.some.inj (hrelation.symm.trans hother)
  obtain ⟨level, capability, given⟩ := found
  obtain rfl : child.level = level := Except.ok.inj (hchild.symm.trans hlevel)
  obtain ⟨-, rfl⟩ := Prod.mk.inj (Except.ok.inj (hentry.symm.trans hotherEntry))
  rw [withParams, ← hparams]

/-- Whether a relation can be followed does not depend on the parameters. -/
theorem below?_withParams_of_below? {child : Visit}
    (hbelow : visit.below? catalog name = some child) (params : Params) :
    (visit.withParams params).below? catalog name =
      some (child.withParams (((visit.withParams params).routed.relations.get? name).getD {})) := by
  obtain ⟨relation, hrelation, hchild, -, hentry⟩ := below?_eq_some_iff.1 hbelow
  exact below?_eq_some_iff.2 ⟨relation, hrelation, hchild, rfl, hentry⟩

/-- Plans of a level for two sets of parameters hold the plans of one child for each relation that
both show, with the parameters that go there. -/
theorem Plans.exists_below_both (hplans : visit.Plans catalog (depth + 1) plan)
    (hother : (visit.withParams params).Plans catalog (depth + 1) other)
    (hsound : catalog.Sound) :
    ∃ (referrer : String) (relations others : List (String × Plan)),
      plan = visit.planOf catalog referrer [] relations ∧
      other = (visit.withParams params).planOf catalog referrer [] others ∧
      relations.map Prod.fst = visit.shown ∧
      others.map Prod.fst = (visit.withParams params).shown ∧
      ∀ left ∈ relations, ∀ right ∈ others, left.1 = right.1 →
        ∃ child, visit.below? catalog left.1 = some child ∧
          child.level.trace = visit.level.trace ++ "." ++ left.1 ∧
          child.Plans catalog depth left.2 ∧
          (child.withParams (((visit.withParams params).routed.relations.get?
            left.1).getD {})).Plans catalog depth right.2 := by
  have hreferrer : plan.referrer = other.referrer := hplans.referrer_eq hother rfl
  obtain ⟨relations, hnames, hrelations, referrer, rfl⟩ := hplans.exists_below hsound
  obtain ⟨others, hotherNames, hothers, otherReferrer, rfl⟩ := hother.exists_below hsound
  obtain rfl : referrer = otherReferrer := hreferrer
  refine ⟨referrer, relations, others, rfl, rfl, hnames, hotherNames, ?_⟩
  intro left hleft right hright hname
  obtain ⟨child, hbelow, htrace, hchild⟩ := hrelations left hleft
  obtain ⟨found, hfound, -, hplan⟩ := hothers right hright
  rw [← hname] at hfound
  rw [eq_withParams_of_below? hbelow hfound] at hplan
  exact ⟨child, hbelow, htrace, hchild, hplan⟩

/-- Plans of a level for two sets of parameters that mean the same for its relations hold the same
plans of these, and the same errors about depth. -/
theorem Plans.exists_planOf_both (hplans : visit.Plans catalog depth plan)
    (hother : (visit.withParams params).Plans catalog depth other) (hsound : catalog.Sound)
    (hnests : (visit.withParams params).nests = visit.nests)
    (hnested : ∀ name, ((visit.withParams params).routed.relations.get? name).getD {} =
      (visit.routed.relations.get? name).getD {})
    (hprojection : visit.level.projection visit.capability (visit.withParams params).routed =
      visit.level.projection visit.capability visit.routed) :
    ∃ (referrer : String) (depthErrors : List RequestError) (relations : List (String × Plan)),
      (∀ error ∈ depthErrors, error.problem.isDepth = true) ∧
        plan = visit.planOf catalog referrer depthErrors relations ∧
        other = (visit.withParams params).planOf catalog referrer depthErrors relations := by
  have hreferrer : plan.referrer = other.referrer := hplans.referrer_eq hother rfl
  have hshows : (visit.withParams params).projection = visit.projection :=
    congrArg Prod.fst hprojection
  cases depth with
  | zero =>
      have hnames : (visit.withParams params).names = visit.names := by
        funext name
        have hnamed : ∀ other : Visit, (other.reading catalog "").named.contains name =
            other.names name := fun _ => contains_named ""
        rw [← hnamed, ← hnamed]
        exact congrArg (·.2.1.contains name) hprojection
      have hasked : (visit.withParams params).asked = visit.asked := by
        rw [asked, asked, hnests, hnames, hshows, level_withParams]
      obtain ⟨referrer, rfl⟩ := hplans.eq_deepest
      obtain ⟨otherReferrer, rfl⟩ := hother.eq_deepest
      obtain rfl : referrer = otherReferrer := hreferrer
      refine ⟨referrer, _, [], List.forall_mem_map.2 fun _ _ => rfl, rfl, ?_⟩
      rw [hasked, level_withParams]
  | succ depth =>
      obtain ⟨referrer, relations, others, rfl, rfl, hnames, hotherNames, hboth⟩ :=
        hplans.exists_below_both hother hsound
      have hshown : (visit.withParams params).shown = visit.shown := by
        rw [shown, shown, hnests, hshows, level_withParams]
      have hrelations : relations = others := by
        refine eq_of_map_eq ((hnames.trans hshown.symm).trans hotherNames.symm) ?_
        intro left hleft right hright hname
        obtain ⟨child, hbelow, -, hchild, hplan⟩ := hboth left hleft right hright hname
        rw [hnested, ← params_of_below? hbelow] at hplan
        exact Prod.ext hname (hchild.unique hplan)
      exact ⟨referrer, [], relations, by simp, rfl, by rw [hrelations]⟩

end Visit

theorem Catalog.visit?_nil_eq_some_iff {catalog : Catalog} {resource : String} {target : Target}
    {params : Params} {visit : Visit} :
    catalog.visit? resource target params [] = some visit ↔
      Level.root catalog resource target = .ok visit.level ∧ visit.params = params ∧
        ∃ entry, visit.level.capability = .ok (entry, visit.capability) := by
  rw [Catalog.visit?]
  cases hroot : Level.root catalog resource target with
  | error fault => simp [Except.toOption]
  | ok level =>
      simp only [Except.toOption, Visit.along?, bind, Option.bind_some, Option.bind_fun_some,
        Visit.ofLevel?_eq_some_iff, Except.ok.injEq]
      constructor
      · rintro ⟨rfl, hvisit⟩
        exact ⟨rfl, hvisit⟩
      · rintro ⟨rfl, hvisit⟩
        exact ⟨rfl, hvisit⟩

/-- The visits of a request start from the one of its resource. -/
theorem Catalog.visit?_eq_along? {catalog : Catalog} {resource : String} {target : Target}
    {params : Params} {visit : Visit}
    (hroot : catalog.visit? resource target params [] = some visit) (path : List String) :
    catalog.visit? resource target params path = visit.along? catalog path := by
  obtain ⟨level, hlevel, hvisit⟩ := Option.bind_eq_some_iff.1 hroot
  obtain ⟨root, hfound, halong⟩ := Option.bind_eq_some_iff.1 hvisit
  obtain rfl := Option.some.inj halong
  simp only [Catalog.visit?, hlevel, hfound, bind, Option.bind_some]

/-- The visits of any other request to the resource start there too. -/
theorem Catalog.visit?_eq_withParams_along? {catalog : Catalog} {resource : String}
    {target : Target} {params : Params} {visit : Visit}
    (hroot : catalog.visit? resource target params [] = some visit) (others : Params)
    (path : List String) :
    catalog.visit? resource target others path = (visit.withParams others).along? catalog path := by
  obtain ⟨hlevel, -, hentry⟩ := visit?_nil_eq_some_iff.1 hroot
  have hothers : catalog.visit? resource target others [] = some (visit.withParams others) :=
    visit?_nil_eq_some_iff.2 ⟨hlevel, rfl, hentry⟩
  exact visit?_eq_along? hothers path

/-- All requests to a resource have plans if one of them has. -/
theorem Catalog.Sound.exists_plans {catalog : Catalog} (hsound : catalog.Sound)
    {resource : String} {target : Target} {params : Params} {plan : Plan}
    (hplan : catalog.plan resource target params = .ok plan) (others : Params) :
    ∃ (visit : Visit) (other : Plan),
      catalog.visit? resource target params [] = some visit ∧
        visit.level.trace = resource ∧ visit.params = params ∧
        visit.Plans catalog maxDepth plan ∧
        (visit.withParams others).Plans catalog maxDepth other ∧
        catalog.plan resource target others = .ok other := by
  obtain ⟨visit, hplans, hparams, htrace, halong⟩ := hsound.exists_visit hplan
  have hvisit : catalog.visit? resource target params [] = some visit := halong []
  obtain ⟨other, hother⟩ := hplans.exists_withParams hsound others
  obtain ⟨hroot, -, -⟩ := visit?_nil_eq_some_iff.1 hvisit
  refine ⟨visit, other, hvisit, htrace, hparams, hplans, hother, ?_⟩
  exact bind_eq_ok_iff.2 ⟨visit.level, hroot, hother.isPlan⟩

end RestQuery
