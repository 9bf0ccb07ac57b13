import RestQuery.Proofs.Plan.Comparison
import RestQuery.Proofs.Plan.Origins

/-!
# Relations of one level

What a level makes of its parameters depends on the entries that stay there, and the plan of a
relation on those that go to it.  So entries for one relation decide on its plan and on the
errors that they raise, and on nothing else.

Main statement: `Document.siblings_independent`.
-/

namespace RestQuery

/-- The relation that an entry goes to. -/
def Route.relation? : Route → Option String
  | relation name _ _ => some name
  | _ => none

theorem Route.relation?_eq_some_iff {route : Route} {name : String} :
    route.relation? = some name ↔ route.leadsTo name = true := by
  cases route <;> simp [relation?, leadsTo]

/-- An error, with the relation that the entries go to which raise it. -/
structure Report where
  relation : Option String
  error : RequestError

/-- Whether an error is not raised by entries for a relation. -/
def Report.isApart (name : String) (report : Report) : Bool := report.relation != some name

namespace Visit

variable {document : Document} {catalog : Catalog} {visit : Visit} {params : Params}
  {name other : String} {depth : Nat} {plan : Plan}

/-- The entries of a level that do not go to a relation. -/
def apart (visit : Visit) (name : String) : List (String × Json) :=
  visit.params.entries.entries.filter fun entry => !(visit.route entry.1 entry.2).leadsTo name

/-- The errors of the plan for a relation of a level, below which so many may be followed. -/
def errorsBelow (catalog : Catalog) (depth : Nat) (visit : Visit) (name : String) :
    List RequestError :=
  ((visit.below? catalog name).bind fun child =>
    (child.level.planWithin catalog depth child.params).toOption).elim [] Plan.errors

/-- The errors of a visit, each with the relation that the entries go to which raise it: those of
the entries where they go, those of what stays at the level, and those of the relations below. -/
def reports (catalog : Catalog) (depth : Nat) (visit : Visit) : List Report :=
  ((Route.refusals [] (visit.params.entries.entries.map fun entry =>
      visit.route entry.1 entry.2)).map fun refusal => ⟨refusal.1.relation?, refusal.2⟩)
    ++ (visit.readErrors catalog ++ visit.applyErrors catalog).map (⟨none, ·⟩)
    ++ visit.shown.flatMap fun name =>
        (visit.errorsBelow catalog depth name).map (⟨some name, ·⟩)

/-! ## What the entries apart from a relation decide on -/

theorem filterMap_apart {f : String × Json → Option α}
    (hnone : ∀ entry, (visit.route entry.1 entry.2).leadsTo name = true → f entry = none) :
    (visit.apart name).filterMap f = visit.params.entries.entries.filterMap f :=
  filterMap_filter_of_eq_none fun entry _ hdropped => hnone entry (by simpa using hdropped)

theorem filters_apart : visit.routed.filters =
    (visit.apart name).filterMap fun entry => (visit.route entry.1 entry.2).filter? := by
  rw [filterMap_apart]
  · exact filters_routed visit
  · intro entry hleads
    obtain ⟨rest, parameter, hroute⟩ := Route.exists_of_leadsTo hleads
    rw [hroute]
    rfl

/-- Controls do not depend on the entries for a relation. -/
theorem control?_apart (control : Control) : visit.routed.control? control =
    ((visit.apart name).filterMap fun entry =>
      (visit.route entry.1 entry.2).control?).find? (·.key == control.name) := by
  rw [filterMap_apart]
  · exact control?_routed visit control
  · intro entry hleads
    obtain ⟨rest, parameter, hroute⟩ := Route.exists_of_leadsTo hleads
    rw [hroute]
    rfl

theorem getD_relations_apart (hother : other ≠ name) :
    (visit.routed.relations.get? other).getD {} =
      ⟨.ofList ((visit.apart name).filterMap fun entry =>
        ((visit.route entry.1 entry.2).rest? other).map (·, entry.2))⟩ := by
  rw [filterMap_apart]
  · exact getD_relations_routed visit other
  · intro entry hleads
    obtain ⟨rest, parameter, hroute⟩ := Route.exists_of_leadsTo hleads
    rw [hroute, Route.rest?, if_neg (Ne.symm hother)]
    rfl

/-- The refusals that are not for a relation do not depend on the entries for it. -/
theorem filter_refusals_apart :
    ((Route.refusals [] (visit.params.entries.entries.map fun entry =>
        visit.route entry.1 entry.2)).map fun refusal =>
          Report.mk refusal.1.relation? refusal.2).filter (·.isApart name) =
      (Route.refusals [] ((visit.apart name).map fun entry =>
        visit.route entry.1 entry.2)).map fun refusal =>
          ⟨refusal.1.relation?, refusal.2⟩ := by
  let kept (route : Route) : Bool := !route.leadsTo name
  have hapart : (visit.apart name).map (fun entry => visit.route entry.1 entry.2) =
      (visit.params.entries.entries.map fun entry => visit.route entry.1 entry.2).filter kept := by
    rw [List.filter_map]
    rfl
  rw [hapart, ← Route.filter_refusals kept fun _ _ _ _ _ => Iff.rfl, List.filter_map]
  · congr 1
    refine List.filter_congr fun refusal _ => ?_
    rw [Function.comp_apply, Report.isApart, Bool.eq_iff_iff, bne_iff_ne, Bool.not_eq_true', ne_eq,
      Route.relation?_eq_some_iff, Bool.not_eq_true]
  · -- A key at the level of the relation is no place for an entry that stays apart from it.
    intro route _ other _ hroute hother place hplace hsame
    obtain ⟨rest, parameter, rfl⟩ := Route.exists_of_leadsTo (by simpa [kept] using hother)
    obtain rfl := Option.some.inj hsame
    cases route with
    | relation target rest parameter =>
        have htarget : target = name := by simp_all [Route.place?]
        simp [kept, Route.leadsTo, htarget] at hroute
    | filter parameter => cases hplace
    | control parameter => cases hplace
    | refused error => cases hplace

theorem filter_below_apart :
    (visit.shown.flatMap fun other =>
        (visit.errorsBelow catalog depth other).map (Report.mk (some other))).filter
          (·.isApart name) =
      (visit.shown.filter (· != name)).flatMap fun other =>
        (visit.errorsBelow catalog depth other).map (Report.mk (some other)) := by
  refine (flatMap_filter _ fun other _ report hreport => ?_).symm
  obtain ⟨error, -, rfl⟩ := List.mem_map.1 hreport
  rw [Report.isApart, Bool.eq_iff_iff, bne_iff_ne, bne_iff_ne]
  simp

/-! ## Parameters that differ in entries for one relation -/

section Differing

variable (hsame : (visit.withParams params).apart name = visit.apart name)

include hsame

theorem filters_withParams :
    (visit.withParams params).routed.filters = visit.routed.filters := by
  rw [filters_apart, hsame, visit.filters_apart]
  rfl

theorem control?_withParams (control : Control) :
    (visit.withParams params).routed.control? control = visit.routed.control? control := by
  rw [control?_apart, hsame, visit.control?_apart]
  rfl

theorem getD_relations_withParams (hother : other ≠ name) :
    ((visit.withParams params).routed.relations.get? other).getD {} =
      (visit.routed.relations.get? other).getD {} := by
  rw [getD_relations_apart hother, hsame, visit.getD_relations_apart hother]
  rfl

theorem nests_withParams (hother : other ≠ name) :
    (visit.withParams params).nests other = visit.nests other := by
  have hapart : ∀ visit : Visit, visit.nests other = true ↔
      ∃ entry ∈ visit.apart name, (visit.route entry.1 entry.2).leadsTo other = true := by
    intro visit
    rw [nests, List.any_eq_true]
    refine exists_congr fun entry => ?_
    rw [apart, List.mem_filter, and_assoc]
    refine and_congr_right fun _ => (and_iff_right_of_imp fun hleads => ?_).symm
    obtain ⟨rest, parameter, hroute⟩ := Route.exists_of_leadsTo hleads
    simp [hroute, Route.leadsTo, hother]
  rw [Bool.eq_iff_iff, hapart, hapart, hsame]
  rfl

theorem sameControls_withParams :
    visit.routed.SameControls (visit.withParams params).routed :=
  fun control => congrArg _ (control?_withParams hsame control).symm

theorem projection_withParams : visit.projection = (visit.withParams params).projection :=
  congrArg Prod.fst (Level.projection_congr (sameControls_withParams hsame))

theorem filters_catalog_withParams :
    (visit.withParams params).filters catalog = visit.filters catalog := by
  rw [filters, filters, filters_withParams hsame]
  rfl

theorem readErrors_withParams :
    (visit.withParams params).readErrors catalog = visit.readErrors catalog := by
  have hcontrols := sameControls_withParams hsame
  rw [readErrors, readErrors, level_withParams, capability_withParams, filters_withParams hsame,
    ← Level.limit_congr hcontrols, ← Level.offset_congr hcontrols,
    ← Level.order_congr hcontrols, ← Level.projection_congr hcontrols]

theorem applyErrors_withParams :
    (visit.withParams params).applyErrors catalog = visit.applyErrors catalog := by
  rw [applyErrors, applyErrors, level_withParams, filters_catalog_withParams hsame,
    ← Level.search_congr (sameControls_withParams hsame)]

theorem shown_withParams :
    (visit.withParams params).shown.filter (· != name) = visit.shown.filter (· != name) := by
  rw [shown, shown, List.filter_filter, List.filter_filter, level_withParams,
    ← projection_withParams hsame]
  refine List.filter_congr fun other _ => ?_
  by_cases hother : other = name
  · simp [hother]
  · rw [nests_withParams hsame hother]

/-- A relation that is shown stays so if entries for it are given. -/
theorem shown_withParams_of_nests (hshown : name ∈ visit.shown)
    (hnests : (visit.withParams params).nests name = true) :
    (visit.withParams params).shown = visit.shown := by
  rw [shown, shown, level_withParams, ← projection_withParams hsame]
  refine List.filter_congr fun other _ => ?_
  by_cases hother : other = name
  · rw [hother, hnests, Bool.or_true]
    exact (List.mem_filter.1 hshown).2.symm
  · rw [nests_withParams hsame hother]

/-- The plans of the level agree but for relations and errors. -/
theorem planOf_withParams (referrer : String) (relations others : List (String × Plan)) :
    (visit.withParams params).planOf catalog referrer [] others =
      { visit.planOf catalog referrer [] relations with
        relations := ((visit.withParams params).planOf catalog referrer [] others).relations
        errors := ((visit.withParams params).planOf catalog referrer [] others).errors } := by
  have hcontrols := sameControls_withParams hsame
  obtain ⟨hlimit, hoffset, horder, hfields⟩ :=
    planOf_of_sameControls hcontrols referrer [] relations others
  refine Plan.eq_of_parts rfl rfl ?_ (Table.ext_get? fun name => ?_) hlimit.symm hoffset.symm
    horder.symm hfields.symm rfl rfl
  · rw [filters_planOf, filters_planOf, level_withParams, filters_catalog_withParams hsame,
      ← Level.search_congr hcontrols]
  · rw [get?_joins_planOf, get?_joins_planOf, filters_catalog_withParams hsame]

/-- The level below another relation stays as it is. -/
theorem below?_withParams_of_ne (hother : other ≠ name) :
    (visit.withParams params).below? catalog other = visit.below? catalog other :=
  below?_withParams (getD_relations_withParams hsame hother)

/-- The reports that entries for the relation have no part in are the same. -/
theorem filter_reports_withParams :
    ((visit.withParams params).reports catalog depth).filter (·.isApart name) =
      (visit.reports catalog depth).filter (·.isApart name) := by
  have hbelow : (visit.withParams params).shown.filter (· != name) =
      visit.shown.filter (· != name) := shown_withParams hsame
  rw [reports, reports, List.filter_append, List.filter_append, List.filter_append,
    List.filter_append, filter_refusals_apart, filter_refusals_apart, hsame,
    readErrors_withParams hsame, applyErrors_withParams hsame, filter_below_apart,
    filter_below_apart, hbelow]
  congr 1
  refine List.flatMap_congr fun other hother => ?_
  have hne : other ≠ name := bne_iff_ne.1 (List.mem_filter.1 hother).2
  rw [errorsBelow, errorsBelow, below?_withParams_of_ne hsame hne]

end Differing

/-! ## What is reported -/

theorem errorsBelow_eq {child : Visit} (hbelow : visit.below? catalog name = some child)
    (hchild : child.Plans catalog depth plan) :
    visit.errorsBelow catalog depth name = plan.errors := by
  rw [errorsBelow, hbelow, Option.bind_some, hchild.isPlan]
  rfl

/-- The reports of a visit account for the errors of a plan: they are these errors, and those
that are reported for a relation are raised by entries that go there. -/
structure Accounts (catalog : Catalog) (depth : Nat) (visit : Visit) (plan : Plan) : Prop where
  errors : plan.errors = (visit.reports catalog depth).map Report.error
  raised : ∀ report ∈ visit.reports catalog depth, ∀ name, report.relation = some name →
    ∃ entry ∈ visit.params.entries.entries,
      (visit.route entry.1 entry.2).leadsTo name = true ∧
        plan.Explains visit.level.trace (visit.level.trace ++ "." ++ Key.normal entry.1)
          report.error

/-- Plans of all relations that a level shows, by name, hold the errors below it. -/
theorem flatMap_errorsBelow {relations : List (String × Plan)}
    (hnames : relations.map Prod.fst = visit.shown)
    (hrelations : ∀ result ∈ relations, ∃ child, visit.below? catalog result.1 = some child ∧
      child.level.trace = visit.level.trace ++ "." ++ result.1 ∧
      child.Plans catalog depth result.2) :
    visit.shown.flatMap (visit.errorsBelow catalog depth) =
      relations.flatMap fun result => result.2.errors := by
  rw [← hnames, List.flatMap_map]
  refine List.flatMap_congr fun result hresult => ?_
  obtain ⟨child, hchild, -, hplan⟩ := hrelations result hresult
  exact errorsBelow_eq hchild hplan

/-- The errors of a plan: those of the entries where they go, those of what stays at the level, and
those of the relations below. -/
theorem Plans.errors_eq (hplans : visit.Plans catalog (depth + 1) plan) (hsound : catalog.Sound) :
    plan.errors = visit.routed.errors ++ visit.readErrors catalog ++ visit.applyErrors catalog
      ++ visit.shown.flatMap (visit.errorsBelow catalog depth) := by
  obtain ⟨relations, hnames, hrelations, referrer, rfl⟩ := hplans.exists_below hsound
  rw [errors_planOf_eq, flatMap_errorsBelow hnames hrelations, List.append_nil]

/-- The reports of a visit have the errors of its plan, in their order. -/
theorem Plans.map_error_reports (hplans : visit.Plans catalog (depth + 1) plan)
    (hsound : catalog.Sound) : (visit.reports catalog depth).map Report.error = plan.errors := by
  rw [hplans.errors_eq hsound, errors_routed]
  simp only [reports, List.map_append, List.map_map, List.map_flatMap, Function.comp_def,
    List.map_id', List.append_assoc]

/-- Entries that go to a relation raise the errors that are reported for it. -/
theorem Plans.explains_of_mem_reports (hplans : visit.Plans catalog (depth + 1) plan)
    (hsound : catalog.Sound) {report : Report} (hreport : report ∈ visit.reports catalog depth)
    (hrelation : report.relation = some name) :
    ∃ entry ∈ visit.params.entries.entries,
      (visit.route entry.1 entry.2).leadsTo name = true ∧
        plan.Explains visit.level.trace (visit.level.trace ++ "." ++ Key.normal entry.1)
          report.error := by
  obtain ⟨relations, hnames, hrelations, referrer, rfl⟩ := hplans.exists_below hsound
  simp only [reports, List.mem_append] at hreport
  rcases hreport with (hrefused | hlocal) | hbelow
  · obtain ⟨refusal, hrefusal, rfl⟩ := List.mem_map.1 hrefused
    obtain ⟨before, after, hsplit, herror⟩ := Route.exists_of_mem_refusals hrefusal
    obtain ⟨entry, hentry, hroute⟩ :=
      List.mem_map.1 (hsplit ▸ List.mem_append_right before List.mem_cons_self)
    have htraced : refusal.1.Traced (visit.level.trace ++ "." ++ Key.normal entry.1) :=
      hroute ▸ Keys.traced_route _ _ _ _
    obtain ⟨htrace, hlocal⟩ := Bool.and_eq_true_iff.1 (htraced.isAt herror)
    rw [← hroute, Route.relation?_eq_some_iff] at hrelation
    rw [Bool.not_eq_true'] at hlocal
    exact ⟨entry, hentry, hrelation, .here hlocal (beq_iff_eq.1 htrace)⟩
  · obtain ⟨error, -, rfl⟩ := List.mem_map.1 hlocal
    cases hrelation
  · obtain ⟨other, hother, hmem⟩ := List.mem_flatMap.1 hbelow
    obtain ⟨error, herror, rfl⟩ := List.mem_map.1 hmem
    obtain rfl := Option.some.inj hrelation
    rw [← hnames] at hother
    obtain ⟨result, hresult, rfl⟩ := List.mem_map.1 hother
    obtain ⟨child, hchild, htrace, hplan⟩ := hrelations result hresult
    rw [errorsBelow_eq hchild hplan] at herror
    obtain ⟨below, hbelow, hexplains⟩ := hplan.explained hsound herror
    obtain ⟨source, hsource, hleads, hlocated⟩ := exists_located_of_mem_below hchild htrace hbelow
    rw [hlocated] at hexplains
    exact ⟨source, hsource, hleads, explains_planOf hresult htrace hexplains⟩

theorem Plans.accounts (hplans : visit.Plans catalog (depth + 1) plan)
    (hsound : catalog.Sound) : visit.Accounts catalog depth plan :=
  ⟨(hplans.map_error_reports hsound).symm, fun _ hreport _ hrelation =>
    hplans.explains_of_mem_reports hsound hreport hrelation⟩

/-- Plans for parameters that differ in entries for a relation agree on what is not about
relations and errors. -/
theorem Plans.eq_withParams {second : Plan} (hplans : visit.Plans catalog (depth + 1) plan)
    (hsecond : (visit.withParams params).Plans catalog (depth + 1) second)
    (hsound : catalog.Sound)
    (hsame : (visit.withParams params).apart name = visit.apart name) :
    second = { plan with relations := second.relations, errors := second.errors } := by
  obtain ⟨referrer, relations, seconds, rfl, rfl, -⟩ := hplans.exists_below_both hsecond hsound
  exact planOf_withParams hsame referrer relations seconds

/-- Plans for parameters that differ in entries for a relation agree on the other relations. -/
theorem Plans.filter_relations {second : Plan} (hplans : visit.Plans catalog (depth + 1) plan)
    (hsecond : (visit.withParams params).Plans catalog (depth + 1) second)
    (hsound : catalog.Sound)
    (hsame : (visit.withParams params).apart name = visit.apart name) :
    second.relations.filter (·.1 != name) = plan.relations.filter (·.1 != name) := by
  obtain ⟨referrer, relations, seconds, rfl, rfl, hnames, hsecondNames, hboth⟩ :=
    hplans.exists_below_both hsecond hsound
  have hshown : (relations.filter (·.1 != name)).map Prod.fst =
      (seconds.filter (·.1 != name)).map Prod.fst := by
    have hkept : ∀ results : List (String × Plan), (results.filter (·.1 != name)).map Prod.fst =
        (results.map Prod.fst).filter (· != name) := by
      intro results
      rw [List.filter_map]
      rfl
    rw [hkept, hkept, hnames, hsecondNames, shown_withParams hsame]
  have hresults : relations.filter (·.1 != name) = seconds.filter (·.1 != name) := by
    refine eq_of_map_eq hshown fun left hleft right hright hname => ?_
    obtain ⟨hleft, hne⟩ := List.mem_filter.1 hleft
    obtain ⟨child, hbelow, -, hchild, hplan⟩ :=
      hboth left hleft right (List.mem_of_mem_filter hright) hname
    rw [getD_relations_withParams hsame (bne_iff_ne.1 hne), ← params_of_below? hbelow] at hplan
    exact Prod.ext hname (hchild.unique hplan)
  rw [planOf, planOf, Level.Reading.plan, Level.Reading.plan, List.filter_map, List.filter_map]
  exact congrArg _ hresults.symm

end Visit

/-- Two requests to one resource that differ in entries for one relation of it have plans that
agree on everything but the plan of that relation and the errors; and the errors of both are the
same, in the same order, but for those that entries for the relation raise. -/
theorem Document.siblings_independent {document : Document} {catalog : Catalog}
    (hresolve : document.resolve = .ok catalog) {resource : String} {target : Target}
    {params others : Params} {plan : Plan}
    (hplan : catalog.plan resource target params = .ok plan) {visit : Visit}
    (hvisit : catalog.visit? resource target params [] = some visit) {name : String}
    (hsame : (visit.withParams others).apart name = visit.apart name) :
    ∃ other, catalog.plan resource target others = .ok other ∧
      other = { plan with relations := other.relations, errors := other.errors } ∧
      other.relations.filter (·.1 != name) = plan.relations.filter (·.1 != name) ∧
      visit.Accounts catalog (maxDepth - 1) plan ∧
      (visit.withParams others).Accounts catalog (maxDepth - 1) other ∧
      ((visit.withParams others).reports catalog (maxDepth - 1)).filter (·.isApart name) =
        (visit.reports catalog (maxDepth - 1)).filter (·.isApart name) := by
  have hsound := sound_of_resolve hresolve
  obtain ⟨found, other, hfound, -, -, hplans, hothers, hother⟩ := hsound.exists_plans hplan others
  obtain rfl := Option.some.inj (hvisit.symm.trans hfound)
  refine ⟨other, hother, hplans.eq_withParams hothers hsound hsame,
    hplans.filter_relations hothers hsound hsame, hplans.accounts hsound,
    hothers.accounts hsound, Visit.filter_reports_withParams hsame⟩

/-- Areas by a name, with their cabins by the name of the area again. -/
def Sample.circular : Params :=
  ⟨[("cabins.area.name", .string "~lake"), ("name", .string "~lake")], by decide⟩

/-- Areas by the same name, with their cabins by an age, twice. -/
def Sample.aged : Params :=
  ⟨[("Cabins.age", .string "1"), ("cabins.age", .string "2"), ("name", .string "~lake")],
    by decide⟩

theorem siblings_independent_cabins :
    ∃ plan other visit, Sample.catalog.plan "area" .list Sample.circular = .ok plan ∧
      Sample.catalog.plan "area" .list Sample.aged = .ok other ∧
      Sample.catalog.visit? "area" .list Sample.circular [] = some visit ∧
      plan.errors = [] ∧
      other.errors = [⟨"area.cabins.age", .duplicateParameter⟩,
        ⟨"area.cabins.age", .unknownParameter⟩] ∧
      other = { plan with relations := other.relations, errors := other.errors } ∧
      other.relations.filter (·.1 != "cabins") = plan.relations.filter (·.1 != "cabins") ∧
      ((visit.withParams Sample.aged).reports Sample.catalog (maxDepth - 1)).filter
          (·.isApart "cabins") =
        (visit.reports Sample.catalog (maxDepth - 1)).filter (·.isApart "cabins") := by
  have hplan : Sample.catalog.plan "area" .list Sample.circular =
      .ok ((Sample.catalog.plan "area" .list Sample.circular).toOption.getD default) :=
    eq_ok_of_isOk default (by decide +kernel)
  obtain ⟨visit, hvisit⟩ : ∃ visit,
      Sample.catalog.visit? "area" .list Sample.circular [] = some visit :=
    Option.isSome_iff_exists.1 (by decide +kernel)
  have hroutes : (Sample.catalog.visit? "area" .list Sample.circular []).map (fun visit =>
      (Sample.circular.entries.entries ++ Sample.aged.entries.entries).map fun entry =>
        (visit.route entry.1 entry.2).leadsTo "cabins") =
          some [true, false, true, true, false] := by decide +kernel
  obtain ⟨-, hparams, -⟩ := Catalog.visit?_nil_eq_some_iff.1 hvisit
  have hsame : (visit.withParams Sample.aged).apart "cabins" = visit.apart "cabins" := by
    have hother : (visit.withParams Sample.aged).apart "cabins" =
        Sample.aged.entries.entries.filter fun entry =>
          !(visit.route entry.1 entry.2).leadsTo "cabins" := rfl
    rw [hvisit, Option.map_some] at hroutes
    simp only [Sample.circular, Sample.aged, List.cons_append, List.nil_append, List.map_cons,
      List.map_nil, Option.some.injEq, List.cons.injEq] at hroutes
    rw [hother, Visit.apart, hparams]
    simp [Sample.circular, Sample.aged, hroutes]
  obtain ⟨other, hother, heq, hrelations, -, -, hreports⟩ :=
    Document.siblings_independent Sample.resolve_document hplan hvisit hsame
  refine ⟨_, other, visit, hplan, hother, hvisit, by decide +kernel, ?_, heq, hrelations,
    hreports⟩
  have hvalue : other = (Sample.catalog.plan "area" .list Sample.aged).toOption.getD default := by
    rw [hother]
    rfl
  rw [hvalue]
  decide +kernel

end RestQuery
