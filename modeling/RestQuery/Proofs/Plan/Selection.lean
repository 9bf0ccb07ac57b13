import RestQuery.Proofs.Plan.Siblings

/-!
# The fields that a request asks for

The value for the fields of a level decides on what is shown and on nothing else.  It may bring in
relations that no other entry is about; their levels have no entries, and without entries nothing
is in error, however far default relations go on.

Main statements: `Level.Held.exists_plan_of_nothing` and `Document.fields_select`.
-/

namespace RestQuery

/-- Whether an entry gives the fields of its level. -/
def Route.selects : Route → Bool
  | .control parameter => parameter.key == Control.fields.name
  | _ => false

theorem Route.exists_of_selects {route : Route} (hselects : route.selects = true) :
    ∃ parameter, route = .control parameter ∧ parameter.key = Control.fields.name := by
  cases route with
  | control parameter => exact ⟨parameter, rfl, beq_iff_eq.1 hselects⟩
  | filter parameter => cases hselects
  | relation name rest parameter => cases hselects
  | refused error => cases hselects

namespace Visit

variable {document : Document} {catalog : Catalog} {visit : Visit} {params : Params}
  {name : String} {depth : Nat} {plan : Plan}

/-- The entries of a level that do not give its fields. -/
def besideFields (visit : Visit) : List (String × Json) :=
  visit.params.entries.entries.filter fun entry => !(visit.route entry.1 entry.2).selects

/-- Where errors in the value for the fields of a level are found. -/
def fieldsTrace (visit : Visit) : String := visit.level.trace ++ "." ++ Control.fields.name

/-! ## What the entries beside the fields decide on -/

theorem filterMap_besideFields {f : String × Json → Option α}
    (hnone : ∀ entry, (visit.route entry.1 entry.2).selects = true → f entry = none) :
    visit.besideFields.filterMap f = visit.params.entries.entries.filterMap f :=
  filterMap_filter_of_eq_none fun entry _ hdropped => hnone entry (by simpa using hdropped)

theorem filters_besideFields : visit.routed.filters =
    visit.besideFields.filterMap fun entry => (visit.route entry.1 entry.2).filter? := by
  rw [filters_routed, filterMap_besideFields]
  intro entry hselects
  obtain ⟨parameter, hroute, -⟩ := Route.exists_of_selects hselects
  rw [hroute]
  rfl

/-- Apart from the fields, controls do not depend on the entries that give these. -/
theorem control?_besideFields {control : Control} (hother : control ≠ .fields) :
    visit.routed.control? control = (visit.besideFields.filterMap fun entry =>
      (visit.route entry.1 entry.2).control?).find? (·.key == control.name) := by
  rw [control?_routed, besideFields, List.find?_filterMap, List.find?_filterMap, List.find?_filter]
  congr 2
  funext entry
  cases hselects : (visit.route entry.1 entry.2).selects with
  | false => simp
  | true =>
      obtain ⟨parameter, hroute, hkey⟩ := Route.exists_of_selects hselects
      have hname : (Control.fields.name == control.name) = false := by
        cases control <;> first | rfl | exact absurd rfl hother
      simp [hroute, Route.control?, hkey, hname]

theorem getD_relations_besideFields : (visit.routed.relations.get? name).getD {} =
    ⟨.ofList (visit.besideFields.filterMap fun entry =>
      ((visit.route entry.1 entry.2).rest? name).map (·, entry.2))⟩ := by
  rw [getD_relations_routed, filterMap_besideFields]
  intro entry hselects
  obtain ⟨parameter, hroute, -⟩ := Route.exists_of_selects hselects
  rw [hroute]
  rfl

theorem nests_besideFields : visit.nests name =
    visit.besideFields.any fun entry => (visit.route entry.1 entry.2).leadsTo name := by
  rw [nests, besideFields, List.any_filter]
  congr 1
  funext entry
  cases hselects : (visit.route entry.1 entry.2).selects with
  | false => rfl
  | true =>
      obtain ⟨parameter, hroute, -⟩ := Route.exists_of_selects hselects
      simp [hroute, Route.leadsTo]

/-- What the entries beside the fields are refused for does not depend on the value for fields. -/
theorem filter_errors_routed : visit.routed.errors.filter (·.trace != visit.fieldsTrace) =
    ((Route.refusals [] (visit.besideFields.map fun entry =>
      visit.route entry.1 entry.2)).map Prod.snd).filter (·.trace != visit.fieldsTrace) := by
  let kept (route : Route) : Bool := !route.selects
  have hbeside : visit.besideFields.map (fun entry => visit.route entry.1 entry.2) =
      (visit.params.entries.entries.map fun entry => visit.route entry.1 entry.2).filter kept := by
    rw [List.filter_map]
    rfl
  rw [errors_routed, hbeside, ← Route.filter_refusals kept fun _ _ _ _ _ => Iff.rfl,
    List.filter_map, List.filter_map, List.filter_filter]
  · congr 1
    refine List.filter_congr fun refusal hrefusal => ?_
    obtain ⟨before, after, hsplit, herror⟩ := Route.exists_of_mem_refusals hrefusal
    obtain ⟨entry, -, hroute⟩ :=
      List.mem_map.1 (hsplit ▸ List.mem_append_right before List.mem_cons_self)
    cases hselects : refusal.1.selects with
    | false => simp [kept, hselects]
    | true =>
        obtain ⟨parameter, hcontrol, hkey⟩ := Route.exists_of_selects hselects
        have hgiven : (visit.route entry.1 entry.2).control? = some parameter := by
          rw [hroute, hcontrol, Route.control?]
        have htraced : refusal.1.Traced (visit.level.trace ++ "." ++ Key.normal entry.1) :=
          hroute ▸ Keys.traced_route _ _ _ _
        have htrace : refusal.2.trace = visit.fieldsTrace := by
          rw [beq_iff_eq.1 (Bool.and_eq_true_iff.1 (htraced.isAt herror)).1, fieldsTrace, ← hkey,
            (Keys.key_of_control? hgiven).1]
        simp [kept, hselects, htrace]
  · -- The place of a control for the fields is one that no other entry takes.
    intro route _ other _ hroute hother place hplace hsame
    have hselects : other.selects = true := by simpa [kept] using hother
    obtain ⟨parameter, rfl, hkey⟩ := Route.exists_of_selects hselects
    obtain rfl := Option.some.inj hsame
    cases route with
    | control given =>
        have hgiven : given.key = parameter.key := by simpa [Route.place?] using hplace
        simp [kept, Route.selects, hgiven, hkey] at hroute
    | relation target rest given => cases hplace
    | filter given => cases hplace
    | refused error => cases hplace

/-- Errors in the fields are found where these are given. -/
theorem trace_of_mem_projection {error : RequestError}
    (herror : error ∈ (visit.level.projection visit.capability visit.routed).2.2) :
    error.trace = visit.fieldsTrace := by
  rw [Level.projection] at herror
  split at herror
  next => cases herror
  next parameter hgiven =>
    have htrace : ∀ problem, (parameter.error problem).trace = visit.fieldsTrace :=
      fun _ => trace_of_control? hgiven
    split at herror
    next =>
      rw [List.mem_singleton.1 herror]
      exact htrace _
    next =>
      obtain ⟨problem, -, rfl⟩ := List.mem_map.1 herror
      exact htrace problem

theorem filter_projection (visit : Visit) :
    (visit.level.projection visit.capability visit.routed).2.2.filter
      (·.trace != visit.fieldsTrace) = [] :=
  List.filter_eq_nil_iff.2 fun error herror => by simp [trace_of_mem_projection herror]

/-! ## Levels without entries -/

/-- A level that is given nothing has no errors, and neither has any level below. -/
theorem Plans.errors_of_nothing (hplans : visit.Plans catalog depth plan)
    (hsound : catalog.Sound) (hnothing : visit.params = {}) :
    ∀ node ∈ plan.nodes, node.errors = [] := by
  rw [Plan.nodes_eq, List.forall_mem_cons]
  refine ⟨List.eq_nil_iff_forall_not_mem.2 fun error herror => ?_,
    hplans.errors_nodesBelow hsound⟩
  obtain ⟨entry, hentry, -⟩ := hplans.explained hsound herror
  rw [hnothing] at hentry
  cases hentry

/-- Relations that no entry reaches into raise no errors. -/
theorem errorsBelow_eq_nil (hsound : catalog.Sound) (hplans : visit.Plans catalog (depth + 1) plan)
    (hshown : name ∈ visit.shown) (hnests : visit.nests name = false) :
    visit.errorsBelow catalog depth name = [] := by
  obtain ⟨relations, hnames, hrelations, -⟩ := hplans.exists_below hsound
  rw [← hnames] at hshown
  obtain ⟨result, hresult, rfl⟩ := List.mem_map.1 hshown
  obtain ⟨child, hbelow, -, hchild⟩ := hrelations result hresult
  have hnone : visit.routed.relations.get? result.1 = none := by
    rw [← contains_relations_routed] at hnests
    exact Option.not_isSome_iff_eq_none.1 (ne_true_of_eq_false hnests)
  have hnothing : child.params = {} := by rw [params_of_below? hbelow, hnone, Option.getD_none]
  rw [errorsBelow_eq hbelow hchild]
  exact hchild.errors_of_nothing hsound hnothing result.2
    (Plan.mem_nodes_iff.2 (.inl rfl))

/-- The errors below a level are those of the relations that entries reach into. -/
theorem Plans.flatMap_errorsBelow_shown (hplans : visit.Plans catalog (depth + 1) plan)
    (hsound : catalog.Sound) :
    visit.shown.flatMap (visit.errorsBelow catalog depth) =
      (visit.level.resource.relations.keys.filter visit.nests).flatMap
        (visit.errorsBelow catalog depth) := by
  have hnests : visit.shown.filter visit.nests =
      visit.level.resource.relations.keys.filter visit.nests := by
    rw [shown, List.filter_filter]
    refine List.filter_congr fun name _ => ?_
    cases visit.nests name <;> simp
  rw [← hnests, flatMap_filter fun _ => true, List.filter_true]
  intro name hshown error herror
  cases hname : visit.nests name with
  | true => rfl
  | false =>
      rw [errorsBelow_eq_nil hsound hplans hshown hname] at herror
      cases herror

/-! ## Parameters that differ in the value for the fields -/

/-- Parameters that differ from those of a level in what gives its fields at most. -/
def AltersFields (visit : Visit) (params : Params) : Prop :=
  (visit.withParams params).besideFields = visit.besideFields

namespace AltersFields

variable (hsame : visit.AltersFields params)

include hsame

theorem filters : (visit.withParams params).routed.filters = visit.routed.filters := by
  rw [filters_besideFields, hsame, visit.filters_besideFields]
  rfl

theorem control? {control : Control} (hother : control ≠ .fields) :
    (visit.withParams params).routed.control? control = visit.routed.control? control := by
  rw [control?_besideFields hother, hsame, visit.control?_besideFields hother]
  rfl

theorem getD_relations (name : String) :
    ((visit.withParams params).routed.relations.get? name).getD {} =
      (visit.routed.relations.get? name).getD {} := by
  rw [getD_relations_besideFields, hsame, visit.getD_relations_besideFields]
  rfl

theorem nests : (visit.withParams params).nests = visit.nests := by
  funext name
  rw [nests_besideFields, hsame, visit.nests_besideFields]
  rfl

theorem below? (name : String) :
    (visit.withParams params).below? catalog name = visit.below? catalog name :=
  below?_withParams (hsame.getD_relations name)

theorem filters_catalog : (visit.withParams params).filters catalog = visit.filters catalog := by
  rw [Visit.filters, Visit.filters, hsame.filters]
  rfl

theorem search :
    visit.level.search (visit.withParams params).routed = visit.level.search visit.routed := by
  rw [Level.search, Level.search, hsame.control? (by decide : Control.search ≠ .fields)]

theorem limit : Level.limit visit.capability (visit.withParams params).routed =
    Level.limit visit.capability visit.routed := by
  rw [Level.limit, Level.limit, hsame.control? (by decide : Control.limit ≠ .fields)]

theorem offset : Level.offset visit.capability (visit.withParams params).routed =
    Level.offset visit.capability visit.routed := by
  rw [Level.offset, Level.offset, hsame.control? (by decide : Control.offset ≠ .fields)]

theorem order : visit.level.order visit.capability (visit.withParams params).routed =
    visit.level.order visit.capability visit.routed := by
  rw [Level.order, Level.order, hsame.control? (by decide : Control.order ≠ .fields)]

/-- The plans of the level agree on what is not shown, but for errors. -/
theorem planOf (referrer : String) (depthErrors otherErrors : List RequestError)
    (relations others : List (String × Plan)) :
    let other := (visit.withParams params).planOf catalog referrer otherErrors others
    other = { visit.planOf catalog referrer depthErrors relations with
      fields := other.fields, relations := other.relations, errors := other.errors } := by
  refine Plan.eq_of_parts rfl rfl ?_ (Table.ext_get? fun name => ?_) ?_ ?_ ?_ rfl rfl rfl
  · rw [filters_planOf, filters_planOf, level_withParams, hsame.filters_catalog, hsame.search]
  · rw [get?_joins_planOf, get?_joins_planOf, hsame.filters_catalog]
  · rw [limit_planOf, limit_planOf, capability_withParams, hsame.limit]
  · rw [offset_planOf, offset_planOf, capability_withParams, hsame.offset]
  · rw [order_planOf, order_planOf, level_withParams, capability_withParams, hsame.order]

theorem applyErrors :
    (visit.withParams params).applyErrors catalog = visit.applyErrors catalog := by
  rw [Visit.applyErrors, Visit.applyErrors, level_withParams, hsame.filters_catalog, hsame.search]

theorem filter_errors_routed :
    (visit.withParams params).routed.errors.filter (·.trace != visit.fieldsTrace) =
      visit.routed.errors.filter (·.trace != visit.fieldsTrace) := by
  have herrors := (visit.withParams params).filter_errors_routed
  rw [hsame] at herrors
  exact herrors.trans visit.filter_errors_routed.symm

theorem filter_readErrors :
    ((visit.withParams params).readErrors catalog).filter (·.trace != visit.fieldsTrace) =
      (visit.readErrors catalog).filter (·.trace != visit.fieldsTrace) := by
  rw [readErrors, readErrors, level_withParams, capability_withParams, hsame.filters, hsame.limit,
    hsame.offset, hsame.order, List.filter_append, List.filter_append _
      (visit.level.projection visit.capability visit.routed).2.2, filter_projection]
  exact congrArg _ (visit.withParams params).filter_projection

/-- Which relations are shown makes no difference to the errors below. -/
theorem flatMap_errorsBelow {other : Plan} (hplans : visit.Plans catalog (depth + 1) plan)
    (hother : (visit.withParams params).Plans catalog (depth + 1) other)
    (hsound : catalog.Sound) :
    (visit.withParams params).shown.flatMap
        ((visit.withParams params).errorsBelow catalog depth) =
      visit.shown.flatMap (visit.errorsBelow catalog depth) := by
  rw [hplans.flatMap_errorsBelow_shown hsound, hother.flatMap_errorsBelow_shown hsound,
    hsame.nests, level_withParams]
  refine List.flatMap_congr fun name _ => ?_
  rw [errorsBelow, errorsBelow, hsame.below?]

end AltersFields

variable {other : Plan}

/-- Plans for parameters that differ in the value for the fields agree on what is not shown. -/
theorem Plans.eq_of_altersFields (hplans : visit.Plans catalog (depth + 1) plan)
    (hother : (visit.withParams params).Plans catalog (depth + 1) other)
    (hsound : catalog.Sound) (hsame : visit.AltersFields params) :
    other = { plan with
      fields := other.fields, relations := other.relations, errors := other.errors } := by
  obtain ⟨referrer, relations, others, rfl, rfl, -⟩ := hplans.exists_below_both hother hsound
  exact hsame.planOf referrer [] [] relations others

/-- Plans for parameters that differ in the value for the fields agree on the relations that both
show. -/
theorem Plans.eq_of_mem_relations (hplans : visit.Plans catalog (depth + 1) plan)
    (hother : (visit.withParams params).Plans catalog (depth + 1) other)
    (hsound : catalog.Sound) (hsame : visit.AltersFields params) {sub second : Plan}
    (hsub : (name, sub) ∈ plan.relations) (hsecond : (name, second) ∈ other.relations) :
    sub = second := by
  obtain ⟨referrer, relations, others, rfl, rfl, -, -, hboth⟩ :=
    hplans.exists_below_both hother hsound
  obtain ⟨left, hleft, hleftResult⟩ := List.mem_map.1 hsub
  obtain ⟨right, hright, hrightResult⟩ := List.mem_map.1 hsecond
  obtain ⟨rfl, rfl⟩ := Prod.mk.inj hleftResult
  obtain ⟨hname, rfl⟩ := Prod.mk.inj hrightResult
  obtain ⟨child, hbelow, -, hchild, hplan⟩ := hboth left hleft right hright hname.symm
  rw [hsame.getD_relations, ← params_of_below? hbelow] at hplan
  rw [hchild.unique hplan]

/-- Plans for parameters that differ in the value for the fields have the same errors but for
those in that value. -/
theorem Plans.filter_errors_of_altersFields (hplans : visit.Plans catalog (depth + 1) plan)
    (hother : (visit.withParams params).Plans catalog (depth + 1) other)
    (hsound : catalog.Sound) (hsame : visit.AltersFields params) :
    other.errors.filter (·.trace != visit.fieldsTrace) =
      plan.errors.filter (·.trace != visit.fieldsTrace) := by
  rw [hplans.errors_eq hsound, hother.errors_eq hsound,
    hsame.flatMap_errorsBelow hplans hother hsound, hsame.applyErrors]
  simp only [List.filter_append, hsame.filter_errors_routed, hsame.filter_readErrors]

end Visit

/-- Without entries nothing is in error at a level or below it, to whatever depth. -/
theorem Level.Held.exists_plan_of_nothing {catalog : Catalog} {level : Level}
    (hheld : level.Held catalog) (hsound : catalog.Sound) (depth : Nat) :
    ∃ plan, level.planWithin catalog depth {} = .ok plan ∧
      ∀ node ∈ plan.nodes, node.errors = [] := by
  obtain ⟨plan, hplan⟩ := Level.exists_planWithin hsound depth hheld {}
  obtain ⟨reading, hread⟩ := hheld.exists_read hsound {}
  obtain ⟨entry, capability, hcapability, -⟩ := Level.read_eq_ok_iff.1 hread
  have hplans : Visit.Plans catalog depth ⟨level, capability, {}⟩ plan :=
    ⟨hheld, ⟨entry, hcapability⟩, hplan⟩
  exact ⟨plan, hplan, hplans.errors_of_nothing hsound rfl⟩

/-- Two requests to one resource that differ in what gives its fields have plans that agree on
everything but the fields, the relations that only one of them shows, and errors in the value for
the fields.  No level without entries raises an error. -/
theorem Document.fields_select {document : Document} {catalog : Catalog}
    (hresolve : document.resolve = .ok catalog) {resource : String} {target : Target}
    {params others : Params} {plan : Plan}
    (hplan : catalog.plan resource target params = .ok plan) {visit : Visit}
    (hvisit : catalog.visit? resource target params [] = some visit)
    (hsame : visit.AltersFields others) :
    ∃ other, catalog.plan resource target others = .ok other ∧
      other = { plan with
        fields := other.fields, relations := other.relations, errors := other.errors } ∧
      (∀ name sub second, (name, sub) ∈ plan.relations → (name, second) ∈ other.relations →
        sub = second) ∧
      other.errors.filter (·.trace != resource ++ "." ++ Control.fields.name) =
        plan.errors.filter (·.trace != resource ++ "." ++ Control.fields.name) ∧
      ∀ (level : Level) (depth : Nat), level.Held catalog →
        ∃ bare, level.planWithin catalog depth {} = .ok bare ∧
          ∀ node ∈ bare.nodes, node.errors = [] := by
  have hsound := sound_of_resolve hresolve
  obtain ⟨found, other, hfound, htrace, -, hplans, hothers, hother⟩ :=
    hsound.exists_plans hplan others
  obtain rfl := Option.some.inj (hvisit.symm.trans hfound)
  obtain rfl := htrace
  exact ⟨other, hother, hplans.eq_of_altersFields hothers hsound hsame,
    fun _ _ _ hsub hsecond => hplans.eq_of_mem_relations hothers hsound hsame hsub hsecond,
    hplans.filter_errors_of_altersFields hothers hsound hsame,
    fun level depth hheld => hheld.exists_plan_of_nothing hsound depth⟩

/-- The names of areas, one of whose cabins is in an area with a certain name, and a field that
areas do not have. -/
def Sample.named : Params :=
  ⟨[("cabins.area.name", .string "~lake"), ("fields", .string "name,summit")], by decide⟩

/-- Areas by the same name, with a truth value for the fields. -/
def Sample.flagged : Params :=
  ⟨[("Fields", .bool true), ("cabins.area.name", .string "~lake")], by decide⟩

theorem fields_select_cabins :
    ∃ plan other, Sample.catalog.plan "area" .list Sample.named = .ok plan ∧
      Sample.catalog.plan "area" .list Sample.flagged = .ok other ∧
      plan.fields = ["name"] ∧ plan.errors = [⟨"area.fields", .unknownField "summit"⟩] ∧
      other.fields = [] ∧ other.errors = [⟨"area.fields", .invalidValueType⟩] ∧
      other = { plan with
        fields := other.fields, relations := other.relations, errors := other.errors } ∧
      ∀ name sub second, (name, sub) ∈ plan.relations → (name, second) ∈ other.relations →
        sub = second := by
  have hfacts : (Sample.catalog.plan "area" .list Sample.named).isOk = true ∧
      ((Sample.catalog.plan "area" .list Sample.named).toOption.getD default).fields = ["name"] ∧
      ((Sample.catalog.plan "area" .list Sample.named).toOption.getD default).errors =
        [⟨"area.fields", .unknownField "summit"⟩] ∧
      ((Sample.catalog.plan "area" .list Sample.flagged).toOption.getD default).fields = [] ∧
      ((Sample.catalog.plan "area" .list Sample.flagged).toOption.getD default).errors =
        [⟨"area.fields", .invalidValueType⟩] ∧
      (Sample.catalog.visit? "area" .list Sample.named []).map (fun visit =>
        (Sample.named.entries.entries ++ Sample.flagged.entries.entries).map fun entry =>
          (visit.route entry.1 entry.2).selects) = some [false, true, true, false] := by
    decide +kernel
  obtain ⟨hok, hfields, herrors, hotherFields, hotherErrors, hroutes⟩ := hfacts
  have hplan := eq_ok_of_isOk default hok
  obtain ⟨visit, hvisit, hroutes⟩ := Option.map_eq_some_iff.1 hroutes
  obtain ⟨-, hparams, -⟩ := Catalog.visit?_nil_eq_some_iff.1 hvisit
  have hsame : visit.AltersFields Sample.flagged := by
    have hother : (visit.withParams Sample.flagged).besideFields =
        Sample.flagged.entries.entries.filter fun entry =>
          !(visit.route entry.1 entry.2).selects := rfl
    simp only [Sample.named, Sample.flagged, List.cons_append, List.nil_append, List.map_cons,
      List.map_nil, List.cons.injEq] at hroutes
    rw [Visit.AltersFields, hother, Visit.besideFields, hparams]
    simp [Sample.named, Sample.flagged, hroutes]
  obtain ⟨other, hother, heq, hrelations, -⟩ :=
    Document.fields_select Sample.resolve_document hplan hvisit hsame
  rw [hother] at hotherFields hotherErrors
  exact ⟨_, other, hplan, hother, hfields, herrors, hotherFields, hotherErrors, heq, hrelations⟩

end RestQuery
