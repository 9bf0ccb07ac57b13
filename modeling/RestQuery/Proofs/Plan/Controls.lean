import RestQuery.Proofs.Plan.Nodes
import RestQuery.Proofs.Plan.Rejections
import RestQuery.Proofs.Plan.Siblings
import RestQuery.Proofs.Request.Insertion
import RestQuery.Proofs.Request.Spellings

/-!
# Errors in the value for a control

Entries of one key in normal form go to one place, so that whatever is found where an entry of a
node leads is found by the level of that node, unless an entry has no value of a parameter or the
place of another one.  Where a control of the node is given, it is an error in the value for that
control, apart from entries that are refused.

Main statements: `Visit.Plans.errors_found` and `Catalog.Sound.errors_about`.
-/

namespace RestQuery

/-- Whether a problem is that of an entry which is refused where it goes, whatever it says. -/
def Problem.isRefusal : Problem → Bool
  | .unknownParameter | .invalidValueType | .duplicateParameter | .relationKeyRequired => true
  | _ => false

/-- Whether a problem is not one of the key of an entry: the entry has no value of a parameter, or
another one has its place. -/
def Problem.isOfValueOrPlace : Problem → Bool
  | .invalidValueType | .duplicateParameter => true
  | _ => false

/-- Whether an error is found at a place, and is not one of the value or the place of an entry. -/
def RequestError.isFound (located : String) (error : RequestError) : Bool :=
  error.isAt located && !error.problem.isOfValueOrPlace

theorem RequestError.isFound_eq_true_iff {error : RequestError} {located : String} :
    error.isFound located = true ↔
      error.trace = located ∧ error.problem.isDepth = false ∧
        error.problem.isOfValueOrPlace = false := by
  simp [isFound, isAt, and_assoc]

/-- Whether an error is about what an entry says, and found at a place. -/
def RequestError.isAbout (located : String) (error : RequestError) : Bool :=
  error.isAt located && !error.problem.isRefusal

theorem RequestError.isAbout_eq_true_iff {error : RequestError} {located : String} :
    error.isAbout located = true ↔
      error.trace = located ∧ error.problem.isDepth = false ∧
        error.problem.isRefusal = false := by
  simp [isAbout, isAt, and_assoc]

theorem filter_isAbout (errors : List RequestError) (located : String) :
    errors.filter (·.isAbout located) =
      (errors.filter (·.isFound located)).filter (!·.problem.isRefusal) := by
  rw [List.filter_filter]
  refine List.filter_congr fun error _ => ?_
  obtain ⟨trace, problem⟩ := error
  cases problem <;> simp [RequestError.isAbout, RequestError.isFound, Problem.isRefusal,
    Problem.isOfValueOrPlace]

/-! ## Entries of one key -/

namespace Route

variable {left right : Route} {rawValue : ParamValue}

theorem relation?_bare (route : Route) : route.bare.relation? = route.relation? := by
  cases route <;> rfl

theorem relation?_withValue (route : Route) : (route.withValue rawValue).relation? =
    route.relation? := by
  cases route <;> rfl

theorem isSome_filter?_bare (route : Route) : route.bare.filter?.isSome = route.filter?.isSome := by
  cases route <;> rfl

theorem isSome_filter?_withValue (route : Route) :
    (route.withValue rawValue).filter?.isSome = route.filter?.isSome := by
  cases route <;> rfl

end Route

namespace Keys

variable {keys : Keys} {trace key other : String} {value given : Json} {error : RequestError}

/-- Entries with one key in normal form and values of parameters go to one relation, or stay at the
level in one way. -/
theorem alike_of_normal_eq (hkey : Key.normal key = Key.normal other)
    (hvalue : (ParamValue.ofJson? value).isSome) (hgiven : (ParamValue.ofJson? given).isSome) :
    (keys.route trace key value).relation? = (keys.route trace other given).relation? ∧
      (keys.route trace key value).filter?.isSome =
        (keys.route trace other given).filter?.isSome := by
  obtain ⟨rawValue, hroute⟩ : ∃ rawValue,
      keys.route trace other value = (keys.route trace other given).withValue rawValue :=
    exists_route_eq_withValue hvalue hgiven
  have hbare : (keys.route trace key value).bare = (keys.route trace other value).bare :=
    bare_route hkey value
  constructor
  · rw [← Route.relation?_bare, hbare, hroute, Route.relation?_bare, Route.relation?_withValue]
  · rw [← Route.isSome_filter?_bare, hbare, hroute, Route.isSome_filter?_bare,
      Route.isSome_filter?_withValue]

theorem isRefusal_of_routeParameter {parameter : Parameter}
    (hroute : keys.routeParameter parameter = .refused error) : error.problem.isRefusal = true := by
  rw [routeParameter] at hroute
  dsimp only at hroute
  split at hroute
  · split at hroute
    · cases hroute
    · exact Route.refused.inj hroute ▸ rfl
  split at hroute
  · cases hroute
  split at hroute
  · split at hroute
    · exact Route.refused.inj hroute ▸ rfl
    · cases hroute
  split at hroute
  · cases hroute
  · exact Route.refused.inj hroute ▸ rfl

theorem isRefusal_of_route (hroute : keys.route trace key value = .refused error) :
    error.problem.isRefusal = true := by
  rw [route] at hroute
  split at hroute
  · exact isRefusal_of_routeParameter hroute
  · exact Route.refused.inj hroute ▸ rfl

end Keys

namespace Visit

variable {catalog : Catalog} {visit reached : Visit} {depth : Nat} {plan : Plan}
  {path : List String} {control : Control} {parameter : Parameter} {error : RequestError}

/-- All errors of putting entries where they go are refusals. -/
theorem isRefusal_of_mem_errors_routed (herror : error ∈ visit.routed.errors) :
    error.problem.isRefusal = true := by
  rw [errors_routed] at herror
  obtain ⟨⟨route, _⟩, hrefusal, rfl⟩ := List.mem_map.1 herror
  obtain ⟨before, after, hsplit, hrefused⟩ := Route.exists_of_mem_refusals hrefusal
  obtain ⟨entry, -, hroute⟩ :=
    List.mem_map.1 (hsplit ▸ List.mem_append_right before List.mem_cons_self)
  cases route with
  | filter parameter => cases hrefused
  | control parameter =>
      obtain ⟨-, rfl⟩ := Option.ite_some_none_eq_some.1 hrefused
      rfl
  | relation name rest parameter =>
      obtain ⟨-, rfl⟩ := Option.ite_some_none_eq_some.1 hrefused
      rfl
  | refused refusal => exact Option.some.inj hrefused ▸ Keys.isRefusal_of_route hroute

/-! ## Errors of a level -/

def controlErrors (visit : Visit) : Control → List RequestError
  | .fields => (visit.level.projection visit.capability visit.routed).2.2
  | .limit => (Level.limit visit.capability visit.routed).2
  | .offset => (Level.offset visit.capability visit.routed).2
  | .order => (visit.level.order visit.capability visit.routed).2
  | .search => (visit.level.search visit.routed).2

/-- An error that is to blame on whatever entry leads to a control is found where the control is. -/
theorem isAt_of_blamed_control (hgiven : visit.routed.control? control = some parameter)
    (hblamed : ∀ params : Params, params.Traces visit.level.trace parameter.trace →
      params.Blamed visit.level.trace error) : error.isAt parameter.trace = true := by
  obtain ⟨-, other, -, -, htrace⟩ := exists_of_mem_control? hgiven
  rw [htrace]
  exact Params.isAt_of_blamed_only (hblamed (.only other) (traces_only htrace))

theorem exists_of_mem_controlValue {default : α} {read : Parameter → Except RequestError α}
    (hread : ∀ (params : Params) (given : Parameter),
      params.Traces visit.level.trace given.trace → Blames params visit.level.trace (read given))
    (herror : error ∈ (Level.controlValue (visit.routed.control? control) default read).2) :
    ∃ parameter, visit.routed.control? control = some parameter ∧
      error.isAt parameter.trace = true := by
  obtain ⟨parameter, hgiven, hfailure⟩ := Level.mem_controlValue.1 herror
  refine ⟨parameter, hgiven, isAt_of_blamed_control hgiven fun params htraces => ?_⟩
  exact hread params parameter htraces error hfailure

theorem exists_of_mem_controlErrors (herror : error ∈ visit.controlErrors control) :
    ∃ parameter, visit.routed.control? control = some parameter ∧
      error.isAt parameter.trace = true := by
  cases control with
  | fields =>
      cases hgiven : visit.routed.control? .fields with
      | none =>
          rw [controlErrors, Level.projection, hgiven] at herror
          cases herror
      | some parameter =>
          refine ⟨parameter, rfl, isAt_of_blamed_control hgiven fun params htraces => ?_⟩
          refine Level.blamed_of_mem_projection (fun given hsome => ?_) error herror
          exact Option.some.inj (hgiven.symm.trans hsome) ▸ htraces
  | limit =>
      rw [controlErrors, Level.limit] at herror
      split at herror
      · exact exists_of_mem_controlValue (fun _ _ => Level.blames_readLimit _) herror
      · cases herror
  | offset =>
      rw [controlErrors, Level.offset] at herror
      split at herror
      · exact exists_of_mem_controlValue (fun _ _ => Level.blames_readOffset) herror
      · cases herror
  | order =>
      rw [controlErrors, Level.order] at herror
      split at herror
      · exact exists_of_mem_controlValue (fun _ _ => Level.blames_readOrder _) herror
      · cases herror
  | search => exact exists_of_mem_controlValue (fun _ _ => blames_search _) herror

/-- The errors of a level that are about what its entries say: those of filters and controls. -/
def ownErrors (catalog : Catalog) (visit : Visit) : List RequestError :=
  visit.readErrors catalog ++ visit.applyErrors catalog

theorem isRefusal_of_filter
    (hfilter : visit.level.filter catalog visit.capability parameter = .error error) :
    error.problem.isRefusal = true := by
  rw [Level.filter] at hfilter
  split at hfilter
  · cases hfilter
  · exact Except.error.inj hfilter ▸ rfl

theorem mem_ownErrors (herror : error ∈ visit.ownErrors catalog) :
    (∃ given ∈ visit.routed.filters,
        visit.level.filter catalog visit.capability given = .error error) ∨
      error ∈ (visit.filters catalog).flatMap Level.Filter.errors ∨
        ∃ control, error ∈ visit.controlErrors control := by
  simp only [ownErrors, readErrors, applyErrors, List.mem_append] at herror
  rcases herror with ((((hunknown | hlimit) | hoffset) | horder) | hfields) | hfilter | hsearch
  · obtain ⟨given, hgiven, hfailure⟩ := List.mem_filterMap.1 hunknown
    exact .inl ⟨given, hgiven, failure?_eq_some_iff.1 hfailure⟩
  · exact .inr (.inr ⟨.limit, hlimit⟩)
  · exact .inr (.inr ⟨.offset, hoffset⟩)
  · exact .inr (.inr ⟨.order, horder⟩)
  · exact .inr (.inr ⟨.fields, hfields⟩)
  · exact .inr (.inl hfilter)
  · exact .inr (.inr ⟨.search, hsearch⟩)

/-! ## Entries that lead to one place -/

/-- An entry that has the value of a parameter leads to a place. -/
structure LeadsAt (visit : Visit) (located : String) (entry : String × Json) : Prop where
  mem : entry ∈ visit.params.entries.entries
  isValue : (ParamValue.ofJson? entry.2).isSome
  located : visit.located entry.1 = located

variable {located : String} {entry other : String × Json}

/-- Two entries that lead to one place go there alike. -/
theorem LeadsAt.alike (hleft : visit.LeadsAt located entry) (hright : visit.LeadsAt located other) :
    (visit.route entry.1 entry.2).relation? = (visit.route other.1 other.2).relation? ∧
      (visit.route entry.1 entry.2).filter?.isSome =
        (visit.route other.1 other.2).filter?.isSome :=
  Keys.alike_of_normal_eq (located_inj.1 (hleft.located.trans hright.located.symm)) hleft.isValue
    hright.isValue

theorem isSome_of_route {key : String} {value : Json} {route : Route}
    (hroute : visit.route key value = route) (hkept : ∀ error, route ≠ .refused error) :
    (ParamValue.ofJson? value).isSome := by
  obtain ⟨given, hgiven, -⟩ := Keys.exists_value_of_route hroute hkept
  rw [hgiven, Option.isSome_some]

theorem exists_leadsAt_of_control? (hgiven : visit.routed.control? control = some parameter) :
    ∃ entry, visit.LeadsAt parameter.trace entry ∧
      visit.route entry.1 entry.2 = .control parameter := by
  obtain ⟨-, entry, hentry, hroute, htrace⟩ := exists_of_mem_control? hgiven
  exact ⟨entry, ⟨hentry, isSome_of_route hroute nofun, htrace.symm⟩, hroute⟩

/-- What is wrong at a place is found where an entry leads. -/
theorem leadsAt_of_blamed (hentry : entry ∈ visit.params.entries.entries)
    (hvalue : (ParamValue.ofJson? entry.2).isSome)
    (hblamed : (Params.only entry).Blamed visit.level.trace error) :
    visit.LeadsAt error.trace entry := by
  have hat := Params.isAt_of_blamed_only hblamed
  exact ⟨hentry, hvalue, (beq_iff_eq.1 (Bool.and_eq_true_iff.1 hat).1).symm⟩

theorem exists_leadsAt_of_mem_filters
    (herror : error ∈ (visit.filters catalog).flatMap Level.Filter.errors) :
    ∃ entry given, visit.LeadsAt error.trace entry ∧
      visit.route entry.1 entry.2 = .filter given := by
  obtain ⟨filter, hfilter, herror⟩ := List.mem_flatMap.1 herror
  obtain ⟨-, entry, hentry, hroute, htrace⟩ := exists_of_mem_filters_catalog hfilter
  exact ⟨entry, _, leadsAt_of_blamed hentry (isSome_of_route hroute nofun)
    (blamed_of_mem_errors htrace herror), hroute⟩

/-- What is wrong with filters and controls is found where entries lead that stay at the level and
are not refused. -/
theorem exists_leadsAt_of_mem_ownErrors (herror : error ∈ visit.ownErrors catalog) :
    ∃ entry, visit.LeadsAt error.trace entry ∧
      (visit.route entry.1 entry.2).relation? = none ∧
      ∀ refusal, visit.route entry.1 entry.2 ≠ .refused refusal := by
  rcases mem_ownErrors herror with ⟨given, hgiven, hfailure⟩ | hfilter | ⟨control, hcontrol⟩
  · obtain ⟨entry, hentry, hroute, htrace⟩ := exists_of_mem_filters hgiven
    have hblamed := Level.blames_filter (traces_only htrace) error hfailure
    refine ⟨entry, leadsAt_of_blamed hentry (isSome_of_route hroute nofun) hblamed, ?_, ?_⟩
    · rw [hroute]
      rfl
    · exact fun refusal => hroute ▸ nofun
  · obtain ⟨entry, given, hentry, hroute⟩ := exists_leadsAt_of_mem_filters hfilter
    exact ⟨entry, hentry, by rw [hroute]; rfl, fun refusal => hroute ▸ nofun⟩
  · obtain ⟨parameter, hgiven, hat⟩ := exists_of_mem_controlErrors hcontrol
    obtain ⟨entry, hentry, hroute⟩ := exists_leadsAt_of_control? hgiven
    rw [beq_iff_eq.1 (Bool.and_eq_true_iff.1 hat).1]
    exact ⟨entry, hentry, by rw [hroute]; rfl, fun refusal => hroute ▸ nofun⟩

/-- An entry that is refused for its key is found where it leads. -/
theorem exists_leadsAt_of_mem_errors_routed (herror : error ∈ visit.routed.errors)
    (hkey : error.problem.isOfValueOrPlace = false) :
    ∃ entry, visit.LeadsAt error.trace entry ∧ visit.route entry.1 entry.2 = .refused error := by
  rw [errors_routed] at herror
  obtain ⟨⟨route, _⟩, hrefusal, rfl⟩ := List.mem_map.1 herror
  obtain ⟨before, after, hsplit, hrefused⟩ := Route.exists_of_mem_refusals hrefusal
  obtain ⟨entry, hentry, hroute⟩ :=
    List.mem_map.1 (hsplit ▸ List.mem_append_right before List.mem_cons_self)
  cases route with
  | filter parameter => cases hrefused
  | control parameter =>
      obtain ⟨-, rfl⟩ := Option.ite_some_none_eq_some.1 hrefused
      cases hkey
  | relation name rest parameter =>
      obtain ⟨-, rfl⟩ := Option.ite_some_none_eq_some.1 hrefused
      cases hkey
  | refused refusal =>
      obtain rfl := Option.some.inj hrefused
      refine ⟨entry, ⟨hentry, ?_, (traced_of_route hroute).1.symm⟩, hroute⟩
      rw [Option.isSome_iff_ne_none]
      intro hnone
      change visit.route entry.1 entry.2 = _ at hroute
      rw [Visit.route, Keys.route, hnone] at hroute
      rw [← Route.refused.inj hroute] at hkey
      cases hkey

/-- An entry for a level comes from one of the level above, which leads to the same place. -/
theorem LeadsAt.exists_above {child : Visit} {name : String} (hleads : child.LeadsAt located entry)
    (hbelow : visit.below? catalog name = some child)
    (htrace : child.level.trace = visit.level.trace ++ "." ++ name) :
    ∃ above, visit.LeadsAt located above ∧
      (visit.route above.1 above.2).relation? = some name := by
  obtain ⟨source, hsource, hgoes, hlocated⟩ := exists_located_of_mem_below hbelow htrace hleads.mem
  obtain ⟨rest, parameter, hroute⟩ := Route.exists_of_leadsTo hgoes
  refine ⟨source, ⟨hsource, isSome_of_route hroute nofun, ?_⟩, by rw [hroute]; rfl⟩
  rw [← hleads.located]
  exact hlocated.symm

/-- Errors of a relation that are not about depth are found where entries lead that go there. -/
theorem exists_leadsAt_of_mem_below (hsound : catalog.Sound) {child : Visit} {name : String}
    (hbelow : visit.below? catalog name = some child)
    (htrace : child.level.trace = visit.level.trace ++ "." ++ name)
    (hplans : child.Plans catalog depth plan) (herror : error ∈ plan.errors)
    (hdepth : error.problem.isDepth = false) :
    ∃ entry, visit.LeadsAt error.trace entry ∧
      (visit.route entry.1 entry.2).relation? = some name := by
  obtain ⟨below, hmem, hexplains⟩ := hplans.explained hsound herror
  obtain ⟨source, hsource, hleads, hlocated⟩ := exists_located_of_mem_below hbelow htrace hmem
  obtain ⟨rest, parameter, hroute⟩ := Route.exists_of_leadsTo hleads
  refine ⟨source, ⟨hsource, isSome_of_route hroute nofun, ?_⟩, by rw [hroute]; rfl⟩
  cases hexplains with
  | here hlocal herror => rw [herror, hlocated, Visit.located]
  | beyond hdeep => simp [hdepth] at hdeep
  | fields hdeep => simp [hdepth] at hdeep

/-- An entry of a level leads where one of the level at the end of a path from there does that goes
no further. -/
theorem Plans.exists_leadsAt (hplans : visit.Plans catalog depth plan) (hsound : catalog.Sound)
    (hnode : (plan.along? path).isSome) (halong : visit.along? catalog path = some reached)
    (howner : reached.LeadsAt located entry)
    (hstays : (reached.route entry.1 entry.2).relation? = none) :
    ∃ above, visit.LeadsAt located above ∧
      (visit.route above.1 above.2).relation? = path.head? := by
  induction path generalizing visit depth plan with
  | nil =>
      obtain rfl := Option.some.inj halong
      exact ⟨entry, howner, hstays⟩
  | cons name rest ih =>
      obtain ⟨child, hbelow, hrest⟩ := Option.bind_eq_some_iff.1 halong
      obtain ⟨node, hnode⟩ := Option.isSome_iff_exists.1 hnode
      obtain ⟨sub, hlookup, hsub⟩ := Option.bind_eq_some_iff.1 hnode
      obtain ⟨_, left, full, -, -, hfound, htrace, hchild, rfl⟩ :=
        hplans.exists_of_lookup hsound hlookup
      obtain rfl := Option.some.inj (hbelow.symm.trans hfound)
      obtain ⟨other, hother, -⟩ := Plan.exists_of_along?_withErrors hsub
      obtain ⟨below, hleads, -⟩ := ih hchild (Option.isSome_iff_exists.2 ⟨other, hother⟩) hrest
      exact hleads.exists_above hbelow htrace

/-! ## Errors of a plan -/

/-- The errors of a level: those of entries that are refused, and those about what entries say. -/
def levelErrors (catalog : Catalog) (visit : Visit) : List RequestError :=
  visit.routed.errors ++ visit.ownErrors catalog

theorem filter_errors_planOf {referrer : String} {depthErrors : List RequestError}
    {relations : List (String × Plan)}
    (hdepth : ∀ error ∈ depthErrors, error.problem.isDepth = true) :
    (visit.planOf catalog referrer depthErrors relations).errors.filter (·.isFound located) =
      (visit.levelErrors catalog).filter (·.isFound located) ++
        relations.flatMap fun result => result.2.errors.filter (·.isFound located) := by
  have hdeep : depthErrors.filter (·.isFound located) = [] :=
    List.filter_eq_nil_iff.2 fun error herror => by
      simp [RequestError.isFound, RequestError.isAt, hdepth error herror]
  rw [errors_planOf_eq, levelErrors, ownErrors]
  simp only [List.filter_append, List.filter_flatMap, hdeep, List.append_assoc,
    List.nil_append]

/-- Where a control of a level is given, the errors of the level are those in its value. -/
theorem filter_ownErrors (hgiven : visit.routed.control? control = some parameter)
    (hown : ∀ error ∈ visit.controlErrors control, error.problem.isRefusal = false) :
    (visit.ownErrors catalog).filter (·.isAbout parameter.trace) =
      visit.controlErrors control := by
  have hcontrol : ∀ other, (visit.controlErrors other).filter (·.isAbout parameter.trace) =
      if other = control then visit.controlErrors control else [] := by
    intro other
    split
    next hsame =>
      subst hsame
      refine List.filter_eq_self.2 fun error herror => ?_
      obtain ⟨found, hfound, hat⟩ := exists_of_mem_controlErrors herror
      obtain rfl := Option.some.inj (hgiven.symm.trans hfound)
      rw [RequestError.isAbout, hat, hown error herror]
      rfl
    next hother =>
      refine List.filter_eq_nil_iff.2 fun error herror habout => hother ?_
      obtain ⟨found, hfound, hat⟩ := exists_of_mem_controlErrors herror
      have htrace := beq_iff_eq.1 (Bool.and_eq_true_iff.1 hat).1
      rw [(RequestError.isAbout_eq_true_iff.1 habout).1, trace_of_control? hgiven,
        trace_of_control? hfound, String.append_right_inj] at htrace
      exact (Control.name_inj.1 htrace).symm
  have hfilters : ((visit.filters catalog).flatMap Level.Filter.errors).filter
      (·.isAbout parameter.trace) = [] := by
    refine List.filter_eq_nil_iff.2 fun error herror habout => ?_
    obtain ⟨entry, given, hentry, hfilter⟩ := exists_leadsAt_of_mem_filters herror
    obtain ⟨other, hother, hroute⟩ := exists_leadsAt_of_control? hgiven
    rw [(RequestError.isAbout_eq_true_iff.1 habout).1] at hentry
    have halike := (hentry.alike hother).2
    rw [hfilter, hroute] at halike
    cases halike
  have hunknown : (visit.routed.filters.filterMap fun given =>
      failure? (visit.level.filter catalog visit.capability given)).filter
        (·.isAbout parameter.trace) = [] := by
    refine List.filter_eq_nil_iff.2 fun error herror habout => ?_
    obtain ⟨given, -, hfailure⟩ := List.mem_filterMap.1 herror
    obtain ⟨-, -, hkept⟩ := RequestError.isAbout_eq_true_iff.1 habout
    rw [isRefusal_of_filter (failure?_eq_some_iff.1 hfailure)] at hkept
    cases hkept
  have hlimit := hcontrol .limit
  have hoffset := hcontrol .offset
  have horder := hcontrol .order
  have hfields := hcontrol .fields
  have hsearch := hcontrol .search
  simp only [controlErrors] at hlimit hoffset horder hfields hsearch
  rw [ownErrors, readErrors, applyErrors]
  simp only [List.filter_append, hunknown, hlimit, hoffset, horder, hfields, hfilters, hsearch]
  cases control <;> simp [controlErrors]

/-- Where an entry of a level leads that does not go to a relation, nothing is found by the level of
the relation. -/
theorem Plans.filter_errors_below (hsound : catalog.Sound) {child : Visit} {name : String}
    (hplans : child.Plans catalog depth plan) (hbelow : visit.below? catalog name = some child)
    (htrace : child.level.trace = visit.level.trace ++ "." ++ name)
    (howner : visit.LeadsAt located entry)
    (hgoes : (visit.route entry.1 entry.2).relation? ≠ some name) :
    plan.errors.filter (·.isFound located) = [] := by
  refine List.filter_eq_nil_iff.2 fun error herror hfound => hgoes ?_
  obtain ⟨hlocated, hlocal, -⟩ := RequestError.isFound_eq_true_iff.1 hfound
  obtain ⟨other, hother, hrelation⟩ :=
    exists_leadsAt_of_mem_below hsound hbelow htrace hplans herror hlocal
  rw [hlocated] at hother
  rw [(howner.alike hother).1, hrelation]

/-- Where an entry of a level leads that goes to a relation, nothing is found by the level. -/
theorem filter_levelErrors_of_relation (howner : visit.LeadsAt located entry)
    (hgoes : (visit.route entry.1 entry.2).relation? ≠ none) :
    (visit.levelErrors catalog).filter (·.isFound located) = [] := by
  refine List.filter_eq_nil_iff.2 fun error herror hfound => hgoes ?_
  obtain ⟨hlocated, -, hkey⟩ := RequestError.isFound_eq_true_iff.1 hfound
  obtain ⟨other, hother, hnone⟩ : ∃ other, visit.LeadsAt error.trace other ∧
      (visit.route other.1 other.2).relation? = none := by
    rcases List.mem_append.1 herror with hrouted | hown
    · obtain ⟨other, hother, hroute⟩ := exists_leadsAt_of_mem_errors_routed hrouted hkey
      exact ⟨other, hother, by rw [hroute]; rfl⟩
    · obtain ⟨other, hother, hnone, -⟩ := exists_leadsAt_of_mem_ownErrors hown
      exact ⟨other, hother, hnone⟩
  rw [hlocated] at hother
  rw [(howner.alike hother).1, hnone]

/-- Where an entry of a level leads that goes no further, the errors of a plan are those of that
level. -/
theorem Plans.errors_found (hplans : visit.Plans catalog depth plan) (hsound : catalog.Sound)
    (hnode : (plan.along? path).isSome) (halong : visit.along? catalog path = some reached)
    (howner : reached.LeadsAt located entry)
    (hstays : (reached.route entry.1 entry.2).relation? = none) :
    plan.errors.filter (·.isFound located) =
      (reached.levelErrors catalog).filter (·.isFound located) := by
  induction path generalizing visit depth plan with
  | nil =>
      obtain rfl := Option.some.inj halong
      obtain ⟨_, relations, heq, hdepth, -, hrelations⟩ := hplans.exists_relations hsound
      have hbelow : (relations.flatMap fun result =>
          result.2.errors.filter (·.isFound located)) = [] := by
        refine List.flatMap_eq_nil_iff.2 fun result hresult => ?_
        obtain ⟨child, _, -, -, hbelow, htrace, hchild⟩ := hrelations result hresult
        exact hchild.filter_errors_below hsound hbelow htrace howner (by simp [hstays])
      rw [heq, filter_errors_planOf hdepth, hbelow, List.append_nil]
  | cons name rest ih =>
      obtain ⟨above, habove, hgoes⟩ := hplans.exists_leadsAt hsound hnode halong howner hstays
      obtain ⟨_, relations, heq, hdepth, hnodup, hrelations⟩ := hplans.exists_relations hsound
      obtain ⟨child, hbelow, hrest⟩ := Option.bind_eq_some_iff.1 halong
      obtain ⟨node, hnode⟩ := Option.isSome_iff_exists.1 hnode
      obtain ⟨sub, hlookup, hsub⟩ := Option.bind_eq_some_iff.1 hnode
      rw [heq] at hlookup
      obtain ⟨full, hresult, rfl⟩ := exists_of_lookup_planOf hlookup
      obtain ⟨found, left, -, -, hfound, -, hchild⟩ := hrelations _ hresult
      obtain rfl := Option.some.inj (hbelow.symm.trans hfound)
      obtain ⟨other, hother, -⟩ := Plan.exists_of_along?_withErrors hsub
      have hfull := ih hchild (Option.isSome_iff_exists.2 ⟨other, hother⟩) hrest
      -- The relation is the only one whose errors can be found where the entry leads.
      have hothers : ∀ result ∈ relations, result.1 ≠ name →
          result.2.errors.filter (·.isFound located) = [] := by
        intro result hresult hne
        obtain ⟨child, _, -, -, hbelow, htrace, hchild⟩ := hrelations result hresult
        refine hchild.filter_errors_below hsound hbelow htrace habove ?_
        rw [hgoes]
        exact fun hsame => hne (Option.some.inj hsame).symm
      rw [heq, filter_errors_planOf hdepth,
        filter_levelErrors_of_relation habove (by simp [hgoes]), List.nil_append,
        flatMap_eq_of_others hnodup hresult hothers, hfull]

theorem Plans.errors_about (hplans : visit.Plans catalog depth plan) (hsound : catalog.Sound)
    (hnode : (plan.along? path).isSome) (halong : visit.along? catalog path = some reached)
    (hgiven : reached.routed.control? control = some parameter)
    (hown : ∀ error ∈ reached.controlErrors control, error.problem.isRefusal = false) :
    plan.errors.filter (·.isAbout parameter.trace) = reached.controlErrors control := by
  obtain ⟨entry, howner, hroute⟩ := exists_leadsAt_of_control? hgiven
  have hrefused : reached.routed.errors.filter (·.isAbout parameter.trace) = [] :=
    List.filter_eq_nil_iff.2 fun error herror => by
      simp [RequestError.isAbout, isRefusal_of_mem_errors_routed herror]
  calc plan.errors.filter (·.isAbout parameter.trace)
      _ = (reached.levelErrors catalog).filter (·.isAbout parameter.trace) := by
        rw [filter_isAbout, filter_isAbout,
          hplans.errors_found hsound hnode halong howner (by rw [hroute]; rfl)]
      _ = (reached.ownErrors catalog).filter (·.isAbout parameter.trace) := by
        rw [levelErrors, List.filter_append, hrefused, List.nil_append]
      _ = reached.controlErrors control := filter_ownErrors hgiven hown

end Visit

/-- Where a control of a node is given, the errors of the plan that are about what entries say are
those in the value of the control. -/
theorem Catalog.Sound.errors_about {catalog : Catalog} (hsound : catalog.Sound)
    {resource : String} {target : Target} {params : Params} {plan node : Plan}
    {path : List String} {visit : Visit} {control : Control} {parameter : Parameter}
    (hplan : catalog.plan resource target params = .ok plan) (hnode : plan.along? path = some node)
    (hvisit : catalog.visit? resource target params path = some visit)
    (hgiven : visit.routed.control? control = some parameter)
    (hown : ∀ error ∈ visit.controlErrors control, error.problem.isRefusal = false) :
    plan.errors.filter (·.isAbout parameter.trace) = visit.controlErrors control := by
  obtain ⟨root, hplans, -, -, hroot⟩ := hsound.exists_visit hplan
  exact hplans.errors_about hsound (Option.isSome_iff_exists.2 ⟨node, hnode⟩)
    ((hroot path).symm.trans hvisit) hgiven hown

end RestQuery
