import RestQuery.Proofs.Plan.Erasure
import RestQuery.Proofs.Plan.Origins

/-!
# Requests without a rejected entry

An entry of the root that is in error has no other effect.  Whatever raises an error at a level is
refused, or it is a filter that becomes errors and nothing else, or a control that leaves the
default value.  So without the entry the plan is the same, but for the errors.

Main statement: `Document.plan_erase`.
-/

namespace RestQuery

/-! ## Controls -/

theorem Level.mem_controlValue {given : Option Parameter} {default : α}
    {read : Parameter → Except RequestError α} {error : RequestError} :
    error ∈ (controlValue given default read).2 ↔
      ∃ parameter ∈ given, read parameter = .error error := by
  cases given with
  | none => simp [controlValue]
  | some parameter =>
      cases hread : read parameter with
      | ok value => simp [controlValue, hread]
      | error other => simp [controlValue, hread, eq_comm]

theorem Level.controlValue_filter {given : Option Parameter} {default : α}
    {read : Parameter → Except RequestError α} {kept : Parameter → Bool}
    {keeps : RequestError → Bool}
    (hkept : ∀ parameter ∈ given, ∀ error, read parameter = .error error →
      keeps error = kept parameter)
    (hfails : ∀ parameter ∈ given, kept parameter = false →
      (failure? (read parameter)).isSome) :
    controlValue (given.filter kept) default read =
      ((controlValue given default read).1, (controlValue given default read).2.filter keeps) := by
  cases given with
  | none => rfl
  | some parameter =>
      have hkept := hkept parameter rfl
      have hfails := hfails parameter rfl
      cases hread : read parameter with
      | ok value =>
          have hk : kept parameter = true := by
            by_contra hdropped
            simp [hread, failure?, hdropped] at hfails
          simp [controlValue, Option.filter, hread, hk]
      | error error =>
          cases hk : kept parameter <;>
            simp [controlValue, Option.filter, hread, hk, hkept error hread]

namespace Visit

variable {document : Document} {catalog : Catalog} {visit : Visit} {entry : String × Json}
  {plan : Plan} {name : String}

/-! ## What is rejected -/

/-- The error in the value for a control other than the fields. -/
def controlError? (visit : Visit) (parameter : Parameter) : Control → Option RequestError
  | .fields => none
  | .limit => failure? (Level.readLimit visit.capability.maxLimit parameter)
  | .offset => failure? (Level.readOffset parameter)
  | .order => failure? (Level.readOrder ⟨visit.capability.orderFields,
      (visit.level.link?.map (·.orderFields)).getD []⟩ parameter)
  | .search => failure? parameter.single

theorem controlError?_search {parameter : Parameter} :
    visit.controlError? parameter .search = failure? (parameter.single.map
      (Filter.compileSearch visit.level.resource.searchColumn)) :=
  (failure?_map _ parameter.single).symm

theorem blames_search (column : String) {params : Params} {trace : String}
    {parameter : Parameter} (htraced : params.Traces trace parameter.trace) :
    Blames params trace (parameter.single.map (Filter.compileSearch column)) := by
  intro error herror
  rw [← failure?_eq_some_iff, failure?_map, failure?_eq_some_iff] at herror
  exact blames_single htraced error herror

/-- What goes a route raises an error at the level. -/
inductive Rejects (catalog : Catalog) (visit : Visit) : Route → Prop
  | refused {error : RequestError} : Rejects catalog visit (.refused error)
  | unknown {parameter : Parameter} {error : RequestError}
      (hfilter : visit.level.filter catalog visit.capability parameter = .error error) :
      Rejects catalog visit (.filter parameter)
  | filter {parameter : Parameter} {filter : Level.Filter} {errors : List RequestError}
      (hfilter : visit.level.filter catalog visit.capability parameter = .ok filter)
      (houtcome : filter.outcome = .error errors) : Rejects catalog visit (.filter parameter)
  | control {parameter : Parameter} {control : Control} (hkey : parameter.key = control.name)
      (herror : (visit.controlError? parameter control).isSome) :
      Rejects catalog visit (.control parameter)

theorem Rejects.isSome_controlError? {parameter : Parameter} {control : Control}
    (hrejects : visit.Rejects catalog (.control parameter))
    (hkey : parameter.key = control.name) : (visit.controlError? parameter control).isSome := by
  cases hrejects with
  | @control _ other hother herror =>
      have hname : control.name = other.name := hkey.symm.trans hother
      have hsame : control = other := by cases control <;> cases other <;> simp_all [Control.name]
      exact hsame ▸ herror

/-! ## What the level gives without the entry -/

variable {control : Control} {read : Parameter → Except RequestError α} {default : α}

/-- Without an entry a control is read as before, but for the error if the entry gives it. -/
theorem Sole.controlValue_without (hsole : visit.Sole entry)
    (hrejects : visit.Rejects catalog (visit.route entry.1 entry.2))
    (hread : ∀ parameter, visit.controlError? parameter control = failure? (read parameter))
    (hblames : ∀ {params : Params} {parameter : Parameter},
      params.Traces visit.level.trace parameter.trace →
        Blames params visit.level.trace (read parameter)) :
    Level.controlValue ((visit.without entry.1).routed.control? control) default read =
      ((Level.controlValue (visit.routed.control? control) default read).1,
        (Level.controlValue (visit.routed.control? control) default read).2.filter
          (!·.isAt (visit.located entry.1))) := by
  rw [hsole.control?_without]
  refine Level.controlValue_filter (fun parameter hgiven error herror => ?_)
    fun parameter hgiven hhere => ?_
  · obtain ⟨-, other, -, -, htrace⟩ := exists_of_mem_control? hgiven
    exact not_isAt_of_blames htrace (hblames (traces_only htrace)) herror entry.1
  · obtain ⟨hkey, other, hother, hroute, htrace⟩ := exists_of_mem_control? hgiven
    rw [isElsewhere, htrace, bne_eq_false_iff_eq] at hhere
    obtain rfl := hsole.eq_of_located hother hhere
    rw [hroute] at hrejects
    rw [← hread]
    exact hrejects.isSome_controlError? hkey

section Controls

variable (hsole : visit.Sole entry)
  (hrejects : visit.Rejects catalog (visit.route entry.1 entry.2))

include hsole hrejects

theorem Sole.limit_without :
    Level.limit visit.capability (visit.without entry.1).routed =
      ((Level.limit visit.capability visit.routed).1,
        (Level.limit visit.capability visit.routed).2.filter
          (!·.isAt (visit.located entry.1))) := by
  rw [Level.limit, Level.limit]
  split
  · rw [hsole.controlValue_without hrejects (fun _ => rfl) (Level.blames_readLimit _)]
  · rfl

theorem Sole.offset_without :
    Level.offset visit.capability (visit.without entry.1).routed =
      ((Level.offset visit.capability visit.routed).1,
        (Level.offset visit.capability visit.routed).2.filter
          (!·.isAt (visit.located entry.1))) := by
  rw [Level.offset, Level.offset]
  split
  · rw [hsole.controlValue_without hrejects (fun _ => rfl) Level.blames_readOffset]
  · rfl

theorem Sole.order_without :
    visit.level.order visit.capability (visit.without entry.1).routed =
      ((visit.level.order visit.capability visit.routed).1,
        (visit.level.order visit.capability visit.routed).2.filter
          (!·.isAt (visit.located entry.1))) := by
  rw [Level.order, Level.order]
  split
  · exact hsole.controlValue_without hrejects (fun _ => rfl) (Level.blames_readOrder _)
  · rfl

theorem Sole.search_without :
    visit.level.search (visit.without entry.1).routed =
      ((visit.level.search visit.routed).1,
        (visit.level.search visit.routed).2.filter (!·.isAt (visit.located entry.1))) := by
  rw [Level.search, Level.search]
  exact hsole.controlValue_without hrejects (fun _ => controlError?_search) (blames_search _)

/-- A filter that the entry is has errors and nothing else. -/
theorem Sole.exists_outcome_eq_error {filter : Level.Filter}
    (hfilter : filter ∈ visit.filters catalog)
    (hhere : visit.isElsewhere entry.1 filter.parameter = false) :
    ∃ errors, filter.outcome = .error errors := by
  obtain ⟨hread, other, hother, hroute, htrace⟩ := exists_of_mem_filters_catalog hfilter
  rw [isElsewhere, htrace, bne_eq_false_iff_eq] at hhere
  obtain rfl := hsole.eq_of_located hother hhere
  rw [hroute] at hrejects
  cases hrejects with
  | unknown hunknown =>
      rw [hread] at hunknown
      cases hunknown
  | filter hknown houtcome =>
      obtain rfl := Except.ok.inj (hread.symm.trans hknown)
      exact ⟨_, houtcome⟩

/-- What filters in error do not give is the same without the entry. -/
theorem Sole.flatMap_filters_without {pick : Level.Filter → List α}
    (hpick : ∀ {filter : Level.Filter} {errors : List RequestError},
      filter.outcome = .error errors → pick filter = []) :
    ((visit.without entry.1).filters catalog).flatMap pick =
      (visit.filters catalog).flatMap pick := by
  rw [hsole.filters_catalog_without, flatMap_filter fun _ => true, List.filter_true]
  intro filter hfilter result hresult
  by_contra hdropped
  obtain ⟨errors, houtcome⟩ := hsole.exists_outcome_eq_error hrejects hfilter
    (Bool.eq_false_iff.2 (Ne.symm hdropped))
  rw [hpick houtcome] at hresult
  cases hresult

/-- Without an unshared entry the errors of the other ones in reading are left. -/
theorem Sole.readErrors_without :
    (visit.without entry.1).readErrors catalog =
      (visit.readErrors catalog).filter (!·.isAt (visit.located entry.1)) := by
  simp only [readErrors, level_without, capability_without, hsole.unknown_without,
    hsole.limit_without hrejects, hsole.offset_without hrejects, hsole.order_without hrejects,
    hsole.level_projection_without, hsole.filter_projection, List.filter_append]

theorem Sole.applyErrors_without :
    (visit.without entry.1).applyErrors catalog =
      (visit.applyErrors catalog).filter (!·.isAt (visit.located entry.1)) := by
  simp only [applyErrors, level_without, hsole.flatMap_errors_without,
    hsole.search_without hrejects, List.filter_append]

/-- Without an entry that raises an error there is the same plan with the errors of the others. -/
theorem Sole.planOf_without (referrer : String) {relations : List (String × Plan)}
    (hrelations : ∀ result ∈ relations, ∀ error ∈ result.2.errors,
      error.isAt (visit.located entry.1) = false) :
    (visit.without entry.1).planOf catalog referrer [] relations =
      { visit.planOf catalog referrer [] relations with
        errors := (visit.planOf catalog referrer [] relations).errors.filter
          (!·.isAt (visit.located entry.1)) } := by
  have hfilters : ((visit.without entry.1).planOf catalog referrer [] relations).filters =
      (visit.planOf catalog referrer [] relations).filters := by
    rw [filters_planOf, filters_planOf, level_without, hsole.search_without hrejects]
    congr 1
    exact hsole.flatMap_filters_without hrejects fun houtcome => by
      rw [Level.Filter.clauses, houtcome]
  have hjoins : ((visit.without entry.1).planOf catalog referrer [] relations).joins =
      (visit.planOf catalog referrer [] relations).joins := by
    refine Table.ext_get? fun name => ?_
    rw [get?_joins_planOf, get?_joins_planOf, List.filterMap_eq_flatMap_toList,
      List.filterMap_eq_flatMap_toList]
    congr 1
    exact hsole.flatMap_filters_without hrejects fun houtcome => by
      rw [Level.Filter.join?, houtcome, Option.toList_none]
  have hbelow : (relations.flatMap fun result => result.2.errors).filter
      (!·.isAt (visit.located entry.1)) = relations.flatMap fun result => result.2.errors := by
    refine List.filter_eq_self.2 fun error herror => ?_
    obtain ⟨result, hresult, hmem⟩ := List.mem_flatMap.1 herror
    rw [hrelations result hresult error hmem]
    rfl
  have herrors : ((visit.without entry.1).planOf catalog referrer [] relations).errors =
      (visit.planOf catalog referrer [] relations).errors.filter
        (!·.isAt (visit.located entry.1)) := by
    rw [errors_planOf_eq, errors_planOf_eq, hsole.errors_without, hsole.readErrors_without hrejects,
      hsole.applyErrors_without hrejects]
    simp only [List.filter_append, hbelow, List.filter_nil]
  refine Plan.eq_of_parts rfl rfl hfilters hjoins ?_ ?_ ?_ ?_ rfl herrors
  · rw [limit_planOf, limit_planOf, capability_without, hsole.limit_without hrejects]
  · rw [offset_planOf, offset_planOf, capability_without, hsole.offset_without hrejects]
  · rw [order_planOf, order_planOf, level_without, capability_without,
      hsole.order_without hrejects]
  · rw [fields_planOf, fields_planOf, hsole.projection_without]

end Controls

/-! ## Entries that raise errors -/

section Raising

variable (hsole : visit.Sole entry) {error : RequestError}
  (hat : error.isAt (visit.located entry.1) = true)

include hsole hat

/-- An error found at an unshared entry is that entry's own. -/
theorem Sole.eq_of_isAt {other : String × Json} (hother : other ∈ visit.params.entries.entries)
    (hfound : error.isAt (visit.located other.1) = true) : other = entry := by
  refine hsole.eq_of_located hother ?_
  have htrace := (Bool.and_eq_true_iff.1 hfound).1
  rw [← beq_iff_eq.1 htrace]
  exact beq_iff_eq.1 (Bool.and_eq_true_iff.1 hat).1

theorem Sole.eq_of_blames {other : String × Json} (hother : other ∈ visit.params.entries.entries)
    {outcome : Except RequestError α}
    (hblames : Blames (.only other) visit.level.trace outcome)
    (herror : outcome = .error error) : other = entry :=
  hsole.eq_of_isAt hat hother (Params.isAt_of_blamed_only (hblames error herror))

theorem Sole.rejects_of_mem_routed (hmem : error ∈ visit.routed.errors) :
    visit.Rejects catalog (visit.route entry.1 entry.2) := by
  rw [errors_routed] at hmem
  obtain ⟨refusal, hrefusal, rfl⟩ := List.mem_map.1 hmem
  obtain ⟨before, after, hsplit, herror⟩ := Route.exists_of_mem_refusals hrefusal
  obtain ⟨firsts, others, hentries, rfl, hothers⟩ := List.map_eq_append_iff.1 hsplit
  obtain ⟨other, lasts, rfl, hroute, -⟩ := List.map_eq_cons_iff.1 hothers
  have hother : other ∈ visit.params.entries.entries :=
    hentries ▸ List.mem_append_right _ List.mem_cons_self
  obtain rfl := hsole.eq_of_isAt hat hother ((traced_of_route hroute).isAt herror)
  -- No entry before this one has its key in normal form, so its place is not taken.
  have hfirst : other ∉ firsts := by
    have hnodup := visit.params.entries.nodup_entries
    rw [hentries, List.nodup_append] at hnodup
    exact fun hfirst => hnodup.2.2 other hfirst other List.mem_cons_self rfl
  have hfree : ∀ place ∈ refusal.1.place?, place ∉ (firsts.map fun other =>
      visit.route other.1 other.2).filterMap Route.place? := by
    intro place hplace htaken
    obtain ⟨_, hmapped, hsame⟩ := List.mem_filterMap.1 htaken
    obtain ⟨first, hmem, rfl⟩ := List.mem_map.1 hmapped
    rw [← hroute] at hplace
    have hnormal : Key.normal first.1 = Key.normal other.1 :=
      (Keys.normal_of_place? hsame).trans (Keys.normal_of_place? hplace).symm
    have heq := hsole.unshared first (hentries ▸ List.mem_append_left _ hmem) hnormal
    exact hfirst (heq ▸ hmem)
  rw [List.nil_append, Route.refusal?_eq_error? hfree] at herror
  rw [hroute]
  cases hrefused : refusal.1 with
  | refused found => exact .refused
  | filter parameter => simp [hrefused, Route.error?] at herror
  | control parameter => simp [hrefused, Route.error?] at herror
  | relation name rest parameter => simp [hrefused, Route.error?] at herror

theorem Sole.rejects_of_mem_controlValue {control : Control}
    {read : Parameter → Except RequestError α} {default : α}
    (hread : ∀ parameter, visit.controlError? parameter control = failure? (read parameter))
    (hblames : ∀ {params : Params} {parameter : Parameter},
      params.Traces visit.level.trace parameter.trace →
        Blames params visit.level.trace (read parameter))
    (hmem : error ∈ (Level.controlValue (visit.routed.control? control) default read).2) :
    visit.Rejects catalog (visit.route entry.1 entry.2) := by
  obtain ⟨parameter, hgiven, herror⟩ := Level.mem_controlValue.1 hmem
  obtain ⟨hkey, other, hother, hroute, htrace⟩ := exists_of_mem_control? hgiven
  obtain rfl := hsole.eq_of_blames hat hother (hblames (traces_only htrace)) herror
  rw [hroute]
  refine .control hkey ?_
  rw [hread, failure?_eq_some_iff.2 herror]
  rfl

/-- An error in reading an unshared entry means that the level rejects it. -/
theorem Sole.rejects_of_mem_read (hmem : error ∈ visit.readErrors catalog) :
    visit.Rejects catalog (visit.route entry.1 entry.2) := by
  simp only [readErrors, List.mem_append] at hmem
  rcases hmem with (((hunknown | hlimit) | hoffset) | horder) | hprojection
  · obtain ⟨parameter, hparameter, hfailure⟩ := List.mem_filterMap.1 hunknown
    obtain ⟨other, hother, hroute, htrace⟩ := exists_of_mem_filters hparameter
    have herror := failure?_eq_some_iff.1 hfailure
    obtain rfl := hsole.eq_of_blames hat hother (Level.blames_filter (traces_only htrace)) herror
    rw [hroute]
    exact .unknown herror
  · rw [Level.limit] at hlimit
    split at hlimit
    · exact hsole.rejects_of_mem_controlValue hat (fun _ => rfl) (Level.blames_readLimit _) hlimit
    · cases hlimit
  · rw [Level.offset] at hoffset
    split at hoffset
    · exact hsole.rejects_of_mem_controlValue hat (fun _ => rfl) Level.blames_readOffset hoffset
    · cases hoffset
  · rw [Level.order] at horder
    split at horder
    · exact hsole.rejects_of_mem_controlValue hat (fun _ => rfl) (Level.blames_readOrder _) horder
    · cases horder
  · rw [← hsole.filter_projection, List.mem_filter, hat] at hprojection
    cases hprojection.2

theorem Sole.rejects_of_mem_apply (hmem : error ∈ visit.applyErrors catalog) :
    visit.Rejects catalog (visit.route entry.1 entry.2) := by
  rcases List.mem_append.1 hmem with hfilters | hsearch
  · obtain ⟨filter, hfilter, herror⟩ := List.mem_flatMap.1 hfilters
    obtain ⟨hread, other, hother, hroute, htrace⟩ := exists_of_mem_filters_catalog hfilter
    obtain rfl := hsole.eq_of_isAt hat hother
      (Params.isAt_of_blamed_only (blamed_of_mem_errors htrace herror))
    rw [hroute]
    cases houtcome : filter.outcome with
    | ok taken => simp [Level.Filter.errors, houtcome] at herror
    | error errors => exact .filter hread houtcome
  · exact hsole.rejects_of_mem_controlValue hat (fun _ => controlError?_search) (blames_search _)
      hsearch

/-- An entry raises an error at the level if the plan has one where the entry leads. -/
theorem Sole.rejects {referrer : String} {relations : List (String × Plan)}
    (hrelations : ∀ result ∈ relations, ∀ error ∈ result.2.errors,
      error.isAt (visit.located entry.1) = false)
    (hmem : error ∈ (visit.planOf catalog referrer [] relations).errors) :
    visit.Rejects catalog (visit.route entry.1 entry.2) := by
  simp only [errors_planOf_eq, List.mem_append, List.not_mem_nil, or_false,
    List.mem_flatMap] at hmem
  rcases hmem with ((hrouted | hread) | happly) | ⟨result, hresult, hbelow⟩
  · exact hsole.rejects_of_mem_routed hat hrouted
  · exact hsole.rejects_of_mem_read hat hread
  · exact hsole.rejects_of_mem_apply hat happly
  · rw [hrelations result hresult error hbelow] at hat
    cases hat

end Raising

/-! ## Plans -/

theorem Sole.shown_without (hsole : visit.Sole entry) :
    (visit.without entry.1).shown = visit.shown := by
  rw [shown, shown, hsole.projection_without, level_without]
  exact List.filter_congr fun name _ => by rw [hsole.nests_without]

/-- What the plans of relations report is not found where the entry leads. -/
theorem Sole.isAt_of_mem_below (hsole : visit.Sole entry) (hsound : catalog.Sound) {child : Visit}
    {depth : Nat} (hbelow : visit.below? catalog name = some child)
    (htrace : child.level.trace = visit.level.trace ++ "." ++ name)
    (hchild : child.Plans catalog depth plan) {error : RequestError}
    (herror : error ∈ plan.errors) : error.isAt (visit.located entry.1) = false := by
  rw [Bool.eq_false_iff]
  intro hat
  obtain ⟨hplace, hlocal⟩ := Bool.and_eq_true_iff.1 hat
  rw [Bool.not_eq_true'] at hlocal
  obtain ⟨below, hmem, hexplains⟩ := hchild.explained hsound herror
  obtain ⟨source, hsource, hleads, hlocated⟩ := exists_located_of_mem_below hbelow htrace hmem
  cases hexplains with
  | here _ hfound =>
      refine hsole.located_ne hsource hleads ?_
      rw [← beq_iff_eq.1 hplace, hfound, hlocated]
      rfl
  | beyond hdepth _ =>
      rw [hlocal] at hdepth
      cases hdepth
  | fields hdepth _ _ _ =>
      rw [hlocal] at hdepth
      cases hdepth

/-- Without an entry that raises errors, the plan of a visit is the same but for them. -/
theorem Plans.eq_without {depth : Nat} {other : Plan}
    (hplans : visit.Plans catalog (depth + 1) plan)
    (hother : (visit.without entry.1).Plans catalog (depth + 1) other) (hsound : catalog.Sound)
    (hsole : visit.Sole entry) {error : RequestError} (herror : error ∈ plan.errors)
    (hat : error.isAt (visit.located entry.1) = true) :
    other = { plan with errors := plan.errors.filter (!·.isAt (visit.located entry.1)) } := by
  obtain ⟨referrer, relations, others, rfl, rfl, hnames, hotherNames, hboth⟩ :=
    hplans.exists_below_both hother hsound
  have hshown : relations.map Prod.fst = others.map Prod.fst := by
    rw [hnames, ← hsole.shown_without]
    exact hotherNames.symm
  have hsame : relations = others := by
    refine eq_of_map_eq hshown fun left hleft right hright hname => ?_
    obtain ⟨child, hbelow, -, hchild, hplan⟩ := hboth left hleft right hright hname
    have hnested := hsole.getD_relations_without left.1
    rw [without, ← params_of_below? hbelow] at hnested
    rw [hnested] at hplan
    exact Prod.ext hname (hchild.unique hplan)
  have hquiet : ∀ result ∈ relations, ∀ error ∈ result.2.errors,
      error.isAt (visit.located entry.1) = false := by
    intro result hresult error herror
    obtain ⟨child, hbelow, htrace, hchild, -⟩ :=
      hboth result hresult result (hsame ▸ hresult) rfl
    exact hsole.isAt_of_mem_below hsound hbelow htrace hchild herror
  subst hsame
  exact hsole.planOf_without (hsole.rejects hat hquiet herror) referrer hquiet

end Visit

/-- An entry of the root that raises an error, shares its key in normal form with no other, and
neither goes to a relation nor gives the fields, has no other effect: without it the plan is the
same, and the errors are those of the others, in the same order. -/
theorem Document.plan_erase {document : Document} {catalog : Catalog}
    (hresolve : document.resolve = .ok catalog) {resource : String} {target : Target}
    {params : Params} {plan : Plan} (hplan : catalog.plan resource target params = .ok plan)
    {visit : Visit} (hvisit : catalog.visit? resource target params [] = some visit)
    {key : String} {value : Json} (hentry : params.entries.get? key = some value)
    (hunshared : ∀ other ∈ params.entries.keys, Key.normal other = Key.normal key → other = key)
    (hrelation : ∀ name, (visit.route key value).leadsTo name = false)
    (hfields : ∀ parameter, visit.route key value = .control parameter →
      parameter.key ≠ Control.fields.name)
    (hraises : ∃ error ∈ plan.errors, error.isAt (resource ++ "." ++ Key.normal key) = true) :
    catalog.plan resource target (params.erase key) =
      .ok { plan with
        errors := plan.errors.filter (!·.isAt (resource ++ "." ++ Key.normal key)) } := by
  have hsound := sound_of_resolve hresolve
  obtain ⟨found, other, hfound, rfl, rfl, hplans, hothers, hother⟩ :=
    hsound.exists_plans hplan (params.erase key)
  obtain rfl := Option.some.inj (hvisit.symm.trans hfound)
  obtain ⟨error, herror, hat⟩ := hraises
  have hmem := Table.get?_eq_some_iff.1 hentry
  have hsole : visit.Sole (key, value) := by
    refine ⟨hmem, fun next hnext hnormal => ?_, hrelation, hfields⟩
    have hkey := hunshared next.1 (List.mem_map_of_mem hnext) hnormal
    have hvalue := Table.get?_eq_some_iff.2 hnext
    rw [hkey, hentry] at hvalue
    exact Prod.ext hkey (Option.some.inj hvalue).symm
  have hwithout : (visit.without (key, value).1).Plans catalog maxDepth other := hothers
  rw [hother, hplans.eq_without hwithout hsound hsole herror hat]
  rfl

/-- Areas by a name with two texts of which one is in disorder, beside other filters, in order
and not. -/
def Sample.disordered : Params :=
  ⟨.ofList [("Name", Json.strings ["~lake", "$in:lake"]), ("cabins", .string "some"),
    ("cabins.name", .string "~lake")]⟩

theorem plan_erase_cabins :
    ∃ plan, Sample.catalog.plan "area" .list Sample.disordered = .ok plan ∧
      plan.errors = [⟨"area.name", .unparsableList "lake"⟩,
        ⟨"area.cabins", .invalidFilterValue "some"⟩] ∧
      Sample.catalog.plan "area" .list (Sample.disordered.erase "Name") =
        .ok { plan with errors := plan.errors.filter (!·.isAt "area.name") } := by
  have hplan : Sample.catalog.plan "area" .list Sample.disordered =
      .ok ((Sample.catalog.plan "area" .list Sample.disordered).toOption.getD default) :=
    eq_ok_of_isOk default (by decide +kernel)
  have hvalue : Sample.disordered.entries.get? "Name" =
      some (Json.strings ["~lake", "$in:lake"]) := by
    rw [Sample.disordered, Table.get?_ofList]
    rfl
  obtain ⟨visit, hvisit⟩ : ∃ visit,
      Sample.catalog.visit? "area" .list Sample.disordered [] = some visit :=
    Option.isSome_iff_exists.1 (by decide +kernel)
  have hroute : (Sample.catalog.visit? "area" .list Sample.disordered []).map
      (·.route "Name" (Json.strings ["~lake", "$in:lake"])) =
        some (.filter (.ofEntry "area" "Name" (.texts ["~lake", "$in:lake"]))) := by
    decide +kernel
  rw [hvisit] at hroute
  have hfilter : visit.route "Name" (Json.strings ["~lake", "$in:lake"]) =
      .filter (.ofEntry "area" "Name" (.texts ["~lake", "$in:lake"])) := Option.some.inj hroute
  have hlocated : "area.name" = "area" ++ "." ++ Key.normal "Name" := by decide +kernel
  refine ⟨_, hplan, by decide +kernel, ?_⟩
  rw [hlocated]
  refine Document.plan_erase Sample.resolve_document hplan hvisit hvalue (by decide +kernel)
    ?_ ?_ (by decide +kernel)
  · intro name
    rw [hfilter]
    rfl
  · intro other hcontrol
    rw [hfilter] at hcontrol
    cases hcontrol

end RestQuery
