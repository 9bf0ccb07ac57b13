import RestQuery.Proofs.Plan.Controls

/-!
# One more filter

An entry that is a filter of a level takes no place there, goes to no relation and is no control.
So beside it everything is as it was: its clauses, its join and its errors come in among those of
the other filters, and where they do depends on its key as given.  If it is given under another
key that means the same filter, they come in elsewhere, and its errors are found elsewhere.

Main statements: `Visit.filter_errorsHere_adding` and `Visit.Plans.relocated`.
-/

namespace RestQuery

theorem Route.refusals_append_filter (taken : List Place) (before after : List Route)
    (parameter : Parameter) :
    refusals taken (before ++ .filter parameter :: after) = refusals taken (before ++ after) := by
  induction before generalizing taken with
  | nil => simp [refusals, refusal?, place?]
  | cons route rest ih => rw [List.cons_append, List.cons_append, refusals, refusals, ih]

/-- A new entry gives its own result, among those of the other entries. -/
theorem Params.exists_filterMap_insert {params : Params} {key : String}
    (hnew : params.get? key = none) (value : Json) (f : String × Json → Option α) :
    ∃ before after, params.entries.entries.filterMap f = before ++ after ∧
      (params.insert key value).entries.entries.filterMap f =
        before ++ (f (key, value)).toList ++ after := by
  obtain ⟨before, after, hentries, hinsert⟩ := exists_insert_eq hnew value
  refine ⟨before.filterMap f, after.filterMap f, ?_, ?_⟩
  · rw [hentries, List.filterMap_append]
  · rw [hinsert, List.filterMap_append, List.filterMap_cons, List.append_assoc]
    cases f (key, value) <;> rfl

theorem Params.filterMap_insert_of_eq_none {params : Params} {key : String} {value : Json}
    {f : String × Json → Option α} (hnew : params.get? key = none) (hnone : f (key, value) = none) :
    (params.insert key value).entries.entries.filterMap f = params.entries.entries.filterMap f := by
  obtain ⟨before, after, hentries, hinsert⟩ := exists_filterMap_insert hnew value f
  rw [hinsert, hentries, hnone, Option.toList_none, List.append_nil]

/-- Of items with some more among them, those that were there before, and those that were not. -/
theorem filter_of_added {items added own : List α} {isOwn : α → Bool}
    (hadded : ∃ before after, items = before ++ after ∧ added = before ++ own ++ after)
    (hitems : ∀ item ∈ items, isOwn item = false) (hown : ∀ item ∈ own, isOwn item = true) :
    added.filter (!isOwn ·) = items ∧ added.filter isOwn = own := by
  obtain ⟨before, after, rfl, rfl⟩ := hadded
  obtain ⟨hbefore, hafter⟩ := List.forall_mem_append.1 hitems
  constructor
  · rw [List.filter_append, List.filter_append,
      List.filter_eq_self.2 fun item hitem => by rw [hbefore item hitem]; rfl,
      List.filter_eq_nil_iff.2 fun item hitem => by rw [hown item hitem]; decide,
      List.filter_eq_self.2 fun item hitem => by rw [hafter item hitem]; rfl, List.append_nil]
  · rw [List.filter_append, List.filter_append,
      List.filter_eq_nil_iff.2 fun item hitem => by rw [hbefore item hitem]; decide,
      List.filter_eq_self.2 hown,
      List.filter_eq_nil_iff.2 fun item hitem => by rw [hafter item hitem]; decide,
      List.nil_append, List.append_nil]

/-! ## Filters under another key -/

/-- An error of the same kind that is found elsewhere. -/
def RequestError.movedTo (trace : String) (error : RequestError) : RequestError :=
  { error with trace }

/-- A parameter that is given under another key, with the same meaning, and found elsewhere. -/
def Parameter.relocated (parameter : Parameter) (rawKey trace : String) : Parameter :=
  { parameter with rawKey, trace }

namespace Level

variable {catalog : Catalog} {level : Level} {capability : Capability} {parameter : Parameter}
  {rawKey trace : String}

def Filter.relocated (filter : Level.Filter) (rawKey trace : String) : Level.Filter :=
  { filter with parameter := filter.parameter.relocated rawKey trace }

/-- A filter elsewhere is the same one, and so are its errors, but for where they are found. -/
theorem filter_relocated :
    level.filter catalog capability (parameter.relocated rawKey trace) =
      ((level.filter catalog capability parameter).map (·.relocated rawKey trace)).mapError
        (·.movedTo trace) := by
  have hkey : (parameter.relocated rawKey trace).key = parameter.key := rfl
  rw [filter, filter, hkey]
  cases level.subject? catalog parameter.key <;> rfl

namespace Filter

variable (filter : Level.Filter)

theorem outcome_relocated :
    (filter.relocated rawKey trace).outcome =
      filter.outcome.mapError (List.map (·.movedTo trace)) := by
  obtain ⟨parameter, subject, rule⟩ := filter
  cases subject with
  | field field type =>
      have hvalue : (parameter.relocated rawKey trace).value = parameter.value := rfl
      dsimp only [outcome, relocated]
      rw [hvalue]
      cases Filter.compile type field rule parameter.value with
      | ok clauses => cases field.scope <;> rfl
      | error problems =>
          dsimp only [Except.mapError]
          rw [List.map_map]
          rfl
  | existence relation =>
      have hsingle : (parameter.relocated rawKey trace).single =
          parameter.single.mapError (·.movedTo trace) := by
        have hvalue : (parameter.relocated rawKey trace).value = parameter.value := rfl
        rw [Parameter.single, Parameter.single, hvalue]
        cases parameter.value.single? <;> rfl
      dsimp only [outcome, relocated]
      rw [hsingle]
      cases parameter.single with
      | error error => rfl
      | ok value =>
          dsimp only [Except.mapError, bind, Except.bind]
          cases Filter.compileExistence relation rule value <;> rfl

theorem clauses_relocated : (filter.relocated rawKey trace).clauses = filter.clauses := by
  rw [clauses, clauses, outcome_relocated]
  cases filter.outcome <;> rfl

/-- A filter elsewhere needs the same join. -/
theorem join?_relocated (name : String) :
    (filter.relocated rawKey trace).join? name = filter.join? name := by
  rw [join?, join?, outcome_relocated]
  cases filter.outcome <;> rfl

theorem errors_relocated :
    (filter.relocated rawKey trace).errors = filter.errors.map (·.movedTo trace) := by
  rw [errors, errors, outcome_relocated]
  cases filter.outcome <;> rfl

end Filter

end Level

namespace Visit

variable {catalog : Catalog} {visit : Visit} {key other name : String} {value : Json}
  {parameter : Parameter} {depth : Nat} {first second : Plan} {depthErrors : List RequestError}

def adding (visit : Visit) (key : String) (value : Json) : Visit :=
  visit.withParams (visit.params.insert key value)

/-- The filter that a parameter is, if its key means something. -/
def filterOf? (catalog : Catalog) (visit : Visit) (parameter : Parameter) : Option Level.Filter :=
  (visit.level.filter catalog visit.capability parameter).toOption

def unknown? (catalog : Catalog) (visit : Visit) (parameter : Parameter) : Option RequestError :=
  failure? (visit.level.filter catalog visit.capability parameter)

def filterErrors (catalog : Catalog) (visit : Visit) (parameter : Parameter) :
    List RequestError :=
  (visit.unknown? catalog parameter).toList ++
    (visit.filterOf? catalog parameter).toList.flatMap Level.Filter.errors

/-- The errors that a plan lists for its own level, with given ones about depth among them. -/
def errorsHere (catalog : Catalog) (depthErrors : List RequestError) (visit : Visit) :
    List RequestError :=
  visit.routed.errors ++ visit.readErrors catalog ++ depthErrors ++ visit.applyErrors catalog

theorem filterOf?_relocated (parameter : Parameter) (rawKey trace : String) :
    visit.filterOf? catalog (parameter.relocated rawKey trace) =
      (visit.filterOf? catalog parameter).map (·.relocated rawKey trace) := by
  rw [filterOf?, Level.filter_relocated, filterOf?]
  cases visit.level.filter catalog visit.capability parameter <;> rfl

theorem filterErrors_relocated (parameter : Parameter) (rawKey trace : String) :
    visit.filterErrors catalog (parameter.relocated rawKey trace) =
      (visit.filterErrors catalog parameter).map (·.movedTo trace) := by
  rw [filterErrors, filterOf?_relocated, unknown?, Level.filter_relocated, filterErrors, unknown?,
    filterOf?]
  cases visit.level.filter catalog visit.capability parameter with
  | error error => rfl
  | ok filter => simp [failure?, Except.toOption, Except.map, Except.mapError,
      Level.Filter.errors_relocated]

/-! ## Beside the filter -/

section Adding

variable (hnew : visit.params.get? key = none) (hroute : visit.route key value = .filter parameter)

include hnew hroute

theorem control?_adding (control : Control) :
    (visit.adding key value).routed.control? control = visit.routed.control? control := by
  rw [control?_routed, control?_routed]
  exact congrArg (List.find? _)
    (Params.filterMap_insert_of_eq_none hnew (congrArg Route.control? hroute))

theorem sameControls_adding : visit.routed.SameControls (visit.adding key value).routed :=
  fun control => congrArg _ (control?_adding hnew hroute control).symm

theorem getD_relations_adding (name : String) :
    ((visit.adding key value).routed.relations.get? name).getD {} =
      (visit.routed.relations.get? name).getD {} := by
  have hnone : ((visit.route key value).rest? name).map (·, value) = none := by
    rw [hroute]
    rfl
  rw [getD_relations_routed, getD_relations_routed]
  exact congrArg (fun entries => (⟨.ofList entries⟩ : Params))
    (Params.filterMap_insert_of_eq_none hnew hnone)

theorem nests_adding : (visit.adding key value).nests = visit.nests := by
  funext name
  obtain ⟨before, after, hentries, hinsert⟩ := Params.exists_insert_eq hnew value
  have hnests : (visit.adding key value).nests name = (before ++ (key, value) :: after).any
      fun entry => (visit.route entry.1 entry.2).leadsTo name := by
    rw [← hinsert]
    rfl
  have hhere : (visit.route key value).leadsTo name = false := by
    rw [hroute]
    rfl
  rw [hnests, nests, hentries, List.any_append, List.any_append, List.any_cons, hhere,
    Bool.false_or]

theorem errors_routed_adding : (visit.adding key value).routed.errors = visit.routed.errors := by
  obtain ⟨before, after, hentries, hinsert⟩ := Params.exists_insert_eq hnew value
  have hadding : (visit.adding key value).params.entries.entries =
      before ++ (key, value) :: after := hinsert
  have hsame : (visit.adding key value).route = visit.route := rfl
  rw [errors_routed, errors_routed, hentries, hadding, hsame, List.map_append, List.map_append,
    List.map_cons, hroute, Route.refusals_append_filter]

/-- One more filter is put aside, at the place of its key among the others. -/
theorem exists_filters_adding : ∃ before after, visit.routed.filters = before ++ after ∧
    (visit.adding key value).routed.filters = before ++ [parameter] ++ after := by
  have hparameter : (visit.route key value).filter? = some parameter := by
    rw [hroute]
    rfl
  obtain ⟨before, after, hfilters, hinsert⟩ := Params.exists_filterMap_insert hnew value
    fun entry => (visit.route entry.1 entry.2).filter?
  refine ⟨before, after, (filters_routed visit).trans hfilters, ?_⟩
  rw [hparameter, Option.toList_some] at hinsert
  exact (filters_routed _).trans hinsert

theorem exists_filterMap_filters_adding (f : Parameter → Option α) : ∃ before after,
    visit.routed.filters.filterMap f = before ++ after ∧
      (visit.adding key value).routed.filters.filterMap f =
        before ++ (f parameter).toList ++ after := by
  obtain ⟨before, after, hfilters, hadding⟩ := exists_filters_adding hnew hroute
  refine ⟨before.filterMap f, after.filterMap f, ?_, ?_⟩
  · rw [hfilters, List.filterMap_append]
  · rw [hadding, List.filterMap_append, List.filterMap_append]
    cases hparameter : f parameter <;> simp [hparameter]

/-- An unknown key is one more error; the others keep their order. -/
theorem exists_readErrors_adding : ∃ before after, visit.readErrors catalog = before ++ after ∧
    (visit.adding key value).readErrors catalog =
      before ++ (visit.unknown? catalog parameter).toList ++ after := by
  have hcontrols := sameControls_adding hnew hroute
  obtain ⟨before, after, hfilters, hadding⟩ :=
    exists_filterMap_filters_adding hnew hroute (visit.unknown? catalog)
  refine ⟨before, after ++ (Level.limit visit.capability visit.routed).2
    ++ (Level.offset visit.capability visit.routed).2
    ++ (visit.level.order visit.capability visit.routed).2
    ++ (visit.level.projection visit.capability visit.routed).2.2, ?_, ?_⟩
  · rw [readErrors]
    change visit.routed.filters.filterMap (visit.unknown? catalog) ++ _ ++ _ ++ _ ++ _ = _
    simp only [hfilters, List.append_assoc]
  · rw [readErrors, Level.limit_congr hcontrols, Level.offset_congr hcontrols,
      Level.order_congr hcontrols, Level.projection_congr hcontrols]
    change (visit.adding key value).routed.filters.filterMap (visit.unknown? catalog)
      ++ _ ++ _ ++ _ ++ _ = _
    simp only [hadding, List.append_assoc]
    rfl

theorem exists_filters_catalog_adding (catalog : Catalog) : ∃ before after,
    visit.filters catalog = before ++ after ∧ (visit.adding key value).filters catalog =
      before ++ (visit.filterOf? catalog parameter).toList ++ after :=
  exists_filterMap_filters_adding hnew hroute (visit.filterOf? catalog)

theorem perm_filters_adding (catalog : Catalog) :
    ((visit.adding key value).filters catalog).Perm
      ((visit.filterOf? catalog parameter).toList ++ visit.filters catalog) := by
  obtain ⟨before, after, hfilters, hadding⟩ := exists_filters_catalog_adding hnew hroute catalog
  rw [hfilters, hadding, ← List.append_assoc]
  exact (List.perm_append_comm).append_right after

theorem exists_applyErrors_adding : ∃ before after, visit.applyErrors catalog = before ++ after ∧
    (visit.adding key value).applyErrors catalog = before ++
      (visit.filterOf? catalog parameter).toList.flatMap Level.Filter.errors ++ after := by
  obtain ⟨before, after, hfilters, hadding⟩ := exists_filters_catalog_adding hnew hroute catalog
  refine ⟨before.flatMap Level.Filter.errors, after.flatMap Level.Filter.errors
    ++ (visit.level.search visit.routed).2, ?_, ?_⟩
  · rw [applyErrors, hfilters, List.flatMap_append, List.append_assoc]
  · rw [applyErrors, hadding, Level.search_congr (sameControls_adding hnew hroute),
      List.flatMap_append, List.flatMap_append, List.append_assoc]
    rfl

end Adding

/-! ## Errors -/

/-- What is found at a place is raised by an entry that leads there, at whatever level. -/
theorem exists_located_of_mem_errorsHere {error : RequestError} {located : String}
    (hdepth : ∀ error ∈ depthErrors, error.problem.isDepth = true)
    (herror : error ∈ visit.errorsHere catalog depthErrors) (hat : error.isAt located = true) :
    ∃ entry ∈ visit.params.entries.entries, visit.located entry.1 = located := by
  obtain ⟨htrace, hlocal⟩ := Bool.and_eq_true_iff.1 hat
  rw [← beq_iff_eq.1 htrace]
  simp only [errorsHere, List.mem_append] at herror
  rcases herror with ((hrouted | hread) | hdeep) | happly
  · rw [errors_routed] at hrouted
    obtain ⟨refusal, hrefusal, rfl⟩ := List.mem_map.1 hrouted
    obtain ⟨before, after, hsplit, hrefused⟩ := Route.exists_of_mem_refusals hrefusal
    obtain ⟨entry, hentry, hroute⟩ :=
      List.mem_map.1 (hsplit ▸ List.mem_append_right before List.mem_cons_self)
    have hfound := (traced_of_route hroute).isAt hrefused
    exact ⟨entry, hentry, (beq_iff_eq.1 (Bool.and_eq_true_iff.1 hfound).1).symm⟩
  · obtain ⟨entry, hleads, -⟩ := exists_leadsAt_of_mem_ownErrors (List.mem_append_left _ hread)
    exact ⟨entry, hleads.mem, hleads.located⟩
  · rw [hdepth error hdeep] at hlocal
    cases hlocal
  · obtain ⟨entry, hleads, -⟩ := exists_leadsAt_of_mem_ownErrors (List.mem_append_right _ happly)
    exact ⟨entry, hleads.mem, hleads.located⟩

/-- The errors of a filter are found where its entry leads. -/
theorem isAt_of_mem_filterErrors (hroute : visit.route key value = .filter parameter)
    {error : RequestError} (herror : error ∈ visit.filterErrors catalog parameter) :
    error.isAt (visit.located key) = true := by
  obtain ⟨entry, rfl, rfl⟩ : ∃ entry : String × Json, entry.1 = key ∧ entry.2 = value :=
    ⟨(key, value), rfl, rfl⟩
  have htrace : parameter.trace = visit.located entry.1 := traced_of_route hroute
  suffices hblamed : (Params.only entry).Blamed visit.level.trace error from
    Params.isAt_of_blamed_only hblamed
  rcases List.mem_append.1 herror with hunknown | hfilter
  · have hfailure := failure?_eq_some_iff.1 (Option.mem_toList.1 hunknown)
    exact Level.blames_filter (traces_only htrace) error hfailure
  · obtain ⟨filter, hfilter, herror⟩ := List.mem_flatMap.1 hfilter
    have hread := toOption_eq_some_iff.1 (Option.mem_toList.1 hfilter)
    refine blamed_of_mem_errors ?_ herror
    rw [Level.parameter_of_filter hread, htrace]

/-- One more filter brings its own errors in among those of a level. -/
theorem filter_errorsHere_adding (hnew : visit.params.get? key = none)
    (hroute : visit.route key value = .filter parameter)
    (hfree : ∀ entry ∈ visit.params.entries.entries, Key.normal entry.1 ≠ Key.normal key)
    (hdepth : ∀ error ∈ depthErrors, error.problem.isDepth = true) :
    ((visit.adding key value).errorsHere catalog depthErrors).filter
        (!·.isAt (visit.located key)) = visit.errorsHere catalog depthErrors ∧
      ((visit.adding key value).errorsHere catalog depthErrors).filter
        (·.isAt (visit.located key)) = visit.filterErrors catalog parameter := by
  have hothers : ∀ error ∈ visit.errorsHere catalog depthErrors,
      error.isAt (visit.located key) = false := by
    intro error herror
    by_contra hat
    obtain ⟨entry, hentry, hlocated⟩ :=
      exists_located_of_mem_errorsHere hdepth herror (by simpa using hat)
    exact hfree entry hentry (located_inj.1 hlocated)
  have hown : ∀ error ∈ visit.filterErrors catalog parameter,
      error.isAt (visit.located key) = true := fun _ => isAt_of_mem_filterErrors hroute
  simp only [errorsHere, filterErrors, List.mem_append, or_imp, forall_and] at hothers hown
  obtain ⟨⟨⟨hrouted, hread⟩, hdeep⟩, happly⟩ := hothers
  have hkept : ∀ errors : List RequestError,
      (∀ error ∈ errors, error.isAt (visit.located key) = false) →
        errors.filter (!·.isAt (visit.located key)) = errors ∧
          errors.filter (·.isAt (visit.located key)) = [] := fun errors herrors =>
    filter_of_added ⟨errors, [], (List.append_nil _).symm, by simp⟩ herrors
      fun _ hnone => nomatch hnone
  obtain ⟨hreadKept, hreadOwn⟩ :=
    filter_of_added (exists_readErrors_adding hnew hroute) hread hown.1
  obtain ⟨happlyKept, happlyOwn⟩ :=
    filter_of_added (exists_applyErrors_adding hnew hroute) happly hown.2
  simp only [errorsHere, errors_routed_adding hnew hroute, filterErrors, List.filter_append]
  constructor
  · rw [(hkept _ hrouted).1, hreadKept, (hkept _ hdeep).1, happlyKept]
  · rw [(hkept _ hrouted).2, hreadOwn, (hkept _ hdeep).2, happlyOwn, List.nil_append,
      List.append_nil]

/-! ## Plans -/

section Relocating

variable (hnew : visit.params.get? key = none) (hother : visit.params.get? other = none)
  (hroute : visit.route key value = .filter parameter)
  (hmoved : visit.route other value =
    .filter (parameter.relocated other (visit.located other)))

include hnew hother hroute hmoved

/-- The filters of a level are the same, in some order, wherever a key stands that they have. -/
theorem perm_flatMap_relocated {f : Level.Filter → List α}
    (hf : ∀ (filter : Level.Filter) (rawKey trace : String),
      f (filter.relocated rawKey trace) = f filter) :
    (((visit.adding other value).filters catalog).flatMap f).Perm
      (((visit.adding key value).filters catalog).flatMap f) := by
  have hsame : ((visit.filterOf? catalog
      (parameter.relocated other (visit.located other))).toList).flatMap f =
        ((visit.filterOf? catalog parameter).toList).flatMap f := by
    rw [filterOf?_relocated]
    cases visit.filterOf? catalog parameter <;> simp [hf]
  have hfirst := (perm_filters_adding hnew hroute catalog).flatMap_right f
  have hsecond := (perm_filters_adding hother hmoved catalog).flatMap_right f
  rw [List.flatMap_append] at hfirst hsecond
  rw [hsame] at hsecond
  exact hsecond.trans hfirst.symm

/-- Plans for one more filter, under one key or another that means the same, agree but for the order
of their filters, and for where its errors are found and listed. -/
theorem Plans.relocated (hfirst : (visit.adding key value).Plans catalog depth first)
    (hsecond : (visit.adding other value).Plans catalog depth second) (hsound : catalog.Sound) :
    second = { first with filters := second.filters, errors := second.errors } ∧
      second.filters.Perm first.filters ∧
      ∃ depthErrors after, (∀ error ∈ depthErrors, error.problem.isDepth = true) ∧
        first.errors = (visit.adding key value).errorsHere catalog depthErrors ++ after ∧
        second.errors = (visit.adding other value).errorsHere catalog depthErrors ++ after := by
  have hcontrols : (visit.adding key value).routed.SameControls
      (visit.adding other value).routed := fun control =>
    (sameControls_adding hnew hroute control).symm.trans (sameControls_adding hother hmoved control)
  obtain ⟨referrer, depthErrors, relations, hdepth, rfl, heq⟩ := hfirst.exists_planOf_both hsecond
    hsound ((nests_adding hother hmoved).trans (nests_adding hnew hroute).symm)
    (fun name => (getD_relations_adding hother hmoved name).trans
      (getD_relations_adding hnew hroute name).symm) (Level.projection_congr hcontrols).symm
  obtain rfl : second = (visit.adding other value).planOf catalog referrer depthErrors relations :=
    heq
  obtain ⟨hlimit, hoffset, horder, hfields⟩ :=
    planOf_of_sameControls hcontrols referrer depthErrors relations relations
  refine ⟨Plan.eq_of_parts rfl rfl rfl (Table.ext_get? fun name => ?_) hlimit.symm hoffset.symm
    horder.symm hfields.symm rfl rfl, ?_, depthErrors,
    relations.flatMap fun result => result.2.errors, hdepth, ?_, ?_⟩
  · rw [get?_joins_planOf, get?_joins_planOf, List.filterMap_eq_flatMap_toList,
      List.filterMap_eq_flatMap_toList]
    refine JoinKind.strongest_perm (perm_flatMap_relocated hnew hother hroute hmoved ?_)
    intro filter rawKey trace
    rw [Level.Filter.join?_relocated]
  · have hsearch : (visit.adding other value).level.search (visit.adding other value).routed =
        (visit.adding key value).level.search (visit.adding key value).routed :=
      (Level.search_congr hcontrols).symm
    rw [filters_planOf, filters_planOf, hsearch]
    exact (perm_flatMap_relocated hnew hother hroute hmoved
      fun filter _ _ => filter.clauses_relocated).append_right _
  · rw [errors_planOf_eq]
    rfl
  · rw [errors_planOf_eq]
    rfl

end Relocating

end Visit

end RestQuery
