import RestQuery.Proofs.Plan.Nodes
import RestQuery.Proofs.Plan.Selection
import RestQuery.Proofs.Request.Insertion

/-!
# Asking for the defaults

The word for the defaults shows what is shown when nothing is said about the fields.  As an entry
of its own, at whatever level of a plan, it changes nothing: levels on the way to it get one more
entry that goes on, and the level itself shows the same.

Main statement: `Document.plan_defaults`.
-/

namespace RestQuery

namespace Route

variable {route : Route} {name rest : String}

theorem place?_eq_nested_iff :
    route.place? = some (.nested name rest) ↔ route.rest? name = some rest := by
  rw [rest?_eq_some_iff]
  cases route with
  | relation other key parameter => simp [place?]
  | filter parameter => simp [place?]
  | control parameter => simp [place?]
  | refused error => simp [place?]

theorem place?_eq_control_iff :
    route.place? = some (.control name) ↔
      ∃ parameter, route = .control parameter ∧ parameter.key = name := by
  cases route with
  | control parameter => simp [place?]
  | filter parameter => simp [place?]
  | relation other key parameter => simp [place?]
  | refused error => simp [place?]

end Route

/-- The word for the defaults, as a value for the fields, gives the defaults. -/
theorem Projection.read_defaultWord (capability : Capability) (space : NameSpace) :
    read capability space defaultWord = { projection := byDefault capability } := by
  have htokens : tokens defaultWord = [defaultWord] := by decide +kernel
  rw [read, htokens]
  rfl

namespace Visit

variable {catalog : Catalog} {visit reached : Visit} {params : Params} {key name rest : String}
  {value other : Json} {depth : Nat} {plan : Plan} {path : List String} {control : Control}

/-- The place that an entry of a level takes at the end of a path of relations. -/
def placeAlong? (catalog : Catalog) (visit : Visit) : List String → String → Json → Option Place
  | [], key, value => (visit.route key value).place?
  | name :: path, key, value => do
    let child ← visit.below? catalog name
    let rest ← (visit.route key value).rest? name
    child.placeAlong? catalog path rest value

/-! ## Places that are free -/

theorem free_of_control?_eq_none (hnone : visit.routed.control? control = none) :
    visit.params.Free (visit.level.keys visit.capability) visit.level.trace
      (.control control.name) := by
  intro entry hentry hplace
  obtain ⟨parameter, hroute, hkey⟩ := Route.place?_eq_control_iff.1 hplace
  have hgiven : parameter ∈ visit.params.entries.entries.filterMap fun entry =>
      (visit.route entry.1 entry.2).control? :=
    List.mem_filterMap.2 ⟨entry, hentry, congrArg Route.control? hroute⟩
  rw [control?_routed, List.find?_eq_none] at hnone
  exact hnone parameter hgiven (beq_iff_eq.2 hkey)

/-- Where an entry goes to a relation there is one below under the rest of its key, if not the same
one. -/
theorem exists_mem_below {child : Visit} (hbelow : visit.below? catalog name = some child)
    (hentry : (key, value) ∈ visit.params.entries.entries)
    (hplace : (visit.route key value).place? = some (.nested name rest)) :
    ∃ stored, (rest, stored) ∈ child.params.entries.entries ∧
      (ParamValue.ofJson? stored).isSome := by
  have hmem : (rest, value) ∈ visit.params.entries.entries.filterMap fun entry =>
      ((visit.route entry.1 entry.2).rest? name).map (·, entry.2) :=
    List.mem_filterMap.2
      ⟨(key, value), hentry, by rw [Route.place?_eq_nested_iff.1 hplace]; rfl⟩
  obtain ⟨stored, hstored⟩ := Option.isSome_iff_exists.1 (Table.isSome_get?_ofList hmem)
  have hbucket : (rest, stored) ∈ child.params.entries.entries := by
    rw [params_below hbelow]
    exact Table.get?_eq_some_iff.1 hstored
  obtain ⟨_, parameter, -, hroute⟩ := exists_route_of_mem_below hbelow hbucket
  exact ⟨stored, hbucket, Keys.isSome_ofJson?_of_place? (congrArg Route.place? hroute)⟩

/-- If an entry under some key would give a control at the end of a path, one that is there under
the same key does. -/
theorem control?_ne_none_of_mem (halong : visit.along? catalog path = some reached)
    (hplace : visit.placeAlong? catalog path key value = some (.control control.name))
    (hentry : (key, other) ∈ visit.params.entries.entries)
    (hother : (ParamValue.ofJson? other).isSome) : reached.routed.control? control ≠ none := by
  induction path generalizing visit key other with
  | nil =>
      obtain rfl := Option.some.inj halong
      have hsame : (visit.route key other).place? = some (.control control.name) :=
        (Keys.place?_route_eq hother (Keys.isSome_ofJson?_of_place? hplace)).trans hplace
      exact fun hnone => free_of_control?_eq_none hnone _ hentry hsame
  | cons name path ih =>
      obtain ⟨child, hbelow, hchild⟩ := Option.bind_eq_some_iff.1 halong
      obtain ⟨_, hfound, hplace⟩ := Option.bind_eq_some_iff.1 hplace
      obtain rfl := Option.some.inj (hbelow.symm.trans hfound)
      obtain ⟨rest, hrest, hplace⟩ := Option.bind_eq_some_iff.1 hplace
      have hnested := Route.place?_eq_nested_iff.2 hrest
      have hsame : (visit.route key other).place? = some (.nested name rest) :=
        (Keys.place?_route_eq hother (Keys.isSome_ofJson?_of_place? hnested)).trans hnested
      obtain ⟨stored, hbucket, hstored⟩ := exists_mem_below hbelow hentry hsame
      exact ih hchild hplace hbucket hstored

/-! ## The level itself -/

theorem AltersFields.planOf_eq (hsame : visit.AltersFields params)
    (hprojection : visit.level.projection visit.capability (visit.withParams params).routed =
      visit.level.projection visit.capability visit.routed)
    (herrors : (visit.withParams params).routed.errors = visit.routed.errors) (referrer : String)
    (depthErrors : List RequestError) (relations : List (String × Plan)) :
    (visit.withParams params).planOf catalog referrer depthErrors relations =
      visit.planOf catalog referrer depthErrors relations := by
  have hread : (visit.withParams params).readErrors catalog = visit.readErrors catalog := by
    rw [readErrors, readErrors, level_withParams, capability_withParams, hsame.filters,
      hsame.limit, hsame.offset, hsame.order, hprojection]
  rw [hsame.planOf referrer depthErrors depthErrors relations relations]
  refine Plan.eq_of_parts rfl rfl rfl rfl rfl rfl rfl ?_ rfl ?_
  · exact congrArg (·.1.fields) hprojection
  · rw [errors_planOf_eq, errors_planOf_eq, herrors, hread, hsame.applyErrors]

/-- Parameters that differ in the value for the fields have one plan if the values have the same
effect and errors. -/
theorem Plans.of_projection_eq (hplans : visit.Plans catalog depth plan) (hsound : catalog.Sound)
    (hsame : visit.AltersFields params)
    (hprojection : visit.level.projection visit.capability (visit.withParams params).routed =
      visit.level.projection visit.capability visit.routed)
    (herrors : (visit.withParams params).routed.errors = visit.routed.errors) :
    (visit.withParams params).Plans catalog depth plan := by
  obtain ⟨other, hother⟩ := hplans.exists_withParams hsound params
  suffices heq : plan = other from heq ▸ hother
  obtain ⟨referrer, depthErrors, relations, -, rfl, rfl⟩ :=
    hplans.exists_planOf_both hother hsound hsame.nests hsame.getD_relations hprojection
  exact (hsame.planOf_eq hprojection herrors referrer depthErrors relations).symm

/-- An entry for the fields changes nothing but these. -/
theorem altersFields_insert (hnew : visit.params.get? key = none)
    (hselects : (visit.route key value).selects = true) :
    visit.AltersFields (visit.params.insert key value) := by
  obtain ⟨before, after, hentries, hinsert⟩ := Params.exists_insert_eq hnew value
  have hbeside : (visit.withParams (visit.params.insert key value)).besideFields =
      (before ++ (key, value) :: after).filter fun entry =>
        !(visit.route entry.1 entry.2).selects := by
    rw [← hinsert]
    rfl
  rw [AltersFields, hbeside, besideFields, hentries, List.filter_append, List.filter_append,
    List.filter_cons_of_neg (by simpa using hselects)]

/-- Among entries that do not give the fields, the word for the defaults has no effect. -/
theorem projection_insert (hnew : visit.params.get? key = none)
    (hnone : visit.routed.control? .fields = none)
    (hplace : (visit.route key (.string defaultWord)).place? =
      some (.control Control.fields.name)) :
    visit.level.projection visit.capability
        (visit.withParams (visit.params.insert key (.string defaultWord))).routed =
      visit.level.projection visit.capability visit.routed := by
  obtain ⟨parameter, hroute, hkey⟩ := Route.place?_eq_control_iff.1 hplace
  obtain ⟨before, after, hentries, hinsert⟩ :=
    Params.exists_insert_eq hnew (.string defaultWord)
  have hgiven : (visit.withParams (visit.params.insert key (.string defaultWord))).routed.control?
      .fields = some parameter := by
    rw [control?_routed, hentries, List.filterMap_append, List.find?_append,
      Option.or_eq_none_iff] at hnone
    have hentry : (visit.route key (.string defaultWord)).control? = some parameter := by
      rw [hroute, Route.control?]
    have hfind : ((before ++ (key, .string defaultWord) :: after).filterMap fun entry =>
        (visit.route entry.1 entry.2).control?).find? (·.key == Control.fields.name) =
          some parameter := by
      rw [List.filterMap_append, List.find?_append, hnone.1, Option.none_or, List.filterMap_cons,
        hentry]
      exact List.find?_cons_of_pos (beq_iff_eq.2 hkey)
    rw [control?_routed, ← hfind, ← hinsert]
    rfl
  have hvalue : parameter.value = .text defaultWord := by
    obtain ⟨given, hjson, hparameter⟩ :=
      Keys.exists_value_of_route hroute fun _ hrefused => by cases hrefused
    obtain ⟨rfl, -⟩ := Keys.control_of_routeParameter hparameter
    obtain rfl := Option.some.inj hjson
    exact congrArg ParamValue.text (by decide +kernel)
  have hfields : Level.fieldList? parameter.value = some defaultWord := by rw [hvalue]; rfl
  rw [Level.projection_of_control? _ _ hgiven hfields, Projection.read_defaultWord,
    Level.projection, hnone]
  rfl

/-! ## Levels on the way -/

/-- A level that shows a relation in any case has one plan for parameters that differ in entries for
the relation, if the relation has one plan for them. -/
theorem Plans.of_below (hplans : visit.Plans catalog (depth + 1) plan) (hsound : catalog.Sound)
    (hsame : (visit.withParams params).apart name = visit.apart name)
    (hshown : name ∈ visit.shown) (hnests : (visit.withParams params).nests name = true)
    (herrors : (visit.withParams params).routed.errors = visit.routed.errors)
    (hbelow : ∀ child sub, visit.below? catalog name = some child → child.Plans catalog depth sub →
      (child.withParams (((visit.withParams params).routed.relations.get? name).getD {})).Plans
        catalog depth sub) : (visit.withParams params).Plans catalog (depth + 1) plan := by
  obtain ⟨other, hother⟩ := hplans.exists_withParams hsound params
  suffices heq : plan = other from heq ▸ hother
  obtain ⟨referrer, relations, others, rfl, rfl, hnames, hotherNames, hboth⟩ :=
    hplans.exists_below_both hother hsound
  have hall : (visit.withParams params).shown = visit.shown :=
    shown_withParams_of_nests hsame hshown hnests
  have hrelations : relations = others := by
    refine eq_of_map_eq ((hnames.trans hall.symm).trans hotherNames.symm) ?_
    intro left hleft right hright hname
    obtain ⟨child, hchild, -, hplan, hsecond⟩ := hboth left hleft right hright hname
    refine Prod.ext hname ?_
    by_cases hfound : left.1 = name
    · rw [hfound] at hchild hsecond
      exact (hbelow child left.2 hchild hplan).unique hsecond
    · rw [getD_relations_withParams hsame hfound, ← params_of_below? hchild] at hsecond
      exact hplan.unique hsecond
  rw [planOf_withParams hsame referrer relations others]
  refine Plan.eq_of_parts rfl rfl rfl rfl rfl rfl rfl rfl ?_ ?_
  · rw [hrelations]
    rfl
  · rw [errors_planOf_eq, errors_planOf_eq, herrors, readErrors_withParams hsame,
      applyErrors_withParams hsame, hrelations]

/-- An entry for a relation changes nothing apart from the relation. -/
theorem apart_insert (hnew : visit.params.get? key = none)
    (hleads : (visit.route key value).leadsTo name = true) :
    (visit.withParams (visit.params.insert key value)).apart name = visit.apart name := by
  obtain ⟨before, after, hentries, hinsert⟩ := Params.exists_insert_eq hnew value
  have hapart : (visit.withParams (visit.params.insert key value)).apart name =
      (before ++ (key, value) :: after).filter fun entry =>
        !(visit.route entry.1 entry.2).leadsTo name := by
    rw [← hinsert]
    rfl
  rw [hapart, apart, hentries, List.filter_append, List.filter_append,
    List.filter_cons_of_neg (by simpa using hleads)]

theorem nests_insert (hleads : (visit.route key value).leadsTo name = true) :
    (visit.withParams (visit.params.insert key value)).nests name = true := by
  have hstored : (visit.params.insert key value).entries.get? key = some value := by
    rw [Params.insert, Table.get?_insert, if_pos rfl]
  exact List.any_eq_true.2 ⟨(key, value), Table.get?_eq_some_iff.1 hstored, hleads⟩

/-- The word for the defaults, given for a level of a plan for which no fields are given, leaves the
plan as it is. -/
theorem Plans.insert_defaultWord (hplans : visit.Plans catalog depth plan)
    (hsound : catalog.Sound) (hnode : (plan.along? path).isSome)
    (halong : visit.along? catalog path = some reached)
    (hnone : reached.routed.control? .fields = none) (hnew : visit.params.get? key = none)
    (hplace : visit.placeAlong? catalog path key (.string defaultWord) =
      some (.control Control.fields.name)) :
    (visit.withParams (visit.params.insert key (.string defaultWord))).Plans catalog depth
      plan := by
  induction path generalizing visit depth plan key with
  | nil =>
      obtain rfl := Option.some.inj halong
      obtain ⟨parameter, hroute, hkey⟩ := Route.place?_eq_control_iff.1 hplace
      have hselects : (visit.route key (.string defaultWord)).selects = true := by
        rw [hroute, Route.selects, hkey, beq_self_eq_true]
      exact hplans.of_projection_eq hsound (altersFields_insert hnew hselects)
        (projection_insert hnew hnone hplace)
        (Params.errors_route_insert hnew hplace (free_of_control?_eq_none hnone))
  | cons name path ih =>
      obtain ⟨child, hbelow, hreached⟩ := Option.bind_eq_some_iff.1 halong
      obtain ⟨_, hfound, hplace⟩ := Option.bind_eq_some_iff.1 hplace
      obtain rfl := Option.some.inj (hbelow.symm.trans hfound)
      obtain ⟨rest, hrest, hplace⟩ := Option.bind_eq_some_iff.1 hplace
      have hnested := Route.place?_eq_nested_iff.2 hrest
      have hleads : (visit.route key (.string defaultWord)).leadsTo name = true := by
        rw [← Route.isSome_rest?, hrest, Option.isSome_some]
      -- An entry in the place would give the fields at the end of the path.
      have hfree : visit.params.Free (visit.level.keys visit.capability) visit.level.trace
          (.nested name rest) := by
        intro entry hentry htaken
        obtain ⟨stored, hstored, hvalue⟩ := exists_mem_below hbelow hentry htaken
        exact control?_ne_none_of_mem hreached hplace hstored hvalue hnone
      obtain ⟨hinsert, hrestNew⟩ := Params.getD_relations_insert hnew hrest hfree
      rw [← routed, ← params_of_below? hbelow] at hinsert hrestNew
      obtain ⟨node, hnode⟩ := Option.isSome_iff_exists.1 hnode
      obtain ⟨sub, hlookup, hsub⟩ := Option.bind_eq_some_iff.1 hnode
      obtain ⟨_, left, full, rfl, hshown, hfound, -, hchild, rfl⟩ :=
        hplans.exists_of_lookup hsound hlookup
      obtain rfl := Option.some.inj (hbelow.symm.trans hfound)
      obtain ⟨other, hother, -⟩ := Plan.exists_of_along?_withErrors hsub
      have hplan := ih hchild (Option.isSome_iff_exists.2 ⟨other, hother⟩) hreached hrestNew hplace
      refine hplans.of_below hsound (apart_insert hnew hleads) hshown (nests_insert hleads)
        (Params.errors_route_insert hnew hnested hfree) ?_
      intro found sub hfound hsub
      obtain rfl := Option.some.inj (hbelow.symm.trans hfound)
      obtain rfl := hchild.unique hsub
      exact hinsert ▸ hplan

end Visit

/-- The place that an entry of a request takes at the end of a path of relations. -/
def Catalog.placeAlong? (catalog : Catalog) (resource : String) (target : Target)
    (params : Params) (path : List String) (key : String) (value : Json) : Option Place := do
  let visit ← catalog.visit? resource target params []
  visit.placeAlong? catalog path key value

/-- Asking for the defaults at a node of a plan is like asking for nothing: if the request gives no
fields there, one more entry with the word for the defaults leaves the whole plan as it is. -/
theorem Document.plan_defaults {document : Document} {catalog : Catalog}
    (hresolve : document.resolve = .ok catalog) {resource : String} {target : Target}
    {params : Params} {plan node : Plan} {path : List String} {visit : Visit} {key : String}
    (hplan : catalog.plan resource target params = .ok plan) (hnode : plan.along? path = some node)
    (hvisit : catalog.visit? resource target params path = some visit)
    (hnone : visit.routed.control? .fields = none) (hnew : params.get? key = none)
    (hplace : catalog.placeAlong? resource target params path key (.string defaultWord) =
      some (.control Control.fields.name)) :
    catalog.plan resource target (params.insert key (.string defaultWord)) = .ok plan := by
  have hsound := sound_of_resolve hresolve
  obtain ⟨root, other, hroot, -, rfl, hplans, hother, heq⟩ :=
    hsound.exists_plans hplan (params.insert key (.string defaultWord))
  obtain ⟨_, hfound, hplace⟩ := Option.bind_eq_some_iff.1 hplace
  obtain rfl := Option.some.inj (hroot.symm.trans hfound)
  have halong := (Catalog.visit?_eq_along? hroot path).symm.trans hvisit
  have hdefault := hplans.insert_defaultWord hsound (Option.isSome_iff_exists.2 ⟨node, hnode⟩)
    halong hnone hnew hplace
  rw [heq, hother.unique hdefault]

/-- The defaults for the areas of the cabins, which are asked for by a name, two relations away. -/
theorem plan_defaults_cabins :
    ∃ plan, Sample.catalog.plan "area" .list Sample.circular = .ok plan ∧ plan.errors = [] ∧
      Sample.catalog.plan "area" .list
        (Sample.circular.insert "Cabins.AREA.fields" (.string defaultWord)) = .ok plan := by
  have hfacts : (Sample.catalog.plan "area" .list Sample.circular).isOk = true ∧
      ((Sample.catalog.plan "area" .list Sample.circular).toOption.getD default).errors = [] ∧
      (((Sample.catalog.plan "area" .list Sample.circular).toOption.getD default).along?
        ["cabins", "area"]).isSome = true ∧
      (Sample.catalog.visit? "area" .list Sample.circular ["cabins", "area"]).map
        (·.routed.control? .fields) = some none ∧
      Sample.catalog.placeAlong? "area" .list Sample.circular ["cabins", "area"]
        "Cabins.AREA.fields" (.string defaultWord) = some (.control Control.fields.name) := by
    decide +kernel
  obtain ⟨hok, herrors, hnode, hcontrol, hplace⟩ := hfacts
  have hplan := eq_ok_of_isOk default hok
  obtain ⟨node, hnode⟩ := Option.isSome_iff_exists.1 hnode
  obtain ⟨visit, hvisit, hnone⟩ := Option.map_eq_some_iff.1 hcontrol
  exact ⟨_, hplan, herrors,
    Document.plan_defaults Sample.resolve_document hplan hnode hvisit hnone rfl hplace⟩

end RestQuery
