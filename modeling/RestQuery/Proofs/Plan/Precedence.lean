import RestQuery.Proofs.Order.Written
import RestQuery.Proofs.Plan.Declared
import RestQuery.Proofs.Plan.Orders
import RestQuery.Proofs.Plan.Pages
import RestQuery.Proofs.Plan.Unknown

/-!
# Controls and declared names

A key is looked up among the filters of a level first, then among the relations and only then among
the controls, and nothing keeps a document from giving a filter or a relation the name of a control.
So the only entry for a control reaches it exactly if no filter and no relation of the level has
that name.  Then the node does what the text says, and the plan has the problems in it; otherwise
the entry is that filter, or it is refused for want of a key behind the name of the relation.

Main statement: `Document.plan_obeys`.
-/

namespace RestQuery

/-! ## Problems in the text for a control -/

theorem Order.isRefusal_of_read {fields : Fields} {value : String} {problem : Problem}
    (hread : read fields value = .error problem) : problem.isRefusal = false := by
  rw [read] at hread
  split at hread
  next => exact Except.error.inj hread ▸ rfl
  next =>
    obtain ⟨-, token, -, -, -, htoken⟩ := mapM_eq_error_iff.1 hread
    cases readToken_eq_error_iff.1 htoken <;> rfl

theorem Projection.isRefusal_of_mem_problems {capability : Capability} {space : NameSpace}
    {value : String} {problem : Problem}
    (hmem : problem ∈ (read capability space value).problems) : problem.isRefusal = false := by
  rw [problems_read, List.mem_filterMap] at hmem
  obtain ⟨⟨token, place⟩, -, hproblem⟩ := hmem
  rw [problemAt?, problem?] at hproblem
  split at hproblem
  · cases hproblem
  split at hproblem
  · exact Option.some.inj hproblem ▸ rfl
  split at hproblem
  · cases hproblem
  · exact Option.some.inj hproblem ▸ rfl

/-- A text gives the permitted number that it denotes, or else the default one with a problem. -/
theorem Level.ReadsNumber.controlValue_of_text {permitted : Nat → Prop} {problem : Problem}
    {read : Parameter → Except RequestError UInt32} (hreads : ReadsNumber permitted problem read)
    {parameter : Parameter} {s : String} (hvalue : parameter.value = .text s) (default : UInt32) :
    (∃ n, Text.Denotes s n.toNat ∧ permitted n.toNat ∧
        controlValue (some parameter) default read = (n, [])) ∨
      (∀ n, Text.Denotes s n → ¬permitted n) ∧
        controlValue (some parameter) default read = (default, [parameter.error problem]) := by
  have hsingle : parameter.value.single? = some s := hvalue ▸ rfl
  rw [controlValue]
  cases hread : read parameter with
  | ok n =>
      obtain ⟨other, hother, hdenotes, hpermitted⟩ := hreads.ok_iff.1 hread
      obtain rfl := Option.some.inj (hsingle.symm.trans hother)
      exact .inl ⟨n, hdenotes, hpermitted, rfl⟩
  | error error =>
      refine .inr ⟨fun n hdenotes hpermitted => ?_, ?_⟩
      · have hfits : (UInt32.ofNat n).toNat = n :=
          UInt32.toNat_ofNat_of_lt' (hreads.fits n hpermitted)
        have hok : read parameter = .ok (UInt32.ofNat n) := by
          rw [hreads.ok_iff, hfits]
          exact ⟨s, hsingle, hdenotes, hpermitted⟩
        rw [hread] at hok
        cases hok
      · rw [hreads.eq_error hread, numberProblem, hsingle]
        rfl

namespace Visit

variable {catalog : Catalog} {visit : Visit} {control : Control} {key s : String}
  {parameter : Parameter} {node : Plan} {above : Prop}

/-! ## Where the entry for a control goes -/

/-- An entry with a text is the only one of a level whose key means the name of a control. -/
structure Gives (visit : Visit) (control : Control) (key s : String) : Prop where
  mem : (key, .string s) ∈ visit.params.entries.entries
  isName : Key.normal key = control.name
  alone : ∀ entry ∈ visit.params.entries.entries,
    Key.normal entry.1 = control.name → entry = (key, .string s)

def given (visit : Visit) (key s : String) : Parameter := .ofEntry visit.level.trace key (.text s)

theorem keys_given (hname : Key.normal key = control.name) :
    (visit.given key s).keys = [control.name] := by
  have hpoint : '.' ∉ control.name.toList := by cases control <;> decide
  calc (visit.given key s).keys
    _ = Key.segments (Key.normal key) := (Key.segments_normal key).symm
    _ = [control.name] := by rw [hname, Key.segments, Text.split_of_notMem hpoint]

/-- Filters come before relations, and both come before controls. -/
theorem route_of_name (hname : Key.normal key = control.name)
    (hoffered : visit.capability.offers control = true) :
    visit.route key (.string s) =
      if control.name ∈ visit.capability.filters.keys then .filter (visit.given key s)
      else if control.name ∈ visit.level.resource.relations.keys then
        .refused ((visit.given key s).error .relationKeyRequired)
      else .control (visit.given key s) :=
  Level.routeParameter_of_keys (keys_given hname) (Level.mem_controls_iff.2 hoffered)

/-- Whatever is given for a control comes from the only entry for it. -/
theorem Gives.route_of_control? (hgives : visit.Gives control key s)
    (hgiven : visit.routed.control? control = some parameter) :
    visit.route key (.string s) = .control parameter := by
  obtain ⟨hkey, entry, hentry, hroute, -⟩ := exists_of_mem_control? hgiven
  obtain ⟨hnormal, -⟩ := Keys.key_of_control? (congrArg Route.control? hroute)
  obtain rfl := hgives.alone entry hentry (hnormal.symm.trans hkey)
  exact hroute

/-- The only entry for a control reaches it unless a declared name comes first. -/
theorem Gives.control?_iff (hgives : visit.Gives control key s)
    (hoffered : visit.capability.offers control = true) :
    visit.routed.control? control = some (visit.given key s) ↔
      visit.level.Frees visit.capability control := by
  have hroute := @route_of_name visit control key s hgives.isName hoffered
  constructor
  · intro hgiven
    rw [hgives.route_of_control? hgiven] at hroute
    split at hroute
    next => cases hroute
    next hfilter =>
      split at hroute
      next => cases hroute
      next hrelation => exact ⟨hfilter, hrelation⟩
  · rintro ⟨hfilter, hrelation⟩
    rw [if_neg hfilter, if_neg hrelation] at hroute
    cases hfound : visit.routed.control? control with
    | none =>
        rw [control?_routed, List.find?_eq_none] at hfound
        refine absurd ?_ (hfound (visit.given key s)
          (List.mem_filterMap.2 ⟨_, hgives.mem, by rw [hroute]; rfl⟩))
        rw [Parameter.key, keys_given hgives.isName, Key.ofSegments_singleton, beq_self_eq_true]
    | some parameter =>
        have hsame := (hgives.route_of_control? hfound).symm.trans hroute
        rw [Route.control.inj hsame]

/-- A filter of the name of a control takes the entry, not the control. -/
theorem Gives.mem_filters (hgives : visit.Gives control key s)
    (hoffered : visit.capability.offers control = true)
    (hfilter : control.name ∈ visit.capability.filters.keys) :
    visit.given key s ∈ visit.routed.filters := by
  rw [filters_routed]
  refine List.mem_filterMap.2 ⟨_, hgives.mem, ?_⟩
  rw [route_of_name hgives.isName hoffered, if_pos hfilter]
  rfl

/-! ## What the text for a control comes to -/

/-- A node does what a text for a control says, in which there are some problems.  A number and an
ordering that are permitted are those of the node; otherwise there is one problem, and the node has
the default.  The node shows what the tokens of a projection come to, relations only above the
greatest depth, where entries may reach into others.  It searches for the words of a search. -/
inductive Obeys (visit : Visit) (node : Plan) (above : Prop) (s : String) :
    Control → List Problem → Prop
  | fields {draft : Projection.Draft}
      (hread : Projection.read visit.capability (visit.level.names visit.capability) s = draft)
      (hfields : node.fields = draft.projection.fields)
      (hrelations : ∀ name, name ∈ node.relations.map Prod.fst ↔
        above ∧ (name ∈ draft.projection.relations ∨ visit.nests name = true)) :
      Obeys visit node above s .fields draft.problems
  | limit {n : UInt32} (hdenotes : Text.Denotes s n.toNat)
      (hpermitted : 1 ≤ n.toNat ∧ n.toNat ≤ visit.capability.maxLimit.toNat)
      (hnode : node.limit = some n) : Obeys visit node above s .limit []
  | noLimit
      (hnone : ∀ n, Text.Denotes s n → ¬(1 ≤ n ∧ n ≤ visit.capability.maxLimit.toNat))
      (hnode : node.limit = some visit.capability.defaultLimit) :
      Obeys visit node above s .limit [.invalidLimit visit.capability.maxLimit]
  | offset {n : UInt32} (hdenotes : Text.Denotes s n.toNat) (hnode : node.offset = some n) :
      Obeys visit node above s .offset []
  | noOffset (hnone : ∀ n, Text.Denotes s n → ¬n < UInt32.size) (hnode : node.offset = some 0) :
      Obeys visit node above s .offset [.invalidOffset]
  | order (hread : Order.read visit.orderFields s = .ok node.order) :
      Obeys visit node above s .order []
  | noOrder {problem : Problem} (hread : Order.read visit.orderFields s = .error problem)
      (hnode : node.order = Order.byDefault visit.capability.defaultOrder) :
      Obeys visit node above s .order [problem]
  | search (hnode : node.filters.filter Clause.isSearch =
        Filter.compileSearch visit.level.resource.searchColumn s) :
      Obeys visit node above s .search []

/-- The node of a level obeys a control, and the errors of the level in the control are the problems
that there are. -/
def Heeds (visit : Visit) (node : Plan) (above : Prop) (s : String) (control : Control)
    (parameter : Parameter) : Prop :=
  ∃ problems, visit.Obeys node above s control problems ∧
    visit.controlErrors control = problems.map parameter.error ∧
    ∀ problem ∈ problems, problem.isRefusal = false

/-- A level shows what the text for the fields comes to. -/
theorem heeds_fields (hgiven : visit.routed.control? .fields = some parameter)
    (hvalue : parameter.value = .text s) (hfields : node.fields = visit.projection.fields)
    (hrelations : ∀ name, name ∈ node.relations.map Prod.fst ↔
      above ∧ (name ∈ visit.projection.relations ∨ visit.nests name = true)) :
    visit.Heeds node above s .fields parameter := by
  have hlist : Level.fieldList? parameter.value = some s := hvalue ▸ rfl
  have hread := visit.level.projection_of_control? visit.capability hgiven hlist
  have hprojection : visit.projection = (Projection.read visit.capability
      (visit.level.names visit.capability) s).projection := congrArg Prod.fst hread
  rw [hprojection] at hfields hrelations
  refine ⟨_, .fields rfl hfields hrelations, ?_, fun problem hmem =>
    Projection.isRefusal_of_mem_problems hmem⟩
  rw [controlErrors, hread]

theorem heeds_limit (hpaged : visit.capability.paged = true)
    (hgiven : visit.routed.control? .limit = some parameter) (hvalue : parameter.value = .text s)
    (hnode : node.limit = (Level.limit visit.capability visit.routed).1) :
    visit.Heeds node above s .limit parameter := by
  have herrors := controlErrors_limit hpaged
  rw [Level.limit_of_paged hpaged, hgiven] at hnode
  rw [hgiven] at herrors
  rcases (Level.readsNumber_limit visit.capability.maxLimit).controlValue_of_text hvalue
    visit.capability.defaultLimit with ⟨n, hdenotes, hpermitted, hread⟩ | ⟨hnone, hread⟩
  · rw [hread] at hnode herrors
    exact ⟨[], .limit hdenotes hpermitted hnode, herrors, List.forall_mem_nil _⟩
  · rw [hread] at hnode herrors
    exact ⟨_, .noLimit hnone hnode, herrors, List.forall_mem_singleton.2 rfl⟩

theorem heeds_offset (hpaged : visit.capability.paged = true)
    (hgiven : visit.routed.control? .offset = some parameter) (hvalue : parameter.value = .text s)
    (hnode : node.offset = (Level.offset visit.capability visit.routed).1) :
    visit.Heeds node above s .offset parameter := by
  have herrors := controlErrors_offset hpaged
  rw [Level.offset_of_paged hpaged, hgiven] at hnode
  rw [hgiven] at herrors
  rcases Level.readsNumber_offset.controlValue_of_text hvalue 0 with
    ⟨n, hdenotes, -, hread⟩ | ⟨hnone, hread⟩
  · rw [hread] at hnode herrors
    exact ⟨[], .offset hdenotes hnode, herrors, List.forall_mem_nil _⟩
  · rw [hread] at hnode herrors
    exact ⟨_, .noOffset hnone hnode, herrors, List.forall_mem_singleton.2 rfl⟩

theorem heeds_order (hordered : visit.capability.ordered = true)
    (hgiven : visit.routed.control? .order = some parameter) (hvalue : parameter.value = .text s)
    (hnode : node.order = (visit.level.order visit.capability visit.routed).1) :
    visit.Heeds node above s .order parameter := by
  have hsingle : parameter.single = .ok s := Parameter.single_eq_ok_iff.2 (hvalue ▸ rfl)
  have hread : Level.readOrder visit.orderFields parameter =
      (Order.read visit.orderFields s).mapError parameter.error := by
    rw [Level.readOrder, hsingle]
    rfl
  have hlevel : visit.level.order visit.capability visit.routed =
      Level.controlValue (some parameter) (Order.byDefault visit.capability.defaultOrder)
        (Level.readOrder visit.orderFields) := by
    rw [Level.order, if_pos hordered, hgiven]
    rfl
  have herrors : visit.controlErrors .order =
      (visit.level.order visit.capability visit.routed).2 := rfl
  rw [hlevel, Level.controlValue, hread] at hnode herrors
  cases horder : Order.read visit.orderFields s with
  | ok entries =>
      rw [horder] at hnode herrors
      exact ⟨[], .order (hnode ▸ horder), herrors, List.forall_mem_nil _⟩
  | error problem =>
      rw [horder] at hnode herrors
      exact ⟨_, .noOrder horder hnode, herrors,
        List.forall_mem_singleton.2 (Order.isRefusal_of_read horder)⟩

theorem filter_isSearch_filters (visit : Visit) (catalog : Catalog) :
    ((visit.filters catalog).flatMap Level.Filter.clauses).filter Clause.isSearch = [] := by
  have hclauses := Level.Applied.clauses_foldl (visit.filters catalog) {}
  rw [List.nil_append] at hclauses
  rw [← hclauses, Level.Applied.searches_foldl]

/-- A level searches for the words that it is given, and for nothing besides. -/
theorem heeds_search (hgiven : visit.routed.control? .search = some parameter)
    (hvalue : parameter.value = .text s)
    (hnode : node.filters = (visit.filters catalog).flatMap Level.Filter.clauses ++
      (visit.level.search visit.routed).1) : visit.Heeds node above s .search parameter := by
  have hsingle : parameter.single = .ok s := Parameter.single_eq_ok_iff.2 (hvalue ▸ rfl)
  have hsearch : visit.level.search visit.routed =
      (Filter.compileSearch visit.level.resource.searchColumn s, []) := by
    rw [Level.search, hgiven, Level.controlValue, hsingle]
    rfl
  have hclauses : ∀ clause ∈ Filter.compileSearch visit.level.resource.searchColumn s,
      clause.isSearch = true := fun clause => Level.isSearch_of_mem_compileSearch
  rw [hsearch] at hnode
  refine ⟨[], .search ?_, congrArg Prod.snd hsearch, List.forall_mem_nil _⟩
  rw [hnode, List.filter_append, filter_isSearch_filters, List.nil_append,
    List.filter_eq_self.2 hclauses]

/-- Whatever control is given with a text, the node of the level obeys it. -/
theorem heeds_of_eq {referrer : String} {depthErrors : List RequestError}
    {relations : List (String × Plan)}
    (heq : node = { visit.planOf catalog referrer depthErrors relations with
      errors := node.errors })
    (hrelations : ∀ name, name ∈ node.relations.map Prod.fst ↔
      above ∧ (name ∈ visit.projection.relations ∨ visit.nests name = true))
    (hgiven : visit.routed.control? control = some parameter)
    (hvalue : parameter.value = .text s) : visit.Heeds node above s control parameter := by
  have hoffered := Level.mem_keys_controls_iff.1 (Params.mem_controls_of_control? hgiven)
  cases control with
  | fields => exact heeds_fields hgiven hvalue (congrArg (·.fields) heq) hrelations
  | limit => exact heeds_limit hoffered hgiven hvalue (congrArg (·.limit) heq)
  | offset => exact heeds_offset hoffered hgiven hvalue (congrArg (·.offset) heq)
  | order => exact heeds_order hoffered hgiven hvalue (congrArg (·.order) heq)
  | search =>
      have hfilters := (congrArg (·.filters) heq).trans
        (@filters_planOf catalog visit depthErrors relations referrer)
      exact heeds_search hgiven hvalue hfilters

/-! ## Entries that are refused -/

/-- An entry that is refused for its key is an error in the plan. -/
theorem Plans.mem_errors_of_refused {reached : Visit} {depth : Nat} {plan : Plan}
    {path : List String} {entry : String × Json} {error : RequestError}
    (hplans : visit.Plans catalog depth plan) (hsound : catalog.Sound)
    (hnode : (plan.along? path).isSome) (halong : visit.along? catalog path = some reached)
    (hentry : entry ∈ reached.params.entries.entries)
    (hvalue : (ParamValue.ofJson? entry.2).isSome)
    (hroute : reached.route entry.1 entry.2 = .refused error)
    (hfound : error.isFound error.trace = true) : error ∈ plan.errors := by
  have howner : reached.LeadsAt error.trace entry :=
    ⟨hentry, hvalue, (traced_of_route hroute).1.symm⟩
  have hrefused : error ∈ reached.routed.errors.filter (·.isFound error.trace) := by
    rw [errors_routed, Route.filter_refusals_eq, List.filterMap_map]
    · refine List.mem_filter.2 ⟨List.mem_filterMap.2 ⟨entry, hentry, ?_⟩, hfound⟩
      rw [Function.comp_apply, hroute]
      rfl
    · intro parameter
      simp [RequestError.isFound, Parameter.error, Problem.isOfValueOrPlace]
  have hlevel : error ∈ (reached.levelErrors catalog).filter (·.isFound error.trace) := by
    rw [levelErrors, List.filter_append]
    exact List.mem_append_left _ hrefused
  rw [← hplans.errors_found hsound hnode halong howner (by rw [hroute]; rfl)] at hlevel
  exact List.mem_of_mem_filter hlevel

end Visit

/-! ## Plans of requests -/

/-- Every node at the end of a path is part of the outline, with the names of its relations. -/
theorem Plan.mem_outline_of_along? {plan node : Plan} {path : List String}
    (hnode : plan.along? path = some node) :
    (path, node.relations.map Prod.fst) ∈ plan.outline := by
  induction path generalizing plan with
  | nil =>
      obtain rfl := Option.some.inj hnode
      rw [outline_eq]
      exact List.mem_cons_self
  | cons name rest ih =>
      obtain ⟨sub, hlookup, hsub⟩ := Option.bind_eq_some_iff.1 hnode
      rw [outline_eq]
      refine List.mem_cons_of_mem _ (List.mem_flatMap.2
        ⟨(name, sub), Table.mem_of_lookup_eq_some hlookup, ?_⟩)
      exact List.mem_map_of_mem (ih hsub)

/-- The relations of a node above the greatest depth are those that its level projects and those
that entries reach into. -/
theorem Document.mem_relations_iff {document : Document} {catalog : Catalog}
    (hresolve : document.resolve = .ok catalog) {resource : String} {target : Target}
    {params : Params} {plan node : Plan} {path : List String} {visit : Visit}
    (hplan : catalog.plan resource target params = .ok plan)
    (hnode : plan.along? path = some node)
    (hvisit : catalog.visit? resource target params path = some visit) {name : String} :
    name ∈ node.relations.map Prod.fst ↔
      path.length < maxDepth ∧ (name ∈ visit.projection.relations ∨ visit.nests name = true) := by
  obtain ⟨root, hplans, -, -, hvisits⟩ := (sound_of_resolve hresolve).exists_visit hplan
  obtain ⟨reached, halong, hshows⟩ := hplans.shows hresolve (Plan.mem_outline_of_along? hnode)
  obtain rfl := Option.some.inj (hvisit.symm.trans ((hvisits path).trans halong))
  rcases hshows with ⟨habove, -, hnames⟩ | ⟨hdeepest, hnames⟩
  · rw [hnames, and_iff_right habove]
  · simp [hnames, hdeepest]

/-- The only entry for a control, if it is a text, reaches the control exactly if no filter of the
capability and no relation of the resource has its name.  Then the node does what the text says, and
the errors in the plan about what is said there are the problems in it.  A filter of that name gets
the entry before a relation does, and the entry is an error if there is a relation only. -/
theorem Document.plan_obeys {document : Document} {catalog : Catalog}
    (hresolve : document.resolve = .ok catalog) {resource : String} {target : Target}
    {params : Params} {plan node : Plan} {path : List String}
    (hplan : catalog.plan resource target params = .ok plan)
    (hnode : plan.along? path = some node) :
    ∃ visit, catalog.visit? resource target params path = some visit ∧
      visit.level.trace = Text.join '.' (resource :: path) ∧
      catalog.resources.get? node.resource = some visit.level.resource ∧
      visit.level.capability = .ok (node.referrer, visit.capability) ∧
      ∀ control key s, visit.capability.offers control = true → visit.Gives control key s →
        (visit.routed.control? control = some (visit.given key s) ↔
          visit.level.Frees visit.capability control) ∧
        (visit.level.Frees visit.capability control →
          ∃ problems, visit.Obeys node (path.length < maxDepth) (Text.trim s) control problems ∧
            plan.errors.filter (·.isAbout (visit.given key s).trace) =
              problems.map (visit.given key s).error) ∧
        (control.name ∈ visit.capability.filters.keys →
          visit.given key s ∈ visit.routed.filters) ∧
        (control.name ∉ visit.capability.filters.keys →
          control.name ∈ visit.level.resource.relations.keys →
            (visit.given key s).error .relationKeyRequired ∈ plan.errors) := by
  have hsound := sound_of_resolve hresolve
  obtain ⟨visit, depthErrors, relations, hvisit, htrace, hheld, hcapability, heq⟩ :=
    hsound.exists_node hplan hnode
  have hresource : node.resource = visit.level.resource.name := congrArg (·.resource) heq
  refine ⟨visit, hvisit, htrace, hresource ▸ hheld.resource, hcapability,
    fun control key s hoffered hgives => ?_⟩
  have hreaches := hgives.control?_iff hoffered
  refine ⟨hreaches, fun hfrees => ?_, hgives.mem_filters hoffered, fun hfilter hrelation => ?_⟩
  · have hgiven := hreaches.2 hfrees
    obtain ⟨problems, hobeys, herrors, hkept⟩ := Visit.heeds_of_eq heq
      (fun _ => mem_relations_iff hresolve hplan hnode hvisit) hgiven rfl
    refine ⟨problems, hobeys, ?_⟩
    rw [← herrors]
    refine hsound.errors_about hplan hnode hvisit hgiven fun error herror => ?_
    rw [herrors] at herror
    obtain ⟨problem, hproblem, rfl⟩ := List.mem_map.1 herror
    exact hkept problem hproblem
  · obtain ⟨root, hplans, -, -, hvisits⟩ := hsound.exists_visit hplan
    have hroute := @Visit.route_of_name visit control key s hgives.isName hoffered
    rw [if_neg hfilter, if_pos hrelation] at hroute
    refine hplans.mem_errors_of_refused hsound (Option.isSome_iff_exists.2 ⟨node, hnode⟩)
      ((hvisits path).symm.trans hvisit) hgives.mem rfl hroute ?_
    exact RequestError.isFound_eq_true_iff.2 ⟨rfl, rfl, rfl⟩

namespace Sample

/-- Cabins with a limit on guests, by which callers may filter. -/
def crowded : Document :=
  { resources :=
      [ { name := "cabin"
          table := "cabins"
          fields := .ofList [("id", .uuid), ("limit", .number)]
          capabilities := .ofList
            [("default", { page := some { defaultLimit := 20, maxLimit := 50 }
                           filters := .ofList [("limit", {})]
                           fullFields := ["id", "limit"] })] } ] }

def crowdedCatalog : Catalog := crowded.resolve.toOption.getD {}

/-- The limits of five cabins, or of those for five guests. -/
def crowdedRequest : Params := ⟨.ofList [("Fields", .string " Limit "), ("limit", .string "5")]⟩

def crowdedPlan : Plan :=
  (crowdedCatalog.plan "cabin" .list crowdedRequest).toOption.getD default

theorem resolve_crowded : crowded.resolve = .ok crowdedCatalog :=
  eq_ok_of_isOk {} (by decide +kernel)

theorem plan_crowded : crowdedCatalog.plan "cabin" .list crowdedRequest = .ok crowdedPlan :=
  eq_ok_of_isOk default (by decide +kernel)

theorem gives_crowded {visit : Visit}
    (hvisit : crowdedCatalog.visit? "cabin" .list crowdedRequest [] = some visit) :
    visit.Gives .fields "Fields" " Limit " ∧ visit.Gives .limit "limit" "5" := by
  obtain ⟨-, hparams, -⟩ := Catalog.visit?_nil_eq_some_iff.1 hvisit
  have hentries : visit.params.entries.entries =
      [("Fields", .string " Limit "), ("limit", .string "5")] := hparams ▸ rfl
  have hfields : Key.normal "Fields" = "fields" := by decide +kernel
  have hlimit : Key.normal "limit" = "limit" := by decide +kernel
  constructor <;> constructor <;> simp [hentries, hfields, hlimit, Control.name]

end Sample

/-- Cabins show what is asked for, since nothing there is named like that control. -/
theorem plan_obeys_cabins :
    Sample.crowdedPlan.fields = ["limit"] ∧
      Sample.crowdedPlan.errors.filter (·.isAbout "cabin.fields") = [] := by
  have hnode : Sample.crowdedPlan.along? [] = some Sample.crowdedPlan := rfl
  obtain ⟨visit, hvisit, htrace, -, -, hcontrols⟩ :=
    Document.plan_obeys Sample.resolve_crowded Sample.plan_crowded hnode
  have hfacts : ∃ visit ∈ Sample.crowdedCatalog.visit? "cabin" .list Sample.crowdedRequest [],
      visit.level.Frees visit.capability .fields ∧
        let draft := Projection.read visit.capability (visit.level.names visit.capability)
          (Text.trim " Limit ")
        draft.projection.fields = ["limit"] ∧ draft.problems = [] := by decide +kernel
  obtain ⟨_, hfound, hfrees, hfields, hproblems⟩ := hfacts
  obtain rfl := Option.some.inj (hvisit.symm.trans hfound)
  obtain ⟨-, heffect, -⟩ := hcontrols .fields _ _ rfl (Sample.gives_crowded hvisit).1
  obtain ⟨problems, hobeys, herrors⟩ := heffect hfrees
  have hlocated : (visit.given "Fields" " Limit ").trace = "cabin.fields" := by
    rw [Visit.given, Parameter.ofEntry, htrace]
    decide +kernel
  cases hobeys with
  | fields hread hnode hrelations =>
      subst hread
      rw [hlocated, hproblems] at herrors
      exact ⟨hnode.trans hfields, herrors⟩

/-- A filter for limits takes the place of the limit, which is the declared one. -/
theorem not_obeys_limit :
    Sample.crowded.resolve = .ok Sample.crowdedCatalog ∧
      ∃ visit, Sample.crowdedCatalog.visit? "cabin" .list Sample.crowdedRequest [] = some visit ∧
        visit.capability.paged = true ∧ visit.Gives .limit "limit" "5" ∧
        visit.routed.control? .limit = none ∧
        Sample.crowdedCatalog.plan "cabin" .list Sample.crowdedRequest = .ok Sample.crowdedPlan ∧
        Sample.crowdedPlan.errors = [] ∧ Sample.crowdedPlan.limit = some 20 := by
  have hfacts : ∃ visit ∈ Sample.crowdedCatalog.visit? "cabin" .list Sample.crowdedRequest [],
      visit.capability.paged = true ∧ visit.routed.control? .limit = none := by decide +kernel
  obtain ⟨visit, hvisit, hpaged, hnone⟩ := hfacts
  exact ⟨Sample.resolve_crowded, visit, hvisit, hpaged, (Sample.gives_crowded hvisit).2, hnone,
    Sample.plan_crowded, by decide +kernel, by decide +kernel⟩

end RestQuery
