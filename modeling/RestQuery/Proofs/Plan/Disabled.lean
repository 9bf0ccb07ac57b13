import RestQuery.Proofs.Plan.Unknown
import RestQuery.Proofs.Plan.Visibility

/-!
# Features that are off

A capability says which features callers may use.  A node whose capability is not paged has neither
limit nor offset, one that is not ordered has the declared ordering, one that is not searched has no
full-text search among its clauses, and one without filters has no joins and no clauses but those of
a search.  For the single item that a request asks for all of them are off.  An entry that would use
a feature which is off is as unknown as one whose key means nothing.

Main statement: `Document.plan_disables`.
-/

namespace RestQuery

/-! ## Searches -/

/-- Neither a clause nor a part of it is a full-text search. -/
inductive Clause.Searchless : Clause → Prop
  | intro {clause : Clause} (hkind : clause.kind ≠ .test .fullTextMatch)
      (hparts : ∀ part ∈ clause.parts, Searchless part) : Searchless clause

/-- A search asks for nothing or is one test. -/
theorem Filter.compileSearch_cases (column words : String) :
    compileSearch column words = [] ∨
      ∃ bare, compileSearch column words =
        [.onField .fullTextMatch ⟨.resource, column⟩ [.text bare]] := by
  rw [compileSearch]
  split
  · exact .inl rfl
  · exact .inr ⟨_, rfl⟩

/-- A filter on a field never becomes a search. -/
theorem Clause.Applies.searchless {type : FieldType} {field : FieldRef} {operator : Operator}
    {clause : Clause} (happlies : clause.Applies type field operator) : clause.Searchless := by
  induction happlies with
  | test hoperator hcount htype =>
      have happlies : (Clause.onField _ field _).Applies type field operator :=
        .test hoperator hcount htype
      have hother := happlies.isSearch_eq
      exact .intro (of_decide_eq_false hother) nofun
  | anyOf _ _ ih => exact .intro nofun ih

theorem Capability.Permits.searchless {capability : Capability} {catalog : Catalog}
    {referrer : Referrer} {resource : Resource} {clause : Clause}
    (hpermits : capability.Permits catalog referrer resource clause)
    (hsearchable : capability.searchable = false) : clause.Searchless := by
  cases hpermits with
  | search hsearched =>
      rw [hsearchable] at hsearched
      cases hsearched
  | absence => exact .intro nofun nofun
  | field _ _ _ happlies => exact happlies.searchless

/-! ## What a node leaves out -/

/-- A node of a resource has nothing of the features that a capability does not offer. -/
structure Plan.Withholds (node : Plan) (capability : Capability) (resource : Resource) : Prop where
  page : capability.paged = false → node.limit = none ∧ node.offset = none
  order : capability.ordered = false → node.order = Order.byDefault capability.defaultOrder
  search : capability.searchable = false → ∀ clause ∈ node.filters, clause.Searchless
  filters : capability.filters.isEmpty = true →
    node.joins = .empty ∧ (node.filters = [] ∨ ∃ words, node.filters =
      [.onField .fullTextMatch ⟨.resource, resource.searchColumn⟩ [.text words]])

namespace Visit

variable {catalog : Catalog} {visit : Visit} {depth : Nat} {plan : Plan} {resource : String}
  {target : Target} {params : Params} {path : List String}

/-- Only the root of a request for a single item is that item. -/
theorem isSingle_iff (hvisit : catalog.visit? resource target params path = some visit) :
    visit.level.isSingle = true ↔ path = [] ∧ target = .single := by
  rw [Level.isSingle, decide_eq_true_eq]
  rcases List.eq_nil_or_concat path with rfl | ⟨path, name, rfl⟩
  · obtain ⟨hroot, -, -⟩ := Catalog.visit?_nil_eq_some_iff.1 hvisit
    obtain ⟨found, -, hlevel⟩ := Level.root_eq_ok_iff.1 hroot
    rw [hlevel]
    cases target <;> simp [Target.referrer]
  · rw [List.concat_eq_append, Catalog.visit?_append_singleton] at hvisit
    obtain ⟨parent, -, hbelow⟩ := Option.bind_eq_some_iff.1 hvisit
    obtain ⟨relation, -, hchild, -⟩ := below?_eq_some_iff.1 hbelow
    obtain ⟨reached, -, hlevel⟩ := Level.child_eq_ok_iff.1 hchild
    rw [hlevel]
    simp

/-- Where a capability has no filters, no entry becomes one. -/
theorem filters_eq_nil (hnone : visit.capability.filters.isEmpty = true) :
    visit.filters catalog = [] := by
  have hkeys : visit.capability.filters.keys = [] :=
    List.map_eq_nil_iff.2 (List.isEmpty_iff.1 hnone)
  have hrouted : visit.routed.filters = [] := by
    refine List.eq_nil_iff_forall_not_mem.2 fun parameter hparameter => ?_
    have hmem : parameter.key ∈ visit.capability.filters.keys :=
      Params.mem_filters_of_mem_route hparameter
    rw [hkeys] at hmem
    cases hmem
  rw [filters, hrouted, List.filterMap_nil]

/-- The clauses of a search are those of its words, if there are any. -/
theorem search_cases (visit : Visit) :
    (visit.level.search visit.routed).1 = [] ∨ ∃ words, (visit.level.search visit.routed).1 =
      [.onField .fullTextMatch ⟨.resource, visit.level.resource.searchColumn⟩ [.text words]] := by
  rcases Level.controlValue_cases (visit.routed.control? .search) [] (fun parameter =>
      parameter.single.map (Filter.compileSearch visit.level.resource.searchColumn))
    with hnone | ⟨parameter, -, hread⟩
  · exact .inl hnone
  · rw [← Level.search] at hread
    cases hsingle : parameter.single with
    | error error =>
        rw [hsingle] at hread
        cases hread
    | ok words =>
        rw [hsingle] at hread
        rw [← Except.ok.inj hread]
        exact Filter.compileSearch_cases _ words

/-- A plan has nothing of what the capability of its level does not offer. -/
theorem Plans.withholds (hplans : visit.Plans catalog depth plan) (hsound : catalog.Sound) :
    plan.Withholds visit.capability visit.level.resource := by
  obtain ⟨_, relations, heq, -⟩ := hplans.exists_relations hsound
  refine ⟨fun hpaged => ?_, fun hordered => ?_, fun hsearchable clause hclause => ?_,
    fun hfilters => ?_⟩
  · rw [heq, limit_planOf, offset_planOf, Level.limit, Level.offset, hpaged]
    exact ⟨rfl, rfl⟩
  · rw [heq, order_planOf, Level.order, hordered]
    rfl
  · rw [heq] at hclause
    exact ((Level.Reading.apply_permitted hplans.held hsound).clauses clause hclause).searchless
      hsearchable
  · have hnone : visit.filters catalog = [] := filters_eq_nil hfilters
    constructor
    · rw [heq]
      refine Table.ext_get? fun name => ?_
      rw [get?_joins_planOf, hnone]
      rfl
    · rw [heq, filters_planOf, hnone]
      exact visit.search_cases

end Visit

/-! ## Plans of requests -/

/-- A node has nothing of the features that its capability does not offer.  The capability is the
declared one, except that the single item which a request asks for has no feature and no ordering.
An entry whose key of one segment is not a control that is offered, nor a filter, nor a relation is
refused, and raises the one error that is found where it leads: the errors there are one for each
entry of the level with its key and the value of a parameter, apart from errors over the value of
an entry or over the place that an entry takes. -/
theorem Document.plan_disables {document : Document} {catalog : Catalog}
    (hresolve : document.resolve = .ok catalog) {resource : String} {target : Target}
    {params : Params} {plan node : Plan} {path : List String}
    (hplan : catalog.plan resource target params = .ok plan)
    (hnode : plan.along? path = some node) :
    ∃ visit declared, catalog.visit? resource target params path = some visit ∧
      visit.level.trace = Text.join '.' (resource :: path) ∧
      catalog.resources.get? node.resource = some visit.level.resource ∧
      visit.level.capability = .ok (node.referrer, visit.capability) ∧
      visit.level.resource.capabilities.get? node.referrer = some declared ∧
      visit.capability =
        (if path = [] ∧ target = .single then declared.forSingleItem else declared) ∧
      node.Withholds visit.capability visit.level.resource ∧
      (path = [] → target = .single → node.order = []) ∧
      ∀ entry, visit.Unknown entry →
        visit.route entry.1 entry.2 =
            .refused ⟨visit.level.trace ++ "." ++ Key.normal entry.1, .unknownParameter⟩ ∧
          plan.errors.filter (fun error =>
              error.trace = visit.level.trace ++ "." ++ Key.normal entry.1 ∧
                error.problem.isOfValueOrPlace = false) =
            (visit.sharing entry).map fun other =>
              ⟨visit.level.trace ++ "." ++ Key.normal other.1, .unknownParameter⟩ := by
  have hsound := sound_of_resolve hresolve
  obtain ⟨root, hroot, -, hname, hvisits⟩ := hsound.exists_visit hplan
  obtain ⟨visit, left, full, hvisit, htrace, hplans, heq⟩ :=
    hsound.exists_plans_of_along? hplan hnode
  have hresource : node.resource = visit.level.resource.name :=
    (congrArg (·.resource) heq).trans (hplans.resource_eq hsound)
  have hreferrer : node.referrer = full.referrer := congrArg (·.referrer) heq
  have hcapability : visit.level.capability = .ok (node.referrer, visit.capability) :=
    hreferrer ▸ hplans.capability_eq
  obtain ⟨declared, hdeclared, hmeans⟩ := Level.exists_declared_of_capability hcapability
  simp only [Visit.isSingle_iff hvisit] at hmeans
  have hwithheld : node.Withholds visit.capability visit.level.resource := by
    obtain ⟨hpage, horder, hsearch, hfilters⟩ := hplans.withholds hsound
    rw [heq]
    exact ⟨hpage, horder, hsearch, hfilters⟩
  refine ⟨visit, declared, hvisit, htrace, hresource ▸ hplans.held.resource, hcapability,
    hdeclared, hmeans, hwithheld, fun hpath htarget => ?_, fun entry hunknown => ?_⟩
  · rw [if_pos ⟨hpath, htarget⟩] at hmeans
    rw [hwithheld.order (by rw [hmeans]; rfl), hmeans]
    rfl
  · refine ⟨hunknown.route_eq, ?_⟩
    exact hroot.errors_unknown hresolve (Option.isSome_iff_exists.2 ⟨node, hnode⟩)
      ((hvisits path).symm.trans hvisit) (by rw [hname, htrace]) hunknown

namespace Sample

/-- Cabins, of which callers may list pages, and search them. -/
def restricted : Document :=
  { resources :=
      [ { name := "cabin"
          table := "cabins"
          fields := .ofList [("id", .uuid), ("name", .string)]
          capabilities := .ofList
            [("default", { page := some { maxLimit := 100 }
                           order := some { fields := ["name"], default := ["name desc"] }
                           search := true
                           fullFields := ["id"] })] } ] }

def restrictedCatalog : Catalog := restricted.resolve.toOption.getD {}

/-- One cabin, with the limit of a page. -/
def restrictedRequest : Params := ⟨.ofList [("Limit", .string "3")]⟩

def restrictedPlan : Plan :=
  (restrictedCatalog.plan "cabin" .single restrictedRequest).toOption.getD default

end Sample

/-- A request for one cabin has no limit and no ordering, and its limit is an unknown parameter. -/
theorem plan_disables_cabins :
    Sample.restrictedPlan.limit = none ∧ Sample.restrictedPlan.order = [] ∧
      Sample.restrictedPlan.errors.filter (fun error =>
          error.trace = "cabin.limit" ∧ error.problem.isOfValueOrPlace = false) =
        [⟨"cabin.limit", .unknownParameter⟩] := by
  have hresolve : Sample.restricted.resolve = .ok Sample.restrictedCatalog :=
    eq_ok_of_isOk {} (by decide +kernel)
  have hplan : Sample.restrictedCatalog.plan "cabin" .single Sample.restrictedRequest =
      .ok Sample.restrictedPlan := eq_ok_of_isOk default (by decide +kernel)
  have hnode : Sample.restrictedPlan.along? [] = some Sample.restrictedPlan := rfl
  obtain ⟨visit, declared, hvisit, htrace, -, -, -, hmeans, hwithheld, horder, hunknown⟩ :=
    Document.plan_disables hresolve hplan hnode
  rw [if_pos ⟨rfl, rfl⟩] at hmeans
  have hfacts : (Sample.restrictedCatalog.visit? "cabin" .single Sample.restrictedRequest []).map
      (fun visit => (visit.capability.offers .limit,
        visit.level.resource.relations.contains "limit")) = some (false, false) := by
    decide +kernel
  rw [hvisit, Option.map_some, Option.some.injEq, Prod.mk.injEq] at hfacts
  obtain ⟨hoffers, hrelation⟩ := hfacts
  obtain ⟨-, hparams, -⟩ := Catalog.visit?_nil_eq_some_iff.1 hvisit
  have hentries : visit.params.entries.entries = [("Limit", .string "3")] := hparams ▸ rfl
  have hentry : visit.Unknown ("Limit", .string "3") :=
    { mem := hentries ▸ List.mem_cons_self
      isParameter := trivial
      isSegment := by decide +kernel
      notControl := fun control hname => by
        obtain rfl : control = .limit := by revert hname; cases control <;> decide +kernel
        exact hoffers
      notFilter := by rw [hmeans]; rfl
      notRelation := hrelation }
  refine ⟨(hwithheld.page (by rw [hmeans]; rfl)).1, horder rfl rfl, ?_⟩
  have hlocated : visit.level.trace ++ "." ++ Key.normal "Limit" = "cabin.limit" := by
    rw [htrace]
    decide +kernel
  have hsharing : visit.sharing ("Limit", .string "3") = [("Limit", .string "3")] := by
    rw [Visit.sharing, hentries]
    simp [ParamValue.ofJson?]
  obtain ⟨-, herrors⟩ := hunknown _ hentry
  rw [hlocated, hsharing, List.map_singleton, hlocated] at herrors
  exact herrors

end RestQuery
