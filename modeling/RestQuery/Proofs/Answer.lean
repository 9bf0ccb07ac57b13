import RestQuery.Proofs.Plan.Authority
import RestQuery.Proofs.Sql.Selections
import RestQuery.Response

/-!
# Requests are answered

In a catalog without a fault a request for a known resource has a plan, and the plan has
a query, whatever the request says.  What the selection for a plan looks up by name is
what the capability of its level permits, hence declared.

Main statement: `Document.answers`.
-/

namespace RestQuery

open Sql

variable {catalog : Catalog} {resource : Resource} {referrer : Referrer} {name : String}

/-! ## Declared relations -/

/-- A permitted clause about a relation is about one of the resource. -/
theorem Capability.Permits.exists_relation {capability : Capability} {clause : Clause}
    (hpermits : capability.Permits catalog referrer resource clause)
    (hrelation : Site.relationOf? clause = some name) :
    ∃ relation, resource.relations.get? name = some relation := by
  cases hpermits with
  | search => cases hrelation
  | absence hfound =>
      obtain rfl := Option.some.inj hrelation
      exact ⟨_, hfound⟩
  | @field field _ _ _ _ htype _ _ happlies =>
      rw [Site.relationOf?, happlies.scope?_eq] at hrelation
      rw [Catalog.fieldType?] at htype
      cases hscope : field.scope with
      | resource => simp [hscope] at hrelation
      | link => simp [hscope] at hrelation
      | relation other =>
          rw [hscope] at hrelation htype
          obtain rfl := Option.some.inj hrelation
          obtain ⟨relation, hfound, -⟩ := Option.bind_eq_some_iff.1 htype
          exact ⟨relation, hfound⟩

theorem Capability.PermitsJoin.exists_relation {capability : Capability} {join : JoinKind}
    (hpermits : capability.PermitsJoin resource name join) :
    ∃ relation, resource.relations.get? name = some relation := by
  cases hpermits with
  | absence hrelation => exact ⟨_, hrelation⟩
  | presence hrelation => exact ⟨_, hrelation⟩
  | field hrelation => exact ⟨_, hrelation⟩

/-- Each relation that the selection for a plan joins is declared. -/
theorem Plan.Authorized.exists_relation {plan : Plan} {declared : Capability}
    {join : JoinKind} (hauthorized : plan.Authorized catalog referrer resource declared)
    (hjoin : (Site.joins plan).get? name = some join) :
    ∃ relation, resource.relations.get? name = some relation := by
  rw [Site.get?_joins, Option.or_eq_some_iff] at hjoin
  rcases hjoin with hnamed | ⟨-, hclause⟩
  · exact (hauthorized.joins hnamed).exists_relation
  split at hclause
  next hmem =>
    obtain ⟨clause, hfilter, hrelation⟩ := List.mem_filterMap.1 hmem
    exact (hauthorized.filters clause hfilter).exists_relation hrelation
  next => cases hclause

/-! ## Selections -/

variable {site : Site}

/-- Each relation of a resource in order leads to a table, under any name. -/
theorem Resource.Sound.exists_follow (hsound : resource.Sound catalog)
    (hresource : site.resource = resource) {relation : Relation}
    (hrelation : resource.relations.get? name = some relation) (table : Alias) :
    ∃ inner, site.follow catalog name (·.target) table = .ok (relation, inner) := by
  obtain ⟨target, htarget⟩ := hsound.hasTarget hrelation
  refine ⟨⟨target, table, some relation⟩, Site.follow_eq_ok_iff.2 ⟨?_, target, htarget, rfl⟩⟩
  rw [hresource]
  exact hrelation

/-- Each join of an authorized plan can be written. -/
theorem Plan.Authorized.exists_joinConditions {plan : Plan} {declared : Capability}
    (hauthorized : plan.Authorized catalog referrer resource declared)
    (hsound : resource.Sound catalog) (hresource : site.resource = resource) :
    ∃ related, List.Forall₂ (fun entry condition =>
        site.joinCondition catalog plan.filters entry.1 entry.2 = .ok condition)
      (Site.joins plan).entries related := by
  apply exists_forall₂
  intro entry hentry
  obtain ⟨relation, hrelation⟩ := hauthorized.exists_relation (Table.get?_eq_some_iff.2 hentry)
  obtain ⟨joined, hfollow⟩ := hsound.exists_follow hresource hrelation (.join site.name entry.1)
  exact ⟨_, Site.joinCondition_eq_ok_iff.2 ⟨relation, joined, hfollow, rfl⟩⟩

/-- The plan of a level has a selection at each site of the same resource. -/
theorem Level.Gives.exists_select (hsound : catalog.Sound) {plan : Plan} {level : Level}
    (hgives : level.Gives catalog plan) (hheld : level.Held catalog)
    (hsite : site.resource = level.resource) (depth : Nat) (first : List Condition) :
    ∃ select, site.select catalog depth first plan = .ok select := by
  induction plan using Plan.induction generalizing level site depth first with
  | step plan ih =>
      obtain ⟨declared, hauthorized⟩ := hgives.exists_authorized hheld hsound
      obtain ⟨related, hrelated⟩ :=
        hauthorized.exists_joinConditions (hheld.sound hsound) hsite
      have hbelow : ∀ entry ∈ plan.relations, ∃ result, site.Shows catalog depth entry result := by
        intro entry hentry
        obtain ⟨relation, child, hrelation, hchild, hsub⟩ := hgives.relation hentry
        have hheldChild := hheld.of_child hsound hrelation hchild
        obtain ⟨_, _, _, hname, -⟩ := hsub.read
        let inner : Site := ⟨child.resource, .level (depth + 1), some relation⟩
        have hfollow : site.follow catalog entry.1 (fun _ => entry.2.resource)
            (.level (depth + 1)) = .ok (relation, inner) := by
          rw [← hsite] at hrelation
          rw [Site.follow_eq_ok_iff, hname]
          exact ⟨hrelation, child.resource, hheldChild.resource, rfl⟩
        have hinner : inner.resource = child.resource := rfl
        obtain ⟨select, hselect⟩ := ih entry hentry hsub hheldChild hinner (depth + 1)
          [inner.correlation site.name relation]
        exact ⟨_, relation, inner, hfollow, select, hselect, rfl⟩
      obtain ⟨below, hshows⟩ := exists_forall₂ hbelow
      exact ⟨_, Site.select_eq_ok_iff.2 ⟨below, related, hshows, hrelated, rfl⟩⟩

/-! ## Answers -/

variable {target : Target} {params : Params}

/-- There is a plan for any parameters, in disorder or not. -/
theorem Catalog.Sound.exists_plan (hsound : catalog.Sound)
    (hresource : catalog.resources.get? name = some resource) (target : Target)
    (params : Params) : ∃ plan, catalog.plan name target params = .ok plan := by
  have hroot : Level.root catalog name target =
      .ok { resource, referrer := target.referrer, trace := resource.name } :=
    Level.root_eq_ok_iff.2 ⟨resource, hresource, rfl⟩
  obtain ⟨plan, hplan⟩ :=
    Level.exists_planWithin hsound maxDepth (Level.held_of_root hsound hroot) params
  exact ⟨plan, bind_eq_ok_iff.2 ⟨_, hroot, hplan⟩⟩

/-- There is a query for each plan that can be made, with its problems. -/
theorem Catalog.Sound.exists_query (hsound : catalog.Sound) {plan : Plan}
    (hplan : catalog.plan name target params = .ok plan) (key : Option String) :
    ∃ query, catalog.query plan key = .ok query := by
  obtain ⟨level, hroot, hwithin⟩ := bind_eq_ok_iff.1 hplan
  have hgives := Level.gives_of_planWithin hwithin
  have hheld := Level.held_of_root hsound hroot
  obtain ⟨_, _, _, hname, -⟩ := hgives.read
  let site : Site := ⟨level.resource, .level 0, none⟩
  have hsite : site.resource = level.resource := rfl
  obtain ⟨select, hselect⟩ :=
    hgives.exists_select hsound hheld hsite 0 (keyConditions level.resource key)
  have hresource := hheld.resource
  rw [← hname] at hresource
  exact ⟨_, query_eq_ok_iff.2 ⟨level.resource, select, hresource, hselect, rfl⟩⟩

/-- A request whose resource is known is answered by its plan or by the problems of that. -/
theorem Catalog.answerIfKnown_eq (hresource : catalog.resources.get? name = some resource)
    {plan : Plan} (hplan : catalog.plan name target params = .ok plan) :
    catalog.answerIfKnown name target params =
      if plan.errors = [] then .ok plan else .error (.invalid plan.errors) := by
  have hknown : catalog.resources.contains name = true := by
    rw [Table.contains, hresource]
    rfl
  rw [Catalog.answerIfKnown, if_pos hknown, Catalog.answer, hplan]
  change plan.accept = _
  rw [Plan.accept]
  simp only [List.isEmpty_iff]

/-- The answer to a request for a known resource is its plan, or lists the errors of the
plan as those of the request.  There is a query for the plan in either case. -/
theorem Document.answers {document : Document} (hresolve : document.resolve = .ok catalog)
    (hresource : catalog.resources.get? name = some resource) (target : Target)
    (params : Params) :
    ∃ plan, catalog.plan name target params = .ok plan ∧
      (∀ key, ∃ query, catalog.query plan key = .ok query) ∧
      (plan.errors = [] → catalog.answerIfKnown name target params = .ok plan) ∧
      (plan.errors ≠ [] → ∃ refusal,
        catalog.answerIfKnown name target params = .error refusal ∧ refusal.status = 400 ∧
        refusal.body = .object
          [("error", .object
            [("code", .string "invalid_request"),
             ("details", Json.strings (plan.errors.map RequestError.text)),
             ("message", .string refusal.message)])]) := by
  have hsound := sound_of_resolve hresolve
  obtain ⟨plan, hplan⟩ := hsound.exists_plan hresource target params
  have hanswer := Catalog.answerIfKnown_eq hresource hplan
  refine ⟨plan, hplan, hsound.exists_query hplan, fun hnone => ?_, fun hsome => ?_⟩
  · rw [hanswer, if_pos hnone]
  · rw [if_neg hsome] at hanswer
    exact ⟨_, hanswer, rfl, rfl⟩

/-- The areas of a catalog in which areas and cabins show each other by default. -/
theorem answers_areas :
    ∃ plan, Sample.catalog.plan "area" .list {} = .ok plan ∧
      (∀ key, ∃ query, Sample.catalog.query plan key = .ok query) ∧
      (plan.errors = [] → Sample.catalog.answerIfKnown "area" .list {} = .ok plan) := by
  have hknown : (Sample.catalog.resources.get? "area").isSome = true := by decide +kernel
  obtain ⟨resource, hresource⟩ := Option.isSome_iff_exists.1 hknown
  obtain ⟨plan, hplan, hquery, hvalid, -⟩ :=
    Document.answers Sample.resolve_document hresource .list {}
  exact ⟨plan, hplan, hquery, hvalid⟩

end RestQuery
