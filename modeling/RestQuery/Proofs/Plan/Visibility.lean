import RestQuery.Proofs.Plan.Nodes

/-!
# Fields that nodes show

Whatever a request asks for, a node shows no field but those that its capability entry lists, in
full or by default, and those of the link table of the relation that leads to the node.  What it
holds for a relation is a plan for the target of that relation.

Main statement: `Document.plan_shows`.
-/

namespace RestQuery

/-- A field of the link table of a level is one of the relation that leads there. -/
theorem Level.exists_of_linkFields {level : Level} {name : String}
    (hfield : (level.linkFields.get? name).isSome) :
    ∃ relation link, level.via = some relation ∧ relation.link = some link ∧
      (link.fields.get? name).isSome := by
  rw [linkFields, link?] at hfield
  cases hvia : level.via with
  | none => simp [hvia] at hfield
  | some relation =>
      cases hlink : relation.link with
      | none => simp [hvia, hlink] at hfield
      | some link => exact ⟨relation, link, rfl, hlink, by simpa [hvia, hlink] using hfield⟩

namespace Visit

variable {catalog : Catalog} {visit : Visit} {depth : Nat} {plan : Plan} {name : String}

/-- What a level shows is a full field, a default one or one of the link table. -/
theorem mem_projection (hmem : name ∈ visit.projection.fields) :
    name ∈ visit.capability.fullFields ∨ visit.capability.AddsByDefault name ∨
      ∃ relation link, visit.level.via = some relation ∧ relation.link = some link ∧
        (link.fields.get? name).isSome :=
  (Level.mem_projection hmem).imp_right (Or.imp_right Level.exists_of_linkFields)

theorem Plans.fields_eq (hplans : visit.Plans catalog depth plan) (hsound : catalog.Sound) :
    plan.fields = visit.projection.fields := by
  obtain ⟨_, relations, heq, -⟩ := hplans.exists_relations hsound
  exact congrArg (·.fields) heq

theorem Plans.resource_eq (hplans : visit.Plans catalog depth plan) (hsound : catalog.Sound) :
    plan.resource = visit.level.resource.name := by
  obtain ⟨_, relations, heq, -⟩ := hplans.exists_relations hsound
  exact congrArg (·.resource) heq

/-- The plan that is held for a relation is one for its target. -/
theorem Plans.target_of_mem (hplans : visit.Plans catalog depth plan) (hsound : catalog.Sound)
    {sub : Plan} (hmem : (name, sub) ∈ plan.relations) :
    ∃ relation, visit.level.resource.relations.get? name = some relation ∧
      sub.resource = relation.target := by
  obtain ⟨_, relations, heq, -, -, hrelations⟩ := hplans.exists_relations hsound
  rw [heq] at hmem
  obtain ⟨result, hresult, hpair⟩ := List.mem_map.1 hmem
  obtain ⟨rfl, rfl⟩ := Prod.mk.inj hpair
  obtain ⟨child, left, -, -, hbelow, -, hchild⟩ := hrelations result hresult
  obtain ⟨relation, hrelation, hlevel, -⟩ := below?_eq_some_iff.1 hbelow
  obtain ⟨found, hfound, hreached⟩ := Level.child_eq_ok_iff.1 hlevel
  refine ⟨relation, hrelation, ?_⟩
  calc result.2.resource
      _ = child.level.resource.name := hchild.resource_eq hsound
      _ = found.name := by rw [hreached]
      _ = relation.target := hsound.resourceNamed hfound

end Visit

/-! ## Plans of requests -/

/-- A node shows full fields of its capability entry, fields that the defaults of the entry add, and
fields of the link table of the relation that leads to the node; what it holds for a relation of
its resource is a plan for the target of that relation. -/
theorem Document.plan_shows {document : Document} {catalog : Catalog}
    (hresolve : document.resolve = .ok catalog) {resource : String} {target : Target}
    {params : Params} {plan node : Plan} {path : List String}
    (hplan : catalog.plan resource target params = .ok plan)
    (hnode : plan.along? path = some node) :
    ∃ visit, catalog.visit? resource target params path = some visit ∧
      visit.level.trace = Text.join '.' (resource :: path) ∧
      visit.level.via = catalog.relationAt? resource target params path ∧
      catalog.resources.get? node.resource = some visit.level.resource ∧
      visit.level.capability = .ok (node.referrer, visit.capability) ∧
      (∀ name ∈ node.fields,
        name ∈ visit.capability.fullFields ∨ visit.capability.AddsByDefault name ∨
          ∃ relation link, visit.level.via = some relation ∧ relation.link = some link ∧
            (link.fields.get? name).isSome) ∧
      ∀ name sub, (name, sub) ∈ node.relations →
        ∃ relation, visit.level.resource.relations.get? name = some relation ∧
          sub.resource = relation.target := by
  have hsound := sound_of_resolve hresolve
  obtain ⟨visit, left, full, hvisit, htrace, hplans, heq⟩ :=
    hsound.exists_plans_of_along? hplan hnode
  have hfields : node.fields = visit.projection.fields :=
    (congrArg (·.fields) heq).trans (hplans.fields_eq hsound)
  have hresource : node.resource = visit.level.resource.name :=
    (congrArg (·.resource) heq).trans (hplans.resource_eq hsound)
  have hreferrer : node.referrer = full.referrer := congrArg (·.referrer) heq
  have hrelations : node.relations = full.relations := congrArg (·.relations) heq
  refine ⟨visit, hvisit, htrace, Visit.via_eq hvisit, hresource ▸ hplans.held.resource,
    hreferrer ▸ hplans.capability_eq, fun name hname => Visit.mem_projection (hfields ▸ hname),
    fun name sub hsub => ?_⟩
  exact hplans.target_of_mem hsound (hrelations ▸ hsub)

namespace Sample

/-- Areas with cabins that a link table gives them; cabins in turn show their owners. -/
def visible : Document :=
  { resources :=
      [ { name := "area"
          table := "areas"
          fields := .ofList [("id", .uuid), ("secret", .string)]
          relations := .ofList
            [("cabins", ⟨"cabin", .toMany, "id", "id", some
               { table := "area_cabins", sourceKey := "area_id", targetKey := "cabin_id",
                 fields := .ofList [("place", .number)] }⟩)]
          capabilities := .ofList [("default", { fullFields := ["id"] })] },
        { name := "cabin"
          table := "cabins"
          fields := .ofList
            [("id", .uuid), ("name", .string), ("beds", .number), ("owner_id", .uuid)]
          relations := .ofList [("owner", ⟨"person", .toOne, "owner_id", "id", none⟩)]
          capabilities := .ofList
            [("default", { fullFields := ["id"] }),
             ("area.cabins",
               { fullFields := ["id", "beds"], defaultFields := ["*full", "-beds", "name"] })] },
        { name := "person"
          table := "persons"
          fields := .ofList [("id", .uuid)]
          capabilities := .ofList [("default", { fullFields := ["id"] })] } ] }

def visibleCatalog : Catalog := visible.resolve.toOption.getD {}

/-- The cabins of each area by default, with their places there and their owners. -/
def visibleRequest : Params := ⟨.ofList [("cabins.fields", .string "*default, Place, owner")]⟩

def visiblePlan : Plan :=
  (visibleCatalog.plan "area" .list visibleRequest).toOption.getD default

end Sample

/-- A cabin shows a full field, a field that the defaults add and its place in the area; for its
owner it holds a plan for persons. -/
theorem plan_shows_cabins :
    ∃ node sub, Sample.visiblePlan.along? ["cabins"] = some node ∧
      Sample.visiblePlan.errors = [] ∧ node.fields = ["id", "name", "place"] ∧
      node.relations.lookup "owner" = some sub ∧ sub.resource = "person" := by
  have hresolve : Sample.visible.resolve = .ok Sample.visibleCatalog :=
    eq_ok_of_isOk {} (by decide +kernel)
  have hplan : Sample.visibleCatalog.plan "area" .list Sample.visibleRequest =
      .ok Sample.visiblePlan := eq_ok_of_isOk default (by decide +kernel)
  obtain ⟨node, hnode⟩ : ∃ node, Sample.visiblePlan.along? ["cabins"] = some node :=
    Option.isSome_iff_exists.1 (by decide +kernel)
  have hfacts : (Sample.visiblePlan.along? ["cabins"]).map (fun node =>
      (node.fields, (node.relations.lookup "owner").isSome)) =
        some (["id", "name", "place"], true) := by decide +kernel
  rw [hnode, Option.map_some, Option.some.injEq, Prod.mk.injEq] at hfacts
  obtain ⟨hfields, hsome⟩ := hfacts
  obtain ⟨sub, hsub⟩ := Option.isSome_iff_exists.1 hsome
  obtain ⟨visit, hvisit, -, -, -, -, -, hrelations⟩ :=
    Document.plan_shows hresolve hplan hnode
  obtain ⟨relation, hrelation, htarget⟩ :=
    hrelations "owner" sub (Table.mem_of_lookup_eq_some hsub)
  have hperson : (Sample.visibleCatalog.visit? "area" .list Sample.visibleRequest
      ["cabins"]).bind (fun visit =>
        (visit.level.resource.relations.get? "owner").map (·.target)) = some "person" := by
    decide +kernel
  rw [hvisit, Option.bind_some, hrelation, Option.map_some, Option.some.injEq] at hperson
  exact ⟨node, sub, hnode, by decide +kernel, hfields, hsub, htarget.trans hperson⟩

end RestQuery
