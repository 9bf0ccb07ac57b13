import RestQuery.Proofs.Plan.Visibility
import RestQuery.Proofs.Sql.Pieces
import RestQuery.Proofs.Sql.References

/-!
# Columns that levels show

The selection for a node lists one column for each field that the node shows and one for each
relation, under their names.  No field stands twice among them, nor does a relation.  A field and a
relation have the same name only if the field is one of a link table: of a resource, fields and
relations have different names.

Main statement: `Document.query_columns`.
-/

namespace RestQuery

namespace Sql

/-- The selection in a selection at the end of a path of relations. -/
def Select.along? (select : Select) : List String → Option Select
  | [] => some select
  | name :: rest => (select.relations.lookup name).bind (·.2.along? rest)

/-- What a selection lists first is one column for each of some names, which has that name. -/
def Select.Lists (select : Select) (names : List String) : Prop :=
  ∃ columns rest,
    select.pieces = [.text "SELECT "] ++ separated ", " columns ++ [.text " FROM "] ++ rest ∧
      List.Forall₂ (fun column name => ∃ shown, column = shown ++ [.text " AS ", .name name])
        columns names

theorem Select.lists (select : Select) :
    select.Lists (select.outputs.map (·.name) ++ select.relations.map Prod.fst) := by
  obtain ⟨outputs, relations, source, conditions, order, limit, offset⟩ := select
  have hcolumns : List.Forall₂ (fun column name =>
      ∃ shown, column = shown ++ [Piece.text " AS ", .name name])
        (outputs.map Output.pieces) (outputs.map (·.name)) := by
    rw [List.forall₂_map_left_iff, List.forall₂_map_right_iff, List.forall₂_same]
    exact fun output _ => ⟨_, rfl⟩
  have hvalues : List.Forall₂ (fun column name =>
      ∃ shown, column = shown ++ [Piece.text " AS ", .name name])
        (relationPieces relations) (relations.map Prod.fst) := by
    rw [relationPieces_eq_map, List.forall₂_map_left_iff, List.forall₂_map_right_iff,
      List.forall₂_same]
    exact fun entry _ => ⟨[.text (wrapping entry.2.1).1] ++ entry.2.2.pieces
      ++ [.text (wrapping entry.2.1).2], by simp⟩
  exact ⟨outputs.map Output.pieces ++ relationPieces relations, _,
    by simp only [pieces, List.append_assoc]; rfl, List.rel_append hcolumns hvalues⟩

variable {catalog : Catalog} {site : Site} {depth : Nat} {first : List Condition}
  {plan node : Plan} {select : Select} {path : List String}

/-- A selection lists the fields of its plan and then the relations. -/
theorem Site.lists_of_select (hselect : site.select catalog depth first plan = .ok select) :
    select.Lists (plan.fields ++ plan.relations.map Prod.fst) := by
  obtain ⟨below, related, hbelow, -, heq⟩ := select_eq_ok_iff.1 hselect
  have hlists := select.lists
  have hfields : select.outputs.map (·.name) = plan.fields := by
    simp [heq, Function.comp_def]
  have hnames : select.relations.map Prod.fst = plan.relations.map Prod.fst := by
    rw [heq, ← List.forall₂_eq_eq_eq, List.forall₂_map_left_iff, List.forall₂_map_right_iff]
    refine hbelow.flip.imp fun result entry hshows => ?_
    obtain ⟨_, _, -, _, -, rfl⟩ := hshows
    rfl
  rwa [hfields, hnames] at hlists

/-- The selection for a plan has one for each node of it. -/
theorem Site.exists_along? (hselect : site.select catalog depth first plan = .ok select)
    (hnode : plan.along? path = some node) :
    ∃ inner, select.along? path = some inner ∧
      inner.Lists (node.fields ++ node.relations.map Prod.fst) := by
  induction path generalizing site depth first plan select with
  | nil =>
      obtain rfl := Option.some.inj hnode
      exact ⟨select, rfl, lists_of_select hselect⟩
  | cons name rest ih =>
      obtain ⟨sub, hlookup, hrest⟩ := Option.bind_eq_some_iff.1 hnode
      obtain ⟨below, related, hbelow, -, heq⟩ := select_eq_ok_iff.1 hselect
      have hkey : ∀ {entry result}, site.Shows catalog depth entry result → entry.1 = result.1 := by
        rintro entry result ⟨_, _, -, _, -, rfl⟩
        rfl
      obtain ⟨⟨kind, found⟩, hfound, hshows⟩ := exists_of_lookup_left hbelow hkey hlookup
      obtain ⟨relation, next, -, other, hother, hpair⟩ := hshows
      obtain ⟨-, rfl, rfl⟩ := by simpa using hpair
      obtain ⟨inner, hinner, hlists⟩ := ih hother hrest
      refine ⟨inner, ?_, hlists⟩
      rw [Select.along?, heq, hfound, Option.bind_some, hinner]

end Sql

/-! ## Names of fields and relations -/

namespace Visit

variable {document : Document} {catalog : Catalog} {visit : Visit} {depth : Nat} {plan : Plan}
  {name : String}

/-- A node shows no field twice. -/
theorem Plans.nodup_fields (hplans : visit.Plans catalog depth plan) (hsound : catalog.Sound) :
    plan.fields.Nodup := by
  rw [hplans.fields_eq hsound]
  exact Level.nodup_projection _ _ _

/-- A node shows no relation twice. -/
theorem Plans.nodup_relations (hplans : visit.Plans catalog depth plan) (hsound : catalog.Sound) :
    (plan.relations.map Prod.fst).Nodup := by
  obtain ⟨_, relations, heq, -, hnodup, -⟩ := hplans.exists_relations hsound
  rwa [heq, names_planOf]

/-- A field with the name of a relation is no field of the resource, but one of a link table. -/
theorem Plans.link_of_mem (hplans : visit.Plans catalog depth plan)
    (hresolve : document.resolve = .ok catalog) (hfield : name ∈ plan.fields)
    (hrelation : name ∈ plan.relations.map Prod.fst) :
    visit.level.resource.fields.get? name = none ∧
      (((document.linkFieldsFor ⟨visit.level.resource.name, plan.referrer⟩).get? name).isSome ∨
        (visit.level.linkFields.get? name).isSome) := by
  have hsound := Document.sound_of_resolve hresolve
  obtain ⟨⟨_, sub⟩, hsub, rfl⟩ := List.mem_map.1 hrelation
  obtain ⟨relation, hdeclared, -⟩ := hplans.target_of_mem hsound hsub
  have hnone := Document.field_of_relation hresolve hplans.held.resource hdeclared
  refine ⟨hnone, ?_⟩
  have hnames := hplans.held.declared_of_capability hresolve hplans.capability_eq
  rw [hplans.fields_eq hsound] at hfield
  rcases Level.knows_of_mem_projection hnames hfield with (hown | hlink) | hlink
  · rw [hnone] at hown
    cases hown
  · exact .inl hlink
  · exact .inr hlink

/-- No name is that of a field and of a relation of a level if no link table has a field with the
name of a relation of the resource to which it leads. -/
theorem Plans.notMem_relations (hplans : visit.Plans catalog depth plan)
    (hresolve : document.resolve = .ok catalog) (hapart : document.LinksApart)
    (htarget : ∀ relation, visit.level.via = some relation →
      catalog.resources.get? relation.target = some visit.level.resource)
    (hfield : name ∈ plan.fields) : name ∉ plan.relations.map Prod.fst := by
  intro hrelation
  have hnone : visit.level.resource.relations.get? name = none := by
    obtain ⟨-, hentry | hlink⟩ := hplans.link_of_mem hresolve hfield hrelation
    · exact hapart.of_linkFieldsFor hresolve hplans.held.resource hentry
    · obtain ⟨relation, link, hvia, htable, hfound⟩ := Level.exists_of_linkFields hlink
      obtain ⟨_, _, outer, houter, hdeclared⟩ := hplans.held.exists_of_via hvia
      exact hapart.of_link hresolve houter hdeclared htable (htarget relation hvia) hfound
  obtain ⟨⟨_, sub⟩, hsub, rfl⟩ := List.mem_map.1 hrelation
  obtain ⟨relation, hsome, -⟩ := hplans.target_of_mem (Document.sound_of_resolve hresolve) hsub
  rw [hnone] at hsome
  cases hsome

end Visit

/-- The selection for a node of a plan lists its fields and its relations; no field stands there
twice, nor does a relation.  A name that is that of a field and of a relation is not one of a field
of the resource, but of a field of a link table; so there is none if no link table has a field with
the name of a relation of the resource to which it leads. -/
theorem Document.query_columns {document : Document} {catalog : Catalog}
    (hresolve : document.resolve = .ok catalog) {resource : String} {target : Target}
    {params : Params} {plan node : Plan} {path : List String}
    (hplan : catalog.plan resource target params = .ok plan)
    (hnode : plan.along? path = some node) (key : Option String) :
    ∃ (visit : Visit) (whole select : Sql.Select),
      catalog.visit? resource target params path = some visit ∧
      visit.level.trace = Text.join '.' (resource :: path) ∧
      visit.level.via = catalog.relationAt? resource target params path ∧
      catalog.resources.get? node.resource = some visit.level.resource ∧
      catalog.query plan key = .ok (.ofPieces key whole.pieces) ∧
      whole.along? path = some select ∧
      select.Lists (node.fields ++ node.relations.map Prod.fst) ∧
      node.fields.Nodup ∧ (node.relations.map Prod.fst).Nodup ∧
      (∀ name ∈ node.fields, name ∈ node.relations.map Prod.fst →
        visit.level.resource.fields.get? name = none ∧
          (((document.linkFieldsFor ⟨node.resource, node.referrer⟩).get? name).isSome ∨
            (visit.level.linkFields.get? name).isSome)) ∧
      (document.LinksApart → (node.fields ++ node.relations.map Prod.fst).Nodup) := by
  have hsound := sound_of_resolve hresolve
  obtain ⟨visit, left, full, hvisit, htrace, hplans, heq⟩ :=
    hsound.exists_plans_of_along? hplan hnode
  obtain ⟨query, hquery⟩ := hsound.exists_query hplan key
  obtain ⟨found, whole, -, hwhole, rfl⟩ := Sql.query_eq_ok_iff.1 hquery
  obtain ⟨select, hselect, hlists⟩ := Sql.Site.exists_along? hwhole hnode
  have hresource : node.resource = visit.level.resource.name :=
    (congrArg (·.resource) heq).trans (hplans.resource_eq hsound)
  have hfields : node.fields = full.fields := congrArg (·.fields) heq
  have hreferrer : node.referrer = full.referrer := congrArg (·.referrer) heq
  have hrelations : node.relations = full.relations := congrArg (·.relations) heq
  have hshared : ∀ name ∈ full.fields, name ∈ full.relations.map Prod.fst → _ :=
    fun name => hplans.link_of_mem hresolve
  refine ⟨visit, whole, select, hvisit, htrace, Visit.via_eq hvisit,
    hresource ▸ hplans.held.resource, hquery, hselect, hlists, ?_⟩
  rw [hfields, hreferrer, hrelations, hresource]
  refine ⟨hplans.nodup_fields hsound, hplans.nodup_relations hsound, hshared, fun hapart => ?_⟩
  refine List.nodup_append.2 ⟨hplans.nodup_fields hsound, hplans.nodup_relations hsound, ?_⟩
  rintro name hfield _ hrelation rfl
  exact hplans.notMem_relations hresolve hapart (fun _ => Visit.target_of_via hvisit) hfield
    hrelation

namespace Sample

/-- Areas with cabins through a link table with one field; cabins have a relation to areas. -/
def linked (field : String) : Document :=
  { resources :=
      [ { name := "area"
          table := "areas"
          fields := .ofList [("id", .uuid)]
          relations := .ofList
            [("cabins", ⟨"cabin", .toMany, "id", "id", some
               { table := "area_cabins", sourceKey := "area_id", targetKey := "cabin_id",
                 fields := .ofList [(field, .string)] }⟩)]
          capabilities := .ofList [("default", { fullFields := ["id"] })] },
        { name := "cabin"
          table := "cabins"
          fields := .ofList [("id", .uuid), ("area_id", .uuid)]
          relations := .ofList [("area", ⟨"area", .toOne, "area_id", "id", none⟩)]
          capabilities := .ofList
            [("default", { fullFields := ["id"] }),
             ("area.cabins", { fullFields := ["id", field], defaultFields := ["*full"],
                               defaultRelations := ["area"] })] } ] }

def linkedCatalog (field : String) : Catalog := (linked field).resolve.toOption.getD {}

def linkedRequest : Params := ⟨.ofList [("fields", .string "id,cabins")]⟩

def linkedPlan (field : String) : Plan :=
  ((linkedCatalog field).plan "area" .list linkedRequest).toOption.getD default

end Sample

/-- A cabin shows its place in the area under a name other than that of the relation to areas. -/
theorem query_columns_cabins :
    ∃ (node : Plan) (whole select : Sql.Select),
      (Sample.linkedPlan "place").along? ["cabins"] = some node ∧
      (Sample.linkedCatalog "place").query (Sample.linkedPlan "place") none =
        .ok (.ofPieces none whole.pieces) ∧
      whole.along? ["cabins"] = some select ∧ select.Lists ["id", "place", "area"] ∧
      (node.fields ++ node.relations.map Prod.fst).Nodup := by
  have hresolve : (Sample.linked "place").resolve = .ok (Sample.linkedCatalog "place") :=
    eq_ok_of_isOk {} (by decide +kernel)
  have hplan : (Sample.linkedCatalog "place").plan "area" .list Sample.linkedRequest =
      .ok (Sample.linkedPlan "place") := eq_ok_of_isOk default (by decide +kernel)
  obtain ⟨node, hnode⟩ : ∃ node, (Sample.linkedPlan "place").along? ["cabins"] = some node :=
    Option.isSome_iff_exists.1 (by decide +kernel)
  have hnames : ((Sample.linkedPlan "place").along? ["cabins"]).map (fun node =>
      node.fields ++ node.relations.map Prod.fst) = some ["id", "place", "area"] := by
    decide +kernel
  rw [hnode, Option.map_some, Option.some.injEq] at hnames
  obtain ⟨visit, whole, select, -, -, -, -, hquery, hselect, hlists, -, -, -, hdistinct⟩ :=
    Document.query_columns hresolve hplan hnode none
  exact ⟨node, whole, select, hnode, hquery, hselect, hnames ▸ hlists,
    hdistinct (by decide +kernel)⟩

/-- A cabin shows a field of the link table and a relation under the same name. -/
theorem query_columns_area :
    (Sample.linked "area").resolve = .ok (Sample.linkedCatalog "area") ∧
      (Sample.linkedCatalog "area").plan "area" .list Sample.linkedRequest =
        .ok (Sample.linkedPlan "area") ∧
      (Sample.linkedPlan "area").errors = [] ∧
      ∃ node, (Sample.linkedPlan "area").along? ["cabins"] = some node ∧
        "area" ∈ node.fields ∧ "area" ∈ node.relations.map Prod.fst ∧
        ¬(node.fields ++ node.relations.map Prod.fst).Nodup := by
  have hfacts : (Sample.linked "area").resolve.isOk = true ∧
      ((Sample.linkedCatalog "area").plan "area" .list Sample.linkedRequest).isOk = true ∧
      (Sample.linkedPlan "area").errors = [] ∧
      ((Sample.linkedPlan "area").along? ["cabins"]).map (fun node =>
        (node.fields, node.relations.map Prod.fst)) = some (["id", "area"], ["area"]) := by
    decide +kernel
  obtain ⟨hresolve, hplan, herrors, hnode⟩ := hfacts
  obtain ⟨node, hnode, hnames⟩ := Option.map_eq_some_iff.1 hnode
  obtain ⟨hfields, hrelations⟩ := Prod.mk.inj hnames
  refine ⟨eq_ok_of_isOk _ hresolve, eq_ok_of_isOk _ hplan, herrors, node, hnode, ?_⟩
  rw [hfields, hrelations]
  decide

end RestQuery
