import RestQuery.Proofs.Plan.Columns
import RestQuery.Proofs.Plan.Nodes

/-!
# Orderings of nodes

The ordering of a node is the one that the caller asks for, if the capability of the node lets
callers ask for one and the value of the control for it is in order; otherwise it is the declared
one.  An ordering that is asked for has at most two entries, by fields which are listed for the
resource, or for the link table of the relation that leads to the node.  A declared ordering is by
fields of the resource, and has as many entries as are declared.

Main statement: `Document.plan_orders`.
-/

namespace RestQuery

/-! ## Orderings that are asked for -/

namespace Visit

variable {catalog : Catalog} {visit : Visit} {entries : List OrderEntry}
  {document : Document} {referrer : String}

/-- The fields by which a caller may order at a level: those of the capability, and those of the
link table of the relation that leads there. -/
def orderFields (visit : Visit) : Order.Fields :=
  ⟨visit.capability.orderFields, (visit.level.link?.map (·.orderFields)).getD []⟩

/-- A caller asks for an ordering, and may ask for one. -/
def AsksFor (visit : Visit) (entries : List OrderEntry) : Prop :=
  visit.capability.ordered = true ∧ ∃ parameter s,
    visit.routed.control? .order = some parameter ∧ parameter.value.single? = some s ∧
      Order.read visit.orderFields s = .ok entries

theorem AsksFor.order_eq (hasks : visit.AsksFor entries) :
    (visit.level.order visit.capability visit.routed).1 = entries := by
  obtain ⟨hordered, parameter, s, hgiven, hsingle, hread⟩ := hasks
  have hvalue : Level.readOrder visit.orderFields parameter = .ok entries :=
    Level.readOrder_eq_ok_iff.2 ⟨s, hsingle, hread⟩
  rw [orderFields] at hvalue
  rw [Level.order, if_pos hordered, hgiven, Level.controlValue, hvalue]

/-- Unless a caller asks for an ordering and may do so, the declared one holds. -/
theorem order_eq_byDefault (hnone : ∀ entries, ¬visit.AsksFor entries) :
    (visit.level.order visit.capability visit.routed).1 =
      Order.byDefault visit.capability.defaultOrder := by
  rw [Level.order]
  split
  next hordered =>
    refine (Level.controlValue_cases _ _ _).resolve_right ?_
    rintro ⟨parameter, hgiven, hvalue⟩
    obtain ⟨s, hsingle, hread⟩ := Level.readOrder_eq_ok_iff.1 hvalue
    exact hnone _ ⟨hordered, parameter, s, hgiven, hsingle, hread⟩
  next => rfl

theorem AsksFor.length_le (hasks : visit.AsksFor entries) :
    entries.length ≤ Order.maxEntries := by
  obtain ⟨-, -, s, -, -, hread⟩ := hasks
  exact Order.length_le_of_read hread

/-- Callers order by fields that are offered to them, or by those of the link table. -/
theorem AsksFor.mem (hasks : visit.AsksFor entries) {entry : OrderEntry}
    (hentry : entry ∈ entries) :
    (entry.field.scope = .resource ∧ entry.field.name ∈ visit.capability.orderFields) ∨
      (entry.field.scope = .link ∧ ∃ link, visit.level.link? = some link ∧
        entry.field.name ∈ link.orderFields) := by
  obtain ⟨-, -, s, -, -, hread⟩ := hasks
  rcases Order.mem_fields_of_read hread hentry with hresource | ⟨hscope, hname⟩
  · exact .inl hresource
  · cases hlink : visit.level.link? with
    | none => simp [orderFields, hlink] at hname
    | some link => exact .inr ⟨hscope, link, rfl, by simpa [orderFields, hlink] using hname⟩

theorem mem_byDefault (hheld : visit.level.Held catalog)
    (hresolve : document.resolve = .ok catalog)
    (hcapability : visit.level.capability = .ok (referrer, visit.capability)) {entry : OrderEntry}
    (hentry : entry ∈ Order.byDefault visit.capability.defaultOrder) :
    entry.field.scope = .resource ∧
      (visit.level.resource.fields.get? entry.field.name).isSome := by
  obtain ⟨key, hkey, rfl⟩ := List.mem_map.1 hentry
  exact ⟨rfl, (hheld.declared_of_capability hresolve hcapability).defaultOrder key hkey⟩

end Visit

/-! ## Plans of requests -/

/-- An ordering that is asked for and permitted is that of the node, has at most two entries, and is
by listed fields of the resource or of the link table of the relation that leads to the node.
Otherwise the ordering is the declared one, which is by fields of the resource; so it has more than
two entries only if that many are declared. -/
theorem Document.plan_orders {document : Document} {catalog : Catalog}
    (hresolve : document.resolve = .ok catalog) {resource : String} {target : Target}
    {params : Params} {plan node : Plan} {path : List String}
    (hplan : catalog.plan resource target params = .ok plan)
    (hnode : plan.along? path = some node) :
    ∃ visit, catalog.visit? resource target params path = some visit ∧
      visit.level.trace = Text.join '.' (resource :: path) ∧
      visit.level.via = catalog.relationAt? resource target params path ∧
      catalog.resources.get? node.resource = some visit.level.resource ∧
      visit.level.capability = .ok (node.referrer, visit.capability) ∧
      (∀ entries, visit.AsksFor entries →
        node.order = entries ∧ entries.length ≤ Order.maxEntries ∧
        ∀ entry ∈ entries,
          (entry.field.scope = .resource ∧ entry.field.name ∈ visit.capability.orderFields) ∨
            (entry.field.scope = .link ∧ ∃ link, visit.level.link? = some link ∧
              entry.field.name ∈ link.orderFields)) ∧
      ((∀ entries, ¬visit.AsksFor entries) →
        node.order = Order.byDefault visit.capability.defaultOrder ∧
        ∀ entry ∈ node.order, entry.field.scope = .resource ∧
          (visit.level.resource.fields.get? entry.field.name).isSome) ∧
      (node.order.length ≤ Order.maxEntries ↔
        (∃ entries, visit.AsksFor entries) ∨
          visit.capability.defaultOrder.length ≤ Order.maxEntries) := by
  obtain ⟨visit, depthErrors, relations, hvisit, htrace, hheld, hcapability, heq⟩ :=
    (sound_of_resolve hresolve).exists_node hplan hnode
  have horder : node.order = (visit.level.order visit.capability visit.routed).1 :=
    congrArg (·.order) heq
  have hresource : node.resource = visit.level.resource.name := congrArg (·.resource) heq
  refine ⟨visit, hvisit, htrace, Visit.via_eq hvisit, hresource ▸ hheld.resource, hcapability,
    fun entries hasks => ⟨horder.trans hasks.order_eq, hasks.length_le, fun _ => hasks.mem⟩,
    fun hnone => ?_, ?_⟩
  · rw [horder, Visit.order_eq_byDefault hnone]
    exact ⟨rfl, fun _ => Visit.mem_byDefault hheld hresolve hcapability⟩
  · by_cases hsome : ∃ entries, visit.AsksFor entries
    · obtain ⟨entries, hasks⟩ := hsome
      rw [horder, hasks.order_eq]
      exact iff_of_true hasks.length_le (.inl ⟨entries, hasks⟩)
    · have hnone := not_exists.1 hsome
      rw [horder, Visit.order_eq_byDefault hnone, Order.byDefault, List.length_map]
      exact (or_iff_right hsome).symm

namespace Sample

/-- Areas with the cabins that a link table gives them, in places of its own. -/
def ordered (declared : List String) : Document :=
  { resources :=
      [ { name := "area"
          table := "areas"
          fields := .ofList [("id", .uuid)]
          relations := .ofList
            [("cabins", ⟨"cabin", .toMany, "id", "id", some
               { table := "area_cabins", sourceKey := "area_id", targetKey := "cabin_id",
                 fields := .ofList [("place", .number)], orderFields := ["place"] }⟩)]
          capabilities := .ofList
            [("default", { fullFields := ["id"], defaultRelations := ["cabins"] })] },
        { name := "cabin"
          table := "cabins"
          fields := .ofList [("id", .uuid), ("name", .string), ("beds", .number)]
          capabilities := .ofList
            [("default", { order := some { fields := ["name"], default := declared }
                           fullFields := ["id"] })] } ] }

def orderedCatalog (declared : List String) : Catalog :=
  (ordered declared).resolve.toOption.getD {}

def orderedRequest : Params := ⟨.ofList [("cabins.order", .string " Place DESC, name asc ")]⟩

end Sample

/-- Cabins within an area are ordered by a field of the link table. -/
theorem plan_orders_cabins :
    ∃ plan node,
      (Sample.orderedCatalog ["beds desc"]).plan "area" .list Sample.orderedRequest = .ok plan ∧
      plan.along? ["cabins"] = some node ∧ plan.errors = [] ∧
      node.order = [⟨⟨.link, "place"⟩, .descending⟩, ⟨⟨.resource, "name"⟩, .ascending⟩] ∧
      node.order.length ≤ Order.maxEntries := by
  have hresolve : (Sample.ordered ["beds desc"]).resolve =
      .ok (Sample.orderedCatalog ["beds desc"]) := eq_ok_of_isOk {} (by decide +kernel)
  have hplan : (Sample.orderedCatalog ["beds desc"]).plan "area" .list Sample.orderedRequest =
      .ok (((Sample.orderedCatalog ["beds desc"]).plan "area" .list
        Sample.orderedRequest).toOption.getD default) := eq_ok_of_isOk default (by decide +kernel)
  obtain ⟨node, hnode⟩ : ∃ node, (((Sample.orderedCatalog ["beds desc"]).plan "area" .list
      Sample.orderedRequest).toOption.getD default).along? ["cabins"] = some node :=
    Option.isSome_iff_exists.1 (by decide +kernel)
  obtain ⟨visit, hvisit, -, -, -, -, hasked, -⟩ := Document.plan_orders hresolve hplan hnode
  have hfacts : ((Sample.orderedCatalog ["beds desc"]).visit? "area" .list Sample.orderedRequest
      ["cabins"]).map (fun visit => (visit.capability.ordered, visit.orderFields.resource,
        visit.orderFields.link, (visit.routed.control? .order).map (·.value))) =
      some (true, ["name"], ["place"], some (.text "Place DESC, name asc")) := by decide +kernel
  rw [hvisit, Option.map_some] at hfacts
  simp only [Option.some.injEq, Prod.mk.injEq, Option.map_eq_some_iff] at hfacts
  obtain ⟨hordered, hresource, hlink, parameter, hgiven, hvalue⟩ := hfacts
  have hfields : visit.orderFields = ⟨["name"], ["place"]⟩ := hresource ▸ hlink ▸ rfl
  have hread : Order.read visit.orderFields "Place DESC, name asc" =
      .ok [⟨⟨.link, "place"⟩, .descending⟩, ⟨⟨.resource, "name"⟩, .ascending⟩] := by
    rw [hfields]
    decide +kernel
  obtain ⟨horder, hlength, -⟩ :=
    hasked _ ⟨hordered, parameter, _, hgiven, by rw [hvalue]; rfl, hread⟩
  exact ⟨_, node, hplan, hnode, by decide +kernel, horder, horder ▸ hlength⟩

/-- Cabins are ordered by three fields if that many are declared and callers ask for no ordering. -/
theorem plan_orders_three :
    (Sample.ordered ["beds desc", "name asc", "id asc"]).resolve =
        .ok (Sample.orderedCatalog ["beds desc", "name asc", "id asc"]) ∧
      ∃ plan, (Sample.orderedCatalog ["beds desc", "name asc", "id asc"]).plan "cabin" .list {} =
          .ok plan ∧ plan.errors = [] ∧ ¬plan.order.length ≤ Order.maxEntries := by
  have hfacts : (Sample.ordered ["beds desc", "name asc", "id asc"]).resolve.isOk = true ∧
      ((Sample.orderedCatalog ["beds desc", "name asc", "id asc"]).plan "cabin" .list {}).isOk =
        true ∧
      (((Sample.orderedCatalog ["beds desc", "name asc", "id asc"]).plan "cabin" .list
        {}).toOption.getD default).errors = [] ∧
      (((Sample.orderedCatalog ["beds desc", "name asc", "id asc"]).plan "cabin" .list
        {}).toOption.getD default).order.length = 3 := by decide +kernel
  obtain ⟨hresolve, hplan, herrors, hlength⟩ := hfacts
  refine ⟨eq_ok_of_isOk _ hresolve, _, eq_ok_of_isOk _ hplan, herrors, ?_⟩
  rw [hlength]
  decide

end RestQuery
