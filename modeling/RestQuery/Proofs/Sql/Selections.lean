import RestQuery.Proofs.Outcome
import RestQuery.Sql.Query

/-!
# The selections of plans

The selection for a plan exists when the relations that it shows and those that it
joins are declared, and so are the resources that they lead to.  It then consists of
the selections of the former and the conditions for the latter.

Main statements: `Site.select_eq_ok_iff` and `get?_joins`.
-/

namespace RestQuery.Sql

variable {catalog : Catalog}

namespace Site

variable {site : Site} {filters : List Clause} {name : String} {join : JoinKind}

/-- A relation is followed to the resource that it leads to, if both are there. -/
theorem follow_eq_ok_iff {target : Relation → String} {table : Alias} {relation : Relation}
    {inner : Site} :
    site.follow catalog name target table = .ok (relation, inner) ↔
      site.resource.relations.get? name = some relation ∧
        ∃ resource, catalog.resources.get? (target relation) = some resource ∧
          inner = ⟨resource, table, some relation⟩ := by
  unfold follow
  split
  next found hfound =>
    simp only [bind_eq_ok_iff, Catalog.resource_eq_ok_iff, pure_eq_ok_iff, Prod.mk.injEq,
      hfound, Option.some.injEq]
    constructor
    · rintro ⟨resource, hresource, rfl, rfl⟩
      exact ⟨rfl, resource, hresource, rfl⟩
    · rintro ⟨rfl, resource, hresource, rfl⟩
      exact ⟨resource, hresource, rfl, rfl⟩
  next hnone => simp [hnone]

/-- A link table is joined by one of its columns to one of the table of its source. -/
theorem source_link {link : LinkSource} (hlink : site.source.link = some link) :
    link.on.1.table = .link site.name ∧ link.on.2.table = site.name := by
  obtain ⟨relation, -, hlink⟩ := Option.bind_eq_some_iff.1 hlink
  obtain ⟨table, -, hlink⟩ := Option.bind_eq_some_iff.1 hlink
  obtain rfl := Option.some.inj hlink
  exact ⟨rfl, rfl⟩

theorem conditionList_eq_map (site : Site) (clauses : List Clause) :
    site.conditionList clauses = clauses.map site.condition := by
  induction clauses with
  | nil => rfl
  | cons clause rest ih => rw [conditionList, ih, List.map_cons]

/-! ## Joins -/

/-- The joins of a plan are those that it names, and one for each further relation that
a clause is about. -/
theorem get?_joins (plan : Plan) :
    (joins plan).get? name =
      (plan.joins.get? name).or
        (if name ∈ plan.filters.filterMap relationOf? then some .inner else none) := by
  have hfold : ∀ (names : List String) (table : Table JoinKind),
      (names.foldl (·.insertNew · .inner) table).get? name =
        (table.get? name).or (if name ∈ names then some .inner else none) := by
    intro names
    induction names with
    | nil => simp
    | cons first rest ih =>
        intro table
        rw [List.foldl_cons, ih, Table.get?_insertNew]
        by_cases heq : name = first
        · subst heq
          cases table.get? name <;> simp
        · simp [heq]
  exact hfold _ _

/-- The clauses that the condition for a join takes up. -/
def joinClauses (filters : List Clause) (name : String) : JoinKind → List Clause
  | .inner => filters.filter (relationOf? · = some name)
  | .leftExclusive => []

/-- The condition for a join ties the related rows and takes up the clauses about them. -/
theorem joinCondition_eq_ok_iff {condition : Condition} :
    site.joinCondition catalog filters name join = .ok condition ↔
      ∃ relation joined,
        site.follow catalog name (·.target) (.join site.name name) = .ok (relation, joined) ∧
        condition = .related join joined.source
          (joined.correlation site.name relation ::
            site.conditionList (joinClauses filters name join)) := by
  simp only [joinCondition, bind_eq_ok_iff, pure_eq_ok_iff, Prod.exists]
  simp only [eq_comm (a := condition)]
  cases join <;> rfl

/-! ## Selections -/

variable {depth : Nat} {first : List Condition} {plan : Plan} {select : Select}

/-- The selection for a relation that a plan shows. -/
def Shows (catalog : Catalog) (site : Site) (depth : Nat) (entry : String × Plan)
    (result : String × RelationKind × Select) : Prop :=
  ∃ relation inner,
    site.follow catalog entry.1 (fun _ => entry.2.resource) (.level (depth + 1))
      = .ok (relation, inner) ∧
    ∃ select, inner.select catalog (depth + 1) [inner.correlation site.name relation] entry.2
        = .ok select ∧
      result = (entry.1, relation.kind, select)

/-- Each relation of a plan has a selection, in the order of the plan. -/
theorem selectRelations_eq_ok_iff {relations : List (String × Plan)}
    {below : List (String × RelationKind × Select)} :
    site.selectRelations catalog depth relations = .ok below ↔
      List.Forall₂ (site.Shows catalog depth) relations below := by
  induction relations generalizing below with
  | nil =>
      rw [selectRelations, pure_eq_ok_iff, List.forall₂_nil_left_iff]
      exact eq_comm
  | cons entry rest ih =>
      rw [selectRelations, List.forall₂_cons_left_iff, bind_eq_ok_iff]
      constructor
      · rintro ⟨⟨relation, inner⟩, hfollow, hrest⟩
        simp only [bind_eq_ok_iff, pure_eq_ok_iff, ih] at hrest
        obtain ⟨select, hselect, others, hothers, rfl⟩ := hrest
        exact ⟨_, others, ⟨relation, inner, hfollow, select, hselect, rfl⟩, hothers, rfl⟩
      · rintro ⟨_, others, ⟨relation, inner, hfollow, select, hselect, rfl⟩, hothers, rfl⟩
        refine ⟨(relation, inner), hfollow, ?_⟩
        simp only [bind_eq_ok_iff, pure_eq_ok_iff, ih]
        exact ⟨select, hselect, others, hothers, rfl⟩

/-- What a selection for a plan is made of. -/
theorem select_eq_ok_iff :
    site.select catalog depth first plan = .ok select ↔
      ∃ below related, List.Forall₂ (site.Shows catalog depth) plan.relations below ∧
        List.Forall₂ (fun entry condition =>
            site.joinCondition catalog plan.filters entry.1 entry.2 = .ok condition)
          (joins plan).entries related ∧
        select =
          { outputs := plan.fields.map site.output
            relations := below
            source := site.source
            conditions := first ++ site.conditionList (plan.filters.filter (relationOf? · = none))
              ++ related
            order := site.order plan.order
            limit := plan.limit
            offset := plan.offset } := by
  obtain ⟨resource, referrer, filters, joined, limit, offset, order, fields, relations, errors⟩ :=
    plan
  have hjoins : joins ⟨resource, referrer, filters, joined, limit, offset, order, fields, [],
      errors⟩ = joins ⟨resource, referrer, filters, joined, limit, offset, order, fields,
      relations, errors⟩ := rfl
  simp only [Site.select, bind_eq_ok_iff, pure_eq_ok_iff, selectRelations_eq_ok_iff,
    mapM_eq_ok_iff, hjoins]
  constructor
  · rintro ⟨below, hbelow, related, hrelated, rfl⟩
    exact ⟨below, related, hbelow, hrelated, rfl⟩
  · rintro ⟨below, related, hbelow, hrelated, rfl⟩
    exact ⟨below, hbelow, related, hrelated, rfl⟩

end Site

/-- The conditions at the root of a statement. -/
def keyConditions (resource : Resource) (key : Option String) : List Condition :=
  if key.isSome then [.isKey ⟨.level 0, resource.id⟩] else []

/-- A query is the text of the selection for its plan, at the root. -/
theorem query_eq_ok_iff {plan : Plan} {key : Option String} {query : Query} :
    catalog.query plan key = .ok query ↔
      ∃ resource select, catalog.resources.get? plan.resource = some resource ∧
        Site.select catalog ⟨resource, .level 0, none⟩ 0 (keyConditions resource key) plan
          = .ok select ∧
        query = .ofPieces key select.pieces := by
  simp only [Catalog.query, Sql.select, bind_eq_ok_iff, pure_eq_ok_iff,
    Catalog.resource_eq_ok_iff, keyConditions]
  simp only [eq_comm (a := query)]
  constructor
  · rintro ⟨select, ⟨resource, hresource, hselect⟩, hquery⟩
    exact ⟨resource, select, hresource, hselect, hquery⟩
  · rintro ⟨resource, select, hresource, hselect, hquery⟩
    exact ⟨select, ⟨resource, hresource, hselect⟩, hquery⟩

end RestQuery.Sql
