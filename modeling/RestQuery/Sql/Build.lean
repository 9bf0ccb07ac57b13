import RestQuery.Sql.Select

/-!
# From plans to statements

Each level of a plan becomes a selection from its resource's table.  A relation that the plan
shows becomes a selection inside it; relations that filters are about become conditions on
related rows, one for each relation.
-/

namespace RestQuery.Sql

structure Site where
  resource : Resource
  /-- The name by which the statement refers to the table. -/
  name : Alias
  /-- The relation that leads here. -/
  via : Option Relation

namespace Site

def link? (site : Site) : Option LinkTable := site.via.bind (·.link)

def column (site : Site) (field : FieldRef) : Column :=
  match field.scope with
  | .resource => ⟨site.name, field.name⟩
  | .link => ⟨.link site.name, field.name⟩
  | .relation name => ⟨.join site.name name, field.name⟩

def source (site : Site) : Source :=
  { schema := site.resource.schema
    table := site.resource.table
    name := site.name
    link := do
      let relation ← site.via
      let link ← relation.link
      return {
        schema := site.resource.schema
        table := link.table
        on := (⟨.link site.name, link.targetKey⟩, ⟨site.name, relation.targetKey⟩) } }

/-- The condition that ties the rows of a relation to a row of an enclosing table. -/
def correlation (site : Site) (outer : Alias) (relation : Relation) : Condition :=
  match relation.link with
  | some link => .correlation ⟨.link site.name, link.sourceKey⟩ ⟨outer, relation.sourceKey⟩
  | none => .correlation ⟨site.name, relation.targetKey⟩ ⟨outer, relation.sourceKey⟩

def follow (catalog : Catalog) (site : Site) (relation : String) (target : Relation → String)
    (name : Alias) : Except CatalogError (Relation × Site) :=
  match site.resource.relations.get? relation with
  | some found => do
    let resource ← catalog.resource (target found)
    return (found, ⟨resource, name, some found⟩)
  | none => .error (.missing (.relation site.resource.name relation))

/-- The output for a field: one of the resource, else one of the link table. -/
def output (site : Site) (name : String) : Output :=
  match site.resource.fields.get? name with
  | some type => ⟨⟨site.name, name⟩, type = .geometry, name⟩
  | none =>
    let type := site.link?.bind (·.fields.get? name)
    ⟨⟨.link site.name, name⟩, type = some .geometry, name⟩

/-! ## Conditions -/

mutual

/-- The condition for a clause.  The parts of a test and the field of a group are no part
of it. -/
def condition (site : Site) : Clause → Condition
  | ⟨.test check, field, operands, _⟩ => .test check (field.map site.column) operands
  | ⟨.group connective, _, _, parts⟩ => .group connective (site.conditionList parts)

def conditionList (site : Site) : List Clause → List Condition
  | [] => []
  | part :: rest => site.condition part :: site.conditionList rest

end

/-- The relation that a clause is about: that of its first field. -/
def relationOf? (clause : Clause) : Option String :=
  match clause.scope? with
  | some (.relation name) => some name
  | _ => none

/-- The joins of a plan and of the relations that its clauses are about. -/
def joins (plan : Plan) : Table JoinKind :=
  (plan.filters.filterMap relationOf?).foldl (·.insertNew · .inner) plan.joins

/-- The condition for a join.  Where there must be no related row, what the clauses say about
it does not matter. -/
def joinCondition (catalog : Catalog) (site : Site) (filters : List Clause) (name : String)
    (join : JoinKind) : Except CatalogError Condition := do
  let (relation, joined) ← site.follow catalog name (·.target) (.join site.name name)
  let tests := match join with
    | .inner => site.conditionList (filters.filter (relationOf? · = some name))
    | .leftExclusive => []
  return .related join joined.source (joined.correlation site.name relation :: tests)

def order (site : Site) (entries : List OrderEntry) : List (Column × Direction) :=
  let key : FieldRef := ⟨.resource, site.resource.id⟩
  entries.map (fun entry => (site.column entry.field, entry.direction))
    ++ if entries.any (·.field = key) then [] else [(site.column key, .ascending)]

end Site

mutual

def Site.select (catalog : Catalog) (site : Site) (depth : Nat) (first : List Condition) :
    Plan → Except CatalogError Select
  | ⟨resource, referrer, filters, joins, limit, offset, order, fields, relations, errors⟩ => do
    let below ← site.selectRelations catalog depth relations
    let plan : Plan :=
      ⟨resource, referrer, filters, joins, limit, offset, order, fields, [], errors⟩
    let plain := site.conditionList (filters.filter (Site.relationOf? · = none))
    let related ← (Site.joins plan).entries.mapM fun (name, join) =>
      site.joinCondition catalog filters name join
    return {
      outputs := fields.map site.output
      relations := below
      source := site.source
      conditions := first ++ plain ++ related
      order := site.order order
      limit
      offset }

def Site.selectRelations (catalog : Catalog) (site : Site) (depth : Nat) :
    List (String × Plan) → Except CatalogError (List (String × RelationKind × Select))
  | [] => return []
  | (name, plan) :: rest => do
    let (relation, inner) ← site.follow catalog name (fun _ => plan.resource) (.level (depth + 1))
    let select ← inner.select catalog (depth + 1) [inner.correlation site.name relation] plan
    return (name, relation.kind, select) :: (← site.selectRelations catalog depth rest)

end

/-- The statement for a plan; one for a key has a condition on it. -/
def select (catalog : Catalog) (plan : Plan) (keyed : Bool) : Except CatalogError Select := do
  let resource ← catalog.resource plan.resource
  let site : Site := ⟨resource, .level 0, none⟩
  site.select catalog 0 (if keyed then [.isKey ⟨.level 0, resource.id⟩] else []) plan

end RestQuery.Sql
