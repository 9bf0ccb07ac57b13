import RestQuery.Plan.Level

/-!
# From requests to plans

The plan of a level consists of the clauses of its filters and the plans of the relations that
it shows or that parameters reach into.  Relations are followed to a fixed depth.  Below it, a
relation that is shown by default is left out; one that the caller asks for is an error.
-/

namespace RestQuery

def maxDepth : Nat := 3

namespace Level

/-- What filters have become. -/
structure Applied where
  clauses : List Clause := []
  joins : Table JoinKind := .empty
  errors : List RequestError := []

namespace Applied

/-- Adds the outcome of a filter on the existence of related rows.  That there must be none
outweighs that there has to be one. -/
def addExistence (applied : Applied) (relation : Relation) (join : JoinKind)
    (clauses : List Clause) : Applied :=
  { applied with
    clauses := applied.clauses ++ clauses
    joins := match join with
      | .leftExclusive => applied.joins.insert relation.name .leftExclusive
      | .inner => applied.joins.insertNew relation.name .inner }

/-- Adds the clauses of a filter on a field; a field of a related row needs one. -/
def addField (applied : Applied) (field : FieldRef) (clauses : List Clause) : Applied :=
  { applied with
    clauses := applied.clauses ++ clauses
    joins := match field.scope with
      | .relation name => applied.joins.insertNew name .inner
      | _ => applied.joins }

def refuse (applied : Applied) (errors : List RequestError) : Applied :=
  { applied with errors := applied.errors ++ errors }

def add (applied : Applied) (filter : Filter) : Applied :=
  match filter.subject with
  | .field field type =>
    match Filter.compile type field filter.rule filter.parameter.value with
    | .ok clauses => applied.addField field clauses
    | .error problems => applied.refuse (problems.map filter.parameter.error)
  | .existence relation =>
    let compiled := do
      let value ← filter.parameter.single
      (Filter.compileExistence relation filter.rule value).mapError filter.parameter.error
    match compiled with
    | .ok (join, clauses) => applied.addExistence relation join clauses
    | .error error => applied.refuse [error]

def addSearch (applied : Applied) (column : String) (parameter : Parameter) : Applied :=
  match parameter.single with
  | .ok words => { applied with clauses := applied.clauses ++ Filter.compileSearch column words }
  | .error error => applied.refuse [error]

end Applied

def Reading.apply (reading : Reading) (level : Level) : Applied :=
  let applied := reading.filters.foldl Applied.add {}
  match reading.search with
  | some parameter => applied.addSearch level.resource.searchColumn parameter
  | none => applied

/-- The relations that a level shows or that parameters reach into, in the order of their
names, each with the parameters for its own level. -/
def Reading.below (reading : Reading) (level : Level) :
    List (String × Relation × Option Params) :=
  let wanted := Table.ofList ((reading.projection.relations ++ reading.nested.keys).map (·, ()))
  wanted.keys.filterMap fun name =>
    (level.resource.relations.get? name).map (name, ·, reading.nested.get? name)

/-- The errors of a level at the greatest depth: its relations that the caller asks for. -/
def Reading.tooDeep (reading : Reading) (level : Level) : List RequestError :=
  (reading.below level).filterMap fun (name, _, params) =>
    if params.isSome || reading.named.contains name then
      some ⟨level.trace ++ "." ++ name, .tooDeep maxDepth⟩
    else none

/-- The plan of a level, given the plans of its relations; their errors move up. -/
def Reading.plan (reading : Reading) (level : Level) (depthErrors : List RequestError)
    (relations : List (String × Plan)) : Plan :=
  let applied := reading.apply level
  { resource := level.resource.name
    referrer := reading.entry
    filters := applied.clauses
    joins := applied.joins
    limit := reading.limit
    offset := reading.offset
    order := reading.order
    fields := reading.projection.fields
    relations := relations.map fun (name, plan) => (name, { plan with errors := [] })
    errors := reading.errors ++ depthErrors ++ applied.errors
      ++ relations.flatMap fun (_, plan) => plan.errors }

/-- The plan of a level from which so many more relations may be followed. -/
def planWithin (catalog : Catalog) : Nat → Level → Params → Except CatalogError Plan
  | 0, level, params => do
    let reading ← level.read catalog params
    return reading.plan level (reading.tooDeep level) []
  | depth + 1, level, params => do
    let reading ← level.read catalog params
    let relations ← (reading.below level).mapM fun (name, relation, nested) => do
      let child ← level.child catalog relation
      return (name, ← planWithin catalog depth child (nested.getD {}))
    return reading.plan level [] relations

end Level

def Catalog.plan (catalog : Catalog) (resource : String) (target : Target) (params : Params) :
    Except CatalogError Plan := do
  let level ← Level.root catalog resource target
  level.planWithin catalog maxDepth params

end RestQuery
