import RestQuery.Catalog.Kind
import RestQuery.Plan.Clause
import RestQuery.Request.Error
import RestQuery.Table

/-!
# Query plans

A plan says which rows and which of their fields a request is about, level by level: a
relation that the answer shows has a plan of its own.
-/

namespace RestQuery

/-- How related rows decide on a row. -/
inductive JoinKind where
  /-- There has to be a related row. -/
  | inner
  /-- There must not be a related row. -/
  | leftExclusive
  deriving DecidableEq, Repr

structure OrderEntry where
  field : FieldRef
  direction : Direction
  deriving DecidableEq, Repr

/-- A plan for one level of a request, with the plans of the levels below it. -/
structure Plan where
  resource : String
  /-- The name of the capability entry that the plan was made under. -/
  referrer : String := ""
  filters : List Clause := []
  joins : Table JoinKind := .empty
  limit : Option UInt32 := none
  offset : Option UInt32 := none
  order : List OrderEntry := []
  fields : List String := []
  /-- The plans of relations, in the order of their names. -/
  relations : List (String × Plan) := []
  /-- The problems of this level and of those below it; a level below keeps none itself. -/
  errors : List RequestError := []

namespace Plan

instance : Inhabited Plan := ⟨{ resource := "" }⟩

def isValid (plan : Plan) : Bool := plan.errors.isEmpty

mutual

def depth : Plan → Nat
  | ⟨_, _, _, _, _, _, _, _, relations, _⟩ => deepest relations

/-- The number of levels that plans for relations take. -/
def deepest : List (String × Plan) → Nat
  | [] => 0
  | (_, plan) :: rest => max (plan.depth + 1) (deepest rest)

end

end Plan

end RestQuery
