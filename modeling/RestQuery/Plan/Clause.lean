import RestQuery.Calendar.Moment
import RestQuery.Uuid

/-!
# Clauses

A clause is a condition on rows, independent of any query language: a test of one field
against operands, or several parts of which all or one must hold.  What a clause has no use
for still tells which table it is about: its own field, else the first field of its parts.
-/

namespace RestQuery

/-- The table that a field belongs to. -/
inductive Scope where
  /-- The table of the resource. -/
  | resource
  /-- The link table of the relation through which the resource is reached. -/
  | link
  /-- The table of a related resource. -/
  | relation (name : String)
  deriving DecidableEq, Repr

structure FieldRef where
  scope : Scope
  name : String
  deriving DecidableEq, Repr

/-- The name of a field as a caller would write it. -/
def FieldRef.text (field : FieldRef) : String :=
  match field.scope with
  | .resource => field.name
  | .link => "through." ++ field.name
  | .relation relation => relation ++ "." ++ field.name

inductive Operand where
  | text (s : String)
  | integer (n : Int64)
  | bool (b : Bool)
  | uuid (id : Uuid)
  | datetime (moment : Moment)
  deriving DecidableEq

inductive Check where
  | equals
  | notEquals
  | lessThan
  | lessThanOrEqual
  | greaterThan
  | greaterThanOrEqual
  | between
  | isNull
  | isNotNull
  | inSet
  | notInSet
  /-- The operand occurs in the field, in letters of either case. -/
  | likeContains
  | likePrefix
  | likeSuffix
  /-- The operand differs from the field by more than the case of letters. -/
  | notLike
  /-- The field's text has a character. -/
  | nonEmpty
  /-- The field's text has no character. -/
  | empty
  /-- The field, a search vector, matches the words of the operand. -/
  | fullTextMatch
  deriving DecidableEq, Repr

/-- Whether all or one of several clauses must hold. -/
inductive Connective where
  | all
  | any
  deriving DecidableEq, Repr

/-- What a clause does: it tests its field, or it puts its parts together. -/
inductive ClauseKind where
  | test (check : Check)
  | group (connective : Connective)
  deriving DecidableEq, Repr

structure Clause where
  kind : ClauseKind
  field : Option FieldRef := none
  operands : List Operand := []
  parts : List Clause := []

namespace Clause

def onField (check : Check) (field : FieldRef) (operands : List Operand) : Clause :=
  { kind := .test check, field := some field, operands }

/-- A clause that holds when one of its parts does. -/
def anyOf (parts : List Clause) : Clause := { kind := .group .any, parts }

mutual

/-- The scope of the first field of a clause: its own one, else that of its parts. -/
def scope? : Clause → Option Scope
  | ⟨_, some field, _, _⟩ => some field.scope
  | ⟨_, none, _, parts⟩ => firstScope? parts

def firstScope? : List Clause → Option Scope
  | [] => none
  | part :: rest => part.scope?.or (firstScope? rest)

end

end Clause

end RestQuery
