import RestQuery.Catalog.Basic
import RestQuery.Plan.Basic

/-!
# Statements

The statements that plans turn into: a selection of columns from one table, perhaps with its
link table, in which the rows of relations are selections of their own that refer to the
enclosing ones.
-/

namespace RestQuery.Sql

inductive Alias where
  /-- The table of a level. -/
  | level (depth : Nat)
  /-- The link table of another table. -/
  | link (table : Alias)
  /-- The table of a related resource, in a condition on the rows of another table. -/
  | join (table : Alias) (relation : String)
  deriving DecidableEq, Repr

structure Column where
  table : Alias
  name : String
  deriving DecidableEq, Repr

/-- A link table joined to the table of a source. -/
structure LinkSource where
  schema : String
  table : String
  /-- The column of the link table, and the column of the source's table that it equals. -/
  on : Column × Column
  deriving DecidableEq, Repr

/-- A table under the name by which a statement refers to it, perhaps with its link table. -/
structure Source where
  schema : String
  table : String
  name : Alias
  link : Option LinkSource
  deriving DecidableEq, Repr

inductive Condition where
  /-- The column has the key that the statement is given. -/
  | isKey (column : Column)
  /-- A row belongs to one of an enclosing selection. -/
  | correlation (inner outer : Column)
  | test (check : Check) (column : Option Column) (operands : List Operand)
  | group (connective : Connective) (parts : List Condition)
  /-- A source has, or has not, a row for which conditions hold. -/
  | related (join : JoinKind) (source : Source) (conditions : List Condition)

structure Output where
  column : Column
  /-- Whether the column holds a shape, which is shown as a document. -/
  shape : Bool
  name : String
  deriving DecidableEq, Repr

structure Select where
  outputs : List Output
  /-- The selections that are shown as one value each: name, kind, selection. -/
  relations : List (String × RelationKind × Select)
  source : Source
  conditions : List Condition
  order : List (Column × Direction)
  limit : Option UInt32
  offset : Option UInt32

end RestQuery.Sql
