import RestQuery.Catalog.Kind
import RestQuery.Table

/-!
# Catalog documents

A catalog document declares resources: the table of each, its fields and relations, and what
a caller may do with it when it is reached in a certain way.  The types here hold a document
as written, with the values that an absent member stands for as defaults.
-/

namespace RestQuery

/-- A table between the two sides of a relation, with columns of its own. -/
structure LinkTable where
  table : String
  /-- The column that points at the owning row. -/
  sourceKey : String
  /-- The column that points at the related row. -/
  targetKey : String
  fields : Table FieldType := .empty
  /-- The fields by which related rows may be ordered. -/
  orderFields : List String := []
  deriving DecidableEq

structure RelationDecl where
  target : String
  kind : RelationKind
  sourceKey : String
  targetKey : String
  link : Option LinkTable := none
  deriving DecidableEq

structure PageDecl where
  enabled : Bool := true
  defaultLimit : UInt32 := 10
  maxLimit : UInt32 := 50
  deriving DecidableEq

structure OrderDecl where
  enabled : Bool := true
  fields : List String := []
  /-- Entries as in a request, such as `name asc`. -/
  default : List String := []
  deriving DecidableEq

/-- The declaration of a filter: its operators, or all of them. -/
structure FilterDecl where
  operators : Option (List Operator) := none
  deriving DecidableEq

structure CapabilityDecl where
  page : Option PageDecl := none
  order : Option OrderDecl := none
  search : Bool := false
  filters : Table FilterDecl := .empty
  fullFields : List String := []
  /-- Names, the word for all full fields, and names to remove. -/
  defaultFields : List String := []
  defaultRelations : List String := []
  deriving DecidableEq

structure ResourceDecl where
  name : String
  table : String
  schema : String := "public"
  id : String := "id"
  searchColumn : String := "search_document"
  fields : Table FieldType
  relations : Table RelationDecl := .empty
  /-- By the way in which the resource is reached. -/
  capabilities : Table CapabilityDecl := .empty
  deriving DecidableEq

structure Document where
  resources : List ResourceDecl := []
  deriving DecidableEq

def Document.find? (document : Document) (name : String) : Option ResourceDecl :=
  document.resources.find? (·.name == name)

end RestQuery
