import RestQuery.Catalog.Document
import RestQuery.Catalog.Error

/-!
# Catalogs

A catalog is what a valid document means: the resources by name, each with its relations and
with the capability that applies for each way of reaching it.

Main statement: `Resource.capability_eq_ok_iff` says which capability entry applies, namely
the first that the resource declares among the names for the way of reaching it and `default`.
-/

namespace RestQuery

/-- The operators that a filter may use; `none` allows every operator of the field's type. -/
structure FilterRule where
  operators : Option (List Operator) := none
  deriving DecidableEq

def FilterRule.allows (rule : FilterRule) (operator : Operator) : Bool :=
  match rule.operators with
  | some allowed => allowed.contains operator
  | none => true

/-- What a caller may do with a resource. -/
structure Capability where
  paged : Bool := false
  defaultLimit : UInt32 := 0
  maxLimit : UInt32 := 0
  ordered : Bool := false
  orderFields : List String := []
  defaultOrder : List (String × Direction) := []
  searchable : Bool := false
  filters : Table FilterRule := .empty
  fullFields : List String := []
  defaultFields : List String := []
  defaultRelations : List String := []
  deriving DecidableEq

/-- The capability for a single item, which is not paged, ordered, searched or filtered. -/
def Capability.forSingleItem (capability : Capability) : Capability :=
  { capability with
    paged := false
    ordered := false
    defaultOrder := []
    searchable := false
    filters := .empty }

structure Relation where
  name : String
  target : String
  kind : RelationKind
  sourceKey : String
  targetKey : String
  link : Option LinkTable := none
  deriving DecidableEq

def Relation.isToOne (relation : Relation) : Bool := relation.kind = .toOne

inductive Referrer where
  /-- As the collection that a request asks for. -/
  | list
  /-- As the single item that a request asks for. -/
  | single
  /-- Through a relation of a resource, which may be the single item. -/
  | nested (parent relation : String) (parentSingle : Bool)
  deriving DecidableEq, Repr

/-- The name of the capability entry for every way of reaching a resource. -/
def defaultReferrer : String := "default"

/-- The names of the capability entries for a way of reaching a resource, the most specific
first. -/
def Referrer.candidates : Referrer → List String
  | list => ["*list"]
  | single => ["*single"]
  | nested parent relation parentSingle =>
    (if parentSingle then [parent ++ ".single." ++ relation] else [])
      ++ [parent ++ "." ++ relation]

structure Resource where
  name : String
  schema : String
  table : String
  id : String
  searchColumn : String
  fields : Table FieldType
  relations : Table Relation
  capabilities : Table Capability
  deriving DecidableEq

namespace Resource

/-- The capability that applies for a way of reaching the resource, and the name of its entry:
the first declared one of the candidates, else the default one. -/
def capability (resource : Resource) (referrer : Referrer) :
    Except CatalogError (String × Capability) :=
  let names := referrer.candidates ++ [defaultReferrer]
  match names.findSome? fun name => (resource.capabilities.get? name).map (name, ·) with
  | some found => .ok found
  | none => .error (.noCapability resource.name referrer.candidates)

/-- The capability is that of the first candidate that the resource declares. -/
theorem capability_eq_ok_iff {resource : Resource} {referrer : Referrer} {name : String}
    {found : Capability} :
    resource.capability referrer = .ok (name, found) ↔
      ∃ passed rest, referrer.candidates ++ [defaultReferrer] = passed ++ name :: rest ∧
        resource.capabilities.get? name = some found ∧
        ∀ other ∈ passed, resource.capabilities.get? other = none := by
  unfold capability
  dsimp only
  constructor
  · intro h
    split at h
    · rename_i pair hfind
      injection h with h
      subst h
      obtain ⟨passed, other, rest, hnames, hsome, hnone⟩ := List.findSome?_eq_some_iff.1 hfind
      obtain ⟨value, hvalue, heq⟩ := Option.map_eq_some_iff.1 hsome
      injection heq with hname hcap
      subst hname; subst hcap
      exact ⟨passed, rest, hnames, hvalue, by simpa using hnone⟩
    · cases h
  · rintro ⟨passed, rest, hnames, hsome, hnone⟩
    have hfind : (referrer.candidates ++ [defaultReferrer]).findSome?
        (fun name => (resource.capabilities.get? name).map (name, ·)) = some (name, found) :=
      List.findSome?_eq_some_iff.2
        ⟨passed, name, rest, hnames, by simp [hsome], by simpa using hnone⟩
    rw [hfind]

/-- An entry for every way of reaching a resource is enough for there to be a capability. -/
theorem capability_isOk {resource : Resource} (referrer : Referrer)
    (h : (resource.capabilities.get? defaultReferrer).isSome) :
    ∃ found, resource.capability referrer = .ok found := by
  obtain ⟨value, hvalue⟩ := Option.isSome_iff_exists.1 h
  unfold capability
  dsimp only
  split
  · exact ⟨_, rfl⟩
  · rename_i hnone
    have := List.findSome?_eq_none_iff.1 hnone defaultReferrer (by simp)
    simp [hvalue] at this

end Resource

structure Catalog where
  resources : Table Resource := .empty
  deriving DecidableEq

namespace Catalog

def resource (catalog : Catalog) (name : String) : Except CatalogError Resource :=
  match catalog.resources.get? name with
  | some found => .ok found
  | none => .error (.unknownResource name)

theorem resource_eq_ok_iff {catalog : Catalog} {name : String} {found : Resource} :
    catalog.resource name = .ok found ↔ catalog.resources.get? name = some found := by
  unfold resource
  split <;> simp_all

/-- The capability of a resource for a way of reaching it. -/
def capability (catalog : Catalog) (name : String) (referrer : Referrer) :
    Except CatalogError (String × Capability) := do
  let resource ← catalog.resource name
  resource.capability referrer

end Catalog

end RestQuery
