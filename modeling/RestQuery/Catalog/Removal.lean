import RestQuery.Catalog.Basic

/-!
# Removing parts of a catalog

A deployment can take a resource, a relation, a field or a capability entry out of a catalog
that was checked as a whole.  What is not there is ignored.
-/

namespace RestQuery

def Table.modify (table : Table α) (key : String) (f : α → α) : Table α :=
  table.mapEntries fun other value => if other = key then f value else value

namespace Catalog

def modify (catalog : Catalog) (name : String) (change : Resource → Resource) : Catalog :=
  ⟨catalog.resources.modify name change⟩

def withoutResource (catalog : Catalog) (name : String) : Catalog :=
  ⟨catalog.resources.erase name⟩

def withoutCapability (catalog : Catalog) (name referrer : String) : Catalog :=
  catalog.modify name fun resource =>
    { resource with capabilities := resource.capabilities.erase referrer }

def withoutRelation (catalog : Catalog) (name relation : String) : Catalog :=
  catalog.modify name fun resource =>
    { resource with relations := resource.relations.erase relation }

def withoutField (catalog : Catalog) (name field : String) : Catalog :=
  catalog.modify name fun resource => { resource with fields := resource.fields.erase field }

end Catalog

end RestQuery
