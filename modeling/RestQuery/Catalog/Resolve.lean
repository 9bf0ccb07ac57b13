import RestQuery.Catalog.Check
import RestQuery.Catalog.Reader

/-!
# From documents to catalogs

A document without a fault becomes a catalog: absent declarations turn into disabled
capabilities, default orderings are read, and a capability entry without defaults shows every
full field.
-/

namespace RestQuery

/-- The operators of a rule: each once, in the order of declaration. -/
def FilterDecl.rule (filter : FilterDecl) : FilterRule :=
  ⟨filter.operators.map fun listed => Operator.all.filter (listed.contains ·)⟩

/-- An entry of a default ordering: a field and a direction. -/
def Entry.readDefaultOrder (entry : Entry) (token : String) :
    Except CatalogError (String × Direction) :=
  match Text.words token with
  | [field, word] =>
    match Direction.read? word with
    | some direction => .ok (field, direction)
    | none => .error (.invalid (.defaultOrderDirection entry token))
  | _ => .error (.invalid (.defaultOrder entry token))

def CapabilityDecl.resolve (capability : CapabilityDecl) (entry : Entry) :
    Except CatalogError Capability := do
  let order := capability.order.getD ⟨false, [], []⟩
  let page := capability.page.getD ⟨false, 0, 0⟩
  let defaultOrder ← order.default.mapM entry.readDefaultOrder
  return {
    paged := page.enabled
    defaultLimit := page.defaultLimit
    maxLimit := page.maxLimit
    ordered := order.enabled
    orderFields := order.fields
    defaultOrder
    searchable := capability.search
    filters := capability.filters.map FilterDecl.rule
    fullFields := capability.fullFields
    defaultFields :=
      if capability.defaultFields.isEmpty && capability.defaultRelations.isEmpty then [fullWord]
      else capability.defaultFields
    defaultRelations := capability.defaultRelations }

def RelationDecl.resolve (name : String) (relation : RelationDecl) : Relation :=
  { name, target := relation.target, kind := relation.kind, sourceKey := relation.sourceKey,
    targetKey := relation.targetKey, link := relation.link }

def ResourceDecl.resolve (resource : ResourceDecl) : Except CatalogError Resource := do
  let capabilities ← resource.capabilities.entries.mapM fun (referrer, capability) => do
    return (referrer, ← capability.resolve ⟨resource.name, referrer⟩)
  return {
    name := resource.name
    schema := resource.schema
    table := resource.table
    id := resource.id
    searchColumn := resource.searchColumn
    fields := resource.fields
    relations := resource.relations.mapEntries RelationDecl.resolve
    capabilities := .ofList capabilities }

/-- What a document means, unless it has a fault. -/
def Document.resolve (document : Document) : Except CatalogError Catalog :=
  match document.fault? with
  | some fault => .error fault
  | none => do
    let resources ← document.resources.mapM fun resource => do
      return (resource.name, ← resource.resolve)
    return ⟨.ofList resources⟩

inductive Source where
  | text (text : String)
  /-- Resources that are given one by one. -/
  | payloads (resources : List Json)
  /-- A file with its contents, if there is one. -/
  | file (path : String) (contents : Option String)

def Source.document : Source → Except CatalogError Document
  | text contents => Document.ofText contents
  | payloads resources => Document.ofPayloads resources
  | file _ (some contents) => Document.ofText contents
  | file path none => .error (.load (.missingFile path))

def Source.catalog (source : Source) : Except CatalogError Catalog := do
  let document ← source.document
  document.resolve

end RestQuery
