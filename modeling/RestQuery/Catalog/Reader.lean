import RestQuery.Catalog.Document
import RestQuery.Catalog.Error
import RestQuery.Json.Value

/-!
# Reading catalog documents

A record is written as an object or as an array of its members in their order.  An object may
hold further members, which are ignored, but no member of the record twice; an array may leave
out members at its end.  A kind is written as its name or as an object with the name as its
only key and null as its value.  In a table the last of several members with one key stays.
-/

namespace RestQuery

namespace Json.Raw

/-! ## Parts of a document -/

/-- The members of a record with these names that a document gives. -/
def record? (names : List String) : Raw → Option (List (String × Raw))
  | .object members => do
    let named ← members.mapM fun member => member.1.map (·, member.2)
    let known := named.filter (names.contains ·.1)
    if (known.map Prod.fst).Nodup then some known else none
  | .array items => if items.length ≤ names.length then some (names.zip items) else none
  | _ => none

def text? : Raw → Option String
  | .string s => s
  | _ => none

def bool? : Raw → Option Bool
  | .bool b => some b
  | _ => none

/-- A natural number of 32 bits. -/
def word? : Raw → Option UInt32
  | .number (some (.integer n)) =>
    if 0 ≤ n ∧ n < UInt32.size then some (UInt32.ofNat n.toNat) else none
  | _ => none

def list? (read : Raw → Option α) : Raw → Option (List α)
  | .array items => items.mapM read
  | _ => none

def table? (read : Raw → Option α) : Raw → Option (Table α)
  | .object members => do
    let entries ← members.mapM fun member => do
      let key ← member.1
      let value ← read member.2
      return (key, value)
    return .ofList entries
  | _ => none

def nullable? (read : Raw → Option α) : Raw → Option (Option α)
  | .null => some none
  | raw => (read raw).map some

def kind? (ofName? : String → Option α) : Raw → Option α
  | .string (some name) => ofName? name
  | .object [(some name, .null)] => ofName? name
  | _ => none

end Json.Raw

open Json (Raw)

/-- A member that has to be there. -/
def required (members : List (String × Raw)) (name : String) (read : Raw → Option α) : Option α :=
  (members.lookup name).bind read

/-- A member that stands for a default when it is absent. -/
def optional (members : List (String × Raw)) (name : String) (read : Raw → Option α)
    (default : α) : Option α :=
  match members.lookup name with
  | some raw => read raw
  | none => some default

/-! ## Declarations -/

def LinkTable.read? (raw : Raw) : Option LinkTable := do
  let members ← raw.record? ["table", "source_key", "target_key", "fields", "order_fields"]
  let table ← required members "table" Raw.text?
  let sourceKey ← required members "source_key" Raw.text?
  let targetKey ← required members "target_key" Raw.text?
  let fields ← optional members "fields" (Raw.table? (Raw.kind? FieldType.ofName?)) .empty
  let orderFields ← optional members "order_fields" (Raw.list? Raw.text?) []
  return { table, sourceKey, targetKey, fields, orderFields }

def RelationDecl.read? (raw : Raw) : Option RelationDecl := do
  let members ← raw.record? ["target", "kind", "source_key", "target_key", "through"]
  let target ← required members "target" Raw.text?
  let kind ← required members "kind" (Raw.kind? RelationKind.ofName?)
  let sourceKey ← required members "source_key" Raw.text?
  let targetKey ← required members "target_key" Raw.text?
  let link ← optional members "through" (Raw.nullable? LinkTable.read?) none
  return { target, kind, sourceKey, targetKey, link }

def PageDecl.read? (raw : Raw) : Option PageDecl := do
  let members ← raw.record? ["enabled", "default_limit", "max_limit"]
  let enabled ← optional members "enabled" Raw.bool? true
  let defaultLimit ← optional members "default_limit" Raw.word? 10
  let maxLimit ← optional members "max_limit" Raw.word? 50
  return { enabled, defaultLimit, maxLimit }

def OrderDecl.read? (raw : Raw) : Option OrderDecl := do
  let members ← raw.record? ["enabled", "fields", "default"]
  let enabled ← optional members "enabled" Raw.bool? true
  let fields ← optional members "fields" (Raw.list? Raw.text?) []
  let default ← optional members "default" (Raw.list? Raw.text?) []
  return { enabled, fields, default }

def FilterDecl.read? (raw : Raw) : Option FilterDecl := do
  let members ← raw.record? ["operators"]
  let operators ← optional members "operators"
    (Raw.nullable? (Raw.list? (Raw.kind? Operator.ofName?))) none
  return { operators }

def CapabilityDecl.read? (raw : Raw) : Option CapabilityDecl := do
  let members ← raw.record?
    ["pagination", "ordering", "full_text_search", "filters", "full_fields", "default_fields",
      "default_relations"]
  let page ← optional members "pagination" (Raw.nullable? PageDecl.read?) none
  let order ← optional members "ordering" (Raw.nullable? OrderDecl.read?) none
  let search ← optional members "full_text_search" Raw.bool? false
  let filters ← optional members "filters" (Raw.table? FilterDecl.read?) .empty
  let fullFields ← optional members "full_fields" (Raw.list? Raw.text?) []
  let defaultFields ← optional members "default_fields" (Raw.list? Raw.text?) []
  let defaultRelations ← optional members "default_relations" (Raw.list? Raw.text?) []
  return { page, order, search, filters, fullFields, defaultFields, defaultRelations }

def ResourceDecl.read? (raw : Raw) : Option ResourceDecl := do
  let members ← raw.record?
    ["name", "table", "schema", "id", "search_column", "fields", "relations", "capabilities"]
  let name ← required members "name" Raw.text?
  let table ← required members "table" Raw.text?
  let schema ← optional members "schema" Raw.text? "public"
  let id ← optional members "id" Raw.text? "id"
  let searchColumn ← optional members "search_column" Raw.text? "search_document"
  let fields ← required members "fields" (Raw.table? (Raw.kind? FieldType.ofName?))
  let relations ← optional members "relations" (Raw.table? RelationDecl.read?) .empty
  let capabilities ← optional members "capabilities" (Raw.table? CapabilityDecl.read?) .empty
  return { name, table, schema, id, searchColumn, fields, relations, capabilities }

namespace Document

def read? (raw : Raw) : Option Document := do
  let members ← raw.record? ["resources"]
  let resources ← optional members "resources" (Raw.list? ResourceDecl.read?) []
  return { resources }

def ofText (text : String) : Except CatalogError Document :=
  match (Raw.read? text).bind read? with
  | some document => .ok document
  | none => .error (.load .malformed)

/-- The document of resources that are given one by one. -/
def ofPayloads (payloads : List Json) : Except CatalogError Document :=
  match payloads.mapM fun payload => ResourceDecl.read? payload.toRaw with
  | some resources => .ok { resources }
  | none => .error (.load .malformed)

end Document

end RestQuery
