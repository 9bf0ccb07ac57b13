import RestQuery.Catalog.Document
import RestQuery.Json.Value

/-!
# Writing catalog documents

A document as a JSON value, with every default filled in and null for what is not declared.
-/

namespace RestQuery

/-- A natural number of 32 bits as a value. -/
def Json.word (n : UInt32) : Json := .int n.toNat

def FieldType.toJson (type : FieldType) : Json := .string type.name

def LinkTable.toJson (link : LinkTable) : Json :=
  .object
    [("fields", .ofTable FieldType.toJson link.fields),
     ("order_fields", .strings link.orderFields),
     ("source_key", .string link.sourceKey),
     ("table", .string link.table),
     ("target_key", .string link.targetKey)]

def RelationDecl.toJson (relation : RelationDecl) : Json :=
  .object
    [("kind", .string relation.kind.name),
     ("source_key", .string relation.sourceKey),
     ("target", .string relation.target),
     ("target_key", .string relation.targetKey),
     ("through", .orNull LinkTable.toJson relation.link)]

def PageDecl.toJson (page : PageDecl) : Json :=
  .object
    [("default_limit", .word page.defaultLimit),
     ("enabled", .bool page.enabled),
     ("max_limit", .word page.maxLimit)]

def OrderDecl.toJson (order : OrderDecl) : Json :=
  .object
    [("default", .strings order.default),
     ("enabled", .bool order.enabled),
     ("fields", .strings order.fields)]

def FilterDecl.toJson (filter : FilterDecl) : Json :=
  .object
    [("operators", .orNull (fun operators => .strings (operators.map Operator.name))
        filter.operators)]

def CapabilityDecl.toJson (capability : CapabilityDecl) : Json :=
  .object
    [("default_fields", .strings capability.defaultFields),
     ("default_relations", .strings capability.defaultRelations),
     ("filters", .ofTable FilterDecl.toJson capability.filters),
     ("full_fields", .strings capability.fullFields),
     ("full_text_search", .bool capability.search),
     ("ordering", .orNull OrderDecl.toJson capability.order),
     ("pagination", .orNull PageDecl.toJson capability.page)]

def ResourceDecl.toJson (resource : ResourceDecl) : Json :=
  .object
    [("capabilities", .ofTable CapabilityDecl.toJson resource.capabilities),
     ("fields", .ofTable FieldType.toJson resource.fields),
     ("id", .string resource.id),
     ("name", .string resource.name),
     ("relations", .ofTable RelationDecl.toJson resource.relations),
     ("schema", .string resource.schema),
     ("search_column", .string resource.searchColumn),
     ("table", .string resource.table)]

def Document.toJson (document : Document) : Json :=
  .object [("resources", .array (document.resources.map ResourceDecl.toJson))]

end RestQuery
