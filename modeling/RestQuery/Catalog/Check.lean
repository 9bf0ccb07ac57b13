import RestQuery.Catalog.Document
import RestQuery.Catalog.Error
import RestQuery.Catalog.Basic
import RestQuery.Text.Blank
import RestQuery.Text.Split

/-!
# Checking catalog documents

A document is sound when every name in it names something and no declaration contradicts
another.  `Document.fault?` finds the first fault, in this order: a resource declared twice,
faults of relations, faults of resources and their capability entries.

Main statement: `fault?_eq_none_iff` splits soundness into its three parts.
-/

namespace RestQuery

/-- The word for every full field. -/
def fullWord : String := "*full"

def defaultWord : String := "*default"

/-- The field that an entry of the default fields names, which may be one to remove. -/
def tokenName (token : String) : String := (Text.rest? "-" token).getD token

namespace Document

/-- The fields of the link tables through which a document reaches a resource, by the name of
the resource and the name of the capability entry for that way. -/
def linkFields (document : Document) : List ((String × String) × Table FieldType) :=
  document.resources.flatMap fun resource =>
    resource.relations.entries.flatMap fun (name, relation) =>
      match relation.link with
      | some link =>
        [((relation.target, resource.name ++ "." ++ name), link.fields),
         ((relation.target, resource.name ++ ".single." ++ name), link.fields)]
      | none => []

/-- The link fields that a capability entry can use; of several relations with one referrer
name the last one counts. -/
def linkFieldsFor (document : Document) (entry : Entry) : Table FieldType :=
  (document.linkFields.reverse.lookup (entry.resource, entry.referrer)).getD .empty

/-- The type of a field of a resource or, under a capability entry for a relation with a link
table, of a field of that table. -/
def fieldType? (document : Document) (resource : ResourceDecl) (referrer name : String) :
    Option FieldType :=
  (resource.fields.get? name).or
    ((document.linkFieldsFor ⟨resource.name, referrer⟩).get? name)

def duplicate? : List String → List String → Option String
  | _, [] => none
  | seen, name :: rest => if seen.contains name then some name else duplicate? (name :: seen) rest

def relationFault? (document : Document) (resource : ResourceDecl) (name : String)
    (relation : RelationDecl) : Option CatalogError :=
  if (document.find? relation.target).isNone then
    some (.missing (.relationTarget resource.name name relation.target))
  else if resource.fields.contains name then
    some (.invalid (.fieldAndRelation resource.name name))
  else
    match relation.link with
    | some link =>
      (link.orderFields.find? (!link.fields.contains ·)).map fun field =>
        .missing (.linkOrderField resource.name name field)
    | none => none

inductive FilterTarget where
  /-- The existence of related rows. -/
  | existence
  | field (type : FieldType)
  | unknown
  deriving DecidableEq

/-- What a filter key of a capability entry names: a relation, a field of the resource or of
its link table, or a field of a related resource behind the relation's name and a point. -/
def filterTarget (document : Document) (resource : ResourceDecl) (referrer key : String) :
    FilterTarget :=
  match Text.splitOnce '.' key with
  | none =>
    if resource.relations.contains key then .existence
    else
      match document.fieldType? resource referrer key with
      | some type => .field type
      | none => .unknown
  | some (relation, field) =>
    match (resource.relations.get? relation).bind (document.find? ·.target) with
    | some target =>
      match target.fields.get? field with
      | some type => .field type
      | none => .unknown
    | none => .unknown

def filterFault? (document : Document) (resource : ResourceDecl) (referrer key : String) :
    Option CatalogError :=
  match document.filterTarget resource referrer key with
  | .unknown => some (.missing (.filter ⟨resource.name, referrer⟩ key))
  | .field .object | .field .geometry =>
    some (.invalid (.noFilterGrammar ⟨resource.name, referrer⟩ key))
  | _ => none

def pageFault? (entry : Entry) (page : PageDecl) : Option CatalogError :=
  if page.maxLimit = 0 ∨ page.maxLimit < page.defaultLimit then
    some (.invalid (.limits entry page.defaultLimit page.maxLimit))
  else none

/-- The first fault of the order declaration of a capability entry.  Only fields of the
resource itself count here; those of a link table are ordered by the table's own list. -/
def orderFault? (resource : ResourceDecl) (entry : Entry) (order : OrderDecl) :
    Option CatalogError :=
  ((order.fields.find? (!resource.fields.contains ·)).map fun field =>
      .missing (.orderField entry field)).or
    ((order.default.find? fun token =>
        !resource.fields.contains ((Text.words token).headD "")).map fun token =>
      .missing (.defaultOrderField entry token))

def capabilityFault? (document : Document) (resource : ResourceDecl) (referrer : String)
    (capability : CapabilityDecl) : Option CatalogError :=
  let entry : Entry := ⟨resource.name, referrer⟩
  let isField (name : String) := (document.fieldType? resource referrer name).isSome
  ((capability.fullFields.find? (!isField ·)).map fun field =>
      .missing (.fullField entry field)).or <|
  ((capability.defaultFields.find? fun token => token != fullWord && !isField (tokenName token)).map
      fun token => .missing (.defaultField entry token)).or <|
  ((capability.defaultRelations.find? (!resource.relations.contains ·)).map fun relation =>
      .missing (.defaultRelation entry relation)).or <|
  (capability.filters.keys.findSome? (document.filterFault? resource referrer)).or <|
  (capability.page.bind (pageFault? entry)).or
  (capability.order.bind (orderFault? resource entry))

def resourceFault? (document : Document) (resource : ResourceDecl) : Option CatalogError :=
  if !resource.fields.contains resource.id then
    some (.missing (.idField resource.name resource.id))
  else if !resource.capabilities.contains defaultReferrer then
    some (.invalid (.noDefaultCapability resource.name))
  else
    resource.capabilities.entries.findSome? fun (referrer, capability) =>
      document.capabilityFault? resource referrer capability

def fault? (document : Document) : Option CatalogError :=
  ((duplicate? [] (document.resources.map (·.name))).map fun name =>
      .invalid (.duplicateResource name)).or <|
  (document.resources.findSome? fun resource =>
      resource.relations.entries.findSome? fun (name, relation) =>
        document.relationFault? resource name relation).or
  (document.resources.findSome? document.resourceFault?)

/-! ## Soundness in parts -/

/-- No name is found twice exactly if no two of the names are the same. -/
theorem duplicate?_eq_none_iff {seen names : List String} :
    duplicate? seen names = none ↔ names.Nodup ∧ ∀ name ∈ names, name ∉ seen := by
  induction names generalizing seen with
  | nil => simp [duplicate?]
  | cons name rest ih =>
    rw [duplicate?]
    split
    · rename_i hmem
      simp_all
    · rename_i hmem
      rw [ih, List.nodup_cons]
      simp only [List.contains_iff_mem] at hmem
      constructor
      · rintro ⟨hnodup, hfresh⟩
        refine ⟨⟨fun hin => (hfresh name hin) (.head _), hnodup⟩, fun other hin => ?_⟩
        rcases List.mem_cons.1 hin with rfl | hin
        · exact hmem
        · exact fun hseen => hfresh other hin (.tail _ hseen)
      · rintro ⟨⟨hnotin, hnodup⟩, hfresh⟩
        refine ⟨hnodup, fun other hin hmem' => ?_⟩
        rcases List.mem_cons.1 hmem' with rfl | hseen
        · exact hnotin hin
        · exact hfresh other (.tail _ hin) hseen

/-- A document without a fault declares each resource once, and its relations and resources
have no faults. -/
theorem fault?_eq_none_iff {document : Document} :
    document.fault? = none ↔
      (document.resources.map (·.name)).Nodup ∧
      (∀ resource ∈ document.resources, ∀ entry ∈ resource.relations.entries,
        document.relationFault? resource entry.1 entry.2 = none) ∧
      ∀ resource ∈ document.resources, document.resourceFault? resource = none := by
  simp only [fault?, Option.or_eq_none_iff, Option.map_eq_none_iff, duplicate?_eq_none_iff,
    List.findSome?_eq_none_iff]
  simp

end Document

end RestQuery
