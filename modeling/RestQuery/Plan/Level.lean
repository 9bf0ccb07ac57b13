import RestQuery.Filter.Compile
import RestQuery.Order
import RestQuery.Projection
import RestQuery.Request.Routing

/-!
# One level of a request

A request has a level for its resource and one for each relation that it reaches.  At each
level the parameters are routed by what the capability for that level permits, and the
controls among them are read.  `Level.read` does so for one level, on its own.
-/

namespace RestQuery

inductive Target where
  | list
  | single
  deriving DecidableEq, Repr

/-- A resource as a request reaches it. -/
structure Level where
  resource : Resource
  referrer : Referrer
  /-- The relation that leads here; the root has none. -/
  via : Option Relation := none
  /-- The resource of the request and the relations that lead here, with points between them. -/
  trace : String

namespace Level

def root (catalog : Catalog) (resource : String) (target : Target) :
    Except CatalogError Level := do
  let found ← catalog.resource resource
  let referrer := match target with
    | .list => Referrer.list
    | .single => Referrer.single
  return { resource := found, referrer, trace := found.name }

/-- Whether the level is the single item that a request asks for. -/
def isSingle (level : Level) : Bool := level.referrer = .single

def child (catalog : Catalog) (level : Level) (relation : Relation) :
    Except CatalogError Level := do
  let found ← catalog.resource relation.target
  return {
    resource := found
    referrer := .nested level.resource.name relation.name level.isSingle
    via := some relation
    trace := level.trace ++ "." ++ relation.name }

def link? (level : Level) : Option LinkTable := level.via.bind (·.link)

def linkFields (level : Level) : Table FieldType := (level.link?.map (·.fields)).getD .empty

/-- The capability for the level, and the name of its entry. -/
def capability (level : Level) : Except CatalogError (String × Capability) := do
  let (name, declared) ← level.resource.capability level.referrer
  return (name, if level.isSingle then declared.forSingleItem else declared)

/-- The controls that a capability permits. -/
def controls (capability : Capability) : List Control :=
  [.fields]
    ++ (if capability.paged then [.limit, .offset] else [])
    ++ (if capability.ordered then [.order] else [])
    ++ (if capability.searchable then [.search] else [])

def keys (level : Level) (capability : Capability) : Keys :=
  { filters := capability.filters.keys
    relations := level.resource.relations.keys
    controls := (controls capability).map Control.name
    sameLevel := (level.via.map (·.isToOne)).getD false }

inductive Subject where
  | field (field : FieldRef) (type : FieldType)
  | existence (relation : Relation)

/-- What the key of a filter names: a field of the resource, a field of the link table, or a
relation; behind the name of a relation and a point, a field of the related resource. -/
def subject? (catalog : Catalog) (level : Level) (key : String) : Option Subject :=
  match Text.splitOnce '.' key with
  | none =>
    match level.resource.fields.get? key, level.linkFields.get? key with
    | some type, _ => some (.field ⟨.resource, key⟩ type)
    | none, some type => some (.field ⟨.link, key⟩ type)
    | none, none => (level.resource.relations.get? key).map .existence
  | some (name, field) => do
    let relation ← level.resource.relations.get? name
    let target ← catalog.resources.get? relation.target
    let type ← target.fields.get? field
    return .field ⟨.relation name, field⟩ type

/-- A filter parameter with what it is about and what it may do. -/
structure Filter where
  parameter : Parameter
  subject : Subject
  rule : FilterRule

/-- The filter that a parameter is, or the error if its key names nothing. -/
def filter (catalog : Catalog) (level : Level) (capability : Capability)
    (parameter : Parameter) : Except RequestError Filter :=
  match level.subject? catalog parameter.key with
  | some subject => .ok ⟨parameter, subject, (capability.filters.get? parameter.key).getD {}⟩
  | none => .error (parameter.error .unknownParameter)

/-! ## Controls -/

/-- The value of a control: the default one unless a parameter gives another, which is
reported if it is in disorder. -/
def controlValue (given : Option Parameter) (default : α)
    (read : Parameter → Except RequestError α) : α × List RequestError :=
  match given with
  | none => (default, [])
  | some parameter =>
    match read parameter with
    | .ok value => (value, [])
    | .error error => (default, [error])

/-- A count: decimal digits of a value with 32 bits. -/
def readCount? (s : String) : Option UInt32 := do
  let n ← Filter.natural? s.toList
  if n < UInt32.size then some (UInt32.ofNat n) else none

def readLimit (max : UInt32) (parameter : Parameter) : Except RequestError UInt32 := do
  let s ← parameter.single
  match readCount? s with
  | some n => if 1 ≤ n ∧ n ≤ max then return n else throw (parameter.error (.invalidLimit max))
  | none => throw (parameter.error (.invalidLimit max))

def readOffset (parameter : Parameter) : Except RequestError UInt32 := do
  let s ← parameter.single
  match readCount? s with
  | some n => return n
  | none => throw (parameter.error .invalidOffset)

/-- The limit of a level; a level that is not paged has none. -/
def limit (capability : Capability) (routed : Routed) : Option UInt32 × List RequestError :=
  if capability.paged then
    let (n, errors) :=
      controlValue (routed.control? .limit) capability.defaultLimit (readLimit capability.maxLimit)
    (some n, errors)
  else (none, [])

/-- The offset of a level; a level that is not paged has none. -/
def offset (capability : Capability) (routed : Routed) : Option UInt32 × List RequestError :=
  if capability.paged then
    let (n, errors) := controlValue (routed.control? .offset) 0 readOffset
    (some n, errors)
  else (none, [])

def readOrder (fields : Order.Fields) (parameter : Parameter) :
    Except RequestError (List OrderEntry) := do
  let s ← parameter.single
  (Order.read fields s).mapError parameter.error

/-- The ordering of a level.  The declared one needs no permission; one that a caller asks for
does. -/
def order (level : Level) (capability : Capability) (routed : Routed) :
    List OrderEntry × List RequestError :=
  let declared := Order.byDefault capability.defaultOrder
  if capability.ordered then
    controlValue (routed.control? .order) declared
      (readOrder ⟨capability.orderFields, (level.link?.map (·.orderFields)).getD []⟩)
  else (declared, [])

/-- The list of tokens that the value of a parameter gives, as one text. -/
def fieldList? : ParamValue → Option String
  | .text s => some s
  | .texts values => some (Text.join ',' values)
  | .flag _ => none

/-- The names that the tokens of a projection may use at the level. -/
def names (level : Level) (capability : Capability) : NameSpace :=
  { fullFields := capability.fullFields
    linkFields := level.linkFields.keys
    relations := level.resource.relations.keys }

/-- The projection of a level, the relations that the caller names, and the errors. -/
def projection (level : Level) (capability : Capability) (routed : Routed) :
    Projection × List String × List RequestError :=
  match routed.control? .fields with
  | none => (.byDefault capability, [], [])
  | some parameter =>
    match fieldList? parameter.value with
    | none => (.byDefault capability, [], [parameter.error .invalidValueType])
    | some value =>
      let draft := Projection.read capability (level.names capability) value
      (draft.projection, draft.named, draft.problems.map parameter.error)

/-! ## The whole level -/

/-- What the parameters of a level ask for. -/
structure Reading where
  /-- The name of the capability entry that applies. -/
  entry : String
  capability : Capability
  filters : List Filter
  search : Option Parameter
  limit : Option UInt32
  offset : Option UInt32
  order : List OrderEntry
  projection : Projection
  /-- The relations that the caller names in the projection. -/
  named : List String
  /-- The parameters of the levels below, by relation. -/
  nested : Table Params
  errors : List RequestError

/-- The values and the errors of several results. -/
def separate : List (Except ε α) → List α × List ε
  | [] => ([], [])
  | .ok a :: rest => (a :: (separate rest).1, (separate rest).2)
  | .error e :: rest => ((separate rest).1, e :: (separate rest).2)

/-- Reads the parameters of a level under a capability. -/
def readWith (catalog : Catalog) (level : Level) (entry : String) (capability : Capability)
    (params : Params) : Reading :=
  let routed := params.route (level.keys capability) level.trace
  let (filters, unknown) := separate (routed.filters.map (level.filter catalog capability))
  let (limit, limitErrors) := limit capability routed
  let (offset, offsetErrors) := offset capability routed
  let (order, orderErrors) := level.order capability routed
  let (projection, named, fieldErrors) := level.projection capability routed
  { entry, capability, filters, search := routed.control? .search, limit, offset, order,
    projection, named, nested := routed.relations
    errors :=
      routed.errors ++ unknown ++ limitErrors ++ offsetErrors ++ orderErrors ++ fieldErrors }

def read (catalog : Catalog) (level : Level) (params : Params) : Except CatalogError Reading := do
  let (entry, capability) ← level.capability
  return level.readWith catalog entry capability params

end Level

end RestQuery
