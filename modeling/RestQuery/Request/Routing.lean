import RestQuery.Request.Parameter

/-!
# Routing parameters

At each level a parameter is a filter, a control, or belongs to a relation, whose own level
reads the rest of its key.  `Keys.route` decides on each entry alone; `Routed.add` collects
the decisions and reports entries that mean the same.
-/

namespace RestQuery

inductive Control where
  | fields
  | limit
  | offset
  | order
  | search
  deriving DecidableEq, Repr

namespace Control

def all : List Control := [fields, limit, offset, order, search]

def name : Control → String
  | fields => "fields"
  | limit => "limit"
  | offset => "offset"
  | order => "order"
  | search => "q"

theorem name_inj {left right : Control} : left.name = right.name ↔ left = right := by
  cases left <;> cases right <;> simp [name]

def ofName? (s : String) : Option String := (all.map name).find? (· == s)

end Control

/-- The first segment that marks a filter of the level itself below a to-one relation. -/
def sameLevelWord : String := "df"

/-- The keys that mean something at a level. -/
structure Keys where
  filters : List String
  relations : List String
  controls : List String
  /-- Whether a key may start with the word for the level itself. -/
  sameLevel : Bool

inductive Route where
  | filter (parameter : Parameter)
  | control (parameter : Parameter)
  /-- To the level of a relation, under the rest of its key. -/
  | relation (name rest : String) (parameter : Parameter)
  | refused (error : RequestError)
  deriving DecidableEq, Repr

namespace Keys

def routeParameter (keys : Keys) (parameter : Parameter) : Route :=
  if keys.sameLevel && parameter.firstKey == sameLevelWord && 1 < parameter.keys.length then
    let bare := { parameter with keys := parameter.keys.tail }
    if keys.filters.contains bare.key then .filter bare
    else .refused (parameter.error .unknownParameter)
  else if keys.filters.contains parameter.key then .filter parameter
  else if keys.relations.contains parameter.firstKey then
    if parameter.keys.length = 1 then .refused (parameter.error .relationKeyRequired)
    else .relation parameter.firstKey (Key.ofSegments parameter.rawKeys.tail) parameter
  else if parameter.keys.length = 1
      && keys.controls.contains parameter.firstKey then .control parameter
  else .refused (parameter.error .unknownParameter)

def route (keys : Keys) (trace rawKey : String) (rawValue : Json) : Route :=
  match ParamValue.ofJson? rawValue with
  | some value => keys.routeParameter (.ofEntry trace rawKey value)
  | none => .refused ⟨trace ++ "." ++ Key.normal rawKey, .invalidValueType⟩

end Keys

/-- The entries of a level by where they go. -/
structure Routed where
  filters : List Parameter := []
  controls : Table Parameter := .empty
  /-- The parameters for the level of each relation that has some. -/
  relations : Table Params := .empty
  errors : List RequestError := []

namespace Routed

instance : Inhabited Routed := ⟨{}⟩

def refuse (routed : Routed) (error : RequestError) : Routed :=
  { routed with errors := routed.errors ++ [error] }

/-- Adds an entry.  Of two entries for one control the first counts; of two for one key of a
relation the later one does, and either way the later one is reported. -/
def add (routed : Routed) (value : Json) : Route → Routed
  | .filter parameter => { routed with filters := routed.filters ++ [parameter] }
  | .control parameter =>
    if routed.controls.contains parameter.key then
      routed.refuse (parameter.error .duplicateParameter)
    else { routed with controls := routed.controls.insert parameter.key parameter }
  | .relation name rest parameter =>
    let bucket := (routed.relations.get? name).getD {}
    let stored :=
      { routed with relations := routed.relations.insert name (bucket.insert rest value) }
    if bucket.entries.contains rest then stored.refuse (parameter.error .duplicateParameter)
    else stored
  | .refused error => routed.refuse error

def control? (routed : Routed) (control : Control) : Option Parameter :=
  routed.controls.get? control.name

end Routed

/-- The entries of the level with a trace, each where it goes. -/
def Params.route (params : Params) (keys : Keys) (trace : String) : Routed :=
  params.entries.entries.foldl
    (fun routed (key, value) => routed.add value (keys.route trace key value)) {}

end RestQuery
