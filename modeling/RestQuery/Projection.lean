import RestQuery.Catalog.Check
import RestQuery.Request.Error
import RestQuery.Request.Key

/-!
# Projections

A projection is the fields and relations that an answer shows.  A caller edits one with a list
of tokens: a first word for all full fields or for the defaults, names to add, and names to
remove behind a minus.
-/

namespace RestQuery

structure Projection where
  fields : List String := []
  relations : List String := []
  deriving DecidableEq, Repr

/-- The names that tokens may use at a level. -/
structure NameSpace where
  fullFields : List String
  /-- The fields of the link table of the relation that leads here. -/
  linkFields : List String
  relations : List String

namespace NameSpace

def isField (space : NameSpace) (name : String) : Bool :=
  space.fullFields.contains name || space.linkFields.contains name

def isRelation (space : NameSpace) (name : String) : Bool := space.relations.contains name

end NameSpace

namespace Projection

def add (names : List String) (name : String) : List String :=
  if names.contains name then names else names ++ [name]

def addAll (names more : List String) : List String := more.foldl add names

def remove (names : List String) (name : String) : List String := names.filter (· ≠ name)

def full (capability : Capability) : Projection := { fields := addAll [] capability.fullFields }

/-- Applies an entry of the declared default fields. -/
def applyDefault (fullFields fields : List String) (token : String) : List String :=
  if token = fullWord then addAll fields fullFields
  else
    match Text.rest? "-" token with
    | some name => remove fields name
    | none => add fields token

def byDefault (capability : Capability) : Projection :=
  { fields := capability.defaultFields.foldl (applyDefault capability.fullFields) []
    relations := addAll [] capability.defaultRelations }

/-- A projection as far as tokens have been applied. -/
structure Draft where
  projection : Projection := {}
  /-- The relations that tokens add by name. -/
  named : List String := []
  problems : List Problem := []

/-- Whether a token is a word for a whole set of fields. -/
def isWord (token : String) : Bool := token = fullWord || token = defaultWord

/-- A token that names one field or relation: whether it removes it, and the name. -/
def readName (token : String) : Bool × String :=
  match Text.rest? "-" token with
  | some rest => (true, Key.normalSegment rest)
  | none => (false, Key.normalSegment token)

/-- Applies a token that is not the first word. -/
def Draft.apply (space : NameSpace) (draft : Draft) (token : String) : Draft :=
  if isWord token then { draft with problems := draft.problems ++ [.misplacedWord token] }
  else
    let (removal, name) := readName token
    let edit := if removal then remove else add
    let shown := draft.projection
    if space.isField name then
      { draft with projection := { shown with fields := edit shown.fields name } }
    else if space.isRelation name then
      { draft with
        projection := { shown with relations := edit shown.relations name }
        named := if removal then draft.named else add draft.named name }
    else { draft with problems := draft.problems ++ [.unknownField token] }

/-- The tokens of a value: what stands between commas and is not blank. -/
def tokens (value : String) : List String :=
  ((Text.split ',' value).map Text.trim).filter (· ≠ "")

/-- The projection that a value starts from, and the tokens that edit it. -/
def start (capability : Capability) : List String → Projection × List String
  | [] => ({}, [])
  | token :: rest =>
    if token = fullWord then (full capability, rest)
    else if token = defaultWord then (byDefault capability, rest)
    else ({}, token :: rest)

/-- The projection that a caller asks for.  Unknown names are reported and passed over. -/
def read (capability : Capability) (space : NameSpace) (value : String) : Draft :=
  let (first, rest) := start capability (tokens value)
  rest.foldl (Draft.apply space) { projection := first }

end Projection

end RestQuery
