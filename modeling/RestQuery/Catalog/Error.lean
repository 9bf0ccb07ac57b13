import RestQuery.Text.Quoted

/-!
# Faults of a catalog

What can be wrong with a catalog or with the use of one, as causes, and the message for each.
-/

namespace RestQuery

/-- A capability entry: the resource, and the way of reaching it that the entry is for. -/
structure Entry where
  resource : String
  referrer : String
  deriving DecidableEq, Repr

/-- Something about a capability entry, as messages name it. -/
def Entry.about (entry : Entry) (what : String) : String :=
  entry.resource ++ " [" ++ entry.referrer ++ "] " ++ what

/-- A name in a catalog that names nothing. -/
inductive Missing where
  | relationTarget (resource relation target : String)
  | linkOrderField (resource relation field : String)
  | idField (resource field : String)
  | fullField (entry : Entry) (field : String)
  | defaultField (entry : Entry) (token : String)
  | defaultRelation (entry : Entry) (relation : String)
  | filter (entry : Entry) (key : String)
  | orderField (entry : Entry) (field : String)
  | defaultOrderField (entry : Entry) (token : String)
  | relation (resource relation : String)
  deriving DecidableEq, Repr

namespace Missing

def role : Missing → String
  | relationTarget .. => "relation target"
  | linkOrderField .. => "through order field"
  | idField .. => "id field"
  | fullField .. => "full field"
  | defaultField .. => "default field"
  | defaultRelation .. => "default relation"
  | filter .. => "filter"
  | orderField .. => "order field"
  | defaultOrderField .. => "default order field"
  | relation .. => "relation"

def place : Missing → String
  | relationTarget resource name target => resource ++ "." ++ name ++ " -> " ++ target
  | linkOrderField resource name field => resource ++ "." ++ name ++ "." ++ field
  | idField resource field => resource ++ "." ++ field
  | fullField entry what | defaultField entry what | defaultRelation entry what
  | filter entry what | orderField entry what | defaultOrderField entry what => entry.about what
  | relation resource name => resource ++ "." ++ name

end Missing

/-- A declaration that contradicts another or makes no sense. -/
inductive Invalid where
  | duplicateResource (resource : String)
  | fieldAndRelation (resource name : String)
  | noDefaultCapability (resource : String)
  | noFilterGrammar (entry : Entry) (key : String)
  | limits (entry : Entry) (defaultLimit maxLimit : UInt32)
  | defaultOrder (entry : Entry) (token : String)
  | defaultOrderDirection (entry : Entry) (token : String)
  deriving DecidableEq, Repr

def Invalid.message : Invalid → String
  | duplicateResource resource => "duplicate resource '" ++ resource ++ "'"
  | fieldAndRelation resource name =>
    "'" ++ resource ++ "." ++ name ++ "' is declared both as a field and as a relation"
  | noDefaultCapability resource =>
    "resource '" ++ resource ++ "' declares no 'default' capability"
  | noFilterGrammar entry key => entry.about key ++ ": field type has no filter grammar"
  | limits entry defaultLimit maxLimit =>
    entry.about "pagination" ++ ": default_limit " ++ Nat.repr defaultLimit.toNat
      ++ " must be within 1..=" ++ Nat.repr maxLimit.toNat
  | defaultOrder entry token =>
    entry.resource ++ " [" ++ entry.referrer ++ "]: invalid default order '" ++ token ++ "'"
  | defaultOrderDirection entry token =>
    entry.resource ++ " [" ++ entry.referrer ++ "]: invalid default order direction in '"
      ++ token ++ "'"

inductive LoadFailure where
  /-- The text is no catalog document. -/
  | malformed
  | missingFile (path : String)
  deriving DecidableEq, Repr

def LoadFailure.message : LoadFailure → String
  | malformed => "malformed catalog document"
  | missingFile path => path ++ ": No such file or directory (os error 2)"

/-- A fault of a catalog; no request can cause one. -/
inductive CatalogError where
  | missing (name : Missing)
  | noCapability (resource : String) (referrers : List String)
  | unknownResource (name : String)
  | load (failure : LoadFailure)
  | invalid (what : Invalid)
  deriving DecidableEq, Repr

def CatalogError.message : CatalogError → String
  | missing name => "missing reference: " ++ name.role ++ " '" ++ name.place ++ "'"
  | noCapability resource referrers =>
    "no capability config for resource '" ++ resource ++ "' (tried "
      ++ Text.quotedList referrers ++ " and 'default')"
  | unknownResource name => "unknown resource type: " ++ name
  | load failure => "config load: " ++ failure.message
  | invalid what => "validation: " ++ what.message

end RestQuery
