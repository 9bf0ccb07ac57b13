import RestQuery.Request.Error
import RestQuery.Request.Key
import RestQuery.Request.Params

/-!
# One parameter

A parameter is an entry of the request with its key in normal form and a value of a kind that
parameters can have: a text, several texts, or a truth value.
-/

namespace RestQuery

inductive ParamValue where
  | text (s : String)
  | texts (values : List String)
  | flag (b : Bool)
  deriving DecidableEq, Repr

namespace ParamValue

def textOf? : Json → Option String
  | .string s => some s
  | _ => none

def ofJson? : Json → Option ParamValue
  | .string s => some (text s)
  | .bool b => some (flag b)
  | .array [] => none
  | .array items => (items.mapM textOf?).map texts
  | _ => none

def trimmed : ParamValue → ParamValue
  | text s => text (Text.trim s)
  | texts values => texts (values.map Text.trim)
  | flag b => flag b

/-- The text of a value that is a single one. -/
def single? : ParamValue → Option String
  | text s => some s
  | _ => none

end ParamValue

/-- An entry of a request whose key has been read. -/
structure Parameter where
  rawKey : String
  rawValue : ParamValue
  /-- The segments of the key in normal form. -/
  keys : List String
  /-- Where problems with the parameter are reported. -/
  trace : String
  deriving DecidableEq, Repr

namespace Parameter

/-- The parameter of an entry at the level with a trace. -/
def ofEntry (trace rawKey : String) (rawValue : ParamValue) : Parameter :=
  { rawKey, rawValue, keys := Key.normalSegments rawKey,
    trace := trace ++ "." ++ Key.normal rawKey }

def rawKeys (parameter : Parameter) : List String := Key.segments parameter.rawKey

def key (parameter : Parameter) : String := Key.ofSegments parameter.keys

def firstKey (parameter : Parameter) : String := parameter.keys.headD ""

/-- The value that counts: without blanks around texts. -/
def value (parameter : Parameter) : ParamValue := parameter.rawValue.trimmed

def error (parameter : Parameter) (problem : Problem) : RequestError :=
  ⟨parameter.trace, problem⟩

/-- The text of a parameter that has to be a single one. -/
def single (parameter : Parameter) : Except RequestError String :=
  match parameter.value.single? with
  | some s => .ok s
  | none => .error (parameter.error .singleValueRequired)

end Parameter

end RestQuery
