import RestQuery.Json.Raw
import RestQuery.Table

/-!
# JSON values

A value is a document whose strings and numbers all denote something; of two members with one
key the later one stays, and members stand in the order of their keys.

A document may embed a text in the place of the value that the text denotes: as the string of an
object whose only member has a reserved key.  The text may embed others in its turn.
-/

namespace RestQuery

inductive Json where
  | null
  | bool (b : Bool)
  | number (n : Json.Number)
  | string (s : String)
  | array (items : List Json)
  | object (members : List (String × Json))

namespace Json

instance : Inhabited Json := ⟨.null⟩

/-! ## Embedded texts -/

/-- The key of an object that embeds a text. -/
def embeddedKey : String := "$serde_json::private::RawValue"

/-- Whether an object with these members embeds a text: its first key says so. -/
def embeds : List (Option String × Raw) → Bool
  | (some key, _) :: _ => key == embeddedKey
  | _ => false

/-- The text that an object with these members embeds. -/
def embedded? : List (Option String × Raw) → Option String
  | [(_, .string text)] => text
  | _ => none

/-! ## Reading -/

mutual

/-- The value of a raw document that nests at most so many arrays and objects, given a reader for
embedded texts. -/
def ofRaw? (readText : String → Option Json) : Nat → Raw → Option Json
  | _, .null => some .null
  | _, .bool b => some (.bool b)
  | _, .number n => n.map .number
  | _, .string s => s.map .string
  | 0, .array _ => none
  | 0, .object _ => none
  | depth + 1, .array items => (ofRaws? readText depth items).map .array
  | depth + 1, .object members =>
    if embeds members then (embedded? members).bind readText
    else (ofMembers? readText depth members).map fun named => .object (Table.ofList named).entries

def ofRaws? (readText : String → Option Json) : Nat → List Raw → Option (List Json)
  | _, [] => some []
  | depth, raw :: rest => do
    let value ← ofRaw? readText depth raw
    let values ← ofRaws? readText depth rest
    return value :: values

def ofMembers? (readText : String → Option Json) :
    Nat → List (Option String × Raw) → Option (List (String × Json))
  | _, [] => some []
  | depth, (key, raw) :: rest => do
    let name ← key
    let value ← ofRaw? readText depth raw
    let members ← ofMembers? readText depth rest
    return (name, value) :: members

end

/-- The most arrays and objects inside one another that a text may hold. -/
def maxNesting : Nat := 127

/-- The value that a text denotes if it embeds texts to less than a given depth. -/
def readWithin : Nat → String → Option Json
  | 0, _ => none
  | depth + 1, text => (Raw.read? text).bind (ofRaw? (readWithin depth) maxNesting)

/-- The value that a text denotes.  An embedded text is shorter than the one around it, so the
length of a text bounds the depth. -/
def read? (text : String) : Option Json := readWithin (text.length + 1) text

mutual

def toRaw : Json → Raw
  | .null => .null
  | .bool b => .bool b
  | .number n => .number (some n)
  | .string s => .string (some s)
  | .array items => .array (toRaws items)
  | .object members => .object (toRawMembers members)

def toRaws : List Json → List Raw
  | [] => []
  | item :: rest => toRaw item :: toRaws rest

def toRawMembers : List (String × Json) → List (Option String × Raw)
  | [] => []
  | (key, value) :: rest => (some key, toRaw value) :: toRawMembers rest

end

/-! ## Writing -/

mutual

def tokens : Json → List Token
  | .null => [.null]
  | .bool b => [.bool b]
  | .number n => [.number (some n)]
  | .string s => [.string (some s)]
  | .array items => [.openArray] ++ itemTokens items ++ [.closeArray]
  | .object members => [.openObject] ++ memberTokens members ++ [.closeObject]

def itemTokens : List Json → List Token
  | [] => []
  | [item] => tokens item
  | item :: rest => tokens item ++ [.comma] ++ itemTokens rest

def memberTokens : List (String × Json) → List Token
  | [] => []
  | [(key, value)] => [.string (some key), .colon] ++ tokens value
  | (key, value) :: rest =>
    [.string (some key), .colon] ++ tokens value ++ [.comma] ++ memberTokens rest

end

/-- The text of a value, without blanks. -/
def text (value : Json) : String := String.ofList (value.tokens.flatMap Token.chars)

/-! ## Construction -/

def int (n : Int) : Json := .number (.integer n)

def strings (texts : List String) : Json := .array (texts.map .string)

def orNull (write : α → Json) : Option α → Json
  | some a => write a
  | none => .null

def ofTable (write : α → Json) (table : Table α) : Json :=
  .object (table.entries.map fun entry => (entry.1, write entry.2))

end Json

end RestQuery
