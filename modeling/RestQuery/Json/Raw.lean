import RestQuery.Json.Token

/-!
# JSON documents as they are written

A raw document keeps what a plain JSON value loses: members in the order of the text, keys
given more than once, and strings and numbers that denote nothing.  A record that ignores a
member ignores whatever its value holds, so the reader of a record works on raw documents.

Reading goes token by token over a stack of the arrays and objects that are still open.
-/

namespace RestQuery.Json

inductive Raw where
  | null
  | bool (b : Bool)
  | number (n : Option Number)
  | string (s : Option String)
  | array (items : List Raw)
  | object (members : List (Option String × Raw))

/-- An array or object that is still open, with what it holds so far in reverse. -/
inductive Frame where
  | items (done : List Raw)
  | members (done : List (Option String × Raw)) (key : Option String)

/-- What a reader has read and what it waits for. -/
inductive Parser where
  /-- A value is due. -/
  | awaitValue (frames : List Frame)
  /-- The first item of an array or its end is due. -/
  | awaitFirstItem (frames : List Frame)
  /-- The first key of an object or its end is due. -/
  | awaitFirstKey (frames : List Frame)
  /-- A key of an object is due. -/
  | awaitKey (frames : List Frame) (done : List (Option String × Raw))
  /-- The colon behind a key is due. -/
  | awaitColon (frames : List Frame) (done : List (Option String × Raw)) (key : Option String)
  /-- A value is complete. -/
  | complete (frames : List Frame) (value : Raw)

namespace Parser

def beginValue (frames : List Frame) : Token → Option Parser
  | .openArray => some (.awaitFirstItem frames)
  | .openObject => some (.awaitFirstKey frames)
  | .null => some (.complete frames .null)
  | .bool b => some (.complete frames (.bool b))
  | .number n => some (.complete frames (.number n))
  | .string s => some (.complete frames (.string s))
  | _ => none

def step : Parser → Token → Option Parser
  | .awaitValue frames, token => beginValue frames token
  | .awaitFirstItem frames, .closeArray => some (.complete frames (.array []))
  | .awaitFirstItem frames, token => beginValue (.items [] :: frames) token
  | .awaitFirstKey frames, .closeObject => some (.complete frames (.object []))
  | .awaitFirstKey frames, .string key => some (.awaitColon frames [] key)
  | .awaitKey frames done, .string key => some (.awaitColon frames done key)
  | .awaitColon frames done key, .colon => some (.awaitValue (.members done key :: frames))
  | .complete (.items done :: frames) value, .comma =>
    some (.awaitValue (.items (value :: done) :: frames))
  | .complete (.items done :: frames) value, .closeArray =>
    some (.complete frames (.array (value :: done).reverse))
  | .complete (.members done key :: frames) value, .comma =>
    some (.awaitKey frames ((key, value) :: done))
  | .complete (.members done key :: frames) value, .closeObject =>
    some (.complete frames (.object ((key, value) :: done).reverse))
  | _, _ => none

def finish : Parser → Option Raw
  | .complete [] value => some value
  | _ => none

end Parser

def Raw.read? (text : String) : Option Raw := do
  let tokens ← tokens? text.toList
  let parser ← tokens.foldlM Parser.step (.awaitValue [])
  parser.finish

end RestQuery.Json
