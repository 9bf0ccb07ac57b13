import RestQuery.Sql.Select
import RestQuery.Sql.Value

/-!
# The text of statements

A statement is written as pieces: fixed words, quoted names and bound values.  A value is
never part of the text; the text has a numbered placeholder in its place, and the values are
listed apart in the order of their numbers.  The key, if there is one, has number 1.
-/

namespace RestQuery.Sql

/-! ## Names -/

def doubled (cs : List Char) : List Char := cs.flatMap fun c => if c = '"' then ['"', '"'] else [c]

def quotedName (name : String) : String :=
  String.ofList (['"'] ++ doubled name.toList ++ ['"'])

def Alias.text : Alias → String
  | level depth => "t" ++ Nat.repr depth
  | link table => table.text ++ "_link"
  | join table name => table.text ++ "_" ++ name

/-! ## Patterns -/

/-- A text as a pattern that matches nothing else. -/
def escapePattern (cs : List Char) : List Char :=
  cs.flatMap fun c => if c = '\\' ∨ c = '%' ∨ c = '_' then ['\\', c] else [c]

/-- A text as a pattern, with any text allowed before or after it. -/
def pattern (before after : Bool) (s : String) : String :=
  String.ofList ((if before then ['%'] else []) ++ escapePattern s.toList
    ++ (if after then ['%'] else []))

/-! ## Pieces -/

inductive Piece where
  | text (s : String)
  | name (s : String)
  | value (v : Value)
  /-- The key that the statement is given. -/
  | key
  deriving DecidableEq

/-- Parts with the same words between them. -/
def separated (between : String) : List (List Piece) → List Piece
  | [] => []
  | [part] => part
  | part :: rest => part ++ [.text between] ++ separated between rest

def Column.pieces (column : Column) : List Piece :=
  [.text column.table.text, .text ".", .name column.name]

def tablePieces (schema table : String) : List Piece := [.name schema, .text ".", .name table]

def Source.pieces (source : Source) : List Piece :=
  tablePieces source.schema source.table ++ [.text " ", .text source.name.text]
    ++ match source.link with
      | some link =>
        [.text " JOIN "] ++ tablePieces link.schema link.table
          ++ [.text " ", .text link.on.1.table.text, .text " ON "]
          ++ link.on.1.pieces ++ [.text " = "] ++ link.on.2.pieces
      | none => []

/-- An operand, or null if there is none at the place. -/
def operandPieces (operands : List Operand) (place : Nat) : List Piece :=
  match operands[place]? with
  | some operand => [.value (.ofOperand operand)]
  | none => [.text "NULL"]

/-- The pattern for the first operand; an operand that is no text stands for itself. -/
def patternValue (operands : List Operand) (toPattern : String → String) : Value :=
  match operands.head? with
  | some (.text s) => .text (toPattern s)
  | some operand => .ofOperand operand
  | none => .text (toPattern "")

def checkPieces (check : Check) (column : List Piece) (operands : List Operand) : List Piece :=
  let compared (operator : String) : List Piece :=
    column ++ [.text operator] ++ operandPieces operands 0
  let like (operator : String) (toPattern : String → String) : List Piece :=
    column ++ [.text operator, .value (patternValue operands toPattern)]
  let members (operator empty : String) : List Piece :=
    if operands.isEmpty then [.text empty]
    else
      column ++ [.text operator]
        ++ separated ", " (operands.map fun operand => [.value (.ofOperand operand)]) ++ [.text ")"]
  match check with
  | .equals => compared " = "
  | .notEquals => compared " <> "
  | .lessThan => compared " < "
  | .lessThanOrEqual => compared " <= "
  | .greaterThan => compared " > "
  | .greaterThanOrEqual => compared " >= "
  | .between =>
    column ++ [.text " BETWEEN "] ++ operandPieces operands 0 ++ [.text " AND "]
      ++ operandPieces operands 1
  | .isNull => column ++ [.text " IS NULL"]
  | .isNotNull => column ++ [.text " IS NOT NULL"]
  | .inSet => members " IN (" "FALSE"
  | .notInSet => members " NOT IN (" "TRUE"
  | .likeContains => like "::text ILIKE " (pattern true true)
  | .likePrefix => like "::text ILIKE " (pattern false true)
  | .likeSuffix => like "::text ILIKE " (pattern true false)
  | .notLike => like "::text NOT ILIKE " (pattern false false)
  | .nonEmpty => [.text "length("] ++ column ++ [.text "::text) > 0"]
  | .empty => [.text "length("] ++ column ++ [.text "::text) = 0"]
  | .fullTextMatch =>
    column ++ [.text " @@ plainto_tsquery("] ++ operandPieces operands 0 ++ [.text ")"]

/-- The word between the parts of a group. -/
def connectiveText : Connective → String
  | .all => " AND "
  | .any => " OR "

mutual

def Condition.pieces : Condition → List Piece
  | .isKey column => column.pieces ++ [.text "::text = ", .key]
  | .correlation inner outer => inner.pieces ++ [.text " = "] ++ outer.pieces
  | .test check column operands =>
    checkPieces check ((column.map Column.pieces).getD []) operands
  | .group connective parts =>
    [.text "("] ++ separated (connectiveText connective) (Condition.pieceLists parts) ++ [.text ")"]
  | .related join source conditions =>
    [.text (match join with
      | .inner => "EXISTS (SELECT 1 FROM "
      | .leftExclusive => "NOT EXISTS (SELECT 1 FROM ")]
      ++ source.pieces ++ [.text " WHERE "]
      ++ separated " AND " (Condition.pieceLists conditions) ++ [.text ")"]

def Condition.pieceLists : List Condition → List (List Piece)
  | [] => []
  | condition :: rest => condition.pieces :: Condition.pieceLists rest

end

def Output.pieces (output : Output) : List Piece :=
  (if output.shape then [.text "ST_AsGeoJSON("] ++ output.column.pieces ++ [.text ")::jsonb"]
    else output.column.pieces)
    ++ [.text " AS ", .name output.name]

def orderPieces (key : Column × Direction) : List Piece :=
  key.1.pieces ++ [.text " ", .text key.2.keyword]

/-- A count behind a word, if there is one. -/
def countPieces (word : String) : Option UInt32 → List Piece
  | some n => [.text word, .text (Nat.repr n.toNat)]
  | none => []

/-- What stands before and after a selection that is shown as one value: one row as a document,
several as an array of documents. -/
def wrapping : RelationKind → String × String
  | .toOne => ("(SELECT to_jsonb(sub) FROM (", ") sub)")
  | .toMany => ("(SELECT COALESCE(jsonb_agg(to_jsonb(sub)), '[]'::jsonb) FROM (", ") sub)")

mutual

def Select.pieces : Select → List Piece
  | ⟨outputs, relations, source, conditions, order, limit, offset⟩ =>
    [.text "SELECT "]
      ++ separated ", " (outputs.map Output.pieces ++ Select.relationPieces relations)
      ++ [.text " FROM "] ++ source.pieces
      ++ (if conditions.isEmpty then []
          else [.text " WHERE "] ++ separated " AND " (conditions.map Condition.pieces))
      ++ [.text " ORDER BY "] ++ separated ", " (order.map orderPieces)
      ++ countPieces " LIMIT " limit ++ countPieces " OFFSET " offset

def Select.relationPieces : List (String × RelationKind × Select) → List (List Piece)
  | [] => []
  | (name, kind, select) :: rest =>
    ([.text (wrapping kind).1] ++ select.pieces
        ++ [.text (wrapping kind).2, .text " AS ", .name name])
      :: Select.relationPieces rest

end

/-! ## Text and values -/

/-- A statement as it is sent: its text, and the values for its placeholders. -/
structure Query where
  text : String
  params : List Value
  deriving DecidableEq

def placeholder (number : Nat) : String := "$" ++ Nat.repr number

/-- The text of pieces, with the next value under a given number. -/
def textFrom (next : Nat) : List Piece → List Char
  | [] => []
  | .text s :: rest => s.toList ++ textFrom next rest
  | .name s :: rest => (quotedName s).toList ++ textFrom next rest
  | .value _ :: rest => (placeholder next).toList ++ textFrom (next + 1) rest
  | .key :: rest => (placeholder 1).toList ++ textFrom next rest

def values : List Piece → List Value
  | [] => []
  | .value v :: rest => v :: values rest
  | _ :: rest => values rest

/-- The query of pieces, with the key that it is given. -/
def Query.ofPieces (key : Option String) (pieces : List Piece) : Query :=
  { text := String.ofList (textFrom (if key.isSome then 2 else 1) pieces)
    params := (key.map Value.text).toList ++ values pieces }

end RestQuery.Sql
