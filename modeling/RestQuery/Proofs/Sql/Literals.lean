import RestQuery.Proofs.Sql.Pieces
import RestQuery.Sql.Query

/-!
# Statements with literals

A statement can be written without placeholders: the literal of a value then stands where
the value is used, and nothing is listed apart.  What a placeholder stands for is the
literal at its place.

Main statement: `spell_select`.
-/

namespace RestQuery.Sql

section

variable (literal : Value → String) (key : String)

def Column.spelled (column : Column) : String := column.table.text ++ "." ++ quotedName column.name

def spelledTable (schema table : String) : String := quotedName schema ++ "." ++ quotedName table

def Source.spelled (source : Source) : String :=
  spelledTable source.schema source.table ++ " " ++ source.name.text
    ++ match source.link with
      | some link =>
        " JOIN " ++ spelledTable link.schema link.table ++ " " ++ link.on.1.table.text
          ++ " ON " ++ link.on.1.spelled ++ " = " ++ link.on.2.spelled
      | none => ""

def spelledOperand (operands : List Operand) (place : Nat) : String :=
  match operands[place]? with
  | some operand => literal (.ofOperand operand)
  | none => "NULL"

def spelledMembers (operands : List Operand) : String :=
  String.intercalate ", " (operands.map fun operand => literal (.ofOperand operand))

/-- A test of a column, with the literals of its operands or of the pattern that is made of
the first one. -/
def spelledCheck (check : Check) (column : String) (operands : List Operand) : String :=
  match check with
  | .equals => column ++ " = " ++ spelledOperand literal operands 0
  | .notEquals => column ++ " <> " ++ spelledOperand literal operands 0
  | .lessThan => column ++ " < " ++ spelledOperand literal operands 0
  | .lessThanOrEqual => column ++ " <= " ++ spelledOperand literal operands 0
  | .greaterThan => column ++ " > " ++ spelledOperand literal operands 0
  | .greaterThanOrEqual => column ++ " >= " ++ spelledOperand literal operands 0
  | .between =>
    column ++ " BETWEEN " ++ spelledOperand literal operands 0 ++ " AND "
      ++ spelledOperand literal operands 1
  | .isNull => column ++ " IS NULL"
  | .isNotNull => column ++ " IS NOT NULL"
  | .inSet =>
    if operands.isEmpty then "FALSE"
    else column ++ " IN (" ++ spelledMembers literal operands ++ ")"
  | .notInSet =>
    if operands.isEmpty then "TRUE"
    else column ++ " NOT IN (" ++ spelledMembers literal operands ++ ")"
  | .likeContains =>
    column ++ "::text ILIKE " ++ literal (patternValue operands (pattern true true))
  | .likePrefix =>
    column ++ "::text ILIKE " ++ literal (patternValue operands (pattern false true))
  | .likeSuffix =>
    column ++ "::text ILIKE " ++ literal (patternValue operands (pattern true false))
  | .notLike =>
    column ++ "::text NOT ILIKE " ++ literal (patternValue operands (pattern false false))
  | .nonEmpty => "length(" ++ column ++ "::text) > 0"
  | .empty => "length(" ++ column ++ "::text) = 0"
  | .fullTextMatch => column ++ " @@ plainto_tsquery(" ++ spelledOperand literal operands 0 ++ ")"

def spelledExists : JoinKind → String
  | .inner => "EXISTS (SELECT 1 FROM "
  | .leftExclusive => "NOT EXISTS (SELECT 1 FROM "

mutual

def Condition.spelled : Condition → String
  | .isKey column => column.spelled ++ "::text = " ++ literal (.text key)
  | .correlation inner outer => inner.spelled ++ " = " ++ outer.spelled
  | .test check column operands =>
    spelledCheck literal check ((column.map Column.spelled).getD "") operands
  | .group connective parts =>
    "(" ++ String.intercalate (connectiveText connective) (Condition.spelledAll parts) ++ ")"
  | .related join source conditions =>
    spelledExists join ++ source.spelled ++ " WHERE "
      ++ String.intercalate " AND " (Condition.spelledAll conditions) ++ ")"

def Condition.spelledAll : List Condition → List String
  | [] => []
  | condition :: rest => condition.spelled :: Condition.spelledAll rest

end

def Output.spelled (output : Output) : String :=
  (if output.shape then "ST_AsGeoJSON(" ++ output.column.spelled ++ ")::jsonb"
    else output.column.spelled)
    ++ " AS " ++ quotedName output.name

def spelledOrder (entry : Column × Direction) : String :=
  entry.1.spelled ++ " " ++ entry.2.keyword

def spelledCount (word : String) : Option UInt32 → String
  | some n => word ++ Nat.repr n.toNat
  | none => ""

mutual

def Select.spelled : Select → String
  | ⟨outputs, relations, source, conditions, order, limit, offset⟩ =>
    "SELECT "
      ++ String.intercalate ", " (outputs.map Output.spelled ++ Select.spelledRelations relations)
      ++ " FROM " ++ source.spelled
      ++ (if conditions.isEmpty then ""
          else " WHERE "
            ++ String.intercalate " AND " (Condition.spelledAll literal key conditions))
      ++ " ORDER BY " ++ String.intercalate ", " (order.map spelledOrder)
      ++ spelledCount " LIMIT " limit ++ spelledCount " OFFSET " offset

def Select.spelledRelations : List (String × RelationKind × Select) → List String
  | [] => []
  | (name, kind, select) :: rest =>
    ((wrapping kind).1 ++ select.spelled ++ (wrapping kind).2 ++ " AS " ++ quotedName name)
      :: Select.spelledRelations rest

end

/-! ## Pieces with literals -/

def Piece.spelled : Piece → String
  | .text s => s
  | .name s => quotedName s
  | .value v => literal v
  | .key => literal (.text key)

/-- The text of pieces with the literals of their values. -/
def spell : List Piece → String
  | [] => ""
  | piece :: rest => piece.spelled literal key ++ spell rest

@[simp]
theorem spell_nil : spell literal key [] = "" := rfl

@[simp]
theorem spell_cons (piece : Piece) (rest : List Piece) :
    spell literal key (piece :: rest) = piece.spelled literal key ++ spell literal key rest := rfl

@[simp]
theorem spell_append (first second : List Piece) :
    spell literal key (first ++ second) = spell literal key first ++ spell literal key second := by
  induction first with
  | nil => simp
  | cons piece rest ih => simp [ih, String.append_assoc]

@[simp]
theorem spell_separated (between : String) (parts : List (List Piece)) :
    spell literal key (separated between parts) =
      String.intercalate between (parts.map (spell literal key)) := by
  induction parts with
  | nil => rfl
  | cons part rest ih =>
      cases rest with
      | nil => simp [separated]
      | cons next others =>
          rw [separated_cons_cons, spell_append, spell_append, ih]
          simp [Piece.spelled, String.intercalate_cons_cons]

end

variable {literal : Value → String} {key : String}

theorem spell_column (column : Column) :
    spell literal key column.pieces = column.spelled := by
  simp only [Column.pieces, Column.spelled, spell_cons, spell_nil, Piece.spelled,
    String.append_empty, String.append_assoc]

theorem spell_table (schema table : String) :
    spell literal key (tablePieces schema table) = spelledTable schema table := by
  simp only [tablePieces, spelledTable, spell_cons, spell_nil, Piece.spelled,
    String.append_empty, String.append_assoc]

theorem spell_source (source : Source) :
    spell literal key source.pieces = source.spelled := by
  obtain ⟨schema, table, name, link⟩ := source
  cases link with
  | none =>
      simp only [Source.pieces, Source.spelled, spell_append, spell_table, spell_cons, spell_nil,
        Piece.spelled, String.append_empty, String.append_assoc]
  | some link =>
      simp only [Source.pieces, Source.spelled, spell_append, spell_table, spell_column,
        spell_cons, spell_nil, Piece.spelled, String.append_empty, String.append_assoc]

theorem spell_operand (operands : List Operand) (place : Nat) :
    spell literal key (operandPieces operands place) = spelledOperand literal operands place := by
  rw [operandPieces, spelledOperand]
  cases operands[place]? with
  | none => simp only [spell_cons, spell_nil, Piece.spelled, String.append_empty]
  | some operand => simp only [spell_cons, spell_nil, Piece.spelled, String.append_empty]

theorem spell_members (operands : List Operand) :
    (operands.map fun operand => [Piece.value (.ofOperand operand)]).map (spell literal key) =
      operands.map fun operand => literal (.ofOperand operand) := by
  rw [List.map_map]
  apply List.map_congr_left
  intro operand _
  exact String.append_empty

theorem spell_check (check : Check) (column : List Piece) (operands : List Operand) :
    spell literal key (checkPieces check column operands) =
      spelledCheck literal check (spell literal key column) operands := by
  cases check with
  | inSet =>
      simp only [checkPieces, spelledCheck, spelledMembers]
      split
      · exact String.append_empty
      · simp only [spell_append, spell_separated, spell_members, spell_cons, spell_nil,
          Piece.spelled, String.append_empty, String.append_assoc]
  | notInSet =>
      simp only [checkPieces, spelledCheck, spelledMembers]
      split
      · exact String.append_empty
      · simp only [spell_append, spell_separated, spell_members, spell_cons, spell_nil,
          Piece.spelled, String.append_empty, String.append_assoc]
  | _ =>
      simp only [checkPieces, spelledCheck, spell_append, spell_operand, spell_cons, spell_nil,
        Piece.spelled, String.append_empty, String.append_assoc]

mutual

theorem spell_condition : ∀ condition : Condition,
    spell literal key condition.pieces = condition.spelled literal key
  | .isKey column => by
      simp only [Condition.pieces, Condition.spelled, spell_append, spell_column, spell_cons,
        spell_nil, Piece.spelled, String.append_empty, String.append_assoc]
  | .correlation inner outer => by
      simp only [Condition.pieces, Condition.spelled, spell_append, spell_column, spell_cons,
        spell_nil, Piece.spelled, String.append_empty, String.append_assoc]
  | .test check column operands => by
      rw [Condition.pieces, Condition.spelled, spell_check]
      cases column with
      | none => rfl
      | some column => rw [Option.map_some, Option.map_some, Option.getD_some, Option.getD_some,
          spell_column]
  | .group connective parts => by
      simp only [Condition.pieces, Condition.spelled, spell_append, spell_separated,
        spell_conditions parts, spell_cons, spell_nil, Piece.spelled, String.append_empty,
        String.append_assoc]
  | .related join source conditions => by
      simp only [Condition.pieces, Condition.spelled, spell_append, spell_separated, spell_source,
        spell_conditions conditions, spell_cons, spell_nil, Piece.spelled, String.append_empty,
        String.append_assoc]
      cases join <;> rfl

theorem spell_conditions : ∀ conditions : List Condition,
    (Condition.pieceLists conditions).map (spell literal key) =
      Condition.spelledAll literal key conditions
  | [] => rfl
  | condition :: rest => by
      rw [Condition.pieceLists, Condition.spelledAll, List.map_cons, spell_condition condition,
        spell_conditions rest]

end

theorem spell_output (output : Output) :
    spell literal key output.pieces = output.spelled := by
  rw [Output.pieces, Output.spelled]
  split
  · simp only [spell_append, spell_column, spell_cons, spell_nil, Piece.spelled,
      String.append_empty, String.append_assoc]
  · simp only [spell_append, spell_column, spell_cons, spell_nil, Piece.spelled,
      String.append_empty, String.append_assoc]

theorem spell_order (entry : Column × Direction) :
    spell literal key (orderPieces entry) = spelledOrder entry := by
  simp only [orderPieces, spelledOrder, spell_append, spell_column, spell_cons, spell_nil,
    Piece.spelled, String.append_empty, String.append_assoc]

theorem spell_count (word : String) (count : Option UInt32) :
    spell literal key (countPieces word count) = spelledCount word count := by
  cases count with
  | none => rfl
  | some n => simp only [countPieces, spelledCount, spell_cons, spell_nil, Piece.spelled,
      String.append_empty]

mutual

/-- A statement has the same text with literals, whether it is put together from pieces or
written at once. -/
theorem spell_select : ∀ select : Select,
    spell literal key select.pieces = select.spelled literal key
  | ⟨outputs, relations, source, conditions, order, limit, offset⟩ => by
      have houtputs : (outputs.map Output.pieces).map (spell literal key) =
          outputs.map Output.spelled := by
        rw [List.map_map]
        exact List.map_congr_left fun output _ => spell_output output
      have horder : (order.map orderPieces).map (spell literal key) =
          order.map spelledOrder := by
        rw [List.map_map]
        exact List.map_congr_left fun entry _ => spell_order entry
      have hconditions : (conditions.map Condition.pieces).map (spell literal key) =
          Condition.spelledAll literal key conditions := by
        rw [← pieceLists_eq_map, spell_conditions]
      have hwhere : spell literal key (if conditions.isEmpty then []
          else [.text " WHERE "] ++ separated " AND " (conditions.map Condition.pieces)) =
            if conditions.isEmpty then ""
            else " WHERE " ++ String.intercalate " AND "
              (Condition.spelledAll literal key conditions) := by
        split
        · rfl
        · simp only [spell_append, spell_separated, hconditions, spell_cons, spell_nil,
            Piece.spelled, String.append_empty]
      simp only [Select.pieces, Select.spelled, spell_append, spell_separated, List.map_append,
        houtputs, horder, hwhere, spell_relations relations, spell_source, spell_count,
        spell_cons, spell_nil, Piece.spelled, String.append_empty, String.append_assoc]

theorem spell_relations : ∀ relations : List (String × RelationKind × Select),
    (Select.relationPieces relations).map (spell literal key) =
      Select.spelledRelations literal key relations
  | [] => rfl
  | (name, kind, select) :: rest => by
      simp only [Select.relationPieces, Select.spelledRelations, List.map_cons, spell_append,
        spell_select select, spell_relations rest, spell_cons, spell_nil, Piece.spelled,
        String.append_empty, String.append_assoc]

end

end RestQuery.Sql

namespace RestQuery

/-- The statement for a plan, restricted to the row with a key if one is given, in which the
literal of each value stands where the value is used. -/
def Catalog.spelled (catalog : Catalog) (literal : Sql.Value → String) (plan : Plan)
    (key : Option String) : Except CatalogError String := do
  let select ← Sql.select catalog plan key.isSome
  return select.spelled literal (key.getD "")

end RestQuery
