import RestQuery.Sql.Text

/-!
# Pieces without their values

The text of a statement has a number in the place of each value, so that it depends on
where the values are but not on what they are.
-/

namespace RestQuery.Sql

def Piece.masked : Piece → Piece
  | .value _ => .value (.bool false)
  | .text s => .text s
  | .name s => .name s
  | .key => .key

/-- What pieces are like, but for their values. -/
def shape (pieces : List Piece) : List Piece := pieces.map Piece.masked

@[simp]
theorem shape_append (first second : List Piece) :
    shape (first ++ second) = shape first ++ shape second :=
  List.map_append

@[simp]
theorem shape_cons (piece : Piece) (rest : List Piece) :
    shape (piece :: rest) = piece.masked :: shape rest := rfl

theorem toList_placeholder (number : Nat) :
    (placeholder number).toList = '$' :: Nat.toDigits 10 number := by
  simp [placeholder, Nat.toList_repr]

theorem pieceLists_eq_map (conditions : List Condition) :
    Condition.pieceLists conditions = conditions.map Condition.pieces := by
  induction conditions with
  | nil => rfl
  | cons condition rest ih => rw [Condition.pieceLists, ih, List.map_cons]

theorem relationPieces_eq_map {relations : List (String × RelationKind × Select)} :
    Select.relationPieces relations = relations.map fun entry =>
      [.text (wrapping entry.2.1).1] ++ entry.2.2.pieces
        ++ [.text (wrapping entry.2.1).2, .text " AS ", .name entry.1] := by
  induction relations with
  | nil => rfl
  | cons entry rest ih => rw [Select.relationPieces, ih, List.map_cons]

theorem separated_cons_cons (between : String) (first second : List Piece)
    (rest : List (List Piece)) :
    separated between (first :: second :: rest) =
      first ++ [.text between] ++ separated between (second :: rest) := rfl

theorem map_separated {step : Piece → Piece} {between : String}
    (hbetween : step (.text between) = .text between) (parts : List (List Piece)) :
    (separated between parts).map step = separated between (parts.map (List.map step)) := by
  induction parts with
  | nil => rfl
  | cons part rest ih =>
      cases rest with
      | nil => rfl
      | cons next others =>
          rw [separated_cons_cons, List.map_append, List.map_append, ih, List.map_singleton,
            hbetween]
          rfl

theorem shape_separated (between : String) (parts : List (List Piece)) :
    shape (separated between parts) = separated between (parts.map shape) :=
  map_separated rfl parts

/-- The values of pieces do not show in their text. -/
theorem textFrom_shape (number : Nat) (pieces : List Piece) :
    textFrom number (shape pieces) = textFrom number pieces := by
  induction pieces generalizing number with
  | nil => rfl
  | cons piece rest ih =>
      have hrest : ∀ number, textFrom number (rest.map Piece.masked) = textFrom number rest := ih
      cases piece <;> simp [shape, Piece.masked, textFrom, hrest]

theorem length_values_shape (pieces : List Piece) :
    (values (shape pieces)).length = (values pieces).length := by
  induction pieces with
  | nil => rfl
  | cons piece rest ih =>
      have hrest : (values (rest.map Piece.masked)).length = (values rest).length := ih
      cases piece <;> simp [shape, Piece.masked, values, hrest]

/-- A query is decided by the shape of its pieces, but for the values. -/
theorem query_of_shape_eq {key other : Option String} {first second : List Piece}
    (hkeyed : key.isSome = other.isSome) (hshape : shape first = shape second) :
    (Query.ofPieces key first).text = (Query.ofPieces other second).text ∧
      (Query.ofPieces key first).params.length = (Query.ofPieces other second).params.length := by
  have htext : ∀ number, textFrom number first = textFrom number second := by
    intro number
    calc
      textFrom number first = textFrom number (shape first) := (textFrom_shape number first).symm
      _ = textFrom number (shape second) := by rw [hshape]
      _ = textFrom number second := textFrom_shape number second
  have hvalues : (values first).length = (values second).length := by
    calc
      (values first).length = (values (shape first)).length := (length_values_shape first).symm
      _ = (values (shape second)).length := by rw [hshape]
      _ = (values second).length := length_values_shape second
  have hkeys : (key.map Value.text).toList.length = (other.map Value.text).toList.length := by
    cases key <;> cases other <;> simp_all
  constructor
  · simp only [Query.ofPieces, htext, hkeyed]
  · simp only [Query.ofPieces, List.length_append, hkeys, hvalues]

def Piece.isName : Piece → Bool
  | name _ => true
  | _ => false

/-! ## Parts of pieces -/

theorem forall_mem_separated {P : Piece → Prop} {between : String} {parts : List (List Piece)}
    (hbetween : P (.text between)) (hparts : ∀ part ∈ parts, ∀ piece ∈ part, P piece) :
    ∀ piece ∈ separated between parts, P piece := by
  induction parts with
  | nil => simp [separated]
  | cons part rest ih =>
      have hpart := hparts part List.mem_cons_self
      have hrest := ih fun other hmem => hparts other (List.mem_cons_of_mem part hmem)
      cases rest with
      | nil => exact hpart
      | cons next others =>
          rw [separated_cons_cons, List.forall_mem_append, List.forall_mem_append]
          exact ⟨⟨hpart, List.forall_mem_singleton.2 hbetween⟩, hrest⟩

/-- Each part stands among the parts with words between them. -/
theorem infix_separated {part : List Piece} {parts : List (List Piece)} (between : String)
    (hmem : part ∈ parts) : part <:+: separated between parts := by
  induction parts with
  | nil => cases hmem
  | cons first rest ih =>
      cases rest with
      | nil =>
          obtain rfl := List.mem_singleton.1 hmem
          exact List.infix_refl _
      | cons next others =>
          rw [separated_cons_cons]
          rcases List.mem_cons.1 hmem with rfl | hmem
          · rw [List.append_assoc]
            exact List.infix_append_left
          · exact List.infix_append_of_infix_right (ih hmem)

/-! ## Values -/

@[simp]
theorem values_append (first second : List Piece) :
    values (first ++ second) = values first ++ values second := by
  induction first with
  | nil => rfl
  | cons piece rest ih => cases piece <;> simp [values, ih]

theorem values_separated (between : String) (parts : List (List Piece)) :
    values (separated between parts) = parts.flatMap values := by
  induction parts with
  | nil => rfl
  | cons part rest ih =>
      cases rest with
      | nil => simp [separated]
      | cons next others =>
          rw [separated_cons_cons, values_append, values_append, ih, List.flatMap_cons]
          simp [values]

end RestQuery.Sql
