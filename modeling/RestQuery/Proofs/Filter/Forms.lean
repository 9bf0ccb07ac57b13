import RestQuery.Proofs.Filter.Clauses
import RestQuery.Proofs.Sql.Placeholders

/-!
# The forms of clauses

A statement can be written for a test that lacks operands: it then has `NULL` in their place, or a
truth value in the place of an empty set.  The clauses of filters never lack any.  They have one of
a few forms, with operands of the type of their field.

Main statement: `Filter.compile_forms`.
-/

namespace RestQuery

/-! ## Clauses -/

namespace Check

def isLike : Check → Bool
  | .likeContains | .likePrefix | .likeSuffix | .notLike => true
  | _ => false

def isSingle : Check → Bool
  | .equals | .notEquals | .lessThan | .lessThanOrEqual | .greaterThan | .greaterThanOrEqual => true
  | check => check.isLike

end Check

/-- The forms of a clause of a filter on a field of a type. -/
inductive Clause.WellFormed (type : FieldType) (field : FieldRef) : Clause → Prop
  | isNotNull : WellFormed type field (.onField .isNotNull field [])
  | nonEmpty : WellFormed type field (.onField .nonEmpty field [])
  | absent : WellFormed type field (.anyOf [.onField .isNull field [], .onField .empty field []])
  | inSet {operands : List Operand} (hsome : operands ≠ [])
      (htype : ∀ operand ∈ operands, operand.type = type) :
      WellFormed type field (.onField .inSet field operands)
  | notInSet {operands : List Operand} (hsome : operands ≠ [])
      (htype : ∀ operand ∈ operands, operand.type = type) :
      WellFormed type field (.onField .notInSet field operands)
  | between {low high : Operand} (hlow : low.type = type) (hhigh : high.type = type) :
      WellFormed type field (.onField .between field [low, high])
  | single {check : Check} {operand : Operand} (hsingle : check.isSingle = true)
      (hlike : check.isLike = true → type = .string) (htype : operand.type = type) :
      WellFormed type field (.onField check field [operand])

namespace Clause

mutual

/-- The tests that a clause is put together from. -/
def leaves : Clause → List Clause
  | ⟨.test check, field, operands, parts⟩ => [⟨.test check, field, operands, parts⟩]
  | ⟨.group _, _, _, parts⟩ => leavesAll parts

def leavesAll : List Clause → List Clause
  | [] => []
  | part :: rest => part.leaves ++ leavesAll rest

end

variable {type : FieldType} {field : FieldRef} {clause : Clause}

theorem WellFormed.field_eq (hformed : clause.WellFormed type field) :
    ∀ leaf ∈ clause.leaves, leaf.field = some field := by
  cases hformed with
  | absent => simp [leaves, leavesAll, anyOf, onField]
  | _ => simp [leaves, onField]

end Clause

/-! ## Conditions -/

namespace Sql

/-- What a condition has in the place of operands that it lacks. -/
def fallbacks : List Piece := [.text "NULL", .text "FALSE", .text "TRUE"]

/-- Nothing stands in the place of an operand. -/
def Complete (pieces : List Piece) : Prop := ∀ piece ∈ pieces, piece ∉ fallbacks

@[simp]
theorem text_mem_fallbacks (s : String) :
    Piece.text s ∈ fallbacks ↔ s = "NULL" ∨ s = "FALSE" ∨ s = "TRUE" := by
  simp [fallbacks]

@[simp]
theorem name_not_mem_fallbacks (s : String) : Piece.name s ∉ fallbacks := by simp [fallbacks]

@[simp]
theorem value_not_mem_fallbacks (v : Value) : Piece.value v ∉ fallbacks := by simp [fallbacks]

@[simp]
theorem complete_nil : Complete [] := by simp [Complete]

@[simp]
theorem complete_cons {piece : Piece} {rest : List Piece} :
    Complete (piece :: rest) ↔ piece ∉ fallbacks ∧ Complete rest := List.forall_mem_cons

@[simp]
theorem complete_append {first second : List Piece} :
    Complete (first ++ second) ↔ Complete first ∧ Complete second := List.forall_mem_append

theorem complete_separated {between : String} {parts : List (List Piece)}
    (hbetween : Piece.text between ∉ fallbacks) (hparts : ∀ part ∈ parts, Complete part) :
    Complete (separated between parts) :=
  forall_mem_separated hbetween hparts

/-- No table is named like what stands in the place of an operand. -/
theorem complete_column (column : Column) : Complete column.pieces := by
  have halias : Piece.text column.table.text ∉ fallbacks := by
    intro hmem
    have hhead := column.table.head?_text
    rcases (text_mem_fallbacks _).1 hmem with heq | heq | heq <;> simp [heq] at hhead
  exact complete_cons.2 ⟨halias, by simp⟩

theorem complete_members (operands : List Operand) :
    Complete (separated ", " (operands.map fun operand => [.value (.ofOperand operand)])) := by
  apply complete_separated (by decide)
  intro part hmem
  obtain ⟨operand, -, rfl⟩ := List.mem_map.1 hmem
  simp

/-- A test with as many operands as it takes is written without a substitute for one. -/
theorem complete_check {check : Check} {column : List Piece} {operands : List Operand}
    (hcolumn : Complete column) (hcount : check.takes operands.length = true) :
    Complete (checkPieces check column operands) := by
  cases check with
  | isNull | isNotNull | nonEmpty | empty => simp [checkPieces, hcolumn]
  | inSet | notInSet =>
      have hsome : operands.isEmpty = false := by
        cases operands with
        | nil => cases hcount
        | cons => rfl
      have hmembers := complete_members operands
      simp [checkPieces, hsome, hcolumn, hmembers]
  | between =>
      obtain ⟨low, high, rfl⟩ := List.length_eq_two.1 (of_decide_eq_true hcount)
      simp [checkPieces, operandPieces, hcolumn]
  | _ =>
      obtain ⟨operand, rfl⟩ := List.length_eq_one_iff.1 (of_decide_eq_true hcount)
      simp [checkPieces, operandPieces, hcolumn]

/-- The condition for a clause of a filter has all its operands. -/
theorem complete_condition (site : Site) {type : FieldType} {field : FieldRef}
    {operator : Operator} {clause : Clause} (happlies : clause.Applies type field operator) :
    Complete (site.condition clause).pieces := by
  induction happlies with
  | test _ hcount _ => exact complete_check (complete_column _) hcount
  | @anyOf parts _ _ ih =>
      have hconditions : Complete (separated (connectiveText .any)
          ((site.conditionList parts).map Condition.pieces)) := by
        apply complete_separated (by decide)
        rw [Site.conditionList_eq_map, List.map_map]
        exact List.forall_mem_map.2 ih
      rw [← pieceLists_eq_map] at hconditions
      simp [Clause.anyOf, Site.condition, Condition.pieces, hconditions]

end Sql

/-! ## Filters -/

namespace Filter

variable {type : FieldType} {field : FieldRef} {rule : FilterRule} {clauses : List Clause}
  {problems : List Problem}

theorem Stands.wellFormed {operator : Operator} (hstands : Stands type field operator clauses) :
    ∀ clause ∈ clauses, clause.WellFormed type field := by
  cases hstands with
  | present =>
      exact List.forall_mem_cons.2 ⟨.isNotNull, List.forall_mem_singleton.2 .nonEmpty⟩
  | absent => exact List.forall_mem_singleton.2 .absent
  | @test _ check operands hoperator hsome hcount htype =>
      refine List.forall_mem_singleton.2 ?_
      cases check with
      | inSet => exact .inSet hsome htype
      | notInSet => exact .notInSet hsome htype
      | between =>
          obtain ⟨low, high, rfl⟩ := List.length_eq_two.1 (of_decide_eq_true hcount)
          exact .between (htype low (by simp)) (htype high (by simp))
      | isNull | isNotNull | nonEmpty | empty =>
          exact absurd (List.length_eq_zero_iff.1 (of_decide_eq_true hcount)) hsome
      | fullTextMatch => cases type <;> cases hoperator
      | likeContains | likePrefix | likeSuffix | notLike =>
          obtain ⟨operand, rfl⟩ := List.length_eq_one_iff.1 (of_decide_eq_true hcount)
          refine .single rfl (fun _ => ?_) (htype operand (by simp))
          cases type <;> first | rfl | cases hoperator
      | _ =>
          obtain ⟨operand, rfl⟩ := List.length_eq_one_iff.1 (of_decide_eq_true hcount)
          exact .single rfl nofun (htype operand (by simp))

theorem Composed.wellFormed (hcomposed : Composed type field rule clauses) :
    ∀ clause ∈ clauses, clause.WellFormed type field := by
  intro clause hmem
  obtain ⟨operator, part, -, hstands, hpart⟩ := hcomposed.2 clause hmem
  exact hstands.wellFormed clause hpart

/-- The problems of several texts are those of the texts in disorder, in the order of the texts. -/
theorem failure?_compileTexts (type : FieldType) (field : FieldRef) (rule : FilterRule)
    (values : List String) :
    (failure? (compileTexts type field rule values)).getD [] =
      values.filterMap fun value => failure? (compileText type field rule value) := by
  induction values with
  | nil => rfl
  | cons value rest ih =>
      rw [compileTexts, List.filterMap_cons, ← ih]
      cases compileText type field rule value <;> cases compileTexts type field rule rest <;> rfl

/-- What a filter's value becomes: clauses for which a statement can be written without anything in
the place of operands, or problems.  Those of an array are the ones of its texts, unless it has
none. -/
structure Forms (type : FieldType) (field : FieldRef) (rule : FilterRule)
    (value : ParamValue) : Prop where
  nonempty {clauses : List Clause} (hcompile : compile type field rule value = .ok clauses) :
    clauses ≠ []
  formed {clauses : List Clause} (hcompile : compile type field rule value = .ok clauses) :
    ∀ clause ∈ clauses, clause.WellFormed type field
  leaves {clauses : List Clause} (hcompile : compile type field rule value = .ok clauses) :
    ∀ clause ∈ clauses, ∀ leaf ∈ clause.leaves, leaf.field = some field
  complete {clauses : List Clause} (hcompile : compile type field rule value = .ok clauses)
    (site : Sql.Site) : ∀ clause ∈ clauses, Sql.Complete (site.condition clause).pieces
  problems {values : List String} {problems : List Problem} (hvalue : value = .texts values)
    (hcompile : compile type field rule value = .error problems) :
    problems = if values = [] then [.invalidValueType]
      else values.filterMap fun value => failure? (compileText type field rule value)

theorem compile_forms (type : FieldType) (field : FieldRef) (rule : FilterRule)
    (value : ParamValue) : Forms type field rule value where
  nonempty hcompile := (compile_composed hcompile).1
  formed hcompile := (compile_composed hcompile).wellFormed
  leaves hcompile clause hmem := ((compile_composed hcompile).wellFormed clause hmem).field_eq
  complete hcompile site clause hmem := by
    obtain ⟨operator, -, happlies⟩ := (compile_allowed hcompile).2 clause hmem
    exact Sql.complete_condition site happlies
  problems {values problems} hvalue hcompile := by
    subst hvalue
    cases values with
    | nil => exact (Except.error.inj hcompile).symm
    | cons first rest =>
        have hcompiled : compileTexts type field rule (first :: rest) = .error problems := hcompile
        rw [if_neg (List.cons_ne_nil first rest), ← failure?_compileTexts, hcompiled]
        rfl

/-- Several texts for one number, and the same with a text in disorder. -/
theorem compile_forms_numbers :
    (∀ clause ∈ [Clause.onField .greaterThan ⟨.resource, "beds"⟩ [.integer 1],
      .onField .inSet ⟨.resource, "beds"⟩ [.integer 4, .integer 8]],
      clause.WellFormed .number ⟨.resource, "beds"⟩) ∧
    [Problem.invalidFilterValue "<nine"] = [">1", "<nine"].filterMap fun value =>
      failure? (compileText .number ⟨.resource, "beds"⟩ {} value) :=
  ⟨(compile_forms .number ⟨.resource, "beds"⟩ {} (.texts [">1", "$in:4,8"])).formed rfl,
    (compile_forms .number ⟨.resource, "beds"⟩ {} (.texts [">1", "<nine"])).problems rfl rfl⟩

/-- An array without elements is refused, though none of its elements is. -/
theorem compile_no_texts :
    compile .number ⟨.resource, "beds"⟩ {} (.texts []) = .error [.invalidValueType] ∧
      ([].filterMap fun value =>
        failure? (compileText .number ⟨.resource, "beds"⟩ {} value)) ≠ [Problem.invalidValueType] :=
  ⟨rfl, by simp⟩

end Filter

end RestQuery
