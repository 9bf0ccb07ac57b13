import RestQuery.Proofs.Catalog.Integrity
import RestQuery.Proofs.Sql.Pieces
import RestQuery.Proofs.Sql.Selections

/-!
# Values do not reach the text

The query for a plan has the same text and as many values, whatever the operands of the
clauses are.  Two plans that are the same but for operands are compared through the plan
in which each operand is replaced by a fixed one.

Main statement: `Plan.query_of_masked_eq`.
-/

namespace RestQuery

def Operand.masked (_ : Operand) : Operand := .bool false

namespace Clause

mutual

/-- A clause with fixed operands, as many as it had. -/
def masked : Clause → Clause
  | ⟨kind, field, operands, parts⟩ =>
    ⟨kind, field, operands.map Operand.masked, maskedAll parts⟩

def maskedAll : List Clause → List Clause
  | [] => []
  | part :: rest => part.masked :: maskedAll rest

end

theorem maskedAll_eq_map (parts : List Clause) : maskedAll parts = parts.map masked := by
  induction parts with
  | nil => rfl
  | cons part rest ih => rw [maskedAll, ih, List.map_cons]

mutual

@[simp]
theorem scope?_masked : ∀ clause : Clause, clause.masked.scope? = clause.scope?
  | ⟨_, some _, _, _⟩ => rfl
  | ⟨_, none, _, parts⟩ => firstScope?_maskedAll parts

theorem firstScope?_maskedAll :
    ∀ parts : List Clause, firstScope? (maskedAll parts) = firstScope? parts
  | [] => rfl
  | part :: rest => by
      rw [maskedAll, firstScope?, firstScope?, scope?_masked part, firstScope?_maskedAll rest]

end

end Clause

namespace Plan

mutual

/-- A plan with fixed operands in the clauses of each of its nodes. -/
def masked : Plan → Plan
  | ⟨resource, referrer, filters, joins, limit, offset, order, fields, relations, errors⟩ =>
    ⟨resource, referrer, filters.map Clause.masked, joins, limit, offset, order, fields,
      maskedBelow relations, errors⟩

def maskedBelow : List (String × Plan) → List (String × Plan)
  | [] => []
  | (name, plan) :: rest => (name, plan.masked) :: maskedBelow rest

end

@[simp]
theorem resource_masked (plan : Plan) : plan.masked.resource = plan.resource := by
  cases plan
  rfl

end Plan

namespace Sql

/-! ## Conditions -/

theorem shape_operandPieces (operands : List Operand) (place : Nat) :
    shape (operandPieces (operands.map Operand.masked) place) =
      shape (operandPieces operands place) := by
  rw [operandPieces, operandPieces, List.getElem?_map]
  cases operands[place]? <;> rfl

theorem shape_memberPieces (operands : List Operand) :
    shape (separated ", " ((operands.map Operand.masked).map fun operand =>
        [.value (.ofOperand operand)])) =
      shape (separated ", " (operands.map fun operand => [.value (.ofOperand operand)])) := by
  rw [shape_separated, shape_separated, List.map_map, List.map_map, List.map_map]
  rfl

/-- The pieces of a test are the same but for values, patterns among them. -/
theorem shape_checkPieces (check : Check) (column : List Piece) (operands : List Operand) :
    shape (checkPieces check column (operands.map Operand.masked)) =
      shape (checkPieces check column operands) := by
  cases check with
  | inSet =>
      simp only [checkPieces, List.isEmpty_map]
      split
      · rfl
      · simp only [shape_append, shape_memberPieces]
  | notInSet =>
      simp only [checkPieces, List.isEmpty_map]
      split
      · rfl
      · simp only [shape_append, shape_memberPieces]
  | _ => simp [checkPieces, shape_operandPieces, Piece.masked]

/-- What a condition looks like, but for its values. -/
def Condition.shape (condition : Condition) : List Piece := Sql.shape condition.pieces

theorem shape_separated_pieceLists (between : String) (conditions : List Condition) :
    shape (separated between (Condition.pieceLists conditions)) =
      separated between (conditions.map Condition.shape) := by
  rw [shape_separated, pieceLists_eq_map, List.map_map]
  rfl

theorem shape_related (join : JoinKind) (source : Source) {first second : List Condition}
    (hshape : first.map Condition.shape = second.map Condition.shape) :
    (Condition.related join source first).shape = (Condition.related join source second).shape := by
  simp only [Condition.shape, Condition.pieces, shape_append, shape_separated_pieceLists, hshape]

namespace Site

variable {catalog : Catalog} {site : Site}

mutual

theorem shape_condition (site : Site) :
    ∀ clause : Clause, (site.condition clause.masked).shape = (site.condition clause).shape
  | ⟨.test check, field, operands, _⟩ => shape_checkPieces check _ operands
  | ⟨.group connective, _, _, parts⟩ => by
      have hparts := shape_conditionList site parts
      simp only [Clause.masked, condition, Condition.shape, Condition.pieces, shape_append,
        shape_separated_pieceLists]
      rw [hparts]

theorem shape_conditionList (site : Site) :
    ∀ parts : List Clause,
      (site.conditionList (Clause.maskedAll parts)).map Condition.shape =
        (site.conditionList parts).map Condition.shape
  | [] => rfl
  | part :: rest => by
      simp only [Clause.maskedAll, conditionList, List.map_cons]
      rw [shape_condition site part, shape_conditionList site rest]

end

@[simp]
theorem relationOf?_masked (clause : Clause) : relationOf? clause.masked = relationOf? clause := by
  rw [relationOf?, relationOf?, Clause.scope?_masked]

/-- The clauses that a test of their relation selects are masked with all the others. -/
theorem filter_map_masked (selects : Option String → Bool) (clauses : List Clause) :
    (clauses.map Clause.masked).filter (fun clause => selects (relationOf? clause)) =
      Clause.maskedAll (clauses.filter fun clause => selects (relationOf? clause)) := by
  rw [Clause.maskedAll_eq_map, List.filter_map]
  simp only [Function.comp_def, relationOf?_masked]

theorem shape_filteredConditions (site : Site) (selects : Option String → Bool)
    (clauses : List Clause) :
    (site.conditionList ((clauses.map Clause.masked).filter
        fun clause => selects (relationOf? clause))).map Condition.shape =
      (site.conditionList (clauses.filter
        fun clause => selects (relationOf? clause))).map Condition.shape := by
  rw [filter_map_masked, shape_conditionList]

/-- Operands do not change the shape of the condition for a join, nor whether there is one. -/
theorem joinCondition_masked (filters : List Clause) (name : String) (join : JoinKind) :
    (site.joinCondition catalog (filters.map Clause.masked) name join).map Condition.shape =
      (site.joinCondition catalog filters name join).map Condition.shape := by
  unfold joinCondition
  cases site.follow catalog name (·.target) (.join site.name name) with
  | error error => rfl
  | ok found =>
      obtain ⟨relation, joined⟩ := found
      refine congrArg Except.ok (shape_related join joined.source ?_)
      cases join with
      | leftExclusive => rfl
      | inner =>
          rw [List.map_cons, List.map_cons]
          exact congrArg _ (shape_filteredConditions site (· = some name) filters)

theorem joins_masked (plan : Plan) : joins plan.masked = joins plan := by
  obtain ⟨resource, referrer, filters, joined, limit, offset, order, fields, relations, errors⟩ :=
    plan
  have hrelation : relationOf? ∘ Clause.masked = relationOf? := by
    funext clause
    exact relationOf?_masked clause
  rw [Plan.masked, joins, joins, List.filterMap_map, hrelation]

end Site

/-! ## Selections -/

/-- What a selection looks like, but for its values. -/
def Select.shape (select : Select) : List Piece := Sql.shape select.pieces

theorem shape_select {outputs : List Output} {source : Source}
    {order : List (Column × Direction)} {limit offset : Option UInt32}
    {below others : List (String × RelationKind × Select)} {first second : List Condition}
    (hrelations : (Select.relationPieces below).map Sql.shape =
      (Select.relationPieces others).map Sql.shape)
    (hconditions : first.map Condition.shape = second.map Condition.shape) :
    Select.shape ⟨outputs, below, source, first, order, limit, offset⟩ =
      Select.shape ⟨outputs, others, source, second, order, limit, offset⟩ := by
  have hlength : first.length = second.length := by
    simpa using congrArg List.length hconditions
  have hempty : first.isEmpty = second.isEmpty := by
    cases first <;> cases second <;> simp_all
  have hpieces : (first.map Condition.pieces).map Sql.shape =
      (second.map Condition.pieces).map Sql.shape := by
    rw [List.map_map, List.map_map]
    exact hconditions
  simp only [Select.shape, Select.pieces, shape_append, shape_separated, List.map_append,
    hrelations, hempty]
  split
  · rfl
  · simp only [shape_append, shape_separated, hpieces]

mutual

/-- Operands do not change the shape of a selection, nor whether there is one. -/
theorem Site.select_masked (catalog : Catalog) (site : Site) (depth : Nat)
    (first : List Condition) : ∀ plan : Plan,
      (site.select catalog depth first plan.masked).map Select.shape =
        (site.select catalog depth first plan).map Select.shape
  | ⟨resource, referrer, filters, joined, limit, offset, order, fields, relations, errors⟩ => by
      simp only [Plan.masked, Site.select]
      apply map_bind_congr (Site.selectRelations_masked catalog site depth relations)
      intro below others hrelations
      have hjoins : Site.joins ⟨resource, referrer, filters.map Clause.masked, joined, limit,
            offset, order, fields, [], errors⟩ =
          Site.joins ⟨resource, referrer, filters, joined, limit, offset, order, fields, [],
            errors⟩ :=
        Site.joins_masked ⟨resource, referrer, filters, joined, limit, offset, order, fields, [],
          errors⟩
      rw [hjoins]
      apply map_bind_congr
      · apply map_mapM_congr
        intro entry
        exact Site.joinCondition_masked filters entry.1 entry.2
      · intro related other hrelated
        refine congrArg Except.ok (shape_select hrelations ?_)
        have hplain := site.shape_filteredConditions (· = none) filters
        rw [List.map_append, List.map_append, List.map_append, List.map_append, hplain, hrelated]

theorem Site.selectRelations_masked (catalog : Catalog) (site : Site) (depth : Nat) :
    ∀ relations : List (String × Plan),
      (site.selectRelations catalog depth (Plan.maskedBelow relations)).map
          (fun below => (Select.relationPieces below).map Sql.shape) =
        (site.selectRelations catalog depth relations).map
          (fun below => (Select.relationPieces below).map Sql.shape)
  | [] => rfl
  | (name, plan) :: rest => by
      simp only [Plan.maskedBelow, Site.selectRelations, Plan.resource_masked]
      cases site.follow catalog name (fun _ => plan.resource) (.level (depth + 1)) with
      | error error => rfl
      | ok found =>
          obtain ⟨relation, inner⟩ := found
          apply map_bind_congr (Site.select_masked catalog inner (depth + 1) _ plan)
          intro select other hselect
          apply map_bind_congr (Site.selectRelations_masked catalog site depth rest)
          intro below others hrelations
          refine congrArg Except.ok ?_
          have hpieces : Sql.shape select.pieces = Sql.shape other.pieces := hselect
          simp only [Select.relationPieces, List.map_cons, shape_append, hpieces, hrelations]

end

theorem select_masked (catalog : Catalog) (plan : Plan) (keyed : Bool) :
    (select catalog plan.masked keyed).map Select.shape =
      (select catalog plan keyed).map Select.shape := by
  simp only [select, Plan.resource_masked]
  cases catalog.resource plan.resource with
  | error error => rfl
  | ok resource => exact Site.select_masked catalog ⟨resource, .level 0, none⟩ 0 _ plan

end Sql

/-- Two plans that differ in operands only, and any two keys, have both no query, for
the same reason, or queries of one text with as many values. -/
theorem Plan.query_of_masked_eq {first second : Plan} (hmasked : first.masked = second.masked)
    {key other : Option String} (hkeyed : key.isSome = other.isSome) (catalog : Catalog) :
    (∃ error, catalog.query first key = .error error ∧
        catalog.query second other = .error error) ∨
      ∃ query same, catalog.query first key = .ok query ∧ catalog.query second other = .ok same ∧
        query.text = same.text ∧ query.params.length = same.params.length := by
  have hshape : (Sql.select catalog first key.isSome).map Sql.Select.shape =
      (Sql.select catalog second other.isSome).map Sql.Select.shape := by
    calc
      (Sql.select catalog first key.isSome).map Sql.Select.shape
          = (Sql.select catalog first.masked key.isSome).map Sql.Select.shape :=
            (Sql.select_masked catalog first key.isSome).symm
      _ = (Sql.select catalog second.masked other.isSome).map Sql.Select.shape := by
            rw [hmasked, hkeyed]
      _ = (Sql.select catalog second other.isSome).map Sql.Select.shape :=
            Sql.select_masked catalog second other.isSome
  unfold Catalog.query
  cases hfirst : Sql.select catalog first key.isSome with
  | error error =>
      cases hsecond : Sql.select catalog second other.isSome with
      | error otherError =>
          rw [hfirst, hsecond] at hshape
          obtain rfl := Except.error.inj hshape
          exact .inl ⟨error, rfl, rfl⟩
      | ok select =>
          rw [hfirst, hsecond] at hshape
          cases hshape
  | ok select =>
      cases hsecond : Sql.select catalog second other.isSome with
      | error error =>
          rw [hfirst, hsecond] at hshape
          cases hshape
      | ok otherSelect =>
          rw [hfirst, hsecond] at hshape
          exact .inr ⟨_, _, rfl, rfl,
            Sql.query_of_shape_eq hkeyed (Except.ok.inj hshape)⟩

/-- The cabins of the areas, those whose name has some words in it. -/
def Sample.cabinsNamed (words : String) : Plan :=
  { resource := "area"
    relations :=
      [("cabins",
        { resource := "cabin"
          filters := [.onField .likeContains ⟨.resource, "name"⟩ [.text words]] })] }

theorem Plan.query_of_masked_eq_cabins :
    ∃ query same,
      Sample.catalog.query (Sample.cabinsNamed "lake") (some "1") = .ok query ∧
      Sample.catalog.query (Sample.cabinsNamed "100% OR TRUE") (some "2 OR TRUE")
        = .ok same ∧
      query.text = same.text ∧ query.params.length = same.params.length := by
  have hmasked : (Sample.cabinsNamed "lake").masked = (Sample.cabinsNamed "100% OR TRUE").masked :=
    rfl
  have hkeyed : (some "1").isSome = (some "2 OR TRUE").isSome := rfl
  have hok : (Sample.catalog.query (Sample.cabinsNamed "lake") (some "1")).isOk = true := by
    decide +kernel
  rcases Plan.query_of_masked_eq hmasked hkeyed Sample.catalog with ⟨error, herror, -⟩ | hqueries
  · rw [herror] at hok
    cases hok
  · exact hqueries

end RestQuery
