import RestQuery.Proofs.Filter.Clauses

/-!
# Rules only restrict filters

The clauses of a filter show which operator they stand for.  A rule leaves them as they are if it
allows this operator, and refuses them by its name if it does not; it never turns a value in
disorder into clauses.

Main statement: `Filter.rule_restricts`.
-/

namespace RestQuery.Filter

/-- The operator that the clauses for a field of a type stand for. -/
def operatorOf? (type : FieldType) : List Clause → Option Operator
  | [⟨.test .isNotNull, _, _, _⟩, ⟨.test .nonEmpty, _, _, _⟩] => some .isNotNull
  | [⟨.group .any, _, _, [⟨.test .isNull, _, _, _⟩, ⟨.test .empty, _, _, _⟩]⟩] => some .isNull
  | [⟨.test check, _, _, _⟩] => check.operator? type
  | _ => none

/-- The operator that a join and its clauses stand for. -/
def existenceOperator? : JoinKind × List Clause → Option Operator
  | (.inner, []) => some .isNotNull
  | (.leftExclusive, [⟨.test .isNull, _, _, _⟩]) => some .isNull
  | _ => none

/-- What a rule makes of a result that stands for an operator: it keeps the result of an operator
that it allows, refuses every other one, and mends nothing. -/
structure Restricts (rule : FilterRule) (operator? : α → Option Operator)
    (free ruled : Except Problem α) : Prop where
  ok : ∀ result, free = .ok result → ∃ operator, operator? result = some operator ∧
    ruled = if rule.allows operator then .ok result else .error (.unsupportedOperator operator)
  error : ∀ problem, free = .error problem → ∃ other, ruled = .error other

variable {type : FieldType} {field : FieldRef} {intent : Intent}

/-- The clauses by which an operator is applied show which operator it is. -/
theorem Stands.operatorOf?_eq {operator : Operator} {clauses : List Clause}
    (hstands : Stands type field operator clauses) : operatorOf? type clauses = some operator := by
  cases hstands with
  | present => rfl
  | absent => rfl
  | test hoperator => simpa [operatorOf?, Clause.onField] using hoperator

theorem restricts_error (rule : FilterRule) (operator? : α → Option Operator)
    (problem : Problem) : Restricts rule operator? (.error problem) (.error problem) where
  ok := nofun
  error _ _ := ⟨problem, rfl⟩

/-- A result that one operator is asked for is as good as the rule that allows it. -/
theorem restricts_require (rule : FilterRule) {operator? : α → Option Operator} {result : α}
    {operator : Operator} (hoperator : operator? result = some operator) :
    Restricts rule operator? (.ok result)
      (if rule.allows operator then .ok result else .error (.unsupportedOperator operator)) where
  ok other hother := ⟨operator, Except.ok.inj hother ▸ hoperator, by rw [Except.ok.inj hother]⟩
  error := nofun

/-- What a rule makes of an intent depends on the operator that its clauses show. -/
theorem Intent.Shaped.restricts (hshaped : intent.Shaped type field) (rule : FilterRule) :
    Restricts rule (operatorOf? type) (intent.permit {}) (intent.permit rule) := by
  have hfree : intent.permit {} = intent.clauses := rfl
  rw [hfree, permit]
  cases hclauses : intent.clauses with
  | ok clauses => exact restricts_require rule (hshaped clauses hclauses).operatorOf?_eq
  | error problem =>
      refine ⟨nofun, fun _ _ => ?_⟩
      split
      · exact ⟨problem, rfl⟩
      · exact ⟨_, rfl⟩

theorem compileText_restricts (rule : FilterRule) (type : FieldType) (field : FieldRef)
    (value : String) :
    Restricts rule (operatorOf? type) (compileText type field {} value)
      (compileText type field rule value) := by
  rw [compileText, compileText]
  cases hread : read type field value with
  | error problem => exact restricts_error rule _ problem
  | ok intent => exact (shaped_read hread).restricts rule

theorem compileExistence_restricts (rule : FilterRule) (relation : Relation) (value : String) :
    Restricts rule existenceOperator? (compileExistence relation {} value)
      (compileExistence relation rule value) := by
  rw [compileExistence, compileExistence]
  dsimp only
  split
  · exact restricts_require rule rfl
  split
  · exact restricts_require rule rfl
  · exact restricts_error rule _ _

/-- Where no rule refuses anything, the clauses of a filter stand for an operator, and every rule
leaves them or refuses just this operator; a value in disorder stays so under every rule. -/
theorem rule_restricts (rule : FilterRule) :
    (∀ type field value, Restricts rule (operatorOf? type) (compileText type field {} value)
      (compileText type field rule value)) ∧
    ∀ relation value, Restricts rule existenceOperator? (compileExistence relation {} value)
      (compileExistence relation rule value) :=
  ⟨compileText_restricts rule, compileExistence_restricts rule⟩

end RestQuery.Filter
