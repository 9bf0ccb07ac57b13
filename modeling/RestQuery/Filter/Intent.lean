import RestQuery.Catalog.Basic
import RestQuery.Plan.Clause
import RestQuery.Request.Error

/-!
# What a filter value asks for

A filter value asks for one operator and, if the rest of the value is in order, for clauses on
a field.  The rule of a filter permits or refuses the operator, and only the clauses of a
permitted one count.

Main statement: `permit_eq_ok_iff` says when clauses result.
-/

namespace RestQuery.Filter

/-- An operator and the clauses that apply it. -/
structure Intent where
  operator : Operator
  clauses : Except Problem (List Clause)

namespace Intent

def permit (intent : Intent) (rule : FilterRule) : Except Problem (List Clause) :=
  if rule.allows intent.operator then intent.clauses
  else .error (.unsupportedOperator intent.operator)

/-- A rule decides by the operator alone; a problem of the value is reported only if it allows that.
-/
theorem permit_eq_ok_iff {intent : Intent} {rule : FilterRule} {clauses : List Clause} :
    intent.permit rule = .ok clauses ↔
      rule.allows intent.operator = true ∧ intent.clauses = .ok clauses := by
  unfold permit
  split <;> simp_all

def test (operator : Operator) (check : Check) (field : FieldRef) (operands : List Operand) :
    Intent :=
  ⟨operator, .ok [.onField check field operands]⟩

/-- The field has a value that is not empty. -/
def present (field : FieldRef) : Intent :=
  ⟨.isNotNull, .ok [.onField .isNotNull field [], .onField .nonEmpty field []]⟩

/-- The field has no value or an empty one. -/
def absent (field : FieldRef) : Intent :=
  ⟨.isNull, .ok [.anyOf [.onField .isNull field [], .onField .empty field []]]⟩

end Intent

/-- What a value asks for that stands for presence or absence: the empty value for presence,
an exclamation mark for absence. -/
def presence? (field : FieldRef) (value : String) : Option Intent :=
  if value = "" then some (.present field)
  else if value = "!" then some (.absent field)
  else none

end RestQuery.Filter
