import RestQuery.Filter.Grammar
import RestQuery.Plan.Basic
import RestQuery.Request.Parameter
import RestQuery.Text.Case

/-!
# From filter values to clauses

The value of a filter parameter becomes clauses that all have to hold.  Each text of a value
with several is read on its own; one that is in disorder discards the clauses of all.
-/

namespace RestQuery.Filter

def compileText (type : FieldType) (field : FieldRef) (rule : FilterRule) (value : String) :
    Except Problem (List Clause) := do
  let intent ← read type field value
  intent.permit rule

/-- The clauses for several texts, or the problems of those in disorder. -/
def compileTexts (type : FieldType) (field : FieldRef) (rule : FilterRule) :
    List String → Except (List Problem) (List Clause)
  | [] => .ok []
  | value :: rest =>
    match compileText type field rule value, compileTexts type field rule rest with
    | .ok clauses, .ok others => .ok (clauses ++ others)
    | .ok _, .error problems => .error problems
    | .error problem, .ok _ => .error [problem]
    | .error problem, .error problems => .error (problem :: problems)

def compile (type : FieldType) (field : FieldRef) (rule : FilterRule) :
    ParamValue → Except (List Problem) (List Clause)
  | .text value => (compileText type field rule value).mapError ([·])
  | .flag b => ((readFlag type field b).bind (·.permit rule)).mapError ([·])
  | .texts [] => .error [.invalidValueType]
  | .texts values => compileTexts type field rule values

/-- The join and the clauses for a filter on the existence of related rows. -/
def compileExistence (relation : Relation) (rule : FilterRule) (value : String) :
    Except Problem (JoinKind × List Clause) :=
  let require (operator : Operator) (result : JoinKind × List Clause) :=
    if rule.allows operator then .ok result else .error (.unsupportedOperator operator)
  if value = "" then require .isNotNull (.inner, [])
  else if value = "!" then
    require .isNull
      (.leftExclusive, [.onField .isNull ⟨.relation relation.name, relation.targetKey⟩ []])
  else .error (.invalidFilterValue value)

/-- The clauses for a full-text search; blank words ask for nothing. -/
def compileSearch (column words : String) : List Clause :=
  let bare := Text.lower (Text.trim words)
  if bare = "" then [] else [.onField .fullTextMatch ⟨.resource, column⟩ [.text bare]]

end RestQuery.Filter
