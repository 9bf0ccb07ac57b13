import RestQuery.Calendar.Writer
import RestQuery.Catalog.Writer
import RestQuery.Plan.Basic

/-!
# Plans as JSON values

Members that say nothing are left out: no field, no operands, no parts, no joins.
Errors are written as texts.
-/

namespace RestQuery

def Scope.toJson : Scope → Json
  | resource => .string "resource"
  | link => .string "through"
  | relation name => .object [("relation", .string name)]

def FieldRef.toJson (field : FieldRef) : Json :=
  .object [("name", .string field.name), ("scope", field.scope.toJson)]

def Operand.toJson : Operand → Json
  | text s => .string s
  | integer n => .int n.toInt
  | bool b => .bool b
  | uuid id => .string id.text
  | datetime moment => .string moment.text

def Check.name : Check → String
  | equals => "equals"
  | notEquals => "notEquals"
  | lessThan => "lessThan"
  | lessThanOrEqual => "lessThanOrEqual"
  | greaterThan => "greaterThan"
  | greaterThanOrEqual => "greaterThanOrEqual"
  | between => "between"
  | isNull => "isNull"
  | isNotNull => "isNotNull"
  | inSet => "inSet"
  | notInSet => "notInSet"
  | likeContains => "likeContains"
  | likePrefix => "likePrefix"
  | likeSuffix => "likeSuffix"
  | notLike => "notLike"
  | nonEmpty => "nonEmpty"
  | empty => "empty"
  | fullTextMatch => "fullTextMatch"

/-- Whether a check is a predicate on the text of the field rather than a comparison. -/
def Check.isRaw : Check → Bool
  | nonEmpty | empty | fullTextMatch => true
  | _ => false

def Check.toJson (check : Check) : Json :=
  if check.isRaw then .object [("raw", .string check.name)] else .string check.name

def Connective.name : Connective → String
  | all => "and"
  | any => "or"

def ClauseKind.toJson : ClauseKind → Json
  | test check => check.toJson
  | group connective => .string connective.name

/-- A member of an object unless the list that it would hold is empty. -/
def Json.listMember (name : String) (items : List Json) : List (String × Json) :=
  if items.isEmpty then [] else [(name, .array items)]

mutual

def Clause.toJson : Clause → Json
  | ⟨kind, field, operands, parts⟩ =>
    .object <|
      Json.listMember "children" (Clause.toJsons parts)
      ++ (match field with
        | some field => [("field", field.toJson)]
        | none => [])
      ++ [("kind", kind.toJson)]
      ++ Json.listMember "operands" (operands.map Operand.toJson)

def Clause.toJsons : List Clause → List Json
  | [] => []
  | part :: rest => part.toJson :: Clause.toJsons rest

end

def JoinKind.name : JoinKind → String
  | inner => "inner"
  | leftExclusive => "left_exclusive"

def OrderEntry.toJson (entry : OrderEntry) : Json :=
  .object
    [("direction", .string entry.direction.keyword), ("field", entry.field.toJson)]

mutual

def Plan.toJson : Plan → Json
  | ⟨resource, referrer, filters, joins, limit, offset, order, fields, relations, errors⟩ =>
    .object <|
      [("errors", .strings (errors.map RequestError.text)),
       ("fields", .strings fields),
       ("filters", .array (filters.map Clause.toJson))]
      ++ (if joins.isEmpty then []
          else [("joins", .ofTable (fun kind => .string kind.name) joins)])
      ++ [("limit", .orNull Json.word limit),
       ("offset", .orNull Json.word offset),
       ("order", .array (order.map OrderEntry.toJson)),
       ("referrer", .string referrer),
       ("relation_plans", .object (Plan.relationsToJson relations)),
       ("resource", .string resource)]

def Plan.relationsToJson : List (String × Plan) → List (String × Json)
  | [] => []
  | (name, plan) :: rest => (name, plan.toJson) :: Plan.relationsToJson rest

end

end RestQuery
