/-!
# Kinds of fields, operators and relations

The names by which a catalog document refers to field types, filter operators and kinds of
relations.  Each kind is listed once, in the order of its declaration, and is found by name.
-/

namespace RestQuery

inductive FieldType where
  | string
  | uuid
  | number
  | boolean
  | datetime
  | object
  | geometry
  deriving DecidableEq, Repr

namespace FieldType

def all : List FieldType := [string, uuid, number, boolean, datetime, object, geometry]

def name : FieldType → String
  | string => "string"
  | uuid => "uuid"
  | number => "number"
  | boolean => "boolean"
  | datetime => "datetime"
  | object => "object"
  | geometry => "geometry"

def ofName? (s : String) : Option FieldType := all.find? (·.name == s)

@[simp]
theorem ofName?_name (type : FieldType) : ofName? type.name = some type := by
  cases type <;> rfl

end FieldType

/-- What a filter may do with a field; a catalog can restrict a filter to some of these. -/
inductive Operator where
  | equals
  | notEquals
  | isNull
  | isNotNull
  | isIn
  | notIn
  | contains
  | startsWith
  | endsWith
  | greaterThan
  | greaterThanOrEqual
  | lessThan
  | lessThanOrEqual
  | before
  | after
  | between
  deriving DecidableEq, Repr

namespace Operator

/-- Every operator, in the order in which a rule lists them. -/
def all : List Operator :=
  [equals, notEquals, isNull, isNotNull, isIn, notIn, contains, startsWith, endsWith,
   greaterThan, greaterThanOrEqual, lessThan, lessThanOrEqual, before, after, between]

def name : Operator → String
  | equals => "equals"
  | notEquals => "not_equals"
  | isNull => "is_null"
  | isNotNull => "is_not_null"
  | isIn => "in"
  | notIn => "not_in"
  | contains => "contains"
  | startsWith => "starts_with"
  | endsWith => "ends_with"
  | greaterThan => "greater_than"
  | greaterThanOrEqual => "greater_than_or_equal"
  | lessThan => "less_than"
  | lessThanOrEqual => "less_than_or_equal"
  | before => "before"
  | after => "after"
  | between => "between"

def ofName? (s : String) : Option Operator := all.find? (·.name == s)

@[simp]
theorem ofName?_name (operator : Operator) : ofName? operator.name = some operator := by
  cases operator <;> rfl

end Operator

inductive RelationKind where
  | toOne
  | toMany
  deriving DecidableEq, Repr

namespace RelationKind

def all : List RelationKind := [toOne, toMany]

def name : RelationKind → String
  | toOne => "to_one"
  | toMany => "to_many"

def ofName? (s : String) : Option RelationKind := all.find? (·.name == s)

@[simp]
theorem ofName?_name (kind : RelationKind) : ofName? kind.name = some kind := by
  cases kind <;> rfl

end RelationKind

inductive Direction where
  | ascending
  | descending
  deriving DecidableEq, Repr

namespace Direction

/-- The direction that a word names, in letters of either case. -/
def read? (s : String) : Option Direction :=
  let letters := s.toList.map Char.toLower
  if letters = ['a', 's', 'c'] then some .ascending
  else if letters = ['d', 'e', 's', 'c'] then some .descending
  else none

def keyword : Direction → String
  | ascending => "ASC"
  | descending => "DESC"

end Direction

end RestQuery
