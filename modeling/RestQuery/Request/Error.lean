import RestQuery.Catalog.Kind

/-!
# Problems of a request

What can be wrong with one part of a request, as causes, and the message for each.  A problem
is reported with its trace: the path of resource, relations and key at which it was found.
-/

namespace RestQuery

inductive Problem where
  | unknownParameter
  | invalidValueType
  | singleValueRequired
  | duplicateParameter
  | unsupportedOperator (operator : Operator)
  | invalidFilterValue (value : String)
  | unparsableList (payload : String)
  | invalidListValues
  | invalidDate (text : String)
  /-- A date filter with another number of dates than it takes. -/
  | dateCount (word : String) (expected : Nat)
  | invalidLimit (max : UInt32)
  | invalidOffset
  | invalidOrderFormat
  | invalidOrderDirection
  | unknownOrderField (name : String)
  | tooManyOrderFields (max : Nat)
  | unknownField (name : String)
  /-- A word for a whole set of fields that is not the first entry. -/
  | misplacedWord (word : String)
  | tooDeep (max : Nat)
  | relationKeyRequired
  deriving DecidableEq, Repr

def Problem.message : Problem → String
  | unknownParameter => "unknown query parameter"
  | invalidValueType => "value must be a string or an array of strings"
  | singleValueRequired => "value must be a single string"
  | duplicateParameter => "parameter given more than once"
  | unsupportedOperator operator =>
    "operator '" ++ operator.name ++ "' is not supported for this parameter"
  | invalidFilterValue value => "invalid value '" ++ value ++ "'"
  | unparsableList payload => "could not parse list '" ++ payload ++ "'"
  | invalidListValues => "list contains invalid values"
  | invalidDate text => "invalid ISO-8601 date '" ++ text ++ "'"
  | dateCount word expected =>
    "'" ++ word ++ "' expects " ++ Nat.repr expected ++ " date(s) separated by '|'"
  | invalidLimit max => "limit must be an integer between 1 and " ++ Nat.repr max.toNat
  | invalidOffset => "offset must be a non-negative integer"
  | invalidOrderFormat => "order must be '<field> asc|desc'"
  | invalidOrderDirection => "order direction must be 'asc' or 'desc'"
  | unknownOrderField name => "ordering by '" ++ name ++ "' is not allowed"
  | tooManyOrderFields max => "at most " ++ Nat.repr max ++ " order fields are allowed"
  | unknownField name => "unknown field or relation '" ++ name ++ "'"
  | misplacedWord word => "'" ++ word ++ "' may only be the first entry"
  | tooDeep max => "relations may not be nested deeper than " ++ Nat.repr max ++ " levels"
  | relationKeyRequired => "a relation parameter must name a nested key"

structure RequestError where
  trace : String
  problem : Problem
  deriving DecidableEq, Repr

def RequestError.text (error : RequestError) : String :=
  error.trace ++ ": " ++ error.problem.message

end RestQuery
