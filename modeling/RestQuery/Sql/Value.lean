import RestQuery.Calendar.Writer
import RestQuery.Plan.Json

/-!
# Bound values

A value that is bound to a parameter of a statement.  Each has a type of its own and a binary
form; points of time are bound in UTC.
-/

namespace RestQuery.Sql

inductive Value where
  | bool (b : Bool)
  | integer (n : Int64)
  | text (s : String)
  | uuid (id : Uuid)
  | timestamp (instant : Instant)
  deriving DecidableEq

namespace Value

def ofOperand : Operand → Value
  | .text s => text s
  | .integer n => integer n
  | .bool b => bool b
  | .uuid id => uuid id
  | .datetime moment => timestamp moment.instant

def toJson : Value → Json
  | bool b => .bool b
  | integer n => .int n.toInt
  | text s => .string s
  | uuid id => .string id.text
  | timestamp instant => .string instant.utc.text

def typeName : Value → String
  | bool _ => "BOOL"
  | integer _ => "INT8"
  | text _ => "TEXT"
  | uuid _ => "UUID"
  | timestamp _ => "TIMESTAMPTZ"

/-- The eight bytes of an integer in two's complement, the highest first. -/
def bytes (n : Int) : List UInt8 :=
  let word := (n % UInt64.size).toNat
  (List.range 8).reverse.map fun place => UInt8.ofNat (word >>> (8 * place))

/-- Bytes of two hexadecimal digits each. -/
def pairBytes : List (Fin 16) → List UInt8
  | high :: low :: rest => UInt8.ofNat (high.val * 16 + low.val) :: pairBytes rest
  | _ => []

def wire : Value → List UInt8
  | bool b => [if b then 1 else 0]
  | integer n => bytes n.toInt
  | text s => s.toUTF8.toList
  | uuid id => pairBytes id.digits.toList
  | timestamp instant => bytes instant.microseconds

end Value

end RestQuery.Sql
