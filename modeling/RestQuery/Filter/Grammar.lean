import RestQuery.Calendar.Reader
import RestQuery.Filter.Members
import RestQuery.Uuid

/-!
# Filter grammars

Each field type has a grammar for filter values.  Marks at the start of a value choose the
operator, and the first mark in the order of the grammar that fits decides; `read` gives what
a value asks for, or the problem of a value that asks for nothing.
-/

namespace RestQuery.Filter

/-! ## Texts -/

/-- What a marked value asks for; something has to follow the mark. -/
def marked (operator : Operator) (check : Check) (field : FieldRef) (value : String)
    (rest : List Char) : Intent :=
  if rest.isEmpty then ⟨operator, .error (.invalidFilterValue value)⟩
  else .test operator check field [.text (String.ofList rest)]

/-- Texts: contained, at the start, at the end, other than, equal to. -/
def readText (field : FieldRef) (value : String) : Intent :=
  match presence? field value, Membership.ofValue? value with
  | some intent, _ => intent
  | none, some membership => membership.intent field (some ∘ .text)
  | none, none =>
    match value.toList with
    | '~' :: rest => marked .contains .likeContains field value rest
    | '^' :: rest => marked .startsWith .likePrefix field value rest
    | '$' :: rest => marked .endsWith .likeSuffix field value rest
    | '!' :: rest => marked .notEquals .notLike field value rest
    | _ => .test .equals .equals field [.text value]

/-! ## Identifiers -/

/-- What a value asks for that names an identifier.  A malformed identifier is a problem of
its own, whatever the rule of the filter permits. -/
def named (operator : Operator) (check : Check) (field : FieldRef) (value rest : String) :
    Except Problem Intent :=
  match Uuid.readRandom? rest with
  | some id => .ok (.test operator check field [.uuid id])
  | none => .error (.invalidFilterValue value)

def readUuid (field : FieldRef) (value : String) : Except Problem Intent :=
  match presence? field value, Membership.ofValue? value with
  | some intent, _ => .ok intent
  | none, some membership => .ok (membership.intent field fun s => (Uuid.readRandom? s).map .uuid)
  | none, none =>
    match value.toList with
    | '!' :: rest => named .notEquals .notEquals field value (String.ofList rest)
    | _ => named .equals .equals field value value

/-! ## Numbers -/

def natural? (cs : List Char) : Option Nat :=
  if !cs.isEmpty && cs.all Char.isDigit then some (Nat.ofDigitChars 10 cs 0) else none

/-- The integer of 64 bits that digits with an optional minus denote. -/
def integer? (cs : List Char) : Option Int64 := do
  let n ← match cs with
    | '-' :: digits => (natural? digits).map fun n => -(n : Int)
    | _ => (natural? cs).map fun n => (n : Int)
  if Int64.minValue.toInt ≤ n ∧ n ≤ Int64.maxValue.toInt then some (Int64.ofInt n) else none

/-- What a comparison with the integer behind a mark asks for. -/
def compared (operator : Operator) (check : Check) (field : FieldRef) (value : String)
    (rest : List Char) : Intent :=
  match integer? (Text.trimChars rest) with
  | some n => .test operator check field [.integer n]
  | none => ⟨operator, .error (.invalidFilterValue value)⟩

def readNumber (field : FieldRef) (value : String) : Intent :=
  match presence? field value, Membership.ofValue? value with
  | some intent, _ => intent
  | none, some membership =>
    membership.intent field fun s => (integer? s.toList).map .integer
  | none, none =>
    match value.toList with
    | '>' :: '=' :: rest => compared .greaterThanOrEqual .greaterThanOrEqual field value rest
    | '<' :: '=' :: rest => compared .lessThanOrEqual .lessThanOrEqual field value rest
    | '>' :: rest => compared .greaterThan .greaterThan field value rest
    | '<' :: rest => compared .lessThan .lessThan field value rest
    | rest => compared .equals .equals field value rest

/-! ## Truth values -/

def equalsBool (field : FieldRef) (b : Bool) : Intent := .test .equals .equals field [.bool b]

def readBool (field : FieldRef) (value : String) : Except Problem Intent :=
  match presence? field value with
  | some intent => .ok intent
  | none =>
    let letters := value.toList.map Char.toLower
    if letters = ['t', 'r', 'u', 'e'] then .ok (equalsBool field true)
    else if letters = ['f', 'a', 'l', 's', 'e'] then .ok (equalsBool field false)
    else .error (.invalidFilterValue value)

/-! ## Dates -/

def readDate (s : String) : Except Problem Operand :=
  match Calendar.read? s with
  | some moment => .ok (.datetime moment)
  | none => .error (.invalidDate s)

/-- What a comparison with dates asks for; `word` is the mark without its colon. -/
def dated (operator : Operator) (check : Check) (field : FieldRef) (word rest : String)
    (expected : Nat) : Intent :=
  let parts := Text.split '|' rest
  ⟨operator,
    if parts.length = expected then
      (parts.mapM readDate).map fun dates => [.onField check field dates]
    else .error (.dateCount word expected)⟩

/-- Dates: before, after, between. -/
def readDatetime (field : FieldRef) (value : String) : Except Problem Intent :=
  match presence? field value, Text.rest? "$before:" value, Text.rest? "$after:" value,
    Text.rest? "$between:" value with
  | some intent, _, _, _ => .ok intent
  | none, some rest, _, _ => .ok (dated .before .lessThan field "$before" rest 1)
  | none, none, some rest, _ => .ok (dated .after .greaterThan field "$after" rest 1)
  | none, none, none, some rest => .ok (dated .between .between field "$between" rest 2)
  | none, none, none, none => .error (.invalidFilterValue value)

/-! ## All types -/

/-- What a text asks for as a value of a filter on a field; a type without a grammar takes no
value. -/
def read (type : FieldType) (field : FieldRef) (value : String) : Except Problem Intent :=
  match type with
  | .string => .ok (readText field value)
  | .uuid => readUuid field value
  | .number => .ok (readNumber field value)
  | .boolean => readBool field value
  | .datetime => readDatetime field value
  | .object | .geometry => .error (.invalidFilterValue value)

/-- What a truth value asks for; only boolean fields take one. -/
def readFlag (type : FieldType) (field : FieldRef) (b : Bool) : Except Problem Intent :=
  match type with
  | .boolean => .ok (equalsBool field b)
  | _ => .error .invalidValueType

end RestQuery.Filter
