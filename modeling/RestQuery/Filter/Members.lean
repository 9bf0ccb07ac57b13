import RestQuery.Filter.Intent
import RestQuery.Json.Value
import RestQuery.Text.Blank
import RestQuery.Text.Split

/-!
# Sets of values

A set filter lists its members as JSON strings and numbers with commas between them, with or
without the brackets of an array.
-/

namespace RestQuery.Filter

/-- A filter on membership: whether the members are excluded, and the text that lists them. -/
structure Membership where
  excluded : Bool
  payload : String
  deriving DecidableEq, Repr

namespace Membership

def ofValue? (value : String) : Option Membership :=
  ((Text.rest? "$in:" value).map (⟨false, ·⟩)).or ((Text.rest? "$nin:" value).map (⟨true, ·⟩))

def array? (payload : String) : Option (List Json) :=
  let bare := Text.trim payload
  let written := if bare.toList.head? = some '[' then bare else "[" ++ bare ++ "]"
  match Json.read? written with
  | some (.array items) => some items
  | _ => none

/-- The text of a member: a string that is not blank, without blanks at its ends, or a number
in its own notation. -/
def memberText? : Json → Option String
  | .string s => let bare := Text.trim s; if bare = "" then none else some bare
  | .number n => some (String.ofList n.text)
  | _ => none

def memberTexts (payload : String) : Except Problem (List String) :=
  match array? payload with
  | none => .error (.unparsableList payload)
  | some [] => .error .invalidListValues
  | some items =>
    match items.mapM memberText? with
    | some texts => .ok texts
    | none => .error .invalidListValues

def operands (payload : String) (element : String → Option Operand) :
    Except Problem (List Operand) := do
  let texts ← memberTexts payload
  match texts.mapM element with
  | some operands => return operands
  | none => throw .invalidListValues

/-- What a filter on membership asks for, given what one member stands for. -/
def intent (membership : Membership) (field : FieldRef) (element : String → Option Operand) :
    Intent :=
  let check := if membership.excluded then Check.notInSet else Check.inSet
  ⟨if membership.excluded then .notIn else .isIn,
    (operands membership.payload element).map fun members => [.onField check field members]⟩

end Membership

end RestQuery.Filter
