import RestQuery.Plan.Basic
import RestQuery.Request.Key

/-!
# Orderings

A caller orders rows by one or two fields, each followed by a direction.
-/

namespace RestQuery.Order

def maxEntries : Nat := 2

/-- The fields by which a caller may order. -/
structure Fields where
  resource : List String
  /-- The fields of the link table of the relation that leads here. -/
  link : List String

def byDefault (declared : List (String × Direction)) : List OrderEntry :=
  declared.map fun (name, direction) => ⟨⟨.resource, name⟩, direction⟩

/-- The words of a token between spaces. -/
def tokenWords (token : String) : List String := (Text.split ' ' token).filter (· ≠ "")

def readToken (fields : Fields) (token : String) : Except Problem OrderEntry :=
  match tokenWords token with
  | [field, word] =>
    match Direction.read? word with
    | some direction =>
      let name := Key.normalSegment field
      if fields.resource.contains name then .ok ⟨⟨.resource, name⟩, direction⟩
      else if fields.link.contains name then .ok ⟨⟨.link, name⟩, direction⟩
      else .error (.unknownOrderField name)
    | none => .error .invalidOrderDirection
  | _ => .error .invalidOrderFormat

/-- The ordering that a caller asks for, or the problem of the first token in disorder. -/
def read (fields : Fields) (value : String) : Except Problem (List OrderEntry) :=
  let tokens := (Text.split ',' value).map Text.trim
  if maxEntries < tokens.length then .error (.tooManyOrderFields maxEntries)
  else tokens.mapM (readToken fields)

end RestQuery.Order
