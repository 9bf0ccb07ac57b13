import RestQuery.Text.Hex

/-!
# Universally unique identifiers

An identifier is thirty-two hexadecimal digits, written in groups of 8, 4, 4, 4 and 12 with
hyphens between them.  It is also read without hyphens, in braces and as a uniform resource
name.  Version 4, the random one, is marked by two of the digits.
-/

namespace RestQuery

structure Uuid where
  digits : Vector (Fin 16) 32
  deriving DecidableEq

namespace Uuid

def groupLengths : List Nat := [8, 4, 4, 4, 12]

/-- The identifier with these digits, if there are as many as it takes. -/
def ofDigits? (digits : List (Fin 16)) : Option Uuid :=
  if h : digits.length = 32 then some ⟨⟨digits.toArray, by simpa using h⟩⟩ else none

/-- The identifier with these characters as its digits, in letters of either case. -/
def ofChars? (cs : List Char) : Option Uuid := (cs.mapM Text.hexValue?).bind ofDigits?

/-- The identifier that characters in the written form name. -/
def readGroups? (cs : List Char) : Option Uuid :=
  let groups := cs.splitOn '-'
  if groups.map List.length = groupLengths then ofChars? groups.flatten else none

/-- The beginning of a resource name for an identifier. -/
def resourceName : List Char := "urn:uuid:".toList

/-- The characters after the beginning of a resource name, which has letters of either case. -/
def named? (cs : List Char) : Option (List Char) :=
  let (beginning, rest) := cs.splitAt resourceName.length
  if beginning.map Char.toLower = resourceName then some rest else none

/-- The characters between braces, if they are all that there is. -/
def unbraced? : List Char → Option (List Char)
  | '\x7b' :: rest => if rest.getLast? = some '\x7d' then some rest.dropLast else none
  | _ => none

/-- The identifier that a text names in any of its forms. -/
def read? (s : String) : Option Uuid :=
  let cs := s.toList
  match unbraced? cs, named? cs with
  | some inner, _ => readGroups? inner
  | none, some rest => readGroups? rest
  | none, none => (readGroups? cs).or (ofChars? cs)

/-- Digits in groups of the given lengths. -/
def grouped (digits : List Char) : List Nat → List (List Char)
  | [] => []
  | length :: rest => digits.take length :: grouped (digits.drop length) rest

def text (id : Uuid) : String :=
  String.ofList (['-'].intercalate (grouped (id.digits.toList.map Text.hexDigit) groupLengths))

/-- Whether the digits for the version and the variant are those of version 4. -/
def isRandom (id : Uuid) : Bool :=
  id.digits[12].val == 4 && 8 ≤ id.digits[16].val && id.digits[16].val ≤ 11

/-- The random identifier that a text in the written form names. -/
def readRandom? (s : String) : Option Uuid := (readGroups? s.toList).filter isRandom

end Uuid

end RestQuery
