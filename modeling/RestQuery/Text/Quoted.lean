import RestQuery.Text.Mark
import RestQuery.Text.Unprintable

/-!
# Quoted texts in messages

A message shows a text between double quotes with every character that would be invisible or
ambiguous written as an escape: control characters with a letter of their own, the quote and
the backslash with a backslash, and combining marks and other characters without a visible
form by their code point.
-/

namespace RestQuery.Text

/-- The escape of a character by its code point, in as few hexadecimal digits as it takes. -/
def codePointEscape (c : Char) : List Char :=
  ['\\', 'u', '\x7b'] ++ Nat.toDigits 16 c.toNat ++ ['\x7d']

def quotedChar (c : Char) : List Char :=
  if c = '\x00' then ['\\', '0']
  else if c = '\t' then ['\\', 't']
  else if c = '\r' then ['\\', 'r']
  else if c = '\n' then ['\\', 'n']
  else if c = '"' ∨ c = '\\' then ['\\', c]
  else if attaches c then codePointEscape c
  else if isPrintable c then [c]
  else codePointEscape c

def quoted (s : String) : String :=
  String.ofList (['"'] ++ s.toList.flatMap quotedChar ++ ['"'])

/-- Texts in brackets, each quoted, with a comma and a space between them. -/
def quotedList (texts : List String) : String :=
  "[" ++ String.intercalate ", " (texts.map quoted) ++ "]"

example : quotedChar '\u0301' = ['\\', 'u', '\x7b', '3', '0', '1', '\x7d'] := by decide +kernel
example : quotedChar 'é' = ['é'] := by decide +kernel
example : quotedChar '\u3164' = codePointEscape '\u3164' := by decide +kernel
example : quotedChar '\uff9e' = ['\uff9e'] := by decide +kernel

end RestQuery.Text
