import RestQuery.Json.Number
import RestQuery.Text.Hex

/-!
# Tokens of JSON texts

A JSON text is a sequence of tokens with blanks between them.  Reading goes character by
character, so that reading a concatenation is reading its parts in turn.

A string token may hold an unpaired surrogate and a number token may lie beyond the range of
binary64; such tokens are well formed and denote nothing, which is `none` here.
-/

namespace RestQuery.Json

inductive Token where
  | openArray
  | closeArray
  | openObject
  | closeObject
  | comma
  | colon
  | null
  | bool (b : Bool)
  | number (n : Option Number)
  | string (s : Option String)
  deriving DecidableEq

namespace Token

/-! ## Writing -/

/-- How a character stands inside a JSON string. -/
def stringChar (c : Char) : List Char :=
  if c = '"' ∨ c = '\\' then ['\\', c]
  else if c = '\x08' then ['\\', 'b']
  else if c = '\x0c' then ['\\', 'f']
  else if c = '\n' then ['\\', 'n']
  else if c = '\r' then ['\\', 'r']
  else if c = '\t' then ['\\', 't']
  else if c.toNat < 0x20 then
    ['\\', 'u', '0', '0', Text.hexDigit (Text.lastHex (c.toNat / 16)),
      Text.hexDigit (Text.lastHex c.toNat)]
  else [c]

def chars : Token → List Char
  | openArray => ['[']
  | closeArray => [']']
  | openObject => ['\x7b']
  | closeObject => ['\x7d']
  | comma => [',']
  | colon => [':']
  | null => ['n', 'u', 'l', 'l']
  | bool true => ['t', 'r', 'u', 'e']
  | bool false => ['f', 'a', 'l', 's', 'e']
  | number n => (n.map Number.text).getD []
  | string s => ['"'] ++ (s.getD "").toList.flatMap stringChar ++ ['"']

end Token

/-! ## Reading -/

/-- The characters for code points and surrogates in sequence; an unpaired surrogate stands
for nothing. -/
def decodeUnits : List Nat → Option (List Char)
  | [] => some []
  | unit :: rest =>
    if 0xD800 ≤ unit ∧ unit < 0xDC00 then
      match rest with
      | low :: more =>
        if 0xDC00 ≤ low ∧ low < 0xE000 then
          (decodeUnits more).map
            (Char.ofNat (0x10000 + (unit - 0xD800) * 0x400 + (low - 0xDC00)) :: ·)
        else none
      | [] => none
    else if 0xDC00 ≤ unit ∧ unit < 0xE000 then none
    else (decodeUnits rest).map (Char.ofNat unit :: ·)

/-- Where a reader stands within a text.  Lists of what was read are in reverse. -/
inductive Mode where
  /-- Between tokens. -/
  | between
  /-- In a word: a name or a numeral. -/
  | word (read : List Char)
  /-- In a string. -/
  | string (units : List Nat)
  /-- In a string, after a backslash. -/
  | escape (units : List Nat)
  /-- In a string, with so many digits of a code still to come. -/
  | code (units : List Nat) (missing : Nat) (soFar : Nat)
  deriving DecidableEq

/-- A reader of tokens: where it stands, and the tokens it has read, the latest first. -/
structure Lexer where
  mode : Mode
  tokens : List Token

namespace Lexer

def isSpace (c : Char) : Bool := c == ' ' || c == '\n' || c == '\t' || c == '\r'

def punctuation (c : Char) : Option Token :=
  if c = '[' then some .openArray
  else if c = ']' then some .closeArray
  else if c = '\x7b' then some .openObject
  else if c = '\x7d' then some .closeObject
  else if c = ',' then some .comma
  else if c = ':' then some .colon
  else none

def wordToken (word : List Char) : Option Token :=
  if word = ['n', 'u', 'l', 'l'] then some .null
  else if word = ['t', 'r', 'u', 'e'] then some (.bool true)
  else if word = ['f', 'a', 'l', 's', 'e'] then some (.bool false)
  else (Numeral.read word).map fun numeral => .number numeral.value

def escaped (c : Char) : Option Char :=
  if c = '"' ∨ c = '\\' ∨ c = '/' then some c
  else if c = 'b' then some '\x08'
  else if c = 'f' then some '\x0c'
  else if c = 'n' then some '\n'
  else if c = 'r' then some '\r'
  else if c = 't' then some '\t'
  else none

def begin (tokens : List Token) (c : Char) : Lexer :=
  if isSpace c then ⟨.between, tokens⟩
  else if c = '"' then ⟨.string [], tokens⟩
  else
    match punctuation c with
    | some token => ⟨.between, token :: tokens⟩
    | none => ⟨.word [c], tokens⟩

/-- Whether a character cannot stand inside a word. -/
def endsWord (c : Char) : Bool := isSpace c || c == '"' || (punctuation c).isSome

def step (lexer : Lexer) (c : Char) : Option Lexer :=
  match lexer.mode with
  | .between => some (begin lexer.tokens c)
  | .word read =>
    if endsWord c then
      (wordToken read.reverse).map fun token => begin (token :: lexer.tokens) c
    else some ⟨.word (c :: read), lexer.tokens⟩
  | .string units =>
    if c = '"' then
      some ⟨.between, .string ((decodeUnits units.reverse).map String.ofList) :: lexer.tokens⟩
    else if c = '\\' then some ⟨.escape units, lexer.tokens⟩
    else if c.toNat < 0x20 then none
    else some ⟨.string (c.toNat :: units), lexer.tokens⟩
  | .escape units =>
    if c = 'u' then some ⟨.code units 3 0, lexer.tokens⟩
    else (escaped c).map fun plain => ⟨.string (plain.toNat :: units), lexer.tokens⟩
  | .code units missing soFar =>
    (Text.hexValue? c).map fun digit =>
      match missing with
      | 0 => ⟨.string ((soFar * 16 + digit.val) :: units), lexer.tokens⟩
      | more + 1 => ⟨.code units more (soFar * 16 + digit.val), lexer.tokens⟩

def finish (lexer : Lexer) : Option (List Token) :=
  match lexer.mode with
  | .between => some lexer.tokens.reverse
  | .word read => (wordToken read.reverse).map fun token => (token :: lexer.tokens).reverse
  | _ => none

end Lexer

def tokens? (cs : List Char) : Option (List Token) :=
  (cs.foldlM Lexer.step ⟨.between, []⟩).bind Lexer.finish

end RestQuery.Json
