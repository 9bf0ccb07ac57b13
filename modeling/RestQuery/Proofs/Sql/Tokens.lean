import RestQuery.Proofs.Sql.Literals
import Mathlib.Data.List.Chain

/-!
# Reading placeholders in a text

A reader of a text that goes from left to right tells placeholders from quoted names and
other characters.  In the text of pieces it finds the placeholders that the pieces stand for,
unless words of the pieces open a name or a placeholder or a digit follows a placeholder.

Main statement: `Legible.query`.
-/

namespace RestQuery.Sql

/-! ## Reading a text -/

inductive Token where
  | char (c : Char)
  /-- A placeholder with the digits of its number. -/
  | placeholder (digits : List Char)
  deriving DecidableEq

/-- Where in a text a reader is. -/
inductive Reader where
  | plain
  /-- Within a quoted name. -/
  | quoted
  /-- Within a placeholder, some digits of which have been read. -/
  | numbered (digits : List Char)

namespace Reader

def start (c : Char) : List Token × Reader :=
  if c = '"' then ([.char c], quoted)
  else if c = '$' then ([], numbered [])
  else ([.char c], plain)

/-- Reads a character.  A quote within a name is written twice, so that the reader leaves
the name and comes back to it. -/
def step : Reader → Char → List Token × Reader
  | plain, c => start c
  | quoted, c => ([.char c], if c = '"' then plain else quoted)
  | numbered digits, c =>
    if c.isDigit then ([], numbered (digits ++ [c]))
    else (.placeholder digits :: (start c).1, (start c).2)

def finish : Reader → List Token
  | plain | quoted => []
  | numbered digits => [.placeholder digits]

def read : Reader → List Char → List Token
  | reader, [] => reader.finish
  | reader, c :: rest => (reader.step c).1 ++ (reader.step c).2.read rest

end Reader

def tokens (text : String) : List Token := Reader.plain.read text.toList

def Token.placeholder? : Token → Option String
  | char _ => none
  | placeholder digits => some ("$" ++ String.ofList digits)

/-- The placeholders of a text outside quoted names, in order. -/
def placeholders (text : String) : List String := (tokens text).filterMap Token.placeholder?

/-- The value for the placeholder with a number; numbers start with 1. -/
def param? (params : List Value) : Nat → Option Value
  | 0 => none
  | place + 1 => params[place]?

/-- A token with the literal of its value if it is a placeholder for one. -/
def Token.filled (literal : Value → String) (params : List Value) : Token → List Char
  | char c => [c]
  | placeholder digits =>
    match param? params (Nat.ofDigitChars 10 digits 0) with
    | some value => (literal value).toList
    | none => '$' :: digits

/-- A text in which literals stand in the place of placeholders. -/
def filled (literal : Value → String) (params : List Value) (text : String) : String :=
  String.ofList ((tokens text).flatMap (Token.filled literal params))

namespace Reader

/-! ## Reading pieces -/

theorem read_plain {word : List Char} (hword : ∀ c ∈ word, c ≠ '$' ∧ c ≠ '"')
    (rest : List Char) : plain.read (word ++ rest) = word.map .char ++ plain.read rest := by
  induction word with
  | nil => rfl
  | cons c others ih =>
      obtain ⟨hdollar, hquote⟩ := hword c List.mem_cons_self
      have hothers := ih fun other hmem => hword other (List.mem_cons_of_mem c hmem)
      simp [read, step, start, hdollar, hquote, hothers]

/-- Within a name nothing is read as a placeholder. -/
theorem read_quoted (name rest : List Char) :
    quoted.read (doubled name ++ '"' :: rest) =
      (doubled name ++ ['"']).map .char ++ plain.read rest := by
  induction name with
  | nil => rfl
  | cons c others ih =>
      have hcons : doubled (c :: others) =
          (if c = '"' then ['"', '"'] else [c]) ++ doubled others := rfl
      by_cases hquote : c = '"'
      · rw [hcons, if_pos hquote, List.append_assoc]
        simpa [read, step, start] using ih
      · rw [hcons, if_neg hquote, List.append_assoc]
        simpa [read, step, hquote] using ih

theorem read_name (name : String) (rest : List Char) :
    plain.read ((quotedName name).toList ++ rest) =
      (quotedName name).toList.map .char ++ plain.read rest := by
  have hname : (quotedName name).toList = '"' :: (doubled name.toList ++ ['"']) := by
    simp [quotedName]
  have hread := read_quoted name.toList rest
  rw [hname, List.cons_append, List.append_assoc, List.singleton_append]
  simp only [read, step, start, ↓reduceIte, hread, List.map_cons, List.cons_append,
    List.nil_append]

theorem read_digits {digits : List Char} (hdigits : ∀ c ∈ digits, c.isDigit = true)
    (before rest : List Char) :
    (numbered before).read (digits ++ rest) = (numbered (before ++ digits)).read rest := by
  induction digits generalizing before with
  | nil => simp
  | cons c others ih =>
      have hothers := ih fun other hmem => hdigits other (List.mem_cons_of_mem c hmem)
      simp [read, step, hdigits c List.mem_cons_self, hothers]

/-- The number of a placeholder ends where no digit follows. -/
theorem read_numbered (digits : List Char) {rest : List Char}
    (hrest : ∀ c ∈ rest.head?, c.isDigit = false) :
    (numbered digits).read rest = .placeholder digits :: plain.read rest := by
  cases rest with
  | nil => rfl
  | cons c others =>
      have hdigit : c.isDigit = false := hrest c rfl
      simp [read, step, hdigit]

/-- A placeholder is read back if no digit follows. -/
theorem read_placeholder (number : Nat) {rest : List Char}
    (hrest : ∀ c ∈ rest.head?, c.isDigit = false) :
    plain.read ((placeholder number).toList ++ rest) =
      .placeholder (Nat.toDigits 10 number) :: plain.read rest := by
  have hdigits : ∀ c ∈ Nat.toDigits 10 number, c.isDigit = true := fun c hmem =>
    Nat.isDigit_of_mem_toDigits (by decide) (by decide) hmem
  have hread := read_digits hdigits [] rest
  rw [List.nil_append, read_numbered _ hrest] at hread
  rw [toList_placeholder, List.cons_append]
  simpa [read, step, start] using hread

end Reader

/-- Whether a text has no character that opens a placeholder or a quoted name. -/
def isPlain (text : String) : Bool := text.toList.all fun c => c ≠ '$' && c ≠ '"'

namespace Piece

/-- Whether the words of a piece are read as they are. -/
def isPlain : Piece → Bool
  | text s => Sql.isPlain s
  | _ => true

def opens : Piece → Bool
  | text s => s.toList.head?.any fun c => !c.isDigit
  | _ => true

def isBound : Piece → Bool
  | value _ | key => true
  | _ => false

end Piece

/-- The tokens of pieces, with the next value under a given number. -/
def tokensFrom (next : Nat) : List Piece → List Token
  | [] => []
  | .text s :: rest => s.toList.map .char ++ tokensFrom next rest
  | .name s :: rest => (quotedName s).toList.map .char ++ tokensFrom next rest
  | .value _ :: rest => .placeholder (Nat.toDigits 10 next) :: tokensFrom (next + 1) rest
  | .key :: rest => .placeholder (Nat.toDigits 10 1) :: tokensFrom next rest

/-- Pieces from which a reader gets the placeholders that they stand for. -/
structure Legible (pieces : List Piece) : Prop where
  plain : ∀ piece ∈ pieces, piece.isPlain = true
  opens : ∀ piece ∈ pieces.head?, piece.opens = true
  apart : pieces.IsChain fun first second => first.isBound = true → second.opens = true

theorem head?_textFrom {pieces : List Piece} (hopens : ∀ piece ∈ pieces.head?, piece.opens = true)
    (next : Nat) : ∀ c ∈ (textFrom next pieces).head?, c.isDigit = false := by
  intro c hc
  cases pieces with
  | nil => cases hc
  | cons piece rest =>
      have hfirst := hopens piece rfl
      cases piece with
      | text s =>
          cases hs : s.toList with
          | nil => simp [Piece.opens, hs] at hfirst
          | cons first others => simp_all [Piece.opens, textFrom]
      | name s =>
          simp [textFrom, quotedName] at hc
          exact hc ▸ rfl
      | value v =>
          simp [textFrom, placeholder] at hc
          exact hc ▸ rfl
      | key =>
          simp [textFrom, placeholder] at hc
          exact hc ▸ rfl

/-- The text of pieces is read as the tokens of these, if no digit follows a placeholder. -/
theorem read_textFrom {pieces : List Piece} (hplain : ∀ piece ∈ pieces, piece.isPlain = true)
    (hapart : pieces.IsChain fun first second => first.isBound = true → second.opens = true)
    (next : Nat) : Reader.plain.read (textFrom next pieces) = tokensFrom next pieces := by
  induction pieces generalizing next with
  | nil => rfl
  | cons piece rest ih =>
      obtain ⟨hnext, hrest⟩ := List.isChain_cons.1 hapart
      have hread := ih (fun other hmem => hplain other (List.mem_cons_of_mem piece hmem)) hrest
      cases piece with
      | text s =>
          have hs : ∀ c ∈ s.toList, c ≠ '$' ∧ c ≠ '"' := by
            simpa [Piece.isPlain, isPlain] using hplain (.text s) List.mem_cons_self
          simp only [textFrom, tokensFrom, Reader.read_plain hs, hread]
      | name s => simp only [textFrom, tokensFrom, Reader.read_name, hread]
      | value v =>
          have hhead := head?_textFrom (fun other hmem => hnext other hmem rfl) (next + 1)
          simp only [textFrom, tokensFrom, Reader.read_placeholder _ hhead, hread]
      | key =>
          have hhead := head?_textFrom (fun other hmem => hnext other hmem rfl) next
          simp only [textFrom, tokensFrom, Reader.read_placeholder _ hhead, hread]

/-! ## Placeholders and literals of pieces -/

theorem placeholder?_toDigits (number : Nat) :
    (Token.placeholder (Nat.toDigits 10 number)).placeholder? = some (placeholder number) := by
  rw [Token.placeholder?, placeholder, Nat.repr_eq_ofList_toDigits]

theorem placeholders_chars (cs : List Char) :
    (cs.map Token.char).filterMap Token.placeholder? = [] := by
  simp [Token.placeholder?]

/-- The pieces for the key all have the first placeholder, and those for values have the
placeholders from the next one on. -/
theorem placeholders_tokensFrom (next : Nat) (pieces : List Piece) :
    ((tokensFrom next pieces).filterMap Token.placeholder?).Perm
      (List.replicate (pieces.count .key) (placeholder 1) ++
        (List.range' next (values pieces).length).map placeholder) := by
  induction pieces generalizing next with
  | nil => simp [tokensFrom, values]
  | cons piece rest ih =>
      cases piece with
      | text s =>
          rw [tokensFrom, List.filterMap_append, placeholders_chars, List.nil_append,
            List.count_cons_of_ne (by simp), values]
          · exact ih next
          · simp
      | name s =>
          rw [tokensFrom, List.filterMap_append, placeholders_chars, List.nil_append,
            List.count_cons_of_ne (by simp), values]
          · exact ih next
          · simp
      | value v =>
          rw [tokensFrom, List.filterMap_cons_some (placeholder?_toDigits next),
            List.count_cons_of_ne (by simp), values, List.length_cons, List.range'_succ,
            List.map_cons]
          exact ((ih (next + 1)).cons _).trans List.perm_middle.symm
      | key =>
          rw [tokensFrom, List.filterMap_cons_some (placeholder?_toDigits 1),
            List.count_cons_self, List.replicate_succ, List.cons_append, values]
          · exact (ih next).cons _
          · simp

theorem filled_chars (literal : Value → String) (params : List Value) (cs : List Char) :
    (cs.map Token.char).flatMap (Token.filled literal params) = cs := by
  induction cs with
  | nil => rfl
  | cons c rest ih => rw [List.map_cons, List.flatMap_cons, ih, Token.filled, List.singleton_append]

/-- A placeholder is filled with the literal of its value. -/
theorem filled_toDigits (literal : Value → String) {params : List Value} {number : Nat}
    {value : Value} (hvalue : param? params number = some value) :
    (Token.placeholder (Nat.toDigits 10 number)).filled literal params =
      (literal value).toList := by
  simp only [Token.filled, Nat.ofDigitChars_toDigits (by decide : 1 < 10) (by decide : 10 ≤ 10),
    hvalue]

/-- With literals in the place of placeholders, pieces read as if they had been written
with literals. -/
theorem filled_tokensFrom (literal : Value → String) {params : List Value} {key : String}
    {next : Nat} {pieces : List Piece}
    (hvalues : ∀ place value, (values pieces)[place]? = some value →
      param? params (next + place) = some value)
    (hkey : .key ∈ pieces → param? params 1 = some (.text key)) :
    (tokensFrom next pieces).flatMap (Token.filled literal params) =
      (spell literal key pieces).toList := by
  induction pieces generalizing next with
  | nil => rfl
  | cons piece rest ih =>
      have hkeyRest : .key ∈ rest → param? params 1 = some (.text key) := fun hmem =>
        hkey (List.mem_cons_of_mem piece hmem)
      rw [spell_cons, String.toList_append]
      cases piece with
      | text s =>
          rw [tokensFrom, List.flatMap_append, filled_chars, ih hvalues hkeyRest, Piece.spelled]
      | name s =>
          rw [tokensFrom, List.flatMap_append, filled_chars, ih hvalues hkeyRest, Piece.spelled]
      | value v =>
          have hfirst : param? params next = some v := hvalues 0 v rfl
          have hlater : ∀ place value, (values rest)[place]? = some value →
              param? params (next + 1 + place) = some value := by
            intro place value hvalue
            rw [Nat.add_assoc, Nat.add_comm 1 place]
            exact hvalues (place + 1) value hvalue
          rw [tokensFrom, List.flatMap_cons, filled_toDigits literal hfirst, ih hlater hkeyRest,
            Piece.spelled]
      | key =>
          rw [tokensFrom, List.flatMap_cons, filled_toDigits literal (hkey List.mem_cons_self),
            ih hvalues hkeyRest, Piece.spelled]

/-- What a reader gets from the query of pieces in which the key, if there is one, is used
once. -/
theorem Legible.query {pieces : List Piece} (hlegible : Legible pieces) {key : Option String}
    (hcount : pieces.count .key = key.toList.length) (literal : Value → String) :
    (placeholders (Query.ofPieces key pieces).text).Perm
        ((List.range' 1 (Query.ofPieces key pieces).params.length).map placeholder) ∧
      filled literal (Query.ofPieces key pieces).params (Query.ofPieces key pieces).text =
        spell literal (key.getD "") pieces := by
  have htokens : ∀ next,
      tokens (String.ofList (textFrom next pieces)) = tokensFrom next pieces := by
    intro next
    rw [tokens, String.toList_ofList, read_textFrom hlegible.plain hlegible.apart]
  rw [placeholders, filled, Query.ofPieces, htokens, ← String.toList_inj, String.toList_ofList]
  cases key with
  | none =>
      have hperm := placeholders_tokensFrom 1 pieces
      rw [hcount] at hperm
      have hnone : .key ∉ pieces := List.count_eq_zero.1 hcount
      refine ⟨hperm, filled_tokensFrom literal (fun place value hvalue => ?_)
        fun hmem => absurd hmem hnone⟩
      rw [Nat.add_comm]
      exact hvalue
  | some key =>
      have hperm := placeholders_tokensFrom 2 pieces
      rw [hcount] at hperm
      refine ⟨?_, filled_tokensFrom literal (fun place value hvalue => ?_) fun _ => rfl⟩
      · have hlength : ((some key).map Value.text).toList.length + (values pieces).length =
            (values pieces).length + 1 := Nat.add_comm _ _
        rw [List.length_append, hlength, List.range'_succ, List.map_cons]
        exact hperm
      · rw [Nat.add_comm]
        exact hvalue

end RestQuery.Sql
