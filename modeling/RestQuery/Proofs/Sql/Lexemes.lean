import RestQuery.Proofs.Sql.Pieces
import Mathlib.Data.List.Chain

/-!
# Reading quoted names in a text

A reader of a text from left to right tells quoted names from the characters outside them.  Within a
name two quotes stand for one, and one alone ends it.  In the text of pieces the reader finds the
names of the pieces, unless words of the pieces have quotes or two names stand side by side.

Main statements: `Scanner.read_quotedName` and `Spaced.lexemes`.
-/

namespace RestQuery.Sql

/-! ## Reading a text -/

/-- What a text consists of: quoted names and the characters outside them. -/
inductive Lexeme where
  | char (c : Char)
  | identifier (name : String)
  /-- The start of a quoted name that does not end. -/
  | unclosed (name : String)
  deriving DecidableEq

/-- Where in a text a reader is. -/
inductive Scanner where
  | outside
  /-- Within a quoted name, some of which has been read. -/
  | inside (name : List Char)
  /-- Behind a quote within a name, which ends it unless another one follows. -/
  | closing (name : List Char)

namespace Scanner

def step : Scanner → Char → List Lexeme × Scanner
  | outside, c => if c = '"' then ([], inside []) else ([.char c], outside)
  | inside name, c => if c = '"' then ([], closing name) else ([], inside (name ++ [c]))
  | closing name, c =>
    if c = '"' then ([], inside (name ++ ['"']))
    else ([.identifier (String.ofList name), .char c], outside)

def finish : Scanner → List Lexeme
  | outside => []
  | inside name => [.unclosed (String.ofList name)]
  | closing name => [.identifier (String.ofList name)]

def read : Scanner → List Char → List Lexeme
  | scanner, [] => scanner.finish
  | scanner, c :: rest => (scanner.step c).1 ++ (scanner.step c).2.read rest

end Scanner

def lexemes (text : String) : List Lexeme := Scanner.outside.read text.toList

/-- Whether a text has no quotes. -/
def isUnquoted (text : String) : Bool := text.toList.all (· ≠ '"')

theorem isUnquoted_iff {text : String} : isUnquoted text = true ↔ '"' ∉ text.toList := by
  rw [isUnquoted, List.all_eq_true]
  simp only [decide_eq_true_eq]
  exact ⟨fun hall hmem => hall _ hmem rfl, fun hnone c hmem heq => hnone (heq ▸ hmem)⟩

namespace Scanner

/-- Outside quotes a text without quotes is read character by character. -/
theorem read_outside {word : List Char} (hword : ∀ c ∈ word, c ≠ '"') (rest : List Char) :
    outside.read (word ++ rest) = word.map .char ++ outside.read rest := by
  induction word with
  | nil => rfl
  | cons c others ih =>
      have hothers := ih fun other hmem => hword other (List.mem_cons_of_mem c hmem)
      simp [read, step, hword c List.mem_cons_self, hothers]

/-- Of a name with its quotes doubled, the name has been read. -/
theorem read_doubled (before name rest : List Char) :
    (inside before).read (doubled name ++ rest) = (inside (before ++ name)).read rest := by
  induction name generalizing before with
  | nil => simp [doubled]
  | cons c others ih =>
      have hcons : doubled (c :: others) =
          (if c = '"' then ['"', '"'] else [c]) ++ doubled others := rfl
      have hmore : before ++ c :: others = before ++ [c] ++ others := by simp
      rw [hcons, hmore, ← ih (before ++ [c])]
      by_cases hquote : c = '"'
      · subst hquote
        rfl
      · rw [if_neg hquote, List.append_assoc, List.singleton_append, read, step, if_neg hquote]
        rfl

/-- A name ends at a quote that no other one follows. -/
theorem read_closing (name : List Char) {rest : List Char} (hrest : rest.head? ≠ some '"') :
    (closing name).read rest = .identifier (String.ofList name) :: outside.read rest := by
  cases rest with
  | nil => rfl
  | cons c others =>
      have hquote : c ≠ '"' := fun heq => hrest (congrArg some heq)
      simp [read, step, hquote]

/-- A quoted name is read as the name. -/
theorem read_quotedName (name : String) {rest : List Char} (hrest : rest.head? ≠ some '"') :
    outside.read ((quotedName name).toList ++ rest) = .identifier name :: outside.read rest := by
  have hname : (quotedName name).toList ++ rest = '"' :: (doubled name.toList ++ '"' :: rest) := by
    simp [quotedName]
  calc outside.read ((quotedName name).toList ++ rest)
    _ = (inside []).read (doubled name.toList ++ '"' :: rest) := by
      rw [hname, read, step, if_pos rfl, List.nil_append]
    _ = (inside name.toList).read ('"' :: rest) := by rw [read_doubled, List.nil_append]
    _ = (closing name.toList).read rest := by rw [read, step, if_pos rfl, List.nil_append]
    _ = .identifier name :: outside.read rest := by rw [read_closing _ hrest, String.ofList_toList]

end Scanner

/-! ## Reading pieces -/

/-- What pieces are read as, with the next value under a given number. -/
def lexemesFrom (next : Nat) : List Piece → List Lexeme
  | [] => []
  | .text s :: rest => s.toList.map .char ++ lexemesFrom next rest
  | .name s :: rest => .identifier s :: lexemesFrom next rest
  | .value _ :: rest => (placeholder next).toList.map .char ++ lexemesFrom (next + 1) rest
  | .key :: rest => (placeholder 1).toList.map .char ++ lexemesFrom next rest

/-- Whether the words of a piece are some, and are read as they are. -/
def Piece.isWord : Piece → Bool
  | text s => s ≠ "" && isUnquoted s
  | _ => true

/-- Pieces that are read one by one. -/
structure Spaced (pieces : List Piece) : Prop where
  words : ∀ piece ∈ pieces, piece.isWord = true
  apart : pieces.IsChain fun first second => first.isName = true → second.isName = false

theorem quote_notMem_placeholder (number : Nat) : ∀ c ∈ (placeholder number).toList, c ≠ '"' := by
  rw [toList_placeholder, List.forall_mem_cons]
  refine ⟨by decide, ?_⟩
  rintro c hmem rfl
  cases Nat.isDigit_of_mem_toDigits (by decide) (by decide) hmem

/-- The text of pieces starts with a quote only if they start with a name. -/
theorem head?_textFrom_ne {pieces : List Piece} (hwords : ∀ piece ∈ pieces, piece.isWord = true)
    (hname : ∀ piece ∈ pieces.head?, piece.isName = false) (next : Nat) :
    (textFrom next pieces).head? ≠ some '"' := by
  cases pieces with
  | nil => exact nofun
  | cons piece rest =>
      have hfirst := hname piece rfl
      have hword := hwords piece List.mem_cons_self
      cases piece with
      | text s =>
          simp only [Piece.isWord, isUnquoted, Bool.and_eq_true, decide_eq_true_eq,
            List.all_eq_true, ← String.toList_eq_nil_iff, ne_eq] at hword
          obtain ⟨hsome, hquotes⟩ := hword
          cases hs : s.toList with
          | nil => exact absurd hs hsome
          | cons c others =>
              rw [hs] at hquotes
              simpa [textFrom, hs] using hquotes c List.mem_cons_self
      | name s => cases hfirst
      | value v => simp [textFrom, toList_placeholder]
      | key => simp [textFrom, toList_placeholder]

/-- Pieces that are read one by one are read as what they stand for. -/
theorem Spaced.read {pieces : List Piece} (hspaced : Spaced pieces) (next : Nat) :
    Scanner.outside.read (textFrom next pieces) = lexemesFrom next pieces := by
  induction pieces generalizing next with
  | nil => rfl
  | cons piece rest ih =>
      obtain ⟨hwords, hapart⟩ := hspaced
      obtain ⟨hword, hrestWords⟩ := List.forall_mem_cons.1 hwords
      obtain ⟨hnext, hrestApart⟩ := List.isChain_cons.1 hapart
      have hread := ih ⟨hrestWords, hrestApart⟩
      cases piece with
      | text s =>
          have hs : ∀ c ∈ s.toList, c ≠ '"' := by
            simp only [Piece.isWord, isUnquoted, Bool.and_eq_true, List.all_eq_true,
              decide_eq_true_eq] at hword
            exact hword.2
          rw [textFrom, lexemesFrom, Scanner.read_outside hs, hread]
      | name s =>
          have hquote := head?_textFrom_ne hrestWords (fun other hmem => hnext other hmem rfl) next
          rw [textFrom, lexemesFrom, Scanner.read_quotedName s hquote, hread]
      | value v =>
          rw [textFrom, lexemesFrom, Scanner.read_outside (quote_notMem_placeholder next), hread]
      | key =>
          rw [textFrom, lexemesFrom, Scanner.read_outside (quote_notMem_placeholder 1), hread]

/-- The query of pieces is read as the pieces. -/
theorem Spaced.lexemes {pieces : List Piece} (hspaced : Spaced pieces) (key : Option String) :
    lexemes (Query.ofPieces key pieces).text =
      lexemesFrom (if key.isSome then 2 else 1) pieces := by
  rw [Sql.lexemes, Query.ofPieces, String.toList_ofList, hspaced.read]

/-- The words of a piece stand among the characters outside of names. -/
theorem infix_lexemesFrom {s : String} {pieces : List Piece} (hmem : .text s ∈ pieces)
    (next : Nat) : s.toList.map .char <:+: lexemesFrom next pieces := by
  induction pieces generalizing next with
  | nil => cases hmem
  | cons piece rest ih =>
      rcases List.mem_cons.1 hmem with rfl | hrest
      · exact List.infix_append_left
      · cases piece with
        | text | value | key => exact List.infix_append_of_infix_right (ih hrest _)
        | name name => exact List.infix_cons (ih hrest next)

/-- Every quoted name of a statement is closed. -/
theorem unclosed_notMem_lexemesFrom (name : String) (next : Nat) (pieces : List Piece) :
    .unclosed name ∉ lexemesFrom next pieces := by
  induction pieces generalizing next with
  | nil => exact List.not_mem_nil
  | cons piece rest ih => cases piece <;> simp [lexemesFrom, ih]

/-! ## Pieces in a row -/

@[simp]
theorem spaced_nil : Spaced [] := ⟨by simp, .nil⟩

@[simp]
theorem spaced_singleton {piece : Piece} : Spaced [piece] ↔ piece.isWord = true :=
  ⟨fun hspaced => hspaced.words piece List.mem_cons_self,
    fun hword => ⟨List.forall_mem_singleton.2 hword, .singleton piece⟩⟩

/-- What stands on the two sides of a piece that is no name has nothing to do with each other. -/
theorem spaced_append_cons {first second : List Piece} {piece : Piece}
    (hname : piece.isName = false) :
    Spaced (first ++ piece :: second) ↔ Spaced first ∧ piece.isWord = true ∧ Spaced second := by
  have hchain : (first ++ piece :: second).IsChain
        (fun first second => first.isName = true → second.isName = false) ↔
      first.IsChain (fun first second => first.isName = true → second.isName = false) ∧
        second.IsChain fun first second => first.isName = true → second.isName = false := by
    rw [List.isChain_append, List.isChain_cons]
    simp [hname]
  constructor
  · rintro ⟨hwords, hapart⟩
    obtain ⟨hfirst, hrest⟩ := List.forall_mem_append.1 hwords
    obtain ⟨hpiece, hsecond⟩ := List.forall_mem_cons.1 hrest
    obtain ⟨hbefore, hbehind⟩ := hchain.1 hapart
    exact ⟨⟨hfirst, hbefore⟩, hpiece, ⟨hsecond, hbehind⟩⟩
  · rintro ⟨⟨hfirst, hbefore⟩, hpiece, ⟨hsecond, hbehind⟩⟩
    exact ⟨List.forall_mem_append.2 ⟨hfirst, List.forall_mem_cons.2 ⟨hpiece, hsecond⟩⟩,
      hchain.2 ⟨hbefore, hbehind⟩⟩

@[simp]
theorem spaced_append_text {first second : List Piece} {s : String} :
    Spaced (first ++ .text s :: second) ↔
      Spaced first ∧ (Piece.text s).isWord = true ∧ Spaced second := spaced_append_cons rfl

@[simp]
theorem spaced_text_cons {second : List Piece} {s : String} :
    Spaced (.text s :: second) ↔ (Piece.text s).isWord = true ∧ Spaced second := by
  rw [← List.nil_append (.text s :: second), spaced_append_text]
  exact and_iff_right spaced_nil

@[simp]
theorem spaced_name_text {rest : List Piece} {name s : String} :
    Spaced (.name name :: .text s :: rest) ↔ (Piece.text s).isWord = true ∧ Spaced rest := by
  rw [← List.singleton_append, spaced_append_text, spaced_singleton]
  exact and_iff_right rfl

theorem spaced_separated {between : String} {parts : List (List Piece)}
    (hbetween : (Piece.text between).isWord = true) (hparts : ∀ part ∈ parts, Spaced part) :
    Spaced (separated between parts) := by
  induction parts with
  | nil => exact spaced_nil
  | cons part rest ih =>
      have hpart := hparts part List.mem_cons_self
      have hrest := ih fun other hmem => hparts other (List.mem_cons_of_mem part hmem)
      cases rest with
      | nil => exact hpart
      | cons next others =>
          rw [separated_cons_cons, List.append_assoc, List.singleton_append, spaced_append_text]
          exact ⟨hpart, hbetween, hrest⟩

end RestQuery.Sql
