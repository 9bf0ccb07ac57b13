import RestQuery.Text.Letter
import RestQuery.Text.Mark

/-!
# Lower case of texts

The lower-case form of a text differs from that of its characters one by one in a single
point: a capital sigma at the end of a word becomes a final sigma.  Snake case lowers each
capital on its own and sets an underscore before it unless one stands there.
-/

namespace RestQuery.Text

def nextIsCased (cs : List Char) : Bool :=
  match cs.dropWhile isCaseIgnorable with
  | c :: _ => isCased c
  | [] => false

/-- Whether a character between these neighbours ends a word; those before it are given
from the nearest to the farthest. -/
def endsWord (before after : List Char) : Bool := nextIsCased before && !nextIsCased after

/-- The lower-case form of characters that follow those in `before`, the nearest first. -/
def lowerAfter (before : List Char) : List Char → List Char
  | [] => []
  | c :: after =>
    (if c = 'Σ' then [if endsWord before after then 'ς' else 'σ'] else lowerChar c)
      ++ lowerAfter (c :: before) after

def lower (s : String) : String := String.ofList (lowerAfter [] s.toList)

/-- Snake case of characters; `joined` says that no underscore is wanted before a capital
at this point, since the text starts here or has an underscore here. -/
def snakeFrom (joined : Bool) : List Char → List Char
  | [] => []
  | c :: rest =>
    if isUpper c then (if joined then [] else ['_']) ++ lowerChar c ++ snakeFrom false rest
    else c :: snakeFrom (c == '_') rest

/-- Snake case of a text: `openingHours` becomes `opening_hours`. -/
def snake (s : String) : String := String.ofList (snakeFrom true s.toList)

@[simp]
theorem toList_lower (s : String) : (lower s).toList = lowerAfter [] s.toList := by
  simp [lower]

/-- At the start of a text no underscore is wanted. -/
@[simp]
theorem toList_snake (s : String) : (snake s).toList = snakeFrom true s.toList := by
  simp [snake]

/-- A text of characters without upper case is its own snake case. -/
theorem snakeFrom_eq_self {joined : Bool} {cs : List Char} (h : ∀ c ∈ cs, isUpper c = false) :
    snakeFrom joined cs = cs := by
  induction cs generalizing joined with
  | nil => rfl
  | cons c rest ih =>
    simp [snakeFrom, h c (.head _), ih fun c hc => h c (.tail _ hc)]

end RestQuery.Text
