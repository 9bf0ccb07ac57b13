import RestQuery.Text.Blank
import RestQuery.Text.Case
import RestQuery.Text.Split

/-!
# Request keys

A request key is a path of segments with points between them.  Clients write segments in camel
case, in snake case or in capitals; all of them mean the snake-case name.
-/

namespace RestQuery.Key

/-- A segment in its normal form: snake case if it has a small letter, else lower case. -/
def normalSegment (segment : String) : String :=
  let bare := Text.trim segment
  if bare.toList.any Text.isLower then Text.snake bare else Text.lower bare

def segments (key : String) : List String := Text.split '.' key

def normalSegments (key : String) : List String := (segments key).map normalSegment

def ofSegments (parts : List String) : String := Text.join '.' parts

def normal (key : String) : String := ofSegments (normalSegments key)

/-- A key is its segments put together. -/
theorem ofSegments_segments (key : String) : ofSegments (segments key) = key :=
  Text.join_split '.' key

@[simp]
theorem normalSegments_ne_nil (key : String) : normalSegments key ≠ [] := by
  simp [normalSegments, segments]

@[simp]
theorem length_normalSegments (key : String) :
    (normalSegments key).length = (segments key).length := by
  simp [normalSegments]

end RestQuery.Key
