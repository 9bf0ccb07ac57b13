import RestQuery.Json.Value

/-!
# Request parameters

Parameters are values by key.  They come from an object, whose nested objects turn into keys
with points, or from the pairs of a query string, where the values of a repeated key collect
into an array.

Main statement: `get?_ofPairs` says what the pairs of a query string store under a key.
-/

namespace RestQuery

/-- The parameters of a request or of one of its levels. -/
structure Params where
  entries : Table Json := .empty

namespace Params

instance : Inhabited Params := ⟨{}⟩

/-- The key of a member of an object that is found at a path; no path is the empty one. -/
def extend (path key : String) : String := if path = "" then key else path ++ "." ++ key

mutual

/-- The leaves below the members of an object, in order, with their paths. -/
def leaves (path : String) : List (String × Json) → List (String × Json)
  | [] => []
  | (key, value) :: rest => leavesOf (extend path key) value ++ leaves path rest

/-- The leaves of a value: those of its members if it is an object with members, else itself. -/
def leavesOf (path : String) : Json → List (String × Json)
  | .object ((key, value) :: rest) => leavesOf (extend path key) value ++ leaves path rest
  | value => [(path, value)]

end

/-- The parameters that an object gives: its leaves by path. -/
def ofObject (members : List (String × Json)) : Params := ⟨.ofList (leaves "" members)⟩

/-- One more value for a key: the first is kept as it is, further ones make an array. -/
def merge (old : Option Json) (value : String) : Json :=
  match old with
  | none => .string value
  | some (.array items) => .array (items ++ [.string value])
  | some existing => .array [existing, .string value]

def addPair (params : Params) (pair : String × String) : Params :=
  ⟨params.entries.insert pair.1 (merge (params.entries.get? pair.1) pair.2)⟩

def ofPairs (pairs : List (String × String)) : Params := pairs.foldl addPair {}

def insert (params : Params) (key : String) (value : Json) : Params :=
  ⟨params.entries.insert key value⟩

def get? (params : Params) (key : String) : Option Json := params.entries.get? key

def isEmpty (params : Params) : Bool := params.entries.isEmpty

/-! ## Pairs -/

/-- What the values given for one key are stored as. -/
def collected : List String → Option Json
  | [] => none
  | [value] => some (.string value)
  | values => some (Json.strings values)

/-- One more value is collected behind those of its key. -/
theorem merge_collected (values : List String) (value : String) :
    some (merge (collected values) value) = collected (values ++ [value]) := by
  match values with
  | [] => rfl
  | [_] => rfl
  | _ :: _ :: _ => simp [collected, merge, Json.strings]

/-- The pairs read so far determine what is stored under each key. -/
theorem get?_foldl_addPair {params : Params} {seen : List (String × String)}
    (pairs : List (String × String))
    (hseen : ∀ key, params.get? key =
      collected ((seen.filter (·.1 == key)).map Prod.snd)) (key : String) :
    (pairs.foldl addPair params).get? key =
      collected (((seen ++ pairs).filter (·.1 == key)).map Prod.snd) := by
  induction pairs generalizing params seen with
  | nil => simpa using hseen key
  | cons pair rest ih =>
    have hstep : ∀ other, (params.addPair pair).get? other =
        collected (((seen ++ [pair]).filter (·.1 == other)).map Prod.snd) := by
      intro other
      have hget := hseen other
      rw [get?] at hget
      by_cases heq : other = pair.1
      · subst heq
        simp [get?, addPair, hget, merge_collected]
      · have hne : ¬pair.1 = other := fun h => heq h.symm
        simp [get?, addPair, hget, heq, hne]
    rw [List.foldl_cons, ih hstep, List.append_assoc, List.singleton_append]

/-- A query string stores the values of a key in order: nothing for none, the value itself for
one, and an array for more. -/
theorem get?_ofPairs (pairs : List (String × String)) (key : String) :
    (ofPairs pairs).get? key = collected ((pairs.filter (·.1 == key)).map Prod.snd) := by
  have hempty : ∀ other, ({} : Params).get? other =
      collected ((([] : List (String × String)).filter (·.1 == other)).map Prod.snd) :=
    fun _ => rfl
  simpa [ofPairs] using get?_foldl_addPair pairs hempty key

end Params

end RestQuery
