import RestQuery.Sql.Text

/-!
# Quoted names at the start of a text

A quoted name tells where it ends.  Within it two quotes stand for one, and the first quote that no
other one follows ends it, so that a reader gets the name back and leaves what stands behind it.
No other text starts with a quoted name, and the two names of a table are told apart.

Main statement: `quotedName_selfDelimiting`.
-/

namespace RestQuery.Sql

/-! ## Reading a name -/

/-- The name that ends at the next quote which is not one of two, and what stands behind it. -/
def takeDoubled? : List Char → Option (List Char × List Char)
  | [] => none
  | '"' :: '"' :: cs => (takeDoubled? cs).map fun (name, rest) => ('"' :: name, rest)
  | '"' :: rest => some ([], rest)
  | c :: cs => (takeDoubled? cs).map fun (name, rest) => (c :: name, rest)

/-- The quoted name at the start of a text, and what stands behind it. -/
def takeName? : List Char → Option (String × List Char)
  | '"' :: cs => (takeDoubled? cs).map fun (name, rest) => (String.ofList name, rest)
  | _ => none

def takeTable? (text : List Char) : Option (String × String × List Char) :=
  match takeName? text with
  | some (schema, '.' :: cs) => (takeName? cs).map fun (table, rest) => (schema, table, rest)
  | _ => none

variable {cs name rest text : List Char} {c : Char}

theorem doubled_quote (name : List Char) : doubled ('"' :: name) = '"' :: '"' :: doubled name := rfl

theorem doubled_cons (hc : c ≠ '"') (name : List Char) :
    doubled (c :: name) = c :: doubled name := by
  rw [doubled, List.flatMap_cons, if_neg hc]
  rfl

theorem takeDoubled?_cons (hc : c ≠ '"') (cs : List Char) :
    takeDoubled? (c :: cs) = (takeDoubled? cs).map fun (name, rest) => (c :: name, rest) := by
  rw [takeDoubled?]
  · rintro others rfl
    exact absurd rfl hc
  · rintro rfl
    exact hc rfl

/-- A quote ends the name unless another one follows. -/
theorem takeDoubled?_quote (hrest : rest.head? ≠ some '"') :
    takeDoubled? ('"' :: rest) = some ([], rest) := by
  rw [takeDoubled?]
  rintro others rfl
  exact hrest rfl

/-- A name with doubled quotes is read back up to the quote that ends it. -/
theorem takeDoubled?_doubled (name : List Char) (hrest : rest.head? ≠ some '"') :
    takeDoubled? (doubled name ++ '"' :: rest) = some (name, rest) := by
  induction name with
  | nil => exact takeDoubled?_quote hrest
  | cons c others ih =>
      by_cases hc : c = '"'
      · subst hc
        rw [doubled_quote, List.cons_append, List.cons_append, takeDoubled?, ih]
        rfl
      · rw [doubled_cons hc, List.cons_append, takeDoubled?_cons hc, ih]
        rfl

/-- What is read as a name has its quotes doubled and a quote of its own behind it. -/
theorem eq_of_takeDoubled? (htake : takeDoubled? cs = some (name, rest)) :
    cs = doubled name ++ '"' :: rest ∧ rest.head? ≠ some '"' := by
  fun_induction takeDoubled? cs generalizing name rest with
  | case1 => cases htake
  | case2 others ih =>
      obtain ⟨⟨name, rest⟩, hothers, heq⟩ := Option.map_eq_some_iff.1 htake
      obtain ⟨rfl, rfl⟩ := Prod.mk.inj heq
      obtain ⟨rfl, hrest⟩ := ih hothers
      exact ⟨rfl, hrest⟩
  | case3 others hnext =>
      obtain ⟨rfl, rfl⟩ := Prod.mk.inj (Option.some.inj htake)
      refine ⟨rfl, fun hhead => ?_⟩
      obtain ⟨tail, rfl⟩ := List.head?_eq_some_iff.1 hhead
      exact hnext tail rfl
  | case4 c others hpair hc ih =>
      obtain ⟨⟨name, rest⟩, hothers, heq⟩ := Option.map_eq_some_iff.1 htake
      obtain ⟨rfl, rfl⟩ := Prod.mk.inj heq
      obtain ⟨rfl, hrest⟩ := ih hothers
      rw [doubled_cons hc]
      exact ⟨rfl, hrest⟩

theorem toList_quotedName (name : String) :
    (quotedName name).toList = '"' :: (doubled name.toList ++ ['"']) := by
  simp [quotedName]

/-- A quoted name is read back in front of whatever is no quote. -/
theorem takeName?_quotedName (name : String) (hrest : rest.head? ≠ some '"') :
    takeName? ((quotedName name).toList ++ rest) = some (name, rest) := by
  have htext : (quotedName name).toList ++ rest = '"' :: (doubled name.toList ++ '"' :: rest) := by
    simp [toList_quotedName]
  rw [htext, takeName?, takeDoubled?_doubled name.toList hrest]
  exact congrArg (fun name => some (name, rest)) String.ofList_toList

/-- Only the quoted name itself is read as the name. -/
theorem eq_of_takeName? {name : String} (htake : takeName? text = some (name, rest)) :
    text = (quotedName name).toList ++ rest ∧ rest.head? ≠ some '"' := by
  unfold takeName? at htake
  split at htake
  next cs =>
    obtain ⟨⟨letters, rest⟩, hcs, heq⟩ := Option.map_eq_some_iff.1 htake
    obtain ⟨rfl, rfl⟩ := Prod.mk.inj heq
    obtain ⟨rfl, hrest⟩ := eq_of_takeDoubled? hcs
    simp [toList_quotedName, hrest]
  next => cases htake

/-! ## Reading a table -/

theorem textFrom_tablePieces (next : Nat) (schema table : String) :
    textFrom next (tablePieces schema table) =
      (quotedName schema).toList ++ '.' :: (quotedName table).toList := by
  simp [tablePieces, textFrom]

/-- The schema and the table are read back from the text of the two. -/
theorem takeTable?_tablePieces (next : Nat) (schema table : String)
    (hrest : rest.head? ≠ some '"') :
    takeTable? (textFrom next (tablePieces schema table) ++ rest) = some (schema, table, rest) := by
  rw [textFrom_tablePieces, List.append_assoc, List.cons_append, takeTable?,
    takeName?_quotedName schema (by simp)]
  change (takeName? ((quotedName table).toList ++ rest)).map _ = _
  rw [takeName?_quotedName table hrest]
  rfl

/-- A quoted name with any text behind it that does not start with a quote is read as the name, and
the text behind it is left; nothing else is read as a name.  In the same way a table is read as its
schema and its name, so that it determines both. -/
theorem quotedName_selfDelimiting :
    (∀ (name : String) (rest : List Char), rest.head? ≠ some '"' →
      takeName? ((quotedName name).toList ++ rest) = some (name, rest)) ∧
    (∀ (text : List Char) (name : String) (rest : List Char),
      takeName? text = some (name, rest) →
      text = (quotedName name).toList ++ rest ∧ rest.head? ≠ some '"') ∧
    (∀ (next : Nat) (schema table : String) (rest : List Char), rest.head? ≠ some '"' →
      takeTable? (textFrom next (tablePieces schema table) ++ rest) = some (schema, table, rest)) ∧
    ∀ (next other : Nat) (schema table schema' table' : String),
      textFrom next (tablePieces schema table) = textFrom other (tablePieces schema' table') →
      schema = schema' ∧ table = table' := by
  refine ⟨fun name rest => takeName?_quotedName name, fun text name rest => eq_of_takeName?,
    fun next schema table rest => takeTable?_tablePieces next schema table, ?_⟩
  intro next other schema table schema' table' heq
  have hfirst := @takeTable?_tablePieces [] next schema table (by simp)
  have hsecond := @takeTable?_tablePieces [] other schema' table' (by simp)
  rw [heq, hsecond] at hfirst
  simp only [Option.some.injEq, Prod.mk.injEq, and_true] at hfirst
  exact ⟨hfirst.1.symm, hfirst.2.symm⟩

/-- A name of quotes only, one with quotes at both ends before a point, and two tables whose names
have the same quotes in other places. -/
theorem quotedName_selfDelimiting_quotes :
    takeName? "\"\"\"\"\"\"".toList = some ("\"\"", []) ∧
    takeName? "\"\"\"a\"\"\".\"b\"".toList = some ("\"a\"", ".\"b\"".toList) ∧
    textFrom 1 (tablePieces "a\"" "b") ≠ textFrom 1 (tablePieces "a" "\"b") := by
  obtain ⟨hname, -, -, htable⟩ := quotedName_selfDelimiting
  refine ⟨hname "\"\"" [] nofun, hname "\"a\"" ".\"b\"".toList (by decide), fun heq => ?_⟩
  exact absurd (htable 1 1 _ _ _ _ heq).1 (by decide)

end RestQuery.Sql
