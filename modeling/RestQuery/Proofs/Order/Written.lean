import RestQuery.Proofs.Order

/-!
# Orderings are read back

Entries are written as the names of their fields and the words of their directions with spaces
between them, and are read as just these entries.  Of a value that is no ordering the first token
with a fault tells the problem, unless there are too many tokens, which is found before any of them
is read.

Main statement: `Order.read_written`.
-/

namespace RestQuery

/-! ## The first failure of a pass -/

/-- A pass over a list fails at the first item for which the step fails. -/
theorem mapM_eq_error_iff {ε : Type u} {α β : Type v} {step : α → Except ε β} {items : List α}
    {fault : ε} :
    items.mapM step = .error fault ↔
      ∃ before item after, items = before ++ item :: after ∧
        (∀ earlier ∈ before, ∃ result, step earlier = .ok result) ∧ step item = .error fault := by
  induction items with
  | nil => simp [pure, Except.pure]
  | cons first rest ih =>
      rw [List.mapM_cons]
      constructor
      · intro hfailed
        cases hfirst : step first with
        | error other =>
            rw [hfirst] at hfailed
            obtain rfl := Except.error.inj hfailed
            exact ⟨[], first, rest, rfl, nofun, hfirst⟩
        | ok result =>
            have hrest : rest.mapM step = .error fault := by
              cases hmap : rest.mapM step with
              | error other => simpa [hfirst, hmap, bind, Except.bind] using hfailed
              | ok results => simp [hfirst, hmap, bind, Except.bind, pure, Except.pure] at hfailed
            obtain ⟨before, item, after, rfl, hbefore, hitem⟩ := ih.1 hrest
            exact ⟨first :: before, item, after, rfl,
              List.forall_mem_cons.2 ⟨⟨result, hfirst⟩, hbefore⟩, hitem⟩
      · rintro ⟨before, item, after, heq, hbefore, hitem⟩
        cases before with
        | nil =>
            obtain ⟨rfl, rfl⟩ := List.cons.inj heq
            rw [hitem]
            rfl
        | cons earlier before =>
            obtain ⟨rfl, rfl⟩ := List.cons.inj heq
            obtain ⟨⟨result, hfirst⟩, hbefore⟩ := List.forall_mem_cons.1 hbefore
            rw [hfirst, ih.2 ⟨before, item, after, rfl, hbefore, hitem⟩]
            rfl

/-! ## Directions -/

namespace Direction

variable {word : String} {direction : Direction}

/-- A word stands for a direction: its keyword, in letters of either case. -/
def Spells (direction : Direction) (word : String) : Prop :=
  word.toList.map Char.toLower = direction.keyword.toList.map Char.toLower

instance : Decidable (direction.Spells word) :=
  inferInstanceAs (Decidable
    (word.toList.map Char.toLower = direction.keyword.toList.map Char.toLower))

theorem read?_eq_some_iff : read? word = some direction ↔ direction.Spells word := by
  have hascending : ascending.keyword.toList.map Char.toLower = ['a', 's', 'c'] := by decide
  have hdescending : descending.keyword.toList.map Char.toLower = ['d', 'e', 's', 'c'] := by decide
  unfold read? Spells
  dsimp only
  cases direction with
  | ascending =>
      rw [hascending]
      split <;> simp_all
  | descending =>
      rw [hdescending]
      split <;> simp_all

/-- No blank is a letter of either case. -/
theorem toLower_eq_of_isBlank {c : Char} (hblank : Text.isBlank c = true) : c.toLower = c := by
  have hupper : ¬(c.val ≥ 'A'.val ∧ c.val ≤ 'Z'.val) := by
    rintro ⟨hlow, hhigh⟩
    have hlow : 65 ≤ c.toNat := hlow
    have hhigh : c.toNat ≤ 90 := hhigh
    simp [Text.isBlank, Text.blankSpans, Text.Span.contains] at hblank
    omega
  exact dif_neg hupper

/-- What is no capital in the word for a direction is one of five letters. -/
theorem Spells.mem_letters (hspells : direction.Spells word) {c : Char} (hmem : c ∈ word.toList)
    (hlower : c.toLower = c) : c ∈ ['a', 's', 'c', 'd', 'e'] := by
  have hletters (direction : Direction) :
      direction.keyword.toList.map Char.toLower ⊆ ['a', 's', 'c', 'd', 'e'] := by
    cases direction <;> decide
  have hsmall : c.toLower ∈ word.toList.map Char.toLower := List.mem_map_of_mem hmem
  rw [hspells, hlower] at hsmall
  exact hletters direction hsmall

/-- The word for a direction has no blanks. -/
theorem Spells.not_blank (hspells : direction.Spells word) :
    word ≠ "" ∧ ∀ c ∈ word.toList, Text.isBlank c = false := by
  constructor
  · rintro rfl
    cases direction <;> cases hspells
  · intro c hmem
    have hletter : ∀ c ∈ ['a', 's', 'c', 'd', 'e'], Text.isBlank c = false :=
      Text.not_isBlank_of_any (by decide)
    rw [← Bool.not_eq_true]
    intro hblank
    rw [hletter c (hspells.mem_letters hmem (toLower_eq_of_isBlank hblank))] at hblank
    cases hblank

theorem Spells.comma_notMem (hspells : direction.Spells word) : ',' ∉ word.toList := fun hmem =>
  absurd (hspells.mem_letters hmem (by decide)) (by decide)

end Direction

namespace Order

variable {fields : Fields} {token value : String} {entry : OrderEntry}
  {entries : List OrderEntry} {problem : Problem}

/-! ## Tokens in order -/

/-- A name that is read as it is written: in normal form, not empty, and cut neither by a space nor
by a comma. -/
structure Writable (name : String) : Prop where
  normal : Key.normalSegment name = name
  nonempty : name ≠ ""
  space : ' ' ∉ name.toList
  comma : ',' ∉ name.toList

/-- How an entry is written: the name of its field, some spaces and the word for its direction, with
spaces around the two or without. -/
inductive Writes (entry : OrderEntry) : String → Prop
  | spaced (before gap after : Nat) {word : String} (hword : entry.direction.Spells word) :
      Writes entry (spaces before ++ entry.field.name ++ spaces (gap + 1) ++ word ++ spaces after)

theorem trimStart_ne_nil {name : String} (hwritable : Writable name) :
    Text.trimStart name.toList ≠ [] := fun hblank =>
  hwritable.nonempty (hwritable.normal ▸
    Key.normalSegment_of_blank (by rw [← Text.trim_trimStart, hblank]; rfl))

/-- An entry by a field that callers may order by is read back. -/
theorem Writes.readToken (hwrites : Writes entry token) (hname : Writable entry.field.name)
    (hallows : fields.Allows entry.field) : readToken fields (Text.trim token) = .ok entry := by
  cases hwrites with
  | spaced before gap after hword =>
      obtain ⟨hsome, hblank⟩ := hword.not_blank
      refine readToken_eq_ok_iff.2 ⟨String.ofList (Text.trimStart entry.field.name.toList), _, ?_,
        Direction.read?_eq_some_iff.2 hword, ?_, hallows⟩
      · rw [tokenWords_written before gap after hname.space hsome hblank,
          if_neg (trimStart_ne_nil hname)]
      · rw [Key.normalSegment_trimStart, hname.normal]

theorem Writes.comma_notMem (hwrites : Writes entry token) (hname : Writable entry.field.name) :
    ',' ∉ token.toList := by
  cases hwrites with
  | spaced before gap after hword =>
      have hcomma := hword.comma_notMem
      simp [spaces, hname.comma, hcomma]

/-! ## Tokens with a fault -/

/-- What is wrong with a token: it is not two words, the second is no direction, or the first names
no field that callers may order by. -/
inductive Fault (fields : Fields) (token : String) : Problem → Prop
  | format (hwords : (tokenWords token).length ≠ 2) : Fault fields token .invalidOrderFormat
  | direction {name word : String} (hwords : tokenWords token = [name, word])
      (hword : ∀ direction : Direction, ¬direction.Spells word) :
      Fault fields token .invalidOrderDirection
  | field {name word : String} {direction : Direction} (hwords : tokenWords token = [name, word])
      (hword : direction.Spells word) (hresource : Key.normalSegment name ∉ fields.resource)
      (hlink : Key.normalSegment name ∉ fields.link) :
      Fault fields token (.unknownOrderField (Key.normalSegment name))

/-- The problem of a token is what is wrong with it. -/
theorem readToken_eq_error_iff :
    readToken fields token = .error problem ↔ Fault fields token problem := by
  constructor
  · intro hread
    rw [readToken] at hread
    split at hread
    next name word hwords =>
      split at hread
      next direction hdirection =>
        dsimp only at hread
        split at hread
        next => cases hread
        next hresource =>
          split at hread
          next => cases hread
          next hlink =>
            obtain rfl := Except.error.inj hread
            exact .field hwords (Direction.read?_eq_some_iff.1 hdirection)
              (by simpa using hresource) (by simpa using hlink)
      next hdirection =>
        obtain rfl := Except.error.inj hread
        exact .direction hwords fun direction hword => by
          rw [Direction.read?_eq_some_iff.2 hword] at hdirection
          cases hdirection
    next hwords =>
      obtain rfl := Except.error.inj hread
      refine .format fun hlength => ?_
      obtain ⟨name, word, heq⟩ := List.length_eq_two.1 hlength
      exact hwords name word heq
  · rintro (hwords | ⟨hwords, hword⟩ | ⟨hwords, hword, hresource, hlink⟩)
    · rw [readToken]
      split
      next heq => exact absurd (congrArg List.length heq) hwords
      next => rfl
    · have hnone : ∀ {word : String}, (∀ direction : Direction, ¬direction.Spells word) →
          Direction.read? word = none := fun hword =>
        Option.eq_none_iff_forall_ne_some.2 fun direction hread =>
          hword direction (Direction.read?_eq_some_iff.1 hread)
      rw [readToken, hwords]
      dsimp only
      rw [hnone hword]
    · rw [readToken, hwords]
      dsimp only
      rw [Direction.read?_eq_some_iff.2 hword]
      simp [hresource, hlink]

/-! ## Whole values -/

/-- Entries by fields that callers may order by are read back. -/
theorem read_join {tokens : List String} (hcount : entries.length = 1 ∨ entries.length = 2)
    (hentries : ∀ entry ∈ entries, Writable entry.field.name ∧ fields.Allows entry.field)
    (hwrites : List.Forall₂ Writes entries tokens) :
    read fields (Text.join ',' tokens) = .ok entries := by
  have hlength : entries.length = tokens.length := hwrites.length_eq
  have hsome : tokens ≠ [] := by
    rintro rfl
    simp [hlength] at hcount
  have hsplit : Text.split ',' (Text.join ',' tokens) = tokens := by
    apply Text.split_join hsome
    intro token hmem
    obtain ⟨entry, hentry, hwritten⟩ := exists_of_mem_right hwrites hmem
    exact hwritten.comma_notMem (hentries entry hentry).1
  rw [read_eq_ok_iff, hsplit]
  constructor
  · rw [← hlength, maxEntries]
    omega
  · rw [List.forall₂_map_left_iff]
    refine ((List.forall₂_and_left _ _).2 ⟨hentries, hwrites⟩).flip.imp ?_
    rintro token entry ⟨⟨hname, hallows⟩, hwritten⟩
    exact hwritten.readToken hname hallows

/-- A token without a fault is read. -/
theorem exists_ok_readToken_iff :
    (∃ entry, readToken fields token = .ok entry) ↔ ∀ problem, ¬Fault fields token problem := by
  simp only [← readToken_eq_error_iff]
  cases readToken fields token <;> simp

/-- A value without too many tokens has the problem of the first token with a fault. -/
theorem read_eq_error_iff (hfew : (Text.split ',' value).length ≤ 2) :
    read fields value = .error problem ↔
      ∃ before part after, Text.split ',' value = before ++ part :: after ∧
        (∀ earlier ∈ before, ∀ other, ¬Fault fields (Text.trim earlier) other) ∧
        Fault fields (Text.trim part) problem := by
  have hread : read fields value =
      (Text.split ',' value).mapM fun part => readToken fields (Text.trim part) := by
    rw [read, List.length_map, maxEntries, if_neg (Nat.not_lt.2 hfew), List.mapM_map]
    simp only [Function.comp_def]
  simp only [hread, mapM_eq_error_iff, exists_ok_readToken_iff, readToken_eq_error_iff]

/-- Entries that are written are read back if their fields are some that callers may order by and
their names are read as they are.  Every ordering that is read has one or two entries, by such
fields.  Too many tokens are a problem whatever they are, and otherwise the problem is that of the
first token with a fault. -/
theorem read_written (fields : Fields) :
    (∀ {entries tokens}, entries.length = 1 ∨ entries.length = 2 →
      (∀ entry ∈ entries, Writable entry.field.name ∧ fields.Allows entry.field) →
      List.Forall₂ Writes entries tokens →
      read fields (Text.join ',' tokens) = .ok entries) ∧
    ∀ value,
      (∀ entries, read fields value = .ok entries →
        (entries.length = 1 ∨ entries.length = 2) ∧
          ∀ entry ∈ entries, fields.Allows entry.field) ∧
      (2 < (Text.split ',' value).length →
        read fields value = .error (.tooManyOrderFields 2)) ∧
      ((Text.split ',' value).length ≤ 2 → ∀ problem, read fields value = .error problem ↔
        ∃ before part after, Text.split ',' value = before ++ part :: after ∧
          (∀ earlier ∈ before, ∀ other, ¬Fault fields (Text.trim earlier) other) ∧
          Fault fields (Text.trim part) problem) := by
  refine ⟨read_join, fun value => ⟨fun entries hread => ⟨?_, fun entry => allows_of_read hread⟩,
    fun hmany => ?_, fun hfew problem => read_eq_error_iff hfew⟩⟩
  · have hmost : entries.length ≤ 2 := length_le_of_read hread
    have hsome : entries.length = (Text.split ',' value).length := by
      rw [← (read_eq_ok_iff.1 hread).2.length_eq, List.length_map]
    have hne : (Text.split ',' value).length ≠ 0 := by simp
    omega
  · rw [read, List.length_map]
    exact if_pos hmany

/-- Two entries, one by a field of the link table, with spaces in all places; and a value whose
first token has a fault. -/
theorem read_written_cabins :
    read ⟨["name"], ["distance"]⟩ " name  DESC ,distance Asc" =
      .ok [⟨⟨.resource, "name"⟩, .descending⟩, ⟨⟨.link, "distance"⟩, .ascending⟩] ∧
    read ⟨["name"], []⟩ "name sideways,owner asc" = .error .invalidOrderDirection := by
  have hwrites : List.Forall₂ Writes
      [⟨⟨.resource, "name"⟩, .descending⟩, ⟨⟨.link, "distance"⟩, .ascending⟩]
      [" name  DESC ", "distance Asc"] :=
    .cons (@Writes.spaced ⟨⟨.resource, "name"⟩, .descending⟩ 1 1 1 "DESC" (by decide))
      (.cons (@Writes.spaced ⟨⟨.link, "distance"⟩, .ascending⟩ 0 0 0 "Asc" (by decide)) .nil)
  have hentries : ∀ entry ∈ [(⟨⟨.resource, "name"⟩, .descending⟩ : OrderEntry),
      ⟨⟨.link, "distance"⟩, .ascending⟩],
      Writable entry.field.name ∧ Fields.Allows ⟨["name"], ["distance"]⟩ entry.field := by
    rw [List.forall_mem_cons, List.forall_mem_singleton]
    exact ⟨⟨⟨by decide +kernel, by decide, by decide, by decide⟩, .inl ⟨rfl, by decide⟩⟩,
      ⟨by decide +kernel, by decide, by decide, by decide⟩, .inr ⟨rfl, by decide, by decide⟩⟩
  have hfault : Fault ⟨["name"], []⟩ (Text.trim "name sideways") .invalidOrderDirection :=
    @Fault.direction _ _ "name" "sideways" (by decide) fun direction => by
      cases direction <;> decide
  have hsplit : Text.split ',' "name sideways,owner asc" = ["name sideways", "owner asc"] := by
    decide
  constructor
  · have hjoin : Text.join ',' [" name  DESC ", "distance Asc"] = " name  DESC ,distance Asc" := by
      decide
    have hread := (read_written ⟨["name"], ["distance"]⟩).1 (.inr rfl) hentries hwrites
    rwa [hjoin] at hread
  · have hfew : (Text.split ',' "name sideways,owner asc").length ≤ 2 := by
      rw [hsplit]
      decide
    exact (((read_written ⟨["name"], []⟩).2 "name sideways,owner asc").2.2 hfew _).2
      ⟨[], "name sideways", ["owner asc"], hsplit, nofun, hfault⟩

/-- The empty name is legal but for its length, and it is no word. -/
theorem read_empty_name :
    Key.normalSegment "" = "" ∧ ' ' ∉ "".toList ∧ ',' ∉ "".toList ∧
      Fields.Allows ⟨[""], []⟩ ⟨.resource, ""⟩ ∧ Writes ⟨⟨.resource, ""⟩, .ascending⟩ " asc" ∧
      read ⟨[""], []⟩ " asc" = .error .invalidOrderFormat :=
  ⟨by decide +kernel, by decide, by decide, .inl ⟨rfl, by decide⟩,
    @Writes.spaced ⟨⟨.resource, ""⟩, .ascending⟩ 0 0 0 "asc" (by decide), by decide +kernel⟩

end Order

end RestQuery
