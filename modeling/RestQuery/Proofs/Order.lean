import RestQuery.Order
import RestQuery.Proofs.Outcome
import RestQuery.Proofs.Request.Keys

/-!
# Orderings that are read

An ordering is read token by token, and each token is a field that callers may order by and a
direction.  A field and a direction order by that field if the words of the two are read back as
they are: the name of the field is in normal form, and neither empty nor cut by a comma or a
space.

Main statements: `Order.read_eq_ok_iff` and `Order.read_asc_iff`.
-/

namespace RestQuery.Order

variable {fields : Fields} {field token value : String} {entry : OrderEntry}
  {entries : List OrderEntry}

/-! ## Tokens -/

/-- Callers may order by a field: one of the resource, or one of the link table that no field of the
resource hides. -/
def Fields.Allows (fields : Fields) (field : FieldRef) : Prop :=
  field.scope = .resource ∧ field.name ∈ fields.resource ∨
    field.scope = .link ∧ field.name ∉ fields.resource ∧ field.name ∈ fields.link

/-- A token is a field and a direction. -/
theorem readToken_eq_ok_iff :
    readToken fields token = .ok entry ↔
      ∃ name word, tokenWords token = [name, word] ∧
        Direction.read? word = some entry.direction ∧
        entry.field.name = Key.normalSegment name ∧ fields.Allows entry.field := by
  obtain ⟨⟨scope, normal⟩, direction⟩ := entry
  dsimp only
  constructor
  · intro hread
    rw [readToken] at hread
    split at hread
    next name word hwords =>
      refine ⟨name, word, hwords, ?_⟩
      split at hread
      next direction hdirection =>
        dsimp only at hread
        split at hread
        next hresource =>
          obtain ⟨⟨⟩⟩ := Except.ok.inj hread
          exact ⟨hdirection, rfl, .inl ⟨rfl, by simpa using hresource⟩⟩
        next hresource =>
          split at hread
          next hlink =>
            obtain ⟨⟨⟩⟩ := Except.ok.inj hread
            exact ⟨hdirection, rfl,
              .inr ⟨rfl, by simpa using hresource, by simpa using hlink⟩⟩
          next => cases hread
      next => cases hread
    next => cases hread
  · rintro ⟨name, word, hwords, hdirection, rfl, hfield⟩
    rw [readToken, hwords]
    dsimp only
    rw [hdirection]
    rcases hfield with ⟨rfl, hresource⟩ | ⟨rfl, hresource, hlink⟩
    · simp [hresource]
    · simp [hresource, hlink]

/-! ## Values -/

/-- An ordering is read exactly if it is not too long and each of its tokens is read. -/
theorem read_eq_ok_iff :
    read fields value = .ok entries ↔
      (Text.split ',' value).length ≤ maxEntries ∧
        List.Forall₂ (fun token entry => readToken fields token = .ok entry)
          ((Text.split ',' value).map Text.trim) entries := by
  rw [read, List.length_map]
  split
  next hmany => simp [Nat.not_le_of_lt hmany]
  next hfew => rw [mapM_eq_ok_iff, and_iff_right (Nat.le_of_not_lt hfew)]

theorem length_le_of_read (hread : read fields value = .ok entries) :
    entries.length ≤ maxEntries := by
  obtain ⟨hfew, htokens⟩ := read_eq_ok_iff.1 hread
  rwa [← htokens.length_eq, List.length_map]

/-- The entries of an ordering that is read are by fields that a caller may order by. -/
theorem allows_of_read (hread : read fields value = .ok entries) (hentry : entry ∈ entries) :
    fields.Allows entry.field := by
  obtain ⟨token, -, htoken⟩ := exists_of_mem_right (read_eq_ok_iff.1 hread).2 hentry
  obtain ⟨-, -, -, -, -, hallows⟩ := readToken_eq_ok_iff.1 htoken
  exact hallows

/-- Whoever orders does so by fields that are offered. -/
theorem mem_fields_of_read (hread : read fields value = .ok entries) (hentry : entry ∈ entries) :
    (entry.field.scope = .resource ∧ entry.field.name ∈ fields.resource) ∨
      (entry.field.scope = .link ∧ entry.field.name ∈ fields.link) :=
  (allows_of_read hread hentry).imp_right fun ⟨hscope, _, hlink⟩ => ⟨hscope, hlink⟩

/-- An ordering of one entry has one token, which is the whole value. -/
theorem read_eq_ok_singleton_iff :
    read fields value = .ok [entry] ↔
      ',' ∉ value.toList ∧ readToken fields (Text.trim value) = .ok entry := by
  rw [read_eq_ok_iff]
  constructor
  · rintro ⟨-, htokens⟩
    obtain ⟨part, rest, hpart, hrest, heq⟩ := List.forall₂_cons_right_iff.1 htokens
    obtain rfl := List.forall₂_nil_right_iff.1 hrest
    obtain ⟨whole, hwhole, rfl⟩ := List.map_eq_singleton_iff.1 heq
    have hvalue := Text.join_split ',' value
    rw [hwhole, Text.join_singleton] at hvalue
    subst hvalue
    exact ⟨Text.not_mem_of_mem_split (hwhole ▸ List.mem_cons_self), hpart⟩
  · rintro ⟨hcomma, hread⟩
    rw [Text.split_of_notMem hcomma, List.map_singleton]
    exact ⟨Nat.le_succ 1, .cons hread .nil⟩

/-! ## Words -/

theorem tokenWords_append (left right : String) :
    tokenWords (left ++ " " ++ right) = tokenWords left ++ tokenWords right := by
  have hparts : Text.split ' ' (left ++ " " ++ right) =
      Text.split ' ' left ++ Text.split ' ' right := Text.split_append left right
  rw [tokenWords, hparts, List.filter_append]
  rfl

/-- A word without a space is the only one of its token. -/
theorem tokenWords_of_notMem {word : String} (hspace : ' ' ∉ word.toList) (hne : word ≠ "") :
    tokenWords word = [word] := by
  rw [tokenWords, Text.split_of_notMem hspace]
  simp [hne]

theorem space_notMem_of_mem_tokenWords {word : String} (hmem : word ∈ tokenWords token) :
    ' ' ∉ word.toList :=
  Text.not_mem_of_mem_split (List.mem_filter.1 hmem).1

def spaces (count : Nat) : String := String.ofList (List.replicate count ' ')

theorem tokenWords_spaces (count : Nat) (right : String) :
    tokenWords (spaces count ++ right) = tokenWords right := by
  induction count with
  | zero => simp [spaces]
  | succ count ih =>
      have hsucc : spaces (count + 1) ++ right = "" ++ " " ++ (spaces count ++ right) := by
        simp [spaces, List.replicate_succ, ← String.toList_inj]
      have hnone : tokenWords "" = [] := by decide
      rw [hsucc, tokenWords_append, hnone, List.nil_append, ih]

/-! ## A field and a direction -/

/-- A word behind a field stays where it is when the blanks around the two go, and the blanks
between them go too if the field is blank. -/
theorem trimChars_field {before cs gap word after : List Char}
    (hbefore : ∀ c ∈ before, Text.isBlank c = true) (hgap : ∀ c ∈ gap, Text.isBlank c = true)
    (hafter : ∀ c ∈ after, Text.isBlank c = true) (hsome : word ≠ [])
    (hword : ∀ c ∈ word, Text.isBlank c = false) :
    Text.trimChars (before ++ (cs ++ (gap ++ (word ++ after)))) =
      if Text.trimStart cs = [] then word else Text.trimStart cs ++ (gap ++ word) := by
  have hlast (front : List Char) : Text.trimEnd (front ++ (word ++ after)) = front ++ word := by
    rw [← List.append_assoc, Text.trimEnd_append hafter]
    apply Text.trimEnd_eq_self
    intro c hc
    rw [List.getLast?_append_of_ne_nil _ hsome] at hc
    exact hword c (List.mem_of_getLast? hc)
  rw [Text.trimChars, Text.trimStart_append hbefore, Text.trimStart, List.dropWhile_append,
    ← Text.trimStart]
  split
  next hblank =>
    have hhead : Text.trimStart (gap ++ (word ++ after)) = word ++ after := by
      rw [Text.trimStart_append hgap]
      apply Text.dropWhile_eq_self
      intro c hc
      rw [List.head?_append_of_ne_nil _ hsome] at hc
      exact hword c (List.mem_of_mem_head? hc)
    rw [if_pos (List.isEmpty_iff.1 hblank), ← Text.trimStart, hhead]
    exact hlast []
  next hblank =>
    rw [if_neg (by simpa using hblank), ← List.append_assoc, hlast, List.append_assoc]

/-- The words of a field and a direction, if the field has no space. -/
theorem tokenWords_written (before gap after : Nat) {word : String} (hspace : ' ' ∉ field.toList)
    (hsome : word ≠ "") (hword : ∀ c ∈ word.toList, Text.isBlank c = false) :
    tokenWords (Text.trim (spaces before ++ field ++ spaces (gap + 1) ++ word ++ spaces after)) =
      if Text.trimStart field.toList = [] then [word]
      else [String.ofList (Text.trimStart field.toList), word] := by
  have hblank (count : Nat) : ∀ c ∈ List.replicate count ' ', Text.isBlank c = true := by
    intro c hmem
    obtain rfl := List.eq_of_mem_replicate hmem
    decide
  have hsingle : tokenWords word = [word] := by
    refine tokenWords_of_notMem (fun hmem => ?_) hsome
    exact absurd (hword ' ' hmem) (by decide)
  have hchars : (spaces before ++ field ++ spaces (gap + 1) ++ word ++ spaces after).toList =
      List.replicate before ' ' ++ (field.toList ++ (List.replicate (gap + 1) ' ' ++
        (word.toList ++ List.replicate after ' '))) := by simp [spaces]
  rw [Text.trim, hchars, trimChars_field (hblank before) (hblank (gap + 1)) (hblank after)
    (by simpa using hsome) hword]
  split
  next => rw [String.ofList_toList, hsingle]
  next hfield =>
    have hfree : ' ' ∉ (String.ofList (Text.trimStart field.toList)).toList := by
      rw [String.toList_ofList]
      exact fun hmem => hspace ((List.dropWhile_suffix _).subset hmem)
    have hparts : String.ofList (Text.trimStart field.toList ++
          (List.replicate (gap + 1) ' ' ++ word.toList)) =
        String.ofList (Text.trimStart field.toList) ++ " " ++ (spaces gap ++ word) := by
      simp [spaces, List.replicate_succ, ← String.toList_inj]
    rw [hparts, tokenWords_append, tokenWords_spaces, hsingle,
      tokenWords_of_notMem hfree (by simpa using hfield)]
    rfl

theorem tokenWords_asc (hspace : ' ' ∉ field.toList) :
    tokenWords (Text.trim (field ++ " asc")) =
      if Text.trimStart field.toList = [] then ["asc"]
      else [String.ofList (Text.trimStart field.toList), "asc"] := by
  have hasc : field ++ " asc" = spaces 0 ++ field ++ spaces (0 + 1) ++ "asc" ++ spaces 0 := by
    simp [spaces, ← String.toList_inj]
  rw [hasc, tokenWords_written 0 0 0 hspace (by decide) (Text.not_isBlank_of_any (by decide))]

/-- A field by which callers may order is one to ask for if its name is its own normal form and
no separator cuts it. -/
theorem read_asc_iff (hmem : field ∈ fields.resource) :
    read fields (Text.trim (field ++ " asc")) = .ok [⟨⟨.resource, field⟩, .ascending⟩] ↔
      Key.normalSegment field = field ∧ field ≠ "" ∧ ',' ∉ field.toList ∧
        ' ' ∉ field.toList := by
  have hcommas : ',' ∈ (Text.trim (field ++ " asc")).toList ↔ ',' ∈ field.toList := by
    rw [Text.toList_trim, Text.mem_trimChars_iff (by decide)]
    simp
  rw [read_eq_ok_singleton_iff, Text.trim_trim, hcommas, readToken_eq_ok_iff]
  dsimp only
  constructor
  · rintro ⟨hcomma, name, word, hwords, -, hnormal, -⟩
    have hspace : ' ' ∉ field.toList := by
      have hword : name ∈ tokenWords (Text.trim (field ++ " asc")) := by
        rw [hwords]
        exact List.mem_cons_self
      rw [hnormal]
      exact fun hmem => space_notMem_of_mem_tokenWords hword
        (Key.mem_of_mem_normalSegment (by decide) hmem)
    rw [tokenWords_asc hspace] at hwords
    split at hwords
    next => cases hwords
    next hsome =>
      obtain ⟨rfl, -⟩ := by simpa using hwords
      rw [Key.normalSegment_trimStart] at hnormal
      refine ⟨hnormal.symm, ?_, hcomma, hspace⟩
      rintro rfl
      exact hsome rfl
  · rintro ⟨hnormal, hne, hcomma, hspace⟩
    have hsome : Text.trimStart field.toList ≠ [] := fun hblank =>
      hne (hnormal ▸ Key.normalSegment_of_blank (by rw [← Text.trim_trimStart, hblank]; rfl))
    refine ⟨hcomma, String.ofList (Text.trimStart field.toList), "asc", ?_, by decide, ?_,
      .inl ⟨rfl, hmem⟩⟩
    · rw [tokenWords_asc hspace, if_neg hsome]
    · rw [Key.normalSegment_trimStart, hnormal]

end RestQuery.Order
