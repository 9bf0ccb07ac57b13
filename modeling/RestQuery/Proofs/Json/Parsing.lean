import RestQuery.Json.Value
import RestQuery.Proofs.Json.Lexing
import RestQuery.Proofs.Outcome

/-!
# Values are read back

The tokens of a value are parsed as the document of the value.  Of two tokens side by side at least
one is no word, so the text of a value is read as its tokens.

Main statements: `Json.Plain.read?_spelled` for a text with blanks between its tokens, and
`Json.Plain.read?_text` for the text that is written.
-/

namespace RestQuery.Json

/-! ## Values and their parts -/

/-- What holds of every value if it holds of arrays and objects whose parts it holds of. -/
theorem ind {motive : Json → Prop} (null : motive .null) (bool : ∀ b, motive (.bool b))
    (number : ∀ n, motive (.number n)) (string : ∀ s, motive (.string s))
    (array : ∀ items, (∀ item ∈ items, motive item) → motive (.array items))
    (object : ∀ members, (∀ member ∈ members, motive member.2) → motive (.object members)) :
    ∀ value, motive value
  | .null => null
  | .bool b => bool b
  | .number n => number n
  | .string s => string s
  | .array items => array items fun item _ => ind null bool number string array object item
  | .object members =>
    object members fun member _ => ind null bool number string array object member.2
termination_by value => sizeOf value
decreasing_by
  · have hless := List.sizeOf_lt_of_mem ‹item ∈ items›
    simp only [Json.array.sizeOf_spec]
    omega
  · have hless := List.sizeOf_lt_of_mem ‹member ∈ members›
    cases member
    simp only [Json.object.sizeOf_spec, Prod.mk.sizeOf_spec] at hless ⊢
    omega

theorem toRaws_eq (items : List Json) : toRaws items = items.map toRaw := by
  induction items with
  | nil => rfl
  | cons item rest ih => rw [toRaws, ih, List.map_cons]

theorem toRawMembers_eq (members : List (String × Json)) :
    toRawMembers members = members.map fun member => (some member.1, member.2.toRaw) := by
  induction members with
  | nil => rfl
  | cons member rest ih => rw [toRawMembers, ih, List.map_cons]

/-! ## Texts of values -/

/-- A value whose numbers are integers of 64 bits. -/
def Plain (value : Json) : Prop := ∀ token ∈ value.tokens, token.Written

theorem itemTokens_eq (items : List Json) :
    itemTokens items = [Token.comma].intercalate (items.map tokens) := by
  induction items with
  | nil => rfl
  | cons item rest ih =>
      cases rest with
      | nil => simp [itemTokens]
      | cons next others => simp [itemTokens, ih]

theorem memberTokens_eq (members : List (String × Json)) :
    memberTokens members = [Token.comma].intercalate
      (members.map fun member => [.string (some member.1), .colon] ++ member.2.tokens) := by
  induction members with
  | nil => rfl
  | cons member rest ih =>
      cases rest with
      | nil => simp [memberTokens]
      | cons next others => simp [memberTokens, ih]

theorem isChain_cons_of_not_word {rest : List Token} {token : Token}
    (hword : token.isWord = false) (hrest : rest.IsChain Token.Apart) :
    (token :: rest).IsChain Token.Apart := by
  refine List.isChain_cons.2 ⟨fun other _ htoken => ?_, hrest⟩
  rw [hword] at htoken
  cases htoken

theorem isChain_append_cons {left right : List Token} {token : Token}
    (hword : token.isWord = false) (hleft : left.IsChain Token.Apart)
    (hright : right.IsChain Token.Apart) : (left ++ token :: right).IsChain Token.Apart := by
  refine List.isChain_append.2 ⟨hleft, isChain_cons_of_not_word hword hright,
    fun last _ other hother _ => ?_⟩
  obtain rfl := Option.some.inj hother
  exact hword

theorem isChain_intercalate {separator : Token} (hword : separator.isWord = false)
    {parts : List (List Token)} (hparts : ∀ part ∈ parts, part.IsChain Token.Apart) :
    ([separator].intercalate parts).IsChain Token.Apart := by
  induction parts with
  | nil => exact .nil
  | cons part rest ih =>
      obtain ⟨hpart, hrest⟩ := List.forall_mem_cons.1 hparts
      cases rest with
      | nil => simpa using hpart
      | cons next others =>
          rw [List.intercalate_cons_cons, List.append_assoc]
          exact isChain_append_cons hword hpart (ih hrest)

/-- Tokens of values that are words stand apart. -/
theorem isChain_tokens (value : Json) : value.tokens.IsChain Token.Apart := by
  induction value using ind with
  | null => exact .singleton _
  | bool b => exact .singleton _
  | number n => exact .singleton _
  | string s => exact .singleton _
  | array items ih =>
      rw [tokens, itemTokens_eq, List.append_assoc]
      exact isChain_cons_of_not_word rfl (isChain_append_cons rfl
        (isChain_intercalate rfl (List.forall_mem_map.2 ih)) .nil)
  | object members ih =>
      have hmembers : ∀ member ∈ members,
          ([Token.string (some member.1), .colon] ++ member.2.tokens).IsChain Token.Apart :=
        fun member hmem => isChain_cons_of_not_word rfl
          (isChain_cons_of_not_word rfl (ih member hmem))
      rw [tokens, memberTokens_eq, List.append_assoc]
      exact isChain_cons_of_not_word rfl (isChain_append_cons rfl
        (isChain_intercalate rfl (List.forall_mem_map.2 hmembers)) .nil)

theorem plain_array {items : List Json} (hitems : ∀ item ∈ items, item.Plain) :
    (array items).Plain := by
  intro token hmem
  rw [tokens, itemTokens_eq, List.mem_append, List.mem_append, List.mem_singleton,
    List.mem_singleton] at hmem
  rcases hmem with (rfl | hmem) | rfl
  · trivial
  · rcases mem_of_mem_intercalate hmem with rfl | ⟨part, hpart, htoken⟩
    · trivial
    · obtain ⟨item, hitem, rfl⟩ := List.mem_map.1 hpart
      exact hitems item hitem token htoken
  · trivial

theorem plain_object {members : List (String × Json)}
    (hmembers : ∀ member ∈ members, member.2.Plain) : (object members).Plain := by
  intro token hmem
  rw [tokens, memberTokens_eq, List.mem_append, List.mem_append, List.mem_singleton,
    List.mem_singleton] at hmem
  rcases hmem with (rfl | hmem) | rfl
  · trivial
  · rcases mem_of_mem_intercalate hmem with rfl | ⟨part, hpart, htoken⟩
    · trivial
    · obtain ⟨member, hmember, rfl⟩ := List.mem_map.1 hpart
      rw [List.mem_append, List.mem_pair] at htoken
      rcases htoken with (rfl | rfl) | htoken
      · exact rfl
      · trivial
      · exact hmembers member hmember token htoken
  · trivial

/-! ## Documents of tokens -/

/-- A value that is due is complete after its tokens. -/
def Parses (value : Json) : Prop :=
  ∀ frames, value.tokens.foldlM Parser.step (.awaitValue frames) =
    some (.complete frames value.toRaw)

/-- The items of an array are read one by one, and a bracket completes it. -/
theorem foldlM_itemTokens {items : List Json} (hitems : ∀ item ∈ items, item.Parses)
    (hne : items ≠ []) (frames : List Frame) (done : List Raw) :
    (itemTokens items ++ [Token.closeArray]).foldlM Parser.step
        (.awaitValue (.items done :: frames)) =
      some (.complete frames (.array (done.reverse ++ toRaws items))) := by
  induction items generalizing done with
  | nil => exact absurd rfl hne
  | cons item rest ih =>
      obtain ⟨hitem, hrest⟩ := List.forall_mem_cons.1 hitems
      cases rest with
      | nil =>
          rw [itemTokens, List.foldlM_append, hitem]
          simp [Parser.step, toRaws]
      | cons next others =>
          have hnext := ih hrest (List.cons_ne_nil _ _) (item.toRaw :: done)
          rw [List.reverse_cons, List.append_assoc] at hnext
          have htokens : itemTokens (item :: next :: others) ++ [Token.closeArray] =
              item.tokens ++ Token.comma :: (itemTokens (next :: others) ++ [.closeArray]) := by
            simp [itemTokens]
          rw [htokens, List.foldlM_append, hitem]
          exact hnext

/-- A key and its value are read as one member. -/
theorem Parses.foldlM_member {value : Json} (hvalue : value.Parses) (key : String)
    (frames : List Frame) (done : List (Option String × Raw)) (rest : List Token) :
    (Token.string (some key) :: .colon :: (value.tokens ++ rest)).foldlM Parser.step
        (.awaitKey frames done) =
      rest.foldlM Parser.step (.complete (.members done (some key) :: frames) value.toRaw) := by
  change (value.tokens ++ rest).foldlM Parser.step
    (.awaitValue (.members done (some key) :: frames)) = _
  rw [List.foldlM_append, hvalue]
  rfl

theorem foldlM_memberTokens {members : List (String × Json)}
    (hmembers : ∀ member ∈ members, member.2.Parses) (hne : members ≠ []) (frames : List Frame)
    (done : List (Option String × Raw)) :
    (memberTokens members ++ [Token.closeObject]).foldlM Parser.step (.awaitKey frames done) =
      some (.complete frames (.object (done.reverse ++ toRawMembers members))) := by
  induction members generalizing done with
  | nil => exact absurd rfl hne
  | cons member rest ih =>
      obtain ⟨key, value⟩ := member
      obtain ⟨hvalue, hrest⟩ := List.forall_mem_cons.1 hmembers
      cases rest with
      | nil =>
          have htokens : memberTokens [(key, value)] ++ [Token.closeObject] =
              Token.string (some key) :: .colon :: (value.tokens ++ [.closeObject]) := by
            simp [memberTokens]
          rw [htokens, hvalue.foldlM_member]
          simp [Parser.step, toRawMembers]
      | cons next others =>
          have hnext := ih hrest (List.cons_ne_nil _ _) ((some key, value.toRaw) :: done)
          rw [List.reverse_cons, List.append_assoc] at hnext
          have htokens : memberTokens ((key, value) :: next :: others) ++ [Token.closeObject] =
              Token.string (some key) :: .colon :: (value.tokens ++
                Token.comma :: (memberTokens (next :: others) ++ [.closeObject])) := by
            simp [memberTokens]
          rw [htokens, hvalue.foldlM_member]
          exact hnext

/-- A value that is read as the first item of an array is read as any other one. -/
theorem foldlM_awaitFirstItem {item : Json} {items : List Json} (frames : List Frame)
    (rest : List Token) :
    (itemTokens (item :: items) ++ rest).foldlM Parser.step (.awaitFirstItem frames) =
      (itemTokens (item :: items) ++ rest).foldlM Parser.step
        (.awaitValue (.items [] :: frames)) := by
  cases items <;> cases item <;> rfl

/-- A key that is read as the first one of an object is read as any other one. -/
theorem foldlM_awaitFirstKey {member : String × Json} {members : List (String × Json)}
    (frames : List Frame) (rest : List Token) :
    (memberTokens (member :: members) ++ rest).foldlM Parser.step (.awaitFirstKey frames) =
      (memberTokens (member :: members) ++ rest).foldlM Parser.step (.awaitKey frames []) := by
  cases members <;> rfl

/-- Every value is read back from its tokens, within whatever is still open. -/
theorem parses (value : Json) : value.Parses := by
  induction value using ind with
  | null => exact fun _ => rfl
  | bool b => exact fun _ => rfl
  | number n => exact fun _ => rfl
  | string s => exact fun _ => rfl
  | array items ih =>
      intro frames
      cases items with
      | nil => rfl
      | cons item rest =>
          have hitems := foldlM_itemTokens ih (List.cons_ne_nil _ _) frames []
          rw [← foldlM_awaitFirstItem] at hitems
          exact hitems
  | object members ih =>
      intro frames
      cases members with
      | nil => rfl
      | cons member rest =>
          have hmembers := foldlM_memberTokens ih (List.cons_ne_nil _ _) frames []
          rw [← foldlM_awaitFirstKey] at hmembers
          exact hmembers

/-- A text that consists of the tokens of a value is read as the document of the value. -/
theorem Plain.read?_spelled {value : Json} {cs : List Char} (hplain : value.Plain)
    (hspelled : Spelled value.tokens cs) : Raw.read? (String.ofList cs) = some value.toRaw := by
  have htokens : tokens? cs = some value.tokens :=
    hspelled.tokens?_eq value.isChain_tokens hplain
  simp [Raw.read?, htokens, value.parses [], Parser.finish]

/-- The text of a value is read as the document of the value. -/
theorem Plain.read?_text {value : Json} (hplain : value.Plain) :
    Raw.read? value.text = some value.toRaw :=
  hplain.read?_spelled (spelled_chars value.tokens)

end RestQuery.Json
