import RestQuery.Proofs.Filter.Clauses
import RestQuery.Proofs.Filter.Elements
import RestQuery.Proofs.Json.Parsing

/-!
# Sets are read back

A set of values is written as JSON with commas between its members, with or without the brackets of
an array, and is read as just these members in their order.  A text that is no array, once it is in
brackets, is one problem, and an array with a member that is no value of the field is another.

Main statement: `Filter.compileText_sets`.
-/

namespace RestQuery

/-- A text is trimmed if it starts and ends with trimmed texts. -/
theorem Text.trimChars_eq_self_of_ends {first last : List Char} (middle : List Char)
    (hfirst : trimChars first = first) (hlast : trimChars last = last) (hsome : first ≠ [])
    (hother : last ≠ []) : trimChars (first ++ (middle ++ last)) = first ++ (middle ++ last) := by
  rw [trimChars_eq_self_iff] at hfirst hlast ⊢
  constructor
  · rw [List.head?_append_of_ne_nil _ hsome]
    exact hfirst.1
  · rw [List.getLast?_append_of_ne_nil _ (by simp [hother]),
      List.getLast?_append_of_ne_nil _ hother]
    exact hlast.2

/-! ## Texts of arrays -/

namespace Json

/-- Strings, and integers of 64 bits. -/
inductive Scalar : Json → Prop
  | string (s : String) : Scalar (.string s)
  | integer {n : Int} (hfits : Number.Fits n) : Scalar (.int n)

variable {item : Json} {items : List Json} {tokens : List Token} {cs : List Char}

theorem Scalar.plain (hscalar : item.Scalar) : item.Plain := by
  cases hscalar with
  | string s => exact List.forall_mem_singleton.2 rfl
  | integer hfits => exact List.forall_mem_singleton.2 ⟨_, hfits, rfl⟩

theorem ofRaws?_scalars (readText : String → Option Json) (depth : Nat)
    (hitems : ∀ item ∈ items, item.Scalar) :
    ofRaws? readText depth (toRaws items) = some items := by
  induction items with
  | nil => rfl
  | cons item rest ih =>
      obtain ⟨hitem, hrest⟩ := List.forall_mem_cons.1 hitems
      have hread : ofRaw? readText depth item.toRaw = some item := by cases hitem <;> rfl
      simp [toRaws, ofRaws?, hread, ih hrest]

/-- A list of texts and numbers is read back, with any blanks between its tokens. -/
theorem read?_scalars (hitems : ∀ item ∈ items, item.Scalar)
    (hspelled : Spelled (array items).tokens cs) :
    read? (String.ofList cs) = some (.array items) := by
  have hplain : (array items).Plain := plain_array fun item hmem => (hitems item hmem).plain
  rw [read?, readWithin, hplain.read?_spelled hspelled, Option.bind_some, toRaw, maxNesting, ofRaw?,
    ofRaws?_scalars _ _ hitems, Option.map_some]

/-! ## Blanks -/

theorem isBlank_of_isSpace {c : Char} (hspace : Lexer.isSpace c = true) :
    Text.isBlank c = true := by
  apply Text.isBlank_of_isWhitespace
  simpa [Lexer.isSpace, Char.isWhitespace, or_assoc, or_comm, or_left_comm] using hspace

/-- A token whose text has no blank at its ends. -/
def Token.Solid (token : Token) : Prop :=
  token.chars ≠ [] ∧ Text.trimChars token.chars = token.chars

/-- Blanks around tokens are removed without the tokens being touched. -/
theorem Spelled.exists_core {token : Token} {rest : List Token}
    (hspelled : Spelled (token :: rest) cs) (hsolid : ∀ other ∈ token :: rest, other.Solid) :
    ∃ left core right, cs = left ++ (core ++ right) ∧ (∀ c ∈ left, Lexer.isSpace c = true) ∧
      (∀ c ∈ right, Lexer.isSpace c = true) ∧ Text.trimChars core = core ∧
      core.head? = token.chars.head? ∧ Spelled (token :: rest) core := by
  induction rest generalizing token cs with
  | nil =>
      cases hspelled with
      | token hblanks hrest =>
          cases hrest with
          | done hright =>
              exact ⟨_, token.chars, _, rfl, hblanks, hright,
                (hsolid token List.mem_cons_self).2, rfl, spelled_singleton token⟩
  | cons next others ih =>
      cases hspelled with
      | token hblanks hrest =>
          -- The core for the other tokens begins with a token, so the blanks on its left stay.
          obtain ⟨hsome, htrim⟩ := hsolid token List.mem_cons_self
          obtain ⟨left, core, right, rfl, hleft, hright, hcore, hhead, hothers⟩ :=
            ih hrest fun other hmem => hsolid other (List.mem_cons_of_mem token hmem)
          have hne : core ≠ [] := by
            rintro rfl
            exact (hsolid next (by simp)).1 (List.head?_eq_none_iff.1 hhead.symm)
          refine ⟨_, token.chars ++ (left ++ core), right, by simp, hblanks, hright, ?_, ?_, ?_⟩
          · exact Text.trimChars_eq_self_of_ends left htrim hcore hsome hne
          · exact List.head?_append_of_ne_nil _ hsome
          · exact (spelled_singleton token).append (hothers.blanks_append hleft)

/-- Tokens with blanks around them are the tokens of the trimmed text. -/
theorem Spelled.trimChars {token : Token} {rest : List Token} {before after : List Char}
    (hspelled : Spelled (token :: rest) cs) (hsolid : ∀ other ∈ token :: rest, other.Solid)
    (hbefore : ∀ c ∈ before, Text.isBlank c = true)
    (hafter : ∀ c ∈ after, Text.isBlank c = true) :
    Spelled (token :: rest) (Text.trimChars (before ++ (cs ++ after))) ∧
      (Text.trimChars (before ++ (cs ++ after))).head? = token.chars.head? := by
  obtain ⟨left, core, right, rfl, hleft, hright, hcore, hhead, hspelled⟩ :=
    hspelled.exists_core hsolid
  have hleft : ∀ c ∈ before ++ left, Text.isBlank c = true :=
    List.forall_mem_append.2 ⟨hbefore, fun c hmem => isBlank_of_isSpace (hleft c hmem)⟩
  have hright : ∀ c ∈ right ++ after, Text.isBlank c = true :=
    List.forall_mem_append.2 ⟨fun c hmem => isBlank_of_isSpace (hright c hmem), hafter⟩
  have htrim : Text.trimChars (before ++ (left ++ (core ++ right) ++ after)) = core := by
    simpa only [List.append_assoc] using Text.trimChars_append hleft hright hcore
  rw [htrim]
  exact ⟨hspelled, hhead⟩

/-! ## Tokens of arrays -/

theorem solid_comma : Token.comma.Solid := ⟨by decide, by decide⟩

theorem Scalar.solid (hscalar : item.Scalar) :
    ∃ token, item.tokens = [token] ∧ token.Solid ∧ token.chars.head? ≠ some '[' := by
  cases hscalar with
  | string s =>
      refine ⟨_, rfl, ⟨by simp [Token.chars], ?_⟩, by simp [Token.chars]⟩
      simp only [Token.chars]
      rw [List.append_assoc]
      exact Text.trimChars_eq_self_of_ends _ (by decide) (by decide) (by simp) (by simp)
  | @integer n _ =>
      obtain ⟨digits, hsome, hdigits, htext⟩ := Number.text_integer n
      have hblank : ∀ c ∈ (Number.integer n).text, Text.isBlank c = false := by
        have hdenotes := Filter.denotesInteger_text n
        simpa using (Filter.not_blank_of_denotesInteger hdenotes).2
      have hbracket : '[' ∉ digits := fun hmem => absurd (hdigits '[' hmem) (by decide)
      refine ⟨_, rfl, ⟨?_, Text.trimChars_eq_self hblank⟩, fun hhead => ?_⟩
      · rcases htext with htext | htext <;> simp [Token.chars, htext, hsome]
      · have hmem : '[' ∈ (Number.integer n).text := List.mem_of_mem_head? hhead
        rcases htext with htext | htext <;> simp [htext, hbracket] at hmem

theorem solid_itemTokens (hitems : ∀ item ∈ items, item.Scalar) :
    ∀ token ∈ itemTokens items, token.Solid := by
  rw [itemTokens_eq]
  intro token hmem
  rcases mem_of_mem_intercalate hmem with rfl | ⟨part, hpart, htoken⟩
  · exact solid_comma
  · obtain ⟨item, hitem, rfl⟩ := List.mem_map.1 hpart
    obtain ⟨only, honly, hsolid, -⟩ := (hitems item hitem).solid
    rw [honly, List.mem_singleton] at htoken
    exact htoken ▸ hsolid

/-- The first token of items is no bracket, so that brackets are put around them. -/
theorem exists_itemTokens_eq_cons {item : Json} (hscalar : item.Scalar) (rest : List Json) :
    ∃ token others, itemTokens (item :: rest) = token :: others ∧ token.chars.head? ≠ some '[' := by
  obtain ⟨token, htokens, -, hhead⟩ := hscalar.solid
  cases rest with
  | nil => exact ⟨token, [], by rw [itemTokens, htokens], hhead⟩
  | cons next others =>
      exact ⟨token, .comma :: itemTokens (next :: others), by simp [itemTokens, htokens], hhead⟩

end Json

namespace Filter

/-! ## Payloads -/

/-- Texts that list items: their JSON texts with commas between them, perhaps in brackets, with
blanks around and between them. -/
inductive Lists (items : List Json) : String → Prop
  | bare {before cs after : List Char} (hbefore : ∀ c ∈ before, Text.isBlank c = true)
      (hspelled : Json.Spelled (Json.itemTokens items) cs)
      (hafter : ∀ c ∈ after, Text.isBlank c = true) :
      Lists items (String.ofList (before ++ (cs ++ after)))
  | bracketed {before cs after : List Char} (hbefore : ∀ c ∈ before, Text.isBlank c = true)
      (hspelled : Json.Spelled (Json.array items).tokens cs)
      (hafter : ∀ c ∈ after, Text.isBlank c = true) :
      Lists items (String.ofList (before ++ (cs ++ after)))

/-- A payload without the blanks around it, in brackets unless it starts with one. -/
def bracketed (payload : String) : String :=
  let bare := Text.trim payload
  if bare.toList.head? = some '[' then bare else "[" ++ bare ++ "]"

variable {items : List Json} {payload : String}

/-- A payload stands for an array exactly if it is the text of one when it is put in brackets. -/
theorem array?_eq_some_iff :
    Membership.array? payload = some items ↔
      Json.read? (bracketed payload) = some (.array items) := by
  unfold Membership.array? bracketed
  dsimp only
  split
  next found hfound => rw [hfound, Option.some_inj, Option.some_inj, Json.array.injEq]
  next hother => exact ⟨nofun, fun hread => absurd hread (hother items)⟩

theorem bracketed_ofList (cs : List Char) :
    bracketed (String.ofList cs) =
      if (Text.trimChars cs).head? = some '[' then String.ofList (Text.trimChars cs)
      else String.ofList (['['] ++ Text.trimChars cs ++ [']']) := by
  simp [bracketed, Text.trim, ← String.toList_inj, apply_ite String.toList]

/-- A payload that lists texts and numbers stands for these, in every way of writing it. -/
theorem Lists.array?_eq (hlists : Lists items payload) (hsome : items ≠ [])
    (hitems : ∀ item ∈ items, item.Scalar) : Membership.array? payload = some items := by
  obtain ⟨first, rest, rfl⟩ := List.exists_cons_of_ne_nil hsome
  have hsolid := Json.solid_itemTokens hitems
  rw [array?_eq_some_iff]
  cases hlists with
  | bare hbefore hspelled hafter =>
      obtain ⟨token, others, htokens, hbracket⟩ :=
        Json.exists_itemTokens_eq_cons (hitems first List.mem_cons_self) rest
      rw [htokens] at hspelled hsolid
      obtain ⟨htrimmed, hhead⟩ := hspelled.trimChars hsolid hbefore hafter
      rw [← htokens] at htrimmed
      rw [bracketed_ofList, hhead, if_neg hbracket]
      apply Json.read?_scalars hitems
      exact ((Json.spelled_singleton .openArray).append htrimmed).append
        (Json.spelled_singleton .closeArray)
  | bracketed hbefore hspelled hafter =>
      have hall : ∀ token ∈ (Json.array (first :: rest)).tokens, token.Solid := by
        rw [Json.tokens, List.forall_mem_append, List.forall_mem_append]
        exact ⟨⟨List.forall_mem_singleton.2 ⟨by decide, by decide⟩, hsolid⟩,
          List.forall_mem_singleton.2 ⟨by decide, by decide⟩⟩
      obtain ⟨htrimmed, hhead⟩ := hspelled.trimChars hall hbefore hafter
      have hbracket : Json.Token.openArray.chars.head? = some '[' := rfl
      rw [bracketed_ofList, hhead, if_pos hbracket]
      exact Json.read?_scalars hitems htrimmed

/-! ## Members -/

/-- The operand that a member of a set stands for in a filter on a field of a type. -/
inductive Means (type : FieldType) : Json → Operand → Prop
  | string {s : String} {operand : Operand} (hsome : Text.trim s ≠ "")
      (hnames : Names type (Text.trim s) operand) : Means type (.string s) operand
  | number {n : Json.Number} {operand : Operand}
      (hnames : Names type (String.ofList n.text) operand) : Means type (.number n) operand

variable {type : FieldType} {field : FieldRef} {rule : FilterRule} {item : Json}
  {operand : Operand}

/-- The operand of a member is the element that its text names. -/
theorem means_iff :
    Means type item operand ↔
      ∃ text, Membership.memberText? item = some text ∧ element? type text = some operand := by
  simp only [element?_eq_some_iff]
  constructor
  · rintro (⟨hsome, hnames⟩ | hnames)
    · exact ⟨_, if_neg hsome, hnames⟩
    · exact ⟨_, rfl, hnames⟩
  · rintro ⟨text, htext, hnames⟩
    cases item with
    | string s =>
        obtain ⟨hsome, htext⟩ := Option.ite_none_left_eq_some.1 htext
        obtain rfl := Option.some.inj htext
        exact .string hsome hnames
    | number n =>
        obtain rfl := Option.some.inj htext
        exact .number hnames
    | _ => cases htext

/-- How an operand is written as a member of a set: texts without blanks at their ends as strings,
integers as numbers or in strings, and random identifiers in strings, in letters of either case. -/
inductive Writes : FieldType → Operand → Json → Prop
  | text {s : String} (hsome : s ≠ "") (htrim : Text.trim s = s) :
      Writes .string (.text s) (.string s)
  | integer (n : Int64) : Writes .number (.integer n) (.int n.toInt)
  | numeral (n : Int64) : Writes .number (.integer n) (.string (Json.int n.toInt).text)
  | uuid {s : String} {id : Uuid} (hform : s.toList.map Char.toLower = id.text.toList)
      (hrandom : id.isRandom = true) : Writes .uuid (.uuid id) (.string s)

theorem Writes.scalar (hwrites : Writes type operand item) : item.Scalar := by
  cases hwrites with
  | integer n =>
      have hhigh := n.toInt_lt
      have hsize : UInt64.size = 18446744073709551616 := rfl
      exact .integer ⟨n.minValue_le_toInt, by omega⟩
  | _ => exact .string _

/-- A string without blanks that names an operand stands for it. -/
theorem means_string {s : String} (hnames : Names type s operand)
    (hblank : s ≠ "" ∧ ∀ c ∈ s.toList, Text.isBlank c = false) :
    Means type (.string s) operand := by
  have htrim : Text.trim s = s := by
    rw [Text.trim, Text.trimChars_eq_self hblank.2, String.ofList_toList]
  exact .string (htrim.symm ▸ hblank.1) (htrim.symm ▸ hnames)

/-- An operand as it is written means this operand. -/
theorem Writes.means (hwrites : Writes type operand item) : Means type item operand := by
  cases hwrites with
  | text hsome htrim => exact .string (htrim.symm ▸ hsome) (htrim.symm ▸ .text _)
  | integer n => exact .number (.integer (denotesInteger_text _))
  | numeral n =>
      have htext : (Json.int n.toInt).text = String.ofList (Json.Number.integer n.toInt).text := by
        simp [Json.text, Json.int, Json.tokens, Json.Token.chars]
      rw [htext]
      have hdenotes := denotesInteger_text n.toInt
      exact means_string (.integer hdenotes) (not_blank_of_denotesInteger hdenotes)
  | uuid hform hrandom =>
      exact means_string (.uuid hform hrandom) (Uuid.not_blank_of_form hform)

/-! ## Whole values -/

namespace Membership

def text (membership : Membership) : String :=
  (if membership.excluded then "$nin:" else "$in:") ++ membership.payload

def operator (membership : Membership) : Operator :=
  if membership.excluded then .notIn else .isIn

def check (membership : Membership) : Check :=
  if membership.excluded then .notInSet else .inSet

/-- A filter on membership is read back from its text. -/
theorem ofValue?_text (membership : Membership) : ofValue? membership.text = some membership := by
  obtain ⟨excluded, payload⟩ := membership
  cases excluded with
  | false =>
      have hin : Text.rest? "$in:" ("$in:" ++ payload) = some payload :=
        Text.rest?_eq_some_iff.2 rfl
      simp [ofValue?, text, hin]
  | true =>
      have hnotIn : Text.rest? "$nin:" ("$nin:" ++ payload) = some payload :=
        Text.rest?_eq_some_iff.2 rfl
      have hin : Text.rest? "$in:" ("$nin:" ++ payload) = none := by
        simp [Text.rest?]
      simp [ofValue?, text, hin, hnotIn]

theorem exists_toList_text (membership : Membership) :
    ∃ rest, membership.text.toList = '$' :: rest := by
  obtain ⟨excluded, payload⟩ := membership
  cases excluded with
  | false => exact ⟨"in:".toList ++ payload.toList, by simp [text]⟩
  | true => exact ⟨"nin:".toList ++ payload.toList, by simp [text]⟩

/-- The text of a filter on membership asks neither for presence nor for absence. -/
theorem presence?_text (membership : Membership) : presence? field membership.text = none := by
  obtain ⟨rest, htext⟩ := membership.exists_toList_text
  have hempty : membership.text ≠ "" := by
    intro heq
    rw [heq] at htext
    cases htext
  have hmark : membership.text ≠ "!" := by
    intro heq
    rw [heq] at htext
    cases htext
  rw [presence?, if_neg hempty, if_neg hmark]

theorem read_text (membership : Membership) (htype : type ∈ [.string, .number, .uuid]) :
    read type field membership.text = .ok (membership.intent field (element? type)) := by
  have hpresence : presence? field membership.text = none := membership.presence?_text
  have hvalue := membership.ofValue?_text
  simp only [List.mem_cons, List.not_mem_nil, or_false] at htype
  rcases htype with rfl | rfl | rfl
  · simp only [read, readText, hpresence, hvalue]
    rfl
  · simp only [read, readNumber, hpresence, hvalue]
    rfl
  · simp only [read, readUuid, hpresence, hvalue]
    rfl

/-- An allowed filter on membership becomes one clause with the operands of its members. -/
theorem compileText_text (membership : Membership) (htype : type ∈ [.string, .number, .uuid])
    (hallows : rule.allows membership.operator = true) :
    compileText type field rule membership.text =
      (operands membership.payload (element? type)).map fun members =>
        [.onField membership.check field members] := by
  have hpermit : (membership.intent field (element? type)).permit rule =
      (membership.intent field (element? type)).clauses := by
    rw [Intent.permit]
    exact if_pos hallows
  have hcompile : compileText type field rule membership.text =
      (membership.intent field (element? type)).permit rule := by
    rw [compileText, membership.read_text htype]
    rfl
  rw [hcompile, hpermit]
  simp only [intent, check]

end Membership

/-- A set in order is read as its members.  One that is no array in brackets, and one with a member
that is no value of the field or without members, have one problem each. -/
theorem compileText_sets (htype : type ∈ [.string, .number, .uuid]) (field : FieldRef)
    (membership : Membership) (hallows : rule.allows membership.operator = true) :
    (∀ {operands items}, operands ≠ [] → List.Forall₂ (Writes type) operands items →
      Lists items membership.payload →
      compileText type field rule membership.text =
        .ok [.onField membership.check field operands]) ∧
    ((∀ items, Json.read? (bracketed membership.payload) ≠ some (.array items)) →
      compileText type field rule membership.text =
        .error (.unparsableList membership.payload)) ∧
    ∀ {items}, Json.read? (bracketed membership.payload) = some (.array items) →
      (items = [] ∨ ∃ item ∈ items, ∀ operand, ¬Means type item operand) →
      compileText type field rule membership.text = .error .invalidListValues := by
  rw [membership.compileText_text htype hallows]
  refine ⟨fun {operands items} hsome hwrites hlists => ?_, fun hunread => ?_,
    fun {items} hread hbad => ?_⟩
  · have hscalars : ∀ item ∈ items, item.Scalar := fun item hmem => by
      obtain ⟨operand, -, hoperand⟩ := exists_of_mem_right hwrites hmem
      exact hoperand.scalar
    have hitems : items ≠ [] := by
      rintro rfl
      exact hsome (List.forall₂_nil_right_iff.1 hwrites)
    have hmembers : Membership.operands membership.payload (element? type) = .ok operands :=
      Membership.operands_eq_ok_iff.2 ⟨items, hlists.array?_eq hitems hscalars, hitems,
        hwrites.flip.imp fun item operand hoperand => means_iff.1 hoperand.means⟩
    rw [hmembers]
    rfl
  · have hnone : Membership.array? membership.payload = none :=
      Option.eq_none_iff_forall_ne_some.2 fun items harray =>
        hunread items (array?_eq_some_iff.1 harray)
    rw [Membership.operands_of_array?_eq_none _ hnone]
    rfl
  · have harray := array?_eq_some_iff.2 hread
    cases hmembers : Membership.operands membership.payload (element? type) with
    | error problem =>
        rw [Membership.operands_eq_error harray hmembers]
        rfl
    | ok members =>
        obtain ⟨found, hfound, hne, hrel⟩ := Membership.operands_eq_ok_iff.1 hmembers
        obtain rfl := Option.some.inj (harray.symm.trans hfound)
        rcases hbad with hnil | ⟨item, hitem, hnone⟩
        · exact absurd hnil hne
        · obtain ⟨member, -, hmember⟩ := exists_of_mem_left hrel hitem
          exact absurd (means_iff.2 hmember) (hnone member)

/-- Members as a number and in a string; a text that is no array; and a member that is no value. -/
theorem compileText_sets_beds :
    compileText .number ⟨.resource, "beds"⟩ {} "$in: 4,\"-8\"" =
      .ok [.onField .inSet ⟨.resource, "beds"⟩ [.integer 4, .integer (-8)]] ∧
    compileText .number ⟨.resource, "beds"⟩ {} "$nin:4,x" = .error (.unparsableList "4,x") ∧
    compileText .number ⟨.resource, "beds"⟩ {} "$in:4,true" = .error .invalidListValues := by
  have hblank : ∀ c ∈ [' '], Text.isBlank c = true := List.forall_mem_singleton.2 (by decide)
  have hlists : Lists [.int (4 : Int64).toInt, .string (Json.int (-8 : Int64).toInt).text]
      " 4,\"-8\"" := @Lists.bare _ [' '] _ [] hblank (Json.spelled_chars _) nofun
  have hunread : Json.read? (bracketed "4,x") = none := rfl
  have hread : Json.read? (bracketed "4,true") = some (.array [.int 4, .bool true]) := rfl
  have hbad : ∀ operand, ¬Means .number (.bool true) operand := by
    intro operand hmeans
    cases hmeans
  refine ⟨?_, ?_, ?_⟩
  · exact (compileText_sets (by simp) _ ⟨false, " 4,\"-8\""⟩ rfl).1 (by simp)
      (.cons (.integer 4) (.cons (.numeral (-8)) .nil)) hlists
  · exact (compileText_sets (by simp) _ ⟨true, "4,x"⟩ rfl).2.1 (by simp [hunread])
  · exact (compileText_sets (by simp) _ ⟨false, "4,true"⟩ rfl).2.2 hread
      (.inr ⟨.bool true, by simp, hbad⟩)

end Filter

end RestQuery
