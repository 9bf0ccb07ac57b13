import RestQuery.Proofs.Text.Letters

/-!
# Conventions for writing names

A name consists of words with underscores between them.  Clients may leave the underscores out and
start the words behind them with capitals, or write the whole name in capitals, and may put blanks
around it.  Whatever they choose, and for each segment of a path anew, the name is what they mean.

Main statement: `Key.normal_spelled`.
-/

namespace RestQuery

/-! ## Letters of names -/

namespace Text

/-- Whether a character stands in names: a small letter, a digit or an underscore, all of ASCII. -/
def isNameChar (c : Char) : Bool := c.isLower || c.isDigit || c == '_'

variable {c : Char} {cs : List Char}

theorem lt_of_isNameChar (hc : isNameChar c = true) : c.toNat < 128 := by
  rw [isNameChar, Bool.or_eq_true, Bool.or_eq_true, beq_iff_eq] at hc
  rcases hc with (hletter | hdigit) | rfl
  · have hhigh : c.toNat ≤ 122 := of_decide_eq_true (Bool.and_eq_true_iff.1 hletter).2
    omega
  · have hhigh : c.toNat ≤ 57 := of_decide_eq_true (Bool.and_eq_true_iff.1 hdigit).2
    omega
  · decide

/-- What a character of names is, and what it becomes in capitals. -/
structure NameChar (c : Char) : Prop where
  upper : c.isUpper = false
  blank : isBlank c = false
  point : c ≠ '.'
  lt_toUpper : c.toUpper.toNat < 128
  lower_toUpper : c.toUpper.isLower = false
  blank_toUpper : isBlank c.toUpper = false
  point_toUpper : c.toUpper ≠ '.'
  toLower_toUpper : c.toUpper.toLower = c

theorem nameChar (hc : isNameChar c = true) : NameChar c := by
  have hfacts := of_ascii (p := fun c => isNameChar c = true →
    (c.isUpper = false ∧ isBlank c = false ∧ c ≠ '.') ∧ (c.toUpper.toNat < 128 ∧
      c.toUpper.isLower = false ∧ isBlank c.toUpper = false ∧ c.toUpper ≠ '.' ∧
      c.toUpper.toLower = c)) (by decide +kernel) (lt_of_isNameChar hc) hc
  obtain ⟨⟨hupper, hblank, hpoint⟩, hlt, hlower, hblank', hpoint', hback⟩ := hfacts
  exact ⟨hupper, hblank, hpoint, hlt, hlower, hblank', hpoint', hback⟩

theorem isUpper_of_isNameChar (hc : isNameChar c = true) : isUpper c = false :=
  (isUpper_ascii (lt_of_isNameChar hc)).trans (nameChar hc).upper

/-- A small letter is the lower-case form of its capital. -/
theorem isUpper_toUpper (hc : c.isLower = true) :
    isUpper c.toUpper = true ∧ lowerChar c.toUpper = [c] := by
  have hname : isNameChar c = true := by simp [isNameChar, hc]
  have hcapital := of_ascii (p := fun c => c.isLower = true → c.toUpper.isUpper = true)
    (by decide +kernel) (lt_of_isNameChar hname) hc
  have hlt := (nameChar hname).lt_toUpper
  exact ⟨(isUpper_ascii hlt).trans hcapital,
    by rw [lowerChar_ascii hlt, (nameChar hname).toLower_toUpper]⟩

/-! ## The two passes -/

/-- Within ASCII, lower case does not depend on the characters around. -/
theorem lowerAfter_ascii (before : List Char) (hcs : ∀ c ∈ cs, c.toNat < 128) :
    lowerAfter before cs = cs.map Char.toLower := by
  induction cs generalizing before with
  | nil => rfl
  | cons c rest ih =>
      obtain ⟨hc, hrest⟩ := List.forall_mem_cons.1 hcs
      have hsigma : c ≠ 'Σ' := by
        rintro rfl
        revert hc
        decide
      rw [lowerAfter, if_neg hsigma, lowerChar_ascii hc, ih _ hrest]
      rfl

/-- Capitals are lowered to the name. -/
theorem lowerAfter_toUpper (hcs : ∀ c ∈ cs, isNameChar c = true) :
    lowerAfter [] (cs.map Char.toUpper) = cs := by
  have hlt : ∀ c ∈ cs.map Char.toUpper, c.toNat < 128 := by
    rw [List.forall_mem_map]
    exact fun c hmem => (nameChar (hcs c hmem)).lt_toUpper
  rw [lowerAfter_ascii [] hlt, List.map_map]
  exact (List.map_congr_left fun c hmem => (nameChar (hcs c hmem)).toLower_toUpper).trans
    (List.map_id cs)

/-- Characters that are neither capitals nor underscores leave the pass as it is. -/
theorem snakeFrom_append {word : List Char} (hword : ∀ c ∈ word, isUpper c = false ∧ c ≠ '_')
    (rest : List Char) : snakeFrom false (word ++ rest) = word ++ snakeFrom false rest := by
  induction word with
  | nil => rfl
  | cons c others ih =>
      obtain ⟨⟨hupper, hjoint⟩, hothers⟩ := List.forall_mem_cons.1 hword
      rw [List.cons_append, snakeFrom, hupper, beq_eq_false_iff_ne.2 hjoint, ih hothers]
      rfl

end Text

namespace Key

/-! ## Names -/

/-- A word: a small letter, and small letters and digits behind it. -/
structure Word where
  first : Char
  others : List Char
  first_isLower : first.isLower = true
  others_plain : ∀ c ∈ others, c.isLower = true ∨ c.isDigit = true

namespace Word

def chars (word : Word) : List Char := word.first :: word.others

def capitalized (word : Word) : List Char := word.first.toUpper :: word.others

variable (word : Word) {c : Char}

theorem plain_of_mem (hmem : c ∈ word.chars) : c.isLower = true ∨ c.isDigit = true := by
  rcases List.mem_cons.1 hmem with rfl | hmem
  · exact .inl word.first_isLower
  · exact word.others_plain c hmem

theorem isNameChar_of_mem (hmem : c ∈ word.chars) : Text.isNameChar c = true := by
  rcases word.plain_of_mem hmem with hlower | hdigit
  · simp [Text.isNameChar, hlower]
  · simp [Text.isNameChar, hdigit]

theorem ne_joint_of_mem (hmem : c ∈ word.chars) : c ≠ '_' := by
  rintro rfl
  exact absurd (word.plain_of_mem hmem) (by decide)

theorem isUpper_of_mem (hmem : c ∈ word.chars) : Text.isUpper c = false ∧ c ≠ '_' :=
  ⟨Text.isUpper_of_isNameChar (word.isNameChar_of_mem hmem), word.ne_joint_of_mem hmem⟩

end Word

/-- A name: one or more words with single underscores between them. -/
structure Name where
  head : Word
  tail : List Word

namespace Name

def text (name : Name) : String :=
  Text.join '_' ((name.head :: name.tail).map fun word => String.ofList word.chars)

def chars (name : Name) : List Char :=
  name.head.chars ++ name.tail.flatMap fun word => '_' :: word.chars

theorem toList_text (name : Name) : name.text.toList = name.chars := by
  obtain ⟨head, tail⟩ := name
  induction tail generalizing head with
  | nil => simp [text, chars]
  | cons next rest ih =>
      have hrest := ih next
      simp only [text, chars, List.map_cons] at hrest ⊢
      rw [Text.join_cons _ (by simp), String.toList_append, String.toList_append, hrest]
      simp

theorem isNameChar_of_mem (name : Name) {c : Char} (hmem : c ∈ name.chars) :
    Text.isNameChar c = true := by
  rcases List.mem_append.1 hmem with hhead | htail
  · exact name.head.isNameChar_of_mem hhead
  · obtain ⟨word, -, hword⟩ := List.mem_flatMap.1 htail
    rcases List.mem_cons.1 hword with rfl | hword
    · rfl
    · exact word.isNameChar_of_mem hword

end Name

/-! ## Conventions -/

/-- Each underscore is left out, and the character behind it made a capital. -/
def camel : List Char → List Char
  | '_' :: c :: rest => c.toUpper :: camel rest
  | c :: rest => c :: camel rest
  | [] => []

example : camel "opening_hours".toList = "openingHours".toList := by decide

inductive Convention where
  | snake
  | camel
  | capitals
  deriving DecidableEq

def Convention.spell : Convention → List Char → List Char
  | snake, cs => cs
  | camel, cs => Key.camel cs
  | capitals, cs => cs.map Char.toUpper

theorem camel_append {word : List Char} (hword : ∀ c ∈ word, c ≠ '_') (rest : List Char) :
    camel (word ++ rest) = word ++ camel rest := by
  induction word with
  | nil => rfl
  | cons c others ih =>
      obtain ⟨hjoint, hothers⟩ := List.forall_mem_cons.1 hword
      rw [List.cons_append, camel, ih hothers]
      · rfl
      · intro next behind hc
        exact absurd hc hjoint

/-- Camel case has no characters but those of the name and their capitals. -/
theorem mem_camel {cs : List Char} {c : Char} (hmem : c ∈ camel cs) :
    ∃ d ∈ cs, c = d ∨ c = d.toUpper := by
  fun_induction camel cs with
  | case1 next rest ih =>
      rcases List.mem_cons.1 hmem with rfl | hmem
      · exact ⟨next, by simp, .inr rfl⟩
      · obtain ⟨d, hd, hc⟩ := ih hmem
        exact ⟨d, by simp [hd], hc⟩
  | case2 first rest _ ih =>
      rcases List.mem_cons.1 hmem with rfl | hmem
      · exact ⟨c, List.mem_cons_self, .inl rfl⟩
      · obtain ⟨d, hd, hc⟩ := ih hmem
        exact ⟨d, List.mem_cons_of_mem _ hd, hc⟩
  | case3 => cases hmem

theorem Convention.mem_spell {convention : Convention} {cs : List Char} {c : Char}
    (hmem : c ∈ convention.spell cs) : ∃ d ∈ cs, c = d ∨ c = d.toUpper := by
  cases convention with
  | snake => exact ⟨c, hmem, .inl rfl⟩
  | camel => exact mem_camel hmem
  | capitals =>
      obtain ⟨d, hd, rfl⟩ := List.mem_map.1 hmem
      exact ⟨d, hd, .inr rfl⟩

namespace Name

/-- In camel case every word but the first starts with a capital. -/
theorem camel_chars (name : Name) :
    camel name.chars = name.head.chars ++ name.tail.flatMap Word.capitalized := by
  obtain ⟨head, tail⟩ := name
  rw [chars, camel_append fun c hmem => head.ne_joint_of_mem hmem]
  congr 1
  induction tail with
  | nil => rfl
  | cons word rest ih =>
      have hothers : ∀ c ∈ word.others, c ≠ '_' := fun c hmem =>
        word.ne_joint_of_mem (List.mem_cons_of_mem _ hmem)
      rw [List.flatMap_cons, List.flatMap_cons, Word.chars, List.cons_append, List.cons_append,
        camel, camel_append hothers, ih]
      rfl

/-- Snake case puts the underscores back. -/
theorem snakeFrom_camel (name : Name) : Text.snakeFrom true (camel name.chars) = name.chars := by
  have htail : Text.snakeFrom false (name.tail.flatMap Word.capitalized) =
      name.tail.flatMap fun word => '_' :: word.chars := by
    induction name.tail with
    | nil => rfl
    | cons word rest ih =>
        obtain ⟨hupper, hlower⟩ := Text.isUpper_toUpper word.first_isLower
        have hothers : ∀ c ∈ word.others, Text.isUpper c = false ∧ c ≠ '_' := fun c hmem =>
          word.isUpper_of_mem (List.mem_cons_of_mem _ hmem)
        rw [List.flatMap_cons, List.flatMap_cons, Word.capitalized, List.cons_append,
          Text.snakeFrom, if_pos hupper, hlower, Text.snakeFrom_append hothers, ih]
        rfl
  obtain ⟨hfirst, hjoint⟩ := name.head.isUpper_of_mem List.mem_cons_self
  have hothers : ∀ c ∈ name.head.others, Text.isUpper c = false ∧ c ≠ '_' := fun c hmem =>
    name.head.isUpper_of_mem (List.mem_cons_of_mem _ hmem)
  rw [camel_chars, chars, Word.chars, List.cons_append, Text.snakeFrom, hfirst,
    beq_eq_false_iff_ne.2 hjoint, Text.snakeFrom_append hothers, htail]
  rfl

end Name

/-! ## Segments and paths -/

/-- A segment that a client writes: a name in some convention, with blanks around it. -/
structure Spelling where
  name : Name
  convention : Convention
  before : List Char
  after : List Char
  before_blank : ∀ c ∈ before, Text.isBlank c = true
  after_blank : ∀ c ∈ after, Text.isBlank c = true

namespace Spelling

variable (spelling : Spelling)

def chars : List Char := spelling.convention.spell spelling.name.text.toList

def text : String :=
  String.ofList (spelling.before ++ (spelling.chars ++ spelling.after))

theorem of_mem_chars {c : Char} (hmem : c ∈ spelling.chars) :
    Text.isBlank c = false ∧ c ≠ '.' := by
  rw [chars, Name.toList_text] at hmem
  obtain ⟨d, hd, hc⟩ := Convention.mem_spell hmem
  have hname := Text.nameChar (spelling.name.isNameChar_of_mem hd)
  rcases hc with rfl | rfl
  · exact ⟨hname.blank, hname.point⟩
  · exact ⟨hname.blank_toUpper, hname.point_toUpper⟩

/-- The blanks around a spelling go. -/
theorem trim_text : Text.trim spelling.text = String.ofList spelling.chars := by
  have hbare : Text.trimChars spelling.chars = spelling.chars :=
    Text.trimChars_eq_self fun c hmem => (spelling.of_mem_chars hmem).1
  rw [Text.trim, text, String.toList_ofList,
    Text.trimChars_append spelling.before_blank spelling.after_blank hbare]

theorem point_notMem_text : '.' ∉ spelling.text.toList := by
  have hblank : Text.isBlank '.' = false := by decide
  rw [text, String.toList_ofList, List.mem_append, List.mem_append]
  rintro (hbefore | hchars | hafter)
  · rw [spelling.before_blank _ hbefore] at hblank
    cases hblank
  · exact (spelling.of_mem_chars hchars).2 rfl
  · rw [spelling.after_blank _ hafter] at hblank
    cases hblank

/-- The first letter of a name is a small one unless the name is written in capitals. -/
theorem any_isLower_chars :
    spelling.chars.any Text.isLower = decide (spelling.convention ≠ .capitals) := by
  obtain ⟨name, convention, -, -, -, -⟩ := spelling
  have hfirst : Text.isLower name.head.first = true := by
    rw [Text.isLower_ascii (Text.lt_of_isNameChar (name.head.isNameChar_of_mem List.mem_cons_self))]
    exact name.head.first_isLower
  simp only [chars, Name.toList_text]
  cases convention with
  | snake => exact List.any_eq_true.2 ⟨_, List.mem_append_left _ List.mem_cons_self, hfirst⟩
  | camel =>
      rw [Convention.spell, Name.camel_chars]
      exact List.any_eq_true.2 ⟨_, List.mem_append_left _ List.mem_cons_self, hfirst⟩
  | capitals =>
      refine List.any_eq_false.2 fun c hmem => ?_
      obtain ⟨d, hd, rfl⟩ := List.mem_map.1 hmem
      have hname := Text.nameChar (name.isNameChar_of_mem hd)
      rw [Text.isLower_ascii hname.lt_toUpper, hname.lower_toUpper]
      exact Bool.false_ne_true

/-- Every spelling of a name means the name. -/
theorem normalSegment_text : normalSegment spelling.text = spelling.name.text := by
  have hlower := spelling.any_isLower_chars
  rw [normalSegment, trim_text, String.toList_ofList, hlower, ← String.toList_inj,
    Name.toList_text]
  obtain ⟨name, convention, -, -, -, -⟩ := spelling
  simp only [chars, Name.toList_text]
  cases convention with
  | snake =>
      simpa [Convention.spell] using Text.snakeFrom_eq_self fun c hmem =>
        Text.isUpper_of_isNameChar (name.isNameChar_of_mem hmem)
  | camel => simpa [Convention.spell] using name.snakeFrom_camel
  | capitals =>
      simpa [Convention.spell] using Text.lowerAfter_toUpper fun c hmem =>
        name.isNameChar_of_mem hmem

end Spelling

/-- Every spelling of a path has the names in it as its normal form. -/
theorem normalSegments_spelled (first : Spelling) (others : List Spelling) :
    normalSegments (ofSegments ((first :: others).map Spelling.text)) =
      (first :: others).map fun spelling => spelling.name.text := by
  have hsplit : segments (ofSegments ((first :: others).map Spelling.text)) =
      (first :: others).map Spelling.text := by
    refine Text.split_join (by simp) ?_
    rw [List.forall_mem_map]
    exact fun spelling _ => spelling.point_notMem_text
  have hname : normalSegment ∘ Spelling.text = fun spelling => spelling.name.text := by
    funext spelling
    rw [Function.comp_apply, spelling.normalSegment_text]
  rw [normalSegments, hsplit, List.map_map, hname]

/-- The normal form of a name in snake case, in camel case or in capitals, with any blanks around
it, is the name; and that of a path is the path of the names, whatever the convention of each of its
segments. -/
theorem normal_spelled :
    (∀ spelling : Spelling, normalSegment spelling.text = spelling.name.text) ∧
    ∀ (first : Spelling) (others : List Spelling),
      normal (ofSegments ((first :: others).map Spelling.text)) =
        ofSegments ((first :: others).map fun spelling => spelling.name.text) := by
  constructor
  · exact Spelling.normalSegment_text
  · intro first others
    rw [normal, normalSegments_spelled]

/-- A name of single letters and a digit, in the three conventions. -/
example : normal " aBC1 .a_b_c1.\tA_B_C1" = "a_b_c1.a_b_c1.a_b_c1" := by decide +kernel

end Key

end RestQuery
