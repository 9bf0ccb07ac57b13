import RestQuery.Proofs.Projection.Mentions
import RestQuery.Proofs.Request.Keys

/-!
# Names as values

A value that is one name need not mean that name: tokens are cut at commas, a minus in front
takes a name away, two words stand for whole sets, and names are brought into normal form.

Main statement: `Projection.shown_alone_iff`.
-/

namespace RestQuery

namespace Projection

variable {space : NameSpace} {capability : Capability} {name token value : String}

/-! ## Tokens without commas -/

theorem comma_notMem_of_mem_tokens (hmem : token ∈ tokens value) : ',' ∉ token.toList := by
  obtain ⟨part, hpart, rfl⟩ := List.mem_map.1 (List.mem_filter.1 hmem).1
  rw [Text.toList_trim]
  exact fun hcomma => Text.not_mem_of_mem_split hpart (Text.mem_of_mem_trimChars hcomma)

theorem comma_notMem_readName (htoken : ',' ∉ token.toList) :
    ',' ∉ (readName token).2.toList := by
  have hnormal {segment : String} (hfree : ',' ∉ segment.toList) :
      ',' ∉ (Key.normalSegment segment).toList :=
    fun hcomma => hfree (Key.mem_of_mem_normalSegment (by decide) hcomma)
  rw [readName]
  cases hrest : Text.rest? "-" token with
  | none =>
      dsimp only
      exact hnormal htoken
  | some rest =>
      dsimp only
      apply hnormal
      rw [Text.rest?_eq_some_iff.1 hrest, String.toList_append, List.mem_append] at htoken
      exact fun hcomma => htoken (.inr hcomma)

/-- No token mentions a name with a comma. -/
theorem lastMention?_eq_none (hcomma : ',' ∈ name.toList) :
    lastMention? name (tokens value) = none := by
  have hnone : (tokens value).filterMap (mention? name) = [] := by
    rw [List.filterMap_eq_nil_iff]
    intro token htoken
    have hother : (readName token).2 ≠ name := by
      rintro rfl
      exact comma_notMem_readName (comma_notMem_of_mem_tokens htoken) hcomma
    simp [mention?, hother]
  rw [lastMention?, hnone, List.getLast?_nil]

/-- A name without a comma is one token, or none if it is blank. -/
theorem tokens_trim (hwhole : ',' ∉ name.toList) :
    tokens (Text.trim name) = if Text.trim name = "" then [] else [Text.trim name] := by
  have hfree : ',' ∉ (Text.trim name).toList := by
    rwa [Text.toList_trim, Text.mem_trimChars_iff (by decide)]
  rw [tokens, Text.split_of_notMem hfree, List.map_singleton, Text.trim_trim]
  split <;> simp_all

/-! ## Names that mean themselves -/

/-- A name that means itself as a value: its normal form, of one token that is no word and
takes nothing away. -/
structure Plain (name : String) : Prop where
  normal : Key.normalSegment name = name
  nonempty : name ≠ ""
  whole : ',' ∉ name.toList
  addition : Text.rest? "-" (Text.trim name) = none
  notWord : isWord (Text.trim name) = false

instance : Decidable (Plain name) :=
  decidable_of_iff (Key.normalSegment name = name ∧ name ≠ "" ∧ ',' ∉ name.toList ∧
      Text.rest? "-" (Text.trim name) = none ∧ isWord (Text.trim name) = false)
    ⟨fun ⟨hnormal, hne, hwhole, hadd, hword⟩ => ⟨hnormal, hne, hwhole, hadd, hword⟩,
      fun hplain => ⟨hplain.normal, hplain.nonempty, hplain.whole, hplain.addition, hplain.notWord⟩⟩

theorem lastMention?_singleton : lastMention? name [token] = mention? name token := by
  rw [lastMention?_cons, lastMention?, List.filterMap_nil, List.getLast?_nil, Option.none_or]

/-- A token adds a name exactly if it is no word, has no minus and reads as the name. -/
theorem mention?_eq_addition_iff :
    mention? name token = some .addition ↔
      isWord token = false ∧ Text.rest? "-" token = none ∧ Key.normalSegment token = name := by
  rw [mention?, readName]
  cases hword : isWord token with
  | true => simp
  | false => cases hrest : Text.rest? "-" token <;> simp

theorem Plain.tokens_eq (hplain : Plain name) : tokens (Text.trim name) = [Text.trim name] := by
  have hsome : Text.trim name ≠ "" := fun hblank =>
    hplain.nonempty (hplain.normal ▸ Key.normalSegment_of_blank hblank)
  rw [tokens_trim hplain.whole, if_neg hsome]

/-- A plain name as a value adds itself. -/
theorem Plain.mention?_eq (hplain : Plain name) :
    mention? name (Text.trim name) = some .addition :=
  mention?_eq_addition_iff.2
    ⟨hplain.notWord, hplain.addition, (Key.normalSegment_trim name).trans hplain.normal⟩

theorem plain_of_mention? (hwhole : ',' ∉ name.toList) (hsome : Text.trim name ≠ "")
    (hmention : mention? name (Text.trim name) = some .addition) : Plain name := by
  obtain ⟨hword, hrest, hnormal⟩ := mention?_eq_addition_iff.1 hmention
  refine ⟨(Key.normalSegment_trim name).symm.trans hnormal, ?_, hwhole, hrest, hword⟩
  rintro rfl
  exact hsome (by decide +kernel)

/-- Nothing is wrong with any of some tokens. -/
def Clean (space : NameSpace) (tokens : List String) : Prop :=
  ∀ entry ∈ tokens.zipIdx, problemAt? space entry = none

/-- A value is in order exactly if nothing is wrong with its tokens. -/
theorem problems_read_eq_nil_iff :
    (read capability space value).problems = [] ↔ Clean space (tokens value) := by
  rw [problems_read, List.filterMap_eq_nil_iff, Clean]

theorem Plain.clean (hplain : Plain name)
    (hknown : (space.isField name || space.isRelation name) = true) :
    Clean space (tokens (Text.trim name)) := by
  rw [hplain.tokens_eq]
  intro entry hentry
  obtain rfl := List.mem_singleton.1 hentry
  have hname : (readName (Text.trim name)).2 = name := by
    rw [readName, hplain.addition]
    dsimp only
    rw [Key.normalSegment_trim, hplain.normal]
  have hproblem : problem? space (Text.trim name) = none := by
    rw [problem?, hplain.notWord, if_neg Bool.false_ne_true, hname, if_pos hknown]
  simp [problemAt?, hproblem]

/-- A known name, as the value, is shown without a problem if it means itself, or if the value
starts with a word that stands for it and nothing is wrong with the rest. -/
theorem shown_alone_iff {seeded : Prop}
    (hknown : (space.isField name || space.isRelation name) = true)
    (hseeded : seeded → (tokens (Text.trim name)).head?.any isWord = true) :
    Clean space (tokens (Text.trim name)) ∧
        Shown (lastMention? name (tokens (Text.trim name))) seeded ↔
      Plain name ∨ seeded ∧ Clean space (tokens (Text.trim name)) := by
  constructor
  · rintro ⟨hclean, hadded | ⟨-, hseed⟩⟩
    · left
      by_cases hcomma : ',' ∈ name.toList
      · rw [lastMention?_eq_none hcomma] at hadded
        cases hadded
      · rw [tokens_trim hcomma] at hadded
        split at hadded
        next => cases hadded
        next hsome =>
          rw [lastMention?_singleton] at hadded
          exact plain_of_mention? hcomma hsome hadded
    · exact .inr ⟨hseed, hclean⟩
  · rintro (hplain | ⟨hseed, hclean⟩)
    · refine ⟨hplain.clean hknown, .inl ?_⟩
      rw [hplain.tokens_eq, lastMention?_singleton, hplain.mention?_eq]
    · refine ⟨hclean, .inr ⟨?_, hseed⟩⟩
      have hword := hseeded hseed
      by_cases hcomma : ',' ∈ name.toList
      · exact lastMention?_eq_none hcomma
      · rw [tokens_trim hcomma] at hword ⊢
        split at hword
        next => cases hword
        next hsome => rw [if_neg hsome, lastMention?_singleton, mention?_of_isWord hword]

/-- A value that does not start with a word starts from nothing. -/
theorem isWord_of_mem_seed {shown : Projection → List String} (hnothing : shown {} = [])
    (hmem : name ∈ shown (seed capability (tokens value))) :
    (tokens value).head?.any isWord = true := by
  unfold seed at hmem
  cases hhead : (tokens value).head? with
  | none => simp [hhead, hnothing] at hmem
  | some token =>
      rw [hhead] at hmem
      dsimp only at hmem
      split at hmem
      next hfull => simp [isWord, hfull]
      next =>
        split at hmem
        next hdefault => simp [isWord, hdefault]
        next => simp [hnothing] at hmem

end Projection

end RestQuery
