import RestQuery.Proofs.Plan.Subjects
import RestQuery.Proofs.Projection.Names

/-!
# Names that are taken away

A caller can start from the defaults and take one name away.  The name has to be read as it is
written, and tokens have to know it at the level: as a relation, as a full field, or as a field of
the link table that leads there.  Defaults may show other fields of the resource too, which no token
can take away.

Main statement: `Document.default_removable`.
-/

namespace RestQuery

namespace Text

theorem trimEnd_cons {c : Char} {cs : List Char} (hc : isBlank c = false) :
    trimEnd (c :: cs) = c :: trimEnd cs := by
  rw [trimEnd, List.reverse_cons, List.dropWhile_append]
  split
  next hblank => simp [trimEnd, hc, List.isEmpty_iff.1 hblank]
  next => simp [trimEnd]

/-- What is trimmed at the end of a text is blank. -/
theorem exists_trimEnd_append (cs : List Char) :
    ∃ after, cs = trimEnd cs ++ after ∧ ∀ c ∈ after, isBlank c = true := by
  refine ⟨(cs.reverse.takeWhile isBlank).reverse, ?_, fun c hmem => ?_⟩
  · rw [trimEnd, ← List.reverse_append, List.takeWhile_append_dropWhile, List.reverse_reverse]
  · exact List.all_eq_true.1 List.all_takeWhile c (List.mem_reverse.1 hmem)

theorem trimChars_trimEnd (cs : List Char) : trimChars (trimEnd cs) = trimChars cs := by
  obtain ⟨after, heq, hafter⟩ := exists_trimEnd_append cs
  generalize trimEnd cs = front at heq
  subst heq
  rw [trimChars, trimChars, trimStart, trimStart, List.dropWhile_append]
  split
  next hblank =>
    have hnone : trimStart (after ++ []) = [] := trimStart_append hafter
    rw [List.append_nil, trimStart] at hnone
    rw [List.isEmpty_iff.1 hblank, hnone]
  next => rw [trimEnd_append hafter]

end Text

namespace Projection

variable {space : NameSpace} {capability : Capability} {name : String}

/-! ## One name behind the word for the defaults -/

def without (projection : Projection) (name : String) : Projection :=
  ⟨remove projection.fields name, remove projection.relations name⟩

def removal (name : String) : String := "*default,-" ++ name

theorem remove_eq_self {names : List String} (hnot : name ∉ names) : remove names name = names :=
  List.filter_eq_self.2 fun other hmem => by
    simpa using fun heq : other = name => hnot (heq ▸ hmem)

/-- The value has the word for the defaults as its first token. -/
theorem tokens_removal (name : String) :
    tokens (removal name) = defaultWord :: tokens ("-" ++ name) := by
  have hparts : removal name = "*default" ++ "," ++ ("-" ++ name) := by
    simp [removal, ← String.toList_inj]
  have hsplit : Text.split ',' ("*default" ++ "," ++ ("-" ++ name)) =
      Text.split ',' "*default" ++ Text.split ',' ("-" ++ name) := Text.split_append _ _
  have hword : Text.split ',' "*default" = ["*default"] := by decide
  have htrim : Text.trim "*default" = defaultWord := by decide
  rw [tokens, hparts, hsplit, hword]
  simp [tokens, htrim, defaultWord]

/-- The value starts from the defaults. -/
theorem seed_removal : seed capability (tokens (removal name)) = byDefault capability := by
  rw [tokens_removal]
  rfl

/-- The token that takes a name away, as far as it is read. -/
def minus (name : String) : String := "-" ++ String.ofList (Text.trimEnd name.toList)

theorem tokens_minus (hcomma : ',' ∉ name.toList) : tokens ("-" ++ name) = [minus name] := by
  have hfree : ',' ∉ ("-" ++ name).toList := by simp [hcomma]
  have htrim : Text.trim ("-" ++ name) = minus name := by
    have hminus : ("-" ++ name).toList = '-' :: name.toList := by simp
    have hsign : Text.isBlank '-' = false := by decide
    rw [Text.trim, hminus, Text.trimChars, Text.trimStart,
      List.dropWhile_cons_of_neg (by simp [hsign]), Text.trimEnd_cons hsign, minus]
    simp
  rw [tokens, Text.split_of_notMem hfree, List.map_singleton, htrim]
  simp [minus]

theorem isWord_minus (name : String) : isWord (minus name) = false := by
  have hhead : (minus name).toList.head? = some '-' := by simp [minus]
  rw [isWord, Bool.or_eq_false_iff, decide_eq_false_iff_not, decide_eq_false_iff_not]
  constructor
  · rintro heq
    rw [heq] at hhead
    exact absurd hhead (by decide)
  · rintro heq
    rw [heq] at hhead
    exact absurd hhead (by decide)

/-- The name is read as one to take away, in normal form. -/
theorem readName_minus (name : String) :
    readName (minus name) = (true, Key.normalSegment name) := by
  have hrest : Text.rest? "-" (minus name) = some (String.ofList (Text.trimEnd name.toList)) :=
    Text.rest?_eq_some_iff.2 rfl
  have htrim : Text.trim (String.ofList (Text.trimEnd name.toList)) = Text.trim name := by
    rw [Text.trim, String.toList_ofList, Text.trimChars_trimEnd, Text.trim]
  rw [readName, hrest, ← Key.normalSegment_trim name, ← htrim, Key.normalSegment_trim]

/-- What the value says about its name: that it goes, if the name is read as it is written. -/
theorem lastMention?_removal (name : String) :
    lastMention? name (tokens (removal name)) =
      if Key.normalSegment name = name ∧ ',' ∉ name.toList then some .removal else none := by
  by_cases hcomma : ',' ∈ name.toList
  · rw [lastMention?_eq_none hcomma, if_neg fun hread => hread.2 hcomma]
  · have hword : mention? name defaultWord = none := mention?_of_isWord (by decide)
    rw [tokens_removal, tokens_minus hcomma, lastMention?_cons, lastMention?_singleton, hword,
      Option.or_none, mention?, isWord_minus, readName_minus]
    simp [hcomma]

/-- What is left of the defaults without a name lacks it. -/
theorem notMem_without {projection : Projection} :
    name ∉ (projection.without name).fields ∧ name ∉ (projection.without name).relations := by
  simp [without]

/-- A field of the defaults goes only if tokens know it as a field, and the value mentions it. -/
theorem isField_of_gone (hmem : name ∈ (byDefault capability).fields)
    (hgone : name ∉ (read capability space (removal name)).projection.fields) :
    space.isField name = true ∧ lastMention? name (tokens (removal name)) ≠ none := by
  have hsettled := settled_read capability space (removal name)
  rw [← @seed_removal capability name] at hmem
  cases hfield : space.isField name with
  | false => exact absurd ((hsettled.otherFields name hfield).2 hmem) hgone
  | true =>
      refine ⟨rfl, fun hnone => hgone ((hsettled.field name hfield).2 ?_)⟩
      exact .inr ⟨hnone, hmem⟩

/-- A relation of the defaults goes only if tokens mean it, and the value mentions it. -/
theorem meansRelation_of_gone (hmem : name ∈ (byDefault capability).relations)
    (hgone : name ∉ (read capability space (removal name)).projection.relations) :
    meansRelation space name = true ∧ lastMention? name (tokens (removal name)) ≠ none := by
  have hsettled := settled_read capability space (removal name)
  rw [← @seed_removal capability name] at hmem
  cases hrelation : meansRelation space name with
  | false => exact absurd ((hsettled.otherRelations name hrelation).2 hmem) hgone
  | true =>
      refine ⟨rfl, fun hnone => hgone ((hsettled.relation name hrelation).2 ?_)⟩
      exact .inr ⟨hnone, hmem⟩

/-- A name that is read as it is written is taken away as what tokens know it as, and is a problem
if they do not know it. -/
theorem read_removal (hnormal : Key.normalSegment name = name) (hcomma : ',' ∉ name.toList) :
    (read capability space (removal name)).projection =
        ⟨if space.isField name then remove (byDefault capability).fields name
          else (byDefault capability).fields,
        if meansRelation space name then remove (byDefault capability).relations name
          else (byDefault capability).relations⟩ ∧
      (read capability space (removal name)).problems =
        if space.isField name || space.isRelation name then []
        else [.unknownField (minus name)] := by
  have hstart : (start capability (tokens (removal name))).2 = [minus name] := by
    rw [tokens_removal, tokens_minus hcomma]
    rfl
  have hedit : ∀ (known : String → Bool) (names : List String),
      edit known names (minus name) = if known name then remove names name else names := by
    intro known names
    rw [edit, isWord_minus, readName_minus, hnormal]
    rfl
  have hword : isWord defaultWord = true := by decide
  obtain ⟨hprojection, hproblems⟩ := @read_parts space capability (removal name)
  rw [hprojection, hproblems, hstart, seed_removal, tokens_removal, tokens_minus hcomma]
  constructor
  · simp only [List.foldl_cons, List.foldl_nil, hedit]
  · cases hknown : space.isField name || space.isRelation name <;>
      simp [problemAt?, problem?, hword, isWord_minus, readName_minus, hnormal, hknown]

/-- A name that the defaults show is taken away, without a problem and without anything else,
exactly if it is read as it is written and the tokens know it as what it is shown as, and only as
that. -/
theorem read_removal_iff
    (hshown : name ∈ (byDefault capability).fields ∨ name ∈ (byDefault capability).relations) :
    (read capability space (removal name)).problems = [] ∧
        (read capability space (removal name)).projection = (byDefault capability).without name ↔
      Key.normalSegment name = name ∧ ',' ∉ name.toList ∧
        if space.isField name then name ∉ (byDefault capability).relations
        else space.isRelation name = true ∧ name ∉ (byDefault capability).fields := by
  constructor
  · rintro ⟨-, hprojection⟩
    obtain ⟨hfieldsGone, hrelationsGone⟩ := @notMem_without name (byDefault capability)
    rw [← hprojection] at hfieldsGone hrelationsGone
    have hmentioned : lastMention? name (tokens (removal name)) ≠ none :=
      hshown.elim (fun hmem => (isField_of_gone hmem hfieldsGone).2)
        fun hmem => (meansRelation_of_gone hmem hrelationsGone).2
    rw [lastMention?_removal, ne_eq, ite_eq_right_iff, Classical.not_imp] at hmentioned
    obtain ⟨⟨hnormal, hcomma⟩, -⟩ := hmentioned
    refine ⟨hnormal, hcomma, ?_⟩
    split
    next hfield =>
      intro hmem
      have hmeans := (meansRelation_of_gone hmem hrelationsGone).1
      rw [meansRelation, hfield] at hmeans
      cases hmeans
    next hfield =>
      have hnot : name ∉ (byDefault capability).fields := fun hmem =>
        hfield (isField_of_gone hmem hfieldsGone).1
      have hmeans := (meansRelation_of_gone (hshown.resolve_left hnot) hrelationsGone).1
      rw [meansRelation, Bool.and_eq_true] at hmeans
      exact ⟨hmeans.2, hnot⟩
  · rintro ⟨hnormal, hcomma, hknown⟩
    obtain ⟨hprojection, hproblems⟩ :=
      @read_removal space capability name hnormal hcomma
    rw [hprojection, hproblems, without]
    split at hknown
    next hfield => simp [meansRelation, hfield, remove_eq_self hknown]
    next hfield =>
      obtain ⟨hrelation, hnot⟩ := hknown
      rw [Bool.not_eq_true] at hfield
      simp [meansRelation, hfield, hrelation, remove_eq_self hnot]

end Projection

/-! ## Levels -/

/-- A link table that leads to a resource has a field of some name. -/
def Document.LinksTo (document : Document) (resource name : String) : Prop :=
  ∃ decl ∈ document.resources, ∃ relation ∈ decl.relations.entries, ∃ link ∈ relation.2.link,
    relation.2.target = resource ∧ (link.fields.get? name).isSome

instance (document : Document) (resource name : String) :
    Decidable (document.LinksTo resource name) :=
  inferInstanceAs (Decidable (∃ decl ∈ document.resources, ∃ relation ∈ decl.relations.entries,
    ∃ link ∈ relation.2.link, relation.2.target = resource ∧ (link.fields.get? name).isSome))

section Levels

variable {document : Document} {catalog : Catalog} {resource name : String} {target : Target}
  {params : Params} {path : List String} {visit reached : Visit}

theorem Document.linksTo_of_linkFieldsFor {entry : String}
    (hfield : ((document.linkFieldsFor ⟨resource, entry⟩).get? name).isSome) :
    document.LinksTo resource name := by
  obtain ⟨type, htype⟩ := Option.isSome_iff_exists.1 hfield
  obtain ⟨decl, hdecl, relation, hrelation, link, hlink, htarget, -, hfound⟩ :=
    exists_relation_of_linkFieldsFor htype
  exact ⟨decl, hdecl, relation, hrelation, link, hlink, htarget,
    Option.isSome_iff_exists.2 ⟨type, hfound⟩⟩

namespace Visit

/-- The levels along a path are held by the catalog, each with the capability for it. -/
theorem held_of_along? (hheld : visit.level.Held catalog) (hsound : catalog.Sound)
    (hentry : ∃ entry, visit.level.capability = .ok (entry, visit.capability))
    (halong : visit.along? catalog path = some reached) :
    reached.level.Held catalog ∧
      ∃ entry, reached.level.capability = .ok (entry, reached.capability) := by
  induction path generalizing visit with
  | nil =>
      obtain rfl := Option.some.inj halong
      exact ⟨hheld, hentry⟩
  | cons name rest ih =>
      obtain ⟨child, hchild, hrest⟩ := Option.bind_eq_some_iff.1 halong
      obtain ⟨relation, hrelation, hlevel, -, hcapability⟩ := below?_eq_some_iff.1 hchild
      exact ih (hheld.of_child hsound hrelation hlevel) hcapability hrest

/-- The levels of a request are held by the catalog. -/
theorem held_of_visit? (hsound : catalog.Sound)
    (hvisit : catalog.visit? resource target params path = some visit) :
    visit.level.Held catalog ∧
      ∃ entry, visit.level.capability = .ok (entry, visit.capability) := by
  obtain ⟨level, hlevel, hrest⟩ := Option.bind_eq_some_iff.1 hvisit
  obtain ⟨root, hroot, halong⟩ := Option.bind_eq_some_iff.1 hrest
  obtain ⟨rfl, -, hentry⟩ := ofLevel?_eq_some_iff.1 hroot
  have hheld := Level.held_of_root hsound (toOption_eq_some_iff.1 hlevel)
  exact held_of_along? hheld hsound hentry halong

theorem linksTo_of_linkFields (hresolve : document.resolve = .ok catalog)
    (hvisit : catalog.visit? resource target params path = some visit)
    (hfield : (visit.level.linkFields.get? name).isSome) :
    document.LinksTo visit.level.resource.name name := by
  have hsound := Document.sound_of_resolve hresolve
  obtain ⟨relation, link, hvia, hlink, hfound⟩ := Level.exists_of_linkFields hfield
  obtain ⟨_, _, outer, houter, hdeclared⟩ := (held_of_visit? hsound hvisit).1.exists_of_via hvia
  obtain ⟨decl, hdecl, -, hmeans⟩ := Document.exists_decl_of_get? hresolve houter
  rw [Document.get?_relations_of_resolve hmeans, Option.map_eq_some_iff] at hdeclared
  obtain ⟨declared, hmem, rfl⟩ := hdeclared
  exact ⟨decl, hdecl, _, Table.get?_eq_some_iff.1 hmem, link, hlink,
    (hsound.resourceNamed (target_of_via hvisit hvia)).symm, hfound⟩

/-- Tokens know the full fields of a level, and the fields of the link table that leads there. -/
theorem isField_names (visit : Visit) (name : String) :
    (visit.level.names visit.capability).isField name = true ↔
      name ∈ visit.capability.fullFields ∨ (visit.level.linkFields.get? name).isSome := by
  rw [NameSpace.isField, Bool.or_eq_true, List.contains_iff_mem, List.contains_iff_mem]
  exact or_congr_right Table.contains_iff_mem_keys.symm

theorem isRelation_names (visit : Visit) (name : String) :
    (visit.level.names visit.capability).isRelation name =
      visit.level.resource.relations.contains name := by
  rw [Bool.eq_iff_iff, NameSpace.isRelation, List.contains_iff_mem, Table.contains_iff_mem_keys]
  rfl

/-- A relation of a level has no field of its name, neither among those that tokens know nor among
the defaults, if no link table has one. -/
theorem not_isField (hresolve : document.resolve = .ok catalog)
    (hvisit : catalog.visit? resource target params path = some visit)
    (hrelation : visit.level.resource.relations.contains name = true)
    (hapart : ¬document.LinksTo visit.level.resource.name name) :
    (visit.level.names visit.capability).isField name = false ∧
      name ∉ (Projection.byDefault visit.capability).fields := by
  obtain ⟨hheld, entry, hcapability⟩ := held_of_visit? (Document.sound_of_resolve hresolve) hvisit
  have hdeclared := hheld.declared_of_capability hresolve hcapability
  obtain ⟨relation, hget⟩ := Option.isSome_iff_exists.1 hrelation
  have hunknown : ¬document.Knows visit.level.resource entry name := by
    rintro (hfield | hlink)
    · rw [Document.field_of_relation hresolve hheld.resource hget] at hfield
      cases hfield
    · exact hapart (Document.linksTo_of_linkFieldsFor hlink)
  have hfull : name ∉ visit.capability.fullFields := fun hmem =>
    hunknown (hdeclared.full name hmem)
  have hlink : ¬(visit.level.linkFields.get? name).isSome := fun hfield =>
    hapart (linksTo_of_linkFields hresolve hvisit hfield)
  constructor
  · rw [← Bool.not_eq_true, isField_names]
    exact not_or.2 ⟨hfull, hlink⟩
  · intro hmem
    rcases Projection.mem_byDefault hmem with hmem | hadds
    · exact hfull hmem
    · exact hunknown (hadds.tokenName_eq ▸ hdeclared.default name hadds.listed hadds.notWord)

end Visit

/-- A name that a level shows by default, and that is not both a relation of the resource and a
field of a link table that leads to it, can be taken away from the defaults exactly if it is read as
it is written and the level knows it: as a relation, as a full field, or as a field of the link
table through which it is reached. -/
theorem Document.default_removable (hresolve : document.resolve = .ok catalog)
    (hvisit : catalog.visit? resource target params path = some visit)
    (hshown : name ∈ (Projection.byDefault visit.capability).fields ∨
      name ∈ (Projection.byDefault visit.capability).relations)
    (hapart : visit.level.resource.relations.contains name = true →
      ¬document.LinksTo visit.level.resource.name name) :
    (Projection.read visit.capability (visit.level.names visit.capability)
          ("*default,-" ++ name)).problems = [] ∧
        (Projection.read visit.capability (visit.level.names visit.capability)
          ("*default,-" ++ name)).projection =
            (Projection.byDefault visit.capability).without name ↔
      Key.normalSegment name = name ∧ ',' ∉ name.toList ∧
        (visit.level.resource.relations.contains name = true ∨
          name ∈ visit.capability.fullFields ∨ (visit.level.linkFields.get? name).isSome) := by
  obtain ⟨hheld, entry, hcapability⟩ := Visit.held_of_visit? (sound_of_resolve hresolve) hvisit
  have hdeclared := hheld.declared_of_capability hresolve hcapability
  refine (Projection.read_removal_iff hshown).trans (and_congr_right fun _ => and_congr_right
    fun _ => ?_)
  rw [Visit.isRelation_names, ← visit.isField_names]
  cases hrelation : visit.level.resource.relations.contains name with
  | true =>
      obtain ⟨hfield, hdefault⟩ := Visit.not_isField hresolve hvisit hrelation (hapart hrelation)
      simp [hfield, hdefault]
  | false =>
      have hdefault : name ∉ (Projection.byDefault visit.capability).relations := by
        intro hmem
        have hknown := hdeclared.relations name (Projection.mem_relations_byDefault hmem)
        rw [← Table.contains, hrelation] at hknown
        cases hknown
      simp [hdefault]

end Levels

namespace Sample

/-- Cabins that show three fields and the cabins nearby by default, and only two fields in full. -/
def partly : Document :=
  { resources :=
      [ { name := "cabin"
          table := "cabins"
          fields := .ofList [("id", .uuid), ("name", .string), ("Title", .string)]
          relations := .ofList [("nearby", ⟨"cabin", .toMany, "id", "id", none⟩)]
          capabilities := .ofList
            [("default", { fullFields := ["name", "Title"]
                           defaultFields := ["id", "name", "Title"]
                           defaultRelations := ["nearby"] })] } ] }

def partlyCatalog : Catalog := partly.resolve.toOption.getD {}

def partlyRead (visit : Visit) (value : String) : Projection.Draft :=
  Projection.read visit.capability (visit.level.names visit.capability) value

end Sample

/-- The name of a cabin and the cabins nearby can be taken away. -/
theorem default_removable_cabins :
    ∃ visit ∈ Sample.partlyCatalog.visit? "cabin" .list {} [], ∀ name ∈ ["name", "nearby"],
      (Sample.partlyRead visit ("*default,-" ++ name)).problems = [] ∧
        (Sample.partlyRead visit ("*default,-" ++ name)).projection =
          (Projection.byDefault visit.capability).without name := by
  have hresolve : Sample.partly.resolve = .ok Sample.partlyCatalog :=
    eq_ok_of_isOk {} (by decide +kernel)
  obtain ⟨visit, hvisit, hnames⟩ : ∃ visit ∈ Sample.partlyCatalog.visit? "cabin" .list {} [],
      ∀ name ∈ ["name", "nearby"],
        (name ∈ (Projection.byDefault visit.capability).fields ∨
          name ∈ (Projection.byDefault visit.capability).relations) ∧
        ¬Sample.partly.LinksTo visit.level.resource.name name ∧
        Key.normalSegment name = name ∧ ',' ∉ name.toList ∧
          (visit.level.resource.relations.contains name = true ∨
            name ∈ visit.capability.fullFields ∨
            (visit.level.linkFields.get? name).isSome) := by
    decide +kernel
  refine ⟨visit, hvisit, fun name hname => ?_⟩
  obtain ⟨hshown, hapart, hknown⟩ := hnames name hname
  exact (Document.default_removable hresolve hvisit hshown fun _ => hapart).2 hknown

/-- A key that is no full field is shown by default and cannot be taken away, nor can a full field
whose name is not in normal form. -/
theorem not_removable_key :
    Sample.partly.resolve = .ok Sample.partlyCatalog ∧
      ∃ visit ∈ Sample.partlyCatalog.visit? "cabin" .list {} [],
        "id" ∈ (Projection.byDefault visit.capability).fields ∧
        (Sample.partlyRead visit "*default,-id").problems = [.unknownField "-id"] ∧
        (Sample.partlyRead visit "*default,-id").projection =
          Projection.byDefault visit.capability ∧
        "Title" ∈ (Projection.byDefault visit.capability).fields ∧
        (Sample.partlyRead visit "*default,-Title").problems = [.unknownField "-Title"] ∧
        (Sample.partlyRead visit "*default,-Title").projection =
          Projection.byDefault visit.capability :=
  ⟨eq_ok_of_isOk {} (by decide +kernel), by decide +kernel⟩

end RestQuery
