import RestQuery.Proofs.Sql.Selections

/-!
# The tables that columns belong to

A statement looks the name before a column up in the selection in which it stands, then in
those around it.  The name then belongs to the table that the column is meant to be of.

Main statements: `Site.refersTo_own`, `Site.refersTo_link` and `refersTo_outer` say when a
column is found in its own selection and when in the next one.
-/

namespace RestQuery.Sql

/-- The names that a source gives to tables. -/
def Source.aliases (source : Source) : List Alias :=
  source.name :: (source.link.map fun link => link.on.1.table).toList

/-- Where a name of a table comes from, and the table that it stands for there.  The selections
that enclose it are given from inside out and are counted from 0. -/
def place? : List Site → String → Option (Nat × Alias)
  | [], _ => none
  | site :: outer, name =>
    match site.source.aliases.find? (·.text = name) with
    | some table => some (0, table)
    | none => (place? outer name).map fun found => (found.1 + 1, found.2)

/-- The name before a column stands for the table of the column, which belongs to the selection
at a place. -/
def Column.RefersTo (column : Column) (sites : List Site) (place : Nat) : Prop :=
  place? sites column.table.text = some (place, column.table)

namespace Site

/-- Whether a name is that of a field of the resource, or of the link table of the relation
that leads to it. -/
def HasField (site : Site) (name : String) : Prop :=
  (site.resource.fields.get? name).isSome ∨ (site.link?.bind (·.fields.get? name)).isSome

/-- The columns that the resource of a site and the relation that leads to it declare. -/
inductive Declares (site : Site) : Column → Prop
  | field {name : String} (hfield : (site.resource.fields.get? name).isSome) :
      Declares site ⟨site.name, name⟩
  | id : Declares site ⟨site.name, site.resource.id⟩
  | search : Declares site ⟨site.name, site.resource.searchColumn⟩
  | link {name : String} {link : LinkTable} (hlink : site.link? = some link)
      (hfield : (link.fields.get? name).isSome) : Declares site ⟨.link site.name, name⟩

/-- The tables of a site have different names, and their columns on which they are joined
belong to them. -/
structure Joins (site : Site) (outer : List Site) : Prop where
  distinct : (site.source.aliases.map Alias.text).Nodup
  on : ∀ {link}, site.source.link = some link →
    link.on.1.RefersTo (site :: outer) 0 ∧ link.on.2.RefersTo (site :: outer) 0

end Site

/-- Within the selections of some sites, the columns of a condition are of the tables that they
are meant for and are declared.  Keys that tie a selection to the one around it need no
declaration. -/
inductive Condition.Resolves (catalog : Catalog) : List Site → Condition → Prop
  | isKey {site : Site} {outer : List Site} {column : Column}
      (hrefers : column.RefersTo (site :: outer) 0) (hdeclares : site.Declares column) :
      Resolves catalog (site :: outer) (.isKey column)
  | correlation {sites : List Site} {inner outer : Column} (hinner : inner.RefersTo sites 0)
      (houter : outer.RefersTo sites 1) : Resolves catalog sites (.correlation inner outer)
  | test {site : Site} {outer : List Site} {check : Check} {column : Column}
      {operands : List Operand} (hrefers : column.RefersTo (site :: outer) 0)
      (hdeclares : site.Declares column) :
      Resolves catalog (site :: outer) (.test check (some column) operands)
  | group {sites : List Site} {connective : Connective} {parts : List Condition}
      (hparts : ∀ part ∈ parts, Resolves catalog sites part) :
      Resolves catalog sites (.group connective parts)
  | related {site joined : Site} {outer : List Site} {name : String} {relation : Relation}
      {join : JoinKind} {conditions : List Condition}
      (hfollow : site.follow catalog name (·.target) (.join site.name name)
        = .ok (relation, joined))
      (hjoins : joined.Joins (site :: outer))
      (hconditions : ∀ condition ∈ conditions,
        Resolves catalog (joined :: site :: outer) condition) :
      Resolves catalog (site :: outer) (.related join joined.source conditions)

/-- Within the selections of some sites, the columns of a selection are of the tables that they
are meant for and are declared; of the columns that it shows, those with certain names are. -/
inductive Select.Resolves (catalog : Catalog) (shown : Site → String → Prop) :
    List Site → Select → Prop
  | intro {site : Site} {outer : List Site} {select : Select}
      (hsource : select.source = site.source) (hjoins : site.Joins outer)
      (houtputs : ∀ output ∈ select.outputs, shown site output.name →
        output.column.RefersTo (site :: outer) 0 ∧ site.Declares output.column)
      (hconditions : ∀ condition ∈ select.conditions,
        condition.Resolves catalog (site :: outer))
      (horder : ∀ entry ∈ select.order,
        entry.1.RefersTo (site :: outer) 0 ∧ site.Declares entry.1)
      (hfollow : ∀ entry ∈ select.relations,
        (site.follow catalog entry.1 (·.target) (.level (outer.length + 1))).isOk = true)
      (hrelations : ∀ entry ∈ select.relations, ∀ relation inner,
        site.follow catalog entry.1 (·.target) (.level (outer.length + 1))
          = .ok (relation, inner) →
        Resolves catalog shown (inner :: site :: outer) entry.2.2) :
      Resolves catalog shown (site :: outer) select

/-! ## Texts of aliases -/

theorem Alias.head?_text (table : Alias) : table.text.toList.head? = some 't' := by
  induction table with
  | level depth => simp [text]
  | link table ih => simp [text, ih]
  | join table name ih => simp [text, ih]

theorem Alias.length_text_join (table : Alias) (name : String) :
    (join table name).text.length = table.text.length + 1 + name.length := by
  rw [text, String.length_append, String.length_append]
  rfl

theorem Alias.length_text_link (table : Alias) :
    (link table).text.length = table.text.length + 5 := by
  rw [text, String.length_append]
  rfl

theorem Alias.text_link_ne (table : Alias) : (link table).text ≠ table.text := by
  intro heq
  have hlength := congrArg String.length heq
  rw [length_text_link] at hlength
  omega

theorem Alias.text_join_ne (table : Alias) (name : String) :
    (join table name).text ≠ table.text := by
  intro heq
  have hlength := congrArg String.length heq
  rw [length_text_join] at hlength
  omega

theorem Alias.text_link_join_ne (table : Alias) (name : String) :
    (link (join table name)).text ≠ table.text := by
  intro heq
  have hlength := congrArg String.length heq
  rw [length_text_link, length_text_join] at hlength
  omega

theorem Alias.toList_text_level (depth : Nat) :
    (level depth).text.toList = 't' :: Nat.toDigits 10 depth := by
  simp [text, Nat.toList_repr]

/-- Levels have different names for their tables. -/
theorem Alias.text_level_inj {first second : Nat} (heq : (level first).text = (level second).text) :
    first = second := by
  rw [← String.toList_inj, toList_text_level, toList_text_level, List.cons.injEq] at heq
  have hvalue := congrArg (fun digits => Nat.ofDigitChars 10 digits 0) heq.2
  simpa [Nat.ofDigitChars_toDigits] using hvalue

/-- The name for a link table is never that for the table of a level. -/
theorem Alias.text_link_ne_level (table : Alias) (depth : Nat) :
    (link table).text ≠ (level depth).text := by
  intro heq
  have hmem : '_' ∈ (link table).text.toList := by simp [text]
  rw [heq, toList_text_level, List.mem_cons] at hmem
  rcases hmem with hfirst | hdigit
  · cases hfirst
  · have hdecimal := Nat.isDigit_of_mem_toDigits (by decide) (by decide) hdigit
    cases hdecimal

/-! ## Columns of a selection and of the one around it -/

variable {site parent : Site} {outer : List Site} {column : Column}

theorem Site.aliases_source (site : Site) :
    site.source.aliases = site.name :: (site.link?.map fun _ => Alias.link site.name).toList := by
  cases hvia : site.via with
  | none => simp [Source.aliases, source, link?, hvia]
  | some relation =>
      cases hlink : relation.link with
      | none => simp [Source.aliases, source, link?, hvia, hlink]
      | some link => simp [Source.aliases, source, link?, hvia, hlink]

theorem Site.find?_own (site : Site) :
    site.source.aliases.find? (·.text = site.name.text) = some site.name := by
  rw [aliases_source]
  exact List.find?_cons_of_pos (decide_eq_true rfl)

theorem Site.find?_link {link : LinkTable} (hlink : site.link? = some link) :
    site.source.aliases.find? (·.text = (Alias.link site.name).text) =
      some (.link site.name) := by
  have hother : site.name.text ≠ (Alias.link site.name).text :=
    (Alias.text_link_ne site.name).symm
  rw [aliases_source, hlink]
  simp [hother]

/-- The name of a site's own table is found at the site. -/
theorem Site.refersTo_own (htable : column.table = site.name) :
    column.RefersTo (site :: outer) 0 := by
  rw [Column.RefersTo, place?, htable, find?_own]

/-- The name of a site's link table is found at the site. -/
theorem Site.refersTo_link {link : LinkTable} (hlink : site.link? = some link)
    (htable : column.table = .link site.name) : column.RefersTo (site :: outer) 0 := by
  rw [Column.RefersTo, place?, htable, find?_link hlink]

/-- Every column that a site declares is found there. -/
theorem Site.Declares.refersTo (hdeclares : site.Declares column) :
    column.RefersTo (site :: outer) 0 := by
  cases hdeclares with
  | field | id | search => exact refersTo_own rfl
  | link hlink => exact refersTo_link hlink rfl

/-- A column of the enclosing selection is found if no table of the inner one has the name of
its table. -/
theorem Site.refersTo_outer (htable : column.table = parent.name)
    (hname : site.name.text ≠ parent.name.text)
    (hlink : (Alias.link site.name).text ≠ parent.name.text) :
    column.RefersTo (site :: parent :: outer) 1 := by
  have hnone : site.source.aliases.find? (·.text = parent.name.text) = none := by
    rw [List.find?_eq_none, aliases_source]
    cases site.link? with
    | none => simpa using hname
    | some link => simpa using ⟨hname, hlink⟩
  have hparent : column.RefersTo (parent :: outer) 0 := refersTo_own htable
  rw [Column.RefersTo] at hparent
  rw [Column.RefersTo, place?, htable, hnone, ← htable, hparent]
  rfl

/-- The tables of every site can be told apart. -/
theorem Site.joins_source (site : Site) (outer : List Site) : site.Joins outer where
  distinct := by
    rw [aliases_source]
    cases site.link? with
    | none => simp
    | some link => simpa using (Alias.text_link_ne site.name).symm
  on := by
    intro link hlink
    obtain ⟨hinner, houter⟩ := source_link hlink
    have hjoined : ∃ link, site.link? = some link := by
      obtain ⟨relation, hvia, hsome⟩ := Option.bind_eq_some_iff.1 hlink
      obtain ⟨table, htable, -⟩ := Option.bind_eq_some_iff.1 hsome
      exact ⟨table, Option.bind_eq_some_iff.2 ⟨relation, hvia, htable⟩⟩
    obtain ⟨table, htable⟩ := hjoined
    exact ⟨refersTo_link htable hinner, refersTo_own houter⟩

end RestQuery.Sql
