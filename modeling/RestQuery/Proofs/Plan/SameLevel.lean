import RestQuery.Proofs.Plan.Additions
import RestQuery.Proofs.Plan.Defaults
import RestQuery.Proofs.Plan.Unknown

/-!
# Filters of the level itself

Below a to-one relation the key of a filter may have the word for the level itself in front of it.
So an entry can give its value under another key, which comes to the same level and means the same
filter there.

Main statement: `Document.sameLevel_transparent`.
-/

namespace RestQuery

namespace Params

variable {params : Params} {key other : String} {value : Json}

def rekey (params : Params) (key other : String) (value : Json) : Params :=
  (params.erase key).insert other value

theorem get?_erase_self (params : Params) (key : String) : (params.erase key).get? key = none := by
  rw [get?, erase, Table.get?_erase, if_pos rfl]

theorem get?_erase_eq_none (hnone : params.get? other = none) (key : String) :
    (params.erase key).get? other = none := by
  rw [get?, erase, Table.get?_erase]
  exact ite_eq_left_iff.2 fun _ => hnone

/-- An entry that is taken away can be put back. -/
theorem insert_erase (hstored : params.get? key = some value) :
    (params.erase key).insert key value = params := by
  rw [insert, erase]
  congr 1
  refine Table.ext_get? fun other => ?_
  rw [Table.get?_insert, Table.get?_erase]
  split
  next heq => exact heq ▸ hstored.symm
  next => rfl

/-- An entry that is added can be taken away again. -/
theorem erase_insert (hnew : params.get? key = none) (value : Json) :
    (params.insert key value).erase key = params := by
  rw [insert, erase]
  congr 1
  refine Table.ext_get? fun other => ?_
  rw [Table.get?_erase, Table.get?_insert]
  split
  next heq => exact heq ▸ hnew.symm
  next => rfl

theorem mem_erase {entry : String × Json} :
    entry ∈ (params.erase key).entries.entries ↔
      entry ∈ params.entries.entries ∧ entry.1 ≠ key := by
  change entry ∈ params.entries.entries.filter _ ↔ _
  rw [List.mem_filter]
  simp

end Params

/-- Lists of results that agree but for the one of a name. -/
theorem exists_split_of_names {lefts rights : List (String × α)} {name : String} {left : α}
    (hnames : lefts.map Prod.fst = rights.map Prod.fst) (hnodup : (lefts.map Prod.fst).Nodup)
    (hleft : (name, left) ∈ lefts)
    (hothers : ∀ first ∈ lefts, ∀ second ∈ rights, first.1 = second.1 → first.1 ≠ name →
      first = second) :
    ∃ before right after, lefts = before ++ (name, left) :: after ∧
      rights = before ++ (name, right) :: after ∧ ∀ result ∈ before, name ≠ result.1 := by
  obtain ⟨before, after, rfl⟩ := List.append_of_mem hleft
  rw [List.map_append, List.map_cons] at hnames hnodup
  obtain ⟨first, others, rfl, hfirst, hrest⟩ := List.map_eq_append_iff.1 hnames.symm
  obtain ⟨⟨found, right⟩, last, rfl, hname, hlast⟩ := List.map_eq_cons_iff.1 hrest
  obtain rfl : name = found := hname.symm
  obtain ⟨-, hafter, hbefore⟩ := List.nodup_append.1 hnodup
  have hne : ∀ result ∈ before, result.1 ≠ name := fun result hresult =>
    hbefore _ (List.mem_map_of_mem hresult) _ List.mem_cons_self
  refine ⟨before, right, after, rfl, ?_, fun result hresult => (hne result hresult).symm⟩
  have hsameBefore : before = first :=
    eq_of_map_eq hfirst.symm fun result hresult other hother heq =>
      hothers result (List.mem_append_left _ hresult) other (List.mem_append_left _ hother) heq
        (hne result hresult)
  have hsameAfter : after = last := by
    refine eq_of_map_eq hlast.symm fun result hresult other hother heq => ?_
    refine hothers result (List.mem_append_right _ (List.mem_cons_of_mem _ hresult)) other
      (List.mem_append_right _ (List.mem_cons_of_mem _ hother)) heq ?_
    have hmem : result.1 ∈ after.map Prod.fst := List.mem_map_of_mem hresult
    intro hsame
    rw [hsame] at hmem
    exact (List.nodup_cons.1 hafter).1 hmem
  rw [hsameBefore, hsameAfter]

theorem Plan.exists_along?_withErrors {plan node : Plan} {path : List String}
    (hnode : plan.along? path = some node) (errors : List RequestError) :
    ∃ other, { plan with errors }.along? path = some other ∧
      other = { node with errors := other.errors } := by
  cases path with
  | nil =>
      obtain rfl := Option.some.inj hnode
      exact ⟨_, rfl, rfl⟩
  | cons name rest => exact ⟨node, hnode, by cases node; rfl⟩

namespace Visit

variable {catalog : Catalog} {visit child reached : Visit} {path : List String}
  {key other name rest more : String} {value given : Json} {parameter : Parameter} {depth : Nat}
  {plan second node : Plan}

/-- The plan of a relation is found under its name, with its errors moved up. -/
theorem lookup_planOf {referrer : String} {depthErrors : List RequestError}
    {before after : List (String × Plan)} (hnew : ∀ result ∈ before, name ≠ result.1) :
    (visit.planOf catalog referrer depthErrors
      (before ++ (name, plan) :: after)).relations.lookup name =
        some { plan with errors := [] } := by
  refine List.lookup_eq_some_iff.2 ⟨before.map fun result =>
    (result.1, { result.2 with errors := [] }), after.map fun result =>
      (result.1, { result.2 with errors := [] }), ?_, ?_⟩
  · exact List.map_append
  · intro result hresult
    obtain ⟨source, hsource, rfl⟩ := List.mem_map.1 hresult
    exact bne_iff_ne.2 (hnew source hsource)

/-! ## Keys along a path -/

/-- The key under which an entry of a level comes to the end of a path of relations. -/
def keyAlong? (catalog : Catalog) (visit : Visit) : List String → String → Json → Option String
  | [], key, _ => some key
  | name :: path, key, value => do
    let child ← visit.below? catalog name
    let rest ← (visit.route key value).rest? name
    child.keyAlong? catalog path rest value

/-- The first part of a path is followed at the level, the others below. -/
theorem keyAlong?_cons (hbelow : visit.below? catalog name = some child) (key : String)
    (value : Json) : visit.keyAlong? catalog (name :: path) key value =
      ((visit.route key value).rest? name).bind (child.keyAlong? catalog path · value) := by
  rw [keyAlong?, hbelow]
  rfl

/-- Where a key leads does not depend on the value, as long as a parameter can have it. -/
theorem rest?_route_eq (hvalue : (ParamValue.ofJson? value).isSome)
    (hgiven : (ParamValue.ofJson? given).isSome) (key name : String) :
    (visit.route key value).rest? name = (visit.route key given).rest? name := by
  refine Option.ext fun rest => ?_
  rw [← Route.place?_eq_nested_iff, ← Route.place?_eq_nested_iff]
  exact iff_of_eq (congrArg (· = _) (Keys.place?_route_eq hvalue hgiven))

/-- Where an entry comes depends on its key, whatever value of a parameter it has. -/
theorem keyAlong?_eq (hvalue : (ParamValue.ofJson? value).isSome)
    (hgiven : (ParamValue.ofJson? given).isSome) (path : List String) (key : String) :
    visit.keyAlong? catalog path key value = visit.keyAlong? catalog path key given := by
  induction path generalizing visit key with
  | nil => rfl
  | cons name path ih =>
      cases hbelow : visit.below? catalog name with
      | none => rw [keyAlong?, keyAlong?, hbelow]; rfl
      | some child =>
          rw [keyAlong?_cons hbelow, keyAlong?_cons hbelow, rest?_route_eq hvalue hgiven]
          exact Option.bind_congr fun rest _ => ih rest

theorem isSome_of_rest? (hrest : (visit.route key value).rest? name = some rest) :
    (ParamValue.ofJson? value).isSome :=
  Keys.isSome_ofJson?_of_place? (Route.place?_eq_nested_iff.2 hrest)

/-! ## Values under another key -/

/-- The errors that are found at one place are found at another one, where they may come elsewhere
among the others, which are the same. -/
def Relocated (source target : String) (errors others : List RequestError) : Prop :=
  others.filter (!·.isAt target) = errors.filter (!·.isAt source) ∧
    others.filter (·.isAt target) = (errors.filter (·.isAt source)).map (·.movedTo target)

def rekeyed (visit : Visit) (key other : String) (value : Json) : Visit :=
  visit.withParams (visit.params.rekey key other value)

/-- An entry of a level comes to the end of a path under one key, and would come there under another
one if it had another key.  No other entry of the level comes there under a key that is one of these
in normal form. -/
structure Rekeys (catalog : Catalog) (path : List String) (visit : Visit) (key other : String)
    (value : Json) (rest more : String) : Prop where
  stored : visit.params.get? key = some value
  new : visit.params.get? other = none
  arrives : visit.keyAlong? catalog path key value = some rest
  lands : visit.keyAlong? catalog path other value = some more
  alone : ∀ entry ∈ visit.params.entries.entries, entry.1 ≠ key → ∀ found,
    visit.keyAlong? catalog path entry.1 entry.2 = some found →
      Key.normal found ≠ Key.normal rest ∧ Key.normal found ≠ Key.normal more

/-- Without the value the level has an entry under neither key, and with it under one of them. -/
theorem Rekeys.without (hrekeys : visit.Rekeys catalog path key other value rest more) :
    (visit.without key).params.get? key = none ∧ (visit.without key).params.get? other = none ∧
      (visit.without key).adding key value = visit := by
  refine ⟨visit.params.get?_erase_self key, Params.get?_erase_eq_none hrekeys.new key, ?_⟩
  change visit.withParams ((visit.params.erase key).insert key value) = visit
  rw [Params.insert_erase hrekeys.stored]
  rfl

/-- No other entry takes the place from which an entry comes to the end of the path under one of the
keys. -/
theorem Rekeys.free {place found : String}
    (hrekeys : visit.Rekeys catalog (name :: path) key other value rest more)
    (hbelow : visit.below? catalog name = some child)
    (hvalue : (ParamValue.ofJson? value).isSome)
    (hfound : child.keyAlong? catalog path place value = some found)
    (hnormal : Key.normal found = Key.normal rest ∨ Key.normal found = Key.normal more) :
    (visit.params.erase key).Free (visit.level.keys visit.capability) visit.level.trace
      (.nested name place) := by
  intro entry hentry hplace
  obtain ⟨hmem, hne⟩ := Params.mem_erase.1 hentry
  have hrest : (visit.route entry.1 entry.2).rest? name = some place :=
    Route.place?_eq_nested_iff.1 hplace
  have hcomes : visit.keyAlong? catalog (name :: path) entry.1 entry.2 = some found := by
    rw [keyAlong?_cons hbelow, hrest, Option.bind_some,
      keyAlong?_eq (isSome_of_rest? hrest) hvalue, hfound]
  obtain ⟨hneRest, hneMore⟩ := hrekeys.alone entry hmem hne found hcomes
  exact hnormal.elim hneRest hneMore

theorem Rekeys.alone_below {keyRest : String}
    (hrekeys : visit.Rekeys catalog (name :: path) key other value rest more)
    (hbelow : visit.below? catalog name = some child)
    (hkeyRest : (visit.route key value).rest? name = some keyRest) :
    ∀ entry ∈ child.params.entries.entries, entry.1 ≠ keyRest → ∀ found,
      child.keyAlong? catalog path entry.1 entry.2 = some found →
        Key.normal found ≠ Key.normal rest ∧ Key.normal found ≠ Key.normal more := by
  intro entry hentry hne found hfound
  obtain ⟨source, parameter, hsource, hroute⟩ := exists_route_of_mem_below hbelow hentry
  have hrest : (visit.route source entry.2).rest? name = some entry.1 :=
    Route.rest?_eq_some_iff.2 ⟨parameter, hroute⟩
  refine hrekeys.alone (source, entry.2) hsource ?_ found ?_
  · rintro rfl
    obtain rfl : entry.2 = value :=
      Option.some.inj ((Table.get?_eq_some_iff.2 hsource).symm.trans hrekeys.stored)
    exact hne (Option.some.inj (hrest.symm.trans hkeyRest))
  · rw [keyAlong?_cons hbelow, hrest, Option.bind_some, hfound]

/-- One relation further along the path, a value under another key is again one under another key,
and where entries go at the level before, none is refused for either. -/
theorem Rekeys.below (hrekeys : visit.Rekeys catalog (name :: path) key other value rest more)
    (hdiffer : Key.normal rest ≠ Key.normal more)
    (hbelow : visit.below? catalog name = some child) :
    ∃ keyRest otherRest, child.Rekeys catalog path keyRest otherRest value rest more ∧
      (visit.route key value).leadsTo name = true ∧
      (visit.route other value).leadsTo name = true ∧
      (visit.rekeyed key other value).routed.errors = visit.routed.errors ∧
      ((visit.rekeyed key other value).routed.relations.get? name).getD {} =
        child.params.rekey keyRest otherRest value := by
  obtain ⟨keyRest, hkeyRest, harrives⟩ :=
    Option.bind_eq_some_iff.1 ((keyAlong?_cons hbelow key value).symm.trans hrekeys.arrives)
  obtain ⟨otherRest, hotherRest, hlands⟩ :=
    Option.bind_eq_some_iff.1 ((keyAlong?_cons hbelow other value).symm.trans hrekeys.lands)
  have hvalue := isSome_of_rest? hkeyRest
  have hkeyFree := hrekeys.free hbelow hvalue harrives (.inl rfl)
  have hotherFree := hrekeys.free hbelow hvalue hlands (.inr rfl)
  have hgone := visit.params.get?_erase_self key
  have hotherGone := Params.get?_erase_eq_none hrekeys.new key
  obtain ⟨hkeyBucket, hkeyNew⟩ := Params.getD_relations_insert hgone hkeyRest hkeyFree
  obtain ⟨hotherBucket, hotherNew⟩ :=
    Params.getD_relations_insert hotherGone hotherRest hotherFree
  have hkeyErrors := Params.errors_route_insert hgone
    (Route.place?_eq_nested_iff.2 hkeyRest) hkeyFree
  have hotherErrors := Params.errors_route_insert hotherGone
    (Route.place?_eq_nested_iff.2 hotherRest) hotherFree
  rw [Params.insert_erase hrekeys.stored] at hkeyBucket hkeyErrors
  rw [← routed, ← params_of_below? hbelow] at hkeyBucket
  refine ⟨keyRest, otherRest, ⟨?_, ?_, harrives, hlands, hrekeys.alone_below hbelow hkeyRest⟩,
    ?_, ?_, hotherErrors.trans hkeyErrors.symm, ?_⟩
  · rw [hkeyBucket, Params.insert, Params.get?, Table.get?_insert, if_pos rfl]
  · rw [hkeyBucket, Params.insert, Params.get?, Table.get?_insert, if_neg, ← Params.get?, hotherNew]
    rintro rfl
    exact hdiffer (congrArg Key.normal (Option.some.inj (harrives.symm.trans hlands)))
  · rw [← Route.isSome_rest?, hkeyRest, Option.isSome_some]
  · rw [← Route.isSome_rest?, hotherRest, Option.isSome_some]
  · rw [hkeyBucket, Params.rekey, Params.erase_insert hkeyNew]
    exact hotherBucket

/-- At the end of the path, a value under another key is one under the key that this comes to. -/
theorem Rekeys.along (hrekeys : visit.Rekeys catalog path key other value rest more)
    (hdiffer : Key.normal rest ≠ Key.normal more)
    (halong : visit.along? catalog path = some reached) :
    reached.Rekeys catalog [] rest more value rest more ∧
      (visit.rekeyed key other value).along? catalog path =
        some (reached.rekeyed rest more value) := by
  induction path generalizing visit key other with
  | nil =>
      obtain rfl := Option.some.inj halong
      obtain rfl := Option.some.inj hrekeys.arrives
      obtain rfl := Option.some.inj hrekeys.lands
      exact ⟨hrekeys, rfl⟩
  | cons name path ih =>
      obtain ⟨child, hbelow, hchild⟩ := Option.bind_eq_some_iff.1 halong
      obtain ⟨keyRest, otherRest, hchildRekeys, -, -, -, hbucket⟩ := hrekeys.below hdiffer hbelow
      obtain ⟨hreached, hmoved⟩ := ih hchildRekeys hchild
      have hfound := below?_withParams_of_below? hbelow (visit.params.rekey key other value)
      rw [← rekeyed, hbucket] at hfound
      exact ⟨hreached, Option.bind_eq_some_iff.2 ⟨_, hfound, hmoved⟩⟩

/-- The errors of a filter that is given under another key are found where this leads, and the
errors of others are the same. -/
theorem Rekeys.relocated_errorsHere (hrekeys : visit.Rekeys catalog [] key other value key other)
    (hroute : visit.route key value = .filter parameter)
    (hmoved : visit.route other value =
      .filter (parameter.relocated other (visit.located other)))
    {depthErrors : List RequestError}
    (hdepth : ∀ error ∈ depthErrors, error.problem.isDepth = true) :
    Relocated (visit.located key) (visit.located other) (visit.errorsHere catalog depthErrors)
      ((visit.rekeyed key other value).errorsHere catalog depthErrors) := by
  have hothers : ∀ entry ∈ (visit.params.erase key).entries.entries,
      Key.normal entry.1 ≠ Key.normal key ∧ Key.normal entry.1 ≠ Key.normal other := by
    intro entry hentry
    obtain ⟨hmem, hne⟩ := Params.mem_erase.1 hentry
    exact hrekeys.alone entry hmem hne _ rfl
  obtain ⟨hgone, hotherGone, hadding⟩ := hrekeys.without
  obtain ⟨hkept, hown⟩ := filter_errorsHere_adding hgone hroute
    (fun entry hentry => (hothers entry hentry).1) hdepth
  obtain ⟨hmovedKept, hmovedOwn⟩ := filter_errorsHere_adding hotherGone hmoved
    (fun entry hentry => (hothers entry hentry).2) hdepth
  rw [hadding] at hkept hown
  refine ⟨hmovedKept.trans hkept.symm, ?_⟩
  rw [show visit.located key = (visit.without key).located key from rfl, hown]
  exact hmovedOwn.trans (filterErrors_relocated parameter other (visit.located other))

/-- Plans of a level for parameters that differ in entries for a relation, none of which is refused
there, list the errors of the relation among errors that are the same. -/
theorem Plans.exists_split (hplans : visit.Plans catalog (depth + 1) plan) {params : Params}
    (hsecond : (visit.withParams params).Plans catalog (depth + 1) second)
    (hsound : catalog.Sound) (hsame : (visit.withParams params).apart name = visit.apart name)
    (hnests : (visit.withParams params).nests name = true)
    (herrors : (visit.withParams params).routed.errors = visit.routed.errors)
    (hbelow : visit.below? catalog name = some child) {sub : Plan}
    (hsub : plan.relations.lookup name = some sub) :
    ∃ full other before after, child.Plans catalog depth full ∧
      (child.withParams (((visit.withParams params).routed.relations.get? name).getD {})).Plans
        catalog depth other ∧
      sub = { full with errors := [] } ∧
      second.relations.lookup name = some { other with errors := [] } ∧
      plan.errors = before ++ full.errors ++ after ∧
      second.errors = before ++ other.errors ++ after := by
  obtain ⟨-, -, -, -, hshown, -⟩ := hplans.exists_of_lookup hsound hsub
  obtain ⟨referrer, relations, others, rfl, rfl, hnames, hotherNames, hboth⟩ :=
    hplans.exists_below_both hsecond hsound
  have hall : (visit.withParams params).shown = visit.shown :=
    shown_withParams_of_nests hsame hshown hnests
  obtain ⟨full, hfull, rfl⟩ := exists_of_lookup_planOf hsub
  have hnodup : (relations.map Prod.fst).Nodup := by
    rw [hnames]
    exact (Table.keys_nodup _).filter _
  have hothers : ∀ left ∈ relations, ∀ right ∈ others, left.1 = right.1 → left.1 ≠ name →
      left = right := by
    intro left hleft right hright hname hne
    obtain ⟨found, hfound, -, hchild, hplan⟩ := hboth left hleft right hright hname
    rw [getD_relations_withParams hsame hne, ← params_of_below? hfound] at hplan
    exact Prod.ext hname (hchild.unique hplan)
  obtain ⟨before, other, after, rfl, rfl, hnew⟩ := exists_split_of_names
    ((hnames.trans hall.symm).trans hotherNames.symm) hnodup hfull hothers
  have hmem : ∀ result : Plan, (name, result) ∈ before ++ (name, result) :: after :=
    fun result => List.mem_append_right _ List.mem_cons_self
  obtain ⟨found, hfound, -, hchild, hplan⟩ := hboth _ (hmem full) _ (hmem other) rfl
  obtain rfl := Option.some.inj (hbelow.symm.trans hfound)
  refine ⟨full, other, visit.routed.errors ++ visit.readErrors catalog ++ visit.applyErrors catalog
    ++ before.flatMap fun result => result.2.errors, after.flatMap fun result => result.2.errors,
    hchild, hplan, rfl, lookup_planOf hnew, ?_, ?_⟩
  · simp only [errors_planOf_eq, List.flatMap_append, List.flatMap_cons, List.append_assoc,
      List.append_nil]
  · simp only [errors_planOf_eq, herrors, readErrors_withParams hsame,
      applyErrors_withParams hsame, List.flatMap_append, List.flatMap_cons, List.append_assoc,
      List.append_nil]

/-- Where a filter at the end of a path is given under another key that means it too, plans agree at
the end of the path but for the order of the filters and for errors, and everywhere else. -/
theorem Plans.rekeyed (hplans : visit.Plans catalog depth plan)
    (hsecond : (visit.rekeyed key other value).Plans catalog depth second)
    (hsound : catalog.Sound) (hnode : plan.along? path = some node)
    (halong : visit.along? catalog path = some reached)
    (hrekeys : visit.Rekeys catalog path key other value rest more)
    (hdiffer : Key.normal rest ≠ Key.normal more)
    (hroute : reached.route rest value = .filter parameter)
    (hmoved : reached.route more value =
      .filter (parameter.relocated more (reached.located more))) :
    ∃ moved, second.along? path = some moved ∧
      moved = { node with filters := moved.filters, errors := moved.errors } ∧
      moved.filters.Perm node.filters ∧
      ∃ before depthErrors after, (∀ error ∈ depthErrors, error.problem.isDepth = true) ∧
        plan.errors = before ++ reached.errorsHere catalog depthErrors ++ after ∧
        second.errors =
          before ++ (reached.rekeyed rest more value).errorsHere catalog depthErrors ++ after := by
  induction path generalizing visit key other depth plan second node with
  | nil =>
      obtain rfl := Option.some.inj hnode
      obtain rfl := Option.some.inj halong
      obtain rfl := Option.some.inj hrekeys.arrives
      obtain rfl := Option.some.inj hrekeys.lands
      obtain ⟨hgone, hotherGone, hadding⟩ := hrekeys.without
      rw [← hadding] at hplans
      obtain ⟨heq, hperm, depthErrors, after, hdepth, herrors, hsecondErrors⟩ :=
        hplans.relocated hgone hotherGone hroute hmoved hsecond hsound
      rw [hadding] at herrors
      exact ⟨second, rfl, heq, hperm, [], depthErrors, after, hdepth, herrors, hsecondErrors⟩
  | cons name path ih =>
      obtain ⟨sub, hsub, hnode⟩ := Option.bind_eq_some_iff.1 hnode
      obtain ⟨child, hbelow, hchildAlong⟩ := Option.bind_eq_some_iff.1 halong
      obtain ⟨keyRest, otherRest, hchildRekeys, hkeyLeads, hotherLeads, hrouted, hbucket⟩ :=
        hrekeys.below hdiffer hbelow
      obtain ⟨_, left, _, rfl, -⟩ := hplans.exists_of_lookup hsound hsub
      obtain ⟨hgone, hotherGone, hadding⟩ := hrekeys.without
      have hsame : (visit.rekeyed key other value).apart name = visit.apart name := by
        have hkey := apart_insert hgone hkeyLeads
        rw [← adding, hadding] at hkey
        exact (apart_insert hotherGone hotherLeads).trans hkey.symm
      have hnests : ((visit.without key).adding other value).nests name = true :=
        nests_insert hotherLeads
      obtain ⟨full, other, before, after, hfull, hother, rfl, hlookup, herrors, hsecondErrors⟩ :=
        hplans.exists_split hsecond hsound hsame hnests hrouted hbelow hsub
      rw [← Visit.rekeyed, hbucket] at hother
      obtain ⟨found, hfound, hnodeEq⟩ := Plan.exists_of_along?_withErrors hnode
      obtain ⟨moved, hmovedNode, hmovedEq, hperm, first, depthErrors, last, hdepth, hinner,
        hsecondInner⟩ := ih hfull hother hfound hchildAlong hchildRekeys
      obtain ⟨final, hfinal, hfinalEq⟩ := Plan.exists_along?_withErrors hmovedNode []
      refine ⟨final, Option.bind_eq_some_iff.2 ⟨_, hlookup, hfinal⟩, ?_, ?_, before ++ first,
        depthErrors, last ++ after, hdepth, ?_, ?_⟩
      · rw [hfinalEq, hmovedEq, hnodeEq]
      · rw [hfinalEq, hnodeEq]
        exact hperm
      · rw [herrors, hinner]
        simp only [List.append_assoc]
      · rw [hsecondErrors, hsecondInner]
        simp only [List.append_assoc]

/-! ## The word for the level itself -/

/-- The parameters of a level that a relation leads to have values of parameters. -/
theorem isSome_of_mem {resource : String} {target : Target} {params : Params}
    {relation : Relation} (hvisit : catalog.visit? resource target params path = some visit)
    (hvia : visit.level.via = some relation) {entry : String × Json}
    (hentry : entry ∈ visit.params.entries.entries) : (ParamValue.ofJson? entry.2).isSome := by
  rcases List.eq_nil_or_concat path with rfl | ⟨path, name, rfl⟩
  · rw [via_eq hvisit] at hvia
    cases hvia
  · rw [List.concat_eq_append, Catalog.visit?_append_singleton] at hvisit
    obtain ⟨parent, -, hbelow⟩ := Option.bind_eq_some_iff.1 hvisit
    obtain ⟨source, parameter, -, hroute⟩ := exists_route_of_mem_below hbelow hentry
    exact isSome_of_route hroute nofun

/-- Filters come before relations and controls, but after the word for the level itself. -/
theorem route_of_contains {given : ParamValue} (hvalue : ParamValue.ofJson? value = some given)
    (hword : (Key.normalSegments key).head? ≠ some sameLevelWord)
    (hdeclared : visit.capability.filters.contains (Key.normal key) = true) :
    visit.route key value = .filter (.ofEntry visit.level.trace key given) := by
  have hfirst : (Parameter.ofEntry visit.level.trace key given).firstKey ≠ sameLevelWord := by
    change (Key.normalSegments key).headD "" ≠ sameLevelWord
    cases hsegments : Key.normalSegments key with
    | nil => exact absurd hsegments (Key.normalSegments_ne_nil key)
    | cons first others =>
        rw [hsegments] at hword
        exact fun heq => hword (congrArg some heq)
  have hmem : (visit.level.keys visit.capability).filters.contains
      (Parameter.ofEntry visit.level.trace key given).key = true :=
    List.contains_iff_mem.2 (Table.contains_iff_mem_keys.1 hdeclared)
  rw [route, Keys.route, hvalue]
  dsimp only
  rw [Keys.routeParameter, beq_eq_false_iff_ne.2 hfirst, Bool.and_false, Bool.false_and,
    if_neg Bool.false_ne_true, if_pos hmem]

/-- Behind the word for the level itself there is a filter or nothing that means anything. -/
theorem route_of_sameLevel (hsame : (visit.level.keys visit.capability).sameLevel = true)
    {given : ParamValue} (hvalue : ParamValue.ofJson? value = some given)
    (hkey : Key.normal key = sameLevelWord ++ "." ++ name) :
    visit.route key value =
      if visit.capability.filters.contains name then
        .filter { Parameter.ofEntry visit.level.trace key given with keys := Key.segments name }
      else .refused ⟨visit.located key, .unknownParameter⟩ := by
  have hkeys : (Parameter.ofEntry visit.level.trace key given).keys =
      sameLevelWord :: Key.segments name := by
    change Key.normalSegments key = _
    rw [← Key.segments_normal, hkey, Key.segments]
    exact Text.split_append sameLevelWord name
  have hword : (visit.level.keys visit.capability).sameLevel &&
      (Parameter.ofEntry visit.level.trace key given).firstKey == sameLevelWord &&
        1 < (Parameter.ofEntry visit.level.trace key given).keys.length := by
    have hlength : 0 < (Key.segments name).length :=
      List.length_pos_iff.2 (Text.split_ne_nil '.' name)
    rw [hsame, Parameter.firstKey, hkeys]
    simpa using hlength
  have hfilters : (visit.level.keys visit.capability).filters.contains name =
      visit.capability.filters.contains name := by
    rw [Bool.eq_iff_iff, List.contains_iff_mem, Table.contains_iff_mem_keys]
    rfl
  rw [route, Keys.route, hvalue]
  dsimp only
  rw [Keys.routeParameter, if_pos hword]
  dsimp only
  rw [hkeys, List.tail_cons, Parameter.key, Key.ofSegments_segments, hfilters]
  rfl

/-- A filter of a level has the same meaning behind the word for the level itself. -/
theorem exists_routes_of_sameLevel
    (hsame : (visit.level.keys visit.capability).sameLevel = true)
    (hvalue : (ParamValue.ofJson? value).isSome)
    (hdeclared : visit.capability.filters.contains (Key.normal key) = true)
    (hword : (Key.normalSegments key).head? ≠ some sameLevelWord)
    (hother : Key.normal other = sameLevelWord ++ "." ++ Key.normal key) :
    ∃ parameter, visit.route key value = .filter parameter ∧
      visit.route other value =
        .filter (parameter.relocated other (visit.located other)) := by
  obtain ⟨given, hgiven⟩ := Option.isSome_iff_exists.1 hvalue
  refine ⟨_, route_of_contains hgiven hword hdeclared, ?_⟩
  rw [route_of_sameLevel hsame hgiven hother, if_pos hdeclared, Key.segments_normal]
  rfl

/-- Behind the word for the level itself, what is no filter is refused, and nothing else is found
where it leads. -/
theorem Plans.errors_of_sameLevel (hplans : visit.Plans catalog depth plan)
    (hsound : catalog.Sound) (hnode : (plan.along? path).isSome)
    (halong : visit.along? catalog path = some reached)
    (hsame : (reached.level.keys reached.capability).sameLevel = true) {entry : String × Json}
    (hentry : entry ∈ reached.params.entries.entries)
    (hvalue : (ParamValue.ofJson? entry.2).isSome)
    (hkey : Key.normal entry.1 = sameLevelWord ++ "." ++ name)
    (hunknown : reached.capability.filters.contains name = false) :
    reached.route entry.1 entry.2 = .refused ⟨reached.located entry.1, .unknownParameter⟩ ∧
      plan.errors.filter (·.isFound (reached.located entry.1)) =
        (reached.sharing entry).map fun other =>
          ⟨reached.located other.1, .unknownParameter⟩ := by
  have hleads : reached.LeadsAt (reached.located entry.1) entry := ⟨hentry, hvalue, rfl⟩
  have hrefused : ∀ other, reached.LeadsAt (reached.located entry.1) other →
      reached.route other.1 other.2 = .refused ⟨reached.located other.1, .unknownParameter⟩ := by
    intro other hother
    obtain ⟨given, hgiven⟩ := Option.isSome_iff_exists.1 hother.isValue
    rw [route_of_sameLevel hsame hgiven ((located_inj.1 hother.located).trans hkey), hunknown]
    rfl
  have hroute := hrefused entry hleads
  refine ⟨hroute, ?_⟩
  rw [hplans.errors_found hsound hnode halong hleads (by rw [hroute]; rfl),
    filter_levelErrors_of_refused hrefused]

end Visit

/-- Below a to-one relation a filter may be given behind the word for the level itself: of the whole
plan this changes the order of the filters of that node at most, and of the errors those that the
entry raises, which are found where its new key leads and may come elsewhere among the errors of
that level.  What is no filter is refused behind the word, once for each entry, whatever control or
relation it may be the name of. -/
theorem Document.sameLevel_transparent {document : Document} {catalog : Catalog}
    (hresolve : document.resolve = .ok catalog) {resource : String} {target : Target}
    {params : Params} {plan node : Plan} {path : List String} {root visit : Visit}
    {relation : Relation} (hplan : catalog.plan resource target params = .ok plan)
    (hnode : plan.along? path = some node)
    (hroot : catalog.visit? resource target params [] = some root)
    (hvisit : catalog.visit? resource target params path = some visit)
    (hvia : visit.level.via = some relation) (htoOne : relation.isToOne = true) :
    (∀ key other value rest more, root.Rekeys catalog path key other value rest more →
        visit.capability.filters.contains (Key.normal rest) = true →
        (Key.normalSegments rest).head? ≠ some sameLevelWord →
        Key.normal more = sameLevelWord ++ "." ++ Key.normal rest →
        ∃ second moved level, catalog.plan resource target (params.rekey key other value) =
            .ok second ∧
          second.along? path = some moved ∧
          catalog.visit? resource target (params.rekey key other value) path = some level ∧
          moved = { node with filters := moved.filters, errors := moved.errors } ∧
          moved.filters.Perm node.filters ∧
          ∃ before depthErrors after, (∀ error ∈ depthErrors, error.problem.isDepth = true) ∧
            plan.errors = before ++ visit.errorsHere catalog depthErrors ++ after ∧
            second.errors = before ++ level.errorsHere catalog depthErrors ++ after ∧
            Visit.Relocated (visit.located rest) (visit.located more)
              (visit.errorsHere catalog depthErrors) (level.errorsHere catalog depthErrors)) ∧
      ∀ entry ∈ visit.params.entries.entries, ∀ name,
        Key.normal entry.1 = sameLevelWord ++ "." ++ name →
        visit.capability.filters.contains name = false →
        visit.route entry.1 entry.2 = .refused ⟨visit.located entry.1, .unknownParameter⟩ ∧
          plan.errors.filter (·.isFound (visit.located entry.1)) =
            (visit.sharing entry).map fun other =>
              ⟨visit.located other.1, .unknownParameter⟩ := by
  have hsound := sound_of_resolve hresolve
  have halong := (Catalog.visit?_eq_along? hroot path).symm.trans hvisit
  have hsame : (visit.level.keys visit.capability).sameLevel = true := by
    rw [Level.keys, hvia]
    exact htoOne
  constructor
  · intro key other value rest more hrekeys hdeclared hword hprefixed
    obtain ⟨found, second, hfound, -, rfl, hplans, hrekeyed, hsecond⟩ :=
      hsound.exists_plans hplan (params.rekey key other value)
    obtain rfl := Option.some.inj (hroot.symm.trans hfound)
    have hdiffer : Key.normal rest ≠ Key.normal more := by
      intro heq
      have hlength := congrArg String.length (heq.trans hprefixed)
      have hword : sameLevelWord.length = 2 := rfl
      rw [String.length_append, String.length_append, hword] at hlength
      omega
    obtain ⟨hreached, hmovedAlong⟩ := hrekeys.along hdiffer halong
    have hvalue : (ParamValue.ofJson? value).isSome :=
      Visit.isSome_of_mem hvisit hvia (Table.get?_eq_some_iff.1 hreached.stored)
    obtain ⟨parameter, hroute, hmoved⟩ :=
      Visit.exists_routes_of_sameLevel hsame hvalue hdeclared hword hprefixed
    obtain ⟨moved, hmovedNode, heq, hperm, before, depthErrors, after, hdepth, herrors,
      hsecondErrors⟩ := hplans.rekeyed hrekeyed hsound hnode halong hrekeys hdiffer hroute hmoved
    have hlevel : catalog.visit? resource target (root.params.rekey key other value) path =
        some (visit.rekeyed rest more value) :=
      (Catalog.visit?_eq_withParams_along? hroot _ path).trans hmovedAlong
    exact ⟨second, moved, visit.rekeyed rest more value, hsecond, hmovedNode, hlevel, heq, hperm,
      before, depthErrors, after, hdepth, herrors, hsecondErrors,
      hreached.relocated_errorsHere hroute hmoved hdepth⟩
  · intro entry hentry name hkey hunknown
    obtain ⟨found, hplans, -, -, hfound⟩ := hsound.exists_visit hplan
    obtain rfl := Option.some.inj (hroot.symm.trans (hfound []))
    exact hplans.errors_of_sameLevel hsound (Option.isSome_iff_exists.2 ⟨node, hnode⟩) halong hsame
      hentry (Visit.isSome_of_mem hvisit hvia hentry) hkey hunknown

namespace Sample

/-- Cabins of areas that are searched in the areas of cabins, by a name and by no filter. -/
def inward : Params :=
  ⟨[("cabins.area.df.limit", .string "5"), ("cabins.area.name", .string "~lake")], by decide⟩

/-- Areas by fields one of which has a capital, and in pages, with their cabins. -/
def lodging : Document :=
  { resources :=
      [ { name := "area"
          table := "areas"
          fields := .ofList
            [("id", .uuid), ("Limit", .number), ("beds", .number), ("berths", .number)]
          capabilities := .ofList
            [("default", { page := some { defaultLimit := 20, maxLimit := 50 }
                           filters := .ofList [("Limit", {}), ("beds", {}), ("berths", {})]
                           fullFields := ["id"] })] },
        { name := "cabin"
          table := "cabins"
          fields := .ofList [("id", .uuid), ("area_id", .uuid)]
          relations := .ofList [("area", ⟨"area", .toOne, "area_id", "id", none⟩)]
          capabilities := .ofList [("default", { fullFields := ["id"] })] } ] }

def lodgingCatalog : Catalog := lodging.resolve.toOption.getD {}

/-- The plan for cabins by texts for the keys of their areas. -/
def lodgingPlan (entries : List (String × String)) : Plan :=
  (lodgingCatalog.plan "cabin" .list
    ⟨.ofList (entries.map fun entry => (entry.1, .string entry.2))⟩).toOption.getD default

end Sample

theorem rekeys_inward {root : Visit}
    (hroot : Sample.catalog.visit? "area" .list Sample.inward [] = some root) :
    root.Rekeys Sample.catalog ["cabins", "area"] "cabins.area.name" "Cabins.area.DF.name"
      (.string "~lake") "name" "DF.name" := by
  obtain ⟨-, hparams, -⟩ := Catalog.visit?_nil_eq_some_iff.1 hroot
  have hkeys : (Sample.catalog.visit? "area" .list Sample.inward []).map (fun root =>
      [root.keyAlong? Sample.catalog ["cabins", "area"] "cabins.area.name" (.string "~lake"),
        root.keyAlong? Sample.catalog ["cabins", "area"] "Cabins.area.DF.name" (.string "~lake"),
        root.keyAlong? Sample.catalog ["cabins", "area"] "cabins.area.df.limit" (.string "5")]) =
      some [some "name", some "DF.name", some "df.limit"] := by decide +kernel
  rw [hroot, Option.map_some] at hkeys
  simp only [Option.some.injEq, List.cons.injEq, and_true] at hkeys
  obtain ⟨harrives, hlands, hlimit⟩ := hkeys
  refine ⟨by rw [hparams]; rfl, by rw [hparams]; rfl, harrives, hlands, ?_⟩
  rw [hparams]
  intro entry hentry hne found hfound
  rcases List.mem_cons.1 hentry with rfl | hentry
  · obtain rfl := Option.some.inj (hlimit.symm.trans hfound)
    decide +kernel
  · exact absurd (congrArg Prod.fst (List.mem_singleton.1 hentry)) hne

theorem sameLevel_transparent_cabins :
    ∃ plan node second moved,
      Sample.catalog.plan "area" .list Sample.inward = .ok plan ∧
      plan.along? ["cabins", "area"] = some node ∧
      Sample.catalog.plan "area" .list (Sample.inward.rekey "cabins.area.name" "Cabins.area.DF.name"
        (.string "~lake")) = .ok second ∧
      second.along? ["cabins", "area"] = some moved ∧
      moved = { node with filters := moved.filters, errors := moved.errors } ∧
      moved.filters.Perm node.filters ∧ node.filters.length = 1 ∧
      plan.errors.filter (·.isFound "area.cabins.area.df.limit") =
        [⟨"area.cabins.area.df.limit", .unknownParameter⟩] := by
  have hnode : ((Sample.catalog.plan "area" .list Sample.inward).toOption.bind
      (·.along? ["cabins", "area"])).map (·.filters.length) = some 1 := by decide +kernel
  have hlevel : (Sample.catalog.visit? "area" .list Sample.inward ["cabins", "area"]).map
      (fun visit => ((visit.level.via.map (·.isToOne), visit.capability.filters.contains "name",
        visit.capability.filters.contains "limit"), (visit.params.entries.keys,
          visit.located "df.limit",
          (visit.sharing ("df.limit", .null)).map (visit.located ·.1)))) =
      some ((some true, true, false),
        (["df.limit", "name"], "area.cabins.area.df.limit", ["area.cabins.area.df.limit"])) := by
    decide +kernel
  obtain ⟨root, hroot⟩ : ∃ root, Sample.catalog.visit? "area" .list Sample.inward [] = some root :=
    Option.isSome_iff_exists.1 (by decide +kernel)
  obtain ⟨node, hnode, hlength⟩ := Option.map_eq_some_iff.1 hnode
  obtain ⟨plan, hplan, hnode⟩ := Option.bind_eq_some_iff.1 hnode
  rw [toOption_eq_some_iff] at hplan
  obtain ⟨visit, hvisit, hlevel⟩ := Option.map_eq_some_iff.1 hlevel
  simp only [Prod.mk.injEq, Option.map_eq_some_iff] at hlevel
  obtain ⟨⟨⟨relation, hvia, htoOne⟩, hname, hlimit⟩, hkeys, hlocated, hsharing⟩ := hlevel
  obtain ⟨hmoves, hunknown⟩ :=
    Document.sameLevel_transparent Sample.resolve_document hplan hnode hroot hvisit hvia htoOne
  obtain ⟨second, moved, level, hsecond, hmoved, -, heq, hperm, -⟩ :=
    hmoves _ _ _ _ _ (rekeys_inward hroot) hname (by decide +kernel) (by decide +kernel)
  have hword : Key.normal "df.limit" = sameLevelWord ++ "." ++ "limit" := by decide +kernel
  obtain ⟨value, hentry⟩ := Table.mem_keys_iff.1 (hkeys.symm ▸ List.mem_cons_self)
  obtain ⟨-, herrors⟩ :=
    hunknown ("df.limit", value) (Table.get?_eq_some_iff.1 hentry) "limit" hword hlimit
  have hfound : (visit.sharing ("df.limit", value)).map (fun other : String × Json =>
      (⟨visit.located other.1, .unknownParameter⟩ : RequestError)) =
        [⟨"area.cabins.area.df.limit", .unknownParameter⟩] := by
    have hmapped := congrArg (List.map (RequestError.mk · .unknownParameter)) hsharing
    rwa [List.map_map] at hmapped
  refine ⟨plan, node, second, moved, hplan, hnode, hsecond, hmoved, heq, hperm, hlength, ?_⟩
  rw [← hlocated, herrors, hfound, hlocated]

/-- A filter that no key can mean is none behind the word either, and then the key before which the
word stands is refused, whatever it would mean otherwise.  And what is wrong with entries is listed
in the order of their keys, the word included. -/
theorem not_transparent_capitals :
    Sample.lodging.resolve = .ok Sample.lodgingCatalog ∧
      (Sample.lodgingCatalog.visit? "cabin" .list {} ["area"]).map (fun visit =>
        (visit.level.via.map (·.isToOne), visit.capability.filters.keys)) =
          some (some true, ["Limit", "beds", "berths"]) ∧
      ((Sample.lodgingPlan [("area.Limit", "5")]).along? ["area"]).map (·.limit) =
        some (some 5) ∧
      ((Sample.lodgingPlan [("area.df.Limit", "5")]).along? ["area"]).map (·.limit) =
        some (some 20) ∧
      (Sample.lodgingPlan [("area.beds", "x"), ("area.berths", "y")]).errors =
        [⟨"cabin.area.beds", .invalidFilterValue "x"⟩,
          ⟨"cabin.area.berths", .invalidFilterValue "y"⟩] ∧
      (Sample.lodgingPlan [("area.df.beds", "x"), ("area.berths", "y")]).errors =
        [⟨"cabin.area.berths", .invalidFilterValue "y"⟩,
          ⟨"cabin.area.df.beds", .invalidFilterValue "x"⟩] := by
  refine ⟨eq_ok_of_isOk {} (by decide +kernel), by decide +kernel, by decide +kernel,
    by decide +kernel, by decide +kernel, by decide +kernel⟩

end RestQuery
