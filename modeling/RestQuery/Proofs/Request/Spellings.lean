import Mathlib.Data.List.Nodup
import Mathlib.Data.List.Perm.Basic
import RestQuery.Proofs.Request.Parts

/-!
# Spellings of keys

Where an entry goes depends on the normal form of its key; only the rest of a key that goes to a
relation keeps its spelling, until the level of the relation reads it.  Entries with other
spellings stand in another order, and so do the parts of their routing.

Main statements: `Params.Respells.filters_route`, `Params.Respells.control?_route`,
`Params.Respells.errors_route` and `Params.Respells.nested`.
-/

namespace RestQuery

/-! ## Lists in another order -/

/-- What depends on the look of items only is found in lists that look alike, in some order. -/
theorem filterMap_perm_of_map {look : α → γ} {f : α → Option β} (hlook : f.FactorsThrough look)
    {lefts rights : List α} (hperm : (lefts.map look).Perm (rights.map look)) :
    (lefts.filterMap f).Perm (rights.filterMap f) := by
  have hfactor : ∀ items : List α,
      (items.map look).filterMap (look.extend f fun _ => none) = items.filterMap f := by
    intro items
    rw [List.filterMap_map, hlook.extend_comp]
  rw [← hfactor, ← hfactor]
  exact hperm.filterMap _

/-- What is unique in a list is found in every order. -/
theorem find?_eq_of_perm {wanted : α → Bool} {lefts rights : List α} (hperm : lefts.Perm rights)
    (hunique : ∀ left ∈ lefts, ∀ right ∈ lefts, wanted left = true → wanted right = true →
      left = right) : lefts.find? wanted = rights.find? wanted := by
  cases hfind : lefts.find? wanted with
  | none =>
      rw [List.find?_eq_none] at hfind
      exact (List.find?_eq_none.2 fun right hright => hfind right (hperm.mem_iff.2 hright)).symm
  | some left =>
      have hleft := List.mem_of_find?_eq_some hfind
      have hwanted := List.find?_some hfind
      obtain ⟨right, hright⟩ := Option.isSome_iff_exists.1
        (List.find?_isSome.2 ⟨left, hperm.mem_iff.1 hleft, hwanted⟩)
      have hmem := hperm.mem_iff.2 (List.mem_of_find?_eq_some hright)
      rw [hright, hunique left hleft right hmem hwanted (List.find?_some hright)]

/-- A table of entries with different keys holds all of them. -/
theorem Table.perm_ofList {entries : List (String × α)} (hkeys : (entries.map Prod.fst).Nodup) :
    (ofList entries).entries.Perm entries := by
  refine (List.perm_ext_iff_of_nodup (nodup_entries _) hkeys.of_map).2 fun ⟨key, value⟩ => ?_
  rw [← get?_eq_some_iff]
  refine ⟨mem_of_get?_ofList, fun hmem => ?_⟩
  obtain ⟨found, hfound⟩ := Option.isSome_iff_exists.1 (isSome_get?_ofList hmem)
  have hsame := List.inj_on_of_nodup_map hkeys (mem_of_get?_ofList hfound) hmem rfl
  rw [hfound, (Prod.mk.inj hsame).2]

/-! ## Without the spelling -/

namespace Route

def bare : Route → Route
  | filter parameter => filter parameter.bare
  | control parameter => control parameter.bare
  | relation name rest parameter => relation name (Key.normal rest) parameter.bare
  | refused error => refused error

variable {route : Route} {name : String}

theorem filter?_bare : route.bare.filter? = route.filter?.map Parameter.bare := by
  cases route <;> rfl

theorem control?_bare : route.bare.control? = route.control?.map Parameter.bare := by
  cases route <;> rfl

theorem error?_bare : route.bare.error? = route.error? := by
  cases route <;> rfl

theorem rest?_bare : route.bare.rest? name = (route.rest? name).map Key.normal := by
  cases route with
  | relation other rest parameter => by_cases hname : other = name <;> simp [bare, rest?, hname]
  | filter parameter => rfl
  | control parameter => rfl
  | refused error => rfl

end Route

/-- Behind the first segment of a key that has more than one there are others. -/
theorem Key.tail_segments_ne_nil {key : String} (hlength : (normalSegments key).length ≠ 1) :
    (segments key).tail ≠ [] := by
  rw [length_normalSegments] at hlength
  intro hnil
  have hzero := congrArg List.length hnil
  have hpos : (segments key).length ≠ 0 := by simp [segments]
  rw [List.length_tail, List.length_nil] at hzero
  omega

namespace Keys

variable {keys : Keys} {trace key other : String}

/-- Where a parameter goes depends on its key in normal form only. -/
theorem bare_routeParameter {parameter given : Parameter} (hbare : parameter.bare = given.bare)
    (hrest : given.keys.length ≠ 1 → Key.normal (Key.ofSegments parameter.rawKeys.tail) =
      Key.normal (Key.ofSegments given.rawKeys.tail)) :
    (keys.routeParameter parameter).bare = (keys.routeParameter given).bare := by
  have hkeys : parameter.keys = given.keys := congrArg (·.keys) hbare
  have herror : ∀ problem, parameter.error problem = given.error problem :=
    fun problem => congrArg (·.error problem) hbare
  have hfirst : parameter.firstKey = given.firstKey := congrArg (·.firstKey) hbare
  have hkey : parameter.key = given.key := congrArg (·.key) hbare
  have hown : ({ parameter with keys := given.keys.tail } : Parameter).bare =
      { given with keys := given.keys.tail }.bare :=
    congrArg (fun bare : Parameter => { bare with keys := given.keys.tail }) hbare
  have hownKey : ({ parameter with keys := given.keys.tail } : Parameter).key =
      { given with keys := given.keys.tail }.key := rfl
  -- Both routes are chosen by the same tests; only the rest of the key is left to compare.
  simp only [routeParameter, hkeys, hfirst, hkey, hownKey, herror]
  simp only [apply_ite Route.bare]
  simp only [Route.bare, hown, hbare]
  by_cases hlength : given.keys.length = 1
  · simp only [if_pos hlength]
  · rw [hrest hlength]

/-- Where an entry goes depends on the normal form of its key. -/
theorem bare_route (hkey : Key.normal key = Key.normal other) (value : Json) :
    (keys.route trace key value).bare = (keys.route trace other value).bare := by
  have hsegments : Key.normalSegments key = Key.normalSegments other := by
    rw [← Key.segments_normal, hkey, Key.segments_normal]
  rw [route, route]
  cases ParamValue.ofJson? value with
  | none => rw [hkey]
  | some given =>
      refine bare_routeParameter ?_ fun hlength => ?_
      · simp only [Parameter.bare, Parameter.ofEntry, hsegments, hkey]
      · have hsecond : (Key.segments other).tail ≠ [] := Key.tail_segments_ne_nil hlength
        have hfirst : (Key.segments key).tail ≠ [] :=
          Key.tail_segments_ne_nil (hsegments ▸ hlength)
        dsimp only [Parameter.rawKeys, Parameter.ofEntry]
        rw [Key.normal, Key.normal, Key.normalSegments_tail hfirst,
          Key.normalSegments_tail hsecond, hsegments]

end Keys

/-! ## Parameters in other spellings -/

namespace Params

/-- What an entry says: its key in normal form and its value. -/
def meaning (entry : String × Json) : String × Json := (Key.normal entry.1, entry.2)

/-- What the entries say. -/
def meanings (params : Params) : List (String × Json) := params.entries.entries.map meaning

/-- Parameters say the same as others in other spellings, and nothing twice. -/
structure Respells (params others : Params) : Prop where
  perm : params.meanings.Perm others.meanings
  distinct : (params.entries.keys.map Key.normal).Nodup

variable {params others : Params} {keys : Keys} {trace : String}

/-- Where an entry goes depends on what it says only. -/
theorem route_factorsThrough (keys : Keys) (trace : String) :
    Function.FactorsThrough (fun entry : String × Json => (keys.route trace entry.1 entry.2).bare)
      meaning := by
  intro entry other hmeaning
  obtain ⟨hkey, hvalue⟩ := Prod.mk.inj hmeaning
  dsimp only
  rw [hvalue]
  exact Keys.bare_route hkey other.2

theorem map_fst_meanings (params : Params) :
    params.meanings.map Prod.fst = params.entries.keys.map Key.normal := by
  rw [meanings, Table.keys, List.map_map, List.map_map]
  rfl

namespace Respells

theorem symm (hrespells : params.Respells others) : others.Respells params := by
  refine ⟨hrespells.perm.symm, ?_⟩
  have hkeys := hrespells.perm.map Prod.fst
  rw [map_fst_meanings, map_fst_meanings] at hkeys
  exact hkeys.nodup_iff.1 hrespells.distinct

theorem pairwise (hrespells : params.Respells others) :
    params.entries.entries.Pairwise fun entry other =>
      Key.normal entry.1 ≠ Key.normal other.1 := by
  have hdistinct := hrespells.distinct
  rw [Table.keys, List.map_map] at hdistinct
  exact List.pairwise_map.1 hdistinct

/-- No two entries of respelled parameters have one key in normal form. -/
theorem eq_of_normal (hrespells : params.Respells others) {entry other : String × Json}
    (hentry : entry ∈ params.entries.entries) (hother : other ∈ params.entries.entries)
    (hnormal : Key.normal entry.1 = Key.normal other.1) : entry = other := by
  have hdistinct := hrespells.distinct
  rw [Table.keys, List.map_map] at hdistinct
  exact List.inj_on_of_nodup_map hdistinct hentry hother hnormal

/-- What only depends on where entries go, but for spelling, is found in some order. -/
theorem filterMap_perm (hrespells : params.Respells others) (pick : Route → Option α) :
    (params.entries.entries.filterMap fun entry =>
        pick (keys.route trace entry.1 entry.2).bare).Perm
      (others.entries.entries.filterMap fun entry =>
        pick (keys.route trace entry.1 entry.2).bare) :=
  filterMap_perm_of_map (fun _ _ hmeaning =>
    congrArg pick (route_factorsThrough keys trace hmeaning)) hrespells.perm

theorem filters_route (hrespells : params.Respells others) :
    ((params.route keys trace).filters.map Parameter.bare).Perm
      ((others.route keys trace).filters.map Parameter.bare) := by
  have hbare : ∀ params : Params, (params.route keys trace).filters.map Parameter.bare =
      params.entries.entries.filterMap fun entry =>
        (keys.route trace entry.1 entry.2).bare.filter? := by
    intro params
    rw [Params.filters_route, List.map_filterMap]
    exact List.filterMap_congr fun entry _ => Route.filter?_bare.symm
  rw [hbare, hbare]
  exact hrespells.filterMap_perm _

theorem control?_route (hrespells : params.Respells others) (control : Control) :
    ((params.route keys trace).control? control).map Parameter.bare =
      ((others.route keys trace).control? control).map Parameter.bare := by
  have hbare : ∀ params : Params, ((params.route keys trace).control? control).map
      Parameter.bare = (params.entries.entries.filterMap fun entry =>
        (keys.route trace entry.1 entry.2).bare.control?).find? (·.key == control.name) := by
    intro params
    have hcontrols : (params.entries.entries.filterMap fun entry =>
        (keys.route trace entry.1 entry.2).bare.control?) =
          (params.entries.entries.filterMap fun entry =>
            (keys.route trace entry.1 entry.2).control?).map Parameter.bare := by
      rw [List.map_filterMap]
      exact List.filterMap_congr fun entry _ => Route.control?_bare
    rw [Params.control?_route, hcontrols, List.find?_map]
    rfl
  rw [hbare, hbare]
  refine find?_eq_of_perm (hrespells.filterMap_perm _) fun left hleft right hright hkey hother => ?_
  -- Controls of one name come from entries of one key in normal form, and there is only one.
  have hnormal : ∀ {entry : String × Json} {parameter : Parameter},
      (keys.route trace entry.1 entry.2).bare.control? = some parameter →
        parameter.key = Key.normal entry.1 := by
    intro entry parameter hcontrol
    rw [Route.control?_bare] at hcontrol
    obtain ⟨given, hgiven, rfl⟩ := Option.map_eq_some_iff.1 hcontrol
    exact (Keys.key_of_control? hgiven).1
  obtain ⟨entry, hentry, hcontrol⟩ := List.mem_filterMap.1 hleft
  obtain ⟨next, hnext, hagain⟩ := List.mem_filterMap.1 hright
  have hsame : entry = next := by
    refine hrespells.eq_of_normal hentry hnext ?_
    rw [← hnormal hcontrol, ← hnormal hagain, beq_iff_eq.1 hkey, beq_iff_eq.1 hother]
  rw [hsame, hagain] at hcontrol
  exact (Option.some.inj hcontrol).symm

theorem errors_route (hrespells : params.Respells others) :
    (params.route keys trace).errors.Perm (others.route keys trace).errors := by
  have hbare : ∀ {params others : Params}, params.Respells others →
      (params.route keys trace).errors = params.entries.entries.filterMap fun entry =>
        (keys.route trace entry.1 entry.2).bare.error? := by
    intro params others hrespells
    have hplaces : ([] ++ (params.entries.entries.map fun entry : String × Json =>
        keys.route trace entry.1 entry.2).filterMap Route.place?).Nodup := by
      rw [List.nil_append, List.filterMap_map]
      refine hrespells.pairwise.filterMap _ fun entry other hnormal place hplace next hnext => ?_
      rintro rfl
      exact hnormal ((Keys.normal_of_place? hplace).trans (Keys.normal_of_place? hnext).symm)
    rw [Params.errors_route, Route.refusals_of_nodup hplaces, List.map_filterMap,
      List.filterMap_map]
    refine List.filterMap_congr fun entry _ => ?_
    rw [Function.comp_apply, Route.error?_bare, Option.map_map]
    exact Option.map_id'
  rw [hbare hrespells, hbare hrespells.symm]
  exact hrespells.filterMap_perm _

/-- The parameters for a relation say the same in other spellings, too. -/
theorem nested (hrespells : params.Respells others) (name : String) :
    (((params.route keys trace).relations.get? name).getD {}).Respells
      (((others.route keys trace).relations.get? name).getD {}) := by
  let rests (params : Params) : List (String × Json) :=
    params.entries.entries.filterMap fun entry =>
      ((keys.route trace entry.1 entry.2).rest? name).map (·, entry.2)
  have hdistinct : ∀ {params others : Params}, params.Respells others →
      (((rests params).map Prod.fst).map Key.normal).Nodup := by
    intro params others hrespells
    have hnormals : ((rests params).map Prod.fst).map Key.normal =
        params.entries.entries.filterMap fun entry =>
          ((keys.route trace entry.1 entry.2).rest? name).map Key.normal := by
      rw [List.map_map, List.map_filterMap]
      refine List.filterMap_congr fun entry _ => ?_
      rw [Option.map_map]
      rfl
    rw [hnormals]
    refine hrespells.pairwise.filterMap _ fun entry other hnormal first hfirst second hsecond => ?_
    obtain ⟨rest, hrest, rfl⟩ := Option.map_eq_some_iff.1 hfirst
    obtain ⟨more, hmore, rfl⟩ := Option.map_eq_some_iff.1 hsecond
    obtain ⟨parameter, hroute⟩ := Route.rest?_eq_some_iff.1 hrest
    obtain ⟨given, hgiven⟩ := Route.rest?_eq_some_iff.1 hmore
    intro hsame
    rw [Keys.normal_of_route hroute, Keys.normal_of_route hgiven, hsame] at hnormal
    exact hnormal rfl
  have hkeys : ∀ {params others : Params}, params.Respells others →
      (Table.ofList (rests params)).entries.Perm (rests params) :=
    fun hrespells => Table.perm_ofList (hdistinct hrespells).of_map
  have hmeanings : ∀ params : Params, (rests params).map meaning =
      params.entries.entries.filterMap fun entry =>
        ((keys.route trace entry.1 entry.2).bare.rest? name).map (·, entry.2) := by
    intro params
    rw [List.map_filterMap]
    refine List.filterMap_congr fun entry _ => ?_
    rw [Route.rest?_bare, Option.map_map, Option.map_map]
    rfl
  rw [getD_relations_route, getD_relations_route]
  refine ⟨?_, ?_⟩
  · have hperm : ((rests params).map meaning).Perm ((rests others).map meaning) := by
      rw [hmeanings, hmeanings]
      refine filterMap_perm_of_map (fun entry other hmeaning => ?_) hrespells.perm
      have hroute := route_factorsThrough keys trace hmeaning
      dsimp only at hroute ⊢
      rw [hroute, (Prod.mk.inj hmeaning).2]
    exact (((hkeys hrespells).map meaning).trans hperm).trans
      ((hkeys hrespells.symm).map meaning).symm
  · exact (((hkeys hrespells).map Prod.fst).map Key.normal).nodup_iff.2 (hdistinct hrespells)

end Respells

end Params

end RestQuery
