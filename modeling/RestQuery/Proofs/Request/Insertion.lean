import RestQuery.Proofs.Request.Parts

/-!
# One more entry

An entry with a new key takes its place among the others without moving them.  If it takes the
place of no other one, it is not refused and leaves the refusals of the others as they are; and if
it goes to a relation, it is one more entry there.

Main statements: `Params.errors_route_insert`, `Params.getD_relations_insert` and
`Keys.exists_route_eq_withValue`.
-/

namespace RestQuery

namespace Table

variable {table : Table α} {key : String} {value : α}

/-- An entry with a new key is put between two parts of a list. -/
theorem exists_put_eq {entries : List (String × α)} (hnew : entries.lookup key = none) :
    ∃ before after, entries = before ++ after ∧
      put key value entries = before ++ (key, value) :: after := by
  induction entries with
  | nil => exact ⟨[], [], rfl, rfl⟩
  | cons head rest ih =>
      obtain ⟨k, v⟩ := head
      rw [List.lookup_cons] at hnew
      rw [put]
      split
      · exact ⟨[], (k, v) :: rest, rfl, rfl⟩
      next hlt =>
        split
        next =>
          have hrest : rest.lookup key = none := by
            cases hsame : key == k with
            | true =>
                rw [hsame] at hnew
                cases hnew
            | false =>
                rw [hsame] at hnew
                exact hnew
          obtain ⟨before, after, hsplit, hput⟩ := ih hrest
          exact ⟨(k, v) :: before, after, congrArg _ hsplit, congrArg _ hput⟩
        next hgt =>
          obtain rfl := eq_of_not_lt hlt hgt
          simp at hnew

/-- An entry that no later one replaces is the last one to be stored. -/
theorem ofList_append_cons {before after : List (String × α)}
    (hlast : ∀ entry ∈ after, entry.1 ≠ key) :
    ofList (before ++ (key, value) :: after) = (ofList (before ++ after)).insert key value := by
  refine ext_get? fun other => ?_
  rw [get?_insert, get?_ofList, get?_ofList, List.reverse_append, List.reverse_append,
    List.reverse_cons, List.append_assoc, List.lookup_append, List.lookup_append,
    List.lookup_append, List.lookup_cons]
  by_cases hother : other = key
  · have hnone : after.reverse.lookup key = none := by
      rw [List.lookup_eq_none_iff]
      intro entry hentry
      simpa using (hlast entry (List.mem_reverse.1 hentry)).symm
    simp [hother, hnone]
  · have hne : (other == key) = false := beq_eq_false_iff_ne.2 hother
    simp [hother, hne]

end Table

namespace Route

variable {before after : List Route} {route : Route} {taken others : List Place} {place : Place}

/-- Refusals depend only on the places that entries want. -/
theorem refusals_congr {routes : List Route} (htaken : ∀ route ∈ routes,
    ∀ place ∈ route.place?, (place ∈ taken ↔ place ∈ others)) :
    refusals taken routes = refusals others routes := by
  have hfilter := filter_refusals (fun _ => true) (fun route hroute _ => htaken route hroute)
    (fun _ _ _ _ _ hdropped => nomatch hdropped)
  rwa [List.filter_true, List.filter_true] at hfilter

/-- What takes a place that no other entry takes is not refused and leaves the refusals of the
others as they are. -/
theorem refusals_append_cons (hplace : route.place? = some place) (htaken : place ∉ taken)
    (hfree : ∀ other ∈ before ++ after, other.place? ≠ some place) :
    refusals taken (before ++ route :: after) = refusals taken (before ++ after) := by
  induction before generalizing taken with
  | nil =>
      have herror : route.refusal? taken = none := by
        rw [refusal?_eq_error?]
        · cases route <;> first | rfl | cases hplace
        · rintro _ hsame hmem
          exact htaken (Option.some.inj (hplace.symm.trans hsame) ▸ hmem)
      rw [List.nil_append, List.nil_append, refusals, herror, hplace]
      refine refusals_congr fun other hother found hfound => ?_
      rw [Option.toList_some, List.mem_append, List.mem_singleton]
      refine or_iff_left ?_
      rintro rfl
      exact hfree other hother hfound
  | cons first rest ih =>
      have hfirst := hfree first List.mem_cons_self
      rw [List.cons_append, List.cons_append, refusals, refusals, ih]
      · rw [List.mem_append, not_or, Option.mem_toList]
        exact ⟨htaken, hfirst⟩
      · exact fun other hother => hfree other (List.mem_cons_of_mem _ hother)

end Route

namespace Params

variable {params : Params} {keys : Keys} {trace key : String} {value : Json} {place : Place}

theorem exists_insert_eq (hnew : params.get? key = none) (value : Json) :
    ∃ before after, params.entries.entries = before ++ after ∧
      (params.insert key value).entries.entries = before ++ (key, value) :: after :=
  Table.exists_put_eq hnew

/-- No entry of a level takes a place there. -/
def Free (params : Params) (keys : Keys) (trace : String) (place : Place) : Prop :=
  ∀ entry ∈ params.entries.entries, (keys.route trace entry.1 entry.2).place? ≠ some place

/-- An entry that takes a free place raises no error where it goes. -/
theorem errors_route_insert (hnew : params.get? key = none)
    (hplace : (keys.route trace key value).place? = some place)
    (hfree : params.Free keys trace place) :
    ((params.insert key value).route keys trace).errors = (params.route keys trace).errors := by
  obtain ⟨before, after, hentries, hinsert⟩ := exists_insert_eq hnew value
  rw [errors_route, errors_route, hinsert, hentries, List.map_append, List.map_append,
    List.map_cons, Route.refusals_append_cons hplace List.not_mem_nil]
  rw [← List.map_append, ← hentries]
  exact List.forall_mem_map.2 hfree

/-- An entry that goes to a relation, under a key that no other one has there, is one more entry
there. -/
theorem getD_relations_insert {name rest : String} (hnew : params.get? key = none)
    (hrest : (keys.route trace key value).rest? name = some rest)
    (hfree : params.Free keys trace (.nested name rest)) :
    (((params.insert key value).route keys trace).relations.get? name).getD {} =
        ((((params.route keys trace).relations.get? name).getD {}).insert rest value) ∧
      (((params.route keys trace).relations.get? name).getD {}).get? rest = none := by
  have hothers : ∀ entry ∈ params.entries.entries,
      (keys.route trace entry.1 entry.2).rest? name ≠ some rest := by
    intro entry hentry hsame
    obtain ⟨parameter, hroute⟩ := Route.rest?_eq_some_iff.1 hsame
    exact hfree entry hentry (by rw [hroute, Route.place?])
  obtain ⟨before, after, hentries, hinsert⟩ := exists_insert_eq hnew value
  constructor
  · rw [getD_relations_route, getD_relations_route, hinsert, hentries, List.filterMap_append,
      List.filterMap_append, List.filterMap_cons, hrest, Option.map_some,
      Table.ofList_append_cons]
    · rfl
    · intro item hitem hkey
      obtain ⟨entry, hentry, hmap⟩ := List.mem_filterMap.1 hitem
      obtain ⟨found, hfound, rfl⟩ := Option.map_eq_some_iff.1 hmap
      obtain rfl : found = rest := hkey
      exact hothers entry (hentries ▸ List.mem_append_right _ hentry) hfound
  · rw [getD_relations_route, get?, Option.eq_none_iff_forall_not_mem]
    intro found hfound
    obtain ⟨entry, hentry, hmap⟩ := List.mem_filterMap.1 (Table.mem_of_get?_ofList hfound)
    obtain ⟨key, hkey, heq⟩ := Option.map_eq_some_iff.1 hmap
    obtain ⟨rfl, -⟩ := Prod.mk.inj heq
    exact hothers entry hentry hkey

end Params

/-! ## Other values -/

def Route.withValue (rawValue : ParamValue) : Route → Route
  | filter parameter => filter { parameter with rawValue }
  | control parameter => control { parameter with rawValue }
  | relation name rest parameter => relation name rest { parameter with rawValue }
  | refused error => refused error

theorem Route.place?_withValue (rawValue : ParamValue) (route : Route) :
    (route.withValue rawValue).place? = route.place? := by
  cases route <;> rfl

namespace Keys

variable {keys : Keys} {trace key : String} {value other : Json}

theorem routeParameter_withValue (parameter : Parameter) (rawValue : ParamValue) :
    keys.routeParameter { parameter with rawValue } =
      (keys.routeParameter parameter).withValue rawValue := by
  rw [routeParameter, routeParameter]
  dsimp only
  simp only [apply_ite (Route.withValue rawValue)]
  rfl

/-- Where an entry goes depends on its key, whatever value of a parameter it has. -/
theorem exists_route_eq_withValue (hvalue : (ParamValue.ofJson? value).isSome)
    (hother : (ParamValue.ofJson? other).isSome) :
    ∃ rawValue, keys.route trace key value = (keys.route trace key other).withValue rawValue := by
  obtain ⟨given, hgiven⟩ := Option.isSome_iff_exists.1 hvalue
  obtain ⟨second, hsecond⟩ := Option.isSome_iff_exists.1 hother
  refine ⟨given, ?_⟩
  rw [route, route, hgiven, hsecond]
  exact routeParameter_withValue (.ofEntry trace key second) given

/-- The place that an entry takes does not depend on its value. -/
theorem place?_route_eq (hvalue : (ParamValue.ofJson? value).isSome)
    (hother : (ParamValue.ofJson? other).isSome) :
    (keys.route trace key value).place? = (keys.route trace key other).place? := by
  obtain ⟨rawValue, hroute⟩ := exists_route_eq_withValue hvalue hother
  rw [hroute, Route.place?_withValue]

/-- What is not refused has the value of a parameter. -/
theorem isSome_ofJson?_of_place? {place : Place}
    (hplace : (keys.route trace key value).place? = some place) :
    (ParamValue.ofJson? value).isSome := by
  obtain ⟨given, hgiven, -⟩ := exists_value_of_route rfl
    (fun error hrefused => by rw [hrefused] at hplace; cases hplace)
  rw [hgiven, Option.isSome_some]

end Keys

end RestQuery
