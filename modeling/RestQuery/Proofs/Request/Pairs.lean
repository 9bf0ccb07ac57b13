import Mathlib.Data.List.Sort
import RestQuery.Plan.Compile

/-!
# Pairs of a query string in another order

Under each key a query string stores the values that its pairs give for the key, in their order:
none, one text, or an array.  So only the order of pairs with one key counts, and a query string in
which they keep it asks for the same plan.

Main statement: `Params.ofPairs_collects`.
-/

namespace RestQuery.Params

variable {pairs others : List (String × String)} {key : String}

/-! ## The values of a key -/

/-- The values that pairs give for a key, in order. -/
def valuesOf (pairs : List (String × String)) (key : String) : List String :=
  (pairs.filter (·.1 == key)).map Prod.snd

theorem get?_ofPairs_eq_none (hvalues : valuesOf pairs key = []) :
    (ofPairs pairs).get? key = none := by
  rw [get?_ofPairs, ← valuesOf, hvalues]
  rfl

theorem get?_ofPairs_eq_string {value : String} (hvalues : valuesOf pairs key = [value]) :
    (ofPairs pairs).get? key = some (.string value) := by
  rw [get?_ofPairs, ← valuesOf, hvalues]
  rfl

theorem get?_ofPairs_eq_array (hvalues : 2 ≤ (valuesOf pairs key).length) :
    (ofPairs pairs).get? key = some (.array ((valuesOf pairs key).map .string)) := by
  rw [get?_ofPairs, ← valuesOf]
  match valuesOf pairs key, hvalues with
  | _ :: _ :: _, _ => rfl

/-- Query strings with the same values for every key give the same parameters. -/
theorem ofPairs_eq_of_valuesOf (hvalues : ∀ key, valuesOf pairs key = valuesOf others key) :
    ofPairs pairs = ofPairs others := by
  have hentries : (ofPairs pairs).entries = (ofPairs others).entries := by
    refine Table.ext_get? fun key => ?_
    have hget : (ofPairs pairs).get? key = (ofPairs others).get? key := by
      rw [get?_ofPairs, get?_ofPairs, ← valuesOf, hvalues key, valuesOf]
    exact hget
  exact congrArg Params.mk hentries

/-! ## Other orders -/

/-- Pairs in another order, in which those with one key follow each other as before. -/
structure Rearrangement (pairs others : List (String × String)) where
  /-- Where a pair has gone. -/
  place : Fin pairs.length ≃ Fin others.length
  same : ∀ i, others.get (place i) = pairs.get i
  ordered : ∀ i j, i < j → (pairs.get i).1 = (pairs.get j).1 → place i < place j

/-- Where the pairs with a key stand. -/
def placesOf (pairs : List (String × String)) (key : String) : List (Fin pairs.length) :=
  (List.finRange pairs.length).filter fun i => (pairs.get i).1 == key

/-- The places of a key are those at which a pair has it. -/
theorem mem_placesOf {i : Fin pairs.length} : i ∈ placesOf pairs key ↔ (pairs.get i).1 = key := by
  simp [placesOf]

theorem pairwise_placesOf (pairs : List (String × String)) (key : String) :
    (placesOf pairs key).Pairwise (· < ·) :=
  (List.sortedLT_finRange _).pairwise.filter _

/-- The pairs at the places of a key are those with the key, in order. -/
theorem map_get_placesOf (pairs : List (String × String)) (key : String) :
    (placesOf pairs key).map pairs.get = pairs.filter (·.1 == key) := by
  have hfilter := List.filter_map (f := pairs.get) (p := fun pair => pair.1 == key)
    (l := List.finRange pairs.length)
  rw [List.map_get_finRange] at hfilter
  exact hfilter.symm

namespace Rearrangement

variable (moved : Rearrangement pairs others)
include moved

/-- The pairs with a key have gone to the places of the pairs with the key, in order. -/
theorem map_placesOf (key : String) :
    (placesOf pairs key).map moved.place = placesOf others key := by
  have hordered : ((placesOf pairs key).map moved.place).Pairwise (· < ·) := by
    rw [List.pairwise_map]
    refine (pairwise_placesOf pairs key).imp_of_mem fun hfirst hsecond hlt => ?_
    exact moved.ordered _ _ hlt ((mem_placesOf.1 hfirst).trans (mem_placesOf.1 hsecond).symm)
  refine hordered.eq_of_mem_iff (pairwise_placesOf others key) fun there => ?_
  rw [List.mem_map, mem_placesOf]
  constructor
  · rintro ⟨i, hi, rfl⟩
    rw [moved.same, mem_placesOf.1 hi]
  · intro hthere
    refine ⟨moved.place.symm there, mem_placesOf.2 ?_, moved.place.apply_symm_apply there⟩
    rw [← moved.same, moved.place.apply_symm_apply, hthere]

/-- A rearrangement leaves the values of each key in their order. -/
theorem valuesOf_eq (key : String) : valuesOf pairs key = valuesOf others key := by
  have hpairs : pairs.filter (·.1 == key) = others.filter (·.1 == key) := by
    rw [← map_get_placesOf, ← map_get_placesOf, ← moved.map_placesOf, List.map_map]
    exact List.map_congr_left fun i _ => (moved.same i).symm
  rw [valuesOf, valuesOf, hpairs]

end Rearrangement

/-- Under a key a query string stores nothing if no pair has the key, the text of the only pair that
has it, and otherwise the array of the texts of all that have it, in order.  Pairs in another order
give the same parameters and the same plans if those with one key keep their order. -/
theorem ofPairs_collects :
    (∀ pairs key,
      (valuesOf pairs key = [] → (ofPairs pairs).get? key = none) ∧
      (∀ value, valuesOf pairs key = [value] →
        (ofPairs pairs).get? key = some (.string value)) ∧
      (2 ≤ (valuesOf pairs key).length →
        (ofPairs pairs).get? key = some (.array ((valuesOf pairs key).map .string)))) ∧
    ∀ pairs others, Nonempty (Rearrangement pairs others) →
      ofPairs pairs = ofPairs others ∧
      ∀ (catalog : Catalog) (resource : String) (target : Target),
        catalog.plan resource target (ofPairs pairs) =
          catalog.plan resource target (ofPairs others) := by
  constructor
  · exact fun pairs key => ⟨get?_ofPairs_eq_none, fun value => get?_ofPairs_eq_string,
      get?_ofPairs_eq_array⟩
  · rintro pairs others ⟨moved⟩
    have hsame : ofPairs pairs = ofPairs others := ofPairs_eq_of_valuesOf moved.valuesOf_eq
    refine ⟨hsame, fun catalog resource target => ?_⟩
    rw [hsame]

/-- Three dates with a name among them, and with the name before them. -/
theorem ofPairs_collects_dates :
    (ofPairs [("date", "a"), ("name", "x"), ("date", "b"), ("date", "a")]).get? "date" =
      some (.array [.string "a", .string "b", .string "a"]) ∧
    ofPairs [("date", "a"), ("name", "x"), ("date", "b"), ("date", "a")] =
      ofPairs [("name", "x"), ("date", "a"), ("date", "b"), ("date", "a")] := by
  obtain ⟨hstores, hmoves⟩ := ofPairs_collects
  constructor
  · have harray := (hstores [("date", "a"), ("name", "x"), ("date", "b"), ("date", "a")] "date").2.2
    exact harray (by decide)
  · have hmoved : Nonempty (Rearrangement
        [("date", "a"), ("name", "x"), ("date", "b"), ("date", "a")]
        [("name", "x"), ("date", "a"), ("date", "b"), ("date", "a")]) :=
      ⟨⟨Equiv.swap 0 1, by decide, by decide⟩⟩
    exact (hmoves _ _ hmoved).1

end RestQuery.Params
