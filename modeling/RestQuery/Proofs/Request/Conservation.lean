import Mathlib.Algebra.GroupWithZero.Nat
import Mathlib.Algebra.Order.BigOperators.Group.List
import Mathlib.Algebra.Order.Group.Nat
import Mathlib.Data.List.Nodup
import RestQuery.Proofs.Request.Parts

/-!
# What becomes of the entries of a level

Routing loses no entry and counts none twice.  An entry is put aside as a filter or as a control,
it is handed on to a relation, or it is reported; one that takes the place of another one at a
relation is both stored and reported, and the other one makes up for it.

Main statement: `Params.route_accounts`.
-/

namespace RestQuery

namespace Table

variable {α : Type} {table : Table α} {key : String}

theorem perm_insert (table : Table α) (key : String) (value : α) :
    (table.insert key value).entries.Perm ((key, value) :: (table.erase key).entries) := by
  have herased : ∀ other, (key, other) ∉ (table.erase key).entries := by
    intro other hmem
    have hget := get?_eq_some_iff.2 hmem
    simp at hget
  refine (List.perm_ext_iff_of_nodup (nodup_entries _)
    (List.nodup_cons.2 ⟨herased value, nodup_entries _⟩)).2 fun ⟨name, found⟩ => ?_
  rw [← get?_eq_some_iff, get?_insert, List.mem_cons, ← get?_eq_some_iff, get?_erase]
  by_cases hname : name = key
  · simp [hname, eq_comm]
  · simp [hname]

theorem insert_eq_self {value : α} (hget : table.get? key = some value) :
    table.insert key value = table := by
  refine ext_get? fun other => ?_
  rw [get?_insert]
  split
  next hother => rw [hother, hget]
  next => rfl

theorem erase_eq_self (hget : table.get? key = none) : table.erase key = table := by
  refine ext_get? fun other => ?_
  rw [get?_erase]
  split
  next hother => rw [hother, hget]
  next => rfl

/-- The values of a table put together, each by its weight. -/
def total (weigh : α → Nat) (table : Table α) : Nat := (table.values.map weigh).sum

/-- A value that is stored counts, and the one that it replaces no longer does. -/
theorem total_insert_eq (weigh : α → Nat) (table : Table α) (key : String) (value : α) :
    (table.insert key value).total weigh = weigh value + (table.erase key).total weigh := by
  have hperm := ((table.perm_insert key value).map Prod.snd).map weigh
  rw [total, values, hperm.sum_eq, List.map_cons, List.map_cons, List.sum_cons]
  rfl

/-- Storing a value adds its weight and takes away that of the value it replaces. -/
theorem total_insert (weigh : α → Nat) (table : Table α) (key : String) (value : α) :
    (table.insert key value).total weigh + ((table.get? key).map weigh).getD 0 =
      table.total weigh + weigh value := by
  rw [total_insert_eq]
  cases hget : table.get? key with
  | none =>
      rw [erase_eq_self hget, Option.map_none, Option.getD_none]
      omega
  | some old =>
      have hold := table.total_insert_eq weigh key old
      rw [insert_eq_self hget] at hold
      rw [Option.map_some, Option.getD_some]
      omega

theorem size_eq_total (table : Table α) : table.size = table.total fun _ => 1 := by
  rw [total, List.map_const', List.sum_replicate, values, List.length_map, size,
    Nat.nsmul_eq_mul, Nat.mul_one]

/-- Storing a value makes a table longer unless the key had one. -/
theorem size_insert (table : Table α) (key : String) (value : α) :
    (table.insert key value).size + (if table.contains key then 1 else 0) = table.size + 1 := by
  have htotal := total_insert (fun _ => 1) table key value
  rw [size_eq_total, size_eq_total, contains]
  cases hget : table.get? key with
  | none => simpa [hget] using htotal
  | some old => simpa [hget] using htotal

end Table

namespace Routed

/-- How much has been put aside, handed on and reported. -/
def count (routed : Routed) : Nat :=
  routed.filters.length + routed.controls.size + routed.relations.total (·.entries.size) +
    routed.errors.length

/-- An entry counts once, wherever it goes. -/
theorem count_add (routed : Routed) (value : Json) (route : Route) :
    (routed.add value route).count = routed.count + 1 := by
  cases route with
  | filter parameter =>
      simp only [Routed.add, count, List.length_append, List.length_singleton]
      omega
  | control parameter =>
      rw [Routed.add]
      split
      next =>
        simp only [count, refuse, List.length_append, List.length_singleton]
        omega
      next hnew =>
        have hsize := routed.controls.size_insert parameter.key parameter
        rw [if_neg hnew] at hsize
        simp only [count]
        omega
  | relation name rest parameter =>
      -- A bucket grows by one entry, or keeps its size and the entry is reported.
      have hbucket := ((routed.relations.get? name).getD {}).entries.size_insert rest value
      have htotal := routed.relations.total_insert (fun bucket => bucket.entries.size) name
        (((routed.relations.get? name).getD {}).insert rest value)
      have hold : ((routed.relations.get? name).map fun bucket => bucket.entries.size).getD 0 =
          ((routed.relations.get? name).getD {}).entries.size := by
        cases routed.relations.get? name <;> rfl
      simp only [hold, Params.insert] at htotal
      rw [Routed.add]
      split
      next hcontains =>
        rw [if_pos hcontains] at hbucket
        simp only [count, refuse, List.length_append, List.length_singleton, Params.insert]
        omega
      next hnew =>
        rw [if_neg hnew] at hbucket
        simp only [count, Params.insert]
        omega
  | refused error =>
      simp only [Routed.add, count, refuse, List.length_append, List.length_singleton]
      omega

/-- Every entry counts once: it is put aside, handed on or reported. -/
theorem count_addAll (route : String × Json → Route) (entries : List (String × Json))
    (routed : Routed) : (routed.addAll route entries).count = routed.count + entries.length := by
  induction entries generalizing routed with
  | nil => rfl
  | cons entry rest ih =>
      rw [addAll, List.foldl_cons, ← addAll, ih, count_add, List.length_cons]
      omega

end Routed

theorem Params.count_route (params : Params) (keys : Keys) (trace : String) :
    (params.route keys trace).count = params.entries.size :=
  calc (params.route keys trace).count
      = ({} : Routed).count + params.entries.entries.length :=
        Routed.count_addAll (fun entry => keys.route trace entry.1 entry.2) _ {}
    _ = params.entries.size := Nat.zero_add _

/-! ## Parameters and their entries -/

/-- Whatever is picked from entries under their keys stands there in the order of the entries. -/
theorem sublist_filterMap {pick : String × α → Option β} {key : β → String}
    (hkey : ∀ entry picked, pick entry = some picked → key picked = entry.1)
    (entries : List (String × α)) :
    ((entries.filterMap pick).map key).Sublist (entries.map Prod.fst) := by
  induction entries with
  | nil => exact .slnil
  | cons entry rest ih =>
      rw [List.map_cons]
      cases hpick : pick entry with
      | none =>
          rw [List.filterMap_cons_none hpick]
          exact ih.cons _
      | some picked =>
          rw [List.filterMap_cons_some hpick, List.map_cons, hkey entry picked hpick]
          exact ih.cons_cons _

namespace Keys

variable {keys : Keys} {trace rawKey : String} {rawValue : Json} {parameter : Parameter}

theorem given_of_filter (hroute : keys.route trace rawKey rawValue = .filter parameter) :
    parameter.rawKey = rawKey ∧ ParamValue.ofJson? rawValue = some parameter.rawValue := by
  obtain ⟨value, hvalue, hparameter⟩ := exists_value_of_route hroute nofun
  rw [filter_of_routeParameter hparameter]
  exact ⟨rfl, hvalue⟩

theorem given_of_control (hroute : keys.route trace rawKey rawValue = .control parameter) :
    parameter.rawKey = rawKey ∧ ParamValue.ofJson? rawValue = some parameter.rawValue := by
  obtain ⟨value, hvalue, hparameter⟩ := exists_value_of_route hroute nofun
  obtain ⟨rfl, -⟩ := control_of_routeParameter hparameter
  exact ⟨rfl, hvalue⟩

end Keys

namespace Params

variable {params : Params} {keys : Keys} {trace : String} {parameter : Parameter}

theorem get?_of_mem_filters (hmem : parameter ∈ (params.route keys trace).filters) :
    ∃ value, params.get? parameter.rawKey = some value ∧
      keys.route trace parameter.rawKey value = .filter parameter := by
  obtain ⟨entry, hentry, hroute⟩ := (params.route_stems keys trace).filters parameter hmem
  obtain ⟨hkey, -⟩ := Keys.given_of_filter hroute
  exact ⟨entry.2, hkey ▸ Table.get?_eq_some_iff.2 hentry, hkey ▸ hroute⟩

theorem get?_of_mem_controls (hmem : parameter ∈ (params.route keys trace).controls.values) :
    ∃ value, params.get? parameter.rawKey = some value ∧
      keys.route trace parameter.rawKey value = .control parameter := by
  obtain ⟨⟨name, other⟩, hstored, rfl⟩ := List.mem_map.1 hmem
  obtain ⟨-, entry, hentry, hroute⟩ :=
    (params.route_stems keys trace).controls (Table.get?_eq_some_iff.2 hstored)
  obtain ⟨hkey, -⟩ := Keys.given_of_control hroute
  exact ⟨entry.2, hkey ▸ Table.get?_eq_some_iff.2 hentry, hkey ▸ hroute⟩

variable (params keys trace)

theorem nodup_rawKeys_filters :
    ((params.route keys trace).filters.map Parameter.rawKey).Nodup := by
  rw [filters_route]
  refine (sublist_filterMap (fun entry parameter hpick => ?_) params.entries.entries).nodup
    params.entries.keys_nodup
  cases hroute : keys.route trace entry.1 entry.2 with
  | filter other =>
      rw [hroute] at hpick
      obtain rfl := Option.some.inj hpick
      exact (Keys.given_of_filter hroute).1
  | control other => simp [hroute, Route.filter?] at hpick
  | relation name rest other => simp [hroute, Route.filter?] at hpick
  | refused error => simp [hroute, Route.filter?] at hpick

/-- Controls are kept by their keys in normal form, so raw keys of different ones differ, too. -/
theorem nodup_rawKeys_controls :
    ((params.route keys trace).controls.values.map Parameter.rawKey).Nodup := by
  have hstems := params.route_stems keys trace
  have hnormal : ((params.route keys trace).controls.values.map Parameter.rawKey).map
      Key.normal = (params.route keys trace).controls.keys := by
    rw [Table.values, Table.keys, List.map_map, List.map_map]
    refine List.map_congr_left fun entry hmem => ?_
    obtain ⟨hname, given, -, hroute⟩ := hstems.controls (Table.get?_eq_some_iff.2 hmem)
    obtain ⟨hkey, -⟩ := Keys.key_of_control? (congrArg Route.control? hroute)
    obtain ⟨hraw, -⟩ := Keys.given_of_control hroute
    calc Key.normal entry.2.rawKey
        = entry.2.key := by rw [hraw, hkey]
      _ = entry.1 := hname
  exact List.Nodup.of_map Key.normal (hnormal ▸ Table.keys_nodup _)

/-- No two parameters that stay at a level have a key in common. -/
theorem nodup_rawKeys :
    (((params.route keys trace).filters ++ (params.route keys trace).controls.values).map
      Parameter.rawKey).Nodup := by
  rw [List.map_append, List.nodup_append]
  refine ⟨params.nodup_rawKeys_filters keys trace, params.nodup_rawKeys_controls keys trace, ?_⟩
  -- One entry has one route, so it is not both.
  intro rawKey hleft other hright heq
  obtain ⟨filter, hfilter, rfl⟩ := List.mem_map.1 hleft
  obtain ⟨control, hcontrol, rfl⟩ := List.mem_map.1 hright
  obtain ⟨value, hvalue, hroute⟩ := get?_of_mem_filters hfilter
  obtain ⟨found, hfound, hsame⟩ := get?_of_mem_controls hcontrol
  rw [heq, hfound] at hvalue
  rw [heq, ← Option.some.inj hvalue, hsame] at hroute
  cases hroute

end Params

/-! ## Entries that are handed on -/

/-- What a relation is given under a key is the value of an entry whose first segment names the
relation and whose other segments make the key. -/
theorem Params.exists_of_get?_relations {params : Params} {keys : Keys} {trace : String}
    {name rest : String} {bucket : Params} {value : Json}
    (hbucket : (params.route keys trace).relations.get? name = some bucket)
    (hvalue : bucket.get? rest = some value) :
    ∃ rawKey first others, params.get? rawKey = some value ∧
      Key.segments rawKey = first :: others ∧ others ≠ [] ∧
      Key.normalSegment first = name ∧ Key.ofSegments others = rest := by
  have hentries := params.getD_relations_route keys trace name
  rw [hbucket, Option.getD_some] at hentries
  rw [hentries] at hvalue
  obtain ⟨⟨rawKey, given⟩, hentry, hpicked⟩ :=
    List.mem_filterMap.1 (Table.mem_of_get?_ofList hvalue)
  obtain ⟨key, hrest, heq⟩ := Option.map_eq_some_iff.1 hpicked
  obtain ⟨rfl, rfl⟩ := Prod.mk.inj heq
  obtain ⟨parameter, hroute⟩ := Route.rest?_eq_some_iff.1 hrest
  obtain ⟨read, -, hparameter⟩ := Keys.exists_value_of_route hroute nofun
  obtain ⟨-, hname, hlong, hkey, -⟩ := Keys.relation_of_routeParameter hparameter
  cases hsegments : Key.segments rawKey with
  | nil => exact absurd hsegments (Text.split_ne_nil _ _)
  | cons first others =>
      refine ⟨rawKey, first, others, Table.get?_eq_some_iff.2 hentry, hsegments, ?_, ?_, ?_⟩
      · rintro rfl
        refine hlong ?_
        simp [Parameter.ofEntry, hsegments]
      · rw [hname]
        simp [Parameter.firstKey, Parameter.ofEntry, Key.normalSegments, hsegments]
      · rw [hkey]
        simp [Parameter.rawKeys, Parameter.ofEntry, hsegments]

/-! ## The account of a level -/

/-- The segments of a parameter's key as given are those in normal form one by one, and there is a
first one. -/
structure Parameter.Aligned (parameter : Parameter) : Prop where
  keys_eq : parameter.keys = parameter.rawKeys.map Key.normalSegment
  segments_key : Key.segments parameter.key = parameter.keys
  pos : 0 < parameter.rawKeys.length

theorem Parameter.aligned_ofEntry (trace rawKey : String) (value : ParamValue) :
    (ofEntry trace rawKey value).Aligned where
  keys_eq := rfl
  segments_key := Key.segments_normal rawKey
  pos := List.length_pos_iff.2 (Text.split_ne_nil _ _)

/-- What becomes of the parameters of a level: each entry counts once, and whatever is put aside
or handed on is what an entry of its own holds. -/
structure Routed.Accounts (params : Params) (trace : String) (routed : Routed) : Prop where
  size : params.entries.size =
    routed.filters.length + routed.controls.size +
      (routed.relations.values.map fun bucket => bucket.entries.size).sum + routed.errors.length
  given : ∀ parameter ∈ routed.filters ++ routed.controls.values,
    ∃ value, params.get? parameter.rawKey = some value ∧
      ParamValue.ofJson? value = some parameter.rawValue
  own : ((routed.filters ++ routed.controls.values).map Parameter.rawKey).Nodup
  handedOn : ∀ {name bucket rest value}, routed.relations.get? name = some bucket →
    bucket.get? rest = some value →
    ∃ rawKey first others, params.get? rawKey = some value ∧
      Key.segments rawKey = first :: others ∧ others ≠ [] ∧
      Key.normalSegment first = name ∧ Key.ofSegments others = rest
  aligned : ∀ rawKey value, (Parameter.ofEntry trace rawKey value).Aligned

theorem Params.route_accounts (params : Params) (keys : Keys) (trace : String) :
    (params.route keys trace).Accounts params trace where
  size := (params.count_route keys trace).symm
  given parameter hmem := by
    rcases List.mem_append.1 hmem with hfilter | hcontrol
    · obtain ⟨value, hvalue, hroute⟩ := get?_of_mem_filters hfilter
      exact ⟨value, hvalue, (Keys.given_of_filter hroute).2⟩
    · obtain ⟨value, hvalue, hroute⟩ := get?_of_mem_controls hcontrol
      exact ⟨value, hvalue, (Keys.given_of_control hroute).2⟩
  own := params.nodup_rawKeys keys trace
  handedOn := exists_of_get?_relations
  aligned := Parameter.aligned_ofEntry trace

/-- Of two spellings of one key at a relation, one value stays and one entry is reported. -/
example :
    let routed := Params.route
      ⟨.ofList [("CABINS.name", .string "~lake"), ("cabins.name", .string "x")]⟩
      ⟨[], ["cabins"], [], false⟩ "area"
    (routed.relations.values.map fun bucket => bucket.entries.size).sum = 1 ∧
      routed.errors.length = 1 :=
  ⟨rfl, rfl⟩

end RestQuery
