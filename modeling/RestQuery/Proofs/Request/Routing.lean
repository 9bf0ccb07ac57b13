import RestQuery.Proofs.Outcome
import RestQuery.Proofs.Request.Keys
import RestQuery.Request.Routing

/-!
# Where routed parameters come from

Routing reads the entries of a level one after the other.  Whatever it has put aside
for the level at any point stems from one of the entries, and an entry only becomes a
filter or a control if the level permits its key.

Main statement: `Params.route_stems`.
-/

namespace RestQuery

@[simp]
theorem Key.ofSegments_singleton (segment : String) : ofSegments [segment] = segment :=
  Text.join_singleton '.' segment

namespace Keys

variable {keys : Keys} {parameter routed : Parameter}

/-- Only declared filters are put aside as such. -/
theorem mem_filters_of_routeParameter
    (hroute : keys.routeParameter parameter = .filter routed) :
    routed.key ∈ keys.filters := by
  rw [routeParameter] at hroute
  dsimp only at hroute
  split at hroute
  · split at hroute
    next hfilter =>
      injection hroute with heq
      exact heq ▸ List.contains_iff_mem.1 hfilter
    next => cases hroute
  split at hroute
  next hfilter =>
    injection hroute with heq
    exact heq ▸ List.contains_iff_mem.1 hfilter
  split at hroute
  · split at hroute <;> cases hroute
  · split at hroute <;> cases hroute

/-- The segments of a filter's key: without the word for the level itself, if it may stand there
and more follows. -/
def ownSegments (keys : Keys) (segments : List String) : List String :=
  if keys.sameLevel && segments.headD "" == sameLevelWord && 1 < segments.length then
    segments.tail
  else segments

theorem filter_of_routeParameter (hroute : keys.routeParameter parameter = .filter routed) :
    routed = { parameter with keys := keys.ownSegments parameter.keys } := by
  rw [routeParameter] at hroute
  dsimp only at hroute
  rw [ownSegments]
  split at hroute
  next hword =>
    rw [Parameter.firstKey] at hword
    split at hroute
    · injection hroute with heq
      rw [if_pos hword, heq]
    · cases hroute
  next hword =>
    rw [Parameter.firstKey] at hword
    rw [if_neg hword]
    split at hroute
    · injection hroute with heq
      exact heq.symm
    split at hroute
    · split at hroute <;> cases hroute
    · split at hroute <;> cases hroute

theorem control_of_routeParameter (hroute : keys.routeParameter parameter = .control routed) :
    routed = parameter ∧ ∃ control ∈ keys.controls, parameter.keys = [control] := by
  rw [routeParameter] at hroute
  dsimp only at hroute
  split at hroute
  · split at hroute <;> cases hroute
  split at hroute
  · cases hroute
  split at hroute
  · split at hroute <;> cases hroute
  split at hroute
  next hcontrol =>
    injection hroute with heq
    rw [Bool.and_eq_true, decide_eq_true_eq, List.contains_iff_mem] at hcontrol
    obtain ⟨hlength, hmem⟩ := hcontrol
    obtain ⟨segment, hkeys⟩ := List.length_eq_one_iff.1 hlength
    rw [Parameter.firstKey, hkeys] at hmem
    exact ⟨heq.symm, segment, hmem, hkeys⟩
  · cases hroute

/-- What goes to the level of a relation starts with the name of the relation, and more
follows. -/
theorem relation_of_routeParameter {name rest : String}
    (hroute : keys.routeParameter parameter = .relation name rest routed) :
    name ∈ keys.relations ∧ name = parameter.firstKey ∧ parameter.keys.length ≠ 1 ∧
      rest = Key.ofSegments parameter.rawKeys.tail ∧ routed = parameter := by
  rw [routeParameter] at hroute
  dsimp only at hroute
  split at hroute
  · split at hroute <;> cases hroute
  split at hroute
  · cases hroute
  split at hroute
  next hrelation =>
    split at hroute
    next => cases hroute
    next hlength =>
      injection hroute with hname hrest hrouted
      subst hname hrest hrouted
      exact ⟨List.contains_iff_mem.1 hrelation, rfl, hlength, rfl, rfl⟩
  · split at hroute <;> cases hroute

variable {trace rawKey : String} {rawValue : Json}

/-- An entry that is not refused is a parameter. -/
theorem exists_value_of_route {route : Route} (hroute : keys.route trace rawKey rawValue = route)
    (hkept : ∀ error, route ≠ .refused error) :
    ∃ value, ParamValue.ofJson? rawValue = some value ∧
      keys.routeParameter (.ofEntry trace rawKey value) = route := by
  rw [Keys.route] at hroute
  split at hroute
  next value hvalue => exact ⟨value, hvalue, hroute⟩
  next => exact absurd hroute.symm (hkept _)

theorem mem_filters_of_route (hroute : keys.route trace rawKey rawValue = .filter routed) :
    routed.key ∈ keys.filters := by
  obtain ⟨value, -, hparameter⟩ := exists_value_of_route hroute nofun
  exact mem_filters_of_routeParameter hparameter

theorem mem_controls_of_route (hroute : keys.route trace rawKey rawValue = .control routed) :
    routed.key ∈ keys.controls := by
  obtain ⟨value, -, hparameter⟩ := exists_value_of_route hroute nofun
  obtain ⟨rfl, control, hmem, hkeys⟩ := control_of_routeParameter hparameter
  rwa [Parameter.key, hkeys, Key.ofSegments_singleton]

/-- The segments of a key that goes to a relation are the name of the relation and those of the
rest of the key. -/
theorem normalSegments_of_route {name rest : String}
    (hroute : keys.route trace rawKey rawValue = .relation name rest routed) :
    Key.normalSegments rawKey = name :: Key.normalSegments rest := by
  obtain ⟨given, -, hparameter⟩ := exists_value_of_route hroute nofun
  obtain ⟨-, rfl, hlength, rfl, -⟩ := relation_of_routeParameter hparameter
  change Key.normalSegments rawKey = (Key.normalSegments rawKey).headD "" ::
    Key.normalSegments (Key.ofSegments (Key.segments rawKey).tail)
  have hlong : (Key.segments rawKey).length ≠ 1 := by
    rw [← Key.length_normalSegments]
    exact hlength
  have htail : (Key.segments rawKey).tail ≠ [] := by
    intro hnil
    have hzero := congrArg List.length hnil
    have hpos : (Key.segments rawKey).length ≠ 0 := by simp [Key.segments]
    rw [List.length_tail, List.length_nil] at hzero
    omega
  rw [Key.normalSegments_tail htail]
  cases hsegments : Key.normalSegments rawKey with
  | nil => exact absurd hsegments (Key.normalSegments_ne_nil rawKey)
  | cons first others => rfl

/-- The name of a relation to which an entry goes has no point. -/
theorem point_notMem_of_route {name rest : String}
    (hroute : keys.route trace rawKey rawValue = .relation name rest routed) :
    '.' ∉ name.toList :=
  Key.point_notMem_of_mem_normalSegments (normalSegments_of_route hroute ▸ List.mem_cons_self)

end Keys

/-- What is put aside at a level stems from entries of the level. -/
structure Routed.Stems (keys : Keys) (trace : String) (entries : List (String × Json))
    (routed : Routed) : Prop where
  filters : ∀ parameter ∈ routed.filters,
    ∃ entry ∈ entries, keys.route trace entry.1 entry.2 = .filter parameter
  controls : ∀ {name parameter}, routed.controls.get? name = some parameter →
    parameter.key = name ∧
      ∃ entry ∈ entries, keys.route trace entry.1 entry.2 = .control parameter

namespace Routed

variable {keys : Keys} {trace : String} {entries : List (String × Json)} {routed : Routed}

theorem Stems.refuse (hstems : routed.Stems keys trace entries) (error : RequestError) :
    (routed.refuse error).Stems keys trace entries :=
  ⟨hstems.filters, hstems.controls⟩

theorem Stems.add (hstems : routed.Stems keys trace entries) {entry : String × Json}
    (hmem : entry ∈ entries) :
    (routed.add entry.2 (keys.route trace entry.1 entry.2)).Stems keys trace entries := by
  cases hroute : keys.route trace entry.1 entry.2 with
  | filter parameter =>
      refine ⟨fun other hother => ?_, hstems.controls⟩
      rcases List.mem_append.1 hother with hold | hnew
      · exact hstems.filters other hold
      · exact ⟨entry, hmem, List.mem_singleton.1 hnew ▸ hroute⟩
  | control parameter =>
      rw [Routed.add]
      split
      · exact hstems.refuse _
      refine ⟨hstems.filters, fun {name other} hget => ?_⟩
      rw [Table.get?_insert] at hget
      split at hget
      next hname =>
        obtain rfl := Option.some.inj hget
        exact ⟨hname.symm, entry, hmem, hroute⟩
      next => exact hstems.controls hget
  | relation name rest parameter =>
      rw [Routed.add]
      split
      · exact ⟨hstems.filters, hstems.controls⟩
      · exact ⟨hstems.filters, hstems.controls⟩
  | refused error => exact hstems.refuse error

end Routed

/-- All filters and controls of a level stem from its entries. -/
theorem Params.route_stems (params : Params) (keys : Keys) (trace : String) :
    (params.route keys trace).Stems keys trace params.entries.entries := by
  apply List.foldlRecOn
  · exact ⟨by simp, by simp⟩
  · intro routed hstems entry hmem
    exact hstems.add hmem

namespace Params

variable {params : Params} {keys : Keys} {trace : String} {parameter : Parameter}

theorem mem_filters_of_mem_route (hmem : parameter ∈ (params.route keys trace).filters) :
    parameter.key ∈ keys.filters := by
  obtain ⟨entry, -, hroute⟩ := (params.route_stems keys trace).filters parameter hmem
  exact Keys.mem_filters_of_route hroute

theorem mem_controls_of_control? {control : Control}
    (hgiven : (params.route keys trace).control? control = some parameter) :
    control.name ∈ keys.controls := by
  obtain ⟨hkey, entry, -, hroute⟩ := (params.route_stems keys trace).controls hgiven
  exact hkey ▸ Keys.mem_controls_of_route hroute

end Params

/-! ## Entries that are kept -/

namespace Routed

/-- An entry is where its route says. -/
def Keeps (routed : Routed) (value : Json) : Route → Prop
  | .filter parameter => parameter ∈ routed.filters
  | .control parameter => routed.controls.get? parameter.key = some parameter
  | .relation name rest _ =>
    ∃ bucket, routed.relations.get? name = some bucket ∧ bucket.get? rest = some value
  | .refused _ => False

variable {routed : Routed} {value other : Json} {route : Route}

theorem errors_refuse (error : RequestError) :
    (routed.refuse error).errors = routed.errors ++ [error] := rfl

/-- A refusal is an error. -/
theorem errors_refuse_ne_nil {error : RequestError} : (routed.refuse error).errors ≠ [] := by
  rw [errors_refuse]
  exact List.append_ne_nil_of_right_ne_nil _ (List.cons_ne_nil _ _)

theorem errors_of_add (hvalid : (routed.add value route).errors = []) : routed.errors = [] := by
  cases route with
  | filter parameter => exact hvalid
  | control parameter =>
      rw [Routed.add] at hvalid
      split at hvalid
      · exact absurd hvalid errors_refuse_ne_nil
      · exact hvalid
  | relation name rest parameter =>
      rw [Routed.add] at hvalid
      split at hvalid
      · exact absurd hvalid errors_refuse_ne_nil
      · exact hvalid
  | refused error => exact absurd hvalid errors_refuse_ne_nil

/-- An entry that raises no error is where it goes. -/
theorem keeps_add (hvalid : (routed.add value route).errors = []) :
    (routed.add value route).Keeps value route := by
  cases route with
  | filter parameter => exact List.mem_append_right _ List.mem_cons_self
  | control parameter =>
      rw [Routed.add] at hvalid ⊢
      split at hvalid
      · exact absurd hvalid errors_refuse_ne_nil
      next hnew =>
        rw [if_neg hnew]
        simp [Keeps]
  | relation name rest parameter =>
      rw [Routed.add] at hvalid ⊢
      split at hvalid
      · exact absurd hvalid errors_refuse_ne_nil
      next hnew =>
        rw [if_neg hnew]
        simp [Keeps, Params.get?, Params.insert]
  | refused error => exact absurd hvalid errors_refuse_ne_nil

theorem mem_filters_add {parameter : Parameter} (hmem : parameter ∈ routed.filters) :
    parameter ∈ (routed.add value route).filters := by
  cases route with
  | filter added => exact List.mem_append_left _ hmem
  | control added =>
      rw [Routed.add]
      split <;> exact hmem
  | relation name rest added =>
      rw [Routed.add]
      split <;> exact hmem
  | refused error => exact hmem

theorem get?_controls_add {name : String} {parameter : Parameter}
    (hget : routed.controls.get? name = some parameter) :
    (routed.add value route).controls.get? name = some parameter := by
  cases route with
  | filter added => exact hget
  | control added =>
      rw [Routed.add]
      split
      next => exact hget
      next hnew =>
        have hname : name ≠ added.key := by
          rintro rfl
          exact hnew (by rw [Table.contains, hget]; rfl)
        rw [Table.get?_insert, if_neg hname, hget]
  | relation other rest added =>
      rw [Routed.add]
      split <;> exact hget
  | refused error => exact hget

theorem get?_relations_add {name rest : String} {bucket : Params}
    (hbucket : routed.relations.get? name = some bucket) (hget : bucket.get? rest = some other)
    (hvalid : (routed.add value route).errors = []) :
    ∃ bucket, (routed.add value route).relations.get? name = some bucket ∧
      bucket.get? rest = some other := by
  cases route with
  | filter added => exact ⟨bucket, hbucket, hget⟩
  | control added =>
      refine ⟨bucket, ?_, hget⟩
      rw [Routed.add]
      split <;> exact hbucket
  | relation target key added =>
      rw [Routed.add] at hvalid ⊢
      split at hvalid
      · exact absurd hvalid errors_refuse_ne_nil
      next hnew =>
        rw [if_neg hnew]
        by_cases htarget : name = target
        · subst htarget
          rw [hbucket, Option.getD_some] at hnew ⊢
          have hkey : rest ≠ key := by
            rintro rfl
            exact hnew (Option.isSome_iff_exists.2 ⟨other, hget⟩)
          refine ⟨bucket.insert key value, by simp, ?_⟩
          rw [Params.get?] at hget ⊢
          rw [Params.insert, Table.get?_insert, if_neg hkey, hget]
        · exact ⟨bucket, by simp [htarget, hbucket], hget⟩
  | refused error => exact ⟨bucket, hbucket, hget⟩

/-- Without errors an entry stays where it is. -/
theorem Keeps.add {added : Route} (hkeeps : routed.Keeps value route)
    (hvalid : (routed.add other added).errors = []) :
    (routed.add other added).Keeps value route := by
  cases route with
  | filter parameter => exact mem_filters_add hkeeps
  | control parameter => exact get?_controls_add hkeeps
  | relation name rest parameter =>
      obtain ⟨bucket, hbucket, hget⟩ := hkeeps
      exact get?_relations_add hbucket hget hvalid
  | refused error => exact hkeeps

end Routed

theorem Params.keeps_route {params : Params} {keys : Keys} {trace : String}
    (hvalid : (params.route keys trace).errors = []) {entry : String × Json}
    (hentry : entry ∈ params.entries.entries) :
    (params.route keys trace).Keeps entry.2 (keys.route trace entry.1 entry.2) :=
  (holds_foldl (fun routed : Routed => routed.errors = [])
    (fun routed (entry : String × Json) =>
      routed.Keeps entry.2 (keys.route trace entry.1 entry.2))
    (fun _ _ => Routed.errors_of_add) (fun _ _ => Routed.keeps_add)
    (fun _ _ _ hvalid hkeeps => hkeeps.add hvalid) hvalid).2.2 entry hentry

end RestQuery
