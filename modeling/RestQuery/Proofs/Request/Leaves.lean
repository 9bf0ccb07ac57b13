import Mathlib.Algebra.Order.BigOperators.Group.List
import Mathlib.Algebra.Order.Group.Nat
import Mathlib.Data.List.Dedup
import RestQuery.Proofs.Request.Spellings
import RestQuery.Request.Params

/-!
# Leaves of structured parameters

An object gives one parameter for each of its leaves, under the keys that lead to the leaf with
points between them, as long as these texts differ.  Two leaves with one text share an entry, in
which the later one stays; and empty keys at the beginning of a path are not written.

Main statement: `Params.ofObject_leaves`.
-/

namespace RestQuery

namespace Json

mutual

/-- The leaves below the members of an object, in order, each with the keys that lead to it. -/
def leavesBelow : List (String × Json) → List (List String × Json)
  | [] => []
  | (key, value) :: rest =>
    (leaves value).map (fun leaf => (key :: leaf.1, leaf.2)) ++ leavesBelow rest

/-- The leaves of a value: those below its members if it is an object with members, else the value
itself. -/
def leaves : Json → List (List String × Json)
  | .object ((key, value) :: rest) =>
    (leaves value).map (fun leaf => (key :: leaf.1, leaf.2)) ++ leavesBelow rest
  | value => [([], value)]

end

/-- No object has two members with one key, however deep it stands within others. -/
inductive Keyed : Json → Prop
  | object {members : List (String × Json)} (hkeys : (members.map Prod.fst).Nodup)
      (hvalues : ∀ member ∈ members, Keyed member.2) : Keyed (.object members)
  | leaf {value : Json} (hleaf : ∀ members, value ≠ .object members) : Keyed value

theorem exists_cons_of_mem_leavesBelow {members : List (String × Json)}
    {leaf : List String × Json} (hleaf : leaf ∈ leavesBelow members) :
    ∃ member ∈ members, ∃ keys, leaf.1 = member.1 :: keys ∧ (keys, leaf.2) ∈ leaves member.2 := by
  induction members with
  | nil => simp [leavesBelow] at hleaf
  | cons member rest ih =>
      obtain ⟨key, value⟩ := member
      rw [leavesBelow, List.mem_append, List.mem_map] at hleaf
      rcases hleaf with ⟨⟨keys, found⟩, hfound, rfl⟩ | hrest
      · exact ⟨_, List.mem_cons_self, keys, rfl, hfound⟩
      · obtain ⟨other, hother, hkeys⟩ := ih hrest
        exact ⟨other, List.mem_cons_of_mem _ hother, hkeys⟩

theorem leaves_object_of_ne_nil {members : List (String × Json)} (hmembers : members ≠ []) :
    leaves (.object members) = leavesBelow members := by
  cases members with
  | nil => exact absurd rfl hmembers
  | cons member rest =>
      obtain ⟨key, value⟩ := member
      rw [leaves, leavesBelow]

/-- If keys are not repeated, neither are the paths of leaves. -/
theorem nodup_leavesBelow {members : List (String × Json)} (hkeys : (members.map Prod.fst).Nodup)
    (hleaves : ∀ member ∈ members, ((leaves member.2).map Prod.fst).Nodup) :
    ((leavesBelow members).map Prod.fst).Nodup := by
  induction members with
  | nil => simp [leavesBelow]
  | cons member rest ih =>
      obtain ⟨key, value⟩ := member
      obtain ⟨hkey, hrest⟩ := List.nodup_cons.1 hkeys
      obtain ⟨hvalue, hothers⟩ := List.forall_mem_cons.1 hleaves
      rw [leavesBelow, List.map_append, List.map_map, List.nodup_append]
      refine ⟨?_, ih hrest hothers, ?_⟩
      · have hcons : Prod.fst ∘ (fun leaf : List String × Json => (key :: leaf.1, leaf.2)) =
            List.cons key ∘ Prod.fst := rfl
        rw [hcons, ← List.map_map]
        exact hvalue.map List.cons_injective
      · -- Paths of different members start with different keys.
        rintro path hpath other hother rfl
        obtain ⟨leaf, -, rfl⟩ := List.mem_map.1 hpath
        obtain ⟨found, hfound, heq⟩ := List.mem_map.1 hother
        obtain ⟨member, hmember, keys, hstart, -⟩ := exists_cons_of_mem_leavesBelow hfound
        rw [hstart] at heq
        rw [← (List.cons.inj heq).1] at hkey
        exact hkey (List.mem_map.2 ⟨member, hmember, rfl⟩)

/-- Different leaves have different paths. -/
theorem Keyed.nodup_leaves {value : Json} (hkeyed : value.Keyed) :
    ((leaves value).map Prod.fst).Nodup := by
  induction hkeyed with
  | @object members hkeys hvalues ih =>
      by_cases hmembers : members = []
      · subst hmembers
        exact List.nodup_singleton _
      · rw [leaves_object_of_ne_nil hmembers]
        exact nodup_leavesBelow hkeys ih
  | @leaf value hleaf =>
      cases value with
      | object members => exact absurd rfl (hleaf members)
      | null => exact List.nodup_singleton _
      | bool b => exact List.nodup_singleton _
      | number n => exact List.nodup_singleton _
      | string s => exact List.nodup_singleton _
      | array items => exact List.nodup_singleton _

theorem Keyed.nodup_leavesBelow {members : List (String × Json)}
    (hkeyed : Keyed (.object members)) : ((leavesBelow members).map Prod.fst).Nodup := by
  by_cases hmembers : members = []
  · subst hmembers
    exact List.nodup_nil
  · rw [← leaves_object_of_ne_nil hmembers]
    exact hkeyed.nodup_leaves

end Json

namespace Params

/-- The key under which the leaf at the end of a path is stored. -/
def pathKey (path : List String) : String := path.foldl extend ""

/-! ## Keys of paths -/

theorem foldl_extend {start : String} (hstart : start ≠ "") (path : List String) :
    path.foldl extend start = Text.join '.' (start :: path) := by
  induction path generalizing start with
  | nil => exact (Text.join_singleton '.' start).symm
  | cons key rest ih =>
      have hnext : extend start key = start ++ "." ++ key := if_neg hstart
      rw [List.foldl_cons, hnext, ih (by simp), Text.join_cons_cons]
      rfl

theorem pathKey_cons {key : String} (hkey : key ≠ "") (path : List String) :
    pathKey (key :: path) = Text.join '.' (key :: path) :=
  foldl_extend hkey path

/-- Empty keys at the beginning of a path are not written. -/
theorem pathKey_eq (path : List String) :
    pathKey path = Text.join '.' (path.dropWhile (· == "")) := by
  induction path with
  | nil => rfl
  | cons key rest ih =>
      by_cases hkey : key = ""
      · subst hkey
        exact ih
      · rw [pathKey_cons hkey, List.dropWhile_cons_of_neg (by simpa using hkey)]

/-- Nothing of a path is left out if its first key is not empty or is the only one. -/
def Written (path : List String) : Prop := path.head? = some "" → path.length = 1

instance (path : List String) : Decidable (Written path) :=
  inferInstanceAs (Decidable (path.head? = some "" → path.length = 1))

theorem length_join_dropWhile_le (p : String → Bool) (path : List String) :
    (Text.join '.' (path.dropWhile p)).length ≤ (Text.join '.' path).length := by
  induction path with
  | nil => exact le_rfl
  | cons key rest ih =>
      rw [List.dropWhile_cons]
      split
      · by_cases hrest : rest = []
        · subst hrest
          exact Nat.zero_le _
        · rw [Text.join_cons key hrest, String.length_append]
          omega
      · exact le_rfl

/-- A path that is written in full has all of its keys in its own one. -/
theorem pathKey_of_written {path : List String} (hwritten : Written path) :
    pathKey path = Text.join '.' path := by
  cases path with
  | nil => rfl
  | cons key rest =>
      by_cases hkey : key = ""
      · subst hkey
        obtain rfl : rest = [] := List.length_eq_zero_iff.1 (Nat.succ.inj (hwritten rfl))
        rfl
      · exact pathKey_cons hkey rest

/-- A path that is not written in full has a shorter key. -/
theorem length_pathKey_lt {path : List String} (hwritten : ¬Written path) :
    (pathKey path).length < (Text.join '.' path).length := by
  rw [Written, Classical.not_imp] at hwritten
  obtain ⟨hhead, hlong⟩ := hwritten
  obtain ⟨rest, rfl⟩ := List.head?_eq_some_iff.1 hhead
  have hrest : rest ≠ [] := by
    rintro rfl
    exact hlong rfl
  have hdropped := length_join_dropWhile_le (· == "") rest
  have hkey : pathKey ("" :: rest) = Text.join '.' (rest.dropWhile (· == "")) := pathKey_eq _
  have hpoint : ('.'.toString).length = 1 := rfl
  rw [hkey, Text.join_cons "" hrest, String.length_append, String.length_append, hpoint]
  omega

theorem length_pathKey_le (path : List String) :
    (pathKey path).length ≤ (Text.join '.' path).length := by
  rw [pathKey_eq]
  exact length_join_dropWhile_le _ path

/-! ## Entries of leaves -/

mutual

theorem leaves_eq_map (path : String) : ∀ members : List (String × Json),
    leaves path members =
      (Json.leavesBelow members).map fun leaf => (leaf.1.foldl extend path, leaf.2)
  | [] => rfl
  | (key, value) :: rest => by
      rw [leaves, Json.leavesBelow, leavesOf_eq_map, leaves_eq_map path rest, List.map_append,
        List.map_map]
      rfl

theorem leavesOf_eq_map (path : String) : ∀ value : Json,
    leavesOf path value =
      (Json.leaves value).map fun leaf => (leaf.1.foldl extend path, leaf.2)
  | .object ((key, value) :: rest) => by
      rw [leavesOf, Json.leaves, leavesOf_eq_map, leaves_eq_map path rest, List.map_append,
        List.map_map]
      rfl
  | .object [] => rfl
  | .null => rfl
  | .bool _ => rfl
  | .number _ => rfl
  | .string _ => rfl
  | .array _ => rfl

end

theorem ofObject_eq (members : List (String × Json)) :
    ofObject members =
      ⟨.ofList ((Json.leavesBelow members).map fun leaf => (pathKey leaf.1, leaf.2))⟩ := by
  rw [ofObject, leaves_eq_map]
  rfl

end Params

namespace Table

theorem mem_keys_ofList {entries : List (String × α)} {key : String} :
    key ∈ (ofList entries).keys ↔ key ∈ entries.map Prod.fst := by
  rw [mem_keys_iff, List.mem_map]
  constructor
  · rintro ⟨value, hget⟩
    exact ⟨_, mem_of_get?_ofList hget, rfl⟩
  · rintro ⟨entry, hentry, rfl⟩
    exact Option.isSome_iff_exists.1 (isSome_get?_ofList hentry)

/-- A table has as many entries as there are different keys. -/
theorem size_ofList (entries : List (String × α)) :
    (ofList entries).size = (entries.map Prod.fst).dedup.length := by
  have hperm : (ofList entries).keys.Perm (entries.map Prod.fst).dedup :=
    (List.perm_ext_iff_of_nodup (keys_nodup _) (List.nodup_dedup _)).2 fun key => by
      rw [mem_keys_ofList, List.mem_dedup]
  rw [← hperm.length_eq, keys, List.length_map, size]

theorem size_ofList_eq_length_iff {entries : List (String × α)} :
    (ofList entries).size = entries.length ↔ (entries.map Prod.fst).Nodup := by
  have hlength : entries.length = (entries.map Prod.fst).length := (List.length_map _).symm
  rw [size_ofList, ← List.dedup_eq_self, hlength]
  exact ⟨(List.dedup_sublist _).eq_of_length, fun hself => by rw [hself]⟩

end Table

namespace Params

variable {members : List (String × Json)}

/-- The value of a key is that of the last leaf that is stored under it. -/
theorem get?_ofObject (key : String) :
    (ofObject members).get? key =
      ((Json.leavesBelow members).reverse.find? fun leaf => pathKey leaf.1 == key).map
        Prod.snd := by
  rw [ofObject_eq, get?, Table.get?_ofList, ← List.map_reverse]
  induction (Json.leavesBelow members).reverse with
  | nil => rfl
  | cons leaf rest ih =>
      have hcomm : (key == pathKey leaf.1) = (pathKey leaf.1 == key) := BEq.comm
      rw [List.map_cons, List.lookup_cons, List.find?_cons, ih, hcomm]
      cases pathKey leaf.1 == key <;> rfl

/-- Texts that are not longer than others and make the same list in some order are as long as
these. -/
theorem length_eq_of_perm {texts others : α → String} {items : List α}
    (hle : ∀ item ∈ items, (texts item).length ≤ (others item).length)
    (hperm : (items.map texts).Perm (items.map others)) :
    ∀ item ∈ items, (texts item).length = (others item).length := by
  have hsum := (hperm.map String.length).sum_eq
  rw [List.map_map, List.map_map] at hsum
  intro item hmem
  by_contra hne
  exact (List.sum_lt_sum _ _ hle ⟨item, hmem, lt_of_le_of_ne (hle item hmem) hne⟩).ne hsum

/-- The entries are the leaves by their paths exactly if no path loses a key and no two have one
text. -/
theorem perm_ofObject_iff :
    (ofObject members).entries.entries.Perm
        ((Json.leavesBelow members).map fun leaf => (Text.join '.' leaf.1, leaf.2)) ↔
      (∀ leaf ∈ Json.leavesBelow members, Written leaf.1) ∧
        ((Json.leavesBelow members).map fun leaf => Text.join '.' leaf.1).Nodup := by
  rw [ofObject_eq]
  constructor
  · intro hperm
    have hkeys := hperm.map Prod.fst
    rw [List.map_map] at hkeys
    have hstored : ((Json.leavesBelow members).map fun leaf => pathKey leaf.1).Nodup := by
      have hsize := hperm.length_eq
      rw [List.length_map] at hsize
      have hnodup := Table.size_ofList_eq_length_iff.1 (hsize.trans (List.length_map _).symm)
      rwa [List.map_map] at hnodup
    have hpaths : ((Json.leavesBelow members).map fun leaf => pathKey leaf.1).Perm
        ((Json.leavesBelow members).map fun leaf => Text.join '.' leaf.1) := by
      have hall : (Table.ofList ((Json.leavesBelow members).map fun leaf =>
          (pathKey leaf.1, leaf.2))).entries.Perm _ :=
        Table.perm_ofList (by rwa [List.map_map])
      have hall := hall.map Prod.fst
      rw [List.map_map] at hall
      exact hall.symm.trans hkeys
    refine ⟨fun leaf hleaf => ?_, hpaths.nodup_iff.1 hstored⟩
    by_contra hwritten
    refine (length_pathKey_lt hwritten).ne ?_
    exact length_eq_of_perm (fun leaf _ => length_pathKey_le leaf.1) hpaths leaf hleaf
  · rintro ⟨hwritten, hnodup⟩
    have hstored : ((Json.leavesBelow members).map fun leaf => (pathKey leaf.1, leaf.2)) =
        (Json.leavesBelow members).map fun leaf => (Text.join '.' leaf.1, leaf.2) :=
      List.map_congr_left fun leaf hleaf => by rw [pathKey_of_written (hwritten leaf hleaf)]
    rw [hstored]
    exact Table.perm_ofList (by rwa [List.map_map])

/-- Without points in its keys, different leaves of an object have different texts for paths. -/
theorem nodup_paths (hkeyed : Json.Keyed (.object members))
    (hpoints : ∀ leaf ∈ Json.leavesBelow members, ∀ key ∈ leaf.1, '.' ∉ key.toList) :
    ((Json.leavesBelow members).map fun leaf => Text.join '.' leaf.1).Nodup := by
  have hsplit : ∀ leaf ∈ Json.leavesBelow members,
      Text.split '.' (Text.join '.' leaf.1) = leaf.1 := by
    intro leaf hleaf
    obtain ⟨member, -, keys, hstart, -⟩ := Json.exists_cons_of_mem_leavesBelow hleaf
    exact Text.split_join (by simp [hstart]) (hpoints leaf hleaf)
  have hpaths := hkeyed.nodup_leavesBelow
  have hrestored : (Json.leavesBelow members).map Prod.fst =
      ((Json.leavesBelow members).map fun leaf => Text.join '.' leaf.1).map (Text.split '.') := by
    rw [List.map_map]
    exact List.map_congr_left fun leaf hleaf => (hsplit leaf hleaf).symm
  rw [hrestored] at hpaths
  exact hpaths.of_map

/-- The value under a key is the last leaf whose path is stored there.  The entries are the leaves
by their paths, none of them lost, exactly if no path starts with an empty key that others follow
and no two paths have one text; the latter is so for every object whose keys have no points. -/
theorem ofObject_leaves (members : List (String × Json)) :
    (∀ key, (ofObject members).get? key =
      ((Json.leavesBelow members).reverse.find? fun leaf => pathKey leaf.1 == key).map
        Prod.snd) ∧
    ((ofObject members).entries.entries.Perm
        ((Json.leavesBelow members).map fun leaf => (Text.join '.' leaf.1, leaf.2)) ↔
      (∀ leaf ∈ Json.leavesBelow members, Written leaf.1) ∧
        ((Json.leavesBelow members).map fun leaf => Text.join '.' leaf.1).Nodup) ∧
    (Json.Keyed (.object members) →
      (∀ leaf ∈ Json.leavesBelow members, ∀ key ∈ leaf.1, '.' ∉ key.toList) →
        ((Json.leavesBelow members).map fun leaf => Text.join '.' leaf.1).Nodup) :=
  ⟨get?_ofObject, perm_ofObject_iff, nodup_paths⟩

end Params

namespace Sample

/-- Parameters for the cabins of an area, and for the area itself. -/
def nested : List (String × Json) :=
  [("cabins", .object [("fields", .object []), ("name", .string "~lake")]), ("name", .string "x")]

/-- An object with an empty key, below which a leaf is stored under the key of another one. -/
def emptyKey : List (String × Json) :=
  [("", .object [("name", .string "~lake")]), ("name", .string "x")]

/-- An object with a key that is written like the path of another leaf. -/
def pointedKey : List (String × Json) :=
  [("cabins", .object [("name", .string "~lake")]), ("cabins.name", .string "x")]

theorem keyed_nested : Json.Keyed (.object nested) := by
  have hleaf : ∀ s, Json.Keyed (.string s) := fun _ => .leaf nofun
  refine .object (by decide) (List.forall_mem_cons.2 ⟨?_, List.forall_mem_singleton.2 (hleaf _)⟩)
  refine .object (by decide) (List.forall_mem_cons.2 ⟨?_, List.forall_mem_singleton.2 (hleaf _)⟩)
  exact .object List.nodup_nil nofun

end Sample

/-- Three leaves, one of them an object without members, make three parameters. -/
theorem ofObject_leaves_nested :
    (Params.ofObject Sample.nested).entries.entries.Perm
      [("cabins.fields", .object []), ("cabins.name", .string "~lake"), ("name", .string "x")] := by
  obtain ⟨-, hiff, hnodup⟩ := Params.ofObject_leaves Sample.nested
  exact hiff.2 ⟨by decide, hnodup Sample.keyed_nested (by decide)⟩

/-- A leaf below an empty key is lost to another one, though their paths have different texts, and
so is a leaf whose path has the text of a later one. -/
theorem ofObject_leaves_lost :
    (Json.leavesBelow Sample.emptyKey =
        [(["", "name"], .string "~lake"), (["name"], .string "x")] ∧
      (Params.ofObject Sample.emptyKey).entries.entries = [("name", .string "x")] ∧
      (Params.ofObject Sample.emptyKey).get? (Text.join '.' ["", "name"]) = none) ∧
    Json.leavesBelow Sample.pointedKey =
        [(["cabins", "name"], .string "~lake"), (["cabins.name"], .string "x")] ∧
      (Params.ofObject Sample.pointedKey).entries.entries = [("cabins.name", .string "x")] :=
  ⟨⟨rfl, rfl, rfl⟩, rfl, rfl⟩

end RestQuery
