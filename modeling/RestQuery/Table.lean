/-!
# Tables with text keys

A table holds at most one value for each key and keeps its entries in the order of their
keys, by code points.  The order is part of the type, so two tables with the same look-ups
are equal, whatever the history of insertions.

Main statements: `get?_insert`, `get?_insertNew`, `get?_erase` and `get?_ofList` say what
each operation does to look-up; `ext_get?` says that look-up determines the table.
-/

namespace RestQuery

/-- Entries with strictly increasing keys. -/
structure Table (α : Type u) where
  entries : List (String × α)
  ordered : entries.Pairwise fun left right => left.1 < right.1

namespace Table

variable {α : Type u} {β : Type v}

def empty : Table α := ⟨[], .nil⟩

instance : Inhabited (Table α) := ⟨empty⟩

instance [BEq α] : BEq (Table α) := ⟨fun left right => left.entries == right.entries⟩

instance [DecidableEq α] : DecidableEq (Table α) := fun left right =>
  decidable_of_iff (left.entries = right.entries)
    ⟨fun heq => by cases left; cases right; simp_all, fun heq => heq ▸ rfl⟩

def get? (table : Table α) (key : String) : Option α := table.entries.lookup key

def contains (table : Table α) (key : String) : Bool := (table.get? key).isSome

def keys (table : Table α) : List String := table.entries.map Prod.fst

def values (table : Table α) : List α := table.entries.map Prod.snd

def size (table : Table α) : Nat := table.entries.length

def isEmpty (table : Table α) : Bool := table.entries.isEmpty

/-! ## Insertion -/

/-- Puts an entry into its place in a list ordered by keys, over an entry of the same key. -/
def put (key : String) (value : α) : List (String × α) → List (String × α)
  | [] => [(key, value)]
  | (k, v) :: rest =>
    if key < k then (key, value) :: (k, v) :: rest
    else if k < key then (k, v) :: put key value rest
    else (key, value) :: rest

theorem eq_of_not_lt {left right : String} (hlr : ¬left < right) (hrl : ¬right < left) :
    left = right :=
  String.le_antisymm (String.not_lt.1 hrl) (String.not_lt.1 hlr)

theorem fst_of_mem_put {key : String} {value : α} {entries : List (String × α)}
    {entry : String × α} (hmem : entry ∈ put key value entries) :
    entry.1 = key ∨ entry ∈ entries := by
  induction entries with
  | nil => simp_all [put]
  | cons head rest ih =>
    obtain ⟨k, v⟩ := head
    rw [put] at hmem
    split at hmem
    · grind
    · split at hmem <;> grind

theorem pairwise_put {key : String} {value : α} {entries : List (String × α)}
    (hordered : entries.Pairwise fun left right => left.1 < right.1) :
    (put key value entries).Pairwise fun left right => left.1 < right.1 := by
  induction entries with
  | nil => simp [put]
  | cons head rest ih =>
    obtain ⟨k, v⟩ := head
    rw [List.pairwise_cons] at hordered
    obtain ⟨hhead, hrest⟩ := hordered
    rw [put]
    split
    · rename_i hlt
      refine List.pairwise_cons.2 ⟨fun entry hmem => ?_, List.pairwise_cons.2 ⟨hhead, hrest⟩⟩
      rcases List.mem_cons.1 hmem with rfl | hmem
      · exact hlt
      · exact String.lt_trans hlt (hhead entry hmem)
    · split
      · rename_i hlt
        refine List.pairwise_cons.2 ⟨fun entry hmem => ?_, ih hrest⟩
        rcases fst_of_mem_put hmem with hkey | hmem
        · exact hkey ▸ hlt
        · exact hhead entry hmem
      · rename_i hlt hgt
        have heq : key = k := eq_of_not_lt hlt hgt
        exact List.pairwise_cons.2 ⟨heq ▸ hhead, hrest⟩

def insert (table : Table α) (key : String) (value : α) : Table α :=
  ⟨put key value table.entries, pairwise_put table.ordered⟩

/-- Stores a value unless the key has one already. -/
def insertNew (table : Table α) (key : String) (value : α) : Table α :=
  if table.contains key then table else table.insert key value

/-- Stores every entry of a list in turn; of two entries with one key the later one stays. -/
def insertAll (table : Table α) (entries : List (String × α)) : Table α :=
  entries.foldl (fun done entry => done.insert entry.1 entry.2) table

/-- The table of a list of entries; of two entries with one key the later one stays. -/
def ofList (entries : List (String × α)) : Table α := empty.insertAll entries

def erase (table : Table α) (key : String) : Table α :=
  ⟨table.entries.filter fun entry => !(entry.1 == key), table.ordered.filter _⟩

def mapEntries (f : String → α → β) (table : Table α) : Table β :=
  ⟨table.entries.map fun entry => (entry.1, f entry.1 entry.2),
    List.pairwise_map.2 table.ordered⟩

def map (f : α → β) (table : Table α) : Table β := table.mapEntries fun _ => f

/-! ## Look-up -/

theorem lookup_put {key other : String} {value : α} {entries : List (String × α)} :
    (put key value entries).lookup other =
      if other = key then some value else entries.lookup other := by
  induction entries with
  | nil => simp only [put, List.lookup_cons, List.lookup_nil]; grind
  | cons head rest ih =>
    obtain ⟨k, v⟩ := head
    rw [put]
    split
    · simp only [List.lookup_cons]; grind
    · split
      · rename_i hlt
        have hne : k ≠ key := fun heq => String.lt_irrefl k (heq ▸ hlt)
        simp only [List.lookup_cons, ih]; grind
      · rename_i hlt hgt
        have heq : key = k := eq_of_not_lt hlt hgt
        subst heq
        simp only [List.lookup_cons]; grind

@[simp]
theorem get?_empty (key : String) : (empty : Table α).get? key = none := rfl

@[simp]
theorem get?_insert (table : Table α) (key other : String) (value : α) :
    (table.insert key value).get? other = if other = key then some value else table.get? other :=
  lookup_put

/-- A value that is there stays. -/
theorem get?_insertNew (table : Table α) (key other : String) (value : α) :
    (table.insertNew key value).get? other =
      if other = key then some ((table.get? key).getD value) else table.get? other := by
  unfold insertNew contains
  cases hget : table.get? key with
  | none => simp
  | some old => by_cases heq : other = key <;> simp [heq, hget]

theorem get?_insertNew_of_get? {table : Table α} {key other : String} {value found : α}
    (hfound : table.get? key = some found) :
    (table.insertNew other value).get? key = some found := by
  rw [get?_insertNew]
  split
  next heq => rw [← heq, hfound, Option.getD_some]
  next => exact hfound

/-- What is found after a value was offered is the value itself or was found before. -/
theorem eq_or_get?_of_get?_insertNew {table : Table α} {key other : String} {value found : α}
    (hfound : (table.insertNew key value).get? other = some found) :
    other = key ∧ found = value ∨ table.get? other = some found := by
  rw [get?_insertNew] at hfound
  split at hfound
  · rename_i heq
    cases hget : table.get? key with
    | none =>
      rw [hget, Option.getD_none, Option.some.injEq] at hfound
      exact .inl ⟨heq, hfound.symm⟩
    | some old =>
      rw [hget, Option.getD_some] at hfound
      exact .inr (by rw [heq, hget, hfound])
  · exact .inr hfound

@[simp]
theorem get?_erase (table : Table α) (key other : String) :
    (table.erase key).get? other = if other = key then none else table.get? other := by
  obtain ⟨entries, hordered⟩ := table
  simp only [get?, erase]
  clear hordered
  induction entries with
  | nil => simp
  | cons head rest ih =>
    obtain ⟨k, v⟩ := head
    simp only [List.filter_cons, List.lookup_cons]
    by_cases hk : k = key <;> by_cases ho : other = k <;> grind

@[simp]
theorem get?_mapEntries (f : String → α → β) (table : Table α) (key : String) :
    (table.mapEntries f).get? key = (table.get? key).map (f key) := by
  obtain ⟨entries, hordered⟩ := table
  simp only [get?, mapEntries]
  clear hordered
  induction entries with
  | nil => simp
  | cons head rest ih =>
    obtain ⟨k, v⟩ := head
    simp only [List.map_cons, List.lookup_cons]
    by_cases hk : key = k
    · subst hk; simp
    · have : (key == k) = false := by simpa using hk
      simp [this, ih]

/-- Entries outweigh those before them, and the table's own. -/
theorem get?_insertAll (table : Table α) (entries : List (String × α)) (key : String) :
    (table.insertAll entries).get? key =
      ((entries.reverse.lookup key).or (table.get? key)) := by
  induction entries generalizing table with
  | nil => simp [insertAll]
  | cons head rest ih =>
    obtain ⟨k, v⟩ := head
    have hstep : table.insertAll ((k, v) :: rest) = (table.insert k v).insertAll rest := rfl
    rw [hstep, ih, get?_insert, List.reverse_cons, List.lookup_append]
    by_cases hk : key = k
    · subst hk; simp
    · have : (key == k) = false := by simpa using hk
      simp [hk, this, List.lookup_cons]

/-- The last entry of a key is the one that stays. -/
theorem get?_ofList (entries : List (String × α)) (key : String) :
    (ofList entries).get? key = entries.reverse.lookup key := by
  rw [ofList, get?_insertAll, get?_empty, Option.or_none]

theorem mem_of_lookup_eq_some {entries : List (String × α)} {key : String} {value : α}
    (hlookup : entries.lookup key = some value) : (key, value) ∈ entries := by
  obtain ⟨before, after, heq, -⟩ := List.lookup_eq_some_iff.1 hlookup
  simp [heq]

theorem mem_of_get?_ofList {entries : List (String × α)} {key : String} {value : α}
    (hget : (ofList entries).get? key = some value) : (key, value) ∈ entries := by
  rw [get?_ofList] at hget
  exact List.mem_reverse.1 (mem_of_lookup_eq_some hget)

theorem isSome_get?_ofList {entries : List (String × α)} {entry : String × α}
    (hmem : entry ∈ entries) : ((ofList entries).get? entry.1).isSome := by
  rw [get?_ofList, List.lookup_isSome_iff]
  exact ⟨entry, List.mem_reverse.2 hmem, by simp⟩

theorem lookup_eq_some_iff_mem {entries : List (String × α)} {key : String} {value : α}
    (hordered : entries.Pairwise fun left right => left.1 < right.1) :
    entries.lookup key = some value ↔ (key, value) ∈ entries := by
  induction entries with
  | nil => simp
  | cons head rest ih =>
    obtain ⟨k, v⟩ := head
    obtain ⟨hhead, hrest⟩ := List.pairwise_cons.1 hordered
    rw [List.lookup_cons, List.mem_cons, Prod.mk.injEq]
    by_cases hk : key = k
    · subst hk
      simp only [beq_self_eq_true, Option.some.injEq, true_and]
      constructor
      · exact fun heq => .inl heq.symm
      · rintro (heq | hmem)
        · exact heq.symm
        · exact absurd (hhead _ hmem) (String.lt_irrefl _)
    · have : (key == k) = false := by simpa using hk
      simp [this, hk, ih hrest]

theorem get?_eq_some_iff {table : Table α} {key : String} {value : α} :
    table.get? key = some value ↔ (key, value) ∈ table.entries :=
  lookup_eq_some_iff_mem table.ordered

theorem contains_iff_mem_keys {table : Table α} {key : String} :
    table.contains key = true ↔ key ∈ table.keys := by
  rw [contains, Option.isSome_iff_exists, keys, List.mem_map]
  constructor
  · rintro ⟨value, hget⟩
    exact ⟨_, get?_eq_some_iff.1 hget, rfl⟩
  · rintro ⟨⟨k, v⟩, hmem, rfl⟩
    exact ⟨v, get?_eq_some_iff.2 hmem⟩

/-- The keys are those that have a value. -/
theorem mem_keys_iff {table : Table α} {key : String} :
    key ∈ table.keys ↔ ∃ value, table.get? key = some value := by
  rw [← contains_iff_mem_keys, contains, Option.isSome_iff_exists]

theorem keys_pairwise (table : Table α) : table.keys.Pairwise (· < ·) :=
  List.pairwise_map.2 table.ordered

theorem keys_nodup (table : Table α) : table.keys.Nodup := by
  refine table.keys_pairwise.imp ?_
  rintro key _ hlt rfl
  exact String.lt_irrefl key hlt

theorem nodup_entries (table : Table α) : table.entries.Nodup := by
  refine table.ordered.imp ?_
  rintro entry _ hlt rfl
  exact String.lt_irrefl entry.1 hlt

/-- Lists in order that have the same values are the same. -/
theorem entries_ext {left right : List (String × α)}
    (hleft : left.Pairwise fun a b => a.1 < b.1) (hright : right.Pairwise fun a b => a.1 < b.1)
    (hmem : ∀ entry, entry ∈ left ↔ entry ∈ right) : left = right := by
  induction left generalizing right with
  | nil =>
    cases right with
    | nil => rfl
    | cons head rest => exact absurd ((hmem head).2 (.head _)) (by simp)
  | cons a as ih =>
    cases right with
    | nil => exact absurd ((hmem a).1 (.head _)) (by simp)
    | cons b bs =>
      obtain ⟨ha, has⟩ := List.pairwise_cons.1 hleft
      obtain ⟨hb, hbs⟩ := List.pairwise_cons.1 hright
      have heq : a = b := by
        rcases List.mem_cons.1 ((hmem a).1 (.head _)) with heq | hin
        · exact heq
        · rcases List.mem_cons.1 ((hmem b).2 (.head _)) with heq | hin'
          · exact heq.symm
          · exact absurd (String.lt_trans (hb a hin) (ha b hin')) (String.lt_irrefl _)
      subst heq
      congr 1
      refine ih has hbs fun entry => ⟨fun hin => ?_, fun hin => ?_⟩
      · rcases List.mem_cons.1 ((hmem entry).1 (.tail _ hin)) with rfl | h
        · exact absurd (ha _ hin) (String.lt_irrefl _)
        · exact h
      · rcases List.mem_cons.1 ((hmem entry).2 (.tail _ hin)) with rfl | h
        · exact absurd (hb _ hin) (String.lt_irrefl _)
        · exact h

/-- Tables with the same look-ups are equal. -/
theorem ext_get? {left right : Table α} (hget : ∀ key, left.get? key = right.get? key) :
    left = right := by
  have hentries : left.entries = right.entries :=
    entries_ext left.ordered right.ordered fun ⟨key, value⟩ => by
      rw [← get?_eq_some_iff, ← get?_eq_some_iff, hget]
  cases left; cases right; simp_all

/-- Entries in order make up the table that holds them. -/
theorem ofList_entries (table : Table α) : ofList table.entries = table := by
  refine ext_get? fun key => ?_
  cases hread : (ofList table.entries).get? key with
  | some value => exact (get?_eq_some_iff.2 (mem_of_get?_ofList hread)).symm
  | none =>
    cases hget : table.get? key with
    | none => rfl
    | some value =>
      have hsome := isSome_get?_ofList (get?_eq_some_iff.1 hget)
      rw [hread] at hsome
      cases hsome

end Table

end RestQuery
