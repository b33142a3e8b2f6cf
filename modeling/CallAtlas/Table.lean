/-!
Finite maps that remember the order in which their keys arrived.  Giving a key a new value keeps
the key's place, so the order of `keys` is the order of first insertion.
-/

namespace CallAtlas

/-- Key-value pairs in order of first insertion, each key once. -/
@[ext] structure Table (κ α : Type) where
  entries : List (κ × α)
  nodup : (entries.map Prod.fst).Nodup
deriving Repr, DecidableEq

namespace Table

variable {κ α : Type}

def empty : Table κ α := ⟨[], List.nodup_nil⟩

instance : Inhabited (Table κ α) := ⟨empty⟩

def keys (table : Table κ α) : List κ := table.entries.map Prod.fst

def size (table : Table κ α) : Nat := table.entries.length

/-- The pairs whose keys are to be kept. -/
def filterKeys (table : Table κ α) (keep : κ → Bool) : Table κ α where
  entries := table.entries.filter fun entry => keep entry.1
  nodup := table.nodup.sublist (List.filter_sublist.map Prod.fst)

variable [DecidableEq κ]

/-- The value of the first pair with this key. -/
def find (key : κ) : List (κ × α) → Option α
  | [] => none
  | (k, v) :: rest => if k = key then some v else find key rest

/-- Replaces the value of the first pair with this key, or adds a pair at the end. -/
def put (key : κ) (value : α) : List (κ × α) → List (κ × α)
  | [] => [(key, value)]
  | (k, v) :: rest => if k = key then (key, value) :: rest else (k, v) :: put key value rest

/-- A key that is not there goes to the end. -/
theorem put_of_not_mem {key : κ} {entries : List (κ × α)} (hkey : key ∉ entries.map Prod.fst)
    (value : α) : put key value entries = entries ++ [(key, value)] := by
  induction entries with
  | nil => rfl
  | cons head rest ih =>
      obtain ⟨k, v⟩ := head
      simp only [List.map_cons, List.mem_cons, not_or] at hkey
      rw [put, if_neg (Ne.symm hkey.1), ih hkey.2, List.cons_append]

/-- A key that is there keeps its place. -/
theorem map_fst_put_of_mem {key : κ} {entries : List (κ × α)} (hkey : key ∈ entries.map Prod.fst)
    (value : α) : (put key value entries).map Prod.fst = entries.map Prod.fst := by
  induction entries with
  | nil => simp at hkey
  | cons head rest ih =>
      obtain ⟨k, v⟩ := head
      by_cases hk : k = key
      · simp [put, hk]
      · have hrest : key ∈ rest.map Prod.fst := by
          simpa [Ne.symm hk] using hkey
        simp only [put, hk, if_false, List.map_cons, ih hrest]

theorem nodup_put {entries : List (κ × α)} (hnodup : (entries.map Prod.fst).Nodup) (key : κ)
    (value : α) : ((put key value entries).map Prod.fst).Nodup := by
  by_cases hkey : key ∈ entries.map Prod.fst
  · rwa [map_fst_put_of_mem hkey]
  · rw [put_of_not_mem hkey, List.map_append, List.nodup_append]
    refine ⟨hnodup, by simp, ?_⟩
    intro other hother last hlast heq
    obtain rfl : last = key := by simpa using hlast
    exact hkey (heq ▸ hother)

def get? (table : Table κ α) (key : κ) : Option α := find key table.entries

def contains (table : Table κ α) (key : κ) : Bool := (table.get? key).isSome

def insert (table : Table κ α) (key : κ) (value : α) : Table κ α :=
  ⟨put key value table.entries, nodup_put table.nodup key value⟩

def erase (table : Table κ α) (key : κ) : Table κ α :=
  table.filterKeys fun other => decide (other ≠ key)

/-- Inserts the pairs one after the other, so that the last value of a key wins. -/
def ofList (pairs : List (κ × α)) : Table κ α :=
  pairs.foldl (fun table pair => table.insert pair.1 pair.2) empty

@[simp] theorem get?_empty (key : κ) : (empty : Table κ α).get? key = none := rfl

@[simp] theorem find_put (key other : κ) (value : α) (entries : List (κ × α)) :
    find other (put key value entries) = if key = other then some value else find other entries := by
  induction entries with
  | nil => simp [put, find]
  | cons head rest ih =>
      obtain ⟨k, v⟩ := head
      by_cases hk : k = key
      · subst hk
        by_cases ho : k = other <;> simp [put, find, ho]
      · by_cases ho : k = other
        · subst ho
          simp [put, find, hk, Ne.symm hk]
        · simp [put, find, hk, ho, ih]

theorem mem_of_find {key : κ} {value : α} {entries : List (κ × α)}
    (hfind : find key entries = some value) : (key, value) ∈ entries := by
  induction entries with
  | nil => simp [find] at hfind
  | cons head rest ih =>
      obtain ⟨k, v⟩ := head
      by_cases hk : k = key
      · subst hk
        simp only [find, if_true, Option.some.injEq] at hfind
        simp [hfind]
      · simp only [find, hk, if_false] at hfind
        exact List.mem_cons_of_mem _ (ih hfind)

theorem find_eq_none_iff {key : κ} {entries : List (κ × α)} :
    find key entries = none ↔ key ∉ entries.map Prod.fst := by
  induction entries with
  | nil => simp [find]
  | cons head rest ih =>
      obtain ⟨k, v⟩ := head
      by_cases hk : k = key
      · simp [find, hk]
      · simp only [find, hk, if_false, ih, List.map_cons, List.mem_cons, Ne.symm hk, false_or]

theorem get?_eq_none_iff (table : Table κ α) (key : κ) :
    table.get? key = none ↔ key ∉ table.keys := find_eq_none_iff

theorem get?_insert (table : Table κ α) (key other : κ) (value : α) :
    (table.insert key value).get? other = if key = other then some value else table.get? other :=
  find_put key other value table.entries

theorem find_filter_ne (key other : κ) (entries : List (κ × α)) :
    find other (entries.filter fun entry => decide (entry.1 ≠ key)) =
      if key = other then none else find other entries := by
  induction entries with
  | nil => simp [find]
  | cons head rest ih =>
      obtain ⟨k, v⟩ := head
      by_cases hk : k = key
      · subst hk
        by_cases ho : k = other
        · subst ho
          simpa [find] using ih
        · simpa [find, ho] using ih
      · by_cases ho : k = other
        · subst ho
          simp [find, hk, Ne.symm hk]
        · simp only [find, ho, hk, ih, List.filter_cons, ne_eq, not_false_eq_true, decide_true,
            if_true, if_false]

theorem get?_erase (table : Table κ α) (key other : κ) :
    (table.erase key).get? other = if key = other then none else table.get? other :=
  find_filter_ne key other table.entries

end Table

end CallAtlas
