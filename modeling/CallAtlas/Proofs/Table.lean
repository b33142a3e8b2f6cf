import Mathlib.Data.List.Induction
import Mathlib.Data.List.Nodup
import CallAtlas.Table

/-!
Tables that are filled pair by pair.  The keys stand in order of their first occurrence, and a key
has the value of its last one.
-/

namespace CallAtlas

section FirstOccurrence

variable {α : Type} [BEq α] [LawfulBEq α]

/-- A last element counts only if it did not occur before. -/
theorem eraseDups_concat (xs : List α) (x : α) [Decidable (x ∈ xs)] :
    (xs ++ [x]).eraseDups = if x ∈ xs then xs.eraseDups else xs.eraseDups ++ [x] := by
  rw [List.eraseDups_append]
  by_cases hx : x ∈ xs
  · simp [List.removeAll, hx]
  · simp [List.removeAll, hx, List.eraseDups_cons]

theorem nodup_eraseDups (xs : List α) : xs.eraseDups.Nodup := by
  classical
  induction xs using List.reverseRecOn with
  | nil => simp
  | append_singleton xs x ih =>
      rw [eraseDups_concat]
      by_cases hx : x ∈ xs
      · simpa [hx] using ih
      · rw [if_neg hx]
        refine List.nodup_append.mpr ⟨ih, List.nodup_singleton x, ?_⟩
        intro y hy z hz heq
        rw [List.mem_singleton] at hz
        rw [List.mem_eraseDups, heq, hz] at hy
        exact hx hy

end FirstOccurrence

namespace Table

variable {κ α : Type}

theorem filterKeys_filterKeys (table : Table κ α) (keep other : κ → Bool) :
    (table.filterKeys keep).filterKeys other =
      table.filterKeys fun key => other key && keep key :=
  Table.ext (List.filter_filter ..)

theorem filterKeys_congr {table : Table κ α} {keep other : κ → Bool}
    (h : ∀ key ∈ table.keys, keep key = other key) :
    table.filterKeys keep = table.filterKeys other := by
  apply Table.ext
  apply List.filter_congr
  intro entry hentry
  exact h entry.1 (List.mem_map_of_mem hentry)

variable [DecidableEq κ]

theorem put_of_find {key : κ} {value : α} {entries : List (κ × α)}
    (hfind : find key entries = some value) : put key value entries = entries := by
  induction entries with
  | nil => simp [find] at hfind
  | cons head rest ih =>
      obtain ⟨k, v⟩ := head
      by_cases hk : k = key
      · subst hk
        obtain rfl : v = value := by simpa [find] using hfind
        simp [put]
      · have hrest : find key rest = some value := by simpa [find, hk] using hfind
        rw [put, if_neg hk, ih hrest]

theorem filter_put {key : κ} (keep : κ → Bool) (hkeep : keep key = true) (value : α)
    (entries : List (κ × α)) :
    (put key value entries).filter (fun entry => keep entry.1) =
      put key value (entries.filter fun entry => keep entry.1) := by
  induction entries with
  | nil => simp [put, hkeep]
  | cons head rest ih =>
      obtain ⟨k, v⟩ := head
      by_cases hk : k = key
      · subst hk
        simp [put, hkeep]
      · cases hkept : keep k with
        | true => simp [put, hk, hkept, ih]
        | false => simp [put, hk, hkept, ih]

theorem keys_insert (table : Table κ α) (key : κ) (value : α) :
    (table.insert key value).keys =
      if key ∈ table.keys then table.keys else table.keys ++ [key] := by
  by_cases hkey : key ∈ table.keys
  · rw [if_pos hkey]
    exact map_fst_put_of_mem hkey value
  · have hput : (table.insert key value).entries = table.entries ++ [(key, value)] :=
      put_of_not_mem hkey value
    rw [if_neg hkey, keys, hput, List.map_append]
    rfl

/-- Giving a key the value that it has changes nothing. -/
theorem insert_of_get? {table : Table κ α} {key : κ} {value : α}
    (hvalue : table.get? key = some value) : table.insert key value = table :=
  Table.ext (put_of_find hvalue)

/-- Storing a key that is kept and dropping others commute. -/
theorem filterKeys_insert (table : Table κ α) (keep : κ → Bool) {key : κ} (hkeep : keep key = true)
    (value : α) :
    (table.insert key value).filterKeys keep = (table.filterKeys keep).insert key value :=
  Table.ext (filter_put keep hkeep value table.entries)

theorem find_append (key : κ) (first second : List (κ × α)) :
    find key (first ++ second) = (find key first).or (find key second) := by
  induction first with
  | nil => rfl
  | cons head rest ih =>
      obtain ⟨k, v⟩ := head
      by_cases hk : k = key <;> simp [find, hk, ih]

/-- Where a key stands once at most, its first value is its last. -/
theorem find_reverse_of_count_le_one {key : κ} {entries : List (κ × α)}
    (hcount : (entries.map Prod.fst).count key ≤ 1) :
    find key entries.reverse = find key entries := by
  induction entries with
  | nil => rfl
  | cons head rest ih =>
      obtain ⟨k, v⟩ := head
      rw [List.reverse_cons, find_append]
      by_cases hkey : k = key
      · subst hkey
        rw [List.map_cons, List.count_cons_self] at hcount
        have hnone : find k rest.reverse = none := by
          rw [find_eq_none_iff, List.map_reverse, List.mem_reverse]
          apply List.count_eq_zero.mp
          omega
        simp [hnone, find]
      · rw [List.map_cons, List.count_cons_of_ne hkey] at hcount
        rw [ih hcount]
        simp [find, hkey]

/-- The table with some pairs inserted one after the other. -/
def insertAll (table : Table κ α) (pairs : List (κ × α)) : Table κ α :=
  pairs.foldl (fun table pair => table.insert pair.1 pair.2) table

theorem keys_insertAll {table : Table κ α} {names : List κ} (hkeys : table.keys = names.eraseDups)
    (pairs : List (κ × α)) :
    (table.insertAll pairs).keys = (names ++ pairs.map Prod.fst).eraseDups := by
  induction pairs generalizing table names with
  | nil => rwa [List.map_nil, List.append_nil]
  | cons pair rest ih =>
      have hstep : (table.insert pair.1 pair.2).keys = (names ++ [pair.1]).eraseDups := by
        rw [keys_insert, hkeys, eraseDups_concat]
        simp only [List.mem_eraseDups]
      have hrest := ih hstep
      rwa [List.append_assoc, List.singleton_append] at hrest

theorem get?_insertAll (table : Table κ α) (pairs : List (κ × α)) (key : κ) :
    (table.insertAll pairs).get? key = (find key pairs.reverse).or (table.get? key) := by
  induction pairs generalizing table with
  | nil => rfl
  | cons pair rest ih =>
      have hlast : find key [pair] = if pair.1 = key then some pair.2 else none := rfl
      have hstep : table.insertAll (pair :: rest) =
          (table.insert pair.1 pair.2).insertAll rest := rfl
      rw [hstep, ih, get?_insert, List.reverse_cons, find_append, hlast, Option.or_assoc]
      by_cases hkey : pair.1 = key <;> simp [hkey]

/-- A value of a table of pairs stands in one of them. -/
theorem mem_of_get?_ofList {pairs : List (κ × α)} {key : κ} {value : α}
    (h : (ofList pairs).get? key = some value) : (key, value) ∈ pairs := by
  have hfind := get?_insertAll empty pairs key
  rw [get?_empty, Option.or_none] at hfind
  exact List.mem_reverse.mp (mem_of_find (hfind.symm.trans h))

end Table

end CallAtlas
