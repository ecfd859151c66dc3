import Mathlib.Data.List.Nodup
import Mathlib.Data.List.Basic

namespace KeyValue

/-!
# Insertion-ordered dictionaries

A finite map kept as a list of entries in insertion order, the way a scripting
language's dictionary iterates: overwriting a key keeps its place, a new key goes to
the end.  The list's keys are pairwise distinct, and that fact travels with the value
(`Dict.nodup`), so every lookup law below holds without a side condition.

* `get?_set`, `get?_erase`, `get?_filter` — what one lookup sees after one update;
* `mem_entries_iff` — an entry is in the list exactly when the lookup finds it;
* `size_set_of_mem`, `size_set_of_not_mem`, `size_erase_lt`, `size_filter_le` — how the number of
  entries moves.
-/

variable {κ ν : Type*}

/-- A finite map as a list of entries with pairwise distinct keys. -/
structure Dict (κ ν : Type*) where
  /-- The entries, oldest key first. -/
  entries : List (κ × ν)
  /-- No key occurs twice. -/
  nodup : (entries.map Prod.fst).Nodup

namespace Dict

/-- The dictionary with no entry. -/
def empty : Dict κ ν := ⟨[], List.nodup_nil⟩

/-- The number of entries. -/
def size (d : Dict κ ν) : ℕ := d.entries.length

@[simp] theorem entries_empty : (empty : Dict κ ν).entries = [] := rfl

@[simp] theorem size_empty : (empty : Dict κ ν).size = 0 := rfl

/-- Keep the entries that satisfy `p`. -/
def filter (d : Dict κ ν) (p : κ → ν → Bool) : Dict κ ν where
  entries := d.entries.filter fun e => p e.1 e.2
  nodup := d.nodup.sublist (List.filter_sublist.map _)

/-- Filtering out nothing changes nothing. -/
theorem filter_eq_self (d : Dict κ ν) {p : κ → ν → Bool} (h : ∀ e ∈ d.entries, p e.1 e.2 = true) :
    d.filter p = d := by
  obtain ⟨entries, nodup⟩ := d
  simp only [filter, mk.injEq]
  exact List.filter_eq_self.mpr h

theorem size_filter_le (d : Dict κ ν) (p : κ → ν → Bool) : (d.filter p).size ≤ d.size :=
  List.length_filter_le _ _

/-- A filter that loses no entry keeps every one. -/
theorem all_of_size_filter {d : Dict κ ν} {p : κ → ν → Bool} (h : d.size ≤ (d.filter p).size) :
    ∀ e ∈ d.entries, p e.1 e.2 = true :=
  List.length_filter_eq_length_iff.mp (Nat.le_antisymm (size_filter_le d p) h)

variable [DecidableEq κ]

/-- The value stored under `k`, if any. -/
def get? (d : Dict κ ν) (k : κ) : Option ν :=
  (d.entries.find? fun e => decide (e.1 = k)).map Prod.snd

/-- Overwriting keeps the list of keys. -/
private theorem map_fst_replace (l : List (κ × ν)) (k : κ) (v : ν) :
    (l.map fun e => if e.1 = k then (k, v) else e).map Prod.fst = l.map Prod.fst := by
  rw [List.map_map]
  refine List.map_congr_left fun e _ => ?_
  by_cases h : e.1 = k <;> simp [h]

/-- Store `v` under `k`: in place when `k` is present, at the end otherwise. -/
def set (d : Dict κ ν) (k : κ) (v : ν) : Dict κ ν where
  entries :=
    if k ∈ d.entries.map Prod.fst then d.entries.map fun e => if e.1 = k then (k, v) else e
    else d.entries ++ [(k, v)]
  nodup := by
    split
    · rw [map_fst_replace]
      exact d.nodup
    · rename_i hk
      rw [List.map_append]
      refine List.Nodup.append d.nodup (List.nodup_singleton _) ?_
      intro x hx hx'
      rw [List.map_singleton, List.mem_singleton] at hx'
      subst hx'
      exact hk hx

/-- Remove the entry under `k`, if any. -/
def erase (d : Dict κ ν) (k : κ) : Dict κ ν := d.filter fun k' _ => decide (k' ≠ k)

@[simp] theorem get?_empty (k : κ) : (empty : Dict κ ν).get? k = none := rfl

/-- In a list with distinct keys, finding by key and being an entry are the same. -/
private theorem find?_key_eq_some (l : List (κ × ν)) (hl : (l.map Prod.fst).Nodup)
    (k : κ) (v : ν) :
    (l.find? fun e => decide (e.1 = k)).map Prod.snd = some v ↔ (k, v) ∈ l := by
  induction l with
  | nil => simp
  | cons e l ih =>
    rw [List.map_cons, List.nodup_cons] at hl
    obtain ⟨hfresh, hrest⟩ := hl
    by_cases he : e.1 = k
    · have hnot : (k, v) ∉ l := fun hmem => hfresh (he ▸ List.mem_map_of_mem (f := Prod.fst) hmem)
      rw [List.find?_cons_of_pos (by simpa using he)]
      simp only [Option.map_some, Option.some.injEq, List.mem_cons, hnot, or_false]
      constructor
      · rintro rfl
        exact Prod.ext he.symm rfl
      · rintro rfl
        rfl
    · rw [List.find?_cons_of_neg (by simpa using he), ih hrest]
      simp only [List.mem_cons]
      constructor
      · exact Or.inr
      · rintro (rfl | hmem)
        · exact absurd rfl he
        · exact hmem

/-- The lookup finds exactly the entries. -/
theorem mem_entries_iff (d : Dict κ ν) (k : κ) (v : ν) :
    (k, v) ∈ d.entries ↔ d.get? k = some v :=
  (find?_key_eq_some d.entries d.nodup k v).symm

/-- A key is listed exactly when the lookup finds something. -/
theorem mem_keys_iff (d : Dict κ ν) (k : κ) :
    k ∈ d.entries.map Prod.fst ↔ d.get? k ≠ none := by
  rw [Option.ne_none_iff_exists']
  simp only [List.mem_map, ← mem_entries_iff]
  constructor
  · rintro ⟨⟨_, v⟩, hmem, rfl⟩
    exact ⟨v, hmem⟩
  · rintro ⟨v, hmem⟩
    exact ⟨(k, v), hmem, rfl⟩

theorem get?_filter (d : Dict κ ν) (p : κ → ν → Bool) (k : κ) :
    (d.filter p).get? k = (d.get? k).filter (p k) := by
  refine Option.ext fun v => ?_
  rw [Option.filter_eq_some_iff, ← mem_entries_iff, ← mem_entries_iff]
  simp [filter]

/-- Storing changes exactly one key. -/
theorem get?_set (d : Dict κ ν) (k k' : κ) (v : ν) :
    (d.set k v).get? k' = if k' = k then some v else d.get? k' := by
  refine Option.ext fun w => ?_
  rw [← mem_entries_iff]
  unfold set
  -- a key that is there keeps its place, a new one goes to the end
  by_cases hk : k ∈ d.entries.map Prod.fst
  · simp only [hk, if_true, List.mem_map, Prod.exists]
    by_cases hkk : k' = k
    · subst hkk
      rw [if_pos rfl]
      constructor
      · rintro ⟨a, b, hab, he⟩
        by_cases ha : a = k'
        · rw [if_pos ha] at he
          exact congrArg (some ·.2) he
        · rw [if_neg ha] at he
          exact absurd (congrArg Prod.fst he) ha
      · intro hw
        obtain ⟨⟨a, b⟩, hab, rfl⟩ := List.mem_map.mp hk
        exact ⟨a, b, hab, by rw [if_pos rfl, Option.some.inj hw]⟩
    · rw [if_neg hkk, ← mem_entries_iff]
      constructor
      · rintro ⟨a, b, hab, he⟩
        by_cases ha : a = k
        · rw [if_pos ha] at he
          exact absurd (congrArg Prod.fst he).symm hkk
        · rw [if_neg ha] at he
          exact he ▸ hab
      · intro hmem
        exact ⟨k', w, hmem, if_neg hkk⟩
  · simp only [hk, if_false, List.mem_append, List.mem_singleton]
    by_cases hkk : k' = k
    · subst hkk
      have hnot : (k', w) ∉ d.entries := fun hmem => hk (List.mem_map_of_mem (f := Prod.fst) hmem)
      simp [hnot, eq_comm]
    · simp [hkk, mem_entries_iff]

@[simp] theorem get?_set_self (d : Dict κ ν) (k : κ) (v : ν) : (d.set k v).get? k = some v := by
  rw [get?_set, if_pos rfl]

theorem get?_set_ne (d : Dict κ ν) {k k' : κ} (v : ν) (h : k' ≠ k) :
    (d.set k v).get? k' = d.get? k' := by
  rw [get?_set, if_neg h]

/-- Removing changes exactly one key. -/
theorem get?_erase (d : Dict κ ν) (k k' : κ) :
    (d.erase k).get? k' = if k' = k then none else d.get? k' := by
  unfold erase
  rw [get?_filter]
  by_cases h : k' = k
  · cases d.get? k' <;> simp [h]
  · cases d.get? k' <;> simp [h]

@[simp] theorem get?_erase_self (d : Dict κ ν) (k : κ) : (d.erase k).get? k = none := by
  rw [get?_erase, if_pos rfl]

theorem get?_erase_ne (d : Dict κ ν) {k k' : κ} (h : k' ≠ k) :
    (d.erase k).get? k' = d.get? k' := by
  rw [get?_erase, if_neg h]

/-- Removing a present key removes an entry. -/
theorem size_erase_lt (d : Dict κ ν) {k : κ} (h : d.get? k ≠ none) : (d.erase k).size < d.size := by
  obtain ⟨v, hv⟩ := Option.ne_none_iff_exists'.mp h
  rw [size, size, erase, filter, List.length_filter_lt_length_iff_exists]
  exact ⟨(k, v), (mem_entries_iff d k v).mpr hv, by simp⟩

/-- Overwriting a present key keeps the number of entries. -/
theorem size_set_of_mem (d : Dict κ ν) {k : κ} (v : ν) (h : d.get? k ≠ none) :
    (d.set k v).size = d.size := by
  rw [← mem_keys_iff] at h
  simp [size, set, h]

/-- A new key adds one entry. -/
theorem size_set_of_not_mem (d : Dict κ ν) {k : κ} (v : ν) (h : d.get? k = none) :
    (d.set k v).size = d.size + 1 := by
  have hk : k ∉ d.entries.map Prod.fst := by
    rw [mem_keys_iff]
    exact fun hne => hne h
  simp [size, set, hk]

end Dict

end KeyValue
