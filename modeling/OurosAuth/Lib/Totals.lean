import Mathlib.Algebra.BigOperators.Group.List.Basic
import OurosAuth.Lib.Dict

namespace KeyValue

/-!
# Sums over a dictionary

A dictionary of counters: what is counted under a key is added to the value there, and a sum is
taken over the values of a set of keys.

* `Dict.total_add` — one addition moves exactly the sums whose keys it is among;
* `Dict.total_foldl_add`, `Dict.total_foldl_count` — the sums after a stream of additions, and of
  ones;
* `Dict.total_singleton` — the sum over one key is the lookup.
-/

namespace Dict

variable {κ ν α M : Type*} [AddCommMonoid M]

/-- The sum over the keys in `p`. -/
def total (d : Dict κ M) (p : κ → Bool) : M :=
  ((d.entries.filter fun e => p e.1).map Prod.snd).sum

@[simp] theorem total_empty {p : κ → Bool} : (empty : Dict κ M).total p = 0 := rfl

variable [DecidableEq κ]

/-- Count `δ` under `k`; a key that is not there yet starts at zero. -/
def add (d : Dict κ M) (k : κ) (δ : M) : Dict κ M := d.set k ((d.get? k).getD 0 + δ)

/-- The entries around a key that is present; an update leaves them where they are. -/
theorem entries_split {d : Dict κ ν} {k : κ} {w : ν} (h : d.get? k = some w) :
    ∃ before after, d.entries = before ++ (k, w) :: after ∧
      (∀ e ∈ before ++ after, e.1 ≠ k) ∧
      ∀ v, (d.set k v).entries = before ++ (k, v) :: after := by
  obtain ⟨before, after, hentries⟩ := List.append_of_mem ((mem_entries_iff d k w).mpr h)
  have hnodup := d.nodup
  rw [hentries, List.map_append, List.map_cons, List.nodup_middle, List.nodup_cons,
    ← List.map_append] at hnodup
  have hothers : ∀ e ∈ before ++ after, e.1 ≠ k := by
    intro e he heq
    exact hnodup.1 (List.mem_map.mpr ⟨e, he, heq⟩)
  refine ⟨before, after, hentries, hothers, fun v => ?_⟩
  -- `set` maps over the whole list, but only the entry under `k` moves
  have hkeep : ∀ l : List (κ × ν), (∀ e ∈ l, e ∈ before ++ after) →
      (l.map fun e => if e.1 = k then (k, v) else e) = l := by
    intro l hl
    conv_rhs => rw [← List.map_id l]
    exact List.map_congr_left fun e he => if_neg (hothers e (hl e he))
  have hmem : k ∈ d.entries.map Prod.fst := by
    rw [mem_keys_iff, h]
    exact Option.some_ne_none w
  simp only [set, if_pos hmem]
  rw [hentries, List.map_append, List.map_cons, if_pos rfl,
    hkeep before fun _ => List.mem_append_left _, hkeep after fun _ => List.mem_append_right _]

/-- A new key goes to the end. -/
theorem entries_set_of_none {d : Dict κ ν} {k : κ} (v : ν) (h : d.get? k = none) :
    (d.set k v).entries = d.entries ++ [(k, v)] := by
  have hk : k ∉ d.entries.map Prod.fst := by
    rw [mem_keys_iff, h]
    exact fun hne => hne rfl
  simp only [set, if_neg hk]

variable {d : Dict κ M} {k : κ} {δ : M} {p : κ → Bool}

/-- **One addition** moves the sums over the sets its key is in, and no others. -/
theorem total_add : (d.add k δ).total p = d.total p + if p k = true then δ else 0 := by
  unfold add total
  cases h : d.get? k with
  | none =>
    rw [entries_set_of_none _ h, List.filter_append, List.map_append, List.sum_append]
    cases hp : p k <;> simp [hp]
  | some w =>
    -- the entries before and after are in both sums
    obtain ⟨before, after, hentries, -, hset⟩ := entries_split h
    rw [hset, hentries]
    simp only [List.filter_append, List.filter_cons]
    cases hp : p k with
    | false => simp
    | true =>
      simp only [if_true, Option.getD_some, List.map_append, List.map_cons, List.sum_append,
        List.sum_cons]
      ac_rfl

/-- **A stream of additions.** -/
theorem total_foldl_add (l : List α) (key : α → κ) (δ : α → M) :
    (l.foldl (fun d a => d.add (key a) (δ a)) d).total p =
      d.total p + ((l.filter fun a => p (key a)).map δ).sum := by
  induction l generalizing d with
  | nil => simp
  | cons a l ih =>
    rw [List.foldl_cons, ih, total_add, List.filter_cons, add_assoc]
    split_ifs <;> simp

/-- A stream of ones is counted. -/
theorem total_foldl_count {d : Dict κ ℕ} (l : List α) (key : α → κ) :
    (l.foldl (fun d a => d.add (key a) 1) d).total p = d.total p + l.countP fun a => p (key a) := by
  rw [total_foldl_add l key fun _ => 1, List.map_const', List.sum_replicate_nat, Nat.mul_one,
    List.countP_eq_length_filter]

/-- The sum over one key is what is counted there. -/
theorem total_singleton : d.total (fun k' => decide (k' = k)) = (d.get? k).getD 0 := by
  unfold total
  cases h : d.get? k with
  | none =>
    have hnone : (d.entries.filter fun e => decide (e.1 = k)) = [] := by
      rw [List.filter_eq_nil_iff]
      intro e he heq
      have hsome := (mem_entries_iff d e.1 e.2).mp he
      rw [of_decide_eq_true heq, h] at hsome
      cases hsome
    rw [hnone]
    rfl
  | some w =>
    obtain ⟨before, after, hentries, hothers, -⟩ := entries_split h
    have hdrop : ∀ l : List (κ × M), (∀ e ∈ l, e ∈ before ++ after) →
        (l.filter fun e => decide (e.1 = k)) = [] := by
      intro l hl
      rw [List.filter_eq_nil_iff]
      exact fun e he heq => hothers e (hl e he) (of_decide_eq_true heq)
    rw [hentries, List.filter_append, List.filter_cons,
      hdrop before fun _ => List.mem_append_left _, hdrop after fun _ => List.mem_append_right _]
    simp

end Dict

end KeyValue
