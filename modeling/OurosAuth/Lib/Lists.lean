import Mathlib.Data.List.Sort

namespace ListTables

/-!
# Filtered, sorted and keyed lists

What a `WHERE` and an `ORDER BY` do to each other, to rows that differ in a column they do not
read, and the rows found under a unique key.
-/

variable {α κ : Type}

/-! ### A filter of a sorted list -/

section
variable (r : α → α → Prop) [DecidableRel r] [IsTrans α r]

/-- Filtering after an insertion into a sorted list. -/
theorem filter_orderedInsert (p : α → Bool) (a : α) {l : List α} (hl : l.Pairwise r) :
    (l.orderedInsert r a).filter p =
      if p a = true then (l.filter p).orderedInsert r a else l.filter p := by
  induction l with
  | nil => by_cases ha : p a = true <;> simp [ha]
  | cons b l ih =>
    obtain ⟨hb, hl⟩ := List.pairwise_cons.mp hl
    by_cases hab : r a b
    · -- `a` goes first, and so it does before what is left of `b :: l`.
      rw [List.orderedInsert, if_pos hab]
      by_cases ha : p a = true
      · have hfirst : ∀ c ∈ (b :: l).filter p, r a c := by
          intro c hc
          rcases List.mem_cons.mp (List.mem_of_mem_filter hc) with rfl | hcl
          · exact hab
          · exact IsTrans.trans a b c hab (hb c hcl)
        have hinsert : ((b :: l).filter p).orderedInsert r a = a :: (b :: l).filter p := by
          cases hfl : (b :: l).filter p with
          | nil => rfl
          | cons c cs =>
            rw [List.orderedInsert, if_pos (hfirst c (by rw [hfl]; exact List.mem_cons_self))]
        rw [if_pos ha, hinsert, List.filter_cons_of_pos ha]
      · rw [if_neg ha, List.filter_cons_of_neg ha]
    · rw [List.orderedInsert, if_neg hab]
      by_cases hpb : p b = true
      · rw [List.filter_cons_of_pos hpb, List.filter_cons_of_pos hpb, ih hl]
        by_cases ha : p a = true
        · rw [if_pos ha, if_pos ha, List.orderedInsert, if_neg hab]
        · rw [if_neg ha, if_neg ha]
      · rw [List.filter_cons_of_neg hpb, List.filter_cons_of_neg hpb, ih hl]

/-- A stable sort and a filter may be exchanged. -/
theorem filter_insertionSort [Std.Total r] (p : α → Bool) (l : List α) :
    (l.insertionSort r).filter p = (l.filter p).insertionSort r := by
  induction l with
  | nil => rfl
  | cons a l ih =>
    rw [List.insertionSort_cons, filter_orderedInsert r p a (List.pairwise_insertionSort r l), ih]
    by_cases ha : p a = true
    · rw [if_pos ha, List.filter_cons_of_pos ha, List.insertionSort_cons]
    · rw [if_neg ha, List.filter_cons_of_neg ha]

end

/-! ### Two lists in step -/

section
variable {β : Type} {R : α → β → Prop} (r : α → α → Prop) (s : β → β → Prop) [DecidableRel r]
  [DecidableRel s]

theorem forall₂_orderedInsert (hrs : ∀ a a' b b', R a b → R a' b' → (r a a' ↔ s b b')) {a : α}
    {b : β} (hab : R a b) {l : List α} {m : List β} (hlm : List.Forall₂ R l m) :
    List.Forall₂ R (l.orderedInsert r a) (m.orderedInsert s b) := by
  induction hlm with
  | nil => exact .cons hab .nil
  | @cons a' b' l m hab' hlm ih =>
    by_cases hr : r a a'
    · rw [List.orderedInsert, List.orderedInsert, if_pos hr,
        if_pos ((hrs a a' b b' hab hab').mp hr)]
      exact .cons hab (.cons hab' hlm)
    · rw [List.orderedInsert, List.orderedInsert, if_neg hr,
        if_neg fun hs => hr ((hrs a a' b b' hab hab').mpr hs)]
      exact .cons hab' ih

/-- Sorting keeps two lists in step whose elements compare alike. -/
theorem forall₂_insertionSort (hrs : ∀ a a' b b', R a b → R a' b' → (r a a' ↔ s b b'))
    {l : List α} {m : List β} (hlm : List.Forall₂ R l m) :
    List.Forall₂ R (l.insertionSort r) (m.insertionSort s) := by
  induction hlm with
  | nil => exact .nil
  | cons hab _ ih =>
    rw [List.insertionSort_cons, List.insertionSort_cons]
    exact forall₂_orderedInsert r s hrs hab ih

end

/-- So does filtering, when the two filters agree on them. -/
theorem forall₂_filter {β : Type} {R : α → β → Prop} {p : α → Bool} {q : β → Bool}
    (hpq : ∀ a b, R a b → p a = q b) {l : List α} {m : List β} (hlm : List.Forall₂ R l m) :
    List.Forall₂ R (l.filter p) (m.filter q) :=
  List.rel_filter (fun {a b} hab => Iff.of_eq (congrArg (· = true) (hpq a b hab))) hlm

/-! ### Unique keys -/

/-- Under a unique key exactly one row is found. -/
theorem filter_key_eq_singleton [DecidableEq κ] (key : α → κ) {l : List α} (hl : (l.map key).Nodup)
    {a : α} (ha : a ∈ l) : (l.filter fun b => key b = key a) = [a] := by
  induction l with
  | nil => exact absurd ha List.not_mem_nil
  | cons b l ih =>
    rw [List.map_cons, List.nodup_cons] at hl
    rcases List.mem_cons.mp ha with rfl | hal
    · have hrest : (l.filter fun b => key b = key a) = [] := by
        rw [List.filter_eq_nil_iff]
        intro c hc hkey
        exact hl.1 (of_decide_eq_true hkey ▸ List.mem_map_of_mem hc)
      rw [List.filter_cons_of_pos (by simp), hrest]
    · have hne : ¬ key b = key a := fun h => hl.1 (h ▸ List.mem_map_of_mem hal)
      rw [List.filter_cons_of_neg (by simpa using hne), ih hl.2 hal]

end ListTables
