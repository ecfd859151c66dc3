import Mathlib.Data.List.Basic

namespace Patterns

/-!
# Backtracking patterns

Patterns with greedy character classes, sequences and lookaheads, and a matcher that goes through
every way to match, in the order in which a backtracking engine tries them.

* `ends r s` — what is left of the input `s` after each match of `r` at its beginning;
* `fullmatch r s` — some match uses up the input;
* `mem_ends_chars`, `mem_ends_seq`, `mem_ends_ahead` — the matches, without the order.
-/

variable {α : Type*}

/-- A pattern over an alphabet. -/
inductive Pattern (α : Type*)
  /-- `[…]{least,most}`: characters of a class, as many as possible first -/
  | chars (p : α → Bool) (least : ℕ) (most : Option ℕ)
  /-- `(?=…)`: the pattern matches here, and nothing is consumed -/
  | ahead (r : Pattern α)
  | seq (r r' : Pattern α)

namespace Pattern

/-- One character of a class. -/
def one (p : α → Bool) : Pattern α := chars p 1 (some 1)

/-- `[…]*` -/
def many (p : α → Bool) : Pattern α := chars p 0 none

/-- `[…]+` -/
def atLeastOne (p : α → Bool) : Pattern α := chars p 1 none

/-- A fixed text before a pattern. -/
def literal [DecidableEq α] (text : List α) (r : Pattern α) : Pattern α :=
  text.foldr (fun c r => (one fun d => decide (d = c)).seq r) r

/-- The rests after a repetition, the longest repetition first. -/
def repeatEnds (p : α → Bool) : ℕ → Option ℕ → List α → List (List α)
  | least, _, [] => if least = 0 then [[]] else []
  | least, most, c :: s =>
    (if p c = true ∧ most ≠ some 0 then repeatEnds p (least - 1) (most.map (· - 1)) s else []) ++
      if least = 0 then [c :: s] else []

/-- What is left of the input after each match at its beginning, in the order of the search. -/
def ends : Pattern α → List α → List (List α)
  | chars p least most, s => repeatEnds p least most s
  | ahead r, s => if (ends r s).isEmpty = true then [] else [s]
  | seq r r', s => (ends r s).flatMap (ends r')

/-- Does a match use up the input? -/
def fullmatch (r : Pattern α) (s : List α) : Bool := (ends r s).any List.isEmpty

variable {p q : α → Bool} {r r' : Pattern α} {s t : List α}

/-! ### The matches -/

/-- A repetition of a class ends after any admissible number of its characters. -/
theorem mem_repeatEnds {least : ℕ} {most : Option ℕ} :
    t ∈ repeatEnds p least most s ↔
      ∃ u, s = u ++ t ∧ (∀ c ∈ u, p c = true) ∧ least ≤ u.length ∧ ∀ m ∈ most, u.length ≤ m := by
  induction s generalizing least most with
  | nil =>
    unfold repeatEnds
    constructor
    · intro h
      split_ifs at h with hleast
      · rw [List.mem_singleton] at h
        exact ⟨[], by simp [h], by simp, by simp [hleast], by simp⟩
      · exact absurd h List.not_mem_nil
    · rintro ⟨u, hu, -, hleast, -⟩
      obtain ⟨rfl, rfl⟩ := List.append_eq_nil_iff.mp hu.symm
      simpa using hleast
  | cons c s ih =>
    rw [repeatEnds, List.mem_append]
    constructor
    · rintro (h | h)
      · -- the repetition goes on with `c`
        split_ifs at h with hguard
        obtain ⟨u, rfl, hclass, hleast, hmost⟩ := ih.mp h
        refine ⟨c :: u, rfl, ?_, by simp; omega, fun m hm => ?_⟩
        · exact List.forall_mem_cons.mpr ⟨hguard.1, hclass⟩
        · have hle := hmost (m - 1) (by rw [hm]; rfl)
          have hpos : m ≠ 0 := fun h => hguard.2 (by rw [hm, h])
          rw [List.length_cons]
          omega
        · exact absurd h List.not_mem_nil
      · -- or it stops in front of it
        split_ifs at h with hleast
        · rw [List.mem_singleton] at h
          exact ⟨[], by simp [h], by simp, by simp [hleast], by simp⟩
        · exact absurd h List.not_mem_nil
    · rintro ⟨u, hu, hclass, hleast, hmost⟩
      cases u with
      | nil =>
        refine Or.inr ?_
        rw [if_pos (by simpa using hleast), List.mem_singleton]
        exact hu.symm
      | cons d u =>
        obtain ⟨rfl, rfl⟩ := List.cons.inj hu
        rw [List.forall_mem_cons] at hclass
        rw [List.length_cons] at hleast
        refine Or.inl ?_
        rw [if_pos ⟨hclass.1, fun h => absurd (hmost 0 (by rw [h]; rfl)) (by simp)⟩]
        refine ih.mpr ⟨u, rfl, hclass.2, by omega, fun m hm => ?_⟩
        obtain ⟨m', hm', rfl⟩ := Option.map_eq_some_iff.mp hm
        have hle := hmost m' hm'
        rw [List.length_cons] at hle
        omega

theorem mem_ends_chars {least : ℕ} {most : Option ℕ} :
    t ∈ ends (chars p least most) s ↔
      ∃ u, s = u ++ t ∧ (∀ c ∈ u, p c = true) ∧ least ≤ u.length ∧ ∀ m ∈ most, u.length ≤ m := by
  rw [ends, mem_repeatEnds]

theorem mem_ends_seq : t ∈ ends (r.seq r') s ↔ ∃ s' ∈ ends r s, t ∈ ends r' s' := by
  rw [ends, List.mem_flatMap]

/-- A lookahead consumes nothing. -/
theorem mem_ends_ahead : t ∈ ends (ahead r) s ↔ t = s ∧ ∃ s', s' ∈ ends r s := by
  rw [ends]
  cases h : ends r s with
  | nil => simp
  | cons s' rest => simp

theorem mem_ends_one : t ∈ ends (one p) s ↔ ∃ c, s = c :: t ∧ p c = true := by
  rw [one, mem_ends_chars]
  constructor
  · rintro ⟨u, rfl, hclass, hleast, hmost⟩
    obtain ⟨c, rfl⟩ := List.length_eq_one_iff.mp (Nat.le_antisymm (hmost 1 rfl) hleast)
    exact ⟨c, rfl, hclass c List.mem_cons_self⟩
  · rintro ⟨c, rfl, hc⟩
    exact ⟨[c], rfl, by simpa using hc, Nat.le_refl 1, by simp⟩

theorem mem_ends_many : t ∈ ends (many p) s ↔ ∃ u, s = u ++ t ∧ ∀ c ∈ u, p c = true := by
  rw [many, mem_ends_chars]
  simp

theorem fullmatch_iff : fullmatch r s = true ↔ [] ∈ ends r s := by
  rw [fullmatch, List.any_eq_true]
  constructor
  · rintro ⟨t, ht, hempty⟩
    rwa [List.isEmpty_iff.mp hempty] at ht
  · exact fun h => ⟨[], h, rfl⟩

/-! ### Conjunctions -/

/-- Lookaheads in front of a pattern are conditions on the whole rest. -/
theorem fullmatch_ahead_seq :
    fullmatch ((ahead r).seq r') s = true ↔ (∃ t, t ∈ ends r s) ∧ fullmatch r' s = true := by
  rw [fullmatch_iff, fullmatch_iff, mem_ends_seq]
  simp only [mem_ends_ahead]
  constructor
  · rintro ⟨s', ⟨rfl, h⟩, hrest⟩
    exact ⟨h, hrest⟩
  · rintro ⟨h, hrest⟩
    exact ⟨s, ⟨rfl, h⟩, hrest⟩

/-- `[…]{least,most}` over the whole input. -/
theorem fullmatch_chars {least most : ℕ} :
    fullmatch (chars p least (some most)) s = true ↔
      (∀ c ∈ s, p c = true) ∧ least ≤ s.length ∧ s.length ≤ most := by
  rw [fullmatch_iff, mem_ends_chars]
  constructor
  · rintro ⟨u, rfl, hclass, hleast, hmost⟩
    rw [List.append_nil]
    exact ⟨hclass, hleast, hmost most rfl⟩
  · rintro ⟨hclass, hleast, hmost⟩
    exact ⟨s, (List.append_nil s).symm, hclass, hleast, by simpa using hmost⟩

/-- `.*[…]` looks for a character of the class among those the dot reaches. -/
theorem exists_mem_ends_find :
    (∃ t, t ∈ ends ((many p).seq (one q)) s) ↔
      ∃ u c t, s = u ++ c :: t ∧ (∀ d ∈ u, p d = true) ∧ q c = true := by
  simp only [mem_ends_seq, mem_ends_many, mem_ends_one]
  constructor
  · rintro ⟨t, s', ⟨u, rfl, hclass⟩, c, rfl, hc⟩
    exact ⟨u, c, t, rfl, hclass, hc⟩
  · rintro ⟨u, c, t, rfl, hclass, hc⟩
    exact ⟨t, c :: t, ⟨u, rfl, hclass⟩, c, rfl, hc⟩

/-- Where the dot reaches everything, it finds any character of the class. -/
theorem exists_mem_ends_find_of_forall (h : ∀ c ∈ s, p c = true) :
    (∃ t, t ∈ ends ((many p).seq (one q)) s) ↔ ∃ c ∈ s, q c = true := by
  rw [exists_mem_ends_find]
  constructor
  · rintro ⟨u, c, t, rfl, -, hc⟩
    exact ⟨c, by simp, hc⟩
  · rintro ⟨c, hmem, hc⟩
    obtain ⟨u, t, rfl⟩ := List.append_of_mem hmem
    exact ⟨u, c, t, rfl, fun d hd => h d (List.mem_append_left _ hd), hc⟩

end Pattern

end Patterns
