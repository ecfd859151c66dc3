import Mathlib.Data.List.DropRight
import Mathlib.Data.List.TakeWhile

namespace Text

/-!
# Stripping and lower-casing

`str.strip` and `str.lower`, over the character tables they read.  Lower-casing is a mapping of
single characters, except that `Σ` becomes `ς` at the end of a word and `σ` elsewhere.

* `CharTables` — the tables, with the facts about their contents that are used;
* `strip`, `lower` — the two methods;
* `length_lower` — only `İ` grows, to two characters;
* `lower_lower`, `strip_lower_strip` — doing it again changes nothing;
* `dropWhile_at_lower` — the separator of an address stays where it is.
-/

/-- The properties of characters that the string methods look up. -/
structure CharTables where
  /-- white space -/
  isSpace : Char → Bool
  /-- the full lower-case mapping -/
  toLower : Char → List Char
  isCased : Char → Bool
  isCaseIgnorable : Char → Bool
  /-- one mapping gives two characters, all others one -/
  length_toLower : ∀ c, (toLower c).length = if c = 'İ' then 2 else 1
  /-- what has been mapped is in lower case -/
  toLower_mapped : ∀ c, c ≠ 'Σ' → ∀ d ∈ toLower c, d ≠ 'Σ' ∧ toLower d = [d]
  toLower_sigma : toLower 'σ' = ['σ'] ∧ toLower 'ς' = ['ς']
  /-- white space and `@` have no case -/
  toLower_at : toLower '@' = ['@']
  eq_of_mapped : ∀ c, ∀ d ∈ toLower c, isSpace d = true ∨ d = '@' → d = c
  sigma_not_space : isSpace 'σ' = false ∧ isSpace 'ς' = false

namespace CharTables

variable (t : CharTables)

/-- `Σ` in lower case: final after a cased character and before none, where case-ignorable
    characters do not count.  `before` is read backwards. -/
def sigma (before after : List Char) : Char :=
  if (before.dropWhile t.isCaseIgnorable).head?.any t.isCased = true ∧
      (after.dropWhile t.isCaseIgnorable).head?.any t.isCased = false then 'ς'
  else 'σ'

/-- One character in lower case, in its place. -/
def lowerAt (before : List Char) (c : Char) (after : List Char) : List Char :=
  if c = 'Σ' then [t.sigma before after] else t.toLower c

/-- The characters from some place on. -/
def lowerFrom : List Char → List Char → List Char
  | _, [] => []
  | before, c :: after => t.lowerAt before c after ++ lowerFrom (c :: before) after

/-- `str.lower` -/
def lower (s : String) : String := String.ofList (t.lowerFrom [] s.toList)

/-- White space off both ends. -/
def trim (l : List Char) : List Char := (l.dropWhile t.isSpace).rdropWhile t.isSpace

/-- `str.strip` -/
def strip (s : String) : String := String.ofList (t.trim s.toList)

variable {t} {before after l : List Char} {c d : Char}

/-! ### One character -/

theorem sigma_eq (t : CharTables) (before after : List Char) :
    t.sigma before after = 'ς' ∨ t.sigma before after = 'σ' := by
  unfold sigma
  split_ifs
  · exact Or.inl rfl
  · exact Or.inr rfl

theorem length_lowerAt (t : CharTables) (before : List Char) (c : Char) (after : List Char) :
    (t.lowerAt before c after).length = if c = 'İ' then 2 else 1 := by
  unfold lowerAt
  split_ifs with hsigma hdot hdot
  · exact absurd (hsigma.symm.trans hdot) (by decide)
  · rfl
  · rw [t.length_toLower, if_pos hdot]
  · rw [t.length_toLower, if_neg hdot]

/-- A character that lower-casing leaves alone, wherever it stands. -/
def IsLower (t : CharTables) (d : Char) : Prop := d ≠ 'Σ' ∧ t.toLower d = [d]

theorem isLower_of_mem_lowerAt (h : d ∈ t.lowerAt before c after) : t.IsLower d := by
  unfold lowerAt at h
  split_ifs at h with hsigma
  · rw [List.mem_singleton] at h
    rcases t.sigma_eq before after with hs | hs <;> rw [h, hs]
    · exact ⟨by decide, t.toLower_sigma.2⟩
    · exact ⟨by decide, t.toLower_sigma.1⟩
  · exact t.toLower_mapped c hsigma d h

theorem lowerAt_of_isLower (h : t.IsLower c) : t.lowerAt before c after = [c] := by
  rw [lowerAt, if_neg h.1, h.2]

/-- White space and `@` come from nowhere else. -/
theorem eq_of_mem_lowerAt (h : d ∈ t.lowerAt before c after)
    (hd : t.isSpace d = true ∨ d = '@') : d = c := by
  unfold lowerAt at h
  split_ifs at h with hsigma
  · rw [List.mem_singleton] at h
    rcases t.sigma_eq before after with hs | hs <;> rw [hs] at h <;> subst h
    · simp [t.sigma_not_space.2] at hd
    · simp [t.sigma_not_space.1] at hd
  · exact t.eq_of_mapped c d h hd

theorem lowerAt_ne_nil (t : CharTables) (before : List Char) (c : Char) (after : List Char) :
    t.lowerAt before c after ≠ [] := by
  intro h
  have hlength := t.length_lowerAt before c after
  rw [h, List.length_nil] at hlength
  split_ifs at hlength

/-! ### A text -/

theorem length_lowerFrom (before l : List Char) :
    (t.lowerFrom before l).length = l.length + l.count 'İ' := by
  induction l generalizing before with
  | nil => rfl
  | cons c l ih =>
    rw [lowerFrom, List.length_append, length_lowerAt, ih, List.length_cons, List.count_cons]
    by_cases hc : c = 'İ' <;> simp [hc] <;> omega

theorem isLower_of_mem_lowerFrom (h : d ∈ t.lowerFrom before l) : t.IsLower d := by
  induction l generalizing before with
  | nil => exact absurd h List.not_mem_nil
  | cons c l ih =>
    rw [lowerFrom, List.mem_append] at h
    rcases h with h | h
    · exact isLower_of_mem_lowerAt h
    · exact ih h

/-- A text in lower case stays as it is. -/
theorem lowerFrom_of_isLower (h : ∀ c ∈ l, t.IsLower c) (before : List Char) :
    t.lowerFrom before l = l := by
  induction l generalizing before with
  | nil => rfl
  | cons c l ih =>
    rw [List.forall_mem_cons] at h
    rw [lowerFrom, lowerAt_of_isLower h.1, ih h.2, List.singleton_append]

/-- What the last character becomes is at the end. -/
theorem lowerFrom_concat (t : CharTables) (before l : List Char) (c : Char) :
    ∃ front before', t.lowerFrom before (l ++ [c]) = front ++ t.lowerAt before' c [] := by
  induction l generalizing before with
  | nil => exact ⟨[], before, by simp [lowerFrom]⟩
  | cons a l ih =>
    obtain ⟨front, before', h⟩ := ih (a :: before)
    exact ⟨t.lowerAt before a (l ++ [c]) ++ front, before', by
      rw [List.cons_append, lowerFrom, h, List.append_assoc]⟩

/-! ### White space -/

/-- A text with no white space at its ends. -/
structure Trimmed (t : CharTables) (l : List Char) : Prop where
  head : ∀ c ∈ l.head?, t.isSpace c = false
  last : ∀ c ∈ l.getLast?, t.isSpace c = false

/-- A text without white space. -/
theorem trimmed_of_forall (h : ∀ c ∈ l, t.isSpace c = false) : t.Trimmed l :=
  ⟨fun c hc => h c (List.mem_of_mem_head? hc), fun c hc => h c (List.mem_of_getLast? hc)⟩

theorem trim_of_trimmed (h : t.Trimmed l) : t.trim l = l := by
  have hhead : l.dropWhile t.isSpace = l := by
    cases l with
    | nil => rfl
    | cons c l => rw [List.dropWhile_cons_of_neg (by simp [h.head c rfl])]
  rw [trim, hhead, List.rdropWhile_eq_self_iff]
  intro hne
  rw [h.last _ (List.getLast?_eq_some_getLast hne)]
  exact Bool.false_ne_true

theorem trimmed_trim (l : List Char) : t.Trimmed (t.trim l) := by
  constructor
  · intro c hc
    -- the front of what is left is the front of `dropWhile`
    have hprefix : t.trim l <+: l.dropWhile t.isSpace := List.rdropWhile_prefix _ _
    obtain ⟨rest, hrest⟩ := hprefix
    have hfront : (l.dropWhile t.isSpace).head? = some c := by
      rw [← hrest, List.head?_append, Option.mem_def.mp hc]
      rfl
    have hnot := List.head?_dropWhile_not t.isSpace l
    rw [hfront] at hnot
    simpa using hnot
  · intro c hc
    have hne : t.trim l ≠ [] := by
      intro h
      rw [h] at hc
      exact absurd hc (by simp)
    have hnot := List.rdropWhile_last_not t.isSpace (l.dropWhile t.isSpace) hne
    rw [List.getLast?_eq_some_getLast hne] at hc
    obtain rfl := Option.some.inj hc
    simpa [trim] using hnot

/-- Lower-casing puts no white space at the ends. -/
theorem trimmed_lowerFrom (h : t.Trimmed l) : t.Trimmed (t.lowerFrom before l) := by
  constructor
  · intro d hd
    cases l with
    | nil => exact absurd hd (by simp [lowerFrom])
    | cons c l =>
      obtain ⟨a, as, ha⟩ := List.exists_cons_of_ne_nil (t.lowerAt_ne_nil before c l)
      have hda : d = a := by simpa [lowerFrom, ha, eq_comm] using hd
      have hmem : d ∈ t.lowerAt before c l := by rw [ha, hda]; exact List.mem_cons_self
      by_contra hspace
      rw [Bool.not_eq_false] at hspace
      obtain rfl := eq_of_mem_lowerAt hmem (Or.inl hspace)
      rw [h.head d rfl] at hspace
      exact Bool.false_ne_true hspace
  · intro d hd
    rcases List.eq_nil_or_concat' l with rfl | ⟨l, c, rfl⟩
    · exact absurd hd (by simp [lowerFrom])
    · obtain ⟨front, before', hlower⟩ := lowerFrom_concat (t := t) before l c
      have hmem : d ∈ t.lowerAt before' c [] := by
        rw [hlower, List.getLast?_append_of_ne_nil _ (t.lowerAt_ne_nil _ _ _)] at hd
        exact List.mem_of_getLast? hd
      by_contra hspace
      rw [Bool.not_eq_false] at hspace
      obtain rfl := eq_of_mem_lowerAt hmem (Or.inl hspace)
      rw [h.last d (by simp)] at hspace
      exact Bool.false_ne_true hspace

/-! ### Separators -/

/-- The first `@` of a text is the first `@` of its lower case. -/
theorem dropWhile_at_lowerFrom (t : CharTables) (before l : List Char) :
    ∃ before', (t.lowerFrom before l).dropWhile (· ≠ '@') =
      t.lowerFrom before' (l.dropWhile (· ≠ '@')) := by
  induction l generalizing before with
  | nil => exact ⟨before, rfl⟩
  | cons c l ih =>
    by_cases hc : c = '@'
    · subst hc
      have hat : t.lowerAt before '@' l = ['@'] := by
        rw [lowerAt, if_neg (by decide), t.toLower_at]
      refine ⟨before, ?_⟩
      rw [List.dropWhile_cons_of_neg (by simp), lowerFrom, hat, List.singleton_append,
        List.dropWhile_cons_of_neg (by simp)]
    · -- nothing but `@` is mapped to `@`
      have hall : ∀ d ∈ t.lowerAt before c l, decide (d ≠ '@') = true := by
        intro d hd
        refine decide_eq_true fun heq => hc ?_
        rw [← eq_of_mem_lowerAt hd (Or.inr heq), heq]
      obtain ⟨before', h⟩ := ih (c :: before)
      refine ⟨before', ?_⟩
      rw [List.dropWhile_cons_of_pos (by simpa using hc), lowerFrom,
        List.dropWhile_append_of_pos hall, h]

/-! ### The methods -/

/-- Only `İ` grows. -/
theorem length_lower (s : String) : (t.lower s).length = s.length + s.toList.count 'İ' := by
  rw [lower, String.length_ofList, length_lowerFrom, String.length_toList]

theorem lower_lower (s : String) : t.lower (t.lower s) = t.lower s := by
  rw [lower, lower, String.toList_ofList,
    lowerFrom_of_isLower fun c hc => isLower_of_mem_lowerFrom hc]

/-- After stripping and lower-casing there is nothing to strip. -/
theorem strip_lower_strip (s : String) :
    t.strip (t.lower (t.strip s)) = t.lower (t.strip s) := by
  have htrimmed : t.Trimmed (t.lowerFrom [] (t.strip s).toList) := by
    refine trimmed_lowerFrom ?_
    rw [strip, String.toList_ofList]
    exact trimmed_trim _
  rw [strip, lower, String.toList_ofList, trim_of_trimmed htrimmed]

/-- What follows the separator grows by its own characters alone. -/
theorem length_dropWhile_at_lower (s : String) :
    (((t.lower s).toList.dropWhile (· ≠ '@')).drop 1).length =
      ((s.toList.dropWhile (· ≠ '@')).drop 1).length +
        ((s.toList.dropWhile (· ≠ '@')).drop 1).count 'İ' := by
  -- `before` only matters to a sigma, and a sigma has one character either way
  obtain ⟨before, h⟩ := t.dropWhile_at_lowerFrom [] s.toList
  rw [lower, String.toList_ofList, h]
  cases hrest : s.toList.dropWhile (· ≠ '@') with
  | nil => rfl
  | cons c rest =>
    have hc : c = '@' := by
      have hnot := List.head?_dropWhile_not (fun c => decide (c ≠ '@')) s.toList
      rw [hrest] at hnot
      simpa using hnot
    subst hc
    rw [lowerFrom, lowerAt, if_neg (by decide), t.toLower_at, List.singleton_append, List.drop_one,
      List.drop_one, List.tail_cons, List.tail_cons, length_lowerFrom]

end CharTables

end Text
