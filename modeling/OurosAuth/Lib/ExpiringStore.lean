import OurosAuth.Lib.Dict
import Mathlib.Algebra.Order.Ring.Rat
import Mathlib.Data.Rat.Floor
import Mathlib.Tactic.Linarith

namespace KeyValue

/-!
# A key-value store whose entries expire

Each entry may carry a **deadline**: from that instant on a read answers as if the key
were absent.  Every operation is one atomic step taken at a given time.

* `get` / `peek` — what a read answers at a time, and what is written down whatever the
  time;
* `setEx`, `setKeepTtl`, `setNxEx`, `expire`, `del` — the writes, with the deadline each one
  leaves;
* `get_eq_none_of_le` — a key that has expired stays absent until something writes it.
-/

variable {κ ν : Type*}

/-- A stored value with the instant from which it is gone (`none`: never). -/
structure Entry (ν : Type*) where
  value : ν
  deadline : Option ℚ
  deriving DecidableEq

/-- Has the entry not reached its deadline at time `t`? -/
def Entry.alive (e : Entry ν) (t : ℚ) : Bool :=
  match e.deadline with
  | none => true
  | some d => decide (t < d)

/-- An entry that is alive was alive at every earlier time. -/
theorem Entry.alive_of_le {e : Entry ν} {t t' : ℚ} (hle : t ≤ t') (h : e.alive t' = true) :
    e.alive t = true := by
  unfold Entry.alive at h ⊢
  cases hd : e.deadline with
  | none => rfl
  | some d =>
    rw [hd] at h
    simp only [decide_eq_true_eq] at h ⊢
    exact lt_of_le_of_lt hle h

/-- A store: a dictionary of entries with deadlines. -/
abbrev ExpiringStore (κ ν : Type*) := Dict κ (Entry ν)

namespace ExpiringStore

variable [DecidableEq κ]

/-- The entry a read at time `t` sees. -/
def liveEntry (s : ExpiringStore κ ν) (t : ℚ) (k : κ) : Option (Entry ν) :=
  (s.get? k).filter fun e => e.alive t

/-- What a read at time `t` answers. -/
def get (s : ExpiringStore κ ν) (t : ℚ) (k : κ) : Option ν :=
  (s.liveEntry t k).map Entry.value

/-- The value written down under `k`, expired or not. -/
def peek (s : ExpiringStore κ ν) (k : κ) : Option ν := (s.get? k).map Entry.value

/-- Write `v` with a fresh time to live of `ttl` seconds. -/
def setEx (s : ExpiringStore κ ν) (t : ℚ) (k : κ) (v : ν) (ttl : ℚ) : ExpiringStore κ ν :=
  s.set k ⟨v, some (t + ttl)⟩

/-- Write `v`, keeping the deadline of the entry that is there (none if there is none). -/
def setKeepTtl (s : ExpiringStore κ ν) (t : ℚ) (k : κ) (v : ν) : ExpiringStore κ ν :=
  s.set k ⟨v, (s.liveEntry t k).bind Entry.deadline⟩

/-- Write `v` with a time to live only when the key is absent; answers whether it was. -/
def setNxEx (s : ExpiringStore κ ν) (t : ℚ) (k : κ) (v : ν) (ttl : ℚ) :
    Bool × ExpiringStore κ ν :=
  match s.get t k with
  | some _ => (false, s)
  | none => (true, s.setEx t k v ttl)

/-- Give a live key a fresh time to live. -/
def expire (s : ExpiringStore κ ν) (t : ℚ) (k : κ) (ttl : ℚ) : ExpiringStore κ ν :=
  match s.liveEntry t k with
  | none => s
  | some e => s.set k ⟨e.value, some (t + ttl)⟩

/-- The seconds a key has left, rounded: `-2` without a key, `-1` without a deadline. -/
def ttl (s : ExpiringStore κ ν) (t : ℚ) (k : κ) : ℤ :=
  match s.liveEntry t k with
  | none => -2
  | some e =>
    match e.deadline with
    | none => -1
    | some d => ⌊d - t + 1 / 2⌋

/-- Remove a key. -/
def del (s : ExpiringStore κ ν) (k : κ) : ExpiringStore κ ν := s.erase k

/-! ### Reads -/

variable {s s' : ExpiringStore κ ν} {t : ℚ} {k : κ} {e : Entry ν}

theorem liveEntry_eq_none (t : ℚ) (h : s.get? k = none) : s.liveEntry t k = none := by
  rw [liveEntry, h]
  rfl

/-- An entry before its deadline is seen. -/
theorem liveEntry_of_alive (h : s.get? k = some e) (halive : e.alive t = true) :
    s.liveEntry t k = some e := by
  rw [liveEntry, h, Option.filter, if_pos halive]

/-- An entry from its deadline on is not. -/
theorem liveEntry_of_expired (h : s.get? k = some e) (hexpired : ¬ e.alive t = true) :
    s.liveEntry t k = none := by
  rw [liveEntry, h, Option.filter, if_neg hexpired]

theorem get_of_liveEntry (h : s.liveEntry t k = some e) : s.get t k = some e.value := by
  rw [get, h]
  rfl

theorem get_of_liveEntry_none (h : s.liveEntry t k = none) : s.get t k = none := by
  rw [get, h]
  rfl

/-- What a read sees depends on its own key alone. -/
theorem liveEntry_congr (t : ℚ) (h : s'.get? k = s.get? k) :
    s'.liveEntry t k = s.liveEntry t k := by
  rw [liveEntry, h]
  rfl

theorem get_congr (t : ℚ) (h : s'.get? k = s.get? k) : s'.get t k = s.get t k := by
  rw [get, liveEntry_congr t h]
  rfl

/-- What a read answers is what is written down, when it answers at all. -/
theorem peek_of_get {s : ExpiringStore κ ν} {t : ℚ} {k : κ} {v : ν} (h : s.get t k = some v) :
    s.peek k = some v := by
  unfold get liveEntry at h
  unfold peek
  cases hk : s.get? k with
  | none => simp [hk] at h
  | some e =>
    rw [hk, Option.map_eq_some_iff] at h
    obtain ⟨e', he', hv⟩ := h
    rw [Option.filter_eq_some_iff] at he'
    rw [he'.1, Option.map_some, hv]

/-- Nothing written down: a read finds nothing. -/
theorem get_eq_none_of_peek {s : ExpiringStore κ ν} {k : κ} (t : ℚ) (h : s.peek k = none) :
    s.get t k = none := by
  cases hg : s.get t k with
  | none => rfl
  | some v => rw [peek_of_get hg] at h; exact h

/-- Time only takes entries away. -/
theorem get_of_get_later {s : ExpiringStore κ ν} {t t' : ℚ} {k : κ} {v : ν} (hle : t ≤ t')
    (h : s.get t' k = some v) : s.get t k = some v := by
  unfold get liveEntry at h ⊢
  rw [Option.map_eq_some_iff] at h ⊢
  obtain ⟨e, he, hv⟩ := h
  rw [Option.filter_eq_some_iff] at he
  refine ⟨e, ?_, hv⟩
  rw [Option.filter_eq_some_iff]
  exact ⟨he.1, Entry.alive_of_le hle he.2⟩

/-- **Expiry is final.** A key a read did not find is not found later either. -/
theorem get_eq_none_of_le {s : ExpiringStore κ ν} {t t' : ℚ} {k : κ} (hle : t ≤ t')
    (h : s.get t k = none) : s.get t' k = none := by
  cases hg : s.get t' k with
  | none => rfl
  | some v => rw [get_of_get_later hle hg] at h; exact absurd h (by simp)

/-! ### One write, one lookup -/

theorem peek_set (s : ExpiringStore κ ν) (k k' : κ) (e : Entry ν) :
    peek (s.set k e) k' = if k' = k then some e.value else s.peek k' := by
  unfold peek
  rw [Dict.get?_set]
  split <;> rfl

@[simp] theorem peek_setEx_self (s : ExpiringStore κ ν) (t : ℚ) (k : κ) (v : ν) (ttl : ℚ) :
    (s.setEx t k v ttl).peek k = some v := by
  rw [setEx, peek_set, if_pos rfl]

theorem peek_setEx_ne (s : ExpiringStore κ ν) (t : ℚ) {k k' : κ} (v : ν) (ttl : ℚ)
    (h : k' ≠ k) : (s.setEx t k v ttl).peek k' = s.peek k' := by
  rw [setEx, peek_set, if_neg h]

@[simp] theorem peek_setKeepTtl_self (s : ExpiringStore κ ν) (t : ℚ) (k : κ) (v : ν) :
    (s.setKeepTtl t k v).peek k = some v := by
  rw [setKeepTtl, peek_set, if_pos rfl]

theorem peek_setKeepTtl_ne (s : ExpiringStore κ ν) (t : ℚ) {k k' : κ} (v : ν) (h : k' ≠ k) :
    (s.setKeepTtl t k v).peek k' = s.peek k' := by
  rw [setKeepTtl, peek_set, if_neg h]

@[simp] theorem peek_del_self (s : ExpiringStore κ ν) (k : κ) : (s.del k).peek k = none := by
  simp [del, peek]

theorem peek_del_ne (s : ExpiringStore κ ν) {k k' : κ} (h : k' ≠ k) :
    (s.del k).peek k' = s.peek k' := by
  simp [del, peek, Dict.get?_erase_ne _ h]

@[simp] theorem peek_empty (k : κ) : peek (Dict.empty : ExpiringStore κ ν) k = none := rfl

theorem get_set_ne (s : ExpiringStore κ ν) (t : ℚ) {k k' : κ} (e : Entry ν) (h : k' ≠ k) :
    get (s.set k e) t k' = s.get t k' := get_congr t (Dict.get?_set_ne _ _ h)

@[simp] theorem get_del_self (s : ExpiringStore κ ν) (t : ℚ) (k : κ) : (s.del k).get t k = none :=
  get_eq_none_of_peek t (peek_del_self s k)

theorem get_del_ne (s : ExpiringStore κ ν) (t : ℚ) {k k' : κ} (h : k' ≠ k) :
    (s.del k).get t k' = s.get t k' := get_congr t (Dict.get?_erase_ne _ h)

theorem get?_expire_ne (s : ExpiringStore κ ν) (t : ℚ) {k k' : κ} (ttl : ℚ) (h : k' ≠ k) :
    (s.expire t k ttl).get? k' = s.get? k' := by
  unfold expire
  split
  · rfl
  · exact Dict.get?_set_ne _ _ h

/-- A written value is read back until its deadline. -/
theorem get_setEx_of_lt (s : ExpiringStore κ ν) {t t' : ℚ} (k : κ) (v : ν) {ttl : ℚ}
    (h : t' < t + ttl) : (s.setEx t k v ttl).get t' k = some v := by
  have halive : (⟨v, some (t + ttl)⟩ : Entry ν).alive t' = true := decide_eq_true h
  exact get_of_liveEntry (liveEntry_of_alive (Dict.get?_set_self ..) halive)

/-- A value written with a positive time to live is read back at once. -/
theorem get_setEx_self (s : ExpiringStore κ ν) (t : ℚ) (k : κ) (v : ν) {ttl : ℚ} (h : 0 < ttl) :
    (s.setEx t k v ttl).get t k = some v := get_setEx_of_lt s k v (by linarith)

/-- A live key that is rewritten with its deadline is read back at once. -/
theorem get_setKeepTtl_self {s : ExpiringStore κ ν} {t : ℚ} {k : κ} (v : ν)
    (h : s.get t k ≠ none) : (s.setKeepTtl t k v).get t k = some v := by
  cases he : s.liveEntry t k with
  | none => exact absurd (get_of_liveEntry_none he) h
  | some e =>
    have halive : e.alive t = true := (Option.filter_eq_some_iff.mp he).2
    have hnew : (⟨v, e.deadline⟩ : Entry ν).alive t = true := halive
    rw [setKeepTtl, he]
    exact get_of_liveEntry (liveEntry_of_alive (Dict.get?_set_self ..) hnew)

/-- And as long as the old value would have been. -/
theorem get_setKeepTtl_later {s : ExpiringStore κ ν} {t t' : ℚ} {k : κ} {old : ν} (v : ν)
    (hle : t ≤ t') (h : s.get t' k = some old) : (s.setKeepTtl t k v).get t' k = some v := by
  unfold get liveEntry at h
  rw [Option.map_eq_some_iff] at h
  obtain ⟨e, he, -⟩ := h
  obtain ⟨hget, halive⟩ := Option.filter_eq_some_iff.mp he
  have hlive : s.liveEntry t k = some e := liveEntry_of_alive hget (Entry.alive_of_le hle halive)
  have hnew : (⟨v, e.deadline⟩ : Entry ν).alive t' = true := halive
  rw [setKeepTtl, hlive]
  exact get_of_liveEntry (liveEntry_of_alive (Dict.get?_set_self ..) hnew)

end ExpiringStore

end KeyValue
