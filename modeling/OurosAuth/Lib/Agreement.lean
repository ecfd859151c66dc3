import OurosAuth.Lib.ExpiringStore

namespace KeyValue

/-!
# Operations on one key

What shares a store without sharing its keys cannot tell how much else is in it.

* `AgreeOn` — two stores hold the same under some of the keys;
* `LocalTo` — an operation answers from one key, and writes no other;
* `LocalTo.agree` — made on both of two stores that agree on its key, it answers alike and leaves
  them in agreement; `LocalTo.leaves` — elsewhere it changes nothing.
-/

variable {κ α ω : Type*} [DecidableEq κ]

/-- The two stores hold the same under the keys of `P`. -/
def AgreeOn (P : κ → Prop) (s s' : Dict κ α) : Prop := ∀ k, P k → s'.get? k = s.get? k

/-- The operation answers from the key `k` alone, and writes no other. -/
structure LocalTo (k : κ) (op : Dict κ α → ω × Dict κ α) : Prop where
  frame : ∀ s k', k' ≠ k → (op s).2.get? k' = s.get? k'
  congr : ∀ s s', s'.get? k = s.get? k →
    (op s').1 = (op s).1 ∧ (op s').2.get? k = (op s).2.get? k

variable {P : κ → Prop} {k : κ} {op : Dict κ α → ω × Dict κ α} {s s' s'' : Dict κ α}

theorem AgreeOn.refl (P : κ → Prop) (s : Dict κ α) : AgreeOn P s s := fun _ _ => rfl

theorem AgreeOn.trans (h : AgreeOn P s s') (h' : AgreeOn P s' s'') : AgreeOn P s s'' :=
  fun k hk => (h' k hk).trans (h k hk)

theorem AgreeOn.symm (h : AgreeOn P s s') : AgreeOn P s' s := fun k hk => (h k hk).symm

/-- **Two stores that agree on the key of an operation** are answered alike, and agree after it. -/
theorem LocalTo.agree (hop : LocalTo k op) (hk : P k) (h : AgreeOn P s s') :
    (op s').1 = (op s).1 ∧ AgreeOn P (op s).2 (op s').2 := by
  obtain ⟨hanswer, hkey⟩ := hop.congr s s' (h k hk)
  refine ⟨hanswer, fun k' hk' => ?_⟩
  by_cases hne : k' = k
  · rw [hne]
    exact hkey
  · rw [hop.frame s k' hne, hop.frame s' k' hne]
    exact h k' hk'

/-- Under other keys the operation changes nothing. -/
theorem LocalTo.leaves (hop : LocalTo k op) (hk : ¬ P k) (s : Dict κ α) :
    AgreeOn P s (op s).2 := fun k' hk' => hop.frame s k' fun heq => hk (heq ▸ hk')

/-! ### The operations of an expiring store -/

namespace ExpiringStore

variable {ν : Type*} (t : ℚ) (k : κ)

theorem localTo_set (e : Entry ν) :
    LocalTo k fun s : ExpiringStore κ ν => ((), Dict.set s k e) where
  frame _ _ hne := Dict.get?_set_ne _ _ hne
  congr _ _ _ := ⟨rfl, (Dict.get?_set_self ..).trans (Dict.get?_set_self ..).symm⟩

theorem localTo_setEx (v : ν) (ttl : ℚ) :
    LocalTo k fun s : ExpiringStore κ ν => ((), s.setEx t k v ttl) := localTo_set k _

theorem localTo_del : LocalTo k fun s : ExpiringStore κ ν => ((), s.del k) where
  frame _ _ hne := Dict.get?_erase_ne _ hne
  congr _ _ _ := ⟨rfl, (Dict.get?_erase_self ..).trans (Dict.get?_erase_self ..).symm⟩

theorem localTo_setNxEx (v : ν) (ttl : ℚ) :
    LocalTo k fun s : ExpiringStore κ ν => s.setNxEx t k v ttl where
  frame s k' hne := by
    show (setNxEx s t k v ttl).2.get? k' = _
    unfold setNxEx
    split
    · rfl
    · exact Dict.get?_set_ne _ _ hne
  congr s s' h := by
    show (setNxEx s' t k v ttl).1 = (setNxEx s t k v ttl).1 ∧
      (setNxEx s' t k v ttl).2.get? k = (setNxEx s t k v ttl).2.get? k
    unfold setNxEx
    rw [get_congr t h]
    split
    · exact ⟨rfl, h⟩
    · exact ⟨rfl, (Dict.get?_set_self ..).trans (Dict.get?_set_self ..).symm⟩

end ExpiringStore

end KeyValue
