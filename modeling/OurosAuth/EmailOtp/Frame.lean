import OurosAuth.EmailOtp.Login
import OurosAuth.EmailOtp.ResetRuns

namespace OurosAuth

open KeyValue

/-!
# What a store operation leaves alone

An operation on one challenge and the record under any other key: `OtpStores.Keeps` says that no
lookup from now on tells the stores before and after it apart.  In the process-local map an
operation may drop other records too, but only expired ones, which no lookup answers.
-/

/-- No lookup under `key`, now or later, tells `st'` from `st`. -/
def OtpStores.Keeps (svc : OtpService) (key : String) (now : Instant) (st st' : OtpStores) : Prop :=
  ∀ t : Instant, now.seconds ≤ t.seconds → st'.find? svc t key = st.find? svc t key

variable {rt : Runtime} {svc : OtpService} {st st' : OtpStores} {now : Instant} {flow : Flow}
  {challengeId key : String} {r : Record}

@[simp] theorem OtpStores.Keeps.refl : st.Keeps svc key now st := fun _ _ => rfl

/-- A kept record is still found, unchanged. -/
theorem OtpStores.Keeps.found (h : st.Keeps svc key now st')
    (hfound : st.find? svc now key = some r) :
    st'.find? svc now key = some r := (h now le_rfl).trans hfound

/-- What two steps in a row keep. -/
theorem OtpStores.Keeps.trans {st₁ : OtpStores} {now' : Instant} (h : st.Keeps svc key now st₁)
    (h' : st₁.Keeps svc key now' st') (hle : now.seconds ≤ now'.seconds) :
    st.Keeps svc key now' st' :=
  fun t ht => (h' t ht).trans (h t (hle.trans ht))

/-- A later cleanup makes an earlier one unnoticed. -/
theorem get?_cleanupMemory_later {t : Instant} (hle : now.seconds ≤ t.seconds)
    (memory : Dict String Record) (key : String) :
    (cleanupMemory t (cleanupMemory now memory)).get? key = (cleanupMemory t memory).get? key := by
  unfold cleanupMemory
  rw [Dict.get?_filter, Dict.get?_filter, Dict.get?_filter, Option.filter_filter]
  refine congrArg (fun p => (memory.get? key).filter p) (funext fun r => ?_)
  cases he : r.expiresAt.asInt? with
  | none => simp
  | some expiresAt =>
    have hwhole := Instant.whole_mono hle
    by_cases hlive : t.whole < expiresAt
    · simp [hlive, lt_of_le_of_lt hwhole hlive]
    · simp [hlive]

/-- With Redis a lookup depends on its own key alone. -/
theorem keeps_of_redis (hr : svc.usesRedis = true)
    (h : st'.redis.get? key = st.redis.get? key) : st.Keeps svc key now st' := by
  intro t _
  unfold OtpStores.find?
  rw [if_pos hr, if_pos hr, ExpiringStore.get_congr _ h]

/-- In the process-local map it does too, before and after a cleanup. -/
theorem keeps_of_memory (hr : svc.usesRedis = false)
    (h : st'.memory.get? key = st.memory.get? key ∨
      st'.memory.get? key = (cleanupMemory now st.memory).get? key) :
    st.Keeps svc key now st' := by
  intro t hle
  unfold OtpStores.find?
  rw [if_neg (by simp [hr]), if_neg (by simp [hr])]
  rcases h with h | h
  · exact get?_cleanupMemory_congr t h
  · rw [get?_cleanupMemory_congr t h, get?_cleanupMemory_later hle]

/-! ### The operations -/

theorem keeps_save {ttlSeconds : ℤ} (hne : key ≠ storeKey svc flow challengeId) :
    st.Keeps svc key now (st.save svc now flow challengeId r ttlSeconds) := by
  unfold storeKey at hne
  by_cases hr : svc.usesRedis = true
  · rw [if_pos hr] at hne
    exact keeps_of_redis hr (redis_save_ne hne)
  · rw [if_neg hr] at hne
    refine keeps_of_memory (by simpa using hr) (Or.inr ?_)
    rw [OtpStores.save, if_neg hr]
    exact Dict.get?_set_ne _ _ hne

theorem keeps_delete (hne : key ≠ storeKey svc flow challengeId) :
    st.Keeps svc key now (st.delete svc flow challengeId) := by
  unfold storeKey at hne
  by_cases hr : svc.usesRedis = true
  · rw [if_pos hr] at hne
    exact keeps_of_redis hr (redis_delete_ne hne)
  · rw [if_neg hr] at hne
    refine keeps_of_memory (by simpa using hr) (Or.inl ?_)
    rw [OtpStores.delete, if_neg hr]
    exact Dict.get?_erase_ne _ hne

/-- After a delete no lookup finds the challenge. -/
@[simp] theorem find?_delete_self :
    (st.delete svc flow challengeId).find? svc now (storeKey svc flow challengeId) = none := by
  have hgone : (st.delete svc flow challengeId).Lacks svc flow challengeId := lacks_delete_self
  unfold OtpStores.Lacks at hgone
  unfold OtpStores.find? storeKey
  by_cases hr : svc.usesRedis = true
  · rw [if_pos hr] at hgone
    rw [if_pos hr, if_pos hr,
      ExpiringStore.get_of_liveEntry_none (ExpiringStore.liveEntry_eq_none _ hgone)]
  · rw [if_neg hr] at hgone
    rw [if_neg hr, if_neg hr]
    exact get?_cleanupMemory_none now hgone

/-- A load leaves every key alone: what it may delete is text that is not JSON. -/
theorem keeps_load (key : String) :
    st.Keeps svc key now (st.load svc now flow challengeId).2 := by
  by_cases hr : svc.usesRedis = true
  · unfold OtpStores.load
    rw [if_pos hr]
    split
    · exact .refl
    · rename_i hget
      by_cases hkey : key = redisKey flow challengeId
      · -- the deleted text was no record, at no time
        intro t hle
        unfold OtpStores.find? OtpStores.delete
        rw [if_pos hr, if_pos hr, if_pos hr, hkey, ExpiringStore.get_del_self]
        cases hlater : st.redis.get t.seconds (redisKey flow challengeId) with
        | none => rfl
        | some v =>
          have hnow := ExpiringStore.get_of_get_later hle hlater
          rw [hget, Option.some.injEq] at hnow
          rw [← hnow]
      · exact keeps_of_redis hr (redis_delete_ne hkey)
    · exact .refl
  · refine keeps_of_memory (by simpa using hr) (Or.inr ?_)
    rw [OtpStores.load, if_neg hr]

/-- The store operation that ends a login verification touches the key of its own challenge
    only. -/
theorem keeps_store (d : VerifyDecision) (hne : key ≠ storeKey svc .login challengeId) :
    st.Keeps svc key now (d.store svc now challengeId st) := by
  cases d with
  | resave r ttlSeconds => exact keeps_save hne
  | reject => exact keeps_delete hne
  | typeError => exact keeps_delete hne
  | lockOut => exact keeps_delete hne
  | accept => exact keeps_delete hne

theorem keeps_verifyReset {readAt : Instant} {email code : String}
    (hne : key ≠ storeKey svc .reset challengeId) :
    st.Keeps svc key now (st.verifyReset rt svc now readAt challengeId email code).2 := by
  unfold storeKey at hne
  by_cases hr : svc.usesRedis = true
  · rw [if_pos hr] at hne
    exact keeps_of_redis hr (redis_verifyReset_ne hne)
  · rw [if_neg hr] at hne
    refine keeps_of_memory (by simpa using hr) (Or.inr ?_)
    rw [OtpStores.verifyReset, if_neg hr]
    rcases verifyResetMemory_store rt svc now challengeId email code st.memory
      with hst | hst | ⟨r', -, hst⟩ <;> simp only [hst]
    · exact Dict.get?_erase_ne _ hne
    · exact Dict.get?_set_ne _ _ hne

/-! ### Creating a challenge and ending its delivery -/

variable {s s' : OtpState}

theorem keeps_create {readAt : Instant} (hne : key ≠ storeKey svc flow challengeId)
    (hcreate : s.create svc flow challengeId readAt r = some s') :
    s.stores.Keeps svc key s.now s'.stores := by
  obtain ⟨-, -, -, rfl⟩ := create_eq_some.mp hcreate
  exact keeps_save hne

theorem keeps_delivered {outcome : Delivery} (hne : key ≠ storeKey svc flow challengeId)
    (hdel : s.delivered svc flow challengeId outcome = some s') :
    s.stores.Keeps svc key s.now s'.stores := by
  obtain ⟨-, -, -, -, hst | hst⟩ := delivered_eq_some hdel
  · rw [hst]
    exact .refl
  · rw [hst]
    exact keeps_delete hne

end OurosAuth
