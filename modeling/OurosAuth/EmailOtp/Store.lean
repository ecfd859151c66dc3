import OurosAuth.EmailOtp.Record
import OurosAuth.Lib.ExpiringStore

namespace OurosAuth

open KeyValue

/-!
# Where challenges are kept

`_save`, `_load`, `_delete` and `_cleanup_memory` of `EmailOtpService`, over Redis when
`redis_url` is set and over the process-local map otherwise.  Every function here is one
step that nothing else interleaves with: a single Redis command, or a section under
`_memory_lock` (which contains no `await`).

`OtpStores.recordAt` reads either backend through one key, `storeKey`, and the `recordAt_*`
lemmas say all that later proofs use about the three operations.
-/

/-- What Redis holds under a key, over everything the service writes there. -/
inductive RedisValue
  /-- a JSON object -/
  | document (r : Record)
  /-- JSON that is not an object -/
  | nonObject
  /-- text that is not JSON -/
  | malformed
  /-- a rate-limit counter -/
  | counter (n : ℕ)
  /-- the reservation mark `"1"` -/
  | mark
  deriving DecidableEq

/-- The shared Redis keyspace. -/
abbrev Redis := ExpiringStore String RedisValue

/-- The two stores of the service; `redis_url` decides which one is used. -/
structure OtpStores where
  redis : Redis
  memory : Dict String Record

/-- Both stores empty. -/
def OtpStores.empty : OtpStores := ⟨Dict.empty, Dict.empty⟩

/-- `_KEY_PREFIX` and `_KEY_PREFIX_RESET` -/
def Flow.keyPrefix : Flow → String
  | .login => "ouros:auth:email-otp:"
  | .reset => "ouros:auth:password-reset-otp:"

/-- `full_key`: the key of a challenge in Redis. -/
def redisKey (flow : Flow) (challengeId : String) : String := flow.keyPrefix ++ challengeId

/-- Prefixes that differ within their first twelve characters share no key. -/
theorem append_ne_append {pre pre' : String} (hlen : 12 ≤ pre.toList.length)
    (hlen' : 12 ≤ pre'.toList.length) (hne : pre.toList.take 12 ≠ pre'.toList.take 12)
    (k k' : String) : pre ++ k ≠ pre' ++ k' := by
  intro h
  have htake := congrArg (fun s : String => s.toList.take 12) h
  rw [String.toList_append, String.toList_append, List.take_append_of_le_length hlen,
    List.take_append_of_le_length hlen'] at htake
  exact hne htake

/-- `mem_key`: the key of a challenge in the process-local map. -/
def memKey : Flow → String → String
  | .login, challengeId => challengeId
  | .reset, challengeId => "reset:" ++ challengeId

/-- The key of a challenge in the backend in use. -/
def storeKey (svc : OtpService) (flow : Flow) (challengeId : String) : String :=
  if svc.usesRedis then redisKey flow challengeId else memKey flow challengeId

/-- Within one flow the key determines the challenge id. -/
theorem storeKey_inj {svc : OtpService} {flow : Flow} {challengeId challengeId' : String}
    (h : storeKey svc flow challengeId = storeKey svc flow challengeId') :
    challengeId = challengeId' := by
  unfold storeKey at h
  split at h
  · exact (String.append_right_inj _).mp h
  · cases flow with
    | login => exact h
    | reset => exact (String.append_right_inj _).mp h

/-! ### The operations -/

/-- `_cleanup_memory`: drop records that expired or have no usable expiry. -/
def cleanupMemory (now : Instant) (memory : Dict String Record) : Dict String Record :=
  memory.filter fun _ r =>
    match r.expiresAt.asInt? with
    -- an expiry that is no integer is dropped with the expired ones
    | none => false
    | some expiresAt => decide (now.whole < expiresAt)

/-- `_save` -/
def OtpStores.save (st : OtpStores) (svc : OtpService) (now : Instant) (flow : Flow)
    (challengeId : String) (r : Record) (ttlSeconds : ℤ) : OtpStores :=
  if svc.usesRedis then
    { st with
      redis := st.redis.setEx now.seconds (redisKey flow challengeId) (.document r)
        (max ttlSeconds 1 : ℤ) }
  else
    { st with memory := (cleanupMemory now st.memory).set (memKey flow challengeId) r }

/-- `_delete` -/
def OtpStores.delete (st : OtpStores) (svc : OtpService) (flow : Flow) (challengeId : String) :
    OtpStores :=
  if svc.usesRedis then { st with redis := st.redis.del (redisKey flow challengeId) }
  else { st with memory := st.memory.erase (memKey flow challengeId) }

/-- `_load`: the record found and the stores afterwards. -/
def OtpStores.load (st : OtpStores) (svc : OtpService) (now : Instant) (flow : Flow)
    (challengeId : String) : Option Record × OtpStores :=
  if svc.usesRedis then
    match st.redis.get now.seconds (redisKey flow challengeId) with
    | some (.document r) => (some r, st)
    -- `json.JSONDecodeError`; a value that decodes to something else stays where it is
    | some .malformed => (none, st.delete svc flow challengeId)
    | _ => (none, st)
  else
    let memory := cleanupMemory now st.memory
    (memory.get? (memKey flow challengeId), { st with memory := memory })

/-! ### Reading either backend -/

/-- The record written down under a key of the backend in use. -/
def OtpStores.recordAt (st : OtpStores) (svc : OtpService) (key : String) : Option Record :=
  if svc.usesRedis then
    match st.redis.peek key with
    | some (.document r) => some r
    | _ => none
  else st.memory.get? key

/-- The record written down for a challenge. -/
def OtpStores.record? (st : OtpStores) (svc : OtpService) (flow : Flow) (challengeId : String) :
    Option Record :=
  st.recordAt svc (storeKey svc flow challengeId)

@[simp] theorem recordAt_empty (svc : OtpService) (key : String) :
    OtpStores.empty.recordAt svc key = none := by
  unfold OtpStores.recordAt OtpStores.empty
  split <;> simp

theorem get?_cleanupMemory {now : Instant} {memory : Dict String Record} {key : String}
    {r : Record} (h : (cleanupMemory now memory).get? key = some r) :
    memory.get? key = some r := by
  rw [cleanupMemory, Dict.get?_filter, Option.filter_eq_some_iff] at h
  exact h.1

/-- What the cleanup keeps has not expired. -/
theorem expiresAt_of_get?_cleanupMemory {now : Instant} {memory : Dict String Record}
    {key : String} {r : Record} {expiresAt : ℤ} (he : r.expiresAt.asInt? = some expiresAt)
    (h : (cleanupMemory now memory).get? key = some r) : now.whole < expiresAt := by
  rw [cleanupMemory, Dict.get?_filter, Option.filter_eq_some_iff, he] at h
  simpa using h.2

/-- The cleanup drops what has expired. -/
theorem get?_cleanupMemory_expired {now : Instant} {memory : Dict String Record} {key : String}
    {r : Record} {expiresAt : ℤ} (h : memory.get? key = some r)
    (he : r.expiresAt.asInt? = some expiresAt) (hexpired : expiresAt ≤ now.whole) :
    (cleanupMemory now memory).get? key = none := by
  rw [cleanupMemory, Dict.get?_filter, h, Option.filter_some, he, if_neg]
  simpa using hexpired

/-- The record a lookup at time `now` finds under a key of the backend in use. -/
def OtpStores.find? (st : OtpStores) (svc : OtpService) (now : Instant) (key : String) :
    Option Record :=
  if svc.usesRedis then
    match st.redis.get now.seconds key with
    | some (.document r) => some r
    | _ => none
  else (cleanupMemory now st.memory).get? key

variable {st : OtpStores} {svc : OtpService} {now : Instant} {flow : Flow}
  {challengeId key : String} {r r' : Record} {ttlSeconds : ℤ}

/-- After a save the challenge has the saved record. -/
@[simp] theorem recordAt_save_self :
    (st.save svc now flow challengeId r ttlSeconds).recordAt svc (storeKey svc flow challengeId) =
      some r := by
  unfold OtpStores.save OtpStores.recordAt storeKey
  by_cases hr : svc.usesRedis = true
  · simp [hr]
  · simp [hr]

/-- A save adds no record under another key. -/
theorem recordAt_of_recordAt_save (hne : key ≠ storeKey svc flow challengeId)
    (h : (st.save svc now flow challengeId r ttlSeconds).recordAt svc key = some r') :
    st.recordAt svc key = some r' := by
  unfold OtpStores.save OtpStores.recordAt at *
  unfold storeKey at hne
  by_cases hr : svc.usesRedis = true
  · simp only [hr, if_true] at h hne ⊢
    rwa [ExpiringStore.peek_setEx_ne _ _ _ _ hne] at h
  · simp only [hr, Bool.false_eq_true, if_false] at h hne ⊢
    exact get?_cleanupMemory (by rwa [Dict.get?_set_ne _ _ hne] at h)

/-- A delete removes the challenge's record. -/
@[simp] theorem recordAt_delete_self :
    (st.delete svc flow challengeId).recordAt svc (storeKey svc flow challengeId) = none := by
  unfold OtpStores.delete OtpStores.recordAt storeKey
  by_cases hr : svc.usesRedis = true <;> simp [hr]

/-- A delete touches no other key. -/
theorem recordAt_delete_ne (hne : key ≠ storeKey svc flow challengeId) :
    (st.delete svc flow challengeId).recordAt svc key = st.recordAt svc key := by
  unfold OtpStores.delete OtpStores.recordAt
  unfold storeKey at hne
  by_cases hr : svc.usesRedis = true
  · simp only [hr, if_true] at hne ⊢
    rw [ExpiringStore.peek_del_ne _ hne]
  · simp only [hr, Bool.false_eq_true, if_false] at hne ⊢
    exact Dict.get?_erase_ne _ hne

/-- A delete adds no record. -/
theorem recordAt_of_recordAt_delete
    (h : (st.delete svc flow challengeId).recordAt svc key = some r') :
    st.recordAt svc key = some r' := by
  by_cases hne : key = storeKey svc flow challengeId
  · rw [hne, recordAt_delete_self] at h
    exact absurd h (by simp)
  · rwa [recordAt_delete_ne hne] at h

/-- A load adds no record. -/
theorem recordAt_of_recordAt_load
    (h : (st.load svc now flow challengeId).2.recordAt svc key = some r') :
    st.recordAt svc key = some r' := by
  unfold OtpStores.load at h
  by_cases hr : svc.usesRedis = true
  · simp only [hr, if_true] at h
    split at h
    · exact h
    · exact recordAt_of_recordAt_delete h
    · exact h
  · simp only [hr, Bool.false_eq_true, if_false] at h
    unfold OtpStores.recordAt at h ⊢
    simp only [hr, Bool.false_eq_true, if_false] at h ⊢
    exact get?_cleanupMemory h

/-- A load answers with a record that is written down. -/
theorem recordAt_of_load (h : (st.load svc now flow challengeId).1 = some r) :
    st.recordAt svc (storeKey svc flow challengeId) = some r := by
  unfold OtpStores.load at h
  unfold OtpStores.recordAt storeKey
  by_cases hr : svc.usesRedis = true
  · simp only [hr, if_true] at h ⊢
    split at h
    · rename_i r₀ hget
      rw [ExpiringStore.peek_of_get hget]
      exact h
    · exact absurd h (by simp)
    · exact absurd h (by simp)
  · simp only [hr, Bool.false_eq_true, if_false] at h ⊢
    exact get?_cleanupMemory h

/-! ### Other keys of Redis -/

theorem redis_save_ne (hne : key ≠ redisKey flow challengeId) :
    (st.save svc now flow challengeId r ttlSeconds).redis.get? key = st.redis.get? key := by
  unfold OtpStores.save
  split
  · exact Dict.get?_set_ne _ _ hne
  · rfl

theorem redis_delete_ne (hne : key ≠ redisKey flow challengeId) :
    (st.delete svc flow challengeId).redis.get? key = st.redis.get? key := by
  unfold OtpStores.delete
  split
  · exact Dict.get?_erase_ne _ hne
  · rfl

/-- A record depends on its own key of Redis alone. -/
theorem recordAt_redis_congr {redis : Redis} (h : redis.get? key = st.redis.get? key) :
    ({ st with redis := redis } : OtpStores).recordAt svc key = st.recordAt svc key := by
  unfold OtpStores.recordAt ExpiringStore.peek
  rw [h]

/-! ### Lookups at a time -/

/-- Time only takes records away. -/
theorem find?_of_later {now' : Instant} (hle : now.seconds ≤ now'.seconds)
    (h : st.find? svc now' key = some r) : st.find? svc now key = some r := by
  unfold OtpStores.find? at h ⊢
  by_cases hr : svc.usesRedis = true
  · simp only [hr, if_true] at h ⊢
    split at h
    · rename_i r' hget
      rw [ExpiringStore.get_of_get_later hle hget]
      exact h
    · exact absurd h (by simp)
  · -- the map compares whole seconds, which are as monotone as the clock
    simp only [hr, Bool.false_eq_true, if_false] at h ⊢
    rw [cleanupMemory, Dict.get?_filter, Option.filter_eq_some_iff] at h ⊢
    refine ⟨h.1, ?_⟩
    cases he : r.expiresAt.asInt? with
    | none => rw [he] at h; exact absurd h.2 (by simp)
    | some expiresAt =>
      rw [he] at h
      have hlt := of_decide_eq_true h.2
      exact decide_eq_true (lt_of_le_of_lt (Instant.whole_mono hle) hlt)

/-- What a lookup finds is written down. -/
theorem recordAt_of_find? (h : st.find? svc now key = some r) : st.recordAt svc key = some r := by
  unfold OtpStores.find? at h
  unfold OtpStores.recordAt
  by_cases hr : svc.usesRedis = true
  · simp only [hr, if_true] at h ⊢
    split at h
    · rename_i r' hget
      rw [ExpiringStore.peek_of_get hget]
      exact h
    · exact absurd h (by simp)
  · simp only [hr, Bool.false_eq_true, if_false] at h ⊢
    exact get?_cleanupMemory h

/-- A load answers what a lookup finds. -/
theorem load_eq_find? (st : OtpStores) (svc : OtpService) (now : Instant) (flow : Flow)
    (challengeId : String) :
    (st.load svc now flow challengeId).1 = st.find? svc now (storeKey svc flow challengeId) := by
  unfold OtpStores.load OtpStores.find? storeKey
  by_cases hr : svc.usesRedis = true
  · simp only [hr, if_true]
    cases hget : st.redis.get now.seconds (redisKey flow challengeId) with
    | none => rfl
    | some v => cases v <;> rfl
  · simp only [hr, Bool.false_eq_true, if_false]

/-- A saved record is found until it expires, when Redis keeps it that long. -/
theorem find?_save_self {t : Instant} {expiresAt : ℤ} (he : r.expiresAt.asInt? = some expiresAt)
    (hlive : t.whole < expiresAt)
    (hkeep : (expiresAt : ℚ) ≤ now.seconds + (max ttlSeconds 1 : ℤ)) :
    (st.save svc now flow challengeId r ttlSeconds).find? svc t (storeKey svc flow challengeId) =
      some r := by
  unfold OtpStores.save OtpStores.find? storeKey
  by_cases hr : svc.usesRedis = true
  · simp only [hr, if_true]
    have hbefore : t.seconds < now.seconds + (max ttlSeconds 1 : ℤ) :=
      lt_of_lt_of_le (Instant.seconds_lt_of_whole_lt hlive) hkeep
    rw [ExpiringStore.get_setEx_of_lt _ _ _ hbefore]
  · simp only [hr, Bool.false_eq_true, if_false]
    rw [cleanupMemory, Dict.get?_filter, Dict.get?_set_self, Option.filter_some, he,
      if_pos (decide_eq_true hlive)]

/-- What a lookup does not find, no later one finds. -/
theorem find?_eq_none_of_later {now' : Instant} (hle : now.seconds ≤ now'.seconds)
    (h : st.find? svc now key = none) : st.find? svc now' key = none :=
  Option.eq_none_iff_forall_ne_some.mpr fun _ hr =>
    absurd (h.symm.trans (find?_of_later hle hr)) (by simp)

/-- What the cleanup leaves under a key depends on that key alone. -/
theorem get?_cleanupMemory_congr {memory memory' : Dict String Record} (now : Instant)
    (h : memory.get? key = memory'.get? key) :
    (cleanupMemory now memory).get? key = (cleanupMemory now memory').get? key := by
  rw [cleanupMemory, cleanupMemory, Dict.get?_filter, Dict.get?_filter, h]

/-- Cleaning up hides nothing from a lookup at the same time. -/
theorem get?_cleanupMemory_twice (now : Instant) (memory : Dict String Record) (key : String) :
    (cleanupMemory now (cleanupMemory now memory)).get? key =
      (cleanupMemory now memory).get? key := by
  unfold cleanupMemory
  rw [Dict.get?_filter, Dict.get?_filter, Option.filter_filter]
  simp

/-- A save adds nothing to the lookup of another key. -/
theorem find?_of_save (hne : key ≠ storeKey svc flow challengeId)
    (h : (st.save svc now flow challengeId r ttlSeconds).find? svc now key = some r') :
    st.find? svc now key = some r' := by
  unfold OtpStores.save OtpStores.find? at *
  unfold storeKey at hne
  by_cases hr : svc.usesRedis = true
  · simp only [hr, if_true] at h hne ⊢
    rwa [ExpiringStore.setEx, ExpiringStore.get_set_ne _ _ _ hne] at h
  · simp only [hr, Bool.false_eq_true, if_false] at h hne ⊢
    rwa [get?_cleanupMemory_congr now (Dict.get?_set_ne _ _ hne), get?_cleanupMemory_twice] at h

/-- A delete adds nothing to any lookup. -/
theorem find?_of_delete (h : (st.delete svc flow challengeId).find? svc now key = some r') :
    st.find? svc now key = some r' := by
  unfold OtpStores.delete OtpStores.find? at *
  by_cases hr : svc.usesRedis = true
  · simp only [hr, if_true] at h ⊢
    by_cases hk : key = redisKey flow challengeId
    · rw [hk, ExpiringStore.get_del_self] at h
      exact absurd h (by simp)
    · rwa [ExpiringStore.get_del_ne _ _ hk] at h
  · simp only [hr, Bool.false_eq_true, if_false] at h ⊢
    by_cases hk : key = memKey flow challengeId
    · rw [cleanupMemory, Dict.get?_filter, hk, Dict.get?_erase_self] at h
      exact absurd h (by simp)
    · rwa [get?_cleanupMemory_congr now (Dict.get?_erase_ne _ hk)] at h

theorem find?_delete_eq_none (h : st.find? svc now key = none) :
    (st.delete svc flow challengeId).find? svc now key = none :=
  Option.eq_none_iff_forall_ne_some.mpr fun _ hr =>
    absurd (h.symm.trans (find?_of_delete hr)) (by simp)

/-! ### One challenge at a time -/

/-- The backend in use holds `r` for the challenge; Redis drops it at `deadline`. -/
def OtpStores.Holds (st : OtpStores) (svc : OtpService) (flow : Flow) (challengeId : String)
    (r : Record) (deadline : ℚ) : Prop :=
  if svc.usesRedis then
    st.redis.get? (redisKey flow challengeId) = some ⟨.document r, some deadline⟩
  else st.memory.get? (memKey flow challengeId) = some r

/-- The backend in use holds nothing for the challenge. -/
def OtpStores.Lacks (st : OtpStores) (svc : OtpService) (flow : Flow) (challengeId : String) :
    Prop :=
  if svc.usesRedis then st.redis.get? (redisKey flow challengeId) = none
  else st.memory.get? (memKey flow challengeId) = none

/-- Either the record is still held, or the process-local map has dropped it after its expiry. -/
def OtpStores.Kept (st : OtpStores) (svc : OtpService) (flow : Flow) (challengeId : String)
    (r : Record) (deadline : ℚ) (now : Instant) : Prop :=
  st.Holds svc flow challengeId r deadline ∨
    st.Lacks svc flow challengeId ∧ svc.usesRedis = false ∧
      ∀ expiresAt, r.expiresAt.asInt? = some expiresAt → expiresAt ≤ now.whole

variable {deadline : ℚ} {challengeId' : String}

theorem redisKey_ne (hne : challengeId ≠ challengeId') :
    redisKey flow challengeId ≠ redisKey flow challengeId' :=
  fun hkey => hne ((String.append_right_inj _).mp hkey)

theorem memKey_ne (hne : challengeId ≠ challengeId') :
    memKey flow challengeId ≠ memKey flow challengeId' := by
  cases flow with
  | login => exact hne
  | reset => exact fun hkey => hne ((String.append_right_inj _).mp hkey)

theorem lacks_empty (svc : OtpService) (flow : Flow) (challengeId : String) :
    OtpStores.empty.Lacks svc flow challengeId := by
  unfold OtpStores.Lacks OtpStores.empty
  split <;> exact Dict.get?_empty _

/-- What the cleanup does to one record: it stays, or it has expired. -/
theorem get?_cleanupMemory_cases {memory : Dict String Record} (now : Instant)
    (h : memory.get? key = some r) :
    (cleanupMemory now memory).get? key = some r ∨
      (cleanupMemory now memory).get? key = none ∧
        ∀ expiresAt, r.expiresAt.asInt? = some expiresAt → expiresAt ≤ now.whole := by
  rw [cleanupMemory, Dict.get?_filter, h, Option.filter]
  cases he : r.expiresAt.asInt? with
  | none => exact Or.inr ⟨by simp, by simp⟩
  | some expiresAt =>
    by_cases hlive : now.whole < expiresAt
    · left
      simp [hlive]
    · right
      refine ⟨by simp [hlive], fun e heq => ?_⟩
      rw [← Option.some.inj heq]
      exact not_lt.mp hlive

theorem get?_cleanupMemory_none {memory : Dict String Record} (now : Instant)
    (h : memory.get? key = none) : (cleanupMemory now memory).get? key = none := by
  rw [cleanupMemory, Dict.get?_filter, h]
  rfl

theorem holds_save_self :
    (st.save svc now flow challengeId r ttlSeconds).Holds svc flow challengeId r
      (now.seconds + (max ttlSeconds 1 : ℤ)) := by
  unfold OtpStores.save OtpStores.Holds
  by_cases hr : svc.usesRedis = true
  · simp only [hr, if_true]
    exact Dict.get?_set_self ..
  · simp only [hr, Bool.false_eq_true, if_false]
    exact Dict.get?_set_self ..

/-- Saving one challenge keeps another. -/
theorem OtpStores.Holds.save (hne : challengeId ≠ challengeId')
    (h : st.Holds svc flow challengeId r deadline) :
    (st.save svc now flow challengeId' r' ttlSeconds).Kept svc flow challengeId r deadline now := by
  unfold OtpStores.save OtpStores.Kept OtpStores.Holds OtpStores.Lacks at *
  by_cases hr : svc.usesRedis = true
  · simp only [hr, if_true] at h ⊢
    left
    exact (Dict.get?_set_ne _ _ (redisKey_ne hne)).trans h
  · simp only [hr, Bool.false_eq_true, if_false] at h ⊢
    rw [Dict.get?_set_ne _ _ (memKey_ne hne)]
    exact (get?_cleanupMemory_cases now h).imp id fun hgone => ⟨hgone.1, trivial, hgone.2⟩

theorem OtpStores.Lacks.save (hne : challengeId ≠ challengeId')
    (h : st.Lacks svc flow challengeId) :
    (st.save svc now flow challengeId' r' ttlSeconds).Lacks svc flow challengeId := by
  unfold OtpStores.save OtpStores.Lacks at *
  by_cases hr : svc.usesRedis = true
  · simp only [hr, if_true] at h ⊢
    exact (Dict.get?_set_ne _ _ (redisKey_ne hne)).trans h
  · simp only [hr, Bool.false_eq_true, if_false] at h ⊢
    rw [Dict.get?_set_ne _ _ (memKey_ne hne)]
    exact get?_cleanupMemory_none now h

theorem lacks_delete_self : (st.delete svc flow challengeId).Lacks svc flow challengeId := by
  unfold OtpStores.delete OtpStores.Lacks
  by_cases hr : svc.usesRedis = true
  · simp only [hr, if_true]
    exact Dict.get?_erase_self ..
  · simp only [hr, Bool.false_eq_true, if_false]
    exact Dict.get?_erase_self ..

/-- Deleting one challenge keeps another. -/
theorem OtpStores.Holds.delete (hne : challengeId ≠ challengeId')
    (h : st.Holds svc flow challengeId r deadline) :
    (st.delete svc flow challengeId').Holds svc flow challengeId r deadline := by
  unfold OtpStores.delete OtpStores.Holds at *
  by_cases hr : svc.usesRedis = true
  · simp only [hr, if_true] at h ⊢
    exact (Dict.get?_erase_ne _ (redisKey_ne hne)).trans h
  · simp only [hr, Bool.false_eq_true, if_false] at h ⊢
    exact (Dict.get?_erase_ne _ (memKey_ne hne)).trans h

theorem OtpStores.Lacks.delete (h : st.Lacks svc flow challengeId) :
    (st.delete svc flow challengeId').Lacks svc flow challengeId := by
  by_cases hid : challengeId = challengeId'
  · rw [hid]
    exact lacks_delete_self
  unfold OtpStores.delete OtpStores.Lacks at *
  by_cases hr : svc.usesRedis = true
  · simp only [hr, if_true] at h ⊢
    exact (Dict.get?_erase_ne _ (redisKey_ne hid)).trans h
  · simp only [hr, Bool.false_eq_true, if_false] at h ⊢
    exact (Dict.get?_erase_ne _ (memKey_ne hid)).trans h

/-! ### The state both flows run over -/

/-- How sending the e-mail ended: sent, an `OSError` or `SMTPException` (which the service
    catches), or another exception (which it does not). -/
inductive Delivery
  | sent
  | smtpFailure
  | otherFailure
  deriving DecidableEq

/-- The clock, the challenge ids handed out, the deliveries under way and the stores. -/
structure OtpState where
  now : Instant
  issued : List String
  delivering : List (Flow × String)
  stores : OtpStores

/-- A service that has not created a challenge yet. -/
def OtpState.init (now : Instant) : OtpState := ⟨now, [], [], OtpStores.empty⟩

/-- The clock moves on. -/
def OtpState.tick (s : OtpState) (t : Instant) : Option OtpState :=
  if s.now.seconds ≤ t.seconds then some { s with now := t } else none

/-- `start` and `start_password_reset` up to the saved record.  `readAt` is when the expiry
    was computed; the id comes fresh out of `secrets.token_urlsafe`. -/
def OtpState.create (s : OtpState) (svc : OtpService) (flow : Flow) (challengeId : String)
    (readAt : Instant) (r : Record) : Option OtpState :=
  if isChallengeToken challengeId = true ∧ challengeId ∉ s.issued ∧
      readAt.seconds ≤ s.now.seconds then
    some { s with
      issued := challengeId :: s.issued
      delivering := (flow, challengeId) :: s.delivering
      stores := s.stores.save svc s.now flow challengeId r svc.ttlSeconds }
  else none

/-- The delivery of a challenge's e-mail ends; a caught failure deletes the challenge. -/
def OtpState.delivered (s : OtpState) (svc : OtpService) (flow : Flow) (challengeId : String)
    (outcome : Delivery) : Option OtpState :=
  if (flow, challengeId) ∈ s.delivering then
    some { s with
      delivering := s.delivering.erase (flow, challengeId)
      stores :=
        match outcome with
        | .smtpFailure => s.stores.delete svc flow challengeId
        -- sent, or an exception the handler does not name: the challenge stays
        | _ => s.stores }
  else none

theorem tick_eq_some {s s' : OtpState} {t : Instant} :
    s.tick t = some s' ↔ s.now.seconds ≤ t.seconds ∧ s' = { s with now := t } := by
  unfold OtpState.tick
  split_ifs with hle
  · rw [Option.some.injEq]
    exact ⟨fun h => ⟨hle, h.symm⟩, fun h => h.2.symm⟩
  · exact ⟨fun h => absurd h (by simp), fun h => absurd h.1 hle⟩

theorem create_eq_some {s s' : OtpState} {readAt : Instant} :
    s.create svc flow challengeId readAt r = some s' ↔
      isChallengeToken challengeId = true ∧ challengeId ∉ s.issued ∧
        readAt.seconds ≤ s.now.seconds ∧
        s' = { s with
          issued := challengeId :: s.issued
          delivering := (flow, challengeId) :: s.delivering
          stores := s.stores.save svc s.now flow challengeId r svc.ttlSeconds } := by
  unfold OtpState.create
  split_ifs with hguard
  · rw [Option.some.injEq]
    exact ⟨fun h => ⟨hguard.1, hguard.2.1, hguard.2.2, h.symm⟩, fun h => h.2.2.2.symm⟩
  · exact ⟨fun h => absurd h (by simp), fun h => absurd ⟨h.1, h.2.1, h.2.2.1⟩ hguard⟩

/-- A delivery that ends deletes the challenge or leaves the stores alone. -/
theorem delivered_eq_some {s s' : OtpState} {outcome : Delivery}
    (h : s.delivered svc flow challengeId outcome = some s') :
    (flow, challengeId) ∈ s.delivering ∧ s'.now = s.now ∧ s'.issued = s.issued ∧
      s'.delivering = s.delivering.erase (flow, challengeId) ∧
      (s'.stores = s.stores ∨ s'.stores = s.stores.delete svc flow challengeId) := by
  unfold OtpState.delivered at h
  split at h
  · rename_i hmem
    rw [Option.some.injEq] at h
    subst h
    refine ⟨hmem, rfl, rfl, rfl, ?_⟩
    cases outcome
    · exact Or.inl rfl
    · exact Or.inr rfl
    · exact Or.inl rfl
  · exact absurd h (by simp)

end OurosAuth
