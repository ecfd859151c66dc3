import OurosAuth.PasswordReset.ConfirmRuns

namespace OurosAuth

open KeyValue Traced

/-!
# How does the reservation of a reset token end?

Between its `POST` and its end a call holds the reservation of its token; a failed update releases
it and an acknowledged one leaves it.

* `reservation?` — the reservation of a token that is in force at a time, read from either backend;
* `TokenStatus` — a token that has not expired is free, held by one call, or used;
* `reservation_ends_as_update_iff` — how a call leaves its token, and every other;
* `reservation_lost_after_ok` — the one way in which it leaves it wrongly.
-/

variable {rt : Runtime} {usesRedis : Bool} {tokenTtlSeconds : ℕ}

/-! ### Reading reservations -/

/-- The reservation of `jti` in force at time `t`. -/
def ReservationStore.reservation? (st : ReservationStore) (usesRedis : Bool) (t : Instant)
    (jti : String) : Option (Entry RedisValue) :=
  if usesRedis then st.redis.liveEntry t.seconds (blacklistKey jti)
  else ((cleanupBlacklist t st.blacklist).get? jti).map fun endsAt => ⟨.mark, some endsAt⟩

/-- The store holds nothing for `jti`, not even a reservation that is over. -/
def ReservationStore.Unmarked (st : ReservationStore) (usesRedis : Bool) (jti : String) : Prop :=
  if usesRedis then st.redis.get? (blacklistKey jti) = none else st.blacklist.get? jti = none

/-- No look at the reservation of `jti`, now or later, tells `st'` from `st`. -/
def ReservationStore.KeepsReservation (usesRedis : Bool) (jti : String) (now : Instant)
    (st st' : ReservationStore) : Prop :=
  ∀ t : Instant, now.seconds ≤ t.seconds →
    st'.reservation? usesRedis t jti = st.reservation? usesRedis t jti

variable {st store : ReservationStore} {now clockAt measuredAt : Instant} {claims : Claims}
  {jti : String}

/-- A protected token that has not expired is reserved. -/
theorem ReservationStore.Protects.reserved (h : st.Protects usesRedis now claims)
    (hlive : now.seconds < claims.exp) :
    (st.reservation? usesRedis now claims.jti).isSome = true := by
  replace h := h.resolve_left (not_le.mpr hlive)
  unfold ReservationStore.reservation?
  cases usesRedis with
  | true =>
    obtain ⟨v, d, hget, hd⟩ := h
    have halive : (⟨v, some d⟩ : Entry RedisValue).alive now.seconds = true :=
      decide_eq_true (hlive.trans_le hd)
    rw [if_pos rfl, ExpiringStore.liveEntry_of_alive hget halive]
    rfl
  | false =>
    obtain ⟨endsAt, hget, hend⟩ := h
    have hkept : decide (now.seconds < endsAt) = true := decide_eq_true (hlive.trans_le hend)
    simp [cleanupBlacklist, Dict.get?_filter, hget, Option.filter, hkept]

/-- Without a mark there is no reservation. -/
theorem ReservationStore.Unmarked.not_reserved (h : st.Unmarked usesRedis jti) :
    st.reservation? usesRedis now jti = none := by
  unfold ReservationStore.Unmarked at h
  unfold ReservationStore.reservation?
  cases usesRedis with
  | true =>
    simp only [if_true] at h ⊢
    exact ExpiringStore.liveEntry_eq_none _ h
  | false =>
    simp only [Bool.false_eq_true, if_false] at h ⊢
    rw [cleanupBlacklist, Dict.get?_filter, h]
    rfl

/-- A token without a mark is reserved for the first call that comes. -/
theorem ReservationStore.Unmarked.reserve (h : st.Unmarked usesRedis jti) {ok : Bool}
    {ttlSeconds : ℤ} (hres : st.reserve usesRedis now clockAt jti ttlSeconds = (ok, store)) :
    ok = true := by
  have hfree : st.reservation? usesRedis now jti = none := h.not_reserved
  have hfreeClock : st.reservation? usesRedis clockAt jti = none := h.not_reserved
  unfold ReservationStore.reservation? at hfree hfreeClock
  unfold ReservationStore.reserve at hres
  cases usesRedis with
  | true =>
    simp only [if_true, ExpiringStore.setNxEx] at hfree hres
    rw [ExpiringStore.get_of_liveEntry_none hfree] at hres
    exact (Prod.mk.inj hres).1.symm
  | false =>
    simp only [Bool.false_eq_true, if_false, Option.map_eq_none_iff] at hfreeClock hres
    rw [hfreeClock] at hres
    exact (Prod.mk.inj hres).1.symm

/-! ### What the store operations leave alone -/

variable {st' : ReservationStore} {jti' : String} {ok : Bool} {ttlSeconds : ℤ}

/-- A later cleanup makes an earlier one unnoticed. -/
theorem get?_cleanupBlacklist_later {t : Instant} (hle : clockAt.seconds ≤ t.seconds)
    (blacklist : Dict String ℚ) (jti : String) :
    (cleanupBlacklist t (cleanupBlacklist clockAt blacklist)).get? jti =
      (cleanupBlacklist t blacklist).get? jti := by
  unfold cleanupBlacklist
  rw [Dict.get?_filter, Dict.get?_filter, Dict.get?_filter, Option.filter_filter]
  refine congrArg (fun p => (blacklist.get? jti).filter p) (funext fun endsAt => ?_)
  by_cases hlive : t.seconds < endsAt
  · simp [hlive, hle.trans_lt hlive]
  · simp [hlive]

/-- A look at a reservation depends on its own key, before and after a cleanup. -/
theorem keepsReservation_of_eq
    (hredis : usesRedis = true →
      st'.redis.get? (blacklistKey jti) = st.redis.get? (blacklistKey jti))
    (hmemory : usesRedis = false → ∃ clockAt : Instant, clockAt.seconds ≤ now.seconds ∧
      (st'.blacklist.get? jti = st.blacklist.get? jti ∨
        st'.blacklist.get? jti = (cleanupBlacklist clockAt st.blacklist).get? jti)) :
    st.KeepsReservation usesRedis jti now st' := by
  intro t hle
  unfold ReservationStore.reservation?
  cases usesRedis with
  | true =>
    simp only [if_true]
    exact ExpiringStore.liveEntry_congr _ (hredis rfl)
  | false =>
    simp only [Bool.false_eq_true, if_false]
    obtain ⟨clockAt, hclock, hget⟩ := hmemory rfl
    have hcongr : ∀ b : Dict String ℚ, st'.blacklist.get? jti = b.get? jti →
        (cleanupBlacklist t st'.blacklist).get? jti = (cleanupBlacklist t b).get? jti := by
      intro b hb
      rw [cleanupBlacklist, cleanupBlacklist, Dict.get?_filter, Dict.get?_filter, hb]
    rcases hget with hget | hget
    · rw [hcongr _ hget]
    · rw [hcongr _ hget, get?_cleanupBlacklist_later (hclock.trans hle)]

/-- **A reservation that fails, or is of another token, changes no reservation in force.** -/
theorem keepsReservation_reserve (hclock : clockAt.seconds ≤ now.seconds)
    (hother : ok = true → jti' ≠ jti)
    (h : st.reserve usesRedis now clockAt jti ttlSeconds = (ok, store)) :
    st.KeepsReservation usesRedis jti' now store := by
  unfold ReservationStore.reserve at h
  refine keepsReservation_of_eq (fun hr => ?_) fun hr => ⟨clockAt, hclock, Or.inr ?_⟩
  · simp only [hr, if_true, ExpiringStore.setNxEx] at h
    split at h <;> obtain ⟨rfl, rfl⟩ := Prod.mk.inj h
    · rfl
    · exact Dict.get?_set_ne _ _ fun heq => hother rfl (blacklistKey_inj heq)
  · simp only [hr, Bool.false_eq_true, if_false] at h
    split at h <;> obtain ⟨rfl, rfl⟩ := Prod.mk.inj h
    · rfl
    · exact Dict.get?_set_ne _ _ (hother rfl)

theorem keepsReservation_release (hother : jti' ≠ jti) :
    st.KeepsReservation usesRedis jti' now (st.release usesRedis jti) := by
  refine keepsReservation_of_eq (fun hr => ?_) fun hr => ⟨now, le_rfl, Or.inl ?_⟩
  · rw [ReservationStore.release, if_pos hr]
    exact Dict.get?_erase_ne _ fun heq => hother (blacklistKey_inj heq)
  · rw [ReservationStore.release, if_neg (by simp [hr])]
    exact Dict.get?_erase_ne _ hother

/-- A release leaves its token without a mark. -/
theorem unmarked_release : (st.release usesRedis jti).Unmarked usesRedis jti := by
  unfold ReservationStore.release ReservationStore.Unmarked
  cases usesRedis with
  | true => exact Dict.get?_erase_self ..
  | false => exact Dict.get?_erase_self ..

/-- A release marks no token. -/
theorem ReservationStore.Unmarked.release (h : st.Unmarked usesRedis jti') :
    (st.release usesRedis jti).Unmarked usesRedis jti' := by
  by_cases hjti : jti' = jti
  · rw [hjti]
    exact unmarked_release
  unfold ReservationStore.Unmarked at h
  unfold ReservationStore.release ReservationStore.Unmarked
  cases usesRedis with
  | true => exact (Dict.get?_erase_ne _ fun heq => hjti (blacklistKey_inj heq)).trans h
  | false => exact (Dict.get?_erase_ne _ hjti).trans h

/-- A reservation marks its own token at most. -/
theorem ReservationStore.Unmarked.of_reserve (h : st.Unmarked usesRedis jti')
    (hother : ok = true → jti' ≠ jti)
    (hres : st.reserve usesRedis now clockAt jti ttlSeconds = (ok, store)) :
    store.Unmarked usesRedis jti' := by
  unfold ReservationStore.Unmarked at h ⊢
  unfold ReservationStore.reserve at hres
  cases usesRedis with
  | true =>
    simp only [if_true, ExpiringStore.setNxEx] at h hres ⊢
    split at hres <;> obtain ⟨rfl, rfl⟩ := Prod.mk.inj hres
    · exact h
    · exact (Dict.get?_set_ne _ _ fun heq => hother rfl (blacklistKey_inj heq)).trans h
  | false =>
    simp only [Bool.false_eq_true, if_false] at h hres ⊢
    have hclean : (cleanupBlacklist clockAt st.blacklist).get? jti' = none := by
      rw [cleanupBlacklist, Dict.get?_filter, h]
      rfl
    split at hres <;> obtain ⟨rfl, rfl⟩ := Prod.mk.inj hres
    · exact hclean
    · exact (Dict.get?_set_ne _ _ (hother rfl)).trans hclean

/-! ### Free, held or used -/

/-- The id of the token a call holds. -/
def ConfirmCall.heldId (call : ConfirmCall) : Option String := call.holds.map Claims.jti

/-- A call with this token has returned, and left its reservation. -/
def Returned (h : List ConfirmEvent) (jti : String) : Prop :=
  ∃ i claims, .returned i claims ∈ h ∧ claims.jti = jti

/-- What a token that has not expired can be, and what the store holds for it then. -/
inductive TokenStatus (usesRedis : Bool) (c : Config ConfirmState ConfirmEvent) (claims : Claims) :
    Prop
  | free : (∀ i, (c.state.calls i).heldId ≠ some claims.jti) → ¬ Returned c.history claims.jti →
      c.state.store.Unmarked usesRedis claims.jti → TokenStatus usesRedis c claims
  | held (i : ℕ) : (∀ j, (c.state.calls j).heldId = some claims.jti ↔ j = i) →
      ¬ Returned c.history claims.jti → c.state.store.Protects usesRedis c.state.now claims →
      TokenStatus usesRedis c claims
  | used : (∀ i, (c.state.calls i).heldId ≠ some claims.jti) → Returned c.history claims.jti →
      c.state.store.Protects usesRedis c.state.now claims → TokenStatus usesRedis c claims

/-- The tokens of a run: ids are unique, calls and marks are of minted tokens, and each token that
    has not expired has a status. -/
structure TokensKept (usesRedis : Bool) (c : Config ConfirmState ConfirmEvent) : Prop where
  minted_unique : ∀ claims ∈ c.state.minted, ∀ claims' ∈ c.state.minted,
    claims.jti = claims'.jti → claims = claims'
  call_minted : ∀ i claims, (c.state.calls i).claims? = some claims → claims ∈ c.state.minted
  returned_minted : ∀ jti, Returned c.history jti → ∃ claims ∈ c.state.minted, claims.jti = jti
  unmarked : ∀ jti, (∀ claims ∈ c.state.minted, claims.jti ≠ jti) →
    c.state.store.Unmarked usesRedis jti
  status : ∀ claims ∈ c.state.minted, c.state.now.seconds < claims.exp →
    TokenStatus usesRedis c claims

theorem tokensKept_init (now : Instant) :
    TokensKept usesRedis (Config.start (ConfirmState.init now)) where
  minted_unique := by simp [ConfirmState.init]
  call_minted := by simp [ConfirmState.init, ConfirmCall.claims?, ConfirmCall.holds]
  returned_minted := by simp [Returned]
  unmarked := fun jti _ => by
    unfold ReservationStore.Unmarked
    cases usesRedis <;> rfl
  status := by simp [ConfirmState.init]

variable {c c' : Config ConfirmState ConfirmEvent}

/-- A step that neither moves a token nor touches its mark leaves its status. -/
theorem TokenStatus.frame (h : TokenStatus usesRedis c claims)
    (hheld : ∀ j, (c'.state.calls j).heldId = some claims.jti ↔
      (c.state.calls j).heldId = some claims.jti)
    (hreturned : Returned c'.history claims.jti ↔ Returned c.history claims.jti)
    (hprot : c.state.store.Protects usesRedis c.state.now claims →
      c'.state.store.Protects usesRedis c'.state.now claims)
    (hunmarked : c.state.store.Unmarked usesRedis claims.jti →
      c'.state.store.Unmarked usesRedis claims.jti) : TokenStatus usesRedis c' claims := by
  cases h with
  | free hnone hreturned' hmark =>
    exact .free (fun i hi => hnone i ((hheld i).mp hi)) (fun ha => hreturned' (hreturned.mp ha))
      (hunmarked hmark)
  | held i hholder hreturned' hmark =>
    exact .held i (fun j => (hheld j).trans (hholder j)) (fun ha => hreturned' (hreturned.mp ha))
      (hprot hmark)
  | used hnone hreturned' hmark =>
    exact .used (fun i hi => hnone i ((hheld i).mp hi)) (hreturned.mpr hreturned') (hprot hmark)

/-- A step that moves no token keeps the invariant when it keeps what the store holds. -/
theorem TokensKept.frame (hinv : TokensKept usesRedis c)
    (hminted : c'.state.minted = c.state.minted)
    (hcalls : ∀ i claims, (c'.state.calls i).claims? = some claims → claims ∈ c.state.minted)
    (hheld : ∀ j, (c'.state.calls j).heldId = (c.state.calls j).heldId)
    (hreturned : ∀ jti, Returned c'.history jti ↔ Returned c.history jti)
    (hclock : c.state.now.seconds ≤ c'.state.now.seconds)
    (hprot : ∀ claims, c.state.store.Protects usesRedis c.state.now claims →
      c'.state.store.Protects usesRedis c'.state.now claims)
    (hunmarked : ∀ jti, c.state.store.Unmarked usesRedis jti →
      c'.state.store.Unmarked usesRedis jti) : TokensKept usesRedis c' where
  minted_unique := hminted ▸ hinv.minted_unique
  call_minted := hminted ▸ hcalls
  returned_minted := fun jti ha => hminted ▸ hinv.returned_minted jti ((hreturned jti).mp ha)
  unmarked := fun jti hfresh => hunmarked jti (hinv.unmarked jti (hminted ▸ hfresh))
  status := fun claims hmem hlive =>
    (hinv.status claims (hminted ▸ hmem) (hclock.trans_lt hlive)).frame
      (fun j => by rw [hheld j]) (hreturned claims.jti) (hprot claims) (hunmarked claims.jti)

theorem heldId_setCall {s : ConfirmState} {i : ℕ} {call : ConfirmCall} (j : ℕ) :
    ((s.setCall i call).calls j).heldId = if j = i then call.heldId else (s.calls j).heldId := by
  split
  · rename_i hj
    rw [hj, ConfirmState.setCall_self]
  · rename_i hj
    rw [ConfirmState.setCall_ne _ _ hj]

/-- Moving a call to one that holds the same token moves no token. -/
theorem heldId_setCall_same {s : ConfirmState} {i : ℕ} {call : ConfirmCall}
    (h : call.heldId = (s.calls i).heldId) (j : ℕ) :
    ((s.setCall i call).calls j).heldId = (s.calls j).heldId := by
  rw [heldId_setCall]
  split
  · rename_i hj
    rw [h, hj]
  · rfl

/-- Events of which no call returns. -/
theorem returned_append_iff {es h : List ConfirmEvent} (hes : ∀ i claims, .returned i claims ∉ es)
    (jti : String) : Returned (es ++ h) jti ↔ Returned h jti := by
  constructor
  · rintro ⟨i, claims, hmem, hjti⟩
    exact ⟨i, claims, (List.mem_append.mp hmem).resolve_left (hes i claims), hjti⟩
  · rintro ⟨i, claims, hmem, hjti⟩
    exact ⟨i, claims, List.mem_append_right _ hmem, hjti⟩

/-- Moving a call to one without a new token. -/
theorem TokensKept.call_minted_setCall (hinv : TokensKept usesRedis c) {s : ConfirmState} {i j : ℕ}
    {call : ConfirmCall} (hcalls : s.calls = c.state.calls)
    (hcall : ∀ cl, call.claims? = some cl → cl ∈ c.state.minted)
    (h : ((s.setCall i call).calls j).claims? = some claims) : claims ∈ c.state.minted := by
  rcases claims?_setCall h with h | h
  · exact hcall claims h
  · rw [hcalls] at h
    exact hinv.call_minted j claims h

/-! ### What each step does to the tokens -/

/-- A new token is free. -/
theorem TokensKept.mint (hinv : TokensKept usesRedis c)
    (hfresh : ∀ old ∈ c.state.minted, old.jti ≠ claims.jti)
    (hs : c'.state = { c.state with minted := claims :: c.state.minted })
    (hreturned : ∀ jti, Returned c'.history jti ↔ Returned c.history jti) :
    TokensKept usesRedis c' := by
  have hcalls : ∀ i, c'.state.calls i = c.state.calls i := fun i => by rw [hs]
  -- calls, store and history stay as they were, and with them the status of every other token
  have hframe : ∀ cl, TokenStatus usesRedis c cl → TokenStatus usesRedis c' cl := by
    intro cl hstatus
    refine hstatus.frame (fun j => by rw [hcalls j]) (hreturned cl.jti) ?_ ?_
    · rw [hs]
      exact id
    · rw [hs]
      exact id
  constructor
  case minted_unique =>
    rw [hs]
    exact minted_unique_cons hinv.minted_unique hfresh
  case call_minted =>
    intro i cl h
    rw [hcalls] at h
    rw [hs]
    exact List.mem_cons_of_mem _ (hinv.call_minted i cl h)
  case returned_minted =>
    intro jti ha
    obtain ⟨cl, hmem, hjti⟩ := hinv.returned_minted jti ((hreturned jti).mp ha)
    rw [hs]
    exact ⟨cl, List.mem_cons_of_mem _ hmem, hjti⟩
  case unmarked =>
    intro jti hnone
    rw [hs] at hnone ⊢
    exact hinv.unmarked jti fun cl hmem => hnone cl (List.mem_cons_of_mem _ hmem)
  case status =>
    intro cl hmem hlive
    rw [hs] at hmem hlive
    rcases List.mem_cons.mp hmem with rfl | hmem
    · -- nobody holds or has used an id that nobody knew
      refine hframe cl (.free (fun i hi => ?_) (fun ha => ?_) (hinv.unmarked cl.jti hfresh))
      · obtain ⟨held, hheld, hjti⟩ := Option.map_eq_some_iff.mp hi
        exact hfresh held (hinv.call_minted i held (ConfirmCall.claims?_of_holds hheld)) hjti
      · obtain ⟨old, hold, hjti⟩ := hinv.returned_minted cl.jti ha
        exact hfresh old hold hjti
    · exact hframe cl (hinv.status cl hmem hlive)

/-- **A successful reservation** turns its free token into a held one. -/
theorem TokensKept.reserve {i : ℕ} {newPassword : String} {checkedAt : Instant}
    (hinv : TokensKept usesRedis c)
    (hcall : c.state.calls i = .checked claims newPassword checkedAt)
    (hmeasured : measuredAt.seconds ≤ clockAt.seconds)
    (hclock : clockAt.seconds ≤ c.state.now.seconds)
    (hres : c.state.store.reserve usesRedis c.state.now clockAt claims.jti
      (max (claims.exp - measuredAt.whole) 1) = (true, store))
    (hs : c'.state = { c.state with store := store }.setCall i (.reserved claims newPassword))
    (hhist : c'.history = c.history) : TokensKept usesRedis c' := by
  have hmint : claims ∈ c.state.minted := hinv.call_minted i claims (by rw [hcall]; rfl)
  have hheld : ∀ j, (c'.state.calls j).heldId =
      if j = i then some claims.jti else (c.state.calls j).heldId := by
    intro j
    rw [hs, heldId_setCall]
    rfl
  constructor
  case minted_unique =>
    rw [hs]
    exact hinv.minted_unique
  case call_minted =>
    intro j cl h
    rw [hs] at h ⊢
    refine hinv.call_minted_setCall rfl (fun cl' hcl => ?_) h
    exact Option.some.inj hcl ▸ hmint
  case returned_minted =>
    rw [hs, hhist]
    exact hinv.returned_minted
  case unmarked =>
    intro jti hfresh
    rw [hs] at hfresh ⊢
    exact (hinv.unmarked jti hfresh).of_reserve (fun _ heq => hfresh claims hmint heq.symm) hres
  case status =>
    intro cl hmem hlive
    rw [hs] at hmem hlive
    by_cases hjti : cl.jti = claims.jti
    · obtain rfl := hinv.minted_unique cl hmem claims hmint hjti
      have hprotects : c'.state.store.Protects usesRedis c'.state.now cl := by
        rw [hs]
        exact reserve_protects hmeasured hclock hres
      -- only a free token is reserved: the mark of the others would have made `SET NX` fail
      cases hinv.status cl hmem hlive with
      | free hnone hreturned _ =>
        refine .held i (fun j => ?_) (hhist ▸ hreturned) hprotects
        rw [hheld j]
        by_cases hj : j = i
        · simp [hj]
        · simp [hj, hnone j]
      | held j _ _ hmark =>
        exact absurd (reserve_of_protects hclock hmark hlive rfl hres) (by simp)
      | used _ _ hmark => exact absurd (reserve_of_protects hclock hmark hlive rfl hres) (by simp)
    · refine (hinv.status cl hmem hlive).frame (fun j => ?_) (by rw [hhist]) ?_ ?_
      · rw [hheld j]
        by_cases hj : j = i
        · subst hj
          simp [hcall, ConfirmCall.heldId, ConfirmCall.holds, Ne.symm hjti]
        · rw [if_neg hj]
      · rw [hs]
        exact reserve_keeps hclock (fun _ => hjti) hres
      · rw [hs]
        exact fun hmark => hmark.of_reserve (fun _ => hjti) hres

/-- A token that is held has one holder, and is reserved but not used. -/
theorem TokensKept.holder {i : ℕ} (hinv : TokensKept usesRedis c) (hmint : claims ∈ c.state.minted)
    (hlive : c.state.now.seconds < claims.exp)
    (hheld : (c.state.calls i).heldId = some claims.jti) :
    (∀ j, (c.state.calls j).heldId = some claims.jti ↔ j = i) ∧
      ¬ Returned c.history claims.jti ∧ c.state.store.Protects usesRedis c.state.now claims := by
  cases hinv.status claims hmint hlive with
  | free hnone _ _ => exact absurd hheld (hnone i)
  | held j hholder hunreturned hmark =>
    obtain rfl := (hholder i).mp hheld
    exact ⟨hholder, hunreturned, hmark⟩
  | used hnone _ _ => exact absurd hheld (hnone i)

/-- What becomes of the tokens when the holder of one lets go of it. -/
theorem TokensKept.letGo {i : ℕ} {cl : Claims} (hinv : TokensKept usesRedis c)
    (hmint : claims ∈ c.state.minted) (hheldI : (c.state.calls i).heldId = some claims.jti)
    (hheld : ∀ j, (c'.state.calls j).heldId = if j = i then none else (c.state.calls j).heldId)
    (hself : (∀ k, (c'.state.calls k).heldId ≠ some claims.jti) →
      ¬ Returned c.history claims.jti → c.state.store.Protects usesRedis c.state.now claims →
      TokenStatus usesRedis c' claims)
    (hreturned : cl.jti ≠ claims.jti → (Returned c'.history cl.jti ↔ Returned c.history cl.jti))
    (hprot : cl.jti ≠ claims.jti → c.state.store.Protects usesRedis c.state.now cl →
      c'.state.store.Protects usesRedis c'.state.now cl)
    (hunmarked : c.state.store.Unmarked usesRedis cl.jti →
      c'.state.store.Unmarked usesRedis cl.jti)
    (hmem : cl ∈ c.state.minted) (hlive : c.state.now.seconds < cl.exp) :
    TokenStatus usesRedis c' cl := by
  by_cases hjti : cl.jti = claims.jti
  · obtain rfl := hinv.minted_unique cl hmem claims hmint hjti
    obtain ⟨hholder, hunreturned, hmark⟩ := hinv.holder hmint hlive hheldI
    -- call `i` was the only one
    refine hself (fun k hk => ?_) hunreturned hmark
    rw [hheld k] at hk
    split_ifs at hk with hne
    exact hne ((hholder k).mp hk)
  · refine (hinv.status cl hmem hlive).frame (fun j => ?_) (hreturned hjti) (hprot hjti) hunmarked
    rw [hheld j]
    by_cases hj : j = i
    · subst hj
      simp [hheldI, Ne.symm hjti]
    · rw [if_neg hj]

/-- **A call that returns** turns the held token into a used one. -/
theorem TokensKept.returns {i : ℕ} (hinv : TokensKept usesRedis c)
    (hcall : c.state.calls i = .posting claims) (hs : c'.state = c.state.setCall i .confirmed)
    (hhist : c'.history = .returned i claims :: .acknowledged i claims :: c.history) :
    TokensKept usesRedis c' := by
  have hmint : claims ∈ c.state.minted := hinv.call_minted i claims (by rw [hcall]; rfl)
  have hheld : ∀ j, (c'.state.calls j).heldId =
      if j = i then none else (c.state.calls j).heldId := by
    intro j
    rw [hs, heldId_setCall]
    rfl
  have hheldI : (c.state.calls i).heldId = some claims.jti := by rw [hcall]; rfl
  -- two events are added, and only one of them is a return
  have hreturned : ∀ jti, Returned c'.history jti ↔ jti = claims.jti ∨ Returned c.history jti := by
    intro jti
    rw [hhist]
    constructor
    · rintro ⟨j, cl, hmem, hjti⟩
      rcases List.mem_cons.mp hmem with heq | hmem
      · rw [ConfirmEvent.returned.injEq] at heq
        exact Or.inl (by rw [← hjti, heq.2])
      · exact Or.inr ⟨j, cl, (List.mem_cons.mp hmem).resolve_left (by simp), hjti⟩
    · rintro (rfl | ⟨j, cl, hmem, hjti⟩)
      · exact ⟨i, claims, List.mem_cons_self, rfl⟩
      · exact ⟨j, cl, List.mem_cons_of_mem _ (List.mem_cons_of_mem _ hmem), hjti⟩
  constructor
  case minted_unique =>
    rw [hs]
    exact hinv.minted_unique
  case call_minted =>
    intro j cl h
    rw [hs] at h ⊢
    exact hinv.call_minted_setCall rfl (fun cl' hcl => absurd hcl (by
      simp [ConfirmCall.claims?, ConfirmCall.holds])) h
  case returned_minted =>
    intro jti ha
    rw [hs]
    rcases (hreturned jti).mp ha with rfl | ha
    · exact ⟨claims, hmint, rfl⟩
    · exact hinv.returned_minted jti ha
  case unmarked =>
    intro jti hfresh
    rw [hs] at hfresh ⊢
    exact hinv.unmarked jti hfresh
  case status =>
    intro cl hmem hlive
    rw [hs] at hmem hlive
    exact hinv.letGo hmint hheldI hheld
      (fun hnone _ hmark =>
        .used hnone ((hreturned claims.jti).mpr (Or.inl rfl)) (by rw [hs]; exact hmark))
      (fun hjti => (hreturned cl.jti).trans (or_iff_right hjti)) (fun _ => by rw [hs]; exact id)
      (by rw [hs]; exact id) hmem hlive

/-- **A release** turns the held token into a free one. -/
theorem TokensKept.release {i : ℕ} {error : Option ApiError} (hinv : TokensKept usesRedis c)
    (hcall : c.state.calls i = .failed claims error)
    (hs : c'.state =
      { c.state with store := c.state.store.release usesRedis claims.jti }.setCall i
        (.raised error))
    (hhist : c'.history = c.history) : TokensKept usesRedis c' := by
  have hmint : claims ∈ c.state.minted := hinv.call_minted i claims (by rw [hcall]; rfl)
  have hheld : ∀ j, (c'.state.calls j).heldId =
      if j = i then none else (c.state.calls j).heldId := by
    intro j
    rw [hs, heldId_setCall]
    rfl
  have hheldI : (c.state.calls i).heldId = some claims.jti := by rw [hcall]; rfl
  constructor
  case minted_unique =>
    rw [hs]
    exact hinv.minted_unique
  case call_minted =>
    intro j cl h
    rw [hs] at h ⊢
    exact hinv.call_minted_setCall rfl (fun cl' hcl => absurd hcl (by
      simp [ConfirmCall.claims?, ConfirmCall.holds])) h
  case returned_minted =>
    rw [hs, hhist]
    exact hinv.returned_minted
  case unmarked =>
    intro jti hfresh
    rw [hs] at hfresh ⊢
    exact (hinv.unmarked jti hfresh).release
  case status =>
    intro cl hmem hlive
    rw [hs] at hmem hlive
    exact hinv.letGo hmint hheldI hheld
      (fun hnone hunreturned _ =>
        .free hnone (hhist ▸ hunreturned) (by rw [hs]; exact unmarked_release))
      (fun _ => by rw [hhist]) (fun hjti => by rw [hs]; exact release_keeps hjti)
      (by rw [hs]; exact fun hmark => hmark.release) hmem hlive

/-- **Step lemma.** Every step keeps every token's status. -/
theorem tokensKept_next {l : ConfirmLabel} (hinv : TokensKept usesRedis c)
    (hnext : (confirmSystem rt usesRedis tokenTtlSeconds).next c l = some c') :
    TokensKept usesRedis c' := by
  obtain ⟨es, hstep, hhist⟩ := (confirmSystem rt usesRedis tokenTtlSeconds).next_eq_some.mp hnext
  change confirmStep rt usesRedis tokenTtlSeconds c.state l = some (c'.state, es) at hstep
  have hquiet : (∀ i claims, .returned i claims ∉ es) →
      ∀ jti, Returned c'.history jti ↔ Returned c.history jti := by
    intro hes jti
    rw [hhist]
    exact returned_append_iff hes jti
  -- a call that moves without moving a token
  have hmove : ∀ (i : ℕ) (call : ConfirmCall), c'.state = c.state.setCall i call →
      call.heldId = (c.state.calls i).heldId →
      (∀ cl, call.claims? = some cl → cl ∈ c.state.minted) →
      (∀ i claims, .returned i claims ∉ es) → TokensKept usesRedis c' := by
    intro i call hs hheld hclaims hes
    refine hinv.frame (by rw [hs]; rfl) (fun j cl h => ?_) (fun j => ?_) (hquiet hes)
      (by rw [hs]; exact le_rfl) (by rw [hs]; exact fun _ => id) (by rw [hs]; exact fun _ => id)
    · rw [hs] at h
      exact hinv.call_minted_setCall rfl hclaims h
    · rw [hs]
      exact heldId_setCall_same hheld j
  cases l with
  | tick t =>
    obtain ⟨hle, hs, rfl⟩ := confirmStep_tick hstep
    refine hinv.frame (by rw [hs]) (fun j cl h => ?_) (fun j => by rw [hs]) (hquiet (by simp))
      (by rw [hs]; exact hle) (fun cl hprot => ?_) (by rw [hs]; exact fun _ => id)
    · rw [hs] at h
      exact hinv.call_minted j cl h
    · rw [hs]
      exact hprot.later hle
  | mint jti email accountType databaseId =>
    obtain ⟨claims, -, hfresh, hs, rfl⟩ := confirmStep_mint hstep
    exact hinv.mint hfresh hs (hquiet (by simp))
  | submit i token newPassword =>
    obtain ⟨hidle, rfl, ⟨e, hs⟩ | ⟨claims, -, hmem, hs⟩⟩ := confirmStep_submit hstep
    · exact hmove i _ hs (by rw [hidle]; rfl) (fun cl hcl => absurd hcl (by
        simp [ConfirmCall.claims?, ConfirmCall.holds])) (by simp)
    · refine hmove i _ hs (by rw [hidle]; rfl) (fun cl hcl => ?_) (by simp)
      exact Option.some.inj hcl ▸ hmem
  | reserve i measuredAt clockAt =>
    obtain ⟨claims, newPassword, checkedAt, hcall, hmeasured, hclock, rfl, ok, store, hres, hs⟩ :=
      confirmStep_reserve hstep
    cases ok with
    | true => exact hinv.reserve hcall hmeasured hclock hres hs hhist
    | false =>
      refine hinv.frame (by rw [hs]; rfl) (fun j cl h => ?_) (fun j => ?_) (hquiet (by simp))
        (by rw [hs]; exact le_rfl) (fun cl hprot => ?_) (fun jti hmark => ?_)
      · rw [hs] at h
        exact hinv.call_minted_setCall rfl (fun cl' hcl => absurd hcl (by
          simp [ConfirmCall.claims?, ConfirmCall.holds])) h
      · rw [hs]
        refine heldId_setCall_same ?_ j
        show none = (c.state.calls i).heldId
        rw [hcall]
        rfl
      · rw [hs]
        exact reserve_keeps hclock (by simp) hres hprot
      · rw [hs]
        exact hmark.of_reserve (by simp) hres
  | post i =>
    obtain ⟨claims, newPassword, hcall, hs, rfl⟩ := confirmStep_post hstep
    refine hmove i _ hs (by rw [hcall]; rfl) (fun cl hcl => ?_) (by simp)
    exact hinv.call_minted i cl (by rw [hcall]; exact hcl)
  | respond i outcome =>
    obtain ⟨claims, answered, hcall, rfl, ⟨rfl, hs, rfl⟩ | ⟨error, -, hs, rfl⟩⟩ :=
      confirmStep_respond hstep
    · exact hinv.returns hcall hs hhist
    · -- a 200 may have come first, but the call goes on to release
      refine hmove i _ hs (by rw [hcall]; rfl) (fun cl hcl => ?_) (by split_ifs <;> simp)
      exact hinv.call_minted i cl (by rw [hcall]; exact hcl)
  | release i =>
    obtain ⟨claims, error, hcall, hs, rfl⟩ := confirmStep_release hstep
    exact hinv.release hcall hs hhist

/-! ### The steps of one call -/

/-- The call a step belongs to. -/
def ConfirmLabel.call? : ConfirmLabel → Option ℕ
  | .tick _ => none
  | .mint _ _ _ _ => none
  | .submit i _ _ => some i
  | .reserve i _ _ => some i
  | .post i => some i
  | .respond i _ => some i
  | .release i => some i

/-- The call has returned or raised. -/
def ConfirmCall.isFinished : ConfirmCall → Bool
  | .confirmed => true
  | .raised _ => true
  | _ => false

variable {l : ConfirmLabel}

/-- A step moves its own call only. -/
theorem calls_of_next {j : ℕ} (hj : l.call? ≠ some j)
    (hnext : (confirmSystem rt usesRedis tokenTtlSeconds).next c l = some c') :
    c'.state.calls j = c.state.calls j := by
  obtain ⟨es, hstep, -⟩ := (confirmSystem rt usesRedis tokenTtlSeconds).next_eq_some.mp hnext
  change confirmStep rt usesRedis tokenTtlSeconds c.state l = some (c'.state, es) at hstep
  have hne : ∀ i, l.call? = some i → j ≠ i := fun i hi heq => hj (heq ▸ hi)
  cases l with
  | tick t =>
    obtain ⟨-, hs, -⟩ := confirmStep_tick hstep
    rw [hs]
  | mint jti email accountType databaseId =>
    obtain ⟨claims, -, -, hs, -⟩ := confirmStep_mint hstep
    rw [hs]
  | submit i token newPassword =>
    obtain ⟨-, -, ⟨e, hs⟩ | ⟨claims, -, -, hs⟩⟩ := confirmStep_submit hstep <;>
      rw [hs, ConfirmState.setCall_ne _ _ (hne i rfl)]
  | reserve i measuredAt clockAt =>
    obtain ⟨claims, newPassword, checkedAt, -, -, -, -, ok, store, -, hs⟩ :=
      confirmStep_reserve hstep
    rw [hs, ConfirmState.setCall_ne _ _ (hne i rfl)]
  | post i =>
    obtain ⟨claims, newPassword, -, hs, -⟩ := confirmStep_post hstep
    rw [hs, ConfirmState.setCall_ne _ _ (hne i rfl)]
  | respond i outcome =>
    obtain ⟨claims, answered, -, -, ⟨-, hs, -⟩ | ⟨error, -, hs, -⟩⟩ := confirmStep_respond hstep <;>
      rw [hs, ConfirmState.setCall_ne _ _ (hne i rfl)]
  | release i =>
    obtain ⟨claims, error, -, hs, -⟩ := confirmStep_release hstep
    rw [hs, ConfirmState.setCall_ne _ _ (hne i rfl)]

/-- What a step does to its own call. -/
inductive CallStep : ConfirmLabel → ConfirmCall → ConfirmCall → Prop
  | refused (i : ℕ) (token : ResetToken) (newPassword : String) (error : Option ApiError) :
      CallStep (.submit i token newPassword) .idle (.raised error)
  | checked (i : ℕ) (token : ResetToken) (claims : Claims) (newPassword : String)
      (checkedAt : Instant) :
      CallStep (.submit i token newPassword) .idle (.checked claims newPassword checkedAt)
  | reserved (i : ℕ) (measuredAt clockAt : Instant) (claims : Claims) (newPassword : String)
      (checkedAt : Instant) :
      CallStep (.reserve i measuredAt clockAt) (.checked claims newPassword checkedAt)
        (.reserved claims newPassword)
  | rejected (i : ℕ) (measuredAt clockAt : Instant) (claims : Claims) (newPassword : String)
      (checkedAt : Instant) (error : Option ApiError) :
      CallStep (.reserve i measuredAt clockAt) (.checked claims newPassword checkedAt)
        (.raised error)
  | posted (i : ℕ) (claims : Claims) (newPassword : String) :
      CallStep (.post i) (.reserved claims newPassword) (.posting claims)
  | returned (i : ℕ) (outcome : SpringOutcome) (claims : Claims) :
      CallStep (.respond i outcome) (.posting claims) .confirmed
  | failed (i : ℕ) (outcome : SpringOutcome) (claims : Claims) (error : Option ApiError) :
      CallStep (.respond i outcome) (.posting claims) (.failed claims error)
  | released (i : ℕ) (claims : Claims) (error : Option ApiError) :
      CallStep (.release i) (.failed claims error) (.raised error)

theorem callStep_of_next {j : ℕ} (hj : l.call? = some j)
    (hnext : (confirmSystem rt usesRedis tokenTtlSeconds).next c l = some c') :
    CallStep l (c.state.calls j) (c'.state.calls j) := by
  obtain ⟨es, hstep, -⟩ := (confirmSystem rt usesRedis tokenTtlSeconds).next_eq_some.mp hnext
  change confirmStep rt usesRedis tokenTtlSeconds c.state l = some (c'.state, es) at hstep
  cases l with
  | tick t => exact absurd hj (by simp [ConfirmLabel.call?])
  | mint jti email accountType databaseId => exact absurd hj (by simp [ConfirmLabel.call?])
  | submit i token newPassword =>
    obtain rfl := Option.some.inj hj
    -- the check refuses the submission, or lets it on to the reservation
    obtain ⟨hidle, -, ⟨e, hs⟩ | ⟨claims, -, -, hs⟩⟩ := confirmStep_submit hstep <;>
      rw [hidle, hs, ConfirmState.setCall_self]
    · exact .refused i token newPassword e
    · exact .checked i token claims newPassword c.state.now
  | reserve i measuredAt clockAt =>
    obtain rfl := Option.some.inj hj
    obtain ⟨claims, newPassword, checkedAt, hcall, -, -, -, ok, store, -, hs⟩ :=
      confirmStep_reserve hstep
    rw [hcall, hs, ConfirmState.setCall_self]
    -- the reservation was there, or was made
    cases ok with
    | true => exact .reserved i measuredAt clockAt claims newPassword checkedAt
    | false => exact .rejected i measuredAt clockAt claims newPassword checkedAt _
  | post i =>
    obtain rfl := Option.some.inj hj
    obtain ⟨claims, newPassword, hcall, hs, -⟩ := confirmStep_post hstep
    rw [hcall, hs, ConfirmState.setCall_self]
    exact .posted i claims newPassword
  | respond i outcome =>
    obtain rfl := Option.some.inj hj
    obtain ⟨claims, answered, hcall, -, ⟨-, hs, -⟩ | ⟨error, -, hs, -⟩⟩ :=
      confirmStep_respond hstep <;> rw [hcall, hs, ConfirmState.setCall_self]
    · exact .returned i outcome claims
    · exact .failed i outcome claims error
  | release i =>
    obtain rfl := Option.some.inj hj
    obtain ⟨claims, error, hcall, hs, -⟩ := confirmStep_release hstep
    rw [hcall, hs, ConfirmState.setCall_self]
    exact .released i claims error

/-- A call that has finished takes no step. -/
theorem call?_of_finished {j : ℕ} (hj : (c.state.calls j).isFinished = true)
    (hnext : (confirmSystem rt usesRedis tokenTtlSeconds).next c l = some c') :
    l.call? ≠ some j := by
  intro hcall
  have hmoved := callStep_of_next hcall hnext
  generalize c.state.calls j = before at hj hmoved
  generalize c'.state.calls j = after at hmoved
  cases hmoved <;> exact absurd hj (by simp [ConfirmCall.isFinished])

/-- What a call ended with is final. -/
theorem finished_final {j : ℕ} {ls : List ConfirmLabel} (hj : (c.state.calls j).isFinished = true)
    (hrun : (confirmSystem rt usesRedis tokenTtlSeconds).run c ls = some c') :
    c'.state.calls j = c.state.calls j :=
  (confirmSystem rt usesRedis tokenTtlSeconds).invariant_run
    (I := fun d => d.state.calls j = c.state.calls j)
    (fun _ _ _ hd hnext => (calls_of_next (call?_of_finished (hd ▸ hj) hnext) hnext).trans hd)
    rfl hrun

/-- A token comes to be held when a call reserves it. -/
theorem heldId_of_next {j : ℕ} (hheld : (c'.state.calls j).heldId = some jti)
    (hnext : (confirmSystem rt usesRedis tokenTtlSeconds).next c l = some c') :
    (c.state.calls j).heldId = some jti ∨
      ∃ measuredAt clockAt claims, l = .reserve j measuredAt clockAt ∧
        (c.state.calls j).toReserve = some claims ∧ claims.jti = jti := by
  by_cases hj : l.call? = some j
  · have hmoved := callStep_of_next hj hnext
    generalize c.state.calls j = before at hmoved ⊢
    generalize c'.state.calls j = after at hheld hmoved
    -- a call holds its token from the reservation until it returns or releases it
    cases hmoved with
    | reserved i measuredAt clockAt claims newPassword checkedAt =>
      obtain rfl := Option.some.inj hj
      exact Or.inr ⟨measuredAt, clockAt, claims, rfl, rfl, Option.some.inj hheld⟩
    | posted i claims newPassword => exact Or.inl hheld
    | failed i outcome claims error => exact Or.inl hheld
    | _ => exact absurd hheld (by simp [ConfirmCall.heldId, ConfirmCall.holds])
  · rw [calls_of_next hj hnext] at hheld
    exact Or.inl hheld

/-- A token comes to be used when a call that holds it returns. -/
theorem returned_of_next (hreturned : Returned c'.history jti)
    (hnext : (confirmSystem rt usesRedis tokenTtlSeconds).next c l = some c') :
    Returned c.history jti ∨
      ∃ j outcome, l = .respond j outcome ∧ (c.state.calls j).heldId = some jti := by
  obtain ⟨es, hstep, hhist⟩ := (confirmSystem rt usesRedis tokenTtlSeconds).next_eq_some.mp hnext
  change confirmStep rt usesRedis tokenTtlSeconds c.state l = some (c'.state, es) at hstep
  obtain ⟨i, claims, hmem, hjti⟩ := hreturned
  rw [hhist] at hmem
  -- the return is one of this step's events, or an old one
  rcases List.mem_append.mp hmem with hmem | hmem
  · right
    cases l with
    | respond j outcome =>
      obtain ⟨cl, answered, hcall, rfl, ⟨rfl, -, rfl⟩ | ⟨error, -, -, rfl⟩⟩ :=
        confirmStep_respond hstep
      · rcases List.mem_cons.mp hmem with heq | hmem
        · rw [ConfirmEvent.returned.injEq] at heq
          obtain ⟨-, rfl⟩ := heq
          exact ⟨j, _, rfl, by rw [hcall, ← hjti]; rfl⟩
        · exact absurd hmem (by simp [SpringOutcome.acknowledges])
      · exact absurd hmem (by split_ifs <;> simp)
    | tick t =>
      obtain ⟨-, -, rfl⟩ := confirmStep_tick hstep
      exact absurd hmem (by simp)
    | mint jti email accountType databaseId =>
      obtain ⟨_, -, -, -, rfl⟩ := confirmStep_mint hstep
      exact absurd hmem (by simp)
    | submit j token newPassword =>
      obtain ⟨-, rfl, -⟩ := confirmStep_submit hstep
      exact absurd hmem (by simp)
    | reserve j measuredAt clockAt =>
      obtain ⟨_, _, _, -, -, -, rfl, -⟩ := confirmStep_reserve hstep
      exact absurd hmem (by simp)
    | post j =>
      obtain ⟨_, _, -, -, rfl⟩ := confirmStep_post hstep
      exact absurd hmem (by simp)
    | release j =>
      obtain ⟨_, _, -, -, rfl⟩ := confirmStep_release hstep
      exact absurd hmem (by simp)
  · exact Or.inl ⟨i, claims, hmem, hjti⟩

/-- Minted tokens stay minted, and time does not go back. -/
theorem minted_of_next (hnext : (confirmSystem rt usesRedis tokenTtlSeconds).next c l = some c') :
    c.state.minted ⊆ c'.state.minted ∧ c.state.now.seconds ≤ c'.state.now.seconds := by
  obtain ⟨es, hstep, -⟩ := (confirmSystem rt usesRedis tokenTtlSeconds).next_eq_some.mp hnext
  change confirmStep rt usesRedis tokenTtlSeconds c.state l = some (c'.state, es) at hstep
  cases l with
  | tick t =>
    obtain ⟨hle, hs, -⟩ := confirmStep_tick hstep
    rw [hs]
    exact ⟨List.Subset.refl _, hle⟩
  | mint jti email accountType databaseId =>
    obtain ⟨claims, -, -, hs, -⟩ := confirmStep_mint hstep
    rw [hs]
    exact ⟨List.subset_cons_self _ _, le_rfl⟩
  | submit i token newPassword =>
    obtain ⟨-, -, ⟨e, hs⟩ | ⟨claims, -, -, hs⟩⟩ := confirmStep_submit hstep <;> rw [hs] <;>
      exact ⟨List.Subset.refl _, le_rfl⟩
  | reserve i measuredAt clockAt =>
    obtain ⟨_, _, _, -, -, -, -, ok, store, -, hs⟩ := confirmStep_reserve hstep
    rw [hs]
    exact ⟨List.Subset.refl _, le_rfl⟩
  | post i =>
    obtain ⟨_, _, -, hs, -⟩ := confirmStep_post hstep
    rw [hs]
    exact ⟨List.Subset.refl _, le_rfl⟩
  | respond i outcome =>
    obtain ⟨_, _, -, -, ⟨-, hs, -⟩ | ⟨error, -, hs, -⟩⟩ := confirmStep_respond hstep <;> rw [hs] <;>
      exact ⟨List.Subset.refl _, le_rfl⟩
  | release i =>
    obtain ⟨_, _, -, hs, -⟩ := confirmStep_release hstep
    rw [hs]
    exact ⟨List.Subset.refl _, le_rfl⟩

/-! ### How a call leaves its token -/

/-- Once call `i` has finished, no call comes to reserve the token. -/
def NoRival (i : ℕ) (jti : String) (d : Config ConfirmState ConfirmEvent) : ConfirmLabel → Prop
  | .reserve j _ _ => (d.state.calls i).isFinished = true →
      ∀ claims ∈ (d.state.calls j).toReserve, claims.jti ≠ jti
  | _ => True

/-- After an update that failed: the call still holds its token, or it has released it and nobody
    holds it. -/
def LeavesFree (i : ℕ) (jti : String) (d : Config ConfirmState ConfirmEvent) : Prop :=
  (∃ claims error, d.state.calls i = .failed claims error ∧ claims.jti = jti) ∨
    (d.state.calls i).isFinished = true ∧ (∀ j, (d.state.calls j).heldId ≠ some jti) ∧
      ¬ Returned d.history jti

/-- **Step lemma for a failed update.** -/
theorem leavesFree_next {i : ℕ} (hinv : TokensKept usesRedis c) (hmint : claims ∈ c.state.minted)
    (hlive : c.state.now.seconds < claims.exp) (hfree : LeavesFree i claims.jti c)
    (hrival : NoRival i claims.jti c l)
    (hnext : (confirmSystem rt usesRedis tokenTtlSeconds).next c l = some c') :
    LeavesFree i claims.jti c' := by
  rcases hfree with ⟨cl, error, hcall, hjti⟩ | ⟨hfinished, hnone, hreturned⟩
  · by_cases hl : l.call? = some i
    · -- the release
      right
      have hmoved := callStep_of_next hl hnext
      have hheldI : (c.state.calls i).heldId = some claims.jti := by rw [hcall, ← hjti]; rfl
      obtain ⟨hdone, hnothing, k, hrelease⟩ : (c'.state.calls i).isFinished = true ∧
          (c'.state.calls i).heldId = none ∧ ∃ k, l = .release k := by
        rw [hcall] at hmoved
        generalize c'.state.calls i = after at hmoved
        cases hmoved
        exact ⟨rfl, rfl, _, rfl⟩
      -- the call was the only holder, and no call had returned with the token
      obtain ⟨hunique, hunreturned, -⟩ := hinv.holder hmint hlive hheldI
      refine ⟨hdone, fun j hj => ?_, fun ha => ?_⟩
      · rcases heldId_of_next hj hnext with hbefore | ⟨_, _, _, heq, -⟩
        · obtain rfl := (hunique j).mp hbefore
          exact absurd (hnothing.symm.trans hj) (by simp)
        · exact absurd (hrelease.symm.trans heq) (by simp)
      · rcases returned_of_next ha hnext with hbefore | ⟨j, outcome, heq, -⟩
        · exact hunreturned hbefore
        · exact absurd (hrelease.symm.trans heq) (by simp)
    · exact Or.inl ⟨cl, error, (calls_of_next hl hnext).trans hcall, hjti⟩
  · -- the call has finished: its token comes to be held by a rival only, and used by a holder only
    right
    have hsame := calls_of_next (call?_of_finished hfinished hnext) hnext
    refine ⟨hsame ▸ hfinished, fun j hj => ?_, fun ha => ?_⟩
    · rcases heldId_of_next hj hnext with hbefore | ⟨m, k, cl, rfl, htoken, hjti⟩
      · exact hnone j hbefore
      · exact hrival hfinished cl htoken hjti
    · rcases returned_of_next ha hnext with hbefore | ⟨j, _, -, hj⟩
      · exact hreturned hbefore
      · exact hnone j hj

/-- The token after an answer: used when the call returned, free when it raised and has
    finished. -/
theorem answered_run {i : ℕ} {outcome : SpringOutcome} {ls : List ConfirmLabel}
    {c₁ : Config ConfirmState ConfirmEvent} (hinv : TokensKept usesRedis c)
    (hposting : c.state.calls i = .posting claims)
    (hrespond : (confirmSystem rt usesRedis tokenTtlSeconds).next c (.respond i outcome) = some c₁)
    (hrival : (confirmSystem rt usesRedis tokenTtlSeconds).Meets (NoRival i claims.jti) c₁ ls)
    (hrun : (confirmSystem rt usesRedis tokenTtlSeconds).run c₁ ls = some c')
    (hlive : c'.state.now.seconds < claims.exp) :
    TokensKept usesRedis c' ∧ claims ∈ c'.state.minted ∧
      if outcome = .status 200 then Returned c'.history claims.jti
      else LeavesFree i claims.jti c' := by
  have hmint : claims ∈ c.state.minted := hinv.call_minted i claims (by rw [hposting]; rfl)
  have hinv₁ := tokensKept_next hinv hrespond
  have hmint₁ := (minted_of_next hrespond).1 hmint
  obtain ⟨es, hstep, hhist⟩ := (confirmSystem rt usesRedis tokenTtlSeconds).next_eq_some.mp hrespond
  have hanswer : confirmStep rt usesRedis tokenTtlSeconds c.state (.respond i outcome) =
      some (c₁.state, es) := hstep
  simp only [confirmStep, hposting] at hanswer
  have hkept : TokensKept usesRedis c' ∧ claims ∈ c'.state.minted :=
    (confirmSystem rt usesRedis tokenTtlSeconds).invariant_run
      (I := fun d => TokensKept usesRedis d ∧ claims ∈ d.state.minted)
      (fun _ _ _ hd hnext => ⟨tokensKept_next hd.1 hnext, (minted_of_next hnext).1 hd.2⟩)
      ⟨hinv₁, hmint₁⟩ hrun
  refine ⟨hkept.1, hkept.2, ?_⟩
  split_ifs with houtcome
  · -- that the call returned is in the history, and stays there
    rw [SpringOutcome.failure_eq_none.mpr houtcome] at hanswer
    obtain ⟨-, rfl⟩ := Prod.mk.inj (Option.some.inj hanswer)
    obtain ⟨after, hafter⟩ :=
      (confirmSystem rt usesRedis tokenTtlSeconds).history_suffix_of_run hrun
    exact ⟨i, claims, by rw [← hafter, hhist]; simp, rfl⟩
  · have hfailed : ∃ error, c₁.state.calls i = .failed claims error := by
      cases hfailure : outcome.failure with
      | none => exact absurd (SpringOutcome.failure_eq_none.mp hfailure) houtcome
      | some error =>
        rw [hfailure] at hanswer
        obtain ⟨hs, -⟩ := Prod.mk.inj (Option.some.inj hanswer)
        exact ⟨error, by rw [← hs, ConfirmState.setCall_self]⟩
    obtain ⟨error, hfailed⟩ := hfailed
    -- the token may expire on the way, so what is kept is kept while it lives
    have hend := (confirmSystem rt usesRedis tokenTtlSeconds).invariant_run_of_meets
      (I := fun d => TokensKept usesRedis d ∧ claims ∈ d.state.minted ∧
        (d.state.now.seconds < claims.exp → LeavesFree i claims.jti d))
      (fun d l d' hd hcond hnext => by
        obtain ⟨hsub, hclock⟩ := minted_of_next hnext
        exact ⟨tokensKept_next hd.1 hnext, hsub hd.2.1, fun hlive' =>
          leavesFree_next hd.1 hd.2.1 (hclock.trans_lt hlive')
            (hd.2.2 (hclock.trans_lt hlive')) hcond
            hnext⟩)
      ⟨hinv₁, hmint₁, fun _ => Or.inl ⟨claims, error, hfailed, rfl⟩⟩ hrival hrun
    exact hend.2.2 hlive

/-- A later call with a free or used token reserves it, or is rejected. -/
theorem next_reserve_checked {j : ℕ} {newPassword : String} {checkedAt : Instant} {m k : Instant}
    (hchecked : c.state.calls j = .checked claims newPassword checkedAt)
    (hnext : (confirmSystem rt usesRedis tokenTtlSeconds).next c (.reserve j m k) = some c')
    (hlive : c.state.now.seconds < claims.exp) :
    (c.state.store.Unmarked usesRedis claims.jti →
      c'.state.calls j = .reserved claims newPassword) ∧
    (c.state.store.Protects usesRedis c.state.now claims →
      ∃ error, c'.state.calls j = .raised error) := by
  obtain ⟨es, hstep, -⟩ := (confirmSystem rt usesRedis tokenTtlSeconds).next_eq_some.mp hnext
  change confirmStep rt usesRedis tokenTtlSeconds c.state (.reserve j m k) = some (c'.state, es)
    at hstep
  obtain ⟨cl, pw, t, hcall, -, hclock, -, ok, store, hres, hs⟩ := confirmStep_reserve hstep
  rw [hchecked] at hcall
  obtain ⟨rfl, rfl, rfl⟩ := ConfirmCall.checked.inj hcall
  rw [hs, ConfirmState.setCall_self]
  constructor
  · intro hmark
    rw [hmark.reserve hres]
    rfl
  · intro hmark
    rw [reserve_of_protects hclock hmark hlive rfl hres]
    exact ⟨_, rfl⟩

/-- A step changes no reservation but that of its own call's token. -/
theorem keepsReservation_next
    (hnext : (confirmSystem rt usesRedis tokenTtlSeconds).next c l = some c')
    (hother : ∀ i, l.call? = some i → ∀ cl, (c.state.calls i).claims? = some cl → cl.jti ≠ jti) :
    c.state.store.KeepsReservation usesRedis jti c.state.now c'.state.store := by
  obtain ⟨es, hstep, -⟩ := (confirmSystem rt usesRedis tokenTtlSeconds).next_eq_some.mp hnext
  change confirmStep rt usesRedis tokenTtlSeconds c.state l = some (c'.state, es) at hstep
  -- a step that leaves the store leaves every reservation
  have hsame : c'.state.store = c.state.store →
      c.state.store.KeepsReservation usesRedis jti c.state.now c'.state.store :=
    fun hs _ _ => by rw [hs]
  cases l with
  | tick t =>
    obtain ⟨-, hs, -⟩ := confirmStep_tick hstep
    exact hsame (by rw [hs])
  | mint jti email accountType databaseId =>
    obtain ⟨_, -, -, hs, -⟩ := confirmStep_mint hstep
    exact hsame (by rw [hs])
  | submit i token newPassword =>
    obtain ⟨-, -, ⟨e, hs⟩ | ⟨_, -, -, hs⟩⟩ := confirmStep_submit hstep <;>
      exact hsame (by rw [hs]; rfl)
  | reserve i measuredAt clockAt =>
    obtain ⟨cl, _, _, hcall, -, hclock, -, ok, store, hres, hs⟩ := confirmStep_reserve hstep
    rw [hs]
    exact keepsReservation_reserve hclock
      (fun _ => (hother i rfl cl (by rw [hcall]; rfl)).symm) hres
  | post i =>
    obtain ⟨_, _, -, hs, -⟩ := confirmStep_post hstep
    exact hsame (by rw [hs]; rfl)
  | respond i outcome =>
    obtain ⟨_, _, -, -, ⟨-, hs, -⟩ | ⟨error, -, hs, -⟩⟩ := confirmStep_respond hstep <;>
      exact hsame (by rw [hs]; rfl)
  | release i =>
    obtain ⟨cl, _, hcall, hs, -⟩ := confirmStep_release hstep
    rw [hs]
    exact keepsReservation_release (hother i rfl cl (by rw [hcall]; rfl)).symm

/-- A rejected call leaves every reservation. -/
theorem keepsReservation_rejected {j : ℕ} {m k : Instant} {error : Option ApiError}
    (hnext : (confirmSystem rt usesRedis tokenTtlSeconds).next c (.reserve j m k) = some c')
    (hraised : c'.state.calls j = .raised error) :
    c.state.store.KeepsReservation usesRedis jti c.state.now c'.state.store := by
  obtain ⟨es, hstep, -⟩ := (confirmSystem rt usesRedis tokenTtlSeconds).next_eq_some.mp hnext
  change confirmStep rt usesRedis tokenTtlSeconds c.state (.reserve j m k) = some (c'.state, es)
    at hstep
  obtain ⟨cl, _, _, -, -, hclock, -, ok, store, hres, hs⟩ := confirmStep_reserve hstep
  have hok : ok = false := by
    rw [hs, ConfirmState.setCall_self] at hraised
    cases ok with
    | true => exact absurd hraised (by simp)
    | false => rfl
  rw [hs]
  exact keepsReservation_reserve hclock (fun h => absurd (hok.symm.trans h) (by simp)) hres

/-! ### Whole runs -/

/-- Call `i`, whose `POST` is in flight in `c`, is answered with `outcome` and has finished in `c'`,
    before its token expires and with no other call coming for it. -/
structure Ended (rt : Runtime) (usesRedis : Bool) (tokenTtlSeconds : ℕ)
    (c : Config ConfirmState ConfirmEvent) (i : ℕ) (claims : Claims) (outcome : SpringOutcome)
    (c' : Config ConfirmState ConfirmEvent) : Prop where
  posting : c.state.calls i = .posting claims
  run : ∃ c₁ ls, (confirmSystem rt usesRedis tokenTtlSeconds).next c (.respond i outcome) =
      some c₁ ∧ (confirmSystem rt usesRedis tokenTtlSeconds).Meets (NoRival i claims.jti) c₁ ls ∧
    (confirmSystem rt usesRedis tokenTtlSeconds).run c₁ ls = some c'
  finished : (c'.state.calls i).isFinished = true
  live : c'.state.now.seconds < claims.exp

/-- The token as its call has left it: marked if the call returned, and free if it raised. -/
theorem Ended.mark {i : ℕ} {outcome : SpringOutcome} (hinv : TokensKept usesRedis c)
    (h : Ended rt usesRedis tokenTtlSeconds c i claims outcome c') :
    if outcome = .status 200 then c'.state.store.Protects usesRedis c'.state.now claims
    else c'.state.store.Unmarked usesRedis claims.jti := by
  obtain ⟨c₁, ls, hrespond, hrival, hrun⟩ := h.run
  obtain ⟨hinv', hmint, hend⟩ := answered_run hinv h.posting hrespond hrival hrun h.live
  split_ifs with houtcome
  · rw [if_pos houtcome] at hend
    cases hinv'.status claims hmint h.live with
    | free _ hunreturned _ => exact absurd hend hunreturned
    | held _ _ hunreturned _ => exact absurd hend hunreturned
    | used _ _ hmark => exact hmark
  · rw [if_neg houtcome] at hend
    obtain ⟨cl, error, hfailed, -⟩ | ⟨-, hnone, hunreturned⟩ := hend
    · have hfinished := h.finished
      rw [hfailed] at hfinished
      exact absurd hfinished (by simp [ConfirmCall.isFinished])
    · cases hinv'.status claims hmint h.live with
      | free _ _ hmark => exact hmark
      | held j hholder _ _ => exact absurd ((hholder j).mpr rfl) (hnone j)
      | used _ hreturned _ => exact absurd hreturned hunreturned

/-- The next call with the token, after its reservation step. -/
def RetriedAs (rt : Runtime) (usesRedis : Bool) (tokenTtlSeconds : ℕ) (updated : Bool) (j : ℕ)
    (claims : Claims) (newPassword : String) (c : Config ConfirmState ConfirmEvent) : Prop :=
  if updated = true then ∃ error, c.state.calls j = .raised error
  else c.state.calls j = .reserved claims newPassword ∧
    ∃ c', (confirmSystem rt usesRedis tokenTtlSeconds).next c (.post j) = some c' ∧
      c'.history = .posted j claims ⟨claims.accountType, claims.databaseId, newPassword⟩ ::
        c.history

/-- How the calls of a run treat the reservations from here on. -/
structure ReservationRules (rt : Runtime) (usesRedis : Bool) (tokenTtlSeconds : ℕ)
    (c : Config ConfirmState ConfirmEvent) : Prop where
  /-- A call whose `POST` was answered and that has finished has left its token reserved if and
      only if Spring answered 200, exactly unless it raised after the 200. -/
  ends : ∀ i claims outcome c', Ended rt usesRedis tokenTtlSeconds c i claims outcome c' →
    (((c'.state.store.reservation? usesRedis c'.state.now claims.jti).isSome = true ↔
        outcome.acknowledges = true) ↔ outcome.raisesAfterOk = false)
  /-- The next call with that token is rejected when Spring answered 200, and reaches Spring when it
      did not, with the same exception. -/
  retries : ∀ i claims outcome c', Ended rt usesRedis tokenTtlSeconds c i claims outcome c' →
    ∀ j newPassword checkedAt m k c₂, c'.state.calls j = .checked claims newPassword checkedAt →
      (confirmSystem rt usesRedis tokenTtlSeconds).next c' (.reserve j m k) = some c₂ →
      (RetriedAs rt usesRedis tokenTtlSeconds outcome.acknowledges j claims newPassword c₂ ↔
        outcome.raisesAfterOk = false)
  /-- A step of a call changes no reservation of another token. -/
  others : ∀ l c', (confirmSystem rt usesRedis tokenTtlSeconds).next c l = some c' →
    ∀ jti, (∀ i, l.call? = some i → ∀ claims, (c.state.calls i).claims? = some claims →
      claims.jti ≠ jti) →
    c.state.store.KeepsReservation usesRedis jti c.state.now c'.state.store
  /-- A call rejected by the reservation changes none, and releases none later. -/
  rejected : ∀ j m k c' error,
    (confirmSystem rt usesRedis tokenTtlSeconds).next c (.reserve j m k) = some c' →
    c'.state.calls j = .raised error →
    (∀ jti, c.state.store.KeepsReservation usesRedis jti c.state.now c'.state.store) ∧
    ∀ ls d, (confirmSystem rt usesRedis tokenTtlSeconds).run c' ls = some d →
      d.state.calls j = .raised error ∧
      (confirmSystem rt usesRedis tokenTtlSeconds).next d (.release j) = none

/-- A reserved token is rejected, and a free one reaches Spring, whatever the answer was. -/
theorem retriedAs_iff {j : ℕ} {newPassword : String} {checkedAt : Instant} {m k : Instant}
    (updated returned : Bool)
    (hchecked : c.state.calls j = .checked claims newPassword checkedAt)
    (hnext : (confirmSystem rt usesRedis tokenTtlSeconds).next c (.reserve j m k) = some c')
    (hlive : c.state.now.seconds < claims.exp)
    (hmark : if returned = true then c.state.store.Protects usesRedis c.state.now claims
      else c.state.store.Unmarked usesRedis claims.jti) :
    RetriedAs rt usesRedis tokenTtlSeconds updated j claims newPassword c' ↔
      updated = returned := by
  obtain ⟨hfree, hused⟩ := next_reserve_checked hchecked hnext hlive
  unfold RetriedAs
  -- the store's answer fixes where the retry stands, and `updated` asks for one of the two
  cases returned with
  | true =>
    obtain ⟨error, hraised⟩ := hused hmark
    cases updated with
    | true => exact iff_of_true ⟨error, hraised⟩ rfl
    | false =>
      refine iff_of_false (fun h => ?_) (by simp)
      exact absurd (hraised.symm.trans h.1) (by simp)
  | false =>
    have hreserved := hfree hmark
    cases updated with
    | true =>
      refine iff_of_false ?_ (by simp)
      rintro ⟨error, hraised⟩
      exact absurd (hreserved.symm.trans hraised) (by simp)
    | false =>
      have hpost : confirmStep rt usesRedis tokenTtlSeconds c'.state (.post j) =
          some (c'.state.setCall j (.posting claims),
            [.posted j claims ⟨claims.accountType, claims.databaseId, newPassword⟩]) := by
        simp only [confirmStep, hreserved]
      exact iff_of_true ⟨hreserved, _,
        (confirmSystem rt usesRedis tokenTtlSeconds).next_of_step hpost, rfl⟩ rfl

/-- **A reservation ends as the update ended**, in every run, over Redis and over the process-local
    map, whatever Spring answers or the HTTP client raises; except for a call that raises after
    Spring has answered it with a 200. -/
theorem reservation_ends_as_update_iff {now : Instant} {ls : List ConfirmLabel}
    (hrun : (confirmSystem rt usesRedis tokenTtlSeconds).run
      (Config.start (ConfirmState.init now)) ls = some c) :
    ReservationRules rt usesRedis tokenTtlSeconds c := by
  have hinv : TokensKept usesRedis c :=
    (confirmSystem rt usesRedis tokenTtlSeconds).invariant_run
      (fun _ _ _ hd hnext => tokensKept_next hd hnext) (tokensKept_init now) hrun
  constructor
  case ends =>
    intro i claims outcome c' hended
    have hmark := hended.mark hinv
    rw [← outcome.failure_iff_acknowledges, SpringOutcome.failure_eq_none]
    split_ifs at hmark with houtcome
    · simp [hmark.reserved hended.live, houtcome]
    · simp [hmark.not_reserved, houtcome]
  case retries =>
    intro i claims outcome c' hended j newPassword checkedAt m k c₂ hchecked hreserve
    have hmark := hended.mark hinv
    rw [retriedAs_iff _ (decide (outcome = .status 200)) hchecked hreserve hended.live
      (by simpa using hmark), ← outcome.failure_iff_acknowledges, SpringOutcome.failure_eq_none]
    by_cases houtcome : outcome = .status 200 <;> simp [houtcome]
  case others => exact fun l c' hnext jti hother => keepsReservation_next hnext hother
  case rejected =>
    intro j m k c' error hreserve hraised
    have hfinished : (c'.state.calls j).isFinished = true := by rw [hraised]; rfl
    refine ⟨fun jti => keepsReservation_rejected hreserve hraised, fun ls d hrun' => ?_⟩
    have hfinal := finished_final hfinished hrun'
    -- a release step would move a finished call
    refine ⟨hfinal.trans hraised, Option.eq_none_iff_forall_ne_some.mpr fun d' hnext => ?_⟩
    exact call?_of_finished (hfinal ▸ hfinished) hnext rfl

/-- A token of ten minutes whose first `POST` is in flight, over Redis. -/
theorem reservation_ends_as_update_iff_sample :
    ∃ c, (confirmSystem .sample true 600).run (Config.start (ConfirmState.init sampleNow))
        (sampleSubmissions ++ [.reserve 0 sampleLate sampleLate, .post 0]) = some c ∧
      ReservationRules .sample true 600 c := by
  obtain ⟨c, hc⟩ := Option.isSome_iff_exists.mp
    (by decide +kernel :
      ((confirmSystem .sample true 600).run (Config.start (ConfirmState.init sampleNow))
        (sampleSubmissions ++ [.reserve 0 sampleLate sampleLate, .post 0])).isSome = true)
  exact ⟨c, hc, reservation_ends_as_update_iff hc⟩

/-- Call 0 alone submits `sampleClaims`; Spring answers 200, and the client then fails to close. -/
def sampleLoss : List ConfirmLabel :=
  [.mint "2c1f6c2e-3d55-4f0a-8f6e-6a0c8d1f9b10" "ana@ouros.app" "farm_owner" 7, .tick sampleLate,
    .submit 0 (.signed sampleClaims) "Segredo#2024", .reserve 0 sampleLate sampleLate, .post 0,
    .respond 0 (.okThenRaised false), .release 0]

/-- **A reservation is lost.** The call has finished, its token lives and Spring has answered 200,
    but the token is no longer reserved; and the next call with it updates again. -/
theorem reservation_lost_after_ok :
    ∃ c c', (confirmSystem .sample true 600).run (Config.start (ConfirmState.init sampleNow))
        sampleLoss = some c ∧
      .acknowledged 0 sampleClaims ∈ c.history ∧ (c.state.calls 0).isFinished = true ∧
      c.state.now.seconds < (sampleClaims.exp : ℚ) ∧
      (c.state.store.reservation? true c.state.now sampleClaims.jti).isSome = false ∧
      (confirmSystem .sample true 600).run c [.submit 1 (.signed sampleClaims) "Segredo#2025",
        .reserve 1 sampleLate sampleLate, .post 1, .respond 1 (.status 200)] = some c' ∧
      .acknowledged 1 sampleClaims ∈ c'.history := by
  obtain ⟨c, hc, hlost⟩ := Option.map_eq_some_iff.mp
    (by decide +kernel :
      ((confirmSystem .sample true 600).run (Config.start (ConfirmState.init sampleNow))
          sampleLoss).map
        (fun c => (decide (.acknowledged 0 sampleClaims ∈ c.history),
          (c.state.calls 0).isFinished, decide (c.state.now.seconds < (sampleClaims.exp : ℚ)),
          (c.state.store.reservation? true c.state.now sampleClaims.jti).isSome,
          ((confirmSystem .sample true 600).run c [.submit 1 (.signed sampleClaims) "Segredo#2025",
            .reserve 1 sampleLate sampleLate, .post 1, .respond 1 (.status 200)]).map fun c' =>
              decide (.acknowledged 1 sampleClaims ∈ c'.history))) =
        some (true, true, true, false, some true))
  simp only [Prod.mk.injEq, decide_eq_true_eq, Option.map_eq_some_iff] at hlost
  obtain ⟨hacknowledged, hfinished, hlive, hfree, c', hc', hagain⟩ := hlost
  exact ⟨c, c', hc, hacknowledged, hfinished, hlive, hfree, hc', hagain⟩

end OurosAuth
