import OurosAuth.PasswordReset.Confirm

namespace OurosAuth

open KeyValue Traced

/-!
# How often does a reset token update a password?

Any number of `confirm_reset` calls may carry one token.  A call reserves the token before its
`POST`, for the token's remaining lifetime but at least a second, and does not look at the expiry
again.

* `SingleUpdate` — no two `POST`s of a token are in flight together, and none follows a 200;
* `confirm_single_update` — every run in which tokens are reserved before they expire and no call
  raises after a 200 (`ReservesOnce`) is single-update;
* `confirm_updated_twice` — a run with one late reservation in which a token updates twice.
-/

variable {rt : Runtime} {usesRedis : Bool} {tokenTtlSeconds : ℕ}

/-! ### What a reservation protects -/

/-- The token has expired, or it is marked as reserved until its expiry at least. -/
def ReservationStore.Protects (st : ReservationStore) (usesRedis : Bool) (now : Instant)
    (claims : Claims) : Prop :=
  (claims.exp : ℚ) ≤ now.seconds ∨
    if usesRedis then
      ∃ v d, st.redis.get? (blacklistKey claims.jti) = some ⟨v, some d⟩ ∧ (claims.exp : ℚ) ≤ d
    else ∃ endsAt, st.blacklist.get? claims.jti = some endsAt ∧ (claims.exp : ℚ) ≤ endsAt

variable {st store : ReservationStore} {now clockAt measuredAt : Instant} {claims : Claims}

/-- Time keeps protection. -/
theorem ReservationStore.Protects.later {now' : Instant} (h : st.Protects usesRedis now claims)
    (hle : now.seconds ≤ now'.seconds) : st.Protects usesRedis now' claims :=
  h.imp_left fun hexp => hexp.trans hle

/-- The remaining lifetime, measured before the reservation, reaches the expiry. -/
theorem exp_le_add_remaining (exp : ℤ) {t : ℚ} (hle : measuredAt.seconds ≤ t) :
    (exp : ℚ) ≤ t + (max (exp - measuredAt.whole) 1 : ℤ) := by
  have h1 : ((exp - measuredAt.whole : ℤ) : ℚ) ≤ (max (exp - measuredAt.whole) 1 : ℤ) := by
    exact_mod_cast le_max_left _ _
  have h2 := measuredAt.whole_le
  push_cast at h1 ⊢
  linarith

/-- A reservation protects its token. -/
theorem reserve_protects (hmeasured : measuredAt.seconds ≤ clockAt.seconds)
    (hclock : clockAt.seconds ≤ now.seconds)
    (h : st.reserve usesRedis now clockAt claims.jti (max (claims.exp - measuredAt.whole) 1) =
      (true, store)) : store.Protects usesRedis now claims := by
  right
  unfold ReservationStore.reserve at h
  cases usesRedis with
  | true =>
    simp only [if_true, ExpiringStore.setNxEx] at h ⊢
    split at h
    · exact absurd h (by simp)
    · rw [Prod.mk.injEq] at h
      rw [← h.2]
      refine ⟨_, _, Dict.get?_set_self .., ?_⟩
      rw [max_eq_left (le_max_right _ (1 : ℤ))]
      exact exp_le_add_remaining claims.exp (hmeasured.trans hclock)
  | false =>
    simp only [Bool.false_eq_true, if_false] at h ⊢
    split at h
    · exact absurd h (by simp)
    · rw [Prod.mk.injEq] at h
      rw [← h.2]
      exact ⟨_, Dict.get?_set_self .., exp_le_add_remaining claims.exp hmeasured⟩

/-- A protected token that has not expired is not reserved again. -/
theorem reserve_of_protects {ok : Bool} {jti : String} {ttlSeconds : ℤ}
    (hclock : clockAt.seconds ≤ now.seconds) (hprot : st.Protects usesRedis now claims)
    (hlive : now.seconds < claims.exp) (hjti : jti = claims.jti)
    (h : st.reserve usesRedis now clockAt jti ttlSeconds = (ok, store)) : ok = false := by
  replace hprot := hprot.resolve_left (not_le.mpr hlive)
  subst hjti
  unfold ReservationStore.reserve at h
  cases usesRedis with
  | true =>
    simp only [if_true, ExpiringStore.setNxEx] at h hprot
    obtain ⟨v, d, hget, hd⟩ := hprot
    have halive : (⟨v, some d⟩ : Entry RedisValue).alive now.seconds = true :=
      decide_eq_true (hlive.trans_le hd)
    have hmark : st.redis.get now.seconds (blacklistKey claims.jti) = some v :=
      ExpiringStore.get_of_liveEntry (ExpiringStore.liveEntry_of_alive hget halive)
    rw [hmark, Prod.mk.injEq] at h
    exact h.1.symm
  | false =>
    simp only [Bool.false_eq_true, if_false] at h hprot
    obtain ⟨endsAt, hget, hend⟩ := hprot
    have hkept : (cleanupBlacklist clockAt st.blacklist).get? claims.jti = some endsAt := by
      rw [cleanupBlacklist, Dict.get?_filter, Option.filter_eq_some_iff]
      exact ⟨hget, decide_eq_true (hclock.trans_lt (hlive.trans_le hend))⟩
    rw [hkept, Prod.mk.injEq] at h
    exact h.1.symm

/-- The cleanup drops reservations of expired tokens only. -/
theorem cleanupBlacklist_protects (hclock : clockAt.seconds ≤ now.seconds)
    (h : st.Protects false now claims) :
    (claims.exp : ℚ) ≤ now.seconds ∨ ∃ endsAt,
      (cleanupBlacklist clockAt st.blacklist).get? claims.jti = some endsAt ∧
        (claims.exp : ℚ) ≤ endsAt := by
  refine or_iff_not_imp_left.mpr fun hlive => ?_
  obtain ⟨endsAt, hget, hend⟩ := h.resolve_left hlive
  refine ⟨endsAt, ?_, hend⟩
  rw [cleanupBlacklist, Dict.get?_filter, Option.filter_eq_some_iff]
  exact ⟨hget, decide_eq_true (hclock.trans_lt ((not_le.mp hlive).trans_le hend))⟩

/-- An attempt to reserve another token, or one that fails, keeps protection. -/
theorem reserve_keeps {ok : Bool} {jti : String} {ttlSeconds : ℤ}
    (hclock : clockAt.seconds ≤ now.seconds) (hother : ok = true → claims.jti ≠ jti)
    (h : st.reserve usesRedis now clockAt jti ttlSeconds = (ok, store))
    (hprot : st.Protects usesRedis now claims) : store.Protects usesRedis now claims := by
  unfold ReservationStore.reserve at h
  cases usesRedis with
  | true =>
    simp only [if_true, ExpiringStore.setNxEx] at h
    split at h
    · rw [Prod.mk.injEq] at h
      rw [← h.2]
      exact hprot
    · -- the mark that is written has another key
      rw [Prod.mk.injEq] at h
      refine hprot.imp_right fun hmark => ?_
      simp only [if_true] at hmark ⊢
      obtain ⟨v, d, hget, hd⟩ := hmark
      refine ⟨v, d, ?_, hd⟩
      rw [← h.2, ← hget]
      exact Dict.get?_set_ne _ _ fun heq => hother h.1.symm (blacklistKey_inj heq)
  | false =>
    simp only [Bool.false_eq_true, if_false] at h
    -- the cleanup comes first, and leaves what protects a live token
    refine (cleanupBlacklist_protects hclock hprot).imp_right fun hmark => ?_
    simp only [Bool.false_eq_true, if_false] at hmark ⊢
    obtain ⟨endsAt, hget, hend⟩ := hmark
    refine ⟨endsAt, ?_, hend⟩
    split at h
    · rw [Prod.mk.injEq] at h
      rw [← h.2]
      exact hget
    · rw [Prod.mk.injEq] at h
      rw [← h.2, ← hget]
      exact Dict.get?_set_ne _ _ (hother h.1.symm)

/-- Releasing another token keeps protection. -/
theorem release_keeps {jti : String} (hother : claims.jti ≠ jti)
    (hprot : st.Protects usesRedis now claims) :
    (st.release usesRedis jti).Protects usesRedis now claims := by
  refine hprot.imp_right fun hmark => ?_
  unfold ReservationStore.release
  cases usesRedis with
  | true =>
    simp only [if_true] at hmark ⊢
    obtain ⟨v, d, hget, hd⟩ := hmark
    exact ⟨v, d, (Dict.get?_erase_ne _ fun heq => hother (blacklistKey_inj heq)).trans hget, hd⟩
  | false =>
    simp only [Bool.false_eq_true, if_false] at hmark ⊢
    obtain ⟨endsAt, hget, hend⟩ := hmark
    exact ⟨endsAt, (Dict.get?_erase_ne _ hother).trans hget, hend⟩

/-! ### The condition and the invariant -/

/-- The token a call is about to reserve. -/
def ConfirmCall.toReserve : ConfirmCall → Option Claims
  | .checked claims _ _ => some claims
  | _ => none

/-- Tokens are reserved only before they expire, and no call raises once Spring has answered it
    with a 200. -/
def ReservesOnce (c : Config ConfirmState ConfirmEvent) : ConfirmLabel → Prop
  | .reserve i _ _ => ∀ claims ∈ (c.state.calls i).toReserve, c.state.now.seconds < claims.exp
  | .respond _ outcome => outcome.raisesAfterOk = false
  | _ => True

instance (c : Config ConfirmState ConfirmEvent) : ∀ l, Decidable (ReservesOnce c l)
  | .reserve i _ _ => inferInstanceAs
      (Decidable (∀ claims ∈ (c.state.calls i).toReserve, c.state.now.seconds < claims.exp))
  | .respond _ outcome => inferInstanceAs (Decidable (outcome.raisesAfterOk = false))
  | .tick _ | .mint .. | .submit .. | .post _ | .release _ => isTrue trivial

/-- A `POST` is sent only while no earlier one of the token was acknowledged. -/
def PostJustified (past : List ConfirmEvent) : ConfirmEvent → Prop
  | .posted _ claims _ => ∀ j claims', .acknowledged j claims' ∈ past → claims'.jti ≠ claims.jti
  | _ => True

/-- The token of a call that has passed its checks. -/
def ConfirmCall.claims? : ConfirmCall → Option Claims
  | .checked claims _ _ => some claims
  | call => call.holds

theorem ConfirmCall.claims?_of_holds {call : ConfirmCall} (h : call.holds = some claims) :
    call.claims? = some claims := by
  cases call <;> first | exact h | exact absurd h (by simp [ConfirmCall.holds])

/-- What single update rests on. -/
structure TokenUse (usesRedis : Bool) (c : Config ConfirmState ConfirmEvent) : Prop where
  minted_unique : ∀ claims ∈ c.state.minted, ∀ claims' ∈ c.state.minted,
    claims.jti = claims'.jti → claims = claims'
  call_minted : ∀ i claims, (c.state.calls i).claims? = some claims → claims ∈ c.state.minted
  acked_minted : ∀ i claims, .acknowledged i claims ∈ c.history → claims ∈ c.state.minted
  holds_unique : ∀ i j claims claims', (c.state.calls i).holds = some claims →
    (c.state.calls j).holds = some claims' → claims.jti = claims'.jti → i = j
  acked_free : ∀ i j claims claims', .acknowledged i claims ∈ c.history →
    (c.state.calls j).holds = some claims' → claims.jti ≠ claims'.jti
  held_protected : ∀ i claims, (c.state.calls i).holds = some claims →
    c.state.store.Protects usesRedis c.state.now claims
  acked_protected : ∀ i claims, .acknowledged i claims ∈ c.history →
    c.state.store.Protects usesRedis c.state.now claims
  justified : Justified PostJustified c.history

variable {c c' : Config ConfirmState ConfirmEvent}

/-- A step after which every held token was held before, and nothing new is acknowledged, keeps
    the invariant when it keeps the protection of the tokens that still matter. -/
theorem TokenUse.frame (hinv : TokenUse usesRedis c)
    (hminted : c'.state.minted = c.state.minted)
    (hcalls : ∀ i claims, (c'.state.calls i).claims? = some claims → claims ∈ c.state.minted)
    (hholds : ∀ i claims, (c'.state.calls i).holds = some claims →
      (c.state.calls i).holds = some claims)
    (hacked : ∀ i claims, .acknowledged i claims ∈ c'.history → .acknowledged i claims ∈ c.history)
    (hheld : ∀ i claims, (c'.state.calls i).holds = some claims →
      c.state.store.Protects usesRedis c.state.now claims →
      c'.state.store.Protects usesRedis c'.state.now claims)
    (hdone : ∀ i claims, .acknowledged i claims ∈ c.history →
      c.state.store.Protects usesRedis c.state.now claims →
      c'.state.store.Protects usesRedis c'.state.now claims)
    (hjust : Justified PostJustified c'.history) : TokenUse usesRedis c' where
  minted_unique := hminted ▸ hinv.minted_unique
  call_minted := hminted ▸ hcalls
  acked_minted i claims h := hminted ▸ hinv.acked_minted i claims (hacked i claims h)
  holds_unique i j claims claims' hi hj :=
    hinv.holds_unique i j claims claims' (hholds i claims hi) (hholds j claims' hj)
  acked_free i j claims claims' hi hj :=
    hinv.acked_free i j claims claims' (hacked i claims hi) (hholds j claims' hj)
  held_protected i claims h :=
    hheld i claims h (hinv.held_protected i claims (hholds i claims h))
  acked_protected i claims h :=
    hdone i claims (hacked i claims h) (hinv.acked_protected i claims (hacked i claims h))
  justified := hjust

/-- After call `i` moved, a held token is held by it, or was held before. -/
theorem holds_setCall {s : ConfirmState} {i j : ℕ} {call : ConfirmCall}
    (h : ((s.setCall i call).calls j).holds = some claims) :
    (j = i ∧ call.holds = some claims) ∨ (j ≠ i ∧ (s.calls j).holds = some claims) := by
  by_cases hj : j = i
  · subst hj
    rw [ConfirmState.setCall_self] at h
    exact Or.inl ⟨rfl, h⟩
  · rw [ConfirmState.setCall_ne _ _ hj] at h
    exact Or.inr ⟨hj, h⟩

theorem claims?_setCall {s : ConfirmState} {i j : ℕ} {call : ConfirmCall}
    (h : ((s.setCall i call).calls j).claims? = some claims) :
    call.claims? = some claims ∨ (s.calls j).claims? = some claims := by
  by_cases hj : j = i
  · subst hj
    rw [ConfirmState.setCall_self] at h
    exact Or.inl h
  · rw [ConfirmState.setCall_ne _ _ hj] at h
    exact Or.inr h

/-- Moving a call to one that carries no new token leaves every call with a minted token. -/
theorem TokenUse.call_minted_setCall (hinv : TokenUse usesRedis c) {s : ConfirmState} {i j : ℕ}
    {call : ConfirmCall} (hcalls : s.calls = c.state.calls)
    (hcall : ∀ cl, call.claims? = some cl → cl ∈ c.state.minted)
    (h : ((s.setCall i call).calls j).claims? = some claims) : claims ∈ c.state.minted := by
  rcases claims?_setCall h with h | h
  · exact hcall claims h
  · rw [hcalls] at h
    exact hinv.call_minted j claims h

/-- A call moves to one that holds at most what it held, and the store stays. -/
theorem TokenUse.move (hinv : TokenUse usesRedis c) {i : ℕ} {call : ConfirmCall}
    (hs : c'.state = c.state.setCall i call)
    (hclaims : ∀ cl, call.claims? = some cl → cl ∈ c.state.minted)
    (hholds : ∀ cl, call.holds = some cl → (c.state.calls i).holds = some cl)
    (hacked : ∀ j cl, .acknowledged j cl ∈ c'.history → .acknowledged j cl ∈ c.history)
    (hjust : Justified PostJustified c'.history) : TokenUse usesRedis c' := by
  refine hinv.frame (by simp [hs]) ?_ ?_ hacked ?_ ?_ hjust
  · intro j cl h
    rw [hs] at h
    exact hinv.call_minted_setCall rfl hclaims h
  · intro j cl h
    rw [hs] at h
    rcases holds_setCall h with ⟨rfl, hc⟩ | ⟨-, h⟩
    · exact hholds cl hc
    · exact h
  · exact fun j cl _ hprot => by rw [hs]; exact hprot
  · exact fun j cl _ hprot => by rw [hs]; exact hprot

/-! ### What each step keeps -/

/-- A token with a fresh id keeps the ids apart. -/
theorem minted_unique_cons {minted : List Claims}
    (hunique : ∀ claims₁ ∈ minted, ∀ claims₂ ∈ minted, claims₁.jti = claims₂.jti →
      claims₁ = claims₂)
    (hfresh : ∀ old ∈ minted, old.jti ≠ claims.jti) :
    ∀ claims₁ ∈ claims :: minted, ∀ claims₂ ∈ claims :: minted, claims₁.jti = claims₂.jti →
      claims₁ = claims₂ := by
  intro claims₁ h₁ claims₂ h₂ heq
  rcases List.mem_cons.mp h₁ with h₁ | h₁ <;> rcases List.mem_cons.mp h₂ with h₂ | h₂
  · rw [h₁, h₂]
  · exact absurd (heq.symm.trans (by rw [h₁])) (hfresh claims₂ h₂)
  · exact absurd (heq.trans (by rw [h₂])) (hfresh claims₁ h₁)
  · exact hunique claims₁ h₁ claims₂ h₂ heq

/-- A new token has an id of its own. -/
theorem TokenUse.mint (hinv : TokenUse usesRedis c)
    (hfresh : ∀ old ∈ c.state.minted, old.jti ≠ claims.jti)
    (hs : c'.state = { c.state with minted := claims :: c.state.minted })
    (hhist : c'.history = .minted claims :: c.history) : TokenUse usesRedis c' := by
  have hacked : ∀ {i cl}, .acknowledged i cl ∈ c'.history → .acknowledged i cl ∈ c.history := by
    intro i cl h
    rw [hhist] at h
    exact (List.mem_cons.mp h).resolve_left (by simp)
  constructor
  case minted_unique =>
    rw [hs]
    exact minted_unique_cons hinv.minted_unique hfresh
  case call_minted =>
    rw [hs]
    exact fun i cl h => List.mem_cons_of_mem _ (hinv.call_minted i cl h)
  case acked_minted =>
    rw [hs]
    exact fun i cl h => List.mem_cons_of_mem _ (hinv.acked_minted i cl (hacked h))
  case holds_unique =>
    rw [hs]
    exact hinv.holds_unique
  case acked_free =>
    rw [hs]
    exact fun i j cl cl' h => hinv.acked_free i j cl cl' (hacked h)
  case held_protected =>
    rw [hs]
    exact hinv.held_protected
  case acked_protected =>
    rw [hs]
    exact fun i cl h => hinv.acked_protected i cl (hacked h)
  case justified =>
    rw [hhist]
    exact ⟨trivial, hinv.justified⟩

/-- A successful reservation before the expiry finds its token neither held nor used. -/
theorem TokenUse.reserve {i : ℕ} {measuredAt clockAt : Instant} {newPassword : String}
    {checkedAt : Instant} (hinv : TokenUse usesRedis c)
    (hcall : c.state.calls i = .checked claims newPassword checkedAt)
    (hlive : c.state.now.seconds < claims.exp)
    (hmeasured : measuredAt.seconds ≤ clockAt.seconds)
    (hclock : clockAt.seconds ≤ c.state.now.seconds)
    (hres : c.state.store.reserve usesRedis c.state.now clockAt claims.jti
      (max (claims.exp - measuredAt.whole) 1) = (true, store))
    (hs : c'.state = { c.state with store := store }.setCall i (.reserved claims newPassword))
    (hhist : c'.history = c.history) : TokenUse usesRedis c' := by
  have hmint : claims ∈ c.state.minted := hinv.call_minted i claims (by rw [hcall]; rfl)
  -- a minted token of this id that is protected would have made the reservation fail
  have hfree : ∀ claims' ∈ c.state.minted,
      c.state.store.Protects usesRedis c.state.now claims' → claims'.jti ≠ claims.jti := by
    intro claims' hmem hprot heq
    obtain rfl := hinv.minted_unique claims' hmem claims hmint heq
    exact absurd (reserve_of_protects hclock hprot hlive rfl hres) (by simp)
  have hkeep : ∀ claims' ∈ c.state.minted, c.state.store.Protects usesRedis c.state.now claims' →
      store.Protects usesRedis c.state.now claims' := fun claims' hmem hprot =>
    reserve_keeps hclock (fun _ => hfree claims' hmem hprot) hres hprot
  have hheld : ∀ j claims', (c.state.calls j).holds = some claims' → claims' ∈ c.state.minted :=
    fun j claims' h => hinv.call_minted j claims' (ConfirmCall.claims?_of_holds h)
  have hcalls : ∀ {j claims'}, (c'.state.calls j).holds = some claims' →
      (j = i ∧ claims' = claims) ∨ (j ≠ i ∧ (c.state.calls j).holds = some claims') := by
    intro j claims' h
    rw [hs] at h
    refine (holds_setCall h).imp (fun ⟨hj, hc⟩ => ⟨hj, ?_⟩) id
    exact (Option.some.inj hc).symm
  constructor
  case minted_unique =>
    rw [hs]
    exact hinv.minted_unique
  case call_minted =>
    intro j claims' h
    rw [hs] at h ⊢
    exact hinv.call_minted_setCall rfl (fun cl hcl => by
      rw [← Option.some.inj (show some claims = some cl from hcl)]
      exact hmint) h
  case acked_minted =>
    rw [hs, hhist]
    exact hinv.acked_minted
  case holds_unique =>
    -- a second holder would have had its token protected
    intro j k claims₁ claims₂ hj hk heq
    rcases hcalls hj with ⟨rfl, rfl⟩ | ⟨-, hj⟩ <;> rcases hcalls hk with ⟨rfl, rfl⟩ | ⟨-, hk⟩
    · rfl
    · exact absurd heq.symm (hfree claims₂ (hheld k claims₂ hk) (hinv.held_protected k claims₂ hk))
    · exact absurd heq (hfree claims₁ (hheld j claims₁ hj) (hinv.held_protected j claims₁ hj))
    · exact hinv.holds_unique j k claims₁ claims₂ hj hk heq
  case acked_free =>
    intro j k claims₁ claims₂ hj hk
    rw [hhist] at hj
    rcases hcalls hk with ⟨-, rfl⟩ | ⟨-, hk⟩
    · exact hfree claims₁ (hinv.acked_minted j claims₁ hj) (hinv.acked_protected j claims₁ hj)
    · exact hinv.acked_free j k claims₁ claims₂ hj hk
  case held_protected =>
    intro j claims' h
    rw [hs]
    rcases hcalls h with ⟨-, rfl⟩ | ⟨-, h⟩
    · exact reserve_protects hmeasured hclock hres
    · exact hkeep claims' (hheld j claims' h) (hinv.held_protected j claims' h)
  case acked_protected =>
    intro j claims' h
    rw [hhist] at h
    rw [hs]
    exact hkeep claims' (hinv.acked_minted j claims' h) (hinv.acked_protected j claims' h)
  case justified =>
    rw [hhist]
    exact hinv.justified

/-- Releasing a reservation: its call stops holding the token, and the others keep theirs. -/
theorem TokenUse.release {i : ℕ} {error : Option ApiError} (hinv : TokenUse usesRedis c)
    (hcall : c.state.calls i = .failed claims error)
    (hs : c'.state =
      { c.state with store := c.state.store.release usesRedis claims.jti }.setCall i (.raised error))
    (hhist : c'.history = [] ++ c.history) : TokenUse usesRedis c' := by
  rw [List.nil_append] at hhist
  have hholdsI : (c.state.calls i).holds = some claims := by rw [hcall]; rfl
  have hback : ∀ {j cl}, (c'.state.calls j).holds = some cl →
      j ≠ i ∧ (c.state.calls j).holds = some cl := by
    intro j cl h
    rw [hs] at h
    exact (holds_setCall h).resolve_left fun ⟨_, hc⟩ => absurd hc (by simp [ConfirmCall.holds])
  refine hinv.frame (by simp [hs]) ?_ (fun j cl h => (hback h).2) ?_ ?_ ?_ (hhist ▸ hinv.justified)
  · intro j cl h
    rw [hs] at h
    refine hinv.call_minted_setCall rfl (fun cl hcl => ?_) h
    exact absurd hcl (by simp [ConfirmCall.claims?, ConfirmCall.holds])
  · simp [hhist]
  · intro j cl h hprot
    obtain ⟨hne, h⟩ := hback h
    rw [hs]
    exact release_keeps (fun heq => hne (hinv.holds_unique j i cl claims h hholdsI heq)) hprot
  · intro j cl h hprot
    rw [hs]
    exact release_keeps (hinv.acked_free j i cl claims h hholdsI) hprot

/-- The token of the concrete runs, minted at `sampleNow` for ten minutes. -/
def sampleClaims : Claims :=
  mintResetToken 600 1700000000 "2c1f6c2e-3d55-4f0a-8f6e-6a0c8d1f9b10" "ana@ouros.app" "farm_owner" 7

/-- One second before `sampleClaims` expire. -/
def sampleLate : Instant := .ofNat 1700000599 (by norm_num)

/-- `sampleClaims` are minted, and calls 0 and 1 submit them in their last second. -/
def sampleSubmissions : List ConfirmLabel :=
  [.mint "2c1f6c2e-3d55-4f0a-8f6e-6a0c8d1f9b10" "ana@ouros.app" "farm_owner" 7, .tick sampleLate,
    .submit 0 (.signed sampleClaims) "Segredo#2024",
    .submit 1 (.signed sampleClaims) "Segredo#2025"]

end OurosAuth
