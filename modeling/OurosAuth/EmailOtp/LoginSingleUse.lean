import OurosAuth.EmailOtp.Login

namespace OurosAuth

open Traced

/-!
# Is a native-login challenge used once?

Any number of `verify` calls may work on one challenge, each with a `GET`, a comparison and a
`SET` or `DEL` that other calls can run between.

* `UsedOnce` — at most one call returns, at most one grant follows, and a challenge that a call
  removed stays removed;
* `login_single_use` — every run in which calls accept, or save back, only while the challenge
  still has a record in the store (`WritesPresent`) uses every challenge once;
* `login_accepted_twice` — a run without that condition which uses a challenge twice.
-/

variable {rt : Runtime} {svc : OtpService}

/-! ### The condition and the invariant -/

/-- The challenge whose record the call's store operation rests on: it accepts, or saves the
    record back. -/
def LoginCall.writesTo : LoginCall → Option String
  | .decided challengeId _ _ _ .accept => some challengeId
  | .decided challengeId _ _ _ (.resave _ _) => some challengeId
  | _ => none

/-- A call accepts, or saves back, only while the challenge has a record in the store. -/
def WritesPresent (svc : OtpService) (c : Config LoginState LoginEvent) : LoginLabel → Prop
  | .write i => ∀ challengeId ∈ (c.state.calls i).writesTo,
      c.state.otp.stores.record? svc .login challengeId ≠ none
  | _ => True

instance (svc : OtpService) (c : Config LoginState LoginEvent) :
    ∀ l, Decidable (WritesPresent svc c l)
  | .write i => inferInstanceAs (Decidable (∀ challengeId ∈ (c.state.calls i).writesTo,
      c.state.otp.stores.record? svc .login challengeId ≠ none))
  | .tick _ | .start .. | .delivered .. | .load .. | .check _ | .grant _ => isTrue trivial

/-- What single use rests on. -/
structure SingleUse (svc : OtpService) (c : Config LoginState LoginEvent) : Prop where
  removed_issued : ∀ i challengeId, .removed i challengeId ∈ c.history →
    challengeId ∈ c.state.otp.issued
  removed_gone : ∀ i challengeId, .removed i challengeId ∈ c.history →
    c.state.otp.stores.record? svc .login challengeId = none
  returned_removed : ∀ i challengeId, i ∈ returnsOf challengeId c.history →
    ∃ j, .removed j challengeId ∈ c.history
  returned_once : ∀ challengeId, (returnsOf challengeId c.history).length ≤ 1
  verified_returned : ∀ i challengeId email, c.state.calls i = .verified challengeId email →
    i ∈ returnsOf challengeId c.history ∧ ∀ challengeId', i ∉ grantsOf challengeId' c.history
  grants_done : ∀ i challengeId, i ∈ grantsOf challengeId c.history → c.state.calls i = .granted
  grants_returned : ∀ challengeId, grantsOf challengeId c.history ⊆ returnsOf challengeId c.history
  grants_nodup : ∀ challengeId, (grantsOf challengeId c.history).Nodup

theorem singleUse_init (now : Instant) :
    SingleUse svc (Config.start (LoginState.init now)) where
  removed_issued := by simp
  removed_gone := by simp
  returned_removed := by simp [returnsOf]
  returned_once := by simp [returnsOf]
  verified_returned := by simp [LoginState.init]
  grants_done := by simp [grantsOf]
  grants_returned := by simp [grantsOf]
  grants_nodup := by simp [grantsOf]

/-- A step that neither adds a record nor touches history or finished calls keeps the
    invariant. -/
theorem SingleUse.frame {c c' : Config LoginState LoginEvent} (hinv : SingleUse svc c)
    (hstore : ∀ challengeId r, c'.state.otp.stores.record? svc .login challengeId = some r →
      c.state.otp.stores.record? svc .login challengeId = some r)
    (hissued : c'.state.otp.issued = c.state.otp.issued)
    (hverified : ∀ i challengeId email, c'.state.calls i = .verified challengeId email →
      c.state.calls i = .verified challengeId email)
    (hgranted : ∀ i, c.state.calls i = .granted → c'.state.calls i = .granted)
    (hremoved : ∀ i challengeId,
      .removed i challengeId ∈ c'.history ↔ .removed i challengeId ∈ c.history)
    (hreturns : ∀ challengeId, returnsOf challengeId c'.history = returnsOf challengeId c.history)
    (hgrants : ∀ challengeId, grantsOf challengeId c'.history = grantsOf challengeId c.history) :
    SingleUse svc c' where
  removed_issued i challengeId h := by
    rw [hissued]
    exact hinv.removed_issued i challengeId ((hremoved i challengeId).mp h)
  removed_gone i challengeId h := by
    have hnone := hinv.removed_gone i challengeId ((hremoved i challengeId).mp h)
    cases hr : c'.state.otp.stores.record? svc .login challengeId with
    | none => rfl
    | some r => rw [hstore _ _ hr] at hnone; exact absurd hnone (by simp)
  returned_removed i challengeId h := by
    rw [hreturns] at h
    obtain ⟨j, hj⟩ := hinv.returned_removed i challengeId h
    exact ⟨j, (hremoved j challengeId).mpr hj⟩
  returned_once challengeId := by
    rw [hreturns]
    exact hinv.returned_once challengeId
  verified_returned i challengeId email h := by
    have hold := hinv.verified_returned i challengeId email (hverified i challengeId email h)
    refine ⟨by rw [hreturns]; exact hold.1, fun challengeId' => ?_⟩
    rw [hgrants]
    exact hold.2 challengeId'
  grants_done i challengeId h := by
    rw [hgrants] at h
    exact hgranted i (hinv.grants_done i challengeId h)
  grants_returned challengeId := by
    rw [hgrants, hreturns]
    exact hinv.grants_returned challengeId
  grants_nodup challengeId := by
    rw [hgrants]
    exact hinv.grants_nodup challengeId

/-! ### What each step keeps -/

/-- Moving one call to a state that is not `verified` leaves the `verified` calls. -/
theorem verified_of_setCall {s : LoginState} {i j : ℕ} {call : LoginCall}
    {challengeId email : String} (hcall : ∀ a b, call ≠ .verified a b)
    (h : (s.setCall i call).calls j = .verified challengeId email) :
    s.calls j = .verified challengeId email := by
  by_cases hj : j = i
  · subst hj
    rw [setCall_calls_self] at h
    exact absurd h (hcall _ _)
  · rwa [setCall_calls_ne _ _ hj] at h

/-- Moving a call that is not `granted` leaves the `granted` calls. -/
theorem granted_setCall {s : LoginState} {i j : ℕ} {call : LoginCall}
    (hcall : s.calls i ≠ .granted) (h : s.calls j = .granted) :
    (s.setCall i call).calls j = .granted := by
  have hj : j ≠ i := by
    rintro rfl
    exact hcall h
  rwa [setCall_calls_ne _ _ hj]

/-- A call that has not been granted and does not return keeps the invariant, when the stores show
    no new record and the history nothing of the kind. -/
theorem SingleUse.move {c c' : Config LoginState LoginEvent} {i : ℕ} {call : LoginCall}
    {stores : OtpStores} (hinv : SingleUse svc c) (hold : c.state.calls i ≠ .granted)
    (hnew : ∀ challengeId email, call ≠ .verified challengeId email)
    (hs : c'.state = (c.state.setStores stores).setCall i call)
    (hstore : ∀ challengeId r, stores.record? svc .login challengeId = some r →
      c.state.otp.stores.record? svc .login challengeId = some r)
    (hremoved : ∀ j challengeId,
      .removed j challengeId ∈ c'.history ↔ .removed j challengeId ∈ c.history)
    (hreturns : ∀ challengeId, returnsOf challengeId c'.history = returnsOf challengeId c.history)
    (hgrants : ∀ challengeId, grantsOf challengeId c'.history = grantsOf challengeId c.history) :
    SingleUse svc c' := by
  refine hinv.frame (fun a r h => ?_) (by simp [hs]) (fun j a b h => ?_) (fun j h => ?_) hremoved
    hreturns hgrants
  · rw [hs] at h
    exact hstore a r h
  · rw [hs] at h
    exact verified_of_setCall hnew h
  · rw [hs]
    exact granted_setCall (s := c.state.setStores _) hold h

/-- A freshly created challenge has no past. -/
theorem SingleUse.start {c c' : Config LoginState LoginEvent} {challengeId : String} {r : Record}
    {readAt : Instant} (hinv : SingleUse svc c)
    (hcreate : c.state.otp.create svc .login challengeId readAt r = some c'.state.otp)
    (hcalls : c'.state.calls = c.state.calls)
    (hremoved : ∀ i a, LoginEvent.removed i a ∈ c'.history ↔ .removed i a ∈ c.history)
    (hreturns : ∀ a, returnsOf a c'.history = returnsOf a c.history)
    (hgrants : ∀ a, grantsOf a c'.history = grantsOf a c.history) : SingleUse svc c' := by
  obtain ⟨-, hnew, -, hotp⟩ := create_eq_some.mp hcreate
  have hissued : c'.state.otp.issued = challengeId :: c.state.otp.issued := by rw [hotp]
  constructor
  case removed_issued =>
    intro i a hmem
    rw [hissued]
    exact List.mem_cons_of_mem _ (hinv.removed_issued i a ((hremoved i a).mp hmem))
  case removed_gone =>
    intro i a hmem
    rw [hremoved] at hmem
    -- what was removed had been issued, and the new id had not
    have ha : a ≠ challengeId := by
      rintro rfl
      exact hnew (hinv.removed_issued i a hmem)
    refine Option.eq_none_iff_forall_ne_some.mpr fun r' hr => ?_
    have hold := record?_of_create hcreate ha hr
    rw [hinv.removed_gone i a hmem] at hold
    exact absurd hold (by simp)
  case returned_removed =>
    intro i a hmem
    rw [hreturns] at hmem
    obtain ⟨j, hj⟩ := hinv.returned_removed i a hmem
    exact ⟨j, (hremoved j a).mpr hj⟩
  case returned_once =>
    intro a
    rw [hreturns]
    exact hinv.returned_once a
  case verified_returned =>
    intro i a e hcall
    rw [hcalls] at hcall
    simp only [hreturns, hgrants]
    exact hinv.verified_returned i a e hcall
  case grants_done =>
    intro i a hmem
    rw [hgrants] at hmem
    rw [hcalls]
    exact hinv.grants_done i a hmem
  case grants_returned =>
    intro a
    rw [hgrants, hreturns]
    exact hinv.grants_returned a
  case grants_nodup =>
    intro a
    rw [hgrants]
    exact hinv.grants_nodup a

/-- A store operation on a record that is there is the first to remove it. -/
theorem SingleUse.write {c c' : Config LoginState LoginEvent} {i : ℕ}
    {challengeId email code : String} {r : Record} {d : VerifyDecision}
    (hids : IssuedIds svc c.state)
    (hinv : SingleUse svc c) (hcall : c.state.calls i = .decided challengeId email code r d)
    (hpresent : ∀ a ∈ (c.state.calls i).writesTo, c.state.otp.stores.record? svc .login a ≠ none)
    (hs : c'.state = (c.state.setStores
      (d.store svc c.state.otp.now challengeId c.state.otp.stores)).setCall i
        (d.ending challengeId email))
    (hhist : c'.history = d.events i challengeId ++ c.history) : SingleUse svc c' := by
  have hid : challengeId ∈ c.state.otp.issued := hids.window i challengeId (by rw [hcall]; rfl)
  have hnotGranted : c.state.calls i ≠ .granted := by rw [hcall]; simp
  -- an operation that needs the record finds one, so nothing has removed the challenge yet
  have hnone : challengeId ∈ (c.state.calls i).writesTo →
      ∀ j, .removed j challengeId ∉ c.history :=
    fun hwrites j hmem => hpresent challengeId hwrites (hinv.removed_gone j challengeId hmem)
  have hgrants : ∀ a, grantsOf a c'.history = grantsOf a c.history := fun a => by
    rw [hhist, grantsOf_events]
  have hreturns : ∀ a, returnsOf a c.history ⊆ returnsOf a c'.history := fun a => by
    rw [hhist, returnsOf_events]
    split
    · exact List.subset_cons_self _ _
    · exact List.Subset.refl _
  constructor
  case removed_issued =>
    intro j a hmem
    rw [hhist, List.mem_append] at hmem
    rw [hs]
    rcases hmem with hmem | hmem
    · rw [removed_mem_events hmem]
      exact hid
    · exact hinv.removed_issued j a hmem
  case removed_gone =>
    intro j a hmem
    rw [hhist, List.mem_append] at hmem
    rw [hs]
    rcases hmem with hmem | hmem
    · obtain rfl := removed_mem_events hmem
      exact record?_store_eq_none fun r' ttl heq => by
        rw [heq] at hmem
        exact absurd hmem (by simp [VerifyDecision.events])
    · refine Option.eq_none_iff_forall_ne_some.mpr fun r' hr => ?_
      by_cases ha : a = challengeId
      · subst ha
        -- only a write-back could bring the record back, and it found one
        by_cases hneed : ∃ r₁ ttl, d = .resave r₁ ttl
        · obtain ⟨r₁, ttl, rfl⟩ := hneed
          exact hnone (by rw [hcall]; rfl) j hmem
        · have hresave : ∀ r₁ ttl, d ≠ .resave r₁ ttl := fun r₁ ttl heq => hneed ⟨r₁, ttl, heq⟩
          exact absurd ((record?_store_eq_none hresave).symm.trans hr) (by simp)
      · have hold := record?_of_store ha hr
        rw [hinv.removed_gone j a hmem] at hold
        exact absurd hold (by simp)
  case returned_removed =>
    intro j a hmem
    rw [hhist, returnsOf_events] at hmem
    rw [hhist]
    split at hmem
    · rename_i hacc
      obtain ⟨rfl, rfl⟩ := hacc
      exact ⟨i, by simp [VerifyDecision.events]⟩
    · obtain ⟨k, hk⟩ := hinv.returned_removed j a hmem
      exact ⟨k, List.mem_append_right _ hk⟩
  case returned_once =>
    intro a
    rw [hhist, returnsOf_events]
    split
    · rename_i hacc
      obtain ⟨rfl, rfl⟩ := hacc
      -- a call that returned before has removed the challenge
      have hempty : returnsOf challengeId c.history = [] := by
        refine List.eq_nil_iff_forall_not_mem.mpr fun j hj => ?_
        obtain ⟨k, hk⟩ := hinv.returned_removed j challengeId hj
        exact hnone (by rw [hcall]; rfl) k hk
      simp [hempty]
    · exact hinv.returned_once a
  case verified_returned =>
    intro j a e hv
    rw [hs] at hv
    by_cases hj : j = i
    · -- the call that returns now, and has not been granted
      subst hj
      rw [setCall_calls_self] at hv
      have hacc : d = .accept := by
        cases d <;> simp only [VerifyDecision.ending, reduceCtorEq] at hv ⊢
      subst hacc
      simp only [VerifyDecision.ending, LoginCall.verified.injEq] at hv
      refine ⟨?_, fun a' hmem => ?_⟩
      · rw [hhist, returnsOf_events, if_pos ⟨rfl, hv.1⟩]
        exact List.mem_cons_self
      · rw [hgrants] at hmem
        exact hnotGranted (hinv.grants_done _ _ hmem)
    · rw [setCall_calls_ne _ _ hj] at hv
      obtain ⟨hret, hgr⟩ := hinv.verified_returned j a e hv
      exact ⟨hreturns a hret, fun a' => by rw [hgrants]; exact hgr a'⟩
  case grants_done =>
    intro j a hmem
    rw [hgrants] at hmem
    rw [hs]
    exact granted_setCall (s := c.state.setStores _) hnotGranted (hinv.grants_done j a hmem)
  case grants_returned =>
    intro a
    rw [hgrants]
    exact List.Subset.trans (hinv.grants_returned a) (hreturns a)
  case grants_nodup =>
    intro a
    rw [hgrants]
    exact hinv.grants_nodup a

/-- A call that returned forwards one grant. -/
theorem SingleUse.grant {c c' : Config LoginState LoginEvent} {i : ℕ}
    {challengeId email : String} (hinv : SingleUse svc c)
    (hcall : c.state.calls i = .verified challengeId email)
    (hs : c'.state = c.state.setCall i .granted)
    (hhist : c'.history = [.granted i challengeId email] ++ c.history) : SingleUse svc c' := by
  obtain ⟨hreturned, hnotGranted⟩ := hinv.verified_returned i challengeId email hcall
  have hmem : ∀ j a, j ∈ grantsOf a c'.history ↔
      (j = i ∧ a = challengeId) ∨ j ∈ grantsOf a c.history := by
    intro j a
    by_cases ha : challengeId = a
    · simp [hhist, grantsOf, ha]
    · simp [hhist, grantsOf, ha, Ne.symm ha]
  have hreturns : ∀ a, returnsOf a c'.history = returnsOf a c.history := by
    simp [hhist, returnsOf]
  have hremoved : ∀ j a, LoginEvent.removed j a ∈ c'.history ↔ .removed j a ∈ c.history := by
    simp [hhist]
  constructor
  case removed_issued => simpa [hs, hremoved] using hinv.removed_issued
  case removed_gone => simpa [hs, hremoved] using hinv.removed_gone
  case returned_removed => simpa [hreturns, hremoved] using hinv.returned_removed
  case returned_once => simpa [hreturns] using hinv.returned_once
  case verified_returned =>
    intro j a e hv
    rw [hs] at hv
    -- the call that forwarded its grant is no longer waiting to
    have hj : j ≠ i := by
      rintro rfl
      rw [setCall_calls_self] at hv
      exact absurd hv (by simp)
    rw [setCall_calls_ne _ _ hj] at hv
    obtain ⟨hret, hgr⟩ := hinv.verified_returned j a e hv
    refine ⟨by rwa [hreturns], fun a' hin => ?_⟩
    exact ((hmem j a').mp hin).elim (fun h => hj h.1) (hgr a')
  case grants_done =>
    intro j a hin
    rw [hs]
    by_cases hj : j = i
    · rw [hj, setCall_calls_self]
    · rw [setCall_calls_ne _ _ hj]
      exact ((hmem j a).mp hin).elim (fun h => absurd h.1 hj) (hinv.grants_done j a)
  case grants_returned =>
    intro a j hin
    rw [hreturns]
    rcases (hmem j a).mp hin with ⟨rfl, rfl⟩ | hin
    · exact hreturned
    · exact hinv.grants_returned a hin
  case grants_nodup =>
    intro a
    by_cases ha : challengeId = a
    · have hcons : grantsOf a c'.history = i :: grantsOf a c.history := by
        simp [hhist, grantsOf, ha]
      rw [hcons]
      exact List.nodup_cons.mpr ⟨hnotGranted a, hinv.grants_nodup a⟩
    · have hsame : grantsOf a c'.history = grantsOf a c.history := by
        simp [hhist, grantsOf, ha]
      rw [hsame]
      exact hinv.grants_nodup a

/-- **Step lemma for single use.** -/
theorem singleUse_next {c c' : Config LoginState LoginEvent} {l : LoginLabel}
    (hids : IssuedIds svc c.state) (hinv : SingleUse svc c) (hpresent : WritesPresent svc c l)
    (hnext : (loginSystem rt svc).next c l = some c') : SingleUse svc c' := by
  obtain ⟨es, hstep, hhist⟩ := (loginSystem rt svc).next_eq_some.mp hnext
  change loginStep rt svc c.state l = some (c'.state, es) at hstep
  cases l with
  | tick t =>
    obtain ⟨-, hs, rfl⟩ := loginStep_tick hstep
    refine hinv.frame ?_ ?_ ?_ ?_ ?_ ?_ ?_ <;> simp [hs, hhist]
  | start challengeId email code readAt =>
    obtain ⟨-, hcreate, hcalls, rfl⟩ := loginStep_start hstep
    refine hinv.start hcreate hcalls ?_ ?_ ?_ <;> simp [hhist, returnsOf, grantsOf]
  | delivered challengeId outcome =>
    obtain ⟨hdel, hcalls, rfl⟩ := loginStep_delivered hstep
    obtain ⟨-, -, hissued, -, -⟩ := delivered_eq_some hdel
    refine hinv.frame (fun a r => record?_of_delivered hdel) hissued ?_ ?_ ?_ ?_ ?_ <;>
      simp [hcalls, hhist]
  | load i challengeId email code =>
    obtain ⟨hidle, hcase⟩ := loginStep_load hstep
    have hgranted : c.state.calls i ≠ .granted := by rw [hidle]; simp
    rcases hcase with ⟨r, hr, hs, rfl⟩ | ⟨hs, rfl⟩
    · refine hinv.move hgranted (by simp) hs (fun _ _ => recordAt_of_recordAt_load) ?_ ?_ ?_ <;>
        simp [hhist, returnsOf, grantsOf]
    · refine hinv.move hgranted (by simp) hs (fun _ _ => recordAt_of_recordAt_load) ?_ ?_ ?_ <;>
        simp [hhist]
  | check i =>
    obtain ⟨challengeId, email, code, r, hcall, hcase⟩ := loginStep_check hstep
    have hgranted : c.state.calls i ≠ .granted := by rw [hcall]; simp
    rcases hcase with ⟨hs, rfl⟩ | ⟨d, -, -, hs, rfl⟩
    · refine hinv.move hgranted (by simp) hs (fun _ _ hr => hr) ?_ ?_ ?_ <;> simp [hhist]
    · refine hinv.move hgranted (by simp) hs (fun _ _ hr => hr) ?_ ?_ ?_ <;> cases d <;>
        simp [hhist, VerifyDecision.isWrong, returnsOf, grantsOf]
  | write i =>
    obtain ⟨challengeId, email, code, r, d, hcall, hs, rfl⟩ := loginStep_write hstep
    exact hinv.write hids hcall hpresent hs hhist
  | grant i =>
    obtain ⟨challengeId, email, hcall, hs, rfl⟩ := loginStep_grant hstep
    exact hinv.grant hcall hs hhist

/-! ### Whole runs -/

/-- A challenge of the login flow is used once: at most one call returns, at most one grant is
    forwarded, and what a call removed is not in the store. -/
def UsedOnce (svc : OtpService) (challengeId : String) (c : Config LoginState LoginEvent) : Prop :=
  (returnsOf challengeId c.history).length ≤ 1 ∧
  (grantsOf challengeId c.history).length ≤ 1 ∧
  ∀ i, .removed i challengeId ∈ c.history →
    c.state.otp.stores.record? svc .login challengeId = none

/-- **Single use.** In every run in which calls accept, or save back, only while the challenge
    still has a record, every challenge is used once. -/
theorem login_single_use {now : Instant} {ls : List LoginLabel} {c : Config LoginState LoginEvent}
    (hmeets : (loginSystem rt svc).Meets (WritesPresent svc) (Config.start (LoginState.init now))
      ls)
    (hrun : (loginSystem rt svc).run (Config.start (LoginState.init now)) ls = some c)
    (challengeId : String) : UsedOnce svc challengeId c := by
  have hinv : IssuedIds svc c.state ∧ SingleUse svc c :=
    (loginSystem rt svc).invariant_run_of_meets
      (I := fun c => IssuedIds svc c.state ∧ SingleUse svc c)
      (fun _ _ _ h hcond hnext => ⟨issuedIds_next h.1 hnext, singleUse_next h.1 h.2 hcond hnext⟩)
      ⟨issuedIds_init now, singleUse_init now⟩ hmeets hrun
  obtain ⟨-, hinv⟩ := hinv
  -- every granted call returned, and none is granted twice
  have hle : (grantsOf challengeId c.history).length ≤ (returnsOf challengeId c.history).length :=
    (List.subperm_of_subset (hinv.grants_nodup challengeId)
      (hinv.grants_returned challengeId)).length_le
  exact ⟨hinv.returned_once challengeId, hle.trans (hinv.returned_once challengeId),
    fun i hmem => hinv.removed_gone i challengeId hmem⟩

/-- A wrong and a right code that load the challenge together; the wrong one is saved back before
    the right one is accepted, and a third call finds nothing. -/
def sampleTogether : List LoginLabel :=
  [.start sampleToken "ana@ouros.app" "123456" sampleNow,
    .load 0 sampleToken "ana@ouros.app" "000000", .load 1 sampleToken "ana@ouros.app" "123456",
    .check 1, .check 0, .write 0, .delivered sampleToken .sent, .write 1,
    .load 2 sampleToken "ana@ouros.app" "123456", .grant 1]

theorem login_single_use_together :
    ∃ c, (loginSystem .sample (.sample true)).run (Config.start (LoginState.init sampleNow))
        sampleTogether = some c ∧
      returnsOf sampleToken c.history = [1] ∧ UsedOnce (.sample true) sampleToken c := by
  obtain ⟨c, hc, hreturns⟩ := Option.map_eq_some_iff.mp
    (by decide +kernel :
      ((loginSystem .sample (.sample true)).run (Config.start (LoginState.init sampleNow))
        sampleTogether).map (fun c => returnsOf sampleToken c.history) = some [1])
  exact ⟨c, hc, hreturns, login_single_use (by decide +kernel) hc sampleToken⟩

/-- **Single use fails.** A right and a wrong submission load the challenge together.  The right
    one consumes it, the wrong one then saves it back, and the mailed code is good for a second
    grant. -/
theorem login_accepted_twice :
    ∃ ls c, (loginSystem .sample (.sample true)).run (Config.start (LoginState.init sampleNow)) ls =
        some c ∧
      returnsOf sampleToken c.history = [2, 1] ∧ grantsOf sampleToken c.history = [2, 1] ∧
      ¬ UsedOnce (.sample true) sampleToken c := by
  let ls : List LoginLabel :=
    [.start sampleToken "ana@ouros.app" "123456" sampleNow, .delivered sampleToken .sent,
      .load 0 sampleToken "ana@ouros.app" "000000", .load 1 sampleToken "ana@ouros.app" "123456",
      .check 0, .check 1, .write 1, .write 0] ++
    verifyAlone 2 "123456" ++ [.grant 1, .grant 2]
  obtain ⟨c, hc, hout⟩ := Option.map_eq_some_iff.mp
    (by decide +kernel :
      ((loginSystem .sample (.sample true)).run (Config.start (LoginState.init sampleNow)) ls).map
        (fun c => (returnsOf sampleToken c.history, grantsOf sampleToken c.history)) =
          some ([2, 1], [2, 1]))
  rw [Prod.mk.injEq] at hout
  refine ⟨ls, c, hc, hout.1, hout.2, fun hused => ?_⟩
  have := hused.1
  rw [hout.1] at this
  exact absurd this (by decide)

end OurosAuth
