import OurosAuth.Keycloak.TokenBroker

namespace OurosAuth

/-!
# The broker fails closed

* `SatisfiesContract` — what the claims of an access token must say;
* `validateAccessTokenContract_eq` — the check accepts exactly that, and refuses everything else
  with one exception;
* `RelaysContract` — what a call makes of an outcome of the token request;
* `broker_relays_contract_iff` — when both grants do.
-/

variable {rt : Runtime} {broker : TokenBroker} {claims : TokenClaims} {value : JsonValue}
    {s : String}

/-! ### The contract -/

/-- The claim names an audience, or a list of audiences, with every required one among them. -/
def NamesAudiences (value : JsonValue) : Prop :=
  ∃ names : List String,
    (value = .list (names.map JsonValue.str) ∨ ∃ name, names = [name] ∧ value = .str name) ∧
      ∀ audience ∈ requiredFirstPartyAudiences, audience ∈ names

/-- The claim is a positive integer, as a number or in ASCII digits that `int` converts. -/
def IsPositiveId (value : JsonValue) : Prop :=
  (∃ n : ℤ, 0 < n ∧ value = .int n) ∨
    ∃ s, value = .str s ∧ s.toList.all Char.isDigit = true ∧ s.length ≤ maxStrDigits ∧
      0 < decimalValue s

/-- The contract of an access token. -/
structure SatisfiesContract (broker : TokenBroker) (claims : TokenClaims) : Prop where
  audiences : NamesAudiences (getClaim claims "aud")
  authorizedParty : getClaim claims "azp" = .str broker.clientId
  account : ∃ (t : AccountType) (access : TokenClaims) (roles : List JsonValue),
    getClaim claims "account_type" = .str t.value ∧
      getClaim claims "realm_access" = .object access ∧ getClaim access "roles" = .list roles ∧
        .str t.value ∈ roles
  databaseId : IsPositiveId (getClaim claims "database_id")

/-! ### The checks, one by one -/

/-- Strings have hashes. -/
theorem hashable_of_isStr (h : value.isStr = true) : value.hashable = true := by
  cases value <;> simp_all [JsonValue.isStr, JsonValue.hashable]

/-- A list of strings is the image of one. -/
theorem exists_map_str {items : List JsonValue} (h : items.all JsonValue.isStr = true) :
    ∃ names : List String, items = names.map JsonValue.str := by
  induction items with
  | nil => exact ⟨[], rfl⟩
  | cons item items ih =>
    rw [List.all_cons, Bool.and_eq_true] at h
    obtain ⟨names, rfl⟩ := ih h.2
    cases item with
    | str name => exact ⟨name :: names, rfl⟩
    | _ => exact absurd h.1 (by simp [JsonValue.isStr])

theorem any_equalsStr (names : List String) (audience : String) :
    ((names.map JsonValue.str).any (·.equalsStr audience)) = true ↔ audience ∈ names := by
  simp [List.any_map]

/-- `_audience_set` never raises, and holds the names of the claim. -/
theorem audienceSet_eq (value : JsonValue) :
    ∃ audiences, audienceSet value = .ok audiences ∧
      ((requiredFirstPartyAudiences.all fun audience =>
        audiences.any (·.equalsStr audience)) = true ↔
        NamesAudiences value) := by
  -- a value that is neither a string nor a list of strings names nothing
  have hnone : ∀ value : JsonValue,
      (∀ names : List String, value ≠ .list (names.map JsonValue.str)) →
      (∀ name, value ≠ .str name) → ¬ NamesAudiences value := by
    rintro value hlist hstr ⟨names, hnames | ⟨name, -, hname⟩, -⟩
    · exact hlist names hnames
    · exact hstr name hname
  cases value with
  | str s =>
    refine ⟨[.str s], rfl, ?_⟩
    rw [List.all_eq_true]
    constructor
    · intro hall
      refine ⟨[s], Or.inr ⟨s, rfl, rfl⟩, fun audience haudience => ?_⟩
      exact (any_equalsStr [s] audience).mp (hall audience haudience)
    · rintro ⟨names, hnames | ⟨name, rfl, hname⟩, hall⟩ audience haudience
      · exact absurd hnames (by simp)
      · rw [hname]
        exact (any_equalsStr [name] audience).mpr (hall audience haudience)
  | list items =>
    by_cases hitems : items.all JsonValue.isStr = true
    · obtain ⟨names, rfl⟩ := exists_map_str hitems
      have hhash : (names.map JsonValue.str).all JsonValue.hashable = true :=
        List.all_eq_true.mpr fun item hitem =>
          hashable_of_isStr (List.all_eq_true.mp hitems item hitem)
      refine ⟨names.map JsonValue.str, ?_, ?_⟩
      · simp only [audienceSet, hitems, if_true, setOf, hhash]
      · rw [List.all_eq_true]
        simp only [any_equalsStr]
        constructor
        · exact fun hall => ⟨names, Or.inl rfl, hall⟩
        · rintro ⟨names', hnames | ⟨name, -, hname⟩, hall⟩
          · have hsame : names = names' :=
              List.map_injective_iff.mpr (fun _ _ h => JsonValue.str.inj h)
                (JsonValue.list.inj hnames)
            rwa [hsame]
          · exact absurd hname (by simp)
    · -- one item that is no string empties the whole set
      refine ⟨[], ?_, ?_⟩
      · simp only [audienceSet, if_neg hitems]
      · have hlist : ∀ names : List String,
            JsonValue.list items ≠ .list (names.map JsonValue.str) := by
          intro names hnames
          refine hitems ?_
          rw [JsonValue.list.inj hnames]
          simp [JsonValue.isStr]
        exact iff_of_false (by decide) (hnone _ hlist (by simp))
  | _ => exact ⟨[], rfl, iff_of_false (by decide) (hnone _ (by simp) (by simp))⟩

/-- An ASCII decimal string is a non-empty one of the digits `0` to `9`. -/
theorem asciiDecimal_iff (rt : Runtime) (s : String) :
    (isAscii s && isDecimal rt s) = true ↔ s ≠ "" ∧ s.toList.all Char.isDigit = true := by
  have hascii : ∀ c : Char, c.isDigit = true → c.toNat < 128 := by
    intro c hc
    simp only [Char.isDigit, Bool.and_eq_true, decide_eq_true_eq] at hc
    have hle : c.val.toNat ≤ 57 := hc.2
    exact Nat.lt_of_le_of_lt hle (by norm_num)
  simp only [isAscii, isDecimal, Bool.and_eq_true, List.all_eq_true, decide_eq_true_eq]
  constructor
  · rintro ⟨hall, hne, hdigits⟩
    refine ⟨hne, fun c hc => ?_⟩
    have hdigit := hdigits c hc
    rwa [if_pos (hall c hc)] at hdigit
  · rintro ⟨hne, hdigits⟩
    refine ⟨fun c hc => hascii c (hdigits c hc), hne, fun c hc => ?_⟩
    rw [if_pos (hascii c (hdigits c hc))]
    exact hdigits c hc

/-- `_positive_database_id` accepts a positive id and refuses everything else. -/
theorem positiveDatabaseId_eq (rt : Runtime) (value : JsonValue) :
    (IsPositiveId value ∧ ∃ n, positiveDatabaseId rt value = .ok n) ∨
      (¬ IsPositiveId value ∧
        positiveDatabaseId rt value = unavailable invalidDatabaseIdDetail) := by
  cases value with
  | int n =>
    by_cases hn : n ≤ 0
    · refine Or.inr ⟨?_, by rw [positiveDatabaseId, if_pos hn]⟩
      rintro (⟨m, hm, hmn⟩ | ⟨s, hs, -⟩)
      · rw [JsonValue.int.inj hmn] at hn
        omega
      · exact absurd hs (by simp)
    · exact Or.inl ⟨Or.inl ⟨n, by omega, rfl⟩, n, by rw [positiveDatabaseId, if_neg hn]⟩
  | str s =>
    have hiff : IsPositiveId (.str s) ↔ s.toList.all Char.isDigit = true ∧
        s.length ≤ maxStrDigits ∧ 0 < decimalValue s := by
      simp [IsPositiveId]
    rw [hiff]
    simp only [positiveDatabaseId]
    by_cases hdigits : s ≠ "" ∧ s.toList.all Char.isDigit = true
    · -- digits that are too many for `int()`, then digits whose value is positive or zero
      rw [if_pos ((asciiDecimal_iff rt s).mpr hdigits)]
      by_cases hlong : maxStrDigits < s.length
      · refine Or.inr ⟨fun h => absurd h.2.1 (by omega), ?_⟩
        simp only [intOfDigits, if_pos hlong]
      · simp only [intOfDigits, if_neg hlong]
        by_cases hpos : 0 < decimalValue s
        · have hnot : ¬ (decimalValue s : ℤ) ≤ 0 := by omega
          exact Or.inl ⟨⟨hdigits.2, by omega, hpos⟩, _, if_neg hnot⟩
        · have hzero : (decimalValue s : ℤ) ≤ 0 := by omega
          exact Or.inr ⟨fun h => hpos h.2.2, if_pos hzero⟩
    · -- the empty string has only digits, and no value above zero
      rw [if_neg fun h => hdigits ((asciiDecimal_iff rt s).mp h)]
      refine Or.inr ⟨fun h => hdigits ⟨?_, h.1⟩, rfl⟩
      rintro rfl
      exact absurd h.2.2 (by decide)
  | _ =>
    refine Or.inr ⟨?_, rfl⟩
    rintro (⟨n, -, hn⟩ | ⟨s, hs, -⟩)
    · exact absurd hn (by simp)
    · exact absurd hs (by simp)

/-- The account types are the valid ones. -/
theorem mem_validAccountTypes {s : String} :
    s ∈ validAccountTypes ↔ ∃ t : AccountType, t.value = s := by
  constructor
  · intro h
    simp only [validAccountTypes, List.mem_cons, List.not_mem_nil, or_false] at h
    rcases h with rfl | rfl | rfl
    · exact ⟨.farmOwner, rfl⟩
    · exact ⟨.companyEmployee, rfl⟩
    · exact ⟨.admin, rfl⟩
  · rintro ⟨t, rfl⟩
    cases t <;> decide

/-- The condition on the account role raises on no claims, and holds for a valid type among the
    roles. -/
theorem hasAccountRole_eq (accountType roles : JsonValue) :
    ∃ held, hasAccountRole accountType roles = .ok held ∧
      (held = true ↔ ∃ (t : AccountType) (items : List JsonValue), accountType = .str t.value ∧
        roles = .list items ∧ .str t.value ∈ items) := by
  cases accountType with
  | str s =>
    by_cases hvalid : s ∈ validAccountTypes
    · have hin : inStrings (.str s) validAccountTypes = .ok true := by
        simp [inStrings, JsonValue.hashable, JsonValue.equalsStr, hvalid]
      obtain ⟨t, rfl⟩ := mem_validAccountTypes.mp hvalid
      -- only a list is searched; `in` on anything else is never reached
      cases roles with
      | list items =>
        refine ⟨items.any (·.equalsStr t.value), ?_, ?_⟩
        · rw [hasAccountRole, hin]
          rfl
        · rw [List.any_eq_true]
          simp only [JsonValue.equalsStr_iff]
          constructor
          · rintro ⟨item, hitem, rfl⟩
            exact ⟨t, items, rfl, rfl, hitem⟩
          · rintro ⟨t', items', ht, hitems, hmem⟩
            obtain rfl := JsonValue.list.inj hitems
            rw [← JsonValue.str.inj ht] at hmem
            exact ⟨_, hmem, rfl⟩
      | _ =>
        refine ⟨false, by rw [hasAccountRole, hin]; rfl, iff_of_false (by simp) ?_⟩
        rintro ⟨-, items, -, hitems, -⟩
        exact absurd hitems (by simp)
    · have hnone : validAccountTypes.any (JsonValue.equalsStr (.str s)) = false := by
        rw [List.any_eq_false]
        intro t ht hequal
        exact hvalid (JsonValue.str.inj (JsonValue.equalsStr_iff.mp hequal) ▸ ht)
      have hin : inStrings (.str s) validAccountTypes = .ok false := by
        simp [inStrings, JsonValue.hashable, hnone]
      refine ⟨false, by rw [hasAccountRole, hin]; rfl, iff_of_false (by simp) ?_⟩
      rintro ⟨t, -, ht, -⟩
      exact hvalid (mem_validAccountTypes.mpr ⟨t, (JsonValue.str.inj ht).symm⟩)
  | _ =>
    refine ⟨false, rfl, iff_of_false (by simp) ?_⟩
    rintro ⟨t, -, ht, -⟩
    exact absurd ht (by simp)

/-! ### The access token -/

/-- Reading the roles raises nothing: `realm_access` is only asked for a key when it has keys. -/
theorem realmRoles_eq (realmAccess : JsonValue) :
    ∃ roles, realmRoles realmAccess = .ok roles ∧
      ∀ items, roles = .list items ↔
        ∃ access, realmAccess = .object access ∧ getClaim access "roles" = .list items := by
  cases realmAccess with
  | object access =>
    refine ⟨getClaim access "roles", rfl, fun items => ?_⟩
    constructor
    · exact fun h => ⟨access, rfl, h⟩
    · rintro ⟨access', haccess, h⟩
      rwa [JsonValue.object.inj haccess]
  | _ => exact ⟨.null, rfl, fun items => by simp⟩

/-- The check accepts the claims that satisfy the contract, and refuses all others, with one
    exception. -/
theorem validateAccessTokenContract_eq (rt : Runtime) (broker : TokenBroker) (token : String) :
    (∃ claims, broker.decode token = .ok claims ∧ SatisfiesContract broker claims ∧
        broker.validateAccessTokenContract rt token = .ok claims) ∨
      ((¬ ∃ claims, broker.decode token = .ok claims ∧ SatisfiesContract broker claims) ∧
        ∃ message, broker.validateAccessTokenContract rt token = unavailable message) := by
  unfold TokenBroker.validateAccessTokenContract
  cases hdecode : broker.decode token with
  | error e => exact Or.inr ⟨by simp, _, rfl⟩
  | ok claims =>
    obtain ⟨audiences, haudiences, hnames⟩ := audienceSet_eq (getClaim claims "aud")
    obtain ⟨roles, hroles, hitems⟩ := realmRoles_eq (getClaim claims "realm_access")
    obtain ⟨held, hheld, haccount⟩ := hasAccountRole_eq (getClaim claims "account_type") roles
    have hcontract : SatisfiesContract broker claims ↔
        (requiredFirstPartyAudiences.all fun audience => audiences.any (·.equalsStr audience)) =
            true ∧
          (getClaim claims "azp").equalsStr broker.clientId = true ∧ held = true ∧
            IsPositiveId (getClaim claims "database_id") := by
      rw [hnames, JsonValue.equalsStr_iff, haccount]
      constructor
      · rintro ⟨haud, hazp, ⟨t, access, items, ht, haccess, hrole, hmem⟩, hid⟩
        exact ⟨haud, hazp, ⟨t, items, ht, (hitems items).mpr ⟨access, haccess, hrole⟩, hmem⟩, hid⟩
      · rintro ⟨haud, hazp, ⟨t, items, ht, hlist, hmem⟩, hid⟩
        obtain ⟨access, haccess, hrole⟩ := (hitems items).mp hlist
        exact ⟨haud, hazp, ⟨t, access, items, ht, haccess, hrole, hmem⟩, hid⟩
    simp only [Except.ok.injEq, exists_eq_left', haudiences, hroles, hheld, bind, Except.bind,
      hcontract]
    -- the checks are taken in the order of the source; the first that fails decides
    by_cases haud : (requiredFirstPartyAudiences.all fun audience =>
        audiences.any (·.equalsStr audience)) = true
    · by_cases hazp : (getClaim claims "azp").equalsStr broker.clientId = true
      · by_cases hrole : held = true
        · rcases positiveDatabaseId_eq rt (getClaim claims "database_id") with
            ⟨hid, n, hn⟩ | ⟨hid, hn⟩
          · exact Or.inl ⟨⟨haud, hazp, hrole, hid⟩,
              by simp [haud, hazp, hrole, hn, pure, Except.pure]⟩
          · exact Or.inr ⟨fun h => hid h.2.2.2, _,
              by simp [haud, hazp, hrole, hn, unavailable]; rfl⟩
        · exact Or.inr ⟨fun h => hrole h.2.2.1, _, by simp [haud, hazp, hrole]; rfl⟩
      · exact Or.inr ⟨fun h => hazp h.2.1, _, by simp [haud, hazp]; rfl⟩
    · exact Or.inr ⟨fun h => haud h.1, _, by simp [haud]; rfl⟩

/-! ### One grant -/

/-- The token request was answered with a document whose access token satisfies the contract. -/
def Accepts (broker : TokenBroker) (outcome : PostOutcome)
    (document : KeycloakTokenResponse) : Prop :=
  ∃ body claims, outcome = .response 200 (.document body) ∧
    KeycloakTokenResponse.modelValidate broker.laxInt body = some document ∧
      broker.decode document.accessToken = .ok claims ∧ SatisfiesContract broker claims

/-- Keycloak refused the grant itself. -/
def RefusesGrant (outcome : PostOutcome) : Prop :=
  ∃ status body, outcome = .response status body ∧ (status = 400 ∨ status = 401)

/-- What a call makes of an outcome of the token request: a document that the contract covers, the
    error for refused credentials, or `KeycloakTokenBrokerUnavailable` for everything else. -/
structure RelaysContract (broker : TokenBroker) (outcome : PostOutcome)
    (result : Except CallRaised KeycloakTokenResponse) : Prop where
  accepts : ∀ document, result = .ok document ↔ Accepts broker outcome document
  refuses : RefusesGrant outcome → result = .error (.api .invalidCredentials)
  closed : ∀ raised, result = .error raised → ¬ RefusesGrant outcome →
    ∃ message, raised = .api (.keycloakTokenBrokerUnavailable message)

/-- A call that ends in `KeycloakTokenBrokerUnavailable`, as it has to. -/
theorem relaysContract_of_unavailable {outcome : PostOutcome} (message : String)
    (hgrant : ¬ RefusesGrant outcome) (hnone : ∀ document, ¬ Accepts broker outcome document) :
    RelaysContract broker outcome (unavailable message) where
  accepts := fun document => iff_of_false (by simp [unavailable]) (hnone document)
  refuses := fun h => absurd h hgrant
  closed := fun _ hraised _ => ⟨message, (Except.error.inj hraised).symm⟩

/-- A body that validates gives one document, accepted as its access token is. -/
theorem accepts_iff_of_valid {body : JsonValue} {document document' : KeycloakTokenResponse}
    (hdocument : KeycloakTokenResponse.modelValidate broker.laxInt body = some document) :
    Accepts broker (.response 200 (.document body)) document' ↔
      document' = document ∧ ∃ claims, broker.decode document.accessToken = .ok claims ∧
        SatisfiesContract broker claims := by
  constructor
  · rintro ⟨_, claims, h, hdocument', hdecode, hcontract⟩
    obtain rfl := JsonBody.document.inj (PostOutcome.response.inj h).2
    obtain rfl := Option.some.inj (hdocument'.symm.trans hdocument)
    exact ⟨rfl, claims, hdecode, hcontract⟩
  · rintro ⟨rfl, claims, hdecode, hcontract⟩
    exact ⟨body, claims, rfl, hdocument, hdecode, hcontract⟩

/-- Outcomes that the clauses of `_exchange_token` catch no exception of. -/
inductive PostOutcome.Uncaught : PostOutcome → Prop
  /-- the request ends in an exception that is no `httpx.HTTPError` -/
  | raised (error : PyError) : Uncaught (.raised error)
  /-- a body nested too deep: a `RecursionError` is neither a `ValueError` nor a `TypeError` -/
  | tooDeep : Uncaught (.response 200 .tooDeep)

/-- The exception then leaves the call. -/
theorem exchangeToken_uncaught {secret : String} (hsecret : broker.clientSecret = some secret)
    (rt : Runtime) {form : Form} (huncaught : (broker.post form).Uncaught) :
    ∃ error, broker.exchangeToken rt form = .error (.python error) := by
  simp only [TokenBroker.exchangeToken, hsecret]
  generalize broker.post form = outcome at huncaught ⊢
  cases huncaught with
  | raised error => exact ⟨error, rfl⟩
  | tooDeep => exact ⟨.recursionError, rfl⟩

/-- A body that the parser reads to its end gives a document, or is invalid. -/
theorem ofBody_cases (laxInt : JsonValue → Option ℤ) {body : JsonBody} (hbody : body ≠ .tooDeep) :
    (∃ value document, body = .document value ∧
        KeycloakTokenResponse.modelValidate laxInt value = some document ∧
        KeycloakTokenResponse.ofBody laxInt body = .ok document) ∨
      (KeycloakTokenResponse.ofBody laxInt body = .error .valueError ∧ ∀ value,
        body = .document value → KeycloakTokenResponse.modelValidate laxInt value = none) := by
  cases body with
  | tooDeep => exact absurd rfl hbody
  | document value =>
    cases hvalid : KeycloakTokenResponse.modelValidate laxInt value with
    | none =>
      refine Or.inr ⟨?_, fun value' h => JsonBody.document.inj h ▸ hvalid⟩
      simp [KeycloakTokenResponse.ofBody, JsonBody.json, bind, Except.bind, hvalid]
    | some document =>
      refine Or.inl ⟨value, document, rfl, hvalid, ?_⟩
      simp [KeycloakTokenResponse.ofBody, JsonBody.json, bind, Except.bind, hvalid, pure,
        Except.pure]
  | _ => exact Or.inr ⟨rfl, fun value h => absurd h (by simp)⟩

/-- Every other outcome is relayed as the contract says. -/
theorem exchangeToken_relays {secret : String} (hsecret : broker.clientSecret = some secret)
    (rt : Runtime) {form : Form} (hcaught : ¬ (broker.post form).Uncaught) :
    RelaysContract broker (broker.post form) (broker.exchangeToken rt form) := by
  simp only [TokenBroker.exchangeToken, hsecret]
  generalize broker.post form = outcome at hcaught ⊢
  cases outcome with
  | httpError =>
    refine relaysContract_of_unavailable _ ?_ ?_
    · rintro ⟨_, _, h, -⟩
      exact absurd h (by simp)
    · rintro document ⟨_, _, h, -⟩
      exact absurd h (by simp)
  | raised error => exact absurd (.raised error) hcaught
  | response status body =>
    simp only
    -- the branches of the source in their order: 400 and 401, any other status, then the body
    by_cases hgrant : status = 400 ∨ status = 401
    · rw [if_pos hgrant]
      have hrefuses : RefusesGrant (.response status body) := ⟨status, body, rfl, hgrant⟩
      refine ⟨fun document => iff_of_false (by simp) ?_, fun _ => rfl,
        fun _ _ h => absurd hrefuses h⟩
      rintro ⟨_, _, h, -⟩
      obtain ⟨rfl, -⟩ := PostOutcome.response.inj h
      omega
    · have hnot : ¬ RefusesGrant (.response status body) := by
        rintro ⟨status', _, h, hstatus⟩
        obtain ⟨rfl, -⟩ := PostOutcome.response.inj h
        exact hgrant hstatus
      rw [if_neg hgrant]
      by_cases hok : status = 200
      · subst hok
        rw [if_neg (by simp)]
        -- a body that raises is what `hcaught` rules out
        have hbody : body ≠ .tooDeep := fun h => hcaught (h ▸ .tooDeep)
        rcases ofBody_cases broker.laxInt hbody with
          ⟨value, document, rfl, hvalid, hread⟩ | ⟨hread, hinvalid⟩
        · rcases validateAccessTokenContract_eq rt broker document.accessToken with
            ⟨claims, hdecode, hcontract, hvalidate⟩ | ⟨hrefused, message, hvalidate⟩
          · simp only [hread, hvalidate, bind, Except.bind, pure, Except.pure]
            refine ⟨fun document' => ?_, fun h => absurd h hnot, fun _ h => absurd h (by simp)⟩
            rw [accepts_iff_of_valid hvalid, Except.ok.injEq]
            exact ⟨fun h => ⟨h.symm, claims, hdecode, hcontract⟩, fun h => h.1.symm⟩
          · simp only [hread, hvalidate]
            refine relaysContract_of_unavailable message hnot fun document' h => ?_
            exact hrefused ((accepts_iff_of_valid hvalid).mp h).2
        · simp only [hread]
          refine relaysContract_of_unavailable _ hnot ?_
          rintro document ⟨value, _, h, hdocument, -⟩
          rw [hinvalid value (PostOutcome.response.inj h).2] at hdocument
          exact absurd hdocument (by simp)
      · rw [if_pos hok]
        refine relaysContract_of_unavailable _ hnot ?_
        rintro document ⟨_, _, h, -⟩
        exact hok (PostOutcome.response.inj h).1

/-- An uncaught outcome refuses no grant: Keycloak did not answer 400 or 401. -/
theorem not_refusesGrant_of_uncaught {outcome : PostOutcome} (h : outcome.Uncaught) :
    ¬ RefusesGrant outcome := by
  rintro ⟨status, body, rfl, hstatus⟩
  cases h
  omega

/-- One grant, with the client secret configured, keeps the contract for all outcomes but the
    uncaught ones. -/
theorem exchangeToken_relays_iff {secret : String} (hsecret : broker.clientSecret = some secret)
    (rt : Runtime) (form : Form) :
    RelaysContract broker (broker.post form) (broker.exchangeToken rt form) ↔
      ¬ (broker.post form).Uncaught := by
  refine ⟨fun h huncaught => ?_, exchangeToken_relays hsecret rt⟩
  obtain ⟨error, hraised⟩ := exchangeToken_uncaught hsecret rt huncaught
  obtain ⟨message, hmessage⟩ := h.closed _ hraised (not_refusesGrant_of_uncaught huncaught)
  exact absurd hmessage (by simp)

/-- **The broker.** Both grants return a document exactly when the answer satisfies the contract,
    report refused credentials as such and end in `KeycloakTokenBrokerUnavailable` otherwise, if and
    only if the request ended in none of the exceptions that nothing catches. -/
theorem broker_relays_contract_iff (rt : Runtime) {secret : String}
    (hsecret : broker.clientSecret = some secret) :
    (∀ email password, RelaysContract broker
        (broker.post (broker.passwordForm secret email password))
        (broker.issuePasswordToken rt email password) ↔
        ¬ (broker.post (broker.passwordForm secret email password)).Uncaught) ∧
      ∀ token, RelaysContract broker (broker.post (broker.refreshForm secret token))
        (broker.refreshToken rt token) ↔
        ¬ (broker.post (broker.refreshForm secret token)).Uncaught := by
  constructor
  · intro email password
    rw [TokenBroker.issuePasswordToken, hsecret]
    exact exchangeToken_relays_iff hsecret rt _
  · intro token
    rw [TokenBroker.refreshToken, hsecret]
    exact exchangeToken_relays_iff hsecret rt _

/-- Claims that satisfy the contract; the roles need not all be strings. -/
def sampleTokenClaims : TokenClaims :=
  [("aud", .list (requiredFirstPartyAudiences.map JsonValue.str)),
    ("azp", .str "ms-auth-service-broker"), ("account_type", .str "farm_owner"),
    ("realm_access", .object [("roles", .list [.list [.null], .str "farm_owner"])]),
    ("database_id", .str "0042")]

/-- A broker whose Keycloak answers each grant with one document. -/
def sampleBroker : TokenBroker where
  clientId := "ms-auth-service-broker"
  clientSecret := some "broker-secret"
  scope := "openid ouros-identity offline_access"
  post := fun _ => .response 200 (.document (.object [("access_token", .str "rotated-access-token"),
    ("expires_in", .int 600), ("token_type", .str "Bearer")]))
  decode := fun _ => .ok sampleTokenClaims
  laxInt := fun value => match value with
    | .int n => some n
    | _ => none

theorem broker_relays_contract_iff_sample :
    RelaysContract sampleBroker
      (sampleBroker.post (sampleBroker.refreshForm "broker-secret" "old-refresh-token"))
      (sampleBroker.refreshToken Runtime.sample "old-refresh-token") ↔
      ¬ (sampleBroker.post
        (sampleBroker.refreshForm "broker-secret" "old-refresh-token")).Uncaught :=
  (broker_relays_contract_iff Runtime.sample rfl).2 "old-refresh-token"

example : (sampleBroker.refreshToken Runtime.sample "old-refresh-token").isOk = true := by
  decide +kernel

/-- A broker whose Keycloak answers each grant with arrays nested thousands deep. -/
def deepBroker : TokenBroker := { sampleBroker with post := fun _ => .response 200 .tooDeep }

/-- Both grants then raise `RecursionError`, which is not an error of the broker. -/
theorem recursion_error_escapes :
    (deepBroker.issuePasswordToken Runtime.sample "ana@ouros.app" "Segredo#2024" =
        .error (.python .recursionError) ∧
      deepBroker.refreshToken Runtime.sample "old-refresh-token" =
        .error (.python .recursionError)) ∧
    ¬ ∀ (rt : Runtime) (broker : TokenBroker) (secret : String),
      broker.clientSecret = some secret → ∀ email password, RelaysContract broker
        (broker.post (broker.passwordForm secret email password))
        (broker.issuePasswordToken rt email password) := by
  have hraised : deepBroker.issuePasswordToken Runtime.sample "ana@ouros.app" "Segredo#2024" =
      .error (.python .recursionError) := rfl
  refine ⟨⟨hraised, rfl⟩, fun h => ?_⟩
  have hrelays := h Runtime.sample deepBroker "broker-secret" rfl "ana@ouros.app" "Segredo#2024"
  obtain ⟨message, hmessage⟩ :=
    hrelays.closed _ hraised (not_refusesGrant_of_uncaught .tooDeep)
  exact absurd hmessage (by simp)

end OurosAuth
