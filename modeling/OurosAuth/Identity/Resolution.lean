import OurosAuth.Identity.Relation

namespace OurosAuth

/-!
# Which account do credentials, or an address, resolve to?

* `IdentityTables.matching` — the identities with an address whose hash verifies a password;
* `verifyCredentials_eq_ok` / `verifyCredentials_eq_ambiguous` — the check counts them;
* `ambiguity_resolved_iff` — when the retry with an account type resolves an ambiguity;
* `bridge_resolves` — what the lookup of the Keycloak bridge answers for verified credentials.
-/

variable {rt : Runtime} {tables : IdentityTables} {email password : String} {i : StoredIdentity}

/-- `AuthService.lookup_identity_by_email`, up to the shape of its answer. -/
def lookupIdentityByEmail (rt : Runtime) (tables : IdentityTables) (email : String) :
    Except ApiError (Option StoredIdentity) :=
  match findByEmail rt tables email none with
  | [] => .ok none
  | [identity] => .ok (some identity)
  | _ :: _ :: _ => .error .ambiguousIdentity

/-- The identities of the tables with this address. -/
def IdentityTables.withEmail (tables : IdentityTables) (rt : Runtime) (email : String) :
    List StoredIdentity :=
  tables.identities.filter fun i => rt.pgLower i.email = rt.normalizeEmail email

/-- Those whose hash verifies the password. -/
def IdentityTables.matching (tables : IdentityTables) (rt : Runtime) (email password : String) :
    List StoredIdentity :=
  (tables.withEmail rt email).filter fun i => rt.verifyPassword password i.passwordHash

/-! ### Counting the matches -/

/-- What the check filters is what matches, restricted to the given account type. -/
theorem matches_perm (rt : Runtime) (tables : IdentityTables) (email password : String)
    (accountType : Option AccountType) :
    ((findByEmail rt tables email accountType).filter fun i =>
        rt.verifyPassword password i.passwordHash).Perm
      ((tables.matching rt email password).filter fun i =>
        accountType = none ∨ accountType = some i.accountType) := by
  have hperm := (findByEmail_perm rt tables email accountType).filter fun i =>
    rt.verifyPassword password i.passwordHash
  refine hperm.trans (List.Perm.of_eq ?_)
  rw [IdentityTables.matching, IdentityTables.withEmail, List.filter_filter, List.filter_filter,
    List.filter_filter]
  refine List.filter_congr fun i _ => ?_
  rw [Bool.decide_and]
  ac_rfl

/-- The check returns an identity when it is the only match. -/
theorem verifyCredentials_eq_ok {accountType : Option AccountType} :
    verifyCredentials rt tables email password accountType = .ok i ↔
      ((tables.matching rt email password).filter fun i =>
        accountType = none ∨ accountType = some i.accountType) = [i] := by
  have hperm := matches_perm rt tables email password accountType
  unfold verifyCredentials
  split
  · rename_i hnil
    rw [hnil] at hperm
    rw [List.nil_perm.mp hperm]
    simp
  · rename_i j hj
    rw [hj] at hperm
    rw [← List.singleton_perm.mp hperm]
    simp
  · rename_i j j' rest hj
    rw [hj] at hperm
    constructor
    · intro h
      exact absurd h (by simp)
    · intro h
      rw [h] at hperm
      exact absurd hperm.length_eq (by simp)

/-- It calls the credentials ambiguous when there are at least two. -/
theorem verifyCredentials_eq_ambiguous {accountType : Option AccountType} :
    verifyCredentials rt tables email password accountType = .error .ambiguousIdentity ↔
      2 ≤ ((tables.matching rt email password).filter fun i =>
        accountType = none ∨ accountType = some i.accountType).length := by
  rw [← (matches_perm rt tables email password accountType).length_eq]
  unfold verifyCredentials
  split
  · rename_i hnil
    simp [hnil]
  · rename_i j hj
    simp [hj]
  · rename_i j j' rest hj
    simp [hj]

/-! ### Retrying with an account type -/

/-- What is promised of an ambiguous match: the check counts the matches, and a retry with the
    type of a match returns it. -/
structure AmbiguityResolved (rt : Runtime) (tables : IdentityTables) (email password : String) :
    Prop where
  one : ∀ i, verifyCredentials rt tables email password none = .ok i ↔
    tables.matching rt email password = [i]
  many : verifyCredentials rt tables email password none = .error .ambiguousIdentity ↔
    2 ≤ (tables.matching rt email password).length
  retry : verifyCredentials rt tables email password none = .error .ambiguousIdentity →
    ∀ i ∈ tables.matching rt email password,
      verifyCredentials rt tables email password (some i.accountType) = .ok i

/-- Without an account type every match counts. -/
theorem matching_of_none (l : List StoredIdentity) :
    (l.filter fun i => (none : Option AccountType) = none ∨ none = some i.accountType) = l := by
  simp

/-- A retry with type `t` counts the matches of that type. -/
theorem matching_of_type (l : List StoredIdentity) (t : AccountType) :
    (l.filter fun i => some t = none ∨ some t = some i.accountType) =
      l.filter fun i => i.accountType = t := by
  refine List.filter_congr fun i _ => decide_eq_decide.mpr ?_
  simp [eq_comm]

/-- **Ambiguous credentials.** The retry with an account type resolves every ambiguity exactly when
    no table has two rows that match. -/
theorem ambiguity_resolved_iff (rt : Runtime) (tables : IdentityTables) (email password : String) :
    AmbiguityResolved rt tables email password ↔
      ∀ t, ((tables.matching rt email password).filter fun i => i.accountType = t).length ≤ 1 := by
  have hmany : verifyCredentials rt tables email password none = .error .ambiguousIdentity ↔
      2 ≤ (tables.matching rt email password).length := by
    rw [verifyCredentials_eq_ambiguous, matching_of_none]
  constructor
  · intro hresolved t
    by_contra htwo
    have hlong : 2 ≤ ((tables.matching rt email password).filter fun i =>
        i.accountType = t).length := by omega
    have hambiguous := hmany.mpr (hlong.trans (List.length_filter_le _ _))
    obtain ⟨i, hi⟩ := List.exists_mem_of_length_pos (Nat.lt_of_lt_of_le Nat.zero_lt_two hlong)
    obtain ⟨himem, hit⟩ := List.mem_filter.mp hi
    have hretry := verifyCredentials_eq_ok.mp (hresolved.retry hambiguous i himem)
    rw [matching_of_type, of_decide_eq_true hit] at hretry
    rw [hretry] at hlong
    exact absurd hlong (by simp)
  · intro hsingle
    refine ⟨fun i => ?_, hmany, fun _ i hi => ?_⟩
    · rw [verifyCredentials_eq_ok, matching_of_none]
    · rw [verifyCredentials_eq_ok, matching_of_type]
      have himem : i ∈ (tables.matching rt email password).filter fun j =>
          j.accountType = i.accountType := List.mem_filter.mpr ⟨hi, by simp⟩
      obtain ⟨j, hj⟩ := List.length_eq_one_iff.mp
        (le_antisymm (hsingle i.accountType) (List.length_pos_of_mem himem))
      rw [hj] at himem ⊢
      rw [List.mem_singleton.mp himem]

/-- A runtime whose database folds the case of an address. -/
def foldingRuntime : Runtime :=
  { Runtime.sample with pgLower := fun s => String.ofList (s.toList.map Char.toLower) }

/-- Two farm owners whose addresses differ in letter case, with one password. -/
def twoSpellings : IdentityTables where
  farmOwners := [⟨7, "ana@ouros.app", "bcrypt:Senha@123", some "Ana", some 3, some true⟩,
    ⟨8, "Ana@Ouros.app", "bcrypt:Senha@123", some "Ana", some 4, some true⟩]
  companyEmployees := []
  adms := []

/-- **The retry need not help.** Both rows match, and with the account type they still do. -/
theorem retry_still_ambiguous :
    twoSpellings.UniqueIds ∧ twoSpellings.matching foldingRuntime "ana@ouros.app" "Senha@123" ≠ [] ∧
      verifyCredentials foldingRuntime twoSpellings "ana@ouros.app" "Senha@123" none =
        .error .ambiguousIdentity ∧
      (∀ t, verifyCredentials foldingRuntime twoSpellings "ana@ouros.app" "Senha@123" (some t) =
        .error (if t = .farmOwner then .ambiguousIdentity else .invalidCredentials)) ∧
      ¬ AmbiguityResolved foldingRuntime twoSpellings "ana@ouros.app" "Senha@123" := by
  have hambiguous : ∀ t, verifyCredentials foldingRuntime twoSpellings "ana@ouros.app" "Senha@123"
      (some t) = .error (if t = .farmOwner then .ambiguousIdentity else .invalidCredentials) := by
    intro t
    cases t <;> decide +kernel
  have hnone : verifyCredentials foldingRuntime twoSpellings "ana@ouros.app" "Senha@123" none =
      .error .ambiguousIdentity := by decide +kernel
  have hmatch : ⟨8, "Ana@Ouros.app", "bcrypt:Senha@123", .farmOwner, some "Ana", some 4, none,
      some true⟩ ∈ twoSpellings.matching foldingRuntime "ana@ouros.app" "Senha@123" := by
    decide +kernel
  refine ⟨⟨by decide, by decide, by decide⟩, List.ne_nil_of_mem hmatch, hnone, hambiguous, ?_⟩
  intro hresolved
  have hretry := hresolved.retry hnone _ hmatch
  rw [hambiguous] at hretry
  exact absurd hretry (by simp)

/-! ### The lookup of the bridge -/

/-- **The bridge.** For verified credentials it answers their identity or calls the address
    ambiguous; the first when no other row has the address. -/
theorem bridge_resolves (h : verifyCredentials rt tables email password none = .ok i) :
    (lookupIdentityByEmail rt tables email = .ok (some i) ∨
        lookupIdentityByEmail rt tables email = .error .ambiguousIdentity) ∧
      (lookupIdentityByEmail rt tables email = .ok (some i) ↔ tables.withEmail rt email = [i]) := by
  have hperm : (findByEmail rt tables email none).Perm (tables.withEmail rt email) := by
    simpa [IdentityTables.withEmail] using findByEmail_perm rt tables email none
  have hi := (verifyCredentials_ok h).1
  unfold lookupIdentityByEmail
  split
  · rename_i hnil
    rw [hnil] at hi
    exact absurd hi List.not_mem_nil
  · rename_i j hj
    rw [hj] at hperm hi
    obtain rfl := List.mem_singleton.mp hi
    exact ⟨Or.inl rfl, by simp [← List.singleton_perm.mp hperm]⟩
  · rename_i j j' rest hj
    rw [hj] at hperm
    refine ⟨Or.inr rfl, ?_⟩
    constructor
    · intro hok
      exact absurd hok (by simp)
    · intro hone
      rw [hone] at hperm
      exact absurd hperm.length_eq (by simp)

/-- An address that one table has once resolves for its owner. -/
theorem bridge_resolves_bia :
    lookupIdentityByEmail Runtime.sample sharedTables "bia@ouros.app" =
      .ok (some ⟨8, "bia@ouros.app", "bcrypt:Senha@123", .farmOwner, none, none, none, none⟩) := by
  have hverified : verifyCredentials Runtime.sample sharedTables "bia@ouros.app" "Senha@123" none =
      .ok ⟨8, "bia@ouros.app", "bcrypt:Senha@123", .farmOwner, none, none, none, none⟩ := by
    decide +kernel
  exact (bridge_resolves hverified).2.mpr (by decide +kernel)

/-- **The bridge may refuse.** The password tells the farm owner from the employee with the same
    address; the bridge has no password to look at. -/
theorem bridge_refuses :
    verifyCredentials Runtime.sample sharedTables "ana@ouros.app" "Outra@123" none =
        .ok ⟨7, "ana@ouros.app", "bcrypt:Outra@123", .companyEmployee, none, none, some 5, none⟩ ∧
      lookupIdentityByEmail Runtime.sample sharedTables "ana@ouros.app" =
        .error .ambiguousIdentity := by
  decide +kernel

end OurosAuth
