import OurosAuth.Identity.Repository

namespace OurosAuth

/-!
# Starting a password reset

`PasswordResetService.start_reset`: which account, if any, a request gets a challenge for.
-/

/-- The only identity of `valid_identities`, if there is exactly one. -/
def eligibleIdentity (identities : List StoredIdentity) : Option StoredIdentity :=
  match identities.filter fun i => i.accountType.resettable with
  | [identity] => some identity
  | _ => none

/-- An eligible identity is the only resettable one the lookup answered. -/
theorem eligibleIdentity_eq_some {identities : List StoredIdentity} {identity : StoredIdentity} :
    eligibleIdentity identities = some identity ↔
      (identities.filter fun i => i.accountType.resettable) = [identity] := by
  unfold eligibleIdentity
  split
  · rename_i i hi
    rw [hi, Option.some.injEq, List.cons.injEq, and_iff_left rfl]
  · rename_i hnot
    constructor
    · intro h
      exact absurd h (by simp)
    · intro h
      exact absurd h (hnot identity)

/-- It was answered, and its password may be reset. -/
theorem mem_of_eligibleIdentity {identities : List StoredIdentity} {identity : StoredIdentity}
    (h : eligibleIdentity identities = some identity) :
    identity ∈ identities ∧ identity.accountType.resettable = true := by
  have hmem : identity ∈ identities.filter fun i => i.accountType.resettable := by
    rw [eligibleIdentity_eq_some.mp h]
    exact List.mem_singleton_self _
  exact List.mem_filter.mp hmem

end OurosAuth
