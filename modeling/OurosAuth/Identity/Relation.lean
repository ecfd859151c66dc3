import OurosAuth.Identity.Repository
import OurosAuth.Lib.Lists

namespace OurosAuth

open ListTables

/-!
# One identity relation behind both lookups

`IdentityTables.identities` is the relation; `findByEmail` is its part with one address, and
`findByExternalId` its key lookup.
-/

variable {rt : Runtime} {tables : IdentityTables} {email : String} {i : StoredIdentity}

/-! ### The lookup by address -/

/-- A select read back through `_row_to_identity`. -/
theorem map_selectWhere {ρ : Type} {columns : ρ → NormalizedRow} (identity : ρ → StoredIdentity)
    (hcolumns : ∀ row, rowToIdentity (columns row) = identity row) (keep : ρ → Bool)
    (rows : List ρ) :
    (selectWhere columns keep rows).map rowToIdentity = (rows.filter keep).map identity := by
  rw [selectWhere, List.map_map]
  exact List.map_congr_left fun row _ => hcolumns row

/-- The three branches of the union are the identities with the wanted address. -/
theorem map_findIdentitiesUnion (rt : Runtime) (tables : IdentityTables) (wanted : String) :
    (findIdentitiesUnion rt tables wanted).map rowToIdentity =
      tables.identities.filter fun i => rt.pgLower i.email = wanted := by
  rw [findIdentitiesUnion, List.map_append, List.map_append,
    map_selectWhere FarmOwnerRow.identity fun _ => rfl,
    map_selectWhere CompanyEmployeeRow.identity fun _ => rfl,
    map_selectWhere AdmRow.identity fun _ => rfl]
  rw [IdentityTables.identities, List.filter_append, List.filter_append, List.filter_map,
    List.filter_map, List.filter_map]
  rfl

/-- The text of the type column is the value of the identity's type. -/
theorem value_accountType_rowToIdentity (row : NormalizedRow) :
    (rowToIdentity row).accountType.value = row.accountType :=
  AccountType.value_of_ofValue? (Option.some_get row.tagged).symm

theorem AccountType.value_injective : Function.Injective AccountType.value := by
  intro t t' h
  have hread := congrArg AccountType.ofValue? h
  rw [AccountType.ofValue?_value, AccountType.ofValue?_value] at hread
  exact Option.some.inj hread

/-- `WHERE $2::text IS NULL OR account_type = $2::text` -/
theorem accountType_filter (accountType : Option AccountType) (row : NormalizedRow) :
    (accountType.map AccountType.value = none ∨
        accountType.map AccountType.value = some row.accountType) ↔
      (accountType = none ∨ accountType = some (rowToIdentity row).accountType) := by
  rw [← value_accountType_rowToIdentity row]
  cases accountType with
  | none => simp
  | some t => simp [AccountType.value_injective.eq_iff]

/-- The lookup by address answers each matching identity as often as it stands in the tables. -/
theorem findByEmail_perm (rt : Runtime) (tables : IdentityTables) (email : String)
    (accountType : Option AccountType) :
    (findByEmail rt tables email accountType).Perm
      (tables.identities.filter fun i => rt.pgLower i.email = rt.normalizeEmail email ∧
        (accountType = none ∨ accountType = some i.accountType)) := by
  have hunion := map_findIdentitiesUnion rt tables (rt.normalizeEmail email)
  have hmap : ((findIdentitiesUnion rt tables (rt.normalizeEmail email)).filter fun row =>
        accountType.map AccountType.value = none ∨
          accountType.map AccountType.value = some row.accountType).map rowToIdentity =
      tables.identities.filter fun i => rt.pgLower i.email = rt.normalizeEmail email ∧
        (accountType = none ∨ accountType = some i.accountType) := by
    simp only [accountType_filter]
    calc _ = ((findIdentitiesUnion rt tables (rt.normalizeEmail email)).map rowToIdentity).filter
          fun i => accountType = none ∨ accountType = some i.accountType := by
            rw [List.filter_map]
            rfl
      _ = _ := by
            rw [hunion, List.filter_filter]
            refine List.filter_congr fun i _ => ?_
            rw [← Bool.decide_and]
            exact decide_eq_decide.mpr and_comm
  rw [← hmap]
  exact (List.perm_insertionSort _ _).map rowToIdentity

theorem mem_findByEmail {accountType : Option AccountType} :
    i ∈ findByEmail rt tables email accountType ↔
      i ∈ tables.identities ∧ rt.pgLower i.email = rt.normalizeEmail email ∧
        (accountType = none ∨ accountType = some i.accountType) := by
  rw [(findByEmail_perm rt tables email accountType).mem_iff, List.mem_filter, decide_eq_true_iff]

/-! ### The type filter -/

instance : Std.Total NormalizedRow.ordered where
  total a b := by
    unfold NormalizedRow.ordered
    rcases Std.lt_trichotomy a.accountType b.accountType with h | h | h
    · exact Or.inl (Or.inl h)
    · rcases le_total a.databaseId b.databaseId with hle | hle
      · exact Or.inl (Or.inr ⟨h, hle⟩)
      · exact Or.inr (Or.inr ⟨h.symm, hle⟩)
    · exact Or.inr (Or.inl h)

instance : IsTrans NormalizedRow NormalizedRow.ordered where
  trans a b c := by
    rintro (hab | ⟨hab, hle⟩) (hbc | ⟨hbc, hle'⟩)
    · exact Or.inl (String.lt_trans hab hbc)
    · exact Or.inl (hbc ▸ hab)
    · exact Or.inl (hab ▸ hbc)
    · exact Or.inr ⟨hab.trans hbc, hle.trans hle'⟩

/-- A given account type selects its part of the answer, in the same order. -/
theorem findByEmail_some (rt : Runtime) (tables : IdentityTables) (email : String)
    (t : AccountType) :
    findByEmail rt tables email (some t) =
      (findByEmail rt tables email none).filter fun i => i.accountType = t := by
  unfold findByEmail findIdentitiesSql
  simp only [accountType_filter]
  rw [List.filter_map, filter_insertionSort, List.filter_filter]
  congr 2
  refine List.filter_congr fun row _ => ?_
  simp [eq_comm]

/-! ### The lookup by id -/

/-- The answer of a select by a unique id. -/
theorem head?_selectWhere {ρ : Type} {columns : ρ → NormalizedRow} {identity : ρ → StoredIdentity}
    (hcolumns : ∀ row, rowToIdentity (columns row) = identity row) {id : ρ → ℤ} {rows : List ρ}
    (hids : (rows.map id).Nodup) {row : ρ} (hrow : row ∈ rows) :
    (selectWhere columns (fun other => id other = id row) rows).head?.map rowToIdentity =
      some (identity row) := by
  rw [selectWhere, filter_key_eq_singleton id hids hrow]
  exact congrArg some (hcolumns row)

/-- Every identity of the tables is found under its type and id. -/
theorem findByExternalId_of_mem (hids : tables.UniqueIds) (hi : i ∈ tables.identities) :
    findByExternalId tables i.accountType i.databaseId = some i := by
  simp only [IdentityTables.identities, List.mem_append, List.mem_map] at hi
  rcases hi with (⟨row, hrow, rfl⟩ | ⟨row, hrow, rfl⟩) | ⟨row, hrow, rfl⟩
  · exact head?_selectWhere (fun _ => rfl) hids.farmOwners hrow
  · exact head?_selectWhere (fun _ => rfl) hids.companyEmployees hrow
  · exact head?_selectWhere (fun _ => rfl) hids.adms hrow

/-- Unique ids keep the identities apart. -/
theorem identities_nodup (hids : tables.UniqueIds) : tables.identities.Nodup := by
  have hfarm : (tables.farmOwners.map FarmOwnerRow.identity).Nodup :=
    List.Nodup.of_map StoredIdentity.databaseId (by rw [List.map_map]; exact hids.farmOwners)
  have hcompany : (tables.companyEmployees.map CompanyEmployeeRow.identity).Nodup :=
    List.Nodup.of_map StoredIdentity.databaseId (by rw [List.map_map]; exact hids.companyEmployees)
  have hadm : (tables.adms.map AdmRow.identity).Nodup :=
    List.Nodup.of_map StoredIdentity.databaseId (by rw [List.map_map]; exact hids.adms)
  rw [IdentityTables.identities, List.nodup_append, List.nodup_append]
  refine ⟨⟨hfarm, hcompany, ?_⟩, hadm, ?_⟩
  · intro a ha b hb
    obtain ⟨row, -, rfl⟩ := List.mem_map.mp ha
    obtain ⟨row', -, rfl⟩ := List.mem_map.mp hb
    simp [FarmOwnerRow.identity, CompanyEmployeeRow.identity]
  · intro a ha b hb
    obtain ⟨row', -, rfl⟩ := List.mem_map.mp hb
    rcases List.mem_append.mp ha with ha | ha
    · obtain ⟨row, -, rfl⟩ := List.mem_map.mp ha
      simp [FarmOwnerRow.identity, AdmRow.identity]
    · obtain ⟨row, -, rfl⟩ := List.mem_map.mp ha
      simp [CompanyEmployeeRow.identity, AdmRow.identity]

/-- **One relation.** The lookup by address answers exactly the identities with that address, once
    each; a type selects a part of it; and the lookup by id answers each of them again. -/
theorem lookups_agree (hids : tables.UniqueIds) (email : String) :
    (findByEmail rt tables email none).Perm
        (tables.identities.filter fun i => rt.pgLower i.email = rt.normalizeEmail email) ∧
      (findByEmail rt tables email none).Nodup ∧
      (∀ t, findByEmail rt tables email (some t) =
        (findByEmail rt tables email none).filter fun i => i.accountType = t) ∧
      ∀ i ∈ findByEmail rt tables email none,
        findByExternalId tables i.accountType i.databaseId = some i := by
  have hperm : (findByEmail rt tables email none).Perm
      (tables.identities.filter fun i => rt.pgLower i.email = rt.normalizeEmail email) := by
    simpa using findByEmail_perm rt tables email none
  refine ⟨hperm, ?_, findByEmail_some rt tables email, fun i hi => ?_⟩
  · exact hperm.nodup_iff.mpr ((identities_nodup hids).filter _)
  · exact findByExternalId_of_mem hids (mem_findByEmail.mp hi).1

/-- Tables in which one id stands in two tables, and one address in three. -/
def sharedTables : IdentityTables where
  farmOwners := [⟨7, "ana@ouros.app", "bcrypt:Senha@123", some "Ana", some 3, some true⟩,
    ⟨8, "bia@ouros.app", "bcrypt:Senha@123", none, none, none⟩]
  companyEmployees := [⟨7, "ana@ouros.app", "bcrypt:Outra@123", none, some 5⟩]
  adms := [⟨1, "ana@ouros.app", "bcrypt:Senha@123", none⟩]

theorem lookups_agree_shared :
    (findByEmail Runtime.sample sharedTables "ana@ouros.app" none).length = 3 ∧
      ∀ i ∈ findByEmail Runtime.sample sharedTables "ana@ouros.app" none,
        findByExternalId sharedTables i.accountType i.databaseId = some i :=
  ⟨by decide, (lookups_agree ⟨by decide, by decide, by decide⟩ "ana@ouros.app").2.2.2⟩

end OurosAuth
