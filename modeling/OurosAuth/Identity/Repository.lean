import OurosAuth.Core.Errors
import OurosAuth.Core.Runtime
import Mathlib.Data.List.Sort

namespace OurosAuth

/-!
# Identities

`IdentityRepository.find_by_email` over the three account tables, and
`AuthService.verify_credentials` on what it answers.
-/

/-- `AccountType` -/
inductive AccountType
  | farmOwner
  | companyEmployee
  | admin
  deriving DecidableEq

/-- `AccountType.value` -/
def AccountType.value : AccountType → String
  | .farmOwner => "farm_owner"
  | .companyEmployee => "company_employee"
  | .admin => "admin"

/-- `AccountType(value)`; `none` is its `ValueError`. -/
def AccountType.ofValue? (value : String) : Option AccountType :=
  [AccountType.farmOwner, .companyEmployee, .admin].find? fun t => t.value = value

@[simp] theorem AccountType.ofValue?_value (t : AccountType) : ofValue? t.value = some t := by
  cases t <;> decide

/-- An account type is read back from its own value only. -/
theorem AccountType.value_of_ofValue? {value : String} {t : AccountType}
    (h : ofValue? value = some t) : t.value = value := by
  have := List.find?_some h
  simpa using this

/-- The account types whose password the reset flow may change. -/
def AccountType.resettable : AccountType → Bool
  | .farmOwner => true
  | .companyEmployee => true
  | .admin => false

/-- `StoredIdentity` -/
structure StoredIdentity where
  databaseId : ℤ
  email : String
  passwordHash : String
  accountType : AccountType
  name : Option String
  farmId : Option ℤ
  enterpriseId : Option ℤ
  firstAccess : Option Bool
  deriving DecidableEq

/-! ### The tables

The columns that `StoredIdentity` declares `str` or `int` are never `NULL`. -/

/-- A row of `farm_owners`. -/
structure FarmOwnerRow where
  id : ℤ
  email : String
  password : String
  name : Option String
  idFarm : Option ℤ
  firstAccess : Option Bool

/-- A row of `company_employees`. -/
structure CompanyEmployeeRow where
  id : ℤ
  email : String
  password : String
  name : Option String
  idEnterprise : Option ℤ

/-- A row of `adms`. -/
structure AdmRow where
  id : ℤ
  email : String
  password : String
  name : Option String

/-- The tables `farm_owners`, `company_employees` and `adms`. -/
structure IdentityTables where
  farmOwners : List FarmOwnerRow
  companyEmployees : List CompanyEmployeeRow
  adms : List AdmRow

/-! ### The queries -/

/-- One normalized database row, tagged with the value of an account type. -/
structure NormalizedRow where
  databaseId : ℤ
  email : String
  passwordHash : String
  accountType : String
  name : Option String
  farmId : Option ℤ
  enterpriseId : Option ℤ
  firstAccess : Option Bool
  tagged : (AccountType.ofValue? accountType).isSome = true := by decide

/-- `SELECT columns FROM rows WHERE keep` -/
def selectWhere {ρ : Type} (columns : ρ → NormalizedRow) (keep : ρ → Bool) (rows : List ρ) :
    List NormalizedRow :=
  (rows.filter keep).map columns

/-- `ORDER BY account_type, database_id` -/
def NormalizedRow.ordered (a b : NormalizedRow) : Prop :=
  a.accountType < b.accountType ∨ (a.accountType = b.accountType ∧ a.databaseId ≤ b.databaseId)

instance : DecidableRel NormalizedRow.ordered := fun _ _ => inferInstanceAs (Decidable (_ ∨ _))

/-- `_FIND_IDENTITIES_SQL`, before its `ORDER BY` -/
def findIdentitiesUnion (rt : Runtime) (tables : IdentityTables) (wanted : String) :
    List NormalizedRow :=
  selectWhere
    (fun row =>
      { databaseId := row.id
        email := row.email
        passwordHash := row.password
        accountType := "farm_owner"
        name := row.name
        farmId := row.idFarm
        enterpriseId := none
        firstAccess := row.firstAccess })
    (fun row => rt.pgLower row.email = wanted) tables.farmOwners ++
  selectWhere
    (fun row =>
      { databaseId := row.id
        email := row.email
        passwordHash := row.password
        accountType := "company_employee"
        name := row.name
        farmId := none
        enterpriseId := row.idEnterprise
        firstAccess := none })
    (fun row => rt.pgLower row.email = wanted) tables.companyEmployees ++
  selectWhere
    (fun row =>
      { databaseId := row.id
        email := row.email
        passwordHash := row.password
        accountType := "admin"
        name := row.name
        farmId := none
        enterpriseId := none
        firstAccess := none })
    (fun row => rt.pgLower row.email = wanted) tables.adms

/-- `_FIND_IDENTITIES_SQL` -/
def findIdentitiesSql (rt : Runtime) (tables : IdentityTables) (wanted : String)
    (accountType : Option String) : List NormalizedRow :=
  ((findIdentitiesUnion rt tables wanted).filter fun row =>
    accountType = none ∨ accountType = some row.accountType).insertionSort NormalizedRow.ordered

/-- `_FIND_BY_ID_SQL` -/
def findByIdSql (tables : IdentityTables) (databaseId : ℤ) : AccountType → List NormalizedRow
  | .farmOwner =>
      selectWhere
        (fun row =>
          { databaseId := row.id
            email := row.email
            passwordHash := row.password
            accountType := "farm_owner"
            name := row.name
            farmId := row.idFarm
            enterpriseId := none
            firstAccess := row.firstAccess })
        (fun row => row.id = databaseId) tables.farmOwners
  | .companyEmployee =>
      selectWhere
        (fun row =>
          { databaseId := row.id
            email := row.email
            passwordHash := row.password
            accountType := "company_employee"
            name := row.name
            farmId := none
            enterpriseId := row.idEnterprise
            firstAccess := none })
        (fun row => row.id = databaseId) tables.companyEmployees
  | .admin =>
      selectWhere
        (fun row =>
          { databaseId := row.id
            email := row.email
            passwordHash := row.password
            accountType := "admin"
            name := row.name
            farmId := none
            enterpriseId := none
            firstAccess := none })
        (fun row => row.id = databaseId) tables.adms

/-- `_row_to_identity`.  `AccountType(row["account_type"])` cannot raise on a tagged row. -/
def rowToIdentity (row : NormalizedRow) : StoredIdentity where
  databaseId := row.databaseId
  email := row.email
  passwordHash := row.passwordHash
  accountType := (AccountType.ofValue? row.accountType).get row.tagged
  name := row.name
  farmId := row.farmId
  enterpriseId := row.enterpriseId
  firstAccess := row.firstAccess

/-- `IdentityRepository.find_by_email` -/
def findByEmail (rt : Runtime) (tables : IdentityTables) (email : String)
    (accountType : Option AccountType) : List StoredIdentity :=
  (findIdentitiesSql rt tables (rt.normalizeEmail email) (accountType.map AccountType.value)).map
    rowToIdentity

/-- `IdentityRepository.find_by_external_id`, on an id that the column can hold -/
def findByExternalId (tables : IdentityTables) (accountType : AccountType) (databaseId : ℤ) :
    Option StoredIdentity :=
  (findByIdSql tables databaseId accountType).head?.map rowToIdentity

/-! ### The identity relation -/

/-- The identity a row of `farm_owners` stands for. -/
def FarmOwnerRow.identity (row : FarmOwnerRow) : StoredIdentity :=
  ⟨row.id, row.email, row.password, .farmOwner, row.name, row.idFarm, none, row.firstAccess⟩

/-- The identity a row of `company_employees` stands for. -/
def CompanyEmployeeRow.identity (row : CompanyEmployeeRow) : StoredIdentity :=
  ⟨row.id, row.email, row.password, .companyEmployee, row.name, none, row.idEnterprise, none⟩

/-- The identity a row of `adms` stands for. -/
def AdmRow.identity (row : AdmRow) : StoredIdentity :=
  ⟨row.id, row.email, row.password, .admin, row.name, none, none, none⟩

/-- All identities of the tables, each tagged with the type of its own table. -/
def IdentityTables.identities (tables : IdentityTables) : List StoredIdentity :=
  tables.farmOwners.map FarmOwnerRow.identity ++
    tables.companyEmployees.map CompanyEmployeeRow.identity ++ tables.adms.map AdmRow.identity

/-- No id stands twice in one table. -/
structure IdentityTables.UniqueIds (tables : IdentityTables) : Prop where
  farmOwners : (tables.farmOwners.map FarmOwnerRow.id).Nodup
  companyEmployees : (tables.companyEmployees.map CompanyEmployeeRow.id).Nodup
  adms : (tables.adms.map AdmRow.id).Nodup

/-- One account, for concrete runs. -/
def sampleIdentity : StoredIdentity :=
  ⟨7, "ana@ouros.app", "bcrypt:Senha@123", .farmOwner, none, none, none, none⟩

/-- `AuthService.verify_credentials`, up to the shape of its answer. -/
def verifyCredentials (rt : Runtime) (tables : IdentityTables) (email password : String)
    (accountType : Option AccountType) : Except ApiError StoredIdentity :=
  match (findByEmail rt tables email accountType).filter fun i =>
      rt.verifyPassword password i.passwordHash with
  | [] => .error .invalidCredentials
  | [identity] => .ok identity
  | _ :: _ :: _ => .error .ambiguousIdentity

/-- Credentials are verified for one identity, found under the address, with that password. -/
theorem verifyCredentials_ok {rt : Runtime} {tables : IdentityTables} {email password : String}
    {accountType : Option AccountType} {identity : StoredIdentity}
    (h : verifyCredentials rt tables email password accountType = .ok identity) :
    identity ∈ findByEmail rt tables email accountType ∧
      rt.verifyPassword password identity.passwordHash = true := by
  unfold verifyCredentials at h
  split at h
  · exact absurd h (by simp)
  · rename_i i hi
    rw [Except.ok.injEq] at h
    have hmem : identity ∈ (findByEmail rt tables email accountType).filter fun i =>
        rt.verifyPassword password i.passwordHash := by
      rw [hi, h]
      exact List.mem_cons_self
    exact List.mem_filter.mp hmem
  · exact absurd h (by simp)

end OurosAuth
