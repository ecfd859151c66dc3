import OurosAuth.Core.Errors
import OurosAuth.Identity.Repository
import OurosAuth.Lib.Sessions
import OurosAuth.Lib.Traced

namespace OurosAuth

open Traced Sessions

/-!
# The life of a pooled connection

`Database._configure_connection` and `Database.connection`.  The pool opens a connection once and
hands it to one query after another; any call into the driver may raise, and the exceptions are the
driver's.

* `connection`, `pooledConnection` — one use of a connection, and its whole life;
* `Driver.Documented` — what the service relies on, of `asyncpg` and the server behind it;
* `InUse` — what holds wherever the driver is called: a query runs in a read-only transaction of its
  own, though the default that `_configure_connection` sets lasts for the first use only.
-/

/-! ### The calls -/

/-- The queries of the service. -/
inductive DatabaseQuery
  /-- `_FIND_IDENTITIES_SQL` -/
  | findIdentities (email : String) (accountType : Option AccountType)
  /-- `_FIND_BY_ID_SQL` -/
  | findById (accountType : AccountType) (databaseId : ℤ)
  /-- `SELECT 1` -/
  | ping
  deriving DecidableEq

/-- What the driver is called for. -/
inductive DatabaseCommand
  /-- `connection.execute("SET default_transaction_read_only = on")` -/
  | configure
  /-- the `async with` block of `connection.transaction(readonly=…)` is entered -/
  | begin (readOnly : Bool)
  | fetch (query : DatabaseQuery)
  /-- and it is left, after an answer or after an exception -/
  | finish (raised : Bool)
  /-- the block of `pool.acquire()` is left -/
  | release
  deriving DecidableEq

/-- A call on a connection, and what came back. -/
abbrev DatabaseExchange (ε : Type) := Exchange DatabaseCommand ε

variable {ε : Type}

/-- `asyncpg` and the server behind it: what a connection is after these calls. -/
structure Driver (ε : Type) where
  /-- `connection.is_closed()`; the pool hands out no connection that is closed -/
  isClosed : List (DatabaseExchange ε) → Bool
  /-- the transaction that is open on the server: does it only read? -/
  transaction : List (DatabaseExchange ε) → Option Bool
  /-- the session's `default_transaction_read_only` -/
  defaultReadOnly : List (DatabaseExchange ε) → Bool

/-- What the service relies on. -/
structure Driver.Documented (driver : Driver ε) : Prop where
  begin_reads : ∀ past, driver.transaction ((.begin true, none) :: past) = some true
  configure_default : ∀ past, driver.defaultReadOnly ((.configure, none) :: past) = true
  configure_closes : ∀ past e, driver.isClosed ((.configure, some e) :: past) = true
  /-- a connection that is given back is reset: every setting of its session is put back to that of
      the server, whose transactions may write … -/
  release_default : ∀ past, driver.defaultReadOnly ((.release, none) :: past) = false
  /-- … and it is closed where that fails -/
  release_closes : ∀ past e, driver.isClosed ((.release, some e) :: past) = true
  /-- nothing else changes the settings -/
  default_kept : ∀ past command answer, command ≠ .configure → command ≠ .release →
    driver.defaultReadOnly ((command, answer) :: past) = driver.defaultReadOnly past

section Client
variable (server : Peer DatabaseCommand ε)

/-- `Database.connection` around one query. -/
def connection (query : DatabaseQuery) : Session DatabaseCommand ε Unit :=
  ensuring
    (do
      issue server (.begin true)
      within (issue server (.fetch query)) fun raised => issue server (.finish raised.isSome))
    (issue server .release)

/-- A connection from the moment the pool opens it: `_configure_connection`, and then one query
    after another, as long as it is open. -/
def pooledConnection (driver : Driver ε) (queries : List DatabaseQuery) :
    List (DatabaseExchange ε) :=
  queries.foldl
    (fun past query =>
      if driver.isClosed past = true then past else (connection server query past).2)
    (issue server .configure []).2

end Client

/-! ### What has to come before a call -/

/-- The pool has the connection: it was just opened, or taken back. -/
def Pooled (past : List (DatabaseExchange ε)) : Prop :=
  ∃ x rest, past = x :: rest ∧ (x = (.configure, none) ∨ x = (.release, none))

/-- The transaction of a use is over, or did not begin. -/
def TransactionOver (past : List (DatabaseExchange ε)) : Prop :=
  ∃ x rest, past = x :: rest ∧ ((∃ raised, x.1 = .finish raised) ∨ ∃ e, x = (.begin true, some e))

/-- What has to come before a call. -/
def InUse (driver : Driver ε) (queries : List DatabaseQuery) (past : List (DatabaseExchange ε)) :
    DatabaseExchange ε → Prop
  | (.configure, _) => past = []
  | (.begin readOnly, _) => readOnly = true ∧ Pooled past ∧ driver.isClosed past = false
  | (.fetch query, _) => query ∈ queries ∧ (∃ rest, past = (.begin true, none) :: rest) ∧
      driver.transaction past = some true ∧
      (driver.defaultReadOnly past = true ↔ (.release, none) ∉ past)
  | (.finish raised, _) =>
      ∃ query answer rest, past = (.fetch query, answer) :: rest ∧ raised = answer.isSome
  | (.release, _) => TransactionOver past

/-- What holds during a use. -/
structure Orderly (driver : Driver ε) (queries : List DatabaseQuery)
    (past : List (DatabaseExchange ε)) : Prop where
  inOrder : Justified (InUse driver queries) past
  default : driver.defaultReadOnly past = true ↔ (.release, none) ∉ past

/-- What holds between two uses. -/
def Rests (driver : Driver ε) (queries : List DatabaseQuery) (past : List (DatabaseExchange ε)) :
    Prop :=
  Justified (InUse driver queries) past ∧
    (driver.isClosed past = true ∨ Orderly driver queries past ∧ Pooled past)

variable {driver : Driver ε} {queries : List DatabaseQuery} {past : List (DatabaseExchange ε)}
  {server : Peer DatabaseCommand ε} {query : DatabaseQuery} {command : DatabaseCommand}
  {answer : Option ε}

/-- A call of a use, in its place. -/
theorem Orderly.cons (hdriver : driver.Documented) (ho : Orderly driver queries past)
    (hconfigure : command ≠ .configure) (hrelease : command ≠ .release)
    (horder : InUse driver queries past (command, answer)) :
    Orderly driver queries ((command, answer) :: past) where
  inOrder := ⟨horder, ho.inOrder⟩
  default := by
    rw [hdriver.default_kept past command answer hconfigure hrelease, ho.default, List.mem_cons,
      not_or]
    exact (and_iff_right fun heq => hrelease (congrArg Prod.fst heq).symm).symm

/-- A query right after a transaction has begun. -/
theorem Orderly.fetch (hdriver : driver.Documented) (ho : Orderly driver queries past)
    (hbegun : ∃ rest, past = (.begin true, none) :: rest) (hquery : query ∈ queries) :
    Orderly driver queries ((.fetch query, answer) :: past) := by
  refine ho.cons hdriver (by simp) (by simp) ⟨hquery, hbegun, ?_, ho.default⟩
  obtain ⟨rest, rfl⟩ := hbegun
  exact hdriver.begin_reads rest

/-! ### One use -/

/-- A transaction is begun, and is over in the end. -/
theorem triple_transaction (hdriver : driver.Documented) (hquery : query ∈ queries) :
    Triple (fun past => Orderly driver queries past ∧ Pooled past ∧ driver.isClosed past = false)
      (do
        issue server (.begin true)
        within (issue server (.fetch query)) fun raised => issue server (.finish raised.isSome))
      (fun _ past => Orderly driver queries past ∧ TransactionOver past)
      (fun _ past => Orderly driver queries past ∧ TransactionOver past) := by
  refine Triple.bind (R := fun _ past => Orderly driver queries past ∧
    ∃ rest, past = (.begin true, none) :: rest) ?_ fun _ => ?_
  · refine Triple.issue (fun past hpast => ?_) fun past e hpast => ?_
    · exact ⟨hpast.1.cons hdriver (by simp) (by simp) ⟨rfl, hpast.2⟩, past, rfl⟩
    · -- no transaction, so its exit does not run
      exact ⟨hpast.1.cons hdriver (by simp) (by simp) ⟨rfl, hpast.2⟩, _, _, rfl, Or.inr ⟨e, rfl⟩⟩
  · -- `async with` ends the transaction whether the query returned or raised
    have hfinish : ∀ answer : Option ε,
        Triple (fun past => Orderly driver queries past ∧
            ∃ rest, past = (.fetch query, answer) :: rest)
          (issue server (.finish answer.isSome))
          (fun _ past => Orderly driver queries past ∧ TransactionOver past)
          (fun _ past => Orderly driver queries past ∧ TransactionOver past) := by
      intro answer
      refine Triple.issue (fun past hpast => ?_) fun past e hpast => ?_
      all_goals
        obtain ⟨ho, rest, hfetched⟩ := hpast
        exact ⟨ho.cons hdriver (by simp) (by simp) ⟨query, answer, rest, hfetched, rfl⟩, _, _, rfl,
          Or.inl ⟨_, rfl⟩⟩
    refine Triple.within
      (A := fun _ past => Orderly driver queries past ∧
        ∃ rest, past = (.fetch query, none) :: rest)
      (B := fun e past => Orderly driver queries past ∧
        ∃ rest, past = (.fetch query, some e) :: rest)
      ?_ (fun _ => hfinish none) fun e => hfinish (some e)
    exact Triple.issue (fun past hpast => ⟨hpast.1.fetch hdriver hpast.2 hquery, past, rfl⟩)
      fun past e hpast => ⟨hpast.1.fetch hdriver hpast.2 hquery, past, rfl⟩

/-- A use gives the connection back, however it ends. -/
theorem triple_connection (hdriver : driver.Documented) (hquery : query ∈ queries) :
    Triple (fun past => Orderly driver queries past ∧ Pooled past ∧ driver.isClosed past = false)
      (connection server query) (fun _ => Rests driver queries)
      (fun _ => Rests driver queries) := by
  have hrelease : Triple (fun past => Orderly driver queries past ∧ TransactionOver past)
      (issue server .release) (fun _ => Rests driver queries) (fun _ => Rests driver queries) := by
    refine Triple.issue (fun past hpast => ?_) fun past e hpast => ?_
    · have hin : Justified (InUse driver queries) ((.release, none) :: past) :=
        ⟨hpast.2, hpast.1.inOrder⟩
      refine ⟨hin, Or.inr ⟨⟨hin, ?_⟩, _, _, rfl, Or.inr rfl⟩⟩
      simp [hdriver.release_default past]
    · exact ⟨⟨hpast.2, hpast.1.inOrder⟩, Or.inl (hdriver.release_closes past e)⟩
  exact Triple.ensuring (triple_transaction hdriver hquery) (fun _ => hrelease) fun _ => hrelease

/-- From rest to rest, if the connection is used at all. -/
theorem Rests.use (hdriver : driver.Documented) (server : Peer DatabaseCommand ε)
    (hquery : query ∈ queries) (h : Rests driver queries past) :
    Rests driver queries
      (if driver.isClosed past = true then past else (connection server query past).2) := by
  split_ifs with hclosed
  · exact h
  · obtain ⟨ho, hp⟩ := h.2.resolve_left hclosed
    have huse : Triple _ (connection server query) _ _ := triple_connection hdriver hquery
    obtain ⟨hok, herror⟩ := triple_iff.mp huse past ⟨ho, hp, by simpa using hclosed⟩
    rcases hrun : connection server query past with ⟨r, past'⟩
    cases r with
    | ok u => exact hok u past' hrun
    | error e => exact herror e past' hrun

/-! ### A whole life -/

/-- **Reading only.** With a driver as documented, for any number of queries on one connection and
    whatever the calls into the driver raise: a query is sent in a transaction of its own that only
    reads, the transaction is left before the connection is given back, and the connection is given
    back before the next use and not used once it is closed.  The read-only default of the session
    holds until the connection is given back for the first time. -/
theorem connection_reads_only (hdriver : driver.Documented) (server : Peer DatabaseCommand ε)
    (queries : List DatabaseQuery) :
    Justified (InUse driver queries) (pooledConnection server driver queries) ∧
      (driver.isClosed (pooledConnection server driver queries) = true ∨
        Pooled (pooledConnection server driver queries)) := by
  have hopened : Rests driver queries (issue server .configure []).2 := by
    cases hpeer : server [] .configure with
    | some e =>
      rw [issue_raised hpeer]
      exact ⟨⟨rfl, trivial⟩, Or.inl (hdriver.configure_closes [] e)⟩
    | none =>
      rw [issue_answered hpeer]
      refine ⟨⟨rfl, trivial⟩, Or.inr ⟨⟨⟨rfl, trivial⟩, ?_⟩, _, _, rfl, Or.inl rfl⟩⟩
      simp [hdriver.configure_default []]
  -- every use starts from a connection at rest and ends with one
  have huses : ∀ (l : List DatabaseQuery) (past : List (DatabaseExchange ε)),
      (∀ query ∈ l, query ∈ queries) → Rests driver queries past →
      Rests driver queries (l.foldl (fun past query =>
        if driver.isClosed past = true then past else (connection server query past).2) past) := by
    intro l
    induction l with
    | nil => exact fun past _ h => h
    | cons query l ih =>
      intro past hl h
      exact ih _ (fun q hq => hl q (List.mem_cons_of_mem _ hq))
        (h.use hdriver server (hl query List.mem_cons_self))
  obtain ⟨hin, hend⟩ := huses queries _ (fun _ hq => hq) hopened
  exact ⟨hin, hend.imp_right And.right⟩

/-- A driver that keeps no more than it has to. -/
def Driver.sample : Driver PyError where
  isClosed
    | (.configure, some _) :: _ => true
    | (.release, some _) :: _ => true
    | _ => false
  transaction
    | (.begin readOnly, none) :: _ => some readOnly
    | _ => none
  defaultReadOnly past :=
    match past.find? fun x => x = (.configure, none) ∨ x = (.release, none) with
    | some (.configure, _) => true
    | _ => false

theorem Driver.sample_documented : Driver.sample.Documented where
  begin_reads _ := rfl
  configure_default _ := rfl
  configure_closes _ _ := rfl
  release_default _ := rfl
  release_closes _ _ := rfl
  default_kept past command answer hconfigure hrelease := by
    have hother : ¬ ((command, answer) = ((.configure, none) : DatabaseExchange PyError) ∨
        (command, answer) = (.release, none)) := by
      rintro (heq | heq)
      · exact hconfigure (congrArg Prod.fst heq)
      · exact hrelease (congrArg Prod.fst heq)
    simp only [Driver.sample, List.find?_cons, decide_eq_false hother]

/-- The second query of a connection runs in a read-only transaction, and without the default. -/
theorem connection_reads_only_twice :
    ∃ past, ((.fetch .ping, none) :: past) <:+ pooledConnection (fun _ _ => none) Driver.sample
        [.findById .farmOwner 7, .ping] ∧
      Driver.sample.transaction past = some true ∧ Driver.sample.defaultReadOnly past = false := by
  obtain ⟨⟨-, -, ⟨-, -, htransaction, hdefault⟩, -⟩, -⟩ :=
    connection_reads_only Driver.sample_documented (fun _ _ => none) [.findById .farmOwner 7, .ping]
  refine ⟨_, ⟨[(.release, none), (.finish false, none)], rfl⟩, htransaction, ?_⟩
  exact Bool.eq_false_iff.mpr fun h => hdefault.mp h (List.mem_cons_of_mem _ (List.Mem.head _))

end OurosAuth
