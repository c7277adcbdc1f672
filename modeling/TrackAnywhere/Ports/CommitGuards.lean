import Mathlib
import TrackAnywhere.Ports.SyncTables
import TrackAnywhere.Verified.Run

/-!
# The guards that fire at commit

The runtime role may insert into the journal tables and the event store, and
into nothing else of them.  Its inserts are checked twice: at once, against the
keys and references of the tables, and at the commit of their transaction, by
the deferred constraint triggers `v2_validate_journal_balance` and
`v2_require_sync_projection`.  Each query of a trigger takes a snapshot of its
own, which shows what is committed by then and the rows of its own transaction.

The tables of all Books are kept as one list of rows, of which each table is a
part; `required` is `synchronous_projection_event_types`, which the role cannot
change.  The further keys, references and triggers of these tables only refuse
more inserts.
-/

namespace TrackAnywhere.Ports

open TrackAnywhere.Verified

/-! ## Rows -/

/-- The columns of `journal_transactions` that are checked. -/
structure JournalTransactionRow where
  bookId : UUID
  transactionId : UUID
  sourceEventId : UUID
  sourcePosition : Int
deriving DecidableEq

/-- The columns of `journal_postings` that are checked. -/
structure JournalPostingRow where
  bookId : UUID
  transactionId : UUID
  postingId : UUID
  postingPosition : Int
  assetCode : String
  side : PostingSide
  units : Int
deriving DecidableEq

/-- The columns of `ledger_events` that are checked. -/
structure LedgerEventRow where
  eventId : UUID
  bookId : UUID
  bookPosition : Int
  streamId : UUID
  eventType : String
  eventSchemaVersion : Int
deriving DecidableEq

/-- `synchronous_projection_applied_events`. -/
structure ProjectionMarkerRow where
  bookId : UUID
  eventId : UUID
  projectionVersion : Int
deriving DecidableEq

/-- `synchronous_projection_event_types`. -/
structure SynchronousEventType where
  eventType : String
  eventSchemaVersion : Int
  projectionVersion : Int
deriving DecidableEq

/-- A row of one of the four tables. -/
inductive GuardedRow
  | journalTransaction (row : JournalTransactionRow)
  | journalPosting (row : JournalPostingRow)
  | ledgerEvent (row : LedgerEventRow)
  | marker (row : ProjectionMarkerRow)
deriving DecidableEq

/-- A transaction of a Book. -/
abbrev GuardedKey := UUID × UUID

def JournalTransactionRow.key (row : JournalTransactionRow) : GuardedKey :=
  (row.bookId, row.transactionId)

def JournalPostingRow.key (row : JournalPostingRow) : GuardedKey :=
  (row.bookId, row.transactionId)

/-- The units as the trigger sums them. -/
def JournalPostingRow.signedUnits (row : JournalPostingRow) : Int :=
  match row.side with
  | .debit => row.units
  | .credit => -row.units

/-! ## Tables -/

section Tables

variable (rows : List GuardedRow)

def transactionsIn : List JournalTransactionRow :=
  rows.filterMap fun
    | .journalTransaction row => some row
    | _ => none

def postingsIn : List JournalPostingRow :=
  rows.filterMap fun
    | .journalPosting row => some row
    | _ => none

def eventsIn : List LedgerEventRow :=
  rows.filterMap fun
    | .ledgerEvent row => some row
    | _ => none

def markersIn : List ProjectionMarkerRow :=
  rows.filterMap fun
    | .marker row => some row
    | _ => none

def postingsOfKey (key : GuardedKey) : List JournalPostingRow :=
  (postingsIn rows).filter fun p => p.key = key

/-- `sum(case posting.side when 'debit' then posting.units else -posting.units end)`
over the postings of one asset. -/
def assetNet (key : GuardedKey) (assetCode : String) : Int :=
  (((postingsOfKey rows key).filter fun p => p.assetCode = assetCode).map
    JournalPostingRow.signedUnits).sum

def JournalExists (key : GuardedKey) : Prop :=
  ∃ row ∈ transactionsIn rows, row.key = key

instance (key : GuardedKey) : Decidable (JournalExists rows key) :=
  inferInstanceAs (Decidable (∃ row ∈ transactionsIn rows, row.key = key))

/-- The event that a marker or a journal transaction refers to. -/
def EventExists (bookId eventId : UUID) (holds : LedgerEventRow → Prop) : Prop :=
  ∃ event ∈ eventsIn rows, event.bookId = bookId ∧ event.eventId = eventId ∧ holds event

instance (bookId eventId : UUID) (holds : LedgerEventRow → Prop) [DecidablePred holds] :
    Decidable (EventExists rows bookId eventId holds) :=
  inferInstanceAs (Decidable (∃ event ∈ eventsIn rows, _))

end Tables

variable {required : List SynchronousEventType}

/-- The type needs a projection. -/
def RequiredType (required : List SynchronousEventType) (event : LedgerEventRow) : Prop :=
  ∃ entry ∈ required, entry.eventType = event.eventType

/-- The schema version of the event is registered under its type. -/
def RegisteredSchema (required : List SynchronousEventType) (event : LedgerEventRow) :
    Prop :=
  ∃ entry ∈ required, entry.eventType = event.eventType
    ∧ entry.eventSchemaVersion = event.eventSchemaVersion

/-- The projection version is the one registered for the event. -/
def RegisteredProjection (required : List SynchronousEventType) (projectionVersion : Int)
    (event : LedgerEventRow) : Prop :=
  ∃ entry ∈ required, entry.eventType = event.eventType
    ∧ entry.eventSchemaVersion = event.eventSchemaVersion
    ∧ entry.projectionVersion = projectionVersion

instance (event : LedgerEventRow) : Decidable (RequiredType required event) :=
  inferInstanceAs (Decidable (∃ entry ∈ required, _))

instance (event : LedgerEventRow) : Decidable (RegisteredSchema required event) :=
  inferInstanceAs (Decidable (∃ entry ∈ required, _))

instance (projectionVersion : Int) :
    DecidablePred (RegisteredProjection required projectionVersion) :=
  fun _ => inferInstanceAs (Decidable (∃ entry ∈ required, _))

/-! ## Inserts -/

namespace GuardedRow

/-- The primary and unique keys. -/
def Conflicts : GuardedRow → GuardedRow → Prop
  | journalTransaction a, journalTransaction b =>
      a.bookId = b.bookId ∧
        (a.transactionId = b.transactionId ∨ a.sourceEventId = b.sourceEventId)
  | journalPosting a, journalPosting b =>
      a.bookId = b.bookId ∧ (a.postingId = b.postingId ∨
        a.transactionId = b.transactionId ∧ a.postingPosition = b.postingPosition)
  | ledgerEvent a, ledgerEvent b =>
      a.eventId = b.eventId ∨ a.bookId = b.bookId ∧ a.bookPosition = b.bookPosition
  | marker a, marker b => a.bookId = b.bookId ∧ a.eventId = b.eventId
  | _, _ => False

instance : DecidableRel Conflicts := by
  intro a b
  cases a <;> cases b <;> unfold Conflicts <;> infer_instance

/-- The check constraints, the references and the triggers that fire before an insert,
on the rows that its statement sees. -/
def Accepted (required : List SynchronousEventType) (visible : List GuardedRow) :
    GuardedRow → Prop
  -- `v2_validate_journal_source_projection`
  | journalTransaction row =>
      0 < row.sourcePosition ∧
        EventExists visible row.bookId row.sourceEventId fun event =>
          event.bookPosition = row.sourcePosition ∧ event.streamId = row.transactionId
            ∧ event.eventType ∈ ["JournalTransactionPosted", "JournalTransactionReversed"]
            ∧ RegisteredSchema required event
  | journalPosting row =>
      0 ≤ row.postingPosition ∧ 0 < row.units ∧ JournalExists visible row.key
  | ledgerEvent row => 0 < row.bookPosition ∧ 0 < row.eventSchemaVersion
  -- `v2_validate_sync_projection_marker`
  | marker row =>
      0 < row.projectionVersion ∧ EventExists visible row.bookId row.eventId
        (RegisteredProjection required row.projectionVersion)

instance (visible : List GuardedRow) (row : GuardedRow) :
    Decidable (Accepted required visible row) := by
  cases row <;> unfold Accepted <;> infer_instance

end GuardedRow

/-! ## The deferred triggers -/

/-- A query of a deferred trigger. -/
inductive GuardQuery
  | journalExists (key : GuardedKey)
  | postingCount (key : GuardedKey)
  | assetSums (key : GuardedKey)
  | typeRequired (event : LedgerEventRow)
  | schemaRegistered (event : LedgerEventRow)
  | markerApplied (event : LedgerEventRow)
deriving DecidableEq

/-- The triggers that an insert leaves for the commit, by their first query. -/
def GuardedRow.deferred : GuardedRow → List GuardQuery
  | journalTransaction row => [.journalExists row.key]
  | journalPosting row => [.journalExists row.key]
  | ledgerEvent row => [.typeRequired row]
  | marker _ => []

/-- The marker of an event. -/
def MarkerApplied (rows : List GuardedRow) (event : LedgerEventRow) : Prop :=
  ∃ row ∈ markersIn rows, row.bookId = event.bookId ∧ row.eventId = event.eventId

instance (rows : List GuardedRow) (event : LedgerEventRow) :
    Decidable (MarkerApplied rows event) :=
  inferInstanceAs (Decidable (∃ row ∈ markersIn rows, _))

/-- A query on its snapshot: the queries that its trigger goes on with, or `none` for
the exception it raises. -/
def GuardQuery.fire (required : List SynchronousEventType) (visible : List GuardedRow) :
    GuardQuery → Option (List GuardQuery)
  | journalExists key =>
      some (if JournalExists visible key then [postingCount key, assetSums key] else [])
  | postingCount key => if (postingsOfKey visible key).length < 2 then none else some []
  | assetSums key =>
      if ∃ p ∈ postingsOfKey visible key, assetNet visible key p.assetCode ≠ 0 then none
      else some []
  | typeRequired event =>
      some (if RequiredType required event then [schemaRegistered event, markerApplied event]
        else [])
  | schemaRegistered event => if RegisteredSchema required event then some [] else none
  | markerApplied event => if MarkerApplied visible event then some [] else none

/-! ## Sessions -/

/-- A database transaction: its rows so far, and once it commits the queries that its
triggers still have to make. -/
structure GuardedSession where
  own : List GuardedRow
  queue : Option (List GuardQuery)
deriving DecidableEq

def GuardedSession.idle : GuardedSession where
  own := []
  queue := none

/-- What is committed, and the sessions. -/
structure GuardedDatabase where
  committed : List GuardedRow
  sessions : List GuardedSession
deriving DecidableEq

namespace GuardedDatabase

/-- The empty tables and any number of sessions. -/
def initial (sessions : Nat) : GuardedDatabase where
  committed := []
  sessions := List.replicate sessions .idle

/-- All rows, committed or not. -/
def rows (db : GuardedDatabase) : List GuardedRow :=
  db.committed ++ db.sessions.flatMap GuardedSession.own

def withSession (db : GuardedDatabase) (i : Nat) (session : GuardedSession) :
    GuardedDatabase :=
  { db with sessions := db.sessions.set i session }

end GuardedDatabase

inductive SessionAction
  | insert (row : GuardedRow)
  | rollbackTo (kept : Nat)
  | rollback
  | commit
  | query
  | finish
deriving DecidableEq

/-- One step of the session `i`. -/
inductive GuardStep (required : List SynchronousEventType) :
    GuardedDatabase → Nat × SessionAction → GuardedDatabase → Prop
  -- an insert waits while its key is held by a row that another session may still undo
  | insert {db : GuardedDatabase} {i : Nat} {session : GuardedSession} (row : GuardedRow)
      (hSession : db.sessions[i]? = some session) (hOpen : session.queue = none)
      (hDistinct : ∀ held ∈ db.rows, ¬row.Conflicts held)
      (hAccepted : row.Accepted required (db.committed ++ session.own)) :
      GuardStep required db (i, .insert row)
        (db.withSession i { session with own := session.own ++ [row] })
  | rollbackTo {db : GuardedDatabase} {i : Nat} {session : GuardedSession} (kept : Nat)
      (hSession : db.sessions[i]? = some session) (hOpen : session.queue = none) :
      GuardStep required db (i, .rollbackTo kept)
        (db.withSession i { session with own := session.own.take kept })
  | rollback {db : GuardedDatabase} {i : Nat} {session : GuardedSession}
      (hSession : db.sessions[i]? = some session) :
      GuardStep required db (i, .rollback) (db.withSession i .idle)
  | commit {db : GuardedDatabase} {i : Nat} {session : GuardedSession}
      (hSession : db.sessions[i]? = some session) (hOpen : session.queue = none) :
      GuardStep required db (i, .commit) (db.withSession i
        { session with queue := some (session.own.flatMap GuardedRow.deferred) })
  | passes {db : GuardedDatabase} {i : Nat} {session : GuardedSession}
      {query : GuardQuery} {queue next : List GuardQuery}
      (hSession : db.sessions[i]? = some session)
      (hQueue : session.queue = some (query :: queue))
      (hFire : query.fire required (db.committed ++ session.own) = some next) :
      GuardStep required db (i, .query)
        (db.withSession i { session with queue := some (next ++ queue) })
  | raises {db : GuardedDatabase} {i : Nat} {session : GuardedSession}
      {query : GuardQuery} {queue : List GuardQuery}
      (hSession : db.sessions[i]? = some session)
      (hQueue : session.queue = some (query :: queue))
      (hFire : query.fire required (db.committed ++ session.own) = none) :
      GuardStep required db (i, .query) (db.withSession i .idle)
  | finish {db : GuardedDatabase} {i : Nat} {session : GuardedSession}
      (hSession : db.sessions[i]? = some session) (hQueue : session.queue = some []) :
      GuardStep required db (i, .finish)
        { db with
          committed := db.committed ++ session.own
          sessions := db.sessions.set i .idle }

/-! ## Tables of more rows -/

section Append

variable {rows more : List GuardedRow} {key : GuardedKey}

@[simp] theorem postingsOfKey_append (rows more : List GuardedRow) (key : GuardedKey) :
    postingsOfKey (rows ++ more) key
      = postingsOfKey rows key ++ postingsOfKey more key := by
  simp [postingsOfKey, postingsIn]

@[simp] theorem assetNet_append (rows more : List GuardedRow) (key : GuardedKey)
    (assetCode : String) : assetNet (rows ++ more) key assetCode
      = assetNet rows key assetCode + assetNet more key assetCode := by
  simp [assetNet]

@[simp] theorem mem_eventsIn {event : LedgerEventRow} :
    event ∈ eventsIn rows ↔ .ledgerEvent event ∈ rows := by
  constructor
  · intro h
    obtain ⟨row, hRow, hEvent⟩ := List.mem_filterMap.1 h
    cases row <;> simp only [Option.some.injEq, reduceCtorEq] at hEvent
    exact hEvent ▸ hRow
  · exact fun h => List.mem_filterMap.2 ⟨_, h, rfl⟩

@[simp] theorem mem_markersIn {marker : ProjectionMarkerRow} :
    marker ∈ markersIn rows ↔ .marker marker ∈ rows := by
  constructor
  · intro h
    obtain ⟨row, hRow, hMarker⟩ := List.mem_filterMap.1 h
    cases row <;> simp only [Option.some.injEq, reduceCtorEq] at hMarker
    exact hMarker ▸ hRow
  · exact fun h => List.mem_filterMap.2 ⟨_, h, rfl⟩

@[simp] theorem mem_transactionsIn {transaction : JournalTransactionRow} :
    transaction ∈ transactionsIn rows ↔ .journalTransaction transaction ∈ rows := by
  constructor
  · intro h
    obtain ⟨row, hRow, hTransaction⟩ := List.mem_filterMap.1 h
    cases row <;> simp only [Option.some.injEq, reduceCtorEq] at hTransaction
    exact hTransaction ▸ hRow
  · exact fun h => List.mem_filterMap.2 ⟨_, h, rfl⟩

theorem mem_postingsOfKey {posting : JournalPostingRow} :
    posting ∈ postingsOfKey rows key ↔ .journalPosting posting ∈ rows ∧ posting.key = key := by
  simp only [postingsOfKey, postingsIn, List.mem_filter, List.mem_filterMap,
    decide_eq_true_eq, and_congr_left_iff]
  intro hKey
  constructor
  · rintro ⟨row, hRow, hPosting⟩
    cases row <;> simp only [Option.some.injEq, reduceCtorEq] at hPosting
    exact hPosting ▸ hRow
  · exact fun h => ⟨_, h, rfl⟩

theorem JournalExists.mono (h : JournalExists rows key) (hMore : rows ⊆ more) :
    JournalExists more key := by
  obtain ⟨row, hRow, hKey⟩ := h
  exact ⟨row, mem_transactionsIn.2 (hMore (mem_transactionsIn.1 hRow)), hKey⟩

theorem EventExists.mono {bookId eventId : UUID} {holds : LedgerEventRow → Prop}
    (h : EventExists rows bookId eventId holds) (hMore : rows ⊆ more) :
    EventExists more bookId eventId holds := by
  obtain ⟨event, hEvent, hHolds⟩ := h
  exact ⟨event, mem_eventsIn.2 (hMore (mem_eventsIn.1 hEvent)), hHolds⟩

theorem MarkerApplied.mono {event : LedgerEventRow} (h : MarkerApplied rows event)
    (hMore : rows ⊆ more) : MarkerApplied more event := by
  obtain ⟨row, hRow, hHolds⟩ := h
  exact ⟨row, mem_markersIn.2 (hMore (mem_markersIn.1 hRow)), hHolds⟩

theorem assetNet_eq_zero {assetCode : String}
    (h : ∀ p ∈ postingsOfKey rows key, p.assetCode ≠ assetCode) :
    assetNet rows key assetCode = 0 := by
  have hNone : (postingsOfKey rows key).filter (fun p => p.assetCode = assetCode) = [] := by
    rw [List.filter_eq_nil_iff]
    intro p hp hAsset
    exact h p hp (of_decide_eq_true hAsset)
  rw [assetNet, hNone]
  rfl

end Append

/-! ## What a committed state keeps -/

/-- The transaction has two postings, and both sides of each of its assets are equal. -/
def BalancedRows (rows : List GuardedRow) (key : GuardedKey) : Prop :=
  2 ≤ (postingsOfKey rows key).length ∧ ∀ assetCode, assetNet rows key assetCode = 0

/-- The rows that an inserted row refers to. -/
def Referenced (required : List SynchronousEventType) (visible : List GuardedRow) :
    GuardedRow → Prop
  | .journalPosting row => JournalExists visible row.key
  | .marker row => EventExists visible row.bookId row.eventId
      (RegisteredProjection required row.projectionVersion)
  | _ => True

theorem GuardedRow.Accepted.referenced {visible : List GuardedRow} {row : GuardedRow}
    (h : row.Accepted required visible) : Referenced required visible row := by
  cases row with
  | journalTransaction row => trivial
  | journalPosting row => exact h.2.2
  | ledgerEvent row => trivial
  | marker row => exact h.2

theorem Referenced.mono {rows more : List GuardedRow} {row : GuardedRow}
    (h : Referenced required rows row) (hMore : rows ⊆ more) :
    Referenced required more row := by
  cases row with
  | journalTransaction row => trivial
  | journalPosting row => exact JournalExists.mono h hMore
  | ledgerEvent row => trivial
  | marker row => exact EventExists.mono h hMore

/-- Every row of `own` refers to what came before it. -/
def Follows (required : List SynchronousEventType) (committed own : List GuardedRow) :
    Prop :=
  ∀ before row after, own = before ++ row :: after →
    Referenced required (committed ++ before) row

/-- What the trigger of a transaction has still to ask, or has found. -/
structure BalanceChecked (committed own : List GuardedRow) (queue : List GuardQuery)
    (key : GuardedKey) : Prop where
  count : .journalExists key ∈ queue ∨ .postingCount key ∈ queue
    ∨ 2 ≤ (postingsOfKey (committed ++ own) key).length
  sums : .journalExists key ∈ queue ∨ .assetSums key ∈ queue
    ∨ ∀ assetCode, assetNet own key assetCode = 0

/-- What the trigger of an event has still to ask, or has found. -/
structure ProjectionChecked (required : List SynchronousEventType)
    (committed own : List GuardedRow) (queue : List GuardQuery) (event : LedgerEventRow) :
    Prop where
  schema : .typeRequired event ∈ queue ∨ ¬RequiredType required event
    ∨ .schemaRegistered event ∈ queue ∨ RegisteredSchema required event
  marker : .typeRequired event ∈ queue ∨ ¬RequiredType required event
    ∨ .markerApplied event ∈ queue ∨ MarkerApplied (committed ++ own) event

/-- What the triggers of a row have still to ask, or have found. -/
def RowChecked (required : List SynchronousEventType) (committed own : List GuardedRow)
    (queue : List GuardQuery) : GuardedRow → Prop
  | .journalTransaction row => BalanceChecked committed own queue row.key
  | .journalPosting row => BalanceChecked committed own queue row.key
  | .ledgerEvent row => ProjectionChecked required committed own queue row
  | .marker _ => True

structure SessionGuarded (required : List SynchronousEventType)
    (committed : List GuardedRow) (session : GuardedSession) : Prop where
  follows : Follows required committed session.own
  checked : ∀ queue, session.queue = some queue →
    ∀ row ∈ session.own, RowChecked required committed session.own queue row

structure CommittedGuarded (required : List SynchronousEventType)
    (committed : List GuardedRow) : Prop where
  balanced : ∀ key, JournalExists committed key → BalancedRows committed key
  projected : ∀ event, .ledgerEvent event ∈ committed → RequiredType required event →
    RegisteredSchema required event ∧ MarkerApplied committed event
  referenced : ∀ row ∈ committed, Referenced required committed row

/-- The invariant of the database. -/
structure Guarded (required : List SynchronousEventType) (db : GuardedDatabase) : Prop where
  committed : CommittedGuarded required db.committed
  sessions : ∀ session ∈ db.sessions, SessionGuarded required db.committed session
  distinct : ∀ a b, .ledgerEvent a ∈ db.rows → .ledgerEvent b ∈ db.rows →
    a.eventId = b.eventId → a = b

/-! ## The queries of the triggers -/

section Queries

variable {committed own : List GuardedRow} {queue next : List GuardQuery}
  {query : GuardQuery} {key : GuardedKey}

theorem CommittedGuarded.assetNet_eq_zero (h : CommittedGuarded required committed)
    (key : GuardedKey) (assetCode : String) : assetNet committed key assetCode = 0 := by
  by_cases hExists : JournalExists committed key
  · exact (h.balanced key hExists).2 assetCode
  · apply Ports.assetNet_eq_zero
    intro p hp
    obtain ⟨hPosting, rfl⟩ := mem_postingsOfKey.1 hp
    exact absurd (h.referenced _ hPosting) hExists

/-- Over committed rows that balance, a check that passes says that the rows of its
own transaction balance. -/
theorem assetNet_own_eq_zero (h : CommittedGuarded required committed)
    (hSums : ¬∃ p ∈ postingsOfKey (committed ++ own) key,
      assetNet (committed ++ own) key p.assetCode ≠ 0) (assetCode : String) :
    assetNet own key assetCode = 0 := by
  have hAll : assetNet (committed ++ own) key assetCode = 0 := by
    by_cases hSome : ∃ p ∈ postingsOfKey (committed ++ own) key, p.assetCode = assetCode
    · obtain ⟨p, hp, rfl⟩ := hSome
      by_contra hNet
      exact hSums ⟨p, hp, hNet⟩
    · exact Ports.assetNet_eq_zero fun p hp hAsset => hSome ⟨p, hp, hAsset⟩
  rw [assetNet_append, h.assetNet_eq_zero, zero_add] at hAll
  exact hAll

/-- A query other than the first is still asked. -/
theorem mem_fired {q : GuardQuery} (hMem : q ∈ query :: queue) (hQuery : q ≠ query) :
    q ∈ next ++ queue :=
  List.mem_append_right _ ((List.mem_cons.1 hMem).resolve_left hQuery)

theorem BalanceChecked.fire (h : CommittedGuarded required committed)
    (hExists : JournalExists (committed ++ own) key)
    (hChecked : BalanceChecked committed own (query :: queue) key)
    (hFire : query.fire required (committed ++ own) = some next) :
    BalanceChecked committed own (next ++ queue) key := by
  by_cases hFirst : query = .journalExists key
  · subst hFirst
    simp only [GuardQuery.fire, if_pos hExists, Option.some.injEq] at hFire
    subst hFire
    exact ⟨.inr (.inl (by simp)), .inr (.inl (by simp))⟩
  · constructor
    · obtain hMem | hMem | hCount := hChecked.count
      · exact .inl (mem_fired hMem (Ne.symm hFirst))
      · by_cases hQuery : query = .postingCount key
        · subst hQuery
          simp only [GuardQuery.fire, Option.ite_none_left_eq_some] at hFire
          exact .inr (.inr (Nat.le_of_not_lt hFire.1))
        · exact .inr (.inl (mem_fired hMem (Ne.symm hQuery)))
      · exact .inr (.inr hCount)
    · obtain hMem | hMem | hSums := hChecked.sums
      · exact .inl (mem_fired hMem (Ne.symm hFirst))
      · by_cases hQuery : query = .assetSums key
        · subst hQuery
          simp only [GuardQuery.fire, Option.ite_none_left_eq_some] at hFire
          exact .inr (.inr (assetNet_own_eq_zero h hFire.1))
        · exact .inr (.inl (mem_fired hMem (Ne.symm hQuery)))
      · exact .inr (.inr hSums)

theorem ProjectionChecked.fire {event : LedgerEventRow}
    (hChecked : ProjectionChecked required committed own (query :: queue) event)
    (hFire : query.fire required (committed ++ own) = some next) :
    ProjectionChecked required committed own (next ++ queue) event := by
  by_cases hRequired : RequiredType required event
  · by_cases hFirst : query = .typeRequired event
    · subst hFirst
      simp only [GuardQuery.fire, if_pos hRequired, Option.some.injEq] at hFire
      subst hFire
      exact ⟨.inr (.inr (.inl (by simp))), .inr (.inr (.inl (by simp)))⟩
    · constructor
      · obtain hMem | hNot | hMem | hSchema := hChecked.schema
        · exact .inl (mem_fired hMem (Ne.symm hFirst))
        · exact absurd hRequired hNot
        · by_cases hQuery : query = .schemaRegistered event
          · subst hQuery
            simp only [GuardQuery.fire, Option.ite_none_right_eq_some] at hFire
            exact .inr (.inr (.inr hFire.1))
          · exact .inr (.inr (.inl (mem_fired hMem (Ne.symm hQuery))))
        · exact .inr (.inr (.inr hSchema))
      · obtain hMem | hNot | hMem | hMarker := hChecked.marker
        · exact .inl (mem_fired hMem (Ne.symm hFirst))
        · exact absurd hRequired hNot
        · by_cases hQuery : query = .markerApplied event
          · subst hQuery
            simp only [GuardQuery.fire, Option.ite_none_right_eq_some] at hFire
            exact .inr (.inr (.inr hFire.1))
          · exact .inr (.inr (.inl (mem_fired hMem (Ne.symm hQuery))))
        · exact .inr (.inr (.inr hMarker))
  · exact ⟨.inr (.inl hRequired), .inr (.inl hRequired)⟩

theorem Follows.referenced (h : Follows required committed own) {row : GuardedRow}
    (hRow : row ∈ own) : Referenced required (committed ++ own) row := by
  obtain ⟨before, after, rfl⟩ := List.append_of_mem hRow
  apply (h before row after rfl).mono
  intro held hHeld
  simp only [List.mem_append] at hHeld ⊢
  exact hHeld.imp_right .inl

theorem RowChecked.fire (h : CommittedGuarded required committed)
    (hFollows : Follows required committed own) {row : GuardedRow} (hRow : row ∈ own)
    (hChecked : RowChecked required committed own (query :: queue) row)
    (hFire : query.fire required (committed ++ own) = some next) :
    RowChecked required committed own (next ++ queue) row := by
  cases row with
  | journalTransaction row =>
      have hExists : JournalExists (committed ++ own) row.key :=
        ⟨row, mem_transactionsIn.2 (List.mem_append_right _ hRow), rfl⟩
      exact BalanceChecked.fire h hExists hChecked hFire
  | journalPosting row => exact BalanceChecked.fire h (hFollows.referenced hRow) hChecked hFire
  | ledgerEvent row => exact ProjectionChecked.fire hChecked hFire
  | marker row => trivial

/-- Every row leaves its first query. -/
theorem rowChecked_deferred {row : GuardedRow} (hRow : row ∈ own) :
    RowChecked required committed own (own.flatMap GuardedRow.deferred) row := by
  have hMem : ∀ q ∈ row.deferred, q ∈ own.flatMap GuardedRow.deferred :=
    fun q hq => List.mem_flatMap.2 ⟨row, hRow, hq⟩
  cases row with
  | journalTransaction row =>
      have hFirst := hMem (.journalExists row.key) (List.mem_singleton_self _)
      exact ⟨.inl hFirst, .inl hFirst⟩
  | journalPosting row =>
      have hFirst := hMem (.journalExists row.key) (List.mem_singleton_self _)
      exact ⟨.inl hFirst, .inl hFirst⟩
  | ledgerEvent row =>
      have hFirst := hMem (.typeRequired row) (List.mem_singleton_self _)
      exact ⟨.inl hFirst, .inl hFirst⟩
  | marker row => trivial

end Queries

/-! ## Commits of other sessions -/

section Grown

variable {committed more own : List GuardedRow}

theorem Follows.mono (h : Follows required committed own) (hMore : committed ⊆ more) :
    Follows required more own := by
  intro before row after hOwn
  apply (h before row after hOwn).mono
  intro held hHeld
  rw [List.mem_append] at hHeld ⊢
  exact hHeld.imp_left fun h => hMore h

theorem RowChecked.mono {queue : List GuardQuery} {row : GuardedRow} (added : List GuardedRow)
    (h : RowChecked required committed own queue row) :
    RowChecked required (committed ++ added) own queue row := by
  have hBalance : ∀ key, BalanceChecked committed own queue key →
      BalanceChecked (committed ++ added) own queue key := by
    intro key hChecked
    refine ⟨hChecked.count.imp_right fun h => h.imp_right fun hCount => ?_, hChecked.sums⟩
    simp only [postingsOfKey_append, List.length_append] at hCount ⊢
    omega
  cases row with
  | journalTransaction row => exact hBalance _ h
  | journalPosting row => exact hBalance _ h
  | ledgerEvent row =>
      refine ⟨h.schema, h.marker.imp_right fun h => h.imp_right fun h =>
        h.imp_right fun hMarker => hMarker.mono ?_⟩
      intro held hHeld
      simp only [List.mem_append] at hHeld ⊢
      exact hHeld.imp_left .inl
  | marker row => trivial

theorem SessionGuarded.mono {session : GuardedSession} (added : List GuardedRow)
    (h : SessionGuarded required committed session) :
    SessionGuarded required (committed ++ added) session where
  follows := h.follows.mono (List.subset_append_left _ _)
  checked := fun queue hQueue row hRow => (h.checked queue hQueue row hRow).mono added

theorem sessionGuarded_idle : SessionGuarded required committed .idle where
  follows := by
    intro before row after hOwn
    simp [GuardedSession.idle] at hOwn
  checked := by
    intro queue hQueue
    simp [GuardedSession.idle] at hQueue

/-- All checks of a session have passed: its rows may join the committed ones. -/
theorem CommittedGuarded.append (h : CommittedGuarded required committed)
    {session : GuardedSession} (hSession : SessionGuarded required committed session)
    (hQueue : session.queue = some []) :
    CommittedGuarded required (committed ++ session.own) := by
  have hChecked := hSession.checked [] hQueue
  have hBalance : ∀ key, BalanceChecked committed session.own [] key →
      BalancedRows (committed ++ session.own) key := by
    intro key hKey
    have hCount := hKey.count
    have hSums := hKey.sums
    simp only [List.not_mem_nil, false_or] at hCount hSums
    refine ⟨hCount, fun assetCode => ?_⟩
    rw [assetNet_append, h.assetNet_eq_zero, hSums, add_zero]
  constructor
  · intro key hExists
    obtain ⟨row, hRow, rfl⟩ := hExists
    rw [mem_transactionsIn, List.mem_append] at hRow
    obtain hOld | hNew := hRow
    · by_cases hPosted : postingsOfKey session.own row.key = []
      · -- the transaction got no postings
        have hOldBalanced := h.balanced row.key ⟨row, mem_transactionsIn.2 hOld, rfl⟩
        refine ⟨?_, fun assetCode => ?_⟩
        · rw [postingsOfKey_append, hPosted, List.append_nil]
          exact hOldBalanced.1
        · have hNone : assetNet session.own row.key assetCode = 0 := by
            rw [assetNet, hPosted]
            rfl
          rw [assetNet_append, hOldBalanced.2, hNone, add_zero]
      · obtain ⟨p, hp⟩ := List.exists_mem_of_ne_nil _ hPosted
        obtain ⟨hPosting, hKey⟩ := mem_postingsOfKey.1 hp
        exact hKey ▸ hBalance _ (hChecked _ hPosting)
    · exact hBalance _ (hChecked _ hNew)
  · intro event hEvent hRequired
    obtain hOld | hNew := List.mem_append.1 hEvent
    · have hProjected := h.projected event hOld hRequired
      exact ⟨hProjected.1, hProjected.2.mono (List.subset_append_left _ _)⟩
    · obtain ⟨hSchema, hMarker⟩ := hChecked _ hNew
      simp only [List.not_mem_nil, false_or] at hSchema hMarker
      exact ⟨hSchema.resolve_left (not_not_intro hRequired),
        hMarker.resolve_left (not_not_intro hRequired)⟩
  · intro row hRow
    obtain hOld | hNew := List.mem_append.1 hRow
    · exact (h.referenced row hOld).mono (List.subset_append_left _ _)
    · exact hSession.follows.referenced hNew

end Grown

/-! ## Steps -/

section Steps

variable {db db' : GuardedDatabase} {i : Nat} {session changed : GuardedSession}

theorem GuardedDatabase.mem_rows_withSession {row : GuardedRow}
    (h : row ∈ (db.withSession i changed).rows) : row ∈ db.rows ∨ row ∈ changed.own := by
  simp only [rows, withSession, List.mem_append, List.mem_flatMap] at h ⊢
  obtain hCommitted | ⟨held, hHeld, hRow⟩ := h
  · exact .inl (.inl hCommitted)
  · obtain hOld | rfl := List.mem_or_eq_of_mem_set hHeld
    · exact .inl (.inr ⟨held, hOld, hRow⟩)
    · exact .inr hRow

theorem GuardedDatabase.mem_rows_of_session {row : GuardedRow}
    (hSession : db.sessions[i]? = some session) (hRow : row ∈ session.own) :
    row ∈ db.rows :=
  List.mem_append_right _
    (List.mem_flatMap.2 ⟨session, List.mem_of_getElem? hSession, hRow⟩)

/-- A session that undoes some of its rows, or moves on with its checks. -/
theorem Guarded.withSession (h : Guarded required db)
    (hSession : db.sessions[i]? = some session) (hOwn : changed.own ⊆ session.own)
    (hChanged : SessionGuarded required db.committed changed) :
    Guarded required (db.withSession i changed) where
  committed := h.committed
  sessions := by
    intro held hHeld
    obtain hOld | rfl := List.mem_or_eq_of_mem_set hHeld
    · exact h.sessions held hOld
    · exact hChanged
  distinct := by
    have hRows : ∀ row ∈ (db.withSession i changed).rows, row ∈ db.rows := by
      intro row hRow
      obtain hOld | hNew := GuardedDatabase.mem_rows_withSession hRow
      · exact hOld
      · exact GuardedDatabase.mem_rows_of_session hSession (hOwn hNew)
    exact fun a b hA hB => h.distinct a b (hRows _ hA) (hRows _ hB)

theorem Follows.snoc {committed own : List GuardedRow} {row : GuardedRow}
    (h : Follows required committed own)
    (hRow : Referenced required (committed ++ own) row) :
    Follows required committed (own ++ [row]) := by
  intro before last after hOwn
  obtain ⟨after', rfl, rfl⟩ | ⟨rfl, rfl, rfl⟩ :
      (∃ after', own = before ++ last :: after' ∧ after = after' ++ [row])
      ∨ (own = before ∧ row = last ∧ after = []) := by
    rcases List.eq_nil_or_concat after with rfl | ⟨after', final, rfl⟩
    · right
      have hEnd := List.append_inj' hOwn rfl
      simp only [List.cons.injEq, and_true] at hEnd
      exact ⟨hEnd.1, hEnd.2, rfl⟩
    · left
      have hOwn' : own ++ [row] = (before ++ last :: after') ++ [final] := by
        simpa only [List.concat_eq_append, List.append_assoc, List.cons_append] using hOwn
      have hEnd := List.append_inj' hOwn' rfl
      simp only [List.cons.injEq, and_true] at hEnd
      exact ⟨after', hEnd.1, by rw [hEnd.2, List.concat_eq_append]⟩
  · exact h before last after' rfl
  · exact hRow

theorem Follows.take {committed own : List GuardedRow} (kept : Nat)
    (h : Follows required committed own) : Follows required committed (own.take kept) := by
  intro before row after hOwn
  apply h before row (after ++ own.drop kept)
  rw [← List.cons_append, ← List.append_assoc, ← hOwn, List.take_append_drop]

theorem Guarded.insert (h : Guarded required db)
    (hSession : db.sessions[i]? = some session) (hOpen : session.queue = none)
    {row : GuardedRow} (hDistinct : ∀ held ∈ db.rows, ¬row.Conflicts held)
    (hAccepted : row.Accepted required (db.committed ++ session.own)) :
    Guarded required (db.withSession i { session with own := session.own ++ [row] }) where
  committed := h.committed
  sessions := by
    intro held hHeld
    obtain hOld | rfl := List.mem_or_eq_of_mem_set hHeld
    · exact h.sessions held hOld
    · have hGuarded := h.sessions session (List.mem_of_getElem? hSession)
      refine ⟨hGuarded.follows.snoc hAccepted.referenced, fun queue hQueue => ?_⟩
      exact absurd (hOpen.symm.trans hQueue) (by simp)
  distinct := by
    have hRows : ∀ held ∈ (db.withSession i { session with own := session.own ++ [row] }).rows,
        held ∈ db.rows ∨ held = row := by
      intro held hHeld
      obtain hOld | hNew := GuardedDatabase.mem_rows_withSession hHeld
      · exact .inl hOld
      · obtain hOwn | hRow := List.mem_append.1 hNew
        · exact .inl (GuardedDatabase.mem_rows_of_session hSession hOwn)
        · exact .inr (List.mem_singleton.1 hRow)
    intro a b hA hB hId
    obtain hOldA | rfl := hRows _ hA
    · obtain hOldB | rfl := hRows _ hB
      · exact h.distinct a b hOldA hOldB hId
      · have hConflict : (GuardedRow.ledgerEvent b).Conflicts (.ledgerEvent a) :=
          Or.inl hId.symm
        exact absurd hConflict (hDistinct _ hOldA)
    · obtain hOldB | hEq := hRows _ hB
      · have hConflict : (GuardedRow.ledgerEvent a).Conflicts (.ledgerEvent b) := Or.inl hId
        exact absurd hConflict (hDistinct _ hOldB)
      · exact (GuardedRow.ledgerEvent.inj hEq).symm

theorem Guarded.finish (h : Guarded required db)
    (hSession : db.sessions[i]? = some session) (hQueue : session.queue = some []) :
    Guarded required { db with
      committed := db.committed ++ session.own
      sessions := db.sessions.set i .idle } where
  committed := h.committed.append (h.sessions session (List.mem_of_getElem? hSession)) hQueue
  sessions := by
    intro held hHeld
    obtain hOld | rfl := List.mem_or_eq_of_mem_set hHeld
    · exact (h.sessions held hOld).mono session.own
    · exact sessionGuarded_idle
  distinct := by
    have hRows : ∀ row, row ∈ (GuardedDatabase.rows { db with
        committed := db.committed ++ session.own
        sessions := db.sessions.set i .idle }) → row ∈ db.rows := by
      intro row hRow
      simp only [GuardedDatabase.rows, List.mem_append, List.mem_flatMap] at hRow
      obtain (hOld | hOwn) | ⟨held, hHeld, hRow⟩ := hRow
      · exact List.mem_append_left _ hOld
      · exact GuardedDatabase.mem_rows_of_session hSession hOwn
      · obtain hOld | rfl := List.mem_or_eq_of_mem_set hHeld
        · exact List.mem_append_right _ (List.mem_flatMap.2 ⟨held, hOld, hRow⟩)
        · simp [GuardedSession.idle] at hRow
    exact fun a b hA hB => h.distinct a b (hRows _ hA) (hRows _ hB)

theorem Guarded.step {action : Nat × SessionAction} (h : Guarded required db)
    (hStep : GuardStep required db action db') : Guarded required db' := by
  cases hStep with
  | insert row hSession hOpen hDistinct hAccepted =>
      exact h.insert hSession hOpen hDistinct hAccepted
  | rollbackTo kept hSession hOpen =>
      have hGuarded := h.sessions _ (List.mem_of_getElem? hSession)
      refine h.withSession hSession (List.take_subset _ _)
        ⟨hGuarded.follows.take kept, fun queue hQueue => ?_⟩
      exact absurd (hOpen.symm.trans hQueue) (by simp)
  | rollback hSession =>
      exact h.withSession hSession (List.nil_subset _) sessionGuarded_idle
  | commit hSession hOpen =>
      have hGuarded := h.sessions _ (List.mem_of_getElem? hSession)
      refine h.withSession hSession (fun _ hRow => hRow)
        ⟨hGuarded.follows, fun queue hQueue row hRow => ?_⟩
      rw [← Option.some.inj hQueue]
      exact rowChecked_deferred hRow
  | passes hSession hQueue hFire =>
      have hGuarded := h.sessions _ (List.mem_of_getElem? hSession)
      refine h.withSession hSession (fun _ hRow => hRow)
        ⟨hGuarded.follows, fun queue hNext row hRow => ?_⟩
      rw [← Option.some.inj hNext]
      exact RowChecked.fire h.committed hGuarded.follows hRow
        (hGuarded.checked _ hQueue row hRow) hFire
  | raises hSession hQueue hFire =>
      exact h.withSession hSession (List.nil_subset _) sessionGuarded_idle
  | finish hSession hQueue => exact h.finish hSession hQueue

section Posted

end Posted

end Steps

end TrackAnywhere.Ports
