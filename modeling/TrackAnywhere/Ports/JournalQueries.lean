import TrackAnywhere.Ports.AcceptedLogs
import TrackAnywhere.Ports.JournalCursor
import TrackAnywhere.Ports.ReversalChains
import TrackAnywhere.Verified.KeysetPages

/-!
# The journal, page by page

`listJournal` reads the transactions of a Book up to a position, in the order of
their cursors, with their postings, their card relation and the reversal on
either side.  The rows come from four outer joins; on the tables of a projected
log each join meets at most one row, so a transaction is one row of the result.
-/

namespace TrackAnywhere.Ports

open TrackAnywhere.Verified
open TrackAnywhere.Verified.Checked
open TrackAnywhere.Verified.KeyedSum
open TrackAnywhere.Verified.ChainedLog
open TrackAnywhere.Verified.KeysetPages

/-! ## The query -/

structure JournalPosting where
  postingId : UUID
  position : Nat
  accountId : UUID
  assetCode : AssetCode
  side : PostingSide
  units : Nat
deriving DecidableEq

structure CreditCardRelation where
  intent : CreditCardIntent
  cardAccountId : UUID
  counterAccountId : UUID
  originalTransactionId : Option UUID
deriving DecidableEq

structure JournalItem where
  transactionId : UUID
  effectiveAt : Instant
  bookPosition : Nat
  transactionKind : RecordedKind
  postings : List JournalPosting
  reversedByTransactionId : Option UUID
  reversesTransactionId : Option UUID
  creditCardRelation : Option CreditCardRelation
  descriptionRef : Option UUID
deriving DecidableEq

structure JournalPage where
  items : List JournalItem
  nextCursor : Option String
  asOfBookPosition : Nat
deriving DecidableEq

def JournalPostingRecord.view (posting : JournalPostingRecord) : JournalPosting where
  postingId := posting.postingId
  position := posting.postingPosition
  accountId := posting.accountId
  assetCode := posting.assetCode
  side := posting.side
  units := posting.units

def CreditCardTransactionRecord.relation (row : CreditCardTransactionRecord) :
    CreditCardRelation where
  intent := row.intent
  cardAccountId := row.cardAccountId
  counterAccountId := row.counterAccountId
  originalTransactionId := row.originalTransactionId

/-- The columns of `ORDER BY`. -/
def JournalTransactionRecord.journalKey (row : JournalTransactionRecord) : JournalKey :=
  .of row.effectiveAt row.sourcePosition row.transactionId

def JournalItem.journalKey (item : JournalItem) : JournalKey :=
  .of item.effectiveAt item.bookPosition item.transactionId

/-- `LEFT OUTER JOIN`: the rows that match, or one without columns. -/
def outerJoin {β : Type} (rows : List β) (on : β → Bool) : List (Option β) :=
  match rows.filter on with
  | [] => [none]
  | matched => matched.map some

/-- A transaction with the reversal on either side. -/
structure JournalRow where
  transaction : JournalTransactionRecord
  reversedBy : Option UUID
  reverses : Option UUID

/-- The rows of the statement, before the cursor and the order. -/
def journalRows (t : SyncTables) (asOf : Nat) : List JournalRow :=
  (t.journalTransactions.filter (·.sourcePosition ≤ asOf)).flatMap fun transaction =>
    (outerJoin t.transactionReversals fun r =>
        r.originalTransactionId = transaction.transactionId).flatMap fun reversedRelation =>
      (outerJoin t.transactionReversals fun r =>
          r.reversalTransactionId = transaction.transactionId).flatMap fun reversalRelation =>
        (outerJoin t.journalTransactions fun r => reversedRelation.any fun relation =>
            r.transactionId = relation.reversalTransactionId
              ∧ r.sourcePosition ≤ asOf).flatMap fun reversed =>
          (outerJoin t.journalTransactions fun r => reversalRelation.any fun relation =>
              r.transactionId = relation.originalTransactionId
                ∧ r.sourcePosition ≤ asOf).map fun original =>
            ⟨transaction, reversed.map (·.transactionId), original.map (·.transactionId)⟩

/-- The item of a row, with the postings and the card relation of its
transaction. -/
def JournalRow.item (t : SyncTables) (row : JournalRow) : JournalItem where
  transactionId := row.transaction.transactionId
  effectiveAt := row.transaction.effectiveAt
  bookPosition := row.transaction.sourcePosition
  transactionKind := row.transaction.transactionKind
  postings := ((t.journalPostings.filter fun p =>
    p.transactionId = row.transaction.transactionId).insertionSort
      (·.postingPosition ≤ ·.postingPosition)).map (·.view)
  reversedByTransactionId := row.reversedBy
  reversesTransactionId := row.reverses
  creditCardRelation := (t.creditCardTransactions.filter fun r =>
    r.transactionId = row.transaction.transactionId).getLast?.map (·.relation)
  descriptionRef := row.transaction.descriptionRef

/-- The place a page starts after. -/
def decodeAfter : Option String → Except JournalQueryError (Option JournalKey)
  | none => .ok none
  | some cursor => (decodeCursor cursor).map some

/-- `_list_journal` -/
def listJournalRows (store : EventStoreTables) (t : SyncTables) (bookId : UUID)
    (limit : Nat) (cursor : Option String) (asOfBookPosition : Option Nat)
    (transactionId : Option UUID) : Except JournalQueryError JournalPage := do
  require (1 ≤ limit ∧ limit ≤ 100) (.value "limit must be between 1 and 100")
  let head ← fetch (store.bookHead? bookId) (.lookup "Book not found")
  let asOf := asOfBookPosition.getD head.lastPosition
  require (asOf ≤ head.lastPosition)
    (.value "as_of_book_position is outside the Book head")
  let after ← decodeAfter cursor
  let selected := (journalRows t asOf).filter fun row =>
    transactionId.all (row.transaction.transactionId = ·)
      && beyond after row.transaction.journalKey
  let rows := (selected.insertionSort
    (·.transaction.journalKey ≤ ·.transaction.journalKey)).take (limit + 1)
  let items := (rows.take limit).map (·.item t)
  return {
    items := items
    nextCursor := if limit < rows.length then
      items.getLast?.map fun last => encodeCursor last.journalKey else none
    asOfBookPosition := asOf }

/-- `list_journal` -/
def listJournal (store : EventStoreTables) (t : SyncTables) (bookId : UUID)
    (limit : Nat) (cursor : Option String) (asOfBookPosition : Option Nat) :
    Except JournalQueryError JournalPage :=
  listJournalRows store t bookId limit cursor asOfBookPosition none

/-- `get_journal_transaction` -/
def getJournalTransaction (store : EventStoreTables) (t : SyncTables)
    (bookId transactionId : UUID) (asOfBookPosition : Option Nat) :
    Except JournalQueryError JournalItem := do
  let page ← listJournalRows store t bookId 1 none asOfBookPosition (some transactionId)
  fetch page.items.head? (.lookup "Transaction not found")

/-! ## Each transaction is one row -/

/-- The keys that the joins rely on. -/
structure JournalKeys (t : SyncTables) : Prop where
  transactionIds : (t.journalTransactions.map (·.transactionId)).Nodup
  originals : (t.transactionReversals.map (·.originalTransactionId)).Nodup
  reversals : (t.transactionReversals.map (·.reversalTransactionId)).Nodup

/-- A join on a unique column is a lookup. -/
theorem outerJoin_unique {β κ : Type} [DecidableEq κ] {rows : List β} {column : β → κ}
    (hUnique : (rows.map column).Nodup) (key : κ) :
    outerJoin rows (fun r => column r = key) = [rows.find? fun r => column r = key] := by
  unfold outerJoin
  induction rows with
  | nil => rfl
  | cons row rest ih =>
      obtain ⟨hNew, hRest⟩ := List.nodup_cons.1 hUnique
      by_cases hKey : column row = key
      · have hNone : rest.filter (fun r => column r = key) = [] := by
          rw [List.filter_eq_nil_iff]
          intro r hr hSame
          exact hNew (List.mem_map.2 ⟨r, hr, (of_decide_eq_true hSame).trans hKey.symm⟩)
        rw [List.filter_cons_of_pos (by simpa using hKey),
          List.find?_cons_of_pos (by simpa using hKey), hNone]
        rfl
      · rw [List.filter_cons_of_neg (by simpa using hKey),
          List.find?_cons_of_neg (by simpa using hKey)]
        exact ih hRest

/-- The reversal of a transaction, where both are visible. -/
def SyncTables.reversedBy? (t : SyncTables) (asOf : Nat) (transactionId : UUID) :
    Option UUID :=
  ((t.transactionReversals.find? fun r => r.originalTransactionId = transactionId).bind
    fun relation => (t.journalTransactions.filter (·.sourcePosition ≤ asOf)).find? fun r =>
      r.transactionId = relation.reversalTransactionId).map (·.transactionId)

/-- The original of a reversal, where both are visible. -/
def SyncTables.reverses? (t : SyncTables) (asOf : Nat) (transactionId : UUID) :
    Option UUID :=
  ((t.transactionReversals.find? fun r => r.reversalTransactionId = transactionId).bind
    fun relation => (t.journalTransactions.filter (·.sourcePosition ≤ asOf)).find? fun r =>
      r.transactionId = relation.originalTransactionId).map (·.transactionId)

/-- The row of a visible transaction. -/
def SyncTables.journalRow (t : SyncTables) (asOf : Nat)
    (transaction : JournalTransactionRecord) : JournalRow where
  transaction := transaction
  reversedBy := t.reversedBy? asOf transaction.transactionId
  reverses := t.reverses? asOf transaction.transactionId

/-- The joined rows are the visible transactions. -/
theorem journalRows_eq {t : SyncTables} (h : JournalKeys t) (asOf : Nat) :
    journalRows t asOf
      = (t.journalTransactions.filter (·.sourcePosition ≤ asOf)).map
          (t.journalRow asOf) := by
  have hVisible : ((t.journalTransactions.filter (·.sourcePosition ≤ asOf)).map
      (·.transactionId)).Nodup :=
    h.transactionIds.sublist (List.filter_sublist.map _)
  have hJoin : ∀ (relation : Option TransactionReversalRecord)
      (column : TransactionReversalRecord → UUID),
      outerJoin t.journalTransactions (fun r => relation.any fun found =>
          r.transactionId = column found ∧ r.sourcePosition ≤ asOf)
        = [relation.bind fun found =>
            (t.journalTransactions.filter (·.sourcePosition ≤ asOf)).find? fun r =>
              r.transactionId = column found] := by
    intro relation column
    cases relation with
    | none => simp [outerJoin]
    | some found =>
        rw [Option.bind_some, ← outerJoin_unique hVisible (column found), outerJoin,
          outerJoin, List.filter_filter]
        simp only [Option.any_some, Bool.decide_and]
  unfold journalRows
  simp only [outerJoin_unique h.originals, outerJoin_unique h.reversals, hJoin,
    List.flatMap_singleton, List.map_singleton]
  rw [List.map_eq_flatMap]
  rfl

/-! ## A page -/

section Page

variable {store : EventStoreTables} {t : SyncTables} {bookId : UUID} {asOf limit : Nat}

/-- The keys of the transactions up to a position, in the order of the pages. -/
def visibleKeys (t : SyncTables) (asOf : Nat) : List JournalKey :=
  ((t.journalTransactions.filter (·.sourcePosition ≤ asOf)).map
    (·.journalKey)).insertionSort (· ≤ ·)

theorem mem_visibleKeys {key : JournalKey} :
    key ∈ visibleKeys t asOf ↔ ∃ row ∈ t.journalTransactions,
      row.sourcePosition ≤ asOf ∧ row.journalKey = key := by
  unfold visibleKeys
  simp [and_assoc]

/-- Transactions have different keys, so the keys are in strict order. -/
theorem visibleKeys_sorted (h : JournalKeys t) (asOf : Nat) :
    (visibleKeys t asOf).Pairwise (· < ·) := by
  have hNodup : ((t.journalTransactions.filter (·.sourcePosition ≤ asOf)).map
      (·.journalKey)).Nodup := by
    refine List.Nodup.of_map (·.transactionId) ?_
    rw [List.map_map]
    exact h.transactionIds.sublist (List.filter_sublist.map _)
  have hUnique : (visibleKeys t asOf).Nodup :=
    (List.perm_insertionSort _ _).nodup_iff.2 hNodup
  exact ((List.pairwise_insertionSort (· ≤ ·) _).and hUnique).imp
    fun hPair => lt_of_le_of_ne hPair.1 hPair.2

/-- The selected rows have the visible keys past the cursor, in order. -/
theorem selectedRows_keys (h : JournalKeys t) (after : Option JournalKey) :
    (((journalRows t asOf).filter fun row =>
        (none : Option UUID).all (row.transaction.transactionId = ·)
          && beyond after row.transaction.journalKey).insertionSort
      (·.transaction.journalKey ≤ ·.transaction.journalKey)).map
        (·.transaction.journalKey)
      = past (visibleKeys t asOf) after := by
  have hKeys : ((journalRows t asOf).filter fun row =>
        (none : Option UUID).all (row.transaction.transactionId = ·)
          && beyond after row.transaction.journalKey).map
        (·.transaction.journalKey)
      = ((t.journalTransactions.filter (·.sourcePosition ≤ asOf)).map
          (·.journalKey)).filter (beyond after) := by
    rw [journalRows_eq h, List.filter_map, List.filter_map, List.map_map]
    rfl
  rw [List.map_insertionSort _ (· ≤ ·) _ _ fun _ _ _ _ => Iff.rfl, hKeys]
  refine List.Perm.eq_of_pairwise' (r := (· ≤ ·)) (List.pairwise_insertionSort _ _)
    ((List.pairwise_insertionSort _ _).sublist List.filter_sublist) ?_
  exact (List.perm_insertionSort _ _).trans ((List.perm_insertionSort _ _).filter _).symm

/-- The rows of a page have the keys of the keyset page. -/
theorem listJournal_page (h : JournalKeys t) {head : BookEventHeadRecord}
    (hHead : store.bookHead? bookId = some head) (hAsOf : asOf ≤ head.lastPosition)
    (hLimit : 1 ≤ limit ∧ limit ≤ 100) {cursor : Option String}
    {after : Option JournalKey} (hCursor : decodeAfter cursor = .ok after) :
    ∃ shown, listJournal store t bookId limit cursor (some asOf) = .ok shown
      ∧ shown.items.map (·.journalKey) = (page (visibleKeys t asOf) after limit).items
      ∧ shown.nextCursor = (page (visibleKeys t asOf) after limit).next.map encodeCursor := by
  have hKeys := @selectedRows_keys t asOf h after
  simp only [listJournal, listJournalRows, bind_eq_ok, require_eq_ok, fetch_eq_ok,
    pure_eq_ok, exists_const]
  refine ⟨_, ⟨hLimit, head, hHead, hAsOf, after, hCursor, rfl⟩, ?_, ?_⟩
  · dsimp only
    rw [page, ← hKeys, List.map_map, List.map_take, List.map_take]
    rfl
  · dsimp only
    rw [page, ← hKeys]
    dsimp only [Option.getD_some]
    rw [← List.map_take, ← List.map_take, List.length_map, List.getLast?_map,
      List.getLast?_map]
    split_ifs
    · rw [Option.map_map, Option.map_map]
      rfl
    · rfl

end Page

/-! ## The keys of a projected log -/

section Projected

variable {ledger events more : List LedgerEventRecord} {bookId : UUID}
  {t t' : SyncTables} {asOf : Nat}

/-- A reversal is also the transaction of its event. -/
theorem transactionKey?_of_reversalRow? {stored : LedgerEventRecord}
    {row : TransactionReversalRecord} (h : stored.reversalRow? = some row) :
    stored.transactionKey?.map (·.transactionId) = some row.reversalTransactionId := by
  obtain ⟨contract, hContract, hRow⟩ := Option.bind_eq_some_iff.1 h
  unfold LedgerEventRecord.transactionKey? LedgerEventRecord.financialFact?
  rw [hContract]
  obtain ⟨payload, hValid⟩ := contract
  cases payload with
  | journalTransactionReversed p =>
      cases hRow
      rfl
  | _ => exact nomatch hRow

/-- A projected log has the keys of the joins. -/
theorem journalKeys_run (hDistinct : (events.map (·.eventId)).Nodup)
    (hRun : Run (Projects ledger bookId) SyncTables.empty events t) : JournalKeys t := by
  have hHistory := journalHistory_run hDistinct hRun
  refine ⟨hHistory.transactionIds, reversedOnce_run hRun, ?_⟩
  have hSublist : ∀ events : List LedgerEventRecord,
      ((events.filterMap (·.reversalRow?)).map (·.reversalTransactionId)).Sublist
        ((events.filterMap (·.transactionKey?)).map (·.transactionId)) := by
    intro events
    induction events with
    | nil => exact List.Sublist.slnil
    | cons e rest ih =>
        cases hRow : e.reversalRow? with
        | none =>
            rw [List.filterMap_cons_none hRow]
            exact ih.trans ((List.sublist_cons_self e rest).filterMap _ |>.map _)
        | some row =>
            have hKey := transactionKey?_of_reversalRow? hRow
            obtain ⟨key, hSome, hId⟩ := Option.map_eq_some_iff.1 hKey
            rw [List.filterMap_cons_some hRow, List.filterMap_cons_some hSome,
              List.map_cons, List.map_cons, hId]
            exact ih.cons_cons _
  rw [hHistory.reversals]
  refine List.Nodup.sublist (hSublist events) ?_
  rw [← hHistory.transactions, List.map_map]
  exact hHistory.transactionIds

/-- The place in the journal that the columns of the source give. -/
def TransactionKey.journalKey (key : TransactionKey) : JournalKey :=
  .of key.effectiveAt key.sourcePosition key.transactionId

/-- The visible keys are those of the events up to the position. -/
theorem visibleKeys_history (h : JournalHistory events t) (asOf : Nat) :
    visibleKeys t asOf = (((events.filterMap (·.transactionKey?)).filter
      (·.sourcePosition ≤ asOf)).map (·.journalKey)).insertionSort (· ≤ ·) := by
  rw [← h.transactions, List.filter_map, List.map_map]
  rfl

theorem bookPosition_of_transactionKey? {stored : LedgerEventRecord} {key : TransactionKey}
    (h : stored.transactionKey? = some key) : key.sourcePosition = stored.bookPosition := by
  obtain ⟨fact, -, rfl⟩ := Option.map_eq_some_iff.1 h
  rfl

/-- Later events add no visible keys. -/
theorem visibleKeys_append (h : JournalHistory events t)
    (h' : JournalHistory (events ++ more) t') (hLater : ∀ e ∈ more, asOf < e.bookPosition) :
    visibleKeys t' asOf = visibleKeys t asOf := by
  have hMore : (more.filterMap (·.transactionKey?)).filter (·.sourcePosition ≤ asOf) = [] := by
    rw [List.filter_eq_nil_iff]
    intro key hKey
    obtain ⟨e, he, hSome⟩ := List.mem_filterMap.1 hKey
    have hPosition := bookPosition_of_transactionKey? hSome
    have hAfter := hLater e he
    simp only [decide_eq_true_eq]
    omega
  rw [visibleKeys_history h, visibleKeys_history h', List.filterMap_append,
    List.filter_append, hMore, List.append_nil]

end Projected

/-! ## Page after page -/

/-- A request for a page: the tables at that moment, and the limit. -/
structure JournalRead where
  store : EventStoreTables
  tables : SyncTables
  limit : Nat

/-- The tables are those of an accepted and projected log, and the limit is one
that the query allows. -/
structure JournalRead.Sound (bookId : UUID) (read : JournalRead) : Prop where
  log : AcceptedLog read.store bookId
  opened : (read.store.bookHead? bookId).isSome
  projected : Run (Projects read.store.events bookId) SyncTables.empty
    (read.store.bookEvents bookId) read.tables
  limit : 1 ≤ read.limit ∧ read.limit ≤ 100

/-- A reader asks for the first page, and then for the page of each next cursor,
as of one position. -/
def followJournal (bookId : UUID) (asOf : Nat) :
    Option String → List JournalRead → Except JournalQueryError (List JournalPage)
  | _, [] => .ok []
  | cursor, read :: reads => do
      let shown ← listJournal read.store read.tables bookId read.limit cursor (some asOf)
      match shown.nextCursor with
      | none => pure [shown]
      | some next => do
          let rest ← followJournal bookId asOf (some next) reads
          pure (shown :: rest)

/-- Where every request sees the same keys, the pages are the keyset pages. -/
theorem followJournal_pages {bookId : UUID} {asOf : Nat} {keys : List JournalKey}
    (hPositions : ∀ key ∈ keys, 1 ≤ key.position ∧ key.position ≤ bigintMax)
    {reads : List JournalRead}
    (hReads : ∀ read ∈ reads, JournalKeys read.tables
      ∧ (1 ≤ read.limit ∧ read.limit ≤ 100) ∧ visibleKeys read.tables asOf = keys
      ∧ ∃ head, read.store.bookHead? bookId = some head ∧ asOf ≤ head.lastPosition)
    {cursor : Option String} {after : Option JournalKey}
    (hCursor : decodeAfter cursor = .ok after) :
    ∃ pages, followJournal bookId asOf cursor reads = .ok pages
      ∧ pages.map (fun shown => shown.items.map (·.journalKey))
        = (follow keys after (reads.map (·.limit))).map (·.items)
      ∧ pages.map (·.nextCursor)
        = (follow keys after (reads.map (·.limit))).map (·.next.map encodeCursor) := by
  induction reads generalizing cursor after with
  | nil => exact ⟨[], rfl, rfl, rfl⟩
  | cons read reads ih =>
      obtain ⟨hKeys, hLimit, rfl, head, hHead, hAsOf⟩ := hReads read List.mem_cons_self
      obtain ⟨shown, hShown, hItems, hNext⟩ :=
        listJournal_page hKeys hHead hAsOf hLimit hCursor
      unfold followJournal
      rw [hShown, List.map_cons, follow]
      dsimp only [bind, Except.bind]
      cases hCase : (page (visibleKeys read.tables asOf) after read.limit).next with
      | none =>
          rw [hCase] at hNext
          rw [hNext]
          refine ⟨[shown], rfl, ?_, ?_⟩
          · rw [List.map_singleton, List.map_singleton, hItems]
          · rw [List.map_singleton, List.map_singleton, hNext, hCase]
      | some next =>
          rw [hCase, Option.map_some] at hNext
          obtain ⟨hFirst, hLast⟩ := hPositions next (mem_of_next hCase)
          have hDecoded : decodeAfter (some (encodeCursor next)) = .ok (some next) := by
            rw [decodeAfter, decodeCursor_encodeCursor hFirst hLast]
            rfl
          obtain ⟨pages, hPages, hRest, hCursors⟩ := ih
            (fun other hOther => hReads other (List.mem_cons_of_mem _ hOther)) hDecoded
          rw [hNext]
          dsimp only
          rw [hPages]
          refine ⟨shown :: pages, rfl, ?_, ?_⟩
          · rw [List.map_cons, List.map_cons, hItems, hRest]
          · rw [List.map_cons, List.map_cons, hNext, hCase, hCursors]
            rfl

/-- The transactions of a log have positions in its range. -/
theorem position_of_mem_visibleKeys {store : EventStoreTables} {bookId : UUID}
    {t : SyncTables} {asOf : Nat} (hLog : AcceptedLog store bookId)
    (hHistory : JournalHistory (store.bookEvents bookId) t) {key : JournalKey}
    (hKey : key ∈ visibleKeys t asOf) : 1 ≤ key.position ∧ key.position ≤ asOf := by
  obtain ⟨row, hRow, hVisible, rfl⟩ := mem_visibleKeys.1 hKey
  obtain ⟨e, he, hSource⟩ := hHistory.source_of_transaction hRow
  have hPosition : row.sourcePosition = e.bookPosition :=
    bookPosition_of_transactionKey? hSource
  have hRange := hLog.numbered
  unfold Numbered at hRange
  have hMem : e.bookPosition ∈ (store.bookEvents bookId).map (·.bookPosition) :=
    List.mem_map.2 ⟨e, he, rfl⟩
  rw [hRange, List.mem_range'_1] at hMem
  refine ⟨?_, hVisible⟩
  show 1 ≤ row.sourcePosition
  omega

/-- For a position that the first request may ask for, following the cursors
shows transactions up to that position once and in order, whatever is appended
between the requests; as many requests as there are transactions show all of
them.  A cursor is read back to the place it was written for. -/
theorem journalPages_enumerate {bookId : UUID} {asOf : Nat} {first : JournalRead}
    {reads : List JournalRead} (hSound : ∀ read ∈ first :: reads, read.Sound bookId)
    (hGrows : (first :: reads).IsChain fun a b =>
      a.store.bookEvents bookId <+: b.store.bookEvents bookId)
    (hAsOf : ∀ head ∈ first.store.bookHead? bookId, asOf ≤ head.lastPosition)
    (hRange : asOf ≤ bigintMax) :
    (∃ pages, followJournal bookId asOf none (first :: reads) = .ok pages
      ∧ (pages.flatMap (·.items)).map (·.journalKey) <+: visibleKeys first.tables asOf
      ∧ ((visibleKeys first.tables asOf).length ≤ reads.length →
          (pages.flatMap (·.items)).map (·.journalKey) = visibleKeys first.tables asOf
          ∧ pages.getLast?.map (·.nextCursor) = some none))
    ∧ (visibleKeys first.tables asOf).Pairwise (· < ·)
    ∧ (∀ key, key ∈ visibleKeys first.tables asOf ↔ ∃ row ∈ first.tables.journalTransactions,
        row.sourcePosition ≤ asOf ∧ row.journalKey = key)
    ∧ ∀ key : JournalKey, 1 ≤ key.position → key.position ≤ bigintMax →
        decodeCursor (encodeCursor key) = .ok key := by
  have hFirst := hSound first List.mem_cons_self
  have hFirstHistory := journalHistory_run hFirst.log.distinct hFirst.projected
  have hExtends : ∀ read ∈ first :: reads,
      first.store.bookEvents bookId <+: read.store.bookEvents bookId := by
    intro read hRead
    rcases List.mem_cons.1 hRead with rfl | hRead
    · exact List.prefix_rfl
    · exact List.rel_of_pairwise_cons (List.isChain_iff_pairwise.1 hGrows) hRead
  obtain ⟨firstHead, hFirstHead⟩ := Option.isSome_iff_exists.1 hFirst.opened
  have hWithin := hAsOf firstHead hFirstHead
  rw [hFirst.log.head firstHead hFirstHead] at hWithin
  have hReads : ∀ read ∈ first :: reads, JournalKeys read.tables
      ∧ (1 ≤ read.limit ∧ read.limit ≤ 100)
      ∧ visibleKeys read.tables asOf = visibleKeys first.tables asOf
      ∧ ∃ head, read.store.bookHead? bookId = some head ∧ asOf ≤ head.lastPosition := by
    intro read hRead
    have hRow := hSound read hRead
    obtain ⟨more, hMore⟩ := hExtends read hRead
    obtain ⟨head, hHead⟩ := Option.isSome_iff_exists.1 hRow.opened
    have hHistory := journalHistory_run hRow.log.distinct hRow.projected
    have hNumbered := hRow.log.numbered
    rw [← hMore, numbered_append] at hNumbered
    refine ⟨journalKeys_run hRow.log.distinct hRow.projected, hRow.limit, ?_, head, hHead, ?_⟩
    · rw [← hMore] at hHistory
      refine visibleKeys_append hFirstHistory hHistory fun e he => ?_
      have hLater := hNumbered.2
      unfold Numbered at hLater
      have hMem : e.bookPosition ∈ more.map (·.bookPosition) := List.mem_map.2 ⟨e, he, rfl⟩
      rw [hLater, List.mem_range'_1] at hMem
      omega
    · rw [hRow.log.head head hHead, ← hMore, List.length_append]
      omega
  have hKeys := journalKeys_run hFirst.log.distinct hFirst.projected
  have hSorted := visibleKeys_sorted hKeys asOf
  have hPositions : ∀ key ∈ visibleKeys first.tables asOf,
      1 ≤ key.position ∧ key.position ≤ bigintMax := by
    intro key hKey
    have hPosition := position_of_mem_visibleKeys hFirst.log hFirstHistory hKey
    exact ⟨hPosition.1, hPosition.2.trans hRange⟩
  refine ⟨?_, hSorted, fun key => mem_visibleKeys,
    fun key hOne hMax => decodeCursor_encodeCursor hOne hMax⟩
  have hStart : decodeAfter none = .ok none := rfl
  obtain ⟨pages, hPages, hItems, hCursors⟩ :=
    followJournal_pages hPositions hReads hStart
  have hShown : (pages.flatMap (·.items)).map (·.journalKey)
      = (follow (visibleKeys first.tables asOf) none
          ((first :: reads).map (·.limit))).flatMap (·.items) := by
    rw [List.map_flatMap, List.flatMap_def, hItems, List.flatMap_def]
  have hLimits : ∀ limit ∈ (first :: reads).map (·.limit), 0 < limit := by
    intro limit hLimit
    obtain ⟨read, hRead, rfl⟩ := List.mem_map.1 hLimit
    exact (hReads read hRead).2.1.1
  refine ⟨pages, hPages, ?_, fun hEnough => ?_⟩
  · have hPrefix := @follow_initial _ _ _ hSorted none _ hLimits
    rwa [past_none, ← hShown] at hPrefix
  · obtain ⟨hAll, hEnd⟩ := @follow_complete _ _ _ hSorted none _ hLimits (by
      rw [past_none, List.length_map, List.length_cons]
      omega)
    refine ⟨by rw [hShown, hAll, past_none], ?_⟩
    rw [← List.getLast?_map, hCursors, List.getLast?_map]
    cases hLast : (follow (visibleKeys first.tables asOf) none
        ((first :: reads).map (·.limit))).getLast? with
    | none =>
        rw [hLast] at hEnd
        exact nomatch hEnd
    | some final =>
        rw [hLast] at hEnd
        have hNone : final.next = none := Option.some.inj hEnd
        rw [Option.map_some, hNone]
        rfl

/-! ### Two pages, and a back-dated transaction between them -/

/-- A transaction that takes effect before those already recorded. -/
def sampleBackdated : LedgerEventRecord :=
  sampleEvent 3 "journal_transaction" 12
    ⟨⟨2026, 6, 1, sample_year, by decide, by decide⟩, 0⟩
    (.journalTransactionPosted
      ⟨12, .standard, none, samplePostings 24 25 .debit, none, []⟩)

/-- The request after these events, for one transaction. -/
def sampleRead (events : List LedgerEventRecord) : JournalRead where
  store := ⟨[⟨1, events.length, 1⟩], [], events⟩
  tables := events.foldl (projected sampleCatalog events) SyncTables.empty
  limit := 1

theorem sampleRead_two : (sampleRead [samplePosted, sampleReversed]).Sound 1 := by
  refine ⟨⟨by decide, rfl, by decide, by decide, ?_⟩, rfl, ?_, by decide⟩
  · rintro head ⟨⟩
    rfl
  · exact .cons (projects_projected sampleCatalog (by decide) rfl (by decide))
      (.cons (projects_projected sampleCatalog (by decide) rfl (by decide)) (.nil _))

theorem sampleRead_three :
    (sampleRead [samplePosted, sampleReversed, sampleBackdated]).Sound 1 := by
  refine ⟨⟨by decide, rfl, by decide, by decide, ?_⟩, rfl, ?_, by decide⟩
  · rintro head ⟨⟩
    rfl
  · exact .cons (projects_projected sampleCatalog (by decide) rfl (by decide))
      (.cons (projects_projected sampleCatalog (by decide) rfl (by decide))
        (.cons (projects_projected sampleCatalog (by decide) rfl (by decide)) (.nil _)))

theorem journalPages_enumerate_sample :
    ∃ pages, followJournal 1 2 none
        [sampleRead [samplePosted, sampleReversed],
          sampleRead [samplePosted, sampleReversed, sampleBackdated],
          sampleRead [samplePosted, sampleReversed, sampleBackdated]] = .ok pages
      ∧ ((pages.flatMap (·.items)).map (·.journalKey)).map (·.transactionId) = [10, 11] := by
  obtain ⟨⟨pages, hPages, -, hAll⟩, -⟩ := @journalPages_enumerate 1 2
    (sampleRead [samplePosted, sampleReversed])
    [sampleRead [samplePosted, sampleReversed, sampleBackdated],
      sampleRead [samplePosted, sampleReversed, sampleBackdated]]
    (by simp [sampleRead_two, sampleRead_three])
    (by decide) (by decide) (by decide)
  refine ⟨pages, hPages, ?_⟩
  rw [(hAll (by decide)).1]
  decide

end TrackAnywhere.Ports
