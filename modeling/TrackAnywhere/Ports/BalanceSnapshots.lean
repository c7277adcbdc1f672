import TrackAnywhere.Ports.AccountBalances

/-!
# Balances at a position

`_get_book_balances` reads the head of the Book, then the balances, then the
accounts, by one statement after another.  Under the default isolation of the
engine each statement sees what is committed when it starts, so that commits of
the same Book may fall between any two of them.

A snapshot carries the position of the head that was read first.  Balances of a
past position are summed from the postings up to it, which no later commit
changes.  The current ones are the rows of `account_balances`, as they stand at
a later statement.
-/

namespace TrackAnywhere.Ports

open TrackAnywhere.Verified
open TrackAnywhere.Verified.Checked
open TrackAnywhere.Verified.KeyedSum

/-! ## The Book -/

inductive AccountStatus
  | active
  | closed
deriving DecidableEq

/-- The columns of `accounts` that a balance is shown with. -/
structure BalanceAccount where
  account : AccountRecord
  status : AccountStatus
deriving DecidableEq

def BalanceAccount.key (row : BalanceAccount) : BalanceKey :=
  (row.account.accountId, row.account.assetCode)

/-- What is committed of one Book: `last_position` of its head, its events, their
projections and its accounts. -/
structure BalanceBook where
  lastPosition : Option Nat
  events : List LedgerEventRecord
  tables : SyncTables
  accounts : List BalanceAccount

namespace BalanceBook

/-- A new Book. -/
def opened (accounts : List BalanceAccount) : BalanceBook where
  lastPosition := some 0
  events := []
  tables := SyncTables.empty
  accounts := accounts

def account? (book : BalanceBook) (key : BalanceKey) : Option BalanceAccount :=
  book.accounts.find? fun row => row.key = key

end BalanceBook

/-- One commit: a batch of events at the next positions, each projected, or a change
of the accounts.  Accounts are renamed, closed and reopened, and new ones are added;
postings refer to accounts. -/
structure Commits (ledger : List LedgerEventRecord) (bookId : UUID) (book : BalanceBook)
    (batch : List LedgerEventRecord) (book' : BalanceBook) : Prop where
  head : ∃ head, book.lastPosition = some head
    ∧ book'.lastPosition = some (head + batch.length)
    ∧ batch.map (·.bookPosition) = List.range' (head + 1) batch.length
  events : book'.events = book.events ++ batch
  projected : Run (Projects ledger bookId) book.tables batch book'.tables
  accounts : ∀ row ∈ book.accounts, ∃ row' ∈ book'.accounts, row'.key = row.key
  references : ∀ posting ∈ book'.tables.journalPostings, ∃ row ∈ book'.accounts,
    row.key = (posting.accountId, posting.assetCode)

/-! ## The query -/

structure BalanceItem where
  accountId : UUID
  assetCode : AssetCode
  accountType : AccountType
  accountSubtype : Option String
  accountStatus : AccountStatus
  rawAccountingUnits : Int
  naturalUnits : Int
  normalSide : PostingSide
  outstandingUnits : Option Int
  overpaymentUnits : Option Int
deriving DecidableEq

def BalanceItem.key (item : BalanceItem) : BalanceKey := (item.accountId, item.assetCode)

/-- `build_balance_item` -/
def buildBalanceItem (row : BalanceAccount) (rawAccountingUnits : Int) : BalanceItem :=
  let creditNormal : Bool := row.account.accountType = .liability
    ∨ row.account.accountType = .equity ∨ row.account.accountType = .income
  let naturalUnits := if creditNormal then -rawAccountingUnits else rawAccountingUnits
  let isLiability : Bool := row.account.accountType = .liability
  { accountId := row.account.accountId
    assetCode := row.account.assetCode
    accountType := row.account.accountType
    accountSubtype := row.account.accountSubtype
    accountStatus := row.status
    rawAccountingUnits := rawAccountingUnits
    naturalUnits := naturalUnits
    normalSide := if creditNormal then .credit else .debit
    outstandingUnits := if isLiability then some (max naturalUnits 0) else none
    overpaymentUnits := if isLiability then some (max (-naturalUnits) 0) else none }

structure BalanceSnapshot where
  items : List BalanceItem
  asOfBookPosition : Nat
  projectionMatchesReference : Option Bool
deriving DecidableEq

inductive BalanceError
  | lookup (message : String)
  | value (message : String)
  | runtime (message : String)
deriving DecidableEq

/-- The Book as each statement of a call sees it. -/
structure BalanceStatements where
  head : BalanceBook
  values : BalanceBook
  reference : BalanceBook
  accounts : BalanceBook

/-- The rows of `account_balances`, as a dictionary of their units. -/
def projectionBalances (t : SyncTables) : Dict BalanceKey Int where
  entries := t.accountBalances.entries.map fun row => ⟨row.1, row.2.balanceUnits⟩
  nodupKeys := by
    have hKeys := t.accountBalances.nodupKeys
    simpa only [List.NodupKeys, List.keys, List.map_map, Function.comp_def] using hKeys

/-- Equality of dictionaries. -/
def SameBalances (a b : Dict BalanceKey Int) : Prop :=
  ∀ key ∈ a.keys ++ b.keys, a.lookup key = b.lookup key

instance (a b : Dict BalanceKey Int) : Decidable (SameBalances a b) :=
  inferInstanceAs (Decidable (∀ key ∈ a.keys ++ b.keys, a.lookup key = b.lookup key))

/-- The order of the items: identifiers in order of their texts are in order of their
numbers. -/
def BalanceKey.le (a b : BalanceKey) : Prop :=
  a.1 < b.1 ∨ a.1 = b.1 ∧ a.2.1 ≤ b.2.1

instance : DecidableRel BalanceKey.le := fun a b =>
  inferInstanceAs (Decidable (a.1 < b.1 ∨ a.1 = b.1 ∧ a.2.1 ≤ b.2.1))

def balanceItems (values : Dict BalanceKey Int) (accounts : BalanceBook) :
    List BalanceItem :=
  (values.keys.insertionSort BalanceKey.le).filterMap fun key => do
    let row ← accounts.account? key
    let rawAccountingUnits ← values.lookup key
    return buildBalanceItem row rawAccountingUnits

/-- The balances that are shown, and whether the projection was found to match. -/
def shownBalances (seen : BalanceStatements) (asOfBookPosition : Option Nat)
    (verifyCurrentProjection : Bool) (asOf : Nat) : Dict BalanceKey Int × Option Bool :=
  match asOfBookPosition, verifyCurrentProjection with
  | none, false => (projectionBalances seen.values.tables, none)
  | none, true =>
      let projection := projectionBalances seen.values.tables
      let reference := loadReferenceBalances seen.reference.tables asOf
      if SameBalances projection reference then (projection, some true)
      else (reference, some false)
  | some _, _ => (loadReferenceBalances seen.values.tables asOf, none)

/-- `_get_book_balances` -/
def getBalances (seen : BalanceStatements) (asOfBookPosition : Option Nat)
    (verifyCurrentProjection : Bool) : Except BalanceError BalanceSnapshot := do
  let head ← fetch seen.head.lastPosition (.lookup "Book not found")
  let asOf := asOfBookPosition.getD head
  require (asOf ≤ head) (.value "as_of_book_position is outside the Book head")
  let shown := shownBalances seen asOfBookPosition verifyCurrentProjection asOf
  require (∀ key ∈ shown.1.keys, (seen.accounts.account? key).isSome)
    (.runtime "balance projection references an unavailable account")
  return {
    items := balanceItems shown.1 seen.accounts
    asOfBookPosition := asOf
    projectionMatchesReference := shown.2 }

/-- `get_book_balances` -/
def getBookBalances (seen : BalanceStatements) (asOfBookPosition : Option Nat) :
    Except BalanceError BalanceSnapshot :=
  getBalances seen asOfBookPosition false

/-- `get_verified_book_balances` -/
def getVerifiedBookBalances (seen : BalanceStatements) :
    Except BalanceError BalanceSnapshot :=
  getBalances seen none true

/-! ## Dictionaries of balances -/

theorem lookup_projectionBalances (t : SyncTables) (key : BalanceKey) :
    (projectionBalances t).lookup key = balanceUnits t key := by
  exact List.dlookup_map₂ (f := fun _ (row : AccountBalanceRecord) => row.balanceUnits) key

theorem sameBalances_iff {a b : Dict BalanceKey Int} :
    SameBalances a b ↔ ∀ key, a.lookup key = b.lookup key := by
  constructor
  · intro h key
    by_cases hKey : key ∈ a.keys ++ b.keys
    · exact h key hKey
    · rw [List.mem_append, not_or] at hKey
      rw [AList.lookup_eq_none.2 (fun h => hKey.1 (AList.mem_keys.1 h)),
        AList.lookup_eq_none.2 (fun h => hKey.2 (AList.mem_keys.1 h))]
  · exact fun h key _ => h key

/-! ## The postings up to a position -/

/-- The fold of the postings of a key up to a position. -/
def foldedUnits (events : List LedgerEventRecord) (asOf : Nat) (key : BalanceKey) :
    Option Int :=
  let posted := signedPostings (events.filter fun e => e.bookPosition ≤ asOf)
  if key ∈ posted.map Prod.fst then some (sumAt posted key) else none

/-- Postings that give no key a balance, and take none away. -/
def BalancesKept (events more : List LedgerEventRecord) : Prop :=
  ∀ key ∈ (signedPostings more).map Prod.fst,
    key ∈ (signedPostings events).map Prod.fst ∧ sumAt (signedPostings more) key = 0

instance (events more : List LedgerEventRecord) : Decidable (BalancesKept events more) :=
  inferInstanceAs (Decidable (∀ key ∈ (signedPostings more).map Prod.fst, _))

theorem signedPostings_appended (events more : List LedgerEventRecord) :
    signedPostings (events ++ more) = signedPostings events ++ signedPostings more :=
  List.flatMap_append

/-- The balances of two histories, of which one continues the other. -/
theorem balances_append_iff (events more : List LedgerEventRecord) :
    (∀ key, (if key ∈ (signedPostings (events ++ more)).map Prod.fst then
          some (sumAt (signedPostings (events ++ more)) key) else none)
        = if key ∈ (signedPostings events).map Prod.fst then
            some (sumAt (signedPostings events) key) else none)
      ↔ BalancesKept events more := by
  simp only [signedPostings_appended, List.map_append, List.mem_append, sumAt_append]
  constructor
  · intro h key hMore
    have hKey := h key
    rw [if_pos (.inr hMore)] at hKey
    by_cases hEvents : key ∈ (signedPostings events).map Prod.fst
    · rw [if_pos hEvents, Option.some.injEq] at hKey
      exact ⟨hEvents, by omega⟩
    · rw [if_neg hEvents] at hKey
      exact absurd hKey (by simp)
  · intro h key
    by_cases hMore : key ∈ (signedPostings more).map Prod.fst
    · obtain ⟨hEvents, hZero⟩ := h key hMore
      rw [if_pos (.inl hEvents), if_pos hEvents, hZero, add_zero]
    · rw [sumAt_eq_zero hMore, add_zero]
      simp only [hMore, or_false]

/-! ## Runs of commits -/

section Commits

variable {ledger : List LedgerEventRecord} {bookId : UUID}
  {book book' : BalanceBook} {batch : List LedgerEventRecord}
  {batches : List (List LedgerEventRecord)}

/-- What every committed state of the Book keeps. -/
structure BalanceBookKept (ledger : List LedgerEventRecord) (bookId : UUID)
    (book : BalanceBook) : Prop where
  projected : Run (Projects ledger bookId) SyncTables.empty book.events book.tables
  order : book.events.Pairwise fun a b => a.bookPosition < b.bookPosition
  head : ∃ head, book.lastPosition = some head ∧ ∀ e ∈ book.events, e.bookPosition ≤ head
  references : ∀ posting ∈ book.tables.journalPostings, ∃ row ∈ book.accounts,
    row.key = (posting.accountId, posting.assetCode)

theorem balanceBookKept_opened (accounts : List BalanceAccount) :
    BalanceBookKept ledger bookId (BalanceBook.opened accounts) where
  projected := .nil _
  order := .nil
  head := ⟨0, rfl, by simp [BalanceBook.opened]⟩
  references := by simp [BalanceBook.opened, SyncTables.empty]

theorem Commits.positions (h : Commits ledger bookId book batch book') {head : Nat}
    (hHead : book.lastPosition = some head) :
    batch.Pairwise (fun a b => a.bookPosition < b.bookPosition)
      ∧ ∀ e ∈ batch, head < e.bookPosition ∧ e.bookPosition ≤ head + batch.length := by
  obtain ⟨head', hHead', -, hPositions⟩ := h.head
  obtain rfl : head' = head := Option.some.inj (hHead'.symm.trans hHead)
  constructor
  · have hSorted : (batch.map (·.bookPosition)).Pairwise (· < ·) := by
      rw [hPositions]
      exact List.pairwise_lt_range'
    exact List.pairwise_map.1 hSorted
  · intro e he
    have hMem : e.bookPosition ∈ List.range' (head' + 1) batch.length := by
      rw [← hPositions]
      exact List.mem_map_of_mem he
    rw [List.mem_range'_1] at hMem
    omega

theorem BalanceBookKept.step (h : BalanceBookKept ledger bookId book)
    (hCommits : Commits ledger bookId book batch book') :
    BalanceBookKept ledger bookId book' := by
  obtain ⟨head, hHead, hBefore⟩ := h.head
  obtain ⟨hOrder, hBatch⟩ := hCommits.positions hHead
  refine ⟨?_, ?_, ?_, hCommits.references⟩
  · rw [hCommits.events]
    exact h.projected.append hCommits.projected
  · rw [hCommits.events, List.pairwise_append]
    refine ⟨h.order, hOrder, fun a ha b hb => ?_⟩
    have hA := hBefore a ha
    have hB := (hBatch b hb).1
    omega
  · obtain ⟨head', hHead', hNext, -⟩ := hCommits.head
    obtain rfl : head' = head := Option.some.inj (hHead'.symm.trans hHead)
    refine ⟨_, hNext, fun e he => ?_⟩
    rw [hCommits.events] at he
    obtain hOld | hNew := List.mem_append.1 he
    · have hOld := hBefore e hOld
      omega
    · exact (hBatch e hNew).2

theorem BalanceBookKept.run (h : BalanceBookKept ledger bookId book)
    (hRun : Run (Commits ledger bookId) book batches book') :
    BalanceBookKept ledger bookId book' :=
  hRun.invariant h fun _ _ _ hKept hStep => hKept.step hStep

/-- What later commits leave: the events so far, the positions up to the head, and
the accounts. -/
structure Continues (book : BalanceBook) (more : List LedgerEventRecord)
    (book' : BalanceBook) : Prop where
  events : book'.events = book.events ++ more
  head : ∀ head, book.lastPosition = some head → ∀ e ∈ more, head < e.bookPosition
  accounts : ∀ row ∈ book.accounts, ∃ row' ∈ book'.accounts, row'.key = row.key

theorem continues_run (hRun : Run (Commits ledger bookId) book batches book') :
    Continues book batches.flatten book' := by
  induction hRun with
  | nil book => exact ⟨by simp, by simp, fun row hRow => ⟨row, hRow, rfl⟩⟩
  | cons hCommits _ ih =>
      constructor
      · rw [ih.events, hCommits.events, List.append_assoc, List.flatten_cons]
      · intro head hHead e he
        rw [List.flatten_cons] at he
        obtain hBatch | hRest := List.mem_append.1 he
        · exact ((hCommits.positions hHead).2 e hBatch).1
        · obtain ⟨head', hHead', hNext, -⟩ := hCommits.head
          obtain rfl : head' = head := Option.some.inj (hHead'.symm.trans hHead)
          have hLater := ih.head _ hNext e hRest
          omega
      · intro row hRow
        obtain ⟨row₁, hRow₁, hKey₁⟩ := hCommits.accounts row hRow
        obtain ⟨row₂, hRow₂, hKey₂⟩ := ih.accounts row₁ hRow₁
        exact ⟨row₂, hRow₂, hKey₂.trans hKey₁⟩

/-- Later commits leave the postings up to a position alone. -/
theorem foldedUnits_grown {more : List LedgerEventRecord} (h : Continues book more book')
    {head asOf : Nat} (hHead : book.lastPosition = some head) (hAsOf : asOf ≤ head)
    (key : BalanceKey) : foldedUnits book'.events asOf key = foldedUnits book.events asOf key := by
  have hNone : more.filter (fun e => e.bookPosition ≤ asOf) = [] := by
    rw [List.filter_eq_nil_iff]
    intro e he hLe
    rw [decide_eq_true_eq] at hLe
    have hLater := h.head head hHead e he
    omega
  rw [foldedUnits, foldedUnits, h.events, List.filter_append, hNone, List.append_nil]

end Commits

/-! ## What a call returns -/

section Items

variable {values : Dict BalanceKey Int} {accounts : BalanceBook}

theorem key_of_account? {key : BalanceKey} {row : BalanceAccount}
    (h : accounts.account? key = some row) : row.key = key := by
  have hFound := List.find?_some h
  exact of_decide_eq_true hFound

/-- One item for each balance, when all accounts are there. -/
theorem balanceItems_keys (h : ∀ key ∈ values.keys, (accounts.account? key).isSome) :
    (balanceItems values accounts).map BalanceItem.key
      = values.keys.insertionSort BalanceKey.le := by
  have hKeys : ∀ key ∈ values.keys.insertionSort BalanceKey.le, key ∈ values.keys :=
    fun key hKey => (List.mem_insertionSort _).1 hKey
  unfold balanceItems
  generalize values.keys.insertionSort BalanceKey.le = sorted at hKeys ⊢
  induction sorted with
  | nil => rfl
  | cons key keys ih =>
      have hKey := hKeys key List.mem_cons_self
      obtain ⟨row, hRow⟩ := Option.isSome_iff_exists.1 (h key hKey)
      obtain ⟨units, hUnits⟩ := Option.isSome_iff_exists.1 (AList.lookup_isSome.2 hKey)
      have hRest := ih fun key hMem => hKeys key (List.mem_cons_of_mem _ hMem)
      have hHead : (buildBalanceItem row units).key = key := key_of_account? hRow
      simp only [List.filterMap_cons, hRow, hUnits, Option.bind_eq_bind, Option.bind_some,
        Option.pure_def, List.map_cons, hHead] at hRest ⊢
      rw [hRest]

/-- The items are the entries of the dictionary. -/
theorem mem_balanceItems (h : ∀ key ∈ values.keys, (accounts.account? key).isSome)
    (key : BalanceKey) (units : Int) :
    (∃ item ∈ balanceItems values accounts, item.key = key
        ∧ item.rawAccountingUnits = units)
      ↔ values.lookup key = some units := by
  constructor
  · rintro ⟨item, hItem, rfl, rfl⟩
    obtain ⟨key, -, hBuilt⟩ := List.mem_filterMap.1 hItem
    obtain ⟨row, hRow, hBuilt⟩ := Option.bind_eq_some_iff.1 hBuilt
    obtain ⟨units, hUnits, hBuilt⟩ := Option.bind_eq_some_iff.1 hBuilt
    obtain rfl := Option.some.inj hBuilt
    have hKey : (buildBalanceItem row units).key = key := key_of_account? hRow
    rw [hKey]
    exact hUnits
  · intro hUnits
    have hKey : key ∈ values.keys := AList.mem_keys.1 (AList.lookup_isSome.1 (by simp [hUnits]))
    obtain ⟨row, hRow⟩ := Option.isSome_iff_exists.1 (h key hKey)
    refine ⟨buildBalanceItem row units, ?_, key_of_account? hRow, rfl⟩
    refine List.mem_filterMap.2 ⟨key, (List.mem_insertionSort _).2 hKey, ?_⟩
    rw [hRow, hUnits]
    rfl

end Items

/-- The items are the fold of the postings up to the position of the snapshot. -/
structure BalanceSnapshot.Exact (snapshot : BalanceSnapshot)
    (events : List LedgerEventRecord) : Prop where
  distinct : (snapshot.items.map BalanceItem.key).Nodup
  fold : ∀ key units, (∃ item ∈ snapshot.items, item.key = key
      ∧ item.rawAccountingUnits = units)
    ↔ foldedUnits events snapshot.asOfBookPosition key = some units

theorem exact_iff {values : Dict BalanceKey Int} {accounts : BalanceBook} {asOf : Nat}
    {parity : Option Bool} {events : List LedgerEventRecord}
    (h : ∀ key ∈ values.keys, (accounts.account? key).isSome) :
    BalanceSnapshot.Exact ⟨balanceItems values accounts, asOf, parity⟩ events
      ↔ ∀ key, values.lookup key = foldedUnits events asOf key := by
  constructor
  · intro hExact key
    apply Option.ext
    intro units
    rw [← mem_balanceItems h]
    exact hExact.fold key units
  · intro hFold
    refine ⟨?_, fun key units => ?_⟩
    · rw [balanceItems_keys h]
      exact (List.perm_insertionSort _ _).nodup_iff.2 values.keys_nodup
    · rw [← hFold key]
      exact mem_balanceItems h key units

/-! ## Calls among commits -/

section Calls

variable {ledger : List LedgerEventRecord} {bookId : UUID}

/-- The keys that were posted to are those of the posting rows. -/
theorem keys_signedPostings {events : List LedgerEventRecord} {t : SyncTables}
    (h : JournalHistory events t) : (signedPostings events).map Prod.fst
      = t.journalPostings.map fun p => (p.accountId, p.assetCode) := by
  rw [h.postings]
  unfold signedPostings
  rw [List.map_flatMap, List.map_flatMap]
  congr 1
  funext e
  unfold LedgerEventRecord.signedPostings LedgerEventRecord.postingRecords
  cases e.financialFact? <;> simp [JournalPostingFact.record]

theorem BalanceBookKept.history {book : BalanceBook} (hKeys : LedgerKeys ledger)
    (h : BalanceBookKept ledger bookId book) : JournalHistory book.events book.tables :=
  journalHistory_run (eventIds_nodup hKeys
    (fun e he => (mem_ledger_of_run h.projected e he).1) h.order) h.projected

/-- Every posted key has its account, now and later. -/
theorem account_of_posted {book later : BalanceBook} {more : List LedgerEventRecord}
    (hKeys : LedgerKeys ledger) (h : BalanceBookKept ledger bookId book)
    (hLater : Continues book more later) {key : BalanceKey}
    (hKey : key ∈ (signedPostings book.events).map Prod.fst) :
    (later.account? key).isSome := by
  rw [keys_signedPostings (h.history hKeys)] at hKey
  obtain ⟨posting, hPosting, rfl⟩ := List.mem_map.1 hKey
  obtain ⟨row, hRow, hRowKey⟩ := h.references posting hPosting
  obtain ⟨row', hRow', hSame⟩ := hLater.accounts row hRow
  rw [BalanceBook.account?, List.find?_isSome]
  exact ⟨row', hRow', decide_eq_true (hSame.trans hRowKey)⟩

theorem lookup_reference {book : BalanceBook} (hKeys : LedgerKeys ledger)
    (h : BalanceBookKept ledger bookId book) (asOf : Nat) (key : BalanceKey) :
    (loadReferenceBalances book.tables asOf).lookup key
      = foldedUnits book.events asOf key :=
  lookup_loadReferenceBalances (h.history hKeys) asOf key

theorem lookup_projection {book : BalanceBook} (hKeys : LedgerKeys ledger)
    (h : BalanceBookKept ledger bookId book) (key : BalanceKey) :
    (projectionBalances book.tables).lookup key
      = if key ∈ (signedPostings book.events).map Prod.fst then
          some (sumAt (signedPostings book.events) key)
        else none := by
  rw [lookup_projectionBalances]
  exact accountBalance_eq (h.history hKeys) key

/-- Up to the head, the fold is that of all events so far. -/
theorem foldedUnits_head {book : BalanceBook} (h : BalanceBookKept ledger bookId book)
    {head : Nat} (hHead : book.lastPosition = some head) (key : BalanceKey) :
    foldedUnits book.events head key
      = if key ∈ (signedPostings book.events).map Prod.fst then
          some (sumAt (signedPostings book.events) key)
        else none := by
  obtain ⟨head', hHead', hPositions⟩ := h.head
  obtain rfl : head' = head := Option.some.inj (hHead'.symm.trans hHead)
  have hAll : book.events.filter (fun e => e.bookPosition ≤ head') = book.events :=
    List.filter_eq_self.2 fun e he => decide_eq_true (hPositions e he)
  rw [foldedUnits, hAll]

/-- The states that the statements of one call see. -/
structure SeenInOrder (ledger : List LedgerEventRecord) (bookId : UUID)
    (seen : BalanceStatements) (head : Nat) (between : List LedgerEventRecord) : Prop where
  head : seen.head.lastPosition = some head
  headKept : BalanceBookKept ledger bookId seen.head
  valuesKept : BalanceBookKept ledger bookId seen.values
  referenceKept : BalanceBookKept ledger bookId seen.reference
  values : Continues seen.head between seen.values
  reference : ∃ more, Continues seen.head more seen.reference
  accounts : ∃ more, Continues seen.head more seen.accounts
  valuesAccounts : ∃ more, Continues seen.values more seen.accounts
  referenceAccounts : ∃ more, Continues seen.reference more seen.accounts

theorem seenInOrder {accounts : List BalanceAccount} {seen : BalanceStatements}
    {before between more last : List (List LedgerEventRecord)}
    (hHead : Run (Commits ledger bookId) (BalanceBook.opened accounts) before seen.head)
    (hValues : Run (Commits ledger bookId) seen.head between seen.values)
    (hReference : Run (Commits ledger bookId) seen.values more seen.reference)
    (hAccounts : Run (Commits ledger bookId) seen.reference last seen.accounts) :
    ∃ head, SeenInOrder ledger bookId seen head between.flatten := by
  have hKept := (balanceBookKept_opened accounts).run hHead
  obtain ⟨head, hPosition, -⟩ := hKept.head
  refine ⟨head, hPosition, hKept, hKept.run hValues, (hKept.run hValues).run hReference,
    continues_run hValues, ⟨_, continues_run (hValues.append hReference)⟩,
    ⟨_, continues_run ((hValues.append hReference).append hAccounts)⟩,
    ⟨_, continues_run (hReference.append hAccounts)⟩, ⟨_, continues_run hAccounts⟩⟩

theorem posted_of_foldedUnits {events : List LedgerEventRecord} {asOf : Nat}
    {key : BalanceKey} (h : (foldedUnits events asOf key).isSome) :
    key ∈ (signedPostings events).map Prod.fst := by
  simp only [foldedUnits] at h
  split at h
  · rename_i hPosted
    obtain ⟨posting, hPosting, rfl⟩ := List.mem_map.1 hPosted
    obtain ⟨e, he, hMem⟩ := List.mem_flatMap.1 hPosting
    exact List.mem_map_of_mem (List.mem_flatMap.2 ⟨e, List.mem_of_mem_filter he, hMem⟩)
  · exact absurd h (by simp)

variable {seen : BalanceStatements} {head : Nat} {between : List LedgerEventRecord}

/-- A call at a position of the Book whose balances all have their accounts. -/
theorem getBalances_eq {asked : Option Nat} {verify : Bool} {asOf : Nat}
    {values : Dict BalanceKey Int} {parity : Option Bool}
    (hHead : seen.head.lastPosition = some head) (hAsked : asked.getD head = asOf)
    (hAsOf : asOf ≤ head) (hShown : shownBalances seen asked verify asOf = (values, parity))
    (hPresent : ∀ key ∈ values.keys, (seen.accounts.account? key).isSome) :
    getBalances seen asked verify
      = .ok ⟨balanceItems values seen.accounts, asOf, parity⟩ := by
  subst hAsked
  simp only [getBalances, bind_eq_ok, fetch_eq_ok, require_eq_ok, pure_eq_ok, exists_const]
  refine ⟨head, hHead, hAsOf, ?_, ?_⟩
  · rw [hShown]
    exact hPresent
  · rw [hShown]

/-- A past position is read from postings that no later commit changes. -/
theorem getBalances_past (hKeys : LedgerKeys ledger)
    (h : SeenInOrder ledger bookId seen head between) {asOf : Nat} (hAsOf : asOf ≤ head) :
    ∃ snapshot, getBookBalances seen (some asOf) = .ok snapshot
      ∧ snapshot.asOfBookPosition = asOf ∧ snapshot.Exact seen.accounts.events := by
  obtain ⟨more, hLater⟩ := h.valuesAccounts
  have hLookup := lookup_reference hKeys h.valuesKept asOf
  have hPresent : ∀ key ∈ (loadReferenceBalances seen.values.tables asOf).keys,
      (seen.accounts.account? key).isSome := by
    intro key hKey
    apply account_of_posted hKeys h.valuesKept hLater
    apply @posted_of_foldedUnits _ asOf
    rw [← hLookup]
    exact AList.lookup_isSome.2 hKey
  have hAsked : (some asOf).getD head = asOf := rfl
  refine ⟨_, getBalances_eq h.head hAsked hAsOf rfl hPresent, rfl, ?_⟩
  · obtain ⟨after, hAfter⟩ := h.accounts
    rw [exact_iff hPresent]
    intro key
    rw [hLookup, foldedUnits_grown h.values h.head hAsOf, foldedUnits_grown hAfter h.head hAsOf]

/-- The current balances are those of the second statement. -/
theorem getBalances_current (hKeys : LedgerKeys ledger)
    (h : SeenInOrder ledger bookId seen head between) :
    ∃ snapshot, getBookBalances seen none = .ok snapshot
      ∧ snapshot.asOfBookPosition = head
      ∧ (snapshot.Exact seen.accounts.events ↔ BalancesKept seen.head.events between) := by
  obtain ⟨more, hLater⟩ := h.valuesAccounts
  obtain ⟨after, hAfter⟩ := h.accounts
  have hLookup := lookup_projection hKeys h.valuesKept
  have hPresent : ∀ key ∈ (projectionBalances seen.values.tables).keys,
      (seen.accounts.account? key).isSome := by
    intro key hKey
    apply account_of_posted hKeys h.valuesKept hLater
    by_contra hNone
    have hMissing := hLookup key
    rw [if_neg hNone] at hMissing
    exact AList.lookup_eq_none.1 hMissing (AList.mem_keys.2 hKey)
  have hAsked : (none : Option Nat).getD head = head := rfl
  refine ⟨_, getBalances_eq h.head hAsked le_rfl rfl hPresent, rfl, ?_⟩
  · rw [exact_iff hPresent, ← balances_append_iff, ← h.values.events]
    refine forall_congr' fun key => ?_
    rw [hLookup, foldedUnits_grown hAfter h.head le_rfl, foldedUnits_head h.headKept h.head]

/-- The verified call falls back on the postings up to the head, and reports parity when
no commit moved a balance meanwhile. -/
theorem getBalances_verified (hKeys : LedgerKeys ledger)
    (h : SeenInOrder ledger bookId seen head between) :
    ∃ snapshot, getVerifiedBookBalances seen = .ok snapshot
      ∧ snapshot.asOfBookPosition = head ∧ snapshot.Exact seen.accounts.events
      ∧ (snapshot.projectionMatchesReference = some true
        ↔ BalancesKept seen.head.events between) := by
  obtain ⟨more, hLater⟩ := h.referenceAccounts
  obtain ⟨after, hAfter⟩ := h.accounts
  obtain ⟨later, hUntil⟩ := h.reference
  have hReference : ∀ key, (loadReferenceBalances seen.reference.tables head).lookup key
      = foldedUnits seen.accounts.events head key := by
    intro key
    rw [lookup_reference hKeys h.referenceKept, foldedUnits_grown hUntil h.head le_rfl,
      foldedUnits_grown hAfter h.head le_rfl]
  have hPresent : ∀ key ∈ (loadReferenceBalances seen.reference.tables head).keys,
      (seen.accounts.account? key).isSome := by
    intro key hKey
    apply account_of_posted hKeys h.referenceKept hLater
    apply @posted_of_foldedUnits _ head
    rw [← lookup_reference hKeys h.referenceKept]
    exact AList.lookup_isSome.2 hKey
  have hParity : SameBalances (projectionBalances seen.values.tables)
      (loadReferenceBalances seen.reference.tables head)
        ↔ BalancesKept seen.head.events between := by
    rw [sameBalances_iff, ← balances_append_iff, ← h.values.events]
    refine forall_congr' fun key => ?_
    rw [hReference, lookup_projection hKeys h.valuesKept,
      foldedUnits_grown hAfter h.head le_rfl, foldedUnits_head h.headKept h.head]
  have hAsked : (none : Option Nat).getD head = head := rfl
  by_cases hSame : SameBalances (projectionBalances seen.values.tables)
      (loadReferenceBalances seen.reference.tables head)
  · have hLookup := sameBalances_iff.1 hSame
    have hPresent' : ∀ key ∈ (projectionBalances seen.values.tables).keys,
        (seen.accounts.account? key).isSome := by
      intro key hKey
      apply hPresent
      apply AList.mem_keys.1
      rw [← AList.lookup_isSome, ← hLookup]
      exact AList.lookup_isSome.2 hKey
    have hShown : shownBalances seen none true head
        = (projectionBalances seen.values.tables, some true) := if_pos hSame
    refine ⟨_, getBalances_eq h.head hAsked le_rfl hShown hPresent', rfl, ?_, ?_⟩
    · rw [exact_iff hPresent']
      exact fun key => (hLookup key).trans (hReference key)
    · exact ⟨fun _ => hParity.1 hSame, fun _ => rfl⟩
  · have hShown : shownBalances seen none true head
        = (loadReferenceBalances seen.reference.tables head, some false) := if_neg hSame
    refine ⟨_, getBalances_eq h.head hAsked le_rfl hShown hPresent, rfl, ?_, ?_⟩
    · rw [exact_iff hPresent]
      exact hReference
    · exact ⟨fun hFalse => absurd hFalse (by simp), fun hKept => absurd (hParity.2 hKept) hSame⟩

/-! ## The calls against the position they return -/

/-- Each call returns the fold of the postings up to its position, and the verified
one reports parity. -/
def ConsistentBalances (seen : BalanceStatements) (head : Nat) : Prop :=
  (∀ asked : Option Nat, asked.getD head ≤ head →
    ∃ snapshot, getBookBalances seen asked = .ok snapshot
      ∧ snapshot.asOfBookPosition = asked.getD head
      ∧ snapshot.Exact seen.accounts.events)
  ∧ ∃ snapshot, getVerifiedBookBalances seen = .ok snapshot
      ∧ snapshot.asOfBookPosition = head ∧ snapshot.Exact seen.accounts.events
      ∧ snapshot.projectionMatchesReference = some true

theorem consistentBalances_iff (hKeys : LedgerKeys ledger)
    (h : SeenInOrder ledger bookId seen head between) :
    ConsistentBalances seen head ↔ BalancesKept seen.head.events between := by
  constructor
  · rintro ⟨hCalls, -⟩
    obtain ⟨snapshot, hSnapshot, -, hExact⟩ := hCalls none le_rfl
    obtain ⟨snapshot', hSnapshot', -, hIff⟩ := getBalances_current hKeys h
    obtain rfl : snapshot = snapshot' := Except.ok.inj (hSnapshot.symm.trans hSnapshot')
    exact hIff.1 hExact
  · intro hKept
    constructor
    · intro asked hAsked
      cases asked with
      | none =>
          obtain ⟨snapshot, hSnapshot, hPosition, hIff⟩ := getBalances_current hKeys h
          exact ⟨snapshot, hSnapshot, hPosition, hIff.2 hKept⟩
      | some asOf => exact getBalances_past hKeys h hAsked
    · obtain ⟨snapshot, hSnapshot, hPosition, hExact, hIff⟩ := getBalances_verified hKeys h
      exact ⟨snapshot, hSnapshot, hPosition, hExact, hIff.2 hKept⟩

/-- For every interleaving of a call with the commits of its Book, the calls agree with
the position they return exactly when the commits between the reading of the head and of
the balances keep the balances.  Calls at a past position, and the items of the verified
call, always agree. -/
theorem balances_consistent_iff (hKeys : LedgerKeys ledger)
    {accounts : List BalanceAccount} {before between more last : List (List LedgerEventRecord)}
    (hHead : Run (Commits ledger bookId) (BalanceBook.opened accounts) before seen.head)
    (hValues : Run (Commits ledger bookId) seen.head between seen.values)
    (hReference : Run (Commits ledger bookId) seen.values more seen.reference)
    (hAccounts : Run (Commits ledger bookId) seen.reference last seen.accounts) :
    ∃ head, seen.head.lastPosition = some head
      ∧ (ConsistentBalances seen head ↔ BalancesKept seen.head.events between.flatten)
      ∧ (∀ asOf ≤ head, ∃ snapshot, getBookBalances seen (some asOf) = .ok snapshot
        ∧ snapshot.asOfBookPosition = asOf ∧ snapshot.Exact seen.accounts.events)
      ∧ ∃ snapshot, getVerifiedBookBalances seen = .ok snapshot
        ∧ snapshot.asOfBookPosition = head ∧ snapshot.Exact seen.accounts.events := by
  obtain ⟨head, hSeen⟩ := seenInOrder hHead hValues hReference hAccounts
  obtain ⟨snapshot, hSnapshot, hPosition, hExact, -⟩ := getBalances_verified hKeys hSeen
  exact ⟨head, hSeen.head, consistentBalances_iff hKeys hSeen,
    fun _ hAsOf => getBalances_past hKeys hSeen hAsOf,
    snapshot, hSnapshot, hPosition, hExact⟩

/-! ### A posting between two statements -/

section Interleaved

def interleavedAccounts : List BalanceAccount :=
  [⟨⟨1, sampleAsset, .asset, none⟩, .active⟩, ⟨⟨2, sampleAsset, .expense, none⟩, .active⟩]

/-- The Book with its first transaction. -/
def postedBook : BalanceBook where
  lastPosition := some 1
  events := [samplePosted]
  tables := projected sampleCatalog sampleLedger SyncTables.empty samplePosted
  accounts := interleavedAccounts

/-- The transaction is committed once the head has been read. -/
def interleavedSeen : BalanceStatements where
  head := BalanceBook.opened interleavedAccounts
  values := postedBook
  reference := postedBook
  accounts := postedBook

theorem commits_posted : Commits sampleLedger 1 (BalanceBook.opened interleavedAccounts)
    [samplePosted] postedBook where
  head := ⟨0, rfl, rfl, rfl⟩
  events := rfl
  projected := .cons (projects_projected sampleCatalog (by decide) rfl (by decide)) (.nil _)
  accounts := fun row hRow => ⟨row, hRow, rfl⟩
  references := by decide

/-- The balances hold 100 units under a position without postings. -/
theorem balances_inconsistent_interleaved :
    Run (Commits sampleLedger 1) (BalanceBook.opened interleavedAccounts) []
      interleavedSeen.head
    ∧ Run (Commits sampleLedger 1) interleavedSeen.head [[samplePosted]] interleavedSeen.values
    ∧ Run (Commits sampleLedger 1) interleavedSeen.values [] interleavedSeen.reference
    ∧ Run (Commits sampleLedger 1) interleavedSeen.reference [] interleavedSeen.accounts
    ∧ interleavedSeen.head.lastPosition = some 0 ∧ ¬ConsistentBalances interleavedSeen 0 := by
  have hRun : Run (Commits sampleLedger 1) (BalanceBook.opened interleavedAccounts)
      [[samplePosted]] postedBook := .cons commits_posted (.nil _)
  refine ⟨.nil _, hRun, .nil _, .nil _, rfl, ?_⟩
  intro hConsistent
  have hKeys : LedgerKeys sampleLedger := by constructor <;> decide
  have hNil : Run (Commits sampleLedger 1) postedBook [] postedBook := .nil _
  obtain ⟨head, hSeen⟩ := @seenInOrder sampleLedger 1 interleavedAccounts interleavedSeen
    [] _ [] [] (.nil _) hRun hNil hNil
  obtain rfl : 0 = head := Option.some.inj hSeen.head
  have hKept := (consistentBalances_iff hKeys hSeen).1 hConsistent
  exact absurd hKept (by decide)

/-- The verified call falls back on the empty balances of position zero. -/
theorem balances_consistent_iff_interleaved :
    ¬ConsistentBalances interleavedSeen 0
    ∧ ∃ snapshot, getVerifiedBookBalances interleavedSeen = .ok snapshot
      ∧ snapshot.asOfBookPosition = 0 ∧ snapshot.Exact [samplePosted] := by
  have hKeys : LedgerKeys sampleLedger := by constructor <;> decide
  have hNil : Run (Commits sampleLedger 1) postedBook [] postedBook := .nil _
  have hRun : Run (Commits sampleLedger 1) (BalanceBook.opened interleavedAccounts)
      [[samplePosted]] postedBook := .cons commits_posted (.nil _)
  obtain ⟨head, hHead, hIff, -, hVerified⟩ := @balances_consistent_iff sampleLedger 1
    interleavedSeen hKeys interleavedAccounts [] _ [] [] (.nil _) hRun hNil hNil
  obtain rfl : 0 = head := Option.some.inj hHead
  exact ⟨fun hConsistent => absurd (hIff.1 hConsistent) (by decide), hVerified⟩

end Interleaved

end Calls

end TrackAnywhere.Ports
