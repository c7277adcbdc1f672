import TrackAnywhere.Ports.AsOfJournal
import TrackAnywhere.Ports.ReverseTransaction

/-!
# Closing accounts

An account is closed at a balance of zero, under the lock of its Book.  Every
command that posts a new transaction, whatever its kind, sends its postings
through `validateJournal`, which refuses closed accounts.  A reversal does not: it
mirrors an earlier transaction, and has a rule of its own for credit cards.

The system below is a Book under these commands in any order.  A command that
posts is given by the payload it arrives at, since what its own checks refuse is
not carried out.
-/

namespace TrackAnywhere.Ports

open TrackAnywhere.Verified
open TrackAnywhere.Verified.Checked
open TrackAnywhere.Verified.KeyedSum

/-! ## Closing and reopening -/

inductive CloseAccountError
  | accountUnavailable (message : String)
  | accountAlreadyClosed (message : String)
  | accountAlreadyActive (message : String)
  | accountBalanceProjectionMismatch (message : String)
  | accountBalanceNonzero (message : String)
deriving DecidableEq

/-- The postings of an account joined with their transactions: the signed units,
and the position. -/
def SyncTables.journalUnits (t : SyncTables) (key : BalanceKey) : List (Int × Nat) :=
  (t.journalPostings.filter fun p => (p.accountId, p.assetCode) = key).flatMap fun p =>
    (t.journalTransactions.filter fun r => r.transactionId = p.transactionId).map fun r =>
      (signedUnits p.side p.units, r.sourcePosition)

namespace BookReads

variable (db : BookReads)

/-- The account of the Book with this id. -/
def account? (accountId : UUID) : Option AccountRecord :=
  db.catalog.accounts.find? fun a => a.accountId = accountId

/-- `account.status = …` -/
def setClosed (accountId : UUID) (status : Bool) : BookReads :=
  { db with closed := fun other => if other = accountId then status else db.closed other }

/-- `close_account` -/
def closeAccount (accountId : UUID) : Except CloseAccountError BookReads := do
  let account ← fetch (db.account? accountId)
    (.accountUnavailable "account not found in requested Book")
  require (db.closed accountId = false)
    (.accountAlreadyClosed "account is already closed")
  let key := (accountId, account.assetCode)
  let projection := db.tables.accountBalances.lookup key
  let latestPostingPosition := ((db.tables.journalUnits key).map Prod.snd).max?
  require (latestPostingPosition ≠ none → projection ≠ none)
    (.accountBalanceProjectionMismatch "account balance projection is missing")
  require (∀ row ∈ projection, ∀ latest ∈ latestPostingPosition, latest ≤ row.asOfPosition)
    (.accountBalanceProjectionMismatch "account balance projection is stale")
  let projected := (projection.map (·.balanceUnits)).getD 0
  let reference := ((db.tables.journalUnits key).map Prod.fst).sum
  require (projected = reference)
    (.accountBalanceProjectionMismatch
      "account balance projection does not match journal postings")
  require (reference = 0)
    (.accountBalanceNonzero "account must have zero balance before close")
  return db.setClosed accountId true

/-- `reopen_account` -/
def reopenAccount (accountId : UUID) : Except CloseAccountError BookReads := do
  let _ ← fetch (db.account? accountId)
    (.accountUnavailable "account not found in requested Book")
  require (db.closed accountId = true)
    (.accountAlreadyActive "account is already active")
  return db.setClosed accountId false

end BookReads

/-! ## The journal validator -/

inductive JournalError
  | tooFewPostings
  | duplicatePostingId (postingId : UUID)
  | duplicatePostingPosition (position : Nat)
  | unknownAccount (accountId : UUID)
  | accountClosed (accountId : UUID)
  | postingAssetMismatch (accountId : UUID) (postingAsset accountAsset : AssetCode)
  | unbalancedAsset
  | invalidFxTransaction (message : String)
deriving DecidableEq

/-- `_reject_duplicate_posting_identity` -/
def rejectDuplicatePostingIdentity :
    List UUID → List Nat → List JournalPostingFact → Except JournalError Unit
  | _, _, [] => .ok ()
  | postingIds, positions, posting :: rest => do
      require (posting.postingId ∉ postingIds) (.duplicatePostingId posting.postingId)
      require (posting.position ∉ positions) (.duplicatePostingPosition posting.position)
      rejectDuplicatePostingIdentity (posting.postingId :: postingIds)
        (posting.position :: positions) rest

/-- An exchange moves at least two assets over the trading accounts, each in one
direction and not all in the same. -/
def validateExchange (trading : UUID → Bool) (postings : List JournalPostingFact) :
    Except JournalError Unit := do
  let exchangedAssets := (postings.map (·.assetCode)).dedup
  let legs := postings.filter fun p => trading p.accountId
  require (2 ≤ exchangedAssets.length)
    (.invalidFxTransaction "an FX transaction must exchange at least two assets")
  require (∀ assetCode ∈ exchangedAssets, assetCode ∈ legs.map (·.assetCode))
    (.invalidFxTransaction ("an FX transaction requires a Book-owned trading-account "
      ++ "posting leg for every asset"))
  require (∀ assetCode ∈ exchangedAssets, netUnits assetCode legs ≠ 0)
    (.invalidFxTransaction "FX trading-account net units must be nonzero for every asset")
  require ((∃ assetCode ∈ exchangedAssets, 0 < netUnits assetCode legs)
      ∧ ∃ assetCode ∈ exchangedAssets, netUnits assetCode legs < 0)
    (.invalidFxTransaction "FX trading-account nets must include opposite directions")

/-- `JournalValidator.validate`, on the accounts of the Book; `trading` holds of
the accounts with the role `fx_trading`. -/
def validateJournal (trading : UUID → Bool) (db : BookReads) (kind : TransactionKind)
    (postings : List JournalPostingFact) : Except JournalError Unit := do
  require (2 ≤ postings.length) .tooFewPostings
  rejectDuplicatePostingIdentity [] [] postings
  forEach postings fun posting => do
    let account ← fetch (db.account? posting.accountId) (.unknownAccount posting.accountId)
    require (db.closed posting.accountId = false) (.accountClosed posting.accountId)
    require (posting.assetCode = account.assetCode)
      (.postingAssetMismatch posting.accountId posting.assetCode account.assetCode)
  require (∀ posting ∈ postings, netUnits posting.assetCode postings = 0) .unbalancedAsset
  if kind = .fx ∨ kind = .creditCardPayment then validateExchange trading postings
  else return

/-- The postings that were validated are on active accounts. -/
theorem active_of_validateJournal {trading : UUID → Bool} {db : BookReads}
    {kind : TransactionKind} {postings : List JournalPostingFact}
    (h : validateJournal trading db kind postings = .ok ()) :
    ∀ posting ∈ postings, db.closed posting.accountId = false := by
  simp only [validateJournal, bind_eq_ok, require_eq_ok, forEach_eq_ok, fetch_eq_ok,
    exists_const] at h
  obtain ⟨-, -, -, hPostings, -⟩ := h
  intro posting hMem
  obtain ⟨account, -, hActive, -⟩ := hPostings posting hMem
  exact hActive

/-! ## A Book under its commands -/

/-- The postings of a new transaction. -/
def EventPayload.newPostings : EventPayload → Option (List JournalPostingFact)
  | .journalTransactionPosted p => some p.postings
  | .creditCardTransactionRecorded p => some p.postings
  | _ => none

inductive AccountAction
  | created (account : AccountRecord)
  | catalogued (categoryVersions : List (UUID × UUID)) (assetCodes : List AssetCode)
  | closed (accountId : UUID)
  | reopened (accountId : UUID)
  | posted (kind : TransactionKind) (stored : LedgerEventRecord)
      (more : List LedgerEventRecord)
  | reversed (command : ReverseTransactionCommand) (stored : LedgerEventRecord)
  | corrected (command : CorrectTransactionCommand)
      (reversal replacement : LedgerEventRecord)
  | recorded (stored : LedgerEventRecord)
  | elsewhere (events : List LedgerEventRecord)

/-- The reversal that a command carries out. -/
def AccountAction.reversal? : AccountAction → Option ReverseTransactionCommand
  | .reversed command _ => some command
  | .corrected command _ _ => some command.reversal
  | _ => none

/-- The events are appended and projected with the command. -/
def Records (db : BookReads) (events : List LedgerEventRecord) (db' : BookReads) : Prop :=
  ∃ tables streamHeads,
    Run (Projects (db.ledger ++ events) db.bookId) db.tables events tables
      ∧ db' = { db with
          ledger := db.ledger ++ events, tables := tables, streamHeads := streamHeads }

section Commands

variable (uuid5 : UUID → String → UUID) (trading : UUID → Bool)

/-- One command of the Book, or events of another Book. -/
inductive AccountStep : BookReads → AccountAction → BookReads → Prop
  | created {db : BookReads} {account : AccountRecord}
      (hNew : account.accountId ∉ db.catalog.accounts.map (·.accountId)) :
      AccountStep db (.created account)
        { db.setClosed account.accountId false with
          catalog := { db.catalog with accounts := db.catalog.accounts ++ [account] } }
  | catalogued {db : BookReads} {categoryVersions : List (UUID × UUID)}
      {assetCodes : List AssetCode} :
      AccountStep db (.catalogued categoryVersions assetCodes)
        { db with catalog := ⟨db.catalog.accounts, categoryVersions, assetCodes⟩ }
  | closed {db db' : BookReads} {accountId : UUID}
      (hClose : db.closeAccount accountId = .ok db') :
      AccountStep db (.closed accountId) db'
  | reopened {db db' : BookReads} {accountId : UUID}
      (hReopen : db.reopenAccount accountId = .ok db') :
      AccountStep db (.reopened accountId) db'
  | posted {db db' : BookReads} {kind : TransactionKind} {stored : LedgerEventRecord}
      {more : List LedgerEventRecord} {contract : EventContract}
      {postings : List JournalPostingFact} (hContract : stored.contract? = some contract)
      (hPostings : contract.1.newPostings = some postings)
      (hValid : validateJournal trading db kind postings = .ok ())
      (hMore : ∀ e ∈ more, e.financialFact? = none)
      (hRecords : Records db (stored :: more) db') :
      AccountStep db (.posted kind stored more) db'
  | reversed {db db' : BookReads} {command : ReverseTransactionCommand}
      {actorSubjectId : String} {plan : JournalPlan} {stored : LedgerEventRecord}
      (hPlan : buildReversePlan uuid5 db command actorSubjectId = .ok plan)
      (hStored : List.Forall₂ LedgerEventRecord.Stores [stored] plan.events)
      (hRecords : Records db [stored] db') : AccountStep db (.reversed command stored) db'
  | corrected {db db' : BookReads} {command : CorrectTransactionCommand}
      {posted : Except ReverseError (PostedPayload command.replacementTransactionId)}
      {actorSubjectId : String} {plan : JournalPlan} {reversal replacement : LedgerEventRecord}
      (hPosted : ∀ built, posted = .ok built →
        validateJournal trading db built.payload.kind built.payload.postings = .ok ())
      (hPlan : buildCorrectionPlan uuid5 db command posted actorSubjectId = .ok plan)
      (hStored : List.Forall₂ LedgerEventRecord.Stores [reversal, replacement] plan.events)
      (hRecords : Records db [reversal, replacement] db') :
      AccountStep db (.corrected command reversal replacement) db'
  | recorded {db db' : BookReads} {stored : LedgerEventRecord}
      (hNone : stored.financialFact? = none) (hRecords : Records db [stored] db') :
      AccountStep db (.recorded stored) db'
  | elsewhere {db : BookReads} {events : List LedgerEventRecord}
      (hOther : ∀ e ∈ events, e.bookId ≠ db.bookId) :
      AccountStep db (.elsewhere events) { db with ledger := db.ledger ++ events }

end Commands

/-- A Book before its first command. -/
def BookReads.start (bookId : UUID) : BookReads where
  bookId := bookId
  catalog := ⟨[], [], []⟩
  closed := fun _ => false
  ledger := []
  tables := SyncTables.empty
  streamHeads := []

/-! ## What projected events post -/

/-- The signed units of posting rows, by account and asset. -/
def postingAmounts (rows : List JournalPostingRecord) : List (BalanceKey × Int) :=
  rows.map fun p => ((p.accountId, p.assetCode), signedUnits p.side p.units)

/-- `t'` has the rows of `t` and these posting rows, with their transactions and
in the balances. -/
structure PostsRows (t t' : SyncTables) (rows : List JournalPostingRecord) : Prop where
  postings : t'.journalPostings = t.journalPostings ++ rows
  balances : ∀ key, t'.balanceAt key = t.balanceAt key + sumAt (postingAmounts rows) key
  journaled : ∀ row ∈ rows, row.transactionId ∈ t'.journalTransactions.map (·.transactionId)
  kept : t.journalTransactions.map (·.transactionId)
    ⊆ t'.journalTransactions.map (·.transactionId)
  journal : JournalBook t → JournalBook t'

section Posting

variable {ledger events : List LedgerEventRecord} {bookId : UUID} {t t' t'' : SyncTables}
  {stored : LedgerEventRecord} {rows more : List JournalPostingRecord}

theorem PostsRows.refl (t : SyncTables) : PostsRows t t [] where
  postings := (List.append_nil _).symm
  balances := fun key => by simp [postingAmounts]
  journaled := nofun
  kept := List.Subset.refl _
  journal := id

theorem PostsRows.trans (h : PostsRows t t' rows) (h' : PostsRows t' t'' more) :
    PostsRows t t'' (rows ++ more) where
  postings := by rw [h'.postings, h.postings, List.append_assoc]
  balances := fun key => by
    rw [h'.balances, h.balances, postingAmounts, postingAmounts, postingAmounts,
      List.map_append, sumAt_append, add_assoc]
  journaled := by
    intro row hRow
    rcases List.mem_append.1 hRow with hRow | hRow
    · exact h'.kept (h.journaled row hRow)
    · exact h'.journaled row hRow
  kept := fun _ hMem => h'.kept (h.kept hMem)
  journal := fun hBook => h'.journal (h.journal hBook)

/-- The row posts for one of the events. -/
def PostedBy (events : List LedgerEventRecord) (row : JournalPostingRecord) : Prop :=
  ∃ e ∈ events, ∃ fact, e.financialFact? = some fact ∧ ∃ p ∈ fact.2, row = p.record fact.1

/-- A projected event posts its own postings, or none. -/
theorem postsRows_step (h : Projects ledger bookId t stored t') :
    ∃ rows, PostsRows t t' rows ∧ ∀ row ∈ rows, PostedBy [stored] row := by
  have hBook := fun hOld : JournalBook t => journalBook_step hOld h
  obtain ⟨-, -, catalog, result, hApply⟩ := h
  rcases applyStored_cases hApply with ⟨rfl, -, -⟩ | ⟨contract, hValid, -, hPayload⟩
  · exact ⟨[], .refl t', nofun⟩
  have hJournal := (applyPayload_journalEffect hPayload).journal
  have hContract := LedgerEventRecord.contract?_eq_some.2 hValid
  cases hFact : contract.1.financialFact with
  | none =>
      rw [hFact] at hJournal
      refine ⟨[], ⟨?_, fun key => ?_, nofun, ?_, hBook⟩, nofun⟩
      · rw [hJournal.postings, List.append_nil]
        rfl
      · unfold SyncTables.balanceAt
        rw [hJournal.balances]
        simp [postingAmounts, SyncTables.mark]
      · rw [hJournal.transactions]
        exact List.Subset.refl _
  | some fact =>
      rw [hFact] at hJournal
      obtain ⟨row, hKey, hRows⟩ := hJournal.transactions
      have hId : row.transactionId = fact.1 := congrArg TransactionKey.transactionId hKey
      have hPostings : t'.journalPostings
          = t.journalPostings ++ fact.2.map (·.record fact.1) := hJournal.postings
      refine ⟨fact.2.map (·.record fact.1), ⟨hPostings, fun key => ?_, ?_, ?_, hBook⟩, ?_⟩
      · unfold SyncTables.balanceAt
        rw [hJournal.balances, valueAt_accumulate fun _ _ => rfl, postingAmounts,
          List.map_map, List.map_map]
        rfl
      · intro posting hMem
        obtain ⟨p, -, rfl⟩ := List.mem_map.1 hMem
        rw [hRows, List.map_append, List.mem_append]
        exact .inr (List.mem_singleton.2 hId.symm)
      · rw [hRows, List.map_append]
        exact List.subset_append_left _ _
      · intro posting hMem
        obtain ⟨p, hp, rfl⟩ := List.mem_map.1 hMem
        refine ⟨stored, List.mem_singleton_self _, fact, ?_, p, hp, rfl⟩
        rw [LedgerEventRecord.financialFact?, hContract, Option.bind_some, hFact]

theorem postsRows_run (h : Run (Projects ledger bookId) t events t') :
    ∃ rows, PostsRows t t' rows ∧ ∀ row ∈ rows, PostedBy events row := by
  induction h with
  | nil t => exact ⟨[], .refl t, nofun⟩
  | cons hStep _ ih =>
      obtain ⟨rows, hRows, hOwn⟩ := postsRows_step hStep
      obtain ⟨more, hMore, hRest⟩ := ih
      refine ⟨rows ++ more, hRows.trans hMore, fun row hRow => ?_⟩
      rcases List.mem_append.1 hRow with hRow | hRow
      · obtain ⟨e, he, hFact⟩ := hOwn row hRow
        exact ⟨e, List.mem_cons.2 (.inl (List.mem_singleton.1 he)), hFact⟩
      · obtain ⟨e, he, hFact⟩ := hRest row hRow
        exact ⟨e, List.mem_cons_of_mem _ he, hFact⟩

/-- The sum that the join gives, where every posting has one transaction. -/
theorem journalUnits_sum (hKeys : JournalKeys t)
    (hJournaled : ∀ p ∈ t.journalPostings,
      p.transactionId ∈ t.journalTransactions.map (·.transactionId)) (key : BalanceKey) :
    ((t.journalUnits key).map Prod.fst).sum = sumAt (postingAmounts t.journalPostings) key := by
  have hOne : ∀ transactionId ∈ t.journalTransactions.map (·.transactionId),
      ∃ row, t.journalTransactions.filter (fun r => r.transactionId = transactionId)
        = [row] := by
    intro transactionId hMem
    have hJoin := outerJoin_unique hKeys.transactionIds transactionId
    unfold outerJoin at hJoin
    obtain ⟨found, hFound, hId⟩ := List.mem_map.1 hMem
    have hSelected : found ∈ t.journalTransactions.filter
        (fun r => r.transactionId = transactionId) :=
      List.mem_filter.2 ⟨hFound, decide_eq_true hId⟩
    cases hCase : t.journalTransactions.filter (fun r => r.transactionId = transactionId) with
    | nil =>
        rw [hCase] at hSelected
        exact nomatch hSelected
    | cons row rest =>
        rw [hCase] at hJoin
        have hLength := congrArg List.length hJoin
        have hRest : rest = [] := by simpa using hLength
        exact ⟨row, by rw [hRest]⟩
  unfold SyncTables.journalUnits postingAmounts
  revert hJournaled
  generalize t.journalPostings = postings
  intro hJournaled
  induction postings with
  | nil => rfl
  | cons p rest ih =>
      have hRest := ih fun q hq => hJournaled q (List.mem_cons_of_mem _ hq)
      obtain ⟨row, hRow⟩ := hOne p.transactionId (hJournaled p List.mem_cons_self)
      rw [List.map_cons, sumAt_cons, ← hRest]
      by_cases hKey : (p.accountId, p.assetCode) = key
      · rw [List.filter_cons_of_pos (by simpa using hKey), List.flatMap_cons, hRow, if_pos hKey]
        simp
      · rw [List.filter_cons_of_neg (by simpa using hKey), if_neg hKey, zero_add]

end Posting

/-! ## What a command posts -/

section Steps

variable {uuid5 : UUID → String → UUID} {trading : UUID → Bool} {db db' : BookReads}
  {action : AccountAction}

/-- The row mirrors a posting of the transaction that the command reverses. -/
def Mirrors (uuid5 : UUID → String → UUID) (db : BookReads) (action : AccountAction)
    (row : JournalPostingRecord) : Prop :=
  ∃ command ∈ action.reversal?, ∃ source,
    db.loadReversalSource command.reversesTransactionId command.reversalTransactionId
        = .ok source
      ∧ ∃ p ∈ source.postings, row = (mirrored uuid5 command.reversalTransactionId p).record
          command.reversalTransactionId

/-- The account is a closed credit card. -/
def BookReads.ClosedCard (db : BookReads) (accountId : UUID) : Prop :=
  ∃ a ∈ db.catalog.accounts, a.accountId = accountId
    ∧ a.accountSubtype = some "credit_card" ∧ db.closed accountId = true

/-- A plan that refuses closed credit cards has no posting on one. -/
theorem touchesClosedCreditCard_of_mem {postings : List JournalPostingFact}
    {p : JournalPostingFact} (hp : p ∈ postings) (hClosed : db.ClosedCard p.accountId) :
    db.sourceTouchesCreditCardAccount postings = true
      ∧ db.touchesClosedCreditCard postings = true := by
  obtain ⟨a, ha, hId, hCard, hStatus⟩ := hClosed
  have hMem : a.accountId ∈ postings.map (·.accountId) :=
    hId ▸ List.mem_map_of_mem hp
  refine ⟨List.any_eq_true.2 ⟨a, ha, decide_eq_true ⟨hMem, hCard⟩⟩,
    List.any_eq_true.2 ⟨a, ha, decide_eq_true ⟨hMem, hCard, hId ▸ hStatus⟩⟩⟩

theorem financialFact?_of_newPostings {stored : LedgerEventRecord} {contract : EventContract}
    {postings : List JournalPostingFact} (hContract : stored.contract? = some contract)
    (hPostings : contract.1.newPostings = some postings) :
    ∃ transactionId, stored.financialFact? = some (transactionId, postings) := by
  unfold LedgerEventRecord.financialFact?
  rw [hContract, Option.bind_some]
  obtain ⟨payload, hValid⟩ := contract
  cases payload with
  | journalTransactionPosted p =>
      cases hPostings
      exact ⟨p.transactionId, rfl⟩
  | creditCardTransactionRecorded p =>
      cases hPostings
      exact ⟨p.transactionId, rfl⟩
  | _ => exact nomatch hPostings

/-- What a command posts is on active accounts, or mirrors an earlier transaction
and is on no closed credit card. -/
def Admitted (uuid5 : UUID → String → UUID) (db : BookReads) (action : AccountAction)
    (row : JournalPostingRecord) : Prop :=
  db.closed row.accountId = false
    ∨ Mirrors uuid5 db action row ∧ ¬db.ClosedCard row.accountId

theorem payload_of_buildReversalPending {command : ReverseTransactionCommand}
    {source : ReversalSource} {actorSubjectId : String} {eventId : Option UUID}
    {pending : PendingEvent}
    (h : buildReversalPending uuid5 command source actorSubjectId eventId = .ok pending) :
    pending.payload.1 = .journalTransactionReversed (source.payload uuid5 command) := by
  unfold buildReversalPending at h
  simp only at h
  split at h
  · cases h
  · cases h
    rfl

/-- The event that stores a reversal posts the mirror image of its source. -/
theorem mirrors_of_stores {command : ReverseTransactionCommand} {source : ReversalSource}
    {pending : PendingEvent} {stored : LedgerEventRecord}
    (hCommand : command ∈ action.reversal?)
    (hSource : db.loadReversalSource command.reversesTransactionId
      command.reversalTransactionId = .ok source)
    (hPayload : pending.payload.1
      = .journalTransactionReversed (source.payload uuid5 command))
    (hStores : stored.Stores pending) {row : JournalPostingRecord}
    {fact : UUID × List JournalPostingFact} (hFact : stored.financialFact? = some fact)
    {p : JournalPostingFact} (hp : p ∈ fact.2) (hRow : row = p.record fact.1) :
    Mirrors uuid5 db action row
      ∧ ∃ q ∈ source.postings, q.accountId = row.accountId := by
  have hOwn := hFact
  unfold LedgerEventRecord.financialFact? at hOwn
  rw [hStores, Option.bind_some, hPayload] at hOwn
  cases hOwn
  obtain ⟨q, hq, rfl⟩ := List.mem_map.1 hp
  exact ⟨⟨command, hCommand, source, hSource, q, hq, hRow⟩, q, hq, by rw [hRow]; rfl⟩

/-- The tables after a command have the earlier rows, and rows it may post. -/
theorem accountStep_rows (h : AccountStep uuid5 trading db action db') :
    ∃ rows, PostsRows db.tables db'.tables rows
      ∧ ∀ row ∈ rows, Admitted uuid5 db action row := by
  cases h with
  | created hNew => exact ⟨[], .refl _, (by intros; contradiction)⟩
  | catalogued => exact ⟨[], .refl _, (by intros; contradiction)⟩
  | closed hClose =>
      simp only [BookReads.closeAccount, bind_eq_ok, require_eq_ok, fetch_eq_ok, pure_eq_ok,
        exists_const] at hClose
      obtain ⟨account, -, -, -, -, -, -, rfl⟩ := hClose
      exact ⟨[], .refl _, (by intros; contradiction)⟩
  | reopened hReopen =>
      simp only [BookReads.reopenAccount, bind_eq_ok, require_eq_ok, fetch_eq_ok, pure_eq_ok,
        exists_const] at hReopen
      obtain ⟨account, -, -, rfl⟩ := hReopen
      exact ⟨[], .refl _, (by intros; contradiction)⟩
  | @posted _ kind stored more contract postings hContract hPostings hValid hMore hRecords =>
      obtain ⟨tables, streamHeads, hRun, rfl⟩ := hRecords
      obtain ⟨rows, hRows, hOwn⟩ := postsRows_run hRun
      refine ⟨rows, hRows, fun row hRow => .inl ?_⟩
      obtain ⟨e, he, fact, hFact, p, hp, rfl⟩ := hOwn row hRow
      rcases List.mem_cons.1 he with rfl | he
      · obtain ⟨transactionId, hSome⟩ := financialFact?_of_newPostings hContract hPostings
        rw [hSome] at hFact
        cases hFact
        exact active_of_validateJournal hValid p hp
      · rw [hMore e he] at hFact
        cases hFact
  | @reversed _ command actorSubjectId plan stored hPlan hStored hRecords =>
      obtain ⟨tables, streamHeads, hRun, rfl⟩ := hRecords
      obtain ⟨rows, hRows, hOwn⟩ := postsRows_run hRun
      refine ⟨rows, hRows, fun row hRow => ?_⟩
      obtain ⟨e, he, fact, hFact, p, hp, hRecord⟩ := hOwn row hRow
      rw [List.mem_singleton.1 he] at hFact
      simp only [buildReversePlan, bind_eq_ok, require_eq_ok, pure_eq_ok,
        exists_const] at hPlan
      obtain ⟨source, hSource, hActive, -, pending, hPending, rfl⟩ := hPlan
      cases hStored with
      | cons hStores _ =>
          have hCommand : command ∈ (AccountAction.reversed command stored).reversal? := rfl
          obtain ⟨hMirrors, q, hq, hAccount⟩ := mirrors_of_stores hCommand hSource
            (payload_of_buildReversalPending hPending) hStores hFact hp hRecord
          refine .inr ⟨hMirrors, fun hClosed => ?_⟩
          exact hActive (touchesClosedCreditCard_of_mem hq (hAccount ▸ hClosed))
  | @corrected _ command posted actorSubjectId plan reversal replacement hPosted hPlan
      hStored hRecords =>
      obtain ⟨tables, streamHeads, hRun, rfl⟩ := hRecords
      obtain ⟨rows, hRows, hOwn⟩ := postsRows_run hRun
      refine ⟨rows, hRows, fun row hRow => ?_⟩
      obtain ⟨e, he, fact, hFact, p, hp, hRecord⟩ := hOwn row hRow
      simp only [buildCorrectionPlan, bind_eq_ok, require_eq_ok, pure_eq_ok,
        exists_const] at hPlan
      obtain ⟨-, -, source, hSource, hNoCard, _, -, built, hBuilt, pending, hPending, -, rfl⟩ :=
        hPlan
      cases hStored with
      | cons hStores hRest =>
          cases hRest with
          | cons hReplaces _ =>
              rcases List.mem_cons.1 he with rfl | he
              · have hCommand : command.reversal
                    ∈ (AccountAction.corrected command e replacement).reversal? := rfl
                obtain ⟨hMirrors, q, hq, hAccount⟩ := mirrors_of_stores hCommand hSource
                  (payload_of_buildReversalPending hPending) hStores hFact hp hRecord
                refine .inr ⟨hMirrors, fun hClosed => ?_⟩
                have hTouches := (touchesClosedCreditCard_of_mem hq (hAccount ▸ hClosed)).1
                exact Bool.false_ne_true (hNoCard.symm.trans hTouches)
              · rw [List.mem_singleton.1 he] at hFact
                unfold LedgerEventRecord.financialFact? at hFact
                rw [hReplaces, Option.bind_some] at hFact
                cases hFact
                rw [hRecord]
                exact .inl (active_of_validateJournal (hPosted built hBuilt) p hp)
  | @recorded _ stored hNone hRecords =>
      obtain ⟨tables, streamHeads, hRun, rfl⟩ := hRecords
      obtain ⟨rows, hRows, hOwn⟩ := postsRows_run hRun
      refine ⟨rows, hRows, fun row hRow => ?_⟩
      obtain ⟨e, he, fact, hFact, -⟩ := hOwn row hRow
      rw [List.mem_singleton.1 he, hNone] at hFact
      cases hFact
  | elsewhere hOther => exact ⟨[], .refl _, (by intros; contradiction)⟩

/-- What a command does to the accounts: nothing, or it creates, closes or reopens
one. -/
theorem accountStep_status (h : AccountStep uuid5 trading db action db') :
    (db'.catalog.accounts = db.catalog.accounts ∧ db'.closed = db.closed)
      ∨ (∃ account : AccountRecord, account.accountId ∉ db.catalog.accounts.map (·.accountId)
        ∧ db'.catalog.accounts = db.catalog.accounts ++ [account]
        ∧ db'.closed = (db.setClosed account.accountId false).closed
        ∧ db'.tables = db.tables)
      ∨ (∃ accountId, action = .closed accountId ∧ db.closeAccount accountId = .ok db')
      ∨ ∃ accountId, action = .reopened accountId ∧ db' = db.setClosed accountId false := by
  cases h with
  | created hNew => exact .inr (.inl ⟨_, hNew, rfl, rfl, rfl⟩)
  | closed hClose => exact .inr (.inr (.inl ⟨_, rfl, hClose⟩))
  | reopened hReopen =>
      simp only [BookReads.reopenAccount, bind_eq_ok, require_eq_ok, fetch_eq_ok, pure_eq_ok,
        exists_const] at hReopen
      obtain ⟨account, -, -, rfl⟩ := hReopen
      exact .inr (.inr (.inr ⟨_, rfl, rfl⟩))
  | posted _ _ _ _ hRecords =>
      obtain ⟨tables, streamHeads, -, rfl⟩ := hRecords
      exact .inl ⟨rfl, rfl⟩
  | reversed _ _ hRecords =>
      obtain ⟨tables, streamHeads, -, rfl⟩ := hRecords
      exact .inl ⟨rfl, rfl⟩
  | corrected _ _ _ hRecords =>
      obtain ⟨tables, streamHeads, -, rfl⟩ := hRecords
      exact .inl ⟨rfl, rfl⟩
  | recorded _ hRecords =>
      obtain ⟨tables, streamHeads, -, rfl⟩ := hRecords
      exact .inl ⟨rfl, rfl⟩
  | catalogued => exact .inl ⟨rfl, rfl⟩
  | elsewhere _ => exact .inl ⟨rfl, rfl⟩

end Steps

/-! ## Closed accounts stay at zero -/

/-- The signed units of the postings on an account. -/
def BookReads.postedUnits (db : BookReads) (key : BalanceKey) : Int :=
  sumAt (postingAmounts db.tables.journalPostings) key

/-- The accounts and their postings, as far as closing relies on them. -/
structure AccountsKept (db : BookReads) : Prop where
  accountIds : (db.catalog.accounts.map (·.accountId)).Nodup
  journal : JournalBook db.tables
  journaled : ∀ p ∈ db.tables.journalPostings,
    p.transactionId ∈ db.tables.journalTransactions.map (·.transactionId)
  balances : ∀ key, db.tables.balanceAt key = db.postedUnits key
  closedCards : ∀ a ∈ db.catalog.accounts, a.accountSubtype = some "credit_card" →
    db.closed a.accountId = true → db.postedUnits (a.accountId, a.assetCode) = 0

section Kept

variable {uuid5 : UUID → String → UUID} {trading : UUID → Bool} {db db' : BookReads}
  {action : AccountAction} {actions : List AccountAction} {bookId : UUID}

theorem AccountsKept.start : AccountsKept (BookReads.start bookId) :=
  ⟨List.nodup_nil, JournalBook.empty, nofun, fun _ => rfl, nofun⟩

/-- Rows on other accounts leave the units of an account. -/
theorem postedUnits_untouched {rows : List JournalPostingRecord} {key : BalanceKey}
    (hRows : PostsRows db.tables db'.tables rows)
    (hNone : ∀ row ∈ rows, row.accountId ≠ key.1) :
    db'.postedUnits key = db.postedUnits key := by
  unfold BookReads.postedUnits
  rw [hRows.postings, postingAmounts, List.map_append, sumAt_append]
  have hZero : sumAt (postingAmounts rows) key = 0 := by
    refine sumAt_eq_zero fun hMem => ?_
    obtain ⟨entry, hEntry, hKey⟩ := List.mem_map.1 hMem
    obtain ⟨row, hRow, rfl⟩ := List.mem_map.1 hEntry
    exact hNone row hRow (congrArg Prod.fst hKey)
  rw [postingAmounts] at hZero ⊢
  rw [hZero, add_zero]

/-- An account is closed at zero, by the postings and by the projection. -/
theorem closeAccount_ok (hKept : AccountsKept db) {accountId : UUID}
    (h : db.closeAccount accountId = .ok db') :
    db' = db.setClosed accountId true ∧ db.closed accountId = false
      ∧ ∀ a ∈ db.catalog.accounts, a.accountId = accountId →
        db.postedUnits (accountId, a.assetCode) = 0 := by
  simp only [BookReads.closeAccount, bind_eq_ok, require_eq_ok, fetch_eq_ok, pure_eq_ok,
    exists_const] at h
  obtain ⟨account, hAccount, hActive, -, -, -, hZero, rfl⟩ := h
  refine ⟨rfl, hActive, fun a ha hId => ?_⟩
  have hFound : account.accountId = accountId := by
    simpa [BookReads.account?] using List.find?_some hAccount
  have hSame : a = account := List.inj_on_of_nodup_map hKept.accountIds ha
    (List.mem_of_find?_eq_some hAccount) (hId.trans hFound.symm)
  rw [hSame, BookReads.postedUnits, ← journalUnits_sum hKept.journal.keys hKept.journaled]
  exact hZero

/-- Every command keeps closed credit cards at zero. -/
theorem AccountsKept.step (hKept : AccountsKept db)
    (h : AccountStep uuid5 trading db action db') : AccountsKept db' := by
  obtain ⟨rows, hRows, hAdmitted⟩ := accountStep_rows h
  have hJournal := hRows.journal hKept.journal
  have hJournaled : ∀ p ∈ db'.tables.journalPostings,
      p.transactionId ∈ db'.tables.journalTransactions.map (·.transactionId) := by
    intro p hp
    rw [hRows.postings, List.mem_append] at hp
    rcases hp with hp | hp
    · exact hRows.kept (hKept.journaled p hp)
    · exact hRows.journaled p hp
  have hBalances : ∀ key, db'.tables.balanceAt key = db'.postedUnits key := by
    intro key
    rw [hRows.balances, hKept.balances, BookReads.postedUnits, BookReads.postedUnits,
      hRows.postings, postingAmounts, postingAmounts, postingAmounts, List.map_append,
      sumAt_append]
  -- a closed card has no new rows
  have hClosedCard : ∀ a ∈ db.catalog.accounts, a.accountSubtype = some "credit_card" →
      db.closed a.accountId = true → db'.postedUnits (a.accountId, a.assetCode) = 0 := by
    intro a ha hCard hStatus
    rw [postedUnits_untouched hRows, hKept.closedCards a ha hCard hStatus]
    intro row hRow hSame
    have hClosed : db.ClosedCard row.accountId :=
      ⟨a, ha, hSame.symm, hCard, (congrArg db.closed hSame).trans hStatus⟩
    rcases hAdmitted row hRow with hActive | ⟨-, hNot⟩
    · rw [hSame] at hActive
      exact Bool.false_ne_true (hActive.symm.trans hStatus)
    · exact hNot hClosed
  rcases accountStep_status h with ⟨hAccounts, hStatus⟩ | ⟨account, hNew, hAccounts, hStatus, -⟩
    | ⟨accountId, -, hClose⟩ | ⟨accountId, -, hReopen⟩
  · refine ⟨hAccounts ▸ hKept.accountIds, hJournal, hJournaled, hBalances, ?_⟩
    rw [hAccounts, hStatus]
    exact hClosedCard
  · refine ⟨?_, hJournal, hJournaled, hBalances, ?_⟩
    · rw [hAccounts, List.map_append, List.map_singleton]
      exact List.nodup_append_comm.1 (List.nodup_cons.2 ⟨hNew, hKept.accountIds⟩)
    · rw [hAccounts, hStatus]
      intro a ha hCard hClosed
      rcases List.mem_append.1 ha with ha | ha
      · refine hClosedCard a ha hCard ?_
        simp only [BookReads.setClosed] at hClosed
        split_ifs at hClosed
        exact hClosed
      · rw [List.mem_singleton.1 ha] at hClosed
        simp [BookReads.setClosed] at hClosed
  · obtain ⟨rfl, -, hZero⟩ := closeAccount_ok hKept hClose
    refine ⟨hKept.accountIds, hJournal, hJournaled, hBalances, fun a ha hCard hClosed => ?_⟩
    by_cases hSame : a.accountId = accountId
    · rw [hSame]
      exact hZero a ha hSame
    · refine hClosedCard a ha hCard ?_
      simpa [BookReads.setClosed, hSame] using hClosed
  · subst hReopen
    refine ⟨hKept.accountIds, hJournal, hJournaled, hBalances, fun a ha hCard hClosed => ?_⟩
    refine hClosedCard a ha hCard ?_
    simp only [BookReads.setClosed] at hClosed
    split_ifs at hClosed
    exact hClosed

/-- The command does not reopen the account, and reverses no transaction that
posted to it. -/
def Leaves (uuid5 : UUID → String → UUID) (accountId : UUID) (db : BookReads)
    (action : AccountAction) : Prop :=
  action ≠ .reopened accountId ∧ ∀ row, Mirrors uuid5 db action row → row.accountId ≠ accountId

end Kept

/-! ### A credit card that is closed -/

end TrackAnywhere.Ports
