import TrackAnywhere.Ports.AccountClosing
import TrackAnywhere.Ports.EntryContracts

/-!
# Requests to close, reopen and rename accounts

Each of the three tools takes a request id, which a client keeps for the retries of
a call whose response it has lost.  A rename leaves a receipt under its request id,
in the transaction that renames.  Closing and reopening leave none: the tool reads
the account in one transaction, answers when the status is already as asked, and
otherwise changes it in another, under the lock of the Book.

The system below is a Book under any number of such calls and retries, each of them
between its two transactions for as long as it likes, and under whatever else is
committed in the Book.
-/

namespace TrackAnywhere.Ports

open TrackAnywhere.Verified
open TrackAnywhere.Verified.Checked

/-! ## Accounts and their receipts -/

/-- The columns of `accounts` that the catalog shows beside those of `AccountRecord`. -/
structure AccountDetails where
  systemRole : Option String
  currentName : String
  version : Nat
deriving DecidableEq

/-- `_snapshot` of an account. -/
structure AccountSnapshot where
  account : AccountRecord
  systemRole : Option String
  currentName : String
  closed : Bool
  version : Nat
deriving DecidableEq

/-- The payload of `rename_account`, with the name stripped. -/
structure RenamePayload where
  bookId : UUID
  accountId : UUID
  currentName : String
  requestId : UUID
deriving DecidableEq

/-- `account_mutations`. -/
structure AccountMutationRecord where
  requestId : UUID
  accountId : UUID
  actorSubjectId : String
  command : RenamePayload
  before : AccountSnapshot
  after : AccountSnapshot
deriving DecidableEq

/-- A Book with the names and receipts of its accounts. -/
structure CatalogBook where
  reads : BookReads
  details : UUID → AccountDetails
  mutations : List AccountMutationRecord

inductive AccountToolError
  | tool (message : String)
  | value (message : String)
  | idempotencyConflict
  | accountUnavailable (message : String)
  | systemManagedAccount (message : String)
  | status (error : CloseAccountError)
  | verificationPending (message : String)
deriving DecidableEq

namespace CatalogBook

variable (book : CatalogBook)

def snapshot? (accountId : UUID) : Option AccountSnapshot :=
  (book.reads.account? accountId).map fun account =>
    { account := account
      systemRole := (book.details accountId).systemRole
      currentName := (book.details accountId).currentName
      closed := book.reads.closed accountId
      version := (book.details accountId).version }

/-- `session.get(AccountMutationRecord, (book_id, request_id))` -/
def receipt? (requestId : UUID) : Option AccountMutationRecord :=
  book.mutations.find? fun receipt => receipt.requestId = requestId

end CatalogBook

/-! ## Renaming -/

structure RenameAccount where
  bookId : UUID
  accountId : UUID
  currentName : String
  requestId : UUID
deriving DecidableEq

/-- `RenameAccount.__post_init__` -/
def RenameAccount.postInit (self : RenameAccount) : Except AccountToolError Unit := do
  require (strip self.currentName ≠ "") (.value "current_name must be nonblank")
  require ((strip self.currentName).length ≤ 512)
    (.value "current_name must contain at most 512 characters")

def RenameAccount.payload (self : RenameAccount) : RenamePayload where
  bookId := self.bookId
  accountId := self.accountId
  currentName := strip self.currentName
  requestId := self.requestId

namespace CatalogBook

variable (book : CatalogBook)

/-- The account with its new name, and the receipt. -/
def renamed (command : RenameAccount) (actor : String) (before : AccountSnapshot) :
    CatalogBook :=
  let name := strip command.currentName
  { book with
    details := fun accountId =>
      if accountId = command.accountId then
        { book.details accountId with
          currentName := name
          version := before.version + 1 }
      else book.details accountId
    mutations := book.mutations ++ [{
      requestId := command.requestId
      accountId := command.accountId
      actorSubjectId := actor
      command := command.payload
      before := before
      after := { before with
        currentName := name
        version := before.version + 1 } }] }

/-- The transaction of `rename_account`: what it returns, whether from a receipt, and
the Book it leaves. -/
def renameAccount (command : RenameAccount) (actor : String) :
    Except AccountToolError (AccountSnapshot × Bool × CatalogBook) := do
  match book.receipt? command.requestId with
  | some receipt => do
      require (receipt.command = command.payload ∧ receipt.actorSubjectId = actor)
        .idempotencyConflict
      return (receipt.after, true, book)
  | none => do
      let before ← fetch (book.snapshot? command.accountId)
        (.accountUnavailable "account not found in requested Book")
      require (before.systemRole = none ∧ before.account.accountType ≠ .system)
        (.systemManagedAccount "system-managed accounts cannot be renamed")
      return ({ before with
          currentName := strip command.currentName
          version := before.version + 1 }, false, book.renamed command actor before)

/-- The second transaction of `rename_account`, which reads the receipt back. -/
def verifyRename (command : RenameAccount) : Except AccountToolError AccountSnapshot := do
  let pending : AccountToolError := .verificationPending
    "account rename verification pending; retry the exact same request_id"
  let receipt ← fetch (book.receipt? command.requestId) pending
  require (receipt.command = command.payload) pending
  require (book.snapshot? command.accountId = some receipt.after) pending
  return receipt.after

end CatalogBook

/-! ## Closing and reopening -/

/-- Whether a call answers from what it has read, or goes on to its write. -/
inductive BeforeWrite
  | replayed (account : AccountSnapshot)
  | writes
deriving DecidableEq

/-- The first transaction of `ledger_close_account` (`closed := true`) and of
`ledger_reopen_account` (`closed := false`). -/
def CatalogBook.readBeforeWrite (book : CatalogBook) (accountId : UUID) (closed : Bool)
    (message : String) : Except AccountToolError BeforeWrite := do
  let existing ← fetch (book.snapshot? accountId)
    (.tool "account not found in requested Book")
  require (existing.systemRole = none) (.tool message)
  if existing.closed = closed then return .replayed existing
  else return .writes

/-- A call of one of the three tools, without its Book and request id. -/
inductive AccountRequest
  | close (accountId : UUID)
  | reopen (accountId : UUID)
  | rename (accountId : UUID) (currentName : String)
deriving DecidableEq

structure AccountCall where
  actor : String
  request : AccountRequest
deriving DecidableEq

/-- The first transaction of a call; a rename has none. -/
def CatalogBook.before (book : CatalogBook) : AccountRequest →
    Except AccountToolError BeforeWrite
  | .close accountId => book.readBeforeWrite accountId true
      "system-managed accounts cannot be closed by an Agent"
  | .reopen accountId => book.readBeforeWrite accountId false
      "system-managed accounts cannot be reopened by an Agent"
  | .rename _ _ => return .writes

/-- The transaction of a call that writes: whether the account was changed, and the
Book it leaves. -/
def CatalogBook.write (book : CatalogBook) (requestId : UUID) (call : AccountCall) :
    Except AccountToolError (Bool × CatalogBook) :=
  match call.request with
  | .close accountId => do
      let reads ← (book.reads.closeAccount accountId).mapError .status
      return (true, { book with reads := reads })
  | .reopen accountId => do
      let reads ← (book.reads.reopenAccount accountId).mapError .status
      return (true, { book with reads := reads })
  | .rename accountId currentName => do
      let command : RenameAccount := ⟨book.reads.bookId, accountId, currentName, requestId⟩
      command.postInit
      let (_, replayed, book') ← book.renameAccount command call.actor
      return (!replayed, book')

/-! ## Interleaved calls -/

/-- The Book, the request ids of the calls between their two transactions, and the
request ids under which an account was changed, in order. -/
structure AccountCalls where
  book : CatalogBook
  writing : List UUID
  applied : List UUID

inductive AccountCallAction
  | reads (requestId : UUID)
  | writes (requestId : UUID)
  | elsewhere
deriving DecidableEq

/-- A request id stands for one call, whose retries start at their first transaction
again.  Nothing else writes receipts of renames. -/
inductive AccountCallStep (calls : UUID → AccountCall) :
    AccountCalls → AccountCallAction → AccountCalls → Prop
  | answered {s : AccountCalls} {requestId : UUID}
      (h : s.book.before (calls requestId).request ≠ .ok .writes) :
      AccountCallStep calls s (.reads requestId) s
  | proceeds {s : AccountCalls} {requestId : UUID}
      (h : s.book.before (calls requestId).request = .ok .writes) :
      AccountCallStep calls s (.reads requestId)
        { s with writing := requestId :: s.writing }
  | refused {s : AccountCalls} {requestId : UUID} {error : AccountToolError}
      (hWriting : requestId ∈ s.writing)
      (h : s.book.write requestId (calls requestId) = .error error) :
      AccountCallStep calls s (.writes requestId)
        { s with writing := s.writing.erase requestId }
  | wrote {s : AccountCalls} {requestId : UUID} {changed : Bool} {book : CatalogBook}
      (hWriting : requestId ∈ s.writing)
      (h : s.book.write requestId (calls requestId) = .ok (changed, book)) :
      AccountCallStep calls s (.writes requestId)
        { book := book
          writing := s.writing.erase requestId
          applied := if changed then s.applied ++ [requestId] else s.applied }
  | elsewhere {s : AccountCalls} (reads : BookReads) (details : UUID → AccountDetails) :
      AccountCallStep calls s .elsewhere
        { s with book := { s.book with reads := reads, details := details } }

/-- The status that a request leaves. -/
def AccountRequest.holds (book : CatalogBook) : AccountRequest → Prop
  | .close accountId => book.reads.closed accountId = true
  | .reopen accountId => book.reads.closed accountId = false
  | .rename _ _ => True

/-- A request that was applied is carried out again only while the account is as the
request left it. -/
def RetryKept (calls : UUID → AccountCall) (s : AccountCalls) : AccountCallAction → Prop
  | .writes requestId => requestId ∈ s.applied → (calls requestId).request.holds s.book
  | _ => True

/-! ## What a write does -/

section Writes

variable {book book' : CatalogBook} {requestId : UUID} {call : AccountCall} {changed : Bool}

theorem receipt?_eq_none : book.receipt? requestId = none
    ↔ requestId ∉ book.mutations.map (·.requestId) := by
  simp only [CatalogBook.receipt?, List.find?_eq_none, decide_eq_true_eq, List.mem_map,
    not_exists, not_and]

/-- A rename leaves the Book to its receipt, or makes one. -/
theorem renameAccount_applied {command : RenameAccount} {actor : String}
    {after : AccountSnapshot} {replayed : Bool}
    (h : book.renameAccount command actor = .ok (after, replayed, book')) :
    (replayed = true ∧ book' = book)
      ∨ (replayed = false ∧ command.requestId ∉ book.mutations.map (·.requestId)
        ∧ ∃ before, book' = book.renamed command actor before) := by
  unfold CatalogBook.renameAccount at h
  cases hReceipt : book.receipt? command.requestId with
  | some receipt =>
      simp only [hReceipt, bind_eq_ok, require_eq_ok, pure_eq_ok, exists_const,
        Prod.mk.injEq] at h
      obtain ⟨-, -, rfl, rfl⟩ := h
      exact .inl ⟨rfl, rfl⟩
  | none =>
      simp only [hReceipt, bind_eq_ok, fetch_eq_ok, require_eq_ok, pure_eq_ok, exists_const,
        Prod.mk.injEq] at h
      obtain ⟨before, -, -, -, rfl, rfl⟩ := h
      exact .inr ⟨rfl, receipt?_eq_none.1 hReceipt, before, rfl⟩

/-- What a write that is not refused does to the receipts. -/
theorem write_mutations (h : book.write requestId call = .ok (changed, book')) :
    book.mutations.map (·.requestId) ⊆ book'.mutations.map (·.requestId)
    ∧ ∀ accountId currentName, call.request = .rename accountId currentName →
      changed = true → requestId ∉ book.mutations.map (·.requestId)
        ∧ requestId ∈ book'.mutations.map (·.requestId) := by
  unfold CatalogBook.write at h
  cases hRequest : call.request with
  | close accountId =>
      simp only [hRequest, bind_eq_ok, pure_eq_ok, Prod.mk.injEq] at h
      obtain ⟨reads, -, -, rfl⟩ := h
      exact ⟨fun _ hMem => hMem, fun _ _ hRename => by simp at hRename⟩
  | reopen accountId =>
      simp only [hRequest, bind_eq_ok, pure_eq_ok, Prod.mk.injEq] at h
      obtain ⟨reads, -, -, rfl⟩ := h
      exact ⟨fun _ hMem => hMem, fun _ _ hRename => by simp at hRename⟩
  | rename accountId currentName =>
      simp only [hRequest, bind_eq_ok, pure_eq_ok, Prod.mk.injEq] at h
      obtain ⟨-, -, ⟨after, replayed, book₁⟩, hRename, rfl, rfl⟩ := h
      obtain ⟨rfl, rfl⟩ | ⟨rfl, hNew, before, rfl⟩ := renameAccount_applied hRename
      · exact ⟨fun _ hMem => hMem, fun _ _ _ hChanged => by simp at hChanged⟩
      · have hMutations : (book.renamed ⟨book.reads.bookId, accountId, currentName, requestId⟩
            call.actor before).mutations.map (·.requestId)
            = book.mutations.map (·.requestId) ++ [requestId] := by
          rw [CatalogBook.renamed, List.map_append]
          rfl
        rw [hMutations]
        exact ⟨List.subset_append_left _ _, fun _ _ _ _ =>
          ⟨hNew, List.mem_append_right _ (List.mem_singleton_self _)⟩⟩

/-- An account is not closed, or reopened, twice in a row. -/
theorem write_of_holds (hHolds : call.request.holds book)
    (h : book.write requestId call = .ok (changed, book')) :
    changed = false ∨ ∃ accountId currentName, call.request = .rename accountId currentName := by
  unfold CatalogBook.write at h
  cases hRequest : call.request with
  | close accountId =>
      rw [hRequest] at hHolds
      simp only [hRequest, bind_eq_ok, mapError_eq_ok] at h
      obtain ⟨reads, hClose, -⟩ := h
      simp only [BookReads.closeAccount, bind_eq_ok, fetch_eq_ok, require_eq_ok,
        exists_const] at hClose
      obtain ⟨account, -, hActive, -⟩ := hClose
      rw [AccountRequest.holds, hActive] at hHolds
      exact absurd hHolds (by simp)
  | reopen accountId =>
      rw [hRequest] at hHolds
      simp only [hRequest, bind_eq_ok, mapError_eq_ok] at h
      obtain ⟨reads, hReopen, -⟩ := h
      simp only [BookReads.reopenAccount, bind_eq_ok, fetch_eq_ok, require_eq_ok,
        exists_const] at hReopen
      obtain ⟨account, -, hClosed, -⟩ := hReopen
      rw [AccountRequest.holds, hClosed] at hHolds
      exact absurd hHolds (by simp)
  | rename accountId currentName => exact .inr ⟨accountId, currentName, rfl⟩

end Writes

/-! ## Runs of calls -/

section Runs

variable {calls : UUID → AccountCall} {s s' : AccountCalls} {action : AccountCallAction}

/-- Applied renames have their receipts, and were applied once. -/
structure RenamesKept (calls : UUID → AccountCall) (s : AccountCalls) : Prop where
  receipts : ∀ requestId ∈ s.applied, ∀ accountId currentName,
    (calls requestId).request = .rename accountId currentName →
      requestId ∈ s.book.mutations.map (·.requestId)
  once : ∀ requestId accountId currentName,
    (calls requestId).request = .rename accountId currentName → s.applied.count requestId ≤ 1

theorem RenamesKept.step (h : RenamesKept calls s)
    (hStep : AccountCallStep calls s action s') : RenamesKept calls s' := by
  cases hStep with
  | answered _ => exact h
  | proceeds _ => exact ⟨h.receipts, h.once⟩
  | refused _ _ => exact ⟨h.receipts, h.once⟩
  | elsewhere reads details => exact ⟨h.receipts, h.once⟩
  | @wrote written changed book _ hWrite =>
      obtain ⟨hGrown, hRename⟩ := write_mutations hWrite
      cases changed with
      | false =>
          exact ⟨fun requestId hMem a n hRequest => hGrown (h.receipts requestId hMem a n hRequest),
            h.once⟩
      | true =>
          constructor
          · intro requestId hMem a n hRequest
            obtain hOld | hNew := List.mem_append.1 hMem
            · exact hGrown (h.receipts requestId hOld a n hRequest)
            · rw [List.mem_singleton.1 hNew] at hRequest ⊢
              exact (hRename a n hRequest rfl).2
          · intro requestId a n hRequest
            have hOnce := h.once requestId a n hRequest
            rw [if_pos rfl, List.count_append]
            by_cases hSame : requestId = written
            · subst hSame
              have hFresh : requestId ∉ s.applied := fun hMem =>
                (hRename a n hRequest rfl).1 (h.receipts requestId hMem a n hRequest)
              rw [List.count_eq_zero_of_not_mem hFresh, List.count_singleton_self]
            · have hOther : requestId ∉ [written] := by simpa using hSame
              rw [List.count_eq_zero_of_not_mem hOther]
              omega

theorem renames_once_over_run {book : CatalogBook} {actions : List AccountCallAction}
    (hRun : Run (AccountCallStep calls) ⟨book, [], []⟩ actions s) : RenamesKept calls s := by
  refine hRun.invariant ⟨?_, ?_⟩ fun _ _ _ hKept hStep => RenamesKept.step hKept hStep
  · exact fun requestId hMem => absurd hMem List.not_mem_nil
  · exact fun requestId _ _ _ => Nat.zero_le _

theorem applied_nodup_step (hRenames : RenamesKept calls s) (hNodup : s.applied.Nodup)
    (hStep : AccountCallStep calls s action s') (hKept : RetryKept calls s action) :
    s'.applied.Nodup := by
  cases hStep with
  | answered _ => exact hNodup
  | proceeds _ => exact hNodup
  | refused _ _ => exact hNodup
  | elsewhere reads details => exact hNodup
  | @wrote written changed book _ hWrite =>
      cases changed with
      | false => exact hNodup
      | true =>
          have hFresh : written ∉ s.applied := by
            intro hMem
            obtain hFalse | ⟨a, n, hRequest⟩ := write_of_holds (hKept hMem) hWrite
            · exact absurd hFalse (by simp)
            · exact ((write_mutations hWrite).2 a n hRequest rfl).1
                (hRenames.receipts written hMem a n hRequest)
          exact List.Nodup.append hNodup (List.nodup_singleton _)
            (List.disjoint_singleton.2 hFresh)

/-- Over any run of calls and retries, a rename is applied at most once, and every
request is as long as no applied request to close or reopen is carried out again after
the status was changed back. -/
theorem account_requests_applied_once {book : CatalogBook}
    {actions : List AccountCallAction}
    (hRun : Run (AccountCallStep calls) ⟨book, [], []⟩ actions s) :
    (∀ requestId accountId currentName,
      (calls requestId).request = .rename accountId currentName →
        s.applied.count requestId ≤ 1)
    ∧ (Run (fun s action s' => AccountCallStep calls s action s' ∧ RetryKept calls s action)
        ⟨book, [], []⟩ actions s → s.applied.Nodup) := by
  refine ⟨(renames_once_over_run hRun).once, fun hKept => ?_⟩
  have hInit : RenamesKept calls ⟨book, [], []⟩ := renames_once_over_run (.nil _)
  have hBoth : RenamesKept calls s ∧ s.applied.Nodup := by
    refine hKept.invariant (I := fun s => RenamesKept calls s ∧ s.applied.Nodup)
      ⟨hInit, List.nodup_nil⟩ ?_
    intro s₁ a s₂ hI hStep
    exact ⟨hI.1.step hStep.1, applied_nodup_step hI.1 hI.2 hStep.1 hStep.2⟩
  exact hBoth.2

/-! ### A close, a reopen, and a late retry of the close -/

section Retried

/-- Request 1 closes account 1, request 2 reopens it, and all others rename it. -/
def retriedCalls (requestId : UUID) : AccountCall where
  actor := "a"
  request :=
    if requestId = 1 then .close 1
    else if requestId = 2 then .reopen 1
    else .rename 1 "Cash"

def retriedBookWith (closed : UUID → Bool) : CatalogBook where
  reads :=
    { bookId := 1
      catalog := sampleCatalog
      closed := closed
      ledger := []
      tables := SyncTables.empty
      streamHeads := [] }
  details := fun _ => ⟨none, "Wallet", 1⟩
  mutations := []

/-- The Book with account 1 closed or open. -/
def retriedBook (closed : Bool) : CatalogBook :=
  retriedBookWith fun accountId => accountId = 1 && closed

theorem retriedBook_setClosed (was closed : Bool) :
    { retriedBook was with reads := (retriedBook was).reads.setClosed 1 closed }
      = retriedBook closed := by
  have hClosed : (fun other : UUID => if other = 1 then closed else other = 1 && was)
      = fun accountId => decide (accountId = 1) && closed := by
    funext accountId
    by_cases h : accountId = 1 <;> simp [h]
  exact congrArg retriedBookWith hClosed

theorem retried_reads {requestId : UUID} {was : Bool} (applied : List UUID)
    (hBefore : (retriedBook was).before (retriedCalls requestId).request = .ok .writes) :
    AccountCallStep retriedCalls ⟨retriedBook was, [], applied⟩ (.reads requestId)
      ⟨retriedBook was, [requestId], applied⟩ :=
  .proceeds hBefore

theorem retried_writes {requestId : UUID} {was : Bool} (closed : Bool) (applied : List UUID)
    (hWrite : (retriedBook was).write requestId (retriedCalls requestId)
      = .ok (true, { retriedBook was with
        reads := (retriedBook was).reads.setClosed 1 closed })) :
    AccountCallStep retriedCalls ⟨retriedBook was, [requestId], applied⟩ (.writes requestId)
      ⟨retriedBook closed, [], applied ++ [requestId]⟩ := by
  rw [retriedBook_setClosed] at hWrite
  have hStep := @AccountCallStep.wrote retriedCalls ⟨retriedBook was, [requestId], applied⟩
    requestId true (retriedBook closed) (List.mem_singleton_self _) hWrite
  simp only [if_true, List.erase_cons_head] at hStep
  exact hStep

theorem retried_close (applied : List UUID) :
    AccountCallStep retriedCalls ⟨retriedBook false, [], applied⟩ (.reads 1)
      ⟨retriedBook false, [1], applied⟩
    ∧ AccountCallStep retriedCalls ⟨retriedBook false, [1], applied⟩ (.writes 1)
      ⟨retriedBook true, [], applied ++ [1]⟩ :=
  ⟨retried_reads applied (by decide), retried_writes true applied rfl⟩

theorem retried_reopen (applied : List UUID) :
    AccountCallStep retriedCalls ⟨retriedBook true, [], applied⟩ (.reads 2)
      ⟨retriedBook true, [2], applied⟩
    ∧ AccountCallStep retriedCalls ⟨retriedBook true, [2], applied⟩ (.writes 2)
      ⟨retriedBook false, [], applied ++ [2]⟩ :=
  ⟨retried_reads applied (by decide), retried_writes false applied rfl⟩

/-- The retry of request 1 undoes what request 2 did in between. -/
theorem account_close_applied_twice :
    ∃ s : AccountCalls, Run (AccountCallStep retriedCalls) ⟨retriedBook false, [], []⟩
      [.reads 1, .writes 1, .reads 2, .writes 2, .reads 1, .writes 1] s
      ∧ s.applied.count 1 = 2 ∧ s.book.reads.closed 1 = true := by
  refine ⟨⟨retriedBook true, [], [1, 2, 1]⟩, ?_, by decide, rfl⟩
  have hFirst := retried_close []
  have hSecond := retried_reopen [1]
  have hRetry := retried_close [1, 2]
  exact .cons hFirst.1 (.cons hFirst.2 (.cons hSecond.1 (.cons hSecond.2
    (.cons hRetry.1 (.cons hRetry.2 (.nil _))))))

theorem account_requests_applied_once_reopened : [(1 : UUID), 2].Nodup := by
  have hFirst := retried_close []
  have hSecond := retried_reopen [1]
  have hRun : Run (AccountCallStep retriedCalls) ⟨retriedBook false, [], []⟩
      [.reads 1, .writes 1, .reads 2, .writes 2] ⟨retriedBook false, [], [1, 2]⟩ :=
    .cons hFirst.1 (.cons hFirst.2 (.cons hSecond.1 (.cons hSecond.2 (.nil _))))
  have hFresh : (2 : UUID) ∉ [(1 : UUID)] := by decide
  exact (account_requests_applied_once hRun).2
    (.cons ⟨hFirst.1, trivial⟩ (.cons ⟨hFirst.2, fun h => absurd h List.not_mem_nil⟩
      (.cons ⟨hSecond.1, trivial⟩ (.cons ⟨hSecond.2, fun h => absurd h hFresh⟩ (.nil _)))))

end Retried

end Runs

end TrackAnywhere.Ports
