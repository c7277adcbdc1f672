import TrackAnywhere.Ports.CompiledPlans
import TrackAnywhere.Ports.IdempotencyRequests
import TrackAnywhere.Ports.SyncEffects

/-!
# Balance adjustments

`record_adjustment` compares the balance that the user expects with the ledger,
and posts the difference to the actual balance between the account and the
adjustment account of the asset.  The difference goes through its decimal text:
`journalCommand` decodes it, and `buildPostedPayload` parses it again under the
policy of the asset, as it does with the amounts of every journal command.

The natural balance of an asset account is its debits less its credits; that of a
credit card is what is owed, its credits less its debits.
-/

namespace TrackAnywhere.Ports

open TrackAnywhere.Verified
open TrackAnywhere.Verified.Checked
open TrackAnywhere.Verified.KeyedSum

/-! ## What a journal command reads -/

/-- The columns of `accounts` that the journal commands read. -/
structure JournalAccount extends AccountRecord where
  systemRole : Option AccountSystemRole
  status : String
deriving DecidableEq

namespace JournalAccount

def isAsset (self : JournalAccount) : Bool := self.accountType = .asset

def isCreditCard (self : JournalAccount) : Bool :=
  self.accountType = .liability ∧ self.accountSubtype = some "credit_card"

/-- Accounting units, debits positive, as the natural balance of an asset account or of
a credit card; it is the same the other way. -/
def natural (self : JournalAccount) (units : Int) : Int :=
  if self.isAsset then units else -units

end JournalAccount

/-- A row of `assets`; the table checks the scales. -/
structure JournalAsset where
  assetCode : AssetCode
  status : String
  policy : AssetPolicy

/-- The Book of a journal command; the id of an account is its primary key. -/
structure JournalReads where
  bookId : UUID
  accounts : List JournalAccount
  assets : List JournalAsset
  tables : SyncTables
  hAccounts : (accounts.map (·.accountId)).Nodup

namespace JournalReads

variable (db : JournalReads)

/-- `CatalogRepository.get_account` -/
def account? (accountId : UUID) : Option JournalAccount :=
  db.accounts.find? fun a => a.accountId = accountId

/-- `CatalogRepository.get_asset` -/
def asset? (assetCode : String) : Option JournalAsset :=
  db.assets.find? fun a => a.assetCode.1 = assetCode

end JournalReads

inductive JournalWriteError
  | catalogNotFound
  | adjustmentAccountUnavailable (message : String)
  | adjustmentBalanceMismatch (message : String)
  | adjustmentProjectionMismatch (message : String)
  | idempotencyValidation (message : String)
  | creditCardSemanticWriteRequired (message : String)
  | assetUnavailable (message : String)
  | money (error : MoneyError)
  | journal (error : JournalError)
  | contract (message : String)

/-! ## The posted payload of a journal command -/

section Posted

variable (db : JournalReads)

/-- The policy of an asset that may be posted in. -/
def postedAsset (assetCode : String) : Except JournalWriteError JournalAsset := do
  let asset ← fetch (db.asset? assetCode)
    (.assetUnavailable ("asset is unavailable: " ++ assetCode))
  require (asset.status = "active")
    (.assetUnavailable ("asset is unavailable: " ++ assetCode))
  return asset

/-- The posting at a position, its amount read under the policy of its asset. -/
def readPosting (posting : PostTransactionPosting) (position : Nat) :
    Except JournalWriteError JournalPostingFact := do
  let asset ← postedAsset db posting.assetCode
  let amount ← (asset.policy.parseOnline posting.amount).mapError .money
  return { postingId := posting.postingId
           position := position
           accountId := posting.accountId
           assetCode := asset.assetCode
           side := posting.side
           units := amount.units }

/-- The accounts of a command as the journal validator has them. -/
def postedReads (accounts : List JournalAccount) : BookReads :=
  { BookReads.start db.bookId with
    catalog := ⟨accounts.map (·.toAccountRecord), [], []⟩
    closed := fun accountId =>
      accounts.any fun a => a.accountId = accountId ∧ a.status ≠ "active" }

/-- `_build_posted_payload` -/
def buildPostedPayload (command : PostTransactionRequest)
    (allowCreditCardAdjustment : Bool) :
    Except JournalWriteError JournalTransactionPosted := do
  let accounts := db.accounts.filter fun a =>
    a.accountId ∈ command.postings.map (·.accountId)
  require ((allowCreditCardAdjustment = true ∧ command.kind = .adjustment)
      ∨ ∀ a ∈ accounts, a.accountSubtype ≠ some "credit_card")
    (.creditCardSemanticWriteRequired
      "a credit-card semantic command is required for credit_card accounts")
  forEach command.postings fun posting => do
    let _ ← postedAsset db posting.assetCode
    return
  let postings ← command.postings.zipIdx.mapM fun (posting, position) =>
    readPosting db posting position
  (validateJournal (fun accountId => accounts.any fun a =>
      a.accountId = accountId ∧ a.systemRole = some .fxTrading)
    (postedReads db accounts) command.kind postings).mapError .journal
  let payload : JournalTransactionPosted :=
    { transactionId := command.transactionId
      kind := command.kind
      originalTransactionId := none
      postings := postings
      descriptionRef := command.descriptionRef
      externalReferences := command.externalReferences }
  payload.validateCompletePostings.mapError .contract
  return payload

end Posted

/-! ## The adjustment command -/

/-- `RecordAdjustmentCommand`; its stream starts at version zero. -/
structure RecordAdjustmentCommand where
  bookId : UUID
  commandId : UUID
  transactionId : UUID
  accountId : UUID
  assetCode : AssetCode
  expectedBalance : String
  actualBalance : String
  effectiveAt : Instant
  hExpected : plainDecimal expectedBalance = true
  hActual : plainDecimal actualBalance = true

/-- `_parse_non_negative_balance` -/
def parseNonNegativeBalance (raw : String) (policy : AssetPolicy) :
    Except MoneyError Nat :=
  if raw.toList.all fun c => c = '.' || c = '0' then .ok 0
  else do
    let parsed ← policy.parseOnline raw
    return parsed.units.1

section Adjustment

variable (db : JournalReads) (command : RecordAdjustmentCommand)

/-- `_current_accounting_units` -/
def currentAccountingUnits : Except JournalWriteError Int := do
  let key := (command.accountId, command.assetCode)
  let reference := ((db.tables.journalUnits key).map Prod.fst).sum
  require (db.tables.balanceAt key = reference)
    (.adjustmentProjectionMismatch
      "account balance projection does not match journal postings")
  return reference

/-- `_adjustment_account` -/
def adjustmentAccount : Except JournalWriteError JournalAccount :=
  match db.accounts.filter fun a => a.assetCode = command.assetCode
      ∧ a.accountType = .system ∧ a.accountSubtype = some "system_adjustment"
      ∧ a.status = "active" with
  | [account] => fetch (db.account? account.accountId) .catalogNotFound
  | _ => .error (.adjustmentAccountUnavailable
      "exactly one active system adjustment account is required for the asset")

/-- The account that a balance may be reconciled of. -/
def reconciledAccount : Except JournalWriteError JournalAccount := do
  let account ← fetch (db.account? command.accountId) .catalogNotFound
  require (account.status = "active")
    (.adjustmentAccountUnavailable "account must be active")
  require (account.isAsset ∨ account.isCreditCard)
    (.adjustmentAccountUnavailable
      "balance reconciliation requires an asset or credit-card account")
  require (account.systemRole = none ∨ account.systemRole = some .standard)
    (.adjustmentAccountUnavailable "system-managed accounts cannot be reconciled")
  require (account.assetCode = command.assetCode)
    (.adjustmentAccountUnavailable "account and asset_code must use the same asset")
  return account

variable (uuid5 : UUID → String → UUID)

/-- `_posting_id` -/
def adjustmentPostingId (side : PostingSide) : UUID :=
  uuid5 (uuid5 namespaceUrl "https://track-anywhere.dev/v2/events/journal.record-adjustment")
    (command.commandId.text ++ ":" ++ side.value)

/-- One posting of the command, with the check that its type makes of the amount. -/
def adjustmentPosting (accountId : UUID) (side : PostingSide) (amount : String) :
    Except JournalWriteError PostTransactionPosting := do
  require (plainDecimal amount)
    (.idempotencyValidation "posting amount must be an unsigned plain-decimal string")
  return { postingId := adjustmentPostingId command uuid5 side
           accountId := accountId
           assetCode := command.assetCode.1
           side := side
           amount := amount }

/-- The balances that a command is about, in natural units: what the ledger has, and
what the user found. -/
def adjustmentBalances (account : JournalAccount) (policy : AssetPolicy) :
    Except JournalWriteError (Int × Nat) := do
  let expectedUnits ← (parseNonNegativeBalance command.expectedBalance policy).mapError .money
  let actualUnits ← (parseNonNegativeBalance command.actualBalance policy).mapError .money
  let accountingUnits ← currentAccountingUnits db command
  let currentUnits := account.natural accountingUnits
  require (0 ≤ currentUnits)
    (.adjustmentBalanceMismatch
      "a negative natural balance requires a general journal correction")
  require (currentUnits = expectedUnits)
    (.adjustmentBalanceMismatch
      "expected balance does not match the current ledger balance")
  require (actualUnits ≠ currentUnits)
    (.adjustmentBalanceMismatch
      "actual balance already matches the current ledger balance")
  return (currentUnits, actualUnits)

/-- `_journal_command` -/
def journalCommand : Except JournalWriteError PostTransactionRequest := do
  require (db.bookId = command.bookId)
    (.idempotencyValidation "locked Book does not match command")
  let account ← reconciledAccount db command
  let asset ← fetch (db.asset? command.assetCode.1) .catalogNotFound
  require (asset.status = "active")
    (.adjustmentAccountUnavailable "asset is unavailable")
  let balances ← adjustmentBalances db command account asset.policy
  let adjustmentAccount ← adjustmentAccount db command
  let difference : Int := balances.2 - balances.1
  let amount ← (ScaledUnits.make difference.natAbs asset.policy.ledgerScale).mapError .money
  let towards := decide (0 < difference) = account.isAsset
  let debit ← adjustmentPosting command uuid5
    (if towards then command.accountId else adjustmentAccount.accountId) .debit amount.decode
  let credit ← adjustmentPosting command uuid5
    (if towards then adjustmentAccount.accountId else command.accountId) .credit amount.decode
  return { transactionId := command.transactionId
           expectedStreamVersion := 0
           kind := .adjustment
           postings := [debit, credit]
           effectiveAt := command.effectiveAt
           descriptionRef := none
           externalReferences := [] }

end Adjustment

/-! ## What the command posts -/

section Read

variable {db : JournalReads} {command : RecordAdjustmentCommand}
  {uuid5 : UUID → String → UUID} {policy : AssetPolicy}

/-- The digits of a decimal are characters of its text. -/
theorem mem_partitionDot {raw : String} {c : Char}
    (h : c ∈ (partitionDot raw).1 ++ (partitionDot raw).2.getD []) : c ∈ raw.toList := by
  unfold partitionDot at h
  rcases List.mem_append.1 h with hWhole | hFraction
  · exact (List.takeWhile_prefix _).subset hWhole
  · have hRest := List.dropWhile_suffix (l := raw.toList) fun c => decide (c ≠ '.')
    cases hDrop : raw.toList.dropWhile fun c => decide (c ≠ '.') with
    | nil =>
        rw [hDrop] at hFraction
        exact absurd hFraction List.not_mem_nil
    | cons point fraction =>
        rw [hDrop] at hFraction hRest
        exact hRest.subset (List.mem_cons_of_mem _ hFraction)

/-- A decimal of zeros is zero, whatever its decimals. -/
theorem decimalValue_zeros {raw : String} (hPlain : plainDecimal raw = true)
    (h : raw.toList.all (fun c => c = '.' || c = '0') = true) : decimalValue raw = 0 := by
  have hDigits := digits_of_plainDecimal hPlain
  have hZero : FixedPoint.units ((partitionDot raw).1 ++ (partitionDot raw).2.getD []) = 0 := by
    refine (FixedPoint.units_eq_zero hDigits).2 fun c hc => ?_
    have hEither := List.all_eq_true.1 h c (mem_partitionDot hc)
    simp only [Bool.or_eq_true, decide_eq_true_eq] at hEither
    refine hEither.resolve_left ?_
    rintro rfl
    exact absurd (hDigits '.' hc) (by decide)
  rw [decimalValue, FixedPoint.quotient, hZero, Nat.cast_zero, zero_div]

/-- A stated balance: the units of its value, in range, and multiples of what the input
can state. -/
theorem parseNonNegativeBalance_ok {raw : String} {n : Nat}
    (hPlain : plainDecimal raw = true)
    (h : parseNonNegativeBalance raw policy = .ok n) :
    (n : ℚ) = decimalValue raw * 10 ^ policy.ledgerScale
      ∧ 10 ^ (policy.ledgerScale - policy.inputScale) ∣ n ∧ n < 10 ^ 38 := by
  unfold parseNonNegativeBalance at h
  by_cases hZeros : (raw.toList.all fun c => c = '.' || c = '0') = true
  · rw [if_pos hZeros] at h
    cases h
    rw [decimalValue_zeros hPlain hZeros]
    refine ⟨by simp, Nat.dvd_zero _, by decide⟩
  · rw [if_neg hZeros] at h
    obtain ⟨parsed, hParsed, h⟩ := bind_eq_ok.1 h
    rw [← pure_eq_ok.1 h]
    obtain ⟨-, -, hFraction, hUnits, -⟩ := ScaledUnits.parse_ok.1 hParsed
    refine ⟨?_, ?_, parsed.units.2.2⟩
    · rw [hUnits, unitsAt_eq (hFraction.trans policy.hScale.1)]
    · rw [hUnits]
      exact dvd_unitsAt hFraction

/-- The text of units that the input can state is read back to them. -/
theorem readPosting_decoded {posting : PostTransactionPosting} {asset : JournalAsset}
    {amount : ScaledUnits} (position : Nat)
    (hAsset : db.asset? posting.assetCode = some asset) (hActive : asset.status = "active")
    (hScale : amount.scale = asset.policy.ledgerScale)
    (hUnits : 10 ^ (asset.policy.ledgerScale - asset.policy.inputScale) ∣ amount.units.1)
    (hAmount : posting.amount = amount.decode) :
    asset.policy.parseOnline posting.amount = .ok amount
      ∧ readPosting db posting position = .ok
        { postingId := posting.postingId
          position := position
          accountId := posting.accountId
          assetCode := asset.assetCode
          side := posting.side
          units := amount.units } := by
  have hParse : asset.policy.parseOnline posting.amount = .ok amount := by
    unfold AssetPolicy.parseOnline
    rw [hAmount, ← hScale]
    exact parse_decode amount (hScale ▸ asset.policy.hScale.1) (hScale ▸ hUnits)
  refine ⟨hParse, ?_⟩
  simp only [readPosting, postedAsset, bind_eq_ok, fetch_eq_ok, require_eq_ok, pure_eq_ok,
    mapError_eq_ok]
  exact ⟨asset, ⟨asset, hAsset, (), hActive, rfl⟩, amount, hParse, rfl⟩

theorem reconciledAccount_ok {account : JournalAccount}
    (h : reconciledAccount db command = .ok account) :
    db.account? command.accountId = some account
      ∧ (account.isAsset = true ∨ account.isCreditCard = true) := by
  simp only [reconciledAccount, bind_eq_ok, fetch_eq_ok, require_eq_ok, pure_eq_ok,
    exists_const] at h
  obtain ⟨found, hFound, -, hKind, -, -, rfl⟩ := h
  exact ⟨hFound, hKind⟩

/-- The adjustment account is a system account, so it is not the one that is adjusted. -/
theorem adjustmentAccount_ok {account adjustment : JournalAccount}
    (hAccount : reconciledAccount db command = .ok account)
    (h : adjustmentAccount db command = .ok adjustment) :
    adjustment.accountId ≠ command.accountId := by
  obtain ⟨hFound, hKind⟩ := reconciledAccount_ok hAccount
  unfold adjustmentAccount at h
  split at h
  · next candidate hOnly =>
      have hMem := hOnly ▸ List.mem_singleton_self candidate
      obtain ⟨hMem, hSystem⟩ := List.mem_filter.1 hMem
      simp only [decide_eq_true_eq] at hSystem
      rw [fetch_eq_ok] at h
      have hId := List.find?_some h
      simp only [decide_eq_true_eq] at hId
      -- the id is a key, so the row that is read again is the candidate
      have hSame : adjustment = candidate :=
        List.inj_on_of_nodup_map db.hAccounts (List.mem_of_find?_eq_some h) hMem hId
      intro hIds
      rw [JournalReads.account?, ← hIds] at hFound
      rw [JournalReads.account?, ← hId] at h
      rw [h, Option.some.injEq] at hFound
      rw [← hFound, hSame] at hKind
      simp [JournalAccount.isAsset, JournalAccount.isCreditCard, hSystem.2.1] at hKind
  · exact nomatch h

/-- The balances of a command: that of the ledger, and the stated one. -/
theorem adjustmentBalances_ok {account : JournalAccount} {balances : Int × Nat}
    (h : adjustmentBalances db command account policy = .ok balances) :
    balances.1 = account.natural (db.tables.balanceAt (command.accountId, command.assetCode))
      ∧ (∃ expected : Nat, balances.1 = expected
        ∧ 10 ^ (policy.ledgerScale - policy.inputScale) ∣ expected ∧ expected < 10 ^ 38)
      ∧ (balances.2 : ℚ) = decimalValue command.actualBalance * 10 ^ policy.ledgerScale
      ∧ 10 ^ (policy.ledgerScale - policy.inputScale) ∣ balances.2 ∧ balances.2 < 10 ^ 38 := by
  simp only [adjustmentBalances, currentAccountingUnits, bind_eq_ok, mapError_eq_ok,
    require_eq_ok, pure_eq_ok, exists_const] at h
  obtain ⟨expected, hExpected, actual, hActual, _, ⟨hProjected, rfl⟩, -, hSame, -, rfl⟩ := h
  obtain ⟨-, hDvd, hRange⟩ := parseNonNegativeBalance_ok command.hExpected hExpected
  obtain ⟨hValue, hActualDvd, hActualRange⟩ :=
    parseNonNegativeBalance_ok command.hActual hActual
  rw [hProjected]
  exact ⟨rfl, ⟨expected, hSame, hDvd, hRange⟩, hValue, hActualDvd, hActualRange⟩

/-- The two postings of a command: the difference, towards the account or away. -/
structure Adjusts (command : RecordAdjustmentCommand) (towards : Bool) (adjustmentId : UUID)
    (amount : ScaledUnits) (built : PostTransactionRequest) : Prop where
  kind : built.kind = .adjustment
  transactionId : built.transactionId = command.transactionId
  postings : ∃ debit credit, built.postings = [debit, credit]
    ∧ debit.accountId = (if towards then command.accountId else adjustmentId)
    ∧ credit.accountId = (if towards then adjustmentId else command.accountId)
    ∧ debit.side = .debit ∧ credit.side = .credit
    ∧ debit.amount = amount.decode ∧ credit.amount = amount.decode
    ∧ debit.assetCode = command.assetCode.1 ∧ credit.assetCode = command.assetCode.1

theorem journalCommand_ok {built : PostTransactionRequest}
    (h : journalCommand db command uuid5 = .ok built) :
    ∃ (account adjustment : JournalAccount) (asset : JournalAsset) (balances : Int × Nat)
      (amount : ScaledUnits),
      reconciledAccount db command = .ok account
        ∧ adjustmentAccount db command = .ok adjustment
        ∧ db.asset? command.assetCode.1 = some asset ∧ asset.status = "active"
        ∧ adjustmentBalances db command account asset.policy = .ok balances
        ∧ amount.units.1 = (balances.2 - balances.1 : Int).natAbs
        ∧ amount.scale = asset.policy.ledgerScale
        ∧ Adjusts command (decide (decide (0 < (balances.2 - balances.1 : Int))
          = account.isAsset)) adjustment.accountId amount built := by
  simp only [journalCommand, adjustmentPosting, bind_eq_ok, fetch_eq_ok, require_eq_ok,
    mapError_eq_ok, pure_eq_ok, exists_const] at h
  obtain ⟨-, account, hAccount, asset, hAsset, hActive, balances, hBalances, adjustment,
    hAdjustment, amount, hAmount, debit, ⟨-, rfl⟩, credit, ⟨-, rfl⟩, rfl⟩ := h
  obtain ⟨hUnits, hScale⟩ := ScaledUnits.make_ok.1 hAmount
  refine ⟨account, adjustment, asset, balances, amount, hAccount, hAdjustment, hAsset,
    hActive, hBalances, hUnits, hScale, rfl, rfl, _, _, rfl, ?_, ?_, rfl, rfl, rfl, rfl, rfl,
    rfl⟩
  · simp only [decide_eq_true_eq]
  · simp only [decide_eq_true_eq]

/-- The postings of an adjustment are parsed to its units, whatever the rest of the Book. -/
theorem Adjusts.read {towards : Bool} {adjustmentId : UUID} {amount : ScaledUnits}
    {built : PostTransactionRequest} {asset : JournalAsset}
    (h : Adjusts command towards adjustmentId amount built)
    (hAsset : db.asset? command.assetCode.1 = some asset) (hActive : asset.status = "active")
    (hScale : amount.scale = asset.policy.ledgerScale)
    (hUnits : 10 ^ (asset.policy.ledgerScale - asset.policy.inputScale) ∣ amount.units.1) :
    (∀ posting ∈ built.postings, asset.policy.parseOnline posting.amount = .ok amount)
      ∧ ∃ postings, (built.postings.zipIdx.mapM fun (posting, position) =>
          readPosting db posting position) = .ok postings
        ∧ postings.map (·.posted) =
          [⟨if towards then command.accountId else adjustmentId, command.assetCode, .debit,
              amount.units.1⟩,
            ⟨if towards then adjustmentId else command.accountId, command.assetCode, .credit,
              amount.units.1⟩] := by
  obtain ⟨debit, credit, hBuilt, hDebit, hCredit, hDebitSide, hCreditSide, hDebitAmount,
    hCreditAmount, hDebitAsset, hCreditAsset⟩ := h.postings
  have hCode : asset.assetCode = command.assetCode := by
    have hSame := List.find?_some hAsset
    simp only [decide_eq_true_eq] at hSame
    exact Subtype.ext hSame
  obtain ⟨hDebitParse, hDebitRead⟩ := readPosting_decoded 0
    (hDebitAsset ▸ hAsset) hActive hScale hUnits hDebitAmount
  obtain ⟨hCreditParse, hCreditRead⟩ := readPosting_decoded 1
    (hCreditAsset ▸ hAsset) hActive hScale hUnits hCreditAmount
  rw [hBuilt]
  refine ⟨?_, _, mapM_eq_ok.2 (.cons hDebitRead (.cons hCreditRead .nil)), ?_⟩
  · rintro posting (_ | ⟨_, _ | ⟨_, hNone⟩⟩)
    · exact hDebitParse
    · exact hCreditParse
    · exact absurd hNone List.not_mem_nil
  · simp [JournalPostingFact.posted, hCode, hDebit, hCredit, hDebitSide, hCreditSide]

end Read

/-! ## Balances after the postings -/

/-- What a posting adds to the balance of its account. -/
def PostedUnits.item (self : PostedUnits) : BalanceKey × Int :=
  ((self.accountId, self.assetCode), signedUnits self.side self.units)

section Balances

variable {t t' : SyncTables} {catalog : Catalog} {stored : LedgerEventRecord}

/-- A posted transaction moves each balance by its postings. -/
theorem applyJournalPosted_balance {payload : JournalTransactionPosted}
    (h : applyJournalPosted catalog stored payload t = .ok t') (key : BalanceKey) :
    t'.balanceAt key
      = t.balanceAt key + sumAt ((payload.postings.map (·.posted)).map (·.item)) key := by
  obtain ⟨t₁, hFinancial, hReferences⟩ := bind_eq_ok.1 h
  obtain ⟨hStep, -⟩ := applyFinancialTransaction_ok hFinancial
  obtain ⟨rows, rfl⟩ := addExternalReferences_ok hReferences
  have hMerge : ∀ a b : AccountBalanceRecord,
      (mergeBalance a b).balanceUnits = a.balanceUnits + b.balanceUnits := fun _ _ => rfl
  unfold SyncTables.balanceAt
  rw [show ({ t₁ with externalReferences := rows } : SyncTables).accountBalances
      = t₁.accountBalances from rfl, hStep.balances, valueAt_accumulate hMerge,
    List.map_map, List.map_map]
  rfl

/-- An amount between two accounts: the one that is debited gains it. -/
theorem sumAt_moves {assetCode : AssetCode} {units : Nat} {debit credit : UUID}
    (h : debit ≠ credit) :
    sumAt ([⟨debit, assetCode, .debit, units⟩,
        ⟨credit, assetCode, .credit, units⟩].map PostedUnits.item) (debit, assetCode) = units
      ∧ sumAt ([⟨debit, assetCode, .debit, units⟩,
        ⟨credit, assetCode, .credit, units⟩].map PostedUnits.item) (credit, assetCode)
        = -units := by
  simp [sumAt, PostedUnits.item, signedUnits, h, h.symm]

end Balances

/-! ## The stated balance is reached -/

section Reached

variable {db : JournalReads} {command : RecordAdjustmentCommand}
  {uuid5 : UUID → String → UUID}

theorem buildPostedPayload_postings {built : PostTransactionRequest} {allow : Bool}
    {payload : JournalTransactionPosted} {postings : List JournalPostingFact}
    (hRead : (built.postings.zipIdx.mapM fun (posting, position) =>
      readPosting db posting position) = .ok postings)
    (h : buildPostedPayload db built allow = .ok payload) : payload.postings = postings := by
  simp only [buildPostedPayload, bind_eq_ok, pure_eq_ok] at h
  obtain ⟨-, -, -, -, read, hSame, -, -, -, -, rfl⟩ := h
  rw [hRead, Except.ok.injEq] at hSame
  exact hSame.symm

/-- What reconciling an account does: every amount that is built is parsed, to the units of
the difference, and the postings bring the account to the stated balance. -/
structure Reconciles (db : JournalReads) (command : RecordAdjustmentCommand)
    (built : PostTransactionRequest) (account : JournalAccount) (asset : JournalAsset)
    (actual : Nat) : Prop where
  found : db.account? command.accountId = some account
  policy : db.asset? command.assetCode.1 = some asset
  stated : (actual : ℚ) = decimalValue command.actualBalance * 10 ^ asset.policy.ledgerScale
  parses : ∀ posting ∈ built.postings, ∃ amount,
    asset.policy.parseOnline posting.amount = .ok amount
      ∧ (amount.units.1 : Int) = |(actual : Int) - account.natural
        (db.tables.balanceAt (command.accountId, command.assetCode))|
  reads : ∃ postings, (built.postings.zipIdx.mapM fun (posting, position) =>
    readPosting db posting position) = .ok postings
  reaches : ∀ (payload : JournalTransactionPosted) (catalog : Catalog)
    (stored : LedgerEventRecord) (t' : SyncTables),
    buildPostedPayload db built true = .ok payload →
      applyJournalPosted catalog stored payload db.tables = .ok t' →
        account.natural (t'.balanceAt (command.accountId, command.assetCode)) = actual

/-- A command that is built reconciles its account. -/
theorem reconciles_of_journalCommand {built : PostTransactionRequest}
    (h : journalCommand db command uuid5 = .ok built) :
    ∃ account asset actual, Reconciles db command built account asset actual := by
  obtain ⟨account, adjustment, asset, balances, amount, hAccount, hAdjustment, hAsset,
    hActive, hBalances, hUnits, hScale, hAdjusts⟩ := journalCommand_ok h
  obtain ⟨hCurrent, ⟨expected, hExpected, hExpectedDvd, -⟩, hValue, hActualDvd, -⟩ :=
    adjustmentBalances_ok hBalances
  -- both balances are multiples of what the input can state, so their difference is one
  have hDvd : 10 ^ (asset.policy.ledgerScale - asset.policy.inputScale) ∣ amount.units.1 := by
    rw [hUnits, hExpected]
    exact Int.natCast_dvd.1 (dvd_sub (Int.natCast_dvd_natCast.2 hActualDvd)
      (Int.natCast_dvd_natCast.2 hExpectedDvd))
  obtain ⟨hParses, postings, hRead, hPosted⟩ := hAdjusts.read hAsset hActive hScale hDvd
  refine ⟨account, asset, balances.2, (reconciledAccount_ok hAccount).1, hAsset, hValue,
    fun posting hPosting => ⟨amount, hParses posting hPosting, ?_⟩, ⟨postings, hRead⟩, ?_⟩
  · rw [hUnits, Int.natCast_natAbs, hCurrent]
  · intro payload catalog stored t' hPayload hApply
    have hBalance := applyJournalPosted_balance hApply
      (command.accountId, command.assetCode)
    rw [buildPostedPayload_postings hRead hPayload, hPosted] at hBalance
    have hNe := adjustmentAccount_ok hAccount hAdjustment
    -- the direction of the leg and the sign of the natural balance cancel
    by_cases hTowards : decide (0 < (balances.2 - balances.1 : Int)) = account.isAsset
    · rw [decide_eq_true hTowards, if_pos rfl, if_pos rfl, (sumAt_moves hNe.symm).1,
        hUnits] at hBalance
      rw [hBalance]
      unfold JournalAccount.natural at hCurrent ⊢
      cases hIs : account.isAsset with
      | true =>
          simp only [hIs, decide_eq_true_eq, if_true] at hTowards hCurrent ⊢
          omega
      | false =>
          simp only [hIs, decide_eq_false_iff_not, Bool.false_eq_true, if_false]
            at hTowards hCurrent ⊢
          omega
    · rw [decide_eq_false hTowards, if_neg Bool.false_ne_true, if_neg Bool.false_ne_true,
        (sumAt_moves hNe).2, hUnits] at hBalance
      rw [hBalance]
      unfold JournalAccount.natural at hCurrent ⊢
      cases hIs : account.isAsset with
      | true =>
          simp only [hIs, decide_eq_true_eq, if_true] at hTowards hCurrent ⊢
          omega
      | false =>
          simp only [hIs, decide_eq_false_iff_not, Bool.false_eq_true, if_false]
            at hTowards hCurrent ⊢
          omega

end Reached

/-! ## The everyday adjustment -/

section Everyday

variable {u : UnicodeTables} {uuid5 : UUID → String → UUID}
  {context : EntryCompilationContext} {entry : AdjustmentEntryInput} {t : SyncTables}

/-- The balance of an adjustment, as `load_compilation_context` reads it. -/
def loadCurrentBalance (u : UnicodeTables) (accounts : List EntryAccount) (bookId : UUID)
    (entry : AdjustmentEntryInput) (t : SyncTables) : Except EntryError (Option Int) := do
  let assetCode := entry.actualBalance.1.assetCode
  let resolution ← resolveAccount u entry.account accounts bookId assetCode .adjusted []
  match resolution with
  | .resolved account => return some (t.balanceAt (account.accountId, assetCode))
  | .choices _ => return none

/-- Leaving out the check against categories does not change what is resolved. -/
theorem resolveAccount_nil {reference : AccountRef} {accounts : List EntryAccount}
    {bookId : UUID} {assetCode : AssetCode} {use : AccountUse} {categoryIds : List UUID}
    {resolution : Resolution EntryAccount}
    (h : resolveAccount u reference accounts bookId assetCode use categoryIds
      = .ok resolution) :
    resolveAccount u reference accounts bookId assetCode use [] = .ok resolution := by
  unfold resolveAccount at h ⊢
  split at h
  · simp only [bind_eq_ok, require_eq_ok, fetch_eq_ok, pure_eq_ok, exists_const] at h ⊢
    exact ⟨List.not_mem_nil, h.2⟩
  · exact h

theorem resolveAccount_of_account {assetCode : AssetCode} {use : AccountUse}
    {reference : AccountRef} {field : String} {account : EntryAccount}
    (h : context.account u reference assetCode use field = .ok account) :
    resolveAccount u reference context.accounts context.bookId assetCode use []
      = .ok (.resolved account) := by
  unfold EntryCompilationContext.account at h
  obtain ⟨resolution, hResolution, h⟩ := bind_eq_ok.1 h
  cases resolution with
  | choices choices => exact nomatch h
  | resolved found =>
      rw [← pure_eq_ok.1 h]
      exact resolveAccount_nil hResolution

/-- What an everyday adjustment does: its one event brings the named account to the stated
balance. -/
structure EverydayReaches (u : UnicodeTables) (context : EntryCompilationContext)
    (entry : AdjustmentEntryInput) (t : SyncTables) (account : EntryAccount)
    (asset : EntryAsset) (actual : Nat) (posted : JournalTransactionPosted)
    (plan : CompiledEntry) : Prop where
  named : context.account u entry.account asset.assetCode .adjusted "account" = .ok account
  policy : context.asset asset.assetCode = .ok asset
  stated : ∃ scales, denominationScales asset entry.actualBalance.1.denomination = .ok scales
    ∧ (actual : ℚ) = decimalValue entry.actualBalance.1.value * 10 ^ scales.1
  events : plan.events.map (·.payload.1) = [.journalTransactionPosted posted]
  reaches : ∀ (catalog : Catalog) (stored : LedgerEventRecord) (t' : SyncTables),
    applyJournalPosted catalog stored posted t = .ok t' →
      t'.balanceAt (account.accountId, asset.assetCode) = actual

theorem everydayReaches_of_compileEntry {plan : CompiledEntry}
    (hLoaded : loadCurrentBalance u context.accounts context.bookId entry t
      = .ok context.currentBalanceUnits)
    (h : compileEntry u uuid5 context (.adjustment entry) = .ok plan) :
    ∃ account asset actual posted,
      EverydayReaches u context entry t account asset actual posted plan := by
  obtain ⟨financial, allocations, assetCode, lineKind, -, hShape, hKind⟩ :=
    compileEntry_plans h
  cases hKind with
  | @adjustment _ asset actual account clearing current _ hPolicy hActual hNamed hAccount
      hClearing hCurrent hMore hLess hDifferent hDistinct hPosted =>
      obtain ⟨posted, rfl, -, -, -⟩ := hPosted
      obtain ⟨event, rest, hEvents, hPayload, hReports⟩ := hShape.events
      have hCode : entry.actualBalance.1.assetCode = asset.assetCode :=
        (normalizeAmount_ok.1 hActual).1
      -- the balance that was loaded is that of the account that was resolved
      have hBalance : t.balanceAt (account.accountId, asset.assetCode) = current := by
        simp only [loadCurrentBalance, bind_eq_ok, hCode, resolveAccount_of_account hNamed,
          Except.ok.injEq, exists_eq_left', pure_eq_ok, hCurrent, Option.some.injEq]
          at hLoaded
        exact hLoaded
      refine ⟨account, asset, actual.units, posted, hNamed, hPolicy,
        normalizeAmount_value hActual, ?_, ?_⟩
      · cases rest with
        | nil =>
            rw [hEvents, List.map_cons, List.map_nil, hPayload]
            rfl
        | cons reporting others =>
            cases others with
            | nil => exact absurd rfl hReports.1
            | cons _ _ => exact hReports.elim
      · intro catalog stored t' hApply
        rw [applyJournalPosted_balance hApply, hBalance]
        rcases lt_or_gt_of_ne hDifferent with hBelow | hAbove
        · rw [show posted.postings.map (·.posted) = _ from hLess hBelow,
            (sumAt_moves hDistinct.symm).2]
          omega
        · rw [show posted.postings.map (·.posted) = _ from hMore hAbove,
            (sumAt_moves hDistinct).1]
          omega

end Everyday

/-- Whichever way a balance is adjusted, the text of the difference is read back to its units
and the postings bring the account to the balance that was stated. -/
theorem adjustments_reach_stated_balance (u : UnicodeTables) (uuid5 : UUID → String → UUID) :
    (∀ (db : JournalReads) (command : RecordAdjustmentCommand) (built : PostTransactionRequest),
      journalCommand db command uuid5 = .ok built →
        ∃ account asset actual, Reconciles db command built account asset actual)
      ∧ ∀ (context : EntryCompilationContext) (entry : AdjustmentEntryInput) (t : SyncTables)
        (plan : CompiledEntry),
        loadCurrentBalance u context.accounts context.bookId entry t
            = .ok context.currentBalanceUnits →
          compileEntry u uuid5 context (.adjustment entry) = .ok plan →
            ∃ account asset actual posted,
              EverydayReaches u context entry t account asset actual posted plan :=
  ⟨fun _ _ _ h => reconciles_of_journalCommand h,
    fun _ _ _ _ hLoaded h => everydayReaches_of_compileEntry hLoaded h⟩

/-! ### A sample adjustment -/

/-- An account of the sample Book, without a role. -/
def sampleJournalAccount (accountId : UUID) (accountType : AccountType)
    (accountSubtype : Option String) : JournalAccount where
  accountId := accountId
  assetCode := sampleAsset
  accountType := accountType
  accountSubtype := accountSubtype
  systemRole := none
  status := "active"

theorem sampleJournalAccounts_nodup :
    ([sampleJournalAccount 2 .liability (some "credit_card"),
      sampleJournalAccount 9 .system (some "system_adjustment")].map (·.accountId)).Nodup := by
  decide

/-- A card without postings, and the adjustment account of its asset. -/
def sampleJournalReads : JournalReads where
  bookId := 1
  accounts := [sampleJournalAccount 2 .liability (some "credit_card"),
    sampleJournalAccount 9 .system (some "system_adjustment")]
  assets := [⟨sampleAsset, "active", sampleCurrency.policy⟩]
  tables := SyncTables.empty
  hAccounts := sampleJournalAccounts_nodup

theorem plainDecimal_zero : plainDecimal "0" = true := by
  decide

theorem plainDecimal_twelve : plainDecimal "12.50" = true := by
  decide

/-- 12.50 turn out to be owed on the card. -/
def sampleAdjustment : RecordAdjustmentCommand where
  bookId := 1
  commandId := 100
  transactionId := 101
  accountId := 2
  assetCode := sampleAsset
  expectedBalance := "0"
  actualBalance := "12.50"
  effectiveAt := ⟨sampleDate, 0⟩
  hExpected := plainDecimal_zero
  hActual := plainDecimal_twelve

/-- The sample Book of entries, its wallet empty. -/
def sampleEmptyContext : EntryCompilationContext :=
  { sampleEntryContext with currentBalanceUnits := some 0 }

theorem sampleUnits_validatesBalance :
    AmountFields.validateBalance sampleUnits = .ok sampleUnits := by
  decide

/-- 12.50 turn out to be in the wallet. -/
def sampleBalanceEntry : AdjustmentEntryInput where
  occurredAt := ⟨⟨sampleDate, 0⟩, 0⟩
  narrative := none
  account := .ofId 3
  actualBalance := ⟨sampleUnits, sampleUnits, sampleUnits_validatesBalance⟩

theorem sampleBalance_loaded :
    loadCurrentBalance sampleUnicode sampleEmptyContext.accounts sampleEmptyContext.bookId
      sampleBalanceEntry SyncTables.empty = .ok sampleEmptyContext.currentBalanceUnits := by
  decide

theorem adjustments_reach_stated_balance_sample :
    (∃ built, journalCommand sampleJournalReads sampleAdjustment sampleEntryUuid5 = .ok built
        ∧ ∃ account asset actual,
          Reconciles sampleJournalReads sampleAdjustment built account asset actual)
      ∧ ∃ plan, compileEntry sampleUnicode sampleEntryUuid5 sampleEmptyContext
            (.adjustment sampleBalanceEntry) = .ok plan
        ∧ ∃ account asset actual posted, EverydayReaches sampleUnicode sampleEmptyContext
          sampleBalanceEntry SyncTables.empty account asset actual posted plan := by
  have hBuilt : (journalCommand sampleJournalReads sampleAdjustment
      sampleEntryUuid5).toOption.any (fun built => built.postings.map (·.amount) = ["12.5", "12.5"])
      = true := by
    decide +kernel
  have hPlan : (compileEntry sampleUnicode sampleEntryUuid5 sampleEmptyContext
      (.adjustment sampleBalanceEntry)).toOption.any (fun plan => plan.events.length = 1)
      = true := by
    decide +kernel
  obtain ⟨built, hBuilt, -⟩ := exists_ok_of_any hBuilt
  obtain ⟨plan, hPlan, -⟩ := exists_ok_of_any hPlan
  exact ⟨⟨built, hBuilt,
      (adjustments_reach_stated_balance sampleUnicode sampleEntryUuid5).1 _ _ _ hBuilt⟩,
    plan, hPlan, (adjustments_reach_stated_balance sampleUnicode sampleEntryUuid5).2 _ _ _ _
      sampleBalance_loaded hPlan⟩

end TrackAnywhere.Ports
