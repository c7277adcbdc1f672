import TrackAnywhere.Ports.JournalHistory

/-!
# Account balances against the postings

`account_balances` is maintained one upsert per posting, while
`_load_reference_balances` sums the posting rows joined with their transactions
up to a position.  Both are compared with one thing, the signed postings of the
events: the balances are their keyed sums, and the reference at a position is
the keyed sums of the events up to that position.
-/

namespace TrackAnywhere.Ports

open TrackAnywhere.Verified
open TrackAnywhere.Verified.Checked
open TrackAnywhere.Verified.KeyedSum

/-- `_load_reference_balances`: postings joined with transactions up to the
position, grouped by account and asset. -/
def loadReferenceBalances (t : SyncTables) (asOfBookPosition : Nat) :
    Dict BalanceKey Int :=
  groupSum <| t.journalPostings.flatMap fun p =>
    (t.journalTransactions.filter fun r =>
      r.transactionId = p.transactionId
        ∧ r.sourcePosition ≤ asOfBookPosition).map fun _ =>
      ((p.accountId, p.assetCode), signedUnits p.side p.units)

/-! ## Signed postings of the events -/

/-- The signed postings of one event. -/
def LedgerEventRecord.signedPostings (stored : LedgerEventRecord) :
    List (BalanceKey × Int) :=
  match stored.financialFact? with
  | some fact => fact.2.map fun p =>
      ((p.accountId, p.assetCode), signedUnits p.side p.units.1)
  | none => []

/-- The signed postings of a history, in order. -/
def signedPostings (events : List LedgerEventRecord) :
    List (BalanceKey × Int) :=
  events.flatMap (·.signedPostings)

/-- The balance upserts of a history, reduced to their amounts, are its signed
postings. -/
theorem balanceInserts_units (events : List LedgerEventRecord) :
    (events.flatMap (·.balanceInserts)).map
        (fun e => (e.1, e.2.balanceUnits)) = signedPostings events := by
  unfold signedPostings
  rw [List.map_flatMap]
  congr 1
  funext e
  unfold LedgerEventRecord.balanceInserts LedgerEventRecord.signedPostings
  cases e.financialFact? <;> simp [JournalPostingFact.balanceInsert]

private theorem mergeBalance_units (a b : AccountBalanceRecord) :
    (mergeBalance a b).balanceUnits = a.balanceUnits + b.balanceUnits := rfl

section History

variable {events : List LedgerEventRecord} {t : SyncTables}
  (h : JournalHistory events t)
include h

/-- A balance row exists exactly for the keys the events posted to. -/
theorem mem_accountBalances (key : BalanceKey) :
    key ∈ t.accountBalances ↔ key ∈ (signedPostings events).map Prod.fst := by
  rw [h.balances, mem_accumulate, ← balanceInserts_units, List.map_map]
  simp [Function.comp_def]

/-- The balance of a key is the sum of the signed postings of the events. -/
theorem valueAt_accountBalances (key : BalanceKey) :
    valueAt (·.balanceUnits) t.accountBalances key
      = sumAt (signedPostings events) key := by
  rw [h.balances, valueAt_accumulate mergeBalance_units, balanceInserts_units]
  simp

/-- The balance row of a key. -/
theorem accountBalance_eq (key : BalanceKey) :
    (t.accountBalances.lookup key).map (·.balanceUnits)
      = if key ∈ (signedPostings events).map Prod.fst then
          some (sumAt (signedPostings events) key)
        else none := by
  have hMem := mem_accountBalances h key
  have hValue := valueAt_accountBalances h key
  cases hRow : t.accountBalances.lookup key with
  | none =>
      rw [if_neg (fun hKey => AList.lookup_eq_none.1 hRow (hMem.2 hKey))]
      rfl
  | some row =>
      rw [if_pos (hMem.1 (AList.lookup_isSome.1 (by simp [hRow]))), ← hValue]
      simp [valueAt, hRow]

end History

/-! ## Balanced events -/

/-- Net signed units of the postings in one asset. -/
def netUnits (asset : AssetCode) (postings : List JournalPostingFact) : Int :=
  ((postings.filter fun p => p.assetCode = asset).map
    fun p => signedUnits p.side p.units.1).sum

/-- The postings cancel in every asset. -/
def Balanced (postings : List JournalPostingFact) : Prop :=
  ∀ asset, netUnits asset postings = 0

theorem netUnits_cons (asset : AssetCode) (p : JournalPostingFact)
    (postings : List JournalPostingFact) :
    netUnits asset (p :: postings)
      = (if p.assetCode = asset then signedUnits p.side p.units.1 else 0)
        + netUnits asset postings := by
  unfold netUnits
  by_cases h : p.assetCode = asset <;> simp [h]

theorem signedUnits_opposite (side : PostingSide) (units : Nat) :
    signedUnits side.opposite units = -signedUnits side units := by
  cases side <;> simp [signedUnits, PostingSide.opposite]

/-- A card transaction debits and credits one equal amount of one asset. -/
theorem balanced_of_validateSemanticPostings
    {payload : CreditCardTransactionRecorded}
    (h : payload.validateSemanticPostings = .ok ()) :
    Balanced payload.postings := by
  simp only [CreditCardTransactionRecorded.validateSemanticPostings,
    bind_eq_ok, require_eq_ok, exists_const] at h
  obtain ⟨-, -, hLength, -, h⟩ := h
  have hAmount : ∀ p ∈ payload.postings,
      payload.postings.head?.map (fun q => (q.assetCode, q.units))
        = some (p.assetCode, p.units) := by
    split at h <;> simp_all
  have hSides : payload.postings.map (fun p => (p.accountId, p.side))
      = payload.expected := by
    split at h <;> simp_all
  obtain ⟨first, second, hPostings⟩ := List.length_eq_two.1 hLength
  rw [hPostings] at hAmount hSides ⊢
  have hSecond := hAmount second (by simp)
  simp only [List.head?_cons, Option.map_some, Option.some.injEq,
    Prod.mk.injEq] at hSecond
  have hDebitCredit : first.side = .debit ∧ second.side = .credit := by
    unfold CreditCardTransactionRecorded.expected at hSides
    split at hSides <;> simp_all
  intro asset
  rw [netUnits_cons, netUnits_cons, hSecond.1, hSecond.2, hDebitCredit.1,
    hDebitCredit.2]
  by_cases hAsset : second.assetCode = asset <;>
    simp [hAsset, signedUnits, netUnits]

/-- The exact inverse of balanced postings is balanced. -/
theorem balanced_of_validateExactInverse
    {original inverse : List JournalPostingFact}
    (h : validateExactInverse original inverse = .ok ())
    (hOriginal : Balanced original) : Balanced inverse := by
  simp only [validateExactInverse, bind_eq_ok, require_eq_ok, forEach_eq_ok,
    exists_const] at h
  obtain ⟨hLength, -, hPairs⟩ := h
  have hForall : List.Forall₂ inverts original inverse :=
    List.forall₂_iff_zip.2 ⟨hLength, fun hMem => hPairs _ hMem⟩
  intro asset
  have hNeg : netUnits asset inverse = -netUnits asset original := by
    clear hOriginal hPairs hLength
    induction hForall with
    | nil => rfl
    | cons hHead _ ih =>
        obtain ⟨-, -, hAsset, hUnits, hSide⟩ := hHead
        rw [netUnits_cons, netUnits_cons, ih, hAsset, hUnits, hSide,
          signedUnits_opposite]
        split <;> omega
  rw [hNeg, hOriginal asset, neg_zero]

/-- The postings of an event cancel in every asset. -/
def EventBalanced (stored : LedgerEventRecord) : Prop :=
  ∀ fact ∈ stored.financialFact?, Balanced fact.2

/-- The postings of a posted transaction cancel in every asset. -/
def PostedBalanced (stored : LedgerEventRecord) : Prop :=
  ∀ payload, stored.payload = .registered (.journalTransactionPosted payload) →
    Balanced payload.postings

/-- In a run whose posted transactions balance, every event does.  The
induction carries the balance of the earlier events to a reversal of one of
them. -/
theorem eventBalanced_of_run {ledger events : List LedgerEventRecord}
    {bookId : UUID} {t : SyncTables} (hKeys : LedgerKeys ledger)
    (hDistinct : (events.map (·.eventId)).Nodup)
    (hPosted : ∀ e ∈ events, PostedBalanced e)
    (hRun : Run (Projects ledger bookId) SyncTables.empty events t) :
    ∀ e ∈ events, EventBalanced e := by
  refine Run.traceInvariant
    (I := fun done _ => (done.map (·.eventId)).Nodup →
      (∀ e ∈ done, PostedBalanced e) → ∀ e ∈ done, EventBalanced e)
    (fun _ _ => by simp) ?_ hRun hDistinct hPosted
  intro done t₁ stored t₂ hDone hI hStep hNodup hPosted e he
  rw [List.map_append, List.nodup_append] at hNodup
  have hEarlier := hI hNodup.1 fun e he =>
    hPosted e (List.mem_append_left _ he)
  obtain he | he := List.mem_append.1 he
  · exact hEarlier e he
  obtain rfl := List.mem_singleton.1 he
  have hHistory := journalHistory_run hNodup.1 hDone
  intro fact hFact
  obtain ⟨contract, hContract, hFact⟩ := Option.bind_eq_some_iff.1 hFact
  obtain ⟨-, -, catalog, result, hApply⟩ := hStep
  obtain ⟨-, -, hSkip⟩ | ⟨contract', hContract', -, hPayload⟩ :=
    applyStored_cases hApply
  · obtain hVersion | hMarked := hSkip
    · rw [LedgerEventRecord.contract?_eq_none hVersion] at hContract
      exact nomatch hContract
    · obtain ⟨e', he', hId, -⟩ := (hHistory.applied _).1 hMarked
      exact absurd rfl (hNodup.2.2 _ (List.mem_map.2 ⟨e', he', hId⟩) _
        (List.mem_singleton.2 rfl))
  obtain rfl : contract = contract' := Option.some.inj <|
    hContract.symm.trans (LedgerEventRecord.contract?_eq_some.2 hContract')
  obtain ⟨payload, hValid⟩ := contract
  cases payload with
  | creditCardTransactionRecorded p =>
      obtain rfl := Option.some.inj hFact
      exact balanced_of_validateSemanticPostings hValid
  | journalTransactionPosted p =>
      obtain rfl := Option.some.inj hFact
      exact hPosted e (by simp) p (validateStored_eq_ok.1 hContract').1
  | journalTransactionReversed p =>
      obtain rfl := Option.some.inj hFact
      obtain ⟨target, source, contract₁, original, t₃, hTarget, hSource, -,
        hLookup, -, hContract₁, hOriginal, -, hInverse, -⟩ :=
        applyJournalReversed_ok hPayload
      have hId : source.eventId = p.originalEventId := by
        simpa using List.find?_some hLookup
      have hMem : source ∈ done := source_mem_of_run hKeys hDone hHistory
        (List.mem_of_find?_eq_some hTarget) (List.mem_of_find?_eq_some hLookup)
        (hId.trans hSource.symm)
      refine balanced_of_validateExactInverse hInverse
        (hEarlier source hMem original ?_)
      exact Option.bind_eq_some_iff.2
        ⟨contract₁, LedgerEventRecord.contract?_eq_some.2 hContract₁,
          hOriginal⟩
  | financialExternalReferenceCorrected p => exact nomatch hFact
  | reportingLinesAssigned p => exact nomatch hFact
  | reportingLinesCleared p => exact nomatch hFact
  | investmentLotAcquired p => exact nomatch hFact
  | investmentLotDisposed p => exact nomatch hFact

/-- The upserts of balanced events cancel in every asset. -/
private theorem sum_balanceInserts {events : List LedgerEventRecord}
    (hBalanced : ∀ e ∈ events, EventBalanced e) (asset : AssetCode) :
    (((events.flatMap (·.balanceInserts)).filter fun i => i.1.2 = asset).map
      fun i => i.2.balanceUnits).sum = 0 := by
  induction events with
  | nil => rfl
  | cons e events ih =>
      have hHead : ((e.balanceInserts.filter fun i => i.1.2 = asset).map
          fun i => i.2.balanceUnits).sum = 0 := by
        have hEvent := hBalanced e List.mem_cons_self
        unfold LedgerEventRecord.balanceInserts
        cases hFact : e.financialFact? with
        | none => rfl
        | some fact =>
            simpa [List.filter_map, Function.comp_def, netUnits,
              JournalPostingFact.balanceInsert] using hEvent fact hFact asset
      rw [List.flatMap_cons, List.filter_append, List.map_append,
        List.sum_append, hHead, zero_add]
      exact ih fun e he => hBalanced e (List.mem_cons_of_mem _ he)

/-- Balanced events leave the balances of each asset at a total of zero. -/
theorem totalOn_accountBalances {events : List LedgerEventRecord}
    {t : SyncTables} (h : JournalHistory events t)
    (hBalanced : ∀ e ∈ events, EventBalanced e) (asset : AssetCode) :
    totalOn (·.balanceUnits) (fun key => key.2 = asset) t.accountBalances
      = 0 := by
  rw [h.balances, totalOn_accumulate mergeBalance_units, totalOn_empty,
    zero_add]
  exact sum_balanceInserts hBalanced asset

/-! ## The reference query -/

/-- A transaction row joined by its id, restricted to positions up to `P`. -/
private theorem joined_transactions {rows : List JournalTransactionRecord}
    (hNodup : (rows.map (·.transactionId)).Nodup)
    {row : JournalTransactionRecord} (hRow : row ∈ rows) (P : Nat) :
    (rows.filter fun r => r.transactionId = row.transactionId
        ∧ r.sourcePosition ≤ P)
      = if row.sourcePosition ≤ P then [row] else [] := by
  induction rows with
  | nil => exact absurd hRow List.not_mem_nil
  | cons r rows ih =>
      rw [List.map_cons, List.nodup_cons] at hNodup
      obtain rfl | hRow := List.mem_cons.1 hRow
      · have hRest : (rows.filter fun r => r.transactionId = row.transactionId
            ∧ r.sourcePosition ≤ P) = [] := by
          rw [List.filter_eq_nil_iff]
          intro r hr hMatch
          rw [decide_eq_true_eq] at hMatch
          exact hNodup.1 (List.mem_map.2 ⟨r, hr, hMatch.1⟩)
        rw [List.filter_cons, hRest]
        simp
      · have hNe : r.transactionId ≠ row.transactionId := by
          intro hEq
          exact hNodup.1 (List.mem_map.2 ⟨row, hRow, hEq.symm⟩)
        rw [List.filter_cons, if_neg (by simp [hNe]), ih hNodup.2 hRow]

/-- The rows the reference query groups at position `P` are the signed
postings of the events up to `P`. -/
theorem referenceRows_eq {events : List LedgerEventRecord} {t : SyncTables}
    (h : JournalHistory events t) (P : Nat) :
    (t.journalPostings.flatMap fun p =>
      (t.journalTransactions.filter fun r =>
        r.transactionId = p.transactionId ∧ r.sourcePosition ≤ P).map fun _ =>
      ((p.accountId, p.assetCode), signedUnits p.side p.units))
      = signedPostings (events.filter fun e => e.bookPosition ≤ P) := by
  have hEvent : ∀ e ∈ events, (e.postingRecords.flatMap fun p =>
      (t.journalTransactions.filter fun r =>
        r.transactionId = p.transactionId ∧ r.sourcePosition ≤ P).map fun _ =>
      ((p.accountId, p.assetCode), signedUnits p.side p.units))
      = if e.bookPosition ≤ P then e.signedPostings else [] := by
    intro e he
    unfold LedgerEventRecord.postingRecords LedgerEventRecord.signedPostings
    cases hFact : e.financialFact? with
    | none => simp
    | some fact =>
        obtain ⟨row, hRow, hKey⟩ := h.transaction_of_source
          ⟨e, he, Option.map_eq_some_iff.2 ⟨fact, hFact, rfl⟩⟩
        have hId : fact.1 = row.transactionId :=
          (congrArg TransactionKey.transactionId hKey).symm
        have hPosition : row.sourcePosition = e.bookPosition :=
          congrArg TransactionKey.sourcePosition hKey
        simp only [List.flatMap_map, JournalPostingFact.record, hId,
          joined_transactions h.transactionIds hRow, hPosition]
        by_cases hP : e.bookPosition ≤ P
        · simp only [hP, if_true, List.map_cons, List.map_nil]
          exact List.map_eq_flatMap.symm
        · simp [hP]
  rw [h.postings, List.flatMap_assoc, List.flatMap_congr hEvent]
  unfold signedPostings
  clear h hEvent
  induction events with
  | nil => rfl
  | cons e events ih =>
      rw [List.flatMap_cons, ih]
      by_cases hP : e.bookPosition ≤ P <;> simp [hP]

/-- The reference balance of a key at position `P`. -/
theorem lookup_loadReferenceBalances {events : List LedgerEventRecord}
    {t : SyncTables} (h : JournalHistory events t) (P : Nat)
    (key : BalanceKey) :
    (loadReferenceBalances t P).lookup key
      = if key ∈ (signedPostings
            (events.filter fun e => e.bookPosition ≤ P)).map Prod.fst then
          some (sumAt (signedPostings
            (events.filter fun e => e.bookPosition ≤ P)) key)
        else none := by
  unfold loadReferenceBalances
  rw [referenceRows_eq h P, lookup_groupSum]
  congr

/-- Events at increasing positions split at any position. -/
private theorem filter_append_of_pairwise {events : List LedgerEventRecord}
    (hOrder : events.Pairwise fun a b => a.bookPosition < b.bookPosition)
    (P : Nat) :
    ∃ rest, events = (events.filter fun e => e.bookPosition ≤ P) ++ rest := by
  induction events with
  | nil => exact ⟨[], rfl⟩
  | cons e events ih =>
      rw [List.pairwise_cons] at hOrder
      by_cases hP : e.bookPosition ≤ P
      · obtain ⟨rest, hRest⟩ := ih hOrder.2
        refine ⟨rest, ?_⟩
        rw [List.filter_cons, if_pos (by simpa using hP), List.cons_append,
          ← hRest]
      · refine ⟨e :: events, ?_⟩
        have hNone : ((e :: events).filter fun e => e.bookPosition ≤ P)
            = [] := by
          rw [List.filter_eq_nil_iff]
          intro a ha hLe
          rw [decide_eq_true_eq] at hLe
          obtain rfl | ha := List.mem_cons.1 ha
          · exact hP hLe
          · have := hOrder.1 a ha
            omega
        rw [hNone, List.nil_append]

/-! ## Reapplying an event -/

/-- An accepted event of a required type has a valid payload. -/
private theorem contract_of_accepted {catalog : Catalog}
    {ledger : List LedgerEventRecord} {stored : LedgerEventRecord}
    {t : SyncTables} {accepted : ProjectionApplyResult × SyncTables}
    (h : applyStored catalog ledger stored t = .ok accepted)
    (hRequired : requiredProjectionVersion stored.eventType
      stored.eventSchemaVersion ≠ none) : stored.contract?.isSome := by
  unfold applyStored at h
  split at h
  · rename_i hVersion
    exact absurd hVersion hRequired
  · simp only [bind_eq_ok, mapError_eq_ok] at h
    obtain ⟨contract, hContract, -⟩ := h
    simp [LedgerEventRecord.contract?_eq_some.2 hContract]

/-- An event of the run is accepted again, under any catalog, and changes
nothing. -/
theorem applyStored_again {ledger events : List LedgerEventRecord}
    {bookId : UUID} {t : SyncTables} {stored : LedgerEventRecord}
    (hDistinct : (events.map (·.eventId)).Nodup)
    (hRun : Run (Projects ledger bookId) SyncTables.empty events t)
    (hMem : stored ∈ events) (catalog : Catalog) :
    ∃ result, applyStored catalog ledger stored t = .ok (result, t)
      ∧ result.applied = false := by
  have hHistory := journalHistory_run hDistinct hRun
  have hAccepted : ∃ catalog₁ t₁ accepted,
      applyStored catalog₁ ledger stored t₁ = .ok accepted := by
    obtain ⟨before, after, rfl⟩ := List.append_of_mem hMem
    obtain ⟨t₁, -, hRest⟩ := hRun.split
    obtain ⟨t₂, hStep, -⟩ := Run.cons_iff.1 hRest
    obtain ⟨-, -, catalog₁, result, hApply⟩ := hStep
    exact ⟨catalog₁, t₁, _, hApply⟩
  obtain ⟨catalog₁, t₁, accepted, hAccepted⟩ := hAccepted
  unfold applyStored
  cases hVersion : requiredProjectionVersion stored.eventType
    stored.eventSchemaVersion with
  | none => exact ⟨_, rfl, rfl⟩
  | some version =>
      have hSome := contract_of_accepted hAccepted (by simp [hVersion])
      obtain ⟨contract, hContract⟩ := Option.isSome_iff_exists.1 hSome
      have hMarked : stored.eventId ∈ t.appliedEvents.map (·.eventId) :=
        (hHistory.applied _).2 ⟨stored, hMem, rfl, hSome⟩
      rw [LedgerEventRecord.contract?_eq_some] at hContract
      simp only [hContract, if_pos hMarked]
      exact ⟨_, rfl, rfl⟩

/-! ## Balances over whole runs -/

/-- The units column of a balance row. -/
def balanceUnits (t : SyncTables) (key : BalanceKey) : Option Int :=
  (t.accountBalances.lookup key).map (·.balanceUnits)

/-- A run over events of one Book in the order of their positions, whose
posted transactions balance: each balance row is the sum of the signed
postings of its key, the balances of an asset total zero, the reference query
at the head gives the balances and at any position the balances of the prefix
up to it, and an event whose position is applied changes nothing when applied
again. -/
theorem accountBalances_agree_over_run
    {ledger events : List LedgerEventRecord} {bookId : UUID} {t : SyncTables}
    (hKeys : LedgerKeys ledger)
    (hOrder : events.Pairwise fun a b => a.bookPosition < b.bookPosition)
    (hPosted : ∀ e ∈ events, PostedBalanced e)
    (hRun : Run (Projects ledger bookId) SyncTables.empty events t) :
    (∀ key, balanceUnits t key
      = if key ∈ (signedPostings events).map Prod.fst then
          some (sumAt (signedPostings events) key)
        else none)
    ∧ (∀ asset, totalOn (·.balanceUnits) (fun key => key.2 = asset)
        t.accountBalances = 0)
    ∧ (∀ head, (∀ e ∈ events, e.bookPosition ≤ head) → ∀ key,
        (loadReferenceBalances t head).lookup key = balanceUnits t key)
    ∧ (∀ asOf, ∃ tAsOf,
        Run (Projects ledger bookId) SyncTables.empty
          (events.filter fun e => e.bookPosition ≤ asOf) tAsOf
        ∧ ∀ key, (loadReferenceBalances t asOf).lookup key
            = balanceUnits tAsOf key)
    ∧ (∀ stored ∈ ledger, stored.bookId = bookId →
        (∃ e ∈ events, e.bookPosition = stored.bookPosition) →
        ∀ catalog, ∃ result,
          applyStored catalog ledger stored t = .ok (result, t)
            ∧ result.applied = false) := by
  have hMem := mem_ledger_of_run hRun
  have hDistinct := eventIds_nodup hKeys (fun e he => (hMem e he).1) hOrder
  have hHistory := journalHistory_run hDistinct hRun
  have hAsOf : ∀ asOf, ∃ tAsOf,
      Run (Projects ledger bookId) SyncTables.empty
        (events.filter fun e => e.bookPosition ≤ asOf) tAsOf
      ∧ ∀ key, (loadReferenceBalances t asOf).lookup key
          = balanceUnits tAsOf key := by
    intro asOf
    obtain ⟨rest, hSplit⟩ := filter_append_of_pairwise hOrder asOf
    have hPrefixRun := hRun
    rw [hSplit] at hPrefixRun
    obtain ⟨tAsOf, hPrefix, -⟩ := hPrefixRun.split
    refine ⟨tAsOf, hPrefix, fun key => ?_⟩
    have hPrefixDistinct : ((events.filter fun e => e.bookPosition ≤ asOf).map
        (·.eventId)).Nodup :=
      hDistinct.sublist (List.filter_sublist.map _)
    rw [lookup_loadReferenceBalances hHistory asOf key]
    exact (accountBalance_eq (journalHistory_run hPrefixDistinct hPrefix)
      key).symm
  refine ⟨accountBalance_eq hHistory, ?_, ?_, hAsOf, ?_⟩
  · exact totalOn_accountBalances hHistory
      (eventBalanced_of_run hKeys hDistinct hPosted hRun)
  · intro head hHead key
    have hAll : (events.filter fun e => e.bookPosition ≤ head) = events :=
      List.filter_eq_self.2 fun e he => by simpa using hHead e he
    rw [lookup_loadReferenceBalances hHistory head key, hAll]
    exact (accountBalance_eq hHistory key).symm
  · rintro stored hStored hBook ⟨e, he, hPosition⟩ catalog
    have hSame : e = stored :=
      List.inj_on_of_nodup_map hKeys.bookPosition (hMem e he).1 hStored
        (by rw [(hMem e he).2, hBook, hPosition])
    exact applyStored_again hDistinct hRun (hSame ▸ he) catalog

/-! ### A Book with one transaction and its reversal -/

/-- The ledger of the sample Book, and its tables once both are projected. -/
def sampleLedger : List LedgerEventRecord := [samplePosted, sampleReversed]

def sampleTables : SyncTables :=
  sampleLedger.foldl (projected sampleCatalog sampleLedger) SyncTables.empty

theorem accountBalances_agree_over_sample :
    (∀ asset, totalOn (·.balanceUnits) (fun key => key.2 = asset)
        sampleTables.accountBalances = 0)
      ∧ (∀ key, (loadReferenceBalances sampleTables 2).lookup key
        = balanceUnits sampleTables key)
      ∧ balanceUnits sampleTables (1, sampleAsset) = some 0 := by
  have hRun : Run (Projects sampleLedger 1) SyncTables.empty
      [samplePosted, sampleReversed] sampleTables :=
    .cons (projects_projected sampleCatalog (by decide) rfl (by decide))
      (.cons (projects_projected sampleCatalog (by decide) rfl (by decide))
        (.nil _))
  have hPosted : ∀ e ∈ [samplePosted, sampleReversed], PostedBalanced e := by
    intro e he payload hPayload asset
    obtain rfl | rfl : e = samplePosted ∨ e = sampleReversed := by
      simpa using he
    · obtain rfl : _ = payload := by
        simpa [samplePosted, sampleEvent] using hPayload
      by_cases hAsset : sampleAsset = asset <;>
        simp [netUnits, samplePostings, signedUnits, PostingSide.opposite,
          hAsset]
    · simp [sampleReversed, sampleEvent] at hPayload
  have hAgree := accountBalances_agree_over_run
    (by constructor <;> decide) (by decide) hPosted hRun
  exact ⟨hAgree.2.1, hAgree.2.2.1 2 (by decide), by decide⟩

end TrackAnywhere.Ports
