import TrackAnywhere.Ports.JournalHistory
import TrackAnywhere.Ports.LotDisposals

/-!
# Two readings of the investment log

`reduceInvestmentEvents` and the projector's lot tables account for the same
events, one by folding positions and one by updating rows.  What the projector
accepts, the reducer accepts, with the same remaining quantity and cost of every
lot.  The other way the database asks for more: assets that exist, allocation
ids that are new in the Book, and positions that fit their column.
-/

namespace TrackAnywhere.Ports

open TrackAnywhere.Verified
open TrackAnywhere.Verified.Checked
open TrackAnywhere.Verified.KeyedRows

/-! ## Lots and rows -/

/-- The payload of an investment event. -/
def EventContract.investment? : EventContract → Option InvestmentPayload
  | ⟨.investmentLotAcquired payload, _⟩ => some (.acquired payload)
  | ⟨.investmentLotDisposed payload, h⟩ => some (.disposed ⟨payload, h⟩)
  | _ => none

/-- `InvestmentEvent(…)` of a stored event. -/
def LedgerEventRecord.investmentEvent (stored : LedgerEventRecord)
    (payload : InvestmentPayload) (h : 0 < stored.bookPosition) : InvestmentEvent :=
  ⟨stored.bookPosition, stored.effectiveAt, payload, h⟩

/-- The event as `_load_investment_events` reads it.  Book positions are
positive in the store. -/
def LedgerEventRecord.investmentEvent? (stored : LedgerEventRecord) :
    Option InvestmentEvent :=
  if h : 0 < stored.bookPosition then
    (stored.contract?.bind EventContract.investment?).map fun payload =>
      stored.investmentEvent payload h
  else none

/-- `_load_investment_events`, of events in the order of their positions. -/
def loadInvestmentEvents (events : List LedgerEventRecord) : List InvestmentEvent :=
  events.filterMap (·.investmentEvent?)

def InvestmentLotRecord.pool (row : InvestmentLotRecord) : LotPool :=
  ⟨row.instrumentAssetCode, row.settlementAssetCode⟩

/-- A lot and its row account for the same units. -/
structure SameLot (lot : LotPosition) (row : InvestmentLotRecord) : Prop where
  pool : lot.pool = row.pool
  quantity : lot.remainingQuantityUnits = row.remainingQuantityUnits
  cost : lot.remainingCostUnits = row.remainingCostUnits

/-- Lots and rows under the same ids. -/
def LotsAgree (lots : List LotPosition) (t : SyncTables) : Prop :=
  ∀ lotId, Option.Rel SameLot (row? LotPosition.lotId lots lotId) (t.lot? lotId)

theorem lot?_eq (t : SyncTables) (lotId : UUID) :
    t.lot? lotId = row? InvestmentLotRecord.lotId t.investmentLots lotId :=
  rfl

theorem LotsAgree.row {lots : List LotPosition} {t : SyncTables} (h : LotsAgree lots t)
    {lotId : UUID} {row : InvestmentLotRecord} (hRow : t.lot? lotId = some row) :
    ∃ lot, row? LotPosition.lotId lots lotId = some lot ∧ SameLot lot row := by
  have hRel := h lotId
  rw [hRow] at hRel
  cases hLot : row? LotPosition.lotId lots lotId with
  | none =>
      rw [hLot] at hRel
      cases hRel
  | some lot =>
      rw [hLot] at hRel
      cases hRel with
      | some hSame => exact ⟨lot, rfl, hSame⟩

theorem LotsAgree.lot {lots : List LotPosition} {t : SyncTables} (h : LotsAgree lots t)
    {lotId : UUID} {lot : LotPosition}
    (hLot : row? LotPosition.lotId lots lotId = some lot) :
    ∃ row, t.lot? lotId = some row ∧ SameLot lot row := by
  have hRel := h lotId
  rw [hLot] at hRel
  cases hRow : t.lot? lotId with
  | none =>
      rw [hRow] at hRel
      cases hRel
  | some row =>
      rw [hRow] at hRel
      cases hRel with
      | some hSame => exact ⟨row, rfl, hSame⟩

theorem LotsAgree.none_iff {lots : List LotPosition} {t : SyncTables}
    (h : LotsAgree lots t) (lotId : UUID) :
    row? LotPosition.lotId lots lotId = none ↔ t.lot? lotId = none := by
  constructor
  · intro hNone
    cases hRow : t.lot? lotId with
    | none => rfl
    | some row =>
        obtain ⟨lot, hLot, -⟩ := h.row hRow
        rw [hNone] at hLot
        cases hLot
  · intro hNone
    cases hLot : row? LotPosition.lotId lots lotId with
    | none => rfl
    | some lot =>
        obtain ⟨row, hRow, -⟩ := h.lot hLot
        rw [hNone] at hRow
        cases hRow

/-! ## One allocation -/

/-- What the database asks of an allocation besides what the reducer asks. -/
structure Unused (stored : LedgerEventRecord) (transactionId : UUID) (t : SyncTables)
    (allocation : LotDisposalAllocation) : Prop where
  id : allocation.allocationId ∉ t.investmentLotAllocations.map (·.allocationId)
  position : ∀ r ∈ t.investmentLotAllocations,
    r.disposalTransactionId = transactionId →
      r.allocationPosition ≠ allocation.position
  lot : ∀ r ∈ t.investmentLotAllocations,
    r.disposalTransactionId = transactionId → r.lotId ≠ allocation.lotId
  smallint : allocation.position ≤ 32767
  advances : ∀ row ∈ t.investmentLots, row.lotId = allocation.lotId →
    row.sourcePosition < stored.bookPosition

section Allocation

variable {stored : LedgerEventRecord} {payload : InvestmentLotDisposed}
  {lots lots' : List LotPosition} {t t' : SyncTables}
  {allocation : LotDisposalAllocation}

/-- The row of a lot after an allocation. -/
def InvestmentLotRecord.allocated (row : InvestmentLotRecord)
    (stored : LedgerEventRecord) (allocation : LotDisposalAllocation) :
    InvestmentLotRecord :=
  { row with
    remainingQuantityUnits := row.remainingQuantityUnits - allocation.quantityUnits.1
    remainingCostUnits := row.remainingCostUnits - allocation.costUnits.1
    sourceEventId := stored.eventId
    sourcePosition := stored.bookPosition }

/-- What an accepted allocation found, and what it wrote. -/
theorem applyAllocation_ok (h : applyAllocation stored payload t allocation = .ok t') :
    ∃ row, t.lot? allocation.lotId = some row ∧ row.pool = payload.pool
      ∧ allocation.quantityUnits.1 ≤ row.remainingQuantityUnits
      ∧ allocation.costUnits.1 ≤ row.remainingCostUnits
      ∧ (row.remainingQuantityUnits - allocation.quantityUnits.1 = 0
        ↔ row.remainingCostUnits - allocation.costUnits.1 = 0)
      ∧ (∀ lotId, t'.lot? lotId = if lotId = allocation.lotId
        then some (row.allocated stored allocation) else t.lot? lotId)
      ∧ t'.investmentLotAllocations = t.investmentLotAllocations ++
        [{ allocationId := allocation.allocationId
           lotId := allocation.lotId
           disposalTransactionId := payload.transactionId
           allocationPosition := allocation.position
           quantityUnits := allocation.quantityUnits.1
           costUnits := allocation.costUnits.1
           sourceEventId := stored.eventId
           sourcePosition := stored.bookPosition }] := by
  simp only [applyAllocation, bind_eq_ok, require_eq_ok, fetch_eq_ok, pure_eq_ok,
    exists_const] at h
  obtain ⟨row, hRow, ⟨hInstrument, hSettlement⟩, hQuantity, hCost, hDeplete, -, -, -,
    -, -, rfl⟩ := h
  refine ⟨row, hRow, ?_, hQuantity, hCost, hDeplete, fun lotId => ?_, rfl⟩
  · unfold InvestmentLotRecord.pool InvestmentLotDisposed.pool
    rw [hInstrument, hSettlement]
  · have hUpdate := @row?_updateRow _ _ _ InvestmentLotRecord.lotId
      t.investmentLots allocation.lotId (fun r => { r with
        remainingQuantityUnits :=
          row.remainingQuantityUnits - allocation.quantityUnits.1
        remainingCostUnits := row.remainingCostUnits - allocation.costUnits.1
        sourceEventId := stored.eventId
        sourcePosition := stored.bookPosition }) (fun r hr => hr) lotId
    refine hUpdate.trans ?_
    split_ifs
    · rw [← lot?_eq, hRow]
      rfl
    · rfl

/-- What the projector accepts, the reducer accepts. -/
theorem reduceAllocation_of_apply (hAgree : LotsAgree lots t)
    (h : applyAllocation stored payload t allocation = .ok t') :
    ∃ lots', reduceAllocation payload.pool lots allocation = .ok lots'
      ∧ LotsAgree lots' t' := by
  obtain ⟨row, hRow, hPool, hQuantity, hCost, hDeplete, hAfter, -⟩ :=
    applyAllocation_ok h
  obtain ⟨lot, hLot, hSame⟩ := hAgree.row hRow
  have hFits : Fits payload.pool lot allocation := by
    refine ⟨hSame.pool.trans hPool, ?_, ?_⟩
    · intro m
      cases m
      · exact hQuantity.trans_eq hSame.quantity.symm
      · exact hCost.trans_eq hSame.cost.symm
    · rw [hSame.quantity, hSame.cost]
      exact hDeplete
  refine ⟨_, reduceAllocation_eq_ok.2 ⟨lot, hLot, hFits, rfl⟩, fun lotId => ?_⟩
  have hKey : lot.lotId = allocation.lotId := key_of_row? hLot
  have hUpdate := @row?_updateRow _ _ _ LotPosition.lotId lots _
    (fun _ => lot.without allocation hFits) (fun _ _ => hKey) lotId
  rw [hUpdate, hAfter, hLot]
  split_ifs
  · refine .some ⟨hSame.pool, ?_, ?_⟩
    · exact congrArg (· - allocation.quantityUnits.1) hSame.quantity
    · exact congrArg (· - allocation.costUnits.1) hSame.cost
  · exact hAgree lotId

/-- What the reducer accepts, the projector accepts, if it is unused. -/
theorem applyAllocation_of_reduce (hAgree : LotsAgree lots t)
    (hUnused : Unused stored payload.transactionId t allocation)
    (h : reduceAllocation payload.pool lots allocation = .ok lots') :
    ∃ t', applyAllocation stored payload t allocation = .ok t' := by
  obtain ⟨lot, hLot, hFits, -⟩ := reduceAllocation_eq_ok.1 h
  obtain ⟨row, hRow, hSame⟩ := hAgree.lot hLot
  have hPool : row.pool = payload.pool := hSame.pool.symm.trans hFits.pool
  have hQuantity := hFits.units .quantity
  have hCost := hFits.units .cost
  have hDeplete := hFits.deplete
  rw [hSame.quantity, hSame.cost] at hDeplete
  have hKey : row.lotId = allocation.lotId := by
    rw [lot?_eq] at hRow
    exact key_of_row? hRow
  simp only [applyAllocation, bind_eq_ok, require_eq_ok, fetch_eq_ok, pure_eq_ok,
    exists_const]
  exact ⟨_, row, hRow, ⟨congrArg LotPool.instrumentAssetCode hPool,
    congrArg LotPool.settlementAssetCode hPool⟩, hQuantity.trans_eq hSame.quantity,
    hCost.trans_eq hSame.cost, hDeplete,
    hUnused.advances row (List.mem_of_find?_eq_some hRow) hKey,
    hUnused.id, hUnused.position, hUnused.lot, hUnused.smallint, rfl⟩

end Allocation

/-! ## One disposal -/

section Disposal

variable {stored : LedgerEventRecord} {payload : InvestmentLotDisposed}
  {lots lots' : List LotPosition} {t t' : SyncTables}
  {allocations : List LotDisposalAllocation}

theorem reduceAllocations_of_apply (hAgree : LotsAgree lots t)
    (h : allocations.foldlM (applyAllocation stored payload) t = .ok t') :
    ∃ lots', allocations.foldlM (reduceAllocation payload.pool) lots = .ok lots'
      ∧ LotsAgree lots' t' := by
  induction allocations generalizing lots t with
  | nil =>
      cases h
      exact ⟨lots, rfl, hAgree⟩
  | cons allocation rest ih =>
      obtain ⟨t₁, hFirst, hRest⟩ := bind_eq_ok.1 h
      obtain ⟨lots₁, hReduced, hAgree₁⟩ := reduceAllocation_of_apply hAgree hFirst
      obtain ⟨lots', hLater, hAgree'⟩ := ih hAgree₁ hRest
      exact ⟨lots', bind_eq_ok.2 ⟨lots₁, hReduced, hLater⟩, hAgree'⟩

/-- Another allocation of the event stays unused. -/
theorem Unused.after {allocation other : LotDisposalAllocation}
    (h : Unused stored payload.transactionId t other)
    (hApply : applyAllocation stored payload t allocation = .ok t')
    (hId : other.allocationId ≠ allocation.allocationId)
    (hPosition : other.position ≠ allocation.position)
    (hLot : other.lotId ≠ allocation.lotId)
    (hRows : ∀ row ∈ t'.investmentLots, row.lotId = other.lotId →
      row ∈ t.investmentLots) :
    Unused stored payload.transactionId t' other := by
  obtain ⟨-, -, -, -, -, -, -, hAppended⟩ := applyAllocation_ok hApply
  refine ⟨?_, ?_, ?_, h.smallint, fun row hRow hKey =>
    h.advances row (hRows row hRow hKey) hKey⟩
  · rw [hAppended, List.map_append, List.mem_append]
    rintro (hOld | hNew)
    · exact h.id hOld
    · exact hId (List.mem_singleton.1 hNew)
  · rw [hAppended]
    intro r hr hSame
    rcases List.mem_append.1 hr with hOld | hNew
    · exact h.position r hOld hSame
    · rw [List.mem_singleton.1 hNew]
      exact Ne.symm hPosition
  · rw [hAppended]
    intro r hr hSame
    rcases List.mem_append.1 hr with hOld | hNew
    · exact h.lot r hOld hSame
    · rw [List.mem_singleton.1 hNew]
      exact Ne.symm hLot

/-- The rows of other lots are those that were there. -/
theorem investmentLots_applyAllocation {allocation : LotDisposalAllocation}
    (h : applyAllocation stored payload t allocation = .ok t')
    {row : InvestmentLotRecord} (hRow : row ∈ t'.investmentLots) :
    row ∈ t.investmentLots
      ∨ row.lotId = allocation.lotId ∧ row.sourcePosition = stored.bookPosition := by
  simp only [applyAllocation, bind_eq_ok, require_eq_ok, fetch_eq_ok, pure_eq_ok,
    exists_const] at h
  obtain ⟨lot, -, -, -, -, -, -, -, -, -, -, rfl⟩ := h
  obtain ⟨old, hOld, rfl⟩ := List.mem_map.1 hRow
  split_ifs with hKey
  · exact .inr ⟨hKey, rfl⟩
  · exact .inl hOld

theorem applyAllocations_of_reduce (hAgree : LotsAgree lots t)
    (hIds : (allocations.map (·.allocationId)).Nodup)
    (hPositions : (allocations.map (·.position)).Nodup)
    (hLots : (allocations.map (·.lotId)).Nodup)
    (hUnused : ∀ a ∈ allocations, Unused stored payload.transactionId t a)
    (h : allocations.foldlM (reduceAllocation payload.pool) lots = .ok lots') :
    ∃ t', allocations.foldlM (applyAllocation stored payload) t = .ok t' := by
  induction allocations generalizing lots t with
  | nil => exact ⟨t, rfl⟩
  | cons allocation rest ih =>
      rw [List.map_cons, List.nodup_cons] at hIds hPositions hLots
      obtain ⟨lots₁, hReduced, hRest⟩ := bind_eq_ok.1 h
      obtain ⟨t₁, hFirst⟩ := applyAllocation_of_reduce hAgree
        (hUnused allocation List.mem_cons_self) hReduced
      obtain ⟨_, hSame, hAgree₁⟩ := reduceAllocation_of_apply hAgree hFirst
      obtain rfl := Except.ok.inj (hSame.symm.trans hReduced)
      have hApart : ∀ {β : Type} (f : LotDisposalAllocation → β),
          f allocation ∉ rest.map f → ∀ a ∈ rest, f a ≠ f allocation :=
        fun f hNot a ha hEq => hNot (hEq ▸ List.mem_map.2 ⟨a, ha, rfl⟩)
      obtain ⟨t', hLater⟩ := ih hAgree₁ hIds.2 hPositions.2 hLots.2 (by
        intro a ha
        have hLot := hApart (·.lotId) hLots.1 a ha
        refine (hUnused a (List.mem_cons_of_mem _ ha)).after hFirst
          (hApart (·.allocationId) hIds.1 a ha) (hApart (·.position) hPositions.1 a ha)
          hLot fun row hRow hKey => ?_
        rcases investmentLots_applyAllocation hFirst hRow with hOld | ⟨hOwn, -⟩
        · exact hOld
        · exact absurd (hKey.symm.trans hOwn) hLot) hRest
      exact ⟨t', bind_eq_ok.2 ⟨t₁, hFirst, hLater⟩⟩

end Disposal

/-! ## One event -/

/-- The stream and the linked transaction that a lot event is bound to. -/
def LinkedLotEvent (stored : LedgerEventRecord) (t : SyncTables) :
    InvestmentPayload → Prop
  | .acquired payload =>
      (stored.streamType = "investment_lot" ∧ stored.streamId = payload.lotId
        ∧ stored.streamVersion = 1)
      ∧ validateLinkedTransaction stored payload.transactionId t = .ok ()
  | .disposed payload =>
      (stored.streamType = "investment_disposal"
        ∧ stored.streamId = payload.1.transactionId ∧ stored.streamVersion = 1)
      ∧ validateLinkedTransaction stored payload.1.transactionId t = .ok ()

/-- What only the database asks: assets that exist, and allocation ids that are
new in the Book, of which there are no more than their column counts. -/
def StoredLotEvent (catalog : Catalog) (t : SyncTables) : InvestmentPayload → Prop
  | .acquired payload => payload.instrumentAssetCode ∈ catalog.assetCodes
      ∧ payload.settlementAssetCode ∈ catalog.assetCodes
  | .disposed payload => payload.1.allocations.length ≤ 32768
      ∧ ∀ a ∈ payload.1.allocations,
        a.allocationId ∉ t.investmentLotAllocations.map (·.allocationId)

section Event

variable {catalog : Catalog} {ledger : List LedgerEventRecord}
  {stored : LedgerEventRecord} {t t' : SyncTables} {lots lots' : List LotPosition}

theorem applyFinancialTransaction_lots {transactionId : UUID}
    {transactionKind : RecordedKind} {descriptionRef : Option UUID}
    {postings : List JournalPostingFact}
    (h : applyFinancialTransaction catalog stored transactionId transactionKind
      descriptionRef postings t = .ok t') :
    t'.investmentLots = t.investmentLots
      ∧ t'.investmentLotAllocations = t.investmentLotAllocations := by
  simp only [applyFinancialTransaction, bind_eq_ok, require_eq_ok, pure_eq_ok,
    exists_const] at h
  obtain ⟨-, -, -, -, -, -, rfl⟩ := h
  exact ⟨rfl, rfl⟩

/-- Other events leave the lots alone. -/
theorem applyPayload_lots {contract : EventContract}
    (hOther : contract.investment? = none)
    (h : applyPayload catalog ledger stored contract.1 t = .ok t') :
    t'.investmentLots = t.investmentLots
      ∧ t'.investmentLotAllocations = t.investmentLotAllocations := by
  obtain ⟨payload, hValid⟩ := contract
  cases payload with
  | creditCardTransactionRecorded p =>
      simp only [applyPayload, applyCreditCardRecorded, bind_eq_ok, pure_eq_ok] at h
      obtain ⟨t₁, hFinancial, t₂, hReferences, -, -, -, -, rfl⟩ := h
      obtain ⟨rows, rfl⟩ := addExternalReferences_ok hReferences
      have hLots := applyFinancialTransaction_lots hFinancial
      exact hLots
  | journalTransactionPosted p =>
      simp only [applyPayload, applyJournalPosted, bind_eq_ok] at h
      obtain ⟨t₁, hFinancial, hReferences⟩ := h
      obtain ⟨rows, rfl⟩ := addExternalReferences_ok hReferences
      have hLots := applyFinancialTransaction_lots hFinancial
      exact hLots
  | journalTransactionReversed p =>
      obtain ⟨target, source, contract, original, t₁, -, -, -, -, -, -, -, -, -,
        hFinancial, -, -, rfl⟩ := applyJournalReversed_ok h
      have hLots := applyFinancialTransaction_lots hFinancial
      exact hLots
  | financialExternalReferenceCorrected p =>
      simp only [applyPayload, applyExternalReferenceCorrected, bind_eq_ok,
        require_eq_ok, fetch_eq_ok, exists_const] at h
      obtain ⟨-, transaction, -, -, -, h⟩ := h
      split at h
      · cases h
        exact ⟨rfl, rfl⟩
      · cases h
        exact ⟨rfl, rfl⟩
  | reportingLinesAssigned p =>
      simp only [applyPayload, applyReportingLinesAssigned, bind_eq_ok,
        pure_eq_ok] at h
      obtain ⟨-, -, -, -, rfl⟩ := h
      exact ⟨rfl, rfl⟩
  | reportingLinesCleared p =>
      simp only [applyPayload, applyReportingLinesCleared, bind_eq_ok,
        pure_eq_ok] at h
      obtain ⟨-, -, rfl⟩ := h
      exact ⟨rfl, rfl⟩
  | investmentLotAcquired p => cases hOther
  | investmentLotDisposed p => cases hOther

end Event

/-! ## Runs -/

/-- What the lot tables are after a history. -/
structure LotHistory (events : List LedgerEventRecord) (t : SyncTables) : Prop where
  reduced : ∃ r, (loadInvestmentEvents events).foldlM reduceEvent ⟨[], 0⟩ = .ok r
    ∧ LotsAgree r.lots t
  rows : ∀ row ∈ t.investmentLots, ∃ e ∈ events, row.sourcePosition = e.bookPosition
  allocations : ∀ row ∈ t.investmentLotAllocations, ∃ e ∈ events,
    e.streamType = "investment_disposal" ∧ e.streamId = row.disposalTransactionId
      ∧ e.streamVersion = 1

section Runs

variable {catalog : Catalog} {ledger events : List LedgerEventRecord}
  {stored : LedgerEventRecord} {t t' : SyncTables} {contract : EventContract}
  {payload : InvestmentPayload}

theorem investmentEvent?_eq (hPosition : 0 < stored.bookPosition)
    (hContract : stored.contract? = some contract) :
    stored.investmentEvent? = contract.investment?.map fun payload =>
      stored.investmentEvent payload hPosition := by
  unfold LedgerEventRecord.investmentEvent?
  rw [dif_pos hPosition, hContract]
  rfl

theorem position_of_investmentEvent? {event : InvestmentEvent}
    (h : stored.investmentEvent? = some event) :
    event.sourcePosition = stored.bookPosition := by
  unfold LedgerEventRecord.investmentEvent? at h
  split_ifs at h
  obtain ⟨_, -, rfl⟩ := Option.map_eq_some_iff.1 h
  rfl

theorem loadInvestmentEvents_append :
    loadInvestmentEvents (events ++ [stored])
      = loadInvestmentEvents events ++ stored.investmentEvent?.toList := by
  unfold loadInvestmentEvents
  rw [List.filterMap_append]
  cases hEvent : stored.investmentEvent? with
  | none => rw [List.filterMap_cons_none hEvent, List.filterMap_nil, Option.toList_none]
  | some event =>
      rw [List.filterMap_cons_some hEvent, List.filterMap_nil, Option.toList_some]

/-- The loop over the history stands before the next event. -/
theorem previousPosition_history {r : Reduction}
    (hOrder : ∀ e ∈ events, e.bookPosition < stored.bookPosition)
    (hPosition : 0 < stored.bookPosition)
    (hLoop : (loadInvestmentEvents events).foldlM reduceEvent ⟨[], 0⟩ = .ok r) :
    r.previousPosition < stored.bookPosition := by
  refine previousPosition_lt hLoop hPosition fun event hEvent => ?_
  obtain ⟨e, he, hRead⟩ := List.mem_filterMap.1 hEvent
  rw [position_of_investmentEvent? hRead]
  exact hOrder e he

namespace LotHistory

theorem empty : LotHistory [] SyncTables.empty where
  reduced := ⟨⟨[], 0⟩, rfl, fun _ => .none⟩
  rows := fun _ h => (List.not_mem_nil h).elim
  allocations := fun _ h => (List.not_mem_nil h).elim

/-- An event that leaves the lots alone. -/
theorem frame (h : LotHistory events t) (hNone : stored.investmentEvent? = none)
    (hLots : t'.investmentLots = t.investmentLots)
    (hAllocations : t'.investmentLotAllocations = t.investmentLotAllocations) :
    LotHistory (events ++ [stored]) t' := by
  obtain ⟨r, hLoop, hAgree⟩ := h.reduced
  refine ⟨⟨r, ?_, fun lotId => ?_⟩, ?_, ?_⟩
  · rw [loadInvestmentEvents_append, hNone]
    simpa using hLoop
  · rw [lot?_eq, hLots]
    exact hAgree lotId
  · rw [hLots]
    intro row hRow
    obtain ⟨e, he, hPosition⟩ := h.rows row hRow
    exact ⟨e, List.mem_append_left _ he, hPosition⟩
  · rw [hAllocations]
    intro row hRow
    obtain ⟨e, he, hStream⟩ := h.allocations row hRow
    exact ⟨e, List.mem_append_left _ he, hStream⟩

/-- The reducer accepts the event after the history. -/
theorem reduce_append {event : InvestmentEvent} {r r' : Reduction}
    (hLoop : (loadInvestmentEvents events).foldlM reduceEvent ⟨[], 0⟩ = .ok r)
    (hEvent : stored.investmentEvent? = some event)
    (hNext : reduceEvent r event = .ok r') :
    (loadInvestmentEvents (events ++ [stored])).foldlM reduceEvent ⟨[], 0⟩
      = .ok r' := by
  rw [loadInvestmentEvents_append, hEvent, List.foldlM_append, hLoop]
  show [event].foldlM reduceEvent r = _
  rw [List.foldlM_cons, hNext]
  rfl

theorem allocations_fold {p : InvestmentLotDisposed}
    {allocations : List LotDisposalAllocation}
    (hFold : allocations.foldlM (applyAllocation stored p) t = .ok t') :
    (∀ row ∈ t'.investmentLots, row ∈ t.investmentLots
        ∨ row.sourcePosition = stored.bookPosition)
      ∧ ∀ row ∈ t'.investmentLotAllocations, row ∈ t.investmentLotAllocations
        ∨ row.disposalTransactionId = p.transactionId := by
  induction allocations generalizing t with
  | nil =>
      cases hFold
      exact ⟨fun _ => .inl, fun _ => .inl⟩
  | cons allocation rest ih =>
      obtain ⟨t₁, hFirst, hRest⟩ := bind_eq_ok.1 hFold
      obtain ⟨hRows, hAllocations⟩ := ih hRest
      obtain ⟨-, -, -, -, -, -, -, hAppended⟩ := applyAllocation_ok hFirst
      refine ⟨fun row hRow => ?_, fun row hRow => ?_⟩
      · rcases hRows row hRow with hOld | hNew
        · rcases investmentLots_applyAllocation hFirst hOld with hOld | ⟨-, hNew⟩
          · exact .inl hOld
          · exact .inr hNew
        · exact .inr hNew
      · rcases hAllocations row hRow with hOld | hNew
        · rw [hAppended] at hOld
          rcases List.mem_append.1 hOld with hOld | hNew
          · exact .inl hOld
          · rw [List.mem_singleton.1 hNew]
            exact .inr rfl
        · exact .inr hNew

/-- An event that the projector accepts. -/
theorem accept (h : LotHistory events t) (hPosition : 0 < stored.bookPosition)
    (hOrder : ∀ e ∈ events, e.bookPosition < stored.bookPosition)
    (hContract : stored.contract? = some contract)
    (hApply : applyPayload catalog ledger stored contract.1 t = .ok t') :
    LotHistory (events ++ [stored]) t' := by
  have hEvent := investmentEvent?_eq hPosition hContract
  cases hPayload : contract.investment? with
  | none =>
      rw [hPayload] at hEvent
      obtain ⟨hLots, hAllocations⟩ := applyPayload_lots hPayload hApply
      exact h.frame hEvent hLots hAllocations
  | some payload =>
      rw [hPayload] at hEvent
      obtain ⟨r, hLoop, hAgree⟩ := h.reduced
      have hLater := previousPosition_history hOrder hPosition hLoop
      obtain ⟨raw, hValid⟩ := contract
      have hOldRows : ∀ row ∈ t.investmentLots, ∃ e ∈ events ++ [stored],
          row.sourcePosition = e.bookPosition := by
        intro row hRow
        obtain ⟨e, he, hSame⟩ := h.rows row hRow
        exact ⟨e, List.mem_append_left _ he, hSame⟩
      have hOldAllocations : ∀ row ∈ t.investmentLotAllocations,
          ∃ e ∈ events ++ [stored], e.streamType = "investment_disposal"
            ∧ e.streamId = row.disposalTransactionId ∧ e.streamVersion = 1 := by
        intro row hRow
        obtain ⟨e, he, hStream⟩ := h.allocations row hRow
        exact ⟨e, List.mem_append_left _ he, hStream⟩
      have hOwn : stored ∈ events ++ [stored] :=
        List.mem_append_right _ List.mem_cons_self
      cases raw with
      | investmentLotAcquired p =>
          cases hPayload
          simp only [applyPayload, applyInvestmentLotAcquired, bind_eq_ok,
            require_eq_ok, pure_eq_ok, exists_const] at hApply
          obtain ⟨-, -, -, hNew, -, rfl⟩ := hApply
          have hFresh : row? LotPosition.lotId r.lots p.lotId = none :=
            (hAgree.none_iff p.lotId).2 hNew
          let event := stored.investmentEvent (.acquired p) hPosition
          have hNext : reduceEvent r event
              = .ok ⟨r.lots ++ [p.lot event], stored.bookPosition⟩ :=
            reduceEvent_acquired rfl hLater hFresh
          refine ⟨⟨_, reduce_append hLoop hEvent hNext, fun lotId => ?_⟩, ?_,
            hOldAllocations⟩
          · rw [lot?_eq, row?_append, row?_append]
            have hRel := hAgree lotId
            rw [lot?_eq] at hRel
            by_cases hSame : p.lotId = lotId
            · subst hSame
              rw [hFresh] at hRel ⊢
              rw [lot?_eq] at hNew
              rw [hNew]
              rw [Option.none_or, Option.none_or, if_pos rfl,
                if_pos (show (p.lot event).lotId = p.lotId from rfl)]
              exact .some ⟨rfl, rfl, rfl⟩
            · rw [if_neg hSame, if_neg (show ¬(p.lot event).lotId = lotId from hSame),
                Option.or_none, Option.or_none]
              exact hRel
          · intro row hRow
            rcases List.mem_append.1 hRow with hOld | hRow
            · exact hOldRows row hOld
            · rw [List.mem_singleton.1 hRow]
              exact ⟨stored, hOwn, rfl⟩
      | investmentLotDisposed p =>
          cases hPayload
          simp only [applyPayload, applyInvestmentLotDisposed, bind_eq_ok,
            require_eq_ok, exists_const] at hApply
          obtain ⟨⟨hType, hId, hVersion⟩, -, -, hFold⟩ := hApply
          obtain ⟨lots', hReduced, hAgree'⟩ := reduceAllocations_of_apply hAgree hFold
          have hNext : reduceEvent r
              (stored.investmentEvent (.disposed ⟨p, hValid⟩) hPosition)
                = .ok ⟨lots', stored.bookPosition⟩ :=
            reduceEvent_disposed rfl hLater hReduced
          obtain ⟨hRows, hAllocations⟩ := allocations_fold hFold
          refine ⟨⟨_, reduce_append hLoop hEvent hNext, hAgree'⟩, ?_, ?_⟩
          · intro row hRow
            rcases hRows row hRow with hOld | hNew
            · exact hOldRows row hOld
            · exact ⟨stored, hOwn, hNew⟩
          · intro row hRow
            rcases hAllocations row hRow with hOld | hNew
            · exact hOldAllocations row hOld
            · exact ⟨stored, hOwn, hType, hId.trans hNew.symm, hVersion⟩
      | _ => cases hPayload

end LotHistory

/-! ## What is accepted next -/

/-- The allocations of a disposal are in order and apart. -/
theorem orderedAllocations {p : InvestmentLotDisposed}
    (h : p.validateFinalAllocations = .ok ()) :
    p.allocations.map (·.position) = List.range p.allocations.length
      ∧ (p.allocations.map (·.allocationId)).Nodup
      ∧ (p.allocations.map (·.lotId)).Nodup := by
  simp only [InvestmentLotDisposed.validateFinalAllocations, validateOrderedRecords,
    bind_eq_ok, require_eq_ok, forEach_eq_ok, exists_const, List.length_map] at h
  obtain ⟨⟨-, hPositions, hUnique⟩, -⟩ := h
  refine ⟨hPositions, ?_, ?_⟩
  · exact hUnique ("allocation_id", _) List.mem_cons_self
  · exact hUnique ("lot_id", _) (List.mem_cons_of_mem _ List.mem_cons_self)

/-- An event after the history has no marker. -/
theorem unmarked_of_later (hKeys : LedgerKeys ledger) {bookId : UUID}
    (hOrder : events.Pairwise fun a b => a.bookPosition < b.bookPosition)
    (hRun : Run (Projects ledger bookId) SyncTables.empty events t)
    (hMem : stored ∈ ledger)
    (hLater : ∀ e ∈ events, e.bookPosition < stored.bookPosition) :
    stored.eventId ∉ t.appliedEvents.map (·.eventId) := by
  have hLedger : ∀ e ∈ events, e ∈ ledger := fun e he => (mem_ledger_of_run hRun e he).1
  have hHistory := journalHistory_run (eventIds_nodup hKeys hLedger hOrder) hRun
  intro hMarked
  obtain ⟨e, he, hId, -⟩ := (hHistory.applied _).1 hMarked
  have hSame : e = stored :=
    List.inj_on_of_nodup_map hKeys.eventId (hLedger e he) hMem hId
  exact absurd (hLater e he) (hSame ▸ lt_irrefl _)

theorem applyStored_of_payload (hContract : stored.contract? = some contract)
    (hFresh : stored.eventId ∉ t.appliedEvents.map (·.eventId))
    (h : applyPayload catalog ledger stored contract.1 (t.mark stored.eventId)
      = .ok t') :
    applyStored catalog ledger stored t
      = .ok (⟨stored.eventId, true, true, some 1⟩, t') := by
  have hValid := LedgerEventRecord.contract?_eq_some.1 hContract
  have hVersion : requiredProjectionVersion stored.eventType stored.eventSchemaVersion
      = some 1 := by
    cases hNone : requiredProjectionVersion stored.eventType
        stored.eventSchemaVersion with
    | none =>
        rw [LedgerEventRecord.contract?_eq_none hNone] at hContract
        cases hContract
    | some version =>
        unfold requiredProjectionVersion at hNone
        split_ifs at hNone
        exact hNone.symm
  unfold applyStored
  rw [hVersion]
  simp only [bind_eq_ok, mapError_eq_ok]
  refine ⟨contract, hValid, ?_⟩
  rw [if_neg hFresh]
  simp only [bind_eq_ok, pure_eq_ok]
  exact ⟨t', h, rfl⟩

/-- The event is stored after the history, in a stream version of its own. -/
structure StoredNext (events : List LedgerEventRecord) (stored : LedgerEventRecord) :
    Prop where
  position : 0 < stored.bookPosition
  order : ∀ e ∈ events, e.bookPosition < stored.bookPosition
  stream : ∀ e ∈ events, e.streamType = stored.streamType →
    e.streamId = stored.streamId → e.streamVersion ≠ stored.streamVersion

variable (ledger) in
/-- What the reducer accepts, the projector accepts, where the database has
nothing to add. -/
theorem LotHistory.applies (h : LotHistory events t) (hNext : StoredNext events stored)
    (hContract : stored.contract? = some contract)
    (hPayload : contract.investment? = some payload)
    (hLinked : LinkedLotEvent stored t payload)
    (hStored : StoredLotEvent catalog t payload) {r' : Reduction}
    (hReduced : (loadInvestmentEvents (events ++ [stored])).foldlM reduceEvent ⟨[], 0⟩
      = .ok r') : ∃ t', applyPayload catalog ledger stored contract.1 t = .ok t' := by
  obtain ⟨r, hLoop, hAgree⟩ := h.reduced
  have hEvent := investmentEvent?_eq hNext.position hContract
  rw [hPayload] at hEvent
  have hStep : reduceEvent r (stored.investmentEvent payload hNext.position)
      = .ok r' := by
    rw [loadInvestmentEvents_append, hEvent, List.foldlM_append, hLoop] at hReduced
    obtain ⟨r₁, hFirst, hReduced⟩ := bind_eq_ok.1 hReduced
    cases hFirst
    obtain ⟨r₂, hStep, hRest⟩ := bind_eq_ok.1 hReduced
    cases hRest
    exact hStep
  obtain ⟨-, -, hLots⟩ := reduceEvent_eq_ok hStep
  obtain ⟨raw, hValid⟩ := contract
  cases raw with
  | investmentLotAcquired p =>
      cases hPayload
      have hFresh := (hAgree.none_iff p.lotId).1 hLots.1
      simp only [applyPayload, applyInvestmentLotAcquired, bind_eq_ok, require_eq_ok,
        pure_eq_ok, exists_const]
      exact ⟨_, hLinked.1, (), hLinked.2, hFresh, hStored, rfl⟩
  | investmentLotDisposed p =>
      cases hPayload
      obtain ⟨hPositions, hIds, hLotIds⟩ := orderedAllocations hValid
      have hUnused : ∀ a ∈ p.allocations, Unused stored p.transactionId t a := by
        intro a ha
        -- no event of the history disposed for this transaction
        have hOwn : ∀ row ∈ t.investmentLotAllocations,
            row.disposalTransactionId ≠ p.transactionId := by
          intro row hRow hSame
          obtain ⟨e, he, hType, hId, hVersion⟩ := h.allocations row hRow
          obtain ⟨⟨hOwnType, hOwnId, hOwnVersion⟩, -⟩ := hLinked
          exact hNext.stream e he (hType.trans hOwnType.symm)
            (hId.trans (hSame.trans hOwnId.symm)) (hVersion.trans hOwnVersion.symm)
        refine ⟨hStored.2 a ha, fun row hRow hSame => absurd hSame (hOwn row hRow),
          fun row hRow hSame => absurd hSame (hOwn row hRow), ?_, ?_⟩
        · have hMem : a.position ∈ List.range p.allocations.length :=
            hPositions ▸ List.mem_map.2 ⟨a, ha, rfl⟩
          have hLt := List.mem_range.1 hMem
          have hLength : p.allocations.length ≤ 32768 := hStored.1
          omega
        · intro row hRow _
          obtain ⟨e, he, hSame⟩ := h.rows row hRow
          exact hSame ▸ hNext.order e he
      have hDistinct : (p.allocations.map (·.position)).Nodup :=
        hPositions ▸ List.nodup_range
      obtain ⟨t', hFold⟩ := applyAllocations_of_reduce hAgree hIds hDistinct hLotIds
        hUnused hLots
      refine ⟨t', ?_⟩
      simp only [applyPayload, applyInvestmentLotDisposed, bind_eq_ok, require_eq_ok,
        exists_const]
      exact ⟨hLinked.1, (), hLinked.2, hFold⟩
  | _ => cases hPayload

theorem lotHistory_run (hKeys : LedgerKeys ledger) {bookId : UUID}
    (hPositive : ∀ e ∈ events, 0 < e.bookPosition)
    (hOrder : events.Pairwise fun a b => a.bookPosition < b.bookPosition)
    (hRun : Run (Projects ledger bookId) SyncTables.empty events t) :
    LotHistory events t := by
  refine Run.traceInvariant
    (I := fun done t => (∀ e ∈ done, 0 < e.bookPosition) →
      (done.Pairwise fun a b => a.bookPosition < b.bookPosition) → LotHistory done t)
    (fun _ _ => LotHistory.empty) ?_ hRun hPositive hOrder
  intro done t₁ stored t₂ hDone hI hStep hPositive hOrder
  rw [List.pairwise_append] at hOrder
  obtain ⟨hBefore, -, hLast⟩ := hOrder
  have hHistory := hI (fun e he => hPositive e (List.mem_append_left _ he)) hBefore
  have hLater : ∀ e ∈ done, e.bookPosition < stored.bookPosition :=
    fun e he => hLast e he stored List.mem_cons_self
  have hPosition : 0 < stored.bookPosition :=
    hPositive stored (List.mem_append_right _ List.mem_cons_self)
  have hFresh := unmarked_of_later hKeys hBefore hDone hStep.1 hLater
  rcases projects_cases hStep hFresh with
    ⟨hNone, rfl⟩ | ⟨catalog, contract, hContract, hPayload⟩
  · refine hHistory.frame ?_ rfl rfl
    unfold LedgerEventRecord.investmentEvent?
    rw [dif_pos hPosition, hNone]
    rfl
  · have hMarked : LotHistory done (t₁.mark stored.eventId) :=
      ⟨hHistory.reduced, hHistory.rows, hHistory.allocations⟩
    exact hMarked.accept hPosition hLater hContract hPayload

/-- In every history of a Book: the reducer accepts the investment events that
the projector accepted, and gives each lot the remaining quantity and cost of its
row; and of the next investment event, bound to its stream and to a transaction
that precedes it, either both accept it or neither does, where the assets exist
and the allocation ids are new in the Book and fit their column. -/
theorem lots_agree_over_run (hKeys : LedgerKeys ledger) {bookId : UUID}
    (hPositive : ∀ e ∈ events, 0 < e.bookPosition)
    (hOrder : events.Pairwise fun a b => a.bookPosition < b.bookPosition)
    (hRun : Run (Projects ledger bookId) SyncTables.empty events t) :
    (∃ state, reduceInvestmentEvents (loadInvestmentEvents events) = .ok state
        ∧ LotsAgree state.lots t)
      ∧ ∀ catalog stored contract payload, stored ∈ ledger →
        stored.contract? = some contract → contract.investment? = some payload →
        StoredNext events stored → LinkedLotEvent stored t payload →
        StoredLotEvent catalog t payload →
        ((∃ result t', applyStored catalog ledger stored t = .ok (result, t'))
          ↔ ∃ state', reduceInvestmentEvents
            (loadInvestmentEvents (events ++ [stored])) = .ok state') := by
  have hHistory := lotHistory_run hKeys hPositive hOrder hRun
  refine ⟨?_, ?_⟩
  · obtain ⟨r, hLoop, hAgree⟩ := hHistory.reduced
    obtain ⟨state, hState⟩ := reduceInvestmentEvents_accepts hLoop
    refine ⟨state, hState, fun lotId => ?_⟩
    obtain ⟨r', hLoop', hLots⟩ := reduceInvestmentEvents_eq_ok.1 hState
    obtain rfl := Except.ok.inj (hLoop'.symm.trans hLoop)
    have hDistinct : (r'.lots.map LotPosition.lotId).Nodup :=
      reduceEvents_keys (r := ⟨[], 0⟩) List.nodup_nil hLoop
    rw [hLots, row?_perm hDistinct (List.perm_insertionSort fifoOrder r'.lots).symm]
    exact hAgree lotId
  · intro catalog stored contract payload hMem hContract hPayload hNext hLinked hStored
    have hFresh := unmarked_of_later hKeys hOrder hRun hMem hNext.order
    have hMarked : LotHistory events (t.mark stored.eventId) :=
      ⟨hHistory.reduced, hHistory.rows, hHistory.allocations⟩
    constructor
    · rintro ⟨result, t', hApply⟩
      rcases applyStored_cases hApply with
        ⟨-, -, hVersion | hOld⟩ | ⟨contract', hValid, -, hAccepted⟩
      · rw [LedgerEventRecord.contract?_eq_none hVersion] at hContract
        cases hContract
      · exact absurd hOld hFresh
      · have hAfter := hMarked.accept hNext.position hNext.order
          (LedgerEventRecord.contract?_eq_some.2 hValid) hAccepted
        obtain ⟨r, hLoop, -⟩ := hAfter.reduced
        exact reduceInvestmentEvents_accepts hLoop
    · rintro ⟨state', hState'⟩
      obtain ⟨r', hReduced, -⟩ := reduceInvestmentEvents_eq_ok.1 hState'
      obtain ⟨t', hApply⟩ := hMarked.applies ledger hNext hContract hPayload hLinked
        hStored hReduced
      exact ⟨_, t', applyStored_of_payload hContract hFresh hApply⟩

end Runs

/-! ### Two disposals of one lot -/

def sampleLotPosted (position : Nat) (transactionId first second : UUID) :
    LedgerEventRecord :=
  sampleEvent position "journal_transaction" transactionId ⟨sampleDate, 0⟩
    (.journalTransactionPosted
      ⟨transactionId, .standard, none, samplePostings first second .debit, none, []⟩)

/-- Two units at two, for transaction 10. -/
def sampleLotAcquired : LedgerEventRecord :=
  sampleEvent 5 "investment_lot" 30 ⟨sampleDate, 0⟩
    (.investmentLotAcquired ⟨10, 30, sampleAsset, sampleAsset, ⟨2, sample_two⟩,
      ⟨2, sample_two⟩, none⟩)

/-- One unit at one, under an allocation id. -/
def sampleDisposed (transactionId allocationId : UUID) : InvestmentLotDisposed :=
  ⟨transactionId, sampleAsset, sampleAsset, ⟨1, by decide⟩, ⟨1, by decide⟩,
    ⟨1, by decide⟩, none, [⟨allocationId, 30, 0, ⟨1, by decide⟩, ⟨1, by decide⟩⟩]⟩

def sampleLotDisposed (position : Nat) (transactionId allocationId : UUID) :
    LedgerEventRecord :=
  sampleEvent position "investment_disposal" transactionId ⟨sampleDate, 0⟩
    (.investmentLotDisposed (sampleDisposed transactionId allocationId))

/-- Four transactions, a lot of the first and a disposal for the second. -/
def sampleLotEvents : List LedgerEventRecord :=
  [sampleLotPosted 1 10 20 21, sampleLotPosted 2 11 22 23, sampleLotPosted 3 12 24 25,
    sampleLotPosted 4 13 26 27, sampleLotAcquired, sampleLotDisposed 6 11 40]

/-- With a disposal for the third under the same allocation id, and one for the
fourth under a new one. -/
def sampleLotLedger : List LedgerEventRecord :=
  sampleLotEvents ++ [sampleLotDisposed 7 12 40, sampleLotDisposed 8 13 41]

def sampleLotTables : SyncTables :=
  sampleLotEvents.foldl (projected sampleCatalog sampleLotLedger) SyncTables.empty

/-- Each event in turn is accepted. -/
def acceptsAll (catalog : Catalog) (ledger : List LedgerEventRecord) :
    SyncTables → List LedgerEventRecord → Bool
  | _, [] => true
  | t, stored :: rest => (applyStored catalog ledger stored t).isOk
      && acceptsAll catalog ledger (projected catalog ledger t stored) rest

theorem run_projected {catalog : Catalog} {ledger events : List LedgerEventRecord}
    {bookId : UUID} {t : SyncTables}
    (hMem : ∀ e ∈ events, e ∈ ledger ∧ e.bookId = bookId)
    (h : acceptsAll catalog ledger t events = true) :
    Run (Projects ledger bookId) t events
      (events.foldl (projected catalog ledger) t) := by
  induction events generalizing t with
  | nil => exact .nil t
  | cons stored rest ih =>
      simp only [acceptsAll, Bool.and_eq_true] at h
      obtain ⟨hOwn, hBook⟩ := hMem stored List.mem_cons_self
      exact .cons (projects_projected catalog hOwn hBook h.1)
        (ih (fun e he => hMem e (List.mem_cons_of_mem _ he)) h.2)

theorem run_sampleLots :
    Run (Projects sampleLotLedger 1) SyncTables.empty sampleLotEvents
      sampleLotTables :=
  run_projected (by decide) (by decide)

theorem sampleLotKeys : LedgerKeys sampleLotLedger := by
  constructor <;> decide

theorem sampleDisposed_valid (transactionId allocationId : UUID) :
    (sampleDisposed transactionId allocationId).validateFinalAllocations = .ok () := by
  simp [sampleDisposed, InvestmentLotDisposed.validateFinalAllocations,
    validateOrderedRecords, require, forEach]

theorem contract_of_sampleDisposed (position : Nat) (transactionId allocationId : UUID) :
    (sampleLotDisposed position transactionId allocationId).contract?
      = some ⟨.investmentLotDisposed (sampleDisposed transactionId allocationId),
        sampleDisposed_valid transactionId allocationId⟩ :=
  LedgerEventRecord.contract?_eq_some.2 (validateStored_eq_ok.2 ⟨rfl, rfl, rfl⟩)

/-- Both accept the disposal under a new allocation id. -/
theorem lots_agree_over_sample :
    (∃ state, reduceInvestmentEvents (loadInvestmentEvents sampleLotEvents) = .ok state
        ∧ LotsAgree state.lots sampleLotTables)
      ∧ ((∃ result t', applyStored sampleCatalog sampleLotLedger
            (sampleLotDisposed 8 13 41) sampleLotTables = .ok (result, t'))
        ↔ ∃ state', reduceInvestmentEvents (loadInvestmentEvents
          (sampleLotEvents ++ [sampleLotDisposed 8 13 41])) = .ok state') := by
  have hAgree := lots_agree_over_run sampleLotKeys (by decide)
    (by decide) run_sampleLots
  refine ⟨hAgree.1, hAgree.2 sampleCatalog (sampleLotDisposed 8 13 41) _ _
    (by decide) (contract_of_sampleDisposed 8 13 41) rfl ?_ ?_ ?_⟩
  · exact ⟨by decide, by decide, by decide⟩
  · exact ⟨by decide, by decide⟩
  · exact ⟨by decide, by decide⟩

/-- The reducer accepts a disposal that reuses an allocation id, the database
refuses it. -/
theorem reusedAllocation_disagrees :
    ¬ ∀ (ledger events : List LedgerEventRecord) (bookId : UUID) (t : SyncTables),
      LedgerKeys ledger → (∀ e ∈ events, 0 < e.bookPosition) →
      (events.Pairwise fun a b => a.bookPosition < b.bookPosition) →
      Run (Projects ledger bookId) SyncTables.empty events t →
      ∀ catalog stored contract payload, stored ∈ ledger →
        stored.contract? = some contract → contract.investment? = some payload →
        StoredNext events stored → LinkedLotEvent stored t payload →
        ((∃ result t', applyStored catalog ledger stored t = .ok (result, t'))
          ↔ ∃ state', reduceInvestmentEvents
            (loadInvestmentEvents (events ++ [stored])) = .ok state') := by
  intro hAgree
  have hBoth := hAgree sampleLotLedger sampleLotEvents 1 sampleLotTables sampleLotKeys
    (by decide) (by decide) run_sampleLots sampleCatalog
    (sampleLotDisposed 7 12 40) _ _ (by decide)
    (contract_of_sampleDisposed 7 12 40) rfl
    ⟨by decide, by decide, by decide⟩
    ⟨by decide, by decide⟩
  have hReduced : (reduceInvestmentEvents (loadInvestmentEvents
      (sampleLotEvents ++ [sampleLotDisposed 7 12 40]))).isOk = true := by
    decide +kernel
  have hRefused : (applyStored sampleCatalog sampleLotLedger (sampleLotDisposed 7 12 40)
      sampleLotTables).isOk = false := by
    decide +kernel
  cases hState : reduceInvestmentEvents (loadInvestmentEvents
      (sampleLotEvents ++ [sampleLotDisposed 7 12 40])) with
  | error e =>
      rw [hState] at hReduced
      cases hReduced
  | ok state =>
      obtain ⟨result, t', hApply⟩ := hBoth.2 ⟨state, hState⟩
      rw [hApply] at hRefused
      cases hRefused

end TrackAnywhere.Ports
