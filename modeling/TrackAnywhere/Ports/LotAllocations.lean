import TrackAnywhere.Ports.CanonicalJson
import TrackAnywhere.Ports.Events
import TrackAnywhere.Verified.KeyedRows
import Mathlib

/-!
# Lots and their allocation

The domain side of the investment lots: `reduceInvestmentEvents` folds the
acquisitions and disposals of a Book into its lots, and
`selectLotAllocations` chooses the lots of a disposal and freezes their costs.

The dictionary of lots is the list of its values in the order of insertion, each
under its own `lot_id`.
-/

namespace TrackAnywhere.Ports

open TrackAnywhere.Verified.Checked
open TrackAnywhere.Verified.KeyedRows

inductive LotAllocationError
  | lotAllocation (message : String)
  | duplicateLot (message : String)
  | wrongLotPool (message : String)
  | overDisposal (message : String)
  | invalidCostAllocation (message : String)
  | lotNotFound (message : String)
  /-- A contract refuses its fields. -/
  | contract (message : String)
deriving DecidableEq

/-! ## Lots -/

/-- An instrument, and the asset it is settled in. -/
structure LotPool where
  instrumentAssetCode : AssetCode
  settlementAssetCode : AssetCode
deriving DecidableEq

/-- `LotPosition`, with the checks of its constructor. -/
structure LotPosition where
  lotId : UUID
  pool : LotPool
  effectiveAt : Instant
  sourcePosition : Nat
  remainingQuantityUnits : Nat
  remainingCostUnits : Nat
  hPosition : 0 < sourcePosition
  hDeplete : remainingQuantityUnits = 0 ↔ remainingCostUnits = 0

/-- Lots are compared by the columns of their row. -/
def LotPosition.columns (self : LotPosition) :
    UUID × LotPool × Instant × Nat × Nat × Nat :=
  (self.lotId, self.pool, self.effectiveAt, self.sourcePosition,
    self.remainingQuantityUnits, self.remainingCostUnits)

theorem LotPosition.columns_inj {lot lot' : LotPosition} :
    lot.columns = lot'.columns ↔ lot = lot' := by
  cases lot
  cases lot'
  simp [columns]

instance : DecidableEq LotPosition :=
  fun _ _ => decidable_of_iff _ LotPosition.columns_inj

/-- `_fifo_key`. -/
def fifoKey (lot : LotPosition) : Instant ×ₗ Nat ×ₗ UUID :=
  toLex (lot.effectiveAt, toLex (lot.sourcePosition, lot.lotId))

def fifoOrder (lot lot' : LotPosition) : Prop := fifoKey lot ≤ fifoKey lot'

instance : DecidableRel fifoOrder :=
  fun lot lot' => inferInstanceAs (Decidable (fifoKey lot ≤ fifoKey lot'))

instance : Std.Total fifoOrder :=
  ⟨fun lot lot' => le_total (fifoKey lot) (fifoKey lot')⟩

instance : IsTrans LotPosition fifoOrder :=
  ⟨fun _ _ _ h h' => le_trans h h'⟩

/-- `LotState`, with the check of its constructor. -/
structure LotState where
  lots : List LotPosition
  hDistinct : (lots.map LotPosition.lotId).Nodup

/-- `LotState(lots=…)`. -/
def LotState.postInit (lots : List LotPosition) :
    Except LotAllocationError LotState :=
  if h : (lots.map LotPosition.lotId).Nodup then .ok ⟨lots, h⟩
  else .error (.duplicateLot "lot state contains duplicate lot IDs")

def InvestmentLotAcquired.pool (payload : InvestmentLotAcquired) : LotPool :=
  ⟨payload.instrumentAssetCode, payload.settlementAssetCode⟩

def InvestmentLotDisposed.pool (payload : InvestmentLotDisposed) : LotPool :=
  ⟨payload.instrumentAssetCode, payload.settlementAssetCode⟩

/-- A disposal that passed its contract's validator. -/
abbrev DisposedContract :=
  { p : InvestmentLotDisposed // p.validateFinalAllocations = .ok () }

inductive InvestmentPayload
  | acquired (payload : InvestmentLotAcquired)
  | disposed (payload : DisposedContract)

/-- `InvestmentEvent`, with the checks of its constructor. -/
structure InvestmentEvent where
  sourcePosition : Nat
  effectiveAt : Instant
  payload : InvestmentPayload
  hPosition : 0 < sourcePosition

/-! ## The reducer -/

/-- `_require_pool`. -/
def requirePool (lot : LotPosition) (pool : LotPool) :
    Except LotAllocationError Unit :=
  require (lot.pool = pool)
    (.wrongLotPool "lot does not belong to the requested asset pool")

/-- `replace(lot, …)` by the reducer. -/
def LotPosition.dispose (lot : LotPosition) (quantity cost : Nat) :
    Except LotAllocationError LotPosition :=
  if h : lot.remainingQuantityUnits - quantity = 0
      ↔ lot.remainingCostUnits - cost = 0 then
    .ok { lot with
      remainingQuantityUnits := lot.remainingQuantityUnits - quantity
      remainingCostUnits := lot.remainingCostUnits - cost
      hDeplete := h }
  else .error (.invalidCostAllocation
    "stored allocation must deplete quantity and cost together")

/-- The body of the allocation loop. -/
def reduceAllocation (pool : LotPool) (lots : List LotPosition)
    (allocation : LotDisposalAllocation) :
    Except LotAllocationError (List LotPosition) := do
  let lot ← fetch (row? LotPosition.lotId lots allocation.lotId)
    (.lotNotFound "disposal allocation references an unknown lot")
  requirePool lot pool
  require (allocation.quantityUnits.1 ≤ lot.remainingQuantityUnits)
    (.overDisposal "stored allocation exceeds remaining lot quantity")
  require (allocation.costUnits.1 ≤ lot.remainingCostUnits)
    (.invalidCostAllocation "stored allocation exceeds remaining lot cost")
  let lot ← lot.dispose allocation.quantityUnits.1 allocation.costUnits.1
  return updateRow LotPosition.lotId lots allocation.lotId fun _ => lot

/-- The variables of the loop over the events. -/
structure Reduction where
  lots : List LotPosition
  previousPosition : Nat

/-- The lot of an acquisition. -/
def InvestmentLotAcquired.lot (payload : InvestmentLotAcquired)
    (event : InvestmentEvent) : LotPosition where
  lotId := payload.lotId
  pool := payload.pool
  effectiveAt := event.effectiveAt
  sourcePosition := event.sourcePosition
  remainingQuantityUnits := payload.quantityUnits.1
  remainingCostUnits := payload.costUnits.1
  hPosition := event.hPosition
  hDeplete := by
    have hQuantity := payload.quantityUnits.2.1
    have hCost := payload.costUnits.2.1
    omega

/-- The body of the loop over the events. -/
def reduceEvent (r : Reduction) (event : InvestmentEvent) :
    Except LotAllocationError Reduction := do
  require (r.previousPosition < event.sourcePosition)
    (.lotAllocation
      "investment events must have strictly increasing source positions")
  match event.payload with
  | .acquired payload =>
      require (row? LotPosition.lotId r.lots payload.lotId = none)
        (.duplicateLot "investment lot was acquired more than once")
      return ⟨r.lots ++ [payload.lot event], event.sourcePosition⟩
  | .disposed payload =>
      let lots ← payload.1.allocations.foldlM (reduceAllocation payload.1.pool) r.lots
      return ⟨lots, event.sourcePosition⟩

/-- `reduce_investment_events`. -/
def reduceInvestmentEvents (events : List InvestmentEvent) :
    Except LotAllocationError LotState := do
  let r ← events.foldlM reduceEvent ⟨[], 0⟩
  LotState.postInit (r.lots.insertionSort fifoOrder)

/-! ## The selector -/

/-- `SpecificLotRequest`, with the checks of its constructor. -/
structure SpecificLotRequest where
  lotId : UUID
  quantityUnits : Nat
  hQuantity : 0 < quantityUnits

inductive AllocationMethod
  | fifo
  | specificId
deriving DecidableEq

/-- The lots of a pool that are not depleted, first in first. -/
def fifoCandidates (state : LotState) (pool : LotPool) : List LotPosition :=
  (state.lots.filter fun lot =>
    lot.pool = pool ∧ 0 < lot.remainingQuantityUnits).insertionSort fifoOrder

/-- The loop of `_select_fifo`. -/
def takeFifo : List LotPosition → Nat → List (LotPosition × Nat)
  | [], _ => []
  | lot :: rest, remaining =>
      if remaining = 0 then []
      else
        let quantity := min remaining lot.remainingQuantityUnits
        (lot, quantity) :: takeFifo rest (remaining - quantity)

/-- `_select_fifo`. -/
def selectFifo (state : LotState) (pool : LotPool) (quantityUnits : Nat) :
    Except LotAllocationError (List (LotPosition × Nat)) := do
  let candidates := fifoCandidates state pool
  require (quantityUnits ≤ (candidates.map (·.remainingQuantityUnits)).sum)
    (.overDisposal "disposal exceeds available lot quantity")
  return takeFifo candidates quantityUnits

/-- The loop of `_select_specific`. -/
def takeSpecific (state : LotState) (pool : LotPool) :
    List SpecificLotRequest →
      Except LotAllocationError (List (LotPosition × Nat))
  | [] => return []
  | request :: rest => do
      let lot ← fetch (row? LotPosition.lotId state.lots request.lotId)
        (.lotNotFound "Specific ID references an unknown lot")
      requirePool lot pool
      require (request.quantityUnits ≤ lot.remainingQuantityUnits)
        (.overDisposal "Specific ID exceeds remaining lot quantity")
      let selected ← takeSpecific state pool rest
      return (lot, request.quantityUnits) :: selected

/-- `_select_specific`. -/
def selectSpecific (state : LotState) (pool : LotPool) (quantityUnits : Nat)
    (requests : List SpecificLotRequest) :
    Except LotAllocationError (List (LotPosition × Nat)) := do
  require (requests.length ≠ 0)
    (.lotAllocation "Specific ID requires at least one lot request")
  require (requests.map (·.lotId)).Nodup
    (.duplicateLot "Specific ID contains a duplicate lot")
  require ((requests.map (·.quantityUnits)).sum = quantityUnits)
    (.lotAllocation "Specific ID quantities must equal the disposal quantity")
  takeSpecific state pool requests

/-- `_allocated_cost`. -/
def allocatedCost (lot : LotPosition) (quantityUnits : Nat) :
    Except LotAllocationError Nat := do
  require (0 < quantityUnits)
    (.lotAllocation "allocation quantity_units must be a positive integer")
  require (quantityUnits ≤ lot.remainingQuantityUnits)
    (.overDisposal "allocation exceeds remaining lot quantity")
  if quantityUnits = lot.remainingQuantityUnits then
    return lot.remainingCostUnits
  let cost := lot.remainingCostUnits * quantityUnits / lot.remainingQuantityUnits
  require (cost ≠ 0)
    (.invalidCostAllocation "partial allocation rounds to zero cost units")
  return cost

/-- A number of units as a field of a contract. -/
def canonicalUnits (units : Nat) : Except LotAllocationError CanonicalUnits :=
  if h : 0 < units ∧ units < 10 ^ 38 then .ok ⟨units, h⟩
  else .error (.contract "units must be a canonical positive integer")

/-- The name of an allocation under the command that makes it. -/
def allocationName (position : Nat) (lotId : UUID) (quantity cost : Nat) : String :=
  String.ofList (Nat.toDigits 10 position ++ ':' :: lotId.text.toList
    ++ ':' :: Nat.toDigits 10 quantity ++ ':' :: Nat.toDigits 10 cost)

section Selector

variable (uuid5 : UUID → String → UUID) (commandId : UUID)

/-- The body of the loop that freezes the selection. -/
def freezeAllocation (position : Nat) (lot : LotPosition) (quantity : Nat) :
    Except LotAllocationError LotDisposalAllocation := do
  let cost ← allocatedCost lot quantity
  let quantityUnits ← canonicalUnits quantity
  let costUnits ← canonicalUnits cost
  return {
    allocationId := uuid5 commandId (allocationName position lot.lotId quantity cost)
    lotId := lot.lotId
    position := position
    quantityUnits := quantityUnits
    costUnits := costUnits }

/-- The loop that freezes the selection, from a position on. -/
def freezeAllocations : Nat → List (LotPosition × Nat) →
    Except LotAllocationError (List LotDisposalAllocation)
  | _, [] => return []
  | position, selected :: rest => do
      let allocation ← freezeAllocation uuid5 commandId position selected.1 selected.2
      let allocations ← freezeAllocations (position + 1) rest
      return allocation :: allocations

/-- `select_lot_allocations`. -/
def selectLotAllocations (state : LotState) (pool : LotPool) (quantityUnits : Nat)
    (method : AllocationMethod) (specificLots : List SpecificLotRequest) :
    Except LotAllocationError (List LotDisposalAllocation) := do
  require (0 < quantityUnits)
    (.lotAllocation "quantity_units must be a positive integer")
  let selected ← match method with
    | .fifo => do
        require (specificLots.length = 0)
          (.lotAllocation "FIFO does not accept specific lot requests")
        selectFifo state pool quantityUnits
    | .specificId => selectSpecific state pool quantityUnits specificLots
  freezeAllocations uuid5 commandId 0 selected

end Selector

/-- What `_build_dispose_plan` takes of its command. -/
structure DisposeLot where
  transactionId : UUID
  pool : LotPool
  quantityUnits : CanonicalUnits
  proceedsUnits : CanonicalUnits
  feeUnits : Option CanonicalUnits

/-- The payload that `_build_dispose_plan` builds of its allocations. -/
def DisposeLot.payload (command : DisposeLot)
    (allocations : List LotDisposalAllocation) :
    Except LotAllocationError DisposedContract := do
  let costBasisUnits ← canonicalUnits ((allocations.map (·.costUnits.1)).sum)
  let payload : InvestmentLotDisposed :=
    { transactionId := command.transactionId
      instrumentAssetCode := command.pool.instrumentAssetCode
      settlementAssetCode := command.pool.settlementAssetCode
      quantityUnits := command.quantityUnits
      proceedsUnits := command.proceedsUnits
      costBasisUnits := costBasisUnits
      feeUnits := command.feeUnits
      allocations := allocations }
  match h : payload.validateFinalAllocations with
  | .ok () => return ⟨payload, h⟩
  | .error message => .error (.contract message)

end TrackAnywhere.Ports
