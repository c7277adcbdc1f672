import TrackAnywhere.Ports.CanonicalReading
import TrackAnywhere.Ports.LotAllocations
import TrackAnywhere.Ports.SyncEffects

/-!
# Lot disposals

What `selectLotAllocations` selects, `reduceInvestmentEvents` accepts, in every
state that acquisitions and disposals reach.  Costs are rounded down, and a lot
that is not depleted keeps at least one unit of its cost: the quantity and the
cost of a lot reach zero together, and nothing is lost in between.
-/

namespace TrackAnywhere.Ports

open TrackAnywhere.Verified
open TrackAnywhere.Verified.Checked
open TrackAnywhere.Verified.KeyedRows
open TrackAnywhere.Verified.UniqueReading

/-! ## Quantities and costs -/

inductive LotMeasure
  | quantity
  | cost

def LotPosition.remaining (lot : LotPosition) : LotMeasure → Nat
  | .quantity => lot.remainingQuantityUnits
  | .cost => lot.remainingCostUnits

def LotDisposalAllocation.units (allocation : LotDisposalAllocation) :
    LotMeasure → Nat
  | .quantity => allocation.quantityUnits.1
  | .cost => allocation.costUnits.1

def InvestmentLotAcquired.units (payload : InvestmentLotAcquired) : LotMeasure → Nat
  | .quantity => payload.quantityUnits.1
  | .cost => payload.costUnits.1

/-- What the lots of a pool hold. -/
def poolRemaining (m : LotMeasure) (pool : LotPool) (lots : List LotPosition) : Nat :=
  (lots.map fun lot => if lot.pool = pool then lot.remaining m else 0).sum

def InvestmentEvent.acquired (m : LotMeasure) (pool : LotPool)
    (event : InvestmentEvent) : Nat :=
  match event.payload with
  | .acquired payload => if payload.pool = pool then payload.units m else 0
  | .disposed _ => 0

def InvestmentEvent.allocated (m : LotMeasure) (pool : LotPool)
    (event : InvestmentEvent) : Nat :=
  match event.payload with
  | .acquired _ => 0
  | .disposed payload =>
      if payload.1.pool = pool then (payload.1.allocations.map (·.units m)).sum else 0

/-- The allocation can be taken from the lot. -/
structure Fits (pool : LotPool) (lot : LotPosition)
    (allocation : LotDisposalAllocation) : Prop where
  pool : lot.pool = pool
  units : ∀ m, allocation.units m ≤ lot.remaining m
  deplete : lot.remainingQuantityUnits - allocation.quantityUnits.1 = 0
    ↔ lot.remainingCostUnits - allocation.costUnits.1 = 0

/-! ## One allocation -/

section Allocation

variable {pool : LotPool} {lots lots' : List LotPosition}
  {allocation : LotDisposalAllocation}

/-- The lot without the allocation. -/
def LotPosition.without (lot : LotPosition) (allocation : LotDisposalAllocation)
    (h : Fits pool lot allocation) : LotPosition :=
  { lot with
    remainingQuantityUnits := lot.remainingQuantityUnits - allocation.quantityUnits.1
    remainingCostUnits := lot.remainingCostUnits - allocation.costUnits.1
    hDeplete := h.deplete }

theorem remaining_without {lot : LotPosition} (h : Fits pool lot allocation)
    (m : LotMeasure) :
    (lot.without allocation h).remaining m + allocation.units m = lot.remaining m := by
  have hUnits := h.units m
  cases m
  · exact Nat.sub_add_cancel hUnits
  · exact Nat.sub_add_cancel hUnits

/-- An allocation is accepted exactly when it fits its lot, which it changes. -/
theorem reduceAllocation_eq_ok :
    reduceAllocation pool lots allocation = .ok lots' ↔
      ∃ lot, row? LotPosition.lotId lots allocation.lotId = some lot
        ∧ ∃ h : Fits pool lot allocation,
          lots' = updateRow LotPosition.lotId lots allocation.lotId
            fun _ => lot.without allocation h := by
  simp only [reduceAllocation, requirePool, LotPosition.dispose, bind_eq_ok,
    fetch_eq_ok, require_eq_ok, pure_eq_ok, exists_const]
  constructor
  · rintro ⟨lot, hRow, hPool, hQuantity, hCost, replaced, hDispose, rfl⟩
    split_ifs at hDispose with hDeplete
    · cases hDispose
      refine ⟨lot, hRow, ⟨hPool, ?_, hDeplete⟩, rfl⟩
      intro m
      cases m
      · exact hQuantity
      · exact hCost
  · rintro ⟨lot, hRow, h, rfl⟩
    exact ⟨lot, hRow, h.pool, h.units .quantity, h.units .cost, _,
      dif_pos h.deplete, rfl⟩

variable (h : reduceAllocation pool lots allocation = .ok lots')
include h

theorem keys_reduceAllocation :
    lots'.map LotPosition.lotId = lots.map LotPosition.lotId := by
  obtain ⟨lot, hRow, hFits, rfl⟩ := reduceAllocation_eq_ok.1 h
  have hKey : lot.lotId = allocation.lotId := key_of_row? hRow
  exact keys_updateRow fun _ _ => hKey

/-- Other lots stay as they are. -/
theorem row?_reduceAllocation {lotId : UUID} (hNe : lotId ≠ allocation.lotId) :
    row? LotPosition.lotId lots' lotId = row? LotPosition.lotId lots lotId := by
  obtain ⟨lot, hRow, hFits, rfl⟩ := reduceAllocation_eq_ok.1 h
  have hKey : ∀ r : LotPosition, r.lotId = allocation.lotId →
      (lot.without allocation hFits).lotId = allocation.lotId := by
    intro _ _
    have hLot : lot.lotId = allocation.lotId := key_of_row? hRow
    exact hLot
  rw [row?_updateRow hKey, if_neg hNe]

/-- The pool of the allocation loses its units. -/
theorem poolRemaining_reduceAllocation (hKeys : (lots.map LotPosition.lotId).Nodup)
    (m : LotMeasure) (other : LotPool) :
    poolRemaining m other lots'
        + (if pool = other then allocation.units m else 0)
      = poolRemaining m other lots := by
  obtain ⟨lot, hRow, hFits, rfl⟩ := reduceAllocation_eq_ok.1 h
  have hSum := sum_updateRow (f := fun _ => lot.without allocation hFits)
    (fun r => if r.pool = other then r.remaining m else 0) hKeys hRow
  have hRemaining := remaining_without hFits m
  have hPool : (lot.without allocation hFits).pool = lot.pool := rfl
  rw [hPool, hFits.pool] at hSum
  unfold poolRemaining
  split_ifs at hSum ⊢ <;> omega

end Allocation

/-! ## One event -/

section Event

variable {pool : LotPool} {lots lots' : List LotPosition}
  {allocations : List LotDisposalAllocation}

theorem reduceAllocations_keys
    (h : allocations.foldlM (reduceAllocation pool) lots = .ok lots') :
    lots'.map LotPosition.lotId = lots.map LotPosition.lotId := by
  induction allocations generalizing lots with
  | nil =>
      cases h
      rfl
  | cons allocation rest ih =>
      obtain ⟨next, hNext, hRest⟩ := bind_eq_ok.1 h
      rw [ih hRest, keys_reduceAllocation hNext]

theorem reduceAllocations_others {lotId : UUID}
    (h : allocations.foldlM (reduceAllocation pool) lots = .ok lots')
    (hOthers : lotId ∉ allocations.map (·.lotId)) :
    row? LotPosition.lotId lots' lotId = row? LotPosition.lotId lots lotId := by
  induction allocations generalizing lots with
  | nil =>
      cases h
      rfl
  | cons allocation rest ih =>
      obtain ⟨next, hNext, hRest⟩ := bind_eq_ok.1 h
      rw [List.map_cons, List.mem_cons, not_or] at hOthers
      rw [ih hRest hOthers.2, row?_reduceAllocation hNext hOthers.1]

theorem poolRemaining_reduceAllocations (hKeys : (lots.map LotPosition.lotId).Nodup)
    (h : allocations.foldlM (reduceAllocation pool) lots = .ok lots')
    (m : LotMeasure) (other : LotPool) :
    poolRemaining m other lots'
        + (if pool = other then (allocations.map (·.units m)).sum else 0)
      = poolRemaining m other lots := by
  induction allocations generalizing lots with
  | nil =>
      cases h
      simp
  | cons allocation rest ih =>
      obtain ⟨next, hNext, hRest⟩ := bind_eq_ok.1 h
      have hFirst := poolRemaining_reduceAllocation hNext hKeys m other
      have hLater := ih (keys_reduceAllocation hNext ▸ hKeys) hRest
      rw [List.map_cons, List.sum_cons]
      split_ifs at hFirst hLater ⊢ <;> omega

/-- Allocations of different lots are accepted when each fits its lot. -/
theorem reduceAllocations_accepts
    (hDistinct : (allocations.map (·.lotId)).Nodup)
    (hFits : ∀ allocation ∈ allocations, ∃ lot,
      row? LotPosition.lotId lots allocation.lotId = some lot
        ∧ Fits pool lot allocation) :
    ∃ lots', allocations.foldlM (reduceAllocation pool) lots = .ok lots' := by
  induction allocations generalizing lots with
  | nil => exact ⟨lots, rfl⟩
  | cons allocation rest ih =>
      rw [List.map_cons, List.nodup_cons] at hDistinct
      obtain ⟨lot, hRow, hFit⟩ := hFits allocation List.mem_cons_self
      have hNext := reduceAllocation_eq_ok.2 ⟨lot, hRow, hFit, rfl⟩
      obtain ⟨lots', hRest⟩ := ih hDistinct.2 (by
        intro other hOther
        obtain ⟨lot', hRow', hFit'⟩ := hFits other (List.mem_cons_of_mem _ hOther)
        have hNe : other.lotId ≠ allocation.lotId := by
          intro hSame
          exact hDistinct.1 (hSame ▸ List.mem_map.2 ⟨other, hOther, rfl⟩)
        exact ⟨lot', (row?_reduceAllocation hNext hNe).trans hRow', hFit'⟩)
      exact ⟨lots', bind_eq_ok.2 ⟨_, hNext, hRest⟩⟩

variable {r r' : Reduction} {event : InvestmentEvent}

/-- What an event does to the lots. -/
theorem reduceEvent_eq_ok (h : reduceEvent r event = .ok r') :
    r.previousPosition < event.sourcePosition
      ∧ r'.previousPosition = event.sourcePosition
      ∧ match event.payload with
        | .acquired payload => row? LotPosition.lotId r.lots payload.lotId = none
            ∧ r'.lots = r.lots ++ [payload.lot event]
        | .disposed payload => payload.1.allocations.foldlM
            (reduceAllocation payload.1.pool) r.lots = .ok r'.lots := by
  unfold reduceEvent at h
  obtain ⟨_, hOrder, h⟩ := bind_eq_ok.1 h
  refine ⟨require_eq_ok.1 hOrder, ?_⟩
  cases hPayload : event.payload with
  | acquired payload =>
      rw [hPayload] at h
      simp only [bind_eq_ok, require_eq_ok, pure_eq_ok, exists_const] at h
      obtain ⟨hNew, rfl⟩ := h
      exact ⟨rfl, hNew, rfl⟩
  | disposed payload =>
      rw [hPayload] at h
      simp only [bind_eq_ok, pure_eq_ok] at h
      obtain ⟨lots, hLots, rfl⟩ := h
      exact ⟨rfl, hLots⟩

theorem reduceEvent_acquired {payload : InvestmentLotAcquired}
    (hPayload : event.payload = .acquired payload)
    (hOrder : r.previousPosition < event.sourcePosition)
    (hNew : row? LotPosition.lotId r.lots payload.lotId = none) :
    reduceEvent r event
      = .ok ⟨r.lots ++ [payload.lot event], event.sourcePosition⟩ := by
  unfold reduceEvent
  rw [hPayload]
  simp only [bind_eq_ok, require_eq_ok, pure_eq_ok, exists_const]
  exact ⟨hOrder, hNew, trivial⟩

theorem reduceEvent_disposed {payload : DisposedContract}
    (hPayload : event.payload = .disposed payload)
    (hOrder : r.previousPosition < event.sourcePosition)
    (hLots : payload.1.allocations.foldlM (reduceAllocation payload.1.pool) r.lots
      = .ok lots') :
    reduceEvent r event = .ok ⟨lots', event.sourcePosition⟩ := by
  unfold reduceEvent
  rw [hPayload]
  simp only [bind_eq_ok, require_eq_ok, pure_eq_ok, exists_const]
  exact ⟨hOrder, lots', hLots, rfl⟩

theorem reduceEvent_keys (hKeys : (r.lots.map LotPosition.lotId).Nodup)
    (h : reduceEvent r event = .ok r') : (r'.lots.map LotPosition.lotId).Nodup := by
  obtain ⟨-, -, hLots⟩ := reduceEvent_eq_ok h
  cases hPayload : event.payload with
  | acquired payload =>
      rw [hPayload] at hLots
      rw [hLots.2, List.map_append, List.map_singleton]
      exact List.nodup_append.2 ⟨hKeys, List.nodup_singleton _, by
        rintro lotId hMem _ hNew rfl
        obtain rfl : lotId = payload.lotId := List.mem_singleton.1 hNew
        exact row?_eq_none.1 hLots.1 hMem⟩
  | disposed payload =>
      rw [hPayload] at hLots
      rw [reduceAllocations_keys hLots]
      exact hKeys

/-- An event moves a pool by what it acquires and allocates. -/
theorem poolRemaining_reduceEvent (hKeys : (r.lots.map LotPosition.lotId).Nodup)
    (h : reduceEvent r event = .ok r') (m : LotMeasure) (pool : LotPool) :
    poolRemaining m pool r'.lots + event.allocated m pool
      = poolRemaining m pool r.lots + event.acquired m pool := by
  obtain ⟨-, -, hLots⟩ := reduceEvent_eq_ok h
  unfold InvestmentEvent.allocated InvestmentEvent.acquired
  cases hPayload : event.payload with
  | acquired payload =>
      rw [hPayload] at hLots
      have hLot : (payload.lot event).remaining m = payload.units m := by
        cases m <;> rfl
      rw [hLots.2]
      unfold poolRemaining
      rw [List.map_append, List.sum_append, List.map_singleton, List.sum_singleton,
        hLot]
      rfl
  | disposed payload =>
      rw [hPayload] at hLots
      exact poolRemaining_reduceAllocations hKeys hLots m pool

end Event

/-! ## Runs -/

section Runs

variable {events : List InvestmentEvent} {state : LotState} {r r' : Reduction}

theorem reduceEvents_keys (hKeys : (r.lots.map LotPosition.lotId).Nodup)
    (h : events.foldlM reduceEvent r = .ok r') : (r'.lots.map LotPosition.lotId).Nodup := by
  induction events generalizing r with
  | nil =>
      cases h
      exact hKeys
  | cons event rest ih =>
      obtain ⟨next, hNext, hRest⟩ := bind_eq_ok.1 h
      exact ih (reduceEvent_keys hKeys hNext) hRest

theorem poolRemaining_reduceEvents (hKeys : (r.lots.map LotPosition.lotId).Nodup)
    (h : events.foldlM reduceEvent r = .ok r') (m : LotMeasure) (pool : LotPool) :
    poolRemaining m pool r'.lots + (events.map (·.allocated m pool)).sum
      = poolRemaining m pool r.lots + (events.map (·.acquired m pool)).sum := by
  induction events generalizing r with
  | nil =>
      cases h
      rfl
  | cons event rest ih =>
      obtain ⟨next, hNext, hRest⟩ := bind_eq_ok.1 h
      have hFirst := poolRemaining_reduceEvent hKeys hNext m pool
      have hLater := ih (reduceEvent_keys hKeys hNext) hRest
      simp only [List.map_cons, List.sum_cons]
      omega

theorem poolRemaining_perm {lots lots' : List LotPosition} (h : lots.Perm lots')
    (m : LotMeasure) (pool : LotPool) :
    poolRemaining m pool lots = poolRemaining m pool lots' :=
  (h.map _).sum_eq

/-- The state is that of the loop, in the order of the keys. -/
theorem reduceInvestmentEvents_eq_ok :
    reduceInvestmentEvents events = .ok state ↔
      ∃ r, events.foldlM reduceEvent ⟨[], 0⟩ = .ok r
        ∧ state.lots = r.lots.insertionSort fifoOrder := by
  unfold reduceInvestmentEvents LotState.postInit
  simp only [bind_eq_ok]
  constructor
  · rintro ⟨r, hLoop, hState⟩
    split_ifs at hState
    · cases hState
      exact ⟨r, hLoop, rfl⟩
  · rintro ⟨r, hLoop, hLots⟩
    refine ⟨r, hLoop, ?_⟩
    have hKeys : ((r.lots.insertionSort fifoOrder).map LotPosition.lotId).Nodup :=
      hLots ▸ state.hDistinct
    rw [dif_pos hKeys]
    cases state
    cases hLots
    rfl

theorem reduceInvestmentEvents_accepts (hLoop : events.foldlM reduceEvent ⟨[], 0⟩ = .ok r) :
    ∃ state, reduceInvestmentEvents events = .ok state := by
  have hKeys : (r.lots.map LotPosition.lotId).Nodup :=
    reduceEvents_keys (r := ⟨[], 0⟩) List.nodup_nil hLoop
  have hSorted : ((r.lots.insertionSort fifoOrder).map LotPosition.lotId).Nodup :=
    ((List.perm_insertionSort fifoOrder r.lots).map _).nodup_iff.2 hKeys
  exact ⟨⟨_, hSorted⟩, reduceInvestmentEvents_eq_ok.2 ⟨r, hLoop, rfl⟩⟩

/-- What a pool acquired is what was allocated and what remains. -/
theorem conserved_of_reduce (h : reduceInvestmentEvents events = .ok state)
    (m : LotMeasure) (pool : LotPool) :
    (events.map (·.acquired m pool)).sum
      = (events.map (·.allocated m pool)).sum + poolRemaining m pool state.lots := by
  obtain ⟨r, hLoop, hLots⟩ := reduceInvestmentEvents_eq_ok.1 h
  have hRun := poolRemaining_reduceEvents (r := ⟨[], 0⟩) List.nodup_nil hLoop m pool
  have hPerm := poolRemaining_perm (List.perm_insertionSort fifoOrder r.lots) m pool
  have hEmpty : poolRemaining m pool [] = 0 := rfl
  rw [hEmpty] at hRun
  rw [hLots, hPerm]
  omega

end Runs

/-! ## What is selected -/

/-- Whole lots from the front, then at most a part of the next. -/
def FifoPrefix (candidates : List LotPosition) (taken : List (LotPosition × Nat)) :
    Prop :=
  ∃ whole rest, candidates = whole ++ rest
    ∧ (taken = whole.map (fun lot => (lot, lot.remainingQuantityUnits))
      ∨ ∃ lot later part, rest = lot :: later ∧ 0 < part
        ∧ part < lot.remainingQuantityUnits
        ∧ taken = whole.map (fun lot => (lot, lot.remainingQuantityUnits))
          ++ [(lot, part)])

/-- What the freezing of a selection relies on. -/
structure Selects (state : LotState) (pool : LotPool) (quantity : Nat)
    (selected : List (LotPosition × Nat)) : Prop where
  rows : ∀ s ∈ selected, s.1 ∈ state.lots ∧ s.1.pool = pool
  distinct : (selected.map (·.1.lotId)).Nodup
  total : (selected.map (·.2)).sum = quantity

section Selection

variable {state : LotState} {pool : LotPool} {candidates : List LotPosition}

@[simp] theorem takeFifo_zero : takeFifo candidates 0 = [] := by
  cases candidates <;> rfl

/-- First in, first out. -/
theorem takeFifo_prefix (hOpen : ∀ lot ∈ candidates, 0 < lot.remainingQuantityUnits)
    (quantity : Nat) : FifoPrefix candidates (takeFifo candidates quantity) := by
  induction candidates generalizing quantity with
  | nil => exact ⟨[], [], rfl, .inl rfl⟩
  | cons lot rest ih =>
      unfold takeFifo
      split_ifs with hZero
      · exact ⟨[], lot :: rest, rfl, .inl rfl⟩
      rcases Nat.lt_or_ge quantity lot.remainingQuantityUnits with hPart | hWhole
      · -- a part of this lot, and nothing after it
        have hMin : min quantity lot.remainingQuantityUnits = quantity :=
          min_eq_left hPart.le
        simp only [hMin, Nat.sub_self, takeFifo_zero]
        exact ⟨[], lot :: rest, rfl, .inr ⟨lot, rest, quantity, rfl,
          Nat.pos_of_ne_zero hZero, hPart, rfl⟩⟩
      · have hMin : min quantity lot.remainingQuantityUnits
            = lot.remainingQuantityUnits := min_eq_right hWhole
        simp only [hMin]
        obtain ⟨whole, later, hSplit, hTaken⟩ :=
          ih (fun other hOther => hOpen other (List.mem_cons_of_mem _ hOther))
            (quantity - lot.remainingQuantityUnits)
        refine ⟨lot :: whole, later, by rw [hSplit]; rfl, ?_⟩
        rcases hTaken with hTaken | ⟨part, after, units, hLater, hPos, hLt, hTaken⟩
        · exact .inl (by rw [hTaken]; rfl)
        · exact .inr ⟨part, after, units, hLater, hPos, hLt, by rw [hTaken]; rfl⟩

theorem takeFifo_lots (quantity : Nat) :
    (takeFifo candidates quantity).map (·.1) <+: candidates := by
  induction candidates generalizing quantity with
  | nil => exact List.prefix_rfl
  | cons lot rest ih =>
      unfold takeFifo
      split_ifs with hZero
      · exact List.nil_prefix
      · exact List.cons_prefix_cons.2 ⟨rfl, ih _⟩

theorem takeFifo_total {quantity : Nat}
    (h : quantity ≤ (candidates.map (·.remainingQuantityUnits)).sum) :
    ((takeFifo candidates quantity).map (·.2)).sum = quantity := by
  induction candidates generalizing quantity with
  | nil => exact (Nat.le_zero.1 h).symm
  | cons lot rest ih =>
      rw [List.map_cons, List.sum_cons] at h
      unfold takeFifo
      split_ifs with hZero
      · exact hZero.symm
      · have hRest := @ih (quantity - min quantity lot.remainingQuantityUnits) (by omega)
        simp only [List.map_cons, List.sum_cons, hRest]
        omega

theorem mem_fifoCandidates {lot : LotPosition} :
    lot ∈ fifoCandidates state pool ↔ lot ∈ state.lots ∧ lot.pool = pool
      ∧ 0 < lot.remainingQuantityUnits := by
  unfold fifoCandidates
  rw [List.mem_insertionSort, List.mem_filter, decide_eq_true_eq]

theorem selectFifo_selects {quantity : Nat} {selected : List (LotPosition × Nat)}
    (h : selectFifo state pool quantity = .ok selected) :
    Selects state pool quantity selected
      ∧ FifoPrefix (fifoCandidates state pool) selected := by
  simp only [selectFifo, bind_eq_ok, require_eq_ok, pure_eq_ok, exists_const] at h
  obtain ⟨hEnough, rfl⟩ := h
  have hPrefix : (takeFifo (fifoCandidates state pool) quantity).map (·.1)
      <+: fifoCandidates state pool := takeFifo_lots quantity
  refine ⟨⟨?_, ?_, takeFifo_total hEnough⟩, takeFifo_prefix
    (fun lot hLot => (mem_fifoCandidates.1 hLot).2.2) quantity⟩
  · intro s hs
    obtain ⟨hMem, hPool, -⟩ := mem_fifoCandidates.1
      (hPrefix.subset (List.mem_map.2 ⟨s, hs, rfl⟩))
    exact ⟨hMem, hPool⟩
  · have hKeys : ((fifoCandidates state pool).map LotPosition.lotId).Nodup :=
      (((List.perm_insertionSort fifoOrder _).map _).nodup_iff).2
        (state.hDistinct.sublist (List.filter_sublist.map _))
    have hTaken := hKeys.sublist (hPrefix.sublist.map LotPosition.lotId)
    rwa [List.map_map] at hTaken

theorem takeSpecific_ok {requests : List SpecificLotRequest}
    {selected : List (LotPosition × Nat)}
    (h : takeSpecific state pool requests = .ok selected) :
    (∀ s ∈ selected, s.1 ∈ state.lots ∧ s.1.pool = pool)
      ∧ selected.map (·.1.lotId) = requests.map (·.lotId)
      ∧ selected.map (·.2) = requests.map (·.quantityUnits) := by
  induction requests generalizing selected with
  | nil =>
      cases h
      exact ⟨fun _ h => (List.not_mem_nil h).elim, rfl, rfl⟩
  | cons request rest ih =>
      simp only [takeSpecific, requirePool, bind_eq_ok, fetch_eq_ok, require_eq_ok,
        pure_eq_ok, exists_const] at h
      obtain ⟨lot, hRow, hPool, -, later, hLater, rfl⟩ := h
      obtain ⟨hRows, hLots, hUnits⟩ := ih hLater
      have hKey : lot.lotId = request.lotId := key_of_row? hRow
      refine ⟨?_, ?_, ?_⟩
      · intro s hs
        rcases List.mem_cons.1 hs with rfl | hs
        · exact ⟨mem_of_row? hRow, hPool⟩
        · exact hRows s hs
      · rw [List.map_cons, List.map_cons, hLots, hKey]
      · rw [List.map_cons, List.map_cons, hUnits]

theorem selectSpecific_selects {quantity : Nat} {requests : List SpecificLotRequest}
    {selected : List (LotPosition × Nat)}
    (h : selectSpecific state pool quantity requests = .ok selected) :
    Selects state pool quantity selected := by
  simp only [selectSpecific, bind_eq_ok, require_eq_ok, exists_const] at h
  obtain ⟨-, hDistinct, hTotal, hTaken⟩ := h
  obtain ⟨hRows, hLots, hUnits⟩ := takeSpecific_ok hTaken
  exact ⟨hRows, by rw [hLots]; exact hDistinct, by rw [hUnits]; exact hTotal⟩

/-! ## What is frozen -/

/-- The cost of a part of a lot leaves a cost for the rest of it. -/
theorem allocatedCost_ok {lot : LotPosition} {quantity cost : Nat}
    (h : allocatedCost lot quantity = .ok cost) :
    quantity ≤ lot.remainingQuantityUnits ∧ cost ≤ lot.remainingCostUnits
      ∧ (lot.remainingQuantityUnits - quantity = 0
        ↔ lot.remainingCostUnits - cost = 0) := by
  unfold allocatedCost at h
  simp only [bind_eq_ok, require_eq_ok, exists_const] at h
  obtain ⟨hPos, hLe, h⟩ := h
  refine ⟨hLe, ?_⟩
  split_ifs at h with hAll
  · cases h
    omega
  · simp only [bind_eq_ok, require_eq_ok, pure_eq_ok, exists_const] at h
    obtain ⟨hCost, rfl⟩ := h
    have hDeplete := lot.hDeplete
    have hLt : lot.remainingCostUnits * quantity / lot.remainingQuantityUnits
        < lot.remainingCostUnits := by
      refine Nat.div_lt_of_lt_mul ?_
      rw [Nat.mul_comm lot.remainingQuantityUnits]
      exact Nat.mul_lt_mul_of_pos_left (by omega) (by omega)
    omega

/-- The name under which an allocation is identified. -/
def LotDisposalAllocation.name (allocation : LotDisposalAllocation) : String :=
  allocationName allocation.position allocation.lotId allocation.quantityUnits.1
    allocation.costUnits.1

variable {uuid5 : UUID → String → UUID} {commandId : UUID}

/-- One allocation of the selection. -/
structure Freezes (uuid5 : UUID → String → UUID) (commandId : UUID)
    (s : LotPosition × Nat) (allocation : LotDisposalAllocation) : Prop where
  lotId : allocation.lotId = s.1.lotId
  quantity : allocation.quantityUnits.1 = s.2
  fits : Fits s.1.pool s.1 allocation
  id : allocation.allocationId = uuid5 commandId allocation.name

theorem freezeAllocations_ok {selected : List (LotPosition × Nat)} {position : Nat}
    {allocations : List LotDisposalAllocation}
    (h : freezeAllocations uuid5 commandId position selected = .ok allocations) :
    List.Forall₂ (Freezes uuid5 commandId) selected allocations
      ∧ allocations.map (·.position) = List.range' position allocations.length := by
  induction selected generalizing position allocations with
  | nil =>
      cases h
      exact ⟨.nil, rfl⟩
  | cons s rest ih =>
      simp only [freezeAllocations, freezeAllocation, canonicalUnits, bind_eq_ok,
        pure_eq_ok] at h
      obtain ⟨allocation, ⟨cost, hCost, quantityUnits, hQuantity, costUnits, hUnits,
        rfl⟩, later, hLater, rfl⟩ := h
      obtain ⟨hForall, hPositions⟩ := ih hLater
      split_ifs at hQuantity hUnits with hQ hC
      cases hQuantity
      cases hUnits
      obtain ⟨hLe, hCostLe, hDeplete⟩ := allocatedCost_ok hCost
      refine ⟨.cons ⟨rfl, rfl, ⟨rfl, ?_, hDeplete⟩, rfl⟩ hForall, ?_⟩
      · intro m
        cases m
        · exact hLe
        · exact hCostLe
      · rw [List.map_cons, hPositions]
        rfl

/-- Names begin with the position. -/
theorem position_of_name {a b : LotDisposalAllocation} (h : a.name = b.name) :
    a.position = b.position := by
  have hColon : ∀ n : Nat, ':' ∉ Nat.toDigits 10 n := by
    intro n hMem
    rcases isNumeral_of_toDigits hMem with hDigit | hMinus
    · exact absurd hDigit (by decide)
    · exact absurd hMinus (by decide)
  have hChars := String.ofList_injective h
  simp only [List.append_assoc, List.cons_append] at hChars
  exact toDigits_injective (append_inj_of_stop (hColon _) (hColon _) hChars).1

end Selection

/-! ## The disposal -/

section Disposal

variable {uuid5 : UUID → String → UUID} {commandId : UUID} {state : LotState}
  {method : AllocationMethod} {specificLots : List SpecificLotRequest}
  {allocations : List LotDisposalAllocation} {pool : LotPool}

/-- The identifiers of the allocations do not collide. -/
def NamesApart (uuid5 : UUID → String → UUID) (commandId : UUID)
    (allocations : List LotDisposalAllocation) : Prop :=
  ∀ a ∈ allocations, ∀ b ∈ allocations,
    uuid5 commandId a.name = uuid5 commandId b.name → a.name = b.name

/-- What a selection is made of. -/
theorem selectLotAllocations_ok {quantity : Nat}
    (h : selectLotAllocations uuid5 commandId state pool quantity method specificLots
      = .ok allocations) :
    0 < quantity ∧ ∃ selected, Selects state pool quantity selected
      ∧ List.Forall₂ (Freezes uuid5 commandId) selected allocations
      ∧ allocations.map (·.position) = List.range allocations.length
      ∧ (method = .fifo → FifoPrefix (fifoCandidates state pool) selected) := by
  unfold selectLotAllocations at h
  obtain ⟨_, hPos, h⟩ := bind_eq_ok.1 h
  refine ⟨require_eq_ok.1 hPos, ?_⟩
  have hFrozen : ∀ {selected}, freezeAllocations uuid5 commandId 0 selected
      = .ok allocations → List.Forall₂ (Freezes uuid5 commandId) selected allocations
        ∧ allocations.map (·.position) = List.range allocations.length := by
    intro selected hFrozen
    rw [List.range_eq_range']
    exact freezeAllocations_ok hFrozen
  cases method with
  | fifo =>
      simp only [bind_eq_ok, require_eq_ok, exists_const] at h
      obtain ⟨-, selected, hSelected, h⟩ := h
      obtain ⟨hSelects, hPrefix⟩ := selectFifo_selects hSelected
      exact ⟨selected, hSelects, (hFrozen h).1, (hFrozen h).2, fun _ => hPrefix⟩
  | specificId =>
      simp only [bind_eq_ok] at h
      obtain ⟨selected, hSelected, h⟩ := h
      exact ⟨selected, selectSpecific_selects hSelected, (hFrozen h).1, (hFrozen h).2,
        fun hFifo => by cases hFifo⟩

theorem lotIds_of_freezes {selected : List (LotPosition × Nat)}
    (h : List.Forall₂ (Freezes uuid5 commandId) selected allocations) :
    allocations.map (·.lotId) = selected.map (·.1.lotId) := by
  induction h with
  | nil => rfl
  | cons hHead _ ih => rw [List.map_cons, List.map_cons, ih, hHead.lotId]

theorem quantities_of_freezes {selected : List (LotPosition × Nat)}
    (h : List.Forall₂ (Freezes uuid5 commandId) selected allocations) :
    allocations.map (·.quantityUnits.1) = selected.map (·.2) := by
  induction h with
  | nil => rfl
  | cons hHead _ ih => rw [List.map_cons, List.map_cons, ih, hHead.quantity]

theorem freezes_of_mem {selected : List (LotPosition × Nat)}
    (h : List.Forall₂ (Freezes uuid5 commandId) selected allocations) :
    ∀ a ∈ allocations, ∃ s ∈ selected, Freezes uuid5 commandId s a := by
  induction h with
  | nil => exact fun _ h => (List.not_mem_nil h).elim
  | @cons s a _ _ hHead _ ih =>
      intro b hb
      rcases List.mem_cons.1 hb with rfl | hb
      · exact ⟨s, List.mem_cons_self, hHead⟩
      · obtain ⟨s', hs', hFreezes⟩ := ih b hb
        exact ⟨s', List.mem_cons_of_mem _ hs', hFreezes⟩

/-- The payload of a disposal passes its contract. -/
theorem payload_of_selects {command : DisposeLot}
    {selected : List (LotPosition × Nat)}
    (hSelects : Selects state command.pool command.quantityUnits.1 selected)
    (hFreezes : List.Forall₂ (Freezes uuid5 commandId) selected allocations)
    (hPositions : allocations.map (·.position) = List.range allocations.length)
    (hNames : NamesApart uuid5 commandId allocations)
    (hCost : (allocations.map (·.costUnits.1)).sum < 10 ^ 38) :
    ∃ payload, command.payload allocations = .ok payload
      ∧ payload.1.allocations = allocations ∧ payload.1.pool = command.pool
      ∧ payload.1.quantityUnits = command.quantityUnits
      ∧ payload.1.costBasisUnits.1 = (allocations.map (·.costUnits.1)).sum := by
  have hTotal : (allocations.map (·.quantityUnits.1)).sum
      = command.quantityUnits.1 := by
    rw [quantities_of_freezes hFreezes, hSelects.total]
  have hSome : 1 ≤ allocations.length := by
    have hPos := command.quantityUnits.2.1
    cases allocations with
    | nil => exact absurd hTotal.symm hPos.ne'
    | cons a rest => exact Nat.succ_le_succ (Nat.zero_le _)
  have hBasis : 0 < (allocations.map (·.costUnits.1)).sum := by
    cases allocations with
    | nil => exact absurd hSome (by simp)
    | cons a rest =>
        have hPos := a.costUnits.2.1
        rw [List.map_cons, List.sum_cons]
        omega
  have hIds : (allocations.map (·.allocationId)).Nodup := by
    have hNodup : (allocations.map (·.position)).Nodup :=
      hPositions ▸ List.nodup_range
    rw [List.Nodup, List.pairwise_map] at hNodup ⊢
    refine hNodup.imp_of_mem fun {a b} ha hb hNe hSame => hNe ?_
    obtain ⟨s, -, hA⟩ := freezes_of_mem hFreezes a ha
    obtain ⟨s', -, hB⟩ := freezes_of_mem hFreezes b hb
    rw [hA.id, hB.id] at hSame
    exact position_of_name (hNames a ha b hb hSame)
  have hLots : (allocations.map (·.lotId)).Nodup := by
    rw [lotIds_of_freezes hFreezes]
    exact hSelects.distinct
  have hValid : (⟨command.transactionId, command.pool.instrumentAssetCode,
      command.pool.settlementAssetCode, command.quantityUnits, command.proceedsUnits,
      ⟨_, hBasis, hCost⟩, command.feeUnits, allocations⟩
        : InvestmentLotDisposed).validateFinalAllocations = .ok () := by
    simp only [InvestmentLotDisposed.validateFinalAllocations, validateOrderedRecords,
      bind_eq_ok, require_eq_ok, forEach_eq_ok, exists_const, List.length_map,
      List.mem_cons, List.not_mem_nil, or_false]
    refine ⟨⟨hSome, hPositions, ?_⟩, hTotal, trivial⟩
    rintro field (rfl | rfl)
    · exact hIds
    · exact hLots
  refine ⟨⟨_, hValid⟩, ?_, rfl, rfl, rfl, rfl⟩
  unfold DisposeLot.payload canonicalUnits
  rw [dif_pos ⟨hBasis, hCost⟩]
  simp only [bind, Except.bind]
  split
  · rfl
  · next hError =>
      rw [hValid] at hError
      cases hError

variable {events : List InvestmentEvent}

theorem previousPosition_lt {r r' : Reduction} {position : Nat}
    (h : events.foldlM reduceEvent r = .ok r') (hStart : r.previousPosition < position)
    (hEvents : ∀ event ∈ events, event.sourcePosition < position) :
    r'.previousPosition < position := by
  induction events generalizing r with
  | nil =>
      cases h
      exact hStart
  | cons event rest ih =>
      obtain ⟨next, hNext, hRest⟩ := bind_eq_ok.1 h
      refine ih hRest ?_ fun other hOther =>
        hEvents other (List.mem_cons_of_mem _ hOther)
      rw [(reduceEvent_eq_ok hNext).2.1]
      exact hEvents event List.mem_cons_self

/-- In every state that the reducer reaches, a disposal that is selected, first in
first out or of the lots it names, with a cost basis of at most 38 digits: the
reducer accepts the event that is built of it; the pool loses the quantity that was
requested and the cost that was allocated, other pools nothing, and other lots
stay as they are; what is taken first in first out is a prefix of the open lots
in the order of their keys, of which the last may be taken in part; and what a
pool acquired is what was allocated and what remains. -/
theorem disposal_accepted {command : DisposeLot}
    (hReduce : reduceInvestmentEvents events = .ok state)
    (hSelect : selectLotAllocations uuid5 commandId state command.pool
      command.quantityUnits.1 method specificLots = .ok allocations)
    (hCost : (allocations.map (·.costUnits.1)).sum < 10 ^ 38)
    (hNames : NamesApart uuid5 commandId allocations) :
    (∃ payload, command.payload allocations = .ok payload
        ∧ payload.1.costBasisUnits.1 = (allocations.map (·.costUnits.1)).sum
        ∧ ∀ event : InvestmentEvent, event.payload = .disposed payload →
          (∀ earlier ∈ events, earlier.sourcePosition < event.sourcePosition) →
          ∃ state', reduceInvestmentEvents (events ++ [event]) = .ok state'
            ∧ poolRemaining .quantity command.pool state'.lots
                + command.quantityUnits.1
              = poolRemaining .quantity command.pool state.lots
            ∧ poolRemaining .cost command.pool state'.lots
                + payload.1.costBasisUnits.1
              = poolRemaining .cost command.pool state.lots
            ∧ (∀ other, other ≠ command.pool → ∀ m,
              poolRemaining m other state'.lots = poolRemaining m other state.lots)
            ∧ (∀ lot ∈ state'.lots,
              lot.remainingQuantityUnits = 0 ↔ lot.remainingCostUnits = 0)
            ∧ ∀ lotId ∉ allocations.map (·.lotId),
              row? LotPosition.lotId state'.lots lotId
                = row? LotPosition.lotId state.lots lotId)
      ∧ (method = .fifo → (fifoCandidates state command.pool).Pairwise fifoOrder
        ∧ ∃ taken, FifoPrefix (fifoCandidates state command.pool) taken
          ∧ allocations.map (fun a => (a.lotId, a.quantityUnits.1))
            = taken.map fun s => (s.1.lotId, s.2))
      ∧ ∀ m pool, (events.map (·.acquired m pool)).sum
        = (events.map (·.allocated m pool)).sum
          + poolRemaining m pool state.lots := by
  obtain ⟨-, selected, hSelects, hFreezes, hPositions, hFifo⟩ :=
    selectLotAllocations_ok hSelect
  refine ⟨?_, ?_, conserved_of_reduce hReduce⟩
  · obtain ⟨payload, hPayload, hAllocations, hPool, hQuantity, hBasis⟩ :=
      payload_of_selects hSelects hFreezes hPositions hNames hCost
    refine ⟨payload, hPayload, hBasis, fun event hEvent hLater => ?_⟩
    obtain ⟨r, hLoop, hLots⟩ := reduceInvestmentEvents_eq_ok.1 hReduce
    have hKeys : (r.lots.map LotPosition.lotId).Nodup :=
      reduceEvents_keys (r := ⟨[], 0⟩) List.nodup_nil hLoop
    have hPerm : state.lots.Perm r.lots :=
      hLots ▸ List.perm_insertionSort fifoOrder r.lots
    -- each allocation fits the lot that was selected for it
    have hFits : ∀ a ∈ payload.1.allocations, ∃ lot,
        row? LotPosition.lotId r.lots a.lotId = some lot
          ∧ Fits payload.1.pool lot a := by
      intro a ha
      rw [hAllocations] at ha
      obtain ⟨s, hs, hFreeze⟩ := freezes_of_mem hFreezes a ha
      obtain ⟨hMem, hOwn⟩ := hSelects.rows s hs
      refine ⟨s.1, ?_, ?_⟩
      · rw [hFreeze.lotId]
        exact row?_of_mem hKeys (hPerm.mem_iff.1 hMem)
      · rw [hPool, ← hOwn]
        exact hFreeze.fits
    have hDistinct : (payload.1.allocations.map (·.lotId)).Nodup := by
      rw [hAllocations, lotIds_of_freezes hFreezes]
      exact hSelects.distinct
    obtain ⟨lots', hLots'⟩ := reduceAllocations_accepts hDistinct hFits
    have hOrder := previousPosition_lt hLoop event.hPosition hLater
    have hNext := reduceEvent_disposed hEvent hOrder hLots'
    have hBoth : (events ++ [event]).foldlM reduceEvent ⟨[], 0⟩
        = .ok ⟨lots', event.sourcePosition⟩ := by
      rw [List.foldlM_append, hLoop]
      show [event].foldlM reduceEvent r = _
      rw [List.foldlM_cons, hNext]
      rfl
    obtain ⟨state', hState'⟩ := reduceInvestmentEvents_accepts hBoth
    obtain ⟨r', hLoop', hSorted⟩ := reduceInvestmentEvents_eq_ok.1 hState'
    obtain rfl : r' = ⟨lots', event.sourcePosition⟩ :=
      Except.ok.inj (hLoop'.symm.trans hBoth)
    have hPerm' : state'.lots.Perm lots' :=
      hSorted ▸ List.perm_insertionSort fifoOrder lots'
    have hMoves : ∀ m other, poolRemaining m other state'.lots
        + (if command.pool = other then (allocations.map (·.units m)).sum else 0)
        = poolRemaining m other state.lots := by
      intro m other
      rw [poolRemaining_perm hPerm', poolRemaining_perm hPerm, ← hAllocations, ← hPool]
      exact poolRemaining_reduceAllocations hKeys hLots' m other
    refine ⟨state', hState', ?_, ?_, ?_, fun lot _ => lot.hDeplete, ?_⟩
    · have hMove := hMoves .quantity command.pool
      rw [if_pos rfl] at hMove
      rw [← hSelects.total, ← quantities_of_freezes hFreezes]
      exact hMove
    · have hMove := hMoves .cost command.pool
      rw [if_pos rfl] at hMove
      rw [hBasis]
      exact hMove
    · intro other hOther m
      have hMove := hMoves m other
      rw [if_neg (Ne.symm hOther), Nat.add_zero] at hMove
      exact hMove
    · intro lotId hOthers
      have hKeys' : (lots'.map LotPosition.lotId).Nodup := by
        rw [reduceAllocations_keys hLots']
        exact hKeys
      rw [row?_perm hKeys' hPerm'.symm, row?_perm hKeys hPerm.symm]
      exact reduceAllocations_others hLots' (by rw [hAllocations]; exact hOthers)
  · intro hMethod
    refine ⟨List.pairwise_insertionSort fifoOrder _, selected, hFifo hMethod, ?_⟩
    clear * - hFreezes
    induction hFreezes with
    | nil => rfl
    | cons hHead _ ih =>
        rw [List.map_cons, List.map_cons, ih, hHead.lotId, hHead.quantity]

end Disposal

/-! ### A sample disposal -/

/-- Shares that are settled in the sample asset. -/
def samplePool : LotPool := ⟨⟨"ACME", by decide⟩, sampleAsset⟩

def sampleAcquired (position : Nat) (lotId : UUID) (quantity cost : CanonicalUnits)
    (h : 0 < position) : InvestmentEvent where
  sourcePosition := position
  effectiveAt := ⟨sampleDate, 0⟩
  payload := .acquired ⟨lotId, lotId, samplePool.instrumentAssetCode,
    samplePool.settlementAssetCode, quantity, cost, none⟩
  hPosition := h

/-- Three shares at 10, and two at 5. -/
def sampleAcquisitions : List InvestmentEvent :=
  [sampleAcquired 1 1 ⟨3, by decide⟩ ⟨10, by decide⟩ Nat.one_pos,
    sampleAcquired 2 2 ⟨2, sample_two⟩ ⟨5, sample_five⟩ Nat.two_pos]

/-- Four shares. -/
def sampleDisposal : DisposeLot where
  transactionId := 3
  pool := samplePool
  quantityUnits := ⟨4, by decide⟩
  proceedsUnits := ⟨20, by decide⟩
  feeUnits := none

/-- `uuid5` under the command 40, on the names of the sample. -/
def sampleUuid5 (_ : UUID) (name : String) : UUID :=
  if name = "0:00000000-0000-0000-0000-000000000001:3:10" then
    108620983519017673622217881274643288744
  else 122553590415298340430648612861057170046

def sampleSelection : Except LotAllocationError
    (LotState × List LotDisposalAllocation) := do
  let state ← reduceInvestmentEvents sampleAcquisitions
  let allocations ← selectLotAllocations sampleUuid5 40 state sampleDisposal.pool
    sampleDisposal.quantityUnits.1 .fifo []
  return (state, allocations)

instance (uuid5 : UUID → String → UUID) (commandId : UUID)
    (allocations : List LotDisposalAllocation) :
    Decidable (NamesApart uuid5 commandId allocations) :=
  inferInstanceAs (Decidable (∀ a ∈ allocations, ∀ b ∈ allocations, _))

theorem sampleSelection_ok : (sampleSelection.toOption.any fun selection =>
    selection.2.map (·.costUnits.1) = [10, 2]
      ∧ NamesApart sampleUuid5 40 selection.2) = true := by
  decide

/-- Four of five shares: the first lot, and one of the two of the second. -/
theorem disposal_accepted_of_sample : ∃ state allocations payload,
    reduceInvestmentEvents sampleAcquisitions = .ok state
      ∧ allocations.map (·.costUnits.1) = [10, 2]
      ∧ sampleDisposal.payload allocations = .ok payload
      ∧ ∃ state', reduceInvestmentEvents (sampleAcquisitions
          ++ [⟨3, ⟨sampleDate, 0⟩, .disposed payload, by decide⟩]) = .ok state'
        ∧ poolRemaining .quantity samplePool state'.lots + 4
          = poolRemaining .quantity samplePool state.lots := by
  have hSample := sampleSelection_ok
  cases hSelection : sampleSelection with
  | error e =>
      rw [hSelection] at hSample
      cases hSample
  | ok selection =>
      obtain ⟨state, allocations⟩ := selection
      rw [hSelection] at hSample
      obtain ⟨hCosts, hNames⟩ : allocations.map (·.costUnits.1) = [10, 2]
          ∧ NamesApart sampleUuid5 40 allocations := of_decide_eq_true hSample
      simp only [sampleSelection, bind_eq_ok, pure_eq_ok, Prod.mk.injEq] at hSelection
      obtain ⟨state', hReduce, allocations', hSelect, hState, hAllocations⟩ := hSelection
      subst hState hAllocations
      have hBound : (allocations'.map (·.costUnits.1)).sum < 10 ^ 38 := by
        rw [hCosts]
        decide
      obtain ⟨⟨payload, hPayload, -, hAccepts⟩, -⟩ :=
        disposal_accepted hReduce hSelect hBound hNames
      have hLater : ∀ earlier ∈ sampleAcquisitions, earlier.sourcePosition < 3 := by
        decide
      obtain ⟨after, hAfter, hQuantity, -⟩ := hAccepts
        ⟨3, ⟨sampleDate, 0⟩, .disposed payload, by decide⟩ rfl hLater
      exact ⟨_, _, payload, hReduce, hCosts, hPayload, after, hAfter, hQuantity⟩

end TrackAnywhere.Ports
