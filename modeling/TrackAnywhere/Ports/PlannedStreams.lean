import TrackAnywhere.Ports.CommandSafety

/-!
# The streams of a plan

A plan that expects a stream at version zero is applied only while the stream
has no event, and leaves one in it.  Events stay where they are in every
interleaving of commands, so no two plans open one stream.
-/

namespace TrackAnywhere.Ports

open TrackAnywhere.Verified
open TrackAnywhere.Verified.Checked
open TrackAnywhere.Verified.ExactlyOnce
open TrackAnywhere.Verified.KeyedSum
open TrackAnywhere.Verified.Transaction
open TrackAnywhere.Verified.ChainedLog

/-! ## One append -/

section Append

variable {sha256 : ByteArray → EventHash} {bookId : UUID}
  {expectedStreamVersions : Dict StreamKey Int} {events : List PendingEvent}
  {generated : UUID → Nat × Instant} {result : AppendBatchResult}
  {t t' : EventStoreTables} {key : StreamKey}

theorem advanceStreamHead_events {item : StreamKey × LedgerEventRecord}
    (h : advanceStreamHead bookId t item = .ok t') : t'.events = t.events := by
  unfold advanceStreamHead at h
  obtain ⟨_, -, h⟩ := bind_eq_ok.1 h
  split at h
  · rw [← pure_eq_ok.1 h]
  · obtain ⟨_, -, h⟩ := bind_eq_ok.1 h
    rw [← pure_eq_ok.1 h]

/-- Heads move, events stay. -/
theorem advanceHeads_events {head : BookEventHeadRecord}
    {streamKeys : List StreamKey} {state : BatchState}
    (h : advanceHeads head streamKeys state t = .ok t') : t'.events = t.events := by
  simp only [advanceHeads, advanceBookHead, bind_eq_ok, pure_eq_ok] at h
  obtain ⟨t₁, hStreams, _, -, _, -, rfl⟩ := h
  show t₁.events = t.events
  generalize state.terminals streamKeys = items at hStreams
  induction items generalizing t with
  | nil =>
      cases hStreams
      rfl
  | cons item items ih =>
      rw [List.foldlM_cons] at hStreams
      obtain ⟨t₂, hItem, hRest⟩ := bind_eq_ok.1 hStreams
      rw [ih hRest, advanceStreamHead_events hItem]

/-- Every stream of the batch was at its expected version, and has an event
afterwards. -/
theorem appendBatch_streams
    (h : appendBatch sha256 bookId expectedStreamVersions events generated t
      = .ok result t') (hKey : key ∈ events.map (·.streamKey)) :
    expectedStreamVersions.lookup key
        = some ((((t.streamHead? bookId key).map (·.lastVersion)).getD 0 : Nat) : Int)
      ∧ t'.streamEvents bookId key ≠ [] := by
  simp only [appendBatch, bind_ok_iff, get_ok_iff, check_ok_iff, update_ok_iff,
    pure_ok_iff] at h
  obtain ⟨_, _, ⟨rfl, rfl⟩, ⟨head, state⟩, _, ⟨hPrepare, rfl⟩, _, t₁, hInsert,
    _, t₂, hHeads, -, rfl⟩ := h
  simp only [prepareBatch, bind_eq_ok, fetch_eq_ok, pure_eq_ok, forEach_eq_ok,
    require_eq_ok, Prod.mk.injEq] at hPrepare
  obtain ⟨_, -, _, -, _, hVersions, state', hLoop, rfl, rfl⟩ := hPrepare
  constructor
  · obtain ⟨version, hLookup, hVersion⟩ := hVersions key (mem_dictFromkeys.2 hKey)
    rw [hLookup, hVersion]
  · obtain ⟨added, hRows⟩ := appendPending_foldlM hLoop
    have hStored : state'.storedEvents = added := by
      rw [hRows.stored, List.nil_append]
    rw [hStored] at hInsert
    obtain ⟨rfl, -, -⟩ := insertEvents_ok hInsert
    rw [← hRows.keys] at hKey
    obtain ⟨row, hMem, hRow⟩ := List.mem_map.1 hKey
    have hEvents : row ∈ t'.events := by
      rw [advanceHeads_events hHeads]
      exact List.mem_append_right _ hMem
    refine List.ne_nil_of_mem (List.mem_filter.2 ⟨hEvents, ?_⟩)
    simp [hRows.book row hMem, hRow]

end Append

/-! ## One plan -/

section Plan

variable {sha256 : ByteArray → EventHash} {bookId : UUID}
  {plan : LedgerWritePlan} {ledger ledger' : BookLedger} {result : CommandResult}
  {key : StreamKey}

/-- A plan appends events to its Book, and keeps the invariant of the store. -/
theorem planApplies_store (hStore : StoreInvariant sha256 ledger.store)
    (h : PlanApplies sha256 bookId plan ledger result ledger') :
    StoreInvariant sha256 ledger'.store
      ∧ ∀ e ∈ ledger.store.events, e ∈ ledger'.store.events := by
  obtain ⟨_, _, hAppend, -, -⟩ := h
  obtain ⟨_, _, hAppended⟩ := appendBatch_ok (atomically_ok.1 hAppend)
  refine ⟨hStore.append hAppended, fun e he => ?_⟩
  rw [hAppended.events]
  exact List.mem_append_left _ he

/-- A plan that expects a stream at version zero opens it. -/
theorem planApplies_opens (hStore : StoreInvariant sha256 ledger.store)
    (h : PlanApplies sha256 bookId plan ledger result ledger')
    (hKey : key ∈ plan.events.map (·.streamKey))
    (hZero : plan.expectedStreamVersions.lookup key = some 0) :
    ledger.store.streamEvents bookId key = []
      ∧ ledger'.store.streamEvents bookId key ≠ [] := by
  obtain ⟨_, _, hAppend, -, -⟩ := h
  obtain ⟨hLookup, hOpened⟩ :=
    appendBatch_streams (atomically_ok.1 hAppend) hKey
  refine ⟨?_, hOpened⟩
  rw [hZero] at hLookup
  have hVersion : ((ledger.store.streamHead? bookId key).map
      (·.lastVersion)).getD 0 = 0 := by
    have := Option.some.inj hLookup
    omega
  rw [hStore.streamHead] at hVersion
  cases hLast : (ledger.store.streamEvents bookId key).getLast? with
  | none => exact List.getLast?_eq_none_iff.1 hLast
  | some e =>
      -- the versions of a stream are its ranks, which begin at one
      rw [hLast] at hVersion
      have hRank := (hStore.versions bookId key).getLast hLast
      have hNonempty := List.length_pos_of_mem (List.mem_of_getLast? hLast)
      change e.streamVersion = 0 at hVersion
      omega

end Plan

/-! ## Interleaved commands -/

section Commands

variable {sha256 : ByteArray → EventHash} {s s' : CommandSystem}

/-- Every store keeps its invariant. -/
def StoresOk (sha256 : ByteArray → EventHash) (s : CommandSystem) : Prop :=
  ∀ bookId, StoreInvariant sha256 (s.tables.ledgers bookId).store

/-- Events stay in their Books, and applications in the log. -/
structure LedgersGrow (s s' : CommandSystem) : Prop where
  events : ∀ bookId, ∀ e ∈ (s.tables.ledgers bookId).store.events,
    e ∈ (s'.tables.ledgers bookId).store.events
  applied : ∀ a ∈ s.applied, a ∈ s'.applied

theorem LedgersGrow.refl (s : CommandSystem) : LedgersGrow s s where
  events := fun _ _ h => h
  applied := fun _ h => h

/-- No step of the command system loses an event. -/
theorem ledgersGrow_of_executes {action : CommandAction}
    (h : CommandInvariant sha256 s) (hStores : StoresOk sha256 s)
    (hStep : Executes sha256 s action s') :
    StoresOk sha256 s' ∧ LedgersGrow s s' := by
  obtain ⟨served, hServes⟩ := serves_of_executes h hStep
  have hState : s'.service.state = s'.tables.ledgers := rfl
  have hLog : s'.service.applied = s'.applied := rfl
  generalize hService : s'.service = service' at hServes hState hLog
  cases hServes with
  | unchanged =>
      have hLedgers : s'.tables.ledgers = s.tables.ledgers := hState.symm
      have hApplied : s'.applied = s.applied := hLog.symm
      refine ⟨fun bookId => ?_, fun bookId e he => ?_, fun a ha => ?_⟩
      · rw [hLedgers]
        exact hStores bookId
      · rw [hLedgers]
        exact he
      · rw [hApplied]
        exact ha
  | @applied a state hNew hApplies =>
      obtain ⟨ledger, hPlan, -, rfl⟩ := hApplies
      have hLedgers : s'.tables.ledgers
          = Function.update s.tables.ledgers a.key.bookId ledger := hState.symm
      have hApplied : s'.applied = s.applied ++ [a] := hLog.symm
      obtain ⟨hStore, hKept⟩ := planApplies_store (hStores a.key.bookId) hPlan
      refine ⟨fun bookId => ?_, fun bookId e he => ?_, fun b hb => ?_⟩
      · rw [hLedgers]
        by_cases hBook : bookId = a.key.bookId
        · subst hBook
          rw [Function.update_self]
          exact hStore
        · rw [Function.update_of_ne hBook]
          exact hStores bookId
      · rw [hLedgers]
        by_cases hBook : bookId = a.key.bookId
        · subst hBook
          rw [Function.update_self]
          exact hKept e he
        · rw [Function.update_of_ne hBook]
          exact he
      · rw [hApplied]
        exact List.mem_append_left _ hb

end Commands

end TrackAnywhere.Ports
