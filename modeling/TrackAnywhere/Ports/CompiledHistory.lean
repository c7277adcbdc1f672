import TrackAnywhere.Verified.LogReplay
import TrackAnywhere.Ports.AccountBalances
import TrackAnywhere.Ports.EventCompiler

/-!
# What the compiler has checked of a history

The compiler looks at an event and at those before it.  `CompiledAfter` is what it has
checked of an event against its prefix: new ids, the stream of its kind, and the source of a
reversal or of reporting lines.  It holds at every split of a compiled history.

Two things that a ledger needs are not among the checks: whether the postings balance, and
whether the source of a reversal has been reversed before.
-/

namespace TrackAnywhere.Ports

open TrackAnywhere.Verified
open TrackAnywhere.Verified.Checked
open TrackAnywhere.Verified.KeyedSum

/-! ## An event and its prefix -/

/-- The transaction of a planned event, with its postings. -/
def PlannedLedgerEvent.fact? (planned : PlannedLedgerEvent) :
    Option (UUID × List JournalPostingFact) :=
  planned.payload.1.financialFact

/-- The source of a reversal is an event of the prefix, with the postings that it inverts. -/
structure CompiledReversal (before : List PlannedLedgerEvent) (event : PlannedLedgerEvent)
    (payload : JournalTransactionReversed) (source : PlannedLedgerEvent)
    (postings : List JournalPostingFact) : Prop where
  mem : source ∈ before
  eventId : source.eventId = payload.originalEventId
  eventHash : source.eventHash = payload.originalEventHash
  causation : event.causationEventId = some source.eventId
  fact : source.fact? = some (payload.reversesTransactionId, postings)
  postingIds : ∀ posting ∈ postings,
    posting.postingId ∉ payload.inversePostings.map (·.postingId)
  inverse : List.Forall₂ inverts postings payload.inversePostings

/-- The target of reporting lines is a transaction that the prefix posts. -/
structure CompiledLines (before : List PlannedLedgerEvent) (event : PlannedLedgerEvent)
    (payload : ReportingLinesAssigned) (source : PlannedLedgerEvent)
    (posted : JournalTransactionPosted) : Prop where
  streamType : event.streamType = "reporting_lines"
  streamId : event.streamId = payload.transactionId
  revision : payload.classificationRevision = 1
  mem : source ∈ before
  target : source.payload.1 = .journalTransactionPosted posted
  transactionId : posted.transactionId = payload.transactionId

/-- What has been checked of an event against the events before it. -/
structure CompiledAfter (before : List PlannedLedgerEvent) (event : PlannedLedgerEvent) :
    Prop where
  importable : event.payload.1.importable = true
  fresh : event.eventId ∉ before.map (·.eventId)
  position : ∀ earlier ∈ before, earlier.bookPosition < event.bookPosition
  transaction : ∀ fact, event.fact? = some fact → event.streamId = fact.1
    ∧ ∀ earlier ∈ before, ∀ fact', earlier.fact? = some fact' → fact'.1 ≠ fact.1
  reversed : ∀ payload, event.payload.1 = .journalTransactionReversed payload →
    ∃ source postings, CompiledReversal before event payload source postings
  assigned : ∀ payload, event.payload.1 = .reportingLinesAssigned payload →
    ∃ source posted, CompiledLines before event payload source posted

/-- Every event is checked against its prefix. -/
def CompiledHistory (planned : List PlannedLedgerEvent) : Prop :=
  EachAfter CompiledAfter planned

theorem transactionIdAndPostings_eq {payload : EventPayload}
    (h : payload.importable = true) :
    payload.transactionIdAndPostings = payload.financialFact := by
  cases payload with
  | journalTransactionPosted p => rfl
  | journalTransactionReversed p => rfl
  | reportingLinesAssigned p => rfl
  | _ => cases h

section Rounds

variable {sha256 : ByteArray → EventHash} {bookId : UUID} {state state' : CompilerState}
  {pending : PendingEvent} {event : PlannedLedgerEvent} {events : List PendingEvent}
  {planned : List PlannedLedgerEvent}

/-- The accumulators index the planned events. -/
structure Compiling (state : CompilerState) : Prop where
  byId : ∀ eventId event, state.plannedById.lookup eventId = some event →
    event ∈ state.planned ∧ event.eventId = eventId
  eventIds : ∀ event ∈ state.planned, event.eventId ∈ state.plannedById
  byTransaction : ∀ transactionId event,
    state.journalByTransaction.lookup transactionId = some event →
      event ∈ state.planned ∧ ∃ postings, event.fact? = some (transactionId, postings)
  transactionIds : ∀ event ∈ state.planned, ∀ fact, event.fact? = some fact →
    fact.1 ∈ state.journalByTransaction
  positions : ∀ event ∈ state.planned, event.bookPosition ≤ state.planned.length
  history : CompiledHistory state.planned

/-- The accumulators keep indexing the planned events. -/
theorem Compiling.push (hState : Compiling state)
    (hPosition : event.bookPosition = state.planned.length + 1)
    (hEvent : CompiledAfter state.planned event) : Compiling (state.push event) where
  byId := by
    intro eventId found hFound
    by_cases hSame : eventId = event.eventId
    · subst hSame
      obtain rfl := Option.some.inj ((AList.lookup_insert _).symm.trans hFound)
      exact ⟨List.mem_append_right _ (List.mem_singleton_self _), rfl⟩
    · obtain ⟨hMem, hId⟩ := hState.byId eventId found
        ((AList.lookup_insert_ne hSame).symm.trans hFound)
      exact ⟨List.mem_append_left _ hMem, hId⟩
  eventIds := by
    intro earlier hEarlier
    refine AList.mem_insert _ |>.2 ?_
    rcases List.mem_append.1 hEarlier with hOld | hNew
    · exact .inr (hState.eventIds earlier hOld)
    · exact .inl (congrArg PlannedLedgerEvent.eventId (List.mem_singleton.1 hNew))
  byTransaction := by
    intro transactionId found hFound
    have hOld (h : state.journalByTransaction.lookup transactionId = some found) :
        found ∈ (state.push event).planned
          ∧ ∃ postings, found.fact? = some (transactionId, postings) := by
      obtain ⟨hMem, hFact⟩ := hState.byTransaction transactionId found h
      exact ⟨List.mem_append_left _ hMem, hFact⟩
    have hFacts := transactionIdAndPostings_eq hEvent.importable
    cases hFact : event.payload.1.transactionIdAndPostings with
    | none =>
        rw [CompilerState.push, hFact] at hFound
        exact hOld hFound
    | some fact =>
        rw [CompilerState.push, hFact] at hFound
        by_cases hSame : transactionId = fact.1
        · subst hSame
          obtain rfl := Option.some.inj ((AList.lookup_insert _).symm.trans hFound)
          exact ⟨List.mem_append_right _ (List.mem_singleton_self _), fact.2,
            hFacts.symm.trans hFact⟩
        · exact hOld ((AList.lookup_insert_ne hSame).symm.trans hFound)
  transactionIds := by
    intro earlier hEarlier fact hFact
    have hFacts := transactionIdAndPostings_eq hEvent.importable
    rcases List.mem_append.1 hEarlier with hOld | hNew
    · have hIn := hState.transactionIds earlier hOld fact hFact
      cases hPushed : event.payload.1.transactionIdAndPostings with
      | none =>
          rw [CompilerState.push, hPushed]
          exact hIn
      | some fact' =>
          rw [CompilerState.push, hPushed]
          exact (AList.mem_insert _).2 (.inr hIn)
    · obtain rfl := List.mem_singleton.1 hNew
      rw [CompilerState.push, hFacts.trans hFact]
      exact (AList.mem_insert _).2 (.inl rfl)
  positions := by
    intro earlier hEarlier
    have hLength : (state.push event).planned.length = state.planned.length + 1 :=
      List.length_append
    rcases List.mem_append.1 hEarlier with hOld | hNew
    · have hLast := hState.positions earlier hOld
      omega
    · obtain rfl := List.mem_singleton.1 hNew
      omega
  history := eachAfter_snoc.2 ⟨hState.history, hEvent⟩

end Rounds

/-! ## The events of a compiled history -/

section History

variable {planned before : List PlannedLedgerEvent} {event source other : PlannedLedgerEvent}
  {payload : JournalTransactionReversed} {postings : List JournalPostingFact}

theorem CompiledHistory.eventIds (h : CompiledHistory planned) :
    (planned.map (·.eventId)).Nodup := by
  rw [List.Nodup, List.pairwise_map]
  refine (h.mono fun before event hEvent => ?_).pairwise
  intro earlier hEarlier hSame
  exact hEvent.fresh (hSame ▸ List.mem_map_of_mem hEarlier)

theorem CompiledHistory.importable (h : CompiledHistory planned) :
    ∀ event ∈ planned, event.payload.1.importable = true := by
  intro event hEvent
  obtain ⟨before, after, hSplit⟩ := List.append_of_mem hEvent
  exact (h before event after hSplit).importable

/-- The transactions of two events, where both have one, differ. -/
def PlannedLedgerEvent.Apart (a b : PlannedLedgerEvent) : Prop :=
  ∀ fact fact', a.fact? = some fact → b.fact? = some fact' → fact.1 ≠ fact'.1

instance : Std.Symm PlannedLedgerEvent.Apart :=
  ⟨fun _ _ h fact fact' hFact hFact' hId => h fact' fact hFact' hFact hId.symm⟩

theorem CompiledReversal.exactInverse
    (h : CompiledReversal before event payload source postings) :
    validateExactInverse postings payload.inversePostings = .ok () := by
  simp only [validateExactInverse, bind_eq_ok, require_eq_ok, forEach_eq_ok, exists_const]
  refine ⟨h.inverse.length_eq, h.postingIds, fun pair hPair => ?_⟩
  exact (List.forall₂_iff_zip.1 h.inverse).2 hPair

/-- A compiled reversal balances when its source does. -/
theorem CompiledReversal.balanced (h : CompiledReversal before event payload source postings)
    (hSource : Balanced postings) : Balanced payload.inversePostings :=
  balanced_of_validateExactInverse h.exactInverse hSource

end History

end TrackAnywhere.Ports
