import TrackAnywhere.Ports.EventStoreVerified
import TrackAnywhere.Ports.JournalHistory

/-!
# The log of a Book

What the queries may rely on when they read the events of a Book: their ids are
unique, their positions and the versions within a stream count from one, every
payload validates under its own type, and the head stands at the last position.
`StoreInvariant.acceptedLog` gives all of it for a store that any batches led to.

The streams are those of the plans that the commands build: a posting, a
reversal and a card transaction are written to `journal_transaction` streams.
-/

namespace TrackAnywhere.Ports

open TrackAnywhere.Verified
open TrackAnywhere.Verified.Checked
open TrackAnywhere.Verified.ChainedLog

/-- The events of the Book are an accepted log. -/
structure AcceptedLog (t : EventStoreTables) (bookId : UUID) : Prop where
  eventIds : (t.events.map (·.eventId)).Nodup
  numbered : Numbered (·.bookPosition) 0 (t.bookEvents bookId)
  versions : ∀ e ∈ t.bookEvents bookId,
    Numbered (·.streamVersion) 0 (ofStream e.streamKey (t.bookEvents bookId))
  validated : ∀ e ∈ t.bookEvents bookId, e.contract?.isSome
  head : ∀ head ∈ t.bookHead? bookId,
    head.lastPosition = (t.bookEvents bookId).length

/-- Financial events are in the journal streams. -/
def JournalStreams (events : List LedgerEventRecord) : Prop :=
  ∀ e ∈ events, e.financialFact?.isSome → e.streamType = "journal_transaction"

instance (events : List LedgerEventRecord) : Decidable (JournalStreams events) :=
  inferInstanceAs (Decidable (∀ e ∈ events, _ → _))

instance {ι : Type} (number : ι → Nat) (start : Nat) (items : List ι) :
    Decidable (Numbered number start items) :=
  inferInstanceAs (Decidable (_ = _))

variable {t : EventStoreTables} {bookId : UUID} {events : List LedgerEventRecord}

/-- The log of a Book in a store that committed batches. -/
theorem StoreInvariant.acceptedLog {sha256 : ByteArray → EventHash}
    (h : StoreInvariant sha256 t) (bookId : UUID) : AcceptedLog t bookId where
  eventIds := h.eventIds
  numbered := h.numbered bookId
  versions := by
    intro e _
    rw [← streamEvents_eq]
    exact h.versions bookId e.streamKey
  validated := by
    intro e he
    have hVerified := h.verified e (List.mem_filter.1 he).1
    simp only [computedHash, bind_eq_ok, mapError_eq_ok] at hVerified
    obtain ⟨contract, hContract, -⟩ := hVerified
    rw [LedgerEventRecord.contract?_eq_some.2 hContract]
    rfl
  head := by
    intro head hHead
    have hBook : head.bookId = bookId := by simpa using List.find?_some hHead
    rw [(h.bookHead head (List.mem_of_find?_eq_some hHead)).1, hBook]

namespace AcceptedLog

theorem order (h : AcceptedLog t bookId) :
    (t.bookEvents bookId).Pairwise fun a b => a.bookPosition < b.bookPosition :=
  h.numbered.pairwise

/-- `ORDER BY book_position` leaves the events where they are. -/
theorem sorted (h : AcceptedLog t bookId) (hSublist : events.Sublist (t.bookEvents bookId)) :
    events.insertionSort (·.bookPosition ≤ ·.bookPosition) = events :=
  ((h.order.sublist hSublist).imp le_of_lt).insertionSort_eq

theorem distinct (h : AcceptedLog t bookId) :
    ((t.bookEvents bookId).map (·.eventId)).Nodup :=
  h.eventIds.sublist (List.filter_sublist.map _)

/-- No event is past the head. -/
theorem position_le (h : AcceptedLog t bookId) {head : BookEventHeadRecord}
    (hHead : t.bookHead? bookId = some head) :
    ∀ e ∈ t.bookEvents bookId, e.bookPosition ≤ head.lastPosition := by
  intro e he
  have hRange := h.numbered
  unfold Numbered at hRange
  have hMem : e.bookPosition ∈ (t.bookEvents bookId).map (·.bookPosition) :=
    List.mem_map.2 ⟨e, he, rfl⟩
  rw [hRange, List.mem_range'_1] at hMem
  rw [h.head head hHead]
  omega

end AcceptedLog

/-! ## Projecting the log -/

section Projecting

variable {ledger done rest : List LedgerEventRecord} {t₁ t₂ tEnd : SyncTables}
  {stored : LedgerEventRecord}

/-- A new valid event is handed to the applier of its type. -/
theorem projects_applies (hDistinct : ((done ++ [stored]).map (·.eventId)).Nodup)
    (hDone : Run (Projects ledger bookId) SyncTables.empty done t₁)
    (hValid : stored.contract?.isSome) (hStep : Projects ledger bookId t₁ stored t₂) :
    ∃ catalog contract, stored.contract? = some contract
      ∧ applyPayload catalog ledger stored contract.1 (t₁.mark stored.eventId)
        = .ok t₂ := by
  rw [List.map_append, List.nodup_append] at hDistinct
  have hFresh : stored.eventId ∉ t₁.appliedEvents.map (·.eventId) := by
    rw [(journalHistory_run hDistinct.1 hDone).applied]
    rintro ⟨e, he, hId, -⟩
    exact hDistinct.2.2 _ (List.mem_map.2 ⟨e, he, hId⟩) _ (List.mem_singleton_self _) rfl
  rcases projects_cases hStep hFresh with ⟨hNone, -⟩ | hApplied
  · rw [hNone] at hValid
    exact nomatch hValid
  · exact hApplied

/-- Every event of a projected log went through its applier. -/
theorem applied_of_run (hDistinct : (events.map (·.eventId)).Nodup)
    (hValid : ∀ e ∈ events, e.contract?.isSome)
    (hRun : Run (Projects ledger bookId) SyncTables.empty events tEnd) :
    ∀ e ∈ events, ∃ (catalog : Catalog) (t₁ t₂ : SyncTables) (contract : EventContract),
      e.contract? = some contract
      ∧ applyPayload catalog ledger e contract.1 (t₁.mark e.eventId) = .ok t₂ := by
  intro e he
  obtain ⟨done, rest, rfl⟩ := List.append_of_mem he
  obtain ⟨t₁, hDone, hRest⟩ := hRun.split
  obtain ⟨t₂, hStep, -⟩ := Run.cons_iff.1 hRest
  have hPrefix : done ++ [e] <+: done ++ e :: rest := by
    rw [List.prefix_append_right_inj]
    exact List.prefix_append [e] rest
  obtain ⟨catalog, contract, hContract, hApply⟩ := projects_applies
    (hDistinct.sublist (hPrefix.sublist.map _)) hDone (hValid e he) hStep
  exact ⟨catalog, t₁, t₂, contract, hContract, hApply⟩

end Projecting

end TrackAnywhere.Ports
