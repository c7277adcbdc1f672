import TrackAnywhere.Ports.EventStoreInvariant
import TrackAnywhere.Ports.SyncEffects

/-!
# An event store that verifies

The verification reads the events in an order of its own, Book by Book, and
knows nothing of how they were appended.  Under the invariant that order is the
concatenation of the Books (`sorted_events`), each Book passes from its first
event to its head (`verify_book`), and so nothing is reported
(`verifyEvents_of_invariant`).

`eventStore_verified_over_run` closes the circle: whatever batches were
committed or refused, on whatever Books, the store verifies.
-/

namespace TrackAnywhere.Ports

open TrackAnywhere.Verified
open TrackAnywhere.Verified.Checked
open TrackAnywhere.Verified.KeyedSum
open TrackAnywhere.Verified.Transaction
open TrackAnywhere.Verified.ChainedLog

/-! ## The order of verification -/

instance : Std.Total bookOrder where
  total a b := by
    unfold bookOrder
    rcases lt_trichotomy a.bookId b.bookId with h | h | h
    · exact .inl (.inl h)
    · rcases le_total a.bookPosition b.bookPosition with hLe | hLe
      · exact .inl (.inr ⟨h, hLe⟩)
      · exact .inr (.inr ⟨h.symm, hLe⟩)
    · exact .inr (.inl h)

instance : IsTrans LedgerEventRecord bookOrder where
  trans a b c := by
    rintro (hAb | ⟨hAb, hLe⟩) (hBc | ⟨hBc, hLe'⟩)
    · exact .inl (hAb.trans hBc)
    · exact .inl (hBc ▸ hAb)
    · exact .inl (hAb ▸ hBc)
    · exact .inr ⟨hAb.trans hBc, hLe.trans hLe'⟩

/-- The Books that have events, in order. -/
def EventStoreTables.books (t : EventStoreTables) : List UUID :=
  ((t.events.map (·.bookId)).dedup).insertionSort (· ≤ ·)

section Order

variable {sha256 : ByteArray → EventHash} {t : EventStoreTables}

theorem mem_books {bookId : UUID} :
    bookId ∈ t.books ↔ ∃ e ∈ t.events, e.bookId = bookId := by
  simp [EventStoreTables.books]

theorem books_nodup (t : EventStoreTables) : t.books.Nodup := by
  unfold EventStoreTables.books
  rw [(List.perm_insertionSort _ _).nodup_iff]
  exact List.nodup_dedup _

theorem mem_bookEvents {bookId : UUID} {e : LedgerEventRecord} :
    e ∈ t.bookEvents bookId ↔ e ∈ t.events ∧ e.bookId = bookId := by
  simp [EventStoreTables.bookEvents]

/-- Sorting the events lists the Books one after the other. -/
theorem sorted_events (h : StoreInvariant sha256 t) :
    t.events.insertionSort bookOrder = t.books.flatMap t.bookEvents := by
  have hNodup : t.events.Nodup := List.Nodup.of_map _ h.eventIds
  have hApart : t.books.Pairwise fun a b => a < b := by
    have hSorted : t.books.Pairwise (· ≤ ·) :=
      List.pairwise_insertionSort (· ≤ ·) _
    exact (hSorted.and (books_nodup t)).imp fun hBoth =>
      lt_of_le_of_ne hBoth.1 hBoth.2
  have hPerm : (t.events.insertionSort bookOrder).Perm
      (t.books.flatMap t.bookEvents) := by
    refine (List.perm_insertionSort _ _).trans ?_
    rw [List.perm_ext_iff_of_nodup hNodup]
    · intro e
      simp only [List.mem_flatMap, mem_bookEvents, mem_books]
      constructor
      · exact fun he => ⟨e.bookId, ⟨e, he, rfl⟩, he, rfl⟩
      · rintro ⟨_, -, he, -⟩
        exact he
    · rw [List.nodup_flatMap]
      refine ⟨fun bookId _ => hNodup.filter _, hApart.imp ?_⟩
      intro a b hLt e heA heB
      exact hLt.ne ((mem_bookEvents.1 heA).2.symm.trans (mem_bookEvents.1 heB).2)
  have hSame : ∀ a b, a ∈ t.events.insertionSort bookOrder →
      b ∈ t.books.flatMap t.bookEvents → bookOrder a b → bookOrder b a →
      a = b := by
    intro a b ha hb hAb hBa
    rw [List.mem_insertionSort] at ha
    obtain ⟨_, -, hb⟩ := List.mem_flatMap.1 hb
    have hBook : a.bookId = b.bookId := by
      rcases hAb with hLt | ⟨hEq, -⟩
      · rcases hBa with hGt | ⟨hEq, -⟩
        · exact absurd hLt (lt_asymm hGt)
        · exact hEq.symm
      · exact hEq
    have hPosition : a.bookPosition = b.bookPosition := by
      rcases hAb with hLt | ⟨-, hLe⟩
      · exact absurd hBook hLt.ne
      · rcases hBa with hGt | ⟨-, hGe⟩
        · exact absurd hBook.symm hGt.ne
        · exact le_antisymm hLe hGe
    have hPositions : ((t.bookEvents b.bookId).map (·.bookPosition)).Nodup := by
      rw [h.numbered]
      exact List.nodup_range'
    exact List.inj_on_of_nodup_map hPositions
      (mem_bookEvents.2 ⟨ha, hBook⟩)
      (mem_bookEvents.2 ⟨(mem_bookEvents.1 hb).1, rfl⟩) hPosition
  refine hPerm.eq_of_pairwise hSame (List.pairwise_insertionSort bookOrder _) ?_
  rw [List.pairwise_flatMap]
  refine ⟨?_, ?_⟩
  · intro bookId _
    refine (h.numbered bookId).pairwise.imp_of_mem ?_
    intro a b ha hb hLt
    exact .inr ⟨(mem_bookEvents.1 ha).2.trans (mem_bookEvents.1 hb).2.symm,
      hLt.le⟩
  · refine hApart.imp ?_
    intro a b hLt x hx y hy
    rw [← (mem_bookEvents.1 hx).2, ← (mem_bookEvents.1 hy).2] at hLt
    exact .inl hLt

end Order

/-! ## One Book -/

section Books

variable {sha256 : ByteArray → EventHash} {heads : List BookEventHeadRecord}
  {s : VerifyState}

/-- The counter counts every event. -/
theorem totalCount_foldl (events : List LedgerEventRecord) (s : VerifyState) :
    (events.foldl (verifyStep sha256 heads) s).totalCount
      = s.totalCount + events.length := by
  induction events generalizing s with
  | nil => rfl
  | cons e events ih =>
      have hOne : (verifyStep sha256 heads s e).totalCount
          = s.totalCount + 1 := by
        have hEnter : (enterBook heads s e).totalCount = s.totalCount := by
          unfold enterBook
          split_ifs <;> rfl
        unfold verifyStep verifyEvent
        rw [← hEnter]
        dsimp only
        split <;> rfl
      rw [List.foldl_cons, ih, hOne, List.length_cons]
      omega

theorem enterBook_current {e : LedgerEventRecord}
    (h : s.currentBookId = some e.bookId) : enterBook heads s e = s := by
  unfold enterBook
  rw [if_pos h.symm]

/-- Entering the Book of the first event before the loop changes nothing. -/
theorem foldl_enterBook (e : LedgerEventRecord)
    (events : List LedgerEventRecord) (s : VerifyState) :
    (e :: events).foldl (verifyStep sha256 heads) s
      = (e :: events).foldl (verifyStep sha256 heads) (enterBook heads s e) := by
  have hCurrent : (enterBook heads s e).currentBookId = some e.bookId := by
    unfold enterBook
    split_ifs with hSame
    · exact hSame.symm
    · rfl
  rw [List.foldl_cons, List.foldl_cons]
  congr 1
  unfold verifyStep
  rw [enterBook_current hCurrent]

/-- Numbered, linked and hashed events of the Book that is being read. -/
theorem foldl_sameBook {head : BookEventHeadRecord} {bookId : UUID}
    {events : List LedgerEventRecord}
    (hBook : ∀ e ∈ events, e.bookId = bookId)
    (hVerified : ∀ e ∈ events, computedHash sha256 e = .ok e.eventHash)
    (hCurrent : s.currentBookId = some bookId)
    (hHead : s.currentHead = some head)
    (hExpected : s.expectedPosition = s.currentCount + 1)
    (hNumbered : Numbered (·.bookPosition) s.currentCount events)
    (hLinked : Linked (·.eventHash) (·.previousHash) s.previousHash events) :
    events.foldl (verifyStep sha256 heads) s
      = { s with
          totalCount := s.totalCount + events.length
          currentCount := s.currentCount + events.length
          previousHash := lastLink (·.eventHash) s.previousHash events
          expectedPosition := s.expectedPosition + events.length } := by
  induction events generalizing s with
  | nil => rfl
  | cons e events ih =>
      obtain ⟨hPosition, hNumbered⟩ := numbered_cons.1 hNumbered
      obtain ⟨hPrevious, hLinked⟩ := hLinked
      have hEnter : enterBook heads s e = s :=
        enterBook_current (by rw [hCurrent, hBook e List.mem_cons_self])
      have hIssues : verifyStoredEvent sha256 e = [] := by
        unfold verifyStoredEvent
        rw [hVerified e List.mem_cons_self]
        simp
      have hStep : verifyStep sha256 heads s e = { s with
          totalCount := s.totalCount + 1
          currentCount := s.currentCount + 1
          previousHash := e.eventHash
          expectedPosition := s.expectedPosition + 1 } := by
        unfold verifyStep verifyEvent
        rw [hEnter]
        simp only [hHead, hIssues, hPosition, hExpected, hPrevious]
        simp
      rw [List.foldl_cons, hStep, ih
        (fun e' he' => hBook e' (List.mem_cons_of_mem _ he'))
        (fun e' he' => hVerified e' (List.mem_cons_of_mem _ he'))]
      · simp only [lastLink_cons, List.length_cons]
        congr 1 <;> omega
      · exact hCurrent
      · exact hHead
      · show s.expectedPosition + 1 = s.currentCount + 1 + 1
        rw [hExpected]
      · exact hNumbered
      · exact hLinked

/-- The state of the loop between two Books. -/
structure BetweenBooks (s : VerifyState) (later : List UUID) : Prop where
  issues : s.issues = []
  finish : s.finish = []
  left : ∀ bookId ∈ later, s.currentBookId ≠ some bookId

/-- The head of a Book is found by its id. -/
theorem find?_bookHead {t : EventStoreTables} (h : StoreInvariant sha256 t)
    {head : BookEventHeadRecord} (hHead : head ∈ t.bookHeads) :
    t.bookHeads.find? (fun h => h.bookId = head.bookId) = some head := by
  cases hFind : t.bookHeads.find? fun h => h.bookId = head.bookId with
  | none =>
      have hNot := List.find?_eq_none.1 hFind head hHead
      simp at hNot
  | some found =>
      have hSame : found.bookId = head.bookId := by
        simpa using List.find?_some hFind
      rw [List.inj_on_of_nodup_map h.headIds (List.mem_of_find?_eq_some hFind)
        hHead hSame]

/-- A whole Book passes. -/
theorem verify_book {t : EventStoreTables} {bookId : UUID} {later : List UUID}
    (h : StoreInvariant sha256 t) (hMem : bookId ∈ t.books)
    (hApart : bookId ∉ later) (hBetween : BetweenBooks s (bookId :: later)) :
    BetweenBooks
        ((t.bookEvents bookId).foldl (verifyStep sha256 t.bookHeads) s) later
      ∧ ((t.bookEvents bookId).foldl
          (verifyStep sha256 t.bookHeads) s).headsWithoutEvents
        = s.headsWithoutEvents.filter fun other => other ≠ bookId := by
  obtain ⟨e, he, hBook⟩ := mem_books.1 hMem
  obtain ⟨head, hHead, hHeadBook⟩ := List.mem_map.1 (h.homed e he)
  rw [hBook] at hHeadBook
  have hFind := find?_bookHead h hHead
  rw [hHeadBook] at hFind
  obtain ⟨hPosition, hHash⟩ := h.bookHead head hHead
  rw [hHeadBook] at hPosition hHash
  have hNumbered := h.numbered bookId
  have hLinked := h.linked bookId
  have hOwn : ∀ e ∈ t.bookEvents bookId, e.bookId = bookId :=
    fun e he => (mem_bookEvents.1 he).2
  have hVerified : ∀ e ∈ t.bookEvents bookId,
      computedHash sha256 e = .ok e.eventHash :=
    fun e he => h.verified e (mem_bookEvents.1 he).1
  cases hEvents : t.bookEvents bookId with
  | nil =>
      have hNone := mem_bookEvents.2 ⟨he, hBook⟩
      rw [hEvents] at hNone
      exact absurd hNone List.not_mem_nil
  | cons first rest =>
      rw [hEvents] at hPosition hHash hNumbered hLinked hOwn hVerified
      have hFirst : first.bookId = bookId := hOwn first List.mem_cons_self
      have hEnter : enterBook t.bookHeads s first = { s with
          currentBookId := some bookId
          currentHead := some head
          currentCount := 0
          previousHash := zeroHash
          expectedPosition := 1
          headsWithoutEvents :=
            s.headsWithoutEvents.filter fun other => other ≠ bookId } := by
        unfold enterBook
        rw [if_neg (by
          rw [hFirst]
          exact Ne.symm (hBetween.left bookId List.mem_cons_self)), hFirst,
          hFind, hBetween.finish, List.append_nil]
      rw [foldl_enterBook, hEnter]
      rw [foldl_sameBook hOwn hVerified rfl rfl rfl hNumbered hLinked]
      refine ⟨⟨hBetween.issues, ?_, ?_⟩, rfl⟩
      · unfold VerifyState.finish finishBookEventState
        simp [hPosition, hHash]
      · intro other hOther hEq
        have hSame : bookId = other := Option.some.inj hEq
        exact hApart (hSame ▸ hOther)

/-- All Books pass. -/
theorem verify_books {t : EventStoreTables} (h : StoreInvariant sha256 t)
    {books : List UUID} (hDistinct : books.Nodup)
    (hMem : ∀ bookId ∈ books, bookId ∈ t.books)
    (hBetween : BetweenBooks s books) :
    BetweenBooks ((books.flatMap t.bookEvents).foldl
        (verifyStep sha256 t.bookHeads) s) []
      ∧ ((books.flatMap t.bookEvents).foldl
          (verifyStep sha256 t.bookHeads) s).headsWithoutEvents
        = s.headsWithoutEvents.filter fun other => other ∉ books := by
  induction books generalizing s with
  | nil => exact ⟨hBetween, by simp⟩
  | cons bookId books ih =>
      rw [List.nodup_cons] at hDistinct
      obtain ⟨hNext, hHeads⟩ := verify_book h (hMem bookId List.mem_cons_self)
        hDistinct.1 hBetween
      obtain ⟨hEnd, hRest⟩ := ih hDistinct.2
        (fun other hOther => hMem other (List.mem_cons_of_mem _ hOther)) hNext
      rw [List.flatMap_cons, List.foldl_append]
      refine ⟨hEnd, ?_⟩
      rw [hRest, hHeads, List.filter_filter]
      refine List.filter_congr fun other _ => ?_
      by_cases hFirst : other = bookId <;> by_cases hLater : other ∈ books <;>
        simp [hFirst, hLater]

end Books

/-- `_verify_events` counts the events and reports nothing. -/
theorem verifyEvents_of_invariant {sha256 : ByteArray → EventHash}
    {t : EventStoreTables} (h : StoreInvariant sha256 t) :
    verifyEvents sha256 t = (t.events.length, []) := by
  have hLength := (List.perm_insertionSort bookOrder t.events).length_eq
  have hCount := fun s => @totalCount_foldl sha256 t.bookHeads
    (t.events.insertionSort bookOrder) s
  have hStart : BetweenBooks
      ⟨0, none, none, 0, zeroHash, 1, t.bookHeads.map (·.bookId), []⟩ t.books :=
    ⟨rfl, rfl, fun _ _ hEq => nomatch hEq⟩
  obtain ⟨hBetween, hHeads⟩ :=
    verify_books h (books_nodup t) (fun _ hMem => hMem) hStart
  unfold verifyEvents
  simp only [hCount, hLength, Nat.zero_add]
  rw [sorted_events h]
  rw [hBetween.issues, hBetween.finish, hHeads]
  congr 1
  rw [List.nil_append, List.nil_append, List.flatMap_eq_nil_iff]
  intro bookId hMem
  obtain ⟨hMem, hEmpty⟩ := List.mem_filter.1 hMem
  obtain ⟨head, hHead, rfl⟩ := List.mem_map.1 hMem
  obtain ⟨hPosition, hHash⟩ := h.bookHead head hHead
  have hNone : t.bookEvents head.bookId = [] := by
    rw [List.eq_nil_iff_forall_not_mem]
    intro e he
    have hNot : head.bookId ∉ t.books := by simpa using hEmpty
    exact hNot (mem_books.2 ⟨e, mem_bookEvents.1 he⟩)
  rw [hNone] at hPosition hHash
  rw [find?_bookHead h hHead]
  simp [finishBookEventState, hPosition, hHash]

/-! ## Stream heads -/

/-- In ascending positions, the highest is the last. -/
private theorem foldl_highest (events : List LedgerEventRecord)
    (h : events.Pairwise fun a b => a.bookPosition < b.bookPosition)
    (start : Option LedgerEventRecord)
    (hStart : ∀ first ∈ start, ∀ e ∈ events,
      first.bookPosition < e.bookPosition) :
    events.foldl laterEvent start = events.getLast?.or start := by
  induction events generalizing start with
  | nil => rfl
  | cons e events ih =>
      obtain ⟨hFirst, hRest⟩ := List.pairwise_cons.1 h
      have hOne : laterEvent start e = some e := by
        cases start with
        | none => rfl
        | some previous => exact if_pos (hStart previous rfl e List.mem_cons_self)
      rw [List.foldl_cons, hOne, ih hRest]
      · rw [List.getLast?_cons]
        cases events.getLast? <;> rfl
      · intro first hMem e' he'
        cases hMem
        exact hFirst e' he'

/-- The highest event of a stream is its last. -/
theorem terminalEvent_eq {sha256 : ByteArray → EventHash}
    {t : EventStoreTables} (h : StoreInvariant sha256 t) (bookId : UUID)
    (key : StreamKey) :
    terminalEvent t bookId key = (t.streamEvents bookId key).getLast? := by
  have hOrder := (h.numbered bookId).pairwise.filter
    fun row => row.streamKey = key
  unfold terminalEvent
  rw [streamEvents_eq, foldl_highest _ hOrder none (fun _ h => nomatch h),
    Option.or_none]

/-- `_verify_stream_heads` reports nothing. -/
theorem verifyStreamHeads_of_invariant {sha256 : ByteArray → EventHash}
    {t : EventStoreTables} (h : StoreInvariant sha256 t) :
    verifyStreamHeads t = (t.streamHeads.length, []) := by
  unfold verifyStreamHeads
  congr 1
  rw [List.flatMap_eq_nil_iff]
  intro head hHead
  have hFind : t.streamHead? head.bookId head.streamKey = some head := by
    cases hFound : t.streamHead? head.bookId head.streamKey with
    | none =>
        have hNot := List.find?_eq_none.1 hFound head hHead
        simp at hNot
    | some found =>
        have hSame : found.bookId = head.bookId
            ∧ found.streamKey = head.streamKey := by
          simpa using List.find?_some hFound
        rw [List.inj_on_of_nodup_map h.streamKeys
          (List.mem_of_find?_eq_some hFound) hHead
          (Prod.ext hSame.1 hSame.2)]
  rw [h.streamHead] at hFind
  obtain ⟨last, hLast, rfl⟩ := Option.map_eq_some_iff.1 hFind
  rw [terminalEvent_eq h]
  have hSame : (t.streamEvents (EventStreamHeadRecord.ofTerminal last).bookId
      (EventStreamHeadRecord.ofTerminal last).streamKey).getLast?
      = some last := hLast
  rw [if_pos]
  rw [hSame]
  rfl

/-! ## Refused batches -/

/-- A check of the batch, as opposed to the database refusing a row. -/
def AppendError.IsCheck (e : AppendError) : Prop := ∀ rule, e ≠ .integrity rule

/-- When a check of the batch fails, nothing has been written yet. -/
theorem appendBatch_failsClean (sha256 : ByteArray → EventHash) (bookId : UUID)
    (expectedStreamVersions : Dict StreamKey Int) (events : List PendingEvent)
    (generated : UUID → Nat × Instant) :
    FailsClean AppendError.IsCheck
      (appendBatch sha256 bookId expectedStreamVersions events generated) := by
  have hIntegrity : ∀ rule,
      ¬AppendError.IsCheck (.integrity rule) := fun rule h => h rule rfl
  have hInsert : ∀ rows t, RaisesOnly (fun e => ¬AppendError.IsCheck e)
      (insertEvents rows t) := by
    intro rows t
    unfold insertEvents
    iterate 5 refine raisesOnly_bind (raisesOnly_require (hIntegrity _)) fun _ => ?_
    refine raisesOnly_bind (raisesOnly_forEach fun row _ => ?_) fun _ =>
      raisesOnly_pure _
    iterate 5 refine raisesOnly_bind (raisesOnly_require (hIntegrity _)) fun _ => ?_
    exact raisesOnly_require (hIntegrity _)
  have hAdvance : ∀ bookId t item, RaisesOnly (fun e => ¬AppendError.IsCheck e)
      (advanceStreamHead bookId t item) := by
    intro bookId t item
    unfold advanceStreamHead
    refine raisesOnly_bind (raisesOnly_require (hIntegrity _)) fun _ => ?_
    split
    · exact raisesOnly_pure _
    · exact raisesOnly_bind (raisesOnly_require (hIntegrity _)) fun _ =>
        raisesOnly_pure _
  have hHeads : ∀ head streamKeys state t,
      RaisesOnly (fun e => ¬AppendError.IsCheck e)
        (advanceHeads head streamKeys state t) := by
    intro head streamKeys state t
    unfold advanceHeads advanceBookHead
    refine raisesOnly_bind (raisesOnly_foldlM (hAdvance _) t) fun _ => ?_
    iterate 2 refine raisesOnly_bind (raisesOnly_require (hIntegrity _)) fun _ => ?_
    exact raisesOnly_pure _
  unfold appendBatch
  refine readOnly_get.bind fun t => (readOnly_check _).bind fun prepared => ?_
  exact (raises_bind (raises_update (hInsert _)) fun _ =>
    raises_bind (raises_update (hHeads _ _ _)) fun _ => raises_pure _).failsClean

/-! ## Runs -/

/-- One call of `_append_batch`, in its own transaction. -/
structure AppendCall where
  bookId : UUID
  expectedStreamVersions : Dict StreamKey Int
  events : List PendingEvent
  generated : UUID → Nat × Instant

/-- The program of the call. -/
def AppendCall.program (sha256 : ByteArray → EventHash) (call : AppendCall) :
    Session AppendError EventStoreTables AppendBatchResult :=
  appendBatch sha256 call.bookId call.expectedStreamVersions call.events
    call.generated

/-- What the call leaves. -/
def Appends (sha256 : ByteArray → EventHash) (t : EventStoreTables)
    (call : AppendCall) (t' : EventStoreTables) : Prop :=
  (atomically (call.program sha256) t).2 = t'

/-- A call, accepted or refused, keeps the invariant. -/
theorem storeInvariant_step {sha256 : ByteArray → EventHash}
    {t t' : EventStoreTables} {call : AppendCall}
    (h : StoreInvariant sha256 t) (hStep : Appends sha256 t call t') :
    StoreInvariant sha256 t' := by
  unfold Appends at hStep
  rcases atomically_cases (call.program sha256) t with
    ⟨result, t₁, hRun, hCommit⟩ | ⟨e, hRollback⟩
  · rw [hCommit] at hStep
    obtain ⟨head, rows, hAppended⟩ := appendBatch_ok hRun
    exact hStep ▸ h.append hAppended
  · rw [hRollback] at hStep
    exact hStep ▸ h

/-- Whatever batches were committed or refused on new Books: the verification
reports nothing, every Book is numbered from one and chained, every stream is
versioned from one, the heads stand at their last events, and a batch that is
refused leaves the store as it was. -/
theorem eventStore_verified_over_run (sha256 : ByteArray → EventHash)
    {bookIds : List UUID} {calls : List AppendCall} {t : EventStoreTables}
    (hDistinct : bookIds.Nodup)
    (hRun : Run (Appends sha256) (.opened bookIds) calls t) :
    verifyEvents sha256 t = (t.events.length, [])
      ∧ verifyStreamHeads t = (t.streamHeads.length, [])
      ∧ (∀ bookId, Numbered (·.bookPosition) 0 (t.bookEvents bookId)
        ∧ Linked (·.eventHash) (·.previousHash) zeroHash (t.bookEvents bookId))
      ∧ (∀ bookId key,
        Numbered (·.streamVersion) 0 (t.streamEvents bookId key))
      ∧ (∀ head ∈ t.bookHeads,
        head.lastPosition = (t.bookEvents head.bookId).length
        ∧ head.lastHash
          = lastLink (·.eventHash) zeroHash (t.bookEvents head.bookId))
      ∧ (∀ bookId key, t.streamHead? bookId key
        = (t.streamEvents bookId key).getLast?.map .ofTerminal)
      ∧ ∀ call : AppendCall,
        (∀ e, (atomically (call.program sha256) t).1 = .error e →
          (atomically (call.program sha256) t).2 = t)
        ∧ ∀ e t', call.program sha256 t = .error e t' → e.IsCheck → t' = t := by
  have h : StoreInvariant sha256 t :=
    Run.invariant (storeInvariant_opened sha256 hDistinct)
      (fun _ _ _ hI hStep => storeInvariant_step hI hStep) hRun
  refine ⟨verifyEvents_of_invariant h, verifyStreamHeads_of_invariant h,
    fun bookId => ⟨h.numbered bookId, h.linked bookId⟩, h.versions, h.bookHead,
    h.streamHead, fun call => ⟨fun e hError => atomically_error hError, ?_⟩⟩
  exact fun e t' hError hCheck => appendBatch_failsClean sha256 call.bookId
    call.expectedStreamVersions call.events call.generated t e t' hError hCheck

/-! ### Two batches -/

/-- A digest to run the store with: the sample hashes one event a Book. -/
def sampleDigest (_ : ByteArray) : EventHash := 7

/-- 100 units posted to a stream of its own. -/
def samplePending (eventId transactionId : UUID) : PendingEvent where
  eventId := eventId
  streamType := "journal_transaction"
  streamId := transactionId
  payload := ⟨.journalTransactionPosted ⟨transactionId, .standard, none,
    samplePostings 20 21 .debit, none, []⟩, rfl⟩
  commandId := 40
  actorSubjectId := "actor"
  correlationId := 41
  causationEventId := none
  effectiveAt := ⟨sampleDate, 0⟩

/-- One event, on a stream expected to be new. -/
def sampleCall (bookId eventId transactionId : UUID) : AppendCall where
  bookId := bookId
  expectedStreamVersions :=
    (∅ : Dict StreamKey Int).insert ("journal_transaction", transactionId) 0
  events := [samplePending eventId transactionId]
  generated := fun id => (id.val, ⟨sampleDate, 0⟩)

/-- A batch on each of two Books, and the first one again, which is refused. -/
def sampleCalls : List AppendCall :=
  [sampleCall 1 1 10, sampleCall 2 2 10, sampleCall 1 3 10]

def sampleStore : EventStoreTables :=
  sampleCalls.foldl
    (fun t call => (atomically (call.program sampleDigest) t).2)
    (.opened [1, 2])

theorem eventStore_verified_over_sample :
    (sampleStore.events.map fun e => (e.bookId, e.bookPosition))
        = [(1, 1), (2, 1)]
      ∧ verifyEvents sampleDigest sampleStore = (2, [])
      ∧ verifyStreamHeads sampleStore = (2, []) := by
  have hRun : Run (Appends sampleDigest) (.opened [1, 2]) sampleCalls
      sampleStore := .cons rfl (.cons rfl (.cons rfl (.nil _)))
  have h := eventStore_verified_over_run sampleDigest (by decide) hRun
  have hEvents : (sampleStore.events.map fun e => (e.bookId, e.bookPosition))
      = [(1, 1), (2, 1)] := by decide
  have hHeads : sampleStore.streamHeads.length = 2 := by decide
  refine ⟨hEvents, ?_, ?_⟩
  · have hLength := congrArg List.length hEvents
    rw [List.length_map] at hLength
    rw [h.1, hLength]
    rfl
  · rw [h.2.1, hHeads]

end TrackAnywhere.Ports
