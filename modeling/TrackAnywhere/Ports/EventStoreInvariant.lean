import TrackAnywhere.Ports.AppendedRows
import TrackAnywhere.Verified.Run

/-!
# The invariant of the event store

Within a Book the events are numbered from one and chained by their hashes,
within a stream they are versioned from one, every stored hash is the one its
row hashes to, and every head stands at the last event it is the head of.

`StoreInvariant.append` is the step: what `_append_batch` commits keeps all of
this, however many events and streams the batch has.
-/

namespace TrackAnywhere.Ports

open TrackAnywhere.Verified
open TrackAnywhere.Verified.Checked
open TrackAnywhere.Verified.KeyedSum
open TrackAnywhere.Verified.Transaction
open TrackAnywhere.Verified.ChainedLog

structure StoreInvariant (sha256 : ByteArray → EventHash)
    (t : EventStoreTables) : Prop where
  headIds : (t.bookHeads.map (·.bookId)).Nodup
  homed : ∀ e ∈ t.events, e.bookId ∈ t.bookHeads.map (·.bookId)
  eventIds : (t.events.map (·.eventId)).Nodup
  verified : ∀ e ∈ t.events, computedHash sha256 e = .ok e.eventHash
  numbered : ∀ bookId, Numbered (·.bookPosition) 0 (t.bookEvents bookId)
  linked : ∀ bookId,
    Linked (·.eventHash) (·.previousHash) zeroHash (t.bookEvents bookId)
  versions : ∀ bookId key,
    Numbered (·.streamVersion) 0 (t.streamEvents bookId key)
  bookHead : ∀ head ∈ t.bookHeads,
    head.lastPosition = (t.bookEvents head.bookId).length
      ∧ head.lastHash
        = lastLink (·.eventHash) zeroHash (t.bookEvents head.bookId)
  streamKeys : (t.streamHeads.map fun h => (h.bookId, h.streamKey)).Nodup
  streamHead : ∀ bookId key, t.streamHead? bookId key
    = (t.streamEvents bookId key).getLast?.map .ofTerminal

/-- New Books. -/
theorem storeInvariant_opened (sha256 : ByteArray → EventHash)
    {bookIds : List UUID} (hDistinct : bookIds.Nodup) :
    StoreInvariant sha256 (.opened bookIds) where
  headIds := by
    unfold EventStoreTables.opened
    rw [List.map_map]
    simpa [Function.comp_def] using hDistinct
  homed := fun _ h => absurd h List.not_mem_nil
  eventIds := List.nodup_nil
  verified := fun _ h => absurd h List.not_mem_nil
  numbered := fun _ => numbered_nil
  linked := fun _ => linked_nil
  versions := fun _ _ => numbered_nil
  bookHead := by
    intro head hHead
    obtain ⟨bookId, -, rfl⟩ := List.mem_map.1 hHead
    exact ⟨rfl, rfl⟩
  streamKeys := List.nodup_nil
  streamHead := fun _ _ => rfl

/-! ## Events -/

section Events

variable {t t' : EventStoreTables} {bookId : UUID}
  {rows : List LedgerEventRecord}

theorem streamEvents_eq (t : EventStoreTables) (bookId : UUID)
    (key : StreamKey) :
    t.streamEvents bookId key = ofStream key (t.bookEvents bookId) := by
  unfold EventStoreTables.streamEvents EventStoreTables.bookEvents ofStream
  rw [List.filter_filter]
  refine List.filter_congr fun e _ => ?_
  rw [Bool.and_comm, Bool.decide_and]

/-- Rows of one Book, appended. -/
theorem bookEvents_append (hEvents : t'.events = t.events ++ rows)
    (hBook : ∀ row ∈ rows, row.bookId = bookId) (other : UUID) :
    t'.bookEvents other
      = t.bookEvents other ++ if other = bookId then rows else [] := by
  unfold EventStoreTables.bookEvents
  rw [hEvents, List.filter_append]
  congr 1
  split_ifs with hOther
  · subst hOther
    exact List.filter_eq_self.2 fun row hRow => by simpa using hBook row hRow
  · refine List.filter_eq_nil_iff.2 fun row hRow => ?_
    rw [hBook row hRow]
    simpa using Ne.symm hOther

/-- The rows that are inserted have fresh ids and legal sequence numbers. -/
theorem insertEvents_ok (h : insertEvents rows t = .ok t') :
    t' = { t with events := t.events ++ rows }
      ∧ ((t.events ++ rows).map (·.eventId)).Nodup
      ∧ ∀ row ∈ rows, 1 ≤ row.globalSequence
        ∧ row.globalSequence ≤ bigintMax := by
  simp only [insertEvents, bind_eq_ok, require_eq_ok, forEach_eq_ok,
    pure_eq_ok, exists_const] at h
  obtain ⟨hIds, -, -, -, -, hRows, rfl⟩ := h
  exact ⟨rfl, hIds, fun row hRow => (hRows row hRow).1⟩

end Events

/-! ## Heads -/

section Heads

variable {t t' : EventStoreTables} {bookId : UUID}
  {item : StreamKey × LedgerEventRecord}

/-- The stream heads after a loop over terminal events. -/
structure StreamHeadsSet (bookId : UUID)
    (items : List (StreamKey × LedgerEventRecord))
    (t t' : EventStoreTables) : Prop where
  events : t'.events = t.events
  bookHeads : t'.bookHeads = t.bookHeads
  streamKeys : (t.streamHeads.map fun h => (h.bookId, h.streamKey)).Nodup →
    (t'.streamHeads.map fun h => (h.bookId, h.streamKey)).Nodup
  streamHead : ∀ other key, t'.streamHead? other key
    = (if other = bookId then
        (items.find? fun item => item.1 = key).map
          fun item => EventStreamHeadRecord.ofTerminal item.2
      else none).or (t.streamHead? other key)

/-- A terminal event of the stream it is listed under. -/
def IsTerminal (bookId : UUID) (item : StreamKey × LedgerEventRecord) : Prop :=
  item.2.bookId = bookId ∧ item.2.streamKey = item.1

/-- A head that is new to the table. -/
private theorem streamHead?_insert (head : EventStreamHeadRecord)
    (hNone : t.streamHead? head.bookId head.streamKey = none) (other : UUID)
    (key : StreamKey) :
    ({ t with streamHeads := t.streamHeads ++ [head] } :
        EventStoreTables).streamHead? other key
      = (if other = head.bookId ∧ head.streamKey = key then some head
        else none).or (t.streamHead? other key) := by
  unfold EventStoreTables.streamHead? at hNone ⊢
  rw [List.find?_append]
  by_cases hSame : other = head.bookId ∧ head.streamKey = key
  · obtain ⟨rfl, rfl⟩ := hSame
    rw [hNone]
    simp
  · rw [if_neg hSame, List.find?_cons_of_neg]
    · simp
    · rw [decide_eq_true_eq]
      exact fun hEq => hSame ⟨hEq.1.symm, hEq.2⟩

/-- A head that is rewritten in place. -/
private theorem streamHead?_update (head : EventStreamHeadRecord)
    (hSome : (t.streamHead? head.bookId head.streamKey).isSome) (other : UUID)
    (key : StreamKey) :
    ({ t with streamHeads := t.streamHeads.map fun h =>
        if h.bookId = head.bookId ∧ h.streamKey = head.streamKey then head
        else h } : EventStoreTables).streamHead? other key
      = (if other = head.bookId ∧ head.streamKey = key then some head
        else none).or (t.streamHead? other key) := by
  unfold EventStoreTables.streamHead? at hSome ⊢
  rw [List.find?_map]
  have hKey : ((fun h : EventStreamHeadRecord =>
        decide (h.bookId = other ∧ h.streamKey = key)) ∘ fun h =>
        if h.bookId = head.bookId ∧ h.streamKey = head.streamKey then head
        else h)
      = fun h => decide (h.bookId = other ∧ h.streamKey = key) := by
    funext h
    simp only [Function.comp_apply]
    split_ifs with hCase
    · rw [hCase.1, hCase.2]
    · rfl
  rw [hKey]
  by_cases hSame : other = head.bookId ∧ head.streamKey = key
  · obtain ⟨rfl, rfl⟩ := hSame
    obtain ⟨old, hOld⟩ := Option.isSome_iff_exists.1 hSome
    have hMatch : old.bookId = head.bookId ∧ old.streamKey = head.streamKey := by
      simpa using List.find?_some hOld
    rw [hOld]
    simp [hMatch]
  · rw [if_neg hSame]
    cases hFind : List.find? _ t.streamHeads with
    | none => rfl
    | some found =>
        have hFound : found.bookId = other ∧ found.streamKey = key := by
          simpa using List.find?_some hFind
        have hNot : ¬(found.bookId = head.bookId
            ∧ found.streamKey = head.streamKey) := by
          rintro ⟨hBook, hStream⟩
          exact hSame ⟨hFound.1 ▸ hBook, hStream ▸ hFound.2⟩
        simp [hNot]

/-- One terminal event. -/
theorem advanceStreamHead_ok (hItem : IsTerminal bookId item)
    (h : advanceStreamHead bookId t item = .ok t') :
    StreamHeadsSet bookId [item] t t' := by
  obtain ⟨key, terminal⟩ := item
  obtain ⟨rfl, rfl⟩ : terminal.bookId = bookId ∧ terminal.streamKey = key :=
    hItem
  simp only [advanceStreamHead, bind_eq_ok, require_eq_ok, exists_const] at h
  obtain ⟨-, h⟩ := h
  have hSet : ∀ other key,
      (if other = terminal.bookId ∧ terminal.streamKey = key then
        some (EventStreamHeadRecord.ofTerminal terminal) else none)
      = if other = terminal.bookId then
          ([(terminal.streamKey, terminal)].find? fun item =>
            item.1 = key).map fun item => .ofTerminal item.2
        else none := by
    intro other key
    by_cases hBook : other = terminal.bookId <;>
      by_cases hKey : terminal.streamKey = key <;> simp [hBook, hKey]
  cases hOld : t.streamHead? terminal.bookId terminal.streamKey with
  | none =>
      rw [hOld, pure_eq_ok] at h
      subst h
      refine ⟨rfl, rfl, ?_, ?_⟩
      · intro hKeys
        rw [List.map_append, List.nodup_append]
        refine ⟨hKeys, List.nodup_singleton _, ?_⟩
        intro pair hPair pair' hPair' hEq
        rw [List.map_singleton, List.mem_singleton] at hPair'
        obtain ⟨head, hHead, rfl⟩ := List.mem_map.1 hPair
        rw [hPair'] at hEq
        have hNone := List.find?_eq_none.1 hOld head hHead
        exact hNone (by simpa [EventStreamHeadRecord.streamKey,
          LedgerEventRecord.streamKey] using hEq)
      · intro other key
        rw [← hSet]
        exact streamHead?_insert (.ofTerminal terminal) hOld other key
  | some old =>
      rw [hOld] at h
      simp only [bind_eq_ok, require_eq_ok, pure_eq_ok, exists_const] at h
      obtain ⟨-, h⟩ := h
      have hRow : t' = { t with streamHeads := t.streamHeads.map fun h =>
          if h.bookId = terminal.bookId ∧ h.streamKey = terminal.streamKey then
            EventStreamHeadRecord.ofTerminal terminal
          else h } := by
        rw [← h]
        congr 1
        refine List.map_congr_left fun head _ => ?_
        split_ifs with hCase
        · obtain ⟨hBook, hStream⟩ := hCase
          obtain ⟨hType, hId⟩ := Prod.mk.inj hStream
          simp [EventStreamHeadRecord.ofTerminal, hBook, hType, hId]
        · rfl
      subst hRow
      refine ⟨rfl, rfl, ?_, ?_⟩
      · intro hKeys
        have hSame : (t.streamHeads.map fun h =>
              if h.bookId = terminal.bookId
                ∧ h.streamKey = terminal.streamKey then
                EventStreamHeadRecord.ofTerminal terminal else h).map
              (fun h => (h.bookId, h.streamKey))
            = t.streamHeads.map fun h => (h.bookId, h.streamKey) := by
          rw [List.map_map]
          refine List.map_congr_left fun head _ => ?_
          simp only [Function.comp_apply]
          split_ifs with hCase
          · rw [hCase.1, hCase.2]
            rfl
          · rfl
        exact hSame ▸ hKeys
      · intro other key
        rw [← hSet]
        exact streamHead?_update (.ofTerminal terminal)
          (by rw [Option.isSome_iff_exists]; exact ⟨old, hOld⟩) other key

/-- The loop over the terminal events. -/
theorem advanceStreamHead_foldlM
    {items : List (StreamKey × LedgerEventRecord)}
    (hItems : ∀ item ∈ items, IsTerminal bookId item)
    (hKeys : (items.map (·.1)).Nodup)
    (h : items.foldlM (advanceStreamHead bookId) t = .ok t') :
    StreamHeadsSet bookId items t t' := by
  induction items generalizing t with
  | nil =>
      simp only [List.foldlM_nil, pure_eq_ok] at h
      subst h
      exact ⟨rfl, rfl, id, fun other key => by simp⟩
  | cons item items ih =>
      simp only [List.foldlM_cons, bind_eq_ok] at h
      obtain ⟨t₁, hFirst, hRest⟩ := h
      rw [List.map_cons, List.nodup_cons] at hKeys
      have hOne := advanceStreamHead_ok (hItems item List.mem_cons_self) hFirst
      have hMore := ih (fun other hOther =>
        hItems other (List.mem_cons_of_mem _ hOther)) hKeys.2 hRest
      refine ⟨hMore.events.trans hOne.events,
        hMore.bookHeads.trans hOne.bookHeads,
        fun hNodup => hMore.streamKeys (hOne.streamKeys hNodup), ?_⟩
      intro other key
      rw [hMore.streamHead, hOne.streamHead]
      by_cases hBook : other = bookId
      · by_cases hKey : item.1 = key
        · have hNone : items.find? (fun item => item.1 = key) = none := by
            refine List.find?_eq_none.2 fun later hLater hEq => hKeys.1 ?_
            have hSame : later.1 = key := by simpa using hEq
            exact List.mem_map.2 ⟨later, hLater, hSame.trans hKey.symm⟩
          simp [hBook, hKey, hNone]
        · simp [hBook, hKey]
      · simp [hBook]

/-- The terminal events of a batch, looked up by their stream. -/
theorem find?_terminals {state : BatchState} {streamKeys : List StreamKey}
    (hKeys : ∀ key, (state.terminalByStream.lookup key).isSome →
      key ∈ streamKeys) (key : StreamKey) :
    ((state.terminals streamKeys).find? fun item => item.1 = key).map (·.2)
      = state.terminalByStream.lookup key := by
  have hFind : ∀ keys : List StreamKey,
      ((state.terminals keys).find? fun item => item.1 = key).map (·.2)
        = if key ∈ keys then state.terminalByStream.lookup key else none := by
    intro keys
    induction keys with
    | nil => rfl
    | cons first keys ih =>
        unfold BatchState.terminals at ih ⊢
        rw [List.filterMap_cons]
        cases hFirst : state.terminalByStream.lookup first with
        | none =>
            rw [Option.map_none]
            simp only [ih, List.mem_cons]
            by_cases hEq : key = first
            · subst hEq
              simp [hFirst]
            · simp [hEq]
        | some terminal =>
            rw [Option.map_some]
            by_cases hEq : first = key
            · subst hEq
              simp [hFirst]
            · rw [List.find?_cons_of_neg (by simpa using hEq), ih]
              simp [Ne.symm hEq]
  rw [hFind]
  by_cases hMem : key ∈ streamKeys
  · rw [if_pos hMem]
  · rw [if_neg hMem]
    symm
    rw [← Option.not_isSome_iff_eq_none]
    exact fun hSome => hMem (hKeys key hSome)

theorem terminals_keys {state : BatchState} {streamKeys : List StreamKey}
    (h : streamKeys.Nodup) :
    ((state.terminals streamKeys).map (·.1)).Nodup := by
  have hSub : ((state.terminals streamKeys).map (·.1)).Sublist streamKeys := by
    unfold BatchState.terminals
    induction streamKeys with
    | nil => exact List.Sublist.refl _
    | cons key keys ih =>
        rw [List.nodup_cons] at h
        rw [List.filterMap_cons]
        cases state.terminalByStream.lookup key with
        | none => exact (ih h.2).cons key
        | some terminal => exact (ih h.2).cons_cons key
  exact hSub.nodup h

end Heads

/-! ## A batch -/

theorem mem_dictFromkeys {keys : List StreamKey} {key : StreamKey} :
    key ∈ dictFromkeys keys ↔ key ∈ keys := by
  simp [dictFromkeys]

theorem dictFromkeys_nodup (keys : List StreamKey) :
    (dictFromkeys keys).Nodup := by
  unfold dictFromkeys
  rw [List.nodup_reverse]
  exact List.nodup_dedup _

/-- What a committed batch has done. -/
structure BatchAppended (sha256 : ByteArray → EventHash) (bookId : UUID)
    (head : BookEventHeadRecord) (rows : List LedgerEventRecord)
    (t t' : EventStoreTables) : Prop where
  locked : t.bookHead? bookId = some head
  book : ∀ row ∈ rows, row.bookId = bookId
  verified : ∀ row ∈ rows, computedHash sha256 row = .ok row.eventHash
  numbered : Numbered (·.bookPosition) head.lastPosition rows
  linked : Linked (·.eventHash) (·.previousHash) head.lastHash rows
  versions : ∀ key, Numbered (·.streamVersion)
    (((t.streamHead? bookId key).map (·.lastVersion)).getD 0)
    (ofStream key rows)
  events : t'.events = t.events ++ rows
  eventIds : (t'.events.map (·.eventId)).Nodup
  streamKeys : (t.streamHeads.map fun h => (h.bookId, h.streamKey)).Nodup →
    (t'.streamHeads.map fun h => (h.bookId, h.streamKey)).Nodup
  streamHead : ∀ other key, t'.streamHead? other key
    = (if other = bookId then
        (ofStream key rows).getLast?.map EventStreamHeadRecord.ofTerminal
      else none).or (t.streamHead? other key)
  bookHeads : t'.bookHeads = t.bookHeads.map fun h =>
    if h.bookId = bookId then
      { h with
        lastPosition := head.lastPosition + rows.length
        lastHash := lastLink (·.eventHash) head.lastHash rows }
    else h

section Append

variable {sha256 : ByteArray → EventHash} {bookId : UUID}
  {expectedStreamVersions : Dict StreamKey Int} {events : List PendingEvent}
  {generated : UUID → Nat × Instant} {result : AppendBatchResult}
  {t t' : EventStoreTables}

theorem appendBatch_ok
    (h : appendBatch sha256 bookId expectedStreamVersions events generated t
      = .ok result t') :
    ∃ head rows, BatchAppended sha256 bookId head rows t t' := by
  simp only [appendBatch, bind_ok_iff, get_ok_iff, check_ok_iff, update_ok_iff,
    pure_ok_iff] at h
  obtain ⟨_, _, ⟨rfl, rfl⟩, ⟨head, state⟩, _, ⟨hPrepare, rfl⟩, _, t₁, hInsert,
    _, t₂, hHeads, -, rfl⟩ := h
  simp only [prepareBatch, bind_eq_ok, fetch_eq_ok, pure_eq_ok,
    Prod.mk.injEq] at hPrepare
  obtain ⟨_, -, head', hHead, _, -, state', hLoop, rfl, rfl⟩ := hPrepare
  have hBookId : head'.bookId = bookId := by
    simpa using List.find?_some hHead
  obtain ⟨rows, hRows⟩ := appendPending_foldlM hLoop
  have hStored : state'.storedEvents = rows := by
    rw [hRows.stored, List.nil_append]
  rw [hStored] at hInsert
  obtain ⟨rfl, hIds, hSequences⟩ := insertEvents_ok hInsert
  simp only [advanceHeads, bind_eq_ok] at hHeads
  obtain ⟨t₃, hStreams, hBook⟩ := hHeads
  have hTerminal : ∀ key, state'.terminalByStream.lookup key
      = (ofStream key rows).getLast? := by
    intro key
    rw [hRows.terminal]
    exact Option.or_none
  have hKeys : ∀ key, (state'.terminalByStream.lookup key).isSome →
      key ∈ dictFromkeys (events.map (·.streamKey)) := by
    intro key hSome
    rw [hTerminal, List.getLast?_isSome] at hSome
    obtain ⟨row, hRow⟩ := List.exists_mem_of_ne_nil _ hSome
    obtain ⟨hMem, hKey⟩ := List.mem_filter.1 hRow
    rw [mem_dictFromkeys, ← hRows.keys]
    exact List.mem_map.2 ⟨row, hMem, by simpa using hKey⟩
  have hItems : ∀ item ∈ state'.terminals
      (dictFromkeys (events.map (·.streamKey))),
      IsTerminal head'.bookId item := by
    intro item hItem
    obtain ⟨key, -, hItem⟩ := List.mem_filterMap.1 hItem
    obtain ⟨terminal, hLookup, rfl⟩ := Option.map_eq_some_iff.1 hItem
    rw [hTerminal] at hLookup
    obtain ⟨hMem, hKey⟩ := List.mem_filter.1 (List.mem_of_getLast? hLookup)
    exact ⟨by rw [hRows.book terminal hMem, hBookId], by simpa using hKey⟩
  have hSet := advanceStreamHead_foldlM hItems
    (terminals_keys (dictFromkeys_nodup _)) hStreams
  simp only [advanceBookHead, bind_eq_ok, require_eq_ok, pure_eq_ok,
    exists_const] at hBook
  obtain ⟨-, -, rfl⟩ := hBook
  have hVerified : ∀ row ∈ rows, computedHash sha256 row = .ok row.eventHash :=
    fun row hRow => hRows.verified row hRow (hSequences row hRow)
  refine ⟨head', rows, hHead, hRows.book, hVerified, hRows.numbered,
    hRows.linked, hRows.versions, hSet.events, ?_, hSet.streamKeys, ?_, ?_⟩
  · show (t₃.events.map (·.eventId)).Nodup
    rw [hSet.events]
    exact hIds
  · intro other key
    show t₃.streamHead? other key = _
    rw [hSet.streamHead, hBookId, ← hTerminal, ← find?_terminals hKeys,
      Option.map_map]
    rfl
  · show t₃.bookHeads.map _ = _
    rw [hSet.bookHeads, hRows.position, hRows.hash, hBookId]

/-- A committed batch keeps the invariant. -/
theorem StoreInvariant.append (h : StoreInvariant sha256 t)
    {head : BookEventHeadRecord} {rows : List LedgerEventRecord}
    (hAppended : BatchAppended sha256 bookId head rows t t') :
    StoreInvariant sha256 t' := by
  have hMem : head ∈ t.bookHeads := List.mem_of_find?_eq_some hAppended.locked
  have hBookId : head.bookId = bookId := by
    simpa using List.find?_some hAppended.locked
  obtain ⟨hPosition, hHash⟩ := h.bookHead head hMem
  rw [hBookId] at hPosition hHash
  have hHeadIds : t'.bookHeads.map (·.bookId) = t.bookHeads.map (·.bookId) := by
    rw [hAppended.bookHeads, List.map_map]
    refine List.map_congr_left fun other _ => ?_
    simp only [Function.comp_apply]
    split_ifs <;> rfl
  have hBooks := bookEvents_append hAppended.events hAppended.book
  have hStreams : ∀ other key, t'.streamEvents other key
      = t.streamEvents other key
        ++ if other = bookId then ofStream key rows else [] := by
    intro other key
    rw [streamEvents_eq, streamEvents_eq, hBooks, ofStream, List.filter_append]
    split_ifs <;> rfl
  refine
    { headIds := hHeadIds ▸ h.headIds
      homed := ?_
      eventIds := hAppended.eventIds
      verified := ?_
      numbered := ?_
      linked := ?_
      versions := ?_
      bookHead := ?_
      streamKeys := hAppended.streamKeys h.streamKeys
      streamHead := ?_ }
  · intro e he
    rw [hAppended.events] at he
    rw [hHeadIds]
    rcases List.mem_append.1 he with he | he
    · exact h.homed e he
    · rw [hAppended.book e he, ← hBookId]
      exact List.mem_map.2 ⟨head, hMem, rfl⟩
  · intro e he
    rw [hAppended.events] at he
    rcases List.mem_append.1 he with he | he
    · exact h.verified e he
    · exact hAppended.verified e he
  · intro other
    rw [hBooks, numbered_append]
    refine ⟨h.numbered other, ?_⟩
    split_ifs with hOther
    · subst hOther
      rw [Nat.zero_add, ← hPosition]
      exact hAppended.numbered
    · exact numbered_nil
  · intro other
    rw [hBooks, linked_append]
    refine ⟨h.linked other, ?_⟩
    split_ifs with hOther
    · subst hOther
      rw [← hHash]
      exact hAppended.linked
    · exact linked_nil
  · intro other key
    rw [hStreams, numbered_append]
    refine ⟨h.versions other key, ?_⟩
    split_ifs with hOther
    · subst hOther
      have hStart : ((t.streamHead? other key).map (·.lastVersion)).getD 0
          = 0 + (t.streamEvents other key).length := by
        rw [h.streamHead]
        cases hLast : (t.streamEvents other key).getLast? with
        | none => simp [List.getLast?_eq_none_iff.1 hLast]
        | some last => exact (h.versions other key).getLast hLast
      rw [← hStart]
      exact hAppended.versions key
    · exact numbered_nil
  · intro other hOther
    rw [hAppended.bookHeads] at hOther
    obtain ⟨old, hOld, rfl⟩ := List.mem_map.1 hOther
    obtain ⟨hOldPosition, hOldHash⟩ := h.bookHead old hOld
    by_cases hBook : old.bookId = bookId
    · have hSame : t'.bookEvents old.bookId = t.bookEvents bookId ++ rows := by
        rw [hBooks, if_pos hBook, hBook]
      rw [if_pos hBook]
      show head.lastPosition + rows.length = (t'.bookEvents old.bookId).length
        ∧ lastLink (·.eventHash) head.lastHash rows
          = lastLink (·.eventHash) zeroHash (t'.bookEvents old.bookId)
      rw [hSame, List.length_append, lastLink_append, hPosition, hHash]
      exact ⟨rfl, rfl⟩
    · have hSame : t'.bookEvents old.bookId = t.bookEvents old.bookId := by
        rw [hBooks, if_neg hBook, List.append_nil]
      rw [if_neg hBook, hSame]
      exact ⟨hOldPosition, hOldHash⟩
  · intro other key
    rw [hAppended.streamHead, h.streamHead, hStreams, List.getLast?_append]
    split_ifs with hOther
    · cases (ofStream key rows).getLast? <;> rfl
    · rfl

end Append

end TrackAnywhere.Ports
