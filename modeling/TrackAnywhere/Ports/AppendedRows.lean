import TrackAnywhere.Ports.EventVerification
import TrackAnywhere.Verified.ChainedLog

/-!
# The rows of a batch

What the append loop builds, said once: `RowsExtend` lists what the rows
between two states of the loop have in common with the accumulators.  One
iteration extends by one row (`appendPending_ok`), extensions compose
(`RowsExtend.trans`), and so the whole loop extends by as many rows as there
are events (`appendPending_foldlM`).
-/

namespace TrackAnywhere.Ports

open TrackAnywhere.Verified.Checked
open TrackAnywhere.Verified.KeyedSum
open TrackAnywhere.Verified.ChainedLog

/-- Once its sequence number is a legal one, the row passes
`_verify_stored_event`. -/
def HashVerified (sha256 : ByteArray → EventHash) (row : LedgerEventRecord) :
    Prop :=
  1 ≤ row.globalSequence ∧ row.globalSequence ≤ bigintMax →
    computedHash sha256 row = .ok row.eventHash

/-- The rows of a stream. -/
abbrev ofStream (key : StreamKey) (rows : List LedgerEventRecord) :
    List LedgerEventRecord :=
  rows.filter fun row => row.streamKey = key

/-- The rows built between two states of the loop, for these events. -/
structure RowsExtend (sha256 : ByteArray → EventHash) (bookId : UUID)
    (state state' : BatchState) (pending : List PendingEvent)
    (rows : List LedgerEventRecord) : Prop where
  stored : state'.storedEvents = state.storedEvents ++ rows
  keys : rows.map (·.streamKey) = pending.map (·.streamKey)
  book : ∀ row ∈ rows, row.bookId = bookId
  verified : ∀ row ∈ rows, HashVerified sha256 row
  numbered : Numbered (·.bookPosition) state.nextPosition rows
  position : state'.nextPosition = state.nextPosition + rows.length
  linked : Linked (·.eventHash) (·.previousHash) state.previousHash rows
  hash : state'.previousHash = lastLink (·.eventHash) state.previousHash rows
  versions : ∀ key,
    Numbered (·.streamVersion) (state.nextVersions key) (ofStream key rows)
  version : ∀ key, state'.nextVersions key
    = state.nextVersions key + (ofStream key rows).length
  terminal : ∀ key, state'.terminalByStream.lookup key
    = (ofStream key rows).getLast?.or (state.terminalByStream.lookup key)

variable {sha256 : ByteArray → EventHash} {bookId : UUID}
  {generated : UUID → Nat × Instant} {state state' state'' : BatchState}

theorem RowsExtend.refl (state : BatchState) :
    RowsExtend sha256 bookId state state [] [] where
  stored := (List.append_nil _).symm
  keys := rfl
  book := fun _ h => absurd h List.not_mem_nil
  verified := fun _ h => absurd h List.not_mem_nil
  numbered := numbered_nil
  position := rfl
  linked := linked_nil
  hash := rfl
  versions := fun _ => numbered_nil
  version := fun _ => rfl
  terminal := fun _ => rfl

theorem RowsExtend.trans {pending pending' : List PendingEvent}
    {rows rows' : List LedgerEventRecord}
    (h : RowsExtend sha256 bookId state state' pending rows)
    (h' : RowsExtend sha256 bookId state' state'' pending' rows') :
    RowsExtend sha256 bookId state state'' (pending ++ pending')
      (rows ++ rows') where
  stored := by rw [h'.stored, h.stored, List.append_assoc]
  keys := by rw [List.map_append, List.map_append, h.keys, h'.keys]
  book := fun row hRow => (List.mem_append.1 hRow).elim (h.book row) (h'.book row)
  verified := fun row hRow =>
    (List.mem_append.1 hRow).elim (h.verified row) (h'.verified row)
  numbered := numbered_append.2 ⟨h.numbered, h.position ▸ h'.numbered⟩
  position := by
    rw [h'.position, h.position, List.length_append, Nat.add_assoc]
  linked := linked_append.2 ⟨h.linked, h.hash ▸ h'.linked⟩
  hash := by rw [h'.hash, h.hash, ← lastLink_append]
  versions := by
    intro key
    rw [ofStream, List.filter_append]
    exact numbered_append.2 ⟨h.versions key, h.version key ▸ h'.versions key⟩
  version := by
    intro key
    rw [h'.version, h.version, ofStream, ofStream, ofStream,
      List.filter_append, List.length_append, Nat.add_assoc]
  terminal := by
    intro key
    rw [h'.terminal, h.terminal, ofStream, ofStream, ofStream,
      List.filter_append, List.getLast?_append, Option.or_assoc]

/-- A row that takes the next position and version, and points to the last
hash, extends the batch by itself. -/
theorem RowsExtend.push {pending : PendingEvent} {row : LedgerEventRecord}
    (hKey : row.streamKey = pending.streamKey) (hBook : row.bookId = bookId)
    (hVerified : HashVerified sha256 row)
    (hPosition : row.bookPosition = state.nextPosition + 1)
    (hPrevious : row.previousHash = state.previousHash)
    (hVersion : row.streamVersion = state.nextVersions row.streamKey + 1) :
    RowsExtend sha256 bookId state (state.push row) [pending] [row] where
  stored := rfl
  keys := by rw [List.map_singleton, List.map_singleton, hKey]
  book := fun other hOther => by rw [List.mem_singleton.1 hOther, hBook]
  verified := fun other hOther => by rwa [List.mem_singleton.1 hOther]
  numbered := numbered_singleton.2 hPosition
  position := hPosition
  linked := ⟨hPrevious, trivial⟩
  hash := rfl
  versions := by
    intro key
    by_cases hEq : row.streamKey = key
    · subst hEq
      simpa [ofStream] using hVersion
    · simp [ofStream, hEq]
  version := by
    intro key
    by_cases hEq : row.streamKey = key
    · subst hEq
      simpa [BatchState.push, ofStream] using hVersion
    · simp [BatchState.push, ofStream, hEq, Ne.symm hEq]
  terminal := by
    intro key
    by_cases hEq : row.streamKey = key
    · subst hEq
      simp [BatchState.push, ofStream]
    · simp [BatchState.push, ofStream, hEq,
        AList.lookup_insert_ne (Ne.symm hEq)]

/-- One iteration builds one row. -/
theorem appendPending_ok {pending : PendingEvent}
    (h : appendPending sha256 bookId generated state pending = .ok state') :
    ∃ row, RowsExtend sha256 bookId state state' [pending] [row] := by
  simp only [appendPending, bind_eq_ok, mapError_eq_ok, pure_eq_ok] at h
  obtain ⟨payload, hDump, hash, hHash, rfl⟩ := h
  simp only [dumpRegistered, bind_eq_ok, pure_eq_ok] at hDump
  obtain ⟨_, -, rfl⟩ := hDump
  refine ⟨_, RowsExtend.push rfl rfl ?_ rfl rfl rfl⟩
  intro hSequence
  unfold computedHash
  rw [bind_eq_ok]
  refine ⟨pending.payload, ?_, ?_⟩
  · rw [mapError_eq_ok, validateStored_eq_ok]
    exact ⟨rfl, rfl, rfl⟩
  · exact eventHash_generated sha256 (generated pending.eventId).2 hHash
      hSequence

/-- The loop builds the rows of the batch. -/
theorem appendPending_foldlM {events : List PendingEvent}
    (h : events.foldlM (appendPending sha256 bookId generated) state
      = .ok state') :
    ∃ rows, RowsExtend sha256 bookId state state' events rows := by
  induction events generalizing state with
  | nil =>
      simp only [List.foldlM_nil, pure_eq_ok] at h
      subst h
      exact ⟨[], RowsExtend.refl _⟩
  | cons pending events ih =>
      simp only [List.foldlM_cons, bind_eq_ok] at h
      obtain ⟨state₁, hFirst, hRest⟩ := h
      obtain ⟨row, hRow⟩ := appendPending_ok hFirst
      obtain ⟨rows, hRows⟩ := ih hRest
      exact ⟨row :: rows, hRow.trans hRows⟩

end TrackAnywhere.Ports
