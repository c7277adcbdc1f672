import TrackAnywhere.Ports.OutboxDelivery
import TrackAnywhere.Verified.Run

/-!
# Delivery under every interleaving

`outboxChange_of_step` says what a step can do, with what the queries and the
trigger checked.  The
invariant `OutboxInvariant` ties the rows and the workers to the events on
record, and holds after every run.
-/

namespace TrackAnywhere.Ports

open TrackAnywhere.Verified
open TrackAnywhere.Verified.Checked

/-! ## Events on record -/

abbrev OutboxLabel := OutboxAction × Option OutboxEvent

def OutboxEvent.claimed? : OutboxEvent → Option UUID
  | .claimed _ messageId => some messageId
  | _ => none

def OutboxEvent.delivered? : OutboxEvent → Option UUID
  | .delivered _ messageId => some messageId
  | _ => none

def eventsOf (trace : List OutboxLabel) : List OutboxEvent := trace.filterMap (·.2)

/-- The committed claims of a message. -/
def claimCount (trace : List OutboxLabel) (messageId : UUID) : Nat :=
  (eventsOf trace).countP fun e => e.claimed? = some messageId

def deliveryCount (trace : List OutboxLabel) (messageId : UUID) : Nat :=
  (eventsOf trace).countP fun e => e.delivered? = some messageId

/-- A publish of the message by the worker returned, and the worker has claimed
nothing since. -/
def PublishedSince (trace : List OutboxLabel) (workerId : String) (messageId : UUID) : Prop :=
  ∃ before after, eventsOf trace = before ++ .published workerId messageId :: after
    ∧ ∀ other, .claimed workerId other ∉ after

theorem eventsOf_append (trace : List OutboxLabel) (label : OutboxLabel) :
    eventsOf (trace ++ [label]) = eventsOf trace ++ label.2.toList := by
  unfold eventsOf
  rw [List.filterMap_append]
  cases hEvent : label.2 <;> simp [hEvent]

/-! ## What a step does -/

/-- The row that an update writes in place of another. -/
def replaceRow (old new : OutboxMessageRecord) (rows : List OutboxMessageRecord) :
    List OutboxMessageRecord :=
  rows.map fun row => if row.messageId = old.messageId then new else row

/-- A step, with what its queries and the trigger checked. -/
inductive OutboxChange (s : OutboxSystem) : OutboxLabel → OutboxSystem → Prop
  | unchanged (action : OutboxAction) : OutboxChange s (action, none) s
  | enqueued (action : OutboxAction) (new : OutboxMessageRecord)
      (hFresh : new.messageId ∉ s.rows.map (·.messageId))
      (hNew : new.attemptCount = 0 ∧ new.deliveredAt = none) :
      OutboxChange s (action, none) { s with rows := s.rows ++ [new] }
  | claimed (record : OutboxMessageRecord) (worker : OutboxDeliveryWorker)
      (claimedAt clock : Moment) (skipped : List UUID) (message : OutboxMessage)
      (hMem : record ∈ s.rows) (hOpen : record.deliveredAt = none)
      (hFree : record.lockedBy = some worker.workerId ∨ record.lockedBy = none
        ∨ ¬record.unexpired clock) :
      OutboxChange s (.claim worker claimedAt clock skipped,
          some (.claimed worker.workerId record.messageId))
        (s.moved worker.workerId (.publishing message)
          (replaceRow record (record.claimedBy worker claimedAt) s.rows))
  | published (workerId : String) (message : OutboxMessage) :
      OutboxChange s (.publishReturned workerId, some (.published workerId message.messageId))
        (s.moved workerId (.published message) s.rows)
  | stopped (action : OutboxAction) (workerId : String) :
      OutboxChange s (action, none) (s.moved workerId .idle s.rows)
  | delivered (record : OutboxMessageRecord) (worker : OutboxDeliveryWorker)
      (deliveredAt clock : Moment) (message : OutboxMessage) (hMem : record ∈ s.rows)
      (hPhase : s.phase worker.workerId = .published message)
      (hId : message.messageId = record.messageId) (hOpen : record.deliveredAt = none)
      (hOwner : record.lockedBy = some worker.workerId) (hLive : record.unexpired clock) :
      OutboxChange s (.acknowledge worker deliveredAt clock,
          some (.delivered worker.workerId record.messageId))
        (s.moved worker.workerId .idle
          (replaceRow record (record.delivered deliveredAt) s.rows))

section Steps

variable {s s' : OutboxSystem} {rows rows' : List OutboxMessageRecord}
  {worker : OutboxDeliveryWorker} {clock : Moment}

theorem updateOutboxRow_ok {old new : OutboxMessageRecord}
    (h : updateOutboxRow clock old new rows = .ok rows') :
    validateOutboxUpdate clock old new = .ok () ∧ rows' = replaceRow old new rows := by
  simp only [updateOutboxRow, bind_eq_ok, pure_eq_ok] at h
  obtain ⟨⟨⟩, hValid, ⟨⟩, -, rfl⟩ := h
  exact ⟨hValid, rfl⟩

/-- A claim takes a row that is open, and whose claim by another has expired. -/
theorem claimOutbox_ok {claimedAt : Moment} {skipped : List UUID} {message : OutboxMessage}
    (h : claimOutbox worker claimedAt clock skipped rows = .ok (some message, rows')) :
    ∃ record, (claimable claimedAt skipped rows).head? = some record
      ∧ record ∈ rows ∧ record.deliveredAt = none
      ∧ (record.lockedBy = some worker.workerId ∨ record.lockedBy = none
        ∨ ¬record.unexpired clock)
      ∧ message.messageId = record.messageId
      ∧ rows' = replaceRow record (record.claimedBy worker claimedAt) rows := by
  unfold claimOutbox at h
  split at h
  · exact nomatch h
  · next record hFirst =>
    simp only [bind_eq_ok, pure_eq_ok, Prod.mk.injEq, Option.some.injEq] at h
    obtain ⟨rows₁, hUpdate, rfl, rfl⟩ := h
    obtain ⟨hValid, hRows⟩ := updateOutboxRow_ok hUpdate
    have hMem : record ∈ claimable claimedAt skipped rows := List.mem_of_head? hFirst
    rw [claimable, List.mem_insertionSort, List.mem_filter] at hMem
    obtain ⟨hRow, hEligible⟩ := hMem
    obtain ⟨-, hOpen, -⟩ := of_decide_eq_true hEligible
    refine ⟨record, hFirst, hRow, hOpen, ?_, rfl, hRows⟩
    unfold validateOutboxUpdate at hValid
    rw [if_neg (not_not_intro hOpen)] at hValid
    simp only [bind_eq_ok, require_eq_ok, exists_const] at hValid
    obtain ⟨-, -, hStolen, -⟩ := hValid
    by_cases hSame : record.lockedBy = some worker.workerId
    · exact .inl hSame
    · have hFree := hStolen ⟨hSame, Option.some_ne_none _⟩
      by_cases hLocked : record.lockedBy = none
      · exact .inr (.inl hLocked)
      · exact .inr (.inr fun hLive => hFree ⟨hLocked, hLive⟩)

/-- An acknowledgement needs the unexpired claim of the worker. -/
theorem ackOutbox_ok {messageId : UUID} {deliveredAt : Moment}
    (h : ackOutbox worker messageId deliveredAt clock rows = .ok rows') :
    ∃ record ∈ rows, record.messageId = messageId ∧ record.deliveredAt = none
      ∧ record.lockedBy = some worker.workerId ∧ record.unexpired clock
      ∧ rows' = replaceRow record (record.delivered deliveredAt) rows := by
  unfold ackOutbox at h
  split at h
  · exact nomatch h
  · next record hFound =>
    obtain ⟨hValid, hRows⟩ := updateOutboxRow_ok h
    have hRow := List.find?_some hFound
    obtain ⟨hId, hOpen, hOwner⟩ := of_decide_eq_true hRow
    unfold validateOutboxUpdate at hValid
    rw [if_neg (not_not_intro hOpen)] at hValid
    simp only [bind_eq_ok, require_eq_ok, exists_const] at hValid
    obtain ⟨-, -, -, -, -, hLive, -⟩ := hValid
    exact ⟨record, List.mem_of_find?_eq_some hFound, hId, hOpen, hOwner,
      hLive (Option.some_ne_none _), hRows⟩

theorem outboxChange_of_step {label : OutboxLabel} (h : OutboxSteps s label s') :
    OutboxChange s label s' := by
  obtain ⟨action, event⟩ := label
  unfold OutboxSteps at h
  dsimp only at h
  cases action with
  | enqueue messageId content availableAt =>
      simp only [OutboxSystem.step] at h
      split_ifs at h with hFresh
      obtain ⟨rfl, rfl⟩ := Prod.mk.inj (Option.some.inj h)
      exact .enqueued _ _ hFresh ⟨rfl, rfl⟩
  | claim worker claimedAt clock skipped =>
      simp only [OutboxSystem.step] at h
      split at h
      · split at h
        · next message rows hClaim =>
          obtain ⟨rfl, rfl⟩ := Prod.mk.inj (Option.some.inj h)
          obtain ⟨record, -, hMem, hOpen, hFree, hId, rfl⟩ := claimOutbox_ok hClaim
          rw [hId]
          exact .claimed record worker claimedAt clock skipped message hMem hOpen hFree
        · obtain ⟨rfl, rfl⟩ := Prod.mk.inj (Option.some.inj h)
          exact .unchanged _
        · obtain ⟨rfl, rfl⟩ := Prod.mk.inj (Option.some.inj h)
          exact .unchanged _
      · exact nomatch h
  | publishReturned workerId =>
      simp only [OutboxSystem.step] at h
      split at h
      · obtain ⟨rfl, rfl⟩ := Prod.mk.inj (Option.some.inj h)
        exact .published _ _
      · exact nomatch h
  | publishRaised workerId =>
      simp only [OutboxSystem.step] at h
      split at h
      · obtain ⟨rfl, rfl⟩ := Prod.mk.inj (Option.some.inj h)
        exact .stopped _ _
      · exact nomatch h
  | acknowledge worker deliveredAt clock =>
      simp only [OutboxSystem.step] at h
      split at h
      · next message hPhase =>
        split at h
        · next rows hAck =>
          obtain ⟨rfl, rfl⟩ := Prod.mk.inj (Option.some.inj h)
          obtain ⟨record, hMem, hId, hOpen, hOwner, hLive, rfl⟩ := ackOutbox_ok hAck
          rw [← hId]
          exact .delivered record worker deliveredAt clock message hMem hPhase hId.symm
            hOpen hOwner hLive
        · obtain ⟨rfl, rfl⟩ := Prod.mk.inj (Option.some.inj h)
          exact .stopped _ _
      · exact nomatch h
  | crash workerId =>
      obtain ⟨rfl, rfl⟩ := Prod.mk.inj (Option.some.inj h)
      exact .stopped _ _

end Steps

/-! ## Rows -/

section Rows

variable {rows : List OutboxMessageRecord} {old new : OutboxMessageRecord}

theorem map_messageId_replaceRow (hId : new.messageId = old.messageId) :
    (replaceRow old new rows).map (·.messageId) = rows.map (·.messageId) := by
  rw [replaceRow, List.map_map]
  refine List.map_congr_left fun row _ => ?_
  rw [Function.comp_apply]
  split_ifs with hRow
  · exact hId.trans hRow.symm
  · rfl

/-- A row after the update is the new one, or it is another message's. -/
theorem mem_replaceRow {row : OutboxMessageRecord} (h : row ∈ replaceRow old new rows) :
    row = new ∨ (row ∈ rows ∧ row.messageId ≠ old.messageId) := by
  obtain ⟨before, hBefore, rfl⟩ := List.mem_map.1 h
  split_ifs with hId
  · exact .inl rfl
  · exact .inr ⟨hBefore, hId⟩

/-- Under unique ids, each row is replaced or stays. -/
theorem row_of_replaceRow (hIds : (rows.map (·.messageId)).Nodup) (hOld : old ∈ rows)
    (hId : new.messageId = old.messageId) {row : OutboxMessageRecord} (hRow : row ∈ rows) :
    ∃ row' ∈ replaceRow old new rows, row'.messageId = row.messageId
      ∧ (row = old ∧ row' = new ∨ row' = row) := by
  refine ⟨_, List.mem_map.2 ⟨row, hRow, rfl⟩, ?_⟩
  split_ifs with hSame
  · have hEq : row = old := List.inj_on_of_nodup_map hIds hRow hOld hSame
    exact ⟨hId.trans hSame.symm, .inl ⟨hEq, rfl⟩⟩
  · exact ⟨rfl, .inr rfl⟩

end Rows

/-! ## The invariant -/

/-- The rows and the workers against the events on record. -/
structure OutboxInvariant (trace : List OutboxLabel) (s : OutboxSystem) : Prop where
  ids : (s.rows.map (·.messageId)).Nodup
  attempts : ∀ row ∈ s.rows, row.attemptCount = claimCount trace row.messageId
  deliveries : ∀ row ∈ s.rows,
    deliveryCount trace row.messageId = if row.deliveredAt = none then 0 else 1
  unknown : ∀ messageId ∉ s.rows.map (·.messageId),
    claimCount trace messageId = 0 ∧ deliveryCount trace messageId = 0
  published : ∀ workerId message, s.phase workerId = .published message →
    PublishedSince trace workerId message.messageId

namespace OutboxInvariant

variable {trace : List OutboxLabel} {s s' : OutboxSystem}

theorem empty : OutboxInvariant [] OutboxSystem.empty :=
  ⟨List.nodup_nil, (fun _ h => nomatch h), (fun _ h => nomatch h),
    (fun _ _ => ⟨rfl, rfl⟩), (fun _ _ h => nomatch h)⟩

/-- The counts after a label. -/
theorem claimCount_append (trace : List OutboxLabel) (label : OutboxLabel)
    (messageId : UUID) : claimCount (trace ++ [label]) messageId
      = claimCount trace messageId
        + if label.2.bind (·.claimed?) = some messageId then 1 else 0 := by
  unfold claimCount
  rw [eventsOf_append, List.countP_append]
  cases hEvent : label.2 with
  | none => simp
  | some e => simp [List.countP_singleton]

theorem deliveryCount_append (trace : List OutboxLabel) (label : OutboxLabel)
    (messageId : UUID) : deliveryCount (trace ++ [label]) messageId
      = deliveryCount trace messageId
        + if label.2.bind (·.delivered?) = some messageId then 1 else 0 := by
  unfold deliveryCount
  rw [eventsOf_append, List.countP_append]
  cases hEvent : label.2 with
  | none => simp
  | some e => simp [List.countP_singleton]

theorem claimCount_claimed (trace : List OutboxLabel) (action : OutboxAction)
    (workerId : String) (claimed messageId : UUID) :
    claimCount (trace ++ [(action, some (.claimed workerId claimed))]) messageId
      = claimCount trace messageId + if claimed = messageId then 1 else 0 := by
  rw [claimCount_append]
  simp [OutboxEvent.claimed?]

theorem deliveryCount_delivered (trace : List OutboxLabel) (action : OutboxAction)
    (workerId : String) (delivered messageId : UUID) :
    deliveryCount (trace ++ [(action, some (.delivered workerId delivered))]) messageId
      = deliveryCount trace messageId + if delivered = messageId then 1 else 0 := by
  rw [deliveryCount_append]
  simp [OutboxEvent.delivered?]

/-- A published message stays so until the worker claims again. -/
theorem publishedSince_append {workerId : String} {messageId : UUID} {label : OutboxLabel}
    (h : PublishedSince trace workerId messageId)
    (hQuiet : ∀ other, label.2 ≠ some (.claimed workerId other)) :
    PublishedSince (trace ++ [label]) workerId messageId := by
  obtain ⟨before, after, hEvents, hAfter⟩ := h
  refine ⟨before, after ++ label.2.toList, ?_, fun other hMem => ?_⟩
  · rw [eventsOf_append, hEvents, List.append_assoc, List.cons_append]
  · rcases List.mem_append.1 hMem with hMem | hMem
    · exact hAfter other hMem
    · exact hQuiet other (Option.mem_toList.1 hMem)

/-- A label without a claim or a delivery leaves the counts. -/
theorem counts_of_quiet {label : OutboxLabel} (hClaim : label.2.bind (·.claimed?) = none)
    (hDelivery : label.2.bind (·.delivered?) = none) (messageId : UUID) :
    claimCount (trace ++ [label]) messageId = claimCount trace messageId
      ∧ deliveryCount (trace ++ [label]) messageId = deliveryCount trace messageId := by
  rw [claimCount_append, deliveryCount_append, hClaim, hDelivery]
  exact ⟨rfl, rfl⟩

/-- The rows part, where the label leaves the counts and the rows. -/
theorem quiet (h : OutboxInvariant trace s) {label : OutboxLabel}
    (hRows : s'.rows = s.rows) (hClaim : label.2.bind (·.claimed?) = none)
    (hDelivery : label.2.bind (·.delivered?) = none)
    (hPublished : ∀ workerId message, s'.phase workerId = .published message →
      PublishedSince (trace ++ [label]) workerId message.messageId) :
    OutboxInvariant (trace ++ [label]) s' where
  ids := hRows ▸ h.ids
  attempts row hRow := by
    rw [(counts_of_quiet hClaim hDelivery _).1]
    exact h.attempts row (hRows ▸ hRow)
  deliveries row hRow := by
    rw [(counts_of_quiet hClaim hDelivery _).2]
    exact h.deliveries row (hRows ▸ hRow)
  unknown messageId hNew := by
    rw [(counts_of_quiet hClaim hDelivery _).1, (counts_of_quiet hClaim hDelivery _).2]
    exact h.unknown messageId (hRows ▸ hNew)
  published := hPublished

theorem step (h : OutboxInvariant trace s) {label : OutboxLabel}
    (hChange : OutboxChange s label s') : OutboxInvariant (trace ++ [label]) s' := by
  cases hChange with
  | unchanged action =>
      refine h.quiet rfl rfl rfl fun workerId message hPhase => ?_
      exact publishedSince_append (h.published workerId message hPhase) fun _ hEvent =>
        nomatch hEvent
  | enqueued action new hFresh hNew =>
      obtain ⟨hNoClaims, hNoDeliveries⟩ := h.unknown _ hFresh
      have hCounts := fun messageId =>
        @counts_of_quiet trace (action, none) rfl rfl messageId
      refine ⟨?_, ?_, ?_, ?_, ?_⟩
      · rw [List.map_append, List.nodup_append]
        refine ⟨h.ids, List.nodup_singleton _, fun a ha b hb hab => ?_⟩
        rw [List.map_singleton, List.mem_singleton] at hb
        exact hFresh (hb ▸ hab ▸ ha)
      · intro row hRow
        rw [(hCounts _).1]
        rcases List.mem_append.1 hRow with hRow | hRow
        · exact h.attempts row hRow
        · rw [List.mem_singleton.1 hRow, hNoClaims]
          exact hNew.1
      · intro row hRow
        rw [(hCounts _).2]
        rcases List.mem_append.1 hRow with hRow | hRow
        · exact h.deliveries row hRow
        · rw [List.mem_singleton.1 hRow, hNoDeliveries, if_pos hNew.2]
      · intro messageId hUnknown
        rw [(hCounts _).1, (hCounts _).2]
        refine h.unknown messageId fun hMem => hUnknown ?_
        rw [List.map_append]
        exact List.mem_append_left _ hMem
      · intro workerId message hPhase
        exact publishedSince_append (h.published workerId message hPhase) fun _ hEvent =>
          nomatch hEvent
  | claimed record worker claimedAt clock skipped message hMem hOpen hFree =>
      have hIds := @map_messageId_replaceRow s.rows record (record.claimedBy worker claimedAt) rfl
      refine ⟨?_, ?_, ?_, ?_, ?_⟩
      · show ((replaceRow _ _ s.rows).map (·.messageId)).Nodup
        rw [hIds]
        exact h.ids
      · intro row hRow
        rw [claimCount_claimed]
        rcases mem_replaceRow hRow with rfl | ⟨hOld, hOther⟩
        · rw [OutboxMessageRecord.messageId_claimedBy, if_pos rfl]
          exact congrArg (· + 1) (h.attempts record hMem)
        · rw [h.attempts row hOld, if_neg (Ne.symm hOther), Nat.add_zero]
      · intro row hRow
        rw [deliveryCount_append]
        rcases mem_replaceRow hRow with rfl | ⟨hOld, -⟩
        · exact h.deliveries record hMem
        · exact h.deliveries row hOld
      · intro messageId hUnknown
        change messageId ∉ (replaceRow _ _ s.rows).map (·.messageId) at hUnknown
        rw [hIds] at hUnknown
        rw [claimCount_claimed, deliveryCount_append, (h.unknown _ hUnknown).1,
          (h.unknown _ hUnknown).2, Nat.zero_add]
        refine ⟨if_neg fun hSame => ?_, rfl⟩
        exact hUnknown (List.mem_map.2 ⟨record, hMem, hSame⟩)
      · intro workerId other hPhase
        simp only [OutboxSystem.moved] at hPhase
        split_ifs at hPhase with hWorker
        refine publishedSince_append (h.published workerId other hPhase) fun _ hEvent => ?_
        cases hEvent
        exact hWorker rfl
  | published workerId message =>
      refine h.quiet rfl rfl rfl fun other message' hPhase => ?_
      simp only [OutboxSystem.moved] at hPhase
      split_ifs at hPhase with hWorker
      · cases hPhase
        refine ⟨eventsOf trace, [], ?_, fun _ hNil => nomatch hNil⟩
        rw [eventsOf_append, hWorker]
        rfl
      · exact publishedSince_append (h.published other message' hPhase) fun _ hEvent =>
          nomatch hEvent
  | stopped action workerId =>
      refine h.quiet rfl rfl rfl fun other message hPhase => ?_
      simp only [OutboxSystem.moved] at hPhase
      split_ifs at hPhase
      exact publishedSince_append (h.published other message hPhase) fun _ hEvent =>
        nomatch hEvent
  | delivered record worker deliveredAt clock message hMem hPhase hId hOpen hOwner hLive =>
      have hIds := @map_messageId_replaceRow s.rows record (record.delivered deliveredAt) rfl
      refine ⟨?_, ?_, ?_, ?_, ?_⟩
      · show ((replaceRow _ _ s.rows).map (·.messageId)).Nodup
        rw [hIds]
        exact h.ids
      · intro row hRow
        rw [claimCount_append]
        rcases mem_replaceRow hRow with rfl | ⟨hOld, -⟩
        · exact h.attempts record hMem
        · exact h.attempts row hOld
      · intro row hRow
        rw [deliveryCount_delivered]
        rcases mem_replaceRow hRow with rfl | ⟨hOld, hOther⟩
        · have hNone := h.deliveries record hMem
          rw [if_pos hOpen] at hNone
          rw [OutboxMessageRecord.messageId_delivered, if_pos rfl, hNone]
          rfl
        · rw [h.deliveries row hOld, if_neg (Ne.symm hOther), Nat.add_zero]
      · intro messageId hUnknown
        change messageId ∉ (replaceRow _ _ s.rows).map (·.messageId) at hUnknown
        rw [hIds] at hUnknown
        rw [claimCount_append, deliveryCount_delivered, (h.unknown _ hUnknown).1,
          (h.unknown _ hUnknown).2, Nat.zero_add, Nat.zero_add]
        refine ⟨rfl, if_neg fun hSame => ?_⟩
        exact hUnknown (List.mem_map.2 ⟨record, hMem, hSame⟩)
      · intro other message' hPhase'
        simp only [OutboxSystem.moved] at hPhase'
        split_ifs at hPhase'
        exact publishedSince_append (h.published other message' hPhase') fun _ hEvent =>
          nomatch hEvent

theorem run {trace : List OutboxLabel}
    (hRun : Run OutboxSteps OutboxSystem.empty trace s) : OutboxInvariant trace s :=
  Run.traceInvariant (I := OutboxInvariant) empty
    (fun _ _ _ _ _ hI hStep => hI.step (outboxChange_of_step hStep)) hRun

end OutboxInvariant

/-! ## Claiming -/

section Claiming

variable {worker : OutboxDeliveryWorker} {claimedAt clock : Moment} {skipped : List UUID}
  {rows : List OutboxMessageRecord}

/-- The row is open, available, and its lease has ended by both clocks. -/
structure Claimable (claimedAt clock : Moment) (row : OutboxMessageRecord) : Prop where
  isOpen : row.deliveredAt = none
  available : row.availableAt ≤ claimedAt
  ended : ∀ stop ∈ row.lockedUntil, stop ≤ claimedAt ∧ stop ≤ clock

theorem Claimable.expired {row : OutboxMessageRecord} (h : Claimable claimedAt clock row) :
    ¬row.unexpired clock := by
  rintro ⟨stop, hStop, hLive⟩
  exact absurd hLive (not_lt.2 (h.ended stop hStop).2)

theorem mem_claimable {row : OutboxMessageRecord} :
    row ∈ claimable claimedAt skipped rows ↔ row ∈ rows ∧ row.messageId ∉ skipped
      ∧ row.deliveredAt = none ∧ row.availableAt ≤ claimedAt
      ∧ ∀ stop ∈ row.lockedUntil, stop ≤ claimedAt := by
  rw [claimable, List.mem_insertionSort, List.mem_filter, decide_eq_true_eq]

/-- The trigger and the checks let the claim of an expired row pass. -/
theorem updateOutboxRow_claim (hName : nonblank worker.workerId) {record : OutboxMessageRecord}
    (h : Claimable claimedAt clock record) :
    updateOutboxRow clock record (record.claimedBy worker claimedAt) rows
      = .ok (replaceRow record (record.claimedBy worker claimedAt) rows) := by
  have hExpired := h.expired
  have hOpen := h.isOpen
  simp only [updateOutboxRow, bind_eq_ok, pure_eq_ok]
  refine ⟨(), ?_, (), ?_, rfl⟩
  · unfold validateOutboxUpdate
    rw [if_neg (not_not_intro hOpen)]
    simp only [bind_eq_ok, require_eq_ok, exists_const, OutboxMessageRecord.claimedBy, hOpen]
    refine ⟨Nat.le_succ _, fun _ => Nat.lt_succ_self _, fun _ hBoth => hExpired hBoth.2,
      fun hShort => hExpired hShort.2.2.1, ?_⟩
    simp
  · simp only [OutboxMessageRecord.checked, bind_eq_ok, require_eq_ok, exists_const,
      OutboxMessageRecord.claimedBy, hOpen]
    simp [hName]

/-- An idle worker claims the first row that it may claim. -/
theorem claim_step {s : OutboxSystem} (hIdle : s.phase worker.workerId = .idle)
    (hName : nonblank worker.workerId) {record : OutboxMessageRecord}
    (hFirst : (claimable claimedAt skipped s.rows).head? = some record)
    (h : Claimable claimedAt clock record) :
    OutboxSteps s (.claim worker claimedAt clock skipped,
        some (.claimed worker.workerId record.messageId))
      (s.moved worker.workerId (.publishing (record.claimedBy worker claimedAt).message)
        (replaceRow record (record.claimedBy worker claimedAt) s.rows)) := by
  have hClaim : claimOutbox worker claimedAt clock skipped s.rows
      = .ok (some (record.claimedBy worker claimedAt).message,
          replaceRow record (record.claimedBy worker claimedAt) s.rows) := by
    unfold claimOutbox
    rw [hFirst]
    dsimp only
    rw [updateOutboxRow_claim hName h]
    rfl
  unfold OutboxSteps
  simp only [OutboxSystem.step, hIdle, hClaim]
  rfl

/-- Where the other rows are held by other transactions, an expired row is
claimed at once. -/
theorem claim_of_others_locked {s : OutboxSystem} (hIds : (s.rows.map (·.messageId)).Nodup)
    (hIdle : s.phase worker.workerId = .idle) (hName : nonblank worker.workerId)
    {row : OutboxMessageRecord} (hRow : row ∈ s.rows) (h : Claimable claimedAt clock row) :
    ∃ s', OutboxSteps s (.claim worker claimedAt clock
        ((s.rows.map (·.messageId)).filter (· ≠ row.messageId)),
      some (.claimed worker.workerId row.messageId)) s' := by
  refine ⟨_, claim_step hIdle hName ?_ h⟩
  have hOnly : ∀ other ∈ claimable claimedAt
      ((s.rows.map (·.messageId)).filter (· ≠ row.messageId)) s.rows, other = row := by
    intro other hOther
    obtain ⟨hMem, hNotSkipped, -⟩ := mem_claimable.1 hOther
    refine List.inj_on_of_nodup_map hIds hMem hRow ?_
    by_contra hNe
    exact hNotSkipped (List.mem_filter.2
      ⟨List.mem_map.2 ⟨other, hMem, rfl⟩, decide_eq_true hNe⟩)
  have hSelf : row ∈ claimable claimedAt
      ((s.rows.map (·.messageId)).filter (· ≠ row.messageId)) s.rows := by
    refine mem_claimable.2 ⟨hRow, ?_, h.isOpen, h.available, fun stop hStop =>
      (h.ended stop hStop).1⟩
    intro hSkipped
    exact of_decide_eq_true (List.mem_filter.1 hSkipped).2 rfl
  cases hList : claimable claimedAt
      ((s.rows.map (·.messageId)).filter (· ≠ row.messageId)) s.rows with
  | nil =>
      rw [hList] at hSelf
      exact nomatch hSelf
  | cons first rest => rw [List.head?_cons, hOnly first (hList ▸ List.mem_cons_self)]

private theorem lease_later {leaseSeconds : Nat} {time : Int} (h : 0 < leaseSeconds) :
    ¬time + leaseSeconds * 1000000 ≤ time := by
  omega

/-- A claim with a lease takes its row out of what may be claimed at that time. -/
theorem length_claimable_replaceRow (hLease : 0 < worker.leaseSeconds)
    {record : OutboxMessageRecord} (hRecord : record ∈ claimable claimedAt [] rows) :
    (claimable claimedAt [] (replaceRow record (record.claimedBy worker claimedAt) rows)).length
      < (claimable claimedAt [] rows).length := by
  have hGone : ∀ row ∈ rows, decide ((if row.messageId = record.messageId then
        record.claimedBy worker claimedAt else row).messageId ∉ ([] : List UUID)
        ∧ (if row.messageId = record.messageId then
            record.claimedBy worker claimedAt else row).deliveredAt = none
        ∧ (if row.messageId = record.messageId then
            record.claimedBy worker claimedAt else row).availableAt ≤ claimedAt
        ∧ ∀ stop ∈ (if row.messageId = record.messageId then
            record.claimedBy worker claimedAt else row).lockedUntil, stop ≤ claimedAt)
      = (decide (row.messageId ≠ record.messageId) && decide (row.messageId ∉ ([] : List UUID)
          ∧ row.deliveredAt = none ∧ row.availableAt ≤ claimedAt
          ∧ ∀ stop ∈ row.lockedUntil, stop ≤ claimedAt)) := by
    intro row _
    by_cases hSame : row.messageId = record.messageId
    · rw [if_pos hSame, decide_eq_false (not_not_intro hSame), Bool.false_and,
        decide_eq_false_iff_not]
      rintro ⟨-, -, -, hEnded⟩
      exact lease_later hLease (hEnded _ rfl)
    · rw [if_neg hSame, decide_eq_true hSame, Bool.true_and]
  unfold claimable replaceRow
  rw [List.length_insertionSort, List.length_insertionSort, List.filter_map, List.length_map]
  have hFilter := List.filter_congr hGone
  rw [← List.filter_filter] at hFilter
  refine lt_of_eq_of_lt (congrArg List.length hFilter) ?_
  rw [List.length_filter_lt_length_iff_exists]
  rw [claimable, List.mem_insertionSort] at hRecord
  exact ⟨record, hRecord, by simp⟩

theorem publishRaised_step {s : OutboxSystem} {workerId : String} {message : OutboxMessage}
    (hPublishing : s.phase workerId = .publishing message) :
    OutboxSteps s (.publishRaised workerId, none) (s.moved workerId .idle s.rows) := by
  simp only [OutboxSteps, OutboxSystem.step, hPublishing]

/-- A worker that claims and fails to publish, again and again, comes to every
row that it may claim. -/
theorem claim_reaches (hName : nonblank worker.workerId) (hLease : 0 < worker.leaseSeconds)
    (hClock : claimedAt ≤ clock) (bound : Nat) :
    ∀ (s : OutboxSystem), (claimable claimedAt [] s.rows).length ≤ bound →
      s.phase worker.workerId = .idle → ∀ row ∈ claimable claimedAt [] s.rows,
      ∃ trace s', Run OutboxSteps s trace s'
        ∧ (∀ label ∈ trace, label.1 = .claim worker claimedAt clock []
            ∨ label.1 = .publishRaised worker.workerId)
        ∧ some (.claimed worker.workerId row.messageId) ∈ trace.map (·.2) := by
  induction bound with
  | zero =>
      intro s hBound _ row hRow
      rw [Nat.le_zero, List.length_eq_zero_iff] at hBound
      rw [hBound] at hRow
      exact nomatch hRow
  | succ bound ih =>
      intro s hBound hIdle row hRow
      cases hList : claimable claimedAt [] s.rows with
      | nil =>
          rw [hList] at hRow
          exact nomatch hRow
      | cons record rest =>
          have hRecord : record ∈ claimable claimedAt [] s.rows :=
            hList ▸ List.mem_cons_self
          obtain ⟨-, -, hOpen, hAvailable, hEnded⟩ := mem_claimable.1 hRecord
          have hFirst : Claimable claimedAt clock record :=
            ⟨hOpen, hAvailable, fun stop hStop =>
              ⟨hEnded stop hStop, (hEnded stop hStop).trans hClock⟩⟩
          have hClaim := @claim_step worker claimedAt clock [] s hIdle hName record
            (by rw [hList]; rfl) hFirst
          by_cases hSame : row.messageId = record.messageId
          · refine ⟨_, _, .cons hClaim (.nil _), ?_, ?_⟩
            · intro label hLabel
              rw [List.mem_singleton.1 hLabel]
              exact .inl rfl
            · rw [hSame]
              exact List.mem_singleton_self _
          · have hShorter := length_claimable_replaceRow hLease hRecord
            have hStays : row ∈ claimable claimedAt []
                (replaceRow record (record.claimedBy worker claimedAt) s.rows) := by
              obtain ⟨hMem, hRest⟩ := mem_claimable.1 hRow
              refine mem_claimable.2 ⟨List.mem_map.2 ⟨row, hMem, if_neg hSame⟩, hRest⟩
            have hRaised := @publishRaised_step (s.moved worker.workerId
              (.publishing (record.claimedBy worker claimedAt).message)
              (replaceRow record (record.claimedBy worker claimedAt) s.rows))
              worker.workerId _ (if_pos rfl)
            obtain ⟨trace, s', hRun, hActions, hClaimed⟩ := ih
              ((s.moved worker.workerId (.publishing (record.claimedBy worker claimedAt).message)
                (replaceRow record (record.claimedBy worker claimedAt) s.rows)).moved
                worker.workerId .idle
                (replaceRow record (record.claimedBy worker claimedAt) s.rows))
              (Nat.le_of_lt_succ (hShorter.trans_le hBound)) (if_pos rfl) row hStays
            refine ⟨_, s', .cons hClaim (.cons hRaised hRun), ?_, ?_⟩
            · intro label hLabel
              rcases List.mem_cons.1 hLabel with rfl | hLabel
              · exact .inl rfl
              · rcases List.mem_cons.1 hLabel with rfl | hLabel
                · exact .inr rfl
                · exact hActions label hLabel
            · exact List.mem_cons_of_mem _ (List.mem_cons_of_mem _ hClaimed)

end Claiming

/-! ## Over every run -/

/-- What a step may make of a row. -/
structure RowKept (trace : List OutboxLabel) (label : OutboxLabel)
    (row row' : OutboxMessageRecord) : Prop where
  sameMessage : row'.messageId = row.messageId
  terminal : row.deliveredAt ≠ none → row' = row
  notTaken : ∀ holder claimer, row.lockedBy = some holder → row'.lockedBy = some claimer →
    claimer ≠ holder → ∃ worker claimedAt clock skipped,
      label.1 = .claim worker claimedAt clock skipped ∧ worker.workerId = claimer
        ∧ ¬row.unexpired clock
  byHolder : row.deliveredAt = none → row'.deliveredAt ≠ none →
    ∃ worker deliveredAt clock, label.1 = .acknowledge worker deliveredAt clock
      ∧ row.lockedBy = some worker.workerId ∧ row.unexpired clock
      ∧ PublishedSince trace worker.workerId row.messageId

/-- Every row outlives a step, as `RowKept` says. -/
theorem rowKept_of_step {trace : List OutboxLabel} {s s' : OutboxSystem} {label : OutboxLabel}
    (h : OutboxInvariant trace s) (hStep : OutboxSteps s label s')
    {row : OutboxMessageRecord} (hRow : row ∈ s.rows) :
    ∃ row' ∈ s'.rows, RowKept trace label row row' := by
  have hSame : ∀ label, RowKept trace label row row := by
    refine fun label => ⟨rfl, fun _ => rfl, ?_, fun hOpen hDone => absurd hOpen hDone⟩
    intro holder claimer hHolder hClaimer hNe
    rw [hHolder] at hClaimer
    exact absurd (Option.some.inj hClaimer).symm hNe
  cases outboxChange_of_step hStep with
  | unchanged action => exact ⟨row, hRow, hSame _⟩
  | enqueued action new hFresh hNew =>
      exact ⟨row, List.mem_append_left _ hRow, hSame _⟩
  | published workerId message => exact ⟨row, hRow, hSame _⟩
  | stopped action workerId => exact ⟨row, hRow, hSame _⟩
  | claimed record worker claimedAt clock skipped message hMem hOpen hFree =>
      obtain ⟨row', hRow', hId, ⟨rfl, rfl⟩ | rfl⟩ := @row_of_replaceRow s.rows record
        (record.claimedBy worker claimedAt) h.ids hMem rfl row hRow
      · refine ⟨_, hRow', hId, fun hDone => absurd hOpen hDone, ?_, fun _ hDone =>
          absurd hOpen hDone⟩
        intro holder claimer hHolder hClaimer hNe
        have hName : worker.workerId = claimer := Option.some.inj hClaimer
        refine ⟨worker, claimedAt, clock, skipped, rfl, hName, ?_⟩
        rcases hFree with hOwn | hNone | hExpired
        · rw [hHolder] at hOwn
          exact absurd (hName.symm.trans (Option.some.inj hOwn).symm) hNe
        · rw [hHolder] at hNone
          exact nomatch hNone
        · exact hExpired
      · exact ⟨_, hRow', hSame _⟩
  | delivered record worker deliveredAt clock message hMem hPhase hId hOpen hOwner hLive =>
      obtain ⟨row', hRow', hRowId, ⟨rfl, rfl⟩ | rfl⟩ := @row_of_replaceRow s.rows record
        (record.delivered deliveredAt) h.ids hMem rfl row hRow
      · refine ⟨_, hRow', hRowId, fun hDone => absurd hOpen hDone, ?_, fun _ _ => ?_⟩
        · intro holder claimer _ hClaimer
          exact nomatch hClaimer
        · exact ⟨worker, deliveredAt, clock, rfl, hOwner, hLive,
            hId ▸ h.published _ _ hPhase⟩
      · exact ⟨_, hRow', hSame _⟩

/-- In every run of any workers: a message stays, once delivered as it is; an
unexpired claim passes to no other worker; a delivery is by the worker that holds
the unexpired claim, after its publish; there is at most one; and the attempts
are the committed claims.  A message that is not delivered and whose lease has
ended can be claimed by any idle worker: at once where other transactions hold
the rows before it, and in some run where none does. -/
theorem outbox_delivery_over_run {trace : List OutboxLabel} {s : OutboxSystem}
    (hRun : Run OutboxSteps OutboxSystem.empty trace s) :
    (∀ label s', OutboxSteps s label s' →
        ∀ row ∈ s.rows, ∃ row' ∈ s'.rows, RowKept trace label row row')
    ∧ (∀ messageId, deliveryCount trace messageId ≤ 1)
    ∧ (∀ row ∈ s.rows, row.attemptCount = claimCount trace row.messageId)
    ∧ ∀ (worker : OutboxDeliveryWorker) (claimedAt clock : Moment), nonblank worker.workerId →
        s.phase worker.workerId = .idle →
        ∀ row ∈ s.rows, Claimable claimedAt clock row →
          (∃ s', OutboxSteps s (.claim worker claimedAt clock
              ((s.rows.map (·.messageId)).filter (· ≠ row.messageId)),
            some (.claimed worker.workerId row.messageId)) s')
          ∧ (0 < worker.leaseSeconds → claimedAt ≤ clock →
              ∃ more s', Run OutboxSteps s more s'
                ∧ (∀ label ∈ more, label.1 = .claim worker claimedAt clock []
                    ∨ label.1 = .publishRaised worker.workerId)
                ∧ some (.claimed worker.workerId row.messageId) ∈ more.map (·.2)) := by
  have hInvariant := OutboxInvariant.run hRun
  refine ⟨fun label s' hStep row hRow => rowKept_of_step hInvariant hStep hRow, ?_,
    hInvariant.attempts, ?_⟩
  · intro messageId
    by_cases hKnown : messageId ∈ s.rows.map (·.messageId)
    · obtain ⟨row, hRow, rfl⟩ := List.mem_map.1 hKnown
      rw [hInvariant.deliveries row hRow]
      split_ifs <;> omega
    · rw [(hInvariant.unknown messageId hKnown).2]
      omega
  · intro worker claimedAt clock hName hIdle row hRow h
    refine ⟨claim_of_others_locked hInvariant.ids hIdle hName hRow h, fun hLease hClock => ?_⟩
    refine claim_reaches hName hLease hClock _ s le_rfl hIdle row ?_
    exact mem_claimable.2 ⟨hRow, List.not_mem_nil, h.isOpen, h.available,
      fun stop hStop => (h.ended stop hStop).1⟩

/-! ### A message that is delivered on its second claim -/

def sampleDeliveryWorker (workerId : String) (h : workerId ≠ "" ∧ workerId.length ≤ 128) :
    OutboxDeliveryWorker :=
  ⟨workerId, 1, h, by decide⟩

def sampleContent : OutboxContent := ⟨1, 2, "ledger.events", "journal.posted", "event:2", .dict []⟩

/-- The first publisher fails; the lease ends, and another worker takes over. -/
def sampleDelivery : List OutboxLabel :=
  [(.enqueue 7 sampleContent 0, none),
    (.claim (sampleDeliveryWorker "a" (by decide)) 0 0 [], some (.claimed "a" 7)),
    (.publishRaised "a", none),
    (.claim (sampleDeliveryWorker "b" (by decide)) 2000000 500000 [], none),
    (.claim (sampleDeliveryWorker "b" (by decide)) 2000000 1000000 [], some (.claimed "b" 7)),
    (.publishReturned "b", some (.published "b" 7)),
    (.acknowledge (sampleDeliveryWorker "b" (by decide)) 2500000 1500000, some (.delivered "b" 7))]

theorem outbox_delivery_over_sample :
    ∃ s, Run OutboxSteps OutboxSystem.empty sampleDelivery s
      ∧ (∀ row ∈ s.rows, row.attemptCount = claimCount sampleDelivery row.messageId)
      ∧ claimCount sampleDelivery 7 = 2 ∧ deliveryCount sampleDelivery 7 ≤ 1 := by
  have hRun : ∃ s, Run OutboxSteps OutboxSystem.empty sampleDelivery s :=
    ⟨_, .cons rfl (.cons rfl (.cons rfl (.cons rfl (.cons rfl (.cons rfl (.cons rfl
      (.nil _)))))))⟩
  obtain ⟨s, hRun⟩ := hRun
  obtain ⟨-, hOnce, hAttempts, -⟩ := outbox_delivery_over_run hRun
  exact ⟨s, hRun, hAttempts, by decide, hOnce 7⟩

end TrackAnywhere.Ports
