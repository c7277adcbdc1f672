import TrackAnywhere.Ports.HashPreimage
import TrackAnywhere.Ports.LedgerDigests
import TrackAnywhere.Ports.LedgerVerification
import TrackAnywhere.Verified.GroupedScan

/-!
# The scan of the journal postings

`_hash_and_verify_journal_postings` reads the postings in the order of Book, transaction and
position, once.  It counts and hashes them, and it keeps the net of every asset of the running
transaction; the transaction is closed when the next one starts and when the stream ends.
-/

namespace TrackAnywhere.Ports

open TrackAnywhere.Verified
open TrackAnywhere.Verified.Checked
open TrackAnywhere.Verified.GroupedScan
open TrackAnywhere.Verified.KeyedSum
open TrackAnywhere.Verified.OrderedDict

/-- A posting and its Book. -/
abbrev BookPosting := UUID × JournalPostingRecord

/-! ## The whole pass -/

/-- `_journal_posting_row` -/
def journalPostingRow (row : BookPosting) : JSONValue :=
  .dict [("account_id", .uuid row.2.accountId), ("asset_code", .str row.2.assetCode.1),
    ("book_id", .uuid row.1), ("posting_id", .uuid row.2.postingId),
    ("position", .nat row.2.postingPosition), ("side", .str row.2.side.value),
    ("transaction_id", .uuid row.2.transactionId), ("units", .str (toString row.2.units))]

/-- What the loop over the postings changes. -/
structure PostingPass where
  postingCount : Nat
  journalHasher : CanonicalRowArrayHasher
  scan : PostingState

def hashAndVerifyPosting (pass : PostingPass) (row : BookPosting) : Except String PostingPass := do
  let journalHasher ← pass.journalHasher.add (journalPostingRow row)
  return {
    postingCount := pass.postingCount + 1
    journalHasher
    scan := verifyPosting pass.scan row }

/-- `_hash_and_verify_journal_postings`: the count, the hasher and the issues it leaves. -/
def hashAndVerifyJournalPostings (journalHasher : CanonicalRowArrayHasher) (issues : List String)
    (rows : List BookPosting) : Except String (Nat × CanonicalRowArrayHasher × List String) := do
  let pass ← rows.foldlM hashAndVerifyPosting ⟨0, journalHasher, ⟨none, [], issues⟩⟩
  return (pass.postingCount, pass.journalHasher, pass.scan.issues ++ pass.scan.finishTransaction)

/-- The count, the hash and the nets do not depend on each other. -/
theorem foldlM_hashAndVerifyPosting (rows : List BookPosting) (pass : PostingPass) :
    rows.foldlM hashAndVerifyPosting pass
      = ((rows.map journalPostingRow).foldlM CanonicalRowArrayHasher.add pass.journalHasher).map
        fun journalHasher => ⟨pass.postingCount + rows.length, journalHasher,
          rows.foldl verifyPosting pass.scan⟩ := by
  induction rows generalizing pass with
  | nil => rfl
  | cons row rows ih =>
      rw [List.foldlM_cons, List.map_cons, List.foldlM_cons, List.foldl_cons, List.length_cons]
      unfold hashAndVerifyPosting
      cases pass.journalHasher.add (journalPostingRow row) with
      | error e => rfl
      | ok journalHasher =>
          refine (ih ⟨pass.postingCount + 1, journalHasher, verifyPosting pass.scan row⟩).trans ?_
          rw [Nat.add_right_comm pass.postingCount 1 rows.length]
          rfl

/-- A position that fits its column is hashed. -/
theorem add_journalPostingRow {row : BookPosting}
    (hPosition : row.2.postingPosition < canonicalIntegerAbsLimit) (h : CanonicalRowArrayHasher) :
    ∃ h', h.add (journalPostingRow row) = .ok h' := by
  have hProve : proveJsonValue (journalPostingRow row) = .ok () := by
    unfold journalPostingRow JSONValue.uuid JSONValue.nat
    simp only [proveJsonValue, proveJsonDict, Int.natAbs_natCast]
    unfold require
    rw [if_pos hPosition]
    rfl
  unfold CanonicalRowArrayHasher.add canonicalJsonBytes
  rw [hProve]
  exact ⟨_, rfl⟩

theorem foldlM_add_journalPostingRow {rows : List BookPosting}
    (hPositions : ∀ row ∈ rows, row.2.postingPosition < canonicalIntegerAbsLimit)
    (h : CanonicalRowArrayHasher) :
    ∃ h', (rows.map journalPostingRow).foldlM CanonicalRowArrayHasher.add h = .ok h' := by
  induction rows generalizing h with
  | nil => exact ⟨h, rfl⟩
  | cons row rows ih =>
      obtain ⟨next, hNext⟩ := add_journalPostingRow (hPositions row List.mem_cons_self) h
      rw [List.map_cons, List.foldlM_cons, hNext]
      exact ih (fun row hRow => hPositions row (List.mem_cons_of_mem _ hRow)) next

/-! ## The scan -/

/-- `transaction_key` -/
def transactionKey (row : BookPosting) : UUID × UUID := (row.1, row.2.transactionId)

/-- What a posting adds to the net of its asset. -/
def netEntry (row : BookPosting) : AssetCode × Int :=
  (row.2.assetCode, signedUnits row.2.side row.2.units)

/-- The assets of a transaction whose net is not zero. -/
def unbalancedGroups (key : UUID × UUID) (net : List (AssetCode × Int)) :
    List (UUID × UUID × AssetCode) :=
  net.flatMap fun entry => if entry.2 ≠ 0 then [(key.1, key.2, entry.1)] else []

/-- The state of the loop as that of a scan. -/
def PostingState.toScan (s : PostingState) :
    Scan (UUID × UUID) (List (AssetCode × Int)) String where
  current := s.currentTransaction
  gathered := s.netByAsset
  out := s.issues

theorem finishTransaction_eq (s : PostingState) :
    s.issues ++ s.finishTransaction
      = close (fun key net => (unbalancedGroups key net).map unbalancedJournal) s.toScan := by
  unfold PostingState.finishTransaction close PostingState.toScan
  cases s.currentTransaction with
  | none => exact List.append_nil s.issues
  | some key =>
      show _ = s.issues ++ (unbalancedGroups key s.netByAsset).map unbalancedJournal
      unfold unbalancedGroups
      rw [List.map_flatMap]
      refine congrArg (s.issues ++ ·) (List.flatMap_congr fun net _ => ?_)
      split <;> rfl

theorem verifyPosting_toScan (s : PostingState) (row : BookPosting) :
    (verifyPosting s row).toScan = step transactionKey [] (fun net row => addTo net (netEntry row))
      (fun key net => (unbalancedGroups key net).map unbalancedJournal) s.toScan row := by
  have hClose := finishTransaction_eq s
  unfold verifyPosting step
  by_cases hNew : some (transactionKey row) ≠ s.currentTransaction
  · rw [if_pos (show some (transactionKey row) ≠ s.toScan.current from hNew), ← hClose]
    unfold transactionKey at hNew
    simp only [if_pos hNew]
    rfl
  · rw [if_neg (show ¬some (transactionKey row) ≠ s.toScan.current from hNew)]
    unfold transactionKey at hNew
    simp only [if_neg hNew]
    rfl

theorem foldl_verifyPosting_toScan (rows : List BookPosting) (s : PostingState) :
    (rows.foldl verifyPosting s).toScan
      = rows.foldl (step transactionKey [] (fun net row => addTo net (netEntry row))
        (fun key net => (unbalancedGroups key net).map unbalancedJournal)) s.toScan :=
  (List.foldl_hom PostingState.toScan fun s row => (verifyPosting_toScan s row).symm).symm

/-- The order of the query keeps the postings of a transaction together. -/
theorem grouped_of_postingOrder {rows : List BookPosting} (h : rows.Pairwise postingOrder) :
    Grouped transactionKey rows := by
  refine grouped_of_pairwise h fun a b c hab hbc hKey => ?_
  unfold transactionKey at hKey ⊢
  unfold postingOrder at hab hbc
  rw [Prod.mk.injEq] at hKey ⊢
  grind

/-! ## The groups -/

/-- Debits minus credits of an asset within a transaction of a Book. -/
def debitsMinusCredits (rows : List BookPosting) (group : UUID × UUID × AssetCode) : Int :=
  ((rows.filter fun row => row.1 = group.1 ∧ row.2.transactionId = group.2.1
    ∧ row.2.assetCode = group.2.2).map fun row => signedUnits row.2.side row.2.units).sum

/-- The groups the scan reports, in its order. -/
def reportedGroups (rows : List BookPosting) : List (UUID × UUID × AssetCode) :=
  (groups transactionKey rows).flatMap fun key =>
    unbalancedGroups key (totals ((groupOf transactionKey rows key).map netEntry))

section Groups

variable {rows : List BookPosting} {group : UUID × UUID × AssetCode} {key : UUID × UUID}

theorem mem_unbalancedGroups {net : List (AssetCode × Int)} :
    group ∈ unbalancedGroups key net
      ↔ (group.1, group.2.1) = key ∧ ∃ units, (group.2.2, units) ∈ net ∧ units ≠ 0 := by
  unfold unbalancedGroups
  rw [List.mem_flatMap]
  constructor
  · rintro ⟨entry, hEntry, hGroup⟩
    split_ifs at hGroup with hUnits
    · obtain rfl := List.mem_singleton.1 hGroup
      exact ⟨rfl, entry.2, hEntry, hUnits⟩
    · exact absurd hGroup List.not_mem_nil
  · rintro ⟨rfl, units, hEntry, hUnits⟩
    refine ⟨_, hEntry, ?_⟩
    rw [if_pos hUnits]
    exact List.mem_singleton.2 rfl

theorem nodup_unbalancedGroups {net : List (AssetCode × Int)}
    (hNodup : (net.map Prod.fst).Nodup) : (unbalancedGroups key net).Nodup := by
  induction net with
  | nil => exact List.nodup_nil
  | cons entry net ih =>
      rw [List.map_cons, List.nodup_cons] at hNodup
      unfold unbalancedGroups at ih ⊢
      rw [List.flatMap_cons]
      refine List.nodup_append.2 ⟨by split <;> simp, ih hNodup.2, ?_⟩
      intro group hHere other hThere hSame
      subst hSame
      obtain ⟨-, units, hEntry, -⟩ := mem_unbalancedGroups.1 hThere
      split_ifs at hHere
      · rw [List.mem_singleton.1 hHere] at hEntry
        exact hNodup.1 (List.mem_map.2 ⟨_, hEntry, rfl⟩)
      · exact absurd hHere List.not_mem_nil

/-- The net of an asset within its transaction. -/
theorem sumAt_groupOf :
    sumAt ((groupOf transactionKey rows (group.1, group.2.1)).map netEntry) group.2.2
      = debitsMinusCredits rows group := by
  unfold sumAt debitsMinusCredits groupOf
  rw [List.filter_map, List.filter_filter, List.map_map]
  congr 1
  refine congrArg (List.map _) (List.filter_congr fun row _ => ?_)
  unfold transactionKey netEntry
  simp only [Function.comp_apply, Prod.mk.injEq, Bool.decide_and]
  rw [Bool.and_comm, Bool.and_assoc]

/-- The scan reports a group exactly when its debits minus credits are not zero. -/
theorem mem_reportedGroups :
    group ∈ reportedGroups rows ↔ debitsMinusCredits rows group ≠ 0 := by
  unfold reportedGroups
  simp only [List.mem_flatMap, mem_unbalancedGroups, mem_totals]
  constructor
  · rintro ⟨_, -, rfl, units, ⟨-, hSum⟩, hUnits⟩
    rwa [hSum, sumAt_groupOf] at hUnits
  · intro hNet
    rw [← sumAt_groupOf] at hNet
    have hAsset : group.2.2 ∈
        ((groupOf transactionKey rows (group.1, group.2.1)).map netEntry).map Prod.fst := by
      by_contra hAbsent
      exact hNet (sumAt_eq_zero hAbsent)
    refine ⟨(group.1, group.2.1), ?_, rfl, _, ⟨hAsset, rfl⟩, hNet⟩
    rw [mem_groups]
    by_contra hAbsent
    rw [groupOf_eq_nil hAbsent] at hAsset
    exact absurd hAsset List.not_mem_nil

theorem nodup_reportedGroups : (reportedGroups rows).Nodup := by
  unfold reportedGroups
  refine List.nodup_flatMap.2 ⟨fun key _ => nodup_unbalancedGroups nodup_totals, ?_⟩
  refine nodup_groups.imp fun hKeys group hHere hThere => hKeys ?_
  exact (mem_unbalancedGroups.1 hHere).1.symm.trans (mem_unbalancedGroups.1 hThere).1

end Groups

/-! ## The issues -/

theorem length_uuidText (id : UUID) : id.text.toList.length = 36 := by
  unfold UUID.text
  simp

/-- An issue names its group. -/
theorem unbalancedJournal_injective : Function.Injective unbalancedJournal := by
  intro a b h
  have hText := congrArg String.toList h
  unfold unbalancedJournal at hText
  simp only [String.toList_append, List.append_assoc] at hText
  have hBook := List.append_cancel_left hText
  obtain ⟨hBookText, hRest⟩ := List.append_inj hBook (by rw [length_uuidText, length_uuidText])
  obtain ⟨hTransactionText, hAsset⟩ := List.append_inj (List.append_cancel_left hRest)
    (by rw [length_uuidText, length_uuidText])
  refine Prod.ext (uuidText_injective (String.toList_inj.1 hBookText)) (Prod.ext ?_ ?_)
  · exact uuidText_injective (String.toList_inj.1 hTransactionText)
  · exact Subtype.ext (String.toList_inj.1 (List.append_cancel_left hAsset))

/-- The issues of the scan, behind those that were there. -/
theorem foldl_verifyPosting_issues {rows : List BookPosting} (h : rows.Pairwise postingOrder)
    (issues : List String) :
    (rows.foldl verifyPosting ⟨none, [], issues⟩).issues
        ++ (rows.foldl verifyPosting ⟨none, [], issues⟩).finishTransaction
      = issues ++ (reportedGroups rows).map unbalancedJournal := by
  rw [finishTransaction_eq, foldl_verifyPosting_toScan]
  refine (close_scan (grouped_of_postingOrder h) [] issues).trans ?_
  unfold reportedGroups
  rw [List.map_flatMap]
  refine congrArg (issues ++ ·) (List.flatMap_congr fun key _ => ?_)
  unfold total totals
  rw [List.foldl_map]

/-- The scan of a stream in the order of the query reports exactly the groups whose debits minus
credits are not zero, each of them once; it returns whenever the rows can be hashed, which they
can when their positions fit. -/
theorem journalPostings_issues_iff (journalHasher : CanonicalRowArrayHasher)
    (issues : List String) (rows : List BookPosting) (hOrder : rows.Pairwise postingOrder) :
    ∃ groups : List (UUID × UUID × AssetCode),
      groups.Nodup
        ∧ (groups.map unbalancedJournal).Nodup
        ∧ (∀ group, group ∈ groups ↔ debitsMinusCredits rows group ≠ 0)
        ∧ hashAndVerifyJournalPostings journalHasher issues rows
          = ((rows.map journalPostingRow).foldlM CanonicalRowArrayHasher.add journalHasher).map
            (fun hashed => (rows.length, hashed, issues ++ groups.map unbalancedJournal))
        ∧ ((∀ row ∈ rows, row.2.postingPosition < canonicalIntegerAbsLimit) →
          ∃ hashed, hashAndVerifyJournalPostings journalHasher issues rows
            = .ok (rows.length, hashed, issues ++ groups.map unbalancedJournal)) := by
  have hReport : hashAndVerifyJournalPostings journalHasher issues rows
      = ((rows.map journalPostingRow).foldlM CanonicalRowArrayHasher.add journalHasher).map
        fun hashed => (rows.length, hashed,
          issues ++ (reportedGroups rows).map unbalancedJournal) := by
    unfold hashAndVerifyJournalPostings
    rw [foldlM_hashAndVerifyPosting, ← foldl_verifyPosting_issues hOrder issues, Nat.zero_add]
    cases (rows.map journalPostingRow).foldlM CanonicalRowArrayHasher.add journalHasher with
    | error e => rfl
    | ok hashed => rfl
  refine ⟨reportedGroups rows, nodup_reportedGroups,
    nodup_reportedGroups.map unbalancedJournal_injective, fun _ => mem_reportedGroups,
    hReport, fun hPositions => ?_⟩
  obtain ⟨hashed, hHashed⟩ := foldlM_add_journalPostingRow hPositions journalHasher
  exact ⟨hashed, by rw [hReport, hHashed]; rfl⟩

/-- A posting of a transaction of one Book. -/
def sampleBookPosting (transactionId : UUID) (position : Nat) (side : PostingSide) (units : Nat) :
    BookPosting :=
  (1, { transactionId, postingId := transactionId, postingPosition := position, accountId := 7
        assetCode := ⟨"USD", rfl⟩, side, units })

/-- The first and the last of three transactions do not balance. -/
def samplePostingStream : List BookPosting :=
  [sampleBookPosting 1 0 .debit 5, sampleBookPosting 1 1 .credit 3, sampleBookPosting 2 0 .debit 4,
    sampleBookPosting 2 1 .credit 4, sampleBookPosting 3 0 .credit 2]

theorem journalPostings_issues_sample :
    ∃ groups : List (UUID × UUID × AssetCode),
      groups.Nodup ∧ (1, 1, ⟨"USD", rfl⟩) ∈ groups ∧ (1, 3, ⟨"USD", rfl⟩) ∈ groups
        ∧ (1, 2, ⟨"USD", rfl⟩) ∉ groups
        ∧ ∃ hashed, hashAndVerifyJournalPostings .new [] samplePostingStream
          = .ok (5, hashed, groups.map unbalancedJournal) := by
  obtain ⟨groups, hNodup, -, hMem, -, hReturns⟩ :=
    journalPostings_issues_iff .new [] samplePostingStream (by decide)
  refine ⟨groups, hNodup, (hMem _).2 (by decide), (hMem _).2 (by decide),
    fun h => (hMem _).1 h (by decide), ?_⟩
  exact hReturns (by decide)

/-! ## The report -/

instance : Std.Total postingOrder := ⟨fun a b => by
  unfold postingOrder
  grind⟩

instance : IsTrans BookPosting postingOrder := ⟨fun a b c hab hbc => by
  unfold postingOrder at hab hbc ⊢
  grind⟩

/-- The issues of the pass that stand in the report. -/
theorem verifyJournalPostings_groups (projections : Dict UUID SyncTables) :
    ∃ rows : List BookPosting,
      rows.Perm (projections.entries.flatMap fun book =>
        book.2.journalPostings.map fun posting => (book.1, posting))
        ∧ rows.Pairwise postingOrder
        ∧ verifyJournalPostings projections = (reportedGroups rows).map unbalancedJournal := by
  refine ⟨_, List.perm_insertionSort postingOrder _, List.pairwise_insertionSort postingOrder _, ?_⟩
  exact foldl_verifyPosting_issues (List.pairwise_insertionSort postingOrder _) []

end TrackAnywhere.Ports
