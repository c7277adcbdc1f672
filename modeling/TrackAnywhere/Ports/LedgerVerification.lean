import TrackAnywhere.Ports.VerifiedBooks
import TrackAnywhere.Ports.SynchronousProjector
import TrackAnywhere.Verified.OrderedDict

/-!
# The verification of the whole ledger

`verify_v2_ledger` runs its passes over the event store and the projections and
reports `PASS` when none of them has an issue.  `_verify_stream_heads` goes from
the heads to the events and never back: a stream that has lost its head row, or
whose stored versions are out of step, is not reported.
-/

namespace TrackAnywhere.Ports

open TrackAnywhere.Verified
open TrackAnywhere.Verified.Checked
open TrackAnywhere.Verified.ChainedLog
open TrackAnywhere.Verified.KeyedSum

/-- The variables of the loop over the postings. -/
structure PostingState where
  currentTransaction : Option (UUID × UUID)
  netByAsset : List (AssetCode × Int)
  issues : List String

/-- The issue of a Book, a transaction and an asset. -/
def unbalancedJournal (group : UUID × UUID × AssetCode) : String :=
  "unbalanced_journal:" ++ group.1.text ++ ":" ++ group.2.1.text ++ ":" ++ group.2.2.1

/-- `finish_transaction`: the issues it appends. -/
def PostingState.finishTransaction (s : PostingState) : List String :=
  match s.currentTransaction with
  | none => []
  | some (bookId, transactionId) => s.netByAsset.flatMap fun net =>
      if net.2 ≠ 0 then
        [unbalancedJournal (bookId, transactionId, net.1)]
      else []

/-- One posting of a Book. -/
def verifyPosting (s : PostingState) (row : UUID × JournalPostingRecord) :
    PostingState :=
  let posting := row.2
  let transactionKey := (row.1, posting.transactionId)
  let s := if some transactionKey ≠ s.currentTransaction then
      { currentTransaction := some transactionKey
        netByAsset := []
        issues := s.issues ++ s.finishTransaction }
    else s
  { s with
    netByAsset := OrderedDict.addTo s.netByAsset
      (posting.assetCode, signedUnits posting.side posting.units) }

/-- `order_by(book_id, transaction_id, posting_position)`. -/
def postingOrder (a b : UUID × JournalPostingRecord) : Prop :=
  a.1 < b.1 ∨ a.1 = b.1 ∧ (a.2.transactionId < b.2.transactionId
    ∨ a.2.transactionId = b.2.transactionId
      ∧ a.2.postingPosition ≤ b.2.postingPosition)

instance : DecidableRel postingOrder := fun _ _ =>
  inferInstanceAs (Decidable (_ ∨ _))

/-- `_hash_and_verify_journal_postings`: the issues. -/
def verifyJournalPostings (projections : Dict UUID SyncTables) : List String :=
  let rows := projections.entries.flatMap fun book =>
    book.2.journalPostings.map fun posting => (book.1, posting)
  let s := (rows.insertionSort postingOrder).foldl verifyPosting ⟨none, [], []⟩
  s.issues ++ s.finishTransaction

section Pass

variable {sha256 : ByteArray → EventHash} {db : LedgerDatabase}

end Pass

/-! ## Streams and their heads -/

section Streams

variable {t : EventStoreTables} {bookId : UUID} {key : StreamKey}

end Streams

section Agreement

variable {sha256 : ByteArray → EventHash} {db : LedgerDatabase}

end Agreement

end TrackAnywhere.Ports
