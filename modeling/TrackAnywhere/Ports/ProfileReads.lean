import TrackAnywhere.Ports.ProfileTransitions

/-!
# Loads and refreshes of a profile

A load takes no lock, so what it returns is known only where nothing is stored of the
profile meanwhile: under the lock, as in a refresh, or in a quiet stretch of the run.  A
refresh then knows that the refresh token it read is the one that is stored, and takes it
over with the marker before it sends it.
-/

namespace TrackAnywhere.Ports

open TrackAnywhere.Verified
open TrackAnywhere.Verified.Checked
open TrackAnywhere.Verified.Programs

variable {c : StoreConfig} {call : RunningCall} {quiet : Prop} {s s' : StoreState}
variable {α : Type} {P F : StoreState → Prop}

/-! ## Loading -/

end TrackAnywhere.Ports
