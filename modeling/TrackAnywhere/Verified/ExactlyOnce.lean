import TrackAnywhere.Verified.Run
import Mathlib

/-!
# Applying every key once

A service keeps a state and the applications it has made: a key, the request
that came under it, the plan that was made for the request, and the result.  A
plan is applied under a key that has no application yet; a call under a key
that has one is answered from it, and a call that fails leaves the service
alone.
-/

namespace TrackAnywhere.Verified.ExactlyOnce

variable {σ κ ρ π β : Type*}

structure Application (κ ρ π β : Type*) where
  key : κ
  request : ρ
  plan : π
  result : β

structure Service (σ κ ρ π β : Type*) where
  state : σ
  applied : List (Application κ ρ π β)

namespace Service

def keys (s : Service σ κ ρ π β) : List κ := s.applied.map (·.key)

end Service

variable {applies : σ → Application κ ρ π β → σ → Prop}
variable {s s' : Service σ κ ρ π β}

/-- A call either makes an application under a new key, or changes nothing. -/
inductive Serves (applies : σ → Application κ ρ π β → σ → Prop) :
    Service σ κ ρ π β → Option (Application κ ρ π β) → Service σ κ ρ π β → Prop
  | unchanged {s : Service σ κ ρ π β} : Serves applies s none s
  | applied {s : Service σ κ ρ π β} {a : Application κ ρ π β} {state : σ}
      (hNew : a.key ∉ s.keys) (hApplies : applies s.state a state) :
      Serves applies s (some a) ⟨state, s.applied ++ [a]⟩

/-- The state is that of the applied plans, and no key occurs twice. -/
structure Sound (applies : σ → Application κ ρ π β → σ → Prop) (opened : σ)
    (s : Service σ κ ρ π β) : Prop where
  keys : s.keys.Nodup
  state : Run applies opened s.applied s.state

theorem sound_opened (opened : σ) : Sound applies opened ⟨opened, []⟩ where
  keys := List.nodup_nil
  state := .nil opened

theorem Sound.serves {opened : σ} {served : Option (Application κ ρ π β)}
    (h : Sound applies opened s) (hServes : Serves applies s served s') :
    Sound applies opened s' := by
  cases hServes with
  | unchanged => exact h
  | applied hNew hApplies =>
      refine ⟨?_, h.state.snoc hApplies⟩
      unfold Service.keys
      rw [List.map_append, List.map_singleton]
      exact List.Nodup.append h.keys (List.nodup_singleton _)
        (List.disjoint_singleton.2 hNew)

end TrackAnywhere.Verified.ExactlyOnce
