import TrackAnywhere.Ports.ReversalLinks

/-!
# The reversals of a frozen history, in order

The planner posts the transactions that reverse nothing, and then works off the reversals in
rounds: a round takes the reversals whose targets are planned, in the order of a key, and fails
if there is none.  What it compiles for a reversal may fail too; here that is any function.
-/

namespace TrackAnywhere.Ports

open TrackAnywhere.Verified.Checked
open TrackAnywhere.Verified.DecimalContext
open TrackAnywhere.Verified.FunctionalGraph
open Relation

/-! ## The rounds -/

section Worklist

variable {κ ε : Type} [LinearOrder κ] (links : List SourceLink) (sortKey : String → κ)
  (compile : List String → String → Except ε Unit)

/-- The reversals whose targets are planned. -/
def available (planned remaining : List String) : List String :=
  (remaining.filter fun source => (next links source).any (· ∈ planned)).insertionSort
    fun a b => sortKey a ≤ sortKey b

/-- `remaining_reversals.remove`, for the sources of a round. -/
def removed (round remaining : List String) : List String := remaining.filter (· ∉ round)

theorem mem_available {planned remaining : List String} {source : String} :
    source ∈ available links sortKey planned remaining ↔
      source ∈ remaining ∧ (next links source).any (· ∈ planned) = true := by
  unfold available
  rw [(List.perm_insertionSort _ _).mem_iff, List.mem_filter]

end Worklist

section Sound

variable {κ ε : Type} [LinearOrder κ] {links : List SourceLink} {sortKey : String → κ}
  {compile : List String → String → Except ε Unit}
  {originals planned remaining emitted round : List String}

/-- What is emitted and what remains are the reversals, and a target comes first. -/
structure Emitted (links : List SourceLink) (originals emitted remaining : List String) :
    Prop where
  all : (emitted ++ remaining).Perm (links.map Prod.fst)
  ordered : ∀ before source after, emitted = before ++ source :: after →
    ∃ target, (source, target) ∈ links ∧ (target ∈ originals ∨ target ∈ before)

/-- One round, up to the source at which it stops. -/
theorem Emitted.extended {done rest : List String} (h : Emitted links originals emitted remaining)
    (hKeys : (links.map Prod.fst).Nodup)
    (hRound : available links sortKey (originals ++ emitted) remaining = done ++ rest) :
    ∀ before source after, emitted ++ done = before ++ source :: after →
      ∃ target, (source, target) ∈ links ∧ (target ∈ originals ∨ target ∈ before) := by
  have hDone : ∀ source ∈ done, ∃ target, (source, target) ∈ links
      ∧ (target ∈ originals ∨ target ∈ emitted) := by
    intro source hSource
    have hAvailable : source ∈ available links sortKey (originals ++ emitted) remaining :=
      hRound ▸ List.mem_append_left _ hSource
    obtain ⟨target, hTarget, hPlanned⟩ :=
      (Option.any_eq_true _ _).1 (mem_available links sortKey |>.1 hAvailable).2
    exact ⟨target, (next_eq_some hKeys).1 hTarget, List.mem_append.1 (of_decide_eq_true hPlanned)⟩
  intro before source after hSplit
  obtain ⟨middle, rfl, hMiddle⟩ | ⟨middle, hEmitted, hMiddle⟩ := List.append_eq_append_iff.1 hSplit
  · obtain ⟨target, hLink, hPlanned⟩ := hDone source
      (hMiddle ▸ List.mem_append_right _ List.mem_cons_self)
    exact ⟨target, hLink, hPlanned.imp_right (List.mem_append_left _)⟩
  · cases middle with
    | nil =>
        have hSource : done = source :: after := hMiddle.symm
        obtain ⟨target, hLink, hPlanned⟩ := hDone source (hSource ▸ List.mem_cons_self)
        exact ⟨target, hLink,
          hPlanned.imp_right fun hOld => List.append_nil before ▸ hEmitted ▸ hOld⟩
    | cons first middle =>
        obtain ⟨rfl, -⟩ := List.cons.inj hMiddle
        exact h.ordered before source middle hEmitted

theorem Emitted.after (sortKey : String → κ) (h : Emitted links originals emitted remaining)
    (hKeys : (links.map Prod.fst).Nodup) :
    Emitted links originals
      (emitted ++ available links sortKey (originals ++ emitted) remaining)
      (removed (available links sortKey (originals ++ emitted) remaining) remaining) := by
  refine ⟨?_, h.extended hKeys (List.append_nil _).symm⟩
  have hRemoved : removed (available links sortKey (originals ++ emitted) remaining) remaining
      = remaining.filter fun source =>
          ! (next links source).any (· ∈ originals ++ emitted) := by
    refine List.filter_congr fun source hSource => ?_
    rw [decide_eq_decide.2 (not_congr (mem_available links sortKey)), Bool.eq_iff_iff,
      decide_eq_true_eq, and_iff_right hSource, Bool.not_eq_true, Bool.not_eq_true']
  have hSplit : (available links sortKey (originals ++ emitted) remaining
      ++ removed (available links sortKey (originals ++ emitted) remaining) remaining).Perm
        remaining := by
    rw [hRemoved]
    exact ((List.perm_insertionSort _ _).append_right _).trans (List.filter_append_perm _ _)
  rw [List.append_assoc]
  exact (hSplit.append_left emitted).trans h.all

end Sound

/-! ## The resolver and the worklist -/

section Resolver

variable (transactions : List SourceTransaction) (postings : List SourcePosting)

variable {transactions postings}

end Resolver

/-! ### Amounts of thirty digits -/

end TrackAnywhere.Ports
