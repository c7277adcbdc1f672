import TrackAnywhere.Verified.Checked
import TrackAnywhere.Verified.DecimalContext
import TrackAnywhere.Verified.FunctionalGraph

/-!
# Reversal links of the frozen history

A transaction of the old database may name the transaction that it reverses, and may name the
one that reverses it.  `resolve_reversal_links` merges both directions and checks the result:
the links have to be one to one, inside one Book, between exact inverses, and without a cycle.

The postings are compared by the absolute values of their amounts, and `abs` of a `Decimal`
rounds to the 28 digits of the default context.
-/

namespace TrackAnywhere.Ports

open TrackAnywhere.Verified.Checked
open TrackAnywhere.Verified.DecimalContext
open TrackAnywhere.Verified.FunctionalGraph
open Relation

/-! ## Rows -/

structure SourceTransaction where
  transactionId : Option String
  reversesTransactionId : Option String
  reversedBy : Option String
  bookId : String
deriving DecidableEq

structure SourcePosting where
  transactionId : String
  accountId : String
  currency : String
  /-- `Decimal(str(amount))`; nothing if it is not a finite number. -/
  amount : Option Decimal
  amountSemantics : Option String
  side : Option String
deriving DecidableEq

/-- The tuple of account, asset, side and amount. -/
abbrev SourceFact := String ×ₗ String ×ₗ String ×ₗ ℚ

def sourceFact (account asset side : String) (amount : ℚ) : SourceFact :=
  toLex (account, toLex (asset, toLex (side, amount)))

/-- The fact on the other side. -/
def SourceFact.inverse (fact : SourceFact) : SourceFact :=
  let account := (ofLex fact).1
  let asset := (ofLex (ofLex fact).2).1
  let sided := ofLex (ofLex (ofLex fact).2).2
  sourceFact account asset (if sided.1 = "debit" then "credit" else "debit") sided.2

namespace SourcePosting

variable (row : SourcePosting)

/-- The side of a posting with an amount; nothing where the row is not valid. -/
def factSide (negative : Bool) : Option String :=
  if row.amountSemantics = none ∨ row.amountSemantics = some "legacy_signed" then
    some (if negative then "credit" else "debit")
  else if row.amountSemantics = some "debit_credit" then
    if negative = false ∧ (row.side = some "debit" ∨ row.side = some "credit") then row.side
    else none
  else none

/-- The amount and the side of a row that has both, with an amount that is not zero. -/
def signed : Option (Decimal × String) :=
  row.amount.bind fun amount =>
    if amount.coefficient = 0 then none
    else (row.factSide amount.negative).map fun side => (amount, side)

/-- The fact with the amount as it is. -/
def exactFact : Option SourceFact :=
  row.signed.map fun signed =>
    sourceFact row.accountId row.currency signed.2 signed.1.magnitude

end SourcePosting

/-- A reversal and its target; the items of a dictionary. -/
abbrev SourceLink := String × String

/-- The postings of a transaction. -/
def postingsOf (postings : List SourcePosting) (transactionId : String) : List SourcePosting :=
  postings.filter fun posting => posting.transactionId = transactionId

section Inverses

variable {row row' : SourcePosting} {original reversal : List SourcePosting}
  {facts facts' : List SourceFact} {fact fact' : SourceFact} {results : List (Option SourceFact)}

/-- The postings of both are valid, there are some, and those of the reversal are those of the
original on the other side, in any order. -/
def ExactInverses (original reversal : List SourcePosting) : Prop :=
  ∃ facts facts', List.Forall₂ (fun row fact => row.exactFact = some fact) original facts
    ∧ List.Forall₂ (fun row fact => row.exactFact = some fact) reversal facts'
    ∧ facts ≠ [] ∧ (facts.map SourceFact.inverse).Perm facts'

/-- A fact of the original is a fact of its exact inverse, on the other side. -/
theorem ExactInverses.inverse (h : ExactInverses original reversal) (row : SourcePosting)
    (hRow : row ∈ original) (hFact : row.exactFact = some fact) :
    ∃ row' ∈ reversal, row'.exactFact = some fact.inverse := by
  obtain ⟨facts, facts', hOriginal, hReversal, -, hPerm⟩ := h
  obtain ⟨found, hFound, hSame⟩ := exists_of_forall₂ hOriginal row hRow
  obtain rfl : found = fact := Option.some.inj (hSame.symm.trans hFact)
  have hInverse : found.inverse ∈ facts' := hPerm.mem_iff.1 (List.mem_map_of_mem hFound)
  exact exists_of_forall₂ hReversal.flip found.inverse hInverse

/-! ### Rounding -/

/-- The fact with its amount rounded. -/
noncomputable def SourceFact.rounded (fact : SourceFact) : SourceFact :=
  sourceFact (ofLex fact).1 (ofLex (ofLex fact).2).1 (ofLex (ofLex (ofLex fact).2).2).1
    (Decimal.roundMagnitude 28 (-1000026) (ofLex (ofLex (ofLex fact).2).2).2)

end Inverses

/-! ## The graph -/

section Graph

variable {transactions : List SourceTransaction} {postings : List SourcePosting}
  {byId added : List (String × SourceTransaction)} {item : String × SourceTransaction}
  {link : SourceLink} {reverse original : String} {resolved : ResolvedReversalLinks}

/-- The rows by their ids. -/
structure Indexed (transactions : List SourceTransaction)
    (byId : List (String × SourceTransaction)) : Prop where
  rows : byId.map Prod.snd = transactions
  ids : ∀ item ∈ byId, item.2.transactionId = some item.1
  nodup : (byId.map Prod.fst).Nodup

theorem Indexed.snoc {row : SourceTransaction} {transactionId : String}
    (h : Indexed transactions byId) (hId : row.transactionId = some transactionId)
    (hNew : transactionId ∉ byId.map Prod.fst) :
    Indexed (transactions ++ [row]) (byId ++ [(transactionId, row)]) where
  rows := by rw [List.map_append, h.rows, List.map_singleton]
  ids other hOther := by
    obtain hOld | hLast := List.mem_append.1 hOther
    · exact h.ids other hOld
    · rw [List.mem_singleton.1 hLast, hId]
  nodup := by
    rw [List.map_append, List.map_singleton]
    exact List.nodup_append.2 ⟨h.nodup, List.nodup_singleton _, by grind⟩

theorem Indexed.mem_iff (h : Indexed transactions byId) : item ∈ byId ↔
    item.2 ∈ transactions ∧ item.2.transactionId = some item.1 := by
  constructor
  · exact fun hItem => ⟨h.rows ▸ List.mem_map_of_mem hItem, h.ids item hItem⟩
  · rintro ⟨hRow, hId⟩
    rw [← h.rows] at hRow
    obtain ⟨other, hOther, hSame⟩ := List.mem_map.1 hRow
    have hKey : other.1 = item.1 :=
      Option.some.inj ((h.ids other hOther).symm.trans (hSame ▸ hId))
    exact (Prod.ext hKey hSame : other = item) ▸ hOther

end Graph

end TrackAnywhere.Ports
