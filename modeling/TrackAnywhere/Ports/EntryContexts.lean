import TrackAnywhere.Ports.AppliedPlans
import TrackAnywhere.Ports.BalanceAdjustments
import TrackAnywhere.Ports.BookCatalogs

/-!
# The context of a Book

`loadEntryContext` is what the compiler is given of a Book: the catalog, the balance that an
adjustment starts from, and the entry that a refund goes back to.  The original of a refund is
not read from the journal but from its everyday view, whose amounts are texts.

The same catalog tables are under the view and under the compiler, which walk up the categories
each in its own way.
-/

namespace TrackAnywhere.Ports

open TrackAnywhere.Verified
open TrackAnywhere.Verified.Checked

/-! ## One catalog, read twice -/

/-- The categories of the Book, with every version.  Each writer of categories gives the version
the name and the parent of its category, and nothing renames a category. -/
def CatalogTables.versionRows (tables : CatalogTables) (bookId : UUID) : List CategoryRow :=
  (tables.categories.filter fun c => c.bookId = bookId).flatMap fun category =>
    (tables.categoryVersions.filter fun v => v.bookId = category.bookId
      ∧ v.categoryId = category.categoryId).map fun v => (category, v)

/-- The rows that the views of a Book are built with. -/
def CatalogTables.entryCatalog (tables : CatalogTables) (bookId : UUID) : EntryCatalog where
  accounts := (tables.accountRows bookId).map fun row =>
    ⟨row.accountId, row.accountType, row.systemRole, row.currentName⟩
  assets := tables.assets.map fun row => ⟨row.assetCode, row.ledgerScale⟩
  categories := (tables.categories.filter fun c => c.bookId = bookId).map fun c =>
    ⟨c.categoryId, c.currentName, c.parentCategoryId⟩
  categoryVersions := (tables.versionRows bookId).map fun row =>
    ⟨row.1.categoryId, row.2.categoryVersionId, row.1.currentName, row.1.parentCategoryId⟩

section Catalog

variable {u : UnicodeTables} {tables : CatalogTables} {context : EntryCompilationContext}
  {bookId : UUID}

end Catalog


/-! ## Loading a context -/

/-- The amount of a view in units; its text has no sign. -/
def AssetUnitAmount.units (amount : AssetUnitAmount) : Except EntryError Nat := do
  let units ← (Gateway.parseUnits amount.value amount.scale).mapError .runtime
  return units.toNat

/-- The allocations of a view whose categories are loaded. -/
def originalAllocations (categories : List EntryCategory)
    (allocations : List CategoryAllocationView) :
    Except EntryError (List OriginalCategoryAllocation) :=
  (allocations.filterMap fun item =>
      (categories.find? fun category => category.categoryId = item.categoryId).map
        fun category => (category, item.amount)).mapM fun item => do
    let units ← item.2.units
    return ⟨item.1, units⟩

/-- The entry that a view shows, as a refund needs it. -/
def EverydayEntryView.originalEntry (view : EverydayEntryView)
    (categories : List EntryCategory) : Except EntryError OriginalEntry := do
  let amount ← fetch view.amount (.gateway .originalTransactionNotFound
    "original transaction amount is unavailable" (some "original_transaction_id"))
  let allocations ← originalAllocations categories view.categoryAllocations
  let isCard := view.rawJournal.transactionKind = .creditCard .charge
  let units ← amount.units
  return { transactionId := view.transactionId
           kind := if isCard then .creditCardCharge else .everyday view.kind
           assetCode := amount.assetCode
           units := units
           sourceAccountId := view.paymentAccount.map (·.accountId)
           cardAccountId := if isCard then view.paymentAccount.map (·.accountId) else none
           categoryAllocations := allocations }

section Loading

variable {u : UnicodeTables} {tables : CatalogTables} {ledger : BookLedger}
  {bookId commandId transactionId : UUID} {actorSubjectId : String} {entry : EverydayEntry}
  {lockedLastPosition : Option Nat} {categories : List EntryCategory}
  {context : EntryCompilationContext}

end Loading

end TrackAnywhere.Ports
