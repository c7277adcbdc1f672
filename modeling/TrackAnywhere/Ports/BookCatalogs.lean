import TrackAnywhere.Verified.Run
import TrackAnywhere.Ports.EntryCompiler

/-!
# The catalog tables under the entry compiler

`loadCompilationContext` reads the assets, the accounts and the categories of a
Book for the compiler.  The status of a category is read from the category; a
command that names a version of it reads the status of the version.  Each writer
of categories adds a category with its first version, in one status, and nothing
changes a status afterwards, so that the two agree in every catalog.
-/

namespace TrackAnywhere.Ports

open TrackAnywhere.Verified
open TrackAnywhere.Verified.Checked

/-! ## The tables -/

namespace BookCatalogs

structure AssetRecord where
  assetCode : AssetCode
  kind : String
  ledgerScale : Nat
  inputScale : Nat
  status : String
  /-- `input_scale_range`, `ledger_scale_range` -/
  hScale : inputScale ≤ ledgerScale ∧ ledgerScale ≤ 30

structure AccountRecord where
  bookId : UUID
  accountId : UUID
  assetCode : AssetCode
  accountType : AccountType
  accountSubtype : Option String
  systemRole : Option String
  currentName : String
  status : String
  /-- `system_role_nonblank` -/
  hRole : systemRole ≠ some ""
deriving DecidableEq

structure CategoryRecord where
  bookId : UUID
  categoryId : UUID
  parentCategoryId : Option UUID
  currentName : String
  currentVersionId : Option UUID
  status : String
deriving DecidableEq

structure CategoryVersionRecord where
  bookId : UUID
  categoryId : UUID
  categoryVersionId : UUID
  status : String
  usageKind : CategoryUsageKind
deriving DecidableEq

end BookCatalogs

open BookCatalogs (AssetRecord)

/-- The catalog tables, with their keys. -/
structure CatalogTables where
  assets : List AssetRecord
  accounts : List BookCatalogs.AccountRecord
  categories : List BookCatalogs.CategoryRecord
  categoryVersions : List BookCatalogs.CategoryVersionRecord
  hAssets : (assets.map (·.assetCode)).Nodup
  hAccounts : (accounts.map fun a => (a.bookId, a.accountId)).Nodup
  hCategories : (categories.map fun c => (c.bookId, c.categoryId)).Nodup
  hVersions : (categoryVersions.map fun v =>
    (v.bookId, v.categoryId, v.categoryVersionId)).Nodup
  /-- `fk_category_versions_category` -/
  hOwners : ∀ v ∈ categoryVersions,
    (v.bookId, v.categoryId) ∈ categories.map fun c => (c.bookId, c.categoryId)

namespace CatalogTables

def empty : CatalogTables :=
  ⟨[], [], [], [], List.nodup_nil, List.nodup_nil, List.nodup_nil, List.nodup_nil, by simp⟩

variable (tables : CatalogTables)

/-- `CatalogRepository.get_asset` -/
def getAsset (assetCode : AssetCode) : Option AssetRecord :=
  tables.assets.find? fun a => a.assetCode = assetCode

/-- `CatalogRepository.get_account` -/
def getAccount (bookId accountId : UUID) : Option BookCatalogs.AccountRecord :=
  tables.accounts.find? fun a => a.bookId = bookId ∧ a.accountId = accountId

/-- `CatalogRepository.get_category_version` -/
def getCategoryVersion (bookId categoryId categoryVersionId : UUID) :
    Option BookCatalogs.CategoryVersionRecord :=
  tables.categoryVersions.find? fun v =>
    v.bookId = bookId ∧ v.categoryId = categoryId ∧ v.categoryVersionId = categoryVersionId

end CatalogTables

/-! ## The writers of categories -/

/-- A category as it is added, and its first version. -/
structure AddedCategory where
  category : BookCatalogs.CategoryRecord
  version : BookCatalogs.CategoryVersionRecord
  hOwner : version.bookId = category.bookId ∧ version.categoryId = category.categoryId
  hCurrent : category.currentVersionId = some version.categoryVersionId
  hStatus : category.status = version.status

/-- A category whose version is added with it. -/
def AddedCategory.of (bookId categoryId categoryVersionId : UUID)
    (parentCategoryId : Option UUID) (name status : String) (usageKind : CategoryUsageKind) :
    AddedCategory where
  category := ⟨bookId, categoryId, parentCategoryId, name, some categoryVersionId, status⟩
  version := ⟨bookId, categoryId, categoryVersionId, status, usageKind⟩
  hOwner := ⟨rfl, rfl⟩
  hCurrent := rfl
  hStatus := rfl

structure CreateCategory where
  bookId : UUID
  categoryId : UUID
  categoryVersionId : UUID
  parentCategoryId : Option UUID
  name : String

/-- `create_category` -/
def createCategory (command : CreateCategory) : AddedCategory :=
  .of command.bookId command.categoryId command.categoryVersionId command.parentCategoryId
    (strip command.name) "active" .both

structure RepairCategory where
  categoryId : UUID
  categoryVersionId : UUID
  name : String
  parentCategoryId : Option UUID
  usageKind : CategoryUsageKind

/-- `ensure_repair_categories`, for one category that is not there. -/
def ensureRepairCategory (bookId : UUID) (definition : RepairCategory) : AddedCategory :=
  .of bookId definition.categoryId definition.categoryVersionId definition.parentCategoryId
    (strip definition.name) "active" definition.usageKind

structure PlannedCategoryVersion where
  categoryVersionId : UUID
  parentCategoryId : Option UUID
  name : String
  status : String

/-- A category of an import, with the checks of `validate_current_version` on it. -/
structure PlannedCategory where
  categoryId : UUID
  parentCategoryId : Option UUID
  currentName : String
  currentVersionId : UUID
  status : String
  version : PlannedCategoryVersion
  hCurrent : currentVersionId = version.categoryVersionId
  hParent : parentCategoryId = version.parentCategoryId
  hMetadata : currentName = version.name ∧ status = version.status

/-- `apply_exact_catalog`, for one category that is missing. -/
def importCategory (bookId : UUID) (planned : PlannedCategory) : AddedCategory where
  category := ⟨bookId, planned.categoryId, planned.parentCategoryId, planned.currentName,
    some planned.currentVersionId, planned.status⟩
  version := ⟨bookId, planned.categoryId, planned.version.categoryVersionId,
    planned.version.status, .both⟩
  hOwner := ⟨rfl, rfl⟩
  hCurrent := congrArg some planned.hCurrent
  hStatus := planned.hMetadata.2

inductive CatalogWrite
  | created (command : CreateCategory)
  | repaired (bookId : UUID) (definition : RepairCategory)
  | imported (bookId : UUID) (planned : PlannedCategory)
  /-- Any write of assets and accounts that their constraints accept. -/
  | elsewhere

/-- The category that a write adds. -/
def CatalogWrite.added : CatalogWrite → List AddedCategory
  | created command => [createCategory command]
  | repaired bookId definition => [ensureRepairCategory bookId definition]
  | imported bookId planned => [importCategory bookId planned]
  | elsewhere => []

/-- A write that the constraints of the tables accept. -/
structure CatalogStep (tables : CatalogTables) (write : CatalogWrite)
    (tables' : CatalogTables) : Prop where
  categories : tables'.categories = tables.categories ++ write.added.map (·.category)
  versions : tables'.categoryVersions
    = tables.categoryVersions ++ write.added.map (·.version)
  others : write.added ≠ [] →
    tables'.assets = tables.assets ∧ tables'.accounts = tables.accounts

/-- A category has the status of its current version. -/
def CatalogTables.StatusAgrees (tables : CatalogTables) : Prop :=
  ∀ category ∈ tables.categories, ∀ version ∈ tables.categoryVersions,
    version.bookId = category.bookId → version.categoryId = category.categoryId →
    category.currentVersionId = some version.categoryVersionId →
    category.status = version.status

section Writes

variable {tables tables' : CatalogTables} {write : CatalogWrite} {writes : List CatalogWrite}

theorem CatalogWrite.added_status :
    ∀ added ∈ write.added, added.category.status = added.version.status :=
  fun added _ => added.hStatus

/-- A category that is added has no version yet, and a version that is added has no
other category. -/
theorem statusAgrees_step (hStep : CatalogStep tables write tables')
    (h : tables.StatusAgrees) : tables'.StatusAgrees := by
  have hKeys := tables'.hCategories
  rw [hStep.categories, List.map_append, List.nodup_append] at hKeys
  obtain ⟨-, hAdded, hApart⟩ := hKeys
  have hNew : ∀ added ∈ write.added, ∀ category ∈ tables.categories,
      (category.bookId, category.categoryId)
        ≠ (added.category.bookId, added.category.categoryId) := by
    intro added hMem category hCategory
    exact hApart _ (List.mem_map_of_mem hCategory) _
      (List.mem_map_of_mem (List.mem_map_of_mem hMem))
  intro category hCategory version hVersion hBook hId hCurrent
  rw [hStep.categories, List.mem_append, List.mem_map] at hCategory
  rw [hStep.versions, List.mem_append, List.mem_map] at hVersion
  obtain hCategory | ⟨added, hMem, rfl⟩ := hCategory
  · obtain hVersion | ⟨other, hOther, rfl⟩ := hVersion
    · exact h category hCategory version hVersion hBook hId hCurrent
    · have hSame : (category.bookId, category.categoryId)
          = (other.category.bookId, other.category.categoryId) := by
        rw [← hBook, ← hId, other.hOwner.1, other.hOwner.2]
      exact absurd hSame (hNew other hOther category hCategory)
  · obtain hVersion | ⟨other, hOther, rfl⟩ := hVersion
    · obtain ⟨owner, hOwner, hKey⟩ := List.mem_map.1 (tables.hOwners version hVersion)
      rw [hBook, hId] at hKey
      exact absurd hKey (hNew added hMem owner hOwner)
    · rw [List.map_map] at hAdded
      have hSame : other = added := by
        refine List.inj_on_of_nodup_map hAdded hOther hMem ?_
        simp only [Function.comp_apply, ← hBook, ← hId, other.hOwner.1, other.hOwner.2]
      rw [hSame]
      exact CatalogWrite.added_status added hMem

/-- In every catalog that was written, a category has the status of its current version. -/
theorem statusAgrees_of_run (hRun : Run CatalogStep CatalogTables.empty writes tables) :
    tables.StatusAgrees := by
  refine Run.invariant ?_ (fun _ _ _ h hStep => statusAgrees_step hStep h) hRun
  intro category hCategory
  exact absurd hCategory List.not_mem_nil

end Writes

/-! ## The context of the compiler -/

def EntryAsset.ofRecord (row : AssetRecord) : EntryAsset where
  assetCode := row.assetCode
  kind := row.kind
  ledgerScale := row.ledgerScale
  inputScale := row.inputScale
  minorUnitScale := if row.kind = "fiat" then some row.ledgerScale else none
  status := row.status
  hScale := row.hScale
  hMinor := by
    intro scale hScale
    split_ifs at hScale
    · rw [Option.mem_some_iff.1 hScale]
    · exact absurd hScale (Option.not_mem_none scale)

def accountSystemRoles : List AccountSystemRole :=
  [.standard, .expenseClearing, .incomeClearing, .balanceAdjustment, .fxTrading]

/-- `AccountSystemRole(row.system_role or "standard")`; the column is never empty text. -/
def accountSystemRole (systemRole : Option String) : Except EntryError AccountSystemRole :=
  fetch (accountSystemRoles.find? fun role => role.value = systemRole.getD "standard")
    (.runtime "not a valid AccountSystemRole")

def loadAccount (u : UnicodeTables) (row : BookCatalogs.AccountRecord) :
    Except EntryError EntryAccount := do
  let systemRole ← accountSystemRole row.systemRole
  require (strip row.currentName ≠ "") (.runtime "account display_name must be nonblank")
  return { accountId := row.accountId
           bookId := row.bookId
           displayName := row.currentName
           assetCode := row.assetCode
           accountType := row.accountType
           accountSubtype := row.accountSubtype
           systemRole := systemRole
           status := row.status
           last4 := deriveAccountLast4 u row.currentName
           aliases := [] }

/-- A category with its current version. -/
abbrev CategoryRow := BookCatalogs.CategoryRecord × BookCatalogs.CategoryVersionRecord

/-- The names from the root down to a category.  No category is visited twice, so that
one step for each category is enough. -/
def ancestorNames (rows : List CategoryRow) : Nat → List UUID → Option UUID →
    Option (List String)
  | _, _, none => some []
  | 0, _, some _ => none
  | fuel + 1, seen, some categoryId =>
      if categoryId ∈ seen then none
      else
        match rows.find? fun row => row.1.categoryId = categoryId with
        | none => none
        | some row => (ancestorNames rows fuel (categoryId :: seen)
            row.1.parentCategoryId).map (· ++ [row.1.currentName])

/-- `_category_path` -/
def categoryPath (rows : List CategoryRow) (categoryId : UUID) :
    Except EntryError (List String) :=
  fetch (ancestorNames rows (rows.length + 1) [] (some categoryId))
    (.runtime "category hierarchy is invalid")

def loadCategory (rows : List CategoryRow) (row : CategoryRow) :
    Except EntryError EntryCategory := do
  let path ← categoryPath rows row.1.categoryId
  require (path ≠ [] ∧ ∀ part ∈ path, strip part ≠ "")
    (.runtime "category path must be non-empty")
  return { categoryId := row.1.categoryId
           categoryVersionId := row.2.categoryVersionId
           bookId := row.1.bookId
           path := path
           usageKind := row.2.usageKind
           status := row.1.status
           aliases := [] }

namespace CatalogTables

variable (tables : CatalogTables) (bookId : UUID)

def accountRows : List BookCatalogs.AccountRecord :=
  (tables.accounts.filter fun a => a.bookId = bookId).insertionSort
    (·.accountId ≤ ·.accountId)

/-- The categories of the Book joined with their current versions. -/
def categoryRows : List CategoryRow :=
  ((tables.categories.filter fun c => c.bookId = bookId).insertionSort
      (·.categoryId ≤ ·.categoryId)).flatMap fun category =>
    (tables.categoryVersions.filter fun v => v.bookId = category.bookId
      ∧ v.categoryId = category.categoryId
      ∧ category.currentVersionId = some v.categoryVersionId).map fun v => (category, v)

end CatalogTables

/-- `load_compilation_context`, for an entry that is neither a refund nor an adjustment; the
Book has an event head, at `lastPosition`. -/
def loadCompilationContext (u : UnicodeTables) (tables : CatalogTables)
    (bookId commandId transactionId : UUID) (actorSubjectId : String) (lastPosition : Nat)
    (lockedLastPosition : Option Nat) : Except EntryError EntryCompilationContext := do
  require (∀ locked ∈ lockedLastPosition, locked = lastPosition)
    (.gateway .intentStale "the prepared entry is stale" none)
  let assets := (tables.assets.insertionSort (·.assetCode.1 ≤ ·.assetCode.1)).map .ofRecord
  let accounts ← (tables.accountRows bookId).mapM (loadAccount u)
  let rows := tables.categoryRows bookId
  let categories ← rows.mapM (loadCategory rows)
  return { bookId := bookId
           commandId := commandId
           transactionId := transactionId
           actorSubjectId := actorSubjectId
           lockedLastPosition := lastPosition
           assets := assets
           accounts := accounts
           categories := categories
           currentBalanceUnits := none
           originalEntry := none }

/-! ## What the context is read from -/

/-- The context is that of a Book of the tables. -/
structure LoadedFrom (u : UnicodeTables) (tables : CatalogTables)
    (context : EntryCompilationContext) : Prop where
  assets : ∀ asset ∈ context.assets, ∃ row ∈ tables.assets, asset = .ofRecord row
  accounts : (tables.accountRows context.bookId).mapM (loadAccount u) = .ok context.accounts
  categories : (tables.categoryRows context.bookId).mapM
    (loadCategory (tables.categoryRows context.bookId)) = .ok context.categories

section Loading

variable {u : UnicodeTables} {tables : CatalogTables} {context : EntryCompilationContext}
  {bookId commandId transactionId : UUID} {actorSubjectId : String} {lastPosition : Nat}
  {lockedLastPosition : Option Nat}

theorem loadCompilationContext_ok (h : loadCompilationContext u tables bookId commandId
      transactionId actorSubjectId lastPosition lockedLastPosition = .ok context) :
    context.bookId = bookId ∧ LoadedFrom u tables context := by
  unfold loadCompilationContext at h
  simp only [bind_eq_ok, pure_eq_ok] at h
  obtain ⟨_, -, accounts, hAccounts, categories, hCategories, rfl⟩ := h
  refine ⟨rfl, ?_, hAccounts, hCategories⟩
  intro asset hMem
  obtain ⟨row, hRow, rfl⟩ := List.mem_map.1 hMem
  exact ⟨row, (List.perm_insertionSort _ _).mem_iff.1 hRow, rfl⟩

/-- The policy of an asset is its row. -/
theorem asset_of_context (hLoaded : LoadedFrom u tables context) {assetCode : AssetCode}
    {asset : EntryAsset} (h : context.asset assetCode = .ok asset) :
    ∃ row, tables.getAsset assetCode = some row ∧ asset = .ofRecord row := by
  unfold EntryCompilationContext.asset at h
  split at h
  · next found hFound =>
      cases h
      have hMem : asset ∈ context.assets.filter fun a => a.assetCode = assetCode :=
        hFound ▸ List.mem_singleton_self _
      obtain ⟨hAsset, hCode⟩ := List.mem_filter.1 hMem
      obtain ⟨row, hRow, rfl⟩ := hLoaded.assets asset hAsset
      refine ⟨row, find?_only hRow hCode fun other hOther hSame => ?_, rfl⟩
      refine List.inj_on_of_nodup_map tables.hAssets hOther hRow ?_
      exact (of_decide_eq_true hSame).trans (of_decide_eq_true hCode).symm
  · exact nomatch h

theorem mem_accountRows {row : BookCatalogs.AccountRecord} :
    row ∈ tables.accountRows bookId ↔ row ∈ tables.accounts ∧ row.bookId = bookId := by
  unfold CatalogTables.accountRows
  rw [(List.perm_insertionSort _ _).mem_iff, List.mem_filter, decide_eq_true_eq]

theorem getAccount_of_mem {row : BookCatalogs.AccountRecord} (hRow : row ∈ tables.accounts) :
    tables.getAccount row.bookId row.accountId = some row := by
  refine find?_only hRow (by simp) fun other hOther hSame => ?_
  obtain ⟨hBook, hId⟩ := of_decide_eq_true hSame
  exact List.inj_on_of_nodup_map tables.hAccounts hOther hRow (Prod.ext hBook hId)

theorem loadAccount_ok {row : BookCatalogs.AccountRecord} {account : EntryAccount}
    (h : loadAccount u row = .ok account) :
    accountSystemRole row.systemRole = .ok account.systemRole
      ∧ account.accountId = row.accountId ∧ account.bookId = row.bookId
      ∧ account.assetCode = row.assetCode ∧ account.accountType = row.accountType
      ∧ account.accountSubtype = row.accountSubtype ∧ account.status = row.status := by
  simp only [loadAccount, bind_eq_ok, pure_eq_ok] at h
  obtain ⟨role, hRole, _, -, rfl⟩ := h
  exact ⟨hRole, rfl, rfl, rfl, rfl, rfl, rfl⟩

/-- An account is its row. -/
theorem account_of_context (hLoaded : LoadedFrom u tables context) {account : EntryAccount}
    (h : account ∈ context.accounts) :
    ∃ row, tables.getAccount context.bookId account.accountId = some row
      ∧ loadAccount u row = .ok account := by
  obtain ⟨row, hRow, hAccount⟩ := mapM_result_ok hLoaded.accounts account h
  obtain ⟨hMem, hBook⟩ := mem_accountRows.1 hRow
  refine ⟨row, ?_, hAccount⟩
  rw [(loadAccount_ok hAccount).2.1, ← hBook]
  exact getAccount_of_mem hMem

/-- A category is its row, with the version that is current. -/
theorem category_of_context (hLoaded : LoadedFrom u tables context)
    (hStatus : tables.StatusAgrees) {category : EntryCategory}
    (h : category ∈ context.categories) :
    ∃ version, tables.getCategoryVersion context.bookId category.categoryId
        category.categoryVersionId = some version
      ∧ version.status = category.status ∧ version.usageKind = category.usageKind := by
  obtain ⟨row, hRow, hCategory⟩ := mapM_result_ok hLoaded.categories category h
  simp only [loadCategory, bind_eq_ok, pure_eq_ok] at hCategory
  obtain ⟨path, -, _, -, rfl⟩ := hCategory
  unfold CatalogTables.categoryRows at hRow
  simp only [List.mem_flatMap, (List.perm_insertionSort _ _).mem_iff, List.mem_filter,
    List.mem_map, decide_eq_true_eq] at hRow
  obtain ⟨record, ⟨hRecord, hBook⟩, version, ⟨hVersion, hOwner, hId, hCurrent⟩, rfl⟩ := hRow
  refine ⟨version, find?_only hVersion ?_ ?_, ?_, rfl⟩
  · exact decide_eq_true ⟨hOwner.trans hBook, hId, rfl⟩
  · intro other hOther hSame
    obtain ⟨hOtherBook, hOtherId, hOtherVersion⟩ := of_decide_eq_true hSame
    refine List.inj_on_of_nodup_map tables.hVersions hOther hVersion ?_
    simp only [hOtherBook, hOtherId, hOtherVersion, hOwner, hId, hBook]
  · exact (hStatus record hRecord version hVersion hOwner hId hCurrent).symm

end Loading

end TrackAnywhere.Ports
