import TrackAnywhere.Ports.EntryContracts
import Mathlib

/-!
# Amounts, accounts and categories of an entry

The compiler turns user text into ledger units and into rows of the Book:
`normalizeAmount` under the policy of an asset, `resolveAccount` and
`resolveCategory` by exact id or by a query that matches exactly one eligible
row, `resolveInternalAccount` by the role of a clearing account.

The Unicode tables of Python are a parameter (`UnicodeTables`): nothing here
depends on which characters they fold.
-/

namespace TrackAnywhere.Ports

open TrackAnywhere.Verified.Checked

/-- `unicodedata.normalize("NFKC", …).casefold()` and `str.isdigit` of one
character. -/
structure UnicodeTables where
  nfkcCasefold : String → String
  isDigit : Char → Bool

/-! ## Errors -/

/-- The members of `EntryErrorCode` that preparing, restoring and compiling an
entry raise. -/
inductive EntryGatewayCode
  | invalidInput
  | amountInvalid
  | denominationUnsupported
  | amountSourceMismatch
  | accountNotFound
  | accountAmbiguous
  | accountIneligible
  | accountClosed
  | sameAccount
  | categoryNotFound
  | categoryAmbiguous
  | categoryIneligible
  | categoryAllocationMismatch
  | originalTransactionNotFound
  | refundAllocationRequired
  | unsupported
  | intentStale
deriving DecidableEq

structure ClarificationChoice where
  choiceId : String
  label : String
  resolvedId : Option UUID
deriving DecidableEq

inductive EntryError
  /-- `EntryGatewayError` -/
  | gateway (code : EntryGatewayCode) (message : String) (field : Option String)
  /-- `EntryClarificationRequired`, with its one clarification. -/
  | clarification (code : EntryGatewayCode) (message field prompt : String)
      (choices : List ClarificationChoice)
  /-- `JournalError` -/
  | journal (message : String)
  /-- What `validate_reporting_allocations` and its lines raise. -/
  | reporting (message : String)
  /-- A contract refuses its fields. -/
  | contract (message : String)
  /-- `RuntimeError`, `ValueError`, and lookups of a key or an index that is not
  there. -/
  | runtime (message : String)
deriving DecidableEq

/-! ## Amounts -/

structure EntryAsset where
  assetCode : AssetCode
  kind : String
  ledgerScale : Nat
  inputScale : Nat
  minorUnitScale : Option Nat
  status : String
  hScale : inputScale ≤ ledgerScale ∧ ledgerScale ≤ 30
  hMinor : ∀ scale ∈ minorUnitScale, scale ≤ ledgerScale
deriving DecidableEq

structure NormalizedAmount where
  units : Nat
  ledgerScale : Nat
  assetCode : AssetCode
deriving DecidableEq

/-- `int` of ASCII digits. -/
def digitsValue (digits : List Char) : Nat :=
  digits.foldl (fun value c => 10 * value + (c.toNat - '0'.toNat)) 0

/-- `str.ljust(width, "0")` -/
def ljustZeros (width : Nat) (digits : List Char) : List Char :=
  digits ++ List.replicate (width - digits.length) '0'

/-- `_parse_non_negative` -/
def parseNonNegative (raw : String) (scale maxInputScale : Nat) (allowZero : Bool) :
    Except String Nat := do
  let whole := (partitionDot raw).1
  let fraction := (partitionDot raw).2.getD []
  require (plainDecimal raw) "amount must be an unsigned plain-decimal string"
  require (fraction.length ≤ maxInputScale)
    s!"amount exceeds the permitted input scale of {maxInputScale}"
  let digits := whole ++ ljustZeros scale fraction
  require (digitsValue digits ≠ 0 ∨ allowZero) "amount units must be positive"
  require ((digits.dropWhile (· = '0')).length ≤ 38)
    "amount units must contain at most 38 digits"
  pure (digitsValue digits)

/-- `validate_amount_source_consistency` -/
def validateAmountSourceConsistency (u : UnicodeTables) (amount : AmountFields) :
    Except EntryError Unit :=
  let source := (strip (u.nfkcCasefold amount.sourceText)).toList
  let explicitMinor := "分".toList <:+ source ∨ "cent".toList <:+ source
    ∨ "cents".toList <:+ source ∨ "minor_unit".toList <:+: source
  let explicitAsset := "asset_unit".toList <:+: source
    ∨ (amount.assetCode.1 = "CNY"
      ∧ ('¥' ∈ source ∨ '￥' ∈ source ∨ "元".toList <:+ source))
  require (¬ ((explicitMinor ∧ amount.denomination = .assetUnit)
      ∨ (explicitAsset ∧ amount.denomination = .minorUnit)))
    (.gateway .amountSourceMismatch
      "source text explicitly contradicts the amount denomination"
      (some "amount.denomination"))

/-- The scale of the ledger units in one unit of the denomination, and the
number of decimals that the input may have. -/
def denominationScales (asset : EntryAsset) :
    MoneyDenomination → Except EntryError (Nat × Nat)
  | .assetUnit => .ok (asset.ledgerScale, asset.inputScale)
  | .minorUnit =>
      match asset.minorUnitScale with
      | some minorUnitScale =>
          if asset.kind = "fiat" then
            .ok (asset.ledgerScale - minorUnitScale, asset.ledgerScale - minorUnitScale)
          else .error unsupported
      | none => .error unsupported
where
  unsupported : EntryError := .gateway .denominationUnsupported
    "minor_unit denomination is unsupported for this asset" (some "amount.denomination")

def normalizeAmount (u : UnicodeTables) (amount : AmountFields) (asset : EntryAsset)
    (allowZero : Bool) : Except EntryError NormalizedAmount := do
  require (amount.assetCode = asset.assetCode)
    (.gateway .amountInvalid "amount asset does not match the selected asset policy"
      (some "amount.asset_code"))
  require (asset.status = "active")
    (.gateway .denominationUnsupported "amount asset is unavailable"
      (some "amount.asset_code"))
  validateAmountSourceConsistency u amount
  let scales ← denominationScales asset amount.denomination
  let units ← (parseNonNegative amount.value scales.1 scales.2 allowZero).mapError
    fun message => .gateway .amountInvalid message (some "amount.value")
  require (units < 10 ^ 38)
    (.gateway .amountInvalid "amount units must contain at most 38 digits"
      (some "amount.value"))
  pure ⟨units, asset.ledgerScale, asset.assetCode⟩

/-! ## Names -/

/-- `_normalize`: fold the text, and join its words by single spaces. -/
def normalizeText (u : UnicodeTables) (value : String) : String :=
  " ".intercalate
    ((((u.nfkcCasefold value).toList.splitOnP isPythonSpace).filter (· ≠ [])).map
      String.ofList)

/-- Where `derive_account_last4` looks: the text before the candidate, and the
candidate. -/
def last4Candidate (value : List Char) : List Char × List Char :=
  if 6 ≤ value.length ∧ value.getLast? = some ')'
      ∧ value[value.length - 6]? = some '(' then
    (value.take (value.length - 5), (value.drop (value.length - 5)).take 4)
  else (value.take (value.length - 4), value.drop (value.length - 4))

def deriveAccountLast4 (u : UnicodeTables) (currentName : String) : Option String :=
  let (before, candidate) := last4Candidate (strip currentName).toList
  if candidate.length = 4 ∧ candidate.all isDigit
      ∧ ¬ before.getLast?.any u.isDigit then
    some (String.ofList candidate)
  else none

/-- `_display_name_without_last4` -/
def displayNameWithoutLast4 (u : UnicodeTables) (currentName : String) : String :=
  let value := strip currentName
  if deriveAccountLast4 u value = none then value
  else
    let before := (last4Candidate value.toList).1
    let base := if before.getLast? = some '(' ∧ value.toList.getLast? = some ')' then
      before.dropLast else before
    String.ofList (rstripWhile isPythonSpace base)

/-! ## Accounts -/

inductive AccountSystemRole
  | standard
  | expenseClearing
  | incomeClearing
  | balanceAdjustment
  | fxTrading
deriving DecidableEq

def AccountSystemRole.value : AccountSystemRole → String
  | standard => "standard"
  | expenseClearing => "expense_clearing"
  | incomeClearing => "income_clearing"
  | balanceAdjustment => "balance_adjustment"
  | fxTrading => "fx_trading"

inductive AccountUse
  | expenseSource
  | incomeDestination
  | transferSource
  | transferDestination
  | cardPaymentFunding
  | cardPaymentCard
  | adjusted
deriving DecidableEq

structure EntryAccount where
  accountId : UUID
  bookId : UUID
  displayName : String
  assetCode : AssetCode
  accountType : AccountType
  accountSubtype : Option String
  systemRole : AccountSystemRole
  status : String
  last4 : Option String
  aliases : List String
deriving DecidableEq

namespace EntryAccount

/-- `_is_eligible` -/
def eligible (account : EntryAccount) (use : AccountUse) : Bool :=
  let isAsset := decide (account.accountType = .asset)
  let isCard := decide (account.accountType = .liability
    ∧ account.accountSubtype = some "credit_card")
  decide (account.systemRole = .standard) &&
    match use with
    | .expenseSource => isAsset || isCard
    | .cardPaymentCard => isCard
    | _ => isAsset

/-- `_account_query_names` -/
def queryNames (u : UnicodeTables) (account : EntryAccount) : List String :=
  let base := displayNameWithoutLast4 u account.displayName
  (account.displayName :: account.aliases).map (normalizeText u)
    ++ if account.last4 = deriveAccountLast4 u account.displayName ∧ base ≠ "" then
        [normalizeText u base]
      else []

/-- `_choice_label` -/
def choiceLabel (u : UnicodeTables) (account : EntryAccount) : String :=
  match account.last4 with
  | some last4 =>
      if deriveAccountLast4 u account.displayName ≠ some last4 then
        account.displayName ++ " ••••" ++ last4
      else account.displayName
  | none => account.displayName

end EntryAccount

/-- `_require_eligible` of an account. -/
def requireEligibleAccount (account : EntryAccount) (assetCode : AssetCode)
    (use : AccountUse) : Except EntryError Unit := do
  require (account.status = "active")
    (.gateway .accountClosed "selected account is not active" (some "account"))
  require (account.assetCode = assetCode ∧ account.eligible use)
    (.gateway .accountIneligible "selected account is not eligible for this entry"
      (some "account"))

/-- A resolution: the row, or the choices among several. -/
inductive Resolution (α : Type)
  | resolved (row : α)
  | choices (choices : List ClarificationChoice)

/-- The accounts that a query matches. -/
def accountCandidates (u : UnicodeTables) (reference : AccountRefFields)
    (accounts : List EntryAccount) (bookId : UUID) (assetCode : AssetCode)
    (use : AccountUse) : List EntryAccount :=
  accounts.filter fun account =>
    account.bookId = bookId ∧ account.assetCode = assetCode
      ∧ account.status = "active" ∧ account.eligible use
      ∧ reference.query.any
        (fun query => (account.queryNames u).contains (normalizeText u query))
      ∧ (reference.last4 = none ∨ account.last4 = reference.last4)
      ∧ (reference.subtype = none ∨ account.accountSubtype = reference.subtype)

def resolveAccount (u : UnicodeTables) (reference : AccountRef)
    (accounts : List EntryAccount) (bookId : UUID) (assetCode : AssetCode)
    (use : AccountUse) (categoryIds : List UUID) :
    Except EntryError (Resolution EntryAccount) :=
  match reference.1.accountId with
  | some accountId => do
      require (accountId ∉ categoryIds)
        (.gateway .accountIneligible "a category ID cannot be used as an account"
          (some "account"))
      let account ← fetch
        (accounts.find? fun a => a.bookId = bookId ∧ a.accountId = accountId)
        (.gateway .accountNotFound "account was not found in the requested Book"
          (some "account"))
      requireEligibleAccount account assetCode use
      pure (.resolved account)
  | none =>
      match accountCandidates u reference.1 accounts bookId assetCode use with
      | [] => .error (.gateway .accountNotFound
          "no eligible account exactly matches the query" (some "account"))
      | [account] => .ok (.resolved account)
      | candidates => .ok (.choices
          ((candidates.insertionSort (·.accountId ≤ ·.accountId)).map fun account =>
            ⟨account.accountId.text, account.choiceLabel u, some account.accountId⟩))

/-- The type that an internal account of the role must have. -/
def AccountSystemRole.expectedType : AccountSystemRole → Option AccountType
  | expenseClearing => some .expense
  | incomeClearing => some .income
  | balanceAdjustment => some .equity
  | _ => none

/-- The accounts that `resolve_internal_account` chooses from. -/
def internalCandidates (accounts : List EntryAccount) (bookId : UUID)
    (assetCode : AssetCode) (role : AccountSystemRole) : List EntryAccount :=
  accounts.filter fun account =>
    account.bookId = bookId ∧ account.assetCode = assetCode
      ∧ account.systemRole = role ∧ account.status = "active"
      ∧ (role.expectedType = none ∨ role.expectedType = some account.accountType)

/-- `resolve_internal_account`; no caller passes the standard role. -/
def resolveInternalAccount (accounts : List EntryAccount) (bookId : UUID)
    (assetCode : AssetCode) (role : AccountSystemRole) :
    Except EntryError EntryAccount :=
  match internalCandidates accounts bookId assetCode role with
  | [account] => .ok account
  | _ => .error (.gateway .accountIneligible
      s!"exactly one active {role.value} account is required" (some "account"))

/-! ## Categories -/

inductive CategoryUsageKind
  | expense
  | income
  | both
deriving DecidableEq

structure EntryCategory where
  categoryId : UUID
  categoryVersionId : UUID
  bookId : UUID
  path : List String
  usageKind : CategoryUsageKind
  status : String
  aliases : List String
deriving DecidableEq

/-- Active, and usable for the kind: the condition of `_require_eligible`. -/
def EntryCategory.Eligible (category : EntryCategory) (usageKind : CategoryUsageKind) :
    Prop :=
  category.status = "active"
    ∧ (category.usageKind = usageKind ∨ category.usageKind = .both)

instance (category : EntryCategory) (usageKind : CategoryUsageKind) :
    Decidable (category.Eligible usageKind) :=
  inferInstanceAs (Decidable (_ ∧ _))

/-- Whether the path is the category's, or the query one of its names. -/
def CategoryRefFields.names (u : UnicodeTables) (reference : CategoryRefFields)
    (category : EntryCategory) : Bool :=
  match reference.path with
  | some path =>
      decide (category.path.map (normalizeText u) = path.map (normalizeText u))
  | none =>
      reference.query.any fun query =>
        (category.path.getLast?.toList ++ category.aliases).map (normalizeText u)
          |>.contains (normalizeText u query)

/-- The categories that a path or a query matches. -/
def categoryCandidates (u : UnicodeTables) (reference : CategoryRefFields)
    (categories : List EntryCategory) (bookId : UUID) (usageKind : CategoryUsageKind) :
    List EntryCategory :=
  categories.filter fun category =>
    category.bookId = bookId ∧ category.Eligible usageKind
      ∧ reference.names u category

def resolveCategory (u : UnicodeTables) (reference : CategoryRef)
    (categories : List EntryCategory) (bookId : UUID) (usageKind : CategoryUsageKind)
    (accountIds : List UUID) : Except EntryError (Resolution EntryCategory) :=
  match reference.1.categoryId with
  | some categoryId => do
      require (categoryId ∉ accountIds)
        (.gateway .categoryIneligible "an account ID cannot be used as a category"
          (some "category"))
      let category ← fetch
        (categories.find? fun c => c.bookId = bookId ∧ c.categoryId = categoryId)
        (.gateway .categoryNotFound "category was not found in the requested Book"
          (some "category"))
      require (category.Eligible usageKind)
        (.gateway .categoryIneligible "selected category is not eligible for this entry"
          (some "category"))
      pure (.resolved category)
  | none =>
      match categoryCandidates u reference.1 categories bookId usageKind with
      | [] => .error (.gateway .categoryNotFound
          "no eligible category exactly matches the reference" (some "category"))
      | [category] => .ok (.resolved category)
      | candidates => .ok (.choices
          ((candidates.insertionSort (·.categoryId ≤ ·.categoryId)).map fun category =>
            ⟨category.categoryId.text, " / ".intercalate category.path,
              some category.categoryId⟩))

/-! ## What a resolution says about its row -/

section Resolved

variable {u : UnicodeTables} {accounts : List EntryAccount} {bookId : UUID}
  {assetCode : AssetCode} {use : AccountUse} {categoryIds : List UUID}
  {reference : AccountRef} {account : EntryAccount}

/-- A search finds the only row that it accepts. -/
theorem find?_only {α : Type} {rows : List α} {p : α → Bool} {row : α}
    (hMem : row ∈ rows) (hRow : p row) (hOnly : ∀ r ∈ rows, p r → r = row) :
    rows.find? p = some row := by
  obtain ⟨found, hFound⟩ := Option.isSome_iff_exists.1
    (List.find?_isSome.2 ⟨row, hMem, hRow⟩)
  rw [hFound, hOnly found (List.mem_of_find?_eq_some hFound) (List.find?_some hFound)]

/-- The chosen account is an eligible one of the Book. -/
theorem resolveAccount_resolved
    (h : resolveAccount u reference accounts bookId assetCode use categoryIds
      = .ok (.resolved account)) :
    account ∈ accounts ∧ account.bookId = bookId ∧ account.status = "active"
      ∧ account.assetCode = assetCode ∧ account.eligible use := by
  unfold resolveAccount at h
  split at h
  · simp only [requireEligibleAccount, bind_eq_ok, require_eq_ok, fetch_eq_ok,
      pure_eq_ok, Resolution.resolved.injEq] at h
    obtain ⟨-, -, found, hFound, -, ⟨-, hActive, hEligible⟩, rfl⟩ := h
    have hBook := List.find?_some hFound
    simp only [decide_eq_true_eq] at hBook
    exact ⟨List.mem_of_find?_eq_some hFound, hBook.1, hActive, hEligible⟩
  · split at h
    · cases h
    · next found hFound =>
        cases h
        have hMem : account ∈ accountCandidates u reference.1 accounts bookId assetCode
            use := hFound ▸ List.mem_singleton_self _
        simp only [accountCandidates, List.mem_filter, decide_eq_true_eq] at hMem
        obtain ⟨hMem, hBook, hAsset, hActive, hEligible, -⟩ := hMem
        exact ⟨hMem, hBook, hActive, hAsset, hEligible⟩
    · cases h

/-- The id of a chosen account resolves to that account, where ids are unique
and no category has it. -/
theorem resolveAccount_ofId (hUnique : (accounts.map (·.accountId)).Nodup)
    (hDisjoint : account.accountId ∉ categoryIds)
    (h : resolveAccount u reference accounts bookId assetCode use categoryIds
      = .ok (.resolved account)) :
    resolveAccount u (.ofId account.accountId) accounts bookId assetCode use categoryIds
      = .ok (.resolved account) := by
  obtain ⟨hMem, hBook, hActive, hAsset, hEligible⟩ := resolveAccount_resolved h
  have hFound : accounts.find? (fun a => a.bookId = bookId
      ∧ a.accountId = account.accountId) = some account :=
    find?_only hMem (by simp [hBook]) fun r hr hSame =>
      List.inj_on_of_nodup_map hUnique hr hMem (of_decide_eq_true hSame).2
  simp only [resolveAccount, AccountRef.ofId, AccountRefFields.byId,
    requireEligibleAccount, bind_eq_ok, require_eq_ok, fetch_eq_ok, pure_eq_ok,
    exists_const]
  exact ⟨hDisjoint, account, hFound, ⟨hActive, hAsset, hEligible⟩, rfl⟩

variable {categories : List EntryCategory} {usageKind : CategoryUsageKind}
  {accountIds : List UUID} {categoryRef : CategoryRef} {category : EntryCategory}

theorem resolveCategory_resolved
    (h : resolveCategory u categoryRef categories bookId usageKind accountIds
      = .ok (.resolved category)) :
    category ∈ categories ∧ category.bookId = bookId ∧ category.Eligible usageKind := by
  unfold resolveCategory at h
  split at h
  · simp only [bind_eq_ok, require_eq_ok, fetch_eq_ok, pure_eq_ok,
      Resolution.resolved.injEq] at h
    obtain ⟨-, -, found, hFound, -, hEligible, rfl⟩ := h
    have hBook := List.find?_some hFound
    simp only [decide_eq_true_eq] at hBook
    exact ⟨List.mem_of_find?_eq_some hFound, hBook.1, hEligible⟩
  · split at h
    · cases h
    · next found hFound =>
        cases h
        have hMem : category ∈ categoryCandidates u categoryRef.1 categories bookId
            usageKind := hFound ▸ List.mem_singleton_self _
        simp only [categoryCandidates, List.mem_filter, decide_eq_true_eq] at hMem
        exact ⟨hMem.1, hMem.2.1, hMem.2.2.1⟩
    · cases h

/-- The id of a chosen category resolves to that category. -/
theorem resolveCategory_ofId (hUnique : (categories.map (·.categoryId)).Nodup)
    (hDisjoint : category.categoryId ∉ accountIds)
    (h : resolveCategory u categoryRef categories bookId usageKind accountIds
      = .ok (.resolved category)) :
    resolveCategory u (.ofId category.categoryId) categories bookId usageKind accountIds
      = .ok (.resolved category) := by
  obtain ⟨hMem, hBook, hEligible⟩ := resolveCategory_resolved h
  have hFound : categories.find? (fun c => c.bookId = bookId
      ∧ c.categoryId = category.categoryId) = some category :=
    find?_only hMem (by simp [hBook]) fun r hr hSame =>
      List.inj_on_of_nodup_map hUnique hr hMem (of_decide_eq_true hSame).2
  simp only [resolveCategory, CategoryRef.ofId, CategoryRefFields.byId, bind_eq_ok,
    require_eq_ok, fetch_eq_ok, pure_eq_ok, exists_const]
  exact ⟨hDisjoint, category, hFound, hEligible, rfl⟩

end Resolved

/-! ## The only match -/

/-- The row of the list that fits, when no other one does. -/
structure OnlyMatch {α : Type} (rows : List α) (fits : α → Prop) (row : α) : Prop where
  mem : row ∈ rows
  holds : fits row
  only : ∀ other ∈ rows, fits other → other = row

section OnlyMatch

variable {α : Type} {rows : List α} {row : α}

theorem OnlyMatch.congr {fits fits' : α → Prop} (h : ∀ r ∈ rows, fits r ↔ fits' r) :
    OnlyMatch rows fits row ↔ OnlyMatch rows fits' row := by
  constructor
  · exact fun hOnly => ⟨hOnly.mem, (h row hOnly.mem).1 hOnly.holds, fun other hOther hFits =>
      hOnly.only other hOther ((h other hOther).2 hFits)⟩
  · exact fun hOnly => ⟨hOnly.mem, (h row hOnly.mem).2 hOnly.holds, fun other hOther hFits =>
      hOnly.only other hOther ((h other hOther).1 hFits)⟩

/-- A filter of different rows leaves one row exactly when it is the only match. -/
theorem filter_eq_singleton_iff {p : α → Bool} (hRows : rows.Nodup) :
    rows.filter p = [row] ↔ OnlyMatch rows (p ·) row := by
  constructor
  · intro h
    have hMem : row ∈ rows.filter p := h ▸ List.mem_singleton_self row
    refine ⟨(List.mem_filter.1 hMem).1, (List.mem_filter.1 hMem).2, fun other hOther hp => ?_⟩
    have hLeft : other ∈ rows.filter p := List.mem_filter.2 ⟨hOther, hp⟩
    rw [h] at hLeft
    exact List.mem_singleton.1 hLeft
  · intro h
    refine List.perm_singleton.1 ((List.perm_ext_iff_of_nodup (hRows.filter p)
      (List.nodup_singleton row)).2 fun other => ?_)
    rw [List.mem_filter, List.mem_singleton]
    constructor
    · exact fun hOther => h.only other hOther.1 hOther.2
    · rintro rfl
      exact ⟨h.mem, h.holds⟩

/-- Where at most one row has the key, a search for it finds the only match. -/
theorem find?_eq_some_iff_only {p : α → Bool}
    (hOnly : ∀ r ∈ rows, ∀ r' ∈ rows, p r → p r' → r = r') :
    rows.find? p = some row ↔ OnlyMatch rows (p ·) row := by
  constructor
  · intro h
    have hMem := List.mem_of_find?_eq_some h
    exact ⟨hMem, List.find?_some h, fun other hOther hp =>
      hOnly other hOther row hMem hp (List.find?_some h)⟩
  · exact fun h => find?_only h.mem h.holds h.only

end OnlyMatch

/-- Whether the reference means the account: it has its id, or one of its names. -/
def AccountRefFields.Means (u : UnicodeTables) (reference : AccountRefFields)
    (account : EntryAccount) : Prop :=
  match reference.accountId with
  | some accountId => account.accountId = accountId
  | none =>
      reference.query.any
          (fun query => (account.queryNames u).contains (normalizeText u query)) = true
        ∧ (reference.last4 = none ∨ account.last4 = reference.last4)
        ∧ (reference.subtype = none ∨ account.accountSubtype = reference.subtype)

/-- An active account of the Book and the asset that may be used so. -/
structure EntryAccount.Usable (account : EntryAccount) (bookId : UUID) (assetCode : AssetCode)
    (use : AccountUse) : Prop where
  book : account.bookId = bookId
  asset : account.assetCode = assetCode
  active : account.status = "active"
  eligible : account.eligible use = true

/-- Whether the reference means the category: it has its id, its path or one of its names. -/
def CategoryRefFields.Means (u : UnicodeTables) (reference : CategoryRefFields)
    (category : EntryCategory) : Prop :=
  match reference.categoryId with
  | some categoryId => category.categoryId = categoryId
  | none => reference.names u category = true

/-- A category of the Book that may be used for the kind. -/
structure EntryCategory.Usable (category : EntryCategory) (bookId : UUID)
    (usageKind : CategoryUsageKind) : Prop where
  book : category.bookId = bookId
  eligible : category.Eligible usageKind

section Uniqueness

variable {u : UnicodeTables} {bookId : UUID}

section Accounts

variable {accounts : List EntryAccount} {assetCode : AssetCode} {use : AccountUse}
  {categoryIds : List UUID} {reference : AccountRef} {account : EntryAccount}

theorem findAccount_iff {accountId : UUID} (hUnique : (accounts.map (·.accountId)).Nodup) :
    accounts.find? (fun a => a.bookId = bookId ∧ a.accountId = accountId) = some account
      ↔ OnlyMatch accounts (fun a => a.bookId = bookId ∧ a.accountId = accountId) account := by
  rw [find?_eq_some_iff_only fun r hr r' hr' hp hp' =>
    List.inj_on_of_nodup_map hUnique hr hr' ((of_decide_eq_true hp).2.trans
      (of_decide_eq_true hp').2.symm)]
  exact OnlyMatch.congr fun r _ => decide_eq_true_iff

theorem accountCandidates_iff (hUnique : (accounts.map (·.accountId)).Nodup)
    (hId : reference.1.accountId = none) :
    accountCandidates u reference.1 accounts bookId assetCode use = [account]
      ↔ OnlyMatch accounts (fun a => a.Usable bookId assetCode use ∧ reference.1.Means u a)
        account := by
  rw [accountCandidates, filter_eq_singleton_iff hUnique.of_map]
  refine OnlyMatch.congr fun r _ => ?_
  simp only [decide_eq_true_eq, AccountRefFields.Means, hId]
  constructor
  · rintro ⟨hBook, hAsset, hActive, hEligible, hMeans⟩
    exact ⟨⟨hBook, hAsset, hActive, hEligible⟩, hMeans⟩
  · rintro ⟨hUsable, hMeans⟩
    exact ⟨hUsable.book, hUsable.asset, hUsable.active, hUsable.eligible, hMeans⟩

/-- An account is returned exactly when it is the only usable one that is meant. -/
theorem resolveAccount_iff_only (hUnique : (accounts.map (·.accountId)).Nodup)
    (hDisjoint : ∀ account ∈ accounts, account.accountId ∉ categoryIds) :
    resolveAccount u reference accounts bookId assetCode use categoryIds
        = .ok (.resolved account)
      ↔ OnlyMatch accounts (fun a => a.Usable bookId assetCode use ∧ reference.1.Means u a)
        account := by
  cases hId : reference.1.accountId with
  | some accountId =>
      simp only [resolveAccount, AccountRefFields.Means, hId, requireEligibleAccount,
        bind_eq_ok, require_eq_ok, fetch_eq_ok, pure_eq_ok, Resolution.resolved.injEq,
        exists_const, findAccount_iff hUnique]
      constructor
      · rintro ⟨-, found, hFound, ⟨hActive, hAsset, hEligible⟩, rfl⟩
        exact ⟨hFound.mem, ⟨⟨hFound.holds.1, hAsset, hActive, hEligible⟩, hFound.holds.2⟩,
          fun other hOther hFits => hFound.only other hOther ⟨hFits.1.book, hFits.2⟩⟩
      · intro hOnly
        obtain ⟨hUsable, hSame⟩ := hOnly.holds
        refine ⟨hSame ▸ hDisjoint account hOnly.mem, account, ⟨hOnly.mem, ⟨hUsable.book, hSame⟩,
          fun other hOther hFits => ?_⟩, ⟨hUsable.active, hUsable.asset, hUsable.eligible⟩, rfl⟩
        exact List.inj_on_of_nodup_map hUnique hOther hOnly.mem (hFits.2.trans hSame.symm)
  | none =>
      rw [← accountCandidates_iff hUnique hId, resolveAccount, hId]
      dsimp only
      split
      · next hNone => simp [hNone]
      · next only hOne => simp [hOne]
      · next hOne =>
          constructor
          · intro h
            cases h
          · exact fun h => absurd h (hOne account)

end Accounts

section Categories

variable {categories : List EntryCategory} {usageKind : CategoryUsageKind}
  {accountIds : List UUID} {reference : CategoryRef} {category : EntryCategory}

theorem findCategory_iff {categoryId : UUID} (hUnique : (categories.map (·.categoryId)).Nodup) :
    categories.find? (fun c => c.bookId = bookId ∧ c.categoryId = categoryId) = some category
      ↔ OnlyMatch categories (fun c => c.bookId = bookId ∧ c.categoryId = categoryId)
        category := by
  rw [find?_eq_some_iff_only fun r hr r' hr' hp hp' =>
    List.inj_on_of_nodup_map hUnique hr hr' ((of_decide_eq_true hp).2.trans
      (of_decide_eq_true hp').2.symm)]
  exact OnlyMatch.congr fun r _ => decide_eq_true_iff

theorem categoryCandidates_iff (hUnique : (categories.map (·.categoryId)).Nodup)
    (hId : reference.1.categoryId = none) :
    categoryCandidates u reference.1 categories bookId usageKind = [category]
      ↔ OnlyMatch categories (fun c => c.Usable bookId usageKind ∧ reference.1.Means u c)
        category := by
  rw [categoryCandidates, filter_eq_singleton_iff hUnique.of_map]
  refine OnlyMatch.congr fun r _ => ?_
  simp only [decide_eq_true_eq, CategoryRefFields.Means, hId]
  constructor
  · rintro ⟨hBook, hEligible, hMeans⟩
    exact ⟨⟨hBook, hEligible⟩, hMeans⟩
  · rintro ⟨hUsable, hMeans⟩
    exact ⟨hUsable.book, hUsable.eligible, hMeans⟩

/-- A category is returned exactly when it is the only usable one that is meant. -/
theorem resolveCategory_iff_only (hUnique : (categories.map (·.categoryId)).Nodup)
    (hDisjoint : ∀ category ∈ categories, category.categoryId ∉ accountIds) :
    resolveCategory u reference categories bookId usageKind accountIds
        = .ok (.resolved category)
      ↔ OnlyMatch categories (fun c => c.Usable bookId usageKind ∧ reference.1.Means u c)
        category := by
  cases hId : reference.1.categoryId with
  | some categoryId =>
      simp only [resolveCategory, CategoryRefFields.Means, hId, bind_eq_ok, require_eq_ok,
        fetch_eq_ok, pure_eq_ok, Resolution.resolved.injEq, exists_const,
        findCategory_iff hUnique]
      constructor
      · rintro ⟨-, found, hFound, hEligible, rfl⟩
        exact ⟨hFound.mem, ⟨⟨hFound.holds.1, hEligible⟩, hFound.holds.2⟩,
          fun other hOther hFits => hFound.only other hOther ⟨hFits.1.book, hFits.2⟩⟩
      · intro hOnly
        obtain ⟨hUsable, hSame⟩ := hOnly.holds
        refine ⟨hSame ▸ hDisjoint category hOnly.mem, category,
          ⟨hOnly.mem, ⟨hUsable.book, hSame⟩, fun other hOther hFits => ?_⟩, hUsable.eligible, rfl⟩
        exact List.inj_on_of_nodup_map hUnique hOther hOnly.mem (hFits.2.trans hSame.symm)
  | none =>
      rw [← categoryCandidates_iff hUnique hId, resolveCategory, hId]
      dsimp only
      split
      · next hNone => simp [hNone]
      · next only hOne => simp [hOne]
      · next hOne =>
          constructor
          · intro h
            cases h
          · exact fun h => absurd h (hOne category)

end Categories

/-- A resolution returns the one usable record that is meant, and the id of that record
resolves to it. -/
theorem resolution_onlyMatch {accounts : List EntryAccount} {categories : List EntryCategory}
    {accountIds categoryIds : List UUID}
    (hAccounts : (accounts.map (·.accountId)).Nodup)
    (hCategories : (categories.map (·.categoryId)).Nodup)
    (hNoCategory : ∀ account ∈ accounts, account.accountId ∉ categoryIds)
    (hNoAccount : ∀ category ∈ categories, category.categoryId ∉ accountIds) :
    (∀ (reference : AccountRef) (assetCode : AssetCode) (use : AccountUse)
        (account : EntryAccount),
      (resolveAccount u reference accounts bookId assetCode use categoryIds
          = .ok (.resolved account)
        ↔ OnlyMatch accounts
          (fun a => a.Usable bookId assetCode use ∧ reference.1.Means u a) account)
      ∧ (resolveAccount u reference accounts bookId assetCode use categoryIds
          = .ok (.resolved account) →
        account.Usable bookId assetCode use
          ∧ resolveAccount u (.ofId account.accountId) accounts bookId assetCode use categoryIds
            = .ok (.resolved account)))
      ∧ ∀ (reference : CategoryRef) (usageKind : CategoryUsageKind) (category : EntryCategory),
        (resolveCategory u reference categories bookId usageKind accountIds
            = .ok (.resolved category)
          ↔ OnlyMatch categories
            (fun c => c.Usable bookId usageKind ∧ reference.1.Means u c) category)
        ∧ (resolveCategory u reference categories bookId usageKind accountIds
            = .ok (.resolved category) →
          category.Usable bookId usageKind
            ∧ resolveCategory u (.ofId category.categoryId) categories bookId usageKind
                accountIds = .ok (.resolved category)) := by
  constructor
  · intro reference assetCode use account
    refine ⟨resolveAccount_iff_only hAccounts hNoCategory, fun h => ?_⟩
    have hOnly := (resolveAccount_iff_only hAccounts hNoCategory).1 h
    exact ⟨hOnly.holds.1, resolveAccount_ofId hAccounts (hNoCategory account hOnly.mem) h⟩
  · intro reference usageKind category
    refine ⟨resolveCategory_iff_only hCategories hNoAccount, fun h => ?_⟩
    have hOnly := (resolveCategory_iff_only hCategories hNoAccount).1 h
    exact ⟨hOnly.holds.1, resolveCategory_ofId hCategories (hNoAccount category hOnly.mem) h⟩

end Uniqueness

/-! ### A sample catalog -/

theorem eur_pattern : assetCodePattern "EUR" = true := by
  decide

/-- An account of the sample catalog; all have one name. -/
def sampleWallet (accountId : UUID) (status : String) : EntryAccount where
  accountId := accountId
  bookId := 1
  displayName := "Wallet"
  assetCode := ⟨"EUR", eur_pattern⟩
  accountType := .asset
  accountSubtype := none
  systemRole := .standard
  status := status
  last4 := none
  aliases := []

theorem sampleWalletQuery_validates :
    AccountRefFields.validate ⟨none, some "Wallet", none, none⟩
      = .ok ⟨none, some "Wallet", none, none⟩ := by
  decide

def sampleWalletQuery : AccountRef :=
  ⟨⟨none, some "Wallet", none, none⟩, ⟨none, some "Wallet", none, none⟩,
    sampleWalletQuery_validates⟩

def sampleGroceries : EntryCategory := ⟨6, 7, 1, ["Groceries"], .expense, "active", []⟩

theorem resolution_onlyMatch_sample :
    OnlyMatch [sampleWallet 2 "closed", sampleWallet 3 "active"]
        (fun a => a.Usable 1 ⟨"EUR", by decide⟩ .expenseSource
          ∧ sampleWalletQuery.1.Means ⟨id, Char.isDigit⟩ a) (sampleWallet 3 "active")
      ∧ sampleGroceries.Usable 1 .expense := by
  have hBoth := @resolution_onlyMatch ⟨id, Char.isDigit⟩ 1
    [sampleWallet 2 "closed", sampleWallet 3 "active"] [sampleGroceries] [2, 3] [6]
    (by decide) (by decide) (by decide) (by decide)
  exact ⟨(hBoth.1 sampleWalletQuery ⟨"EUR", by decide⟩ .expenseSource
      (sampleWallet 3 "active")).1.1 rfl, ((hBoth.2 (.ofId 6) .expense sampleGroceries).2 rfl).1⟩

end TrackAnywhere.Ports
