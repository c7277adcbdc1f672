import TrackAnywhere.Ports.EntryResolution
import TrackAnywhere.Verified.KeyedSum

/-!
# The journal validator

`JournalValidator.validate` is the gate of every journal command: it reads the
postings one after the other, resolves their accounts in the snapshot of the
catalog, sums the postings of each asset, and for an exchange sums those of the
trading accounts as well.

`Acceptable` says what it accepts without the order of the checks: conditions on
the set of postings and on sums, so that neither the order of the postings nor
which side is called debit matters.

Names are non-empty and snapshots well formed by their types; what is left of the
shape checks is what a value can fail.
-/

namespace TrackAnywhere.Ports

open TrackAnywhere.Verified
open TrackAnywhere.Verified.Checked
open TrackAnywhere.Verified.KeyedSum

/-! ## Commands and snapshots -/

/-- A non-empty string, as ids and asset codes have to be. -/
abbrev Identifier := { s : String // s ≠ "" }

structure PostingDraft where
  postingId : Identifier
  position : Int
  accountId : Identifier
  assetCode : Identifier
  side : PostingSide
  units : Int

structure PostTransaction where
  transactionId : Identifier
  bookId : Identifier
  kind : TransactionKind
  postings : List PostingDraft

/-- `is_valid_account_subtype` -/
def isValidAccountSubtype (value : Option String) : Bool :=
  value.all fun subtype => decide (subtype.length ≤ 64) && accountSubtypePattern subtype

inductive SnapshotStatus
  | active
  | closed
deriving DecidableEq

/-- A snapshot of the shape that the catalog checks. -/
structure JournalAccountSnapshot where
  accountId : Identifier
  bookId : Identifier
  assetCode : Identifier
  accountType : AccountType
  accountSubtype : Option String
  systemRole : AccountSystemRole
  status : SnapshotStatus
  hSubtype : isValidAccountSubtype accountSubtype
  hCard : accountSubtype = some "credit_card" → accountType = .liability

/-- The key of a snapshot in its catalog. -/
def JournalAccountSnapshot.identity (self : JournalAccountSnapshot) : Identifier × Identifier :=
  (self.bookId, self.accountId)

/-- What the validator raises. -/
inductive ValidationError
  | tooFewPostings
  | postingShape (message : String)
  | duplicatePostingId (postingId : Identifier)
  | duplicatePostingPosition (position : Int)
  | invalidPostingUnits (postingId : Identifier)
  | invalidAccountCatalog (bookId accountId : Identifier)
  | crossBookAccount (accountId expectedBookId : Identifier)
  | unknownAccount (accountId : Identifier)
  | accountClosed (accountId : Identifier)
  | postingAssetMismatch (accountId postingAsset accountAsset : Identifier)
  | unbalancedAsset (imbalances : List (Identifier × Int))
  | invalidFxTransaction (message : String)

def ValidationError.message : ValidationError → String
  | tooFewPostings => "a journal transaction requires at least two postings"
  | postingShape message => message
  | duplicatePostingId postingId => "duplicate posting id: " ++ postingId.1
  | duplicatePostingPosition position => s!"duplicate posting position: {position}"
  | invalidPostingUnits postingId => "posting " ++ postingId.1
      ++ " units must be a positive integer with at most 38 digits"
  | invalidAccountCatalog bookId accountId => "duplicate account snapshot for book "
      ++ bookId.1 ++ " and account " ++ accountId.1
  | crossBookAccount accountId expectedBookId => "account " ++ accountId.1
      ++ " does not belong to book " ++ expectedBookId.1
  | unknownAccount accountId => "unknown account: " ++ accountId.1
  | accountClosed accountId => "account is closed: " ++ accountId.1
  | postingAssetMismatch accountId postingAsset accountAsset => "posting asset "
      ++ postingAsset.1 ++ " does not match account " ++ accountId.1 ++ " asset "
      ++ accountAsset.1
  | unbalancedAsset imbalances => "journal is unbalanced for assets: "
      ++ ", ".intercalate (imbalances.map fun item => item.1.1 ++ s!"={item.2}")
  | invalidFxTransaction message => message

/-! ## The validator -/

/-- `_reject_duplicate_posting_identity` -/
def rejectDuplicateDrafts : List Identifier → List Int → List PostingDraft →
    Except ValidationError Unit
  | _, _, [] => .ok ()
  | postingIds, positions, posting :: rest => do
      require (posting.postingId ∉ postingIds) (.duplicatePostingId posting.postingId)
      require (posting.position ∉ positions) (.duplicatePostingPosition posting.position)
      rejectDuplicateDrafts (posting.postingId :: postingIds)
        (posting.position :: positions) rest

/-- `_index_by_identity` -/
def indexByIdentity (accounts : List JournalAccountSnapshot) :
    Except ValidationError (Dict (Identifier × Identifier) JournalAccountSnapshot) :=
  accounts.foldlM (fun indexed account => do
    require (account.identity ∉ indexed)
      (.invalidAccountCatalog account.bookId account.accountId)
    pure (indexed.insert account.identity account)) ∅

/-- The units of a posting, debits positive. -/
def PostingDraft.netUnits (self : PostingDraft) : Int :=
  match self.side with
  | .debit => self.units
  | .credit => -self.units

/-- A posting, filed under its asset. -/
def PostingDraft.item (self : PostingDraft) : Identifier × Int :=
  (self.assetCode, self.netUnits)

/-- What the loop over the postings has gathered. -/
structure ResolvedPostings where
  resolvedAccounts : List JournalAccountSnapshot
  balances : Dict Identifier Int

/-- One round of the loop over the postings. -/
def resolvePosting (accounts : Dict (Identifier × Identifier) JournalAccountSnapshot)
    (bookId : Identifier) (state : ResolvedPostings) (posting : PostingDraft) :
    Except ValidationError ResolvedPostings := do
  let account ← fetch (accounts.lookup (bookId, posting.accountId))
    (if accounts.keys.any fun key => key.2 = posting.accountId then
      .crossBookAccount posting.accountId bookId
    else .unknownAccount posting.accountId)
  require (account.status = .active) (.accountClosed posting.accountId)
  require (posting.assetCode = account.assetCode)
    (.postingAssetMismatch posting.accountId posting.assetCode account.assetCode)
  return ⟨state.resolvedAccounts ++ [account],
    upsert (· + ·) state.balances posting.assetCode posting.netUnits⟩

/-- The nets over the trading accounts. -/
def tradingNets (postings : List PostingDraft) (resolvedAccounts : List JournalAccountSnapshot) :
    Dict Identifier Int :=
  accumulate (· + ·) ∅ (((postings.zip resolvedAccounts).filter fun leg =>
    leg.2.systemRole = .fxTrading).map fun leg => leg.1.item)

/-- The names of assets in a message. -/
def assetNames (assetCodes : List Identifier) : String :=
  ", ".intercalate ((assetCodes.map (·.1)).insertionSort (· ≤ ·))

/-- The checks of an exchange. -/
def validateFx (balances trading : Dict Identifier Int) : Except ValidationError Unit := do
  let exchangedAssets := balances.keys
  require (2 ≤ exchangedAssets.length)
    (.invalidFxTransaction "an FX transaction must exchange at least two assets")
  let missing := exchangedAssets.filter (· ∉ trading)
  require (missing = [])
    (.invalidFxTransaction ("an FX transaction requires a Book-owned trading-account "
      ++ "posting leg for every asset; missing: " ++ assetNames missing))
  let zero := exchangedAssets.filter fun assetCode => valueAt id trading assetCode = 0
  require (zero = [])
    (.invalidFxTransaction ("FX trading-account net units must be nonzero for every asset; "
      ++ "zero: " ++ assetNames zero))
  require ((∃ entry ∈ trading.entries, 0 < entry.2) ∧ ∃ entry ∈ trading.entries, entry.2 < 0)
    (.invalidFxTransaction ("FX trading-account nets must include opposite directions; got: "
      ++ ", ".intercalate ((exchangedAssets.map fun assetCode => assetCode.1
        ++ (if 0 < valueAt id trading assetCode then "=debit" else "=credit")).insertionSort
          (· ≤ ·))))

/-- `JournalValidator.validate` -/
def JournalValidator.validate (command : PostTransaction) (catalog : List JournalAccountSnapshot) :
    Except ValidationError Unit := do
  require (2 ≤ command.postings.length) .tooFewPostings
  forEach command.postings fun posting => require (0 ≤ posting.position)
    (.postingShape "posting position must be a non-negative integer")
  rejectDuplicateDrafts [] [] command.postings
  forEach command.postings fun posting =>
    require (0 < posting.units ∧ posting.units < 10 ^ 38)
      (.invalidPostingUnits posting.postingId)
  let accounts ← indexByIdentity catalog
  let resolved ← command.postings.foldlM (resolvePosting accounts command.bookId) ⟨[], ∅⟩
  let imbalances := resolved.balances.entries.filter fun entry => entry.2 ≠ 0
  require (imbalances = []) (.unbalancedAsset
    ((imbalances.map fun entry => (entry.1, entry.2)).insertionSort fun a b => a.1.1 ≤ b.1.1))
  if command.kind = .fx ∨ command.kind = .creditCardPayment then
    validateFx resolved.balances (tradingNets command.postings resolved.resolvedAccounts)
  else return

/-! ## What it accepts -/

/-- The net of the postings in an asset. -/
def netOf (postings : List PostingDraft) (assetCode : Identifier) : Int :=
  sumAt (postings.map (·.item)) assetCode

/-- The account of an id in a Book is a trading account. -/
def isFxTrading (catalog : List JournalAccountSnapshot) (bookId accountId : Identifier) : Bool :=
  catalog.any fun account => account.bookId = bookId ∧ account.accountId = accountId
    ∧ account.systemRole = .fxTrading

/-- The net over the trading accounts of the Book in an asset. -/
def tradingNet (command : PostTransaction) (catalog : List JournalAccountSnapshot)
    (assetCode : Identifier) : Int :=
  netOf (command.postings.filter fun p => isFxTrading catalog command.bookId p.accountId)
    assetCode

/-- The postings are an exchange over the trading accounts. -/
structure Exchanges (command : PostTransaction) (catalog : List JournalAccountSnapshot) : Prop where
  assets : ∃ p ∈ command.postings, ∃ q ∈ command.postings, p.assetCode ≠ q.assetCode
  nonzero : ∀ p ∈ command.postings, tradingNet command catalog p.assetCode ≠ 0
  received : ∃ p ∈ command.postings, 0 < tradingNet command catalog p.assetCode
  given : ∃ p ∈ command.postings, tradingNet command catalog p.assetCode < 0

/-- What the validator asks of a transaction. -/
structure Acceptable (command : PostTransaction) (catalog : List JournalAccountSnapshot) :
    Prop where
  two : 2 ≤ command.postings.length
  ids : (command.postings.map (·.postingId)).Nodup
  positions : (command.postings.map (·.position)).Nodup
    ∧ ∀ p ∈ command.postings, 0 ≤ p.position
  accounts : ∀ p ∈ command.postings, ∃ account ∈ catalog, account.bookId = command.bookId
    ∧ account.accountId = p.accountId ∧ account.status = .active
    ∧ account.assetCode = p.assetCode
  units : ∀ p ∈ command.postings, 0 < p.units ∧ p.units < 10 ^ 38
  balanced : ∀ assetCode, netOf command.postings assetCode = 0
  exchange : command.kind = .fx ∨ command.kind = .creditCardPayment →
    Exchanges command catalog

section Checks

variable {command : PostTransaction} {catalog : List JournalAccountSnapshot}
  {postings : List PostingDraft} {bookId : Identifier}
  {accounts : Dict (Identifier × Identifier) JournalAccountSnapshot}

theorem rejectDuplicateDrafts_ok {postingIds : List Identifier} {positions : List Int} :
    rejectDuplicateDrafts postingIds positions postings = .ok ()
      ↔ ((postings.map (·.postingId)).Nodup ∧ ∀ p ∈ postings, p.postingId ∉ postingIds)
        ∧ (postings.map (·.position)).Nodup ∧ ∀ p ∈ postings, p.position ∉ positions := by
  induction postings generalizing postingIds positions with
  | nil => simp [rejectDuplicateDrafts]
  | cons posting rest ih =>
      simp only [rejectDuplicateDrafts, bind_eq_ok, require_eq_ok, exists_const, ih,
        List.map_cons, List.nodup_cons, List.forall_mem_cons]
      simp only [List.mem_map, List.mem_cons, not_or, not_exists, not_and]
      constructor
      · rintro ⟨hId, hPosition, ⟨hIds, hNewIds⟩, hPositions, hNewPositions⟩
        exact ⟨⟨⟨fun p hp => (hNewIds p hp).1, hIds⟩, hId, fun p hp => (hNewIds p hp).2⟩,
          ⟨fun p hp => (hNewPositions p hp).1, hPositions⟩, hPosition,
          fun p hp => (hNewPositions p hp).2⟩
      · rintro ⟨⟨⟨hFirst, hIds⟩, hId, hOldIds⟩, ⟨hOther, hPositions⟩, hPosition, hOld⟩
        exact ⟨hId, hPosition, ⟨hIds, fun p hp => ⟨hFirst p hp, hOldIds p hp⟩⟩, hPositions,
          fun p hp => ⟨hOther p hp, hOld p hp⟩⟩

/-- The index has the snapshots that were put into it, each under its identity. -/
theorem index_ok {indexed start : Dict (Identifier × Identifier) JournalAccountSnapshot} :
    catalog.foldlM (fun indexed account => do
        require (account.identity ∉ indexed)
          (ValidationError.invalidAccountCatalog account.bookId account.accountId)
        pure (indexed.insert account.identity account)) start = .ok indexed
      ↔ ((catalog.map (·.identity)).Nodup ∧ ∀ a ∈ catalog, a.identity ∉ start)
        ∧ indexed = catalog.foldl (fun d a => d.insert a.identity a) start := by
  induction catalog generalizing start with
  | nil =>
      simp only [List.foldlM_nil, pure_eq_ok, List.foldl_nil, List.map_nil]
      constructor
      · rintro rfl
        exact ⟨⟨List.nodup_nil, by simp⟩, rfl⟩
      · rintro ⟨-, rfl⟩
        rfl
  | cons account rest ih =>
      simp only [List.foldlM_cons, bind_eq_ok, require_eq_ok, pure_eq_ok, exists_const, ih,
        List.map_cons, List.nodup_cons, List.forall_mem_cons, List.foldl_cons]
      simp only [List.mem_map, not_exists, not_and]
      constructor
      · rintro ⟨_, ⟨hNew, rfl⟩, ⟨hNodup, hRest⟩, hIndexed⟩
        simp only [AList.mem_insert, not_or] at hRest
        exact ⟨⟨⟨fun a ha => (hRest a ha).1, hNodup⟩, hNew, fun a ha => (hRest a ha).2⟩,
          hIndexed⟩
      · rintro ⟨⟨⟨hFirst, hNodup⟩, hNew, hOld⟩, hIndexed⟩
        refine ⟨_, ⟨hNew, rfl⟩, ⟨hNodup, ?_⟩, hIndexed⟩
        intro a ha hMem
        rcases AList.mem_insert _ |>.1 hMem with hSame | hMem
        · exact hFirst a ha hSame
        · exact hOld a ha hMem

theorem lookup_index {start : Dict (Identifier × Identifier) JournalAccountSnapshot}
    {key : Identifier × Identifier} {account : JournalAccountSnapshot}
    (hUnique : (catalog.map (·.identity)).Nodup) :
    (catalog.foldl (fun d a => d.insert a.identity a) start).lookup key = some account
      ↔ (account ∈ catalog ∧ account.identity = key)
        ∨ (key ∉ catalog.map (·.identity) ∧ start.lookup key = some account) := by
  induction catalog generalizing start with
  | nil => simp
  | cons first rest ih =>
      rw [List.map_cons, List.nodup_cons] at hUnique
      rw [List.foldl_cons, ih hUnique.2, List.map_cons]
      by_cases hKey : key = first.identity
      · subst hKey
        rw [AList.lookup_insert]
        constructor
        · rintro (⟨hMem, hIdentity⟩ | ⟨-, hSome⟩)
          · exact .inl ⟨List.mem_cons_of_mem _ hMem, hIdentity⟩
          · cases hSome
            exact .inl ⟨List.mem_cons_self, rfl⟩
        · rintro (⟨hMem, hIdentity⟩ | ⟨hNot, -⟩)
          · rcases List.mem_cons.1 hMem with rfl | hMem
            · exact .inr ⟨hUnique.1, rfl⟩
            · exact .inl ⟨hMem, hIdentity⟩
          · exact absurd List.mem_cons_self hNot
      · rw [AList.lookup_insert_ne hKey]
        constructor
        · rintro (⟨hMem, hIdentity⟩ | ⟨hNot, hSome⟩)
          · exact .inl ⟨List.mem_cons_of_mem _ hMem, hIdentity⟩
          · exact .inr ⟨by simp [hKey, hNot], hSome⟩
        · rintro (⟨hMem, hIdentity⟩ | ⟨hNot, hSome⟩)
          · rcases List.mem_cons.1 hMem with rfl | hMem
            · exact absurd hIdentity.symm hKey
            · exact .inl ⟨hMem, hIdentity⟩
          · exact .inr ⟨fun hMem => hNot (List.mem_cons_of_mem _ hMem), hSome⟩

/-- The catalog is indexed exactly when no two snapshots have one identity, and then
by the snapshots themselves. -/
theorem indexByIdentity_ok :
    indexByIdentity catalog = .ok accounts
      → (catalog.map (·.identity)).Nodup ∧ ∀ key account, accounts.lookup key = some account
        ↔ account ∈ catalog ∧ account.identity = key := by
  intro h
  obtain ⟨⟨hUnique, -⟩, rfl⟩ := index_ok.1 h
  refine ⟨hUnique, fun key account => ?_⟩
  rw [lookup_index hUnique]
  simp

theorem indexByIdentity_of_unique (hUnique : (catalog.map (·.identity)).Nodup) :
    ∃ accounts, indexByIdentity catalog = .ok accounts :=
  ⟨_, index_ok.2 ⟨⟨hUnique, fun _ _ => AList.notMem_empty _⟩, rfl⟩⟩

/-! ## The loop over the postings -/

/-- The account that a posting resolves to. -/
def Resolves (accounts : Dict (Identifier × Identifier) JournalAccountSnapshot)
    (bookId : Identifier) (posting : PostingDraft) (account : JournalAccountSnapshot) : Prop :=
  accounts.lookup (bookId, posting.accountId) = some account ∧ account.status = .active
    ∧ posting.assetCode = account.assetCode

theorem resolvePosting_ok {state state' : ResolvedPostings} {posting : PostingDraft} :
    resolvePosting accounts bookId state posting = .ok state'
      ↔ ∃ account, Resolves accounts bookId posting account
        ∧ state' = ⟨state.resolvedAccounts ++ [account],
          upsert (· + ·) state.balances posting.assetCode posting.netUnits⟩ := by
  unfold resolvePosting Resolves
  simp only [bind_eq_ok, fetch_eq_ok, require_eq_ok, pure_eq_ok, exists_const]
  constructor
  · rintro ⟨account, hLookup, hActive, hAsset, rfl⟩
    exact ⟨account, ⟨hLookup, hActive, hAsset⟩, rfl⟩
  · rintro ⟨account, ⟨hLookup, hActive, hAsset⟩, rfl⟩
    exact ⟨account, hLookup, hActive, hAsset, rfl⟩

/-- The loop resolves every posting, and files each under its asset. -/
theorem resolvePostings_ok {state final : ResolvedPostings} :
    postings.foldlM (resolvePosting accounts bookId) state = .ok final
      ↔ ∃ found, List.Forall₂ (Resolves accounts bookId) postings found
        ∧ final = ⟨state.resolvedAccounts ++ found,
          accumulate (· + ·) state.balances (postings.map (·.item))⟩ := by
  induction postings generalizing state with
  | nil =>
      simp only [List.foldlM_nil, pure_eq_ok, List.forall₂_nil_left_iff, exists_eq_left,
        List.append_nil, List.map_nil, accumulate_nil]
      exact eq_comm
  | cons posting rest ih =>
      rw [List.foldlM_cons, bind_eq_ok]
      constructor
      · rintro ⟨state', hFirst, hRest⟩
        obtain ⟨account, hResolves, rfl⟩ := resolvePosting_ok.1 hFirst
        obtain ⟨found, hFound, rfl⟩ := ih.1 hRest
        refine ⟨account :: found, .cons hResolves hFound, ?_⟩
        rw [List.append_assoc]
        rfl
      · rintro ⟨_, hFound, rfl⟩
        cases hFound with
        | cons hResolves hFound =>
            refine ⟨_, resolvePosting_ok.2 ⟨_, hResolves, rfl⟩, ih.2 ⟨_, hFound, ?_⟩⟩
            rw [List.append_assoc]
            rfl

/-- The net under an asset after the loop. -/
theorem valueAt_items (items : List (Identifier × Int)) (assetCode : Identifier) :
    valueAt id (accumulate (· + ·) (∅ : Dict Identifier Int) items) assetCode
      = sumAt items assetCode := by
  rw [valueAt_accumulate_add, valueAt_empty, zero_add]

theorem mem_items {items : List (Identifier × Int)} {assetCode : Identifier} :
    assetCode ∈ accumulate (· + ·) (∅ : Dict Identifier Int) items
      ↔ assetCode ∈ items.map Prod.fst := by
  rw [mem_accumulate]
  exact or_iff_right (AList.notMem_empty _)

/-- The entries of a dictionary are its keys with their values. -/
theorem mem_entries {d : Dict Identifier Int} {entry : Sigma fun _ : Identifier => Int} :
    entry ∈ d.entries ↔ entry.1 ∈ d ∧ valueAt id d entry.1 = entry.2 := by
  have hEntry : entry ∈ d.entries ↔ d.lookup entry.1 = some entry.2 :=
    AList.mem_lookup_iff.symm
  rw [hEntry, lookup_eq]
  by_cases hMem : entry.1 ∈ d
  · rw [if_pos hMem, Option.some.injEq]
    exact (and_iff_right hMem).symm
  · rw [if_neg hMem]
    simp [hMem]

theorem imbalances_nil_iff {items : List (Identifier × Int)} :
    (accumulate (· + ·) (∅ : Dict Identifier Int) items).entries.filter
        (fun entry => entry.2 ≠ 0) = []
      ↔ ∀ assetCode, sumAt items assetCode = 0 := by
  rw [List.filter_eq_nil_iff]
  constructor
  · intro h assetCode
    by_cases hMem : assetCode ∈ items.map Prod.fst
    · have hEntry := h ⟨assetCode, sumAt items assetCode⟩
        (mem_entries.2 ⟨mem_items.2 hMem, valueAt_items _ _⟩)
      simpa using hEntry
    · exact sumAt_eq_zero hMem
  · intro h entry hEntry
    have hValue := (mem_entries.1 hEntry).2
    rw [valueAt_items, h] at hValue
    simp [← hValue]

/-! ## The exchange -/

/-- A distinct pair among the keys of a dictionary. -/
theorem two_le_keys {d : Dict Identifier Int} :
    2 ≤ d.keys.length ↔ ∃ a ∈ d, ∃ b ∈ d, a ≠ b := by
  rw [← List.toFinset_card_of_nodup d.keys_nodup, Nat.succ_le_iff, Finset.one_lt_card]
  simp only [List.mem_toFinset, AList.mem_keys]

theorem validateFx_ok {balances trading : Dict Identifier Int}
    (hKeys : ∀ assetCode, assetCode ∈ trading → assetCode ∈ balances) :
    validateFx balances trading = .ok ()
      ↔ (∃ a ∈ balances, ∃ b ∈ balances, a ≠ b)
        ∧ (∀ a ∈ balances, valueAt id trading a ≠ 0)
        ∧ (∃ a ∈ balances, 0 < valueAt id trading a)
        ∧ ∃ a ∈ balances, valueAt id trading a < 0 := by
  have hEntries : ∀ q : Int → Prop, (∃ entry ∈ trading.entries, q entry.2)
      ↔ ∃ a ∈ trading, q (valueAt id trading a) := by
    intro q
    constructor
    · rintro ⟨entry, hEntry, hq⟩
      obtain ⟨hMem, hValue⟩ := mem_entries.1 hEntry
      exact ⟨entry.1, hMem, hValue ▸ hq⟩
    · rintro ⟨a, hMem, hq⟩
      exact ⟨⟨a, valueAt id trading a⟩, mem_entries.2 ⟨hMem, rfl⟩, hq⟩
  unfold validateFx
  simp only [bind_eq_ok, require_eq_ok, exists_const, two_le_keys, List.filter_eq_nil_iff,
    decide_eq_true_eq, not_not, AList.mem_keys, hEntries fun v => 0 < v,
    hEntries fun v => v < 0]
  constructor
  · rintro ⟨hTwo, -, hNonzero, ⟨a, ha, hPos⟩, b, hb, hNeg⟩
    exact ⟨hTwo, hNonzero, ⟨a, hKeys a ha, hPos⟩, b, hKeys b hb, hNeg⟩
  · rintro ⟨hTwo, hNonzero, ⟨a, ha, hPos⟩, b, hb, hNeg⟩
    -- an asset without a trading leg has no net
    have hMem : ∀ a ∈ balances, a ∈ trading := by
      intro a ha
      by_contra hMissing
      exact hNonzero a ha (valueAt_eq_zero hMissing)
    exact ⟨hTwo, hMem, hNonzero, ⟨a, hMem a ha, hPos⟩, b, hMem b hb, hNeg⟩

/-- The trading legs are the postings whose account is a trading account. -/
theorem tradingNets_eq {found : List JournalAccountSnapshot}
    (hLookup : ∀ key account, accounts.lookup key = some account
      ↔ account ∈ catalog ∧ account.identity = key)
    (hFound : List.Forall₂ (Resolves accounts bookId) postings found) :
    tradingNets postings found = accumulate (· + ·) ∅
      ((postings.filter fun p => isFxTrading catalog bookId p.accountId).map (·.item)) := by
  unfold tradingNets
  congr 1
  induction hFound with
  | nil => rfl
  | @cons posting account rest found hResolves _ ih =>
      have hTrading : isFxTrading catalog bookId posting.accountId
          = decide (account.systemRole = .fxTrading) := by
        rw [isFxTrading, Bool.eq_iff_iff, List.any_eq_true]
        simp only [decide_eq_true_eq]
        constructor
        · rintro ⟨other, hOther, hBook, hId, hRole⟩
          have hSame := (hLookup (bookId, posting.accountId) other).2
            ⟨hOther, Prod.ext hBook hId⟩
          rw [hResolves.1] at hSame
          cases hSame
          exact hRole
        · intro hRole
          obtain ⟨hMem, hIdentity⟩ := (hLookup _ _).1 hResolves.1
          exact ⟨account, hMem, congrArg Prod.fst hIdentity, congrArg Prod.snd hIdentity, hRole⟩
      rw [List.zip_cons_cons, List.filter_cons, List.filter_cons, hTrading]
      by_cases hRole : account.systemRole = .fxTrading
      · rw [if_pos (decide_eq_true hRole), if_pos (decide_eq_true hRole), List.map_cons,
          List.map_cons, ih]
      · rw [if_neg (by simpa using hRole), if_neg (by simpa using hRole), ih]

/-- What the exchange checks of the sums says of the postings. -/
theorem exchanges_iff {found : List JournalAccountSnapshot}
    (hLookup : ∀ key account, accounts.lookup key = some account
      ↔ account ∈ catalog ∧ account.identity = key)
    (hFound : List.Forall₂ (Resolves accounts command.bookId) command.postings found) :
    validateFx (accumulate (· + ·) ∅ (command.postings.map (·.item)))
        (tradingNets command.postings found) = .ok ()
      ↔ Exchanges command catalog := by
  have hAssets : ∀ q : Identifier → Prop,
      (∃ a ∈ accumulate (· + ·) (∅ : Dict Identifier Int) (command.postings.map (·.item)), q a)
        ↔ ∃ p ∈ command.postings, q p.assetCode := by
    intro q
    simp only [mem_items, List.map_map, List.mem_map, Function.comp_apply]
    constructor
    · rintro ⟨_, ⟨p, hp, rfl⟩, hq⟩
      exact ⟨p, hp, hq⟩
    · rintro ⟨p, hp, hq⟩
      exact ⟨_, ⟨p, hp, rfl⟩, hq⟩
  have hNet : ∀ a, valueAt id (tradingNets command.postings found) a
      = tradingNet command catalog a := by
    intro a
    rw [tradingNets_eq hLookup hFound, valueAt_items]
    rfl
  rw [validateFx_ok]
  · simp only [hNet]
    have hAll := not_congr (hAssets fun a => tradingNet command catalog a = 0)
    simp only [not_exists, not_and] at hAll
    rw [hAssets, hAssets, hAssets, hAll]
    simp only [hAssets]
    constructor
    · rintro ⟨hTwo, hNonzero, hPos, hNeg⟩
      exact ⟨hTwo, hNonzero, hPos, hNeg⟩
    · rintro ⟨hTwo, hNonzero, hPos, hNeg⟩
      exact ⟨hTwo, hNonzero, hPos, hNeg⟩
  · intro a ha
    rw [tradingNets_eq hLookup hFound, mem_items, List.map_map] at ha
    obtain ⟨p, hp, rfl⟩ := List.mem_map.1 ha
    rw [mem_items, List.map_map]
    exact List.mem_map.2 ⟨p, (List.mem_filter.1 hp).1, rfl⟩

/-! ## The accepted transactions -/

theorem forall₂_resolves {indexed : Dict (Identifier × Identifier) JournalAccountSnapshot}
    (hLookup : ∀ key account, indexed.lookup key = some account
      ↔ account ∈ catalog ∧ account.identity = key) :
    (∃ found, List.Forall₂ (Resolves indexed bookId) postings found)
      ↔ ∀ p ∈ postings, ∃ account ∈ catalog, account.bookId = bookId
        ∧ account.accountId = p.accountId ∧ account.status = .active
        ∧ account.assetCode = p.assetCode := by
  have hOne : ∀ p, (∃ account, Resolves indexed bookId p account)
      ↔ ∃ account ∈ catalog, account.bookId = bookId ∧ account.accountId = p.accountId
        ∧ account.status = .active ∧ account.assetCode = p.assetCode := by
    intro p
    unfold Resolves
    simp only [hLookup]
    constructor
    · rintro ⟨account, ⟨hMem, hIdentity⟩, hActive, hAsset⟩
      exact ⟨account, hMem, congrArg Prod.fst hIdentity, congrArg Prod.snd hIdentity, hActive,
        hAsset.symm⟩
    · rintro ⟨account, hMem, hBook, hId, hActive, hAsset⟩
      exact ⟨account, ⟨hMem, Prod.ext hBook hId⟩, hActive, hAsset.symm⟩
  induction postings with
  | nil => simp
  | cons posting rest ih =>
      rw [List.forall_mem_cons]
      constructor
      · rintro ⟨_, hFound⟩
        cases hFound with
        | cons hFirst hRest => exact ⟨(hOne _).1 ⟨_, hFirst⟩, ih.1 ⟨_, hRest⟩⟩
      · rintro ⟨hFirst, hRest⟩
        obtain ⟨account, hFirst⟩ := (hOne _).2 hFirst
        obtain ⟨found, hFound⟩ := ih.2 hRest
        exact ⟨account :: found, .cons hFirst hFound⟩

/-- The validator accepts exactly the acceptable transactions, against catalogs
whose snapshots differ in their identities. -/
theorem validate_ok :
    JournalValidator.validate command catalog = .ok ()
      ↔ (catalog.map (·.identity)).Nodup ∧ Acceptable command catalog := by
  unfold JournalValidator.validate
  simp only [bind_eq_ok, require_eq_ok, exists_const, forEach_eq_ok]
  constructor
  · rintro ⟨hTwo, hShape, _, hDistinct, hUnits, accounts, hIndex, resolved, hLoop,
      hBalanced, hExchange⟩
    obtain ⟨⟨hIds, -⟩, hPositions, -⟩ := rejectDuplicateDrafts_ok.1 hDistinct
    obtain ⟨hUnique, hLookup⟩ := indexByIdentity_ok hIndex
    obtain ⟨found, hFound, rfl⟩ := resolvePostings_ok.1 hLoop
    rw [imbalances_nil_iff] at hBalanced
    refine ⟨hUnique, hTwo, hIds, ⟨hPositions, hShape⟩,
      (forall₂_resolves hLookup).1 ⟨found, hFound⟩, hUnits, hBalanced, ?_⟩
    intro hKind
    rw [if_pos hKind] at hExchange
    exact (exchanges_iff hLookup hFound).1 hExchange
  · rintro ⟨hUnique, h⟩
    obtain ⟨accounts, hIndex⟩ := indexByIdentity_of_unique hUnique
    obtain ⟨-, hLookup⟩ := indexByIdentity_ok hIndex
    obtain ⟨found, hFound⟩ := (forall₂_resolves hLookup).2 h.accounts
    refine ⟨h.two, h.positions.2, (), ?_, h.units, accounts, hIndex, _,
      resolvePostings_ok.2 ⟨found, hFound, rfl⟩, imbalances_nil_iff.2 h.balanced, ?_⟩
    · exact rejectDuplicateDrafts_ok.2 ⟨⟨h.ids, fun _ _ => List.not_mem_nil⟩, h.positions.1,
        fun _ _ => List.not_mem_nil⟩
    · by_cases hKind : command.kind = .fx ∨ command.kind = .creditCardPayment
      · rw [if_pos hKind]
        exact (exchanges_iff hLookup hFound).2 (h.exchange hKind)
      · rw [if_neg hKind]
        rfl

/-! ## Permutations and inverses -/

/-- The other side of a posting. -/
def PostingDraft.swapped (self : PostingDraft) : PostingDraft :=
  { self with side := self.side.opposite }

/-- The exact inverse: the same legs on the other sides, under ids of its own. -/
structure InvertsExactly (inverse original : PostTransaction) : Prop where
  bookId : inverse.bookId = original.bookId
  kind : inverse.kind = original.kind
  legs : List.Forall₂ (fun i o => i.position = o.position ∧ i.accountId = o.accountId
    ∧ i.assetCode = o.assetCode ∧ i.units = o.units ∧ i.side = o.side.opposite)
    inverse.postings original.postings
  ids : (inverse.postings.map (·.postingId)).Nodup

theorem netUnits_opposite {i o : PostingDraft} (hUnits : i.units = o.units)
    (hSide : i.side = o.side.opposite) : i.netUnits = -o.netUnits := by
  unfold PostingDraft.netUnits
  rw [hSide, hUnits]
  cases o.side
  · rfl
  · exact (neg_neg _).symm

theorem netOf_perm {others : List PostingDraft} (h : others.Perm postings)
    (assetCode : Identifier) : netOf others assetCode = netOf postings assetCode :=
  sumAt_perm (h.map _) assetCode

/-- The sums of the inverse are those of the original, with the other sign. -/
theorem netOf_inverse {inverse : List PostingDraft} {p : Identifier → Bool}
    (h : List.Forall₂ (fun i o : PostingDraft => i.position = o.position
      ∧ i.accountId = o.accountId ∧ i.assetCode = o.assetCode ∧ i.units = o.units
      ∧ i.side = o.side.opposite) inverse postings) (assetCode : Identifier) :
    netOf (inverse.filter fun i => p i.accountId) assetCode
      = -netOf (postings.filter fun o => p o.accountId) assetCode := by
  unfold netOf
  rw [← sumAt_neg]
  congr 1
  induction h with
  | nil => rfl
  | @cons i o inverse postings hLeg _ ih =>
      obtain ⟨-, hAccount, hAsset, hUnits, hSide⟩ := hLeg
      rw [List.filter_cons, List.filter_cons, hAccount]
      by_cases hp : p o.accountId = true
      · rw [if_pos hp, if_pos hp, List.map_cons, List.map_cons, List.map_cons, ih,
          PostingDraft.item, hAsset, netUnits_opposite hUnits hSide]
        rfl
      · rw [if_neg hp, if_neg hp, ih]

theorem Acceptable.perm {others : List PostingDraft} (hPerm : others.Perm command.postings)
    (h : Acceptable command catalog) :
    Acceptable { command with postings := others } catalog := by
  have hMem : ∀ p, p ∈ others ↔ p ∈ command.postings := fun p => hPerm.mem_iff
  have hTrading : ∀ a, tradingNet { command with postings := others } catalog a
      = tradingNet command catalog a := fun a => netOf_perm (hPerm.filter _) a
  constructor
  · exact hPerm.length_eq ▸ h.two
  · exact (hPerm.map _).nodup_iff.2 h.ids
  · exact ⟨(hPerm.map _).nodup_iff.2 h.positions.1,
      fun p hp => h.positions.2 p ((hMem p).1 hp)⟩
  · exact fun p hp => h.accounts p ((hMem p).1 hp)
  · exact fun p hp => h.units p ((hMem p).1 hp)
  · exact fun a => (netOf_perm hPerm a).trans (h.balanced a)
  · intro hKind
    obtain ⟨hTwo, hNonzero, hPos, hNeg⟩ := h.exchange hKind
    constructor
    · simpa only [hMem] using hTwo
    · simpa only [hMem, hTrading] using hNonzero
    · simpa only [hMem, hTrading] using hPos
    · simpa only [hMem, hTrading] using hNeg

/-- A property of a leg that the inverse keeps. -/
theorem forall_of_legs {inverse : List PostingDraft} {r : PostingDraft → PostingDraft → Prop}
    {P Q : PostingDraft → Prop} (hLegs : List.Forall₂ r inverse postings)
    (hKeep : ∀ i o, r i o → Q o → P i) (h : ∀ o ∈ postings, Q o) : ∀ i ∈ inverse, P i := by
  induction hLegs with
  | nil => simp
  | cons hLeg _ ih =>
      rw [List.forall_mem_cons] at h ⊢
      exact ⟨hKeep _ _ hLeg h.1, ih h.2⟩

theorem exists_of_legs {inverse : List PostingDraft} {r : PostingDraft → PostingDraft → Prop}
    {P Q : PostingDraft → Prop} (hLegs : List.Forall₂ r inverse postings)
    (hKeep : ∀ i o, r i o → Q o → P i) (h : ∃ o ∈ postings, Q o) : ∃ i ∈ inverse, P i := by
  induction hLegs with
  | nil => simp at h
  | cons hLeg _ ih =>
      rw [List.exists_mem_cons_iff] at h ⊢
      rcases h with h | h
      · exact .inl (hKeep _ _ hLeg h)
      · exact .inr (ih h)

theorem map_of_legs {α : Type} {inverse : List PostingDraft}
    {r : PostingDraft → PostingDraft → Prop} {f : PostingDraft → α}
    (hLegs : List.Forall₂ r inverse postings) (hKeep : ∀ i o, r i o → f i = f o) :
    inverse.map f = postings.map f := by
  induction hLegs with
  | nil => rfl
  | cons hLeg _ ih => rw [List.map_cons, List.map_cons, hKeep _ _ hLeg, ih]

/-- The exact inverse of an acceptable transaction is acceptable. -/
theorem Acceptable.inverse {inverse : PostTransaction}
    (hInverts : InvertsExactly inverse command) (h : Acceptable command catalog) :
    Acceptable inverse catalog := by
  have hLegs := hInverts.legs
  have hTrading : ∀ a, tradingNet inverse catalog a = -tradingNet command catalog a := by
    intro a
    unfold tradingNet
    rw [hInverts.bookId]
    exact netOf_inverse hLegs a
  constructor
  · exact hLegs.length_eq ▸ h.two
  · exact hInverts.ids
  · refine ⟨?_, forall_of_legs hLegs (fun i o hLeg ho => hLeg.1 ▸ ho) h.positions.2⟩
    rw [map_of_legs hLegs fun i o hLeg => hLeg.1]
    exact h.positions.1
  · refine forall_of_legs hLegs (fun i o hLeg ho => ?_) h.accounts
    obtain ⟨account, hMem, hBook, hId, hActive, hAsset⟩ := ho
    exact ⟨account, hMem, hBook.trans hInverts.bookId.symm, hId.trans hLeg.2.1.symm, hActive,
      hAsset.trans hLeg.2.2.1.symm⟩
  · exact forall_of_legs hLegs (fun i o hLeg ho => hLeg.2.2.2.1 ▸ ho) h.units
  · intro a
    have hAll := @netOf_inverse _ _ (fun _ => true) hLegs a
    simp only [List.filter_true] at hAll
    rw [hAll, h.balanced a, neg_zero]
  · intro hKind
    rw [hInverts.kind] at hKind
    obtain ⟨hTwo, hNonzero, hPos, hNeg⟩ := h.exchange hKind
    constructor
    · refine exists_of_legs hLegs (fun i o hLeg ho => ?_) hTwo
      exact exists_of_legs hLegs (fun j q hOther hq => hLeg.2.2.1.symm ▸ hOther.2.2.1.symm ▸ hq) ho
    · refine forall_of_legs hLegs (fun i o hLeg ho => ?_) hNonzero
      rw [hTrading, hLeg.2.2.1]
      exact neg_ne_zero.2 ho
    · refine exists_of_legs hLegs (fun i o hLeg ho => ?_) hNeg
      rw [hTrading, hLeg.2.2.1]
      exact neg_pos.2 ho
    · refine exists_of_legs hLegs (fun i o hLeg ho => ?_) hPos
      rw [hTrading, hLeg.2.2.1]
      exact neg_lt_zero.2 ho

/-- The transaction with its sides swapped inverts the transaction. -/
theorem invertsExactly_swapped (hIds : (command.postings.map (·.postingId)).Nodup) :
    InvertsExactly { command with postings := command.postings.map PostingDraft.swapped }
      command where
  bookId := rfl
  kind := rfl
  legs := by
    rw [List.forall₂_map_left_iff]
    exact List.forall₂_same.2 fun _ _ => ⟨rfl, rfl, rfl, rfl, rfl⟩
  ids := by
    rw [List.map_map]
    exact hIds

/-- A transaction is accepted exactly when it has two postings or more with
distinct ids and distinct positions from zero on, each on an active account of
the Book and in its asset, with units in range; when every asset nets to zero; and
when an exchange has two assets or more, each with a net over the trading accounts,
in both directions.  Neither permuting the postings nor swapping all sides changes
that, and the exact inverse of what is accepted is accepted. -/
theorem validate_accepts_iff (command : PostTransaction) (catalog : List JournalAccountSnapshot)
    (hUnique : (catalog.map (·.identity)).Nodup) :
    (JournalValidator.validate command catalog = .ok () ↔ Acceptable command catalog)
      ∧ (∀ others, others.Perm command.postings →
        (JournalValidator.validate { command with postings := others } catalog = .ok ()
          ↔ JournalValidator.validate command catalog = .ok ()))
      ∧ (JournalValidator.validate
          { command with postings := command.postings.map PostingDraft.swapped } catalog
            = .ok () ↔ JournalValidator.validate command catalog = .ok ())
      ∧ ∀ inverse, InvertsExactly inverse command →
        JournalValidator.validate command catalog = .ok () →
        JournalValidator.validate inverse catalog = .ok () := by
  simp only [validate_ok, hUnique, true_and]
  refine ⟨?_, ?_, ?_⟩
  · intro others hPerm
    constructor
    · intro h
      have hBack := @Acceptable.perm { command with postings := others } catalog
        command.postings hPerm.symm h
      exact hBack
    · intro h
      exact h.perm hPerm
  · constructor
    · intro h
      have hIds : ((command.postings.map PostingDraft.swapped).map (·.postingId)).Nodup := h.ids
      have hBack : (command.postings.map PostingDraft.swapped).map PostingDraft.swapped
          = command.postings := by
        rw [List.map_map]
        refine (List.map_congr_left fun p _ => ?_).trans (List.map_id _)
        show ({ p with side := p.side.opposite.opposite } : PostingDraft) = p
        cases p with
        | mk postingId position accountId assetCode side units => cases side <;> rfl
      have hInverts := @invertsExactly_swapped
        { command with postings := command.postings.map PostingDraft.swapped } hIds
      have hTwice := h.inverse hInverts
      simp only [hBack] at hTwice
      exact hTwice
    · intro h
      exact h.inverse (invertsExactly_swapped h.ids)
  · intro inverse hInverts h
    exact h.inverse hInverts

end Checks

/-! ### A sample exchange -/

/-- An active account of the sample Book. -/
def sampleSnapshot (accountId assetCode : Identifier) (systemRole : AccountSystemRole) :
    JournalAccountSnapshot where
  accountId := accountId
  bookId := ⟨"book", by decide⟩
  assetCode := assetCode
  accountType := .asset
  accountSubtype := none
  systemRole := systemRole
  status := .active
  hSubtype := rfl
  hCard := by
    intro hNone
    cases hNone

theorem sample_eur : "EUR" ≠ "" := by
  decide

theorem sample_usd : "USD" ≠ "" := by
  decide

/-- A wallet and a trading account in each of two assets. -/
def sampleSnapshots : List JournalAccountSnapshot :=
  [sampleSnapshot ⟨"wallet-eur", by decide⟩ ⟨"EUR", sample_eur⟩ .standard,
    sampleSnapshot ⟨"trading-eur", by decide⟩ ⟨"EUR", sample_eur⟩ .fxTrading,
    sampleSnapshot ⟨"wallet-usd", by decide⟩ ⟨"USD", sample_usd⟩ .standard,
    sampleSnapshot ⟨"trading-usd", by decide⟩ ⟨"USD", sample_usd⟩ .fxTrading]

/-- Ten euros go out, and eleven dollars come in. -/
def sampleJournalExchange : PostTransaction where
  transactionId := ⟨"exchange", by decide⟩
  bookId := ⟨"book", by decide⟩
  kind := .fx
  postings :=
    [⟨⟨"1", by decide⟩, 0, ⟨"trading-eur", by decide⟩, ⟨"EUR", sample_eur⟩, .debit, 10⟩,
      ⟨⟨"2", by decide⟩, 1, ⟨"wallet-eur", by decide⟩, ⟨"EUR", sample_eur⟩, .credit, 10⟩,
      ⟨⟨"3", by decide⟩, 2, ⟨"wallet-usd", by decide⟩, ⟨"USD", sample_usd⟩, .debit, 11⟩,
      ⟨⟨"4", by decide⟩, 3, ⟨"trading-usd", by decide⟩, ⟨"USD", sample_usd⟩, .credit, 11⟩]

theorem validate_accepts_iff_sample :
    (sampleSnapshots.map (·.identity)).Nodup
      ∧ (JournalValidator.validate sampleJournalExchange sampleSnapshots = .ok ()
        ↔ Acceptable sampleJournalExchange sampleSnapshots) := by
  have hUnique : (sampleSnapshots.map (·.identity)).Nodup := by decide
  exact ⟨hUnique, (validate_accepts_iff sampleJournalExchange sampleSnapshots hUnique).1⟩

example : (JournalValidator.validate sampleJournalExchange sampleSnapshots).toBool = true := by
  decide

end TrackAnywhere.Ports
