import TrackAnywhere.Ports.CompiledPlans

/-!
# The errors of entry compilation

The gateway answers `EntryGatewayError` and `EntryClarificationRequired`; whatever
else `compile_entry` raises escapes it.  What is read of the entry and of the
catalog is refused with gateway errors, so an escape needs one of three things:
choices that no clarification may carry, units that no posting may have, or a
context that the loader does not build.  `LoadedContext` rules the last out.

The steps of the compiler are taken one by one here: which of them raises an error
that escapes, and when.
-/

namespace TrackAnywhere.Ports

open TrackAnywhere.Verified
open TrackAnywhere.Verified.Checked

/-- An error that the gateway answers for. -/
def EntryError.IsGateway : EntryError → Prop
  | .gateway _ _ _ => True
  | .clarification _ _ _ _ _ => True
  | _ => False

/-- An error of another layer. -/
def EntryError.Escapes (error : EntryError) : Prop := ¬error.IsGateway

theorem gateway_stays {code : EntryGatewayCode} {message : String} {field : Option String} :
    ¬(EntryError.gateway code message field).Escapes :=
  fun h => h trivial

/-! ## References -/

section References

variable (u : UnicodeTables) (context : EntryCompilationContext)

/-- The reference is ambiguous among choices that no clarification carries. -/
def AccountUnaskable (reference : AccountRef) (assetCode : AssetCode) (use : AccountUse) :
    Prop :=
  ∃ choices, resolveAccount u reference context.accounts context.bookId assetCode use
      (context.categories.map (·.categoryId)) = .ok (.choices choices)
    ∧ checkChoices choices ≠ .ok ()

def CategoryUnaskable (reference : CategoryRef) (usageKind : CategoryUsageKind) : Prop :=
  ∃ choices, resolveCategory u reference context.categories context.bookId usageKind
      (context.accounts.map (·.accountId)) = .ok (.choices choices)
    ∧ checkChoices choices ≠ .ok ()

/-- The references are resolved up to one that is ambiguous so. -/
def CategoriesUnaskable (references : List CategoryRef) (usageKind : CategoryUsageKind) :
    Prop :=
  ∃ before reference after, references = before ++ reference :: after
    ∧ (∀ earlier ∈ before, ∃ category,
        resolveCategory u earlier context.categories context.bookId usageKind
          (context.accounts.map (·.accountId)) = .ok (.resolved category))
    ∧ CategoryUnaskable u context reference usageKind

variable {u context} {assetCode : AssetCode} {use : AccountUse}

theorem escapes_clarificationRequired {code : EntryGatewayCode}
    {message field prompt : String} {choices : List ClarificationChoice} :
    (clarificationRequired code message field prompt choices).Escapes
      ↔ checkChoices choices ≠ .ok () := by
  unfold clarificationRequired
  split
  · next hFits => simp [EntryError.Escapes, EntryError.IsGateway, hFits]
  · next hRefused => simp [EntryError.Escapes, EntryError.IsGateway, hRefused]

theorem asset_raises : ¬Raises EntryError.Escapes (context.asset assetCode) := by
  unfold EntryCompilationContext.asset
  split
  · exact raises_ok
  · exact fun h => gateway_stays (raises_error.1 h)

theorem internal_raises {role : AccountSystemRole} :
    ¬Raises EntryError.Escapes (context.internal assetCode role) := by
  unfold EntryCompilationContext.internal resolveInternalAccount
  split
  · exact raises_ok
  · exact fun h => gateway_stays (raises_error.1 h)

theorem requireDistinctAccounts_raises {first second : UUID} :
    ¬Raises EntryError.Escapes (requireDistinctAccounts first second) :=
  fun h => gateway_stays (raises_require.1 h).2

theorem resolveAccount_raises {reference : AccountRef} {accounts : List EntryAccount}
    {bookId : UUID} {categoryIds : List UUID} :
    ¬Raises EntryError.Escapes
      (resolveAccount u reference accounts bookId assetCode use categoryIds) := by
  unfold resolveAccount
  split
  · simp only [requireEligibleAccount, raises_bind, raises_require, raises_fetch, raises_pure,
      gateway_stays, and_false, exists_false, or_self, not_false_eq_true]
  · split
    · exact fun h => gateway_stays (raises_error.1 h)
    · exact raises_ok
    · exact raises_ok

theorem resolveCategory_raises {reference : CategoryRef} {categories : List EntryCategory}
    {bookId : UUID} {accountIds : List UUID} {usageKind : CategoryUsageKind} :
    ¬Raises EntryError.Escapes
      (resolveCategory u reference categories bookId usageKind accountIds) := by
  unfold resolveCategory
  split
  · simp only [raises_bind, raises_require, raises_fetch, raises_pure, gateway_stays,
      and_false, exists_false, or_self, not_false_eq_true]
  · split
    · exact fun h => gateway_stays (raises_error.1 h)
    · exact raises_ok
    · exact raises_ok

theorem account_raises_iff {reference : AccountRef} {field : String} :
    Raises EntryError.Escapes (context.account u reference assetCode use field)
      ↔ AccountUnaskable u context reference assetCode use := by
  unfold EntryCompilationContext.account AccountUnaskable
  rw [raises_bind, or_iff_right resolveAccount_raises]
  constructor
  · rintro ⟨resolution, hResolution, h⟩
    cases resolution with
    | resolved row => exact absurd h raises_pure
    | choices choices =>
        exact ⟨choices, hResolution, escapes_clarificationRequired.1 (raises_error.1 h)⟩
  · rintro ⟨choices, hResolution, h⟩
    exact ⟨_, hResolution, raises_error.2 (escapes_clarificationRequired.2 h)⟩

/-- An id is not ambiguous. -/
theorem accountById_raises {accountId : Option UUID} :
    ¬Raises EntryError.Escapes (context.accountById u accountId assetCode use) := by
  unfold EntryCompilationContext.accountById
  rw [raises_bind]
  rintro (hNone | ⟨named, -, h⟩)
  · exact gateway_stays (raises_fetch.1 hNone).2
  · obtain ⟨choices, hChoices, -⟩ := account_raises_iff.1 h
    simp only [resolveAccount, AccountRef.ofId, AccountRefFields.byId, bind_eq_ok,
      pure_eq_ok, reduceCtorEq, and_false, exists_false] at hChoices

theorem category_raises_iff {reference : CategoryRef} {usageKind : CategoryUsageKind}
    {field : String} :
    Raises EntryError.Escapes (context.category u reference usageKind field)
      ↔ CategoryUnaskable u context reference usageKind := by
  unfold EntryCompilationContext.category CategoryUnaskable
  rw [raises_bind, or_iff_right resolveCategory_raises]
  constructor
  · rintro ⟨resolution, hResolution, h⟩
    cases resolution with
    | resolved row => exact absurd h raises_pure
    | choices choices =>
        exact ⟨choices, hResolution, escapes_clarificationRequired.1 (raises_error.1 h)⟩
  · rintro ⟨choices, hResolution, h⟩
    exact ⟨_, hResolution, raises_error.2 (escapes_clarificationRequired.2 h)⟩

theorem normalizeAmount_raises {amount : AmountFields} {asset : EntryAsset}
    {allowZero : Bool} :
    ¬Raises EntryError.Escapes (normalizeAmount u amount asset allowZero) := by
  have hScales : ¬Raises EntryError.Escapes (denominationScales asset amount.denomination) := by
    unfold denominationScales
    split
    · exact raises_ok
    · split
      · split_ifs
        · exact raises_ok
        · exact fun h => gateway_stays (raises_error.1 h)
      · exact fun h => gateway_stays (raises_error.1 h)
  have hText : ∀ x : Except String Nat, ¬Raises EntryError.Escapes (x.mapError fun message =>
      EntryError.gateway .amountInvalid message (some "amount.value")) := by
    intro x h
    obtain ⟨_, -, hEscapes⟩ := raises_mapError.1 h
    exact gateway_stays hEscapes
  simp only [normalizeAmount, validateAmountSourceConsistency, raises_bind, raises_require,
    raises_pure, gateway_stays, hScales, hText, and_false, exists_false, or_self,
    not_false_eq_true]

end References

/-! ## Allocations -/

/-- The categories that an entry names, in the order in which they are resolved. -/
def CategorizedEntryInput.references (entry : CategorizedEntryInput) : List CategoryRef :=
  match entry.category with
  | some reference => [reference]
  | none => entry.categoryAllocations.map (·.category)

section Allocations

variable {u : UnicodeTables} {context : EntryCompilationContext} {asset : EntryAsset}
  {usageKind : CategoryUsageKind} {money : MoneyInput}
  {stated : List CategoryAllocationInput}
  {normalized : List (CategoryAllocationInput × NormalizedAmount)}

theorem normalizeCategoryAllocations_raises :
    ¬Raises EntryError.Escapes (normalizeCategoryAllocations u money stated asset) := by
  have hEach : ¬Raises EntryError.Escapes (stated.mapM fun allocation => do
      let amount ← normalizeAmount u allocation.amount.1 asset false
      return (allocation, amount)) := by
    rw [raises_mapM]
    rintro ⟨_, item, _, -, -, hItem⟩
    obtain hAmount | ⟨_, -, hPure⟩ := raises_bind.1 hItem
    · exact normalizeAmount_raises hAmount
    · exact raises_pure hPure
  simp only [normalizeCategoryAllocations, raises_bind, raises_require, raises_pure,
    normalizeAmount_raises, gateway_stays, hEach, and_false, exists_false, or_self,
    not_false_eq_true]

theorem normalizeCategoryAllocations_inputs
    (h : normalizeCategoryAllocations u money stated asset = .ok normalized) :
    normalized.map (·.1) = stated := by
  unfold normalizeCategoryAllocations at h
  simp only [bind_eq_ok, pure_eq_ok] at h
  obtain ⟨_, -, each, hEach, _, -, rfl⟩ := h
  have hItems := mapM_eq_ok.1 hEach
  clear hEach
  induction hItems with
  | nil => rfl
  | cons hFirst _ ih =>
      simp only [bind_eq_ok, pure_eq_ok] at hFirst
      obtain ⟨_, -, rfl⟩ := hFirst
      rw [List.map_cons, ih]

/-- Every allocation that is read has an amount. -/
theorem normalizeCategoryAllocations_each
    (h : normalizeCategoryAllocations u money stated asset = .ok normalized) :
    ∀ item ∈ normalized, normalizeAmount u item.1.amount.1 asset false = .ok item.2 := by
  unfold normalizeCategoryAllocations at h
  simp only [bind_eq_ok, pure_eq_ok] at h
  obtain ⟨_, -, each, hEach, _, -, rfl⟩ := h
  have hItems := mapM_eq_ok.1 hEach
  clear hEach
  induction hItems with
  | nil => exact fun _ hMem => absurd hMem List.not_mem_nil
  | cons hFirst _ ih =>
      simp only [bind_eq_ok, pure_eq_ok] at hFirst
      obtain ⟨read, hRead, rfl⟩ := hFirst
      rintro item (_ | ⟨_, hMem⟩)
      · exact hRead
      · exact ih item hMem

theorem category_resolved_iff {reference : CategoryRef} (field : String) :
    (∃ category, context.category u reference usageKind field = .ok category)
      ↔ ∃ category, resolveCategory u reference context.categories context.bookId usageKind
          (context.accounts.map (·.accountId)) = .ok (.resolved category) := by
  unfold EntryCompilationContext.category
  constructor
  · rintro ⟨_, h⟩
    obtain ⟨resolution, hResolution, h⟩ := bind_eq_ok.1 h
    cases resolution with
    | resolved row => exact ⟨row, hResolution⟩
    | choices choices => exact nomatch h
  · rintro ⟨row, hResolution⟩
    exact ⟨row, bind_eq_ok.2 ⟨_, hResolution, rfl⟩⟩

/-- Stated allocations are resolved one by one. -/
theorem resolveAllocations_raises_iff :
    Raises EntryError.Escapes (resolveAllocations u context usageKind normalized)
      ↔ CategoriesUnaskable u context (normalized.map (·.1.category)) usageKind := by
  rw [← map_fst_zipIdx (·.1.category) normalized]
  unfold resolveAllocations CategoriesUnaskable
  refine raises_mapM_keyed
    (fun item : (CategoryAllocationInput × NormalizedAmount) × Nat => item.1.1.category)
    ?_ ?_
  · rintro ⟨item, position⟩
    rw [← category_resolved_iff s!"category_allocations.{position}.category"]
    simp only [bind_eq_ok, pure_eq_ok]
    constructor
    · rintro ⟨_, category, h, _⟩
      exact ⟨category, h⟩
    · rintro ⟨category, h⟩
      exact ⟨_, category, h, rfl⟩
  · rintro ⟨item, position⟩
    rw [raises_bind, category_raises_iff]
    refine or_iff_left ?_
    rintro ⟨_, _, hPure⟩
    exact raises_pure hPure

/-- The amounts of stated allocations are read first, and then their categories. -/
theorem statedAllocations_raises_iff :
    Raises EntryError.Escapes (do
        let normalized ← normalizeCategoryAllocations u money stated asset
        resolveAllocations u context usageKind normalized)
      ↔ (∃ normalized, normalizeCategoryAllocations u money stated asset = .ok normalized)
        ∧ CategoriesUnaskable u context (stated.map (·.category)) usageKind := by
  have hInputs : ∀ {normalized}, normalizeCategoryAllocations u money stated asset
      = .ok normalized →
      normalized.map (·.1.category) = stated.map (·.category) := by
    intro normalized h
    rw [← normalizeCategoryAllocations_inputs h, List.map_map]
    rfl
  rw [raises_bind, or_iff_right normalizeCategoryAllocations_raises]
  constructor
  · rintro ⟨normalized, hNormalized, h⟩
    rw [resolveAllocations_raises_iff, hInputs hNormalized] at h
    exact ⟨⟨normalized, hNormalized⟩, h⟩
  · rintro ⟨⟨normalized, hNormalized⟩, h⟩
    refine ⟨normalized, hNormalized, ?_⟩
    rwa [resolveAllocations_raises_iff, hInputs hNormalized]

/-- One category is resolved as it stands, and stated allocations one by one. -/
theorem entryAllocations_raises_iff {entry : CategorizedEntryInput}
    {amount : NormalizedAmount} :
    Raises EntryError.Escapes (entryAllocations u context entry asset amount usageKind)
      ↔ (∃ normalized, normalizeCategoryAllocations u entry.amount entry.categoryAllocations
            asset = .ok normalized)
        ∧ CategoriesUnaskable u context entry.references usageKind := by
  unfold entryAllocations CategorizedEntryInput.references
  rw [raises_bind, or_iff_right normalizeCategoryAllocations_raises]
  cases hCategory : entry.category with
  | some reference =>
      have hOne : ∀ normalized : List (CategoryAllocationInput × NormalizedAmount),
          Raises EntryError.Escapes (do
            let category ← context.category u reference usageKind "category"
            return [(⟨category, amount.units⟩ : ResolvedAllocation)])
          ↔ CategoriesUnaskable u context [reference] usageKind := by
        intro _
        rw [raises_bind, category_raises_iff]
        constructor
        · rintro (hUnaskable | ⟨_, -, hPure⟩)
          · exact ⟨[], reference, [], rfl, by simp, hUnaskable⟩
          · exact absurd hPure raises_pure
        · rintro ⟨before, found, after, hSplit, -, hUnaskable⟩
          obtain ⟨rfl, rfl, -⟩ : before = [] ∧ found = reference ∧ after = [] := by
            cases before <;> simp_all
          exact .inl hUnaskable
      exact ⟨fun ⟨normalized, hNormalized, h⟩ => ⟨⟨normalized, hNormalized⟩,
          (hOne normalized).1 h⟩,
        fun ⟨⟨normalized, hNormalized⟩, h⟩ => ⟨normalized, hNormalized, (hOne normalized).2 h⟩⟩
  | none =>
      rw [← statedAllocations_raises_iff, raises_bind,
        or_iff_right normalizeCategoryAllocations_raises]

theorem refundAllocations_raises_iff {entry : RefundEntryInput} {original : OriginalEntry}
    {amount : NormalizedAmount} (hValid : entry.validateRefundAllocations = .ok ()) :
    Raises EntryError.Escapes (refundAllocations u context entry original asset amount)
      ↔ entry.categoryAllocations ≠ [] ∧ ∃ stated, entry.amount = some stated
        ∧ (∃ normalized, normalizeCategoryAllocations u stated entry.categoryAllocations
            asset = .ok normalized)
        ∧ CategoriesUnaskable u context (entry.categoryAllocations.map (·.category))
            .expense := by
  unfold refundAllocations
  by_cases hStated : entry.categoryAllocations = []
  · rw [if_neg (fun hNe => hNe hStated)]
    refine iff_of_false ?_ fun h => h.1 hStated
    split
    · exact raises_ok
    · split_ifs
      · exact raises_ok
      · exact fun h => gateway_stays (raises_error.1 h)
  · rw [if_pos hStated, raises_bind, and_iff_right hStated]
    have hSome : entry.amount ≠ none := by
      simp only [RefundEntryInput.validateRefundAllocations, bind_eq_ok, require_eq_ok] at hValid
      obtain ⟨_, -, hEither⟩ := hValid
      exact hEither.resolve_left hStated
    rw [raises_fetch, or_iff_right fun h => hSome h.1]
    simp only [fetch_eq_ok, statedAllocations_raises_iff]

end Allocations

/-! ## What the loader makes sure of -/

section Ids

variable (uuid5 : UUID → String → UUID) (context : EntryCompilationContext)

/-- The id of the posting at a position. -/
def derivedPosting (position : Nat) : UUID :=
  uuid5 (entryNamespace uuid5 "posting") (context.transactionId.text ++ s!":{position}")

/-- The ids of the reporting line at a position: of the line, and of its version. -/
def derivedLine (suffix : String) (position : Nat) : UUID :=
  uuid5 (entryNamespace uuid5 "reporting-line")
    (context.commandId.text ++ s!":{position}:" ++ suffix)

/-- The most reporting lines of a plan. -/
def EntryCompilationContext.maxLines : Nat :=
  max 64 (context.originalEntry.map (·.categoryAllocations.length)).getD 0

/-- A context as it is loaded: the accounts are rows of their table, the lines of an
original are positive and within its amount, a new transaction is not the original, and
the ids that are derived for it do not collide. -/
structure LoadedContext : Prop where
  accounts : (context.accounts.map (·.accountId)).Nodup
  shapes : ∀ account ∈ context.accounts, account.snapshotShape
  newTransaction : ∀ original ∈ context.originalEntry,
    original.transactionId ≠ context.transactionId
  originalUnits : ∀ original ∈ context.originalEntry, 0 < original.units
  originalLines : ∀ original ∈ context.originalEntry,
    (∀ allocation ∈ original.categoryAllocations, 0 < allocation.units)
      ∧ (original.categoryAllocations.map (·.units)).sum ≤ original.units
  postingIds : ((List.range 5).map (derivedPosting uuid5 context)).Nodup
  lineIds : ∀ suffix ∈ ["line", "version"],
    ((List.range context.maxLines).map (derivedLine uuid5 context suffix)).Nodup

end Ids

/-! ## Postings -/

section Postings

variable {uuid5 : UUID → String → UUID} {context : EntryCompilationContext}
  {kind : TransactionKind} {legs : List PostingLeg} {postings : List JournalPostingFact}

/-- An account that a leg may stand on. -/
structure Postable (context : EntryCompilationContext) (account : EntryAccount)
    (assetCode : AssetCode) : Prop where
  mem : account ∈ context.accounts
  active : account.status = "active"
  asset : account.assetCode = assetCode

/-- The units of one side of an asset, of legs. -/
def legTotal (legs : List PostingLeg) (side : PostingSide) (assetCode : AssetCode) : Nat :=
  ((legs.filter fun leg => leg.side = side ∧ leg.assetCode = assetCode).map (·.units)).sum

/-- Legs that are validated, whatever their units. -/
structure LegsFit (context : EntryCompilationContext) (kind : TransactionKind)
    (legs : List PostingLeg) : Prop where
  count : 2 ≤ legs.length ∧ legs.length ≤ 5
  postable : ∀ leg ∈ legs, Postable context leg.account leg.assetCode
  distinct : (legs.map (·.account.accountId)).Nodup
  positive : ∀ leg ∈ legs, 0 < leg.units
  balanced : ∀ assetCode,
    legTotal legs .debit assetCode = legTotal legs .credit assetCode

theorem sideTotal_eq_legTotal (h : postings.map (·.posted) = legs.map (·.posted))
    (side : PostingSide) (assetCode : AssetCode) :
    sideTotal postings side assetCode = legTotal legs side assetCode := by
  have hPosted := congrArg (fun posted : List PostedUnits =>
    ((posted.filter fun p => p.side = side ∧ p.assetCode = assetCode).map (·.units)).sum) h
  simp only [List.filter_map, List.map_map] at hPosted
  exact hPosted

theorem rejectDuplicatePostingIdentity_ok {postingIds : List UUID} {positions : List Nat} :
    rejectDuplicatePostingIdentity postingIds positions postings = .ok ()
      ↔ ((postings.map (·.postingId)).Nodup ∧ ∀ p ∈ postings, p.postingId ∉ postingIds)
        ∧ (postings.map (·.position)).Nodup ∧ ∀ p ∈ postings, p.position ∉ positions := by
  induction postings generalizing postingIds positions with
  | nil => simp [rejectDuplicatePostingIdentity]
  | cons posting rest ih =>
      simp only [rejectDuplicatePostingIdentity, bind_eq_ok, require_eq_ok, exists_const, ih,
        List.map_cons, List.nodup_cons, List.forall_mem_cons]
      simp only [List.mem_map, List.mem_cons, not_or, not_exists, not_and]
      constructor
      · rintro ⟨hId, hPosition, ⟨hIds, hNewIds⟩, hPositions, hNewPositions⟩
        exact ⟨⟨⟨fun p hp => (hNewIds p hp).1, hIds⟩, hId, fun p hp => (hNewIds p hp).2⟩,
          ⟨fun p hp => (hNewPositions p hp).1, hPositions⟩, hPosition,
          fun p hp => (hNewPositions p hp).2⟩
      · rintro ⟨⟨⟨hFirst, hIds⟩, hId, hOldIds⟩, ⟨hOther, hPositions⟩, hPosition, hOld⟩
        exact ⟨hId, hPosition, ⟨hIds, fun p hp => ⟨hFirst p hp, hOldIds p hp⟩⟩, hPositions,
          fun p hp => ⟨hOther p hp, hOld p hp⟩⟩

theorem draftPostings_ids {numbered : List (PostingLeg × Nat)}
    (h : List.Forall₂ (fun leg posting =>
      draftPosting uuid5 context leg.1 leg.2 = .ok posting) numbered postings) :
    postings.map (·.postingId) = numbered.map (derivedPosting uuid5 context ·.2) := by
  induction h with
  | nil => rfl
  | cons hFirst _ ih =>
      rw [List.map_cons, List.map_cons, ih]
      unfold draftPosting at hFirst
      split at hFirst
      · cases hFirst
        rfl
      · exact nomatch hFirst

theorem draftPosting_raises_iff {leg : PostingLeg} {position : Nat} (h : 0 < leg.units) :
    Raises EntryError.Escapes (draftPosting uuid5 context leg position)
      ↔ 10 ^ 38 ≤ leg.units := by
  unfold draftPosting
  split
  · next hUnits => exact iff_of_false raises_ok (Nat.not_le.2 hUnits.2)
  · next hUnits =>
      refine iff_of_true (raises_error.2 fun hGateway => hGateway) ?_
      exact Nat.not_lt.1 fun hLess => hUnits ⟨h, hLess⟩

/-- A leg past the limit is not drafted, and no other error is raised. -/
theorem draftPostings_raises_iff (h : ∀ leg ∈ legs, 0 < leg.units) :
    Raises EntryError.Escapes (legs.zipIdx.mapM fun (leg, position) =>
        draftPosting uuid5 context leg position)
      ↔ ∃ leg ∈ legs, 10 ^ 38 ≤ leg.units := by
  have hStep : ∀ numbered ∈ legs.zipIdx,
      (Raises EntryError.Escapes (draftPosting uuid5 context numbered.1 numbered.2)
        ↔ 10 ^ 38 ≤ numbered.1.units) :=
    fun numbered hMem => draftPosting_raises_iff (h _ (List.fst_mem_of_mem_zipIdx hMem))
  constructor
  · intro hRaises
    obtain ⟨before, numbered, after, hItems, -, hItem⟩ := raises_mapM.1 hRaises
    have hMem : numbered ∈ legs.zipIdx := by simp [hItems]
    exact ⟨numbered.1, List.fst_mem_of_mem_zipIdx hMem, (hStep numbered hMem).1 hItem⟩
  · rintro ⟨leg, hLeg, hUnits⟩
    cases hDrafts : legs.zipIdx.mapM fun (leg, position) =>
        draftPosting uuid5 context leg position with
    | error e =>
        refine raises_error.2 fun hGateway => ?_
        have hJournal : RaisesOnly (fun e => ∃ message, e = EntryError.journal message)
            (legs.zipIdx.mapM fun (leg, position) =>
              draftPosting uuid5 context leg position) := by
          refine raisesOnly_mapM fun numbered _ e hError => ?_
          simp only [draftPosting] at hError
          split at hError
          · exact nomatch hError
          · cases hError
            exact ⟨_, rfl⟩
        obtain ⟨message, rfl⟩ := hJournal e hDrafts
        exact hGateway
    | ok postings =>
        obtain ⟨position, hMem⟩ := List.mem_iff_getElem?.1 hLeg
        have hNumbered : (leg, position) ∈ legs.zipIdx :=
          List.mk_mem_zipIdx_iff_getElem?.2 hMem
        obtain ⟨posting, hOk⟩ := mapM_item_ok hDrafts _ hNumbered
        have hRaises : Raises EntryError.Escapes (draftPosting uuid5 context leg position) :=
          (hStep _ hNumbered).2 hUnits
        rw [show draftPosting uuid5 context leg position = .ok posting from hOk] at hRaises
        exact absurd hRaises raises_ok

/-- Postings on legs that fit are validated. -/
theorem validateJournal_of_fit {bookId : UUID} {trading : UUID → Bool}
    (hFit : LegsFit context kind legs) (hPosted : postings.map (·.posted) = legs.map (·.posted))
    (hIds : (postings.map (·.postingId)).Nodup) (hPositions : (postings.map (·.position)).Nodup)
    (hExchange : kind = .fx ∨ kind = .creditCardPayment →
      validateExchange trading postings = .ok ()) :
    validateJournal trading (legReads bookId legs) kind postings = .ok () := by
  have hLength : postings.length = legs.length := by simpa using congrArg List.length hPosted
  have hLegs : ∀ posting ∈ postings, ∃ leg ∈ legs, leg.posted = posting.posted := by
    intro posting hMem
    have hIn : posting.posted ∈ legs.map (·.posted) := hPosted ▸ List.mem_map_of_mem hMem
    exact List.mem_map.1 hIn
  have hSame : ∀ leg ∈ legs, ∀ other ∈ legs,
      other.account.accountId = leg.account.accountId → other = leg :=
    fun leg hLeg other hOther hId => List.inj_on_of_nodup_map hFit.distinct hOther hLeg hId
  simp only [validateJournal, bind_eq_ok, require_eq_ok, forEach_eq_ok, fetch_eq_ok,
    exists_const]
  refine ⟨hLength ▸ hFit.count.1, (), rejectDuplicatePostingIdentity_ok.2
    ⟨⟨hIds, by simp⟩, hPositions, by simp⟩, ?_, ?_, ?_⟩
  · intro posting hMem
    obtain ⟨leg, hLeg, hLegPosted⟩ := hLegs posting hMem
    have hAccount : leg.account.accountId = posting.accountId :=
      congrArg PostedUnits.accountId hLegPosted
    have hAsset : leg.assetCode = posting.assetCode :=
      congrArg PostedUnits.assetCode hLegPosted
    refine ⟨⟨leg.account.accountId, leg.account.assetCode, leg.account.accountType,
      leg.account.accountSubtype⟩, ?_, ?_, ?_⟩
    · refine find?_only (List.mem_map.2 ⟨leg, hLeg, rfl⟩) (by simpa using hAccount) ?_
      intro found hFound hId
      obtain ⟨other, hOther, rfl⟩ := List.mem_map.1 hFound
      rw [hSame leg hLeg other hOther ((of_decide_eq_true hId).trans hAccount.symm)]
    · refine List.any_eq_false.2 fun other hOther hClosed => ?_
      have hNot := (of_decide_eq_true hClosed).2
      exact hNot (hFit.postable other hOther).active
    · exact hAsset.symm.trans (hFit.postable leg hLeg).asset.symm
  · intro posting _
    rw [netUnits_eq_sides, sideTotal_eq_legTotal hPosted, sideTotal_eq_legTotal hPosted,
      hFit.balanced, sub_self]
  · by_cases hKind : kind = .fx ∨ kind = .creditCardPayment
    · rw [if_pos hKind]
      exact hExchange hKind
    · rw [if_neg hKind]
      rfl

/-- Drafting fails on the limit of the units only. -/
theorem mixedPostings_raises_iff (hLoaded : LoadedContext uuid5 context)
    (hFit : LegsFit context kind legs)
    (hExchange : kind = .fx ∨ kind = .creditCardPayment → ∀ postings,
      postings.map JournalPostingFact.posted = legs.map (·.posted) →
      validateExchange (fun accountId => legs.any fun leg => leg.account.accountId = accountId
        ∧ leg.account.systemRole = .fxTrading) postings = .ok ()) :
    Raises EntryError.Escapes (mixedPostings uuid5 context kind legs)
      ↔ ∃ leg ∈ legs, 10 ^ 38 ≤ leg.units := by
  have hShapes : ∀ leg ∈ legs, leg.account.snapshotShape :=
    fun leg hLeg => hLoaded.shapes _ (hFit.postable leg hLeg).mem
  have hValid : ∀ postings, (legs.zipIdx.mapM fun (leg, position) =>
      draftPosting uuid5 context leg position) = .ok postings →
      validateJournal (fun accountId => legs.any fun leg => leg.account.accountId = accountId
          ∧ leg.account.systemRole = .fxTrading) (legReads context.bookId legs) kind postings
        = .ok () := by
    intro postings hDrafts
    have hEach := mapM_eq_ok.1 hDrafts
    have hPosted : postings.map JournalPostingFact.posted = legs.map (·.posted) := by
      rw [draftPostings_posted hEach, ← List.map_map, List.zipIdx_map_fst]
    have hNumbers : legs.zipIdx.map Prod.snd = List.range legs.length := by
      rw [List.zipIdx_map_snd, List.range_eq_range']
    refine validateJournal_of_fit hFit hPosted ?_ ?_ fun hKind => hExchange hKind _ hPosted
    · rw [draftPostings_ids hEach]
      show (legs.zipIdx.map (derivedPosting uuid5 context ∘ Prod.snd)).Nodup
      rw [← List.map_map, hNumbers]
      refine hLoaded.postingIds.sublist (List.Sublist.map _ ?_)
      exact List.range_sublist.2 hFit.count.2
    · rw [draftPostings_positions hEach, hNumbers]
      exact List.nodup_range
  unfold mixedPostings
  rw [raises_bind, draftPostings_raises_iff hFit.positive]
  refine or_iff_left ?_
  rintro ⟨postings, hDrafts, h⟩
  rw [hValid postings hDrafts] at h
  have hNotShaped : ¬¬∀ leg ∈ legs, leg.account.snapshotShape = true := not_not_intro hShapes
  simp only [raises_bind, raises_require, hNotShaped, hFit.distinct, not_true_eq_false, false_and,
    false_or, Except.mapError, raises_ok, raises_pure, and_false, exists_false] at h

/-- Accounts of different roles have different ids. -/
theorem LoadedContext.ids_ne (hLoaded : LoadedContext uuid5 context) {first second : EntryAccount}
    (hFirst : first ∈ context.accounts) (hSecond : second ∈ context.accounts)
    (h : first ≠ second) : first.accountId ≠ second.accountId :=
  fun hSame => h (List.inj_on_of_nodup_map hLoaded.accounts hFirst hSecond hSame)

theorem legsFit_two {assetCode : AssetCode} {units : Nat} {debit credit : EntryAccount}
    (hDebit : Postable context debit assetCode) (hCredit : Postable context credit assetCode)
    (hDistinct : debit.accountId ≠ credit.accountId) (hUnits : 0 < units) :
    LegsFit context .standard
      [⟨debit, assetCode, .debit, units⟩, ⟨credit, assetCode, .credit, units⟩] where
  count := by simp
  postable := by simpa using ⟨hDebit, hCredit⟩
  distinct := by simpa using hDistinct
  positive := by simpa using hUnits
  balanced := by
    intro other
    by_cases hAsset : assetCode = other <;> simp [legTotal, hAsset]

/-- One amount between two accounts fails on its units only. -/
theorem twoPostings_raises_iff (hLoaded : LoadedContext uuid5 context) {assetCode : AssetCode}
    {units : Nat} {debit credit : EntryAccount} (hDebit : Postable context debit assetCode)
    (hCredit : Postable context credit assetCode)
    (hDistinct : debit.accountId ≠ credit.accountId) (hUnits : 0 < units) :
    Raises EntryError.Escapes (twoPostings uuid5 context assetCode units debit credit)
      ↔ 10 ^ 38 ≤ units := by
  unfold twoPostings
  rw [mixedPostings_raises_iff hLoaded (legsFit_two hDebit hCredit hDistinct hUnits)
    fun hKind => by simp at hKind]
  simp

theorem Chosen.postable {assetCode : AssetCode} {use : AccountUse} {account : EntryAccount}
    (h : Chosen context assetCode use account) : Postable context account assetCode :=
  ⟨h.mem, h.active, h.asset⟩

theorem Chosen.standard {assetCode : AssetCode} {use : AccountUse} {account : EntryAccount}
    (h : Chosen context assetCode use account) : account.systemRole = .standard := by
  have hEligible := h.eligible
  unfold EntryAccount.eligible at hEligible
  simp only [Bool.and_eq_true, decide_eq_true_eq] at hEligible
  exact hEligible.1

theorem Internal.facts {assetCode : AssetCode} {role : AccountSystemRole}
    {account : EntryAccount} (h : Internal context assetCode role account) :
    Postable context account assetCode ∧ account.systemRole = role := by
  have hMem : account ∈ internalCandidates context.accounts context.bookId assetCode role := by
    rw [h]
    exact List.mem_singleton_self _
  simp only [internalCandidates, List.mem_filter, decide_eq_true_eq, Bool.decide_and,
    Bool.and_eq_true] at hMem
  exact ⟨⟨hMem.1, hMem.2.2.2.2.1, hMem.2.2.1⟩, hMem.2.2.2.1⟩

/-- A chosen account is not an internal one. -/
theorem LoadedContext.chosen_ne_internal (hLoaded : LoadedContext uuid5 context)
    {assetCode other : AssetCode} {use : AccountUse} {role : AccountSystemRole}
    {chosen internal : EntryAccount} (hChosen : Chosen context assetCode use chosen)
    (hInternal : Internal context other role internal) (hRole : role ≠ .standard) :
    chosen.accountId ≠ internal.accountId := by
  refine hLoaded.ids_ne hChosen.mem hInternal.facts.1.mem ?_
  rintro rfl
  exact hRole (hInternal.facts.2.symm.trans hChosen.standard)

end Postings

/-! ## Plans -/

section Plans

variable {uuid5 : UUID → String → UUID} {context : EntryCompilationContext}
  {kind : TransactionKind} {legs : List PostingLeg} {postings : List JournalPostingFact}

theorem contractOf_of_valid {payload : EventPayload} (h : payload.validate = .ok ()) :
    ∃ contract, contractOf payload = .ok contract :=
  ⟨⟨payload, h⟩, contractOf_eq_ok.2 rfl⟩

/-- Drafted postings are ordered ones. -/
theorem mixedPostings_ordered (h : mixedPostings uuid5 context kind legs = .ok postings) :
    validateOrderedPostings postings = .ok () := by
  have hPositions := (mixedPostings_ok h).positions
  unfold mixedPostings at h
  simp only [bind_eq_ok, pure_eq_ok, mapError_eq_ok] at h
  obtain ⟨_, -, _, -, _, -, _, hValid, rfl⟩ := h
  simp only [validateJournal, bind_eq_ok, require_eq_ok, exists_const] at hValid
  obtain ⟨hCount, _, hIds, -⟩ := hValid
  have hNodup := (rejectDuplicatePostingIdentity_ok.1 hIds).1.1
  simp only [validateOrderedPostings, validateOrderedRecords, bind_eq_ok, require_eq_ok,
    exists_const, forEach_eq_ok, List.length_map]
  refine ⟨hCount, hPositions, ?_⟩
  rintro _ (_ | ⟨_, hNone⟩)
  · exact hNodup
  · exact absurd hNone List.not_mem_nil

theorem posted_valid {posted : JournalTransactionPosted}
    (hPostings : validateOrderedPostings posted.postings = .ok ())
    (hReferences : posted.externalReferences = [])
    (hOriginal : if posted.kind = .refund then posted.originalTransactionId ≠ none
        ∧ posted.originalTransactionId ≠ some posted.transactionId
      else posted.originalTransactionId = none) :
    (EntryFinancial.posted posted).payload.validate = .ok () := by
  show posted.validateCompletePostings = .ok ()
  simp only [JournalTransactionPosted.validateCompletePostings, hPostings, hReferences,
    validateReferenceKeys]
  split_ifs at hOriginal ⊢ with hKind
  · simp [hOriginal, require, bind, Except.bind]
  · simp [hOriginal, require, bind, Except.bind]

/-- A card event on one amount between the accounts that its intent asks for. -/
theorem recorded_valid {recorded : CreditCardTransactionRecorded} {assetCode : AssetCode}
    {units : Nat} {debit credit : UUID}
    (hPostings : validateOrderedPostings recorded.postings = .ok ())
    (hMoves : (EntryFinancial.recorded recorded).Moves assetCode units debit credit)
    (hAccounts : recorded.expected = [(debit, .debit), (credit, .credit)])
    (hDistinct : recorded.cardAccountId ≠ recorded.counterAccountId)
    (hReferences : recorded.externalReferences = [])
    (hOriginal : if recorded.intent = .refund then recorded.originalTransactionId ≠ none
        ∧ recorded.originalTransactionId ≠ some recorded.transactionId
      else recorded.originalTransactionId = none) :
    (EntryFinancial.recorded recorded).payload.validate = .ok () := by
  obtain ⟨first, rest, hEach, hFirst, hRest⟩ := List.map_eq_cons_iff.1 hMoves
  obtain ⟨second, others, rfl, hSecond, hNone⟩ := List.map_eq_cons_iff.1 hRest
  obtain rfl := List.map_eq_nil_iff.1 hNone
  have hEach : recorded.postings = [first, second] := hEach
  simp only [JournalPostingFact.posted, PostedUnits.mk.injEq] at hFirst hSecond
  have hAsset : second.assetCode = first.assetCode := hSecond.2.1.trans hFirst.2.1.symm
  have hUnits : second.units = first.units :=
    Subtype.ext (hSecond.2.2.2.trans hFirst.2.2.2.symm)
  have hSides : recorded.postings.map (fun p => (p.accountId, p.side))
      = recorded.expected := by
    simp [hEach, hAccounts, hFirst, hSecond]
  have hPairs : ∀ posting ∈ recorded.postings,
      recorded.postings.head?.map (fun p => (p.assetCode, p.units))
        = some (posting.assetCode, posting.units) := by
    simp [hEach, hAsset, hUnits]
  show recorded.validateSemanticPostings = .ok ()
  simp only [CreditCardTransactionRecorded.validateSemanticPostings, bind_eq_ok,
    require_eq_ok, exists_const]
  refine ⟨(), hPostings, by simp [hEach], hDistinct, ?_⟩
  split_ifs at hOriginal ⊢ with hIntent
  · simp only [bind_eq_ok, require_eq_ok, exists_const, forEach_eq_ok]
    exact ⟨hOriginal.1, hOriginal.2, hPairs, hSides, by simp [hReferences, validateReferenceKeys]⟩
  · simp only [bind_eq_ok, require_eq_ok, exists_const, forEach_eq_ok]
    exact ⟨hOriginal, hPairs, hSides, by simp [hReferences, validateReferenceKeys]⟩

/-- Lines that are allocated within the debits of their asset. -/
structure LinesFit (context : EntryCompilationContext) (postings : List JournalPostingFact)
    (transactionKind : RecordedKind) (allocations : List ResolvedAllocation)
    (lineKind : ReportingLineKind) (assetCode : AssetCode) : Prop where
  positive : ∀ allocation ∈ allocations, 0 < allocation.units
  bounded : (allocations.map (·.units)).sum < 10 ^ 38
  allocated : (allocations.map (·.units)).sum ≤ sideTotal postings .debit assetCode
  count : allocations.length ≤ context.maxLines
  kind : transactionKind ∈ [RecordedKind.creditCard .charge, .creditCard .fee,
    .creditCard .refund] → lineKind = .expense

theorem reportingLineInputs_total {allocations : List ResolvedAllocation}
    {assetCode : AssetCode} {lineKind : ReportingLineKind}
    (hPositive : ∀ allocation ∈ allocations, 0 < allocation.units)
    (hBounded : (allocations.map (·.units)).sum < 10 ^ 38) :
    ∃ lines, (allocations.zipIdx.mapM fun (allocation, position) =>
      reportingLineInput uuid5 context assetCode lineKind allocation position) = .ok lines := by
  refine mapM_total fun numbered hMem => ?_
  have hIn := List.fst_mem_of_mem_zipIdx hMem
  have hUnits : numbered.1.units ≤ (allocations.map (·.units)).sum :=
    List.single_le_sum (by simp) _ (List.mem_map_of_mem hIn)
  exact ⟨_, dif_pos ⟨hPositive _ hIn, lt_of_le_of_lt hUnits hBounded⟩⟩

/-- The ids of the lines are derived from their positions. -/
theorem reportingLineInputs_ids {assetCode : AssetCode} {lineKind : ReportingLineKind}
    {numbered : List (ResolvedAllocation × Nat)} {lines : List ReportingLineInput}
    (h : List.Forall₂ (fun allocation line => reportingLineInput uuid5 context assetCode
      lineKind allocation.1 allocation.2 = .ok line) numbered lines) :
    lines.map (·.lineId) = numbered.map (derivedLine uuid5 context "line" ·.2)
      ∧ lines.map (·.lineVersionId) = numbered.map (derivedLine uuid5 context "version" ·.2)
      ∧ ∀ line ∈ lines, line.dimension = .category ∧ line.dimensionId ≠ none := by
  induction h with
  | nil => simp
  | cons hFirst _ ih =>
      unfold reportingLineInput at hFirst
      split at hFirst
      · cases hFirst
        refine ⟨?_, ?_, ?_⟩
        · rw [List.map_cons, List.map_cons, ih.1]
          rfl
        · rw [List.map_cons, List.map_cons, ih.2.1]
          rfl
        · rintro line (_ | ⟨_, hLine⟩)
          · exact ⟨rfl, fun hNone => nomatch hNone⟩
          · exact ih.2.2 line hLine
      · exact nomatch hFirst

/-- Lines of one asset allocate their sum in it. -/
theorem allocatedTotal_eq_sum {lines : List ReportingLineInput} {assetCode : AssetCode}
    (h : ∀ line ∈ lines, line.assetCode = assetCode) :
    allocatedTotal lines assetCode = (lines.map (·.units.1)).sum := by
  unfold allocatedTotal
  rw [List.filter_eq_self.2 fun line hLine => by simpa using h line hLine]

section Lines

variable {financial : EntryFinancial} {transactionKind : RecordedKind}
  {allocations : List ResolvedAllocation} {lineKind : ReportingLineKind}
  {assetCode : AssetCode}

theorem buildReportingLinesAssigned_total {transactionId : UUID}
    {lines : List ReportingLineInput} (hNonempty : lines ≠ []) (hIds : (lines.map (·.lineId)).Nodup)
    (hVersions : (lines.map (·.lineVersionId)).Nodup) :
    ∃ contract, buildReportingLinesAssigned transactionId lines = .ok contract := by
  refine contractOf_of_valid ?_
  show ReportingLinesAssigned.validateReplaceAllSnapshot _ = .ok ()
  simp only [ReportingLinesAssigned.validateReplaceAllSnapshot, validateOrderedRecords,
    bind_eq_ok, require_eq_ok, exists_const, forEach_eq_ok, List.map_map, List.length_map,
    List.length_zipIdx]
  refine ⟨List.length_pos_of_ne_nil hNonempty, ?_, ?_⟩
  · rw [List.range_eq_range']
    exact List.zipIdx_map_snd 0 lines
  · rintro _ (_ | ⟨_, _ | ⟨_, hNone⟩⟩)
    · exact (map_fst_zipIdx (·.lineId) lines).symm ▸ hIds
    · exact (map_fst_zipIdx (·.lineVersionId) lines).symm ▸ hVersions
    · exact absurd hNone List.not_mem_nil

/-- Lines that fit are reported. -/
theorem reportingPending_total (hLoaded : LoadedContext uuid5 context)
    {financialEventId : UUID} {reportingAssetCode : Option AssetCode}
    {effectiveAt : Instant} (hDrafted : Drafted financial.postings)
    (hPostings : financial.postings ≠ []) (hNonempty : allocations ≠ [])
    (hAsset : ∀ first ∈ financial.postings.head?,
      reportingAssetCode.getD first.assetCode = assetCode)
    (hFit : LinesFit context financial.postings transactionKind allocations lineKind
      assetCode) :
    ∃ reporting, reportingPending uuid5 context financial financialEventId transactionKind
      allocations lineKind reportingAssetCode effectiveAt = .ok reporting := by
  obtain ⟨first, hFirst⟩ : ∃ first, financial.postings.head? = some first :=
    Option.isSome_iff_exists.1 (List.isSome_head?.2 hPostings)
  obtain ⟨lines, hLines⟩ : ∃ lines, (allocations.zipIdx.mapM fun (allocation, position) =>
      reportingLineInput uuid5 context assetCode lineKind allocation position) = .ok lines :=
    reportingLineInputs_total hFit.positive hFit.bounded
  obtain ⟨hUnits, -, hClassified⟩ := reportingLineInputs_ok (mapM_eq_ok.1 hLines)
  obtain ⟨hIds, hVersions, hDimensions⟩ := reportingLineInputs_ids (mapM_eq_ok.1 hLines)
  have hLength : lines.length = allocations.length := by
    simpa using (mapM_eq_ok.1 hLines).length_eq.symm
  have hSome : lines ≠ [] := fun hNone =>
    hNonempty (List.length_eq_zero_iff.1 (hLength.symm.trans (by rw [hNone]; rfl)))
  have hTotal : allocatedTotal lines assetCode = (allocations.map (·.units)).sum := by
    rw [allocatedTotal_eq_sum fun line hLine => (hClassified line hLine).1, hUnits]
    exact congrArg List.sum (map_fst_zipIdx (·.units) allocations)
  have hValid : validateReportingAllocations lines financial.postings transactionKind
      = .ok () := by
    simp only [validateReportingAllocations, bind_eq_ok, require_eq_ok, exists_const,
      forEach_eq_ok]
    refine ⟨hSome, fun hCard line hLine => ?_, hDimensions,
      ⟨hPostings, fun posting _ => hDrafted.balanced posting.assetCode⟩, fun line hLine => ?_⟩
    · exact (hClassified line hLine).2.trans (hFit.kind hCard)
    · rw [(hClassified line hLine).1, hTotal]
      exact hFit.allocated
  -- the ids that are derived for the lines are among those that do not collide
  have hDerived : ∀ suffix ∈ ["line", "version"],
      (allocations.zipIdx.map (derivedLine uuid5 context suffix ·.2)).Nodup := by
    intro suffix hSuffix
    have hNumbers : allocations.zipIdx.map (derivedLine uuid5 context suffix ·.2)
        = (List.range allocations.length).map (derivedLine uuid5 context suffix) := by
      rw [List.range_eq_range', ← List.zipIdx_map_snd 0 allocations, List.map_map]
      rfl
    rw [hNumbers]
    exact (hLoaded.lineIds suffix hSuffix).sublist
      ((List.range_sublist.2 hFit.count).map _)
  obtain ⟨contract, hContract⟩ : ∃ contract,
      buildReportingLinesAssigned context.transactionId lines = .ok contract :=
    buildReportingLinesAssigned_total hSome (hIds ▸ hDerived "line" List.mem_cons_self)
      (hVersions ▸ hDerived "version" (List.mem_cons_of_mem _ List.mem_cons_self))
  refine ⟨entryPending uuid5 context "reporting" "reporting_lines" contract
    (some financialEventId) effectiveAt, ?_⟩
  simp only [reportingPending, bind_eq_ok, fetch_eq_ok, pure_eq_ok]
  refine ⟨first, hFirst, lines, ?_, (), hValid, contract, hContract, rfl⟩
  rw [hAsset first hFirst]
  exact hLines

/-- A plan of drafted postings does not fail. -/
theorem entryPlan_total (hLoaded : LoadedContext uuid5 context) {entry : EverydayEntry}
    {reportingAssetCode : Option AssetCode}
    (hValid : financial.payload.validate = .ok ()) (hDrafted : Drafted financial.postings)
    (hPostings : financial.postings ≠ [])
    (hAsset : ∀ first ∈ financial.postings.head?,
      reportingAssetCode.getD first.assetCode = assetCode)
    (hFit : allocations ≠ [] → LinesFit context financial.postings transactionKind
      allocations lineKind assetCode) :
    ∃ plan, entryPlan uuid5 context entry financial transactionKind allocations lineKind
      reportingAssetCode = .ok plan := by
  obtain ⟨contract, hContract⟩ := contractOf_of_valid hValid
  unfold entryPlan
  by_cases hNone : allocations = []
  · simp only [if_pos hNone, bind_eq_ok]
    exact ⟨_, contract, hContract, rfl⟩
  · obtain ⟨reporting, hReporting⟩ := reportingPending_total hLoaded hDrafted hPostings hNone
      hAsset (hFit hNone)
    simp only [if_neg hNone, bind_eq_ok]
    exact ⟨_, contract, hContract, reporting, hReporting, rfl⟩

end Lines

end Plans

/-! ## Amounts -/

section Amounts

variable {u : UnicodeTables} {context : EntryCompilationContext} {asset : EntryAsset}
  {usageKind : CategoryUsageKind} {amount : NormalizedAmount} {fields : AmountFields}

/-- An amount that is read is within the limit. -/
theorem normalizeAmount_limit {allowZero : Bool}
    (h : normalizeAmount u fields asset allowZero = .ok amount) :
    amount.units < 10 ^ 38 := by
  obtain ⟨-, -, -, _, -, hUnits, -⟩ := normalizeAmount_ok.1 h
  exact (parseNonNegative_ok.1 hUnits).2.2.2.1

theorem normalizeAmount_positive (h : normalizeAmount u fields asset false = .ok amount) :
    0 < amount.units := by
  obtain ⟨-, -, -, _, -, hUnits, -⟩ := normalizeAmount_ok.1 h
  have hEither := (parseNonNegative_ok.1 hUnits).2.2.1
  exact Nat.pos_of_ne_zero (hEither.resolve_right (by simp))

/-- Allocations that a plan of these units may have. -/
structure Allocated (context : EntryCompilationContext)
    (allocations : List ResolvedAllocation) (units : Nat) : Prop where
  positive : ∀ allocation ∈ allocations, 0 < allocation.units
  within : (allocations.map (·.units)).sum ≤ units
  count : allocations.length ≤ context.maxLines

theorem Allocated.nil {units : Nat} : Allocated context [] units :=
  ⟨by simp, by simp, by simp⟩

theorem Allocated.one {category : EntryCategory} {units : Nat} (h : 0 < units) :
    Allocated context [⟨category, units⟩] units where
  positive := by simpa using h
  within := by simp
  count := le_max_of_le_left (by simp)

/-- Allocations that are stated are read as amounts, and add up to theirs. -/
theorem Allocated.stated {money : MoneyInput} {stated : List CategoryAllocationInput}
    {normalized : List (CategoryAllocationInput × NormalizedAmount)}
    {allocations : List ResolvedAllocation} (hCount : stated.length ≤ 64)
    (hAmount : normalizeAmount u money.1 asset false = .ok amount)
    (hNormalized : normalizeCategoryAllocations u money stated asset = .ok normalized)
    (h : resolveAllocations u context usageKind normalized = .ok allocations) :
    Allocated context allocations amount.units := by
  obtain ⟨hUnits, -⟩ := resolveAllocations_ok h
  obtain ⟨hLength, hSum⟩ := normalizeCategoryAllocations_ok hAmount hNormalized
  have hPositive : ∀ item ∈ normalized, 0 < item.2.units := fun item hItem =>
    normalizeAmount_positive (normalizeCategoryAllocations_each hNormalized item hItem)
  have hSame : allocations.length = normalized.length := by
    simpa using congrArg List.length hUnits
  refine ⟨?_, ?_, ?_⟩
  · intro allocation hMem
    have hIn : allocation.units ∈ normalized.map (·.2.units) :=
      hUnits ▸ List.mem_map_of_mem hMem
    obtain ⟨item, hItem, hItemUnits⟩ := List.mem_map.1 hIn
    exact hItemUnits ▸ hPositive item hItem
  · by_cases hNone : stated = []
    · have hEmpty : allocations = [] := by
        rw [← List.length_eq_zero_iff, hSame, hLength, hNone]
        rfl
      simp [hEmpty]
    · rw [hUnits, hSum hNone]
  · unfold EntryCompilationContext.maxLines
    rw [hSame, hLength]
    exact le_max_of_le_left hCount

theorem entryAllocations_allocated {entry : CategorizedEntryInput}
    {allocations : List ResolvedAllocation}
    (hValid : entry.validateClassificationShape = .ok ())
    (hAmount : normalizeAmount u entry.amount.1 asset false = .ok amount)
    (h : entryAllocations u context entry asset amount usageKind = .ok allocations) :
    Allocated context allocations amount.units := by
  simp only [CategorizedEntryInput.validateClassificationShape, checkAllocationCount,
    bind_eq_ok, require_eq_ok, exists_const] at hValid
  unfold entryAllocations at h
  obtain ⟨normalized, hNormalized, h⟩ := bind_eq_ok.1 h
  cases hCategory : entry.category with
  | some reference =>
      rw [hCategory] at h
      obtain ⟨category, -, h⟩ := bind_eq_ok.1 h
      cases pure_eq_ok.1 h
      exact .one (normalizeAmount_positive hAmount)
  | none =>
      rw [hCategory] at h
      exact .stated hValid.1 hAmount hNormalized h

/-- The amount of a refund is positive: that of the original is. -/
theorem refundAmount_positive {uuid5 : UUID → String → UUID} {entry : RefundEntryInput}
    {original : OriginalEntry} (hLoaded : LoadedContext uuid5 context)
    (hOriginal : context.originalEntry = some original)
    (h : refundAmount u entry original asset = .ok amount) : 0 < amount.units := by
  unfold refundAmount at h
  split at h
  · cases h
    exact hLoaded.originalUnits original hOriginal
  · exact normalizeAmount_positive h

theorem refundAllocations_allocated {uuid5 : UUID → String → UUID}
    {entry : RefundEntryInput} {original : OriginalEntry}
    {allocations : List ResolvedAllocation} (hLoaded : LoadedContext uuid5 context)
    (hOriginal : context.originalEntry = some original)
    (hValid : entry.validateRefundAllocations = .ok ())
    (hAmount : refundAmount u entry original asset = .ok amount)
    (h : refundAllocations u context entry original asset amount = .ok allocations) :
    Allocated context allocations amount.units := by
  simp only [RefundEntryInput.validateRefundAllocations, checkAllocationCount, bind_eq_ok,
    require_eq_ok, exists_const] at hValid
  unfold refundAllocations at h
  by_cases hStated : entry.categoryAllocations = []
  · rw [if_neg (fun hNe => hNe hStated)] at h
    split at h
    · cases h
      exact .one (refundAmount_positive hLoaded hOriginal hAmount)
    · split_ifs at h with hWhole
      cases h
      obtain ⟨hPositive, hWithin⟩ := hLoaded.originalLines original hOriginal
      refine ⟨?_, ?_, ?_⟩
      · intro allocation hMem
        obtain ⟨item, hItem, rfl⟩ := List.mem_map.1 hMem
        exact hPositive item hItem
      · rw [List.map_map, hWhole.1]
        exact hWithin
      · rw [List.length_map]
        unfold EntryCompilationContext.maxLines
        rw [hOriginal]
        exact le_max_right _ _
  · rw [if_pos hStated] at h
    simp only [bind_eq_ok, fetch_eq_ok] at h
    obtain ⟨money, hMoney, normalized, hNormalized, h⟩ := h
    have hStatedAmount : normalizeAmount u money.1 asset false = .ok amount := by
      unfold refundAmount at hAmount
      rw [hMoney] at hAmount
      exact hAmount
    exact .stated hValid.1 hStatedAmount hNormalized h

end Amounts

/-! ## Plans of one amount -/

section Moves

variable {uuid5 : UUID → String → UUID} {context : EntryCompilationContext}
  {assetCode : AssetCode} {units : Nat} {debit credit : EntryAccount}
  {allocations : List ResolvedAllocation} {transactionKind : RecordedKind}
  {lineKind : ReportingLineKind} {entry : EverydayEntry} {financial : EntryFinancial}

/-- What moves between two accounts is debited whole. -/
theorem sideTotal_of_moves {assetCode : AssetCode} {debit credit : UUID}
    (h : financial.Moves assetCode units debit credit) :
    sideTotal financial.postings .debit assetCode = units := by
  have hPosted := congrArg (fun posted : List PostedUnits =>
    ((posted.filter fun p => p.side = .debit ∧ p.assetCode = assetCode).map (·.units)).sum) h
  simp only [List.filter_map, List.map_map] at hPosted
  refine hPosted.trans ?_
  simp

/-- The units of what moves are those of a posting. -/
theorem limit_of_moves {assetCode : AssetCode} {debit credit : UUID}
    (h : financial.Moves assetCode units debit credit) : 0 < units ∧ units < 10 ^ 38 := by
  obtain ⟨first, -, -, hFirst, -⟩ := List.map_eq_cons_iff.1 h
  have hUnits : first.units.1 = units := congrArg PostedUnits.units hFirst
  exact hUnits ▸ first.units.2

/-- Its plan is made, whatever it allocates of it. -/
theorem movedPlan_total (hLoaded : LoadedContext uuid5 context)
    (hPostings : twoPostings uuid5 context assetCode units debit credit
      = .ok financial.postings)
    (hValid : financial.payload.validate = .ok ())
    (hAllocated : Allocated context allocations units)
    (hKind : transactionKind ∈ [RecordedKind.creditCard .charge, .creditCard .fee,
      .creditCard .refund] → lineKind = .expense) :
    ∃ plan, entryPlan uuid5 context entry financial transactionKind allocations lineKind none
      = .ok plan := by
  have hMoves : financial.Moves assetCode units debit.accountId credit.accountId :=
    twoPostings_facts hPostings
  obtain ⟨first, rest, hEach, hFirst, -⟩ := List.map_eq_cons_iff.1 hMoves
  have hSome : financial.postings ≠ [] := by
    rw [hEach]
    exact List.cons_ne_nil _ _
  have hHead : ∀ first ∈ financial.postings.head?,
      (none : Option AssetCode).getD first.assetCode = assetCode := by
    rw [hEach]
    rintro _ ⟨⟩
    exact congrArg PostedUnits.assetCode hFirst
  have hFit : LinesFit context financial.postings transactionKind allocations lineKind
      assetCode :=
    { positive := hAllocated.positive
      bounded := lt_of_le_of_lt hAllocated.within (limit_of_moves hMoves).2
      allocated := by
        rw [sideTotal_of_moves hMoves]
        exact hAllocated.within
      count := hAllocated.count
      kind := hKind }
  exact entryPlan_total hLoaded hValid (twoPostings_ok hPostings) hSome hHead fun _ => hFit

/-- Between distinct accounts, the making of the plan fails on the units only. -/
theorem movedPlan_raises_iff (hLoaded : LoadedContext uuid5 context)
    {recorded : List JournalPostingFact → EntryFinancial}
    (hDebit : Postable context debit assetCode) (hCredit : Postable context credit assetCode)
    (hDistinct : debit.accountId ≠ credit.accountId) (hUnits : 0 < units)
    (hValid : ∀ postings,
      twoPostings uuid5 context assetCode units debit credit = .ok postings →
      (recorded postings).postings = postings ∧ (recorded postings).payload.validate = .ok ())
    (hAllocated : Allocated context allocations units)
    (hKind : transactionKind ∈ [RecordedKind.creditCard .charge, .creditCard .fee,
      .creditCard .refund] → lineKind = .expense) :
    Raises EntryError.Escapes (do
        let postings ← twoPostings uuid5 context assetCode units debit credit
        entryPlan uuid5 context entry (recorded postings) transactionKind allocations lineKind
          none)
      ↔ 10 ^ 38 ≤ units := by
  rw [raises_bind, twoPostings_raises_iff hLoaded hDebit hCredit hDistinct hUnits]
  refine or_iff_left ?_
  rintro ⟨postings, hPostings, h⟩
  obtain ⟨hSame, hContract⟩ := hValid postings hPostings
  obtain ⟨plan, hPlan⟩ : ∃ plan, entryPlan uuid5 context entry (recorded postings)
      transactionKind allocations lineKind none = .ok plan :=
    movedPlan_total hLoaded (hSame.symm ▸ hPostings) hContract hAllocated hKind
  rw [hPlan] at h
  exact raises_ok h

end Moves

end TrackAnywhere.Ports
