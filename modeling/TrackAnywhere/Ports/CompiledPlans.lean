import TrackAnywhere.Ports.EntryCompiler
import TrackAnywhere.Ports.AmountValidators

/-!
# What a compiled plan says

A plan of `compileEntry` is one financial event, and one reporting event where the
entry is classified.  The postings of the financial event are the legs of its
kind, balanced in every asset; its accounts have the roles of the kind; and the
lines of the reporting event allocate exactly the amount that they classify.

`PlanShape` is what every plan has, whatever its kind.  `CompiledAs` says what the
kind adds, and has one case for each kind of entry.
-/

namespace TrackAnywhere.Ports

open TrackAnywhere.Verified
open TrackAnywhere.Verified.Checked

/-! ## Postings -/

section Postings

variable {uuid5 : UUID → String → UUID} {context : EntryCompilationContext}
  {kind : TransactionKind} {legs : List PostingLeg} {postings : List JournalPostingFact}

theorem sideTotal_cons (side : PostingSide) (assetCode : AssetCode)
    (posting : JournalPostingFact) :
    sideTotal (posting :: postings) side assetCode
      = (if posting.side = side ∧ posting.assetCode = assetCode then posting.units.1
          else 0) + sideTotal postings side assetCode := by
  by_cases hPosting : posting.side = side ∧ posting.assetCode = assetCode
  · simp [sideTotal, hPosting]
  · simp [sideTotal, hPosting]

/-- The net units of an asset are its debits less its credits. -/
theorem netUnits_eq_sides (postings : List JournalPostingFact) (assetCode : AssetCode) :
    netUnits assetCode postings
      = (sideTotal postings .debit assetCode : Int)
        - sideTotal postings .credit assetCode := by
  induction postings with
  | nil => rfl
  | cons posting rest ih =>
      rw [netUnits_cons, sideTotal_cons, sideTotal_cons, ih]
      by_cases hAsset : posting.assetCode = assetCode
      · cases hSide : posting.side with
        | debit => simp [hAsset, signedUnits]; omega
        | credit => simp [hAsset, signedUnits]; omega
      · simp [hAsset]

theorem netUnits_eq_zero {assetCode : AssetCode}
    (h : ∀ posting ∈ postings, posting.assetCode ≠ assetCode) :
    netUnits assetCode postings = 0 := by
  have hNone : postings.filter (fun p => p.assetCode = assetCode) = [] :=
    List.filter_eq_nil_iff.2 fun posting hPosting => by simpa using h posting hPosting
  rw [netUnits, hNone]
  rfl

/-- What is validated for the assets of the postings holds of every asset. -/
theorem balanced_of_validateJournal {trading : UUID → Bool} {db : BookReads}
    (h : validateJournal trading db kind postings = .ok ()) : Balanced postings := by
  simp only [validateJournal, bind_eq_ok, require_eq_ok, exists_const] at h
  obtain ⟨-, -, -, -, -, hBalanced, -⟩ := h
  intro assetCode
  by_cases hPosted : ∃ posting ∈ postings, posting.assetCode = assetCode
  · obtain ⟨posting, hMem, rfl⟩ := hPosted
    exact hBalanced posting hMem
  · push Not at hPosted
    exact netUnits_eq_zero hPosted

theorem draftPosting_position {leg : PostingLeg} {position : Nat}
    {posting : JournalPostingFact}
    (h : draftPosting uuid5 context leg position = .ok posting) :
    posting.position = position := by
  unfold draftPosting at h
  split at h
  · cases h
    rfl
  · exact nomatch h

theorem draftPostings_positions {numbered : List (PostingLeg × Nat)}
    (h : List.Forall₂ (fun leg posting =>
      draftPosting uuid5 context leg.1 leg.2 = .ok posting) numbered postings) :
    postings.map (·.position) = numbered.map Prod.snd := by
  induction h with
  | nil => rfl
  | cons hFirst _ ih =>
      rw [List.map_cons, List.map_cons, ih, draftPosting_position hFirst]

/-- The postings of a plan: at the positions from zero, and balanced. -/
structure Drafted (postings : List JournalPostingFact) : Prop where
  positions : postings.map (·.position) = List.range postings.length
  balanced : ∀ assetCode,
    sideTotal postings .debit assetCode = sideTotal postings .credit assetCode

theorem mixedPostings_ok
    (h : mixedPostings uuid5 context kind legs = .ok postings) : Drafted postings := by
  have hLength : postings.length = legs.length := by
    simpa using congrArg List.length (mixedPostings_facts h)
  unfold mixedPostings at h
  simp only [bind_eq_ok, pure_eq_ok, mapError_eq_ok] at h
  obtain ⟨drafts, hDrafts, _, -, _, -, _, hValid, rfl⟩ := h
  constructor
  · rw [draftPostings_positions (mapM_eq_ok.1 hDrafts), List.zipIdx_map_snd, hLength,
      List.range_eq_range']
  · intro assetCode
    have hNet := balanced_of_validateJournal hValid assetCode
    rw [netUnits_eq_sides] at hNet
    omega

/-- The two accounts of an amount are not one. -/
theorem twoPostings_distinct {assetCode : AssetCode} {units : Nat}
    {debit credit : EntryAccount}
    (h : twoPostings uuid5 context assetCode units debit credit = .ok postings) :
    debit.accountId ≠ credit.accountId := by
  unfold twoPostings mixedPostings at h
  simp only [bind_eq_ok, require_eq_ok] at h
  obtain ⟨-, -, -, -, -, hDistinct, -⟩ := h
  simpa using hDistinct

theorem twoPostings_ok {assetCode : AssetCode} {units : Nat}
    {debit credit : EntryAccount}
    (h : twoPostings uuid5 context assetCode units debit credit = .ok postings) :
    Drafted postings :=
  mixedPostings_ok h

end Postings

/-! ## The shape of a plan -/

/-- One reporting line for each allocation, in the order of the allocations. -/
structure Allocates (lines : List ReportingLine) (allocations : List ResolvedAllocation)
    (assetCode : AssetCode) (lineKind : ReportingLineKind) : Prop where
  units : lines.map (·.units.1) = allocations.map (·.units)
  categories : lines.map (·.dimensionId)
    = allocations.map fun allocation => some allocation.category.categoryId
  positions : lines.map (·.position) = List.range lines.length
  classified : ∀ line ∈ lines, line.assetCode = assetCode ∧ line.lineKind = lineKind

/-- The events that follow the financial event: none, or the reporting event of the
allocations. -/
def Reports (context : EntryCompilationContext) (allocations : List ResolvedAllocation)
    (assetCode : AssetCode) (lineKind : ReportingLineKind) : List PendingEvent → Prop
  | [] => allocations = []
  | [reporting] => allocations ≠ [] ∧ ∃ assigned : ReportingLinesAssigned,
      reporting.payload.1 = .reportingLinesAssigned assigned
        ∧ assigned.transactionId = context.transactionId
        ∧ Allocates assigned.lines allocations assetCode lineKind
  | _ => False

/-- What every plan of the compiler has. -/
structure PlanShape (context : EntryCompilationContext) (entry : EverydayEntry)
    (financial : EntryFinancial) (allocations : List ResolvedAllocation)
    (assetCode : AssetCode) (lineKind : ReportingLineKind) (plan : CompiledEntry) :
    Prop where
  transactionId : plan.transactionId = context.transactionId
  entryKind : plan.entryKind = entry.kind
  valid : financial.payload.validate = .ok ()
  events : ∃ event rest, plan.events = event :: rest
    ∧ event.payload.1 = financial.payload
    ∧ Reports context allocations assetCode lineKind rest
  versions : plan.expectedStreamVersions = plan.events.map fun event => (event.streamKey, 0)
  streams : (plan.events.map (·.streamKey)).Nodup
  asOf : plan.asOfBookPosition = context.lockedLastPosition + plan.events.length

section Shape

variable {uuid5 : UUID → String → UUID} {context : EntryCompilationContext}
  {assetCode : AssetCode} {lineKind : ReportingLineKind}
  {allocations : List ResolvedAllocation} {financial : EntryFinancial}

theorem map_fst_zipIdx {α β : Type} (f : α → β) (items : List α) :
    items.zipIdx.map (fun item => f item.1) = items.map f := by
  conv_rhs => rw [← List.zipIdx_map_fst 0 items, List.map_map]
  rfl

theorem reportingLineInput_ok {allocation : ResolvedAllocation} {position : Nat}
    {line : ReportingLineInput}
    (h : reportingLineInput uuid5 context assetCode lineKind allocation position
      = .ok line) :
    line.units.1 = allocation.units
      ∧ line.dimensionId = some allocation.category.categoryId
      ∧ line.assetCode = assetCode ∧ line.lineKind = lineKind := by
  unfold reportingLineInput at h
  split at h
  · cases h
    exact ⟨rfl, rfl, rfl, rfl⟩
  · exact nomatch h

/-- What the lines say of the allocations, before they are numbered. -/
theorem reportingLineInputs_ok {numbered : List (ResolvedAllocation × Nat)}
    {lines : List ReportingLineInput}
    (h : List.Forall₂ (fun allocation line => reportingLineInput uuid5 context assetCode
      lineKind allocation.1 allocation.2 = .ok line) numbered lines) :
    lines.map (·.units.1) = numbered.map (·.1.units)
      ∧ lines.map (·.dimensionId)
        = numbered.map (fun allocation => some allocation.1.category.categoryId)
      ∧ ∀ line ∈ lines, line.assetCode = assetCode ∧ line.lineKind = lineKind := by
  induction h with
  | nil => simp
  | cons hFirst _ ih =>
      obtain ⟨hUnits, hCategory, hAsset, hKind⟩ := reportingLineInput_ok hFirst
      refine ⟨?_, ?_, ?_⟩
      · rw [List.map_cons, List.map_cons, ih.1, hUnits]
      · rw [List.map_cons, List.map_cons, ih.2.1, hCategory]
      · rintro line (_ | ⟨_, hLine⟩)
        · exact ⟨hAsset, hKind⟩
        · exact ih.2.2 line hLine

/-- The lines of the event are the inputs, numbered from zero. -/
theorem allocates_of_inputs {inputs : List ReportingLineInput}
    (hUnits : inputs.map (·.units.1) = allocations.map (·.units))
    (hCategories : inputs.map (·.dimensionId)
      = allocations.map fun allocation => some allocation.category.categoryId)
    (hLines : ∀ line ∈ inputs, line.assetCode = assetCode ∧ line.lineKind = lineKind) :
    Allocates (inputs.zipIdx.map fun (line, position) => line.line position) allocations
      assetCode lineKind where
  units := by
    rw [← hUnits, List.map_map]
    exact map_fst_zipIdx (·.units.1) inputs
  categories := by
    rw [← hCategories, List.map_map]
    exact map_fst_zipIdx (·.dimensionId) inputs
  positions := by
    rw [List.map_map, List.length_map, List.length_zipIdx, List.range_eq_range']
    exact List.zipIdx_map_snd 0 inputs
  classified := by
    intro line hLine
    obtain ⟨⟨input, position⟩, hMem, rfl⟩ := List.mem_map.1 hLine
    exact hLines input (List.fst_mem_of_mem_zipIdx hMem)

theorem reportingPending_ok {financialEventId : UUID} {transactionKind : RecordedKind}
    {reportingAssetCode : Option AssetCode} {effectiveAt : Instant}
    {reporting : PendingEvent}
    (hAsset : ∀ first ∈ financial.postings.head?,
      reportingAssetCode.getD first.assetCode = assetCode)
    (h : reportingPending uuid5 context financial financialEventId transactionKind
      allocations lineKind reportingAssetCode effectiveAt = .ok reporting) :
    reporting.streamKey = ("reporting_lines", context.transactionId)
      ∧ ∃ assigned : ReportingLinesAssigned,
        reporting.payload.1 = .reportingLinesAssigned assigned
          ∧ assigned.transactionId = context.transactionId
          ∧ Allocates assigned.lines allocations assetCode lineKind := by
  unfold reportingPending at h
  simp only [bind_eq_ok, fetch_eq_ok, pure_eq_ok] at h
  obtain ⟨first, hFirst, inputs, hInputs, _, -, contract, hContract, rfl⟩ := h
  rw [hAsset first hFirst] at hInputs
  obtain ⟨hUnits, hCategories, hLines⟩ := reportingLineInputs_ok (mapM_eq_ok.1 hInputs)
  refine ⟨rfl, _, contractOf_eq_ok.1 hContract, rfl, allocates_of_inputs ?_ ?_ hLines⟩
  · exact hUnits.trans (map_fst_zipIdx (·.units) allocations)
  · exact hCategories.trans (map_fst_zipIdx (some ·.category.categoryId) allocations)

/-- A plan has its financial event, and a reporting event when it allocates. -/
theorem entryPlan_shape {entry : EverydayEntry} {transactionKind : RecordedKind}
    {reportingAssetCode : Option AssetCode} {plan : CompiledEntry}
    (hAsset : ∀ first ∈ financial.postings.head?,
      reportingAssetCode.getD first.assetCode = assetCode)
    (h : entryPlan uuid5 context entry financial transactionKind allocations lineKind
      reportingAssetCode = .ok plan) :
    PlanShape context entry financial allocations assetCode lineKind plan := by
  unfold entryPlan at h
  obtain ⟨contract, hContract, hPlan⟩ := bind_eq_ok.1 h
  have hPayload := contractOf_eq_ok.1 hContract
  have hValid : financial.payload.validate = .ok () := hPayload ▸ contract.2
  by_cases hNone : allocations = []
  · rw [if_pos hNone, pure_eq_ok] at hPlan
    subst hPlan
    exact ⟨rfl, rfl, hValid, ⟨_, _, rfl, hPayload, hNone⟩, rfl, List.nodup_singleton _, rfl⟩
  · rw [if_neg hNone] at hPlan
    obtain ⟨reporting, hReporting, hPlan⟩ := bind_eq_ok.1 hPlan
    obtain ⟨hStream, hAssigned⟩ := reportingPending_ok hAsset hReporting
    rw [pure_eq_ok] at hPlan
    subst hPlan
    refine ⟨rfl, rfl, hValid, ⟨_, _, rfl, hPayload, hNone, hAssigned⟩, ?_, ?_, rfl⟩
    · rw [List.map_cons, List.map_cons, List.map_nil, hStream]
      rfl
    · rw [List.map_cons, List.map_cons, List.map_nil, hStream]
      simp [entryPending, PendingEvent.streamKey]

end Shape

/-! ## The accounts and the categories of a plan -/

/-- An active account of the Book that may stand in a place of an entry. -/
structure Chosen (context : EntryCompilationContext) (assetCode : AssetCode)
    (use : AccountUse) (account : EntryAccount) : Prop where
  mem : account ∈ context.accounts
  bookId : account.bookId = context.bookId
  active : account.status = "active"
  asset : account.assetCode = assetCode
  eligible : account.eligible use = true

/-- The one active account of the Book with an internal role, for an asset. -/
def Internal (context : EntryCompilationContext) (assetCode : AssetCode)
    (role : AccountSystemRole) (account : EntryAccount) : Prop :=
  internalCandidates context.accounts context.bookId assetCode role = [account]

/-- The categories are usable ones of the Book. -/
def Categorized (context : EntryCompilationContext) (usageKind : CategoryUsageKind)
    (allocations : List ResolvedAllocation) : Prop :=
  ∀ allocation ∈ allocations, allocation.category ∈ context.categories
    ∧ allocation.category.bookId = context.bookId
    ∧ allocation.category.Eligible usageKind

section Accounts

variable {u : UnicodeTables} {context : EntryCompilationContext} {assetCode : AssetCode}
  {use : AccountUse} {account : EntryAccount}

theorem asset_ok {asset : EntryAsset} (h : context.asset assetCode = .ok asset) :
    asset.assetCode = assetCode := by
  unfold EntryCompilationContext.asset at h
  split at h
  · next found hFound =>
      cases h
      have hMem : asset ∈ context.assets.filter fun a => a.assetCode = assetCode :=
        hFound ▸ List.mem_singleton_self _
      simpa using (List.mem_filter.1 hMem).2
  · exact nomatch h

theorem account_ok {reference : AccountRef} {field : String}
    (h : context.account u reference assetCode use field = .ok account) :
    Chosen context assetCode use account := by
  unfold EntryCompilationContext.account at h
  obtain ⟨resolution, hResolution, h⟩ := bind_eq_ok.1 h
  cases resolution with
  | choices choices => exact nomatch h
  | resolved found =>
      rw [← pure_eq_ok.1 h]
      obtain ⟨hMem, hBook, hActive, hAsset, hEligible⟩ :=
        resolveAccount_resolved hResolution
      exact ⟨hMem, hBook, hActive, hAsset, hEligible⟩

/-- An account that an original names is found under its own id. -/
theorem accountById_ok {accountId : Option UUID}
    (h : context.accountById u accountId assetCode use = .ok account) :
    accountId = some account.accountId ∧ Chosen context assetCode use account := by
  unfold EntryCompilationContext.accountById at h
  obtain ⟨named, hNamed, h⟩ := bind_eq_ok.1 h
  refine ⟨?_, account_ok h⟩
  unfold EntryCompilationContext.account at h
  obtain ⟨resolution, hResolution, h⟩ := bind_eq_ok.1 h
  simp only [resolveAccount, AccountRef.ofId, AccountRefFields.byId, bind_eq_ok,
    require_eq_ok, fetch_eq_ok, pure_eq_ok] at hResolution
  obtain ⟨-, -, found, hFound, -, -, rfl⟩ := hResolution
  have hId := List.find?_some hFound
  simp only [decide_eq_true_eq] at hId
  rw [fetch_eq_ok.1 hNamed, ← pure_eq_ok.1 h, hId.2]

theorem internal_ok {role : AccountSystemRole}
    (h : context.internal assetCode role = .ok account) :
    Internal context assetCode role account := by
  unfold EntryCompilationContext.internal resolveInternalAccount at h
  split at h
  · next found hFound =>
      cases h
      exact hFound
  · exact nomatch h

theorem category_ok {reference : CategoryRef} {usageKind : CategoryUsageKind}
    {field : String} {category : EntryCategory}
    (h : context.category u reference usageKind field = .ok category) :
    category ∈ context.categories ∧ category.bookId = context.bookId
      ∧ category.Eligible usageKind := by
  unfold EntryCompilationContext.category at h
  obtain ⟨resolution, hResolution, h⟩ := bind_eq_ok.1 h
  cases resolution with
  | choices choices => exact nomatch h
  | resolved found =>
      rw [← pure_eq_ok.1 h]
      exact resolveCategory_resolved hResolution

end Accounts

/-! ## Allocations -/

section Allocations

variable {u : UnicodeTables} {context : EntryCompilationContext} {asset : EntryAsset}
  {allocations : List ResolvedAllocation} {usageKind : CategoryUsageKind}
  {amount : NormalizedAmount}

/-- The allocations of an entry that is classified add up to its amount. -/
def Classifies (category : Option CategoryRef) (stated : List CategoryAllocationInput)
    (allocations : List ResolvedAllocation) (units : Nat) : Prop :=
  (category ≠ none ∨ stated ≠ [] →
      allocations ≠ [] ∧ (allocations.map (·.units)).sum = units)
    ∧ (category = none → stated = [] → allocations = [])

/-- What is stated one by one is resolved in its order, with its own units. -/
theorem resolveAllocations_ok
    {normalized : List (CategoryAllocationInput × NormalizedAmount)}
    (h : resolveAllocations u context usageKind normalized = .ok allocations) :
    allocations.map (·.units) = normalized.map (·.2.units)
      ∧ Categorized context usageKind allocations := by
  have hEach := mapM_eq_ok.1 h
  rw [← map_fst_zipIdx (·.2.units) normalized]
  clear h
  generalize normalized.zipIdx = numbered at hEach
  induction hEach with
  | nil => exact ⟨rfl, fun _ hMem => absurd hMem List.not_mem_nil⟩
  | cons hFirst _ ih =>
      obtain ⟨category, hCategory, hFirst⟩ := bind_eq_ok.1 hFirst
      cases pure_eq_ok.1 hFirst
      refine ⟨?_, ?_⟩
      · rw [List.map_cons, List.map_cons, ih.1]
      · rintro allocation (_ | ⟨_, hMem⟩)
        · exact category_ok hCategory
        · exact ih.2 allocation hMem

/-- Stated allocations are as many as they were, and add up to the amount. -/
theorem normalizeCategoryAllocations_ok {money : MoneyInput}
    {stated : List CategoryAllocationInput}
    {normalized : List (CategoryAllocationInput × NormalizedAmount)}
    (hAmount : normalizeAmount u money.1 asset false = .ok amount)
    (h : normalizeCategoryAllocations u money stated asset = .ok normalized) :
    normalized.length = stated.length
      ∧ (stated ≠ [] → (normalized.map (·.2.units)).sum = amount.units) := by
  unfold normalizeCategoryAllocations at h
  simp only [bind_eq_ok, require_eq_ok, pure_eq_ok] at h
  obtain ⟨total, hTotal, each, hEach, -, hSum, rfl⟩ := h
  rw [hAmount, Except.ok.injEq] at hTotal
  subst hTotal
  have hLength := (mapM_eq_ok.1 hEach).length_eq
  refine ⟨hLength.symm, fun hStated => hSum.resolve_left fun hNone => hStated ?_⟩
  rw [hNone] at hLength
  exact List.length_eq_zero_iff.1 hLength

theorem entryAllocations_ok {entry : CategorizedEntryInput}
    (hAmount : normalizeAmount u entry.amount.1 asset false = .ok amount)
    (h : entryAllocations u context entry asset amount usageKind = .ok allocations) :
    Classifies entry.category entry.categoryAllocations allocations amount.units
      ∧ Categorized context usageKind allocations := by
  unfold entryAllocations at h
  obtain ⟨normalized, hNormalized, h⟩ := bind_eq_ok.1 h
  obtain ⟨hLength, hSum⟩ := normalizeCategoryAllocations_ok hAmount hNormalized
  cases hCategory : entry.category with
  | some reference =>
      rw [hCategory] at h
      obtain ⟨category, hResolved, h⟩ := bind_eq_ok.1 h
      cases pure_eq_ok.1 h
      refine ⟨⟨fun _ => ⟨List.cons_ne_nil _ _, by simp⟩, fun hNone => nomatch hNone⟩, ?_⟩
      rintro allocation (_ | ⟨_, hMem⟩)
      · exact category_ok hResolved
      · exact absurd hMem List.not_mem_nil
  | none =>
      rw [hCategory] at h
      obtain ⟨hUnits, hCategorized⟩ := resolveAllocations_ok h
      have hCount : allocations.length = entry.categoryAllocations.length := by
        rw [← hLength]
        simpa using congrArg List.length hUnits
      refine ⟨⟨fun hStated => ⟨?_, ?_⟩, fun _ hNone => ?_⟩, hCategorized⟩
      · have hSome := hStated.resolve_left fun hNe => hNe rfl
        rintro rfl
        exact hSome (List.length_eq_zero_iff.1 hCount.symm)
      · rw [hUnits]
        exact hSum (hStated.resolve_left fun hNe => hNe rfl)
      · rw [hNone] at hCount
        exact List.length_eq_zero_iff.1 hCount

/-- The allocations of a refund: stated ones add up to the refund; one category of the
original takes the whole refund; several are taken over with the whole original. -/
def RefundClassifies (entry : RefundEntryInput) (original : OriginalEntry)
    (allocations : List ResolvedAllocation) (units : Nat) : Prop :=
  (entry.categoryAllocations ≠ [] →
      allocations ≠ [] ∧ (allocations.map (·.units)).sum = units)
    ∧ (entry.categoryAllocations = [] →
      (∃ allocation, original.categoryAllocations = [allocation]
          ∧ allocations = [⟨allocation.category, units⟩])
        ∨ (units = original.units ∧ original.categoryAllocations ≠ []
          ∧ allocations = original.categoryAllocations.map
            fun item => ⟨item.category, item.units⟩))

theorem refundAllocations_ok {entry : RefundEntryInput} {original : OriginalEntry}
    (hAmount : refundAmount u entry original asset = .ok amount)
    (h : refundAllocations u context entry original asset amount = .ok allocations) :
    RefundClassifies entry original allocations amount.units := by
  unfold refundAllocations at h
  by_cases hStated : entry.categoryAllocations = []
  · rw [if_neg (fun hNe => hNe hStated)] at h
    refine ⟨fun hNe => absurd hStated hNe, fun _ => ?_⟩
    split at h
    · next allocation hOne =>
        cases h
        exact .inl ⟨allocation, hOne, rfl⟩
    · split_ifs at h with hWhole
      cases h
      exact .inr ⟨hWhole.1, hWhole.2, rfl⟩
  · rw [if_pos hStated] at h
    refine ⟨fun _ => ?_, fun hNone => absurd hNone hStated⟩
    simp only [bind_eq_ok, fetch_eq_ok] at h
    obtain ⟨money, hMoney, normalized, hNormalized, h⟩ := h
    have hStatedAmount : normalizeAmount u money.1 asset false = .ok amount := by
      unfold refundAmount at hAmount
      rw [hMoney] at hAmount
      exact hAmount
    obtain ⟨hLength, hSum⟩ := normalizeCategoryAllocations_ok hStatedAmount hNormalized
    obtain ⟨hUnits, -⟩ := resolveAllocations_ok h
    refine ⟨?_, hUnits ▸ hSum hStated⟩
    rintro rfl
    refine hStated (List.length_eq_zero_iff.1 ?_)
    rw [← hLength]
    simpa using (congrArg List.length hUnits).symm

end Allocations

/-! ## The six kinds -/

namespace EntryFinancial

/-- A posted transaction of a kind. -/
def IsPosted (financial : EntryFinancial) (context : EntryCompilationContext)
    (kind : TransactionKind) (original : Option UUID) : Prop :=
  ∃ posted, financial = .posted posted ∧ posted.transactionId = context.transactionId
    ∧ posted.kind = kind ∧ posted.originalTransactionId = original

/-- A recorded transaction of a card. -/
def IsRecorded (financial : EntryFinancial) (context : EntryCompilationContext)
    (intent : CreditCardIntent) (card counter : EntryAccount) (original : Option UUID) :
    Prop :=
  ∃ recorded, financial = .recorded recorded
    ∧ recorded.transactionId = context.transactionId ∧ recorded.intent = intent
    ∧ recorded.cardAccountId = card.accountId
    ∧ recorded.counterAccountId = counter.accountId
    ∧ recorded.originalTransactionId = original

end EntryFinancial

/-- What an entry is compiled to: the financial event, the allocations, and the asset and
kind of its reporting lines. -/
inductive CompiledAs (u : UnicodeTables) (context : EntryCompilationContext) :
    EverydayEntry → EntryFinancial → List ResolvedAllocation → AssetCode →
      ReportingLineKind → Prop
  /-- The amount goes to the clearing account; a card is charged. -/
  | expense {entry : ExpenseEntryInput} {asset : EntryAsset} {amount : NormalizedAmount}
      {source clearing : EntryAccount} {financial : EntryFinancial}
      {allocations : List ResolvedAllocation}
      (hPolicy : context.asset asset.assetCode = .ok asset)
      (hAmount : normalizeAmount u entry.amount.1 asset false = .ok amount)
      (hSource : Chosen context asset.assetCode .expenseSource source)
      (hClearing : Internal context asset.assetCode .expenseClearing clearing)
      (hMoves : financial.Moves asset.assetCode amount.units clearing.accountId
        source.accountId)
      (hCard : source.accountSubtype = some "credit_card" →
        financial.IsRecorded context .charge source clearing none)
      (hOther : source.accountSubtype ≠ some "credit_card" →
        financial.IsPosted context .standard none)
      (hCategories : Categorized context .expense allocations)
      (hAllocations : Classifies entry.category entry.categoryAllocations allocations
        amount.units) :
      CompiledAs u context (.expense entry) financial allocations asset.assetCode .expense
  /-- The amount comes from the clearing account. -/
  | income {entry : IncomeEntryInput} {asset : EntryAsset} {amount : NormalizedAmount}
      {destination clearing : EntryAccount} {financial : EntryFinancial}
      {allocations : List ResolvedAllocation}
      (hPolicy : context.asset asset.assetCode = .ok asset)
      (hAmount : normalizeAmount u entry.amount.1 asset false = .ok amount)
      (hDestination : Chosen context asset.assetCode .incomeDestination destination)
      (hClearing : Internal context asset.assetCode .incomeClearing clearing)
      (hMoves : financial.Moves asset.assetCode amount.units destination.accountId
        clearing.accountId)
      (hPosted : financial.IsPosted context .standard none)
      (hCategories : Categorized context .income allocations)
      (hAllocations : Classifies entry.category entry.categoryAllocations allocations
        amount.units) :
      CompiledAs u context (.income entry) financial allocations asset.assetCode .income
  | transfer {entry : TransferEntryInput} {asset : EntryAsset} {amount : NormalizedAmount}
      {source destination : EntryAccount} {financial : EntryFinancial}
      (hPolicy : context.asset asset.assetCode = .ok asset)
      (hAmount : normalizeAmount u entry.amount.1 asset false = .ok amount)
      (hSource : Chosen context asset.assetCode .transferSource source)
      (hDestination : Chosen context asset.assetCode .transferDestination destination)
      (hDistinct : source.accountId ≠ destination.accountId)
      (hMoves : financial.Moves asset.assetCode amount.units destination.accountId
        source.accountId)
      (hPosted : financial.IsPosted context .transfer none) :
      CompiledAs u context (.transfer entry) financial [] asset.assetCode .transfer
  /-- A payment in the asset of the card. -/
  | cardPayment {entry : CreditCardPaymentEntryInput} {asset : EntryAsset}
      {amount : NormalizedAmount} {funding card : EntryAccount}
      {financial : EntryFinancial} (hSame : entry.sourceAmount = none)
      (hPolicy : context.asset asset.assetCode = .ok asset)
      (hAmount : normalizeAmount u entry.amount.1 asset false = .ok amount)
      (hFunding : Chosen context asset.assetCode .cardPaymentFunding funding)
      (hCard : Chosen context asset.assetCode .cardPaymentCard card)
      (hDistinct : funding.accountId ≠ card.accountId)
      (hMoves : financial.Moves asset.assetCode amount.units card.accountId
        funding.accountId)
      (hRecorded : financial.IsRecorded context .payment card funding none) :
      CompiledAs u context (.creditCardPayment entry) financial [] asset.assetCode .transfer
  /-- A payment out of another asset, over the trading accounts, with its fee. -/
  | fxCardPayment {entry : CreditCardPaymentEntryInput} {sourceAmount feeAmount : MoneyInput}
      {target source : EntryAsset} {targetUnits sourceUnits feeUnits : NormalizedAmount}
      {funding card targetTrading sourceTrading feeClearing : EntryAccount}
      {category : EntryCategory} {financial : EntryFinancial}
      (hSource : entry.sourceAmount = some sourceAmount)
      (hFee : entry.feeAmount = some feeAmount)
      (hTarget : context.asset target.assetCode = .ok target)
      (hPolicy : context.asset source.assetCode = .ok source)
      (hTargetUnits : normalizeAmount u entry.amount.1 target false = .ok targetUnits)
      (hSourceUnits : normalizeAmount u sourceAmount.1 source false = .ok sourceUnits)
      (hFeeUnits : normalizeAmount u feeAmount.1 source false = .ok feeUnits)
      (hFunding : Chosen context source.assetCode .cardPaymentFunding funding)
      (hCard : Chosen context target.assetCode .cardPaymentCard card)
      (hTargetTrading : Internal context target.assetCode .fxTrading targetTrading)
      (hSourceTrading : Internal context source.assetCode .fxTrading sourceTrading)
      (hFeeClearing : Internal context source.assetCode .expenseClearing feeClearing)
      (hDistinct : funding.accountId ≠ card.accountId)
      (hLegs : financial.postings.map (·.posted) =
        [⟨card.accountId, target.assetCode, .debit, targetUnits.units⟩,
          ⟨targetTrading.accountId, target.assetCode, .credit, targetUnits.units⟩,
          ⟨sourceTrading.accountId, source.assetCode, .debit, sourceUnits.units⟩,
          ⟨feeClearing.accountId, source.assetCode, .debit, feeUnits.units⟩,
          ⟨funding.accountId, source.assetCode, .credit,
            sourceUnits.units + feeUnits.units⟩])
      (hPosted : financial.IsPosted context .creditCardPayment none)
      (hCategories : Categorized context .expense [⟨category, feeUnits.units⟩]) :
      CompiledAs u context (.creditCardPayment entry) financial
        [⟨category, feeUnits.units⟩] source.assetCode .expense
  /-- At most the original goes back, to the account that it came from. -/
  | refund {entry : RefundEntryInput} {asset : EntryAsset} {original : OriginalEntry}
      {amount : NormalizedAmount} {account clearing : EntryAccount}
      {financial : EntryFinancial} {allocations : List ResolvedAllocation}
      (hPolicy : context.asset asset.assetCode = .ok asset)
      (hOriginal : context.originalEntry = some original)
      (hId : original.transactionId = entry.originalTransactionId)
      (hAsset : original.assetCode = asset.assetCode)
      (hAmount : refundAmount u entry original asset = .ok amount)
      (hUnits : amount.units ≤ original.units)
      (hClearing : Internal context asset.assetCode .expenseClearing clearing)
      (hMoves : financial.Moves asset.assetCode amount.units account.accountId
        clearing.accountId)
      (hCharge : original.kind = .creditCardCharge →
        original.cardAccountId = some account.accountId
          ∧ Chosen context asset.assetCode .cardPaymentCard account
          ∧ financial.IsRecorded context .refund account clearing
            (some original.transactionId))
      (hExpense : original.kind ≠ .creditCardCharge →
        original.kind = .everyday .expense
          ∧ original.sourceAccountId = some account.accountId
          ∧ Chosen context asset.assetCode .expenseSource account
          ∧ financial.IsPosted context .refund (some original.transactionId))
      (hAllocations : RefundClassifies entry original allocations amount.units) :
      CompiledAs u context (.refund entry) financial allocations asset.assetCode .expense
  /-- The difference of the balances goes to the account, or from it. -/
  | adjustment {entry : AdjustmentEntryInput} {asset : EntryAsset}
      {actual : NormalizedAmount} {account clearing : EntryAccount} {current : Int}
      {financial : EntryFinancial}
      (hPolicy : context.asset asset.assetCode = .ok asset)
      (hActual : normalizeAmount u entry.actualBalance.1 asset true = .ok actual)
      (hNamed : context.account u entry.account asset.assetCode .adjusted "account"
        = .ok account)
      (hAccount : Chosen context asset.assetCode .adjusted account)
      (hClearing : Internal context asset.assetCode .balanceAdjustment clearing)
      (hCurrent : context.currentBalanceUnits = some current)
      (hMore : current < actual.units → financial.Moves asset.assetCode
        (actual.units - current).natAbs account.accountId clearing.accountId)
      (hLess : actual.units < current → financial.Moves asset.assetCode
        (actual.units - current).natAbs clearing.accountId account.accountId)
      (hDifferent : (actual.units : Int) ≠ current)
      (hDistinct : account.accountId ≠ clearing.accountId)
      (hPosted : financial.IsPosted context .adjustment none) :
      CompiledAs u context (.adjustment entry) financial [] asset.assetCode .transfer

/-- The plan is that of an entry of its kind. -/
def PlansAs (u : UnicodeTables) (context : EntryCompilationContext) (entry : EverydayEntry)
    (plan : CompiledEntry) : Prop :=
  ∃ financial allocations assetCode lineKind,
    Drafted financial.postings
      ∧ PlanShape context entry financial allocations assetCode lineKind plan
      ∧ CompiledAs u context entry financial allocations assetCode lineKind

section Kinds

variable {u : UnicodeTables} {uuid5 : UUID → String → UUID}
  {context : EntryCompilationContext} {asset : EntryAsset} {plan : CompiledEntry}

/-- A plan of one amount: its lines are in the asset of the amount. -/
theorem PlansAs.of_moves {entry : EverydayEntry} {financial : EntryFinancial}
    {transactionKind : RecordedKind} {allocations : List ResolvedAllocation}
    {lineKind : ReportingLineKind} {assetCode : AssetCode} {units : Nat}
    {debit credit : UUID}
    (hPlan : entryPlan uuid5 context entry financial transactionKind allocations lineKind
      none = .ok plan)
    (hDrafted : Drafted financial.postings)
    (hMoves : financial.Moves assetCode units debit credit)
    (hKind : CompiledAs u context entry financial allocations assetCode lineKind) :
    PlansAs u context entry plan := by
  refine ⟨_, _, _, _, hDrafted, entryPlan_shape ?_ hPlan, hKind⟩
  intro first hFirst
  have hHead := congrArg List.head? hMoves
  rw [List.head?_map, hFirst] at hHead
  exact congrArg PostedUnits.assetCode (Option.some.inj hHead)

theorem compileExpense_ok {entry : ExpenseEntryInput}
    (hPolicy : context.asset asset.assetCode = .ok asset)
    (h : compileExpense u uuid5 context entry asset = .ok plan) :
    PlansAs u context (.expense entry) plan := by
  unfold compileExpense at h
  simp only [bind_eq_ok] at h
  obtain ⟨amount, hAmount, _, -, source, hSource, clearing, hClearing, allocations,
    hAllocations, postings, hPostings, hPlan⟩ := h
  obtain ⟨hClassifies, hCategories⟩ := entryAllocations_ok hAmount hAllocations
  have hMoves := twoPostings_facts hPostings
  by_cases hCard : source.accountSubtype = some "credit_card"
  · rw [if_pos hCard] at hPlan
    refine .of_moves hPlan (twoPostings_ok hPostings) hMoves ?_
    exact .expense hPolicy hAmount (account_ok hSource) (internal_ok hClearing) hMoves
      (fun _ => ⟨_, rfl, rfl, rfl, rfl, rfl, rfl⟩) (fun hNot => absurd hCard hNot)
      hCategories hClassifies
  · rw [if_neg hCard] at hPlan
    refine .of_moves hPlan (twoPostings_ok hPostings) hMoves ?_
    exact .expense hPolicy hAmount (account_ok hSource) (internal_ok hClearing) hMoves
      (fun hIs => absurd hIs hCard) (fun _ => ⟨_, rfl, rfl, rfl, rfl⟩) hCategories
      hClassifies

theorem compileIncome_ok {entry : IncomeEntryInput}
    (hPolicy : context.asset asset.assetCode = .ok asset)
    (h : compileIncome u uuid5 context entry asset = .ok plan) :
    PlansAs u context (.income entry) plan := by
  unfold compileIncome at h
  simp only [bind_eq_ok] at h
  obtain ⟨amount, hAmount, destination, hDestination, clearing, hClearing, allocations,
    hAllocations, postings, hPostings, hPlan⟩ := h
  obtain ⟨hClassifies, hCategories⟩ := entryAllocations_ok hAmount hAllocations
  have hMoves := twoPostings_facts hPostings
  refine .of_moves hPlan (twoPostings_ok hPostings) hMoves ?_
  exact .income hPolicy hAmount (account_ok hDestination) (internal_ok hClearing) hMoves
    ⟨_, rfl, rfl, rfl, rfl⟩ hCategories hClassifies

theorem compileTransfer_ok {entry : TransferEntryInput}
    (hPolicy : context.asset asset.assetCode = .ok asset)
    (h : compileTransfer u uuid5 context entry asset = .ok plan) :
    PlansAs u context (.transfer entry) plan := by
  unfold compileTransfer at h
  simp only [bind_eq_ok] at h
  obtain ⟨amount, hAmount, source, hSource, destination, hDestination, _, hDistinct,
    postings, hPostings, hPlan⟩ := h
  have hMoves := twoPostings_facts hPostings
  refine .of_moves hPlan (twoPostings_ok hPostings) hMoves ?_
  exact .transfer hPolicy hAmount (account_ok hSource) (account_ok hDestination)
    (require_eq_ok.1 hDistinct) hMoves ⟨_, rfl, rfl, rfl, rfl⟩

theorem compileFxCardPayment_ok {entry : CreditCardPaymentEntryInput}
    {sourceAmount : MoneyInput} (hSource : entry.sourceAmount = some sourceAmount)
    (hPolicy : context.asset asset.assetCode = .ok asset)
    (h : compileFxCardPayment u uuid5 context entry sourceAmount asset = .ok plan) :
    PlansAs u context (.creditCardPayment entry) plan := by
  unfold compileFxCardPayment at h
  simp only [bind_eq_ok, fetch_eq_ok] at h
  obtain ⟨feeAmount, hFee, _, -, _, -, sourceAsset, hSourceAsset, target, hTarget, source, hUnits,
    fee, hFeeUnits, funding, hFunding, card, hCard, sourceTrading, hSourceTrading,
    targetTrading, hTargetTrading, feeClearing, hFeeClearing, _, hDistinct, category,
    hCategory, postings, hPostings, hPlan⟩ := h
  refine ⟨_, _, _, _, ?_, entryPlan_shape (fun _ _ => rfl) hPlan, ?_⟩
  · exact mixedPostings_ok hPostings
  refine .fxCardPayment hSource hFee hPolicy
    (by rw [asset_ok hSourceAsset, hSourceAsset]) hTarget hUnits hFeeUnits (account_ok hFunding)
    (account_ok hCard) (internal_ok hTargetTrading) (internal_ok hSourceTrading)
    (internal_ok hFeeClearing) (require_eq_ok.1 hDistinct) (mixedPostings_facts hPostings)
    ⟨_, rfl, rfl, rfl, rfl⟩ ?_
  rintro allocation (_ | ⟨_, hMem⟩)
  · exact category_ok hCategory
  · exact absurd hMem List.not_mem_nil

theorem compileCardPayment_ok {entry : CreditCardPaymentEntryInput}
    (hPolicy : context.asset asset.assetCode = .ok asset)
    (h : compileCardPayment u uuid5 context entry asset = .ok plan) :
    PlansAs u context (.creditCardPayment entry) plan := by
  unfold compileCardPayment at h
  split at h
  · next sourceAmount hSource => exact compileFxCardPayment_ok hSource hPolicy h
  · next hSame =>
      simp only [bind_eq_ok] at h
      obtain ⟨amount, hAmount, _, -, funding, hFunding, card, hCard, _, hDistinct,
        postings, hPostings, hPlan⟩ := h
      have hMoves := twoPostings_facts hPostings
      refine .of_moves hPlan (twoPostings_ok hPostings) hMoves ?_
      exact .cardPayment hSame hPolicy hAmount (account_ok hFunding) (account_ok hCard)
        (require_eq_ok.1 hDistinct) hMoves ⟨_, rfl, rfl, rfl, rfl, rfl, rfl⟩

/-- The financial event of a refund reverses what its original recorded. -/
theorem refundFinancial_ok {original : OriginalEntry} {clearing : EntryAccount}
    {assetCode : AssetCode} {units : Nat} {refunded : EntryFinancial × RecordedKind}
    (h : refundFinancial u uuid5 context original clearing assetCode units
      = .ok refunded) :
    ∃ account : EntryAccount, Drafted refunded.1.postings
      ∧ refunded.1.Moves assetCode units account.accountId clearing.accountId
      ∧ (original.kind = .creditCardCharge →
        original.cardAccountId = some account.accountId
          ∧ Chosen context assetCode .cardPaymentCard account
          ∧ refunded.1.IsRecorded context .refund account clearing
            (some original.transactionId))
      ∧ (original.kind ≠ .creditCardCharge →
        original.kind = .everyday .expense
          ∧ original.sourceAccountId = some account.accountId
          ∧ Chosen context assetCode .expenseSource account
          ∧ refunded.1.IsPosted context .refund (some original.transactionId)) := by
  unfold refundFinancial at h
  split at h
  · next hKind =>
      simp only [bind_eq_ok, pure_eq_ok] at h
      obtain ⟨card, hCard, postings, hPostings, rfl⟩ := h
      obtain ⟨hId, hChosen⟩ := accountById_ok hCard
      exact ⟨card, twoPostings_ok hPostings, twoPostings_facts hPostings,
        fun _ => ⟨hId, hChosen, _, rfl, rfl, rfl, rfl, rfl, rfl⟩,
        fun hNot => absurd hKind hNot⟩
  · next hKind =>
      simp only [bind_eq_ok, pure_eq_ok] at h
      obtain ⟨source, hSource, postings, hPostings, rfl⟩ := h
      obtain ⟨hId, hChosen⟩ := accountById_ok hSource
      refine ⟨source, twoPostings_ok hPostings, twoPostings_facts hPostings,
        fun hCharge => ?_, fun _ => ⟨hKind, hId, hChosen, _, rfl, rfl, rfl, rfl⟩⟩
      rw [hKind] at hCharge
      cases hCharge
  · cases h

theorem compileRefund_ok {entry : RefundEntryInput}
    (hPolicy : context.asset asset.assetCode = .ok asset)
    (h : compileRefund u uuid5 context entry asset = .ok plan) :
    PlansAs u context (.refund entry) plan := by
  unfold compileRefund at h
  simp only [bind_eq_ok, fetch_eq_ok, require_eq_ok] at h
  obtain ⟨original, hOriginal, _, hAsset, amount, hAmount, _, hUnits, clearing, hClearing,
    allocations, hAllocations, refunded, hFinancial, hPlan⟩ := h
  obtain ⟨hOriginal, hId⟩ := Option.filter_eq_some_iff.1 hOriginal
  obtain ⟨account, hDrafted, hMoves, hCharge, hExpense⟩ := refundFinancial_ok hFinancial
  refine .of_moves hPlan hDrafted hMoves ?_
  exact .refund hPolicy hOriginal (of_decide_eq_true hId) hAsset hAmount hUnits
    (internal_ok hClearing) hMoves hCharge hExpense (refundAllocations_ok hAmount hAllocations)

theorem compileAdjustment_ok {entry : AdjustmentEntryInput}
    (hPolicy : context.asset asset.assetCode = .ok asset)
    (h : compileAdjustment u uuid5 context entry asset = .ok plan) :
    PlansAs u context (.adjustment entry) plan := by
  unfold compileAdjustment at h
  simp only [bind_eq_ok, fetch_eq_ok, require_eq_ok] at h
  obtain ⟨actual, hActual, account, hAccount, current, hCurrent, _, hDelta, clearing,
    hClearing, h⟩ := h
  have hDifferent : (actual.units : Int) ≠ current := fun hEq => hDelta (by omega)
  by_cases hMore : 0 < (actual.units : Int) - current
  · rw [if_pos hMore] at h
    obtain ⟨postings, hPostings, hPlan⟩ := bind_eq_ok.1 h
    have hMoves := twoPostings_facts hPostings
    refine .of_moves hPlan (twoPostings_ok hPostings) hMoves ?_
    exact .adjustment hPolicy hActual hAccount (account_ok hAccount) (internal_ok hClearing)
      hCurrent
      (fun _ => hMoves) (fun hLess => absurd hMore (by omega)) hDifferent
      (twoPostings_distinct hPostings) ⟨_, rfl, rfl, rfl, rfl⟩
  · rw [if_neg hMore] at h
    obtain ⟨postings, hPostings, hPlan⟩ := bind_eq_ok.1 h
    have hMoves := twoPostings_facts hPostings
    refine .of_moves hPlan (twoPostings_ok hPostings) hMoves ?_
    exact .adjustment hPolicy hActual hAccount (account_ok hAccount) (internal_ok hClearing)
      hCurrent
      (fun hIs => absurd hIs (by omega)) (fun _ => hMoves) hDifferent
      (twoPostings_distinct hPostings).symm ⟨_, rfl, rfl, rfl, rfl⟩

/-- Every plan is balanced, has its streams and positions, and says what the kind of its
entry says. -/
theorem compileEntry_plans {entry : EverydayEntry}
    (h : compileEntry u uuid5 context entry = .ok plan) :
    PlansAs u context entry plan := by
  unfold compileEntry at h
  simp only [bind_eq_ok] at h
  obtain ⟨assetCode, -, asset, hAsset, h⟩ := h
  have hPolicy : context.asset asset.assetCode = .ok asset := by
    rw [asset_ok hAsset, hAsset]
  cases entry with
  | expense entry => exact compileExpense_ok hPolicy h
  | income entry => exact compileIncome_ok hPolicy h
  | transfer entry => exact compileTransfer_ok hPolicy h
  | creditCardPayment entry => exact compileCardPayment_ok hPolicy h
  | refund entry => exact compileRefund_ok hPolicy h
  | adjustment entry => exact compileAdjustment_ok hPolicy h

end Kinds

/-! ### A sample plan -/

/-- A way to derive ids that keeps the names of the sample apart. -/
def sampleEntryUuid5 (parent : UUID) (name : String) : UUID :=
  Fin.ofNat _ (name.toList.foldl (fun digest c => 131 * digest + c.toNat) parent.1)

/-- An account of the sample Book. -/
def sampleEntryAccount (accountId : UUID) (accountType : AccountType)
    (accountSubtype : Option String) (systemRole : AccountSystemRole) : EntryAccount where
  accountId := accountId
  bookId := 1
  displayName := "Account"
  assetCode := sampleAsset
  accountType := accountType
  accountSubtype := accountSubtype
  systemRole := systemRole
  status := "active"
  last4 := none
  aliases := []

/-- A Book with a card and a wallet, and with what entries need beside them. -/
def sampleEntryContext : EntryCompilationContext where
  bookId := 1
  commandId := 100
  transactionId := 101
  actorSubjectId := "user"
  lockedLastPosition := 7
  assets := [sampleCurrency]
  accounts := [sampleEntryAccount 2 .liability (some "credit_card") .standard,
    sampleEntryAccount 3 .asset none .standard,
    sampleEntryAccount 4 .expense none .expenseClearing,
    sampleEntryAccount 5 .equity none .balanceAdjustment]
  categories := [⟨6, 7, 1, ["Food"], .expense, "active", []⟩]
  currentBalanceUnits := some 1000000
  originalEntry := none

theorem sampleUnits_validates : AmountFields.validateMoney sampleUnits = .ok sampleUnits := by
  decide

/-- 12.50 on the card, for food. -/
def sampleExpense : EverydayEntry :=
  .expense
    { occurredAt := ⟨⟨sampleDate, 0⟩, 0⟩
      narrative := none
      amount := ⟨sampleUnits, sampleUnits, sampleUnits_validates⟩
      category := some (.ofId 6)
      categoryAllocations := []
      sourceAccount := some (.ofId 2)
      paymentInstrument := none }

theorem compileEntry_plans_sample :
    ∃ plan, compileEntry sampleUnicode sampleEntryUuid5 sampleEntryContext sampleExpense = .ok plan
      ∧ plan.events.length = 2 ∧ PlansAs sampleUnicode sampleEntryContext sampleExpense plan := by
  have hPlan : (compileEntry sampleUnicode sampleEntryUuid5 sampleEntryContext
      sampleExpense).toOption.any (fun plan => plan.events.length = 2) = true := by
    decide +kernel
  obtain ⟨plan, hPlan, hLength⟩ := exists_ok_of_any hPlan
  exact ⟨plan, hPlan, of_decide_eq_true hLength, compileEntry_plans hPlan⟩

end TrackAnywhere.Ports
