import TrackAnywhere.Ports.AsOfJournal
import TrackAnywhere.Ports.EntryCatalogs
import TrackAnywhere.Verified.Paired

/-!
# Reads as of a position do not change

A Book is projected event by event while the catalog commands change its
catalog.  The journal and the everyday entries as of a position are the same
before and after any further events and commands, up to the names of accounts
and the narratives.
-/

namespace TrackAnywhere.Ports

open TrackAnywhere.Verified
open TrackAnywhere.Verified.Checked
open TrackAnywhere.Verified.KeyedSum
open TrackAnywhere.Verified.ChainedLog

/-! ## A Book and its catalog -/

structure EntryBook where
  tables : SyncTables
  catalog : EntryCatalog

def EntryBook.empty : EntryBook := ⟨SyncTables.empty, ⟨[], [], [], []⟩⟩

inductive EntryBookAction
  | projected (stored : LedgerEventRecord)
  | changed (change : CatalogChange)

def EntryBookAction.event? : EntryBookAction → Option LedgerEventRecord
  | .projected stored => some stored
  | .changed _ => none

/-- The rows that the projector finds are rows of the catalog. -/
structure EntryCatalog.Lists (catalog : EntryCatalog) (rows : Catalog) : Prop where
  accounts : ∀ account ∈ rows.accounts,
    account.accountId ∈ catalog.accounts.map (·.accountId)
      ∧ account.assetCode ∈ catalog.assets.map (·.assetCode)
  versions : ∀ identity ∈ rows.categoryVersions, (catalog.version? identity).isSome

/-- An event is projected against the catalog of that moment, or a command
changes the catalog. -/
inductive EntryBookStep (ledger : List LedgerEventRecord) (bookId : UUID) :
    EntryBook → EntryBookAction → EntryBook → Prop
  | projected {t t' : SyncTables} {catalog : EntryCatalog} {rows : Catalog}
      {stored : LedgerEventRecord} {result : ProjectionApplyResult}
      (hMem : stored ∈ ledger) (hBook : stored.bookId = bookId)
      (hLists : catalog.Lists rows)
      (hApply : applyStored rows ledger stored t = .ok (result, t')) :
      EntryBookStep ledger bookId ⟨t, catalog⟩ (.projected stored) ⟨t', catalog⟩
  | changed {t : SyncTables} {catalog : EntryCatalog} {change : CatalogChange}
      (hAllows : catalog.Allows change) :
      EntryBookStep ledger bookId ⟨t, catalog⟩ (.changed change) ⟨t, catalog.change change⟩

/-! ## What is referred to is in the catalog -/

section Covered

variable {rows : Catalog} {ledger events : List LedgerEventRecord} {bookId : UUID}
  {stored : LedgerEventRecord} {t t' : SyncTables} {catalog : EntryCatalog}
  {s s' : EntryBook} {actions : List EntryBookAction}

theorem projects_of_run (h : Run (EntryBookStep ledger bookId) s actions s') :
    Run (Projects ledger bookId) s.tables (actions.filterMap (·.event?)) s'.tables := by
  induction h with
  | nil s => exact .nil _
  | cons hStep _ ih =>
      cases hStep with
      | projected hMem hBook hLists hApply => exact .cons ⟨hMem, hBook, _, _, hApply⟩ ih
      | changed hAllows => exact ih

theorem kept_of_run (h : Run (EntryBookStep ledger bookId) s actions s') :
    s.catalog.Kept s'.catalog := by
  induction h with
  | nil s => exact .refl _
  | cons hStep _ ih =>
      cases hStep with
      | projected hMem hBook hLists hApply => exact ih
      | changed hAllows => exact (EntryCatalog.kept_change _ _).trans ih

/-- Postings are made on accounts of the catalog. -/
theorem accounts_of_apply {payload : EventPayload} {fact : UUID × List JournalPostingFact}
    (h : applyPayload rows ledger stored payload t = .ok t')
    (hFact : payload.financialFact = some fact) :
    ∀ p ∈ fact.2, (rows.account? p.accountId p.assetCode).isSome := by
  cases payload with
  | creditCardTransactionRecorded p =>
      cases hFact
      simp only [applyPayload, applyCreditCardRecorded, applyFinancialTransaction,
        bind_eq_ok, require_eq_ok, exists_const] at h
      obtain ⟨t₁, ⟨-, -, -, -, -, hAccounts, -⟩, -⟩ := h
      exact hAccounts
  | journalTransactionPosted p =>
      cases hFact
      simp only [applyPayload, applyJournalPosted, applyFinancialTransaction,
        bind_eq_ok, require_eq_ok, exists_const] at h
      obtain ⟨t₁, ⟨-, -, -, -, -, hAccounts, -⟩, -⟩ := h
      exact hAccounts
  | journalTransactionReversed p =>
      cases hFact
      obtain ⟨_, _, _, _, t₁, -, -, -, -, -, -, -, -, -, hFinancial, -⟩ :=
        applyJournalReversed_ok h
      simp only [applyFinancialTransaction, bind_eq_ok, require_eq_ok,
        exists_const] at hFinancial
      exact hFinancial.2.2.2.2.2.1
  | _ => cases hFact

/-- Lines are assigned to category versions of the catalog. -/
theorem versions_of_apply {p : ReportingLinesAssigned}
    (h : applyReportingLinesAssigned rows ledger stored p t = .ok t') :
    ∀ line ∈ p.lines, ∀ categoryId ∈ line.dimensionId,
      (categoryId, line.catalogId) ∈ rows.categoryVersions := by
  simp only [applyReportingLinesAssigned, validateReportingLines, bind_eq_ok, require_eq_ok,
    forEach_eq_ok, exists_const] at h
  obtain ⟨transaction, -, ⟨-, -, -, -, hLines, -⟩, -⟩ := h
  intro line hLine categoryId hMem
  have hVersion := (hLines line hLine).2
  rw [Option.mem_def.1 hMem] at hVersion
  exact of_decide_eq_true hVersion

/-- The rows that the tables and the events refer to are in the catalog. -/
structure EntryCatalog.Covers (catalog : EntryCatalog) (t : SyncTables)
    (events : List LedgerEventRecord) : Prop where
  accounts : ∀ p ∈ t.journalPostings, p.accountId ∈ catalog.accounts.map (·.accountId)
  assets : ∀ p ∈ t.journalPostings, p.assetCode ∈ catalog.assets.map (·.assetCode)
  versions : ∀ e ∈ events, ∀ contract p, e.contract? = some contract →
    contract.1 = .reportingLinesAssigned p → ∀ line ∈ p.lines,
    ∀ categoryId ∈ line.dimensionId, (catalog.version? (categoryId, line.catalogId)).isSome
  parents : catalog.ParentsKnown

theorem accountFact?_isSome {accounts : List AccountFact} {accountId : UUID} :
    (accountFact? accounts accountId).isSome ↔ accountId ∈ accounts.map (·.accountId) := by
  unfold accountFact?
  rw [List.find?_isSome]
  simp only [decide_eq_true_eq, List.mem_map]

theorem assetFact?_isSome {assets : List AssetFact} {assetCode : AssetCode} :
    (assetFact? assets assetCode).isSome ↔ assetCode ∈ assets.map (·.assetCode) := by
  unfold assetFact?
  rw [List.find?_isSome]
  simp only [decide_eq_true_eq, List.mem_map]

/-- A command leaves what is referred to in the catalog. -/
theorem EntryCatalog.Covers.change (h : catalog.Covers t events) {change : CatalogChange}
    (hAllows : catalog.Allows change) : (catalog.change change).Covers t events := by
  have hKept := EntryCatalog.kept_change catalog change
  refine ⟨fun p hp => ?_, fun p hp => ?_, ?_, h.parents.change hAllows⟩
  · have hFound := accountFact?_isSome.2 (h.accounts p hp)
    rw [← accountFact?_isSome, ← Option.isSome_map (f := (·.unnamed)),
      hKept.accounts _ hFound, Option.isSome_map]
    exact hFound
  · have hFound := assetFact?_isSome.2 (h.assets p hp)
    rw [← assetFact?_isSome, hKept.assets _ hFound]
    exact hFound
  · intro e he contract p hContract hPayload line hLine categoryId hMem
    have hFound := h.versions e he contract p hContract hPayload line hLine categoryId hMem
    rw [hKept.versions _ hFound]
    exact hFound

/-- A new event is projected on rows of the catalog. -/
theorem EntryCatalog.Covers.project (h : catalog.Covers t events)
    (hFresh : stored.eventId ∉ t.appliedEvents.map (·.eventId)) (hLists : catalog.Lists rows)
    {result : ProjectionApplyResult}
    (hApply : applyStored rows ledger stored t = .ok (result, t')) :
    catalog.Covers t' (events ++ [stored]) := by
  rcases applyStored_cases hApply with ⟨rfl, -, hSkipped⟩ | ⟨contract, hValid, -, hPayload⟩
  · have hNone : stored.contract? = none := by
      rcases hSkipped with hVersion | hMarked
      · exact LedgerEventRecord.contract?_eq_none hVersion
      · exact absurd hMarked hFresh
    refine ⟨h.accounts, h.assets, fun e he contract p hContract => ?_, h.parents⟩
    rcases List.mem_append.1 he with he | he
    · exact h.versions e he contract p hContract
    · rw [List.mem_singleton.1 he, hNone] at hContract
      exact nomatch hContract
  · have hPostings : ∀ p ∈ t'.journalPostings, p ∈ t.journalPostings
        ∨ (rows.account? p.accountId p.assetCode).isSome := by
      intro p hp
      have hJournal := (applyPayload_journalEffect hPayload).journal
      cases hFact : contract.1.financialFact with
      | none =>
          rw [hFact] at hJournal
          rw [hJournal.postings] at hp
          exact .inl hp
      | some fact =>
          rw [hFact] at hJournal
          rw [hJournal.postings, List.mem_append] at hp
          refine hp.imp id fun hNew => ?_
          obtain ⟨posting, hPosting, rfl⟩ := List.mem_map.1 hNew
          exact accounts_of_apply hPayload hFact posting hPosting
    have hKnown : ∀ accountId assetCode, (rows.account? accountId assetCode).isSome →
        accountId ∈ catalog.accounts.map (·.accountId)
          ∧ assetCode ∈ catalog.assets.map (·.assetCode) := by
      intro accountId assetCode hSome
      obtain ⟨account, hFound⟩ := Option.isSome_iff_exists.1 hSome
      have hKey : account.accountId = accountId ∧ account.assetCode = assetCode := by
        simpa using List.find?_some hFound
      have hRows := hLists.accounts account (List.mem_of_find?_eq_some hFound)
      rwa [hKey.1, hKey.2] at hRows
    refine ⟨fun p hp => ?_, fun p hp => ?_, ?_, h.parents⟩
    · rcases hPostings p hp with hOld | hNew
      · exact h.accounts p hOld
      · exact (hKnown _ _ hNew).1
    · rcases hPostings p hp with hOld | hNew
      · exact h.assets p hOld
      · exact (hKnown _ _ hNew).2
    · intro e he found p hContract hAssigned line hLine categoryId hMem
      rcases List.mem_append.1 he with he | he
      · exact h.versions e he found p hContract hAssigned line hLine categoryId hMem
      · rw [List.mem_singleton.1 he, LedgerEventRecord.contract?_eq_some.2 hValid] at hContract
        obtain rfl := Option.some.inj hContract
        rw [hAssigned] at hPayload
        exact hLists.versions _
          (versions_of_apply hPayload line hLine categoryId hMem)

/-- Whatever was posted or classified is in the catalog. -/
theorem covered_run (hRun : Run (EntryBookStep ledger bookId) EntryBook.empty actions s)
    (hDistinct : ((actions.filterMap (·.event?)).map (·.eventId)).Nodup) :
    s.catalog.Covers s.tables (actions.filterMap (·.event?)) := by
  refine Run.traceInvariant
    (I := fun done s => done <+: actions →
      s.catalog.Covers s.tables (done.filterMap (·.event?)))
    (fun _ => ⟨nofun, nofun, nofun, nofun, nofun⟩) ?_ hRun List.prefix_rfl
  intro done s₁ action s₂ hDone hI hStep hPrefix
  have hCovers := hI ((List.prefix_append _ _).trans hPrefix)
  rw [List.filterMap_append]
  cases hStep with
  | @projected t t' catalog rows stored result hMem hBook hLists hApply =>
      refine hCovers.project ?_ hLists hApply
      have hIds := hDistinct.sublist ((hPrefix.sublist.filterMap (·.event?)).map (·.eventId))
      rw [List.filterMap_append, List.map_append, List.nodup_append] at hIds
      have hHistory := journalHistory_run hIds.1 (projects_of_run hDone)
      rw [hHistory.applied]
      rintro ⟨e, he, hId, -⟩
      exact hIds.2.2 _ (List.mem_map.2 ⟨e, he, hId⟩) _ (List.mem_singleton_self _) rfl
  | changed hAllows =>
      rw [show [EntryBookAction.changed _].filterMap (·.event?) = [] from rfl, List.append_nil]
      exact hCovers.change hAllows

end Covered

/-! ## The reporting lines -/

section Lines

variable {store store' : EventStoreTables} {bookId : UUID} {asOf : Nat}
  {head head' : BookEventHeadRecord}

/-- The reporting lines as of a position are those of the events up to it. -/
theorem listCurrentReportingLines_grown {more : List LedgerEventRecord}
    (hMore : store'.bookEvents bookId = store.bookEvents bookId ++ more)
    (hAfter : ∀ e ∈ more, asOf < e.bookPosition)
    (hHead : store.bookHead? bookId = some head) (hHead' : store'.bookHead? bookId = some head')
    (hAsOf : asOf ≤ head.lastPosition) (hAsOf' : asOf ≤ head'.lastPosition) :
    listCurrentReportingLines store' bookId asOf
      = listCurrentReportingLines store bookId asOf := by
  have hNone : more.filter (fun e => e.bookPosition ≤ asOf ∧ isReportingEvent e) = [] := by
    rw [List.filter_eq_nil_iff]
    intro e he hSelected
    have hPosition := hAfter e he
    simp only [decide_eq_true_eq] at hSelected
    omega
  unfold listCurrentReportingLines
  simp only [hHead, hHead', fetch, bind, Except.bind, require, if_pos hAsOf, if_pos hAsOf',
    hMore, List.filter_append, hNone, List.append_nil]

/-- A line that is shown was assigned by an event. -/
def Assigned (events : List LedgerEventRecord) (line : ReportingLineView) : Prop :=
  ∃ e ∈ events, ∃ contract p l, e.contract? = some contract
    ∧ contract.1 = .reportingLinesAssigned p ∧ l ∈ p.lines
    ∧ line = l.view p.transactionId p.classificationRevision

/-- The replay holds lines that events assigned. -/
theorem assigned_of_replay {events selected : List LedgerEventRecord}
    (hSelected : ∀ e ∈ selected, e ∈ events) {start current : Dict UUID (List ReportingLineView)}
    (hStart : ∀ k lines, start.lookup k = some lines → ∀ line ∈ lines, Assigned events line)
    (h : selected.foldlM replayReporting start = .ok current) :
    ∀ k lines, current.lookup k = some lines → ∀ line ∈ lines, Assigned events line := by
  induction selected generalizing start with
  | nil =>
      rw [List.foldlM_nil, pure_eq_ok] at h
      exact h ▸ hStart
  | cons e rest ih =>
      rw [List.foldlM_cons, bind_eq_ok] at h
      obtain ⟨next, hNext, hRest⟩ := h
      refine ih (fun other hOther => hSelected other (List.mem_cons_of_mem _ hOther)) ?_ hRest
      simp only [replayReporting, bind_eq_ok, mapError_eq_ok, pure_eq_ok] at hNext
      obtain ⟨contract, hValid, rfl⟩ := hNext
      have hContract := LedgerEventRecord.contract?_eq_some.2 hValid
      obtain ⟨payload, hChecked⟩ := contract
      intro k lines hLookup line hLine
      cases payload with
      | reportingLinesAssigned p =>
          dsimp only [EventPayload.replay] at hLookup
          by_cases hSame : k = p.transactionId
          · rw [hSame, AList.lookup_insert] at hLookup
            obtain rfl := Option.some.inj hLookup
            obtain ⟨l, hl, rfl⟩ := List.mem_map.1 hLine
            exact ⟨e, hSelected e List.mem_cons_self, _, p, l, hContract, rfl, hl, rfl⟩
          · rw [AList.lookup_insert_ne hSame] at hLookup
            exact hStart k lines hLookup line hLine
      | reportingLinesCleared p =>
          dsimp only [EventPayload.replay] at hLookup
          by_cases hSame : k = p.transactionId
          · rw [hSame, AList.lookup_erase] at hLookup
            cases hLookup
          · rw [AList.lookup_erase_ne hSame] at hLookup
            exact hStart k lines hLookup line hLine
      | _ => exact hStart k lines hLookup line hLine

theorem assigned_of_listed {lines : List ReportingLineView}
    (h : listCurrentReportingLines store bookId asOf = .ok lines) :
    ∀ line ∈ lines, Assigned (store.bookEvents bookId) line := by
  simp only [listCurrentReportingLines, bind_eq_ok, require_eq_ok, fetch_eq_ok, pure_eq_ok,
    exists_const] at h
  obtain ⟨head, -, -, current, hReplay, rfl⟩ := h
  intro line hLine
  obtain ⟨k, -, hMem⟩ := List.mem_flatMap.1 hLine
  cases hLookup : current.lookup k with
  | none =>
      rw [hLookup] at hMem
      cases hMem
  | some found =>
      rw [hLookup] at hMem
      refine assigned_of_replay (fun e he => ?_) (fun k lines hNone => ?_) hReplay k found
        hLookup line hMem
      · rw [List.mem_insertionSort] at he
        exact (List.mem_filter.1 he).1
      · cases hNone

end Lines

/-! ## The facts of an entry -/

/-- The facts agree, up to the names of accounts. -/
structure SameFacts (facts facts' : EntryFacts) : Prop where
  journal : facts'.journal = facts.journal
  accounts : ∀ accountId, (accountFact? facts'.accounts accountId).map (·.unnamed)
    = (accountFact? facts.accounts accountId).map (·.unnamed)
  assets : ∀ assetCode, assetFact? facts'.assets assetCode = assetFact? facts.assets assetCode
  reporting : facts'.reporting = facts.reporting
  inheritedReporting : facts'.inheritedReporting = facts.inheritedReporting
  semanticOriginal : facts'.semanticOriginalTransactionId = facts.semanticOriginalTransactionId

section Facts

variable {store store' : EventStoreTables} {bookId : UUID} {asOf : Nat}
  {t t' : SyncTables} {catalog catalog' : EntryCatalog} {events : List LedgerEventRecord}

private theorem find?_filter_key {ρ κ : Type} [DecidableEq κ] (column : ρ → κ) (rows : List ρ)
    (p : κ → Bool) (key : κ) :
    (rows.filter fun row => p (column row)).find? (fun row => column row = key)
      = if p key then rows.find? (fun row => column row = key) else none := by
  induction rows with
  | nil => simp
  | cons row rest ih =>
      by_cases hKey : column row = key
      · by_cases hp : p key
        · simp [hKey, hp]
        · simpa [hKey, hp] using ih
      · by_cases hp : p (column row)
        · simpa [hKey, hp] using ih
        · simpa [hKey, hp] using ih

/-- The lines of a transaction, with the paths of the catalog. -/
theorem reportingFacts_kept (hKept : catalog.Kept catalog')
    (hCovers : catalog.Covers t events) {lines : List ReportingLineView}
    (hAssigned : ∀ line ∈ lines, Assigned events line) (transactionId : UUID) :
    reportingFacts catalog' lines transactionId = reportingFacts catalog lines transactionId := by
  unfold reportingFacts
  refine List.filterMap_congr fun line hLine => ?_
  rw [List.mem_insertionSort] at hLine
  obtain ⟨e, he, contract, p, l, hContract, hPayload, hl, rfl⟩ :=
    hAssigned line (List.mem_filter.1 hLine).1
  cases hId : l.dimensionId with
  | none => simp [ReportingLine.view, hId]
  | some categoryId =>
      have hVersion := hCovers.versions e he contract p hContract hPayload l hl categoryId
        (Option.mem_def.2 hId)
      have hPath := hKept.categoryPath hCovers.parents hVersion
      simp [ReportingLine.view, hId, hPath]

/-- Items read before have the same facts in a catalog that kept its rows. -/
theorem sameFacts_entryFacts (hKept : catalog.Kept catalog')
    (hCovers : catalog.Covers t events) {lines : List ReportingLineView}
    (hAssigned : ∀ line ∈ lines, Assigned events line) {items : List JournalItem}
    (hItems : ∀ item ∈ items, ItemOf t item) (item : JournalItem)
    (semanticOriginal : Option UUID) :
    SameFacts (entryFacts catalog items lines item semanticOriginal)
      (entryFacts catalog' items lines item semanticOriginal) := by
  have hPostings : ∀ other ∈ items, ∀ p ∈ other.postings,
      p.accountId ∈ catalog.accounts.map (·.accountId)
        ∧ p.assetCode ∈ catalog.assets.map (·.assetCode) := by
    intro other hOther p hp
    obtain ⟨row, -, rfl⟩ := hItems other hOther
    obtain ⟨posting, hPosting, rfl⟩ := List.mem_map.1 hp
    rw [List.mem_insertionSort] at hPosting
    have hMem := (List.mem_filter.1 hPosting).1
    exact ⟨hCovers.accounts posting hMem, hCovers.assets posting hMem⟩
  refine ⟨rfl, fun accountId => ?_, fun assetCode => ?_,
    reportingFacts_kept hKept hCovers hAssigned _,
    reportingFacts_kept hKept hCovers hAssigned _, rfl⟩
  · have hFilter := fun accounts : List AccountFact => find?_filter_key
      (·.accountId) accounts (fun id => items.any fun other =>
        other.postings.any fun p => p.accountId = id) accountId
    unfold accountFact? entryFacts
    rw [hFilter, hFilter]
    split_ifs with hPosted
    · simp only [List.any_eq_true, decide_eq_true_eq] at hPosted
      obtain ⟨other, hOther, p, hp, rfl⟩ := hPosted
      exact hKept.accounts _ (accountFact?_isSome.2 (hPostings other hOther p hp).1)
    · rfl
  · have hFilter := fun assets : List AssetFact => find?_filter_key
      (·.assetCode) assets (fun code => items.any fun other =>
        other.postings.any fun p => p.assetCode = code) assetCode
    unfold assetFact? entryFacts
    rw [hFilter, hFilter]
    split_ifs with hPosted
    · simp only [List.any_eq_true, decide_eq_true_eq] at hPosted
      obtain ⟨other, hOther, p, hp, rfl⟩ := hPosted
      exact hKept.assets _ (assetFact?_isSome.2 (hPostings other hOther p hp).2)
    · rfl

/-- The source event of a transaction is read back from the grown log. -/
theorem semanticOriginal_grown {more : List LedgerEventRecord}
    (hGrown : GrewBeyond asOf t t') (hHistory : JournalHistory (store.bookEvents bookId) t)
    (hMore : store'.bookEvents bookId = store.bookEvents bookId ++ more) {item : JournalItem}
    (hItem : ItemOf t item) :
    semanticOriginalTransactionId store' t' bookId item
      = semanticOriginalTransactionId store t bookId item := by
  obtain ⟨row, hRow, hItem⟩ := hItem
  have hId : item.transactionId = row.transaction.transactionId := by rw [hItem]; rfl
  obtain ⟨rows, hRows, hNew⟩ := hGrown.transactions
  have hTransaction : t'.transaction? item.transactionId
      = t.transaction? item.transactionId := by
    unfold SyncTables.transaction?
    rw [hRows, List.find?_append]
    refine Option.or_of_isSome ?_
    rw [List.find?_isSome]
    exact ⟨row.transaction, hRow, by simp [hId]⟩
  have hFound : ((t.transaction? item.transactionId).bind fun transaction =>
        (store'.bookEvents bookId).find? fun e => e.eventId = transaction.sourceEventId)
      = (t.transaction? item.transactionId).bind fun transaction =>
        (store.bookEvents bookId).find? fun e => e.eventId = transaction.sourceEventId := by
    cases hSome : t.transaction? item.transactionId with
    | none => rfl
    | some transaction =>
        rw [Option.bind_some, Option.bind_some, hMore, List.find?_append]
        refine Option.or_of_isSome ?_
        obtain ⟨e, he, hKey⟩ :=
          hHistory.source_of_transaction (List.mem_of_find?_eq_some hSome)
        rw [List.find?_isSome]
        have hSource : e.eventId = transaction.sourceEventId :=
          LedgerEventRecord.eventId_of_transactionKey? hKey
        exact ⟨e, he, decide_eq_true hSource⟩
  unfold semanticOriginalTransactionId
  rw [hTransaction, hFound]

end Facts

/-! ## The view of an entry -/

def AccountDisplay.anonymous (display : AccountDisplay) : AccountDisplay :=
  { display with displayName := "" }

/-- A view without the names of accounts and the narrative. -/
def EverydayEntryView.anonymous (view : EverydayEntryView) : EverydayEntryView :=
  { view with
    sourceAccount := view.sourceAccount.map (·.anonymous)
    targetAccount := view.targetAccount.map (·.anonymous)
    paymentAccount := view.paymentAccount.map (·.anonymous)
    narrative := ⟨.absent, none, none⟩ }

/-- The views agree, up to names and narratives. -/
def SameView (view view' : EverydayEntryView) : Prop :=
  view'.anonymous = view.anonymous

section Views

variable {facts facts' : EntryFacts} {accounts accounts' : List AccountFact}
  {assets assets' : List AssetFact}

theorem transactionAmount_congr
    (h : ∀ assetCode, assetFact? assets' assetCode = assetFact? assets assetCode)
    (postings : List JournalPosting) :
    transactionAmount postings assets' = transactionAmount postings assets := by
  unfold transactionAmount
  simp only [h]

theorem allocations_congr
    (h : ∀ assetCode, assetFact? assets' assetCode = assetFact? assets assetCode)
    (lines : List ReportingFact) : allocations assets' lines = allocations assets lines := by
  induction lines with
  | nil => rfl
  | cons line rest ih =>
      rw [allocations, allocations, h, ih]

theorem SameFacts.categoryAllocations (h : SameFacts facts facts') (kind : EverydayEntryKind) :
    Ports.categoryAllocations facts' kind = Ports.categoryAllocations facts kind := by
  have hUnits : transactionUnits? facts'.journal.postings facts'.assets
      = transactionUnits? facts.journal.postings facts.assets := by
    unfold transactionUnits?
    simp only [h.journal, h.assets]
  have hLines : allocationLines facts' kind = allocationLines facts kind := by
    unfold allocationLines
    rw [h.reporting, h.inheritedReporting, hUnits]
  unfold Ports.categoryAllocations
  rw [hLines, h.journal, allocations_congr h.assets]

section Displays

variable (h : ∀ accountId, (accountFact? accounts' accountId).map (·.unnamed)
  = (accountFact? accounts accountId).map (·.unnamed))

include h

theorem isSome_congr (accountId : UUID) :
    (accountFact? accounts' accountId).isSome = (accountFact? accounts accountId).isSome := by
  have hSame := congrArg Option.isSome (h accountId)
  rwa [Option.isSome_map, Option.isSome_map] at hSame

theorem display_congr (accountId : UUID) :
    ((accountFact? accounts' accountId).map (·.display)).map (·.anonymous)
      = ((accountFact? accounts accountId).map (·.display)).map (·.anonymous) := by
  have hSame := congrArg (Option.map fun known => (⟨known.1, ""⟩ : AccountDisplay))
    (h accountId)
  rw [Option.map_map, Option.map_map] at hSame
  rw [Option.map_map, Option.map_map]
  exact hSame

/-- The one account of a side, which its type and role select. -/
theorem singleExternalAccount_congr (postings : List JournalPosting) (side : PostingSide) :
    (singleExternalAccount postings accounts' side).map (·.anonymous)
        = (singleExternalAccount postings accounts side).map (·.anonymous)
      ∧ (singleExternalAccount postings accounts' side).isSome
        = (singleExternalAccount postings accounts side).isSome := by
  have hSelected : ∀ accountId, ((accountFact? accounts' accountId).any fun account =>
        account.systemRole = none
          ∧ (account.accountType = .asset ∨ account.accountType = .liability))
      = (accountFact? accounts accountId).any fun account => account.systemRole = none
          ∧ (account.accountType = .asset ∨ account.accountType = .liability) := by
    intro accountId
    have hSame := congrArg (Option.any fun known : UUID × AccountType × Option String =>
      known.2.2 = none ∧ (known.2.1 = .asset ∨ known.2.1 = .liability)) (h accountId)
    rwa [Option.any_map, Option.any_map] at hSame
  unfold singleExternalAccount
  simp only [hSelected]
  split
  · refine ⟨display_congr h _, ?_⟩
    rw [Option.isSome_map, Option.isSome_map]
    exact isSome_congr h _
  · exact ⟨rfl, rfl⟩

/-- The displayed accounts, without their names. -/
theorem accountDisplays_congr (item : JournalItem) (kind : EverydayEntryKind) :
    (accountDisplays item kind accounts').source.map (·.anonymous)
        = (accountDisplays item kind accounts).source.map (·.anonymous)
      ∧ (accountDisplays item kind accounts').target.map (·.anonymous)
        = (accountDisplays item kind accounts).target.map (·.anonymous)
      ∧ (accountDisplays item kind accounts').payment.map (·.anonymous)
        = (accountDisplays item kind accounts).payment.map (·.anonymous)
      ∧ (accountDisplays item kind accounts').available
        = (accountDisplays item kind accounts).available := by
  unfold accountDisplays
  cases item.creditCardRelation with
  | some relation =>
      have hCard := display_congr h relation.cardAccountId
      have hCounter := display_congr h relation.counterAccountId
      have hCardKnown := isSome_congr h relation.cardAccountId
      have hCounterKnown := isSome_congr h relation.counterAccountId
      cases hIntent : relation.intent <;>
        simp only [hIntent, hCard, hCounter, Option.isSome_map, hCardKnown, hCounterKnown,
          Option.map_none, and_self]
  | none =>
      obtain ⟨hDebit, hDebitKnown⟩ := singleExternalAccount_congr h item.postings .debit
      obtain ⟨hCredit, hCreditKnown⟩ := singleExternalAccount_congr h item.postings .credit
      cases kind <;>
        simp only [hDebit, hCredit, hDebitKnown, hCreditKnown, Option.map_none, and_self]

end Displays

/-- Facts that agree are shown alike. -/
theorem buildView_paired (h : SameFacts facts facts')
    (narratives narratives' : UUID → Option NarrativeView) :
    Paired SameView (buildView narratives facts) (buildView narratives' facts') := by
  have hAmount := transactionAmount_congr h.assets facts.journal.postings
  have hOriginal : originalTransactionId facts' = originalTransactionId facts := by
    unfold originalTransactionId
    rw [h.journal, h.semanticOriginal]
  unfold buildView
  simp only [h.journal, h.reporting, h.inheritedReporting, hAmount, hOriginal,
    h.categoryAllocations]
  cases transactionAmount facts.journal.postings facts.assets with
  | error e => exact .error e
  | ok amount =>
      cases Ports.categoryAllocations facts (entryKind facts.journal
          (if facts.reporting = [] then facts.inheritedReporting else facts.reporting)) with
      | error e => exact .error e
      | ok shown =>
          obtain ⟨hSource, hTarget, hPayment, hAvailable⟩ :=
            accountDisplays_congr h.accounts facts.journal (entryKind facts.journal
              (if facts.reporting = [] then facts.inheritedReporting else facts.reporting))
          refine .ok ?_
          unfold SameView EverydayEntryView.anonymous
          simp only [hSource, hTarget, hPayment, hAvailable]

end Views

/-! ## The queries -/

/-- The later Book has the log of the earlier one and events past `asOf`, their
rows, and a catalog that kept what was there. -/
structure LaterBook (bookId : UUID) (asOf : Nat) (store store' : EventStoreTables)
    (s s' : EntryBook) (head head' : BookEventHeadRecord) : Prop where
  opened : store.bookHead? bookId = some head
  opened' : store'.bookHead? bookId = some head'
  position : asOf ≤ head.lastPosition
  advanced : head.lastPosition ≤ head'.lastPosition
  appended : ∃ more, store'.bookEvents bookId = store.bookEvents bookId ++ more
    ∧ ∀ e ∈ more, asOf < e.bookPosition
  history : JournalHistory (store.bookEvents bookId) s.tables
  keys : JournalKeys s.tables
  keys' : JournalKeys s'.tables
  grown : GrewBeyond asOf s.tables s'.tables
  covers : s.catalog.Covers s.tables (store.bookEvents bookId)
  kept : s.catalog.Kept s'.catalog

section Queries

variable {bookId : UUID} {asOf : Nat} {store store' : EventStoreTables} {s s' : EntryBook}
  {head head' : BookEventHeadRecord} {asked : Option Nat}

/-- The pages agree, up to names and narratives. -/
structure SamePage (shown shown' : EverydayEntryPage) : Prop where
  items : List.Forall₂ SameView shown.items shown'.items
  nextCursor : shown'.nextCursor = shown.nextCursor
  asOfBookPosition : shown'.asOfBookPosition = shown.asOfBookPosition

namespace LaterBook

theorem listJournalRows (h : LaterBook bookId asOf store store' s s' head head')
    (hAsked : asked.getD head.lastPosition = asOf) (limit : Nat) (cursor : Option String)
    (transactionId : Option UUID) :
    Ports.listJournalRows store' s'.tables bookId limit cursor (some asOf) transactionId
      = Ports.listJournalRows store s.tables bookId limit cursor asked transactionId :=
  listJournalRows_grown h.grown h.keys h.keys' h.opened h.opened' h.advanced hAsked h.position

theorem listCurrentReportingLines (h : LaterBook bookId asOf store store' s s' head head') :
    Ports.listCurrentReportingLines store' bookId asOf
      = Ports.listCurrentReportingLines store bookId asOf := by
  obtain ⟨more, hMore, hAfter⟩ := h.appended
  exact listCurrentReportingLines_grown hMore hAfter h.opened h.opened' h.position
    (h.position.trans h.advanced)

/-- The facts of items that were read before. -/
theorem loadFacts_paired (h : LaterBook bookId asOf store store' s s' head head')
    {items : List JournalItem} (hItems : ∀ item ∈ items, ItemOf s.tables item) :
    Paired (List.Forall₂ SameFacts)
      (loadFacts store s.tables s.catalog bookId items asOf)
      (loadFacts store' s'.tables s'.catalog bookId items asOf) := by
  obtain ⟨more, hMore, -⟩ := h.appended
  refine (Paired.of_eq h.listCurrentReportingLines.symm
    fun lines hLines => assigned_of_listed hLines).bind ?_
  rintro lines _ ⟨rfl, hAssigned⟩
  have hSame : List.Forall₂ (fun item item' => item' = item ∧ ItemOf s.tables item)
      items items :=
    List.forall₂_same.2 fun item hItem => ⟨rfl, hItems item hItem⟩
  refine Paired.mapM hSame ?_
  rintro _ item ⟨rfl, hItem⟩
  have hOriginal := semanticOriginal_grown h.grown h.history hMore hItem
  refine (Paired.of_eq (p := fun _ => True) hOriginal.symm fun _ _ => trivial).bind ?_
  rintro semanticOriginal _ ⟨rfl, -⟩
  exact .pure (sameFacts_entryFacts h.kept h.covers hAssigned hItems item semanticOriginal)

variable (narratives narratives' : UUID → Option NarrativeView)

theorem listEverydayEntries_paired (h : LaterBook bookId asOf store store' s s' head head')
    (hAsked : asked.getD head.lastPosition = asOf) (limit : Nat) (cursor : Option String) :
    Paired SamePage
      (listEverydayEntries store s.tables s.catalog narratives bookId limit cursor asked)
      (listEverydayEntries store' s'.tables s'.catalog narratives' bookId limit cursor
        (some asOf)) := by
  refine ((Paired.of_eq (h.listJournalRows hAsked limit cursor none).symm
    fun shown hShown => listJournalRows_items h.keys h.opened hShown).mapError _).bind ?_
  rintro shown _ ⟨rfl, hItems, hPosition⟩
  rw [hPosition, hAsked]
  refine ((h.loadFacts_paired hItems).mapError _).bind fun facts facts' hFacts => ?_
  refine ((Paired.mapM hFacts fun _ _ hSame =>
    buildView_paired hSame narratives narratives').mapError _).bind ?_
  intro views views' hViews
  exact .pure ⟨hViews, rfl, rfl⟩

theorem getJournalTransaction (h : LaterBook bookId asOf store store' s s' head head')
    (hAsked : asked.getD head.lastPosition = asOf) (transactionId : UUID) :
    Ports.getJournalTransaction store' s'.tables bookId transactionId (some asOf)
      = Ports.getJournalTransaction store s.tables bookId transactionId asked := by
  unfold Ports.getJournalTransaction
  rw [h.listJournalRows hAsked]

/-- The transaction that is returned is one of the tables. -/
theorem itemOf_getJournalTransaction
    (h : LaterBook bookId asOf store store' s s' head head') {transactionId : UUID}
    {item : JournalItem}
    (hItem : Ports.getJournalTransaction store s.tables bookId transactionId asked = .ok item) :
    ItemOf s.tables item := by
  simp only [Ports.getJournalTransaction, bind_eq_ok, fetch_eq_ok] at hItem
  obtain ⟨shown, hShown, hFirst⟩ := hItem
  exact (listJournalRows_items h.keys h.opened hShown).1 item (List.mem_of_head? hFirst)

theorem getEverydayEntry_paired (h : LaterBook bookId asOf store store' s s' head head')
    (hAsked : asked.getD head.lastPosition = asOf) (transactionId : UUID) :
    Paired SameView
      (getEverydayEntry store s.tables s.catalog narratives bookId transactionId asked)
      (getEverydayEntry store' s'.tables s'.catalog narratives' bookId transactionId
        (some asOf)) := by
  refine ((Paired.of_eq (h.getJournalTransaction hAsked transactionId).symm
    fun item hItem => h.itemOf_getJournalTransaction hItem).mapError _).bind ?_
  rintro item _ ⟨rfl, hItem⟩
  have hPosition : asked.or ((store.bookHead? bookId).map (·.lastPosition)) = some asOf := by
    rw [h.opened, ← hAsked]
    cases asked <;> rfl
  rw [hPosition, Option.some_or]
  have hItems : ∀ other ∈ [item], ItemOf s.tables other :=
    fun other hOther => List.mem_singleton.1 hOther ▸ hItem
  refine ((h.loadFacts_paired hItems).mapError _).bind ?_
  intro facts facts' hFacts
  refine (Paired.fetch_head hFacts _).bind fun first first' hFirst => ?_
  exact (buildView_paired hFirst narratives narratives').mapError _

end LaterBook

end Queries

/-! ## Over whole runs -/

section Runs

variable {bookId : UUID} {asOf : Nat} {store store' : EventStoreTables} {s s' : EntryBook}
  {head head' : BookEventHeadRecord} {actions further : List EntryBookAction}

/-- A Book that went on from an earlier state of it. -/
theorem laterBook_of_runs (hLog : AcceptedLog store bookId) (hLog' : AcceptedLog store' bookId)
    (hHead : store.bookHead? bookId = some head) (hHead' : store'.bookHead? bookId = some head')
    (hRun : Run (EntryBookStep store.events bookId) EntryBook.empty actions s)
    (hEvents : actions.filterMap (·.event?) = store.bookEvents bookId)
    (hFurther : Run (EntryBookStep store'.events bookId) s further s')
    (hEvents' : (actions ++ further).filterMap (·.event?) = store'.bookEvents bookId)
    (hAsOf : asOf ≤ head.lastPosition) :
    LaterBook bookId asOf store store' s s' head head' := by
  have hProjects := projects_of_run hRun
  have hCovers := covered_run hRun (hEvents ▸ hLog.distinct)
  rw [List.filterMap_append, hEvents] at hEvents'
  rw [hEvents] at hProjects hCovers
  have hBook := journalBook_run JournalBook.empty hProjects
  have hMore := projects_of_run hFurther
  have hNumbered := hLog'.numbered
  rw [← hEvents', numbered_append] at hNumbered
  have hLength := hLog.head head hHead
  have hAfter : ∀ e ∈ further.filterMap (·.event?), asOf < e.bookPosition := by
    intro e he
    have hLater := hNumbered.2
    unfold Numbered at hLater
    have hMem : e.bookPosition ∈ (further.filterMap (·.event?)).map (·.bookPosition) :=
      List.mem_map.2 ⟨e, he, rfl⟩
    rw [hLater, List.mem_range'_1] at hMem
    omega
  refine ⟨hHead, hHead', hAsOf, ?_, ⟨_, hEvents'.symm, hAfter⟩,
    journalHistory_run hLog.distinct hProjects, hBook.keys,
    (journalBook_run hBook hMore).keys, grewBeyond_run hMore hAfter, hCovers,
    kept_of_run hFurther⟩
  rw [hLength, hLog'.head head' hHead', ← hEvents', List.length_append]
  omega

/-- Whatever events are accepted and whatever catalog commands are carried out
after a read as of a position, the read gives the same again: the journal and the
reporting lines as they were, and the everyday entries up to the names of
accounts and the narratives.  The first read may leave the position out where it
is the head. -/
theorem asOfReads_unchanged (hLog : AcceptedLog store bookId)
    (hLog' : AcceptedLog store' bookId) (hHead : store.bookHead? bookId = some head)
    (hHead' : store'.bookHead? bookId = some head')
    (hRun : Run (EntryBookStep store.events bookId) EntryBook.empty actions s)
    (hEvents : actions.filterMap (·.event?) = store.bookEvents bookId)
    (hFurther : Run (EntryBookStep store'.events bookId) s further s')
    (hEvents' : (actions ++ further).filterMap (·.event?) = store'.bookEvents bookId)
    (hAsOf : asOf ≤ head.lastPosition) {asked : Option Nat}
    (hAsked : asked.getD head.lastPosition = asOf) :
    (∀ limit cursor, listJournal store' s'.tables bookId limit cursor (some asOf)
        = listJournal store s.tables bookId limit cursor asked)
    ∧ (∀ transactionId,
        getJournalTransaction store' s'.tables bookId transactionId (some asOf)
          = getJournalTransaction store s.tables bookId transactionId asked)
    ∧ listCurrentReportingLines store' bookId asOf
        = listCurrentReportingLines store bookId asOf
    ∧ (∀ narratives narratives' limit cursor, Paired SamePage
        (listEverydayEntries store s.tables s.catalog narratives bookId limit cursor asked)
        (listEverydayEntries store' s'.tables s'.catalog narratives' bookId limit cursor
          (some asOf)))
    ∧ ∀ narratives narratives' transactionId, Paired SameView
        (getEverydayEntry store s.tables s.catalog narratives bookId transactionId asked)
        (getEverydayEntry store' s'.tables s'.catalog narratives' bookId transactionId
          (some asOf)) := by
  have hLater := laterBook_of_runs hLog hLog' hHead hHead' hRun hEvents hFurther hEvents' hAsOf
  exact ⟨fun limit cursor => hLater.listJournalRows hAsked limit cursor none,
    fun transactionId => hLater.getJournalTransaction hAsked transactionId,
    hLater.listCurrentReportingLines,
    fun narratives narratives' limit cursor =>
      hLater.listEverydayEntries_paired narratives narratives' hAsked limit cursor,
    fun narratives narratives' transactionId =>
      hLater.getEverydayEntry_paired narratives narratives' hAsked transactionId⟩

end Runs

/-! ### A transaction that is reversed after it was read -/

def sampleSavings : AccountFact := ⟨1, .asset, none, "Savings"⟩

def sampleFood : AccountFact := ⟨2, .expense, none, "Food"⟩

/-- The rows of the two accounts and their asset. -/
def sampleEntryCatalog : EntryCatalog where
  accounts := [sampleSavings, sampleFood]
  assets := [⟨sampleAsset, 2⟩]
  categories := [⟨5, "Food", none⟩]
  categoryVersions := [⟨5, 6, "Food", none⟩]

/-- The same rows under another name of an account. -/
theorem sampleEntryCatalog_lists :
    sampleEntryCatalog.Lists sampleCatalog
      ∧ (sampleEntryCatalog.change (.accountRenamed 1 "Deposits")).Lists sampleCatalog := by
  refine ⟨⟨by decide, fun identity hMem => ?_⟩, ⟨by decide, fun identity hMem => ?_⟩⟩
  · rw [List.mem_singleton.1 hMem]
    rfl
  · rw [List.mem_singleton.1 hMem]
    rfl

/-- The projector's step on the tables of an entry Book. -/
theorem entryBookStep_projected {ledger : List LedgerEventRecord} {t : SyncTables}
    {stored : LedgerEventRecord} {catalog : EntryCatalog} (hMem : stored ∈ ledger)
    (hBook : stored.bookId = 1) (hLists : catalog.Lists sampleCatalog)
    (hOk : (applyStored sampleCatalog ledger stored t).isOk = true) :
    EntryBookStep ledger 1 ⟨t, catalog⟩ (.projected stored)
      ⟨projected sampleCatalog ledger t stored, catalog⟩ := by
  cases hApply : applyStored sampleCatalog ledger stored t with
  | error e =>
      rw [hApply] at hOk
      exact nomatch hOk
  | ok accepted =>
      obtain ⟨result, t'⟩ := accepted
      unfold projected
      rw [hApply]
      exact .projected hMem hBook hLists hApply

def sampleEntryActions : List EntryBookAction :=
  [.changed (.assetCreated ⟨sampleAsset, 2⟩), .changed (.accountCreated sampleSavings),
    .changed (.accountCreated sampleFood), .changed (.categoryCreated ⟨5, "Food", none⟩ 6),
    .projected samplePosted]

/-- A reversal, a new name for an account, and a back-dated transaction. -/
def sampleEntryFurther : List EntryBookAction :=
  [.projected sampleReversed, .changed (.accountRenamed 1 "Deposits"),
    .projected sampleBackdated]

def sampleEntryBook : EntryBook :=
  ⟨projected sampleCatalog [samplePosted] SyncTables.empty samplePosted, sampleEntryCatalog⟩

/-- The log after the further events. -/
def sampleEntryLog : List LedgerEventRecord := [samplePosted, sampleReversed, sampleBackdated]

def sampleEntryBookLater : EntryBook :=
  ⟨projected sampleCatalog sampleEntryLog
      (projected sampleCatalog sampleEntryLog sampleEntryBook.tables sampleReversed)
      sampleBackdated,
    sampleEntryCatalog.change (.accountRenamed 1 "Deposits")⟩

theorem sampleEntry_run :
    Run (EntryBookStep [samplePosted] 1) EntryBook.empty sampleEntryActions sampleEntryBook :=
  .cons (.changed (by simp [EntryCatalog.Allows]))
    (.cons (.changed (by simp [EntryCatalog.Allows, EntryCatalog.change]))
      (.cons (.changed (by simp [EntryCatalog.Allows, EntryCatalog.change, sampleSavings,
          sampleFood]))
        (.cons (.changed (by simp [EntryCatalog.Allows, EntryCatalog.change]))
          (.cons (entryBookStep_projected (by decide) rfl sampleEntryCatalog_lists.1 (by decide))
            (.nil _)))))

theorem sampleEntry_further :
    Run (EntryBookStep sampleEntryLog 1) sampleEntryBook sampleEntryFurther
      sampleEntryBookLater :=
  .cons (entryBookStep_projected (by decide) rfl sampleEntryCatalog_lists.1 (by decide))
    (.cons (.changed ⟨sampleSavings, by decide, by decide, by decide, by decide⟩)
      (.cons (entryBookStep_projected (by decide) rfl sampleEntryCatalog_lists.2 (by decide))
        (.nil _)))

theorem asOfReads_unchanged_sample :
    (listJournal (sampleRead sampleEntryLog).store sampleEntryBookLater.tables 1 10 none (some 1)
        = listJournal (sampleRead [samplePosted]).store sampleEntryBook.tables 1 10 none none)
      ∧ ((listJournal (sampleRead [samplePosted]).store sampleEntryBook.tables 1 10 none
          none).toOption.map fun shown => shown.items.map (·.transactionId)) = some [10] := by
  have hLog : AcceptedLog (sampleRead [samplePosted]).store 1 := by
    refine ⟨by decide, rfl, by decide, by decide, ?_⟩
    rintro head ⟨⟩
    rfl
  obtain ⟨hJournal, -⟩ := @asOfReads_unchanged 1 1 _ _ _ _ ⟨1, 1, 1⟩ ⟨1, 3, 1⟩ _ _ hLog
    sampleRead_three.log rfl rfl sampleEntry_run rfl sampleEntry_further rfl le_rfl none rfl
  exact ⟨hJournal 10 none, by decide⟩

end TrackAnywhere.Ports
