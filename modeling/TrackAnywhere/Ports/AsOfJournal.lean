import TrackAnywhere.Ports.CardRefunds
import TrackAnywhere.Ports.JournalQueries

/-!
# The journal as of an earlier position

The projections hold the newest state only, and a read as of a position leaves
the later rows out.  It can leave them all out because every row that an event
adds to the tables of the journal names the transaction of that event, which is
new and has the position of the event.
-/

namespace TrackAnywhere.Ports

open TrackAnywhere.Verified
open TrackAnywhere.Verified.Checked
open TrackAnywhere.Verified.ChainedLog

/-! ## Rows of later transactions -/

/-- `t'` has the rows of `t`, and further rows of transactions past `asOf`. -/
structure GrewBeyond (asOf : Nat) (t t' : SyncTables) : Prop where
  transactions : ∃ rows, t'.journalTransactions = t.journalTransactions ++ rows
    ∧ ∀ row ∈ rows, asOf < row.sourcePosition
      ∧ row.transactionId ∉ t.journalTransactions.map (·.transactionId)
  postings : ∃ rows, t'.journalPostings = t.journalPostings ++ rows
    ∧ ∀ row ∈ rows, row.transactionId ∉ t.journalTransactions.map (·.transactionId)
  reversals : ∃ rows, t'.transactionReversals = t.transactionReversals ++ rows
    ∧ ∀ row ∈ rows,
      row.reversalTransactionId ∉ t.journalTransactions.map (·.transactionId)
  cards : ∃ rows, t'.creditCardTransactions = t.creditCardTransactions ++ rows
    ∧ ∀ row ∈ rows, row.transactionId ∉ t.journalTransactions.map (·.transactionId)

section Growth

variable {asOf : Nat} {t t' t'' : SyncTables}

theorem GrewBeyond.refl (t : SyncTables) : GrewBeyond asOf t t where
  transactions := ⟨[], (List.append_nil _).symm, nofun⟩
  postings := ⟨[], (List.append_nil _).symm, nofun⟩
  reversals := ⟨[], (List.append_nil _).symm, nofun⟩
  cards := ⟨[], (List.append_nil _).symm, nofun⟩

/-- Ids stay in use. -/
theorem GrewBeyond.used (h : GrewBeyond asOf t t') {transactionId : UUID}
    (hNew : transactionId ∉ t'.journalTransactions.map (·.transactionId)) :
    transactionId ∉ t.journalTransactions.map (·.transactionId) := by
  obtain ⟨rows, hRows, -⟩ := h.transactions
  rw [hRows, List.map_append, List.mem_append, not_or] at hNew
  exact hNew.1

/-- Rows that are appended one after the other. -/
private theorem appended_trans {ρ : Type} {p q : ρ → Prop} {xs ys zs : List ρ}
    (hFirst : ∃ rows, ys = xs ++ rows ∧ ∀ row ∈ rows, p row)
    (hNext : ∃ rows, zs = ys ++ rows ∧ ∀ row ∈ rows, q row) (hWeaker : ∀ row, q row → p row) :
    ∃ rows, zs = xs ++ rows ∧ ∀ row ∈ rows, p row := by
  obtain ⟨first, rfl, hFirstRows⟩ := hFirst
  obtain ⟨next, rfl, hNextRows⟩ := hNext
  refine ⟨first ++ next, List.append_assoc _ _ _, fun row hRow => ?_⟩
  rcases List.mem_append.1 hRow with hRow | hRow
  · exact hFirstRows row hRow
  · exact hWeaker row (hNextRows row hRow)

theorem GrewBeyond.trans (h : GrewBeyond asOf t t') (h' : GrewBeyond asOf t' t'') :
    GrewBeyond asOf t t'' where
  transactions := appended_trans h.transactions h'.transactions
    fun _ hRow => ⟨hRow.1, h.used hRow.2⟩
  postings := appended_trans h.postings h'.postings fun _ hRow => h.used hRow
  reversals := appended_trans h.reversals h'.reversals fun _ hRow => h.used hRow
  cards := appended_trans h.cards h'.cards fun _ hRow => h.used hRow

end Growth

/-! ## One event -/

section Events

variable {catalog : Catalog} {ledger events : List LedgerEventRecord} {bookId : UUID}
  {stored : LedgerEventRecord} {asOf : Nat} {t t' : SyncTables}

/-- The card rows that an event adds are those of its transaction. -/
theorem cards_of_apply {payload : EventPayload}
    (h : applyPayload catalog ledger stored payload t = .ok t') :
    ∃ rows, t'.creditCardTransactions = t.creditCardTransactions ++ rows
      ∧ ∀ row ∈ rows, row.transactionId ∉ t.journalTransactions.map (·.transactionId) := by
  by_cases hCard : ∃ p, payload = .creditCardTransactionRecorded p
  · obtain ⟨p, rfl⟩ := hCard
    obtain ⟨row, -, -, hId, -, -, -, -, hFresh, -, -, -, hRows, -⟩ :=
      applyCreditCardRecorded_ok h
    refine ⟨[row], hRows, fun other hOther => ?_⟩
    rw [List.mem_singleton.1 hOther, hId]
    exact hFresh
  · rw [creditCardTransactions_frame h fun p hSame => hCard ⟨p, hSame⟩]
    exact ⟨[], (List.append_nil _).symm, nofun⟩

/-- The transaction of a reversal row is the one that its payload posts. -/
theorem reversalRow_fact {payload : EventPayload} {row : TransactionReversalRecord}
    (h : payload.reversalRow stored = some row) :
    ∃ postings, payload.financialFact = some (row.reversalTransactionId, postings) := by
  cases payload with
  | journalTransactionReversed p =>
      cases h
      exact ⟨p.inversePostings, rfl⟩
  | _ => exact nomatch h

theorem reversalRow_eq_none {payload : EventPayload} (hFact : payload.financialFact = none) :
    payload.reversalRow stored = none := by
  cases hRow : payload.reversalRow stored with
  | none => rfl
  | some row =>
      obtain ⟨postings, hSome⟩ := reversalRow_fact hRow
      exact nomatch hFact.symm.trans hSome

/-- What an event adds belongs to its own transaction, at its own position. -/
theorem grewBeyond_of_apply {payload : EventPayload}
    (h : applyPayload catalog ledger stored payload t = .ok t')
    (hLater : asOf < stored.bookPosition) : GrewBeyond asOf t t' := by
  have hCards := cards_of_apply h
  obtain ⟨hJournal, hReversals, -⟩ := applyPayload_journalEffect h
  cases hFact : payload.financialFact with
  | none =>
      rw [hFact] at hJournal
      have hRow := @reversalRow_eq_none stored payload hFact
      rw [hRow] at hReversals
      exact ⟨⟨[], by rw [hJournal.transactions, List.append_nil], nofun⟩,
        ⟨[], by rw [hJournal.postings, List.append_nil], nofun⟩,
        ⟨[], hReversals, nofun⟩, hCards⟩
  | some fact =>
      rw [hFact] at hJournal
      obtain ⟨row, hKey, hRows⟩ := hJournal.transactions
      have hId : row.transactionId = fact.1 := congrArg TransactionKey.transactionId hKey
      have hPosition : row.sourcePosition = stored.bookPosition :=
        congrArg TransactionKey.sourcePosition hKey
      refine ⟨⟨[row], hRows, fun other hOther => ?_⟩,
        ⟨_, hJournal.postings, fun other hOther => ?_⟩,
        ⟨_, hReversals, fun other hOther => ?_⟩, hCards⟩
      · rw [List.mem_singleton.1 hOther, hId, hPosition]
        exact ⟨hLater, hJournal.fresh⟩
      · obtain ⟨posting, -, rfl⟩ := List.mem_map.1 hOther
        exact hJournal.fresh
      · obtain ⟨postings, hSome⟩ := reversalRow_fact (Option.mem_toList.1 hOther)
        rw [hFact] at hSome
        have hId : fact.1 = other.reversalTransactionId :=
          congrArg Prod.fst (Option.some.inj hSome)
        rw [← hId]
        exact hJournal.fresh

theorem grewBeyond_step (h : Projects ledger bookId t stored t')
    (hLater : asOf < stored.bookPosition) : GrewBeyond asOf t t' := by
  obtain ⟨-, -, catalog, result, hApply⟩ := h
  rcases applyStored_cases hApply with ⟨rfl, -, -⟩ | ⟨contract, -, -, hPayload⟩
  · exact .refl t'
  · have hGrown := grewBeyond_of_apply hPayload hLater
    exact ⟨hGrown.transactions, hGrown.postings, hGrown.reversals, hGrown.cards⟩

/-- The keys of the joins, with the transactions of the reversals. -/
structure JournalBook (t : SyncTables) : Prop where
  keys : JournalKeys t
  posted : ∀ row ∈ t.transactionReversals,
    row.reversalTransactionId ∈ t.journalTransactions.map (·.transactionId)

theorem JournalBook.empty : JournalBook SyncTables.empty :=
  ⟨⟨List.nodup_nil, List.nodup_nil, List.nodup_nil⟩, nofun⟩

/-- A reversal comes with its transaction, which is new. -/
theorem JournalBook.apply (hBook : JournalBook t) {payload : EventPayload}
    (h : applyPayload catalog ledger stored payload t = .ok t')
    (hOnce : (t'.transactionReversals.map (·.originalTransactionId)).Nodup) :
    JournalBook t' := by
  obtain ⟨hJournal, hReversals, -⟩ := applyPayload_journalEffect h
  cases hFact : payload.financialFact with
  | none =>
      rw [hFact] at hJournal
      have hRow := @reversalRow_eq_none stored payload hFact
      rw [hRow, Option.toList_none, List.append_nil] at hReversals
      refine ⟨⟨?_, hOnce, ?_⟩, ?_⟩
      · rw [hJournal.transactions]
        exact hBook.keys.transactionIds
      · rw [hReversals]
        exact hBook.keys.reversals
      · rw [hReversals, hJournal.transactions]
        exact hBook.posted
  | some fact =>
      rw [hFact] at hJournal
      obtain ⟨row, hKey, hRows⟩ := hJournal.transactions
      have hId : row.transactionId = fact.1 := congrArg TransactionKey.transactionId hKey
      have hNew : ∀ added ∈ (payload.reversalRow stored).toList,
          added.reversalTransactionId = fact.1 := by
        intro added hAdded
        obtain ⟨postings, hSome⟩ := reversalRow_fact (Option.mem_toList.1 hAdded)
        rw [hFact] at hSome
        exact (congrArg Prod.fst (Option.some.inj hSome)).symm
      refine ⟨⟨?_, hOnce, ?_⟩, ?_⟩
      · rw [hRows, List.map_append, List.map_singleton, hId]
        exact List.nodup_append_comm.1
          (List.nodup_cons.2 ⟨hJournal.fresh, hBook.keys.transactionIds⟩)
      · rw [hReversals, List.map_append, List.nodup_append]
        refine ⟨hBook.keys.reversals, ?_, ?_⟩
        · cases payload.reversalRow stored with
          | none => exact List.nodup_nil
          | some added => exact List.nodup_singleton _
        · intro a ha b hb hSame
          obtain ⟨old, hOld, rfl⟩ := List.mem_map.1 ha
          obtain ⟨added, hAdded, rfl⟩ := List.mem_map.1 hb
          exact hJournal.fresh (hNew added hAdded ▸ hSame ▸ hBook.posted old hOld)
      · intro reversal hMem
        rw [hReversals, List.mem_append] at hMem
        rw [hRows, List.map_append, List.mem_append, List.map_singleton, hId]
        rcases hMem with hOld | hAdded
        · exact .inl (hBook.posted reversal hOld)
        · exact .inr (List.mem_singleton.2 (hNew reversal hAdded))

theorem journalBook_step (hBook : JournalBook t) (hStep : Projects ledger bookId t stored t') :
    JournalBook t' := by
  have hOnce := reversedOnce_step hBook.keys.originals hStep
  obtain ⟨-, -, catalog, result, hApply⟩ := hStep
  rcases applyStored_cases hApply with ⟨rfl, -, -⟩ | ⟨contract, -, -, hPayload⟩
  · exact hBook
  · exact JournalBook.apply (t := t.mark stored.eventId)
      ⟨⟨hBook.keys.transactionIds, hBook.keys.originals, hBook.keys.reversals⟩, hBook.posted⟩
      hPayload hOnce

theorem journalBook_run (hBook : JournalBook t)
    (hRun : Run (Projects ledger bookId) t events t') : JournalBook t' :=
  Run.invariant (I := JournalBook) hBook (fun _ _ _ hI hStep => journalBook_step hI hStep) hRun

/-- Later events only add rows of later transactions. -/
theorem grewBeyond_run (h : Run (Projects ledger bookId) t events t')
    (hLater : ∀ e ∈ events, asOf < e.bookPosition) : GrewBeyond asOf t t' := by
  induction h with
  | nil t => exact .refl t
  | cons hStep _ ih =>
      exact (grewBeyond_step hStep (hLater _ List.mem_cons_self)).trans
        (ih fun e he => hLater e (List.mem_cons_of_mem _ he))

end Events

/-! ## The read -/

section Read

variable {asOf : Nat} {t t' : SyncTables}

namespace GrewBeyond

/-- The visible transactions. -/
theorem visible (h : GrewBeyond asOf t t') :
    t'.journalTransactions.filter (·.sourcePosition ≤ asOf)
      = t.journalTransactions.filter (·.sourcePosition ≤ asOf) := by
  obtain ⟨rows, hRows, hNew⟩ := h.transactions
  have hNone : rows.filter (·.sourcePosition ≤ asOf) = [] := by
    rw [List.filter_eq_nil_iff]
    intro row hRow
    have hPosition := (hNew row hRow).1
    simp only [decide_eq_true_eq]
    omega
  rw [hRows, List.filter_append, hNone, List.append_nil]

/-- The rows of a transaction that was there before. -/
private theorem filter_grown {ρ : Type} {column : ρ → UUID} {xs ys : List ρ}
    {used : List UUID} (h : ∃ rows, ys = xs ++ rows ∧ ∀ row ∈ rows, column row ∉ used)
    {key : UUID} (hKey : key ∈ used) :
    ys.filter (fun row => column row = key) = xs.filter (fun row => column row = key) := by
  obtain ⟨rows, rfl, hNew⟩ := h
  have hNone : rows.filter (fun row => column row = key) = [] := by
    rw [List.filter_eq_nil_iff]
    intro row hRow hSame
    exact hNew row hRow (of_decide_eq_true hSame ▸ hKey)
  rw [List.filter_append, hNone, List.append_nil]

variable {transactionId : UUID}

/-- The original that a visible transaction reverses. -/
theorem reverses? (h : GrewBeyond asOf t t')
    (hOld : transactionId ∈ t.journalTransactions.map (·.transactionId)) :
    t'.reverses? asOf transactionId = t.reverses? asOf transactionId := by
  have hRow : (t'.transactionReversals.find? fun r => r.reversalTransactionId = transactionId)
      = t.transactionReversals.find? fun r => r.reversalTransactionId = transactionId := by
    rw [← List.head?_filter, ← List.head?_filter, filter_grown h.reversals hOld]
  unfold SyncTables.reverses?
  rw [hRow, h.visible]

/-- A later reversal is not visible. -/
theorem reversedBy? (h : GrewBeyond asOf t t') :
    t'.reversedBy? asOf transactionId = t.reversedBy? asOf transactionId := by
  obtain ⟨rows, hRows, hNew⟩ := h.reversals
  unfold SyncTables.reversedBy?
  rw [hRows, List.find?_append, h.visible]
  cases hFound : t.transactionReversals.find? fun r =>
      r.originalTransactionId = transactionId with
  | some row => rfl
  | none =>
      rw [Option.none_or]
      cases hLater : rows.find? fun r => r.originalTransactionId = transactionId with
      | none => rfl
      | some row =>
          have hHidden : (t.journalTransactions.filter (·.sourcePosition ≤ asOf)).find?
              (fun r => r.transactionId = row.reversalTransactionId) = none := by
            rw [List.find?_eq_none]
            intro r hr hSame
            refine hNew row (List.mem_of_find?_eq_some hLater) ?_
            rw [← of_decide_eq_true hSame]
            exact List.mem_map.2 ⟨r, (List.mem_filter.1 hr).1, rfl⟩
          rw [Option.bind_some, hHidden]
          rfl

/-- The joined rows, where each transaction is one. -/
theorem journalRows (h : GrewBeyond asOf t t') (hKeys : JournalKeys t)
    (hKeys' : JournalKeys t') : Ports.journalRows t' asOf = Ports.journalRows t asOf := by
  rw [journalRows_eq hKeys, journalRows_eq hKeys', h.visible]
  refine List.map_congr_left fun transaction hMem => ?_
  have hOld := List.mem_map_of_mem (f := (·.transactionId)) (List.mem_filter.1 hMem).1
  unfold SyncTables.journalRow
  rw [h.reversedBy?, h.reverses? hOld]

/-- The item of a row whose transaction was there before. -/
theorem item (h : GrewBeyond asOf t t') {row : JournalRow}
    (hOld : row.transaction.transactionId ∈ t.journalTransactions.map (·.transactionId)) :
    row.item t' = row.item t := by
  unfold JournalRow.item
  rw [filter_grown h.postings hOld, filter_grown h.cards hOld]

end GrewBeyond

/-- A joined row shows a transaction of the tables. -/
theorem transaction_of_mem_journalRows (hKeys : JournalKeys t) {row : JournalRow}
    (hRow : row ∈ journalRows t asOf) : row.transaction ∈ t.journalTransactions := by
  rw [journalRows_eq hKeys] at hRow
  obtain ⟨transaction, hMem, rfl⟩ := List.mem_map.1 hRow
  exact (List.mem_filter.1 hMem).1

/-- The item shows a transaction of the tables. -/
def ItemOf (t : SyncTables) (item : JournalItem) : Prop :=
  ∃ row : JournalRow, row.transaction ∈ t.journalTransactions ∧ item = row.item t

variable {store store' : EventStoreTables} {bookId : UUID} {limit : Nat}
  {cursor : Option String} {asked : Option Nat} {transactionId : Option UUID}
  {head head' : BookEventHeadRecord}

/-- A read as of a position is the same on tables that grew beyond it. -/
theorem listJournalRows_grown (h : GrewBeyond asOf t t') (hKeys : JournalKeys t)
    (hKeys' : JournalKeys t') (hHead : store.bookHead? bookId = some head)
    (hHead' : store'.bookHead? bookId = some head')
    (hLater : head.lastPosition ≤ head'.lastPosition)
    (hAsked : asked.getD head.lastPosition = asOf) (hAsOf : asOf ≤ head.lastPosition) :
    listJournalRows store' t' bookId limit cursor (some asOf) transactionId
      = listJournalRows store t bookId limit cursor asked transactionId := by
  have hItems : ∀ rows : List JournalRow, (∀ row ∈ rows, row ∈ journalRows t asOf) →
      rows.map (·.item t') = rows.map (·.item t) := by
    intro rows hRows
    refine List.map_congr_left fun row hRow => h.item ?_
    exact List.mem_map_of_mem (transaction_of_mem_journalRows hKeys (hRows row hRow))
  unfold listJournalRows
  simp only [hHead, hHead', fetch, bind, Except.bind, hAsked, Option.getD_some,
    h.journalRows hKeys hKeys', require, if_pos hAsOf, if_pos (hAsOf.trans hLater)]
  split_ifs with hLimit
  · cases decodeAfter cursor with
    | error e => rfl
    | ok after =>
        dsimp only
        rw [hItems]
        intro row hRow
        have hSelected := List.mem_of_mem_take (List.mem_of_mem_take hRow)
        rw [List.mem_insertionSort] at hSelected
        exact (List.mem_filter.1 hSelected).1
  · rfl

/-- A page shows transactions of the tables, as of the position that was asked for. -/
theorem listJournalRows_items (hKeys : JournalKeys t)
    (hHead : store.bookHead? bookId = some head) {shown : JournalPage}
    (h : listJournalRows store t bookId limit cursor asked transactionId = .ok shown) :
    (∀ item ∈ shown.items, ItemOf t item)
      ∧ shown.asOfBookPosition = asked.getD head.lastPosition := by
  simp only [listJournalRows, bind_eq_ok, require_eq_ok, fetch_eq_ok, pure_eq_ok,
    exists_const] at h
  obtain ⟨-, found, hFound, -, after, -, rfl⟩ := h
  rw [hHead] at hFound
  obtain rfl := Option.some.inj hFound
  refine ⟨fun item hItem => ?_, rfl⟩
  obtain ⟨row, hRow, rfl⟩ := List.mem_map.1 hItem
  have hSelected := List.mem_of_mem_take (List.mem_of_mem_take hRow)
  rw [List.mem_insertionSort] at hSelected
  exact ⟨row, transaction_of_mem_journalRows hKeys (List.mem_filter.1 hSelected).1, rfl⟩

end Read

end TrackAnywhere.Ports
