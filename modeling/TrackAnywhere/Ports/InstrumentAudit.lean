import TrackAnywhere.Ports.InstrumentSafety
import TrackAnywhere.Verified.ChainedLog
import TrackAnywhere.Verified.Run

/-!
# The receipts of card requests

Every accepted creation or mutation of a card leaves a receipt: the request, its
actor, and the view of the card before and after.  A view shows the names of the
settlement accounts, which the catalog may change in between; apart from those, it is a
reading of the card and its bindings, which no other request touches.

The system below is a Book under calls of any clients in any order, each one
transaction under the lock of the Book, with changes of the accounts in between.  It
starts from cards that may be older than the receipts.
-/

namespace TrackAnywhere.Ports

open TrackAnywhere.Verified
open TrackAnywhere.Verified.Checked
open TrackAnywhere.Verified.ChainedLog

/-! ## Calls -/

/-- The request id under which a command leaves its receipt. -/
def InstrumentCommand.requestId : InstrumentCommand → UUID
  | .create command => command.instrumentId
  | .mutate command => command.requestId

/-- The card a command is about. -/
def InstrumentCommand.instrumentId : InstrumentCommand → UUID
  | .create command => command.instrumentId
  | .mutate command => command.instrumentId

/-- The view that a call returns, and the tables it leaves. -/
def callInstrument (uuid5 : UUID → String → UUID) (moment : InstrumentMoment)
    (command : InstrumentCommand) (t : InstrumentTables) :
    Except InstrumentError (PaymentInstrumentView × InstrumentTables) :=
  match command with
  | .create command => createPaymentInstrument moment command t
  | .mutate command => do
      let accepted ← mutatePaymentInstrument uuid5 moment command t
      pure (accepted.1.1, accepted.2)

/-- One Book with its accounts. -/
structure AuditedBook where
  accounts : List CardAccountRecord
  tables : InstrumentTables

structure InstrumentCall where
  actorSubjectId : String
  catalogWrite : Bool
  now : Instant
  command : InstrumentCommand

def InstrumentCall.moment (call : InstrumentCall) (accounts : List CardAccountRecord) :
    InstrumentMoment where
  actorSubjectId := call.actorSubjectId
  catalogWrite := call.catalogWrite
  accounts := accounts
  now := call.now

/-- Accounts are renamed, closed and reopened, and added, but never removed. -/
inductive AuditStep (uuid5 : UUID → String → UUID) :
    AuditedBook → Option InstrumentCall → AuditedBook → Prop
  | served {s : AuditedBook} {call : InstrumentCall} {view : PaymentInstrumentView}
      {t : InstrumentTables}
      (h : callInstrument uuid5 (call.moment s.accounts) call.command s.tables
        = .ok (view, t)) :
      AuditStep uuid5 s (some call) { s with tables := t }
  | refused {s : AuditedBook} {call : InstrumentCall} {error : InstrumentError}
      (h : callInstrument uuid5 (call.moment s.accounts) call.command s.tables
        = .error error) :
      AuditStep uuid5 s (some call) s
  | accounts {s : AuditedBook} (accounts : List CardAccountRecord)
      (h : ∀ account ∈ s.accounts, ∃ account' ∈ accounts,
        account'.accountId = account.accountId) :
      AuditStep uuid5 s none { s with accounts := accounts }

/-! ## Views without names -/

def PaymentInstrumentBindingView.withoutName (self : PaymentInstrumentBindingView) :
    PaymentInstrumentBindingView :=
  { self with settlementAccountName := "" }

def PaymentInstrumentView.withoutNames (self : PaymentInstrumentView) :
    PaymentInstrumentView where
  instrument := self.instrument
  bindings := self.bindings.map PaymentInstrumentBindingView.withoutName
  single := self.single.map PaymentInstrumentBindingView.withoutName

/-- A binding as a view shows it, under a name. -/
def PaymentInstrumentBindingRecord.view (b : PaymentInstrumentBindingRecord)
    (instrument : PaymentInstrumentRecord) (name : String) : PaymentInstrumentBindingView where
  bindingId := b.bindingId
  assetCode := b.assetCode
  settlementPolicy := instrument.settlementPolicy
  settlementAccountId := b.accountId
  settlementAccountName := name
  bindingRole := b.bindingRole
  status := b.status
  effectiveFrom := b.effectiveFrom
  effectiveTo := b.effectiveTo

/-- The bindings of a card. -/
def InstrumentTables.bindingsOf (t : InstrumentTables) (instrumentId : UUID) :
    List PaymentInstrumentBindingRecord :=
  t.bindings.filter fun b => b.instrumentId = instrumentId

/-- The view of a card as its rows determine it. -/
def bareView (t : InstrumentTables) (instrumentId : UUID) : Option PaymentInstrumentView :=
  (t.instrument? instrumentId).map fun instrument =>
    let rows := (t.bindingsOf instrumentId).insertionSort
      fun a b => (toLex (a.effectiveFrom, a.bindingId) : Instant ×ₗ UUID)
        ≤ toLex (b.effectiveFrom, b.bindingId)
    let bindings := rows.map fun b => b.view instrument ""
    let active := bindings.filter fun b => b.status = .active
    ⟨instrument, bindings, if active.length = 1 then active.head? else none⟩

theorem bareView_congr {t t' : InstrumentTables} {instrumentId : UUID}
    (hInstrument : t'.instrument? instrumentId = t.instrument? instrumentId)
    (hBindings : t'.bindingsOf instrumentId = t.bindingsOf instrumentId) :
    bareView t' instrumentId = bareView t instrumentId := by
  unfold bareView
  rw [hInstrument, hBindings]

/-- The references and keys of the rows of a Book. -/
structure CardRows (accounts : List CardAccountRecord) (t : InstrumentTables) : Prop where
  ids : (t.instruments.map (·.instrumentId)).Nodup
  bindingIds : (t.bindings.map (·.bindingId)).Nodup
  owned : ∀ b ∈ t.bindings, b.instrumentId ∈ t.instruments.map (·.instrumentId)
  accounts : ∀ b ∈ t.bindings, ∃ account ∈ accounts, account.accountId = b.accountId

theorem CardRows.account? {accounts : List CardAccountRecord} {t : InstrumentTables}
    (h : CardRows accounts t) {moment : InstrumentMoment} (hMoment : moment.accounts = accounts)
    {b : PaymentInstrumentBindingRecord} (hb : b ∈ t.bindings) :
    ∃ account, moment.account? b.accountId = some account := by
  obtain ⟨account, hMem, hId⟩ := h.accounts b hb
  rw [← Option.isSome_iff_exists, InstrumentMoment.account?, hMoment, List.find?_isSome]
  exact ⟨account, hMem, decide_eq_true hId⟩

/-- A view is the reading of the rows, apart from the names. -/
theorem getPaymentInstrument_bare {moment : InstrumentMoment} {t : InstrumentTables}
    {instrumentId : UUID} {view : PaymentInstrumentView} (hRows : CardRows moment.accounts t)
    (h : getPaymentInstrument moment t instrumentId = .ok view) :
    bareView t instrumentId = some view.withoutNames := by
  simp only [getPaymentInstrument, bind_eq_ok, fetch_eq_ok, pure_eq_ok] at h
  obtain ⟨instrument, hInstrument, rfl⟩ := h
  have hNames : ∀ rows : List PaymentInstrumentBindingRecord, (∀ b ∈ rows, b ∈ t.bindings) →
      (rows.filterMap fun b => (moment.account? b.accountId).map fun a =>
        b.view instrument a.currentName).map PaymentInstrumentBindingView.withoutName
      = rows.map fun b => b.view instrument "" := by
    intro rows hMem
    induction rows with
    | nil => rfl
    | cons b rows ih =>
        obtain ⟨account, hAccount⟩ := hRows.account? rfl (hMem b List.mem_cons_self)
        have hRest := ih fun b hb => hMem b (List.mem_cons_of_mem _ hb)
        simp only [List.filterMap_cons, hAccount, Option.map_some, List.map_cons, hRest]
        rfl
  have hSorted := hNames ((t.bindingsOf instrumentId).insertionSort
    fun a b => (toLex (a.effectiveFrom, a.bindingId) : Instant ×ₗ UUID)
      ≤ toLex (b.effectiveFrom, b.bindingId)) fun b hb =>
        List.mem_of_mem_filter ((List.mem_insertionSort _).1 hb)
  rw [bareView, hInstrument, Option.map_some, Option.some.injEq]
  unfold PaymentInstrumentView.withoutNames
  dsimp only
  rw [← hSorted]
  have hSingle : ∀ views : List PaymentInstrumentBindingView,
      (if ((views.map PaymentInstrumentBindingView.withoutName).filter
            fun b => b.status = .active).length = 1 then
          ((views.map PaymentInstrumentBindingView.withoutName).filter
            fun b => b.status = .active).head?
        else none)
      = (if (views.filter fun b => b.status = .active).length = 1 then
            (views.filter fun b => b.status = .active).head?
          else none).map PaymentInstrumentBindingView.withoutName := by
    intro views
    have hActive : (views.map PaymentInstrumentBindingView.withoutName).filter
          (fun b => decide (b.status = .active))
        = (views.filter fun b => decide (b.status = .active)).map
            PaymentInstrumentBindingView.withoutName := by
      rw [List.filter_map]
      rfl
    rw [hActive, List.length_map, List.head?_map]
    split_ifs
    · rfl
    · rfl
  congr 1
  exact hSingle _

/-! ## One call -/

/-- A receipt is left: what it records is the change of its card, and the other cards
are left alone. -/
structure Receipted (t : InstrumentTables) (receipt : PaymentInstrumentMutationRecord)
    (t' : InstrumentTables) : Prop where
  mutations : t'.mutations = t.mutations ++ [receipt]
  fresh : t.mutation? receipt.requestId = none
  before : receipt.before.map PaymentInstrumentView.withoutNames
    = bareView t receipt.instrumentId
  after : bareView t' receipt.instrumentId = some receipt.after.withoutNames
  others : ∀ id, id ≠ receipt.instrumentId → bareView t' id = bareView t id
  version : receipt.after.instrument.version
    = (receipt.before.map (·.instrument.version)).getD 0 + 1

section Calls

variable {uuid5 : UUID → String → UUID} {moment : InstrumentMoment} {t t' : InstrumentTables}

theorem instrument_of_view {instrumentId : UUID} {view : PaymentInstrumentView}
    (h : getPaymentInstrument moment t instrumentId = .ok view) :
    t.instrument? instrumentId = some view.instrument := by
  simp only [getPaymentInstrument, bind_eq_ok, fetch_eq_ok, pure_eq_ok] at h
  obtain ⟨instrument, hInstrument, rfl⟩ := h
  exact hInstrument

/-- The bindings of other cards under an added binding. -/
theorem bindingsOf_append {new : PaymentInstrumentBindingRecord} {id : UUID}
    (hOther : id ≠ new.instrumentId) (h : t'.bindings = t.bindings ++ [new]) :
    t'.bindingsOf id = t.bindingsOf id := by
  unfold InstrumentTables.bindingsOf
  rw [h, List.filter_append, List.filter_cons_of_neg (by simpa using Ne.symm hOther),
    List.filter_nil, List.append_nil]

/-- The bindings of other cards when a binding of one card is rewritten. -/
theorem bindingsOf_rewrite {binding ended : PaymentInstrumentBindingRecord} {id : UUID}
    (hIds : (t.bindings.map (·.bindingId)).Nodup) (hMem : binding ∈ t.bindings)
    (hSame : ended.instrumentId = binding.instrumentId) (hOther : id ≠ binding.instrumentId)
    (h : t'.bindings = t.bindings.map fun b =>
      if b.bindingId = binding.bindingId then ended else b) :
    t'.bindingsOf id = t.bindingsOf id := by
  unfold InstrumentTables.bindingsOf
  rw [h]
  have hRows : ∀ b ∈ t.bindings, b.bindingId = binding.bindingId → b = binding :=
    fun b hb hId => List.inj_on_of_nodup_map hIds hb hMem hId
  clear hIds hMem h
  generalize t.bindings = rows at hRows ⊢
  induction rows with
  | nil => rfl
  | cons b rows ih =>
      have hRest := ih fun b hb => hRows b (List.mem_cons_of_mem _ hb)
      rw [List.map_cons]
      by_cases hId : b.bindingId = binding.bindingId
      · have hOld := hRows b List.mem_cons_self hId
        rw [if_pos hId, List.filter_cons_of_neg, List.filter_cons_of_neg, hRest]
        · rw [hOld]
          simpa using Ne.symm hOther
        · rw [hSame]
          simpa using Ne.symm hOther
      · rw [if_neg hId, List.filter_cons, List.filter_cons, hRest]

/-- The other cards under an added card. -/
theorem instrument?_append {new : PaymentInstrumentRecord} {id : UUID}
    (hOther : id ≠ new.instrumentId) (h : t'.instruments = t.instruments ++ [new]) :
    t'.instrument? id = t.instrument? id := by
  unfold InstrumentTables.instrument?
  rw [h, List.find?_append, List.find?_cons_of_neg (by simpa using Ne.symm hOther),
    List.find?_nil, Option.or_none]

/-- The other cards when one card is rewritten. -/
theorem instrument?_rewrite {written : PaymentInstrumentRecord} {id : UUID}
    (hOther : id ≠ written.instrumentId)
    (h : t'.instruments = t.instruments.map fun r =>
      if r.instrumentId = written.instrumentId then written else r) :
    t'.instrument? id = t.instrument? id := by
  unfold InstrumentTables.instrument?
  rw [h]
  induction t.instruments with
  | nil => rfl
  | cons r rows ih =>
      rw [List.map_cons]
      by_cases hId : r.instrumentId = written.instrumentId
      · rw [if_pos hId, List.find?_cons_of_neg, List.find?_cons_of_neg, ih]
        · rw [hId]
          simpa using Ne.symm hOther
        · simpa using Ne.symm hOther
      · rw [if_neg hId, List.find?_cons, List.find?_cons, ih]

theorem BindingsChange.ids {rows rows' : List PaymentInstrumentBindingRecord}
    (hChange : BindingsChange rows rows') (h : (rows.map (·.bindingId)).Nodup) :
    (rows'.map (·.bindingId)).Nodup := by
  cases hChange with
  | same => exact h
  | added new hNew hOpen hEnded =>
      rw [List.map_append]
      exact h.append (List.nodup_singleton _) (List.disjoint_singleton.2 hNew)
  | ended binding stop hBinding hActive =>
      have hSame : rows.map ((·.bindingId) ∘ fun b =>
            if b.bindingId = binding.bindingId then
              { binding with status := .closed, effectiveTo := some stop } else b)
          = rows.map (·.bindingId) := by
        refine List.map_congr_left fun b _ => ?_
        rw [Function.comp_apply]
        split_ifs with hId
        · exact hId.symm
        · rfl
      rw [List.map_map, hSame]
      exact h

/-- Keys and references stay. -/
theorem CardRows.step {accounts : List CardAccountRecord} (h : CardRows accounts t)
    (hChange : InstrumentChange t t')
    (hAccounts : ∀ b ∈ t'.bindings, ∃ account ∈ accounts, account.accountId = b.accountId) :
    CardRows accounts t' := by
  cases hChange with
  | answered hInstruments hBindings =>
      obtain ⟨hIds, hBindingIds, hOwned, -⟩ := h
      rw [← hInstruments] at hIds hOwned
      rw [← hBindings] at hBindingIds hOwned
      exact ⟨hIds, hBindingIds, hOwned, hAccounts⟩
  | created new binding hInstruments hBindings hNew hCard hBinding hOwner hOpen =>
      refine ⟨?_, ?_, ?_, hAccounts⟩
      · rw [hInstruments, List.map_append]
        exact h.ids.append (List.nodup_singleton _) (List.disjoint_singleton.2 hNew)
      · rw [hBindings, List.map_append]
        exact h.bindingIds.append (List.nodup_singleton _) (List.disjoint_singleton.2 hBinding)
      · rw [hBindings, hInstruments, List.map_append]
        intro b hb
        obtain hOld | hAdded := List.mem_append.1 hb
        · exact List.mem_append_left _ (h.owned b hOld)
        · rw [List.mem_singleton.1 hAdded, hOwner]
          exact List.mem_append_right _ (List.mem_singleton_self _)
  | written before written hBefore hInstruments hCard hBindings hOwner =>
      have hIds : t'.instruments.map (·.instrumentId) = t.instruments.map (·.instrumentId) := by
        rw [hInstruments, List.map_map]
        refine List.map_congr_left fun r _ => ?_
        rw [Function.comp_apply]
        split_ifs with hId
        · exact hId.symm
        · rfl
      refine ⟨hIds ▸ h.ids, ?_, ?_, hAccounts⟩
      · exact hBindings.ids h.bindingIds
      · intro b hb
        rw [hIds]
        obtain hKept | hWritten := hOwner b hb
        · obtain ⟨old, hOld, hSame⟩ := List.mem_map.1 hKept
          exact hSame ▸ h.owned old hOld
        · rw [hWritten, ← InstrumentTables.instrumentId_of_instrument? hBefore]
          exact List.mem_map_of_mem (List.mem_of_find?_eq_some hBefore)

/-- A settlement account is one of the accounts. -/
theorem settlementAccount_mem {accountId : UUID} {assetCode : AssetCode}
    {account : CardAccountRecord}
    (h : settlementAccount moment accountId assetCode = .ok account) :
    ∃ account ∈ moment.accounts, account.accountId = accountId := by
  simp only [settlementAccount, bind_eq_ok, fetch_eq_ok, pure_eq_ok] at h
  obtain ⟨found, hFound, -⟩ := h
  exact ⟨found, List.mem_of_find?_eq_some hFound, by simpa using List.find?_some hFound⟩

/-- What an operation does to the bindings, beside the change of one card. -/
theorem applyOperation_bindings {command : PaymentInstrumentMutation}
    {instrument changed : PaymentInstrumentRecord} {t₁ : InstrumentTables}
    (hRows : CardRows moment.accounts t)
    (h : applyOperation uuid5 moment command instrument t = .ok (changed, t₁)) :
    t₁.mutations = t.mutations ∧ changed.version = instrument.version
      ∧ (∀ id, id ≠ command.instrumentId → t₁.bindingsOf id = t.bindingsOf id)
      ∧ ∀ b ∈ t₁.bindings, ∃ account ∈ moment.accounts, account.accountId = b.accountId := by
  unfold applyOperation at h
  split at h
  · rw [pure_eq_ok, Prod.mk.injEq] at h
    obtain ⟨rfl, rfl⟩ := h
    exact ⟨rfl, rfl, fun _ _ => rfl, hRows.accounts⟩
  · simp only [bind_eq_ok, require_eq_ok, pure_eq_ok, Prod.mk.injEq, exists_const] at h
    obtain ⟨-, rfl, rfl⟩ := h
    exact ⟨rfl, rfl, fun _ _ => rfl, hRows.accounts⟩
  · simp only [bind_eq_ok, require_eq_ok, pure_eq_ok, Prod.mk.injEq, exists_const] at h
    obtain ⟨-, rfl, rfl⟩ := h
    exact ⟨rfl, rfl, fun _ _ => rfl, hRows.accounts⟩
  · simp only [bind_eq_ok, require_eq_ok, pure_eq_ok, Prod.mk.injEq, exists_const] at h
    obtain ⟨-, -, found, hFound, role, -, -, t₂, hInsert, rfl, rfl⟩ := h
    obtain ⟨rfl, -⟩ := insertBinding_ok hInsert
    refine ⟨rfl, rfl, fun id hOther => bindingsOf_append hOther rfl, fun b hb => ?_⟩
    obtain hOld | hAdded := List.mem_append.1 hb
    · exact hRows.accounts b hOld
    · rw [List.mem_singleton.1 hAdded]
      exact settlementAccount_mem hFound
  · simp only [bind_eq_ok, fetch_eq_ok, require_eq_ok, pure_eq_ok, Prod.mk.injEq,
      exists_const] at h
    obtain ⟨binding, hBinding, hOwner, -, -, rfl, rfl⟩ := h
    have hId := InstrumentTables.bindingId_of_binding? hBinding
    have hMem : binding ∈ t.bindings := List.mem_of_find?_eq_some hBinding
    subst hId
    refine ⟨rfl, rfl, fun id hOther => ?_, fun b hb => ?_⟩
    · rw [← hOwner] at hOther
      refine bindingsOf_rewrite hRows.bindingIds hMem ?_ hOther rfl
      rfl
    · obtain ⟨row, hRow, rfl⟩ := List.mem_map.1 hb
      split_ifs
      · exact hRows.accounts binding hMem
      · exact hRows.accounts row hRow

/-- A creation leaves no receipt, and the tables as they are, or the receipt of a new
card. -/
theorem createPaymentInstrument_receipted {command : CreatePaymentInstrument}
    {view : PaymentInstrumentView} (hRows : CardRows moment.accounts t)
    (h : createPaymentInstrument moment command t = .ok (view, t')) :
    CardRows moment.accounts t' ∧ (t' = t ∨ Receipted t ⟨command.instrumentId,
      command.instrumentId, moment.actorSubjectId, .create command, none, view⟩ t') := by
  have hChange := createPaymentInstrument_change h
  unfold createPaymentInstrument at h
  simp only [bind_eq_ok, require_eq_ok, exists_const] at h
  obtain ⟨-, h⟩ := h
  split at h
  · simp only [bind_eq_ok, pure_eq_ok, Prod.mk.injEq] at h
    obtain ⟨-, -, -, rfl⟩ := h
    exact ⟨hRows, .inl rfl⟩
  · next hFresh =>
    simp only [bind_eq_ok] at h
    obtain ⟨account, hAccount, role, -, h⟩ := h
    split at h
    · simp only [bind_eq_ok, pure_eq_ok, Prod.mk.injEq] at h
      obtain ⟨-, -, -, -, -, -, -, rfl⟩ := h
      exact ⟨hRows, .inl rfl⟩
    · next hNone =>
      simp only [bind_eq_ok, pure_eq_ok, Prod.mk.injEq] at h
      obtain ⟨⟨⟩, -, t₁, hInsert, view', hView, rfl, rfl⟩ := h
      obtain ⟨rfl, -⟩ := insertBinding_ok hInsert
      have hRows' := hRows.step hChange (by
        intro b hb
        obtain hOld | hAdded := List.mem_append.1 hb
        · exact hRows.accounts b hOld
        · rw [List.mem_singleton.1 hAdded]
          exact settlementAccount_mem hAccount)
      refine ⟨hRows', .inr ⟨rfl, hFresh, ?_, ?_, ?_, ?_⟩⟩
      · rw [bareView, hNone]
        rfl
      · exact getPaymentInstrument_bare hRows' hView
      · exact fun id hOther => bareView_congr (instrument?_append hOther rfl)
          (bindingsOf_append hOther rfl)
      · have hNew := instrument_of_view hView
        unfold InstrumentTables.instrument? at hNone hNew
        rw [List.find?_append, hNone, Option.none_or] at hNew
        simp only [List.find?_cons, decide_true, Option.some.injEq] at hNew
        rw [← hNew]
        rfl

/-- A mutation leaves no receipt, and the tables as they are, or the receipt of its
change. -/
theorem mutatePaymentInstrument_receipted {command : PaymentInstrumentMutation}
    {view : PaymentInstrumentView} {replayed : Bool} (hRows : CardRows moment.accounts t)
    (h : mutatePaymentInstrument uuid5 moment command t = .ok ((view, replayed), t')) :
    CardRows moment.accounts t' ∧ (t' = t ∨ ∃ before, Receipted t ⟨command.requestId,
      command.instrumentId, moment.actorSubjectId, .mutate command, before, view⟩ t') := by
  have hChange := mutatePaymentInstrument_change h
  unfold mutatePaymentInstrument at h
  simp only [bind_eq_ok, require_eq_ok, exists_const] at h
  obtain ⟨-, h⟩ := h
  split at h
  · simp only [bind_eq_ok, pure_eq_ok, Prod.mk.injEq] at h
    obtain ⟨-, -, -, rfl⟩ := h
    exact ⟨hRows, .inl rfl⟩
  · next hFresh =>
    simp only [bind_eq_ok, fetch_eq_ok, require_eq_ok, pure_eq_ok, Prod.mk.injEq,
      exists_const] at h
    obtain ⟨before, hBefore, beforeView, hBeforeView, ⟨changed, t₁⟩, hApply, -, after, hView,
      ⟨rfl, -⟩, rfl⟩ := h
    obtain ⟨hSame, hId, -, -, -, -⟩ := applyOperation_ok hBefore hApply
    obtain ⟨hMutations, hVersion, hOthers, hAccounts⟩ := applyOperation_bindings hRows hApply
    have hWritten : changed.instrumentId = command.instrumentId :=
      hId.trans (InstrumentTables.instrumentId_of_instrument? hBefore)
    have hRows' := hRows.step hChange hAccounts
    refine ⟨hRows', .inr ⟨some beforeView, ?_, hFresh, ?_, ?_, ?_, ?_⟩⟩
    · dsimp only
      rw [hMutations]
    · exact (getPaymentInstrument_bare hRows hBeforeView).symm
    · exact getPaymentInstrument_bare hRows' hView
    · intro id hOther
      refine bareView_congr (@instrument?_rewrite _ _
        { changed with version := changed.version + 1 } _ ?_ ?_) (hOthers id hOther)
      · rw [hWritten]
        exact hOther
      · rw [hWritten, hSame]
    · have hNew := instrument_of_view hView
      have hOld := instrument_of_view hBeforeView
      have hRow : after.instrument = { changed with version := changed.version + 1 } := by
        unfold InstrumentTables.instrument? at hNew hBefore
        have hMem := List.mem_of_find?_eq_some hNew
        obtain ⟨row, -, hRow⟩ := List.mem_map.1 hMem
        have hFound : after.instrument.instrumentId = command.instrumentId := by
          simpa using List.find?_some hNew
        split_ifs at hRow with hCase
        · exact hRow.symm
        · exact absurd (hRow ▸ hFound) hCase
      have hSameRow : before = beforeView.instrument :=
        Option.some.inj (hBefore.symm.trans hOld)
      rw [hRow]
      simp only [Option.map_some, Option.getD_some, ← hSameRow, hVersion]

/-- What an accepted call leaves. -/
theorem callInstrument_ok {command : InstrumentCommand} {view : PaymentInstrumentView}
    (hRows : CardRows moment.accounts t)
    (h : callInstrument uuid5 moment command t = .ok (view, t')) :
    CardRows moment.accounts t' ∧ (t' = t ∨ ∃ before, Receipted t ⟨command.requestId,
      command.instrumentId, moment.actorSubjectId, command, before, view⟩ t') := by
  cases command with
  | create command =>
      obtain ⟨hRows', hSame | hReceipted⟩ := createPaymentInstrument_receipted hRows h
      · exact ⟨hRows', .inl hSame⟩
      · exact ⟨hRows', .inr ⟨none, hReceipted⟩⟩
  | mutate command =>
      simp only [callInstrument, bind_eq_ok, pure_eq_ok, Prod.mk.injEq] at h
      obtain ⟨⟨⟨view', replayed⟩, t₁⟩, hMutate, rfl, rfl⟩ := h
      exact mutatePaymentInstrument_receipted hRows hMutate

end Calls

/-! ## Runs of calls -/

/-- The receipts of one card. -/
def receiptsOf (t : InstrumentTables) (instrumentId : UUID) :
    List PaymentInstrumentMutationRecord :=
  t.mutations.filter fun receipt => receipt.instrumentId = instrumentId

/-- The version of a card, zero when there is none. -/
def cardVersion (t : InstrumentTables) (instrumentId : UUID) : Nat :=
  ((t.instrument? instrumentId).map (·.version)).getD 0

/-- The view before a receipt's request, and the view after it, without names. -/
def PaymentInstrumentMutationRecord.bareBefore (self : PaymentInstrumentMutationRecord) :
    Option PaymentInstrumentView :=
  self.before.map PaymentInstrumentView.withoutNames

def PaymentInstrumentMutationRecord.bareAfter (self : PaymentInstrumentMutationRecord) :
    Option PaymentInstrumentView :=
  some self.after.withoutNames

/-- The receipts of each card link the view it started from to the present one, and count
its versions; no two of them have the same request id. -/
structure CardAudit (opened s : AuditedBook) : Prop where
  requests : (s.tables.mutations.map (·.requestId)).Nodup
  commands : ∀ receipt ∈ s.tables.mutations, receipt.command.requestId = receipt.requestId
  rows : CardRows s.accounts s.tables
  linked : ∀ id, Linked PaymentInstrumentMutationRecord.bareAfter
    PaymentInstrumentMutationRecord.bareBefore (bareView opened.tables id)
      (receiptsOf s.tables id)
  current : ∀ id, lastLink PaymentInstrumentMutationRecord.bareAfter
    (bareView opened.tables id) (receiptsOf s.tables id) = bareView s.tables id
  versions : ∀ id, cardVersion s.tables id
    = cardVersion opened.tables id + (receiptsOf s.tables id).length

section Runs

variable {uuid5 : UUID → String → UUID} {opened s s' : AuditedBook}
  {call : Option InstrumentCall} {calls : List (Option InstrumentCall)}

theorem cardVersion_of_bareView {t : InstrumentTables} {id : UUID}
    {view : Option PaymentInstrumentView}
    (h : bareView t id = view.map PaymentInstrumentView.withoutNames) :
    cardVersion t id = (view.map (·.instrument.version)).getD 0 := by
  have hVersion : (t.instrument? id).map (·.version)
      = (bareView t id).map (·.instrument.version) := by
    rw [bareView, Option.map_map]
    rfl
  rw [cardVersion, hVersion, h, Option.map_map]
  rfl

theorem CardAudit.receipted {receipt : PaymentInstrumentMutationRecord} {t : InstrumentTables}
    (h : CardAudit opened s) (hReceipted : Receipted s.tables receipt t)
    (hCommand : receipt.command.requestId = receipt.requestId)
    (hRows : CardRows s.accounts t) : CardAudit opened { s with tables := t } := by
  have hReceipts : ∀ id, receiptsOf t id = receiptsOf s.tables id
      ++ if receipt.instrumentId = id then [receipt] else [] := by
    intro id
    rw [receiptsOf, hReceipted.mutations, List.filter_append]
    by_cases hId : receipt.instrumentId = id
    · rw [if_pos hId, List.filter_cons_of_pos (by simpa using hId), List.filter_nil]
      rfl
    · rw [if_neg hId, List.filter_cons_of_neg (by simpa using hId), List.filter_nil]
      rfl
  constructor
  · dsimp only
    rw [hReceipted.mutations, List.map_append]
    refine h.requests.append (List.nodup_singleton _) (List.disjoint_singleton.2 ?_)
    intro hMem
    obtain ⟨old, hOld, hId⟩ := List.mem_map.1 hMem
    exact absurd (decide_eq_true hId) (List.find?_eq_none.1 hReceipted.fresh old hOld)
  · intro old hOld
    dsimp only at hOld
    rw [hReceipted.mutations] at hOld
    obtain hOld | hNew := List.mem_append.1 hOld
    · exact h.commands old hOld
    · rw [List.mem_singleton.1 hNew]
      exact hCommand
  · exact hRows
  · intro id
    dsimp only
    rw [hReceipts id, linked_append]
    refine ⟨h.linked id, ?_⟩
    by_cases hId : receipt.instrumentId = id
    · rw [if_pos hId, h.current id, ← hId]
      exact ⟨hReceipted.before, trivial⟩
    · rw [if_neg hId]
      trivial
  · intro id
    dsimp only
    rw [hReceipts id, lastLink_append, h.current id]
    by_cases hId : receipt.instrumentId = id
    · rw [if_pos hId, ← hId, hReceipted.after]
      rfl
    · rw [if_neg hId, hReceipted.others id (Ne.symm hId)]
      rfl
  · intro id
    dsimp only
    rw [hReceipts id, List.length_append, ← Nat.add_assoc, ← h.versions id]
    by_cases hId : receipt.instrumentId = id
    · have hAfter := @cardVersion_of_bareView _ _ (some receipt.after) hReceipted.after
      have hBefore := cardVersion_of_bareView hReceipted.before.symm
      rw [if_pos hId, ← hId, hAfter, hBefore, List.length_singleton]
      exact hReceipted.version
    · have hSame : cardVersion t id = cardVersion s.tables id := by
        have hBare : ∀ t' : InstrumentTables, cardVersion t' id
            = ((bareView t' id).map (·.instrument.version)).getD 0 := by
          intro t'
          rw [cardVersion, bareView, Option.map_map]
          rfl
        rw [hBare, hBare, hReceipted.others id (Ne.symm hId)]
      rw [if_neg hId, hSame, List.length_nil, Nat.add_zero]

theorem CardAudit.step (h : CardAudit opened s) (hStep : AuditStep uuid5 s call s') :
    CardAudit opened s' := by
  cases hStep with
  | served hCall =>
      obtain ⟨hRows, rfl | ⟨before, hReceipted⟩⟩ := callInstrument_ok h.rows hCall
      · exact h
      · exact h.receipted hReceipted rfl hRows
  | refused _ => exact h
  | accounts accounts hKept =>
      refine ⟨h.requests, h.commands, ⟨h.rows.ids, h.rows.bindingIds, h.rows.owned, ?_⟩,
        h.linked, h.current, h.versions⟩
      intro b hb
      obtain ⟨account, hMem, hId⟩ := h.rows.accounts b hb
      obtain ⟨account', hMem', hId'⟩ := hKept account hMem
      exact ⟨account', hMem', hId'.trans hId⟩

/-- Receipts are never taken away. -/
theorem mutations_subset_step (hRows : CardRows s.accounts s.tables)
    (hStep : AuditStep uuid5 s call s') : s.tables.mutations ⊆ s'.tables.mutations := by
  cases hStep with
  | served hCall =>
      obtain ⟨-, rfl | ⟨before, hReceipted⟩⟩ := callInstrument_ok hRows hCall
      · exact fun _ hMem => hMem
      · dsimp only
        rw [hReceipted.mutations]
        exact List.subset_append_left _ _
  | refused _ => exact fun _ hMem => hMem
  | accounts accounts hKept => exact fun _ hMem => hMem

theorem CardAudit.run (h : CardAudit opened s) (hRun : Run (AuditStep uuid5) s calls s') :
    CardAudit opened s' ∧ s.tables.mutations ⊆ s'.tables.mutations := by
  refine hRun.invariant (I := fun s' => CardAudit opened s'
    ∧ s.tables.mutations ⊆ s'.tables.mutations) ⟨h, fun _ hMem => hMem⟩ ?_
  intro s₁ _ s₂ hI hStep
  exact ⟨hI.1.step hStep, fun _ hMem => mutations_subset_step hI.1.rows hStep (hI.2 hMem)⟩

section Created

end Created

end Runs

end TrackAnywhere.Ports
