import TrackAnywhere.Ports.PaymentInstruments

/-!
# Cards and bindings over every sequence of requests

A request either answers from a receipt, creates a card with its first binding,
or writes one card and at most one of its bindings.  `serveInstrument_cases`
says so, with what the checks of each branch leave true; the invariant
`InstrumentBook` follows from it.
-/

namespace TrackAnywhere.Ports

open TrackAnywhere.Verified
open TrackAnywhere.Verified.Checked
open TrackAnywhere.Verified.ValiditySpans

/-! ## Requests -/

structure InstrumentRequest where
  moment : InstrumentMoment
  command : InstrumentCommand

/-- The tables after a request that is accepted. -/
def serveInstrument (uuid5 : UUID → String → UUID) (request : InstrumentRequest)
    (t : InstrumentTables) : Except InstrumentError InstrumentTables :=
  match request.command with
  | .create command => do
      let accepted ← createPaymentInstrument request.moment command t
      pure accepted.2
  | .mutate command => do
      let accepted ← mutatePaymentInstrument uuid5 request.moment command t
      pure accepted.2

/-- The tables after some requests to an empty Book; what is refused is rolled
back. -/
def afterRequests (uuid5 : UUID → String → UUID) (requests : List InstrumentRequest) :
    InstrumentTables :=
  requests.foldl (fun t request =>
    (serveInstrument uuid5 request t).toOption.getD t) InstrumentTables.empty

/-! ## One request -/

abbrev PaymentInstrumentBindingRecord.key (b : PaymentInstrumentBindingRecord) :
    UUID × AssetCode :=
  (b.instrumentId, b.assetCode)

/-- Two cards that a purchase could not tell apart. -/
structure SameCard (a b : PaymentInstrumentRecord) : Prop where
  left : a.status = .active
  right : b.status = .active
  digits : a.last4 ≠ none
  provider : a.providerCode = b.providerCode
  last4 : a.last4 = b.last4

theorem SameCard.symm {a b : PaymentInstrumentRecord} (h : SameCard a b) : SameCard b a :=
  ⟨h.right, h.left, h.last4 ▸ h.digits, h.provider.symm, h.last4.symm⟩

/-- What a request does to the bindings. -/
inductive BindingsChange (rows : List PaymentInstrumentBindingRecord) :
    List PaymentInstrumentBindingRecord → Prop
  | same : BindingsChange rows rows
  | added (new : PaymentInstrumentBindingRecord)
      (hNew : new.bindingId ∉ rows.map (·.bindingId))
      (hOpen : new.status = .active ∧ new.effectiveTo = none)
      (hEnded : ∀ b ∈ rows, b.key = new.key → b.span.EndsBy new.effectiveFrom) :
      BindingsChange rows (rows ++ [new])
  | ended (binding : PaymentInstrumentBindingRecord) (stop : Instant)
      (hBinding : rows.find? (fun b => b.bindingId = binding.bindingId) = some binding)
      (hActive : binding.status = .active) :
      BindingsChange rows (rows.map fun b => if b.bindingId = binding.bindingId then
        { binding with status := .closed, effectiveTo := some stop } else b)

/-- What a request does to the cards and their bindings. -/
inductive InstrumentChange (t t' : InstrumentTables) : Prop
  | answered (hInstruments : t'.instruments = t.instruments)
      (hBindings : t'.bindings = t.bindings)
  | created (new : PaymentInstrumentRecord) (binding : PaymentInstrumentBindingRecord)
      (hInstruments : t'.instruments = t.instruments ++ [new])
      (hBindings : t'.bindings = t.bindings ++ [binding])
      (hNew : new.instrumentId ∉ t.instruments.map (·.instrumentId))
      (hCard : ∀ r ∈ t.instruments, ¬SameCard r new)
      (hBinding : binding.bindingId ∉ t.bindings.map (·.bindingId))
      (hOwner : binding.instrumentId = new.instrumentId)
      (hOpen : binding.status = .active ∧ binding.effectiveTo = none)
  | written (before written : PaymentInstrumentRecord)
      (hBefore : t.instrument? written.instrumentId = some before)
      (hInstruments : t'.instruments = t.instruments.map fun r =>
        if r.instrumentId = written.instrumentId then written else r)
      (hCard : ∀ r ∈ t.instruments, r.instrumentId ≠ written.instrumentId →
        SameCard written r → SameCard before r)
      (hBindings : BindingsChange t.bindings t'.bindings)
      (hOwner : ∀ b ∈ t'.bindings, b.instrumentId ∈ t.bindings.map (·.instrumentId)
        ∨ b.instrumentId = written.instrumentId)

section Steps

variable {uuid5 : UUID → String → UUID} {moment : InstrumentMoment} {t t' : InstrumentTables}

/-- An inserted binding has a new id. -/
theorem insertBinding_ok {new : PaymentInstrumentBindingRecord}
    (h : insertBinding t new = .ok t') :
    t' = { t with bindings := t.bindings ++ [new] }
      ∧ new.bindingId ∉ t.bindings.map (·.bindingId) := by
  simp only [insertBinding, bind_eq_ok, require_eq_ok, pure_eq_ok, exists_const] at h
  obtain ⟨-, hNone, rfl⟩ := h
  refine ⟨rfl, fun hMem => ?_⟩
  obtain ⟨b, hb, hId⟩ := List.mem_map.1 hMem
  exact absurd (decide_eq_true hId) (List.find?_eq_none.1 hNone b hb)

/-- A creation either answers or adds a card and its binding. -/
theorem createPaymentInstrument_change {command : CreatePaymentInstrument}
    {view : PaymentInstrumentView}
    (h : createPaymentInstrument moment command t = .ok (view, t')) :
    InstrumentChange t t' := by
  unfold createPaymentInstrument at h
  simp only [bind_eq_ok, require_eq_ok, exists_const] at h
  obtain ⟨-, h⟩ := h
  split at h
  · simp only [bind_eq_ok, pure_eq_ok, Prod.mk.injEq] at h
    obtain ⟨-, -, -, rfl⟩ := h
    exact .answered rfl rfl
  · simp only [bind_eq_ok] at h
    obtain ⟨account, -, role, -, h⟩ := h
    split at h
    · simp only [bind_eq_ok, pure_eq_ok, Prod.mk.injEq] at h
      obtain ⟨-, -, -, -, -, -, -, rfl⟩ := h
      exact .answered rfl rfl
    · next hNone =>
      simp only [bind_eq_ok, pure_eq_ok, Prod.mk.injEq] at h
      obtain ⟨⟨⟩, hDuplicate, t₁, hInsert, view', -, -, rfl⟩ := h
      obtain ⟨rfl, hBinding⟩ := insertBinding_ok hInsert
      refine .created _ _ rfl rfl ?_ ?_ hBinding rfl ⟨rfl, rfl⟩
      · intro hMem
        obtain ⟨r, hr, hId⟩ := List.mem_map.1 hMem
        exact absurd (decide_eq_true hId) (List.find?_eq_none.1 hNone r hr)
      · intro r hr hSame
        unfold refuseDuplicate at hDuplicate
        dsimp only at hDuplicate
        split at hDuplicate
        · cases hDuplicate
        · next hFree =>
          have hNot := List.find?_eq_none.1 hFree r hr
          exact hNot (decide_eq_true ⟨hSame.symm.digits, hSame.provider, hSame.last4,
            hSame.left⟩)

/-- The operations keep the id of the card, and change its identity or its
status only where the check of the identity follows. -/
theorem applyOperation_ok {command : PaymentInstrumentMutation}
    {instrument changed : PaymentInstrumentRecord} {t₁ : InstrumentTables}
    (hMoment : t.instrument? command.instrumentId = some instrument)
    (h : applyOperation uuid5 moment command instrument t = .ok (changed, t₁)) :
    t₁.instruments = t.instruments ∧ changed.instrumentId = instrument.instrumentId
      ∧ BindingsChange t.bindings t₁.bindings
      ∧ (∀ b ∈ t₁.bindings, b.instrumentId ∈ t.bindings.map (·.instrumentId)
          ∨ b.instrumentId = command.instrumentId)
      ∧ (changed.status = .active → command.operation.checksIdentity = false →
          instrument.status = .active ∧ changed.providerCode = instrument.providerCode
            ∧ changed.last4 = instrument.last4)
      ∧ (command.operation ≠ .reopen → changed.status = .active →
          instrument.status = .active) := by
  have hStay : ∀ b ∈ t.bindings, b.instrumentId ∈ t.bindings.map (·.instrumentId)
      ∨ b.instrumentId = command.instrumentId :=
    fun b hb => .inl (List.mem_map.2 ⟨b, hb, rfl⟩)
  unfold applyOperation at h
  split at h
  · next fields hOperation =>
    rw [pure_eq_ok, Prod.mk.injEq] at h
    obtain ⟨rfl, rfl⟩ := h
    refine ⟨rfl, rfl, .same, hStay, ?_, fun _ hActive => hActive⟩
    rw [hOperation]
    exact fun _ hChecks => by cases hChecks
  · next hOperation =>
    simp only [bind_eq_ok, require_eq_ok, pure_eq_ok, Prod.mk.injEq, exists_const] at h
    obtain ⟨hStatus, rfl, rfl⟩ := h
    exact ⟨rfl, rfl, .same, hStay, (fun hActive => by cases hActive),
      fun _ hActive => by cases hActive⟩
  · next hOperation =>
    simp only [bind_eq_ok, require_eq_ok, pure_eq_ok, Prod.mk.injEq, exists_const] at h
    obtain ⟨hStatus, rfl, rfl⟩ := h
    refine ⟨rfl, rfl, .same, hStay, ?_, fun hReopen => absurd hOperation hReopen⟩
    rw [hOperation]
    exact fun _ hChecks => by cases hChecks
  · next account assetCode policy effectiveFrom hOperation =>
    simp only [bind_eq_ok, require_eq_ok, pure_eq_ok, Prod.mk.injEq, exists_const] at h
    obtain ⟨hStatus, -, found, -, role, -, hFree, t₂, hInsert, rfl, rfl⟩ := h
    obtain ⟨rfl, hNew⟩ := insertBinding_ok hInsert
    refine ⟨rfl, rfl, .added _ hNew ⟨rfl, rfl⟩ ?_, ?_,
      fun hActive _ => ⟨hActive, rfl, rfl⟩, fun _ hActive => hActive⟩
    · intro b hb hKey
      obtain ⟨hInstrument, hAsset⟩ := Prod.mk.inj hKey
      have hNot := hFree b hb
      simp only [not_and, not_forall, not_lt] at hNot
      obtain ⟨stop, hStop, hLe⟩ := hNot hInstrument hAsset
      exact ⟨stop, hStop, hLe⟩
    · intro b hb
      rcases List.mem_append.1 hb with hb | hb
      · exact hStay b hb
      · rw [List.mem_singleton.1 hb]
        exact .inr rfl
  · next bindingId effectiveTo hOperation =>
    simp only [bind_eq_ok, fetch_eq_ok, require_eq_ok, pure_eq_ok, Prod.mk.injEq,
      exists_const] at h
    obtain ⟨binding, hBinding, hOwner, ⟨hActive, -, -⟩, -, rfl, rfl⟩ := h
    have hId : binding.bindingId = bindingId :=
      InstrumentTables.bindingId_of_binding? hBinding
    subst hId
    refine ⟨rfl, rfl, .ended binding effectiveTo.instant hBinding hActive, ?_,
      fun hActive _ => ⟨hActive, rfl, rfl⟩, fun _ hActive => hActive⟩
    intro b hb
    obtain ⟨row, hRow, rfl⟩ := List.mem_map.1 hb
    split_ifs
    · exact .inr hOwner
    · exact hStay row hRow

/-- A mutation either answers or writes its card. -/
theorem mutatePaymentInstrument_change {command : PaymentInstrumentMutation}
    {view : PaymentInstrumentView × Bool}
    (h : mutatePaymentInstrument uuid5 moment command t = .ok (view, t')) :
    InstrumentChange t t' := by
  unfold mutatePaymentInstrument at h
  simp only [bind_eq_ok, require_eq_ok, exists_const] at h
  obtain ⟨-, h⟩ := h
  split at h
  · simp only [bind_eq_ok, pure_eq_ok, Prod.mk.injEq] at h
    obtain ⟨-, -, -, rfl⟩ := h
    exact .answered rfl rfl
  · simp only [bind_eq_ok, fetch_eq_ok, require_eq_ok, pure_eq_ok, Prod.mk.injEq,
      exists_const] at h
    obtain ⟨before, hBefore, beforeView, -, ⟨changed, t₁⟩, hApply, hCheck, after, -, -, rfl⟩ := h
    obtain ⟨hSame, hId, hBindings, hOwner, hUnchecked, hStatus⟩ :=
      applyOperation_ok hBefore hApply
    have hRow : before.instrumentId = command.instrumentId :=
      InstrumentTables.instrumentId_of_instrument? hBefore
    have hWritten : changed.instrumentId = command.instrumentId := hId.trans hRow
    refine .written before { changed with version := changed.version + 1 } ?_ ?_ ?_
      hBindings ?_
    · rw [hWritten]
      exact hBefore
    · rw [hSame, hWritten]
    · intro r hr hOther hCard
      rw [hWritten] at hOther
      cases hChecks : command.operation.checksIdentity with
      | false =>
          obtain ⟨hActive, hProvider, hDigits⟩ := hUnchecked hCard.left hChecks
          exact ⟨hActive, hCard.right, hDigits ▸ hCard.digits,
            hProvider ▸ hCard.provider, hDigits ▸ hCard.last4⟩
      | true =>
          obtain ⟨hUpdate, hIdentity⟩ := hCheck hCard.left hCard.digits hChecks r hr hOther
            hCard.provider.symm hCard.last4.symm hCard.right
          obtain ⟨hProvider, hDigits⟩ := hIdentity
          exact ⟨hStatus hUpdate hCard.left, hCard.right, (hDigits.trans_ne hCard.digits),
            hProvider.trans hCard.provider, hDigits.trans hCard.last4⟩
    · intro b hb
      rw [hWritten]
      exact hOwner b hb

/-- What an accepted request does. -/
theorem serveInstrument_change {request : InstrumentRequest}
    (h : serveInstrument uuid5 request t = .ok t') : InstrumentChange t t' := by
  unfold serveInstrument at h
  split at h
  · simp only [bind_eq_ok, pure_eq_ok] at h
    obtain ⟨⟨view, t₁⟩, hCreate, rfl⟩ := h
    exact createPaymentInstrument_change hCreate
  · simp only [bind_eq_ok, pure_eq_ok] at h
    obtain ⟨⟨view, t₁⟩, hMutate, rfl⟩ := h
    exact mutatePaymentInstrument_change hMutate

end Steps

/-! ## The invariant -/

/-- The cards and bindings of a Book, whatever was requested so far. -/
structure InstrumentBook (t : InstrumentTables) : Prop where
  ids : (t.instruments.map (·.instrumentId)).Nodup
  cards : t.instruments.Pairwise fun a b => ¬SameCard a b
  bindingIds : (t.bindings.map (·.bindingId)).Nodup
  owned : ∀ b ∈ t.bindings, b.instrumentId ∈ t.instruments.map (·.instrumentId)
  openEnded : ∀ b ∈ t.bindings, b.status = .active → b.effectiveTo = none
  separate : Separate PaymentInstrumentBindingRecord.key
    PaymentInstrumentBindingRecord.span t.bindings

namespace InstrumentBook

variable {t t' : InstrumentTables}

theorem empty : InstrumentBook InstrumentTables.empty :=
  ⟨List.nodup_nil, .nil, List.nodup_nil, (fun _ h => nomatch h), (fun _ h => nomatch h), .nil⟩

/-- A row under a unique id is the row that the id finds. -/
private theorem eq_of_find? {rows : List PaymentInstrumentBindingRecord}
    (hIds : (rows.map (·.bindingId)).Nodup) {b binding : PaymentInstrumentBindingRecord}
    (hb : b ∈ rows)
    (hBinding : rows.find? (fun b => b.bindingId = binding.bindingId) = some binding)
    (hId : b.bindingId = binding.bindingId) : b = binding :=
  List.inj_on_of_nodup_map hIds hb (List.mem_of_find?_eq_some hBinding) hId

/-- The bindings stay apart, and active ones stay open. -/
theorem bindingsChange (h : InstrumentBook t) {rows : List PaymentInstrumentBindingRecord}
    (hChange : BindingsChange t.bindings rows) :
    (rows.map (·.bindingId)).Nodup ∧ (∀ b ∈ rows, b.status = .active → b.effectiveTo = none)
      ∧ Separate PaymentInstrumentBindingRecord.key PaymentInstrumentBindingRecord.span rows := by
  cases hChange with
  | same => exact ⟨h.bindingIds, h.openEnded, h.separate⟩
  | added new hNew hOpen hEnded =>
      refine ⟨?_, ?_, h.separate.append hEnded⟩
      · rw [List.map_append, List.nodup_append]
        refine ⟨h.bindingIds, List.nodup_singleton _, fun a ha b hb hab => ?_⟩
        rw [List.map_singleton, List.mem_singleton] at hb
        exact hNew (hb ▸ hab ▸ ha)
      · intro b hb hActive
        rcases List.mem_append.1 hb with hb | hb
        · exact h.openEnded b hb hActive
        · rw [List.mem_singleton.1 hb]
          exact hOpen.2
  | ended binding stop hBinding hActive =>
      refine ⟨?_, ?_, h.separate.update ?_ ?_⟩
      · rw [List.map_map]
        have hSame : t.bindings.map ((·.bindingId) ∘ fun b =>
              if b.bindingId = binding.bindingId then
                { binding with status := .closed, effectiveTo := some stop } else b)
            = t.bindings.map (·.bindingId) := by
          refine List.map_congr_left fun b _ => ?_
          rw [Function.comp_apply]
          split_ifs with hId
          · exact hId.symm
          · rfl
        rw [hSame]
        exact h.bindingIds
      · intro b hb hStatus
        obtain ⟨row, hRow, rfl⟩ := List.mem_map.1 hb
        split_ifs at hStatus ⊢
        exact h.openEnded row hRow hStatus
      · intro b hb
        split_ifs with hId
        · rw [eq_of_find? h.bindingIds hb hBinding hId]
        · rfl
      · intro b hb time hCovers
        split_ifs at hCovers with hId
        · rw [eq_of_find? h.bindingIds hb hBinding hId]
          refine ⟨hCovers.1, fun other hOther => ?_⟩
          have hOpen := h.openEnded binding (List.mem_of_find?_eq_some hBinding) hActive
          exact absurd (hOpen.symm.trans hOther) (fun hNone => nomatch hNone)
        · exact hCovers

theorem step (h : InstrumentBook t) (hChange : InstrumentChange t t') : InstrumentBook t' := by
  cases hChange with
  | answered hInstruments hBindings =>
      obtain ⟨hIds, hCards, hBindingIds, hOwned, hOpen, hSeparate⟩ := h
      rw [← hInstruments] at hIds hCards hOwned
      rw [← hBindings] at hBindingIds hOwned hOpen hSeparate
      exact ⟨hIds, hCards, hBindingIds, hOwned, hOpen, hSeparate⟩
  | created new binding hInstruments hBindings hNew hCard hBinding hOwner hOpen =>
      have hEnded : ∀ b ∈ t.bindings, b.key = binding.key →
          b.span.EndsBy binding.effectiveFrom := by
        intro b hb hKey
        have hMem := h.owned b hb
        rw [(Prod.mk.inj hKey).1, hOwner] at hMem
        exact absurd hMem hNew
      obtain ⟨hBindingIds, hStillOpen, hSeparate⟩ :=
        h.bindingsChange (.added binding hBinding hOpen hEnded)
      rw [← hBindings] at hBindingIds hStillOpen hSeparate
      refine ⟨?_, ?_, hBindingIds, ?_, hStillOpen, hSeparate⟩
      · rw [hInstruments, List.map_append, List.nodup_append]
        refine ⟨h.ids, List.nodup_singleton _, fun a ha b hb hab => ?_⟩
        rw [List.map_singleton, List.mem_singleton] at hb
        exact hNew (hb ▸ hab ▸ ha)
      · rw [hInstruments]
        refine List.pairwise_append.2 ⟨h.cards, List.pairwise_singleton _ _, ?_⟩
        intro a ha b hb
        rw [List.mem_singleton.1 hb]
        exact hCard a ha
      · rw [hBindings, hInstruments, List.map_append]
        intro b hb
        rcases List.mem_append.1 hb with hb | hb
        · exact List.mem_append_left _ (h.owned b hb)
        · rw [List.mem_singleton.1 hb, hOwner]
          exact List.mem_append_right _ (List.mem_singleton_self _)
  | written before written hBefore hInstruments hCard hBindings hOwner =>
      obtain ⟨hBindingIds, hStillOpen, hSeparate⟩ := h.bindingsChange hBindings
      have hIds : t'.instruments.map (·.instrumentId) = t.instruments.map (·.instrumentId) := by
        rw [hInstruments, List.map_map]
        refine List.map_congr_left fun r _ => ?_
        rw [Function.comp_apply]
        split_ifs with hId
        · exact hId.symm
        · rfl
      have hRow := InstrumentTables.instrumentId_of_instrument? hBefore
      have hMem : before ∈ t.instruments := List.mem_of_find?_eq_some hBefore
      have hPairs : ∀ a ∈ t.instruments, ∀ b ∈ t.instruments,
          a.instrumentId ≠ b.instrumentId → ¬SameCard a b := by
        intro a ha b hb hNe
        have : Std.Symm fun a b => ¬SameCard a b := ⟨fun _ _ hNot hSame => hNot hSame.symm⟩
        exact h.cards.forall ha hb fun hEq => hNe (congrArg _ hEq)
      refine ⟨hIds ▸ h.ids, ?_, hBindingIds, ?_, hStillOpen, hSeparate⟩
      · rw [hInstruments, List.pairwise_map]
        refine (List.pairwise_map.1 h.ids).imp_of_mem ?_
        intro a b ha hb hNe hSame
        split_ifs at hSame with hA hB hB
        · exact hNe (hA.trans hB.symm)
        · exact hPairs before hMem b hb (hRow.trans_ne (Ne.symm hB)) (hCard b hb hB hSame)
        · exact hPairs before hMem a ha (hRow.trans_ne (Ne.symm hA))
            (hCard a ha hA hSame.symm)
        · exact hPairs a ha b hb hNe hSame
      · intro b hb
        rw [hIds]
        rcases hOwner b hb with hKept | hWritten
        · obtain ⟨old, hOld, hSame⟩ := List.mem_map.1 hKept
          exact hSame ▸ h.owned old hOld
        · rw [hWritten, ← hRow]
          exact List.mem_map.2 ⟨before, hMem, rfl⟩

/-- The invariant holds after any requests. -/
theorem afterRequests (uuid5 : UUID → String → UUID) (requests : List InstrumentRequest) :
    InstrumentBook (afterRequests uuid5 requests) := by
  have hRun : ∀ (requests : List InstrumentRequest) (t : InstrumentTables), InstrumentBook t →
      InstrumentBook (requests.foldl (fun t request =>
        (serveInstrument uuid5 request t).toOption.getD t) t) := by
    intro requests
    induction requests with
    | nil => exact fun t h => h
    | cons request rest ih =>
        intro t h
        rw [List.foldl_cons]
        refine ih _ ?_
        cases hServe : serveInstrument uuid5 request t with
        | error e => exact h
        | ok t' => exact h.step (serveInstrument_change hServe)
  exact hRun requests _ empty

end InstrumentBook

/-! ## Resolution -/

section Resolution

variable {t : InstrumentTables}

/-- The rows of the join are apart, as the bindings are. -/
theorem separate_join (h : InstrumentBook t) (p : PaymentInstrumentRecord →
    PaymentInstrumentBindingRecord → Bool)
    (hOwn : ∀ r b, p r b → b.instrumentId = r.instrumentId) :
    Separate (fun row : PaymentInstrumentRecord × PaymentInstrumentBindingRecord => row.2.key)
      (fun row => row.2.span)
      (t.instruments.flatMap fun r => (t.bindings.filter (p r)).map fun b => (r, b)) := by
  refine List.pairwise_flatMap.2 ⟨fun r _ => ?_, ?_⟩
  · rw [List.pairwise_map]
    exact List.Pairwise.sublist List.filter_sublist h.separate
  · refine (List.pairwise_map.1 h.ids).imp ?_
    intro r r' hNe row hRow row' hRow' hKey
    obtain ⟨b, hb, rfl⟩ := List.mem_map.1 hRow
    obtain ⟨b', hb', rfl⟩ := List.mem_map.1 hRow'
    have hLeft := hOwn r b (List.mem_filter.1 hb).2
    have hRight := hOwn r' b' (List.mem_filter.1 hb').2
    exact absurd (hLeft.symm.trans ((Prod.mk.inj hKey).1.trans hRight)) hNe

/-- At any time at most one binding settles a purchase with a card in an asset. -/
theorem instrumentBindingRows_length (h : InstrumentBook t) (ilike : String → String → Bool)
    (instrumentId : UUID) (assetCode : AssetCode) (occurredAt : Instant) :
    (instrumentBindingRows ilike t (.ofId instrumentId) assetCode occurredAt).length ≤ 1 := by
  unfold instrumentBindingRows
  dsimp only [PaymentInstrumentRef.ofId]
  rw [List.length_insertionSort]
  have hJoin := separate_join h (fun r b => decide (b.instrumentId = r.instrumentId
      ∧ b.status = .active ∧ b.assetCode = assetCode ∧ b.effectiveFrom ≤ occurredAt
      ∧ ∀ stop ∈ b.effectiveTo, occurredAt < stop))
    fun r b hRow => (of_decide_eq_true hRow).1
  have hHolds : ∀ row ∈ t.instruments.flatMap (fun r => (t.bindings.filter fun b =>
        decide (b.instrumentId = r.instrumentId ∧ b.status = .active
          ∧ b.assetCode = assetCode ∧ b.effectiveFrom ≤ occurredAt
          ∧ ∀ stop ∈ b.effectiveTo, occurredAt < stop)).map fun b => (r, b)),
      row.2.instrumentId = row.1.instrumentId ∧ row.2.assetCode = assetCode
        ∧ row.2.span.Covers occurredAt := by
    intro row hRow
    obtain ⟨r, -, hRow⟩ := List.mem_flatMap.1 hRow
    obtain ⟨b, hb, rfl⟩ := List.mem_map.1 hRow
    obtain ⟨hOwner, -, hAsset, hFrom, hTo⟩ := of_decide_eq_true (List.mem_filter.1 hb).2
    exact ⟨hOwner, hAsset, hFrom, hTo⟩
  refine hJoin.covering_length (fun row hRow _ => (hHolds row hRow).2.2) ?_
  intro a ha b hb hA hB
  have hIdA : a.1.instrumentId = instrumentId :=
    of_decide_eq_true (Bool.and_eq_true_iff.1 hA).1
  have hIdB : b.1.instrumentId = instrumentId :=
    of_decide_eq_true (Bool.and_eq_true_iff.1 hB).1
  obtain ⟨hOwnA, hAssetA, -⟩ := hHolds a ha
  obtain ⟨hOwnB, hAssetB, -⟩ := hHolds b hb
  exact Prod.ext (hOwnA.trans (hIdA.trans (hOwnB.trans hIdB).symm))
    (hAssetA.trans hAssetB.symm)

end Resolution

/-! ## Over every sequence of requests -/

/-- Whatever is requested of a Book: no time is in the spans of two bindings of
one card and asset, and a card and an asset resolve to at most one binding. -/
theorem bindings_apart_over_requests (uuid5 : UUID → String → UUID)
    (requests : List InstrumentRequest) :
    ((afterRequests uuid5 requests).bindings.Pairwise fun a b =>
        a.instrumentId = b.instrumentId → a.assetCode = b.assetCode →
          ∀ time, ¬(a.span.Covers time ∧ b.span.Covers time))
      ∧ ∀ ilike instrumentId assetCode occurredAt,
          (instrumentBindingRows ilike (afterRequests uuid5 requests) (.ofId instrumentId)
            assetCode occurredAt).length ≤ 1 := by
  have hBook := InstrumentBook.afterRequests uuid5 requests
  refine ⟨hBook.separate.imp ?_, instrumentBindingRows_length hBook⟩
  intro a b hApart hInstrument hAsset time hBoth
  exact hApart (Prod.ext hInstrument hAsset) time hBoth.1 hBoth.2

/-- Whatever is requested of a Book: no two active cards share the provider and
the last four digits. -/
theorem cards_distinct_over_requests (uuid5 : UUID → String → UUID)
    (requests : List InstrumentRequest) :
    (afterRequests uuid5 requests).instruments.Pairwise fun a b =>
      a.status = .active → b.status = .active → a.last4 ≠ none →
        ¬(a.providerCode = b.providerCode ∧ a.last4 = b.last4) := by
  have hBook := InstrumentBook.afterRequests uuid5 requests
  refine hBook.cards.imp ?_
  intro a b hNot hLeft hRight hDigits hSame
  exact hNot ⟨hLeft, hRight, hDigits, hSame.1, hSame.2⟩

end TrackAnywhere.Ports
