import TrackAnywhere.Ports.EntryContracts
import TrackAnywhere.Verified.ValiditySpans
import Mathlib

/-!
# Payment instruments

Cards of a Book and their settlement bindings.  A binding ties a card to an
account in one asset for a span of time.  Every write holds the Book lock and
leaves a receipt under its request id, which answers a retry.

The tables are those of one Book; the accounts, the caller's right to write and
the clock are given with each request.
-/

namespace TrackAnywhere.Ports

open TrackAnywhere.Verified
open TrackAnywhere.Verified.Checked
open TrackAnywhere.Verified.ValiditySpans

/-! ## Contracts -/

inductive CardFormFactor
  | virtual
  | physical
  | singleUse
deriving DecidableEq

inductive CardNetwork
  | mastercard
  | visa
  | amex
  | unionpay
  | other
deriving DecidableEq

/-- How a card purchase reaches the ledger. -/
inductive SettlementPolicy
  | immediate
  | prepaid
  | statement
deriving DecidableEq

inductive BindingRole
  | fundingAsset
  | cardLiability
deriving DecidableEq

abbrev Last4 := { s : String // last4Pattern s }

structure CreatePaymentInstrument where
  instrumentId : UUID
  bindingId : UUID
  currentName : String
  formFactor : CardFormFactor
  network : CardNetwork
  providerCode : ProviderCode
  settlementPolicy : SettlementPolicy
  settlementAccountId : UUID
  assetCode : AssetCode
  last4 : Option Last4
  effectiveFrom : AwareDatetime
deriving DecidableEq

/-- The fields of an update; `last4` alone can be cleared. -/
structure InstrumentUpdate where
  currentName : Option String
  network : Option CardNetwork
  providerCode : Option ProviderCode
  formFactor : Option CardFormFactor
  last4 : Option (Option Last4)
deriving DecidableEq

/-- The operations, with the fields that each of them requires. -/
inductive InstrumentOperation
  | update (fields : InstrumentUpdate)
  | close
  | reopen
  | addBinding (settlementAccountId : UUID) (assetCode : AssetCode)
      (settlementPolicy : SettlementPolicy) (effectiveFrom : AwareDatetime)
  | closeBinding (bindingId : UUID) (effectiveTo : AwareDatetime)
deriving DecidableEq

structure PaymentInstrumentMutation where
  requestId : UUID
  instrumentId : UUID
  operation : InstrumentOperation
deriving DecidableEq

inductive InstrumentCommand
  | create (command : CreatePaymentInstrument)
  | mutate (command : PaymentInstrumentMutation)
deriving DecidableEq

/-! ## Rows -/

inductive InstrumentStatus
  | active
  | frozen
  | closed
deriving DecidableEq

/-- `payment_instruments`. -/
structure PaymentInstrumentRecord where
  instrumentId : UUID
  formFactor : CardFormFactor
  network : CardNetwork
  providerCode : ProviderCode
  settlementPolicy : SettlementPolicy
  currentName : String
  last4 : Option Last4
  status : InstrumentStatus
  version : Nat
  effectiveFrom : Instant
  effectiveTo : Option Instant
deriving DecidableEq

inductive BindingStatus
  | active
  | closed
deriving DecidableEq

/-- `payment_instrument_bindings`. -/
structure PaymentInstrumentBindingRecord where
  bindingId : UUID
  instrumentId : UUID
  accountId : UUID
  assetCode : AssetCode
  bindingRole : BindingRole
  priority : Nat
  status : BindingStatus
  effectiveFrom : Instant
  effectiveTo : Option Instant
deriving DecidableEq

/-- `tstzrange(effective_from, effective_to, '[)')` -/
def PaymentInstrumentBindingRecord.span (b : PaymentInstrumentBindingRecord) : Span Instant :=
  ⟨b.effectiveFrom, b.effectiveTo⟩

/-- The columns of `accounts` that cards refer to. -/
structure CardAccountRecord where
  accountId : UUID
  assetCode : AssetCode
  accountType : AccountType
  accountSubtype : Option String
  systemRole : Option String
  currentName : String
  active : Bool
deriving DecidableEq

structure PaymentInstrumentBindingView where
  bindingId : UUID
  assetCode : AssetCode
  settlementPolicy : SettlementPolicy
  settlementAccountId : UUID
  settlementAccountName : String
  bindingRole : BindingRole
  status : BindingStatus
  effectiveFrom : Instant
  effectiveTo : Option Instant
deriving DecidableEq

/-- The view; its flat fields are those of `single`. -/
structure PaymentInstrumentView where
  instrument : PaymentInstrumentRecord
  bindings : List PaymentInstrumentBindingView
  single : Option PaymentInstrumentBindingView
deriving DecidableEq

/-- `payment_instrument_mutations`; a creation has nothing before it. -/
structure PaymentInstrumentMutationRecord where
  requestId : UUID
  instrumentId : UUID
  actorSubjectId : String
  command : InstrumentCommand
  before : Option PaymentInstrumentView
  after : PaymentInstrumentView
deriving DecidableEq

/-- The rows of one Book. -/
structure InstrumentTables where
  instruments : List PaymentInstrumentRecord
  bindings : List PaymentInstrumentBindingRecord
  mutations : List PaymentInstrumentMutationRecord
deriving DecidableEq

/-- What a request meets outside its tables. -/
structure InstrumentMoment where
  actorSubjectId : String
  catalogWrite : Bool
  accounts : List CardAccountRecord
  now : Instant

inductive InstrumentError
  | catalogWriteForbidden
  | instrument (message : String)
  | lookup (message : String)
  | integrity (constraint : String)
deriving DecidableEq

namespace InstrumentTables

def empty : InstrumentTables := ⟨[], [], []⟩

def instrument? (t : InstrumentTables) (instrumentId : UUID) :
    Option PaymentInstrumentRecord :=
  t.instruments.find? fun r => r.instrumentId = instrumentId

def binding? (t : InstrumentTables) (bindingId : UUID) :
    Option PaymentInstrumentBindingRecord :=
  t.bindings.find? fun r => r.bindingId = bindingId

def mutation? (t : InstrumentTables) (requestId : UUID) :
    Option PaymentInstrumentMutationRecord :=
  t.mutations.find? fun r => r.requestId = requestId

theorem instrumentId_of_instrument? {t : InstrumentTables} {instrumentId : UUID}
    {r : PaymentInstrumentRecord} (h : t.instrument? instrumentId = some r) :
    r.instrumentId = instrumentId := by
  simpa using List.find?_some h

theorem bindingId_of_binding? {t : InstrumentTables} {bindingId : UUID}
    {b : PaymentInstrumentBindingRecord} (h : t.binding? bindingId = some b) :
    b.bindingId = bindingId := by
  simpa using List.find?_some h

end InstrumentTables

def InstrumentMoment.account? (moment : InstrumentMoment) (accountId : UUID) :
    Option CardAccountRecord :=
  moment.accounts.find? fun a => a.accountId = accountId

/-! ## The operations -/

/-- `_validate_account_policy` -/
def validateAccountPolicy (account : CardAccountRecord) (policy : SettlementPolicy) :
    Except InstrumentError BindingRole :=
  if policy = .immediate ∨ policy = .prepaid then do
    require (account.accountType = .asset) (.instrument
      "immediate or prepaid cards require an asset settlement account")
    pure .fundingAsset
  else do
    require (account.accountType = .liability ∧ account.accountSubtype = some "credit_card")
      (.instrument "statement cards require a credit-card liability settlement account")
    pure .cardLiability

/-- The settlement account of a command. -/
def settlementAccount (moment : InstrumentMoment) (accountId : UUID)
    (assetCode : AssetCode) : Except InstrumentError CardAccountRecord := do
  let unavailable := InstrumentError.instrument
    "settlement account is unavailable or does not match asset_code"
  let account ← fetch (moment.account? accountId) unavailable
  require (account.active ∧ account.assetCode = assetCode ∧ account.systemRole = none)
    unavailable
  pure account

/-- `get_payment_instrument` -/
def getPaymentInstrument (moment : InstrumentMoment) (t : InstrumentTables)
    (instrumentId : UUID) : Except InstrumentError PaymentInstrumentView := do
  let instrument ← fetch (t.instrument? instrumentId)
    (.lookup "payment instrument was not found")
  let rows := (t.bindings.filter fun b => b.instrumentId = instrumentId).insertionSort
    fun a b => (toLex (a.effectiveFrom, a.bindingId) : Instant ×ₗ UUID)
      ≤ toLex (b.effectiveFrom, b.bindingId)
  let bindings := rows.filterMap fun b =>
    (moment.account? b.accountId).map fun a =>
      { bindingId := b.bindingId
        assetCode := b.assetCode
        settlementPolicy := instrument.settlementPolicy
        settlementAccountId := b.accountId
        settlementAccountName := a.currentName
        bindingRole := b.bindingRole
        status := b.status
        effectiveFrom := b.effectiveFrom
        effectiveTo := b.effectiveTo }
  let active := bindings.filter fun b => b.status = .active
  pure ⟨instrument, bindings, if active.length = 1 then active.head? else none⟩

/-- `v2_no_overlapping_card_binding`, before a row is written. -/
def noOverlappingCardBinding (t : InstrumentTables) (new : PaymentInstrumentBindingRecord) :
    Prop :=
  ∀ b ∈ t.bindings, b.instrumentId = new.instrumentId → b.assetCode = new.assetCode →
    b.bindingId ≠ new.bindingId → ¬overlap b.span new.span
where
  /-- `&&` of two ranges that are not empty: each begins before the other ends. -/
  overlap (a b : Span Instant) : Prop :=
    (∀ stop ∈ b.stop, a.start < stop) ∧ ∀ stop ∈ a.stop, b.start < stop

instance (a b : Span Instant) : Decidable (noOverlappingCardBinding.overlap a b) :=
  inferInstanceAs (Decidable (_ ∧ _))

instance (t : InstrumentTables) (new : PaymentInstrumentBindingRecord) :
    Decidable (noOverlappingCardBinding t new) :=
  inferInstanceAs (Decidable (∀ b ∈ t.bindings, _ → _ → _ → _))

/-- `INSERT INTO payment_instrument_bindings` -/
def insertBinding (t : InstrumentTables) (new : PaymentInstrumentBindingRecord) :
    Except InstrumentError InstrumentTables := do
  require (noOverlappingCardBinding t new)
    (.integrity "overlapping settlement binding for asset_code")
  require (t.binding? new.bindingId = none) (.integrity "pk_payment_instrument_bindings")
  pure { t with bindings := t.bindings ++ [new] }

/-- The duplicate check of a creation. -/
def refuseDuplicate (command : CreatePaymentInstrument) (t : InstrumentTables) :
    Except InstrumentError Unit :=
  let duplicate := t.instruments.find? fun r => command.last4 ≠ none
    ∧ r.providerCode = command.providerCode ∧ r.last4 = command.last4 ∧ r.status = .active
  match duplicate with
  | some r => .error (.instrument
      s!"card already exists ({r.instrumentId.text}); update its metadata or add a currency binding")
  | none => .ok ()

/-- `create_payment_instrument`; the receipt that is read again after the commit
is the one written here. -/
def createPaymentInstrument (moment : InstrumentMoment) (command : CreatePaymentInstrument)
    (t : InstrumentTables) : Except InstrumentError (PaymentInstrumentView × InstrumentTables) := do
  let conflict := InstrumentError.instrument
    "payment instrument identity conflicts with existing configuration"
  require moment.catalogWrite .catalogWriteForbidden
  match t.mutation? command.instrumentId with
  | some receipt =>
      require (receipt.command = .create command
        ∧ receipt.actorSubjectId = moment.actorSubjectId) conflict
      pure (receipt.after, t)
  | none =>
      let account ← settlementAccount moment command.settlementAccountId command.assetCode
      let role ← validateAccountPolicy account command.settlementPolicy
      match t.instrument? command.instrumentId with
      | some existing =>
          let binding ← fetch (t.binding? command.bindingId) conflict
          require (binding.instrumentId = command.instrumentId
            ∧ existing.formFactor = command.formFactor
            ∧ existing.network = command.network
            ∧ existing.providerCode = command.providerCode
            ∧ existing.settlementPolicy = command.settlementPolicy
            ∧ existing.currentName = command.currentName
            ∧ existing.last4 = command.last4
            ∧ existing.status = .active
            ∧ binding.accountId = command.settlementAccountId
            ∧ binding.assetCode = command.assetCode
            ∧ binding.bindingRole = role
            ∧ binding.priority = 100
            ∧ binding.status = .active
            ∧ binding.effectiveFrom = command.effectiveFrom.instant
            ∧ binding.effectiveTo = none) conflict
          let view ← getPaymentInstrument moment t command.instrumentId
          pure (view, t)
      | none =>
          refuseDuplicate command t
          let instrument : PaymentInstrumentRecord :=
            { instrumentId := command.instrumentId
              formFactor := command.formFactor
              network := command.network
              providerCode := command.providerCode
              settlementPolicy := command.settlementPolicy
              currentName := command.currentName
              last4 := command.last4
              status := .active
              version := 1
              effectiveFrom := command.effectiveFrom.instant
              effectiveTo := none }
          let t₁ ← insertBinding { t with instruments := t.instruments ++ [instrument] }
            { bindingId := command.bindingId
              instrumentId := command.instrumentId
              accountId := command.settlementAccountId
              assetCode := command.assetCode
              bindingRole := role
              priority := 100
              status := .active
              effectiveFrom := command.effectiveFrom.instant
              effectiveTo := none }
          let view ← getPaymentInstrument moment t₁ command.instrumentId
          pure (view, { t₁ with
            mutations := t₁.mutations ++
              [⟨command.instrumentId, command.instrumentId, moment.actorSubjectId,
                .create command, none, view⟩] })

/-- The columns that an update sets. -/
def InstrumentUpdate.apply (fields : InstrumentUpdate) (instrument : PaymentInstrumentRecord) :
    PaymentInstrumentRecord :=
  { instrument with
    currentName := (fields.currentName.map strip).getD instrument.currentName
    network := fields.network.getD instrument.network
    providerCode := fields.providerCode.getD instrument.providerCode
    formFactor := fields.formFactor.getD instrument.formFactor
    last4 := fields.last4.getD instrument.last4 }

/-- The branches of `mutate_payment_instrument`: the instrument as it is changed
in memory, and the tables with the binding that is added or closed. -/
def applyOperation (uuid5 : UUID → String → UUID) (moment : InstrumentMoment)
    (command : PaymentInstrumentMutation) (instrument : PaymentInstrumentRecord)
    (t : InstrumentTables) :
    Except InstrumentError (PaymentInstrumentRecord × InstrumentTables) :=
  match command.operation with
  | .update fields => pure (fields.apply instrument, t)
  | .close => do
      require (instrument.status = .active) (.instrument "instrument is already inactive")
      pure ({ instrument with status := .closed, effectiveTo := some moment.now }, t)
  | .reopen => do
      require (instrument.status ≠ .active) (.instrument "instrument is already active")
      pure ({ instrument with
        status := .active
        effectiveFrom := moment.now
        effectiveTo := none }, t)
  | .addBinding settlementAccountId assetCode settlementPolicy effectiveFrom => do
      require (instrument.status = .active)
        (.instrument "cannot bind an inactive instrument")
      require (settlementPolicy = instrument.settlementPolicy)
        (.instrument "binding policy must match the card settlement policy")
      let account ← settlementAccount moment settlementAccountId assetCode
      let role ← validateAccountPolicy account settlementPolicy
      require (∀ b ∈ t.bindings, ¬(b.instrumentId = command.instrumentId
          ∧ b.assetCode = assetCode
          ∧ ∀ stop ∈ b.effectiveTo, effectiveFrom.instant < stop))
        (.instrument "overlapping settlement binding for asset_code")
      let t₁ ← insertBinding t
        { bindingId := uuid5 command.requestId command.instrumentId.text
          instrumentId := command.instrumentId
          accountId := settlementAccountId
          assetCode := assetCode
          bindingRole := role
          priority := 100
          status := .active
          effectiveFrom := effectiveFrom.instant
          effectiveTo := none }
      pure (instrument, t₁)
  | .closeBinding bindingId effectiveTo => do
      let missing := InstrumentError.instrument "binding was not found on this instrument"
      let binding ← fetch (t.binding? bindingId) missing
      require (binding.instrumentId = command.instrumentId) missing
      require (binding.status = .active ∧ binding.effectiveFrom < effectiveTo.instant
          ∧ effectiveTo.instant ≤ moment.now) (.instrument
        "close requires an active binding and effective_from < effective_to <= now")
      let ended := { binding with status := .closed, effectiveTo := some effectiveTo.instant }
      require (noOverlappingCardBinding t ended)
        (.integrity "overlapping settlement binding for asset_code")
      pure (instrument, { t with
        bindings := t.bindings.map fun b => if b.bindingId = bindingId then ended else b })

/-- The operations after which the identity of an active card is checked. -/
def InstrumentOperation.checksIdentity : InstrumentOperation → Bool
  | .update _ => true
  | .reopen => true
  | _ => false

/-- `mutate_payment_instrument`; the flag says that an earlier receipt answers. -/
def mutatePaymentInstrument (uuid5 : UUID → String → UUID) (moment : InstrumentMoment)
    (command : PaymentInstrumentMutation) (t : InstrumentTables) :
    Except InstrumentError ((PaymentInstrumentView × Bool) × InstrumentTables) := do
  require moment.catalogWrite .catalogWriteForbidden
  match t.mutation? command.requestId with
  | some previous =>
      require (previous.command = .mutate command
          ∧ previous.actorSubjectId = moment.actorSubjectId) (.instrument
        "request_id conflicts with an earlier payment instrument mutation")
      pure ((previous.after, true), t)
  | none =>
      let before ← fetch (t.instrument? command.instrumentId)
        (.instrument "payment instrument was not found")
      let beforeView ← getPaymentInstrument moment t command.instrumentId
      let (changed, t₁) ← applyOperation uuid5 moment command before t
      require (changed.status = .active → changed.last4 ≠ none →
        command.operation.checksIdentity → ∀ r ∈ t.instruments,
          r.instrumentId ≠ command.instrumentId → r.providerCode = changed.providerCode →
          r.last4 = changed.last4 → r.status = .active →
          -- an existing duplicate may still correct its other columns
          command.operation ≠ .reopen
            ∧ (before.providerCode, before.last4) = (changed.providerCode, changed.last4))
        (.instrument "card identity matches another active instrument")
      let written := { changed with version := changed.version + 1 }
      let t₂ := { t₁ with instruments := t₁.instruments.map fun r =>
        if r.instrumentId = command.instrumentId then written else r }
      let view ← getPaymentInstrument moment t₂ command.instrumentId
      pure ((view, false), { t₂ with
        mutations := t₂.mutations ++
          [⟨command.requestId, command.instrumentId, moment.actorSubjectId,
            .mutate command, some beforeView, view⟩] })

/-! ## Resolution -/

/-- The rows of `resolve_payment_instrument`; `ilike value query` is `ILIKE`
with the query between wildcards. -/
def instrumentBindingRows (ilike : String → String → Bool) (t : InstrumentTables)
    (reference : PaymentInstrumentRef) (assetCode : AssetCode) (occurredAt : Instant) :
    List (PaymentInstrumentRecord × PaymentInstrumentBindingRecord) :=
  let selected := fun r : PaymentInstrumentRecord =>
    match reference.1.instrumentId with
    | some instrumentId => decide (r.instrumentId = instrumentId)
    | none =>
        (reference.1.query.any fun query =>
          ilike r.currentName query || decide (r.last4.map (·.1) = some query))
        && reference.1.last4.all (fun last4 => r.last4.map (·.1) = some last4)
        && reference.1.providerCode.all (r.providerCode = ·)
  let joined := t.instruments.flatMap fun r =>
    (t.bindings.filter fun b => b.instrumentId = r.instrumentId ∧ b.status = .active
        ∧ b.assetCode = assetCode ∧ b.effectiveFrom ≤ occurredAt
        ∧ ∀ stop ∈ b.effectiveTo, occurredAt < stop).map fun b => (r, b)
  (joined.filter fun row => selected row.1 && decide (row.1.status = .active
    ∧ row.1.effectiveFrom ≤ occurredAt)).insertionSort (·.2.priority ≤ ·.2.priority)

/-- `resolve_payment_instrument` -/
def resolvePaymentInstrument (ilike : String → String → Bool) (moment : InstrumentMoment)
    (t : InstrumentTables) (reference : PaymentInstrumentRef) (assetCode : AssetCode)
    (occurredAt : Instant) :
    Except InstrumentError (PaymentInstrumentRecord × PaymentInstrumentBindingRecord) :=
  match instrumentBindingRows ilike t reference assetCode occurredAt with
  | [] => .error (.instrument s!"No active {assetCode.1} settlement binding exists for this payment instrument at the requested time")
  | [(instrument, binding)] => do
      let stale := InstrumentError.instrument "payment instrument binding is stale"
      let account ← fetch (moment.account? binding.accountId) stale
      require (account.active ∧ account.systemRole = none
        ∧ account.assetCode = binding.assetCode) stale
      let role ← validateAccountPolicy account instrument.settlementPolicy
      require (role = binding.bindingRole) stale
      pure (instrument, binding)
  | _ :: _ :: _ =>
      .error (.instrument "payment instrument reference is ambiguous; use instrument_id")

end TrackAnywhere.Ports
