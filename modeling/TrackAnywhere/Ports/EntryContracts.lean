import TrackAnywhere.Ports.EntryIntents

/-!
# Entry contracts

The everyday entry as the gateway receives it: six kinds, each with its amounts
and its references to accounts and categories.  A contract is a record of raw
fields with a validator, and `Validated` is the type of what the validator
returns, so that a blank query or a zero amount never reaches the compiler.

An entry that a payment instrument was resolved into is a copy with two fields
updated, which the source does not validate again.  The kinds are therefore
plain records, and `EverydayEntryInput` is an entry that passed its validator.
-/

namespace TrackAnywhere.Ports

open TrackAnywhere.Verified.Checked

/-! ## Validated records -/

section Validated

variable {α : Type} {check : α → Except String α}

/-- The values that a validator returns. -/
abbrev Validated (check : α → Except String α) :=
  { a : α // ∃ raw, check raw = .ok a }

/-- Validate raw fields. -/
def parse (check : α → Except String α) (raw : α) :
    Except String (Validated check) :=
  match h : check raw with
  | .ok a => .ok ⟨a, raw, h⟩
  | .error message => .error message

@[simp] theorem parse_eq_ok {raw : α} {a : Validated check} :
    parse check raw = .ok a ↔ check raw = .ok a.1 := by
  unfold parse
  split
  · next v hCheck => simp only [hCheck, Except.ok.injEq, Subtype.ext_iff]
  · next message hCheck => simp [hCheck]

end Validated

/-! ## Texts -/

/-- `str.isspace` of one character. -/
def isPythonSpace (c : Char) : Bool :=
  decide ((9 ≤ c.toNat ∧ c.toNat ≤ 13) ∨ (28 ≤ c.toNat ∧ c.toNat ≤ 32)
    ∨ (0x2000 ≤ c.toNat ∧ c.toNat ≤ 0x200A)
    ∨ c.toNat ∈ [0x85, 0xA0, 0x1680, 0x2028, 0x2029, 0x202F, 0x205F, 0x3000])

/-- `str.rstrip` of the characters that `p` accepts. -/
def rstripWhile (p : Char → Bool) (cs : List Char) : List Char :=
  (cs.reverse.dropWhile p).reverse

/-- `str.strip` -/
def strip (s : String) : String :=
  String.ofList (rstripWhile isPythonSpace (s.toList.dropWhile isPythonSpace))

/-- `str.partition(".")`: the part before the first dot, and the part after it
where there is one. -/
def partitionDot (s : String) : List Char × Option (List Char) :=
  (s.toList.takeWhile (· ≠ '.'),
    match s.toList.dropWhile (· ≠ '.') with
    | [] => none
    | _ :: fraction => some fraction)

/-- `^[0-9]+(?:\.[0-9]+)?$` -/
def plainDecimal (s : String) : Bool :=
  let (whole, fraction) := partitionDot s
  !whole.isEmpty && whole.all isDigit
    && fraction.all fun digits => !digits.isEmpty && digits.all isDigit

/-- A plain decimal that keeps a digit when its zeros are stripped. -/
def positivePlainDecimal (s : String) : Bool :=
  plainDecimal s
    && !(["", "0"].contains
      (String.ofList (rstripWhile (· = '.') (rstripWhile (· = '0') s.toList))))

/-- The field constraints of a text: its length, and one more condition. -/
def checkText (maximum : Nat) (accepts : String → Bool) (message s : String) :
    Except String Unit := do
  require (1 ≤ s.length) "String should have at least 1 character"
  require (s.length ≤ maximum)
    s!"String should have at most {maximum} characters"
  require (accepts s) message

/-- `^[0-9]{4}$` -/
def last4Pattern (s : String) : Bool := decide (s.length = 4) && s.toList.all isDigit

/-- `^[a-z][a-z0-9]*(?:_[a-z0-9]+)*$`: no underscore at the end, none after
another. -/
def accountSubtypePattern (s : String) : Bool :=
  matchesPattern isLower (fun c => isLower c || isDigit c || c = '_') s.length s
    && s.toList.getLast? ≠ some '_'
    && decide ¬ ['_', '_'] <:+: s.toList

/-- Checks of an optional field. -/
def forOption {α : Type} (value : Option α) (check : α → Except String Unit) :
    Except String Unit :=
  forEach value.toList check

/-! ## Amounts -/

inductive MoneyDenomination
  | assetUnit
  | minorUnit
deriving DecidableEq

structure AmountFields where
  value : String
  denomination : MoneyDenomination
  assetCode : AssetCode
  sourceText : String
deriving DecidableEq

namespace AmountFields

/-- The validators that `MoneyInput` and `BalanceInput` share, over the check
of the value that they do not. -/
def validate (accepts : String → Bool) (message : String) (self : AmountFields) :
    Except String AmountFields := do
  checkText 96 accepts message self.value
  checkText 256 (fun s => strip s ≠ "") "source_text must be nonblank"
    self.sourceText
  pure self

def validateMoney : AmountFields → Except String AmountFields :=
  validate positivePlainDecimal
    "value must be a positive unsigned plain-decimal string"

def validateBalance : AmountFields → Except String AmountFields :=
  validate plainDecimal "value must be a non-negative plain-decimal string"

variable {accepts : String → Bool} {message : String}

theorem eq_of_validate {raw a : AmountFields}
    (h : validate accepts message raw = .ok a) : raw = a := by
  simp only [validate, bind_eq_ok, pure_eq_ok] at h
  obtain ⟨-, -, -, -, rfl⟩ := h
  rfl

/-- An amount that was read once is read again. -/
theorem parse_validated (a : Validated (validate accepts message)) :
    parse (validate accepts message) a.1 = .ok a := by
  obtain ⟨raw, hRaw⟩ := a.2
  rw [parse_eq_ok]
  rwa [eq_of_validate hRaw] at hRaw

end AmountFields

/-- Exact user-facing amount. -/
abbrev MoneyInput := Validated AmountFields.validateMoney

/-- Exact observed balance, including zero. -/
abbrev BalanceInput := Validated AmountFields.validateBalance

/-! ## References -/

structure AccountRefFields where
  accountId : Option UUID
  query : Option String
  last4 : Option String
  subtype : Option String
deriving DecidableEq

namespace AccountRefFields

def validate (self : AccountRefFields) : Except String AccountRefFields := do
  forOption self.query
    (checkText 256 (fun s => strip s ≠ "") "account query must be nonblank")
  forOption self.last4
    (checkText 4 last4Pattern "String should match pattern '^[0-9]\x7b4\x7d$'")
  forOption self.subtype
    (checkText 64 accountSubtypePattern "account subtype is invalid")
  require (self.accountId.isSome ≠ self.query.isSome)
    "account reference requires exactly one selector"
  require (self.accountId = none ∨ (self.last4 = none ∧ self.subtype = none))
    "account query hints require a query selector"
  pure { self with query := self.query.map strip }

/-- The fields of `{"account_id": …}`. -/
def byId (accountId : UUID) : AccountRefFields := ⟨some accountId, none, none, none⟩

end AccountRefFields

/-- An exact account ID or a human query with optional disambiguators. -/
abbrev AccountRef := Validated AccountRefFields.validate

/-- `AccountRef(account_id=…)`. -/
def AccountRef.ofId (accountId : UUID) : AccountRef :=
  ⟨.byId accountId, .byId accountId, rfl⟩

structure CategoryRefFields where
  categoryId : Option UUID
  path : Option (List String)
  query : Option String
deriving DecidableEq

namespace CategoryRefFields

def validate (self : CategoryRefFields) : Except String CategoryRefFields := do
  forOption self.path fun path => do
    require (1 ≤ path.length ∧ path.length ≤ 16)
      "Tuple should have at least 1 and at most 16 items"
    forEach path fun part =>
      require (strip part ≠ "" ∧ (strip part).length ≤ 128)
        "category path components must be nonblank and bounded"
  forOption self.query
    (checkText 256 (fun s => strip s ≠ "") "category query must be nonblank")
  require ((if self.categoryId.isSome then 1 else 0)
      + (if self.path.isSome then 1 else 0) + (if self.query.isSome then 1 else 0) = 1)
    "category reference requires exactly one selector"
  pure { self with
    path := self.path.map (·.map strip)
    query := self.query.map strip }

/-- The fields of `{"category_id": …}`. -/
def byId (categoryId : UUID) : CategoryRefFields := ⟨some categoryId, none, none⟩

end CategoryRefFields

/-- An exact category ID, complete path, or human query. -/
abbrev CategoryRef := Validated CategoryRefFields.validate

/-- `CategoryRef(category_id=…)`. -/
def CategoryRef.ofId (categoryId : UUID) : CategoryRef :=
  ⟨.byId categoryId, .byId categoryId, rfl⟩

structure PaymentInstrumentRefFields where
  instrumentId : Option UUID
  query : Option String
  last4 : Option String
  providerCode : Option ProviderCode
deriving DecidableEq

def PaymentInstrumentRefFields.validate (self : PaymentInstrumentRefFields) :
    Except String PaymentInstrumentRefFields := do
  forOption self.query
    (checkText 256 (fun s => strip s ≠ "")
      "payment instrument query must be nonblank")
  forOption self.last4
    (checkText 4 last4Pattern "String should match pattern '^[0-9]\x7b4\x7d$'")
  require (self.instrumentId.isSome ≠ self.query.isSome)
    "payment instrument reference requires exactly one selector"
  require (self.instrumentId = none ∨ (self.last4 = none ∧ self.providerCode = none))
    "payment instrument query hints require a query selector"
  pure { self with query := self.query.map strip }

abbrev PaymentInstrumentRef := Validated PaymentInstrumentRefFields.validate

def PaymentInstrumentRef.ofId (instrumentId : UUID) : PaymentInstrumentRef :=
  ⟨⟨some instrumentId, none, none, none⟩, ⟨some instrumentId, none, none, none⟩, rfl⟩

/-! ## Narratives -/

structure ExternalReferenceInput where
  providerCode : ProviderCode
  kind : ReferenceKind
  reference : ExternalReferenceValue
deriving DecidableEq

/-- The narrative over its amounts, which are typed in an entry and objects in
a document. -/
structure NarrativeFields (M : Type) where
  merchant : Option String
  channel : Option String
  note : Option String
  externalReference : Option ExternalReferenceInput
  grossAmount : Option M
  discountAmount : Option M
deriving DecidableEq

def NarrativeFields.validate {M : Type} (self : NarrativeFields M) :
    Except String (NarrativeFields M) := do
  forOption self.merchant (text 256)
  forOption self.channel (text 128)
  forOption self.note (text 1024)
  pure self
where
  text (maximum : Nat) : String → Except String Unit :=
    checkText maximum (fun s => strip s ≠ "")
      "private narrative text must be nonblank"

/-- Private text destined for encrypted protected content. -/
abbrev EntryNarrativeInput := Validated (@NarrativeFields.validate MoneyInput)

/-! ## The six kinds -/

/-- An aware `datetime`: the instant and the offset that its text shows. -/
structure AwareDatetime where
  instant : Instant
  utcOffset : Int
deriving DecidableEq

structure CategoryAllocationInput where
  category : CategoryRef
  amount : MoneyInput
deriving DecidableEq

/-- The fields that every entry has. -/
structure TimedEntryInput where
  occurredAt : AwareDatetime
  narrative : Option EntryNarrativeInput
deriving DecidableEq

/-- The fields of a categorized entry. -/
structure CategorizedEntryInput extends TimedEntryInput where
  amount : MoneyInput
  category : Option CategoryRef
  categoryAllocations : List CategoryAllocationInput
deriving DecidableEq

def checkAllocationCount (allocations : List CategoryAllocationInput) :
    Except String Unit :=
  require (allocations.length ≤ 64) "Tuple should have at most 64 items"

def CategorizedEntryInput.validateClassificationShape (self : CategorizedEntryInput) :
    Except String Unit := do
  checkAllocationCount self.categoryAllocations
  require (self.category.isSome = self.categoryAllocations.isEmpty)
    "entry requires either one category or category allocations"

structure ExpenseEntryInput extends CategorizedEntryInput where
  sourceAccount : Option AccountRef
  paymentInstrument : Option PaymentInstrumentRef
deriving DecidableEq

def ExpenseEntryInput.validatePaymentSource (self : ExpenseEntryInput) :
    Except String Unit := do
  self.validateClassificationShape
  require (self.sourceAccount.isSome ≠ self.paymentInstrument.isSome)
    "expense requires exactly one source_account or payment_instrument"

structure IncomeEntryInput extends CategorizedEntryInput where
  destinationAccount : AccountRef
deriving DecidableEq

structure TransferEntryInput extends TimedEntryInput where
  amount : MoneyInput
  sourceAccount : AccountRef
  destinationAccount : AccountRef
deriving DecidableEq

def TransferEntryInput.validateDistinctAccounts (self : TransferEntryInput) :
    Except String Unit :=
  require (self.sourceAccount ≠ self.destinationAccount)
    "transfer accounts must be distinct"

structure CreditCardPaymentEntryInput extends TimedEntryInput where
  amount : MoneyInput
  fundingAccount : AccountRef
  cardAccount : Option AccountRef
  paymentInstrument : Option PaymentInstrumentRef
  sourceAmount : Option MoneyInput
  feeAmount : Option MoneyInput
  feeCategory : Option CategoryRef
deriving DecidableEq

def CreditCardPaymentEntryInput.validatePaymentTarget
    (self : CreditCardPaymentEntryInput) : Except String Unit := do
  require (self.cardAccount.isSome ≠ self.paymentInstrument.isSome)
    "credit-card payment requires exactly one card_account or payment_instrument"
  require (self.cardAccount ≠ some self.fundingAccount)
    "credit-card payment accounts must be distinct"
  match self.sourceAmount, self.feeAmount, self.feeCategory with
  | none, none, none => pure ()
  | some source, some fee, some _ => do
      require (source.1.assetCode ≠ self.amount.1.assetCode)
        "cross-asset card payment requires two assets"
      require (fee.1.assetCode = source.1.assetCode)
        "fee asset must match the source asset"
  | _, _, _ => .error ("cross-asset card payment requires source amount, fee amount, "
      ++ "and fee category")

structure RefundEntryInput extends TimedEntryInput where
  originalTransactionId : UUID
  amount : Option MoneyInput
  categoryAllocations : List CategoryAllocationInput
deriving DecidableEq

def RefundEntryInput.validateRefundAllocations (self : RefundEntryInput) :
    Except String Unit := do
  checkAllocationCount self.categoryAllocations
  require (self.categoryAllocations = [] ∨ self.amount ≠ none)
    "refund allocations require an explicit partial amount"

structure AdjustmentEntryInput extends TimedEntryInput where
  account : AccountRef
  actualBalance : BalanceInput
deriving DecidableEq

/-- An entry of one of the six kinds, its fields valid and its model validator
not yet run. -/
inductive EverydayEntry
  | expense (entry : ExpenseEntryInput)
  | income (entry : IncomeEntryInput)
  | transfer (entry : TransferEntryInput)
  | creditCardPayment (entry : CreditCardPaymentEntryInput)
  | refund (entry : RefundEntryInput)
  | adjustment (entry : AdjustmentEntryInput)
deriving DecidableEq

inductive EntryKind
  | expense
  | income
  | transfer
  | creditCardPayment
  | refund
  | adjustment
deriving DecidableEq

def EntryKind.value : EntryKind → String
  | expense => "expense"
  | income => "income"
  | transfer => "transfer"
  | creditCardPayment => "credit_card_payment"
  | refund => "refund"
  | adjustment => "adjustment"

namespace EverydayEntry

def kind : EverydayEntry → EntryKind
  | expense _ => .expense
  | income _ => .income
  | transfer _ => .transfer
  | creditCardPayment _ => .creditCardPayment
  | refund _ => .refund
  | adjustment _ => .adjustment

def timed : EverydayEntry → TimedEntryInput
  | expense e => e.toTimedEntryInput
  | income e => e.toTimedEntryInput
  | transfer e => e.toTimedEntryInput
  | creditCardPayment e => e.toTimedEntryInput
  | refund e => e.toTimedEntryInput
  | adjustment e => e.toTimedEntryInput

def occurredAt (entry : EverydayEntry) : AwareDatetime := entry.timed.occurredAt

/-- The model validators of the kind. -/
def validate : EverydayEntry → Except String Unit
  | expense e => e.validatePaymentSource
  | income e => e.validateClassificationShape
  | transfer e => e.validateDistinctAccounts
  | creditCardPayment e => e.validatePaymentTarget
  | refund e => e.validateRefundAllocations
  | adjustment _ => .ok ()

end EverydayEntry

/-- An entry that passed the validators of its kind. -/
abbrev EverydayEntryInput := { e : EverydayEntry // e.validate = .ok () }

end TrackAnywhere.Ports
