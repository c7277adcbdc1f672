import TrackAnywhere.Ports.CommandReceipts
import TrackAnywhere.Ports.HashPreimage
import TrackAnywhere.Ports.LotAllocations

/-!
# The requests behind the receipts

Each class of financial commands writes its own idempotency payload.  A receipt
is answered when the hashes of the requests are equal, so that a field which a
payload leaves out, or runs together with another, would let one request be
answered with the result of another.

The fields of a class are those of the source without the Book, the command and
the stream versions that its constructor fixes at zero.  Amounts and asset codes
are texts here, before any of their checks.
-/

namespace TrackAnywhere.Ports

open TrackAnywhere.Verified.Checked
open JSONValue

/-! ## Values that can be read back -/

section Encodes

variable {α : Type}

/-- The value determines what was dumped, whatever the order of its keys. -/
def Encodes (dump : α → JSONValue) : Prop :=
  ∀ a b, (dump a).Same (dump b) → a = b

theorem encodes_text {text : α → String} (hText : Function.Injective text) :
    Encodes fun a => .str (text a) :=
  fun _ _ h => hText (same_str.1 h)

theorem encodes_str : Encodes JSONValue.str := encodes_text Function.injective_id

theorem encodes_uuid : Encodes JSONValue.uuid :=
  encodes_text fun _ _ h => uuidText_injective h

theorem encodes_nat : Encodes JSONValue.nat := by
  intro a b h
  unfold JSONValue.Same at h
  rw [sortKeys_nat, sortKeys_nat] at h
  exact nat_injective h

/-- A text is never `null`. -/
theorem encodes_optional {text : α → String} (hText : Function.Injective text) :
    Encodes (JSONValue.optional fun a => .str (text a)) := by
  intro a b h
  cases a with
  | none =>
      cases b with
      | none => rfl
      | some b => simp [JSONValue.Same, JSONValue.optional, JSONValue.sortKeys] at h
  | some a =>
      cases b with
      | none => simp [JSONValue.Same, JSONValue.optional, JSONValue.sortKeys] at h
      | some b => rw [hText (same_str.1 h)]

theorem encodes_list {dump : α → JSONValue} (h : Encodes dump) :
    Encodes fun items : List α => .list (items.map dump) := by
  intro items items' hSame
  unfold JSONValue.Same at hSame
  rw [sortKeys_list, sortKeys_list] at hSame
  have hValues := JSONValue.list.inj hSame
  rw [List.map_map, List.map_map] at hValues
  exact List.map_injective_iff.2 (fun a b hEq => h a b hEq) hValues

/-- A payload determines its fields when its members, key by key, do. -/
theorem encodes_dict {members : α → List (String × JSONValue)} (keys : List String)
    (hKeys : ∀ a, (members a).map Prod.fst = keys) (hDistinct : keys.Nodup)
    (h : ∀ a b, (members a).map (fun m => (m.1, m.2.sortKeys))
      = (members b).map (fun m => (m.1, m.2.sortKeys)) → a = b) :
    Encodes fun a => .dict (members a) := by
  intro a b hSame
  refine h a b (sortKeys_members hSame ?_ ?_)
  · rw [hKeys, hKeys]
  · rwa [hKeys]

end Encodes

/-! ## Parts of payloads -/

/-- `PostTransactionPosting` -/
structure PostTransactionPosting where
  postingId : UUID
  accountId : UUID
  assetCode : String
  side : PostingSide
  amount : String
deriving DecidableEq

def PostTransactionPosting.canonicalValue (self : PostTransactionPosting) : JSONValue :=
  .dict [("account_id", uuid self.accountId), ("amount", .str self.amount),
    ("asset_code", .str self.assetCode), ("posting_id", uuid self.postingId),
    ("side", .str self.side.value)]

/-- The lines of `AssignReportingLinesCommand`. -/
structure AssignedLine where
  lineId : UUID
  lineVersionId : UUID
  catalogId : UUID
  assetCode : String
  units : String
  lineKind : ReportingLineKind
  dimension : ReportingDimension
  dimensionId : Option UUID
  descriptionRef : Option UUID
deriving DecidableEq

def AssignedLine.canonicalValue (self : AssignedLine) : JSONValue :=
  .dict [("asset_code", .str self.assetCode), ("catalog_id", uuid self.catalogId),
    ("description_ref", JSONValue.optional uuid self.descriptionRef),
    ("dimension", .str self.dimension.value),
    ("dimension_id", JSONValue.optional uuid self.dimensionId), ("line_id", uuid self.lineId),
    ("line_kind", .str self.lineKind.value),
    ("line_version_id", uuid self.lineVersionId), ("units", .str self.units)]

/-- `SpecificLotRequest` of a disposal, with its units as they are dumped. -/
def SpecificLotRequest.canonicalValue (self : SpecificLotRequest) : JSONValue :=
  .dict [("lot_id", uuid self.lotId), ("quantity_units", nat self.quantityUnits)]

def AllocationMethod.value : AllocationMethod → String
  | fifo => "fifo"
  | specificId => "specific_id"

/-- `CorrectionReplacement` -/
structure CorrectionReplacement where
  transactionId : UUID
  kind : TransactionKind
  postings : List PostTransactionPosting
  effectiveAt : Instant
  descriptionRef : Option UUID
  externalReferences : List FinancialExternalReference
deriving DecidableEq

def CorrectionReplacement.canonicalValue (self : CorrectionReplacement) : JSONValue :=
  .dict [("description_ref", JSONValue.optional uuid self.descriptionRef),
    ("effective_at", .str (formatUtcMicroseconds self.effectiveAt)),
    ("expected_stream_version", nat 0),
    ("external_references", .list (self.externalReferences.map (·.dump))),
    ("kind", .str self.kind.value),
    ("postings", .list (self.postings.map (·.canonicalValue))),
    ("transaction_id", uuid self.transactionId)]

section Parts

variable {α : Type} {dump : α → JSONValue}

/-- The dumps are equal when the values are. -/
theorem Encodes.iff (h : Encodes dump) {a b : α} :
    (dump a).sortKeys = (dump b).sortKeys ↔ a = b :=
  ⟨fun hSame => h a b hSame, fun hEq => by rw [hEq]⟩

@[simp] theorem sortKeys_uuid_inj {a b : UUID} :
    (uuid a).sortKeys = (uuid b).sortKeys ↔ a = b :=
  encodes_uuid.iff

@[simp] theorem sortKeys_nat_inj {a b : Nat} :
    (nat a).sortKeys = (nat b).sortKeys ↔ a = b :=
  encodes_nat.iff

@[simp] theorem sortKeys_optional_uuid_inj {a b : Option UUID} :
    (JSONValue.optional uuid a).sortKeys = (JSONValue.optional uuid b).sortKeys ↔ a = b :=
  (encodes_optional fun _ _ h => uuidText_injective h).iff

@[simp] theorem sortKeys_optional_str_inj {a b : Option String} :
    (JSONValue.optional JSONValue.str a).sortKeys
      = (JSONValue.optional JSONValue.str b).sortKeys ↔ a = b :=
  (encodes_optional Function.injective_id).iff

@[simp] theorem formatUtcMicroseconds_inj {a b : Instant} :
    formatUtcMicroseconds a = formatUtcMicroseconds b ↔ a = b :=
  ⟨formatUtcMicroseconds_injective, fun h => by rw [h]⟩

@[simp] theorem hex_inj {a b : EventHash} : a.hex = b.hex ↔ a = b :=
  ⟨hashHex_injective, fun h => by rw [h]⟩

@[simp] theorem PostingSide.value_inj {a b : PostingSide} :
    a.value = b.value ↔ a = b := by
  cases a <;> cases b <;> decide

@[simp] theorem ExternalReferenceKind.value_inj {a b : ExternalReferenceKind} :
    a.value = b.value ↔ a = b := by
  cases a <;> cases b <;> decide

@[simp] theorem ReversalReasonCode.value_inj {a b : ReversalReasonCode} :
    a.value = b.value ↔ a = b := by
  cases a <;> cases b <;> decide

@[simp] theorem TransactionKind.value_inj {a b : TransactionKind} :
    a.value = b.value ↔ a = b := by
  cases a <;> cases b <;> decide

@[simp] theorem ReportingLineKind.value_inj {a b : ReportingLineKind} :
    a.value = b.value ↔ a = b := by
  cases a <;> cases b <;> decide

@[simp] theorem ReportingDimension.value_inj {a b : ReportingDimension} :
    a.value = b.value ↔ a = b := by
  cases a <;> cases b <;> decide

@[simp] theorem AllocationMethod.value_inj {a b : AllocationMethod} :
    a.value = b.value ↔ a = b := by
  cases a <;> cases b <;> decide

theorem FinancialExternalReference.encodes : Encodes FinancialExternalReference.dump := by
  refine encodes_dict ["provider_code", "kind", "reference"] (fun _ => rfl) (by decide) ?_
  rintro ⟨⟨provider, _⟩, kind, ⟨reference, _⟩⟩ ⟨⟨provider', _⟩, kind', ⟨reference', _⟩⟩ h
  simp only [List.map_cons, List.map_nil, sortKeys_str, List.cons.injEq, Prod.mk.injEq,
    JSONValue.str.injEq, ExternalReferenceKind.value_inj, true_and, and_true] at h
  obtain ⟨rfl, rfl, rfl⟩ := h
  rfl

@[simp] theorem sortKeys_references_inj {a b : List FinancialExternalReference} :
    (JSONValue.list (a.map (·.dump))).sortKeys
      = (JSONValue.list (b.map (·.dump))).sortKeys ↔ a = b :=
  (encodes_list FinancialExternalReference.encodes).iff

theorem PostTransactionPosting.encodes : Encodes PostTransactionPosting.canonicalValue := by
  refine encodes_dict ["account_id", "amount", "asset_code", "posting_id", "side"]
    (fun _ => rfl) (by decide) ?_
  rintro ⟨⟩ ⟨⟩ h
  simp only [List.map_cons, List.map_nil, sortKeys_str, List.cons.injEq, Prod.mk.injEq,
    JSONValue.str.injEq, sortKeys_uuid_inj, PostingSide.value_inj, true_and, and_true] at h
  obtain ⟨rfl, rfl, rfl, rfl, rfl⟩ := h
  rfl

@[simp] theorem sortKeys_postings_inj {a b : List PostTransactionPosting} :
    (JSONValue.list (a.map (·.canonicalValue))).sortKeys
      = (JSONValue.list (b.map (·.canonicalValue))).sortKeys ↔ a = b :=
  (encodes_list PostTransactionPosting.encodes).iff

theorem AssignedLine.encodes : Encodes AssignedLine.canonicalValue := by
  refine encodes_dict ["asset_code", "catalog_id", "description_ref", "dimension",
    "dimension_id", "line_id", "line_kind", "line_version_id", "units"]
    (fun _ => rfl) (by decide) ?_
  rintro ⟨⟩ ⟨⟩ h
  simp only [List.map_cons, List.map_nil, sortKeys_str, List.cons.injEq, Prod.mk.injEq,
    JSONValue.str.injEq, sortKeys_uuid_inj, sortKeys_optional_uuid_inj,
    ReportingLineKind.value_inj, ReportingDimension.value_inj, true_and, and_true] at h
  obtain ⟨rfl, rfl, rfl, rfl, rfl, rfl, rfl, rfl, rfl⟩ := h
  rfl

@[simp] theorem sortKeys_lines_inj {a b : List AssignedLine} :
    (JSONValue.list (a.map (·.canonicalValue))).sortKeys
      = (JSONValue.list (b.map (·.canonicalValue))).sortKeys ↔ a = b :=
  (encodes_list AssignedLine.encodes).iff

theorem SpecificLotRequest.encodes : Encodes SpecificLotRequest.canonicalValue := by
  refine encodes_dict ["lot_id", "quantity_units"] (fun _ => rfl) (by decide) ?_
  rintro ⟨⟩ ⟨⟩ h
  simp only [List.map_cons, List.map_nil, List.cons.injEq, Prod.mk.injEq,
    sortKeys_uuid_inj, sortKeys_nat_inj, true_and, and_true] at h
  obtain ⟨rfl, rfl⟩ := h
  rfl

@[simp] theorem sortKeys_lots_inj {a b : List SpecificLotRequest} :
    (JSONValue.list (a.map (·.canonicalValue))).sortKeys
      = (JSONValue.list (b.map (·.canonicalValue))).sortKeys ↔ a = b :=
  (encodes_list SpecificLotRequest.encodes).iff

theorem CorrectionReplacement.encodes : Encodes CorrectionReplacement.canonicalValue := by
  refine encodes_dict ["description_ref", "effective_at", "expected_stream_version",
    "external_references", "kind", "postings", "transaction_id"]
    (fun _ => rfl) (by decide) ?_
  rintro ⟨⟩ ⟨⟩ h
  simp only [List.map_cons, List.map_nil, sortKeys_str, List.cons.injEq, Prod.mk.injEq,
    JSONValue.str.injEq, sortKeys_uuid_inj, sortKeys_optional_uuid_inj,
    formatUtcMicroseconds_inj, sortKeys_references_inj, sortKeys_postings_inj,
    TransactionKind.value_inj, true_and, and_true] at h
  obtain ⟨rfl, rfl, rfl, rfl, rfl, rfl⟩ := h
  rfl

@[simp] theorem sortKeys_replacement_inj {a b : CorrectionReplacement} :
    a.canonicalValue.sortKeys = b.canonicalValue.sortKeys ↔ a = b :=
  CorrectionReplacement.encodes.iff

end Parts

/-! ## The classes of commands -/

/-- `PostTransactionCommand` -/
structure PostTransactionRequest where
  transactionId : UUID
  expectedStreamVersion : Nat
  kind : TransactionKind
  postings : List PostTransactionPosting
  effectiveAt : Instant
  descriptionRef : Option UUID
  externalReferences : List FinancialExternalReference
deriving DecidableEq

def PostTransactionRequest.idempotencyPayload (self : PostTransactionRequest) :
    List (String × JSONValue) :=
  [("description_ref", JSONValue.optional uuid self.descriptionRef),
    ("effective_at", .str (formatUtcMicroseconds self.effectiveAt)),
    ("expected_stream_version", nat self.expectedStreamVersion),
    ("external_references", .list (self.externalReferences.map (·.dump))),
    ("kind", .str self.kind.value), ("postings", .list (self.postings.map (·.canonicalValue))),
    ("transaction_id", uuid self.transactionId)]

/-- `SimpleTransactionCommand` -/
structure SimpleTransactionRequest where
  transactionId : UUID
  assetCode : String
  amount : String
  effectiveAt : Instant
deriving DecidableEq

/-- `_base_payload` -/
def SimpleTransactionRequest.basePayload (self : SimpleTransactionRequest) :
    List (String × JSONValue) :=
  [("amount", .str self.amount), ("asset_code", .str self.assetCode),
    ("effective_at", .str (formatUtcMicroseconds self.effectiveAt)),
    ("expected_stream_version", nat 0), ("transaction_id", uuid self.transactionId)]

/-- `RecordExpenseCommand` -/
structure RecordExpenseRequest extends SimpleTransactionRequest where
  sourceAccountId : UUID
  expenseAccountId : UUID
deriving DecidableEq

def RecordExpenseRequest.idempotencyPayload (self : RecordExpenseRequest) :
    List (String × JSONValue) :=
  self.basePayload ++
    [("expense_account_id", uuid self.expenseAccountId),
      ("source_account_id", uuid self.sourceAccountId)]

/-- `RecordTransferCommand` -/
structure RecordTransferRequest extends SimpleTransactionRequest where
  sourceAccountId : UUID
  targetAccountId : UUID
deriving DecidableEq

def RecordTransferRequest.idempotencyPayload (self : RecordTransferRequest) :
    List (String × JSONValue) :=
  self.basePayload ++
    [("source_account_id", uuid self.sourceAccountId),
      ("target_account_id", uuid self.targetAccountId)]

/-- `RecordFxCommand` -/
structure RecordFxRequest where
  transactionId : UUID
  expectedStreamVersion : Nat
  sourceAccountId : UUID
  sourceTradingAccountId : UUID
  sourceAssetCode : String
  sourceAmount : String
  targetTradingAccountId : UUID
  targetAccountId : UUID
  targetAssetCode : String
  targetAmount : String
  effectiveAt : Instant
  descriptionRef : Option UUID
  externalReferences : List FinancialExternalReference
deriving DecidableEq

def RecordFxRequest.idempotencyPayload (self : RecordFxRequest) :
    List (String × JSONValue) :=
  [("description_ref", JSONValue.optional uuid self.descriptionRef),
    ("effective_at", .str (formatUtcMicroseconds self.effectiveAt)),
    ("expected_stream_version", nat self.expectedStreamVersion),
    ("external_references", .list (self.externalReferences.map (·.dump))),
    ("source_account_id", uuid self.sourceAccountId),
    ("source_amount", .str self.sourceAmount),
    ("source_asset_code", .str self.sourceAssetCode),
    ("source_trading_account_id", uuid self.sourceTradingAccountId),
    ("target_account_id", uuid self.targetAccountId),
    ("target_amount", .str self.targetAmount),
    ("target_asset_code", .str self.targetAssetCode),
    ("target_trading_account_id", uuid self.targetTradingAccountId),
    ("transaction_id", uuid self.transactionId)]

/-- `RecordFxCreditCardPaymentCommand` -/
structure RecordFxCreditCardPaymentRequest extends RecordFxRequest where
  feeAmount : String
  feeCategoryId : UUID
  feeCategoryVersionId : UUID
deriving DecidableEq

def RecordFxCreditCardPaymentRequest.idempotencyPayload (self : RecordFxCreditCardPaymentRequest) :
    List (String × JSONValue) :=
  self.toRecordFxRequest.idempotencyPayload ++
    [("fee_amount", .str self.feeAmount), ("fee_category_id", uuid self.feeCategoryId),
      ("fee_category_version_id", uuid self.feeCategoryVersionId)]

/-- `RecordAdjustmentCommand` -/
structure RecordAdjustmentRequest where
  transactionId : UUID
  accountId : UUID
  assetCode : String
  expectedBalance : String
  actualBalance : String
  effectiveAt : Instant
deriving DecidableEq

def RecordAdjustmentRequest.idempotencyPayload (self : RecordAdjustmentRequest) :
    List (String × JSONValue) :=
  [("account_id", uuid self.accountId), ("actual_balance", .str self.actualBalance),
    ("asset_code", .str self.assetCode),
    ("effective_at", .str (formatUtcMicroseconds self.effectiveAt)),
    ("expected_balance", .str self.expectedBalance), ("expected_stream_version", nat 0),
    ("transaction_id", uuid self.transactionId)]

/-- `CreditCardCommand` -/
structure CreditCardRequest where
  transactionId : UUID
  cardAccountId : UUID
  assetCode : String
  amount : String
  effectiveAt : Instant
  descriptionRef : Option UUID
  externalReferences : List FinancialExternalReference
deriving DecidableEq

/-- `_payload` of the card commands -/
def CreditCardRequest.payload (self : CreditCardRequest) (counterName : String)
    (counterId : UUID) : List (String × JSONValue) :=
  [("amount", .str self.amount), ("asset_code", .str self.assetCode),
    ("card_account_id", uuid self.cardAccountId), (counterName, uuid counterId),
    ("description_ref", JSONValue.optional uuid self.descriptionRef),
    ("effective_at", .str (formatUtcMicroseconds self.effectiveAt)),
    ("expected_stream_version", nat 0),
    ("external_references", .list (self.externalReferences.map (·.dump))),
    ("transaction_id", uuid self.transactionId)]

/-- `ChargeCreditCardCommand` -/
structure ChargeCreditCardRequest extends CreditCardRequest where
  expenseAccountId : UUID
deriving DecidableEq

def ChargeCreditCardRequest.idempotencyPayload (self : ChargeCreditCardRequest) :
    List (String × JSONValue) :=
  self.payload "expense_account_id" self.expenseAccountId

/-- `FeeCreditCardCommand` -/
structure FeeCreditCardRequest extends CreditCardRequest where
  expenseAccountId : UUID
deriving DecidableEq

def FeeCreditCardRequest.idempotencyPayload (self : FeeCreditCardRequest) :
    List (String × JSONValue) :=
  self.payload "expense_account_id" self.expenseAccountId

/-- `PaymentCreditCardCommand` -/
structure PaymentCreditCardRequest extends CreditCardRequest where
  sourceAccountId : UUID
deriving DecidableEq

def PaymentCreditCardRequest.idempotencyPayload (self : PaymentCreditCardRequest) :
    List (String × JSONValue) :=
  self.payload "source_account_id" self.sourceAccountId

/-- `RefundCreditCardCommand` -/
structure RefundCreditCardRequest extends CreditCardRequest where
  originalTransactionId : UUID
deriving DecidableEq

def RefundCreditCardRequest.idempotencyPayload (self : RefundCreditCardRequest) :
    List (String × JSONValue) :=
  self.payload "original_transaction_id" self.originalTransactionId

/-- `ReverseTransactionCommand` -/
structure ReverseTransactionRequest where
  reversalTransactionId : UUID
  reversesTransactionId : UUID
  reasonCode : ReversalReasonCode
  effectiveAt : Instant
  descriptionRef : Option UUID
deriving DecidableEq

def ReverseTransactionRequest.idempotencyPayload (self : ReverseTransactionRequest) :
    List (String × JSONValue) :=
  [("description_ref", JSONValue.optional uuid self.descriptionRef),
    ("effective_at", .str (formatUtcMicroseconds self.effectiveAt)),
    ("expected_stream_version", nat 0), ("reason_code", .str self.reasonCode.value),
    ("reversal_transaction_id", uuid self.reversalTransactionId),
    ("reverses_transaction_id", uuid self.reversesTransactionId)]

/-- `CorrectTransactionCommand` -/
structure CorrectTransactionRequest where
  reversesTransactionId : UUID
  reversalTransactionId : UUID
  reasonCode : ReversalReasonCode
  reversalEffectiveAt : Instant
  replacement : CorrectionReplacement
  reversalDescriptionRef : Option UUID
deriving DecidableEq

def CorrectTransactionRequest.idempotencyPayload (self : CorrectTransactionRequest) :
    List (String × JSONValue) :=
  [("expected_reversal_stream_version", nat 0), ("reason_code", .str self.reasonCode.value),
    ("replacement", self.replacement.canonicalValue),
    ("reversal_description_ref", JSONValue.optional uuid self.reversalDescriptionRef),
    ("reversal_effective_at", .str (formatUtcMicroseconds self.reversalEffectiveAt)),
    ("reversal_transaction_id", uuid self.reversalTransactionId),
    ("reverses_transaction_id", uuid self.reversesTransactionId)]

/-- `AssignReportingLinesCommand` -/
structure AssignReportingLinesRequest where
  transactionId : UUID
  expectedRevision : Nat
  lines : List AssignedLine
  effectiveAt : Instant
deriving DecidableEq

def AssignReportingLinesRequest.idempotencyPayload (self : AssignReportingLinesRequest) :
    List (String × JSONValue) :=
  [("effective_at", .str (formatUtcMicroseconds self.effectiveAt)),
    ("expected_revision", nat self.expectedRevision),
    ("lines", .list (self.lines.map (·.canonicalValue))),
    ("transaction_id", uuid self.transactionId)]

/-- `ClearReportingLinesCommand` -/
structure ClearReportingLinesRequest where
  transactionId : UUID
  expectedRevision : Nat
  effectiveAt : Instant
deriving DecidableEq

def ClearReportingLinesRequest.idempotencyPayload (self : ClearReportingLinesRequest) :
    List (String × JSONValue) :=
  [("effective_at", .str (formatUtcMicroseconds self.effectiveAt)),
    ("expected_revision", nat self.expectedRevision),
    ("transaction_id", uuid self.transactionId)]

/-- `CorrectExternalReferenceCommand` -/
structure CorrectExternalReferenceRequest where
  transactionId : UUID
  providerCode : String
  referenceKind : ExternalReferenceKind
  correctedReference : String
  expectedStreamVersion : Nat
  effectiveAt : Instant
deriving DecidableEq

def CorrectExternalReferenceRequest.idempotencyPayload (self : CorrectExternalReferenceRequest) :
    List (String × JSONValue) :=
  [("corrected_reference", .str self.correctedReference),
    ("effective_at", .str (formatUtcMicroseconds self.effectiveAt)),
    ("expected_stream_version", nat self.expectedStreamVersion),
    ("provider_code", .str self.providerCode),
    ("reference_kind", .str self.referenceKind.value),
    ("transaction_id", uuid self.transactionId)]

/-- `AcquireLotCommand` -/
structure AcquireLotRequest where
  transactionId : UUID
  lotId : UUID
  instrumentAssetCode : String
  settlementAssetCode : String
  quantityUnits : String
  costUnits : String
  effectiveAt : Instant
  feeUnits : Option String
deriving DecidableEq

def AcquireLotRequest.idempotencyPayload (self : AcquireLotRequest) :
    List (String × JSONValue) :=
  [("cost_units", .str self.costUnits),
    ("effective_at", .str (formatUtcMicroseconds self.effectiveAt)),
    ("expected_stream_version", nat 0),
    ("fee_units", JSONValue.optional JSONValue.str self.feeUnits),
    ("instrument_asset_code", .str self.instrumentAssetCode), ("lot_id", uuid self.lotId),
    ("quantity_units", .str self.quantityUnits),
    ("settlement_asset_code", .str self.settlementAssetCode),
    ("transaction_id", uuid self.transactionId)]

/-- `DisposeLotCommand` -/
structure DisposeLotRequest where
  transactionId : UUID
  instrumentAssetCode : String
  settlementAssetCode : String
  quantityUnits : String
  proceedsUnits : String
  allocationMethod : AllocationMethod
  effectiveAt : Instant
  feeUnits : Option String
  specificLots : List SpecificLotRequest

def DisposeLotRequest.idempotencyPayload (self : DisposeLotRequest) :
    List (String × JSONValue) :=
  [("allocation_method", .str self.allocationMethod.value),
    ("effective_at", .str (formatUtcMicroseconds self.effectiveAt)),
    ("expected_stream_version", nat 0),
    ("fee_units", JSONValue.optional JSONValue.str self.feeUnits),
    ("instrument_asset_code", .str self.instrumentAssetCode),
    ("proceeds_units", .str self.proceedsUnits), ("quantity_units", .str self.quantityUnits),
    ("settlement_asset_code", .str self.settlementAssetCode),
    ("specific_lots", .list (self.specificLots.map (·.canonicalValue))),
    ("transaction_id", uuid self.transactionId)]

/-- `CommitPreparedEntryCommand` -/
structure CommitEntryRequest where
  intentId : UUID
  commitTokenHash : EventHash
deriving DecidableEq

def CommitEntryRequest.idempotencyPayload (self : CommitEntryRequest) :
    List (String × JSONValue) :=
  [("intent_id", uuid self.intentId), ("commit_token_hash", .str self.commitTokenHash.hex)]

/-- `RepairMisclassifiedExpense` -/
structure RepairMisclassifiedExpenseRequest where
  originalTransactionId : UUID
  reversalTransactionId : UUID
  replacementTransactionId : UUID
  wrongExpenseAccountId : UUID
  categoryId : UUID
deriving DecidableEq

def RepairMisclassifiedExpenseRequest.idempotencyPayload
    (self : RepairMisclassifiedExpenseRequest) : List (String × JSONValue) :=
  [("category_id", uuid self.categoryId),
    ("original_transaction_id", uuid self.originalTransactionId),
    ("replacement_transaction_id", uuid self.replacementTransactionId),
    ("reversal_transaction_id", uuid self.reversalTransactionId),
    ("wrong_expense_account_id", uuid self.wrongExpenseAccountId)]

/-- The request of a financial command, by its class. -/
inductive FinancialRequest
  | post (request : PostTransactionRequest)
  | expense (request : RecordExpenseRequest)
  | transfer (request : RecordTransferRequest)
  | fx (request : RecordFxRequest)
  | fxCreditCardPayment (request : RecordFxCreditCardPaymentRequest)
  | adjustment (request : RecordAdjustmentRequest)
  | charge (request : ChargeCreditCardRequest)
  | fee (request : FeeCreditCardRequest)
  | payment (request : PaymentCreditCardRequest)
  | refund (request : RefundCreditCardRequest)
  | reverse (request : ReverseTransactionRequest)
  | correct (request : CorrectTransactionRequest)
  | assign (request : AssignReportingLinesRequest)
  | clear (request : ClearReportingLinesRequest)
  | correctReference (request : CorrectExternalReferenceRequest)
  | acquire (request : AcquireLotRequest)
  | dispose (request : DisposeLotRequest)
  | commitEntry (request : CommitEntryRequest)
  | repair (request : RepairMisclassifiedExpenseRequest)

namespace FinancialRequest

def operation : FinancialRequest → String
  | post _ => "journal.post"
  | expense _ => "journal.expense.record"
  | transfer _ => "journal.transfer.record"
  | fx _ => "journal.record_fx"
  | fxCreditCardPayment _ => "journal.record_fx_credit_card_payment"
  | adjustment _ => "journal.adjustment.record"
  | charge _ => "credit_card.charge"
  | fee _ => "credit_card.fee"
  | payment _ => "credit_card.payment"
  | refund _ => "credit_card.refund"
  | reverse _ => "journal.reverse"
  | correct _ => "journal.correct"
  | assign _ => "reporting.assign"
  | clear _ => "reporting.clear"
  | correctReference _ => "journal.external_reference.correct"
  | acquire _ => "investments.lot.acquire"
  | dispose _ => "investments.lot.dispose"
  | commitEntry _ => "everyday_entry.commit"
  | repair _ => "history_repair.misclassified_expense"

def idempotencyPayload : FinancialRequest → List (String × JSONValue)
  | post request => request.idempotencyPayload
  | expense request => request.idempotencyPayload
  | transfer request => request.idempotencyPayload
  | fx request => request.idempotencyPayload
  | fxCreditCardPayment request => request.idempotencyPayload
  | adjustment request => request.idempotencyPayload
  | charge request => request.idempotencyPayload
  | fee request => request.idempotencyPayload
  | payment request => request.idempotencyPayload
  | refund request => request.idempotencyPayload
  | reverse request => request.idempotencyPayload
  | correct request => request.idempotencyPayload
  | assign request => request.idempotencyPayload
  | clear request => request.idempotencyPayload
  | correctReference request => request.idempotencyPayload
  | acquire request => request.idempotencyPayload
  | dispose request => request.idempotencyPayload
  | commitEntry request => request.idempotencyPayload
  | repair request => request.idempotencyPayload

end FinancialRequest

/-! ## Each payload determines its request -/

theorem PostTransactionRequest.encodes :
    Encodes fun request : PostTransactionRequest => .dict request.idempotencyPayload := by
  refine encodes_dict ["description_ref", "effective_at", "expected_stream_version",
    "external_references", "kind", "postings", "transaction_id"]
    (fun _ => rfl) (by decide) ?_
  rintro ⟨⟩ ⟨⟩ h
  simp only [PostTransactionRequest.idempotencyPayload, List.map_cons, List.map_nil,
    sortKeys_str, JSONValue.str.injEq, List.cons.injEq, Prod.mk.injEq,
    sortKeys_optional_uuid_inj, formatUtcMicroseconds_inj, sortKeys_nat_inj,
    sortKeys_references_inj, TransactionKind.value_inj, sortKeys_postings_inj,
    sortKeys_uuid_inj, true_and, and_true] at h
  obtain ⟨rfl, rfl, rfl, rfl, rfl, rfl, rfl⟩ := h
  rfl

theorem RecordExpenseRequest.encodes :
    Encodes fun request : RecordExpenseRequest => .dict request.idempotencyPayload := by
  refine encodes_dict ["amount", "asset_code", "effective_at", "expected_stream_version",
    "transaction_id", "expense_account_id", "source_account_id"]
    (fun _ => rfl) (by decide) ?_
  rintro ⟨⟨⟩⟩ ⟨⟨⟩⟩ h
  simp only [RecordExpenseRequest.idempotencyPayload, SimpleTransactionRequest.basePayload,
    List.cons_append, List.nil_append, List.map_cons, List.map_nil, sortKeys_str,
    JSONValue.str.injEq, List.cons.injEq, Prod.mk.injEq, formatUtcMicroseconds_inj,
    sortKeys_uuid_inj, true_and, and_true] at h
  obtain ⟨rfl, rfl, rfl, rfl, rfl, rfl⟩ := h
  rfl

theorem RecordTransferRequest.encodes :
    Encodes fun request : RecordTransferRequest => .dict request.idempotencyPayload := by
  refine encodes_dict ["amount", "asset_code", "effective_at", "expected_stream_version",
    "transaction_id", "source_account_id", "target_account_id"]
    (fun _ => rfl) (by decide) ?_
  rintro ⟨⟨⟩⟩ ⟨⟨⟩⟩ h
  simp only [RecordTransferRequest.idempotencyPayload, SimpleTransactionRequest.basePayload,
    List.cons_append, List.nil_append, List.map_cons, List.map_nil, sortKeys_str,
    JSONValue.str.injEq, List.cons.injEq, Prod.mk.injEq, formatUtcMicroseconds_inj,
    sortKeys_uuid_inj, true_and, and_true] at h
  obtain ⟨rfl, rfl, rfl, rfl, rfl, rfl⟩ := h
  rfl

theorem RecordFxRequest.encodes :
    Encodes fun request : RecordFxRequest => .dict request.idempotencyPayload := by
  refine encodes_dict ["description_ref", "effective_at", "expected_stream_version",
    "external_references", "source_account_id", "source_amount", "source_asset_code",
    "source_trading_account_id", "target_account_id", "target_amount", "target_asset_code",
    "target_trading_account_id", "transaction_id"]
    (fun _ => rfl) (by decide) ?_
  rintro ⟨⟩ ⟨⟩ h
  simp only [RecordFxRequest.idempotencyPayload, List.map_cons, List.map_nil, sortKeys_str,
    JSONValue.str.injEq, List.cons.injEq, Prod.mk.injEq, sortKeys_optional_uuid_inj,
    formatUtcMicroseconds_inj, sortKeys_nat_inj, sortKeys_references_inj, sortKeys_uuid_inj,
    true_and, and_true] at h
  obtain ⟨rfl, rfl, rfl, rfl, rfl, rfl, rfl, rfl, rfl, rfl, rfl, rfl, rfl⟩ := h
  rfl

theorem RecordFxCreditCardPaymentRequest.encodes :
    Encodes fun request : RecordFxCreditCardPaymentRequest => .dict request.idempotencyPayload := by
  refine encodes_dict ["description_ref", "effective_at", "expected_stream_version",
    "external_references", "source_account_id", "source_amount", "source_asset_code",
    "source_trading_account_id", "target_account_id", "target_amount", "target_asset_code",
    "target_trading_account_id", "transaction_id", "fee_amount", "fee_category_id",
    "fee_category_version_id"]
    (fun _ => rfl) (by decide) ?_
  rintro ⟨⟨⟩⟩ ⟨⟨⟩⟩ h
  simp only [RecordFxCreditCardPaymentRequest.idempotencyPayload,
    RecordFxRequest.idempotencyPayload, List.cons_append, List.nil_append, List.map_cons,
    List.map_nil, sortKeys_str, JSONValue.str.injEq, List.cons.injEq, Prod.mk.injEq,
    sortKeys_optional_uuid_inj, formatUtcMicroseconds_inj, sortKeys_nat_inj,
    sortKeys_references_inj, sortKeys_uuid_inj, true_and, and_true] at h
  obtain ⟨rfl, rfl, rfl, rfl, rfl, rfl, rfl, rfl, rfl, rfl, rfl, rfl, rfl, rfl, rfl, rfl⟩ := h
  rfl

theorem RecordAdjustmentRequest.encodes :
    Encodes fun request : RecordAdjustmentRequest => .dict request.idempotencyPayload := by
  refine encodes_dict ["account_id", "actual_balance", "asset_code", "effective_at",
    "expected_balance", "expected_stream_version", "transaction_id"]
    (fun _ => rfl) (by decide) ?_
  rintro ⟨⟩ ⟨⟩ h
  simp only [RecordAdjustmentRequest.idempotencyPayload, List.map_cons, List.map_nil,
    sortKeys_str, JSONValue.str.injEq, List.cons.injEq, Prod.mk.injEq, sortKeys_uuid_inj,
    formatUtcMicroseconds_inj, true_and, and_true] at h
  obtain ⟨rfl, rfl, rfl, rfl, rfl, rfl⟩ := h
  rfl

/-- The payload of a card command, whatever the name of its counterpart. -/
theorem CreditCardRequest.encodes (counterName : String)
    (hNew : counterName ∉ ["amount", "asset_code", "card_account_id", "description_ref",
      "effective_at", "expected_stream_version", "external_references",
      "transaction_id"]) :
    Encodes fun request : CreditCardRequest × UUID =>
      .dict (request.1.payload counterName request.2) := by
  refine encodes_dict ["amount", "asset_code", "card_account_id", counterName,
    "description_ref", "effective_at", "expected_stream_version", "external_references",
    "transaction_id"] (fun _ => rfl) ?_ ?_
  · have hPerm : ["amount", "asset_code", "card_account_id", counterName,
        "description_ref", "effective_at", "expected_stream_version",
        "external_references", "transaction_id"].Perm
        (counterName :: ["amount", "asset_code", "card_account_id", "description_ref",
          "effective_at", "expected_stream_version", "external_references",
          "transaction_id"]) :=
      @List.perm_middle _ counterName ["amount", "asset_code", "card_account_id"] _
    exact hPerm.nodup_iff.2 (List.nodup_cons.2 ⟨hNew, by decide⟩)
  · rintro ⟨⟨⟩, counterId⟩ ⟨⟨⟩, counterId'⟩ h
    simp only [CreditCardRequest.payload, List.map_cons, List.map_nil, sortKeys_str,
      JSONValue.str.injEq, List.cons.injEq, Prod.mk.injEq, sortKeys_uuid_inj,
      sortKeys_optional_uuid_inj, formatUtcMicroseconds_inj, sortKeys_references_inj,
      true_and, and_true] at h
    obtain ⟨rfl, rfl, rfl, rfl, rfl, rfl, rfl, rfl⟩ := h
    rfl

theorem ChargeCreditCardRequest.encodes :
    Encodes fun request : ChargeCreditCardRequest => .dict request.idempotencyPayload := by
  intro a b h
  have hPair := CreditCardRequest.encodes "expense_account_id" (by decide)
    (a.toCreditCardRequest, a.expenseAccountId) (b.toCreditCardRequest, b.expenseAccountId) h
  obtain ⟨hBase, hCounter⟩ := Prod.mk.inj hPair
  cases a
  cases b
  rw [ChargeCreditCardRequest.mk.injEq]
  exact ⟨hBase, hCounter⟩

theorem FeeCreditCardRequest.encodes :
    Encodes fun request : FeeCreditCardRequest => .dict request.idempotencyPayload := by
  intro a b h
  have hPair := CreditCardRequest.encodes "expense_account_id" (by decide)
    (a.toCreditCardRequest, a.expenseAccountId) (b.toCreditCardRequest, b.expenseAccountId) h
  obtain ⟨hBase, hCounter⟩ := Prod.mk.inj hPair
  cases a
  cases b
  rw [FeeCreditCardRequest.mk.injEq]
  exact ⟨hBase, hCounter⟩

theorem PaymentCreditCardRequest.encodes :
    Encodes fun request : PaymentCreditCardRequest => .dict request.idempotencyPayload := by
  intro a b h
  have hPair := CreditCardRequest.encodes "source_account_id" (by decide)
    (a.toCreditCardRequest, a.sourceAccountId) (b.toCreditCardRequest, b.sourceAccountId) h
  obtain ⟨hBase, hCounter⟩ := Prod.mk.inj hPair
  cases a
  cases b
  rw [PaymentCreditCardRequest.mk.injEq]
  exact ⟨hBase, hCounter⟩

theorem RefundCreditCardRequest.encodes :
    Encodes fun request : RefundCreditCardRequest => .dict request.idempotencyPayload := by
  intro a b h
  have hPair := CreditCardRequest.encodes "original_transaction_id" (by decide)
    (a.toCreditCardRequest, a.originalTransactionId)
    (b.toCreditCardRequest, b.originalTransactionId) h
  obtain ⟨hBase, hCounter⟩ := Prod.mk.inj hPair
  cases a
  cases b
  rw [RefundCreditCardRequest.mk.injEq]
  exact ⟨hBase, hCounter⟩

theorem ReverseTransactionRequest.encodes :
    Encodes fun request : ReverseTransactionRequest => .dict request.idempotencyPayload := by
  refine encodes_dict ["description_ref", "effective_at", "expected_stream_version",
    "reason_code", "reversal_transaction_id", "reverses_transaction_id"]
    (fun _ => rfl) (by decide) ?_
  rintro ⟨⟩ ⟨⟩ h
  simp only [ReverseTransactionRequest.idempotencyPayload, List.map_cons, List.map_nil,
    sortKeys_str, JSONValue.str.injEq, List.cons.injEq, Prod.mk.injEq,
    sortKeys_optional_uuid_inj, formatUtcMicroseconds_inj, ReversalReasonCode.value_inj,
    sortKeys_uuid_inj, true_and, and_true] at h
  obtain ⟨rfl, rfl, rfl, rfl, rfl⟩ := h
  rfl

theorem CorrectTransactionRequest.encodes :
    Encodes fun request : CorrectTransactionRequest => .dict request.idempotencyPayload := by
  refine encodes_dict ["expected_reversal_stream_version", "reason_code", "replacement",
    "reversal_description_ref", "reversal_effective_at", "reversal_transaction_id",
    "reverses_transaction_id"]
    (fun _ => rfl) (by decide) ?_
  rintro ⟨⟩ ⟨⟩ h
  simp only [CorrectTransactionRequest.idempotencyPayload, List.map_cons, List.map_nil,
    sortKeys_str, JSONValue.str.injEq, List.cons.injEq, Prod.mk.injEq,
    ReversalReasonCode.value_inj, sortKeys_replacement_inj, sortKeys_optional_uuid_inj,
    formatUtcMicroseconds_inj, sortKeys_uuid_inj, true_and, and_true] at h
  obtain ⟨rfl, rfl, rfl, rfl, rfl, rfl⟩ := h
  rfl

theorem AssignReportingLinesRequest.encodes :
    Encodes fun request : AssignReportingLinesRequest => .dict request.idempotencyPayload := by
  refine encodes_dict ["effective_at", "expected_revision", "lines", "transaction_id"]
    (fun _ => rfl) (by decide) ?_
  rintro ⟨⟩ ⟨⟩ h
  simp only [AssignReportingLinesRequest.idempotencyPayload, List.map_cons, List.map_nil,
    sortKeys_str, JSONValue.str.injEq, List.cons.injEq, Prod.mk.injEq,
    formatUtcMicroseconds_inj, sortKeys_nat_inj, sortKeys_lines_inj, sortKeys_uuid_inj,
    true_and, and_true] at h
  obtain ⟨rfl, rfl, rfl, rfl⟩ := h
  rfl

theorem ClearReportingLinesRequest.encodes :
    Encodes fun request : ClearReportingLinesRequest => .dict request.idempotencyPayload := by
  refine encodes_dict ["effective_at", "expected_revision", "transaction_id"]
    (fun _ => rfl) (by decide) ?_
  rintro ⟨⟩ ⟨⟩ h
  simp only [ClearReportingLinesRequest.idempotencyPayload, List.map_cons, List.map_nil,
    sortKeys_str, JSONValue.str.injEq, List.cons.injEq, Prod.mk.injEq,
    formatUtcMicroseconds_inj, sortKeys_nat_inj, sortKeys_uuid_inj, true_and, and_true] at h
  obtain ⟨rfl, rfl, rfl⟩ := h
  rfl

theorem CorrectExternalReferenceRequest.encodes :
    Encodes fun request : CorrectExternalReferenceRequest => .dict request.idempotencyPayload := by
  refine encodes_dict ["corrected_reference", "effective_at", "expected_stream_version",
    "provider_code", "reference_kind", "transaction_id"]
    (fun _ => rfl) (by decide) ?_
  rintro ⟨⟩ ⟨⟩ h
  simp only [CorrectExternalReferenceRequest.idempotencyPayload, List.map_cons, List.map_nil,
    sortKeys_str, JSONValue.str.injEq, List.cons.injEq, Prod.mk.injEq,
    formatUtcMicroseconds_inj, sortKeys_nat_inj, ExternalReferenceKind.value_inj,
    sortKeys_uuid_inj, true_and, and_true] at h
  obtain ⟨rfl, rfl, rfl, rfl, rfl, rfl⟩ := h
  rfl

theorem AcquireLotRequest.encodes :
    Encodes fun request : AcquireLotRequest => .dict request.idempotencyPayload := by
  refine encodes_dict ["cost_units", "effective_at", "expected_stream_version", "fee_units",
    "instrument_asset_code", "lot_id", "quantity_units", "settlement_asset_code",
    "transaction_id"]
    (fun _ => rfl) (by decide) ?_
  rintro ⟨⟩ ⟨⟩ h
  simp only [AcquireLotRequest.idempotencyPayload, List.map_cons, List.map_nil, sortKeys_str,
    JSONValue.str.injEq, List.cons.injEq, Prod.mk.injEq, formatUtcMicroseconds_inj,
    sortKeys_optional_str_inj, sortKeys_uuid_inj, true_and, and_true] at h
  obtain ⟨rfl, rfl, rfl, rfl, rfl, rfl, rfl, rfl⟩ := h
  rfl

theorem DisposeLotRequest.encodes :
    Encodes fun request : DisposeLotRequest => .dict request.idempotencyPayload := by
  refine encodes_dict ["allocation_method", "effective_at", "expected_stream_version",
    "fee_units", "instrument_asset_code", "proceeds_units", "quantity_units",
    "settlement_asset_code", "specific_lots", "transaction_id"]
    (fun _ => rfl) (by decide) ?_
  rintro ⟨⟩ ⟨⟩ h
  simp only [DisposeLotRequest.idempotencyPayload, List.map_cons, List.map_nil, sortKeys_str,
    JSONValue.str.injEq, List.cons.injEq, Prod.mk.injEq, AllocationMethod.value_inj,
    formatUtcMicroseconds_inj, sortKeys_optional_str_inj, sortKeys_lots_inj,
    sortKeys_uuid_inj, true_and, and_true] at h
  obtain ⟨rfl, rfl, rfl, rfl, rfl, rfl, rfl, rfl, rfl⟩ := h
  rfl

theorem CommitEntryRequest.encodes :
    Encodes fun request : CommitEntryRequest => .dict request.idempotencyPayload := by
  refine encodes_dict ["intent_id", "commit_token_hash"]
    (fun _ => rfl) (by decide) ?_
  rintro ⟨⟩ ⟨⟩ h
  simp only [CommitEntryRequest.idempotencyPayload, List.map_cons, List.map_nil,
    sortKeys_str, JSONValue.str.injEq, List.cons.injEq, Prod.mk.injEq, sortKeys_uuid_inj,
    hex_inj, true_and, and_true] at h
  obtain ⟨rfl, rfl⟩ := h
  rfl

theorem RepairMisclassifiedExpenseRequest.encodes :
    Encodes fun request : RepairMisclassifiedExpenseRequest =>
      .dict request.idempotencyPayload := by
  refine encodes_dict ["category_id", "original_transaction_id",
    "replacement_transaction_id", "reversal_transaction_id", "wrong_expense_account_id"]
    (fun _ => rfl) (by decide) ?_
  rintro ⟨⟩ ⟨⟩ h
  simp only [RepairMisclassifiedExpenseRequest.idempotencyPayload, List.map_cons,
    List.map_nil, List.cons.injEq, Prod.mk.injEq, sortKeys_uuid_inj, true_and, and_true] at h
  obtain ⟨rfl, rfl, rfl, rfl, rfl⟩ := h
  rfl

/-- The operation and the payload determine the request. -/
theorem FinancialRequest.encodes {a b : FinancialRequest}
    (hOperation : a.operation = b.operation)
    (hPayload : (JSONValue.dict a.idempotencyPayload).Same (.dict b.idempotencyPayload)) :
    a = b := by
  cases a <;> cases b <;> simp only [operation, String.reduceEq] at hOperation
  case post.post a b => exact congrArg _ (PostTransactionRequest.encodes a b hPayload)
  case expense.expense a b => exact congrArg _ (RecordExpenseRequest.encodes a b hPayload)
  case transfer.transfer a b => exact congrArg _ (RecordTransferRequest.encodes a b hPayload)
  case fx.fx a b => exact congrArg _ (RecordFxRequest.encodes a b hPayload)
  case fxCreditCardPayment.fxCreditCardPayment a b =>
    exact congrArg _ (RecordFxCreditCardPaymentRequest.encodes a b hPayload)
  case adjustment.adjustment a b =>
    exact congrArg _ (RecordAdjustmentRequest.encodes a b hPayload)
  case charge.charge a b => exact congrArg _ (ChargeCreditCardRequest.encodes a b hPayload)
  case fee.fee a b => exact congrArg _ (FeeCreditCardRequest.encodes a b hPayload)
  case payment.payment a b => exact congrArg _ (PaymentCreditCardRequest.encodes a b hPayload)
  case refund.refund a b => exact congrArg _ (RefundCreditCardRequest.encodes a b hPayload)
  case reverse.reverse a b => exact congrArg _ (ReverseTransactionRequest.encodes a b hPayload)
  case correct.correct a b => exact congrArg _ (CorrectTransactionRequest.encodes a b hPayload)
  case assign.assign a b => exact congrArg _ (AssignReportingLinesRequest.encodes a b hPayload)
  case clear.clear a b => exact congrArg _ (ClearReportingLinesRequest.encodes a b hPayload)
  case correctReference.correctReference a b =>
    exact congrArg _ (CorrectExternalReferenceRequest.encodes a b hPayload)
  case acquire.acquire a b => exact congrArg _ (AcquireLotRequest.encodes a b hPayload)
  case dispose.dispose a b => exact congrArg _ (DisposeLotRequest.encodes a b hPayload)
  case commitEntry.commitEntry a b => exact congrArg _ (CommitEntryRequest.encodes a b hPayload)
  case repair.repair a b =>
    exact congrArg _ (RepairMisclassifiedExpenseRequest.encodes a b hPayload)

/-! ## The hash of a request -/

/-- A financial command: its Book, its id, and its request. -/
structure FinancialCommand where
  bookId : UUID
  commandId : UUID
  request : FinancialRequest

def FinancialCommand.idempotencyCommand (self : FinancialCommand) : IdempotencyCommand where
  bookId := self.bookId
  commandId := self.commandId
  operation := self.request.operation
  idempotencyPayload := self.request.idempotencyPayload

/-- The value whose canonical JSON is hashed. -/
def frozenRequest (command : IdempotencyCommand) (scope : AuthorizationScope) : JSONValue :=
  .dict [("authorization", scope.canonicalValue), ("book_id", uuid command.bookId),
    ("operation", .str command.operation), ("payload", .dict command.idempotencyPayload)]

/-- What the hash of a request is taken of. -/
def requestPreimage (command : IdempotencyCommand) (scope : AuthorizationScope) :
    ByteArray :=
  requestHashDomain ++ (String.ofList (render (frozenRequest command scope))).toUTF8

/-- The same actor, role and Book, and the same set of scopes. -/
structure SameScope (scope scope' : AuthorizationScope) : Prop where
  book : scope.bookId = scope'.bookId
  actor : scope.actorSubjectId = scope'.actorSubjectId
  role : scope.role = scope'.role
  scopes : ∀ s, s ∈ scope.scopes ↔ s ∈ scope'.scopes

section Hashed

variable {sha256 : ByteArray → EventHash}

theorem hashCommandRequest_ok {command : IdempotencyCommand} {scope : AuthorizationScope}
    {digest : EventHash} (h : hashCommandRequest sha256 command scope = .ok digest) :
    command.bookId = scope.bookId ∧ digest = sha256 (requestPreimage command scope) := by
  simp only [hashCommandRequest, bind_eq_ok, require_eq_ok, mapError_eq_ok, pure_eq_ok,
    exists_const] at h
  obtain ⟨hBook, -, bytes, hBytes, rfl⟩ := h
  refine ⟨hBook, ?_⟩
  rw [requestPreimage, canonicalJsonBytes_ok hBytes]
  rfl

theorem requestPreimage_injective {command command' : IdempotencyCommand}
    {scope scope' : AuthorizationScope}
    (h : requestPreimage command scope = requestPreimage command' scope') :
    (frozenRequest command scope).Same (frozenRequest command' scope') := by
  rw [← render_eq_iff]
  exact render_of_bytes ((ByteArray.append_right_inj _).1 h)

/-- The dump of a scope determines it, up to the order of the scopes. -/
theorem sameScope_of_canonicalValue {scope scope' : AuthorizationScope}
    (h : scope.canonicalValue.Same scope'.canonicalValue) : SameScope scope scope' := by
  have hDistinct : ["actor_subject_id", "book_id", "role", "scopes"].Nodup := by decide
  have hMembers := sortKeys_members h (by simp only [List.map_cons, List.map_nil]) hDistinct
  simp only [List.map_cons, List.map_nil, sortKeys_str, JSONValue.str.injEq,
    List.cons.injEq, Prod.mk.injEq, sortKeys_uuid_inj, true_and, and_true] at hMembers
  obtain ⟨hActor, hBook, hRole, hScopes⟩ := hMembers
  have hSorted := encodes_list encodes_str _ _ hScopes
  refine ⟨hBook, hActor, hRole, fun s => ?_⟩
  have hMem : ∀ scopes : List String,
      s ∈ scopes.dedup.insertionSort (· ≤ ·) ↔ s ∈ scopes := by
    intro scopes
    rw [(List.perm_insertionSort _ _).mem_iff, List.mem_dedup]
  rw [← hMem scope.scopes, hSorted, hMem]

/-- The value that is hashed determines the request and the scope. -/
theorem frozenRequest_determines {a b : FinancialCommand} {scope scope' : AuthorizationScope}
    (h : (frozenRequest a.idempotencyCommand scope).Same
      (frozenRequest b.idempotencyCommand scope')) :
    a.bookId = b.bookId ∧ a.request = b.request ∧ SameScope scope scope' := by
  have hDistinct : ["authorization", "book_id", "operation", "payload"].Nodup := by decide
  have hMembers := sortKeys_members h (by simp only [List.map_cons, List.map_nil]) hDistinct
  simp only [List.map_cons, List.map_nil, sortKeys_str, JSONValue.str.injEq,
    List.cons.injEq, Prod.mk.injEq, sortKeys_uuid_inj, true_and, and_true] at hMembers
  obtain ⟨hScope, hBook, hOperation, hPayload⟩ := hMembers
  exact ⟨hBook, FinancialRequest.encodes hOperation hPayload,
    sameScope_of_canonicalValue hScope⟩

/-- Where the digest does not confuse the two requests, equal hashes are hashes of
one request, and a receipt answers no other request than its own. -/
theorem requestHash_determines {a b : FinancialCommand} {scope scope' : AuthorizationScope}
    {digest digest' : EventHash}
    (hInjective : Set.InjOn sha256 {requestPreimage a.idempotencyCommand scope,
      requestPreimage b.idempotencyCommand scope'})
    (hA : hashCommandRequest sha256 a.idempotencyCommand scope = .ok digest)
    (hB : hashCommandRequest sha256 b.idempotencyCommand scope' = .ok digest') :
    (digest = digest' →
      a.bookId = b.bookId ∧ a.request = b.request ∧ SameScope scope scope')
    ∧ ∀ (reservation : ReceiptReservation) (result : CommandResult),
      reservation.receipt.requestHash = digest →
      reservation.replayOrConflict digest' = .ok result →
      a.bookId = b.bookId ∧ a.request = b.request ∧ SameScope scope scope' := by
  have hDigest := (hashCommandRequest_ok hA).2
  have hDigest' := (hashCommandRequest_ok hB).2
  have hDetermines : digest = digest' →
      a.bookId = b.bookId ∧ a.request = b.request ∧ SameScope scope scope' := by
    intro hEqual
    rw [hDigest, hDigest'] at hEqual
    have hPreimage := hInjective (Set.mem_insert _ _)
      (Set.mem_insert_of_mem _ (Set.mem_singleton _)) hEqual
    exact frozenRequest_determines (requestPreimage_injective hPreimage)
  refine ⟨hDetermines, fun reservation result hReceipt hReplay => ?_⟩
  simp only [ReceiptReservation.replayOrConflict, bind_eq_ok, require_eq_ok,
    exists_const] at hReplay
  exact hDetermines (hReceipt.symm.trans hReplay.2.1)

/-- A command that takes the reporting lines of a transaction away. -/
theorem clear_year : 1 ≤ 2026 ∧ 2026 ≤ 9999 := by
  decide

theorem clear_month : 1 ≤ 1 ∧ 1 ≤ 12 := by
  decide

theorem clear_day : 1 ≤ 1 ∧ 1 ≤ daysInMonth 2026 1 := by
  decide

def clearCommand (commandId : UUID) : FinancialCommand where
  bookId := 1
  commandId := commandId
  request := .clear
    { transactionId := 2
      expectedRevision := 1
      effectiveAt := ⟨⟨2026, 1, 1, clear_year, clear_month, clear_day⟩, 0⟩ }

theorem clear_actor : "a" ≠ "" ∧ "a".length ≤ 128 := by
  decide

theorem clear_owner : "owner" ≠ "" := by
  decide

def clearScope (scopes : List String) (hScopes : ∀ scope ∈ scopes, scope ≠ "") :
    AuthorizationScope where
  bookId := 1
  actorSubjectId := "a"
  role := "owner"
  scopes := scopes
  hActor := clear_actor
  hRole := clear_owner
  hScopes := hScopes

theorem hashCommandRequest_clearCommand (sha256 : ByteArray → EventHash) (commandId : UUID)
    (scopes : List String) (hScopes : ∀ scope ∈ scopes, scope ≠ "") :
    hashCommandRequest sha256 (clearCommand commandId).idempotencyCommand
      (clearScope scopes hScopes) = .ok (sha256 (requestPreimage
        (clearCommand commandId).idempotencyCommand (clearScope scopes hScopes))) := by
  have hOperation : "reporting.clear" ≠ "" ∧ "reporting.clear".length ≤ 96 := by
    decide
  have hProve : ∀ texts : List String, proveJsonList (texts.map .str) = .ok () := by
    intro texts
    induction texts with
    | nil => rfl
    | cons text texts ih => exact ih
  have hBytes : canonicalJsonBytes
      (frozenRequest (clearCommand commandId).idempotencyCommand (clearScope scopes hScopes))
      = .ok (String.ofList (render (frozenRequest (clearCommand commandId).idempotencyCommand
        (clearScope scopes hScopes)))).toUTF8 := by
    have hProved : proveJsonValue (frozenRequest (clearCommand commandId).idempotencyCommand
        (clearScope scopes hScopes)) = .ok () := by
      simp only [frozenRequest, AuthorizationScope.canonicalValue, proveJsonValue,
        proveJsonDict, clearScope, hProve]
      rfl
    exact canonicalJsonBytes_eq_ok.2 ⟨hProved, rfl⟩
  simp only [hashCommandRequest, bind_eq_ok, require_eq_ok, mapError_eq_ok, pure_eq_ok,
    exists_const]
  exact ⟨rfl, hOperation, _, hBytes, rfl⟩

/-- Two commands of one request, by an actor whose scopes are read in another order. -/
theorem requestHash_determines_clear :
    SameScope (clearScope ["ledger:read", "ledger:write"] (by decide))
      (clearScope ["ledger:write", "ledger:read"] (by decide)) := by
  have hScopes : (clearScope ["ledger:read", "ledger:write"] (by decide)).canonicalValue
      = (clearScope ["ledger:write", "ledger:read"] (by decide)).canonicalValue := by
    have hSorted : (["ledger:read", "ledger:write"].dedup.insertionSort (· ≤ ·))
        = ["ledger:write", "ledger:read"].dedup.insertionSort (· ≤ ·) := by decide
    exact congrArg (fun texts => JSONValue.dict [("actor_subject_id", .str "a"),
      ("book_id", uuid 1), ("role", .str "owner"), ("scopes", .list (texts.map .str))])
      hSorted
  have hPreimage : requestPreimage (clearCommand 3).idempotencyCommand
        (clearScope ["ledger:read", "ledger:write"] (by decide))
      = requestPreimage (clearCommand 4).idempotencyCommand
        (clearScope ["ledger:write", "ledger:read"] (by decide)) := by
    unfold requestPreimage frozenRequest
    rw [hScopes]
    rfl
  refine ((requestHash_determines (a := clearCommand 3) (b := clearCommand 4) ?_
    (hashCommandRequest_clearCommand (fun bytes => Fin.ofNat _ bytes.size) 3 _ _)
    (hashCommandRequest_clearCommand (fun bytes => Fin.ofNat _ bytes.size) 4 _ _)).1 ?_).2.2
  · rw [hPreimage, Set.pair_eq_singleton]
    exact Set.injOn_singleton _ _
  · rw [hPreimage]

end Hashed

end TrackAnywhere.Ports
