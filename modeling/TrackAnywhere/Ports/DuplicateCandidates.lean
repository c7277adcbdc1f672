import TrackAnywhere.Ports.EntryResolution
import TrackAnywhere.Verified.OrderedDict

/-!
# Duplicates that a preview reports

Before an entry is ready, `prepare` looks for transactions that it may repeat: the one with
the same external reference, and the recent ones with the same fingerprint.
`_duplicate_candidates` merges what both searches find by transaction, and the clarification
lists the merged candidates.  `decide_duplicate` ranks them, but only its status is used.

The merge is a dictionary from transactions to candidates, so of two candidates for one
transaction the later one stays, which is the fingerprint.
-/

namespace TrackAnywhere.Ports

open TrackAnywhere.Verified
open TrackAnywhere.Verified.Checked

/-! ## Candidates -/

inductive DuplicateEvidenceKind
  | externalReference
  | sourceFingerprint
  | softMatch
deriving DecidableEq

/-- `priority` in `decide_duplicate`: the strongest kind comes first. -/
def DuplicateEvidenceKind.priority : DuplicateEvidenceKind → Nat
  | externalReference => 0
  | sourceFingerprint => 1
  | softMatch => 2

structure DuplicateCandidate where
  transactionId : UUID
  evidenceKind : DuplicateEvidenceKind
  summary : String
  hSummary : strip summary ≠ ""
deriving DecidableEq

theorem externalSummary_nonblank :
    strip "An entry with the same protected source reference exists." ≠ "" := by
  decide

theorem fingerprintSummary_nonblank :
    strip "A recent entry has the same protected source fingerprint." ≠ "" := by
  decide

namespace DuplicateCandidate

/-- The candidate that the external reference finds. -/
def ofReference (transactionId : UUID) : DuplicateCandidate :=
  ⟨transactionId, .externalReference,
    "An entry with the same protected source reference exists.", externalSummary_nonblank⟩

/-- The candidate that the fingerprint finds. -/
def ofFingerprint (transactionId : UUID) : DuplicateCandidate :=
  ⟨transactionId, .sourceFingerprint,
    "A recent entry has the same protected source fingerprint.", fingerprintSummary_nonblank⟩

/-- What the clarification shows of a candidate. -/
def choice (item : DuplicateCandidate) : ClarificationChoice :=
  ⟨item.transactionId.text, item.summary, some item.transactionId⟩

end DuplicateCandidate

/-! ## Searches -/

/-- What `prepare` searches with: the entry has a reference, or none. -/
structure DuplicateSearch where
  bookId : UUID
  occurredAt : Moment
  fingerprint : EventHash
  external : Option ExternalReferenceKey

namespace DuplicateSearch

/-- `get_external_reference` -/
def reference (self : DuplicateSearch) (t : EntryTables) : Option ExternalReferenceRecord :=
  self.external.bind fun external =>
    t.references.find? fun row => row.bookId = self.bookId ∧ row.reference = external

/-- `find_source_fingerprints`, in its order. -/
def fingerprints (self : DuplicateSearch) (t : EntryTables) : List SourceFingerprintRecord :=
  (CommitPreparedEntryCommand.findSourceFingerprints t self.bookId self.fingerprint
    (self.occurredAt - CommitPreparedEntryCommand.sevenDays)).insertionSort fun row row' =>
      toLex (row.createdAt, row.transactionId) ≤ toLex (row'.createdAt, row'.transactionId)

/-- The candidates before they are merged. -/
def found (self : DuplicateSearch) (t : EntryTables) : List DuplicateCandidate :=
  (self.reference t).toList.map (fun row => .ofReference row.transactionId)
    ++ (self.fingerprints t).map fun row => .ofFingerprint row.transactionId

/-- `_duplicate_candidates` -/
def duplicateCandidates (self : DuplicateSearch) (t : EntryTables) : List DuplicateCandidate :=
  OrderedDict.ofItems (·.transactionId) (self.found t)

end DuplicateSearch

/-! ## Decisions -/

structure DuplicateDecision where
  status : PreparedStatus
  candidates : List DuplicateCandidate
  hReady : status = .ready → candidates = []
  hSuspected : status = .duplicateSuspected → candidates ≠ []
  hStatus : status = .ready ∨ status = .duplicateSuspected

/-- The key by which candidates are sorted. -/
def DuplicateCandidate.rank (item : DuplicateCandidate) : Nat ×ₗ UUID :=
  toLex (item.evidenceKind.priority, item.transactionId)

def DuplicateCandidate.Before (item other : DuplicateCandidate) : Prop :=
  item.rank ≤ other.rank

instance : DecidableRel DuplicateCandidate.Before :=
  fun item other => inferInstanceAs (Decidable (item.rank ≤ other.rank))

instance : IsTrans DuplicateCandidate DuplicateCandidate.Before :=
  ⟨fun _ _ _ => le_trans⟩

instance : Std.Total DuplicateCandidate.Before :=
  ⟨fun item other => le_total item.rank other.rank⟩

theorem ranked_ne_nil {candidates : List DuplicateCandidate} (h : candidates ≠ []) :
    candidates.insertionSort DuplicateCandidate.Before ≠ [] := by
  intro hNil
  refine h (List.length_eq_zero_iff.1 ?_)
  rw [← List.length_insertionSort DuplicateCandidate.Before candidates, hNil, List.length_nil]

/-- `decide_duplicate` -/
def decideDuplicate (candidates : List DuplicateCandidate) : DuplicateDecision :=
  if h : candidates = [] then ⟨.ready, [], fun _ => rfl, nofun, .inl rfl⟩
  else ⟨.duplicateSuspected, candidates.insertionSort DuplicateCandidate.Before, nofun,
    fun _ => ranked_ne_nil h, .inr rfl⟩

/-- The ranking has the same candidates, the strongest first. -/
theorem decideDuplicate_ordered (candidates : List DuplicateCandidate) :
    (decideDuplicate candidates).candidates.Perm candidates
      ∧ (decideDuplicate candidates).candidates.Pairwise fun item other =>
        item.evidenceKind.priority ≤ other.evidenceKind.priority := by
  unfold decideDuplicate
  split
  · next hNone =>
      subst hNone
      exact ⟨List.Perm.nil, List.Pairwise.nil⟩
  · refine ⟨List.perm_insertionSort _ _, (List.pairwise_insertionSort _ _).imp ?_⟩
    intro item other hBefore
    exact (Prod.Lex.le_iff.1 hBefore).elim le_of_lt fun hTie => hTie.1.le

/-! ## The report -/

/-- What `prepare` reports when nothing else stops it. -/
structure DuplicateReport where
  status : PreparedStatus
  candidates : List DuplicateCandidate
  choices : List ClarificationChoice

/-- The part of `prepare` that looks for duplicates; a clarification has at most 64 choices. -/
def prepareDuplicates (search : DuplicateSearch) (t : EntryTables) :
    Except EntryError DuplicateReport := do
  let candidates := search.duplicateCandidates t
  let decision := decideDuplicate candidates
  let choices := candidates.map (·.choice)
  require (choices.length ≤ 64) (.contract
    s!"Tuple should have at most 64 items after validation, not {choices.length}")
  return ⟨decision.status, candidates, choices⟩

/-! ## What is found -/

section Strongest

variable {search : DuplicateSearch} {t : EntryTables} {report : DuplicateReport}

/-- Whether the kind of evidence finds the transaction; nothing searches for soft matches. -/
def DuplicateSearch.Finds (search : DuplicateSearch) (t : EntryTables) (transactionId : UUID) :
    DuplicateEvidenceKind → Prop
  | .externalReference => transactionId ∈ (search.reference t).map (·.transactionId)
  | .sourceFingerprint => transactionId ∈ (search.fingerprints t).map (·.transactionId)
  | .softMatch => False

/-- Every transaction that is found is listed once, under the strongest of its evidence, and
the strongest evidence comes first. -/
structure ReportsStrongest (search : DuplicateSearch) (t : EntryTables)
    (reported : List DuplicateCandidate) : Prop where
  once : (reported.map (·.transactionId)).Nodup
  complete : ∀ transactionId, transactionId ∈ reported.map (·.transactionId)
    ↔ ∃ kind, search.Finds t transactionId kind
  found : ∀ item ∈ reported, search.Finds t item.transactionId item.evidenceKind
  strongest : ∀ item ∈ reported, ∀ kind, search.Finds t item.transactionId kind →
    item.evidenceKind.priority ≤ kind.priority
  ordered : reported.Pairwise fun item other =>
    item.evidenceKind.priority ≤ other.evidenceKind.priority

/-- Every candidate is one of the two kinds, and is found. -/
theorem mem_found {item : DuplicateCandidate} : item ∈ search.found t
    ↔ (∃ row ∈ search.reference t, item = .ofReference row.transactionId)
      ∨ ∃ row ∈ search.fingerprints t, item = .ofFingerprint row.transactionId := by
  unfold DuplicateSearch.found
  simp only [List.mem_append, List.mem_map, Option.mem_toList, Option.mem_def, eq_comm]

theorem found_finds {item : DuplicateCandidate} (h : item ∈ search.found t) :
    search.Finds t item.transactionId item.evidenceKind := by
  obtain ⟨row, hRow, rfl⟩ | ⟨row, hRow, rfl⟩ := mem_found.1 h
  · exact Option.mem_map_of_mem (·.transactionId) hRow
  · exact List.mem_map_of_mem hRow

theorem found_transactions {transactionId : UUID} :
    transactionId ∈ (search.found t).map (·.transactionId)
      ↔ ∃ kind, search.Finds t transactionId kind := by
  constructor
  · intro h
    obtain ⟨item, hItem, rfl⟩ := List.mem_map.1 h
    exact ⟨item.evidenceKind, found_finds hItem⟩
  · rintro ⟨kind, hKind⟩
    cases kind with
    | externalReference =>
        obtain ⟨row, hRow, rfl⟩ := Option.mem_map.1 hKind
        exact List.mem_map.2 ⟨_, mem_found.2 (.inl ⟨row, hRow, rfl⟩), rfl⟩
    | sourceFingerprint =>
        obtain ⟨row, hRow, rfl⟩ := List.mem_map.1 hKind
        exact List.mem_map.2 ⟨_, mem_found.2 (.inr ⟨row, hRow, rfl⟩), rfl⟩
    | softMatch => exact hKind.elim

/-- The reference and the fingerprint find no transaction in common. -/
def DuplicateSearch.Apart (search : DuplicateSearch) (t : EntryTables) : Prop :=
  ∀ row ∈ search.reference t, row.transactionId ∉ (search.fingerprints t).map (·.transactionId)

theorem found_of_reference {row : ExternalReferenceRecord}
    (hRow : search.reference t = some row) :
    search.found t = .ofReference row.transactionId
      :: (search.fingerprints t).map fun row => .ofFingerprint row.transactionId := by
  unfold DuplicateSearch.found
  rw [hRow]
  rfl

theorem fingerprints_transactions :
    ((search.fingerprints t).map fun row =>
        DuplicateCandidate.ofFingerprint row.transactionId).map (·.transactionId)
      = (search.fingerprints t).map (·.transactionId) := by
  rw [List.map_map]
  rfl

/-- The merged list when the reference comes first and stays there. -/
theorem duplicateCandidates_of_reference {row : ExternalReferenceRecord}
    (hRow : search.reference t = some row)
    (hApart : row.transactionId ∉ (search.fingerprints t).map (·.transactionId)) :
    search.duplicateCandidates t = .ofReference row.transactionId
      :: OrderedDict.ofItems (·.transactionId)
        ((search.fingerprints t).map fun row => .ofFingerprint row.transactionId) := by
  rw [DuplicateSearch.duplicateCandidates, found_of_reference hRow]
  refine OrderedDict.ofItems_cons ?_
  rw [fingerprints_transactions]
  exact hApart

/-- The fingerprint candidates stay in order: they are equally strong. -/
theorem fingerprints_ordered {rows : List SourceFingerprintRecord} :
    (OrderedDict.ofItems (·.transactionId)
      (rows.map fun row => DuplicateCandidate.ofFingerprint row.transactionId)).Pairwise
      fun item other => item.evidenceKind.priority ≤ other.evidenceKind.priority := by
  refine List.Pairwise.imp_of_mem (fun {item other} hItem hOther _ => ?_)
    (List.pairwise_of_forall fun _ _ => trivial : List.Pairwise (fun _ _ => True) _)
  obtain ⟨_, -, rfl⟩ := List.mem_map.1 (OrderedDict.mem_of_mem_ofItems hItem)
  obtain ⟨_, -, rfl⟩ := List.mem_map.1 (OrderedDict.mem_of_mem_ofItems hOther)
  exact le_rfl

theorem duplicateCandidates_ordered (hApart : search.Apart t) :
    (search.duplicateCandidates t).Pairwise fun item other =>
      item.evidenceKind.priority ≤ other.evidenceKind.priority := by
  cases hRow : search.reference t with
  | none =>
      unfold DuplicateSearch.duplicateCandidates DuplicateSearch.found
      rw [hRow]
      exact fingerprints_ordered
  | some row =>
      rw [duplicateCandidates_of_reference hRow (hApart row hRow)]
      exact List.pairwise_cons.2 ⟨fun _ _ => Nat.zero_le _, fingerprints_ordered⟩

/-- A candidate of the fingerprint is the only evidence for its transaction, when the
searches are apart. -/
theorem found_strongest (hApart : search.Apart t) {item : DuplicateCandidate}
    (hItem : item ∈ search.found t) {kind : DuplicateEvidenceKind}
    (hKind : search.Finds t item.transactionId kind) :
    item.evidenceKind.priority ≤ kind.priority := by
  obtain ⟨row, -, rfl⟩ | ⟨row, hRow, rfl⟩ := mem_found.1 hItem
  · exact Nat.zero_le _
  · cases kind with
    | externalReference =>
        obtain ⟨first, hFirst, hSame⟩ := Option.mem_map.1 hKind
        refine absurd ?_ (hApart first hFirst)
        rw [hSame]
        exact List.mem_map_of_mem hRow
    | sourceFingerprint => exact le_rfl
    | softMatch => exact hKind.elim

/-- A reference that the fingerprint finds again is not what stays. -/
theorem apart_of_strongest (h : ReportsStrongest search t (search.duplicateCandidates t)) :
    search.Apart t := by
  intro row hRow hAgain
  have hFinds : search.Finds t row.transactionId .externalReference :=
    Option.mem_map_of_mem (·.transactionId) hRow
  obtain ⟨item, hItem, hSame⟩ := List.mem_map.1 ((h.complete row.transactionId).2 ⟨_, hFinds⟩)
  have hStrong := h.strongest item hItem .externalReference (hSame ▸ hFinds)
  obtain ⟨before, after, hFound, hAfter⟩ := OrderedDict.mem_ofItems.1 hItem
  rw [found_of_reference hRow] at hFound
  cases before with
  | nil =>
      -- the reference is the last candidate of its transaction
      obtain ⟨-, rfl⟩ := List.cons.inj hFound
      rw [fingerprints_transactions, hSame] at hAfter
      exact hAfter hAgain
  | cons _ before =>
      -- a fingerprint has replaced the reference
      have hLater : item ∈ (search.fingerprints t).map fun row =>
          DuplicateCandidate.ofFingerprint row.transactionId := by
        rw [(List.cons.inj hFound).2]
        exact List.mem_append_right before List.mem_cons_self
      obtain ⟨_, -, rfl⟩ := List.mem_map.1 hLater
      exact absurd hStrong (Nat.not_le.2 Nat.zero_lt_one)

/-- The reported list names every transaction once, with its strongest evidence, exactly when
the fingerprint does not find the transaction of the reference again. -/
theorem prepareDuplicates_strongest_iff (h : prepareDuplicates search t = .ok report) :
    ReportsStrongest search t report.candidates ↔ search.Apart t := by
  simp only [prepareDuplicates, bind_eq_ok, require_eq_ok, pure_eq_ok, exists_const] at h
  obtain ⟨-, rfl⟩ := h
  refine ⟨apart_of_strongest, fun hApart => ?_⟩
  exact
    { once := OrderedDict.nodup_ofItems
      complete := fun transactionId => OrderedDict.keys_ofItems.trans found_transactions
      found := fun item hItem => found_finds (OrderedDict.mem_of_mem_ofItems hItem)
      strongest := fun item hItem kind hKind =>
        found_strongest hApart (OrderedDict.mem_of_mem_ofItems hItem) hKind
      ordered := duplicateCandidates_ordered hApart }

end Strongest

/-! ### A repeated entry -/

/-- One entry that is already there, with its reference and its fingerprint. -/
def sampleRepeated : EntryTables where
  intents := []
  references := [⟨1, ⟨"shop", .providerOrder, 0⟩, 7, 2, 10⟩]
  fingerprints := [⟨1, 7, 0, 2, 10⟩]

/-- The same entry again. -/
def sampleRepetition : DuplicateSearch := ⟨1, 20, 0, some ⟨"shop", .providerOrder, 0⟩⟩

theorem repeated_entry_weakened : ∃ report,
    prepareDuplicates sampleRepetition sampleRepeated = .ok report
      ∧ ¬ ReportsStrongest sampleRepetition sampleRepeated report.candidates := by
  refine ⟨⟨.duplicateSuspected, [.ofFingerprint 7],
    [(DuplicateCandidate.ofFingerprint 7).choice]⟩, rfl, fun h => ?_⟩
  have hStrong := h.strongest (.ofFingerprint 7) (List.mem_singleton_self _)
    .externalReference rfl
  exact absurd hStrong (by decide)

theorem prepareDuplicates_strongest_sample :
    ReportsStrongest { sampleRepetition with external := none } sampleRepeated
      [.ofFingerprint 7] := by
  have hReport : prepareDuplicates { sampleRepetition with external := none } sampleRepeated
      = .ok ⟨.duplicateSuspected, [.ofFingerprint 7],
        [(DuplicateCandidate.ofFingerprint 7).choice]⟩ := rfl
  refine (prepareDuplicates_strongest_iff hReport).2 ?_
  rintro _ ⟨⟩

end TrackAnywhere.Ports
