import TrackAnywhere.Ports.AuthThrottle

/-!
# Concurrent checks of the throttle

A check reads the clock before it takes the lock, so the checks take the lock with readings in
any order.  `_retry_after` gains nothing from an early reading, but stores it: the bucket goes
back in time, and the next check gains the same seconds once more.
-/

namespace TrackAnywhere.Ports

open TrackAnywhere.Verified
open TrackAnywhere.Verified.Checked
open TrackAnywhere.Verified.KeyedSum
open TrackAnywhere.Verified.TokenBucket

/-! ## The system -/

/-- A check that has read the clock and waits for the lock. -/
structure WaitingCheck where
  client : String
  subject : String
  now : ℚ
deriving DecidableEq

structure ThrottleSystem where
  clock : ℚ
  waiting : Dict Nat WaitingCheck
  buckets : ThrottleBuckets
  /-- The checks so far, each with its hint. -/
  checked : List (WaitingCheck × Option Int)

def ThrottleSystem.start (clock : ℚ) : ThrottleSystem := ⟨clock, ∅, .empty, []⟩

inductive ThrottleAction where
  | tick (seconds : ℚ)
  /-- A caller enters `check` and reads the clock. -/
  | read (caller : Nat) (client subject : String)
  /-- The caller has the lock. -/
  | lock (caller : Nat)
  | reset (subject : String)

/-- One step of the callers; a call whose keys are not valid raises before it does anything. -/
inductive ThrottleStep (throttle : InMemoryAuthThrottle) :
    ThrottleSystem → ThrottleAction → ThrottleSystem → Prop
  | tick {s : ThrottleSystem} {seconds : ℚ} : 0 ≤ seconds →
      ThrottleStep throttle s (.tick seconds) { s with clock := s.clock + seconds }
  | read {s : ThrottleSystem} {caller : Nat} {client subject : String} :
      caller ∉ s.waiting → InMemoryAuthThrottle.validateKeys client subject = .ok () →
      ThrottleStep throttle s (.read caller client subject)
        { s with waiting := s.waiting.insert caller ⟨client, subject, s.clock⟩ }
  | lock {s : ThrottleSystem} {caller : Nat} {check : WaitingCheck} :
      s.waiting.lookup caller = some check →
      ThrottleStep throttle s (.lock caller)
        { s with
          waiting := s.waiting.erase caller
          buckets := (throttle.checkLocked s.buckets check.client check.subject check.now).2
          checked := s.checked ++
            [(check, (throttle.checkLocked s.buckets check.client check.subject check.now).1)] }
  | reset {s : ThrottleSystem} {subject : String} :
      validateThrottleKey subject "subject" 320 = .ok () →
      ThrottleStep throttle s (.reset subject)
        { s with buckets := InMemoryAuthThrottle.resetLocked s.buckets subject }

/-! ## Both kinds of key -/

inductive KeyKind where
  | client
  | subject

def InMemoryAuthThrottle.limits (throttle : InMemoryAuthThrottle) : KeyKind → KeyLimits
  | .client => throttle.client
  | .subject => throttle.subject

def ThrottleBuckets.of (buckets : ThrottleBuckets) : KeyKind → Buckets
  | .client => buckets.clients
  | .subject => buckets.subjects

def WaitingCheck.key (check : WaitingCheck) : KeyKind → String
  | .client => check.client
  | .subject => check.subject

/-- The key of this kind that a caller comes with. -/
def ThrottleAction.key? (kind : KeyKind) : ThrottleAction → Option String
  | .read _ client subject => some ((WaitingCheck.mk client subject 0).key kind)
  | _ => none

/-- The keys of this kind that occur. -/
def keysOf (kind : KeyKind) (actions : List ThrottleAction) : Finset String :=
  (actions.filterMap (·.key? kind)).toFinset

/-- The action throws the bucket of this key away. -/
def ThrottleAction.Resets (kind : KeyKind) (key : String) : ThrottleAction → Prop
  | .reset subject => kind = .subject ∧ subject = key
  | _ => False

/-- How many checks of the key were admitted with a reading in the interval. -/
def ThrottleSystem.admitted (s : ThrottleSystem) (kind : KeyKind) (key : String)
    (first last : ℚ) : Nat :=
  s.checked.countP fun checked =>
    checked.2 = none ∧ checked.1.key kind = key ∧ first ≤ checked.1.now ∧ checked.1.now ≤ last

/-- A check of the key takes the lock with a reading not before that of the key's bucket. -/
def InOrder (kind : KeyKind) (key : String) (s : ThrottleSystem) : ThrottleAction → Prop
  | .lock caller => ∀ check ∈ s.waiting.lookup caller, check.key kind = key →
      ∀ bucket ∈ (s.buckets.of kind).lookup key, bucket.updatedAt ≤ check.now
  | _ => True

instance (kind : KeyKind) (key : String) (s : ThrottleSystem) (action : ThrottleAction) :
    Decidable (InOrder kind key s action) :=
  match action with
  | .lock caller => inferInstanceAs (Decidable (∀ check ∈ s.waiting.lookup caller, _ → _))
  | .tick _ | .read _ _ _ | .reset _ => isTrue trivial

/-! ## One step -/

section Steps

variable {throttle : InMemoryAuthThrottle} {kind : KeyKind} {key : String}
  {keys : Finset String} {s s' : ThrottleSystem} {action : ThrottleAction}
  {actions : List ThrottleAction} {first last clock : ℚ}

/-- What a check does under the lock, for the keys of each kind. -/
theorem checkLocked_of (throttle : InMemoryAuthThrottle) (buckets : ThrottleBuckets)
    (check : WaitingCheck) : ∃ admitted,
    (admitted = true ↔
      (throttle.checkLocked buckets check.client check.subject check.now).1 = none)
    ∧ ∀ kind, (throttle.checkLocked buckets check.client check.subject check.now).2.of kind
        = (throttle.limits kind).served (buckets.of kind) (check.key kind) check.now admitted
      ∧ (admitted = true → 1 ≤ (throttle.limits kind).rate.level
          ((buckets.of kind).lookup (check.key kind)) check.now) := by
  by_cases hTokens : throttle.HasTokens buckets check.client check.subject check.now
  · rw [InMemoryAuthThrottle.checkLocked_admitted hTokens]
    refine ⟨true, iff_of_true rfl rfl, fun kind => ?_⟩
    cases kind with
    | client => exact ⟨rfl, fun _ => hTokens.1⟩
    | subject => exact ⟨rfl, fun _ => hTokens.2⟩
  · rw [InMemoryAuthThrottle.checkLocked_rejected hTokens]
    refine ⟨false, iff_of_false Bool.false_ne_true (Option.some_ne_none _), fun kind => ?_⟩
    cases kind with
    | client => exact ⟨rfl, fun h => absurd h Bool.false_ne_true⟩
    | subject => exact ⟨rfl, fun h => absurd h Bool.false_ne_true⟩

/-- A check takes a token of the interval if it is admitted with a reading there. -/
theorem spentBound_served {limits : KeyLimits} {buckets : Buckets} {now : ℚ} {admitted : Bool}
    {count : Nat} (h : SpentBound limits.rate first last count (buckets.lookup key))
    (hRoom : buckets.entries.length < limits.maxEntries)
    (hOrder : ∀ bucket ∈ buckets.lookup key, bucket.updatedAt ≤ now)
    (hToken : admitted = true → 1 ≤ limits.rate.level (buckets.lookup key) now) :
    SpentBound limits.rate first last
      (count + if admitted = true ∧ first ≤ now ∧ now ≤ last then 1 else 0)
      ((limits.served buckets key now admitted).lookup key) := by
  rw [KeyLimits.lookup_served hRoom, if_pos rfl]
  have hCounted := h.counted hOrder
  cases admitted with
  | false =>
      rw [if_neg Bool.false_ne_true, sub_zero, if_neg fun hBoth => Bool.false_ne_true hBoth.1]
      exact hCounted
  | true =>
      have hSpent := hCounted.spent (hToken rfl)
      rw [if_pos rfl]
      simp only [true_and]
      exact hSpent

/-- What stays true of a key in the interval. -/
structure RateKept (throttle : InMemoryAuthThrottle) (keys : Finset String) (kind : KeyKind)
    (key : String) (first last : ℚ) (s : ThrottleSystem) : Prop where
  waiting : ∀ caller, ∀ check ∈ s.waiting.lookup caller, check.key kind ∈ keys
  stored : ∀ other ∈ s.buckets.of kind, other ∈ keys
  spent : SpentBound (throttle.limits kind).rate first last (s.admitted kind key first last)
    ((s.buckets.of kind).lookup key)

/-- Callers that wait bring keys that occur, and buckets are stored for these. -/
theorem RateKept.step (h : RateKept throttle keys kind key first last s)
    (hFew : keys.card < (throttle.limits kind).maxEntries)
    (hKeys : ∀ other ∈ action.key? kind, other ∈ keys) (hReset : ¬ action.Resets kind key)
    (hOrder : InOrder kind key s action) (hStep : ThrottleStep throttle s action s') :
    RateKept throttle keys kind key first last s' := by
  cases hStep with
  | tick hSeconds => exact ⟨h.waiting, h.stored, h.spent⟩
  | @read caller client subject hIdle hValid =>
      refine ⟨fun other check hCheck => ?_, h.stored, h.spent⟩
      by_cases hSame : other = caller
      · have hRead : (s.waiting.insert caller ⟨client, subject, s.clock⟩).lookup other
            = some check := hCheck
        rw [hSame, AList.lookup_insert] at hRead
        cases hRead
        exact hKeys ((WaitingCheck.mk client subject 0).key kind) rfl
      · exact h.waiting other check ((AList.lookup_insert_ne hSame).symm.trans hCheck)
  | @lock caller check hWaiting =>
      obtain ⟨admitted, hAdmitted, hServed⟩ := checkLocked_of throttle s.buckets check
      obtain ⟨hMap, hToken⟩ := hServed kind
      have hRoom := KeyLimits.room_of_keys hFew h.stored
      refine ⟨fun other found hFound => ?_, fun other hOther => ?_, ?_⟩
      · by_cases hSame : other = caller
        · have hErased : (s.waiting.erase caller).lookup other = some found := hFound
          rw [hSame, AList.lookup_erase] at hErased
          cases hErased
        · exact h.waiting other found ((AList.lookup_erase_ne hSame).symm.trans hFound)
      · have hThere : other ∈ (throttle.limits kind).served (s.buckets.of kind) (check.key kind)
            check.now admitted := hMap ▸ hOther
        exact (KeyLimits.mem_served hThere hRoom).elim
          (fun hSame => hSame ▸ h.waiting caller check hWaiting) (h.stored other)
      · have hCount : ThrottleSystem.admitted
            { s with
              waiting := s.waiting.erase caller
              buckets := (throttle.checkLocked s.buckets check.client check.subject check.now).2
              checked := s.checked ++ [(check,
                (throttle.checkLocked s.buckets check.client check.subject check.now).1)] }
              kind key first last
            = s.admitted kind key first last
              + if admitted = true ∧ check.key kind = key ∧ first ≤ check.now ∧ check.now ≤ last
                then 1 else 0 := by
          unfold ThrottleSystem.admitted
          rw [List.countP_append, List.countP_singleton]
          simp only [decide_eq_true_eq, hAdmitted]
        rw [hCount]
        show SpentBound _ _ _ _ ((ThrottleBuckets.of _ kind).lookup key)
        rw [hMap]
        by_cases hSame : check.key kind = key
        · subst hSame
          simpa only [true_and] using spentBound_served h.spent hRoom
            (hOrder check hWaiting rfl) hToken
        · rw [if_neg fun hBoth => hSame hBoth.2.1, KeyLimits.lookup_served hRoom,
            if_neg (Ne.symm hSame)]
          exact h.spent
  | @reset subject hValid =>
      cases kind with
      | client => exact ⟨h.waiting, h.stored, h.spent⟩
      | subject =>
          have hOther : key ≠ subject := fun hSame => hReset ⟨rfl, hSame.symm⟩
          refine ⟨h.waiting, fun other hThere => h.stored other (AList.mem_erase.1 hThere).2, ?_⟩
          show SpentBound _ _ _ _ ((s.buckets.subjects.erase subject).lookup key)
          rw [AList.lookup_erase_ne hOther]
          exact h.spent

/-- The same for a run, by induction on its steps. -/
theorem RateKept.run (hRun : Run (fun s action s' => ThrottleStep throttle s action s'
      ∧ InOrder kind key s action) s actions s')
    (h : RateKept throttle keys kind key first last s)
    (hFew : keys.card < (throttle.limits kind).maxEntries)
    (hKeys : ∀ action ∈ actions, ∀ other ∈ action.key? kind, other ∈ keys)
    (hReset : ∀ action ∈ actions, ¬ action.Resets kind key) :
    RateKept throttle keys kind key first last s' := by
  induction hRun with
  | nil => exact h
  | @cons s s₁ s' action rest hFirst _ ih =>
      have hNext := h.step hFew (hKeys action List.mem_cons_self)
        (hReset action List.mem_cons_self) hFirst.2 hFirst.1
      exact ih hNext (fun other hOther => hKeys other (List.mem_cons_of_mem _ hOther))
        fun other hOther => hReset other (List.mem_cons_of_mem _ hOther)

/-- In a run with few keys, in which the bucket of a key never goes back in time and is not
reset, at most `capacity + w * refill` checks of the key are admitted with a reading in an
interval of length `w`. -/
theorem admitted_le {w : ℚ} (hRun : Run (fun s action s' => ThrottleStep throttle s action s'
      ∧ InOrder kind key s action) (.start clock) actions s)
    (hFew : (keysOf kind actions).card < (throttle.limits kind).maxEntries)
    (hReset : ∀ action ∈ actions, ¬ action.Resets kind key) (hLength : 0 ≤ w) :
    (s.admitted kind key first (first + w) : ℚ)
      ≤ (throttle.limits kind).capacity + w * (throttle.limits kind).refillPerSecond := by
  have hStart : RateKept throttle (keysOf kind actions) kind key first (first + w)
      (.start clock) := by
    refine ⟨fun caller check hCheck => ?_, fun other hOther => ?_, ?_⟩
    · have hNone : (∅ : Dict Nat WaitingCheck).lookup caller = some check := hCheck
      rw [AList.lookup_empty] at hNone
      cases hNone
    · cases kind <;> exact absurd hOther (AList.notMem_empty other)
    · have hNone : ((ThrottleSystem.start clock).buckets.of kind).lookup key = none := by
        cases kind <;> exact AList.lookup_empty key
      rw [hNone]
      exact SpentBound.start (le_add_of_nonneg_right hLength)
  have hKept := hStart.run hRun hFew (fun action hAction other hOther =>
    List.mem_toFinset.2 (List.mem_filterMap.2 ⟨action, hAction, hOther⟩)) hReset
  have hTotal := hKept.spent.total
  rwa [add_sub_cancel_left] at hTotal

end Steps

/-! ### A late lock with an early reading -/

theorem one_check : 1 ≤ 1 := by
  decide

/-- One check of a client, and a token back in a second. -/
def sampleSingle : InMemoryAuthThrottle where
  client := ⟨1, 1, 1024, one_check, token_per_second, sampleEntries⟩
  subject := ⟨10, 1, 1024, ten_checks, token_per_second, sampleEntries⟩

/-- Two callers that take the lock in the order of their readings. -/
def orderedReadings : List ThrottleAction :=
  [.read 0 "a" "x", .tick 1, .read 1 "a" "x", .lock 0, .lock 1]

theorem orderedReadings_run : ∃ s, Run (fun s action s' => ThrottleStep sampleSingle s action s'
    ∧ InOrder .client "a" s action) (.start 0) orderedReadings s
    ∧ s.admitted .client "a" 0 1 = 2 := by
  refine ⟨_, .cons ⟨.read ?_ ?_, trivial⟩ (.cons ⟨.tick ?_, trivial⟩
    (.cons ⟨.read ?_ ?_, trivial⟩ (.cons ⟨.lock rfl, ?_⟩ (.cons ⟨.lock rfl, ?_⟩ (.nil _))))), ?_⟩
  all_goals decide +kernel

theorem admitted_le_sample : ∃ s : ThrottleSystem, s.admitted .client "a" 0 (0 + 1) = 2
    ∧ (s.admitted .client "a" 0 (0 + 1) : ℚ) ≤ (1 : Nat) + 1 * 1 := by
  obtain ⟨s, hRun, hTwo⟩ := orderedReadings_run
  have hReset : ∀ action ∈ orderedReadings, ¬ action.Resets .client "a" := by
    intro action hAction
    simp only [orderedReadings, List.mem_cons, List.not_mem_nil, or_false] at hAction
    obtain rfl | rfl | rfl | rfl | rfl := hAction <;> exact id
  exact ⟨s, by rwa [zero_add], admitted_le hRun (by decide +kernel) hReset zero_le_one⟩

/-- Two callers read the clock a second after the first one; the first has the lock between
them. -/
def earlyReading : List ThrottleAction :=
  [.read 0 "a" "x", .tick 1, .read 1 "a" "x", .read 2 "a" "x", .lock 1, .lock 0, .lock 2]

theorem earlyReading_run : ∃ s, Run (ThrottleStep sampleSingle) (.start 0) earlyReading s
    ∧ s.admitted .client "a" 1 1 = 2 := by
  refine ⟨_, .cons (.read ?_ ?_) (.cons (.tick ?_) (.cons (.read ?_ ?_) (.cons (.read ?_ ?_)
    (.cons (.lock rfl) (.cons (.lock rfl) (.cons (.lock rfl) (.nil _))))))), ?_⟩ <;>
    decide +kernel

/-- The bound fails: the first check is rejected, but it takes the bucket back to its reading, so
the third one gains the second a second time. -/
theorem early_reading_admits_twice : ¬ ∀ (throttle : InMemoryAuthThrottle) (kind : KeyKind)
    (key : String) (clock : ℚ) (actions : List ThrottleAction) (s : ThrottleSystem)
    (first w : ℚ), Run (ThrottleStep throttle) (.start clock) actions s →
      (∀ kind, (keysOf kind actions).card < (throttle.limits kind).maxEntries) →
      (∀ action ∈ actions, ¬ action.Resets kind key) → 0 ≤ w →
      (s.admitted kind key first (first + w) : ℚ)
        ≤ (throttle.limits kind).capacity + w * (throttle.limits kind).refillPerSecond := by
  intro hBound
  obtain ⟨s, hRun, hTwice⟩ := earlyReading_run
  have hFew (kind : KeyKind) :
      (keysOf kind earlyReading).card < (sampleSingle.limits kind).maxEntries := by
    cases kind <;> decide
  have hReset : ∀ action ∈ earlyReading, ¬ action.Resets .client "a" := by
    intro action hAction
    simp only [earlyReading, List.mem_cons, List.not_mem_nil, or_false] at hAction
    obtain rfl | rfl | rfl | rfl | rfl | rfl | rfl := hAction <;> exact id
  have hOne := hBound sampleSingle .client "a" 0 earlyReading s 1 0 hRun hFew hReset le_rfl
  rw [add_zero, hTwice] at hOne
  exact absurd hOne (by decide +kernel)

end TrackAnywhere.Ports
