import TrackAnywhere.Verified.Checked
import TrackAnywhere.Verified.KeyedSum
import TrackAnywhere.Verified.Run
import TrackAnywhere.Verified.TokenBucket

/-!
# The throttle of password authentication

`InMemoryAuthThrottle` keeps a token bucket for each client and for each subject, in two maps
that are ordered by use.  A check counts the tokens of both buckets and takes one of each if
both have one; otherwise it answers how many seconds to wait.  A subject's bucket is thrown
away after a successful login.

Times and tokens are exact rationals.
-/

namespace TrackAnywhere.Ports

open TrackAnywhere.Verified
open TrackAnywhere.Verified.Checked
open TrackAnywhere.Verified.KeyedSum
open TrackAnywhere.Verified.TokenBucket

/-! ## One map of buckets -/

/-- The limits of the clients, or those of the subjects. -/
structure KeyLimits where
  capacity : Nat
  refillPerSecond : ℚ
  maxEntries : Nat
  hCapacity : 1 ≤ capacity
  hRefill : 0 < refillPerSecond
  hMaxEntries : 1 ≤ maxEntries

/-- The buckets by key, the one used last in front. -/
abbrev Buckets := Dict String (Bucket ℚ)

/-- `popitem(last=False)` -/
def Buckets.popOldest (buckets : Buckets) : Buckets where
  entries := buckets.entries.dropLast
  nodupKeys := buckets.nodupKeys.sublist (List.dropLast_sublist _)

namespace KeyLimits

variable (limits : KeyLimits)

def rate : Rate ℚ where
  capacity := limits.capacity
  refill := limits.refillPerSecond
  hCapacity := Nat.one_le_cast.2 limits.hCapacity
  hRefill := limits.hRefill

/-- `_bucket`; the map after it, and the bucket. -/
def bucket (buckets : Buckets) (key : String) (now : ℚ) : Buckets × Bucket ℚ :=
  match buckets.lookup key with
  | some bucket => (buckets.insert key bucket, bucket)
  | none =>
      let kept : Buckets :=
        if limits.maxEntries ≤ buckets.entries.length then Buckets.popOldest buckets else buckets
      (kept.insert key (limits.rate.full now), limits.rate.full now)

/-- `_retry_after`; the hint, and the bucket after it. -/
def retryAfter (bucket : Bucket ℚ) (now : ℚ) : Option Int × Bucket ℚ :=
  let counted := limits.rate.refilled bucket now
  if 1 ≤ counted.tokens then (none, counted)
  else (some (max 1 ⌈(1 - counted.tokens) / limits.refillPerSecond⌉), counted)

end KeyLimits

/-! ## Calls -/

/-- `InMemoryAuthThrottle`, what its constructor is given. -/
structure InMemoryAuthThrottle where
  client : KeyLimits
  subject : KeyLimits

/-- `_clients` and `_subjects` -/
structure ThrottleBuckets where
  clients : Buckets
  subjects : Buckets

def ThrottleBuckets.empty : ThrottleBuckets := ⟨∅, ∅⟩

/-- `_validate_key` -/
def validateThrottleKey (value label : String) (maxLength : Nat) : Except String Unit :=
  require (value ≠ "" ∧ value.length ≤ maxLength) ("authentication throttle " ++ label
    ++ " is invalid")

namespace InMemoryAuthThrottle

variable (throttle : InMemoryAuthThrottle)

/-- Both keys of a check. -/
def validateKeys (client subject : String) : Except String Unit := do
  validateThrottleKey client "client" 64
  validateThrottleKey subject "subject" 320

/-- What `check` does while it holds the lock. -/
def checkLocked (state : ThrottleBuckets) (client subject : String) (now : ℚ) :
    Option Int × ThrottleBuckets :=
  let clients := throttle.client.bucket state.clients client now
  let subjects := throttle.subject.bucket state.subjects subject now
  let clientRetry := throttle.client.retryAfter clients.2 now
  let subjectRetry := throttle.subject.retryAfter subjects.2 now
  if clientRetry.1 ≠ none ∨ subjectRetry.1 ≠ none then
    (some (max (clientRetry.1.getD 0) (subjectRetry.1.getD 0)),
      { clients := clients.1.insert client clientRetry.2
        subjects := subjects.1.insert subject subjectRetry.2 })
  else
    (none,
      { clients := clients.1.insert client clientRetry.2.spent
        subjects := subjects.1.insert subject subjectRetry.2.spent })

/-- What `reset` does while it holds the lock. -/
def resetLocked (state : ThrottleBuckets) (subject : String) : ThrottleBuckets :=
  { state with subjects := state.subjects.erase subject }

end InMemoryAuthThrottle

/-- A call of `check`, with what the clock reads, or of `reset`. -/
inductive ThrottleCall where
  | check (client subject : String) (now : ℚ)
  | reset (subject : String)
deriving DecidableEq

/-- A hint is the answer to a check that was rejected. -/
abbrev ThrottleAnswer := Except String (Option Int)

namespace InMemoryAuthThrottle

variable (throttle : InMemoryAuthThrottle)

/-- `check`, with what the clock reads after the keys are validated. -/
def check (state : ThrottleBuckets) (client subject : String) (now : ℚ) :
    ThrottleAnswer × ThrottleBuckets :=
  match validateKeys client subject with
  | .error message => (.error message, state)
  | .ok () =>
      let checked := throttle.checkLocked state client subject now
      (.ok checked.1, checked.2)

/-- `reset` -/
def reset (state : ThrottleBuckets) (subject : String) : ThrottleAnswer × ThrottleBuckets :=
  match validateThrottleKey subject "subject" 320 with
  | .error message => (.error message, state)
  | .ok () => (.ok none, resetLocked state subject)

def call (state : ThrottleBuckets) : ThrottleCall → ThrottleAnswer × ThrottleBuckets
  | .check client subject now => throttle.check state client subject now
  | .reset subject => reset state subject

/-- One call of a sequence, with its answer. -/
def Answered (state : ThrottleBuckets) (entry : ThrottleCall × ThrottleAnswer)
    (state' : ThrottleBuckets) : Prop :=
  throttle.call state entry.1 = (entry.2, state')

end InMemoryAuthThrottle

/-! ## What a check leaves in a map -/

namespace KeyLimits

variable (limits : KeyLimits)

/-- The hint of a bucket at a level; zero if it has a token. -/
def hint (level : ℚ) : Int :=
  if 1 ≤ level then 0 else max 1 ⌈(1 - level) / limits.refillPerSecond⌉

/-- The map after a check of the key. -/
def served (buckets : Buckets) (key : String) (now : ℚ) (admitted : Bool) : Buckets :=
  let counted := limits.bucket buckets key now
  counted.1.insert key
    (if admitted then (limits.retryAfter counted.2 now).2.spent
      else (limits.retryAfter counted.2 now).2)

variable {limits} {buckets : Buckets} {key other : String} {now : ℚ} {admitted : Bool}

/-- Whether the bucket was stored or not, its tokens are counted. -/
theorem retryAfter_bucket : (limits.retryAfter (limits.bucket buckets key now).2 now).2
    = ⟨limits.rate.level (buckets.lookup key) now, now⟩ := by
  have hCounted (bucket : Bucket ℚ) : (limits.retryAfter bucket now).2
      = ⟨limits.rate.level (some bucket) now, now⟩ := by
    by_cases hToken : 1 ≤ (limits.rate.refilled bucket now).tokens
    · simp only [retryAfter, if_pos hToken, Rate.level]
      rfl
    · simp only [retryAfter, if_neg hToken, Rate.level]
      rfl
  rw [hCounted]
  unfold bucket
  split
  · next hStored => rw [hStored]
  · next hNew =>
      rw [hNew]
      exact congrArg (Bucket.mk · now) (Rate.level_full now)

theorem retryAfter_fst (bucket : Bucket ℚ) : (limits.retryAfter bucket now).1
    = if 1 ≤ (limits.retryAfter bucket now).2.tokens then none
      else some (limits.hint (limits.retryAfter bucket now).2.tokens) := by
  by_cases hToken : 1 ≤ (limits.rate.refilled bucket now).tokens
  · simp only [retryAfter, if_pos hToken]
  · simp only [retryAfter, if_neg hToken, hint]

/-- While there is room nothing is evicted. -/
theorem lookup_bucket (hRoom : buckets.entries.length < limits.maxEntries)
    (hOther : other ≠ key) :
    (limits.bucket buckets key now).1.lookup other = buckets.lookup other := by
  unfold bucket
  split
  · exact AList.lookup_insert_ne hOther
  · simp only [if_neg (not_le.2 hRoom)]
    exact AList.lookup_insert_ne hOther

/-- The key's bucket holds its level at the time of the check, less the token taken, and every
other bucket is as it was. -/
theorem lookup_served (hRoom : buckets.entries.length < limits.maxEntries) :
    (limits.served buckets key now admitted).lookup other =
      if other = key then
        some ⟨limits.rate.level (buckets.lookup key) now - (if admitted then 1 else 0), now⟩
      else buckets.lookup other := by
  unfold served
  simp only [retryAfter_bucket]
  by_cases hSame : other = key
  · rw [if_pos hSame, hSame, AList.lookup_insert]
    cases admitted
    · exact congrArg (fun tokens => some (Bucket.mk tokens now)) (sub_zero _).symm
    · rfl
  · rw [if_neg hSame, AList.lookup_insert_ne hSame, lookup_bucket hRoom hSame]

theorem mem_served (h : other ∈ limits.served buckets key now admitted)
    (hRoom : buckets.entries.length < limits.maxEntries) : other = key ∨ other ∈ buckets := by
  rw [← AList.lookup_isSome, lookup_served hRoom] at h
  split at h
  · next hSame => exact .inl hSame
  · exact .inr (AList.lookup_isSome.1 h)

/-- A map whose keys are among few keys has room. -/
theorem room_of_keys {keys : Finset String} (hKeys : keys.card < limits.maxEntries)
    (hWithin : ∀ key ∈ buckets, key ∈ keys) : buckets.entries.length < limits.maxEntries := by
  have hCard : buckets.keys.toFinset.card = buckets.keys.length :=
    List.toFinset_card_of_nodup buckets.keys_nodup
  have hSubset : buckets.keys.toFinset ⊆ keys := fun key hKey =>
    hWithin key (AList.mem_keys.2 (List.mem_toFinset.1 hKey))
  have hLength : buckets.keys.length = buckets.entries.length := List.length_map _
  exact hLength ▸ hCard ▸ (Finset.card_le_card hSubset).trans_lt hKeys

end KeyLimits

/-! ## Later levels -/

namespace KeyLimits

variable {limits : KeyLimits} {keys : Finset String} {buckets buckets' : Buckets}
  {key other : String} {past now later : ℚ} {admitted : Bool}

/-- The map holds few keys, and its tokens were counted by now. -/
structure Holds (limits : KeyLimits) (keys : Finset String) (now : ℚ) (buckets : Buckets) :
    Prop where
  few : keys.card < limits.maxEntries
  within : ∀ key ∈ buckets, key ∈ keys
  counted : ∀ key, ∀ bucket ∈ buckets.lookup key, bucket.updatedAt ≤ now

/-- No later check can tell the maps apart. -/
def SameFrom (limits : KeyLimits) (now : ℚ) (buckets buckets' : Buckets) : Prop :=
  ∀ key, ∀ later, now ≤ later →
    limits.rate.level (buckets.lookup key) later = limits.rate.level (buckets'.lookup key) later

theorem Holds.room (h : limits.Holds keys now buckets) :
    buckets.entries.length < limits.maxEntries :=
  room_of_keys h.few h.within

theorem Holds.start (hFew : keys.card < limits.maxEntries) : limits.Holds keys now ∅ where
  few := hFew
  within key hKey := absurd hKey (AList.notMem_empty key)
  counted key bucket hBucket := by
    rw [AList.lookup_empty] at hBucket
    cases hBucket

theorem Holds.served (h : limits.Holds keys past buckets) (hNow : past ≤ now)
    (hKey : key ∈ keys) : limits.Holds keys now (limits.served buckets key now admitted) where
  few := h.few
  within other hOther := (mem_served hOther h.room).elim (fun hSame => hSame ▸ hKey)
    (h.within other)
  counted other bucket hBucket := by
    rw [lookup_served h.room] at hBucket
    split at hBucket
    · cases hBucket
      exact le_rfl
    · exact (h.counted other bucket hBucket).trans hNow

theorem Holds.erase (h : limits.Holds keys now buckets) :
    limits.Holds keys now (buckets.erase key) where
  few := h.few
  within other hOther := h.within other (AList.mem_erase.1 hOther).2
  counted other bucket hBucket := by
    by_cases hSame : other = key
    · rw [hSame, AList.lookup_erase] at hBucket
      cases hBucket
    · rw [AList.lookup_erase_ne hSame] at hBucket
      exact h.counted other bucket hBucket

theorem Holds.mono (h : limits.Holds keys past buckets) (hNow : past ≤ now) :
    limits.Holds keys now buckets where
  few := h.few
  within := h.within
  counted key bucket hBucket := (h.counted key bucket hBucket).trans hNow

theorem SameFrom.mono (hSame : limits.SameFrom past buckets buckets') (hNow : past ≤ now) :
    limits.SameFrom now buckets buckets' :=
  fun key _ hLater => hSame key _ (hNow.trans hLater)

/-- A rejected check changes no later level. -/
theorem level_served_rejected (h : limits.Holds keys past buckets) (hNow : past ≤ now)
    (hLater : now ≤ later) :
    limits.rate.level ((limits.served buckets key now false).lookup other) later
      = limits.rate.level (buckets.lookup other) later := by
  rw [lookup_served h.room]
  split
  · next hSame =>
      subst hSame
      rw [if_neg Bool.false_ne_true, sub_zero]
      cases hStored : buckets.lookup other with
      | none => exact Rate.level_full later
      | some bucket =>
          exact Rate.level_refilled ((h.counted other bucket hStored).trans hNow) hLater
  · rfl

/-- A check of one key leaves the levels of the others. -/
theorem level_served_other (h : limits.Holds keys past buckets) (hOther : other ≠ key) :
    limits.rate.level ((limits.served buckets key now admitted).lookup other) later
      = limits.rate.level (buckets.lookup other) later := by
  rw [lookup_served h.room, if_neg hOther]

theorem SameFrom.served (hSame : limits.SameFrom past buckets buckets')
    (h : limits.Holds keys past buckets) (h' : limits.Holds keys past buckets')
    (hNow : past ≤ now) : limits.SameFrom now (limits.served buckets key now admitted)
      (limits.served buckets' key now admitted) := by
  intro other later hLater
  rw [lookup_served h.room, lookup_served h'.room, hSame key now hNow]
  split
  · rfl
  · exact hSame other later (hNow.trans hLater)

theorem SameFrom.rejected (hSame : limits.SameFrom past buckets buckets')
    (h : limits.Holds keys past buckets) (hNow : past ≤ now) :
    limits.SameFrom now (limits.served buckets key now false) buckets' := by
  intro other later hLater
  rw [level_served_rejected h hNow hLater]
  exact hSame other later (hNow.trans hLater)

theorem SameFrom.erase (hSame : limits.SameFrom now buckets buckets') :
    limits.SameFrom now (buckets.erase key) (buckets'.erase key) := by
  intro other later hLater
  by_cases hKey : other = key
  · rw [hKey, AList.lookup_erase, AList.lookup_erase]
  · rw [AList.lookup_erase_ne hKey, AList.lookup_erase_ne hKey]
    exact hSame other later hLater

/-- Erasing a bucket lowers no level. -/
theorem level_erase : limits.rate.level (buckets.lookup other) later
    ≤ limits.rate.level ((buckets.erase key).lookup other) later := by
  by_cases hKey : other = key
  · rw [hKey, AList.lookup_erase]
    exact Rate.level_le_capacity _
  · rw [AList.lookup_erase_ne hKey]

/-- The hint makes up for what is missing. -/
theorem one_le_add_hint (level : ℚ) : 1 ≤ level + limits.hint level * limits.refillPerSecond := by
  unfold hint
  split
  · next hToken => simpa using hToken
  · have hCeil := Int.le_ceil ((1 - level) / limits.refillPerSecond)
    have hMax : (⌈(1 - level) / limits.refillPerSecond⌉ : ℚ)
        ≤ ((max 1 ⌈(1 - level) / limits.refillPerSecond⌉ : ℤ) : ℚ) :=
      Int.cast_le.2 (le_max_right _ _)
    have hMissing := (div_le_iff₀ limits.hRefill).1 (hCeil.trans hMax)
    linarith

theorem hint_nonneg (level : ℚ) : 0 ≤ limits.hint level := by
  unfold hint
  split
  · exact le_rfl
  · exact zero_le_one.trans (le_max_left _ _)

end KeyLimits

/-! ## One call -/

def ThrottleCall.now? : ThrottleCall → Option ℚ
  | .check _ _ now => some now
  | .reset _ => none

def ThrottleCall.client? : ThrottleCall → Option String
  | .check client _ _ => some client
  | .reset _ => none

/-- The subject whose bucket the call may store. -/
def ThrottleCall.subject? : ThrottleCall → Option String
  | .check _ subject _ => some subject
  | .reset _ => none

/-- The answer is a hint. -/
def Rejected (entry : ThrottleCall × ThrottleAnswer) : Prop :=
  ∃ hint, entry.2 = .ok (some hint)

namespace InMemoryAuthThrottle

variable {throttle : InMemoryAuthThrottle} {clients subjects : Finset String}
  {state state' after after' : ThrottleBuckets} {client subject : String} {past now : ℚ}
  {call : ThrottleCall} {answer answer' : ThrottleAnswer}

/-- Both buckets of a check have a token. -/
def HasTokens (throttle : InMemoryAuthThrottle) (state : ThrottleBuckets)
    (client subject : String) (now : ℚ) : Prop :=
  1 ≤ throttle.client.rate.level (state.clients.lookup client) now
    ∧ 1 ≤ throttle.subject.rate.level (state.subjects.lookup subject) now

/-- The longer of the two waits. -/
def hint (throttle : InMemoryAuthThrottle) (state : ThrottleBuckets)
    (client subject : String) (now : ℚ) : Int :=
  max (throttle.client.hint (throttle.client.rate.level (state.clients.lookup client) now))
    (throttle.subject.hint (throttle.subject.rate.level (state.subjects.lookup subject) now))

/-- The maps after a check. -/
def served (throttle : InMemoryAuthThrottle) (state : ThrottleBuckets)
    (client subject : String) (now : ℚ) (admitted : Bool) : ThrottleBuckets where
  clients := throttle.client.served state.clients client now admitted
  subjects := throttle.subject.served state.subjects subject now admitted

/-- A check is admitted by the levels of its two buckets. -/
theorem checkLocked_admitted (h : throttle.HasTokens state client subject now) :
    throttle.checkLocked state client subject now
      = (none, throttle.served state client subject now true) := by
  obtain ⟨hClient, hSubject⟩ := h
  simp only [checkLocked, KeyLimits.retryAfter_fst, KeyLimits.retryAfter_bucket, if_pos hClient,
    if_pos hSubject, ne_eq, not_true_eq_false, or_self, if_false, served, KeyLimits.served,
    if_true]

theorem checkLocked_rejected (h : ¬ throttle.HasTokens state client subject now) :
    throttle.checkLocked state client subject now
      = (some (throttle.hint state client subject now),
          throttle.served state client subject now false) := by
  have hShort : ¬ 1 ≤ throttle.client.rate.level (state.clients.lookup client) now
      ∨ ¬ 1 ≤ throttle.subject.rate.level (state.subjects.lookup subject) now :=
    not_and_or.1 h
  simp only [checkLocked, KeyLimits.retryAfter_fst, KeyLimits.retryAfter_bucket, served,
    KeyLimits.served, hint]
  by_cases hClient : 1 ≤ throttle.client.rate.level (state.clients.lookup client) now
    <;> by_cases hSubject : 1 ≤ throttle.subject.rate.level (state.subjects.lookup subject) now
    <;> simp [hClient, hSubject, KeyLimits.hint] at hShort ⊢

theorem check_error {message : String} (hKeys : validateKeys client subject = .error message) :
    throttle.check state client subject now = (.error message, state) := by
  simp only [check, hKeys]

theorem check_admitted (hKeys : validateKeys client subject = .ok ())
    (hTokens : throttle.HasTokens state client subject now) :
    throttle.check state client subject now
      = (.ok none, throttle.served state client subject now true) := by
  simp only [check, hKeys, checkLocked_admitted hTokens]

theorem check_rejected (hKeys : validateKeys client subject = .ok ())
    (hTokens : ¬ throttle.HasTokens state client subject now) :
    throttle.check state client subject now
      = (.ok (some (throttle.hint state client subject now)),
          throttle.served state client subject now false) := by
  simp only [check, hKeys, checkLocked_rejected hTokens]

theorem reset_answer (hint : Int) : (reset state subject).1 ≠ .ok (some hint) := by
  unfold reset
  split <;> exact fun h => by cases h

/-- Both maps hold few keys, and their tokens were counted by now. -/
structure Holds (throttle : InMemoryAuthThrottle) (clients subjects : Finset String) (now : ℚ)
    (state : ThrottleBuckets) : Prop where
  client : throttle.client.Holds clients now state.clients
  subject : throttle.subject.Holds subjects now state.subjects

/-- No later call can tell the states apart. -/
structure SameFrom (throttle : InMemoryAuthThrottle) (now : ℚ)
    (state state' : ThrottleBuckets) : Prop where
  client : throttle.client.SameFrom now state.clients state'.clients
  subject : throttle.subject.SameFrom now state.subjects state'.subjects

/-- The keys of the call are among the few, and it comes after what is past. -/
structure Comes (clients subjects : Finset String) (past : ℚ) (call : ThrottleCall) : Prop where
  client : ∀ client ∈ call.client?, client ∈ clients
  subject : ∀ subject ∈ call.subject?, subject ∈ subjects
  later : ∀ now ∈ call.now?, past ≤ now

/-- The tokens are counted by the time of the call. -/
theorem Holds.called (h : throttle.Holds clients subjects past state)
    (hCall : Comes clients subjects past call) :
    throttle.Holds clients subjects (call.now?.getD past) (throttle.call state call).2 := by
  cases call with
  | check client subject now =>
      have hNow : past ≤ now := hCall.later now rfl
      have hServed (admitted : Bool) : throttle.Holds clients subjects now
          (throttle.served state client subject now admitted) :=
        ⟨h.client.served hNow (hCall.client client rfl),
          h.subject.served hNow (hCall.subject subject rfl)⟩
      show throttle.Holds clients subjects now (throttle.check state client subject now).2
      cases hKeys : validateKeys client subject with
      | error message =>
          rw [check_error hKeys]
          exact ⟨h.client.mono hNow, h.subject.mono hNow⟩
      | ok =>
          by_cases hTokens : throttle.HasTokens state client subject now
          · rw [check_admitted hKeys hTokens]
            exact hServed true
          · rw [check_rejected hKeys hTokens]
            exact hServed false
  | reset subject =>
      show throttle.Holds clients subjects past (reset state subject).2
      unfold reset
      split
      · exact h
      · exact ⟨h.client, h.subject.erase⟩

/-- States that no later call can tell apart give the same answer, and stay so. -/
theorem SameFrom.called (hSame : throttle.SameFrom past state state')
    (h : throttle.Holds clients subjects past state)
    (h' : throttle.Holds clients subjects past state') (hCall : Comes clients subjects past call) :
    (throttle.call state call).1 = (throttle.call state' call).1
      ∧ throttle.SameFrom (call.now?.getD past) (throttle.call state call).2
          (throttle.call state' call).2 := by
  cases call with
  | check client subject now =>
      have hNow : past ≤ now := hCall.later now rfl
      have hClient := hSame.client client now hNow
      have hSubject := hSame.subject subject now hNow
      have hServed (admitted : Bool) : throttle.SameFrom now
          (throttle.served state client subject now admitted)
          (throttle.served state' client subject now admitted) :=
        ⟨hSame.client.served h.client h'.client hNow,
          hSame.subject.served h.subject h'.subject hNow⟩
      show (throttle.check state client subject now).1
          = (throttle.check state' client subject now).1
        ∧ throttle.SameFrom now (throttle.check state client subject now).2
            (throttle.check state' client subject now).2
      cases hKeys : validateKeys client subject with
      | error message =>
          rw [check_error hKeys, check_error hKeys]
          exact ⟨rfl, hSame.client.mono hNow, hSame.subject.mono hNow⟩
      | ok =>
          by_cases hTokens : throttle.HasTokens state client subject now
          · have hTokens' : throttle.HasTokens state' client subject now :=
              ⟨hClient ▸ hTokens.1, hSubject ▸ hTokens.2⟩
            rw [check_admitted hKeys hTokens, check_admitted hKeys hTokens']
            exact ⟨rfl, hServed true⟩
          · have hTokens' : ¬ throttle.HasTokens state' client subject now :=
              fun hThere => hTokens ⟨hClient ▸ hThere.1, hSubject ▸ hThere.2⟩
            have hHint : throttle.hint state client subject now
                = throttle.hint state' client subject now := by
              rw [hint, hint, hClient, hSubject]
            rw [check_rejected hKeys hTokens, check_rejected hKeys hTokens', hHint]
            exact ⟨rfl, hServed false⟩
  | reset subject =>
      show (reset state subject).1 = (reset state' subject).1
        ∧ throttle.SameFrom past (reset state subject).2 (reset state' subject).2
      unfold reset
      split
      · exact ⟨rfl, hSame⟩
      · exact ⟨rfl, hSame.client, hSame.subject.erase⟩

/-- What a rejected call is. -/
theorem call_rejected (h : throttle.Answered state (call, answer) after)
    (hRejected : Rejected (call, answer)) : ∃ client subject now,
      call = .check client subject now ∧ validateKeys client subject = .ok ()
        ∧ answer = .ok (some (throttle.hint state client subject now))
        ∧ after = throttle.served state client subject now false := by
  obtain ⟨wait, hWait⟩ := hRejected
  cases call with
  | check client subject now =>
      have hCheck : throttle.check state client subject now = (answer, after) := h
      cases hKeys : validateKeys client subject with
      | error message =>
          rw [check_error hKeys] at hCheck
          cases hCheck
          cases hWait
      | ok =>
          by_cases hTokens : throttle.HasTokens state client subject now
          · rw [check_admitted hKeys hTokens] at hCheck
            cases hCheck
            cases hWait
          · rw [check_rejected hKeys hTokens] at hCheck
            cases hCheck
            exact ⟨client, subject, now, rfl, hKeys, rfl, rfl⟩
  | reset subject =>
      have hReset : reset state subject = (answer, after) := h
      exact absurd ((congrArg Prod.fst hReset).trans hWait) (reset_answer wait)

end InMemoryAuthThrottle

/-! ## Sequences of calls -/

/-- The clients that are checked. -/
def calledClients (transcript : List (ThrottleCall × ThrottleAnswer)) : Finset String :=
  (transcript.filterMap fun entry => entry.1.client?).toFinset

/-- The subjects that are checked. -/
def calledSubjects (transcript : List (ThrottleCall × ThrottleAnswer)) : Finset String :=
  (transcript.filterMap fun entry => entry.1.subject?).toFinset

/-- What the clock reads, check by check. -/
def readings (transcript : List (ThrottleCall × ThrottleAnswer)) : List ℚ :=
  transcript.filterMap fun entry => entry.1.now?

/-- The second list is the first without some of its rejected checks. -/
inductive WithoutRejected : List (ThrottleCall × ThrottleAnswer) →
    List (ThrottleCall × ThrottleAnswer) → Prop
  | nil : WithoutRejected [] []
  | keep {entry : ThrottleCall × ThrottleAnswer} {rest kept} :
      WithoutRejected rest kept → WithoutRejected (entry :: rest) (entry :: kept)
  | drop {entry : ThrottleCall × ThrottleAnswer} {rest kept} :
      Rejected entry → WithoutRejected rest kept → WithoutRejected (entry :: rest) kept

/-- Few clients and subjects are checked, and the clock does not go back. -/
structure OrderlyCalls (throttle : InMemoryAuthThrottle)
    (transcript : List (ThrottleCall × ThrottleAnswer)) : Prop where
  clients : (calledClients transcript).card < throttle.client.maxEntries
  subjects : (calledSubjects transcript).card < throttle.subject.maxEntries
  clock : (readings transcript).Pairwise (· ≤ ·)

theorem readings_cons {entry : ThrottleCall × ThrottleAnswer}
    {rest : List (ThrottleCall × ThrottleAnswer)} :
    readings (entry :: rest) = entry.1.now?.toList ++ readings rest := by
  show List.filterMap (fun e : ThrottleCall × ThrottleAnswer => e.1.now?) _
    = _ ++ List.filterMap _ _
  cases hNow : entry.1.now? with
  | none => exact List.filterMap_cons_none hNow
  | some now => exact List.filterMap_cons_some hNow

namespace InMemoryAuthThrottle

variable {throttle : InMemoryAuthThrottle} {clients subjects : Finset String}
  {state state' after : ThrottleBuckets} {client subject : String} {past last later : ℚ}
  {entry : ThrottleCall × ThrottleAnswer}
  {transcript kept rest : List (ThrottleCall × ThrottleAnswer)}

/-- The calls of the list use the keys, and come one after the other. -/
structure AllCome (clients subjects : Finset String) (past : ℚ)
    (transcript : List (ThrottleCall × ThrottleAnswer)) : Prop where
  client : ∀ entry ∈ transcript, ∀ client ∈ entry.1.client?, client ∈ clients
  subject : ∀ entry ∈ transcript, ∀ subject ∈ entry.1.subject?, subject ∈ subjects
  clock : (past :: readings transcript).Pairwise (· ≤ ·)

theorem AllCome.head (h : AllCome clients subjects past (entry :: rest)) :
    Comes clients subjects past entry.1 where
  client := h.client entry List.mem_cons_self
  subject := h.subject entry List.mem_cons_self
  later _ hNow := List.rel_of_pairwise_cons h.clock
    (List.mem_filterMap.2 ⟨entry, List.mem_cons_self, hNow⟩)

theorem AllCome.tail (h : AllCome clients subjects past (entry :: rest)) :
    AllCome clients subjects (entry.1.now?.getD past) rest where
  client other hOther := h.client other (List.mem_cons_of_mem _ hOther)
  subject other hOther := h.subject other (List.mem_cons_of_mem _ hOther)
  clock := by
    have hClock := h.clock
    rw [readings_cons] at hClock
    cases hNow : entry.1.now? with
    | none =>
        rw [hNow] at hClock
        exact hClock
    | some now =>
        rw [hNow] at hClock
        exact hClock.of_cons

theorem AllCome.append (last : ℚ) (h : AllCome clients subjects past (transcript ++ rest))
    (hRest : ∀ now ∈ readings rest, last ≤ now) :
    AllCome clients subjects past transcript ∧ AllCome clients subjects last rest := by
  have hClock := h.clock
  unfold readings at hClock hRest
  rw [List.filterMap_append, ← List.cons_append, List.pairwise_append] at hClock
  refine ⟨⟨fun other hOther => ?_, fun other hOther => ?_, hClock.1⟩, fun other hOther => ?_,
    fun other hOther => ?_, List.pairwise_cons.2 ⟨hRest, hClock.2.1⟩⟩
  · exact h.client other (List.mem_append_left _ hOther)
  · exact h.subject other (List.mem_append_left _ hOther)
  · exact h.client other (List.mem_append_right _ hOther)
  · exact h.subject other (List.mem_append_right _ hOther)

/-- From the start, the calls of an orderly list come one after the other. -/
theorem OrderlyCalls.start (h : OrderlyCalls throttle transcript) : ∃ past,
    AllCome (calledClients transcript) (calledSubjects transcript) past transcript
      ∧ throttle.Holds (calledClients transcript) (calledSubjects transcript) past .empty := by
  refine ⟨(readings transcript).headD 0, ⟨fun entry hEntry client hClient => ?_,
    fun entry hEntry subject hSubject => ?_, ?_⟩, .start h.clients, .start h.subjects⟩
  · exact List.mem_toFinset.2 (List.mem_filterMap.2 ⟨entry, hEntry, hClient⟩)
  · exact List.mem_toFinset.2 (List.mem_filterMap.2 ⟨entry, hEntry, hSubject⟩)
  · have hClock := h.clock
    revert hClock
    cases readings transcript with
    | nil => exact fun _ => List.pairwise_singleton _ _
    | cons now later =>
        refine fun hClock => List.pairwise_cons.2 ⟨fun other hOther => ?_, hClock⟩
        exact (List.mem_cons.1 hOther).elim (fun hSame => hSame ▸ le_rfl)
          (List.rel_of_pairwise_cons hClock)

/-- The tokens are counted by the end of the calls. -/
theorem Holds.run (hRun : Run throttle.Answered state transcript after)
    (h : throttle.Holds clients subjects past state)
    (hCalls : AllCome clients subjects past transcript)
    (hLast : ∀ now ∈ past :: readings transcript, now ≤ last) :
    throttle.Holds clients subjects last after := by
  induction hRun generalizing past with
  | nil state =>
      have hPast := hLast past List.mem_cons_self
      exact ⟨h.client.mono hPast, h.subject.mono hPast⟩
  | @cons state called after entry rest hCall hRest ih =>
      have hHolds := h.called hCalls.head
      rw [hCall] at hHolds
      refine ih hHolds hCalls.tail fun now hNow => hLast now ?_
      rw [readings_cons]
      cases hTime : entry.1.now? with
      | none =>
          rw [hTime] at hNow
          exact hNow
      | some time =>
          rw [hTime] at hNow
          exact List.mem_cons_of_mem _ hNow

/-- What the rest of the calls answers does not depend on the rejected ones, by induction on the
list: the two states cannot be told apart later. -/
theorem SameFrom.run (hRun : Run throttle.Answered state transcript after)
    (hKept : WithoutRejected transcript kept) (hSame : throttle.SameFrom past state state')
    (h : throttle.Holds clients subjects past state)
    (h' : throttle.Holds clients subjects past state')
    (hCalls : AllCome clients subjects past transcript) :
    ∃ after', Run throttle.Answered state' kept after' := by
  induction hKept generalizing state state' past with
  | nil => exact ⟨state', .nil state'⟩
  | @keep entry rest kept hKept ih =>
      obtain ⟨called, hCall, hRest⟩ := Run.cons_iff.1 hRun
      obtain ⟨hAnswer, hLater⟩ := hSame.called h h' hCalls.head
      have hHolds := h.called hCalls.head
      rw [hCall] at hAnswer hLater hHolds
      obtain ⟨after', hKeptRun⟩ := ih hRest hLater hHolds (h'.called hCalls.head) hCalls.tail
      have hCall' : throttle.Answered state' entry (throttle.call state' entry.1).2 :=
        Prod.ext hAnswer.symm rfl
      exact ⟨after', .cons hCall' hKeptRun⟩
  | @drop entry rest kept hRejected hKept ih =>
      obtain ⟨called, hCall, hRest⟩ := Run.cons_iff.1 hRun
      have hHolds := h.called hCalls.head
      rw [hCall] at hHolds
      obtain ⟨client, subject, now, hCheck, -, -, hCalled⟩ := call_rejected hCall hRejected
      have hNow : past ≤ now := hCalls.head.later now (hCheck ▸ rfl)
      have hTime : entry.1.now?.getD past = now := hCheck ▸ rfl
      have hTail := hCalls.tail
      rw [hTime] at hHolds hTail
      refine ih hRest ⟨?_, ?_⟩ hHolds ⟨h'.client.mono hNow, h'.subject.mono hNow⟩ hTail
      · rw [hCalled]
        exact hSame.client.rejected h.client hNow
      · rw [hCalled]
        exact hSame.subject.rejected h.subject hNow

/-- The levels of the two keys at a time, in two states. -/
def LevelsLe (throttle : InMemoryAuthThrottle) (client subject : String) (later : ℚ)
    (state state' : ThrottleBuckets) : Prop :=
  throttle.client.rate.level (state.clients.lookup client) later
      ≤ throttle.client.rate.level (state'.clients.lookup client) later
    ∧ throttle.subject.rate.level (state.subjects.lookup subject) later
      ≤ throttle.subject.rate.level (state'.subjects.lookup subject) later

/-- A call that does not take from the two buckets lowers neither level. -/
theorem levels_called (hCall : throttle.Answered state entry after)
    (h : throttle.Holds clients subjects past state) (hComes : Comes clients subjects past entry.1)
    (hLater : ∀ now ∈ entry.1.now?, now ≤ later)
    (hOther : ∀ other subject' now, entry = (.check other subject' now, .ok none) →
      other ≠ client ∧ subject' ≠ subject) :
    throttle.LevelsLe client subject later state after := by
  obtain ⟨call, answer⟩ := entry
  cases call with
  | check other subject' now =>
      have hNow : past ≤ now := hComes.later now rfl
      have hCheck : throttle.check state other subject' now = (answer, after) := hCall
      cases hKeys : validateKeys other subject' with
      | error message =>
          rw [check_error hKeys] at hCheck
          cases hCheck
          exact ⟨le_rfl, le_rfl⟩
      | ok =>
          by_cases hTokens : throttle.HasTokens state other subject' now
          · rw [check_admitted hKeys hTokens] at hCheck
            cases hCheck
            obtain ⟨hClient, hSubject⟩ := hOther other subject' now rfl
            exact ⟨(KeyLimits.level_served_other h.client hClient.symm).ge,
              (KeyLimits.level_served_other h.subject hSubject.symm).ge⟩
          · rw [check_rejected hKeys hTokens] at hCheck
            cases hCheck
            exact ⟨(KeyLimits.level_served_rejected h.client hNow (hLater now rfl)).ge,
              (KeyLimits.level_served_rejected h.subject hNow (hLater now rfl)).ge⟩
  | reset other =>
      have hReset : reset state other = (answer, after) := hCall
      unfold reset at hReset
      split at hReset
      · cases hReset
        exact ⟨le_rfl, le_rfl⟩
      · cases hReset
        exact ⟨le_rfl, KeyLimits.level_erase⟩

theorem levels_run (hRun : Run throttle.Answered state transcript after)
    (h : throttle.Holds clients subjects past state)
    (hCalls : AllCome clients subjects past transcript)
    (hLater : ∀ now ∈ readings transcript, now ≤ later)
    (hOthers : ∀ other subject' now, (.check other subject' now, .ok none) ∈ transcript →
      other ≠ client ∧ subject' ≠ subject) :
    throttle.LevelsLe client subject later state after := by
  induction hRun generalizing past with
  | nil state => exact ⟨le_rfl, le_rfl⟩
  | @cons state called after entry rest hCall hRest ih =>
      have hHolds := h.called hCalls.head
      rw [hCall] at hHolds
      have hFirst : throttle.LevelsLe client subject later state called := by
        refine levels_called hCall h hCalls.head (fun now hNow => hLater now ?_) ?_
        · exact List.mem_filterMap.2 ⟨entry, List.mem_cons_self, hNow⟩
        · rintro other subject' now rfl
          exact hOthers other subject' now List.mem_cons_self
      have hNext := ih hHolds hCalls.tail
        (fun now hNow => hLater now (readings_cons ▸ List.mem_append_right _ hNow))
        (fun other subject' now hMem => hOthers other subject' now (List.mem_cons_of_mem _ hMem))
      exact ⟨hFirst.1.trans hNext.1, hFirst.2.trans hNext.2⟩

/-- After a rejected check the levels have recovered when its hint is over. -/
theorem hasTokens_after_hint (h : throttle.Holds clients subjects past state) {now : ℚ}
    (hLater : now + throttle.hint state client subject now ≤ later) :
    throttle.HasTokens (throttle.served state client subject now false) client subject later := by
  have hWait (limits : KeyLimits) (keys : Finset String) (buckets : Buckets) (key : String)
      (hHolds : limits.Holds keys past buckets)
      (hHint : limits.hint (limits.rate.level (buckets.lookup key) now)
        ≤ throttle.hint state client subject now) :
      1 ≤ limits.rate.level ((limits.served buckets key now false).lookup key) later := by
    have hHint' := (Int.cast_le (R := ℚ)).2 hHint
    rw [KeyLimits.lookup_served hHolds.room, if_pos rfl, if_neg Bool.false_ne_true, sub_zero]
    refine Rate.one_le_level_of_wait le_rfl ?_
      (Int.cast_nonneg (KeyLimits.hint_nonneg (limits.rate.level (buckets.lookup key) now)))
      (le_trans (by linarith) hLater)
    have hCapacity : limits.rate.level (buckets.lookup key) now ≤ limits.rate.capacity :=
      Rate.level_le_capacity (buckets.lookup key)
    have hCounted : limits.rate.level (some ⟨limits.rate.level (buckets.lookup key) now, now⟩) now
        = limits.rate.level (buckets.lookup key) now := Rate.level_self hCapacity
    exact hCounted.symm ▸ KeyLimits.one_le_add_hint _
  exact ⟨hWait _ _ _ _ h.client (le_max_left _ _), hWait _ _ _ _ h.subject (le_max_right _ _)⟩

/-- The check that comes back is admitted: its levels have recovered by then, and nothing in
between has lowered them. -/
theorem repeated_admitted {now : ℚ} {hint : Int}
    {answer : ThrottleAnswer} {between : List (ThrottleCall × ThrottleAnswer)}
    (h : throttle.Holds clients subjects now state) (hRun : Run throttle.Answered state
      ((.check client subject now, .ok (some hint)) ::
        (between ++ (.check client subject later, answer) :: rest)) after)
    (hCalls : AllCome clients subjects now
      ((.check client subject now, .ok (some hint)) ::
        (between ++ (.check client subject later, answer) :: rest)))
    (hWait : now + hint ≤ later)
    (hOthers : ∀ other subject' time, (.check other subject' time, .ok none) ∈ between →
      other ≠ client ∧ subject' ≠ subject) : answer = .ok none := by
  obtain ⟨called, hFirst, hBetween⟩ := Run.cons_iff.1 hRun
  obtain ⟨returned, hBetween, hLast⟩ := hBetween.split
  obtain ⟨_, hReturn, -⟩ := Run.cons_iff.1 hLast
  obtain ⟨_, _, _, hCheck, hKeys, hHint, hCalled⟩ := call_rejected hFirst ⟨hint, rfl⟩
  cases hCheck
  cases hHint
  have hHolds := h.called hCalls.head
  rw [hFirst] at hHolds
  have hReadings := hCalls.tail.clock
  have hBefore : ∀ time ∈ readings between, time ≤ later := by
    intro time hTime
    unfold readings at hReadings
    rw [List.filterMap_append, ← List.cons_append, List.pairwise_append] at hReadings
    exact hReadings.2.2 time (List.mem_cons_of_mem _ hTime) later List.mem_cons_self
  have hStart : AllCome clients subjects now between :=
    { client := fun entry hEntry => hCalls.tail.client entry (List.mem_append_left _ hEntry)
      subject := fun entry hEntry => hCalls.tail.subject entry (List.mem_append_left _ hEntry)
      clock := hReadings.sublist (.cons_cons _ ((List.sublist_append_left _ _).filterMap _)) }
  have hLevels := levels_run hBetween hHolds hStart hBefore hOthers
  have hTokens := hasTokens_after_hint h hWait
  rw [← hCalled] at hTokens
  have hReturned : throttle.HasTokens returned client subject later :=
    ⟨hTokens.1.trans hLevels.1, hTokens.2.trans hLevels.2⟩
  have hAnswer : throttle.check returned client subject later = (answer, _) := hReturn
  rw [check_admitted hKeys hReturned] at hAnswer
  exact (congrArg Prod.fst hAnswer).symm

/-- In a sequence of calls with a clock that does not go back and few keys, the rejected checks
may be left out, any of them, without a change to another answer; and a check that was rejected
is admitted when it comes back after its hint, unless its client or its subject was admitted in
between. -/
theorem rejections_free_and_hints_sufficient
    (hRun : Run throttle.Answered .empty transcript after)
    (hOrderly : OrderlyCalls throttle transcript) :
    (∀ kept, WithoutRejected transcript kept → ∃ after', Run throttle.Answered .empty kept after')
    ∧ ∀ before between rest client subject (now later : ℚ) (hint : Int) answer,
      transcript = before ++ (.check client subject now, .ok (some hint)) ::
        (between ++ (.check client subject later, answer) :: rest) →
      now + hint ≤ later →
      (∀ other subject' time, (.check other subject' time, .ok none) ∈ between →
        other ≠ client ∧ subject' ≠ subject) →
      answer = .ok none := by
  obtain ⟨past, hCalls, hHolds⟩ := OrderlyCalls.start hOrderly
  constructor
  · intro kept hKept
    exact SameFrom.run hRun hKept ⟨fun _ _ _ => rfl, fun _ _ _ => rfl⟩ hHolds hHolds hCalls
  · rintro before between rest client subject now later hint answer rfl hWait hOthers
    obtain ⟨state, hBefore, hRest⟩ := hRun.split
    have hClock := hCalls.clock
    unfold readings at hClock
    rw [List.filterMap_append, ← List.cons_append, List.pairwise_append] at hClock
    have hNow : ∀ time ∈ past :: readings before, time ≤ now :=
      fun time hTime => hClock.2.2 time hTime now List.mem_cons_self
    obtain ⟨hPast, hLater⟩ := hCalls.append now fun time hTime =>
      (List.mem_cons.1 hTime).elim (fun hSame => hSame ▸ le_rfl)
        (List.rel_of_pairwise_cons hClock.2.1)
    exact repeated_admitted (hHolds.run hBefore hPast hNow) hRest hLater hWait hOthers

end InMemoryAuthThrottle

/-! ### Three attempts at a login -/

theorem ten_checks : 1 ≤ 10 := by
  decide

theorem two_checks : 1 ≤ 2 := by
  decide

theorem token_per_second : (0 : ℚ) < 1 := by
  decide +kernel

theorem token_per_ten_seconds : (0 : ℚ) < 1 / 10 := by
  decide +kernel

theorem sampleEntries : 1 ≤ 1024 := by
  decide

/-- Ten checks of a client and two of a subject; a token of a subject takes ten seconds. -/
def sampleThrottle : InMemoryAuthThrottle where
  client := ⟨10, 1, 1024, ten_checks, token_per_second, sampleEntries⟩
  subject := ⟨2, 1 / 10, 1024, two_checks, token_per_ten_seconds, sampleEntries⟩

/-- The third attempt has to wait, and comes back in time. -/
def sampleAttempts : List (ThrottleCall × ThrottleAnswer) :=
  [(.check "a" "login" 0, .ok none), (.check "a" "login" 0, .ok none),
    (.check "a" "login" 0, .ok (some 10)), (.check "a" "login" 10, .ok none)]

theorem sampleAttempts_run : ∃ after, Run sampleThrottle.Answered .empty sampleAttempts after := by
  refine ⟨_, .cons (Prod.ext ?_ rfl) (.cons (Prod.ext ?_ rfl) (.cons (Prod.ext ?_ rfl)
    (.cons (Prod.ext ?_ rfl) (.nil _))))⟩ <;> decide +kernel

theorem rejections_free_and_hints_sufficient_sample : ∃ after',
    Run sampleThrottle.Answered .empty
      [(.check "a" "login" 0, .ok none), (.check "a" "login" 0, .ok none),
        (.check "a" "login" 10, .ok none)] after' := by
  obtain ⟨after, hRun⟩ := sampleAttempts_run
  have hOrderly : OrderlyCalls sampleThrottle sampleAttempts :=
    ⟨by decide +kernel, by decide +kernel, by decide +kernel⟩
  exact (InMemoryAuthThrottle.rejections_free_and_hints_sufficient hRun hOrderly).1 _
    (.keep (.keep (.drop ⟨10, rfl⟩ (.keep .nil))))

end TrackAnywhere.Ports
