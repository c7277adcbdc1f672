import TrackAnywhere.Ports.CanonicalJson

/-!
# Upcasting stored events

A payload that was stored under an old version of its event is brought up to the latest
version step by step.  The registry of event contracts, the steps and their transforms are
whatever the caller has registered: a transform is any function, it may read and change the
world around it, raise, change its argument or answer differently the second time.

The loop takes one step for each version, so it has a fuel here; how much is enough is proved.
-/

namespace TrackAnywhere.Ports

open TrackAnywhere.Verified.Checked

/-- The items of an exact dictionary with string keys. -/
abbrev JSONObject := List (String × JSONValue)

/-- `list(range(start, stop))` -/
def pyRange (start stop : Int) : List Int :=
  (List.range (stop - start).toNat).map fun (i : Nat) => start + (i : Int)

/-- What registering and upcasting raise. -/
inductive UpcastFailure
  /-- `UpcastError` -/
  | upcast (message : String)
  /-- `EventRegistryError` -/
  | registry (message : String)
  /-- `StoredEventValidationError` -/
  | storedValidation (eventType : String) (schemaVersion : Int)
deriving DecidableEq

namespace UpcastFailure

def missingStep : UpcastFailure := .upcast "missing upcast step in registered schema chain"

def sourceInvalid : UpcastFailure := .upcast "upcast source validation failed"

/-- Only a failed validation is turned into an `UpcastError`. -/
def ofTarget : UpcastFailure → UpcastFailure
  | .storedValidation _ _ => .upcast "upcast target validation failed"
  | e => e

end UpcastFailure

/-! ## The event registry -/

/-- The contracts by event type and version, with their `model_validate`; `ω` is the world
that they and the transforms share. -/
structure EventRegistry (ω β : Type) where
  byKey : List ((String × Int) × (JSONObject → ω → Option β))
  /-- No class has changed the type and version that it was registered with. -/
  live : ω → Bool
  hKeys : (byKey.map (·.1)).Nodup
  hVersions : ∀ key ∈ byKey.map (·.1), 1 ≤ key.2 ∧ key.2 ≤ 32767

namespace EventRegistry

variable {ω β : Type}

/-- `_assert_live_metadata` -/
def assertLiveMetadata (self : EventRegistry ω β) (w : ω) : Except UpcastFailure Unit :=
  require (self.live w = true) (.registry "registered event metadata drift detected")

def keys (self : EventRegistry ω β) (w : ω) : Except UpcastFailure (List (String × Int)) := do
  self.assertLiveMetadata w
  return self.byKey.map (·.1)

/-- The versions that are registered for the type. -/
def versions (self : EventRegistry ω β) (eventType : String) : List Int :=
  ((self.byKey.map (·.1)).filter (·.1 = eventType)).map (·.2)

def lookup (self : EventRegistry ω β) (eventType : String) (schemaVersion : Int) (w : ω) :
    Except UpcastFailure (JSONObject → ω → Option β) := do
  self.assertLiveMetadata w
  fetch (self.byKey.lookup (eventType, schemaVersion))
    (.registry "unknown event type or schema version")

def latestVersion (self : EventRegistry ω β) (eventType : String) (w : ω) :
    Except UpcastFailure Int := do
  self.assertLiveMetadata w
  fetch (self.versions eventType).max? (.registry "unknown event type")

def validateStored (self : EventRegistry ω β) (eventType : String) (schemaVersion : Int)
    (storedPayload : JSONObject) (w : ω) : Except UpcastFailure β := do
  let model ← self.lookup eventType schemaVersion w
  let _ ← (canonicalJsonBytes (.dict storedPayload)).mapError fun _ =>
    UpcastFailure.storedValidation eventType schemaVersion
  fetch (model storedPayload w) (.storedValidation eventType schemaVersion)

end EventRegistry

/-! ## Steps -/

/-- What a transform may return. -/
inductive Returned
  /-- An exact dictionary of JSON values. -/
  | object (payload : JSONObject)
  /-- An exact dictionary that holds something else. -/
  | notJson
  | notMapping

/-- The payload with its canonical bytes. -/
def Returned.canonical : Returned → Except String (JSONObject × ByteArray)
  | object payload => (canonicalJsonBytes (.dict payload)).map fun bytes => (payload, bytes)
  | _ => .error "value contains a type outside the canonical JSON protocol"

def Returned.isMapping : Returned → Bool
  | notMapping => false
  | _ => true

/-- What two calls of a transform leave when both have returned. -/
structure TransformCalls where
  first : Returned
  second : Returned
  inputsUnchanged : Bool

structure UpcastStep (ω : Type) where
  eventType : String
  fromVersion : Int
  toVersion : Int
  /-- Two calls on copies of the payload; `none` when one raises. -/
  transform : JSONObject → ω → Option (TransformCalls × ω)

/-- The key of the step in `_by_source`. -/
def UpcastStep.source {ω : Type} (step : UpcastStep ω) : String × Int :=
  (step.eventType, step.fromVersion)

structure UpcasterRegistry (ω β : Type) where
  eventRegistry : EventRegistry ω β
  bySource : List (UpcastStep ω)

namespace UpcasterRegistry

variable {ω β : Type}

/-! ## The constructor -/

/-- One round of the loop over the steps. -/
def addStep (eventRegistry : EventRegistry ω β) (w : ω) (bySource : List (UpcastStep ω))
    (step : UpcastStep ω) : Except UpcastFailure (List (UpcastStep ω)) := do
  require (step.toVersion = step.fromVersion + 1)
    (.upcast "upcast steps must target adjacent schema versions")
  require (step.source ∉ bySource.map (·.source)) (.upcast "duplicate upcast source step")
  let _ ← (eventRegistry.lookup step.eventType step.fromVersion w).mapError unknown
  let _ ← (eventRegistry.lookup step.eventType step.toVersion w).mapError unknown
  return bySource ++ [step]
where
  unknown (_ : UpcastFailure) : UpcastFailure :=
    .upcast "unknown upcast source or target schema"

/-- One round of the loop over the event types; no list of versions is empty there. -/
def checkChain (eventRegistry : EventRegistry ω β) (bySource : List (UpcastStep ω))
    (eventType : String) : Except UpcastFailure Unit := do
  let versions := (eventRegistry.versions eventType).insertionSort (· ≤ ·)
  require (versions = pyRange (versions.headD 0) (versions.getLastD 0 + 1))
    (.upcast "missing registered schema in upcast chain")
  forEach versions.dropLast fun version =>
    require ((eventType, version) ∈ bySource.map (·.source)) .missingStep

/-- `UpcasterRegistry.__init__` -/
def init (eventRegistry : EventRegistry ω β) (steps : List (UpcastStep ω)) (w : ω) :
    Except UpcastFailure (UpcasterRegistry ω β) := do
  let bySource ← steps.foldlM (addStep eventRegistry w) []
  let keys ← eventRegistry.keys w
  forEach ((keys.map (·.1)).dedup.insertionSort (· ≤ ·)) (checkChain eventRegistry bySource)
  return ⟨eventRegistry, bySource⟩

/-! ## Upcasting -/

/-- `_apply_step` -/
def applyStep (self : UpcasterRegistry ω β) (step : UpcastStep ω) (payload : JSONObject)
    (w : ω) : Except UpcastFailure (JSONObject × ω) := do
  let (calls, w') ← fetch (step.transform payload w)
    (.upcast "upcast transform raised an exception")
  require (calls.inputsUnchanged = true) (.upcast "upcast transform must not mutate its input")
  require (calls.first.isMapping = true ∧ calls.second.isMapping = true)
    (.upcast "upcast transform must return an exact mapping object")
  let first ← calls.first.canonical.mapError invalidJson
  let second ← calls.second.canonical.mapError invalidJson
  require (first.2 = second.2) (.upcast "upcast transform must be deterministic")
  let _ ← (self.eventRegistry.validateStored step.eventType step.toVersion first.1 w').mapError
    UpcastFailure.ofTarget
  return (first.1, w')
where
  invalidJson (_ : String) : UpcastFailure :=
    .upcast "upcast transform returned an invalid JSON mapping"

/-- `_by_source.get` -/
def step? (self : UpcasterRegistry ω β) (eventType : String) (version : Int) :
    Option (UpcastStep ω) :=
  self.bySource.find? fun step => step.source = (eventType, version)

/-- The final validation. -/
def finish (self : UpcasterRegistry ω β) (eventType : String) (version : Int)
    (current : JSONObject) (w : ω) : Except UpcastFailure β :=
  (self.eventRegistry.validateStored eventType version current w).mapError UpcastFailure.ofTarget

/-- The steps that a call has applied, the last of which may have raised, the version it has
come to, and how it ends, which takes fuel. -/
structure Run (ω β : Type) where
  applied : List (UpcastStep ω)
  version : Int
  outcome : Option (Except UpcastFailure β)

def upcastLoop (self : UpcasterRegistry ω β) (eventType : String) (latest : Int) :
    Nat → Int → JSONObject → ω → Run ω β
  | 0, version, _, _ => ⟨[], version, none⟩
  | fuel + 1, version, current, w =>
      if version < latest then
        match self.step? eventType version with
        | none => ⟨[], version, some (.error .missingStep)⟩
        | some step =>
            match self.applyStep step current w with
            | .error e => ⟨[step], version, some (.error e)⟩
            | .ok (next, w') =>
                let run := self.upcastLoop eventType latest fuel step.toVersion next w'
                { run with applied := step :: run.applied }
      else ⟨[], version, some (self.finish eventType version current w)⟩

/-- What is checked before the loop, with the latest version. -/
def checkSource (self : UpcasterRegistry ω β) (eventType : String) (fromVersion : Int)
    (storedPayload : JSONObject) (w : ω) : Except UpcastFailure Int := do
  let _ ← self.eventRegistry.lookup eventType fromVersion w
  let latest ← self.eventRegistry.latestVersion eventType w
  let _ ← self.eventRegistry.validateStored eventType fromVersion storedPayload w
  return latest

def upcastToLatest (self : UpcasterRegistry ω β) (fuel : Nat) (eventType : String)
    (fromVersion : Int) (storedPayload : JSONObject) (w : ω) : Run ω β :=
  match self.checkSource eventType fromVersion storedPayload w with
  | .error _ => ⟨[], fromVersion, some (.error .sourceInvalid)⟩
  | .ok latest => self.upcastLoop eventType latest fuel fromVersion storedPayload w

/-! ## What the constructor checks -/

variable {eventRegistry : EventRegistry ω β} {steps bySource : List (UpcastStep ω)}
  {self : UpcasterRegistry ω β} {eventType : String} {version latest : Int} {w w₀ : ω}

theorem mem_versions : version ∈ eventRegistry.versions eventType
    ↔ (eventType, version) ∈ eventRegistry.byKey.map (·.1) := by
  unfold EventRegistry.versions
  rw [List.mem_map]
  constructor
  · rintro ⟨⟨name, number⟩, hKey, rfl⟩
    obtain ⟨hMem, hName⟩ := List.mem_filter.1 hKey
    exact of_decide_eq_true hName ▸ hMem
  · exact fun hMem => ⟨_, List.mem_filter.2 ⟨hMem, decide_eq_true rfl⟩, rfl⟩

theorem lookup_ok {model : JSONObject → ω → Option β}
    (h : eventRegistry.lookup eventType version w = .ok model) :
    version ∈ eventRegistry.versions eventType := by
  simp only [EventRegistry.lookup, bind_eq_ok, fetch_eq_ok] at h
  obtain ⟨_, -, hFound⟩ := h
  rw [mem_versions]
  obtain ⟨before, after, hByKey, -⟩ := List.lookup_eq_some_iff.1 hFound
  rw [hByKey, List.map_append, List.map_cons]
  exact List.mem_append_right _ List.mem_cons_self

/-- The steps that the constructor has taken in. -/
structure StepsChecked (eventRegistry : EventRegistry ω β) (bySource : List (UpcastStep ω)) :
    Prop where
  adjacent : ∀ step ∈ bySource, step.toVersion = step.fromVersion + 1
  unique : (bySource.map (·.source)).Nodup
  registered : ∀ step ∈ bySource, step.toVersion ∈ eventRegistry.versions step.eventType

theorem addStep_ok {step : UpcastStep ω} {bySource' : List (UpcastStep ω)}
    (hChecked : StepsChecked eventRegistry bySource)
    (h : addStep eventRegistry w bySource step = .ok bySource') :
    bySource' = bySource ++ [step] ∧ StepsChecked eventRegistry bySource' := by
  simp only [addStep, bind_eq_ok, require_eq_ok, mapError_eq_ok, pure_eq_ok,
    exists_const] at h
  obtain ⟨hAdjacent, hNew, _, -, _, hTarget, rfl⟩ := h
  refine ⟨rfl, ?_, ?_, ?_⟩
  · intro other hOther
    rcases List.mem_append.1 hOther with hOld | hLast
    · exact hChecked.adjacent other hOld
    · exact List.mem_singleton.1 hLast ▸ hAdjacent
  · rw [List.map_append, List.map_singleton]
    exact List.nodup_append.2 ⟨hChecked.unique, List.nodup_singleton _, by grind⟩
  · intro other hOther
    rcases List.mem_append.1 hOther with hOld | hLast
    · exact hChecked.registered other hOld
    · exact List.mem_singleton.1 hLast ▸ lookup_ok hTarget

theorem addSteps_ok {bySource' : List (UpcastStep ω)}
    (hChecked : StepsChecked eventRegistry bySource)
    (h : steps.foldlM (addStep eventRegistry w) bySource = .ok bySource') :
    bySource' = bySource ++ steps ∧ StepsChecked eventRegistry bySource' := by
  induction steps generalizing bySource with
  | nil =>
      rw [List.foldlM_nil, pure_eq_ok] at h
      subst h
      exact ⟨(List.append_nil _).symm, hChecked⟩
  | cons step steps ih =>
      rw [List.foldlM_cons, bind_eq_ok] at h
      obtain ⟨next, hStep, hRest⟩ := h
      obtain ⟨rfl, hNext⟩ := addStep_ok hChecked hStep
      obtain ⟨rfl, hAll⟩ := ih hNext hRest
      exact ⟨by rw [List.append_assoc, List.singleton_append], hAll⟩

/-- All but the greatest item of a sorted list are in front of its last one. -/
theorem mem_dropLast_of_lt {items : List Int} (hSorted : items.Pairwise (· ≤ ·))
    {item greater : Int} (hItem : item ∈ items) (hGreater : greater ∈ items)
    (hLt : item < greater) : item ∈ items.dropLast := by
  have hSplit := List.dropLast_append_getLast (List.ne_nil_of_mem hItem)
  rw [← hSplit] at hItem hGreater hSorted
  rcases List.mem_append.1 hItem with hFront | hLast
  · exact hFront
  · rcases List.mem_append.1 hGreater with hFront | hSame
    · have hLe := (List.pairwise_append.1 hSorted).2.2 greater hFront item hLast
      exact absurd hLt (not_lt.2 hLe)
    · rw [List.mem_singleton.1 hLast, List.mem_singleton.1 hSame] at hLt
      exact absurd hLt (lt_irrefl _)

theorem checkChain_ok (h : checkChain eventRegistry bySource eventType = .ok ())
    (hVersion : version ∈ eventRegistry.versions eventType)
    (hLatest : latest ∈ eventRegistry.versions eventType) (hLt : version < latest) :
    (eventType, version) ∈ bySource.map (·.source) := by
  simp only [checkChain, bind_eq_ok, require_eq_ok, forEach_eq_ok, exists_const] at h
  refine h.2 version (mem_dropLast_of_lt (List.pairwise_insertionSort _ _) ?_ ?_ hLt)
  · exact (List.perm_insertionSort _ _).mem_iff.2 hVersion
  · exact (List.perm_insertionSort _ _).mem_iff.2 hLatest

/-- There is a step from every version that is not the latest one, to the next version. -/
structure Complete (upcasters : UpcasterRegistry ω β) : Prop extends
    StepsChecked upcasters.eventRegistry upcasters.bySource where
  covered : ∀ eventType, ∀ version ∈ upcasters.eventRegistry.versions eventType,
    ∀ latest ∈ upcasters.eventRegistry.versions eventType, version < latest →
      (eventType, version) ∈ upcasters.bySource.map (·.source)

theorem init_complete (h : init eventRegistry steps w₀ = .ok self) :
    self.eventRegistry = eventRegistry ∧ self.bySource = steps ∧ self.Complete := by
  simp only [init, EventRegistry.keys, bind_eq_ok, pure_eq_ok, forEach_eq_ok,
    exists_const] at h
  obtain ⟨bySource, hSteps, _, ⟨_, -, rfl⟩, hChains, rfl⟩ := h
  have hEmpty : StepsChecked eventRegistry [] := ⟨by simp, List.nodup_nil, by simp⟩
  obtain ⟨rfl, hChecked⟩ := addSteps_ok hEmpty hSteps
  refine ⟨rfl, rfl, hChecked, fun eventType version hVersion latest hLatest hLt => ?_⟩
  refine checkChain_ok (hChains eventType ?_) hVersion hLatest hLt
  rw [(List.perm_insertionSort _ _).mem_iff, List.mem_dedup]
  exact List.mem_map.2 ⟨_, mem_versions.1 hVersion, rfl⟩

theorem source_of_step? {step : UpcastStep ω} (h : self.step? eventType version = some step) :
    step.source = (eventType, version) := by
  unfold step? at h
  simpa using List.find?_some h

/-- The step from the version. -/
theorem Complete.step_found (hComplete : self.Complete)
    (hVersion : version ∈ self.eventRegistry.versions eventType)
    (hLatest : latest ∈ self.eventRegistry.versions eventType) (hLt : version < latest) :
    ∃ step ∈ self.bySource, self.step? eventType version = some step
      ∧ step.eventType = eventType ∧ step.fromVersion = version
      ∧ step.toVersion = version + 1
      ∧ version + 1 ∈ self.eventRegistry.versions eventType := by
  obtain ⟨there, hThere, hSource⟩ := List.mem_map.1
    (hComplete.covered eventType version hVersion latest hLatest hLt)
  obtain ⟨step, hFound⟩ : ∃ step, self.step? eventType version = some step :=
    Option.isSome_iff_exists.1 (List.find?_isSome.2 ⟨there, hThere, decide_eq_true hSource⟩)
  have hStep := List.mem_of_find?_eq_some hFound
  obtain ⟨rfl, rfl⟩ := Prod.mk.inj (source_of_step? hFound)
  have hTo := hComplete.adjacent step hStep
  exact ⟨step, hStep, hFound, rfl, rfl, hTo, hTo ▸ hComplete.registered step hStep⟩

/-! ## The path to the latest version -/

theorem pyRange_of_lt (hLt : version < latest) :
    pyRange version latest = version :: pyRange (version + 1) latest := by
  unfold pyRange
  have hCount : (latest - version).toNat = (latest - (version + 1)).toNat + 1 := by omega
  rw [hCount, List.range_succ_eq_map, List.map_cons, List.map_map]
  refine congrArg₂ _ (add_zero version) (List.map_congr_left fun i _ => ?_)
  show version + ((i + 1 : Nat) : Int) = version + 1 + i
  omega

theorem pyRange_self : pyRange latest latest = [] := by
  unfold pyRange
  rw [sub_self]
  rfl

/-- Adjacent steps of the registry, one from each version up to the latest one. -/
structure IsPath (upcasters : UpcasterRegistry ω β) (eventType : String) (version latest : Int)
    (path : List (UpcastStep ω)) : Prop where
  versions : path.map (·.fromVersion) = pyRange version latest
  steps : ∀ step ∈ path, step ∈ upcasters.bySource ∧ step.eventType = eventType
    ∧ step.toVersion = step.fromVersion + 1

/-- How a call goes along the path: it applies all of it and validates the result, or one step
raises and it goes no further. -/
def Follows (self : UpcasterRegistry ω β) (eventType : String) (latest : Int)
    (path : List (UpcastStep ω)) (run : Run ω β) : Prop :=
  (∃ current w, run = ⟨path, latest, some (self.finish eventType latest current w)⟩)
    ∨ ∃ before step after current w e, path = before ++ step :: after
      ∧ self.applyStep step current w = .error e
      ∧ run = ⟨before ++ [step], step.fromVersion, some (.error e)⟩

theorem Follows.cons {path : List (UpcastStep ω)} {run : Run ω β} {step : UpcastStep ω}
    (h : self.Follows eventType latest path run) :
    self.Follows eventType latest (step :: path) { run with applied := step :: run.applied } := by
  obtain ⟨current, w, rfl⟩ | ⟨before, failed, after, current, w, e, rfl, hError, rfl⟩ := h
  · exact .inl ⟨current, w, rfl⟩
  · exact .inr ⟨step :: before, failed, after, current, w, e, rfl, hError, rfl⟩

theorem upcastLoop_raises {step : UpcastStep ω} {current : JSONObject} {e : UpcastFailure}
    (hLt : version < latest) (hFound : self.step? eventType version = some step)
    (hError : self.applyStep step current w = .error e) (fuel : Nat) :
    self.upcastLoop eventType latest (fuel + 1) version current w
      = ⟨[step], version, some (.error e)⟩ := by
  rw [upcastLoop, if_pos hLt, hFound]
  dsimp only
  rw [hError]

theorem upcastLoop_applies {step : UpcastStep ω} {current next : JSONObject} {w' : ω}
    (hLt : version < latest) (hFound : self.step? eventType version = some step)
    (hApplied : self.applyStep step current w = .ok (next, w')) (fuel : Nat) :
    self.upcastLoop eventType latest (fuel + 1) version current w
      = { self.upcastLoop eventType latest fuel step.toVersion next w' with
          applied := step
            :: (self.upcastLoop eventType latest fuel step.toVersion next w').applied } := by
  rw [upcastLoop, if_pos hLt, hFound]
  dsimp only
  rw [hApplied]

theorem IsPath.cons {step : UpcastStep ω} {path : List (UpcastStep ω)} (hLt : version < latest)
    (hStep : step ∈ self.bySource) (hType : step.eventType = eventType)
    (hFrom : step.fromVersion = version) (hTo : step.toVersion = version + 1)
    (h : self.IsPath eventType (version + 1) latest path) :
    self.IsPath eventType version latest (step :: path) := by
  refine ⟨by rw [List.map_cons, h.versions, hFrom, pyRange_of_lt hLt], ?_⟩
  rintro other (_ | ⟨_, hOther⟩)
  · exact ⟨hStep, hType, hFrom ▸ hTo⟩
  · exact h.steps other hOther

/-- With enough fuel the loop follows a path, by induction on the versions that are left. -/
theorem upcastLoop_follows (hComplete : self.Complete)
    (hLatest : latest ∈ self.eventRegistry.versions eventType) (current : JSONObject) (w : ω)
    (hVersion : version ∈ self.eventRegistry.versions eventType) (hLe : version ≤ latest) :
    ∃ path, self.IsPath eventType version latest path
      ∧ ∃ run, self.Follows eventType latest path run
      ∧ ∀ fuel, (latest - version).toNat < fuel →
        self.upcastLoop eventType latest fuel version current w = run := by
  obtain ⟨left, hLeft⟩ : ∃ left, (latest - version).toNat = left := ⟨_, rfl⟩
  induction left generalizing version current w with
  | zero =>
      obtain rfl : version = latest := by omega
      refine ⟨[], ⟨pyRange_self.symm, by simp⟩, _, .inl ⟨current, w, rfl⟩, fun fuel hFuel => ?_⟩
      obtain ⟨fuel, rfl⟩ := Nat.exists_eq_succ_of_ne_zero (Nat.ne_zero_of_lt hFuel)
      rw [upcastLoop, if_neg (lt_irrefl _)]
  | succ left ih =>
      have hLt : version < latest := by omega
      obtain ⟨step, hStep, hFound, hType, hFrom, hTo, hNext⟩ :=
        hComplete.step_found hVersion hLatest hLt
      cases hApply : self.applyStep step current w with
      | error e =>
          obtain ⟨path, hPath, -⟩ := ih current w hNext (by omega) (by omega)
          refine ⟨step :: path, hPath.cons hLt hStep hType hFrom hTo, _,
            .inr ⟨[], step, path, current, w, e, rfl, hApply, rfl⟩, fun fuel hFuel => ?_⟩
          obtain ⟨fuel, rfl⟩ := Nat.exists_eq_succ_of_ne_zero (Nat.ne_zero_of_lt hFuel)
          rw [upcastLoop_raises hLt hFound hApply, List.nil_append, hFrom]
      | ok applied =>
          obtain ⟨next, w'⟩ := applied
          obtain ⟨path, hPath, run, hFollows, hRest⟩ := ih next w' hNext (by omega) (by omega)
          refine ⟨step :: path, hPath.cons hLt hStep hType hFrom hTo, _, hFollows.cons,
            fun fuel hFuel => ?_⟩
          obtain ⟨fuel, rfl⟩ := Nat.exists_eq_succ_of_ne_zero (Nat.ne_zero_of_lt hFuel)
          rw [upcastLoop_applies hLt hFound hApply, hTo, hRest fuel (by omega)]

/-! ## Every call ends -/

theorem ofTarget_ne_missingStep (e : UpcastFailure) (h : e ≠ .missingStep) :
    UpcastFailure.ofTarget e ≠ .missingStep := by
  cases e with
  | storedValidation _ _ =>
      have hTexts : "upcast target validation failed"
          ≠ "missing upcast step in registered schema chain" := by decide
      exact fun hSame => hTexts (UpcastFailure.upcast.inj hSame)
  | upcast message => exact h
  | registry message => exact h

/-- Validating never raises what the loop raises for a missing step. -/
theorem validateStored_raisesOnly {payload : JSONObject} :
    RaisesOnly (· ≠ .missingStep)
      (self.eventRegistry.validateStored eventType version payload w) := by
  refine raisesOnly_bind (raisesOnly_bind (raisesOnly_require (by decide)) fun _ =>
    raisesOnly_fetch (by decide)) fun _ => raisesOnly_bind ?_ fun _ =>
      raisesOnly_fetch (by exact nofun)
  exact raisesOnly_mapError fun _ _ => nofun

theorem invalidJson_ne_missingStep (e : String) :
    applyStep.invalidJson e ≠ .missingStep := by
  unfold applyStep.invalidJson
  decide

theorem applyStep_raisesOnly {step : UpcastStep ω} {payload : JSONObject} :
    RaisesOnly (· ≠ .missingStep) (self.applyStep step payload w) := by
  refine raisesOnly_bind (raisesOnly_fetch (by decide)) fun _ =>
    raisesOnly_bind (raisesOnly_require (by decide)) fun _ =>
    raisesOnly_bind (raisesOnly_require (by decide)) fun _ =>
    raisesOnly_bind (raisesOnly_mapError fun e _ => invalidJson_ne_missingStep e) fun _ =>
    raisesOnly_bind (raisesOnly_mapError fun e _ => invalidJson_ne_missingStep e) fun _ =>
    raisesOnly_bind (raisesOnly_require (by decide)) fun _ =>
    raisesOnly_bind (raisesOnly_mapError fun e he => ?_) fun _ => raisesOnly_pure _
  exact ofTarget_ne_missingStep e (validateStored_raisesOnly e he)

theorem Follows.not_missing {path : List (UpcastStep ω)} {run : Run ω β}
    (h : self.Follows eventType latest path run) :
    run.outcome ≠ none ∧ run.outcome ≠ some (.error .missingStep) := by
  obtain ⟨current, w, rfl⟩ | ⟨before, step, after, current, w, e, -, hError, rfl⟩ := h
  · have hFinish : RaisesOnly (· ≠ .missingStep) (self.finish eventType latest current w) :=
      raisesOnly_mapError fun e he => ofTarget_ne_missingStep e (validateStored_raisesOnly e he)
    exact ⟨nofun, fun hMissing => hFinish _ (Option.some.inj hMissing) rfl⟩
  · refine ⟨nofun, fun hMissing => applyStep_raisesOnly e hError ?_⟩
    exact Except.error.inj (Option.some.inj hMissing)

theorem checkSource_ok {payload : JSONObject}
    (h : self.checkSource eventType version payload w = .ok latest) :
    self.eventRegistry.latestVersion eventType w = .ok latest
      ∧ version ∈ self.eventRegistry.versions eventType
      ∧ latest ∈ self.eventRegistry.versions eventType ∧ version ≤ latest := by
  simp only [checkSource, bind_eq_ok, pure_eq_ok] at h
  obtain ⟨_, hSource, _, hLatest, _, -, rfl⟩ := h
  have hMax := hLatest
  simp only [EventRegistry.latestVersion, bind_eq_ok, fetch_eq_ok] at hMax
  obtain ⟨_, -, hMax⟩ := hMax
  obtain ⟨hThere, hGreatest⟩ := List.max?_eq_some_iff.1 hMax
  exact ⟨hLatest, lookup_ok hSource, hThere, hGreatest version (lookup_ok hSource)⟩

/-- Versions are small integers, so their number bounds the rounds of the loop. -/
theorem versions_bounded (h : version ∈ eventRegistry.versions eventType) :
    1 ≤ version ∧ version ≤ 32767 :=
  eventRegistry.hVersions _ (mem_versions.1 h)

/-- What returns has come to the latest version by every step of the path. -/
theorem Follows.of_ok {path : List (UpcastStep ω)} {run : Run ω β}
    (h : self.Follows eventType latest path run) {result : β}
    (hResult : run.outcome = some (.ok result)) : run.applied = path ∧ run.version = latest := by
  obtain ⟨current, w, rfl⟩ | ⟨before, step, after, current, w, e, -, -, rfl⟩ := h
  · exact ⟨rfl, rfl⟩
  · cases hResult

/-- Every call of accepted upcasters ends.  It refuses its input, or it applies adjacent steps
in order up to the latest version unless one raises; no step is missing. -/
theorem upcastToLatest_climbs (h : init eventRegistry steps w₀ = .ok self)
    (eventType : String) (fromVersion : Int) (storedPayload : JSONObject) (w : ω) :
    self.bySource = steps ∧ ∃ run : Run ω β,
      (∀ fuel, 2 ^ 15 ≤ fuel →
        self.upcastToLatest fuel eventType fromVersion storedPayload w = run)
      ∧ run.outcome ≠ none ∧ run.outcome ≠ some (.error .missingStep)
      ∧ (run = ⟨[], fromVersion, some (.error .sourceInvalid)⟩
        ∨ ∃ latest path, eventRegistry.latestVersion eventType w = .ok latest
          ∧ self.IsPath eventType fromVersion latest path
          ∧ self.Follows eventType latest path run
          ∧ ∀ result, run.outcome = some (.ok result) →
            run.applied = path ∧ run.version = latest) := by
  obtain ⟨rfl, hSteps, hComplete⟩ := init_complete h
  refine ⟨hSteps, ?_⟩
  cases hSource : self.checkSource eventType fromVersion storedPayload w with
  | error e =>
      refine ⟨⟨[], fromVersion, some (.error .sourceInvalid)⟩, fun fuel _ => ?_, nofun,
        fun hSame => ?_, .inl rfl⟩
      · rw [upcastToLatest, hSource]
      · exact absurd (Except.error.inj (Option.some.inj hSame)) (by decide)
  | ok latest =>
      obtain ⟨hLatest, hFrom, hThere, hLe⟩ := checkSource_ok hSource
      obtain ⟨path, hPath, run, hFollows, hRun⟩ :=
        upcastLoop_follows hComplete hThere storedPayload w hFrom hLe
      refine ⟨run, fun fuel hFuel => ?_, hFollows.not_missing.1, hFollows.not_missing.2,
        .inr ⟨latest, path, hLatest, hPath, hFollows, fun _ => hFollows.of_ok⟩⟩
      have hLow := versions_bounded hFrom
      have hHigh := versions_bounded hThere
      rw [upcastToLatest, hSource]
      exact hRun fuel (by omega)

/-! ### One step -/

/-- A type with two versions that accept every payload. -/
def sampleEventRegistry : EventRegistry Unit JSONObject where
  byKey := [(("FakeEvent", 1), fun payload _ => some payload),
    (("FakeEvent", 2), fun payload _ => some payload)]
  live := fun _ => true
  hKeys := by decide
  hVersions := by decide

/-- A step that adds nothing. -/
def sampleUpcastStep : UpcastStep Unit :=
  ⟨"FakeEvent", 1, 2, fun payload w => some (⟨.object payload, .object payload, true⟩, w)⟩

theorem upcastToLatest_climbs_sample : ∃ run : Run Unit JSONObject,
    UpcasterRegistry.upcastToLatest ⟨sampleEventRegistry, [sampleUpcastStep]⟩ (2 ^ 15)
        "FakeEvent" 1 [] () = run
      ∧ run.outcome ≠ none := by
  have hInit : init sampleEventRegistry [sampleUpcastStep] ()
      = .ok ⟨sampleEventRegistry, [sampleUpcastStep]⟩ := rfl
  obtain ⟨-, run, hRun, hEnds, -⟩ := upcastToLatest_climbs hInit "FakeEvent" 1 [] ()
  exact ⟨run, hRun _ le_rfl, hEnds⟩

end UpcasterRegistry

end TrackAnywhere.Ports
