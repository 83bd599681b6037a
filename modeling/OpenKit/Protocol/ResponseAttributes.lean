import Mathlib.Logic.Function.Basic
import OpenKit.Core.UTF8String
import OpenKit.Library.LastWrite

/-!
# Response attributes

The attributes of a server response: a value for each of them, and the set of those the response
has set. Merging takes the attributes set by the newer response and keeps the others.

## Main definitions

* `ResponseAttribute`, `ResponseAttributes`: the attributes and their values
* `ResponseAttributes.undefined`: the values before any response
* `ResponseAttributes.merge`: the attributes after a newer response
* `ResponseAttributes.value`: the value of an attribute

## Main results

* `ResponseAttributes.overrides_merge`: merging takes over what the newer response has set
-/

namespace OpenKit

/-- The attributes that a response may set. -/
inductive ResponseAttribute
  | maxBeaconSize
  | maxSessionDuration
  | maxEventsPerSession
  | sessionIdleTimeout
  | sendInterval
  | visitStoreVersion
  | isCapture
  | isCaptureCrashes
  | isCaptureErrors
  | trafficControlPercentage
  | applicationId
  | multiplicity
  | serverId
  | status
  | timestamp
deriving DecidableEq, Repr

/-- The attributes of a response, with the set of those it has set. -/
structure ResponseAttributes where
  setAttributes : ResponseAttribute → Bool
  maxBeaconSizeInBytes : ℤ
  maxSessionDurationInMilliseconds : ℤ
  maxEventsPerSession : ℤ
  sessionTimeoutInMilliseconds : ℤ
  sendIntervalInMilliseconds : ℤ
  visitStoreVersion : ℤ
  isCapture : Bool
  isCaptureCrashes : Bool
  isCaptureErrors : Bool
  trafficControlPercentage : ℤ
  applicationId : UTF8String
  multiplicity : ℤ
  serverId : ℤ
  status : UTF8String
  timestampInMilliseconds : ℤ

namespace ResponseAttributes

/-- The undefined defaults, in which no attribute is set. -/
def undefined : ResponseAttributes where
  setAttributes := fun _ => false
  maxBeaconSizeInBytes := 30 * 1024
  maxSessionDurationInMilliseconds := -1
  maxEventsPerSession := -1
  sessionTimeoutInMilliseconds := -1
  sendIntervalInMilliseconds := 120 * 1000
  visitStoreVersion := 1
  isCapture := true
  isCaptureCrashes := true
  isCaptureErrors := true
  trafficControlPercentage := 100
  applicationId := UTF8String.nil
  multiplicity := 1
  serverId := -1
  status := UTF8String.nil
  timestampInMilliseconds := 0

/-- The defaults of a response in JSON. -/
def jsonResponse : ResponseAttributes :=
  { undefined with
    maxBeaconSizeInBytes := 150 * 1024
    maxSessionDurationInMilliseconds := 360 * 60 * 1000
    maxEventsPerSession := 200
    sessionTimeoutInMilliseconds := 600 * 1000
    serverId := 1 }

/-- The defaults of a response as key-value pairs. -/
def keyValueResponse : ResponseAttributes := { undefined with serverId := 1 }

def isAttributeSet (a : ResponseAttributes) (attr : ResponseAttribute) : Bool :=
  a.setAttributes attr

/-! ## The builder -/

def setAttribute (a : ResponseAttributes) (attr : ResponseAttribute) : ResponseAttributes :=
  { a with setAttributes := Function.update a.setAttributes attr true }

def withMaxBeaconSizeInBytes (a : ResponseAttributes) (value : ℤ) : ResponseAttributes :=
  { a with maxBeaconSizeInBytes := value }.setAttribute .maxBeaconSize

def withMaxSessionDurationInMilliseconds (a : ResponseAttributes) (value : ℤ) :
    ResponseAttributes :=
  { a with maxSessionDurationInMilliseconds := value }.setAttribute .maxSessionDuration

def withMaxEventsPerSession (a : ResponseAttributes) (value : ℤ) : ResponseAttributes :=
  { a with maxEventsPerSession := value }.setAttribute .maxEventsPerSession

def withSessionTimeoutInMilliseconds (a : ResponseAttributes) (value : ℤ) : ResponseAttributes :=
  { a with sessionTimeoutInMilliseconds := value }.setAttribute .sessionIdleTimeout

def withSendIntervalInMilliseconds (a : ResponseAttributes) (value : ℤ) : ResponseAttributes :=
  { a with sendIntervalInMilliseconds := value }.setAttribute .sendInterval

def withVisitStoreVersion (a : ResponseAttributes) (value : ℤ) : ResponseAttributes :=
  { a with visitStoreVersion := value }.setAttribute .visitStoreVersion

def withCapture (a : ResponseAttributes) (value : Bool) : ResponseAttributes :=
  { a with isCapture := value }.setAttribute .isCapture

def withCaptureCrashes (a : ResponseAttributes) (value : Bool) : ResponseAttributes :=
  { a with isCaptureCrashes := value }.setAttribute .isCaptureCrashes

def withCaptureErrors (a : ResponseAttributes) (value : Bool) : ResponseAttributes :=
  { a with isCaptureErrors := value }.setAttribute .isCaptureErrors

def withTrafficControlPercentage (a : ResponseAttributes) (value : ℤ) : ResponseAttributes :=
  { a with trafficControlPercentage := value }.setAttribute .trafficControlPercentage

def withApplicationId (a : ResponseAttributes) (value : UTF8String) : ResponseAttributes :=
  { a with applicationId := value }.setAttribute .applicationId

def withMultiplicity (a : ResponseAttributes) (value : ℤ) : ResponseAttributes :=
  { a with multiplicity := value }.setAttribute .multiplicity

def withServerId (a : ResponseAttributes) (value : ℤ) : ResponseAttributes :=
  { a with serverId := value }.setAttribute .serverId

def withStatus (a : ResponseAttributes) (value : UTF8String) : ResponseAttributes :=
  { a with status := value }.setAttribute .status

def withTimestampInMilliseconds (a : ResponseAttributes) (value : ℤ) : ResponseAttributes :=
  { a with timestampInMilliseconds := value }.setAttribute .timestamp

/-! ## Merging -/

/-- Applies one attribute of the newer response if it has set it. -/
def applyAttribute (attr : ResponseAttribute)
    (withValue : ResponseAttributes → ResponseAttributes → ResponseAttributes)
    (attributes builder : ResponseAttributes) : ResponseAttributes :=
  if attributes.isAttributeSet attr then withValue builder attributes else builder

def applyBeaconSize :=
  applyAttribute .maxBeaconSize fun b a => b.withMaxBeaconSizeInBytes a.maxBeaconSizeInBytes

def applySessionDuration :=
  applyAttribute .maxSessionDuration fun b a =>
    b.withMaxSessionDurationInMilliseconds a.maxSessionDurationInMilliseconds

def applyEventsPerSession :=
  applyAttribute .maxEventsPerSession fun b a => b.withMaxEventsPerSession a.maxEventsPerSession

def applySessionTimeout :=
  applyAttribute .sessionIdleTimeout fun b a =>
    b.withSessionTimeoutInMilliseconds a.sessionTimeoutInMilliseconds

def applySendInterval :=
  applyAttribute .sendInterval fun b a =>
    b.withSendIntervalInMilliseconds a.sendIntervalInMilliseconds

def applyVisitStoreVersion :=
  applyAttribute .visitStoreVersion fun b a => b.withVisitStoreVersion a.visitStoreVersion

def applyCapture :=
  applyAttribute .isCapture fun b a => b.withCapture a.isCapture

def applyCaptureCrashes :=
  applyAttribute .isCaptureCrashes fun b a => b.withCaptureCrashes a.isCaptureCrashes

def applyCaptureErrors :=
  applyAttribute .isCaptureErrors fun b a => b.withCaptureErrors a.isCaptureErrors

def applyTrafficControlPercentage :=
  applyAttribute .trafficControlPercentage fun b a =>
    b.withTrafficControlPercentage a.trafficControlPercentage

def applyApplicationId :=
  applyAttribute .applicationId fun b a => b.withApplicationId a.applicationId

def applyMultiplicity :=
  applyAttribute .multiplicity fun b a => b.withMultiplicity a.multiplicity

def applyServerId :=
  applyAttribute .serverId fun b a => b.withServerId a.serverId

def applyStatus :=
  applyAttribute .status fun b a => b.withStatus a.status

def applyTimestamp :=
  applyAttribute .timestamp fun b a => b.withTimestampInMilliseconds a.timestampInMilliseconds

/-- The attributes after the newer ones `attributes`. -/
def merge (a attributes : ResponseAttributes) : ResponseAttributes :=
  let builder := applyBeaconSize attributes a
  let builder := applySessionDuration attributes builder
  let builder := applyEventsPerSession attributes builder
  let builder := applySessionTimeout attributes builder
  let builder := applySendInterval attributes builder
  let builder := applyVisitStoreVersion attributes builder
  let builder := applyCapture attributes builder
  let builder := applyCaptureCrashes attributes builder
  let builder := applyCaptureErrors attributes builder
  let builder := applyTrafficControlPercentage attributes builder
  let builder := applyApplicationId attributes builder
  let builder := applyMultiplicity attributes builder
  let builder := applyServerId attributes builder
  let builder := applyStatus attributes builder
  applyTimestamp attributes builder

/-! ## The value of an attribute -/

/-- The values that attributes have. -/
inductive AttributeValue
  | number (n : ℤ)
  | flag (b : Bool)
  | text (t : UTF8String)
deriving DecidableEq, Repr

/-- The value of an attribute, whether it is set or a default. -/
def value (a : ResponseAttributes) : ResponseAttribute → AttributeValue
  | .maxBeaconSize => .number a.maxBeaconSizeInBytes
  | .maxSessionDuration => .number a.maxSessionDurationInMilliseconds
  | .maxEventsPerSession => .number a.maxEventsPerSession
  | .sessionIdleTimeout => .number a.sessionTimeoutInMilliseconds
  | .sendInterval => .number a.sendIntervalInMilliseconds
  | .visitStoreVersion => .number a.visitStoreVersion
  | .isCapture => .flag a.isCapture
  | .isCaptureCrashes => .flag a.isCaptureCrashes
  | .isCaptureErrors => .flag a.isCaptureErrors
  | .trafficControlPercentage => .number a.trafficControlPercentage
  | .applicationId => .text a.applicationId
  | .multiplicity => .number a.multiplicity
  | .serverId => .number a.serverId
  | .status => .text a.status
  | .timestamp => .number a.timestampInMilliseconds

/-- The functions that `merge` applies, each with its attribute. -/
def mergeSteps :
    List (ResponseAttribute × (ResponseAttributes → ResponseAttributes → ResponseAttributes)) :=
  [(.maxBeaconSize, applyBeaconSize), (.maxSessionDuration, applySessionDuration),
    (.maxEventsPerSession, applyEventsPerSession), (.sessionIdleTimeout, applySessionTimeout),
    (.sendInterval, applySendInterval), (.visitStoreVersion, applyVisitStoreVersion),
    (.isCapture, applyCapture), (.isCaptureCrashes, applyCaptureCrashes),
    (.isCaptureErrors, applyCaptureErrors),
    (.trafficControlPercentage, applyTrafficControlPercentage),
    (.applicationId, applyApplicationId), (.multiplicity, applyMultiplicity),
    (.serverId, applyServerId), (.status, applyStatus), (.timestamp, applyTimestamp)]

theorem merge_eq_foldl (a attributes : ResponseAttributes) :
    a.merge attributes = mergeSteps.foldl (fun builder step => step.2 attributes builder) a := rfl

theorem isAttributeSet_setAttribute (a : ResponseAttributes) (attr k : ResponseAttribute) :
    (a.setAttribute attr).isAttributeSet k = (a.isAttributeSet k || k == attr) := by
  show Function.update a.setAttributes attr true k = (a.setAttributes k || k == attr)
  rw [Function.update_apply]
  by_cases hk : k = attr
  · rw [if_pos hk, beq_iff_eq.mpr hk, Bool.or_true]
  · rw [if_neg hk, beq_eq_false_iff_ne.mpr hk, Bool.or_false]

/-- A builder function sets one attribute to its value in the newer response, and nothing else. -/
def SetsOnly (attr : ResponseAttribute) (attributes builder result : ResponseAttributes) : Prop :=
  ∀ k, result.value k = (if k = attr then attributes.value k else builder.value k) ∧
    result.isAttributeSet k = (builder.isAttributeSet k || k == attr)

/-- What one function of `merge` does. -/
def AppliesOnly (attr : ResponseAttribute) (attributes builder result : ResponseAttributes) :
    Prop :=
  ∀ k,
    result.value k =
      (if k = attr ∧ attributes.isAttributeSet k then attributes.value k else builder.value k) ∧
    result.isAttributeSet k =
      (builder.isAttributeSet k || (k == attr && attributes.isAttributeSet k))

theorem appliesOnly_applyAttribute {attr : ResponseAttribute}
    {withValue : ResponseAttributes → ResponseAttributes → ResponseAttributes}
    (h : ∀ b a, SetsOnly attr a b (withValue b a)) (attributes builder : ResponseAttributes) :
    AppliesOnly attr attributes builder (applyAttribute attr withValue attributes builder) := by
  intro k
  rw [applyAttribute]
  by_cases hset : attributes.isAttributeSet attr = true
  · rw [if_pos hset]
    obtain ⟨hvalue, hisSet⟩ := h builder attributes k
    rw [hvalue, hisSet]
    by_cases hk : k = attr
    · subst hk
      simp [hset]
    · simp [hk, beq_eq_false_iff_ne.mpr hk]
  · rw [if_neg hset]
    by_cases hk : k = attr
    · subst hk
      simp [hset]
    · simp [hk, beq_eq_false_iff_ne.mpr hk]

/-- Each function of `merge` does what its attribute says. -/
theorem appliesOnly_of_mem {step : ResponseAttribute × _} (h : step ∈ mergeSteps)
    (attributes builder : ResponseAttributes) :
    AppliesOnly step.1 attributes builder (step.2 attributes builder) := by
  -- one case per function, and in it one per attribute
  simp only [mergeSteps, List.mem_cons, List.not_mem_nil, or_false] at h
  rcases h with rfl | rfl | rfl | rfl | rfl | rfl | rfl | rfl | rfl | rfl | rfl | rfl | rfl | rfl |
    rfl
  all_goals
    refine appliesOnly_applyAttribute (fun b a k => ?_) attributes builder
    refine ⟨?_, isAttributeSet_setAttribute _ _ k⟩
    cases k <;> rfl

/-- Some functions of `merge`, each for another attribute, apply these attributes. -/
theorem foldl_applies (attributes : ResponseAttributes)
    {steps : List (ResponseAttribute × (ResponseAttributes → ResponseAttributes → _))}
    (hsteps : ∀ step ∈ steps, ∀ builder,
      AppliesOnly step.1 attributes builder (step.2 attributes builder))
    (a : ResponseAttributes) (k : ResponseAttribute) :
    (steps.foldl (fun builder step => step.2 attributes builder) a).value k =
      (if k ∈ steps.map Prod.fst ∧ attributes.isAttributeSet k then attributes.value k
        else a.value k) ∧
    (steps.foldl (fun builder step => step.2 attributes builder) a).isAttributeSet k =
      (a.isAttributeSet k || (decide (k ∈ steps.map Prod.fst) && attributes.isAttributeSet k)) := by
  induction steps generalizing a with
  | nil => simp
  | cons step steps ih =>
    obtain ⟨hstep, hrest⟩ := List.forall_mem_cons.mp hsteps
    obtain ⟨hvalue, hisSet⟩ := hstep a k
    obtain ⟨hvalue', hisSet'⟩ := ih hrest (step.2 attributes a)
    rw [List.foldl_cons, hvalue', hisSet', hvalue, hisSet, List.map_cons]
    constructor
    · grind
    · grind

/-- Merging takes over what the newer response has set. -/
theorem overrides_merge : LastWrite.Overrides value isAttributeSet merge where
  value_merge a b k := by
    have hmem : k ∈ mergeSteps.map Prod.fst := by cases k <;> decide
    have h := (foldl_applies b (fun _ hstep builder => appliesOnly_of_mem hstep b builder) a k).1
    rw [merge_eq_foldl, h]
    simp [hmem]
  isSet_merge a b k := by
    have hmem : k ∈ mergeSteps.map Prod.fst := by cases k <;> decide
    have h := (foldl_applies b (fun _ hstep builder => appliesOnly_of_mem hstep b builder) a k).2
    rw [merge_eq_foldl, h]
    simp [hmem]

/-- The capture flag is taken from the newer attributes if they set it. -/
theorem merge_isCapture (a attributes : ResponseAttributes) :
    (a.merge attributes).isCapture =
      if attributes.isAttributeSet .isCapture then attributes.isCapture else a.isCapture := by
  have h := overrides_merge.value_merge a attributes .isCapture
  split
  next hset => rwa [if_pos hset, value, value, AttributeValue.flag.injEq] at h
  next hset => rwa [if_neg hset, value, value, AttributeValue.flag.injEq] at h

end ResponseAttributes

end OpenKit
