import OpenKit.Protocol.GivenAttributes
import OpenKit.Protocol.KeyValueResponseParser

/-!
# What responses give

A response in JSON gives the attributes whose members are there and of the right type, and a list of pairs
gives those whose keys are there. An exception is raised for a value that does not begin with a number.

## Main definitions

* `JsonResponseParser.given`: what the root object gives
* `KeyValueResponseParser.given`: what the pairs give

## Main results

* `JsonResponseParser.ends_apply`: an object is read to the end
* `KeyValueResponseParser.ends_apply`: pairs are read, or an exception is raised
-/

namespace OpenKit

open Fallible ResponseAttributes GivenAttributes

/-! ## Responses in JSON -/

namespace JsonResponseParser

open JsonValue

/-- The member under a key of the object under another one. -/
def member (root : ObjectMap) (sectionKey key : List UInt8) : Option JsonValue :=
  ((root.lookup sectionKey).bind asObject).bind fun map => map.lookup key

/-- What a number gives. -/
def numberGiven (attr : JsonNumberValue → AttributeValue) (entry : Option JsonValue) :
    Option AttributeValue := (entry.bind asNumber).map attr

/-- What a string gives. -/
def textGiven (entry : Option JsonValue) : Option AttributeValue :=
  (entry.bind asString).map fun value => .text (UTF8String.validateString value)

/-- What the root object gives. -/
def given (root : ObjectMap) : GivenAttributes
  | .maxBeaconSize =>
    numberGiven (fun n => .number (mulInt32 n.getInt32Value 1024))
      (member root responseKeyAgentConfig responseKeyMaxBeaconSizeInKb)
  | .maxSessionDuration =>
    numberGiven (fun n => .number (mulInt32 (mulInt32 n.getInt32Value 60) 1000))
      (member root responseKeyAgentConfig responseKeyMaxSessionDurationInMin)
  | .maxEventsPerSession =>
    numberGiven (fun n => .number n.getInt32Value)
      (member root responseKeyAgentConfig responseKeyMaxEventsPerSession)
  | .sessionIdleTimeout =>
    numberGiven (fun n => .number (mulInt32 n.getInt32Value 1000))
      (member root responseKeyAgentConfig responseKeySessionTimeoutInSec)
  | .sendInterval =>
    numberGiven (fun n => .number (mulInt32 n.getInt32Value 1000))
      (member root responseKeyAgentConfig responseKeySendIntervalInSec)
  | .visitStoreVersion =>
    numberGiven (fun n => .number n.getInt32Value)
      (member root responseKeyAgentConfig responseKeyVisitStoreVersion)
  | .isCapture =>
    numberGiven (fun n => .flag (n.getInt32Value == 1))
      (member root responseKeyAppConfig responseKeyCapture)
  | .isCaptureCrashes =>
    numberGiven (fun n => .flag (n.getInt32Value != 0))
      (member root responseKeyAppConfig responseKeyReportCrashes)
  | .isCaptureErrors =>
    numberGiven (fun n => .flag (n.getInt32Value != 0))
      (member root responseKeyAppConfig responseKeyReportErrors)
  | .trafficControlPercentage =>
    numberGiven (fun n => .number n.getInt32Value)
      (member root responseKeyAppConfig responseKeyTrafficControlPercentage)
  | .applicationId => textGiven (member root responseKeyAppConfig responseKeyApplicationId)
  | .multiplicity =>
    numberGiven (fun n => .number n.getInt32Value)
      (member root responseKeyDynamicConfig responseKeyMultiplicity)
  | .serverId =>
    numberGiven (fun n => .number n.getInt32Value)
      (member root responseKeyDynamicConfig responseKeyServerId)
  | .status => textGiven (member root responseKeyDynamicConfig responseKeyStatus)
  | .timestamp =>
    numberGiven (fun n => .number n.getLongValue) (root.lookup responseKeyTimestampInMillis)

variable {root map : ObjectMap} {key : List UInt8} {attr : ResponseAttribute}

/-- A step on an object gives something, and does not fail. -/
def Gives (map : ObjectMap)
    (step : ResponseAttributes → Option ObjectMap → Responding ResponseAttributes)
    (given : GivenAttributes) : Prop :=
  ∀ b, Ends (Takes given b) (fun _ => False) (step b (some map))

theorem gives_applyNumber {apply : ResponseAttributes → JsonNumberValue → ResponseAttributes}
    {value : JsonNumberValue → AttributeValue}
    (h : ∀ b n, Takes (only attr (some (value n))) b (apply b n)) :
    Gives map (applyNumber key apply) (only attr (numberGiven value (map.lookup key))) := by
  intro b
  rw [applyNumber, getJsonNumberFrom, find]
  simp only [bind, Except.bind, pure, Except.pure, numberGiven]
  cases (map.lookup key).bind asNumber with
  | none => exact takes_only_none attr b
  | some n => exact h b n

theorem gives_applyString {apply : ResponseAttributes → UTF8String → ResponseAttributes}
    (h : ∀ b t, Takes (only attr (some (.text t))) b (apply b t)) :
    Gives map (applyString key apply) (only attr (textGiven (map.lookup key))) := by
  intro b
  rw [applyString, getJsonStringFrom, find]
  simp only [bind, Except.bind, pure, Except.pure, textGiven]
  cases (map.lookup key).bind asString with
  | none => exact takes_only_none attr b
  | some value => exact h b (UTF8String.validateString value)

/-- A configuration object gives what its steps give, if it is there. -/
theorem gives_applyConfiguration
    {steps : List (ResponseAttributes → Option ObjectMap → Responding ResponseAttributes)}
    {gs : ObjectMap → List GivenAttributes} (h : ∀ map, List.Forall₂ (Gives map) steps (gs map)) :
    Gives root (applyConfiguration key steps) fun k =>
      ((root.lookup key).bind asObject).bind fun map => all (gs map) k := by
  intro b
  rw [applyConfiguration, getJsonObjectFrom, find]
  simp only [bind, Except.bind, pure, Except.pure]
  cases (root.lookup key).bind asObject with
  | none => exact takes_nothing b
  | some map => exact ends_takes_foldlM (h map) b

theorem gives_applyAgentConfiguration :
    Gives root applyAgentConfiguration fun k =>
      ((root.lookup responseKeyAgentConfig).bind asObject).bind fun map => all
        [only .maxBeaconSize (numberGiven (fun n => .number (mulInt32 n.getInt32Value 1024))
            (map.lookup responseKeyMaxBeaconSizeInKb)),
          only .maxSessionDuration
            (numberGiven (fun n => .number (mulInt32 (mulInt32 n.getInt32Value 60) 1000))
              (map.lookup responseKeyMaxSessionDurationInMin)),
          only .maxEventsPerSession (numberGiven (fun n => .number n.getInt32Value)
            (map.lookup responseKeyMaxEventsPerSession)),
          only .sessionIdleTimeout (numberGiven (fun n => .number (mulInt32 n.getInt32Value 1000))
            (map.lookup responseKeySessionTimeoutInSec)),
          only .sendInterval (numberGiven (fun n => .number (mulInt32 n.getInt32Value 1000))
            (map.lookup responseKeySendIntervalInSec)),
          only .visitStoreVersion (numberGiven (fun n => .number n.getInt32Value)
            (map.lookup responseKeyVisitStoreVersion))] k := by
  refine gives_applyConfiguration fun map => .cons (gives_applyNumber fun b n => ?_)
    (.cons (gives_applyNumber fun b n => ?_) (.cons (gives_applyNumber fun b n => ?_)
      (.cons (gives_applyNumber fun b n => ?_) (.cons (gives_applyNumber fun b n => ?_)
        (.cons (gives_applyNumber fun b n => ?_) .nil)))))
  all_goals exact takes_only (fun k => by cases k <;> rfl) (isAttributeSet_setAttribute _ _)

theorem gives_applyApplicationConfiguration :
    Gives root applyApplicationConfiguration fun k =>
      ((root.lookup responseKeyAppConfig).bind asObject).bind fun map => all
        [only .isCapture (numberGiven (fun n => .flag (n.getInt32Value == 1))
            (map.lookup responseKeyCapture)),
          only .isCaptureCrashes (numberGiven (fun n => .flag (n.getInt32Value != 0))
            (map.lookup responseKeyReportCrashes)),
          only .isCaptureErrors (numberGiven (fun n => .flag (n.getInt32Value != 0))
            (map.lookup responseKeyReportErrors)),
          only .trafficControlPercentage (numberGiven (fun n => .number n.getInt32Value)
            (map.lookup responseKeyTrafficControlPercentage)),
          only .applicationId (textGiven (map.lookup responseKeyApplicationId))] k := by
  refine gives_applyConfiguration fun map => .cons (gives_applyNumber fun b n => ?_)
    (.cons (gives_applyNumber fun b n => ?_) (.cons (gives_applyNumber fun b n => ?_)
      (.cons (gives_applyNumber fun b n => ?_) (.cons (gives_applyString fun b t => ?_) .nil))))
  all_goals exact takes_only (fun k => by cases k <;> rfl) (isAttributeSet_setAttribute _ _)

theorem gives_applyDynamicConfiguration :
    Gives root applyDynamicConfiguration fun k =>
      ((root.lookup responseKeyDynamicConfig).bind asObject).bind fun map => all
        [only .multiplicity (numberGiven (fun n => .number n.getInt32Value)
            (map.lookup responseKeyMultiplicity)),
          only .serverId (numberGiven (fun n => .number n.getInt32Value)
            (map.lookup responseKeyServerId)),
          only .status (textGiven (map.lookup responseKeyStatus))] k := by
  refine gives_applyConfiguration fun map => .cons (gives_applyNumber fun b n => ?_)
    (.cons (gives_applyNumber fun b n => ?_) (.cons (gives_applyString fun b t => ?_) .nil))
  all_goals exact takes_only (fun k => by cases k <;> rfl) (isAttributeSet_setAttribute _ _)

theorem gives_applyRootAttributes :
    Gives root applyRootAttributes (only .timestamp
      (numberGiven (fun n => .number n.getLongValue) (root.lookup responseKeyTimestampInMillis))) :=
  gives_applyNumber fun _ _ =>
    takes_only (fun k => by cases k <;> rfl) (isAttributeSet_setAttribute _ _)

/-- **An object** is read to the end, and gives what its members say. -/
theorem ends_apply (root : ObjectMap) (b : ResponseAttributes) :
    Ends (Takes (given root) b) (fun _ => False) (applyAll
      [applyAgentConfiguration, applyApplicationConfiguration, applyDynamicConfiguration,
        applyRootAttributes] b (some root)) := by
  have hsteps : List.Forall₂ (Gives root) [applyAgentConfiguration, applyApplicationConfiguration,
      applyDynamicConfiguration, applyRootAttributes] _ :=
    .cons gives_applyAgentConfiguration (.cons gives_applyApplicationConfiguration
      (.cons gives_applyDynamicConfiguration (.cons gives_applyRootAttributes .nil)))
  refine (ends_takes_foldlM hsteps b).mono (fun result htakes => ?_) fun _ he => he
  -- Each attribute is given by one step only.
  convert htakes using 1
  funext k
  rw [all, all, all, all, all, later, later, later, later]
  unfold given member
  generalize (root.lookup responseKeyAgentConfig).bind asObject = agentConfig
  generalize (root.lookup responseKeyAppConfig).bind asObject = appConfig
  generalize (root.lookup responseKeyDynamicConfig).bind asObject = dynamicConfig
  cases k <;> cases agentConfig <;> cases appConfig <;> cases dynamicConfig <;>
    simp [all, later, only, nothing, numberGiven, textGiven]

end JsonResponseParser

/-! ## Responses as key-value pairs -/

/-- An exception that is raised for a text that is no number. -/
def ResponseFault.IsNumberFault (fault : ResponseFault) : Prop :=
  fault = invalidArgument ∨ fault = outOfRange

theorem isNumberFault_of_stoi {text : List UInt8} {fault : ResponseFault} (h : stoi text = .error fault) :
    fault.IsNumberFault := by
  rw [stoi] at h
  split at h
  next => exact .inl (Except.error.inj h).symm
  next =>
    split at h
    next => cases h
    next => exact .inr (Except.error.inj h).symm

namespace KeyValueResponseParser

/-- What the text under a key gives. -/
def entryGiven (attr : ℤ → AttributeValue) (entry : Option (List UInt8)) : Option AttributeValue :=
  (entry.bind fun text => (stoi text).toOption).map attr

/-- What the pairs give. -/
def given (keyValuePairs : List (List UInt8 × List UInt8)) : GivenAttributes
  | .maxBeaconSize =>
    entryGiven (fun n => .number (mulInt32 n 1024)) (keyValuePairs.lookup responseKeyMaxBeaconSizeInKb)
  | .sendInterval =>
    entryGiven (fun n => .number (mulInt32 n 1000)) (keyValuePairs.lookup responseKeySendIntervalInSec)
  | .isCapture => entryGiven (fun n => .flag (n == 1)) (keyValuePairs.lookup responseKeyCapture)
  | .isCaptureCrashes =>
    entryGiven (fun n => .flag (n != 0)) (keyValuePairs.lookup responseKeyReportCrashes)
  | .isCaptureErrors =>
    entryGiven (fun n => .flag (n != 0)) (keyValuePairs.lookup responseKeyReportErrors)
  | .trafficControlPercentage =>
    entryGiven .number (keyValuePairs.lookup responseKeyTrafficControlPercentage)
  | .serverId => entryGiven .number (keyValuePairs.lookup responseKeyServerId)
  | .multiplicity => entryGiven .number (keyValuePairs.lookup responseKeyMultiplicity)
  | _ => none

variable {keyValuePairs : List (List UInt8 × List UInt8)} {key : List UInt8} {attr : ResponseAttribute}

/-- The keys of the attributes, in the order of the functions. -/
def responseKeys : List (List UInt8) :=
  [responseKeyMaxBeaconSizeInKb, responseKeySendIntervalInSec, responseKeyCapture,
    responseKeyReportCrashes, responseKeyReportErrors, responseKeyTrafficControlPercentage,
    responseKeyServerId, responseKeyMultiplicity]

/-- An exception that is raised for the text under a key. -/
def RaisedForText (keyValuePairs : List (List UInt8 × List UInt8)) (fault : ResponseFault) : Prop :=
  ∃ key ∈ responseKeys, ∃ text, keyValuePairs.lookup key = some text ∧ stoi text = .error fault

/-- A step on the pairs gives something, or raises an exception. -/
def Gives (keyValuePairs : List (List UInt8 × List UInt8))
    (step : ResponseAttributes → List (List UInt8 × List UInt8) → Responding ResponseAttributes)
    (given : GivenAttributes) : Prop :=
  ∀ b, Ends (Takes given b) (RaisedForText keyValuePairs) (step b keyValuePairs)

theorem gives_applyEntry {apply : ResponseAttributes → ℤ → ResponseAttributes}
    {value : ℤ → AttributeValue} {i : ℕ} (hkey : responseKeys[i]? = some key)
    (h : ∀ b n, Takes (only attr (some (value n))) b (apply b n)) :
    Gives keyValuePairs (applyEntry key apply)
      (only attr (entryGiven value (keyValuePairs.lookup key))) := by
  intro b
  rw [applyEntry, entryGiven]
  cases hlookup : keyValuePairs.lookup key with
  | none => exact takes_only_none attr b
  | some text =>
    cases hnumber : stoi text with
    | error fault =>
      simp only [bind, Except.bind, hnumber]
      exact ⟨key, List.mem_of_getElem? hkey, text, hlookup, hnumber⟩
    | ok n =>
      simp only [bind, Except.bind, pure, Except.pure, hnumber, Option.bind_some, Except.toOption,
        Option.map_some]
      exact h b n

/-- **Pairs** are read to the end, unless an exception is raised for one of the texts. -/
theorem ends_applySteps (keyValuePairs : List (List UInt8 × List UInt8)) (b : ResponseAttributes) :
    Ends (Takes (given keyValuePairs) b) (RaisedForText keyValuePairs)
      (applySteps.foldlM (fun builder step => step builder keyValuePairs) b) := by
  have hsteps : List.Forall₂ (Gives keyValuePairs) applySteps
      [only .maxBeaconSize (given keyValuePairs .maxBeaconSize),
        only .sendInterval (given keyValuePairs .sendInterval),
        only .isCapture (given keyValuePairs .isCapture),
        only .isCaptureCrashes (given keyValuePairs .isCaptureCrashes),
        only .isCaptureErrors (given keyValuePairs .isCaptureErrors),
        only .trafficControlPercentage (given keyValuePairs .trafficControlPercentage),
        only .serverId (given keyValuePairs .serverId),
        only .multiplicity (given keyValuePairs .multiplicity)] := by
    refine .cons (gives_applyEntry (i := 0) rfl fun b n => ?_)
      (.cons (gives_applyEntry (i := 1) rfl fun b n => ?_)
      (.cons (gives_applyEntry (i := 2) rfl fun b n => ?_)
      (.cons (gives_applyEntry (i := 3) rfl fun b n => ?_)
      (.cons (gives_applyEntry (i := 4) rfl fun b n => ?_)
      (.cons (gives_applyEntry (i := 5) rfl fun b n => ?_)
      (.cons (gives_applyEntry (i := 6) rfl fun b n => ?_)
      (.cons (gives_applyEntry (i := 7) rfl fun b n => ?_) .nil)))))))
    all_goals exact takes_only (fun k => by cases k <;> rfl) (isAttributeSet_setAttribute _ _)
  refine (ends_takes_foldlM hsteps b).mono (fun result htakes => ?_) fun _ he => he
  convert htakes using 1
  funext k
  cases k <;> simp [given, all, later, only, nothing]

/-- **Pairs** are read to the end, unless one of the values is no number. -/
theorem ends_apply (keyValuePairs : List (List UInt8 × List UInt8)) (b : ResponseAttributes) :
    Ends (Takes (given keyValuePairs) b) ResponseFault.IsNumberFault
      (applySteps.foldlM (fun builder step => step builder keyValuePairs) b) := by
  refine (ends_applySteps keyValuePairs b).mono (fun _ htakes => htakes) ?_
  rintro fault ⟨_, -, _, -, hnumber⟩
  exact isNumberFault_of_stoi hnumber

end KeyValueResponseParser

end OpenKit
