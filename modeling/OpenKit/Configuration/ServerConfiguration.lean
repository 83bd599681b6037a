import OpenKit.Protocol.ResponseAttributes

/-!
# Server configurations

What the server has configured, as the context of the sender keeps it and as each beacon keeps its
own copy of it. One instance, the default, is recognised by its address; every other
configuration is an object of its own.

## Main definitions

* `ServerConfiguration`: the configuration; `ServerConfiguration.ofAttributes`, `merge`
* `ServerConfigurationRef`: a pointer to a configuration, which may be that of the default instance
* `ServerConfiguration.SameForLife`: what merging does not take over

## Main results

* `ServerConfiguration.sameForLife_merge`: a merged configuration is the same for life
-/

namespace OpenKit

/-- A configuration by the server. -/
structure ServerConfiguration where
  captureEnabled : Bool
  crashReportingEnabled : Bool
  errorReportingEnabled : Bool
  serverId : ℤ
  beaconSizeInBytes : ℤ
  multiplicity : ℤ
  sendIntervalInMilliseconds : ℤ
  maxSessionDurationInMilliseconds : ℤ
  sessionSplitBySessionDurationEnabled : Bool
  maxEventsPerSession : ℤ
  sessionSplitByEventsEnabled : Bool
  sessionTimeoutInMilliseconds : ℤ
  sessionSplitByIdleTimeoutEnabled : Bool
  visitStoreVersion : ℤ
  trafficControlPercentage : ℤ
deriving DecidableEq, Repr

namespace ServerConfiguration

/-- The builder from response attributes. -/
def ofAttributes (a : ResponseAttributes) : ServerConfiguration where
  captureEnabled := a.isCapture
  crashReportingEnabled := a.isCaptureCrashes
  errorReportingEnabled := a.isCaptureErrors
  serverId := a.serverId
  beaconSizeInBytes := a.maxBeaconSizeInBytes
  multiplicity := a.multiplicity
  sendIntervalInMilliseconds := a.sendIntervalInMilliseconds
  maxSessionDurationInMilliseconds := a.maxSessionDurationInMilliseconds
  sessionSplitBySessionDurationEnabled := a.isAttributeSet .maxSessionDuration
  maxEventsPerSession := a.maxEventsPerSession
  sessionSplitByEventsEnabled := a.isAttributeSet .maxEventsPerSession
  sessionTimeoutInMilliseconds := a.sessionTimeoutInMilliseconds
  sessionSplitByIdleTimeoutEnabled := a.isAttributeSet .sessionIdleTimeout
  visitStoreVersion := a.visitStoreVersion
  trafficControlPercentage := a.trafficControlPercentage

def isCaptureEnabled (c : ServerConfiguration) : Bool := c.captureEnabled

def isSessionSplitBySessionDurationEnabled (c : ServerConfiguration) : Bool :=
  c.sessionSplitBySessionDurationEnabled && c.maxSessionDurationInMilliseconds > 0

def isSessionSplitByEventsEnabled (c : ServerConfiguration) : Bool :=
  c.sessionSplitByEventsEnabled && c.maxEventsPerSession > 0

def isSessionSplitByIdleTimeoutEnabled (c : ServerConfiguration) : Bool :=
  c.sessionSplitByIdleTimeoutEnabled && c.sessionTimeoutInMilliseconds > 0

def isSendingDataAllowed (c : ServerConfiguration) : Bool :=
  c.isCaptureEnabled && c.multiplicity > 0

def isSendingCrashesAllowed (c : ServerConfiguration) : Bool :=
  c.crashReportingEnabled && c.isSendingDataAllowed

def isSendingErrorsAllowed (c : ServerConfiguration) : Bool :=
  c.errorReportingEnabled && c.isSendingDataAllowed

/-- The builder from a configuration, whose splitting flags are read through their accessors. -/
def builder (c : ServerConfiguration) : ServerConfiguration :=
  { c with
    sessionSplitBySessionDurationEnabled := c.isSessionSplitBySessionDurationEnabled
    sessionSplitByEventsEnabled := c.isSessionSplitByEventsEnabled
    sessionSplitByIdleTimeoutEnabled := c.isSessionSplitByIdleTimeoutEnabled }

def withCapture (c : ServerConfiguration) (capture : Bool) : ServerConfiguration :=
  { c with captureEnabled := capture }

/-- Takes everything from `other` but what a session keeps for its whole life. -/
def merge (c other : ServerConfiguration) : ServerConfiguration :=
  { other.builder with
    multiplicity := c.multiplicity
    serverId := c.serverId
    maxSessionDurationInMilliseconds := c.maxSessionDurationInMilliseconds
    sessionSplitBySessionDurationEnabled := c.isSessionSplitBySessionDurationEnabled
    maxEventsPerSession := c.maxEventsPerSession
    sessionSplitByEventsEnabled := c.isSessionSplitByEventsEnabled
    sessionTimeoutInMilliseconds := c.sessionTimeoutInMilliseconds
    sessionSplitByIdleTimeoutEnabled := c.isSessionSplitByIdleTimeoutEnabled
    visitStoreVersion := c.visitStoreVersion
    trafficControlPercentage := c.trafficControlPercentage }

/-- Two configurations that agree in what a session keeps for its whole life. -/
structure SameForLife (c c' : ServerConfiguration) : Prop where
  multiplicity : c'.multiplicity = c.multiplicity
  serverId : c'.serverId = c.serverId
  maxSessionDurationInMilliseconds :
    c'.maxSessionDurationInMilliseconds = c.maxSessionDurationInMilliseconds
  isSessionSplitBySessionDurationEnabled :
    c'.isSessionSplitBySessionDurationEnabled = c.isSessionSplitBySessionDurationEnabled
  maxEventsPerSession : c'.maxEventsPerSession = c.maxEventsPerSession
  isSessionSplitByEventsEnabled :
    c'.isSessionSplitByEventsEnabled = c.isSessionSplitByEventsEnabled
  sessionTimeoutInMilliseconds : c'.sessionTimeoutInMilliseconds = c.sessionTimeoutInMilliseconds
  isSessionSplitByIdleTimeoutEnabled :
    c'.isSessionSplitByIdleTimeoutEnabled = c.isSessionSplitByIdleTimeoutEnabled
  visitStoreVersion : c'.visitStoreVersion = c.visitStoreVersion
  trafficControlPercentage : c'.trafficControlPercentage = c.trafficControlPercentage

namespace SameForLife

variable {c c' c'' : ServerConfiguration}

theorem refl (c : ServerConfiguration) : SameForLife c c :=
  ⟨rfl, rfl, rfl, rfl, rfl, rfl, rfl, rfl, rfl, rfl⟩

theorem trans (h : SameForLife c c') (h' : SameForLife c' c'') : SameForLife c c'' where
  multiplicity := h'.multiplicity.trans h.multiplicity
  serverId := h'.serverId.trans h.serverId
  maxSessionDurationInMilliseconds :=
    h'.maxSessionDurationInMilliseconds.trans h.maxSessionDurationInMilliseconds
  isSessionSplitBySessionDurationEnabled :=
    h'.isSessionSplitBySessionDurationEnabled.trans h.isSessionSplitBySessionDurationEnabled
  maxEventsPerSession := h'.maxEventsPerSession.trans h.maxEventsPerSession
  isSessionSplitByEventsEnabled :=
    h'.isSessionSplitByEventsEnabled.trans h.isSessionSplitByEventsEnabled
  sessionTimeoutInMilliseconds :=
    h'.sessionTimeoutInMilliseconds.trans h.sessionTimeoutInMilliseconds
  isSessionSplitByIdleTimeoutEnabled :=
    h'.isSessionSplitByIdleTimeoutEnabled.trans h.isSessionSplitByIdleTimeoutEnabled
  visitStoreVersion := h'.visitStoreVersion.trans h.visitStoreVersion
  trafficControlPercentage := h'.trafficControlPercentage.trans h.trafficControlPercentage

end SameForLife

/-- **Merging** takes over nothing of what a session keeps for its whole life. -/
theorem sameForLife_merge (c other : ServerConfiguration) : c.SameForLife (c.merge other) where
  multiplicity := rfl
  serverId := rfl
  maxSessionDurationInMilliseconds := rfl
  isSessionSplitBySessionDurationEnabled := by
    simp [merge, isSessionSplitBySessionDurationEnabled]
  maxEventsPerSession := rfl
  isSessionSplitByEventsEnabled := by
    simp [merge, isSessionSplitByEventsEnabled]
  sessionTimeoutInMilliseconds := rfl
  isSessionSplitByIdleTimeoutEnabled := by
    simp [merge, isSessionSplitByIdleTimeoutEnabled]
  visitStoreVersion := rfl
  trafficControlPercentage := rfl

end ServerConfiguration

/-- A pointer to a configuration: to the default instance, or to one made from a response or from
another configuration. -/
inductive ServerConfigurationRef
  | defaultInstance
  | made (c : ServerConfiguration)
deriving DecidableEq, Repr

namespace ServerConfigurationRef

/-- The configuration pointed to. -/
def get : ServerConfigurationRef → ServerConfiguration
  | defaultInstance => .ofAttributes .undefined
  | made c => c

/-- `ServerConfiguration::from`. -/
def ofAttributes (a : ResponseAttributes) : ServerConfigurationRef := made (.ofAttributes a)

end ServerConfigurationRef

end OpenKit
