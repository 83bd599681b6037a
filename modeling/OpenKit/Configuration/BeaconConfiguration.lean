import OpenKit.Configuration.ServerConfiguration

/-!
# Beacon configurations

Each beacon keeps its own server configuration, which starts out missing and reads as the default
until then. It is initialised from the last configuration of the context, updated by the first
response to a new-session request, and its capture flag is turned on or off by the sender. The
privacy configuration is fixed.

## Main definitions

* `PrivacyConfiguration`: what the user has opted in to
* `BeaconConfiguration`: the configurations of one beacon
* `BeaconConfiguration.initializeServerConfiguration`, `updateServerConfiguration`,
  `enableCapture`, `disableCapture`
* `BeaconConfiguration.Evolves`: what every change of a configuration keeps

## Main results

* `evolves_initializeServerConfiguration`, `evolves_updateServerConfiguration`: the changes are such
-/

namespace OpenKit

inductive DataCollectionLevel
  | off
  | performance
  | userBehavior
deriving DecidableEq, Repr

inductive CrashReportingLevel
  | off
  | optOutCrashes
  | optInCrashes
deriving DecidableEq, Repr

structure PrivacyConfiguration where
  dataCollectionLevel : DataCollectionLevel
  crashReportingLevel : CrashReportingLevel
deriving DecidableEq, Repr

namespace PrivacyConfiguration

def isDeviceIdSendingAllowed (p : PrivacyConfiguration) : Bool :=
  p.dataCollectionLevel == .userBehavior

def isSessionNumberReportingAllowed (p : PrivacyConfiguration) : Bool :=
  p.dataCollectionLevel == .userBehavior

def isWebRequestTracingAllowed (p : PrivacyConfiguration) : Bool := p.dataCollectionLevel != .off

def isSessionReportingAllowed (p : PrivacyConfiguration) : Bool := p.dataCollectionLevel != .off

def isActionReportingAllowed (p : PrivacyConfiguration) : Bool := p.dataCollectionLevel != .off

def isValueReportingAllowed (p : PrivacyConfiguration) : Bool :=
  p.dataCollectionLevel == .userBehavior

def isEventReportingAllowed (p : PrivacyConfiguration) : Bool :=
  p.dataCollectionLevel == .userBehavior

def isErrorReportingAllowed (p : PrivacyConfiguration) : Bool := p.dataCollectionLevel != .off

def isCrashReportingAllowed (p : PrivacyConfiguration) : Bool :=
  p.crashReportingLevel == .optInCrashes

def isUserIdentificationAllowed (p : PrivacyConfiguration) : Bool :=
  p.dataCollectionLevel == .userBehavior

end PrivacyConfiguration

/-- The configuration of a beacon. The callback it may have for updates belongs to the session
proxy; the operations below return what they call it with. -/
structure BeaconConfiguration where
  privacyConfiguration : PrivacyConfiguration
  serverConfiguration : Option ServerConfigurationRef
  isServerConfigurationSet : Bool
deriving DecidableEq, Repr

namespace BeaconConfiguration

/-- The constructor. -/
def new (privacyConfiguration : PrivacyConfiguration) : BeaconConfiguration :=
  ⟨privacyConfiguration, none, false⟩

def getServerConfigurationOrDefault (c : BeaconConfiguration) : ServerConfigurationRef :=
  c.serverConfiguration.getD .defaultInstance

def getServerConfiguration (c : BeaconConfiguration) : ServerConfiguration :=
  c.getServerConfigurationOrDefault.get

/-- The configuration after the initialisation, and what the update callback is called with. The
default instance is ignored. -/
def initializeServerConfiguration (c : BeaconConfiguration)
    (initialServerConfiguration : Option ServerConfigurationRef) :
    BeaconConfiguration × Option ServerConfigurationRef :=
  match initialServerConfiguration with
  | none => (c, none)
  | some .defaultInstance => (c, none)
  | some (.made config) =>
    if c.isServerConfigurationSet then (c, none)
    else ({ c with serverConfiguration := some (.made config) }, some (.made config))

/-- The configuration after an update, and what the update callback is called with. -/
def updateServerConfiguration (c : BeaconConfiguration)
    (newServerConfiguration : Option ServerConfigurationRef) :
    BeaconConfiguration × Option ServerConfigurationRef :=
  match newServerConfiguration with
  | none => (c, none)
  | some config =>
    let config := if c.isServerConfigurationSet then
        .made (c.getServerConfiguration.merge config.get)
      else config
    ({ c with serverConfiguration := some config, isServerConfigurationSet := true }, some config)

def updateCaptureWith (c : BeaconConfiguration) (captureState : Bool) : BeaconConfiguration :=
  { c with
    serverConfiguration :=
      some (.made (c.getServerConfiguration.builder.withCapture captureState))
    isServerConfigurationSet := true }

def enableCapture (c : BeaconConfiguration) : BeaconConfiguration := c.updateCaptureWith true

def disableCapture (c : BeaconConfiguration) : BeaconConfiguration := c.updateCaptureWith false

/-- What every change of a configuration keeps: the consent of the user, and once the configuration
has been set, what a session keeps for its whole life. -/
structure Evolves (c c' : BeaconConfiguration) : Prop where
  privacyConfiguration : c'.privacyConfiguration = c.privacyConfiguration
  isServerConfigurationSet : c.isServerConfigurationSet = true → c'.isServerConfigurationSet = true
  sameForLife : c.isServerConfigurationSet = true →
    c.getServerConfiguration.SameForLife c'.getServerConfiguration

namespace Evolves

variable {c c' c'' : BeaconConfiguration}

theorem refl (c : BeaconConfiguration) : Evolves c c := ⟨rfl, id, fun _ => .refl _⟩

theorem trans (h : Evolves c c') (h' : Evolves c' c'') : Evolves c c'' where
  privacyConfiguration := h'.privacyConfiguration.trans h.privacyConfiguration
  isServerConfigurationSet := fun hset => h'.isServerConfigurationSet (h.isServerConfigurationSet hset)
  sameForLife := fun hset =>
    (h.sameForLife hset).trans (h'.sameForLife (h.isServerConfigurationSet hset))

/-- Before the configuration is set, anything may become of it. -/
theorem of_unset (h : c.isServerConfigurationSet = false)
    (hprivacy : c'.privacyConfiguration = c.privacyConfiguration) : Evolves c c' :=
  ⟨hprivacy, fun hset => absurd (h.symm.trans hset) Bool.false_ne_true,
    fun hset => absurd (h.symm.trans hset) Bool.false_ne_true⟩

end Evolves

theorem isServerConfigurationSet_initializeServerConfiguration (c : BeaconConfiguration)
    (initialServerConfiguration : Option ServerConfigurationRef) :
    (c.initializeServerConfiguration initialServerConfiguration).1.isServerConfigurationSet =
      c.isServerConfigurationSet := by
  rcases initialServerConfiguration with _ | _ | config
  · rfl
  · rfl
  · rw [initializeServerConfiguration]
    split
    · rfl
    · rfl

theorem evolves_initializeServerConfiguration (c : BeaconConfiguration)
    (initialServerConfiguration : Option ServerConfigurationRef) :
    c.Evolves (c.initializeServerConfiguration initialServerConfiguration).1 := by
  rcases initialServerConfiguration with _ | _ | config
  · exact .refl c
  · exact .refl c
  · rw [initializeServerConfiguration]
    split
    next => exact .refl c
    next hunset => exact .of_unset (by simpa using hunset) rfl

/-- The first configuration is taken over as it is. -/
theorem updateServerConfiguration_of_unset {c : BeaconConfiguration}
    (h : c.isServerConfigurationSet = false) (config : ServerConfigurationRef) :
    c.updateServerConfiguration (some config) =
      ({ c with serverConfiguration := some config, isServerConfigurationSet := true },
        some config) := by
  rw [updateServerConfiguration, h, if_neg Bool.false_ne_true]

theorem evolves_updateServerConfiguration (c : BeaconConfiguration)
    (newServerConfiguration : Option ServerConfigurationRef) :
    c.Evolves (c.updateServerConfiguration newServerConfiguration).1 := by
  rcases newServerConfiguration with _ | config
  · exact .refl c
  · cases hset : c.isServerConfigurationSet with
    | false => exact .of_unset hset rfl
    | true =>
      refine ⟨rfl, fun _ => rfl, fun _ => ?_⟩
      rw [updateServerConfiguration, hset, if_pos rfl]
      exact c.getServerConfiguration.sameForLife_merge config.get

end BeaconConfiguration

end OpenKit
