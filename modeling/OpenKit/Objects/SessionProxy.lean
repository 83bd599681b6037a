import OpenKit.Library.Heap
import OpenKit.Objects.SessionCalls
import OpenKit.Objects.SessionCreator

/-!
# Session proxies

The application holds a session by its proxy. The proxy forwards calls to its current session, and
replaces that session by a new one when a limit is reached or a crash is reported. The old session is
closed, or handed to the watchdog if it has open children. The proxy keeps a server configuration
of its own, of which it is told by a callback of the beacons of its sessions.

An operation of a proxy is a program on all objects of an OpenKit instance. It fails where the source
uses a pointer that is null.

## Main definitions

* `SessionProxy`: a proxy
* `OpenKitInstance`: all proxies and sessions, with the context, the watchdog and the records
* `SessionProxies.enterAction`, `reportCrash`, `endProxy`, `splitSessionByTime` and so on: the
  operations of a proxy
* `SessionProxies.executeWatchdog`: a round of the watchdog, which ends and splits sessions
* `SessionProxies.createSession`: `OpenKit::createSession`, which makes a proxy
-/

namespace OpenKit

open Thread

/-- A session proxy. -/
structure SessionProxy where
  sessionCreator : SessionCreator
  children : List SessionRef
  currentSession : Option SessionRef
  topLevelActionCount : ℤ
  lastInteractionTime : ℤ
  serverConfiguration : Option ServerConfigurationRef
  isFinished : Bool
  lastUserTag : UTF8String

/-- The constructor. -/
def SessionProxy.new (sessionCreator : SessionCreator) : SessionProxy where
  sessionCreator := sessionCreator
  children := []
  currentSession := none
  topLevelActionCount := 0
  lastInteractionTime := 0
  serverConfiguration := none
  isFinished := false
  lastUserTag := .nil

/-- What the watchdog keeps. -/
structure SessionWatchdogContext where
  sessionsToClose : List SessionRef
  sessionsToSplitByTimeout : List ProxyRef

/-- What the operations of proxies fail with: a null pointer, or an exception of a beacon. -/
inductive InstanceFault
  | nullServerConfiguration
  | nullCurrentSession
  | exception (error : BeaconError)
deriving DecidableEq, Repr

/-- What is remembered of the past of an instance: the sessions that its proxies created, the resets of
their creators, and the calls on their sessions. No operation reads it. -/
inductive InstanceEvent
  | created (p : ProxyRef) (k : SessionRef)
  | reset (p : ProxyRef)
  | forwarded (p : ProxyRef) (k : SessionRef) (call : SessionCall)
  | reTagged (p : ProxyRef) (k : SessionRef) (userTag : UTF8String)

/-- All objects of an OpenKit instance, the numbers of random draws and of readings of the clock, the
records handed to the cache, and the past. -/
structure OpenKitInstance where
  proxies : Heap SessionProxy
  sessions : Heap SessionObject
  context : BeaconSendingContext
  watchdog : SessionWatchdogContext
  sessionIDProvider : SessionIDProvider
  numDraws : ℕ
  numReads : ℕ
  records : List (SessionRef × BeaconRecord)
  events : List InstanceEvent

/-- What comes from outside: the configurations, the clock, the random numbers, and the data of each
beacon that stays the same. -/
structure InstanceEnvironment where
  openKitConfiguration : OpenKitConfiguration
  privacyConfiguration : PrivacyConfiguration
  clock : ℕ → ℕ
  random : ℕ → FixedPRNGenerator
  immutableBasicBeaconData : SessionRef → UTF8String

/-- Programs on an instance. -/
abbrev InstanceProgram (α : Type) : Type := Program InstanceFault OpenKitInstance α

namespace OpenKitInstance

def proxy (s : OpenKitInstance) (p : ProxyRef) : SessionProxy := s.proxies.get p

def session (s : OpenKitInstance) (k : SessionRef) : SessionObject := s.sessions.get k

def updateProxy (s : OpenKitInstance) (p : ProxyRef) (f : SessionProxy → SessionProxy) :
    OpenKitInstance :=
  { s with proxies := s.proxies.modify p f }

def updateSession (s : OpenKitInstance) (k : SessionRef) (f : SessionObject → SessionObject) :
    OpenKitInstance :=
  { s with sessions := s.sessions.modify k f }

def remember (s : OpenKitInstance) (event : InstanceEvent) : OpenKitInstance :=
  { s with events := s.events ++ [event] }

def dequeueFromClosing (s : OpenKitInstance) (k : SessionRef) : OpenKitInstance :=
  { s with
    watchdog := { s.watchdog with sessionsToClose := s.watchdog.sessionsToClose.erase k } }

/-- The parent of a session forgets the session, and so does the watchdog. -/
def onChildClosed (s : OpenKitInstance) (k : SessionRef) : OpenKitInstance :=
  (s.updateProxy (s.session k).parent fun proxy =>
    { proxy with children := proxy.children.erase k }).dequeueFromClosing k

/-- What a program on a session leaves. A session that it has ended tells its parent. -/
def afterReport (s : OpenKitInstance) (k : SessionRef) (r : Reporting) : OpenKitInstance :=
  let s' :=
    { s.updateSession k (·.setSession r.session) with
      numReads := r.numReads
      records := s.records ++ r.records.map fun record => (k, record) }
  if r.session.isSessionFinished && !(s.session k).session.isSessionFinished then
    s'.onChildClosed k
  else s'

/-- A proxy that is not finished is split by timeout. -/
def addToSplitByTimeout (s : OpenKitInstance) (p : ProxyRef) : OpenKitInstance :=
  if (s.proxy p).isFinished then s
  else
    { s with
      watchdog :=
        { s.watchdog with
          sessionsToSplitByTimeout := s.watchdog.sessionsToSplitByTimeout ++ [p] } }

def removeFromSplitByTimeout (s : OpenKitInstance) (p : ProxyRef) : OpenKitInstance :=
  { s with
    watchdog :=
      { s.watchdog with
        sessionsToSplitByTimeout := s.watchdog.sessionsToSplitByTimeout.erase p } }

/-- The proxy takes over the first configuration that it is told of, and merges later ones. -/
def onServerConfigurationUpdate (s : OpenKitInstance) (p : ProxyRef)
    (serverConfig : ServerConfigurationRef) : OpenKitInstance :=
  match (s.proxy p).serverConfiguration with
  | some serverConfiguration =>
    s.updateProxy p fun proxy =>
      { proxy with serverConfiguration := some (.made (serverConfiguration.get.merge serverConfig.get)) }
  | none =>
    let s := s.updateProxy p fun proxy => { proxy with serverConfiguration := some serverConfig }
    if (s.proxy p).isFinished then s
    else if serverConfig.get.isSessionSplitBySessionDurationEnabled ||
        serverConfig.get.isSessionSplitByIdleTimeoutEnabled then
      s.addToSplitByTimeout p
    else s

/-- The beacon of a session changes its configuration, and calls its callback if there is something
to tell. -/
def configure (s : OpenKitInstance) (k : SessionRef)
    (f : BeaconConfiguration → BeaconConfiguration × Option ServerConfigurationRef) :
    OpenKitInstance :=
  let result := f (s.session k).beaconConfiguration
  let s := s.updateSession k fun o => o.setSession (o.session.configure fun _ => result.1)
  match result.2 with
  | none => s
  | some serverConfig => s.onServerConfigurationUpdate (s.session k).parent serverConfig

section

variable {s : OpenKitInstance} {p : ProxyRef} {k : SessionRef}

@[simp] theorem proxy_updateProxy_self {f : SessionProxy → SessionProxy} :
    (s.updateProxy p f).proxy p = f (s.proxy p) := Heap.get_modify_self

@[simp] theorem session_updateSession_self {f : SessionObject → SessionObject} :
    (s.updateSession k f).session k = f (s.session k) := Heap.get_modify_self

@[simp] theorem proxy_remember (event : InstanceEvent) :
    (s.remember event).proxy p = s.proxy p := rfl

@[simp] theorem session_remember (event : InstanceEvent) :
    (s.remember event).session k = s.session k := rfl

theorem onServerConfigurationUpdate_of_some {c : ServerConfigurationRef}
    (h : (s.proxy p).serverConfiguration = some c) (serverConfig : ServerConfigurationRef) :
    s.onServerConfigurationUpdate p serverConfig = s.updateProxy p fun proxy =>
      { proxy with serverConfiguration := some (.made (c.get.merge serverConfig.get)) } := by
  rw [onServerConfigurationUpdate, h]

@[simp] theorem proxies_addToSplitByTimeout : (s.addToSplitByTimeout p).proxies = s.proxies := by
  rw [addToSplitByTimeout]
  split
  · rfl
  · rfl

theorem proxies_onServerConfigurationUpdate_of_none
    (h : (s.proxy p).serverConfiguration = none) (serverConfig : ServerConfigurationRef) :
    (s.onServerConfigurationUpdate p serverConfig).proxies = (s.updateProxy p fun proxy =>
      { proxy with serverConfiguration := some serverConfig }).proxies := by
  rw [onServerConfigurationUpdate, h]
  dsimp only
  split
  · rfl
  · split
    · exact proxies_addToSplitByTimeout
    · rfl

@[simp] theorem sessions_onServerConfigurationUpdate (serverConfig : ServerConfigurationRef) :
    (s.onServerConfigurationUpdate p serverConfig).sessions = s.sessions := by
  rw [onServerConfigurationUpdate]
  split
  · rfl
  · dsimp only
    split
    · rfl
    · split
      · rw [addToSplitByTimeout]
        split
        · rfl
        · rfl
      · rfl

section Configure

variable {f : BeaconConfiguration → BeaconConfiguration × Option ServerConfigurationRef}
  {c : BeaconConfiguration}

/-- A change that is not told to the proxy. -/
theorem configure_of_none (h : f (s.session k).beaconConfiguration = (c, none)) :
    s.configure k f = s.updateSession k fun o => o.setSession (o.session.configure fun _ => c) := by
  rw [configure, h]

/-- A change that is told to the proxy. -/
theorem configure_of_some {config : ServerConfigurationRef}
    (h : f (s.session k).beaconConfiguration = (c, some config)) :
    s.configure k f =
      (s.updateSession k fun o => o.setSession (o.session.configure fun _ => c)).onServerConfigurationUpdate
        (s.session k).parent config := by
  rw [configure, h]
  dsimp only
  rw [session_updateSession_self]
  rfl

/-- The session of which the configuration is changed. -/
theorem session_configure : (s.configure k f).session k = (s.session k).setSession
    ((s.session k).session.configure fun _ => (f (s.session k).beaconConfiguration).1) := by
  rcases h : f (s.session k).beaconConfiguration with ⟨c, _ | config⟩
  · rw [configure_of_none h, session_updateSession_self]
  · rw [configure_of_some h, session, sessions_onServerConfigurationUpdate]
    exact session_updateSession_self

end Configure

end

end OpenKitInstance

namespace SessionProxies

variable (env : InstanceEnvironment)

def provideTimestampInMilliseconds : InstanceProgram ℤ :=
  .atomic fun s => (env.clock s.numReads, { s with numReads := s.numReads + 1 })

/-- The next session id and random numbers. -/
def drawNumbers : InstanceProgram (ℤ × FixedPRNGenerator) :=
  .atomic fun s =>
    ((s.sessionIDProvider.getNextSessionID.1, env.random s.numDraws),
      { s with
        sessionIDProvider := s.sessionIDProvider.getNextSessionID.2
        numDraws := s.numDraws + 1 })

/-- Runs a program on a session. Its exceptions are passed on. -/
def onSession {α : Type} (k : SessionRef) (body : Reporter α) : InstanceProgram α := do
  let result ← Program.atomic fun s =>
    let r := body.run ⟨(s.session k).session, s.numReads, []⟩
    (r.1, s.afterReport k r.2)
  match result with
  | .ok a => return a
  | .error e => .fail (.exception e)

section Proxy

variable (p : ProxyRef)

/-- `mServerConfiguration`, where it is dereferenced. -/
def serverConfiguration : InstanceProgram ServerConfiguration := do
  match ← .read fun s => (s.proxy p).serverConfiguration with
  | none => .fail .nullServerConfiguration
  | some config => return config.get

/-- `mCurrentSession`, where it is dereferenced. -/
def currentSession : InstanceProgram SessionRef := do
  match ← .read fun s => (s.proxy p).currentSession with
  | none => .fail .nullCurrentSession
  | some k => return k

/-- Creates a session and makes it the current one. -/
def createAndAssignCurrentSession
    (initialServerConfig updatedServerConfig : Option ServerConfigurationRef) :
    InstanceProgram Unit := do
  let sessionStartTime ← provideTimestampInMilliseconds env
  let k ← Program.atomic fun s =>
    let creator := (s.proxy p).sessionCreator
    let s' :=
      { s.updateProxy p fun proxy =>
          { proxy with
            sessionCreator := creator.advance
            children := proxy.children ++ [s.sessions.size] } with
        sessions := s.sessions.alloc (creator.createSession p sessionStartTime
          (env.immutableBasicBeaconData s.sessions.size)) }
    (s.sessions.size, s'.remember (.created p s.sessions.size))
  Program.write fun s =>
    s.updateProxy p fun proxy =>
      { proxy with
        lastInteractionTime := (s.session k).session.beacon.sessionStartTime
        topLevelActionCount := 0 }
  Program.write fun s => s.configure k (·.initializeServerConfiguration initialServerConfig)
  Program.write fun s => s.configure k (·.updateServerConfiguration updatedServerConfig)
  Program.write fun s => s.updateProxy p fun proxy => { proxy with currentSession := some k }
  Program.write fun s => { s with context := s.context.addSession (s.session k).beaconKey }

/-- Forwards a call to a session. -/
def forwardTo (caller : Caller) (k : SessionRef) (call : SessionCall) : InstanceProgram Unit := do
  Program.write (·.remember (.forwarded p k call))
  onSession k (SessionCalls.perform caller call)

/-- Identifies the user of the current session by the last tag. -/
def reTagCurrentSession (caller : Caller) : InstanceProgram Unit := do
  let lastUserTag ← Program.read fun s => (s.proxy p).lastUserTag
  if lastUserTag.isEmpty then
    return ()
  else
    let k ← currentSession p
    Program.write (·.remember (.reTagged p k lastUserTag))
    onSession k (SessionCalls.perform caller (.identifyUser lastUserTag))

def createInitialSessionAndMakeCurrent : InstanceProgram Unit := do
  let lastServerConfiguration ← Program.read fun s => s.context.serverConfiguration
  createAndAssignCurrentSession env p (some lastServerConfiguration) none

def createSplitSessionAndMakeCurrent (caller : Caller)
    (updatedServerConfig : Option ServerConfigurationRef) : InstanceProgram Unit := do
  createAndAssignCurrentSession env p none updatedServerConfig
  reTagCurrentSession p caller

/-- Ends a session without children; another one is closed when its grace period is over. -/
def closeOrEnqueueForClosing (caller : Caller) (k : SessionRef) (closeGracePeriodInMillis : ℤ) :
    InstanceProgram Unit := do
  if ← onSession k (SessionCalls.tryEnd caller) then
    return ()
  else
    let now ← provideTimestampInMilliseconds env
    Program.write fun s =>
      { s.updateSession k fun o =>
          { o with splitByEventsGracePeriodEndTimeInMillis := now + closeGracePeriodInMillis } with
        watchdog :=
          { s.watchdog with sessionsToClose := s.watchdog.sessionsToClose ++ [k] } }

/-- The grace period is half of the idle timeout, or the send interval if there is none. -/
def closeOrEnqueueCurrentSessionForClosing (caller : Caller) : InstanceProgram Unit := do
  let config ← serverConfiguration p
  let closeGracePeriodInMillis :=
    if config.sessionTimeoutInMilliseconds > 0 then config.sessionTimeoutInMilliseconds / 2
    else config.sendIntervalInMilliseconds
  let k ← currentSession p
  closeOrEnqueueForClosing env caller k closeGracePeriodInMillis

/-- Starts over with a session of a new id. -/
def splitAndCreateNewInitialSession (caller : Caller) : InstanceProgram Unit := do
  closeOrEnqueueCurrentSessionForClosing env p caller
  let (sessionId, randomNumberGenerator) ← drawNumbers env
  Program.write fun s =>
    (s.updateProxy p fun proxy =>
      { proxy with
        sessionCreator := proxy.sessionCreator.reset sessionId randomNumberGenerator }).remember
      (.reset p)
  let config ← Program.read fun s => (s.proxy p).serverConfiguration
  createAndAssignCurrentSession env p config none
  reTagCurrentSession p caller

def isSessionSplitByEventsRequired : InstanceProgram Bool := do
  match ← .read fun s => (s.proxy p).serverConfiguration with
  | none => return false
  | some _ =>
    let config ← serverConfiguration p
    if !config.isSessionSplitByEventsEnabled then
      return false
    else
      .read fun s => config.maxEventsPerSession ≤ (s.proxy p).topLevelActionCount

def getOrSplitCurrentSessionByEvents (caller : Caller) : InstanceProgram SessionRef := do
  if ← isSessionSplitByEventsRequired p then
    closeOrEnqueueCurrentSessionForClosing env p caller
    let config ← Program.read fun s => (s.proxy p).serverConfiguration
    createSplitSessionAndMakeCurrent env p caller config
    currentSession p
  else
    currentSession p

def recordTopLevelEventInteraction : InstanceProgram Unit := do
  let now ← provideTimestampInMilliseconds env
  Program.write fun s => s.updateProxy p fun proxy => { proxy with lastInteractionTime := now }

def recordTopLevelActionEvent : InstanceProgram Unit := do
  Program.write fun s =>
    s.updateProxy p fun proxy =>
      { proxy with topLevelActionCount := proxy.topLevelActionCount + 1 }
  recordTopLevelEventInteraction env p

/-- What is done for a proxy that is not finished. -/
def whenUnfinished (body : InstanceProgram Unit) : InstanceProgram Unit := do
  if ← .read fun s => (s.proxy p).isFinished then return () else body

/-! ## The operations -/

def enterAction (caller : Caller) (name : UTF8String) : InstanceProgram Unit :=
  if name.isEmpty then return ()
  else
    whenUnfinished p do
      let k ← getOrSplitCurrentSessionByEvents env p caller
      let isActionReportingAllowed ← Program.read fun s =>
        (s.session k).beaconConfiguration.privacyConfiguration.isActionReportingAllowed
      (if isActionReportingAllowed then recordTopLevelActionEvent env p
        else recordTopLevelEventInteraction env p)
      forwardTo p caller k (.enterAction name)

/-- What the other calls that are forwarded to the current session have in common. -/
def forward (caller : Caller) (call : SessionCall) : InstanceProgram Unit := do
  let k ← getOrSplitCurrentSessionByEvents env p caller
  recordTopLevelEventInteraction env p
  forwardTo p caller k call

def identifyUser (caller : Caller) (userTag : UTF8String) : InstanceProgram Unit :=
  whenUnfinished p do
    forward env p caller (.identifyUser userTag)
    Program.write fun s => s.updateProxy p fun proxy => { proxy with lastUserTag := userTag }

def reportCrash (caller : Caller) (errorName reason stacktrace : UTF8String) :
    InstanceProgram Unit :=
  if errorName.isEmpty then return ()
  else
    whenUnfinished p do
      forward env p caller (.reportCrash errorName reason stacktrace)
      splitAndCreateNewInitialSession env p caller

def traceWebRequest (caller : Caller) (url : UTF8String) : InstanceProgram Unit :=
  if url.isEmpty then return ()
  else whenUnfinished p (forward env p caller (.traceWebRequest url))

def sendEvent (caller : Caller) (name : UTF8String) (jsonPayload : List UInt8) : InstanceProgram Unit :=
  if name.isEmpty then return ()
  else whenUnfinished p (forward env p caller (.sendEvent name jsonPayload))

def sendBizEvent (caller : Caller) (type : UTF8String) (jsonPayload : List UInt8) : InstanceProgram Unit :=
  if type.isEmpty then return ()
  else whenUnfinished p (forward env p caller (.sendBizEvent type jsonPayload))

/-- Ends some sessions; the event of the end is sent for the current one only. -/
def endSessions (caller : Caller) : List SessionRef → InstanceProgram Unit
  | [] => return ()
  | k :: ks => do
    let current ← Program.read fun s => (s.proxy p).currentSession
    onSession k (SessionCalls.endWith caller (some k == current))
    endSessions caller ks

/-- `SessionProxy::end`. -/
def endProxy (caller : Caller) : InstanceProgram Unit :=
  whenUnfinished p do
    Program.write fun s => s.updateProxy p fun proxy => { proxy with isFinished := true }
    let children ← Program.read fun s => (s.proxy p).children
    endSessions p caller children
    Program.write (·.removeFromSplitByTimeout p)
    Program.write fun s => s.updateProxy p fun proxy => { proxy with currentSession := none }

def calculateNextSplitTime : InstanceProgram ℤ := do
  match ← .read fun s => (s.proxy p).serverConfiguration with
  | none => return -1
  | some _ =>
    let config ← serverConfiguration p
    let lastInteractionTime ← Program.read fun s => (s.proxy p).lastInteractionTime
    let k ← currentSession p
    let sessionStartTime ← Program.read fun s => (s.session k).session.beacon.sessionStartTime
    let idleTimeout := lastInteractionTime + config.sessionTimeoutInMilliseconds
    let sessionMaxTime := sessionStartTime + config.maxSessionDurationInMilliseconds
    if config.isSessionSplitByIdleTimeoutEnabled then
      if config.isSessionSplitBySessionDurationEnabled then
        return min idleTimeout sessionMaxTime
      else
        return idleTimeout
    else if config.isSessionSplitBySessionDurationEnabled then
      return sessionMaxTime
    else
      return -1

def splitSessionByTime (caller : Caller) : InstanceProgram ℤ := do
  if ← .read fun s => (s.proxy p).isFinished then
    return -1
  else
    let nextSplitTime ← calculateNextSplitTime p
    let now ← provideTimestampInMilliseconds env
    if nextSplitTime < 0 ∨ now < nextSplitTime then
      return nextSplitTime
    else
      splitAndCreateNewInitialSession env p caller
      calculateNextSplitTime p

end Proxy

/-- What the watchdog does with a session whose grace period is over. -/
def closeExpiredSession (caller : Caller) (k : SessionRef) : InstanceProgram Unit := do
  Program.write (·.dequeueFromClosing k)
  onSession k (SessionCalls.endWith caller false)

/-! ## The watchdog -/

/-- `DEFAULT_SLEEP_TIME_MILLISECONDS`. -/
def defaultSleepTimeMilliseconds : ℤ := 5000

/-- A round of the first iteration of `closeExpiredSessions`: the sessions that can be closed, and the
sleep time. -/
def checkGracePeriod (found : List SessionRef × ℤ) (k : SessionRef) :
    InstanceProgram (List SessionRef × ℤ) := do
  let nowInMillis ← provideTimestampInMilliseconds env
  let gracePeriodEndTimeInMillis ← Program.read fun s =>
    (s.session k).splitByEventsGracePeriodEndTimeInMillis
  if gracePeriodEndTimeInMillis ≤ nowInMillis then
    return (found.1 ++ [k], found.2)
  else
    return (found.1, min found.2 (gracePeriodEndTimeInMillis - nowInMillis))

def closeExpiredSessions (caller : Caller) : InstanceProgram ℤ := do
  let allSessions ← Program.read fun s => s.watchdog.sessionsToClose
  let (closableSessions, sleepTimeInMillis) ←
    allSessions.foldlM (checkGracePeriod env) ([], defaultSleepTimeMilliseconds)
  closableSessions.forM (closeExpiredSession caller)
  return sleepTimeInMillis

/-- A round of the first iteration of `splitTimedOutSessions`: the proxies that can be removed, and the
sleep time. -/
def splitTimedOutSession (caller : Caller) (found : List ProxyRef × ℤ) (p : ProxyRef) :
    InstanceProgram (List ProxyRef × ℤ) := do
  let nextSessionSplitInMillis ← splitSessionByTime env p caller
  if nextSessionSplitInMillis < 0 then
    return (found.1 ++ [p], found.2)
  else
    let nowInMillis ← provideTimestampInMilliseconds env
    let durationToNextSplit := nextSessionSplitInMillis - nowInMillis
    if durationToNextSplit < 0 then
      return found
    else
      return (found.1, min found.2 durationToNextSplit)

def splitTimedOutSessions (caller : Caller) : InstanceProgram ℤ := do
  let allSessionProxies ← Program.read fun s => s.watchdog.sessionsToSplitByTimeout
  let (sessionProxiesToRemove, sleepTimeInMillis) ←
    allSessionProxies.foldlM (splitTimedOutSession env caller) ([], defaultSleepTimeMilliseconds)
  sessionProxiesToRemove.forM fun p => Program.write (·.removeFromSplitByTimeout p)
  return sleepTimeInMillis

/-- `SessionWatchdogContext::execute`, with the time that it sleeps then. -/
def executeWatchdog (caller : Caller) : InstanceProgram ℤ := do
  let durationToNextCloseInMillis ← closeExpiredSessions env caller
  let durationToNextSplitInMillis ← splitTimedOutSessions env caller
  return min durationToNextCloseInMillis durationToNextSplitInMillis

/-! ## New proxies -/

/-- `OpenKit::createSession`: a new proxy, with its first session. -/
def createSession : InstanceProgram Unit := do
  let serverId ← Program.read fun s => s.context.httpClientConfiguration.serverID
  let (sessionId, randomNumberGenerator) ← drawNumbers env
  let p ← Program.atomic fun s =>
    (s.proxies.size,
      { s with
        proxies := s.proxies.alloc (.new (.new env.openKitConfiguration env.privacyConfiguration
          serverId sessionId randomNumberGenerator)) })
  createInitialSessionAndMakeCurrent env p

end SessionProxies

end OpenKit
