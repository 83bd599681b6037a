import OpenKit.Communication.ContextCalls
import OpenKit.Objects.SessionProxy

/-!
# The runs of an instance

The application creates proxies, calls them, and calls the actions and web requests of their sessions.
The watchdog splits proxies by time and ends sessions whose grace period is over. The sender hands
responses to the context, and configures the sessions that have no configuration yet. A run is any
sequence of these calls; each is taken as one step.

## Main definitions

* `ProxyCall`: the calls on a proxy
* `InstanceCall`: the calls on an instance, by the application, the watchdog and the sender
* `InstanceCall.perform`: what a call does
* `OpenKitInstance.afterCalls`: the instance after some calls
-/

namespace OpenKit

open Thread BeaconSendingResponseUtil

/-- The calls on a proxy, the last of them by the watchdog. Texts are given as the code has
converted them. -/
inductive ProxyCall
  | enterAction (name : UTF8String)
  | identifyUser (userTag : UTF8String)
  | reportCrash (errorName reason stacktrace : UTF8String)
  | traceWebRequest (url : UTF8String)
  | sendEvent (name : UTF8String) (jsonPayload : List UInt8)
  | sendBizEvent (type : UTF8String) (jsonPayload : List UInt8)
  | close
  | splitSessionByTime

/-- The calls on an instance. -/
inductive InstanceCall
  | createSession
  | onProxy (p : ProxyRef) (threadID : ℤ) (call : ProxyCall)
  | onObject (k : SessionRef) (threadID handle : ℤ) (call : ObjectCall)
  | closeExpiredSession (k : SessionRef) (threadID : ℤ)
  | executeWatchdog (threadID : ℤ)
  | requestNewSession (k : SessionRef) (statusResponse : Option Answer)
  | enableCapture (k : SessionRef)
  | endSession (k : SessionRef) (threadID : ℤ)
  | onContext (call : ContextCall)

namespace OpenKitInstance

/-- Nothing has been created yet. -/
def new (httpClientConfiguration : HTTPClientConfiguration) (sessionIDProvider : SessionIDProvider)
    (env : InstanceEnvironment) : OpenKitInstance where
  proxies := .empty (.new (.new env.openKitConfiguration env.privacyConfiguration 0 0 (env.random 0)))
  sessions := .empty (SessionCreator.createSession
    (.new env.openKitConfiguration env.privacyConfiguration 0 0 (env.random 0)) 0 0 .nil)
  context := .new httpClientConfiguration
  watchdog := ⟨[], []⟩
  sessionIDProvider := sessionIDProvider
  numDraws := 0
  numReads := 0
  records := []
  events := []

/-- The turn of a session in `sendNewSessionRequests`, with the answer to its request. The loop goes
over the sessions without a configuration. -/
def requestNewSession (s : OpenKitInstance) (k : SessionRef) (statusResponse : Option Answer) :
    OpenKitInstance :=
  if (s.session k).session.isConfigured then s
  else if !(s.session k).session.canSendNewSessionRequest then
    s.updateSession k fun o => o.setSession o.session.disableCapture
  else if isSuccessfulResponse statusResponse then
    { s with context := (s.context.updateFrom statusResponse).2 }.configure k
      (·.updateServerConfiguration (some (.ofAttributes (s.context.updateFrom statusResponse).1)))
  else if isTooManyRequestsResponse statusResponse then s
  else s.updateSession k fun o => o.setSession o.session.decreaseNumRemainingSessionRequests

/-- The turn of a session in the flushing state: capturing is enabled if it has no configuration. -/
def enableCapture (s : OpenKitInstance) (k : SessionRef) : OpenKitInstance :=
  if (s.session k).session.isConfigured then s
  else s.updateSession k fun o => o.setSession o.session.enableCapture

end OpenKitInstance

namespace ProxyCall

open SessionProxies

variable (env : InstanceEnvironment) (p : ProxyRef) (caller : Caller)

/-- What a call on a proxy does. -/
def perform : ProxyCall → InstanceProgram Unit
  | enterAction name => SessionProxies.enterAction env p caller name
  | identifyUser userTag => SessionProxies.identifyUser env p caller userTag
  | reportCrash errorName reason stacktrace =>
    SessionProxies.reportCrash env p caller errorName reason stacktrace
  | traceWebRequest url => SessionProxies.traceWebRequest env p caller url
  | sendEvent name jsonPayload => SessionProxies.sendEvent env p caller name jsonPayload
  | sendBizEvent type jsonPayload => SessionProxies.sendBizEvent env p caller type jsonPayload
  | close => endProxy p caller
  | splitSessionByTime => do
    let _ ← SessionProxies.splitSessionByTime env p caller
    return ()

end ProxyCall

namespace InstanceCall

open SessionProxies

/-- The objects that a call names, or that the watchdog goes over, have been made. -/
def isValid (s : OpenKitInstance) : InstanceCall → Bool
  | createSession => true
  | onProxy p _ _ => p < s.proxies.size
  | onObject k _ _ _ => k < s.sessions.size
  | closeExpiredSession k _ => k < s.sessions.size
  | executeWatchdog _ => s.watchdog.sessionsToClose.all (· < s.sessions.size) &&
      s.watchdog.sessionsToSplitByTimeout.all (· < s.proxies.size)
  | requestNewSession k _ => k < s.sessions.size
  | enableCapture k => k < s.sessions.size
  | endSession k _ => k < s.sessions.size
  | onContext _ => true

variable (env : InstanceEnvironment)

/-- What a call on objects that have been made does. -/
def body : InstanceCall → InstanceProgram Unit
  | createSession => SessionProxies.createSession env
  | onProxy p threadID call => call.perform env p ⟨threadID, env.clock⟩
  | onObject k threadID handle call =>
    onSession k (SessionCalls.perform ⟨threadID, env.clock⟩ (.onObject handle call))
  | closeExpiredSession k threadID => SessionProxies.closeExpiredSession ⟨threadID, env.clock⟩ k
  | executeWatchdog threadID => do
    let _ ← SessionProxies.executeWatchdog env ⟨threadID, env.clock⟩
    return ()
  | requestNewSession k statusResponse => .write (·.requestNewSession k statusResponse)
  | enableCapture k => .write (·.enableCapture k)
  | endSession k threadID => onSession k (SessionCalls.endWith ⟨threadID, env.clock⟩ false)
  | onContext call => .write fun s => { s with context := s.context.configured call }

/-- What a call does: nothing, if it names an object that has not been made. -/
def perform (call : InstanceCall) : InstanceProgram Unit := do
  if ← .read call.isValid then call.body env else return ()

end InstanceCall

/-- An environment in which the user has opted in to everything, and neither time nor chance matters. -/
def InstanceEnvironment.plain : InstanceEnvironment where
  openKitConfiguration := ⟨.nil, 1⟩
  privacyConfiguration := ⟨.userBehavior, .optInCrashes⟩
  clock := fun _ => 0
  random := fun _ => ⟨0, 0⟩
  immutableBasicBeaconData := fun _ => .nil

namespace OpenKitInstance

variable (env : InstanceEnvironment)

/-- The outcome of a call: it returns, or fails. -/
def outcome (s : OpenKitInstance) (call : InstanceCall) : Except InstanceFault Unit :=
  ((call.perform env).run s).1

/-- The instance after a call. -/
def afterCall (s : OpenKitInstance) (call : InstanceCall) : OpenKitInstance :=
  ((call.perform env).run s).2

/-- The instance after some calls. -/
def afterCalls (s : OpenKitInstance) (calls : List InstanceCall) : OpenKitInstance :=
  calls.foldl (afterCall env) s

variable {env} {s : OpenKitInstance}

@[simp] theorem afterCalls_nil : s.afterCalls env [] = s := rfl

theorem afterCalls_append (calls calls' : List InstanceCall) :
    s.afterCalls env (calls ++ calls') = (s.afterCalls env calls).afterCalls env calls' :=
  List.foldl_append

theorem afterCalls_concat (calls : List InstanceCall) (call : InstanceCall) :
    s.afterCalls env (calls ++ [call]) = (s.afterCalls env calls).afterCall env call :=
  afterCalls_append calls [call]

/-- A call on objects that have been made. -/
theorem run_perform_of_isValid {call : InstanceCall} (h : call.isValid s = true) :
    (call.perform env).run s = (call.body env).run s := by
  rw [InstanceCall.perform, Program.run_bind_ok (Program.run_read _ s), if_pos h]

theorem run_perform_of_not_isValid {call : InstanceCall} (h : ¬ call.isValid s = true) :
    (call.perform env).run s = (.ok (), s) := by
  rw [InstanceCall.perform, Program.run_bind_ok (Program.run_read _ s), if_neg h]
  rfl

end OpenKitInstance

end OpenKit
