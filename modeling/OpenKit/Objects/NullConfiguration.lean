import OpenKit.Objects.InstanceRuns

/-!
# Null server configurations

A proxy has no server configuration until the beacon of one of its sessions has been given one that is
not the default. The operations that split a session by events or by time ask for the configuration
first. The split after a crash does not.

## Main definitions

* `NeverNull`: no call of a run uses a null server configuration

## Main results

* `run_reportCrash`: what a crash does to a proxy without a configuration
* `neverNull_iff`: a run never uses a null configuration exactly if no crash is reported for a proxy that
  has none
-/

namespace OpenKit

open Thread

namespace OpenKitInstance

/-- A report changes the server configuration of no proxy. -/
theorem serverConfiguration_afterReport (s : OpenKitInstance) (k : SessionRef) (r : Reporting)
    (p : ProxyRef) :
    ((s.afterReport k r).proxy p).serverConfiguration = (s.proxy p).serverConfiguration := by
  rw [afterReport]
  split
  · let Same (a b : SessionProxy) : Prop := b.serverConfiguration = a.serverConfiguration
    exact Heap.get_modify_of_forall (h := s.proxies) (P := Same)
      (f := fun proxy => { proxy with children := proxy.children.erase k }) (fun _ => rfl) rfl p
  · rfl

end OpenKitInstance

namespace SessionProxies

open OpenKitInstance

variable {env : InstanceEnvironment} {caller : Caller} {s : OpenKitInstance} {p : ProxyRef}

section Unconfigured

variable {k : SessionRef} (hcurrent : (s.proxy p).currentSession = some k)
  (hconfig : (s.proxy p).serverConfiguration = none)

include hcurrent hconfig

theorem run_getOrSplitCurrentSessionByEvents :
    (getOrSplitCurrentSessionByEvents env p caller).run s = (.ok k, s) := by
  have hrequired : (isSessionSplitByEventsRequired p).run s = (.ok false, s) := by
    rw [isSessionSplitByEventsRequired, Program.run_bind_ok (Program.run_read _ s), hconfig]
    rfl
  rw [getOrSplitCurrentSessionByEvents, Program.run_bind_ok hrequired, if_neg Bool.false_ne_true,
    currentSession, Program.run_bind_ok (Program.run_read _ s), hcurrent]
  rfl

variable (env caller) in
/-- A proxy without a configuration forwards a crash to its current session, and gets none by it. -/
theorem run_forward_reportCrash (errorName reason stacktrace : UTF8String) :
    ∃ t, (forward env p caller (.reportCrash errorName reason stacktrace)).run s = (.ok (), t) ∧
      (t.proxy p).serverConfiguration = none := by
  rw [forward, Program.run_bind_ok (run_getOrSplitCurrentSessionByEvents hcurrent hconfig)]
  have hrecord : (recordTopLevelEventInteraction env p).run s = (.ok (),
      { s with numReads := s.numReads + 1 }.updateProxy p fun proxy =>
        { proxy with lastInteractionTime := env.clock s.numReads }) := rfl
  rw [Program.run_bind_ok hrecord, forwardTo, Program.run_bind_ok (Program.run_write _ _)]
  generalize hs : ({ s with numReads := s.numReads + 1 }.updateProxy p fun proxy =>
    { proxy with lastInteractionTime := env.clock s.numReads }).remember
      (.forwarded p k (.reportCrash errorName reason stacktrace)) = u
  have hnone : (u.proxy p).serverConfiguration = none := by
    rw [← hs, proxy_remember, proxy_updateProxy_self]
    exact hconfig
  obtain ⟨_, r, hbody⟩ := (SessionCalls.returns_perform_reportCrash caller
    errorName reason stacktrace).run ⟨(u.session k).session, u.numReads, []⟩
  refine ⟨u.afterReport k r, ?_, (serverConfiguration_afterReport u k r p).trans hnone⟩
  rw [onSession, Program.run_bind_ok (Program.run_atomic _ u), hbody]
  rfl

/-- **A crash** on a proxy without a configuration uses the null pointer when it splits. -/
theorem run_reportCrash (hfinished : (s.proxy p).isFinished = false) {errorName : UTF8String}
    (hname : errorName.isEmpty = false) (reason stacktrace : UTF8String) :
    ((reportCrash env p caller errorName reason stacktrace).run s).1 =
      .error .nullServerConfiguration := by
  obtain ⟨t, hforward, hnone⟩ := run_forward_reportCrash env caller hcurrent hconfig
    errorName reason stacktrace
  have hnull : (serverConfiguration p).run t = (.error .nullServerConfiguration, t) := by
    rw [serverConfiguration, Program.run_bind_ok (Program.run_read _ t), hnone]
    rfl
  have hclose : (closeOrEnqueueCurrentSessionForClosing env p caller).run t =
      (.error .nullServerConfiguration, t) := Program.run_bind_error hnull
  rw [reportCrash, hname, if_neg Bool.false_ne_true, whenUnfinished,
    Program.run_bind_ok (Program.run_read _ s), hfinished, if_neg Bool.false_ne_true,
    Program.run_bind_ok hforward]
  exact congrArg Prod.fst (Program.run_bind_error hclose)

end Unconfigured

end SessionProxies

namespace OpenKitInstance

open SessionProxies

variable {env : InstanceEnvironment}

/-- No call of a run uses a null server configuration. -/
def NeverNull (env : InstanceEnvironment) (s : OpenKitInstance) (calls : List InstanceCall) : Prop :=
  ∀ earlier call, earlier ++ [call] <+: calls →
    (s.afterCalls env earlier).outcome env call ≠ .error .nullServerConfiguration

/-- A crash on a proxy in use that has no configuration. -/
theorem outcome_of_crashesUnconfigured {s : OpenKitInstance} {call : InstanceCall}
    (hlive : ∀ p < s.proxies.size, (s.proxy p).IsLive) (h : s.CrashesUnconfigured call) :
    s.outcome env call = .error .nullServerConfiguration := by
  obtain ⟨p, threadID, proxyCall, rfl, hp, hcrash, hfinished, hconfig⟩ := h
  have hvalid : (InstanceCall.onProxy p threadID proxyCall).isValid s = true := decide_eq_true hp
  rw [outcome, run_perform_of_isValid hvalid]
  rcases hlive p hp with hfinished' | hcurrent
  · cases hfinished.symm.trans hfinished'
  · obtain ⟨k, hk⟩ := Option.isSome_iff_exists.mp hcurrent
    cases proxyCall with
    | reportCrash errorName reason stacktrace =>
      have hname : errorName.isEmpty = false := by
        rwa [ProxyCall.reportsCrash, Bool.not_eq_true'] at hcrash
      exact run_reportCrash hk hconfig hfinished hname reason stacktrace
    | _ => cases hcrash

/-- Every other call. -/
theorem outcome_ne_nullServerConfiguration {s : OpenKitInstance} {call : InstanceCall}
    (h : ¬ s.CrashesUnconfigured call) :
    s.outcome env call ≠ .error .nullServerConfiguration := by
  intro hnull
  by_cases hcall : call = .createSession
  · subst hcall
    have hkeeps : Keeps False (createInitialSessionAndMakeCurrent env s.proxies.size)
        (s.newProxy env) := keeps_createInitialSessionAndMakeCurrent size_newProxy
    rw [outcome, run_createSession] at hnull
    exact Program.Within.run_error hkeeps hnull rfl
  · exact h ((within_perform hcall).run_error hnull rfl)

/-- **Null configurations**: no call of a run uses a null server configuration, exactly if no crash is
reported for a proxy in use that has not been told a configuration. -/
theorem neverNull_iff (http : HTTPClientConfiguration) (provider : SessionIDProvider)
    (calls : List InstanceCall) :
    NeverNull env (new http provider env) calls ↔
      ∀ earlier call, earlier ++ [call] <+: calls →
        ¬ ((new http provider env).afterCalls env earlier).CrashesUnconfigured call := by
  constructor
  · intro h earlier call hprefix hcrash
    exact h earlier call hprefix
      (outcome_of_crashesUnconfigured (fun p hp => isLive_afterCalls http provider earlier hp) hcrash)
  · intro h earlier call hprefix
    exact outcome_ne_nullServerConfiguration (h earlier call hprefix)

/-- A crash is reported right after the first session was created, before any response. -/
theorem not_neverNull : ¬ ∀ (env : InstanceEnvironment) (http : HTTPClientConfiguration)
    (provider : SessionIDProvider) (calls : List InstanceCall),
    NeverNull env (new http provider env) calls := by
  intro h
  have hnull := h .plain ⟨1, .nil⟩ ⟨0⟩
    [.createSession, .onProxy 0 1 (.reportCrash (.ofAscii ['e']) .nil .nil)]
    [.createSession] _ List.prefix_rfl
  exact hnull (outcome_of_crashesUnconfigured
    (fun p hp => isLive_afterCalls ⟨1, .nil⟩ ⟨0⟩ [.createSession] hp)
    ⟨0, 1, _, rfl, by decide, by decide, by decide, by decide⟩)

end OpenKitInstance

end OpenKit
