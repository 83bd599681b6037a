import OpenKit.Objects.ProxySteps

/-!
# What holds after any calls

What one call keeps, all calls keep. So after any calls every proxy that is in use has a current
session, every session belongs to a proxy, and everything that was made is still there.

## Main definitions

* `InstanceCall.configures`: the session that a call of the sender configures
* `OpenKitInstance.newProxy`: the instance once a proxy is made that has no session yet

## Main results

* `instanceStep_afterCall`, `instanceStep_afterCall_createSession`: what one call does
* `extends_afterCalls`: what all calls keep
* `isLive_afterCalls`, `wellParented_afterCalls`: the proxies and sessions after any calls
-/

namespace OpenKit

open Thread SessionProxies

/-- A call that reports a crash, and splits the session after it. -/
def ProxyCall.reportsCrash : ProxyCall → Bool
  | reportCrash errorName _ _ => !errorName.isEmpty
  | _ => false

/-- The session that the sender configures. -/
def InstanceCall.configures : InstanceCall → SessionRef → Prop
  | requestNewSession k _, k' => k' = k
  | enableCapture k, k' => k' = k
  | _, _ => False

/-- Only a crash may meet a null configuration. -/
theorem ProxyCall.keeps_perform {unset : Prop} {s : OpenKitInstance} {env : InstanceEnvironment}
    {caller : Caller} {p : ProxyRef} (hp : p < s.proxies.size) (call : ProxyCall)
    (hunset : call.reportsCrash = true → (s.proxy p).isFinished = false →
      (s.proxy p).serverConfiguration = none → unset) :
    Keeps unset (call.perform env p caller) s := by
  cases call with
  | enterAction name => exact keeps_enterAction hp name
  | identifyUser userTag => exact keeps_identifyUser hp userTag
  | reportCrash errorName reason stacktrace =>
    refine keeps_reportCrash hp (fun hname hfinished hnone => ?_) reason stacktrace
    exact hunset (by rw [reportsCrash, hname, Bool.not_false]) hfinished hnone
  | traceWebRequest url => exact keeps_forwardUnlessEmpty hp url _
  | sendEvent name jsonPayload => exact keeps_forwardUnlessEmpty hp name _
  | sendBizEvent type jsonPayload => exact keeps_forwardUnlessEmpty hp type _
  | close => exact keeps_endProxy hp
  | splitSessionByTime => exact (keeps_splitSessionByTime hp).bind fun _ _ _ => keeps_ret ()

namespace OpenKitInstance

variable {env : InstanceEnvironment} {s : OpenKitInstance} {k : SessionRef}

/-! ## The calls of the sender -/

theorem instanceStep_requestNewSession (statusResponse : Option Answer) :
    InstanceStep (· = k) s (s.requestNewSession k statusResponse) := by
  rw [requestNewSession]
  split
  next => exact .refl s
  next hconfigured =>
    rw [Bool.not_eq_true] at hconfigured
    split
    · exact .of_session (f := fun o => o.setSession o.session.disableCapture) rfl rfl
        ⟨rfl, rfl, .of_unset hconfigured rfl⟩ (fun _ => .inr rfl)
        ⟨[], (List.append_nil _).symm, List.forall_mem_nil _⟩
    · split
      · have hcontext : InstanceStep (· = k) s
            { s with context := (s.context.updateFrom statusResponse).2 } := .of_same rfl rfl rfl
        exact hcontext.trans (instanceStep_configure (·.evolves_updateServerConfiguration _)
          fun _ _ => .inr rfl)
      · split
        · exact .refl s
        · exact .of_session
            (f := fun o => o.setSession o.session.decreaseNumRemainingSessionRequests) rfl rfl
            ⟨rfl, rfl, .refl _⟩ .inl ⟨[], (List.append_nil _).symm, List.forall_mem_nil _⟩

theorem instanceStep_enableCapture : InstanceStep (· = k) s (s.enableCapture k) := by
  rw [enableCapture]
  split
  next => exact .refl s
  next hconfigured =>
    rw [Bool.not_eq_true] at hconfigured
    exact .of_session (f := fun o => o.setSession o.session.enableCapture) rfl rfl
      ⟨rfl, rfl, .of_unset hconfigured rfl⟩ (fun _ => .inr rfl)
      ⟨[], (List.append_nil _).symm, List.forall_mem_nil _⟩

/-! ## One call -/

variable (env s) in
/-- The instance once `createSession` has made a proxy, which has no session yet. -/
def newProxy : OpenKitInstance :=
  { s with
    sessionIDProvider := s.sessionIDProvider.getNextSessionID.2
    numDraws := s.numDraws + 1
    proxies := s.proxies.alloc (.new (.new env.openKitConfiguration env.privacyConfiguration
      s.context.httpClientConfiguration.serverID s.sessionIDProvider.getNextSessionID.1
      (env.random s.numDraws))) }

theorem run_createSession : (InstanceCall.createSession.perform env).run s =
    (createInitialSessionAndMakeCurrent env s.proxies.size).run (s.newProxy env) := rfl

theorem size_newProxy : s.proxies.size < (s.newProxy env).proxies.size := Nat.lt_succ_self _

theorem extends_newProxy : s.Extends (s.newProxy env) := by
  refine ⟨Nat.le_succ _, fun p hp => ?_, le_refl _, fun _ _ => .refl _, [],
    (List.append_nil _).symm, List.forall_mem_nil _⟩
  show (s.proxy p).Evolves ((s.proxies.alloc _).get p)
  rw [Heap.get_alloc_of_lt hp]
  exact .refl _

/-- A crash is reported for a proxy that is in use, but has no server configuration. -/
def CrashesUnconfigured (s : OpenKitInstance) (call : InstanceCall) : Prop :=
  ∃ p threadID proxyCall, call = .onProxy p threadID proxyCall ∧ p < s.proxies.size ∧
    proxyCall.reportsCrash = true ∧ (s.proxy p).isFinished = false ∧
    (s.proxy p).serverConfiguration = none

/-- **What a call does** that makes no proxy, and when it may meet a null configuration. -/
theorem within_perform {call : InstanceCall} (hcall : call ≠ .createSession) :
    (call.perform env).Within (InstanceStep call.configures) (MayFail (s.CrashesUnconfigured call))
      s := by
  have hkeeps {body : InstanceProgram Unit} (h : Keeps (s.CrashesUnconfigured call) body s) :
      body.Within (InstanceStep call.configures) (MayFail (s.CrashesUnconfigured call)) s :=
    Program.Within.mono h (fun t ht => ht.mono fun _ => False.elim) fun _ => id
  show Program.Within _ _ (if call.isValid s then call.body env else Program.ret ()) s
  split
  next hvalid =>
    cases call with
    | createSession => exact absurd rfl hcall
    | onProxy p threadID proxyCall =>
      have hp : p < s.proxies.size := of_decide_eq_true hvalid
      exact hkeeps (proxyCall.keeps_perform hp fun hcrash hfinished hnone =>
        ⟨p, threadID, proxyCall, rfl, hp, hcrash, hfinished, hnone⟩)
    | onObject k threadID handle objectCall => exact hkeeps (keeps_perform _)
    | closeExpiredSession k threadID => exact hkeeps keeps_closeExpiredSession
    | executeWatchdog threadID =>
      have hmade := List.all_eq_true.mp (Bool.and_eq_true_iff.mp hvalid).2
      exact hkeeps ((keeps_executeWatchdog fun p hp => of_decide_eq_true (hmade p hp)).bind
        fun _ _ _ => keeps_ret _)
    | requestNewSession k statusResponse => exact instanceStep_requestNewSession statusResponse
    | enableCapture k => exact instanceStep_enableCapture
    | endSession k threadID => exact hkeeps (keeps_endWith false)
    | onContext contextCall => exact hkeeps (keeps_write (.of_same rfl rfl rfl))
  next => exact hkeeps (keeps_ret ())

theorem instanceStep_afterCall {call : InstanceCall} (hcall : call ≠ .createSession) :
    InstanceStep call.configures s (s.afterCall env call) :=
  (within_perform hcall).run

/-- A new proxy makes its first session. -/
theorem instanceStep_afterCall_createSession :
    InstanceStep (fun _ => False) (s.newProxy env) (s.afterCall env .createSession) := by
  have h : Keeps False (createInitialSessionAndMakeCurrent env s.proxies.size) (s.newProxy env) :=
    keeps_createInitialSessionAndMakeCurrent size_newProxy
  rw [afterCall, run_createSession]
  exact Program.Within.run h

/-- **What every call keeps**. -/
theorem extends_afterCall (call : InstanceCall) : s.Extends (s.afterCall env call) := by
  by_cases hcall : call = .createSession
  · subst hcall
    exact extends_newProxy.trans instanceStep_afterCall_createSession.toExtends
  · exact (instanceStep_afterCall hcall).toExtends

/-- The first session of a new proxy is its current one. -/
theorem isLive_afterCall_createSession :
    ((s.afterCall env .createSession).proxy s.proxies.size).IsLive := by
  have hends : (createInitialSessionAndMakeCurrent env s.proxies.size).Ends
      (fun _ t => (t.proxy s.proxies.size).currentSession.isSome = true) (fun _ _ => False)
      (s.newProxy env) :=
    ends_createAndAssignCurrentSession (some s.context.serverConfiguration) none
  rw [afterCall, run_createSession]
  rcases hrun : (createInitialSessionAndMakeCurrent env s.proxies.size).run (s.newProxy env) with
    ⟨fault | _, t⟩
  · exact (hends.run_error hrun).elim
  · exact .inr (hends.run_ok hrun)

/-! ## All calls -/

variable (env) in
/-- What all calls keep. -/
theorem extends_afterCalls (calls : List InstanceCall) : s.Extends (s.afterCalls env calls) := by
  induction calls using List.reverseRecOn with
  | nil => exact .refl s
  | append_singleton calls call ih =>
    rw [afterCalls_concat]
    exact ih.trans (extends_afterCall call)

section Run

variable (http : HTTPClientConfiguration) (provider : SessionIDProvider)

/-- **Every proxy in use** has a current session. -/
theorem isLive_afterCalls (calls : List InstanceCall) {p : ProxyRef}
    (hp : p < ((new http provider env).afterCalls env calls).proxies.size) :
    (((new http provider env).afterCalls env calls).proxy p).IsLive := by
  induction calls using List.reverseRecOn with
  | nil => exact absurd hp (Nat.not_lt_zero _)
  | append_singleton calls call ih =>
    rw [afterCalls_concat] at hp ⊢
    by_cases hold : p < ((new http provider env).afterCalls env calls).proxies.size
    · exact ((extends_afterCall call).proxy p hold).isLive (ih hold)
    · -- only the creation of a session makes a proxy
      by_cases hcall : call = .createSession
      · subst hcall
        rw [instanceStep_afterCall_createSession.proxies_size_eq] at hp
        obtain rfl := le_antisymm (Nat.le_of_lt_succ hp) (not_lt.mp hold)
        exact isLive_afterCall_createSession
      · rw [(instanceStep_afterCall hcall).proxies_size_eq] at hp
        exact absurd hp hold

/-- **Every session** belongs to a proxy. -/
theorem wellParented_afterCalls (calls : List InstanceCall) {k : SessionRef}
    (hk : k < ((new http provider env).afterCalls env calls).sessions.size) :
    ((new http provider env).afterCalls env calls).WellParented k := by
  induction calls using List.reverseRecOn with
  | nil => exact absurd hk (Nat.not_lt_zero _)
  | append_singleton calls call ih =>
    rw [afterCalls_concat] at hk ⊢
    by_cases hold : k < ((new http provider env).afterCalls env calls).sessions.size
    · exact (extends_afterCall call).wellParented hold (ih hold)
    · by_cases hcall : call = .createSession
      · subst hcall
        exact instanceStep_afterCall_createSession.made k (not_lt.mp hold) hk
      · exact (instanceStep_afterCall hcall).made k (not_lt.mp hold) hk

end Run

end OpenKitInstance

end OpenKit
