import OpenKit.Communication.ContextCalls
import OpenKit.Communication.FinishedSessions

/-!
# What new sessions are configured with

A session is configured with what `sendNewSessionRequests` makes from the attributes merged so far.
The context makes its own configuration from the same attributes, but turns capturing off there if
they name another application. Both are compared here, turn by turn, over all runs of turns and other
calls on the context.

## Main definitions

* `SenderCall`: a call on the context, or the turn of a session that asks for its configuration
* `contextCalls`: what the calls of a run are to the context
* `ConfiguresAlike`: each session configured is configured as the context is, as to capturing

## Main results

* `byTurns_of_run_sendNewSessionRequests`: the loop of the sender is a run of such turns
* `configuresAlike_iff`: when sessions and context agree
-/

namespace OpenKit

open Thread BeaconSendingResponseUtil

/-- A call on the context, or a turn of `sendNewSessionRequests` with the response to its request,
if it makes one. -/
inductive SenderCall
  | context (call : ContextCall)
  | requestNewSession (k : BeaconKey) (response : Option StatusResponse)

/-- A server that always gives one response. -/
def Environment.always (response : Option StatusResponse) : Environment :=
  ⟨fun _ => response, fun _ _ => .nil⟩

namespace World

/-- The answer to the next request. -/
def nextAnswer (w : World) (response : Option StatusResponse) : Option Answer :=
  response.map (Answer.mk w.numRequests)

def afterSenderCall (w : World) : SenderCall → World
  | .context call => w.afterContextCall call
  | .requestNewSession k response =>
    ((CaptureOnState.requestNewSession (.always response) k none).run w).2

def afterSenderCalls (w : World) (calls : List SenderCall) : World := calls.foldl afterSenderCall w

theorem afterSenderCalls_concat (w : World) (calls : List SenderCall) (call : SenderCall) :
    w.afterSenderCalls (calls ++ [call]) = (w.afterSenderCalls calls).afterSenderCall call := by
  rw [afterSenderCalls, List.foldl_append]
  rfl

end World

/-- The capture flag in the configuration of a session. -/
def Session.isCaptureEnabled (s : Session) : Bool :=
  s.beacon.beaconConfiguration.getServerConfiguration.isCaptureEnabled

/-! ## One turn -/

section Turn

variable {w : World} {k : BeaconKey} {response : Option StatusResponse}

/-- The turn hands a configuration to the session. -/
def Configures (w : World) (k : BeaconKey) (response : Option StatusResponse) : Prop :=
  (w.session k).canSendNewSessionRequest = true ∧
    isSuccessfulResponse (w.nextAnswer response) = true

instance : Decidable (Configures w k response) := inferInstanceAs (Decidable (_ ∧ _))

/-- The turns that configure no session: what they are to the context and to their session. -/
theorem run_requestNewSession_of_not_configures (h : ¬ Configures w k response) :
    (w.afterSenderCall (.requestNewSession k response)).context = w.context := by
  rw [World.afterSenderCall, CaptureOnState.requestNewSession,
    Program.run_bind_ok (Program.run_read _ w)]
  cases hcan : (w.session k).canSendNewSessionRequest with
  | false =>
    rw [Bool.not_false, if_pos rfl]
    rfl
  | true =>
    have hfail : isSuccessfulResponse (w.nextAnswer response) = false :=
      Bool.not_eq_true _ ▸ fun hsuccess => h ⟨hcan, hsuccess⟩
    rw [Bool.not_true, if_neg Bool.false_ne_true, CaptureOnState.sendNewSessionRequest,
      Program.run_bind_ok (Program.run_atomic _ w)]
    show ((ite (isSuccessfulResponse (w.nextAnswer response) = true) _ _ :
      Sender (ForInStep (Option Answer))).run _).2.context = _
    rw [hfail, if_neg Bool.false_ne_true]
    split <;> rfl

/-- A turn that configures its session: the context takes over the response, and the session gets a
configuration of the merged attributes. -/
theorem run_requestNewSession_of_configures (h : Configures w k response) :
    ∃ answer, w.nextAnswer response = some answer ∧
      isSuccessfulResponse (some answer) = true ∧
      (w.afterSenderCall (.requestNewSession k response)).context =
        w.context.takeOver answer.response.responseAttributes ∧
      (w.afterSenderCall (.requestNewSession k response)).session k =
        (w.session k).updateServerConfiguration
          (.ofAttributes (w.context.lastResponseAttributes.merge
            answer.response.responseAttributes)) := by
  obtain ⟨hcan, hsuccess⟩ := h
  rcases hanswer : w.nextAnswer response with _ | answer
  · rw [hanswer] at hsuccess
    cases hsuccess
  · rw [hanswer] at hsuccess
    have hrequest : (CaptureOnState.sendNewSessionRequest (.always response)).run w =
        (.ok (some answer), { w with numRequests := w.numRequests + 1 }.write
          (.newSessionRequested (some answer))) := by
      rw [CaptureOnState.sendNewSessionRequest, Program.run_atomic, ← hanswer]
      rfl
    have hupdate := BeaconSendingContext.updateFrom_of_success hsuccess w.context
    have hrun : (w.afterSenderCall (.requestNewSession k response)) =
        (({ w with numRequests := w.numRequests + 1 }.write
          (.newSessionRequested (some answer))).setContext
            (w.context.updateFrom (some answer)).2).updateSession k
              (·.updateServerConfiguration (.ofAttributes (w.context.updateFrom (some answer)).1)) := by
      rw [World.afterSenderCall, CaptureOnState.requestNewSession,
        Program.run_bind_ok (Program.run_read _ w), hcan, Bool.not_true,
        if_neg Bool.false_ne_true, Program.run_bind_ok hrequest, hsuccess, if_pos rfl]
      rfl
    refine ⟨answer, rfl, hsuccess, ?_, ?_⟩
    · rw [hrun, hupdate]
      rfl
    · rw [hrun, hupdate, World.session_updateSession, if_pos rfl]
      rfl

/-- A configuration made from attributes has their capture flag, also if it is merged into the one
that the session has. -/
theorem isCaptureEnabled_updateServerConfiguration (s : Session) (a : ResponseAttributes) :
    (s.updateServerConfiguration (.ofAttributes a)).isCaptureEnabled = a.isCapture := by
  show (ite (s.beacon.beaconConfiguration.isServerConfigurationSet = true) _ _ :
    ServerConfigurationRef).get.isCaptureEnabled = _
  split <;> rfl

/-- The session's turn depends on the next answer only. -/
theorem run_requestNewSession (env : Environment) (w : World) (k : BeaconKey)
    (statusResponse : Option Answer) :
    ((CaptureOnState.requestNewSession env k statusResponse).run w).2 =
      w.afterSenderCall (.requestNewSession k (env.response w.numRequests)) := by
  rw [World.afterSenderCall, CaptureOnState.requestNewSession, CaptureOnState.requestNewSession,
    Program.run_bind_ok (Program.run_read _ w), Program.run_bind_ok (Program.run_read _ w)]
  cases hcan : (w.session k).canSendNewSessionRequest with
  | false => rfl
  | true =>
    rw [Bool.not_true, if_neg Bool.false_ne_true, if_neg Bool.false_ne_true,
      CaptureOnState.sendNewSessionRequest, CaptureOnState.sendNewSessionRequest,
      Program.run_bind_ok (Program.run_atomic _ w), Program.run_bind_ok (Program.run_atomic _ w)]
    rfl

end Turn

/-- Some turns lead from one world to another. -/
def ByTurns (w t : World) : Prop :=
  ∃ turns : List (BeaconKey × Option StatusResponse),
    t = w.afterSenderCalls (turns.map fun turn => .requestNewSession turn.1 turn.2)

theorem ByTurns.requestNewSession {w u : World} (h : ByTurns w u) (env : Environment)
    (k : BeaconKey) (statusResponse : Option Answer) :
    ByTurns w ((CaptureOnState.requestNewSession env k statusResponse).run u).2 := by
  obtain ⟨turns, hu⟩ := h
  refine ⟨turns ++ [(k, env.response u.numRequests)], ?_⟩
  rw [List.map_append, List.map_singleton, World.afterSenderCalls_concat, ← hu]
  exact run_requestNewSession env u k statusResponse

/-- **The loop of the sender** is a run of turns, each with the answer the server gives. -/
theorem byTurns_of_run_sendNewSessionRequests {env : Environment} {w t : World}
    {response : Option Answer}
    (h : (CaptureOnState.sendNewSessionRequests env).run w = (.ok response, t)) :
    ByTurns (w.enter .newSessions) t := by
  rw [CaptureOnState.sendNewSessionRequests, Program.run_bind_ok (Program.run_write _ w),
    BeaconSendingContext.getAllNotConfiguredSessions,
    Program.run_bind_ok (run_selectSessions _)] at h
  obtain ⟨r, t', hloop, hend⟩ := Program.run_bind_eq_ok.mp h
  obtain ⟨-, rfl⟩ := Prod.mk.inj hend
  have hround := Program.run_forEach_ok
    (J := fun _ _ => ByTurns (w.enter .newSessions)) (Q := fun _ => ByTurns (w.enter .newSessions))
    (fun k _ statusResponse u r v hturns hrun => by
      have hnext := hturns.requestNewSession env k statusResponse
      rw [hrun] at hnext
      cases r with
      | yield _ => exact hnext
      | done _ => exact hnext)
    ⟨[], rfl⟩ hloop
  cases r with
  | yield _ => exact hround
  | done _ => exact hround

/-! ## Runs -/

/-- What a call is to the context. -/
def SenderCall.contextCall (w : World) : SenderCall → Option ContextCall
  | .context call => some call
  | .requestNewSession k response =>
    if (w.session k).canSendNewSessionRequest then some (.updateFrom (w.nextAnswer response))
    else none

/-- What the calls of a run are to the context. -/
def contextCalls : World → List SenderCall → List ContextCall
  | _, [] => []
  | w, call :: calls => (call.contextCall w).toList ++ contextCalls (w.afterSenderCall call) calls

theorem contextCalls_concat (w : World) (calls : List SenderCall) (call : SenderCall) :
    contextCalls w (calls ++ [call]) =
      contextCalls w calls ++ (call.contextCall (w.afterSenderCalls calls)).toList := by
  induction calls generalizing w with
  | nil => exact List.append_nil _
  | cons first calls ih =>
    rw [List.cons_append, contextCalls, ih, contextCalls, List.append_assoc]
    rfl

/-- The context keeps what the calls of the run are to it. -/
theorem tracks_afterSenderCalls (w : World) (http : HTTPClientConfiguration)
    (keys : List BeaconKey) (calls : List SenderCall) :
    Tracks http (contextCalls (w.withNewContext http keys) calls)
      ((w.withNewContext http keys).afterSenderCalls calls).context := by
  induction calls using List.reverseRecOn with
  | nil => exact tracks_afterContextCalls w http keys []
  | append_singleton calls call ih =>
    rw [contextCalls_concat, World.afterSenderCalls_concat]
    generalize (w.withNewContext http keys).afterSenderCalls calls = u at ih
    cases call with
    | context call => exact (ih.configured call).congr (sameConfiguration_afterContextCall u call)
    | requestNewSession k response =>
      by_cases hconfigures : Configures u k response
      · obtain ⟨answer, hanswer, hsuccess, hcontext, -⟩ :=
          run_requestNewSession_of_configures hconfigures
        rw [SenderCall.contextCall, if_pos hconfigures.1, hanswer, hcontext]
        exact ih.takeOver (by rw [ContextCall.success, if_pos hsuccess])
      · rw [run_requestNewSession_of_not_configures hconfigures, SenderCall.contextCall]
        by_cases hcan : (u.session k).canSendNewSessionRequest = true
        · -- a request that was not answered successfully
          have hsuccess : ContextCall.success (.updateFrom (u.nextAnswer response)) = none := by
            rcases hanswer : u.nextAnswer response with _ | answer
            · rfl
            · have hfail : ¬ isSuccessfulResponse (some answer) = true := fun hsuccess =>
                hconfigures ⟨hcan, hanswer ▸ hsuccess⟩
              rw [ContextCall.success, if_neg hfail]
          rw [if_pos hcan]
          exact ih.unsuccessful hsuccess
        · rw [if_neg hcan]
          exact (List.append_nil _).symm ▸ ih

/-- Each session that a turn of the run configures is, at the end of that turn, configured as the
context is, as to capturing. -/
def ConfiguresAlike (w : World) (calls : List SenderCall) : Prop :=
  ∀ earlier k response, earlier ++ [.requestNewSession k response] <+: calls →
    Configures (w.afterSenderCalls earlier) k response →
    let t := w.afterSenderCalls (earlier ++ [.requestNewSession k response])
    (t.session k).isCaptureEnabled = t.context.isCaptureOn

/-- **The configuration of new sessions** agrees with that of the context exactly if no session is
configured while the last application id set is another one and the last capture flag is on. -/
theorem configuresAlike_iff (w : World) (http : HTTPClientConfiguration) (keys : List BeaconKey)
    (calls : List SenderCall) :
    ConfiguresAlike (w.withNewContext http keys) calls ↔
      ∀ earlier k response, earlier ++ [.requestNewSession k response] <+: calls →
        Configures ((w.withNewContext http keys).afterSenderCalls earlier) k response →
        let responses := contextCalls (w.withNewContext http keys)
          (earlier ++ [.requestNewSession k response])
        ¬ (lastMismatch http.applicationID responses = true ∧ lastCaptureFlag responses = true) := by
  refine forall₅_congr fun earlier k response hprefix hconfigures => ?_
  have htracks := tracks_afterSenderCalls w http keys (earlier ++ [.requestNewSession k response])
  obtain ⟨answer, hanswer, hsuccess, hcontext, hsession⟩ :=
    run_requestNewSession_of_configures hconfigures
  have hsince : disabledSince (contextCalls (w.withNewContext http keys)
      (earlier ++ [.requestNewSession k response])) = false := by
    rw [contextCalls_concat, SenderCall.contextCall, if_pos hconfigures.1, hanswer]
    exact disabledSince_concat_of_success (by rw [ContextCall.success, if_pos hsuccess])
  have hflag : (((w.withNewContext http keys).afterSenderCalls
      (earlier ++ [.requestNewSession k response])).session k).isCaptureEnabled =
        lastCaptureFlag (contextCalls (w.withNewContext http keys)
          (earlier ++ [.requestNewSession k response])) := by
    rw [← isCapture_mergedAttributes, ← htracks.lastResponseAttributes,
      World.afterSenderCalls_concat, hsession, isCaptureEnabled_updateServerConfiguration, hcontext]
    rfl
  show (World.session _ k).isCaptureEnabled = _ ↔ ¬ (_ ∧ _)
  rw [hflag, htracks.isCaptureOn, capturing, hsince]
  generalize lastCaptureFlag _ = flag
  generalize lastMismatch _ _ = mismatch
  cases flag <;> cases mismatch <;> decide

/-- A response for another application, which leaves capturing on. -/
def otherApplication : StatusResponse :=
  ⟨ResponseAttributes.undefined.withApplicationId (.ofAscii ['b']), 200, 0⟩

/-- The session is configured with capturing on, and the context with capturing off. -/
theorem not_configuresAlike : ¬ ∀ (w : World) (http : HTTPClientConfiguration)
    (keys : List BeaconKey) (calls : List SenderCall),
    ConfiguresAlike (w.withNewContext http keys) calls := by
  intro h
  have hagree := h
    (.new (fun _ => .new (.new (.new ⟨.userBehavior, .optInCrashes⟩) 0 0 .nil)) (.new ⟨1, .nil⟩))
    ⟨1, .ofAscii ['a']⟩ [⟨1, 0⟩] [.requestNewSession ⟨1, 0⟩ (some otherApplication)] [] ⟨1, 0⟩
    (some otherApplication) List.prefix_rfl (by decide)
  exact absurd hagree (by decide)

end OpenKit
