import OpenKit.Communication.AnswerLog
import OpenKit.Communication.FailedTransmission

/-!
# The answer that a cycle ends with

Each loop of a cycle keeps one variable for the last response. A turn that sends nothing, or whose
last request is not answered, sets it to none; the answers of the turns before are then forgotten. So
the answer handled at the end of a cycle is the last one received iff, in the last of the loops that
were answered at all, the last turn ended with an answer.

## Main definitions

* `TurnsCaptureOff`: an answer that turns capturing off
* `AnswersHandled`: the last answer is the one handled, and turns capturing off if it says so

## Main results

* `received_of_run_send`: a send returns the answer to its last request
* `received_of_run_sendFinishedSessions`, `received_of_run_sendOpenSessions`,
  `received_of_run_sendNewSessionRequests`: each loop returns what its last turn ended with
* `answersHandled_iff`: the last answer is handled iff the last turns were answered
-/

namespace OpenKit

open Thread

variable {env : Environment} {rounds : ℕ} {k : BeaconKey} {w t : World}

namespace BeaconSend

theorem answersIn_requested (phase : Phase) (chunk : BeaconChunk) (answer : Option Answer) :
    answersIn phase [.requested phase chunk answer] = answer.toList := by
  cases answer with
  | none => simp [answersIn]
  | some a => simp [answersIn]

/-- A round ends its request with the answer to it. -/
theorem received_afterRound (hphase : w.phase.OfBeacons) (s : Turns) :
    Received env w.phase w (afterRound env k w) s ⟨answerAt env w, s.last⟩ (answerAt env w) := by
  let event : Event := .requested w.phase (chunkAt env k w) (answerAt env w)
  have hevent : event.InPhase w.phase := ⟨rfl, hphase⟩
  have hstep : s.step w.phase event = ⟨answerAt env w, s.last⟩ := if_pos rfl
  have hrequest : Received env w.phase w (afterRequest env k w) s ⟨answerAt env w, s.last⟩
      (answerAt env w) := by
    rw [← hstep]
    exact (Received.of_request hevent (answersIn_requested _ _ _) s).quiet rfl rfl rfl
  rw [afterRound]
  split
  · have hremoved : Received env w.phase w
        ((afterRequest env k w).setCache ((afterRequest env k w).cache.removeChunkedData k)) s
        ⟨answerAt env w, s.last⟩ (answerAt env w) := hrequest.quiet rfl rfl rfl
    exact hremoved.write trivial rfl
  · exact hrequest.quiet rfl rfl rfl

/-- **A send** returns the answer to its last request, which is that of the turn. -/
theorem received_of_run_send (hphase : w.phase.OfBeacons) (last : Option Answer)
    {answer : Option Answer} (h : (send env rounds k).run w = (.ok answer, t)) :
    Received env w.phase w t ⟨none, last⟩ ⟨answer, last⟩ answer := by
  rw [send, prepareDataForSending, Program.run_bind_ok (Program.run_write _ w)] at h
  have hprepared : Received env w.phase w (w.setCache (w.cache.prepareDataForSending k))
      ⟨none, last⟩ ⟨none, last⟩ none := (Received.refl w _).quiet rfl rfl rfl
  refine Program.run_loop_ok
    (J := fun a u => Received env w.phase w u ⟨none, last⟩ ⟨a, last⟩ a)
    (Q := fun a u => Received env w.phase w u ⟨none, last⟩ ⟨a, last⟩ a)
    (fun a u r u' hj hrun => ?_) hprepared h
  cases hdata : u.cache.hasDataForSending k with
  | false =>
    rw [run_sendChunk_of_no_data hdata] at hrun
    obtain ⟨hr, rfl⟩ := Prod.mk.inj hrun
    obtain rfl := Except.ok.inj hr
    exact hj
  | true =>
    rw [run_sendChunk_of_data hdata] at hrun
    obtain ⟨hr, rfl⟩ := Prod.mk.inj hrun
    obtain rfl := Except.ok.inj hr
    have hround : Received env u.phase u (afterRound env k u) ⟨a, last⟩ ⟨answerAt env u, last⟩
        (answerAt env u) := received_afterRound (hj.phase_eq.symm ▸ hphase) ⟨a, last⟩
    rw [hj.phase_eq] at hround
    -- the loop goes on or ends with the same answer
    split
    · exact hj.trans hround
    · exact hj.trans hround

end BeaconSend

namespace CaptureOnState

open BeaconSendingResponseUtil

/-! ## The loops -/

/-- A turn of a beacon takes the answer of its send. -/
theorem received_of_run_sendBeacon {phase : Phase} (hw : w.phase = phase)
    (hphase : phase.OfBeacons) (last : Option Answer) {answer : Option Answer}
    (h : (sendBeacon env rounds k).run w = (.ok answer, t)) :
    Received env phase w t ⟨none, last⟩ ⟨none, answer⟩ answer := by
  subst hw
  obtain ⟨answer', t', hsend, hrest⟩ := Program.run_bind_eq_ok.mp h
  rw [Program.run_bind_ok (Program.run_write _ t')] at hrest
  obtain ⟨hr, rfl⟩ := Prod.mk.inj hrest
  obtain rfl := Except.ok.inj hr
  have hreceived := BeaconSend.received_of_run_send hphase last hsend
  have hstep : Turns.step w.phase ⟨answer', last⟩ (.sent w.phase k answer') = ⟨none, answer'⟩ :=
    if_pos rfl
  rw [hreceived.phase_eq, ← hstep]
  exact hreceived.write rfl rfl

/-- What the loop variable says after some turns of the loop of `phase`. -/
def LoopReceived (env : Environment) (phase : Phase) (w : World) (response : Option Answer)
    (t : World) : Prop :=
  Received env phase w t .start ⟨none, response⟩ response

namespace LoopReceived

variable {phase : Phase} {response : Option Answer} {u : World}

theorem phase_eq (h : LoopReceived env phase w response t) : t.phase = w.phase :=
  Received.phase_eq h

theorem quiet (h : LoopReceived env phase w response t) (hlog : u.log = t.log)
    (hnumber : u.numRequests = t.numRequests) (hphase : u.phase = t.phase) :
    LoopReceived env phase w response u :=
  Received.quiet h hlog hnumber hphase

theorem clearCapturedData (h : LoopReceived env phase w response t) (phase' : Phase)
    (k : BeaconKey) :
    LoopReceived env phase w response
      ((t.setCache (t.cache.deleteCacheEntry k)).write (.cleared phase' k)) :=
  (h.quiet (u := t.setCache (t.cache.deleteCacheEntry k)) rfl rfl rfl).write trivial rfl

/-- Removing a session is no turn. -/
theorem removeSession (h : LoopReceived env phase w response t) {allowed : Bool} {u : World}
    (hrun : (CaptureOnState.removeSession k allowed).run t = (.ok (), u)) :
    LoopReceived env phase w response u := by
  obtain ⟨-, rfl⟩ := Prod.mk.inj hrun
  have hremoved : LoopReceived env phase w response
      ((t.setContext (t.context.removeSession k)).write (.removed k allowed)) :=
    (h.quiet (u := t.setContext (t.context.removeSession k)) rfl rfl rfl).write trivial rfl
  exact hremoved.clearCapturedData .finishedSessions k

end LoopReceived

/-- What a round of a loop has to show: the loop variable tells the last turn. -/
def KeepsReceived (env : Environment) (phase : Phase) (w : World) :
    ForInStep (Option Answer) → World → Prop :=
  Program.Round (LoopReceived env phase w) (LoopReceived env phase w)

section Rounds

variable {response : Option Answer} {u : World} {r : ForInStep (Option Answer)}

/-- The turn of a beacon in a loop. -/
theorem LoopReceived.sendBeacon {phase : Phase} (hw : w.phase = phase)
    (hphase : phase.OfBeacons) (h : LoopReceived env phase w response t)
    {answer : Option Answer} (hrun : (sendBeacon env rounds k).run t = (.ok answer, u)) :
    LoopReceived env phase w answer u :=
  Received.trans h (received_of_run_sendBeacon (h.phase_eq.trans hw) hphase response hrun)

theorem keepsReceived_sendFinishedSession (hw : w.phase = .finishedSessions)
    (h : LoopReceived env .finishedSessions w response t)
    (hrun : (sendFinishedSession env rounds k response).run t = (.ok r, u)) :
    KeepsReceived env .finishedSessions w r u := by
  rw [sendFinishedSession, Program.run_bind_ok (Program.run_read _ t)] at hrun
  split at hrun
  · obtain ⟨answer, t', hsend, hrest⟩ := Program.run_bind_eq_ok.mp hrun
    have hturn := h.sendBeacon hw trivial hsend
    have hremoved {allowed : Bool} {r : ForInStep (Option Answer)} {u : World}
        (hrun : (removeSession k allowed >>= fun _ => Program.ret (.yield answer) :
          Sender (ForInStep (Option Answer))).run t' = (.ok r, u)) :
        KeepsReceived env .finishedSessions w r u := by
      obtain ⟨_, u', hremove, hend⟩ := Program.run_bind_eq_ok.mp hrun
      obtain ⟨hr, rfl⟩ := Prod.mk.inj hend
      obtain rfl := Except.ok.inj hr
      exact hturn.removeSession hremove
    split at hrest
    · exact hremoved hrest
    · split at hrest
      · obtain ⟨hr, rfl⟩ := Prod.mk.inj hrest
        obtain rfl := Except.ok.inj hr
        exact hturn
      · rw [Program.run_bind_ok (Program.run_read _ t')] at hrest
        split at hrest
        · obtain ⟨hr, rfl⟩ := Prod.mk.inj hrest
          obtain rfl := Except.ok.inj hr
          exact hturn
        · exact hremoved hrest
  · obtain ⟨_, u', hremove, hend⟩ := Program.run_bind_eq_ok.mp hrun
    obtain ⟨hr, rfl⟩ := Prod.mk.inj hend
    obtain rfl := Except.ok.inj hr
    exact h.removeSession hremove

theorem keepsReceived_sendOpenSession (hw : w.phase = .openSessions)
    (h : LoopReceived env .openSessions w response t)
    (hrun : (sendOpenSession env rounds k response).run t = (.ok r, u)) :
    KeepsReceived env .openSessions w r u := by
  rw [sendOpenSession, Program.run_bind_ok (Program.run_read _ t)] at hrun
  split at hrun
  · obtain ⟨answer, t', hsend, hrest⟩ := Program.run_bind_eq_ok.mp hrun
    have hturn := h.sendBeacon hw trivial hsend
    split at hrest
    · obtain ⟨hr, rfl⟩ := Prod.mk.inj hrest
      obtain rfl := Except.ok.inj hr
      exact hturn
    · obtain ⟨hr, rfl⟩ := Prod.mk.inj hrest
      obtain rfl := Except.ok.inj hr
      exact hturn
  · obtain ⟨hr, rfl⟩ := Prod.mk.inj hrun
    obtain rfl := Except.ok.inj hr
    exact h.clearCapturedData .openSessions k

/-- A request for a new session is a turn of its own. -/
theorem LoopReceived.sendNewSessionRequest (h : LoopReceived env .newSessions w response t) :
    LoopReceived env .newSessions w (BeaconSend.answerAt env t)
      ({ t with numRequests := t.numRequests + 1 }.write
        (.newSessionRequested (BeaconSend.answerAt env t))) := by
  have hevent : (Event.newSessionRequested (BeaconSend.answerAt env t)).InPhase .newSessions := rfl
  refine Received.trans h (Received.of_request hevent ?_ _)
  cases BeaconSend.answerAt env t with
  | none => rfl
  | some a => rfl

theorem keepsReceived_requestNewSession (h : LoopReceived env .newSessions w response t)
    (hrun : (requestNewSession env k response).run t = (.ok r, u)) :
    KeepsReceived env .newSessions w r u := by
  rw [requestNewSession, Program.run_bind_ok (Program.run_read _ t)] at hrun
  split at hrun
  · obtain ⟨hr, rfl⟩ := Prod.mk.inj hrun
    obtain rfl := Except.ok.inj hr
    exact h.quiet rfl rfl rfl
  · have hturn := h.sendNewSessionRequest
    rw [CaptureOnState.sendNewSessionRequest, Program.run_bind_ok (Program.run_atomic _ t)] at hrun
    split at hrun
    · rw [Program.run_bind_ok (Program.run_atomic _ _),
        Program.run_bind_ok (Program.run_write _ _)] at hrun
      obtain ⟨hr, rfl⟩ := Prod.mk.inj hrun
      obtain rfl := Except.ok.inj hr
      exact hturn.quiet rfl rfl rfl
    · split at hrun
      · obtain ⟨hr, rfl⟩ := Prod.mk.inj hrun
        obtain rfl := Except.ok.inj hr
        exact hturn
      · obtain ⟨hr, rfl⟩ := Prod.mk.inj hrun
        obtain rfl := Except.ok.inj hr
        exact hturn.quiet rfl rfl rfl

/-- A loop whose rounds show their turns returns what its last turn ended with. -/
theorem loopReceived_of_run_forEach {phase : Phase}
    {body : BeaconKey → Option Answer → Sender (ForInStep (Option Answer))}
    (hbody : ∀ k response t r u, LoopReceived env phase w response t →
      (body k response).run t = (.ok r, u) → KeepsReceived env phase w r u)
    {ks : List BeaconKey} (h : (Program.forEach body ks none).run w = (.ok r, t)) :
    LoopReceived env phase w (Program.loopValue r) t := by
  have hround := Program.run_forEach_ok
    (J := fun _ => LoopReceived env phase w) (Q := LoopReceived env phase w)
    (fun k _ response t r u hj hrun => hbody k response t r u hj hrun) (Received.refl w .start) h
  cases r with
  | yield a => exact hround
  | done a => exact hround

end Rounds

theorem received_of_run_sendNewSessionRequests {response : Option Answer}
    (h : (sendNewSessionRequests env).run w = (.ok response, t)) :
    LoopReceived env .newSessions (w.enter .newSessions) response t := by
  rw [sendNewSessionRequests, Program.run_bind_ok (Program.run_write _ w),
    BeaconSendingContext.getAllNotConfiguredSessions,
    Program.run_bind_ok (run_selectSessions _)] at h
  obtain ⟨r, t', hloop, hend⟩ := Program.run_bind_eq_ok.mp h
  obtain ⟨hr, rfl⟩ := Prod.mk.inj hend
  obtain rfl := Except.ok.inj hr
  exact loopReceived_of_run_forEach (fun _ _ _ _ _ => keepsReceived_requestNewSession) hloop

theorem received_of_run_sendFinishedSessions {response : Option Answer}
    (h : (sendFinishedSessions env rounds).run w = (.ok response, t)) :
    LoopReceived env .finishedSessions (w.enter .finishedSessions) response t := by
  rw [run_sendFinishedSessions] at h
  obtain ⟨r, t', hloop, hend⟩ := Program.run_bind_eq_ok.mp h
  obtain ⟨hr, rfl⟩ := Prod.mk.inj hend
  obtain rfl := Except.ok.inj hr
  exact loopReceived_of_run_forEach (fun _ _ _ _ _ => keepsReceived_sendFinishedSession rfl) hloop

/-- The loop over the open sessions may not run at all. -/
theorem received_of_run_sendOpenSessions {response : Option Answer}
    (h : (sendOpenSessions env rounds).run w = (.ok response, t)) :
    LoopReceived env .openSessions (w.enter .openSessions) response t := by
  rw [sendOpenSessions, Program.run_bind_ok (Program.run_write _ w),
    Program.run_bind_ok (Program.run_read _ _), Program.run_bind_ok (Program.run_read _ _),
    Program.run_bind_ok (Program.run_read _ _)] at h
  split at h
  · obtain ⟨hr, rfl⟩ := Prod.mk.inj h
    obtain rfl := Except.ok.inj hr
    exact Received.refl _ _
  · rw [BeaconSendingContext.getAllOpenAndConfiguredSessions,
      Program.run_bind_ok (run_selectSessions _)] at h
    obtain ⟨r, t', hloop, hend⟩ := Program.run_bind_eq_ok.mp h
    rw [Program.run_bind_ok (Program.run_write _ t')] at hend
    obtain ⟨hr, rfl⟩ := Prod.mk.inj hend
    obtain rfl := Except.ok.inj hr
    have hreceived := loopReceived_of_run_forEach
      (fun _ _ _ _ _ => keepsReceived_sendOpenSession rfl) hloop
    exact hreceived.quiet rfl rfl rfl

/-! ## The handling -/

/-- An answer that turns capturing off: an error, or a response that says so. -/
def TurnsCaptureOff (answer : Answer) : Prop :=
  answer.response.isErroneousResponse = true ∨
    answer.response.responseAttributes.isAttributeSet .isCapture = true ∧
      answer.response.responseAttributes.isCapture = false

/-- The context after an answer was handled, as to its configuration. -/
def afterAnswer (c : BeaconSendingContext) (answer : Answer) : BeaconSendingContext :=
  if isSuccessfulResponse (some answer) then (c.updateFrom (some answer)).2 else c.disableCapture

theorem TurnsCaptureOff.isCaptureOn {answer : Answer} (h : TurnsCaptureOff answer)
    (c : BeaconSendingContext) : (afterAnswer c answer).isCaptureOn = false := by
  rw [afterAnswer]
  split
  next hsuccess =>
    rcases h with herror | ⟨hset, hcapture⟩
    · rw [isSuccessfulResponse, herror] at hsuccess
      exact absurd hsuccess Bool.false_ne_true
    · rw [BeaconSendingContext.updateFrom, hsuccess, Bool.not_true, if_neg Bool.false_ne_true]
      show (ServerConfiguration.captureEnabled (ite _ _ _)) = false
      split
      · rfl
      · show (ResponseAttributes.merge _ _).isCapture = false
        rw [ResponseAttributes.merge_isCapture, if_pos hset, hcapture]
  next => rfl

/-- What clearing does to the log and to the configuration of the context. -/
structure ClearStep (w w' : World) : Prop where
  log : ∃ new, w'.log = w.log ++ new ∧ ∀ event ∈ new, event.InPhase .handling
  serverConfiguration : w'.context.serverConfiguration = w.context.serverConfiguration

theorem ClearStep.refl (w : World) : ClearStep w w :=
  ⟨⟨[], (List.append_nil _).symm, List.forall_mem_nil _⟩, rfl⟩

theorem ClearStep.trans {w w' w'' : World} (h : ClearStep w w') (h' : ClearStep w' w'') :
    ClearStep w w'' := by
  obtain ⟨new, hlog, hnew⟩ := h.log
  obtain ⟨new', hlog', hnew'⟩ := h'.log
  refine ⟨⟨new ++ new', ?_, List.forall_mem_append.mpr ⟨hnew, hnew'⟩⟩,
    h'.serverConfiguration.trans h.serverConfiguration⟩
  rw [hlog', hlog, List.append_assoc]

theorem guarantees_clearStep :
    Program.Guarantees ClearStep BeaconSendingContext.clearAllSessionData := by
  refine (Program.guarantees_atomic ClearStep.refl).bind fun sessions => ?_
  refine Program.guarantees_forEach (fun k _ _ => ?_) ()
  refine Program.Guarantees.bind (Program.guarantees_atomic fun w => ?_) fun _ => ?_
  · exact ⟨⟨[.cleared .handling k], rfl, List.forall_mem_singleton.mpr trivial⟩, rfl⟩
  · refine (Program.guarantees_atomic ClearStep.refl).bind fun finished => ?_
    split
    · refine (Program.guarantees_atomic fun w => ?_).bind fun _ => trivial
      exact ⟨⟨[], (List.append_nil _).symm, List.forall_mem_nil _⟩, rfl⟩
    · trivial

/-- The context handles an answer: its configuration follows the answer. -/
theorem run_context_handleStatusResponse {answer : Answer} {r : ForInStep Unit}
    (h : (BeaconSendingContext.handleStatusResponse (some answer)).run w = (.ok r, t)) :
    ClearStep (w.setContext (afterAnswer w.context answer)) t := by
  rw [BeaconSendingContext.handleStatusResponse] at h
  cases hsuccess : isSuccessfulResponse (some answer) with
  | false =>
    rw [hsuccess, Bool.not_false, if_pos rfl, BeaconSendingContext.disableCaptureAndClear,
      Program.run_bind_ok (Program.run_write _ w)] at h
    rw [afterAnswer, hsuccess, if_neg Bool.false_ne_true]
    exact guarantees_clearStep.run ClearStep.refl (fun _ _ _ => ClearStep.trans) h
  | true =>
    rw [hsuccess, Bool.not_true, if_neg Bool.false_ne_true,
      Program.run_bind_ok (Program.run_write _ w), Program.run_bind_ok (Program.run_read _ _)] at h
    rw [afterAnswer, hsuccess, if_pos rfl]
    split at h
    · exact guarantees_clearStep.run ClearStep.refl (fun _ _ _ => ClearStep.trans) h
    · obtain ⟨-, rfl⟩ := Prod.mk.inj h
      exact ClearStep.refl _

/-- **The handling** hands on the answer it is given, and turns capturing off if that says so. -/
theorem handled_of_run_handleStatusResponse {response : Option Answer}
    (h : (handleStatusResponse response).run w = (.ok (), t)) :
    ∃ new, t.log = w.log ++ new ∧ (∀ event ∈ new, event.InPhase .handling) ∧
      handledAnswer new = response ∧
      ∀ answer, response = some answer → TurnsCaptureOff answer →
        t.context.nextState = some (.captureOff (-1)) := by
  cases response with
  | none =>
    obtain ⟨-, rfl⟩ := Prod.mk.inj h
    exact ⟨[], (List.append_nil _).symm, List.forall_mem_nil _, rfl, fun _ hnone => by cases hnone⟩
  | some answer =>
    rw [handleStatusResponse, Program.run_bind_ok (Program.run_write _ w)] at h
    obtain ⟨r, t', hcontext, hrest⟩ := Program.run_bind_eq_ok.mp h
    have hclear := run_context_handleStatusResponse hcontext
    obtain ⟨new, hlog, hnew⟩ := hclear.log
    have hlog' : t'.log = w.log ++ (.handled answer :: new) := by
      rw [hlog, World.log_setContext, World.log_write, World.log_enter, List.append_assoc,
        List.singleton_append]
    have hevents : ∀ event ∈ Event.handled answer :: new, event.InPhase .handling :=
      List.forall_mem_cons.mpr ⟨rfl, hnew⟩
    rw [Program.run_bind_ok (Program.run_read _ t')] at hrest
    cases hcapture : t'.context.isCaptureOn with
    | true =>
      rw [hcapture, Bool.not_true, if_neg Bool.false_ne_true] at hrest
      obtain ⟨-, rfl⟩ := Prod.mk.inj hrest
      refine ⟨_, hlog', hevents, rfl, fun answer' heq hoff => ?_⟩
      obtain rfl := Option.some.inj heq
      have hoff' := hoff.isCaptureOn ((w.enter .handling).write (.handled answer)).context
      rw [BeaconSendingContext.isCaptureOn, hclear.serverConfiguration] at hcapture
      exact absurd (hoff'.symm.trans hcapture) Bool.false_ne_true
    | false =>
      rw [hcapture, Bool.not_false, if_pos rfl, Program.run_write] at hrest
      obtain ⟨-, rfl⟩ := Prod.mk.inj hrest
      exact ⟨_, hlog', hevents, rfl, fun _ _ _ => rfl⟩

/-! ## The cycle -/

theorem lastStatusResponse_eq (newResponse finishedResponse openResponse : Option Answer) :
    lastStatusResponse newResponse finishedResponse openResponse =
      openResponse.or (finishedResponse.or newResponse) := by
  cases openResponse with
  | none => cases finishedResponse <;> rfl
  | some answer => rfl

/-- One loop: the choice between its response and `rest` is right iff the loop kept its last answer,
or received none and `rest` is right. -/
theorem or_eq_getLast?_or_iff {answers : List Answer} {response rest : Option Answer}
    (last : Option Answer)
    (h : ∀ a, response = some a → answers.getLast? = some a)
    (hrest : ∀ a, rest = some a → a ∉ answers) :
    response.or rest = answers.getLast?.or last ↔
      (answers ≠ [] → response ≠ none) ∧ (answers = [] → rest = last) := by
  cases response with
  | some a =>
    have hlast := h a rfl
    have hne : answers ≠ [] := by
      rintro rfl
      cases hlast
    rw [hlast]
    exact iff_of_true rfl ⟨fun _ => Option.some_ne_none a, fun heq => absurd heq hne⟩
  | none =>
    cases hlast : answers.getLast? with
    | none =>
      have hnil := List.getLast?_eq_none_iff.mp hlast
      simp only [Option.none_or, hnil, ne_eq, not_true_eq_false, false_imp_iff, true_and,
        true_imp_iff]
    | some a =>
      -- the last answer is lost: what stands in for it is another one
      have hmem := List.mem_of_getLast? hlast
      have hne : answers ≠ [] := List.ne_nil_of_mem hmem
      refine iff_of_false (fun heq => hrest a ?_ hmem) fun hkept => hkept.1 hne rfl
      exact heq

/-- The response chosen is the last one received iff the last answered loop kept its last one. -/
theorem lastStatusResponse_eq_iff {newAnswers finishedAnswers openAnswers : List Answer}
    {newResponse finishedResponse openResponse : Option Answer}
    (hnew : ∀ a, newResponse = some a → newAnswers.getLast? = some a)
    (hfinished : ∀ a, finishedResponse = some a → finishedAnswers.getLast? = some a)
    (hopen : ∀ a, openResponse = some a → openAnswers.getLast? = some a)
    (hnf : ∀ a ∈ newAnswers, a ∉ finishedAnswers) (hno : ∀ a ∈ newAnswers, a ∉ openAnswers)
    (hfo : ∀ a ∈ finishedAnswers, a ∉ openAnswers) :
    lastStatusResponse newResponse finishedResponse openResponse =
        (finishedAnswers ++ openAnswers).getLast?.or newAnswers.getLast? ↔
      (openAnswers ≠ [] → openResponse ≠ none) ∧
      (openAnswers = [] → finishedAnswers ≠ [] → finishedResponse ≠ none) ∧
      (openAnswers = [] → finishedAnswers = [] → newAnswers ≠ [] → newResponse ≠ none) := by
  have hnewIff : newResponse = newAnswers.getLast? ↔ (newAnswers ≠ [] → newResponse ≠ none) := by
    have h := or_eq_getLast?_or_iff none hnew fun _ (hnone : none = _) => by cases hnone
    simpa only [Option.or_none, implies_true, and_true] using h
  have hfinishedIff := or_eq_getLast?_or_iff newAnswers.getLast? hfinished
    fun a ha => hnf a (List.mem_of_getLast? (hnew a ha))
  have hopenIff := or_eq_getLast?_or_iff (finishedAnswers.getLast?.or newAnswers.getLast?) hopen
    fun a (ha : finishedResponse.or newResponse = some a) => by
      rcases Option.or_eq_some_iff.mp ha with hf | ⟨-, hn⟩
      · exact hfo a (List.mem_of_getLast? (hfinished a hf))
      · exact hno a (List.mem_of_getLast? (hnew a hn))
  rw [lastStatusResponse_eq, List.getLast?_append, Option.or_assoc, hopenIff, hfinishedIff, hnewIff]
  constructor
  · rintro ⟨hopen, hrest⟩
    exact ⟨hopen, fun h => (hrest h).1, fun h => (hrest h).2⟩
  · rintro ⟨hopen, hfinished, hnew⟩
    exact ⟨hopen, fun h => ⟨hfinished h, hnew h⟩⟩

/-- The answer handled is the last one received, and it turns capturing off if it says so. -/
def AnswersHandled (log : List Event) (t : World) : Prop :=
  handledAnswer log = lastReceived log ∧
    ∀ answer, lastReceived log = some answer → TurnsCaptureOff answer →
      t.context.nextState = some (.captureOff (-1))

/-- The server never asks for a pause. -/
def NeverTooMany (env : Environment) : Prop :=
  ∀ n response, env.response n = some response → response.isTooManyRequestsResponse = false

theorem LoopReceived.notTooMany {phase : Phase} {response : Option Answer}
    (h : LoopReceived env phase w response t) (hmany : NeverTooMany env) :
    isTooManyRequestsResponse response = false := by
  cases response with
  | none => rfl
  | some answer =>
    obtain ⟨new, hran, -, hlast⟩ := h
    have hanswer := hran.answers answer (List.mem_of_getLast? (hlast answer rfl))
    exact hmany _ _ hanswer.2

/-- Answers to earlier and to later requests are different ones. -/
theorem not_mem_of_ran {phase phase' : Phase} {t' u : World} {new new' : List Event}
    (h : Ran env phase w t new) (h' : Ran env phase' t' u new')
    (hle : t.numRequests ≤ t'.numRequests) :
    ∀ a ∈ answersIn phase new, a ∉ answersIn phase' new' := by
  intro a ha ha'
  have hbefore := (h.answers a ha).1.2
  have hafter := (h'.answers a ha').1.1
  omega

/-- The parts of a cycle that went through. -/
theorem run_doExecute_parts (hmany : NeverTooMany env)
    (hshutdown : w.context.isShutdownRequested = false)
    (hrun : (doExecute env rounds).run w = (.ok (), t)) :
    ∃ newResponse finishedResponse openResponse t₀ t₁ t₂,
      LoopReceived env .newSessions (w.enter .newSessions) newResponse t₀ ∧
      LoopReceived env .finishedSessions (t₀.enter .finishedSessions) finishedResponse t₁ ∧
      LoopReceived env .openSessions (t₁.enter .openSessions) openResponse t₂ ∧
      (handleStatusResponse
        (lastStatusResponse newResponse finishedResponse openResponse)).run t₂ = (.ok (), t) := by
  have hrest := hrun
  rw [doExecute, Program.run_bind_ok (Program.run_read _ w), hshutdown,
    if_neg Bool.false_ne_true] at hrest
  obtain ⟨newResponse, t₀, hnew, hrest⟩ := Program.run_bind_eq_ok.mp hrest
  have hnewReceived := received_of_run_sendNewSessionRequests hnew
  have hnewMany := hnewReceived.notTooMany hmany
  rw [hnewMany, if_neg Bool.false_ne_true] at hrest
  obtain ⟨finishedResponse, t₁, hfinished, -⟩ := Program.run_bind_eq_ok.mp hrest
  have hfinishedReceived := received_of_run_sendFinishedSessions hfinished
  rw [run_doExecute hshutdown hnew hnewMany hfinished (hfinishedReceived.notTooMany hmany)] at hrun
  obtain ⟨openResponse, t₂, hopen, hend⟩ := Program.run_bind_eq_ok.mp hrun
  have hopenReceived := received_of_run_sendOpenSessions hopen
  rw [hopenReceived.notTooMany hmany, if_neg Bool.false_ne_true] at hend
  exact ⟨newResponse, finishedResponse, openResponse, t₀, t₁, t₂, hnewReceived, hfinishedReceived,
    hopenReceived, hend⟩

/-- **The last answer of a cycle** is handled, and turns capturing off if it says so, iff in the
last of the loops that received an answer the last turn made a request and the last request it made
was answered. -/
theorem answersHandled_iff (hmany : NeverTooMany env)
    (hrun : (doExecute env rounds).run w = (.ok (), t)) :
    ∃ new, t.log = w.log ++ new ∧ (AnswersHandled new t ↔ LastTurnsAnswered new) := by
  cases hshutdown : w.context.isShutdownRequested with
  | true =>
    rw [doExecute, Program.run_bind_ok (Program.run_read _ w), hshutdown, if_pos rfl] at hrun
    obtain ⟨-, rfl⟩ := Prod.mk.inj hrun
    refine ⟨[], (List.append_nil _).symm, iff_of_true ⟨rfl, fun _ hnone => ?_⟩ (by decide)⟩
    cases hnone
  | false =>
    obtain ⟨newResponse, finishedResponse, openResponse, t₀, t₁, t₂, hnew, hfinished, hopen, hend⟩ :=
      run_doExecute_parts hmany hshutdown hrun
    obtain ⟨new, hranNew, hturnsNew, hlastNew⟩ := hnew
    obtain ⟨finished, hranFinished, hturnsFinished, hlastFinished⟩ := hfinished
    obtain ⟨opened, hranOpen, hturnsOpen, hlastOpen⟩ := hopen
    obtain ⟨handling, hlog, hhandling, hhandled, hoff⟩ := handled_of_run_handleStatusResponse hend
    have hcycle : CycleLog new finished opened handling :=
      ⟨hranNew.inPhase, hranFinished.inPhase, hranOpen.inPhase, hhandling⟩
    have hchosen := lastStatusResponse_eq_iff hlastNew hlastFinished hlastOpen
      (not_mem_of_ran hranNew hranFinished le_rfl) (not_mem_of_ran hranNew hranOpen hranFinished.le)
      (not_mem_of_ran hranFinished hranOpen le_rfl)
    refine ⟨new ++ (finished ++ (opened ++ handling)), ?_, ?_⟩
    · rw [hlog, hranOpen.log, World.log_enter, hranFinished.log, World.log_enter, hranNew.log,
        World.log_enter]
      simp only [List.append_assoc]
    · rw [LastTurnsAnswered, lastTurnAnswer, lastTurnAnswer, lastTurnAnswer,
        hcycle.answersIn_openSessions, hcycle.answersIn_finishedSessions,
        hcycle.answersIn_newSessions, hcycle.replay_openSessions, hcycle.replay_finishedSessions,
        hcycle.replay_newSessions, hturnsNew, hturnsFinished, hturnsOpen, ← hchosen,
        AnswersHandled, hcycle.handledAnswer_eq, hcycle.lastReceived_eq, hhandled]
      refine ⟨And.left, fun heq => ⟨heq, fun answer hlast => hoff answer ?_⟩⟩
      exact heq.trans hlast

/-! ## A server that turns capturing off -/

/-- A server whose every answer turns capturing off. -/
def captureOffEnvironment : Environment where
  response _ := some ⟨ResponseAttributes.undefined.withCapture false, 200, 0⟩
  mutableBeaconData _ _ := .nil

theorem neverTooMany_captureOff : NeverTooMany captureOffEnvironment := by
  intro n response h
  obtain rfl := Option.some.inj h
  rfl

/-- Some finished sessions, of which the first has an event. -/
def finishedWithOneEvent (ks : List BeaconKey) : World :=
  (World.new (fun _ => finishedSession)
    (ks.foldl BeaconSendingContext.addSession (BeaconSendingContext.new ⟨1, .nil⟩))).addData ⟨1, 0⟩
      .event 0 (.ofAscii ['e', 't', '=', '1', '8'])

/-- With one session the answer is handled. -/
theorem answersHandled_of_oneSession :
    let w := finishedWithOneEvent [⟨1, 0⟩]
    ∃ t new, (doExecute captureOffEnvironment 2).run w = (.ok (), t) ∧ t.log = w.log ++ new ∧
      AnswersHandled new t := by
  intro w
  have hok : ((doExecute captureOffEnvironment 2).run w).1 = .ok () := by decide
  have hturns : LastTurnsAnswered (((doExecute captureOffEnvironment 2).run w).2.log.drop 1) := by
    decide
  rcases hrun : (doExecute captureOffEnvironment 2).run w with ⟨r, t⟩
  rw [hrun] at hok hturns
  obtain rfl : r = .ok () := hok
  obtain ⟨new, hlog, hiff⟩ := answersHandled_iff neverTooMany_captureOff hrun
  have hnew : t.log.drop 1 = new := by
    rw [hlog]
    rfl
  exact ⟨t, new, rfl, hlog, hiff.mpr (hnew ▸ hturns)⟩

/-- A session without data after the one that was answered: the answer is ignored. -/
theorem not_answersHandled :
    ¬ ∀ (env : Environment) (rounds : ℕ) (w t : World), NeverTooMany env →
      (doExecute env rounds).run w = (.ok (), t) →
        ∃ new, t.log = w.log ++ new ∧ AnswersHandled new t := by
  intro h
  let w := finishedWithOneEvent [⟨1, 0⟩, ⟨2, 0⟩]
  have hok : ((doExecute captureOffEnvironment 2).run w).1 = .ok () := by decide
  have hignored : let log := ((doExecute captureOffEnvironment 2).run w).2.log.drop 1
      handledAnswer log = none ∧ lastReceived log ≠ none := by decide
  rcases hrun : (doExecute captureOffEnvironment 2).run w with ⟨r, t⟩
  rw [hrun] at hok hignored
  obtain rfl : r = .ok () := hok
  obtain ⟨new, hlog, hhandled, -⟩ := h _ _ w t neverTooMany_captureOff hrun
  have hnew : t.log.drop 1 = new := by
    rw [hlog]
    rfl
  obtain ⟨hnone, hsome⟩ := hignored
  rw [hnew] at hnone hsome
  exact hsome (hhandled.symm.trans hnone)

end CaptureOnState

end OpenKit
