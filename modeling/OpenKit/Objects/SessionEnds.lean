import OpenKit.Objects.SessionCalls

/-!
# How calls end sessions

A session ends when it is told to, or when its last child is closed after it was tried for ending. All
other calls are plain: they neither end a session nor report an end, and a session that waits for
its children keeps waiting. So a session that was tried for ending and is not finished has children.

## Main definitions

* `ObjectCall.closes`: a call that leaves an action or stops a web request
* `SessionCall.closesLastChild`: a call that closes the last child of a session that waits for it
* `PlainStep`: what the other calls may do
* `Session.Orderly`: a settled session that has children if it waits for them

## Main results

* `plainStep_of_run_perform`: the calls that are plain
* `endedFrom_of_run_endWith`, `run_tryEnd`: what the calls do that end a session, or try to
* `orderly_of_run_perform`: all calls keep sessions orderly
-/

namespace OpenKit

open Thread

/-- The call closes the object. -/
def ObjectCall.closes : ObjectCall → OpenKitObject → Bool
  | .leaveAction, .action _ _ => true
  | .cancelAction, .action _ _ => true
  | .stop _, .webRequest _ => true
  | _, _ => false

/-- The call closes the last child of a session that was tried for ending. -/
def SessionCall.closesLastChild (session : Session) : SessionCall → Bool
  | .onObject handle call =>
    match OpenKitObject.findIn handle session.children with
    | some object => call.closes object && (session.wasTriedForEnding &&
        (OpenKitObject.updateIn handle (fun _ => none) session.children).isEmpty)
    | none => false
  | _ => false

/-- A session that waits for its children has some. -/
structure Session.Orderly (s : Session) : Prop extends s.Settled where
  waiting : s.wasTriedForEnding = true → s.isSessionFinished = false → s.children ≠ []

/-- A step of a call that neither ends the session nor tries to, and that does not take the last child
of a session that was tried for ending. -/
structure PlainStep (s s' : Reporting) : Prop extends CallStepOf (· ≠ .sessionEnd) s s' where
  isSessionFinishing : s'.session.isSessionFinishing = s.session.isSessionFinishing
  isSessionFinished : s'.session.isSessionFinished = s.session.isSessionFinished
  wasTriedForEnding : s'.session.wasTriedForEnding = s.session.wasTriedForEnding
  children : s'.session.children = [] →
    s.session.children = [] ∨ s.session.wasTriedForEnding = false

namespace PlainStep

variable {s s' s'' : Reporting}

theorem refl (s : Reporting) : PlainStep s s := ⟨.refl s, rfl, rfl, rfl, .inl⟩

theorem trans (h : PlainStep s s') (h' : PlainStep s' s'') : PlainStep s s'' := by
  refine ⟨h.toCallStepOf.trans h'.toCallStepOf, h'.isSessionFinishing.trans h.isSessionFinishing,
    h'.isSessionFinished.trans h.isSessionFinished, h'.wasTriedForEnding.trans h.wasTriedForEnding,
    fun hnil => ?_⟩
  rcases h'.children hnil with hnil' | htried
  · exact h.children hnil'
  · exact .inr (h.wasTriedForEnding.symm.trans htried)

/-- A report works on the beacon only. -/
theorem of_reportStepOf (h : ReportStepOf (· ≠ .sessionEnd) s s') : PlainStep s s' := by
  obtain ⟨beacon, hsession, -⟩ := h.session
  refine ⟨h.callStepOf, ?_, ?_, ?_, fun hnil => .inl ?_⟩
  · rw [hsession]
  · rw [hsession]
  · rw [hsession]
  · rwa [hsession] at hnil

/-- **Plain steps** keep a session orderly. -/
theorem orderly (h : PlainStep s s') (horderly : s.session.Orderly)
    (hchildren : s.session.isSessionFinished = true → s'.session.children = []) :
    s'.session.Orderly := by
  refine ⟨⟨?_, fun hfinished => ?_⟩, fun htried hfinished hnil => ?_⟩
  · rw [h.isSessionFinishing, h.isSessionFinished]
    exact horderly.finishing
  · rw [h.isSessionFinished] at hfinished
    exact hchildren hfinished
  · rw [h.wasTriedForEnding] at htried
    rw [h.isSessionFinished] at hfinished
    rcases h.children hnil with hnil' | hnot
    · exact horderly.waiting htried hfinished hnil'
    · cases htried.symm.trans hnot

end PlainStep

namespace OpenKitObject

/-- A change that detaches nothing leaves something of each object. -/
theorem updateIn_ne_nil {handle : ℤ} {f : OpenKitObject → Option OpenKitObject}
    (hf : ∀ object, (f object).isSome = true) {objects : List OpenKitObject} (hne : objects ≠ []) :
    updateIn handle f objects ≠ [] := by
  cases objects with
  | nil => exact absurd rfl hne
  | cons object objects =>
    have hsome : (update handle f object).isSome = true := by
      cases object with
      | action a children =>
        rw [update]
        split
        · exact hf _
        · rfl
      | webRequest tracer =>
        rw [update]
        split
        · exact hf _
        · rfl
    obtain ⟨object', hobject'⟩ := Option.isSome_iff_exists.mp hsome
    rw [updateIn, hobject']
    exact List.cons_ne_nil _ _

end OpenKitObject

namespace SessionCalls

open BeaconReports

variable {caller : Caller} {s s' : Reporting}

/-! ## Plain calls -/

theorem plain_report {α : Type} {p : Reporter α}
    (h : Program.Guarantees (ReportStepOf (· ≠ .sessionEnd)) p) : Program.Guarantees PlainStep p :=
  h.mono fun _ _ => PlainStep.of_reportStepOf

theorem plain_updateChildren {f : List OpenKitObject → List OpenKitObject}
    (hf : ∀ objects, objects ≠ [] → f objects ≠ []) :
    Program.Guarantees PlainStep (updateChildren f) := by
  refine Program.guarantees_atomic fun s => ⟨.of_session rfl rfl, rfl, rfl, rfl, fun hnil => .inl ?_⟩
  by_contra hne
  exact hf _ hne hnil

theorem plain_storeChild (child : OpenKitObject) : Program.Guarantees PlainStep (storeChild child) :=
  plain_updateChildren fun objects _ => by simp

theorem plain_storeChildAt (handle : ℤ) (child : OpenKitObject) :
    Program.Guarantees PlainStep (storeChildAt handle child) :=
  plain_updateChildren fun _ hne => OpenKitObject.updateIn_ne_nil
    (fun object => by cases object <;> rfl) hne

theorem plain_updateTracer (handle : ℤ) (f : WebRequestTracer → WebRequestTracer) :
    Program.Guarantees PlainStep (updateTracer handle f) :=
  plain_updateChildren fun _ hne => OpenKitObject.updateIn_ne_nil
    (fun object => by cases object <;> rfl) hne

theorem plain_ite {c : Prop} [Decidable c] {body : Reporter Unit}
    (h : Program.Guarantees (ReportStepOf (· ≠ .sessionEnd)) body) :
    Program.Guarantees PlainStep (if c then body else Program.ret ()) := by
  split
  · exact plain_report h
  · trivial

/-- A new child is stored, if its name is not empty. -/
theorem plain_dite {c : Prop} [Decidable c] {create : c → Reporter OpenKitObject}
    {store : OpenKitObject → Reporter Unit}
    (h : ∀ hc, Program.Guarantees (ReportStepOf (· ≠ .sessionEnd)) (create hc))
    (hstore : ∀ child, Program.Guarantees PlainStep (store child)) :
    Program.Guarantees PlainStep (if hc : c then create hc >>= store else Program.ret ()) := by
  split
  · exact (plain_report (h _)).bind hstore
  · trivial

theorem plain_whenOpen {body : Reporter Unit} (h : Program.Guarantees PlainStep body) :
    Program.Guarantees PlainStep (whenOpen body) := by
  refine Program.Guarantees.bind (Program.guarantees_atomic PlainStep.refl) fun ended => ?_
  split
  · exact h
  · trivial

/-- A call that does not close its object. -/
theorem plain_performObjectCall (handle : ℤ) {call : ObjectCall} {object : OpenKitObject}
    (h : call.closes object = false) :
    Program.Guarantees PlainStep (performObjectCall caller handle call object) := by
  cases object with
  | action a children =>
    cases call with
    | enterAction name =>
      exact plain_dite (fun hname => guarantees_newAction name hname _) (plain_storeChildAt handle)
    | reportEvent eventName => exact plain_ite (guarantees_reportEvent (by decide) _ _)
    | reportIntValue valueName value =>
      exact plain_ite (guarantees_reportValue (by decide) (fun _ h => h.addKeyIntPair _ _) _ _)
    | reportDoubleValue valueName value =>
      exact plain_ite (guarantees_reportValue (by decide) (fun _ h => h.addKeyValuePair _ _) _ _)
    | reportStringValue valueName value =>
      exact plain_ite (guarantees_reportValue (by decide)
        (fun _ h => h.addKeyValuePairIfNotEmpty _ _) _ _)
    | reportErrorCode errorName errorCode =>
      exact plain_ite (guarantees_reportErrorCode (by decide) _ _ _)
    | reportErrorCause errorName causeName causeDescription causeStackTrace =>
      exact plain_ite (guarantees_reportErrorCause (by decide) _ _ _ _ _)
    | traceWebRequest url =>
      exact plain_dite (fun hurl => guarantees_newWebRequest url hurl _) (plain_storeChildAt handle)
    | leaveAction => cases h
    | cancelAction => cases h
    | _ => trivial
  | webRequest tracer =>
    cases call with
    | start =>
      exact (plain_report guarantees_provideTimestampInMilliseconds).bind fun _ =>
        plain_updateTracer handle _
    | setBytesSent bytesSent => exact plain_updateTracer handle _
    | setBytesReceived bytesReceived => exact plain_updateTracer handle _
    | stop responseCode => cases h
    | _ => trivial

/-- A call on the session itself that does not end it. -/
theorem plain_perform {call : SessionCall} (hclose : call ≠ .close)
    (hobject : ∀ handle objectCall, call ≠ .onObject handle objectCall) :
    Program.Guarantees PlainStep (perform caller call) := by
  cases call with
  | enterAction name =>
    rw [perform]
    split
    next hname =>
      exact plain_whenOpen ((plain_report (guarantees_newAction name hname _)).bind plain_storeChild)
    next => trivial
  | identifyUser userTag =>
    exact plain_whenOpen (plain_report (guarantees_identifyUser (by decide) userTag))
  | reportCrash errorName reason stacktrace =>
    rw [perform]
    split
    · exact plain_whenOpen (plain_report (guarantees_reportCrash (by decide) _ _ _))
    · trivial
  | traceWebRequest url =>
    rw [perform]
    split
    next hurl =>
      exact plain_whenOpen
        ((plain_report (guarantees_newWebRequest url hurl _)).bind plain_storeChild)
    next => trivial
  | sendEvent name jsonPayload =>
    rw [perform]
    split
    · exact plain_whenOpen (plain_report (guarantees_sendEvent (by decide) _ _))
    · trivial
  | sendBizEvent type jsonPayload =>
    rw [perform]
    split
    · exact plain_whenOpen (plain_report (guarantees_sendBizEvent (by decide) _ _))
    · trivial
  | close => exact absurd rfl hclose
  | onObject handle objectCall => exact absurd rfl (hobject handle objectCall)

/-! ## Ending -/

/-- A step that does not say that the session was tried for ending. -/
def KeepsTried (s s' : Reporting) : Prop :=
  s'.session.wasTriedForEnding = s.session.wasTriedForEnding

theorem keepsTried_endWith (sendSessionEndEvent : Bool) :
    Program.Guarantees KeepsTried (endWith caller sendSessionEndEvent) := by
  have hreport {α : Type} {p : Reporter α} (h : Program.Guarantees (ReportStepOf fun _ => True) p) :
      Program.Guarantees KeepsTried p := by
    refine h.mono fun s s' hstep => ?_
    obtain ⟨beacon, hsession, -⟩ := hstep.session
    rw [KeepsTried, hsession]
  refine Program.Guarantees.bind (Program.guarantees_atomic fun _ => rfl) fun ended => ?_
  split
  · trivial
  · refine Program.Guarantees.bind (Program.guarantees_atomic fun _ => rfl) fun _ => ?_
    refine Program.Guarantees.bind (Program.guarantees_atomic fun _ => rfl) fun children => ?_
    refine (hreport (guarantees_leaveChildren false trivial trivial _)).bind fun _ => ?_
    refine Program.Guarantees.bind (Program.guarantees_atomic fun _ => rfl) fun _ => ?_
    split
    · exact (hreport (guarantees_endSession trivial)).bind fun _ =>
        Program.guarantees_atomic fun _ => rfl
    · exact Program.guarantees_atomic fun _ => rfl

variable (caller) in
theorem returns_endWith (sendSessionEndEvent : Bool) :
    (endWith caller sendSessionEndEvent).Returns := by
  refine (Program.returns_atomic _).bind fun ended => ?_
  split
  · trivial
  · refine (Program.returns_atomic _).bind fun _ => ?_
    refine (Program.returns_atomic _).bind fun children => ?_
    refine (returns_leaveChildren false children).bind fun _ => ?_
    refine (Program.returns_atomic _).bind fun _ => ?_
    split
    · exact returns_endSession.bind fun _ => Program.returns_atomic _
    · exact Program.returns_atomic _

/-- A finished session is not ended again. -/
theorem run_endWith_of_finished (sendSessionEndEvent : Bool)
    (hfinished : s.session.isSessionFinished = true) :
    (endWith caller sendSessionEndEvent).run s = (.ok (), s) := by
  have hended : s.session.isFinishingOrFinished = true := by
    rw [Session.isFinishingOrFinished, hfinished, Bool.or_true]
  rw [endWith, Program.run_bind_ok (Program.run_read _ s), hended]
  rfl

/-- What is left by an end: the session is finished, and has no children. -/
structure EndedFrom (s s' : Reporting) : Prop where
  isSessionFinishing : s'.session.isSessionFinishing = true
  isSessionFinished : s'.session.isSessionFinished = true
  children : s'.session.children = []
  wasTriedForEnding : s'.session.wasTriedForEnding = s.session.wasTriedForEnding

theorem EndedFrom.orderly (h : EndedFrom s s') : s'.session.Orderly :=
  ⟨⟨h.isSessionFinishing.trans h.isSessionFinished.symm, fun _ => h.children⟩,
    fun _ hfinished => absurd (h.isSessionFinished.symm.trans hfinished) (by decide)⟩

variable (caller) in
/-- **Ending a settled session** finishes it. -/
theorem endedFrom_of_run_endWith (sendSessionEndEvent : Bool) (hsettled : s.session.Settled) :
    ∃ s', (endWith caller sendSessionEndEvent).run s = (.ok (), s') ∧ EndedFrom s s' := by
  cases hfinished : s.session.isSessionFinished with
  | true =>
    refine ⟨s, run_endWith_of_finished sendSessionEndEvent hfinished, ?_⟩
    exact ⟨hsettled.finishing.trans hfinished, hfinished, hsettled.children hfinished, rfl⟩
  | false =>
    obtain ⟨s', hrun, hfinishing, hfinished', hchildren⟩ :
        ∃ s', (endWith caller sendSessionEndEvent).run s = (.ok (), s') ∧ _ :=
      run_endWith sendSessionEndEvent (hsettled.isOpen hfinished)
    refine ⟨s', hrun, hfinishing, hfinished', hchildren, ?_⟩
    exact (keepsTried_endWith sendSessionEndEvent).run (fun _ => rfl)
      (fun _ _ _ h h' => h'.trans h) hrun

/-- Without its event, the end is not reported. -/
theorem guarantees_endWith_false :
    Program.Guarantees (CallStepOf (· ≠ .sessionEnd)) (endWith caller false) :=
  guarantees_endWith (by decide) (by decide) fun h => absurd h Bool.false_ne_true

/-- What `tryEnd` leaves of a session that it has only marked. -/
def marked (s : Reporting) : Reporting :=
  s.setSession { s.session with wasTriedForEnding := true }

variable (caller) in
/-- **Trying to end** a settled session: one with children is marked, and any other one is finished. -/
theorem run_tryEnd (hsettled : s.session.Settled) :
    (s.session.children ≠ [] ∧ (tryEnd caller).run s = (.ok false, marked s)) ∨
      ∃ s', (endWith caller false).run s = (.ok (), s') ∧ (tryEnd caller).run s = (.ok true, s') ∧
        EndedFrom s s' := by
  obtain ⟨s', hrun, hended⟩ := endedFrom_of_run_endWith caller false hsettled
  cases hfinished : s.session.isSessionFinished with
  | true =>
    refine .inr ⟨s', hrun, ?_, hended⟩
    rw [run_endWith_of_finished false hfinished] at hrun
    obtain ⟨-, rfl⟩ := Prod.mk.inj hrun
    have hended : s.session.isFinishingOrFinished = true := by
      rw [Session.isFinishingOrFinished, hfinished, Bool.or_true]
    rw [tryEnd, Program.run_bind_ok (Program.run_read _ s), hended]
    rfl
  | false =>
    obtain ⟨hfinishing, -⟩ := hsettled.isOpen hfinished
    have hopen : s.session.isFinishingOrFinished = false := by
      rw [Session.isFinishingOrFinished, hfinished, hfinishing]
      rfl
    rw [tryEnd, Program.run_bind_ok (Program.run_read _ s), hopen, if_neg Bool.false_ne_true,
      Program.run_bind_ok (Program.run_read _ s)]
    cases hchildren : s.session.children with
    | nil =>
      refine .inr ⟨s', hrun, ?_, hended⟩
      rw [List.isEmpty_nil, if_pos rfl, Program.run_bind_ok hrun]
      rfl
    | cons child children => exact .inl ⟨List.cons_ne_nil _ _, rfl⟩

/-! ## Closing an object -/

variable (caller) in
/-- What a call does before it detaches the object that it closes. -/
theorem performObjectCall_of_closes (handle : ℤ) {call : ObjectCall} {object : OpenKitObject}
    (h : call.closes object = true) :
    ∃ leave : Reporter Unit, Program.Guarantees (ReportStepOf (· ≠ .sessionEnd)) leave ∧
      leave.Returns ∧ performObjectCall caller handle call object =
        leave >>= fun _ => onChildClosed caller handle := by
  cases object with
  | action a children =>
    cases call with
    | leaveAction =>
      exact ⟨_, guarantees_leaveObject false (by decide) (by decide) _, returns_leaveObject _ _, rfl⟩
    | cancelAction =>
      exact ⟨_, guarantees_leaveObject true (by decide) (by decide) _, returns_leaveObject _ _, rfl⟩
    | _ => cases h
  | webRequest tracer =>
    cases call with
    | stop responseCode =>
      exact ⟨_, guarantees_doStop false (by decide) responseCode tracer, returns_doStop _ _ _, rfl⟩
    | _ => cases h

/-- What detaching an object leaves; the session is not asked yet whether it ends. -/
def detached (handle : ℤ) (s : Reporting) : Reporting :=
  s.setSession { s.session with
    children := OpenKitObject.updateIn handle (fun _ => none) s.session.children }

variable (caller) in
/-- **Closing an object** of a session: the session may end by it, or the step is plain. -/
theorem run_close (handle : ℤ) {call : ObjectCall} {object : OpenKitObject}
    (hcloses : call.closes object = true) (s : Reporting) :
    ∃ t, t.session.isSessionFinishing = s.session.isSessionFinishing ∧
      t.session.isSessionFinished = s.session.isSessionFinished ∧
      t.session.wasTriedForEnding = s.session.wasTriedForEnding ∧
      t.session.children = OpenKitObject.updateIn handle (fun _ => none) s.session.children ∧
      CallStepOf (· ≠ .sessionEnd) s t ∧
      (performObjectCall caller handle call object).run s =
        if t.session.wasTriedForEnding && t.session.children.isEmpty then (endWith caller true).run t
        else (.ok (), t) := by
  obtain ⟨leave, hguarantees, hreturns, hperform⟩ :=
    performObjectCall_of_closes caller handle hcloses
  obtain ⟨_, r, hleave⟩ := hreturns.run s
  have hstep : ReportStepOf (· ≠ .sessionEnd) s r :=
    hguarantees.run ReportStepOf.refl (fun _ _ _ => ReportStepOf.trans) hleave
  obtain ⟨beacon, hsession, -⟩ := hstep.session
  refine ⟨detached handle r, ?_, ?_, ?_, ?_,
    hstep.callStepOf.trans (.of_session rfl rfl), ?_⟩
  · show r.session.isSessionFinishing = _
    rw [hsession]
  · show r.session.isSessionFinished = _
    rw [hsession]
  · show r.session.wasTriedForEnding = _
    rw [hsession]
  · show OpenKitObject.updateIn handle (fun _ => none) r.session.children = _
    rw [hsession]
  · rw [hperform, Program.run_bind_ok hleave, onChildClosed, updateChildren,
      Program.run_bind_ok (Program.run_write _ r), Program.run_bind_ok (Program.run_read _ _)]
    rw [← detached]
    split
    · rfl
    · rfl

/-! ## What a call leaves -/

/-- **The plain calls**: those that do not end the session. -/
theorem plainStep_of_run_perform {call : SessionCall} {x : Except BeaconError Unit}
    (hclose : call ≠ .close) (hlast : call.closesLastChild s.session = false)
    (hrun : (perform caller call).run s = (x, s')) : PlainStep s s' := by
  cases call with
  | onObject handle objectCall =>
    rw [perform, Program.run_bind_ok (Program.run_read _ s)] at hrun
    rw [SessionCall.closesLastChild] at hlast
    cases hfind : OpenKitObject.findIn handle s.session.children with
    | none =>
      rw [hfind] at hrun
      obtain ⟨-, rfl⟩ := Prod.mk.inj hrun
      exact .refl s
    | some object =>
      rw [hfind] at hrun hlast
      dsimp only at hrun hlast
      cases hcloses : objectCall.closes object with
      | false =>
        exact (plain_performObjectCall handle hcloses).run PlainStep.refl
          (fun _ _ _ => PlainStep.trans) hrun
      | true =>
        obtain ⟨t, hfinishing, hfinished, htried, hchildren, hstep, hrunT⟩ :=
          run_close caller handle hcloses s
        -- the session does not end, as it does not wait for this child only
        have hwaits : (t.session.wasTriedForEnding && t.session.children.isEmpty) = false := by
          rwa [hcloses, Bool.true_and, ← htried, ← hchildren] at hlast
        rw [hrunT, hwaits, if_neg Bool.false_ne_true] at hrun
        obtain ⟨-, rfl⟩ := Prod.mk.inj hrun
        refine ⟨hstep, hfinishing, hfinished, htried, fun hnil => .inr ?_⟩
        rwa [hnil, List.isEmpty_nil, Bool.and_true, htried] at hwaits
  | _ =>
    refine (plain_perform hclose fun _ _ hobject => ?_).run PlainStep.refl
      (fun _ _ _ => PlainStep.trans) hrun
    cases hobject

/-- **The last child** of a session that waits for it: closing it ends the session. -/
theorem endedFrom_of_run_perform {call : SessionCall} {x : Except BeaconError Unit}
    (hsettled : s.session.Settled) (hlast : call.closesLastChild s.session = true)
    (hrun : (perform caller call).run s = (x, s')) : EndedFrom s s' := by
  cases call with
  | onObject handle objectCall =>
    rw [perform, Program.run_bind_ok (Program.run_read _ s)] at hrun
    rw [SessionCall.closesLastChild] at hlast
    cases hfind : OpenKitObject.findIn handle s.session.children with
    | none =>
      rw [hfind] at hlast
      cases hlast
    | some object =>
      rw [hfind] at hrun hlast
      dsimp only at hrun hlast
      obtain ⟨hcloses, hwaits⟩ := Bool.and_eq_true_iff.mp hlast
      obtain ⟨t, hfinishing, hfinished, htried, hchildren, -, hrunT⟩ :=
        run_close caller handle hcloses s
      rw [← htried, ← hchildren] at hwaits
      rw [hrunT, hwaits, if_pos rfl] at hrun
      have hsettledT : t.session.Settled := by
        refine ⟨hfinishing.trans (hsettled.finishing.trans hfinished.symm), fun _ => ?_⟩
        exact List.isEmpty_iff.mp (Bool.and_eq_true_iff.mp hwaits).2
      obtain ⟨u, hrunU, hended⟩ := endedFrom_of_run_endWith caller true hsettledT
      obtain ⟨-, rfl⟩ := Prod.mk.inj (hrunU.symm.trans hrun)
      exact ⟨hended.isSessionFinishing, hended.isSessionFinished, hended.children,
        hended.wasTriedForEnding.trans htried⟩
  | _ => cases hlast

/-- **Calls keep sessions orderly**, and do not try to end them. -/
theorem orderly_of_run_perform {call : SessionCall} {x : Except BeaconError Unit}
    (horderly : s.session.Orderly) (hrun : (perform caller call).run s = (x, s')) :
    s'.session.Orderly ∧ s'.session.wasTriedForEnding = s.session.wasTriedForEnding := by
  by_cases hclose : call = .close
  · subst hclose
    obtain ⟨t, hrunT, hended⟩ := endedFrom_of_run_endWith caller true horderly.toSettled
    obtain ⟨-, rfl⟩ := Prod.mk.inj (hrunT.symm.trans hrun)
    exact ⟨hended.orderly, hended.wasTriedForEnding⟩
  · cases hlast : call.closesLastChild s.session with
    | true =>
      have hended := endedFrom_of_run_perform horderly.toSettled hlast hrun
      exact ⟨hended.orderly, hended.wasTriedForEnding⟩
    | false =>
      have hplain := plainStep_of_run_perform hclose hlast hrun
      refine ⟨hplain.orderly horderly fun hfinished => ?_, hplain.wasTriedForEnding⟩
      rw [run_perform_of_finished call horderly.toSettled hfinished] at hrun
      obtain ⟨-, rfl⟩ := Prod.mk.inj hrun
      exact horderly.children hfinished

variable (caller) in
/-- The user of a session is identified without an exception. -/
theorem returns_perform_identifyUser (userTag : UTF8String) :
    (perform caller (.identifyUser userTag)).Returns := by
  refine (Program.returns_atomic _).bind fun ended => ?_
  split
  · exact returns_report ((returns_buildEvent _ _).bind fun _ => Program.returns_atomic _)
  · trivial

end SessionCalls

end OpenKit
