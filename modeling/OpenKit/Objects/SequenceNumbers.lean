import OpenKit.Objects.ObjectNumbers
import OpenKit.Objects.TreeCompletion

/-!
# The sequence numbers of a session

All numbers that the records of a session show are different. An action has its first number before the
objects in it have theirs, and its second one after them, in whatever way they are closed. So the intervals
between the two numbers of an object are nested as the objects are.

## Main definitions

* `SessionHeap.NumberEffect`: what a call does to the numbers
* `SessionHeap.Numbered`: the numbers of the objects and of the records, in every state
* `SessionHeap.Nested`: what is seen of them

## Main results

* `numberEffect_afterCall`: all calls do so
* `nested_afterCalls`: the numbers in all runs of a session
-/

namespace OpenKit

open Thread

namespace SessionHeap

open HeapCalls BeaconReports

variable {caller : Caller} {discardData : Bool} {fuel : ℕ} {s t u v : SessionHeap} {p q r : ObjectRef}
  {parent : ObjectParent} {refs : List ObjectRef}

/-! ## Reports -/

/-- The objects keep their numbers, and one event is reported at most. -/
structure ReportsOnly (s t : SessionHeap) : Prop where
  size : t.objects.size = s.objects.size
  numbers : ∀ q, t.numbers q = s.numbers q
  draws : Draws s.reporting t.reporting

theorem ReportsOnly.refl (s : SessionHeap) : ReportsOnly s s := ⟨rfl, fun _ => rfl, .refl _⟩

theorem SameNumbers.reportsOnly (h : SameNumbers s t) : ReportsOnly s t :=
  ⟨h.size, h.numbers, h.lastNumber.ge, .inl h.records⟩

/-- What stays the same before a report. -/
theorem SameNumbers.reportsOnly_trans (h : SameNumbers s u) (h' : ReportsOnly u t) : ReportsOnly s t := by
  refine ⟨h'.size.trans h.size, fun q => (h'.numbers q).trans (h.numbers q), ?_, ?_⟩
  · rw [← show u.reporting.lastNumber = s.reporting.lastNumber from h.lastNumber]
    exact h'.draws.lastNumber
  · rw [← show u.reporting.lastNumber = s.reporting.lastNumber from h.lastNumber,
      ← show u.reporting.records = s.reporting.records from h.records]
    exact h'.draws.records

/-- What stays the same after a report. -/
theorem ReportsOnly.trans_sameNumbers (h : ReportsOnly s u) (h' : SameNumbers u t) : ReportsOnly s t := by
  refine ⟨h'.size.trans h.size, fun q => (h'.numbers q).trans (h.numbers q), ?_, ?_⟩
  · rw [show t.reporting.lastNumber = u.reporting.lastNumber from h'.lastNumber]
    exact h.draws.lastNumber
  · rw [show t.reporting.lastNumber = u.reporting.lastNumber from h'.lastNumber,
      show t.reporting.records = u.reporting.records from h'.records]
    exact h.draws.records

/-- A report. -/
theorem reportsOnly_onBeacon {body : Reporter Unit} (h : Draws s.reporting (body.run s.reporting).2) :
    ReportsOnly s ((onBeacon body).run s).2 := by
  rw [run_onBeacon_snd]
  exact ⟨rfl, fun _ => rfl, h⟩

theorem draws_ite {c : Prop} [Decidable c] {body : Reporter Unit} {before : Reporting}
    (h : Draws before (body.run before).2) :
    Draws before ((if c then body else Program.ret ()).run before).2 := by
  split
  · exact h
  · exact .refl before

theorem draws_whenOpen {body : Reporter Unit} {before : Reporting}
    (h : Draws before (body.run before).2) :
    Draws before ((SessionCalls.whenOpen body).run before).2 := by
  rw [SessionCalls.whenOpen, Program.run_bind_ok (Program.run_read _ before)]
  exact draws_ite h

/-! ## The end of the session -/

/-- What is left to do when all objects are closed. -/
def finish (caller : Caller) (sendSessionEndEvent : Bool) : HeapProgram Unit := do
  unlessDiscarded (!sendSessionEndEvent) (reportEnd caller)
  Program.write fun s => s.setSession s.reporting.session.markAsFinished

theorem reportsOnly_finish (sendSessionEndEvent : Bool) :
    ReportsOnly s ((finish caller sendSessionEndEvent).run s).2 := by
  cases sendSessionEndEvent with
  | false => exact (SameNumbers.setSession s s.reporting.session.markAsFinished rfl).reportsOnly
  | true =>
    have hreturns : (BeaconReports.endSession caller).Returns := returns_endSession
    obtain ⟨_, after, hreport⟩ := hreturns.run s.reporting
    have hdraws : Draws s.reporting after := by
      have hend : IsReport (BeaconReports.endSession caller) := isReport_endSession
      have hrun := hend.draws s.reporting
      rwa [hreport] at hrun
    have hrun : (reportEnd caller).run s = (.ok (), { s.remember .sessionEnd with reporting := after }) := by
      rw [reportEnd, Program.run_bind_ok (Program.run_write _ s)]
      exact run_onBeacon hreport
    have hreported : ReportsOnly s { s.remember .sessionEnd with reporting := after } :=
      ⟨rfl, fun _ => rfl, hdraws⟩
    show ReportsOnly s ((reportEnd caller >>= _).run s).2
    rw [Program.run_bind_ok hrun]
    exact hreported.trans_sameNumbers (.setSession _ _ rfl)

/-- **Ending an open session** ends all its objects, and reports the end then, if it is to. -/
theorem ends_endSession (caller : Caller) (sendSessionEndEvent : Bool)
    (hopen : s.reporting.session.isFinishingOrFinished = false) {objects : List OpenKitObject}
    (hforest : RepresentsAll s .session s.children objects refs) (hnodup : refs.Nodup)
    (hfuel : 2 * refs.length + 2 ≤ fuel) :
    ∃ v, Ends refs s v ∧
      ReportsOnly v ((HeapCalls.endSession caller sendSessionEndEvent (fuel + 1)).run s).2 := by
  let s₁ := s.setSession { s.reporting.session with isSessionFinishing := true }
  have hforest₁ : RepresentsAll s₁ .session s.children objects refs := hforest.congr fun _ _ => rfl
  have hparent (p : ObjectRef) (hp : ObjectParent.session = .action p) : p ∉ refs := by cases hp
  obtain ⟨v, -, hrun⟩ := run_closeAll caller false objects hforest₁ hnodup hfuel hparent fun _ => rfl
  have hends := ends_closeAll caller false objects hforest₁ hnodup hfuel hparent fun _ => rfl
  rw [hrun] at hends
  have hfinish : (HeapCalls.endSession caller sendSessionEndEvent (fuel + 1)).run s =
      (finish caller sendSessionEndEvent).run v := by
    rw [HeapCalls.endSession, Program.run_bind_ok (Program.run_read _ s), hopen,
      if_neg Bool.false_ne_true, Program.run_bind_ok (Program.run_write _ s),
      Program.run_bind_ok (Program.run_read _ _)]
    show (s.children.forM (closeObject caller false fuel) >>= _).run s₁ = _
    rw [Program.run_bind_ok hrun]
    rfl
  have hfinishing : SameNumbers s s₁ := .setSession s _ rfl
  refine ⟨v, hends.congr hfinishing.symm (.refl v), ?_⟩
  · rw [hfinish]
    exact reportsOnly_finish sendSessionEndEvent

/-- A parent that is called back ends no object. -/
theorem reportsOnly_onChildClosed : ReportsOnly s ((onChildClosed caller fuel parent r).run s).2 := by
  cases fuel with
  | zero => exact .refl s
  | succ fuel =>
    cases parent with
    | action p =>
      exact (SameNumbers.mapChildrenOf s _ (.action p)).reportsOnly
    | session =>
      have hremoved : SameNumbers s (s.removeChild .session r) := .mapChildrenOf s _ .session
      rw [onChildClosed, Program.run_bind_ok (Program.run_write _ s),
        Program.run_bind_ok (Program.run_read _ _)]
      split
      next hlast =>
        have hchildren : (s.removeChild .session r).children = [] :=
          List.isEmpty_iff.mp (Bool.and_eq_true_iff.mp hlast).2
        cases fuel with
        | zero => exact hremoved.reportsOnly
        | succ fuel =>
          refine hremoved.reportsOnly_trans ?_
          rw [HeapCalls.endSession, Program.run_bind_ok (Program.run_read _ _)]
          split
          · exact .refl _
          · rw [Program.run_bind_ok (Program.run_write _ _), Program.run_bind_ok (Program.run_read _ _)]
            -- there is nothing left to be closed
            show ReportsOnly _ (((s.removeChild .session r).children.forM (closeObject caller false fuel) >>=
              fun _ => finish caller true).run _).2
            rw [hchildren]
            refine SameNumbers.reportsOnly_trans ?_ (reportsOnly_finish true)
            exact .setSession _ _ rfl
      next => exact hremoved.reportsOnly

/-! ## Calls -/

/-- **What a call does to the numbers**: it reports an event, makes an object, or ends some objects, all of
which were open, and reports an event then. -/
inductive NumberEffect (s t : SessionHeap) : Prop
  | reports (h : ReportsOnly s t)
  | makes (number : ℤ) (isAction : Bool) (parent : ObjectParent)
      (hsize : t.objects.size = s.objects.size + 1)
      (hother : ∀ q, q ≠ s.objects.size → t.numbers q = s.numbers q)
      (hnew : t.numbers s.objects.size = ⟨parent, isAction, false, number, -1⟩)
      (hdrawn : s.lastNumber < number ∧ number ≤ t.lastNumber) (hrecords : t.records = s.records)
  | ends (refs : List ObjectRef) (u : SessionHeap) (hends : Ends refs s u) (hreports : ReportsOnly u t)
      (hnodup : refs.Nodup) (hopen : ∀ q ∈ refs, s.IsOpen q) (hfirst : s.ChildrenFirst refs)
      (hdown : ∀ q p, s.IsOpen q → (s.numbers q).parent = .action p → p ∈ refs → q ∈ refs)

theorem numberEffect_refl (s : SessionHeap) : NumberEffect s s := .reports (.refl s)

/-- A new child of an action or of the session. -/
theorem numberEffect_newChild {constructor : Reporter OpenKitObject} {object : OpenKitObject}
    {after : Reporting} (hrun : constructor.run s.reporting = (.ok object, after))
    (hrecords : after.records = s.records) {isAction : Bool}
    (hnumbers : (ObjectNode.ofObject parent object).numbers =
      ⟨parent, isAction, false, s.lastNumber + 1, -1⟩)
    (hlast : after.lastNumber = s.lastNumber + 1) :
    NumberEffect s ((newChild parent constructor).run s).2 := by
  rw [newChild, Program.run_bind_ok (run_onBeacon hrun), Program.run_write]
  refine .makes (s.lastNumber + 1) isAction parent ?_ (fun q hq => ?_) ?_ ?_ ?_
  · exact size_mapChildrenOf _
  · rw [addObject, numbers_mapChildrenOf]
    exact congrArg ObjectNode.numbers (Function.update_of_ne hq _ _)
  · rw [addObject, numbers_mapChildrenOf, ← hnumbers]
    exact congrArg ObjectNode.numbers Heap.get_alloc_size
  · rw [addObject, lastNumber, lastNumber, reporting_mapChildrenOf]
    exact ⟨Int.lt_succ _, hlast.ge⟩
  · rw [addObject, records, reporting_mapChildrenOf]
    exact hrecords

theorem numberEffect_newAction (name : UTF8String) (h : name.isEmpty = false) (parentID : ℤ) :
    NumberEffect s ((newChild parent (SessionCalls.newAction caller name h parentID)).run s).2 :=
  numberEffect_newChild rfl rfl rfl rfl

theorem numberEffect_newWebRequest (url : UTF8String) (h : url.isEmpty = false) (parentID : ℤ) :
    NumberEffect s ((newChild parent (SessionCalls.newWebRequest caller url h parentID)).run s).2 :=
  numberEffect_newChild rfl rfl rfl rfl

theorem numberEffect_whenOpen {body : HeapProgram Unit} (h : NumberEffect s (body.run s).2) :
    NumberEffect s ((whenOpen body).run s).2 := by
  rw [whenOpen, Program.run_bind_ok (Program.run_read _ s)]
  split
  · exact h
  · exact numberEffect_refl s

theorem numberEffect_whenNotLeft {body : ActionCommon → HeapProgram Unit}
    (h : ∀ a, NumberEffect s ((body a).run s).2) : NumberEffect s ((whenNotLeft r body).run s).2 := by
  rw [whenNotLeft, Program.run_bind_ok (Program.run_read _ s)]
  split
  · exact h _
  · exact numberEffect_refl s

theorem numberEffect_whenNotStopped {body : HeapProgram Unit} (h : NumberEffect s (body.run s).2) :
    NumberEffect s ((whenNotStopped r body).run s).2 := by
  rw [whenNotStopped, Program.run_bind_ok (Program.run_read _ s)]
  split
  · split
    · exact numberEffect_refl s
    · exact h
  · exact numberEffect_refl s

/-- A change of the data of a web request. -/
theorem sameNumbers_mapTracer {f : WebRequestTracer → WebRequestTracer}
    (hend : ∀ tracer, (f tracer).endTime = tracer.endTime)
    (hnumbers : ∀ tracer, (f tracer).startSequenceNo = tracer.startSequenceNo ∧
      (f tracer).endSequenceNo = tracer.endSequenceNo) :
    SameNumbers s (s.updateObject r (·.mapTracer f)) := by
  refine ⟨rfl, fun q => ?_, rfl, rfl⟩
  by_cases hq : q = r
  · rw [hq, numbers, object_updateObject_self]
    exact ObjectNode.numbers_mapTracer _ hend hnumbers
  · exact congrArg ObjectNode.numbers (object_updateObject_of_ne hq)

/-- A report on an action behind a check of its argument. -/
theorem numberEffect_onAction {c : Prop} [Decidable c] {body : ActionCommon → Reporter Unit}
    (h : ∀ a, IsReport (body a)) : NumberEffect s ((whenNotLeft r fun a =>
      onBeacon (if c then body a else Program.ret ())).run s).2 :=
  numberEffect_whenNotLeft fun a => .reports (reportsOnly_onBeacon (draws_ite ((h a).draws _)))

/-- A report on the session. -/
theorem numberEffect_onSession {body : Reporter Unit} (h : IsReport body) :
    NumberEffect s ((onBeacon (SessionCalls.whenOpen body)).run s).2 :=
  .reports (reportsOnly_onBeacon (draws_whenOpen (h.draws _)))

/-- The same behind a check of the argument. -/
theorem numberEffect_onSession_ite {c : Prop} [Decidable c] {body : Reporter Unit} (h : IsReport body) :
    NumberEffect s ((onBeacon (if c then SessionCalls.whenOpen body else Program.ret ())).run s).2 :=
  .reports (reportsOnly_onBeacon (draws_ite (draws_whenOpen (h.draws _))))

/-- **Leaving or cancelling** an action ends the open objects at and below it. -/
theorem numberEffect_doLeaveAction (hlinked : Linked s) (hr : r < s.objects.size) :
    NumberEffect s ((doLeaveAction caller discardData s.fuel r).run s).2 := by
  by_cases hopen : (s.object r).isClosed = false ∧ (s.object r).isAction = true
  · obtain ⟨object, refs, htree⟩ := hlinked.exists_subtree ⟨hr, hopen.1⟩
    have hlength : refs.length ≤ s.objects.size :=
      length_le_size htree.nodup fun q hq => ((htree.mem_iff q).mp hq).1
    obtain ⟨u, hends, -, hrun⟩ := ends_closeObject caller discardData object htree.represents htree.nodup
      (show 2 * refs.length ≤ 2 * s.objects.size + 4 by omega)
    have hleave : (closeObject caller discardData (2 * s.objects.size + 4 + 2) r).run s =
        (doLeaveAction caller discardData s.fuel r).run s := by
      rw [closeObject, Program.run_bind_ok (Program.run_read _ s)]
      cases hnode : s.object r with
      | action parent a isActionLeft children => rfl
      | webRequest parent tracer =>
        have haction := hopen.2
        rw [hnode] at haction
        cases haction
    rw [← hleave, hrun]
    refine .ends refs u hends reportsOnly_onChildClosed htree.nodup
      (fun q hq => ((htree.mem_iff q).mp hq).1) htree.childrenFirst fun q p hq hup hp => ?_
    rw [numbers, ObjectNode.parent_numbers] at hup
    exact (htree.mem_iff q).mpr
      ⟨hq, ((htree.mem_iff p).mp hp).2.trans (.of_up (ObjectParent.ref_eq_some_iff.mpr hup))⟩
  · rw [fuel_eq, run_doLeaveAction_of_not_isOpen hopen]
    exact numberEffect_refl s

/-- **Stopping** a web request ends it. -/
theorem numberEffect_doStop (responseCode : ℤ) (hlinked : Linked s) (hr : r < s.objects.size) :
    NumberEffect s ((doStop caller responseCode discardData s.fuel r).run s).2 := by
  by_cases hopen : (s.object r).isClosed = false ∧ (s.object r).isAction = false
  · obtain ⟨object, -, -, htree, -⟩ := run_doStop_of_isOpen caller discardData responseCode hlinked
      ⟨hr, hopen.1⟩ hopen.2
    obtain ⟨parent, tracer, hnode⟩ : ∃ parent tracer, s.object r = .webRequest parent tracer := by
      have haction := hopen.2
      cases hnode : s.object r with
      | action parent a isActionLeft children =>
        rw [hnode] at haction
        cases haction
      | webRequest parent tracer => exact ⟨parent, tracer, rfl⟩
    have hstopped : tracer.isStopped = false := by
      have hclosed := hopen.1
      rwa [hnode] at hclosed
    rw [fuel_eq, run_doStop responseCode hnode hstopped]
    refine .ends [r] _ (ends_stop caller discardData responseCode hnode) reportsOnly_onChildClosed (List.nodup_singleton r)
      (List.forall_mem_singleton.mpr ⟨hr, hopen.1⟩) htree.childrenFirst fun q p hq hup hp => ?_
    rw [numbers, ObjectNode.parent_numbers] at hup
    exact (htree.mem_iff q).mpr
      ⟨hq, ((htree.mem_iff p).mp hp).2.trans (.of_up (ObjectParent.ref_eq_some_iff.mpr hup))⟩
  · rw [fuel_eq, run_doStop_of_not_isOpen responseCode hopen]
    exact numberEffect_refl s

/-- **Ending** the session ends all open objects. -/
theorem numberEffect_endSession (sendSessionEndEvent : Bool) (hlinked : Linked s) :
    NumberEffect s ((HeapCalls.endSession caller sendSessionEndEvent s.fuel).run s).2 := by
  cases hflags : s.reporting.session.isFinishingOrFinished with
  | true =>
    rw [fuel_eq, run_endSession_of_finishing sendSessionEndEvent hflags]
    exact numberEffect_refl s
  | false =>
    obtain ⟨objects, refs, hforest⟩ := hlinked.exists_subforest
    have hopen (q : ObjectRef) (hq : q ∈ refs) : s.IsOpen q := (hlinked.mem_subforest hforest).mp hq
    have hlength : refs.length ≤ s.objects.size := length_le_size hforest.nodup hopen
    obtain ⟨u, hends, hreports⟩ := ends_endSession caller sendSessionEndEvent hflags
      hforest.represents hforest.nodup (show 2 * refs.length + 2 ≤ 2 * s.objects.size + 4 by omega)
    exact .ends refs u hends hreports hforest.nodup hopen hforest.childrenFirst fun q p hq _ _ =>
      (hlinked.mem_subforest hforest).mpr hq

theorem numberEffect_tryEnd (hlinked : Linked s) :
    NumberEffect s ((HeapCalls.tryEnd caller s.fuel).run s).2 := by
  rw [HeapCalls.tryEnd, Program.run_bind_ok (Program.run_read _ s)]
  split
  · exact numberEffect_refl s
  · rw [Program.run_bind_ok (Program.run_read _ s)]
    split
    · exact numberEffect_endSession false hlinked
    · exact .reports (SameNumbers.setSession s { s.reporting.session with wasTriedForEnding := true }
        rfl).reportsOnly

/-- **A call on an object.** -/
theorem numberEffect_performObjectCall (hlinked : Linked s) (hr : r < s.objects.size) (call : ObjectCall) :
    NumberEffect s ((performObjectCall caller s.fuel r call).run s).2 := by
  cases call with
  | enterAction name =>
    rw [performObjectCall]
    split
    next h => exact numberEffect_whenNotLeft fun a => numberEffect_newAction name h a.id
    next => exact numberEffect_refl s
  | traceWebRequest url =>
    rw [performObjectCall]
    split
    next h => exact numberEffect_whenNotLeft fun a => numberEffect_newWebRequest url h a.id
    next => exact numberEffect_refl s
  | leaveAction => exact numberEffect_doLeaveAction hlinked hr
  | cancelAction => exact numberEffect_doLeaveAction hlinked hr
  | stop responseCode => exact numberEffect_doStop responseCode hlinked hr
  | start =>
    refine numberEffect_whenNotStopped (.reports ?_)
    rw [Program.run_bind_ok (run_onBeacon rfl)]
    let u : SessionHeap :=
      { s with reporting := { s.reporting with numReads := s.reporting.numReads + 1 } }
    have hread : SameNumbers s u := ⟨rfl, fun _ => rfl, rfl, rfl⟩
    refine hread.reportsOnly_trans (SameNumbers.reportsOnly ?_)
    exact sameNumbers_mapTracer (fun _ => rfl) fun _ => ⟨rfl, rfl⟩
  | setBytesSent bytesSent =>
    refine numberEffect_whenNotStopped (.reports (SameNumbers.reportsOnly ?_))
    exact sameNumbers_mapTracer (fun _ => rfl) fun _ => ⟨rfl, rfl⟩
  | setBytesReceived bytesReceived =>
    refine numberEffect_whenNotStopped (.reports (SameNumbers.reportsOnly ?_))
    exact sameNumbers_mapTracer (fun _ => rfl) fun _ => ⟨rfl, rfl⟩
  | reportEvent eventName =>
    exact numberEffect_onAction fun a => isReport_reportEvent a.id eventName
  | reportIntValue valueName value =>
    exact numberEffect_onAction fun a => isReport_reportIntValue a.id valueName value
  | reportDoubleValue valueName value =>
    exact numberEffect_onAction fun a => isReport_reportDoubleValue a.id valueName value
  | reportStringValue valueName value =>
    exact numberEffect_onAction fun a => isReport_reportStringValue a.id valueName value
  | reportErrorCode errorName errorCode =>
    exact numberEffect_onAction fun a => isReport_reportErrorCode a.id errorName errorCode
  | reportErrorCause errorName causeName causeDescription causeStackTrace =>
    exact numberEffect_onAction fun a =>
      isReport_reportErrorCause a.id errorName causeName causeDescription causeStackTrace

variable (caller) in
/-- **Every call** does so. -/
theorem numberEffect_afterCall (hlinked : Linked s) (call : HeapCall) :
    NumberEffect s (s.afterCall caller call) := by
  rw [afterCall]
  cases call with
  | enterAction name =>
    rw [HeapCall.perform]
    split
    next h => exact numberEffect_whenOpen (numberEffect_newAction name h _)
    next => exact numberEffect_refl s
  | traceWebRequest url =>
    rw [HeapCall.perform]
    split
    next h => exact numberEffect_whenOpen (numberEffect_newWebRequest url h _)
    next => exact numberEffect_refl s
  | identifyUser userTag => exact numberEffect_onSession (isReport_identifyUser userTag)
  | reportCrash errorName reason stacktrace =>
    exact numberEffect_onSession_ite (isReport_reportCrash errorName reason stacktrace)
  | sendEvent name jsonPayload => exact numberEffect_onSession_ite (isReport_sendEvent name jsonPayload)
  | sendBizEvent type jsonPayload =>
    exact numberEffect_onSession_ite (isReport_sendBizEvent type jsonPayload)
  | endSession sendSessionEndEvent => exact numberEffect_endSession sendSessionEndEvent hlinked
  | tryEnd => exact numberEffect_tryEnd hlinked
  | updateServerConfiguration config =>
    exact .reports (SameNumbers.setSession s (s.reporting.session.updateServerConfiguration config)
      rfl).reportsOnly
  | onObject r call =>
    rw [HeapCall.perform, Program.run_bind_ok (Program.run_read _ s)]
    split
    next hr => exact numberEffect_performObjectCall hlinked (of_decide_eq_true hr) call
    next => exact numberEffect_refl s

/-! ## The numbers in all states -/

/-- What a record shows: the numbers of an event, or the two numbers of a closed object. -/
def ShowsNumbers (s : SessionHeap) (record : BeaconRecord) (shown : List ℤ) : Prop :=
  (∃ eventType : EventType, eventType.isObject = false ∧ EventData.Shows eventType shown [] record.data) ∨
    ∃ q < s.objects.size, ¬ s.IsOpen q ∧ s.ShowsObject q record ∧
      shown = [(s.numbers q).startNumber, (s.numbers q).endNumber]

/-- **The numbers of a session.** Each is shown once, and the objects are numbered as they are nested. -/
structure Numbered (s : SessionHeap) : Prop where
  nonneg : 0 ≤ s.lastNumber
  start : ∀ q < s.objects.size, 0 < (s.numbers q).startNumber ∧ (s.numbers q).startNumber ≤ s.lastNumber
  increasing : ∀ q q', q < q' → q' < s.objects.size →
    (s.numbers q).startNumber < (s.numbers q').startNumber
  closed : ∀ q < s.objects.size, ¬ s.IsOpen q →
    (s.numbers q).startNumber < (s.numbers q).endNumber ∧ (s.numbers q).endNumber ≤ s.lastNumber
  nested : ∀ q p, q < s.objects.size → (s.numbers q).parent = .action p → ¬ s.IsOpen p →
    (s.numbers q).endNumber < (s.numbers p).endNumber
  shown : ∃ shown, List.Forall₂ s.ShowsNumbers s.records shown ∧ shown.flatten.Nodup ∧
    (∀ n ∈ shown.flatten, 0 < n ∧ n ≤ s.lastNumber) ∧
    ∀ q, s.IsOpen q → (s.numbers q).startNumber ∉ shown.flatten

namespace Numbered

/-- Two objects with the same first number are one. -/
theorem eq_of_startNumber (h : Numbered s) (hq : q < s.objects.size) (hr : r < s.objects.size)
    (hsame : (s.numbers q).startNumber = (s.numbers r).startNumber) : q = r := by
  rcases lt_trichotomy q r with hlt | rfl | hlt
  · exact absurd hsame (h.increasing q r hlt hr).ne
  · rfl
  · exact absurd hsame (h.increasing r q hlt hq).ne'

/-- An event. -/
theorem reports (h : Numbered s) (hreports : ReportsOnly s t) : Numbered t := by
  have hopen (q : ObjectRef) : t.IsOpen q ↔ s.IsOpen q := by
    rw [isOpen_iff_numbers, isOpen_iff_numbers, hreports.size, hreports.numbers]
  have hlast : s.lastNumber ≤ t.lastNumber := hreports.draws.lastNumber
  have hshows (record : BeaconRecord) (shown : List ℤ) (hshow : s.ShowsNumbers record shown) :
      t.ShowsNumbers record shown := by
    rcases hshow with hevent | ⟨q, hq, hclosed, hshow, hshown⟩
    · exact .inl hevent
    · refine .inr ⟨q, hreports.size ▸ hq, mt (hopen q).mp hclosed, ?_, ?_⟩
      · rw [ShowsObject, hreports.numbers]
        exact hshow
      · rw [hreports.numbers]
        exact hshown
  obtain ⟨shown, hrecords, hnodup, hbounds, hfree⟩ := h.shown
  refine ⟨h.nonneg.trans hlast, fun q hq => ?_, fun q q' hlt hq' => ?_, fun q hq hclosed => ?_,
    fun q p hq hup hclosed => ?_, ?_⟩
  · rw [hreports.size] at hq
    rw [hreports.numbers]
    exact ⟨(h.start q hq).1, (h.start q hq).2.trans hlast⟩
  · rw [hreports.size] at hq'
    rw [hreports.numbers, hreports.numbers]
    exact h.increasing q q' hlt hq'
  · rw [hreports.size] at hq
    rw [hopen] at hclosed
    rw [hreports.numbers]
    exact ⟨(h.closed q hq hclosed).1, (h.closed q hq hclosed).2.trans hlast⟩
  · rw [hreports.size] at hq
    rw [hreports.numbers] at hup
    rw [hopen] at hclosed
    rw [hreports.numbers, hreports.numbers]
    exact h.nested q p hq hup hclosed
  · have hkept := hrecords.imp hshows
    rcases hreports.draws.records with hsame | ⟨record, eventType, numbers, hnew, hevent, hshow, hdistinct, hdrawn⟩
    · refine ⟨shown, ?_, hnodup, fun n hn => ⟨(hbounds n hn).1, (hbounds n hn).2.trans hlast⟩,
        fun q hq => ?_⟩
      · show List.Forall₂ _ t.reporting.records shown
        rw [hsame]
        exact hkept
      · rw [hreports.numbers]
        exact hfree q ((hopen q).mp hq)
    · -- the numbers of the event are larger than all before
      refine ⟨shown ++ [numbers], ?_, ?_, fun n hn => ?_, fun q hq hmem => ?_⟩
      · show List.Forall₂ _ t.reporting.records _
        rw [hnew]
        exact List.rel_append hkept (.cons (.inl ⟨eventType, hevent, hshow⟩) .nil)
      · rw [List.flatten_append, List.flatten_singleton]
        refine List.nodup_append.mpr ⟨hnodup, hdistinct, fun n hn m hm => ?_⟩
        exact ((hbounds n hn).2.trans_lt (hdrawn m hm).1).ne
      · rw [List.flatten_append, List.flatten_singleton, List.mem_append] at hn
        rcases hn with hn | hn
        · exact ⟨(hbounds n hn).1, (hbounds n hn).2.trans hlast⟩
        · exact ⟨h.nonneg.trans_lt (hdrawn n hn).1, (hdrawn n hn).2⟩
      · rw [List.flatten_append, List.flatten_singleton, List.mem_append, hreports.numbers] at hmem
        rw [hopen] at hq
        rcases hmem with hmem | hmem
        · exact hfree q hq hmem
        · exact absurd (h.start q hq.1).2 (not_le.mpr (hdrawn _ hmem).1)

/-- A new object. -/
theorem makes (h : Numbered s) (hlinked : Linked t) {number : ℤ} {isAction : Bool}
    (hsize : t.objects.size = s.objects.size + 1)
    (hother : ∀ q, q ≠ s.objects.size → t.numbers q = s.numbers q)
    (hnew : t.numbers s.objects.size = ⟨parent, isAction, false, number, -1⟩)
    (hdrawn : s.lastNumber < number ∧ number ≤ t.lastNumber) (hrecords : t.records = s.records) :
    Numbered t := by
  have hlast : s.lastNumber ≤ t.lastNumber := hdrawn.1.le.trans hdrawn.2
  have hnewOpen : t.IsOpen s.objects.size := by
    rw [isOpen_iff_numbers, hsize, hnew]
    exact ⟨Nat.lt_succ_self _, rfl⟩
  have hopen (q : ObjectRef) (hq : q ≠ s.objects.size) : t.IsOpen q ↔ s.IsOpen q := by
    rw [isOpen_iff_numbers, isOpen_iff_numbers, hsize, hother q hq]
    refine and_congr_left fun _ => ⟨fun hlt => lt_of_le_of_ne (Nat.le_of_lt_succ hlt) hq, Nat.lt_succ_of_lt⟩
  have hlt {q : ObjectRef} (hq : q < t.objects.size) (hne : q ≠ s.objects.size) : q < s.objects.size := by
    rw [hsize] at hq
    exact lt_of_le_of_ne (Nat.le_of_lt_succ hq) hne
  have hshows (record : BeaconRecord) (shown : List ℤ) (hshow : s.ShowsNumbers record shown) :
      t.ShowsNumbers record shown := by
    rcases hshow with hevent | ⟨q, hq, hclosed, hshow, hshown⟩
    · exact .inl hevent
    · have hne : q ≠ s.objects.size := Nat.ne_of_lt hq
      refine .inr ⟨q, hsize ▸ Nat.lt_succ_of_lt hq, mt (hopen q hne).mp hclosed, ?_, ?_⟩
      · rw [ShowsObject, hother q hne]
        exact hshow
      · rw [hother q hne]
        exact hshown
  obtain ⟨shown, hforall, hnodup, hbounds, hfree⟩ := h.shown
  refine ⟨h.nonneg.trans hlast, fun q hq => ?_, fun q q' hqq' hq' => ?_, fun q hq hclosed => ?_,
    fun q p hq hup hclosed => ?_, shown, ?_, hnodup,
    fun n hn => ⟨(hbounds n hn).1, (hbounds n hn).2.trans hlast⟩, fun q hq hmem => ?_⟩
  · by_cases hne : q = s.objects.size
    · rw [hne, hnew]
      exact ⟨h.nonneg.trans_lt hdrawn.1, hdrawn.2⟩
    · rw [hother q hne]
      exact ⟨(h.start q (hlt hq hne)).1, (h.start q (hlt hq hne)).2.trans hlast⟩
  · have hq : q < s.objects.size := by
      rw [hsize] at hq'
      exact hqq'.trans_le (Nat.le_of_lt_succ hq')
    rw [hother q (Nat.ne_of_lt hq)]
    by_cases hne : q' = s.objects.size
    · rw [hne, hnew]
      exact (h.start q hq).2.trans_lt hdrawn.1
    · rw [hother q' hne]
      exact h.increasing q q' hqq' (hlt hq' hne)
  · have hne : q ≠ s.objects.size := fun hne => hclosed (hne ▸ hnewOpen)
    rw [hopen q hne] at hclosed
    rw [hother q hne]
    have hbefore := h.closed q (hlt hq hne) hclosed
    exact ⟨hbefore.1, hbefore.2.trans hlast⟩
  · -- the new object has an open parent
    have hup' : (t.object q).parent = .action p := by
      rw [← ObjectNode.parent_numbers]
      exact hup
    have hne : q ≠ s.objects.size := by
      rintro rfl
      exact hclosed (hlinked.parent _ p hnewOpen hup')
    have hp : p ≠ s.objects.size :=
      Nat.ne_of_lt ((hlinked.lt_of_parent q p hup').trans (hlt hq hne))
    rw [hopen p hp] at hclosed
    rw [hother q hne] at hup ⊢
    rw [hother p hp]
    exact h.nested q p (hlt hq hne) hup hclosed
  · rw [hrecords]
    exact hforall.imp hshows
  · by_cases hne : q = s.objects.size
    · rw [hne, hnew] at hmem
      exact absurd (hbounds number hmem).2 (not_le.mpr hdrawn.1)
    · rw [hother q hne] at hmem
      exact hfree q ((hopen q hne).mp hq) hmem

/-- **What the records of closed objects show**: numbers that were drawn for the end, and those that the
objects had before. -/
theorem exists_shown (h : Numbered s) (hends : Ends refs s t) (hnodup : refs.Nodup)
    (hopen : ∀ q ∈ refs, s.IsOpen q) :
    ∃ new numbers, t.records = s.records ++ new ∧ List.Forall₂ t.ShowsNumbers new numbers ∧
      numbers.flatten.Nodup ∧ ∀ n ∈ numbers.flatten, 0 < n ∧ n ≤ t.lastNumber ∧
        (s.lastNumber < n ∨ ∃ q ∈ refs, n = (s.numbers q).startNumber) := by
  obtain ⟨shown, new, hsub, hnew, hshows⟩ := hends.records
  let both (q : ObjectRef) : List ℤ := [(s.numbers q).startNumber, (t.numbers q).endNumber]
  have hstart (q : ObjectRef) (hq : q ∈ refs) : (t.numbers q).startNumber = (s.numbers q).startNumber := by
    rw [hends.numbers q hq]
    rfl
  have hmem {n : ℤ} {q : ObjectRef} (hn : n ∈ both q) :
      n = (s.numbers q).startNumber ∨ n = (t.numbers q).endNumber := by
    simpa [both] using hn
  refine ⟨new, shown.map both, hnew, ?_, ?_, fun n hn => ?_⟩
  · rw [List.forall₂_map_right_iff]
    have hinRefs := (List.forall₂_and_left _ _).mpr ⟨fun q hq => hsub.subset hq, hshows⟩
    refine List.Forall₂.flip (hinRefs.imp fun q record hshow => .inr ?_)
    have hclosed : ¬ t.IsOpen q := by
      rw [isOpen_iff_numbers, hends.numbers q hshow.1]
      exact fun hafter => Bool.false_ne_true hafter.2.symm
    exact ⟨q, hends.size ▸ (hopen q hshow.1).1, hclosed, hshow.2, by rw [hstart q hshow.1]⟩
  · refine List.nodup_flatten.mpr ⟨?_, ?_⟩
    · intro l hl
      obtain ⟨q, hq, rfl⟩ := List.mem_map.mp hl
      have hlt := (h.start q (hopen q (hsub.subset hq)).1).2.trans_lt (hends.drawn q (hsub.subset hq)).1
      simp [both, hlt.ne]
    · rw [List.pairwise_map]
      refine ((hends.inOrder.sublist hsub).and (hnodup.sublist hsub)).imp_of_mem ?_
      rintro q q' hq hq' ⟨hlt, hne⟩ n hn hn'
      have hopenQ := (hopen q (hsub.subset hq)).1
      have hopenQ' := (hopen q' (hsub.subset hq')).1
      -- first numbers were drawn before, and second ones now
      rcases hmem hn with rfl | rfl
      · rcases hmem hn' with hsame | hsame
        · exact hne (h.eq_of_startNumber hopenQ hopenQ' hsame)
        · exact absurd hsame ((h.start q hopenQ).2.trans_lt (hends.drawn q' (hsub.subset hq')).1).ne
      · rcases hmem hn' with hsame | hsame
        · exact absurd hsame ((h.start q' hopenQ').2.trans_lt (hends.drawn q (hsub.subset hq)).1).ne'
        · exact absurd hsame hlt.ne
  · obtain ⟨_, hl, hn⟩ := List.mem_flatten.mp hn
    obtain ⟨q, hq, rfl⟩ := List.mem_map.mp hl
    have hqRefs := hsub.subset hq
    have hbefore := h.start q (hopen q hqRefs).1
    rcases hmem hn with rfl | rfl
    · exact ⟨hbefore.1, hbefore.2.trans hends.lastNumber, .inr ⟨q, hqRefs, rfl⟩⟩
    · have hdrawn := hends.drawn q hqRefs
      exact ⟨h.nonneg.trans_lt hdrawn.1, hdrawn.2, .inl hdrawn.1⟩

/-- Some objects that are closed, children first. -/
theorem ends (h : Numbered s) (hlinked : Linked s) (hends : Ends refs s t) (hnodup : refs.Nodup)
    (hopen : ∀ q ∈ refs, s.IsOpen q) (hfirst : s.ChildrenFirst refs)
    (hdown : ∀ q p, s.IsOpen q → (s.numbers q).parent = .action p → p ∈ refs → q ∈ refs) :
    Numbered t := by
  have hstart (q : ObjectRef) : (t.numbers q).startNumber = (s.numbers q).startNumber := by
    by_cases hq : q ∈ refs
    · rw [hends.numbers q hq]
      rfl
    · rw [hends.numbers_of_notMem q hq]
  have hparent (q : ObjectRef) : (t.numbers q).parent = (s.numbers q).parent := by
    by_cases hq : q ∈ refs
    · rw [hends.numbers q hq]
      rfl
    · rw [hends.numbers_of_notMem q hq]
  have hisOpen (q : ObjectRef) : t.IsOpen q ↔ s.IsOpen q ∧ q ∉ refs := by
    rw [isOpen_iff_numbers, isOpen_iff_numbers, hends.size]
    by_cases hq : q ∈ refs
    · rw [hends.numbers q hq]
      exact iff_of_false (fun hclosed => Bool.false_ne_true hclosed.2.symm) fun hout => hout.2 hq
    · rw [hends.numbers_of_notMem q hq]
      exact (and_iff_left hq).symm
  have hold {q : ObjectRef} (hclosed : ¬ t.IsOpen q) (hq : q ∉ refs) : ¬ s.IsOpen q :=
    fun hbefore => hclosed ((hisOpen q).mpr ⟨hbefore, hq⟩)
  have hshows (record : BeaconRecord) (shown : List ℤ) (hshow : s.ShowsNumbers record shown) :
      t.ShowsNumbers record shown := by
    rcases hshow with hevent | ⟨q, hq, hclosed, hshow, hshown⟩
    · exact .inl hevent
    · have hout : q ∉ refs := fun hmem => hclosed (hopen q hmem)
      refine .inr ⟨q, hends.size ▸ hq, fun hafter => hclosed ((hisOpen q).mp hafter).1, ?_, ?_⟩
      · rw [ShowsObject, hends.numbers_of_notMem q hout]
        exact hshow
      · rw [hends.numbers_of_notMem q hout]
        exact hshown
  refine ⟨h.nonneg.trans hends.lastNumber, fun q hq => ?_, fun q q' hqq' hq' => ?_,
    fun q hq hclosed => ?_, fun q p hq hup hclosed => ?_, ?_⟩
  · rw [hends.size] at hq
    rw [hstart]
    exact ⟨(h.start q hq).1, (h.start q hq).2.trans hends.lastNumber⟩
  · rw [hends.size] at hq'
    rw [hstart, hstart]
    exact h.increasing q q' hqq' hq'
  · rw [hends.size] at hq
    by_cases hmem : q ∈ refs
    · rw [hstart]
      exact ⟨(h.start q hq).2.trans_lt (hends.drawn q hmem).1, (hends.drawn q hmem).2⟩
    · rw [hends.numbers_of_notMem q hmem]
      have hbefore := h.closed q hq (hold hclosed hmem)
      exact ⟨hbefore.1, hbefore.2.trans hends.lastNumber⟩
  · rw [hends.size] at hq
    rw [hparent] at hup
    have hup' : (s.object q).parent = .action p := by
      rw [← ObjectNode.parent_numbers]
      exact hup
    by_cases hp : p ∈ refs
    · by_cases hmem : q ∈ refs
      · -- the child stands before its parent
        exact List.rel_of_pairwise_cons (hends.inOrder.sublist (hfirst q p hmem hp hup')) List.mem_cons_self
      · have hbefore : ¬ s.IsOpen q := fun hq => hmem (hdown q p hq hup hp)
        rw [hends.numbers_of_notMem q hmem]
        exact (h.closed q hq hbefore).2.trans_lt (hends.drawn p hp).1
    · have hbefore : ¬ s.IsOpen p := hold hclosed hp
      have hmem : q ∉ refs := fun hmem => hbefore (hlinked.parent q p (hopen q hmem) hup')
      rw [hends.numbers_of_notMem q hmem, hends.numbers_of_notMem p hp]
      exact h.nested q p hq hup hbefore
  · obtain ⟨shown, hrecords, hdistinct, hbounds, hfree⟩ := h.shown
    obtain ⟨new, numbers, hnew, hnewShows, hnewDistinct, hnewBounds⟩ :=
      h.exists_shown hends hnodup hopen
    refine ⟨shown ++ numbers, ?_, ?_, fun n hn => ?_, fun q hq hmem => ?_⟩
    · rw [hnew]
      exact List.rel_append (hrecords.imp hshows) hnewShows
    · rw [List.flatten_append]
      refine List.nodup_append.mpr ⟨hdistinct, hnewDistinct, ?_⟩
      rintro n hn _ hm rfl
      obtain ⟨-, -, hlt | ⟨q, hq, rfl⟩⟩ := hnewBounds n hm
      · exact absurd (hbounds n hn).2 (not_le.mpr hlt)
      · exact hfree q (hopen q hq) hn
    · rw [List.flatten_append, List.mem_append] at hn
      rcases hn with hn | hn
      · exact ⟨(hbounds n hn).1, (hbounds n hn).2.trans hends.lastNumber⟩
      · exact ⟨(hnewBounds n hn).1, (hnewBounds n hn).2.1⟩
    · rw [List.flatten_append, List.mem_append, hstart] at hmem
      obtain ⟨hbefore, hout⟩ := (hisOpen q).mp hq
      rcases hmem with hmem | hmem
      · exact hfree q hbefore hmem
      · obtain ⟨-, -, hlt | ⟨q', hq', hsame⟩⟩ := hnewBounds _ hmem
        · exact absurd (h.start q hbefore.1).2 (not_le.mpr hlt)
        · obtain rfl := h.eq_of_startNumber hbefore.1 (hopen q' hq').1 hsame
          exact hout hq'

/-- **Every call keeps it so.** -/
theorem effect (h : Numbered s) (hlinked : Linked s) (hlinked' : Linked t) (heffect : NumberEffect s t) :
    Numbered t := by
  cases heffect with
  | reports hreports => exact h.reports hreports
  | makes number isAction parent hsize hother hnew hdrawn hrecords =>
    exact h.makes hlinked' hsize hother hnew hdrawn hrecords
  | ends refs u hends hreports hnodup hopen hfirst hdown =>
    exact (h.ends hlinked hends hnodup hopen hfirst hdown).reports hreports

theorem afterCalls (clock : ℕ → ℕ) (calls : List (ℤ × HeapCall)) (hlinked : Linked s) (h : Numbered s) :
    Linked (s.afterCalls clock calls) ∧ Numbered (s.afterCalls clock calls) := by
  induction calls generalizing s with
  | nil => exact ⟨hlinked, h⟩
  | cons call calls ih =>
    have hlinked' := (effect_afterCall ⟨call.1, clock⟩ hlinked call.2).linked
    exact ih hlinked' (h.effect hlinked hlinked' (numberEffect_afterCall _ hlinked call.2))

end Numbered

/-! ## What is seen of the numbers -/

/-- **The numbers of a session** as they are seen in its records, and as its objects are nested. -/
structure Nested (s : SessionHeap) : Prop where
  distinct : (s.records.flatMap fun record => EventData.sequenceNumbers record.data).Nodup
  drawn : ∀ record ∈ s.records, ∀ text ∈ EventData.sequenceNumbers record.data,
    ∃ n, text = EventData.decimal n ∧ 0 < n ∧ n ≤ s.lastNumber
  /-- The record of an action or a web request shows the two numbers of a closed one. -/
  object : ∀ record ∈ s.records, ∀ eventType : EventType, eventType.isObject = true →
    EventData.HasEventType eventType record.data →
      ∃ q < s.objects.size, ¬ s.IsOpen q ∧ (s.numbers q).eventType = eventType ∧ s.ShowsObject q record
  startBeforeEnd : ∀ q < s.objects.size, ¬ s.IsOpen q →
    (s.numbers q).startNumber < (s.numbers q).endNumber
  startOfChild : ∀ q p, q < s.objects.size → (s.object q).parent = .action p →
    (s.numbers p).startNumber < (s.numbers q).startNumber
  endOfChild : ∀ q p, q < s.objects.size → (s.object q).parent = .action p → ¬ s.IsOpen p →
    ¬ s.IsOpen q ∧ (s.numbers q).endNumber < (s.numbers p).endNumber

theorem ShowsNumbers.sequenceNumbers {record : BeaconRecord} {shown : List ℤ}
    (h : s.ShowsNumbers record shown) :
    EventData.sequenceNumbers record.data = shown.map EventData.decimal := by
  rcases h with ⟨eventType, -, hshow⟩ | ⟨q, -, -, hshow, rfl⟩
  · rw [hshow.sequenceNumbers, List.append_nil]
  · exact hshow.sequenceNumbers

theorem flatMap_sequenceNumbers {records : List BeaconRecord} {shown : List (List ℤ)}
    (h : List.Forall₂ s.ShowsNumbers records shown) :
    records.flatMap (fun record => EventData.sequenceNumbers record.data) =
      shown.flatten.map EventData.decimal := by
  induction h with
  | nil => rfl
  | cons hshow _ ih => rw [List.flatMap_cons, List.flatten_cons, List.map_append, hshow.sequenceNumbers, ih]

theorem exists_showsNumbers {records : List BeaconRecord} {shown : List (List ℤ)} {record : BeaconRecord}
    (h : List.Forall₂ s.ShowsNumbers records shown) (hrecord : record ∈ records) :
    ∃ l ∈ shown, s.ShowsNumbers record l := by
  induction h with
  | nil => cases hrecord
  | cons hshow _ ih =>
    rcases List.mem_cons.mp hrecord with rfl | hrecord
    · exact ⟨_, List.mem_cons_self, hshow⟩
    · obtain ⟨l, hl, hshow⟩ := ih hrecord
      exact ⟨l, List.mem_cons_of_mem _ hl, hshow⟩

theorem Numbered.exists_of_mem (h : Numbered s) {record : BeaconRecord} (hrecord : record ∈ s.records) :
    ∃ shown, s.ShowsNumbers record shown ∧ ∀ n ∈ shown, 0 < n ∧ n ≤ s.lastNumber := by
  obtain ⟨shown, hrecords, -, hbounds, -⟩ := h.shown
  obtain ⟨l, hl, hshow⟩ := exists_showsNumbers hrecords hrecord
  exact ⟨l, hshow, fun n hn => hbounds n (List.mem_flatten_of_mem hl hn)⟩

theorem Numbered.seen (h : Numbered s) (hlinked : Linked s) : Nested s where
  distinct := by
    obtain ⟨shown, hrecords, hnodup, -⟩ := h.shown
    rw [flatMap_sequenceNumbers hrecords]
    exact hnodup.map fun _ _ hsame => EventData.toInvariantString_injective hsame
  drawn record hrecord text htext := by
    obtain ⟨shown, hshow, hbounds⟩ := h.exists_of_mem hrecord
    rw [hshow.sequenceNumbers] at htext
    obtain ⟨n, hn, rfl⟩ := List.mem_map.mp htext
    exact ⟨n, rfl, hbounds n hn⟩
  object record hrecord eventType hobject htype := by
    obtain ⟨shown, hshow, -⟩ := h.exists_of_mem hrecord
    rcases hshow with ⟨eventType', hevent, hshow⟩ | ⟨q, hq, hclosed, hshow, -⟩
    · -- a record has one event type
      rw [htype.unique hshow.hasEventType, hevent] at hobject
      cases hobject
    · exact ⟨q, hq, hclosed, hshow.hasEventType.unique htype, hshow⟩
  startBeforeEnd q hq hclosed := (h.closed q hq hclosed).1
  startOfChild q p hq hup := h.increasing p q (hlinked.lt_of_parent q p hup) hq
  endOfChild q p hq hup hclosed := by
    refine ⟨fun hopen => hclosed (hlinked.parent q p hopen hup), h.nested q p hq ?_ hclosed⟩
    rw [numbers, ObjectNode.parent_numbers]
    exact hup

/-- A session once it is started. -/
def started (caller : Caller) (beacon : Beacon) (numReads : ℕ) : SessionHeap :=
  ((onBeacon (BeaconReports.startSession caller)).run (new beacon numReads)).2

end SessionHeap

end OpenKit
