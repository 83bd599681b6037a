import OpenKit.Objects.AttributePrecedence
import OpenKit.Objects.CallMoves

/-!
# The exceptions of the session API

A beacon refuses what is empty by an exception. Proxies and sessions ask for that before, so that no such
exception comes to the application. The length of a payload is known to nobody but the beacon: an event with
a payload that is too long ends with an exception, if the session that gets it records events at all.

That session is the current one of the proxy, or a new one if the current one has too many events. The new one
has the configuration of the proxy, and the random number of its creator.

## Main definitions

* `ISessionCall`: the calls of the API, with the attributes of events
* `ProxyCall.Oversized`: the events with a payload that is too long
* `OpenKitInstance.recordsEvents`: whether the session that gets the next call records events

## Main results

* `outcome_eq_ok_iff`: the calls that return
-/

namespace OpenKit

open Thread

/-! ## Events that are too long -/

/-- A call reports an event that has a name, with a payload that is too long. -/
inductive ProxyCall.Oversized : ProxyCall → (PrivacyConfiguration → Bool) → Prop
  | sendEvent {name : UTF8String} {jsonPayload : List UInt8} (hname : name.isEmpty = false)
      (hlength : BeaconReports.eventPayloadBytesLength < jsonPayload.length) :
      Oversized (.sendEvent name jsonPayload) (·.isEventReportingAllowed)
  | sendBizEvent {type : UTF8String} {jsonPayload : List UInt8} (htype : type.isEmpty = false)
      (hlength : BeaconReports.eventPayloadBytesLength < jsonPayload.length) :
      Oversized (.sendBizEvent type jsonPayload) fun _ => true

/-- An open session that captures data records the events to which the user has opted in. -/
def Session.recordsEvents (s : Session) (allowed : PrivacyConfiguration → Bool) : Bool :=
  !s.isFinishingOrFinished && (allowed s.beacon.privacyConfiguration && s.beacon.isDataCapturingEnabled)

/-- The session that gets the next call on a proxy records events. A new one has the configuration of the
proxy. -/
def OpenKitInstance.recordsEvents (s : OpenKitInstance) (p : ProxyRef)
    (allowed : PrivacyConfiguration → Bool) : Bool :=
  if s.splitsByEvents p then
    match (s.proxy p).serverConfiguration with
    | none => false
    | some c => allowed (s.proxy p).sessionCreator.privacyConfiguration && (c.get.isSendingDataAllowed &&
        (s.proxy p).sessionCreator.randomNumberGenerator.randomPercentage < c.get.trafficControlPercentage)
  else
    match (s.proxy p).currentSession with
    | none => false
    | some k => (s.session k).session.recordsEvents allowed

namespace SessionCalls

open BeaconReports

variable (caller : Caller)

/-! ## Calls on a session -/

theorem returns_newAction (name : UTF8String) (h : name.isEmpty = false) (parentID : ℤ) :
    (newAction caller name h parentID).Returns := by
  refine (Program.returns_atomic _).bind fun startTime => ?_
  refine (Program.returns_atomic _).bind fun startSequenceNumber => ?_
  exact (Program.returns_atomic _).bind fun id => trivial

theorem returns_newWebRequest (url : UTF8String) (h : url.isEmpty = false) (parentActionID : ℤ) :
    (newWebRequest caller url h parentActionID).Returns := by
  refine (Program.returns_atomic _).bind fun startTime => ?_
  exact (Program.returns_atomic _).bind fun startSequenceNo => trivial

theorem returns_whenOpen {body : Reporter Unit} (h : body.Returns) : (whenOpen body).Returns := by
  refine (Program.returns_atomic _).bind fun ended => ?_
  split
  · exact h
  · trivial

theorem returns_perform_enterAction (name : UTF8String) : (perform caller (.enterAction name)).Returns := by
  rw [perform]
  split
  next hname =>
    exact returns_whenOpen ((returns_newAction caller name hname _).bind fun child =>
      Program.returns_atomic _)
  next => trivial

theorem returns_perform_traceWebRequest (url : UTF8String) :
    (perform caller (.traceWebRequest url)).Returns := by
  rw [perform]
  split
  next hurl =>
    exact returns_whenOpen ((returns_newWebRequest caller url hurl _).bind fun child =>
      Program.returns_atomic _)
  next => trivial

/-- A payload is refused by its length only. -/
theorem run_sendEventPayload_eq_ok_iff (jsonPayload : List UInt8) (r : Reporting) :
    ((sendEventPayload caller jsonPayload).run r).1 = .ok () ↔
      ¬ eventPayloadBytesLength < jsonPayload.length := by
  rw [sendEventPayload]
  split
  next hlong =>
    refine iff_of_false ?_ (not_not.mpr hlong)
    intro h
    cases h
  next hshort => exact iff_of_true rfl hshort

/-- An event comes to its payload if the session records events. -/
theorem run_whenOpen_report_eq_ok_iff (allowed : PrivacyConfiguration → Bool) {body : Reporter Unit}
    {refused : Prop} (hbody : ∀ r, (body.run r).1 = .ok () ↔ ¬ refused) (r : Reporting) :
    ((whenOpen (report allowed (·.isDataCapturingEnabled) body)).run r).1 = .ok () ↔
      ¬ (r.session.recordsEvents allowed = true ∧ refused) := by
  rw [whenOpen, Program.run_bind_ok (Program.run_read _ r), Session.recordsEvents]
  cases r.session.isFinishingOrFinished with
  | true => exact iff_of_true rfl fun h => Bool.false_ne_true h.1
  | false =>
    rw [Bool.not_false, if_pos rfl, Bool.true_and, report, Program.run_bind_ok (Program.run_read _ r)]
    show ((if !allowed r.session.beacon.privacyConfiguration then _ else _ : Reporter Unit).run r).1 =
      _ ↔ _
    cases allowed r.session.beacon.privacyConfiguration with
    | false => exact iff_of_true rfl fun h => Bool.false_ne_true h.1
    | true =>
      rw [Bool.not_true, if_neg Bool.false_ne_true, Bool.true_and,
        Program.run_bind_ok (Program.run_read _ r)]
      show ((if !r.session.beacon.isDataCapturingEnabled then _ else _ : Reporter Unit).run r).1 = _ ↔ _
      cases r.session.beacon.isDataCapturingEnabled with
      | false => exact iff_of_true rfl fun h => Bool.false_ne_true h.1
      | true =>
        rw [Bool.not_true, if_neg Bool.false_ne_true, hbody r, and_iff_right rfl]

theorem run_perform_sendEvent_eq_ok_iff {name : UTF8String} (hname : name.isEmpty = false)
    (jsonPayload : List UInt8) (r : Reporting) :
    ((perform caller (.sendEvent name jsonPayload)).run r).1 = .ok () ↔
      ¬ (r.session.recordsEvents (·.isEventReportingAllowed) = true ∧
        eventPayloadBytesLength < jsonPayload.length) := by
  rw [perform, hname, Bool.not_false, if_pos rfl, sendEvent, requireNonEmpty, hname,
    if_neg Bool.false_ne_true]
  exact run_whenOpen_report_eq_ok_iff _ (run_sendEventPayload_eq_ok_iff caller jsonPayload) r

theorem run_perform_sendBizEvent_eq_ok_iff {type : UTF8String} (htype : type.isEmpty = false)
    (jsonPayload : List UInt8) (r : Reporting) :
    ((perform caller (.sendBizEvent type jsonPayload)).run r).1 = .ok () ↔
      ¬ (r.session.recordsEvents (fun _ => true) = true ∧
        eventPayloadBytesLength < jsonPayload.length) := by
  rw [perform, htype, Bool.not_false, if_pos rfl, sendBizEvent, requireNonEmpty, htype,
    if_neg Bool.false_ne_true]
  exact run_whenOpen_report_eq_ok_iff (fun _ => true) (run_sendEventPayload_eq_ok_iff caller jsonPayload) r

end SessionCalls

/-- A call that does not end the session leaves what it records. -/
theorem PlainStep.recordsEvents {r r' : Reporting} (h : PlainStep r r')
    (allowed : PrivacyConfiguration → Bool) :
    r'.session.recordsEvents allowed = r.session.recordsEvents allowed := by
  have hbeacon : r.session.beacon.SameButNumbers r'.session.beacon := h.beacon
  have hprivacy : r'.session.beacon.privacyConfiguration = r.session.beacon.privacyConfiguration :=
    congrArg BeaconConfiguration.privacyConfiguration hbeacon.beaconConfiguration
  rw [Session.recordsEvents, Session.isFinishingOrFinished, h.isSessionFinishing, h.isSessionFinished,
    hprivacy, hbeacon.isDataCapturingEnabled]
  rfl

namespace OpenKitInstance

open SessionProxies

variable {env : InstanceEnvironment} {caller : Caller} {s t : OpenKitInstance} {p : ProxyRef}
  {k : SessionRef}

/-! ## The session that gets the next call -/

theorem ReTagged.recordsEvents (h : s.ReTagged caller p t) (j : SessionRef)
    (allowed : PrivacyConfiguration → Bool) :
    (t.session j).session.recordsEvents allowed = (s.session j).session.recordsEvents allowed := by
  cases h with
  | untagged _ => rfl
  | @tagged k htag hcurrent =>
    by_cases hj : j = k
    · subst hj
      obtain ⟨_, r, hrun⟩ := (SessionCalls.returns_perform_identifyUser caller
        (s.proxy p).lastUserTag).run ((s.remember (.reTagged p j (s.proxy p).lastUserTag)).reporting j)
      rw [ranOn, session_afterReport_self, hrun]
      exact (SessionCalls.plainStep_of_run_perform (by simp) rfl hrun).recordsEvents allowed
    · rw [ranOn, session_afterReport_of_ne hj, session_remember]

variable (env s p) in
/-- A new session takes over the configuration that it is given. -/
theorem beaconConfiguration_created (c : ServerConfigurationRef) :
    ((((createAndAssignCurrentSession env p none (some c)).run s).2).session
      s.sessions.size).beaconConfiguration =
      ⟨(s.proxy p).sessionCreator.privacyConfiguration, some c, true⟩ := by
  have hconfigured (u : OpenKitInstance) (hu : u.session s.sessions.size = s.madeSession env p) :
      (((u.configure s.sessions.size (·.initializeServerConfiguration none)).configure s.sessions.size
        (·.updateServerConfiguration (some c))).session s.sessions.size).beaconConfiguration =
        ⟨(s.proxy p).sessionCreator.privacyConfiguration, some c, true⟩ := by
    rw [session_configure, session_configure, hu]
    rfl
  exact hconfigured _ (allocated_of_newSession s).session

variable (env caller) in
/-- **The session that gets the next call** records events as its proxy lets expect. -/
theorem run_getOrSplitCurrentSessionByEvents_recordsEvents (hsound : s.Sound) (huse : s.InUse p k) :
    ∃ k' t, (getOrSplitCurrentSessionByEvents env p caller).run s = (.ok k', t) ∧
      ∀ allowed, (t.session k').session.recordsEvents allowed = s.recordsEvents p allowed := by
  cases hsplit : s.splitsByEvents p with
  | true =>
    obtain ⟨c, s₁, s₂, t, hconfig, hclosed, hcreate, hmade, htagged, hrun⟩ :=
      run_getOrSplitCurrentSessionByEvents_parts env caller hsplit huse.currentSession (hsound.settled k)
    refine ⟨s₁.sessions.size, t, hrun, fun allowed => ?_⟩
    obtain ⟨children, hproxy⟩ := hclosed.proxy p
    obtain ⟨config, hsession, -⟩ := hmade.session
    have hcreated := beaconConfiguration_created env s₁ p c
    rw [hcreate, hsession] at hcreated
    obtain rfl : config = ⟨(s₁.proxy p).sessionCreator.privacyConfiguration, some c, true⟩ := hcreated
    rw [htagged.recordsEvents, hsession, OpenKitInstance.recordsEvents, if_pos hsplit, hconfig,
      madeSession, hproxy]
    rfl
  | false =>
    refine ⟨k, s, run_getOrSplitCurrentSessionByEvents_of_not_split hsplit huse.currentSession,
      fun allowed => ?_⟩
    rw [OpenKitInstance.recordsEvents, if_neg (ne_true_of_eq_false hsplit), huse.currentSession]

/-! ## The calls of the application -/

/-- What a session answers is passed on. -/
theorem run_onSession_eq_ok_iff (body : Reporter Unit) :
    ((onSession k body).run s).1 = .ok () ↔ (body.run (s.reporting k)).1 = .ok () := by
  constructor
  · intro h
    rcases hrun : body.run (s.reporting k) with ⟨error | _, r⟩
    · -- an exception comes to the caller of the proxy
      have hread : body.run ⟨(s.session k).session, s.numReads, []⟩ = (.error error, r) := hrun
      rw [onSession, Program.run_bind_ok (Program.run_atomic _ s), hread] at h
      cases h
    · rfl
  · intro h
    rcases hrun : body.run (s.reporting k) with ⟨error | _, r⟩
    · rw [hrun] at h
      cases h
    · rw [run_onSession hrun]

variable (env caller) in
/-- **A call that is forwarded** returns if the session that gets it returns. -/
theorem run_forward_eq_ok_iff (hsound : s.Sound) (huse : s.InUse p k) (call : SessionCall) :
    ∃ r : Reporting, (((forward env p caller call).run s).1 = .ok () ↔
        ((SessionCalls.perform caller call).run r).1 = .ok ()) ∧
      ∀ allowed, r.session.recordsEvents allowed = s.recordsEvents p allowed := by
  obtain ⟨k', t, hrun, hrecords⟩ := run_getOrSplitCurrentSessionByEvents_recordsEvents env
    caller hsound huse
  refine ⟨((t.interacted env p).remember (.forwarded p k' call)).reporting k', ?_, hrecords⟩
  rw [forward, Program.run_bind_ok hrun, Program.run_bind_ok run_recordTopLevelEventInteraction,
    forwardTo, Program.run_bind_ok (Program.run_write _ _)]
  exact run_onSession_eq_ok_iff _

theorem run_forward_of_returns (hsound : s.Sound) (huse : s.InUse p k) {call : SessionCall}
    (hreturns : (SessionCalls.perform caller call).Returns) :
    ((forward env p caller call).run s).1 = .ok () := by
  obtain ⟨r, hiff, -⟩ := run_forward_eq_ok_iff env caller hsound huse call
  obtain ⟨_, r', hrun⟩ := hreturns.run r
  exact hiff.mpr (congrArg Prod.fst hrun)

theorem run_enterAction_eq_ok (hsound : s.Sound) (huse : s.InUse p k) (name : UTF8String) :
    ((enterAction env p caller name).run s).1 = .ok () := by
  rw [enterAction]
  split
  · rfl
  · obtain ⟨k', t, hrun, -⟩ := run_getOrSplitCurrentSessionByEvents_recordsEvents env
      caller hsound huse
    have hforward (u : OpenKitInstance) : ((forwardTo p caller k' (.enterAction name)).run u).1 = .ok () := by
      obtain ⟨_, r, hbody⟩ := (SessionCalls.returns_perform_enterAction caller name).run
        ((u.remember (.forwarded p k' (.enterAction name))).reporting k')
      rw [forwardTo, Program.run_bind_ok (Program.run_write _ u)]
      exact (run_onSession_eq_ok_iff _).mpr (congrArg Prod.fst hbody)
    rw [whenUnfinished, Program.run_bind_ok (Program.run_read _ s), huse.unfinished,
      if_neg Bool.false_ne_true, Program.run_bind_ok hrun, Program.run_bind_ok (Program.run_read _ t)]
    split
    · rw [Program.run_bind_ok run_recordTopLevelActionEvent, hforward]
    · rw [Program.run_bind_ok run_recordTopLevelEventInteraction, hforward]

/-- A crash of a proxy with a configuration. -/
theorem run_reportCrash_eq_ok {threadID : ℤ} (hsound : s.Sound) (huse : s.InUse p k)
    (hconfig : (s.proxy p).serverConfiguration ≠ none) (errorName reason stacktrace : UTF8String) :
    ((reportCrash env p ⟨threadID, env.clock⟩ errorName reason stacktrace).run s).1 = .ok () := by
  rw [reportCrash]
  split
  · rfl
  · let crash : SessionCall := .reportCrash errorName reason stacktrace
    have hok : ((forward env p ⟨threadID, env.clock⟩ crash).run s).1 = .ok () :=
      run_forward_of_returns hsound huse (SessionCalls.returns_perform_reportCrash _ _ _ _)
    obtain ⟨t, k', hmoves, huse', hleft⟩ := moves_forward env threadID
      (.reportCrash errorName reason stacktrace) crash hsound huse rfl
    have hrun : (forward env p ⟨threadID, env.clock⟩ crash).run s = (.ok (), t) := Prod.ext hok hleft
    have hkeeps : Keeps False (forward env p ⟨threadID, env.clock⟩ crash) s := keeps_forward huse.made crash
    have hstep : InstanceStep (fun _ => False) s t := by
      rw [← hleft]
      exact Program.Within.run hkeeps
    -- the split that starts over finds the configuration
    obtain ⟨c, hc⟩ := Option.ne_none_iff_exists'.mp
      (mt (hstep.proxy p huse.made).serverConfiguration_eq_none hconfig)
    obtain ⟨u, hsplit, -⟩ := run_splitAndCreateNewInitialSession env ⟨threadID, env.clock⟩ hc
      huse'.currentSession ((hsound.moves hmoves).settled k')
    rw [whenUnfinished, Program.run_bind_ok (Program.run_read _ s), huse.unfinished,
      if_neg Bool.false_ne_true, Program.run_bind_ok hrun, hsplit]

/-- An event with a payload that is too long is given to a proxy in use whose next session records events. -/
def ReportsOversized (s : OpenKitInstance) (p : ProxyRef) (call : ProxyCall) : Prop :=
  (s.proxy p).isFinished = false ∧ ∃ allowed, call.Oversized allowed ∧ s.recordsEvents p allowed = true

variable (env caller) in
/-- A call that is forwarded if its argument is not empty. -/
theorem run_forwardUnlessEmpty_eq_ok_iff (hsound : s.Sound) (huse : s.InUse p k) (text : UTF8String)
    (call : SessionCall) :
    ∃ r : Reporting, (((if text.isEmpty then return () else
        whenUnfinished p (forward env p caller call) : InstanceProgram Unit).run s).1 = .ok () ↔
          (text.isEmpty = false → ((SessionCalls.perform caller call).run r).1 = .ok ())) ∧
      ∀ allowed, r.session.recordsEvents allowed = s.recordsEvents p allowed := by
  obtain ⟨r, hiff, hrecords⟩ := run_forward_eq_ok_iff env caller hsound huse call
  refine ⟨r, ?_, hrecords⟩
  cases text.isEmpty with
  | true => exact iff_of_true rfl fun h => absurd h (by decide)
  | false =>
    rw [if_neg Bool.false_ne_true, whenUnfinished, Program.run_bind_ok (Program.run_read _ s),
      huse.unfinished, if_neg Bool.false_ne_true, hiff]
    exact ⟨fun h _ => h, fun h => h rfl⟩

/-- The time of a split makes no exception. -/
theorem run_splitSessionByTime_eq_ok (hsound : s.Sound) (huse : s.InUse p k) :
    ((ProxyCall.splitSessionByTime.perform env p caller).run s).1 = .ok () := by
  obtain ⟨next, t, hrun⟩ : ∃ next t, (splitSessionByTime env p caller).run s = (.ok next, t) := by
    by_cases hearly : s.nextSplitTime p k < 0 ∨ env.clock s.numReads < s.nextSplitTime p k
    · exact ⟨_, _, run_splitSessionByTime_of_not_split huse.unfinished huse.currentSession hearly⟩
    · obtain ⟨k', t, hrun, -⟩ := run_splitSessionByTime_of_split env caller huse.unfinished
        huse.currentSession (hsound.settled k) (by omega)
      exact ⟨_, _, hrun⟩
  rw [ProxyCall.perform, Program.run_bind_ok hrun]
  rfl

/-- **The calls on a proxy in use.** -/
theorem run_perform_eq_ok_iff_of_inUse {threadID : ℤ} (hsound : s.Sound) (huse : s.InUse p k)
    (hconfig : (s.proxy p).serverConfiguration ≠ none) (call : ProxyCall) :
    ((call.perform env p ⟨threadID, env.clock⟩).run s).1 = .ok () ↔ ¬ s.ReportsOversized p call := by
  have hother (hcall : ∀ allowed, ¬ call.Oversized allowed) : ¬ s.ReportsOversized p call := by
    rintro ⟨-, allowed, hlong, -⟩
    exact hcall allowed hlong
  cases call with
  | enterAction name =>
    exact iff_of_true (run_enterAction_eq_ok hsound huse name) (hother fun _ h => by cases h)
  | identifyUser userTag =>
    obtain ⟨k', t, -, -, hrun⟩ := run_identifyUser env (.onProxy p threadID (.identifyUser userTag))
      threadID hsound huse userTag
    exact iff_of_true (congrArg Prod.fst hrun) (hother fun _ h => by cases h)
  | reportCrash errorName reason stacktrace =>
    exact iff_of_true (run_reportCrash_eq_ok hsound huse hconfig errorName reason stacktrace)
      (hother fun _ h => by cases h)
  | traceWebRequest url =>
    obtain ⟨r, hiff, -⟩ := run_forwardUnlessEmpty_eq_ok_iff env ⟨threadID, env.clock⟩ hsound huse url
      (.traceWebRequest url)
    obtain ⟨_, r', hrun⟩ := (SessionCalls.returns_perform_traceWebRequest ⟨threadID, env.clock⟩ url).run r
    exact iff_of_true (hiff.mpr fun _ => congrArg Prod.fst hrun) (hother fun _ h => by cases h)
  | sendEvent name jsonPayload =>
    obtain ⟨r, hiff, hrecords⟩ := run_forwardUnlessEmpty_eq_ok_iff env ⟨threadID, env.clock⟩ hsound huse
      name (.sendEvent name jsonPayload)
    refine hiff.trans ⟨?_, ?_⟩
    · rintro hok ⟨-, _, hoversized, hallowed⟩
      rw [← hrecords] at hallowed
      cases hoversized with
      | sendEvent hname hlong =>
        exact (SessionCalls.run_perform_sendEvent_eq_ok_iff _ hname jsonPayload r).mp (hok hname)
          ⟨hallowed, hlong⟩
    · intro hnot hname
      refine (SessionCalls.run_perform_sendEvent_eq_ok_iff _ hname jsonPayload r).mpr ?_
      rintro ⟨hallowed, hlong⟩
      rw [hrecords] at hallowed
      exact hnot ⟨huse.unfinished, _, .sendEvent hname hlong, hallowed⟩
  | sendBizEvent type jsonPayload =>
    obtain ⟨r, hiff, hrecords⟩ := run_forwardUnlessEmpty_eq_ok_iff env ⟨threadID, env.clock⟩ hsound huse
      type (.sendBizEvent type jsonPayload)
    refine hiff.trans ⟨?_, ?_⟩
    · rintro hok ⟨-, _, hoversized, hallowed⟩
      rw [← hrecords] at hallowed
      cases hoversized with
      | sendBizEvent htype hlong =>
        exact (SessionCalls.run_perform_sendBizEvent_eq_ok_iff _ htype jsonPayload r).mp (hok htype)
          ⟨hallowed, hlong⟩
    · intro hnot htype
      refine (SessionCalls.run_perform_sendBizEvent_eq_ok_iff _ htype jsonPayload r).mpr ?_
      rintro ⟨hallowed, hlong⟩
      rw [hrecords] at hallowed
      exact hnot ⟨huse.unfinished, _, .sendBizEvent htype hlong, hallowed⟩
  | close =>
    exact iff_of_true (congrArg Prod.fst (run_endProxy huse.unfinished)) (hother fun _ h => by cases h)
  | splitSessionByTime =>
    exact iff_of_true (run_splitSessionByTime_eq_ok hsound huse) (hother fun _ h => by cases h)

/-- A proxy that is finished ignores all calls. -/
theorem run_perform_of_finished (hfinished : (s.proxy p).isFinished = true) (call : ProxyCall) :
    ((call.perform env p caller).run s).1 = .ok () := by
  have hignored (body : InstanceProgram Unit) : ((whenUnfinished p body).run s).1 = .ok () := by
    rw [whenUnfinished, Program.run_bind_ok (Program.run_read _ s), hfinished]
    rfl
  have hunless (text : UTF8String) (body : InstanceProgram Unit) :
      ((if text.isEmpty then return () else whenUnfinished p body : InstanceProgram Unit).run s).1 =
        .ok () := by
    split
    · rfl
    · exact hignored body
  cases call with
  | enterAction name => exact hunless name _
  | identifyUser userTag => exact hignored _
  | reportCrash errorName reason stacktrace => exact hunless errorName _
  | traceWebRequest url => exact hunless url _
  | sendEvent name jsonPayload => exact hunless name _
  | sendBizEvent type jsonPayload => exact hunless type _
  | close => exact hignored _
  | splitSessionByTime =>
    rw [ProxyCall.perform, Program.run_bind_ok (run_splitSessionByTime_of_finished hfinished)]
    rfl

/-- **The calls on a proxy** with a configuration. -/
theorem run_perform_eq_ok_iff {threadID : ℤ} (hsound : s.Sound) (hmade : p < s.proxies.size)
    (hconfig : (s.proxy p).serverConfiguration ≠ none) (call : ProxyCall) :
    ((call.perform env p ⟨threadID, env.clock⟩).run s).1 = .ok () ↔ ¬ s.ReportsOversized p call := by
  cases hfinished : (s.proxy p).isFinished with
  | true =>
    refine iff_of_true (run_perform_of_finished hfinished call) ?_
    rintro ⟨hunfinished, -⟩
    cases hunfinished.symm.trans hfinished
  | false =>
    obtain ⟨k, hcurrent⟩ := hsound.live p hmade hfinished
    exact run_perform_eq_ok_iff_of_inUse hsound ⟨hmade, hfinished, hcurrent⟩ hconfig call

end OpenKitInstance

/-! ## The length of a payload -/

theorem mem_toJsonMembers (doubleText : Double → List UInt8) {map : List (List UInt8 × EventValue)}
    {key : List UInt8} {value : EventValue} (h : (key, value) ∈ map) :
    (key, value.toJsonValue doubleText) ∈ toJsonMembers doubleText map := by
  induction map with
  | nil => cases h
  | cons m map ih =>
    obtain ⟨key', value'⟩ := m
    rw [toJsonMembers]
    rcases List.mem_cons.mp h with hfirst | hmore
    · obtain ⟨rfl, rfl⟩ := Prod.mk.inj hfirst
      exact List.mem_cons_self
    · exact List.mem_cons_of_mem _ (ih hmore)

/-- An attribute with a text makes the payload as long. -/
theorem EventPayloadBuilder.length_le_mapText (doubleText : Double → List UInt8) {attributes : JsonObjectMap}
    {key value : List UInt8} (h : attributes.value key = some (.string value)) :
    value.length ≤ (mapText doubleText attributes).length := by
  obtain ⟨⟨key', value'⟩, hm, hkey, rfl⟩ := UnorderedMap.exists_mem_of_valueIn h
  have hmember := mem_toJsonMembers doubleText hm
  rw [EventValue.toJsonValue] at hmember
  rw [mapText, JsonValue.toString, JsonValue.writeJsonString, JsonWriter.closeObject,
    JsonWriter.length_append]
  exact (length_le_writeMembers_of_mem id hmember 0 _).trans (Nat.le_add_right _ _)

namespace EventPayloads

open EventPayloadBuilder

/-- An attribute of the user with a text, under a key that is nobody else's, makes the payload as long. -/
theorem length_le_bizEventText (source : EventSource) (doubleText : Double → List UInt8) (type : UTF8String)
    {attributes : ℕ} {maps : Heap JsonObjectMap} {key value : List UInt8}
    (huser : (maps.get attributes).value key = some (.string value)) (hreserved : ¬ IsReserved key)
    (hown : key ∉ [keyEventKind, keySchemaVersion, keySessionID, keyInstanceID, keyApplicationID,
      keyCustomAttributesSize, keyEventType]) :
    value.length ≤ (bizEventText source doubleText type (some attributes) maps).length := by
  obtain ⟨hpayload, -⟩ := isPayload_bizEventPayload source doubleText type (some attributes) maps
  have hmark : key ≠ keyHasNfnValues := by
    rintro rfl
    exact hreserved (by decide)
  have hnone (size : ℕ) : (nonOverridable source type size).lookup key = none := by
    refine List.lookup_eq_none_iff.mpr fun e he => ?_
    rw [bne_iff_ne]
    rintro rfl
    exact hown (List.mem_map_of_mem (f := Prod.fst) he)
  have hvalue := hpayload.value key hmark
  rw [precedence, if_neg hreserved, hnone, userValue, Option.bind_some, huser] at hvalue
  exact length_le_mapText doubleText hvalue

end EventPayloads

/-! ## The API -/

/-- The calls of the application on a session. Texts are given as the code has converted them, the URL of a
web request as it is stored, and the attributes of an event by their map. -/
inductive ISessionCall
  | enterAction (actionName : UTF8String)
  | identifyUser (userTag : UTF8String)
  | reportCrash (errorName reason stacktrace : UTF8String)
  | traceWebRequest (url : UTF8String)
  | sendEvent (name : UTF8String) (attributes : Option ℕ)
  | sendBizEvent (type : UTF8String) (attributes : Option ℕ)
  | close

/-- The call on the proxy, with the text of the payload that the beacon builds of the attributes. -/
def ISessionCall.toProxyCall (source : EventSource) (doubleText : Double → List UInt8)
    (maps : Heap JsonObjectMap) : ISessionCall → ProxyCall
  | enterAction actionName => .enterAction actionName
  | identifyUser userTag => .identifyUser userTag
  | reportCrash errorName reason stacktrace => .reportCrash errorName reason stacktrace
  | traceWebRequest url => .traceWebRequest url
  | sendEvent name attributes =>
    .sendEvent name (EventPayloads.eventText source doubleText name attributes maps)
  | sendBizEvent type attributes =>
    .sendBizEvent type (EventPayloads.bizEventText source doubleText type attributes maps)
  | close => .close

namespace OpenKitInstance

section Run

variable (env : InstanceEnvironment) (http : HTTPClientConfiguration) (provider : SessionIDProvider)
  (earlier : List InstanceCall) (source : EventSource) (doubleText : Double → List UInt8)
  (maps : Heap JsonObjectMap)

/-- **The calls that return**: all but the events with a payload that is too long, if the session that gets
them records events. -/
theorem outcome_eq_ok_iff {p : ProxyRef} (threadID : ℤ) (call : ISessionCall)
    (hmade : p < ((new http provider env).afterCalls env earlier).proxies.size)
    (hconfig : (((new http provider env).afterCalls env earlier).proxy p).serverConfiguration ≠ none) :
    ((new http provider env).afterCalls env earlier).outcome env
        (.onProxy p threadID (call.toProxyCall source doubleText maps)) = .ok () ↔
      ¬ ((new http provider env).afterCalls env earlier).ReportsOversized p
        (call.toProxyCall source doubleText maps) := by
  let proxyCall := call.toProxyCall source doubleText maps
  have hvalid : (InstanceCall.onProxy p threadID proxyCall).isValid
      ((new http provider env).afterCalls env earlier) = true := decide_eq_true hmade
  rw [outcome, run_perform_of_isValid hvalid]
  exact run_perform_eq_ok_iff (sound_afterCalls env http provider earlier) hmade hconfig proxyCall

end Run

/-- A proxy whose session has a configuration from a response. -/
def configuredCalls : List InstanceCall :=
  [.createSession, .requestNewSession 0 (some ⟨0, .jsonResponse, 200, 0⟩)]

/-- What a beacon adds if nothing is given. -/
def plainSource : EventSource := ⟨⟨⟨.nil, 1⟩, .nil, .nil, .nil, .nil⟩, 1, 1, 0⟩

/-- One attribute with a text. -/
def singleAttribute (value : List UInt8) : Heap JsonObjectMap :=
  (Heap.empty .empty).alloc (UnorderedMap.empty.insert ([97], .string value))

/-- A business event with a short attribute returns. -/
theorem outcome_eq_ok_sendBizEvent :
    ((new ⟨1, .nil⟩ ⟨0⟩ .plain).afterCalls .plain configuredCalls).outcome .plain (.onProxy 0 1
        (ISessionCall.toProxyCall plainSource (fun _ => []) (singleAttribute [98])
          (.sendBizEvent (.ofAscii ['a']) (some 0)))) = .ok () := by
  have hshort : (EventPayloads.bizEventText plainSource (fun _ => []) (.ofAscii ['a']) (some 0)
      (singleAttribute [98])).length ≤ BeaconReports.eventPayloadBytesLength := by decide +kernel
  refine (outcome_eq_ok_iff .plain ⟨1, .nil⟩ ⟨0⟩ configuredCalls plainSource (fun _ => [])
    (singleAttribute [98]) 1 (.sendBizEvent (.ofAscii ['a']) (some 0)) (by decide) (by decide)).mpr ?_
  rintro ⟨-, _, hlong, -⟩
  cases hlong with
  | sendBizEvent _ hlength => exact absurd hlength (not_lt.mpr hshort)

/-- The payload with this attribute is as long as the text. -/
theorem length_le_bizEventText_singleAttribute (value : List UInt8) :
    value.length ≤ (EventPayloads.bizEventText plainSource (fun _ => []) (.ofAscii ['a']) (some 0)
      (singleAttribute value)).length := by
  have huser : ((singleAttribute value).get 0).value [97] = some (.string value) := by
    rw [singleAttribute, show (0 : ℕ) = (Heap.empty (.empty : JsonObjectMap)).size from rfl,
      Heap.get_alloc_size, JsonObjectMap.value, UnorderedMap.valueAt_insert stringKeys_views]
    rfl
  exact EventPayloads.length_le_bizEventText plainSource (fun _ => []) (.ofAscii ['a']) huser (by decide)
    (by decide)

/-- A business event is sent with an attribute of 16385 bytes. -/
theorem not_outcome_eq_ok : ¬ ∀ (env : InstanceEnvironment) (http : HTTPClientConfiguration)
    (provider : SessionIDProvider) (earlier : List InstanceCall) (source : EventSource)
    (doubleText : Double → List UInt8) (maps : Heap JsonObjectMap) (p : ProxyRef) (threadID : ℤ)
    (call : ISessionCall), p < ((new http provider env).afterCalls env earlier).proxies.size →
      (((new http provider env).afterCalls env earlier).proxy p).serverConfiguration ≠ none →
      ((new http provider env).afterCalls env earlier).outcome env
        (.onProxy p threadID (call.toProxyCall source doubleText maps)) = .ok () := by
  intro h
  obtain ⟨value, hvalue⟩ : ∃ value : List UInt8, value.length = 16385 :=
    ⟨List.replicate 16385 97, List.length_replicate⟩
  have hlength := length_le_bizEventText_singleAttribute value
  have hok := h .plain ⟨1, .nil⟩ ⟨0⟩ configuredCalls plainSource (fun _ => []) (singleAttribute value) 0 1
    (.sendBizEvent (.ofAscii ['a']) (some 0)) (by decide) (by decide)
  rw [ISessionCall.toProxyCall] at hok
  generalize EventPayloads.bizEventText plainSource (fun _ => []) (.ofAscii ['a']) (some 0)
    (singleAttribute value) = payload at hlength hok
  have hmade : 0 < ((new ⟨1, .nil⟩ ⟨0⟩ .plain).afterCalls .plain configuredCalls).proxies.size := by
    decide
  have hvalid : (InstanceCall.onProxy 0 1 (.sendBizEvent (.ofAscii ['a']) payload)).isValid
      ((new ⟨1, .nil⟩ ⟨0⟩ .plain).afterCalls .plain configuredCalls) = true := decide_eq_true hmade
  rw [outcome, run_perform_of_isValid hvalid, InstanceCall.body] at hok
  have hlong : BeaconReports.eventPayloadBytesLength < payload.length := by
    rw [BeaconReports.eventPayloadBytesLength]
    omega
  have hname : (UTF8String.ofAscii ['a']).isEmpty = false := rfl
  exact (run_perform_eq_ok_iff (sound_afterCalls .plain ⟨1, .nil⟩ ⟨0⟩ configuredCalls) hmade
    (by decide) _).mp hok ⟨by decide, _, .sendBizEvent hname hlong, by decide⟩

end OpenKitInstance

end OpenKit
