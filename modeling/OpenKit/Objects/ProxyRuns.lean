import OpenKit.Objects.SessionRuns

/-!
# What the operations of proxies leave

Each part of an operation of a proxy is described by what it leaves of the instance: a session that is
given up is ended, or waits for its children in the queue of the watchdog; a new session is
the current one of its proxy, and new in every respect but its configuration; a session that is
re-tagged is reported the last user of the proxy.

## Main definitions

* `OpenKitInstance.Closed`: what `closeOrEnqueueForClosing` leaves
* `OpenKitInstance.Made`: what `createAndAssignCurrentSession` leaves
* `OpenKitInstance.ReTagged`: what `reTagCurrentSession` leaves
* `OpenKitInstance.splitsByEvents`: whether the current session has too many events

## Main results

* `run_closeOrEnqueueForClosing`, `run_createAndAssignCurrentSession`, `run_reTagCurrentSession` and so
  on: the runs of these parts
-/

namespace OpenKit

open Thread

namespace OpenKitInstance

variable (env : InstanceEnvironment) (caller : Caller)

/-! ## Closing a session -/

/-- A session with the end of its grace period, in the queue of the watchdog. -/
def enqueue (s : OpenKitInstance) (k : SessionRef) (closeTime : ℤ) : OpenKitInstance :=
  { s.updateSession k fun o => { o with splitByEventsGracePeriodEndTimeInMillis := closeTime } with
    watchdog := { s.watchdog with sessionsToClose := s.watchdog.sessionsToClose ++ [k] } }

/-- A session that waits for its children is handed to the watchdog, with the end of its grace period. -/
structure Enqueued (k : SessionRef) (closeGracePeriodInMillis : ℤ) (s t : OpenKitInstance) : Prop where
  waiting : (s.session k).session.children ≠ []
  proxies : t.proxies = s.proxies
  sessions_size : t.sessions.size = s.sessions.size
  session_of_ne : ∀ j, j ≠ k → t.session j = s.session j
  session : t.session k =
    { (s.session k).setSession { (s.session k).session with wasTriedForEnding := true } with
      splitByEventsGracePeriodEndTimeInMillis := env.clock s.numReads + closeGracePeriodInMillis }
  sessionsToClose : t.watchdog.sessionsToClose = s.watchdog.sessionsToClose ++ [k]
  sessionsToSplitByTimeout :
    t.watchdog.sessionsToSplitByTimeout = s.watchdog.sessionsToSplitByTimeout
  sessionIDProvider : t.sessionIDProvider = s.sessionIDProvider
  numDraws : t.numDraws = s.numDraws
  numReads : t.numReads = s.numReads + 1
  events : t.events = s.events
  records : t.records = s.records

/-- What a session leaves that its proxy gives up: it is ended, or waits for its children. -/
inductive Closed (k : SessionRef) (closeGracePeriodInMillis : ℤ) (s : OpenKitInstance) :
    OpenKitInstance → Prop
  | ended
      (h : SessionCalls.EndedFrom (s.reporting k)
        ((SessionCalls.endWith caller false).run (s.reporting k)).2) :
      Closed k closeGracePeriodInMillis s (s.ranOn k (SessionCalls.endWith caller false))
  | enqueued {t : OpenKitInstance} (h : s.Enqueued env k closeGracePeriodInMillis t) :
      Closed k closeGracePeriodInMillis s t

/-! ## New sessions -/

/-- A proxy with a new current session. -/
def madeProxy (s : OpenKitInstance) (p : ProxyRef) : SessionProxy :=
  { s.proxy p with
    sessionCreator := (s.proxy p).sessionCreator.advance
    children := (s.proxy p).children ++ [s.sessions.size]
    currentSession := some s.sessions.size
    topLevelActionCount := 0
    lastInteractionTime := env.clock s.numReads }

/-- The session that a proxy makes, which is not configured yet. -/
def madeSession (s : OpenKitInstance) (p : ProxyRef) : SessionObject :=
  (s.proxy p).sessionCreator.createSession p (env.clock s.numReads)
    (env.immutableBasicBeaconData s.sessions.size)

/-- **What the creation of a session leaves.** -/
structure Made (p : ProxyRef) (s t : OpenKitInstance) : Prop where
  proxies_size : t.proxies.size = s.proxies.size
  proxy : (s.madeProxy env p).SameButConfiguration (t.proxy p)
  proxy_of_ne : ∀ q, q ≠ p → t.proxy q = s.proxy q
  sessions_size : t.sessions.size = s.sessions.size + 1
  session_of_ne : ∀ j, j ≠ s.sessions.size → t.session j = s.session j
  session : ∃ c, t.session s.sessions.size =
      (s.madeSession env p).setSession ((s.madeSession env p).session.configure fun _ => c) ∧
    c.privacyConfiguration = (s.proxy p).sessionCreator.privacyConfiguration
  sessionsToClose : t.watchdog.sessionsToClose = s.watchdog.sessionsToClose
  sessionsToSplitByTimeout :
    t.watchdog.sessionsToSplitByTimeout = s.watchdog.sessionsToSplitByTimeout ∨
      t.watchdog.sessionsToSplitByTimeout = s.watchdog.sessionsToSplitByTimeout ++ [p] ∧
        (s.proxy p).serverConfiguration = none ∧ (t.proxy p).serverConfiguration ≠ none ∧
        (s.proxy p).isFinished = false
  sessionIDProvider : t.sessionIDProvider = s.sessionIDProvider
  numDraws : t.numDraws = s.numDraws
  numReads : t.numReads = s.numReads + 1
  events : t.events = s.events ++ [.created p s.sessions.size]
  records : t.records = s.records

/-! ## Re-tagging -/

/-- What is reported to the current session of a proxy about its last user. -/
inductive ReTagged (p : ProxyRef) (s : OpenKitInstance) : OpenKitInstance → Prop
  | untagged (h : (s.proxy p).lastUserTag.isEmpty = true) : ReTagged p s s
  | tagged {k : SessionRef} (h : (s.proxy p).lastUserTag.isEmpty = false)
      (hcurrent : (s.proxy p).currentSession = some k) :
      ReTagged p s ((s.remember (.reTagged p k (s.proxy p).lastUserTag)).ranOn k
        (SessionCalls.perform caller (.identifyUser (s.proxy p).lastUserTag)))

/-! ## Splitting -/

/-- A proxy whose creator starts over. -/
def startedOver (s : OpenKitInstance) (p : ProxyRef) : OpenKitInstance :=
  ({ s with
    sessionIDProvider := s.sessionIDProvider.getNextSessionID.2
    numDraws := s.numDraws + 1 }.updateProxy p fun proxy =>
      { proxy with
        sessionCreator := proxy.sessionCreator.reset s.sessionIDProvider.getNextSessionID.1
          (env.random s.numDraws) }).remember (.reset p)

/-- What a split does before it makes the new session: its creator starts over, or not. -/
def prepared (s : OpenKitInstance) (p : ProxyRef) : Bool → OpenKitInstance
  | true => s.startedOver env p
  | false => s

/-- The grace period of the sessions of a proxy. -/
def gracePeriod (config : ServerConfiguration) : ℤ :=
  if config.sessionTimeoutInMilliseconds > 0 then config.sessionTimeoutInMilliseconds / 2
  else config.sendIntervalInMilliseconds

/-- **A split**: the current session is given up for a new one, which may start over. -/
inductive Split (p : ProxyRef) (anew : Bool) (s : OpenKitInstance) : OpenKitInstance → Prop
  | intro {c : ServerConfigurationRef} {k : SessionRef} {s₁ s₂ t : OpenKitInstance}
      (hconfig : (s.proxy p).serverConfiguration = some c)
      (hcurrent : (s.proxy p).currentSession = some k)
      (hclosed : s.Closed env caller k (gracePeriod c.get) s₁)
      (hmade : (s₁.prepared env p anew).Made env p s₂)
      (htagged : s₂.ReTagged caller p t) : Split p anew s t

/-! ## What a proxy asks itself -/

/-- The current session of a proxy has as many events as it may have. -/
def splitsByEvents (s : OpenKitInstance) (p : ProxyRef) : Bool :=
  match (s.proxy p).serverConfiguration with
  | none => false
  | some c => c.get.isSessionSplitByEventsEnabled &&
      decide (c.get.maxEventsPerSession ≤ (s.proxy p).topLevelActionCount)

/-- When a session is split next, by its last interaction and its start; never, if no limit is
enabled. -/
def splitTime (config : ServerConfiguration) (lastInteractionTime sessionStartTime : ℤ) : ℤ :=
  if config.isSessionSplitByIdleTimeoutEnabled then
    if config.isSessionSplitBySessionDurationEnabled then
      min (lastInteractionTime + config.sessionTimeoutInMilliseconds)
        (sessionStartTime + config.maxSessionDurationInMilliseconds)
    else lastInteractionTime + config.sessionTimeoutInMilliseconds
  else if config.isSessionSplitBySessionDurationEnabled then
    sessionStartTime + config.maxSessionDurationInMilliseconds
  else -1

/-- When a proxy splits its session next. -/
def nextSplitTime (s : OpenKitInstance) (p : ProxyRef) (k : SessionRef) : ℤ :=
  match (s.proxy p).serverConfiguration with
  | none => -1
  | some c =>
    splitTime c.get (s.proxy p).lastInteractionTime (s.session k).session.beacon.sessionStartTime

/-! ## The end of a proxy -/

/-- The sessions of a proxy are ended one after the other. -/
def endedAll (p : ProxyRef) : List SessionRef → OpenKitInstance → OpenKitInstance
  | [], s => s
  | k :: ks, s =>
    endedAll p ks (s.ranOn k (SessionCalls.endWith caller (some k == (s.proxy p).currentSession)))

/-- A proxy that is finished, before its sessions are ended. -/
def markedFinished (s : OpenKitInstance) (p : ProxyRef) : OpenKitInstance :=
  s.updateProxy p fun proxy => { proxy with isFinished := true }

/-- A proxy without a current session. -/
def withoutSession (s : OpenKitInstance) (p : ProxyRef) : OpenKitInstance :=
  s.updateProxy p fun proxy => { proxy with currentSession := none }

/-- A proxy that was ended. -/
def finished (s : OpenKitInstance) (p : ProxyRef) : OpenKitInstance :=
  ((endedAll caller p (s.proxy p).children (s.markedFinished p)).removeFromSplitByTimeout
    p).withoutSession p

/-! ## Calls that are forwarded -/

/-- A proxy with an interaction. -/
def interacted (s : OpenKitInstance) (p : ProxyRef) : OpenKitInstance :=
  { s with numReads := s.numReads + 1 }.updateProxy p fun proxy =>
    { proxy with lastInteractionTime := env.clock s.numReads }

/-- A proxy with one more event. -/
def counted (s : OpenKitInstance) (p : ProxyRef) : OpenKitInstance :=
  s.updateProxy p fun proxy => { proxy with topLevelActionCount := proxy.topLevelActionCount + 1 }

/-- A session with a call that is forwarded to it. -/
def forwardedTo (s : OpenKitInstance) (p : ProxyRef) (k : SessionRef) (call : SessionCall) :
    OpenKitInstance :=
  (s.remember (.forwarded p k call)).ranOn k (SessionCalls.perform caller call)

end OpenKitInstance

namespace SessionProxies

open OpenKitInstance

variable {env : InstanceEnvironment} {caller : Caller} {s : OpenKitInstance} {p : ProxyRef}
  {k : SessionRef}

/-! ## The runs of the parts -/

/-- A session that is marked, and then put into the queue. -/
theorem enqueued_enqueue (hchildren : (s.session k).session.children ≠ [])
    (closeGracePeriodInMillis : ℤ) :
    s.Enqueued env k closeGracePeriodInMillis
      ({ s.reported k (SessionCalls.marked (s.reporting k)) with numReads := s.numReads + 1 }.enqueue k
        (env.clock s.numReads + closeGracePeriodInMillis)) := by
  let closeTime : ℤ := env.clock s.numReads + closeGracePeriodInMillis
  let f (o : SessionObject) : SessionObject :=
    { o with splitByEventsGracePeriodEndTimeInMillis := closeTime }
  refine ⟨hchildren, rfl, rfl, fun j hj => ?_, ?_, rfl, rfl, rfl, rfl, rfl, rfl, List.append_nil _⟩
  · show ((s.reported k (SessionCalls.marked (s.reporting k))).updateSession k f).session j = _
    rw [session_updateSession_of_ne hj, session_reported_of_ne hj]
  · show ((s.reported k (SessionCalls.marked (s.reporting k))).updateSession k f).session k = _
    rw [session_updateSession_self, session_reported_self]
    rfl

theorem run_onSession {α : Type} {body : Reporter α} {a : α} {r : Reporting}
    (h : body.run (s.reporting k) = (.ok a, r)) :
    (onSession k body).run s = (.ok a, s.afterReport k r) := by
  have hread : body.run ⟨(s.session k).session, s.numReads, []⟩ = (.ok a, r) := h
  rw [onSession, Program.run_bind_ok (Program.run_atomic _ s), hread]
  rfl

/-- A program that may raise an exception leaves the same. -/
theorem run_onSession_snd {α : Type} (body : Reporter α) :
    ((onSession k body).run s).2 = s.ranOn k body := by
  rw [onSession, Program.run_bind_ok (Program.run_atomic _ s)]
  dsimp only
  split
  · rfl
  · rfl

theorem run_currentSession (hcurrent : (s.proxy p).currentSession = some k) :
    (currentSession p).run s = (.ok k, s) := by
  rw [currentSession, Program.run_bind_ok (Program.run_read _ s), hcurrent]
  rfl

theorem run_serverConfiguration {c : ServerConfigurationRef}
    (hconfig : (s.proxy p).serverConfiguration = some c) :
    (serverConfiguration p).run s = (.ok c.get, s) := by
  rw [serverConfiguration, Program.run_bind_ok (Program.run_read _ s), hconfig]
  rfl

theorem run_serverConfiguration_of_none (hconfig : (s.proxy p).serverConfiguration = none) :
    (serverConfiguration p).run s = (.error .nullServerConfiguration, s) := by
  rw [serverConfiguration, Program.run_bind_ok (Program.run_read _ s), hconfig]
  rfl

theorem run_isSessionSplitByEventsRequired :
    (isSessionSplitByEventsRequired p).run s = (.ok (s.splitsByEvents p), s) := by
  rw [isSessionSplitByEventsRequired, Program.run_bind_ok (Program.run_read _ s), splitsByEvents]
  rcases hconfig : (s.proxy p).serverConfiguration with _ | c
  · rfl
  · dsimp only
    rw [Program.run_bind_ok (run_serverConfiguration hconfig)]
    cases henabled : c.get.isSessionSplitByEventsEnabled with
    | false => rfl
    | true => rfl

variable (env caller) in
/-- **Giving up** a settled session. -/
theorem run_closeOrEnqueueForClosing (hsettled : (s.session k).session.Settled)
    (closeGracePeriodInMillis : ℤ) :
    ∃ t, (closeOrEnqueueForClosing env caller k closeGracePeriodInMillis).run s = (.ok (), t) ∧
      s.Closed env caller k closeGracePeriodInMillis t := by
  have hsettled' : (s.reporting k).session.Settled := hsettled
  rcases SessionCalls.run_tryEnd caller hsettled' with ⟨hchildren, hmarked⟩ | ⟨r, hend, htry, hended⟩
  · -- the session has children, and waits for them
    have hkept : (SessionCalls.marked (s.reporting k)).session.isSessionFinished =
        (s.session k).session.isSessionFinished := rfl
    have hrun : (onSession k (SessionCalls.tryEnd caller)).run s =
        (.ok false, s.reported k (SessionCalls.marked (s.reporting k))) := by
      rw [run_onSession hmarked, afterReport_of_kept hkept]
    rw [closeOrEnqueueForClosing, Program.run_bind_ok hrun, if_neg Bool.false_ne_true]
    refine ⟨_, rfl, .enqueued (enqueued_enqueue hchildren closeGracePeriodInMillis)⟩
  · rw [closeOrEnqueueForClosing, Program.run_bind_ok (run_onSession htry), if_pos rfl]
    have hresult : ((SessionCalls.endWith caller false).run (s.reporting k)).2 = r := by rw [hend]
    refine ⟨_, rfl, ?_⟩
    rw [← hresult]
    exact .ended (hresult ▸ hended)

/-- A proxy that has made a session, and has not given it a configuration yet. The session is not the
current one yet either. -/
structure Allocated (env : InstanceEnvironment) (p : ProxyRef) (s t : OpenKitInstance) : Prop where
  proxies_size : t.proxies.size = s.proxies.size
  proxy : t.proxy p = { s.madeProxy env p with currentSession := (s.proxy p).currentSession }
  proxy_of_ne : ∀ q, q ≠ p → t.proxy q = s.proxy q
  sessions_size : t.sessions.size = s.sessions.size + 1
  session_of_ne : ∀ j, j ≠ s.sessions.size → t.session j = s.session j
  session : t.session s.sessions.size = s.madeSession env p
  watchdog : t.watchdog = s.watchdog
  sessionIDProvider : t.sessionIDProvider = s.sessionIDProvider
  numDraws : t.numDraws = s.numDraws
  numReads : t.numReads = s.numReads + 1
  events : t.events = s.events ++ [.created p s.sessions.size]
  records : t.records = s.records

/-- The session is given its configuration, and becomes the current one. -/
theorem Allocated.made {t u : OpenKitInstance} (h : Allocated env p s t)
    (hconfigure : t.ConfigureRun s.sessions.size u) :
    s.Made env p { u.updateProxy p fun proxy =>
      { proxy with currentSession := some s.sessions.size } with
        context := u.context.addSession (u.session s.sessions.size).beaconKey } := by
  have hparent : (t.session s.sessions.size).parent = p := by
    rw [h.session]
    rfl
  let v := u.updateProxy p fun proxy => { proxy with currentSession := some s.sessions.size }
  have hself : v.proxy p = { u.proxy p with currentSession := some s.sessions.size } :=
    proxy_updateProxy_self
  obtain ⟨⟨c, hc⟩, hsame⟩ := hconfigure.proxy p
  rw [h.proxy] at hc hsame
  have hmade : v.proxy p = { s.madeProxy env p with serverConfiguration := c } := by
    rw [hself, hc]
    rfl
  refine ⟨hconfigure.proxies_size.trans h.proxies_size, ⟨⟨c, hmade⟩, fun c' hc' => ?_⟩,
    fun q hq => ?_, hconfigure.sessions_size.trans h.sessions_size, fun j hj => ?_, ?_,
    hconfigure.sessionsToClose.trans (congrArg _ h.watchdog), ?_,
    hconfigure.sessionIDProvider.trans h.sessionIDProvider, hconfigure.numDraws.trans h.numDraws,
    hconfigure.numReads.trans h.numReads, hconfigure.events.trans h.events,
    hconfigure.records.trans h.records⟩
  · show ∃ c'', (v.proxy p).serverConfiguration = some c'' ∧ _
    rw [hself]
    exact hsame c' hc'
  · show v.proxy q = s.proxy q
    rw [proxy_updateProxy_of_ne hq, hconfigure.proxy_of_ne q (hparent.symm ▸ hq), h.proxy_of_ne q hq]
  · show u.session j = s.session j
    rw [hconfigure.session_of_ne j hj, h.session_of_ne j hj]
  · obtain ⟨config, hsession, hprivacy⟩ := hconfigure.session
    rw [h.session] at hsession hprivacy
    exact ⟨config, hsession, hprivacy⟩
  · rw [← hparent]
    rcases hconfigure.sessionsToSplitByTimeout with hsplits | ⟨hsplits, hnone, hsome, hunfinished⟩
    · exact .inl (hsplits.trans (congrArg _ h.watchdog))
    · rw [hparent, h.proxy] at hnone hunfinished
      refine .inr ⟨hsplits.trans ?_, ?_, ?_, ?_⟩
      · rw [h.watchdog]
      · rw [hparent]
        exact hnone
      · rw [hparent] at hsome ⊢
        show (v.proxy p).serverConfiguration ≠ none
        rwa [hself]
      · rw [hparent]
        exact hunfinished

/-- Making a session, before it is configured. -/
theorem allocated_of_newSession (s : OpenKitInstance) :
    Allocated env p s
      (({ { s with numReads := s.numReads + 1 }.updateProxy p fun proxy =>
          { proxy with
            sessionCreator := (s.proxy p).sessionCreator.advance
            children := proxy.children ++ [s.sessions.size] } with
        sessions := s.sessions.alloc (s.madeSession env p) }.remember
        (.created p s.sessions.size)).updateProxy p fun proxy =>
          { proxy with
            lastInteractionTime := ((s.sessions.alloc (s.madeSession env p)).get
              s.sessions.size).session.beacon.sessionStartTime
            topLevelActionCount := 0 }) := by
  let f (proxy : SessionProxy) : SessionProxy :=
    { proxy with
      sessionCreator := (s.proxy p).sessionCreator.advance
      children := proxy.children ++ [s.sessions.size] }
  let g (proxy : SessionProxy) : SessionProxy :=
    { proxy with
      lastInteractionTime := ((s.sessions.alloc (s.madeSession env p)).get
        s.sessions.size).session.beacon.sessionStartTime
      topLevelActionCount := 0 }
  refine ⟨rfl, ?_, fun q hq => ?_, rfl, fun j hj => ?_, Heap.get_alloc_size, rfl, rfl, rfl, rfl, rfl,
    rfl⟩
  · show ((s.updateProxy p f).updateProxy p g).proxy p = _
    rw [proxy_updateProxy_self, proxy_updateProxy_self]
    dsimp only [f, g]
    rw [Heap.get_alloc_size]
    rfl
  · show ((s.updateProxy p f).updateProxy p g).proxy q = s.proxy q
    rw [proxy_updateProxy_of_ne hq, proxy_updateProxy_of_ne hq]
  · exact Function.update_of_ne hj _ _

variable (env p) in
/-- **A new session** is made without a fault. -/
theorem run_createAndAssignCurrentSession (s : OpenKitInstance)
    (initialServerConfig updatedServerConfig : Option ServerConfigurationRef) :
    ∃ t, (createAndAssignCurrentSession env p initialServerConfig updatedServerConfig).run s =
      (.ok (), t) ∧ s.Made env p t := by
  refine ⟨_, rfl, (allocated_of_newSession s).made ?_⟩
  have hinitial (t : OpenKitInstance) : t.ConfigureRun s.sessions.size
      (t.configure s.sessions.size (·.initializeServerConfiguration initialServerConfig)) :=
    configureRun_configure fun c => (c.evolves_initializeServerConfiguration _).privacyConfiguration
  have hupdated (t : OpenKitInstance) : t.ConfigureRun s.sessions.size
      (t.configure s.sessions.size (·.updateServerConfiguration updatedServerConfig)) :=
    configureRun_configure fun c => (c.evolves_updateServerConfiguration _).privacyConfiguration
  exact (hinitial _).trans (hupdated _)

variable (caller) in
theorem run_reTagCurrentSession (hcurrent : (s.proxy p).currentSession = some k) :
    ∃ t, (reTagCurrentSession p caller).run s = (.ok (), t) ∧ s.ReTagged caller p t := by
  rw [reTagCurrentSession, Program.run_bind_ok (Program.run_read _ s)]
  cases htag : (s.proxy p).lastUserTag.isEmpty with
  | true => exact ⟨s, rfl, .untagged htag⟩
  | false =>
    rw [if_neg Bool.false_ne_true, Program.run_bind_ok (run_currentSession hcurrent),
      Program.run_bind_ok (Program.run_write _ s)]
    obtain ⟨_, r, hrun⟩ := (SessionCalls.returns_perform_identifyUser caller
      (s.proxy p).lastUserTag).run ((s.remember (.reTagged p k (s.proxy p).lastUserTag)).reporting k)
    refine ⟨_, run_onSession hrun, ?_⟩
    have hresult : s.ReTagged caller p _ := .tagged htag hcurrent
    rwa [ranOn, hrun] at hresult

end SessionProxies

namespace OpenKitInstance

/-! ## What the parts leave of a proxy -/

variable {env : InstanceEnvironment} {caller : Caller} {s t : OpenKitInstance} {p : ProxyRef}
  {k : SessionRef} {closeGracePeriodInMillis : ℤ}

/-- Ending a session is a run on it. -/
theorem sessionRun_endWith {sendSessionEndEvent : Bool} :
    SessionRun k s (s.ranOn k (SessionCalls.endWith caller sendSessionEndEvent)) := by
  have hguarantees : Program.Guarantees (CallStepOf fun _ => True)
      (SessionCalls.endWith caller sendSessionEndEvent) :=
    SessionCalls.guarantees_endWith trivial trivial fun _ => trivial
  exact sessionRun_afterReport (hguarantees.run CallStepOf.refl (fun _ _ _ => CallStepOf.trans) rfl)

/-- So is every call on it. -/
theorem sessionRun_perform (call : SessionCall) :
    SessionRun k s (s.ranOn k (SessionCalls.perform caller call)) := by
  have hguarantees : Program.Guarantees (CallStepOf fun _ => True)
      (SessionCalls.perform caller call) := SessionCalls.guarantees_perform (fun _ _ => trivial) call
  exact sessionRun_afterReport (hguarantees.run CallStepOf.refl (fun _ _ _ => CallStepOf.trans) rfl)

theorem Closed.proxy (h : s.Closed env caller k closeGracePeriodInMillis t) (q : ProxyRef) :
    (s.proxy q).SameButChildren (t.proxy q) := by
  cases h with
  | ended _ => exact sessionRun_endWith.proxy q
  | enqueued h =>
    refine ⟨(s.proxy q).children, ?_⟩
    rw [OpenKitInstance.proxy, h.proxies]
    rfl

theorem Closed.numReads (h : s.Closed env caller k closeGracePeriodInMillis t) :
    s.numReads ≤ t.numReads := by
  cases h with
  | ended _ => exact sessionRun_endWith.numReads
  | enqueued h =>
    rw [h.numReads]
    exact Nat.le_succ _

theorem Made.currentSession (h : s.Made env p t) :
    (t.proxy p).currentSession = some s.sessions.size := by
  obtain ⟨c, hc⟩ := h.proxy.eq
  rw [hc]
  rfl

theorem ReTagged.currentSession (h : s.ReTagged caller p t) :
    (t.proxy p).currentSession = (s.proxy p).currentSession := by
  cases h with
  | untagged _ => rfl
  | tagged _ _ => rw [(sessionRun_perform _).currentSession, proxy_remember]

theorem Split.exists_currentSession {anew : Bool} (h : s.Split env caller p anew t) :
    ∃ k, (t.proxy p).currentSession = some k := by
  obtain ⟨-, -, -, hmade, htagged⟩ := h
  exact ⟨_, htagged.currentSession.trans hmade.currentSession⟩

end OpenKitInstance

namespace SessionProxies

open OpenKitInstance

variable {env : InstanceEnvironment} {caller : Caller} {s : OpenKitInstance} {p : ProxyRef}
  {k : SessionRef}

/-! ## The runs of splits -/

variable (env caller) in
theorem run_closeOrEnqueueCurrentSessionForClosing {c : ServerConfigurationRef}
    (hconfig : (s.proxy p).serverConfiguration = some c)
    (hcurrent : (s.proxy p).currentSession = some k) (hsettled : (s.session k).session.Settled) :
    ∃ t, (closeOrEnqueueCurrentSessionForClosing env p caller).run s = (.ok (), t) ∧
      s.Closed env caller k (gracePeriod c.get) t := by
  rw [closeOrEnqueueCurrentSessionForClosing, Program.run_bind_ok (run_serverConfiguration hconfig),
    Program.run_bind_ok (run_currentSession hcurrent)]
  exact run_closeOrEnqueueForClosing env caller hsettled _

variable (env caller) in
/-- **A split** that starts over. -/
theorem run_splitAndCreateNewInitialSession {c : ServerConfigurationRef}
    (hconfig : (s.proxy p).serverConfiguration = some c)
    (hcurrent : (s.proxy p).currentSession = some k) (hsettled : (s.session k).session.Settled) :
    ∃ t, (splitAndCreateNewInitialSession env p caller).run s = (.ok (), t) ∧
      s.Split env caller p true t := by
  obtain ⟨s₁, hrun₁, hclosed⟩ := run_closeOrEnqueueCurrentSessionForClosing env caller
    hconfig hcurrent hsettled
  rw [splitAndCreateNewInitialSession, Program.run_bind_ok hrun₁, drawNumbers,
    Program.run_bind_ok (Program.run_atomic _ s₁), Program.run_bind_ok (Program.run_write _ _),
    Program.run_bind_ok (Program.run_read _ _)]
  obtain ⟨s₂, hrun₂, hmade⟩ := run_createAndAssignCurrentSession env p (s₁.startedOver env p)
    ((s₁.startedOver env p).proxy p).serverConfiguration none
  obtain ⟨t, hrun, htagged⟩ := run_reTagCurrentSession caller hmade.currentSession
  refine ⟨t, ?_, .intro hconfig hcurrent hclosed hmade htagged⟩
  rw [← hrun]
  exact Program.run_bind_ok hrun₂

variable (env caller) in
/-- The parts of a split after a number of events: the new session has the configuration of the proxy. -/
theorem run_getOrSplitCurrentSessionByEvents_parts (hsplit : s.splitsByEvents p = true)
    (hcurrent : (s.proxy p).currentSession = some k) (hsettled : (s.session k).session.Settled) :
    ∃ c s₁ s₂ t, (s.proxy p).serverConfiguration = some c ∧
      s.Closed env caller k (gracePeriod c.get) s₁ ∧
      (createAndAssignCurrentSession env p none (some c)).run s₁ = (.ok (), s₂) ∧ s₁.Made env p s₂ ∧
      s₂.ReTagged caller p t ∧
      (getOrSplitCurrentSessionByEvents env p caller).run s = (.ok s₁.sessions.size, t) := by
  obtain ⟨c, hconfig⟩ : ∃ c, (s.proxy p).serverConfiguration = some c := by
    rw [splitsByEvents] at hsplit
    split at hsplit
    · cases hsplit
    next c hconfig => exact ⟨c, hconfig⟩
  obtain ⟨s₁, hrun₁, hclosed⟩ := run_closeOrEnqueueCurrentSessionForClosing env caller
    hconfig hcurrent hsettled
  have hconfig₁ : (s₁.proxy p).serverConfiguration = some c := by
    obtain ⟨children, hproxy⟩ := hclosed.proxy p
    rw [hproxy]
    exact hconfig
  obtain ⟨s₂, hrun₂, hmade⟩ := run_createAndAssignCurrentSession env p s₁ none (some c)
  obtain ⟨t, hrun, htagged⟩ := run_reTagCurrentSession caller hmade.currentSession
  refine ⟨c, s₁, s₂, t, hconfig, hclosed, hrun₂, hmade, htagged, ?_⟩
  have hcurrentT : (t.proxy p).currentSession = some s₁.sessions.size :=
    htagged.currentSession.trans hmade.currentSession
  rw [getOrSplitCurrentSessionByEvents, Program.run_bind_ok run_isSessionSplitByEventsRequired,
    hsplit, if_pos rfl, Program.run_bind_ok hrun₁, Program.run_bind_ok (Program.run_read _ s₁), hconfig₁,
    createSplitSessionAndMakeCurrent]
  rw [← run_currentSession hcurrentT, bind_assoc, Program.run_bind_ok hrun₂, Program.run_bind_ok hrun]

variable (env caller) in
/-- **A split** after a number of events, if there are as many. -/
theorem run_getOrSplitCurrentSessionByEvents_of_split (hsplit : s.splitsByEvents p = true)
    (hcurrent : (s.proxy p).currentSession = some k) (hsettled : (s.session k).session.Settled) :
    ∃ k' t, (getOrSplitCurrentSessionByEvents env p caller).run s = (.ok k', t) ∧
      s.Split env caller p false t ∧ (t.proxy p).currentSession = some k' := by
  obtain ⟨c, s₁, s₂, t, hconfig, hclosed, -, hmade, htagged, hrun⟩ :=
    run_getOrSplitCurrentSessionByEvents_parts env caller hsplit hcurrent hsettled
  exact ⟨s₁.sessions.size, t, hrun, .intro hconfig hcurrent hclosed hmade htagged,
    htagged.currentSession.trans hmade.currentSession⟩

theorem run_getOrSplitCurrentSessionByEvents_of_not_split (hsplit : s.splitsByEvents p = false)
    (hcurrent : (s.proxy p).currentSession = some k) :
    (getOrSplitCurrentSessionByEvents env p caller).run s = (.ok k, s) := by
  rw [getOrSplitCurrentSessionByEvents, Program.run_bind_ok run_isSessionSplitByEventsRequired,
    hsplit, if_neg Bool.false_ne_true, run_currentSession hcurrent]

/-! ## Splitting by time -/

theorem run_calculateNextSplitTime (hcurrent : (s.proxy p).currentSession = some k) :
    (calculateNextSplitTime p).run s = (.ok (s.nextSplitTime p k), s) := by
  rw [calculateNextSplitTime, Program.run_bind_ok (Program.run_read _ s), nextSplitTime]
  rcases hconfig : (s.proxy p).serverConfiguration with _ | c
  · rfl
  · dsimp only
    rw [Program.run_bind_ok (run_serverConfiguration hconfig),
      Program.run_bind_ok (Program.run_read _ s), Program.run_bind_ok (run_currentSession hcurrent),
      Program.run_bind_ok (Program.run_read _ s), splitTime]
    split
    · split
      · rfl
      · rfl
    · split
      · rfl
      · rfl

/-- A proxy that is finished is not split. -/
theorem run_splitSessionByTime_of_finished (hfinished : (s.proxy p).isFinished = true) :
    (splitSessionByTime env p caller).run s = (.ok (-1), s) := by
  rw [splitSessionByTime, Program.run_bind_ok (Program.run_read _ s), hfinished]
  rfl

/-- Nor is one whose time has not come. -/
theorem run_splitSessionByTime_of_not_split (hunfinished : (s.proxy p).isFinished = false)
    (hcurrent : (s.proxy p).currentSession = some k)
    (hearly : s.nextSplitTime p k < 0 ∨ env.clock s.numReads < s.nextSplitTime p k) :
    (splitSessionByTime env p caller).run s =
      (.ok (s.nextSplitTime p k), { s with numReads := s.numReads + 1 }) := by
  rw [splitSessionByTime, Program.run_bind_ok (Program.run_read _ s), hunfinished,
    if_neg Bool.false_ne_true, Program.run_bind_ok (run_calculateNextSplitTime hcurrent),
    provideTimestampInMilliseconds, Program.run_bind_ok (Program.run_atomic _ s), if_pos hearly]
  rfl

variable (env caller) in
/-- **Splitting by time**: the session is given up for one that starts over. -/
theorem run_splitSessionByTime_of_split (hunfinished : (s.proxy p).isFinished = false)
    (hcurrent : (s.proxy p).currentSession = some k) (hsettled : (s.session k).session.Settled)
    (hlate : 0 ≤ s.nextSplitTime p k ∧ s.nextSplitTime p k ≤ env.clock s.numReads) :
    ∃ k' t, (splitSessionByTime env p caller).run s = (.ok (t.nextSplitTime p k'), t) ∧
      Split env caller p true { s with numReads := s.numReads + 1 } t ∧
      (t.proxy p).currentSession = some k' := by
  obtain ⟨c, hconfig⟩ : ∃ c, (s.proxy p).serverConfiguration = some c := by
    rw [nextSplitTime] at hlate
    split at hlate
    · exact absurd hlate.1 (by decide)
    next c hconfig => exact ⟨c, hconfig⟩
  obtain ⟨t, hrun, hsplit⟩ := run_splitAndCreateNewInitialSession env caller
    (s := { s with numReads := s.numReads + 1 }) hconfig hcurrent hsettled
  obtain ⟨k', hcurrent'⟩ := hsplit.exists_currentSession
  refine ⟨k', t, ?_, hsplit, hcurrent'⟩
  have hnot : ¬ (s.nextSplitTime p k < 0 ∨ (env.clock s.numReads : ℤ) < s.nextSplitTime p k) := by
    omega
  rw [splitSessionByTime, Program.run_bind_ok (Program.run_read _ s), hunfinished,
    if_neg Bool.false_ne_true, Program.run_bind_ok (run_calculateNextSplitTime hcurrent),
    provideTimestampInMilliseconds, Program.run_bind_ok (Program.run_atomic _ s), if_neg hnot,
    Program.run_bind_ok hrun, run_calculateNextSplitTime hcurrent']

/-! ## The runs of the other parts -/

theorem run_recordTopLevelEventInteraction :
    (recordTopLevelEventInteraction env p).run s = (.ok (), s.interacted env p) := rfl

theorem run_recordTopLevelActionEvent :
    (recordTopLevelActionEvent env p).run s = (.ok (), (s.counted p).interacted env p) := rfl

theorem run_forwardTo_snd (call : SessionCall) :
    ((forwardTo p caller k call).run s).2 = s.forwardedTo caller p k call := by
  rw [forwardTo, Program.run_bind_ok (Program.run_write _ s)]
  exact run_onSession_snd _

/-- Ending a session raises no exception. -/
theorem run_onSession_endWith (sendSessionEndEvent : Bool) :
    (onSession k (SessionCalls.endWith caller sendSessionEndEvent)).run s =
      (.ok (), s.ranOn k (SessionCalls.endWith caller sendSessionEndEvent)) := by
  obtain ⟨_, r, hrun⟩ := (SessionCalls.returns_endWith caller sendSessionEndEvent).run
    (s.reporting k)
  rw [run_onSession hrun, ranOn, hrun]

theorem run_endSessions (ks : List SessionRef) :
    (endSessions p caller ks).run s = (.ok (), s.endedAll caller p ks) := by
  induction ks generalizing s with
  | nil => rfl
  | cons k ks ih =>
    rw [endSessions, Program.run_bind_ok (Program.run_read _ s),
      Program.run_bind_ok (run_onSession_endWith _), endedAll]
    exact ih

/-- **The end** of a proxy in use. -/
theorem run_endProxy (hunfinished : (s.proxy p).isFinished = false) :
    (endProxy p caller).run s = (.ok (), s.finished caller p) := by
  rw [endProxy, whenUnfinished, Program.run_bind_ok (Program.run_read _ s), hunfinished,
    if_neg Bool.false_ne_true, Program.run_bind_ok (Program.run_write _ s),
    Program.run_bind_ok (Program.run_read _ _), Program.run_bind_ok (run_endSessions _),
    Program.run_bind_ok (Program.run_write _ _)]
  show (Except.ok (), _) = _
  rw [finished]
  have hchildren : ((s.markedFinished p).proxy p).children = (s.proxy p).children := by
    rw [markedFinished, proxy_updateProxy_self]
  rw [← hchildren]
  rfl

end SessionProxies

end OpenKit
