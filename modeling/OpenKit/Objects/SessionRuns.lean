import OpenKit.Library.Outcome
import OpenKit.Objects.InstanceCalls
import OpenKit.Objects.SessionEnds

/-!
# What a program on a session leaves of an instance

A program on a session changes the session, reads the clock and hands records to the cache. If it ends
the session, then the proxy forgets the session, and so does the watchdog. Nothing else changes. The
beacon of a session that is configured may tell its proxy, which keeps everything but its server
configuration.

## Main definitions

* `OpenKitInstance.ranOn`: the instance once a program has run on a session
* `OpenKitInstance.SessionRun`: what such a program leaves
* `OpenKitInstance.ConfigureRun`: what a change of the configuration of a session leaves

## Main results

* `sessionRun_afterReport`, `configureRun_configure`: programs and changes do so
-/

namespace OpenKit

open Thread

namespace SessionProxy

/-- Two states of a proxy that differ in the children at most. -/
def SameButChildren (proxy proxy' : SessionProxy) : Prop :=
  ∃ children, proxy' = { proxy with children := children }

/-- Two states of a proxy that differ in the configuration at most. A configuration is not given up, and
what it says for life stays. -/
structure SameButConfiguration (proxy proxy' : SessionProxy) : Prop where
  eq : ∃ c, proxy' = { proxy with serverConfiguration := c }
  sameForLife : ∀ c, proxy.serverConfiguration = some c →
    ∃ c', proxy'.serverConfiguration = some c' ∧ c.get.SameForLife c'.get

namespace SameButConfiguration

variable {proxy proxy' proxy'' : SessionProxy}

theorem refl (proxy : SessionProxy) : proxy.SameButConfiguration proxy :=
  ⟨⟨proxy.serverConfiguration, rfl⟩, fun c hc => ⟨c, hc, .refl _⟩⟩

theorem trans (h : proxy.SameButConfiguration proxy') (h' : proxy'.SameButConfiguration proxy'') :
    proxy.SameButConfiguration proxy'' := by
  constructor
  · obtain ⟨c, hc⟩ := h.eq
    obtain ⟨c', hc'⟩ := h'.eq
    exact ⟨c', by rw [hc', hc]⟩
  · intro c hc
    obtain ⟨c', hc', hsame⟩ := h.sameForLife c hc
    obtain ⟨c'', hc'', hsame'⟩ := h'.sameForLife c' hc'
    exact ⟨c'', hc'', hsame.trans hsame'⟩

end SameButConfiguration

end SessionProxy

namespace OpenKitInstance

variable {s t u : OpenKitInstance} {k : SessionRef} {p : ProxyRef}

/-- What a report starts from. -/
def reporting (s : OpenKitInstance) (k : SessionRef) : Reporting :=
  ⟨(s.session k).session, s.numReads, []⟩

/-- The instance once a program has run on a session. -/
def ranOn {α : Type} (s : OpenKitInstance) (k : SessionRef) (body : Reporter α) : OpenKitInstance :=
  s.afterReport k (body.run (s.reporting k)).2

/-! ## Programs on a session -/

/-- **What a program on a session leaves.** -/
structure SessionRun (k : SessionRef) (s t : OpenKitInstance) : Prop where
  proxies_size : t.proxies.size = s.proxies.size
  proxy : ∀ q, (s.proxy q).SameButChildren (t.proxy q)
  sessions_size : t.sessions.size = s.sessions.size
  session_of_ne : ∀ j, j ≠ k → t.session j = s.session j
  session : ∃ session, t.session k = (s.session k).setSession session ∧
    (s.session k).session.beacon.SameButNumbers session.beacon
  sessionsToSplitByTimeout :
    t.watchdog.sessionsToSplitByTimeout = s.watchdog.sessionsToSplitByTimeout
  sessionIDProvider : t.sessionIDProvider = s.sessionIDProvider
  numDraws : t.numDraws = s.numDraws
  events : t.events = s.events
  context : t.context = s.context
  numReads : s.numReads ≤ t.numReads
  records : ∃ new : List BeaconRecord, t.records = s.records ++ new.map fun record => (k, record)
  /-- A session that is not ended keeps its place. -/
  kept : (t.session k).session.isSessionFinished = (s.session k).session.isSessionFinished →
    (∀ q, t.proxy q = s.proxy q) ∧ t.watchdog.sessionsToClose = s.watchdog.sessionsToClose
  /-- A session that is ended is forgotten. -/
  closed : (t.session k).session.isSessionFinished = true →
    (s.session k).session.isSessionFinished = false →
      (∀ q, (t.proxy q).children =
        if q = (s.session k).parent then (s.proxy q).children.erase k else (s.proxy q).children) ∧
      t.watchdog.sessionsToClose = s.watchdog.sessionsToClose.erase k

/-- The instance with a changed session, before anyone is told. -/
def reported (s : OpenKitInstance) (k : SessionRef) (r : Reporting) : OpenKitInstance :=
  { s.updateSession k (·.setSession r.session) with
    numReads := r.numReads
    records := s.records ++ r.records.map fun record => (k, record) }

theorem session_updateSession_of_ne {f : SessionObject → SessionObject} {j : SessionRef}
    (h : j ≠ k) : (s.updateSession k f).session j = s.session j := Heap.get_modify_of_ne h

theorem proxy_updateProxy_of_ne {f : SessionProxy → SessionProxy} {q : ProxyRef} (h : q ≠ p) :
    (s.updateProxy p f).proxy q = s.proxy q := Heap.get_modify_of_ne h

@[simp] theorem session_updateProxy {f : SessionProxy → SessionProxy} :
    (s.updateProxy p f).session k = s.session k := rfl

@[simp] theorem proxy_updateSession {f : SessionObject → SessionObject} :
    (s.updateSession k f).proxy p = s.proxy p := rfl

/-- A report that does not end the session. -/
theorem afterReport_of_kept {r : Reporting}
    (h : r.session.isSessionFinished = (s.session k).session.isSessionFinished) :
    s.afterReport k r = s.reported k r := by
  rw [afterReport, h, Bool.and_not_self, if_neg Bool.false_ne_true]
  rfl

/-- A report that ends the session. -/
theorem afterReport_of_closed {r : Reporting} (h : r.session.isSessionFinished = true)
    (hopen : (s.session k).session.isSessionFinished = false) :
    s.afterReport k r = (s.reported k r).onChildClosed k := by
  rw [afterReport, h, hopen, Bool.not_false, Bool.and_true, if_pos rfl]
  rfl

/-- A report of which nothing is known ends the session, or not. -/
theorem afterReport_cases (s : OpenKitInstance) (k : SessionRef) (r : Reporting) :
    s.afterReport k r = s.reported k r ∨ s.afterReport k r = (s.reported k r).onChildClosed k := by
  rw [afterReport]
  split
  · exact .inr rfl
  · exact .inl rfl

theorem session_reported_self {r : Reporting} :
    (s.reported k r).session k = (s.session k).setSession r.session :=
  Heap.get_modify_self (h := s.sessions) (f := (·.setSession r.session))

theorem session_reported_of_ne {r : Reporting} {j : SessionRef} (h : j ≠ k) :
    (s.reported k r).session j = s.session j :=
  Heap.get_modify_of_ne (h := s.sessions) (f := (·.setSession r.session)) h

@[simp] theorem session_onChildClosed {j : SessionRef} :
    (s.onChildClosed k).session j = s.session j := rfl

@[simp] theorem session_afterReport_self {r : Reporting} :
    (s.afterReport k r).session k = (s.session k).setSession r.session := by
  rcases afterReport_cases s k r with h | h
  · rw [h, session_reported_self]
  · rw [h, session_onChildClosed, session_reported_self]

theorem session_afterReport_of_ne {r : Reporting} {j : SessionRef} (h : j ≠ k) :
    (s.afterReport k r).session j = s.session j := by
  rcases afterReport_cases s k r with hr | hr
  · rw [hr, session_reported_of_ne h]
  · rw [hr, session_onChildClosed, session_reported_of_ne h]

theorem proxy_onChildClosed_parent : (s.onChildClosed k).proxy (s.session k).parent =
    { s.proxy (s.session k).parent with
      children := (s.proxy (s.session k).parent).children.erase k } :=
  Heap.get_modify_self (h := s.proxies)
    (f := fun proxy => { proxy with children := proxy.children.erase k })

theorem proxy_onChildClosed_of_ne {q : ProxyRef} (h : q ≠ (s.session k).parent) :
    (s.onChildClosed k).proxy q = s.proxy q :=
  Heap.get_modify_of_ne (h := s.proxies)
    (f := fun proxy => { proxy with children := proxy.children.erase k }) h

theorem parent_reported {r : Reporting} :
    ((s.reported k r).session k).parent = (s.session k).parent := by
  rw [session_reported_self]
  rfl

theorem proxy_afterReport (q : ProxyRef) (r : Reporting) :
    (s.proxy q).SameButChildren ((s.afterReport k r).proxy q) := by
  rcases afterReport_cases s k r with h | h
  · rw [h]
    exact ⟨(s.proxy q).children, rfl⟩
  · rw [h]
    by_cases hq : q = ((s.reported k r).session k).parent
    · subst hq
      rw [proxy_onChildClosed_parent]
      exact ⟨_, rfl⟩
    · rw [proxy_onChildClosed_of_ne hq]
      exact ⟨(s.proxy q).children, rfl⟩

/-- **Every report** leaves an instance so. -/
theorem sessionRun_afterReport {types : EventType → Prop} {r : Reporting}
    (h : CallStepOf types (s.reporting k) r) : SessionRun k s (s.afterReport k r) where
  proxies_size := by rcases afterReport_cases s k r with h | h <;> rw [h] <;> rfl
  proxy q := proxy_afterReport q r
  sessions_size := by rcases afterReport_cases s k r with h | h <;> rw [h] <;> rfl
  session_of_ne j hj := session_afterReport_of_ne hj
  session := ⟨r.session, session_afterReport_self, h.beacon⟩
  sessionsToSplitByTimeout := by rcases afterReport_cases s k r with h | h <;> rw [h] <;> rfl
  sessionIDProvider := by rcases afterReport_cases s k r with h | h <;> rw [h] <;> rfl
  numDraws := by rcases afterReport_cases s k r with h | h <;> rw [h] <;> rfl
  events := by rcases afterReport_cases s k r with h | h <;> rw [h] <;> rfl
  context := by rcases afterReport_cases s k r with h | h <;> rw [h] <;> rfl
  numReads := by rcases afterReport_cases s k r with h' | h' <;> rw [h'] <;> exact h.numReads
  records := ⟨r.records, by rcases afterReport_cases s k r with h | h <;> rw [h] <;> rfl⟩
  kept hsame := by
    rw [session_afterReport_self] at hsame
    rw [afterReport_of_kept hsame]
    exact ⟨fun _ => rfl, rfl⟩
  closed hfinished hopen := by
    rw [session_afterReport_self] at hfinished
    rw [afterReport_of_closed hfinished hopen]
    refine ⟨fun q => ?_, rfl⟩
    rw [← parent_reported (r := r)]
    split
    next hq =>
      subst hq
      rw [proxy_onChildClosed_parent]
      rfl
    next hq =>
      rw [proxy_onChildClosed_of_ne hq]
      rfl

namespace SessionRun

theorem isFinished (h : SessionRun k s t) (q : ProxyRef) :
    (t.proxy q).isFinished = (s.proxy q).isFinished := by
  obtain ⟨children, hproxy⟩ := h.proxy q
  rw [hproxy]

theorem currentSession (h : SessionRun k s t) (q : ProxyRef) :
    (t.proxy q).currentSession = (s.proxy q).currentSession := by
  obtain ⟨children, hproxy⟩ := h.proxy q
  rw [hproxy]

theorem serverConfiguration (h : SessionRun k s t) (q : ProxyRef) :
    (t.proxy q).serverConfiguration = (s.proxy q).serverConfiguration := by
  obtain ⟨children, hproxy⟩ := h.proxy q
  rw [hproxy]

theorem topLevelActionCount (h : SessionRun k s t) (q : ProxyRef) :
    (t.proxy q).topLevelActionCount = (s.proxy q).topLevelActionCount := by
  obtain ⟨children, hproxy⟩ := h.proxy q
  rw [hproxy]

theorem lastUserTag (h : SessionRun k s t) (q : ProxyRef) :
    (t.proxy q).lastUserTag = (s.proxy q).lastUserTag := by
  obtain ⟨children, hproxy⟩ := h.proxy q
  rw [hproxy]

theorem lastInteractionTime (h : SessionRun k s t) (q : ProxyRef) :
    (t.proxy q).lastInteractionTime = (s.proxy q).lastInteractionTime := by
  obtain ⟨children, hproxy⟩ := h.proxy q
  rw [hproxy]

theorem sessionCreator (h : SessionRun k s t) (q : ProxyRef) :
    (t.proxy q).sessionCreator = (s.proxy q).sessionCreator := by
  obtain ⟨children, hproxy⟩ := h.proxy q
  rw [hproxy]

/-- All sessions keep what their beacons were created with. -/
theorem sameSession (h : SessionRun k s t) (j : SessionRef) : ∃ session,
    t.session j = (s.session j).setSession session ∧
      (s.session j).session.beacon.SameButNumbers session.beacon := by
  by_cases hj : j = k
  · subst hj
    exact h.session
  · exact ⟨(s.session j).session, h.session_of_ne j hj, .refl _⟩

theorem parent (h : SessionRun k s t) (j : SessionRef) :
    (t.session j).parent = (s.session j).parent := by
  obtain ⟨session, hsession, -⟩ := h.sameSession j
  rw [hsession]
  rfl

end SessionRun

/-! ## Changes of the configuration -/

/-- **What a change of the configuration of a session leaves.** -/
structure ConfigureRun (k : SessionRef) (s t : OpenKitInstance) : Prop where
  proxies_size : t.proxies.size = s.proxies.size
  proxy : ∀ q, (s.proxy q).SameButConfiguration (t.proxy q)
  proxy_of_ne : ∀ q, q ≠ (s.session k).parent → t.proxy q = s.proxy q
  sessions_size : t.sessions.size = s.sessions.size
  session_of_ne : ∀ j, j ≠ k → t.session j = s.session j
  session : ∃ c, t.session k = (s.session k).setSession ((s.session k).session.configure fun _ => c) ∧
    c.privacyConfiguration = (s.session k).beaconConfiguration.privacyConfiguration
  sessionsToClose : t.watchdog.sessionsToClose = s.watchdog.sessionsToClose
  /-- A proxy that has just got a configuration may be split by timeout from now on. -/
  sessionsToSplitByTimeout :
    t.watchdog.sessionsToSplitByTimeout = s.watchdog.sessionsToSplitByTimeout ∨
      t.watchdog.sessionsToSplitByTimeout =
          s.watchdog.sessionsToSplitByTimeout ++ [(s.session k).parent] ∧
        (s.proxy (s.session k).parent).serverConfiguration = none ∧
        (t.proxy (s.session k).parent).serverConfiguration ≠ none ∧
        (s.proxy (s.session k).parent).isFinished = false
  sessionIDProvider : t.sessionIDProvider = s.sessionIDProvider
  numDraws : t.numDraws = s.numDraws
  numReads : t.numReads = s.numReads
  events : t.events = s.events
  records : t.records = s.records

/-- The instance with other proxies to be split by timeout. -/
def withSplits (s : OpenKitInstance) (splits : List ProxyRef) : OpenKitInstance :=
  { s with watchdog := { s.watchdog with sessionsToSplitByTimeout := splits } }

/-- The instance with another configuration of a proxy. -/
def withConfiguration (s : OpenKitInstance) (p : ProxyRef) (c : ServerConfigurationRef) :
    OpenKitInstance :=
  s.updateProxy p fun proxy => { proxy with serverConfiguration := some c }

theorem proxy_withConfiguration_self {c : ServerConfigurationRef} :
    (s.withConfiguration p c).proxy p = { s.proxy p with serverConfiguration := some c } :=
  proxy_updateProxy_self

theorem proxy_withConfiguration_of_ne {c : ServerConfigurationRef} {q : ProxyRef} (h : q ≠ p) :
    (s.withConfiguration p c).proxy q = s.proxy q := proxy_updateProxy_of_ne h

/-- What the callback leaves: everything but the configuration of one proxy, and the proxies that are
split by timeout. -/
theorem onServerConfigurationUpdate_eq (s : OpenKitInstance) (p : ProxyRef)
    (serverConfig : ServerConfigurationRef) :
    ∃ (c : ServerConfigurationRef) (splits : List ProxyRef),
      s.onServerConfigurationUpdate p serverConfig = (s.withConfiguration p c).withSplits splits ∧
      (∀ c' : ServerConfigurationRef, (s.proxy p).serverConfiguration = some c' →
        c'.get.SameForLife c.get) ∧
      (splits = s.watchdog.sessionsToSplitByTimeout ∨
        splits = s.watchdog.sessionsToSplitByTimeout ++ [p] ∧
          (s.proxy p).serverConfiguration = none ∧ (s.proxy p).isFinished = false) := by
  rcases hconfig : (s.proxy p).serverConfiguration with _ | c
  · rw [onServerConfigurationUpdate, hconfig]
    dsimp only
    have hsame : ∀ c' : ServerConfigurationRef, none = some c' →
        c'.get.SameForLife serverConfig.get := by
      intro c' hc'
      cases hc'
    split
    · exact ⟨serverConfig, _, rfl, hsame, .inl rfl⟩
    next hunfinished =>
      rw [proxy_updateProxy_self, Bool.not_eq_true] at hunfinished
      split
      · rw [addToSplitByTimeout, proxy_updateProxy_self, hunfinished, if_neg Bool.false_ne_true]
        exact ⟨serverConfig, _, rfl, hsame, .inr ⟨rfl, rfl, rfl⟩⟩
      · exact ⟨serverConfig, _, rfl, hsame, .inl rfl⟩
  · rw [onServerConfigurationUpdate_of_some hconfig]
    refine ⟨_, _, rfl, fun c' hc' => ?_, .inl rfl⟩
    obtain rfl := Option.some.inj hc'
    exact c.get.sameForLife_merge serverConfig.get

/-- The callback of a session leaves everything but the configuration of its parent. -/
theorem configureRun_onServerConfigurationUpdate (serverConfig : ServerConfigurationRef) :
    ConfigureRun k s (s.onServerConfigurationUpdate (s.session k).parent serverConfig) := by
  obtain ⟨c, splits, heq, hsame, hsplits⟩ :=
    onServerConfigurationUpdate_eq s (s.session k).parent serverConfig
  rw [heq]
  refine ⟨rfl, fun q => ?_, fun q hq => proxy_withConfiguration_of_ne hq, rfl, fun _ _ => rfl,
    ⟨_, rfl, rfl⟩, rfl, ?_, rfl, rfl, rfl, rfl, rfl⟩
  · show SessionProxy.SameButConfiguration _ ((s.withConfiguration (s.session k).parent c).proxy q)
    by_cases hq : q = (s.session k).parent
    · subst hq
      rw [proxy_withConfiguration_self]
      exact ⟨⟨some c, rfl⟩, fun c' hc' => ⟨c, rfl, hsame c' hc'⟩⟩
    · rw [proxy_withConfiguration_of_ne hq]
      exact .refl _
  · rcases hsplits with hsplits | ⟨hsplits, hnone, hunfinished⟩
    · exact .inl hsplits
    · refine .inr ⟨hsplits, hnone, ?_, hunfinished⟩
      show ((s.withConfiguration (s.session k).parent c).proxy _).serverConfiguration ≠ none
      rw [proxy_withConfiguration_self]
      exact Option.some_ne_none c

/-- A change of the session, before the callback. -/
theorem configureRun_updateSession {c : BeaconConfiguration}
    (h : c.privacyConfiguration = (s.session k).beaconConfiguration.privacyConfiguration) :
    ConfigureRun k s (s.updateSession k fun o => o.setSession (o.session.configure fun _ => c)) :=
  ⟨rfl, fun _ => .refl _, fun _ _ => rfl, rfl, fun _ hj => session_updateSession_of_ne hj,
    ⟨c, session_updateSession_self, h⟩, rfl, .inl rfl, rfl, rfl, rfl, rfl, rfl⟩

namespace ConfigureRun

theorem parent (h : ConfigureRun k s t) (j : SessionRef) :
    (t.session j).parent = (s.session j).parent := by
  by_cases hj : j = k
  · subst hj
    obtain ⟨c, hsession, -⟩ := h.session
    rw [hsession]
    rfl
  · rw [h.session_of_ne j hj]

theorem serverConfiguration_ne_none (h : ConfigureRun k s t) {q : ProxyRef}
    (hsome : (s.proxy q).serverConfiguration ≠ none) : (t.proxy q).serverConfiguration ≠ none := by
  obtain ⟨c, hc⟩ := Option.ne_none_iff_exists'.mp hsome
  obtain ⟨c', hc', -⟩ := (h.proxy q).sameForLife c hc
  rw [hc']
  exact Option.some_ne_none c'

theorem isFinished (h : ConfigureRun k s t) (q : ProxyRef) :
    (t.proxy q).isFinished = (s.proxy q).isFinished := by
  obtain ⟨c, hproxy⟩ := (h.proxy q).eq
  rw [hproxy]

theorem trans (h : ConfigureRun k s t) (h' : ConfigureRun k t u) : ConfigureRun k s u := by
  have hparent := h.parent k
  refine ⟨h'.proxies_size.trans h.proxies_size, fun q => (h.proxy q).trans (h'.proxy q),
    fun q hq => ?_, h'.sessions_size.trans h.sessions_size, fun j hj => ?_, ?_,
    h'.sessionsToClose.trans h.sessionsToClose, ?_, h'.sessionIDProvider.trans h.sessionIDProvider,
    h'.numDraws.trans h.numDraws, h'.numReads.trans h.numReads, h'.events.trans h.events,
    h'.records.trans h.records⟩
  · rw [h'.proxy_of_ne q (hparent ▸ hq), h.proxy_of_ne q hq]
  · rw [h'.session_of_ne j hj, h.session_of_ne j hj]
  · obtain ⟨c, hc, hprivacy⟩ := h.session
    obtain ⟨c', hc', hprivacy'⟩ := h'.session
    refine ⟨c', by rw [hc', hc]; rfl, ?_⟩
    rw [hprivacy', hc]
    exact hprivacy
  · -- the proxy gets its first configuration in one of the two steps
    rcases h'.sessionsToSplitByTimeout with hsplits' | ⟨hsplits', hnone', hsome', hunfinished'⟩
    · rcases h.sessionsToSplitByTimeout with hsplits | ⟨hsplits, hnone, hsome, hunfinished⟩
      · exact .inl (hsplits'.trans hsplits)
      · exact .inr ⟨hsplits'.trans hsplits, hnone, h'.serverConfiguration_ne_none hsome, hunfinished⟩
    · rw [hparent] at hsplits' hnone' hsome' hunfinished'
      have hnone : (s.proxy (s.session k).parent).serverConfiguration = none := by
        by_contra hsome
        exact h.serverConfiguration_ne_none hsome hnone'
      rcases h.sessionsToSplitByTimeout with hsplits | ⟨-, -, hsome, -⟩
      · rw [h.isFinished] at hunfinished'
        exact .inr ⟨by rw [hsplits', hsplits], hnone, hsome', hunfinished'⟩
      · exact absurd hnone' hsome

end ConfigureRun

/-- **Every change** that keeps the consent of the user leaves an instance so. -/
theorem configureRun_configure
    {f : BeaconConfiguration → BeaconConfiguration × Option ServerConfigurationRef}
    (hprivacy : ∀ c : BeaconConfiguration, (f c).1.privacyConfiguration = c.privacyConfiguration) :
    ConfigureRun k s (s.configure k f) := by
  have hkept := hprivacy (s.session k).beaconConfiguration
  rcases hresult : f (s.session k).beaconConfiguration with ⟨c, _ | config⟩
  · rw [configure_of_none hresult]
    rw [hresult] at hkept
    exact configureRun_updateSession hkept
  · rw [configure_of_some hresult]
    rw [hresult] at hkept
    have hsession := configureRun_updateSession hkept
    rw [← hsession.parent k]
    exact hsession.trans (configureRun_onServerConfigurationUpdate config)

end OpenKitInstance

end OpenKit
