import OpenKit.Objects.CallMoves

/-!
# What moves remember

Most of what a move does leaves no trace in the past of an instance: it changes what sessions have
reported, the children of proxies, the queues of the watchdog, times and configurations. What is left are
the calls that proxies forward, the splits, the ends of proxies and new proxies.

## Main definitions

* `OpenKitInstance.Quiet`: what leaves no trace
* `OpenKitInstance.Deed`: the moves, up to what leaves no trace

## Main results

* `Move.deed`: every move is a deed
-/

namespace OpenKit

open Thread SessionProxies

/-- Two states of a session that was created once. -/
structure SessionObject.SameOrigin (o o' : SessionObject) : Prop where
  parent : o'.parent = o.parent
  beaconKey : o'.beaconKey = o.beaconKey
  deviceID : o'.deviceID = o.deviceID
  trafficControlValue :
    o'.session.beacon.trafficControlValue = o.session.beacon.trafficControlValue
  sessionStartTime : o'.session.beacon.sessionStartTime = o.session.beacon.sessionStartTime
  privacyConfiguration :
    o'.beaconConfiguration.privacyConfiguration = o.beaconConfiguration.privacyConfiguration

namespace SessionObject.SameOrigin

variable {o o' o'' : SessionObject}

theorem refl (o : SessionObject) : o.SameOrigin o := ⟨rfl, rfl, rfl, rfl, rfl, rfl⟩

theorem trans (h : o.SameOrigin o') (h' : o'.SameOrigin o'') : o.SameOrigin o'' :=
  ⟨h'.parent.trans h.parent, h'.beaconKey.trans h.beaconKey, h'.deviceID.trans h.deviceID,
    h'.trafficControlValue.trans h.trafficControlValue, h'.sessionStartTime.trans h.sessionStartTime,
    h'.privacyConfiguration.trans h.privacyConfiguration⟩

/-- A session whose beacon has drawn numbers. -/
theorem setSession {session : Session} (h : o.session.beacon.SameButNumbers session.beacon) :
    o.SameOrigin (o.setSession session) :=
  ⟨rfl, rfl, rfl, h.trafficControlValue, h.sessionStartTime, congrArg _ h.beaconConfiguration⟩

end SessionObject.SameOrigin

/-- Two states of a proxy between which no event was remembered. A reading of the clock is not
negative. -/
structure SessionProxy.Quiet (proxy proxy' : SessionProxy) : Prop where
  sessionCreator : proxy'.sessionCreator = proxy.sessionCreator
  currentSession : proxy'.currentSession = proxy.currentSession
  topLevelActionCount : proxy'.topLevelActionCount = proxy.topLevelActionCount
  isFinished : proxy'.isFinished = proxy.isFinished
  lastUserTag : proxy'.lastUserTag = proxy.lastUserTag
  lastInteractionTime : 0 ≤ proxy.lastInteractionTime → 0 ≤ proxy'.lastInteractionTime
  sameForLife : ∀ c, proxy.serverConfiguration = some c →
    ∃ c', proxy'.serverConfiguration = some c' ∧ c.get.SameForLife c'.get

namespace SessionProxy.Quiet

variable {proxy proxy' proxy'' : SessionProxy}

theorem refl (proxy : SessionProxy) : proxy.Quiet proxy :=
  ⟨rfl, rfl, rfl, rfl, rfl, id, fun c hc => ⟨c, hc, .refl _⟩⟩

theorem trans (h : proxy.Quiet proxy') (h' : proxy'.Quiet proxy'') : proxy.Quiet proxy'' := by
  refine ⟨h'.sessionCreator.trans h.sessionCreator, h'.currentSession.trans h.currentSession,
    h'.topLevelActionCount.trans h.topLevelActionCount, h'.isFinished.trans h.isFinished,
    h'.lastUserTag.trans h.lastUserTag, h'.lastInteractionTime ∘ h.lastInteractionTime,
    fun c hc => ?_⟩
  obtain ⟨c', hc', hsame⟩ := h.sameForLife c hc
  obtain ⟨c'', hc'', hsame'⟩ := h'.sameForLife c' hc'
  exact ⟨c'', hc'', hsame.trans hsame'⟩

theorem of_sameButChildren (h : proxy.SameButChildren proxy') : proxy.Quiet proxy' := by
  obtain ⟨children, rfl⟩ := h
  exact ⟨rfl, rfl, rfl, rfl, rfl, id, fun c hc => ⟨c, hc, .refl _⟩⟩

theorem of_sameButConfiguration (h : proxy.SameButConfiguration proxy') : proxy.Quiet proxy' := by
  obtain ⟨⟨c, rfl⟩, hsame⟩ := h
  exact ⟨rfl, rfl, rfl, rfl, rfl, id, hsame⟩

end SessionProxy.Quiet

namespace OpenKitInstance

/-! ## What leaves no trace -/

/-- **What leaves no trace** in the past. -/
structure Quiet (s t : OpenKitInstance) : Prop where
  proxies_size : t.proxies.size = s.proxies.size
  proxy : ∀ q, (s.proxy q).Quiet (t.proxy q)
  sessions_size : t.sessions.size = s.sessions.size
  session : ∀ k, (s.session k).SameOrigin (t.session k)
  sessionIDProvider : t.sessionIDProvider = s.sessionIDProvider
  numDraws : t.numDraws = s.numDraws
  events : t.events = s.events

variable {env : InstanceEnvironment} {caller : Caller} {s t u : OpenKitInstance} {p : ProxyRef}
  {k : SessionRef}

namespace Quiet

theorem refl (s : OpenKitInstance) : s.Quiet s :=
  ⟨rfl, fun _ => .refl _, rfl, fun _ => .refl _, rfl, rfl, rfl⟩

theorem trans (h : s.Quiet t) (h' : t.Quiet u) : s.Quiet u :=
  ⟨h'.proxies_size.trans h.proxies_size, fun q => (h.proxy q).trans (h'.proxy q),
    h'.sessions_size.trans h.sessions_size, fun k => (h.session k).trans (h'.session k),
    h'.sessionIDProvider.trans h.sessionIDProvider, h'.numDraws.trans h.numDraws,
    h'.events.trans h.events⟩

/-- A run on a session. -/
theorem sessionRun (h : s.SessionRun k t) : s.Quiet t := by
  refine ⟨h.proxies_size, fun q => .of_sameButChildren (h.proxy q), h.sessions_size, fun j => ?_,
    h.sessionIDProvider, h.numDraws, h.events⟩
  obtain ⟨session, hsession, hbeacon⟩ := h.sameSession j
  rw [hsession]
  exact .setSession hbeacon

/-- A change of the configuration of a session. -/
theorem configure (h : s.ConfigureRun k t) : s.Quiet t := by
  refine ⟨h.proxies_size, fun q => .of_sameButConfiguration (h.proxy q), h.sessions_size,
    fun j => ?_, h.sessionIDProvider, h.numDraws, h.events⟩
  by_cases hj : j = k
  · subst hj
    obtain ⟨c, hsession, hprivacy⟩ := h.session
    rw [hsession]
    exact ⟨rfl, rfl, rfl, rfl, rfl, hprivacy⟩
  · rw [h.session_of_ne j hj]
    exact .refl _

theorem closed {closeGracePeriodInMillis : ℤ}
    (h : s.Closed env caller k closeGracePeriodInMillis t) : s.Quiet t := by
  cases h with
  | ended _ => exact sessionRun sessionRun_endWith
  | enqueued h =>
    refine ⟨congrArg Heap.size h.proxies, fun q => ?_, h.sessions_size, fun j => ?_,
      h.sessionIDProvider, h.numDraws, h.events⟩
    · have hsame : t.proxy q = s.proxy q := congrArg (Heap.get · q) h.proxies
      rw [hsame]
      exact .refl _
    · by_cases hj : j = k
      · subst hj
        rw [h.session]
        exact ⟨rfl, rfl, rfl, rfl, rfl, rfl⟩
      · rw [h.session_of_ne j hj]
        exact .refl _

/-- A change of one proxy that leaves no trace. -/
theorem updateProxy {f : SessionProxy → SessionProxy} (h : ∀ proxy, SessionProxy.Quiet proxy (f proxy)) :
    s.Quiet (s.updateProxy p f) := by
  refine ⟨rfl, fun q => ?_, rfl, fun k => .refl _, rfl, rfl, rfl⟩
  by_cases hq : q = p
  · subst hq
    rw [proxy_updateProxy_self]
    exact h _
  · rw [proxy_updateProxy_of_ne hq]
    exact .refl _

/-- What leaves no trace still does if the same change of a proxy follows. -/
theorem updateProxy_congr (h : s.Quiet t) {f : SessionProxy → SessionProxy}
    (hf : ∀ proxy proxy', SessionProxy.Quiet proxy proxy' → SessionProxy.Quiet (f proxy) (f proxy')) :
    (s.updateProxy p f).Quiet (t.updateProxy p f) := by
  refine ⟨h.proxies_size, fun q => ?_, h.sessions_size, h.session, h.sessionIDProvider, h.numDraws,
    h.events⟩
  by_cases hq : q = p
  · subst hq
    rw [proxy_updateProxy_self, proxy_updateProxy_self]
    exact hf _ _ (h.proxy q)
  · rw [proxy_updateProxy_of_ne hq, proxy_updateProxy_of_ne hq]
    exact h.proxy q

theorem interacted : s.Quiet (s.interacted env p) := by
  have hread : s.Quiet { s with numReads := s.numReads + 1 } :=
    ⟨rfl, fun _ => .refl _, rfl, fun _ => .refl _, rfl, rfl, rfl⟩
  refine hread.trans (updateProxy fun proxy => ?_)
  exact ⟨rfl, rfl, rfl, rfl, rfl, fun _ => Int.natCast_nonneg _, fun c hc => ⟨c, hc, .refl _⟩⟩

theorem remember (h : s.Quiet t) (event : InstanceEvent) :
    (s.remember event).Quiet (t.remember event) := by
  refine ⟨h.proxies_size, h.proxy, h.sessions_size, h.session, h.sessionIDProvider, h.numDraws, ?_⟩
  show t.events ++ [event] = s.events ++ [event]
  rw [h.events]

/-- A call that is forwarded leaves no trace but itself. -/
theorem forwarded (call : SessionCall) :
    (s.remember (.forwarded p k call)).Quiet (s.forwarded env caller p k call) := by
  have hinteracted : s.Quiet (s.interacted env p) := .interacted
  exact (hinteracted.remember _).trans (sessionRun (sessionRun_perform call))

theorem identified {userTag : UTF8String} :
    ((s.remember (.forwarded p k (.identifyUser userTag))).updateProxy p fun proxy =>
      { proxy with lastUserTag := userTag }).Quiet (s.identified env caller p k userTag) := by
  have hforwarded : (s.remember (.forwarded p k (.identifyUser userTag))).Quiet
    (s.forwarded env caller p k (.identifyUser userTag)) := .forwarded _
  refine hforwarded.updateProxy_congr fun proxy proxy' h => ?_
  exact ⟨h.sessionCreator, h.currentSession, h.topLevelActionCount, h.isFinished, rfl,
    h.lastInteractionTime, h.sameForLife⟩

theorem endedAll (ks : List SessionRef) : s.Quiet (s.endedAll caller p ks) := by
  induction ks generalizing s with
  | nil => exact .refl s
  | cons k ks ih => exact (sessionRun sessionRun_endWith).trans ih

/-- The end of a proxy leaves no trace but itself. -/
theorem finished :
    ((s.markedFinished p).withoutSession p).Quiet (s.finished caller p) := by
  refine updateProxy_congr (t := ((s.markedFinished p).endedAll caller p
    (s.proxy p).children).removeFromSplitByTimeout p) ?_ fun proxy proxy' h => ?_
  · have hended : (s.markedFinished p).Quiet ((s.markedFinished p).endedAll caller p
      (s.proxy p).children) := endedAll _
    exact ⟨hended.proxies_size, hended.proxy, hended.sessions_size, hended.session,
      hended.sessionIDProvider, hended.numDraws, hended.events⟩
  · exact ⟨h.sessionCreator, rfl, h.topLevelActionCount, h.isFinished, h.lastUserTag,
      h.lastInteractionTime, h.sameForLife⟩

end Quiet

/-! ## What moves do -/

/-- What a proxy does about its last user once it has made a session. -/
inductive ReTags (p : ProxyRef) (s : OpenKitInstance) : OpenKitInstance → Prop
  | untagged (h : (s.proxy p).lastUserTag.isEmpty = true) : ReTags p s s
  | tagged {k : SessionRef} {t : OpenKitInstance} (h : (s.proxy p).lastUserTag.isEmpty = false)
      (hcurrent : (s.proxy p).currentSession = some k)
      (hquiet : (s.remember (.reTagged p k (s.proxy p).lastUserTag)).Quiet t) : ReTags p s t

/-- **The moves**, up to what leaves no trace. -/
inductive Deed (env : InstanceEnvironment) : InstanceCall → OpenKitInstance → OpenKitInstance → Prop
  | quiet {call : InstanceCall} {s t : OpenKitInstance} (h : s.Quiet t) : Deed env call s t
  | enter {p : ProxyRef} {threadID : ℤ} {name : UTF8String} {k : SessionRef}
      {s t : OpenKitInstance} (huse : s.InUse p k) (hsplit : s.splitsByEvents p = false)
      (h : ((if (s.session k).beaconConfiguration.privacyConfiguration.isActionReportingAllowed then
        s.counted p else s).remember (.forwarded p k (.enterAction name))).Quiet t) :
      Deed env (.onProxy p threadID (.enterAction name)) s t
  | forward {p : ProxyRef} {threadID : ℤ} {proxyCall : ProxyCall} {k : SessionRef}
      {call : SessionCall} {s t : OpenKitInstance} (huse : s.InUse p k)
      (hreport : call.isReport = true) (h : (s.remember (.forwarded p k call)).Quiet t) :
      Deed env (.onProxy p threadID proxyCall) s t
  | identify {p : ProxyRef} {threadID : ℤ} {userTag : UTF8String} {k : SessionRef}
      {s t : OpenKitInstance} (huse : s.InUse p k)
      (h : ((s.remember (.forwarded p k (.identifyUser userTag))).updateProxy p fun proxy =>
        { proxy with lastUserTag := userTag }).Quiet t) :
      Deed env (.onProxy p threadID (.identifyUser userTag)) s t
  | split {call : InstanceCall} {p : ProxyRef} {anew : Bool} {s s₁ s₂ t : OpenKitInstance}
      (hmade : p < s.proxies.size) (hunfinished : (s.proxy p).isFinished = false)
      (hclosed : s.Quiet s₁) (hnew : (s₁.prepared env p anew).Made env p s₂)
      (htags : s₂.ReTags p t) : Deed env call s t
  | finish {p : ProxyRef} {threadID : ℤ} {s t : OpenKitInstance} (hmade : p < s.proxies.size)
      (hunfinished : (s.proxy p).isFinished = false)
      (h : ((s.markedFinished p).withoutSession p).Quiet t) :
      Deed env (.onProxy p threadID .close) s t
  | create {s t : OpenKitInstance} (hmade : (s.newProxy env).Made env s.proxies.size t) :
      Deed env .createSession s t

theorem ReTagged.reTags (h : s.ReTagged caller p t) : s.ReTags p t := by
  cases h with
  | untagged h => exact .untagged h
  | tagged h hcurrent => exact .tagged h hcurrent (.sessionRun (sessionRun_perform _))

/-- **Every move is a deed.** -/
theorem Move.deed {call : InstanceCall} (h : Move env call s t) : Deed env call s t := by
  cases h with
  | readClock => exact .quiet ⟨rfl, fun _ => .refl _, rfl, fun _ => .refl _, rfl, rfl, rfl⟩
  | setContext context => exact .quiet ⟨rfl, fun _ => .refl _, rfl, fun _ => .refl _, rfl, rfl, rfl⟩
  | enter huse hsplit => exact .enter huse hsplit (.forwarded _)
  | forward huse hreport => exact .forward huse hreport (.forwarded _)
  | identify huse => exact .identify huse .identified
  | split hmade hunfinished hsplit =>
    obtain ⟨-, -, hclosed, hnew, htagged⟩ := hsplit
    exact .split hmade hunfinished (.closed hclosed) hnew htagged.reTags
  | finish hmade hunfinished => exact .finish hmade hunfinished .finished
  | onObject hk => exact .quiet (.sessionRun (sessionRun_perform _))
  | endSession hk => exact .quiet (.sessionRun sessionRun_endWith)
  | @expire _ _ k _ hk =>
    have hdequeued : s.Quiet (s.dequeueFromClosing k) :=
      ⟨rfl, fun _ => .refl _, rfl, fun _ => .refl _, rfl, rfl, rfl⟩
    exact .quiet (hdequeued.trans (.sessionRun sessionRun_endWith))
  | unsplit => exact .quiet ⟨rfl, fun _ => .refl _, rfl, fun _ => .refl _, rfl, rfl, rfl⟩
  | configure hk hconfigure => exact .quiet (.configure hconfigure)
  | @decrease _ k _ hk =>
    refine .quiet ⟨rfl, fun _ => .refl _, rfl, fun j => ?_, rfl, rfl, rfl⟩
    by_cases hj : j = k
    · subst hj
      rw [session_updateSession_self]
      exact ⟨rfl, rfl, rfl, rfl, rfl, rfl⟩
    · rw [session_updateSession_of_ne hj]
      exact .refl _
  | create hmade => exact .create hmade

end OpenKitInstance

end OpenKit
