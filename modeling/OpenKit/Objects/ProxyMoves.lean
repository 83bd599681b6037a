import Mathlib.Logic.Relation
import OpenKit.Objects.InstanceRuns
import OpenKit.Objects.ProxyRuns

/-!
# The moves of an instance

Every call on an instance is a sequence of moves: a session is split off, a call is forwarded to the
current session of a proxy, a session is ended, and so on. Each move says from which state it starts and
what it leaves. What all moves keep is kept by all calls.

The moves are those of a sound instance: all sessions are orderly, and every proxy in use has a current
session.

## Main definitions

* `OpenKitInstance.Sound`: the instances between moves
* `OpenKitInstance.Move`: the moves of a call
* `OpenKitInstance.Moves`: sequences of moves

## Main results

* `Sound.move`: moves keep an instance sound
* `Split.splitProxy`: what a split leaves of its proxy
-/

namespace OpenKit

open Thread SessionProxies

/-- The calls that a proxy forwards, and that do not concern it otherwise. -/
def SessionCall.isReport : SessionCall → Bool
  | .reportCrash _ _ _ => true
  | .traceWebRequest _ => true
  | .sendEvent _ _ => true
  | .sendBizEvent _ _ => true
  | _ => false

namespace OpenKitInstance

/-- A proxy in use, with its current session. -/
structure InUse (s : OpenKitInstance) (p : ProxyRef) (k : SessionRef) : Prop where
  made : p < s.proxies.size
  unfinished : (s.proxy p).isFinished = false
  currentSession : (s.proxy p).currentSession = some k

/-- All sessions are orderly, and every proxy in use has a current session. -/
structure Sound (s : OpenKitInstance) : Prop where
  orderly : ∀ k, (s.session k).session.Orderly
  live : ∀ p < s.proxies.size, (s.proxy p).isFinished = false →
    ∃ k, (s.proxy p).currentSession = some k

section

variable (env : InstanceEnvironment) (caller : Caller)

/-- A session with an action that is entered on its proxy. -/
def entered (s : OpenKitInstance) (p : ProxyRef) (k : SessionRef) (name : UTF8String) :
    OpenKitInstance :=
  ((if (s.session k).beaconConfiguration.privacyConfiguration.isActionReportingAllowed then
    s.counted p else s).interacted env p).forwardedTo caller p k (.enterAction name)

/-- A session with a call that is forwarded by its proxy. -/
def forwarded (s : OpenKitInstance) (p : ProxyRef) (k : SessionRef) (call : SessionCall) :
    OpenKitInstance :=
  (s.interacted env p).forwardedTo caller p k call

/-- A proxy whose user was identified. -/
def identified (s : OpenKitInstance) (p : ProxyRef) (k : SessionRef) (userTag : UTF8String) :
    OpenKitInstance :=
  (s.forwarded env caller p k (.identifyUser userTag)).updateProxy p fun proxy =>
    { proxy with lastUserTag := userTag }

/-- **The moves of a call.** -/
inductive Move : InstanceCall → OpenKitInstance → OpenKitInstance → Prop
  | readClock {call : InstanceCall} {s : OpenKitInstance} :
      Move call s { s with numReads := s.numReads + 1 }
  | setContext {call : InstanceCall} {s : OpenKitInstance} (context : BeaconSendingContext) :
      Move call s { s with context := context }
  | enter {p : ProxyRef} {threadID : ℤ} {name : UTF8String} {k : SessionRef} {s : OpenKitInstance}
      (huse : s.InUse p k) (hsplit : s.splitsByEvents p = false) :
      Move (.onProxy p threadID (.enterAction name)) s
        (s.entered env ⟨threadID, env.clock⟩ p k name)
  | forward {p : ProxyRef} {threadID : ℤ} {proxyCall : ProxyCall} {k : SessionRef}
      {call : SessionCall} {s : OpenKitInstance} (huse : s.InUse p k)
      (hreport : call.isReport = true) :
      Move (.onProxy p threadID proxyCall) s (s.forwarded env ⟨threadID, env.clock⟩ p k call)
  | identify {p : ProxyRef} {threadID : ℤ} {userTag : UTF8String} {k : SessionRef}
      {s : OpenKitInstance} (huse : s.InUse p k) :
      Move (.onProxy p threadID (.identifyUser userTag)) s
        (s.identified env ⟨threadID, env.clock⟩ p k userTag)
  | split {call : InstanceCall} {caller : Caller} {p : ProxyRef} {anew : Bool}
      {s t : OpenKitInstance} (hmade : p < s.proxies.size)
      (hunfinished : (s.proxy p).isFinished = false) (hsplit : s.Split env caller p anew t) :
      Move call s t
  | finish {p : ProxyRef} {threadID : ℤ} {s : OpenKitInstance} (hmade : p < s.proxies.size)
      (hunfinished : (s.proxy p).isFinished = false) :
      Move (.onProxy p threadID .close) s (s.finished ⟨threadID, env.clock⟩ p)
  | onObject {k : SessionRef} {threadID handle : ℤ} {call : ObjectCall} {s : OpenKitInstance}
      (hk : k < s.sessions.size) :
      Move (.onObject k threadID handle call) s
        (s.ranOn k (SessionCalls.perform ⟨threadID, env.clock⟩ (.onObject handle call)))
  | endSession {call : InstanceCall} {caller : Caller} {k : SessionRef} {s : OpenKitInstance}
      (hk : k < s.sessions.size) :
      Move call s (s.ranOn k (SessionCalls.endWith caller false))
  | expire {call : InstanceCall} {caller : Caller} {k : SessionRef} {s : OpenKitInstance}
      (hk : k < s.sessions.size) :
      Move call s ((s.dequeueFromClosing k).ranOn k (SessionCalls.endWith caller false))
  | unsplit {call : InstanceCall} {p : ProxyRef} {s : OpenKitInstance} :
      Move call s (s.removeFromSplitByTimeout p)
  | configure {call : InstanceCall} {k : SessionRef} {s t : OpenKitInstance}
      (hk : k < s.sessions.size) (hconfigure : s.ConfigureRun k t) : Move call s t
  | decrease {call : InstanceCall} {k : SessionRef} {s : OpenKitInstance}
      (hk : k < s.sessions.size) :
      Move call s (s.updateSession k fun o =>
        o.setSession o.session.decreaseNumRemainingSessionRequests)
  | create {s t : OpenKitInstance} (hmade : (s.newProxy env).Made env s.proxies.size t) :
      Move .createSession s t

/-- Sequences of moves of a call. -/
def Moves (call : InstanceCall) : OpenKitInstance → OpenKitInstance → Prop :=
  Relation.ReflTransGen (Move env call)

end

variable {env : InstanceEnvironment} {caller : Caller} {s t : OpenKitInstance} {p : ProxyRef}
  {k : SessionRef}

/-! ## Sound instances -/

namespace Sound

theorem settled (h : s.Sound) (k : SessionRef) : (s.session k).session.Settled :=
  (h.orderly k).toSettled

/-- What works on one session, and leaves it orderly. -/
theorem of_session (h : s.Sound) (hsize : t.proxies.size = s.proxies.size)
    (hfinished : ∀ q, (t.proxy q).isFinished = (s.proxy q).isFinished)
    (hcurrent : ∀ q, (t.proxy q).currentSession = (s.proxy q).currentSession)
    (hother : ∀ j, j ≠ k → t.session j = s.session j)
    (horderly : (t.session k).session.Orderly) : t.Sound := by
  refine ⟨fun j => ?_, fun q hq hunfinished => ?_⟩
  · by_cases hj : j = k
    · subst hj
      exact horderly
    · rw [hother j hj]
      exact h.orderly j
  · rw [hsize] at hq
    rw [hfinished] at hunfinished
    rw [hcurrent]
    exact h.live q hq hunfinished

theorem sessionRun (h : s.Sound) (hrun : s.SessionRun k t)
    (horderly : (t.session k).session.Orderly) : t.Sound :=
  h.of_session hrun.proxies_size hrun.isFinished hrun.currentSession hrun.session_of_ne horderly

theorem perform (h : s.Sound) (call : SessionCall) :
    (s.ranOn k (SessionCalls.perform caller call)).Sound := by
  refine h.sessionRun (sessionRun_perform call) ?_
  rw [ranOn, session_afterReport_self]
  have horderly : (s.reporting k).session.Orderly := h.orderly k
  exact (SessionCalls.orderly_of_run_perform horderly rfl).1

theorem endWith (h : s.Sound) (sendSessionEndEvent : Bool) :
    (s.ranOn k (SessionCalls.endWith caller sendSessionEndEvent)).Sound := by
  refine h.sessionRun sessionRun_endWith ?_
  have hsettled : (s.reporting k).session.Settled := h.settled k
  obtain ⟨r, hrun, hended⟩ :=
    SessionCalls.endedFrom_of_run_endWith caller sendSessionEndEvent hsettled
  rw [ranOn, session_afterReport_self, hrun]
  exact hended.orderly

theorem closed (h : s.Sound) {closeGracePeriodInMillis : ℤ}
    (hclosed : s.Closed env caller k closeGracePeriodInMillis t) : t.Sound := by
  cases hclosed with
  | ended _ => exact h.endWith false
  | enqueued henqueued =>
    have hproxy (q : ProxyRef) : t.proxy q = s.proxy q := by
      rw [proxy, henqueued.proxies]
      rfl
    refine h.of_session (congrArg Heap.size henqueued.proxies) (fun q => by rw [hproxy])
      (fun q => by rw [hproxy]) henqueued.session_of_ne ?_
    rw [henqueued.session]
    have horderly := h.orderly k
    exact ⟨⟨horderly.finishing, horderly.children⟩, fun _ _ => henqueued.waiting⟩

/-- The new session is open, and the current one of its proxy. -/
theorem made (h : s.Sound) (hmade : s.Made env p t) : t.Sound := by
  refine ⟨fun j => ?_, fun q hq hunfinished => ?_⟩
  · by_cases hj : j = s.sessions.size
    · subst hj
      obtain ⟨c, hsession, -⟩ := hmade.session
      rw [hsession]
      exact ⟨⟨rfl, fun hfinished => nomatch hfinished⟩, fun htried => nomatch htried⟩
    · rw [hmade.session_of_ne j hj]
      exact h.orderly j
  · by_cases hqp : q = p
    · subst hqp
      exact ⟨_, hmade.currentSession⟩
    · rw [hmade.proxy_of_ne q hqp] at hunfinished ⊢
      rw [hmade.proxies_size] at hq
      exact h.live q hq hunfinished

theorem remember (h : s.Sound) (event : InstanceEvent) : (s.remember event).Sound :=
  ⟨h.orderly, h.live⟩

theorem reTagged (h : s.Sound) (htagged : s.ReTagged caller p t) : t.Sound := by
  cases htagged with
  | untagged _ => exact h
  | tagged _ _ => exact (h.remember _).perform _

/-- A change of a proxy that keeps its state and its session. -/
theorem updateProxy (h : s.Sound) {f : SessionProxy → SessionProxy}
    (hfinished : ∀ proxy, (f proxy).isFinished = proxy.isFinished)
    (hcurrent : ∀ proxy, (f proxy).currentSession = proxy.currentSession) :
    (s.updateProxy p f).Sound := by
  have hproxy (q : ProxyRef) : ((s.updateProxy p f).proxy q).isFinished = (s.proxy q).isFinished ∧
      ((s.updateProxy p f).proxy q).currentSession = (s.proxy q).currentSession := by
    by_cases hq : q = p
    · subst hq
      rw [proxy_updateProxy_self]
      exact ⟨hfinished _, hcurrent _⟩
    · rw [proxy_updateProxy_of_ne hq]
      exact ⟨rfl, rfl⟩
  refine ⟨h.orderly, fun q hq hunfinished => ?_⟩
  rw [(hproxy q).1] at hunfinished
  rw [(hproxy q).2]
  exact h.live q hq hunfinished

theorem prepared (h : s.Sound) (anew : Bool) : (s.prepared env p anew).Sound := by
  cases anew with
  | true =>
    have hdrawn : OpenKitInstance.Sound { s with
        sessionIDProvider := s.sessionIDProvider.getNextSessionID.2
        numDraws := s.numDraws + 1 } := ⟨h.orderly, h.live⟩
    let f (proxy : SessionProxy) : SessionProxy :=
      { proxy with
        sessionCreator := proxy.sessionCreator.reset s.sessionIDProvider.getNextSessionID.1
          (env.random s.numDraws) }
    exact (hdrawn.updateProxy (f := f) (fun _ => rfl) fun _ => rfl).remember (.reset p)
  | false => exact h

theorem split (h : s.Sound) {anew : Bool} (hsplit : s.Split env caller p anew t) : t.Sound := by
  obtain ⟨-, -, hclosed, hmade, htagged⟩ := hsplit
  exact (((h.closed hclosed).prepared anew).made hmade).reTagged htagged

theorem interacted (h : s.Sound) : (s.interacted env p).Sound := by
  have hread : OpenKitInstance.Sound { s with numReads := s.numReads + 1 } := ⟨h.orderly, h.live⟩
  exact hread.updateProxy (fun _ => rfl) fun _ => rfl

theorem counted (h : s.Sound) : (s.counted p).Sound :=
  h.updateProxy (fun _ => rfl) fun _ => rfl

theorem forwarded (h : s.Sound) (call : SessionCall) : (s.forwarded env caller p k call).Sound :=
  (h.interacted.remember _).perform call

theorem entered (h : s.Sound) (name : UTF8String) : (s.entered env caller p k name).Sound := by
  rw [OpenKitInstance.entered]
  split
  · exact h.counted.forwarded _
  · exact h.forwarded _

theorem endedAll (h : s.Sound) (ks : List SessionRef) : (s.endedAll caller p ks).Sound := by
  induction ks generalizing s with
  | nil => exact h
  | cons k ks ih => exact ih (h.endWith _)

end Sound

variable (caller s p) in
/-- The proxies lose children at most. -/
theorem proxy_endedAll (ks : List SessionRef) (q : ProxyRef) :
    (s.proxy q).SameButChildren ((s.endedAll caller p ks).proxy q) := by
  induction ks generalizing s with
  | nil => exact ⟨(s.proxy q).children, rfl⟩
  | cons k ks ih =>
    rw [endedAll]
    obtain ⟨children, hproxy⟩ := ih (s.ranOn k
      (SessionCalls.endWith caller (some k == (s.proxy p).currentSession)))
    have hrun : SessionRun k s (s.ranOn k
        (SessionCalls.endWith caller (some k == (s.proxy p).currentSession))) := sessionRun_endWith
    obtain ⟨children', hproxy'⟩ := hrun.proxy q
    exact ⟨children, by rw [hproxy, hproxy']⟩

theorem isFinished_endedAll (ks : List SessionRef) (q : ProxyRef) :
    ((s.endedAll caller p ks).proxy q).isFinished = (s.proxy q).isFinished := by
  obtain ⟨children, hproxy⟩ := proxy_endedAll caller s p ks q
  rw [hproxy]

theorem proxies_size_endedAll (ks : List SessionRef) :
    (s.endedAll caller p ks).proxies.size = s.proxies.size := by
  induction ks generalizing s with
  | nil => rfl
  | cons k ks ih =>
    rw [endedAll, ih]
    exact sessionRun_endWith.proxies_size

theorem Sound.markedFinished (h : s.Sound) : (s.markedFinished p).Sound := by
  refine ⟨h.orderly, fun q hq hunfinished => ?_⟩
  by_cases hqp : q = p
  · subst hqp
    rw [OpenKitInstance.markedFinished, proxy_updateProxy_self] at hunfinished
    cases hunfinished
  · rw [OpenKitInstance.markedFinished, proxy_updateProxy_of_ne hqp] at hunfinished ⊢
    exact h.live q hq hunfinished

theorem Sound.finished (h : s.Sound) : (s.finished caller p).Sound := by
  have hended : ((s.markedFinished p).endedAll caller p (s.proxy p).children).Sound :=
    h.markedFinished.endedAll _
  refine ⟨hended.orderly, fun q hq hunfinished => ?_⟩
  let u := (s.markedFinished p).endedAll caller p (s.proxy p).children
  by_cases hqp : q = p
  · subst hqp
    have hfinished : ((u.withoutSession q).proxy q).isFinished = false := hunfinished
    rw [withoutSession, proxy_updateProxy_self] at hfinished
    dsimp only [u] at hfinished
    rw [isFinished_endedAll, OpenKitInstance.markedFinished, proxy_updateProxy_self] at hfinished
    cases hfinished
  · have hfinished : ((u.withoutSession p).proxy q).isFinished = false := hunfinished
    show ∃ k, ((u.withoutSession p).proxy q).currentSession = some k
    rw [withoutSession, proxy_updateProxy_of_ne hqp] at hfinished ⊢
    exact hended.live q hq hfinished

theorem Sound.configure (h : s.Sound) (hconfigure : s.ConfigureRun k t) : t.Sound := by
  refine h.of_session hconfigure.proxies_size hconfigure.isFinished (fun q => ?_)
    hconfigure.session_of_ne ?_
  · obtain ⟨c, hproxy⟩ := (hconfigure.proxy q).eq
    rw [hproxy]
  · obtain ⟨c, hsession, -⟩ := hconfigure.session
    rw [hsession]
    have horderly := h.orderly k
    exact ⟨⟨horderly.finishing, horderly.children⟩, horderly.waiting⟩

theorem Sound.newProxy (h : s.Sound) (hmade : (s.newProxy env).Made env s.proxies.size t) :
    t.Sound := by
  refine ⟨fun j => ?_, fun q hq hunfinished => ?_⟩
  · by_cases hj : j = s.sessions.size
    · subst hj
      obtain ⟨c, hsession, -⟩ := hmade.session
      rw [show s.sessions.size = (s.newProxy env).sessions.size from rfl, hsession]
      exact ⟨⟨rfl, fun hfinished => nomatch hfinished⟩, fun htried => nomatch htried⟩
    · rw [hmade.session_of_ne j hj]
      exact h.orderly j
  · by_cases hqp : q = s.proxies.size
    · subst hqp
      exact ⟨_, hmade.currentSession⟩
    · have hold : q < s.proxies.size := by
        rw [hmade.proxies_size] at hq
        exact lt_of_le_of_ne (Nat.le_of_lt_succ hq) hqp
      rw [hmade.proxy_of_ne q hqp] at hunfinished ⊢
      have hsame : (s.newProxy env).proxy q = s.proxy q := Heap.get_alloc_of_lt hold
      rw [hsame] at hunfinished ⊢
      exact h.live q hold hunfinished

/-- **Moves keep an instance sound.** -/
theorem Sound.move {call : InstanceCall} (h : s.Sound) (hmove : Move env call s t) : t.Sound := by
  cases hmove with
  | readClock => exact ⟨h.orderly, h.live⟩
  | setContext context => exact ⟨h.orderly, h.live⟩
  | enter huse hsplit => exact h.entered _
  | forward huse hreport => exact h.forwarded _
  | identify huse => exact (h.forwarded _).updateProxy (fun _ => rfl) fun _ => rfl
  | split hmade hunfinished hsplit => exact h.split hsplit
  | finish hmade hunfinished => exact h.finished
  | onObject hk => exact h.perform _
  | endSession hk => exact h.endWith false
  | @expire _ _ k _ hk =>
    have hdequeued : (s.dequeueFromClosing k).Sound := ⟨h.orderly, h.live⟩
    exact hdequeued.endWith false
  | unsplit => exact ⟨h.orderly, h.live⟩
  | configure hk hconfigure => exact h.configure hconfigure
  | @decrease _ k _ hk =>
    refine h.of_session rfl (fun _ => rfl) (fun _ => rfl)
      (fun j hj => session_updateSession_of_ne hj) ?_
    rw [session_updateSession_self]
    have horderly := h.orderly k
    exact ⟨⟨horderly.finishing, horderly.children⟩, horderly.waiting⟩
  | create hmade => exact h.newProxy hmade

theorem Sound.moves {call : InstanceCall} (h : s.Sound) (hmoves : Moves env call s t) :
    t.Sound := by
  induction hmoves with
  | refl => exact h
  | tail _ hmove ih => exact ih.move hmove

/-! ## What a split leaves of its proxy -/

theorem Closed.proxies_size {closeGracePeriodInMillis : ℤ}
    (h : s.Closed env caller k closeGracePeriodInMillis t) : t.proxies.size = s.proxies.size := by
  cases h with
  | ended _ => exact sessionRun_endWith.proxies_size
  | enqueued h => exact congrArg Heap.size h.proxies

variable (env s p) in
theorem proxies_size_prepared (anew : Bool) :
    (s.prepared env p anew).proxies.size = s.proxies.size := by
  cases anew with
  | true => rfl
  | false => rfl

variable (env s p) in
/-- Starting over changes the creator only. -/
theorem proxy_prepared (anew : Bool) (q : ProxyRef) : ∃ creator,
    (s.prepared env p anew).proxy q = { s.proxy q with sessionCreator := creator } := by
  cases anew with
  | true =>
    let f (proxy : SessionProxy) : SessionProxy :=
      { proxy with
        sessionCreator := proxy.sessionCreator.reset s.sessionIDProvider.getNextSessionID.1
          (env.random s.numDraws) }
    show ∃ creator, (s.updateProxy p f).proxy q = { s.proxy q with sessionCreator := creator }
    by_cases hq : q = p
    · subst hq
      rw [proxy_updateProxy_self]
      exact ⟨_, rfl⟩
    · rw [proxy_updateProxy_of_ne hq]
      exact ⟨_, rfl⟩
  | false => exact ⟨(s.proxy q).sessionCreator, rfl⟩

/-- The proxy after a split. -/
structure SplitProxy (proxy proxy' : SessionProxy) : Prop where
  isFinished : proxy'.isFinished = proxy.isFinished
  lastUserTag : proxy'.lastUserTag = proxy.lastUserTag
  topLevelActionCount : proxy'.topLevelActionCount = 0
  isSome_currentSession : proxy'.currentSession.isSome = true
  sameForLife : ∀ c, proxy.serverConfiguration = some c →
    ∃ c', proxy'.serverConfiguration = some c' ∧ c.get.SameForLife c'.get

theorem Made.splitProxy (h : s.Made env p t) : SplitProxy (s.proxy p) (t.proxy p) := by
  obtain ⟨⟨c, hc⟩, hsame⟩ := h.proxy
  refine ⟨?_, ?_, ?_, ?_, hsame⟩
  · rw [hc]
    rfl
  · rw [hc]
    rfl
  · rw [hc]
    rfl
  · rw [hc]
    rfl

theorem ReTagged.proxies_size (h : s.ReTagged caller p t) : t.proxies.size = s.proxies.size := by
  cases h with
  | untagged _ => rfl
  | tagged _ _ => exact (sessionRun_perform _).proxies_size

theorem ReTagged.proxy (h : s.ReTagged caller p t) (q : ProxyRef) :
    (s.proxy q).SameButChildren (t.proxy q) := by
  cases h with
  | untagged _ => exact ⟨(s.proxy q).children, rfl⟩
  | tagged _ _ => exact (sessionRun_perform _).proxy q

namespace Split

variable {anew : Bool}

theorem proxies_size (h : s.Split env caller p anew t) : t.proxies.size = s.proxies.size := by
  obtain ⟨-, -, hclosed, hmade, htagged⟩ := h
  rw [htagged.proxies_size, hmade.proxies_size, proxies_size_prepared, hclosed.proxies_size]

theorem splitProxy (h : s.Split env caller p anew t) : SplitProxy (s.proxy p) (t.proxy p) := by
  obtain ⟨-, -, hclosed, hmade, htagged⟩ := h
  obtain ⟨children, hchildren⟩ := hclosed.proxy p
  obtain ⟨creator, hcreator⟩ := proxy_prepared env _ p anew p
  obtain ⟨children', hchildren'⟩ := htagged.proxy p
  have hsplit := hmade.splitProxy
  rw [hcreator, hchildren] at hsplit
  rw [hchildren']
  exact ⟨hsplit.isFinished, hsplit.lastUserTag, hsplit.topLevelActionCount,
    hsplit.isSome_currentSession, hsplit.sameForLife⟩

theorem inUse (h : s.Split env caller p anew t) (hmade : p < s.proxies.size)
    (hunfinished : (s.proxy p).isFinished = false) : ∃ k, t.InUse p k := by
  have hproxy := h.splitProxy
  obtain ⟨k, hk⟩ := Option.isSome_iff_exists.mp hproxy.isSome_currentSession
  exact ⟨k, h.proxies_size ▸ hmade, hproxy.isFinished.trans hunfinished, hk⟩

/-- A session that has just been made has had no event. -/
theorem splitsByEvents (h : s.Split env caller p anew t) (hsplit : s.splitsByEvents p = true) :
    t.splitsByEvents p = false := by
  have hproxy := h.splitProxy
  rw [OpenKitInstance.splitsByEvents] at hsplit
  split at hsplit
  · cases hsplit
  next c hc =>
    obtain ⟨c', hc', hsame⟩ := hproxy.sameForLife c hc
    obtain ⟨henabled, -⟩ := Bool.and_eq_true_iff.mp hsplit
    obtain ⟨-, hpos⟩ := Bool.and_eq_true_iff.mp henabled
    have hlimit : 0 < c'.get.maxEventsPerSession := by
      rw [hsame.maxEventsPerSession]
      exact of_decide_eq_true hpos
    rw [OpenKitInstance.splitsByEvents, hc', hproxy.topLevelActionCount]
    dsimp only
    rw [decide_eq_false (not_le.mpr hlimit), Bool.and_false]

end Split

end OpenKitInstance

end OpenKit
