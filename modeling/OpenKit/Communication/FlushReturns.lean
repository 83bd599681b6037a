import OpenKit.Communication.FlushedSessions

/-!
# When the flush returns

The flush sends the data of a session to the end before it goes on to the next, and
`Beacon::send` may go on forever: when the prefix of its chunks is longer than the size that the
server has limited them to, each request is empty and is repeated after a successful answer. Then
the list of sessions is never emptied and the sender never comes to its end. So the flush achieves
what it is to, whatever the cache holds and the server answers, iff for each session that it sends
the data of a prefix fits again and again.

## Main definitions

* `SendsData`: the flush sends the data of a session
* `SendersFit`: the prefixes of these sessions fit again and again
* `FlushesAlways`: the flush returns and leaves nothing behind
* `Blocked`: the sessions to come hold one whose data cannot be sent

## Main results

* `isDataSendingAllowed_afterEnding`: which sessions the last pass sends the data of
* `flushSessions_return`, `Blocked.flushSession`: the turns of the last pass
* `flushesAlways_iff`: the flush achieves what it is to iff the prefixes fit
-/

namespace OpenKit

/-- A builder holds the splitting flags as the accessors read them, also when it is built on. -/
theorem ServerConfiguration.builder_withCapture_builder (c : ServerConfiguration)
    (capture : Bool) : (c.builder.withCapture capture).builder = c.builder.withCapture capture := by
  simp [builder, withCapture, isSessionSplitBySessionDurationEnabled,
    isSessionSplitByEventsEnabled, isSessionSplitByIdleTimeoutEnabled]

/-- Turning capturing on again changes nothing. -/
theorem Session.enableCapture_enableCapture (s : Session) :
    s.enableCapture.enableCapture = s.enableCapture := by
  have h := s.beacon.beaconConfiguration.getServerConfiguration.builder_withCapture_builder true
  exact congrArg (fun c => s.configure fun b =>
    { b with
      serverConfiguration := some (.made (c.withCapture true))
      isServerConfigurationSet := true }) h

namespace FlushSessionsState

open Thread BeaconSendingResponseUtil

/-- The flush sends the data of a session: it is allowed once the session has a configuration. -/
def SendsData (s : Session) : Prop :=
  (if s.isConfigured then s else s.enableCapture).isDataSendingAllowed = true

/-- For each session that the flush sends the data of, a prefix fits again and again. -/
def SendersFit (mutableBeaconData : BeaconKey → ℕ → UTF8String) (w : World) : Prop :=
  ∀ k ∈ w.context.sessions, SendsData (w.session k) →
    BeaconSend.PrefixesFitAgain mutableBeaconData k (w.session k)

/-- The world with another cache, after some number of requests. -/
def startingWith (w : World) (cache : BeaconCache) (numRequests : ℕ) : World :=
  { w with
    cache := cache
    numRequests := numRequests }

/-- Whatever the cache holds and the server answers, the flush returns, given enough rounds, and
leaves nothing behind. -/
def FlushesAlways (caller : Caller) (mutableBeaconData : BeaconKey → ℕ → UTF8String) (w : World) :
    Prop :=
  ∀ (response : ℕ → Option StatusResponse) (cache : BeaconCache) (numRequests : ℕ),
    ∃ n t, Flushed (startingWith w cache numRequests) t ∧ ∀ rounds ≥ n,
      (doExecute caller ⟨response, mutableBeaconData⟩ rounds).run
        (startingWith w cache numRequests) = (.ok (), t)

/-! ## The first passes -/

section Passes

variable {caller : Caller} {w : World} {k : BeaconKey}

/-- The first pass turns capturing on for a session, also if it comes to it more than once. -/
theorem session_foldl_enableCapture {ks : List BeaconKey} (hk : k ∈ ks) :
    (ks.foldl (fun w k => w.updateSession k (·.enableCapture)) w).session k =
      (w.session k).enableCapture := by
  have hagain (ks : List BeaconKey) (w : World)
      (hw : (w.session k).enableCapture = w.session k) :
      (ks.foldl (fun w k => w.updateSession k (·.enableCapture)) w).session k = w.session k := by
    induction ks generalizing w with
    | nil => rfl
    | cons k' ks ih =>
      have hstep : (w.updateSession k' (·.enableCapture)).session k = w.session k := by
        rw [World.session_updateSession]
        split
        · exact hw
        · rfl
      rw [List.foldl_cons, ih _ (hstep.symm ▸ hw), hstep]
  induction ks generalizing w with
  | nil => cases hk
  | cons k' ks ih =>
    rw [List.foldl_cons]
    by_cases heq : k = k'
    · subst heq
      have hstep : (w.updateSession k (·.enableCapture)).session k =
          (w.session k).enableCapture := by
        rw [World.session_updateSession, if_pos rfl]
      rw [hagain ks _ (by rw [hstep, Session.enableCapture_enableCapture]), hstep]
    · have hstep : (w.updateSession k' (·.enableCapture)).session k = w.session k := by
        rw [World.session_updateSession, if_neg heq]
      rw [ih ((List.mem_cons.mp hk).resolve_left heq), hstep]

/-- A pass over other sessions leaves a session alone. -/
theorem session_foldl_enableCapture_of_not_mem {ks : List BeaconKey} (hk : k ∉ ks) :
    (ks.foldl (fun w k => w.updateSession k (·.enableCapture)) w).session k = w.session k := by
  induction ks generalizing w with
  | nil => rfl
  | cons k' ks ih =>
    obtain ⟨hne, hks⟩ := not_or.mp (mt List.mem_cons.mpr hk)
    rw [List.foldl_cons, ih hks, World.session_updateSession, if_neg hne]

theorem session_afterEnabling (hk : k ∈ w.context.sessions) :
    (afterEnabling w).session k =
      if (w.session k).isConfigured then w.session k else (w.session k).enableCapture := by
  rw [afterEnabling]
  split
  next hconfigured =>
    refine session_foldl_enableCapture_of_not_mem fun hmem => ?_
    rw [List.mem_filter, hconfigured] at hmem
    exact Bool.false_ne_true hmem.2
  next hconfigured =>
    refine session_foldl_enableCapture (List.mem_filter.mpr ⟨hk, ?_⟩)
    rw [Bool.not_eq_true] at hconfigured
    rw [hconfigured]
    rfl

/-- Ending a session changes nothing that decides about sending. -/
theorem isDataSendingAllowed_report (k' : BeaconKey) :
    ((w.report k' (SessionCalls.endWith caller false)).session k).isDataSendingAllowed =
      (w.session k).isDataSendingAllowed := by
  rw [session_report]
  split
  next hk =>
    subst hk
    have hcall : CallStepOf (fun _ => True) ⟨w.session k, 0, []⟩
        (w.afterReport k (SessionCalls.endWith caller false)) :=
      (SessionCalls.guarantees_endWith trivial trivial fun _ => trivial).run CallStepOf.refl
        (fun _ _ _ => CallStepOf.trans) rfl
    have henabled := hcall.beacon.isDataCapturingEnabled
    have hconfiguration := hcall.beacon.beaconConfiguration
    simp only [Reporting.beacon] at henabled hconfiguration
    rw [Session.isDataSendingAllowed, Session.isConfigured, henabled, hconfiguration]
    rfl
  next => rfl

theorem isDataSendingAllowed_afterEnding :
    ((afterEnding caller w).session k).isDataSendingAllowed =
      (w.session k).isDataSendingAllowed := by
  rw [afterEnding]
  generalize w.context.sessions.filter _ = ks
  induction ks generalizing w with
  | nil => rfl
  | cons k' ks ih => rw [List.foldl_cons, ih, isDataSendingAllowed_report]

/-- **The sessions that the last pass sends the data of.** -/
theorem isDataSendingAllowed_iff_sendsData (hk : k ∈ w.context.sessions) :
    ((afterEnding caller (afterEnabling w)).session k).isDataSendingAllowed = true ↔
      SendsData (w.session k) := by
  rw [isDataSendingAllowed_afterEnding, session_afterEnabling hk, SendsData]

theorem passStep_passes (caller : Caller) (w : World) :
    PassStep w (afterEnding caller (afterEnabling w)) :=
  (passStep_afterEnabling w).trans (passStep_afterEnding caller _)

end Passes

/-! ## The return of the flush -/

section Return

variable {env : Environment} {u : World}

/-- A turn returns, given enough rounds, if the prefixes fit in case the data is sent. -/
theorem flushSession_returns {k : BeaconKey}
    (hfit : (u.session k).isDataSendingAllowed = true →
      BeaconSend.PrefixesFitAgain env.mutableBeaconData k (u.session k)) (tooMany : Bool) :
    ∃ n tooMany' t, (∀ rounds ≥ n,
      (flushSession env rounds k tooMany).run u = (.ok (.yield tooMany'), t)) ∧
        t.sessions = u.sessions := by
  cases hsend : !tooMany && (u.session k).isDataSendingAllowed with
  | false =>
    refine ⟨0, tooMany, afterRemoval k u, fun rounds _ => ?_, rfl⟩
    rw [flushSession, Program.run_bind_ok (Program.run_read _ u), hsend,
      if_neg Bool.false_ne_true, Program.run_bind_ok run_removeFlushed]
    rfl
  | true =>
    have hallowed : (u.session k).isDataSendingAllowed = true := (Bool.and_eq_true_iff.mp hsend).2
    obtain ⟨n, answer, t, hrun⟩ := (hfit hallowed).send_returns env.response rfl
    have hsessions := (BeaconSend.sendStep_of_run hrun).sessions
    refine ⟨n, isTooManyRequestsResponse answer,
      afterRemoval k (t.write (.sent t.phase k answer)), fun rounds hn => ?_, hsessions⟩
    -- more rounds do not change what the send does
    have hmore : (BeaconSend.send env rounds k).run u = (.ok answer, t) :=
      (Program.run_bind_ok (Program.run_write _ u)).trans (Program.run_loop_le hn hrun)
    rw [flushSession, Program.run_bind_ok (Program.run_read _ u), hsend, if_pos rfl,
      Program.run_bind_ok (CaptureOnState.run_sendBeacon hmore),
      Program.run_bind_ok run_removeFlushed]
    rfl

/-- The last pass returns, by induction on the sessions. -/
theorem flushSessions_return {ks : List BeaconKey}
    (hfit : ∀ k ∈ ks, (u.session k).isDataSendingAllowed = true →
      BeaconSend.PrefixesFitAgain env.mutableBeaconData k (u.session k)) (tooMany : Bool) :
    ∃ n r t, ∀ rounds ≥ n,
      (Program.forEach (flushSession env rounds) ks tooMany).run u = (.ok r, t) := by
  induction ks generalizing u tooMany with
  | nil => exact ⟨0, _, u, fun _ _ => rfl⟩
  | cons k ks ih =>
    obtain ⟨hk, hks⟩ := List.forall_mem_cons.mp hfit
    obtain ⟨n, tooMany', t, hrun, hsessions⟩ := flushSession_returns hk tooMany
    have hks' : ∀ k ∈ ks, (t.session k).isDataSendingAllowed = true →
        BeaconSend.PrefixesFitAgain env.mutableBeaconData k (t.session k) := by
      intro k' hk'
      rw [World.session, hsessions]
      exact hks k' hk'
    obtain ⟨n', r, t', hrest⟩ := ih hks' tooMany'
    refine ⟨max n n', r, t', fun rounds hn => ?_⟩
    rw [Program.run_forEach_yield (hrun rounds (le_trans (le_max_left _ _) hn))]
    exact hrest rounds (le_trans (le_max_right _ _) hn)

variable {caller : Caller} {mutableBeaconData : BeaconKey → ℕ → UTF8String} {w : World}

/-- Prefixes that fit again and again let the flush return. -/
theorem SendersFit.doExecute_returns (h : SendersFit env.mutableBeaconData w)
    (hsettled : ∀ k ∈ w.context.sessions, (w.session k).Settled) :
    ∃ n t, ∀ rounds ≥ n, (doExecute caller env rounds).run w = (.ok (), t) := by
  have hfit : ∀ k ∈ w.context.sessions,
      ((afterEnding caller (afterEnabling w)).session k).isDataSendingAllowed = true →
        BeaconSend.PrefixesFitAgain env.mutableBeaconData k
          ((afterEnding caller (afterEnabling w)).session k) := by
    intro k hk hallowed
    rw [((passStep_passes caller w).chunks k).prefixesFitAgain]
    exact h k hk ((isDataSendingAllowed_iff_sendsData hk).mp hallowed)
  obtain ⟨n, r, u, hloop⟩ :=
    flushSessions_return (u := (afterEnding caller (afterEnabling w)).enter .flushing) hfit false
  refine ⟨n, u.setContext (u.context.setNextState .terminal), fun rounds hn => ?_⟩
  rw [run_doExecute, (filter_afterEnding caller hsettled).1, Program.run_bind_ok (hloop rounds hn)]
  rfl

theorem SendersFit.flushesAlways (h : SendersFit mutableBeaconData w)
    (hsettled : ∀ k ∈ w.context.sessions, (w.session k).Settled) :
    FlushesAlways caller mutableBeaconData w := by
  intro response cache numRequests
  have hstart : SendersFit mutableBeaconData (startingWith w cache numRequests) := h
  obtain ⟨n, t, hrun⟩ : ∃ n t, ∀ rounds ≥ n,
      (doExecute caller ⟨response, mutableBeaconData⟩ rounds).run
        (startingWith w cache numRequests) = (.ok (), t) := hstart.doExecute_returns hsettled
  exact ⟨n, t, flushed_of_run_doExecute (w := startingWith w cache numRequests) hsettled
    (hrun n (le_refl n)), hrun⟩

end Return

/-! ## A flush that does not return -/

/-- Among the sessions to come is one whose data is to be sent, a record of which waits, and whose
prefixes do not fit any more. -/
structure Blocked (mutableBeaconData : BeaconKey → ℕ → UTF8String) (k : BeaconKey)
    (rest : List BeaconKey) (tooManyRequestsReceived : Bool) (u : World) : Prop where
  mem : k ∈ rest
  tooMany : tooManyRequestsReceived = false
  allowed : (u.session k).isDataSendingAllowed = true
  waits : BeaconSend.Waits k u
  late : ∀ n, u.numRequests ≤ n → ¬ BeaconSend.PrefixFits mutableBeaconData k (u.session k) n

section Blocked

variable {mutableBeaconData : BeaconKey → ℕ → UTF8String} {k k' : BeaconKey}
  {rest : List BeaconKey} {tooMany : Bool} {rounds : ℕ} {u t : World}

theorem Blocked.afterRemoval (h : Blocked mutableBeaconData k (k' :: rest) tooMany u)
    (hk : k ≠ k') : Blocked mutableBeaconData k rest tooMany (afterRemoval k' u) := by
  refine ⟨(List.mem_cons.mp h.mem).resolve_left hk, h.tooMany, h.allowed, h.waits.of_entryAt ?_,
    h.late⟩
  show (u.cache.deleteCacheEntry k').entryAt k = u.cache.entryAt k
  rw [BeaconCache.entryAt_deleteCacheEntry, if_neg hk]

/-- A send for another session. -/
theorem Blocked.send (h : Blocked mutableBeaconData k rest tooMany u) (hk : k ≠ k')
    {answer : Option Answer}
    (hrun : (BeaconSend.send ⟨BeaconSend.successfulResponse, mutableBeaconData⟩ rounds k').run u =
      (.ok answer, t)) :
    Blocked mutableBeaconData k rest (isTooManyRequestsResponse answer) t := by
  have hstep := BeaconSend.sendStep_of_run hrun
  obtain ⟨hle, hanswer⟩ := BeaconSend.run_send_successfulResponse hrun
  refine ⟨h.mem, hanswer, ?_, h.waits.of_entryAt (hstep.entryAt k hk), fun n hn => ?_⟩
  · rw [hstep.session k]
    exact h.allowed
  · rw [hstep.session k]
    exact h.late n (hle.trans hn)

/-- **A turn of the last pass** that returned was that of another session. -/
theorem Blocked.flushSession (h : Blocked mutableBeaconData k (k' :: rest) tooMany u)
    {r : ForInStep Bool}
    (hrun : (flushSession ⟨BeaconSend.successfulResponse, mutableBeaconData⟩ rounds k'
      tooMany).run u = (.ok r, t)) :
    Program.Round (Blocked mutableBeaconData k rest) (fun _ _ => False) r t := by
  rw [FlushSessionsState.flushSession, Program.run_bind_ok (Program.run_read _ u)] at hrun
  by_cases hk : k = k'
  · -- the turn of the session itself is its send, which goes on forever
    subst hk
    obtain ⟨v, hdiverges⟩ :=
      BeaconSend.send_diverges h.late rfl (le_refl _) h.waits.hasUnmarked rounds
    rw [if_pos (by rw [h.tooMany, h.allowed]; rfl)] at hrun
    obtain ⟨answer, v', hsend, -⟩ := Program.run_bind_eq_ok.mp hrun
    obtain ⟨answer', v'', hsend', -⟩ := Program.run_bind_eq_ok.mp hsend
    rw [hdiverges] at hsend'
    cases hsend'
  · split at hrun
    next =>
      obtain ⟨answer, v, hsend, hrest⟩ := Program.run_bind_eq_ok.mp hrun
      rw [Program.run_bind_ok run_removeFlushed] at hrest
      obtain ⟨hr, rfl⟩ := Prod.mk.inj hrest
      obtain rfl := Except.ok.inj hr
      obtain ⟨answer', v', hsend', hwrite⟩ := Program.run_bind_eq_ok.mp hsend
      rw [Program.run_bind_ok (Program.run_write _ v')] at hwrite
      obtain ⟨hr, rfl⟩ := Prod.mk.inj hwrite
      obtain rfl := Except.ok.inj hr
      obtain ⟨hmem, htooMany, hallowed, hwaits, hlate⟩ := h.send hk hsend'
      exact Blocked.afterRemoval ⟨hmem, htooMany, hallowed, hwaits, hlate⟩ hk
    next =>
      rw [Program.run_bind_ok run_removeFlushed] at hrun
      obtain ⟨hr, rfl⟩ := Prod.mk.inj hrun
      obtain rfl := Except.ok.inj hr
      exact h.afterRemoval hk

/-- The last pass never comes to the end of its list. -/
theorem Blocked.not_return (h : Blocked mutableBeaconData k rest false u) {r : ForInStep Bool} :
    (Program.forEach (FlushSessionsState.flushSession
      ⟨BeaconSend.successfulResponse, mutableBeaconData⟩ rounds) rest false).run u ≠ (.ok r, t) := by
  intro hrun
  have hdone := Program.run_forEach_ok
    (J := fun rest tooMany u => Blocked mutableBeaconData k rest tooMany u)
    (Q := fun _ _ => False) (fun k' rest tooMany u r u' hu hrun => hu.flushSession hrun) h hrun
  cases r with
  | done tooMany => exact hdone
  | yield tooMany => exact List.not_mem_nil hdone.mem

variable {caller : Caller} {w : World}

/-- **The flush never returns** if from its start on no prefix of a session fits that it is to send
a record of. -/
theorem not_return_of_waits (hsettled : ∀ k ∈ w.context.sessions, (w.session k).Settled)
    (hk : k ∈ w.context.sessions) (hsends : SendsData (w.session k))
    (hwaits : BeaconSend.Waits k w)
    (hlate : ∀ n, w.numRequests ≤ n →
      ¬ BeaconSend.PrefixFits mutableBeaconData k (w.session k) n) :
    (doExecute caller ⟨BeaconSend.successfulResponse, mutableBeaconData⟩ rounds).run w ≠
      (.ok (), t) := by
  intro hrun
  have hpasses := passStep_passes caller w
  have hchunks := hpasses.chunks k
  rw [run_doExecute, (filter_afterEnding caller hsettled).1] at hrun
  obtain ⟨r, u, hloop, -⟩ := Program.run_bind_eq_ok.mp hrun
  have hblocked : Blocked mutableBeaconData k w.context.sessions false
      ((afterEnding caller (afterEnabling w)).enter .flushing) := by
    refine ⟨hk, rfl, (isDataSendingAllowed_iff_sendsData hk).mpr hsends,
      (hpasses.waits k hwaits).of_entryAt rfl, fun n hn => ?_⟩
    have hnot := hlate n (hpasses.numRequests ▸ hn)
    rw [BeaconSend.PrefixFits, BeaconSend.beaconPrefix] at hnot ⊢
    rwa [World.session_enter, hchunks.maxChunkSize, hchunks.immutableBasicBeaconData]
  exact hblocked.not_return hloop

end Blocked

/-- A cache with one record of a beacon. -/
def oneRecordCache (k : BeaconKey) : BeaconCache := .addEventData .empty k 0 (.ofAscii ['e'])

theorem waits_oneRecordCache (w : World) (k : BeaconKey) (numRequests : ℕ) :
    BeaconSend.Waits k (startingWith w (oneRecordCache k) numRequests) := by
  have hentry : (oneRecordCache k).entryAt k =
      BeaconCacheEntry.new.addEventData (.new 0 (.ofAscii ['e'])) := by
    rw [oneRecordCache, BeaconCache.entryAt_addEventData, if_pos rfl, BeaconCache.entryAt_empty]
  show (∀ kind, ((oneRecordCache k).entryAt k).sending kind = []) ∧
    ∃ kind, ∃ r ∈ ((oneRecordCache k).entryAt k).active kind, r.markedForSending = false
  rw [hentry]
  refine ⟨fun kind => ?_, .event, _, List.mem_singleton_self _, rfl⟩
  cases kind <;> rfl

/-- **The flush leaves nothing behind** once it has returned, and it returns whatever the cache
holds and the server answers iff for each session that it sends the data of a prefix fits again and
again. -/
theorem flushesAlways_iff (caller : Caller) (mutableBeaconData : BeaconKey → ℕ → UTF8String)
    (w : World) (hsettled : ∀ k ∈ w.context.sessions, (w.session k).Settled) :
    (∀ response rounds t,
      (doExecute caller ⟨response, mutableBeaconData⟩ rounds).run w = (.ok (), t) → Flushed w t) ∧
      (FlushesAlways caller mutableBeaconData w ↔ SendersFit mutableBeaconData w) := by
  refine ⟨fun response rounds t => flushed_of_run_doExecute hsettled, fun hflushes => ?_,
    fun hfit => hfit.flushesAlways hsettled⟩
  intro k hk hsends n
  by_contra hnone
  have hlate : ∀ m, n ≤ m → ¬ BeaconSend.PrefixFits mutableBeaconData k (w.session k) m :=
    fun m hle hfits => hnone ⟨m, hle, hfits⟩
  obtain ⟨rounds, t, -, hrun⟩ :=
    hflushes BeaconSend.successfulResponse (oneRecordCache k) n
  exact not_return_of_waits (w := startingWith w (oneRecordCache k) n) hsettled hk hsends
    (waits_oneRecordCache w k n) hlate (hrun rounds (le_refl _))

/-! ## Two flushes -/

/-- An open session without a configuration, with an action in which a web request is open. -/
def openSession : Session :=
  { Session.new (.new (.new ⟨.userBehavior, .optInCrashes⟩) 0 0 .nil) with
    wasTriedForEnding := true
    children := [.action ⟨.ofAscii ['a'], rfl, 0, -1, 1, -1, 1, 0⟩
      [.webRequest ⟨1, .ofAscii ['u'], rfl, -1, -1, -1, 0, -1, 2, -1⟩]] }

/-- An open session, a finished one, and a server that asks for a pause. -/
def twoSessions : World :=
  { World.new (fun k => if k = ⟨1, 0⟩ then openSession else CaptureOnState.finishedSession)
      ((BeaconSendingContext.new ⟨1, .nil⟩).addSession ⟨1, 0⟩ |>.addSession ⟨2, 0⟩) with
    cache := BeaconCache.empty.addEventData ⟨2, 0⟩ 0 (.ofAscii ['e']) }

theorem settled_twoSessions (k : BeaconKey) (hk : k ∈ twoSessions.context.sessions) :
    (twoSessions.session k).Settled := by
  rcases List.mem_cons.mp hk with rfl | hk
  · exact ⟨rfl, fun h => by cases h⟩
  · obtain rfl := List.mem_singleton.mp hk
    exact ⟨rfl, fun _ => rfl⟩

/-- No beacon has data that changes with time. -/
def noMutableData (_ : BeaconKey) (_ : ℕ) : UTF8String := .nil

theorem sendersFit_twoSessions : SendersFit noMutableData twoSessions := by
  intro k hk _ n
  refine ⟨n, le_refl n, ?_⟩
  rcases List.mem_cons.mp hk with rfl | hk
  · show BeaconSend.PrefixFits noMutableData ⟨1, 0⟩ openSession 0
    decide
  · obtain rfl := List.mem_singleton.mp hk
    show BeaconSend.PrefixFits noMutableData ⟨2, 0⟩ CaptureOnState.finishedSession 0
    decide

/-- The world after the flush of the two sessions by a server that asks for a pause. -/
def afterFlush : World :=
  ((doExecute ⟨0, fun _ => 0⟩ ⟨fun _ => some (.createErrorResponse 429), noMutableData⟩ 1).run
    twoSessions).2

/-- Both sessions are gone after one request, and would be whatever the answers are. -/
theorem flushed_of_twoSessions :
    (Flushed twoSessions afterFlush ∧ (requests afterFlush.log).length = 1) ∧
      FlushesAlways ⟨0, fun _ => 0⟩ noMutableData twoSessions := by
  obtain ⟨hflushed, hiff⟩ :=
    flushesAlways_iff ⟨0, fun _ => 0⟩ noMutableData twoSessions settled_twoSessions
  exact ⟨⟨hflushed _ 1 _ (Prod.ext rfl rfl), by decide⟩, hiff.mpr sendersFit_twoSessions⟩

/-- A finished session whose chunks are limited to nothing, with one event in the cache. -/
def oneKilobyteWorld : World :=
  { World.new (fun _ => BeaconSend.oneKilobyteSession.markAsFinished)
      ((BeaconSendingContext.new ⟨1, .nil⟩).addSession ⟨1, 0⟩) with
    cache := oneRecordCache ⟨1, 0⟩ }

/-- The flush of such a session by a server that answers each request successfully. -/
def oneKilobyteFlush (rounds : ℕ) : Except SendFault Unit × World :=
  (doExecute ⟨0, fun _ => 0⟩ ⟨BeaconSend.successfulResponse, noMutableData⟩ rounds).run
    oneKilobyteWorld

/-- No number of rounds is enough. -/
theorem not_flushes : ¬ ∃ rounds t, oneKilobyteFlush rounds = (.ok (), t) := by
  rintro ⟨rounds, t, hflush⟩
  have hsettled : ∀ k ∈ oneKilobyteWorld.context.sessions,
      (oneKilobyteWorld.session k).Settled := fun _ _ => ⟨rfl, fun _ => rfl⟩
  refine not_return_of_waits (k := ⟨1, 0⟩) hsettled (List.mem_singleton_self _) ?_
    (waits_oneRecordCache oneKilobyteWorld ⟨1, 0⟩ 0) (fun n _ => ?_) hflush
  · unfold SendsData
    decide
  · show ¬ BeaconSend.PrefixFits noMutableData ⟨1, 0⟩ BeaconSend.oneKilobyteSession 0
    decide

end FlushSessionsState

end OpenKit
