import OpenKit.Communication.FinishedSessions
import OpenKit.Communication.FlushSessionsState
import OpenKit.Communication.SendReturns

/-!
# What the flush leaves behind

The flush goes over the sessions three times. The first pass configures the sessions that are not
configured, the second ends those that are open, and each pass selects its sessions anew. What the
passes leave is described after each of them, so that the last one is seen to go over all sessions.

## Main definitions

* `NothingAfterTooManyRequests`: no request for a chunk follows an answer that asked for a pause
* `PassStep`: what the steps of the first passes do alike
* `afterEnabling`, `afterEnding`: the worlds after the first passes
* `Flushed`: what the flush achieves

## Main results

* `configured_afterEnabling`, `finished_afterEnding`: what the first passes leave
* `flushed_of_run_doExecute`: what holds when the flush has returned
-/

namespace OpenKit

open Thread BeaconSendingResponseUtil

/-- No request for a chunk follows one that was answered by too many requests. -/
def NothingAfterTooManyRequests (events : List Event) : Prop :=
  (requests events).Pairwise fun request _ => isTooManyRequestsResponse request.2 = false

/-- No request for a chunk was answered by too many requests. -/
def NoTooManyRequests (events : List Event) : Prop :=
  ∀ request ∈ requests events, isTooManyRequestsResponse request.2 = false

section Requests

variable {events events' : List Event}

theorem NoTooManyRequests.append (h : NoTooManyRequests events)
    (h' : NoTooManyRequests events') : NoTooManyRequests (events ++ events') := by
  rw [NoTooManyRequests, requests_append]
  exact List.forall_mem_append.mpr ⟨h, h'⟩

theorem NoTooManyRequests.nothingAfter_append (h : NoTooManyRequests events)
    (h' : NothingAfterTooManyRequests events') : NothingAfterTooManyRequests (events ++ events') := by
  rw [NothingAfterTooManyRequests, requests_append]
  exact List.pairwise_append.mpr ⟨List.pairwise_of_forall_mem_list fun r hr _ _ => h r hr, h',
    fun r hr _ _ => h r hr⟩

/-- A successful answer does not ask for a pause. -/
theorem isTooManyRequestsResponse_of_successful {answer : Option Answer}
    (h : isSuccessfulResponse answer = true) : isTooManyRequestsResponse answer = false := by
  cases answer with
  | none => rfl
  | some answer =>
    rw [Bool.eq_false_iff]
    intro hmany
    rw [isSuccessfulResponse, StatusResponse.isErroneousResponse_of_tooManyRequests hmany] at h
    cases h

end Requests

/-- What was requested from `w` on: nothing after too many requests, and if the last of the answers
was another, none of them asked for a pause. -/
def Requested (w t : World) (tooManyRequestsReceived : Bool) : Prop :=
  ∃ new, t.log = w.log ++ new ∧ NothingAfterTooManyRequests new ∧
    (tooManyRequestsReceived = false → NoTooManyRequests new)

namespace Requested

variable {w t u : World} {tooMany : Bool}

theorem refl (w : World) (tooMany : Bool) : Requested w w tooMany :=
  ⟨[], (List.append_nil _).symm, .nil, fun _ => List.forall_mem_nil _⟩

/-- As long as nothing asked for a pause, more may be requested. -/
theorem trans (h : Requested w t false) (h' : Requested t u tooMany) : Requested w u tooMany := by
  obtain ⟨new, hlog, -, hnone⟩ := h
  obtain ⟨new', hlog', hafter, hnone'⟩ := h'
  refine ⟨new ++ new', ?_, (hnone rfl).nothingAfter_append hafter, fun hfalse => ?_⟩
  · rw [hlog', hlog, List.append_assoc]
  · exact (hnone rfl).append (hnone' hfalse)

/-- Steps that request nothing. -/
theorem quiet (h : Requested w t tooMany) {new : List Event} (hlog : u.log = t.log ++ new)
    (hnew : requests new = []) : Requested w u tooMany := by
  obtain ⟨old, hold, hafter, hnone⟩ := h
  have hrequests : requests (old ++ new) = requests old := by
    rw [requests_append, hnew, List.append_nil]
  refine ⟨old ++ new, ?_, ?_, fun hfalse => ?_⟩
  · rw [hlog, hold, List.append_assoc]
  · rwa [NothingAfterTooManyRequests, hrequests]
  · rw [NoTooManyRequests, hrequests]
    exact hnone hfalse

end Requested

/-! ## Sending -/

namespace BeaconSend

variable {env : Environment} {rounds : ℕ} {k : BeaconKey} {w t : World}

/-- A round requests one chunk. -/
theorem requested_afterRound :
    Requested w (afterRound env k w) (isTooManyRequestsResponse (answerAt env w)) := by
  obtain ⟨new, hlog, hnew⟩ := requests_log_afterRound env k w
  refine ⟨new, hlog, ?_, fun hfalse => ?_⟩
  · rw [NothingAfterTooManyRequests, hnew]
    exact List.pairwise_singleton _ _
  · rw [NoTooManyRequests, hnew]
    exact List.forall_mem_singleton.mpr hfalse

/-- **A send** stops at the first answer that asks for a pause, and returns it. -/
theorem requested_of_run_send {answer : Option Answer}
    (h : (send env rounds k).run w = (.ok answer, t)) :
    Requested w t (isTooManyRequestsResponse answer) := by
  rw [send, prepareDataForSending, Program.run_bind_ok (Program.run_write _ w)] at h
  have hprepared : Requested w (w.setCache (w.cache.prepareDataForSending k)) false :=
    (Requested.refl w false).quiet (List.append_nil _).symm rfl
  refine Program.run_loop_ok
    (J := fun a u => Requested w u false ∧ isTooManyRequestsResponse a = false)
    (Q := fun a u => Requested w u (isTooManyRequestsResponse a)) (fun a u r u' hj hrun => ?_)
    ⟨hprepared, rfl⟩ h
  obtain ⟨hrequested, hfalse⟩ := hj
  cases hdata : u.cache.hasDataForSending k with
  | false =>
    rw [run_sendChunk_of_no_data hdata] at hrun
    obtain ⟨hr, rfl⟩ := Prod.mk.inj hrun
    obtain rfl := Except.ok.inj hr
    show Requested w u (isTooManyRequestsResponse a)
    rwa [hfalse]
  | true =>
    rw [run_sendChunk_of_data hdata] at hrun
    obtain ⟨hr, rfl⟩ := Prod.mk.inj hrun
    obtain rfl := Except.ok.inj hr
    have hround : Requested w (afterRound env k u) (isTooManyRequestsResponse (answerAt env u)) :=
      hrequested.trans requested_afterRound
    split
    next hsuccess =>
      have hnot := isTooManyRequestsResponse_of_successful hsuccess
      rw [hnot] at hround
      exact ⟨hround, hnot⟩
    next => exact hround

/-- No action of a send makes an entry of the cache. -/
def MakesNoEntry (w w' : World) : Prop :=
  ∀ k, w.cache.getCachedEntry k = none → w'.cache.getCachedEntry k = none

theorem guarantees_makesNoEntry_send :
    Program.Guarantees MakesNoEntry (send env rounds k) := by
  have hread {α : Type} (f : World → α) :
      Program.Guarantees MakesNoEntry (Program.read f : Sender α) :=
    Program.guarantees_atomic fun _ _ h => h
  refine Program.Guarantees.bind (Program.guarantees_atomic fun w k' h =>
    BeaconCache.getCachedEntry_prepareDataForSending h) fun _ => ?_
  refine Program.guarantees_loop (fun response => ?_) rounds none
  refine (hread _).bind fun hasData => ?_
  split
  · trivial
  refine (hread _).bind fun chunkPrefix => ?_
  refine (hread _).bind fun maxSize => ?_
  refine Program.Guarantees.bind (Program.guarantees_atomic fun w k' h =>
    BeaconCache.getCachedEntry_getNextBeaconChunk h) fun chunk => ?_
  split
  · trivial
  refine Program.Guarantees.bind (Program.guarantees_atomic fun w k' h => h) fun answer => ?_
  split
  · exact Program.Guarantees.bind (Program.guarantees_atomic fun w k' h =>
      BeaconCache.getCachedEntry_removeChunkedData h) fun _ => trivial
  · exact Program.Guarantees.bind (Program.guarantees_atomic fun w k' h =>
      BeaconCache.getCachedEntry_resetChunkedData h) fun _ => trivial

end BeaconSend

namespace FlushSessionsState

/-! ## The first passes -/

/-- Two states of a session whose chunks have the same prefixes and the same size limit. -/
structure SameChunks (s s' : Session) : Prop where
  immutableBasicBeaconData :
    s'.beacon.immutableBasicBeaconData = s.beacon.immutableBasicBeaconData
  maxChunkSize : BeaconSend.maxChunkSize s' = BeaconSend.maxChunkSize s

theorem SameChunks.prefixesFitAgain {mutableBeaconData : BeaconKey → ℕ → UTF8String}
    {k : BeaconKey} {s s' : Session} (h : SameChunks s s') :
    BeaconSend.PrefixesFitAgain mutableBeaconData k s' ↔
      BeaconSend.PrefixesFitAgain mutableBeaconData k s := by
  simp only [BeaconSend.PrefixesFitAgain, BeaconSend.PrefixFits, h.maxChunkSize,
    BeaconSend.beaconPrefix, h.immutableBasicBeaconData]

/-- What the steps of the first passes do alike: no session is opened again or loses its
configuration, nothing is requested and no record taken. -/
structure PassStep (w u : World) : Prop where
  context : u.context = w.context
  numRequests : u.numRequests = w.numRequests
  waits : ∀ k, BeaconSend.Waits k w → BeaconSend.Waits k u
  log : ∃ new, u.log = w.log ++ new ∧ requests new = []
  settled : ∀ k, (w.session k).Settled → (u.session k).Settled
  configured : ∀ k, (w.session k).isConfigured = true → (u.session k).isConfigured = true
  finished : ∀ k, (w.session k).isSessionFinished = true → (u.session k).isSessionFinished = true
  chunks : ∀ k, SameChunks (w.session k) (u.session k)

namespace PassStep

variable {w u v : World}

theorem refl (w : World) : PassStep w w :=
  ⟨rfl, rfl, fun _ => id, ⟨[], (List.append_nil _).symm, rfl⟩, fun _ => id, fun _ => id, fun _ => id,
    fun _ => ⟨rfl, rfl⟩⟩

theorem trans (h : PassStep w u) (h' : PassStep u v) : PassStep w v := by
  obtain ⟨new, hlog, hnew⟩ := h.log
  obtain ⟨new', hlog', hnew'⟩ := h'.log
  refine ⟨h'.context.trans h.context, h'.numRequests.trans h.numRequests,
    fun k => h'.waits k ∘ h.waits k, ⟨new ++ new', ?_, ?_⟩, fun k => h'.settled k ∘ h.settled k,
    fun k => h'.configured k ∘ h.configured k, fun k => h'.finished k ∘ h.finished k, fun k => ?_⟩
  · rw [hlog', hlog, List.append_assoc]
  · rw [requests_append, hnew, hnew']
    rfl
  · exact ⟨(h'.chunks k).1.trans (h.chunks k).1, (h'.chunks k).2.trans (h.chunks k).2⟩

variable {f : BeaconKey → World → World}

theorem foldl (hf : ∀ k w, PassStep w (f k w)) (ks : List BeaconKey) (w : World) :
    PassStep w (ks.foldl (fun w k => f k w) w) := by
  induction ks generalizing w with
  | nil => exact refl w
  | cons k ks ih => exact (hf k w).trans (ih _)

/-- What one step achieves for its session, the pass achieves for all of them. -/
theorem of_mem_foldl (hf : ∀ k w, PassStep w (f k w)) {P : Session → Prop}
    (hkeep : ∀ {w u} k, PassStep w u → P (w.session k) → P (u.session k))
    (hstep : ∀ k w, (w.session k).Settled → P ((f k w).session k)) {ks : List BeaconKey}
    {k : BeaconKey} (hk : k ∈ ks) (hsettled : (w.session k).Settled) :
    P ((ks.foldl (fun w k => f k w) w).session k) := by
  induction ks generalizing w with
  | nil => cases hk
  | cons k' ks ih =>
    rw [List.foldl_cons]
    rcases List.mem_cons.mp hk with rfl | hk
    · exact hkeep k (foldl hf ks _) (hstep k w hsettled)
    · exact ih hk ((hf k' w).settled k hsettled)

end PassStep

section Passes

variable {k : BeaconKey} {w : World}

theorem passStep_enableCapture (k : BeaconKey) (w : World) :
    PassStep w (w.updateSession k (·.enableCapture)) := by
  refine ⟨rfl, rfl, fun _ => id, ⟨[], (List.append_nil _).symm, rfl⟩, fun k' h => ?_,
    fun k' h => ?_, fun k' h => ?_, fun k' => ?_⟩
  all_goals
    rw [World.session_updateSession]
    split
  · exact ⟨h.finishing, h.children⟩
  · exact h
  · rfl
  · exact h
  · exact h
  · exact h
  · exact ⟨rfl, rfl⟩
  · exact ⟨rfl, rfl⟩

variable {caller : Caller}

/-- Ending a session that is ended already does nothing. -/
theorem run_endWith_of_finished {s : Reporting} (hfinished : s.session.isSessionFinished = true) :
    (SessionCalls.endWith caller false).run s = (.ok (), s) := by
  have hended : s.session.isFinishingOrFinished = true := by
    rw [Session.isFinishingOrFinished, hfinished, Bool.or_true]
  rw [SessionCalls.endWith, Program.run_bind_ok (Program.run_read _ s), if_pos hended]
  rfl

theorem session_report (k' : BeaconKey) (p : Reporter Unit) :
    (w.report k p).session k' =
      if k' = k then (w.afterReport k p).session else w.session k' := by
  rw [World.report, World.session_updateSession, World.session_addRecords]

/-- The session after its end is finished. -/
theorem finished_afterReport (h : (w.session k).Settled) :
    (w.afterReport k (SessionCalls.endWith caller false)).session.isSessionFinished = true := by
  rw [World.afterReport]
  cases hfinished : (w.session k).isSessionFinished with
  | true =>
    rw [run_endWith_of_finished hfinished]
    exact hfinished
  | false =>
    obtain ⟨s, hrun, -, hdone, -⟩ : ∃ s, (SessionCalls.endWith caller false).run
        ⟨w.session k, 0, []⟩ = (.ok (), s) ∧ _ :=
      SessionCalls.run_endWith false (h.isOpen hfinished)
    rw [hrun]
    exact hdone

theorem settled_afterReport (h : (w.session k).Settled) :
    (w.afterReport k (SessionCalls.endWith caller false)).session.Settled := by
  rw [World.afterReport]
  cases hfinished : (w.session k).isSessionFinished with
  | true =>
    rw [run_endWith_of_finished hfinished]
    exact h
  | false =>
    exact SessionCalls.settles_endWith false ⟨w.session k, 0, []⟩ _ _ (h.isOpen hfinished) rfl

theorem numRequests_addRecords (k : BeaconKey) (records : List BeaconRecord) :
    (w.addRecords k records).numRequests = w.numRequests := by
  induction records generalizing w with
  | nil => rfl
  | cons record records ih => exact ih

/-- Records that are reported leave those that wait. -/
theorem waits_addRecords {k' : BeaconKey} (h : BeaconSend.Waits k' w) (k : BeaconKey)
    (records : List BeaconRecord) : BeaconSend.Waits k' (w.addRecords k records) := by
  induction records generalizing w with
  | nil => exact h
  | cons record records ih => exact ih (h.addData k record.kind record.timestamp record.data)

theorem requests_log_report (p : Reporter Unit) :
    ∃ new, (w.report k p).log = w.log ++ new ∧ requests new = [] := by
  refine ⟨_, w.log_addRecords k _, ?_⟩
  rw [requests, List.filterMap_map]
  exact List.filterMap_eq_nil_iff.mpr fun _ _ => rfl

theorem passStep_endOpenSession (k : BeaconKey) (w : World) :
    PassStep w (w.report k (SessionCalls.endWith caller false)) := by
  have hcall : CallStepOf (fun _ => True) ⟨w.session k, 0, []⟩
      (w.afterReport k (SessionCalls.endWith caller false)) :=
    (SessionCalls.guarantees_endWith trivial trivial fun _ => trivial).run CallStepOf.refl
      (fun _ _ _ => CallStepOf.trans) rfl
  have hconfiguration : (w.afterReport k (SessionCalls.endWith caller false)).session.beacon.beaconConfiguration =
      (w.session k).beacon.beaconConfiguration := hcall.beacon.beaconConfiguration
  refine ⟨w.context_addRecords k _, numRequests_addRecords k _,
    fun k' h => waits_addRecords h k _, requests_log_report _, fun k' h => ?_, fun k' h => ?_,
    fun k' h => ?_, fun k' => ?_⟩
  all_goals
    rw [session_report]
    split
  next hk =>
    subst hk
    exact settled_afterReport h
  next => exact h
  next hk =>
    subst hk
    rw [Session.isConfigured, hconfiguration]
    exact h
  next => exact h
  next hk =>
    subst hk
    rw [World.afterReport, run_endWith_of_finished h]
    exact h
  next => exact h
  next hk =>
    subst hk
    refine ⟨hcall.beacon.immutableBasicBeaconData, ?_⟩
    rw [BeaconSend.maxChunkSize, hconfiguration, BeaconSend.maxChunkSize]
  next => exact ⟨rfl, rfl⟩

end Passes

/-! ## The last pass -/

/-- What the flush achieves. -/
structure Flushed (w t : World) : Prop where
  sessions : t.context.sessions = []
  finished : ∀ k ∈ w.context.sessions, (t.session k).isSessionFinished = true
  uncached : ∀ k ∈ w.context.sessions, t.cache.getCachedEntry k = none
  requests : ∃ new, t.log = w.log ++ new ∧ NothingAfterTooManyRequests new
  nextState : t.context.nextState = some .terminal

/-- What holds in the last pass, with the sessions that are still to come. -/
structure Flushing (w : World) (rest : List BeaconKey) (tooManyRequestsReceived : Bool)
    (u : World) : Prop where
  sessions : u.context.sessions = rest
  finished : ∀ k ∈ w.context.sessions, (u.session k).isSessionFinished = true
  uncached : ∀ k ∈ w.context.sessions, k ∉ rest → u.cache.getCachedEntry k = none
  requested : Requested w u tooManyRequestsReceived

section LastPass

variable {env : Environment} {rounds : ℕ} {w u t : World} {k : BeaconKey} {rest : List BeaconKey}
  {tooMany : Bool}

/-- The world after the removal of a session. -/
def afterRemoval (k : BeaconKey) (u : World) : World :=
  ((u.setCache (u.cache.deleteCacheEntry k)).write (.cleared .flushing k)).setContext
    (u.context.removeSession k)

theorem run_removeFlushed : (removeFlushed k).run u = (.ok (), afterRemoval k u) := rfl

theorem Flushing.afterRemoval (h : Flushing w (k :: rest) tooMany u) :
    Flushing w rest tooMany (afterRemoval k u) := by
  refine ⟨?_, h.finished, fun k' hk' hrest => ?_, h.requested.quiet rfl rfl⟩
  · show u.context.sessions.erase k = rest
    rw [h.sessions, List.erase_cons_head]
  · show (u.cache.deleteCacheEntry k).getCachedEntry k' = none
    rw [BeaconCache.getCachedEntry_deleteCacheEntry]
    split
    next => rfl
    next hne =>
      refine h.uncached k' hk' fun hmem => ?_
      rcases List.mem_cons.mp hmem with heq | hmem
      · exact hne heq
      · exact hrest hmem

/-- A send in the last pass. -/
theorem Flushing.sendBeacon (h : Flushing w rest false u) {answer : Option Answer}
    (hrun : (CaptureOnState.sendBeacon env rounds k).run u = (.ok answer, t)) :
    Flushing w rest (isTooManyRequestsResponse answer) t := by
  obtain ⟨answer', t', hsend, hwrite⟩ := Program.run_bind_eq_ok.mp hrun
  rw [Program.run_bind_ok (Program.run_write _ t')] at hwrite
  obtain ⟨hr, rfl⟩ := Prod.mk.inj hwrite
  obtain rfl := Except.ok.inj hr
  have hstep := BeaconSend.sendStep_of_run hsend
  have hentries : BeaconSend.MakesNoEntry u t' :=
    BeaconSend.guarantees_makesNoEntry_send.run (fun _ _ => id) (fun _ _ _ h h' k => h' k ∘ h k)
      hsend
  refine ⟨?_, fun k' hk' => ?_, fun k' hk' hrest => hentries k' (h.uncached k' hk' hrest), ?_⟩
  · show t'.context.sessions = rest
    rw [hstep.context, h.sessions]
  · show (t'.session k').isSessionFinished = true
    rw [hstep.session k']
    exact h.finished k' hk'
  · exact (h.requested.trans (BeaconSend.requested_of_run_send hsend)).quiet rfl rfl

/-- **The turn of one session** in the last pass. -/
theorem Flushing.flushSession (h : Flushing w (k :: rest) tooMany u) {r : ForInStep Bool}
    (hrun : (flushSession env rounds k tooMany).run u = (.ok r, t)) :
    Program.Round (Flushing w rest) (fun _ _ => False) r t := by
  rw [FlushSessionsState.flushSession, Program.run_bind_ok (Program.run_read _ u)] at hrun
  split at hrun
  next hsend =>
    obtain ⟨answer, v, hsend', hrest⟩ := Program.run_bind_eq_ok.mp hrun
    rw [Program.run_bind_ok run_removeFlushed] at hrest
    obtain ⟨hr, rfl⟩ := Prod.mk.inj hrest
    obtain rfl := Except.ok.inj hr
    rw [Bool.and_eq_true, Bool.not_eq_true'] at hsend
    rw [hsend.1] at h
    exact (h.sendBeacon hsend').afterRemoval
  next =>
    rw [Program.run_bind_ok run_removeFlushed] at hrun
    obtain ⟨hr, rfl⟩ := Prod.mk.inj hrun
    obtain rfl := Except.ok.inj hr
    exact h.afterRemoval

end LastPass

/-! ## The whole flush -/

section Flush

variable {caller : Caller} {env : Environment} {w u : World}

/-- The world after the first pass. -/
def afterEnabling (w : World) : World :=
  (w.context.sessions.filter fun k => !(w.session k).isConfigured).foldl
    (fun w k => w.updateSession k (·.enableCapture)) w

/-- The world after the second pass. -/
def afterEnding (caller : Caller) (w : World) : World :=
  (w.context.sessions.filter fun k => (w.session k).isConfiguredAndOpen).foldl
    (fun w k => w.report k (SessionCalls.endWith caller false)) w

/-- The flush is its last pass, from the world after the others. -/
theorem run_doExecute (rounds : ℕ) :
    (doExecute caller env rounds).run w =
      (do
        let _ ← Program.forEach (flushSession env rounds)
          ((afterEnding caller (afterEnabling w)).context.sessions.filter fun k =>
            ((afterEnding caller (afterEnabling w)).session k).isConfiguredAndFinished) false
        Program.write fun w => w.setContext (w.context.setNextState .terminal) : Sender Unit).run
        ((afterEnding caller (afterEnabling w)).enter .flushing) := by
  rw [doExecute, BeaconSendingContext.getAllNotConfiguredSessions,
    Program.run_bind_ok (run_selectSessions _),
    Program.run_bind_ok (Program.run_forEach_of_write
      (f := fun k w => w.updateSession k (·.enableCapture)) (fun _ _ => rfl) _ w),
    BeaconSendingContext.getAllOpenAndConfiguredSessions,
    Program.run_bind_ok (run_selectSessions _),
    Program.run_bind_ok (Program.run_forEach_of_write
      (f := fun k w => w.report k (SessionCalls.endWith caller false)) (fun _ _ => rfl) _ _),
    Program.run_bind_ok (Program.run_write _ _),
    BeaconSendingContext.getAllFinishedAndConfiguredSessions,
    Program.run_bind_ok (run_selectSessions _)]
  rfl

theorem passStep_afterEnabling (w : World) : PassStep w (afterEnabling w) :=
  PassStep.foldl passStep_enableCapture _ w

theorem passStep_afterEnding (caller : Caller) (w : World) : PassStep w (afterEnding caller w) :=
  PassStep.foldl passStep_endOpenSession _ w

/-- After the first pass all sessions are configured. -/
theorem configured_afterEnabling (hsettled : ∀ k ∈ w.context.sessions, (w.session k).Settled)
    {k : BeaconKey} (hk : k ∈ w.context.sessions) :
    ((afterEnabling w).session k).isConfigured = true := by
  cases hconfigured : (w.session k).isConfigured with
  | true => exact (passStep_afterEnabling w).configured k hconfigured
  | false =>
    refine PassStep.of_mem_foldl (P := fun s => s.isConfigured = true) passStep_enableCapture
      (fun k h => h.configured k) (fun k w _ => ?_) (List.mem_filter.mpr ⟨hk, ?_⟩) (hsettled k hk)
    · rw [World.session_updateSession, if_pos rfl]
      rfl
    · rw [hconfigured]
      rfl

/-- After the second pass all configured sessions are finished. -/
theorem finished_afterEnding (hsettled : ∀ k ∈ w.context.sessions, (w.session k).Settled)
    {k : BeaconKey} (hk : k ∈ w.context.sessions) (hconfigured : (w.session k).isConfigured = true) :
    ((afterEnding caller w).session k).isSessionFinished = true := by
  cases hfinished : (w.session k).isSessionFinished with
  | true => exact (passStep_afterEnding caller w).finished k hfinished
  | false =>
    refine PassStep.of_mem_foldl (P := fun s => s.isSessionFinished = true) passStep_endOpenSession
      (fun k h => h.finished k) (fun k w hw => ?_) (List.mem_filter.mpr ⟨hk, ?_⟩) (hsettled k hk)
    · rw [session_report, if_pos rfl]
      exact finished_afterReport hw
    · rw [Session.isConfiguredAndOpen, hconfigured, hfinished]
      rfl

/-- The last pass selects all sessions. -/
theorem filter_afterEnding (caller : Caller)
    (hsettled : ∀ k ∈ w.context.sessions, (w.session k).Settled) :
    ((afterEnding caller (afterEnabling w)).context.sessions.filter fun k =>
      ((afterEnding caller (afterEnabling w)).session k).isConfiguredAndFinished) =
        w.context.sessions ∧
      ∀ k ∈ w.context.sessions,
        ((afterEnding caller (afterEnabling w)).session k).isSessionFinished = true := by
  have henabling := passStep_afterEnabling w
  have hending := passStep_afterEnding caller (afterEnabling w)
  have hfinished : ∀ k ∈ w.context.sessions,
      ((afterEnding caller (afterEnabling w)).session k).isSessionFinished = true := by
    intro k hk
    refine finished_afterEnding (fun k' hk' => henabling.settled k' (hsettled k' ?_)) ?_
      (configured_afterEnabling hsettled hk)
    · rwa [henabling.context] at hk'
    · rwa [henabling.context]
  refine ⟨?_, hfinished⟩
  rw [hending.context, henabling.context]
  refine List.filter_eq_self.mpr fun k hk => ?_
  rw [Session.isConfiguredAndFinished, hfinished k hk, Bool.and_true]
  exact hending.configured k (configured_afterEnabling hsettled hk)

/-- **The flush**: what holds when it has returned. -/
theorem flushed_of_run_doExecute (hsettled : ∀ k ∈ w.context.sessions, (w.session k).Settled)
    {rounds : ℕ} {t : World} (hrun : (doExecute caller env rounds).run w = (.ok (), t)) :
    Flushed w t := by
  obtain ⟨hselected, hfinished⟩ := filter_afterEnding caller hsettled
  have hpasses := (passStep_afterEnabling w).trans (passStep_afterEnding caller _)
  obtain ⟨new, hlog, hnew⟩ := hpasses.log
  rw [run_doExecute, hselected] at hrun
  obtain ⟨r, u, hloop, hwrite⟩ := Program.run_bind_eq_ok.mp hrun
  have hstart : Flushing w w.context.sessions false
      ((afterEnding caller (afterEnabling w)).enter .flushing) :=
    ⟨congrArg _ hpasses.context, hfinished, fun k hk hnot => absurd hk hnot,
      (Requested.refl w false).quiet hlog hnew⟩
  have hdone := Program.run_forEach_ok (J := fun rest tooMany u => Flushing w rest tooMany u)
    (Q := fun _ _ => False) (fun k rest tooMany u r u' hu hrun => hu.flushSession hrun) hstart hloop
  obtain ⟨-, rfl⟩ := Prod.mk.inj hwrite
  cases r with
  | done tooMany => exact hdone.elim
  | yield tooMany =>
    obtain ⟨log, hlog, hafter, -⟩ := hdone.requested
    exact ⟨hdone.sessions, hdone.finished, fun k hk => hdone.uncached k hk List.not_mem_nil,
      ⟨log, hlog, hafter⟩, rfl⟩

end Flush

end FlushSessionsState

end OpenKit
