import OpenKit.Communication.CycleStarts
import OpenKit.Communication.OpenSessions

/-!
# The end of a cycle in which a transmission failed

When the send of a finished session fails, the session is kept for a later cycle: its records are
restored and the loop over the finished sessions ends. But the cycle goes on, and at its end
an answer is handed to the context, which clears the data of all sessions and removes the
finished ones if the answer is an error or turns capturing off. Unless an open session was answered
after it, that answer is the very one that the transmission failed with.

## Main definitions

* `FailsIn`: in a cycle, the send of a finished session fails
* `Keeps`: the session is in the context, and its records are in the cache unless acknowledged
* `OpenSessionsSave`: the answers to the requests after the failed one that keep the session

## Main results

* `run_handleStatusResponse_kept`, `run_handleStatusResponse_removed`: what handling an answer does
  to a finished session
* `keeps_iff`: in every cycle, wherever it starts, the session is kept iff the open sessions save it
-/

namespace OpenKit

open Thread

namespace CaptureOnState

open BeaconSendingResponseUtil

variable {env : Environment} {rounds : ℕ} {k k' : BeaconKey} {w t : World}

/-! ## The parts of a cycle, run alone -/

/-- A cycle that goes on to the open sessions. -/
theorem run_doExecute {newResponse finishedResponse : Option Answer} {t₀ t₁ : World}
    (hshutdown : w.context.isShutdownRequested = false)
    (hnew : (sendNewSessionRequests env).run w = (.ok newResponse, t₀))
    (hnewMany : isTooManyRequestsResponse newResponse = false)
    (hfinished : (sendFinishedSessions env rounds).run t₀ = (.ok finishedResponse, t₁))
    (hfinishedMany : isTooManyRequestsResponse finishedResponse = false) :
    (doExecute env rounds).run w = (do
      let openResponse ← sendOpenSessions env rounds
      if isTooManyRequestsResponse openResponse then
        switchToCaptureOff openResponse
      else
        handleStatusResponse (lastStatusResponse newResponse finishedResponse openResponse)
          : Sender Unit).run t₁ := by
  rw [doExecute, Program.run_bind_ok (Program.run_read _ w), hshutdown,
    if_neg Bool.false_ne_true, Program.run_bind_ok hnew, hnewMany, if_neg Bool.false_ne_true,
    Program.run_bind_ok hfinished, hfinishedMany, if_neg Bool.false_ne_true]

/-- The turn of another open session conserves the records of a session. -/
theorem owned_of_run_sendOpenSession (hk : k ≠ k') (hs : Stocked w) (hidle : Idle w)
    {response : Option Answer} {r : ForInStep (Option Answer)}
    (h : (sendOpenSession env rounds k' response).run w = (.ok r, t)) (kind : RecordKind) :
    owned k kind t = owned k kind w := by
  rw [sendOpenSession, Program.run_bind_ok (Program.run_read _ w)] at h
  split at h
  · obtain ⟨answer, u, hbeacon, hend⟩ := Program.run_bind_eq_ok.mp h
    obtain ⟨answer', u', hsend, hwrite⟩ := Program.run_bind_eq_ok.mp hbeacon
    rw [Program.run_bind_ok (Program.run_write _ u')] at hwrite
    obtain ⟨-, rfl⟩ := Prod.mk.inj hwrite
    have hsent : owned k kind (u'.write (.sent u'.phase k' answer')) = owned k kind w := by
      have hnone : acknowledged k kind [.sent u'.phase k' answer'] = [] := rfl
      rw [owned, World.log_write, acknowledged_append, hnone, List.append_nil]
      exact BeaconSend.owned_of_run_send hidle hs.1.active hsend k kind
    split at hend
    · obtain ⟨-, rfl⟩ := Prod.mk.inj hend
      exact hsent
    · obtain ⟨-, rfl⟩ := Prod.mk.inj hend
      exact hsent
  · obtain ⟨-, rfl⟩ := Prod.mk.inj h
    have hnone : acknowledged k kind [.cleared .openSessions k'] = [] := rfl
    rw [owned, World.log_write, World.log_setCache, acknowledged_append, hnone, List.append_nil,
      World.cache_write, World.cache_setCache, BeaconCache.entryAt_deleteCacheEntry, if_neg hk]
    rfl

theorem guarantees_untouched_sendOpenSession (hk : k ≠ k') (response : Option Answer) :
    Program.Guarantees (Untouched k) (sendOpenSession env rounds k' response) := by
  refine (guarantees_untouched_read _).bind fun allowed => ?_
  split
  · refine (guarantees_sendBeacon hk).bind fun answer => ?_
    split
    · trivial
    · trivial
  · exact (guarantees_clearCapturedData hk _).bind fun _ => trivial

/-- The context is the same. -/
def KeepsContext (w w' : World) : Prop := w'.context = w.context

theorem KeepsContext.refl (w : World) : KeepsContext w w := Eq.refl w.context

theorem KeepsContext.trans {w₁ w₂ w₃ : World} (h : KeepsContext w₁ w₂) (h' : KeepsContext w₂ w₃) :
    KeepsContext w₁ w₃ :=
  Eq.trans h' h

theorem guarantees_keepsContext_sendOpenSession (response : Option Answer) :
    Program.Guarantees KeepsContext (sendOpenSession env rounds k' response) := by
  have hread : Program.Guarantees KeepsContext (Program.read fun w =>
      (w.session k').isDataSendingAllowed : Sender Bool) :=
    Program.guarantees_atomic KeepsContext.refl
  refine hread.bind fun allowed => ?_
  split
  · have hsend : Program.Guarantees KeepsContext (BeaconSend.send env rounds k') :=
      (BeaconSend.guarantees_send rounds).mono fun _ _ h => h.context
    have hbeacon : Program.Guarantees KeepsContext (sendBeacon env rounds k') := by
      refine hsend.bind fun answer => ?_
      have hwrite : Program.Guarantees KeepsContext
          (Program.write fun w => w.write (.sent w.phase k' answer) : Sender Unit) :=
        Program.guarantees_atomic fun w => rfl
      exact hwrite.bind fun _ => trivial
    refine hbeacon.bind fun answer => ?_
    split
    · trivial
    · trivial
  · have hclear : Program.Guarantees KeepsContext (clearCapturedData .openSessions k') :=
      Program.guarantees_atomic fun w => rfl
    exact hclear.bind fun _ => trivial

/-- What the loop over the open sessions leaves: a finished session with its records, and what the
context makes of an answer. -/
structure Spared (k : BeaconKey) (w t : World) : Prop where
  untouched : Untouched k w t
  owned : ∀ kind, owned k kind t = OpenKit.owned k kind w
  lastResponseAttributes :
    t.context.lastResponseAttributes = w.context.lastResponseAttributes
  httpClientConfiguration :
    t.context.httpClientConfiguration = w.context.httpClientConfiguration

/-- **The loop over the open sessions** spares a finished session. -/
theorem spared_of_run_sendOpenSessions (hs : Stocked w) (hidle : Idle w)
    (hfin : (w.session k).isSessionFinished = true) {response : Option Answer}
    (h : (sendOpenSessions env rounds).run w = (.ok response, t)) : Spared k w t := by
  have hentered : Untouched k w (w.enter .openSessions) :=
    ⟨rfl, rfl, Iff.rfl, List.Sublist.refl _⟩
  rw [sendOpenSessions, Program.run_bind_ok (Program.run_write _ w),
    Program.run_bind_ok (Program.run_read _ _), Program.run_bind_ok (Program.run_read _ _),
    Program.run_bind_ok (Program.run_read _ _)] at h
  split at h
  · obtain ⟨-, rfl⟩ := Prod.mk.inj h
    exact ⟨hentered, fun _ => rfl, rfl, rfl⟩
  rw [BeaconSendingContext.getAllOpenAndConfiguredSessions,
    Program.run_bind_ok (run_selectSessions _)] at h
  obtain ⟨r, t', hloop, hrest⟩ := Program.run_bind_eq_ok.mp h
  rw [Program.run_bind_ok (Program.run_write _ t')] at hrest
  obtain ⟨-, rfl⟩ := Prod.mk.inj hrest
  change (Program.forEach (sendOpenSession env rounds) (openSessions w) none).run
    (w.enter .openSessions) = (.ok r, t') at hloop
  -- the finished session is none of those that are asked, so no turn touches its records
  have hopen (k' : BeaconKey) (hk' : k' ∈ openSessions w) : k ≠ k' := by
    rintro rfl
    have hopen := (Bool.and_eq_true_iff.mp (List.mem_filter.mp hk').2).2
    rw [hfin] at hopen
    exact Bool.false_ne_true hopen
  have huntouched : Untouched k (w.enter .openSessions) t' :=
    Program.Guarantees.run (Program.guarantees_forEach
      (fun k' hk' response => guarantees_untouched_sendOpenSession (hopen k' hk') response) none)
      (Untouched.refl k) (fun _ _ _ => Untouched.trans) hloop
  have hcontext : KeepsContext (w.enter .openSessions) t' :=
    Program.Guarantees.run (Program.guarantees_forEach
      (fun _ _ response => guarantees_keepsContext_sendOpenSession response) none)
      KeepsContext.refl (fun _ _ _ => KeepsContext.trans) hloop
  have howned (kind : RecordKind) : owned k kind t' = owned k kind w := by
    have hentry := (QuietStep.enter w .openSessions).stocked hs hidle
    have hround := Program.run_forEach_ok
      (J := fun cs _ u => (∀ k' ∈ cs, k ≠ k') ∧ (Stocked u ∧ Idle u) ∧
        owned k kind u = owned k kind w)
      (Q := fun _ u => owned k kind u = owned k kind w) (fun k' cs a u r u' hj hrun => ?_)
      ⟨hopen, hentry, rfl⟩ hloop
    · cases r with
      | yield _ => exact hround.2.2
      | done _ => exact hround
    · obtain ⟨hcs, ⟨hs, hidle⟩, howned⟩ := hj
      have hturn := (owned_of_run_sendOpenSession (hcs k' List.mem_cons_self) hs hidle hrun
        kind).trans howned
      cases r with
      | yield _ =>
        exact ⟨fun k'' hk'' => hcs k'' (List.mem_cons_of_mem k' hk''),
          (preserves_sendOpenSession a).run_ok hs hidle hrun, hturn⟩
      | done _ => exact hturn
  refine ⟨hentered.trans (huntouched.trans ⟨rfl, rfl, Iff.rfl, List.Sublist.refl _⟩), howned, ?_, ?_⟩
  · have hsame : t'.context.lastResponseAttributes = w.context.lastResponseAttributes :=
      congrArg BeaconSendingContext.lastResponseAttributes hcontext
    exact hsame
  · have hsame : t'.context.httpClientConfiguration = w.context.httpClientConfiguration :=
      congrArg BeaconSendingContext.httpClientConfiguration hcontext
    exact hsame

/-- Clearing all data removes the finished sessions. -/
theorem not_mem_of_run_clearAllSessionData (hnodup : w.context.sessions.Nodup)
    (hfin : (w.session k).isSessionFinished = true) {r : ForInStep Unit}
    (h : BeaconSendingContext.clearAllSessionData.run w = (.ok r, t)) :
    k ∉ t.context.sessions := by
  rw [BeaconSendingContext.clearAllSessionData, Program.run_bind_ok (Program.run_read _ w)] at h
  have hround := Program.run_forEach_ok
    (J := fun cs _ t => t.context.sessions.Nodup ∧ (t.session k).isSessionFinished = true ∧
      (k ∈ t.context.sessions → k ∈ cs))
    (Q := fun _ t => k ∉ t.context.sessions) ?_ ⟨hnodup, hfin, id⟩ h
  · cases r with
    | yield _ => exact fun hk => List.not_mem_nil (hround.2.2 hk)
    | done _ => exact hround
  · intro c cs u s r t' hj hrun
    obtain ⟨hnodup, hfin, hin⟩ := hj
    rw [BeaconSendingContext.clearSessionData, clearCapturedData,
      Program.run_bind_ok (Program.run_write _ s),
      Program.run_bind_ok (Program.run_read _ _)] at hrun
    split at hrun
    next hc =>
      rw [Program.run_bind_ok (Program.run_write _ _)] at hrun
      obtain ⟨hr, rfl⟩ := Prod.mk.inj hrun
      obtain rfl := Except.ok.inj hr
      refine ⟨hnodup.erase c, hfin, fun hk => ?_⟩
      have hne : k ≠ c := by
        rintro rfl
        exact hnodup.not_mem_erase hk
      exact (List.mem_cons.mp (hin (List.mem_of_mem_erase hk))).resolve_left hne
    next hc =>
      obtain ⟨hr, rfl⟩ := Prod.mk.inj hrun
      obtain rfl := Except.ok.inj hr
      refine ⟨hnodup, hfin, fun hk => ?_⟩
      have hne : k ≠ c := by
        rintro rfl
        exact hc hfin
      exact (List.mem_cons.mp (hin hk)).resolve_left hne

/-- Handling a successful answer that leaves capturing on leaves the sessions and their records. -/
theorem run_handleStatusResponse_kept {answer : Answer}
    (hsuccess : isSuccessfulResponse (some answer) = true)
    (hcapture : (w.context.updateFrom (some answer)).2.isCaptureOn = true)
    (h : (handleStatusResponse (some answer)).run w = (.ok (), t)) :
    t.context.sessions = w.context.sessions ∧ ∀ kind, owned k kind t = owned k kind w := by
  have hcontext : (BeaconSendingContext.handleStatusResponse (some answer)).run
      ((w.enter .handling).write (.handled answer)) =
        (.ok (.yield ()), ((w.enter .handling).write (.handled answer)).setContext
          (w.context.updateFrom (some answer)).2) := by
    rw [BeaconSendingContext.handleStatusResponse, hsuccess, Bool.not_true,
      if_neg Bool.false_ne_true, Program.run_bind_ok (Program.run_write _ _),
      Program.run_bind_ok (Program.run_read _ _), World.context_setContext, World.context_write,
      World.context_enter, hcapture]
    rfl
  rw [handleStatusResponse, Program.run_bind_ok (Program.run_write _ w),
    Program.run_bind_ok hcontext, Program.run_bind_ok (Program.run_read _ _),
    World.context_setContext, hcapture] at h
  obtain ⟨-, rfl⟩ := Prod.mk.inj h
  refine ⟨?_, fun kind => ?_⟩
  · rw [World.context_setContext, BeaconSendingContext.updateFrom_sessions]
  · have hnone : acknowledged k kind [.handled answer] = [] := rfl
    rw [owned, World.log_setContext, World.log_write, acknowledged_append, hnone, List.append_nil]
    rfl

/-- Handling an error, or an answer that turns capturing off, removes the finished sessions. -/
theorem run_handleStatusResponse_removed {answer : Answer} (hnodup : w.context.sessions.Nodup)
    (hfin : (w.session k).isSessionFinished = true)
    (hoff : isSuccessfulResponse (some answer) = true →
      (w.context.updateFrom (some answer)).2.isCaptureOn = false)
    (h : (handleStatusResponse (some answer)).run w = (.ok (), t)) :
    k ∉ t.context.sessions := by
  rw [handleStatusResponse, Program.run_bind_ok (Program.run_write _ w)] at h
  obtain ⟨r, t', hcontext, hrest⟩ := Program.run_bind_eq_ok.mp h
  have hgone : k ∉ t'.context.sessions := by
    cases hsuccess : isSuccessfulResponse (some answer) with
    | false =>
      rw [BeaconSendingContext.handleStatusResponse, hsuccess, Bool.not_false, if_pos rfl,
        BeaconSendingContext.disableCaptureAndClear,
        Program.run_bind_ok (Program.run_write _ _)] at hcontext
      refine not_mem_of_run_clearAllSessionData ?_ ?_ hcontext
      · exact hnodup
      · exact hfin
    | true =>
      rw [BeaconSendingContext.handleStatusResponse, hsuccess, Bool.not_true,
        if_neg Bool.false_ne_true, Program.run_bind_ok (Program.run_write _ _),
        Program.run_bind_ok (Program.run_read _ _), World.context_setContext, World.context_write,
        World.context_enter, hoff hsuccess, Bool.not_false, if_pos rfl] at hcontext
      refine not_mem_of_run_clearAllSessionData ?_ ?_ hcontext
      · rw [World.context_setContext, BeaconSendingContext.updateFrom_sessions]
        exact hnodup
      · exact hfin
  rw [Program.run_bind_ok (Program.run_read _ t')] at hrest
  split at hrest
  · rw [Program.run_write] at hrest
    obtain ⟨-, rfl⟩ := Prod.mk.inj hrest
    exact hgone
  · obtain ⟨-, rfl⟩ := Prod.mk.inj hrest
    exact hgone

/-! ## The failed transmission -/

/-- In the cycle from `w`, the send of the finished session `k` fails with an answer other than 429.
`t` is the state in which the send starts, at the turn of the session. -/
structure FailsIn (env : Environment) (rounds : ℕ) (k : BeaconKey) (w : World)
    (newResponse : Option Answer) (answer : Answer) (t : World) : Prop where
  shutdown : w.context.isShutdownRequested = false
  notMany : isTooManyRequestsResponse newResponse = false
  turn : ∃ t₀ before after response u,
    (sendNewSessionRequests env).run w = (.ok newResponse, t₀) ∧
    finishedSessions t₀ = before ++ k :: after ∧
    ReachesTurn env rounds before t₀ response t ∧
    (t.session k).isDataSendingAllowed = true ∧
    (BeaconSend.send env rounds k).run t = (.ok (some answer), u)
  fails : answer.response.isErroneousResponse = true
  notTooMany : answer.response.isTooManyRequestsResponse = false

/-- Between `t` and `t'` the session stays in the context, and none of its records is lost: those
that were acknowledged or in the cache still are, each once and in their order. -/
def Keeps (k : BeaconKey) (t t' : World) : Prop :=
  k ∈ t'.context.sessions ∧ ∀ kind, owned k kind t' = owned k kind t

/-- The attributes of the response, merged into those of the context, leave capturing on. -/
def LeavesCaptureOn (c : BeaconSendingContext) (response : StatusResponse) : Prop :=
  (c.lastResponseAttributes.merge response.responseAttributes).isCapture = true ∧
    c.isApplicationIdMismatch (c.lastResponseAttributes.merge response.responseAttributes) = false

/-- What the server answers to the requests from the `n`-th to the one before the `m`-th. -/
def responses (env : Environment) (n m : ℕ) : List (Option StatusResponse) :=
  (List.range' n (m - n)).map env.response

theorem getLast?_responses {n m : ℕ} {response : Option StatusResponse} :
    (responses env n m).getLast? = some response ↔ n < m ∧ env.response (m - 1) = response := by
  rw [responses, List.getLast?_map, List.getLast?_range', Option.map_eq_some_iff]
  by_cases h : n < m
  · have hlength : m - n ≠ 0 := by omega
    have hlast : n + (m - n) - 1 = m - 1 := by omega
    simp [hlength, hlast, h]
  · have hlength : m - n = 0 := by omega
    simp [hlength, h]

/-- The answers of the server to the requests of a cycle after the failed one keep the session:
there is such a request, and the answer to the last one is a 429, or successful with attributes that
leave capturing on, while the last open session whose data may be sent has records. -/
def OpenSessionsSave (t : World) (responses : List (Option StatusResponse)) : Prop :=
  ∃ response, responses.getLast? = some (some response) ∧
    (response.isTooManyRequestsResponse = true ∨
      response.isErroneousResponse = false ∧ LeavesCaptureOn t.context response ∧ LastHasRecords t)

theorem isCaptureOn_updateFrom {c : BeaconSendingContext} {answer : Answer}
    (hsuccess : answer.response.isErroneousResponse = false) :
    (c.updateFrom (some answer)).2.isCaptureOn = true ↔ LeavesCaptureOn c answer.response := by
  have hs : isSuccessfulResponse (some answer) = true := by
    rw [isSuccessfulResponse, hsuccess, Bool.not_false]
  rw [BeaconSendingContext.updateFrom, hs, Bool.not_true, if_neg Bool.false_ne_true, LeavesCaptureOn]
  show ServerConfiguration.captureEnabled (ite _ _ _) = true ↔ _
  split
  next hmismatch =>
    rw [hmismatch]
    exact iff_of_false Bool.false_ne_true fun h => absurd h.2.symm Bool.false_ne_true
  next hmatch => exact (and_iff_left (Bool.not_eq_true _ ▸ hmatch)).symm

/-- The turn of a session whose send fails ends the loop. -/
theorem run_sendFinishedSession_of_failed {response answer : Option Answer}
    (hallowed : (w.session k).isDataSendingAllowed = true)
    (hsend : (BeaconSend.send env rounds k).run w = (.ok answer, t))
    (hfails : isSuccessfulResponse answer = false)
    (hmany : isTooManyRequestsResponse answer = false) (hleft : t.cache.isEmpty k = false) :
    (sendFinishedSession env rounds k response).run w =
      (.ok (.done answer), t.write (.sent t.phase k answer)) := by
  rw [sendFinishedSession, Program.run_bind_ok (Program.run_read _ w), hallowed, if_pos rfl,
    Program.run_bind_ok (run_sendBeacon hsend), hfails, if_neg Bool.false_ne_true, hmany,
    if_neg Bool.false_ne_true, Program.run_bind_ok (Program.run_read _ _), World.cache_write, hleft]
  rfl

section Fails

variable {newResponse : Option Answer} {answer : Answer}

/-- At its turn the session is finished and in the context, and the cache is in order. -/
theorem FailsIn.atTurn (h : FailsIn env rounds k w newResponse answer t) (hs : Stocked w)
    (hidle : Idle w) : (k ∈ t.context.sessions ∧ (t.session k).isSessionFinished = true) ∧
      Stocked t ∧ Idle t := by
  obtain ⟨t₀, before, after, response, u, hnew, hsplit, hturn, -, -⟩ := h.turn
  have hrequests : LeavesStocked (sendNewSessionRequests env) :=
    preserves_quiet (quiet_note guarantees_sendNewSessionRequests)
  obtain ⟨hs₀, hidle₀⟩ := hrequests.run_ok hs hidle hnew
  have hmem : k ∈ finishedSessions t₀ := by
    rw [hsplit]
    exact List.mem_append_right _ List.mem_cons_self
  obtain ⟨hk, hfin⟩ := List.mem_filter.mp hmem
  have hsame := hturn.untouched (not_mem_before hs₀.2.nodup hsplit)
  have hloop : LeavesStocked (Program.forEach (sendFinishedSession env rounds) before none) :=
    Program.preserves_forEach stable_stocked stable_idle_other
      (fun _ response => preserves_sendFinishedSession response) before none
  obtain ⟨hentered, hidle₁⟩ := (QuietStep.enter t₀ .finishedSessions).stocked hs₀ hidle₀
  refine ⟨⟨hsame.listed.mpr hk, ?_⟩, hloop.run_ok hentered hidle₁ hturn⟩
  rw [hsame.session]
  exact (Bool.and_eq_true_iff.mp hfin).2

/-- What the send that fails leaves behind, in `u`. -/
structure Failed (env : Environment) (k : BeaconKey) (t : World) (answer : Answer) (u : World) :
    Prop where
  owned : ∀ kind, owned k kind u = OpenKit.owned k kind t
  stocked : Stocked u
  idle : Idle u
  sessions : u.sessions = t.sessions
  context : u.context = t.context
  entryAt : ∀ k' ≠ k, u.cache.entryAt k' = t.cache.entryAt k'
  numRequests : u.numRequests = answer.requestNumber + 1

/-- **After the failure** the session is not empty, and the cycle goes on with the open sessions. -/
theorem FailsIn.run_doExecute (h : FailsIn env rounds k w newResponse answer t) (hs : Stocked w)
    (hidle : Idle w) : ∃ u, Failed env k t answer u ∧ (doExecute env rounds).run w = (do
      let openResponse ← sendOpenSessions env rounds
      if isTooManyRequestsResponse openResponse then
        switchToCaptureOff openResponse
      else
        handleStatusResponse (lastStatusResponse newResponse (some answer) openResponse)
          : Sender Unit).run u := by
  obtain ⟨-, hs', hidle'⟩ := h.atTurn hs hidle
  obtain ⟨t₀, before, after, response, u, hnew, hsplit, hturn, hallowed, hsend⟩ := h.turn
  have hfails : isSuccessfulResponse (some answer) = false := by
    rw [isSuccessfulResponse, h.fails, Bool.not_true]
  obtain ⟨hsu, hidleu⟩ := (preserves_send rounds k).run_ok hs' hidle' hsend
  have hstep := BeaconSend.sendStep_of_run hsend
  -- what the send could not transmit is active again
  obtain ⟨kind, hrecords⟩ :=
    BeaconSend.exists_mem_of_failed hsend (Option.some_ne_none answer) hfails
  obtain ⟨r, hr⟩ := List.exists_mem_of_ne_nil _ hrecords
  have hleft : u.cache.isEmpty k = false := by
    have hsize := hsu.getDataSizeInBytes_pos hr
    rw [BeaconCacheEntry.records, BeaconCacheEntry.beingSent_eq_nil_iff.mp (hidleu k) kind,
      List.map_nil, List.nil_append] at hr
    exact hsu.2.covered.isEmpty_eq_false hr hsize
  -- the answer is that to the last request of the send
  have hnumber : u.numRequests = answer.requestNumber + 1 := by
    have hreplied := BeaconSend.replied_of_run_send hsend
    have hlt : t.numRequests < u.numRequests := by
      refine lt_of_le_of_ne hreplied.le fun heq => ?_
      exact Option.some_ne_none answer (hreplied.eq_none heq)
    obtain ⟨response', -, ha⟩ := Option.map_eq_some_iff.mp (hreplied.eq_reply hlt).symm
    rw [← ha]
    show u.numRequests = u.numRequests - 1 + 1
    omega
  have hwritten : QuietStep u (u.write (.sent u.phase k (some answer))) :=
    .of_event rfl trivial rfl rfl (.refl _)
  obtain ⟨hsw, hidlew⟩ := hwritten.stocked hsu hidleu
  have hnone (kind : RecordKind) : acknowledged k kind [.sent u.phase k (some answer)] = [] := rfl
  refine ⟨u.write (.sent u.phase k (some answer)), ⟨fun kind => ?_, hsw, hidlew, hstep.sessions,
    hstep.context, hstep.entryAt, hnumber⟩, ?_⟩
  · rw [owned, World.log_write, acknowledged_append, hnone, List.append_nil]
    exact BeaconSend.owned_of_run_send hidle' hs'.1.active hsend k kind
  -- the turn ends the loop over the finished sessions
  have hfinished : (sendFinishedSessions env rounds).run t₀ =
      (.ok (some answer), u.write (.sent u.phase k (some answer))) := by
    have hdone : (sendFinishedSession env rounds k response).run t =
        (.ok (.done (some answer)), u.write (.sent u.phase k (some answer))) :=
      run_sendFinishedSession_of_failed hallowed hsend hfails h.notTooMany hleft
    have hloop : (Program.forEach (sendFinishedSession env rounds) (before ++ k :: after) none).run
        (t₀.enter .finishedSessions) =
          (.ok (.done (some answer)), u.write (.sent u.phase k (some answer))) := by
      rw [Program.run_forEach_append hturn]
      exact Program.run_forEach_done hdone
    rw [run_sendFinishedSessions, hsplit, Program.run_bind_ok hloop]
    rfl
  exact CaptureOnState.run_doExecute h.shutdown hnew h.notMany hfinished h.notTooMany

/-- The end of the cycle makes no request. -/
theorem numRequests_of_run_end {openResponse response : Option Answer}
    (h : (if isTooManyRequestsResponse openResponse then switchToCaptureOff openResponse
      else handleStatusResponse response : Sender Unit).run w = (.ok (), t)) :
    t.numRequests = w.numRequests := by
  split at h
  · obtain ⟨-, rfl⟩ := Prod.mk.inj h
    rfl
  · have hsteps := (guarantees_handleStatusResponse response).mono
      fun _ _ => HandlingStep.numRequests_eq
    exact hsteps.run (fun _ => rfl) (fun _ _ _ h h' => h'.trans h) h

/-- What becomes of the session, given what the loop over the open sessions returns. -/
theorem keeps_iff_of_run {u t₃ t' : World} (hu : Failed env k t answer u)
    (hk : k ∈ t.context.sessions) (hfin : (t.session k).isSessionFinished = true)
    (hfails : answer.response.isErroneousResponse = true) {openResponse : Option Answer}
    (hopen : (sendOpenSessions env rounds).run u = (.ok openResponse, t₃))
    (hrun : (if isTooManyRequestsResponse openResponse then switchToCaptureOff openResponse
      else handleStatusResponse (lastStatusResponse newResponse (some answer) openResponse)
        : Sender Unit).run t₃ = (.ok (), t')) :
    Keeps k t t' ↔ isTooManyRequestsResponse openResponse = true ∨
      ∃ openAnswer, openResponse = some openAnswer ∧
        openAnswer.response.isErroneousResponse = false ∧
          LeavesCaptureOn t.context openAnswer.response := by
  have hfinu : (u.session k).isSessionFinished = true := by
    rw [World.session, hu.sessions]
    exact hfin
  have hspared := spared_of_run_sendOpenSessions hu.stocked hu.idle hfinu hopen
  have hlisted : k ∈ t₃.context.sessions := by
    rw [hspared.untouched.listed, hu.context]
    exact hk
  -- until the answer is handled, nothing has happened to the session and its records
  have hkeeps (hsessions : t'.context.sessions = t₃.context.sessions)
      (howned : ∀ kind, owned k kind t' = owned k kind t₃) : Keeps k t t' :=
    ⟨hsessions ▸ hlisted, fun kind =>
      ((howned kind).trans (hspared.owned kind)).trans (hu.owned kind)⟩
  have hnodup₃ : t₃.context.sessions.Nodup :=
    hspared.untouched.sublist.nodup hu.stocked.2.nodup
  have hfin₃ : (t₃.session k).isSessionFinished = true := by
    rw [hspared.untouched.session]
    exact hfinu
  have hcontext (response : StatusResponse) :
      LeavesCaptureOn t₃.context response ↔ LeavesCaptureOn t.context response := by
    rw [LeavesCaptureOn, LeavesCaptureOn, BeaconSendingContext.isApplicationIdMismatch,
      BeaconSendingContext.isApplicationIdMismatch, hspared.lastResponseAttributes,
      hspared.httpClientConfiguration, hu.context]
  cases hmany : isTooManyRequestsResponse openResponse with
  | true =>
    -- nothing is handled
    rw [hmany, if_pos rfl] at hrun
    obtain ⟨-, rfl⟩ := Prod.mk.inj hrun
    exact iff_of_true (hkeeps rfl fun _ => rfl) (.inl rfl)
  | false =>
    rw [hmany, if_neg Bool.false_ne_true] at hrun
    rw [or_iff_right Bool.false_ne_true]
    cases openResponse with
    | none =>
      -- the answer of the failed transmission is handled
      have hgone : k ∉ t'.context.sessions := by
        refine run_handleStatusResponse_removed hnodup₃ hfin₃ (fun hs => ?_) hrun
        rw [isSuccessfulResponse, hfails] at hs
        exact absurd hs Bool.false_ne_true
      refine iff_of_false (fun hkept => hgone hkept.1) ?_
      rintro ⟨_, hfalse, -⟩
      cases hfalse
    | some openAnswer =>
      by_cases hsaved : openAnswer.response.isErroneousResponse = false ∧
          LeavesCaptureOn t.context openAnswer.response
      · refine iff_of_true ?_ ⟨openAnswer, rfl, hsaved⟩
        have hsuccess : isSuccessfulResponse (some openAnswer) = true := by
          rw [isSuccessfulResponse, hsaved.1, Bool.not_false]
        have hcapture := (isCaptureOn_updateFrom hsaved.1).mpr ((hcontext _).mpr hsaved.2)
        have hkept := run_handleStatusResponse_kept (k := k) hsuccess hcapture hrun
        exact hkeeps hkept.1 hkept.2
      · have hgone : k ∉ t'.context.sessions := by
          refine run_handleStatusResponse_removed hnodup₃ hfin₃ (fun hs => ?_) hrun
          rw [isSuccessfulResponse, Bool.not_eq_true'] at hs
          rw [Bool.eq_false_iff]
          intro hc
          exact hsaved ⟨hs, (hcontext _).mp ((isCaptureOn_updateFrom hs).mp hc)⟩
        refine iff_of_false (fun hkept => hgone hkept.1) ?_
        rintro ⟨openAnswer', heq, hs⟩
        obtain rfl := Option.some.inj heq
        exact hsaved hs

/-- The open sessions and their records are the same after the failure. -/
theorem Failed.lastHasRecords_iff {u : World} (hu : Failed env k t answer u)
    (hfin : (t.session k).isSessionFinished = true) : LastHasRecords u ↔ LastHasRecords t := by
  have hsession (k' : BeaconKey) : u.session k' = t.session k' := congrFun hu.sessions k'
  have hlist : sendable u (openSessions u) = sendable t (openSessions t) := by
    simp only [sendable, openSessions, hsession, hu.context]
  rw [LastHasRecords, LastHasRecords, hlist]
  refine exists_congr fun k' => and_congr_right fun hk' => ?_
  have hne : k' ≠ k := by
    rintro rfl
    have hmem := List.mem_of_mem_filter (List.mem_of_getLast? hk')
    have hopen := (Bool.and_eq_true_iff.mp (List.mem_filter.mp hmem).2).2
    rw [hfin] at hopen
    exact Bool.false_ne_true hopen
  rw [hu.entryAt k' hne]

/-- **A failed transmission**: wherever the cycle starts, after it the session is in the context and
none of its records is lost iff the open sessions save it. -/
theorem keeps_iff (hstart : StartsCycle env w) (h : FailsIn env rounds k w newResponse answer t)
    {t' : World} (hrun : (doExecute env rounds).run w = (.ok (), t')) :
    Keeps k t t' ↔ OpenSessionsSave t (responses env (answer.requestNumber + 1) t'.numRequests) := by
  obtain ⟨hs, hidle⟩ := hstart.stocked
  obtain ⟨⟨hk, hfin⟩, -⟩ := h.atTurn hs hidle
  obtain ⟨u, hu, hdo⟩ := h.run_doExecute hs hidle
  rw [hdo] at hrun
  obtain ⟨openResponse, t₃, hopen, hend⟩ := Program.run_bind_eq_ok.mp hrun
  have hnumber : t'.numRequests = t₃.numRequests := numRequests_of_run_end hend
  have hreplied := openReplied_of_run hu.stocked.2.nodup hopen
  rw [keeps_iff_of_run hu hk hfin h.fails hopen hend, OpenSessionsSave, hnumber, ← hu.numRequests,
    ← hu.lastHasRecords_iff hfin]
  simp only [getLast?_responses]
  -- the loop over the open sessions returns the answer to its last request, or nothing
  rcases hreplied with ⟨hlt, rfl, hlast⟩ | ⟨rfl, hlast⟩
  · -- the answer to the last request is the one that decides
    rw [BeaconSend.reply]
    cases hresponse : env.response (t₃.numRequests - 1) with
    | none =>
      refine iff_of_false ?_ ?_
      · rintro (hfalse | ⟨_, hfalse, -⟩)
        · exact Bool.false_ne_true hfalse
        · cases hfalse
      · rintro ⟨_, ⟨-, hfalse⟩, -⟩
        cases hfalse
    | some response =>
      rw [BeaconSend.reply, hresponse] at hlast
      constructor
      · rintro (hmany | ⟨openAnswer, heq, hsuccess, hcapture⟩)
        · exact ⟨response, ⟨hlt, rfl⟩, .inl hmany⟩
        · obtain rfl := Option.some.inj heq
          refine ⟨response, ⟨hlt, rfl⟩,
            .inr ⟨hsuccess, hcapture, hlast.resolve_left fun hmany => ?_⟩⟩
          exact Bool.false_ne_true
            (hsuccess.symm.trans (response.isErroneousResponse_of_tooManyRequests hmany))
      · rintro ⟨response', ⟨-, heq⟩, hsaves⟩
        obtain rfl := Option.some.inj heq
        rcases hsaves with hmany | ⟨hsuccess, hcapture, -⟩
        · exact .inl hmany
        · exact .inr ⟨_, rfl, hsuccess, hcapture⟩
  · -- no answer is handed on
    refine iff_of_false ?_ ?_
    · rintro (hfalse | ⟨_, hfalse, -⟩)
      · exact Bool.false_ne_true hfalse
      · cases hfalse
    · rintro ⟨response, ⟨hlt, hresponse⟩, hsaves⟩
      rcases hlast with heq | ⟨hmany, hnot⟩
      · exact absurd heq hlt.ne'
      · rw [BeaconSend.reply, hresponse] at hmany
        rcases hsaves with htrue | ⟨-, -, hrecords⟩
        · exact Bool.false_ne_true (hmany.symm.trans htrue)
        · exact hnot hrecords

end Fails

/-! ## A server error -/

/-- A server that answers the status request, then the first beacon request with an internal error, and
all later ones with some response. -/
def failingOnce (response : StatusResponse) : Environment where
  response n :=
    if n = 0 then some ⟨.undefined, 200, 0⟩
    else if n = 1 then some (.createErrorResponse 500)
    else some response
  mutableBeaconData _ _ := .nil

/-- The sender has initialised itself, and some time later its first cycle starts. -/
def firstCycle (env : Environment) (w : World) : World :=
  { ((beforeCycle ⟨0, fun _ => 0⟩ env 1 1).run w).2 with currentTime := 200000 }

theorem startsCycle_firstCycle (hw : ∀ p : Sender Unit, Program.Reaches OtherStep (p, noSession) (p, w))
    (hok : ((beforeCycle ⟨0, fun _ => 0⟩ env 1 1).run w).1 = .ok ())
    (hstate : (firstCycle env w).context.currentState = .captureOn)
    (htime : ((beforeCycle ⟨0, fun _ => 0⟩ env 1 1).run w).2.currentTime ≤ 200000) :
    StartsCycle env (firstCycle env w) := by
  refine ⟨hstate, ⟨0, fun _ => 0⟩, 1, 1, fun _ => configuredSession, ⟨1, .nil⟩, ?_⟩
  have hrun := Program.reaches_of_run (R := OtherStep) (Prod.ext hok rfl)
  exact ((hw _).trans hrun).tail (.other _ (.application (.tick _ _ htime)))

/-- A cycle in which the turn of the only finished session comes first, and its send fails. -/
theorem failsIn_of_send (hshutdown : w.context.isShutdownRequested = false)
    (hconfigured : w.context.sessions.filter (fun k => !(w.session k).isConfigured) = [])
    (hfinished : finishedSessions w = [k]) (hallowed : (w.session k).isDataSendingAllowed = true)
    {answer : Answer} (herror : answer.response = .createErrorResponse 500)
    (hsend : ((BeaconSend.send env rounds k).run
      ((w.enter .newSessions).enter .finishedSessions)).1 = .ok (some answer)) :
    FailsIn env rounds k w none answer ((w.enter .newSessions).enter .finishedSessions) := by
  have hnew : (sendNewSessionRequests env).run w = (.ok none, w.enter .newSessions) := by
    have hnone : (w.enter .newSessions).context.sessions.filter
        (fun k => !((w.enter .newSessions).session k).isConfigured) = [] := hconfigured
    rw [sendNewSessionRequests, Program.run_bind_ok (Program.run_write _ _),
      BeaconSendingContext.getAllNotConfiguredSessions, Program.run_bind_ok (run_selectSessions _),
      hnone]
    rfl
  refine ⟨hshutdown, rfl, ⟨w.enter .newSessions, [], [], none, _, hnew, hfinished, rfl, hallowed,
    Prod.ext hsend rfl⟩, ?_, ?_⟩
  · rw [herror]
    rfl
  · rw [herror]
    rfl

/-- One session has reported an event and was finished. -/
theorem reaches_oneFinished (p : Sender Unit) :
    Program.Reaches OtherStep (p, noSession) (p, oneFinished) := by
  have htext : EventData.IsReportText lateText := ⟨by decide, by decide⟩
  refine .head (.other _ (.application
    (.create noSession ⟨1, 0⟩ configuredSession List.not_mem_nil rfl))) ?_
  refine .head (.other _ (.application (.add oneSession ⟨1, 0⟩ .event 0 lateText htext))) ?_
  exact .single (.other _ (.application (.finish _ ⟨1, 0⟩)))

/-- Another session is open. -/
def finishedAndOpen : World :=
  { oneFinished.updateSession ⟨2, 0⟩ fun _ => configuredSession with
    created := [⟨1, 0⟩, ⟨2, 0⟩], context := oneFinished.context.addSession ⟨2, 0⟩ }

/-- It has reported an event. -/
def finishedAndOpenWithEvent : World := finishedAndOpen.addData ⟨2, 0⟩ .event 0 lateText

theorem reaches_finishedAndOpenWithEvent (p : Sender Unit) :
    Program.Reaches OtherStep (p, noSession) (p, finishedAndOpenWithEvent) := by
  have htext : EventData.IsReportText lateText := ⟨by decide, by decide⟩
  refine (reaches_oneFinished p).tail (.other _ (.application
    (.create oneFinished ⟨2, 0⟩ configuredSession (by decide) rfl))) |>.tail ?_
  exact .other _ (.application (.add finishedAndOpen ⟨2, 0⟩ .event 0 lateText htext))

/-- A server that is itself again after the error. -/
def recoveringEnvironment : Environment := failingOnce ⟨.undefined, 200, 0⟩

/-- A cycle with a finished and an open session. -/
def recoveringStart : World := firstCycle recoveringEnvironment finishedAndOpenWithEvent

/-- The turn of the finished session. -/
def recoveringTurn : World := (recoveringStart.enter .newSessions).enter .finishedSessions

def recoveringEnd : World := ((doExecute recoveringEnvironment 2).run recoveringStart).2

theorem openSessionsSave_recovering : OpenSessionsSave recoveringTurn
    (responses recoveringEnvironment 2 recoveringEnd.numRequests) := by
  have hnumber : recoveringEnd.numRequests = 3 := rfl
  refine ⟨⟨.undefined, 200, 0⟩, ?_, .inr ⟨rfl, ⟨rfl, rfl⟩, ⟨2, 0⟩, rfl, ?_⟩⟩
  · rw [hnumber]
    rfl
  · intro hrecords
    exact absurd hrecords.1 (by decide)

/-- The answer to the open session saves the finished one. -/
theorem keeps_recovering : Keeps ⟨1, 0⟩ recoveringTurn recoveringEnd := by
  have hstart : StartsCycle recoveringEnvironment recoveringStart :=
    startsCycle_firstCycle reaches_finishedAndOpenWithEvent rfl rfl (by decide)
  have hfails : FailsIn recoveringEnvironment 2 ⟨1, 0⟩ recoveringStart none
      ⟨1, .createErrorResponse 500⟩ recoveringTurn := failsIn_of_send rfl rfl rfl rfl rfl rfl
  have hrun : (doExecute recoveringEnvironment 2).run recoveringStart = (.ok (), recoveringEnd) :=
    Prod.ext rfl rfl
  exact (keeps_iff hstart hfails hrun).mpr openSessionsSave_recovering

/-- A server that goes on with errors. -/
def failingEnvironment : Environment := failingOnce (.createErrorResponse 500)

/-- A cycle with a finished session and no other. -/
def failingStart : World := firstCycle failingEnvironment oneFinished

def failingEnd : World := ((doExecute failingEnvironment 2).run failingStart).2

/-- The cycle removes the session, and its event is lost. -/
theorem not_keeps :
    ¬ ∀ (env : Environment) (rounds : ℕ) (k : BeaconKey) (w t t' : World)
      (newResponse : Option Answer) (answer : Answer), StartsCycle env w →
        FailsIn env rounds k w newResponse answer t →
          (doExecute env rounds).run w = (.ok (), t') → Keeps k t t' := by
  intro h
  have hstart : StartsCycle failingEnvironment failingStart :=
    startsCycle_firstCycle reaches_oneFinished rfl rfl (by decide)
  have hfails : FailsIn failingEnvironment 2 ⟨1, 0⟩ failingStart none ⟨1, .createErrorResponse 500⟩
      ((failingStart.enter .newSessions).enter .finishedSessions) :=
    failsIn_of_send rfl rfl rfl rfl rfl rfl
  have hrun : (doExecute failingEnvironment 2).run failingStart = (.ok (), failingEnd) :=
    Prod.ext rfl rfl
  have hkept := h failingEnvironment 2 ⟨1, 0⟩ failingStart _ failingEnd none _ hstart hfails hrun
  have hgone : failingEnd.context.sessions = [] := rfl
  rw [Keeps, hgone] at hkept
  exact List.not_mem_nil hkept.1

end CaptureOnState

end OpenKit
