import OpenKit.Objects.CallMoves

/-!
# The events of the end of a session

The event of the end of a session is sent if the session is ended by its proxy as its current session.
It is not sent for sessions that are split off, or whose grace period is over. But a session that was
tried for ending, and ends because its last child is closed, sends the event as well. In a run without
such a step, sessions report their end only if they are ended explicitly.

## Main definitions

* `OpenKitInstance.EndedExplicitly`: the end was called on a proxy while the session was its current one
* `OpenKitInstance.EndsOnlyExplicitly`: the ends that are reported are such
* `OpenKitInstance.EndsWaiting`: a call closes the last child of a session that waits for it, and the
  session reports its end

## Main results

* `endsOnlyExplicitly_afterCalls`: the runs without such a call
-/

namespace OpenKit

open Thread

namespace SessionCalls

open BeaconReports

variable {caller : Caller} {s : Reporting}

/-- The end of a session is reported, if it is to be. -/
def reportsEnd (b : Beacon) : Bool :=
  b.privacyConfiguration.isSessionReportingAllowed && b.isDataCapturingEnabled

theorem reportsEnd_of_sameButNumbers {b b' : Beacon} (h : b.SameButNumbers b') :
    reportsEnd b' = reportsEnd b := by
  rw [reportsEnd, reportsEnd, h.isDataCapturingEnabled, Beacon.privacyConfiguration,
    h.beaconConfiguration]
  rfl

theorem run_endSession_of_not_reportsEnd (h : reportsEnd s.beacon = false) :
    (endSession caller).run s = (.ok (), s) := by
  rw [endSession, report, Program.run_bind_ok (Program.run_read _ s)]
  rw [reportsEnd] at h
  cases hallowed : s.beacon.privacyConfiguration.isSessionReportingAllowed with
  | false => rfl
  | true =>
    rw [hallowed, Bool.true_and] at h
    rw [Bool.not_true, if_neg Bool.false_ne_true, Program.run_bind_ok (Program.run_read _ s), h]
    rfl

/-- A session that does not report its end ends like one that is not to report it. -/
theorem run_endWith_of_not_reportsEnd (h : reportsEnd s.beacon = false) :
    (endWith caller true).run s = (endWith caller false).run s := by
  rw [endWith, endWith, Program.run_bind_ok (Program.run_read _ s),
    Program.run_bind_ok (Program.run_read _ s)]
  split
  · rfl
  · rw [Program.run_bind_ok (Program.run_write _ s), Program.run_bind_ok (Program.run_write _ s),
      Program.run_bind_ok (Program.run_read _ _), Program.run_bind_ok (Program.run_read _ _)]
    generalize hr : s.setSession { s.session with isSessionFinishing := true } = r
    have hreturns : (leaveChildren caller false r.session.children).Returns :=
      returns_leaveChildren false _
    obtain ⟨_, t, hleave⟩ := hreturns.run r
    have hguarantees : Program.Guarantees (ReportStepOf fun _ => True)
        (leaveChildren caller false r.session.children) :=
      guarantees_leaveChildren false trivial trivial _
    have hstep : ReportStepOf (fun _ => True) r t :=
      hguarantees.run ReportStepOf.refl (fun _ _ _ => ReportStepOf.trans) hleave
    have hsame : s.beacon.SameButNumbers t.beacon := by
      have hbeacon := hstep.beacon
      rw [← hr] at hbeacon
      exact hbeacon
    rw [Program.run_bind_ok hleave, Program.run_bind_ok hleave, updateChildren,
      Program.run_bind_ok (Program.run_write _ t), Program.run_bind_ok (Program.run_write _ t)]
    have hsilent : reportsEnd (t.setSession { t.session with children := [] }).beacon = false := by
      rw [← h]
      exact reportsEnd_of_sameButNumbers hsame
    rw [if_pos rfl, Program.run_bind_ok (run_endSession_of_not_reportsEnd hsilent)]
    rfl

/-- The last child of a session that does not report its end. -/
theorem callStepOf_of_closesLastChild {s' : Reporting} {call : SessionCall}
    {x : Except BeaconError Unit} (hlast : call.closesLastChild s.session = true)
    (hsilent : reportsEnd s.beacon = false) (hrun : (perform caller call).run s = (x, s')) :
    CallStepOf (· ≠ .sessionEnd) s s' := by
  cases call with
  | onObject handle objectCall =>
    rw [perform, Program.run_bind_ok (Program.run_read _ s)] at hrun
    rw [SessionCall.closesLastChild] at hlast
    cases hfind : OpenKitObject.findIn handle s.session.children with
    | none =>
      rw [hfind] at hlast
      cases hlast
    | some object =>
      rw [hfind] at hrun hlast
      dsimp only at hrun hlast
      obtain ⟨t, -, -, -, -, hstep, hrunT⟩ := run_close caller handle
        (Bool.and_eq_true_iff.mp hlast).1 s
      rw [hrunT] at hrun
      split at hrun
      · have hsilentT : reportsEnd t.beacon = false := by
          rwa [reportsEnd_of_sameButNumbers hstep.beacon]
        rw [run_endWith_of_not_reportsEnd hsilentT] at hrun
        exact hstep.trans (guarantees_endWith_false.run CallStepOf.refl
          (fun _ _ _ => CallStepOf.trans) hrun)
      · obtain ⟨-, rfl⟩ := Prod.mk.inj hrun
        exact hstep
  | _ => cases hlast

end SessionCalls

namespace OpenKitInstance

open SessionCalls

variable {env : InstanceEnvironment} {caller : Caller} {s t u : OpenKitInstance} {p : ProxyRef}
  {k : SessionRef}

/-! ## The records of moves -/

/-- Records are added, none of them of the end of a session other than some. -/
def AddsEndsOf (sessions : SessionRef → Prop) (s t : OpenKitInstance) : Prop :=
  ∃ new, t.records = s.records ++ new ∧
    ∀ record ∈ new, EventData.HasEventType .sessionEnd record.2.data → sessions record.1

namespace AddsEndsOf

variable {sessions : SessionRef → Prop}

theorem of_eq (h : t.records = s.records) : AddsEndsOf sessions s t :=
  ⟨[], by rw [h, List.append_nil], List.forall_mem_nil _⟩

theorem trans (h : AddsEndsOf sessions s t) (h' : AddsEndsOf sessions t u) :
    AddsEndsOf sessions s u := by
  obtain ⟨new, hrecords, hnew⟩ := h
  obtain ⟨new', hrecords', hnew'⟩ := h'
  refine ⟨new ++ new', ?_, List.forall_mem_append.mpr ⟨hnew, hnew'⟩⟩
  rw [hrecords', hrecords, List.append_assoc]

theorem records_afterReport (r : Reporting) :
    (s.afterReport k r).records = s.records ++ r.records.map fun record => (k, record) := by
  rcases afterReport_cases s k r with h | h
  · rw [h]
    rfl
  · rw [h]
    rfl

/-- A report of no end. -/
theorem afterReport {r : Reporting} (h : CallStepOf (· ≠ .sessionEnd) (s.reporting k) r) :
    AddsEndsOf sessions s (s.afterReport k r) := by
  refine ⟨_, records_afterReport r, fun record hrecord hend => ?_⟩
  obtain ⟨record', hrecord', rfl⟩ := List.mem_map.mp hrecord
  obtain ⟨eventType, hne, htype⟩ := h.hasEventTypeOf r.records rfl record' hrecord'
  exact absurd (htype.unique hend) hne

/-- A report of the end of a session that may end. -/
theorem afterReport_of {r : Reporting} (h : sessions k) :
    AddsEndsOf sessions s (s.afterReport k r) := by
  refine ⟨_, records_afterReport r, fun record hrecord _ => ?_⟩
  obtain ⟨record', -, rfl⟩ := List.mem_map.mp hrecord
  exact h

theorem endWith : AddsEndsOf sessions s (s.ranOn k (SessionCalls.endWith caller false)) :=
  afterReport (guarantees_endWith_false.run CallStepOf.refl (fun _ _ _ => CallStepOf.trans) rfl)

theorem perform {call : SessionCall} (hclose : call ≠ .close)
    (hobject : ∀ handle objectCall, call ≠ .onObject handle objectCall) :
    AddsEndsOf sessions s (s.ranOn k (SessionCalls.perform caller call)) :=
  afterReport ((plain_perform hclose hobject).run PlainStep.refl (fun _ _ _ => PlainStep.trans)
    rfl).toCallStepOf

theorem forwarded {call : SessionCall} (hclose : call ≠ .close)
    (hobject : ∀ handle objectCall, call ≠ .onObject handle objectCall) :
    AddsEndsOf sessions s (s.forwarded env caller p k call) := by
  have hinteracted : AddsEndsOf sessions s
    ((s.interacted env p).remember (.forwarded p k call)) := of_eq rfl
  exact hinteracted.trans (perform hclose hobject)

theorem closed {closeGracePeriodInMillis : ℤ}
    (h : s.Closed env caller k closeGracePeriodInMillis t) : AddsEndsOf sessions s t := by
  cases h with
  | ended _ => exact endWith
  | enqueued h => exact of_eq h.records

theorem reTagged (h : s.ReTagged caller p t) : AddsEndsOf sessions s t := by
  cases h with
  | untagged _ => exact of_eq rfl
  | @tagged k _ _ =>
    have hremembered : AddsEndsOf sessions s
      (s.remember (.reTagged p k (s.proxy p).lastUserTag)) := of_eq rfl
    exact hremembered.trans (perform nofun nofun)

theorem split {anew : Bool} (h : s.Split env caller p anew t) : AddsEndsOf sessions s t := by
  obtain ⟨-, -, hclosed, hmade, htagged⟩ := h
  refine (closed hclosed).trans (trans (of_eq ?_) (reTagged htagged))
  rw [hmade.records]
  cases anew with
  | true => rfl
  | false => rfl

/-- **The moves that report no end**: all but those of `end` and of the calls on objects. -/
theorem move {call : InstanceCall} (hmove : Move env call s t)
    (hclose : ∀ p threadID, call ≠ .onProxy p threadID .close)
    (hobject : ∀ k threadID handle objectCall, call ≠ .onObject k threadID handle objectCall) :
    AddsEndsOf sessions s t := by
  cases hmove with
  | readClock => exact of_eq rfl
  | setContext context => exact of_eq rfl
  | @enter p threadID name k _ huse hsplit =>
    rw [entered]
    split
    · have hcounted : AddsEndsOf sessions s (s.counted p) := of_eq rfl
      refine hcounted.trans (forwarded (fun hcall => ?_) fun _ _ hcall => ?_)
      · cases hcall
      · cases hcall
    · refine forwarded (fun hcall => ?_) fun _ _ hcall => ?_
      · cases hcall
      · cases hcall
  | forward huse hreport =>
    refine forwarded (fun hcall => ?_) fun handle objectCall hcall => ?_
    · subst hcall
      cases hreport
    · subst hcall
      cases hreport
  | @identify p threadID userTag k _ huse =>
    have hforwarded : AddsEndsOf sessions s
        (s.forwarded env ⟨threadID, env.clock⟩ p k (.identifyUser userTag)) := by
      refine forwarded (fun hcall => ?_) fun _ _ hcall => ?_
      · cases hcall
      · cases hcall
    exact hforwarded.trans (of_eq rfl)
  | split hmade hunfinished hsplit => exact split hsplit
  | finish hmade hunfinished => exact absurd rfl (hclose _ _)
  | onObject hk => exact absurd rfl (hobject _ _ _ _)
  | endSession hk => exact endWith
  | @expire _ _ k _ hk =>
    have hdequeued : AddsEndsOf sessions s (s.dequeueFromClosing k) := of_eq rfl
    exact hdequeued.trans endWith
  | unsplit => exact of_eq rfl
  | configure hk hconfigure => exact of_eq hconfigure.records
  | decrease hk => exact of_eq rfl
  | create hmade => exact of_eq hmade.records

theorem moves {call : InstanceCall} (hmoves : Moves env call s t)
    (hclose : ∀ p threadID, call ≠ .onProxy p threadID .close)
    (hobject : ∀ k threadID handle objectCall, call ≠ .onObject k threadID handle objectCall) :
    AddsEndsOf sessions s t := by
  induction hmoves with
  | refl => exact of_eq rfl
  | tail _ hmove ih => exact ih.trans (move hmove hclose hobject)

/-- The sessions of a proxy are ended: only its current one reports its end. -/
theorem endedAll (ks : List SessionRef) :
    AddsEndsOf (fun k => (s.proxy p).currentSession = some k) s (s.endedAll caller p ks) := by
  induction ks generalizing s with
  | nil => exact of_eq rfl
  | cons k ks ih =>
    rw [OpenKitInstance.endedAll]
    have hrest := ih (s := s.ranOn k
      (SessionCalls.endWith caller (some k == (s.proxy p).currentSession)))
    rw [sessionRun_endWith.currentSession] at hrest
    refine trans ?_ hrest
    cases hcurrent : some k == (s.proxy p).currentSession with
    | true => exact afterReport_of (beq_iff_eq.mp hcurrent).symm
    | false => exact endWith

end AddsEndsOf

/-! ## Explicit ends -/

/-- In a run, the end was called on a proxy in use while the session was its current one. -/
def EndedExplicitly (env : InstanceEnvironment) (s : OpenKitInstance) (calls : List InstanceCall)
    (k : SessionRef) : Prop :=
  ∃ earlier p threadID, earlier ++ [.onProxy p threadID .close] <+: calls ∧
    (s.afterCalls env earlier).InUse p k

/-- **End events are explicit only**: in a run, a session has the event of its end among its records only
if it was ended explicitly. -/
def EndsOnlyExplicitly (env : InstanceEnvironment) (s : OpenKitInstance)
    (calls : List InstanceCall) : Prop :=
  ∀ record ∈ (s.afterCalls env calls).records,
    EventData.HasEventType .sessionEnd record.2.data → EndedExplicitly env s calls record.1

/-- A call closes the last child of a session that was tried for ending, and the session reports its
end. -/
def EndsWaiting (s : OpenKitInstance) : InstanceCall → Bool
  | .onObject k _ handle call => k < s.sessions.size &&
      (SessionCall.closesLastChild (s.session k).session (.onObject handle call) &&
        reportsEnd (s.session k).session.beacon)
  | _ => false

/-- A call on an object of a session reports no end but in this case. -/
theorem addsEndsOf_onObject {sessions : SessionRef → Prop} {threadID handle : ℤ} {call : ObjectCall}
    (hk : k < s.sessions.size)
    (h : s.EndsWaiting (.onObject k threadID handle call) = false) :
    AddsEndsOf sessions s (s.ranOn k (SessionCalls.perform caller (.onObject handle call))) := by
  rw [EndsWaiting, decide_eq_true hk, Bool.true_and] at h
  cases hlast : SessionCall.closesLastChild (s.session k).session (.onObject handle call) with
  | false =>
    have hclose : SessionCall.onObject handle call ≠ .close := nofun
    have hplain : PlainStep (s.reporting k)
        ((SessionCalls.perform caller (.onObject handle call)).run (s.reporting k)).2 :=
      plainStep_of_run_perform hclose hlast rfl
    exact AddsEndsOf.afterReport hplain.toCallStepOf
  | true =>
    -- the session ends, but does not report it
    rw [hlast, Bool.true_and] at h
    refine AddsEndsOf.afterReport ?_
    have hlast' : SessionCall.closesLastChild (s.reporting k).session (.onObject handle call) = true :=
      hlast
    exact callStepOf_of_closesLastChild hlast' h rfl

/-- **One call**: the ends that it reports are those of current sessions of proxies that it ends. -/
theorem addsEndsOf_afterCall (hsound : s.Sound) {call : InstanceCall}
    (h : s.EndsWaiting call = false) :
    AddsEndsOf (fun k => ∃ p threadID, call = .onProxy p threadID .close ∧ s.InUse p k) s
      (s.afterCall env call) := by
  by_cases hclose : ∃ p threadID, call = .onProxy p threadID .close
  · obtain ⟨p, threadID, rfl⟩ := hclose
    by_cases hvalid : (InstanceCall.onProxy p threadID .close).isValid s = true
    · have hmade : p < s.proxies.size := of_decide_eq_true hvalid
      rw [afterCall, run_perform_of_isValid hvalid]
      show AddsEndsOf _ s ((SessionProxies.endProxy p ⟨threadID, env.clock⟩).run s).2
      cases hfinished : (s.proxy p).isFinished with
      | true =>
        rw [SessionProxies.endProxy, SessionProxies.whenUnfinished,
          Program.run_bind_ok (Program.run_read _ s), hfinished]
        exact .of_eq rfl
      | false =>
        rw [SessionProxies.run_endProxy hfinished]
        have hended : AddsEndsOf _ _ ((s.markedFinished p).endedAll ⟨threadID, env.clock⟩ p
          (s.proxy p).children) := AddsEndsOf.endedAll _
        have hcurrent : ((s.markedFinished p).proxy p).currentSession =
            (s.proxy p).currentSession := by
          rw [markedFinished, proxy_updateProxy_self]
        rw [hcurrent] at hended
        obtain ⟨added, hrecords, hadded⟩ := hended
        refine ⟨added, hrecords, fun record hrecord hend => ?_⟩
        exact ⟨p, threadID, rfl, hmade, hfinished, hadded record hrecord hend⟩
    · rw [afterCall, run_perform_of_not_isValid hvalid]
      exact .of_eq rfl
  · by_cases hobject : ∃ k threadID handle objectCall, call = .onObject k threadID handle objectCall
    · obtain ⟨k, threadID, handle, objectCall, rfl⟩ := hobject
      by_cases hvalid : (InstanceCall.onObject k threadID handle objectCall).isValid s = true
      · rw [afterCall, run_perform_of_isValid hvalid]
        show AddsEndsOf _ s ((SessionProxies.onSession k _).run s).2
        rw [SessionProxies.run_onSession_snd]
        exact addsEndsOf_onObject (of_decide_eq_true hvalid) h
      · rw [afterCall, run_perform_of_not_isValid hvalid]
        exact .of_eq rfl
    · refine AddsEndsOf.moves (moves_afterCall hsound call) (fun p threadID hcall => ?_)
        fun k threadID handle objectCall hcall => ?_
      · exact hclose ⟨p, threadID, hcall⟩
      · exact hobject ⟨k, threadID, handle, objectCall, hcall⟩

theorem EndedExplicitly.concat {calls : List InstanceCall} (h : EndedExplicitly env s calls k)
    (call : InstanceCall) : EndedExplicitly env s (calls ++ [call]) k := by
  obtain ⟨earlier, p, threadID, hprefix, huse⟩ := h
  exact ⟨earlier, p, threadID, hprefix.trans (List.prefix_append _ _), huse⟩

/-- **End events are explicit only** in every run in which no call closes the last child of a session
that waits for it and reports its end. -/
theorem endsOnlyExplicitly_afterCalls (http : HTTPClientConfiguration)
    (provider : SessionIDProvider) (calls : List InstanceCall)
    (h : ∀ earlier call, earlier ++ [call] <+: calls →
      ((new http provider env).afterCalls env earlier).EndsWaiting call = false) :
    EndsOnlyExplicitly env (new http provider env) calls := by
  induction calls using List.reverseRecOn with
  | nil =>
    intro record hrecord
    cases hrecord
  | append_singleton calls call ih =>
    intro record hrecord hend
    have hsound := sound_afterCalls env http provider calls
    obtain ⟨added, hrecords, hadded⟩ :=
      addsEndsOf_afterCall hsound (h calls call List.prefix_rfl)
    rw [afterCalls_concat, hrecords] at hrecord
    rcases List.mem_append.mp hrecord with hold | hnew
    · have hearlier := ih fun earlier call' hprefix =>
        h earlier call' (List.IsPrefix.trans hprefix (List.prefix_append _ _))
      exact (hearlier record hold hend).concat call
    · obtain ⟨p, threadID, rfl, huse⟩ := hadded record hnew hend
      exact ⟨calls, p, threadID, List.prefix_rfl, huse⟩

/-- A response that lets a session have one event. -/
def singleEventAnswer : Answer :=
  ⟨0, ResponseAttributes.jsonResponse.withMaxEventsPerSession 1, 200, 0⟩

/-- The second action is entered on a new session, while the first session waits for its action. -/
def splitCalls : List InstanceCall :=
  [.createSession, .requestNewSession 0 (some singleEventAnswer),
    .onProxy 0 1 (.enterAction (.ofAscii ['a'])), .onProxy 0 1 (.enterAction (.ofAscii ['b']))]

/-- The grace period of the first session is over, and the proxy is ended. -/
theorem endsOnlyExplicitly_splitCalls : EndsOnlyExplicitly .plain (new ⟨1, .nil⟩ ⟨0⟩ .plain)
    (splitCalls ++ [.closeExpiredSession 0 1, .onProxy 0 1 .close]) := by
  refine endsOnlyExplicitly_afterCalls ⟨1, .nil⟩ ⟨0⟩ _ fun earlier call hprefix => ?_
  have hmem : call ∈ splitCalls ++ [.closeExpiredSession 0 1, .onProxy 0 1 .close] :=
    hprefix.subset (List.mem_append_right _ (List.mem_singleton.mpr rfl))
  simp only [splitCalls, List.cons_append, List.nil_append, List.mem_cons, List.not_mem_nil,
    or_false] at hmem
  rcases hmem with rfl | rfl | rfl | rfl | rfl | rfl <;> rfl

/-- The action of the first session is left, and the session reports its end. -/
theorem not_endsOnlyExplicitly : ¬ ∀ (env : InstanceEnvironment) (http : HTTPClientConfiguration)
    (provider : SessionIDProvider) (calls : List InstanceCall),
    EndsOnlyExplicitly env (new http provider env) calls := by
  intro h
  let calls := splitCalls ++ [.onObject 0 1 1 .leaveAction]
  have hends : ∃ record ∈ ((new ⟨1, .nil⟩ ⟨0⟩ .plain).afterCalls .plain calls).records,
      (EventData.eventTypePrefix .sessionEnd).data <+: record.2.data.data ∧
        (EventData.eventTypePrefix .sessionEnd).stringLength ≤ record.2.data.stringLength := by
    decide +kernel
  obtain ⟨record, hrecord, hend⟩ := hends
  obtain ⟨earlier, p, threadID, hprefix, -⟩ := h .plain ⟨1, .nil⟩ ⟨0⟩ calls record hrecord hend
  have hmem : InstanceCall.onProxy p threadID .close ∈ calls :=
    hprefix.subset (List.mem_append_right _ (List.mem_singleton.mpr rfl))
  simp [calls, splitCalls] at hmem

end OpenKitInstance

end OpenKit
