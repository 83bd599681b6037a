import OpenKit.Communication.Ledger
import OpenKit.Objects.SessionCalls

/-!
# The calls of the application on the shared state

A call on a session changes the session, and adds the records it reports to the cache. Taken as one
step, it is a run of the steps that the sending thread allows for other threads: records are added
while the session is not finished, then the session changes, and is finished in the end.

## Main definitions

* `World.call`: the state after a call on a session
* `SystemStep allowed`: a call, a new session, or a step of the sender on the sessions

## Main results

* `appSteps_of_call`: a call is a run of steps of the application
* `World.Orderly.of_reaches`: sessions are settled in every state reached
-/

namespace OpenKit

open Thread

namespace World

/-- Some records of a beacon are added to the cache. -/
def addRecords (w : World) (k : BeaconKey) (records : List BeaconRecord) : World :=
  records.foldl (fun w record => w.addData k record.kind record.timestamp record.data) w

/-- What a program that works on a session leaves: the session, and the records reported. -/
def afterReport (w : World) (k : BeaconKey) (p : Reporter Unit) : Reporting :=
  (p.run ⟨w.session k, 0, []⟩).2

/-- The session after such a program, and the records it reported in the cache. -/
def report (w : World) (k : BeaconKey) (p : Reporter Unit) : World :=
  (w.addRecords k (w.afterReport k p).records).updateSession k
    fun _ => (w.afterReport k p).session

/-- What a call on a session leaves: the session, and the records reported. -/
def afterCall (w : World) (k : BeaconKey) (caller : Caller) (call : SessionCall) : Reporting :=
  ((SessionCalls.perform caller call).run ⟨w.session k, 0, []⟩).2

/-- A call on a session. An exception of the beacon ends the call where it is raised. -/
def call (w : World) (k : BeaconKey) (caller : Caller) (call : SessionCall) : World :=
  (w.addRecords k (w.afterCall k caller call).records).updateSession k
    fun _ => (w.afterCall k caller call).session

section AddRecords

variable (w : World) (k : BeaconKey) (records : List BeaconRecord)

@[simp] theorem addRecords_nil : w.addRecords k [] = w := rfl

@[simp] theorem addRecords_cons (record : BeaconRecord) :
    w.addRecords k (record :: records) =
      (w.addData k record.kind record.timestamp record.data).addRecords k records := rfl

@[simp] theorem sessions_addRecords : (w.addRecords k records).sessions = w.sessions := by
  induction records generalizing w with
  | nil => rfl
  | cons record records ih => exact ih _

@[simp] theorem session_addRecords (k' : BeaconKey) :
    (w.addRecords k records).session k' = w.session k' :=
  congrFun (w.sessions_addRecords k records) k'

@[simp] theorem created_addRecords : (w.addRecords k records).created = w.created := by
  induction records generalizing w with
  | nil => rfl
  | cons record records ih => exact ih _

@[simp] theorem context_addRecords : (w.addRecords k records).context = w.context := by
  induction records generalizing w with
  | nil => rfl
  | cons record records ih => exact ih _

/-- The log tells each record added. -/
@[simp] theorem currentTime_addRecords :
    (w.addRecords k records).currentTime = w.currentTime := by
  induction records generalizing w with
  | nil => rfl
  | cons record records ih => exact ih _

theorem log_addRecords :
    (w.addRecords k records).log =
      w.log ++ records.map fun record => .added k record.kind (.new record.timestamp record.data) := by
  induction records generalizing w with
  | nil => exact (List.append_nil _).symm
  | cons record records ih =>
    rw [addRecords_cons, ih]
    simp [addData]

end AddRecords

section Call

variable (w : World) (k : BeaconKey) (caller : Caller) (call : SessionCall)

theorem callStep_afterCall :
    CallStep ⟨w.session k, 0, []⟩ (w.afterCall k caller call) :=
  SessionCalls.callStep_of_run_perform rfl

theorem session_call (k' : BeaconKey) :
    (w.call k caller call).session k' =
      if k' = k then (w.afterCall k caller call).session else w.session k' := by
  rw [World.call, session_updateSession, session_addRecords]

@[simp] theorem created_call : (w.call k caller call).created = w.created := by
  rw [World.call, created_updateSession, created_addRecords]

@[simp] theorem context_call : (w.call k caller call).context = w.context := by
  rw [World.call, context_updateSession, context_addRecords]

theorem log_call :
    (w.call k caller call).log = w.log ++ (w.afterCall k caller call).records.map fun record =>
      .added k record.kind (.new record.timestamp record.data) := by
  rw [World.call, log_updateSession, log_addRecords]

/-- The texts of the records of a call are those of reports, and capturing was enabled. -/
theorem mem_records_afterCall {record : BeaconRecord}
    (h : record ∈ (w.afterCall k caller call).records) :
    EventData.IsReportText record.data ∧ (w.session k).beacon.isDataCapturingEnabled = true := by
  obtain ⟨new, hrecords, hnew⟩ := (w.callStep_afterCall k caller call).records
  rw [hrecords] at h
  exact hnew record h

/-- A call without capturing adds no record. -/
theorem records_afterCall_of_disabled
    (h : (w.session k).beacon.isDataCapturingEnabled = false) :
    (w.afterCall k caller call).records = [] := by
  refine List.eq_nil_iff_forall_not_mem.mpr fun record hrecord => ?_
  have henabled := (w.mem_records_afterCall k caller call hrecord).2
  exact Bool.false_ne_true (h.symm.trans henabled)

theorem settled_afterCall (h : (w.session k).Settled) :
    (w.afterCall k caller call).session.Settled :=
  SessionCalls.settled_of_run_perform (x := ((SessionCalls.perform caller call).run _).1) h rfl

/-- A call on a finished session changes nothing. -/
theorem afterCall_of_finished (h : (w.session k).Settled)
    (hfinished : (w.session k).isSessionFinished = true) :
    w.afterCall k caller call = ⟨w.session k, 0, []⟩ := by
  rw [afterCall, SessionCalls.run_perform_of_finished call h hfinished]

end Call

end World

section AppSteps

variable {w : World} {k : BeaconKey} {caller : Caller} {call : SessionCall}

/-- The records of a call are added while the session is not finished. -/
theorem appSteps_of_addRecords {records : List BeaconRecord}
    (hopen : (w.session k).isSessionFinished = false)
    (htext : ∀ record ∈ records, EventData.IsReportText record.data) :
    Relation.ReflTransGen (AppStep Reports) w (w.addRecords k records) := by
  induction records generalizing w with
  | nil => exact .refl
  | cons record records ih =>
    obtain ⟨hrecord, hrecords⟩ := List.forall_mem_cons.mp htext
    exact .head (.add w k record.kind record.timestamp record.data ⟨hopen, hrecord⟩)
      (ih hopen hrecords)

/-- The session changes, and may be finished in the end. -/
theorem appSteps_of_session {session : Session} (hopen : (w.session k).IsOpen)
    (hbeacon : (w.session k).beacon.SameButNumbers session.beacon)
    (hrequests : session.numRemainingNewSessionRequests =
      (w.session k).numRemainingNewSessionRequests) (hsettled : session.Settled) :
    Relation.ReflTransGen (AppStep Reports) w (w.updateSession k fun _ => session) := by
  cases hfinished : session.isSessionFinished with
  | false =>
    have h := hsettled.isOpen hfinished
    exact .single (.touch w k session
      ⟨hbeacon, hrequests, h.1.trans hopen.1.symm, h.2.trans hopen.2.symm⟩)
  | true =>
    -- it changes first, and is marked as finished then
    let unfinished : Session :=
      { session with isSessionFinishing := false, isSessionFinished := false }
    have htouch : AppStep Reports w (w.updateSession k fun _ => unfinished) :=
      .touch w k unfinished ⟨hbeacon, hrequests, hopen.1.symm, hopen.2.symm⟩
    have hfinish : AppStep Reports (w.updateSession k fun _ => unfinished)
        ((w.updateSession k fun _ => unfinished).updateSession k (·.markAsFinished)) := .finish _ k
    have hmarked : unfinished.markAsFinished = session := by
      have hfinishing := hsettled.finishing.trans hfinished
      cases session
      simp_all [unfinished, Session.markAsFinished]
    have hworld : (w.updateSession k fun _ => unfinished).updateSession k (·.markAsFinished) =
        w.updateSession k fun _ => session := by
      simp only [World.updateSession, Function.update_idem, Function.update_self, hmarked]
    rw [hworld] at hfinish
    exact .tail (.single htouch) hfinish

/-- **A call** on a settled session is a run of steps of the application. -/
theorem appSteps_of_call (h : (w.session k).Settled) :
    Relation.ReflTransGen (AppStep Reports) w (w.call k caller call) := by
  cases hfinished : (w.session k).isSessionFinished with
  | true =>
    rw [World.call, w.afterCall_of_finished k caller call h hfinished]
    exact .single (.touch w k _ ⟨.refl _, rfl, rfl, rfl⟩)
  | false =>
    have hstep := w.callStep_afterCall k caller call
    refine (appSteps_of_addRecords hfinished fun record hrecord =>
      (w.mem_records_afterCall k caller call hrecord).1).trans (appSteps_of_session ?_ ?_ ?_ ?_)
    · rw [World.session_addRecords]
      exact h.isOpen hfinished
    · rw [World.session_addRecords]
      exact hstep.beacon
    · rw [World.session_addRecords]
      exact hstep.numRemainingNewSessionRequests
    · exact w.settled_afterCall k caller call h

end AppSteps

/-! ## The steps of the whole -/

/-- A step of the whole, as far as the sessions are concerned: the application calls a session or
creates one, the sender changes the configuration of a session where `allowed` allows it, clears
data, lets sessions leave the context and works on the rest of the context. -/
inductive SystemStep (allowed : BeaconConfiguration → Prop) : World → World → Prop
  | call (w : World) (k : BeaconKey) (caller : Caller) (call : SessionCall) :
      SystemStep allowed w (w.call k caller call)
  | create (w : World) (k : BeaconKey) (session : Session) (hnew : k ∉ w.created)
      (hsettled : session.Settled) :
      SystemStep allowed w
        { w.updateSession k fun _ => session with
          created := w.created ++ [k]
          context := w.context.addSession k }
  | configure (w : World) (k : BeaconKey) (f : BeaconConfiguration → BeaconConfiguration)
      (h : allowed (f (w.session k).beacon.beaconConfiguration)) :
      SystemStep allowed w (w.updateSession k (·.configure f))
  | decrease (w : World) (k : BeaconKey) :
      SystemStep allowed w (w.updateSession k (·.decreaseNumRemainingSessionRequests))
  | clear (w : World) (phase : Phase) (k : BeaconKey) :
      SystemStep allowed w ((w.setCache (w.cache.deleteCacheEntry k)).write (.cleared phase k))
  | setContext (w : World) (context : BeaconSendingContext)
      (h : context.sessions.Sublist w.context.sessions) :
      SystemStep allowed w (w.setContext context)
  | tick (w : World) (currentTime : ℤ) (h : w.currentTime ≤ currentTime) :
      SystemStep allowed w { w with currentTime := currentTime }

/-- The sessions of the context were created, and the created sessions are settled. -/
structure World.Orderly (w : World) : Prop where
  created : ∀ k ∈ w.context.sessions, k ∈ w.created
  settled : ∀ k ∈ w.created, (w.session k).Settled
  nodup : w.context.sessions.Nodup

namespace World.Orderly

variable {allowed : BeaconConfiguration → Prop} {w w' : World}

theorem new (sessions : BeaconKey → Session) {context : BeaconSendingContext}
    (h : context.sessions = []) : (World.new sessions context).Orderly := by
  refine ⟨fun k hk => ?_, List.forall_mem_nil _, ?_⟩
  · change k ∈ context.sessions at hk
    rw [h] at hk
    exact absurd hk List.not_mem_nil
  · change context.sessions.Nodup
    rw [h]
    exact List.nodup_nil

theorem step (h : w.Orderly) (hstep : SystemStep allowed w w') : w'.Orderly := by
  cases hstep with
  | call k caller call =>
    refine ⟨?_, fun k' hk' => ?_, ?_⟩
    · rw [context_call, created_call]
      exact h.created
    · rw [created_call] at hk'
      rw [session_call]
      split
      next hkk =>
        subst hkk
        exact w.settled_afterCall k' caller call (h.settled k' hk')
      next => exact h.settled k' hk'
    · rw [context_call]
      exact h.nodup
  | create k session hnew hsettled =>
    refine ⟨fun k' hk' => ?_, fun k' hk' => ?_, ?_⟩
    · rcases List.mem_append.mp hk' with hk' | hk'
      · exact List.mem_append_left _ (h.created k' hk')
      · exact List.mem_append_right _ hk'
    · show ((w.updateSession k fun _ => session).session k').Settled
      rw [session_updateSession]
      split
      next => exact hsettled
      next hkk =>
        rcases List.mem_append.mp hk' with hk' | hk'
        · exact h.settled k' hk'
        · exact absurd (List.mem_singleton.mp hk') hkk
    · have hk : k ∉ w.context.sessions := fun hk => hnew (h.created k hk)
      exact List.nodup_append_comm.mp (List.nodup_cons.mpr ⟨hk, h.nodup⟩)
  | configure k f =>
    refine ⟨h.created, fun k' hk' => ?_, h.nodup⟩
    rw [session_updateSession]
    split
    · exact ⟨(h.settled k' hk').finishing, (h.settled k' hk').children⟩
    · exact h.settled k' hk'
  | decrease k =>
    refine ⟨h.created, fun k' hk' => ?_, h.nodup⟩
    rw [session_updateSession]
    split
    · exact ⟨(h.settled k' hk').finishing, (h.settled k' hk').children⟩
    · exact h.settled k' hk'
  | clear phase k => exact ⟨h.created, h.settled, h.nodup⟩
  | setContext context hsub =>
    exact ⟨fun k hk => h.created k (hsub.subset hk), h.settled, hsub.nodup h.nodup⟩
  | tick => exact ⟨h.created, h.settled, h.nodup⟩

/-- **Sessions are settled** in every state reached. -/
theorem of_reaches (h : w.Orderly) (hreaches : Relation.ReflTransGen (SystemStep allowed) w w') :
    w'.Orderly := by
  induction hreaches with
  | refl => exact h
  | tail _ hstep ih => exact ih.step hstep

end World.Orderly

end OpenKit
