import OpenKit.Communication.ApplicationCalls
import OpenKit.Communication.FailedTransmission

/-!
# After capturing is disabled

`disableCaptureAndClear` turns capturing off in the configuration of the context, "so no further data
will get collected", and clears the data of all sessions. But a beacon asks its own configuration
whether capturing is enabled, and that is left as it is. So data is collected on, for each session
that is still open and whose own configuration has capturing enabled. The last flush also turns it
on, without any response, for each session that never got a configuration.

## Main definitions

* `LeavesCaptureOff`: the configurations that a beacon may get while no response turns capturing on
* `UnansweredStep`: a step of the whole while no response turns capturing on
* `CollectsNothing`: no call adds a record to a session of the context
* `Session.IsSilent`: a session for which no call adds a record, also after the last flush

## Main results

* `run_disableCaptureAndClear`: no session changes, and the unfinished ones stay in the context
* `collectsNothing_iff`: nothing is collected iff each session is finished, or has capturing disabled
  in its own configuration, for an unconfigured one not only by the capture flag
-/

namespace OpenKit

open Thread

/-- A configuration with capturing off that was set by the sender. -/
def LeavesCaptureOff (c : BeaconConfiguration) : Prop :=
  c.isServerConfigurationSet = true ∧ c.getServerConfiguration.isCaptureEnabled = false

/-- A step of the whole while no response turns capturing on. The last flush still enables capturing
for the sessions that have no configuration yet, which needs no response. -/
inductive UnansweredStep : World → World → Prop
  | system {w w' : World} (h : SystemStep LeavesCaptureOff w w') : UnansweredStep w w'
  | enableCapture (w : World) (k : BeaconKey) (hk : k ∈ w.context.sessions)
      (h : (w.session k).isConfigured = false) :
      UnansweredStep w (w.updateSession k (·.enableCapture))

/-- In no state reached from `w` without a response that turns capturing on, a record was added to a
session that is in the context now. -/
def CollectsNothing (w : World) : Prop :=
  ∀ w', Relation.ReflTransGen UnansweredStep w w' →
    ∀ k ∈ w.context.sessions, ∀ kind, added k kind w'.log = added k kind w.log

/-- A session for which no call adds a record. Without a configuration, its beacon may still have the
capture flag turned on. -/
def Session.IsSilent (s : Session) : Prop :=
  s.isSessionFinished = true ∨ (s.beacon.isDataCapturingEnabled = false ∧
    (s.isConfigured = true ∨ s.enableCapture.beacon.isDataCapturingEnabled = false))

section Silent

variable {w w' : World} {k : BeaconKey}

theorem isDataCapturingEnabled_of_captureOff {b : Beacon}
    (h : LeavesCaptureOff b.beaconConfiguration) : b.isDataCapturingEnabled = false := by
  rw [Beacon.isDataCapturingEnabled, ServerConfiguration.isSendingDataAllowed, h.2,
    Bool.false_and, Bool.false_and]

/-- Numbers drawn do not make a beacon collect. -/
theorem isSilent_of_sameButNumbers {s s' : Session} (hbeacon : s.beacon.SameButNumbers s'.beacon)
    (h : s.beacon.isDataCapturingEnabled = false ∧
      (s.isConfigured = true ∨ s.enableCapture.beacon.isDataCapturingEnabled = false)) :
    s'.IsSilent := by
  obtain ⟨hdisabled, hconfigured | hstill⟩ := h
  · refine .inr ⟨hbeacon.isDataCapturingEnabled.trans hdisabled, .inl ?_⟩
    rw [Session.isConfigured, hbeacon.beaconConfiguration]
    exact hconfigured
  · refine .inr ⟨hbeacon.isDataCapturingEnabled.trans hdisabled, .inr ?_⟩
    have henabled : s.enableCapture.beacon.SameButNumbers s'.enableCapture.beacon :=
      { hbeacon with
        beaconConfiguration := congrArg BeaconConfiguration.enableCapture hbeacon.beaconConfiguration }
    exact henabled.isDataCapturingEnabled.trans hstill

/-- The last flush leaves a silent session silent. -/
theorem isSilent_enableCapture {s : Session} (h : s.IsSilent) (hunset : s.isConfigured = false) :
    s.enableCapture.IsSilent := by
  rcases h with hfinished | ⟨-, hconfigured | hstill⟩
  · exact .inl hfinished
  · exact absurd (hunset.symm.trans hconfigured) Bool.false_ne_true
  · exact .inr ⟨hstill, .inl rfl⟩

/-- A call on a silent session adds no record, and leaves it silent. -/
theorem silent_afterCall (hsettled : (w.session k).Settled) (h : (w.session k).IsSilent)
    (caller : Caller) (call : SessionCall) :
    (w.afterCall k caller call).session.IsSilent ∧ (w.afterCall k caller call).records = [] := by
  rcases h with hfinished | hdisabled
  · rw [w.afterCall_of_finished k caller call hsettled hfinished]
    exact ⟨.inl hfinished, rfl⟩
  · refine ⟨?_, w.records_afterCall_of_disabled k caller call hdisabled.1⟩
    exact isSilent_of_sameButNumbers (w.callStep_afterCall k caller call).beacon hdisabled

/-- A step adds no record to a silent session that was created, and leaves it silent. -/
theorem silent_of_systemStep (hw : w.Orderly) (hk : k ∈ w.created) (h : (w.session k).IsSilent)
    (hstep : SystemStep LeavesCaptureOff w w') :
    k ∈ w'.created ∧ (w'.session k).IsSilent ∧ ∀ kind, added k kind w'.log = added k kind w.log := by
  cases hstep with
  | call k' caller call =>
    refine ⟨?_, ?_, fun kind => ?_⟩
    · rw [World.created_call]
      exact hk
    · rw [World.session_call]
      split
      next hkk =>
        subst hkk
        exact (silent_afterCall (hw.settled k hk) h caller call).1
      next => exact h
    · rw [World.log_call, added_append]
      by_cases hkk : k = k'
      · subst hkk
        rw [(silent_afterCall (hw.settled k hk) h caller call).2]
        exact List.append_nil _
      · refine (List.append_right_eq_self).mpr (List.filterMap_eq_nil_iff.mpr fun event he => ?_)
        obtain ⟨record, -, rfl⟩ := List.mem_map.mp he
        exact if_neg fun hrecord => hkk hrecord.1.symm
  | create k' session hnew hsettled =>
    refine ⟨List.mem_append_left _ hk, ?_, fun _ => rfl⟩
    show ((w.updateSession k' fun _ => session).session k).IsSilent
    -- the new session has another key
    have hne : k ≠ k' := by
      rintro rfl
      exact hnew hk
    rw [World.session_updateSession, if_neg hne]
    exact h
  | configure k' f hoff =>
    refine ⟨hk, ?_, fun _ => rfl⟩
    rw [World.session_updateSession]
    split
    next hkk =>
      subst hkk
      exact .inr ⟨isDataCapturingEnabled_of_captureOff hoff, .inl hoff.1⟩
    next => exact h
  | decrease k' =>
    refine ⟨hk, ?_, fun _ => rfl⟩
    rw [World.session_updateSession]
    split
    · exact h
    · exact h
  | clear phase k' =>
    refine ⟨hk, h, fun kind => ?_⟩
    rw [World.log_write, added_append]
    exact List.append_nil _
  | setContext => exact ⟨hk, h, fun _ => rfl⟩
  | tick => exact ⟨hk, h, fun _ => rfl⟩

theorem silent_of_step (hw : w.Orderly) (hk : k ∈ w.created) (h : (w.session k).IsSilent)
    (hstep : UnansweredStep w w') :
    w'.Orderly ∧ k ∈ w'.created ∧ (w'.session k).IsSilent ∧
      ∀ kind, added k kind w'.log = added k kind w.log := by
  cases hstep with
  | system hstep => exact ⟨hw.step hstep, silent_of_systemStep hw hk h hstep⟩
  | enableCapture k' _ hunset =>
    have hstep : SystemStep (fun _ => True) w (w.updateSession k' (·.enableCapture)) :=
      .configure w k' (·.enableCapture) trivial
    refine ⟨hw.step hstep, hk, ?_, fun _ => rfl⟩
    rw [World.session_updateSession]
    split
    next hkk =>
      subst hkk
      exact isSilent_enableCapture h hunset
    next => exact h

/-- **Silent sessions** collect nothing. -/
theorem added_of_reaches (hw : w.Orderly) (hk : k ∈ w.created) (h : (w.session k).IsSilent)
    (hreaches : Relation.ReflTransGen UnansweredStep w w') :
    ∀ kind, added k kind w'.log = added k kind w.log := by
  suffices hall : w'.Orderly ∧ k ∈ w'.created ∧ (w'.session k).IsSilent ∧
      ∀ kind, added k kind w'.log = added k kind w.log from hall.2.2.2
  induction hreaches with
  | refl => exact ⟨hw, hk, h, fun _ => rfl⟩
  | tail _ hstep ih =>
    obtain ⟨hw', hk', h', hadded⟩ := ih
    obtain ⟨hw'', hk'', h'', hadded'⟩ := silent_of_step hw' hk' h' hstep
    exact ⟨hw'', hk'', h'', fun kind => (hadded' kind).trans (hadded kind)⟩

end Silent

/-! ## A session that is not silent -/

section Loud

variable {w : World} {k : BeaconKey}

/-- A business event without attributes. -/
def businessEvent : SessionCall := .sendBizEvent (.ofAscii ['t']) [0x7B, 0x7D]

def someCaller : Caller := ⟨1, fun _ => 0⟩

/-- While capturing is enabled, an open session takes a business event. -/
theorem records_afterCall_businessEvent (hopen : (w.session k).IsOpen)
    (henabled : (w.session k).beacon.isDataCapturingEnabled = true) :
    ∃ record, (w.afterCall k someCaller businessEvent).records = [record] ∧
      record.kind = .event := by
  have hnot : (w.session k).isFinishingOrFinished = false := by
    rw [Session.isFinishingOrFinished, hopen.1, hopen.2]
    rfl
  have hreporting : (⟨w.session k, 0, []⟩ : Reporting).beacon.isDataCapturingEnabled = true :=
    henabled
  have htype : (UTF8String.ofAscii ['t']).isEmpty = false := by decide
  have hlength : ([0x7B, 0x7D] : List UInt8).length ≤ BeaconReports.eventPayloadBytesLength := by decide
  have hcall : (SessionCalls.perform someCaller businessEvent).run ⟨w.session k, 0, []⟩ =
      (BeaconReports.sendBizEvent someCaller (.ofAscii ['t']) [0x7B, 0x7D]).run
        ⟨w.session k, 0, []⟩ := by
    rw [businessEvent, SessionCalls.perform, if_pos (by decide), SessionCalls.whenOpen,
      Program.run_bind_ok (Program.run_read _ _), hnot]
    rfl
  rw [World.afterCall, hcall, BeaconReports.run_sendBizEvent hreporting htype hlength]
  exact ⟨_, rfl, rfl⟩

theorem not_collectsNothing_of_open (hk : k ∈ w.context.sessions)
    (hopen : (w.session k).IsOpen) (henabled : (w.session k).beacon.isDataCapturingEnabled = true) :
    ¬ CollectsNothing w := by
  intro h
  obtain ⟨record, hrecords, hkind⟩ := records_afterCall_businessEvent hopen henabled
  have hadded := h _ (.single (.system (.call w k someCaller businessEvent))) k hk .event
  rw [World.log_call, hrecords, added_append] at hadded
  simp [added, hkind] at hadded

/-- A session without configuration, which collects as soon as the last flush enables capturing. -/
theorem not_collectsNothing_of_unset (hk : k ∈ w.context.sessions)
    (hopen : (w.session k).IsOpen) (hunset : (w.session k).isConfigured = false)
    (henabled : (w.session k).enableCapture.beacon.isDataCapturingEnabled = true) :
    ¬ CollectsNothing w := by
  intro h
  have hsession : (w.updateSession k (·.enableCapture)).session k = (w.session k).enableCapture := by
    rw [World.session_updateSession, if_pos rfl]
  refine not_collectsNothing_of_open (w := w.updateSession k (·.enableCapture)) hk ?_ ?_ ?_
  · rw [hsession]
    exact hopen
  · rw [hsession]
    exact henabled
  · -- what is reached after the flush is reached from `w`
    exact fun w' hreaches => h w' (.head (.enableCapture w k hk hunset) hreaches)

end Loud

/-- The sessions of the context are silent iff nothing is collected for them. -/
theorem collectsNothing_iff_isSilent {w : World} (hw : w.Orderly) :
    CollectsNothing w ↔ ∀ k ∈ w.context.sessions, (w.session k).IsSilent := by
  constructor
  · intro h k hk
    by_contra hloud
    obtain ⟨hfinished, hcollects⟩ := not_or.mp hloud
    have hopen := (hw.settled k (hw.created k hk)).isOpen (Bool.eq_false_iff.mpr hfinished)
    cases henabled : (w.session k).beacon.isDataCapturingEnabled with
    | true => exact not_collectsNothing_of_open hk hopen henabled h
    | false =>
      obtain ⟨hconfigured, hstill⟩ := not_or.mp (not_and.mp hcollects henabled)
      exact not_collectsNothing_of_unset hk hopen (Bool.eq_false_iff.mpr hconfigured)
        (Bool.not_eq_false _ ▸ hstill) h
  · intro h w' hreaches k hk
    exact added_of_reaches hw (hw.created k hk) (h k hk) hreaches

/-! ## Disabling -/

/-- **Disabling** capturing changes no session, and removes finished ones only. -/
theorem run_disableCaptureAndClear {w t : World} {r : ForInStep Unit} (hw : w.Orderly)
    (h : BeaconSendingContext.disableCaptureAndClear.run w = (.ok r, t)) :
    t.Orderly ∧ (∀ k, t.session k = w.session k) ∧
      ∀ k, k ∈ t.context.sessions ↔
        k ∈ w.context.sessions ∧ (w.session k).isSessionFinished = false := by
  rw [BeaconSendingContext.disableCaptureAndClear, Program.run_bind_ok (Program.run_write _ w)] at h
  have hnodup : (w.setContext w.context.disableCapture).context.sessions.Nodup := hw.nodup
  have hgone (k : BeaconKey) (hfinished : (w.session k).isSessionFinished = true) :
      k ∉ t.context.sessions :=
    CaptureOnState.not_mem_of_run_clearAllSessionData hnodup hfinished h
  rw [BeaconSendingContext.clearAllSessionData, Program.run_bind_ok (Program.run_read _ _)] at h
  have hround := Program.run_forEach_ok
    (J := fun _ _ t => t.sessions = w.sessions ∧ t.created = w.created ∧
      t.context.sessions.Sublist w.context.sessions ∧
      ∀ k ∈ w.context.sessions, (w.session k).isSessionFinished = false →
        k ∈ t.context.sessions)
    (Q := fun _ _ => False) ?_
    ⟨rfl, rfl, List.Sublist.refl _, fun _ hk _ => hk⟩ h
  · cases r with
    | done _ => exact hround.elim
    | yield _ =>
      obtain ⟨hsessions, hcreated, hsub, hstay⟩ := hround
      have hsession (k : BeaconKey) : t.session k = w.session k := congrFun hsessions k
      refine ⟨⟨fun k hk => ?_, fun k hk => ?_, hsub.nodup hw.nodup⟩, hsession, fun k => ?_⟩
      · rw [hcreated]
        exact hw.created k (hsub.subset hk)
      · rw [hcreated] at hk
        rw [hsession]
        exact hw.settled k hk
      · constructor
        · intro hk
          exact ⟨hsub.subset hk, Bool.eq_false_iff.mpr fun hfinished => hgone k hfinished hk⟩
        · exact fun hk => hstay k hk.1 hk.2
  · rintro c cs u s r t' ⟨hsessions, hcreated, hsub, hstay⟩ hrun
    rw [BeaconSendingContext.clearSessionData, clearCapturedData,
      Program.run_bind_ok (Program.run_write _ s), Program.run_bind_ok (Program.run_read _ _)] at hrun
    split at hrun
    next hfinished =>
      rw [Program.run_bind_ok (Program.run_write _ _)] at hrun
      obtain ⟨hr, rfl⟩ := Prod.mk.inj hrun
      obtain rfl := Except.ok.inj hr
      refine ⟨hsessions, hcreated, List.erase_sublist.trans hsub, fun k hk hopen => ?_⟩
      -- the session removed is finished
      have hne : k ≠ c := by
        rintro rfl
        have hc : (s.session k).isSessionFinished = true := hfinished
        rw [World.session, hsessions] at hc
        exact Bool.false_ne_true (hopen.symm.trans hc)
      exact (List.mem_erase_of_ne hne).mpr (hstay k hk hopen)
    next =>
      obtain ⟨hr, rfl⟩ := Prod.mk.inj hrun
      obtain rfl := Except.ok.inj hr
      exact ⟨hsessions, hcreated, hsub, hstay⟩

/-- **After disabling** nothing is collected iff each session of the context was finished, or had
capturing disabled in the configuration of its own beacon, which for a session that has no
configuration yet must not be due to the capture flag alone. -/
theorem collectsNothing_iff {w t : World} {r : ForInStep Unit} (hw : w.Orderly)
    (h : BeaconSendingContext.disableCaptureAndClear.run w = (.ok r, t)) :
    CollectsNothing t ↔ ∀ k ∈ w.context.sessions, (w.session k).IsSilent := by
  obtain ⟨ht, hsession, hsessions⟩ := run_disableCaptureAndClear hw h
  rw [collectsNothing_iff_isSilent ht]
  constructor
  · intro hsilent k hk
    cases hfinished : (w.session k).isSessionFinished with
    | true => exact .inl hfinished
    | false =>
      rw [← hsession]
      exact hsilent k ((hsessions k).mpr ⟨hk, hfinished⟩)
  · intro hsilent k hk
    rw [hsession]
    exact hsilent k ((hsessions k).mp hk).1

/-- An open session, as it is created. -/
def openSession : Session := .new (.new (.new ⟨.userBehavior, .optInCrashes⟩) 0 0 .nil)

/-- The first session was created. -/
def afterCreation (session : Session) : World :=
  let w := World.new (fun _ => session) (.new ⟨1, .nil⟩)
  { w.updateSession ⟨1, 0⟩ fun _ => session with
    created := [⟨1, 0⟩]
    context := w.context.addSession ⟨1, 0⟩ }

theorem orderly_afterCreation {session : Session} (h : session.Settled) :
    (afterCreation session).Orderly := by
  have hstep : SystemStep LeavesCaptureOff (World.new (fun _ => session) (.new ⟨1, .nil⟩))
      (afterCreation session) := .create _ ⟨1, 0⟩ session List.not_mem_nil h
  exact (World.Orderly.new _ rfl).step hstep

/-- A session whose own configuration has capturing disabled. -/
theorem collectsNothing_of_disabledSession :
    CollectsNothing (BeaconSendingContext.disableCaptureAndClear.run
      (afterCreation openSession.disableCapture)).2 := by
  have hopen : openSession.disableCapture.IsOpen := ⟨rfl, rfl⟩
  refine (collectsNothing_iff (r := .yield ()) (orderly_afterCreation hopen.settled) rfl).mpr ?_
  intro k hk
  obtain rfl := List.mem_singleton.mp hk
  exact .inr ⟨by decide, .inl rfl⟩

/-- An open session takes a business event after capturing was disabled. -/
theorem not_collectsNothing :
    ¬ ∀ (w t : World) (r : ForInStep Unit), w.Orderly →
      BeaconSendingContext.disableCaptureAndClear.run w = (.ok r, t) → CollectsNothing t := by
  intro h
  have hopen : openSession.IsOpen := ⟨rfl, rfl⟩
  refine not_collectsNothing_of_open (k := ⟨1, 0⟩) ?_ ?_ ?_
    (h (afterCreation openSession) _ (.yield ()) (orderly_afterCreation hopen.settled) rfl)
  · exact List.mem_singleton_self _
  · exact ⟨rfl, rfl⟩
  · decide

end OpenKit
