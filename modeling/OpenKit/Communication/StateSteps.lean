import OpenKit.Communication.FlushSessionsState

/-!
# Steps within a state

While a state is executed only few of its actions concern the states themselves. All others leave
the current state, the initialisation and what the log says about states alone, and set no next state
but the ones that the executed state may go to. So do the steps of the other threads.

## Main definitions

* `StateStep allowed`: a step that sets no next state but those that `allowed` allows

## Main results

* `stateStep_of_appStep`: the steps of the application
* `CaptureOnState.guarantees_stateStep_doExecute`, `FlushSessionsState.guarantees_stateStep_doExecute`:
  the executions of two of the states
-/

namespace OpenKit

open Thread

/-- A step that does not change the state, and sets a next state only where `allowed` allows it. -/
structure StateStep (allowed : BeaconSendingState → Prop) (w w' : World) : Prop where
  currentState : w'.context.currentState = w.context.currentState
  nextState : w'.context.nextState = w.context.nextState ∨
    ∃ state, allowed state ∧ w'.context.nextState = some state
  initSucceeded : w'.context.initSucceeded = w.context.initSucceeded
  initCountdownLatch : w'.context.initCountdownLatch = w.context.initCountdownLatch
  lastStatusCheckTime : w'.context.lastStatusCheckTime = w.context.lastStatusCheckTime
  shutdown : w.context.shutdown = true → w'.context.shutdown = true
  currentTime : w.currentTime ≤ w'.currentTime
  stateEvents : stateEvents w'.log = stateEvents w.log

namespace StateStep

variable {allowed allowed' : BeaconSendingState → Prop} {w w' w'' : World}

theorem refl (w : World) : StateStep allowed w w :=
  ⟨rfl, .inl rfl, rfl, rfl, rfl, id, le_refl _, rfl⟩

theorem trans (h : StateStep allowed w w') (h' : StateStep allowed w' w'') :
    StateStep allowed w w'' where
  currentState := h'.currentState.trans h.currentState
  nextState := by
    rcases h'.nextState with hsame | hnew
    · rw [hsame]
      exact h.nextState
    · exact .inr hnew
  initSucceeded := h'.initSucceeded.trans h.initSucceeded
  initCountdownLatch := h'.initCountdownLatch.trans h.initCountdownLatch
  lastStatusCheckTime := h'.lastStatusCheckTime.trans h.lastStatusCheckTime
  shutdown := h'.shutdown ∘ h.shutdown
  currentTime := h.currentTime.trans h'.currentTime
  stateEvents := h'.stateEvents.trans h.stateEvents

theorem mono (h : StateStep allowed w w') (hallowed : ∀ state, allowed state → allowed' state) :
    StateStep allowed' w w' :=
  { h with
    nextState := h.nextState.imp_right fun ⟨state, hstate, hnext⟩ =>
      ⟨state, hallowed state hstate, hnext⟩ }

/-- A step that changes neither the context nor the clock, and says nothing about states. -/
theorem of_context (hcontext : w'.context = w.context) (htime : w'.currentTime = w.currentTime)
    (hevents : OpenKit.stateEvents w'.log = OpenKit.stateEvents w.log) : StateStep allowed w w' := by
  refine ⟨?_, .inl ?_, ?_, ?_, ?_, ?_, htime.ge, hevents⟩
  all_goals rw [hcontext]
  exact id

end StateStep

/-! ## The other threads -/

theorem stateEvents_append_singleton (l : List Event) {event : Event}
    (h : ∀ e, event ≠ .state e) : stateEvents (l ++ [event]) = stateEvents l := by
  have hnil : stateEvents [event] = [] := by
    cases event with
    | state e => exact absurd rfl (h e)
    | _ => rfl
  rw [stateEvents_append, hnil, List.append_nil]

/-- The steps of the application do not change the state. -/
theorem stateStep_of_appStep {mayAdd : World → BeaconKey → UTF8String → Prop}
    {allowed : BeaconSendingState → Prop} {w w' : World} (h : AppStep mayAdd w w') :
    StateStep allowed w w' := by
  cases h with
  | add k kind timestamp data h =>
    exact .of_context rfl rfl (stateEvents_append_singleton _ fun _ => nofun)
  | touch k session h => exact .of_context rfl rfl rfl
  | finish k => exact .of_context rfl rfl rfl
  | create k session hnew hopen => exact ⟨rfl, .inl rfl, rfl, rfl, rfl, id, le_refl _, rfl⟩
  | requestShutdown => exact ⟨rfl, .inl rfl, rfl, rfl, rfl, fun _ => rfl, le_refl _, rfl⟩
  | tick currentTime h => exact ⟨rfl, .inl rfl, rfl, rfl, rfl, id, h, rfl⟩

/-! ## Actions of the sender -/

section Actions

variable {allowed : BeaconSendingState → Prop} {env : Environment} {rounds : ℕ} {k : BeaconKey}

theorem guarantees_stateStep_read {α : Type} (f : World → α) :
    Program.Guarantees (StateStep allowed) (Program.read f : Sender α) :=
  Program.guarantees_atomic StateStep.refl

theorem stateStep_updateFrom (w : World) (response : Option Answer) :
    StateStep allowed w (w.setContext (w.context.updateFrom response).2) := by
  cases response with
  | none => exact .refl w
  | some answer =>
    rw [BeaconSendingContext.updateFrom]
    split
    · exact .refl w
    · exact ⟨rfl, .inl rfl, rfl, rfl, rfl, id, le_refl _, rfl⟩

theorem guarantees_stateStep_sleep (millis : ℤ) :
    Program.Guarantees (StateStep allowed) (sleep millis) := by
  refine Program.guarantees_atomic fun w => ?_
  show StateStep allowed w (ite _ _ _)
  split
  · exact .refl w
  · have hle : w.currentTime ≤ w.currentTime + max millis 0 :=
      le_add_of_nonneg_right (le_max_right _ _)
    exact ⟨rfl, .inl rfl, rfl, rfl, rfl, id, hle, rfl⟩

theorem guarantees_stateStep_sendStatusRequest (numRetries : ℕ) (delay : ℤ) :
    Program.Guarantees (StateStep allowed) (sendStatusRequest env numRetries delay) := by
  rw [sendStatusRequest]
  generalize (none : Option Answer) = statusResponse
  induction numRetries generalizing delay statusResponse with
  | zero =>
    refine (guarantees_stateStep_read _).bind fun shutdown => ?_
    split
    · trivial
    · refine Program.Guarantees.bind
        (Program.guarantees_atomic fun w => .of_context rfl rfl rfl) fun answer => ?_
      split <;> trivial
  | succ numRetries ih =>
    refine (guarantees_stateStep_read _).bind fun shutdown => ?_
    split
    · trivial
    · refine Program.Guarantees.bind
        (Program.guarantees_atomic fun w => .of_context rfl rfl rfl) fun answer => ?_
      split
      · trivial
      · exact (guarantees_stateStep_sleep delay).bind fun _ => ih (2 * delay) answer

theorem guarantees_stateStep_clearCapturedData (phase : Phase) :
    Program.Guarantees (StateStep allowed) (clearCapturedData phase k) :=
  Program.guarantees_atomic fun _ =>
    .of_context rfl rfl (stateEvents_append_singleton _ fun _ => nofun)

theorem guarantees_stateStep_clearAllSessionData :
    Program.Guarantees (StateStep allowed) BeaconSendingContext.clearAllSessionData := by
  refine (guarantees_stateStep_read _).bind fun sessions => ?_
  refine Program.guarantees_forEach (fun k _ _ => ?_) ()
  refine (guarantees_stateStep_clearCapturedData _).bind fun _ => ?_
  refine (guarantees_stateStep_read _).bind fun finished => ?_
  split
  · refine Program.Guarantees.bind (Program.guarantees_atomic fun w => ?_) fun _ => trivial
    exact ⟨rfl, .inl rfl, rfl, rfl, rfl, id, le_refl _, rfl⟩
  · trivial

theorem guarantees_stateStep_disableCaptureAndClear :
    Program.Guarantees (StateStep allowed) BeaconSendingContext.disableCaptureAndClear := by
  refine Program.Guarantees.bind (Program.guarantees_atomic fun w => ?_) fun _ =>
    guarantees_stateStep_clearAllSessionData
  exact ⟨rfl, .inl rfl, rfl, rfl, rfl, id, le_refl _, rfl⟩

theorem guarantees_stateStep_handleStatusResponse (response : Option Answer) :
    Program.Guarantees (StateStep allowed)
      (BeaconSendingContext.handleStatusResponse response) := by
  rw [BeaconSendingContext.handleStatusResponse]
  split
  · exact guarantees_stateStep_disableCaptureAndClear
  · refine Program.Guarantees.bind
      (Program.guarantees_atomic fun w => stateStep_updateFrom w response) fun _ => ?_
    refine (guarantees_stateStep_read _).bind fun capture => ?_
    split
    · exact guarantees_stateStep_clearAllSessionData
    · trivial

/-! ## The executions of the states -/

theorem SendStep.stateStep {w w' : World} (h : SendStep k w w') : StateStep allowed w w' := by
  obtain ⟨new, hlog, hnew⟩ := h.log
  refine .of_context h.context h.currentTime ?_
  have hnil : stateEvents new = [] := by
    refine List.filterMap_eq_nil_iff.mpr fun event hevent => ?_
    cases event with
    | state e => exact absurd (hnew _ hevent) id
    | _ => rfl
  rw [hlog, stateEvents_append, hnil, List.append_nil]

theorem guarantees_stateStep_sendBeacon :
    Program.Guarantees (StateStep allowed) (CaptureOnState.sendBeacon env rounds k) := by
  refine Program.Guarantees.bind ((BeaconSend.guarantees_send rounds).mono fun _ _ h => h.stateStep)
    fun answer => ?_
  refine Program.Guarantees.bind (Program.guarantees_atomic fun w => ?_) fun _ => trivial
  exact .of_context rfl rfl (stateEvents_append_singleton _ fun _ => nofun)

theorem guarantees_stateStep_filterSessions (p : Session → Bool) (ks : List BeaconKey) :
    Program.Guarantees (StateStep allowed) (filterSessions p ks) := by
  induction ks with
  | nil => trivial
  | cons k ks ih =>
    exact (guarantees_stateStep_read _).bind fun _ => ih.bind fun _ => trivial

theorem guarantees_stateStep_selectSessions (p : Session → Bool) :
    Program.Guarantees (StateStep allowed) (selectSessions p) :=
  (guarantees_stateStep_read _).bind fun ks => guarantees_stateStep_filterSessions p ks

namespace CaptureOnState

theorem guarantees_stateStep_requestNewSession (response : Option Answer) :
    Program.Guarantees (StateStep allowed) (requestNewSession env k response) := by
  refine (guarantees_stateStep_read _).bind fun can => ?_
  split
  · exact Program.Guarantees.bind
      (Program.guarantees_atomic fun w => .of_context rfl rfl rfl) fun _ => trivial
  · refine Program.Guarantees.bind (Program.guarantees_atomic fun w => ?_) fun answer => ?_
    · exact .of_context rfl rfl (stateEvents_append_singleton _ fun _ => nofun)
    · split
      · refine Program.Guarantees.bind
          (Program.guarantees_atomic fun w => stateStep_updateFrom w answer) fun attributes => ?_
        exact Program.Guarantees.bind
          (Program.guarantees_atomic fun w => .of_context rfl rfl rfl) fun _ => trivial
      · split
        · trivial
        · exact Program.Guarantees.bind
            (Program.guarantees_atomic fun w => .of_context rfl rfl rfl) fun _ => trivial

theorem guarantees_stateStep_sendNewSessionRequests :
    Program.Guarantees (StateStep allowed) (sendNewSessionRequests env) := by
  refine Program.Guarantees.bind
    (Program.guarantees_atomic fun w => .of_context rfl rfl rfl) fun _ => ?_
  refine (guarantees_stateStep_selectSessions _).bind fun sessions => ?_
  exact (Program.guarantees_forEach
    (fun _ _ _ => guarantees_stateStep_requestNewSession _) none).bind fun _ => trivial

theorem guarantees_stateStep_removeSession (dataSendingAllowed : Bool) :
    Program.Guarantees (StateStep allowed) (removeSession k dataSendingAllowed) := by
  refine Program.Guarantees.bind (Program.guarantees_atomic fun w => ?_) fun _ =>
    guarantees_stateStep_clearCapturedData _
  exact ⟨rfl, .inl rfl, rfl, rfl, rfl, id, le_refl _,
    stateEvents_append_singleton _ fun _ => nofun⟩

theorem guarantees_stateStep_sendFinishedSession (response : Option Answer) :
    Program.Guarantees (StateStep allowed) (sendFinishedSession env rounds k response) := by
  refine (guarantees_stateStep_read _).bind fun sending => ?_
  split
  · refine guarantees_stateStep_sendBeacon.bind fun answer => ?_
    split
    · exact (guarantees_stateStep_removeSession true).bind fun _ => trivial
    · split
      · trivial
      · refine (guarantees_stateStep_read _).bind fun isEmpty => ?_
        split
        · trivial
        · exact (guarantees_stateStep_removeSession true).bind fun _ => trivial
  · exact (guarantees_stateStep_removeSession false).bind fun _ => trivial

theorem guarantees_stateStep_sendFinishedSessions :
    Program.Guarantees (StateStep allowed) (sendFinishedSessions env rounds) := by
  refine Program.Guarantees.bind
    (Program.guarantees_atomic fun w => .of_context rfl rfl rfl) fun _ => ?_
  refine (guarantees_stateStep_selectSessions _).bind fun sessions => ?_
  exact (Program.guarantees_forEach
    (fun _ _ _ => guarantees_stateStep_sendFinishedSession _) none).bind fun _ => trivial

theorem guarantees_stateStep_sendOpenSession (response : Option Answer) :
    Program.Guarantees (StateStep allowed) (sendOpenSession env rounds k response) := by
  refine (guarantees_stateStep_read _).bind fun sending => ?_
  split
  · refine guarantees_stateStep_sendBeacon.bind fun answer => ?_
    split <;> trivial
  · exact (guarantees_stateStep_clearCapturedData _).bind fun _ => trivial

theorem guarantees_stateStep_sendOpenSessions :
    Program.Guarantees (StateStep allowed) (sendOpenSessions env rounds) := by
  refine Program.Guarantees.bind
    (Program.guarantees_atomic fun w => .of_context rfl rfl rfl) fun _ => ?_
  refine (guarantees_stateStep_read _).bind fun currentTimestamp => ?_
  refine (guarantees_stateStep_read _).bind fun lastSendTime => ?_
  refine (guarantees_stateStep_read _).bind fun sendInterval => ?_
  split
  · trivial
  · refine (guarantees_stateStep_selectSessions _).bind fun sessions => ?_
    refine (Program.guarantees_forEach
      (fun _ _ _ => guarantees_stateStep_sendOpenSession _) none).bind fun outcome => ?_
    refine Program.Guarantees.bind (Program.guarantees_atomic fun w => ?_) fun _ => trivial
    exact ⟨rfl, .inl rfl, rfl, rfl, rfl, id, le_refl _, rfl⟩

/-- The next states of the capture-on state. -/
def Next (state : BeaconSendingState) : Prop := state.getStateType = .captureOff

theorem guarantees_stateStep_switchToCaptureOff (response : Option Answer) :
    Program.Guarantees (StateStep Next) (switchToCaptureOff response) :=
  Program.guarantees_atomic fun _ =>
    ⟨rfl, .inr ⟨.captureOff _, rfl, rfl⟩, rfl, rfl, rfl, id, le_refl _, rfl⟩

theorem guarantees_stateStep_handleStatusResponse (response : Option Answer) :
    Program.Guarantees (StateStep Next) (handleStatusResponse response) := by
  cases response with
  | none => trivial
  | some answer =>
    refine Program.Guarantees.bind (Program.guarantees_atomic fun w => ?_) fun _ => ?_
    · exact .of_context rfl rfl (stateEvents_append_singleton _ fun _ => nofun)
    · refine (OpenKit.guarantees_stateStep_handleStatusResponse _).bind fun _ => ?_
      refine (guarantees_stateStep_read _).bind fun capture => ?_
      split
      · exact Program.guarantees_atomic fun _ =>
          ⟨rfl, .inr ⟨.captureOff _, rfl, rfl⟩, rfl, rfl, rfl, id, le_refl _, rfl⟩
      · trivial

/-- **The capture-on state** goes to the capture-off state, or nowhere. -/
theorem guarantees_stateStep_doExecute :
    Program.Guarantees (StateStep Next) (doExecute env rounds) := by
  refine (guarantees_stateStep_read _).bind fun shutdown => ?_
  split
  · trivial
  · refine guarantees_stateStep_sendNewSessionRequests.bind fun newResponse => ?_
    split
    · exact guarantees_stateStep_switchToCaptureOff _
    · refine guarantees_stateStep_sendFinishedSessions.bind fun finishedResponse => ?_
      split
      · exact guarantees_stateStep_switchToCaptureOff _
      · refine guarantees_stateStep_sendOpenSessions.bind fun openResponse => ?_
        split
        · exact guarantees_stateStep_switchToCaptureOff _
        · exact guarantees_stateStep_handleStatusResponse _

end CaptureOnState

namespace FlushSessionsState

variable {caller : Caller}

theorem stateStep_report (w : World) (p : Reporter Unit) : StateStep allowed w (w.report k p) := by
  refine .of_context (w.context_addRecords k _) (w.currentTime_addRecords k _) ?_
  show stateEvents (w.addRecords k _).log = _
  rw [World.log_addRecords, stateEvents_append]
  have hnil : stateEvents ((w.afterReport k p).records.map fun record =>
      .added k record.kind (.new record.timestamp record.data)) = [] := by
    rw [stateEvents, List.filterMap_map]
    exact List.filterMap_eq_nil_iff.mpr fun _ _ => rfl
  rw [hnil, List.append_nil]

theorem guarantees_stateStep_removeFlushed :
    Program.Guarantees (StateStep allowed) (removeFlushed k) := by
  refine (guarantees_stateStep_clearCapturedData _).bind fun _ => ?_
  exact Program.guarantees_atomic fun _ => ⟨rfl, .inl rfl, rfl, rfl, rfl, id, le_refl _, rfl⟩

theorem guarantees_stateStep_flushSession (tooManyRequestsReceived : Bool) :
    Program.Guarantees (StateStep allowed) (flushSession env rounds k tooManyRequestsReceived) := by
  refine (guarantees_stateStep_read _).bind fun sending => ?_
  split
  · refine guarantees_stateStep_sendBeacon.bind fun answer => ?_
    exact guarantees_stateStep_removeFlushed.bind fun _ => trivial
  · exact guarantees_stateStep_removeFlushed.bind fun _ => trivial

/-- The next state after the flush. -/
def Next (state : BeaconSendingState) : Prop := state = .terminal

/-- **The flush** goes to the terminal state. -/
theorem guarantees_stateStep_doExecute :
    Program.Guarantees (StateStep Next) (doExecute caller env rounds) := by
  refine (guarantees_stateStep_selectSessions _).bind fun newSessions => ?_
  refine (Program.guarantees_forEach (fun k _ _ => ?_) ()).bind fun _ => ?_
  · exact Program.Guarantees.bind
      (Program.guarantees_atomic fun w => .of_context rfl rfl rfl) fun _ => trivial
  refine (guarantees_stateStep_selectSessions _).bind fun openSessions => ?_
  refine (Program.guarantees_forEach (fun k _ _ => ?_) ()).bind fun _ => ?_
  · exact Program.Guarantees.bind
      (Program.guarantees_atomic fun w => stateStep_report w _) fun _ => trivial
  refine Program.Guarantees.bind
    (Program.guarantees_atomic fun w => .of_context rfl rfl rfl) fun _ => ?_
  refine (guarantees_stateStep_selectSessions _).bind fun finishedSessions => ?_
  refine (Program.guarantees_forEach
    (fun _ _ _ => guarantees_stateStep_flushSession _) false).bind fun _ => ?_
  exact Program.guarantees_atomic fun _ =>
    ⟨rfl, .inr ⟨_, rfl, rfl⟩, rfl, rfl, rfl, id, le_refl _, rfl⟩

end FlushSessionsState

end Actions

end OpenKit
