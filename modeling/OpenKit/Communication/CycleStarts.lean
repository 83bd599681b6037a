import OpenKit.Communication.FlushSessionsState
import OpenKit.Communication.StockedCache

/-!
# The states in which a cycle starts

The sender comes to a cycle of capturing after any number of executions of its states, whatever the
server has answered by then. All of them leave the cache in order: most of their actions touch no
record, and the others are sends and the reports of sessions that are ended by the flush.

## Main definitions

* `beforeCycle`: what the sender does before a cycle
* `StartsCycle`: the states that are reached then

## Main results

* `preserves_executions`: any number of executions leaves the cache in order
* `StartsCycle.stocked`: so it is in order where a cycle starts
-/

namespace OpenKit

open Thread BeaconSendingResponseUtil

section Quiet

variable {env : Environment} {rounds : ℕ} {k : BeaconKey}

/-! ## Quiet parts -/

theorem quiet_note {α : Type} {p : Sender α} (h : Program.Guarantees NoteStep p) :
    Program.Guarantees QuietStep p :=
  h.mono fun _ _ => NoteStep.quietStep

theorem quiet_handling {α : Type} {p : Sender α} (h : Program.Guarantees HandlingStep p) :
    Program.Guarantees QuietStep p :=
  h.mono fun _ _ => HandlingStep.quietStep

theorem quiet_read {α : Type} (f : World → α) :
    Program.Guarantees QuietStep (Program.read f : Sender α) :=
  Program.guarantees_atomic QuietStep.refl

/-- A change of the context that lets sessions leave it at most. -/
theorem quiet_setContext {f : World → BeaconSendingContext}
    (hf : ∀ w, (f w).sessions.Sublist w.context.sessions) :
    Program.Guarantees QuietStep (Program.write fun w => w.setContext (f w) : Sender Unit) :=
  Program.guarantees_atomic fun w => .of_context rfl rfl (hf w) rfl

theorem quiet_clearCapturedData (phase : Phase) :
    Program.Guarantees QuietStep (clearCapturedData phase k) :=
  Program.guarantees_atomic fun w => .clear w phase k

theorem quiet_sleep (millis : ℤ) : Program.Guarantees QuietStep (sleep millis) := by
  refine Program.guarantees_atomic fun w => ?_
  show QuietStep w (ite _ _ _)
  split
  · exact .refl w
  · exact .of_context rfl rfl (.refl _) rfl

theorem quiet_writeStateEvent (event : StateEvent) :
    Program.Guarantees QuietStep (writeStateEvent event) :=
  Program.guarantees_atomic fun _ => .of_event rfl trivial rfl rfl (.refl _)

theorem quiet_requestStatus : Program.Guarantees QuietStep (requestStatus env) :=
  Program.guarantees_atomic fun _ => .of_context rfl rfl (.refl _) rfl

theorem quiet_sendStatusRequest (numRetries : ℕ) (delay : ℤ) :
    Program.Guarantees QuietStep (sendStatusRequest env numRetries delay) := by
  rw [sendStatusRequest]
  generalize (none : Option Answer) = statusResponse
  induction numRetries generalizing delay statusResponse with
  | zero =>
    refine (quiet_read _).bind fun shutdown => ?_
    split
    · trivial
    · refine quiet_requestStatus.bind fun answer => ?_
      split <;> trivial
  | succ numRetries ih =>
    refine (quiet_read _).bind fun shutdown => ?_
    split
    · trivial
    · refine quiet_requestStatus.bind fun answer => ?_
      split
      · trivial
      · exact (quiet_sleep delay).bind fun _ => ih (2 * delay) answer

/-! ### The initial state -/

namespace InitialState

theorem quiet_reinitDelay (response : Option Answer) :
    Program.Guarantees QuietStep (reinitDelay response) := by
  refine (quiet_read _).bind fun delay => ?_
  split
  · exact (quiet_handling BeaconSendingContext.handling_disableCaptureAndClear).bind fun _ => trivial
  · trivial

theorem quiet_requestInitialStatus (response : Option Answer) :
    Program.Guarantees QuietStep (requestInitialStatus env response) := by
  refine (quiet_read _).bind fun shutdown => ?_
  split
  · trivial
  refine (quiet_read _).bind fun currentTimestamp => ?_
  refine Program.Guarantees.bind (quiet_setContext fun _ => .refl _) fun _ => ?_
  refine Program.Guarantees.bind (quiet_setContext fun _ => .refl _) fun _ => ?_
  refine (quiet_sendStatusRequest _ _).bind fun answer => ?_
  split
  · trivial
  refine (quiet_reinitDelay answer).bind fun sleepTime => ?_
  refine (quiet_sleep sleepTime).bind fun _ => ?_
  exact Program.Guarantees.bind (quiet_setContext fun _ => .refl _) fun _ => trivial

theorem quiet_leave (response : Option Answer) : Program.Guarantees QuietStep (leave response) := by
  refine (quiet_handling
    (BeaconSendingContext.handling_handleStatusResponse response)).bind fun _ => ?_
  refine (quiet_read _).bind fun captureOn => ?_
  split
  · exact quiet_setContext fun _ => .refl _
  · exact quiet_setContext fun _ => .refl _

theorem quiet_setInitCompleted (success : Bool) :
    Program.Guarantees QuietStep (setInitCompleted success) :=
  Program.guarantees_atomic fun _ => .of_event rfl trivial rfl rfl (.refl _)

theorem quiet_doExecute : Program.Guarantees QuietStep (doExecute env rounds) := by
  refine Program.Guarantees.bind
    (Program.guarantees_loop (fun r => quiet_requestInitialStatus r) rounds none) fun response => ?_
  refine Program.Guarantees.bind (Program.guarantees_atomic fun _ =>
    .of_event rfl trivial rfl rfl (.refl _)) fun shutdown => ?_
  split
  · exact quiet_setInitCompleted false
  · split
    · exact (quiet_leave response).bind fun _ => quiet_setInitCompleted true
    · trivial

end InitialState

/-! ### The capture-off state -/

namespace CaptureOffState

theorem quiet_handleStatusResponse (response : Option Answer) :
    Program.Guarantees QuietStep (handleStatusResponse response) := by
  have hrest : Program.Guarantees QuietStep (do
      if isTooManyRequestsResponse response then
        Program.write fun w => w.setContext
          (w.context.setNextState (.captureOff (retryAfterInMilliseconds response)))
      else if isSuccessfulResponse response && (← .read fun w => w.context.isCaptureOn) then
        Program.write fun w => w.setContext (w.context.setNextState .captureOn)
      else
        return () : Sender Unit) := by
    split
    · exact quiet_setContext fun _ => .refl _
    · refine (quiet_read _).bind fun captureOn => ?_
      split
      · exact quiet_setContext fun _ => .refl _
      · trivial
  rw [handleStatusResponse]
  split
  · exact (quiet_handling
      (BeaconSendingContext.handling_handleStatusResponse response)).bind fun _ => hrest
  · exact hrest

theorem quiet_checkStatus (sleepTime currentTime : ℤ) :
    Program.Guarantees QuietStep (checkStatus env sleepTime currentTime) := by
  refine (quiet_read _).bind fun requestTime => ?_
  refine (quiet_sendStatusRequest _ _).bind fun response => ?_
  refine (quiet_writeStateEvent _).bind fun _ => ?_
  refine (quiet_handleStatusResponse response).bind fun _ => ?_
  exact quiet_setContext fun _ => .refl _

theorem quiet_doExecute (sleepTime : ℤ) :
    Program.Guarantees QuietStep (doExecute env sleepTime) := by
  refine (quiet_handling BeaconSendingContext.handling_disableCaptureAndClear).bind fun _ => ?_
  refine (quiet_read _).bind fun currentTime => ?_
  refine (quiet_read _).bind fun lastStatusCheckTime => ?_
  refine (quiet_read _).bind fun shutdown => ?_
  split
  · refine (quiet_sleep _).bind fun _ => ?_
    refine (quiet_read _).bind fun shutdown' => ?_
    split
    · trivial
    · exact quiet_checkStatus _ _
  · exact quiet_checkStatus _ _

end CaptureOffState

end Quiet

/-! ## Parts that send -/

section Preserves

variable {caller : Caller} {env : Environment} {rounds : ℕ} {k : BeaconKey}

namespace CaptureOnState

theorem preserves_sendBeacon : LeavesStocked (sendBeacon env rounds k) := by
  refine (preserves_send rounds k).bind fun answer => ?_
  refine (preserves_quiet (Program.guarantees_atomic fun w => ?_)).bind fun _ => preserves_return _
  exact .of_event rfl trivial rfl rfl (.refl _)

theorem preserves_removeSession (allowed : Bool) : LeavesStocked (removeSession k allowed) := by
  refine preserves_quiet (Program.Guarantees.bind (Program.guarantees_atomic fun w => ?_)
    fun _ => quiet_clearCapturedData _)
  exact .of_event rfl trivial rfl rfl List.erase_sublist

theorem preserves_sendFinishedSession (response : Option Answer) :
    LeavesStocked (sendFinishedSession env rounds k response) := by
  refine (preserves_quiet (quiet_read _)).bind fun allowed => ?_
  split
  · refine preserves_sendBeacon.bind fun answer => ?_
    split
    · exact (preserves_removeSession true).bind fun _ => preserves_return _
    · split
      · exact preserves_return _
      · refine (preserves_quiet (quiet_read _)).bind fun isEmpty => ?_
        split
        · exact preserves_return _
        · exact (preserves_removeSession true).bind fun _ => preserves_return _
  · exact (preserves_removeSession false).bind fun _ => preserves_return _

theorem preserves_sendFinishedSessions : LeavesStocked (sendFinishedSessions env rounds) := by
  refine (preserves_quiet (quiet_note (guarantees_enter _))).bind fun _ => ?_
  refine (preserves_quiet (quiet_note (guarantees_selectSessions _))).bind fun ks => ?_
  exact (Program.preserves_forEach stable_stocked stable_idle_other
    (fun _ response => preserves_sendFinishedSession response) ks none).bind
    fun _ => preserves_return _

theorem preserves_sendOpenSession (response : Option Answer) :
    LeavesStocked (sendOpenSession env rounds k response) := by
  refine (preserves_quiet (quiet_read _)).bind fun allowed => ?_
  split
  · refine preserves_sendBeacon.bind fun answer => ?_
    split
    · exact preserves_return _
    · exact preserves_return _
  · exact (preserves_quiet (quiet_clearCapturedData _)).bind fun _ => preserves_return _

theorem preserves_sendOpenSessions : LeavesStocked (sendOpenSessions env rounds) := by
  refine (preserves_quiet (quiet_note (guarantees_enter _))).bind fun _ => ?_
  refine (preserves_quiet (quiet_read _)).bind fun currentTimestamp => ?_
  refine (preserves_quiet (quiet_read _)).bind fun lastSendTime => ?_
  refine (preserves_quiet (quiet_read _)).bind fun sendInterval => ?_
  split
  · exact preserves_return _
  · refine (preserves_quiet (quiet_note (guarantees_selectSessions _))).bind fun ks => ?_
    refine (Program.preserves_forEach stable_stocked stable_idle_other
      (fun _ response => preserves_sendOpenSession response) ks none).bind fun outcome => ?_
    exact Program.Preserves.bind (preserves_quiet (quiet_setContext fun _ => .refl _))
      fun _ => preserves_return _

theorem preserves_doExecute : LeavesStocked (doExecute env rounds) := by
  have hswitch (response : Option Answer) : LeavesStocked (switchToCaptureOff response) :=
    preserves_quiet (quiet_note (guarantees_switchToCaptureOff response))
  refine (preserves_quiet (quiet_read _)).bind fun shutdown => ?_
  split
  · exact preserves_return _
  refine (preserves_quiet (quiet_note guarantees_sendNewSessionRequests)).bind fun newResponse => ?_
  split
  · exact hswitch _
  refine preserves_sendFinishedSessions.bind fun finishedResponse => ?_
  split
  · exact hswitch _
  refine preserves_sendOpenSessions.bind fun openResponse => ?_
  split
  · exact hswitch _
  · exact preserves_quiet (quiet_handling (guarantees_handleStatusResponse _))

end CaptureOnState

/-! ### The flush -/

namespace FlushSessionsState

/-- The records that a session reports when it is ended are added as the application adds them. -/
theorem stocked_addRecords {w : World} {records : List BeaconRecord} (hs : Stocked w) (hidle : Idle w)
    (htext : ∀ record ∈ records, EventData.IsReportText record.data) :
    Stocked (w.addRecords k records) ∧ Idle (w.addRecords k records) := by
  induction records generalizing w with
  | nil => exact ⟨hs, hidle⟩
  | cons record records ih =>
    obtain ⟨hrecord, hrecords⟩ := List.forall_mem_cons.mp htext
    have hstep : OtherStep w (w.addData k record.kind record.timestamp record.data) :=
      .application (.add w k record.kind record.timestamp record.data hrecord)
    rw [World.addRecords_cons]
    exact ih (stable_stocked _ _ hstep hs) (stable_idle_other _ _ hstep hidle) hrecords

theorem preserves_endOpenSession (u : Unit) : LeavesStocked (endOpenSession caller k u) := by
  have hreport : Program.Guarantees
      (fun w w' => Stocked w ∧ Idle w → Stocked w' ∧ Idle w') (endOpenSession caller k u) := by
    refine Program.Guarantees.bind (Program.guarantees_atomic fun w h => ?_) fun _ => trivial
    have hend : Program.Guarantees (CallStepOf fun _ => True) (SessionCalls.endWith caller false) :=
      SessionCalls.guarantees_endWith trivial trivial fun _ => trivial
    have hstep : CallStep ⟨w.session k, 0, []⟩ (w.afterReport k (SessionCalls.endWith caller false)) :=
      (hend.run CallStepOf.refl (fun _ _ _ => CallStepOf.trans) rfl).toCallStep
    obtain ⟨new, hrecords, hnew⟩ := hstep.records
    rw [List.nil_append] at hrecords
    have hadded := stocked_addRecords (k := k) h.1 h.2 fun record hrecord =>
      (hnew record (hrecords ▸ hrecord)).1
    obtain ⟨⟨hretention, hinventory⟩, hidle⟩ := hadded
    refine ⟨⟨⟨hretention.kept, hretention.active, hretention.answered⟩, ?_⟩, hidle⟩
    exact ⟨hinventory.reported, hinventory.covered, hinventory.nodup, hinventory.created⟩
  exact hreport.preserves stable_stocked stable_idle_other fun _ _ h hs hidle => h ⟨hs, hidle⟩

theorem preserves_removeFlushed : LeavesStocked (removeFlushed k) :=
  preserves_quiet ((quiet_clearCapturedData _).bind fun _ =>
    quiet_setContext fun _ => List.erase_sublist)

theorem preserves_flushSession (tooMany : Bool) :
    LeavesStocked (flushSession env rounds k tooMany) := by
  refine (preserves_quiet (quiet_read _)).bind fun allowed => ?_
  split
  · refine CaptureOnState.preserves_sendBeacon.bind fun answer => ?_
    exact preserves_removeFlushed.bind fun _ => preserves_return _
  · exact preserves_removeFlushed.bind fun _ => preserves_return _

theorem preserves_doExecute : LeavesStocked (doExecute caller env rounds) := by
  have hselect (p : Session → Bool) : LeavesStocked (selectSessions p) :=
    preserves_quiet (quiet_note (guarantees_selectSessions p))
  refine (hselect _).bind fun newSessions => ?_
  refine (Program.preserves_forEach stable_stocked stable_idle_other (fun k _ => ?_) newSessions
    ()).bind fun _ => ?_
  · exact preserves_quiet (Program.Guarantees.bind
      (Program.guarantees_atomic fun _ => .of_context rfl rfl (.refl _) rfl) fun _ => trivial)
  refine (hselect _).bind fun openSessions => ?_
  refine (Program.preserves_forEach stable_stocked stable_idle_other
    (fun _ u => preserves_endOpenSession u) openSessions ()).bind fun _ => ?_
  refine (preserves_quiet (quiet_note (CaptureOnState.guarantees_enter _))).bind fun _ => ?_
  refine (hselect _).bind fun finishedSessions => ?_
  refine (Program.preserves_forEach stable_stocked stable_idle_other
    (fun _ tooMany => preserves_flushSession tooMany) finishedSessions false).bind fun _ => ?_
  exact preserves_quiet (quiet_setContext fun _ => .refl _)

end FlushSessionsState

/-! ## The executions -/

namespace BeaconSendingState

theorem preserves_doExecute (state : BeaconSendingState) :
    LeavesStocked (doExecute caller env rounds state) := by
  cases state with
  | init => exact preserves_quiet InitialState.quiet_doExecute
  | captureOn =>
    exact (preserves_quiet (quiet_sleep _)).bind fun _ => CaptureOnState.preserves_doExecute
  | captureOff sleepTime => exact preserves_quiet (CaptureOffState.quiet_doExecute sleepTime)
  | flushSessions => exact FlushSessionsState.preserves_doExecute
  | terminal => exact preserves_quiet (quiet_setContext fun _ => .refl _)

theorem preserves_execute (state : BeaconSendingState) :
    LeavesStocked (execute caller env rounds state) := by
  refine (preserves_doExecute state).bind fun _ => ?_
  refine (preserves_quiet (quiet_read _)).bind fun shutdown => ?_
  split
  · exact preserves_quiet (quiet_setContext fun _ => .refl _)
  · exact preserves_return _

end BeaconSendingState

theorem quietStep_changeState (w : World) : QuietStep w w.changeState := by
  rw [World.changeState]
  split
  · exact .refl w
  · exact .of_event rfl trivial rfl rfl (.refl _)

theorem preserves_executeCurrentState : LeavesStocked (executeCurrentState caller env rounds) := by
  refine Program.Preserves.bind (preserves_quiet (quiet_setContext fun _ => .refl _)) fun _ => ?_
  refine (preserves_quiet (quiet_read _)).bind fun currentState => ?_
  refine (currentState.preserves_execute).bind fun _ => ?_
  exact preserves_quiet (Program.guarantees_atomic quietStep_changeState)

/-- **Any number of executions** leaves the cache in order. -/
theorem preserves_executions (n : ℕ) : LeavesStocked (executions caller env rounds n) := by
  induction n with
  | zero => exact preserves_return ()
  | succ n ih => exact preserves_executeCurrentState.bind fun _ => ih

end Preserves

/-! ## The start of a cycle -/

section Start

variable (caller : Caller) (env : Environment) (rounds n : ℕ)

/-- What the sender does before a cycle of capturing: some executions of its states, and the
beginning of one more, up to the cycle. -/
def beforeCycle : Sender Unit := do
  executions caller env rounds n
  Program.write fun w => w.setContext { w.context with nextState := none }
  sleep BeaconSendingState.defaultSleepTimeMilliseconds

end Start

/-- A state in which a cycle of capturing starts, among the threads of the application and the
evictions. -/
def StartsCycle (env : Environment) (w : World) : Prop :=
  w.context.currentState = .captureOn ∧
    ∃ caller rounds n sessions http, Program.Reaches OtherStep
      (beforeCycle caller env rounds n, .new sessions (.new http)) (.ret (), w)

/-- **Where a cycle starts** the cache is in order, and nothing is being sent. -/
theorem StartsCycle.stocked {env : Environment} {w : World} (h : StartsCycle env w) :
    Stocked w ∧ Idle w := by
  obtain ⟨-, caller, rounds, n, sessions, http, hreaches⟩ := h
  have hbefore : LeavesStocked (beforeCycle caller env rounds n) := by
    refine (preserves_executions n).bind fun _ => ?_
    refine Program.Preserves.bind (preserves_quiet (quiet_setContext fun _ => .refl _)) fun _ => ?_
    exact preserves_quiet (quiet_sleep _)
  obtain ⟨hs, hidle⟩ := stocked_new sessions http
  have hsat := hbefore _ hs hidle
  exact ⟨hsat.invariant hreaches, hsat.post hreaches⟩

end OpenKit
