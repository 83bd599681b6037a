import Mathlib.Data.List.Chain
import OpenKit.Communication.StateSteps

/-!
# The state graph of the sender

The log says which states were current and how the initialisation was completed. Whatever the server
answers, and whenever shutdown is requested, the states follow each other along the edges of one
graph, the initialisation is completed once and before the initial state is left, and the index of
the next delay stays inside the array of the delays.

## Main definitions

* `Follows`: the edges of the graph
* `visited`, `initChecks`, `initCompletions`: what the log says
* `FollowsStateGraph`: what holds of the sender at every point

## Main results

* `sat_executeCurrentState`: the execution of any state
* `followsStateGraph_of_reaches`: the whole run
-/

namespace OpenKit

open Thread BeaconSendingResponseUtil

/-! ## What the log says -/

/-- The changes from one type of state to another. -/
def stateEdges : List (StateType × StateType) :=
  [(.init, .captureOn), (.init, .captureOff), (.init, .terminal),
    (.captureOn, .captureOff), (.captureOff, .captureOn),
    (.captureOn, .flushSessions), (.captureOff, .flushSessions),
    (.flushSessions, .terminal)]

/-- A change along an edge. The capture-off state may be set anew with another time to sleep, and
the terminal state is set anew whenever it is executed. -/
def Follows (a b : StateType) : Prop :=
  (a, b) ∈ stateEdges ∨ a = b ∧ (a = .captureOff ∨ a = .terminal)

instance (a b : StateType) : Decidable (Follows a b) := inferInstanceAs (Decidable (_ ∨ _ ∧ _))

section Log

variable (events : List StateEvent)

/-- The types of the states that were current, in order. -/
def visited : List StateType :=
  .init :: events.filterMap fun
    | .stateChanged _ nextState => some nextState.getStateType
    | _ => none

/-- The answers that the initial state ended its requests with, and whether shutdown was requested
when it checked. -/
def initChecks : List (Option Answer × Bool) :=
  events.filterMap fun
    | .initChecked statusResponse shutdownRequested => some (statusResponse, shutdownRequested)
    | _ => none

/-- The completions of the initialisation. -/
def initCompletions : List Bool :=
  events.filterMap fun
    | .initCompleted success => some success
    | _ => none

end Log

/-- What holds of the sender at every point of a run. -/
structure FollowsStateGraph (w : World) : Prop where
  changes : (visited (stateEvents w.log)).IsChain Follows
  currentState : (visited (stateEvents w.log)).getLast? = some w.context.currentState.getStateType
  shutdown : .terminal ∈ visited (stateEvents w.log) → w.context.shutdown = true
  flushed : ∀ earlier state between later,
    visited (stateEvents w.log) = earlier ++ state :: between ++ .terminal :: later →
      state = .captureOn ∨ state = .captureOff → .flushSessions ∈ between
  completedOnce : (initCompletions (stateEvents w.log)).length ≤ 1
  completedFirst : visited (stateEvents w.log) ≠ [.init] →
    (initCompletions (stateEvents w.log)).length = 1
  success : ∀ success ∈ initCompletions (stateEvents w.log),
    ∃ statusResponse shutdownRequested,
      initChecks (stateEvents w.log) = [(statusResponse, shutdownRequested)] ∧
      success = (isSuccessfulResponse statusResponse && !shutdownRequested)
  latch : w.context.initCountdownLatch =
    if initCompletions (stateEvents w.log) = [] then 1 else 0
  initSucceeded : w.context.initSucceeded = decide (true ∈ initCompletions (stateEvents w.log))
  delayIndex : ∀ index, w.context.currentState = .init index →
    index < InitialState.reinitDelayMilliseconds.size

/-! ## Walks -/

/-- A walk that leaves some points only through others passes these before it is elsewhere. -/
theorem exists_mem_of_isChain {α : Type} {r : α → α → Prop} {A B : α → Prop}
    (hstep : ∀ a b, A a → r a b → A b ∨ B b) {s t : α} {between later : List α} (hs : A s)
    (ht : ¬ A t) (ht' : ¬ B t) (h : (s :: between ++ t :: later).IsChain r) :
    ∃ b ∈ between, B b := by
  induction between generalizing s with
  | nil =>
    have hst : r s t := (List.isChain_cons_cons.mp h).1
    rcases hstep s t hs hst with hA | hB
    · exact absurd hA ht
    · exact absurd hB ht'
  | cons a between ih =>
    obtain ⟨hsa, hrest⟩ := List.isChain_cons_cons.mp h
    rcases hstep s a hs hsa with hA | hB
    · obtain ⟨b, hb, hBb⟩ := ih hA hrest
      exact ⟨b, List.mem_cons_of_mem a hb, hBb⟩
    · exact ⟨a, List.mem_cons_self, hB⟩

/-- Capturing is left for the flush only. -/
theorem Follows.of_capturing {a b : StateType} (ha : a = .captureOn ∨ a = .captureOff)
    (h : Follows a b) : (b = .captureOn ∨ b = .captureOff) ∨ b = .flushSessions := by
  revert ha h
  cases a <;> cases b <;> decide

/-- What a state sets as the next state when shutdown was requested follows it. -/
theorem follows_getShutdownState (state : BeaconSendingState) :
    Follows state.getStateType state.getShutdownState.getStateType := by
  cases state with
  | init index => exact (by decide : Follows .init .terminal)
  | captureOn => exact (by decide : Follows .captureOn .flushSessions)
  | captureOff sleepTime => exact (by decide : Follows .captureOff .flushSessions)
  | flushSessions => exact (by decide : Follows .flushSessions .terminal)
  | terminal => exact (by decide : Follows .terminal .terminal)

theorem not_follows_init {a : StateType} : ¬ Follows a .init := by
  cases a <;> decide

/-! ## The invariant -/

/-- How far the initialisation is. -/
structure InitRecord (w : World) : Prop where
  completions : initCompletions (stateEvents w.log) = [] ∨
    ∃ statusResponse shutdownRequested,
      initChecks (stateEvents w.log) = [(statusResponse, shutdownRequested)] ∧
      initCompletions (stateEvents w.log) =
        [isSuccessfulResponse statusResponse && !shutdownRequested]
  latch : w.context.initCountdownLatch =
    if initCompletions (stateEvents w.log) = [] then 1 else 0
  initSucceeded : w.context.initSucceeded = decide (true ∈ initCompletions (stateEvents w.log))

/-- The invariant of the sender. -/
structure Lawful (w : World) : Prop where
  changes : (visited (stateEvents w.log)).IsChain Follows
  currentState : (visited (stateEvents w.log)).getLast? = some w.context.currentState.getStateType
  shutdown : .flushSessions ∈ visited (stateEvents w.log) ∨
    .terminal ∈ visited (stateEvents w.log) → w.context.shutdown = true
  initRecord : InitRecord w
  completedFirst : visited (stateEvents w.log) ≠ [.init] →
    initCompletions (stateEvents w.log) ≠ []
  delayIndex : ∀ index, w.context.currentState = .init index →
    index < InitialState.reinitDelayMilliseconds.size

theorem Lawful.followsStateGraph {w : World} (h : Lawful w) : FollowsStateGraph w where
  changes := h.changes
  currentState := h.currentState
  shutdown hterminal := h.shutdown (.inr hterminal)
  flushed earlier state between later hvisited hstate := by
    have hchain := h.changes
    rw [hvisited, List.append_assoc, List.isChain_append] at hchain
    obtain ⟨b, hb, rfl⟩ := exists_mem_of_isChain
      (A := fun s => s = .captureOn ∨ s = .captureOff) (B := (· = .flushSessions))
      (fun a b ha hab => hab.of_capturing ha) hstate (by decide) (by decide) hchain.2.1
    exact hb
  completedOnce := by
    rcases h.initRecord.completions with hnil | ⟨_, _, -, hone⟩
    · rw [hnil]
      exact Nat.zero_le 1
    · rw [hone]
      exact le_refl 1
  completedFirst hleft := by
    rcases h.initRecord.completions with hnil | ⟨_, _, -, hone⟩
    · exact absurd hnil (h.completedFirst hleft)
    · rw [hone]
      rfl
  success success hsuccess := by
    rcases h.initRecord.completions with hnil | ⟨statusResponse, shutdownRequested, hcheck, hone⟩
    · rw [hnil] at hsuccess
      cases hsuccess
    · rw [hone] at hsuccess
      exact ⟨statusResponse, shutdownRequested, hcheck, List.mem_singleton.mp hsuccess⟩
  latch := h.initRecord.latch
  initSucceeded := h.initRecord.initSucceeded
  delayIndex := h.delayIndex

/-! ## Steps that keep the invariant -/

/-- A step within a state, as far as the invariant is concerned. -/
structure RecordStep (allowed : BeaconSendingState → Prop) (w w' : World) : Prop where
  currentState : w'.context.currentState = w.context.currentState
  nextState : w'.context.nextState = w.context.nextState ∨
    ∃ state, allowed state ∧ w'.context.nextState = some state
  initSucceeded : w'.context.initSucceeded = w.context.initSucceeded
  initCountdownLatch : w'.context.initCountdownLatch = w.context.initCountdownLatch
  shutdown : w.context.shutdown = true → w'.context.shutdown = true
  visited : visited (stateEvents w'.log) = visited (stateEvents w.log)
  initChecks : initChecks (stateEvents w'.log) = initChecks (stateEvents w.log)
  initCompletions : initCompletions (stateEvents w'.log) = initCompletions (stateEvents w.log)

section Steps

variable {allowed : BeaconSendingState → Prop} {w w' : World}

theorem StateStep.recordStep (h : StateStep allowed w w') : RecordStep allowed w w' :=
  ⟨h.currentState, h.nextState, h.initSucceeded, h.initCountdownLatch, h.shutdown,
    by rw [h.stateEvents], by rw [h.stateEvents], by rw [h.stateEvents]⟩

theorem Lawful.recordStep (h : Lawful w) (hstep : RecordStep allowed w w') : Lawful w' := by
  constructor
  · rw [hstep.visited]
    exact h.changes
  · rw [hstep.visited, hstep.currentState]
    exact h.currentState
  · rw [hstep.visited]
    exact hstep.shutdown ∘ h.shutdown
  · constructor
    · rw [hstep.initCompletions, hstep.initChecks]
      exact h.initRecord.completions
    · rw [hstep.initCountdownLatch, hstep.initCompletions]
      exact h.initRecord.latch
    · rw [hstep.initSucceeded, hstep.initCompletions]
      exact h.initRecord.initSucceeded
  · rw [hstep.visited, hstep.initCompletions]
    exact h.completedFirst
  · rw [hstep.currentState]
    exact h.delayIndex

/-- A type of state that is current was visited. -/
theorem Lawful.mem_visited (h : Lawful w) :
    w.context.currentState.getStateType ∈ visited (stateEvents w.log) :=
  List.mem_of_getLast? h.currentState

end Steps

/-- What holds between two executions: the initialisation was not checked in the initial state. -/
def Ready (w : World) : Prop :=
  Lawful w ∧ (w.context.currentState.getStateType = .init → initChecks (stateEvents w.log) = [] ∧
    initCompletions (stateEvents w.log) = [])

/-- What holds while a state is executed whose next states are the allowed ones. -/
def Executing (state : BeaconSendingState) (allowed : BeaconSendingState → Prop) (w : World) :
    Prop :=
  Lawful w ∧ w.context.currentState = state ∧
    ∀ next, w.context.nextState = some next → allowed next

/-- What holds after the execution of a state, before the change to the next. -/
structure Executed (type : StateType) (w : World) : Prop where
  lawful : Lawful w
  currentState : w.context.currentState.getStateType = type
  nextState : ∀ next, w.context.nextState = some next → Follows type next.getStateType ∧
    (next.getStateType = .flushSessions ∨ next.getStateType = .terminal →
      w.context.shutdown = true)
  completed : type = .init → initCompletions (stateEvents w.log) ≠ [] ∧
    (w.context.nextState = none → w.context.shutdown = true)

section Stability

variable {allowed : BeaconSendingState → Prop} {w w' : World}

theorem Ready.recordStep (h : Ready w) (hstep : RecordStep allowed w w') : Ready w' := by
  refine ⟨h.1.recordStep hstep, ?_⟩
  rw [hstep.currentState, hstep.initChecks, hstep.initCompletions]
  exact h.2

theorem Executing.recordStep {state : BeaconSendingState} (h : Executing state allowed w)
    (hstep : RecordStep allowed w w') : Executing state allowed w' := by
  obtain ⟨hlawful, hcurrent, hnext⟩ := h
  refine ⟨hlawful.recordStep hstep, hstep.currentState.trans hcurrent, fun next hnext' => ?_⟩
  rcases hstep.nextState with hsame | ⟨state', hallowed, hstate'⟩
  · exact hnext next (hsame ▸ hnext')
  · rw [hstate'] at hnext'
    exact Option.some.inj hnext' ▸ hallowed

theorem Executed.recordStep {type : StateType} (h : Executed type w)
    (hstep : RecordStep (fun _ => False) w w') : Executed type w' := by
  have hsame : w'.context.nextState = w.context.nextState := by
    rcases hstep.nextState with hsame | ⟨_, hfalse, -⟩
    · exact hsame
    · exact hfalse.elim
  refine ⟨h.lawful.recordStep hstep, by rw [hstep.currentState, h.currentState],
    fun next hnext => ?_, fun htype => ?_⟩
  · obtain ⟨hfollows, hshutdown⟩ := h.nextState next (hsame ▸ hnext)
    exact ⟨hfollows, hstep.shutdown ∘ hshutdown⟩
  · obtain ⟨hcompleted, hnone⟩ := h.completed htype
    rw [hstep.initCompletions, hsame]
    exact ⟨hcompleted, hstep.shutdown ∘ hnone⟩

variable {mayAdd : World → BeaconKey → UTF8String → Prop}

/-- What steps within a state keep is stable under the steps of the application. -/
theorem stable_of_recordStep {P : World → Prop}
    (h : ∀ w w', P w → RecordStep (fun _ => False) w w' → P w') : Stable (AppStep mayAdd) P :=
  fun w w' hstep hp => h w w' hp (stateStep_of_appStep hstep).recordStep

theorem stable_lawful : Stable (AppStep mayAdd) Lawful :=
  stable_of_recordStep fun _ _ => Lawful.recordStep

theorem stable_ready : Stable (AppStep mayAdd) Ready :=
  stable_of_recordStep fun _ _ => Ready.recordStep

theorem stable_executed (type : StateType) : Stable (AppStep mayAdd) (Executed type) :=
  stable_of_recordStep fun _ _ => Executed.recordStep

theorem stable_shutdown : Stable (AppStep mayAdd) fun w => w.context.shutdown = true :=
  stable_of_recordStep fun _ _ h hstep => hstep.shutdown h

end Stability

/-! ## The executions of the states -/

section Executions

variable {mayAdd : World → BeaconKey → UTF8String → Prop} {allowed : BeaconSendingState → Prop}
  {w : World}

/-- A program whose actions are steps within a state, from the start of the execution on. -/
theorem sat_executing {α : Type} {p : Sender α} {state : BeaconSendingState}
    (hp : Program.Guarantees (RecordStep allowed) p) (h : Executing state allowed w) :
    Program.Sat (AppStep mayAdd) Lawful p (fun _ => Executing state allowed) w := by
  refine hp.sat_post ?_ (fun _ _ hstep hex => hex.recordStep hstep) (fun _ hex => hex.1) h
  intro u v hstep hex
  exact hex.recordStep (stateStep_of_appStep hstep).recordStep

/-- Where the states that may be next are edges of the graph, the execution is lawful. -/
theorem Executing.executed {state : BeaconSendingState} (hinit : state.getStateType ≠ .init)
    (hallowed : ∀ next, allowed next → Follows state.getStateType next.getStateType ∧
      (next.getStateType = .flushSessions ∨ next.getStateType = .terminal →
        state.getStateType = .flushSessions))
    (h : Executing state allowed w) : Executed state.getStateType w := by
  obtain ⟨hlawful, hcurrent, hnext⟩ := h
  refine ⟨hlawful, congrArg _ hcurrent, fun next hnext' => ?_, fun htype => absurd htype hinit⟩
  obtain ⟨hfollows, hflush⟩ := hallowed next (hnext next hnext')
  refine ⟨hfollows, fun hend => hlawful.shutdown (.inl ?_)⟩
  rw [← hflush hend, ← hcurrent]
  exact hlawful.mem_visited

/-- The next states of the capture-off state. -/
def CaptureOffState.Next (state : BeaconSendingState) : Prop :=
  state.getStateType = .captureOff ∨ state.getStateType = .captureOn

theorem recordStep_setLastStatusCheckTime (w : World) (time : ℤ) :
    RecordStep allowed w (w.setContext (w.context.setLastStatusCheckTime time)) :=
  ⟨rfl, .inl rfl, rfl, rfl, id, rfl, rfl, rfl⟩

theorem recordStep_statusChecked (w : World) (check : StatusCheck) :
    RecordStep allowed w (w.write (.state (.statusChecked check))) := by
  refine ⟨rfl, .inl rfl, rfl, rfl, id, ?_, ?_, ?_⟩
  · rw [World.log_write, stateEvents_append, visited, List.filterMap_append]
    exact congrArg _ (List.append_nil _)
  · rw [World.log_write, stateEvents_append, initChecks, List.filterMap_append]
    exact List.append_nil _
  · rw [World.log_write, stateEvents_append, initCompletions, List.filterMap_append]
    exact List.append_nil _

theorem guarantees_recordStep_handleStatusResponse (response : Option Answer) :
    Program.Guarantees (RecordStep CaptureOffState.Next)
      (CaptureOffState.handleStatusResponse response) := by
  have hhandle : Program.Guarantees (RecordStep CaptureOffState.Next)
      (BeaconSendingContext.handleStatusResponse response) :=
    (guarantees_stateStep_handleStatusResponse response).mono fun _ _ h => h.recordStep
  have hrest : ∀ capture : Bool, Program.Guarantees (RecordStep CaptureOffState.Next)
      (if isSuccessfulResponse response && capture then
        Program.write fun w => w.setContext (w.context.setNextState .captureOn)
      else return () : Sender Unit) := by
    intro capture
    split
    · exact Program.guarantees_atomic fun _ =>
        ⟨rfl, .inr ⟨.captureOn, .inr rfl, rfl⟩, rfl, rfl, id, rfl, rfl, rfl⟩
    · trivial
  have hnext : Program.Guarantees (RecordStep CaptureOffState.Next)
      (Program.write fun w => w.setContext
        (w.context.setNextState (.captureOff (retryAfterInMilliseconds response))) :
          Sender Unit) :=
    Program.guarantees_atomic fun _ =>
      ⟨rfl, .inr ⟨.captureOff _, .inl rfl, rfl⟩, rfl, rfl, id, rfl, rfl, rfl⟩
  have hread : Program.Guarantees (RecordStep CaptureOffState.Next)
      (Program.read fun w => w.context.isCaptureOn : Sender Bool) :=
    (guarantees_stateStep_read _).mono fun _ _ h => h.recordStep
  rw [CaptureOffState.handleStatusResponse]
  split
  · refine hhandle.bind fun _ => ?_
    split
    · exact hnext
    · exact hread.bind hrest
  · split
    · exact hnext
    · exact hread.bind hrest

theorem guarantees_recordStep_captureOff {env : Environment} (sleepTimeInMilliseconds : ℤ) :
    Program.Guarantees (RecordStep CaptureOffState.Next)
      (CaptureOffState.doExecute env sleepTimeInMilliseconds) := by
  have hread {β : Type} (f : World → β) : Program.Guarantees (RecordStep CaptureOffState.Next)
      (Program.read f : Sender β) := (guarantees_stateStep_read f).mono fun _ _ h => h.recordStep
  have hcheck (currentTime : ℤ) : Program.Guarantees (RecordStep CaptureOffState.Next)
      (CaptureOffState.checkStatus env sleepTimeInMilliseconds currentTime) := by
    refine (hread _).bind fun requestTime => ?_
    refine ((guarantees_stateStep_sendStatusRequest _ _).mono fun _ _ h => h.recordStep).bind
      fun response => ?_
    refine Program.Guarantees.bind
      (Program.guarantees_atomic fun w => recordStep_statusChecked w _) fun _ => ?_
    refine (guarantees_recordStep_handleStatusResponse response).bind fun _ => ?_
    exact Program.guarantees_atomic fun w => recordStep_setLastStatusCheckTime w _
  refine (guarantees_stateStep_disableCaptureAndClear.mono fun _ _ h => h.recordStep).bind
    fun _ => ?_
  refine (hread _).bind fun currentTime => ?_
  refine (hread _).bind fun lastStatusCheckTime => ?_
  refine (hread _).bind fun shutdown => ?_
  split
  · refine ((guarantees_stateStep_sleep _).mono fun _ _ h => h.recordStep).bind fun _ => ?_
    refine (hread _).bind fun shutdown' => ?_
    split
    · trivial
    · exact hcheck currentTime
  · exact hcheck currentTime

/-! ### The initial state -/

/-- What holds in the initial state until its requests are over. -/
def InitReady (w : World) : Prop :=
  Ready w ∧ w.context.currentState.getStateType = .init ∧ w.context.nextState = none

/-- What holds in the initial state after the check, until the initialisation is completed. -/
structure Checked (statusResponse : Option Answer) (shutdownRequested : Bool) (w : World) :
    Prop where
  lawful : Lawful w
  currentState : w.context.currentState.getStateType = .init
  initChecks : initChecks (stateEvents w.log) = [(statusResponse, shutdownRequested)]
  initCompletions : initCompletions (stateEvents w.log) = []

theorem InitReady.recordStep {u : World} (h : InitReady w)
    (hstep : RecordStep (fun _ => False) w u) : InitReady u := by
  obtain ⟨hready, htype, hnone⟩ := h
  refine ⟨hready.recordStep hstep, by rw [hstep.currentState, htype], ?_⟩
  rcases hstep.nextState with hsame | ⟨_, hfalse, -⟩
  · exact hsame.trans hnone
  · exact hfalse.elim

theorem Checked.recordStep {statusResponse : Option Answer} {shutdownRequested : Bool} {u : World}
    (h : Checked statusResponse shutdownRequested w) (hstep : RecordStep allowed w u) :
    Checked statusResponse shutdownRequested u :=
  ⟨h.lawful.recordStep hstep, by rw [hstep.currentState, h.currentState],
    by rw [hstep.initChecks, h.initChecks], by rw [hstep.initCompletions, h.initCompletions]⟩

/-- The index of the next delay is the last one at most. -/
theorem InitReady.nextDelay (h : InitReady w) :
    InitReady (w.setContext (InitialState.nextDelay w.context)) := by
  obtain ⟨⟨hlawful, hinit⟩, htype, hnone⟩ := h
  refine ⟨⟨⟨hlawful.changes, ?_, hlawful.shutdown, ⟨hlawful.initRecord.completions,
    hlawful.initRecord.latch, hlawful.initRecord.initSucceeded⟩, hlawful.completedFirst, ?_⟩,
    fun _ => hinit htype⟩, rfl, hnone⟩
  · have hcurrent := hlawful.currentState
    rw [htype] at hcurrent
    exact hcurrent
  · intro index hindex
    obtain rfl := BeaconSendingState.init.inj hindex
    exact lt_of_le_of_lt (min_le_right _ _) (by decide)

variable {env : Environment}

theorem guarantees_requestInitialStatus (statusResponse : Option Answer) :
    Program.Guarantees (fun w u => InitReady w → InitReady u)
      (InitialState.requestInitialStatus env statusResponse) := by
  have hkeep {β : Type} {p : Sender β} (hp : Program.Guarantees (StateStep fun _ => False) p) :
      Program.Guarantees (fun w u => InitReady w → InitReady u) p :=
    hp.mono fun _ _ hstep h => h.recordStep hstep.recordStep
  refine (hkeep (guarantees_stateStep_read _)).bind fun shutdown => ?_
  split
  · trivial
  refine (hkeep (guarantees_stateStep_read _)).bind fun currentTimestamp => ?_
  refine Program.Guarantees.bind (Program.guarantees_atomic fun w h => ?_) fun _ => ?_
  · exact h.recordStep ⟨rfl, .inl rfl, rfl, rfl, id, rfl, rfl, rfl⟩
  refine Program.Guarantees.bind (Program.guarantees_atomic fun w h =>
    h.recordStep (recordStep_setLastStatusCheckTime w _)) fun _ => ?_
  refine (hkeep (guarantees_stateStep_sendStatusRequest _ _)).bind fun response => ?_
  split
  · trivial
  refine Program.Guarantees.bind (hkeep ?_) fun sleepTime => ?_
  · refine (guarantees_stateStep_read _).bind fun delay => ?_
    split
    · exact guarantees_stateStep_disableCaptureAndClear.bind fun _ => trivial
    · trivial
  refine (hkeep (guarantees_stateStep_sleep _)).bind fun _ => ?_
  exact Program.Guarantees.bind (Program.guarantees_atomic fun w h => h.nextDelay) fun _ => trivial

/-- The requests ended with a successful answer, or because shutdown was requested. -/
def RequestsEnded (response : Option Answer) (w : World) : Prop :=
  isSuccessfulResponse response = true ∨ w.context.shutdown = true

theorem stable_requestsEnded (response : Option Answer) :
    Stable (AppStep mayAdd) (RequestsEnded response) :=
  fun u v hstep hend => hend.imp_right (stable_shutdown u v hstep)

/-- A round of the requests ends them for one of the two reasons. -/
theorem sat_requestInitialStatus (response : Option Answer) (w : World) :
    Program.Sat (AppStep mayAdd) (fun _ => True)
      (InitialState.requestInitialStatus env response)
      (Program.Round (fun _ _ => True) RequestsEnded) w := by
  have htrue : Stable (AppStep mayAdd) fun _ => True := Stable.const True
  refine Program.Sat.seq (M := fun shutdown t => shutdown = true → t.context.shutdown = true)
    (Program.sat_read htrue htrue (fun shutdown u v hstep h hs => stable_shutdown u v hstep (h hs))
      (fun _ _ _ => id) trivial trivial) fun shutdown t _ hshutdown => ?_
  split
  next hs => exact Program.sat_ret htrue (stable_requestsEnded response) trivial (.inr (hshutdown hs))
  refine (Program.sat_trivial _ _).seq fun currentTimestamp _ _ _ => ?_
  refine (Program.sat_trivial _ _).seq fun _ _ _ _ => ?_
  refine (Program.sat_trivial _ _).seq fun _ _ _ _ => ?_
  refine (Program.sat_trivial _ _).seq fun answer _ _ _ => ?_
  split
  next hsuccess =>
    exact Program.sat_ret htrue (stable_requestsEnded answer) trivial (.inl hsuccess)
  refine (Program.sat_trivial _ _).seq fun sleepTime _ _ _ => ?_
  refine (Program.sat_trivial _ _).seq fun _ _ _ _ => ?_
  refine (Program.sat_trivial _ _).seq fun _ _ _ _ => ?_
  exact Program.sat_ret htrue htrue trivial trivial

theorem sat_executeStatusRequest (rounds : ℕ) (h : InitReady w) :
    Program.Sat (AppStep mayAdd) Lawful (InitialState.executeStatusRequest env rounds)
      (fun response t => InitReady t ∧ RequestsEnded response t) w := by
  have hsteps : Program.Guarantees (fun w u => InitReady w → InitReady u)
      (InitialState.executeStatusRequest env rounds) :=
    Program.guarantees_loop guarantees_requestInitialStatus rounds none
  have hready : Stable (AppStep mayAdd) InitReady :=
    stable_of_recordStep fun _ _ => InitReady.recordStep
  have hkeep := hsteps.sat hready (fun _ _ hstep => hstep) h
  have hended : Program.Sat (AppStep mayAdd) (fun _ => True)
      (InitialState.executeStatusRequest env rounds) RequestsEnded w :=
    Program.sat_loop (J := fun _ _ => True) (Stable.const True) stable_requestsEnded
      (fun response u _ _ => sat_requestInitialStatus response u) rounds trivial trivial
  exact ((hkeep.and hended).mono fun response t hi hq => ⟨hi.1, hq.2⟩).weaken fun t ht => ht.1.1.1

/-- The check keeps the invariant. -/
theorem InitReady.checked (h : InitReady w) (response : Option Answer) (shutdownRequested : Bool) :
    Checked response shutdownRequested
      (w.write (.state (.initChecked response shutdownRequested))) := by
  obtain ⟨⟨hlawful, hinit⟩, htype, -⟩ := h
  obtain ⟨hchecks, hcompletions⟩ := hinit htype
  have hevents : stateEvents (w.write (.state (.initChecked response shutdownRequested))).log =
      stateEvents w.log ++ [.initChecked response shutdownRequested] := stateEvents_append _ _
  have hvisited : visited (stateEvents w.log ++ [.initChecked response shutdownRequested]) =
      visited (stateEvents w.log) := by
    rw [visited, List.filterMap_append]
    exact congrArg _ (List.append_nil _)
  have hcompletions' :
      initCompletions (stateEvents w.log ++ [.initChecked response shutdownRequested]) = [] := by
    rw [initCompletions, List.filterMap_append]
    exact (List.append_nil _).trans hcompletions
  refine ⟨⟨?_, ?_, ?_, ⟨?_, ?_, ?_⟩, ?_, hlawful.delayIndex⟩, htype, ?_, ?_⟩
  · rw [hevents, hvisited]
    exact hlawful.changes
  · rw [hevents, hvisited]
    exact hlawful.currentState
  · rw [hevents, hvisited]
    exact hlawful.shutdown
  · exact .inl (by rw [hevents, hcompletions'])
  · have hlatch := hlawful.initRecord.latch
    rw [if_pos hcompletions] at hlatch
    rw [hevents, hcompletions', if_pos rfl]
    exact hlatch
  · have hsucceeded := hlawful.initRecord.initSucceeded
    rw [hcompletions] at hsucceeded
    rw [hevents, hcompletions']
    exact hsucceeded
  · rw [hevents, hvisited]
    intro hleft
    exact absurd hcompletions (hlawful.completedFirst hleft)
  · rw [hevents, initChecks, List.filterMap_append, ← initChecks, hchecks]
    rfl
  · rw [hevents, hcompletions']

/-- The completion of the initialisation, with what was checked. -/
theorem executed_setInitCompleted {response : Option Answer} {shutdownRequested : Bool}
    (success : Bool)
    (h : Checked response shutdownRequested w)
    (hsuccess : success = (isSuccessfulResponse response && !shutdownRequested))
    (hnext : ∀ next, w.context.nextState = some next →
      next.getStateType = .captureOn ∨ next.getStateType = .captureOff)
    (hnone : w.context.nextState = none → w.context.shutdown = true) :
    Executed .init ((w.setContext (w.context.setInitCompleted success)).write
      (.state (.initCompleted success))) := by
  obtain ⟨hlawful, htype, hchecks, hcompletions⟩ := h
  have hevents : stateEvents ((w.setContext (w.context.setInitCompleted success)).write
      (.state (.initCompleted success))).log = stateEvents w.log ++ [.initCompleted success] :=
    stateEvents_append _ _
  have hvisited : visited (stateEvents w.log ++ [.initCompleted success]) =
      visited (stateEvents w.log) := by
    rw [visited, List.filterMap_append]
    exact congrArg _ (List.append_nil _)
  have hchecks' : initChecks (stateEvents w.log ++ [.initCompleted success]) =
      [(response, shutdownRequested)] := by
    rw [initChecks, List.filterMap_append]
    exact (List.append_nil _).trans hchecks
  have hcompletions' : initCompletions (stateEvents w.log ++ [.initCompleted success]) =
      [success] := by
    rw [initCompletions, List.filterMap_append, ← initCompletions, hcompletions]
    rfl
  have hlatch : w.context.initCountdownLatch = 1 := by
    have hlatch := hlawful.initRecord.latch
    rwa [if_pos hcompletions] at hlatch
  refine ⟨⟨?_, ?_, ?_, ⟨.inr ⟨response, shutdownRequested, ?_, ?_⟩, ?_, ?_⟩, fun _ => ?_,
    hlawful.delayIndex⟩, htype, fun next hn => ?_, fun _ => ⟨?_, hnone⟩⟩
  · rw [hevents, hvisited]
    exact hlawful.changes
  · rw [hevents, hvisited]
    exact hlawful.currentState
  · rw [hevents, hvisited]
    exact hlawful.shutdown
  · rw [hevents, hchecks']
  · rw [hevents, hcompletions', hsuccess]
  · rw [hevents, hcompletions', if_neg (List.cons_ne_nil _ _)]
    show w.context.initCountdownLatch - 1 = 0
    rw [hlatch]
    rfl
  · rw [hevents, hcompletions']
    cases success <;> rfl
  · rw [hevents, hcompletions']
    exact List.cons_ne_nil _ _
  · rcases hnext next hn with hon | hoff
    · rw [hon]
      exact ⟨by decide, fun hend => by rcases hend with hend | hend <;> cases hend⟩
    · rw [hoff]
      exact ⟨by decide, fun hend => by rcases hend with hend | hend <;> cases hend⟩
  · rw [hevents, hcompletions']
    exact List.cons_ne_nil _ _

/-- A next state is set, in which capturing is on or off. -/
def CapturingNext (w : World) : Prop :=
  ∃ next, w.context.nextState = some next ∧
    (next.getStateType = .captureOn ∨ next.getStateType = .captureOff)

theorem stable_checked (response : Option Answer) (shutdownRequested : Bool) :
    Stable (AppStep mayAdd) (Checked response shutdownRequested) :=
  stable_of_recordStep fun _ _ => Checked.recordStep

theorem stable_nextState (P : Option BeaconSendingState → Prop) :
    Stable (AppStep mayAdd) fun w => P w.context.nextState := by
  refine stable_of_recordStep fun w u h hstep => ?_
  rcases hstep.nextState with hsame | ⟨_, hfalse, -⟩
  · rwa [hsame]
  · exact hfalse.elim

theorem stable_capturingNext : Stable (AppStep mayAdd) CapturingNext :=
  stable_nextState fun next? => ∃ next, next? = some next ∧
    (next.getStateType = .captureOn ∨ next.getStateType = .captureOff)

/-- After a successful answer the initial state sets the next. -/
theorem sat_leave {response : Option Answer} (h : Checked response false w) :
    Program.Sat (AppStep mayAdd) Lawful (InitialState.leave response)
      (fun _ t => Checked response false t ∧ CapturingNext t) w := by
  have hP : Stable (AppStep mayAdd) (Checked response false) := stable_checked response false
  have hQ : Stable (AppStep mayAdd) fun t => Checked response false t ∧ CapturingNext t :=
    hP.and stable_capturingNext
  have hset (next : BeaconSendingState)
      (hnext : next.getStateType = .captureOn ∨ next.getStateType = .captureOff) {t : World}
      (ht : Checked response false t) :
      Program.Sat (AppStep mayAdd) Lawful
        (Program.write fun w => w.setContext (w.context.setNextState next) : Sender Unit)
        (fun _ t => Checked response false t ∧ CapturingNext t) t := by
    refine Program.sat_write stable_lawful hP (fun _ => hQ) (fun u _ hu => ?_) ht.lawful ht
    have hstep : RecordStep (fun _ => True) u (u.setContext (u.context.setNextState next)) :=
      ⟨rfl, .inr ⟨next, trivial, rfl⟩, rfl, rfl, id, rfl, rfl, rfl⟩
    have hchecked := hu.recordStep hstep
    exact ⟨hchecked.lawful, hchecked, next, rfl, hnext⟩
  refine Program.Sat.seq (M := fun _ => Checked response false) ?_ fun _ t _ ht => ?_
  · have hsteps : Program.Guarantees (StateStep fun _ => False)
        (BeaconSendingContext.handleStatusResponse response) :=
      guarantees_stateStep_handleStatusResponse response
    exact hsteps.sat_post hP (fun _ _ hstep hu => hu.recordStep hstep.recordStep)
      (fun _ hu => hu.lawful) h
  refine Program.Sat.seq (M := fun _ => Checked response false)
    (Program.sat_read stable_lawful hP (fun _ => hP) (fun _ _ hu => hu) ht.lawful ht)
    fun capture u _ hu => ?_
  split
  · exact hset .captureOn (.inl rfl) hu
  · exact hset (.captureOff (-1)) (.inr rfl) hu

/-- What is known after the check: shutdown was requested, or the answer was successful. -/
structure CheckOutcome (response : Option Answer) (shutdownRequested : Bool) (w : World) : Prop where
  checked : Checked response shutdownRequested w
  nextState : w.context.nextState = none
  shutdown : shutdownRequested = true → w.context.shutdown = true
  success : shutdownRequested = false → isSuccessfulResponse response = true

theorem stable_checkOutcome (response : Option Answer) (shutdownRequested : Bool) :
    Stable (AppStep mayAdd) (CheckOutcome response shutdownRequested) := fun u v hstep h =>
  ⟨stable_checked response shutdownRequested u v hstep h.checked,
    stable_nextState (· = none) u v hstep h.nextState,
    stable_shutdown u v hstep ∘ h.shutdown, h.success⟩

/-- **The initial state** completes the initialisation, and is left. -/
theorem sat_initialState (rounds : ℕ) (h : InitReady w) :
    Program.Sat (AppStep mayAdd) Lawful (InitialState.doExecute env rounds)
      (fun _ => Executed .init) w := by
  refine (sat_executeStatusRequest rounds h).seq fun response t _ ⟨ht, hended⟩ => ?_
  -- the check
  refine Program.Sat.seq (M := CheckOutcome response) ?_ fun shutdownRequested u _ hu => ?_
  · refine Program.sat_atomic (P := fun t => InitReady t ∧ RequestsEnded response t) stable_lawful
      ((stable_of_recordStep fun _ _ => InitReady.recordStep).and (stable_requestsEnded response))
      (stable_checkOutcome response) (fun u _ ⟨hu, hended⟩ => ?_) ht.1.1 ⟨ht, hended⟩
    have hchecked := hu.checked response u.context.shutdown
    refine ⟨hchecked.lawful, hchecked, hu.2.2, id, fun hrunning => ?_⟩
    change u.context.shutdown = false at hrunning
    exact hended.resolve_right (by rw [hrunning]; exact Bool.false_ne_true)
  -- the completion
  cases shutdownRequested with
  | true =>
    refine Program.sat_write stable_lawful (stable_checkOutcome response true)
      (fun _ => stable_executed .init) (fun v _ hv => ?_) hu.checked.lawful hu
    have hdone := executed_setInitCompleted false hv.checked (Bool.and_false _).symm
      (fun next hnext => by rw [hv.nextState] at hnext; cases hnext)
      fun _ => hv.shutdown rfl
    exact ⟨hdone.lawful, hdone⟩
  | false =>
    rw [if_neg Bool.false_ne_true, hu.success rfl, if_pos rfl]
    refine (sat_leave hu.checked).seq fun _ v _ ⟨hv, hnext⟩ => ?_
    refine Program.sat_write stable_lawful
      ((stable_checked response false).and stable_capturingNext)
      (fun _ => stable_executed .init) (fun v _ ⟨hv, hnext⟩ => ?_) hv.lawful ⟨hv, hnext⟩
    obtain ⟨next, hsome, hcapturing⟩ := hnext
    have hdone := executed_setInitCompleted true hv (by rw [hu.success rfl]; rfl)
      (fun next' hnext' => Option.some.inj (hsome.symm.trans hnext') ▸ hcapturing)
      fun hnone => by rw [hnone] at hsome; cases hsome
    exact ⟨hdone.lawful, hdone⟩

/-! ### The change of state -/

/-- **The execution of a state** leaves a next state along an edge of the graph, or none. -/
theorem sat_doExecute {caller : Caller} {rounds : ℕ} (h : Ready w)
    (hnone : w.context.nextState = none) :
    Program.Sat (AppStep mayAdd) Lawful
      (w.context.currentState.doExecute caller env rounds)
      (fun _ => Executed w.context.currentState.getStateType) w := by
  have hstart (allowed : BeaconSendingState → Prop) :
      Executing w.context.currentState allowed w :=
    ⟨h.1, rfl, fun next hnext => by rw [hnone] at hnext; cases hnext⟩
  cases hstate : w.context.currentState with
  | init index => exact sat_initialState rounds ⟨h, by rw [hstate]; rfl, hnone⟩
  | captureOn =>
    have hsteps : Program.Guarantees (RecordStep CaptureOnState.Next)
        (BeaconSendingState.captureOn.doExecute caller env rounds) :=
      ((guarantees_stateStep_sleep _).bind fun _ =>
        CaptureOnState.guarantees_stateStep_doExecute).mono fun _ _ hstep => hstep.recordStep
    refine (sat_executing hsteps (hstate ▸ hstart _)).mono fun _ t _ ht => ?_
    refine ht.executed (by decide) fun next hnext => ?_
    change next.getStateType = .captureOff at hnext
    rw [hnext]
    decide
  | captureOff sleepTime =>
    refine (sat_executing (guarantees_recordStep_captureOff sleepTime)
      (hstate ▸ hstart _)).mono fun _ t _ ht => ?_
    refine ht.executed (show StateType.captureOff ≠ .init by decide) fun next hnext => ?_
    show Follows .captureOff _ ∧ (_ → StateType.captureOff = _)
    rcases hnext with hnext | hnext
    · rw [hnext]
      decide
    · rw [hnext]
      decide
  | flushSessions =>
    have hsteps : Program.Guarantees (RecordStep FlushSessionsState.Next)
        (BeaconSendingState.flushSessions.doExecute caller env rounds) :=
      FlushSessionsState.guarantees_stateStep_doExecute.mono fun _ _ hstep => hstep.recordStep
    refine (sat_executing hsteps (hstate ▸ hstart _)).mono fun _ t _ ht => ?_
    refine ht.executed (by decide) fun next hnext => ?_
    change next = .terminal at hnext
    rw [hnext]
    decide
  | terminal =>
    have hsteps : Program.Guarantees (RecordStep fun _ => False)
        (BeaconSendingState.terminal.doExecute caller env rounds) :=
      Program.guarantees_atomic fun w => ⟨rfl, .inl rfl, rfl, rfl, fun _ => rfl, rfl, rfl, rfl⟩
    refine (sat_executing hsteps (hstate ▸ hstart _)).mono fun _ t _ ht => ?_
    exact ht.executed (by decide) fun next hnext => hnext.elim

/-- The change along an edge keeps the invariant, and leaves no initial state behind. -/
theorem Executed.changeState {type : StateType} (h : Executed type w)
    (hinit : type = .init → w.context.nextState ≠ none) : Ready w.changeState := by
  rw [World.changeState]
  split
  next hnone =>
    exact ⟨h.lawful, fun htype => absurd hnone (hinit (h.currentState ▸ htype))⟩
  next next hnext =>
    obtain ⟨hfollows, hshutdown⟩ := h.nextState next hnext
    have hevents : stateEvents ((w.setContext { w.context with currentState := next }).write
        (.state (.stateChanged w.context.currentState next))).log =
          stateEvents w.log ++ [.stateChanged w.context.currentState next] :=
      stateEvents_append _ _
    have hvisited : visited (stateEvents w.log ++ [.stateChanged w.context.currentState next]) =
        visited (stateEvents w.log) ++ [next.getStateType] := by
      rw [visited, List.filterMap_append]
      rfl
    have hchecks : initChecks (stateEvents w.log ++ [.stateChanged w.context.currentState next]) =
        initChecks (stateEvents w.log) := by
      rw [initChecks, List.filterMap_append]
      exact List.append_nil _
    have hcompletions :
        initCompletions (stateEvents w.log ++ [.stateChanged w.context.currentState next]) =
          initCompletions (stateEvents w.log) := by
      rw [initCompletions, List.filterMap_append]
      exact List.append_nil _
    have hlast : (visited (stateEvents w.log)).getLast? = some type :=
      h.currentState ▸ h.lawful.currentState
    have hcompleted : initCompletions (stateEvents w.log) ≠ [] := by
      by_cases htype : type = .init
      · exact (h.completed htype).1
      · refine h.lawful.completedFirst fun hstart => htype ?_
        rw [hstart] at hlast
        exact (Option.some.inj hlast).symm
    have hleft : next.getStateType ≠ .init := fun htype => not_follows_init (htype ▸ hfollows)
    refine ⟨⟨?_, ?_, ?_, ⟨?_, ?_, ?_⟩, fun _ => ?_, ?_⟩, fun htype => absurd htype hleft⟩
    · rw [hevents, hvisited, List.isChain_append]
      refine ⟨h.lawful.changes, List.isChain_singleton _, fun a ha b hb => ?_⟩
      rw [hlast, Option.mem_some_iff] at ha
      rw [List.head?_cons, Option.mem_some_iff] at hb
      rwa [← ha, ← hb]
    · rw [hevents, hvisited]
      exact List.getLast?_concat
    · rw [hevents, hvisited, List.mem_append, List.mem_append, List.mem_singleton,
        List.mem_singleton]
      rintro ((hflush | hflush) | (hterminal | hterminal))
      · exact h.lawful.shutdown (.inl hflush)
      · exact hshutdown (.inl hflush.symm)
      · exact h.lawful.shutdown (.inr hterminal)
      · exact hshutdown (.inr hterminal.symm)
    · rw [hevents, hcompletions, hchecks]
      exact h.lawful.initRecord.completions
    · rw [hevents, hcompletions]
      exact h.lawful.initRecord.latch
    · rw [hevents, hcompletions]
      exact h.lawful.initRecord.initSucceeded
    · rw [hevents, hcompletions]
      exact hcompleted
    · intro index hindex
      exact absurd (congrArg BeaconSendingState.getStateType hindex) hleft

/-- What holds before the change to the next state. -/
def Leaving (type : StateType) (w : World) : Prop :=
  Executed type w ∧ (type = .init → w.context.nextState ≠ none)

theorem stable_leaving (type : StateType) : Stable (AppStep mayAdd) (Leaving type) :=
  (stable_executed type).and (stable_nextState fun next? => type = .init → next? ≠ none)

/-- When shutdown was requested, the shutdown state is set as the next. -/
theorem Executed.setShutdownState {state : BeaconSendingState}
    (h : Executed state.getStateType w) (hshutdown : w.context.shutdown = true) :
    Leaving state.getStateType
      (w.setContext (w.context.setNextState state.getShutdownState)) := by
  have hstep : RecordStep (fun _ => True) w
      (w.setContext (w.context.setNextState state.getShutdownState)) :=
    ⟨rfl, .inr ⟨_, trivial, rfl⟩, rfl, rfl, id, rfl, rfl, rfl⟩
  refine ⟨⟨h.lawful.recordStep hstep, h.currentState, fun next hnext => ?_,
    fun htype => ⟨(h.completed htype).1, fun hnone => by cases hnone⟩⟩, fun _ => nofun⟩
  obtain rfl := Option.some.inj hnext
  exact ⟨follows_getShutdownState state, fun _ => hshutdown⟩

theorem sat_execute {caller : Caller} {rounds : ℕ} (h : Ready w)
    (hnone : w.context.nextState = none) :
    Program.Sat (AppStep mayAdd) Lawful
      (w.context.currentState.execute caller env rounds)
      (fun _ => Leaving w.context.currentState.getStateType) w := by
  generalize hstate : w.context.currentState = state
  have hdo : Program.Sat (AppStep mayAdd) Lawful
      (w.context.currentState.doExecute caller env rounds)
      (fun _ => Executed w.context.currentState.getStateType) w := sat_doExecute h hnone
  rw [hstate] at hdo
  refine hdo.seq fun _ t _ ht => ?_
  -- what is read is still known when it is used
  refine Program.Sat.seq (M := fun shutdown u => Executed state.getStateType u ∧
      if shutdown then u.context.shutdown = true
      else state.getStateType = .init → u.context.nextState ≠ none) ?_
    fun shutdown u _ ⟨hu, hread⟩ => ?_
  · refine Program.sat_read stable_lawful (stable_executed _) (fun shutdown => ?_)
      (fun u _ hu => ⟨hu, ?_⟩) ht.lawful ht
    · cases shutdown with
      | true => exact (stable_executed _).and stable_shutdown
      | false =>
        exact (stable_executed _).and
          (stable_nextState fun next? => state.getStateType = .init → next? ≠ none)
    · cases hshutdown : u.context.isShutdownRequested with
      | true => exact hshutdown
      | false =>
        intro htype hnone'
        have hrequested : u.context.isShutdownRequested = true := (hu.completed htype).2 hnone'
        exact absurd (hshutdown.symm.trans hrequested) Bool.false_ne_true
  · cases shutdown with
    | true =>
      refine Program.sat_write stable_lawful ((stable_executed _).and stable_shutdown)
        (fun _ => stable_leaving _) (fun v _ ⟨hv, hshutdown⟩ => ?_) hu.lawful ⟨hu, hread⟩
      have hleaving := hv.setShutdownState hshutdown
      exact ⟨hleaving.1.lawful, hleaving⟩
    | false =>
      exact Program.sat_ret stable_lawful (stable_leaving _) hu.lawful ⟨hu, hread⟩

/-- What holds when the execution of a state starts. -/
def Starting (state : BeaconSendingState) (w : World) : Prop :=
  (Ready w ∧ w.context.nextState = none) ∧ w.context.currentState = state

/-- **One execution** of the current state. -/
theorem sat_executeCurrentState {caller : Caller} {rounds : ℕ} (h : Ready w) :
    Program.Sat (AppStep mayAdd) Lawful (executeCurrentState caller env rounds)
      (fun _ => Ready) w := by
  have hReadyNone : Stable (AppStep mayAdd) fun t => Ready t ∧ t.context.nextState = none :=
    stable_ready.and (stable_nextState (· = none))
  have hstarting (state : BeaconSendingState) : Stable (AppStep mayAdd) (Starting state) :=
    hReadyNone.and (stable_of_recordStep fun _ _ hu hstep => hstep.currentState.trans hu)
  have hclear (t : World) (ht : Ready t) :
      Ready (t.setContext { t.context with nextState := none }) :=
    ⟨⟨ht.1.changes, ht.1.currentState, ht.1.shutdown, ⟨ht.1.initRecord.completions,
      ht.1.initRecord.latch, ht.1.initRecord.initSucceeded⟩, ht.1.completedFirst,
      ht.1.delayIndex⟩, ht.2⟩
  refine Program.Sat.seq (M := fun _ t => Ready t ∧ t.context.nextState = none)
    (Program.sat_write stable_lawful stable_ready (fun _ => hReadyNone)
      (fun t _ ht => ⟨(hclear t ht).1, hclear t ht, rfl⟩) h.1 h) fun _ t _ ⟨ht, hnone⟩ => ?_
  refine Program.Sat.seq (M := Starting)
    (Program.sat_read stable_lawful hReadyNone hstarting (fun u _ hu => ⟨hu, rfl⟩) ht.1 ⟨ht, hnone⟩)
    fun state u _ ⟨⟨hu, hnone⟩, hstate⟩ => ?_
  subst hstate
  refine (sat_execute hu hnone).seq fun _ v _ hv => ?_
  refine Program.sat_write stable_lawful (stable_leaving _) (fun _ => stable_ready)
    (fun x _ hx => ?_) hv.1.lawful hv
  have hready := hx.1.changeState hx.2
  exact ⟨hready.1, hready⟩

theorem sat_executions {caller : Caller} {rounds : ℕ} (n : ℕ) (h : Ready w) :
    Program.Sat (AppStep mayAdd) Lawful (executions caller env rounds n) (fun _ => Ready) w := by
  induction n generalizing w with
  | zero => exact Program.sat_ret stable_lawful stable_ready h.1 h
  | succ n ih => exact (sat_executeCurrentState h).seq fun _ t _ ht => ih ht

/-- In the beginning the context is in its initial state. -/
theorem ready_new (sessions : BeaconKey → Session) (http : HTTPClientConfiguration) :
    Ready (.new sessions (.new http)) := by
  refine ⟨⟨List.isChain_singleton _, rfl, ?_, ⟨.inl rfl, rfl, rfl⟩, fun hleft => absurd rfl hleft,
    fun index hindex => ?_⟩, fun _ => ⟨rfl, rfl⟩⟩
  · rintro (hflush | hterminal)
    · exact absurd (List.mem_singleton.mp hflush) (by decide)
    · exact absurd (List.mem_singleton.mp hterminal) (by decide)
  · obtain rfl : 0 = index := BeaconSendingState.init.inj hindex
    decide

/-- **The state graph**: at every point of every run of the sender, whatever the server answers and
whatever the threads of the application do in between, the states have followed the graph. -/
theorem followsStateGraph_of_reaches {caller : Caller} {rounds n : ℕ}
    {sessions : BeaconKey → Session} {http : HTTPClientConfiguration} {p : Sender Unit} {t : World}
    (h : Program.Reaches (AppStep mayAdd)
      (executions caller env rounds n, .new sessions (.new http)) (p, t)) : FollowsStateGraph t :=
  ((sat_executions n (ready_new sessions http)).invariant h).followsStateGraph

end Executions

/-- A server that answers all requests, and leaves capturing on. -/
def successEnvironment : Environment := ⟨fun _ => some ⟨.undefined, 200, 0⟩, fun _ _ => .nil⟩

/-- The world after three executions with such a server. -/
def afterThreeExecutions : World :=
  ((executions ⟨0, fun _ => 0⟩ successEnvironment 1 3).run
    (.new (fun _ => .new (.new (.new ⟨.off, .off⟩) 0 0 .nil)) (.new ⟨1, .nil⟩))).2

/-- The sender is capturing by then. -/
theorem followsStateGraph_of_threeExecutions :
    afterThreeExecutions.context.currentState = .captureOn ∧
      FollowsStateGraph afterThreeExecutions := by
  refine ⟨rfl, ?_⟩
  have hreaches : Program.Reaches (AppStep fun _ _ _ => True)
      (executions ⟨0, fun _ => 0⟩ successEnvironment 1 3,
        .new (fun _ => .new (.new (.new ⟨.off, .off⟩) 0 0 .nil)) (.new ⟨1, .nil⟩))
      (.ret (), afterThreeExecutions) := Program.reaches_of_run (Prod.ext rfl rfl)
  exact followsStateGraph_of_reaches hreaches

end OpenKit
