import OpenKit.Communication.StateGraph

/-!
# The time between two status checks

While the sender stays in the capture-off state it checks the status again and again. How long it
sleeps before a check depends on the time that the last one read before its own sleep, and on the
time to sleep that the state was made with. What one check tells about the next is an invariant of
the runs in this state, and with it the distance of the checks is a matter of two neighbours.

## Main definitions

* `statusChecks`, `checksSince`: the checks in the log, and those since some point
* `stayInCaptureOff`: executions of the current state as long as it is the capture-off state
* `NextCheck`: what the sender makes of a check when it comes to the next
* `StatusCheck.Spaced`, `StatusCheck.WellTimed`: the distance of two checks, and when it is kept

## Main results

* `isChain_nextCheck_of_reaches`: each check in a run follows from the one before
* `spaced_of_reaches`: the checks are spaced if they are well timed
* `StatusCheck.wellTimed_of_spaced`: and only then, with a clock that advances by the sleep alone
-/

namespace OpenKit

open Thread BeaconSendingResponseUtil CaptureOffState

/-! ## Checks -/

/-- The checks that the log tells of, in order. -/
def statusChecks (events : List StateEvent) : List StatusCheck :=
  events.filterMap fun
    | .statusChecked check => some check
    | _ => none

/-- The checks since some point. -/
def checksSince (w t : World) : List StatusCheck :=
  (statusChecks (stateEvents t.log)).drop (statusChecks (stateEvents w.log)).length

namespace StatusCheck

/-- The time to sleep of the state that a check leaves behind, if it stays with capturing off. -/
def nextSleepTime (c : StatusCheck) : ℤ :=
  if isTooManyRequestsResponse c.statusResponse then retryAfterInMilliseconds c.statusResponse
  else c.sleepTimeInMilliseconds

/-- The delay before the next check, which reads some time. -/
def nextDelay (c : StatusCheck) (currentTime : ℤ) : ℤ :=
  sleepDelay c.nextSleepTime currentTime c.currentTime

/-- Two consecutive checks are spaced: two hours, or as long as the server has asked for. -/
def Spaced (c c' : StatusCheck) : Prop :=
  c.requestTime + statusCheckIntervalMilliseconds ≤ c'.requestTime ∨
    isTooManyRequestsResponse c.statusResponse = true ∧
      c.requestTime + retryAfterInMilliseconds c.statusResponse ≤ c'.requestTime

/-- The times that keep two checks apart: the first is answered with a request for a pause; or it
was made, without a time to sleep, at once; or the next one starts late enough, be it that the time
to sleep which the state keeps is still to pass. -/
def WellTimed (c c' : StatusCheck) : Prop :=
  isTooManyRequestsResponse c.statusResponse = true ∨
    c.sleepTimeInMilliseconds ≤ 0 ∧ c.requestTime = c.currentTime ∨
    c.requestTime + statusCheckIntervalMilliseconds ≤
      c'.currentTime + max c.sleepTimeInMilliseconds 0

end StatusCheck

/-- What the sender makes of a check when it comes to the next one. -/
structure NextCheck (c c' : StatusCheck) : Prop where
  sleepTime : c'.sleepTimeInMilliseconds = c.nextSleepTime
  currentTime : c.requestTime ≤ c'.currentTime
  requestTime : c'.currentTime + max (c.nextDelay c'.currentTime) 0 ≤ c'.requestTime

namespace NextCheck

variable {c c' : StatusCheck}

/-- **Two neighbours**: well-timed checks are spaced. -/
theorem spaced (h : NextCheck c c') (htimed : c.WellTimed c') : c.Spaced c' := by
  have hcurrent := h.currentTime
  have hrequest := h.requestTime
  rw [StatusCheck.nextDelay, StatusCheck.nextSleepTime, sleepDelay] at hrequest
  rcases htimed with hmany | ⟨hsleep, htime⟩ | hlate
  · -- the pause that the server has asked for is the time to sleep
    refine .inr ⟨hmany, ?_⟩
    rw [if_pos hmany] at hrequest
    split at hrequest <;> omega
  all_goals
    by_cases hmany : isTooManyRequestsResponse c.statusResponse = true
  · refine .inr ⟨hmany, ?_⟩
    rw [if_pos hmany] at hrequest
    split at hrequest <;> omega
  · refine .inl ?_
    rw [if_neg hmany, if_neg (by omega)] at hrequest
    omega
  · refine .inr ⟨hmany, ?_⟩
    rw [if_pos hmany] at hrequest
    split at hrequest <;> omega
  · refine .inl ?_
    rw [if_neg hmany] at hrequest
    split at hrequest <;> omega

end NextCheck

/-- With a clock that advances by nothing but the time slept before the second check, checks that
are not well timed are not spaced. -/
theorem StatusCheck.wellTimed_of_spaced {c c' : StatusCheck}
    (hstart : c.currentTime ≤ c.requestTime)
    (hclock : c'.requestTime = c'.currentTime + max (c.nextDelay c'.currentTime) 0)
    (hspaced : c.Spaced c') : c.WellTimed c' := by
  by_cases hmany : isTooManyRequestsResponse c.statusResponse = true
  · exact .inl hmany
  · have hfar : c.requestTime + statusCheckIntervalMilliseconds ≤ c'.requestTime :=
      hspaced.resolve_right fun hpause => hmany hpause.1
    rw [hclock, StatusCheck.nextDelay, StatusCheck.nextSleepTime, if_neg hmany, sleepDelay] at hfar
    by_cases hsleep : c.sleepTimeInMilliseconds > 0
    · rw [if_pos hsleep] at hfar
      exact .inr (.inr hfar)
    · rw [if_neg hsleep] at hfar
      by_cases hlate : c.requestTime + statusCheckIntervalMilliseconds ≤ c'.currentTime
      · exact .inr (.inr (by omega))
      · exact .inr (.inl ⟨by omega, by omega⟩)

/-! ## Staying in the state -/

/-- Some executions of the current state, as long as it is the capture-off state. -/
def stayInCaptureOff (caller : Caller) (env : Environment) (rounds : ℕ) : ℕ → Sender Unit
  | 0 => return ()
  | n + 1 => do
    if ← .read fun w => w.context.currentState.getStateType == .captureOff then
      executeCurrentState caller env rounds
      stayInCaptureOff caller env rounds n
    else
      return ()

/-! ## Assertions about a run -/

/-- What holds as long as no shutdown is requested. -/
def Running (P : World → Prop) (w : World) : Prop := w.context.shutdown = false → P w

/-- An assertion that the steps within a state keep. -/
def Kept (P : World → Prop) : Prop := ∀ w w', P w → StateStep (fun _ => False) w w' → P w'

section Running

variable {mayAdd : World → BeaconKey → UTF8String → Prop} {P Q : World → Prop} {w w' : World}

theorem Running.mono (h : Running P w) (hPQ : P w → Q w) : Running Q w := hPQ ∘ h

theorem Running.exists {α : Type} [Inhabited α] {P : α → World → Prop}
    (h : Running (fun w => ∃ a, P a w) w) : ∃ a, Running (P a) w := by
  cases hshutdown : w.context.shutdown with
  | true => exact ⟨default, fun hrunning => absurd (hrunning.symm.trans hshutdown) Bool.false_ne_true⟩
  | false =>
    obtain ⟨a, ha⟩ := h hshutdown
    exact ⟨a, fun _ => ha⟩

theorem Kept.and (hP : Kept P) (hQ : Kept Q) : Kept fun w => P w ∧ Q w :=
  fun w w' h hstep => ⟨hP w w' h.1 hstep, hQ w w' h.2 hstep⟩

theorem Kept.const (p : Prop) : Kept fun _ => p := fun _ _ hp _ => hp

theorem Kept.exists {α : Type} {P : α → World → Prop} (h : ∀ a, Kept (P a)) :
    Kept fun w => ∃ a, P a w := fun w w' ⟨a, ha⟩ hstep => ⟨a, h a w w' ha hstep⟩

theorem kept_currentState (p : BeaconSendingState → Prop) :
    Kept fun w => p w.context.currentState := by
  intro w w' h hstep
  show p w'.context.currentState
  rwa [hstep.currentState]

/-- A time that was read stays in the past. -/
theorem kept_currentTime (time : ℤ) : Kept fun w => time ≤ w.currentTime :=
  fun _ _ h hstep => h.trans hstep.currentTime

theorem Kept.running (hP : Kept P) : Kept (Running P) := by
  intro w w' h hstep hrunning
  refine hP w w' (h ?_) hstep
  cases hshutdown : w.context.shutdown with
  | true => exact absurd (hstep.shutdown hshutdown) (by rw [hrunning]; exact Bool.false_ne_true)
  | false => rfl

theorem Kept.stable (hP : Kept P) : Stable (AppStep mayAdd) P :=
  fun w w' hstep h => hP w w' h (stateStep_of_appStep hstep)

end Running

/-- The checks since some point are `new`, and each follows from the one before. -/
structure CheckedSince (start new : List StatusCheck) (w : World) : Prop where
  statusChecks : statusChecks (stateEvents w.log) = start ++ new
  isChain : new.IsChain NextCheck
  currentTime : ∀ c ∈ new.getLast?, c.requestTime ≤ w.currentTime

/-- The state after the change to the next, if there is one. -/
def BeaconSendingContext.upcomingState (c : BeaconSendingContext) : BeaconSendingState :=
  c.nextState.getD c.currentState

/-- The context remembers the last check: when it started, and how long the state is to sleep. -/
def Remembers (new : List StatusCheck) (w : World) : Prop :=
  ∀ c ∈ new.getLast?, w.context.lastStatusCheckTime = c.currentTime ∧
    ∀ sleepTime, w.context.upcomingState = .captureOff sleepTime → sleepTime = c.nextSleepTime

/-- The invariant of the run. -/
def Followed (start : List StatusCheck) (w : World) : Prop :=
  ∃ new, CheckedSince start new w

/-- What holds between two executions, and at the end of one before the change of state. -/
def Resting (start : List StatusCheck) (w : World) : Prop :=
  ∃ new, CheckedSince start new w ∧ Remembers new w

section Kept

variable {start new : List StatusCheck}

theorem kept_checkedSince : Kept (CheckedSince start new) := fun w w' h hstep =>
  ⟨by rw [hstep.stateEvents, h.statusChecks], h.isChain,
    fun c hc => (h.currentTime c hc).trans hstep.currentTime⟩

theorem upcomingState_eq {w w' : World} (hstep : StateStep (fun _ => False) w w') :
    w'.context.upcomingState = w.context.upcomingState := by
  have hnext : w'.context.nextState = w.context.nextState := by
    rcases hstep.nextState with hsame | ⟨_, hfalse, -⟩
    · exact hsame
    · exact hfalse.elim
  rw [BeaconSendingContext.upcomingState, hnext, hstep.currentState,
    BeaconSendingContext.upcomingState]

theorem kept_upcomingState (p : BeaconSendingState → Prop) :
    Kept fun w => p w.context.upcomingState := by
  intro w w' h hstep
  show p w'.context.upcomingState
  rwa [upcomingState_eq hstep]

theorem kept_remembers : Kept (Remembers new) := fun w w' h hstep c hc => by
  rw [hstep.lastStatusCheckTime, upcomingState_eq hstep]
  exact h c hc

theorem kept_followed : Kept (Followed start) := fun w w' ⟨new, h⟩ hstep =>
  ⟨new, kept_checkedSince w w' h hstep⟩

theorem kept_resting : Kept (Resting start) := fun w w' ⟨new, h⟩ hstep =>
  ⟨new, kept_checkedSince.and kept_remembers w w' h hstep⟩

end Kept

/-! ## The execution of the state -/

section Execution

variable {mayAdd : World → BeaconKey → UTF8String → Prop} {start new : List StatusCheck}
  {env : Environment} {sleepTime : ℤ} {w : World} {P : World → Prop}

/-- A part of the execution that neither checks nor changes what is remembered. -/
theorem sat_kept {α : Type} {p : Sender α} (hp : Program.Guarantees (StateStep fun _ => False) p)
    (hP : Kept P) (hfollowed : ∀ w, P w → Followed start w) (h : Running P w) :
    Program.Sat (AppStep mayAdd) (Running (Followed start)) p (fun _ => Running P) w :=
  hp.sat_post hP.running.stable (fun u v hstep hu => hP.running u v hu hstep)
    (fun _ hu => hu.mono (hfollowed _)) h

/-- A value that is read, and what is known of it from then on. -/
theorem sat_kept_read {α : Type} {f : World → α} {Q : α → World → Prop} (hP : Kept P)
    (hQ : ∀ a, Kept (Q a)) (hfollowed : ∀ w, P w → Followed start w)
    (hread : ∀ w, P w → Q (f w) w) (h : Running P w) :
    Program.Sat (AppStep mayAdd) (Running (Followed start)) (Program.read f : Sender α)
      (fun a => Running (Q a)) w :=
  Program.sat_read kept_followed.running.stable hP.running.stable
    (fun a => (hQ a).running.stable) (fun _ _ hu => hu.mono (hread _)) (h.mono (hfollowed w)) h

/-- The state is executed that was current when the execution started. -/
def InState (sleepTime : ℤ) (w : World) : Prop := w.context.upcomingState = .captureOff sleepTime

/-- What holds before the check. -/
def BeforeCheck (start new : List StatusCheck) (sleepTime : ℤ) (w : World) : Prop :=
  (CheckedSince start new w ∧ Remembers new w) ∧ InState sleepTime w

theorem kept_beforeCheck : Kept (BeforeCheck start new sleepTime) :=
  (kept_checkedSince.and kept_remembers).and (kept_upcomingState (· = .captureOff sleepTime))

/-- The time of the next request is known to be late enough. -/
def LateEnough (new : List StatusCheck) (sleepTime currentTime requestTime : ℤ) : Prop :=
  ∀ c ∈ new.getLast?, sleepTime = c.nextSleepTime ∧ c.requestTime ≤ currentTime ∧
    currentTime + max (c.nextDelay currentTime) 0 ≤ requestTime

/-- What holds once the check is made. -/
def AfterCheck (start new : List StatusCheck) (check : StatusCheck) (w : World) : Prop :=
  CheckedSince start (new ++ [check]) w ∧
    ∀ sleepTime, w.context.upcomingState = .captureOff sleepTime → sleepTime = check.nextSleepTime

theorem kept_afterCheck {check : StatusCheck} : Kept (AfterCheck start new check) :=
  kept_checkedSince.and
    (kept_upcomingState fun state =>
      ∀ sleepTime, state = .captureOff sleepTime → sleepTime = check.nextSleepTime)

/-- What holds between the check and the handling of its answer. -/
def JustChecked (start new : List StatusCheck) (check : StatusCheck) (w : World) : Prop :=
  CheckedSince start (new ++ [check]) w ∧ InState check.sleepTimeInMilliseconds w

theorem kept_justChecked {check : StatusCheck} : Kept (JustChecked start new check) :=
  kept_checkedSince.and (kept_upcomingState (· = .captureOff check.sleepTimeInMilliseconds))

/-- A next state is set, which sleeps as the check says if capturing stays off. -/
theorem sat_setNextState {check : StatusCheck} {next : BeaconSendingState}
    (hnext : ∀ sleepTime, next = .captureOff sleepTime → sleepTime = check.nextSleepTime)
    (h : Running (JustChecked start new check) w) :
    Program.Sat (AppStep mayAdd) (Running (Followed start))
      (Program.write fun w => w.setContext (w.context.setNextState next) : Sender Unit)
      (fun _ => Running (AfterCheck start new check)) w := by
  refine Program.sat_write kept_followed.running.stable kept_justChecked.running.stable
    (fun _ => kept_afterCheck.running.stable) (fun u _ hu => ?_) (h.mono fun h => ⟨_, h.1⟩) h
  have hchecked : Running (AfterCheck start new check)
      (u.setContext (u.context.setNextState next)) := by
    refine fun hrunning => ⟨?_, hnext⟩
    obtain ⟨hsince, -⟩ := hu hrunning
    exact ⟨hsince.statusChecks, hsince.isChain, hsince.currentTime⟩
  exact ⟨hchecked.mono fun h => ⟨_, h.1⟩, hchecked⟩

/-- The answer to the check is handled. -/
theorem sat_handleStatusResponse {check : StatusCheck}
    (h : Running (JustChecked start new check) w) :
    Program.Sat (AppStep mayAdd) (Running (Followed start))
      (CaptureOffState.handleStatusResponse check.statusResponse)
      (fun _ => Running (AfterCheck start new check)) w := by
  have hfollowed (u : World) (hu : JustChecked start new check u) : Followed start u := ⟨_, hu.1⟩
  have hcapture {t : World} (hmany : ¬ isTooManyRequestsResponse check.statusResponse = true)
      (ht : Running (JustChecked start new check) t) :
      Program.Sat (AppStep mayAdd) (Running (Followed start))
        (do
          let capture ← Program.read fun w => w.context.isCaptureOn
          if isSuccessfulResponse check.statusResponse && capture then
            Program.write fun w => w.setContext (w.context.setNextState .captureOn)
          else return () : Sender Unit)
        (fun _ => Running (AfterCheck start new check)) t := by
    refine (sat_kept (guarantees_stateStep_read _) kept_justChecked hfollowed ht).seq
      fun capture u _ hu => ?_
    split
    · exact sat_setNextState (fun sleepTime hnext => by cases hnext) hu
    · refine Program.sat_ret kept_followed.running.stable kept_afterCheck.running.stable
        (hu.mono (hfollowed _)) (hu.mono fun hu => ⟨hu.1, fun sleepTime hsleep => ?_⟩)
      rw [StatusCheck.nextSleepTime, if_neg hmany]
      exact BeaconSendingState.captureOff.inj (hsleep.symm.trans hu.2)
  have hmanyNext (hmany : isTooManyRequestsResponse check.statusResponse = true) (sleepTime : ℤ)
      (hnext : BeaconSendingState.captureOff (retryAfterInMilliseconds check.statusResponse) =
        .captureOff sleepTime) : sleepTime = check.nextSleepTime := by
    rw [StatusCheck.nextSleepTime, if_pos hmany]
    exact (BeaconSendingState.captureOff.inj hnext).symm
  rw [CaptureOffState.handleStatusResponse]
  split
  · refine (sat_kept (guarantees_stateStep_handleStatusResponse _) kept_justChecked hfollowed
      h).seq fun _ t _ ht => ?_
    split
    next hmany => exact sat_setNextState (hmanyNext hmany) ht
    next hmany => exact hcapture hmany ht
  · split
    next hmany => exact sat_setNextState (hmanyNext hmany) h
    next hmany => exact hcapture hmany h

/-- The check is one of the checks from then on. -/
theorem BeforeCheck.justChecked {check : StatusCheck}
    (h : BeforeCheck start new check.sleepTimeInMilliseconds w)
    (hlate : LateEnough new check.sleepTimeInMilliseconds check.currentTime check.requestTime)
    (htime : check.requestTime ≤ w.currentTime) :
    JustChecked start new check (w.write (.state (.statusChecked check))) := by
  obtain ⟨⟨hsince, -⟩, hstate⟩ := h
  refine ⟨⟨?_, ?_, fun c hc => ?_⟩, hstate⟩
  · rw [World.log_write, stateEvents_append, statusChecks, List.filterMap_append, ← statusChecks,
      hsince.statusChecks, List.append_assoc]
    rfl
  · refine List.isChain_append.mpr ⟨hsince.isChain, List.isChain_singleton _,
      fun c hc c' hc' => ?_⟩
    rw [List.head?_cons, Option.mem_some_iff] at hc'
    subst hc'
    obtain ⟨hsleep, hstart, hrequest⟩ := hlate c hc
    exact ⟨hsleep, hstart, hrequest⟩
  · rw [List.getLast?_concat, Option.mem_some_iff] at hc
    subst hc
    exact htime

/-- The time of a later request is late enough as well. -/
theorem kept_lateEnough {currentTime : ℤ} :
    Kept fun w => LateEnough new sleepTime currentTime w.currentTime := by
  intro w w' h hstep c hc
  obtain ⟨hsleep, hstart, hrequest⟩ := h c hc
  exact ⟨hsleep, hstart, hrequest.trans hstep.currentTime⟩

/-- What holds while the status is requested, since some time. -/
def Requesting (start new : List StatusCheck) (sleepTime currentTime requestTime : ℤ)
    (w : World) : Prop :=
  BeforeCheck start new sleepTime w ∧ LateEnough new sleepTime currentTime requestTime ∧
    requestTime ≤ w.currentTime

theorem kept_requesting {currentTime requestTime : ℤ} :
    Kept (Requesting start new sleepTime currentTime requestTime) :=
  kept_beforeCheck.and ((Kept.const _).and (kept_currentTime requestTime))

/-- **The check** follows from the one before, if the time of its request is late enough. -/
theorem sat_checkStatus {currentTime : ℤ}
    (h : Running (fun w => BeforeCheck start new sleepTime w ∧
      LateEnough new sleepTime currentTime w.currentTime) w) :
    Program.Sat (AppStep mayAdd) (Running (Followed start))
      (CaptureOffState.checkStatus env sleepTime currentTime)
      (fun _ => Running (Resting start)) w := by
  refine Program.Sat.seq
    (M := fun requestTime => Running (Requesting start new sleepTime currentTime requestTime))
    (sat_kept_read (kept_beforeCheck.and kept_lateEnough) (fun _ => kept_requesting)
      (fun u hu => ⟨_, hu.1.1.1⟩) (fun u hu => ⟨hu.1, hu.2, le_refl _⟩) h)
    fun requestTime t _ ht => ?_
  refine (sat_kept (guarantees_stateStep_sendStatusRequest _ _) kept_requesting
    (fun u hu => ⟨_, hu.1.1.1⟩) ht).seq fun response u _ hu => ?_
  -- the check is written to the log
  refine Program.Sat.seq
    (M := fun _ => Running (JustChecked start new ⟨sleepTime, currentTime, requestTime, response⟩))
    (Program.sat_write kept_followed.running.stable kept_requesting.running.stable
      (fun _ => kept_justChecked.running.stable) (fun v _ hv => ?_)
      (hu.mono fun hu => ⟨_, hu.1.1.1⟩) hu) fun _ v _ hv => ?_
  · have hchecked : Running (JustChecked start new ⟨sleepTime, currentTime, requestTime, response⟩)
        (v.write (.state (.statusChecked ⟨sleepTime, currentTime, requestTime, response⟩))) := by
      intro hrunning
      obtain ⟨hbefore, hlate, htime⟩ := hv hrunning
      exact hbefore.justChecked hlate htime
    exact ⟨hchecked.mono fun h => ⟨_, h.1⟩, hchecked⟩
  refine (sat_handleStatusResponse hv).seq fun _ x _ hx => ?_
  -- the time that was read before the sleep is remembered
  refine Program.sat_write kept_followed.running.stable kept_afterCheck.running.stable
    (fun _ => kept_resting.running.stable) (fun y _ hy => ?_) (hx.mono fun hx => ⟨_, hx.1⟩) hx
  have hresting : Running (Resting start)
      (y.setContext (y.context.setLastStatusCheckTime currentTime)) := by
    intro hrunning
    obtain ⟨hsince, hupcoming⟩ := hy hrunning
    refine ⟨_, ⟨hsince.statusChecks, hsince.isChain, hsince.currentTime⟩, fun c hc => ?_⟩
    rw [List.getLast?_concat, Option.mem_some_iff] at hc
    subst hc
    exact ⟨rfl, hupcoming⟩
  exact ⟨hresting.mono fun ⟨new, h, _⟩ => ⟨new, h⟩, hresting⟩

/-- What is known once the execution has read the time. -/
def StartTimeRead (start new : List StatusCheck) (sleepTime currentTime : ℤ) (w : World) : Prop :=
  (BeforeCheck start new sleepTime w ∧ ∀ c ∈ new.getLast?, c.requestTime ≤ currentTime) ∧
    currentTime ≤ w.currentTime

/-- What is known once it has read the time of the last check as well. -/
def TimesRead (start new : List StatusCheck) (sleepTime currentTime lastStatusCheckTime : ℤ)
    (w : World) : Prop :=
  StartTimeRead start new sleepTime currentTime w ∧
    w.context.lastStatusCheckTime = lastStatusCheckTime

theorem kept_startTimeRead {currentTime : ℤ} :
    Kept (StartTimeRead start new sleepTime currentTime) :=
  (kept_beforeCheck.and (Kept.const _)).and (kept_currentTime currentTime)

theorem kept_timesRead {currentTime lastStatusCheckTime : ℤ} :
    Kept (TimesRead start new sleepTime currentTime lastStatusCheckTime) := by
  refine kept_startTimeRead.and fun w w' h hstep => ?_
  show w'.context.lastStatusCheckTime = lastStatusCheckTime
  rw [hstep.lastStatusCheckTime, h]

/-- Once the delay is over the request is late enough. -/
theorem TimesRead.lateEnough {currentTime lastStatusCheckTime : ℤ}
    (h : TimesRead start new sleepTime currentTime lastStatusCheckTime w)
    (hdelay : currentTime + max (sleepDelay sleepTime currentTime lastStatusCheckTime) 0 ≤
      w.currentTime) :
    BeforeCheck start new sleepTime w ∧ LateEnough new sleepTime currentTime w.currentTime := by
  obtain ⟨⟨⟨hbefore, hstart⟩, -⟩, hlast⟩ := h
  obtain ⟨⟨hsince, hremembers⟩, hstate⟩ := hbefore
  refine ⟨⟨⟨hsince, hremembers⟩, hstate⟩, fun c hc => ?_⟩
  obtain ⟨hchecked, hsleep⟩ := hremembers c hc
  have hsleepTime : sleepTime = c.nextSleepTime := hsleep sleepTime hstate
  refine ⟨hsleepTime, hstart c hc, ?_⟩
  rwa [← hlast, hchecked, hsleepTime] at hdelay

/-- The request of a shutdown is read. While there is none, it was not there. -/
theorem sat_readShutdown (hP : Kept P) (hfollowed : ∀ w, P w → Followed start w)
    (h : Running P w) :
    Program.Sat (AppStep mayAdd) (Running (Followed start))
      (Program.read fun w => w.context.isShutdownRequested : Sender Bool)
      (fun shutdown => Running fun u => P u ∧ shutdown = false) w :=
  Program.sat_read kept_followed.running.stable hP.running.stable
    (fun _ => (hP.and (Kept.const _)).running.stable)
    (fun _ _ hu hrunning => ⟨hu hrunning, hrunning⟩) (h.mono (hfollowed w)) h

/-- A sleep takes as long as it is to take, while no shutdown is requested. -/
theorem sat_sleep {delay : ℤ} (currentTime : ℤ) (hP : Kept P) (hfollowed : ∀ w, P w → Followed start w)
    (hcurrent : ∀ w, P w → currentTime ≤ w.currentTime) (h : Running P w) :
    Program.Sat (AppStep mayAdd) (Running (Followed start)) (sleep delay)
      (fun _ => Running fun u => P u ∧ currentTime + max delay 0 ≤ u.currentTime) w := by
  have hslept : Kept fun u => P u ∧ currentTime + max delay 0 ≤ u.currentTime :=
    hP.and (kept_currentTime _)
  refine Program.sat_write kept_followed.running.stable hP.running.stable
    (fun _ => hslept.running.stable) (fun u _ hu => ?_) (h.mono (hfollowed w)) h
  have hdone : Running (fun u => P u ∧ currentTime + max delay 0 ≤ u.currentTime)
      (if u.context.isShutdownRequested then u
        else { u with currentTime := u.currentTime + max delay 0 }) := by
    split
    next hshutdown =>
      intro hrunning
      exact absurd (hrunning.symm.trans hshutdown) Bool.false_ne_true
    next hshutdown =>
      intro hrunning
      have hle : u.currentTime ≤ u.currentTime + max delay 0 := by omega
      refine ⟨hP u _ (hu hrunning) ⟨rfl, .inl rfl, rfl, rfl, rfl, id, hle, rfl⟩, ?_⟩
      have hread : currentTime ≤ u.currentTime := hcurrent u (hu hrunning)
      show currentTime + max delay 0 ≤ u.currentTime + max delay 0
      omega
  exact ⟨hdone.mono fun h => hfollowed _ h.1, hdone⟩

/-- **The execution** of the capture-off state. -/
theorem sat_captureOff (h : Running (BeforeCheck start new sleepTime) w) :
    Program.Sat (AppStep mayAdd) (Running (Followed start))
      (CaptureOffState.doExecute env sleepTime) (fun _ => Running (Resting start)) w := by
  have hfollowed (currentTime lastStatusCheckTime : ℤ) (u : World)
      (hu : TimesRead start new sleepTime currentTime lastStatusCheckTime u) : Followed start u :=
    ⟨_, hu.1.1.1.1.1⟩
  refine (sat_kept guarantees_stateStep_disableCaptureAndClear kept_beforeCheck
    (fun u hu => ⟨_, hu.1.1⟩) h).seq fun _ t _ ht => ?_
  -- the times are read
  refine Program.Sat.seq
    (M := fun currentTime => Running (StartTimeRead start new sleepTime currentTime))
    (sat_kept_read kept_beforeCheck (fun _ => kept_startTimeRead) (fun u hu => ⟨_, hu.1.1⟩)
      (fun u hu => ⟨⟨hu, hu.1.1.currentTime⟩, le_refl _⟩) ht) fun currentTime t _ ht => ?_
  refine Program.Sat.seq
    (M := fun lastStatusCheckTime =>
      Running (TimesRead start new sleepTime currentTime lastStatusCheckTime))
    (sat_kept_read kept_startTimeRead (fun _ => kept_timesRead) (fun u hu => ⟨_, hu.1.1.1.1⟩)
      (fun u hu => ⟨hu, rfl⟩) ht) fun lastStatusCheckTime t _ ht => ?_
  refine (sat_readShutdown kept_timesRead (hfollowed _ _) ht).seq fun shutdown t _ ht => ?_
  split
  · -- the sleep, and a look at the request of a shutdown after it
    refine (sat_sleep currentTime kept_timesRead (hfollowed _ _)
      (fun u hu => hu.1.2) (ht.mono fun ht => ht.1)).seq fun _ u _ hu => ?_
    refine (sat_readShutdown (kept_timesRead.and (kept_currentTime _))
      (fun u hu => hfollowed _ _ u hu.1) hu).seq fun shutdown v _ hv => ?_
    split
    next hshutdown =>
      refine Program.sat_ret kept_followed.running.stable kept_resting.running.stable
        (hv.mono fun hv => hfollowed _ _ _ hv.1.1) fun hrunning => ?_
      exact absurd ((hv hrunning).2.symm.trans hshutdown) Bool.false_ne_true
    next => exact sat_checkStatus (hv.mono fun hv => hv.1.1.lateEnough hv.1.2)
  next hdelay =>
    refine sat_checkStatus (ht.mono fun ⟨ht, hshutdown⟩ => ht.lateEnough ?_)
    rw [hshutdown, Bool.not_false, Bool.and_true, decide_eq_true_eq] at hdelay
    have hread : currentTime ≤ t.currentTime := ht.1.2
    omega

/-! ## The runs in the state -/

/-- What holds between two executions. -/
def Between (start new : List StatusCheck) (w : World) : Prop :=
  CheckedSince start new w ∧
    ∀ c ∈ new.getLast?, w.context.lastStatusCheckTime = c.currentTime ∧
      ∀ sleepTime, w.context.currentState = .captureOff sleepTime → sleepTime = c.nextSleepTime

theorem kept_between : Kept (Between start new) := by
  refine kept_checkedSince.and fun w w' h hstep c hc => ?_
  rw [hstep.lastStatusCheckTime, hstep.currentState]
  exact h c hc

/-- The next state that was set has nothing to say any more. -/
theorem Between.beforeCheck (h : Between start new w)
    (hstate : w.context.currentState = .captureOff sleepTime) :
    BeforeCheck start new sleepTime (w.setContext { w.context with nextState := none }) := by
  obtain ⟨hsince, hremembers⟩ := h
  exact ⟨⟨⟨hsince.statusChecks, hsince.isChain, hsince.currentTime⟩, hremembers⟩, hstate⟩

/-- The change of state. -/
theorem Resting.changeState (h : Resting start w) : ∃ new, Between start new w.changeState := by
  obtain ⟨new, hsince, hremembers⟩ := h
  refine ⟨new, ?_⟩
  rw [World.changeState]
  split
  next hnone =>
    refine ⟨hsince, fun c hc => ?_⟩
    obtain ⟨hlast, hsleep⟩ := hremembers c hc
    rw [BeaconSendingContext.upcomingState, hnone] at hsleep
    exact ⟨hlast, hsleep⟩
  next next hnext =>
    refine ⟨⟨?_, hsince.isChain, hsince.currentTime⟩, fun c hc => ?_⟩
    · rw [World.log_write, stateEvents_append, statusChecks, List.filterMap_append,
        ← statusChecks]
      exact (List.append_nil _).trans hsince.statusChecks
    · obtain ⟨hlast, hsleep⟩ := hremembers c hc
      rw [BeaconSendingContext.upcomingState, hnext] at hsleep
      exact ⟨hlast, hsleep⟩

/-- One execution of the current state, if it is the capture-off state. -/
theorem sat_executeCaptureOff {caller : Caller} {rounds : ℕ}
    (hstate : w.context.currentState = .captureOff sleepTime) (h : Running (Between start new) w) :
    Program.Sat (AppStep mayAdd) (Running (Followed start)) (executeCurrentState caller env rounds)
      (fun _ => Running fun u => ∃ new, Between start new u) w := by
  have hcurrent : Stable (AppStep mayAdd) fun u => u.context.currentState = .captureOff sleepTime :=
    (kept_currentState (· = .captureOff sleepTime)).stable
  refine Program.Sat.seq (M := fun _ u => u.context.currentState = .captureOff sleepTime ∧
      Running (BeforeCheck start new sleepTime) u)
    (Program.sat_write kept_followed.running.stable (hcurrent.and kept_between.running.stable)
      (fun _ => hcurrent.and kept_beforeCheck.running.stable) (fun u _ ⟨hstate, hu⟩ =>
        have hbefore : Running (BeforeCheck start new sleepTime)
            (u.setContext { u.context with nextState := none }) :=
          fun hrunning => (hu hrunning).beforeCheck hstate
        ⟨hbefore.mono fun h => ⟨_, h.1.1⟩, hstate, hbefore⟩)
      (h.mono fun h => ⟨_, h.1⟩) ⟨hstate, h⟩) fun _ t _ ⟨hstate, ht⟩ => ?_
  refine Program.Sat.seq (M := fun state u => state = .captureOff sleepTime ∧
      Running (BeforeCheck start new sleepTime) u)
    (Program.sat_read kept_followed.running.stable (hcurrent.and kept_beforeCheck.running.stable)
      (fun _ => (Stable.const _).and kept_beforeCheck.running.stable) (fun _ _ hu => hu)
      (ht.mono fun ht => ⟨_, ht.1.1⟩) ⟨hstate, ht⟩) fun state u _ ⟨hstate, hu⟩ => ?_
  subst hstate
  -- the execution, after which no shutdown is requested
  have hfollowed (v : World) (hv : Resting start v) : Followed start v :=
    hv.elim fun new h => ⟨new, h.1⟩
  have hexecute : Program.Sat (AppStep mayAdd) (Running (Followed start))
      ((BeaconSendingState.captureOff sleepTime).execute caller env rounds)
      (fun _ => Running (Resting start)) u := by
    refine (sat_captureOff hu).seq fun _ v _ hv => ?_
    refine (sat_readShutdown kept_resting hfollowed hv).seq fun shutdown x _ hx => ?_
    split
    next hshutdown =>
      refine Program.sat_write kept_followed.running.stable
        ((kept_resting.and (Kept.const _)).running.stable) (fun _ => kept_resting.running.stable)
        (fun y _ hy => ?_) (hx.mono fun hx => hfollowed _ hx.1) hx
      have hnot : ¬ y.context.shutdown = false := fun hrunning =>
        absurd ((hy hrunning).2.symm.trans hshutdown) Bool.false_ne_true
      exact ⟨fun hrunning => absurd hrunning hnot, fun hrunning => absurd hrunning hnot⟩
    next =>
      exact Program.sat_ret kept_followed.running.stable kept_resting.running.stable
        (hx.mono fun hx => hfollowed _ hx.1) (hx.mono fun hx => hx.1)
  refine hexecute.seq fun _ v _ hv => ?_
  refine Program.sat_write kept_followed.running.stable kept_resting.running.stable
    (fun _ => (Kept.exists fun _ => kept_between).running.stable) (fun x _ hx => ?_)
    (hv.mono (hfollowed v)) hv
  have hbetween : Running (fun u => ∃ new, Between start new u) x.changeState := by
    intro hrunning
    refine (hx ?_).changeState
    rw [World.changeState] at hrunning
    split at hrunning <;> exact hrunning
  exact ⟨hbetween.mono fun hsome => hsome.elim fun new h => ⟨new, h.1⟩, hbetween⟩

/-- **The stay in the state**, by induction on the number of executions. -/
theorem sat_stayInCaptureOff {caller : Caller} {rounds : ℕ} (n : ℕ)
    (h : Running (fun w => ∃ new, Between start new w) w) :
    Program.Sat (AppStep mayAdd) (Running (Followed start)) (stayInCaptureOff caller env rounds n)
      (fun _ => Running (Followed start)) w := by
  have hfollowed {u : World} (hu : Running (fun u => ∃ new, Between start new u) u) :
      Running (Followed start) u := hu.mono fun ⟨new, h⟩ => ⟨new, h.1⟩
  have hbetween : Stable (AppStep mayAdd) (Running fun u => ∃ new, Between start new u) :=
    (Kept.exists fun _ => kept_between).running.stable
  induction n generalizing w with
  | zero =>
    exact Program.sat_ret kept_followed.running.stable kept_followed.running.stable (hfollowed h)
      (hfollowed h)
  | succ n ih =>
    refine Program.Sat.seq (M := fun stay u =>
        (stay = true → u.context.currentState.getStateType = .captureOff) ∧
          Running (fun u => ∃ new, Between start new u) u)
      (Program.sat_read kept_followed.running.stable hbetween (fun stay => ?_)
        (fun u _ hu => ⟨fun hstay => eq_of_beq hstay, hu⟩) (hfollowed h) h)
      fun stay u _ ⟨htype, hu⟩ => ?_
    · exact Stable.and
        (kept_currentState fun state => stay = true → state.getStateType = .captureOff).stable
        hbetween
    split
    next hstay =>
      obtain ⟨new, hnew⟩ := hu.exists
      obtain ⟨sleepTime, hstate⟩ : ∃ sleepTime, u.context.currentState = .captureOff sleepTime := by
        have htype := htype hstay
        cases hstate : u.context.currentState with
        | captureOff sleepTime => exact ⟨sleepTime, rfl⟩
        | _ => rw [hstate] at htype; cases htype
      exact (sat_executeCaptureOff hstate hnew).seq fun _ v _ hv => ih hv
    next =>
      exact Program.sat_ret kept_followed.running.stable kept_followed.running.stable (hfollowed hu)
        (hfollowed hu)

variable {caller : Caller} {rounds n : ℕ} {p : Sender Unit} {t : World}

/-- **Each check follows from the one before**, at every point of every stay in the state during
which no shutdown is requested. -/
theorem isChain_nextCheck_of_reaches
    (h : Program.Reaches (AppStep mayAdd) (stayInCaptureOff caller env rounds n, w) (p, t))
    (hrunning : t.context.shutdown = false) : (checksSince w t).IsChain NextCheck := by
  have hstart : Between (statusChecks (stateEvents w.log)) [] w :=
    ⟨⟨(List.append_nil _).symm, .nil, fun c hc => by cases hc⟩, fun c hc => by cases hc⟩
  obtain ⟨new, hsince⟩ :=
    (sat_stayInCaptureOff n (fun _ => ⟨[], hstart⟩)).invariant h hrunning
  rw [checksSince, hsince.statusChecks, List.drop_left]
  exact hsince.isChain

/-- **The distance of the checks**: in every stay in the state they are spaced if they are well
timed. -/
theorem spaced_of_reaches
    (h : Program.Reaches (AppStep mayAdd) (stayInCaptureOff caller env rounds n, w) (p, t))
    (hrunning : t.context.shutdown = false)
    (htimed : (checksSince w t).IsChain StatusCheck.WellTimed) :
    (checksSince w t).IsChain StatusCheck.Spaced := by
  have hnext := isChain_nextCheck_of_reaches h hrunning
  rw [List.isChain_iff_getElem] at hnext htimed ⊢
  exact fun i hi => (hnext i hi).spaced (htimed i hi)

end Execution

/-! ## Two checks -/

/-- A server that turns capturing off. -/
def noCaptureEnvironment : Environment :=
  ⟨fun _ => some ⟨ResponseAttributes.undefined.withCapture false, 200, 0⟩, fun _ _ => .nil⟩

/-- The capture-off state at some time, before any check. -/
def captureOffAt (currentTime : ℤ) : World :=
  { World.new (fun _ => .new (.new (.new ⟨.off, .off⟩) 0 0 .nil))
      { BeaconSendingContext.new ⟨1, .nil⟩ with currentState := .captureOff (-1) } with
    currentTime := currentTime }

/-- The world after two executions of the state with such a server. -/
def afterTwoChecks (currentTime : ℤ) : World :=
  ((stayInCaptureOff ⟨0, fun _ => 0⟩ noCaptureEnvironment 1 2).run (captureOffAt currentTime)).2

/-- A first check that is made at once is followed by one two hours later. -/
theorem spaced_of_twoChecks :
    (checksSince (captureOffAt statusCheckIntervalMilliseconds)
        (afterTwoChecks statusCheckIntervalMilliseconds)).length = 2 ∧
      (checksSince (captureOffAt statusCheckIntervalMilliseconds)
        (afterTwoChecks statusCheckIntervalMilliseconds)).IsChain StatusCheck.Spaced := by
  refine ⟨rfl, ?_⟩
  have hreaches : Program.Reaches (AppStep fun _ _ _ => True)
      (stayInCaptureOff ⟨0, fun _ => 0⟩ noCaptureEnvironment 1 2,
        captureOffAt statusCheckIntervalMilliseconds)
      (.ret (), afterTwoChecks statusCheckIntervalMilliseconds) :=
    Program.reaches_of_run (Prod.ext rfl rfl)
  refine spaced_of_reaches hreaches rfl ?_
  exact .cons_cons (.inr (.inl ⟨by decide, rfl⟩)) (.singleton _)

/-- After a sleep of two hours the next check follows at once: the time before the sleep is taken
for the time of the check. -/
theorem not_spaced_of_twoChecks :
    Program.Reaches (AppStep fun _ _ _ => True)
        (stayInCaptureOff ⟨0, fun _ => 0⟩ noCaptureEnvironment 1 2, captureOffAt 0)
        (.ret (), afterTwoChecks 0) ∧
      (afterTwoChecks 0).context.shutdown = false ∧
        ¬ (checksSince (captureOffAt 0) (afterTwoChecks 0)).IsChain StatusCheck.Spaced := by
  refine ⟨Program.reaches_of_run (Prod.ext rfl rfl), rfl, fun hspaced => ?_⟩
  have hpair := List.isChain_iff_getElem.mp hspaced 0 (by decide)
  rcases hpair with hfar | ⟨hmany, -⟩
  · revert hfar
    decide
  · revert hmany
    decide

end OpenKit
