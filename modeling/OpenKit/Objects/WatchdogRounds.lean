import OpenKit.Library.Deadlines
import OpenKit.Objects.SessionEndEvents
import OpenKit.Objects.TimeSplits

/-!
# The rounds of the watchdog

In a round the watchdog first ends the sessions whose grace period is over, and then asks the proxies to
split. Then it sleeps until the next grace period ends or the next session is to be split, as far as it
knows, and at most five seconds. It does not know of the sessions that proxies put into its queue when they
split, and it skips a proxy whose split is past when it reads the clock for it.

## Main definitions

* `OpenKitInstance.asking`: the instance when the watchdog asks the next proxy
* `OpenKitInstance.Heeded`: the watchdog does not sleep beyond what a proxy has answered
* `OpenKitInstance.Round`: what a round leaves, and for how long the watchdog sleeps then
* `OpenKitInstance.ClosesInTime`, `SplitsInTime`: the watchdog sleeps no longer than until the earliest end
  of a grace period, and until the earliest split

## Main results

* `run_closeExpiredSessions`, `run_splitTimedOutSessions`: the two parts of a round
* `round_afterCalls`: the rounds in all states that are reached
* `not_wakesInTime`: a session that was put into the queue in the round, and a proxy that was skipped, are late
-/

namespace OpenKit

open Thread SessionProxies Deadlines

namespace OpenKitInstance

variable {env : InstanceEnvironment} {caller : Caller} {s t u v : OpenKitInstance} {p q : ProxyRef}
  {j k : SessionRef}

/-- When the grace period of a session ends. -/
def gracePeriodEnd (s : OpenKitInstance) (k : SessionRef) : ℤ :=
  (s.session k).splitByEventsGracePeriodEndTimeInMillis

/-! ## The sessions whose grace period is over -/

theorem run_checkGracePeriod (found : List SessionRef × ℤ) :
    (checkGracePeriod env found k).run s =
      (.ok (if s.gracePeriodEnd k ≤ env.clock s.numReads then (found.1 ++ [k], found.2)
        else (found.1, min found.2 (s.gracePeriodEnd k - env.clock s.numReads))),
        { s with numReads := s.numReads + 1 }) := by
  rw [checkGracePeriod, provideTimestampInMilliseconds, Program.run_bind_ok (Program.run_atomic _ s),
    Program.run_bind_ok (Program.run_read _ _)]
  show (if s.gracePeriodEnd k ≤ env.clock s.numReads then _ else _ : InstanceProgram _).run _ = _
  split
  · rfl
  · rfl

/-- The watchdog looks at all sessions in its queue, and reads the clock for each. -/
theorem run_checkGracePeriods (ks : List SessionRef) (found : List SessionRef × ℤ) :
    (ks.foldlM (checkGracePeriod env) found).run s =
      (.ok (found.1 ++ due s.gracePeriodEnd (fun n => env.clock n) s.numReads ks,
        wait s.gracePeriodEnd (fun n => env.clock n) s.numReads found.2 ks),
        { s with numReads := s.numReads + ks.length }) := by
  induction ks generalizing s found with
  | nil =>
    rw [List.foldlM_nil, due, wait, List.append_nil]
    rfl
  | cons k ks ih =>
    rw [List.foldlM_cons, Program.run_bind_ok (run_checkGracePeriod found), ih, due, wait,
      List.length_cons, Nat.add_comm ks.length 1, ← Nat.add_assoc]
    show (Except.ok (_ ++ due s.gracePeriodEnd _ (s.numReads + 1) ks,
      wait s.gracePeriodEnd _ (s.numReads + 1) _ ks), _) = _
    split
    · rw [List.append_assoc]
      rfl
    · rfl

/-- The sessions are taken out of the queue and ended, one after the other. -/
def closedExpired (caller : Caller) : List SessionRef → OpenKitInstance → OpenKitInstance
  | [], s => s
  | k :: ks, s =>
    closedExpired caller ks ((s.dequeueFromClosing k).ranOn k (SessionCalls.endWith caller false))

theorem run_closeExpired (ks : List SessionRef) :
    (ks.forM (closeExpiredSession caller)).run s = (.ok (), s.closedExpired caller ks) := by
  induction ks generalizing s with
  | nil => rfl
  | cons k ks ih =>
    have hclose : (closeExpiredSession caller k).run s =
        (.ok (), (s.dequeueFromClosing k).ranOn k (SessionCalls.endWith caller false)) := by
      rw [closeExpiredSession, Program.run_bind_ok (Program.run_write _ s), run_onSession_endWith]
    show (closeExpiredSession caller k >>= fun _ => ks.forM (closeExpiredSession caller)).run s = _
    rw [Program.run_bind_ok hclose, ih, closedExpired]

/-- **What the first part leaves.** -/
structure ClosedExpired (ks : List SessionRef) (s t : OpenKitInstance) : Prop where
  sound : t.Sound
  tidy : Tidy t
  isDone : ∀ k ∈ ks, t.IsDone k
  session : ∀ j, j ∉ ks → t.session j = s.session j
  sessionsToClose : t.watchdog.sessionsToClose = s.watchdog.sessionsToClose.diff ks
  sessionsToSplitByTimeout :
    t.watchdog.sessionsToSplitByTimeout = s.watchdog.sessionsToSplitByTimeout
  sessions_size : t.sessions.size = s.sessions.size
  numReads : s.numReads ≤ t.numReads

/-- A call on a session that does not wait in the queue leaves the queue as it is. -/
theorem CallRun.sessionsToClose_of_notMem (h : CallRun k s t) (hk : k ∉ s.watchdog.sessionsToClose) :
    t.watchdog.sessionsToClose = s.watchdog.sessionsToClose := by
  cases hopen : (s.session k).session.isSessionFinished with
  | true => exact (h.kept ((h.isSessionFinished hopen).trans hopen.symm)).2
  | false =>
    cases hdone : (t.session k).session.isSessionFinished with
    | true => rw [(h.closed hdone hopen).2, List.erase_of_not_mem hk]
    | false => exact (h.kept (hdone.trans hopen.symm)).2

/-- A session that is ended is taken out of the queue. -/
theorem sessionsToClose_endWith (hsound : s.Sound) (htidy : Tidy s) (k : SessionRef) :
    (s.ranOn k (SessionCalls.endWith caller false)).watchdog.sessionsToClose =
      s.watchdog.sessionsToClose.erase k := by
  have hrun : CallRun k s (s.ranOn k (SessionCalls.endWith caller false)) := callRun_endWith hsound false
  cases hopen : (s.session k).session.isSessionFinished with
  | true =>
    have hnot : k ∉ s.watchdog.sessionsToClose := fun hk => (htidy.sessions.queued k hk).2.1 hopen
    rw [hrun.sessionsToClose_of_notMem hnot, List.erase_of_not_mem hnot]
  | false => exact (hrun.closed (isSessionFinished_endWith hsound false) hopen).2

theorem closedExpired_spec (hsound : s.Sound) (htidy : Tidy s) (ks : List SessionRef)
    (hmade : ∀ k ∈ ks, k < s.sessions.size) : ClosedExpired ks s (s.closedExpired caller ks) := by
  induction ks generalizing s with
  | nil =>
    exact ⟨hsound, htidy, List.forall_mem_nil _, fun _ _ => rfl, (List.diff_nil _).symm, rfl, rfl,
      le_refl _⟩
  | cons k ks ih =>
    obtain ⟨hk, hks⟩ := List.forall_mem_cons.mp hmade
    have hrun : CallRun k s (s.ranOn k (SessionCalls.endWith caller false)) :=
      callRun_endWith hsound false
    have hsoundRun : (s.ranOn k (SessionCalls.endWith caller false)).Sound := hsound.endWith false
    have hrest := ih hsoundRun
      (htidy.endWith hsound hk false) fun j hj => by
        rw [hrun.sessions_size]
        exact hks j hj
    rw [closedExpired, ranOn_dequeueFromClosing htidy hsound]
    have hsame (j : SessionRef) (hj : j ≠ k) : (s.ranOn k (SessionCalls.endWith caller false)).session
        j = s.session j := hrun.session_of_ne j hj
    refine ⟨hrest.sound, hrest.tidy, fun j hj => ?_, fun j hj => ?_, ?_,
      hrest.sessionsToSplitByTimeout.trans hrun.sessionsToSplitByTimeout,
      hrest.sessions_size.trans hrun.sessions_size,
      hrun.numReads.trans hrest.numReads⟩
    · by_cases hjks : j ∈ ks
      · exact hrest.isDone j hjks
      · obtain rfl := (List.mem_cons.mp hj).resolve_right hjks
        rw [IsDone, hrest.session j hjks]
        exact isSessionFinished_endWith hsound false
    · obtain ⟨hjk, hjks⟩ := List.ne_and_not_mem_of_not_mem_cons hj
      rw [hrest.session j hjks, hsame j hjk]
    · rw [hrest.sessionsToClose, sessionsToClose_endWith hsound htidy, List.diff_cons]

/-- **The first part of a round.** -/
theorem run_closeExpiredSessions :
    (closeExpiredSessions env caller).run s =
      (.ok (wait s.gracePeriodEnd (fun n => env.clock n) s.numReads defaultSleepTimeMilliseconds
        s.watchdog.sessionsToClose),
        ({ s with numReads := s.numReads + s.watchdog.sessionsToClose.length }).closedExpired caller
          (due s.gracePeriodEnd (fun n => env.clock n) s.numReads s.watchdog.sessionsToClose)) := by
  rw [closeExpiredSessions, Program.run_bind_ok (Program.run_read _ s),
    Program.run_bind_ok (run_checkGracePeriods _ _)]
  show (((due _ _ _ _).forM (closeExpiredSession caller)) >>= _).run _ = _
  rw [Program.run_bind_ok (run_closeExpired _)]
  rfl

/-! ## The proxies that are asked to split -/

/-- What asking a proxy to split leaves of everything else. -/
structure KeepsOthers (p : ProxyRef) (s t : OpenKitInstance) : Prop where
  proxies_size : t.proxies.size = s.proxies.size
  sessions_size : s.sessions.size ≤ t.sessions.size
  sessionsToSplitByTimeout :
    t.watchdog.sessionsToSplitByTimeout = s.watchdog.sessionsToSplitByTimeout
  numReads : s.numReads ≤ t.numReads
  currentSession : ∀ q, q ≠ p → (t.proxy q).currentSession = (s.proxy q).currentSession
  lastInteractionTime : ∀ q, q ≠ p → (t.proxy q).lastInteractionTime = (s.proxy q).lastInteractionTime
  serverConfiguration : ∀ q, q ≠ p → (t.proxy q).serverConfiguration = (s.proxy q).serverConfiguration
  session : ∀ j < s.sessions.size, (s.proxy p).currentSession ≠ some j → t.session j = s.session j
  sessionsToClose : ∃ new, t.watchdog.sessionsToClose = s.watchdog.sessionsToClose ++ new
  isDone : ∀ j < s.sessions.size, s.IsDone j → t.IsDone j

/-- Another proxy splits when it did before. -/
theorem KeepsOthers.nextSplitTime (h : KeepsOthers p s t) (hq : q ≠ p) (hk : k < s.sessions.size)
    (hcurrent : (s.proxy p).currentSession ≠ some k) : t.nextSplitTime q k = s.nextSplitTime q k := by
  rw [OpenKitInstance.nextSplitTime, OpenKitInstance.nextSplitTime, h.serverConfiguration q hq,
    h.lastInteractionTime q hq, h.session k hk hcurrent]

/-- A session that is given up goes to the end of the queue, if it goes there. -/
theorem Closed.sessionsToClose {closeGracePeriodInMillis : ℤ} (hsound : s.Sound)
    (h : s.Closed env caller k closeGracePeriodInMillis t) (hk : k ∉ s.watchdog.sessionsToClose) :
    ∃ new, t.watchdog.sessionsToClose = s.watchdog.sessionsToClose ++ new ∧ ∀ j ∈ new, j = k := by
  cases h with
  | ended _ =>
    exact ⟨[], ((callRun_endWith hsound false).sessionsToClose_of_notMem hk).trans
      (List.append_nil _).symm, List.forall_mem_nil _⟩
  | enqueued h => exact ⟨[k], h.sessionsToClose, fun _ => List.mem_singleton.mp⟩

theorem Closed.session_of_ne {closeGracePeriodInMillis : ℤ}
    (h : s.Closed env caller k closeGracePeriodInMillis t) (hj : j ≠ k) :
    t.session j = s.session j := by
  cases h with
  | ended _ => exact sessionRun_endWith.session_of_ne j hj
  | enqueued h => exact h.session_of_ne j hj

theorem Closed.isDone {closeGracePeriodInMillis : ℤ} (hsound : s.Sound)
    (h : s.Closed env caller k closeGracePeriodInMillis t) (hdone : s.IsDone j) : t.IsDone j := by
  cases h with
  | ended _ => exact (callRun_endWith hsound false).isDone hdone
  | enqueued h =>
    by_cases hj : j = k
    · subst hj
      rw [IsDone, h.session]
      exact hdone
    · rw [IsDone, h.session_of_ne j hj]
      exact hdone

theorem Closed.sessionsToSplitByTimeout {closeGracePeriodInMillis : ℤ}
    (h : s.Closed env caller k closeGracePeriodInMillis t) :
    t.watchdog.sessionsToSplitByTimeout = s.watchdog.sessionsToSplitByTimeout := by
  cases h with
  | ended _ => exact sessionRun_endWith.sessionsToSplitByTimeout
  | enqueued h => exact h.sessionsToSplitByTimeout

/-- The current session of a proxy has been made, and does not wait in the queue. -/
theorem current_of_tidy (htidy : Tidy s) (hp : p < s.proxies.size)
    (hcurrent : (s.proxy p).currentSession = some k) :
    k < s.sessions.size ∧ k ∉ s.watchdog.sessionsToClose := by
  obtain ⟨hk, -, huntried⟩ :=
    htidy.sessions.currentSession p k ((currentOf_of_lt hp).trans hcurrent)
  refine ⟨hk, fun hqueued => ?_⟩
  obtain ⟨-, -, htried⟩ := htidy.sessions.queued k hqueued
  cases htried.symm.trans huntried

variable (env) in
/-- What is prepared for a new session is in its proxy and in the providers. -/
theorem prepared_keeps (s : OpenKitInstance) (p : ProxyRef) (anew : Bool) :
    (s.prepared env p anew).sessions = s.sessions ∧ (s.prepared env p anew).watchdog = s.watchdog ∧
      (s.prepared env p anew).numReads = s.numReads := by
  cases anew with
  | true => exact ⟨rfl, rfl, rfl⟩
  | false => exact ⟨rfl, rfl, rfl⟩

/-- Re-tagging is a call on the current session, which stays where it is. -/
theorem ReTagged.keeps (hsound : s.Sound) (h : s.ReTagged caller p t)
    (hcurrent : (s.proxy p).currentSession = some k) (hk : k ∉ s.watchdog.sessionsToClose) :
    (∀ j, j ≠ k → t.session j = s.session j) ∧
      t.watchdog.sessionsToSplitByTimeout = s.watchdog.sessionsToSplitByTimeout ∧
      t.watchdog.sessionsToClose = s.watchdog.sessionsToClose ∧ s.numReads ≤ t.numReads := by
  cases h with
  | untagged _ => exact ⟨fun _ _ => rfl, rfl, rfl, le_refl _⟩
  | @tagged k' _ hcurrent' =>
    obtain rfl := Option.some.inj (hcurrent'.symm.trans hcurrent)
    have hrun : CallRun k' (s.remember (.reTagged p k' (s.proxy p).lastUserTag))
        ((s.remember (.reTagged p k' (s.proxy p).lastUserTag)).ranOn k'
          (SessionCalls.perform caller (.identifyUser (s.proxy p).lastUserTag))) :=
      callRun_perform (hsound.remember _) _
    exact ⟨hrun.session_of_ne, hrun.sessionsToSplitByTimeout, hrun.sessionsToClose_of_notMem hk,
      hrun.numReads⟩

/-- **A split** leaves everything else as it was. -/
theorem Split.keepsOthers {anew : Bool} (hsound : s.Sound) (htidy : Tidy s) (hp : p < s.proxies.size)
    (h : s.Split env caller p anew t) : KeepsOthers p s t := by
  have hsize := h.proxies_size
  have hgrows := Grows.split h
  obtain ⟨hconfig, hcurrent, hclosed, hmade, htagged⟩ := h
  rename_i c k s₁ s₂
  obtain ⟨hk, hkqueue⟩ := current_of_tidy htidy hp hcurrent
  have hsoundMade : s₂.Sound := ((hsound.closed hclosed).prepared anew).made hmade
  have hclosedSize : s.sessions.size ≤ s₁.sessions.size := (Grows.closed hclosed).sessions_size
  obtain ⟨hsessions, hwatchdog, hnumReads⟩ := prepared_keeps env s₁ p anew
  have hnewSize : (s₁.prepared env p anew).sessions.size = s₁.sessions.size := congrArg Heap.size hsessions
  have hproxy (q : ProxyRef) : ∃ children creator, (s₁.prepared env p anew).proxy q =
      { s.proxy q with children := children, sessionCreator := creator } := by
    obtain ⟨creator, hcreator⟩ := proxy_prepared env s₁ p anew q
    obtain ⟨children, hchildren⟩ := hclosed.proxy q
    exact ⟨children, creator, by rw [hcreator, hchildren]⟩
  have hother (q : ProxyRef) (hq : q ≠ p) : ∃ children creator, t.proxy q =
      { s.proxy q with children := children, sessionCreator := creator } := by
    obtain ⟨children, creator, hbefore⟩ := hproxy q
    obtain ⟨children', hafter⟩ := htagged.proxy q
    rw [hmade.proxy_of_ne q hq, hbefore] at hafter
    exact ⟨children', creator, hafter⟩
  have hsplits : s₂.watchdog.sessionsToSplitByTimeout = s.watchdog.sessionsToSplitByTimeout := by
    rcases hmade.sessionsToSplitByTimeout with hsplits | ⟨-, hnone, -⟩
    · rw [hsplits, hwatchdog, hclosed.sessionsToSplitByTimeout]
    · obtain ⟨children, creator, hbefore⟩ := hproxy p
      rw [hbefore] at hnone
      cases hconfig.symm.trans hnone
  -- the new session is not in the queue, so that re-tagging it leaves the queue alone
  obtain ⟨new, hqueue, hnew⟩ := hclosed.sessionsToClose hsound hkqueue
  have hmadeQueue : s₂.watchdog.sessionsToClose = s.watchdog.sessionsToClose ++ new := by
    rw [hmade.sessionsToClose, hwatchdog, hqueue]
  have hnewQueue : (s₁.prepared env p anew).sessions.size ∉ s₂.watchdog.sessionsToClose := by
    rw [hmadeQueue, hnewSize]
    intro hmem
    refine absurd hclosedSize (Nat.not_le_of_lt ?_)
    rcases List.mem_append.mp hmem with hmem | hmem
    · exact (htidy.sessions.queued _ hmem).1
    · exact hnew _ hmem ▸ hk
  obtain ⟨htaggedSession, htaggedSplits, htaggedQueue, htaggedReads⟩ :=
    htagged.keeps hsoundMade hmade.currentSession hnewQueue
  have hold (j : SessionRef) (hj : j < s.sessions.size) : t.session j = s₁.session j := by
    have hne : j ≠ (s₁.prepared env p anew).sessions.size := hnewSize ▸ (hj.trans_le hclosedSize).ne
    rw [htaggedSession j hne, hmade.session_of_ne j hne, OpenKitInstance.session, hsessions]
    rfl
  refine ⟨hsize, hgrows.sessions_size, htaggedSplits.trans hsplits, ?_, fun q hq => ?_, fun q hq => ?_,
    fun q hq => ?_, fun j hj hne => ?_, ⟨new, htaggedQueue.trans hmadeQueue⟩, fun j hj hdone => ?_⟩
  · refine le_trans ?_ htaggedReads
    rw [hmade.numReads, hnumReads]
    exact hclosed.numReads.trans (Nat.le_succ _)
  · obtain ⟨children, creator, hafter⟩ := hother q hq
    rw [hafter]
  · obtain ⟨children, creator, hafter⟩ := hother q hq
    rw [hafter]
  · obtain ⟨children, creator, hafter⟩ := hother q hq
    rw [hafter]
  · have hjk : j ≠ k := by
      rintro rfl
      exact hne hcurrent
    rw [hold j hj, hclosed.session_of_ne hjk]
  · rw [IsDone, hold j hj]
    exact hclosed.isDone hsound hdone

variable (env caller) in
/-- **Asking a proxy in use** to split: it answers by the time of its next split, whether it has split or
not. -/
theorem run_splitSessionByTime (hsound : s.Sound) (htidy : Tidy s) (hp : p < s.proxies.size)
    (hunfinished : (s.proxy p).isFinished = false) :
    ∃ k t, (splitSessionByTime env p caller).run s = (.ok (t.nextSplitTime p k), t) ∧
      t.InUse p k ∧ t.Sound ∧ Tidy t ∧ KeepsOthers p s t := by
  obtain ⟨k, hcurrent⟩ := hsound.live p hp hunfinished
  let r : OpenKitInstance := { s with numReads := s.numReads + 1 }
  have hsoundR : r.Sound := ⟨hsound.orderly, hsound.live⟩
  have htidyR : Tidy r := htidy.congr rfl (fun _ => rfl) (fun _ => rfl) (fun _ => rfl)
    (fun _ => rfl) rfl rfl
  by_cases hearly : s.nextSplitTime p k < 0 ∨ env.clock s.numReads < s.nextSplitTime p k
  · refine ⟨k, r, run_splitSessionByTime_of_not_split hunfinished hcurrent hearly,
      ⟨hp, hunfinished, hcurrent⟩, hsoundR, htidyR, ?_⟩
    exact ⟨rfl, le_refl _, rfl, Nat.le_succ _, fun _ _ => rfl, fun _ _ => rfl, fun _ _ => rfl,
      fun _ _ _ => rfl, ⟨[], (List.append_nil _).symm⟩, fun _ _ => id⟩
  · obtain ⟨k', t, hrun, hsplit, hcurrent'⟩ := run_splitSessionByTime_of_split env caller hunfinished
      hcurrent (hsound.settled k) (by omega)
    have hkeeps : KeepsOthers p r t := hsplit.keepsOthers hsoundR htidyR hp
    refine ⟨k', t, hrun, ⟨hkeeps.proxies_size ▸ hp, hsplit.splitProxy.isFinished.trans hunfinished,
      hcurrent'⟩, hsoundR.split hsplit, htidyR.split hsoundR hp hunfinished hsplit, ?_⟩
    exact ⟨hkeeps.proxies_size, hkeeps.sessions_size, hkeeps.sessionsToSplitByTimeout,
      (Nat.le_succ _).trans hkeeps.numReads, hkeeps.currentSession, hkeeps.lastInteractionTime,
      hkeeps.serverConfiguration, hkeeps.session, hkeeps.sessionsToClose, hkeeps.isDone⟩

variable (env caller) in
/-- The instance when the watchdog has asked some proxies, after the first part of its round. -/
def asking (u : OpenKitInstance) (asked : List ProxyRef) : OpenKitInstance :=
  ((asked.foldlM (splitTimedOutSession env caller) ([], defaultSleepTimeMilliseconds)).run u).2

variable (env caller) in
/-- **What is known of a proxy** that was asked behind some others and is still to be split: it has answered by
the time of its next split, and the watchdog does not sleep beyond that, unless it was past already when the
watchdog read the clock right after the answer. -/
def Heeded (u : OpenKitInstance) (asked : List ProxyRef) (sleepTime : ℤ) (p : ProxyRef)
    (s : OpenKitInstance) : Prop :=
  ∃ k answer v, (splitSessionByTime env p caller).run (asking env caller u asked) = (.ok answer, v) ∧
    0 ≤ answer ∧ (s.proxy p).currentSession = some k ∧ s.nextSplitTime p k = answer ∧
    ((env.clock v.numReads : ℤ) ≤ answer → sleepTime ≤ answer - env.clock v.numReads)

variable (env caller) in
/-- **What is known after some proxies were asked.** -/
structure Asked (u : OpenKitInstance) (asked : List ProxyRef) (found : List ProxyRef × ℤ)
    (s : OpenKitInstance) : Prop where
  run_eq : (asked.foldlM (splitTimedOutSession env caller) ([], defaultSleepTimeMilliseconds)).run u =
    (.ok found, s)
  sound : s.Sound
  tidy : Tidy s
  sessions_size : u.sessions.size ≤ s.sessions.size
  sessionsToSplitByTimeout :
    s.watchdog.sessionsToSplitByTimeout = u.watchdog.sessionsToSplitByTimeout
  session : ∀ j ∈ u.watchdog.sessionsToClose, s.session j = u.session j
  sessionsToClose : ∃ new, s.watchdog.sessionsToClose = u.watchdog.sessionsToClose ++ new
  isDone : ∀ j < u.sessions.size, u.IsDone j → s.IsDone j
  nonneg : 0 ≤ found.2
  atMost : found.2 ≤ defaultSleepTimeMilliseconds
  heeded : ∀ i p, asked[i]? = some p →
    p ∈ found.1 ∨ Heeded env caller u (asked.take i) found.2 p s

theorem Heeded.mono {asked : List ProxyRef} {sleepTime sleepTime' : ℤ}
    (h : Heeded env caller u asked sleepTime p s) (hle : sleepTime' ≤ sleepTime) :
    Heeded env caller u asked sleepTime' p s := by
  obtain ⟨k, answer, v, hrun, hanswer, hcurrent, hnext, hsleep⟩ := h
  exact ⟨k, answer, v, hrun, hanswer, hcurrent, hnext, fun hlate => hle.trans (hsleep hlate)⟩

/-- What is known of a proxy stays true while another one is asked. -/
theorem Heeded.keepsOthers {asked : List ProxyRef} {sleepTime : ℤ}
    (h : Heeded env caller u asked sleepTime q s) (hkeeps : KeepsOthers p s t) (hq : q ≠ p)
    (htidy : Tidy s) (hmade : q < s.proxies.size) (hp : p < s.proxies.size) :
    Heeded env caller u asked sleepTime q t := by
  obtain ⟨k, answer, v, hrun, hanswer, hcurrent, hnext, hsleep⟩ := h
  obtain ⟨hk, hparent, -⟩ :=
    htidy.sessions.currentSession q k ((currentOf_of_lt hmade).trans hcurrent)
  have hne : (s.proxy p).currentSession ≠ some k := by
    intro hcurrent'
    obtain ⟨-, hparent', -⟩ :=
      htidy.sessions.currentSession p k ((currentOf_of_lt hp).trans hcurrent')
    exact hq (hparent.symm.trans hparent')
  exact ⟨k, answer, v, hrun, hanswer, (hkeeps.currentSession q hq).trans hcurrent,
    (hkeeps.nextSplitTime hq hk hne).trans hnext, hsleep⟩

/-- What is known once a proxy has answered. -/
theorem Asked.next {asked : List ProxyRef} {found found' : List ProxyRef × ℤ}
    (h : Asked env caller u asked found s) (hp : p ∈ u.watchdog.sessionsToSplitByTimeout)
    (hnew : p ∉ asked) (hasked : ∀ q ∈ asked, q ∈ u.watchdog.sessionsToSplitByTimeout)
    (hrun : (splitTimedOutSession env caller found p).run s = (.ok found', t))
    (hkeeps : KeepsOthers p s t) (hsound : t.Sound) (htidy : Tidy t)
    (hfound : ∀ q ∈ found.1, q ∈ found'.1) (hnonneg : 0 ≤ found'.2) (hle : found'.2 ≤ found.2)
    (hheeded : p ∈ found'.1 ∨ Heeded env caller u asked found'.2 p t) :
    Asked env caller u (asked ++ [p]) found' t := by
  have hmade (q : ProxyRef) (hq : q ∈ u.watchdog.sessionsToSplitByTimeout) : q < s.proxies.size :=
    (h.tidy.splits.queued q (h.sessionsToSplitByTimeout ▸ hq)).1
  obtain ⟨newU, hqueueU⟩ := h.sessionsToClose
  obtain ⟨newS, hqueueS⟩ := hkeeps.sessionsToClose
  -- sessions in the queue are not the current ones of proxies
  have hqueued (j : SessionRef) (hj : j ∈ u.watchdog.sessionsToClose) :
      j < s.sessions.size ∧ (s.proxy p).currentSession ≠ some j := by
    have hmem : j ∈ s.watchdog.sessionsToClose := hqueueU ▸ List.mem_append_left _ hj
    exact ⟨(h.tidy.sessions.queued j hmem).1,
      fun hcurrent => (current_of_tidy h.tidy (hmade p hp) hcurrent).2 hmem⟩
  refine ⟨?_, hsound, htidy, h.sessions_size.trans hkeeps.sessions_size,
    hkeeps.sessionsToSplitByTimeout.trans h.sessionsToSplitByTimeout, fun j hj => ?_, ⟨newU ++ newS, ?_⟩,
    fun j hj hdone => hkeeps.isDone j (hj.trans_le h.sessions_size) (h.isDone j hj hdone),
    hnonneg, hle.trans h.atMost, fun i q hi => ?_⟩
  · rw [List.foldlM_append, Program.run_bind_ok h.run_eq, List.foldlM_cons, Program.run_bind_ok hrun]
    rfl
  · obtain ⟨hlt, hne⟩ := hqueued j hj
    rw [hkeeps.session j hlt hne, h.session j hj]
  · rw [hqueueS, hqueueU, List.append_assoc]
  · rcases Nat.lt_or_ge i asked.length with hlt | hge
    · rw [List.getElem?_append_left hlt] at hi
      rw [List.take_append_of_le_length hlt.le]
      have hq := List.mem_of_getElem? hi
      have hqp : q ≠ p := by
        rintro rfl
        exact hnew hq
      rcases h.heeded i q hi with hremoved | hold
      · exact .inl (hfound q hremoved)
      · exact .inr ((hold.mono hle).keepsOthers hkeeps hqp h.tidy (hmade q (hasked q hq)) (hmade p hp))
    · rw [List.getElem?_append_right hge] at hi
      -- it is the one that has just been asked
      rw [List.getElem?_singleton] at hi
      split at hi
      next hzero =>
        have hlength : i = asked.length := by omega
        rw [hlength, List.take_left, ← Option.some.inj hi]
        exact hheeded
      next => cases hi

/-- **One more proxy** is asked. -/
theorem Asked.step {asked : List ProxyRef} {found : List ProxyRef × ℤ}
    (h : Asked env caller u asked found s) (hp : p ∈ u.watchdog.sessionsToSplitByTimeout)
    (hnew : p ∉ asked) (hasked : ∀ q ∈ asked, q ∈ u.watchdog.sessionsToSplitByTimeout) :
    ∃ found' t, Asked env caller u (asked ++ [p]) found' t := by
  obtain ⟨hmade, hunfinished, -⟩ := h.tidy.splits.queued p (h.sessionsToSplitByTimeout ▸ hp)
  obtain ⟨k, t, hrun, huse, hsound, htidy, hkeeps⟩ := run_splitSessionByTime env caller h.sound
    h.tidy hmade hunfinished
  -- what is there when the proxy is asked is what the round has left so far
  have hasking : asking env caller u asked = s := congrArg Prod.snd h.run_eq
  -- it is removed, or its time is compared with the clock
  by_cases hnone : t.nextSplitTime p k < 0
  · have hremove : (splitTimedOutSession env caller found p).run s = (.ok (found.1 ++ [p], found.2), t) := by
      rw [splitTimedOutSession, Program.run_bind_ok hrun, if_pos hnone]
      rfl
    refine ⟨_, t, h.next hp hnew hasked hremove hkeeps hsound htidy (fun q => List.mem_append_left _)
      h.nonneg (le_refl _) (.inl (List.mem_append_right _ (List.mem_singleton.mpr rfl)))⟩
  · -- the watchdog reads the clock once more
    let r : OpenKitInstance := { t with numReads := t.numReads + 1 }
    have hsoundR : r.Sound := ⟨hsound.orderly, hsound.live⟩
    have htidyR : Tidy r := htidy.congr rfl (fun _ => rfl) (fun _ => rfl) (fun _ => rfl)
      (fun _ => rfl) rfl rfl
    have hkeepsR : KeepsOthers p s r :=
      ⟨hkeeps.proxies_size, hkeeps.sessions_size, hkeeps.sessionsToSplitByTimeout,
        hkeeps.numReads.trans (Nat.le_succ _), hkeeps.currentSession, hkeeps.lastInteractionTime,
        hkeeps.serverConfiguration, hkeeps.session, hkeeps.sessionsToClose, hkeeps.isDone⟩
    have hheeded (sleepTime : ℤ) (hsleep : (env.clock t.numReads : ℤ) ≤ t.nextSplitTime p k →
        sleepTime ≤ t.nextSplitTime p k - env.clock t.numReads) :
        Heeded env caller u asked sleepTime p r :=
      ⟨k, _, t, hasking.symm ▸ hrun, not_lt.mp hnone, huse.currentSession, rfl, hsleep⟩
    have hread : (splitTimedOutSession env caller found p).run s =
        (.ok (if t.nextSplitTime p k - env.clock t.numReads < 0 then found
          else (found.1, min found.2 (t.nextSplitTime p k - env.clock t.numReads))), r) := by
      rw [splitTimedOutSession, Program.run_bind_ok hrun, if_neg hnone, provideTimestampInMilliseconds,
        Program.run_bind_ok (Program.run_atomic _ t)]
      dsimp only
      split
      · rfl
      · rfl
    by_cases hpast : t.nextSplitTime p k - env.clock t.numReads < 0
    · rw [if_pos hpast] at hread
      refine ⟨found, r, h.next hp hnew hasked hread hkeepsR hsoundR htidyR (fun _ => id) h.nonneg
        (le_refl _) (.inr (hheeded _ fun hlate => ?_))⟩
      omega
    · rw [if_neg hpast] at hread
      exact ⟨_, r, h.next hp hnew hasked hread hkeepsR hsoundR htidyR (fun _ => id)
        (le_min h.nonneg (not_lt.mp hpast)) (min_le_left _ _) (.inr (hheeded _ fun _ => min_le_right _ _))⟩

/-- All proxies in the queue are asked, one after the other. -/
theorem Asked.run {asked rest : List ProxyRef} {found : List ProxyRef × ℤ}
    (h : Asked env caller u asked found s)
    (hsplits : u.watchdog.sessionsToSplitByTimeout = asked ++ rest) (hnodup : (asked ++ rest).Nodup) :
    ∃ found' t, Asked env caller u (asked ++ rest) found' t := by
  induction rest generalizing s asked found with
  | nil => exact ⟨found, s, by rwa [List.append_nil]⟩
  | cons p rest ih =>
    have hp : p ∈ u.watchdog.sessionsToSplitByTimeout := by
      rw [hsplits]
      exact List.mem_append_right _ List.mem_cons_self
    have hnew : p ∉ asked := fun hmem =>
      (List.nodup_append.mp hnodup).2.2 p hmem p List.mem_cons_self rfl
    have hasked (q : ProxyRef) (hq : q ∈ asked) : q ∈ u.watchdog.sessionsToSplitByTimeout := by
      rw [hsplits]
      exact List.mem_append_left _ hq
    obtain ⟨found', t, hnext⟩ := h.step hp hnew hasked
    have hshift : asked ++ p :: rest = (asked ++ [p]) ++ rest := by
      rw [List.append_assoc]
      rfl
    rw [hshift] at hsplits hnodup ⊢
    exact ih hnext hsplits hnodup

/-- Removing proxies from the queue. -/
theorem run_removeFromSplitByTimeout (ps : List ProxyRef) :
    ∃ splits, (ps.forM fun p => (Program.write (·.removeFromSplitByTimeout p) :
        InstanceProgram Unit)).run s = (.ok (), s.withSplits splits) ∧
      splits.Sublist s.watchdog.sessionsToSplitByTimeout ∧
      (s.watchdog.sessionsToSplitByTimeout.Nodup → ∀ p ∈ ps, p ∉ splits) := by
  induction ps generalizing s with
  | nil => exact ⟨_, rfl, List.Sublist.refl _, fun _ => List.forall_mem_nil _⟩
  | cons p ps ih =>
    obtain ⟨splits, hrun, hsub, hnot⟩ := ih (s := s.removeFromSplitByTimeout p)
    refine ⟨splits, hrun, hsub.trans List.erase_sublist, fun hnodup => ?_⟩
    refine List.forall_mem_cons.mpr ⟨fun hp => ?_, hnot (hnodup.erase p)⟩
    exact hnodup.not_mem_erase (hsub.subset hp)

variable (env caller) in
/-- **The second part of a round**: the proxies that asked to be removed are removed; the others are heeded. -/
theorem run_splitTimedOutSessions (hsound : u.Sound) (htidy : Tidy u) :
    ∃ found s splits, (splitTimedOutSessions env caller).run u = (.ok found.2, s.withSplits splits) ∧
      Asked env caller u u.watchdog.sessionsToSplitByTimeout found s ∧
      splits.Sublist u.watchdog.sessionsToSplitByTimeout ∧
      ∀ i p, u.watchdog.sessionsToSplitByTimeout[i]? = some p → p ∈ splits →
        Heeded env caller u (u.watchdog.sessionsToSplitByTimeout.take i) found.2 p (s.withSplits splits) := by
  have hstart : Asked env caller u [] ([], defaultSleepTimeMilliseconds) u :=
    ⟨rfl, hsound, htidy, le_refl _, rfl, fun _ _ => rfl, ⟨[], (List.append_nil _).symm⟩, fun _ _ => id,
      by decide, le_refl _, fun i p hi => absurd hi (by simp)⟩
  obtain ⟨found, s, hasked⟩ := hstart.run (List.nil_append _).symm htidy.splits.nodup
  rw [List.nil_append] at hasked
  obtain ⟨splits, hremove, hsub, hremoved⟩ := run_removeFromSplitByTimeout (s := s) found.1
  have hnot := hremoved hasked.tidy.splits.nodup
  refine ⟨found, s, splits, ?_, hasked, hasked.sessionsToSplitByTimeout ▸ hsub, fun i p hi hp => ?_⟩
  · rw [splitTimedOutSessions, Program.run_bind_ok (Program.run_read _ u),
      Program.run_bind_ok hasked.run_eq]
    dsimp only
    rw [Program.run_bind_ok hremove]
    rfl
  · rcases hasked.heeded i p hi with hfound | hheeded
    · exact absurd hp (hnot p hfound)
    · exact hheeded

/-! ## A round -/

/-- **What a round leaves**, and how long the watchdog sleeps then. -/
structure Round (env : InstanceEnvironment) (caller : Caller) (s t : OpenKitInstance) (sleepTime : ℤ) :
    Prop where
  nonneg : 0 ≤ sleepTime
  atMost : sleepTime ≤ defaultSleepTimeMilliseconds
  /-- The sessions whose grace period is over are ended and removed. -/
  expired : ∀ i k, s.watchdog.sessionsToClose[i]? = some k →
    s.gracePeriodEnd k ≤ env.clock (s.numReads + i) →
      t.IsDone k ∧ k ∉ t.watchdog.sessionsToClose
  /-- The other ones are left alone, and the watchdog sleeps no longer than until one of them is due. -/
  waiting : ∀ i k, s.watchdog.sessionsToClose[i]? = some k →
    env.clock (s.numReads + i) < s.gracePeriodEnd k →
      t.session k = s.session k ∧ k ∈ t.watchdog.sessionsToClose ∧
        sleepTime ≤ s.gracePeriodEnd k - env.clock (s.numReads + i)
  /-- They keep their order, and new ones are put behind them. -/
  sessionsToClose : ∃ new, t.watchdog.sessionsToClose = s.watchdog.sessionsToClose.diff
      (due s.gracePeriodEnd (fun n => env.clock n) s.numReads s.watchdog.sessionsToClose) ++ new ∧
    ∀ k ∈ new, k ∉ s.watchdog.sessionsToClose
  /-- No session reports its end. -/
  noEnds : AddsEndsOf (fun _ => False) s t
  /-- No proxy is added to those that are asked, which keep their order. -/
  sessionsToSplitByTimeout :
    t.watchdog.sessionsToSplitByTimeout.Sublist s.watchdog.sessionsToSplitByTimeout
  splits : ∀ i p, s.watchdog.sessionsToSplitByTimeout[i]? = some p →
    p ∈ t.watchdog.sessionsToSplitByTimeout →
      Heeded env caller ((closeExpiredSessions env caller).run s).2
        (s.watchdog.sessionsToSplitByTimeout.take i) sleepTime p t

/-- **A round** of the watchdog. -/
theorem run_executeWatchdog (hsound : s.Sound) (htidy : Tidy s) (threadID : ℤ) :
    ∃ sleepTime t, (executeWatchdog env ⟨threadID, env.clock⟩).run s = (.ok sleepTime, t) ∧
      Round env ⟨threadID, env.clock⟩ s t sleepTime := by
  let ks := due s.gracePeriodEnd (fun n => env.clock n) s.numReads s.watchdog.sessionsToClose
  let r : OpenKitInstance := { s with numReads := s.numReads + s.watchdog.sessionsToClose.length }
  have hsoundR : r.Sound := ⟨hsound.orderly, hsound.live⟩
  have htidyR : Tidy r := htidy.congr rfl (fun _ => rfl) (fun _ => rfl) (fun _ => rfl)
    (fun _ => rfl) rfl rfl
  -- the first scan looks at what is queued when the round begins
  have hqueued (k : SessionRef) (hk : k ∈ s.watchdog.sessionsToClose) : k < s.sessions.size :=
    (htidy.sessions.queued k hk).1
  have hclosed : ClosedExpired ks r (r.closedExpired ⟨threadID, env.clock⟩ ks) :=
    closedExpired_spec hsoundR htidyR ks fun k hk => hqueued k (due_sublist.subset hk)
  have hfirst : ((closeExpiredSessions env ⟨threadID, env.clock⟩).run s).2 =
      r.closedExpired ⟨threadID, env.clock⟩ ks := congrArg Prod.snd run_closeExpiredSessions
  generalize hu : r.closedExpired ⟨threadID, env.clock⟩ ks = u at hclosed hfirst
  -- the second scan asks the proxies that were registered then
  obtain ⟨found, v, splits, hrun, hasked, hsub, hheeded⟩ := run_splitTimedOutSessions env
    ⟨threadID, env.clock⟩ hclosed.sound hclosed.tidy
  have hround : (executeWatchdog env ⟨threadID, env.clock⟩).run s =
      (.ok (min (wait s.gracePeriodEnd (fun n => env.clock n) s.numReads
        defaultSleepTimeMilliseconds s.watchdog.sessionsToClose) found.2), v.withSplits splits) := by
    rw [executeWatchdog, Program.run_bind_ok run_closeExpiredSessions]
    show (splitTimedOutSessions env _ >>= _).run (r.closedExpired _ ks) = _
    rw [hu, Program.run_bind_ok hrun]
    rfl
  have hmoves : Moves env (.executeWatchdog threadID) s
      ((executeWatchdog env ⟨threadID, env.clock⟩).run s).2 :=
    moves_executeWatchdog hsound hqueued fun p hp => (htidy.splits.queued p hp).1
  rw [hround] at hmoves
  obtain ⟨new, hqueue⟩ := hasked.sessionsToClose
  rw [hclosed.sessionsToClose] at hqueue
  -- sessions whose grace period is over are done, and done ones do not wait in the queue
  have hdone (k : SessionRef) (hk : k ∈ ks) : v.IsDone k := by
    refine hasked.isDone k ?_ (hclosed.isDone k hk)
    rw [hclosed.sessions_size]
    exact hqueued k (due_sublist.subset hk)
  have hgone (k : SessionRef) (hk : k ∈ ks) : k ∉ v.watchdog.sessionsToClose :=
    fun hqueue => (hasked.tidy.sessions.queued k hqueue).2.1 (hdone k hk)
  refine ⟨_, _, hround, le_min (wait_nonneg (by decide)) hasked.nonneg,
    (min_le_right _ _).trans hasked.atMost, fun i k hi hdue => ?_, fun i k hi hearly => ?_,
    ⟨new, hqueue, fun k hk hold => ?_⟩, AddsEndsOf.moves hmoves nofun nofun, ?_, fun i p hi hp => ?_⟩
  · have hk : k ∈ ks := mem_due_iff.mpr ⟨i, hi, hdue⟩
    exact ⟨hdone k hk, hgone k hk⟩
  · have hk : k ∉ ks := notMem_due_of_lt htidy.sessions.nodup_sessionsToClose hi hearly
    have hstays : k ∈ s.watchdog.sessionsToClose.diff ks :=
      List.mem_diff_of_mem (List.mem_of_getElem? hi) hk
    refine ⟨(hasked.session k (hclosed.sessionsToClose ▸ hstays)).trans (hclosed.session k hk), ?_, ?_⟩
    · show k ∈ v.watchdog.sessionsToClose
      rw [hqueue]
      exact List.mem_append_left _ hstays
    · exact (min_le_left _ _).trans (wait_le_of_lt hi hearly)
  · -- a new one that was in the queue before would be in it twice, or done
    have hmem : k ∈ v.watchdog.sessionsToClose := hqueue ▸ List.mem_append_right _ hk
    by_cases hdue : k ∈ ks
    · exact hgone k hdue hmem
    · have hnodup := hasked.tidy.sessions.nodup_sessionsToClose
      rw [hqueue] at hnodup
      exact (List.nodup_append.mp hnodup).2.2 k (List.mem_diff_of_mem hold hdue) k hk rfl
  · rw [← hclosed.sessionsToSplitByTimeout]
    exact hsub
  · rw [hfirst]
    have hsplits : u.watchdog.sessionsToSplitByTimeout = s.watchdog.sessionsToSplitByTimeout :=
      hclosed.sessionsToSplitByTimeout
    rw [← hsplits] at hi ⊢
    exact (hheeded i p hi hp).mono (min_le_right _ _)

theorem round_afterCalls (http : HTTPClientConfiguration) (provider : SessionIDProvider)
    (calls : List InstanceCall) (threadID : ℤ) :
    ∃ sleepTime t, (executeWatchdog env ⟨threadID, env.clock⟩).run
        ((new http provider env).afterCalls env calls) = (.ok sleepTime, t) ∧
      Round env ⟨threadID, env.clock⟩ ((new http provider env).afterCalls env calls) t sleepTime :=
  run_executeWatchdog (sound_afterCalls env http provider calls)
    (tidy_afterCalls env http provider calls) threadID

/-! ## All deadlines -/

/-- The watchdog sleeps no longer than until the next grace period ends of a session in its queue. -/
def ClosesInTime (env : InstanceEnvironment) (t : OpenKitInstance) (sleepTime : ℤ) : Prop :=
  ∀ k ∈ t.watchdog.sessionsToClose, sleepTime ≤ max 0 (t.gracePeriodEnd k - env.clock t.numReads)

/-- The watchdog sleeps no longer than until the next split of a proxy in its queue. -/
def SplitsInTime (env : InstanceEnvironment) (t : OpenKitInstance) (sleepTime : ℤ) : Prop :=
  ∀ p ∈ t.watchdog.sessionsToSplitByTimeout, ∀ k, (t.proxy p).currentSession = some k →
    sleepTime ≤ max 0 (t.nextSplitTime p k - env.clock t.numReads)

/-- A session with an open action has been idle for its timeout of ten milliseconds. It is replaced in the
round, and waits for half of the timeout to be closed. -/
def enqueuingEnvironment : InstanceEnvironment :=
  { InstanceEnvironment.plain with clock := fun n => if n < 3 then 0 else 20 }

def actionCalls : List InstanceCall :=
  [.createSession, .requestNewSession 0 (some idleTimeoutAnswer),
    .onProxy 0 1 (.enterAction (.ofAscii ['a']))]

def enqueuedRound : Except InstanceFault ℤ × OpenKitInstance :=
  (executeWatchdog enqueuingEnvironment ⟨1, enqueuingEnvironment.clock⟩).run
    ((new ⟨1, .nil⟩ ⟨0⟩ enqueuingEnvironment).afterCalls enqueuingEnvironment actionCalls)

/-- A session is not to be split yet when its proxy is asked, but was to be split when the watchdog reads the
clock for it. -/
def skippingEnvironment : InstanceEnvironment :=
  { InstanceEnvironment.plain with clock := fun n => if n = 0 then 0 else if n = 1 then 9 else 11 }

def idleCalls : List InstanceCall := [.createSession, .requestNewSession 0 (some idleTimeoutAnswer)]

def skippedRound : Except InstanceFault ℤ × OpenKitInstance :=
  (executeWatchdog skippingEnvironment ⟨1, skippingEnvironment.clock⟩).run
    ((new ⟨1, .nil⟩ ⟨0⟩ skippingEnvironment).afterCalls skippingEnvironment idleCalls)

theorem enqueuedRound_eq : enqueuedRound.1 = .ok 10 ∧ 0 ∈ enqueuedRound.2.watchdog.sessionsToClose ∧
    enqueuedRound.2.gracePeriodEnd 0 - enqueuingEnvironment.clock enqueuedRound.2.numReads = 5 := by
  decide +kernel

theorem skippedRound_eq : skippedRound.1 = .ok 5000 ∧
    0 ∈ skippedRound.2.watchdog.sessionsToSplitByTimeout ∧
    (skippedRound.2.proxy 0).currentSession = some 0 ∧
    skippedRound.2.nextSplitTime 0 0 - skippingEnvironment.clock skippedRound.2.numReads = -1 := by
  refine ⟨by decide, by decide, by decide, by decide⟩

/-- The watchdog sleeps for ten milliseconds, though a session that was put into its queue in the round is to be
closed in five. -/
theorem not_closesInTime : ¬ ∀ (env : InstanceEnvironment) (http : HTTPClientConfiguration)
    (provider : SessionIDProvider) (calls : List InstanceCall) (threadID sleepTime : ℤ) (t : OpenKitInstance),
    (executeWatchdog env ⟨threadID, env.clock⟩).run ((new http provider env).afterCalls env calls) =
      (.ok sleepTime, t) → ClosesInTime env t sleepTime := by
  intro h
  have hleft := enqueuedRound_eq
  rcases hround : enqueuedRound with ⟨answer, t⟩
  rw [hround] at hleft
  obtain ⟨rfl, hqueued, hleft⟩ := hleft
  rw [enqueuedRound] at hround
  have hle := h enqueuingEnvironment ⟨1, .nil⟩ ⟨0⟩ actionCalls 1 10 t hround 0 hqueued
  rw [hleft] at hle
  exact absurd hle (by decide)

/-- It sleeps for five seconds, though the session of a proxy was to be split a millisecond ago. -/
theorem not_splitsInTime : ¬ ∀ (env : InstanceEnvironment) (http : HTTPClientConfiguration)
    (provider : SessionIDProvider) (calls : List InstanceCall) (threadID sleepTime : ℤ) (t : OpenKitInstance),
    (executeWatchdog env ⟨threadID, env.clock⟩).run ((new http provider env).afterCalls env calls) =
      (.ok sleepTime, t) → SplitsInTime env t sleepTime := by
  intro h
  have hleft := skippedRound_eq
  rcases hround : skippedRound with ⟨answer, t⟩
  rw [hround] at hleft
  obtain ⟨rfl, hqueued, hcurrent, hleft⟩ := hleft
  rw [skippedRound] at hround
  have hle := h skippingEnvironment ⟨1, .nil⟩ ⟨0⟩ idleCalls 1 5000 t hround 0 hqueued 0 hcurrent
  rw [hleft] at hle
  exact absurd hle (by decide)

/-- **The watchdog may be late** for a session that was put into its queue in the round, and for a proxy whose
split is past when it reads the clock. -/
theorem not_wakesInTime :
    (¬ ∀ (env : InstanceEnvironment) (http : HTTPClientConfiguration) (provider : SessionIDProvider)
        (calls : List InstanceCall) (threadID sleepTime : ℤ) (t : OpenKitInstance),
        (executeWatchdog env ⟨threadID, env.clock⟩).run
          ((new http provider env).afterCalls env calls) = (.ok sleepTime, t) →
        ClosesInTime env t sleepTime) ∧
      ¬ ∀ (env : InstanceEnvironment) (http : HTTPClientConfiguration) (provider : SessionIDProvider)
        (calls : List InstanceCall) (threadID sleepTime : ℤ) (t : OpenKitInstance),
        (executeWatchdog env ⟨threadID, env.clock⟩).run
          ((new http provider env).afterCalls env calls) = (.ok sleepTime, t) →
        SplitsInTime env t sleepTime :=
  ⟨not_closesInTime, not_splitsInTime⟩

end OpenKitInstance

end OpenKit
