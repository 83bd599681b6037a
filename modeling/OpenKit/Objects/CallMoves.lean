import OpenKit.Objects.ProxyMoves

/-!
# Calls as moves

Each operation of a proxy, the watchdog and the sender is followed from a sound instance to its end, and
read as a sequence of moves. So what holds at first and is kept by all moves holds after any calls.

## Main definitions

* `OpenKitInstance.Grows`: nothing that was made is gone
* `OpenKitInstance.EndsMoved`: a program that makes moves only

## Main results

* `moves_afterCall`: a call is a sequence of its moves
* `sound_afterCalls`: every instance that is reached is sound
* `moves_induction`: the induction over all moves of a run
-/

namespace OpenKit

open Thread SessionProxies

namespace OpenKitInstance

variable {env : InstanceEnvironment} {caller : Caller} {s t : OpenKitInstance} {p : ProxyRef}
  {k : SessionRef}

/-! ## The operations of a proxy -/

section Moves

variable {call : InstanceCall}

variable (env caller call) in
/-- The current session of a proxy in use, or its next one if there are too many events. -/
theorem moves_getOrSplitCurrentSessionByEvents (hsound : s.Sound) (huse : s.InUse p k) :
    ∃ k' t, (getOrSplitCurrentSessionByEvents env p caller).run s = (.ok k', t) ∧
      Moves env call s t ∧ t.InUse p k' ∧ t.splitsByEvents p = false := by
  cases hsplit : s.splitsByEvents p with
  | true =>
    obtain ⟨k', t, hrun, hleft, hcurrent⟩ := run_getOrSplitCurrentSessionByEvents_of_split env
      caller hsplit huse.currentSession (hsound.settled k)
    obtain ⟨k'', huse'⟩ := hleft.inUse huse.made huse.unfinished
    obtain rfl := Option.some.inj (hcurrent.symm.trans huse'.currentSession)
    exact ⟨k', t, hrun, .single (.split huse.made huse.unfinished hleft), huse',
      hleft.splitsByEvents hsplit⟩
  | false =>
    exact ⟨k, s, run_getOrSplitCurrentSessionByEvents_of_not_split hsplit huse.currentSession, .refl,
      huse, hsplit⟩

variable {threadID : ℤ}

theorem inUse_forwarded (huse : s.InUse p k) (call : SessionCall) :
    (s.forwarded env caller p k call).InUse p k := by
  have hrun : SessionRun k ((s.interacted env p).remember (.forwarded p k call))
      (s.forwarded env caller p k call) := sessionRun_perform call
  have hproxy : (s.interacted env p).proxy p =
      { s.proxy p with lastInteractionTime := env.clock s.numReads } := proxy_updateProxy_self
  refine ⟨?_, ?_, ?_⟩
  · rw [hrun.proxies_size]
    exact huse.made
  · rw [hrun.isFinished, proxy_remember, hproxy]
    exact huse.unfinished
  · rw [hrun.currentSession, proxy_remember, hproxy]
    exact huse.currentSession

variable (env threadID) in
/-- A call that is forwarded leaves the proxy in use. -/
theorem moves_forward (proxyCall : ProxyCall) (report : SessionCall) (hsound : s.Sound)
    (huse : s.InUse p k) (hreport : report.isReport = true) :
    ∃ t k', Moves env (.onProxy p threadID proxyCall) s t ∧ t.InUse p k' ∧
      ((forward env p ⟨threadID, env.clock⟩ report).run s).2 = t := by
  obtain ⟨k', t, hrun, hmoves, huse', -⟩ := moves_getOrSplitCurrentSessionByEvents env
    ⟨threadID, env.clock⟩ (.onProxy p threadID proxyCall) hsound huse
  refine ⟨t.forwarded env ⟨threadID, env.clock⟩ p k' report, k', ?_, inUse_forwarded huse' report, ?_⟩
  · exact hmoves.tail (.forward huse' hreport)
  · rw [forward, Program.run_bind_ok hrun, Program.run_bind_ok run_recordTopLevelEventInteraction]
    exact run_forwardTo_snd report

theorem moves_enterAction (hsound : s.Sound) (huse : s.InUse p k) (name : UTF8String) :
    Moves env (.onProxy p threadID (.enterAction name)) s
      ((enterAction env p ⟨threadID, env.clock⟩ name).run s).2 := by
  rw [enterAction]
  split
  · exact .refl
  · obtain ⟨k', t, hrun, hmoves, huse', hsplit⟩ := moves_getOrSplitCurrentSessionByEvents env
      ⟨threadID, env.clock⟩ (.onProxy p threadID (.enterAction name)) hsound huse
    rw [whenUnfinished, Program.run_bind_ok (Program.run_read _ s), huse.unfinished,
      if_neg Bool.false_ne_true, Program.run_bind_ok hrun, Program.run_bind_ok (Program.run_read _ t)]
    have hentered : t.entered env ⟨threadID, env.clock⟩ p k' name =
        ((if (t.session k').beaconConfiguration.privacyConfiguration.isActionReportingAllowed then
          t.counted p else t).interacted env p).forwardedTo ⟨threadID, env.clock⟩ p k'
            (.enterAction name) := rfl
    refine hmoves.tail ?_
    have hmove : Move env (.onProxy p threadID (.enterAction name)) t _ := .enter huse' hsplit
    rw [hentered] at hmove
    split at hmove
    next hallowed =>
      rw [if_pos hallowed, Program.run_bind_ok run_recordTopLevelActionEvent, run_forwardTo_snd]
      exact hmove
    next hallowed =>
      rw [if_neg hallowed, Program.run_bind_ok run_recordTopLevelEventInteraction, run_forwardTo_snd]
      exact hmove

variable (env call threadID) in
/-- The user of the current session is identified once there is room for an event. -/
theorem run_identifyUser (hsound : s.Sound) (huse : s.InUse p k) (userTag : UTF8String) :
    ∃ k' t, Moves env call s t ∧ t.InUse p k' ∧
      (identifyUser env p ⟨threadID, env.clock⟩ userTag).run s =
        (.ok (), t.identified env ⟨threadID, env.clock⟩ p k' userTag) := by
  obtain ⟨k', t, hrun, hmoves, huse', -⟩ := moves_getOrSplitCurrentSessionByEvents env
    ⟨threadID, env.clock⟩ call hsound huse
  let u := (t.interacted env p).remember (.forwarded p k' (.identifyUser userTag))
  obtain ⟨_, r, hbody⟩ := (SessionCalls.returns_perform_identifyUser
    ⟨threadID, env.clock⟩ userTag).run (u.reporting k')
  have hforward : (forward env p ⟨threadID, env.clock⟩ (.identifyUser userTag)).run s =
      (.ok (), t.forwarded env ⟨threadID, env.clock⟩ p k' (.identifyUser userTag)) := by
    rw [forward, Program.run_bind_ok hrun, Program.run_bind_ok run_recordTopLevelEventInteraction,
      forwardTo, Program.run_bind_ok (Program.run_write _ _), run_onSession hbody, forwarded,
      forwardedTo, ranOn, hbody]
  refine ⟨k', t, hmoves, huse', ?_⟩
  rw [identifyUser, whenUnfinished, Program.run_bind_ok (Program.run_read _ s), huse.unfinished,
    if_neg Bool.false_ne_true, Program.run_bind_ok hforward]
  rfl

theorem moves_identifyUser (hsound : s.Sound) (huse : s.InUse p k) (userTag : UTF8String) :
    Moves env (.onProxy p threadID (.identifyUser userTag)) s
      ((identifyUser env p ⟨threadID, env.clock⟩ userTag).run s).2 := by
  obtain ⟨k', t, hmoves, huse', hrun⟩ := run_identifyUser env
    (.onProxy p threadID (.identifyUser userTag)) threadID hsound huse userTag
  rw [hrun]
  exact hmoves.tail (.identify huse')

/-- A split that starts over, if the proxy has a configuration. -/
theorem moves_splitAndCreateNewInitialSession (hsound : s.Sound) (huse : s.InUse p k) :
    Moves env call s ((splitAndCreateNewInitialSession env p caller).run s).2 := by
  rcases hconfig : (s.proxy p).serverConfiguration with _ | c
  · have hclose : (closeOrEnqueueCurrentSessionForClosing env p caller).run s =
        (.error .nullServerConfiguration, s) :=
      Program.run_bind_error (run_serverConfiguration_of_none hconfig)
    rw [splitAndCreateNewInitialSession, Program.run_bind_error hclose]
    exact .refl
  · obtain ⟨t, hrun, hsplit⟩ := run_splitAndCreateNewInitialSession env caller
      hconfig huse.currentSession (hsound.settled k)
    rw [hrun]
    exact .single (.split huse.made huse.unfinished hsplit)

theorem moves_reportCrash (hsound : s.Sound) (huse : s.InUse p k)
    (errorName reason stacktrace : UTF8String) :
    Moves env (.onProxy p threadID (.reportCrash errorName reason stacktrace)) s
      ((reportCrash env p ⟨threadID, env.clock⟩ errorName reason stacktrace).run s).2 := by
  rw [reportCrash]
  split
  · exact .refl
  · rw [whenUnfinished, Program.run_bind_ok (Program.run_read _ s), huse.unfinished,
      if_neg Bool.false_ne_true]
    obtain ⟨t, k', hmoves, huse', hleft⟩ := moves_forward env threadID
      (.reportCrash errorName reason stacktrace) (.reportCrash errorName reason stacktrace) hsound huse
      rfl
    rcases hrun : (forward env p ⟨threadID, env.clock⟩ (.reportCrash errorName reason stacktrace)).run s
      with ⟨fault | _, u⟩
    · rw [Program.run_bind_error hrun]
      rw [hrun] at hleft
      rw [hleft]
      exact hmoves
    · rw [Program.run_bind_ok hrun]
      rw [hrun] at hleft
      subst hleft
      exact hmoves.trans (moves_splitAndCreateNewInitialSession (hsound.moves hmoves) huse')

/-- A call that is forwarded if its argument is not empty. -/
theorem moves_forwardUnlessEmpty (hsound : s.Sound) (huse : s.InUse p k) {proxyCall : ProxyCall}
    (text : UTF8String) {report : SessionCall} (hreport : report.isReport = true) :
    Moves env (.onProxy p threadID proxyCall) s
      ((if text.isEmpty then return () else
        whenUnfinished p (forward env p ⟨threadID, env.clock⟩ report) : InstanceProgram Unit).run s).2 := by
  split
  · exact .refl
  · rw [whenUnfinished, Program.run_bind_ok (Program.run_read _ s), huse.unfinished,
      if_neg Bool.false_ne_true]
    obtain ⟨t, k', hmoves, -, hleft⟩ := moves_forward env threadID proxyCall report hsound huse
      hreport
    rw [hleft]
    exact hmoves

theorem moves_splitSessionByTime (hsound : s.Sound) (hmade : p < s.proxies.size) :
    Moves env call s ((splitSessionByTime env p caller).run s).2 := by
  cases hfinished : (s.proxy p).isFinished with
  | true =>
    rw [run_splitSessionByTime_of_finished hfinished]
    exact .refl
  | false =>
    obtain ⟨k, hcurrent⟩ := hsound.live p hmade hfinished
    by_cases hearly : s.nextSplitTime p k < 0 ∨ env.clock s.numReads < s.nextSplitTime p k
    · rw [run_splitSessionByTime_of_not_split hfinished hcurrent hearly]
      exact .single .readClock
    · obtain ⟨k', t, hrun, hsplit, -⟩ := run_splitSessionByTime_of_split env
        caller hfinished hcurrent (hsound.settled k) (by omega)
      rw [hrun]
      exact .head .readClock (.single (.split hmade hfinished hsplit))

end Moves

/-! ## What moves keep of the sizes -/

/-- Nothing that was made is gone. -/
structure Grows (s t : OpenKitInstance) : Prop where
  proxies_size : s.proxies.size ≤ t.proxies.size
  sessions_size : s.sessions.size ≤ t.sessions.size

namespace Grows

variable {u : OpenKitInstance}

theorem trans (h : Grows s t) (h' : Grows t u) : Grows s u :=
  ⟨h.proxies_size.trans h'.proxies_size, h.sessions_size.trans h'.sessions_size⟩

theorem of_eq (hproxies : t.proxies.size = s.proxies.size)
    (hsessions : t.sessions.size = s.sessions.size) : Grows s t := ⟨hproxies.ge, hsessions.ge⟩

theorem sessionRun (h : s.SessionRun k t) : Grows s t := of_eq h.proxies_size h.sessions_size

theorem made (h : s.Made env p t) : Grows s t := by
  refine ⟨h.proxies_size.ge, ?_⟩
  rw [h.sessions_size]
  exact Nat.le_succ _

theorem closed {closeGracePeriodInMillis : ℤ}
    (h : s.Closed env caller k closeGracePeriodInMillis t) : Grows s t := by
  cases h with
  | ended _ => exact sessionRun sessionRun_endWith
  | enqueued h => exact of_eq (congrArg Heap.size h.proxies) h.sessions_size

theorem perform {u : OpenKitInstance} (hproxies : u.proxies.size = s.proxies.size)
    (hsessions : u.sessions.size = s.sessions.size) (call : SessionCall) :
    Grows s (u.ranOn k (SessionCalls.perform caller call)) :=
  (of_eq hproxies hsessions).trans (sessionRun (sessionRun_perform call))

theorem reTagged (h : s.ReTagged caller p t) : Grows s t := by
  cases h with
  | untagged _ => exact of_eq rfl rfl
  | tagged _ _ => exact perform (s := s) (u := s.remember _) rfl rfl _

theorem split {anew : Bool} (h : s.Split env caller p anew t) : Grows s t := by
  obtain ⟨-, -, hclosed, hmade, htagged⟩ := h
  have hprepared (s₁ : OpenKitInstance) : Grows s₁ (s₁.prepared env p anew) := by
    cases anew with
    | true => exact of_eq rfl rfl
    | false => exact of_eq rfl rfl
  exact (((closed hclosed).trans (hprepared _)).trans (made hmade)).trans (reTagged htagged)

theorem forwarded (call : SessionCall) : Grows s (s.forwarded env caller p k call) :=
  perform (s := s) (u := (s.interacted env p).remember _) rfl rfl call

theorem endedAll (ks : List SessionRef) : Grows s (s.endedAll caller p ks) := by
  induction ks generalizing s with
  | nil => exact of_eq rfl rfl
  | cons k ks ih => exact (sessionRun sessionRun_endWith).trans ih

theorem move {call : InstanceCall} (h : Move env call s t) : Grows s t := by
  cases h with
  | readClock => exact of_eq rfl rfl
  | setContext context => exact of_eq rfl rfl
  | enter huse hsplit =>
    rw [entered]
    split
    · exact perform (s := s) (u := ((s.counted _).interacted env _).remember _) rfl rfl _
    · exact perform (s := s) (u := (s.interacted env _).remember _) rfl rfl _
  | forward huse hreport => exact forwarded _
  | @identify p threadID userTag k _ huse =>
    have hforwarded : Grows s
      (s.forwarded env ⟨threadID, env.clock⟩ p k (.identifyUser userTag)) := forwarded _
    exact ⟨hforwarded.proxies_size, hforwarded.sessions_size⟩
  | split hmade hunfinished hsplit => exact split hsplit
  | @finish p threadID _ hmade hunfinished =>
    have hended : Grows (s.markedFinished p) ((s.markedFinished p).endedAll ⟨threadID, env.clock⟩ p
      (s.proxy p).children) := endedAll _
    exact ⟨hended.proxies_size, hended.sessions_size⟩
  | onObject hk => exact sessionRun (sessionRun_perform _)
  | endSession hk => exact sessionRun sessionRun_endWith
  | @expire _ _ k _ hk =>
    have hdequeued : Grows s (s.dequeueFromClosing k) := of_eq rfl rfl
    exact hdequeued.trans (sessionRun sessionRun_endWith)
  | unsplit => exact of_eq rfl rfl
  | configure hk hconfigure => exact of_eq hconfigure.proxies_size hconfigure.sessions_size
  | decrease hk => exact of_eq rfl rfl
  | create hmade =>
    have hnew : Grows s (s.newProxy env) := ⟨Nat.le_succ _, le_refl _⟩
    exact hnew.trans (made hmade)

theorem moves {call : InstanceCall} (h : Moves env call s t) : Grows s t := by
  induction h with
  | refl => exact of_eq rfl rfl
  | tail _ hmove ih => exact ih.trans (move hmove)

end Grows

/-! ## The watchdog -/

section Watchdog

variable {call : InstanceCall}

/-- The program makes moves only, whether it returns or fails. -/
def EndsMoved (env : InstanceEnvironment) (call : InstanceCall) (s : OpenKitInstance) {α : Type}
    (body : InstanceProgram α) : OpenKitInstance → Prop :=
  body.Ends (fun _ t => Moves env call s t) fun _ t => Moves env call s t

/-- A program whose last state is known. -/
theorem endsMoved_of_run {α : Type} {body : InstanceProgram α}
    (h : Moves env call s (body.run t).2) : EndsMoved env call s body t := by
  apply Program.ends_of_run
  · intro a u hrun
    rwa [hrun] at h
  · intro e u hrun
    rwa [hrun] at h

theorem EndsMoved.bind {α β : Type} {body : InstanceProgram α} {g : α → InstanceProgram β}
    (h : EndsMoved env call s body t)
    (hg : ∀ a u, Moves env call s u → EndsMoved env call s (g a) u) :
    EndsMoved env call s (body >>= g) t :=
  Program.Ends.bind (h.mono hg fun _ _ => id)

theorem EndsMoved.run {α : Type} {body : InstanceProgram α} (h : EndsMoved env call s body t) :
    Moves env call s (body.run t).2 := by
  rcases hrun : body.run t with ⟨e | a, u⟩
  · exact Program.Ends.run_error (E := fun _ u => Moves env call s u) h hrun
  · exact Program.Ends.run_ok (Q := fun _ u => Moves env call s u) h hrun

theorem endsMoved_provideTimestampInMilliseconds (h : Moves env call s t) :
    EndsMoved env call s (provideTimestampInMilliseconds env) t := h.tail .readClock

theorem endsMoved_closeExpiredSession (hk : k < s.sessions.size) (h : Moves env call s t) :
    EndsMoved env call s (closeExpiredSession caller k) t := by
  apply endsMoved_of_run
  rw [closeExpiredSession, Program.run_bind_ok (Program.run_write _ t), run_onSession_endWith]
  exact h.tail (.expire (hk.trans_le (Grows.moves h).sessions_size))

/-- The sessions that are closed have been made. -/
theorem endsMoved_closeExpiredSessions
    (hmade : ∀ k ∈ s.watchdog.sessionsToClose, k < s.sessions.size) :
    EndsMoved env call s (closeExpiredSessions env caller) s := by
  let Found (found : List SessionRef × ℤ) (t : OpenKitInstance) : Prop :=
    Moves env call s t ∧ ∀ k ∈ found.1, k < s.sessions.size
  have hscan : (s.watchdog.sessionsToClose.foldlM (checkGracePeriod env)
      ([], defaultSleepTimeMilliseconds)).Ends Found (fun _ t => Moves env call s t) s := by
    refine Program.ends_foldlM ⟨.refl, List.forall_mem_nil _⟩ fun found k hk t ht => ?_
    refine Program.Ends.bind (Program.Ends.mono (endsMoved_provideTimestampInMilliseconds ht.1)
      (fun now u hu => ?_) fun _ _ => id)
    refine Program.Ends.bind ?_
    show Program.Ends Found _ (ite _ _ _) u
    split
    · exact ⟨hu, List.forall_mem_append.mpr ⟨ht.2, List.forall_mem_singleton.mpr (hmade k hk)⟩⟩
    · exact ⟨hu, ht.2⟩
  refine Program.Ends.bind ?_
  refine Program.Ends.bind (hscan.mono (fun found t ht => ?_) fun _ _ => id)
  refine EndsMoved.bind ?_ fun _ u hu => hu
  exact Program.ends_forM ht.1 fun k hk u hu => endsMoved_closeExpiredSession (ht.2 k hk) hu

/-- The proxies that are split have been made. -/
theorem endsMoved_splitTimedOutSessions (hsound : s.Sound) (h : Moves env call s t)
    (hmade : ∀ p ∈ t.watchdog.sessionsToSplitByTimeout, p < s.proxies.size) :
    EndsMoved env call s (splitTimedOutSessions env caller) t := by
  refine Program.Ends.bind ?_
  refine Program.Ends.bind ?_
  refine Program.Ends.mono (Program.ends_foldlM (I := fun _ u => Moves env call s u)
    (E := fun _ u => Moves env call s u) h fun found p hp u hu => ?_) (fun found u hu => ?_)
    fun _ _ => id
  · have hp : p < u.proxies.size := (hmade p hp).trans_le (Grows.moves hu).proxies_size
    refine EndsMoved.bind (endsMoved_of_run
      (hu.trans (moves_splitSessionByTime (hsound.moves hu) hp))) fun next v hv => ?_
    split
    · exact hv
    · refine (endsMoved_provideTimestampInMilliseconds hv).bind fun now w hw => ?_
      dsimp only
      split
      · exact hw
      · exact hw
  · refine EndsMoved.bind (Program.ends_forM hu fun p hp v hv => ?_) fun _ v hv => hv
    exact hv.tail .unsplit

theorem moves_executeWatchdog (hsound : s.Sound)
    (hclose : ∀ k ∈ s.watchdog.sessionsToClose, k < s.sessions.size)
    (hsplit : ∀ p ∈ s.watchdog.sessionsToSplitByTimeout, p < s.proxies.size) :
    Moves env call s ((executeWatchdog env caller).run s).2 := by
  apply EndsMoved.run
  have hsame : (closeExpiredSessions env caller).Ends (fun _ t => SameSplits s t)
      (fun _ t => SameSplits s t) s :=
    guarantees_sameSplits_closeExpiredSessions.ends (fun _ => rfl) fun _ _ _ h h' => h'.trans h
  refine Program.Ends.bind (((endsMoved_closeExpiredSessions hclose).and hsame).mono
    (fun sleepTime t ht => ?_) fun _ _ h => h.1)
  refine (endsMoved_splitTimedOutSessions hsound ht.1 fun p hp => ?_).bind fun _ u hu => hu
  rw [ht.2] at hp
  exact hsplit p hp

end Watchdog

/-! ## All calls -/

theorem moves_onProxy {threadID : ℤ} (hsound : s.Sound) (hmade : p < s.proxies.size)
    (proxyCall : ProxyCall) : Moves env (.onProxy p threadID proxyCall) s
      ((proxyCall.perform env p ⟨threadID, env.clock⟩).run s).2 := by
  by_cases htimed : proxyCall = .splitSessionByTime
  · subst htimed
    have hmoves : Moves env (.onProxy p threadID .splitSessionByTime) s
      ((splitSessionByTime env p ⟨threadID, env.clock⟩).run s).2 := moves_splitSessionByTime hsound hmade
    rwa [← Program.run_bind_ret _ fun _ => ()] at hmoves
  · cases hfinished : (s.proxy p).isFinished with
    | true =>
      have hleft (body : InstanceProgram Unit) : ((whenUnfinished p body).run s).2 = s := by
        rw [whenUnfinished, Program.run_bind_ok (Program.run_read _ s), hfinished]
        rfl
      have hguarded (text : UTF8String) (body : InstanceProgram Unit) :
          ((if text.isEmpty then return () else whenUnfinished p body : InstanceProgram Unit).run s).2 =
            s := by
        split
        · rfl
        · exact hleft body
      have hsame : ((proxyCall.perform env p ⟨threadID, env.clock⟩).run s).2 = s := by
        cases proxyCall with
        | enterAction name => exact hguarded name _
        | identifyUser userTag => exact hleft _
        | reportCrash errorName reason stacktrace => exact hguarded errorName _
        | traceWebRequest url => exact hguarded url _
        | sendEvent name jsonPayload => exact hguarded name _
        | sendBizEvent type jsonPayload => exact hguarded type _
        | close => exact hleft _
        | splitSessionByTime => exact absurd rfl htimed
      rw [hsame]
      exact .refl
    | false =>
      obtain ⟨k, hcurrent⟩ := hsound.live p hmade hfinished
      have huse : s.InUse p k := ⟨hmade, hfinished, hcurrent⟩
      cases proxyCall with
      | enterAction name => exact moves_enterAction hsound huse name
      | identifyUser userTag => exact moves_identifyUser hsound huse userTag
      | reportCrash errorName reason stacktrace =>
        exact moves_reportCrash hsound huse errorName reason stacktrace
      | traceWebRequest url => exact moves_forwardUnlessEmpty hsound huse url rfl
      | sendEvent name jsonPayload => exact moves_forwardUnlessEmpty hsound huse name rfl
      | sendBizEvent type jsonPayload => exact moves_forwardUnlessEmpty hsound huse type rfl
      | close =>
        show Moves env _ s ((endProxy p _).run s).2
        rw [run_endProxy hfinished]
        exact .single (.finish hmade hfinished)
      | splitSessionByTime => exact absurd rfl htimed

theorem moves_requestNewSession {call : InstanceCall} (hk : k < s.sessions.size)
    (statusResponse : Option Answer) :
    Moves env call s (s.requestNewSession k statusResponse) := by
  rw [requestNewSession]
  split
  · exact .refl
  · split
    · exact .single (.configure hk (configureRun_updateSession rfl))
    · split
      · -- the context takes over the response first
        refine .tail (.single (.setContext (s.context.updateFrom statusResponse).2)) ?_
        refine .configure hk (configureRun_configure fun c => ?_)
        exact (c.evolves_updateServerConfiguration _).privacyConfiguration
      · split
        · exact .refl
        · exact .single (.decrease hk)

/-- **A call is a sequence of moves.** -/
theorem moves_afterCall (hsound : s.Sound) (call : InstanceCall) :
    Moves env call s (s.afterCall env call) := by
  rw [afterCall]
  by_cases hvalid : call.isValid s = true
  · rw [run_perform_of_isValid hvalid]
    cases call with
    | createSession =>
      obtain ⟨t, hrun, hmade⟩ := run_createAndAssignCurrentSession env s.proxies.size (s.newProxy env)
        (some s.context.serverConfiguration) none
      have hcreate : ((InstanceCall.createSession.body env).run s).2 =
          ((createAndAssignCurrentSession env s.proxies.size (some s.context.serverConfiguration)
            none).run (s.newProxy env)).2 := rfl
      rw [hcreate, hrun]
      exact .single (.create hmade)
    | onProxy p threadID proxyCall =>
      exact moves_onProxy hsound (of_decide_eq_true hvalid) proxyCall
    | onObject k threadID handle objectCall =>
      have hk : k < s.sessions.size := of_decide_eq_true hvalid
      show Moves env _ s ((onSession k _).run s).2
      rw [run_onSession_snd]
      exact .single (.onObject hk)
    | closeExpiredSession k threadID =>
      have hk : k < s.sessions.size := of_decide_eq_true hvalid
      exact (endsMoved_closeExpiredSession hk .refl).run
    | executeWatchdog threadID =>
      obtain ⟨hclose, hsplit⟩ := Bool.and_eq_true_iff.mp hvalid
      have hmoves : Moves env (.executeWatchdog threadID) s
          ((executeWatchdog env ⟨threadID, env.clock⟩).run s).2 :=
        moves_executeWatchdog hsound
          (fun k hk => of_decide_eq_true (List.all_eq_true.mp hclose k hk))
          fun p hp => of_decide_eq_true (List.all_eq_true.mp hsplit p hp)
      rwa [← Program.run_bind_ret _ fun _ => ()] at hmoves
    | requestNewSession k statusResponse =>
      exact moves_requestNewSession (of_decide_eq_true hvalid) statusResponse
    | enableCapture k =>
      have hk : k < s.sessions.size := of_decide_eq_true hvalid
      show Moves env _ s (s.enableCapture k)
      rw [enableCapture]
      split
      · exact .refl
      · exact .single (.configure hk (configureRun_updateSession rfl))
    | endSession k threadID =>
      have hk : k < s.sessions.size := of_decide_eq_true hvalid
      show Moves env _ s ((onSession k _).run s).2
      rw [run_onSession_snd]
      exact .single (.endSession hk)
    | onContext contextCall => exact .single (.setContext _)
  · rw [run_perform_of_not_isValid hvalid]
    exact .refl

theorem Sound.afterCall (h : s.Sound) (call : InstanceCall) : (s.afterCall env call).Sound :=
  h.moves (moves_afterCall h call)

theorem Sound.afterCalls (h : s.Sound) (calls : List InstanceCall) :
    (s.afterCalls env calls).Sound := by
  induction calls using List.reverseRecOn with
  | nil => exact h
  | append_singleton calls call ih =>
    rw [afterCalls_concat]
    exact ih.afterCall call

/-- What holds, and is kept by all moves between sound instances, holds after any calls. -/
theorem Sound.moves_induction (h : s.Sound) {I : OpenKitInstance → Prop} (hI : I s)
    (hmove : ∀ call s t, s.Sound → I s → Move env call s t → I t) (calls : List InstanceCall) :
    I (s.afterCalls env calls) := by
  induction calls using List.reverseRecOn with
  | nil => exact hI
  | append_singleton calls call ih =>
    rw [afterCalls_concat]
    have hsound : (s.afterCalls env calls).Sound := h.afterCalls calls
    have hall (t : OpenKitInstance) (hmoves : Moves env call (s.afterCalls env calls) t) : I t := by
      induction hmoves with
      | refl => exact ih
      | tail hmoves hlast ih' => exact hmove call _ _ (hsound.moves hmoves) ih' hlast
    exact hall _ (moves_afterCall hsound call)

section Run

variable (http : HTTPClientConfiguration) (provider : SessionIDProvider)

theorem sound_new : (new http provider env).Sound :=
  ⟨fun _ => ⟨⟨rfl, fun hfinished => nomatch hfinished⟩, fun htried => nomatch htried⟩,
    fun _ hp => absurd hp (Nat.not_lt_zero _)⟩

variable (env) in
/-- **Every instance that is reached is sound.** -/
theorem sound_afterCalls (calls : List InstanceCall) :
    ((new http provider env).afterCalls env calls).Sound :=
  (sound_new http provider).afterCalls calls

/-- What holds at first, and is kept by all moves between sound instances, holds after any calls. -/
theorem moves_induction {I : OpenKitInstance → Prop} (hnew : I (new http provider env))
    (hmove : ∀ call s t, s.Sound → I s → Move env call s t → I t) (calls : List InstanceCall) :
    I ((new http provider env).afterCalls env calls) :=
  (sound_new http provider).moves_induction hnew hmove calls

end Run

end OpenKitInstance

end OpenKit
