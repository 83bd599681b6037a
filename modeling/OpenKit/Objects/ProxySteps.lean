import OpenKit.Library.Outcome
import OpenKit.Objects.InstanceSteps

/-!
# What the operations of proxies do

Every operation of a proxy is a step of the instance, in which sessions are configured by their proxies
only. A null server configuration is met by no operation but the one that splits a session after a
crash; the others ask for it before.

## Main definitions

* `SessionProxies.Keeps unset`: the programs that are such a step, and that meet a null configuration
  only if `unset`

## Main results

* `keeps_enterAction`, `keeps_reportCrash` and so on: the operations of a proxy
* `keeps_executeWatchdog`: a round of the watchdog thread
-/

namespace OpenKit

open Thread OpenKitInstance

namespace SessionProxies

/-- A fault that is a null configuration only if there may be none. -/
def MayFail (unset : Prop) (fault : InstanceFault) : Prop :=
  fault = .nullServerConfiguration → unset

/-- The program is a step in which sessions are configured by their proxies only, and it meets a null
configuration only if `unset`. -/
def Keeps (unset : Prop) {α : Type} (body : InstanceProgram α) (s : OpenKitInstance) : Prop :=
  body.Within (InstanceStep fun _ => False) (MayFail unset) s

variable {unset : Prop} {α β : Type} {s : OpenKitInstance} {env : InstanceEnvironment}
  {caller : Caller} {p : ProxyRef} {k : SessionRef}

theorem keeps_ret (a : α) : Keeps unset (Program.ret a : InstanceProgram α) s := InstanceStep.refl s

theorem keeps_fail {fault : InstanceFault} (h : MayFail unset fault) :
    Keeps unset (Program.fail fault : InstanceProgram α) s := ⟨.refl s, h⟩

theorem Keeps.bind {body : InstanceProgram α} {g : α → InstanceProgram β} (h : Keeps unset body s)
    (hg : ∀ a t, InstanceStep (fun _ => False) s t → Keeps unset (g a) t) :
    Keeps unset (body >>= g) s :=
  Program.Within.bind (fun _ _ _ => .trans) h hg

/-- A sequence whose first part leaves something behind. -/
theorem Keeps.bind_of {body : InstanceProgram α} {Q : α → OpenKitInstance → Prop}
    {g : α → InstanceProgram β} (h : Keeps unset body s)
    (hQ : body.Ends Q (fun _ _ => True) s)
    (hg : ∀ a t, InstanceStep (fun _ => False) s t → Q a t → Keeps unset (g a) t) :
    Keeps unset (body >>= g) s :=
  Program.Within.bind_of (fun _ _ _ => .trans) h hQ hg

theorem keeps_read_bind {f : OpenKitInstance → α} {g : α → InstanceProgram β}
    (h : Keeps unset (g (f s)) s) : Keeps unset (Program.read f >>= g) s := h

theorem keeps_atomic_bind {f : OpenKitInstance → α × OpenKitInstance} {g : α → InstanceProgram β}
    (h : InstanceStep (fun _ => False) s (f s).2) (hg : Keeps unset (g (f s).1) (f s).2) :
    Keeps unset (Program.atomic f >>= g) s :=
  Program.within_atomic_bind (fun _ _ _ => .trans) h hg

theorem keeps_write_bind {f : OpenKitInstance → OpenKitInstance} {g : Unit → InstanceProgram β}
    (h : InstanceStep (fun _ => False) s (f s)) (hg : Keeps unset (g ()) (f s)) :
    Keeps unset (Program.write f >>= g) s :=
  keeps_atomic_bind h hg

theorem keeps_write {f : OpenKitInstance → OpenKitInstance}
    (h : InstanceStep (fun _ => False) s (f s)) :
    Keeps unset (Program.write f : InstanceProgram Unit) s := h

theorem keeps_provideTimestampInMilliseconds :
    Keeps unset (provideTimestampInMilliseconds env) s :=
  Program.within_atomic (InstanceStep.of_same rfl rfl rfl)

theorem keeps_drawNumbers : Keeps unset (drawNumbers env) s :=
  Program.within_atomic (InstanceStep.of_same rfl rfl rfl)

/-- A program on a session. -/
theorem keeps_onSession {body : Reporter α}
    (h : Program.Guarantees (CallStepOf (· ≠ .sessionStart)) body) :
    Keeps unset (onSession k body) s := by
  refine keeps_atomic_bind (instanceStep_afterReport (h.run CallStepOf.refl
    (fun _ _ _ => CallStepOf.trans) rfl)) ?_
  dsimp only
  split
  · exact keeps_ret _
  · exact keeps_fail (fun hfault => nomatch hfault)

theorem keeps_perform (call : SessionCall) :
    Keeps unset (onSession k (SessionCalls.perform caller call)) s :=
  keeps_onSession (SessionCalls.guarantees_perform (fun _ h => h) call)

theorem keeps_endWith (sendSessionEndEvent : Bool) :
    Keeps unset (onSession k (SessionCalls.endWith caller sendSessionEndEvent)) s :=
  keeps_onSession (SessionCalls.guarantees_endWith (by decide) (by decide) fun _ => by decide)

theorem keeps_forwardTo (call : SessionCall) : Keeps unset (forwardTo p caller k call) s :=
  keeps_write_bind (.of_same rfl rfl rfl) (keeps_perform call)

/-! ## Pointers -/

theorem keeps_serverConfiguration_bind {g : ServerConfiguration → InstanceProgram β}
    (hunset : (s.proxy p).serverConfiguration = none → unset)
    (hg : ∀ c, (s.proxy p).serverConfiguration = some c → Keeps unset (g c.get) s) :
    Keeps unset (serverConfiguration p >>= g) s := by
  rw [serverConfiguration, bind_assoc]
  refine keeps_read_bind ?_
  rcases hconfig : (s.proxy p).serverConfiguration with _ | c
  · exact keeps_fail fun _ => hunset hconfig
  · exact hg c hconfig

theorem keeps_currentSession_bind {g : SessionRef → InstanceProgram β}
    (hg : ∀ k, Keeps unset (g k) s) : Keeps unset (currentSession p >>= g) s := by
  rw [currentSession, bind_assoc]
  refine keeps_read_bind ?_
  rcases hcurrent : (s.proxy p).currentSession with _ | k
  · exact keeps_fail (fun hfault => nomatch hfault)
  · exact hg k

theorem keeps_currentSession : Keeps unset (currentSession p) s := by
  rw [← bind_pure (currentSession p)]
  exact keeps_currentSession_bind fun k => keeps_ret k

/-! ## New sessions -/

/-- A change of a proxy that says nothing about its server id, configuration, state and session. -/
theorem keeps_updateProxy {f : SessionProxy → SessionProxy}
    (h : ∀ proxy : SessionProxy, proxy.Evolves (f proxy)) :
    Keeps unset (Program.write fun s => s.updateProxy p f : InstanceProgram Unit) s :=
  keeps_write (instanceStep_updateProxy (h _))

/-- **A new session** is configured by its proxy, if at all. -/
theorem keeps_createAndAssignCurrentSession (hps : p < s.proxies.size)
    {initialServerConfig updatedServerConfig : Option ServerConfigurationRef}
    (hupdated : ∀ c, updatedServerConfig = some c → (s.proxy p).serverConfiguration = some c) :
    Keeps unset (createAndAssignCurrentSession env p initialServerConfig updatedServerConfig) s := by
  refine keeps_provideTimestampInMilliseconds.bind fun sessionStartTime t ht => ?_
  have hp : p < t.proxies.size := ht.proxies_size_eq ▸ hps
  -- the session is made without a configuration
  refine Keeps.bind_of (Q := fun k u => u.Fresh p k)
    (Program.within_atomic
      (.remember (instanceStep_newSession hp (.of_same rfl rfl rfl rfl) rfl rfl rfl) _))
    ⟨?_, ?_⟩ fun k u hu hfresh => ?_
  · show ((t.sessions.alloc _).get t.sessions.size).parent = p
    rw [Heap.get_alloc_size]
    rfl
  · show ((t.sessions.alloc _).get t.sessions.size).session.isConfigured = false
    rw [Heap.get_alloc_size]
    rfl
  refine Keeps.bind_of (Q := fun _ v => v.Fresh p k) (keeps_write (instanceStep_updateProxy_of_same
    (fun _ => rfl) (fun _ => rfl) (fun _ => rfl) fun _ => rfl))
    ⟨hfresh.parent, hfresh.isConfigured⟩ fun _ v hv hfresh => ?_
  refine Keeps.bind_of (Q := fun _ w => w.Fresh p k)
    (keeps_write (instanceStep_configure (·.evolves_initializeServerConfiguration _)
      fun c hset => .inl ?_))
    (hfresh.configure (·.isServerConfigurationSet_initializeServerConfiguration _))
    fun _ w hw hfresh => ?_
  · rwa [c.isServerConfigurationSet_initializeServerConfiguration] at hset
  have hstep : InstanceStep (fun _ => False) s w := ht.trans (hu.trans (hv.trans hw))
  refine Keeps.bind (keeps_write ?_) fun _ x _ => ?_
  · rcases hconfig : updatedServerConfig with _ | config
    · exact instanceStep_configure (·.evolves_updateServerConfiguration _) fun c hset => .inl hset
    · -- the proxy has this configuration, up to what is not kept for life
      obtain ⟨c, hc, hsame⟩ := (hstep.proxy p hps).serverConfiguration config (hupdated config hconfig)
      refine InstanceStep.of_inherits (instanceStep_configure
        (·.evolves_updateServerConfiguration _) fun _ _ => .inr rfl) ?_
      exact inherits_configure hfresh (hstep.proxies_size_eq ▸ hps) hc hsame.serverId
  refine Keeps.bind (keeps_updateProxy fun proxy => ?_) fun _ y _ => ?_
  · exact ⟨rfl, fun c hc => ⟨c, hc, .refl _⟩, id, fun _ => .inr rfl⟩
  · exact keeps_write (.of_same rfl rfl rfl)

/-- The program makes a current session. -/
theorem ends_createAndAssignCurrentSession
    (initialServerConfig updatedServerConfig : Option ServerConfigurationRef) :
    (createAndAssignCurrentSession env p initialServerConfig updatedServerConfig).Ends
      (fun _ t => (t.proxy p).currentSession.isSome = true) (fun _ _ => False) s := by
  refine (Program.returns_atomic _).ends_bind fun sessionStartTime _ => ?_
  refine (Program.returns_atomic _).ends_bind fun k _ => ?_
  refine (Program.returns_atomic _).ends_bind fun _ _ => ?_
  refine (Program.returns_atomic _).ends_bind fun _ _ => ?_
  refine (Program.returns_atomic _).ends_bind fun _ t => ?_
  show ((t.updateProxy p fun proxy =>
    { proxy with currentSession := some k }).proxy p).currentSession.isSome = true
  rw [proxy_updateProxy_self]
  rfl

theorem keeps_reTagCurrentSession : Keeps unset (reTagCurrentSession p caller) s := by
  refine keeps_read_bind ?_
  split
  · exact keeps_ret ()
  · exact keeps_currentSession_bind fun k =>
      keeps_write_bind (.of_same rfl rfl rfl) (keeps_perform _)

theorem keeps_createInitialSessionAndMakeCurrent (hp : p < s.proxies.size) :
    Keeps unset (createInitialSessionAndMakeCurrent env p) s :=
  keeps_read_bind (keeps_createAndAssignCurrentSession hp fun c hc => by cases hc)

theorem keeps_createSplitSessionAndMakeCurrent (hp : p < s.proxies.size)
    {updatedServerConfig : Option ServerConfigurationRef}
    (hupdated : ∀ c, updatedServerConfig = some c → (s.proxy p).serverConfiguration = some c) :
    Keeps unset (createSplitSessionAndMakeCurrent env p caller updatedServerConfig) s :=
  (keeps_createAndAssignCurrentSession hp hupdated).bind fun _ _ _ => keeps_reTagCurrentSession

/-! ## Splitting -/

theorem keeps_closeOrEnqueueForClosing (closeGracePeriodInMillis : ℤ) :
    Keeps unset (closeOrEnqueueForClosing env caller k closeGracePeriodInMillis) s := by
  refine Keeps.bind (keeps_onSession
    (SessionCalls.guarantees_tryEnd (by decide) (by decide))) fun ended t _ => ?_
  split
  · exact keeps_ret ()
  · refine keeps_provideTimestampInMilliseconds.bind fun now u _ => keeps_write ?_
    let f (o : SessionObject) : SessionObject :=
      { o with splitByEventsGracePeriodEndTimeInMillis := now + closeGracePeriodInMillis }
    exact .of_session (f := f) rfl rfl ⟨rfl, rfl, .refl _⟩ .inl
      ⟨[], (List.append_nil _).symm, List.forall_mem_nil _⟩

theorem keeps_closeOrEnqueueCurrentSessionForClosing
    (hunset : (s.proxy p).serverConfiguration = none → unset) :
    Keeps unset (closeOrEnqueueCurrentSessionForClosing env p caller) s := by
  refine keeps_serverConfiguration_bind hunset fun config _ => ?_
  exact keeps_currentSession_bind fun k => keeps_closeOrEnqueueForClosing _

theorem keeps_splitAndCreateNewInitialSession (hp : p < s.proxies.size)
    (hunset : (s.proxy p).serverConfiguration = none → unset) :
    Keeps unset (splitAndCreateNewInitialSession env p caller) s := by
  refine (keeps_closeOrEnqueueCurrentSessionForClosing hunset).bind fun _ t ht => ?_
  refine keeps_drawNumbers.bind fun ⟨sessionId, randomNumberGenerator⟩ u hu => ?_
  refine Keeps.bind (keeps_write (.remember (instanceStep_updateProxy ?_) _)) fun _ v hv => ?_
  · exact .of_same rfl rfl rfl rfl
  have hp : p < v.proxies.size := (ht.trans (hu.trans hv)).proxies_size_eq ▸ hp
  refine keeps_read_bind ?_
  exact (keeps_createAndAssignCurrentSession hp fun c hc => by cases hc).bind fun _ _ _ =>
    keeps_reTagCurrentSession

/-- A proxy without a configuration does not split its session after a number of events. -/
theorem keeps_isSessionSplitByEventsRequired_bind {g : Bool → InstanceProgram β}
    (hg : ∀ required, (required = true → (s.proxy p).serverConfiguration ≠ none) →
      Keeps unset (g required) s) :
    Keeps unset (isSessionSplitByEventsRequired p >>= g) s := by
  rw [isSessionSplitByEventsRequired, bind_assoc]
  refine keeps_read_bind ?_
  rcases hconfig : (s.proxy p).serverConfiguration with _ | c
  · exact hg false fun h => absurd h Bool.false_ne_true
  · have hsome : (s.proxy p).serverConfiguration ≠ none := by simp [hconfig]
    dsimp only
    rw [bind_assoc]
    refine keeps_serverConfiguration_bind (fun hnone => absurd hnone hsome) fun config _ => ?_
    split
    · exact hg false fun h => absurd h Bool.false_ne_true
    · exact keeps_read_bind (hg _ fun _ => hsome)

theorem keeps_getOrSplitCurrentSessionByEvents (hp : p < s.proxies.size) :
    Keeps unset (getOrSplitCurrentSessionByEvents env p caller) s := by
  refine keeps_isSessionSplitByEventsRequired_bind fun required hsome => ?_
  split
  next hrequired =>
    refine (keeps_closeOrEnqueueCurrentSessionForClosing
      fun hnone => absurd hnone (hsome hrequired)).bind fun _ t ht => ?_
    have hp : p < t.proxies.size := ht.proxies_size_eq ▸ hp
    refine keeps_read_bind ?_
    exact (keeps_createSplitSessionAndMakeCurrent hp fun c hc => hc).bind fun _ _ _ =>
      keeps_currentSession
  next => exact keeps_currentSession

/-! ## The operations -/

theorem keeps_recordTopLevelEventInteraction :
    Keeps unset (recordTopLevelEventInteraction env p) s :=
  keeps_provideTimestampInMilliseconds.bind fun _ _ _ =>
    keeps_updateProxy fun _ => .of_same rfl rfl rfl rfl

theorem keeps_recordTopLevelActionEvent : Keeps unset (recordTopLevelActionEvent env p) s := by
  refine Keeps.bind (keeps_updateProxy ?_) fun _ _ _ => keeps_recordTopLevelEventInteraction
  exact fun proxy => .of_same rfl rfl rfl rfl

theorem keeps_whenUnfinished {body : InstanceProgram Unit}
    (h : (s.proxy p).isFinished = false → Keeps unset body s) :
    Keeps unset (whenUnfinished p body) s := by
  refine keeps_read_bind ?_
  split
  next => exact keeps_ret ()
  next hfinished => exact h (Bool.not_eq_true _ ▸ hfinished)

theorem keeps_enterAction (hp : p < s.proxies.size) (name : UTF8String) :
    Keeps unset (enterAction env p caller name) s := by
  rw [enterAction]
  split
  · exact keeps_ret ()
  · refine keeps_whenUnfinished fun _ => ?_
    refine (keeps_getOrSplitCurrentSessionByEvents hp).bind fun k t _ => keeps_read_bind ?_
    refine Keeps.bind ?_ fun _ u _ => keeps_forwardTo _
    split
    · exact keeps_recordTopLevelActionEvent
    · exact keeps_recordTopLevelEventInteraction

theorem keeps_forward (hp : p < s.proxies.size) (call : SessionCall) :
    Keeps unset (forward env p caller call) s := by
  refine (keeps_getOrSplitCurrentSessionByEvents hp).bind fun k t _ => ?_
  exact keeps_recordTopLevelEventInteraction.bind fun _ u _ => keeps_forwardTo call

theorem keeps_identifyUser (hp : p < s.proxies.size) (userTag : UTF8String) :
    Keeps unset (identifyUser env p caller userTag) s :=
  keeps_whenUnfinished fun _ => (keeps_forward hp _).bind fun _ _ _ =>
    keeps_updateProxy fun _ => .of_same rfl rfl rfl rfl

/-- A crash splits the session, and meets a null configuration if the proxy has none. -/
theorem keeps_reportCrash (hp : p < s.proxies.size) {errorName : UTF8String}
    (hunset : errorName.isEmpty = false → (s.proxy p).isFinished = false →
      (s.proxy p).serverConfiguration = none → unset) (reason stacktrace : UTF8String) :
    Keeps unset (reportCrash env p caller errorName reason stacktrace) s := by
  rw [reportCrash]
  split
  next => exact keeps_ret ()
  next hname =>
    refine keeps_whenUnfinished fun hfinished => (keeps_forward hp _).bind fun _ t ht => ?_
    refine keeps_splitAndCreateNewInitialSession (ht.proxies_size_eq ▸ hp) fun hnone => ?_
    exact hunset (Bool.not_eq_true _ ▸ hname) hfinished
      ((ht.proxy p hp).serverConfiguration_eq_none hnone)

/-- A call that is forwarded if its argument is not empty. -/
theorem keeps_forwardUnlessEmpty (hp : p < s.proxies.size) (text : UTF8String)
    (call : SessionCall) :
    Keeps unset (if text.isEmpty then return () else whenUnfinished p (forward env p caller call))
      s := by
  split
  · exact keeps_ret ()
  · exact keeps_whenUnfinished fun _ => keeps_forward hp call

theorem keeps_endSessions (ks : List SessionRef) : Keeps unset (endSessions p caller ks) s := by
  induction ks generalizing s with
  | nil => exact keeps_ret ()
  | cons k ks ih => exact keeps_read_bind ((keeps_endWith _).bind fun _ _ _ => ih)

/-- The proxy is finished before its current session is given up. -/
theorem keeps_endProxy (hp : p < s.proxies.size) : Keeps unset (endProxy p caller) s := by
  refine keeps_whenUnfinished fun _ => ?_
  refine Keeps.bind_of (Q := fun _ t => (t.proxy p).isFinished = true)
    (keeps_updateProxy fun proxy => ⟨rfl, fun c hc => ⟨c, hc, .refl _⟩, fun _ => rfl,
      fun _ => .inl rfl⟩) ?_ fun _ t ht hfinished => ?_
  · show SessionProxy.isFinished (OpenKitInstance.proxy _ p) = true
    rw [proxy_updateProxy_self]
  refine keeps_read_bind ((keeps_endSessions _).bind fun _ u hu => ?_)
  refine keeps_write_bind (.of_same rfl rfl rfl) (keeps_write (instanceStep_updateProxy ?_))
  have hp : p < t.proxies.size := ht.proxies_size_eq ▸ hp
  exact ⟨rfl, fun c hc => ⟨c, hc, .refl _⟩, id,
    fun _ => .inl ((hu.proxy p hp).isFinished hfinished)⟩

/-- Without a configuration there is no time to split at. -/
theorem keeps_calculateNextSplitTime_bind {g : ℤ → InstanceProgram β}
    (hg : ∀ nextSplitTime, (0 ≤ nextSplitTime → (s.proxy p).serverConfiguration ≠ none) →
      Keeps unset (g nextSplitTime) s) :
    Keeps unset (calculateNextSplitTime p >>= g) s := by
  rw [calculateNextSplitTime, bind_assoc]
  refine keeps_read_bind ?_
  rcases hconfig : (s.proxy p).serverConfiguration with _ | c
  · exact hg (-1) fun h => absurd h (by decide)
  · have hsome : (s.proxy p).serverConfiguration ≠ none := by simp [hconfig]
    dsimp only
    rw [bind_assoc]
    refine keeps_serverConfiguration_bind (fun hnone => absurd hnone hsome) fun config _ => ?_
    rw [bind_assoc]
    refine keeps_read_bind ?_
    rw [bind_assoc]
    refine keeps_currentSession_bind fun k => ?_
    rw [bind_assoc]
    refine keeps_read_bind ?_
    split
    · split
      · exact hg _ fun _ => hsome
      · exact hg _ fun _ => hsome
    · split
      · exact hg _ fun _ => hsome
      · exact hg _ fun _ => hsome

theorem keeps_splitSessionByTime (hp : p < s.proxies.size) :
    Keeps unset (splitSessionByTime env p caller) s := by
  refine keeps_read_bind ?_
  split
  · exact keeps_ret _
  · refine keeps_calculateNextSplitTime_bind fun nextSplitTime hsome => ?_
    refine keeps_provideTimestampInMilliseconds.bind fun now t ht => ?_
    split
    · exact keeps_ret _
    next hlate =>
      rw [not_or, not_lt, not_lt] at hlate
      have hp' : p < t.proxies.size := ht.proxies_size_eq ▸ hp
      refine Keeps.bind (keeps_splitAndCreateNewInitialSession hp' fun hnone =>
        absurd ((ht.proxy p hp).serverConfiguration_eq_none hnone) (hsome hlate.1)) fun _ u _ => ?_
      rw [← bind_pure (calculateNextSplitTime p)]
      exact keeps_calculateNextSplitTime_bind fun _ _ => keeps_ret _

/-! ## The watchdog -/

/-- A loop over a list that carries something along. -/
theorem keeps_foldlM {γ : Type} {f : β → γ → InstanceProgram β} {xs : List γ} (b : β)
    (hf : ∀ b x, x ∈ xs → ∀ t, InstanceStep (fun _ => False) s t → Keeps unset (f b x) t) :
    Keeps unset (xs.foldlM f b) s := by
  induction xs generalizing b s with
  | nil => exact keeps_ret b
  | cons x xs ih =>
    rw [List.foldlM_cons]
    refine Keeps.bind (hf b x List.mem_cons_self s (.refl s)) fun b' t ht => ih b' ?_
    exact fun b'' y hy u hu => hf b'' y (List.mem_cons_of_mem x hy) u (ht.trans hu)

theorem keeps_forM {γ : Type} {f : γ → InstanceProgram Unit} {xs : List γ}
    (hf : ∀ x t, Keeps unset (f x) t) : Keeps unset (xs.forM f) s := by
  induction xs generalizing s with
  | nil => exact keeps_ret ()
  | cons x xs ih => exact (hf x s).bind fun _ _ _ => ih

theorem keeps_closeExpiredSession : Keeps unset (closeExpiredSession caller k) s :=
  keeps_write_bind (.of_same rfl rfl rfl) (keeps_endWith false)

theorem keeps_closeExpiredSessions : Keeps unset (closeExpiredSessions env caller) s := by
  refine keeps_read_bind (Keeps.bind (keeps_foldlM _ fun found k _ t _ => ?_) fun closable t _ => ?_)
  · refine keeps_provideTimestampInMilliseconds.bind fun now u _ => keeps_read_bind ?_
    split
    · exact keeps_ret _
    · exact keeps_ret _
  · exact (keeps_forM fun k u => keeps_closeExpiredSession).bind fun _ _ _ => keeps_ret _

/-- The proxies that are to be split have been made. -/
theorem keeps_splitTimedOutSessions
    (hmade : ∀ p ∈ s.watchdog.sessionsToSplitByTimeout, p < s.proxies.size) :
    Keeps unset (splitTimedOutSessions env caller) s := by
  refine keeps_read_bind (Keeps.bind (keeps_foldlM _ fun found p hp t ht => ?_)
    fun ⟨toRemove, sleepTime⟩ t _ => ?_)
  · have hsize : p < t.proxies.size := (hmade p hp).trans_le ht.proxies_size
    refine (keeps_splitSessionByTime hsize).bind fun nextSessionSplit u _ => ?_
    split
    · exact keeps_ret _
    · refine keeps_provideTimestampInMilliseconds.bind fun now v _ => ?_
      dsimp only
      split
      · exact keeps_ret _
      · exact keeps_ret _
  · refine Keeps.bind (keeps_forM fun p u => ?_) fun _ _ _ => keeps_ret _
    exact keeps_write (.of_same rfl rfl rfl)

/-- Closing sessions does not change which proxies are to be split. -/
def SameSplits (s s' : OpenKitInstance) : Prop :=
  s'.watchdog.sessionsToSplitByTimeout = s.watchdog.sessionsToSplitByTimeout

theorem sameSplits_afterReport (k : SessionRef) (r : Reporting) :
    SameSplits s (s.afterReport k r) := by
  rw [SameSplits, afterReport]
  split
  · rfl
  · rfl

theorem guarantees_sameSplits_onSession (body : Reporter α) :
    Program.Guarantees SameSplits (onSession k body) := by
  refine (Program.guarantees_atomic fun s => sameSplits_afterReport k _).bind fun result => ?_
  split
  · trivial
  · trivial

theorem guarantees_sameSplits_closeExpiredSessions :
    Program.Guarantees SameSplits (closeExpiredSessions env caller) := by
  have hread {γ : Type} (f : OpenKitInstance → γ) :
      Program.Guarantees SameSplits (Program.read f : InstanceProgram γ) :=
    Program.guarantees_atomic fun _ => rfl
  refine (hread _).bind fun all => ?_
  refine (Program.guarantees_foldlM (fun found k => ?_) all _).bind fun ⟨closable, _⟩ => ?_
  · refine Program.Guarantees.bind (Program.guarantees_atomic fun _ => rfl) fun now => ?_
    refine (hread _).bind fun gracePeriodEnd => ?_
    split
    · trivial
    · trivial
  · refine (Program.guarantees_forM (fun k => ?_) closable).bind fun _ => trivial
    refine Program.Guarantees.bind (Program.guarantees_atomic fun _ => rfl) fun _ => ?_
    exact guarantees_sameSplits_onSession _

theorem keeps_executeWatchdog
    (hmade : ∀ p ∈ s.watchdog.sessionsToSplitByTimeout, p < s.proxies.size) :
    Keeps unset (executeWatchdog env caller) s := by
  have hsame : (closeExpiredSessions env caller).Ends (fun _ t => SameSplits s t)
      (fun _ _ => True) s :=
    (guarantees_sameSplits_closeExpiredSessions.ends (fun _ => rfl) fun _ _ _ h h' =>
      h'.trans h).mono (fun _ _ => id) fun _ _ _ => trivial
  refine Keeps.bind_of keeps_closeExpiredSessions hsame fun sleepTime t ht hsplits => ?_
  refine (keeps_splitTimedOutSessions fun p hp => ?_).bind fun _ _ _ => keeps_ret _
  rw [hsplits] at hp
  exact (hmade p hp).trans_le ht.proxies_size

end SessionProxies

end OpenKit
