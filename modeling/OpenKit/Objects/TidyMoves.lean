import OpenKit.Objects.SessionPlaces

/-!
# Moves keep sessions in their places

Each session has a place, for the current sessions that the proxies have. A split hands the place of the
current session on, the end of a proxy finishes all its sessions, and the watchdog takes a session that it
ends out of its queue.

## Main definitions

* `OpenKitInstance.Tidy`: all sessions have a place, and nothing is left of proxies that were ended
* `OpenKitInstance.TidyBut`: the same, but for the current session of a proxy that is being split

## Main results

* `Tidy.move`: moves keep an instance tidy
-/

namespace OpenKit

open Thread SessionProxies

namespace OpenKitInstance

variable {env : InstanceEnvironment} {caller : Caller} {s t u : OpenKitInstance} {p q : ProxyRef}
  {j k : SessionRef}

/-! ## Tidy instances -/

/-- The current session of a proxy that has been made. -/
def currentOf (s : OpenKitInstance) (p : ProxyRef) : Option SessionRef :=
  if p < s.proxies.size then (s.proxy p).currentSession else none

/-- The queue of the proxies that are split by timeout. -/
structure TidySplits (s : OpenKitInstance) : Prop where
  queued : ∀ p ∈ s.watchdog.sessionsToSplitByTimeout, p < s.proxies.size ∧
    (s.proxy p).isFinished = false ∧ (s.proxy p).serverConfiguration ≠ none
  nodup : s.watchdog.sessionsToSplitByTimeout.Nodup

/-- A proxy that was ended has no session to work on. -/
structure Done (s : OpenKitInstance) (p : ProxyRef) : Prop where
  currentSession : (s.proxy p).currentSession = none
  isDone : ∀ k < s.sessions.size, (s.session k).parent = p → s.IsDone k

/-- All sessions have a place, and nothing is left of proxies that were ended. -/
structure Tidy (s : OpenKitInstance) : Prop where
  sessions : TidyAs s.currentOf s
  splits : TidySplits s
  done : ∀ p < s.proxies.size, (s.proxy p).isFinished = true → Done s p

theorem currentOf_of_lt (hp : p < s.proxies.size) : s.currentOf p = (s.proxy p).currentSession :=
  if_pos hp

theorem currentOf_congr (hsize : t.proxies.size = s.proxies.size)
    (hcurrent : ∀ q, (t.proxy q).currentSession = (s.proxy q).currentSession) :
    t.currentOf = s.currentOf := by
  funext q
  rw [currentOf, currentOf, hsize, hcurrent]

/-- Nothing of what the watchdog splits has changed. -/
theorem TidySplits.congr (h : TidySplits s) (hsize : t.proxies.size = s.proxies.size)
    (hfinished : ∀ q, (t.proxy q).isFinished = (s.proxy q).isFinished)
    (hconfig : ∀ q, (s.proxy q).serverConfiguration ≠ none → (t.proxy q).serverConfiguration ≠ none)
    (hsplits : t.watchdog.sessionsToSplitByTimeout = s.watchdog.sessionsToSplitByTimeout) :
    TidySplits t := by
  refine ⟨fun q hq => ?_, ?_⟩
  · rw [hsplits] at hq
    obtain ⟨hmade, hunfinished, hsome⟩ := h.queued q hq
    exact ⟨hsize ▸ hmade, (hfinished q).trans hunfinished, hconfig q hsome⟩
  · rw [hsplits]
    exact h.nodup

/-- A proxy without a configuration is not in the queue yet. -/
theorem TidySplits.add (h : TidySplits s) (hsize : t.proxies.size = s.proxies.size)
    (hp : p < s.proxies.size) (hfinished : ∀ q, (t.proxy q).isFinished = (s.proxy q).isFinished)
    (hconfig : ∀ q, (s.proxy q).serverConfiguration ≠ none → (t.proxy q).serverConfiguration ≠ none)
    (hsplits : t.watchdog.sessionsToSplitByTimeout = s.watchdog.sessionsToSplitByTimeout ∨
      t.watchdog.sessionsToSplitByTimeout = s.watchdog.sessionsToSplitByTimeout ++ [p] ∧
        (s.proxy p).serverConfiguration = none ∧ (t.proxy p).serverConfiguration ≠ none ∧
        (s.proxy p).isFinished = false) : TidySplits t := by
  rcases hsplits with hsplits | ⟨hsplits, hnone, hsome, hunfinished⟩
  · exact h.congr hsize hfinished hconfig hsplits
  · refine ⟨fun q hq => ?_, ?_⟩
    · rw [hsplits] at hq
      rcases List.mem_append.mp hq with hold | hnew
      · obtain ⟨hmade, hunfinished, hsome⟩ := h.queued q hold
        exact ⟨hsize ▸ hmade, (hfinished q).trans hunfinished, hconfig q hsome⟩
      · obtain rfl := List.mem_singleton.mp hnew
        exact ⟨hsize ▸ hp, (hfinished q).trans hunfinished, hsome⟩
    · rw [hsplits]
      refine List.nodup_append.mpr ⟨h.nodup, List.nodup_singleton p, ?_⟩
      rintro a ha b hb rfl
      obtain rfl := List.mem_singleton.mp hb
      exact (h.queued _ ha).2.2 hnone

theorem TidySplits.remove (h : TidySplits s) : TidySplits (s.removeFromSplitByTimeout p) :=
  ⟨fun q hq => h.queued q (List.mem_of_mem_erase hq), h.nodup.erase p⟩

/-- Sessions that are done stay so. -/
theorem CallRun.isDone (h : CallRun k s t) (hdone : s.IsDone j) : t.IsDone j := by
  by_cases hj : j = k
  · subst hj
    exact h.isSessionFinished hdone
  · rw [IsDone, h.session_of_ne j hj]
    exact hdone

theorem ConfigureRun.isDone (h : s.ConfigureRun k t) (hdone : s.IsDone j) : t.IsDone j := by
  by_cases hj : j = k
  · subst hj
    obtain ⟨c, hsession, -⟩ := h.session
    rw [IsDone, hsession]
    exact hdone
  · rw [IsDone, h.session_of_ne j hj]
    exact hdone

theorem Done.callRun (h : Done s p) (hrun : CallRun k s t) : Done t p := by
  refine ⟨(hrun.currentSession p).trans h.currentSession, fun j hj hparent => ?_⟩
  rw [hrun.sessions_size] at hj
  rw [hrun.parent] at hparent
  exact hrun.isDone (h.isDone j hj hparent)

namespace Tidy

/-- Only what is read counts. -/
theorem congr (h : Tidy s) (hsize : t.proxies.size = s.proxies.size)
    (hchildren : ∀ q, (t.proxy q).children = (s.proxy q).children)
    (hcurrent : ∀ q, (t.proxy q).currentSession = (s.proxy q).currentSession)
    (hfinished : ∀ q, (t.proxy q).isFinished = (s.proxy q).isFinished)
    (hconfig : ∀ q, (t.proxy q).serverConfiguration = (s.proxy q).serverConfiguration)
    (hsessions : t.sessions = s.sessions) (hwatchdog : t.watchdog = s.watchdog) : Tidy t := by
  refine ⟨?_, ?_, fun q hq hended => ?_⟩
  · rw [currentOf_congr hsize hcurrent]
    exact h.sessions.congr hsize hchildren hsessions (congrArg _ hwatchdog)
  · refine h.splits.congr hsize hfinished (fun q hsome => ?_) (congrArg _ hwatchdog)
    rw [hconfig]
    exact hsome
  · rw [hsize] at hq
    rw [hfinished] at hended
    have hdone := h.done q hq hended
    have hsession (k : SessionRef) : t.session k = s.session k := by
      rw [session, hsessions]
      rfl
    refine ⟨(hcurrent q).trans hdone.currentSession, fun k hk hparent => ?_⟩
    rw [hsessions] at hk
    rw [hsession] at hparent
    rw [IsDone, hsession]
    exact hdone.isDone k hk hparent

/-- A change of a proxy that the places do not depend on. -/
theorem updateProxy (h : Tidy s) {f : SessionProxy → SessionProxy}
    (hchildren : ∀ proxy, (f proxy).children = proxy.children)
    (hcurrent : ∀ proxy, (f proxy).currentSession = proxy.currentSession)
    (hfinished : ∀ proxy, (f proxy).isFinished = proxy.isFinished)
    (hconfig : ∀ proxy, (f proxy).serverConfiguration = proxy.serverConfiguration) :
    Tidy (s.updateProxy p f) := by
  have hfield {α : Type} (field : SessionProxy → α) (hf : ∀ proxy, field (f proxy) = field proxy)
      (q : ProxyRef) : field ((s.updateProxy p f).proxy q) = field (s.proxy q) := by
    by_cases hq : q = p
    · subst hq
      rw [proxy_updateProxy_self, hf]
    · rw [proxy_updateProxy_of_ne hq]
  exact h.congr rfl (hfield _ hchildren) (hfield _ hcurrent) (hfield _ hfinished)
    (hfield _ hconfig) rfl rfl

/-- **Calls on a session.** -/
theorem callRun (h : Tidy s) (hk : k < s.sessions.size) (hrun : CallRun k s t) : Tidy t := by
  refine ⟨?_, ?_, fun q hq hended => ?_⟩
  · rw [currentOf_congr hrun.proxies_size hrun.currentSession]
    exact h.sessions.callRun hk hrun
  · refine h.splits.congr hrun.proxies_size hrun.isFinished (fun q hsome => ?_)
      hrun.sessionsToSplitByTimeout
    rw [hrun.serverConfiguration]
    exact hsome
  · rw [hrun.proxies_size] at hq
    rw [hrun.isFinished] at hended
    exact (h.done q hq hended).callRun hrun

theorem perform (h : Tidy s) (hsound : s.Sound) (hk : k < s.sessions.size) (call : SessionCall) :
    Tidy (s.ranOn k (SessionCalls.perform caller call)) := h.callRun hk (callRun_perform hsound call)

theorem endWith (h : Tidy s) (hsound : s.Sound) (hk : k < s.sessions.size)
    (sendSessionEndEvent : Bool) :
    Tidy (s.ranOn k (SessionCalls.endWith caller sendSessionEndEvent)) :=
  h.callRun hk (callRun_endWith hsound sendSessionEndEvent)

/-- The current session of a proxy in use has been made. -/
theorem lt_of_inUse (h : Tidy s) (huse : s.InUse p k) : k < s.sessions.size :=
  (h.sessions.currentSession p k ((currentOf_of_lt huse.made).trans huse.currentSession)).1

/-- A change of the configuration of a session, and of its proxy. -/
theorem configure (h : Tidy s) (hk : k < s.sessions.size) (hconfigure : s.ConfigureRun k t) :
    Tidy t := by
  have hcurrent (q : ProxyRef) : (t.proxy q).currentSession = (s.proxy q).currentSession := by
    obtain ⟨c, hproxy⟩ := (hconfigure.proxy q).eq
    rw [hproxy]
  refine ⟨?_, ?_, fun q hq hended => ?_⟩
  · rw [currentOf_congr hconfigure.proxies_size hcurrent]
    exact h.sessions.configure hconfigure
  · exact h.splits.add hconfigure.proxies_size (h.sessions.parent k hk) hconfigure.isFinished
      (fun q => hconfigure.serverConfiguration_ne_none) hconfigure.sessionsToSplitByTimeout
  · rw [hconfigure.proxies_size] at hq
    rw [hconfigure.isFinished] at hended
    have hdone := h.done q hq hended
    refine ⟨(hcurrent q).trans hdone.currentSession, fun j hj hparent => ?_⟩
    rw [hconfigure.sessions_size] at hj
    rw [hconfigure.parent] at hparent
    exact hconfigure.isDone (hdone.isDone j hj hparent)

theorem interacted (h : Tidy s) : Tidy (s.interacted env p) := by
  have hread : Tidy { s with numReads := s.numReads + 1 } :=
    h.congr rfl (fun _ => rfl) (fun _ => rfl) (fun _ => rfl) (fun _ => rfl) rfl rfl
  exact hread.updateProxy (fun _ => rfl) (fun _ => rfl) (fun _ => rfl) fun _ => rfl

theorem counted (h : Tidy s) : Tidy (s.counted p) :=
  h.updateProxy (fun _ => rfl) (fun _ => rfl) (fun _ => rfl) fun _ => rfl

theorem remember (h : Tidy s) (event : InstanceEvent) : Tidy (s.remember event) :=
  h.congr rfl (fun _ => rfl) (fun _ => rfl) (fun _ => rfl) (fun _ => rfl) rfl rfl

theorem forwarded (h : Tidy s) (hsound : s.Sound) (hk : k < s.sessions.size) (call : SessionCall) :
    Tidy (s.forwarded env caller p k call) :=
  (h.interacted.remember _).perform (hsound.interacted.remember _) hk call

theorem entered (h : Tidy s) (hsound : s.Sound) (hk : k < s.sessions.size) (name : UTF8String) :
    Tidy (s.entered env caller p k name) := by
  rw [OpenKitInstance.entered]
  split
  · exact h.counted.forwarded hsound.counted hk _
  · exact h.forwarded hsound hk _

end Tidy

/-! ## Splits -/

/-- A tidy instance, but for the current session of a proxy in use. -/
structure TidyBut (p : ProxyRef) (current : Option SessionRef) (s : OpenKitInstance) : Prop where
  made : p < s.proxies.size
  unfinished : (s.proxy p).isFinished = false
  sessions : TidyAs (Function.update s.currentOf p current) s
  splits : TidySplits s
  done : ∀ q < s.proxies.size, q ≠ p → (s.proxy q).isFinished = true → Done s q

theorem Tidy.tidyBut (h : Tidy s) (hp : p < s.proxies.size)
    (hunfinished : (s.proxy p).isFinished = false) : TidyBut p (s.proxy p).currentSession s := by
  refine ⟨hp, hunfinished, ?_, h.splits, fun q hq _ hended => h.done q hq hended⟩
  rw [← currentOf_of_lt hp, Function.update_eq_self]
  exact h.sessions

namespace TidyBut

variable {current : Option SessionRef}

theorem tidy (h : TidyBut p current s) (hcurrent : (s.proxy p).currentSession = current) :
    Tidy s := by
  refine ⟨?_, h.splits, fun q hq hended => ?_⟩
  · have hsessions := h.sessions
    rw [← hcurrent, ← currentOf_of_lt h.made, Function.update_eq_self] at hsessions
    exact hsessions
  · by_cases hqp : q = p
    · subst hqp
      cases h.unfinished.symm.trans hended
    · exact h.done q hq hqp hended

theorem callRun (h : TidyBut p current s) (hk : k < s.sessions.size) (hrun : CallRun k s t) :
    TidyBut p current t := by
  refine ⟨hrun.proxies_size ▸ h.made, (hrun.isFinished p).trans h.unfinished, ?_, ?_,
    fun q hq hqp hended => ?_⟩
  · rw [currentOf_congr hrun.proxies_size hrun.currentSession]
    exact h.sessions.callRun hk hrun
  · refine h.splits.congr hrun.proxies_size hrun.isFinished (fun q hsome => ?_)
      hrun.sessionsToSplitByTimeout
    rw [hrun.serverConfiguration]
    exact hsome
  · rw [hrun.proxies_size] at hq
    rw [hrun.isFinished] at hended
    exact (h.done q hq hqp hended).callRun hrun

theorem closed (h : TidyBut p (some k) s) (hsound : s.Sound) {closeGracePeriodInMillis : ℤ}
    (hclosed : s.Closed env caller k closeGracePeriodInMillis t) : TidyBut p none t := by
  have hsize := hclosed.proxies_size
  have hfinished (q : ProxyRef) : (t.proxy q).isFinished = (s.proxy q).isFinished := by
    obtain ⟨children, hproxy⟩ := hclosed.proxy q
    rw [hproxy]
  have hcurrent (q : ProxyRef) : (t.proxy q).currentSession = (s.proxy q).currentSession := by
    obtain ⟨children, hproxy⟩ := hclosed.proxy q
    rw [hproxy]
  have hsessions := h.sessions.closed hsound (Function.update_self p (some k) s.currentOf) hclosed
  rw [Function.update_idem, ← currentOf_congr hsize hcurrent] at hsessions
  refine ⟨hsize ▸ h.made, (hfinished p).trans h.unfinished, hsessions, ?_,
    fun q hq hqp hended => ?_⟩
  · refine h.splits.congr hsize hfinished (fun q hsome => ?_) ?_
    · obtain ⟨children, hproxy⟩ := hclosed.proxy q
      rw [hproxy]
      exact hsome
    · cases hclosed with
      | ended _ => exact sessionRun_endWith.sessionsToSplitByTimeout
      | enqueued henqueued => exact henqueued.sessionsToSplitByTimeout
  · rw [hsize] at hq
    rw [hfinished] at hended
    have hdone := h.done q hq hqp hended
    cases hclosed with
    | ended _ => exact hdone.callRun (callRun_endWith hsound false)
    | enqueued henqueued =>
      refine ⟨(hcurrent q).trans hdone.currentSession, fun j hj hparent => ?_⟩
      rw [henqueued.sessions_size] at hj
      by_cases hjk : j = k
      · subst hjk
        rw [henqueued.session] at hparent
        rw [IsDone, henqueued.session]
        exact hdone.isDone j hj hparent
      · rw [henqueued.session_of_ne j hjk] at hparent
        rw [IsDone, henqueued.session_of_ne j hjk]
        exact hdone.isDone j hj hparent

theorem prepared (h : TidyBut p current s) (anew : Bool) :
    TidyBut p current (s.prepared env p anew) := by
  have hsize := proxies_size_prepared env s p anew
  have hfield {α : Type} (field : SessionProxy → α)
      (hf : ∀ proxy creator, field { proxy with sessionCreator := creator } = field proxy)
      (q : ProxyRef) : field ((s.prepared env p anew).proxy q) = field (s.proxy q) := by
    obtain ⟨creator, hproxy⟩ := proxy_prepared env s p anew q
    rw [hproxy, hf]
  have hsessions : (s.prepared env p anew).sessions = s.sessions := by
    cases anew with
    | true => rfl
    | false => rfl
  have hwatchdog : (s.prepared env p anew).watchdog = s.watchdog := by
    cases anew with
    | true => rfl
    | false => rfl
  have hsession (k : SessionRef) : (s.prepared env p anew).session k = s.session k := by
    rw [session, hsessions]
    rfl
  have hfinished := hfield SessionProxy.isFinished fun _ _ => rfl
  have hcurrent := hfield SessionProxy.currentSession fun _ _ => rfl
  refine ⟨hsize ▸ h.made, (hfinished p).trans h.unfinished, ?_, ?_, fun q hq hqp hended => ?_⟩
  · rw [currentOf_congr hsize hcurrent]
    exact h.sessions.congr hsize (hfield SessionProxy.children fun _ _ => rfl) hsessions
      (congrArg _ hwatchdog)
  · refine h.splits.congr hsize hfinished (fun q hsome => ?_) (congrArg _ hwatchdog)
    rw [hfield SessionProxy.serverConfiguration fun _ _ => rfl]
    exact hsome
  · rw [hsize] at hq
    rw [hfinished] at hended
    have hdone := h.done q hq hqp hended
    refine ⟨(hcurrent q).trans hdone.currentSession, fun k hk hparent => ?_⟩
    rw [hsessions] at hk
    rw [hsession] at hparent
    rw [IsDone, hsession]
    exact hdone.isDone k hk hparent

/-- The new session is the current one of its proxy. -/
theorem newSession (h : TidyBut p none s) (hmade : s.Made env p t) :
    TidyBut p (some s.sessions.size) t := by
  have hself := hmade.splitProxy
  have hfinished (q : ProxyRef) : (t.proxy q).isFinished = (s.proxy q).isFinished := by
    by_cases hq : q = p
    · subst hq
      exact hself.isFinished
    · rw [hmade.proxy_of_ne q hq]
  have hconfig (q : ProxyRef) (hsome : (s.proxy q).serverConfiguration ≠ none) :
      (t.proxy q).serverConfiguration ≠ none := by
    by_cases hq : q = p
    · subst hq
      obtain ⟨c, hc⟩ := Option.ne_none_iff_exists'.mp hsome
      obtain ⟨c', hc', -⟩ := hself.sameForLife c hc
      rw [hc']
      exact Option.some_ne_none c'
    · rw [hmade.proxy_of_ne q hq]
      exact hsome
  have hupdate : Function.update t.currentOf p (some s.sessions.size) =
      Function.update s.currentOf p (some s.sessions.size) := by
    funext q
    by_cases hq : q = p
    · subst hq
      rw [Function.update_self, Function.update_self]
    · rw [Function.update_of_ne hq, Function.update_of_ne hq, currentOf, currentOf,
        hmade.proxies_size, hmade.proxy_of_ne q hq]
  have hsessions := h.sessions.made h.made (Function.update_self p none s.currentOf) hmade
  rw [Function.update_idem, ← hupdate] at hsessions
  refine ⟨hmade.proxies_size ▸ h.made, (hfinished p).trans h.unfinished, hsessions,
    h.splits.add hmade.proxies_size h.made hfinished hconfig hmade.sessionsToSplitByTimeout,
    fun q hq hqp hended => ?_⟩
  rw [hmade.proxies_size] at hq
  rw [hfinished] at hended
  have hdone := h.done q hq hqp hended
  refine ⟨?_, fun k hk hparent => ?_⟩
  · rw [hmade.proxy_of_ne q hqp]
    exact hdone.currentSession
  · by_cases hk' : k = s.sessions.size
    · -- the new session is not one of a proxy that was ended
      subst hk'
      obtain ⟨c, hsession, -⟩ := hmade.session
      rw [hsession] at hparent
      exact absurd hparent.symm hqp
    · rw [hmade.session_of_ne k hk'] at hparent
      rw [hmade.sessions_size] at hk
      rw [IsDone, hmade.session_of_ne k hk']
      exact hdone.isDone k (lt_of_le_of_ne (Nat.le_of_lt_succ hk) hk') hparent

theorem remember (h : TidyBut p current s) (event : InstanceEvent) :
    TidyBut p current (s.remember event) := by
  refine ⟨h.made, h.unfinished, ?_, ⟨h.splits.queued, h.splits.nodup⟩, fun q hq hqp hended => ?_⟩
  · exact h.sessions.congr rfl (fun _ => rfl) rfl rfl
  · have hdone := h.done q hq hqp hended
    exact ⟨hdone.currentSession, hdone.isDone⟩

theorem reTagged (h : TidyBut p (some k) s) (hsound : s.Sound) (htagged : s.ReTagged caller p t)
    (hcurrent : (s.proxy p).currentSession = some k) : TidyBut p (some k) t := by
  cases htagged with
  | untagged _ => exact h
  | tagged _ hcurrent' =>
    obtain rfl := Option.some.inj (hcurrent.symm.trans hcurrent')
    have hk := (h.sessions.currentSession p k (Function.update_self p (some k) s.currentOf)).1
    exact (h.remember _).callRun hk (callRun_perform (hsound.remember _) _)

end TidyBut

/-- **A split** moves the place of the current session from the old one to the new one. -/
theorem Tidy.split (h : Tidy s) (hsound : s.Sound) {anew : Bool} (hp : p < s.proxies.size)
    (hunfinished : (s.proxy p).isFinished = false) (hsplit : s.Split env caller p anew t) :
    Tidy t := by
  obtain ⟨-, hcurrent, hclosed, hmade, htagged⟩ := hsplit
  have hbut := h.tidyBut hp hunfinished
  rw [hcurrent] at hbut
  have hsoundNew : Sound _ := ((hsound.closed hclosed).prepared anew).made hmade
  have hnew := ((hbut.closed hsound hclosed).prepared anew).newSession hmade
  exact (hnew.reTagged hsoundNew htagged hmade.currentSession).tidy
    (htagged.currentSession.trans hmade.currentSession)

/-- A new proxy has no session yet. -/
theorem tidyAs_newProxy (h : TidyAs s.currentOf s) :
    TidyAs (Function.update (s.newProxy env).currentOf s.proxies.size none) (s.newProxy env) := by
  have hnew : ((s.newProxy env).proxy s.proxies.size).children = [] :=
    congrArg SessionProxy.children Heap.get_alloc_size
  have hold {q : ProxyRef} (hq : q < s.proxies.size) : (s.newProxy env).proxy q = s.proxy q :=
    Heap.get_alloc_of_lt hq
  have hlt {q : ProxyRef} (hq : q < (s.newProxy env).proxies.size) (hne : q ≠ s.proxies.size) :
      q < s.proxies.size := lt_of_le_of_ne (Nat.le_of_lt_succ hq) hne
  have hcurrent : Function.update (s.newProxy env).currentOf s.proxies.size none = s.currentOf := by
    funext q
    by_cases hne : q = s.proxies.size
    · subst hne
      rw [Function.update_self, currentOf, if_neg (lt_irrefl _)]
    · rw [Function.update_of_ne hne, currentOf, currentOf]
      by_cases hq : q < s.proxies.size
      · rw [if_pos hq, if_pos (show q < (s.newProxy env).proxies.size from Nat.lt_succ_of_lt hq),
          hold hq]
      · rw [if_neg hq, if_neg fun hq' => hq (hlt hq' hne)]
  rw [hcurrent]
  refine ⟨fun k hk => Nat.lt_succ_of_lt (h.parent k hk), h.currentSession, h.placed, h.queued,
    h.nodup_sessionsToClose, fun q hq k => ?_, fun q hq => ?_⟩
  · by_cases hne : q = s.proxies.size
    · subst hne
      rw [hnew]
      refine iff_of_false List.not_mem_nil fun ⟨hk, hparent, _⟩ => ?_
      exact absurd hparent (h.parent k hk).ne
    · rw [hold (hlt hq hne)]
      exact h.children q (hlt hq hne) k
  · by_cases hne : q = s.proxies.size
    · subst hne
      rw [hnew]
      exact List.nodup_nil
    · rw [hold (hlt hq hne)]
      exact h.nodup_children q (hlt hq hne)

/-- A new proxy, with its first session. -/
theorem Tidy.newProxy (h : Tidy s) (hmade : (s.newProxy env).Made env s.proxies.size t) :
    Tidy t := by
  have hnew : (s.newProxy env).proxy s.proxies.size = .new (.new env.openKitConfiguration
      env.privacyConfiguration s.context.httpClientConfiguration.serverID
      s.sessionIDProvider.getNextSessionID.1 (env.random s.numDraws)) := Heap.get_alloc_size
  have hold {q : ProxyRef} (hq : q < s.proxies.size) : (s.newProxy env).proxy q = s.proxy q :=
    Heap.get_alloc_of_lt hq
  have hbut : TidyBut s.proxies.size none (s.newProxy env) := by
    refine ⟨Nat.lt_succ_self _, ?_, ?_, ⟨fun q hq => ?_, h.splits.nodup⟩, fun q hq hne hended => ?_⟩
    · rw [hnew]
      rfl
    · exact tidyAs_newProxy h.sessions
    · obtain ⟨hq, hunfinished, hsome⟩ := h.splits.queued q hq
      rw [hold hq]
      exact ⟨Nat.lt_succ_of_lt hq, hunfinished, hsome⟩
    · have hq : q < s.proxies.size := lt_of_le_of_ne (Nat.le_of_lt_succ hq) hne
      rw [hold hq] at hended
      have hdone := h.done q hq hended
      refine ⟨?_, hdone.isDone⟩
      rw [hold hq]
      exact hdone.currentSession
  exact (hbut.newSession hmade).tidy hmade.currentSession

/-! ## Ends -/

variable (caller p) in
/-- Sessions that are ended one after the other are finished then. -/
theorem tidyAs_endedAll {current : ProxyRef → Option SessionRef} (h : TidyAs current s)
    (hsound : s.Sound) (ks : List SessionRef) (hmade : ∀ k ∈ ks, k < s.sessions.size) :
    TidyAs current (s.endedAll caller p ks) ∧
      ∀ k, s.IsDone k ∨ k ∈ ks → (s.endedAll caller p ks).IsDone k := by
  induction ks generalizing s with
  | nil => exact ⟨h, fun k hk => hk.resolve_right List.not_mem_nil⟩
  | cons k ks ih =>
    obtain ⟨hk, hks⟩ := List.forall_mem_cons.mp hmade
    have hrun : CallRun k s (s.ranOn k
        (SessionCalls.endWith caller (some k == (s.proxy p).currentSession))) :=
      callRun_endWith hsound _
    obtain ⟨htidy, hdone⟩ := ih (h.callRun hk hrun) (hsound.endWith _) fun j hj => by
      rw [hrun.sessions_size]
      exact hks j hj
    refine ⟨htidy, fun j hj => hdone j ?_⟩
    rcases hj with hj | hj
    · exact .inl (hrun.isDone hj)
    · rcases List.mem_cons.mp hj with rfl | hj
      · exact .inl (isSessionFinished_endWith hsound _)
      · exact .inr hj

theorem sessions_size_endedAll (ks : List SessionRef) :
    (s.endedAll caller p ks).sessions.size = s.sessions.size := by
  induction ks generalizing s with
  | nil => rfl
  | cons k ks ih =>
    rw [endedAll, ih]
    exact sessionRun_endWith.sessions_size

theorem parent_endedAll (ks : List SessionRef) (k : SessionRef) :
    ((s.endedAll caller p ks).session k).parent = (s.session k).parent := by
  induction ks generalizing s with
  | nil => rfl
  | cons j ks ih =>
    rw [endedAll, ih]
    exact sessionRun_endWith.parent k

theorem sessionsToSplitByTimeout_endedAll (ks : List SessionRef) :
    (s.endedAll caller p ks).watchdog.sessionsToSplitByTimeout =
      s.watchdog.sessionsToSplitByTimeout := by
  induction ks generalizing s with
  | nil => rfl
  | cons k ks ih =>
    rw [endedAll, ih]
    exact sessionRun_endWith.sessionsToSplitByTimeout

/-- **The end of a proxy** finishes all its sessions. -/
theorem Tidy.finished (h : Tidy s) (hsound : s.Sound) (hp : p < s.proxies.size) :
    Tidy (s.finished caller p) := by
  let u := (s.markedFinished p).endedAll caller p (s.proxy p).children
  let v := (u.removeFromSplitByTimeout p).withoutSession p
  have hself : (s.markedFinished p).proxy p = { s.proxy p with isFinished := true } :=
    proxy_updateProxy_self
  have hother {q : ProxyRef} (hq : q ≠ p) : (s.markedFinished p).proxy q = s.proxy q :=
    proxy_updateProxy_of_ne hq
  have hproxy (q : ProxyRef) : ((s.markedFinished p).proxy q).SameButChildren (u.proxy q) :=
    proxy_endedAll _ _ p _ q
  have hsize : u.proxies.size = s.proxies.size :=
    proxies_size_endedAll (s := s.markedFinished p) _
  have hsessions : u.sessions.size = s.sessions.size :=
    sessions_size_endedAll (s := s.markedFinished p) _
  have hparent (k : SessionRef) : (u.session k).parent = (s.session k).parent :=
    parent_endedAll (s := s.markedFinished p) _ k
  -- the sessions of the proxy are ended
  have hmarked : TidyAs s.currentOf (s.markedFinished p) := by
    refine h.sessions.congr rfl (fun q => ?_) rfl rfl
    by_cases hq : q = p
    · subst hq
      rw [hself]
    · rw [hother hq]
  obtain ⟨hended, hdone⟩ := tidyAs_endedAll caller p hmarked
    hsound.markedFinished (s.proxy p).children fun k hk => ((h.sessions.children p hp k).mp hk).1
  have hall {k : SessionRef} (hk : k < s.sessions.size) (hkp : (s.session k).parent = p) :
      u.IsDone k := by
    apply hdone
    by_cases hold : s.IsDone k
    · exact .inl hold
    · exact .inr ((h.sessions.children p hp k).mpr ⟨hk, hkp, hold⟩)
  -- the proxy gives up its current session, and the watchdog forgets the proxy
  have hv (q : ProxyRef) (hq : q ≠ p) : v.proxy q = u.proxy q := proxy_updateProxy_of_ne hq
  have hvp : v.proxy p = { u.proxy p with currentSession := none } := proxy_updateProxy_self
  have hcurrent : v.currentOf = Function.update s.currentOf p none := by
    funext q
    by_cases hq : q = p
    · subst hq
      rw [Function.update_self, currentOf, hvp]
      exact ite_self none
    · rw [Function.update_of_ne hq, currentOf, currentOf, hv q hq]
      obtain ⟨children, hchildren⟩ := hproxy q
      rw [hchildren, hother hq]
      show (if q < u.proxies.size then _ else none) = _
      rw [hsize]
  have hsplits : v.watchdog.sessionsToSplitByTimeout =
      s.watchdog.sessionsToSplitByTimeout.erase p :=
    congrArg (List.erase · p) (sessionsToSplitByTimeout_endedAll (s := s.markedFinished p) _)
  show Tidy v
  refine ⟨?_, ⟨fun q hq => ?_, hsplits ▸ h.splits.nodup.erase p⟩, fun q hq hfinished => ?_⟩
  · rw [hcurrent]
    refine TidyAs.congr (s := u) ?_ rfl (fun q => ?_) rfl rfl
    · refine hended.withCurrent (fun q k hq => ?_) fun k hk hnow => ?_
      · by_cases hqp : q = p
        · subst hqp
          rw [Function.update_self] at hq
          cases hq
        · rwa [Function.update_of_ne hqp] at hq
      · by_cases hkp : (u.session k).parent = p
        · rw [hparent] at hkp
          rw [hsessions] at hk
          exact .inr (.inl (hall hk hkp))
        · rw [Function.update_of_ne hkp]
          exact .inl hnow
    · by_cases hq : q = p
      · subst hq
        rw [hvp]
      · rw [hv q hq]
  · obtain ⟨hqp, hold⟩ := h.splits.nodup.mem_erase_iff.mp (hsplits ▸ hq)
    obtain ⟨hmade, hunfinished, hsome⟩ := h.splits.queued q hold
    show q < u.proxies.size ∧ (v.proxy q).isFinished = false ∧ (v.proxy q).serverConfiguration ≠ none
    obtain ⟨children, hchildren⟩ := hproxy q
    rw [hv q hqp, hchildren, hother hqp, hsize]
    exact ⟨hmade, hunfinished, hsome⟩
  · have hq : q < s.proxies.size := hsize ▸ hq
    have hfinished : (v.proxy q).isFinished = true := hfinished
    show Done v q
    by_cases hqp : q = p
    · subst hqp
      refine ⟨by rw [hvp], fun k hk hkp => ?_⟩
      exact hall (hsessions ▸ hk) ((hparent k).symm.trans hkp)
    · obtain ⟨children, hchildren⟩ := hproxy q
      rw [hv q hqp, hchildren, hother hqp] at hfinished
      have hold := h.done q hq hfinished
      refine ⟨?_, fun k hk hkq => ?_⟩
      · rw [hv q hqp, hchildren, hother hqp]
        exact hold.currentSession
      · exact hdone k (.inl (hold.isDone k (hsessions ▸ hk) ((hparent k).symm.trans hkq)))

/-- A session that is ended leaves the queue once, or twice. -/
theorem ranOn_dequeueFromClosing (h : Tidy s) (hsound : s.Sound) :
    (s.dequeueFromClosing k).ranOn k (SessionCalls.endWith caller false) =
      s.ranOn k (SessionCalls.endWith caller false) := by
  have hsettled : (s.reporting k).session.Settled := hsound.settled k
  obtain ⟨r, hrun, hended⟩ := SessionCalls.endedFrom_of_run_endWith caller false hsettled
  rw [ranOn, ranOn, show (s.dequeueFromClosing k).reporting k = s.reporting k from rfl, hrun]
  cases hopen : (s.session k).session.isSessionFinished with
  | true =>
    have hnot : k ∉ s.watchdog.sessionsToClose := fun hk => (h.sessions.queued k hk).2.1 hopen
    have hsame : s.dequeueFromClosing k = s := by
      rw [dequeueFromClosing, List.erase_of_not_mem hnot]
    rw [hsame]
  | false =>
    have htwice : (s.watchdog.sessionsToClose.erase k).erase k = s.watchdog.sessionsToClose.erase k :=
      List.erase_of_not_mem h.sessions.nodup_sessionsToClose.not_mem_erase
    rw [afterReport_of_closed hended.isSessionFinished hopen,
      afterReport_of_closed hended.isSessionFinished (s := s.dequeueFromClosing k) hopen]
    let f (proxy : SessionProxy) : SessionProxy := { proxy with children := proxy.children.erase k }
    let u := (s.reported k r).updateProxy ((s.reported k r).session k).parent f
    exact congrArg (fun queue : List SessionRef =>
      ({ u with watchdog := { u.watchdog with sessionsToClose := queue } } : OpenKitInstance)) htwice

/-- A session whose number of requests is decreased. -/
theorem callRun_decrease (k : SessionRef) : CallRun k s (s.updateSession k fun o =>
    o.setSession o.session.decreaseNumRemainingSessionRequests) := by
  have hsession : (s.updateSession k fun o =>
      o.setSession o.session.decreaseNumRemainingSessionRequests).session k =
      (s.session k).setSession (s.session k).session.decreaseNumRemainingSessionRequests :=
    session_updateSession_self
  refine ⟨⟨rfl, fun q => ⟨(s.proxy q).children, rfl⟩, rfl, fun j hj => session_updateSession_of_ne hj,
    ⟨_, hsession, .refl _⟩, rfl, rfl, rfl, rfl, rfl, le_refl _, ⟨[], (List.append_nil _).symm⟩,
    fun _ => ⟨fun _ => rfl, rfl⟩, fun hfinished hopen => ?_⟩, ?_, fun hfinished => ?_⟩
  · rw [hsession] at hfinished
    cases hopen.symm.trans hfinished
  · rw [hsession]
    rfl
  · rw [hsession]
    exact hfinished

/-- **Moves keep an instance tidy.** -/
theorem Tidy.move {call : InstanceCall} (h : Tidy s) (hsound : s.Sound) (hmove : Move env call s t) :
    Tidy t := by
  cases hmove with
  | readClock => exact h.congr rfl (fun _ => rfl) (fun _ => rfl) (fun _ => rfl) (fun _ => rfl) rfl rfl
  | setContext context =>
    exact h.congr rfl (fun _ => rfl) (fun _ => rfl) (fun _ => rfl) (fun _ => rfl) rfl rfl
  | enter huse hsplit => exact h.entered hsound (h.lt_of_inUse huse) _
  | forward huse hreport => exact h.forwarded hsound (h.lt_of_inUse huse) _
  | identify huse =>
    exact (h.forwarded hsound (h.lt_of_inUse huse) _).updateProxy (fun _ => rfl) (fun _ => rfl)
      (fun _ => rfl) fun _ => rfl
  | split hmade hunfinished hsplit => exact h.split hsound hmade hunfinished hsplit
  | finish hmade hunfinished => exact h.finished hsound hmade
  | onObject hk => exact h.perform hsound hk _
  | endSession hk => exact h.endWith hsound hk false
  | expire hk =>
    rw [ranOn_dequeueFromClosing h hsound]
    exact h.endWith hsound hk false
  | unsplit => exact ⟨h.sessions.congr rfl (fun _ => rfl) rfl rfl, h.splits.remove, fun q hq hended =>
      ⟨(h.done q hq hended).currentSession, (h.done q hq hended).isDone⟩⟩
  | configure hk hconfigure => exact h.configure hk hconfigure
  | decrease hk => exact h.callRun hk (callRun_decrease _)
  | create hmade => exact h.newProxy hmade

section Run

variable (env) (http : HTTPClientConfiguration) (provider : SessionIDProvider)

theorem tidy_new : Tidy (new http provider env) := by
  refine ⟨⟨fun k hk => absurd hk (Nat.not_lt_zero k), fun p k hp => ?_,
    fun k hk => absurd hk (Nat.not_lt_zero k), List.forall_mem_nil _, List.nodup_nil,
    fun p hp => absurd hp (Nat.not_lt_zero p), fun p hp => absurd hp (Nat.not_lt_zero p)⟩,
    ⟨List.forall_mem_nil _, List.nodup_nil⟩, fun p hp => absurd hp (Nat.not_lt_zero p)⟩
  have hnone : (new http provider env).currentOf p = none := if_neg (Nat.not_lt_zero p)
  cases hnone.symm.trans hp

/-- **Every instance that is reached is tidy.** -/
theorem tidy_afterCalls (calls : List InstanceCall) :
    Tidy ((new http provider env).afterCalls env calls) :=
  moves_induction http provider (tidy_new env http provider)
    (fun _ _ _ hsound htidy hmove => htidy.move hsound hmove) calls

end Run

end OpenKitInstance

end OpenKit
