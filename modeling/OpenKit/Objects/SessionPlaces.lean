import OpenKit.Objects.CallMoves

/-!
# The places of sessions

A session that a proxy has made is the current one of the proxy, or is finished, or waits for its
children in the queue of the watchdog. The proxy lists its sessions until they are finished.

## Main definitions

* `OpenKitInstance.TidyAs current`: all sessions have a place, if the proxies have some current sessions

## Main results

* `TidyAs.callRun`, `TidyAs.enqueued`, `TidyAs.made`, `TidyAs.configure`: what the parts of a call do
-/

namespace OpenKit

open Thread SessionProxies

namespace OpenKitInstance

variable {env : InstanceEnvironment} {caller : Caller} {s t u : OpenKitInstance} {p q : ProxyRef}
  {j k : SessionRef}

/-! ## Calls on a session -/

/-- A run on a session that neither tries to end it nor opens it again. -/
structure CallRun (k : SessionRef) (s t : OpenKitInstance) : Prop extends SessionRun k s t where
  wasTriedForEnding :
    (t.session k).session.wasTriedForEnding = (s.session k).session.wasTriedForEnding
  isSessionFinished : (s.session k).session.isSessionFinished = true →
    (t.session k).session.isSessionFinished = true

theorem callRun_perform (hsound : s.Sound) (call : SessionCall) :
    CallRun k s (s.ranOn k (SessionCalls.perform caller call)) := by
  have horderly : (s.reporting k).session.Orderly := hsound.orderly k
  refine ⟨sessionRun_perform call, ?_, fun hfinished => ?_⟩
  · rw [ranOn, session_afterReport_self]
    exact (SessionCalls.orderly_of_run_perform horderly rfl).2
  · rw [ranOn, session_afterReport_self,
      SessionCalls.run_perform_of_finished call horderly.toSettled hfinished]
    exact hfinished

/-- Ending a session finishes it. -/
theorem isSessionFinished_endWith (hsound : s.Sound) (sendSessionEndEvent : Bool) :
    ((s.ranOn k (SessionCalls.endWith caller sendSessionEndEvent)).session
      k).session.isSessionFinished = true := by
  have hsettled : (s.reporting k).session.Settled := hsound.settled k
  obtain ⟨r, hrun, hended⟩ :=
    SessionCalls.endedFrom_of_run_endWith caller sendSessionEndEvent hsettled
  rw [ranOn, session_afterReport_self, hrun]
  exact hended.isSessionFinished

theorem callRun_endWith (hsound : s.Sound) (sendSessionEndEvent : Bool) :
    CallRun k s (s.ranOn k (SessionCalls.endWith caller sendSessionEndEvent)) := by
  have hsettled : (s.reporting k).session.Settled := hsound.settled k
  obtain ⟨r, hrun, hended⟩ :=
    SessionCalls.endedFrom_of_run_endWith caller sendSessionEndEvent hsettled
  refine ⟨sessionRun_endWith, ?_, fun _ => isSessionFinished_endWith hsound _⟩
  rw [ranOn, session_afterReport_self, hrun]
  exact hended.wasTriedForEnding

/-! ## Tidy instances -/

/-- A session is finished. -/
def IsDone (s : OpenKitInstance) (k : SessionRef) : Prop :=
  (s.session k).session.isSessionFinished = true

/-- **All sessions have a place**, if `current` gives the current sessions of the proxies. -/
structure TidyAs (current : ProxyRef → Option SessionRef) (s : OpenKitInstance) : Prop where
  parent : ∀ k < s.sessions.size, (s.session k).parent < s.proxies.size
  /-- A current session belongs to its proxy, and does not wait for its children. -/
  currentSession : ∀ p k, current p = some k → k < s.sessions.size ∧ (s.session k).parent = p ∧
    (s.session k).session.wasTriedForEnding = false
  placed : ∀ k < s.sessions.size,
    s.IsDone k ∨ current (s.session k).parent = some k ∨ k ∈ s.watchdog.sessionsToClose
  queued : ∀ k ∈ s.watchdog.sessionsToClose, k < s.sessions.size ∧ ¬ s.IsDone k ∧
    (s.session k).session.wasTriedForEnding = true
  nodup_sessionsToClose : s.watchdog.sessionsToClose.Nodup
  /-- The children of a proxy are its sessions that are not finished. -/
  children : ∀ p < s.proxies.size, ∀ k, k ∈ (s.proxy p).children ↔
    k < s.sessions.size ∧ (s.session k).parent = p ∧ ¬ s.IsDone k
  nodup_children : ∀ p < s.proxies.size, (s.proxy p).children.Nodup

namespace TidyAs

variable {current current' : ProxyRef → Option SessionRef}

/-- Only what is read counts. -/
theorem congr (h : TidyAs current s) (hproxies : t.proxies.size = s.proxies.size)
    (hchildren : ∀ p, (t.proxy p).children = (s.proxy p).children)
    (hsessions : t.sessions = s.sessions)
    (hclose : t.watchdog.sessionsToClose = s.watchdog.sessionsToClose) : TidyAs current t := by
  have hsession (k : SessionRef) : t.session k = s.session k := by
    rw [session, hsessions]
    rfl
  refine ⟨fun k hk => ?_, fun p k hp => ?_, fun k hk => ?_, fun k hk => ?_, ?_, fun p hp k => ?_,
    fun p hp => ?_⟩
  · rw [hsessions] at hk
    rw [hsession, hproxies]
    exact h.parent k hk
  · rw [hsessions, hsession]
    exact h.currentSession p k hp
  · rw [hsessions] at hk
    rw [IsDone, hsession, hclose]
    exact h.placed k hk
  · rw [hclose] at hk
    rw [hsessions, IsDone, hsession]
    exact h.queued k hk
  · rw [hclose]
    exact h.nodup_sessionsToClose
  · rw [hproxies] at hp
    rw [hchildren, hsessions, IsDone, hsession]
    exact h.children p hp k
  · rw [hproxies] at hp
    rw [hchildren]
    exact h.nodup_children p hp

/-- Other current sessions, of which the tidiness is known. -/
theorem withCurrent (h : TidyAs current s)
    (hcurrent : ∀ p k, current' p = some k → current p = some k)
    (hgiven : ∀ k < s.sessions.size, current (s.session k).parent = some k →
      current' (s.session k).parent = some k ∨ s.IsDone k ∨ k ∈ s.watchdog.sessionsToClose) :
    TidyAs current' s := by
  refine ⟨h.parent, fun p k hp => h.currentSession p k (hcurrent p k hp), fun k hk => ?_, h.queued,
    h.nodup_sessionsToClose, h.children, h.nodup_children⟩
  rcases h.placed k hk with hdone | hnow | hqueued
  · exact .inl hdone
  · rcases hgiven k hk hnow with hstill | hdone | hqueued
    · exact .inr (.inl hstill)
    · exact .inl hdone
    · exact .inr (.inr hqueued)
  · exact .inr (.inr hqueued)

/-- A session that is not ended keeps its place. -/
theorem callRun_of_kept (h : TidyAs current s) (hrun : CallRun k s t)
    (hkept : (t.session k).session.isSessionFinished = (s.session k).session.isSessionFinished) :
    TidyAs current t := by
  obtain ⟨hproxy, hclose⟩ := hrun.kept hkept
  have hdone (j : SessionRef) : t.IsDone j ↔ s.IsDone j := by
    by_cases hj : j = k
    · subst hj
      rw [IsDone, IsDone, hkept]
    · rw [IsDone, IsDone, hrun.session_of_ne j hj]
  have htried (j : SessionRef) :
      (t.session j).session.wasTriedForEnding = (s.session j).session.wasTriedForEnding := by
    by_cases hj : j = k
    · subst hj
      exact hrun.wasTriedForEnding
    · rw [hrun.session_of_ne j hj]
  refine ⟨fun j hj => ?_, fun p j hp => ?_, fun j hj => ?_, fun j hj => ?_, ?_, fun p hp j => ?_,
    fun p hp => ?_⟩
  · rw [hrun.sessions_size] at hj
    rw [hrun.parent, hrun.proxies_size]
    exact h.parent j hj
  · rw [hrun.sessions_size, hrun.parent, htried]
    exact h.currentSession p j hp
  · rw [hrun.sessions_size] at hj
    rw [hrun.parent, hdone, hclose]
    exact h.placed j hj
  · rw [hclose] at hj
    rw [hrun.sessions_size, hdone, htried]
    exact h.queued j hj
  · rw [hclose]
    exact h.nodup_sessionsToClose
  · rw [hrun.proxies_size] at hp
    rw [hproxy, hrun.sessions_size, hrun.parent, hdone]
    exact h.children p hp j
  · rw [hrun.proxies_size] at hp
    rw [hproxy]
    exact h.nodup_children p hp

/-- A session that is ended is nobody's child any more, and waits for nothing. -/
theorem callRun_of_closed (h : TidyAs current s) (hk : k < s.sessions.size) (hrun : CallRun k s t)
    (hdone : t.IsDone k) (hopen : (s.session k).session.isSessionFinished = false) :
    TidyAs current t := by
  obtain ⟨hchildren, hclose⟩ := hrun.closed hdone hopen
  have hother (j : SessionRef) (hj : j ≠ k) : t.IsDone j ↔ s.IsDone j := by
    rw [IsDone, IsDone, hrun.session_of_ne j hj]
  have htried (j : SessionRef) :
      (t.session j).session.wasTriedForEnding = (s.session j).session.wasTriedForEnding := by
    by_cases hj : j = k
    · subst hj
      exact hrun.wasTriedForEnding
    · rw [hrun.session_of_ne j hj]
  have hmem (j : SessionRef) : j ∈ t.watchdog.sessionsToClose ↔
      j ≠ k ∧ j ∈ s.watchdog.sessionsToClose := by
    rw [hclose]
    exact h.nodup_sessionsToClose.mem_erase_iff
  refine ⟨fun j hj => ?_, fun p j hp => ?_, fun j hj => ?_, fun j hj => ?_, ?_, fun p hp j => ?_,
    fun p hp => ?_⟩
  · rw [hrun.sessions_size] at hj
    rw [hrun.parent, hrun.proxies_size]
    exact h.parent j hj
  · rw [hrun.sessions_size, hrun.parent, htried]
    exact h.currentSession p j hp
  · rw [hrun.sessions_size] at hj
    rw [hrun.parent, hmem]
    by_cases hjk : j = k
    · subst hjk
      exact .inl hdone
    · rw [hother j hjk]
      rcases h.placed j hj with hfinished | hnow | hqueued
      · exact .inl hfinished
      · exact .inr (.inl hnow)
      · exact .inr (.inr ⟨hjk, hqueued⟩)
  · obtain ⟨hjk, hqueued⟩ := (hmem j).mp hj
    rw [hrun.sessions_size, hother j hjk, htried]
    exact h.queued j hqueued
  · rw [hclose]
    exact h.nodup_sessionsToClose.erase k
  · rw [hrun.proxies_size] at hp
    rw [hchildren, hrun.sessions_size, hrun.parent]
    have hbefore := h.children p hp
    split
    next hparent =>
      rw [(h.nodup_children p hp).mem_erase_iff, hbefore]
      by_cases hjk : j = k
      · subst hjk
        simp [hdone]
      · simp [hjk, hother j hjk]
    next hparent =>
      rw [hbefore]
      by_cases hjk : j = k
      · subst hjk
        have hne : (s.session j).parent ≠ p := fun hsame => hparent hsame.symm
        simp [hne]
      · simp [hother j hjk]
  · rw [hrun.proxies_size] at hp
    rw [hchildren]
    split
    · exact (h.nodup_children p hp).erase k
    · exact h.nodup_children p hp

/-- **Calls on a session** keep an instance tidy. -/
theorem callRun (h : TidyAs current s) (hk : k < s.sessions.size) (hrun : CallRun k s t) :
    TidyAs current t := by
  cases hopen : (s.session k).session.isSessionFinished with
  | true => exact h.callRun_of_kept hrun ((hrun.isSessionFinished hopen).trans hopen.symm)
  | false =>
    cases hdone : (t.session k).session.isSessionFinished with
    | true => exact h.callRun_of_closed hk hrun hdone hopen
    | false => exact h.callRun_of_kept hrun (hdone.trans hopen.symm)

/-- A current session that is put into the queue is nobody's current session. -/
theorem enqueued (h : TidyAs current s) (hsound : s.Sound) {closeGracePeriodInMillis : ℤ}
    (hcurrent : current p = some k) (henqueued : s.Enqueued env k closeGracePeriodInMillis t) :
    TidyAs (Function.update current p none) t := by
  obtain ⟨hk, rfl, huntried⟩ := h.currentSession p k hcurrent
  have hopen : ¬ s.IsDone k := fun hdone => henqueued.waiting ((hsound.settled k).children hdone)
  have hnew : k ∉ s.watchdog.sessionsToClose := by
    intro hqueued
    obtain ⟨-, -, htried⟩ := h.queued k hqueued
    cases huntried.symm.trans htried
  have hproxy (q : ProxyRef) : t.proxy q = s.proxy q := by
    rw [proxy, henqueued.proxies]
    rfl
  have hsize : t.proxies.size = s.proxies.size := congrArg Heap.size henqueued.proxies
  have hparent (j : SessionRef) : (t.session j).parent = (s.session j).parent := by
    by_cases hj : j = k
    · subst hj
      rw [henqueued.session]
      rfl
    · rw [henqueued.session_of_ne j hj]
  have hdone (j : SessionRef) : t.IsDone j ↔ s.IsDone j := by
    by_cases hj : j = k
    · subst hj
      rw [IsDone, henqueued.session]
      rfl
    · rw [IsDone, IsDone, henqueued.session_of_ne j hj]
  refine ⟨fun j hj => ?_, fun q j hq => ?_, fun j hj => ?_, fun j hj => ?_, ?_, fun q hq j => ?_,
    fun q hq => ?_⟩
  · rw [henqueued.sessions_size] at hj
    rw [hparent, hsize]
    exact h.parent j hj
  · by_cases hqp : q = (s.session k).parent
    · subst hqp
      rw [Function.update_self] at hq
      cases hq
    · rw [Function.update_of_ne hqp] at hq
      obtain ⟨hj, hq', htried⟩ := h.currentSession q j hq
      have hjk : j ≠ k := by
        rintro rfl
        exact hqp hq'.symm
      rw [henqueued.sessions_size, henqueued.session_of_ne j hjk]
      exact ⟨hj, hq', htried⟩
  · rw [henqueued.sessions_size] at hj
    rw [hparent, hdone, henqueued.sessionsToClose]
    by_cases hjk : j = k
    · subst hjk
      exact .inr (.inr (List.mem_append_right _ (List.mem_singleton.mpr rfl)))
    · rcases h.placed j hj with hfinished | hnow | hqueued
      · exact .inl hfinished
      · refine .inr (.inl ?_)
        have hne : (s.session j).parent ≠ (s.session k).parent := by
          intro hsame
          rw [hsame, hcurrent] at hnow
          exact hjk (Option.some.inj hnow).symm
        rw [Function.update_of_ne hne]
        exact hnow
      · exact .inr (.inr (List.mem_append_left _ hqueued))
  · rw [henqueued.sessionsToClose] at hj
    rw [henqueued.sessions_size, hdone]
    rcases List.mem_append.mp hj with hold | hlast
    · obtain ⟨hj, hnot, htried⟩ := h.queued j hold
      have hjk : j ≠ k := by
        rintro rfl
        exact hnew hold
      rw [henqueued.session_of_ne j hjk]
      exact ⟨hj, hnot, htried⟩
    · obtain rfl := List.mem_singleton.mp hlast
      rw [henqueued.session]
      exact ⟨hk, hopen, rfl⟩
  · rw [henqueued.sessionsToClose]
    exact List.nodup_append.mpr ⟨h.nodup_sessionsToClose, List.nodup_singleton k, fun a ha b hb hab =>
      hnew (List.mem_singleton.mp hb ▸ hab ▸ ha)⟩
  · rw [hsize] at hq
    rw [hproxy, henqueued.sessions_size, hparent, hdone]
    exact h.children q hq j
  · rw [hsize] at hq
    rw [hproxy]
    exact h.nodup_children q hq

/-- **A current session that is given up** has a place all the same. -/
theorem closed (h : TidyAs current s) (hsound : s.Sound) {closeGracePeriodInMillis : ℤ}
    (hcurrent : current p = some k) (hclosed : s.Closed env caller k closeGracePeriodInMillis t) :
    TidyAs (Function.update current p none) t := by
  cases hclosed with
  | enqueued henqueued => exact h.enqueued hsound hcurrent henqueued
  | ended _ =>
    obtain ⟨hk, hparent, -⟩ := h.currentSession p k hcurrent
    have hrun : CallRun k s (s.ranOn k (SessionCalls.endWith caller false)) :=
      callRun_endWith hsound false
    refine (h.callRun hk hrun).withCurrent (fun q j hq => ?_) fun j hj hnow => ?_
    · by_cases hqp : q = p
      · subst hqp
        rw [Function.update_self] at hq
        cases hq
      · rwa [Function.update_of_ne hqp] at hq
    · by_cases hjp : ((s.ranOn k (SessionCalls.endWith caller false)).session j).parent = p
      · rw [hjp] at hnow
        obtain rfl := Option.some.inj (hcurrent.symm.trans hnow)
        exact .inr (.inl (isSessionFinished_endWith hsound false))
      · rw [Function.update_of_ne hjp]
        exact .inl hnow

/-- **A new session** takes the place of the current one. -/
theorem made (h : TidyAs current s) (hp : p < s.proxies.size) (hnone : current p = none)
    (hmade : s.Made env p t) :
    TidyAs (Function.update current p (some s.sessions.size)) t := by
  obtain ⟨c, hsession, -⟩ := hmade.session
  have hlt {j : SessionRef} (hj : j < t.sessions.size) (hne : j ≠ s.sessions.size) :
      j < s.sessions.size := by
    rw [hmade.sessions_size] at hj
    exact lt_of_le_of_ne (Nat.le_of_lt_succ hj) hne
  have hnew : ¬ t.IsDone s.sessions.size := by
    rw [IsDone, hsession]
    exact Bool.false_ne_true
  have hparent : (t.session s.sessions.size).parent = p := by
    rw [hsession]
    rfl
  have hdone (j : SessionRef) (hj : j ≠ s.sessions.size) : t.IsDone j ↔ s.IsDone j := by
    rw [IsDone, IsDone, hmade.session_of_ne j hj]
  have hchildren : (t.proxy p).children = (s.proxy p).children ++ [s.sessions.size] := by
    obtain ⟨c', hc'⟩ := hmade.proxy.eq
    rw [hc']
    rfl
  refine ⟨fun j hj => ?_, fun q j hq => ?_, fun j hj => ?_, fun j hj => ?_, ?_, fun q hq j => ?_,
    fun q hq => ?_⟩
  · rw [hmade.proxies_size]
    by_cases hne : j = s.sessions.size
    · subst hne
      rw [hparent]
      exact hp
    · rw [hmade.session_of_ne j hne]
      exact h.parent j (hlt hj hne)
  · by_cases hqp : q = p
    · subst hqp
      rw [Function.update_self] at hq
      obtain rfl := Option.some.inj hq
      rw [hmade.sessions_size, hsession]
      exact ⟨Nat.lt_succ_self _, rfl, rfl⟩
    · rw [Function.update_of_ne hqp] at hq
      obtain ⟨hj, hq', htried⟩ := h.currentSession q j hq
      rw [hmade.sessions_size, hmade.session_of_ne j hj.ne]
      exact ⟨Nat.lt_succ_of_lt hj, hq', htried⟩
  · by_cases hne : j = s.sessions.size
    · subst hne
      rw [hparent, Function.update_self]
      exact .inr (.inl rfl)
    · rw [hdone j hne, hmade.session_of_ne j hne, hmade.sessionsToClose]
      rcases h.placed j (hlt hj hne) with hfinished | hnow | hqueued
      · exact .inl hfinished
      · have hjp : (s.session j).parent ≠ p := by
          intro hjp
          rw [hjp, hnone] at hnow
          cases hnow
        rw [Function.update_of_ne hjp]
        exact .inr (.inl hnow)
      · exact .inr (.inr hqueued)
  · rw [hmade.sessionsToClose] at hj
    obtain ⟨hlt, hnot, htried⟩ := h.queued j hj
    rw [hmade.sessions_size, hdone j hlt.ne, hmade.session_of_ne j hlt.ne]
    exact ⟨Nat.lt_succ_of_lt hlt, hnot, htried⟩
  · rw [hmade.sessionsToClose]
    exact h.nodup_sessionsToClose
  · rw [hmade.proxies_size] at hq
    by_cases hne : j = s.sessions.size
    · -- the new session is a child of its proxy, and of no other one
      subst hne
      have hunmade (r : ProxyRef) (hr : r < s.proxies.size) :
          s.sessions.size ∉ (s.proxy r).children := fun hmem =>
        absurd ((h.children r hr _).mp hmem).1 (lt_irrefl _)
      rw [hmade.sessions_size, hparent]
      by_cases hqp : q = p
      · subst hqp
        simp [hchildren, hnew]
      · have hpq : p ≠ q := fun hsame => hqp hsame.symm
        rw [hmade.proxy_of_ne q hqp]
        simp [hunmade q hq, hpq]
    · have hsize : j < t.sessions.size ↔ j < s.sessions.size := by
        rw [hmade.sessions_size]
        exact ⟨fun hj => lt_of_le_of_ne (Nat.le_of_lt_succ hj) hne, Nat.lt_succ_of_lt⟩
      rw [hsize, hmade.session_of_ne j hne, hdone j hne]
      by_cases hqp : q = p
      · subst hqp
        simp [hchildren, hne, h.children q hq]
      · rw [hmade.proxy_of_ne q hqp]
        exact h.children q hq j
  · rw [hmade.proxies_size] at hq
    by_cases hqp : q = p
    · subst hqp
      rw [hchildren]
      refine List.nodup_append.mpr ⟨h.nodup_children q hq, List.nodup_singleton _, ?_⟩
      rintro a ha b hb rfl
      obtain rfl := List.mem_singleton.mp hb
      exact absurd ((h.children q hq _).mp ha).1 (lt_irrefl _)
    · rw [hmade.proxy_of_ne q hqp]
      exact h.nodup_children q hq

/-- A change of the configuration of a session. -/
theorem configure (h : TidyAs current s) (hconfigure : s.ConfigureRun k t) : TidyAs current t := by
  have hsame (j : SessionRef) : (t.session j).parent = (s.session j).parent ∧
      (t.session j).session.isSessionFinished = (s.session j).session.isSessionFinished ∧
      (t.session j).session.wasTriedForEnding = (s.session j).session.wasTriedForEnding := by
    by_cases hj : j = k
    · subst hj
      obtain ⟨c, hsession, -⟩ := hconfigure.session
      rw [hsession]
      exact ⟨rfl, rfl, rfl⟩
    · rw [hconfigure.session_of_ne j hj]
      exact ⟨rfl, rfl, rfl⟩
  have hchildren (q : ProxyRef) : (t.proxy q).children = (s.proxy q).children := by
    obtain ⟨c, hc⟩ := (hconfigure.proxy q).eq
    rw [hc]
  refine ⟨fun j hj => ?_, fun q j hq => ?_, fun j hj => ?_, fun j hj => ?_, ?_, fun q hq j => ?_,
    fun q hq => ?_⟩
  · rw [hconfigure.sessions_size] at hj
    rw [(hsame j).1, hconfigure.proxies_size]
    exact h.parent j hj
  · rw [hconfigure.sessions_size, (hsame j).1, (hsame j).2.2]
    exact h.currentSession q j hq
  · rw [hconfigure.sessions_size] at hj
    rw [IsDone, (hsame j).1, (hsame j).2.1, hconfigure.sessionsToClose]
    exact h.placed j hj
  · rw [hconfigure.sessionsToClose] at hj
    rw [IsDone, hconfigure.sessions_size, (hsame j).2.1, (hsame j).2.2]
    exact h.queued j hj
  · rw [hconfigure.sessionsToClose]
    exact h.nodup_sessionsToClose
  · rw [hconfigure.proxies_size] at hq
    rw [IsDone, hchildren, hconfigure.sessions_size, (hsame j).1, (hsame j).2.1]
    exact h.children q hq j
  · rw [hconfigure.proxies_size] at hq
    rw [hchildren]
    exact h.nodup_children q hq

end TidyAs

end OpenKitInstance

end OpenKit
