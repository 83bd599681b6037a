import OpenKit.Objects.MoveEvents
import OpenKit.Objects.TidyMoves

/-!
# No session is lost

At any point of a run, each session that was made is the current one of its proxy, or is finished, or
waits in the queue of the watchdog until its children are closed. Once a proxy is ended, all its sessions
are finished, it lists no session, it is in no queue of the watchdog, and it makes no session any more.

## Main definitions

* `OpenKitInstance.Ended`: a proxy that was ended, and has made no session since then
* `OpenKitInstance.Placed`: a session has a place
* `OpenKitInstance.LeftNothing`: what is left of a proxy that was ended

## Main results

* `Ended.move`: no move makes a session of a proxy that was ended
* `noLeaks_afterCalls`: no session of any run is lost
-/

namespace OpenKit

open Thread SessionProxies

namespace OpenKitInstance

variable {env : InstanceEnvironment} {s t : OpenKitInstance} {p q : ProxyRef} {k : SessionRef}

/-! ## Proxies that were ended make no session -/

/-- A proxy that was ended while there were some sessions has made none since then. -/
structure Ended (p : ProxyRef) (numSessions : ℕ) (s : OpenKitInstance) : Prop where
  made : p < s.proxies.size
  isFinished : (s.proxy p).isFinished = true
  old : ∀ k < s.sessions.size, (s.session k).parent = p → k < numSessions

namespace Ended

variable {numSessions : ℕ}

theorem quiet (h : Ended p numSessions s) (hquiet : s.Quiet t) : Ended p numSessions t := by
  refine ⟨hquiet.proxies_size ▸ h.made, (hquiet.proxy p).isFinished.trans h.isFinished,
    fun k hk hparent => ?_⟩
  rw [hquiet.sessions_size] at hk
  exact h.old k hk ((hquiet.session k).parent.symm.trans hparent)

theorem remember (h : Ended p numSessions s) (event : InstanceEvent) :
    Ended p numSessions (s.remember event) := ⟨h.made, h.isFinished, h.old⟩

theorem updateProxy (h : Ended p numSessions s) {f : SessionProxy → SessionProxy}
    (hf : ∀ proxy, proxy.isFinished = true → (f proxy).isFinished = true) :
    Ended p numSessions (s.updateProxy q f) := by
  refine ⟨h.made, ?_, h.old⟩
  by_cases hpq : p = q
  · subst hpq
    rw [proxy_updateProxy_self]
    exact hf _ h.isFinished
  · rw [proxy_updateProxy_of_ne hpq]
    exact h.isFinished

/-- Another proxy makes a session. -/
theorem newSession (h : Ended p numSessions s) (hmade : s.Made env q t) (hpq : p ≠ q) :
    Ended p numSessions t := by
  refine ⟨hmade.proxies_size ▸ h.made, ?_, fun k hk hparent => ?_⟩
  · rw [hmade.proxy_of_ne p hpq]
    exact h.isFinished
  · by_cases hnew : k = s.sessions.size
    · subst hnew
      obtain ⟨c, hsession, -⟩ := hmade.session
      rw [hsession] at hparent
      exact absurd hparent.symm hpq
    · rw [hmade.sessions_size] at hk
      rw [hmade.session_of_ne k hnew] at hparent
      exact h.old k (lt_of_le_of_ne (Nat.le_of_lt_succ hk) hnew) hparent

/-- **No move makes a session of a proxy that was ended.** -/
theorem move {call : InstanceCall} (h : Ended p numSessions s) (hmove : Move env call s t) :
    Ended p numSessions t := by
  cases hmove.deed with
  | quiet hquiet => exact h.quiet hquiet
  | enter huse hsplit hquiet =>
    refine (Ended.remember ?_ _).quiet hquiet
    split
    · exact h.updateProxy fun _ => id
    · exact h
  | forward huse hreport hquiet => exact (h.remember _).quiet hquiet
  | identify huse hquiet =>
    refine Ended.quiet (Ended.updateProxy (h.remember _) fun _ hf => ?_) hquiet
    exact hf
  | @split _ q anew _ s₁ s₂ _ hmade hunfinished hclosed hnew htags =>
    have hpq : p ≠ q := by
      rintro rfl
      cases hunfinished.symm.trans h.isFinished
    have hclosed' := h.quiet hclosed
    have hprepared : Ended p numSessions (s₁.prepared env q anew) := by
      cases anew with
      | true =>
        have hdrawn : Ended p numSessions { s₁ with
            sessionIDProvider := s₁.sessionIDProvider.getNextSessionID.2
            numDraws := s₁.numDraws + 1 } := ⟨hclosed'.made, hclosed'.isFinished, hclosed'.old⟩
        refine Ended.remember (Ended.updateProxy hdrawn fun _ hf => ?_) _
        exact hf
      | false => exact hclosed'
    have hmade' := hprepared.newSession hnew hpq
    cases htags with
    | untagged _ => exact hmade'
    | tagged _ _ hquiet => exact (hmade'.remember _).quiet hquiet
  | finish hmade hunfinished hquiet =>
    refine Ended.quiet (Ended.updateProxy (Ended.updateProxy h fun _ _ => ?_) fun _ hf => ?_) hquiet
    · rfl
    · exact hf
  | create hmade =>
    have hnew : (s.newProxy env).proxy p = s.proxy p := Heap.get_alloc_of_lt h.made
    have hallocated : Ended p numSessions (s.newProxy env) := by
      refine ⟨Nat.lt_succ_of_lt h.made, ?_, h.old⟩
      rw [hnew]
      exact h.isFinished
    exact hallocated.newSession hmade h.made.ne

end Ended

/-! ## No session is lost -/

/-- **A session has a place**: it is the current one of its proxy, or is finished, or waits in the queue
of the watchdog for a child that is open. -/
def Placed (s : OpenKitInstance) (k : SessionRef) : Prop :=
  (s.session k).parent < s.proxies.size ∧
    ((s.proxy (s.session k).parent).currentSession = some k ∨ s.IsDone k ∨
      k ∈ s.watchdog.sessionsToClose ∧ (s.session k).session.wasTriedForEnding = true ∧
        (s.session k).session.children ≠ [])

/-- **What is left of a proxy** that was ended while there were some sessions. -/
structure LeftNothing (p : ProxyRef) (numSessions : ℕ) (s : OpenKitInstance) : Prop where
  isDone : ∀ k < s.sessions.size, (s.session k).parent = p → s.IsDone k
  children : (s.proxy p).children = []
  sessionsToClose : ∀ k ∈ s.watchdog.sessionsToClose, (s.session k).parent ≠ p
  sessionsToSplitByTimeout : p ∉ s.watchdog.sessionsToSplitByTimeout
  noneMade : ∀ k < s.sessions.size, (s.session k).parent = p → k < numSessions

theorem Tidy.placed (h : Tidy s) (hsound : s.Sound) (hk : k < s.sessions.size) : s.Placed k := by
  refine ⟨h.sessions.parent k hk, ?_⟩
  rcases h.sessions.placed k hk with hdone | hcurrent | hqueued
  · exact .inr (.inl hdone)
  · rw [currentOf_of_lt (h.sessions.parent k hk)] at hcurrent
    exact .inl hcurrent
  · obtain ⟨-, hopen, htried⟩ := h.sessions.queued k hqueued
    exact .inr (.inr ⟨hqueued, htried,
      (hsound.orderly k).waiting htried (Bool.eq_false_of_not_eq_true hopen)⟩)

theorem Tidy.leftNothing (h : Tidy s) {numSessions : ℕ} (hended : Ended p numSessions s) :
    LeftNothing p numSessions s := by
  have hdone := (h.done p hended.made hended.isFinished).isDone
  refine ⟨hdone, ?_, fun k hqueued hparent => ?_, fun hqueued => ?_, hended.old⟩
  · rw [List.eq_nil_iff_forall_not_mem]
    intro k hk
    obtain ⟨hmade, hparent, hopen⟩ := (h.sessions.children p hended.made k).mp hk
    exact hopen (hdone k hmade hparent)
  · obtain ⟨hmade, hopen, -⟩ := h.sessions.queued k hqueued
    exact hopen (hdone k hmade hparent)
  · obtain ⟨-, hunfinished, -⟩ := h.splits.queued p hqueued
    cases hunfinished.symm.trans hended.isFinished

section Run

variable (http : HTTPClientConfiguration) (provider : SessionIDProvider)

variable (env) in
/-- The end of a proxy makes no session. -/
theorem ended_close (hp : p < s.proxies.size) (threadID : ℤ) :
    Ended p s.sessions.size (s.afterCall env (.onProxy p threadID .close)) := by
  have hvalid : (InstanceCall.onProxy p threadID .close).isValid s = true := decide_eq_true hp
  rw [afterCall, run_perform_of_isValid hvalid]
  show Ended p s.sessions.size ((endProxy p ⟨threadID, env.clock⟩).run s).2
  cases hfinished : (s.proxy p).isFinished with
  | true =>
    rw [endProxy, whenUnfinished, Program.run_bind_ok (Program.run_read _ s), hfinished]
    exact ⟨hp, hfinished, fun k hk _ => hk⟩
  | false =>
    rw [run_endProxy hfinished]
    have hmarked : Ended p s.sessions.size ((s.markedFinished p).withoutSession p) := by
      refine ⟨hp, ?_, fun k hk _ => hk⟩
      rw [withoutSession, proxy_updateProxy_self, markedFinished, proxy_updateProxy_self]
    exact hmarked.quiet .finished

/-- **No session is lost.** At the end of every run, each session has a place, and nothing is left of the
proxies that were ended in the run. -/
theorem noLeaks_afterCalls (calls : List InstanceCall) :
    (∀ k < ((new http provider env).afterCalls env calls).sessions.size,
      ((new http provider env).afterCalls env calls).Placed k) ∧
    ∀ earlier p threadID, earlier ++ [.onProxy p threadID .close] <+: calls →
      p < ((new http provider env).afterCalls env earlier).proxies.size →
        ((new http provider env).afterCalls env calls).LeftNothing p
          ((new http provider env).afterCalls env earlier).sessions.size := by
  have hsound := sound_afterCalls env http provider calls
  have htidy := tidy_afterCalls env http provider calls
  refine ⟨fun k hk => htidy.placed hsound hk, fun earlier p threadID hprefix hp => ?_⟩
  apply htidy.leftNothing
  obtain ⟨later, rfl⟩ := hprefix
  have hsoundEarlier := sound_afterCalls env http provider earlier
  have hended := ended_close env hp threadID
  rw [afterCalls_append, afterCalls_concat]
  exact (hsoundEarlier.afterCall _).moves_induction hended (fun _ _ _ _ h hmove => h.move hmove) later

end Run

end OpenKitInstance

end OpenKit
