import OpenKit.Objects.MoveEvents
import OpenKit.Objects.TidyMoves

/-!
# The limit of events per session

A proxy counts the events of its current session, and starts to count anew for each session. An action is
entered on the current session if the count is below the limit only, and is counted then. So no session
that is made while the proxy has its configuration gets more actions than the limit.

## Main definitions

* `OpenKitInstance.numEntered`: the number of root actions that were entered on a session
* `OpenKitInstance.Counted`: proxies count at least the actions of their current sessions
* `OpenKitInstance.Limited`: what holds of a proxy from the time on that it splits by events

## Main results

* `Counted.deed`, `Limited.deed`: all moves keep it so
* `numEntered_le_maxEventsPerSession`: the limit holds in all runs
-/

namespace OpenKit

open Thread SessionProxies

/-- The event is a root action that is entered on a session. -/
def InstanceEvent.enters (k : SessionRef) : InstanceEvent → Bool
  | .forwarded _ k' (.enterAction _) => k' = k
  | _ => false

namespace OpenKitInstance

variable {env : InstanceEnvironment} {s t u : OpenKitInstance} {p q : ProxyRef} {j k : SessionRef}

/-- The number of root actions that were entered on a session. -/
def numEntered (s : OpenKitInstance) (k : SessionRef) : ℕ := s.events.countP (·.enters k)

theorem numEntered_congr (h : t.events = s.events) : t.numEntered k = s.numEntered k := by
  rw [numEntered, numEntered, h]

theorem numEntered_append {new : List InstanceEvent} (h : t.events = s.events ++ new) :
    t.numEntered k = s.numEntered k + new.countP (·.enters k) := by
  rw [numEntered, h, List.countP_append]
  rfl

theorem numEntered_remember_of_not {event : InstanceEvent} (h : event.enters k = false) :
    (s.remember event).numEntered k = s.numEntered k := by
  rw [numEntered_append (s := s) rfl, List.countP_singleton, h]
  rfl

theorem numEntered_remember_self {name : UTF8String} :
    (s.remember (.forwarded p k (.enterAction name))).numEntered k = s.numEntered k + 1 := by
  have henters : InstanceEvent.enters k (.forwarded p k (.enterAction name)) = true :=
    decide_eq_true rfl
  rw [numEntered_append (s := s) rfl, List.countP_singleton, henters]
  rfl

/-- An action counts for its session only. -/
theorem numEntered_remember_of_ne {name : UTF8String} (h : k ≠ j) :
    (s.remember (.forwarded p k (.enterAction name))).numEntered j = s.numEntered j :=
  numEntered_remember_of_not (decide_eq_false h)

/-- A report is no action. -/
theorem not_enters_of_isReport {call : SessionCall} (h : call.isReport = true) :
    InstanceEvent.enters j (.forwarded p k call) = false := by
  cases call with
  | enterAction name => cases h
  | _ => rfl

/-! ## What proxies count -/

/-- **Proxies count** at least the actions of their current sessions, if the user lets actions be
reported. -/
structure Counted (env : InstanceEnvironment) (s : OpenKitInstance) : Prop where
  creator : ∀ q < s.proxies.size,
    (s.proxy q).sessionCreator.privacyConfiguration = env.privacyConfiguration
  session : ∀ k < s.sessions.size,
    (s.session k).beaconConfiguration.privacyConfiguration = env.privacyConfiguration
  unmade : ∀ k, s.sessions.size ≤ k → s.numEntered k = 0
  counted : ∀ q k, s.currentOf q = some k →
    (s.numEntered k : ℤ) ≤ (s.proxy q).topLevelActionCount

namespace Counted

theorem quiet (h : Counted env s) (hquiet : s.Quiet t) : Counted env t := by
  have hevents (k : SessionRef) : t.numEntered k = s.numEntered k := numEntered_congr hquiet.events
  refine ⟨fun q hq => ?_, fun k hk => ?_, fun k hk => ?_, fun q k hcurrent => ?_⟩
  · rw [hquiet.proxies_size] at hq
    rw [(hquiet.proxy q).sessionCreator]
    exact h.creator q hq
  · rw [hquiet.sessions_size] at hk
    rw [(hquiet.session k).privacyConfiguration]
    exact h.session k hk
  · rw [hquiet.sessions_size] at hk
    rw [hevents]
    exact h.unmade k hk
  · rw [currentOf_congr hquiet.proxies_size fun q => (hquiet.proxy q).currentSession] at hcurrent
    rw [hevents, (hquiet.proxy q).topLevelActionCount]
    exact h.counted q k hcurrent

/-- What is not an action is not counted. -/
theorem remember (h : Counted env s) {event : InstanceEvent}
    (hevent : ∀ k, event.enters k = false) : Counted env (s.remember event) := by
  refine ⟨h.creator, h.session, fun k hk => ?_, fun q k hcurrent => ?_⟩
  · rw [numEntered_remember_of_not (hevent k)]
    exact h.unmade k hk
  · rw [numEntered_remember_of_not (hevent k)]
    exact h.counted q k hcurrent

/-- A proxy that keeps its creator and its count, and has no other current session. -/
theorem updateProxy (h : Counted env s) {f : SessionProxy → SessionProxy}
    (hprivacy : ∀ proxy, (f proxy).sessionCreator.privacyConfiguration =
      proxy.sessionCreator.privacyConfiguration)
    (hcount : ∀ proxy, (f proxy).topLevelActionCount = proxy.topLevelActionCount)
    (hcurrent : ∀ proxy k, (f proxy).currentSession = some k → proxy.currentSession = some k) :
    Counted env (s.updateProxy p f) := by
  refine ⟨fun q hq => ?_, h.session, h.unmade, fun q k hnow => ?_⟩
  · by_cases hqp : q = p
    · subst hqp
      rw [proxy_updateProxy_self, hprivacy]
      exact h.creator q hq
    · rw [proxy_updateProxy_of_ne hqp]
      exact h.creator q hq
  · have hq : q < s.proxies.size := by
      by_contra hq
      have hnone : (s.updateProxy p f).currentOf q = none := if_neg hq
      cases hnone.symm.trans hnow
    have hnow' : ((s.updateProxy p f).proxy q).currentSession = some k :=
      (currentOf_of_lt (s := s.updateProxy p f) hq).symm.trans hnow
    by_cases hqp : q = p
    · subst hqp
      rw [proxy_updateProxy_self] at hnow' ⊢
      rw [hcount]
      exact h.counted q k ((currentOf_of_lt hq).trans (hcurrent _ k hnow'))
    · rw [proxy_updateProxy_of_ne hqp] at hnow' ⊢
      exact h.counted q k ((currentOf_of_lt hq).trans hnow')

/-- **An action** is entered, and counted. -/
theorem enter (h : Counted env s) (htidy : Tidy s) (huse : s.InUse p k) (name : UTF8String) :
    Counted env ((s.counted p).remember (.forwarded p k (.enterAction name))) := by
  have hcurrent : s.currentOf p = some k := (currentOf_of_lt huse.made).trans huse.currentSession
  obtain ⟨hk, hparent, -⟩ := htidy.sessions.currentSession p k hcurrent
  have hself : ((s.counted p).proxy p).topLevelActionCount =
      (s.proxy p).topLevelActionCount + 1 := by
    rw [OpenKitInstance.counted, proxy_updateProxy_self]
  have hcreator (q : ProxyRef) :
      ((s.counted p).proxy q).sessionCreator = (s.proxy q).sessionCreator := by
    by_cases hq : q = p
    · subst hq
      rw [OpenKitInstance.counted, proxy_updateProxy_self]
    · rw [OpenKitInstance.counted, proxy_updateProxy_of_ne hq]
  have hsame : (s.counted p).currentOf = s.currentOf := by
    refine currentOf_congr rfl fun q => ?_
    by_cases hq : q = p
    · subst hq
      rw [OpenKitInstance.counted, proxy_updateProxy_self]
    · rw [OpenKitInstance.counted, proxy_updateProxy_of_ne hq]
  refine ⟨fun q hq => ?_, h.session, fun j hj => ?_, fun q j hnow => ?_⟩
  · rw [proxy_remember, hcreator]
    exact h.creator q hq
  · have hjk : k ≠ j := by
      rintro rfl
      exact absurd hk (Nat.not_lt.mpr hj)
    rw [numEntered_remember_of_ne hjk]
    exact h.unmade j hj
  · replace hnow : s.currentOf q = some j := by
      rw [← hsame]
      exact hnow
    have hold := h.counted q j hnow
    by_cases hq : q = p
    · subst hq
      obtain rfl := Option.some.inj (hcurrent.symm.trans hnow)
      rw [numEntered_remember_self, proxy_remember, hself, Int.natCast_succ]
      exact Int.add_le_add_right hold 1
    · -- the session is not the current one of two proxies
      have hjk : k ≠ j := by
        rintro rfl
        exact hq ((htidy.sessions.currentSession q k hnow).2.1.symm.trans hparent)
      rw [numEntered_remember_of_ne hjk, proxy_remember, OpenKitInstance.counted,
        proxy_updateProxy_of_ne hq]
      exact hold

/-- **A new session** has no action, and nothing is counted for it. -/
theorem newSession (h : Counted env s) (hp : p < s.proxies.size) (hmade : s.Made env p t) :
    Counted env t := by
  obtain ⟨c, hproxy⟩ := hmade.proxy.eq
  have hevents (j : SessionRef) : t.numEntered j = s.numEntered j := by
    rw [numEntered_append hmade.events]
    rfl
  refine ⟨fun q hq => ?_, fun j hj => ?_, fun j hj => ?_, fun q j hnow => ?_⟩
  · by_cases hqp : q = p
    · subst hqp
      rw [hproxy]
      exact h.creator q hp
    · rw [hmade.proxies_size] at hq
      rw [hmade.proxy_of_ne q hqp]
      exact h.creator q hq
  · by_cases hnew : j = s.sessions.size
    · subst hnew
      obtain ⟨c, hsession, hprivacy⟩ := hmade.session
      rw [hsession]
      exact hprivacy.trans (h.creator p hp)
    · rw [hmade.sessions_size] at hj
      rw [hmade.session_of_ne j hnew]
      exact h.session j (lt_of_le_of_ne (Nat.le_of_lt_succ hj) hnew)
  · rw [hmade.sessions_size] at hj
    rw [hevents]
    exact h.unmade j (Nat.le_of_succ_le hj)
  · rw [hevents]
    by_cases hqp : q = p
    · subst hqp
      rw [currentOf, hmade.currentSession, hmade.proxies_size, if_pos hp] at hnow
      obtain rfl := Option.some.inj hnow
      rw [h.unmade _ (le_refl _), hproxy]
      exact le_refl 0
    · rw [hmade.proxy_of_ne q hqp]
      refine h.counted q j ?_
      rw [← hnow, currentOf, currentOf, hmade.proxies_size, hmade.proxy_of_ne q hqp]

theorem prepared (h : Counted env s) (anew : Bool) : Counted env (s.prepared env p anew) := by
  cases anew with
  | true =>
    have hdrawn : Counted env { s with
        sessionIDProvider := s.sessionIDProvider.getNextSessionID.2
        numDraws := s.numDraws + 1 } := ⟨h.creator, h.session, h.unmade, h.counted⟩
    refine Counted.remember (Counted.updateProxy hdrawn ?_ ?_ ?_) fun _ => rfl
    · exact fun _ => rfl
    · exact fun _ => rfl
    · exact fun _ _ => id
  | false => exact h

theorem newProxy (h : Counted env s) : Counted env (s.newProxy env) := by
  have hold {q : ProxyRef} (hq : q < s.proxies.size) : (s.newProxy env).proxy q = s.proxy q :=
    Heap.get_alloc_of_lt hq
  have hnew : (s.newProxy env).proxy s.proxies.size = .new (.new env.openKitConfiguration
      env.privacyConfiguration s.context.httpClientConfiguration.serverID
      s.sessionIDProvider.getNextSessionID.1 (env.random s.numDraws)) := Heap.get_alloc_size
  refine ⟨fun q hq => ?_, h.session, h.unmade, fun q k hnow => ?_⟩
  · by_cases hne : q = s.proxies.size
    · subst hne
      rw [hnew]
      rfl
    · have hq : q < s.proxies.size := lt_of_le_of_ne (Nat.le_of_lt_succ hq) hne
      rw [hold hq]
      exact h.creator q hq
  · by_cases hq : q < s.proxies.size
    · rw [hold hq]
      refine h.counted q k ?_
      rw [currentOf_of_lt (s := s.newProxy env) (Nat.lt_succ_of_lt hq), hold hq] at hnow
      rw [currentOf_of_lt hq]
      exact hnow
    · -- the new proxy has no current session
      rw [currentOf] at hnow
      split at hnow
      next hlt =>
        obtain rfl : q = s.proxies.size := Nat.eq_of_lt_succ_of_not_lt hlt hq
        rw [hnew] at hnow
        cases hnow
      next => cases hnow

/-- **All moves** keep the counts right. -/
theorem deed (h : Counted env s) (htidy : Tidy s)
    (hallowed : env.privacyConfiguration.isActionReportingAllowed = true) {call : InstanceCall}
    (hdeed : Deed env call s t) : Counted env t := by
  cases hdeed with
  | quiet hquiet => exact h.quiet hquiet
  | enter huse hsplit hquiet =>
    rw [h.session _ (htidy.lt_of_inUse huse), hallowed, if_pos rfl] at hquiet
    exact (h.enter htidy huse _).quiet hquiet
  | forward huse hreport hquiet =>
    exact (h.remember fun _ => not_enters_of_isReport hreport).quiet hquiet
  | identify huse hquiet =>
    refine Counted.quiet (Counted.updateProxy (h.remember fun _ => ?_) ?_ ?_ ?_) hquiet
    · rfl
    · exact fun _ => rfl
    · exact fun _ => rfl
    · exact fun _ _ => id
  | @split _ p anew _ s₁ s₂ _ hmade hunfinished hclosed hnew htags =>
    have hp : p < (s₁.prepared env p anew).proxies.size := by
      rw [proxies_size_prepared, hclosed.proxies_size]
      exact hmade
    have hmade' := ((h.quiet hclosed).prepared anew).newSession hp hnew
    cases htags with
    | untagged _ => exact hmade'
    | tagged _ _ hquiet => exact (hmade'.remember fun _ => rfl).quiet hquiet
  | finish hmade hunfinished hquiet =>
    refine Counted.quiet (Counted.updateProxy (Counted.updateProxy h ?_ ?_ ?_) ?_ ?_ ?_) hquiet
    · exact fun _ => rfl
    · exact fun _ => rfl
    · exact fun _ _ => id
    · exact fun _ => rfl
    · exact fun _ => rfl
    · exact fun _ _ hnone => nomatch hnone
  | create hmade => exact h.newProxy.newSession (Nat.lt_succ_self _) hmade

end Counted

/-! ## The limit -/

/-- **A proxy that splits by events**, since there were some sessions: none that it has made since then has
more actions than the limit. -/
structure Limited (p : ProxyRef) (numSessions : ℕ) (maxEvents : ℤ) (s : OpenKitInstance) : Prop where
  made : p < s.proxies.size
  configured : ∃ c, (s.proxy p).serverConfiguration = some c ∧
    c.get.isSessionSplitByEventsEnabled = true ∧ c.get.maxEventsPerSession = maxEvents
  limited : ∀ k < s.sessions.size, numSessions ≤ k → (s.session k).parent = p →
    (s.numEntered k : ℤ) ≤ maxEvents

namespace Limited

variable {numSessions : ℕ} {maxEvents : ℤ}

/-- The limit is positive. -/
theorem pos (h : Limited p numSessions maxEvents s) : 0 < maxEvents := by
  obtain ⟨c, -, henabled, rfl⟩ := h.configured
  obtain ⟨-, hpos⟩ := Bool.and_eq_true_iff.mp henabled
  exact of_decide_eq_true hpos

/-- A configuration that is merged keeps the limit. -/
theorem configured_of_sameForLife (h : Limited p numSessions maxEvents s)
    (hsame : ∀ c, (s.proxy p).serverConfiguration = some c →
      ∃ c', (t.proxy p).serverConfiguration = some c' ∧ c.get.SameForLife c'.get) :
    ∃ c, (t.proxy p).serverConfiguration = some c ∧
      c.get.isSessionSplitByEventsEnabled = true ∧ c.get.maxEventsPerSession = maxEvents := by
  obtain ⟨c, hc, henabled, hmax⟩ := h.configured
  obtain ⟨c', hc', hlife⟩ := hsame c hc
  exact ⟨c', hc', hlife.isSessionSplitByEventsEnabled.trans henabled,
    hlife.maxEventsPerSession.trans hmax⟩

theorem quiet (h : Limited p numSessions maxEvents s) (hquiet : s.Quiet t) :
    Limited p numSessions maxEvents t := by
  refine ⟨hquiet.proxies_size ▸ h.made, h.configured_of_sameForLife (hquiet.proxy p).sameForLife,
    fun k hk hnew hparent => ?_⟩
  rw [hquiet.sessions_size] at hk
  rw [numEntered_congr hquiet.events]
  exact h.limited k hk hnew ((hquiet.session k).parent.symm.trans hparent)

theorem remember (h : Limited p numSessions maxEvents s) {event : InstanceEvent}
    (hevent : ∀ k, event.enters k = false) :
    Limited p numSessions maxEvents (s.remember event) := by
  refine ⟨h.made, h.configured, fun k hk hnew hparent => ?_⟩
  rw [numEntered_remember_of_not (hevent k)]
  exact h.limited k hk hnew hparent

theorem updateProxy (h : Limited p numSessions maxEvents s) {f : SessionProxy → SessionProxy}
    (hf : ∀ proxy, (f proxy).serverConfiguration = proxy.serverConfiguration) :
    Limited p numSessions maxEvents (s.updateProxy q f) := by
  refine ⟨h.made, ?_, h.limited⟩
  have hconfig : ((s.updateProxy q f).proxy p).serverConfiguration =
      (s.proxy p).serverConfiguration := by
    by_cases hpq : p = q
    · subst hpq
      rw [proxy_updateProxy_self, hf]
    · rw [proxy_updateProxy_of_ne hpq]
  rw [hconfig]
  exact h.configured

/-- **An action** is entered on a session with fewer actions than the limit. -/
theorem enter (h : Limited p numSessions maxEvents s) (hcounted : Counted env s) (htidy : Tidy s)
    (huse : s.InUse q k) (hsplit : s.splitsByEvents q = false) (name : UTF8String) :
    Limited p numSessions maxEvents ((s.counted q).remember (.forwarded q k (.enterAction name))) := by
  have hcurrent : s.currentOf q = some k := (currentOf_of_lt huse.made).trans huse.currentSession
  obtain ⟨hk, hparent, -⟩ := htidy.sessions.currentSession q k hcurrent
  have hcountedProxy : Limited p numSessions maxEvents (s.counted q) := h.updateProxy fun _ => rfl
  refine ⟨hcountedProxy.made, hcountedProxy.configured, fun j hj hnew hj' => ?_⟩
  by_cases hjk : k = j
  · subst hjk
    obtain rfl : q = p := hparent.symm.trans hj'
    rw [numEntered_remember_self, Int.natCast_succ]
    obtain ⟨c, hc, henabled, hmax⟩ := h.configured
    rw [splitsByEvents, hc] at hsplit
    dsimp only at hsplit
    rw [henabled, Bool.true_and, hmax] at hsplit
    have hbelow : (s.proxy q).topLevelActionCount < maxEvents :=
      not_le.mp (of_decide_eq_false hsplit)
    exact Int.add_one_le_of_lt ((hcounted.counted q k hcurrent).trans_lt hbelow)
  · rw [numEntered_remember_of_ne hjk]
    exact h.limited j hj hnew hj'

/-- A new session has no action yet. -/
theorem newSession (h : Limited p numSessions maxEvents s) (hcounted : Counted env s)
    (hmade : s.Made env q t) : Limited p numSessions maxEvents t := by
  have hevents (j : SessionRef) : t.numEntered j = s.numEntered j := by
    rw [numEntered_append hmade.events]
    rfl
  refine ⟨hmade.proxies_size ▸ h.made, h.configured_of_sameForLife fun c hc => ?_,
    fun j hj hnew hparent => ?_⟩
  · by_cases hpq : p = q
    · subst hpq
      exact hmade.proxy.sameForLife c hc
    · rw [hmade.proxy_of_ne p hpq]
      exact ⟨c, hc, .refl _⟩
  · rw [hevents]
    by_cases hj' : j = s.sessions.size
    · subst hj'
      rw [hcounted.unmade _ (le_refl _)]
      exact h.pos.le
    · rw [hmade.sessions_size] at hj
      rw [hmade.session_of_ne j hj'] at hparent
      exact h.limited j (lt_of_le_of_ne (Nat.le_of_lt_succ hj) hj') hnew hparent

theorem prepared (h : Limited p numSessions maxEvents s) (anew : Bool) :
    Limited p numSessions maxEvents (s.prepared env q anew) := by
  cases anew with
  | true =>
    have hdrawn : Limited p numSessions maxEvents { s with
        sessionIDProvider := s.sessionIDProvider.getNextSessionID.2
        numDraws := s.numDraws + 1 } := ⟨h.made, h.configured, h.limited⟩
    refine Limited.remember (Limited.updateProxy hdrawn fun _ => ?_) fun _ => rfl
    rfl
  | false => exact h

/-- **All moves** respect the limit. -/
theorem deed (h : Limited p numSessions maxEvents s) (hcounted : Counted env s) (htidy : Tidy s)
    (hallowed : env.privacyConfiguration.isActionReportingAllowed = true) {call : InstanceCall}
    (hdeed : Deed env call s t) : Limited p numSessions maxEvents t := by
  cases hdeed with
  | quiet hquiet => exact h.quiet hquiet
  | enter huse hsplit hquiet =>
    rw [hcounted.session _ (htidy.lt_of_inUse huse), hallowed, if_pos rfl] at hquiet
    exact (h.enter hcounted htidy huse hsplit _).quiet hquiet
  | forward huse hreport hquiet =>
    exact (h.remember fun _ => not_enters_of_isReport hreport).quiet hquiet
  | identify huse hquiet =>
    refine Limited.quiet (Limited.updateProxy (h.remember fun _ => ?_) fun _ => ?_) hquiet
    · rfl
    · rfl
  | @split _ q anew _ s₁ s₂ _ hmade hunfinished hclosed hnew htags =>
    have hmade' := ((h.quiet hclosed).prepared anew).newSession
      ((hcounted.quiet hclosed).prepared anew) hnew
    cases htags with
    | untagged _ => exact hmade'
    | tagged _ _ hquiet => exact (hmade'.remember fun _ => rfl).quiet hquiet
  | finish hmade hunfinished hquiet =>
    refine Limited.quiet (Limited.updateProxy (Limited.updateProxy h fun _ => ?_) fun _ => ?_) hquiet
    · rfl
    · rfl
  | create hmade =>
    have hnew : (s.newProxy env).proxy p = s.proxy p := Heap.get_alloc_of_lt h.made
    have hallocated : Limited p numSessions maxEvents (s.newProxy env) := by
      refine ⟨Nat.lt_succ_of_lt h.made, ?_, h.limited⟩
      rw [hnew]
      exact h.configured
    exact hallocated.newSession hcounted.newProxy hmade

end Limited

section Run

variable (http : HTTPClientConfiguration) (provider : SessionIDProvider)

theorem counted_new : Counted env (new http provider env) := by
  refine ⟨fun q hq => absurd hq (Nat.not_lt_zero q), fun k hk => absurd hk (Nat.not_lt_zero k),
    fun _ _ => rfl, fun q k hnow => ?_⟩
  have hnone : (new http provider env).currentOf q = none := if_neg (Nat.not_lt_zero q)
  cases hnone.symm.trans hnow

theorem counted_afterCalls (calls : List InstanceCall)
    (hallowed : env.privacyConfiguration.isActionReportingAllowed = true) :
    Counted env ((new http provider env).afterCalls env calls) := by
  let Kept (t : OpenKitInstance) : Prop := Tidy t ∧ Counted env t
  have hrun : Kept ((new http provider env).afterCalls env calls) := by
    refine moves_induction http provider ⟨tidy_new env http provider, counted_new http provider⟩
      (fun _ _ _ hsound h hmove => ?_) calls
    exact ⟨h.1.move hsound hmove, h.2.deed h.1 hallowed hmove.deed⟩
  exact hrun.2

/-- **The limit of events is enforced**: once a proxy has a configuration that splits sessions by events,
no session that it makes then has more root actions than the configuration allows, after any calls. -/
theorem numEntered_le_maxEventsPerSession
    (hallowed : env.privacyConfiguration.isActionReportingAllowed = true)
    (earlier later : List InstanceCall) {c : ServerConfigurationRef}
    (hp : p < ((new http provider env).afterCalls env earlier).proxies.size)
    (hconfig : (((new http provider env).afterCalls env earlier).proxy p).serverConfiguration = some c)
    (henabled : c.get.isSessionSplitByEventsEnabled = true) :
    ∀ k < ((new http provider env).afterCalls env (earlier ++ later)).sessions.size,
      ((new http provider env).afterCalls env earlier).sessions.size ≤ k →
      (((new http provider env).afterCalls env (earlier ++ later)).session k).parent = p →
      (((new http provider env).afterCalls env (earlier ++ later)).numEntered k : ℤ) ≤
        c.get.maxEventsPerSession := by
  have htidy := tidy_afterCalls env http provider earlier
  have hcounted := counted_afterCalls http provider earlier hallowed
  have hsound := sound_afterCalls env http provider earlier
  rw [afterCalls_append]
  generalize (new http provider env).afterCalls env earlier = s at *
  have hlimited : Limited p s.sessions.size c.get.maxEventsPerSession s :=
    ⟨hp, ⟨c, hconfig, henabled, rfl⟩, fun k hk hnew => absurd hk (Nat.not_lt.mpr hnew)⟩
  let Kept (t : OpenKitInstance) : Prop :=
    Tidy t ∧ Counted env t ∧ Limited p s.sessions.size c.get.maxEventsPerSession t
  have hrun : Kept (s.afterCalls env later) := by
    refine hsound.moves_induction ⟨htidy, hcounted, hlimited⟩ (fun _ _ _ hsound h hmove => ?_) later
    exact ⟨h.1.move hsound hmove, h.2.1.deed h.1 hallowed hmove.deed,
      h.2.2.deed h.2.1 h.1 hallowed hmove.deed⟩
  exact hrun.2.2.limited

end Run

/-- A response lets a session have one event. Of two actions that are entered then, the second is entered
on a new session. -/
theorem numEntered_le_one :
    (((new ⟨1, .nil⟩ ⟨0⟩ .plain).afterCalls .plain
      ([.createSession, .requestNewSession 0
        (some ⟨0, ResponseAttributes.jsonResponse.withMaxEventsPerSession 1, 200, 0⟩)] ++
        [.onProxy 0 1 (.enterAction (.ofAscii ['a'])),
          .onProxy 0 1 (.enterAction (.ofAscii ['b']))])).numEntered 1 : ℤ) ≤ 1 := by
  let c : ServerConfigurationRef :=
    .ofAttributes (ResponseAttributes.undefined.merge
      (ResponseAttributes.jsonResponse.withMaxEventsPerSession 1))
  refine numEntered_le_maxEventsPerSession (p := 0) (c := c) ⟨1, .nil⟩ ⟨0⟩ rfl _ _ ?_ ?_ ?_ 1 ?_ ?_ ?_
  · decide
  · rfl
  · rfl
  · decide +kernel
  · decide
  · decide +kernel

end OpenKitInstance

end OpenKit
