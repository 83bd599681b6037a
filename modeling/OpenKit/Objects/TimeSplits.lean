import OpenKit.Objects.MoveEvents
import OpenKit.Objects.TidyMoves

/-!
# Splitting by time

A proxy replaces its session by a new one when a limit that is enabled has been reached: the time since the
last interaction, or the time since the start of the session. It answers when it is to be asked again, which
is later than the time that it has compared with; it answers a negative value only if there is no limit.

## Main definitions

* `OpenKitInstance.LimitReached`: a limit of a proxy that is enabled has been reached
* `OpenKitInstance.SplitDecision`: how a proxy decides about a split
* `OpenKitInstance.Timed`: no time that was read is negative

## Main results

* `Timed.deed`: all moves keep it so
* `splitDecision_afterCalls`: the decision in all states that are reached
-/

namespace OpenKit

open Thread SessionProxies

namespace OpenKitInstance

variable {env : InstanceEnvironment} {caller : Caller} {s t : OpenKitInstance} {p q : ProxyRef}
  {k : SessionRef}

/-! ## Times -/

/-- No time that was read is negative. -/
structure Timed (s : OpenKitInstance) : Prop where
  lastInteractionTime : ∀ q < s.proxies.size, 0 ≤ (s.proxy q).lastInteractionTime
  sessionStartTime : ∀ k < s.sessions.size, 0 ≤ (s.session k).session.beacon.sessionStartTime

namespace Timed

theorem quiet (h : Timed s) (hquiet : s.Quiet t) : Timed t := by
  refine ⟨fun q hq => ?_, fun k hk => ?_⟩
  · rw [hquiet.proxies_size] at hq
    exact (hquiet.proxy q).lastInteractionTime (h.lastInteractionTime q hq)
  · rw [hquiet.sessions_size] at hk
    rw [(hquiet.session k).sessionStartTime]
    exact h.sessionStartTime k hk

theorem remember (h : Timed s) (event : InstanceEvent) : Timed (s.remember event) :=
  ⟨h.lastInteractionTime, h.sessionStartTime⟩

theorem updateProxy (h : Timed s) {f : SessionProxy → SessionProxy}
    (hf : ∀ proxy, (f proxy).lastInteractionTime = proxy.lastInteractionTime) :
    Timed (s.updateProxy p f) := by
  refine ⟨fun q hq => ?_, h.sessionStartTime⟩
  by_cases hqp : q = p
  · subst hqp
    rw [proxy_updateProxy_self, hf]
    exact h.lastInteractionTime q hq
  · rw [proxy_updateProxy_of_ne hqp]
    exact h.lastInteractionTime q hq

/-- A new session starts at the time that was read. -/
theorem newSession (h : Timed s) (hmade : s.Made env p t) : Timed t := by
  refine ⟨fun q hq => ?_, fun k hk => ?_⟩
  · by_cases hqp : q = p
    · subst hqp
      obtain ⟨c, hproxy⟩ := hmade.proxy.eq
      rw [hproxy]
      exact Int.natCast_nonneg _
    · rw [hmade.proxies_size] at hq
      rw [hmade.proxy_of_ne q hqp]
      exact h.lastInteractionTime q hq
  · by_cases hnew : k = s.sessions.size
    · subst hnew
      obtain ⟨c, hsession, -⟩ := hmade.session
      rw [hsession]
      exact Int.natCast_nonneg _
    · rw [hmade.sessions_size] at hk
      rw [hmade.session_of_ne k hnew]
      exact h.sessionStartTime k (lt_of_le_of_ne (Nat.le_of_lt_succ hk) hnew)

/-- **All moves** read times that are not negative. -/
theorem deed (h : Timed s) {call : InstanceCall} (hdeed : Deed env call s t) : Timed t := by
  cases hdeed with
  | quiet hquiet => exact h.quiet hquiet
  | enter huse hsplit hquiet =>
    refine (Timed.remember ?_ _).quiet hquiet
    split
    · exact h.updateProxy fun _ => rfl
    · exact h
  | forward huse hreport hquiet => exact (h.remember _).quiet hquiet
  | identify huse hquiet =>
    refine Timed.quiet (Timed.updateProxy (h.remember _) fun _ => ?_) hquiet
    rfl
  | @split _ q anew _ s₁ s₂ _ hmade hunfinished hclosed hnew htags =>
    have hclosed' := h.quiet hclosed
    have hprepared : Timed (s₁.prepared env q anew) := by
      cases anew with
      | true =>
        have hdrawn : Timed { s₁ with
            sessionIDProvider := s₁.sessionIDProvider.getNextSessionID.2
            numDraws := s₁.numDraws + 1 } :=
          ⟨hclosed'.lastInteractionTime, hclosed'.sessionStartTime⟩
        refine Timed.remember (Timed.updateProxy hdrawn fun _ => ?_) _
        rfl
      | false => exact hclosed'
    have hmade' := hprepared.newSession hnew
    cases htags with
    | untagged _ => exact hmade'
    | tagged _ _ hquiet => exact (hmade'.remember _).quiet hquiet
  | finish hmade hunfinished hquiet =>
    refine Timed.quiet (Timed.updateProxy (Timed.updateProxy h fun _ => ?_) fun _ => ?_) hquiet
    · rfl
    · rfl
  | create hmade =>
    have hallocated : Timed (s.newProxy env) := by
      refine ⟨fun q hq => ?_, h.sessionStartTime⟩
      by_cases hnew : q = s.proxies.size
      · subst hnew
        have hproxy : (s.newProxy env).proxy s.proxies.size = .new (.new env.openKitConfiguration
            env.privacyConfiguration s.context.httpClientConfiguration.serverID
            s.sessionIDProvider.getNextSessionID.1 (env.random s.numDraws)) := Heap.get_alloc_size
        rw [hproxy]
        exact le_refl 0
      · have hq : q < s.proxies.size := lt_of_le_of_ne (Nat.le_of_lt_succ hq) hnew
        have hproxy : (s.newProxy env).proxy q = s.proxy q := Heap.get_alloc_of_lt hq
        rw [hproxy]
        exact h.lastInteractionTime q hq
    exact hallocated.newSession hmade

end Timed

variable (env) in
theorem timed_afterCalls (http : HTTPClientConfiguration) (provider : SessionIDProvider)
    (calls : List InstanceCall) : Timed ((new http provider env).afterCalls env calls) :=
  moves_induction http provider
    ⟨fun q hq => absurd hq (Nat.not_lt_zero q), fun k hk => absurd hk (Nat.not_lt_zero k)⟩
    (fun _ _ _ _ h hmove => h.deed hmove.deed) calls

/-! ## The decision -/

/-- No limit of the time of a session is enabled. -/
def IsUntimed (config : ServerConfiguration) : Prop :=
  config.isSessionSplitByIdleTimeoutEnabled = false ∧
    config.isSessionSplitBySessionDurationEnabled = false

/-- A limit that is enabled has been reached, by the last interaction and the start of the session. -/
def ReachesLimit (config : ServerConfiguration) (lastInteractionTime sessionStartTime now : ℤ) : Prop :=
  config.isSessionSplitByIdleTimeoutEnabled = true ∧
      lastInteractionTime + config.sessionTimeoutInMilliseconds ≤ now ∨
    config.isSessionSplitBySessionDurationEnabled = true ∧
      sessionStartTime + config.maxSessionDurationInMilliseconds ≤ now

/-- **A limit of a proxy** that is enabled has been reached at some time. -/
def LimitReached (s : OpenKitInstance) (p : ProxyRef) (now : ℤ) : Prop :=
  ∃ c k, (s.proxy p).serverConfiguration = some c ∧ (s.proxy p).currentSession = some k ∧
    ReachesLimit c.get (s.proxy p).lastInteractionTime (s.session k).session.beacon.sessionStartTime now

/-- **The decision of a proxy** at some time: whether its session is replaced, and what it answers. -/
structure SplitDecision (p : ProxyRef) (now answer : ℤ) (s t : OpenKitInstance) : Prop where
  replaced : (t.proxy p).currentSession ≠ (s.proxy p).currentSession ↔ s.LimitReached p now
  later : 0 ≤ answer → now < answer
  untimed : answer < 0 → ∀ c, (s.proxy p).serverConfiguration = some c → IsUntimed c.get

section SplitTime

variable {config : ServerConfiguration} {lastInteractionTime sessionStartTime now : ℤ}

/-- The timeouts of limits that are enabled are positive. -/
theorem sessionTimeout_pos (h : config.isSessionSplitByIdleTimeoutEnabled = true) :
    0 < config.sessionTimeoutInMilliseconds := by
  obtain ⟨-, hpos⟩ := Bool.and_eq_true_iff.mp h
  exact of_decide_eq_true hpos

theorem maxSessionDuration_pos (h : config.isSessionSplitBySessionDurationEnabled = true) :
    0 < config.maxSessionDurationInMilliseconds := by
  obtain ⟨-, hpos⟩ := Bool.and_eq_true_iff.mp h
  exact of_decide_eq_true hpos

theorem splitTime_of_isUntimed (h : IsUntimed config) :
    splitTime config lastInteractionTime sessionStartTime = -1 := by
  rw [splitTime, h.1, h.2]
  rfl

/-- The next split lies after the times that it is calculated from. -/
theorem lt_splitTime (h : ¬ IsUntimed config) {time : ℤ} (hinteraction : time ≤ lastInteractionTime)
    (hstart : time ≤ sessionStartTime) :
    time < splitTime config lastInteractionTime sessionStartTime := by
  rw [splitTime]
  cases hidle : config.isSessionSplitByIdleTimeoutEnabled with
  | true =>
    have htimeout := sessionTimeout_pos hidle
    cases hduration : config.isSessionSplitBySessionDurationEnabled with
    | true =>
      have hmax := maxSessionDuration_pos hduration
      rw [if_pos rfl, if_pos rfl]
      omega
    | false =>
      rw [if_pos rfl, if_neg Bool.false_ne_true]
      omega
  | false =>
    cases hduration : config.isSessionSplitBySessionDurationEnabled with
    | true =>
      have hmax := maxSessionDuration_pos hduration
      rw [if_neg Bool.false_ne_true, if_pos rfl]
      omega
    | false => exact absurd ⟨hidle, hduration⟩ h

/-- A limit has been reached once the time of the next split has come. -/
theorem splitTime_le_iff (h : ¬ IsUntimed config) :
    splitTime config lastInteractionTime sessionStartTime ≤ now ↔
      ReachesLimit config lastInteractionTime sessionStartTime now := by
  rw [splitTime, ReachesLimit]
  cases hidle : config.isSessionSplitByIdleTimeoutEnabled with
  | true =>
    cases hduration : config.isSessionSplitBySessionDurationEnabled with
    | true =>
      rw [if_pos rfl, if_pos rfl, min_le_iff]
      simp
    | false => simp
  | false =>
    cases hduration : config.isSessionSplitBySessionDurationEnabled with
    | true => simp
    | false => exact absurd ⟨hidle, hduration⟩ h

end SplitTime

/-! ## The times of a new session -/

/-- **A split** leaves a new session, which starts at a time that is read in the split. The last
interaction is its start. -/
theorem Split.times {anew : Bool} (h : s.Split env caller p anew t) :
    ∃ k n, s.sessions.size ≤ k ∧ s.numReads ≤ n ∧ (t.proxy p).currentSession = some k ∧
      (t.proxy p).lastInteractionTime = env.clock n ∧
      (t.session k).session.beacon.sessionStartTime = env.clock n := by
  obtain ⟨-, -, hclosed, hmade, htagged⟩ := h
  rename_i s₁ s₂
  have hsize : s.sessions.size ≤ s₁.sessions.size := (Grows.closed hclosed).sessions_size
  have hprepared : (s₁.prepared env p anew).sessions.size = s₁.sessions.size ∧
      (s₁.prepared env p anew).numReads = s₁.numReads := by
    cases anew with
    | true => exact ⟨rfl, rfl⟩
    | false => exact ⟨rfl, rfl⟩
  have hcurrent := htagged.currentSession.trans hmade.currentSession
  refine ⟨_, (s₁.prepared env p anew).numReads, ?_, ?_, hcurrent, ?_, ?_⟩
  · rw [hprepared.1]
    exact hsize
  · rw [hprepared.2]
    exact hclosed.numReads
  · obtain ⟨children, hchildren⟩ := htagged.proxy p
    obtain ⟨c, hproxy⟩ := hmade.proxy.eq
    rw [hchildren, hproxy]
    rfl
  · obtain ⟨c, hsession, -⟩ := hmade.session
    have hstart : (s₂.session (s₁.prepared env p anew).sessions.size).session.beacon.sessionStartTime =
        env.clock (s₁.prepared env p anew).numReads := by
      rw [hsession]
      rfl
    rw [← hstart]
    cases htagged with
    | untagged _ => rfl
    | @tagged k _ _ =>
      have hrun : SessionRun k (s₂.remember (.reTagged p k (s₂.proxy p).lastUserTag))
          (ranOn _ k (SessionCalls.perform caller (.identifyUser (s₂.proxy p).lastUserTag))) :=
        sessionRun_perform (.identifyUser (s₂.proxy p).lastUserTag)
      obtain ⟨session, hsame, hbeacon⟩ := hrun.sameSession (s₁.prepared env p anew).sessions.size
      rw [hsame]
      exact hbeacon.sessionStartTime

theorem isUntimed_iff_of_sameForLife {c c' : ServerConfiguration} (h : c.SameForLife c') :
    IsUntimed c' ↔ IsUntimed c := by
  rw [IsUntimed, IsUntimed, h.isSessionSplitByIdleTimeoutEnabled,
    h.isSessionSplitBySessionDurationEnabled]

/-- A proxy that leaves its session in place. -/
theorem splitDecision_of_kept {answer now : ℤ}
    (hcurrent : (t.proxy p).currentSession = (s.proxy p).currentSession)
    (hlimit : ¬ s.LimitReached p now) (hlater : 0 ≤ answer → now < answer)
    (huntimed : answer < 0 → ∀ c, (s.proxy p).serverConfiguration = some c → IsUntimed c.get) :
    s.SplitDecision p now answer t :=
  ⟨iff_of_false (fun hne => hne hcurrent) hlimit, hlater, huntimed⟩

variable (caller) in
/-- **The decision of a proxy in use**, if the clock does not go backwards. -/
theorem splitDecision_of_sound (hsound : s.Sound) (htidy : Tidy s) (htimed : Timed s)
    (hclock : Monotone env.clock) (hp : p < s.proxies.size)
    (hunfinished : (s.proxy p).isFinished = false) :
    ∃ answer t, (splitSessionByTime env p caller).run s = (.ok answer, t) ∧
      s.SplitDecision p (env.clock s.numReads) answer t := by
  obtain ⟨k, hcurrent⟩ := hsound.live p hp hunfinished
  have hk := htidy.lt_of_inUse ⟨hp, hunfinished, hcurrent⟩
  have hrun (hearly : s.nextSplitTime p k < 0 ∨ env.clock s.numReads < s.nextSplitTime p k) :
      (splitSessionByTime env p caller).run s =
        (.ok (s.nextSplitTime p k), { s with numReads := s.numReads + 1 }) :=
    run_splitSessionByTime_of_not_split hunfinished hcurrent hearly
  rcases hconfig : (s.proxy p).serverConfiguration with _ | c
  · have hnext : s.nextSplitTime p k = -1 := by
      rw [nextSplitTime, hconfig]
    refine ⟨_, _, hrun (.inl (by rw [hnext]; decide)), splitDecision_of_kept rfl ?_ ?_ ?_⟩
    · rintro ⟨c, k', hsome, -⟩
      cases hconfig.symm.trans hsome
    · intro hnonneg
      rw [hnext] at hnonneg
      exact absurd hnonneg (by decide)
    · intro _ c hsome
      cases hconfig.symm.trans hsome
  · have hnext : s.nextSplitTime p k = splitTime c.get (s.proxy p).lastInteractionTime
        (s.session k).session.beacon.sessionStartTime := by
      rw [nextSplitTime, hconfig]
    have hreached : s.LimitReached p (env.clock s.numReads) ↔ ReachesLimit c.get
        (s.proxy p).lastInteractionTime (s.session k).session.beacon.sessionStartTime
        (env.clock s.numReads) := by
      constructor
      · rintro ⟨c', k', hc', hk', hlimit⟩
        obtain rfl := Option.some.inj (hconfig.symm.trans hc')
        obtain rfl := Option.some.inj (hcurrent.symm.trans hk')
        exact hlimit
      · exact fun hlimit => ⟨c, k, hconfig, hcurrent, hlimit⟩
    by_cases huntimed : IsUntimed c.get
    · rw [splitTime_of_isUntimed huntimed] at hnext
      refine ⟨_, _, hrun (.inl (by rw [hnext]; decide)), splitDecision_of_kept rfl ?_ ?_ ?_⟩
      · rw [hreached, ReachesLimit, huntimed.1, huntimed.2]
        simp
      · intro hnonneg
        rw [hnext] at hnonneg
        exact absurd hnonneg (by decide)
      · intro _ c' hc'
        obtain rfl := Option.some.inj (hconfig.symm.trans hc')
        exact huntimed
    · have hpos : 0 < s.nextSplitTime p k := by
        rw [hnext]
        exact lt_splitTime huntimed (htimed.lastInteractionTime p hp) (htimed.sessionStartTime k hk)
      rw [← splitTime_le_iff huntimed, ← hnext] at hreached
      by_cases hearly : env.clock s.numReads < s.nextSplitTime p k
      · refine ⟨_, _, hrun (.inr hearly), splitDecision_of_kept rfl ?_ (fun _ => hearly) ?_⟩
        · rw [hreached]
          exact not_le.mpr hearly
        · intro hneg
          exact absurd hpos hneg.not_gt
      · -- the limit is reached, and the new session has its whole time
        have hlate := not_lt.mp hearly
        obtain ⟨k', t, hrun', hsplit, hcurrent'⟩ := run_splitSessionByTime_of_split env caller
          hunfinished hcurrent (hsound.settled k) ⟨hpos.le, hlate⟩
        obtain ⟨k'', n, hnew, hn, hcurrent'', hinteraction, hstart⟩ := hsplit.times
        obtain rfl := Option.some.inj (hcurrent'.symm.trans hcurrent'')
        obtain ⟨c', hconfig', hsame⟩ := hsplit.splitProxy.sameForLife c hconfig
        have hanswer : env.clock s.numReads < t.nextSplitTime p k' := by
          have htime : (env.clock s.numReads : ℤ) ≤ env.clock n :=
            Int.ofNat_le.mpr (hclock ((Nat.le_succ _).trans hn))
          rw [nextSplitTime, hconfig', hinteraction, hstart]
          exact lt_splitTime (mt (isUntimed_iff_of_sameForLife hsame).mp huntimed) htime htime
        refine ⟨_, t, hrun', ⟨iff_of_true ?_ (hreached.mpr hlate), fun _ => hanswer, fun hneg => ?_⟩⟩
        · rw [hcurrent', hcurrent]
          intro hsame
          obtain rfl := Option.some.inj hsame
          exact absurd hk (Nat.not_lt.mpr hnew)
        · exact absurd ((Int.natCast_nonneg _).trans_lt hanswer) hneg.not_gt

/-- **Splitting by time** decides so in every state that is reached. -/
theorem splitDecision_afterCalls (http : HTTPClientConfiguration) (provider : SessionIDProvider)
    (calls : List InstanceCall) (threadID : ℤ) (hclock : Monotone env.clock)
    (hp : p < ((new http provider env).afterCalls env calls).proxies.size)
    (hunfinished : (((new http provider env).afterCalls env calls).proxy p).isFinished = false) :
    ∃ answer t, (splitSessionByTime env p ⟨threadID, env.clock⟩).run
        ((new http provider env).afterCalls env calls) = (.ok answer, t) ∧
      ((new http provider env).afterCalls env calls).SplitDecision p
        (env.clock ((new http provider env).afterCalls env calls).numReads) answer t :=
  splitDecision_of_sound ⟨threadID, env.clock⟩ (sound_afterCalls env http provider calls)
    (tidy_afterCalls env http provider calls) (timed_afterCalls env http provider calls) hclock hp
    hunfinished

/-- A response that splits sessions that are idle for ten milliseconds. -/
def idleTimeoutAnswer : Answer :=
  ⟨0, ResponseAttributes.jsonResponse.withSessionTimeoutInMilliseconds 10, 200, 0⟩

/-- An environment in which ten milliseconds pass between two readings of the clock. -/
def tickingEnvironment : InstanceEnvironment := { InstanceEnvironment.plain with clock := fun n => 10 * n }

/-- A proxy whose session has been idle for its timeout. -/
def idleProxy : OpenKitInstance :=
  (new ⟨1, .nil⟩ ⟨0⟩ tickingEnvironment).afterCalls tickingEnvironment
    [.createSession, .requestNewSession 0 (some idleTimeoutAnswer)]

/-- What is left when the proxy is asked. -/
def idleSplit : Except InstanceFault ℤ × OpenKitInstance :=
  (splitSessionByTime tickingEnvironment 0 ⟨1, tickingEnvironment.clock⟩).run idleProxy

/-- The proxy replaces its session, and answers the time at which the new one may have been idle for that long. -/
theorem splitDecision_idleProxy :
    idleSplit.1 = .ok 30 ∧ idleProxy.SplitDecision 0 10 30 idleSplit.2 ∧
      (idleProxy.proxy 0).currentSession = some 0 ∧ (idleSplit.2.proxy 0).currentSession = some 1 := by
  have hclock : Monotone tickingEnvironment.clock := fun _ _ h => Nat.mul_le_mul_left 10 h
  have hmade : 0 < idleProxy.proxies.size := by decide
  have hunfinished : (idleProxy.proxy 0).isFinished = false := by decide
  have hnow : ((tickingEnvironment.clock idleProxy.numReads : ℕ) : ℤ) = 10 := by decide
  have hanswer : idleSplit.1 = .ok 30 := by decide
  obtain ⟨answer, t, hrun, hdecision⟩ := splitDecision_afterCalls ⟨1, .nil⟩ ⟨0⟩
    [.createSession, .requestNewSession 0 (some idleTimeoutAnswer)] 1 hclock hmade hunfinished
  have hsplit : idleSplit = (.ok answer, t) := hrun
  rw [hsplit] at hanswer ⊢
  obtain rfl : answer = 30 := Except.ok.inj hanswer
  refine ⟨rfl, hnow ▸ hdecision, by decide, ?_⟩
  rw [← congrArg Prod.snd hsplit]
  decide

end OpenKitInstance

end OpenKit
