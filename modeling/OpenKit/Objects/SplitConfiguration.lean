import OpenKit.Objects.InstanceRuns

/-!
# The split settings of a proxy

The response to a new-session request may limit the duration, the events and the idle time of sessions.
The session it configures takes it over as it is, and tells its proxy. A proxy that has no configuration
takes it over as well. One that has been told of a configuration before keeps the limits of that one,
also if it is a copy of the default that was made only to turn capturing off.

## Main definitions

* `ServerConfiguration.HasSplitSettings`: a configuration has the limits that some attributes set
* `OpenKitInstance.newConfiguration`: what a call configures a session with
* `FirstSplitTurn`: the first time that a session of a proxy is configured with limits
* `SplitSettingsReach`: in a run, these limits reach the proxy and stay

## Main results

* `hasSplitSettings_afterCall_iff`: what a proxy does with the configuration of its session
* `splitSettingsReach_iff`: they do, exactly if the proxies had none before, or the same
-/

namespace OpenKit

open BeaconSendingResponseUtil

/-- Some attributes set a limit for sessions. -/
def ResponseAttributes.setsSplitting (a : ResponseAttributes) : Bool :=
  a.isAttributeSet .maxSessionDuration || a.isAttributeSet .maxEventsPerSession ||
    a.isAttributeSet .sessionIdleTimeout

namespace ServerConfiguration

/-- The limits that the attributes set, with their values, and enabled if these are positive. -/
structure HasSplitSettings (c : ServerConfiguration) (a : ResponseAttributes) : Prop where
  sessionDuration : a.isAttributeSet .maxSessionDuration = true →
    c.maxSessionDurationInMilliseconds = a.maxSessionDurationInMilliseconds ∧
      c.isSessionSplitBySessionDurationEnabled = decide (a.maxSessionDurationInMilliseconds > 0)
  events : a.isAttributeSet .maxEventsPerSession = true →
    c.maxEventsPerSession = a.maxEventsPerSession ∧
      c.isSessionSplitByEventsEnabled = decide (a.maxEventsPerSession > 0)
  idleTimeout : a.isAttributeSet .sessionIdleTimeout = true →
    c.sessionTimeoutInMilliseconds = a.sessionTimeoutInMilliseconds ∧
      c.isSessionSplitByIdleTimeoutEnabled = decide (a.sessionTimeoutInMilliseconds > 0)

theorem hasSplitSettings_ofAttributes (a : ResponseAttributes) :
    (ofAttributes a).HasSplitSettings a where
  sessionDuration h := by
    refine ⟨rfl, ?_⟩
    show (a.isAttributeSet .maxSessionDuration && _) = _
    rw [h, Bool.true_and]
    rfl
  events h := by
    refine ⟨rfl, ?_⟩
    show (a.isAttributeSet .maxEventsPerSession && _) = _
    rw [h, Bool.true_and]
    rfl
  idleTimeout h := by
    refine ⟨rfl, ?_⟩
    show (a.isAttributeSet .sessionIdleTimeout && _) = _
    rw [h, Bool.true_and]
    rfl

/-- The limits are kept for life. -/
theorem SameForLife.hasSplitSettings_iff {c c' : ServerConfiguration} (h : c.SameForLife c')
    (a : ResponseAttributes) : c'.HasSplitSettings a ↔ c.HasSplitSettings a := by
  constructor
  · intro hsettings
    constructor
    · rw [← h.maxSessionDurationInMilliseconds, ← h.isSessionSplitBySessionDurationEnabled]
      exact hsettings.sessionDuration
    · rw [← h.maxEventsPerSession, ← h.isSessionSplitByEventsEnabled]
      exact hsettings.events
    · rw [← h.sessionTimeoutInMilliseconds, ← h.isSessionSplitByIdleTimeoutEnabled]
      exact hsettings.idleTimeout
  · intro hsettings
    constructor
    · rw [h.maxSessionDurationInMilliseconds, h.isSessionSplitBySessionDurationEnabled]
      exact hsettings.sessionDuration
    · rw [h.maxEventsPerSession, h.isSessionSplitByEventsEnabled]
      exact hsettings.events
    · rw [h.sessionTimeoutInMilliseconds, h.isSessionSplitByIdleTimeoutEnabled]
      exact hsettings.idleTimeout

end ServerConfiguration

namespace OpenKitInstance

/-! ## Configuring a session by a response -/

/-- The session that a call configures by the response to its request, with the attributes that are
merged from all responses so far. -/
def newConfiguration (s : OpenKitInstance) :
    InstanceCall → Option (SessionRef × ResponseAttributes)
  | .requestNewSession k statusResponse =>
    if k < s.sessions.size ∧ (s.session k).session.isConfigured = false ∧
        (s.session k).session.canSendNewSessionRequest = true ∧
        isSuccessfulResponse statusResponse = true then
      some (k, (s.context.updateFrom statusResponse).1)
    else none
  | _ => none

variable {env : InstanceEnvironment} {s : OpenKitInstance} {call : InstanceCall} {k : SessionRef}
  {a : ResponseAttributes}

theorem newConfiguration_requestNewSession {statusResponse : Option Answer}
    (hk : k < s.sessions.size) (hunset : (s.session k).session.isConfigured = false)
    (hcan : (s.session k).session.canSendNewSessionRequest = true)
    (hsuccess : isSuccessfulResponse statusResponse = true) :
    s.newConfiguration (.requestNewSession k statusResponse) =
      some (k, (s.context.updateFrom statusResponse).1) :=
  if_pos ⟨hk, hunset, hcan, hsuccess⟩

variable (env) in
/-- What such a call does. -/
theorem afterCall_of_newConfiguration (h : s.newConfiguration call = some (k, a)) :
    k < s.sessions.size ∧ (s.session k).session.isConfigured = false ∧
      ∃ context, s.afterCall env call = { s with context := context }.configure k
        (·.updateServerConfiguration (some (.ofAttributes a))) := by
  cases call with
  | requestNewSession k' statusResponse =>
    rw [newConfiguration] at h
    split at h
    next hcond =>
      obtain ⟨hk, hunset, hcan, hsuccess⟩ := hcond
      obtain ⟨rfl, rfl⟩ := Prod.mk.inj (Option.some.inj h)
      have hvalid : (InstanceCall.requestNewSession k' statusResponse).isValid s = true :=
        decide_eq_true hk
      refine ⟨hk, hunset, (s.context.updateFrom statusResponse).2, ?_⟩
      rw [afterCall, run_perform_of_isValid hvalid]
      show s.requestNewSession k' statusResponse = _
      rw [requestNewSession, hunset, if_neg Bool.false_ne_true, hcan, Bool.not_true,
        if_neg Bool.false_ne_true, if_pos hsuccess]
    next => cases h
  | _ => cases h

/-- The proxy of the session takes over the configuration, or merges it into what it has. -/
theorem serverConfiguration_afterCall (h : s.newConfiguration call = some (k, a)) :
    ((s.afterCall env call).proxy (s.session k).parent).serverConfiguration =
      some (match (s.proxy (s.session k).parent).serverConfiguration with
        | none => .ofAttributes a
        | some c => .made (c.get.merge (.ofAttributes a))) := by
  obtain ⟨-, hunset, context, hafter⟩ := afterCall_of_newConfiguration env h
  rw [hafter]
  rcases hconfig : (s.proxy (s.session k).parent).serverConfiguration with _ | c
  · exact serverConfiguration_configure_of_none (s := { s with context := context }) hunset _ hconfig
  · exact serverConfiguration_configure_of_some (s := { s with context := context }) hunset _ hconfig

variable (env) in
/-- **The proxy has the limits** exactly if it had none of its own, or the same. -/
theorem hasSplitSettings_afterCall_iff (h : s.newConfiguration call = some (k, a)) :
    (∃ c, ((s.afterCall env call).proxy (s.session k).parent).serverConfiguration = some c ∧
        c.get.HasSplitSettings a) ↔
      ∀ c, (s.proxy (s.session k).parent).serverConfiguration = some c →
        c.get.HasSplitSettings a := by
  rw [serverConfiguration_afterCall h]
  rcases (s.proxy (s.session k).parent).serverConfiguration with _ | c
  · constructor
    · intro _ c hc
      cases hc
    · exact fun _ => ⟨_, rfl, ServerConfiguration.hasSplitSettings_ofAttributes a⟩
  · have hkept := (c.get.sameForLife_merge (.ofAttributes a)).hasSplitSettings_iff a
    constructor
    · rintro ⟨c', hc', hsettings⟩ c'' hc''
      obtain rfl := Option.some.inj hc'
      obtain rfl := Option.some.inj hc''
      exact hkept.mp hsettings
    · exact fun hsettings => ⟨_, rfl, hkept.mpr (hsettings c rfl)⟩

/-! ## Runs -/

/-- After some calls of a run, the next call configures a session of a proxy with limits. -/
def SplitTurn (env : InstanceEnvironment) (s : OpenKitInstance) (earlier : List InstanceCall)
    (call : InstanceCall) (p : ProxyRef) (a : ResponseAttributes) : Prop :=
  ∃ k, (s.afterCalls env earlier).newConfiguration call = some (k, a) ∧
    ((s.afterCalls env earlier).session k).parent = p ∧ a.setsSplitting = true

/-- It is the first such call for this proxy. -/
def FirstSplitTurn (env : InstanceEnvironment) (s : OpenKitInstance) (earlier : List InstanceCall)
    (call : InstanceCall) (p : ProxyRef) (a : ResponseAttributes) : Prop :=
  SplitTurn env s earlier call p a ∧
    ∀ before call' a', before ++ [call'] <+: earlier → ¬ SplitTurn env s before call' p a'

/-- In a run, the first limits that a session of a proxy is configured with reach the proxy, and stay. -/
def SplitSettingsReach (env : InstanceEnvironment) (s : OpenKitInstance)
    (calls : List InstanceCall) : Prop :=
  ∀ earlier call p a, FirstSplitTurn env s earlier call p a →
    ∀ reached, earlier ++ [call] <+: reached → reached <+: calls →
      ∃ c, ((s.afterCalls env reached).proxy p).serverConfiguration = some c ∧
        c.get.HasSplitSettings a

/-- **Split settings** reach the proxy in every run, exactly if at the first call that configures a session
of a proxy with limits, the proxy has no configuration of its own yet, or one with the same limits. -/
theorem splitSettingsReach_iff (http : HTTPClientConfiguration) (provider : SessionIDProvider)
    (calls : List InstanceCall) :
    SplitSettingsReach env (new http provider env) calls ↔
      ∀ earlier call p a, earlier ++ [call] <+: calls →
        FirstSplitTurn env (new http provider env) earlier call p a →
        ∀ c, (((new http provider env).afterCalls env earlier).proxy p).serverConfiguration = some c →
          c.get.HasSplitSettings a := by
  constructor
  · intro h earlier call p a hprefix hfirst
    have hreached := h earlier call p a hfirst _ List.prefix_rfl hprefix
    obtain ⟨⟨k, hturn, rfl, -⟩, -⟩ := hfirst
    rw [afterCalls_concat] at hreached
    exact (hasSplitSettings_afterCall_iff env hturn).mp hreached
  · intro h earlier call p a hfirst reached hturned hprefix
    have hbefore := h earlier call p a (hturned.trans hprefix) hfirst
    obtain ⟨⟨k, hturn, rfl, -⟩, -⟩ := hfirst
    obtain ⟨c, hc, hsettings⟩ := (hasSplitSettings_afterCall_iff env hturn).mpr hbefore
    obtain ⟨later, rfl⟩ := hturned
    rw [← afterCalls_concat] at hc
    -- what the proxy has by then it keeps for life
    have hmade := (afterCall_of_newConfiguration env hturn).1
    have hp := (wellParented_afterCalls http provider earlier hmade).parent
    have hp' := hp.trans_le (extends_afterCalls env [call]).proxies_size
    rw [← afterCalls_append] at hp'
    obtain ⟨c', hc', hsame⟩ := ((extends_afterCalls env later).proxy _ hp').serverConfiguration c hc
    rw [← afterCalls_append] at hc'
    exact ⟨c', hc', (hsame.hasSplitSettings_iff a).mpr hsettings⟩

theorem SplitTurn.isRequest {earlier : List InstanceCall} {p : ProxyRef}
    (h : SplitTurn env s earlier call p a) :
    ∃ k statusResponse, call = .requestNewSession k statusResponse := by
  obtain ⟨k, hturn, -⟩ := h
  cases call with
  | requestNewSession k statusResponse => exact ⟨k, statusResponse, rfl⟩
  | _ => cases hturn

/-- The first status request is refused because the server is overloaded, a session is created, and then
a status request succeeds. -/
def overloadedCalls : List InstanceCall :=
  [.onContext .disableCaptureAndClear, .createSession,
    .onContext (.handleStatusResponse (some captureOnAnswer))]

/-- A successful response that limits the events of a session. -/
def eventsAnswer : Answer :=
  ⟨0, ResponseAttributes.jsonResponse.withMaxEventsPerSession 3, 200, 0⟩

/-- The instance after these calls. -/
def overloadedInstance : OpenKitInstance :=
  (new ⟨1, .nil⟩ ⟨0⟩ .plain).afterCalls .plain overloadedCalls

/-- The limit that the session is configured with does not reach its proxy. -/
theorem not_splitSettingsReach : ¬ ∀ (env : InstanceEnvironment) (http : HTTPClientConfiguration)
    (provider : SessionIDProvider) (calls : List InstanceCall),
    SplitSettingsReach env (new http provider env) calls := by
  intro h
  let call : InstanceCall := .requestNewSession 0 (some eventsAnswer)
  let a : ResponseAttributes := (overloadedInstance.context.updateFrom (some eventsAnswer)).1
  have hturn : overloadedInstance.newConfiguration call = some (0, a) :=
    newConfiguration_requestNewSession (by decide) (by decide) (by decide)
      (by decide)
  have hfirst : FirstSplitTurn .plain (new ⟨1, .nil⟩ ⟨0⟩ .plain) overloadedCalls call 0 a := by
    refine ⟨⟨0, hturn, by decide, by decide⟩, fun before call' a' hbefore hearlier => ?_⟩
    obtain ⟨k, statusResponse, rfl⟩ := hearlier.isRequest
    have hmem := hbefore.subset (List.mem_append_right _ List.mem_cons_self)
    simp [overloadedCalls] at hmem
  obtain ⟨c, hc, hsettings⟩ :=
    h .plain ⟨1, .nil⟩ ⟨0⟩ _ overloadedCalls call 0 a hfirst _ List.prefix_rfl List.prefix_rfl
  -- the proxy has the copy of the default, without a limit
  have hkept : ((overloadedInstance.afterCall .plain (.requestNewSession 0 (some eventsAnswer))).proxy
      0).serverConfiguration.map (·.get.maxEventsPerSession) = some (-1) := by decide
  have hlimit : c.get.maxEventsPerSession = 3 := (hsettings.events (by decide)).1
  rw [afterCalls_concat] at hc
  rw [overloadedInstance, hc, Option.map_some, hlimit] at hkept
  exact absurd hkept (by decide)

end OpenKitInstance

end OpenKit
