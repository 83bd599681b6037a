import OpenKit.Objects.SplitConfiguration
import OpenKit.Objects.WebRequestTag

/-!
# The servers that tags and HTTP clients name

The tags of a session name the server of its server configuration. The beacon of the session is sent by
a client for the server that the context knew when the proxy was created. So the two name the same
server exactly if the configuration of the session has not brought another id.

## Main definitions

* `SessionObject.TagsNameTransport`: all tags name the server that the beacon is sent to
* `SessionObject.NamesServers`: the tags name one server, and the HTTP client another one
* `OpenKitInstance.ConfiguredWith`: the server id that a session is configured with in a run
* `OpenKitInstance.CreatedWith`: the server id that a proxy is created with in a run

## Main results

* `namesServers_afterCalls`: what the tags and the HTTP client name after any calls
-/

namespace OpenKit

namespace SessionObject

/-- **All tags name the server** of the client that `send` creates. -/
def TagsNameTransport (o : SessionObject) : Prop :=
  o.beaconConfiguration.privacyConfiguration.isWebRequestTracingAllowed = true →
    ∀ threadID parentActionID sequenceNumber,
      CarriesServerId (o.createTag threadID parentActionID sequenceNumber)
        o.httpClientConfiguration.serverID

theorem tagsNameTransport_iff {o : SessionObject}
    (hallowed : o.beaconConfiguration.privacyConfiguration.isWebRequestTracingAllowed = true) :
    o.TagsNameTransport ↔
      o.beaconConfiguration.getServerConfiguration.serverId = o.httpClientConfiguration.serverID := by
  constructor
  · intro h
    exact (carriesServerId_createTag hallowed 0 0 0).unique (h hallowed 0 0 0)
  · intro hsame _ threadID parentActionID sequenceNumber
    rw [← hsame]
    exact carriesServerId_createTag hallowed threadID parentActionID sequenceNumber

/-- Without the consent of the user there are no tags. -/
theorem createTag_of_not_allowed {o : SessionObject}
    (h : o.beaconConfiguration.privacyConfiguration.isWebRequestTracingAllowed = false)
    (threadID parentActionID sequenceNumber : ℤ) :
    o.createTag threadID parentActionID sequenceNumber = .nil := by
  rw [createTag, h, Bool.not_false, if_pos rfl]

/-- The tags name a server, and the HTTP client is one for another server; they are the same only if
the ids are. Without the consent of the user there are no tags. -/
structure NamesServers (o : SessionObject) (serverId serverID : ℤ) : Prop where
  client : o.httpClientConfiguration.serverID = serverID
  tags : o.beaconConfiguration.privacyConfiguration.isWebRequestTracingAllowed = true →
    ∀ threadID parentActionID sequenceNumber,
      CarriesServerId (o.createTag threadID parentActionID sequenceNumber) serverId
  tagsNameTransport_iff :
    o.beaconConfiguration.privacyConfiguration.isWebRequestTracingAllowed = true →
      (o.TagsNameTransport ↔ serverId = serverID)
  createTag_eq_nil :
    o.beaconConfiguration.privacyConfiguration.isWebRequestTracingAllowed = false →
      ∀ threadID parentActionID sequenceNumber,
        o.createTag threadID parentActionID sequenceNumber = .nil

theorem namesServers (o : SessionObject) :
    o.NamesServers o.beaconConfiguration.getServerConfiguration.serverId
      o.httpClientConfiguration.serverID where
  client := rfl
  tags := carriesServerId_createTag
  tagsNameTransport_iff := tagsNameTransport_iff
  createTag_eq_nil := createTag_of_not_allowed

end SessionObject

namespace OpenKitInstance

variable {env : InstanceEnvironment} {s : OpenKitInstance} {call : InstanceCall}
  {calls earlier : List InstanceCall} {p : ProxyRef} {k : SessionRef} {a : ResponseAttributes}
  {serverId : ℤ}

/-! ## The server of a configuration -/

/-- A session is configured, for a server. -/
structure HasServerId (s : OpenKitInstance) (k : SessionRef) (serverId : ℤ) : Prop where
  made : k < s.sessions.size
  isConfigured : (s.session k).session.isConfigured = true
  serverId_eq : (s.session k).beaconConfiguration.getServerConfiguration.serverId = serverId

theorem HasServerId.afterCalls (h : s.HasServerId k serverId) (calls : List InstanceCall) :
    (s.afterCalls env calls).HasServerId k serverId := by
  have hextends := extends_afterCalls env (s := s) calls
  have hsession := hextends.session k h.made
  constructor
  · exact h.made.trans_le hextends.sessions_size
  · exact hsession.isConfigured h.isConfigured
  · rw [← h.serverId_eq]
    exact (hsession.beaconConfiguration.sameForLife h.isConfigured).serverId

/-- A response names the server of the session that it configures. -/
theorem hasServerId_of_newConfiguration (h : s.newConfiguration call = some (k, a)) :
    (s.afterCall env call).HasServerId k a.serverId := by
  obtain ⟨hk, hunset, context, hafter⟩ := afterCall_of_newConfiguration env h
  have hset := beaconConfiguration_configure_of_unset (s := { s with context := context }) hunset
    (.ofAttributes a)
  rw [← hafter] at hset
  constructor
  · exact hk.trans_le (extends_afterCall call).sessions_size
  · exact congrArg BeaconConfiguration.isServerConfigurationSet hset
  · rw [hset]
    rfl

/-- A call on a proxy makes a session that is configured at once, as the proxy is. -/
structure SplitConfigures (env : InstanceEnvironment) (s : OpenKitInstance) (call : InstanceCall)
    (k : SessionRef) (c : ServerConfigurationRef) : Prop where
  isOnProxy : ∃ p threadID proxyCall, call = .onProxy p threadID proxyCall
  unmade : s.sessions.size ≤ k
  made : k < (s.afterCall env call).sessions.size
  isConfigured : ((s.afterCall env call).session k).session.isConfigured = true
  serverConfiguration : ((s.afterCall env call).proxy
    ((s.afterCall env call).session k).parent).serverConfiguration = some c

theorem SplitConfigures.hasServerId {c : ServerConfigurationRef}
    (h : SplitConfigures env s call k c) : (s.afterCall env call).HasServerId k c.get.serverId := by
  obtain ⟨p, threadID, proxyCall, rfl⟩ := h.isOnProxy
  have hmakes : InstanceCall.onProxy p threadID proxyCall ≠ .createSession := by
    intro hcall
    cases hcall
  rcases (instanceStep_afterCall hmakes).configured k h.made h.isConfigured with ⟨hk, -⟩ | hinherits | hsender
  · exact absurd h.unmade (not_le.mpr hk)
  · obtain ⟨c', hc', hserverId⟩ := hinherits.serverId
    obtain rfl := Option.some.inj (h.serverConfiguration.symm.trans hc')
    exact ⟨h.made, h.isConfigured, hserverId⟩
  · exact hsender.elim

/-- In a run, a session is configured for a server: by the response to its request, or by a split, as its
proxy is. -/
def ConfiguredWith (env : InstanceEnvironment) (s : OpenKitInstance) (calls : List InstanceCall)
    (k : SessionRef) (serverId : ℤ) : Prop :=
  ∃ earlier call, earlier ++ [call] <+: calls ∧
    ((∃ a, (s.afterCalls env earlier).newConfiguration call = some (k, a) ∧ a.serverId = serverId) ∨
      ∃ c, SplitConfigures env (s.afterCalls env earlier) call k c ∧ c.get.serverId = serverId)

/-- **A session keeps the server** that it was configured for. -/
theorem ConfiguredWith.hasServerId (h : ConfiguredWith env s calls k serverId) :
    (s.afterCalls env calls).HasServerId k serverId := by
  obtain ⟨earlier, call, ⟨later, rfl⟩, hconfigured⟩ := h
  rw [afterCalls_append, afterCalls_concat]
  apply HasServerId.afterCalls
  rcases hconfigured with ⟨a, hnew, rfl⟩ | ⟨c, hsplit, rfl⟩
  · exact hasServerId_of_newConfiguration hnew
  · exact hsplit.hasServerId

/-! ## The server of a client -/

/-- In a run, a proxy is created while the HTTP client of the context is one for a server. -/
def CreatedWith (env : InstanceEnvironment) (s : OpenKitInstance) (calls : List InstanceCall)
    (p : ProxyRef) (serverID : ℤ) : Prop :=
  ∃ earlier, earlier ++ [.createSession] <+: calls ∧ (s.afterCalls env earlier).proxies.size = p ∧
    (s.afterCalls env earlier).context.httpClientConfiguration.serverID = serverID

theorem CreatedWith.concat (h : CreatedWith env s calls p serverId) (call : InstanceCall) :
    CreatedWith env s (calls ++ [call]) p serverId := by
  obtain ⟨earlier, hprefix, hcreated⟩ := h
  exact ⟨earlier, hprefix.trans (List.prefix_append _ _), hcreated⟩

/-- The creator of a new proxy has the server id of the context. -/
theorem serverId_afterCall_createSession :
    ((s.afterCall env .createSession).proxy s.proxies.size).sessionCreator.serverId =
      s.context.httpClientConfiguration.serverID := by
  rw [(instanceStep_afterCall_createSession.proxy _ size_newProxy).serverId]
  show ((s.proxies.alloc _).get s.proxies.size).sessionCreator.serverId = _
  rw [Heap.get_alloc_size]
  rfl

section Run

variable (http : HTTPClientConfiguration) (provider : SessionIDProvider)

/-- **Every proxy** was created for the server of its creator. -/
theorem createdWith_afterCalls (calls : List InstanceCall) {p : ProxyRef}
    (hp : p < ((new http provider env).afterCalls env calls).proxies.size) :
    CreatedWith env (new http provider env) calls p
      (((new http provider env).afterCalls env calls).proxy p).sessionCreator.serverId := by
  induction calls using List.reverseRecOn with
  | nil => exact absurd hp (Nat.not_lt_zero _)
  | append_singleton calls call ih =>
    rw [afterCalls_concat] at hp ⊢
    by_cases hold : p < ((new http provider env).afterCalls env calls).proxies.size
    · rw [((extends_afterCall call).proxy p hold).serverId]
      exact (ih hold).concat call
    · -- only the creation of a session makes a proxy
      by_cases hcall : call = .createSession
      · subst hcall
        rw [instanceStep_afterCall_createSession.proxies_size_eq] at hp
        obtain rfl := le_antisymm (Nat.le_of_lt_succ hp) (not_lt.mp hold)
        exact ⟨calls, List.prefix_rfl, rfl, serverId_afterCall_createSession.symm⟩
      · rw [(instanceStep_afterCall hcall).proxies_size_eq] at hp
        exact absurd hp hold

/-- **What tags and transport name.** A session that was configured for a server names that server in
every tag from then on. Its client is one for the server that the context knew when its proxy was
created. -/
theorem namesServers_afterCalls (calls : List InstanceCall) {k : SessionRef} {serverId : ℤ}
    (h : ConfiguredWith env (new http provider env) calls k serverId) :
    ∃ serverID, CreatedWith env (new http provider env) calls
        (((new http provider env).afterCalls env calls).session k).parent serverID ∧
      (((new http provider env).afterCalls env calls).session k).NamesServers serverId serverID := by
  have hserverId := h.hasServerId
  have hwell := wellParented_afterCalls http provider calls hserverId.made
  refine ⟨_, createdWith_afterCalls http provider calls hwell.parent, ?_⟩
  rw [← hwell.serverID, ← hserverId.serverId_eq]
  exact SessionObject.namesServers _

end Run

/-- A successful response of another server. -/
def serverAnswer : Answer := ⟨0, ResponseAttributes.jsonResponse.withServerId 5, 200, 0⟩

/-- A session is created, and configured by such a response. -/
def movedCalls : List InstanceCall :=
  [.createSession, .requestNewSession 0 (some serverAnswer)]

/-- The instance after the first call. -/
def createdInstance : OpenKitInstance :=
  (new ⟨1, .nil⟩ ⟨0⟩ .plain).afterCalls .plain [.createSession]

/-- The instance after both calls. -/
def movedInstance : OpenKitInstance := (new ⟨1, .nil⟩ ⟨0⟩ .plain).afterCalls .plain movedCalls

theorem configuredWith_movedCalls :
    ConfiguredWith .plain (new ⟨1, .nil⟩ ⟨0⟩ .plain) movedCalls 0 5 := by
  have hnew : createdInstance.newConfiguration (.requestNewSession 0 (some serverAnswer)) =
      some (0, (createdInstance.context.updateFrom (some serverAnswer)).1) :=
    newConfiguration_requestNewSession (by decide) (by decide) (by decide)
      (by decide)
  exact ⟨[.createSession], _, List.prefix_rfl, .inl ⟨_, hnew, by decide⟩⟩

theorem namesServers_movedCalls :
    ∃ serverID, CreatedWith .plain (new ⟨1, .nil⟩ ⟨0⟩ .plain) movedCalls
        (movedInstance.session 0).parent serverID ∧
      (movedInstance.session 0).NamesServers 5 serverID :=
  namesServers_afterCalls ⟨1, .nil⟩ ⟨0⟩ movedCalls configuredWith_movedCalls

/-- The tags of this session name the new server, but its client is one for the old server. -/
theorem not_tagsNameTransport : ¬ ∀ (env : InstanceEnvironment) (http : HTTPClientConfiguration)
    (provider : SessionIDProvider) (calls : List InstanceCall) (k : SessionRef) (serverId : ℤ),
    ConfiguredWith env (new http provider env) calls k serverId →
      (((new http provider env).afterCalls env calls).session k).TagsNameTransport := by
  intro h
  have hmoved : (movedInstance.session 0).TagsNameTransport :=
    h .plain ⟨1, .nil⟩ ⟨0⟩ movedCalls 0 5 configuredWith_movedCalls
  have hallowed : (movedInstance.session 0).beaconConfiguration.privacyConfiguration.isWebRequestTracingAllowed =
      true := by decide
  have hsame := (SessionObject.tagsNameTransport_iff hallowed).mp hmoved
  have hconfig : (movedInstance.session 0).beaconConfiguration.getServerConfiguration.serverId = 5 := by
    decide
  have hclient : (movedInstance.session 0).httpClientConfiguration.serverID = 1 := by decide
  rw [hconfig, hclient] at hsame
  exact absurd hsame (by decide)

end OpenKitInstance

end OpenKit
