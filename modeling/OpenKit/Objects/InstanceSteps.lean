import OpenKit.Objects.InstanceCalls

/-!
# What calls do to an instance

Whatever is called, a proxy keeps the server id that its creator was built with, and what its server
configuration says for life, once it has one; a session keeps its parent and the server id of its
HTTP client. No call reports the start of a session. Sessions that are made belong to proxies, and a
session is configured by the sender, or by its proxy at a split.

## Main definitions

* `SessionProxy.Evolves`, `SessionObject.Evolves`: what a proxy and a session keep
* `OpenKitInstance.Extends`: what an instance keeps
* `OpenKitInstance.WellParented`, `Inherits`: a session that belongs to a proxy, and one that is
  configured like its proxy
* `InstanceStep`: what a call other than the creation of a proxy may do

## Main results

* `instanceStep_afterReport`, `instanceStep_configure`, `instanceStep_newSession` and so on: the changes
  of an instance are such steps
* `inherits_configure`: a session that is configured by its proxy is configured like its proxy
-/

namespace OpenKit

open Thread

/-! ## What is kept -/

/-- A proxy that is in use has a current session. -/
def SessionProxy.IsLive (proxy : SessionProxy) : Prop :=
  proxy.isFinished = true ∨ proxy.currentSession.isSome = true

/-- What a proxy keeps. -/
structure SessionProxy.Evolves (proxy proxy' : SessionProxy) : Prop where
  serverId : proxy'.sessionCreator.serverId = proxy.sessionCreator.serverId
  serverConfiguration : ∀ c, proxy.serverConfiguration = some c →
    ∃ c', proxy'.serverConfiguration = some c' ∧ c.get.SameForLife c'.get
  isFinished : proxy.isFinished = true → proxy'.isFinished = true
  isLive : proxy.IsLive → proxy'.IsLive

namespace SessionProxy.Evolves

variable {proxy proxy' proxy'' : SessionProxy}

theorem refl (proxy : SessionProxy) : proxy.Evolves proxy :=
  ⟨rfl, fun c hc => ⟨c, hc, .refl _⟩, id, id⟩

theorem trans (h : proxy.Evolves proxy') (h' : proxy'.Evolves proxy'') : proxy.Evolves proxy'' := by
  refine ⟨h'.serverId.trans h.serverId, fun c hc => ?_, h'.isFinished ∘ h.isFinished,
    h'.isLive ∘ h.isLive⟩
  obtain ⟨c', hc', hsame⟩ := h.serverConfiguration c hc
  obtain ⟨c'', hc'', hsame'⟩ := h'.serverConfiguration c' hc'
  exact ⟨c'', hc'', hsame.trans hsame'⟩

/-- A change of what is not kept. -/
theorem of_same (hserverId : proxy'.sessionCreator.serverId = proxy.sessionCreator.serverId)
    (hconfig : proxy'.serverConfiguration = proxy.serverConfiguration)
    (hfinished : proxy'.isFinished = proxy.isFinished)
    (hcurrent : proxy'.currentSession = proxy.currentSession) : proxy.Evolves proxy' := by
  refine ⟨hserverId, fun c hc => ⟨c, hconfig.trans hc, .refl _⟩, hfinished.trans, ?_⟩
  rw [IsLive, IsLive, hfinished, hcurrent]
  exact id

/-- No configuration comes from nowhere. -/
theorem serverConfiguration_eq_none (h : proxy.Evolves proxy')
    (hnone : proxy'.serverConfiguration = none) : proxy.serverConfiguration = none := by
  rcases hconfig : proxy.serverConfiguration with _ | c
  · rfl
  · obtain ⟨c', hc', -⟩ := h.serverConfiguration c hconfig
    cases hnone.symm.trans hc'

end SessionProxy.Evolves

/-- What a session keeps. -/
structure SessionObject.Evolves (o o' : SessionObject) : Prop where
  parent : o'.parent = o.parent
  httpClientConfiguration : o'.httpClientConfiguration = o.httpClientConfiguration
  beaconConfiguration : o.beaconConfiguration.Evolves o'.beaconConfiguration

namespace SessionObject.Evolves

variable {o o' o'' : SessionObject}

theorem refl (o : SessionObject) : o.Evolves o := ⟨rfl, rfl, .refl _⟩

theorem trans (h : o.Evolves o') (h' : o'.Evolves o'') : o.Evolves o'' :=
  ⟨h'.parent.trans h.parent, h'.httpClientConfiguration.trans h.httpClientConfiguration,
    h.beaconConfiguration.trans h'.beaconConfiguration⟩

theorem isConfigured (h : o.Evolves o') (hconfigured : o.session.isConfigured = true) :
    o'.session.isConfigured = true :=
  h.beaconConfiguration.isServerConfigurationSet hconfigured

end SessionObject.Evolves

namespace OpenKitInstance

/-- What an instance keeps: all its proxies and sessions, and the records. A record is never one of the
start of a session. -/
structure Extends (s s' : OpenKitInstance) : Prop where
  proxies_size : s.proxies.size ≤ s'.proxies.size
  proxy : ∀ p < s.proxies.size, (s.proxy p).Evolves (s'.proxy p)
  sessions_size : s.sessions.size ≤ s'.sessions.size
  session : ∀ k < s.sessions.size, (s.session k).Evolves (s'.session k)
  records : ∃ new, s'.records = s.records ++ new ∧
    ∀ record ∈ new, EventData.HasEventTypeOf (· ≠ .sessionStart) record.2.data

namespace Extends

variable {s s' s'' : OpenKitInstance}

theorem refl (s : OpenKitInstance) : s.Extends s :=
  ⟨le_refl _, fun _ _ => .refl _, le_refl _, fun _ _ => .refl _, [], (List.append_nil _).symm,
    List.forall_mem_nil _⟩

theorem trans (h : s.Extends s') (h' : s'.Extends s'') : s.Extends s'' := by
  obtain ⟨new, hrecords, hnew⟩ := h.records
  obtain ⟨new', hrecords', hnew'⟩ := h'.records
  refine ⟨h.proxies_size.trans h'.proxies_size, fun p hp => ?_,
    h.sessions_size.trans h'.sessions_size, fun k hk => ?_, new ++ new', ?_, ?_⟩
  · exact (h.proxy p hp).trans (h'.proxy p (hp.trans_le h.proxies_size))
  · exact (h.session k hk).trans (h'.session k (hk.trans_le h.sessions_size))
  · rw [hrecords', hrecords, List.append_assoc]
  · exact List.forall_mem_append.mpr ⟨hnew, hnew'⟩

end Extends

/-- A session belongs to a proxy, and its HTTP client has the server id of the proxy's creator. -/
structure WellParented (s : OpenKitInstance) (k : SessionRef) : Prop where
  parent : (s.session k).parent < s.proxies.size
  serverID : (s.session k).httpClientConfiguration.serverID =
    (s.proxy (s.session k).parent).sessionCreator.serverId

/-- A session is configured with the server id of its proxy's configuration. -/
structure Inherits (s : OpenKitInstance) (k : SessionRef) : Prop where
  parent : (s.session k).parent < s.proxies.size
  isConfigured : (s.session k).session.isConfigured = true
  serverId : ∃ c, (s.proxy (s.session k).parent).serverConfiguration = some c ∧
    (s.session k).beaconConfiguration.getServerConfiguration.serverId = c.get.serverId

variable {s s' : OpenKitInstance} {k : SessionRef}

theorem Extends.wellParented (h : s.Extends s') (hk : k < s.sessions.size)
    (hwell : s.WellParented k) : s'.WellParented k := by
  have hsession := h.session k hk
  constructor
  · rw [hsession.parent]
    exact hwell.parent.trans_le h.proxies_size
  · rw [hsession.parent, hsession.httpClientConfiguration, (h.proxy _ hwell.parent).serverId]
    exact hwell.serverID

theorem Extends.inherits (h : s.Extends s') (hk : k < s.sessions.size) (hinherits : s.Inherits k) :
    s'.Inherits k := by
  have hsession := h.session k hk
  obtain ⟨c, hc, hserverId⟩ := hinherits.serverId
  obtain ⟨c', hc', hsame⟩ := (h.proxy _ hinherits.parent).serverConfiguration c hc
  refine ⟨?_, hsession.isConfigured hinherits.isConfigured, c', ?_, ?_⟩
  · rw [hsession.parent]
    exact hinherits.parent.trans_le h.proxies_size
  · rw [hsession.parent]
    exact hc'
  · rw [(hsession.beaconConfiguration.sameForLife hinherits.isConfigured).serverId, hserverId,
      hsame.serverId]

end OpenKitInstance

/-! ## Steps -/

/-- What a call may do that makes no proxy. Sessions are configured as their proxy is, but for those
that the sender configures in this step. -/
structure InstanceStep (configures : SessionRef → Prop) (s s' : OpenKitInstance) : Prop
    extends s.Extends s' where
  proxies_size_eq : s'.proxies.size = s.proxies.size
  made : ∀ k, s.sessions.size ≤ k → k < s'.sessions.size → s'.WellParented k
  configured : ∀ k < s'.sessions.size, (s'.session k).session.isConfigured = true →
    k < s.sessions.size ∧ (s.session k).session.isConfigured = true ∨ s'.Inherits k ∨ configures k

namespace InstanceStep

variable {configures : SessionRef → Prop} {s s' s'' : OpenKitInstance} {k : SessionRef}

theorem refl (s : OpenKitInstance) : InstanceStep configures s s :=
  ⟨.refl s, rfl, fun _ hk hk' => absurd (hk.trans_lt hk') (lt_irrefl _),
    fun _ hk hconfigured => .inl ⟨hk, hconfigured⟩⟩

theorem trans (h : InstanceStep configures s s') (h' : InstanceStep configures s' s'') :
    InstanceStep configures s s'' := by
  refine ⟨h.toExtends.trans h'.toExtends, h'.proxies_size_eq.trans h.proxies_size_eq,
    fun k hk hk'' => ?_, fun k hk'' hconfigured => ?_⟩
  · by_cases hk' : k < s'.sessions.size
    · exact h'.toExtends.wellParented hk' (h.made k hk hk')
    · exact h'.made k (not_lt.mp hk') hk''
  · rcases h'.configured k hk'' hconfigured with ⟨hk', hconfigured'⟩ | hnow
    · rcases h.configured k hk' hconfigured' with hbefore | hinherits | hsender
      · exact .inl hbefore
      · exact .inr (.inl (h'.toExtends.inherits hk' hinherits))
      · exact .inr (.inr hsender)
    · exact .inr hnow

/-- A step that works on the proxies only. -/
theorem of_proxies (hsize : s'.proxies.size = s.proxies.size)
    (hproxy : ∀ p, (s.proxy p).Evolves (s'.proxy p)) (hsessions : s'.sessions = s.sessions)
    (hrecords : s'.records = s.records) : InstanceStep configures s s' := by
  have hsession (k : SessionRef) : s'.session k = s.session k := by
    rw [OpenKitInstance.session, hsessions, OpenKitInstance.session]
  refine ⟨⟨hsize.ge, fun p _ => hproxy p, (congrArg Heap.size hsessions).ge, fun k _ => ?_, [], ?_,
    List.forall_mem_nil _⟩, hsize, fun k hk hk' => ?_, fun k hk hconfigured => ?_⟩
  · rw [hsession]
    exact .refl _
  · rw [hrecords, List.append_nil]
  · rw [hsessions] at hk'
    exact absurd (hk.trans_lt hk') (lt_irrefl _)
  · rw [hsessions] at hk
    rw [hsession] at hconfigured
    exact .inl ⟨hk, hconfigured⟩

/-- A step that works on one session, and reports for it. -/
theorem of_session {f : SessionObject → SessionObject} (hproxies : s'.proxies = s.proxies)
    (hsessions : s'.sessions = s.sessions.modify k f)
    (hevolves : (s.session k).Evolves (f (s.session k)))
    (hconfigured : (f (s.session k)).session.isConfigured = true →
      (s.session k).session.isConfigured = true ∨ configures k)
    (hrecords : ∃ new, s'.records = s.records ++ new ∧
      ∀ record ∈ new, EventData.HasEventTypeOf (· ≠ .sessionStart) record.2.data) :
    InstanceStep configures s s' := by
  have hproxy (p : ProxyRef) : s'.proxy p = s.proxy p := by
    rw [OpenKitInstance.proxy, hproxies, OpenKitInstance.proxy]
  have hsession (k' : SessionRef) : s'.session k' = (s.sessions.modify k f).get k' := by
    rw [OpenKitInstance.session, hsessions]
  have hsize : s'.sessions.size = s.sessions.size := by
    rw [hsessions]
    rfl
  have hproxies_size : s'.proxies.size = s.proxies.size := congrArg Heap.size hproxies
  refine ⟨⟨hproxies_size.ge, fun p _ => ?_, hsize.ge, fun k' _ => ?_, hrecords⟩, hproxies_size,
    fun k' hk hk' => ?_, fun k' hk' hconf => ?_⟩
  · rw [hproxy]
    exact .refl _
  · rw [hsession]
    exact Heap.get_modify_of_forall .refl hevolves k'
  · rw [hsize] at hk'
    exact absurd (hk.trans_lt hk') (lt_irrefl _)
  · rw [hsize] at hk'
    rw [hsession] at hconf
    by_cases hne : k' = k
    · subst hne
      rw [Heap.get_modify_self] at hconf
      rcases hconfigured hconf with hbefore | hsender
      · exact .inl ⟨hk', hbefore⟩
      · exact .inr (.inr hsender)
    · rw [Heap.get_modify_of_ne hne] at hconf
      exact .inl ⟨hk', hconf⟩

/-- What the sender seems to configure may be as the proxy is. -/
theorem of_inherits (h : InstanceStep (· = k) s s') (hinherits : s'.Inherits k) :
    InstanceStep configures s s' := by
  refine ⟨h.toExtends, h.proxies_size_eq, h.made, fun k' hk' hconfigured => ?_⟩
  rcases h.configured k' hk' hconfigured with hbefore | hnow | rfl
  · exact .inl hbefore
  · exact .inr (.inl hnow)
  · exact .inr (.inl hinherits)

theorem mono {configures' : SessionRef → Prop} (h : InstanceStep configures s s')
    (hmono : ∀ k, configures k → configures' k) : InstanceStep configures' s s' :=
  ⟨h.toExtends, h.proxies_size_eq, h.made, fun k hk hconfigured =>
    (h.configured k hk hconfigured).imp_right (Or.imp_right (hmono k))⟩

/-- A step that works on neither. -/
theorem of_same (hproxies : s'.proxies = s.proxies) (hsessions : s'.sessions = s.sessions)
    (hrecords : s'.records = s.records) : InstanceStep configures s s' := by
  refine of_proxies (congrArg Heap.size hproxies) (fun p => ?_) hsessions hrecords
  rw [OpenKitInstance.proxy, OpenKitInstance.proxy, hproxies]
  exact .refl _

/-- What is remembered does not matter. -/
theorem remember (h : InstanceStep configures s s') (event : InstanceEvent) :
    InstanceStep configures s (s'.remember event) :=
  h.trans (.of_same rfl rfl rfl)

end InstanceStep

namespace OpenKitInstance

variable {configures : SessionRef → Prop} {s : OpenKitInstance} {p : ProxyRef} {k : SessionRef}

theorem instanceStep_updateProxy {f : SessionProxy → SessionProxy}
    (h : (s.proxy p).Evolves (f (s.proxy p))) :
    InstanceStep configures s (s.updateProxy p f) :=
  .of_proxies rfl (Heap.get_modify_of_forall .refl h) rfl rfl

/-- A change of a proxy that leaves its server id, configuration, state and session alone. -/
theorem instanceStep_updateProxy_of_same {f : SessionProxy → SessionProxy}
    (hserverId : ∀ proxy, (f proxy).sessionCreator.serverId = proxy.sessionCreator.serverId)
    (hconfig : ∀ proxy, (f proxy).serverConfiguration = proxy.serverConfiguration)
    (hfinished : ∀ proxy, (f proxy).isFinished = proxy.isFinished)
    (hcurrent : ∀ proxy, (f proxy).currentSession = proxy.currentSession) :
    InstanceStep configures s (s.updateProxy p f) :=
  instanceStep_updateProxy (.of_same (hserverId _) (hconfig _) (hfinished _) (hcurrent _))

theorem instanceStep_onChildClosed : InstanceStep configures s (s.onChildClosed k) := by
  have hchildren : InstanceStep configures s
      (s.updateProxy (s.session k).parent fun proxy =>
        { proxy with children := proxy.children.erase k }) :=
    instanceStep_updateProxy_of_same (fun _ => rfl) (fun _ => rfl) (fun _ => rfl) fun _ => rfl
  exact hchildren.trans (.of_same rfl rfl rfl)

/-- What a program on a session leaves. -/
theorem instanceStep_afterReport {r : Reporting}
    (h : CallStepOf (· ≠ .sessionStart) ⟨(s.session k).session, s.numReads, []⟩ r) :
    InstanceStep configures s (s.afterReport k r) := by
  have hconfiguration : r.session.beacon.beaconConfiguration =
      (s.session k).session.beacon.beaconConfiguration := h.beacon.beaconConfiguration
  have hreport : InstanceStep configures s
      { s.updateSession k (·.setSession r.session) with
        numReads := r.numReads
        records := s.records ++ r.records.map fun record => (k, record) } := by
    refine .of_session (f := (·.setSession r.session)) rfl rfl ⟨rfl, rfl, ?_⟩
      (fun hconfigured => .inl ?_) ⟨_, rfl, ?_⟩
    · show BeaconConfiguration.Evolves _ r.session.beacon.beaconConfiguration
      rw [hconfiguration]
      exact .refl _
    · rw [← hconfigured]
      exact congrArg (·.isServerConfigurationSet) hconfiguration.symm
    · intro record hrecord
      obtain ⟨record', hrecord', rfl⟩ := List.mem_map.mp hrecord
      exact h.hasEventTypeOf r.records rfl record' hrecord'
  rw [afterReport]
  split
  · exact hreport.trans instanceStep_onChildClosed
  · exact hreport

theorem instanceStep_addToSplitByTimeout : InstanceStep configures s (s.addToSplitByTimeout p) := by
  rw [addToSplitByTimeout]
  split
  · exact .refl s
  · exact .of_same rfl rfl rfl

/-- The first configuration is taken over, and later ones change nothing for life. -/
theorem instanceStep_onServerConfigurationUpdate (serverConfig : ServerConfigurationRef) :
    InstanceStep configures s (s.onServerConfigurationUpdate p serverConfig) := by
  rw [onServerConfigurationUpdate]
  split
  next serverConfiguration hsome =>
    refine instanceStep_updateProxy ⟨rfl, fun c hc => ?_, id, id⟩
    obtain rfl := Option.some.inj (hsome.symm.trans hc)
    exact ⟨_, rfl, serverConfiguration.get.sameForLife_merge serverConfig.get⟩
  next hnone =>
    have htaken : InstanceStep configures s (s.updateProxy p fun proxy =>
        { proxy with serverConfiguration := some serverConfig }) :=
      instanceStep_updateProxy ⟨rfl, fun c hc => (by cases hnone.symm.trans hc), id, id⟩
    dsimp only
    split
    · exact htaken
    · split
      · exact htaken.trans instanceStep_addToSplitByTimeout
      · exact htaken

/-- A session changes its configuration, and tells its proxy. -/
theorem instanceStep_configure
    {f : BeaconConfiguration → BeaconConfiguration × Option ServerConfigurationRef}
    (hevolves : ∀ c : BeaconConfiguration, c.Evolves (f c).1)
    (hconfigured : ∀ c, (f c).1.isServerConfigurationSet = true →
      c.isServerConfigurationSet = true ∨ configures k) :
    InstanceStep configures s (s.configure k f) := by
  let result := f (s.session k).beaconConfiguration
  let g (o : SessionObject) := o.setSession (o.session.configure fun _ => result.1)
  have hsession : InstanceStep configures s (s.updateSession k g) :=
    .of_session (f := g) rfl rfl ⟨rfl, rfl, hevolves _⟩ (hconfigured _)
      ⟨[], (List.append_nil _).symm, List.forall_mem_nil _⟩
  rw [configure]
  split
  · exact hsession
  · exact hsession.trans (instanceStep_onServerConfigurationUpdate _)

/-! ## New sessions -/

/-- A proxy makes a session, which it has not configured yet. -/
theorem instanceStep_newSession (hp : p < s.proxies.size) {f : SessionProxy → SessionProxy}
    (hf : (s.proxy p).Evolves (f (s.proxy p))) {o : SessionObject} (hparent : o.parent = p)
    (hserverID : o.httpClientConfiguration.serverID = (s.proxy p).sessionCreator.serverId)
    (hunset : o.session.isConfigured = false) :
    InstanceStep configures s { s.updateProxy p f with sessions := s.sessions.alloc o } := by
  have hproxy (q : ProxyRef) : (s.proxy q).Evolves ((s.updateProxy p f).proxy q) :=
    Heap.get_modify_of_forall .refl hf q
  refine ⟨⟨le_refl _, fun q _ => hproxy q, Nat.le_succ _, fun k hk => ?_, [],
    (List.append_nil _).symm, List.forall_mem_nil _⟩, rfl, fun k hk hk' => ?_,
    fun k hk hconfigured => ?_⟩
  · show (s.session k).Evolves ((s.sessions.alloc o).get k)
    rw [Heap.get_alloc_of_lt hk]
    exact .refl _
  · obtain rfl : k = s.sessions.size := le_antisymm (Nat.le_of_lt_succ hk') hk
    constructor
    · show ((s.sessions.alloc o).get _).parent < s.proxies.size
      rw [Heap.get_alloc_size, hparent]
      exact hp
    · show ((s.sessions.alloc o).get _).httpClientConfiguration.serverID =
        ((s.updateProxy p f).proxy ((s.sessions.alloc o).get _).parent).sessionCreator.serverId
      rw [Heap.get_alloc_size, hparent, hserverID, (hproxy p).serverId]
  · rcases Nat.lt_succ_iff_lt_or_eq.mp hk with hlt | rfl
    · refine .inl ⟨hlt, ?_⟩
      rw [← hconfigured]
      exact congrArg (·.session.isConfigured) (Heap.get_alloc_of_lt hlt).symm
    · have hnew : ((s.sessions.alloc o).get s.sessions.size).session.isConfigured = true :=
        hconfigured
      rw [Heap.get_alloc_size, hunset] at hnew
      cases hnew

/-- A session of a proxy that is not configured yet. -/
structure Fresh (s : OpenKitInstance) (p : ProxyRef) (k : SessionRef) : Prop where
  parent : (s.session k).parent = p
  isConfigured : (s.session k).session.isConfigured = false

theorem Fresh.configure (h : s.Fresh p k)
    {f : BeaconConfiguration → BeaconConfiguration × Option ServerConfigurationRef}
    (hf : ∀ c, (f c).1.isServerConfigurationSet = c.isServerConfigurationSet) :
    (s.configure k f).Fresh p k := by
  constructor
  · rw [session_configure]
    exact h.parent
  · rw [session_configure, ← h.isConfigured]
    exact hf _

/-! ## Configuring a session for the first time -/

section Configure

variable (hunset : (s.session k).session.isConfigured = false) (config : ServerConfigurationRef)

include hunset

/-- The session takes over the configuration, and its proxy is told. -/
theorem configure_updateServerConfiguration_of_unset :
    s.configure k (·.updateServerConfiguration (some config)) =
      (s.updateSession k fun o => o.setSession (o.session.configure fun _ =>
        { (s.session k).beaconConfiguration with
          serverConfiguration := some config
          isServerConfigurationSet := true })).onServerConfigurationUpdate
        (s.session k).parent config :=
  configure_of_some (f := (·.updateServerConfiguration (some config)))
    (BeaconConfiguration.updateServerConfiguration_of_unset
      (c := (s.session k).beaconConfiguration) hunset config)

theorem beaconConfiguration_configure_of_unset :
    ((s.configure k (·.updateServerConfiguration (some config))).session k).beaconConfiguration =
      { (s.session k).beaconConfiguration with
        serverConfiguration := some config
        isServerConfigurationSet := true } := by
  rw [session_configure]
  exact congrArg Prod.fst (BeaconConfiguration.updateServerConfiguration_of_unset
    (c := (s.session k).beaconConfiguration) hunset config)

/-- A proxy without a configuration takes over that of its session. -/
theorem serverConfiguration_configure_of_none
    (hnone : (s.proxy (s.session k).parent).serverConfiguration = none) :
    ((s.configure k (·.updateServerConfiguration (some config))).proxy
      (s.session k).parent).serverConfiguration = some config := by
  rw [configure_updateServerConfiguration_of_unset hunset, proxy,
    proxies_onServerConfigurationUpdate_of_none (by exact hnone), ← proxy, proxy_updateProxy_self]

/-- Another one merges it into its own. -/
theorem serverConfiguration_configure_of_some {c : ServerConfigurationRef}
    (hsome : (s.proxy (s.session k).parent).serverConfiguration = some c) :
    ((s.configure k (·.updateServerConfiguration (some config))).proxy
      (s.session k).parent).serverConfiguration = some (.made (c.get.merge config.get)) := by
  rw [configure_updateServerConfiguration_of_unset hunset,
    onServerConfigurationUpdate_of_some (c := c) (by exact hsome), proxy_updateProxy_self]

end Configure

/-- A session that takes over the server id of its proxy's configuration. -/
theorem inherits_configure (hfresh : s.Fresh p k) (hp : p < s.proxies.size)
    {c config : ServerConfigurationRef} (hc : (s.proxy p).serverConfiguration = some c)
    (hserverId : c.get.serverId = config.get.serverId) :
    (s.configure k (·.updateServerConfiguration (some config))).Inherits k := by
  obtain ⟨rfl, hunset⟩ := hfresh
  have hstep : InstanceStep (fun _ => True) s
      (s.configure k (·.updateServerConfiguration (some config))) :=
    instanceStep_configure (·.evolves_updateServerConfiguration _) fun _ _ => .inr trivial
  have hparent : ((s.configure k (·.updateServerConfiguration (some config))).session k).parent =
      (s.session k).parent := by
    rw [session_configure]
    rfl
  have hset := beaconConfiguration_configure_of_unset hunset config
  constructor
  · rw [hparent, hstep.proxies_size_eq]
    exact hp
  · exact congrArg BeaconConfiguration.isServerConfigurationSet hset
  · refine ⟨.made (c.get.merge config.get), ?_, ?_⟩
    · rw [hparent]
      exact serverConfiguration_configure_of_some hunset config hc
    · rw [hset]
      exact hserverId.symm

end OpenKitInstance

end OpenKit
