import OpenKit.Objects.NoLeaks

/-!
# Identifying the user of split sessions

A session that is split off is told the user whom the application has identified last. A split happens
inside another call, which may itself identify a user: the new session is told the user of the last call
that has completed, and before anything else.

## Main definitions

* `OpenKitInstance.callsOn`: the calls that were forwarded to a session, with the automatic ones
* `OpenKitInstance.TaggedFirst`: the first call on a session identifies its user, and no later one does
  so automatically
* `OpenKitInstance.lastTag`: the tag of the last identification that has completed

## Main results

* `Tagging.deed`: what moves do to the calls on sessions
* `taggedFirst_afterCalls`: sessions are re-tagged in all runs
-/

namespace OpenKit

open Thread SessionProxies

namespace InstanceEvent

/-- The event is a call on a session. -/
def isOn (k : SessionRef) : InstanceEvent → Bool
  | forwarded _ k' _ => k' = k
  | reTagged _ k' _ => k' = k
  | _ => false

/-- The event is an automatic identification. -/
def isReTag : InstanceEvent → Bool
  | reTagged _ _ _ => true
  | _ => false

end InstanceEvent

namespace OpenKitInstance

variable {env : InstanceEnvironment} {s t u : OpenKitInstance} {p q : ProxyRef} {j k : SessionRef}

/-- The calls that were forwarded to a session, and the automatic ones. -/
def callsOn (s : OpenKitInstance) (k : SessionRef) : List InstanceEvent :=
  s.events.filter (·.isOn k)

/-- **The user is identified first**: an automatic identification is the first call on a session of a
proxy, and there is no other one. There is none at all if the tag is empty. -/
def TaggedFirst (p : ProxyRef) (k : SessionRef) (tag : UTF8String) (s : OpenKitInstance) : Prop :=
  if tag.isEmpty then ∀ event ∈ s.callsOn k, event.isReTag = false
  else ∃ rest, s.callsOn k = .reTagged p k tag :: rest ∧ ∀ event ∈ rest, event.isReTag = false

theorem callsOn_append {new : List InstanceEvent} (h : t.events = s.events ++ new) :
    t.callsOn k = s.callsOn k ++ new.filter (·.isOn k) := by
  rw [callsOn, h, List.filter_append]
  rfl

/-- The calls on a session are kept, and no automatic identification is among the new ones. -/
def KeepsCalls (k : SessionRef) (s t : OpenKitInstance) : Prop :=
  ∃ new, t.callsOn k = s.callsOn k ++ new ∧ ∀ event ∈ new, event.isReTag = false

namespace KeepsCalls

theorem of_events {new : List InstanceEvent} (h : t.events = s.events ++ new)
    (hnew : ∀ event ∈ new, event.isOn k = true → event.isReTag = false) : KeepsCalls k s t := by
  refine ⟨new.filter (·.isOn k), callsOn_append h, fun event hevent => ?_⟩
  obtain ⟨hmem, hon⟩ := List.mem_filter.mp hevent
  exact hnew event hmem hon

theorem of_eq (h : t.events = s.events) : KeepsCalls k s t :=
  of_events (h.trans (List.append_nil _).symm) (List.forall_mem_nil _)

theorem trans (h : KeepsCalls k s t) (h' : KeepsCalls k t u) : KeepsCalls k s u := by
  obtain ⟨new, hcalls, hnew⟩ := h
  obtain ⟨new', hcalls', hnew'⟩ := h'
  refine ⟨new ++ new', ?_, List.forall_mem_append.mpr ⟨hnew, hnew'⟩⟩
  rw [hcalls', hcalls, List.append_assoc]

/-- A call that is forwarded. -/
theorem forwarded {call : SessionCall} : KeepsCalls k s (s.remember (.forwarded p j call)) :=
  of_events rfl (List.forall_mem_singleton.mpr fun _ => rfl)

/-- The first call stays the first one. -/
theorem taggedFirst {tag : UTF8String} (h : KeepsCalls k s t) (htagged : s.TaggedFirst p k tag) :
    t.TaggedFirst p k tag := by
  obtain ⟨new, hcalls, hnew⟩ := h
  rw [TaggedFirst] at htagged ⊢
  split at htagged
  next hempty =>
    rw [if_pos hempty, hcalls]
    exact List.forall_mem_append.mpr ⟨htagged, hnew⟩
  next hempty =>
    obtain ⟨rest, hfirst, hrest⟩ := htagged
    rw [if_neg hempty, hcalls, hfirst]
    exact ⟨rest ++ new, rfl, List.forall_mem_append.mpr ⟨hrest, hnew⟩⟩

end KeepsCalls

/-! ## What moves do to the calls on sessions -/

/-- There are no calls on sessions that have not been made. -/
def UnmadeUncalled (s : OpenKitInstance) : Prop := ∀ k, s.sessions.size ≤ k → s.callsOn k = []

/-- **From one instance to another**, without an identification by the application and without a new
proxy: each new session is told the last user first, and no other session is told automatically. -/
structure Tagging (s t : OpenKitInstance) : Prop where
  proxies_size : t.proxies.size = s.proxies.size
  sessions_size : s.sessions.size ≤ t.sessions.size
  lastUserTag : ∀ q, (t.proxy q).lastUserTag = (s.proxy q).lastUserTag
  kept : ∀ k < s.sessions.size, KeepsCalls k s t
  made : ∀ k < t.sessions.size, s.sessions.size ≤ k →
    t.TaggedFirst (t.session k).parent k (s.proxy (t.session k).parent).lastUserTag
  parent : ∀ k < s.sessions.size, (t.session k).parent = (s.session k).parent
  unmade : t.UnmadeUncalled

namespace Tagging

theorem trans (h : Tagging s t) (h' : Tagging t u) : Tagging s u := by
  refine ⟨h'.proxies_size.trans h.proxies_size, h.sessions_size.trans h'.sessions_size,
    fun q => (h'.lastUserTag q).trans (h.lastUserTag q), fun k hk => ?_, fun k hk hnew => ?_,
    fun k hk => ?_, h'.unmade⟩
  · exact (h.kept k hk).trans (h'.kept k (hk.trans_le h.sessions_size))
  · by_cases hold : k < t.sessions.size
    · rw [h'.parent k hold]
      exact (h'.kept k hold).taggedFirst (h.made k hold hnew)
    · rw [← h.lastUserTag]
      exact h'.made k hk (Nat.le_of_not_lt hold)
  · rw [h'.parent k (hk.trans_le h.sessions_size)]
    exact h.parent k hk

/-- A step that makes no session. -/
theorem of_old (hunmade : s.UnmadeUncalled) (hproxies : t.proxies.size = s.proxies.size)
    (hsessions : t.sessions.size = s.sessions.size)
    (htag : ∀ q, (t.proxy q).lastUserTag = (s.proxy q).lastUserTag)
    (hparent : ∀ k, (t.session k).parent = (s.session k).parent) {new : List InstanceEvent}
    (hevents : t.events = s.events ++ new)
    (hnew : ∀ event ∈ new, event.isReTag = false ∧ ∀ k, s.sessions.size ≤ k → event.isOn k = false) :
    Tagging s t := by
  refine ⟨hproxies, hsessions.ge, htag, fun k hk => ?_, fun k hk hnew => ?_, fun k _ => hparent k,
    fun k hk => ?_⟩
  · exact .of_events hevents fun event hevent _ => (hnew event hevent).1
  · rw [hsessions] at hk
    exact absurd hk (Nat.not_lt.mpr hnew)
  · rw [hsessions] at hk
    rw [callsOn_append hevents, hunmade k hk, List.nil_append]
    exact List.filter_eq_nil_iff.mpr fun event hevent hon =>
      Bool.false_ne_true (((hnew event hevent).2 k hk).symm.trans hon)

theorem quiet (hunmade : s.UnmadeUncalled) (h : s.Quiet t) : Tagging s t :=
  of_old hunmade h.proxies_size h.sessions_size (fun q => (h.proxy q).lastUserTag)
    (fun k => (h.session k).parent) (h.events.trans (List.append_nil _).symm) (List.forall_mem_nil _)

/-- A call that is forwarded to a session that has been made. -/
theorem forwarded (call : SessionCall) (p : ProxyRef) (hunmade : s.UnmadeUncalled)
    (hk : k < s.sessions.size) :
    Tagging s (s.remember (.forwarded p k call)) := by
  refine of_old hunmade rfl rfl (fun _ => rfl) (fun _ => rfl) rfl
    (List.forall_mem_singleton.mpr ⟨rfl, fun j hj => decide_eq_false ?_⟩)
  rintro rfl
  exact absurd hk (Nat.not_lt.mpr hj)

/-- A change of a proxy that keeps its last user. -/
theorem updateProxy (hunmade : s.UnmadeUncalled) {f : SessionProxy → SessionProxy}
    (hf : ∀ proxy, (f proxy).lastUserTag = proxy.lastUserTag) : Tagging s (s.updateProxy p f) := by
  refine of_old hunmade rfl rfl (fun q => ?_) (fun _ => rfl) (List.append_nil _).symm
    (List.forall_mem_nil _)
  by_cases hq : q = p
  · subst hq
    rw [proxy_updateProxy_self, hf]
  · rw [proxy_updateProxy_of_ne hq]

variable (env p) in
theorem prepared (hunmade : s.UnmadeUncalled) (anew : Bool) :
    Tagging s (s.prepared env p anew) := by
  cases anew with
  | true =>
    have hevents : (s.prepared env p true).events = s.events ++ [.reset p] := rfl
    refine of_old hunmade rfl rfl (fun q => ?_) (fun _ => rfl) hevents
      (List.forall_mem_singleton.mpr ⟨rfl, fun _ _ => rfl⟩)
    obtain ⟨creator, hproxy⟩ := proxy_prepared env s p true q
    rw [hproxy]
  | false => exact quiet hunmade (.refl s)

/-- **A new session** is told the last user first. -/
theorem newSession (hunmade : s.UnmadeUncalled) (hmade : s.Made env p t) (htags : t.ReTags p u) :
    Tagging s u := by
  obtain ⟨c, hproxy⟩ := hmade.proxy.eq
  obtain ⟨c', hsession, -⟩ := hmade.session
  have htag (q : ProxyRef) : (t.proxy q).lastUserTag = (s.proxy q).lastUserTag := by
    by_cases hq : q = p
    · subst hq
      rw [hproxy]
      rfl
    · rw [hmade.proxy_of_ne q hq]
  have hcalls (j : SessionRef) : t.callsOn j = s.callsOn j := by
    rw [callsOn_append hmade.events]
    exact List.append_nil _
  have hparent (j : SessionRef) (hj : j < s.sessions.size) :
      (t.session j).parent = (s.session j).parent := by
    rw [hmade.session_of_ne j hj.ne]
  have hnew (j : SessionRef) (hj : j < t.sessions.size) (hlate : s.sessions.size ≤ j) :
      j = s.sessions.size := by
    rw [hmade.sessions_size] at hj
    exact Nat.le_antisymm (Nat.le_of_lt_succ hj) hlate
  have hself : (t.session s.sessions.size).parent = p := by
    rw [hsession]
    rfl
  have hle : s.sessions.size ≤ t.sessions.size := hmade.sessions_size.symm ▸ Nat.le_succ _
  cases htags with
  | untagged hempty =>
    refine ⟨hmade.proxies_size, hle, htag, fun j hj => ⟨[], ?_, List.forall_mem_nil _⟩,
      fun j hj hlate => ?_, hparent, fun j hj => ?_⟩
    · rw [hcalls, List.append_nil]
    · obtain rfl := hnew j hj hlate
      rw [hself, ← htag, TaggedFirst, if_pos hempty, hcalls, hunmade _ (le_refl _)]
      exact List.forall_mem_nil _
    · rw [hcalls]
      exact hunmade j (hle.trans hj)
  | @tagged k _ hempty hcurrent hquiet =>
    obtain rfl := Option.some.inj (hcurrent.symm.trans hmade.currentSession)
    let event : InstanceEvent := .reTagged p s.sessions.size (t.proxy p).lastUserTag
    have hcallsU (j : SessionRef) : u.callsOn j = s.callsOn j ++ [event].filter (·.isOn j) := by
      rw [callsOn, hquiet.events]
      have happend : (t.remember event).events = t.events ++ [event] := rfl
      show (t.remember event).callsOn j = _
      rw [callsOn_append happend, hcalls]
    have hoff (j : SessionRef) (hj : s.sessions.size ≠ j) : [event].filter (·.isOn j) = [] :=
      List.filter_eq_nil_iff.mpr (List.forall_mem_singleton.mpr fun hon => hj (of_decide_eq_true hon))
    have hon : [event].filter (·.isOn s.sessions.size) = [event] :=
      List.filter_eq_self.mpr (List.forall_mem_singleton.mpr (decide_eq_true rfl))
    have hparentU (j : SessionRef) : (u.session j).parent = (t.session j).parent :=
      (hquiet.session j).parent
    refine ⟨hquiet.proxies_size.trans hmade.proxies_size, ?_,
      fun q => (hquiet.proxy q).lastUserTag.trans (htag q),
      fun j hj => ⟨[], ?_, List.forall_mem_nil _⟩, fun j hj hlate => ?_,
      fun j hj => (hparentU j).trans (hparent j hj), fun j hj => ?_⟩
    · rw [hquiet.sessions_size]
      exact hle
    · rw [hcallsU, hoff j hj.ne']
    · have hj : j < t.sessions.size := hquiet.sessions_size ▸ hj
      obtain rfl := hnew j hj hlate
      rw [hparentU, hself, ← htag, TaggedFirst, hempty, if_neg Bool.false_ne_true, hcallsU, hon,
        hunmade _ (le_refl _)]
      exact ⟨[], rfl, List.forall_mem_nil _⟩
    · have hj : t.sessions.size ≤ j := hquiet.sessions_size ▸ hj
      rw [hmade.sessions_size] at hj
      rw [hcallsU, hoff j (Nat.lt_of_succ_le hj).ne, List.append_nil]
      exact hunmade j (Nat.le_of_succ_le hj)

/-- **The moves** that identify no user and make no proxy. -/
theorem deed {call : InstanceCall} (hunmade : s.UnmadeUncalled) (htidy : Tidy s)
    (hidentify : ∀ p threadID userTag, call ≠ .onProxy p threadID (.identifyUser userTag))
    (hcreate : call ≠ .createSession) (hdeed : Deed env call s t) : Tagging s t := by
  cases hdeed with
  | quiet hquiet => exact quiet hunmade hquiet
  | @enter p threadID name k _ _ huse hsplit hquiet =>
    have hk := htidy.lt_of_inUse huse
    split at hquiet
    · have hcounted : Tagging s (s.counted p) := updateProxy hunmade fun _ => rfl
      have hentered := hcounted.trans (forwarded (k := k) (.enterAction name) p hcounted.unmade hk)
      exact hentered.trans (quiet hentered.unmade hquiet)
    · have hentered := forwarded (.enterAction name) p hunmade hk
      exact hentered.trans (quiet hentered.unmade hquiet)
  | @forward p threadID proxyCall k call _ _ huse hreport hquiet =>
    have hforwarded := forwarded call p hunmade (htidy.lt_of_inUse huse)
    exact hforwarded.trans (quiet hforwarded.unmade hquiet)
  | identify huse hquiet => exact absurd rfl (hidentify _ _ _)
  | @split _ p anew _ s₁ s₂ _ hmade hunfinished hclosed hnew htags =>
    have hclosed' := quiet hunmade hclosed
    have hprepared := hclosed'.trans (prepared env p hclosed'.unmade anew)
    exact hprepared.trans (newSession hprepared.unmade hnew htags)
  | @finish p _ _ _ hmade hunfinished hquiet =>
    have hmarked : Tagging s (s.markedFinished p) := updateProxy hunmade fun _ => rfl
    have hleft : Tagging s ((s.markedFinished p).withoutSession p) :=
      hmarked.trans (updateProxy hmarked.unmade fun _ => rfl)
    exact hleft.trans (quiet hleft.unmade hquiet)
  | create hmade => exact absurd rfl hcreate

end Tagging

/-! ## The last user of a proxy -/

/-- The tag that a call identifies the user of a proxy by, if it does so and completes. -/
def completedTag (env : InstanceEnvironment) (s : OpenKitInstance) (p : ProxyRef) :
    InstanceCall → Option UTF8String
  | .onProxy q threadID (.identifyUser userTag) =>
    if q = p ∧ p < s.proxies.size ∧
        (s.outcome env (.onProxy q threadID (.identifyUser userTag))).isOk then some userTag
    else none
  | _ => none

/-- **The tag of the last identification** of the user of a proxy that has completed; of a tag known before
if there is none. -/
def lastTag (env : InstanceEnvironment) (p : ProxyRef) : OpenKitInstance → UTF8String →
    List InstanceCall → UTF8String
  | _, tag, [] => tag
  | s, tag, call :: calls =>
    lastTag env p (s.afterCall env call) ((s.completedTag env p call).getD tag) calls

theorem lastTag_concat (tag : UTF8String) (calls : List InstanceCall) (call : InstanceCall) :
    lastTag env p s tag (calls ++ [call]) =
      ((s.afterCalls env calls).completedTag env p call).getD (lastTag env p s tag calls) := by
  induction calls generalizing s tag with
  | nil => rfl
  | cons first calls ih => exact ih _

/-- A user is identified for proxies that have been made. -/
theorem completedTag_of_le {call : InstanceCall} (h : s.proxies.size ≤ p) :
    s.completedTag env p call = none := by
  unfold completedTag
  split
  · exact if_neg fun hcompleted => absurd hcompleted.2.1 (Nat.not_lt.mpr h)
  · rfl

/-! ## What calls do to the calls on sessions -/

theorem Tagging.moves {call : InstanceCall} (hunmade : s.UnmadeUncalled) (hsound : s.Sound)
    (htidy : Tidy s)
    (hidentify : ∀ p threadID userTag, call ≠ .onProxy p threadID (.identifyUser userTag))
    (hcreate : call ≠ .createSession) (hmoves : Moves env call s t) : Tagging s t ∧ Tidy t := by
  induction hmoves with
  | refl => exact ⟨.quiet hunmade (.refl s), htidy⟩
  | tail hmoves hmove ih =>
    obtain ⟨htagging, htidy'⟩ := ih
    exact ⟨htagging.trans (.deed htagging.unmade htidy' hidentify hcreate hmove.deed),
      htidy'.move (hsound.moves hmoves) hmove⟩

/-- **What a call does** to the calls on sessions. -/
structure Called (env : InstanceEnvironment) (call : InstanceCall) (s t : OpenKitInstance) :
    Prop where
  kept : ∀ k < s.sessions.size, KeepsCalls k s t
  /-- A session that is not the first one of its proxy is told the last user first. -/
  made : ∀ k < t.sessions.size, s.sessions.size ≤ k → ∀ j < k,
    (t.session j).parent = (t.session k).parent →
      t.TaggedFirst (t.session k).parent k (s.proxy (t.session k).parent).lastUserTag ∧
        (t.session k).parent < s.proxies.size
  lastUserTag : ∀ q < t.proxies.size, (t.proxy q).isFinished = false →
    (t.proxy q).lastUserTag = (s.completedTag env q call).getD
      (if q < s.proxies.size then (s.proxy q).lastUserTag else .nil)
  unmade : t.UnmadeUncalled

/-- A call that does nothing. -/
theorem Called.refl {call : InstanceCall} (hunmade : s.UnmadeUncalled)
    (hcompleted : ∀ q < s.proxies.size, (s.proxy q).isFinished = false →
      s.completedTag env q call = none) : Called env call s s := by
  refine ⟨fun k _ => .of_eq rfl, fun k hk hnew => absurd hk (Nat.not_lt.mpr hnew),
    fun q hq hunfinished => ?_, hunmade⟩
  rw [hcompleted q hq hunfinished, if_pos hq]
  rfl

/-- A call that neither identifies a user nor makes a proxy. -/
theorem Tagging.called {call : InstanceCall} (h : Tagging s t) (htidy : Tidy t)
    (hcompleted : ∀ q, s.completedTag env q call = none) : Called env call s t := by
  refine ⟨h.kept, fun k hk hnew j _ _ => ⟨h.made k hk hnew, ?_⟩, fun q hq _ => ?_, h.unmade⟩
  · rw [← h.proxies_size]
    exact htidy.sessions.parent k hk
  · rw [h.proxies_size] at hq
    rw [hcompleted, if_pos hq]
    exact h.lastUserTag q

/-- The first session of a proxy is told nothing. -/
theorem called_createSession (hunmade : s.UnmadeUncalled) (htidy : Tidy s) :
    Called env .createSession s (s.afterCall env .createSession) := by
  obtain ⟨t, hrun, hmade⟩ := run_createAndAssignCurrentSession env s.proxies.size (s.newProxy env)
    (some s.context.serverConfiguration) none
  have hcreate : s.afterCall env .createSession = t := by
    have hbody : s.afterCall env .createSession = ((createAndAssignCurrentSession env s.proxies.size
      (some s.context.serverConfiguration) none).run (s.newProxy env)).2 := rfl
    rw [hbody, hrun]
  rw [hcreate]
  have hevents : t.events = s.events ++ [.created s.proxies.size s.sessions.size] := hmade.events
  have hcalls (k : SessionRef) : t.callsOn k = s.callsOn k := by
    rw [callsOn_append hevents]
    exact List.append_nil _
  have hsize : t.sessions.size = s.sessions.size + 1 := hmade.sessions_size
  refine ⟨fun k _ => ⟨[], ?_, List.forall_mem_nil _⟩, fun k hk hnew j hj hparent => ?_,
    fun q hq hunfinished => ?_, fun k hk => ?_⟩
  · rw [hcalls, List.append_nil]
  · -- the new session is the only one of its proxy
    rw [hsize] at hk
    obtain rfl : k = s.sessions.size := Nat.le_antisymm (Nat.le_of_lt_succ hk) hnew
    obtain ⟨c, hsession, -⟩ := hmade.session
    have hself : (t.session s.sessions.size).parent = s.proxies.size := by
      rw [show s.sessions.size = (s.newProxy env).sessions.size from rfl, hsession]
      rfl
    rw [hself, hmade.session_of_ne j hj.ne] at hparent
    exact absurd hparent (htidy.sessions.parent j hj).ne
  · show (t.proxy q).lastUserTag = if q < s.proxies.size then (s.proxy q).lastUserTag else .nil
    by_cases hnew : q = s.proxies.size
    · subst hnew
      obtain ⟨c, hproxy⟩ := hmade.proxy.eq
      rw [if_neg (lt_irrefl _), hproxy]
      exact congrArg SessionProxy.lastUserTag Heap.get_alloc_size
    · rw [hmade.proxies_size] at hq
      have hold : q < s.proxies.size := lt_of_le_of_ne (Nat.le_of_lt_succ hq) hnew
      rw [if_pos hold, hmade.proxy_of_ne q hnew]
      exact congrArg SessionProxy.lastUserTag (Heap.get_alloc_of_lt hold)
  · rw [hsize] at hk
    rw [hcalls]
    exact hunmade k (Nat.le_of_succ_le hk)

/-- **An identification**: a session that is split off in it is told the user before. -/
theorem called_identifyUser (hunmade : s.UnmadeUncalled) (hsound : s.Sound) (htidy : Tidy s)
    (threadID : ℤ) (userTag : UTF8String) : Called env (.onProxy p threadID (.identifyUser userTag)) s
      (s.afterCall env (.onProxy p threadID (.identifyUser userTag))) := by
  by_cases hp : p < s.proxies.size
  · have hrunCall : (InstanceCall.perform env (.onProxy p threadID (.identifyUser userTag))).run s =
        (InstanceCall.body env (.onProxy p threadID (.identifyUser userTag))).run s :=
      run_perform_of_isValid (decide_eq_true hp)
    cases hfinished : (s.proxy p).isFinished with
    | true =>
      have hsame : s.afterCall env (.onProxy p threadID (.identifyUser userTag)) = s := by
        rw [afterCall, hrunCall]
        show ((identifyUser env p ⟨threadID, env.clock⟩ userTag).run s).2 = s
        rw [identifyUser, whenUnfinished, Program.run_bind_ok (Program.run_read _ s), hfinished]
        rfl
      rw [hsame]
      refine .refl hunmade fun q hq hunfinished => if_neg ?_
      rintro ⟨rfl, -⟩
      cases hunfinished.symm.trans hfinished
    | false =>
      obtain ⟨k, hcurrent⟩ := hsound.live p hp hfinished
      obtain ⟨k', u, hmoves, huse, hrun⟩ := run_identifyUser env
        (.executeWatchdog threadID) threadID hsound ⟨hp, hfinished, hcurrent⟩ userTag
      have hrun' : (InstanceCall.perform env (.onProxy p threadID (.identifyUser userTag))).run s =
          (.ok (), u.identified env ⟨threadID, env.clock⟩ p k' userTag) := hrunCall.trans hrun
      have hidentify : ∀ q threadID' userTag', InstanceCall.executeWatchdog threadID ≠
          .onProxy q threadID' (.identifyUser userTag') := by
        intro q threadID' userTag' hcall
        cases hcall
      have hcreate : InstanceCall.executeWatchdog threadID ≠ .createSession := by
        intro hcall
        cases hcall
      obtain ⟨htagging, htidy'⟩ := Tagging.moves hunmade hsound htidy hidentify hcreate hmoves
      have hk := htidy'.lt_of_inUse huse
      -- the call is forwarded to the current session, and then the tag is kept
      have hforwarded := htagging.trans (Tagging.forwarded (.identifyUser userTag) p
        htagging.unmade hk)
      have hquiet : ((u.remember (.forwarded p k' (.identifyUser userTag))).updateProxy p fun proxy =>
          { proxy with lastUserTag := userTag }).Quiet
          (u.identified env ⟨threadID, env.clock⟩ p k' userTag) := .identified
      have hafter : s.afterCall env (.onProxy p threadID (.identifyUser userTag)) =
          u.identified env ⟨threadID, env.clock⟩ p k' userTag := congrArg Prod.snd hrun'
      rw [hafter]
      have hsize : (u.identified env ⟨threadID, env.clock⟩ p k' userTag).sessions.size =
          u.sessions.size := hquiet.sessions_size
      have hparent (j : SessionRef) :
          ((u.identified env ⟨threadID, env.clock⟩ p k' userTag).session j).parent =
            (u.session j).parent := (hquiet.session j).parent
      have hkeeps (j : SessionRef) : KeepsCalls j (u.remember (.forwarded p k' (.identifyUser userTag)))
          (u.identified env ⟨threadID, env.clock⟩ p k' userTag) := .of_eq hquiet.events
      refine ⟨fun j hj => (hforwarded.kept j hj).trans (hkeeps j), fun j hj hnew i _ _ => ?_,
        fun q hq hunfinished => ?_, fun j hj => ?_⟩
      · rw [hsize] at hj
        rw [hparent]
        refine ⟨(hkeeps j).taggedFirst (hforwarded.made j hj hnew), ?_⟩
        rw [← htagging.proxies_size]
        exact htidy'.sessions.parent j hj
      · rw [hquiet.proxies_size] at hq
        replace hq : q < s.proxies.size := htagging.proxies_size ▸ hq
        rw [(hquiet.proxy q).lastUserTag, if_pos hq]
        have hok : (s.outcome env (.onProxy p threadID (.identifyUser userTag))).isOk = true := by
          rw [outcome, hrun']
          rfl
        by_cases hqp : q = p
        · subst hqp
          have hcompleted : s.completedTag env q (.onProxy q threadID (.identifyUser userTag)) =
              some userTag := if_pos ⟨rfl, hq, hok⟩
          rw [proxy_updateProxy_self, hcompleted]
          rfl
        · have hnone : s.completedTag env q (.onProxy p threadID (.identifyUser userTag)) = none :=
            if_neg fun hcompleted => hqp hcompleted.1.symm
          rw [proxy_updateProxy_of_ne hqp, hnone]
          exact hforwarded.lastUserTag q
      · rw [hsize] at hj
        rw [callsOn, hquiet.events]
        exact hforwarded.unmade j hj
  · have hsame : s.afterCall env (.onProxy p threadID (.identifyUser userTag)) = s := by
      have hvalid : ¬ (InstanceCall.onProxy p threadID (.identifyUser userTag)).isValid s = true :=
        fun hvalid => hp (of_decide_eq_true hvalid)
      rw [afterCall, run_perform_of_not_isValid hvalid]
    rw [hsame]
    refine .refl hunmade fun q hq _ => if_neg ?_
    rintro ⟨rfl, hq', -⟩
    exact hp hq'

variable (env) in
/-- **All calls.** -/
theorem called_afterCall (hunmade : s.UnmadeUncalled) (hsound : s.Sound) (htidy : Tidy s)
    (call : InstanceCall) : Called env call s (s.afterCall env call) := by
  by_cases hcreate : call = .createSession
  · subst hcreate
    exact called_createSession hunmade htidy
  · by_cases hidentify : ∃ p threadID userTag, call = .onProxy p threadID (.identifyUser userTag)
    · obtain ⟨p, threadID, userTag, rfl⟩ := hidentify
      exact called_identifyUser hunmade hsound htidy threadID userTag
    · obtain ⟨htagging, htidy'⟩ := Tagging.moves hunmade hsound htidy
        (fun p threadID userTag hcall => hidentify ⟨p, threadID, userTag, hcall⟩) hcreate
        (moves_afterCall hsound call)
      refine htagging.called htidy' fun q => ?_
      unfold completedTag
      split
      next p threadID userTag => exact absurd ⟨p, threadID, userTag, rfl⟩ hidentify
      · rfl

/-! ## Runs -/

section Run

variable (env) (http : HTTPClientConfiguration) (provider : SessionIDProvider)

theorem unmadeUncalled_afterCalls (calls : List InstanceCall) :
    ((new http provider env).afterCalls env calls).UnmadeUncalled := by
  induction calls using List.reverseRecOn with
  | nil => exact fun _ _ => rfl
  | append_singleton calls call ih =>
    rw [afterCalls_concat]
    exact (called_afterCall env ih (sound_afterCalls env http provider calls)
      (tidy_afterCalls env http provider calls) call).unmade

variable (s) in
/-- No user has been identified for a proxy that has not been made. -/
theorem lastTag_of_le (calls : List InstanceCall)
    (h : (s.afterCalls env calls).proxies.size ≤ p) : lastTag env p s .nil calls = .nil := by
  induction calls using List.reverseRecOn with
  | nil => rfl
  | append_singleton calls call ih =>
    rw [afterCalls_concat] at h
    have hextends : (s.afterCalls env calls).Extends ((s.afterCalls env calls).afterCall env call) :=
      extends_afterCall call
    have hle := hextends.proxies_size.trans h
    rw [lastTag_concat, completedTag_of_le hle, ih hle]
    rfl

/-- A proxy in use keeps the tag of the last identification that has completed. -/
theorem lastUserTag_afterCalls (calls : List InstanceCall) :
    ∀ p < ((new http provider env).afterCalls env calls).proxies.size,
      (((new http provider env).afterCalls env calls).proxy p).isFinished = false →
      (((new http provider env).afterCalls env calls).proxy p).lastUserTag =
        lastTag env p (new http provider env) .nil calls := by
  induction calls using List.reverseRecOn with
  | nil => exact fun p hp => absurd hp (Nat.not_lt_zero p)
  | append_singleton calls call ih =>
    intro p hp hunfinished
    have hlast := lastTag_of_le env (p := p) (new http provider env) calls
    have hcalled := called_afterCall env (unmadeUncalled_afterCalls env http provider calls)
      (sound_afterCalls env http provider calls) (tidy_afterCalls env http provider calls) call
    rw [lastTag_concat]
    rw [afterCalls_concat] at hp hunfinished ⊢
    generalize (new http provider env).afterCalls env calls = s at *
    rw [hcalled.lastUserTag p hp hunfinished]
    congr 1
    by_cases hold : p < s.proxies.size
    · rw [if_pos hold]
      refine ih p hold (Bool.eq_false_of_not_eq_true fun hfinished => ?_)
      cases hunfinished.symm.trans (((extends_afterCall call).proxy p hold).isFinished hfinished)
    · rw [if_neg hold, hlast (Nat.le_of_not_lt hold)]

/-- The proxy of a session that is made in a call was in use before. -/
theorem isFinished_parent_of_new (hsound : s.Sound) {call : InstanceCall}
    (hk : k < (s.afterCall env call).sessions.size) (hnew : s.sessions.size ≤ k)
    (hp : ((s.afterCall env call).session k).parent < s.proxies.size) :
    (s.proxy ((s.afterCall env call).session k).parent).isFinished = false := by
  refine Bool.eq_false_of_not_eq_true fun hfinished => ?_
  have hended : Ended ((s.afterCall env call).session k).parent s.sessions.size s :=
    ⟨hp, hfinished, fun _ hj _ => hj⟩
  have hafter : Ended _ _ (s.afterCalls env [call]) :=
    hsound.moves_induction hended (fun _ _ _ _ h hmove => h.move hmove) [call]
  exact absurd (hafter.old k hk rfl) (Nat.not_lt.mpr hnew)

/-- **Split sessions are re-tagged.** A session that a proxy makes after its first one is made in some call
of the run. If the last identification of a user on the proxy that has completed before this call has a tag
that is not empty, then the first call on the session is an identification by this tag. There is no other
automatic identification of a user of the session. -/
theorem taggedFirst_afterCalls (calls : List InstanceCall) {j k : SessionRef}
    (hk : k < ((new http provider env).afterCalls env calls).sessions.size) (hj : j < k)
    (hparent : (((new http provider env).afterCalls env calls).session j).parent =
      (((new http provider env).afterCalls env calls).session k).parent) :
    ∃ earlier call later, calls = earlier ++ call :: later ∧
      ((new http provider env).afterCalls env earlier).sessions.size ≤ k ∧
      k < ((new http provider env).afterCalls env (earlier ++ [call])).sessions.size ∧
      ((new http provider env).afterCalls env calls).TaggedFirst
        (((new http provider env).afterCalls env calls).session k).parent k
        (lastTag env (((new http provider env).afterCalls env calls).session k).parent
          (new http provider env) .nil earlier) := by
  induction calls using List.reverseRecOn with
  | nil => exact absurd hk (Nat.not_lt_zero k)
  | append_singleton calls call ih =>
    have hsound := sound_afterCalls env http provider calls
    have hcalled := called_afterCall env (unmadeUncalled_afterCalls env http provider calls)
      hsound (tidy_afterCalls env http provider calls) call
    have hextends : ((new http provider env).afterCalls env calls).Extends
        (((new http provider env).afterCalls env calls).afterCall env call) := extends_afterCall call
    by_cases hold : k < ((new http provider env).afterCalls env calls).sessions.size
    · -- the session was made before, and its first call is still the first one
      rw [afterCalls_concat] at hparent ⊢
      rw [(hextends.session j (hj.trans hold)).parent, (hextends.session k hold).parent] at hparent
      rw [(hextends.session k hold).parent]
      obtain ⟨earlier, call', later, rfl, hlate, hmade, htagged⟩ := ih hold hparent
      refine ⟨earlier, call', later ++ [call], ?_, hlate, hmade, (hcalled.kept k hold).taggedFirst htagged⟩
      rw [List.append_assoc]
      rfl
    · have hnew := Nat.le_of_not_lt hold
      rw [afterCalls_concat] at hk hparent ⊢
      refine ⟨calls, call, [], rfl, hnew, ?_, ?_⟩
      · rw [afterCalls_concat]
        exact hk
      · obtain ⟨htagged, hp⟩ := hcalled.made k hk hnew j hj hparent
        rw [← lastUserTag_afterCalls env http provider calls _ hp
          (isFinished_parent_of_new env hsound hk hnew hp)]
        exact htagged

end Run

/-- A user is identified, and the second action is entered on a new session. -/
def identifiedCalls : List InstanceCall :=
  [.createSession, .requestNewSession 0
      (some ⟨0, ResponseAttributes.jsonResponse.withMaxEventsPerSession 1, 200, 0⟩),
    .onProxy 0 1 (.identifyUser (.ofAscii ['u'])), .onProxy 0 1 (.enterAction (.ofAscii ['a'])),
    .onProxy 0 1 (.enterAction (.ofAscii ['b']))]

theorem taggedFirst_identifiedCalls :
    ∃ earlier call later, identifiedCalls = earlier ++ call :: later ∧
      ((new ⟨1, .nil⟩ ⟨0⟩ .plain).afterCalls .plain earlier).sessions.size ≤ 1 ∧
      1 < ((new ⟨1, .nil⟩ ⟨0⟩ .plain).afterCalls .plain (earlier ++ [call])).sessions.size ∧
      ((new ⟨1, .nil⟩ ⟨0⟩ .plain).afterCalls .plain identifiedCalls).TaggedFirst
        (((new ⟨1, .nil⟩ ⟨0⟩ .plain).afterCalls .plain identifiedCalls).session 1).parent 1
        (lastTag .plain (((new ⟨1, .nil⟩ ⟨0⟩ .plain).afterCalls .plain identifiedCalls).session 1).parent
          (new ⟨1, .nil⟩ ⟨0⟩ .plain) .nil earlier) := by
  refine taggedFirst_afterCalls .plain ⟨1, .nil⟩ ⟨0⟩ identifiedCalls (j := 0) ?_ Nat.zero_lt_one ?_
  · decide +kernel
  · decide +kernel

end OpenKitInstance

end OpenKit
