import OpenKit.Library.WrappingCounter
import OpenKit.Objects.MoveEvents

/-!
# The identity of beacons

A beacon is known by an id and a sequence number. The id is drawn when a proxy is made and when it is
reset, and the sequence number counts the sessions that the proxy has created since then. What a proxy
does between two resets is a life of it. The sessions of a life share the id of their beacons, and so they
share the random numbers that were drawn with it.

The ids come from a counter that starts over, so they are different as long as fewer of them are drawn than
there are numbers. The sequence numbers of a life are different as long as there are fewer sessions in it than
positive numbers of 32 bits.

## Main definitions

* `lifeOf`, `numSinceReset`: the life that a proxy is in, and the number of sessions of it
* `OpenKitInstance.CreatedIn`: the life in which a session was created, and its place in it
* `OpenKitInstance.Identified`: what the keys of the beacons say

## Main results

* `Drawn.deed`: all moves draw the numbers of a life once, at its beginning
* `identified_afterCalls`: the keys in all runs
-/

namespace OpenKit

open Thread SessionProxies WrappingCounter

/-- A life of a proxy: the number of resets before it tells it from others. -/
abbrev Life := ProxyRef × ℕ

/-- The event is a reset of the proxy. -/
def InstanceEvent.resets (p : ProxyRef) : InstanceEvent → Bool
  | .reset q => q = p
  | _ => false

/-- The life that a proxy is in after some events. -/
def lifeOf (events : List InstanceEvent) (p : ProxyRef) : Life := (p, events.countP (·.resets p))

/-- The number of sessions of a proxy, counted on by an event. -/
def countCreated (p : ProxyRef) (n : ℕ) : InstanceEvent → ℕ
  | .created q _ => if q = p then n + 1 else n
  | .reset q => if q = p then 0 else n
  | _ => n

/-- The number of sessions that a proxy has created since it was reset last. -/
def numSinceReset (events : List InstanceEvent) (p : ProxyRef) : ℕ := events.foldl (countCreated p) 0

section Events

variable {events : List InstanceEvent} {event : InstanceEvent} {p q : ProxyRef} {k : SessionRef}

theorem numSinceReset_concat :
    numSinceReset (events ++ [event]) p = countCreated p (numSinceReset events p) event :=
  List.foldl_concat _ _ _ _

theorem lifeOf_concat_of_not (h : event.resets p = false) :
    lifeOf (events ++ [event]) p = lifeOf events p := by
  rw [lifeOf, List.countP_append, List.countP_singleton, h]
  rfl

theorem lifeOf_reset :
    lifeOf (events ++ [.reset p]) p = (p, (lifeOf events p).2 + 1) := by
  have hresets : InstanceEvent.resets p (.reset p) = true := decide_eq_true rfl
  rw [lifeOf, List.countP_append, List.countP_singleton, hresets]
  rfl

end Events

/-- The event makes no session and resets no proxy. -/
def InstanceEvent.isCall : InstanceEvent → Bool
  | .forwarded _ _ _ => true
  | .reTagged _ _ _ => true
  | _ => false

theorem InstanceEvent.resets_of_isCall {event : InstanceEvent} (h : event.isCall = true) (p : ProxyRef) :
    event.resets p = false := by
  cases event with
  | forwarded _ _ _ => rfl
  | reTagged _ _ _ => rfl
  | _ => cases h

theorem countCreated_of_isCall {event : InstanceEvent} (h : event.isCall = true) (p : ProxyRef) (n : ℕ) :
    countCreated p n event = n := by
  cases event with
  | forwarded _ _ _ => rfl
  | reTagged _ _ _ => rfl
  | _ => cases h

/-- A session was created in a life, behind some other sessions of it. -/
def CreatedIn (events : List InstanceEvent) (k : SessionRef) (life : Life) (n : ℕ) : Prop :=
  ∃ p before after, events = before ++ .created p k :: after ∧ life = lifeOf before p ∧
    n = numSinceReset before p

section Created

variable {events : List InstanceEvent} {event : InstanceEvent} {p : ProxyRef} {k : SessionRef}
  {life : Life} {n : ℕ}

/-- The last event is the creation, or comes after it. -/
theorem createdIn_concat_iff : CreatedIn (events ++ [event]) k life n ↔ CreatedIn events k life n ∨
    ∃ p, event = .created p k ∧ life = lifeOf events p ∧ n = numSinceReset events p := by
  constructor
  · rintro ⟨p, before, after, hevents, hlife, hn⟩
    rcases List.eq_nil_or_concat after with rfl | ⟨after, last, rfl⟩
    · obtain ⟨rfl, hlast⟩ := List.append_inj' hevents rfl
      exact .inr ⟨p, List.singleton_inj.mp hlast, hlife, hn⟩
    · rw [List.concat_eq_append, ← List.cons_append, ← List.append_assoc] at hevents
      obtain ⟨hevents, -⟩ := List.append_inj' hevents rfl
      exact .inl ⟨p, before, after, hevents, hlife, hn⟩
  · rintro (⟨p, before, after, rfl, hlife, hn⟩ | ⟨p, rfl, hlife, hn⟩)
    · exact ⟨p, before, after ++ [event], by simp, hlife, hn⟩
    · exact ⟨p, events, [], rfl, hlife, hn⟩

theorem numSinceReset_le (events : List InstanceEvent) (p : ProxyRef) :
    numSinceReset events p ≤ events.length := by
  induction events using List.reverseRecOn with
  | nil => exact le_refl _
  | append_singleton events event ih =>
    rw [numSinceReset_concat, List.length_append, List.length_singleton]
    cases event with
    | created q k =>
      rw [countCreated]
      split
      · exact Nat.succ_le_succ ih
      · exact Nat.le_succ_of_le ih
    | reset q =>
      rw [countCreated]
      split
      · exact Nat.zero_le _
      · exact Nat.le_succ_of_le ih
    | _ => exact Nat.le_succ_of_le ih

theorem CreatedIn.lt_length (h : CreatedIn events k life n) : n < events.length := by
  obtain ⟨p, before, after, rfl, -, rfl⟩ := h
  rw [List.length_append, List.length_cons]
  exact (numSinceReset_le before p).trans_lt (by omega)

theorem createdIn_concat_of_not (h : ∀ p, event ≠ .created p k) :
    CreatedIn (events ++ [event]) k life n ↔ CreatedIn events k life n := by
  rw [createdIn_concat_iff]
  exact or_iff_left fun ⟨p, hevent, _⟩ => h p hevent

theorem not_createdIn_nil : ¬ CreatedIn [] k life n := by
  rintro ⟨p, before, after, hevents, -⟩
  exact absurd hevents.symm (by simp)

end Created

namespace OpenKitInstance

variable {env : InstanceEnvironment} {s t : OpenKitInstance} {p q : ProxyRef} {j k : SessionRef}
  {life : Life} {m n : ℕ} {first : ℤ}

/-- **What the keys say**: each beacon has its own, the id is that of the life in which its session was
created, and the sequence number is its place there. -/
structure Identified (s : OpenKitInstance) : Prop where
  createdOnce : ∀ k < s.sessions.size, ∃! origin : Life × ℕ, CreatedIn s.events k origin.1 origin.2
  positive : ∀ k < s.sessions.size, 0 < (s.session k).beaconKey.beaconId
  different : ∀ j < s.sessions.size, ∀ k < s.sessions.size,
    (s.session j).beaconKey = (s.session k).beaconKey → j = k
  sameLife : ∀ j < s.sessions.size, ∀ k < s.sessions.size,
    ((s.session j).beaconKey.beaconId = (s.session k).beaconKey.beaconId ↔
      ∃ life m n, CreatedIn s.events j life m ∧ CreatedIn s.events k life n)
  sequenceNumber : ∀ k life n, CreatedIn s.events k life n →
    (s.session k).beaconKey.beaconSequenceNumber = n
  trafficControlValue : ∀ j k life m n, CreatedIn s.events j life m → CreatedIn s.events k life n →
    (s.session j).session.beacon.trafficControlValue = (s.session k).session.beacon.trafficControlValue
  deviceID : ∀ j k life m n, CreatedIn s.events j life m → CreatedIn s.events k life n →
    (s.session j).deviceID = (s.session k).deviceID

/-! ## The numbers of lives -/

/-- Each life has fewer than 2^31 sessions, which their creator counts without an overflow. -/
def HasShortLives (s : OpenKitInstance) : Prop :=
  ∀ k life n, CreatedIn s.events k life n → n + 1 < 2 ^ 31

theorem hasShortLives_of_length (h : s.events.length < 2 ^ 31) : s.HasShortLives :=
  fun _ _ _ hin => (Nat.succ_le_of_lt hin.lt_length).trans_lt h

/-- A life that has begun. -/
def HasBegun (s : OpenKitInstance) (life : Life) : Prop :=
  life.1 < s.proxies.size ∧ life.2 ≤ (lifeOf s.events life.1).2

/-- What a creator answers in a life whose numbers were drawn after others. -/
structure CreatorDrawn (env : InstanceEnvironment) (first : ℤ) (i n : ℕ) (c : SessionCreator) : Prop where
  openKitConfiguration : c.openKitConfiguration = env.openKitConfiguration
  privacyConfiguration : c.privacyConfiguration = env.privacyConfiguration
  sessionId : c.sessionId = drawn (2 ^ 31 - 1) first i
  randomNumberGenerator : c.randomNumberGenerator = env.random i
  sessionSequenceNumber : c.sessionSequenceNumber = toInt32 n

/-- What the beacon of a session has from its creator. -/
structure SessionDrawn (env : InstanceEnvironment) (first : ℤ) (i n : ℕ) (o : SessionObject) : Prop where
  beaconKey : o.beaconKey = ⟨drawn (2 ^ 31 - 1) first i, toInt32 n⟩
  trafficControlValue : o.session.beacon.trafficControlValue = (env.random i).randomPercentage
  deviceID : o.deviceID = if env.privacyConfiguration.isDeviceIdSendingAllowed then
    env.openKitConfiguration.deviceID else (env.random i).randomInt64Number

/-- **The draws**: every life that has begun has its own, and its proxy and its sessions have their numbers
from it. -/
structure Drawn (env : InstanceEnvironment) (first : ℤ) (draw : Life → ℕ) (s : OpenKitInstance) : Prop where
  provider : s.sessionIDProvider.lastSessionNumber = (next (2 ^ 31 - 1))^[s.numDraws] first
  draw_lt : ∀ life, s.HasBegun life → draw life < s.numDraws
  draw_injective : ∀ life life', s.HasBegun life → s.HasBegun life' → draw life = draw life' → life = life'
  proxy : ∀ p < s.proxies.size, CreatorDrawn env first (draw (lifeOf s.events p))
    (numSinceReset s.events p) (s.proxy p).sessionCreator
  session : ∀ k life n, CreatedIn s.events k life n → SessionDrawn env first (draw life) n (s.session k)
  made : ∀ k life n, CreatedIn s.events k life n → k < s.sessions.size ∧ s.HasBegun life ∧
    (life = lifeOf s.events life.1 → n < numSinceReset s.events life.1)
  created : ∀ k < s.sessions.size, ∃ life n, CreatedIn s.events k life n
  unique : ∀ k life life' n n', CreatedIn s.events k life n → CreatedIn s.events k life' n' →
    life = life' ∧ n = n'
  different : ∀ j k life n, CreatedIn s.events j life n → CreatedIn s.events k life n → j = k
  unmade : ∀ p, s.proxies.size ≤ p → lifeOf s.events p = (p, 0) ∧ numSinceReset s.events p = 0

theorem hasBegun_lifeOf (hp : p < s.proxies.size) : s.HasBegun (lifeOf s.events p) := ⟨hp, le_refl _⟩

theorem SessionDrawn.sameOrigin {i : ℕ} {o o' : SessionObject} (h : SessionDrawn env first i n o)
    (hsame : o.SameOrigin o') : SessionDrawn env first i n o' :=
  ⟨hsame.beaconKey.trans h.beaconKey, hsame.trafficControlValue.trans h.trafficControlValue,
    hsame.deviceID.trans h.deviceID⟩

/-! ## A new session -/

theorem Made.createdIn_iff (hmade : s.Made env p t) (k : SessionRef) (life : Life) (n : ℕ) :
    CreatedIn t.events k life n ↔ CreatedIn s.events k life n ∨
      k = s.sessions.size ∧ life = lifeOf s.events p ∧ n = numSinceReset s.events p := by
  rw [hmade.events, createdIn_concat_iff]
  refine or_congr_right ⟨?_, ?_⟩
  · rintro ⟨q, hevent, hlife, hn⟩
    obtain ⟨rfl, rfl⟩ := InstanceEvent.created.inj hevent
    exact ⟨rfl, hlife, hn⟩
  · rintro ⟨rfl, hlife, hn⟩
    exact ⟨p, rfl, hlife, hn⟩

/-- The creator counts the session on. -/
theorem CreatorDrawn.made {i : ℕ}
    (h : CreatorDrawn env first i n (s.proxy p).sessionCreator) (hmade : s.Made env p t) :
    CreatorDrawn env first i (n + 1) (t.proxy p).sessionCreator := by
  obtain ⟨c, hproxy⟩ := hmade.proxy.eq
  rw [hproxy]
  refine ⟨h.openKitConfiguration, h.privacyConfiguration, h.sessionId, h.randomNumberGenerator, ?_⟩
  show toInt32 ((s.proxy p).sessionCreator.sessionSequenceNumber + 1) = _
  rw [h.sessionSequenceNumber, toInt32_toInt32_add_one, Nat.cast_succ]

/-- The new session has its numbers from the creator. -/
theorem CreatorDrawn.sessionDrawn {i : ℕ}
    (h : CreatorDrawn env first i n (s.proxy p).sessionCreator) (hmade : s.Made env p t) :
    SessionDrawn env first i n (t.session s.sessions.size) := by
  obtain ⟨c, hsession, -⟩ := hmade.session
  rw [hsession]
  refine ⟨?_, congrArg FixedPRNGenerator.randomPercentage h.randomNumberGenerator, ?_⟩
  · show BeaconKey.mk _ _ = _
    rw [h.sessionId, h.sessionSequenceNumber]
  · show (if (s.proxy p).sessionCreator.privacyConfiguration.isDeviceIdSendingAllowed then
      (s.proxy p).sessionCreator.openKitConfiguration.deviceID
      else (s.proxy p).sessionCreator.randomNumberGenerator.randomInt64Number) = _
    rw [h.privacyConfiguration, h.openKitConfiguration, h.randomNumberGenerator]

namespace Drawn

variable {draw : Life → ℕ}

theorem quiet (h : Drawn env first draw s) (hquiet : s.Quiet t) : Drawn env first draw t := by
  have hbegun (life : Life) : t.HasBegun life ↔ s.HasBegun life := by
    rw [HasBegun, HasBegun, hquiet.proxies_size, hquiet.events]
  refine ⟨?_, fun life hlife => ?_, fun life life' hlife hlife' => ?_, fun q hq => ?_,
    fun k life n hk => ?_, fun k life n hk => ?_, fun k hk => ?_, ?_, ?_, fun q hq => ?_⟩
  · rw [hquiet.sessionIDProvider, hquiet.numDraws]
    exact h.provider
  · rw [hquiet.numDraws]
    exact h.draw_lt life ((hbegun life).mp hlife)
  · exact h.draw_injective life life' ((hbegun life).mp hlife) ((hbegun life').mp hlife')
  · rw [hquiet.proxies_size] at hq
    rw [hquiet.events, (hquiet.proxy q).sessionCreator]
    exact h.proxy q hq
  · rw [hquiet.events] at hk
    exact (h.session k life n hk).sameOrigin (hquiet.session k)
  · rw [hquiet.events] at hk
    rw [hquiet.sessions_size, hbegun, hquiet.events]
    exact h.made k life n hk
  · rw [hquiet.sessions_size] at hk
    rw [hquiet.events]
    exact h.created k hk
  · rw [hquiet.events]
    exact h.unique
  · rw [hquiet.events]
    exact h.different
  · rw [hquiet.proxies_size] at hq
    rw [hquiet.events]
    exact h.unmade q hq

/-- A call makes no session and begins no life. -/
theorem remember (h : Drawn env first draw s) {event : InstanceEvent} (hcall : event.isCall = true) :
    Drawn env first draw (s.remember event) := by
  have hlife (q : ProxyRef) : lifeOf (s.events ++ [event]) q = lifeOf s.events q :=
    lifeOf_concat_of_not (InstanceEvent.resets_of_isCall hcall q)
  have hcount (q : ProxyRef) : numSinceReset (s.events ++ [event]) q = numSinceReset s.events q := by
    rw [numSinceReset_concat, countCreated_of_isCall hcall]
  have hcreated (k : SessionRef) (life : Life) (n : ℕ) :
      CreatedIn (s.events ++ [event]) k life n ↔ CreatedIn s.events k life n := by
    refine createdIn_concat_of_not fun p hevent => ?_
    rw [hevent] at hcall
    cases hcall
  have hbegun (life : Life) : (s.remember event).HasBegun life ↔ s.HasBegun life := by
    show life.1 < s.proxies.size ∧ life.2 ≤ (lifeOf (s.events ++ [event]) life.1).2 ↔ _
    rw [hlife]
    rfl
  refine ⟨h.provider, fun life hlife => h.draw_lt life ((hbegun life).mp hlife),
    fun life life' hlife hlife' => h.draw_injective life life' ((hbegun life).mp hlife)
      ((hbegun life').mp hlife'), fun q hq => ?_, fun k life n hk => ?_, fun k life n hk => ?_,
    fun k hk => ?_, fun k life life' n n' hk hk' => ?_, fun j k life n hj hk => ?_, fun q hq => ?_⟩
  · show CreatorDrawn env first (draw (lifeOf (s.events ++ [event]) q))
      (numSinceReset (s.events ++ [event]) q) _
    rw [hlife, hcount]
    exact h.proxy q hq
  · exact h.session k life n ((hcreated k life n).mp hk)
  · rw [hbegun]
    show _ ∧ _ ∧ (life = lifeOf (s.events ++ [event]) life.1 →
      n < numSinceReset (s.events ++ [event]) life.1)
    rw [hlife, hcount]
    exact h.made k life n ((hcreated k life n).mp hk)
  · obtain ⟨life, n, hin⟩ := h.created k hk
    exact ⟨life, n, (hcreated k life n).mpr hin⟩
  · exact h.unique k life life' n n' ((hcreated k life n).mp hk) ((hcreated k life' n').mp hk')
  · exact h.different j k life n ((hcreated j life n).mp hj) ((hcreated k life n).mp hk)
  · show lifeOf (s.events ++ [event]) q = (q, 0) ∧ numSinceReset (s.events ++ [event]) q = 0
    rw [hlife, hcount]
    exact h.unmade q hq

/-- A change of a proxy that keeps its creator. -/
theorem updateProxy (h : Drawn env first draw s) {f : SessionProxy → SessionProxy}
    (hf : ∀ proxy, (f proxy).sessionCreator = proxy.sessionCreator) :
    Drawn env first draw (s.updateProxy p f) := by
  refine ⟨h.provider, h.draw_lt, h.draw_injective, fun q hq => ?_, h.session, h.made, h.created, h.unique,
    h.different, h.unmade⟩
  have hcreator : ((s.updateProxy p f).proxy q).sessionCreator = (s.proxy q).sessionCreator := by
    by_cases hqp : q = p
    · subst hqp
      rw [proxy_updateProxy_self, hf]
    · rw [proxy_updateProxy_of_ne hqp]
  rw [hcreator]
  exact h.proxy q hq

/-- **A new session** is the next one in the life of its proxy. -/
theorem newSession (h : Drawn env first draw s) (hp : p < s.proxies.size) (hmade : s.Made env p t) :
    Drawn env first draw t := by
  have hlife (q : ProxyRef) : lifeOf t.events q = lifeOf s.events q := by
    rw [hmade.events]
    exact lifeOf_concat_of_not rfl
  have hcount (q : ProxyRef) : numSinceReset t.events q =
      if p = q then numSinceReset s.events q + 1 else numSinceReset s.events q := by
    rw [hmade.events, numSinceReset_concat]
    rfl
  have hcreated := hmade.createdIn_iff
  have hbegun (life : Life) : t.HasBegun life ↔ s.HasBegun life := by
    rw [HasBegun, HasBegun, hmade.proxies_size, hlife]
  have hcreator := h.proxy p hp
  refine ⟨?_, fun life hbegan => ?_, fun life life' hbegan hbegan' => ?_, fun q hq => ?_,
    fun k life n hk => ?_, fun k life n hk => ?_, fun k hk => ?_, fun k life life' n n' hk hk' => ?_,
    fun j k life n hj hk => ?_, fun q hq => ?_⟩
  · rw [hmade.sessionIDProvider, hmade.numDraws]
    exact h.provider
  · rw [hmade.numDraws]
    exact h.draw_lt life ((hbegun life).mp hbegan)
  · exact h.draw_injective life life' ((hbegun life).mp hbegan) ((hbegun life').mp hbegan')
  · rw [hlife, hcount]
    split
    next hpq =>
      subst hpq
      exact hcreator.made hmade
    next hpq =>
      rw [hmade.proxies_size] at hq
      rw [hmade.proxy_of_ne q (Ne.symm hpq)]
      exact h.proxy q hq
  · rcases (hcreated k life n).mp hk with hk | ⟨rfl, rfl, rfl⟩
    · have hlt := (h.made k life n hk).1
      rw [hmade.session_of_ne k (Nat.ne_of_lt hlt)]
      exact h.session k life n hk
    · exact hcreator.sessionDrawn hmade
  · rw [hmade.sessions_size, hbegun, hlife, hcount]
    rcases (hcreated k life n).mp hk with hk | ⟨rfl, rfl, rfl⟩
    · obtain ⟨hlt, hbegan, hbelow⟩ := h.made k life n hk
      refine ⟨Nat.lt_succ_of_lt hlt, hbegan, fun hcurrent => ?_⟩
      have hbelow := hbelow hcurrent
      split
      · exact Nat.lt_succ_of_lt hbelow
      · exact hbelow
    · refine ⟨Nat.lt_succ_self _, hasBegun_lifeOf hp, fun _ => ?_⟩
      rw [lifeOf, if_pos rfl]
      exact Nat.lt_succ_self _
  · rw [hmade.sessions_size] at hk
    rcases Nat.lt_succ_iff_lt_or_eq.mp hk with hk | rfl
    · obtain ⟨life, n, hin⟩ := h.created k hk
      exact ⟨life, n, (hcreated k life n).mpr (.inl hin)⟩
    · exact ⟨_, _, (hcreated _ _ _).mpr (.inr ⟨rfl, rfl, rfl⟩)⟩
  · rcases (hcreated k life n).mp hk with hk | ⟨rfl, rfl, rfl⟩
    · rcases (hcreated k life' n').mp hk' with hk' | ⟨rfl, -⟩
      · exact h.unique k life life' n n' hk hk'
      · exact absurd (h.made _ life n hk).1 (lt_irrefl _)
    · rcases (hcreated _ life' n').mp hk' with hk' | ⟨-, rfl, rfl⟩
      · exact absurd (h.made _ life' n' hk').1 (lt_irrefl _)
      · exact ⟨rfl, rfl⟩
  · -- the places before the new one are taken by the sessions before it
    rcases (hcreated j life n).mp hj with hj | ⟨rfl, rfl, rfl⟩
    · rcases (hcreated k life n).mp hk with hk | ⟨-, rfl, rfl⟩
      · exact h.different j k life n hj hk
      · exact absurd ((h.made j _ _ hj).2.2 rfl) (lt_irrefl _)
    · rcases (hcreated k _ _).mp hk with hk | ⟨rfl, -, -⟩
      · exact absurd ((h.made k _ _ hk).2.2 rfl) (lt_irrefl _)
      · rfl
  · rw [hmade.proxies_size] at hq
    have hne : p ≠ q := Nat.ne_of_lt (hp.trans_le hq)
    rw [hlife, hcount, if_neg hne]
    exact h.unmade q hq

/-- **A new life** is the one after the draw that is made for it. -/
theorem begin (h : Drawn env first draw s) (new : Life) (hnew : ¬ s.HasBegun new)
    (hbegun : ∀ life, t.HasBegun life ↔ s.HasBegun life ∨ life = new)
    (hprovider : t.sessionIDProvider = s.sessionIDProvider.getNextSessionID.2)
    (hdraws : t.numDraws = s.numDraws + 1) (hsessions : t.sessions = s.sessions)
    (hcreated : ∀ k life n, CreatedIn t.events k life n ↔ CreatedIn s.events k life n)
    (hlife : lifeOf t.events new.1 = new) (hcount : numSinceReset t.events new.1 = 0)
    (hproxy : CreatorDrawn env first s.numDraws 0 (t.proxy new.1).sessionCreator)
    (hother : ∀ q, q ≠ new.1 → lifeOf t.events q = lifeOf s.events q ∧
      numSinceReset t.events q = numSinceReset s.events q)
    (hkept : ∀ q < t.proxies.size, q ≠ new.1 →
      q < s.proxies.size ∧ (t.proxy q).sessionCreator = (s.proxy q).sessionCreator)
    (hsize : ∀ q, t.proxies.size ≤ q → q ≠ new.1 ∧ s.proxies.size ≤ q) :
    Drawn env first (Function.update draw new s.numDraws) t := by
  -- the lives before keep their draws
  have hold {life : Life} (hbegan : s.HasBegun life) :
      Function.update draw new s.numDraws life = draw life := by
    refine Function.update_of_ne ?_ _ _
    rintro rfl
    exact hnew hbegan
  refine ⟨?_, fun life hbegan => ?_, fun life life' hbegan hbegan' hsame => ?_, fun q hq => ?_,
    fun k life n hk => ?_, fun k life n hk => ?_, fun k hk => ?_, fun k life life' n n' hk hk' => ?_,
    fun j k life n hj hk => ?_, fun q hq => ?_⟩
  · rw [hprovider, hdraws, Function.iterate_succ_apply', ← h.provider]
    rfl
  · rw [hdraws]
    rcases (hbegun life).mp hbegan with hbegan | rfl
    · rw [hold hbegan]
      exact Nat.lt_succ_of_lt (h.draw_lt life hbegan)
    · rw [Function.update_self]
      exact Nat.lt_succ_self _
  · rcases (hbegun life).mp hbegan with hbegan | rfl
    · rcases (hbegun life').mp hbegan' with hbegan' | rfl
      · rw [hold hbegan, hold hbegan'] at hsame
        exact h.draw_injective life life' hbegan hbegan' hsame
      · rw [hold hbegan, Function.update_self] at hsame
        exact absurd hsame (Nat.ne_of_lt (h.draw_lt life hbegan))
    · rcases (hbegun life').mp hbegan' with hbegan' | rfl
      · rw [hold hbegan', Function.update_self] at hsame
        exact absurd hsame.symm (Nat.ne_of_lt (h.draw_lt life' hbegan'))
      · rfl
  · by_cases hq' : q = new.1
    · subst hq'
      rw [hlife, hcount, Function.update_self]
      exact hproxy
    · obtain ⟨hlt, hcreator⟩ := hkept q hq hq'
      obtain ⟨hlifeQ, hcountQ⟩ := hother q hq'
      rw [hlifeQ, hcountQ, hcreator, hold (hasBegun_lifeOf hlt)]
      exact h.proxy q hlt
  · have hin := (hcreated k life n).mp hk
    rw [OpenKitInstance.session, hsessions, hold (h.made k life n hin).2.1]
    exact h.session k life n hin
  · have hin := (hcreated k life n).mp hk
    obtain ⟨hlt, hbegan, hbelow⟩ := h.made k life n hin
    refine ⟨hsessions ▸ hlt, (hbegun life).mpr (.inl hbegan), fun hcurrent => ?_⟩
    by_cases hq' : life.1 = new.1
    · rw [hq', hlife] at hcurrent
      exact absurd (hcurrent ▸ hbegan) hnew
    · obtain ⟨hlifeQ, hcountQ⟩ := hother life.1 hq'
      rw [hcountQ]
      exact hbelow (hcurrent.trans hlifeQ)
  · rw [hsessions] at hk
    obtain ⟨life, n, hin⟩ := h.created k hk
    exact ⟨life, n, (hcreated k life n).mpr hin⟩
  · exact h.unique k life life' n n' ((hcreated k life n).mp hk) ((hcreated k life' n').mp hk')
  · exact h.different j k life n ((hcreated j life n).mp hj) ((hcreated k life n).mp hk)
  · obtain ⟨hne, hle⟩ := hsize q hq
    obtain ⟨hlifeQ, hcountQ⟩ := hother q hne
    rw [hlifeQ, hcountQ]
    exact h.unmade q hle

/-- The id that the provider draws next. -/
theorem getNextSessionID (h : Drawn env first draw s) :
    s.sessionIDProvider.getNextSessionID.1 = drawn (2 ^ 31 - 1) first s.numDraws := by
  rw [drawn, Function.iterate_succ_apply', ← h.provider]
  rfl

/-- A proxy that starts over. -/
theorem startedOver (h : Drawn env first draw s) (hp : p < s.proxies.size) :
    ∃ draw', Drawn env first draw' (s.startedOver env p) := by
  -- the reset is seen by the proxy itself only
  have hreset (q : ProxyRef) (hq : q ≠ p) : InstanceEvent.resets q (.reset p) = false :=
    decide_eq_false (Ne.symm hq)
  have hlife (q : ProxyRef) (hq : q ≠ p) : lifeOf (s.startedOver env p).events q = lifeOf s.events q :=
    lifeOf_concat_of_not (hreset q hq)
  have hnewLife : lifeOf (s.startedOver env p).events p = (p, (lifeOf s.events p).2 + 1) := lifeOf_reset
  have hcount (q : ProxyRef) : numSinceReset (s.startedOver env p).events q =
      if p = q then 0 else numSinceReset s.events q := numSinceReset_concat
  have hcreator (q : ProxyRef) (hq : q ≠ p) :
      ((s.startedOver env p).proxy q).sessionCreator = (s.proxy q).sessionCreator := by
    rw [OpenKitInstance.startedOver, proxy_remember, proxy_updateProxy_of_ne hq]
    rfl
  have hself : ((s.startedOver env p).proxy p).sessionCreator = (s.proxy p).sessionCreator.reset
      s.sessionIDProvider.getNextSessionID.1 (env.random s.numDraws) := by
    rw [OpenKitInstance.startedOver, proxy_remember, proxy_updateProxy_self]
    rfl
  have hold := h.proxy p hp
  refine ⟨_, h.begin (p, (lifeOf s.events p).2 + 1) (fun hbegan => ?_) (fun life => ?_) rfl rfl rfl
    (fun k life n => createdIn_concat_of_not fun _ => by simp) hnewLife ?_ ?_ (fun q hq => ⟨hlife q hq, ?_⟩)
    (fun q hq hne => ⟨hq, hcreator q hne⟩) fun q hq => ⟨?_, hq⟩⟩
  · exact absurd hbegan.2 (Nat.not_succ_le_self _)
  · rw [HasBegun, HasBegun]
    by_cases hq : life.1 = p
    · rw [hq, hnewLife]
      constructor
      · rintro ⟨-, hle⟩
        rcases Nat.lt_succ_iff_lt_or_eq.mp (Nat.lt_succ_of_le hle) with hlt | heq
        · exact .inl ⟨hp, Nat.le_of_lt_succ hlt⟩
        · exact .inr (Prod.ext hq heq)
      · rintro (⟨-, hle⟩ | rfl)
        · exact ⟨hp, Nat.le_succ_of_le hle⟩
        · exact ⟨hp, le_refl _⟩
    · rw [hlife life.1 hq]
      exact (or_iff_left fun heq => hq (congrArg Prod.fst heq)).symm
  · rw [hcount, if_pos rfl]
  · rw [hself]
    exact ⟨hold.openKitConfiguration, hold.privacyConfiguration, h.getNextSessionID, rfl, rfl⟩
  · rw [hcount, if_neg (Ne.symm hq)]
  · exact Nat.ne_of_gt (hp.trans_le hq)

/-- A new proxy. -/
theorem newProxy (h : Drawn env first draw s) : ∃ draw', Drawn env first draw' (s.newProxy env) := by
  have hself : ((s.newProxy env).proxy s.proxies.size).sessionCreator = .new env.openKitConfiguration
      env.privacyConfiguration s.context.httpClientConfiguration.serverID
      s.sessionIDProvider.getNextSessionID.1 (env.random s.numDraws) :=
    congrArg SessionProxy.sessionCreator Heap.get_alloc_size
  obtain ⟨hlife, hcount⟩ := h.unmade s.proxies.size (le_refl _)
  have hlt {q : ProxyRef} (hq : q < (s.newProxy env).proxies.size) (hne : q ≠ s.proxies.size) :
      q < s.proxies.size := lt_of_le_of_ne (Nat.le_of_lt_succ hq) hne
  refine ⟨_, h.begin (s.proxies.size, 0) (fun hbegan => ?_) (fun life => ?_) rfl rfl rfl
    (fun _ _ _ => Iff.rfl) hlife hcount ?_ (fun q _ => ⟨rfl, rfl⟩) (fun q hq hne => ⟨hlt hq hne, ?_⟩)
    fun q hq => ⟨?_, ?_⟩⟩
  · exact absurd hbegan.1 (lt_irrefl _)
  · constructor
    · rintro ⟨hmade, hle⟩
      by_cases hq : life.1 = s.proxies.size
      · -- there is no reset of a proxy before it is made
        have hzero : life.2 ≤ 0 := by
          have hevents : life.2 ≤ (lifeOf s.events life.1).2 := hle
          rwa [hq, hlife] at hevents
        exact .inr (Prod.ext hq (Nat.le_zero.mp hzero))
      · exact .inl ⟨hlt hmade hq, hle⟩
    · rintro (⟨hmade, hle⟩ | rfl)
      · exact ⟨Nat.lt_succ_of_lt hmade, hle⟩
      · exact ⟨Nat.lt_succ_self _, Nat.zero_le _⟩
  · rw [hself]
    exact ⟨rfl, rfl, h.getNextSessionID, rfl, rfl⟩
  · exact congrArg SessionProxy.sessionCreator (Heap.get_alloc_of_lt (hlt hq hne))
  · exact Nat.ne_of_gt hq
  · exact Nat.le_of_succ_le hq

/-- **All moves** draw numbers at the beginnings of lives only. -/
theorem deed (h : Drawn env first draw s) {call : InstanceCall} (hdeed : Deed env call s t) :
    ∃ draw', Drawn env first draw' t := by
  cases hdeed with
  | quiet hquiet => exact ⟨draw, h.quiet hquiet⟩
  | @enter p _ _ _ _ _ huse hsplit hquiet =>
    refine ⟨draw, Drawn.quiet ?_ hquiet⟩
    split
    · have hcounted : Drawn env first draw (s.counted p) := h.updateProxy fun _ => rfl
      exact hcounted.remember rfl
    · exact h.remember rfl
  | forward huse hreport hquiet => exact ⟨draw, (h.remember rfl).quiet hquiet⟩
  | identify huse hquiet =>
    refine ⟨draw, Drawn.quiet (Drawn.updateProxy (h.remember rfl) fun _ => ?_) hquiet⟩
    rfl
  | @split _ p anew _ s₁ s₂ _ hmade hunfinished hclosed hnew htags =>
    have hp : p < s₁.proxies.size := by
      rw [hclosed.proxies_size]
      exact hmade
    obtain ⟨draw', hprepared⟩ : ∃ draw', Drawn env first draw' (s₁.prepared env p anew) := by
      cases anew with
      | true => exact (h.quiet hclosed).startedOver hp
      | false => exact ⟨draw, h.quiet hclosed⟩
    have hmade' := hprepared.newSession ((proxies_size_prepared env s₁ p anew).symm ▸ hp) hnew
    cases htags with
    | untagged _ => exact ⟨draw', hmade'⟩
    | tagged _ _ hquiet => exact ⟨draw', (hmade'.remember rfl).quiet hquiet⟩
  | finish hmade hunfinished hquiet =>
    refine ⟨draw, Drawn.quiet (Drawn.updateProxy (Drawn.updateProxy h fun _ => ?_) fun _ => ?_) hquiet⟩
    · rfl
    · rfl
  | create hmade =>
    obtain ⟨draw', hnew⟩ := h.newProxy
    exact ⟨draw', hnew.newSession (Nat.lt_succ_self _) hmade⟩

/-- **The keys** say what they should as long as the draws are different, and the numbers of each life. -/
theorem identified (h : Drawn env first draw s) (hmin : 0 ≤ first) (hmax : first ≤ 2 ^ 31 - 1)
    (hfew : s.numDraws < 2 ^ 31 - 1) (hshort : s.HasShortLives) : Identified s := by
  have hnumber {k : SessionRef} {life : Life} {n : ℕ} (hin : CreatedIn s.events k life n) :
      toInt32 n = n := by
    have hlt := hshort k life n hin
    exact toInt32_of_mem (by omega) (by omega)
  have hlt {life : Life} (hbegan : s.HasBegun life) : ((draw life : ℕ) : ℤ) < 2 ^ 31 - 1 := by
    have hdraw := h.draw_lt life hbegan
    omega
  -- fewer ids are drawn than the provider has, so no two lives have the same
  have hinjective {life life' : Life} (hbegan : s.HasBegun life) (hbegan' : s.HasBegun life')
      (hsame : drawn (2 ^ 31 - 1) first (draw life) = drawn (2 ^ 31 - 1) first (draw life')) :
      life = life' :=
    h.draw_injective life life' hbegan hbegan'
      (drawn_injective hmin hmax (hlt hbegan) (hlt hbegan') hsame)
  refine ⟨fun k hk => ?_, fun k hk => ?_, fun j hj k hk hsame => ?_, fun j hj k hk => ⟨fun hsame => ?_, ?_⟩,
    fun k life n hin => ?_, fun j k life m n hj hk => ?_, fun j k life m n hj hk => ?_⟩
  · obtain ⟨life, n, hin⟩ := h.created k hk
    refine ⟨(life, n), hin, fun origin horigin => ?_⟩
    obtain ⟨hlife, hn⟩ := h.unique k _ _ _ _ horigin hin
    exact Prod.ext hlife hn
  · obtain ⟨life, n, hin⟩ := h.created k hk
    rw [(h.session k life n hin).beaconKey]
    exact drawn_pos hmin hmax (by decide) _
  · obtain ⟨life, m, hj⟩ := h.created j hj
    obtain ⟨life', n, hk⟩ := h.created k hk
    rw [(h.session j life m hj).beaconKey, (h.session k life' n hk).beaconKey] at hsame
    obtain ⟨hid, hsequence⟩ := BeaconKey.mk.inj hsame
    rw [hnumber hj, hnumber hk] at hsequence
    obtain rfl := hinjective (h.made j life m hj).2.1 (h.made k life' n hk).2.1 hid
    obtain rfl := Int.natCast_inj.mp hsequence
    exact h.different j k life m hj hk
  · obtain ⟨life, m, hj⟩ := h.created j hj
    obtain ⟨life', n, hk⟩ := h.created k hk
    rw [(h.session j life m hj).beaconKey, (h.session k life' n hk).beaconKey] at hsame
    obtain rfl := hinjective (h.made j life m hj).2.1 (h.made k life' n hk).2.1 hsame
    exact ⟨life, m, n, hj, hk⟩
  · rintro ⟨life, m, n, hj, hk⟩
    rw [(h.session j life m hj).beaconKey, (h.session k life n hk).beaconKey]
  · rw [(h.session k life n hin).beaconKey]
    exact hnumber hin
  · rw [(h.session j life m hj).trafficControlValue, (h.session k life n hk).trafficControlValue]
  · rw [(h.session j life m hj).deviceID, (h.session k life n hk).deviceID]

end Drawn

section Run

variable (http : HTTPClientConfiguration) (provider : SessionIDProvider)

theorem drawn_new : Drawn env provider.lastSessionNumber (fun _ => 0) (new http provider env) :=
  ⟨rfl, fun _ hlife => absurd hlife.1 (Nat.not_lt_zero _),
    fun _ _ hlife => absurd hlife.1 (Nat.not_lt_zero _), fun q hq => absurd hq (Nat.not_lt_zero q),
    fun _ _ _ hin => absurd hin not_createdIn_nil, fun _ _ _ hin => absurd hin not_createdIn_nil,
    fun k hk => absurd hk (Nat.not_lt_zero k), fun _ _ _ _ _ hin => absurd hin not_createdIn_nil,
    fun _ _ _ _ hin => absurd hin not_createdIn_nil, fun _ _ => And.intro rfl rfl⟩

/-- **The identity of beacons** in all runs of an instance that draws fewer ids than there are, and creates fewer
than 2^31 sessions between two resets of a proxy. -/
theorem identified_afterCalls (calls : List InstanceCall) (hmin : 0 ≤ provider.lastSessionNumber)
    (hmax : provider.lastSessionNumber ≤ 2 ^ 31 - 1)
    (hfew : ((new http provider env).afterCalls env calls).numDraws < 2 ^ 31 - 1)
    (hshort : ((new http provider env).afterCalls env calls).HasShortLives) :
    Identified ((new http provider env).afterCalls env calls) := by
  let Kept (t : OpenKitInstance) : Prop := ∃ draw, Drawn env provider.lastSessionNumber draw t
  have hrun : Kept ((new http provider env).afterCalls env calls) := by
    refine moves_induction http provider ⟨_, drawn_new http provider⟩ (fun _ _ _ _ h hmove => ?_) calls
    obtain ⟨draw, hdrawn⟩ := h
    exact hdrawn.deed hmove.deed
  obtain ⟨draw, hdrawn⟩ := hrun
  exact hdrawn.identified hmin hmax hfew hshort

end Run

/-- Two proxies, the first of which starts over at a crash, when the ids start over as well. -/
def startedOverRun : OpenKitInstance :=
  (new ⟨1, .nil⟩ ⟨2 ^ 31 - 2⟩ .plain).afterCalls .plain
    [.createSession, .createSession, .requestNewSession 0 (some ⟨0, ResponseAttributes.jsonResponse, 200, 0⟩),
      .onProxy 0 1 (.reportCrash (.ofAscii ['a']) .nil .nil)]

theorem startedOverRun_short :
    startedOverRun.numDraws < 2 ^ 31 - 1 ∧ startedOverRun.events.length < 2 ^ 31 := by
  decide +kernel

theorem identified_afterCalls_reset : Identified startedOverRun :=
  identified_afterCalls ⟨1, .nil⟩ ⟨2 ^ 31 - 2⟩ _ (by decide) (by decide) startedOverRun_short.1
    (hasShortLives_of_length startedOverRun_short.2)

end OpenKitInstance

end OpenKit
