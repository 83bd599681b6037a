import OpenKit.Communication.FinishedSessions
import OpenKit.Communication.SendOutcome

/-!
# What the loop over the open sessions returns

The loop goes over the open sessions in their order, and its loop variable is the answer of the last
session whose data may be sent. A session without a record makes no request, and hides what the
sessions before it were answered. An answer that asks for a pause ends the loop.

## Main definitions

* `sendable`: the sessions of a list whose data may be sent
* `LastHasRecords`: the last open session whose data may be sent has records
* `OpenReplied`: what the loop returns, given the answers to its requests

## Main results

* `turnsReplied_of_run`: the loop over any list of sessions
* `openReplied_of_run`: the loop over the open sessions
-/

namespace OpenKit

open Thread BeaconSendingResponseUtil BeaconSend

@[simp] theorem World.numRequests_write (w : World) (event : Event) :
    (w.write event).numRequests = w.numRequests := rfl

namespace CaptureOnState

/-- The sessions whose data may be sent. -/
def sendable (w : World) (ks : List BeaconKey) : List BeaconKey :=
  ks.filter fun k => (w.session k).isDataSendingAllowed

/-- The open sessions that have a configuration, in the order of their turns. -/
def openSessions (w : World) : List BeaconKey :=
  w.context.sessions.filter fun k => (w.session k).isConfiguredAndOpen

/-- The last of the open sessions whose data may be sent has records in the cache. -/
def LastHasRecords (w : World) : Prop :=
  ∃ k, (sendable w (openSessions w)).getLast? = some k ∧ ¬ (w.cache.entryAt k).Recordless

variable {env : Environment} {rounds : ℕ} {k : BeaconKey} {ks : List BeaconKey}
  {response answer : Option Answer} {w t : World}

/-! ## The turns -/

/-- The turns of some sessions made no request that was answered with a pause: the loop variable is
what it was before, or what the last session whose data may be sent was answered. -/
structure TurnsReplied (env : Environment) (ks : List BeaconKey) (response : Option Answer)
    (w : World) (answer : Option Answer) (t : World) : Prop where
  le : w.numRequests ≤ t.numRequests
  notTooMany : ∀ i, w.numRequests ≤ i → i < t.numRequests →
    isTooManyRequestsResponse (reply env i) = false
  unsent : sendable w ks = [] → answer = response ∧ t.numRequests = w.numRequests
  recordless : ∀ k, (sendable w ks).getLast? = some k → (w.cache.entryAt k).Recordless →
    answer = none
  sent : ∀ k, (sendable w ks).getLast? = some k → ¬ (w.cache.entryAt k).Recordless →
    w.numRequests < t.numRequests ∧ answer = reply env (t.numRequests - 1)

/-- The last request was answered with a pause. -/
structure TurnsPaused (env : Environment) (w : World) (answer : Option Answer) (t : World) :
    Prop where
  lt : w.numRequests < t.numRequests
  eq_reply : answer = reply env (t.numRequests - 1)
  tooMany : isTooManyRequestsResponse answer = true

/-- The answers of a send that ends without a pause. -/
theorem notTooMany_of_replied {n m : ℕ} (h : Replied env n m answer)
    (hanswer : isTooManyRequestsResponse answer = false) {i : ℕ} (hn : n ≤ i) (hm : i < m) :
    isTooManyRequestsResponse (reply env i) = false := by
  by_cases hlast : i + 1 < m
  · have hs := h.successful i hn hlast
    cases hreply : reply env i with
    | none => rfl
    | some a =>
      rw [hreply, isSuccessfulResponse, Bool.not_eq_true'] at hs
      by_contra hmany
      rw [Bool.not_eq_false] at hmany
      exact Bool.false_ne_true (hs.symm.trans (a.response.isErroneousResponse_of_tooManyRequests hmany))
  · obtain rfl : i = m - 1 := by omega
    rw [← h.eq_reply (by omega)]
    exact hanswer

theorem TurnsReplied.nil (response : Option Answer) (w : World) :
    TurnsReplied env [] response w response w := by
  refine ⟨le_refl _, fun i hle hlt => by omega, fun _ => ⟨rfl, rfl⟩, fun k hk => ?_, fun k hk => ?_⟩
  · cases hk
  · cases hk

/-- What a turn leaves of the sessions after it. -/
structure SameRest (ks : List BeaconKey) (w t : World) : Prop where
  session : ∀ k ∈ ks, t.session k = w.session k
  entryAt : ∀ k ∈ ks, t.cache.entryAt k = w.cache.entryAt k

theorem SameRest.sendable_eq (h : SameRest ks w t) : sendable t ks = sendable w ks :=
  List.filter_congr fun k hk => by rw [h.session k hk]

/-- A turn that makes no request, before others. -/
theorem TurnsReplied.cons_clear {t' : World} (hk : (w.session k).isDataSendingAllowed = false)
    (hrest : SameRest ks w t) (hsame : t.numRequests = w.numRequests)
    (h : TurnsReplied env ks response t answer t') :
    TurnsReplied env (k :: ks) response w answer t' := by
  have hsendable : sendable w (k :: ks) = sendable t ks := by
    rw [hrest.sendable_eq, sendable, List.filter_cons, hk, if_neg Bool.false_ne_true]
    rfl
  have hentry {k' : BeaconKey} (hk' : (sendable t ks).getLast? = some k') :
      t.cache.entryAt k' = w.cache.entryAt k' :=
    hrest.entryAt k' (List.mem_of_mem_filter (List.mem_of_getLast? hk'))
  refine ⟨hsame ▸ h.le, hsame ▸ h.notTooMany, ?_, fun k' hk' hrecords => ?_, fun k' hk' hrecords => ?_⟩
  · rw [hsendable, ← hsame]
    exact h.unsent
  · rw [hsendable] at hk'
    exact h.recordless k' hk' (hentry hk' ▸ hrecords)
  · rw [hsendable] at hk'
    rw [← hsame]
    exact h.sent k' hk' (hentry hk' ▸ hrecords)

/-- The turn of a session that is sent, before others. -/
theorem TurnsReplied.cons_send {answer' : Option Answer} {t' : World}
    (hk : (w.session k).isDataSendingAllowed = true)
    (hreplied : Replied env w.numRequests t.numRequests answer)
    (hmany : isTooManyRequestsResponse answer = false)
    (hrecordless : (w.cache.entryAt k).Recordless → answer = none)
    (hsent : ¬ (w.cache.entryAt k).Recordless → w.numRequests < t.numRequests)
    (hrest : SameRest ks w t) (h : TurnsReplied env ks answer t answer' t') :
    TurnsReplied env (k :: ks) response w answer' t' := by
  -- the sessions after this one are as they were, so the last that is sent is found among them
  have hsendable : sendable w (k :: ks) = k :: sendable t ks := by
    rw [hrest.sendable_eq, sendable, List.filter_cons, hk, if_pos rfl]
    rfl
  have hentry {k' : BeaconKey} (hk' : (sendable t ks).getLast? = some k') :
      t.cache.entryAt k' = w.cache.entryAt k' :=
    hrest.entryAt k' (List.mem_of_mem_filter (List.mem_of_getLast? hk'))
  refine ⟨hreplied.le.trans h.le, fun i hle hlt => ?_, fun hnil => ?_, fun k' hk' hrecords => ?_,
    fun k' hk' hrecords => ?_⟩
  · by_cases hi : i < t.numRequests
    · exact notTooMany_of_replied hreplied hmany hle hi
    · exact h.notTooMany i (not_lt.mp hi) hlt
  · rw [hsendable] at hnil
    exact absurd hnil (List.cons_ne_nil _ _)
  · rw [hsendable, List.getLast?_cons] at hk'
    cases hlast : (sendable t ks).getLast? with
    | none =>
      -- the session is the last that is sent
      rw [hlast] at hk'
      obtain rfl : k = k' := Option.some.inj hk'
      rw [(h.unsent (List.getLast?_eq_none_iff.mp hlast)).1]
      exact hrecordless hrecords
    | some k'' =>
      rw [hlast] at hk'
      obtain rfl : k'' = k' := Option.some.inj hk'
      exact h.recordless k'' hlast (hentry hlast ▸ hrecords)
  · rw [hsendable, List.getLast?_cons] at hk'
    cases hlast : (sendable t ks).getLast? with
    | none =>
      rw [hlast] at hk'
      obtain rfl : k = k' := Option.some.inj hk'
      obtain ⟨hanswer, hnumber⟩ := h.unsent (List.getLast?_eq_none_iff.mp hlast)
      rw [hanswer, hnumber]
      exact ⟨hsent hrecords, hreplied.eq_reply (hsent hrecords)⟩
    | some k'' =>
      rw [hlast] at hk'
      obtain rfl : k'' = k' := Option.some.inj hk'
      obtain ⟨hlt, hanswer⟩ := h.sent k'' hlast (hentry hlast ▸ hrecords)
      exact ⟨hreplied.le.trans_lt hlt, hanswer⟩

/-- What the loop returns from later requests it returns from all of them. -/
theorem TurnsPaused.of_le {t' : World} (h : TurnsPaused env t answer t')
    (hle : w.numRequests ≤ t.numRequests) : TurnsPaused env w answer t' :=
  ⟨hle.trans_lt h.lt, h.eq_reply, h.tooMany⟩

/-- **The loop over some open sessions**, by induction on the sessions still to come. -/
theorem turnsReplied_of_run (hnodup : ks.Nodup) {r : ForInStep (Option Answer)}
    (h : (Program.forEach (sendOpenSession env rounds) ks response).run w = (.ok r, t)) :
    Program.Round (TurnsReplied env ks response w) (TurnsPaused env w) r t := by
  induction ks generalizing w response with
  | nil =>
    obtain ⟨hr, rfl⟩ := Prod.mk.inj h
    obtain rfl := Except.ok.inj hr
    exact .nil response w
  | cons k ks ih =>
    obtain ⟨hk, hks⟩ := List.nodup_cons.mp hnodup
    have hne {k' : BeaconKey} (hk' : k' ∈ ks) : k' ≠ k := by
      rintro rfl
      exact hk hk'
    obtain ⟨r', t', hturn, hrest⟩ := Program.run_bind_eq_ok.mp h
    rw [sendOpenSession, Program.run_bind_ok (Program.run_read _ w)] at hturn
    -- the turn clears the session or sends its data, and only a pause ends the loop
    cases hallowed : (w.session k).isDataSendingAllowed with
    | false =>
      rw [hallowed, if_neg Bool.false_ne_true] at hturn
      obtain ⟨hr', rfl⟩ := Prod.mk.inj hturn
      obtain rfl := Except.ok.inj hr'
      have hsame : SameRest ks w
          ((w.setCache (w.cache.deleteCacheEntry k)).write (.cleared .openSessions k)) := by
        refine ⟨fun _ _ => rfl, fun k' hk' => ?_⟩
        rw [World.cache_write, World.cache_setCache, BeaconCache.entryAt_deleteCacheEntry,
          if_neg (hne hk')]
      have hround := ih hks hrest
      cases r with
      | yield answer => exact TurnsReplied.cons_clear hallowed hsame rfl hround
      | done answer => exact TurnsPaused.of_le hround (le_refl _)
    | true =>
      -- its data may be sent
      rw [hallowed, if_pos rfl] at hturn
      obtain ⟨answer, u, hbeacon, hend⟩ := Program.run_bind_eq_ok.mp hturn
      obtain ⟨answer', u', hsend, hwrite⟩ := Program.run_bind_eq_ok.mp hbeacon
      rw [Program.run_bind_ok (Program.run_write _ u')] at hwrite
      obtain ⟨ha, rfl⟩ := Prod.mk.inj hwrite
      obtain rfl := Except.ok.inj ha
      have hreplied := replied_of_run_send hsend
      have hmade (hrecords : ¬ (w.cache.entryAt k).Recordless) :=
        numRequests_lt_of_run_send hrecords hsend
      rw [← World.numRequests_write u' (.sent u'.phase k answer')] at hreplied hmade
      have hstep := sendStep_of_run hsend
      have hsame : SameRest ks w (u'.write (.sent u'.phase k answer')) :=
        ⟨fun k' _ => hstep.session k', fun k' hk' => hstep.entryAt k' (hne hk')⟩
      cases hmany : isTooManyRequestsResponse answer' with
      | true =>
        rw [hmany, if_pos rfl] at hend
        obtain ⟨hr', rfl⟩ := Prod.mk.inj hend
        obtain rfl := Except.ok.inj hr'
        obtain ⟨hr, rfl⟩ := Prod.mk.inj hrest
        obtain rfl := Except.ok.inj hr
        have hlt : w.numRequests < u'.numRequests := by
          refine lt_of_le_of_ne hreplied.le fun heq => ?_
          rw [hreplied.eq_none heq] at hmany
          exact Bool.false_ne_true hmany
        exact ⟨hlt, hreplied.eq_reply hlt, hmany⟩
      | false =>
        rw [hmany, if_neg Bool.false_ne_true] at hend
        obtain ⟨hr', rfl⟩ := Prod.mk.inj hend
        obtain rfl := Except.ok.inj hr'
        have hround := ih hks hrest
        cases r with
        | yield answer =>
          exact TurnsReplied.cons_send hallowed hreplied hmany
            (fun hrecords => (eq_of_run_send_of_recordless hrecords hsend).1)
            hmade hsame hround
        | done answer => exact TurnsPaused.of_le hround hreplied.le

/-! ## The loop over the open sessions -/

/-- **What the loop over the open sessions returns**: the answer to its last request, if that asks
for a pause or the last session that is sent has records, and no answer otherwise. -/
def OpenReplied (env : Environment) (w : World) (answer : Option Answer) (t : World) : Prop :=
  (w.numRequests < t.numRequests ∧ answer = reply env (t.numRequests - 1) ∧
      (isTooManyRequestsResponse answer = true ∨ LastHasRecords w)) ∨
    answer = none ∧ (t.numRequests = w.numRequests ∨
      isTooManyRequestsResponse (reply env (t.numRequests - 1)) = false ∧ ¬ LastHasRecords w)

theorem openReplied_of_run (hnodup : w.context.sessions.Nodup)
    (h : (sendOpenSessions env rounds).run w = (.ok answer, t)) : OpenReplied env w answer t := by
  rw [sendOpenSessions, Program.run_bind_ok (Program.run_write _ w),
    Program.run_bind_ok (Program.run_read _ _), Program.run_bind_ok (Program.run_read _ _),
    Program.run_bind_ok (Program.run_read _ _)] at h
  -- before the interval is over nothing is sent
  split at h
  · obtain ⟨ha, rfl⟩ := Prod.mk.inj h
    obtain rfl := Except.ok.inj ha
    exact .inr ⟨rfl, .inl rfl⟩
  rw [BeaconSendingContext.getAllOpenAndConfiguredSessions,
    Program.run_bind_ok (run_selectSessions _)] at h
  obtain ⟨r, t', hloop, hrest⟩ := Program.run_bind_eq_ok.mp h
  rw [Program.run_bind_ok (Program.run_write _ t')] at hrest
  obtain ⟨ha, rfl⟩ := Prod.mk.inj hrest
  obtain rfl := Except.ok.inj ha
  have hround := turnsReplied_of_run (hnodup.filter _) hloop
  cases r with
  | done answer => exact .inl ⟨hround.lt, hround.eq_reply, .inl hround.tooMany⟩
  | yield answer =>
    -- the last session that is sent decides, unless it has no records
    cases hlast : (sendable w (openSessions w)).getLast? with
    | none =>
      obtain ⟨hanswer, hnumber⟩ := hround.unsent (List.getLast?_eq_none_iff.mp hlast)
      exact .inr ⟨hanswer, .inl hnumber⟩
    | some k =>
      by_cases hrecords : (w.cache.entryAt k).Recordless
      · refine .inr ⟨hround.recordless k hlast hrecords, ?_⟩
        rcases hround.le.eq_or_lt with heq | hlt
        · exact .inl heq.symm
        · have hlt' : w.numRequests < t'.numRequests := hlt
          have hlow : w.numRequests ≤ t'.numRequests - 1 := by omega
          have hhigh : t'.numRequests - 1 < t'.numRequests := by omega
          refine .inr ⟨hround.notTooMany _ hlow hhigh, ?_⟩
          rintro ⟨k', hk', hrecords'⟩
          obtain rfl := Option.some.inj (hlast.symm.trans hk')
          exact hrecords' hrecords
      · obtain ⟨hlt, hanswer⟩ := hround.sent k hlast hrecords
        exact .inl ⟨hlt, hanswer, .inr ⟨k, hlast, hrecords⟩⟩

end CaptureOnState

end OpenKit
