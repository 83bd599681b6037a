import OpenKit.Communication.SendFrame

/-!
# The turns of the finished sessions

`sendFinishedSessions` takes the finished sessions in their order, and breaks out of the loop at a
session that could not be sent and is not empty. Whether a session is empty is read from the byte
counter of its entry. Eviction removes records and leaves the counter, so a session whose last
records were evicted has nothing to send, is never empty, and holds up all the sessions after it.

## Main definitions

* `Untouched k`: a step that leaves a session, its data and its place in the context as they are
* `finishedSessions`: the sessions that the loop goes over
* `NoHeadOfLineBlocking`: a session without records is removed at its turn, and the loop goes on

## Main results

* `guarantees_sendFinishedSession`: the turn of one session leaves the others untouched
* `removesAndGoesOn_iff`: the turn of a session without records
* `noHeadOfLineBlocking_iff`: no session blocks iff no counter of a session without records is left
  over; none is if no eviction has taken bytes
-/

namespace OpenKit

open Thread

/-! ## Steps that leave a session alone -/

/-- The session, its data and its place in the context stay as they are; other sessions may leave
the context. -/
structure Untouched (k : BeaconKey) (w w' : World) : Prop where
  session : w'.session k = w.session k
  entryAt : w'.cache.entryAt k = w.cache.entryAt k
  listed : k ∈ w'.context.sessions ↔ k ∈ w.context.sessions
  sublist : w'.context.sessions.Sublist w.context.sessions

namespace Untouched

variable {k k' : BeaconKey} {w w' w'' : World}

theorem refl (k : BeaconKey) (w : World) : Untouched k w w :=
  ⟨rfl, rfl, Iff.rfl, List.Sublist.refl _⟩

theorem trans (h : Untouched k w w') (h' : Untouched k w' w'') : Untouched k w w'' :=
  ⟨h'.session.trans h.session, h'.entryAt.trans h.entryAt, h'.listed.trans h.listed,
    h'.sublist.trans h.sublist⟩

theorem of_sendStep (h : SendStep k' w w') (hk : k ≠ k') : Untouched k w w' :=
  ⟨h.session k, h.entryAt k hk, by rw [h.context], by rw [h.context]⟩

end Untouched

section Guarantees

variable {env : Environment} {rounds : ℕ} {k k' : BeaconKey}

theorem guarantees_untouched_read {α : Type} (f : World → α) :
    Program.Guarantees (Untouched k) (Program.read f : Sender α) :=
  Program.guarantees_atomic (Untouched.refl k)

theorem guarantees_clearCapturedData (hk : k ≠ k') (phase : Phase) :
    Program.Guarantees (Untouched k) (clearCapturedData phase k') := by
  apply Program.guarantees_atomic
  intro w
  refine ⟨rfl, ?_, Iff.rfl, List.Sublist.refl _⟩
  show (w.cache.deleteCacheEntry k').entryAt k = w.cache.entryAt k
  rw [BeaconCache.entryAt_deleteCacheEntry, if_neg hk]

namespace CaptureOnState

theorem guarantees_sendBeacon (hk : k ≠ k') :
    Program.Guarantees (Untouched k) (sendBeacon env rounds k') := by
  have hsend : Program.Guarantees (Untouched k) (BeaconSend.send env rounds k') :=
    (BeaconSend.guarantees_send rounds).mono fun _ _ h => .of_sendStep h hk
  refine hsend.bind fun answer => ?_
  refine (Program.guarantees_atomic fun w => ?_).bind fun _ => trivial
  exact ⟨rfl, rfl, Iff.rfl, List.Sublist.refl _⟩

theorem guarantees_removeSession (hk : k ≠ k') (allowed : Bool) :
    Program.Guarantees (Untouched k) (removeSession k' allowed) := by
  refine (Program.guarantees_atomic fun w => ?_).bind fun _ => guarantees_clearCapturedData hk _
  exact ⟨rfl, rfl, List.mem_erase_of_ne hk, List.erase_sublist⟩

/-- **The turn of one session** leaves the other sessions untouched. -/
theorem guarantees_sendFinishedSession (hk : k ≠ k') (response : Option Answer) :
    Program.Guarantees (Untouched k) (sendFinishedSession env rounds k' response) := by
  refine (guarantees_untouched_read _).bind fun allowed => ?_
  split
  · refine (guarantees_sendBeacon hk).bind fun answer => ?_
    split
    · exact (guarantees_removeSession hk true).bind fun _ => trivial
    · split
      · trivial
      · refine (guarantees_untouched_read _).bind fun isEmpty => ?_
        split
        · trivial
        · exact (guarantees_removeSession hk true).bind fun _ => trivial
  · exact (guarantees_removeSession hk false).bind fun _ => trivial

/-- The same for the turns of some sessions, run alone. -/
theorem untouched_of_run_forEach {ks : List BeaconKey} (hk : k ∉ ks) {response : Option Answer}
    {w t : World} {x : Except SendFault (ForInStep (Option Answer))}
    (h : (Program.forEach (sendFinishedSession env rounds) ks response).run w = (x, t)) :
    Untouched k w t := by
  refine Program.Guarantees.run (Program.guarantees_forEach ?_ response) (Untouched.refl k)
    (fun _ _ _ => Untouched.trans) h
  intro k' hk' a
  have hne : k ≠ k' := by
    rintro rfl
    exact hk hk'
  exact guarantees_sendFinishedSession hne a

end CaptureOnState

end Guarantees

/-! ## The loop -/

section Select

variable {w : World}

/-- The sessions selected, if no other thread steps. -/
theorem run_filterSessions (p : Session → Bool) (ks : List BeaconKey) :
    (filterSessions p ks).run w = (.ok (ks.filter fun k => p (w.session k)), w) := by
  induction ks with
  | nil => rfl
  | cons k ks ih =>
    rw [filterSessions, Program.run_bind_ok (Program.run_read _ w), Program.run_bind_ok ih,
      List.filter_cons]
    rfl

theorem run_selectSessions (p : Session → Bool) :
    (selectSessions p).run w =
      (.ok (w.context.sessions.filter fun k => p (w.session k)), w) := by
  rw [selectSessions, Program.run_bind_ok (Program.run_read _ w), run_filterSessions]

end Select

namespace CaptureOnState

/-- The finished sessions that have a configuration, in the order of their turns. -/
def finishedSessions (w : World) : List BeaconKey :=
  w.context.sessions.filter fun k => (w.session k).isConfiguredAndFinished

section Turn

variable (env : Environment) (rounds : ℕ)

/-- The loop of `sendFinishedSessions` from `w` comes to the turn of the session after those
`before`. -/
def ReachesTurn (before : List BeaconKey) (w : World) (response : Option Answer) (t : World) :
    Prop :=
  (Program.forEach (sendFinishedSession env rounds) before none).run (w.enter .finishedSessions) =
    (.ok (.yield response), t)

/-- The turn of `k` removes it from the context, and the loop goes on. -/
def RemovesAndGoesOn (k : BeaconKey) (response : Option Answer) (t : World) : Prop :=
  ∃ response' t', (sendFinishedSession env rounds k response).run t =
    (.ok (.yield response'), t') ∧ k ∉ t'.context.sessions

/-- Each finished session that has no record left at its turn is removed, and the loop goes on. -/
def NoHeadOfLineBlocking (w : World) : Prop :=
  ∀ before k after, finishedSessions w = before ++ k :: after →
    ∀ response t, ReachesTurn env rounds before w response t →
      (t.cache.entryAt k).Recordless → RemovesAndGoesOn env rounds k response t

end Turn

variable {env : Environment} {rounds : ℕ} {k : BeaconKey} {w : World}

/-- `sendFinishedSessions` run alone is the loop over the finished sessions. -/
theorem run_sendFinishedSessions :
    (sendFinishedSessions env rounds).run w =
      (do
        let outcome ← Program.forEach (sendFinishedSession env rounds) (finishedSessions w) none
        return Program.loopValue outcome : Sender (Option Answer)).run
        (w.enter .finishedSessions) := by
  rw [sendFinishedSessions, Program.run_bind_ok (Program.run_write _ w),
    BeaconSendingContext.getAllFinishedAndConfiguredSessions,
    Program.run_bind_ok (run_selectSessions _)]
  rfl

theorem run_sendBeacon {answer : Option Answer} {t : World}
    (h : (BeaconSend.send env rounds k).run w = (.ok answer, t)) :
    (sendBeacon env rounds k).run w = (.ok answer, t.write (.sent t.phase k answer)) := by
  rw [sendBeacon, Program.run_bind_ok h, Program.run_bind_ok (Program.run_write _ t)]
  rfl

/-- A removal takes one occurrence of the session out of the context. -/
theorem run_removeSession (allowed : Bool) :
    ∃ t, (removeSession k allowed).run w = (.ok (), t) ∧
      t.context.sessions = w.context.sessions.erase k :=
  ⟨_, rfl, rfl⟩

/-- The turn of a session that has no record breaks the loop if its data may be sent and its
counter is not zero. -/
theorem run_sendFinishedSession_of_recordless (h : (w.cache.entryAt k).Recordless)
    (response : Option Answer)
    (hblocked : (w.session k).isDataSendingAllowed = true ∧
      (w.cache.entryAt k).totalNumBytes ≠ 0) :
    (sendFinishedSession env (rounds + 1) k response).run w =
      (.ok (.done none), w.write (.sent w.phase k none)) := by
  have hempty : w.cache.isEmpty k = false := by
    rw [BeaconCache.isEmpty_eq]
    exact beq_eq_false_iff_ne.mpr hblocked.2
  rw [sendFinishedSession, Program.run_bind_ok (Program.run_read _ w), hblocked.1, if_pos rfl,
    Program.run_bind_ok (run_sendBeacon (BeaconSend.run_send_of_recordless h rounds))]
  show (Program.read (fun w : World => w.cache.isEmpty k) >>= _).run _ = _
  rw [Program.run_bind_ok (Program.run_read _ _)]
  simp only [World.cache_write, hempty]
  rfl

/-- Otherwise it removes the session, and the loop goes on. -/
theorem removesAndGoesOn_of_recordless (h : (w.cache.entryAt k).Recordless)
    (hnodup : w.context.sessions.Nodup) (response : Option Answer)
    (hfree : (w.session k).isDataSendingAllowed = true → (w.cache.entryAt k).totalNumBytes = 0) :
    RemovesAndGoesOn env (rounds + 1) k response w := by
  have hgone : k ∉ w.context.sessions.erase k := hnodup.not_mem_erase
  cases ha : (w.session k).isDataSendingAllowed with
  | false =>
    obtain ⟨t, hrun, hsessions⟩ := run_removeSession (w := w) (k := k) false
    refine ⟨response, t, ?_, hsessions ▸ hgone⟩
    rw [sendFinishedSession, Program.run_bind_ok (Program.run_read _ w), ha,
      if_neg Bool.false_ne_true, Program.run_bind_ok hrun]
    rfl
  | true =>
    have hempty : w.cache.isEmpty k = true := by
      rw [BeaconCache.isEmpty_eq]
      exact beq_iff_eq.mpr (hfree ha)
    obtain ⟨t, hrun, hsessions⟩ :=
      run_removeSession (w := w.write (.sent w.phase k none)) (k := k) true
    refine ⟨none, t, ?_, hsessions ▸ hgone⟩
    rw [sendFinishedSession, Program.run_bind_ok (Program.run_read _ w), ha, if_pos rfl,
      Program.run_bind_ok (run_sendBeacon (BeaconSend.run_send_of_recordless h rounds))]
    show (Program.read (fun w : World => w.cache.isEmpty k) >>= _).run _ = _
    rw [Program.run_bind_ok (Program.run_read _ _)]
    simp only [World.cache_write, hempty]
    show (removeSession k true >>= _).run _ = _
    rw [Program.run_bind_ok hrun]
    rfl

/-- **The turn of a session without records** removes it and goes on iff its data may not be sent or
its counter is zero. -/
theorem removesAndGoesOn_iff (h : (w.cache.entryAt k).Recordless)
    (hnodup : w.context.sessions.Nodup) (response : Option Answer) :
    RemovesAndGoesOn env (rounds + 1) k response w ↔
      ((w.session k).isDataSendingAllowed = true → (w.cache.entryAt k).totalNumBytes = 0) := by
  constructor
  · rintro ⟨response', t', hrun, -⟩ ha
    by_contra hne
    rw [run_sendFinishedSession_of_recordless h response ⟨ha, hne⟩] at hrun
    simp at hrun
  · exact removesAndGoesOn_of_recordless h hnodup response

/-- Turns of other sessions come before the turn of `k`, and leave it untouched. -/
theorem ReachesTurn.untouched {before : List BeaconKey} {response : Option Answer} {t : World}
    (h : ReachesTurn env rounds before w response t) (hk : k ∉ before) : Untouched k w t := by
  have hentered : Untouched k w (w.enter .finishedSessions) :=
    ⟨rfl, rfl, Iff.rfl, List.Sublist.refl _⟩
  exact hentered.trans (untouched_of_run_forEach hk h)

theorem not_mem_before {before after : List BeaconKey} (hnodup : w.context.sessions.Nodup)
    (hsplit : finishedSessions w = before ++ k :: after) : k ∉ before := by
  have h : (before ++ k :: after).Nodup := hsplit ▸ hnodup.filter _
  intro hk
  exact List.disjoint_of_nodup_append h hk List.mem_cons_self

/-- **Head-of-line blocking**: at its turn a session without records is removed, and the loop goes
on, iff its data may not be sent or its counter is zero. The counters are, in whatever order the
operations of the cache came, if none of them evicted bytes. -/
theorem noHeadOfLineBlocking_iff (env : Environment) (rounds : ℕ) (w : World)
    (hnodup : w.context.sessions.Nodup) :
    (∀ before k after, finishedSessions w = before ++ k :: after →
      ∀ response t, ReachesTurn env (rounds + 1) before w response t →
        (w.cache.entryAt k).Recordless →
          (RemovesAndGoesOn env (rounds + 1) k response t ↔
            ((w.session k).isDataSendingAllowed = true →
              (w.cache.entryAt k).totalNumBytes = 0))) ∧
    ∀ ops, w.cache = ops.foldl BeaconCache.step .empty →
      Runs.Guarded BeaconCache.step BeaconCache.EvictsNoBytes .empty ops →
        NoHeadOfLineBlocking env (rounds + 1) w := by
  have hturn {before : List BeaconKey} {k : BeaconKey} {after : List BeaconKey}
      {response : Option Answer} {t : World}
      (hsplit : finishedSessions w = before ++ k :: after)
      (hreach : ReachesTurn env (rounds + 1) before w response t)
      (hrec : (t.cache.entryAt k).Recordless) :
      RemovesAndGoesOn env (rounds + 1) k response t ↔
        ((w.session k).isDataSendingAllowed = true → (w.cache.entryAt k).totalNumBytes = 0) := by
    have hsame := hreach.untouched (not_mem_before hnodup hsplit)
    rw [removesAndGoesOn_iff hrec (hsame.sublist.nodup hnodup), hsame.session, hsame.entryAt]
  constructor
  · intro before k after hsplit response t hreach hrec
    rw [← (hreach.untouched (not_mem_before hnodup hsplit)).entryAt] at hrec
    exact hturn hsplit hreach hrec
  · intro ops hcache hguarded before k after hsplit response t hreach hrec
    refine (hturn hsplit hreach hrec).mpr fun _ => ?_
    rw [(hreach.untouched (not_mem_before hnodup hsplit)).entryAt] at hrec
    have haccounted : w.cache.Accounted := by
      rw [hcache]
      exact (BeaconCache.accounted_of_guarded hguarded).last
    rw [haccounted.entryAt k, BeaconCacheEntry.activeBytes, hrec.1, hrec.2.1]
    rfl

/-- A finished session that the server has configured. -/
def finishedSession : Session :=
  ((Session.new (.new (.new ⟨.userBehavior, .optInCrashes⟩) 0 0 .nil)).updateServerConfiguration
    .defaultInstance).markAsFinished

/-- A session with data being sent and one without data, and no eviction: nothing blocks. -/
theorem noHeadOfLineBlocking_of_twoSessions :
    let ops : List CacheOperation :=
      [.addEventData ⟨1, 0⟩ 0 (.ofAscii ['a']), .addActionData ⟨1, 0⟩ 0 (.ofAscii ['b']),
        .prepareDataForSending ⟨1, 0⟩, .removeChunkedData ⟨1, 0⟩]
    let context := ((BeaconSendingContext.new ⟨1, .nil⟩).addSession ⟨1, 0⟩).addSession ⟨2, 0⟩
    let w := (World.new (fun _ => finishedSession) context).setCache
      (ops.foldl BeaconCache.step .empty)
    NoHeadOfLineBlocking ⟨fun _ => none, fun _ _ => .nil⟩ 3 w := by
  intro ops context w
  have hguarded : Runs.Guarded BeaconCache.step BeaconCache.EvictsNoBytes .empty ops := by
    simp [ops, Runs.Guarded, BeaconCache.EvictsNoBytes]
  exact (noHeadOfLineBlocking_iff _ 2 w (by decide)).2 ops rfl hguarded

/-- An event that is evicted before its session is finished: the session is never removed. -/
theorem not_noHeadOfLineBlocking :
    ¬ ∀ (env : Environment) (rounds : ℕ) (w : World) (ops : List CacheOperation),
      w.cache = ops.foldl BeaconCache.step .empty → w.context.sessions.Nodup →
        NoHeadOfLineBlocking env (rounds + 1) w := by
  intro h
  let k : BeaconKey := ⟨1, 0⟩
  let ops : List CacheOperation :=
    [.addEventData k 0 (.ofAscii ['a']), .evictRecordsByNumber k 1]
  let context : BeaconSendingContext := (BeaconSendingContext.new ⟨1, .nil⟩).addSession k
  let w : World :=
    (World.new (fun _ => finishedSession) context).setCache (ops.foldl BeaconCache.step .empty)
  have hrec : (w.cache.entryAt k).Recordless := by decide
  have hblocked : (w.session k).isDataSendingAllowed = true ∧
      (w.cache.entryAt k).totalNumBytes ≠ 0 := by decide
  obtain ⟨response, t, hrun, -⟩ := h ⟨fun _ => none, fun _ _ => .nil⟩ 0 w ops rfl
    (List.nodup_singleton k) [] k [] rfl none _ rfl hrec
  rw [run_sendFinishedSession_of_recordless (w := w.enter .finishedSessions) hrec none hblocked]
    at hrun
  simp at hrun

end CaptureOnState

end OpenKit
