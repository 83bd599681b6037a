import Mathlib.Data.Nat.Find
import Mathlib.Data.Prod.Lex
import OpenKit.Communication.SendProgress

/-!
# The return of sending

A round whose prefix does not fit sends an empty chunk and is repeated after a successful answer.
As the prefix is built anew for each round, the next one may fit. So sending returns whatever the
cache and the answers are as long as a prefix fits again and again, and the records being sent
become fewer each time. From a moment on after which no prefix fits, sending goes on forever.

## Main definitions

* `PrefixFits`: the prefix of one chunk fits
* `PrefixesFitAgain`: after any number of requests some later prefix fits
* `numMisfits`: the number of requests until then
* `HasUnmarked`: a record is being sent and is in no chunk
* `Waits`: nothing is being sent and a record waits for it

## Main results

* `PrefixesFitAgain.send_returns`: sending returns
* `send_diverges`: sending does not return for any bound on its rounds
-/

namespace OpenKit

open Thread BeaconSendingResponseUtil

namespace BeaconSend

variable {mutableBeaconData : BeaconKey → ℕ → UTF8String} {k : BeaconKey} {session : Session}

/-- The prefix of a chunk that is built after `n` requests fits into the size of the chunks. -/
def PrefixFits (mutableBeaconData : BeaconKey → ℕ → UTF8String) (k : BeaconKey)
    (session : Session) (n : ℕ) : Prop :=
  (beaconPrefix session (mutableBeaconData k n)).getStringLength ≤ toSizeT (maxChunkSize session)

instance (n : ℕ) : Decidable (PrefixFits mutableBeaconData k session n) :=
  inferInstanceAs (Decidable (_ ≤ _))

/-- After any number of requests some later prefix fits. -/
def PrefixesFitAgain (mutableBeaconData : BeaconKey → ℕ → UTF8String) (k : BeaconKey)
    (session : Session) : Prop :=
  ∀ n, ∃ m, n ≤ m ∧ PrefixFits mutableBeaconData k session m

/-- The number of requests from the `n`-th on whose prefixes do not fit before one does. -/
def numMisfits (h : PrefixesFitAgain mutableBeaconData k session) (n : ℕ) : ℕ :=
  Nat.find (h n) - n

theorem numMisfits_succ_lt (h : PrefixesFitAgain mutableBeaconData k session) {n : ℕ}
    (hn : ¬ PrefixFits mutableBeaconData k session n) : numMisfits h (n + 1) < numMisfits h n := by
  obtain ⟨hle, hfits⟩ := Nat.find_spec (h n)
  have hne : Nat.find (h n) ≠ n := by
    intro heq
    rw [heq] at hfits
    exact hn hfits
  have hnext : Nat.find (h (n + 1)) ≤ Nat.find (h n) := Nat.find_min' _ ⟨by omega, hfits⟩
  unfold numMisfits
  omega

/-! ## A round -/

section Round

variable {env : Environment} {w : World}

@[simp] theorem numRequests_afterRound :
    (afterRound env k w).numRequests = w.numRequests + 1 := by
  rw [afterRound]
  split <;> rfl

/-- The prefix of a round decides whether its chunk takes a record. -/
theorem numRecords_chunkAt_pos_iff_fits (hdata : (w.cache.entryAt k).beingSent ≠ []) :
    0 < (chunkAt env k w).numRecords ↔
      PrefixFits env.mutableBeaconData k (w.session k) w.numRequests :=
  numRecords_chunkAt_pos_iff.trans (and_iff_right hdata)

/-- No successful round raises the number of records being sent. -/
theorem length_beingSent_afterRound_le (hdata : (w.cache.entryAt k).beingSent ≠ [])
    (hs : isSuccessfulResponse (answerAt env w) = true) :
    ((afterRound env k w).cache.entryAt k).beingSent.length ≤
      (w.cache.entryAt k).beingSent.length := by
  rw [beingSent_afterRound hdata hs]
  exact (List.length_filter_le _ _).trans (BeaconCacheEntry.length_markFirst _ _).le

end Round

/-! ## Return -/

/-- A prefix that fits again and again lets sending return. Each round that goes on lowers the
number of records being sent, or else that of the prefixes until one fits. -/
theorem PrefixesFitAgain.send_returns (h : PrefixesFitAgain mutableBeaconData k session)
    (response : ℕ → Option StatusResponse) {w : World} (hw : w.session k = session) :
    ∃ rounds r t, (send ⟨response, mutableBeaconData⟩ rounds k).run w = (.ok r, t) := by
  -- a round removes records, or comes closer to a prefix that fits
  have hbody (r : Option Answer) (w : World) (hw : w.session k = session) :
      ∃ x t, (sendChunk ⟨response, mutableBeaconData⟩ k r).run w = (.ok x, t) ∧
        Program.Round (fun _ t => t.session k = session ∧
          toLex ((t.cache.entryAt k).beingSent.length, numMisfits h t.numRequests) <
            toLex ((w.cache.entryAt k).beingSent.length, numMisfits h w.numRequests))
          (fun _ _ => True) x t := by
    cases hdata : w.cache.hasDataForSending k with
    | false => exact ⟨_, w, run_sendChunk_of_no_data hdata, trivial⟩
    | true =>
      refine ⟨_, _, run_sendChunk_of_data hdata, ?_⟩
      split
      next hs =>
        rw [BeaconCache.hasDataForSending_eq, BeaconCacheEntry.hasDataToSend_iff] at hdata
        refine ⟨(session_afterRound k).trans hw, Prod.Lex.toLex_lt_toLex.mpr ?_⟩
        by_cases hfits : PrefixFits mutableBeaconData k session w.numRequests
        · rw [← hw] at hfits
          exact .inl (length_beingSent_afterRound
            ((numRecords_chunkAt_pos_iff_fits hdata).mpr hfits) hs)
        · rcases (length_beingSent_afterRound_le hdata hs).lt_or_eq with hlt | heq
          · exact .inl hlt
          · refine .inr ⟨heq, ?_⟩
            rw [numRequests_afterRound]
            exact numMisfits_succ_lt h hfits
      next => trivial
  have hprepared : (w.setCache (w.cache.prepareDataForSending k)).session k = session := hw
  obtain ⟨rounds, r, t, hrun, -⟩ := Program.run_loop_returns (e := SendFault.outOfRounds)
    (J := fun _ (w : World) => w.session k = session)
    (fun _ w => toLex ((w.cache.entryAt k).beingSent.length, numMisfits h w.numRequests)) hbody
    (a := none) hprepared
  exact ⟨rounds, r, t, (Program.run_bind_ok (Program.run_write _ w)).trans hrun⟩

/-! ## Divergence -/

/-- A record of the beacon is being sent and not marked. -/
def HasUnmarked (k : BeaconKey) (w : World) : Prop :=
  ∃ r ∈ (w.cache.entryAt k).beingSent, r.markedForSending = false

theorem HasUnmarked.hasDataForSending {w : World} (h : HasUnmarked k w) :
    w.cache.hasDataForSending k = true := by
  obtain ⟨r, hr, -⟩ := h
  rw [BeaconCache.hasDataForSending_eq, BeaconCacheEntry.hasDataToSend_iff]
  exact List.ne_nil_of_mem hr

/-- A round whose prefix does not fit removes no record that is not marked. -/
theorem HasUnmarked.afterRound {env : Environment} {w : World} (h : HasUnmarked k w)
    (hs : isSuccessfulResponse (answerAt env w) = true)
    (hfits : ¬ PrefixFits env.mutableBeaconData k (w.session k) w.numRequests) :
    HasUnmarked k (BeaconSend.afterRound env k w) := by
  obtain ⟨r, hr, hunmarked⟩ := h
  have hdata := List.ne_nil_of_mem hr
  have hnone : (chunkAt env k w).numRecords = 0 := by
    rw [← numRecords_chunkAt_pos_iff_fits hdata] at hfits
    omega
  refine ⟨r, ?_, hunmarked⟩
  rw [beingSent_afterRound hdata hs, hnone, List.mem_filter, hunmarked]
  exact ⟨hr, rfl⟩

/-- A server that answers every request successfully. -/
def successfulResponse (_ : ℕ) : Option StatusResponse := some ⟨.undefined, 200, 0⟩

theorem isSuccessfulResponse_answerAt (w : World) :
    isSuccessfulResponse (answerAt ⟨successfulResponse, mutableBeaconData⟩ w) = true := rfl

/-- **Sending goes on forever** if no later prefix fits and all answers are successful. -/
theorem send_diverges {n : ℕ} (hlate : ∀ m, n ≤ m → ¬ PrefixFits mutableBeaconData k session m)
    {w : World} (hw : w.session k = session) (hn : n ≤ w.numRequests)
    (hrecord : HasUnmarked k (w.setCache (w.cache.prepareDataForSending k))) (rounds : ℕ) :
    ∃ t, (send ⟨successfulResponse, mutableBeaconData⟩ rounds k).run w =
      (.error .outOfRounds, t) := by
  rw [send, prepareDataForSending, Program.run_bind_ok (Program.run_write _ w)]
  refine Program.run_loop_diverges
    (J := fun _ w => w.session k = session ∧ n ≤ w.numRequests ∧ HasUnmarked k w)
    (fun r u hj => ?_) rounds ⟨hw, hn, hrecord⟩
  obtain ⟨hu, hle, hrecord⟩ := hj
  have hs : isSuccessfulResponse (answerAt ⟨successfulResponse, mutableBeaconData⟩ u) = true :=
    isSuccessfulResponse_answerAt u
  have hrun : (sendChunk ⟨successfulResponse, mutableBeaconData⟩ k r).run u = _ :=
    run_sendChunk_of_data hrecord.hasDataForSending
  rw [if_pos hs] at hrun
  refine ⟨_, _, hrun, (session_afterRound k).trans hu, ?_, hrecord.afterRound hs ?_⟩
  · rw [numRequests_afterRound]
    omega
  · rw [hu]
    exact hlate _ hle

/-- Sending to such a server returns no answer that asks for a pause. -/
theorem run_send_successfulResponse {w t : World} {rounds : ℕ} {answer : Option Answer}
    (h : (send ⟨successfulResponse, mutableBeaconData⟩ rounds k).run w = (.ok answer, t)) :
    w.numRequests ≤ t.numRequests ∧ isTooManyRequestsResponse answer = false := by
  rw [send, prepareDataForSending, Program.run_bind_ok (Program.run_write _ w)] at h
  refine Program.run_loop_ok
    (J := fun a u => w.numRequests ≤ u.numRequests ∧ isTooManyRequestsResponse a = false)
    (Q := fun a u => w.numRequests ≤ u.numRequests ∧ isTooManyRequestsResponse a = false)
    (fun a u r u' hj hrun => ?_) ⟨le_refl _, rfl⟩ h
  obtain ⟨hle, hfalse⟩ := hj
  cases hdata : u.cache.hasDataForSending k with
  | false =>
    rw [run_sendChunk_of_no_data hdata] at hrun
    obtain ⟨hr, rfl⟩ := Prod.mk.inj hrun
    obtain rfl := Except.ok.inj hr
    exact ⟨hle, hfalse⟩
  | true =>
    rw [run_sendChunk_of_data hdata, if_pos (isSuccessfulResponse_answerAt u)] at hrun
    obtain ⟨hr, rfl⟩ := Prod.mk.inj hrun
    obtain rfl := Except.ok.inj hr
    refine ⟨?_, rfl⟩
    rw [numRequests_afterRound]
    omega

/-! ## Records that wait -/

/-- Nothing of the beacon is being sent, and a record of it waits for that. -/
def Waits (k : BeaconKey) (w : World) : Prop :=
  (∀ kind, (w.cache.entryAt k).sending kind = []) ∧
    ∃ kind, ∃ r ∈ (w.cache.entryAt k).active kind, r.markedForSending = false

namespace Waits

variable {w w' : World}

theorem of_entryAt (h : Waits k w) (heq : w'.cache.entryAt k = w.cache.entryAt k) : Waits k w' := by
  rw [Waits, heq]
  exact h

/-- Records added for any beacon leave it waiting. -/
theorem addData (h : Waits k w) (k' : BeaconKey) (kind : RecordKind) (timestamp : ℤ)
    (data : UTF8String) : Waits k (w.addData k' kind timestamp data) := by
  obtain ⟨hsending, kind', r, hr, hunmarked⟩ := h
  rw [Waits, World.addData, World.cache_write, World.cache_setCache, BeaconCache.entryAt_addData]
  split
  next hk =>
    subst hk
    refine ⟨fun kind'' => ?_, kind', r, ?_, hunmarked⟩
    · rw [BeaconCacheEntry.sending_addData]
      exact hsending kind''
    · rw [BeaconCacheEntry.active_addData]
      split
      · exact List.mem_append_left _ hr
      · exact hr
  next => exact ⟨hsending, kind', r, hr, hunmarked⟩

/-- Prepared for sending, the record is being sent. -/
theorem hasUnmarked (h : Waits k w) :
    HasUnmarked k (w.setCache (w.cache.prepareDataForSending k)) := by
  obtain ⟨hsending, kind, r, hr, hunmarked⟩ := h
  have hcopy : (w.cache.entryAt k).needsDataCopyBeforeSending = true := by
    rw [BeaconCacheEntry.needsDataCopyBeforeSending_iff]
    refine ⟨BeaconCacheEntry.beingSent_eq_nil_iff.mpr hsending, ?_⟩
    cases kind with
    | event => exact .inl (List.ne_nil_of_mem hr)
    | action => exact .inr (List.ne_nil_of_mem hr)
  refine ⟨r, ?_, hunmarked⟩
  rw [World.cache_setCache, BeaconCache.entryAt_prepareDataForSending, if_pos rfl, if_pos hcopy,
    BeaconCacheEntry.mem_beingSent_iff]
  refine ⟨kind, ?_⟩
  rw [BeaconCacheEntry.sending_copyDataForSending]
  exact List.mem_append_left _ hr

end Waits

end BeaconSend

end OpenKit
