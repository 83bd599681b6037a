import OpenKit.Communication.Delivery
import OpenKit.Communication.SendFrame
import OpenKit.Communication.SendReturns

/-!
# What a send leaves and returns

A send run alone neither loses nor invents a record: what it acknowledges it takes out of the
cache, and what it could not send it puts back. It returns the answer to its last request, before
which all were answered successfully, and it makes a request iff the beacon has a record.

## Main definitions

* `owned`: the records of a beacon that were acknowledged or are in the cache
* `BeaconSend.reply`: the answer to a request by its number
* `BeaconSend.Replied`: what some requests of a send were answered

## Main results

* `BeaconSend.owned_of_run_send`: a send conserves the records
* `BeaconSend.exists_mem_of_failed`: a send that fails leaves a record
* `BeaconSend.replied_of_run_send`, `BeaconSend.numRequests_lt_of_run_send`: the answers of a send
-/

namespace OpenKit

open Thread BeaconSendingResponseUtil

/-- The records of a beacon that were acknowledged, and then those in the cache. -/
def owned (k : BeaconKey) (kind : RecordKind) (w : World) : List BeaconCacheRecord :=
  acknowledged k kind w.log ++ (w.cache.entryAt k).records kind

namespace BeaconSend

variable {env : Environment} {rounds : ℕ} {k : BeaconKey} {w t : World} {answer : Option Answer}

/-! ## The records -/

/-- The records of a round, before its answer. -/
theorem records_afterRequest (k' : BeaconKey) (kind : RecordKind) :
    ((afterRequest env k w).cache.entryAt k').records kind = (w.cache.entryAt k').records kind :=
  BeaconCache.records_getNextBeaconChunk k' kind _ _ _

theorem inChunk_afterRequest (h : Sending k w) :
    InChunk k (chunkAt env k w) (afterRequest env k w) := by
  have hchunk := h.getNextBeaconChunk (chunkPrefix env k w) (maxChunkSize (w.session k))
    beaconDataDelimiter (chunkAt env k w).text
  exact ⟨hchunk.others, hchunk.key, hchunk.unmarked, hchunk.sending⟩

/-- A request acknowledges nothing yet. -/
theorem owned_afterRequest (k' : BeaconKey) (kind : RecordKind) :
    owned k' kind (afterRequest env k w) = owned k' kind w := by
  have hlog : (afterRequest env k w).log =
      w.log ++ [.requested w.phase (chunkAt env k w) (answerAt env w)] := rfl
  have hnone : acknowledged k' kind
      [.requested w.phase (chunkAt env k w) (answerAt env w)] = [] := rfl
  rw [owned, owned, records_afterRequest, hlog, acknowledged_append, hnone, List.append_nil]

/-- **A round** conserves the records, and goes on with none of them marked. -/
theorem owned_afterRound (h : Sending k w) :
    (∀ k' kind, owned k' kind (afterRound env k w) = owned k' kind w) ∧
      (isSuccessfulResponse (answerAt env w) = true → Sending k (afterRound env k w)) := by
  have hchunk : InChunk k (chunkAt env k w) (afterRequest env k w) := inChunk_afterRequest h
  have hrequest (k' : BeaconKey) (kind : RecordKind) :
      owned k' kind (afterRequest env k w) = owned k' kind w := owned_afterRequest k' kind
  rw [afterRound]
  split
  next hs =>
    refine ⟨fun k' kind => ?_, fun _ => hchunk.removeChunkedData⟩
    rw [← hrequest, owned, owned, World.log_write, World.cache_write, World.log_setCache,
      World.cache_setCache, acknowledged_append, List.append_assoc, hchunk.records_removeChunkedData]
  next hs =>
    refine ⟨fun k' kind => ?_, fun hs' => absurd hs' hs⟩
    rw [← hrequest, owned, owned, World.log_setCache, World.cache_setCache,
      BeaconCache.records_resetChunkedData]

/-- **A send** conserves the records of every beacon. -/
theorem owned_of_run_send (hidle : Idle w)
    (hactive : ∀ k kind, ∀ r ∈ (w.cache.entryAt k).active kind, r.markedForSending = false)
    (h : (send env rounds k).run w = (.ok answer, t)) (k' : BeaconKey) (kind : RecordKind) :
    owned k' kind t = owned k' kind w := by
  rw [send, prepareDataForSending, Program.run_bind_ok (Program.run_write _ w)] at h
  have hprepared : owned k' kind (w.setCache (w.cache.prepareDataForSending k)) = owned k' kind w := by
    rw [owned, owned, World.log_setCache, World.cache_setCache,
      BeaconCache.records_prepareDataForSending k' kind (hactive k' kind)]
  refine Program.run_loop_ok
    (J := fun _ u => Sending k u ∧ owned k' kind u = owned k' kind w)
    (Q := fun _ u => owned k' kind u = owned k' kind w) (fun a u r u' hj hrun => ?_)
    ⟨hidle.prepareDataForSending hactive k, hprepared⟩ h
  obtain ⟨hs, howned⟩ := hj
  cases hdata : u.cache.hasDataForSending k with
  | false =>
    rw [run_sendChunk_of_no_data hdata] at hrun
    obtain ⟨hr, rfl⟩ := Prod.mk.inj hrun
    obtain rfl := Except.ok.inj hr
    exact howned
  | true =>
    rw [run_sendChunk_of_data hdata] at hrun
    obtain ⟨hr, rfl⟩ := Prod.mk.inj hrun
    obtain rfl := Except.ok.inj hr
    have hround : owned k' kind (afterRound env k u) = owned k' kind u :=
      (owned_afterRound hs).1 k' kind
    split
    next hsuccess => exact ⟨(owned_afterRound hs).2 hsuccess, hround.trans howned⟩
    next => exact hround.trans howned

/-- **A send that fails** leaves a record of its beacon. -/
theorem exists_mem_of_failed (h : (send env rounds k).run w = (.ok answer, t))
    (hanswer : answer ≠ none) (hfails : isSuccessfulResponse answer = false) :
    ∃ kind, (t.cache.entryAt k).records kind ≠ [] := by
  rw [send, prepareDataForSending, Program.run_bind_ok (Program.run_write _ w)] at h
  have hloop := Program.run_loop_ok
    (J := fun a _ => a ≠ none → isSuccessfulResponse a = true)
    (Q := fun a u => a ≠ none → isSuccessfulResponse a = false →
      ∃ kind, (u.cache.entryAt k).records kind ≠ []) (fun a u r u' hj hrun => ?_)
    (fun hne => absurd rfl hne) h
  · exact hloop hanswer hfails
  cases hdata : u.cache.hasDataForSending k with
  | false =>
    rw [run_sendChunk_of_no_data hdata] at hrun
    obtain ⟨hr, rfl⟩ := Prod.mk.inj hrun
    obtain rfl := Except.ok.inj hr
    exact fun hne hfails => absurd (hfails.symm.trans (hj hne)) Bool.false_ne_true
  | true =>
    rw [run_sendChunk_of_data hdata] at hrun
    obtain ⟨hr, rfl⟩ := Prod.mk.inj hrun
    obtain rfl := Except.ok.inj hr
    split
    next hsuccess => exact fun _ => hsuccess
    next hfails =>
      -- the records of the chunk are restored
      intro _ _
      rw [BeaconCache.hasDataForSending_eq, BeaconCacheEntry.hasDataToSend_iff] at hdata
      obtain ⟨r, hr⟩ := List.exists_mem_of_ne_nil _ hdata
      obtain ⟨kind, hr⟩ := BeaconCacheEntry.mem_beingSent_iff.mp hr
      have hmem : r.unsetSending ∈ (u.cache.entryAt k).records kind :=
        List.mem_append_left _ (List.mem_map_of_mem hr)
      refine ⟨kind, ?_⟩
      rw [afterRound, if_neg hfails, World.cache_setCache, BeaconCache.records_resetChunkedData,
        records_afterRequest]
      exact List.ne_nil_of_mem hmem

/-! ## The answers -/

/-- The answer to a request. -/
def reply (env : Environment) (n : ℕ) : Option Answer := (env.response n).map (Answer.mk n)

/-- The requests from the `n`-th to the one before the `m`-th: all but the last were answered
successfully, and `answer` is the answer to the last. There may be none. -/
structure Replied (env : Environment) (n m : ℕ) (answer : Option Answer) : Prop where
  le : n ≤ m
  eq_none : n = m → answer = none
  eq_reply : n < m → answer = reply env (m - 1)
  successful : ∀ i, n ≤ i → i + 1 < m → isSuccessfulResponse (reply env i) = true

theorem Replied.refl (n : ℕ) : Replied env n n none :=
  ⟨le_refl n, fun _ => rfl, fun h => absurd h (lt_irrefl n), fun i hle hlt => by omega⟩

/-- One more request after a successful one, or the first. -/
theorem Replied.succ {n m : ℕ} (h : Replied env n m answer)
    (hlast : n < m → isSuccessfulResponse answer = true) : Replied env n (m + 1) (reply env m) := by
  have hle := h.le
  refine ⟨by omega, fun heq => by omega, fun _ => rfl, fun i hi hlt => ?_⟩
  by_cases him : i + 1 < m
  · exact h.successful i hi him
  · obtain rfl : i = m - 1 := by omega
    have hlt : n < m := by omega
    rw [← h.eq_reply hlt]
    exact hlast hlt

/-- **The answers of a send**: it returns the last one, and all before it were successful. -/
theorem replied_of_run_send (h : (send env rounds k).run w = (.ok answer, t)) :
    Replied env w.numRequests t.numRequests answer := by
  rw [send, prepareDataForSending, Program.run_bind_ok (Program.run_write _ w)] at h
  refine Program.run_loop_ok
    (J := fun a u => Replied env w.numRequests u.numRequests a ∧
      (w.numRequests < u.numRequests → isSuccessfulResponse a = true))
    (Q := fun a u => Replied env w.numRequests u.numRequests a) (fun a u r u' hj hrun => ?_)
    ⟨.refl _, fun hlt => absurd hlt (lt_irrefl _)⟩ h
  obtain ⟨hreplied, hlast⟩ := hj
  cases hdata : u.cache.hasDataForSending k with
  | false =>
    rw [run_sendChunk_of_no_data hdata] at hrun
    obtain ⟨hr, rfl⟩ := Prod.mk.inj hrun
    obtain rfl := Except.ok.inj hr
    exact hreplied
  | true =>
    rw [run_sendChunk_of_data hdata] at hrun
    obtain ⟨hr, rfl⟩ := Prod.mk.inj hrun
    obtain rfl := Except.ok.inj hr
    have hnext : Replied env w.numRequests (afterRound env k u).numRequests (answerAt env u) := by
      rw [numRequests_afterRound]
      exact hreplied.succ hlast
    split
    next hsuccess => exact ⟨hnext, fun _ => hsuccess⟩
    next => exact hnext

/-- Preparing a beacon that has a record leaves data to send. -/
theorem hasDataForSending_prepareDataForSending {c : BeaconCache}
    (h : ¬ (c.entryAt k).Recordless) : (c.prepareDataForSending k).hasDataForSending k = true := by
  rw [BeaconCache.hasDataForSending_eq, BeaconCacheEntry.hasDataToSend_iff,
    BeaconCache.entryAt_prepareDataForSending, if_pos rfl]
  split
  next hcopy =>
    intro hnil
    have hactive := (BeaconCacheEntry.needsDataCopyBeforeSending_iff.mp hcopy).2
    have hsending := BeaconCacheEntry.beingSent_eq_nil_iff.mp hnil
    simp only [BeaconCacheEntry.sending_copyDataForSending, List.append_eq_nil_iff] at hsending
    have hnone := BeaconCacheEntry.active_eq_nil_iff.mp fun kind => (hsending kind).1
    exact hactive.elim (fun hne => hne hnone.1) fun hne => hne hnone.2
  next hcopy =>
    intro hnil
    rw [BeaconCacheEntry.needsDataCopyBeforeSending_iff, not_and, not_or, not_not, not_not] at hcopy
    obtain ⟨hevents, hactions⟩ := hcopy hnil
    exact h ⟨hevents, hactions, hnil⟩

/-- A send of a beacon that has a record makes a request. -/
theorem numRequests_lt_of_run_send (hrecords : ¬ (w.cache.entryAt k).Recordless)
    (h : (send env rounds k).run w = (.ok answer, t)) : w.numRequests < t.numRequests := by
  rw [send, prepareDataForSending, Program.run_bind_ok (Program.run_write _ w)] at h
  have hdata := hasDataForSending_prepareDataForSending hrecords
  refine Program.run_loop_ok
    (J := fun _ u => w.numRequests ≤ u.numRequests ∧
      (w.numRequests < u.numRequests ∨ u.cache.hasDataForSending k = true))
    (Q := fun _ u => w.numRequests < u.numRequests) (fun a u r u' hj hrun => ?_)
    ⟨le_refl _, .inr hdata⟩ h
  obtain ⟨hle, hmade⟩ := hj
  cases hdata : u.cache.hasDataForSending k with
  | false =>
    rw [run_sendChunk_of_no_data hdata] at hrun
    obtain ⟨hr, rfl⟩ := Prod.mk.inj hrun
    obtain rfl := Except.ok.inj hr
    exact hmade.resolve_right (ne_true_of_eq_false hdata)
  | true =>
    rw [run_sendChunk_of_data hdata] at hrun
    obtain ⟨hr, rfl⟩ := Prod.mk.inj hrun
    obtain rfl := Except.ok.inj hr
    have hlt : w.numRequests < (afterRound env k u).numRequests := by
      rw [numRequests_afterRound]
      omega
    split
    · exact ⟨hlt.le, .inl hlt⟩
    · exact hlt

/-- A send of a beacon without a record does nothing, and returns no answer. -/
theorem eq_of_run_send_of_recordless (hrecords : (w.cache.entryAt k).Recordless)
    (h : (send env rounds k).run w = (.ok answer, t)) : answer = none ∧ t = w := by
  cases rounds with
  | zero => cases h
  | succ rounds =>
    rw [run_send_of_recordless hrecords rounds] at h
    obtain ⟨hr, rfl⟩ := Prod.mk.inj h
    exact ⟨(Except.ok.inj hr).symm, rfl⟩

end BeaconSend

end OpenKit
