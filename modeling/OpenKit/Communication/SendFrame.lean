import OpenKit.Caching.CoveredBytes
import OpenKit.Communication.CaptureOnState

/-!
# What sending leaves alone

Sending the data of one session works on the entry of its beacon in the cache and on the log. It
leaves the entries of the other beacons, the sessions and the context as they are, and keeps the
byte counters right, or large enough. All of this holds of each of its actions, so it holds among any steps of other
threads as well as for the run alone.

## Main definitions

* `Event.IsTransfer`: an entry of the log about a chunk
* `SendStep k`: what the actions of sending the data of `k` do alike

## Main results

* `guarantees_send`: all actions of sending are such steps
* `sendStep_of_run`: so is the whole, run alone
* `run_send_of_recordless`: without records, sending does nothing
-/

namespace OpenKit

open Thread

/-- An entry about a chunk: requested or acknowledged. -/
def Event.IsTransfer : Event → Prop
  | .requested .. => True
  | .acknowledged _ => True
  | _ => False

/-- What an action of sending the data of `k` may do. -/
structure SendStep (k : BeaconKey) (w w' : World) : Prop where
  sessions : w'.sessions = w.sessions
  created : w'.created = w.created
  context : w'.context = w.context
  phase : w'.phase = w.phase
  currentTime : w'.currentTime = w.currentTime
  entryAt : ∀ k' ≠ k, w'.cache.entryAt k' = w.cache.entryAt k'
  accounted : w.cache.Accounted → w'.cache.Accounted
  covered : w.cache.Covered → w'.cache.Covered
  log : ∃ new, w'.log = w.log ++ new ∧ ∀ event ∈ new, event.IsTransfer

namespace SendStep

variable {k : BeaconKey} {w w' w'' : World}

theorem refl (w : World) : SendStep k w w :=
  ⟨rfl, rfl, rfl, rfl, rfl, fun _ _ => rfl, id, id, [], (List.append_nil _).symm,
    List.forall_mem_nil _⟩

theorem trans (h : SendStep k w w') (h' : SendStep k w' w'') : SendStep k w w'' := by
  obtain ⟨new, hlog, hnew⟩ := h.log
  obtain ⟨new', hlog', hnew'⟩ := h'.log
  refine ⟨h'.sessions.trans h.sessions, h'.created.trans h.created, h'.context.trans h.context,
    h'.phase.trans h.phase, h'.currentTime.trans h.currentTime, fun k' hk => ?_,
    h'.accounted ∘ h.accounted, h'.covered ∘ h.covered, new ++ new', ?_, ?_⟩
  · exact (h'.entryAt k' hk).trans (h.entryAt k' hk)
  · rw [hlog', hlog, List.append_assoc]
  · intro event he
    rcases List.mem_append.mp he with he | he
    · exact hnew event he
    · exact hnew' event he

theorem session (h : SendStep k w w') (k' : BeaconKey) : w'.session k' = w.session k' :=
  congrFun h.sessions k'

/-- An operation of the cache that changes it at `k` only. -/
theorem of_step (op : CacheOperation)
    (hentry : ∀ k' ≠ k, (w.cache.step op).entryAt k' = w.cache.entryAt k')
    (haccounted : w.cache.Accounted → (w.cache.step op).Accounted) :
    SendStep k w (w.setCache (w.cache.step op)) :=
  ⟨rfl, rfl, rfl, rfl, rfl, hentry, haccounted, fun h => h.step op, [], (List.append_nil _).symm,
    List.forall_mem_nil _⟩

theorem write (h : SendStep k w w') {event : Event} (he : event.IsTransfer) :
    SendStep k w (w'.write event) :=
  h.trans ⟨rfl, rfl, rfl, rfl, rfl, fun _ _ => rfl, id, id, [event], rfl,
    List.forall_mem_singleton.mpr he⟩

end SendStep

namespace BeaconSend

variable {env : Environment} {k : BeaconKey} {w : World}

/-- A read is a step that changes nothing. -/
theorem guarantees_read {α : Type} (f : World → α) :
    Program.Guarantees (SendStep k) (Program.read f : Sender α) :=
  Program.guarantees_atomic SendStep.refl

theorem guarantees_prepareDataForSending :
    Program.Guarantees (SendStep k) (prepareDataForSending k) := by
  apply Program.guarantees_atomic
  intro w
  refine SendStep.of_step (.prepareDataForSending k) ?_ ?_
  · intro k' hk
    show (w.cache.prepareDataForSending k).entryAt k' = _
    rw [BeaconCache.entryAt_prepareDataForSending, if_neg hk]
  · exact fun h => h.prepareDataForSending k

theorem guarantees_getNextBeaconChunk (chunkPrefix : UTF8String) (maxSize : ℤ) :
    Program.Guarantees (SendStep k) (getNextBeaconChunk k chunkPrefix maxSize) := by
  apply Program.guarantees_atomic
  intro w
  refine SendStep.of_step (.getNextBeaconChunk k chunkPrefix maxSize beaconDataDelimiter) ?_ ?_
  · intro k' hk
    show (w.cache.getNextBeaconChunk k _ _ _).2.entryAt k' = _
    rw [BeaconCache.entryAt_getNextBeaconChunk, if_neg hk]
  · exact fun h => h.getNextBeaconChunk k _ _ _

theorem guarantees_sendBeaconRequest (chunk : BeaconChunk) :
    Program.Guarantees (SendStep k) (sendBeaconRequest env chunk) := by
  apply Program.guarantees_atomic
  intro w
  have hstep : SendStep k w { w with numRequests := w.numRequests + 1 } :=
    ⟨rfl, rfl, rfl, rfl, rfl, fun _ _ => rfl, id, id, [], (List.append_nil _).symm,
      List.forall_mem_nil _⟩
  exact hstep.write trivial

theorem guarantees_removeChunkedData (chunk : BeaconChunk) :
    Program.Guarantees (SendStep k) (removeChunkedData k chunk) := by
  apply Program.guarantees_atomic
  intro w
  refine (SendStep.of_step (.removeChunkedData k) ?_ ?_).write trivial
  · intro k' hk
    show (w.cache.removeChunkedData k).entryAt k' = _
    rw [BeaconCache.entryAt_removeChunkedData, if_neg hk]
  · exact fun h => h.removeChunkedData k

theorem guarantees_resetChunkedData :
    Program.Guarantees (SendStep k) (resetChunkedData k) := by
  apply Program.guarantees_atomic
  intro w
  refine SendStep.of_step (.resetChunkedData k) ?_ ?_
  · intro k' hk
    show (w.cache.resetChunkedData k).entryAt k' = _
    rw [BeaconCache.entryAt_resetChunkedData, if_neg hk]
  · exact fun h => h.resetChunkedData k

theorem guarantees_sendChunk (response : Option Answer) :
    Program.Guarantees (SendStep k) (sendChunk env k response) := by
  refine (guarantees_read _).bind fun hasData => ?_
  cases hasData with
  | false => trivial
  | true =>
    refine (guarantees_read _).bind fun chunkPrefix => ?_
    refine (guarantees_read _).bind fun maxSize => ?_
    refine (guarantees_getNextBeaconChunk _ _).bind fun chunk => ?_
    split
    · trivial
    · refine (guarantees_sendBeaconRequest chunk).bind fun response => ?_
      split
      · exact (guarantees_removeChunkedData chunk).bind fun _ => trivial
      · exact guarantees_resetChunkedData.bind fun _ => trivial

/-- **All actions of sending** the data of `k` touch the entry of `k` and the log only. -/
theorem guarantees_send (rounds : ℕ) : Program.Guarantees (SendStep k) (send env rounds k) := by
  refine guarantees_prepareDataForSending.bind fun _ => ?_
  exact Program.guarantees_loop guarantees_sendChunk rounds none

/-- The same for sending run alone. -/
theorem sendStep_of_run {rounds : ℕ} {x : Except SendFault (Option Answer)} {t : World}
    (h : (send env rounds k).run w = (x, t)) : SendStep k w t :=
  (guarantees_send rounds).run SendStep.refl (fun _ _ _ => SendStep.trans) h

/-- Without records, sending asks for nothing and leaves the cache as it is. -/
theorem run_send_of_recordless (h : (w.cache.entryAt k).Recordless) (rounds : ℕ) :
    (send env (rounds + 1) k).run w = (.ok none, w) := by
  have hcopy : (w.cache.entryAt k).needsDataCopyBeforeSending = false := by
    rw [Bool.eq_false_iff, ne_eq, BeaconCacheEntry.needsDataCopyBeforeSending_iff]
    rintro ⟨-, hactive | hactive⟩
    · exact hactive h.1
    · exact hactive h.2.1
  have hdata : w.cache.hasDataForSending k = false := by
    rw [BeaconCache.hasDataForSending_eq]
    exact BeaconCacheEntry.hasDataToSend_eq_false_iff.mpr h.2.2
  have hprepare : (prepareDataForSending k).run w = (.ok (), w) := by
    rw [prepareDataForSending, Program.run_write, BeaconCache.prepareDataForSending_of_not hcopy]
    rfl
  rw [send, Program.run_bind_ok hprepare]
  exact Program.run_loop_done (run_sendChunk_of_no_data hdata)

end BeaconSend

end OpenKit
