import OpenKit.Objects.ObjectEffects

/-!
# The completion of a session's objects

Leaving an action or ending the session reports all objects that are still open below it, each once,
children first, and closes them; cancelling an action closes them without a report. What is closed stays
closed, and calls that close it again change nothing.

## Main definitions

* `SessionHeap.Reported`: what was reported is closed, and was reported once
* `SessionHeap.Completion`: what leaving, cancelling, stopping and ending do

## Main results

* `completion_afterCalls`: in every state that is reached they do so
-/

namespace OpenKit

open Thread

namespace SessionHeap

open HeapCalls

variable {caller : Caller} {discardData : Bool} {s t : SessionHeap} {q r : ObjectRef}
  {parent : ObjectParent} {roots refs : List ObjectRef} {tail : List HeapReport}

/-! ## Runs -/

theorem linked_new (beacon : Beacon) (numReads : ℕ) : Linked (new beacon numReads) := by
  -- nothing has been made, and what was not made is closed, has no children and no action above it
  have hnone (q : ObjectRef) : ¬ (new beacon numReads).IsOpen q := fun hq => Nat.not_lt_zero q hq.1
  have hchildren (parent : ObjectParent) : (new beacon numReads).childrenOf parent = [] := by
    cases parent with
    | session => rfl
    | action p => rfl
  refine ⟨fun q p hup => ?_, fun q _ hq => absurd hq (hnone q), fun q hq => absurd hq (hnone q),
    fun parent q => ?_, fun parent => ?_⟩
  · cases hup
  · rw [hchildren]
    exact iff_of_false List.not_mem_nil fun h => hnone q h.1
  · rw [hchildren]
    exact List.nodup_nil

/-- **What was reported** is closed, and was reported once. -/
structure Reported (s : SessionHeap) : Prop where
  linked : Linked s
  nodup : s.reports.Nodup
  object : ∀ q, .object q ∈ s.reports → q < s.objects.size ∧ ¬ s.IsOpen q
  sessionEnd : .sessionEnd ∈ s.reports → s.reporting.session.isFinishingOrFinished = true

theorem reported_new (beacon : Beacon) (numReads : ℕ) : Reported (new beacon numReads) :=
  ⟨linked_new beacon numReads, List.nodup_nil, fun _ => nofun, nofun⟩

/-- **Every call keeps it so.** -/
theorem Reported.effect (h : Reported s) (heffect : Effect s t) : Reported t := by
  obtain ⟨new, hnew, hnodup, hobject, hend⟩ := heffect.reports
  refine ⟨heffect.linked, ?_, fun q hq => ?_, fun hmem => ?_⟩
  · rw [hnew]
    refine List.nodup_append.mpr ⟨h.nodup, hnodup, ?_⟩
    rintro report hold _ hreport rfl
    -- what was reported before was closed before
    cases report with
    | object q => exact (h.object q hold).2 (hobject q hreport).1
    | sessionEnd =>
      rw [h.sessionEnd hold] at hend
      cases (hend hreport).1
  · rw [hnew] at hq
    rcases List.mem_append.mp hq with hq | hq
    · obtain ⟨hlt, hclosed⟩ := h.object q hq
      exact ⟨hlt.trans_le heffect.size, fun hopen => hclosed (heffect.isOpen q hlt hopen)⟩
    · obtain ⟨hopen, hclosed⟩ := hobject q hq
      exact ⟨hopen.1.trans_le heffect.size, hclosed⟩
  · rw [hnew] at hmem
    rcases List.mem_append.mp hmem with hmem | hmem
    · exact heffect.finishing (h.sessionEnd hmem)
    · exact (hend hmem).2

theorem Reported.afterCalls (clock : ℕ → ℕ) (calls : List (ℤ × HeapCall)) (h : Reported s) :
    Reported (s.afterCalls clock calls) := by
  induction calls generalizing s with
  | nil => exact h
  | cons call calls ih => exact ih (h.effect (effect_afterCall _ h.linked call.2))

/-- A closed object that has not been reported never is. -/
theorem not_mem_reports_afterCalls (clock : ℕ → ℕ) (calls : List (ℤ × HeapCall)) (hlinked : Linked s)
    (hq : q < s.objects.size) (hclosed : ¬ s.IsOpen q) (hreports : .object q ∉ s.reports) :
    .object q ∉ (s.afterCalls clock calls).reports := by
  induction calls generalizing s with
  | nil => exact hreports
  | cons call calls ih =>
    have heffect := effect_afterCall ⟨call.1, clock⟩ hlinked call.2
    obtain ⟨new, hnew, -, hobject, -⟩ := heffect.reports
    refine ih heffect.linked (hq.trans_le heffect.size)
      (fun hopen => hclosed (heffect.isOpen q hq hopen)) ?_
    rw [hnew, List.mem_append]
    rintro (hmem | hmem)
    · exact hreports hmem
    · exact hclosed (hobject q hmem).1

/-! ## Completions -/

/-- A call returns, and reports some objects in order. -/
structure Completed (caller : Caller) (s : SessionHeap) (call : HeapCall) (closed : ObjectRef → Prop) :
    Prop where
  returns : s.outcome caller call = .ok ()
  reports : ∃ new, (s.afterCall caller call).reports = s.reports ++ new ∧ ReportsInOrder s closed new

/-- The objects at and below one are closed, and have no children. -/
def Emptied (s t : SessionHeap) (r : ObjectRef) : Prop :=
  ∀ q, s.Below r q → ¬ t.IsOpen q ∧ t.childrenOf (.action q) = []

/-- A call changes nothing. -/
def Unchanged (caller : Caller) (s : SessionHeap) (call : HeapCall) : Prop :=
  s.outcome caller call = .ok () ∧ s.afterCall caller call = s

/-- **What closing does** in a session. -/
structure Completion (s : SessionHeap) : Prop where
  reportedOnce : s.reports.Nodup
  leave : ∀ caller r, s.IsOpen r → (s.object r).isAction = true →
    Completed caller s (.onObject r .leaveAction) (fun q => s.IsOpen q ∧ s.Below r q) ∧
    Emptied s (s.afterCall caller (.onObject r .leaveAction)) r
  cancel : ∀ caller r, s.IsOpen r → (s.object r).isAction = true →
    Completed caller s (.onObject r .cancelAction) (fun _ => False) ∧
    Emptied s (s.afterCall caller (.onObject r .cancelAction)) r
  /-- What was cancelled is not reported later, either. -/
  neverReported : ∀ caller r q, s.IsOpen r → (s.object r).isAction = true → s.IsOpen q → s.Below r q →
    ∀ clock calls, .object q ∉
      ((s.afterCall caller (.onObject r .cancelAction)).afterCalls clock calls).reports
  stop : ∀ caller r responseCode, s.IsOpen r → (s.object r).isAction = false →
    Completed caller s (.onObject r (.stop responseCode)) (· = r) ∧
    Emptied s (s.afterCall caller (.onObject r (.stop responseCode))) r
  /-- The session end event is sent last, if it is to be. -/
  sessionEnd : ∀ caller sendSessionEndEvent, s.reporting.session.isFinishingOrFinished = false →
    Completed caller s (.endSession sendSessionEndEvent) s.IsOpen ∧
    (.sessionEnd ∈ (s.afterCall caller (.endSession sendSessionEndEvent)).reports ↔
      sendSessionEndEvent = true) ∧
    ∀ parent, (s.afterCall caller (.endSession sendSessionEndEvent)).childrenOf parent = []
  closed : ∀ caller r, ¬ s.IsOpen r →
    Unchanged caller s (.onObject r .leaveAction) ∧ Unchanged caller s (.onObject r .cancelAction) ∧
    ∀ responseCode, Unchanged caller s (.onObject r (.stop responseCode))
  ended : ∀ caller sendSessionEndEvent, s.reporting.session.isFinishingOrFinished = true →
    Unchanged caller s (.endSession sendSessionEndEvent)

/-! ## Single calls -/

/-- A call on an object that was made. -/
theorem run_onObject {fuel : ℕ} {call : ObjectCall} (hr : r < s.objects.size) :
    ((HeapCall.onObject r call).perform caller fuel).run s =
      (performObjectCall caller fuel r call).run s := by
  rw [HeapCall.perform, Program.run_bind_ok (Program.run_read _ s), decide_eq_true hr, if_pos rfl]

/-- A call on an object that was not made. -/
theorem run_onObject_of_not_lt {fuel : ℕ} {call : ObjectCall} (hr : ¬ r < s.objects.size) :
    ((HeapCall.onObject r call).perform caller fuel).run s = (.ok (), s) := by
  rw [HeapCall.perform, Program.run_bind_ok (Program.run_read _ s), decide_eq_false hr,
    if_neg Bool.false_ne_true]
  rfl

/-- What is known of a call from what it does to the session. -/
theorem completed_of_run {call : HeapCall} {closed : ObjectRef → Prop} {new : List HeapReport}
    (hrun : (call.perform caller s.fuel).run s = (.ok (), t)) (hreports : t.reports = s.reports ++ new)
    (horder : ReportsInOrder s closed new) : Completed caller s call closed := by
  refine ⟨congrArg Prod.fst hrun, new, ?_, horder⟩
  rw [afterCall, hrun, hreports]

theorem unchanged_of_run {call : HeapCall} (hrun : (call.perform caller s.fuel).run s = (.ok (), s)) :
    Unchanged caller s call :=
  ⟨congrArg Prod.fst hrun, congrArg Prod.snd hrun⟩

/-- A completion of a whole tree leaves nothing open in it. -/
theorem emptied_of_completes (h : Completes discardData parent roots refs tail s t) (hlinked : Linked s)
    (hrefs : ∀ q, q ∈ refs ↔ s.IsOpen q ∧ s.Below r q) : Emptied s t r := by
  intro q hbelow
  have hclosed : ¬ t.IsOpen q := by
    intro hq
    obtain ⟨hopen, hmem⟩ := h.detaches.isOpen_iff.mp hq
    exact hmem ((hrefs q).mpr ⟨hopen, hbelow⟩)
  exact ⟨hclosed, (h.linked hlinked).children_eq_nil hclosed⟩

/-- **Leaving** an open action. -/
theorem completed_leaveAction (caller : Caller) (hlinked : Linked s) (hr : s.IsOpen r)
    (haction : (s.object r).isAction = true) :
    Completed caller s (.onObject r .leaveAction) (fun q => s.IsOpen q ∧ s.Below r q) ∧
      Emptied s (s.afterCall caller (.onObject r .leaveAction)) r := by
  obtain ⟨object, refs, tail, t, htree, hrun, hcompletes⟩ :=
    run_doLeaveAction_of_isOpen caller false hlinked hr haction
  have hcall : ((HeapCall.onObject r .leaveAction).perform caller s.fuel).run s = (.ok (), t) :=
    (run_onObject hr.1).trans hrun
  refine ⟨completed_of_run hcall hcompletes.reports ?_, ?_⟩
  · exact reportsInOrder_append htree.nodup htree.mem_iff htree.childrenFirst
      (hcompletes.tail.imp_right And.left)
  · rw [afterCall, hcall]
    exact emptied_of_completes hcompletes hlinked htree.mem_iff

/-- **Cancelling** an open action. -/
theorem completed_cancelAction (caller : Caller) (hlinked : Linked s) (hr : s.IsOpen r)
    (haction : (s.object r).isAction = true) :
    Completed caller s (.onObject r .cancelAction) (fun _ => False) ∧
      Emptied s (s.afterCall caller (.onObject r .cancelAction)) r := by
  obtain ⟨object, refs, tail, t, htree, hrun, hcompletes⟩ :=
    run_doLeaveAction_of_isOpen caller true hlinked hr haction
  have hcall : ((HeapCall.onObject r .cancelAction).perform caller s.fuel).run s = (.ok (), t) :=
    (run_onObject hr.1).trans hrun
  refine ⟨completed_of_run hcall hcompletes.reports ?_, ?_⟩
  · exact reportsInOrder_tail (hcompletes.tail.imp_right And.left)
  · rw [afterCall, hcall]
    exact emptied_of_completes hcompletes hlinked htree.mem_iff

/-- **Stopping** an open web request. -/
theorem completed_stop (caller : Caller) (responseCode : ℤ) (hlinked : Linked s) (hr : s.IsOpen r)
    (haction : (s.object r).isAction = false) :
    Completed caller s (.onObject r (.stop responseCode)) (· = r) ∧
      Emptied s (s.afterCall caller (.onObject r (.stop responseCode))) r := by
  obtain ⟨object, tail, t, htree, hrun, hcompletes⟩ :=
    run_doStop_of_isOpen caller false responseCode hlinked hr haction
  have hcall : ((HeapCall.onObject r (.stop responseCode)).perform caller s.fuel).run s = (.ok (), t) :=
    (run_onObject hr.1).trans hrun
  refine ⟨completed_of_run hcall hcompletes.reports ?_, ?_⟩
  · exact reportsInOrder_append htree.nodup (fun _ => List.mem_singleton) htree.childrenFirst
      (hcompletes.tail.imp_right And.left)
  · rw [afterCall, hcall]
    exact emptied_of_completes hcompletes hlinked htree.mem_iff

/-- **Ending** an open session. -/
theorem completed_endSession (caller : Caller) (sendSessionEndEvent : Bool) (h : Reported s)
    (hopen : s.reporting.session.isFinishingOrFinished = false) :
    Completed caller s (.endSession sendSessionEndEvent) s.IsOpen ∧
      (.sessionEnd ∈ (s.afterCall caller (.endSession sendSessionEndEvent)).reports ↔
        sendSessionEndEvent = true) ∧
      ∀ parent, (s.afterCall caller (.endSession sendSessionEndEvent)).childrenOf parent = [] := by
  obtain ⟨objects, refs, t, hforest, hrun, hcompletes, -⟩ :=
    run_endSession_of_isOpen caller sendSessionEndEvent h.linked hopen
  have hcall : ((HeapCall.endSession sendSessionEndEvent).perform caller s.fuel).run s = (.ok (), t) :=
    hrun
  have htail : reportedEnd sendSessionEndEvent = [] ∨ reportedEnd sendSessionEndEvent = [.sessionEnd] :=
    hcompletes.tail.imp_right And.left
  refine ⟨completed_of_run hcall hcompletes.reports ?_, ?_, fun parent => ?_⟩
  · exact reportsInOrder_append hforest.nodup (fun q => h.linked.mem_subforest hforest)
      hforest.childrenFirst htail
  · have hold : .sessionEnd ∉ s.reports := by
      intro hmem
      rw [h.sessionEnd hmem] at hopen
      cases hopen
    have hnew : .sessionEnd ∉ reported false refs := by
      intro hmem
      obtain ⟨_, -, hne⟩ := List.mem_map.mp hmem
      cases hne
    rw [afterCall, hcall, hcompletes.reports, List.mem_append, or_iff_right hold, List.mem_append,
      or_iff_right hnew]
    cases sendSessionEndEvent with
    | true => exact iff_of_true (List.mem_singleton.mpr rfl) rfl
    | false => exact iff_of_false List.not_mem_nil Bool.false_ne_true
  · -- nothing is open then, so that no list has a child
    rw [afterCall, hcall, List.eq_nil_iff_forall_not_mem]
    intro q hq
    obtain ⟨hopen, -⟩ := ((hcompletes.linked h.linked).mem_childrenOf parent q).mp hq
    obtain ⟨hopen, hmem⟩ := hcompletes.detaches.isOpen_iff.mp hopen
    exact hmem ((h.linked.mem_subforest hforest).mpr hopen)

/-- **A closed object** is not closed again. -/
theorem unchanged_of_not_isOpen (caller : Caller) (hr : ¬ s.IsOpen r) :
    Unchanged caller s (.onObject r .leaveAction) ∧ Unchanged caller s (.onObject r .cancelAction) ∧
      ∀ responseCode, Unchanged caller s (.onObject r (.stop responseCode)) := by
  by_cases hlt : r < s.objects.size
  · have hclosed (hopen : (s.object r).isClosed = false) : False := hr ⟨hlt, hopen⟩
    refine ⟨unchanged_of_run ?_, unchanged_of_run ?_, fun responseCode => unchanged_of_run ?_⟩
    · rw [run_onObject hlt, performObjectCall, fuel_eq]
      exact run_doLeaveAction_of_not_isOpen fun h => hclosed h.1
    · rw [run_onObject hlt, performObjectCall, fuel_eq]
      exact run_doLeaveAction_of_not_isOpen fun h => hclosed h.1
    · rw [run_onObject hlt, performObjectCall, fuel_eq]
      exact run_doStop_of_not_isOpen responseCode fun h => hclosed h.1
  · refine ⟨unchanged_of_run ?_, unchanged_of_run ?_, fun responseCode => unchanged_of_run ?_⟩
    all_goals exact run_onObject_of_not_lt hlt

/-! ## All calls -/

theorem Reported.completion (h : Reported s) : Completion s where
  reportedOnce := h.nodup
  leave caller r hr haction := completed_leaveAction caller h.linked hr haction
  cancel caller r hr haction := completed_cancelAction caller h.linked hr haction
  neverReported caller r q hr haction hq hbelow clock calls := by
    have heffect := effect_afterCall caller h.linked (.onObject r .cancelAction)
    obtain ⟨⟨-, new, hnew, horder⟩, hemptied⟩ := completed_cancelAction caller h.linked hr haction
    refine not_mem_reports_afterCalls clock calls heffect.linked (hq.1.trans_le heffect.size)
      (hemptied q hbelow).1 ?_
    rw [hnew, List.mem_append]
    rintro (hmem | hmem)
    · exact (h.object q hmem).2 hq
    · exact (horder.mem_iff q).mp hmem
  stop caller r responseCode hr haction := completed_stop caller responseCode h.linked hr haction
  sessionEnd caller sendSessionEndEvent hopen :=
    completed_endSession caller sendSessionEndEvent h hopen
  closed caller r hr := unchanged_of_not_isOpen caller hr
  ended caller sendSessionEndEvent hended := by
    refine unchanged_of_run ?_
    rw [HeapCall.perform, fuel_eq]
    exact run_endSession_of_finishing sendSessionEndEvent hended

/-- **In every state that is reached**, closing reports what is open and below, once and in order, or
discards it. -/
theorem completion_afterCalls (beacon : Beacon) (numReads : ℕ) (clock : ℕ → ℕ)
    (calls : List (ℤ × HeapCall)) : Completion ((new beacon numReads).afterCalls clock calls) :=
  ((reported_new beacon numReads).afterCalls clock calls).completion

end SessionHeap

end OpenKit
