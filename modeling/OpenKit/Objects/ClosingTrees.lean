import OpenKit.Objects.ObjectTree

/-!
# Closing trees of objects

An open object is closed with the tree below it, and calls its parent back then. The session closes the
trees of all its children, and is closed itself by the last of them, if it was tried to be ended before.

## Main definitions

* `HeapCalls.Completes`: what is left when the closing functions return

## Main results

* `run_doLeaveAction_of_isOpen`, `run_doStop_of_isOpen`, `run_endSession_of_isOpen`: they return
-/

namespace OpenKit

open Thread

namespace HeapCalls

open SessionHeap BeaconReports

variable {caller : Caller} {discardData : Bool} {fuel : ℕ} {s t u v : SessionHeap} {p q r : ObjectRef}
  {parent : ObjectParent}

/-! ## The end of the session -/

/-- The session at the end of `end()`, when its event was sent, if it is to be. -/
def markedAsFinished (caller : Caller) (sendSessionEndEvent : Bool) (s : SessionHeap) : SessionHeap :=
  let s := if sendSessionEndEvent then
      { s with
        reporting := ((BeaconReports.endSession caller).run s.reporting).2
        reports := s.reports ++ [.sessionEnd] }
    else s
  s.setSession s.reporting.session.markAsFinished

/-- What the end of the session reports. -/
def reportedEnd (sendSessionEndEvent : Bool) : List HeapReport :=
  if sendSessionEndEvent then [.sessionEnd] else []

@[simp] theorem objects_markedAsFinished (sendSessionEndEvent : Bool) :
    (markedAsFinished caller sendSessionEndEvent s).objects = s.objects := by
  cases sendSessionEndEvent <;> rfl

@[simp] theorem children_markedAsFinished (sendSessionEndEvent : Bool) :
    (markedAsFinished caller sendSessionEndEvent s).children = s.children := by
  cases sendSessionEndEvent <;> rfl

@[simp] theorem reports_markedAsFinished (sendSessionEndEvent : Bool) :
    (markedAsFinished caller sendSessionEndEvent s).reports =
      s.reports ++ reportedEnd sendSessionEndEvent := by
  cases sendSessionEndEvent with
  | true => rfl
  | false => exact (List.append_nil _).symm

@[simp] theorem isFinishingOrFinished_markedAsFinished (sendSessionEndEvent : Bool) :
    (markedAsFinished caller sendSessionEndEvent s).reporting.session.isFinishingOrFinished = true := by
  cases sendSessionEndEvent <;> rfl

variable (caller) in
/-- **Ending a session** that is open closes all its objects. -/
theorem run_endSession (sendSessionEndEvent : Bool)
    (hopen : s.reporting.session.isFinishingOrFinished = false) {objects : List OpenKitObject}
    {refs : List ObjectRef} (hforest : Subforest s .session s.children objects refs)
    (hfuel : 2 * refs.length + 2 ≤ fuel) :
    ∃ v, ClosedAs false (SessionCalls.leaveChildren caller false objects) refs
        ((s.setSession { s.reporting.session with isSessionFinishing := true }).removeChildren .session
          s.children) v ∧
      (endSession caller sendSessionEndEvent (fuel + 1)).run s =
        (.ok (), markedAsFinished caller sendSessionEndEvent v) := by
  let s₁ := s.setSession { s.reporting.session with isSessionFinishing := true }
  have hforest₁ : RepresentsAll s₁ .session s.children objects refs :=
    hforest.represents.congr fun _ _ => rfl
  obtain ⟨v, hclosed, hrun⟩ := run_closeAll caller false objects hforest₁
    hforest.nodup hfuel nofun fun _ => rfl
  refine ⟨v, hclosed, ?_⟩
  rw [endSession, Program.run_bind_ok (Program.run_read _ s), hopen, if_neg Bool.false_ne_true,
    Program.run_bind_ok (Program.run_write _ s), Program.run_bind_ok (Program.run_read _ _)]
  show (s.children.forM (closeObject caller false fuel) >>= _).run s₁ = _
  rw [Program.run_bind_ok hrun]
  cases sendSessionEndEvent with
  | false => rfl
  | true =>
    have hreturns : (BeaconReports.endSession caller).Returns := returns_endSession
    obtain ⟨_, after, hreport⟩ := hreturns.run v.reporting
    have hend : (reportEnd caller).run v = (.ok (), { v with
        reporting := ((BeaconReports.endSession caller).run v.reporting).2
        reports := v.reports ++ [.sessionEnd] }) := by
      have hbeacon : (onBeacon (BeaconReports.endSession caller)).run (v.remember .sessionEnd) =
          (.ok (), { v.remember .sessionEnd with reporting := after }) := run_onBeacon hreport
      rw [reportEnd, Program.run_bind_ok (Program.run_write _ v), hbeacon, hreport]
      rfl
    show (reportEnd caller >>= _).run v = _
    rw [Program.run_bind_ok hend]
    rfl

/-! ## What a completion leaves -/

/-- **What a completion leaves**: some objects are closed and reported, unless they are discarded, and the
session may end then. -/
structure Completes (discardData : Bool) (parent : ObjectParent) (roots refs : List ObjectRef)
    (tail : List HeapReport) (s t : SessionHeap) : Prop where
  detaches : Detaches parent roots refs s t
  reports : t.reports = s.reports ++ (reported discardData refs ++ tail)
  tail : tail = [] ∨ tail = [.sessionEnd] ∧ s.reporting.session.isFinishingOrFinished = false ∧
    t.reporting.session.isFinishingOrFinished = true
  finishing : s.reporting.session.isFinishingOrFinished = true →
    t.reporting.session.isFinishingOrFinished = true
  session : ∀ q, t.IsOpen q → t.reporting.session.isFinishingOrFinished = false

theorem Completes.linked {discardData : Bool} {roots refs : List ObjectRef} {tail : List HeapReport}
    (h : Completes discardData parent roots refs tail s t) (hlinked : Linked s) : Linked t :=
  h.detaches.linked hlinked h.session

variable (caller) in
/-- The parent of a tree that was closed is called back. It is the session that ends, if it waits for this
child. -/
theorem run_onChildClosed_of_subtree (hlinked : Linked s) {object : OpenKitObject}
    {refs : List ObjectRef} (htree : Subtree s r object refs) {body : Reporter Unit}
    (hbody : Program.Guarantees (ReportStepOf fun _ => True) body)
    (hclosed : ClosedAs discardData body refs s u) :
    ∃ tail t, (onChildClosed caller (fuel + 4) (s.object r).parent r).run u = (.ok (), t) ∧
      Completes discardData (s.object r).parent [r] refs tail s t := by
  have hdetaches := htree.detaches hlinked hclosed.toCloses
  obtain ⟨beacon, hsession⟩ := hclosed.session hbody
  generalize hu : u.removeChild (s.object r).parent r = u' at hdetaches
  have hflags : u'.reporting.session.isFinishingOrFinished =
      s.reporting.session.isFinishingOrFinished := by
    rw [← hu, removeChild, reporting_mapChildrenOf, hsession]
    rfl
  have hreports : u'.reports = s.reports ++ (reported discardData refs ++ []) := by
    rw [← hu, removeChild, reports_mapChildrenOf, hclosed.reports, List.append_nil]
  have hopen (q : ObjectRef) (hq : u'.IsOpen q) :
      u'.reporting.session.isFinishingOrFinished = false := by
    rw [hflags]
    exact hlinked.session q (hdetaches.isOpen_iff.mp hq).1
  have hkept : Completes discardData (s.object r).parent [r] refs [] s u' :=
    ⟨hdetaches, hreports, .inl rfl, fun hfinishing => hflags.trans hfinishing, hopen⟩
  cases hparent : (s.object r).parent with
  | action p =>
    rw [hparent] at hu hkept
    exact ⟨[], u', congrArg _ hu, hkept⟩
  | session =>
    rw [hparent] at hu hkept
    rw [onChildClosed, Program.run_bind_ok (Program.run_write _ u), hu,
      Program.run_bind_ok (Program.run_read _ u')]
    split
    next hlast =>
      have hchildren : u'.children = [] := List.isEmpty_iff.mp (Bool.and_eq_true_iff.mp hlast).2
      cases hfinishing : u'.reporting.session.isFinishingOrFinished with
      | true => exact ⟨[], u', run_endSession_of_finishing true hfinishing, hkept⟩
      | false =>
        have hforest : Subforest u' .session u'.children [] [] := by
          rw [hchildren]
          exact subforest_nil
        obtain ⟨v, hended, hrun⟩ := run_endSession caller true hfinishing hforest
          (Nat.le_add_left 2 fuel)
        rw [hchildren, removeChildren_nil] at hended
        have hcloses : Closes [] u' (markedAsFinished caller true v) :=
          hended.toCloses.congr rfl rfl (objects_markedAsFinished true) (children_markedAsFinished true)
        have hnone (q : ObjectRef) : ¬ (markedAsFinished caller true v).IsOpen q := by
          intro hq
          rw [SessionHeap.IsOpen, hcloses.size, hcloses.object_of_notMem q List.not_mem_nil] at hq
          exact (hkept.linked hlinked).not_isOpen_of_children hchildren hq
        have hboth := hkept.detaches.closes.trans hcloses
        rw [List.append_nil] at hboth
        refine ⟨[.sessionEnd], _, hrun, { hkept.detaches with closes := hboth }, ?_,
          .inr ⟨rfl, hflags.symm.trans hfinishing, isFinishingOrFinished_markedAsFinished true⟩,
          fun _ => isFinishingOrFinished_markedAsFinished true, fun q hq => absurd hq (hnone q)⟩
        have hsame : v.reports = u'.reports ++ [] := by
          rw [hended.reports, reported_nil]
          rfl
        rw [reports_markedAsFinished, hsame, hreports, List.append_nil, List.append_nil,
          List.append_assoc]
        rfl
    next => exact ⟨[], u', rfl, hkept⟩

/-! ## Completions of open objects -/

theorem fuel_eq : s.fuel = 2 * s.objects.size + 4 + 1 := rfl

variable (caller discardData) in
/-- **Leaving or cancelling** an open action. -/
theorem run_doLeaveAction_of_isOpen (hlinked : Linked s) (hr : s.IsOpen r)
    (haction : (s.object r).isAction = true) :
    ∃ object refs tail t, Subtree s r object refs ∧
      (doLeaveAction caller discardData s.fuel r).run s = (.ok (), t) ∧
      Completes discardData (s.object r).parent [r] refs tail s t := by
  obtain ⟨object, refs, htree⟩ := hlinked.exists_subtree hr
  have hlength : refs.length ≤ s.objects.size :=
    length_le_size htree.nodup fun q hq => ((htree.mem_iff q).mp hq).1
  have hfuel : 2 * refs.length ≤ 2 * s.objects.size + 4 := by omega
  obtain ⟨u, hclosed, hrun⟩ := run_closeObject caller discardData object htree.represents htree.nodup
    hfuel
  have hleave : (closeObject caller discardData (2 * s.objects.size + 4 + 2) r).run s =
      (doLeaveAction caller discardData s.fuel r).run s := by
    rw [closeObject, Program.run_bind_ok (Program.run_read _ s)]
    cases hnode : s.object r with
    | action parent a isActionLeft children => rfl
    | webRequest parent tracer =>
      rw [hnode] at haction
      cases haction
  have hbody : Program.Guarantees (ReportStepOf fun _ => True)
      (SessionCalls.leaveObject caller discardData object) :=
    SessionCalls.guarantees_leaveObject discardData trivial trivial object
  obtain ⟨tail, t, hback, hcompletes⟩ := run_onChildClosed_of_subtree caller hlinked htree hbody hclosed
  refine ⟨object, refs, tail, t, htree, ?_, hcompletes⟩
  rw [← hleave, hrun]
  exact hback

variable (caller discardData) in
/-- **Stopping** an open web request. -/
theorem run_doStop_of_isOpen (responseCode : ℤ) (hlinked : Linked s) (hr : s.IsOpen r)
    (haction : (s.object r).isAction = false) :
    ∃ object tail t, Subtree s r object [r] ∧
      (doStop caller responseCode discardData s.fuel r).run s = (.ok (), t) ∧
      Completes discardData (s.object r).parent [r] [r] tail s t := by
  obtain ⟨object, refs, htree⟩ := hlinked.exists_subtree hr
  cases htree.represents with
  | action hnode hchildren =>
    rw [hnode] at haction
    cases haction
  | @webRequest _ parent tracer hnode hopen =>
    have hclosed : ClosedAs discardData (SessionCalls.doStop caller responseCode discardData tracer) [r] s
        (closedBy s discardData r (·.mapTracer (withStop caller responseCode s.reporting))
          (SessionCalls.doStop caller responseCode discardData tracer)) := by
      refine ⟨closes_closedBy ?_ ?_ ?_ ?_, rfl, rfl⟩
      all_goals
        rw [hnode]
        rfl
    obtain ⟨tail, t, hback, hcompletes⟩ := run_onChildClosed_of_subtree caller hlinked htree
      (SessionCalls.guarantees_doStop discardData trivial responseCode tracer) hclosed
    refine ⟨_, tail, t, htree, ?_, hcompletes⟩
    rw [fuel_eq, run_doStop responseCode hnode hopen, ← hback, hnode]
    rfl

variable (caller) in
/-- **Ending** an open session. -/
theorem run_endSession_of_isOpen (sendSessionEndEvent : Bool) (hlinked : Linked s)
    (hopen : s.reporting.session.isFinishingOrFinished = false) :
    ∃ objects refs t, Subforest s .session s.children objects refs ∧
      (endSession caller sendSessionEndEvent s.fuel).run s = (.ok (), t) ∧
      Completes false .session s.children refs (reportedEnd sendSessionEndEvent) s t ∧
      t.reporting.session.isFinishingOrFinished = true := by
  obtain ⟨objects, refs, hforest⟩ := hlinked.exists_subforest
  have hlength : refs.length ≤ s.objects.size :=
    length_le_size hforest.nodup fun q hq => (hlinked.mem_subforest hforest).mp hq
  have hfuel : 2 * refs.length + 2 ≤ 2 * s.objects.size + 4 := by omega
  obtain ⟨v, hclosed, hrun⟩ := run_endSession caller sendSessionEndEvent hopen hforest hfuel
  have hcloses : Closes refs (s.removeChildren .session s.children)
      (markedAsFinished caller sendSessionEndEvent v) :=
    hclosed.toCloses.congr rfl rfl (objects_markedAsFinished _) (children_markedAsFinished _)
  have hdetaches := hforest.detaches hlinked hcloses
  refine ⟨objects, refs, _, hforest, hrun, ⟨hdetaches, ?_, ?_,
    fun _ => isFinishingOrFinished_markedAsFinished _, fun q hq => ?_⟩,
    isFinishingOrFinished_markedAsFinished _⟩
  · rw [reports_markedAsFinished, hclosed.reports, ← List.append_assoc]
    rfl
  · cases sendSessionEndEvent with
    | true => exact .inr ⟨rfl, hopen, isFinishingOrFinished_markedAsFinished _⟩
    | false => exact .inl rfl
  · obtain ⟨hq, hmem⟩ := hdetaches.isOpen_iff.mp hq
    exact absurd ((hlinked.mem_subforest hforest).mpr hq) hmem

end HeapCalls

end OpenKit
