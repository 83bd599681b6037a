import OpenKit.Objects.ObjectHeap

/-!
# Closing objects by reference

The open objects at and below one form a tree, the one that the closing functions of the tree take. To
close the object by reference does the same to the beacon, closes these objects and no others, and calls
the parent back then.

## Main definitions

* `SessionHeap.Represents`: the tree of open objects at a reference, and the references in it
* `SessionHeap.Closes`: some objects are closed, and all else is left alone

## Main results

* `run_closeObject`: closing an object closes the tree below it, as `leaveObject` does
* `run_closeAll`: the same for all children of an action or of the session
-/

namespace OpenKit

open Thread

namespace SessionHeap

variable {s t u v : SessionHeap} {p q r : ObjectRef} {parent : ObjectParent}

/-! ## Trees of open objects -/

mutual

/-- The open objects at and below an object are a tree. The references in it stand in the order in which
the objects are closed. -/
inductive Represents (s : SessionHeap) : ObjectRef → OpenKitObject → List ObjectRef → Prop
  | action {r : ObjectRef} {parent : ObjectParent} {a : ActionCommon} {children refs : List ObjectRef}
      {objects : List OpenKitObject} (hnode : s.object r = .action parent a false children)
      (hchildren : RepresentsAll s (.action r) children objects refs) :
      Represents s r (.action a objects) (refs ++ [r])
  | webRequest {r : ObjectRef} {parent : ObjectParent} {tracer : WebRequestTracer}
      (hnode : s.object r = .webRequest parent tracer) (hopen : tracer.isStopped = false) :
      Represents s r (.webRequest tracer) [r]

/-- The same for some children of an action or of the session. -/
inductive RepresentsAll (s : SessionHeap) :
    ObjectParent → List ObjectRef → List OpenKitObject → List ObjectRef → Prop
  | nil {parent : ObjectParent} : RepresentsAll s parent [] [] []
  | cons {parent : ObjectParent} {r : ObjectRef} {children refs refs' : List ObjectRef}
      {object : OpenKitObject} {objects : List OpenKitObject} (hparent : (s.object r).parent = parent)
      (h : Represents s r object refs) (hrest : RepresentsAll s parent children objects refs') :
      RepresentsAll s parent (r :: children) (object :: objects) (refs ++ refs')

end

theorem Represents.mem {object : OpenKitObject} {refs : List ObjectRef}
    (h : Represents s r object refs) : r ∈ refs := by
  cases h with
  | action hnode hchildren => exact List.mem_append_right _ (List.mem_singleton.mpr rfl)
  | webRequest hnode hopen => exact List.mem_singleton.mpr rfl

mutual

/-- A tree stays where its objects are left alone. -/
theorem Represents.congr : ∀ {r : ObjectRef} {object : OpenKitObject} {refs : List ObjectRef},
    Represents s r object refs → (∀ q ∈ refs, t.object q = s.object q) → Represents t r object refs
  | r, _, _, .action hnode hchildren, hsame =>
    .action ((hsame r (List.mem_append_right _ (List.mem_singleton.mpr rfl))).trans hnode)
      (RepresentsAll.congr hchildren fun q hq => hsame q (List.mem_append_left _ hq))
  | r, _, _, .webRequest hnode hopen, hsame =>
    .webRequest ((hsame r (List.mem_singleton.mpr rfl)).trans hnode) hopen

theorem RepresentsAll.congr : ∀ {parent : ObjectParent} {objects : List OpenKitObject}
    {children refs : List ObjectRef}, RepresentsAll s parent children objects refs →
    (∀ q ∈ refs, t.object q = s.object q) → RepresentsAll t parent children objects refs
  | _, _, _, _, .nil, _ => .nil
  | _, _, _, _, .cons hparent h hrest, hsame =>
    .cons ((congrArg ObjectNode.parent (hsame _ (List.mem_append_left _ h.mem))).trans hparent)
      (Represents.congr h fun q hq => hsame q (List.mem_append_left _ hq))
      (RepresentsAll.congr hrest fun q hq => hsame q (List.mem_append_right _ hq))

end

theorem RepresentsAll.mem {objects : List OpenKitObject} {children refs : List ObjectRef}
    (h : RepresentsAll s parent children objects refs) (hr : r ∈ children) : r ∈ refs := by
  induction children generalizing objects refs with
  | nil => cases hr
  | cons c children ih =>
    cases h with
    | cons hparent h hrest =>
      rcases List.mem_cons.mp hr with rfl | hr
      · exact List.mem_append_left _ h.mem
      · exact List.mem_append_right _ (ih hrest hr)

/-! ## Closed objects -/

/-- **Some objects are closed**, and have no children any more. All else is left alone but what was
reported. -/
structure Closes (refs : List ObjectRef) (s t : SessionHeap) : Prop where
  children : t.children = s.children
  size : t.objects.size = s.objects.size
  object_of_notMem : ∀ q, q ∉ refs → t.object q = s.object q
  parent : ∀ q, (t.object q).parent = (s.object q).parent
  isAction : ∀ q, (t.object q).isAction = (s.object q).isAction
  isClosed : ∀ q ∈ refs, (t.object q).isClosed = true
  children_eq_nil : ∀ q ∈ refs, (t.object q).children = []

namespace Closes

variable {refs refs' : List ObjectRef}

theorem refl (s : SessionHeap) : Closes [] s s :=
  ⟨rfl, rfl, fun _ _ => rfl, fun _ => rfl, fun _ => rfl, List.forall_mem_nil _, List.forall_mem_nil _⟩

/-- Only the objects and the lists of children count. -/
theorem congr {s' t' : SessionHeap} (h : Closes refs s t) (hobjects : s'.objects = s.objects)
    (hchildren : s'.children = s.children) (hobjects' : t'.objects = t.objects)
    (hchildren' : t'.children = t.children) : Closes refs s' t' := by
  have hsame (q : ObjectRef) : s'.object q = s.object q := congrArg (Heap.get · q) hobjects
  have hsame' (q : ObjectRef) : t'.object q = t.object q := congrArg (Heap.get · q) hobjects'
  refine ⟨?_, ?_, fun q hq => ?_, fun q => ?_, fun q => ?_, fun q hq => ?_, fun q hq => ?_⟩
  · rw [hchildren', hchildren, h.children]
  · rw [hobjects', hobjects, h.size]
  · rw [hsame', hsame, h.object_of_notMem q hq]
  · rw [hsame', hsame, h.parent]
  · rw [hsame', hsame, h.isAction]
  · rw [hsame']
    exact h.isClosed q hq
  · rw [hsame']
    exact h.children_eq_nil q hq

theorem trans (h : Closes refs s t) (h' : Closes refs' t u) : Closes (refs ++ refs') s u := by
  have hold (q : ObjectRef) (hq : q ∈ refs ++ refs') (hq' : q ∉ refs') :
      q ∈ refs ∧ u.object q = t.object q :=
    ⟨(List.mem_append.mp hq).resolve_right hq', h'.object_of_notMem q hq'⟩
  refine ⟨h'.children.trans h.children, h'.size.trans h.size, fun q hq => ?_,
    fun q => (h'.parent q).trans (h.parent q), fun q => (h'.isAction q).trans (h.isAction q),
    fun q hq => ?_, fun q hq => ?_⟩
  · obtain ⟨hq, hq'⟩ := not_or.mp (mt List.mem_append.mpr hq)
    exact (h'.object_of_notMem q hq').trans (h.object_of_notMem q hq)
  · by_cases hq' : q ∈ refs'
    · exact h'.isClosed q hq'
    · obtain ⟨hq, hsame⟩ := hold q hq hq'
      rw [hsame]
      exact h.isClosed q hq
  · by_cases hq' : q ∈ refs'
    · exact h'.children_eq_nil q hq'
    · obtain ⟨hq, hsame⟩ := hold q hq hq'
      rw [hsame]
      exact h.children_eq_nil q hq

end Closes

/-- Children are taken from the list of their parent. -/
def removeChildren (s : SessionHeap) (parent : ObjectParent) (children : List ObjectRef) :
    SessionHeap :=
  s.mapChildrenOf (List.filter (· ∉ children)) parent

@[simp] theorem reporting_mapChildrenOf (f : List ObjectRef → List ObjectRef) :
    (s.mapChildrenOf f parent).reporting = s.reporting := by
  cases parent <;> rfl

@[simp] theorem reports_mapChildrenOf (f : List ObjectRef → List ObjectRef) :
    (s.mapChildrenOf f parent).reports = s.reports := by
  cases parent <;> rfl

@[simp] theorem size_mapChildrenOf (f : List ObjectRef → List ObjectRef) :
    (s.mapChildrenOf f parent).objects.size = s.objects.size := by
  cases parent <;> rfl

theorem object_mapChildrenOf_of_ne {f : List ObjectRef → List ObjectRef}
    (h : parent ≠ .action q) : (s.mapChildrenOf f parent).object q = s.object q := by
  cases parent with
  | session => rfl
  | action p =>
    refine object_updateObject_of_ne fun hq => h ?_
    rw [hq]

/-- A change of the children of one object. -/
theorem object_mapChildrenOf (f : List ObjectRef → List ObjectRef) (q : ObjectRef) :
    (s.mapChildrenOf f parent).object q =
      if parent = .action q then (s.object q).mapChildren f else s.object q := by
  split
  next h =>
    subst h
    exact object_updateObject_self
  next h => exact object_mapChildrenOf_of_ne h

theorem children_mapChildrenOf (f : List ObjectRef → List ObjectRef) :
    (s.mapChildrenOf f parent).children =
      if parent = .session then f s.children else s.children := by
  cases parent <;> rfl

/-- A change of children before is one after. -/
theorem Closes.mapChildrenOf {refs : List ObjectRef} (h : Closes refs s t)
    (hparent : ∀ p, parent = .action p → p ∉ refs) (f : List ObjectRef → List ObjectRef) :
    Closes refs (s.mapChildrenOf f parent) (t.mapChildrenOf f parent) := by
  have hne (q : ObjectRef) (hq : q ∈ refs) : parent ≠ .action q := fun hp => hparent q hp hq
  refine ⟨?_, ?_, fun q hq => ?_, fun q => ?_, fun q => ?_, fun q hq => ?_, fun q hq => ?_⟩
  · rw [children_mapChildrenOf, children_mapChildrenOf, h.children]
  · rw [size_mapChildrenOf, size_mapChildrenOf, h.size]
  · rw [object_mapChildrenOf, object_mapChildrenOf, h.object_of_notMem q hq]
  · rw [object_mapChildrenOf, object_mapChildrenOf]
    split
    · rw [ObjectNode.parent_mapChildren, ObjectNode.parent_mapChildren, h.parent]
    · exact h.parent q
  · rw [object_mapChildrenOf, object_mapChildrenOf]
    split
    · rw [ObjectNode.isAction_mapChildren, ObjectNode.isAction_mapChildren, h.isAction]
    · exact h.isAction q
  · rw [object_mapChildrenOf_of_ne (hne q hq)]
    exact h.isClosed q hq
  · rw [object_mapChildrenOf_of_ne (hne q hq)]
    exact h.children_eq_nil q hq

/-- A change of an object that is closed then. -/
theorem Closes.of_updateObject {refs : List ObjectRef} {f : ObjectNode → ObjectNode}
    (h : Closes refs (s.updateObject r f) t) (hr : r ∈ refs)
    (hparent : (f (s.object r)).parent = (s.object r).parent)
    (haction : (f (s.object r)).isAction = (s.object r).isAction) : Closes refs s t := by
  refine ⟨h.children, h.size, fun q hq => ?_, fun q => ?_, fun q => ?_, h.isClosed,
    h.children_eq_nil⟩
  · rw [h.object_of_notMem q hq, object_updateObject_of_ne (ne_of_mem_of_not_mem hr hq).symm]
  · rw [h.parent q]
    by_cases hq : q = r
    · rw [hq, object_updateObject_self, hparent]
    · rw [object_updateObject_of_ne hq]
  · rw [h.isAction q]
    by_cases hq : q = r
    · rw [hq, object_updateObject_self, haction]
    · rw [object_updateObject_of_ne hq]

theorem removeChildren_nil : s.removeChildren parent [] = s := by
  have hfilter (rs : List ObjectRef) : rs.filter (· ∉ ([] : List ObjectRef)) = rs := by simp
  cases parent with
  | session =>
    rw [removeChildren, SessionHeap.mapChildrenOf, hfilter]
  | action p =>
    have hmap : (s.object p).mapChildren (List.filter (· ∉ ([] : List ObjectRef))) = s.object p := by
      cases s.object p with
      | action parent a isActionLeft children => rw [ObjectNode.mapChildren, hfilter]
      | webRequest parent tracer => rfl
    have hcells : s.objects.modify p (·.mapChildren (List.filter (· ∉ ([] : List ObjectRef)))) =
        s.objects := by
      rw [Heap.modify]
      exact congrArg (fun cells => { s.objects with cells := cells })
        ((congrArg _ hmap).trans (Function.update_eq_self _ _))
    exact congrArg (fun objects => { s with objects := objects }) hcells

/-- One child after the other is taken away. -/
theorem removeChildren_removeChild (children : List ObjectRef) :
    (s.removeChild parent r).removeChildren parent children =
      s.removeChildren parent (r :: children) := by
  have hfilter (rs : List ObjectRef) : (rs.filter (· ≠ r)).filter (· ∉ children) =
      rs.filter (· ∉ r :: children) := by
    rw [List.filter_filter]
    refine List.filter_congr fun q _ => ?_
    simp [Bool.and_comm]
  cases parent with
  | session =>
    rw [removeChildren, removeChild, removeChildren, SessionHeap.mapChildrenOf,
      SessionHeap.mapChildrenOf, SessionHeap.mapChildrenOf, hfilter]
  | action p =>
    have hmap (node : ObjectNode) : (node.mapChildren (List.filter (· ≠ r))).mapChildren
        (List.filter (· ∉ children)) = node.mapChildren (List.filter (· ∉ r :: children)) := by
      rw [ObjectNode.mapChildren_mapChildren]
      exact congrArg node.mapChildren (funext hfilter)
    rw [removeChildren, removeChild, removeChildren, SessionHeap.mapChildrenOf,
      SessionHeap.mapChildrenOf, SessionHeap.mapChildrenOf, updateObject, updateObject, updateObject,
      Heap.modify_modify]
    exact congrArg (fun f => { s with objects := s.objects.modify p f }) (funext hmap)

end SessionHeap

namespace SessionCalls

/-- An action is left once its children are. -/
theorem leaveObject_action {caller : Caller} {discardData : Bool} (a : ActionCommon)
    (children : List OpenKitObject) : leaveObject caller discardData (.action a children) =
      leaveChildren caller discardData children >>= fun _ =>
        leaveObject caller discardData (.action a []) := by
  rw [leaveObject, leaveObject, leaveChildren]
  rfl

end SessionCalls

namespace HeapCalls

open SessionHeap BeaconReports

variable {caller : Caller} {discardData : Bool} {fuel : ℕ} {s t u v : SessionHeap} {p q r : ObjectRef}
  {parent : ObjectParent}

/-! ## One object -/

theorem run_onBeacon {α : Type} {body : Reporter α} {a : α} {after : Reporting}
    (h : body.run s.reporting = (.ok a, after)) :
    (onBeacon body).run s = (.ok a, { s with reporting := after }) := by
  rw [onBeacon, Program.run_bind_ok (Program.run_atomic _ s), h]
  rfl

/-- What the closing of some objects reports. -/
def reported (discardData : Bool) (refs : List ObjectRef) : List HeapReport :=
  if discardData then [] else refs.map .object

@[simp] theorem reported_nil : reported discardData [] = [] := by
  cases discardData <;> rfl

theorem reported_append (refs refs' : List ObjectRef) :
    reported discardData (refs ++ refs') = reported discardData refs ++ reported discardData refs' := by
  cases discardData with
  | true => rfl
  | false => exact List.map_append

/-- The state after an object has changed and was reported by a program, if it was. -/
def closedBy (s : SessionHeap) (discardData : Bool) (r : ObjectRef) (f : ObjectNode → ObjectNode)
    (body : Reporter Unit) : SessionHeap :=
  { s.updateObject r f with
    reporting := (body.run s.reporting).2
    reports := s.reports ++ reported discardData [r] }

theorem closes_closedBy {f : ObjectNode → ObjectNode} {body : Reporter Unit}
    (hparent : (f (s.object r)).parent = (s.object r).parent)
    (haction : (f (s.object r)).isAction = (s.object r).isAction)
    (hclosed : (f (s.object r)).isClosed = true) (hchildren : (f (s.object r)).children = []) :
    Closes [r] s (closedBy s discardData r f body) := by
  have hself : (closedBy s discardData r f body).object r = f (s.object r) :=
    object_updateObject_self
  have hother (q : ObjectRef) (hq : q ≠ r) : (closedBy s discardData r f body).object q = s.object q :=
    object_updateObject_of_ne hq
  refine ⟨rfl, rfl, fun q hq => hother q (mt List.mem_singleton.mpr hq), fun q => ?_, fun q => ?_,
    List.forall_mem_singleton.mpr (by rwa [hself]), List.forall_mem_singleton.mpr (by rwa [hself])⟩
  · by_cases hq : q = r
    · rw [hq, hself, hparent]
    · rw [hother q hq]
  · by_cases hq : q = r
    · rw [hq, hself, haction]
    · rw [hother q hq]

/-- The action with its end, as it is read and drawn. -/
def withEnd (caller : Caller) (reporting : Reporting) (a : ActionCommon) : ActionCommon :=
  { a with
    endTime := caller.clock reporting.numReads
    endSequenceNumber := reporting.beacon.sequenceNumber + 1 }

/-- The web request with its end, as it is drawn and read. -/
def withStop (caller : Caller) (responseCode : ℤ) (reporting : Reporting)
    (tracer : WebRequestTracer) : WebRequestTracer :=
  { tracer with
    responseCode := responseCode
    endSequenceNo := reporting.beacon.sequenceNumber + 1
    endTime := caller.clock reporting.numReads }

theorem run_addAction {a : ActionCommon} {isActionLeft : Bool} {children : List ObjectRef}
    (hnode : s.object r = .action parent a isActionLeft children) :
    (addAction caller r).run s = (.ok (), { s with
      reporting := ((BeaconReports.addAction caller a).run s.reporting).2
      reports := s.reports ++ [.object r] }) := by
  have hreturns : (BeaconReports.addAction caller a).Returns := returns_addAction a
  obtain ⟨_, after, hreport⟩ := hreturns.run s.reporting
  have hbeacon : (onBeacon (BeaconReports.addAction caller a)).run (s.remember (.object r)) =
      (.ok (), { s.remember (.object r) with reporting := after }) := run_onBeacon hreport
  rw [addAction, Program.run_bind_ok (Program.run_read _ s), hnode]
  dsimp only
  rw [Program.run_bind_ok (Program.run_write _ s), hbeacon, hreport]
  rfl

theorem run_addWebRequest {tracer : WebRequestTracer}
    (hnode : s.object r = .webRequest parent tracer) :
    (addWebRequest caller r).run s = (.ok (), { s with
      reporting := ((BeaconReports.addWebRequest caller tracer.parentActionID tracer).run
        s.reporting).2
      reports := s.reports ++ [.object r] }) := by
  have hreturns : (BeaconReports.addWebRequest caller tracer.parentActionID tracer).Returns :=
    returns_addWebRequest _ tracer
  obtain ⟨_, after, hreport⟩ := hreturns.run s.reporting
  have hbeacon : (onBeacon (BeaconReports.addWebRequest caller tracer.parentActionID tracer)).run
      (s.remember (.object r)) = (.ok (), { s.remember (.object r) with reporting := after }) :=
    run_onBeacon hreport
  rw [addWebRequest, Program.run_bind_ok (Program.run_read _ s), hnode]
  dsimp only
  rw [Program.run_bind_ok (Program.run_write _ s), hbeacon, hreport]
  rfl

/-- **Leaving an open action**, once its children are closed: it is reported, and calls its parent
back. -/
theorem run_doLeaveAction {a : ActionCommon} {children children' : List ObjectRef}
    (hnode : s.object r = .action parent a false children)
    (hclose : (children.forM (closeObject caller discardData fuel)).run
      (s.updateObject r (·.markAsLeft)) = (.ok (), v))
    (hleft : v.object r = .action parent a true children') :
    (doLeaveAction caller discardData (fuel + 1) r).run s =
      (onChildClosed caller fuel parent r).run (closedBy v discardData r
        (·.mapAction (withEnd caller v.reporting))
        (SessionCalls.leaveObject caller discardData (.action a []))) := by
  rw [doLeaveAction, Program.run_bind_ok (Program.run_read _ s), hnode]
  dsimp only
  rw [if_neg Bool.false_ne_true, Program.run_bind_ok (Program.run_write _ s),
    Program.run_bind_ok hclose, Program.run_bind_ok (run_onBeacon rfl),
    Program.run_bind_ok (run_onBeacon rfl), Program.run_bind_ok (Program.run_write _ _)]
  rw [closedBy, SessionCalls.leaveObject, SessionCalls.leaveChildren]
  cases discardData with
  | true =>
    rw [reported, if_pos rfl, List.append_nil]
    rfl
  | false =>
    let w : SessionHeap := { v.updateObject r (·.mapAction (withEnd caller v.reporting)) with
      reporting := (createSequenceNumber.run
        { v.reporting with numReads := v.reporting.numReads + 1 }).2 }
    have hended : w.object r = .action parent (withEnd caller v.reporting a) true children' := by
      show (v.updateObject r _).object r = _
      rw [object_updateObject_self, hleft]
      rfl
    show (addAction caller r >>= fun _ => onChildClosed caller fuel parent r).run w = _
    rw [Program.run_bind_ok (run_addAction hended)]
    rfl

/-- **Stopping an open web request**: it is reported, and calls its parent back. -/
theorem run_doStop {tracer : WebRequestTracer} (responseCode : ℤ)
    (hnode : s.object r = .webRequest parent tracer) (hopen : tracer.isStopped = false) :
    (doStop caller responseCode discardData (fuel + 1) r).run s =
      (onChildClosed caller fuel parent r).run (closedBy s discardData r
        (·.mapTracer (withStop caller responseCode s.reporting))
        (SessionCalls.doStop caller responseCode discardData tracer)) := by
  rw [doStop, Program.run_bind_ok (Program.run_read _ s), hnode]
  dsimp only
  rw [hopen, if_neg Bool.false_ne_true, Program.run_bind_ok (run_onBeacon rfl),
    Program.run_bind_ok (run_onBeacon rfl), Program.run_bind_ok (Program.run_write _ _)]
  rw [closedBy, SessionCalls.doStop]
  cases discardData with
  | true =>
    rw [reported, if_pos rfl, List.append_nil]
    rfl
  | false =>
    let w : SessionHeap :=
      { s.updateObject r (·.mapTracer (withStop caller responseCode s.reporting)) with
        reporting :=
          { (createSequenceNumber.run s.reporting).2 with numReads := s.reporting.numReads + 1 } }
    have hended : w.object r = .webRequest parent (withStop caller responseCode s.reporting tracer) := by
      show (s.updateObject r _).object r = _
      rw [object_updateObject_self, hnode]
      rfl
    show (addWebRequest caller r >>= fun _ => onChildClosed caller fuel parent r).run w = _
    rw [Program.run_bind_ok (run_addWebRequest hended)]
    rfl

/-! ## The parent is called back -/

theorem run_endSession_of_finishing (sendSessionEndEvent : Bool)
    (h : s.reporting.session.isFinishingOrFinished = true) :
    (endSession caller sendSessionEndEvent (fuel + 1)).run s = (.ok (), s) := by
  rw [endSession, Program.run_bind_ok (Program.run_read _ s), h]
  rfl

/-- An action removes the child, and so does a session that is finishing. -/
theorem run_onChildClosed (h : parent = .session → s.reporting.session.isSessionFinishing = true)
    (hfuel : 2 ≤ fuel) :
    (onChildClosed caller fuel parent r).run s = (.ok (), s.removeChild parent r) := by
  obtain ⟨fuel, rfl⟩ := Nat.exists_eq_add_of_le' hfuel
  cases parent with
  | action p => rfl
  | session =>
    rw [onChildClosed, Program.run_bind_ok (Program.run_write _ s),
      Program.run_bind_ok (Program.run_read _ _)]
    split
    · refine run_endSession_of_finishing true ?_
      show (s.reporting.session.isSessionFinishing || s.reporting.session.isSessionFinished) = true
      rw [h rfl]
      rfl
    · rfl

/-! ## Trees -/

/-- **A tree is closed**: its objects are, and what a program reports is reported. -/
structure ClosedAs (discardData : Bool) (body : Reporter Unit) (refs : List ObjectRef)
    (s t : SessionHeap) : Prop extends Closes refs s t where
  reporting : t.reporting = (body.run s.reporting).2
  reports : t.reports = s.reports ++ reported discardData refs

theorem ClosedAs.trans {body body' : Reporter Unit} {refs refs' : List ObjectRef}
    (h : ClosedAs discardData body refs s t) (h' : ClosedAs discardData body' refs' t u)
    (hbody : body.Returns) :
    ClosedAs discardData (body >>= fun _ => body') (refs ++ refs') s u := by
  refine ⟨h.toCloses.trans h'.toCloses, ?_, ?_⟩
  · obtain ⟨_, after, hrun⟩ := hbody.run s.reporting
    rw [h'.reporting, h.reporting, Program.run_bind_ok hrun, hrun]
  · rw [h'.reports, h.reports, reported_append, List.append_assoc]

theorem ClosedAs.mapChildrenOf {body : Reporter Unit} {refs : List ObjectRef}
    (h : ClosedAs discardData body refs s t) (hparent : ∀ p, parent = .action p → p ∉ refs)
    (f : List ObjectRef → List ObjectRef) :
    ClosedAs discardData body refs (s.mapChildrenOf f parent) (t.mapChildrenOf f parent) := by
  refine ⟨h.toCloses.mapChildrenOf hparent f, ?_, ?_⟩
  · rw [reporting_mapChildrenOf, reporting_mapChildrenOf, h.reporting]
  · rw [reports_mapChildrenOf, reports_mapChildrenOf, h.reports]

/-- A report leaves the session alone but its beacon. -/
theorem ClosedAs.session {body : Reporter Unit} {refs : List ObjectRef}
    (h : ClosedAs discardData body refs s t)
    (hbody : Program.Guarantees (ReportStepOf fun _ => True) body) :
    ∃ beacon, t.reporting.session = { s.reporting.session with beacon := beacon } := by
  have hstep : ReportStepOf (fun _ => True) s.reporting t.reporting := by
    rw [h.reporting]
    exact hbody.run ReportStepOf.refl (fun _ _ _ => ReportStepOf.trans) rfl
  obtain ⟨beacon, hsession, -⟩ := hstep.session
  exact ⟨beacon, hsession⟩

mutual

/-- **Closing an object** closes the tree below it, as the tree is closed, and calls its parent back. -/
theorem run_closeObject (caller : Caller) (discardData : Bool) (object : OpenKitObject)
    {s : SessionHeap} {r : ObjectRef} {refs : List ObjectRef} {fuel : ℕ} (h : Represents s r object refs) (hnodup : refs.Nodup)
    (hfuel : 2 * refs.length ≤ fuel) :
    ∃ u, ClosedAs discardData (SessionCalls.leaveObject caller discardData object) refs s u ∧
      (closeObject caller discardData (fuel + 2) r).run s =
        (onChildClosed caller fuel (s.object r).parent r).run u := by
  cases object with
  | action a objects =>
    cases h with
    | @action _ parent _ children refs _ hnode hchildren =>
      obtain ⟨hrefs, -, hdisjoint⟩ := List.nodup_append.mp hnodup
      have hr : r ∉ refs := fun hmem => hdisjoint r hmem r (List.mem_singleton.mpr rfl) rfl
      have hlength : (refs ++ [r]).length = refs.length + 1 := List.length_append
      let s₁ := s.updateObject r (·.markAsLeft)
      have hchildren₁ : RepresentsAll s₁ (.action r) children objects refs :=
        hchildren.congr fun q hq => object_updateObject_of_ne (ne_of_mem_of_not_mem hq hr)
      have hfuel' : 2 * refs.length + 2 ≤ fuel := by omega
      have hparent (p : ObjectRef) (hp : ObjectParent.action r = .action p) : p ∉ refs := by
        obtain rfl := ObjectParent.action.inj hp
        exact hr
      obtain ⟨v, hclosed, hrun⟩ := run_closeAll caller discardData objects hchildren₁ hrefs hfuel' hparent nofun
      -- the action has no children left then
      have hself₁ : s₁.object r = .action parent a true children := by
        rw [object_updateObject_self, hnode]
        rfl
      have hnone : children.filter (· ∉ children) = [] := by simp
      have hself : v.object r = .action parent a true [] := by
        rw [hclosed.object_of_notMem r hr, removeChildren, object_mapChildrenOf, if_pos rfl, hself₁,
          ObjectNode.mapChildren, hnone]
      let u := closedBy v discardData r (·.mapAction (withEnd caller v.reporting))
        (SessionCalls.leaveObject caller discardData (.action a []))
      have hended : ClosedAs discardData (SessionCalls.leaveObject caller discardData (.action a [])) [r]
          v u := by
        refine ⟨closes_closedBy ?_ ?_ ?_ ?_, rfl, rfl⟩
        all_goals
          rw [hself]
          rfl
      have hboth := hclosed.trans hended (SessionCalls.returns_leaveChildren discardData objects)
      rw [← SessionCalls.leaveObject_action, removeChildren, SessionHeap.mapChildrenOf] at hboth
      have hmem : r ∈ refs ++ [r] := List.mem_append_right _ (List.mem_singleton.mpr rfl)
      have hleft : Closes (refs ++ [r]) s₁ u := hboth.toCloses.of_updateObject hmem
        (ObjectNode.parent_mapChildren _ _) (ObjectNode.isAction_mapChildren _ _)
      have hopen : Closes (refs ++ [r]) s u := by
        refine hleft.of_updateObject hmem ?_ ?_
        all_goals
          rw [hnode]
          rfl
      refine ⟨u, ⟨hopen, hboth.reporting, hboth.reports⟩, ?_⟩
      rw [closeObject, Program.run_bind_ok (Program.run_read _ s), hnode]
      exact run_doLeaveAction hnode hrun hself
  | webRequest tracer =>
    cases h with
    | @webRequest _ parent _ hnode hopen =>
      refine ⟨closedBy s discardData r (·.mapTracer (withStop caller tracer.responseCode s.reporting))
        (SessionCalls.doStop caller tracer.responseCode discardData tracer), ⟨?_, rfl, rfl⟩, ?_⟩
      · refine closes_closedBy ?_ ?_ ?_ ?_
        all_goals
          rw [hnode]
          rfl
      · rw [closeObject, Program.run_bind_ok (Program.run_read _ s), hnode]
        exact run_doStop tracer.responseCode hnode hopen

/-- **Closing the children** of an action or of the session that is finishing. -/
theorem run_closeAll (caller : Caller) (discardData : Bool) (objects : List OpenKitObject)
    {s : SessionHeap} {parent : ObjectParent} {children refs : List ObjectRef} {fuel : ℕ} (h : RepresentsAll s parent children objects refs)
    (hnodup : refs.Nodup) (hfuel : 2 * refs.length + 2 ≤ fuel)
    (hparent : ∀ p, parent = .action p → p ∉ refs)
    (hsession : parent = .session → s.reporting.session.isSessionFinishing = true) :
    ∃ u, ClosedAs discardData (SessionCalls.leaveChildren caller discardData objects) refs
        (s.removeChildren parent children) u ∧
      (children.forM (closeObject caller discardData fuel)).run s = (.ok (), u) := by
  cases objects with
  | nil =>
    cases h with
    | nil =>
      rw [removeChildren_nil]
      refine ⟨s, ⟨.refl s, rfl, ?_⟩, rfl⟩
      rw [reported_nil, List.append_nil]
  | cons object objects =>
    cases h with
    | cons hroot h hrest =>
      rename_i c children refs refs'
      obtain ⟨hrefs, hrefs', hdisjoint⟩ := List.nodup_append.mp hnodup
      have hlength : (refs ++ refs').length = refs.length + refs'.length := List.length_append
      have hpos : 1 ≤ refs.length := List.length_pos_of_mem h.mem
      obtain ⟨fuel, rfl⟩ := Nat.exists_eq_add_of_le' (Nat.le_of_add_left_le hfuel)
      have hfuel₁ : 2 * refs.length ≤ fuel := by omega
      obtain ⟨u, hclosed, hrun⟩ := run_closeObject caller discardData object h hrefs hfuel₁
      have hfinishing : parent = .session → u.reporting.session.isSessionFinishing = true := by
        intro hp
        obtain ⟨beacon, hsame⟩ := hclosed.session
          (SessionCalls.guarantees_leaveObject discardData trivial trivial object)
        rw [hsame]
        exact hsession hp
      rw [hroot, run_onChildClosed hfinishing (by omega)] at hrun
      have hparent₁ (p : ObjectRef) (hp : parent = .action p) : p ∉ refs :=
        fun hmem => hparent p hp (List.mem_append_left _ hmem)
      have hrest₁ : RepresentsAll (u.removeChild parent c) parent children objects refs' := by
        refine hrest.congr fun q hq => ?_
        have hq' : q ∉ refs := fun hmem => hdisjoint q hmem q hq rfl
        rw [removeChild, object_mapChildrenOf_of_ne, hclosed.object_of_notMem q hq']
        intro hp
        exact hparent q hp (List.mem_append_right _ hq)
      have hfuel₂ : 2 * refs'.length + 2 ≤ fuel + 2 := by omega
      obtain ⟨v, hclosed', hrun'⟩ := run_closeAll caller discardData objects hrest₁ hrefs' hfuel₂
        (fun p hp hmem => hparent p hp (List.mem_append_right _ hmem)) fun hp => by
          rw [removeChild, reporting_mapChildrenOf]
          exact hfinishing hp
      have hboth := ((hclosed.mapChildrenOf hparent₁ (List.filter (· ≠ c))).mapChildrenOf hparent₁
        (List.filter (· ∉ children))).trans hclosed' (SessionCalls.returns_leaveObject discardData object)
      rw [← removeChildren_removeChild, SessionCalls.leaveChildren]
      refine ⟨v, hboth, ?_⟩
      show (closeObject caller discardData (fuel + 2) c >>= fun _ =>
        children.forM (closeObject caller discardData (fuel + 2))).run s = _
      rw [Program.run_bind_ok hrun]
      exact hrun'

end

end HeapCalls

end OpenKit
