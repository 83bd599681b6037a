import OpenKit.Objects.ObjectEffects
import OpenKit.Protocol.ReportNumbers

/-!
# The sequence numbers of objects

An object draws its first number when it is made. Its second one is drawn when it is closed, once the
objects below it have theirs. So the objects of a tree that is closed get their second numbers in the order
in which they are closed, and the records of those that are reported show both.

## Main definitions

* `ObjectNumbers`: the numbers of an object, and what they are about
* `SessionHeap.SameNumbers`: two states with the same numbers
* `SessionHeap.Ends`: some objects get their second numbers, one after the other

## Main results

* `ends_closeObject`, `ends_closeAll`: closing a tree does so
-/

namespace OpenKit

open Thread

/-- The numbers of an object, with what they are about. -/
structure ObjectNumbers where
  parent : ObjectParent
  isAction : Bool
  isClosed : Bool
  startNumber : ℤ
  endNumber : ℤ
deriving DecidableEq, Repr

namespace ObjectNumbers

/-- The event type of the record of an object. -/
def eventType (n : ObjectNumbers) : EventType := if n.isAction then .action else .webRequest

/-- The object once it is closed with a number. -/
def closedWith (n : ObjectNumbers) (number : ℤ) : ObjectNumbers :=
  { n with isClosed := true, endNumber := number }

end ObjectNumbers

namespace ObjectNode

/-- The numbers of an object. -/
def numbers : ObjectNode → ObjectNumbers
  | action parent a isActionLeft _ =>
    ⟨parent, true, isActionLeft, a.startSequenceNumber, a.endSequenceNumber⟩
  | webRequest parent tracer =>
    ⟨parent, false, tracer.isStopped, tracer.startSequenceNo, tracer.endSequenceNo⟩

variable (node : ObjectNode)

@[simp] theorem parent_numbers : node.numbers.parent = node.parent := by
  cases node <;> rfl

@[simp] theorem isAction_numbers : node.numbers.isAction = node.isAction := by
  cases node <;> rfl

@[simp] theorem isClosed_numbers : node.numbers.isClosed = node.isClosed := by
  cases node <;> rfl

@[simp] theorem numbers_mapChildren (f : List ObjectRef → List ObjectRef) :
    (node.mapChildren f).numbers = node.numbers := by
  cases node <;> rfl

/-- A change of the data of a web request that keeps its numbers. -/
theorem numbers_mapTracer {f : WebRequestTracer → WebRequestTracer}
    (hend : ∀ tracer, (f tracer).endTime = tracer.endTime)
    (hnumbers : ∀ tracer, (f tracer).startSequenceNo = tracer.startSequenceNo ∧
      (f tracer).endSequenceNo = tracer.endSequenceNo) :
    (node.mapTracer f).numbers = node.numbers := by
  cases node with
  | action parent a isActionLeft children => rfl
  | webRequest parent tracer =>
    rw [mapTracer, numbers, numbers, WebRequestTracer.isStopped, WebRequestTracer.isStopped, hend,
      (hnumbers tracer).1, (hnumbers tracer).2]

end ObjectNode

namespace SessionHeap

variable {s t u v : SessionHeap} {p q r : ObjectRef} {parent : ObjectParent}
  {refs refs' : List ObjectRef}

/-- The numbers of an object. -/
def numbers (s : SessionHeap) (q : ObjectRef) : ObjectNumbers := (s.object q).numbers

/-- The last number that was drawn. -/
def lastNumber (s : SessionHeap) : ℤ := s.reporting.lastNumber

/-- The cached records of the session. -/
def records (s : SessionHeap) : List BeaconRecord := s.reporting.records

theorem isOpen_iff_numbers : s.IsOpen q ↔ q < s.objects.size ∧ (s.numbers q).isClosed = false := by
  rw [IsOpen, numbers, ObjectNode.isClosed_numbers]

@[simp] theorem numbers_mapChildrenOf (f : List ObjectRef → List ObjectRef) :
    (s.mapChildrenOf f parent).numbers q = s.numbers q := by
  rw [numbers, object_mapChildrenOf]
  split
  · exact ObjectNode.numbers_mapChildren _ _
  · rfl

/-- The same objects and records, as far as their numbers are concerned. -/
structure SameNumbers (s t : SessionHeap) : Prop where
  size : t.objects.size = s.objects.size
  numbers : ∀ q, t.numbers q = s.numbers q
  lastNumber : t.lastNumber = s.lastNumber
  records : t.records = s.records

namespace SameNumbers

theorem refl (s : SessionHeap) : SameNumbers s s := ⟨rfl, fun _ => rfl, rfl, rfl⟩

theorem symm (h : SameNumbers s t) : SameNumbers t s :=
  ⟨h.size.symm, fun q => (h.numbers q).symm, h.lastNumber.symm, h.records.symm⟩

/-- Lists of children do not matter. -/
theorem mapChildrenOf (s : SessionHeap) (f : List ObjectRef → List ObjectRef) (parent : ObjectParent) :
    SameNumbers s (s.mapChildrenOf f parent) := by
  refine ⟨size_mapChildrenOf f, fun _ => numbers_mapChildrenOf f, ?_, ?_⟩
  · exact congrArg Reporting.lastNumber (reporting_mapChildrenOf f)
  · exact congrArg Reporting.records (reporting_mapChildrenOf f)

/-- The flags and the configuration of the session do not matter. -/
theorem setSession (s : SessionHeap) (session : Session)
    (hnumber : session.beacon.sequenceNumber = s.reporting.session.beacon.sequenceNumber) :
    SameNumbers s (s.setSession session) :=
  ⟨rfl, fun _ => rfl, hnumber, rfl⟩

end SameNumbers

/-! ## What closing does to the numbers -/

/-- A record shows both numbers of an object. -/
def ShowsObject (s : SessionHeap) (q : ObjectRef) (record : BeaconRecord) : Prop :=
  EventData.Shows (s.numbers q).eventType [(s.numbers q).startNumber] [(s.numbers q).endNumber]
    record.data

/-- **Some objects get their second numbers**, one after the other, and some of them are reported with
both. -/
structure Ends (refs : List ObjectRef) (s t : SessionHeap) : Prop where
  size : t.objects.size = s.objects.size
  lastNumber : s.lastNumber ≤ t.lastNumber
  numbers_of_notMem : ∀ q, q ∉ refs → t.numbers q = s.numbers q
  numbers : ∀ q ∈ refs, t.numbers q = (s.numbers q).closedWith (t.numbers q).endNumber
  drawn : ∀ q ∈ refs, s.lastNumber < (t.numbers q).endNumber ∧ (t.numbers q).endNumber ≤ t.lastNumber
  inOrder : refs.Pairwise fun q q' => (t.numbers q).endNumber < (t.numbers q').endNumber
  records : ∃ shown new, List.Sublist shown refs ∧ t.records = s.records ++ new ∧
    List.Forall₂ t.ShowsObject shown new

namespace Ends

theorem refl (s : SessionHeap) : Ends [] s s :=
  ⟨rfl, le_refl _, fun _ _ => rfl, List.forall_mem_nil _, List.forall_mem_nil _, .nil,
    [], [], .slnil, (List.append_nil _).symm, .nil⟩

/-- Closing some objects after others. -/
theorem trans (h : Ends refs s t) (h' : Ends refs' t u) (hdisjoint : refs.Disjoint refs') :
    Ends (refs ++ refs') s u := by
  have hkept (q : ObjectRef) (hq : q ∈ refs) : u.numbers q = t.numbers q :=
    h'.numbers_of_notMem q (hdisjoint hq)
  have hbefore (q : ObjectRef) (hq : q ∈ refs') : t.numbers q = s.numbers q :=
    h.numbers_of_notMem q fun hmem => hdisjoint hmem hq
  refine ⟨h'.size.trans h.size, h.lastNumber.trans h'.lastNumber, fun q hq => ?_, fun q hq => ?_,
    fun q hq => ?_, ?_, ?_⟩
  · rw [List.mem_append, not_or] at hq
    rw [h'.numbers_of_notMem q hq.2, h.numbers_of_notMem q hq.1]
  · rcases List.mem_append.mp hq with hq | hq
    · rw [hkept q hq]
      exact h.numbers q hq
    · rw [← hbefore q hq]
      exact h'.numbers q hq
  · rcases List.mem_append.mp hq with hq | hq
    · rw [hkept q hq]
      exact ⟨(h.drawn q hq).1, (h.drawn q hq).2.trans h'.lastNumber⟩
    · exact ⟨h.lastNumber.trans_lt (h'.drawn q hq).1, (h'.drawn q hq).2⟩
  · refine List.pairwise_append.mpr ⟨?_, h'.inOrder, fun q hq q' hq' => ?_⟩
    · refine h.inOrder.imp_of_mem fun hq hq' hlt => ?_
      rw [hkept _ hq, hkept _ hq']
      exact hlt
    · rw [hkept q hq]
      exact (h.drawn q hq).2.trans_lt (h'.drawn q' hq').1
  · obtain ⟨shown, new, hsub, hnew, hshows⟩ := h.records
    obtain ⟨shown', new', hsub', hnew', hshows'⟩ := h'.records
    refine ⟨shown ++ shown', new ++ new', hsub.append hsub', ?_, ?_⟩
    · rw [hnew', hnew, List.append_assoc]
    · refine List.rel_append ?_ hshows'
      have hmem := (List.forall₂_and_left _ _).mpr ⟨fun q hq => hsub.subset hq, hshows⟩
      refine hmem.imp fun q record hshow => ?_
      rw [ShowsObject, hkept q hshow.1]
      exact hshow.2

/-- Only the numbers and the records count. -/
theorem congr {s' t' : SessionHeap} (h : Ends refs s t) (hs : SameNumbers s s') (ht : SameNumbers t t') :
    Ends refs s' t' := by
  obtain ⟨shown, new, hsub, hnew, hshows⟩ := h.records
  refine ⟨?_, ?_, fun q hq => ?_, fun q hq => ?_, fun q hq => ?_, ?_, shown, new, hsub, ?_, ?_⟩
  · rw [ht.size, hs.size, h.size]
  · rw [hs.lastNumber, ht.lastNumber]
    exact h.lastNumber
  · rw [ht.numbers, hs.numbers, h.numbers_of_notMem q hq]
  · rw [ht.numbers, hs.numbers]
    exact h.numbers q hq
  · rw [hs.lastNumber, ht.lastNumber, ht.numbers]
    exact h.drawn q hq
  · simp only [ht.numbers]
    exact h.inOrder
  · rw [ht.records, hs.records]
    exact hnew
  · refine hshows.imp fun q record hshow => ?_
    rw [ShowsObject, ht.numbers]
    exact hshow

/-- An action that is among those closed may have been marked before. -/
theorem of_markAsLeft (h : Ends refs (s.updateObject r (·.markAsLeft)) t) (hr : r ∈ refs) :
    Ends refs s t := by
  have hother (q : ObjectRef) (hq : q ≠ r) :
      (s.updateObject r (·.markAsLeft)).numbers q = s.numbers q :=
    congrArg ObjectNode.numbers (object_updateObject_of_ne hq)
  have hclosed (number : ℤ) : ((s.updateObject r (·.markAsLeft)).numbers r).closedWith number =
      (s.numbers r).closedWith number := by
    rw [SessionHeap.numbers, object_updateObject_self, SessionHeap.numbers]
    cases s.object r <;> rfl
  refine ⟨h.size, h.lastNumber, fun q hq => ?_, fun q hq => ?_, h.drawn, h.inOrder, h.records⟩
  · rw [h.numbers_of_notMem q hq, hother q (ne_of_mem_of_not_mem hr hq).symm]
  · rw [h.numbers q hq]
    by_cases hqr : q = r
    · rw [hqr, hclosed]
      rfl
    · rw [hother q hqr]
      rfl

end Ends

end SessionHeap

namespace HeapCalls

open SessionHeap BeaconReports

variable {caller : Caller} {discardData : Bool} {fuel : ℕ} {s t u v : SessionHeap} {p q r : ObjectRef}
  {parent : ObjectParent} {refs : List ObjectRef}

/-! ## One object -/

/-- An object that is closed with the next number, and reported by a program, if it is. -/
theorem ends_closedBy {f : ObjectNode → ObjectNode} {body : Reporter Unit}
    (hnumbers : (f (s.object r)).numbers = (s.numbers r).closedWith (s.lastNumber + 1))
    (hbody : ∃ drawn : Reporting, drawn.lastNumber = s.lastNumber + 1 ∧ drawn.records = s.records ∧
      Adds (s.numbers r).eventType (s.numbers r).startNumber (s.lastNumber + 1) drawn
        (body.run s.reporting).2) :
    Ends [r] s (closedBy s discardData r f body) := by
  obtain ⟨drawn, hdrawn, hkept, hadds⟩ := hbody
  have hself : (closedBy s discardData r f body).numbers r =
      (s.numbers r).closedWith (s.lastNumber + 1) := by
    rw [← hnumbers]
    exact congrArg ObjectNode.numbers object_updateObject_self
  have hlast : (closedBy s discardData r f body).lastNumber = s.lastNumber + 1 :=
    hadds.lastNumber.trans hdrawn
  refine ⟨rfl, ?_, fun q hq => ?_, List.forall_mem_singleton.mpr ?_, List.forall_mem_singleton.mpr ?_,
    List.pairwise_singleton _ _, ?_⟩
  · rw [hlast]
    exact (Int.lt_succ _).le
  · exact congrArg ObjectNode.numbers (object_updateObject_of_ne (mt List.mem_singleton.mpr hq))
  · rw [hself]
    rfl
  · rw [hself, hlast]
    exact ⟨Int.lt_succ _, le_refl _⟩
  · rcases hadds.records with hrecords | ⟨record, hrecords, hshows⟩
    · refine ⟨[], [], List.nil_sublist _, ?_, .nil⟩
      rw [List.append_nil, ← hkept]
      exact hrecords
    · refine ⟨[r], [record], List.Sublist.refl _, ?_, .cons ?_ .nil⟩
      · rw [← hkept]
        exact hrecords
      · rw [ShowsObject, hself]
        exact hshows

/-- An action whose children are closed. -/
theorem ends_leave (caller : Caller) (discardData : Bool) {a : ActionCommon} {isActionLeft : Bool} {children : List ObjectRef}
    (hnode : s.object r = .action parent a isActionLeft children) (hleft : isActionLeft = true) :
    Ends [r] s (closedBy s discardData r (·.mapAction (withEnd caller s.reporting))
      (SessionCalls.leaveObject caller discardData (.action a []))) := by
  subst hleft
  have hnumbers : s.numbers r =
      ⟨parent, true, true, a.startSequenceNumber, a.endSequenceNumber⟩ := by
    rw [SessionHeap.numbers, hnode]
    rfl
  let drawn : Reporting :=
    (createSequenceNumber.run { s.reporting with numReads := s.reporting.numReads + 1 }).2
  refine ends_closedBy ?_ ⟨drawn, rfl, rfl, ?_⟩
  · rw [hnumbers, hnode]
    rfl
  · rw [hnumbers, SessionCalls.leaveObject, SessionCalls.leaveChildren]
    cases discardData with
    | true => exact adds_refl _ _ drawn
    | false => exact adds_addAction (withEnd caller s.reporting a)

/-- A web request. -/
theorem ends_stop (caller : Caller) (discardData : Bool) {tracer : WebRequestTracer} (responseCode : ℤ)
    (hnode : s.object r = .webRequest parent tracer) :
    Ends [r] s (closedBy s discardData r (·.mapTracer (withStop caller responseCode s.reporting))
      (SessionCalls.doStop caller responseCode discardData tracer)) := by
  have hnumbers : s.numbers r =
      ⟨parent, false, tracer.isStopped, tracer.startSequenceNo, tracer.endSequenceNo⟩ := by
    rw [SessionHeap.numbers, hnode]
    rfl
  let drawn : Reporting :=
    { (createSequenceNumber.run s.reporting).2 with numReads := s.reporting.numReads + 1 }
  refine ends_closedBy ?_ ⟨drawn, rfl, rfl, ?_⟩
  · rw [hnumbers, hnode]
    rfl
  · rw [hnumbers, SessionCalls.doStop]
    cases discardData with
    | true => exact adds_refl _ _ drawn
    | false => exact adds_addWebRequest tracer.parentActionID (withStop caller responseCode s.reporting tracer)

/-! ## Trees -/

theorem keepsFlags_run {body : Reporter Unit} {before : Reporting}
    (h : Program.Guarantees (ReportStepOf fun _ => True) body) :
    SessionCalls.KeepsFlags before (body.run before).2 :=
  (SessionCalls.keepsFlags_of_guarantees h).run (fun _ => ⟨rfl, rfl⟩)
    (fun _ _ _ => SessionCalls.KeepsFlags.trans) rfl

mutual

/-- **Closing an object** ends the tree below it, children first. -/
theorem ends_closeObject (caller : Caller) (discardData : Bool) (object : OpenKitObject)
    {s : SessionHeap} {r : ObjectRef} {refs : List ObjectRef} {fuel : ℕ}
    (h : Represents s r object refs) (hnodup : refs.Nodup) (hfuel : 2 * refs.length ≤ fuel) :
    ∃ u, Ends refs s u ∧ SessionCalls.KeepsFlags s.reporting u.reporting ∧
      (closeObject caller discardData (fuel + 2) r).run s =
        (onChildClosed caller fuel (s.object r).parent r).run u := by
  cases object with
  | action a objects =>
    cases h with
    | @action _ parent _ children refs _ hnode hchildren =>
      obtain ⟨hrefs, -, hdisjoint⟩ := List.nodup_append.mp hnodup
      have hr : r ∉ refs := fun hmem => hdisjoint r hmem r (List.mem_singleton.mpr rfl) rfl
      have hlength : (refs ++ [r]).length = refs.length + 1 := List.length_append
      let s₁ := s.updateObject r (·.markAsLeft)
      have hchildren₁ : RepresentsAll s₁ (.action r) children objects refs :=
        hchildren.congr fun q hq => object_updateObject_of_ne (ne_of_mem_of_not_mem hq hr)
      have hfuel' : 2 * refs.length + 2 ≤ fuel := by omega
      have hparent (p : ObjectRef) (hp : ObjectParent.action r = .action p) : p ∉ refs := by
        obtain rfl := ObjectParent.action.inj hp
        exact hr
      have hsession (hp : ObjectParent.action r = .session) :
          s₁.reporting.session.isSessionFinishing = true := by cases hp
      obtain ⟨v, hclosed, hrun⟩ :=
        run_closeAll caller discardData objects hchildren₁ hrefs hfuel' hparent hsession
      have hends := ends_closeAll caller discardData objects hchildren₁ hrefs hfuel' hparent hsession
      rw [hrun] at hends
      -- the children of the action are closed, and it is the next one to draw a number
      obtain ⟨children', hself⟩ : ∃ children', v.object r = .action parent a true children' := by
        rw [hclosed.object_of_notMem r hr, removeChildren, object_mapChildrenOf, if_pos rfl,
          object_updateObject_self, hnode]
        exact ⟨_, rfl⟩
      have hboth := hends.trans (ends_leave caller discardData hself rfl)
        (List.disjoint_singleton.mpr hr)
      have hflags : SessionCalls.KeepsFlags s₁.reporting v.reporting := by
        rw [hclosed.reporting]
        exact keepsFlags_run (SessionCalls.guarantees_leaveChildren discardData trivial trivial objects)
      refine ⟨_, hboth.of_markAsLeft (List.mem_append_right _ (List.mem_singleton.mpr rfl)),
        hflags.trans (keepsFlags_run (SessionCalls.guarantees_leaveObject discardData trivial trivial _)), ?_⟩
      rw [closeObject, Program.run_bind_ok (Program.run_read _ s), hnode]
      exact run_doLeaveAction hnode hrun hself
  | webRequest tracer =>
    cases h with
    | @webRequest _ parent _ hnode hopen =>
      refine ⟨_, ends_stop caller discardData tracer.responseCode hnode,
        keepsFlags_run (SessionCalls.guarantees_doStop discardData trivial _ tracer), ?_⟩
      rw [closeObject, Program.run_bind_ok (Program.run_read _ s), hnode]
      exact run_doStop tracer.responseCode hnode hopen

/-- **Closing the children** of an action or of the session that is finishing, one after the other. -/
theorem ends_closeAll (caller : Caller) (discardData : Bool) (objects : List OpenKitObject)
    {s : SessionHeap} {parent : ObjectParent} {children refs : List ObjectRef} {fuel : ℕ}
    (h : RepresentsAll s parent children objects refs) (hnodup : refs.Nodup)
    (hfuel : 2 * refs.length + 2 ≤ fuel) (hparent : ∀ p, parent = .action p → p ∉ refs)
    (hsession : parent = .session → s.reporting.session.isSessionFinishing = true) :
    Ends refs s ((children.forM (closeObject caller discardData fuel)).run s).2 := by
  cases objects with
  | nil =>
    cases h with
    | nil => exact .refl s
  | cons object objects =>
    cases h with
    | cons hroot h hrest =>
      rename_i c children refs refs'
      obtain ⟨hrefs, hrefs', hdisjoint⟩ := List.nodup_append.mp hnodup
      have hlength : (refs ++ refs').length = refs.length + refs'.length := List.length_append
      have hpos : 1 ≤ refs.length := List.length_pos_of_mem h.mem
      obtain ⟨fuel, rfl⟩ := Nat.exists_eq_add_of_le' (Nat.le_of_add_left_le hfuel)
      have hfuel₁ : 2 * refs.length ≤ fuel := by omega
      have hflags {w : SessionHeap} (h : SessionCalls.KeepsFlags s.reporting w.reporting)
          (hp : parent = .session) : w.reporting.session.isSessionFinishing = true :=
        h.1.trans (hsession hp)
      obtain ⟨u, hends, hkeeps, hrun⟩ := ends_closeObject caller discardData object h hrefs hfuel₁
      rw [hroot, run_onChildClosed (hflags hkeeps) (by omega)] at hrun
      -- the tree was closed in the same way, so that the others are as they were
      obtain ⟨v, hclosed, hrun'⟩ := run_closeObject caller discardData object h hrefs hfuel₁
      have hkeeps' : SessionCalls.KeepsFlags s.reporting v.reporting := by
        rw [hclosed.reporting]
        exact keepsFlags_run (SessionCalls.guarantees_leaveObject discardData trivial trivial object)
      rw [hroot, run_onChildClosed (hflags hkeeps') (by omega), hrun] at hrun'
      have hsame : u.removeChild parent c = v.removeChild parent c := congrArg Prod.snd hrun'
      have hrest₁ : RepresentsAll (u.removeChild parent c) parent children objects refs' := by
        refine hrest.congr fun q hq => ?_
        have hq' : q ∉ refs := fun hmem => hdisjoint q hmem q hq rfl
        rw [hsame, removeChild, object_mapChildrenOf_of_ne, hclosed.object_of_notMem q hq']
        intro hp
        exact hparent q hp (List.mem_append_right _ hq)
      have hfuel₂ : 2 * refs'.length + 2 ≤ fuel + 2 := by omega
      have hends' := ends_closeAll caller discardData objects hrest₁ hrefs' hfuel₂
        (fun p hp hmem => hparent p hp (List.mem_append_right _ hmem)) fun hp => by
          rw [removeChild, reporting_mapChildrenOf]
          exact hflags hkeeps hp
      have hremoved : Ends refs s (u.removeChild parent c) :=
        hends.congr (.refl s) (.mapChildrenOf u _ parent)
      have hboth := hremoved.trans hends' fun q hq hq' => hdisjoint q hq q hq' rfl
      show Ends _ s ((closeObject caller discardData (fuel + 2) c >>= fun _ =>
        children.forM (closeObject caller discardData (fuel + 2))).run s).2
      rw [Program.run_bind_ok hrun]
      exact hboth

end

end HeapCalls

end OpenKit
