import OpenKit.Objects.ClosingTrees

/-!
# The effect of a call on a session's objects

A call makes an object, changes one, or closes some. Whichever it is, the objects stay linked, closed
ones stay closed, and what is reported was open before the call and is closed after it.

## Main definitions

* `SessionHeap.ReportsInOrder`: some objects are reported, each once and before its parent
* `SessionHeap.Effect`: what a call may do

## Main results

* `effect_afterCall`: all calls do no more
-/

namespace OpenKit

open Thread

namespace SessionHeap

open HeapCalls

variable {caller : Caller} {discardData : Bool} {s t u : SessionHeap} {p q r : ObjectRef}
  {parent : ObjectParent} {roots refs : List ObjectRef} {tail : List HeapReport}

/-! ## The order of reports -/

/-- **Some objects are reported**, each once, before its parent and before the end of the session. -/
structure ReportsInOrder (s : SessionHeap) (closed : ObjectRef → Prop) (new : List HeapReport) :
    Prop where
  nodup : new.Nodup
  mem_iff : ∀ q, .object q ∈ new ↔ closed q
  childrenFirst : ∀ q p, closed q → closed p → (s.object q).parent = .action p →
    [.object q, .object p].Sublist new
  beforeEnd : ∀ q, closed q → .sessionEnd ∈ new → [.object q, .sessionEnd].Sublist new

theorem object_injective : Function.Injective HeapReport.object :=
  fun _ _ h => HeapReport.object.inj h

/-- What a tail adds to the reports of objects. -/
theorem nodup_append_tail (hnodup : refs.Nodup) (htail : tail = [] ∨ tail = [.sessionEnd]) :
    (refs.map HeapReport.object ++ tail).Nodup := by
  refine List.nodup_append.mpr ⟨hnodup.map object_injective, ?_, ?_⟩
  · rcases htail with rfl | rfl
    · exact List.nodup_nil
    · exact List.nodup_singleton _
  · rintro _ hq _ hend rfl
    obtain ⟨q, -, rfl⟩ := List.mem_map.mp hq
    rcases htail with rfl | rfl
    · cases hend
    · cases List.mem_singleton.mp hend

theorem reportsInOrder_append {closed : ObjectRef → Prop} (hnodup : refs.Nodup)
    (hmem : ∀ q, q ∈ refs ↔ closed q) (hfirst : s.ChildrenFirst refs)
    (htail : tail = [] ∨ tail = [.sessionEnd]) :
    ReportsInOrder s closed (refs.map .object ++ tail) := by
  refine ⟨nodup_append_tail hnodup htail, fun q => ?_, fun q p hq hp hup => ?_, fun q hq hend => ?_⟩
  · rw [List.mem_append, ← hmem]
    constructor
    · rintro (hq | hq)
      · exact (List.mem_map_of_injective object_injective).mp hq
      · rcases htail with rfl | rfl
        · cases hq
        · cases List.mem_singleton.mp hq
    · exact fun hq => .inl (List.mem_map_of_mem hq)
  · have hsub := (hfirst q p ((hmem q).mpr hq) ((hmem p).mpr hp) hup).map HeapReport.object
    exact hsub.trans (List.sublist_append_left _ _)
  · have hq' : HeapReport.object q ∈ refs.map HeapReport.object := List.mem_map_of_mem ((hmem q).mpr hq)
    have hend' : .sessionEnd ∈ tail := by
      rcases List.mem_append.mp hend with hmap | htail
      · obtain ⟨_, -, hne⟩ := List.mem_map.mp hmap
        cases hne
      · exact htail
    exact (List.singleton_sublist.mpr hq').append (List.singleton_sublist.mpr hend')

/-- A discarding completion reports no object. -/
theorem reportsInOrder_tail (htail : tail = [] ∨ tail = [.sessionEnd]) :
    ReportsInOrder s (fun _ => False) tail := by
  have hnone : ReportsInOrder s (fun _ => False) (([] : List ObjectRef).map .object ++ tail) :=
    reportsInOrder_append List.nodup_nil (fun _ => iff_of_false List.not_mem_nil id)
      (fun _ _ hq => absurd hq List.not_mem_nil) htail
  exact hnone

/-! ## What every call may do -/

/-- **What a call does**: closed objects stay closed, and what it reports is closed then. -/
structure Effect (s t : SessionHeap) : Prop where
  linked : Linked t
  size : s.objects.size ≤ t.objects.size
  isOpen : ∀ q < s.objects.size, t.IsOpen q → s.IsOpen q
  finishing : s.reporting.session.isFinishingOrFinished = true →
    t.reporting.session.isFinishingOrFinished = true
  reports : ∃ new, t.reports = s.reports ++ new ∧ new.Nodup ∧
    (∀ q, .object q ∈ new → s.IsOpen q ∧ ¬ t.IsOpen q) ∧
    (.sessionEnd ∈ new → s.reporting.session.isFinishingOrFinished = false ∧
      t.reporting.session.isFinishingOrFinished = true)

/-- A completion of open objects. -/
theorem effect_of_completes (h : Completes discardData parent roots refs tail s t) (hlinked : Linked s)
    (hnodup : refs.Nodup) (hopen : ∀ q ∈ refs, s.IsOpen q) : Effect s t := by
  have htail : tail = [] ∨ tail = [.sessionEnd] := h.tail.imp_right And.left
  refine ⟨h.linked hlinked, h.detaches.size.ge, fun q _ hq => (h.detaches.isOpen_iff.mp hq).1,
    h.finishing, _, h.reports, ?_, fun q hq => ?_, fun hend => ?_⟩
  · cases discardData with
    | true => exact (reportsInOrder_tail (s := s) htail).nodup
    | false => exact nodup_append_tail hnodup htail
  · have hmem : q ∈ refs := by
      rcases List.mem_append.mp hq with hq | hq
      · cases discardData with
        | true => cases hq
        | false => exact (List.mem_map_of_injective object_injective).mp hq
      · rcases htail with rfl | rfl
        · cases hq
        · cases List.mem_singleton.mp hq
    exact ⟨hopen q hmem, fun hq => (h.detaches.isOpen_iff.mp hq).2 hmem⟩
  · rcases h.tail with rfl | ⟨-, hflags⟩
    · rw [List.append_nil] at hend
      cases discardData with
      | true => cases hend
      | false =>
        obtain ⟨_, -, hne⟩ := List.mem_map.mp hend
        cases hne
    · exact hflags

/-- A step that leaves the objects and the lists of children alone. -/
theorem effect_of_reporting (hlinked : Linked s) (hobjects : t.objects = s.objects)
    (hchildren : t.children = s.children) (hreports : t.reports = s.reports)
    (hflags : t.reporting.session.isFinishingOrFinished =
      s.reporting.session.isFinishingOrFinished) : Effect s t := by
  have hsame (q : ObjectRef) : t.object q = s.object q := congrArg (Heap.get · q) hobjects
  have hopen (q : ObjectRef) : t.IsOpen q ↔ s.IsOpen q := by
    rw [IsOpen, IsOpen, hsame, hobjects]
  have hlists (parent : ObjectParent) : t.childrenOf parent = s.childrenOf parent := by
    cases parent with
    | session => exact hchildren
    | action p => exact congrArg ObjectNode.children (hsame p)
  refine ⟨⟨fun q p => ?_, fun q p => ?_, fun q => ?_, fun parent q => ?_, fun parent => ?_⟩,
    (congrArg Heap.size hobjects).ge, fun q _ => (hopen q).mp, fun h => hflags.trans h, [], ?_⟩
  · rw [hsame]
    exact hlinked.lt_of_parent q p
  · rw [hsame, hopen, hopen]
    exact hlinked.parent q p
  · rw [hopen, hflags]
    exact hlinked.session q
  · rw [hlists, hopen, hsame]
    exact hlinked.mem_childrenOf parent q
  · rw [hlists]
    exact hlinked.nodup_childrenOf parent
  · exact ⟨by rw [hreports, List.append_nil], List.nodup_nil,
      fun _ hq => absurd hq List.not_mem_nil, fun hend => absurd hend List.not_mem_nil⟩

theorem effect_refl (hlinked : Linked s) : Effect s s := effect_of_reporting hlinked rfl rfl rfl rfl

/-- A step that changes an object, but neither its links nor whether it is closed. -/
theorem effect_updateObject (hlinked : Linked s) {f : ObjectNode → ObjectNode}
    (hparent : (f (s.object r)).parent = (s.object r).parent)
    (hclosed : (f (s.object r)).isClosed = (s.object r).isClosed)
    (hchildren : (f (s.object r)).children = (s.object r).children) :
    Effect s (s.updateObject r f) := by
  have hsame {β : Type} (g : ObjectNode → β) (hg : g (f (s.object r)) = g (s.object r))
      (q : ObjectRef) : g ((s.updateObject r f).object q) = g (s.object q) := by
    by_cases hq : q = r
    · rw [hq, object_updateObject_self, hg]
    · rw [object_updateObject_of_ne hq]
  have hopen (q : ObjectRef) : (s.updateObject r f).IsOpen q ↔ s.IsOpen q := by
    rw [IsOpen, hsame ObjectNode.isClosed hclosed]
    rfl
  have hlists (parent : ObjectParent) :
      (s.updateObject r f).childrenOf parent = s.childrenOf parent := by
    cases parent with
    | session => rfl
    | action p => exact hsame ObjectNode.children hchildren p
  refine ⟨⟨fun q p => ?_, fun q p => ?_, fun q => ?_, fun parent q => ?_, fun parent => ?_⟩,
    le_refl _, fun q _ => (hopen q).mp, id, [], ?_⟩
  · rw [hsame ObjectNode.parent hparent]
    exact hlinked.lt_of_parent q p
  · rw [hsame ObjectNode.parent hparent, hopen, hopen]
    exact hlinked.parent q p
  · rw [hopen]
    exact hlinked.session q
  · rw [hlists, hopen, hsame ObjectNode.parent hparent]
    exact hlinked.mem_childrenOf parent q
  · rw [hlists]
    exact hlinked.nodup_childrenOf parent
  · exact ⟨(List.append_nil _).symm, List.nodup_nil,
      fun _ hq => absurd hq List.not_mem_nil, fun hend => absurd hend List.not_mem_nil⟩

/-- **A new object** is open, and is linked to its parent. -/
theorem effect_addObject (hlinked : Linked s) {object : OpenKitObject}
    (hopen : (ObjectNode.ofObject parent object).isClosed = false)
    (hparent : ∀ p, parent = .action p → s.IsOpen p ∧ (s.object p).isAction = true)
    (hsession : s.reporting.session.isFinishingOrFinished = false) :
    Effect s (s.addObject parent object) := by
  let made : SessionHeap := { s with objects := s.objects.alloc (.ofObject parent object) }
  have hnode : (ObjectNode.ofObject parent object).parent = parent ∧
      (ObjectNode.ofObject parent object).children = [] := by
    cases object with
    | action a children => exact ⟨rfl, rfl⟩
    | webRequest tracer => exact ⟨rfl, rfl⟩
  have hself : made.object s.objects.size = .ofObject parent object := Heap.get_alloc_size
  have hother (q : ObjectRef) (hq : q ≠ s.objects.size) : made.object q = s.object q :=
    Function.update_of_ne hq _ _
  have hne (q : ObjectRef) (hq : s.IsOpen q) : q ≠ s.objects.size := Nat.ne_of_lt hq.1
  -- the list of the parent is changed, but no parent and no object is closed by that
  have hparentOf (q : ObjectRef) : ((s.addObject parent object).object q).parent =
      (made.object q).parent := by
    rw [addObject, object_mapChildrenOf]
    split
    · exact ObjectNode.parent_mapChildren _ _
    · rfl
  have hisClosed (q : ObjectRef) : ((s.addObject parent object).object q).isClosed =
      (made.object q).isClosed := by
    rw [addObject, object_mapChildrenOf]
    split
    · exact ObjectNode.isClosed_mapChildren _ _
    · rfl
  have hsize : (s.addObject parent object).objects.size = s.objects.size + 1 := by
    rw [addObject, size_mapChildrenOf]
    rfl
  have hisOpen (q : ObjectRef) : (s.addObject parent object).IsOpen q ↔
      q = s.objects.size ∨ s.IsOpen q := by
    rw [IsOpen, hisClosed, hsize]
    by_cases hq : q = s.objects.size
    · subst hq
      rw [hself]
      exact iff_of_true ⟨Nat.lt_succ_self _, hopen⟩ (.inl rfl)
    · rw [hother q hq]
      constructor
      · rintro ⟨hlt, hclosed⟩
        exact .inr ⟨lt_of_le_of_ne (Nat.le_of_lt_succ hlt) hq, hclosed⟩
      · rintro (rfl | hopen)
        · exact absurd rfl hq
        · exact ⟨hopen.1.trans (Nat.lt_succ_self _), hopen.2⟩
  have hlt (q p : ObjectRef) (hup : (made.object q).parent = .action p) : p < q := by
    by_cases hq : q = s.objects.size
    · subst hq
      rw [hself, hnode.1] at hup
      exact (hparent p hup).1.1
    · rw [hother q hq] at hup
      exact hlinked.lt_of_parent q p hup
  have hmadeLists (parent' : ObjectParent) : made.childrenOf parent' =
      if parent' = .action s.objects.size then [] else s.childrenOf parent' := by
    cases parent' with
    | session => rfl
    | action p =>
      by_cases hp : p = s.objects.size
      · subst hp
        rw [if_pos rfl, childrenOf, hself, hnode.2]
      · rw [if_neg fun hp' => hp (ObjectParent.action.inj hp')]
        exact congrArg ObjectNode.children (hother p hp)
  have hmade (parent' : ObjectParent) (q : ObjectRef) :
      q ∈ made.childrenOf parent' ↔ s.IsOpen q ∧ (s.object q).parent = parent' := by
    rw [hmadeLists]
    split
    next hnew =>
      -- no other object has the new one as its parent
      refine iff_of_false List.not_mem_nil ?_
      rintro ⟨hq, hup⟩
      exact absurd hq.1 (hlinked.lt_of_parent q _ (hup.trans hnew)).not_gt
    next => exact hlinked.mem_childrenOf parent' q
  have hlists (parent' : ObjectParent) : (s.addObject parent object).childrenOf parent' =
      if parent' = parent then made.childrenOf parent' ++ [s.objects.size]
      else made.childrenOf parent' := by
    refine childrenOf_mapChildrenOf (fun p hp hnone => ?_) parent'
    obtain ⟨hopenP, hactionP⟩ := hparent p hp
    rw [hother p (hne p hopenP), hactionP] at hnone
    cases hnone
  have hnodup (parent' : ObjectParent) : (made.childrenOf parent').Nodup := by
    rw [hmadeLists]
    split
    · exact List.nodup_nil
    · exact hlinked.nodup_childrenOf parent'
  have hnotMem (parent' : ObjectParent) : s.objects.size ∉ made.childrenOf parent' :=
    fun hmem => hne _ ((hmade parent' _).mp hmem).1 rfl
  refine ⟨⟨fun q p hup => ?_, fun q p hq hup => ?_, fun q _ => ?_, fun parent' q => ?_,
    fun parent' => ?_⟩, ?_, fun q hq hopenQ => ?_, ?_, [], ?_⟩
  · rw [hparentOf] at hup
    exact hlt q p hup
  · rw [hparentOf] at hup
    rw [hisOpen] at hq ⊢
    rcases hq with rfl | hq
    · rw [hself, hnode.1] at hup
      exact .inr (hparent p hup).1
    · rw [hother q (hne q hq)] at hup
      exact .inr (hlinked.parent q p hq hup)
  · rw [addObject, reporting_mapChildrenOf]
    exact hsession
  · rw [hlists, hisOpen, hparentOf]
    by_cases hq : q = s.objects.size
    · subst hq
      rw [hself, hnode.1]
      split
      next hsame =>
        exact iff_of_true (List.mem_append_right _ (List.mem_singleton.mpr rfl)) ⟨.inl rfl, hsame.symm⟩
      next hne' => exact iff_of_false (hnotMem parent') fun h => hne' h.2.symm
    · rw [hother q hq, or_iff_right hq, ← hmade]
      split
      · rw [List.mem_append, List.mem_singleton]
        exact or_iff_left hq
      · rfl
  · rw [hlists]
    split
    · refine List.nodup_append.mpr ⟨hnodup parent', List.nodup_singleton _, ?_⟩
      rintro q hq _ hnew rfl
      rw [List.mem_singleton.mp hnew] at hq
      exact hnotMem parent' hq
    · exact hnodup parent'
  · rw [hsize]
    exact Nat.le_succ _
  · exact ((hisOpen q).mp hopenQ).resolve_left (Nat.ne_of_lt hq)
  · rw [addObject, reporting_mapChildrenOf]
    exact id
  · refine ⟨?_, List.nodup_nil, fun _ hq => absurd hq List.not_mem_nil,
      fun hend => absurd hend List.not_mem_nil⟩
    rw [addObject, reports_mapChildrenOf, List.append_nil]

/-- A report before a step is part of the step. -/
theorem effect_after_reporting (hobjects : u.objects = s.objects) (hreports : u.reports = s.reports)
    (hflags : u.reporting.session.isFinishingOrFinished =
      s.reporting.session.isFinishingOrFinished) (h : Effect u t) : Effect s t := by
  have hopen (q : ObjectRef) : u.IsOpen q ↔ s.IsOpen q := by
    rw [IsOpen, IsOpen, object, hobjects]
    rfl
  obtain ⟨new, hnew, hnodup, hclosed, hend⟩ := h.reports
  refine ⟨h.linked, hobjects ▸ h.size, fun q hq hopenQ => ?_, fun hfinishing => ?_, new, ?_, hnodup,
    fun q hq => ?_, fun hended => ?_⟩
  · exact (hopen q).mp (h.isOpen q (hobjects.symm ▸ hq) hopenQ)
  · exact h.finishing (hflags.trans hfinishing)
  · rw [hnew, hreports]
  · rw [← hopen]
    exact hclosed q hq
  · rw [← hflags]
    exact hend hended

theorem run_onBeacon_snd {α : Type} (body : Reporter α) :
    ((onBeacon body).run s).2 = { s with reporting := (body.run s.reporting).2 } := by
  rcases h : body.run s.reporting with ⟨e | a, after⟩
  · have hfail : (onBeacon body).run s = (.error (.exception e), { s with reporting := after }) := by
      rw [onBeacon, Program.run_bind_ok (Program.run_atomic _ s), h]
      rfl
    rw [hfail]
  · rw [run_onBeacon h]

/-- What a report leaves of the session. -/
theorem isFinishingOrFinished_of_guarantees {α : Type} {body : Reporter α} {r : Reporting}
    (h : Program.Guarantees (ReportStepOf fun _ => True) body) :
    (body.run r).2.session.isFinishingOrFinished = r.session.isFinishingOrFinished := by
  have hstep : ReportStepOf (fun _ => True) r (body.run r).2 :=
    h.run ReportStepOf.refl (fun _ _ _ => ReportStepOf.trans) rfl
  obtain ⟨beacon, hsession, -⟩ := hstep.session
  rw [hsession]
  rfl

theorem effect_onBeacon (hlinked : Linked s) {α : Type} {body : Reporter α}
    (h : Program.Guarantees (ReportStepOf fun _ => True) body) :
    Effect s ((onBeacon body).run s).2 := by
  rw [run_onBeacon_snd]
  exact effect_of_reporting hlinked rfl rfl rfl (isFinishingOrFinished_of_guarantees h)

/-- A new child of an open action, or of the session while it is open. -/
theorem effect_newChild (hlinked : Linked s) {constructor : Reporter OpenKitObject}
    (h : Program.Guarantees (ReportStepOf fun _ => True) constructor)
    (hnew : ∃ object after, constructor.run s.reporting = (.ok object, after) ∧
      (ObjectNode.ofObject parent object).isClosed = false)
    (hparent : ∀ p, parent = .action p → s.IsOpen p ∧ (s.object p).isAction = true)
    (hsession : s.reporting.session.isFinishingOrFinished = false) :
    Effect s ((newChild parent constructor).run s).2 := by
  obtain ⟨object, after, hrun, hopen⟩ := hnew
  have hflags : after.session.isFinishingOrFinished = s.reporting.session.isFinishingOrFinished := by
    have hsame := isFinishingOrFinished_of_guarantees (r := s.reporting) h
    rwa [hrun] at hsame
  have hlinked' := (effect_onBeacon hlinked h).linked
  rw [run_onBeacon hrun] at hlinked'
  rw [newChild, Program.run_bind_ok (run_onBeacon hrun)]
  exact effect_after_reporting (u := { s with reporting := after }) rfl rfl hflags
    (effect_addObject hlinked' hopen hparent (hflags.trans hsession))

theorem effect_whenOpen (hlinked : Linked s) {body : HeapProgram Unit}
    (h : s.reporting.session.isFinishingOrFinished = false → Effect s (body.run s).2) :
    Effect s ((whenOpen body).run s).2 := by
  rw [whenOpen, Program.run_bind_ok (Program.run_read _ s)]
  cases hflags : s.reporting.session.isFinishingOrFinished with
  | true => exact effect_refl hlinked
  | false => exact h hflags

theorem effect_whenNotLeft (hlinked : Linked s) {body : ActionCommon → HeapProgram Unit}
    (h : ∀ a, (s.object r).isClosed = false → (s.object r).isAction = true →
      Effect s ((body a).run s).2) :
    Effect s ((whenNotLeft r body).run s).2 := by
  rw [whenNotLeft, Program.run_bind_ok (Program.run_read _ s)]
  cases hnode : s.object r with
  | action parent a isActionLeft children =>
    cases isActionLeft with
    | true => exact effect_refl hlinked
    | false => exact h a (by rw [hnode]; rfl) (by rw [hnode]; rfl)
  | webRequest parent tracer => exact effect_refl hlinked

theorem effect_whenNotStopped (hlinked : Linked s) {body : HeapProgram Unit}
    (h : Effect s (body.run s).2) : Effect s ((whenNotStopped r body).run s).2 := by
  rw [whenNotStopped, Program.run_bind_ok (Program.run_read _ s)]
  cases s.object r with
  | action parent a isActionLeft children => exact effect_refl hlinked
  | webRequest parent tracer =>
    dsimp only
    split
    · exact effect_refl hlinked
    · exact h

/-- A change of the data of a web request. -/
theorem effect_mapTracer (hlinked : Linked s) {f : WebRequestTracer → WebRequestTracer}
    (hf : ∀ tracer, (f tracer).endTime = tracer.endTime) :
    Effect s (s.updateObject r (·.mapTracer f)) := by
  refine effect_updateObject hlinked ?_ ?_ ?_
  all_goals cases s.object r with
  | action parent a isActionLeft children => rfl
  | webRequest parent tracer =>
    first
    | rfl
    | exact congrArg (· != -1) (hf tracer)

/-- A report behind a check of its argument. -/
theorem effect_onBeacon_ite (hlinked : Linked s) {c : Prop} [Decidable c] {body : Reporter Unit}
    (h : Program.Guarantees (ReportStepOf fun _ => True) body) :
    Effect s ((onBeacon (if c then body else Program.ret ())).run s).2 := by
  refine effect_onBeacon hlinked ?_
  split
  · exact h
  · trivial

theorem effect_onBeacon_whenOpen (hlinked : Linked s) {body : Reporter Unit}
    (h : Program.Guarantees (ReportStepOf fun _ => True) body) :
    Effect s ((onBeacon (SessionCalls.whenOpen body)).run s).2 := by
  refine effect_onBeacon hlinked ((BeaconReports.guarantees_ask _).bind fun ended => ?_)
  split
  · exact h
  · trivial

/-! ## The calls -/

theorem run_doLeaveAction_of_not_isOpen {fuel : ℕ}
    (h : ¬ ((s.object r).isClosed = false ∧ (s.object r).isAction = true)) :
    (doLeaveAction caller discardData (fuel + 1) r).run s = (.ok (), s) := by
  rw [doLeaveAction, Program.run_bind_ok (Program.run_read _ s)]
  cases hnode : s.object r with
  | webRequest parent tracer => rfl
  | action parent a isActionLeft children =>
    cases isActionLeft with
    | true => rfl
    | false =>
      rw [hnode] at h
      exact absurd ⟨rfl, rfl⟩ h

theorem run_doStop_of_not_isOpen {fuel : ℕ} (responseCode : ℤ)
    (h : ¬ ((s.object r).isClosed = false ∧ (s.object r).isAction = false)) :
    (doStop caller responseCode discardData (fuel + 1) r).run s = (.ok (), s) := by
  rw [doStop, Program.run_bind_ok (Program.run_read _ s)]
  cases hnode : s.object r with
  | action parent a isActionLeft children => rfl
  | webRequest parent tracer =>
    cases hstopped : tracer.isStopped with
    | true =>
      dsimp only
      rw [hstopped]
      rfl
    | false =>
      rw [hnode] at h
      exact absurd ⟨hstopped, rfl⟩ h

theorem effect_doLeaveAction (hlinked : Linked s) (hr : r < s.objects.size) :
    Effect s ((doLeaveAction caller discardData s.fuel r).run s).2 := by
  by_cases hopen : (s.object r).isClosed = false ∧ (s.object r).isAction = true
  · obtain ⟨object, refs, tail, t, htree, hrun, hcompletes⟩ :=
      run_doLeaveAction_of_isOpen caller discardData hlinked ⟨hr, hopen.1⟩ hopen.2
    rw [hrun]
    exact effect_of_completes hcompletes hlinked htree.nodup fun q hq => ((htree.mem_iff q).mp hq).1
  · rw [fuel_eq, run_doLeaveAction_of_not_isOpen hopen]
    exact effect_refl hlinked

theorem effect_doStop (responseCode : ℤ) (hlinked : Linked s) (hr : r < s.objects.size) :
    Effect s ((doStop caller responseCode discardData s.fuel r).run s).2 := by
  by_cases hopen : (s.object r).isClosed = false ∧ (s.object r).isAction = false
  · obtain ⟨object, tail, t, htree, hrun, hcompletes⟩ :=
      run_doStop_of_isOpen caller discardData responseCode hlinked ⟨hr, hopen.1⟩ hopen.2
    rw [hrun]
    exact effect_of_completes hcompletes hlinked htree.nodup fun q hq => ((htree.mem_iff q).mp hq).1
  · rw [fuel_eq, run_doStop_of_not_isOpen responseCode hopen]
    exact effect_refl hlinked

theorem effect_endSession (sendSessionEndEvent : Bool) (hlinked : Linked s) :
    Effect s ((HeapCalls.endSession caller sendSessionEndEvent s.fuel).run s).2 := by
  cases hflags : s.reporting.session.isFinishingOrFinished with
  | true =>
    rw [fuel_eq, run_endSession_of_finishing sendSessionEndEvent hflags]
    exact effect_refl hlinked
  | false =>
    obtain ⟨objects, refs, t, hforest, hrun, hcompletes, -⟩ :=
      run_endSession_of_isOpen caller sendSessionEndEvent hlinked hflags
    rw [hrun]
    exact effect_of_completes hcompletes hlinked hforest.nodup fun q hq =>
      (hlinked.mem_subforest hforest).mp hq

theorem effect_tryEnd (hlinked : Linked s) : Effect s ((HeapCalls.tryEnd caller s.fuel).run s).2 := by
  rw [HeapCalls.tryEnd, Program.run_bind_ok (Program.run_read _ s)]
  split
  · exact effect_refl hlinked
  · rw [Program.run_bind_ok (Program.run_read _ s)]
    split
    · exact effect_endSession false hlinked
    · exact effect_of_reporting hlinked rfl rfl rfl rfl

/-- **A call on an object.** -/
theorem effect_performObjectCall (hlinked : Linked s) (hr : r < s.objects.size) (call : ObjectCall) :
    Effect s ((performObjectCall caller s.fuel r call).run s).2 := by
  have hopen (hclosed : (s.object r).isClosed = false) : s.IsOpen r := ⟨hr, hclosed⟩
  cases call with
  | enterAction name =>
    rw [performObjectCall]
    split
    next h =>
      refine effect_whenNotLeft hlinked fun a hclosed haction => ?_
      refine effect_newChild hlinked (SessionCalls.guarantees_newAction name h a.id) ⟨_, _, rfl, rfl⟩
        (fun p hp => ?_) (hlinked.session r (hopen hclosed))
      obtain rfl := ObjectParent.action.inj hp
      exact ⟨hopen hclosed, haction⟩
    next => exact effect_refl hlinked
  | traceWebRequest url =>
    rw [performObjectCall]
    split
    next h =>
      refine effect_whenNotLeft hlinked fun a hclosed haction => ?_
      refine effect_newChild hlinked (SessionCalls.guarantees_newWebRequest url h a.id) ⟨_, _, rfl, rfl⟩
        (fun p hp => ?_) (hlinked.session r (hopen hclosed))
      obtain rfl := ObjectParent.action.inj hp
      exact ⟨hopen hclosed, haction⟩
    next => exact effect_refl hlinked
  | leaveAction => exact effect_doLeaveAction hlinked hr
  | cancelAction => exact effect_doLeaveAction hlinked hr
  | stop responseCode => exact effect_doStop responseCode hlinked hr
  | start =>
    refine effect_whenNotStopped hlinked ?_
    rw [Program.run_bind_ok (run_onBeacon rfl)]
    let u : SessionHeap :=
      { s with reporting := { s.reporting with numReads := s.reporting.numReads + 1 } }
    have hread : Effect s u := effect_of_reporting hlinked rfl rfl rfl rfl
    exact effect_after_reporting (u := u) rfl rfl rfl (effect_mapTracer hread.linked fun _ => rfl)
  | setBytesSent bytesSent =>
    exact effect_whenNotStopped hlinked (effect_mapTracer hlinked fun _ => rfl)
  | setBytesReceived bytesReceived =>
    exact effect_whenNotStopped hlinked (effect_mapTracer hlinked fun _ => rfl)
  | reportEvent eventName =>
    exact effect_whenNotLeft hlinked fun a _ _ =>
      effect_onBeacon_ite hlinked (BeaconReports.guarantees_reportEvent trivial a.id eventName)
  | reportIntValue valueName value =>
    exact effect_whenNotLeft hlinked fun a _ _ => effect_onBeacon_ite hlinked
      (BeaconReports.guarantees_reportValue trivial (fun _ h => h.addKeyIntPair _ _) a.id valueName)
  | reportDoubleValue valueName value =>
    exact effect_whenNotLeft hlinked fun a _ _ => effect_onBeacon_ite hlinked
      (BeaconReports.guarantees_reportValue trivial (fun _ h => h.addKeyValuePair _ _) a.id valueName)
  | reportStringValue valueName value =>
    exact effect_whenNotLeft hlinked fun a _ _ => effect_onBeacon_ite hlinked
      (BeaconReports.guarantees_reportValue trivial (fun _ h => h.addKeyValuePairIfNotEmpty _ _) a.id
        valueName)
  | reportErrorCode errorName errorCode =>
    exact effect_whenNotLeft hlinked fun a _ _ => effect_onBeacon_ite hlinked
      (BeaconReports.guarantees_reportErrorCode trivial a.id errorName errorCode)
  | reportErrorCause errorName causeName causeDescription causeStackTrace =>
    exact effect_whenNotLeft hlinked fun a _ _ => effect_onBeacon_ite hlinked
      (BeaconReports.guarantees_reportErrorCause trivial a.id errorName _ _ _)

variable (caller) in
/-- **Every call** does so. -/
theorem effect_afterCall (hlinked : Linked s) (call : HeapCall) :
    Effect s (s.afterCall caller call) := by
  rw [afterCall]
  cases call with
  | enterAction name =>
    rw [HeapCall.perform]
    split
    next h =>
      exact effect_whenOpen hlinked fun hopen =>
        effect_newChild hlinked (SessionCalls.guarantees_newAction name h _) ⟨_, _, rfl, rfl⟩
          (fun p hp => absurd hp (by simp)) hopen
    next => exact effect_refl hlinked
  | traceWebRequest url =>
    rw [HeapCall.perform]
    split
    next h =>
      exact effect_whenOpen hlinked fun hopen => effect_newChild hlinked
        (SessionCalls.guarantees_newWebRequest url h _) ⟨_, _, rfl, rfl⟩
          (fun p hp => absurd hp (by simp)) hopen
    next => exact effect_refl hlinked
  | identifyUser userTag =>
    exact effect_onBeacon_whenOpen hlinked (BeaconReports.guarantees_identifyUser trivial userTag)
  | reportCrash errorName reason stacktrace =>
    rw [HeapCall.perform, SessionCalls.perform]
    split
    · exact effect_onBeacon_whenOpen hlinked (BeaconReports.guarantees_reportCrash trivial _ _ _)
    · exact effect_onBeacon hlinked trivial
  | sendEvent name jsonPayload =>
    rw [HeapCall.perform, SessionCalls.perform]
    split
    · exact effect_onBeacon_whenOpen hlinked (BeaconReports.guarantees_sendEvent trivial _ _)
    · exact effect_onBeacon hlinked trivial
  | sendBizEvent type jsonPayload =>
    rw [HeapCall.perform, SessionCalls.perform]
    split
    · exact effect_onBeacon_whenOpen hlinked (BeaconReports.guarantees_sendBizEvent trivial _ _)
    · exact effect_onBeacon hlinked trivial
  | endSession sendSessionEndEvent => exact effect_endSession sendSessionEndEvent hlinked
  | tryEnd => exact effect_tryEnd hlinked
  | updateServerConfiguration config => exact effect_of_reporting hlinked rfl rfl rfl rfl
  | onObject r call =>
    rw [HeapCall.perform, Program.run_bind_ok (Program.run_read _ s)]
    split
    next hr => exact effect_performObjectCall hlinked (of_decide_eq_true hr) call
    next => exact effect_refl hlinked

end SessionHeap

end OpenKit
