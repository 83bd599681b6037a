import Mathlib.Data.List.Nodup
import Mathlib.Data.List.Perm.Subperm
import OpenKit.Library.Forest
import OpenKit.Objects.ClosingObjects

/-!
# The forest of a session's objects

Between calls the open objects of a session are linked: each is in the list of its parent, which is open
itself. So the open objects at and below one are a tree that can be closed, and so are all open objects of
the session.

## Main definitions

* `SessionHeap.Below`: the objects at and below one
* `SessionHeap.Linked`: the open objects are in the lists of their parents, and nowhere else
* `SessionHeap.Subtree`, `Subforest`: a tree of open objects, and the trees of some children

## Main results

* `Linked.exists_subtree`, `Linked.exists_subforest`: such trees exist
* `Detaches.linked`: closing a tree keeps the rest linked
-/

namespace OpenKit

open Thread

/-- The action that is a parent. -/
def ObjectParent.ref : ObjectParent → Option ObjectRef
  | session => none
  | action p => some p

theorem ObjectParent.ref_eq_some_iff {parent : ObjectParent} {p : ObjectRef} :
    parent.ref = some p ↔ parent = .action p := by
  cases parent with
  | session => exact ⟨nofun, nofun⟩
  | action q => exact ⟨fun h => congrArg action (Option.some.inj h), fun h => congrArg ref h⟩

namespace SessionHeap

variable {s t u : SessionHeap} {p q r c : ObjectRef} {parent : ObjectParent}

/-- An object that was made, and neither left nor stopped. -/
def IsOpen (s : SessionHeap) (q : ObjectRef) : Prop :=
  q < s.objects.size ∧ (s.object q).isClosed = false

/-- An object, or one further down. -/
def Below (s : SessionHeap) : ObjectRef → ObjectRef → Prop :=
  Forest.Below fun q => (s.object q).parent.ref

/-- **Open objects are linked.** -/
structure Linked (s : SessionHeap) : Prop where
  lt_of_parent : ∀ q p, (s.object q).parent = .action p → p < q
  parent : ∀ q p, s.IsOpen q → (s.object q).parent = .action p → s.IsOpen p
  session : ∀ q, s.IsOpen q → s.reporting.session.isFinishingOrFinished = false
  /-- The children of an action or of the session are those of its objects that are open. -/
  mem_childrenOf : ∀ parent q, q ∈ s.childrenOf parent ↔ s.IsOpen q ∧ (s.object q).parent = parent
  nodup_childrenOf : ∀ parent, (s.childrenOf parent).Nodup

namespace Linked

theorem rank (h : Linked s) (q p : ObjectRef) (hup : (s.object q).parent.ref = some p) : p < q :=
  h.lt_of_parent q p (ObjectParent.ref_eq_some_iff.mp hup)

theorem le_of_below (h : Linked s) (hbelow : s.Below r q) : r ≤ q :=
  Forest.Below.rank_le id h.rank hbelow

/-- What is above an open object is open. -/
theorem isOpen_of_below (h : Linked s) (hbelow : s.Below r q) (hq : s.IsOpen q) : s.IsOpen r :=
  hbelow.induction_up hq fun q p hup hq => h.parent q p hq (ObjectParent.ref_eq_some_iff.mp hup)

/-- A closed object has no children. -/
theorem children_eq_nil (h : Linked s) (hq : ¬ s.IsOpen q) : (s.object q).children = [] := by
  rw [List.eq_nil_iff_forall_not_mem]
  intro c hc
  obtain ⟨hopen, hparent⟩ := (h.mem_childrenOf (.action q) c).mp hc
  exact hq (h.parent c q hopen hparent)

/-- Siblings have no descendants in common. -/
theorem eq_of_siblings (h : Linked s) (hr : (s.object r).parent = parent)
    (hc : (s.object c).parent = parent) (hbelow : s.Below r q) (hbelow' : s.Below c q) : r = c :=
  hbelow.eq_of_siblings id h.rank hbelow'
    (congrArg ObjectParent.ref (hr.trans hc.symm))

end Linked

/-! ## Trees of open objects -/

/-- In a list of objects, children stand before their parents. -/
def ChildrenFirst (s : SessionHeap) (refs : List ObjectRef) : Prop :=
  ∀ q p, q ∈ refs → p ∈ refs → (s.object q).parent = .action p → [q, p].Sublist refs

/-- **The tree** of the open objects at and below one. -/
structure Subtree (s : SessionHeap) (r : ObjectRef) (object : OpenKitObject) (refs : List ObjectRef) :
    Prop where
  represents : Represents s r object refs
  nodup : refs.Nodup
  mem_iff : ∀ q, q ∈ refs ↔ s.IsOpen q ∧ s.Below r q
  childrenFirst : s.ChildrenFirst refs

/-- **The trees** of some objects with the same parent. -/
structure Subforest (s : SessionHeap) (parent : ObjectParent) (children : List ObjectRef)
    (objects : List OpenKitObject) (refs : List ObjectRef) : Prop where
  represents : RepresentsAll s parent children objects refs
  nodup : refs.Nodup
  mem_iff : ∀ q, q ∈ refs ↔ s.IsOpen q ∧ ∃ c ∈ children, s.Below c q
  childrenFirst : s.ChildrenFirst refs

theorem subforest_nil : Subforest s parent [] [] [] :=
  ⟨.nil, List.nodup_nil, fun q => by simp, nofun⟩

/-- The trees of siblings make a forest. -/
theorem Subforest.cons {children refs refs' : List ObjectRef} {object : OpenKitObject}
    {objects : List OpenKitObject} (hlinked : Linked s) (hparent : (s.object r).parent = parent)
    (h : Subtree s r object refs) (hrest : Subforest s parent children objects refs')
    (hchildren : ∀ c ∈ children, (s.object c).parent = parent) (hr : r ∉ children) :
    Subforest s parent (r :: children) (object :: objects) (refs ++ refs') := by
  have hmem (q : ObjectRef) : q ∈ refs ++ refs' ↔ s.IsOpen q ∧ ∃ c ∈ r :: children, s.Below c q := by
    rw [List.mem_append, h.mem_iff, hrest.mem_iff, ← and_or_left]
    refine and_congr_right fun _ => ?_
    simp
  refine ⟨.cons hparent h.represents hrest.represents, ?_, hmem, ?_⟩
  · refine List.nodup_append.mpr ⟨h.nodup, hrest.nodup, ?_⟩
    rintro q hq q' hq' rfl
    obtain ⟨-, hbelow⟩ := (h.mem_iff q).mp hq
    obtain ⟨-, c, hc, hbelow'⟩ := (hrest.mem_iff q).mp hq'
    obtain rfl := hlinked.eq_of_siblings hparent (hchildren c hc) hbelow hbelow'
    exact hr hc
  · intro q p hq hp hup
    have hopen : s.IsOpen q := ((hmem q).mp hq).1
    have hchild : s.Below p q := .of_up (ObjectParent.ref_eq_some_iff.mpr hup)
    rcases List.mem_append.mp hp with hp | hp
    · obtain ⟨-, hbelow⟩ := (h.mem_iff p).mp hp
      have hq : q ∈ refs := (h.mem_iff q).mpr ⟨hopen, hbelow.trans hchild⟩
      exact (h.childrenFirst q p hq hp hup).trans (List.sublist_append_left _ _)
    · obtain ⟨-, c, hc, hbelow⟩ := (hrest.mem_iff p).mp hp
      have hq : q ∈ refs' := (hrest.mem_iff q).mpr ⟨hopen, c, hc, hbelow.trans hchild⟩
      exact (hrest.childrenFirst q p hq hp hup).trans (List.sublist_append_right _ _)

namespace Linked

/-- Trees of some siblings, if each has one. -/
theorem exists_subforest_of (h : Linked s) (children : List ObjectRef) (hnodup : children.Nodup)
    (hparent : ∀ c ∈ children, (s.object c).parent = parent)
    (htrees : ∀ c ∈ children, ∃ object refs, Subtree s c object refs) :
    ∃ objects refs, Subforest s parent children objects refs := by
  induction children with
  | nil => exact ⟨[], [], subforest_nil⟩
  | cons c children ih =>
    obtain ⟨hc, hnodup⟩ := List.nodup_cons.mp hnodup
    obtain ⟨hparentC, hparents⟩ := List.forall_mem_cons.mp hparent
    obtain ⟨htreeC, htrees⟩ := List.forall_mem_cons.mp htrees
    obtain ⟨object, refs, htree⟩ := htreeC
    obtain ⟨objects, refs', hforest⟩ := ih hnodup hparents htrees
    exact ⟨object :: objects, refs ++ refs', .cons h hparentC htree hforest hparents hc⟩

/-- The tree of an action, if there are those of its children. -/
theorem subtree_action (h : Linked s) {a : ActionCommon} {children refs : List ObjectRef}
    {objects : List OpenKitObject} (hr : s.IsOpen r)
    (hnode : s.object r = .action parent a false children)
    (hforest : Subforest s (.action r) children objects refs) :
    Subtree s r (.action a objects) (refs ++ [r]) := by
  have hchildren (c : ObjectRef) : c ∈ children ↔ s.IsOpen c ∧ (s.object c).parent = .action r := by
    have hmem := h.mem_childrenOf (.action r) c
    rwa [childrenOf, hnode] at hmem
  have hbelow (q : ObjectRef) (hq : q ∈ refs) : s.IsOpen q ∧ s.Below r q ∧ q ≠ r := by
    obtain ⟨hopen, c, hc, hbelow⟩ := (hforest.mem_iff q).mp hq
    have hup := ((hchildren c).mp hc).2
    refine ⟨hopen, .trans (.of_up (ObjectParent.ref_eq_some_iff.mpr hup)) hbelow, ?_⟩
    exact ((h.lt_of_parent c r hup).trans_le (h.le_of_below hbelow)).ne'
  refine ⟨.action hnode hforest.represents, ?_, fun q => ?_, ?_⟩
  · refine List.nodup_append.mpr ⟨hforest.nodup, List.nodup_singleton r, ?_⟩
    intro q hq q' hq'
    rw [List.mem_singleton.mp hq']
    exact (hbelow q hq).2.2
  · rw [List.mem_append, List.mem_singleton]
    constructor
    · rintro (hq | rfl)
      · exact ⟨(hbelow q hq).1, (hbelow q hq).2.1⟩
      · exact ⟨hr, .refl⟩
    · rintro ⟨hopen, hq⟩
      rcases hq.eq_or_exists_child with rfl | ⟨c, hup, hchild⟩
      · exact .inr rfl
      · have hc : c ∈ children := (hchildren c).mpr
          ⟨h.isOpen_of_below hchild hopen, ObjectParent.ref_eq_some_iff.mp hup⟩
        exact .inl ((hforest.mem_iff q).mpr ⟨hopen, c, hc, hchild⟩)
  · intro q p hq hp hup
    have hlt := h.lt_of_parent q p hup
    rcases List.mem_append.mp hp with hp | hp
    · -- the parent of `r` is not below it
      have hle := h.le_of_below (hbelow p hp).2.1
      have hq : q ∈ refs := by
        rcases List.mem_append.mp hq with hq | hq
        · exact hq
        · rw [List.mem_singleton.mp hq] at hlt
          exact absurd hle (not_le.mpr hlt)
      exact (hforest.childrenFirst q p hq hp hup).trans (List.sublist_append_left _ _)
    · rw [List.mem_singleton.mp hp] at hlt ⊢
      have hq : q ∈ refs := by
        rcases List.mem_append.mp hq with hq | hq
        · exact hq
        · rw [List.mem_singleton.mp hq] at hlt
          exact absurd hlt (lt_irrefl r)
      exact (List.singleton_sublist.mpr hq).append (List.Sublist.refl [r])

/-- **Every open object** is the root of a tree. -/
theorem exists_subtree (h : Linked s) (hr : s.IsOpen r) : ∃ object refs, Subtree s r object refs := by
  -- the induction goes up from the objects that were made last
  induction hn : s.objects.size - r using Nat.strong_induction_on generalizing r with
  | _ n ih =>
    cases hnode : s.object r with
    | action parent a isActionLeft children =>
      obtain rfl : isActionLeft = false := by
        have hclosed := hr.2
        rwa [hnode] at hclosed
      have hchildren : children = s.childrenOf (.action r) := by
        rw [childrenOf, hnode]
        rfl
      have hmem (c : ObjectRef) (hc : c ∈ children) :
          s.IsOpen c ∧ (s.object c).parent = .action r :=
        (h.mem_childrenOf (.action r) c).mp (hchildren ▸ hc)
      obtain ⟨objects, refs, hforest⟩ := h.exists_subforest_of children
        (hchildren ▸ h.nodup_childrenOf (.action r)) (fun c hc => (hmem c hc).2) fun c hc => by
          have hlt : s.objects.size - c < n :=
            hn ▸ Nat.sub_lt_sub_left hr.1 (h.lt_of_parent c r (hmem c hc).2)
          exact ih (s.objects.size - c) hlt (hmem c hc).1 rfl
      exact ⟨_, _, h.subtree_action hr hnode hforest⟩
    | webRequest parent tracer =>
      have hopen : tracer.isStopped = false := by
        have hclosed := hr.2
        rwa [hnode] at hclosed
      refine ⟨.webRequest tracer, [r], .webRequest hnode hopen, List.nodup_singleton r, fun q => ?_, ?_⟩
      · rw [List.mem_singleton]
        constructor
        · rintro rfl
          exact ⟨hr, .refl⟩
        · rintro ⟨hq, hbelow⟩
          rcases hbelow.eq_or_exists_child with rfl | ⟨c, hup, hchild⟩
          · rfl
          · -- a web request has no children
            have hc : c ∈ s.childrenOf (.action r) := (h.mem_childrenOf (.action r) c).mpr
              ⟨h.isOpen_of_below hchild hq, ObjectParent.ref_eq_some_iff.mp hup⟩
            rw [childrenOf, hnode] at hc
            cases hc
      · intro q p hq hp hup
        rw [List.mem_singleton.mp hq, List.mem_singleton.mp hp] at hup
        exact absurd (h.lt_of_parent r r hup) (lt_irrefl r)

/-- **The open objects** of the session are a forest. -/
theorem exists_subforest (h : Linked s) :
    ∃ objects refs, Subforest s .session s.children objects refs := by
  have hmem (c : ObjectRef) (hc : c ∈ s.children) : s.IsOpen c ∧ (s.object c).parent = .session :=
    (h.mem_childrenOf .session c).mp hc
  exact h.exists_subforest_of s.children (h.nodup_childrenOf .session) (fun c hc => (hmem c hc).2)
    fun c hc => h.exists_subtree (hmem c hc).1

/-- Every open object is in it. -/
theorem mem_subforest (h : Linked s) {objects : List OpenKitObject} {refs : List ObjectRef}
    (hforest : Subforest s .session s.children objects refs) : q ∈ refs ↔ s.IsOpen q := by
  rw [hforest.mem_iff]
  refine ⟨And.left, fun hq => ⟨hq, ?_⟩⟩
  obtain ⟨c, hroot, hbelow⟩ := Forest.Below.exists_root id h.rank q
  have hparent : (s.object c).parent = .session := by
    cases hc : (s.object c).parent with
    | session => rfl
    | action p =>
      rw [hc] at hroot
      cases hroot
  exact ⟨c, (h.mem_childrenOf .session c).mpr ⟨h.isOpen_of_below hbelow hq, hparent⟩, hbelow⟩

/-- A session without children has no open object. -/
theorem not_isOpen_of_children (h : Linked s) (hchildren : s.children = []) : ¬ s.IsOpen q := by
  have hforest : Subforest s .session s.children [] [] := by
    rw [hchildren]
    exact subforest_nil
  rw [← h.mem_subforest hforest]
  exact List.not_mem_nil

end Linked

/-- The objects of a tree have been made. -/
theorem length_le_size {refs : List ObjectRef} (hnodup : refs.Nodup)
    (hopen : ∀ q ∈ refs, s.IsOpen q) : refs.length ≤ s.objects.size := by
  have hsub : refs ⊆ List.range s.objects.size := fun q hq => List.mem_range.mpr (hopen q hq).1
  have hle := (List.subperm_of_subset hnodup hsub).length_le
  rwa [List.length_range] at hle

/-! ## After closing -/

/-- The lists of children after one of them was changed. -/
theorem childrenOf_mapChildrenOf {f : List ObjectRef → List ObjectRef}
    (hf : ∀ p, parent = .action p → (s.object p).isAction = false → f [] = [])
    (parent' : ObjectParent) : (s.mapChildrenOf f parent).childrenOf parent' =
      if parent' = parent then f (s.childrenOf parent') else s.childrenOf parent' := by
  cases parent' with
  | session =>
    rw [childrenOf, children_mapChildrenOf]
    cases parent with
    | session => rfl
    | action p => rfl
  | action p =>
    rw [childrenOf, object_mapChildrenOf]
    by_cases hp : parent = .action p
    · rw [if_pos hp, if_pos hp.symm, childrenOf]
      cases hnode : s.object p with
      | action parent a isActionLeft children => rfl
      | webRequest parent tracer =>
        have hnone : f [] = [] := hf p hp (by rw [hnode]; rfl)
        exact hnone.symm
    · rw [if_neg hp, if_neg (Ne.symm hp)]
      rfl

/-- Objects are closed, and the roots among them are taken from the list of their parent. -/
structure Detaches (parent : ObjectParent) (roots refs : List ObjectRef) (s t : SessionHeap) : Prop where
  closes : Closes refs (s.removeChildren parent roots) t
  /-- What is below them is among them. -/
  down : ∀ q p, s.IsOpen q → (s.object q).parent = .action p → p ∈ refs → q ∈ refs
  root : ∀ q ∈ refs, (∃ p ∈ refs, (s.object q).parent = .action p) ∨
    q ∈ roots ∧ (s.object q).parent = parent
  mem : ∀ q ∈ roots, q ∈ refs
  parent : ∀ p, parent = .action p → p ∉ refs

namespace Detaches

variable {roots refs : List ObjectRef}

theorem size (h : Detaches parent roots refs s t) : t.objects.size = s.objects.size := by
  rw [h.closes.size, removeChildren, size_mapChildrenOf]

theorem parent_eq (h : Detaches parent roots refs s t) (q : ObjectRef) :
    (t.object q).parent = (s.object q).parent := by
  rw [h.closes.parent, removeChildren, object_mapChildrenOf]
  split
  · exact ObjectNode.parent_mapChildren _ _
  · rfl

theorem isClosed_of_notMem (h : Detaches parent roots refs s t) (hq : q ∉ refs) :
    (t.object q).isClosed = (s.object q).isClosed := by
  rw [h.closes.object_of_notMem q hq, removeChildren, object_mapChildrenOf]
  split
  · exact ObjectNode.isClosed_mapChildren _ _
  · rfl

theorem isOpen_iff (h : Detaches parent roots refs s t) : t.IsOpen q ↔ s.IsOpen q ∧ q ∉ refs := by
  rw [IsOpen, IsOpen, h.size]
  by_cases hq : q ∈ refs
  · rw [h.closes.isClosed q hq]
    exact ⟨fun hopen => absurd hopen.2.symm Bool.false_ne_true, fun hopen => absurd hq hopen.2⟩
  · rw [h.isClosed_of_notMem hq]
    exact (and_iff_left hq).symm

theorem childrenOf_of_mem (h : Detaches parent roots refs s t) (hp : p ∈ refs) :
    t.childrenOf (.action p) = [] := h.closes.children_eq_nil p hp

theorem childrenOf_of_notMem (h : Detaches parent roots refs s t) {parent' : ObjectParent}
    (hparent : ∀ p, parent' = .action p → p ∉ refs) : t.childrenOf parent' =
      if parent' = parent then (s.childrenOf parent').filter (· ∉ roots)
      else s.childrenOf parent' := by
  have hsame : t.childrenOf parent' = (s.removeChildren parent roots).childrenOf parent' := by
    cases parent' with
    | session => exact h.closes.children
    | action p => exact congrArg ObjectNode.children (h.closes.object_of_notMem p (hparent p rfl))
  rw [hsame, removeChildren, childrenOf_mapChildrenOf fun _ _ _ => List.filter_nil]

/-- **The other objects stay linked.** -/
theorem linked (h : Detaches parent roots refs s t) (hlinked : Linked s)
    (hsession : ∀ q, t.IsOpen q → t.reporting.session.isFinishingOrFinished = false) : Linked t := by
  refine ⟨fun q p hup => ?_, fun q p hq hup => ?_, hsession, fun parent' q => ?_, fun parent' => ?_⟩
  · rw [h.parent_eq] at hup
    exact hlinked.lt_of_parent q p hup
  · rw [h.parent_eq] at hup
    obtain ⟨hopen, hmem⟩ := h.isOpen_iff.mp hq
    exact h.isOpen_iff.mpr ⟨hlinked.parent q p hopen hup, fun hp => hmem (h.down q p hopen hup hp)⟩
  · rw [h.isOpen_iff, h.parent_eq]
    by_cases hin : ∃ p ∈ refs, parent' = .action p
    · obtain ⟨p, hp, rfl⟩ := hin
      rw [h.childrenOf_of_mem hp]
      refine iff_of_false List.not_mem_nil ?_
      rintro ⟨⟨hopen, hmem⟩, hup⟩
      exact hmem (h.down q p hopen hup hp)
    · have hout (p : ObjectRef) (hp : parent' = .action p) : p ∉ refs := fun hmem => hin ⟨p, hmem, hp⟩
      -- of the objects with this parent, the roots are among those closed only
      have hroot (hup : (s.object q).parent = parent') :
          q ∈ refs ↔ parent' = parent ∧ q ∈ roots := by
        constructor
        · intro hq
          rcases h.root q hq with ⟨p, hp, hup'⟩ | ⟨hroots, hup'⟩
          · exact absurd hp (hout p (hup.symm.trans hup'))
          · exact ⟨hup.symm.trans hup', hroots⟩
        · rintro ⟨-, hroots⟩
          exact h.mem q hroots
      rw [h.childrenOf_of_notMem hout]
      split
      next hparent =>
        rw [List.mem_filter, hlinked.mem_childrenOf, decide_eq_true_iff]
        constructor
        · rintro ⟨⟨hopen, hup⟩, hroots⟩
          exact ⟨⟨hopen, fun hq => hroots ((hroot hup).mp hq).2⟩, hup⟩
        · rintro ⟨⟨hopen, hq⟩, hup⟩
          exact ⟨⟨hopen, hup⟩, fun hroots => hq ((hroot hup).mpr ⟨hparent, hroots⟩)⟩
      next hparent =>
        rw [hlinked.mem_childrenOf]
        constructor
        · rintro ⟨hopen, hup⟩
          exact ⟨⟨hopen, fun hq => hparent ((hroot hup).mp hq).1⟩, hup⟩
        · rintro ⟨⟨hopen, -⟩, hup⟩
          exact ⟨hopen, hup⟩
  · by_cases hin : ∃ p ∈ refs, parent' = .action p
    · obtain ⟨p, hp, rfl⟩ := hin
      rw [h.childrenOf_of_mem hp]
      exact List.nodup_nil
    · rw [h.childrenOf_of_notMem fun p hp hmem => hin ⟨p, hmem, hp⟩]
      split
      · exact (hlinked.nodup_childrenOf parent').filter _
      · exact hlinked.nodup_childrenOf parent'

end Detaches

/-- A tree is taken from its parent. -/
theorem Subtree.detaches {object : OpenKitObject} {refs : List ObjectRef}
    (h : Subtree s r object refs) (hlinked : Linked s) (hclosed : Closes refs s u) :
    Detaches (s.object r).parent [r] refs s (u.removeChild (s.object r).parent r) := by
  have hparent (p : ObjectRef) (hp : (s.object r).parent = .action p) : p ∉ refs := by
    intro hmem
    exact absurd (hlinked.le_of_below ((h.mem_iff p).mp hmem).2)
      (not_le.mpr (hlinked.lt_of_parent r p hp))
  have hroots : s.removeChild (s.object r).parent r = s.removeChildren (s.object r).parent [r] := by
    rw [← removeChildren_removeChild, removeChildren_nil]
  refine ⟨hroots ▸ hclosed.mapChildrenOf hparent _, fun q p hq hup hp => ?_, fun q hq => ?_, ?_, hparent⟩
  · refine (h.mem_iff q).mpr ⟨hq, ((h.mem_iff p).mp hp).2.trans (.of_up ?_)⟩
    exact ObjectParent.ref_eq_some_iff.mpr hup
  · obtain ⟨hopen, hbelow⟩ := (h.mem_iff q).mp hq
    cases hbelow with
    | refl => exact .inr ⟨List.mem_singleton.mpr rfl, rfl⟩
    | @child p _ hbelow hup =>
      have hup' := ObjectParent.ref_eq_some_iff.mp hup
      exact .inl ⟨p, (h.mem_iff p).mpr ⟨hlinked.parent q p hopen hup', hbelow⟩, hup'⟩
  · exact List.forall_mem_singleton.mpr h.represents.mem

/-- All trees are taken from the session. -/
theorem Subforest.detaches {objects : List OpenKitObject} {refs : List ObjectRef}
    (h : Subforest s .session s.children objects refs) (hlinked : Linked s)
    (hclosed : Closes refs (s.removeChildren .session s.children) t) :
    Detaches .session s.children refs s t := by
  refine ⟨hclosed, fun q p hq _ _ => (hlinked.mem_subforest h).mpr hq, fun q hq => ?_, fun q hq => ?_,
    nofun⟩
  · have hopen := (hlinked.mem_subforest h).mp hq
    cases hup : (s.object q).parent with
    | session => exact .inr ⟨(hlinked.mem_childrenOf .session q).mpr ⟨hopen, hup⟩, rfl⟩
    | action p =>
      exact .inl ⟨p, (hlinked.mem_subforest h).mpr (hlinked.parent q p hopen hup), rfl⟩
  · exact (hlinked.mem_subforest h).mpr ((hlinked.mem_childrenOf .session q).mp hq).1

end SessionHeap

end OpenKit
