import OpenKit.Library.Program

/-!
# Rely-guarantee reasoning about a thread's program

`Program.Sat R I p Q s` says that in every run of `p` from `s` among threads that step by `R`,
the invariant `I` holds at every point, and `Q` holds of the result whenever `p` returns. The
rules below prove it action by action. Assertions between the actions have to be stable under
the steps of the other threads. What all actions of a program do alike is its guarantee, which
keeps an invariant without a look at the order of the actions.

## Main definitions

* `Stable R P`: the steps `R` keep `P`
* `Program.Sat R I p Q s`: `I` along every run of `p` from `s`, and `Q` at its end
* `Program.Guarantees G p`: every action of `p` steps by `G`

## Main results

* `Program.Sat.invariant`, `Program.Sat.post`: what `Sat` says about the reached states
* `Program.Sat.run_ok`: what `Sat` says about the run alone
* `Program.Sat.bind`, `Program.Sat.mono`, `Program.Sat.and`: sequencing, weakening of the
  postcondition, and conjunction
* `Program.sat_ret`, `Program.sat_atomic`: the rules for results and actions
* `Program.Guarantees.sat`, `Program.Sat.frame`: an invariant that both the program and the others
  keep, alone and next to what is proved action by action
-/

namespace Thread

variable {ε σ α β : Type}

/-- The steps `R` keep the assertion `P`. -/
def Stable (R : σ → σ → Prop) (P : σ → Prop) : Prop :=
  ∀ s s', R s s' → P s → P s'

theorem Stable.star {R : σ → σ → Prop} {P : σ → Prop} (h : Stable R P) {s s' : σ}
    (hs : Relation.ReflTransGen R s s') (hp : P s) : P s' := by
  induction hs with
  | refl => exact hp
  | tail _ hr ih => exact h _ _ hr ih

theorem Stable.const {R : σ → σ → Prop} (p : Prop) : Stable R fun _ => p :=
  fun _ _ _ h => h

theorem Stable.and {R : σ → σ → Prop} {P Q : σ → Prop} (hp : Stable R P) (hq : Stable R Q) :
    Stable R fun s => P s ∧ Q s :=
  fun s s' hr h => ⟨hp s s' hr h.1, hq s s' hr h.2⟩

namespace Program

/-- `I` holds at every point of every run of `p` from `s` among threads stepping by `R`, and `Q`
holds of the result when `p` returns, then and after any further steps of the others. -/
def Sat (R : σ → σ → Prop) (I : σ → Prop) :
    Program ε σ α → (α → σ → Prop) → σ → Prop
  | ret a, Q, s => ∀ s', Relation.ReflTransGen R s s' → I s' ∧ Q a s'
  | fail _, _, s => ∀ s', Relation.ReflTransGen R s s' → I s'
  | act f k, Q, s => ∀ s', Relation.ReflTransGen R s s' → I s' ∧ Sat R I (k s') Q (f s')

variable {R : σ → σ → Prop} {I : σ → Prop}

/-- Steps of the other threads keep what a program satisfies. -/
theorem Sat.env {p : Program ε σ α} {Q : α → σ → Prop} {s s' : σ} (h : Sat R I p Q s)
    (hs : Relation.ReflTransGen R s s') : Sat R I p Q s' := by
  cases p with
  | ret a => exact fun t ht => h t (hs.trans ht)
  | fail e => exact fun t ht => h t (hs.trans ht)
  | act f k => exact fun t ht => h t (hs.trans ht)

theorem Sat.here {p : Program ε σ α} {Q : α → σ → Prop} {s : σ} (h : Sat R I p Q s) : I s := by
  cases p with
  | ret a => exact (h s .refl).1
  | fail e => exact h s .refl
  | act f k => exact (h s .refl).1

/-- `Sat` moves along the steps of the whole. -/
theorem Sat.reaches {p p' : Program ε σ α} {Q : α → σ → Prop} {s s' : σ} (h : Sat R I p Q s)
    (hr : Reaches R (p, s) (p', s')) : Sat R I p' Q s' := by
  generalize hc : (p, s) = c at hr
  generalize hc' : (p', s') = c' at hr
  induction hr generalizing p' s' with
  | refl =>
    obtain ⟨rfl, rfl⟩ := Prod.mk.inj (hc.trans hc'.symm)
    exact h
  | @tail d e _ hstep ih =>
    obtain ⟨q, t⟩ := d
    have hd : Sat R I q Q t := ih rfl
    subst hc'
    cases hstep with
    | own f k _ => exact (hd t .refl).2
    | other _ hR => exact hd.env (.single hR)

/-- **The invariant** holds in every state an interleaved run reaches. -/
theorem Sat.invariant {p p' : Program ε σ α} {Q : α → σ → Prop} {s s' : σ}
    (h : Sat R I p Q s) (hr : Reaches R (p, s) (p', s')) : I s' :=
  (h.reaches hr).here

/-- **The postcondition** holds whenever an interleaved run has returned. -/
theorem Sat.post {p : Program ε σ α} {Q : α → σ → Prop} {s s' : σ} {a : α}
    (h : Sat R I p Q s) (hr : Reaches R (p, s) (ret a, s')) : Q a s' :=
  (h.reaches hr s' .refl).2

theorem Sat.mono {p : Program ε σ α} {Q Q' : α → σ → Prop} {s : σ} (h : Sat R I p Q s)
    (hQ : ∀ a s, I s → Q a s → Q' a s) : Sat R I p Q' s := by
  induction p generalizing s with
  | ret a => exact fun s' hs => ⟨(h s' hs).1, hQ a s' (h s' hs).1 (h s' hs).2⟩
  | fail e => exact h
  | act f k ih => exact fun s' hs => ⟨(h s' hs).1, ih s' (h s' hs).2⟩

theorem Sat.weaken {I' : σ → Prop} {p : Program ε σ α} {Q : α → σ → Prop} {s : σ}
    (h : Sat R I p Q s) (hI : ∀ s, I s → I' s) : Sat R I' p Q s := by
  induction p generalizing s with
  | ret a => exact fun s' hs => ⟨hI s' (h s' hs).1, (h s' hs).2⟩
  | fail e => exact fun s' hs => hI s' (h s' hs)
  | act f k ih => exact fun s' hs => ⟨hI s' (h s' hs).1, ih s' (h s' hs).2⟩

/-- Sequencing: the second part starts where the first returned. -/
theorem Sat.bind {p : Program ε σ α} {g : α → Program ε σ β} {Q : β → σ → Prop} {s : σ}
    (h : Sat R I p (fun a t => Sat R I (g a) Q t) s) : Sat R I (p >>= g) Q s := by
  induction p generalizing s with
  | ret a => exact (h s .refl).2
  | fail e => exact h
  | act f k ih => exact fun s' hs => ⟨(h s' hs).1, ih s' (h s' hs).2⟩

/-- A sequence through a middle assertion. -/
theorem Sat.seq {p : Program ε σ α} {g : α → Program ε σ β} {M : α → σ → Prop}
    {Q : β → σ → Prop} {s : σ} (h : Sat R I p M s)
    (hg : ∀ a t, I t → M a t → Sat R I (g a) Q t) : Sat R I (p >>= g) Q s :=
  (h.mono hg).bind

/-- Two specifications of one program hold together. -/
theorem Sat.and {p : Program ε σ α} {I' : σ → Prop} {Q Q' : α → σ → Prop} {s : σ}
    (h : Sat R I p Q s) (h' : Sat R I' p Q' s) :
    Sat R (fun t => I t ∧ I' t) p (fun a t => Q a t ∧ Q' a t) s := by
  induction p generalizing s with
  | ret a => exact fun t ht => ⟨⟨(h t ht).1, (h' t ht).1⟩, (h t ht).2, (h' t ht).2⟩
  | fail e => exact fun t ht => ⟨h t ht, h' t ht⟩
  | act f k ih =>
    exact fun t ht => ⟨⟨(h t ht).1, (h' t ht).1⟩, ih t (h t ht).2 (h' t ht).2⟩

/-- The program run alone is one of its runs. -/
theorem Sat.run_ok {p : Program ε σ α} {Q : α → σ → Prop} {s t : σ} {a : α}
    (h : Sat R I p Q s) (hrun : p.run s = (.ok a, t)) : I t ∧ Q a t :=
  ⟨h.invariant (reaches_of_run hrun), h.post (reaches_of_run hrun)⟩

theorem sat_ret {a : α} {Q : α → σ → Prop} {s : σ} (hI : Stable R I) (hQ : Stable R (Q a))
    (hi : I s) (hq : Q a s) : Sat R I (ret a : Program ε σ α) Q s :=
  fun _ hs => ⟨hI.star hs hi, hQ.star hs hq⟩

theorem sat_fail {e : ε} {Q : α → σ → Prop} {s : σ} (hI : Stable R I) (hi : I s) :
    Sat R I (fail e : Program ε σ α) Q s :=
  fun _ hs => hI.star hs hi

/-- One action from a stable assertion `P` to stable assertions `Q`. -/
theorem sat_atomic {f : σ → α × σ} {P : σ → Prop} {Q : α → σ → Prop} {s : σ}
    (hI : Stable R I) (hP : Stable R P) (hQ : ∀ a, Stable R (Q a))
    (hstep : ∀ t, I t → P t → I (f t).2 ∧ Q (f t).1 (f t).2) (hi : I s) (hp : P s) :
    Sat R I (atomic f : Program ε σ α) Q s := by
  intro t ht
  have hit := hI.star ht hi
  obtain ⟨hi', hq'⟩ := hstep t hit (hP.star ht hp)
  exact ⟨hit, sat_ret hI (hQ _) hi' hq'⟩

/-- One read: the state stays, and the value read is known to have been its value then. -/
theorem sat_read {f : σ → α} {P : σ → Prop} {Q : α → σ → Prop} {s : σ}
    (hI : Stable R I) (hP : Stable R P) (hQ : ∀ a, Stable R (Q a))
    (hstep : ∀ t, I t → P t → Q (f t) t) (hi : I s) (hp : P s) :
    Sat R I (read f : Program ε σ α) Q s :=
  sat_atomic hI hP hQ (fun t hit hpt => ⟨hit, hstep t hit hpt⟩) hi hp

/-- One update. -/
theorem sat_write {f : σ → σ} {P : σ → Prop} {Q : Unit → σ → Prop} {s : σ}
    (hI : Stable R I) (hP : Stable R P) (hQ : ∀ a, Stable R (Q a))
    (hstep : ∀ t, I t → P t → I (f t) ∧ Q () (f t)) (hi : I s) (hp : P s) :
    Sat R I (write f : Program ε σ Unit) Q s :=
  sat_atomic hI hP hQ hstep hi hp

/-! ## Guarantees -/

/-- Every action of the program is a step of `G`, in whatever state it is performed. -/
def Guarantees (G : σ → σ → Prop) : Program ε σ α → Prop
  | ret _ => True
  | fail _ => True
  | act f k => ∀ s, G s (f s) ∧ Guarantees G (k s)

variable {G : σ → σ → Prop}

theorem guarantees_atomic {f : σ → α × σ} (h : ∀ s, G s (f s).2) :
    Guarantees G (atomic f : Program ε σ α) :=
  fun s => ⟨h s, trivial⟩

theorem Guarantees.bind {p : Program ε σ α} {g : α → Program ε σ β} (hp : Guarantees G p)
    (hg : ∀ a, Guarantees G (g a)) : Guarantees G (p >>= g) := by
  induction p with
  | ret a => exact hg a
  | fail e => trivial
  | act f k ih => exact fun s => ⟨(hp s).1, ih s (hp s).2⟩

/-- A loop over a list that carries something along. -/
theorem guarantees_foldlM {f : β → α → Program ε σ β} (h : ∀ b a, Guarantees G (f b a))
    (as : List α) (b : β) : Guarantees G (as.foldlM f b) := by
  induction as generalizing b with
  | nil => trivial
  | cons a as ih => exact (h b a).bind ih

theorem guarantees_forM {f : α → Program ε σ Unit} (h : ∀ a, Guarantees G (f a)) (as : List α) :
    Guarantees G (as.forM f) := by
  induction as with
  | nil => trivial
  | cons a as ih => exact (h a).bind fun _ => ih

theorem Guarantees.mono {G' : σ → σ → Prop} {p : Program ε σ α} (hp : Guarantees G p)
    (h : ∀ s s', G s s' → G' s s') : Guarantees G' p := by
  induction p with
  | ret a => trivial
  | fail e => trivial
  | act f k ih => exact fun s => ⟨h _ _ (hp s).1, ih s (hp s).2⟩

/-- The program run alone steps by a guarantee that is reflexive and transitive. -/
theorem Guarantees.run {p : Program ε σ α} {s t : σ} {x : Except ε α} (hp : Guarantees G p)
    (hrefl : ∀ s, G s s) (htrans : ∀ s t u, G s t → G t u → G s u) (h : p.run s = (x, t)) :
    G s t := by
  induction p generalizing s with
  | ret a =>
    obtain ⟨-, rfl⟩ := Prod.mk.inj h
    exact hrefl s
  | fail e =>
    obtain ⟨-, rfl⟩ := Prod.mk.inj h
    exact hrefl s
  | act f k ih => exact htrans _ _ _ (hp s).1 (ih s (hp s).2 h)

/-- **An invariant of both sides**: what the steps of the program and those of the others keep
holds at every point. -/
theorem Guarantees.sat {p : Program ε σ α} {s : σ} (hp : Guarantees G p) (hR : Stable R I)
    (hG : Stable G I) (hi : I s) : Sat R I p (fun _ _ => True) s := by
  induction p generalizing s with
  | ret a => exact fun t ht => ⟨hR.star ht hi, trivial⟩
  | fail e => exact fun t ht => hR.star ht hi
  | act f k ih =>
    intro t ht
    have hit := hR.star ht hi
    exact ⟨hit, ih t (hp t).2 (hG _ _ (hp t).1 hit)⟩

/-- Nothing is asked of a program that keeps nothing. -/
theorem sat_trivial (p : Program ε σ α) (s : σ) :
    Sat R (fun _ => True) p (fun _ _ => True) s := by
  induction p generalizing s with
  | ret a => exact fun _ _ => ⟨trivial, trivial⟩
  | fail e => exact fun _ _ => trivial
  | act f k ih => exact fun t _ => ⟨trivial, ih t (f t)⟩

/-- What both sides keep holds at every point, and when the program returns. -/
theorem Guarantees.sat_post {P : σ → Prop} {p : Program ε σ α} {s : σ} (hp : Guarantees G p)
    (hR : Stable R P) (hG : Stable G P) (hI : ∀ s, P s → I s) (hs : P s) :
    Sat R I p (fun _ => P) s :=
  ((hp.sat hR hG hs).mono fun _ _ hi _ => hi).weaken hI

/-- **Frame rule**: what the program guarantees and the others keep can be added. -/
theorem Sat.frame {P : σ → Prop} {p : Program ε σ α} {Q : α → σ → Prop} {s : σ}
    (h : Sat R I p Q s) (hp : Guarantees G p) (hR : Stable R P) (hG : Stable G P) (hs : P s) :
    Sat R I p (fun a t => Q a t ∧ P t) s := by
  have hand := h.and (hp.sat hR hG hs)
  exact (hand.mono fun _ _ hi hq => ⟨hq.1, hi.2⟩).weaken fun _ => And.left

end Program

end Thread
