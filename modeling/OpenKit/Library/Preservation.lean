import OpenKit.Library.Loop

/-!
# What a part of a program brings back

Between the larger parts of a program an assertion holds that its single actions may break. A part
preserves it if it brings the assertion back whenever it returns, and keeps the invariant at every
point between. Parts that do so are put together to longer ones, whatever they return.

## Main definitions

* `Program.Preserves R I J p`: among threads that step by `R`, the invariant `I` holds at every point
  of `p`, and `J` is brought back

## Main results

* `Program.Preserves.bind`, `Program.preserves_forEach`: sequences and loops over a list
* `Program.Guarantees.preserves`: programs each of whose actions keeps both assertions
-/

namespace Thread

namespace Program

variable {ε σ α β γ : Type} {R R' : σ → σ → Prop} {I J : σ → Prop}

/-- From wherever `I` and `J` hold, `I` holds at every point of every run of `p` among threads that
step by `R`, and `J` when it returns. -/
def Preserves (R : σ → σ → Prop) (I J : σ → Prop) (p : Program ε σ α) : Prop :=
  ∀ s, I s → J s → Sat R I p (fun _ => J) s

/-- Other threads that do less keep what a program satisfies. -/
theorem Sat.rely {p : Program ε σ α} {Q : α → σ → Prop} {s : σ} (h : Sat R I p Q s)
    (hR : ∀ s s', R' s s' → R s s') : Sat R' I p Q s := by
  have hsteps {s s' : σ} (hs : Relation.ReflTransGen R' s s') : Relation.ReflTransGen R s s' :=
    Relation.ReflTransGen.mono hR _ _ hs
  induction p generalizing s with
  | ret a => exact fun s' hs => h s' (hsteps hs)
  | fail e => exact fun s' hs => h s' (hsteps hs)
  | act f k ih =>
    intro s' hs
    obtain ⟨hi, hrest⟩ := h s' (hsteps hs)
    exact ⟨hi, ih s' hrest⟩

theorem preserves_ret (hI : Stable R I) (hJ : Stable R J) (a : α) :
    Preserves R I J (ret a : Program ε σ α) :=
  fun _ hi hj => sat_ret hI hJ hi hj

/-- A sequence brings back what both its parts bring back. -/
theorem Preserves.bind {p : Program ε σ α} {g : α → Program ε σ β} (hp : Preserves R I J p)
    (hg : ∀ a, Preserves R I J (g a)) : Preserves R I J (p >>= g) :=
  fun s hi hj => (hp s hi hj).seq fun a t hi hj => hg a t hi hj

/-- The program run alone brings it back as well. -/
theorem Preserves.run_ok {p : Program ε σ α} (hp : Preserves R I J p) {s t : σ} {a : α}
    (hi : I s) (hj : J s) (h : p.run s = (.ok a, t)) : I t ∧ J t :=
  (hp s hi hj).run_ok h

/-- **A loop over a list** brings back what its body brings back. -/
theorem preserves_forEach {body : γ → α → Program ε σ (ForInStep α)} (hI : Stable R I)
    (hJ : Stable R J) (h : ∀ c a, Preserves R I J (body c a)) (cs : List γ) (a : α) :
    Preserves R I J (forEach body cs a) := by
  induction cs generalizing a with
  | nil => exact preserves_ret hI hJ _
  | cons c cs ih =>
    refine (h c a).bind fun r => ?_
    cases r with
    | yield a' => exact ih a'
    | done a' => exact preserves_ret hI hJ _

/-- **Actions that keep both** preserve them, in whatever order they come. -/
theorem Guarantees.preserves {G : σ → σ → Prop} {p : Program ε σ α} (hp : Guarantees G p)
    (hI : Stable R I) (hJ : Stable R J) (hG : ∀ s s', G s s' → I s → J s → I s' ∧ J s') :
    Preserves R I J p := by
  have hboth : Stable G fun s => I s ∧ J s := fun s s' hstep h => hG s s' hstep h.1 h.2
  intro s hi hj
  exact (hp.sat_post (hI.and hJ) hboth (fun _ => And.left) ⟨hi, hj⟩).mono fun _ _ _ => And.right

end Program

end Thread
