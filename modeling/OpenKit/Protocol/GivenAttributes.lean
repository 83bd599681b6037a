import OpenKit.Library.Fallible
import OpenKit.Protocol.ResponseAttributes

/-!
# The attributes that a response gives

The parsers of responses go over the attributes one after the other, and give the builder those they find.
What a response gives is a value for some of the attributes, and the steps of a parser, one after the
other, take over what each of them gives.

## Main definitions

* `GivenAttributes`: the values that are given
* `ResponseAttributes.Takes`: the given values are taken over, and nothing else

## Main results

* `ends_takes_foldlM`: some steps in a row
-/

namespace OpenKit

open Fallible ResponseAttributes

/-- The values that are given. -/
abbrev GivenAttributes : Type := ResponseAttribute → Option AttributeValue

namespace GivenAttributes

/-- Nothing is given. -/
def nothing : GivenAttributes := fun _ => none

/-- One attribute is given, if it is there. -/
def only (attr : ResponseAttribute) (value : Option AttributeValue) : GivenAttributes :=
  fun k => if k = attr then value else none

/-- What is given later counts. -/
def later (given given' : GivenAttributes) : GivenAttributes := fun k => (given' k).or (given k)

/-- What some steps give, one after the other. -/
def all : List GivenAttributes → GivenAttributes
  | [] => nothing
  | given :: gs => later given (all gs)

end GivenAttributes

open GivenAttributes

namespace ResponseAttributes

variable {a b c : ResponseAttributes} {given given' : GivenAttributes}

/-- The given values are taken over and set, and nothing else is. -/
def Takes (given : GivenAttributes) (builder result : ResponseAttributes) : Prop :=
  ∀ k, result.value k = (given k).getD (builder.value k) ∧
    result.isAttributeSet k = (builder.isAttributeSet k || (given k).isSome)

theorem takes_nothing (a : ResponseAttributes) : Takes nothing a a :=
  fun _ => ⟨rfl, (Bool.or_false _).symm⟩

theorem takes_only_none (attr : ResponseAttribute) (a : ResponseAttributes) :
    Takes (only attr none) a a := by
  have hnothing : only attr none = nothing := funext fun _ => ite_self _
  rw [hnothing]
  exact takes_nothing a

theorem Takes.trans (h : Takes given a b) (h' : Takes given' b c) : Takes (later given given') a c := by
  intro k
  obtain ⟨hvalue, hset⟩ := h k
  obtain ⟨hvalue', hset'⟩ := h' k
  rw [hvalue', hset', hvalue, hset, later]
  cases given' k with
  | none => simp
  | some v => simp

/-- What is given is set. -/
theorem Takes.of_given {k : ResponseAttribute} {v : AttributeValue} (h : Takes given a b)
    (hgiven : given k = some v) : b.value k = v ∧ b.isAttributeSet k = true := by
  obtain ⟨hvalue, hset⟩ := h k
  rw [hgiven] at hvalue hset
  exact ⟨hvalue, hset.trans (Bool.or_true _)⟩

/-- What is set, and was not, is given. -/
theorem Takes.given_of_set {k : ResponseAttribute} (h : Takes given a b) (ha : a.isAttributeSet k = false)
    (hb : b.isAttributeSet k = true) : given k = some (b.value k) := by
  obtain ⟨hvalue, hset⟩ := h k
  rw [ha, hb, Bool.false_or] at hset
  obtain ⟨v, hv⟩ := Option.isSome_iff_exists.mp hset.symm
  rw [hv] at hvalue
  rw [hv, hvalue]
  rfl

/-- A builder function gives one attribute. -/
theorem takes_only {attr : ResponseAttribute} {v : AttributeValue}
    (h : ∀ k, b.value k = if k = attr then v else a.value k)
    (hset : ∀ k, b.isAttributeSet k = (a.isAttributeSet k || k == attr)) :
    Takes (only attr (some v)) a b := by
  intro k
  rw [h k, hset k, only]
  by_cases hk : k = attr
  · simp [hk]
  · simp [hk]

end ResponseAttributes

/-- **Steps in a row** give what they find one after the other, or raise an exception. -/
theorem ends_takes_foldlM {ε σ : Type} {E : ε → Prop}
    {run : ResponseAttributes → σ → Except ε ResponseAttributes} {steps : List σ}
    {gs : List GivenAttributes}
    (h : List.Forall₂ (fun step given => ∀ b, Ends (Takes given b) E (run b step)) steps gs) :
    ∀ b, Ends (Takes (all gs) b) E (steps.foldlM run b) := by
  induction h with
  | nil => exact takes_nothing
  | cons hstep _ ih =>
    intro b
    rw [List.foldlM_cons]
    refine Ends.bind ((hstep b).mono (fun c hc => ?_) fun _ he => he)
    exact (ih c).mono (fun d hd => hc.trans hd) fun _ he => he

end OpenKit
