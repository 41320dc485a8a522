import Mathlib.Logic.Basic

/-!
# Systems that take steps

A system whose actions come from outside is a partial function: where an action
leads, if it can be taken.  `Along` says that every step of a run has a property
of the state before it, the action and the state after it; `Along.invariant` is
the induction rule, in which an assumption about every step of the run is turned
into a conclusion about every step, by an invariant.
-/

namespace Interleave

variable {S A : Type} {step : A → S → Option S}

/-- The state after the actions, if each of them can be taken. -/
def steps (step : A → S → Option S) : List A → S → Option S
  | [], s => some s
  | a :: as, s => (step a s).bind (steps step as)

/-- Every step of the run satisfies `P`. -/
def Along (step : A → S → Option S) (P : S → A → S → Prop) : List A → S → Prop
  | [], _ => True
  | a :: as, s => ∀ s', step a s = some s' → P s a s' ∧ Along step P as s'

/-- A run can be checked step by step. -/
instance Along.decidable {P : S → A → S → Prop} [∀ s a s', Decidable (P s a s')] :
    (as : List A) → (s : S) → Decidable (Along step P as s)
  | [], _ => isTrue trivial
  | a :: as, s =>
      match hstep : step a s with
      | none => isTrue fun s' hs' => by
          rw [hstep] at hs'
          cases hs'
      | some s₁ =>
          have : Decidable (Along step P as s₁) := Along.decidable as s₁
          decidable_of_iff (P s a s₁ ∧ Along step P as s₁)
            ⟨fun h s' hs' => Option.some.inj (hstep.symm.trans hs') ▸ h, fun h => h s₁ hstep⟩

/-- **The induction rule.**  What every step is assumed to satisfy gives, with an
invariant, what every step satisfies. -/
theorem Along.invariant {I : S → Prop} {P Q : S → A → S → Prop}
    (h : ∀ s a s', I s → step a s = some s' → P s a s' → I s' ∧ Q s a s') {as : List A} {s : S}
    (hs : I s) (hP : Along step P as s) : Along step Q as s := by
  induction as generalizing s with
  | nil => trivial
  | cons a as ih =>
      intro s' hstep
      obtain ⟨hfirst, hrest⟩ := hP s' hstep
      obtain ⟨hs', hQ⟩ := h s a s' hs hstep hfirst
      exact ⟨hQ, ih hs' hrest⟩

/-- What every step keeps is true in the end. -/
theorem steps_invariant {I : S → Prop} (h : ∀ s a s', I s → step a s = some s' → I s')
    {as : List A} {s s' : S} (hs : I s) (hrun : steps step as s = some s') : I s' := by
  induction as generalizing s with
  | nil =>
      cases hrun
      exact hs
  | cons a as ih =>
      obtain ⟨s₁, hstep, hrest⟩ := Option.bind_eq_some_iff.mp hrun
      exact ih (h s a s₁ hs hstep) hrest

end Interleave
