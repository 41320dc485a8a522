import AsterYggdrasil.Interleave.Program
import Mathlib.Data.List.Induction

/-!
# Calls one after the other

A sequence of calls, each run to its end before the next one starts.  `Guarded`
restricts a sequence to the calls that satisfy a condition in the state in
which they start, and `serve_induct` is the induction rule: what one call
preserves, with the calls made so far in view, a whole sequence preserves.
-/

namespace Interleave

open Prog

variable {S : Signature} {ε C R : Type} (M : Machine S) (body : C → Prog S ε R)

/-- The state in which a call leaves the machine. -/
def after (s : M.State) (call : C) : M.State := ((body call).run M s).2

/-- The state after a sequence of calls. -/
def serve (s : M.State) (calls : List C) : M.State := calls.foldl (after M body) s

/-- Every call satisfies the condition in the state in which it starts. -/
def Guarded (G : M.State → C → Prop) : M.State → List C → Prop
  | _, [] => True
  | s, call :: calls => G s call ∧ Guarded G (after M body s call) calls

variable {M body}

@[simp] theorem serve_nil (s : M.State) : serve M body s [] = s := rfl

@[simp] theorem serve_append (s : M.State) (xs ys : List C) :
    serve M body s (xs ++ ys) = serve M body (serve M body s xs) ys := by
  simp [serve]

@[simp] theorem serve_singleton (s : M.State) (call : C) :
    serve M body s [call] = after M body s call := rfl

theorem guarded_append {G : M.State → C → Prop} {s : M.State} {xs ys : List C} :
    Guarded M body G s (xs ++ ys) ↔
      Guarded M body G s xs ∧ Guarded M body G (serve M body s xs) ys := by
  induction xs generalizing s with
  | nil => simp [Guarded]
  | cons x xs ih =>
      simp only [List.cons_append, Guarded, ih, and_assoc]
      rfl

theorem guarded_of_forall {G : M.State → C → Prop} (h : ∀ s call, G s call)
    (s : M.State) (calls : List C) : Guarded M body G s calls := by
  induction calls generalizing s with
  | nil => trivial
  | cons call calls ih => exact ⟨h s call, ih _⟩

/-- **Induction over a sequence of calls**, the calls made so far in view. -/
theorem serve_induct {G : M.State → C → Prop} {P : List C → M.State → Prop}
    {s₀ : M.State} (hstart : P [] s₀)
    (hstep : ∀ done call, P done (serve M body s₀ done) →
      G (serve M body s₀ done) call →
      P (done ++ [call]) (after M body (serve M body s₀ done) call))
    {calls : List C} (hG : Guarded M body G s₀ calls) :
    P calls (serve M body s₀ calls) := by
  induction calls using List.reverseRecOn with
  | nil => exact hstart
  | append_singleton done call ih =>
      obtain ⟨hdone, hcall⟩ := guarded_append.mp hG
      rw [serve_append, serve_singleton]
      exact hstep done call (ih hdone) hcall.1

end Interleave
