import AsterYggdrasil.Interleave.Pool

/-!
# What the statements of the calls keep

If a run starts only calls whose statements all have `P`, and every statement with
`P` keeps `I`, then `I` holds at its end (`runs_kept`).
-/

namespace Interleave.Config

open Prog

variable {S : Signature} {M : Machine S} {ε C R : Type} {body : C → Prog S ε R}
  {P : S.Stmt → Prop} {I : M.State → Prop} {c : Config M ε C R}

/-- The calls in progress have only statements with `P` before them, and the shared
state has `I`. -/
structure Keeping (P : S.Stmt → Prop) (I : M.State → Prop) (c : Config M ε C R) : Prop where
  threads : ∀ th ∈ c.threads, th.rest.Within P
  shared : I c.shared

theorem keeping_initial {s : M.State} (hs : I s) :
    (initial s : Config M ε C R).Keeping P I :=
  ⟨fun _ hth => absurd hth List.not_mem_nil, hs⟩

/-- One action. -/
theorem Keeping.step (hexec : ∀ i s, P i → I s → I (M.exec i s).2) (h : c.Keeping P I)
    {a : Action C} (hbody : ∀ call, a = .spawn call → (body call).Within P) :
    (c.step body a).Keeping P I := by
  rcases step_cases body c a with hidle | ⟨call, ha, hspawn⟩ |
    ⟨i, call, st, k, -, hth, -, -, hrun⟩
  · rw [hidle]
    exact h
  · rw [hspawn]
    refine ⟨fun th hth => ?_, h.shared⟩
    rcases List.mem_append.mp hth with hold | hnew
    · exact h.threads th hold
    · rw [List.mem_singleton.mp hnew]
      exact hbody call ha
  · obtain ⟨hst, hrest⟩ := h.threads _ (List.mem_of_getElem? hth)
    rw [hrun]
    refine ⟨fun th hmem => ?_, hexec st c.shared hst h.shared⟩
    rcases List.mem_or_eq_of_mem_set hmem with hold | rfl
    · exact h.threads th hold
    · exact hrest _

/-- **What every statement of the calls keeps** holds at the end of a run. -/
theorem runs_kept (hexec : ∀ i s, P i → I s → I (M.exec i s).2) {sched : List (Action C)}
    (hbody : ∀ call, .spawn call ∈ sched → (body call).Within P) (h : c.Keeping P I) :
    (c.runs body sched).Keeping P I := by
  induction sched generalizing c with
  | nil => exact h
  | cons a sched ih =>
    refine ih (fun call hcall => hbody call (List.mem_cons_of_mem _ hcall)) ?_
    refine h.step hexec fun call ha => hbody call ?_
    rw [ha]
    exact List.mem_cons_self ..

end Interleave.Config
