import AsterYggdrasil.Interleave.ReadCommitted

/-!
# What a call that has returned went through

A call that has returned has executed its program: the statements of its trace
are the ones the program asked for, in their order, and every reply is what the
statement answered in the state it found.  `Prog.Ran` says this of a trace.  It
decomposes along the program, so a proof about a call that has returned follows
the source from the first statement to the last, whatever ran in between.

`Store.RanIn` is the same for the inside of a transaction, where a statement
sees the committed state of its moment with the transaction's own writes laid
over it.
-/

namespace Interleave

variable {S T : Signature} {ε ε' α β : Type}

namespace Prog

/-- The program went through exactly the statements of the trace and ended in
`r`. -/
def Ran (M : Machine S) : Prog S ε α → Trace M → Except ε α → Prop
  | ok a, tr, r => tr = [] ∧ r = .ok a
  | err e, tr, r => tr = [] ∧ r = .error e
  | act i k, tr, r =>
      ∃ s rest, tr = (i, s) :: rest ∧ Ran M (k (M.exec i s).1) rest r

variable {M : Machine S} {tr : Trace M}

@[simp] theorem ran_ok {a : α} {r : Except ε α} :
    (ok a : Prog S ε α).Ran M tr r ↔ tr = [] ∧ r = .ok a := Iff.rfl

@[simp] theorem ran_err {e : ε} {r : Except ε α} :
    (err e : Prog S ε α).Ran M tr r ↔ tr = [] ∧ r = .error e := Iff.rfl

theorem ran_act {i : S.Stmt} {k : S.Reply i → Prog S ε α} {r : Except ε α} :
    (act i k).Ran M tr r ↔
      ∃ s rest, tr = (i, s) :: rest ∧ (k (M.exec i s).1).Ran M rest r := Iff.rfl

theorem ran_stmt_bind {i : S.Stmt} {f : S.Reply i → Prog S ε α} {r : Except ε α} :
    ((stmt i).bind f).Ran M tr r ↔
      ∃ s rest, tr = (i, s) :: rest ∧ (f (M.exec i s).1).Ran M rest r := Iff.rfl

/-- **Sequencing.**  A composition that has returned went through both parts. -/
theorem ran_bind_ok {p : Prog S ε α} {f : α → Prog S ε β} {b : β} :
    (p.bind f).Ran M tr (.ok b) ↔
      ∃ a tr₁ tr₂, tr = tr₁ ++ tr₂ ∧ p.Ran M tr₁ (.ok a) ∧ (f a).Ran M tr₂ (.ok b) := by
  induction p generalizing tr with
  | ok a =>
      constructor
      · intro h
        exact ⟨a, [], tr, rfl, ⟨rfl, rfl⟩, h⟩
      · rintro ⟨a', tr₁, tr₂, rfl, ⟨rfl, ha⟩, h⟩
        cases ha
        exact h
  | err e =>
      constructor
      · intro h
        cases h.2
      · rintro ⟨a, tr₁, tr₂, -, ⟨-, h⟩, -⟩
        cases h
  | act i k ih =>
      constructor
      · rintro ⟨s, rest, rfl, h⟩
        obtain ⟨a, tr₁, tr₂, rfl, h₁, h₂⟩ := (ih _).mp h
        exact ⟨a, (i, s) :: tr₁, tr₂, rfl, ⟨s, tr₁, rfl, h₁⟩, h₂⟩
      · rintro ⟨a, tr₁, tr₂, rfl, ⟨s, rest, rfl, h₁⟩, h₂⟩
        exact ⟨s, rest ++ tr₂, rfl, (ih _).mpr ⟨a, rest, tr₂, rfl, h₁, h₂⟩⟩

/-- What a program goes through is what its trace shows. -/
theorem ensures_ran (p : Prog S ε α) (past : Trace M) (s : M.State) :
    p.Ensures (.free M) (fun tr r _ => ∃ rest, tr = past ++ rest ∧ p.Ran M rest r)
      past s := by
  induction p generalizing past s with
  | ok a => exact fun _ _ _ => ⟨[], by simp, rfl, rfl⟩
  | err e => exact fun _ _ _ => ⟨[], by simp, rfl, rfl⟩
  | act i k ih =>
      intro s' _ _ _
      refine ⟨trivial, (ih _ _ _).mono ?_⟩
      rintro tr r - ⟨rest, rfl, h⟩
      exact ⟨(i, s') :: rest, by simp, s', rest, rfl, h⟩

end Prog

/-- The call an action starts. -/
def Action.call? {C : Type} : Action C → Option C
  | .spawn call => some call
  | .run _ => none

namespace Config

open Prog

variable {M : Machine S} {C R : Type} {body : C → Prog S ε R}

theorem step_calls (c : Config M ε C R) (a : Action C) :
    (c.step body a).threads.map Thread.call = c.threads.map Thread.call ++ a.call?.toList := by
  cases a with
  | spawn call => simp [step, Action.call?]
  | run i =>
      simp only [step, Action.call?, Option.toList_none, List.append_nil]
      split
      · next call st k hth =>
          split
          · obtain ⟨hi, heq⟩ := List.getElem?_eq_some_iff.mp hth
            have hi' : i < (c.threads.map Thread.call).length := by simpa using hi
            have hcall : (c.threads.map Thread.call)[i] = call := by simp [heq]
            rw [List.map_set, ← hcall, List.set_getElem_self]
          · rfl
      · rfl

/-- The calls of a run are the ones its schedule has started, in their order. -/
theorem runs_calls (c : Config M ε C R) (sched : List (Action C)) :
    (c.runs body sched).threads.map Thread.call =
      c.threads.map Thread.call ++ sched.filterMap Action.call? := by
  induction sched generalizing c with
  | nil => simp
  | cons a sched ih =>
      rw [runs_cons, ih, step_calls, List.append_assoc]
      cases a <;> rfl

/-- **A call that has returned went through its program.** -/
theorem ran_of_result {s₀ : M.State} {sched : List (Action C)} {c : Config M ε C R}
    (hc : c = (initial s₀).runs body sched) {i : Nat} {th : Thread S ε C R}
    {r : Except ε R} (hth : c.threads[i]? = some th) (hr : c.result? i = some r) :
    (body th.call).Ran M (c.trace i) r := by
  obtain ⟨rest, heq, hran⟩ := result_of_free
    (Q := fun call tr r _ => ∃ rest, tr = [] ++ rest ∧ (body call).Ran M rest r)
    (fun call s => ensures_ran (body call) [] s) hc hth hr
  rw [List.nil_append] at heq
  rwa [heq]

/-- An event of a run belongs to the past, or happened in a state that the run went
through. -/
theorem mem_log_runs (c : Config M ε C R) (sched : List (Action C)) :
    ∀ e ∈ (c.runs body sched).log,
      e ∈ c.log ∨ ∃ mid, mid <+: sched ∧ e.pre = (c.runs body mid).shared := by
  induction sched generalizing c with
  | nil => exact fun e he => Or.inl he
  | cons a sched ih =>
      intro e he
      rcases ih _ e he with hstep | ⟨mid, hmid, hpre⟩
      · by_cases hold : e ∈ c.log
        · exact Or.inl hold
        · refine Or.inr ⟨[], List.nil_prefix, ?_⟩
          rcases step_cases body c a with
            heq | ⟨call, rfl, heq⟩ | ⟨i, call, st, k, rfl, hth, hpend, hen, heq⟩
          · rw [heq] at hstep
            exact absurd hstep hold
          · rw [heq] at hstep
            exact absurd hstep hold
          · rw [heq] at hstep
            rcases List.mem_append.mp hstep with hin | hnew
            · exact absurd hin hold
            · rw [List.mem_singleton.mp hnew]
              rfl
      · exact Or.inr ⟨a :: mid, (List.prefix_cons_inj a).mpr hmid, hpre⟩

variable (body) in
/-- `P` holds in every state that the run goes through. -/
def Throughout (P : M.State → Prop) : Config M ε C R → List (Action C) → Prop
  | c, [] => P c.shared
  | c, a :: as => P c.shared ∧ Throughout P (c.step body a) as

instance decidableThroughout (P : M.State → Prop) [∀ s, Decidable (P s)] :
    (c : Config M ε C R) → (sched : List (Action C)) → Decidable (Throughout body P c sched)
  | c, [] => inferInstanceAs (Decidable (P c.shared))
  | c, a :: as =>
      let _ := decidableThroughout P (c.step body a) as
      inferInstanceAs (Decidable (P c.shared ∧ Throughout body P (c.step body a) as))

theorem Throughout.runs {P : M.State → Prop} {c : Config M ε C R}
    {sched mid : List (Action C)} (h : Throughout body P c sched) (hmid : mid <+: sched) :
    P (c.runs body mid).shared := by
  induction mid generalizing c sched with
  | nil =>
      cases sched with
      | nil => exact h
      | cons a as => exact h.1
  | cons a mid ih =>
      obtain ⟨rest, rfl⟩ := hmid
      exact ih h.2 (List.prefix_append _ _)

/-- What holds throughout a part of a run holds in every state in which a call that was
started there executes a statement. -/
theorem Throughout.trace {P : M.State → Prop} {s₀ : M.State} {past sched : List (Action C)}
    {c : Config M ε C R} (h : Throughout body P ((initial s₀).runs body past) sched)
    (hc : c = (initial s₀).runs body (past ++ sched)) {i : Nat}
    (hi : ((initial s₀ : Config M ε C R).runs body past).threads.length ≤ i) :
    ∀ ev ∈ c.trace i, P ev.2 := by
  intro ev hev
  obtain ⟨e, he, htid, -, hpre⟩ := mem_trace.mp hev
  rw [hc, runs_append] at he
  rcases mem_log_runs _ _ e he with hpast | ⟨mid, hmid, hstate⟩
  · have hlt := tid_lt rfl e hpast
    omega
  · rw [← hpre, hstate]
    exact h.runs hmid

/-- The state moves along the rely relation from one statement of a call to every
later one. -/
theorem Good.trace_linked {D : Discipline M}
    {Q : Nat → C → Trace M → Except ε R → M.State → Prop} {c : Config M ε C R}
    (hc : Good D Q c) (i : Nat) :
    (c.trace i).Pairwise fun a b => D.rely (M.exec a.1 a.2).2 b.2 := by
  unfold trace
  rw [List.pairwise_map]
  exact hc.linked.filter _

end Config

/-! ## Inside of a transaction -/

namespace Store

open Prog

variable {B : Machine S} (σ : Store B)

/-- What transaction `x` sees after the writes `buf`. -/
def view (buf : σ.Buffer) (s : σ.Shared) : B.State := σ.replay buf s.committed

variable {σ}

/-- Inside of transaction `x`, after the writes `buf`, the program went through
the statements of the trace and returned `a`; its writes are `buf'` then. -/
def RanIn (x : Nat) : Prog S ε α → σ.Buffer → Trace σ.readCommitted → σ.Buffer → α → Prop
  | ok a, buf, tr, buf', a' => tr = [] ∧ buf' = buf ∧ a' = a
  | err _, _, _, _, _ => False
  | act i k, buf, tr, buf', a' =>
      ∃ s rest, tr = (.exec x buf i, s) :: rest ∧ x ∉ s.closed ∧
        RanIn x (k (B.exec i (σ.view buf s)).1)
          (buf ++ [(i, σ.stamp (σ.view buf s))]) rest buf' a'

variable {x : Nat} {buf buf' : σ.Buffer} {tr : Trace σ.readCommitted}

@[simp] theorem ranIn_ok {a a' : α} :
    RanIn x (ok a : Prog S ε α) buf tr buf' a' ↔ tr = [] ∧ buf' = buf ∧ a' = a := Iff.rfl

@[simp] theorem ranIn_err {e : ε} {a : α} :
    RanIn x (err e : Prog S ε α) buf tr buf' a ↔ False := Iff.rfl

theorem ranIn_stmt_bind {i : S.Stmt} {f : S.Reply i → Prog S ε α} {a : α} :
    RanIn x ((stmt i).bind f) buf tr buf' a ↔
      ∃ s rest, tr = (.exec x buf i, s) :: rest ∧ x ∉ s.closed ∧
        RanIn x (f (B.exec i (σ.view buf s)).1)
          (buf ++ [(i, σ.stamp (σ.view buf s))]) rest buf' a := Iff.rfl

/-- Sequencing inside of a transaction. -/
theorem ranIn_bind {p : Prog S ε α} {f : α → Prog S ε β} {b : β} :
    RanIn x (p.bind f) buf tr buf' b ↔
      ∃ a mid tr₁ tr₂, tr = tr₁ ++ tr₂ ∧ RanIn x p buf tr₁ mid a ∧
        RanIn x (f a) mid tr₂ buf' b := by
  induction p generalizing buf tr with
  | ok a =>
      constructor
      · intro h
        exact ⟨a, buf, [], tr, rfl, ⟨rfl, rfl, rfl⟩, h⟩
      · rintro ⟨a', mid, tr₁, tr₂, rfl, ⟨rfl, rfl, rfl⟩, h⟩
        exact h
  | err e => simp
  | act i k ih =>
      constructor
      · rintro ⟨s, rest, rfl, hopen, h⟩
        obtain ⟨a, mid, tr₁, tr₂, rfl, h₁, h₂⟩ := (ih _).mp h
        exact ⟨a, mid, _ :: tr₁, tr₂, rfl, ⟨s, tr₁, rfl, hopen, h₁⟩, h₂⟩
      · rintro ⟨a, mid, tr₁, tr₂, rfl, ⟨s, rest, rfl, hopen, h₁⟩, h₂⟩
        exact ⟨s, rest ++ tr₂, rfl, hopen, (ih _).mpr ⟨a, mid, rest, tr₂, rfl, h₁, h₂⟩⟩

/-- A transaction only adds to its writes. -/
theorem RanIn.grows {p : Prog S ε α} {a : α} (h : RanIn x p buf tr buf' a) :
    buf <+: buf' := by
  induction p generalizing buf tr with
  | ok a' =>
      obtain ⟨-, rfl, -⟩ := h
      exact List.prefix_rfl
  | err e => cases h
  | act i k ih =>
      obtain ⟨s, rest, -, -, hrest⟩ := h
      exact (List.prefix_append _ _).trans (ih _ hrest)

/-- At each of its statements a transaction has made the first of its writes. -/
theorem RanIn.buffers {p : Prog S ε α} {a : α} (h : RanIn x p buf tr buf' a) :
    ∀ ev ∈ tr, ∃ b i, ev.1 = .exec x b i ∧ b <+: buf' := by
  induction p generalizing buf tr with
  | ok a' =>
      obtain ⟨rfl, -, -⟩ := h
      simp
  | err e => cases h
  | act i k ih =>
      obtain ⟨s, rest, rfl, -, hrest⟩ := h
      intro ev hev
      rcases List.mem_cons.mp hev with rfl | hev
      · exact ⟨buf, i, rfl, (List.prefix_append _ _).trans hrest.grows⟩
      · exact ih _ hrest ev hev

/-- The writes of a program come from its own statements. -/
theorem RanIn.within {P : S.Stmt → Prop} {p : Prog S ε α} {a : α}
    (h : RanIn x p buf tr buf' a) (hp : p.Within P) (hbuf : ∀ w ∈ buf, P w.1) :
    ∀ w ∈ buf', P w.1 := by
  induction p generalizing buf tr with
  | ok a' =>
      obtain ⟨-, rfl, -⟩ := h
      exact hbuf
  | err e => cases h
  | act i k ih =>
      obtain ⟨s, rest, -, -, hrest⟩ := h
      refine ih _ hrest (hp.2 _) fun w hw => ?_
      rcases List.mem_append.mp hw with hw | hw
      · exact hbuf w hw
      · rw [List.mem_singleton.mp hw]
        exact hp.1

/-- A program that went on after a transaction's part `p`. -/
theorem ran_transact {lost : ε} {p : Prog S ε α}
    {κ : σ.Buffer → α → Prog σ.signature ε β} {b : β}
    (h : (transact lost x buf p κ).Ran σ.readCommitted tr (.ok b)) :
    ∃ a mid tr₁ tr₂, tr = tr₁ ++ tr₂ ∧ RanIn x p buf tr₁ mid a ∧
      (κ mid a).Ran σ.readCommitted tr₂ (.ok b) := by
  induction p generalizing buf tr with
  | ok a => exact ⟨a, buf, [], tr, rfl, ⟨rfl, rfl, rfl⟩, h⟩
  | err e =>
      obtain ⟨s, rest, -, -, h⟩ := h
      cases h
  | act i k ih =>
      rw [transact, ran_act] at h
      obtain ⟨s, rest, rfl, h⟩ := h
      by_cases hclosed : x ∈ s.closed
      · simp only [exec, hclosed, if_true] at h
        cases h.2
      · simp only [exec, hclosed, if_false] at h
        obtain ⟨a, mid, tr₁, tr₂, rfl, h₁, h₂⟩ := ih _ h
        exact ⟨a, mid, _ :: tr₁, tr₂, rfl, ⟨s, tr₁, rfl, hclosed, h₁⟩, h₂⟩

/-- **A transaction that succeeded** began, went through its program and
committed what it had written. -/
theorem ran_transaction {lost : ε} {p : Prog S ε α} {a : α}
    (h : (transaction lost p).Ran σ.readCommitted tr (.ok a)) :
    ∃ s₀ mid s₁ writes, tr = (.begin, s₀) :: (mid ++ [(.commit s₀.next writes, s₁)]) ∧
      s₀.next ∉ s₁.closed ∧ RanIn s₀.next p [] mid writes a := by
  obtain ⟨s₀, rest, rfl, h⟩ := h
  obtain ⟨a', writes, mid, tail, rfl, hin, s₁, nothing, rfl, hdone⟩ := ran_transact h
  by_cases hclosed : s₀.next ∈ s₁.closed
  · simp only [exec, hclosed, if_true, Bool.false_eq_true, if_false] at hdone
    cases hdone.2
  · simp only [exec, hclosed, if_false, if_true] at hdone
    obtain ⟨rfl, hok⟩ := hdone
    cases hok
    exact ⟨s₀, mid, s₁, writes, rfl, hclosed, hin⟩

/-! ## What the statements were executed on -/

/-- A statement of the program, with the state it was executed on: the committed one,
in a transaction with the writes it had made. -/
def statement? (σ : Store B) : σ.Stmt × σ.Shared → Option (S.Stmt × B.State)
  | (.auto i, s) => some (i, s.committed)
  | (.exec _ buf i, s) => some (i, σ.view buf s)
  | _ => none

/-- The statements of a program that ran over the store. -/
def statements (σ : Store B) (tr : Trace σ.readCommitted) : Trace B :=
  tr.filterMap σ.statement?

theorem statements_append (tr tr' : Trace σ.readCommitted) :
    σ.statements (tr ++ tr') = σ.statements tr ++ σ.statements tr' := List.filterMap_append

theorem statements_subset {tr tr' : Trace σ.readCommitted} (h : tr ⊆ tr') :
    σ.statements tr ⊆ σ.statements tr' := by
  intro ev hev
  obtain ⟨step, hstep, heq⟩ := List.mem_filterMap.mp hev
  exact List.mem_filterMap.mpr ⟨step, h hstep, heq⟩

theorem mem_statements_auto {tr : Trace σ.readCommitted} {i : S.Stmt} {s : σ.Shared}
    (h : (.auto i, s) ∈ tr) : (i, s.committed) ∈ σ.statements tr :=
  List.mem_filterMap.mpr ⟨_, h, rfl⟩

/-- A transaction went through its program. -/
theorem RanIn.statements {p : Prog S ε α} {a : α} (h : RanIn x p buf tr buf' a) :
    p.Ran B (σ.statements tr) (.ok a) := by
  induction p generalizing buf tr with
  | ok a' =>
      obtain ⟨rfl, -, rfl⟩ := h
      exact ⟨rfl, rfl⟩
  | err e => cases h
  | act i k ih =>
      obtain ⟨s, rest, rfl, -, hrest⟩ := h
      exact ⟨σ.view buf s, σ.statements rest, rfl, ih _ hrest⟩

/-- So did a program whose statements ran for themselves. -/
theorem ran_auto {p : Prog S ε α} {a : α}
    (h : (p.translate fun i => auto (σ := σ) i).Ran σ.readCommitted tr (.ok a)) :
    p.Ran B (σ.statements tr) (.ok a) := by
  induction p generalizing tr with
  | ok a' =>
      obtain ⟨rfl, hres⟩ := h
      cases hres
      exact ⟨rfl, rfl⟩
  | err e => cases h.2
  | act i k ih =>
      obtain ⟨s, rest, rfl, hrest⟩ := h
      exact ⟨s.committed, σ.statements rest, rfl, ih _ hrest⟩

end Store

end Interleave
