import AsterYggdrasil.Interleave.Program
import Mathlib.Data.List.Pairwise

/-!
# Pools of concurrent calls

A `Config` is a shared state with a list of calls in progress and the log of
every statement executed so far.  A schedule is a list of actions: start a
call, or let call `i` execute its next statement.  Every interleaving of any
number of calls is the run of some schedule, and every schedule can be
evaluated.

`Admissible G` restricts a run to the steps that satisfy a guard `G`.  The
rely/guarantee rule is `Config.good_runs`: when every call body ensures its
postcondition under a discipline, every finished call of every admissible run
satisfies it.  `Good.flip_unique` is the rule behind "at most one caller
wins": a stable fact becomes true in at most one step of a run.
-/

namespace Interleave

open Prog

variable {S : Signature} {M : Machine S} {ε C R : Type}

/-- A call in progress: what was called and what is left to do. -/
structure Thread (S : Signature) (ε C R : Type) where
  call : C
  rest : Prog S ε R

/-- The outcome of a call that has returned. -/
def Thread.result? (th : Thread S ε C R) : Option (Except ε R) :=
  match th.rest with
  | .ok a => some (.ok a)
  | .err e => some (.error e)
  | .act _ _ => none

/-- One executed statement: who issued it, and in which state it ran. -/
structure Event (M : Machine S) where
  tid : Nat
  stmt : S.Stmt
  pre : M.State

/-- The shared state right after an event. -/
def Event.post (e : Event M) : M.State := (M.exec e.stmt e.pre).2

/-- What happens at most once in a log happens in one event. -/
theorem eq_of_pairwise_ne {α β : Type} {log : List α} {f : α → Option β}
    (h : log.Pairwise fun a b => ∀ x, f a = some x → f b ≠ some x)
    {a b : α} (ha : a ∈ log) (hb : b ∈ log) {x : β} (hfa : f a = some x)
    (hfb : f b = some x) : a = b := by
  have hsymm : Std.Symm fun a b => ∀ x, f a = some x → f b ≠ some x :=
    ⟨fun a b hab x hb ha => hab x ha hb⟩
  by_contra hne
  exact h.forall ha hb hne x hfa hfb

/-- Shared state, calls in progress (call `i` is the `i`-th started) and the
log of executed statements, oldest first. -/
structure Config (M : Machine S) (ε C R : Type) where
  shared : M.State
  threads : List (Thread S ε C R)
  log : List (Event M)

/-- A scheduling decision. -/
inductive Action (C : Type)
  | spawn (call : C)
  | run (i : Nat)

namespace Config

/-- No call has started yet. -/
def initial (s : M.State) : Config M ε C R := ⟨s, [], []⟩

/-- The statement call `i` would execute now, unless it has returned or has to
wait. -/
def pending (c : Config M ε C R) (i : Nat) : Option S.Stmt :=
  match c.threads[i]? with
  | some ⟨_, .act st _⟩ => if M.enabled st c.shared then some st else none
  | _ => none

/-- The outcome of call `i`, once it has returned. -/
def result? (c : Config M ε C R) (i : Nat) : Option (Except ε R) :=
  c.threads[i]?.bind Thread.result?

/-- The statements executed by call `i`. -/
def trace (c : Config M ε C R) (i : Nat) : Trace M :=
  (c.log.filter fun e => e.tid = i).map fun e => (e.stmt, e.pre)

variable (body : C → Prog S ε R)

/-- One action.  Scheduling a call that has returned or waits changes
nothing. -/
def step (c : Config M ε C R) : Action C → Config M ε C R
  | .spawn call => { c with threads := c.threads ++ [⟨call, body call⟩] }
  | .run i =>
      match c.threads[i]? with
      | some ⟨call, .act st k⟩ =>
          if M.enabled st c.shared then
            { shared := (M.exec st c.shared).2
              threads := c.threads.set i ⟨call, k (M.exec st c.shared).1⟩
              log := c.log ++ [⟨i, st, c.shared⟩] }
          else c
      | _ => c

/-- The run of a schedule. -/
def runs (c : Config M ε C R) (sched : List (Action C)) : Config M ε C R :=
  sched.foldl (step body) c

/-- The action respects the guard: the statement it executes, if any,
satisfies `G`. -/
def Allowed (G : Config M ε C R → Nat → S.Stmt → Prop) (c : Config M ε C R) :
    Action C → Prop
  | .spawn _ => True
  | .run i => ∀ st ∈ c.pending i, G c i st

/-- Every step of the run satisfies the guard `G` in the configuration before
it. -/
def Admissible (G : Config M ε C R → Nat → S.Stmt → Prop) :
    Config M ε C R → List (Action C) → Prop
  | _, [] => True
  | c, a :: as => c.Allowed G a ∧ Admissible G (c.step body a) as

instance (G : Config M ε C R → Nat → S.Stmt → Prop)
    [∀ c i st, Decidable (G c i st)] (c : Config M ε C R) (a : Action C) :
    Decidable (c.Allowed G a) :=
  match a with
  | .spawn _ => isTrue trivial
  | .run i => inferInstanceAs (Decidable (∀ st ∈ c.pending i, G c i st))

instance decidableAdmissible (G : Config M ε C R → Nat → S.Stmt → Prop)
    [∀ c i st, Decidable (G c i st)] :
    (c : Config M ε C R) → (sched : List (Action C)) →
      Decidable (Admissible body G c sched)
  | _, [] => isTrue trivial
  | c, a :: as =>
      let _ := decidableAdmissible G (c.step body a) as
      inferInstanceAs
        (Decidable (c.Allowed G a ∧ Admissible body G (c.step body a) as))

variable {body}

@[simp] theorem runs_nil (c : Config M ε C R) : c.runs body [] = c := rfl

@[simp] theorem runs_cons (c : Config M ε C R) (a : Action C)
    (as : List (Action C)) :
    c.runs body (a :: as) = (c.step body a).runs body as := rfl

theorem runs_append (c : Config M ε C R) (as bs : List (Action C)) :
    c.runs body (as ++ bs) = (c.runs body as).runs body bs := by
  simp [runs]

variable (body) in
/-- Everything one action can do: nothing, start a call, or execute exactly
one enabled statement of one call. -/
theorem step_cases (c : Config M ε C R) (a : Action C) :
    c.step body a = c ∨
    (∃ call, a = .spawn call ∧
      c.step body a = { c with threads := c.threads ++ [⟨call, body call⟩] }) ∨
    (∃ i call st k, a = .run i ∧ c.threads[i]? = some ⟨call, .act st k⟩ ∧
      c.pending i = some st ∧ M.enabled st c.shared = true ∧
      c.step body a =
        { shared := (M.exec st c.shared).2
          threads := c.threads.set i ⟨call, k (M.exec st c.shared).1⟩
          log := c.log ++ [⟨i, st, c.shared⟩] }) := by
  cases a with
  | spawn call => exact Or.inr (Or.inl ⟨call, rfl, rfl⟩)
  | run i =>
      cases hth : c.threads[i]? with
      | none => exact Or.inl (by simp [step, hth])
      | some th =>
          obtain ⟨call, rest⟩ := th
          cases rest with
          | ok a => exact Or.inl (by simp [step, hth])
          | err e => exact Or.inl (by simp [step, hth])
          | act st k =>
              by_cases hen : M.enabled st c.shared = true
              · refine Or.inr (Or.inr ⟨i, call, st, k, rfl, hth, ?_, hen, ?_⟩)
                · simp [pending, hth, hen]
                · simp [step, hth, hen]
              · exact Or.inl (by simp [step, hth, hen])

/-! ## Induction over runs -/

/-- A property of configurations kept by every guarded action holds at the end
of every admissible run. -/
theorem runs_induct {G : Config M ε C R → Nat → S.Stmt → Prop}
    {P : Config M ε C R → Prop}
    (hspawn : ∀ c call, P c →
      P { c with threads := c.threads ++ [⟨call, body call⟩] })
    (hrun : ∀ c i call st k, P c → c.threads[i]? = some ⟨call, .act st k⟩ →
      M.enabled st c.shared = true → G c i st →
      P { shared := (M.exec st c.shared).2
          threads := c.threads.set i ⟨call, k (M.exec st c.shared).1⟩
          log := c.log ++ [⟨i, st, c.shared⟩] })
    {c : Config M ε C R} (hc : P c) {sched : List (Action C)}
    (hadm : Admissible body G c sched) : P (c.runs body sched) := by
  induction sched generalizing c with
  | nil => exact hc
  | cons a as ih =>
      obtain ⟨hhead, htail⟩ := hadm
      refine ih ?_ htail
      rcases step_cases body c a with
        heq | ⟨call, rfl, heq⟩ | ⟨i, call, st, k, rfl, hth, hpend, hen, heq⟩
      · rw [heq]; exact hc
      · rw [heq]; exact hspawn c call hc
      · rw [heq]
        exact hrun c i call st k hc hth hen (hhead st hpend)

/-- Every run is admissible for the guard that asks for nothing. -/
theorem admissible_of_forall {G : Config M ε C R → Nat → S.Stmt → Prop}
    (hG : ∀ c i st, G c i st) (c : Config M ε C R) (sched : List (Action C)) :
    Admissible body G c sched := by
  induction sched generalizing c with
  | nil => trivial
  | cons a as ih =>
      refine ⟨?_, ih _⟩
      cases a with
      | spawn call => trivial
      | run i => exact fun st _ => hG c i st

/-- A run is admissible when its two parts are. -/
theorem admissible_append {G : Config M ε C R → Nat → S.Stmt → Prop}
    {c : Config M ε C R} {as bs : List (Action C)} :
    Admissible body G c (as ++ bs) ↔
      Admissible body G c as ∧ Admissible body G (c.runs body as) bs := by
  induction as generalizing c with
  | nil => simp [Admissible]
  | cons a as ih => simp [Admissible, ih, and_assoc]

/-! ## Traces -/

theorem mem_trace {c : Config M ε C R} {i : Nat} {st : S.Stmt} {s : M.State} :
    (st, s) ∈ c.trace i ↔
      ∃ e ∈ c.log, e.tid = i ∧ e.stmt = st ∧ e.pre = s := by
  simp [trace, and_assoc]

theorem trace_append (s : M.State) (ths : List (Thread S ε C R))
    (log : List (Event M)) (i j : Nat) (st : S.Stmt) (s' : M.State) :
    (⟨s, ths, log ++ [⟨i, st, s'⟩]⟩ : Config M ε C R).trace j =
      (⟨s, ths, log⟩ : Config M ε C R).trace j ++
        (if i = j then [(st, s')] else []) := by
  by_cases h : i = j
  · simp [trace, h]
  · simp [trace, h]

/-! ## The rely/guarantee rule -/

section Good

variable (D : Discipline M)
  (Q : Nat → C → Trace M → Except ε R → M.State → Prop)

/-- Every call in progress still ensures its postcondition, and the states of
the log are connected: after each event the state moves along the rely
relation to every later one and to the current one. -/
structure Good (c : Config M ε C R) : Prop where
  inv : D.inv c.shared
  tids : ∀ e ∈ c.log, e.tid < c.threads.length
  ensures : ∀ i (th : Thread S ε C R), c.threads[i]? = some th →
    th.rest.Ensures D (Q i th.call) (c.trace i) c.shared
  linked : c.log.Pairwise fun a b => D.rely a.post b.pre
  events : ∀ e ∈ c.log, D.inv e.pre ∧ D.rely e.post c.shared ∧
    ∃ tr, tr <+: c.trace e.tid ∧ D.own tr e.stmt e.pre ∧ D.guar tr e.stmt e.pre

variable {D Q} {G : Config M ε C R → Nat → S.Stmt → Prop}

theorem good_initial {s : M.State} (hs : D.inv s) :
    Good D Q (initial s : Config M ε C R) :=
  ⟨hs, by simp [initial], by simp [initial], by simp [initial],
    by simp [initial]⟩

/-- A call that has not started yet has an empty trace. -/
theorem trace_eq_nil {c : Config M ε C R} {i : Nat}
    (htids : ∀ e ∈ c.log, e.tid < c.threads.length)
    (hi : c.threads.length ≤ i) : c.trace i = [] := by
  simp only [trace, List.map_eq_nil_iff, List.filter_eq_nil_iff,
    decide_eq_true_eq]
  intro e he heq
  have := htids e he
  omega

/-- Starting a call whose body ensures its postcondition. -/
theorem Good.spawn {c : Config M ε C R} (hc : Good D Q c) (call : C)
    (hbody : (body call).Ensures D (Q c.threads.length call) [] c.shared) :
    Good D Q { c with threads := c.threads ++ [⟨call, body call⟩] } := by
  refine ⟨hc.inv, fun e he => ?_, fun i th hth => ?_, hc.linked, hc.events⟩
  · have := hc.tids e he
    simp only [List.length_append, List.length_singleton]
    omega
  · by_cases hi : i < c.threads.length
    · rw [List.getElem?_append_left hi] at hth
      exact hc.ensures i th hth
    · rw [List.getElem?_append_right (by omega), List.getElem?_singleton] at hth
      split at hth
      · cases hth
        have hlen : i = c.threads.length := by omega
        subst hlen
        have htr : c.trace c.threads.length = [] :=
          trace_eq_nil hc.tids (Nat.le_refl _)
        exact htr ▸ hbody
      · cases hth

/-- Executing one statement of one call. -/
theorem Good.exec {c : Config M ε C R} (hc : Good D Q c) {i : Nat} {call : C}
    {st : S.Stmt} {k : S.Reply st → Prog S ε R}
    (hth : c.threads[i]? = some ⟨call, .act st k⟩) (hown : D.own (c.trace i) st c.shared) :
    Good D Q
      { shared := (M.exec st c.shared).2
        threads := c.threads.set i ⟨call, k (M.exec st c.shared).1⟩
        log := c.log ++ [⟨i, st, c.shared⟩] } := by
  have hi : i < c.threads.length := (List.getElem?_eq_some_iff.mp hth).1
  obtain ⟨hguar, hens⟩ := hc.ensures i _ hth c.shared (D.refl _) hc.inv hown
  obtain ⟨hinv', hrely⟩ := D.step _ st c.shared hc.inv hown hguar
  refine ⟨hinv', fun e he => ?_, fun j th hj => ?_, ?_, fun e he => ?_⟩
  · rcases List.mem_append.mp he with he | he
    · simpa using hc.tids e he
    · simp only [List.mem_singleton] at he
      subst he
      simpa using hi
  · rw [trace_append]
    by_cases hij : i = j
    · subst hij
      rw [List.getElem?_set_self hi] at hj
      cases hj
      rw [if_pos rfl]
      exact hens
    · rw [List.getElem?_set_ne hij] at hj
      simp only [hij, if_false, List.append_nil]
      exact (hc.ensures j th hj).of_rely hrely
  · rw [List.pairwise_append]
    refine ⟨hc.linked, List.pairwise_singleton _ _, fun a ha b hb => ?_⟩
    simp only [List.mem_singleton] at hb
    subst hb
    exact (hc.events a ha).2.1
  · rcases List.mem_append.mp he with he | he
    · obtain ⟨hinv, hpost, tr, htr, hpromise⟩ := hc.events e he
      refine ⟨hinv, D.trans _ _ _ hpost hrely, tr, htr.trans ?_, hpromise⟩
      rw [trace_append]
      exact List.prefix_append _ _
    · simp only [List.mem_singleton] at he
      subst he
      refine ⟨hc.inv, D.refl _, c.trace i, ?_, hown, hguar⟩
      rw [trace_append]
      exact List.prefix_append _ _

/-- **The rely/guarantee rule.**  A pool in which every call ensures its
postcondition stays one, if the bodies of new calls do. -/
theorem good_runs
    (hG : ∀ c i st, G c i st → M.enabled st c.shared = true →
      D.own (c.trace i) st c.shared)
    (hbody : ∀ i call s, D.inv s → (body call).Ensures D (Q i call) [] s)
    {c : Config M ε C R} (hc : Good D Q c) {sched : List (Action C)}
    (hadm : Admissible body G c sched) : Good D Q (c.runs body sched) := by
  refine runs_induct (P := Good D Q) ?_ ?_ hc hadm
  · intro c call hc
    exact hc.spawn call (hbody _ call c.shared hc.inv)
  · intro c i call st k hc hth hen hg
    exact hc.exec hth (hG c i st hg hen)

/-- **An invariant of the whole pool**, kept by every statement that keeps the
guarantee of its call. -/
theorem good_runs_inv
    (hG : ∀ c i st, G c i st → M.enabled st c.shared = true →
      D.own (c.trace i) st c.shared)
    (hbody : ∀ i call s, D.inv s → (body call).Ensures D (Q i call) [] s)
    {P : Config M ε C R → Prop}
    (hspawn : ∀ c call, P c → P { c with threads := c.threads ++ [⟨call, body call⟩] })
    (hrun : ∀ c i call st k, Good D Q c → P c →
      c.threads[i]? = some ⟨call, .act st k⟩ → M.enabled st c.shared = true → G c i st →
      D.guar (c.trace i) st c.shared →
      P { shared := (M.exec st c.shared).2
          threads := c.threads.set i ⟨call, k (M.exec st c.shared).1⟩
          log := c.log ++ [⟨i, st, c.shared⟩] })
    {c : Config M ε C R} (hc : Good D Q c) (hP : P c) {sched : List (Action C)}
    (hadm : Admissible body G c sched) : P (c.runs body sched) := by
  refine (runs_induct (P := fun c => Good D Q c ∧ P c) ?_ ?_ ⟨hc, hP⟩ hadm).2
  · rintro c call ⟨hgood, hP⟩
    exact ⟨hgood.spawn call (hbody _ call c.shared hgood.inv), hspawn c call hP⟩
  · rintro c i call st k ⟨hgood, hP⟩ hth hen hg
    have hown := hG c i st hg hen
    have hguar := (hgood.ensures i _ hth c.shared (D.refl _) hgood.inv hown).1
    exact ⟨hgood.exec hth hown, hrun c i call st k hgood hP hth hen hg hguar⟩

/-- A call that has returned satisfies its postcondition in the current
state. -/
theorem Good.result {c : Config M ε C R} (hc : Good D Q c) {i : Nat}
    {th : Thread S ε C R} {r : Except ε R} (hth : c.threads[i]? = some th)
    (hr : c.result? i = some r) : Q i th.call (c.trace i) r c.shared := by
  have hens := hc.ensures i th hth
  obtain ⟨call, rest⟩ := th
  simp only [result?, hth, Option.bind_some, Thread.result?] at hr
  cases rest with
  | ok a => cases hr; exact hens _ (D.refl _) hc.inv
  | err e => cases hr; exact hens _ (D.refl _) hc.inv
  | act st k => cases hr

/-- The run has come from `c₀`: the shared state of `c₀` leads to the present one,
and to the state of every statement executed since. -/
structure Since (D : Discipline M) (c₀ c : Config M ε C R) : Prop where
  shared : D.rely c₀.shared c.shared
  events : ∀ e ∈ c.log, e ∈ c₀.log ∨ D.rely c₀.shared e.pre

/-- What a call executes that had not executed anything in `c₀` runs in states that
`c₀` leads to. -/
theorem Since.trace {c₀ c : Config M ε C R} (h : Since D c₀ c) {j : Nat}
    (hlater : c₀.trace j = []) {st : S.Stmt} {s : M.State} (he : (st, s) ∈ c.trace j) :
    D.rely c₀.shared s := by
  obtain ⟨ev, hev, htid, rfl, rfl⟩ := mem_trace.mp he
  rcases h.events ev hev with hold | hrely
  · have hmem : (ev.stmt, ev.pre) ∈ c₀.trace j := mem_trace.mpr ⟨ev, hold, htid, rfl, rfl⟩
    rw [hlater] at hmem
    cases hmem
  · exact hrely

/-- **The rely/guarantee rule from a configuration on.**  What a step owes may be
shown from the guard and from where the run has come from. -/
theorem good_runs_since {c₀ : Config M ε C R}
    (hG : ∀ c i st, Good D Q c → Since D c₀ c → G c i st → M.enabled st c.shared = true →
      D.own (c.trace i) st c.shared)
    (hbody : ∀ i call s, D.inv s → (body call).Ensures D (Q i call) [] s)
    (hc : Good D Q c₀) {sched : List (Action C)} (hadm : Admissible body G c₀ sched) :
    Good D Q (c₀.runs body sched) ∧ Since D c₀ (c₀.runs body sched) := by
  refine runs_induct (P := fun c => Good D Q c ∧ Since D c₀ c) ?_ ?_
    ⟨hc, D.refl _, fun e he => Or.inl he⟩ hadm
  · rintro c call ⟨hgood, hsince⟩
    exact ⟨hgood.spawn call (hbody _ call c.shared hgood.inv), hsince.shared, hsince.events⟩
  · rintro c i call st k ⟨hgood, hsince⟩ hth hen hg
    have hown := hG c i st hgood hsince hg hen
    have hguar := (hgood.ensures i _ hth c.shared (D.refl _) hgood.inv hown).1
    have hstep := (D.step _ st c.shared hgood.inv hown hguar).2
    refine ⟨hgood.exec hth hown, D.trans _ _ _ hsince.shared hstep, fun e he => ?_⟩
    rcases List.mem_append.mp he with he | he
    · exact hsince.events e he
    · rw [List.mem_singleton.mp he]
      exact Or.inr hsince.shared

/-- Every statement executed after a configuration ran in a state that its
shared state leads to. -/
theorem good_runs_later
    (hG : ∀ c i st, G c i st → M.enabled st c.shared = true →
      D.own (c.trace i) st c.shared)
    (hbody : ∀ i call s, D.inv s → (body call).Ensures D (Q i call) [] s)
    {c : Config M ε C R} (hc : Good D Q c) {sched : List (Action C)}
    (hadm : Admissible body G c sched) : Since D c (c.runs body sched) :=
  (good_runs_since (fun c i st _ _ => hG c i st) hbody hc hadm).2

/-- **At most one winner.**  A fact that the rely relation preserves is made
true by at most one event of a run. -/
theorem Good.flip_unique {c : Config M ε C R} (hc : Good D Q c)
    {P : M.State → Prop} (hP : ∀ s s', D.rely s s' → P s → P s')
    {e₁ e₂ : Event M} (h₁ : e₁ ∈ c.log) (h₂ : e₂ ∈ c.log)
    (hpre₁ : ¬ P e₁.pre) (hpost₁ : P e₁.post)
    (hpre₂ : ¬ P e₂.pre) (hpost₂ : P e₂.post) : e₁ = e₂ := by
  obtain ⟨i, hi, rfl⟩ := List.getElem_of_mem h₁
  obtain ⟨j, hj, rfl⟩ := List.getElem_of_mem h₂
  have hpair := List.pairwise_iff_getElem.mp hc.linked
  rcases Nat.lt_trichotomy i j with hlt | heq | hgt
  · exact absurd (hP _ _ (hpair i j hi hj hlt) hpost₁) hpre₂
  · subst heq; rfl
  · exact absurd (hP _ _ (hpair j i hj hi hgt) hpost₂) hpre₁

end Good

/-- A call that has returned has done what its body says, whatever the others
did. -/
theorem result_of_free {Q : C → Trace M → Except ε R → M.State → Prop}
    (hbody : ∀ call s, (body call).Ensures (.free M) (Q call) [] s) {s₀ : M.State}
    {sched : List (Action C)} {c : Config M ε C R} (hc : c = (initial s₀).runs body sched)
    {i : Nat} {th : Thread S ε C R} {r : Except ε R} (hth : c.threads[i]? = some th)
    (hr : c.result? i = some r) : Q th.call (c.trace i) r c.shared := by
  have hgood : Good (.free M) (fun _ => Q) c := by
    rw [hc]
    exact good_runs (G := fun _ _ _ => True) (fun _ _ _ _ _ => True.intro)
      (fun _ call s _ => hbody call s) (good_initial True.intro)
      (admissible_of_forall (fun _ _ _ => True.intro) _ _)
  exact hgood.result hth hr

/-- Events belong to calls that have started. -/
theorem tid_lt {s₀ : M.State} {sched : List (Action C)} {c : Config M ε C R}
    (hc : c = (initial s₀).runs body sched) : ∀ e ∈ c.log, e.tid < c.threads.length := by
  rw [hc]
  refine runs_induct (G := fun _ _ _ => True)
    (P := fun c => ∀ e ∈ c.log, e.tid < c.threads.length) ?_ ?_ (by simp [initial])
    (admissible_of_forall (fun _ _ _ => True.intro) _ _)
  · intro c call h e he
    have := h e he
    simp only [List.length_append, List.length_singleton]
    omega
  · intro c i call st k h hth _ _ e he
    rw [List.length_set]
    rcases List.mem_append.mp he with he | he
    · exact h e he
    · rw [List.mem_singleton.mp he]
      exact (List.getElem?_eq_some_iff.mp hth).1

/-- A run only adds to the log. -/
theorem log_prefix (c : Config M ε C R) (sched : List (Action C)) :
    c.log <+: (c.runs body sched).log := by
  refine runs_induct (G := fun _ _ _ => True) (P := fun c' => c.log <+: c'.log)
    (fun _ _ h => h) ?_ List.prefix_rfl (admissible_of_forall (fun _ _ _ => True.intro) _ _)
  exact fun c' i call st k h _ _ _ => h.trans (List.prefix_append _ _)

end Config

end Interleave
