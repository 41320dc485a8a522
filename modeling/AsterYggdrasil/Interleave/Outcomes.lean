import AsterYggdrasil.Interleave.Program

/-!
# Two postconditions

What a program run alone leaves behind, said separately for the case that it fails
and for the case that it returns.  The failure postcondition is the same for every
part of a program, so it can stand for a promise about errors that holds wherever an
error comes from: "no error of this kind once something has been written".
-/

namespace Interleave.Prog

variable {S : Signature} {ε α β : Type}

/-- Run alone from `s`, the program fails with `E` or returns with `K`. -/
def Outcomes (M : Machine S) (E : ε → M.State → Prop) (K : α → M.State → Prop)
    (p : Prog S ε α) (s : M.State) : Prop :=
  p.Wp M (fun r s' => (∀ e, r = .error e → E e s') ∧ ∀ a, r = .ok a → K a s') s

variable {M : Machine S} {E : ε → M.State → Prop} {K : α → M.State → Prop}
  {K' : β → M.State → Prop} {s : M.State}

theorem outcomes_ok {a : α} (h : K a s) : (ok a : Prog S ε α).Outcomes M E K s :=
  ⟨fun _ he => (by cases he), fun b hb => (by cases hb; exact h)⟩

theorem outcomes_err {e : ε} (h : E e s) : (err e : Prog S ε α).Outcomes M E K s :=
  ⟨fun b hb => (by cases hb; exact h), fun _ ha => (by cases ha)⟩

theorem outcomes_stmt {i : S.Stmt} {K : S.Reply i → M.State → Prop}
    (h : K (M.exec i s).1 (M.exec i s).2) :
    (stmt i : Prog S ε (S.Reply i)).Outcomes M E K s := outcomes_ok h

theorem Outcomes.bind {p : Prog S ε α} {f : α → Prog S ε β} (hp : p.Outcomes M E K s)
    (hf : ∀ a s', K a s' → (f a).Outcomes M E K' s') : (p.bind f).Outcomes M E K' s := by
  refine wp_bind.mpr (Wp.mono hp ?_)
  intro r s' hr
  cases r with
  | ok a => exact hf a s' (hr.2 a rfl)
  | error e => exact outcomes_err (hr.1 e rfl)

theorem Outcomes.mono {E' : ε → M.State → Prop} {K' : α → M.State → Prop}
    {p : Prog S ε α} (hp : p.Outcomes M E K s) (hE : ∀ e s, E e s → E' e s)
    (hK : ∀ a s, K a s → K' a s) : p.Outcomes M E' K' s :=
  Wp.mono hp fun _ _ hr =>
    ⟨fun e he => hE e _ (hr.1 e he), fun a ha => hK a _ (hr.2 a ha)⟩

/-- What follows a part whose run is known. -/
theorem outcomes_of_run {p : Prog S ε α} {f : α → Prog S ε β} {a : α} {s' : M.State}
    (hrun : p.run M s = (.ok a, s')) (h : (f a).Outcomes M E K' s') :
    (p.bind f).Outcomes M E K' s := wp_bind_of_run hrun h

/-- What follows a lookup runs in the same state. -/
theorem Looks.bind_outcomes {Q : α → Prop} {p : Prog S ε α} {f : α → Prog S ε β}
    (hp : p.Looks M s Q) (herr : ∀ e, E e s)
    (hf : ∀ a, Q a → (f a).Outcomes M E K' s) : (p.bind f).Outcomes M E K' s :=
  hp.wp_bind (fun e => outcomes_err (herr e)) hf

/-- A check in front, its condition known on both sides. -/
theorem outcomes_rejectIf {c : Bool} {e : ε} {f : Unit → Prog S ε β}
    (herr : c = true → E e s) (hok : c = false → (f ()).Outcomes M E K' s) :
    ((rejectIf c e).bind f).Outcomes M E K' s := by
  cases c with
  | true => exact outcomes_err (herr rfl)
  | false => exact hok rfl

/-- The loop rule; the invariant sees the elements that are left. -/
theorem outcomes_forEach {f : β → Prog S ε Unit} (I : List β → M.State → Prop)
    (hbody : ∀ x xs s, I (x :: xs) s → (f x).Outcomes M E (fun _ s' => I xs s') s)
    {xs : List β} (h : I xs s) : (forEach xs f).Outcomes M E (fun _ s' => I [] s') s := by
  induction xs generalizing s with
  | nil => exact outcomes_ok h
  | cons x xs ih => exact (hbody x xs s h).bind fun _ s' hs' => ih hs'

/-- What the run of the program answers. -/
theorem Outcomes.of_error {p : Prog S ε α} (hp : p.Outcomes M E K s) {e : ε}
    (h : (p.run M s).1 = .error e) : E e (p.run M s).2 := hp.1 e h

theorem Outcomes.of_ok {p : Prog S ε α} (hp : p.Outcomes M E K s) {a : α}
    (h : (p.run M s).1 = .ok a) : K a (p.run M s).2 := hp.2 a h

/-- A program that returns has the outcome of one that does. -/
theorem Outcomes.succeeds {p : Prog S ε α} (hp : p.Outcomes M E K s)
    (h : p.Succeeds M (fun _ _ => True) s) : p.Succeeds M K s := by
  obtain ⟨a, ha, -⟩ := h
  exact ⟨a, ha, hp.of_ok ha⟩

/-- A run that is known succeeds with what it returns. -/
theorem succeeds_of_run {p : Prog S ε α} {a : α} {s' : M.State} (hrun : p.run M s = (.ok a, s'))
    (h : K a s') : p.Succeeds M K s := by
  refine ⟨a, ?_, ?_⟩
  · rw [hrun]
  · rw [hrun]
    exact h

end Interleave.Prog
