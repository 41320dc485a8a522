import Mathlib.Data.List.Basic

/-!
# Programs over atomic statements

A service operation talks to its stores through statements that are atomic
one by one: a query, an update, a cache access.  Between two statements of one
operation any statement of another operation may run.  A `Prog` is such an
operation: a tree that either has returned, or asks for one statement and
continues with the reply.

Two readings are given.  `Prog.run` executes a program alone, from its first
statement to its last.  `Prog.Ensures` is the program logic under
interference: before every statement the shared state may move along a
relation `rely`, and the postcondition sees the final state together with the
trace of the program's own statements, each with the state it ran in.
-/

namespace Interleave

/-- The statements a program may issue and the type of each reply. -/
structure Signature where
  Stmt : Type
  Reply : Stmt → Type

/-- A program that issues statements of `S`, fails with an `ε` or returns an
`α`. -/
inductive Prog (S : Signature) (ε α : Type) : Type
  | ok (a : α) : Prog S ε α
  | err (e : ε) : Prog S ε α
  | act (i : S.Stmt) (k : S.Reply i → Prog S ε α) : Prog S ε α

/-- How the statements of `S` are issued through those of `T`. -/
structure Signature.Hom (S T : Signature) where
  stmt : S.Stmt → T.Stmt
  reply : ∀ i, T.Reply (stmt i) → S.Reply i

/-- An interpretation of the statements of `S` over a shared state.  A
statement that is not `enabled` waits (a row lock held by someone else). -/
structure Machine (S : Signature) where
  State : Type
  exec : (i : S.Stmt) → State → S.Reply i × State
  enabled : S.Stmt → State → Bool := fun _ _ => true

namespace Prog

variable {S T : Signature} {ε ε' α β : Type}

/-- Sequential composition; a failure skips the rest. -/
def bind : Prog S ε α → (α → Prog S ε β) → Prog S ε β
  | ok a, f => f a
  | err e, _ => err e
  | act i k, f => act i fun r => bind (k r) f

instance : Monad (Prog S ε) where
  pure := ok
  bind := bind

/-- Catch a failure as a value. -/
def attempt : Prog S ε α → Prog S ε' (Except ε α)
  | ok a => ok (.ok a)
  | err e => ok (.error e)
  | act i k => act i fun r => attempt (k r)

/-- Issue a program's statements through another signature and convert its
errors. -/
def hoist (h : Signature.Hom S T) (g : ε → ε') : Prog S ε α → Prog T ε' α
  | ok a => ok a
  | err e => err (g e)
  | act i k => act (h.stmt i) fun r => hoist h g (k (h.reply i r))

/-- Issue every statement of a program as a program of another signature. -/
def translate (f : (i : S.Stmt) → Prog T ε (S.Reply i)) : Prog S ε α → Prog T ε α
  | ok a => ok a
  | err e => err e
  | act i k => (f i).bind fun r => translate f (k r)

/-- Issue one statement and return its reply. -/
def stmt (i : S.Stmt) : Prog S ε (S.Reply i) := act i ok

/-- Fail with `e`. -/
def throw (e : ε) : Prog S ε α := err e

/-- Fail with `e` if the condition holds. -/
def rejectIf (c : Bool) (e : ε) : Prog S ε Unit := if c then err e else ok ()

/-- The outcome of a computation that issues no statement. -/
def ofExcept : Except ε α → Prog S ε α
  | .ok a => ok a
  | .error e => err e

/-- Run `f` on every element in order. -/
def forEach (xs : List α) (f : α → Prog S ε Unit) : Prog S ε Unit :=
  match xs with
  | [] => ok ()
  | x :: xs => bind (f x) fun _ => forEach xs f

/-- Execute a program alone from `s`. -/
def run (M : Machine S) : Prog S ε α → M.State → Except ε α × M.State
  | ok a, s => (.ok a, s)
  | err e, s => (.error e, s)
  | act i k, s => run M (k (M.exec i s).1) (M.exec i s).2

@[simp] theorem pure_eq (a : α) : (pure a : Prog S ε α) = ok a := rfl
@[simp] theorem bind_eq (p : Prog S ε α) (f : α → Prog S ε β) :
    (p >>= f) = p.bind f := rfl
@[simp] theorem ok_bind (a : α) (f : α → Prog S ε β) : (ok a).bind f = f a := rfl
@[simp] theorem err_bind (e : ε) (f : α → Prog S ε β) :
    (err e : Prog S ε α).bind f = err e := rfl
/-- A statement stays first; what follows grows. -/
@[simp] theorem act_bind (i : S.Stmt) (k : S.Reply i → Prog S ε α)
    (f : α → Prog S ε β) : (act i k).bind f = act i fun r => (k r).bind f := rfl
/-- Three programs one after another, however they are bracketed. -/
theorem bind_assoc {γ : Type} (p : Prog S ε α) (f : α → Prog S ε β)
    (g : β → Prog S ε γ) : (p.bind f).bind g = p.bind fun a => (f a).bind g := by
  induction p with
  | ok a => rfl
  | err e => rfl
  | act i k ih =>
      simp only [act_bind, act.injEq, heq_eq_eq, true_and]
      funext r
      exact ih r

@[simp] theorem rejectIf_true (e : ε) :
    (rejectIf true e : Prog S ε Unit) = err e := rfl
@[simp] theorem rejectIf_false (e : ε) :
    (rejectIf false e : Prog S ε Unit) = ok () := rfl
@[simp] theorem throw_eq (e : ε) : (throw e : Prog S ε α) = err e := rfl

/-- A failure that is caught and raised again. -/
theorem attempt_bind_ofExcept (p : Prog S ε α) :
    (p.attempt : Prog S ε (Except ε α)).bind ofExcept = p := by
  induction p with
  | ok a => rfl
  | err e => rfl
  | act i k ih =>
      simp only [attempt, act_bind, act.injEq, heq_eq_eq, true_and]
      funext r
      exact ih r

/-- Hoisting respects sequencing. -/
@[simp] theorem hoist_bind (h : Signature.Hom S T) (g : ε → ε') (p : Prog S ε α)
    (f : α → Prog S ε β) :
    (p.bind f).hoist h g = (p.hoist h g).bind fun a => (f a).hoist h g := by
  induction p with
  | ok a => rfl
  | err e => rfl
  | act i k ih =>
      simp only [act_bind, hoist, act.injEq, heq_eq_eq, true_and]
      funext r
      exact ih _

@[simp] theorem hoist_ok (h : Signature.Hom S T) (g : ε → ε') (a : α) :
    (ok a : Prog S ε α).hoist h g = ok a := rfl
@[simp] theorem hoist_err (h : Signature.Hom S T) (g : ε → ε') (e : ε) :
    (err e : Prog S ε α).hoist h g = err (g e) := rfl
/-- A hoisted program sends the statement of the outer signature, and reads the reply back. -/
@[simp] theorem hoist_act (h : Signature.Hom S T) (g : ε → ε') (i : S.Stmt)
    (k : S.Reply i → Prog S ε α) :
    (act i k).hoist h g =
      act (h.stmt i) fun r => (k (h.reply i r)).hoist h g := rfl

/-- A translated result is the result. -/
@[simp] theorem translate_ok (f : (i : S.Stmt) → Prog T ε (S.Reply i)) (a : α) :
    (ok a : Prog S ε α).translate f = ok a := rfl
@[simp] theorem translate_err (f : (i : S.Stmt) → Prog T ε (S.Reply i)) (e : ε) :
    (err e : Prog S ε α).translate f = err e := rfl
/-- A translated statement is a program, after which the translation goes on. -/
@[simp] theorem translate_act (f : (i : S.Stmt) → Prog T ε (S.Reply i)) (i : S.Stmt)
    (k : S.Reply i → Prog S ε α) :
    (act i k).translate f = (f i).bind fun r => (k r).translate f := rfl

/-- Translating respects sequencing. -/
@[simp] theorem translate_bind (f : (i : S.Stmt) → Prog T ε (S.Reply i)) (p : Prog S ε α)
    (g : α → Prog S ε β) :
    (p.bind g).translate f = (p.translate f).bind fun a => (g a).translate f := by
  induction p with
  | ok a => rfl
  | err e => rfl
  | act i k ih =>
      simp only [act_bind, translate_act, bind_assoc]
      congr 1
      funext r
      exact ih r

/-- A check is the same check in the other signature. -/
@[simp] theorem translate_rejectIf (f : (i : S.Stmt) → Prog T ε (S.Reply i)) (c : Bool)
    (e : ε) : (rejectIf c e).translate f = rejectIf c e := by
  cases c <;> rfl

/-- So is a result that is there already. -/
@[simp] theorem translate_ofExcept (f : (i : S.Stmt) → Prog T ε (S.Reply i))
    (r : Except ε α) : (ofExcept r).translate f = ofExcept r := by
  cases r <;> rfl

@[simp] theorem run_ok (M : Machine S) (a : α) (s : M.State) :
    (ok a : Prog S ε α).run M s = (.ok a, s) := rfl
@[simp] theorem run_err (M : Machine S) (e : ε) (s : M.State) :
    (err e : Prog S ε α).run M s = (.error e, s) := rfl
/-- A program runs statement by statement. -/
@[simp] theorem run_act (M : Machine S) (i : S.Stmt)
    (k : S.Reply i → Prog S ε α) (s : M.State) :
    (act i k).run M s = (k (M.exec i s).1).run M (M.exec i s).2 := rfl

/-- Running a composition runs the first part, then the rest on its value. -/
theorem run_bind (M : Machine S) (p : Prog S ε α) (f : α → Prog S ε β)
    (s : M.State) :
    (p.bind f).run M s =
      match p.run M s with
      | (.ok a, s') => (f a).run M s'
      | (.error e, s') => (.error e, s') := by
  induction p generalizing s with
  | ok a => rfl
  | err e => rfl
  | act i k ih => exact ih _ _

/-- A first part whose run is known. -/
theorem run_bind_of_ok {M : Machine S} {p : Prog S ε α} {f : α → Prog S ε β} {a : α}
    {s s' : M.State} (hp : p.run M s = (.ok a, s')) :
    (p.bind f).run M s = (f a).run M s' := by
  rw [run_bind, hp]

/-- Converting the value of a program does not change what it does. -/
@[simp] theorem run_bind_ok_snd (M : Machine S) (p : Prog S ε α) (g : α → β)
    (s : M.State) : ((p.bind fun a => ok (g a)).run M s).2 = (p.run M s).2 := by
  rw [run_bind]
  cases hrun : p.run M s with
  | mk r s' => cases r <;> rfl

/-- A sequence of checks that succeeds has succeeded step by step. -/
theorem except_bind_ok {r : Except ε α} {f : α → Except ε β} {b : β}
    (h : (r >>= f) = .ok b) : ∃ a, r = .ok a ∧ f a = .ok b := by
  cases r with
  | error e => cases h
  | ok a => exact ⟨a, rfl, h⟩

/-! ## Programs alone -/

/-- Weakest precondition of a solo run. -/
def Wp (M : Machine S) (Q : Except ε α → M.State → Prop) (p : Prog S ε α)
    (s : M.State) : Prop := Q (p.run M s).1 (p.run M s).2

/-- What holds after a program that is over. -/
@[simp] theorem wp_ok {M : Machine S} {Q : Except ε α → M.State → Prop} {a : α}
    {s : M.State} : (ok a : Prog S ε α).Wp M Q s ↔ Q (.ok a) s := Iff.rfl
/-- And after one that has failed. -/
@[simp] theorem wp_err {M : Machine S} {Q : Except ε α → M.State → Prop} {e : ε}
    {s : M.State} : (err e : Prog S ε α).Wp M Q s ↔ Q (.error e) s := Iff.rfl
/-- What holds after a statement holds of its reply and the state behind it. -/
@[simp] theorem wp_act {M : Machine S} {Q : Except ε α → M.State → Prop}
    {i : S.Stmt} {k : S.Reply i → Prog S ε α} {s : M.State} :
    (act i k).Wp M Q s ↔ (k (M.exec i s).1).Wp M Q (M.exec i s).2 := Iff.rfl

/-- Sequencing in a solo run. -/
theorem wp_bind {M : Machine S} {Q : Except ε β → M.State → Prop}
    {p : Prog S ε α} {f : α → Prog S ε β} {s : M.State} :
    (p.bind f).Wp M Q s ↔
      p.Wp M (fun r s =>
        match r with
        | .ok a => (f a).Wp M Q s
        | .error e => Q (.error e) s) s := by
  induction p generalizing s with
  | ok a => exact Iff.rfl
  | err e => exact Iff.rfl
  | act i k ih => exact ih _

/-- Sequencing in a solo run, with the run of the first part in view. -/
theorem wp_run_bind {M : Machine S} {Q : Except ε β → M.State → Prop}
    {p : Prog S ε α} {f : α → Prog S ε β} {s : M.State}
    (hok : ∀ a s', p.run M s = (.ok a, s') → (f a).Wp M Q s')
    (herr : ∀ e s', p.run M s = (.error e, s') → Q (.error e) s') :
    (p.bind f).Wp M Q s := by
  refine wp_bind.mpr ?_
  show match (p.run M s).1 with
    | .ok a => (f a).Wp M Q (p.run M s).2
    | .error e => Q (.error e) (p.run M s).2
  cases hrun : p.run M s with
  | mk r s' =>
      cases r with
      | ok a => exact hok a s' hrun
      | error e => exact herr e s' hrun

/-- Sequencing in a solo run whose first part is known. -/
theorem wp_bind_of_run {M : Machine S} {Q : Except ε β → M.State → Prop}
    {p : Prog S ε α} {f : α → Prog S ε β} {s s' : M.State} {a : α}
    (hrun : p.run M s = (.ok a, s')) (h : (f a).Wp M Q s') : (p.bind f).Wp M Q s := by
  refine wp_bind.mpr ?_
  rw [Wp, hrun]
  exact h

/-- Converting the value at the end changes nothing about the state. -/
theorem wp_bind_ok {M : Machine S} {I : M.State → Prop} {p : Prog S ε α} {g : α → β}
    {s : M.State} (h : p.Wp M (fun _ s' => I s') s) :
    (p.bind fun a => ok (g a)).Wp M (fun _ s' => I s') s := by
  show I ((p.bind fun a => ok (g a)).run M s).2
  rw [run_bind_ok_snd]
  exact h

/-- The rule for one statement and what follows. -/
theorem wp_stmt_bind {M : Machine S} {Q : Except ε α → M.State → Prop}
    {i : S.Stmt} {f : S.Reply i → Prog S ε α} {s : M.State} :
    ((stmt i).bind f).Wp M Q s ↔ (f (M.exec i s).1).Wp M Q (M.exec i s).2 := Iff.rfl

/-- One statement in a solo run, its reply a variable. -/
theorem wp_reply_bind {M : Machine S} {Q : Except ε α → M.State → Prop}
    {i : S.Stmt} {f : S.Reply i → Prog S ε α} {s : M.State}
    (h : ∀ r, r = (M.exec i s).1 → (f r).Wp M Q (M.exec i s).2) :
    ((stmt i).bind f).Wp M Q s := h _ rfl

/-- Catching errors in a solo run. -/
theorem wp_attempt {M : Machine S} {Q : Except ε' (Except ε α) → M.State → Prop}
    {p : Prog S ε α} {s : M.State} :
    (p.attempt : Prog S ε' (Except ε α)).Wp M Q s ↔
      p.Wp M (fun r s => Q (.ok r) s) s := by
  induction p generalizing s with
  | ok a => exact Iff.rfl
  | err e => exact Iff.rfl
  | act i k ih => exact ih _

/-- A check in a solo run. -/
theorem wp_rejectIf {M : Machine S} {Q : Except ε β → M.State → Prop} {c : Bool}
    {e : ε} {f : Unit → Prog S ε β} {s : M.State}
    (herr : c = true → Q (.error e) s) (hok : c = false → (f ()).Wp M Q s) :
    ((rejectIf c e).bind f).Wp M Q s := by
  cases c with
  | true => exact herr rfl
  | false => exact hok rfl

/-- A check at the end of a solo run. -/
theorem wp_rejectIf_last {M : Machine S} {Q : Except ε Unit → M.State → Prop} {c : Bool}
    {e : ε} {s : M.State} (herr : c = true → Q (.error e) s)
    (hok : c = false → Q (.ok ()) s) : (rejectIf c e).Wp M Q s := by
  cases c with
  | true => exact herr rfl
  | false => exact hok rfl

/-- A computation in a solo run. -/
theorem wp_ofExcept {M : Machine S} {Q : Except ε β → M.State → Prop}
    {r : Except ε α} {f : α → Prog S ε β} {s : M.State}
    (herr : ∀ e, r = .error e → Q (.error e) s)
    (hok : ∀ a, r = .ok a → (f a).Wp M Q s) : ((ofExcept r).bind f).Wp M Q s := by
  cases r with
  | ok a => exact hok a rfl
  | error e => exact herr e rfl

/-- Rule of consequence. -/
theorem Wp.mono {M : Machine S} {Q Q' : Except ε α → M.State → Prop}
    {p : Prog S ε α} {s : M.State} (h : p.Wp M Q s)
    (hQ : ∀ r s, Q r s → Q' r s) : p.Wp M Q' s := hQ _ _ h

/-- The loop rule of a solo run. -/
theorem wp_forEach {M : Machine S} {Q : Except ε Unit → M.State → Prop}
    {f : β → Prog S ε Unit} (I : List β → M.State → Prop)
    (hbody : ∀ x xs s, I (x :: xs) s →
      (f x).Wp M (fun r s =>
        match r with
        | .ok _ => I xs s
        | .error e => Q (.error e) s) s)
    (hdone : ∀ s, I [] s → Q (.ok ()) s)
    {xs : List β} {s : M.State} (h : I xs s) : (forEach xs f).Wp M Q s := by
  induction xs generalizing s with
  | nil => exact hdone s h
  | cons x xs ih =>
      refine wp_bind.mpr ((hbody x xs s h).mono ?_)
      intro r s hr
      cases r with
      | ok a => exact ih hr
      | error e => exact hr

/-- The program issues only statements that satisfy `P`. -/
def Within (P : S.Stmt → Prop) : Prog S ε α → Prop
  | ok _ => True
  | err _ => True
  | act i k => P i ∧ ∀ r, Within P (k r)

@[simp] theorem within_ok {P : S.Stmt → Prop} {a : α} :
    (ok a : Prog S ε α).Within P := trivial
@[simp] theorem within_err {P : S.Stmt → Prop} {e : ε} :
    (err e : Prog S ε α).Within P := trivial
@[simp] theorem within_act {P : S.Stmt → Prop} {i : S.Stmt}
    {k : S.Reply i → Prog S ε α} :
    (act i k).Within P ↔ P i ∧ ∀ r, (k r).Within P := Iff.rfl

/-- A larger set of statements allows the program too. -/
theorem Within.mono {P P' : S.Stmt → Prop} {p : Prog S ε α} (hp : p.Within P)
    (h : ∀ i, P i → P' i) : p.Within P' := by
  induction p with
  | ok a => trivial
  | err e => trivial
  | act i k ih => exact ⟨h i hp.1, fun r => ih r (hp.2 r)⟩

/-- A program that obeys two restrictions obeys both at once. -/
theorem Within.and {P P' : S.Stmt → Prop} {p : Prog S ε α} (hp : p.Within P)
    (hp' : p.Within P') : p.Within fun i => P i ∧ P' i := by
  induction p with
  | ok a => trivial
  | err e => trivial
  | act i k ih => exact ⟨⟨hp.1, hp'.1⟩, fun r => ih r (hp.2 r) (hp'.2 r)⟩

/-- A sequence issues what its parts issue. -/
theorem Within.bind {P : S.Stmt → Prop} {p : Prog S ε α} {f : α → Prog S ε β}
    (hp : p.Within P) (hf : ∀ a, (f a).Within P) : (p.bind f).Within P := by
  induction p with
  | ok a => exact hf a
  | err e => trivial
  | act i k ih => exact ⟨hp.1, fun r => ih r (hp.2 r)⟩

/-- The rule for one statement and what follows. -/
theorem Within.stmt_bind {P : S.Stmt → Prop} {i : S.Stmt}
    {f : S.Reply i → Prog S ε α} (hi : P i) (hf : ∀ r, (f r).Within P) :
    ((stmt i).bind f).Within P := ⟨hi, hf⟩

/-- A check issues nothing. -/
theorem Within.rejectIf {P : S.Stmt → Prop} {c : Bool} {e : ε} :
    (Prog.rejectIf c e : Prog S ε Unit).Within P := by
  cases c <;> trivial

/-- A result that is there already issues nothing. -/
theorem Within.ofExcept {P : S.Stmt → Prop} {r : Except ε α} :
    (Prog.ofExcept r : Prog S ε α).Within P := by
  cases r <;> trivial

/-- Behind a check its condition is known. -/
theorem Within.rejectIf_bind {P : S.Stmt → Prop} {c : Bool} {e : ε} {f : Unit → Prog S ε α}
    (hok : c = false → (f ()).Within P) : ((Prog.rejectIf c e).bind f).Within P := by
  cases c with
  | true => trivial
  | false => exact hok rfl

/-- Behind a computation its outcome is known. -/
theorem Within.ofExcept_bind {P : S.Stmt → Prop} {r : Except ε α} {f : α → Prog S ε β}
    (hok : ∀ a, r = .ok a → (f a).Within P) : ((Prog.ofExcept r).bind f).Within P := by
  cases r with
  | error e => trivial
  | ok a => exact hok a rfl

/-- A loop issues what its rounds issue. -/
theorem Within.forEach {P : S.Stmt → Prop} {f : β → Prog S ε Unit}
    (hf : ∀ x, (f x).Within P) (xs : List β) : (forEach xs f).Within P := by
  induction xs with
  | nil => trivial
  | cons x xs ih => exact (hf x).bind fun _ => ih

/-- Catching an error issues nothing more. -/
theorem Within.attempt {P : S.Stmt → Prop} {p : Prog S ε α} (hp : p.Within P) :
    (p.attempt : Prog S ε' (Except ε α)).Within P := by
  induction p with
  | ok a => trivial
  | err e => trivial
  | act i k ih => exact ⟨hp.1, fun r => ih r (hp.2 r)⟩

/-- A translated program issues what the images of its statements issue. -/
theorem Within.translate {P : S.Stmt → Prop} {P' : T.Stmt → Prop}
    {f : (i : S.Stmt) → Prog T ε (S.Reply i)} (hf : ∀ i, P i → (f i).Within P')
    {p : Prog S ε α} (hp : p.Within P) : (p.translate f).Within P' := by
  induction p with
  | ok a => trivial
  | err e => trivial
  | act i k ih => exact (hf i hp.1).bind fun r => ih r (hp.2 r)

/-- A hoisted program issues the images of its statements. -/
theorem Within.hoist {P : T.Stmt → Prop} {h : Signature.Hom S T} {g : ε → ε'}
    {p : Prog S ε α} (hp : p.Within fun i => P (h.stmt i)) :
    (p.hoist h g).Within P := by
  induction p with
  | ok a => trivial
  | err e => trivial
  | act i k ih => exact ⟨hp.1, fun r => ih _ (hp.2 _)⟩

/-- A relation that every statement of the program respects is respected by
the whole solo run. -/
theorem Within.run_respects {M : Machine S} {r : M.State → M.State → Prop}
    (hrefl : ∀ s, r s s) (htrans : ∀ a b c, r a b → r b c → r a c)
    {p : Prog S ε α} (hp : p.Within fun i => ∀ s, r s (M.exec i s).2)
    (s : M.State) : r s (p.run M s).2 := by
  induction p generalizing s with
  | ok a => exact hrefl s
  | err e => exact hrefl s
  | act i k ih => exact htrans _ _ _ (hp.1 s) (ih _ (hp.2 _) _)

/-! ## Invariants of solo runs -/

/-- Run alone, the program takes `I` to `I`, whether it succeeds or fails, and
what it returns satisfies `R`. -/
def Keeps (M : Machine S) (I : M.State → Prop) (R : α → Prop) (p : Prog S ε α) : Prop :=
  ∀ s, I s → p.Wp M (fun r s' => I s' ∧ ∀ a, r = .ok a → R a) s

section Keeps

variable {M : Machine S} {I : M.State → Prop} {R : α → Prop} {R' : β → Prop}

/-- A program that is over keeps any invariant. -/
theorem keeps_ok {a : α} (h : R a) : (ok a : Prog S ε α).Keeps M I R :=
  fun _ hs => ⟨hs, fun b hb => by cases hb; exact h⟩

/-- A failed one has no result to say anything about. -/
theorem keeps_err (e : ε) : (err e : Prog S ε α).Keeps M I R :=
  fun _ hs => ⟨hs, fun _ hb => by cases hb⟩

/-- A statement keeps the invariant that its execution keeps. -/
theorem keeps_stmt {i : S.Stmt} {R : S.Reply i → Prop} (h : ∀ s, I s → I (M.exec i s).2)
    (hR : ∀ s, I s → R (M.exec i s).1) : (stmt i : Prog S ε (S.Reply i)).Keeps M I R :=
  fun s hs => ⟨h s hs, fun b hb => by cases hb; exact hR s hs⟩

/-- **Sequence rule**: the second program may use what is known of the first one's result. -/
theorem Keeps.bind {p : Prog S ε α} {f : α → Prog S ε β} (hp : p.Keeps M I R)
    (hf : ∀ a, R a → (f a).Keeps M I R') : (p.bind f).Keeps M I R' := by
  intro s hs
  refine wp_bind.mpr ((hp s hs).mono ?_)
  intro r s' hr
  cases r with
  | ok a => exact hf a (hr.2 a rfl) s' hr.1
  | error e => exact ⟨hr.1, fun _ h => by cases h⟩

/-- Less may be said about the result. -/
theorem Keeps.mono {R' : α → Prop} {p : Prog S ε α} (hp : p.Keeps M I R)
    (h : ∀ a, R a → R' a) : p.Keeps M I R' :=
  fun s hs => (hp s hs).mono fun _ _ hr => ⟨hr.1, fun a ha => h a (hr.2 a ha)⟩

/-- What follows a program that keeps an invariant. -/
theorem Keeps.wp_bind {Q : Except ε β → M.State → Prop} {p : Prog S ε α}
    {f : α → Prog S ε β} {s : M.State} (hp : p.Keeps M I R) (hs : I s)
    (herr : ∀ e s', I s' → Q (.error e) s')
    (hok : ∀ a s', I s' → R a → (f a).Wp M Q s') : (p.bind f).Wp M Q s := by
  refine Prog.wp_bind.mpr ((hp s hs).mono ?_)
  intro r s' hr
  cases r with
  | ok a => exact hok a s' hr.1 (hr.2 a rfl)
  | error e => exact herr e s' hr.1

/-- A check tells its condition to what follows. -/
theorem keeps_rejectIf {c : Bool} {e : ε} :
    (rejectIf c e : Prog S ε Unit).Keeps M I fun _ => c = false := by
  cases c
  · exact keeps_ok rfl
  · exact keeps_err e

/-- A result that is there already is known. -/
theorem keeps_ofExcept {r : Except ε α} :
    (ofExcept r : Prog S ε α).Keeps M I fun a => r = .ok a := by
  cases r with
  | ok a => exact keeps_ok rfl
  | error e => exact keeps_err e

/-- Where the error is caught, nothing is said about the result. -/
theorem Keeps.attempt {p : Prog S ε α} (hp : p.Keeps M I R) :
    (p.attempt : Prog S ε' (Except ε α)).Keeps M I fun _ => True := by
  intro s hs
  refine wp_attempt.mpr ((hp s hs).mono ?_)
  intro r s' hr
  exact ⟨hr.1, fun _ _ => trivial⟩

/-- A program of statements that keep the invariant one by one. -/
theorem Within.keeps {p : Prog S ε α}
    (hp : p.Within fun i => ∀ s, I s → I (M.exec i s).2) :
    p.Keeps M I fun _ => True := by
  induction p with
  | ok a => exact keeps_ok trivial
  | err e => exact keeps_err e
  | act i k ih => exact fun s hs => ih _ (hp.2 _) _ (hp.1 s hs)

end Keeps

/-- Run alone from `s`, the program ends in `I`, whether it succeeds or fails, and
what it returns is related to the state it leaves by `K`. -/
def Ends (M : Machine S) (I : M.State → Prop) (K : α → M.State → Prop) (p : Prog S ε α)
    (s : M.State) : Prop :=
  p.Wp M (fun r s' => I s' ∧ ∀ a, r = .ok a → K a s') s

section Ends

variable {M : Machine S} {I : M.State → Prop} {K : α → M.State → Prop}
  {K' : β → M.State → Prop} {s : M.State}

/-- A program that is over ends where it stands. -/
theorem ends_ok {a : α} (hs : I s) (h : K a s) : (ok a : Prog S ε α).Ends M I K s :=
  ⟨hs, fun b hb => by cases hb; exact h⟩

/-- A failure leaves the invariant, and nothing else. -/
theorem ends_err (hs : I s) (e : ε) : (err e : Prog S ε α).Ends M I K s :=
  ⟨hs, fun _ hb => by cases hb⟩

/-- **Sequence rule**: the second program starts where the first one ends. -/
theorem Ends.bind {p : Prog S ε α} {f : α → Prog S ε β} (hp : p.Ends M I K s)
    (hf : ∀ a s', I s' → K a s' → (f a).Ends M I K' s') : (p.bind f).Ends M I K' s := by
  refine wp_bind.mpr (Wp.mono hp ?_)
  intro r s' hr
  cases r with
  | ok a => exact hf a s' hr.1 (hr.2 a rfl)
  | error e => exact ⟨hr.1, fun _ h => by cases h⟩

/-- Less may be said about the end. -/
theorem Ends.mono {K' : α → M.State → Prop} {p : Prog S ε α} (hp : p.Ends M I K s)
    (h : ∀ a s', K a s' → K' a s') : p.Ends M I K' s :=
  Wp.mono hp fun _ _ hr => ⟨hr.1, fun a ha => h a _ (hr.2 a ha)⟩

/-- A weaker invariant; the stronger one is known where the program ends well. -/
theorem Ends.weaken {I' : M.State → Prop} {p : Prog S ε α} (hp : p.Ends M I K s)
    (h : ∀ s, I s → I' s) : p.Ends M I' (fun a s' => I s' ∧ K a s') s :=
  Wp.mono hp fun _ _ hr => ⟨h _ hr.1, fun a ha => ⟨hr.1, hr.2 a ha⟩⟩

end Ends

/-- Run alone from `s`, the program succeeds, and what it returns is related to the
state it leaves by `K`. -/
def Succeeds (M : Machine S) (K : α → M.State → Prop) (p : Prog S ε α) (s : M.State) : Prop :=
  p.Wp M (fun r s' => ∃ a, r = .ok a ∧ K a s') s

section Succeeds

variable {M : Machine S} {K : α → M.State → Prop} {K' : β → M.State → Prop} {s : M.State}

/-- A program that is over has succeeded. -/
theorem succeeds_ok {a : α} (h : K a s) : (ok a : Prog S ε α).Succeeds M K s := ⟨a, rfl, h⟩

/-- A statement always succeeds. -/
theorem succeeds_stmt {i : S.Stmt} {K : S.Reply i → M.State → Prop}
    (h : K (M.exec i s).1 (M.exec i s).2) :
    (stmt i : Prog S ε (S.Reply i)).Succeeds M K s := ⟨_, rfl, h⟩

/-- After a statement, what follows has to succeed. -/
theorem Succeeds.stmt_bind {i : S.Stmt} {f : S.Reply i → Prog S ε α}
    (h : (f (M.exec i s).1).Succeeds M K (M.exec i s).2) :
    (Prog.bind (stmt i) f).Succeeds M K s := h

/-- **Sequence rule**: the second program succeeds from where the first one ends. -/
theorem Succeeds.bind {p : Prog S ε α} {f : α → Prog S ε β} (hp : p.Succeeds M K s)
    (hf : ∀ a s', K a s' → (f a).Succeeds M K' s') : (p.bind f).Succeeds M K' s := by
  refine wp_bind.mpr (Wp.mono hp ?_)
  rintro r s' ⟨a, rfl, ha⟩
  exact hf a s' ha

/-- Less may be said about the end. -/
theorem Succeeds.mono {K' : α → M.State → Prop} {p : Prog S ε α} (hp : p.Succeeds M K s)
    (h : ∀ a s', K a s' → K' a s') : p.Succeeds M K' s := by
  refine Wp.mono hp ?_
  rintro r s' ⟨a, hr, ha⟩
  exact ⟨a, hr, h a s' ha⟩

/-- What every statement of the program respects is known in the end as well. -/
theorem Succeeds.respects {r : M.State → M.State → Prop} (hrefl : ∀ s, r s s)
    (htrans : ∀ a b c, r a b → r b c → r a c) {p : Prog S ε α} (hp : p.Succeeds M K s)
    (hwithin : p.Within fun i => ∀ s, r s (M.exec i s).2) :
    p.Succeeds M (fun a s' => r s s' ∧ K a s') s := by
  obtain ⟨a, ha, hK⟩ := hp
  exact ⟨a, ha, Within.run_respects hrefl htrans hwithin s, hK⟩

/-- The loop rule for what does not depend on the elements. -/
theorem succeeds_forEach {I : M.State → Prop} {f : β → Prog S ε Unit} (xs : List β)
    (hf : ∀ x ∈ xs, ∀ s, I s → (f x).Succeeds M (fun _ s' => I s') s) (hs : I s) :
    (forEach xs f).Succeeds M (fun _ s' => I s') s := by
  induction xs generalizing s with
  | nil => exact succeeds_ok hs
  | cons x xs ih =>
      refine Succeeds.bind (hf x (List.mem_cons_self ..) s hs) fun _ s' hs' => ?_
      exact ih (fun y hy => hf y (List.mem_cons_of_mem _ hy)) hs'

end Succeeds

/-- A postcondition of a solo run that speaks about success only. -/
def OnSuccess {M : Machine S} (K : α → M.State → Prop) (r : Except ε α) (s : M.State) :
    Prop := ∀ a, r = .ok a → K a s

section OnSuccess

variable {M : Machine S} {s : M.State}

/-- A failure meets any condition on successes. -/
theorem onSuccess_error {K : α → M.State → Prop} (e : ε) :
    OnSuccess K (.error e : Except ε α) s := fun _ h => by cases h

/-- A failed program meets any condition on successes. -/
theorem wp_err_success {K : α → M.State → Prop} (e : ε) :
    (err e : Prog S ε α).Wp M (OnSuccess K) s := onSuccess_error e

/-- A finished program has to meet it. -/
theorem wp_ok_success {K : α → M.State → Prop} {a : α} (h : K a s) :
    (ok a : Prog S ε α).Wp M (OnSuccess K) s := fun _ hb => by cases hb; exact h

/-- Sequencing when only success matters. -/
theorem Wp.bind_success {K : α → M.State → Prop} {K' : β → M.State → Prop}
    {p : Prog S ε α} {f : α → Prog S ε β} (hp : p.Wp M (OnSuccess K) s)
    (hf : ∀ a s', K a s' → (f a).Wp M (OnSuccess K') s') :
    (p.bind f).Wp M (OnSuccess K') s := by
  refine wp_bind.mpr (hp.mono ?_)
  intro r s' hr
  cases r with
  | ok a => exact hf a s' (hr a rfl)
  | error e => exact fun _ h => by cases h

/-- A check when only success matters. -/
theorem wp_rejectIf_success {K : β → M.State → Prop} {c : Bool} {e : ε}
    {f : Unit → Prog S ε β} (hok : c = false → (f ()).Wp M (OnSuccess K) s) :
    ((rejectIf c e).bind f).Wp M (OnSuccess K) s :=
  wp_rejectIf (fun _ _ h => by cases h) hok

/-- A computation when only success matters. -/
theorem wp_ofExcept_success {K : β → M.State → Prop} {r : Except ε α}
    {f : α → Prog S ε β} (hok : ∀ a, r = .ok a → (f a).Wp M (OnSuccess K) s) :
    ((ofExcept r).bind f).Wp M (OnSuccess K) s :=
  wp_ofExcept (fun _ _ _ h => by cases h) hok

/-- A fact about the state that holds in any case. -/
theorem Wp.success {I : M.State → Prop} {p : Prog S ε α} (h : p.Wp M (fun _ s' => I s') s) :
    p.Wp M (OnSuccess fun _ s' => I s') s := fun _ _ => h

/-- What ends in a failure does not succeed. -/
theorem wp_bind_err_success {K : β → M.State → Prop} (p : Prog S ε α) (e : ε) :
    (p.bind fun _ => err e).Wp M (OnSuccess K) s := by
  have hany : p.Wp M (OnSuccess fun _ _ => True) s := fun _ _ => trivial
  exact hany.bind_success fun _ _ _ => wp_err_success e

/-- The loop rule when only success matters. -/
theorem wp_forEach_success {K : M.State → Prop} {f : β → Prog S ε Unit}
    (I : List β → M.State → Prop)
    (hbody : ∀ x xs s, I (x :: xs) s → (f x).Wp M (OnSuccess fun _ s' => I xs s') s)
    (hdone : ∀ s, I [] s → K s) {xs : List β} (h : I xs s) :
    (forEach xs f).Wp M (OnSuccess fun _ s' => K s') s := by
  induction xs generalizing s with
  | nil => exact wp_ok_success (hdone s h)
  | cons x xs ih => exact (hbody x xs s h).bind_success fun _ s' hs' => ih hs'

end OnSuccess

/-! ## Lookups -/

/-- Run alone from `s`, the program leaves the state as it is, and what it
returns satisfies `K`. -/
def Looks (M : Machine S) (s : M.State) (K : α → Prop) (p : Prog S ε α) : Prop :=
  p.Wp M (fun r s' => s' = s ∧ ∀ a, r = .ok a → K a) s

section Looks

variable {M : Machine S} {s : M.State} {K : α → Prop} {K' : β → Prop}

/-- A program that is over has changed nothing. -/
theorem looks_ok {a : α} (h : K a) : (ok a : Prog S ε α).Looks M s K :=
  ⟨rfl, fun b hb => by cases hb; exact h⟩

/-- Nor has a failed one. -/
theorem looks_err (e : ε) : (err e : Prog S ε α).Looks M s K := ⟨rfl, fun _ h => by cases h⟩

/-- What follows a lookup runs in the same state. -/
theorem Looks.wp_bind {Q : Except ε β → M.State → Prop} {p : Prog S ε α}
    {f : α → Prog S ε β} (hp : p.Looks M s K) (herr : ∀ e, Q (.error e) s)
    (hok : ∀ a, K a → (f a).Wp M Q s) : (p.bind f).Wp M Q s := by
  refine Prog.wp_bind.mpr (Wp.mono hp ?_)
  rintro r s' ⟨rfl, hr⟩
  cases r with
  | ok a => exact hok a (hr a rfl)
  | error e => exact herr e

/-- Two programs that only look, one after the other. -/
theorem Looks.bind {p : Prog S ε α} {f : α → Prog S ε β} (hp : p.Looks M s K)
    (hf : ∀ a, K a → (f a).Looks M s K') : (p.bind f).Looks M s K' :=
  hp.wp_bind (fun _ => ⟨rfl, fun _ h => by cases h⟩) hf

/-- A lookup when an invariant is kept. -/
theorem Looks.bind_ends {I : M.State → Prop} {Q : β → M.State → Prop} {p : Prog S ε α}
    {f : α → Prog S ε β} (hp : p.Looks M s K) (hs : I s)
    (hf : ∀ a, K a → (f a).Ends M I Q s) : (p.bind f).Ends M I Q s :=
  hp.wp_bind (fun _ => ⟨hs, fun _ h => by cases h⟩) hf

/-- A lookup when only success matters. -/
theorem Looks.bind_success {Q : β → M.State → Prop} {p : Prog S ε α} {f : α → Prog S ε β}
    (hp : p.Looks M s K) (hf : ∀ a, K a → (f a).Wp M (OnSuccess Q) s) :
    (p.bind f).Wp M (OnSuccess Q) s :=
  hp.wp_bind (fun _ _ h => by cases h) hf

/-- Less may be said about what was seen. -/
theorem Looks.mono {K' : α → Prop} {p : Prog S ε α} (hp : p.Looks M s K)
    (h : ∀ a, K a → K' a) : p.Looks M s K' :=
  Wp.mono hp fun _ _ hr => ⟨hr.1, fun a ha => h a (hr.2 a ha)⟩

/-- A statement that leaves the state as it is. -/
theorem looks_stmt {i : S.Stmt} (hs : (M.exec i s).2 = s) :
    (stmt i : Prog S ε (S.Reply i)).Looks M s fun r => r = (M.exec i s).1 :=
  ⟨hs, fun _ h => by cases h; rfl⟩

/-- A check that was passed tells its condition. -/
theorem looks_rejectIf {c : Bool} {e : ε} :
    (rejectIf c e : Prog S ε Unit).Looks M s fun _ => c = false := by
  cases c
  · exact looks_ok rfl
  · exact looks_err e

/-- A result that is there already changes nothing. -/
theorem looks_ofExcept {r : Except ε α} :
    (ofExcept r : Prog S ε α).Looks M s fun a => r = .ok a := by
  cases r with
  | ok a => exact looks_ok rfl
  | error e => exact looks_err e

end Looks

end Prog

/-- The statements of `S`, executed through those of `T`. -/
@[reducible] def Machine.pullback {S T : Signature} (N : Machine T)
    (h : Signature.Hom S T) : Machine S where
  State := N.State
  exec i s := (h.reply i (N.exec (h.stmt i) s).1, (N.exec (h.stmt i) s).2)
  enabled i s := N.enabled (h.stmt i) s

namespace Prog

variable {S T : Signature} {ε ε' α : Type}

/-- A program issued through another signature runs as it does on the pulled-back
machine. -/
theorem run_hoist (N : Machine T) (h : Signature.Hom S T) (g : ε → ε')
    (p : Prog S ε α) (s : N.State) :
    (p.hoist h g).run N s =
      ((p.run (N.pullback h) s).1.mapError g, (p.run (N.pullback h) s).2) := by
  induction p generalizing s with
  | ok a => rfl
  | err e => rfl
  | act i k ih => exact ih _ _

/-- A program issued on a part of the state runs as it does on the part alone. -/
theorem run_hoist_part {M : Machine S} {N : Machine T} {h : Signature.Hom S T} {g : ε → ε'}
    {view : N.State → M.State}
    (hview : ∀ i s, h.reply i (N.exec (h.stmt i) s).1 = (M.exec i (view s)).1 ∧
      view (N.exec (h.stmt i) s).2 = (M.exec i (view s)).2) (p : Prog S ε α) (s : N.State) :
    ((p.hoist h g).run N s).1 = (p.run M (view s)).1.mapError g ∧
      view ((p.hoist h g).run N s).2 = (p.run M (view s)).2 := by
  induction p generalizing s with
  | ok a => exact ⟨rfl, rfl⟩
  | err e => exact ⟨rfl, rfl⟩
  | act i k ih =>
      obtain ⟨hreply, hstate⟩ := hview i s
      have hrest := ih (h.reply i (N.exec (h.stmt i) s).1) (N.exec (h.stmt i) s).2
      rw [run_act, ← hreply, ← hstate]
      exact hrest

/-- A program succeeds inside a larger machine as it does in its own. -/
theorem Succeeds.hoist {M : Machine S} {N : Machine T} {h : Signature.Hom S T} {g : ε → ε'}
    {view : N.State → M.State} {K : α → M.State → Prop} {p : Prog S ε α} {s : N.State}
    (hview : ∀ i s, h.reply i (N.exec (h.stmt i) s).1 = (M.exec i (view s)).1 ∧
      view (N.exec (h.stmt i) s).2 = (M.exec i (view s)).2)
    (hp : p.Succeeds M K (view s)) :
    (p.hoist h g).Succeeds N (fun a s' => K a (view s')) s := by
  obtain ⟨a, ha, hK⟩ := hp
  obtain ⟨hresult, hstate⟩ := run_hoist_part (g := g) hview p s
  refine ⟨a, ?_, ?_⟩
  · rw [hresult, ha]
    rfl
  · show K a (view _)
    rw [hstate]
    exact hK

/-- A program whose statements are issued as programs that do the same runs alone as
it does. -/
theorem run_translate {M : Machine S} {N : Machine T} {f : (i : S.Stmt) → Prog T ε (S.Reply i)}
    {view : N.State → M.State}
    (hf : ∀ i s, ∃ s', (f i).run N s = (.ok (M.exec i (view s)).1, s') ∧
      view s' = (M.exec i (view s)).2) (p : Prog S ε α) (s : N.State) :
    ((p.translate f).run N s).1 = (p.run M (view s)).1 ∧
      view ((p.translate f).run N s).2 = (p.run M (view s)).2 := by
  induction p generalizing s with
  | ok a => exact ⟨rfl, rfl⟩
  | err e => exact ⟨rfl, rfl⟩
  | act i k ih =>
      obtain ⟨s', hrun, hview⟩ := hf i s
      rw [translate_act, run_bind, hrun, run_act, ← hview]
      exact ih _ s'

/-- What holds after a hoisted program is what holds after it in the pulled-back machine. -/
theorem wp_hoist {N : Machine T} {h : Signature.Hom S T} {g : ε → ε'}
    {p : Prog S ε α} {Q : Except ε' α → N.State → Prop} {s : N.State} :
    (p.hoist h g).Wp N Q s ↔
      p.Wp (N.pullback h) (fun r s => Q (r.mapError g) s) s := by
  simp only [Wp, run_hoist]

/-- So an invariant of the outer machine is kept, where the pulled-back machine keeps it. -/
theorem Keeps.hoist {N : Machine T} {h : Signature.Hom S T} {g : ε → ε'}
    {I : N.State → Prop} {R : α → Prop} {p : Prog S ε α}
    (hp : p.Keeps (N.pullback h) I R) : (p.hoist h g).Keeps N I R := by
  intro s hs
  refine wp_hoist.mpr ((hp s hs).mono ?_)
  intro r s' hr
  refine ⟨hr.1, fun a ha => hr.2 a ?_⟩
  cases r with
  | ok b => cases ha; rfl
  | error e => cases ha

/-! ## Programs under interference -/

/-- The statements a program has issued so far, each with the state in which
it ran. -/
abbrev Trace (M : Machine S) := List (S.Stmt × M.State)

end Prog

/-- What the parties of a shared state promise each other.  `inv` holds in
every state and whatever the others do moves the state along `rely`.  When a
statement runs, `own` is what the surroundings promise about the state it runs
in, and `guar` is what its program has to show about that state; both know the
trace of the program so far. -/
structure Discipline {S : Signature} (M : Machine S) where
  inv : M.State → Prop
  rely : M.State → M.State → Prop
  own : Prog.Trace M → S.Stmt → M.State → Prop
  guar : Prog.Trace M → S.Stmt → M.State → Prop
  refl : ∀ s, rely s s
  trans : ∀ a b c, rely a b → rely b c → rely a c
  step : ∀ tr i s, inv s → own tr i s → guar tr i s →
    inv (M.exec i s).2 ∧ rely s (M.exec i s).2

namespace Prog

variable {S : Signature} {ε α β : Type} {M : Machine S} (D : Discipline M)

/-- `p.Ensures D Q tr s`: started in `s` with the trace `tr` behind it, and
with the others moving the state along `D.rely` before every statement, `p`
keeps its guarantee at every statement and can only finish in a result and
state satisfying `Q`. -/
def Ensures (Q : Trace M → Except ε α → M.State → Prop) :
    Prog S ε α → Trace M → M.State → Prop
  | ok a, tr, s => ∀ s', D.rely s s' → D.inv s' → Q tr (.ok a) s'
  | err e, tr, s => ∀ s', D.rely s s' → D.inv s' → Q tr (.error e) s'
  | act i k, tr, s => ∀ s', D.rely s s' → D.inv s' → D.own tr i s' →
      D.guar tr i s' ∧
        Ensures Q (k (M.exec i s').1) (tr ++ [(i, s')]) (M.exec i s').2

variable {D} {Q Q' : Trace M → Except ε α → M.State → Prop}

/-- The others may move first. -/
theorem Ensures.of_rely {p : Prog S ε α} {tr : Trace M} {s s' : M.State}
    (h : p.Ensures D Q tr s) (hr : D.rely s s') : p.Ensures D Q tr s' := by
  cases p with
  | ok a => exact fun t ht => h t (D.trans _ _ _ hr ht)
  | err e => exact fun t ht => h t (D.trans _ _ _ hr ht)
  | act i k => exact fun t ht => h t (D.trans _ _ _ hr ht)

/-- A program that keeps its guarantee in company keeps it alone. -/
theorem Ensures.solo {p : Prog S ε α} {tr : Trace M} {s : M.State}
    (h : p.Ensures D Q tr s) (hinv : D.inv s) (hown : ∀ tr i s, D.own tr i s) :
    p.Wp M (fun r s' => D.inv s' ∧ D.rely s s' ∧ ∃ tr', Q tr' r s') s := by
  induction p generalizing tr s with
  | ok a => exact ⟨hinv, D.refl s, tr, h s (D.refl s) hinv⟩
  | err e => exact ⟨hinv, D.refl s, tr, h s (D.refl s) hinv⟩
  | act i k ih =>
      obtain ⟨hguar, hrest⟩ := h s (D.refl s) hinv (hown tr i s)
      obtain ⟨hinv', hrely⟩ := D.step tr i s hinv (hown tr i s) hguar
      refine wp_act.mpr ((ih _ hrest hinv').mono ?_)
      intro r s' h'
      obtain ⟨hend, hrely', hQ⟩ := h'
      exact ⟨hend, D.trans _ _ _ hrely hrely', hQ⟩

/-- Weaken the postcondition. -/
theorem Ensures.mono {p : Prog S ε α} {tr : Trace M} {s : M.State}
    (h : p.Ensures D Q tr s) (hQ : ∀ tr r s, Q tr r s → Q' tr r s) :
    p.Ensures D Q' tr s := by
  induction p generalizing tr s with
  | ok a => exact fun t ht hi => hQ _ _ _ (h t ht hi)
  | err e => exact fun t ht hi => hQ _ _ _ (h t ht hi)
  | act i k ih =>
      intro t ht hi ho
      obtain ⟨hg, hrest⟩ := h t ht hi ho
      exact ⟨hg, ih _ hrest⟩

/-- **Sequencing.**  The continuation starts in the state, and with the trace,
that the first part leaves. -/
theorem Ensures.bind {Q : Trace M → Except ε β → M.State → Prop}
    {p : Prog S ε α} {f : α → Prog S ε β} {tr : Trace M} {s : M.State}
    (hs : D.inv s)
    (h : p.Ensures D (fun tr r s =>
      match r with
      | .ok a => D.inv s → (f a).Ensures D Q tr s
      | .error e => Q tr (.error e) s) tr s) :
    (p.bind f).Ensures D Q tr s := by
  induction p generalizing tr s with
  | ok a => exact h s (D.refl s) hs hs
  | err e => exact h
  | act i k ih =>
      intro t ht hi ho
      obtain ⟨hg, hrest⟩ := h t ht hi ho
      exact ⟨hg, ih _ (D.step _ i t hi ho hg).1 hrest⟩

/-- A program whose statements all keep the guarantee, and nothing more. -/
theorem Ensures.of_within {P : S.Stmt → Prop}
    (hP : ∀ tr i s, P i → D.inv s → D.own tr i s → D.guar tr i s)
    {p : Prog S ε α} (hp : p.Within P) (tr : Trace M) (s : M.State) :
    p.Ensures D (fun _ _ _ => True) tr s := by
  induction p generalizing tr s with
  | ok a => exact fun _ _ _ => trivial
  | err e => exact fun _ _ _ => trivial
  | act i k ih =>
      intro t ht hi ho
      exact ⟨hP tr i t hp.1 hi ho, ih _ (hp.2 _) _ _⟩

/-- Two things that are ensured are ensured together. -/
theorem Ensures.and {p : Prog S ε α} {tr : Trace M} {s : M.State}
    (h : p.Ensures D Q tr s) (h' : p.Ensures D Q' tr s) :
    p.Ensures D (fun tr r s => Q tr r s ∧ Q' tr r s) tr s := by
  induction p generalizing tr s with
  | ok a => exact fun t ht hi => ⟨h t ht hi, h' t ht hi⟩
  | err e => exact fun t ht hi => ⟨h t ht hi, h' t ht hi⟩
  | act i k ih =>
      intro t ht hi ho
      obtain ⟨hg, hrest⟩ := h t ht hi ho
      exact ⟨hg, ih _ hrest (h' t ht hi ho).2⟩

/-- A program only adds to its trace. -/
theorem Ensures.with_past {p : Prog S ε α} {tr : Trace M} {s : M.State}
    (h : p.Ensures D Q tr s) :
    p.Ensures D (fun tr' r s => tr <+: tr' ∧ Q tr' r s) tr s := by
  induction p generalizing tr s with
  | ok a => exact fun t ht hi => ⟨List.prefix_rfl, h t ht hi⟩
  | err e => exact fun t ht hi => ⟨List.prefix_rfl, h t ht hi⟩
  | act i k ih =>
      intro t ht hi ho
      obtain ⟨hg, hrest⟩ := h t ht hi ho
      refine ⟨hg, (ih _ hrest).mono ?_⟩
      rintro tr' r s' ⟨hpre, hQ⟩
      exact ⟨(List.prefix_append _ _).trans hpre, hQ⟩

/-- Program and surroundings together move the state along the rely
relation. -/
theorem Ensures.with_rely {p : Prog S ε α} {tr : Trace M} {s : M.State}
    (h : p.Ensures D Q tr s) :
    p.Ensures D (fun tr r s' => D.rely s s' ∧ Q tr r s') tr s := by
  induction p generalizing tr s with
  | ok a => exact fun t ht hi => ⟨ht, h t ht hi⟩
  | err e => exact fun t ht hi => ⟨ht, h t ht hi⟩
  | act i k ih =>
      intro t ht hi ho
      obtain ⟨hg, hrest⟩ := h t ht hi ho
      have hstep := D.trans _ _ _ ht (D.step _ i t hi ho hg).2
      refine ⟨hg, (ih _ hrest).mono ?_⟩
      rintro tr' r s' ⟨hr, hQ⟩
      exact ⟨D.trans _ _ _ hstep hr, hQ⟩

/-- What a program ensures from the states that satisfy `F` it ensures of
every run whose first statement ran in such a state. -/
theorem Ensures.from_first {F : M.State → Prop} {p : Prog S ε α} {s : M.State}
    (hs : D.inv s) (h : ∀ s, D.inv s → p.Ensures D Q' [] s)
    (hF : ∀ s, D.inv s → F s → p.Ensures D Q [] s) :
    p.Ensures D (fun tr r s =>
      Q' tr r s ∧ ((∃ e ∈ tr.head?, F e.2) → Q tr r s)) [] s := by
  cases p with
  | ok a =>
      refine fun t ht hi => ⟨h s hs t ht hi, ?_⟩
      rintro ⟨e, he, -⟩
      cases he
  | err e =>
      refine fun t ht hi => ⟨h s hs t ht hi, ?_⟩
      rintro ⟨e, he, -⟩
      cases he
  | act i k =>
      intro t ht hi ho
      obtain ⟨hg, hrest⟩ := h s hs t ht hi ho
      refine ⟨hg, ?_⟩
      by_cases hFt : F t
      · have hrest' := (hF t hi hFt t (D.refl t) hi ho).2
        exact (hrest.and hrest').mono fun tr r s hQ => ⟨hQ.1, fun _ => hQ.2⟩
      · refine hrest.with_past.mono ?_
        rintro tr r s ⟨⟨rest, rfl⟩, hQ⟩
        refine ⟨hQ, ?_⟩
        rintro ⟨e, he, hFe⟩
        simp only [List.nil_append, List.cons_append, List.head?_cons,
          Option.mem_some_iff] at he
        subst he
        exact absurd hFe hFt

/-- One statement: the others move, then it runs with its guarantee. -/
theorem Ensures.stmt_bind {i : S.Stmt} {f : S.Reply i → Prog S ε α} {tr : Trace M}
    {s : M.State}
    (h : ∀ s', D.rely s s' → D.inv s' → D.own tr i s' → D.guar tr i s' ∧
      (D.inv (M.exec i s').2 →
        (f (M.exec i s').1).Ensures D Q (tr ++ [(i, s')]) (M.exec i s').2)) :
    ((stmt i).bind f).Ensures D Q tr s := by
  intro s' hr hi ho
  obtain ⟨hg, hf⟩ := h s' hr hi ho
  exact ⟨hg, hf (D.step _ i s' hi ho hg).1⟩

/-- Catching a failure: the continuation sees both outcomes as values. -/
theorem Ensures.attempt {ε' : Type}
    {Q : Trace M → Except ε' (Except ε α) → M.State → Prop}
    {p : Prog S ε α} {tr : Trace M} {s : M.State}
    (h : p.Ensures D (fun tr r s => Q tr (.ok r) s) tr s) :
    (p.attempt : Prog S ε' (Except ε α)).Ensures D Q tr s := by
  induction p generalizing tr s with
  | ok a => exact h
  | err e => exact h
  | act i k ih =>
      intro t ht hi ho
      obtain ⟨hg, hrest⟩ := h t ht hi ho
      exact ⟨hg, ih _ hrest⟩

/-- A check: the failure and the continuation are two separate goals. -/
theorem Ensures.rejectIf {Q : Trace M → Except ε β → M.State → Prop} {c : Bool}
    {e : ε} {f : Unit → Prog S ε β} {tr : Trace M} {s : M.State}
    (herr : c = true → (err e : Prog S ε β).Ensures D Q tr s)
    (hok : c = false → (f ()).Ensures D Q tr s) :
    ((Prog.rejectIf c e).bind f).Ensures D Q tr s := by
  cases c with
  | true => exact herr rfl
  | false => exact hok rfl

/-- **Loop rule.**  `I xs` is what is known when the elements `xs` are still
to be processed. -/
theorem Ensures.forEach {Q : Trace M → Except ε Unit → M.State → Prop}
    {f : β → Prog S ε Unit} (I : List β → Trace M → M.State → Prop)
    (hbody : ∀ x xs tr s, D.inv s → I (x :: xs) tr s →
      (f x).Ensures D (fun tr r s =>
        match r with
        | .ok _ => I xs tr s
        | .error e => Q tr (.error e) s) tr s)
    (hdone : ∀ tr s s', D.rely s s' → D.inv s' → I [] tr s → Q tr (.ok ()) s')
    {xs : List β} {tr : Trace M} {s : M.State} (hs : D.inv s) (h : I xs tr s) :
    (forEach xs f).Ensures D Q tr s := by
  induction xs generalizing tr s with
  | nil => exact fun s' hr hi => hdone tr s s' hr hi h
  | cons x xs ih =>
      refine Ensures.bind hs ((hbody x xs tr s hs h).mono ?_)
      intro tr r s hr
      cases r with
      | ok a => exact fun hi => ih hi hr
      | error e => exact hr

/-- A postcondition that speaks about success only. -/
def OnOk (K : α → Trace M → M.State → Prop) (tr : Trace M) (r : Except ε α)
    (s : M.State) : Prop := ∀ a, r = .ok a → K a tr s

/-- A failure ensures any condition on successes. -/
theorem Ensures.err {K : α → Trace M → M.State → Prop} (e : ε) (tr : Trace M)
    (s : M.State) : (Prog.err e : Prog S ε α).Ensures D (OnOk K) tr s :=
  fun _ _ _ a h => by cases h

/-- Sequencing when only success matters. -/
theorem Ensures.bind_ok {K : α → Trace M → M.State → Prop}
    {K' : β → Trace M → M.State → Prop} {p : Prog S ε α} {f : α → Prog S ε β}
    {tr : Trace M} {s : M.State} (hs : D.inv s) (hp : p.Ensures D (OnOk K) tr s)
    (hf : ∀ a tr s, D.inv s → K a tr s → (f a).Ensures D (OnOk K') tr s) :
    (p.bind f).Ensures D (OnOk K') tr s := by
  refine Ensures.bind hs (hp.mono ?_)
  intro tr r s hr
  cases r with
  | ok a => exact fun hi => hf a tr s hi (hr a rfl)
  | error e => exact fun a h => by cases h

/-- Sequencing after a program whose statements keep the guarantee by
themselves: what was known about trace and state is carried over. -/
theorem Ensures.within_bind {P : S.Stmt → Prop}
    (hP : ∀ tr i s, P i → D.inv s → D.own tr i s → D.guar tr i s)
    {K' : β → Trace M → M.State → Prop} {p : Prog S ε α} {f : α → Prog S ε β}
    {tr : Trace M} {s : M.State} (hs : D.inv s) (hp : p.Within P)
    (hf : ∀ a tr' s', tr <+: tr' → D.rely s s' → D.inv s' →
      (f a).Ensures D (OnOk K') tr' s') :
    (p.bind f).Ensures D (OnOk K') tr s := by
  have hcarried := (Ensures.of_within hP hp tr s).with_past.with_rely
  refine Ensures.bind hs (hcarried.mono ?_)
  rintro tr' r s' ⟨hr, hpre, -⟩
  cases r with
  | ok a => exact fun hi => hf a tr' s' hpre hr hi
  | error e => exact fun a h => by cases h

/-- A check when only success matters. -/
theorem Ensures.rejectIf_ok {K : β → Trace M → M.State → Prop} {c : Bool} {e : ε}
    {f : Unit → Prog S ε β} {tr : Trace M} {s : M.State}
    (hok : c = false → (f ()).Ensures D (OnOk K) tr s) :
    ((Prog.rejectIf c e).bind f).Ensures D (OnOk K) tr s :=
  Ensures.rejectIf (fun _ => .err e tr s) hok

/-- A translated program keeps the guarantee if the translation of every
statement does. -/
theorem Ensures.translate {T : Signature} {P : T.Stmt → Prop}
    {f : (i : T.Stmt) → Prog S ε (T.Reply i)}
    (hf : ∀ i tr s, P i → D.inv s → (f i).Ensures D (fun _ _ _ => True) tr s)
    {p : Prog T ε α} (hp : p.Within P) {tr : Trace M} {s : M.State} (hs : D.inv s) :
    (p.translate f).Ensures D (fun _ _ _ => True) tr s := by
  induction p generalizing tr s with
  | ok a => exact fun _ _ _ => trivial
  | err e => exact fun _ _ _ => trivial
  | act i k ih =>
      refine Ensures.bind hs ((hf i tr s hp.1 hs).mono ?_)
      intro tr r s _
      cases r with
      | ok a => exact fun hs => ih a (hp.2 a) hs
      | error e => trivial

/-- Every program obeys no restriction. -/
theorem Within.trivial (p : Prog S ε α) : p.Within fun _ => True := by
  induction p with
  | ok a => exact True.intro
  | err e => exact True.intro
  | act i k ih => exact ⟨True.intro, ih⟩

/-- Where nothing is to be guaranteed, every program ensures nothing. -/
theorem Ensures.unguarded (hguar : ∀ tr i s, D.guar tr i s) (p : Prog S ε α)
    (tr : Trace M) (s : M.State) : p.Ensures D (fun _ _ _ => True) tr s :=
  Ensures.of_within (fun tr i s _ _ _ => hguar tr i s) (.trivial p) tr s

end Prog

/-! ## What a program has done, whatever the others do -/

/-- Nobody promises anything. -/
def Discipline.free {S : Signature} (M : Machine S) : Discipline M where
  inv _ := True
  rely _ _ := True
  own _ _ _ := True
  guar _ _ _ := True
  refl _ := trivial
  trans _ _ _ _ _ := trivial
  step _ _ _ _ _ _ := ⟨trivial, trivial⟩

namespace Prog

variable {S : Signature} {ε α β : Type} {M : Machine S} {tr : Trace M} {s : M.State}

/-- A statement that is remembered. -/
theorem Ensures.observe {Q : Trace M → Except ε α → M.State → Prop} {i : S.Stmt}
    {f : S.Reply i → Prog S ε α}
    (h : ∀ s', (f (M.exec i s').1).Ensures (.free M) Q (tr ++ [(i, s')]) (M.exec i s').2) :
    ((stmt i).bind f).Ensures (.free M) Q tr s :=
  Ensures.stmt_bind fun s' _ _ _ => ⟨True.intro, fun _ => h s'⟩

/-- What holds of every statement of the program holds of every event it adds
to the trace. -/
theorem Within.events {P : S.Stmt → Prop} {F : S.Stmt × M.State → Prop}
    (hF : ∀ i s, P i → F (i, s)) {p : Prog S ε α} (hp : p.Within P)
    (htr : ∀ ev ∈ tr, F ev) :
    p.Ensures (.free M) (fun tr' _ _ => ∀ ev ∈ tr', F ev) tr s := by
  induction p generalizing tr s with
  | ok a => exact fun _ _ _ => htr
  | err e => exact fun _ _ _ => htr
  | act i k ih =>
      intro s' _ _ _
      have hnext : ∀ ev ∈ tr ++ [(i, s')], F ev := by
        intro ev hev
        rcases List.mem_append.mp hev with hev | hev
        · exact htr ev hev
        · rw [List.mem_singleton.mp hev]
          exact hF i s' hp.1
      exact ⟨True.intro, ih _ (hp.2 _) hnext⟩

/-- A program that is not looked into. -/
theorem Ensures.skip {K : β → Trace M → M.State → Prop} {p : Prog S ε α}
    {f : α → Prog S ε β}
    (hf : ∀ a tr' s', tr <+: tr' → (f a).Ensures (.free M) (OnOk K) tr' s') :
    (p.bind f).Ensures (.free M) (OnOk K) tr s :=
  Ensures.within_bind (fun _ _ _ _ _ _ => True.intro) True.intro (.trivial p)
    fun a tr' s' hpre _ _ => hf a tr' s' hpre

end Prog

end Interleave
