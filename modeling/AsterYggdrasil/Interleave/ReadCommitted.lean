import AsterYggdrasil.Interleave.Pool

/-!
# Read-committed transactions

A transaction is a program whose statements run one at a time, interleaved
with those of everybody else.  At isolation level read committed each
statement sees what has been committed when it starts, together with the
transaction's own writes; a write locks the rows it touches until the
transaction ends, and a statement that needs a row locked by another
transaction waits.  After the wait it runs on the row as it is then.

`Store` says what this needs to know about a machine: which rows a statement
locks, which statements are not under transaction control (sequences, clocks,
other stores), and how a write that was made earlier is laid over a later
committed state.  `readCommitted` is the machine of all transactions over the
store, `transaction` runs a program in a transaction of its own, and
`Ensures.transact` is the proof rule for what runs inside.  The database may
abort a transaction at any moment (a deadlock, a lost connection); its caller
then gets an error.
-/

namespace Interleave

open Prog

variable {S : Signature} {ε α β : Type}

/-- What read-committed transactions need to know about a machine. -/
structure Store {S : Signature} (B : Machine S) where
  Key : Type
  keyEq : DecidableEq Key
  /-- The rows a statement writes, in the state in which it runs. -/
  locks : S.Stmt → B.State → List Key
  /-- The statement takes effect at once and is not undone by a rollback. -/
  immediate : S.Stmt → Bool
  /-- What a write remembers of the state in which it ran. -/
  Stamp : Type
  stamp : B.State → Stamp
  /-- The effect of an earlier write on a later state. -/
  redo : S.Stmt → Stamp → B.State → B.State

namespace Store

variable {B : Machine S} (σ : Store B)

/-- The writes of an open transaction, oldest first. -/
abbrev Buffer := List (S.Stmt × σ.Stamp)

/-- Lay one write over a committed state, unless it has taken effect
already. -/
def rewrite (w : S.Stmt × σ.Stamp) (s : B.State) : B.State :=
  if σ.immediate w.1 then s else σ.redo w.1 w.2 s

/-- Lay the writes of a transaction over a committed state. -/
def replay (buf : σ.Buffer) (s : B.State) : B.State :=
  buf.foldl (fun s w => σ.rewrite w s) s

/-- The committed state, the holder of each row lock, the transactions that
have ended, and the number of the next one. -/
structure Shared where
  committed : B.State
  holder : σ.Key → Option Nat
  closed : List Nat
  next : Nat

/-- Nothing is locked and no transaction has begun. -/
def start (s : B.State) : σ.Shared := ⟨s, fun _ => none, [], 0⟩

/-- A step of a client of the store.  Inside of transaction `x` it carries the
writes the transaction has made so far, which nobody else sees. -/
inductive Stmt
  | begin
  | exec (x : Nat) (buf : σ.Buffer) (i : S.Stmt)
  | commit (x : Nat) (buf : σ.Buffer)
  | rollback (x : Nat)
  | auto (i : S.Stmt)

@[reducible] def Stmt.Reply : σ.Stmt → Type
  | .begin => Nat
  | .exec _ _ i => Option (S.Reply i × σ.Stamp)
  | .commit _ _ => Bool
  | .rollback _ => Unit
  | .auto i => S.Reply i

@[reducible] def signature : Signature := ⟨σ.Stmt, Stmt.Reply σ⟩

/-- Give the locks of `keys` to `x`. -/
def lock (x : Nat) (keys : List σ.Key) (s : σ.Shared) : σ.Shared :=
  let _ := σ.keyEq
  { s with holder := fun k => if k ∈ keys then some x else s.holder k }

/-- End `x`: its locks are free again. -/
def close (x : Nat) (s : σ.Shared) : σ.Shared :=
  { s with
    holder := fun k => if s.holder k = some x then none else s.holder k
    closed := x :: s.closed }

/-- Execute `i` inside of transaction `x`. -/
def execIn (x : Nat) (buf : σ.Buffer) (i : S.Stmt) (s : σ.Shared) :
    S.Reply i × σ.Shared :=
  let view := σ.replay buf s.committed
  let committed :=
    if σ.immediate i then (B.exec i s.committed).2 else s.committed
  ((B.exec i view).1, σ.lock x (σ.locks i view) { s with committed := committed })

/-- What one step does.  A transaction that has ended answers nothing. -/
def exec : (i : σ.Stmt) → σ.Shared → Stmt.Reply σ i × σ.Shared
  | .begin, s => (s.next, { s with next := s.next + 1 })
  | .exec x buf i, s =>
      if x ∈ s.closed then (none, s)
      else
        (some ((σ.execIn x buf i s).1, σ.stamp (σ.replay buf s.committed)),
          (σ.execIn x buf i s).2)
  | .commit x buf, s =>
      if x ∈ s.closed then (false, s)
      else (true, σ.close x { s with committed := σ.replay buf s.committed })
  | .rollback x, s => ((), σ.close x s)
  | .auto i, s =>
      ((B.exec i s.committed).1, { s with committed := (B.exec i s.committed).2 })

/-- Everything the statement locks is free or held by `x`. -/
def available (x : Option Nat) (keys : List σ.Key) (s : σ.Shared) : Bool :=
  keys.all fun k => s.holder k = none || s.holder k = x

/-- A statement waits for the locks it needs. -/
def enabled : σ.Stmt → σ.Shared → Bool
  | .exec x buf i, s =>
      x ∈ s.closed || σ.available (some x) (σ.locks i (σ.replay buf s.committed)) s
  | .auto i, s => σ.available none (σ.locks i s.committed) s
  | _, _ => true

/-- All transactions over the store. -/
@[reducible] def readCommitted : Machine σ.signature where
  State := σ.Shared
  exec := σ.exec
  enabled := σ.enabled

/-! ## Programs in a transaction -/

variable {σ}

/-- Run `p` inside of transaction `x`, after the writes `buf`, and go on with
`κ`.  A failure of `p` rolls back; `lost` is the error of an aborted
transaction. -/
def transact (lost : ε) (x : Nat) :
    σ.Buffer → Prog S ε α → (σ.Buffer → α → Prog σ.signature ε β) →
      Prog σ.signature ε β
  | buf, .ok a, κ => κ buf a
  | _, .err e, _ => .act (.rollback x) fun _ => .err e
  | buf, .act i k, κ =>
      .act (.exec x buf i) fun r =>
        match r with
        | some (r, stamp) => transact lost x (buf ++ [(i, stamp)]) (k r) κ
        | none => .err lost

/-- Commit the writes `buf` and return `a`. -/
def commitWith (lost : ε) (x : Nat) (buf : σ.Buffer) (a : α) :
    Prog σ.signature ε α :=
  .act (.commit x buf) fun done => if done then .ok a else .err lost

/-- Run `p` in a transaction of its own. -/
def transaction (lost : ε) (p : Prog S ε α) : Prog σ.signature ε α :=
  .act .begin fun x => transact lost x [] p (commitWith lost x)

/-- A statement outside of any transaction. -/
def auto (i : S.Stmt) : Prog σ.signature ε (S.Reply i) :=
  Prog.stmt (S := σ.signature) (.auto i)

/-- Sequencing inside of a transaction. -/
theorem transact_bind {γ : Type} (lost : ε) (x : Nat) (buf : σ.Buffer)
    (p : Prog S ε α) (f : α → Prog S ε γ)
    (κ : σ.Buffer → γ → Prog σ.signature ε β) :
    transact lost x buf (p.bind f) κ =
      transact lost x buf p fun buf a => transact lost x buf (f a) κ := by
  induction p generalizing buf with
  | ok a => rfl
  | err e => rfl
  | act i k ih =>
      simp only [act_bind, transact, act.injEq, heq_eq_eq, true_and]
      funext r
      cases r with
      | none => rfl
      | some r => exact ih _ _

@[simp] theorem replay_nil (s : B.State) : σ.replay [] s = s := rfl

@[simp] theorem replay_cons (w : S.Stmt × σ.Stamp) (buf : σ.Buffer)
    (s : B.State) : σ.replay (w :: buf) s = σ.replay buf (σ.rewrite w s) := rfl

/-- A relation that every redone write respects is respected by the whole
replay. -/
theorem replay_respects {r : B.State → B.State → Prop} (hrefl : ∀ s, r s s)
    (htrans : ∀ a b c, r a b → r b c → r a c) {buf : σ.Buffer}
    (hbuf : ∀ w ∈ buf, ∀ s, r s (σ.rewrite w s)) (s : B.State) :
    r s (σ.replay buf s) := by
  induction buf generalizing s with
  | nil => exact hrefl s
  | cons w buf ih =>
      have hhead := hbuf w (List.mem_cons_self ..) s
      have htail := ih (fun w' hw' => hbuf w' (List.mem_cons_of_mem _ hw'))
        (σ.rewrite w s)
      exact htrans _ _ _ hhead htail

/-- Taking locks that are available takes none away. -/
theorem lock_keeps {x y : Nat} {keys : List σ.Key} {s : σ.Shared} {k : σ.Key}
    (hfree : σ.available (some x) keys s = true) (hk : s.holder k = some y)
    (b : B.State) :
    (σ.lock x keys { s with committed := b }).holder k = some y := by
  unfold lock
  simp only
  split
  · next hmem =>
      have hk' := List.all_eq_true.mp hfree k hmem
      simp only [hk, reduceCtorEq, decide_false, Bool.false_or,
        decide_eq_true_eq] at hk'
      exact hk'.symm
  · exact hk

theorem lock_holds {x : Nat} {keys : List σ.Key} {s : σ.Shared} {k : σ.Key}
    (hk : k ∈ keys) : (σ.lock x keys s).holder k = some x := by
  simp [lock, hk]

/-- Ending a transaction frees only its own locks. -/
theorem close_keeps {x y : Nat} {s : σ.Shared} {k : σ.Key}
    (hk : s.holder k = some y) :
    (σ.close x s).holder k = some y ∨ y ∈ (σ.close x s).closed := by
  by_cases hyx : y = x
  · exact Or.inr (hyx ▸ List.mem_cons_self ..)
  · refine Or.inl ?_
    have hne : s.holder k ≠ some x := by
      rw [hk]
      exact fun h => hyx (Option.some.inj h)
    simp only [close, if_neg hne]
    exact hk

/-! ## The proof rule -/

section Rule

variable {D : Discipline σ.readCommitted}
  {Q : Trace σ.readCommitted → Except ε β → σ.Shared → Prop}

/-- One statement inside of a transaction, which may find that the transaction
has ended. -/
theorem ensures_exec {lost : ε} {x : Nat} {buf : σ.Buffer} {i : S.Stmt}
    {k : S.Reply i → Prog S ε α} {κ : σ.Buffer → α → Prog σ.signature ε β}
    {tr : Trace σ.readCommitted} {s : σ.Shared}
    (hfail : ∀ tr s, D.inv s →
      (.err lost : Prog σ.signature ε β).Ensures D Q tr s)
    (h : ∀ s', D.rely s s' → D.inv s' → D.own tr (.exec x buf i) s' →
      D.guar tr (.exec x buf i) s' ∧
        (x ∉ s'.closed → D.inv (σ.execIn x buf i s').2 →
          (transact lost x (buf ++ [(i, σ.stamp (σ.replay buf s'.committed))])
            (k (σ.execIn x buf i s').1) κ).Ensures D Q
              (tr ++ [(.exec x buf i, s')]) (σ.execIn x buf i s').2)) :
    (transact lost x buf (.act i k) κ).Ensures D Q tr s := by
  rw [transact]
  intro s' hr hi ho
  obtain ⟨hg, hnext⟩ := h s' hr hi ho
  have hi' := (D.step _ _ s' hi ho hg).1
  refine ⟨hg, ?_⟩
  by_cases hclosed : x ∈ s'.closed
  · simp only [exec, hclosed, if_true] at hi' ⊢
    exact hfail _ _ hi'
  · simp only [exec, hclosed, if_false] at hi' ⊢
    exact hnext hclosed hi'

/-- **Inside of a transaction.**  `J` relates the writes made so far to the
shared state; the others keep it, and so does every statement of the program
that finds the transaction open. -/
theorem ensures_transact {P : S.Stmt → Prop} (J : σ.Buffer → σ.Shared → Prop)
    {lost : ε} {x : Nat}
    (hrely : ∀ buf s s', D.rely s s' → D.inv s' → J buf s → J buf s')
    (hstep : ∀ buf tr i s, P i → D.inv s → D.own tr (.exec x buf i) s → J buf s →
      D.guar tr (.exec x buf i) s ∧ (x ∉ s.closed →
        J (buf ++ [(i, σ.stamp (σ.replay buf s.committed))])
          (σ.execIn x buf i s).2))
    (hfail : ∀ e tr s, D.inv s →
      (.err e : Prog σ.signature ε β).Ensures D Q tr s)
    (hrollback : ∀ tr s, D.guar tr (.rollback x) s)
    {κ : σ.Buffer → α → Prog σ.signature ε β}
    (hκ : ∀ buf a tr s, D.inv s → J buf s → (κ buf a).Ensures D Q tr s)
    {p : Prog S ε α} (hp : p.Within P) {buf : σ.Buffer}
    {tr : Trace σ.readCommitted} {s : σ.Shared} (hs : D.inv s) (hJ : J buf s) :
    (transact lost x buf p κ).Ensures D Q tr s := by
  induction p generalizing buf tr s with
  | ok a => exact hκ buf a tr s hs hJ
  | err e =>
      intro s' _ hi ho
      have hg := hrollback tr s'
      exact ⟨hg, hfail e _ _ (D.step _ _ s' hi ho hg).1⟩
  | act i k ih =>
      refine ensures_exec (fun tr s => hfail lost tr s) fun s' hr hi ho => ?_
      obtain ⟨hg, hnext⟩ := hstep buf tr i s' hp.1 hi ho (hrely buf s s' hr hi hJ)
      exact ⟨hg, fun hopen hi' => ih _ (hp.2 _) hi' (hnext hopen)⟩

end Rule

/-! ## A transaction that fails -/

section Failure

variable {R : B.State → B.State → Prop}

/-- No event of the trace has moved the committed state out of `R`. -/
def Untouched (R : B.State → B.State → Prop) (tr : Trace σ.readCommitted) : Prop :=
  ∀ ev ∈ tr, R ev.2.committed (σ.exec ev.1 ev.2).2.committed

theorem Untouched.snoc {tr : Trace σ.readCommitted} (h : Untouched R tr) {i : σ.Stmt}
    {s : σ.Shared} (hi : R s.committed (σ.exec i s).2.committed) :
    Untouched R (tr ++ [(i, s)]) := by
  intro ev hev
  rcases List.mem_append.mp hev with hev | hev
  · exact h ev hev
  · rw [List.mem_singleton.mp hev]
    exact hi

/-- The program inside of the transaction. -/
theorem ensures_untouched_transact (hrefl : ∀ s, R s s) {P : S.Stmt → Prop}
    (hP : ∀ i s, P i → σ.immediate i = true → R s (B.exec i s).2) (lost : ε) (x : Nat)
    {p : Prog S ε α} (hp : p.Within P) {buf : σ.Buffer} {tr : Trace σ.readCommitted}
    {s : σ.Shared} (htr : Untouched R tr) :
    (transact lost x buf p (commitWith lost x)).Ensures (.free σ.readCommitted)
      (fun tr r _ => ∀ e, r = .error e → Untouched R tr) tr s := by
  induction p generalizing buf tr s with
  | ok a =>
      intro s' _ _ _
      refine ⟨trivial, ?_⟩
      by_cases hclosed : x ∈ s'.closed
      · have hsame : R s'.committed (σ.exec (.commit x buf) s').2.committed := by
          simp only [exec, hclosed, if_true]
          exact hrefl _
        simp only [exec, hclosed, if_true]
        exact fun _ _ _ _ _ => htr.snoc hsame
      · simp only [exec, hclosed, if_false, if_true]
        exact fun _ _ _ e he => by cases he
  | err e =>
      intro s' _ _ _
      exact ⟨trivial, fun _ _ _ _ _ => htr.snoc (hrefl _)⟩
  | act i k ih =>
      rw [transact]
      intro s' _ _ _
      refine ⟨trivial, ?_⟩
      have hsame : R s'.committed (σ.exec (.exec x buf i) s').2.committed := by
        by_cases hclosed : x ∈ s'.closed
        · simp only [exec, hclosed, if_true]
          exact hrefl _
        · simp only [exec, hclosed, if_false, execIn, lock]
          split
          · next himm => exact hP i s'.committed hp.1 himm
          · exact hrefl _
      by_cases hclosed : x ∈ s'.closed
      · simp only [exec, hclosed, if_true]
        exact fun _ _ _ _ _ => htr.snoc hsame
      · simp only [exec, hclosed, if_false]
        exact ih _ (hp.2 _) (htr.snoc hsame)

/-- **A transaction that fails leaves nothing behind** but the effects of the
statements that are not under transaction control. -/
theorem ensures_untouched (hrefl : ∀ s, R s s) {P : S.Stmt → Prop}
    (hP : ∀ i s, P i → σ.immediate i = true → R s (B.exec i s).2) (lost : ε)
    {p : Prog S ε α} (hp : p.Within P) {tr : Trace σ.readCommitted} (s : σ.Shared)
    (htr : Untouched R tr) :
    (transaction lost p).Ensures (.free σ.readCommitted)
      (fun tr r _ => ∀ e, r = .error e → Untouched R tr) tr s := by
  intro s' _ _ _
  refine ⟨trivial, ?_⟩
  have hbegun : Untouched R (tr ++ [(Stmt.begin, s')]) := htr.snoc (hrefl _)
  exact ensures_untouched_transact hrefl hP lost s'.next hp hbegun

end Failure

/-! ## A transaction that succeeds -/

/-- A transaction of statements of `P` that has made the write `w` and succeeds has
committed it, among writes of `P`. -/
theorem ensures_committed {P : S.Stmt → Prop} {lost : ε} {x : Nat} {w : S.Stmt × σ.Stamp}
    {p : Prog S ε α} (hp : p.Within P) {buf : σ.Buffer} (hbuf : ∀ w ∈ buf, P w.1)
    (hw : w ∈ buf) {tr : Trace σ.readCommitted} {s : σ.Shared} :
    (transact lost x buf p (commitWith lost x)).Ensures (.free σ.readCommitted)
      (OnOk fun _ tr' _ => tr <+: tr' ∧ ∃ buf' s', (Stmt.commit x buf', s') ∈ tr' ∧
        x ∉ s'.closed ∧ (∀ w ∈ buf', P w.1) ∧ w ∈ buf') tr s := by
  induction p generalizing buf tr s with
  | ok a =>
      intro s' _ _ _
      refine ⟨trivial, ?_⟩
      by_cases hclosed : x ∈ s'.closed
      · simp only [exec, hclosed, if_true]
        exact Ensures.err _ _ _
      · simp only [exec, hclosed, if_false, if_true]
        intro _ _ _ _ _
        refine ⟨List.prefix_append _ _, buf, s', ?_, hclosed, hbuf, hw⟩
        exact List.mem_append_right _ (List.mem_singleton.mpr rfl)
  | err e =>
      intro s' _ _ _
      exact ⟨trivial, Ensures.err _ _ _⟩
  | act i k ih =>
      rw [transact]
      intro s' _ _ _
      refine ⟨trivial, ?_⟩
      by_cases hclosed : x ∈ s'.closed
      · simp only [exec, hclosed, if_true]
        exact Ensures.err _ _ _
      · simp only [exec, hclosed, if_false]
        have hbuf' : ∀ w ∈ buf ++ [(i, σ.stamp (σ.replay buf s'.committed))], P w.1 := by
          intro w hw
          rcases List.mem_append.mp hw with hw | hw
          · exact hbuf w hw
          · rw [List.mem_singleton.mp hw]
            exact hp.1
        refine (ih _ (hp.2 _) hbuf' (List.mem_append_left _ hw)).mono ?_
        intro tr' r s'' h a ha
        obtain ⟨hpre, hrest⟩ := h a ha
        exact ⟨(List.prefix_append _ _).trans hpre, hrest⟩

/-- Nothing in a transaction runs outside of it. -/
theorem within_transact {P : σ.Stmt → Prop} {x : Nat} (hexec : ∀ buf i, P (.exec x buf i))
    (hrollback : P (.rollback x)) {lost : ε} {p : Prog S ε α} {buf : σ.Buffer}
    {κ : σ.Buffer → α → Prog σ.signature ε β} (hκ : ∀ buf a, (κ buf a).Within P) :
    (transact lost x buf p κ).Within P := by
  induction p generalizing buf with
  | ok a => exact hκ buf a
  | err e => exact ⟨hrollback, fun _ => trivial⟩
  | act i k ih =>
      rw [transact]
      refine ⟨hexec buf i, fun r => ?_⟩
      cases r with
      | none => trivial
      | some r => exact ih _

theorem within_transaction {P : σ.Stmt → Prop} (hbegin : P .begin)
    (hexec : ∀ x buf i, P (.exec x buf i)) (hcommit : ∀ x buf, P (.commit x buf))
    (hrollback : ∀ x, P (.rollback x)) {lost : ε} {p : Prog S ε α} :
    (transaction lost p : Prog σ.signature ε α).Within P := by
  refine ⟨hbegin, fun x => within_transact (hexec x) (hrollback x) fun buf a => ?_⟩
  refine ⟨hcommit x buf, fun done => ?_⟩
  cases done <;> trivial

end Store

end Interleave
