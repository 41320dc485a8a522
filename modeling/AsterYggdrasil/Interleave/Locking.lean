import AsterYggdrasil.Interleave.History

/-!
# What a lock protects

A row that an open transaction has locked is written by nobody else until the
transaction ends.  `Protection` names, for every key, the part of the state that
only the statements which lock the key write.  A pool whose transactions commit
only writes they hold the locks of then keeps that part as it is for every open
holder (`Protection.undisturbed_exec`), whatever else it does.

`Protection.discipline` is the discipline of such a pool, with a relation along
which the committed state evolves.  `Rows` is the rule behind conditional updates:
the row a statement has locked is at the commit what it was when the statement
ran, and becomes what the writes of the transaction make of it.
-/

namespace Interleave

open Prog

namespace Store

variable {S : Signature} {B : Machine S} (σ : Store B)

/-- The statements `P` of transactions and the statements `A` outside of them,
what the lock of a key protects (`same k` relates the states that agree there),
and the keys that a write of a transaction may change. -/
structure Protection (P A : S.Stmt → Prop) where
  same : σ.Key → B.State → B.State → Prop
  refl : ∀ k s, same k s s
  trans : ∀ k a b c, same k a b → same k b c → same k a c
  writes : S.Stmt → σ.Stamp → List σ.Key
  locks : ∀ i s k, P i → k ∈ writes i (σ.stamp s) → k ∈ σ.locks i s
  redo : ∀ i stamp s k, P i → k ∉ writes i stamp → same k s (σ.redo i stamp s)
  immediate : ∀ i s k, P i → σ.immediate i = true → same k s (B.exec i s).2
  auto : ∀ i s k, A i → k ∉ σ.locks i s → same k s (B.exec i s).2

/-- A relation along which every statement moves the committed state. -/
structure Evolution (P A : S.Stmt → Prop) where
  rel : B.State → B.State → Prop
  refl : ∀ s, rel s s
  trans : ∀ a b c, rel a b → rel b c → rel a c
  redo : ∀ i stamp s, P i → rel s (σ.redo i stamp s)
  immediate : ∀ i s, P i → σ.immediate i = true → rel s (B.exec i s).2
  auto : ∀ i s, A i → rel s (B.exec i s).2

namespace Protection

variable {σ} {P A : S.Stmt → Prop} (π : σ.Protection P A)

/-- What the others may do between two statements of a transaction: ended
transactions have ended, and an open one keeps its locks and what they
protect. -/
structure Undisturbed (s s' : σ.Shared) : Prop where
  closed : ∀ x ∈ s.closed, x ∈ s'.closed
  locks : ∀ x k, s.holder k = some x →
    (s'.holder k = some x ∧ π.same k s.committed s'.committed) ∨ x ∈ s'.closed

/-- A transaction commits only writes it holds the locks of. -/
def Guard : σ.Stmt → σ.Shared → Prop
  | .exec _ _ i, _ => P i
  | .commit x buf, s =>
      x ∈ s.closed ∨ ∀ w ∈ buf, P w.1 ∧ ∀ k ∈ π.writes w.1 w.2, s.holder k = some x
  | .auto i, _ => A i
  | _, _ => True

/-- The transaction holds the locks of its writes, as long as it is open. -/
structure Locked (x : Nat) (buf : σ.Buffer) (s : σ.Shared) : Prop where
  writes : ∀ w ∈ buf, P w.1
  held : x ∈ s.closed ∨ ∀ w ∈ buf, ∀ k ∈ π.writes w.1 w.2, s.holder k = some x

variable {π}

theorem Undisturbed.refl (s : σ.Shared) : π.Undisturbed s s :=
  ⟨fun _ h => h, fun _ k h => Or.inl ⟨h, π.refl k _⟩⟩

theorem Undisturbed.trans {a b c : σ.Shared} (hab : π.Undisturbed a b)
    (hbc : π.Undisturbed b c) : π.Undisturbed a c := by
  constructor
  · intro x hx
    exact hbc.closed x (hab.closed x hx)
  · intro x k hk
    rcases hab.locks x k hk with ⟨hheld, hsame⟩ | hclosed
    · rcases hbc.locks x k hheld with ⟨hheld', hsame'⟩ | hclosed
      · exact Or.inl ⟨hheld', π.trans k _ _ _ hsame hsame'⟩
      · exact Or.inr hclosed
    · exact Or.inr (hbc.closed x hclosed)

/-- A write of `P` is harmless to the keys it does not lock. -/
theorem rewrite_same {w : S.Stmt × σ.Stamp} (hw : P w.1) {k : σ.Key}
    (hk : k ∉ π.writes w.1 w.2) (s : B.State) : π.same k s (σ.rewrite w s) := by
  unfold rewrite
  split
  · exact π.refl k s
  · exact π.redo w.1 w.2 s k hw hk

/-- So are all writes of a transaction. -/
theorem replay_same {buf : σ.Buffer} (hbuf : ∀ w ∈ buf, P w.1) {k : σ.Key}
    (hk : ∀ w ∈ buf, k ∉ π.writes w.1 w.2) (s : B.State) :
    π.same k s (σ.replay buf s) := by
  have hstep : ∀ w ∈ buf, ∀ s, π.same k s (σ.rewrite w s) :=
    fun w hw s => rewrite_same (hbuf w hw) (hk w hw) s
  exact Store.replay_respects (π.refl k) (π.trans k) hstep s

/-- A key that is held is not among the available ones of somebody else. -/
theorem notMem_of_available {x : Option Nat} {y : Nat} {keys : List σ.Key}
    {s : σ.Shared} {k : σ.Key} (hfree : σ.available x keys s = true)
    (hk : s.holder k = some y) (hne : x ≠ some y) : k ∉ keys := by
  intro hmem
  have hk' := List.all_eq_true.mp hfree k hmem
  simp only [hk, Bool.or_eq_true, decide_eq_true_eq, reduceCtorEq, false_or] at hk'
  exact hne hk'.symm

/-- A statement inside of a transaction. -/
theorem undisturbed_execIn {x : Nat} {buf : σ.Buffer} {i : S.Stmt} {s : σ.Shared}
    (hi : P i)
    (hfree : σ.available (some x) (σ.locks i (σ.replay buf s.committed)) s = true) :
    π.Undisturbed s (σ.execIn x buf i s).2 := by
  constructor
  · exact fun _ h => h
  · intro y k hk
    refine Or.inl ⟨Store.lock_keeps hfree hk _, ?_⟩
    simp only [execIn, lock]
    by_cases himm : σ.immediate i = true
    · rw [if_pos himm]
      exact π.immediate i s.committed k hi himm
    · rw [if_neg himm]
      exact π.refl k _

/-- The commit of a transaction that holds the locks of its writes. -/
theorem undisturbed_commit {x : Nat} {buf : σ.Buffer} {s : σ.Shared}
    (hbuf : ∀ w ∈ buf, P w.1 ∧ ∀ k ∈ π.writes w.1 w.2, s.holder k = some x) :
    π.Undisturbed s (σ.close x { s with committed := σ.replay buf s.committed }) := by
  constructor
  · exact fun _ h => List.mem_cons_of_mem _ h
  · intro y k hk
    by_cases hyx : y = x
    · exact Or.inr (hyx ▸ List.mem_cons_self ..)
    · have hnot : ∀ w ∈ buf, k ∉ π.writes w.1 w.2 := by
        intro w hw hmem
        have hholder := (hbuf w hw).2 k hmem
        rw [hk] at hholder
        exact hyx (Option.some.inj hholder)
      have hsame := replay_same (π := π) (fun w hw => (hbuf w hw).1) hnot s.committed
      refine Or.inl ⟨?_, hsame⟩
      have hother : s.holder k ≠ some x := by
        rw [hk]
        exact fun h => hyx (Option.some.inj h)
      simp only [close, if_neg hother]
      exact hk

/-- **A locked row is written by nobody else.** -/
theorem undisturbed_exec {i : σ.Stmt} {s : σ.Shared} (hen : σ.enabled i s = true)
    (hguard : π.Guard i s) : π.Undisturbed s (σ.exec i s).2 := by
  cases i with
  | begin => exact ⟨fun _ h => h, fun _ k h => Or.inl ⟨h, π.refl k _⟩⟩
  | exec x buf i =>
      by_cases hclosed : x ∈ s.closed
      · simp only [Store.exec, hclosed, if_true]
        exact .refl s
      · simp only [Store.enabled, hclosed, decide_false, Bool.false_or] at hen
        simp only [Store.exec, hclosed, if_false]
        exact undisturbed_execIn hguard hen
  | commit x buf =>
      by_cases hclosed : x ∈ s.closed
      · simp only [Store.exec, hclosed, if_true]
        exact .refl s
      · simp only [Store.exec, hclosed, if_false]
        exact undisturbed_commit (hguard.resolve_left hclosed)
  | rollback x =>
      constructor
      · exact fun _ h => List.mem_cons_of_mem _ h
      · intro y k hk
        rcases Store.close_keeps (x := x) hk with hheld | hclosed
        · exact Or.inl ⟨hheld, π.refl k _⟩
        · exact Or.inr hclosed
  | auto i =>
      constructor
      · exact fun _ h => h
      · intro y k hk
        have hfree := notMem_of_available hen hk (by simp)
        exact Or.inl ⟨hk, π.auto i s.committed k hguard hfree⟩

theorem Locked.nil (x : Nat) (s : σ.Shared) : π.Locked x [] s :=
  ⟨by simp, Or.inr (by simp)⟩

/-- Nobody takes the locks away. -/
theorem Locked.undisturbed {x : Nat} {buf : σ.Buffer} {s s' : σ.Shared}
    (h : π.Locked x buf s) (hmoves : π.Undisturbed s s') : π.Locked x buf s' := by
  refine ⟨h.writes, ?_⟩
  rcases h.held with hclosed | hheld
  · exact Or.inl (hmoves.closed x hclosed)
  · by_cases hclosed : x ∈ s'.closed
    · exact Or.inl hclosed
    · refine Or.inr fun w hw k hk => ?_
      exact ((hmoves.locks x k (hheld w hw k hk)).resolve_right hclosed).1

/-- One more statement of the transaction. -/
theorem Locked.exec {x : Nat} {buf : σ.Buffer} {i : S.Stmt} {s : σ.Shared}
    (h : π.Locked x buf s) (hi : P i) (hopen : x ∉ s.closed)
    (hen : σ.enabled (.exec x buf i) s = true) :
    π.Locked x (buf ++ [(i, σ.stamp (σ.replay buf s.committed))]) (σ.execIn x buf i s).2 := by
  simp only [Store.enabled, hopen, decide_false, Bool.false_or] at hen
  have hmoved := h.undisturbed (undisturbed_execIn hi hen)
  refine ⟨fun w hw => ?_, Or.inr fun w hw k hk => ?_⟩
  · rcases List.mem_append.mp hw with hw | hw
    · exact h.writes w hw
    · rw [List.mem_singleton.mp hw]
      exact hi
  · rcases List.mem_append.mp hw with hw | hw
    · exact (hmoved.held.resolve_left hopen) w hw k hk
    · rw [List.mem_singleton.mp hw] at hk
      exact Store.lock_holds (π.locks i _ k hi hk)

/-- A transaction that holds its locks may commit. -/
theorem Locked.guard {x : Nat} {buf : σ.Buffer} {s : σ.Shared}
    (h : π.Locked x buf s) : π.Guard (.commit x buf) s := by
  rcases h.held with hclosed | hheld
  · exact Or.inl hclosed
  · exact Or.inr fun w hw => ⟨h.writes w hw, hheld w hw⟩

end Protection

/-! ## The discipline of a locked pool -/

namespace Evolution

variable {σ} {P A : S.Stmt → Prop} (ev : σ.Evolution P A)

/-- What a transaction commits moves the state along the relation. -/
theorem replay {buf : σ.Buffer} (hbuf : ∀ w ∈ buf, P w.1) (s : B.State) :
    ev.rel s (σ.replay buf s) := by
  apply replay_respects ev.refl ev.trans
  intro w hw s
  unfold rewrite
  split
  · exact ev.refl s
  · exact ev.redo w.1 w.2 s (hbuf w hw)

/-- A step that keeps its guard moves the committed state along the relation. -/
theorem exec {π : σ.Protection P A} {i : σ.Stmt} {s : σ.Shared} (hguard : π.Guard i s) :
    ev.rel s.committed (σ.exec i s).2.committed := by
  cases i with
  | begin => exact ev.refl _
  | exec x buf i =>
      by_cases hclosed : x ∈ s.closed
      · simp only [Store.exec, hclosed, if_true]
        exact ev.refl _
      · simp only [Store.exec, hclosed, if_false, execIn, lock]
        by_cases himm : σ.immediate i = true
        · rw [if_pos himm]
          exact ev.immediate i _ hguard himm
        · rw [if_neg himm]
          exact ev.refl _
  | commit x buf =>
      by_cases hclosed : x ∈ s.closed
      · simp only [Store.exec, hclosed, if_true]
        exact ev.refl _
      · simp only [Store.exec, hclosed, if_false, close]
        exact ev.replay (fun w hw => (hguard.resolve_left hclosed w hw).1) _
  | rollback x => exact ev.refl _
  | auto i => exact ev.auto i _ hguard

end Evolution

namespace Protection

variable {σ} {P A : S.Stmt → Prop} (π : σ.Protection P A) (ev : σ.Evolution P A)

/-- Everybody commits only what is locked, and the committed state evolves. -/
def discipline : Discipline σ.readCommitted where
  inv _ := True
  rely s s' := π.Undisturbed s s' ∧ ev.rel s.committed s'.committed
  own _ i s := σ.enabled i s = true
  guar _ i s := π.Guard i s
  refl s := ⟨.refl s, ev.refl _⟩
  trans _ _ _ hab hbc := ⟨hab.1.trans hbc.1, ev.trans _ _ _ hab.2 hbc.2⟩
  step _ _ _ _ hown hguar := ⟨trivial, undisturbed_exec hown hguar, ev.exec hguar⟩

variable {π ev}

/-- A transaction of statements of `P` keeps the discipline. -/
theorem ensures_transaction {lost : ε} {p : Prog S ε α} (hp : p.Within P)
    (tr : Trace σ.readCommitted) (s : σ.Shared) :
    (transaction lost p).Ensures (π.discipline ev) (fun _ _ _ => True) tr s := by
  intro s' _ _ _
  refine ⟨trivial, ?_⟩
  apply ensures_transact (P := P) (π.Locked s'.next) _ _ _ _ _ hp trivial (.nil _ _)
  · exact fun buf s s' hrely _ hJ => hJ.undisturbed hrely.1
  · intro buf tr i s hi _ hown hJ
    exact ⟨hi, fun hopen => hJ.exec hi hopen hown⟩
  · exact fun e tr s _ _ _ _ => trivial
  · exact fun _ _ => trivial
  · intro buf a tr s _ hJ s' hrely _ _
    refine ⟨(hJ.undisturbed hrely.1).guard, ?_⟩
    cases (σ.exec (.commit _ buf) s').1 <;> exact fun _ _ _ => trivial

/-- A statement of `A` outside of any transaction keeps it. -/
theorem ensures_auto {i : S.Stmt} (hi : A i) (tr : Trace σ.readCommitted) (s : σ.Shared) :
    (Store.auto i : Prog σ.signature ε (S.Reply i)).Ensures (π.discipline ev)
      (fun _ _ _ => True) tr s :=
  fun _ _ _ _ => ⟨hi, fun _ _ _ => trivial⟩

/-- The database may end a transaction at any moment. -/
theorem ensures_abort (x : Nat) (tr : Trace σ.readCommitted) (s : σ.Shared) :
    (Prog.stmt (S := σ.signature) (.rollback x) : Prog σ.signature ε Unit).Ensures
      (π.discipline ev) (fun _ _ _ => True) tr s :=
  fun _ _ _ _ => ⟨trivial, fun _ _ _ => trivial⟩

/-- **What a statement has locked is unchanged when its transaction commits.** -/
theorem same_at_commit {x : Nat} {buf : σ.Buffer} {i : S.Stmt} {s₁ s₂ : σ.Shared}
    {k : σ.Key} (hi : P i) (hopen₁ : x ∉ s₁.closed) (hopen₂ : x ∉ s₂.closed)
    (hk : k ∈ σ.locks i (σ.view buf s₁))
    (hrely : π.Undisturbed (σ.exec (.exec x buf i) s₁).2 s₂) :
    π.same k s₁.committed s₂.committed := by
  simp only [Store.exec, hopen₁, if_false] at hrely
  have hheld : (σ.execIn x buf i s₁).2.holder k = some x := Store.lock_holds hk
  have hafter : π.same k s₁.committed (σ.execIn x buf i s₁).2.committed := by
    simp only [execIn, lock]
    by_cases himm : σ.immediate i = true
    · rw [if_pos himm]
      exact π.immediate i _ k hi himm
    · rw [if_neg himm]
      exact π.refl k _
  exact π.trans k _ _ _ hafter ((hrely.locks x k hheld).resolve_right hopen₂).2

end Protection

/-! ## Rows that a transaction updates -/

/-- A table as the transactions of `P₀` see it: each of their writes updates it
row by row, whatever else is in the table, and the lock of a row's key protects
the row. -/
structure Rows {P A : S.Stmt → Prop} (π : σ.Protection P A) (P₀ : S.Stmt → Prop) where
  Row : Type
  rows : B.State → List Row
  key : Row → σ.Key
  mark : S.Stmt → σ.Stamp → Row → Row
  redo : ∀ i t s, P₀ i → rows (σ.redo i t s) = (rows s).map (mark i t)
  immediate : ∀ i t r, P₀ i → σ.immediate i = true → mark i t r = r
  same : ∀ s s' r, π.same (key r) s s' → r ∈ rows s → r ∈ rows s'

namespace Rows

variable {σ} {P A P₀ : S.Stmt → Prop} {π : σ.Protection P A} (t : Rows σ π P₀)

/-- What the writes of a transaction make of a row. -/
def marks (buf : σ.Buffer) (r : t.Row) : t.Row :=
  buf.foldl (fun r w => t.mark w.1 w.2 r) r

@[simp] theorem marks_nil (r : t.Row) : t.marks [] r = r := rfl

@[simp] theorem marks_append (buf buf' : σ.Buffer) (r : t.Row) :
    t.marks (buf ++ buf') r = t.marks buf' (t.marks buf r) := by
  simp [marks]

@[simp] theorem marks_cons (w : S.Stmt × σ.Stamp) (buf : σ.Buffer) (r : t.Row) :
    t.marks (w :: buf) r = t.marks buf (t.mark w.1 w.2 r) := rfl

/-- The table under the writes of a transaction. -/
theorem rows_replay {buf : σ.Buffer} (hbuf : ∀ w ∈ buf, P₀ w.1) (s : B.State) :
    t.rows (σ.replay buf s) = (t.rows s).map (t.marks buf) := by
  induction buf generalizing s with
  | nil =>
      have hid : t.marks [] = id := rfl
      rw [hid, List.map_id]
      rfl
  | cons w buf ih =>
      have hw := hbuf w (List.mem_cons_self ..)
      have hhead : t.rows (σ.rewrite w s) = (t.rows s).map (t.mark w.1 w.2) := by
        unfold rewrite
        by_cases himm : σ.immediate w.1 = true
        · have hid : t.mark w.1 w.2 = id := funext fun r => t.immediate w.1 w.2 r hw himm
          rw [if_pos himm, hid, List.map_id]
        · rw [if_neg himm, t.redo w.1 w.2 s hw]
      rw [replay_cons, ih (fun w hw => hbuf w (List.mem_cons_of_mem _ hw)), hhead,
        List.map_map]
      rfl

/-- **The row a statement has locked, at the commit.**  It is the row that was
there when the statement ran, and the commit makes of it what the writes of the
transaction make of it. -/
theorem committed {x : Nat} {buf b : σ.Buffer} {i : S.Stmt} {s₁ s₂ : σ.Shared}
    {r : t.Row} (hi : P i) (hopen₁ : x ∉ s₁.closed) (hopen₂ : x ∉ s₂.closed)
    (hrely : π.Undisturbed (σ.exec (.exec x buf i) s₁).2 s₂)
    (hkey : t.key r ∈ σ.locks i (σ.view buf s₁)) (hr : r ∈ t.rows s₁.committed)
    (hrest : ∀ w ∈ b, P₀ w.1) :
    r ∈ t.rows s₂.committed ∧
      t.marks b r ∈ t.rows (σ.exec (.commit x b) s₂).2.committed := by
  have hstill := t.same _ _ r (Protection.same_at_commit hi hopen₁ hopen₂ hkey hrely) hr
  refine ⟨hstill, ?_⟩
  simp only [Store.exec, hopen₂, if_false, close]
  rw [t.rows_replay hrest]
  exact List.mem_map_of_mem hstill

end Rows

end Store

end Interleave
