import AsterYggdrasil.External.SiteRuns

/-!
# Following a call of the site

`Prog.Ran` and `Store.RanIn` for the two ways the site runs a program: on the
pool, where every statement runs for itself (`OnPool`), and in a transaction
(`InTxn`).  Both decompose along the text of the program.
-/

namespace AsterYggdrasil.External

open Interleave Relational Prog

/-- The statement is executed as it is. -/
def AccountStmt.whole : AccountStmt → Bool
  | .userCreate _ | .identityCreate _ | .service (.db (.profileInsert _))
  | .service (.txn _) => false
  | _ => true

/-- A whole statement is one of the store. -/
theorem expand_whole {i : AccountStmt} (hi : i.whole = true) :
    expand i = onStore (.account i) := by
  cases i with
  | service i =>
      cases i with
      | db i => cases i <;> first | rfl | cases hi
      | _ => rfl
  | userCreate input => cases hi
  | identityCreate input => cases hi
  | _ => rfl

/-- An update that has hit a row. -/
theorem exists_of_select {α : Type} {σ : Schema α} {t : Table σ} {p : α → Bool}
    (h : ((t.select p).length == 1) = true) : ∃ r ∈ t.rows, p r = true := by
  have hlength : (t.select p).length = 1 := by simpa using h
  obtain ⟨r, hr⟩ := List.length_eq_one_iff.mp hlength
  have hmem : r ∈ t.select p := by simp [hr]
  exact ⟨r, Table.mem_select.mp hmem⟩

/-! ## In a transaction -/

section InTxn

variable {α β : Type}

/-- Transaction `x`, after the writes `buf`, went through `p` and returned `a`. -/
structure InTxn (x : Nat) (p : OnConnection α) (buf : accountStore.Buffer)
    (tr : Trace accountStore.readCommitted) (buf' : accountStore.Buffer) (a : α) : Prop where
  ran : Store.RanIn x (onStatements p) buf tr buf' a

variable {x : Nat} {buf buf' : accountStore.Buffer} {tr : Trace accountStore.readCommitted}

/-- **A sequence** inside of a transaction goes step by step. -/
theorem inTxn_bind {p : OnConnection α} {f : α → OnConnection β} {b : β}
    (h : InTxn x (p.bind f) buf tr buf' b) :
    ∃ a mid tr₁ tr₂, tr = tr₁ ++ tr₂ ∧ InTxn x p buf tr₁ mid a ∧
      InTxn x (f a) mid tr₂ buf' b := by
  have hran := h.ran
  unfold onStatements at hran
  rw [translate_bind] at hran
  obtain ⟨a, mid, tr₁, tr₂, htr, h₁, h₂⟩ := Store.ranIn_bind.mp hran
  exact ⟨a, mid, tr₁, tr₂, htr, ⟨h₁⟩, ⟨h₂⟩⟩

/-- A program that is over has sent nothing. -/
theorem inTxn_ok {a a' : α} (h : InTxn x (.ok a) buf tr buf' a') :
    tr = [] ∧ buf' = buf ∧ a' = a := h.ran

/-- A failed one returns nothing. -/
theorem inTxn_err {e : ServiceError} {a : α} (h : InTxn x (.err e) buf tr buf' a) : False :=
  h.ran

/-- A statement is executed on what its transaction sees. -/
theorem inTxn_stmt {i : AccountStmt} (hi : i.whole = true) {r : i.Reply}
    (h : InTxn x (onConn i) buf tr buf' r) :
    ∃ s, tr = [(.exec x buf (.account i), s)] ∧ x ∉ s.closed ∧
      buf' = buf ++ [(.account i, (accountStore.view buf s).now)] ∧
      r = (i.exec (accountStore.view buf s)).1 := by
  have heq : onStatements (onConn i) =
      (onStore (.account i)).bind fun r => onStatements (.ok r) := by
    rw [← expand_whole hi]
    rfl
  have hran := h.ran
  rw [heq] at hran
  obtain ⟨s, rest, rfl, hopen, rfl, rfl, rfl⟩ := Store.ranIn_stmt_bind.mp hran
  exact ⟨s, rfl, hopen, rfl, rfl⟩

/-- The rule for one statement and what follows. -/
theorem inTxn_stmt_bind {i : AccountStmt} (hi : i.whole = true)
    {f : i.Reply → OnConnection α} {a : α} (h : InTxn x ((onConn i).bind f) buf tr buf' a) :
    ∃ s rest, tr = (.exec x buf (.account i), s) :: rest ∧ x ∉ s.closed ∧
      InTxn x (f (i.exec (accountStore.view buf s)).1)
        (buf ++ [(.account i, (accountStore.view buf s).now)]) rest buf' a := by
  obtain ⟨r, mid, tr₁, tr₂, rfl, h₁, h₂⟩ := inTxn_bind h
  obtain ⟨s, rfl, hopen, rfl, rfl⟩ := inTxn_stmt hi h₁
  exact ⟨s, tr₂, rfl, hopen, h₂⟩

/-- A check that was passed tells its condition. -/
theorem inTxn_rejectIf {c : Bool} {e : AsterError} {f : Unit → OnConnection α} {a : α}
    (h : InTxn x ((rejectIf c e).bind f) buf tr buf' a) :
    c = false ∧ InTxn x (f ()) buf tr buf' a := by
  cases c with
  | true => exact (inTxn_err h).elim
  | false => exact ⟨rfl, h⟩

/-- An expected row was there. -/
theorem inTxn_required {e : AsterError} {o : Option α} {f : α → OnConnection β} {b : β}
    (h : InTxn x ((required e o).bind f) buf tr buf' b) :
    ∃ a, o = some a ∧ InTxn x (f a) buf tr buf' b := by
  cases o with
  | none => exact (inTxn_err h).elim
  | some a => exact ⟨a, rfl, h⟩

/-- A query at the end that has found its row. -/
theorem inTxn_found {e : AsterError} {o : Option α} {a : α}
    (h : InTxn x (required e o) buf tr buf' a) : tr = [] ∧ buf' = buf ∧ o = some a := by
  cases o with
  | none => exact (inTxn_err h).elim
  | some a' =>
      obtain ⟨htr, hbuf, rfl⟩ := inTxn_ok h
      exact ⟨htr, hbuf, rfl⟩

/-- A pure check was passed. -/
theorem inTxn_checked {y : Except AsterError α} {f : α → OnConnection β} {b : β}
    (h : InTxn x ((checked y).bind f) buf tr buf' b) :
    ∃ a, y = .ok a ∧ InTxn x (f a) buf tr buf' b := by
  cases y with
  | error e => exact (inTxn_err h).elim
  | ok a => exact ⟨a, rfl, h⟩

/-- Wherever it ran, the program went through statements and their answers. -/
theorem inTxn_ran {p : OnConnection α} (hp : p.Within fun i => AccountStmt.whole i = true)
    {a : α} (h : InTxn x p buf tr buf' a) :
    ∃ seen, p.Ran accountMachine seen (.ok a) ∧
      ∀ ev ∈ seen, ∃ b s, (.exec x b (.account ev.1), s) ∈ tr ∧
        ev.2 = accountStore.view b s := by
  induction p generalizing buf tr with
  | ok a' =>
      obtain ⟨-, -, rfl⟩ := inTxn_ok h
      exact ⟨[], ⟨rfl, rfl⟩, by simp⟩
  | err e => exact (inTxn_err h).elim
  | act i k ih =>
      have hbind : act i k = (onConn i).bind k := rfl
      rw [hbind] at h
      obtain ⟨s, rest, rfl, -, hrest⟩ := inTxn_stmt_bind hp.1 h
      obtain ⟨seen, hseen, hviews⟩ := ih _ (hp.2 _) hrest
      refine ⟨(i, accountStore.view buf s) :: seen, ⟨_, seen, rfl, hseen⟩, fun ev hev => ?_⟩
      rcases List.mem_cons.mp hev with rfl | hev
      · exact ⟨buf, s, List.mem_cons_self .., rfl⟩
      · obtain ⟨b, s', hmem, hview⟩ := hviews ev hev
        exact ⟨b, s', List.mem_cons_of_mem _ hmem, hview⟩

end InTxn

/-! ## On the pool -/

section OnPool

variable {α β : Type}

/-- An operation that has returned `a` went through the trace. -/
structure OnPool (lib : Library) (p : ExternalProg α) (tr : Trace accountStore.readCommitted)
    (a : α) : Prop where
  ran : (inStore lib p).Ran accountStore.readCommitted tr (.ok a)

variable {lib : Library} {tr : Trace accountStore.readCommitted}

/-- **A sequence** outside of transactions goes step by step. -/
theorem onPool_bind {p : ExternalProg α} {f : α → ExternalProg β} {b : β}
    (h : OnPool lib (p.bind f) tr b) :
    ∃ a tr₁ tr₂, tr = tr₁ ++ tr₂ ∧ OnPool lib p tr₁ a ∧ OnPool lib (f a) tr₂ b := by
  have hran := h.ran
  rw [inStore_bind] at hran
  obtain ⟨a, tr₁, tr₂, htr, h₁, h₂⟩ := ran_bind_ok.mp hran
  exact ⟨a, tr₁, tr₂, htr, ⟨h₁⟩, ⟨h₂⟩⟩

/-- A program that is over has sent nothing. -/
theorem onPool_ok {a a' : α} (h : OnPool lib (.ok a) tr a') : tr = [] ∧ a' = a := by
  obtain ⟨htr, heq⟩ := h.ran
  cases heq
  exact ⟨htr, rfl⟩

/-- A failed one returns nothing. -/
theorem onPool_err {e : ServiceError} {a : α} (h : OnPool lib (.err e) tr a) : False := by
  cases h.ran.2

/-- A program on the pool, part by part. -/
theorem onPool_onDb_bind {p : OnConnection α} {f : α → OnConnection β} {b : β}
    (h : OnPool lib (onDb (p.bind f)) tr b) :
    ∃ a tr₁ tr₂, tr = tr₁ ++ tr₂ ∧ OnPool lib (onDb p) tr₁ a ∧
      OnPool lib (onDb (f a)) tr₂ b := by
  unfold onDb at h
  rw [hoist_bind] at h
  exact onPool_bind h

/-- A statement is executed on what is committed. -/
theorem onPool_stmt {i : AccountStmt} (hi : i.whole = true) {r : i.Reply}
    (h : OnPool lib (onDb (onConn i)) tr r) :
    ∃ s, tr = [(.auto (.account i), s)] ∧ r = (i.exec s.committed).1 := by
  have hnotxn : ∀ t, i ≠ .service (.txn t) := by
    intro t heq
    subst heq
    cases hi
  have hstep : storeStep lib (.sql i) = onPoolOf (onStore (.account i)) := by
    rw [storeStep_sql lib hnotxn, expand_whole hi]
  have heq : inStore lib (onDb (onConn i)) =
      (onPoolOf (onStore (.account i))).bind fun r => .ok r := by
    rw [← hstep]
    rfl
  have hran := h.ran
  rw [heq] at hran
  obtain ⟨s, rest, rfl, rfl, hr⟩ := hran
  cases hr
  exact ⟨s, rfl, rfl⟩

/-- The rule for one statement and what follows. -/
theorem onPool_stmt_bind {i : AccountStmt} (hi : i.whole = true)
    {f : i.Reply → OnConnection α} {a : α}
    (h : OnPool lib (onDb ((onConn i).bind f)) tr a) :
    ∃ s rest, tr = (.auto (.account i), s) :: rest ∧
      OnPool lib (onDb (f (i.exec s.committed).1)) rest a := by
  obtain ⟨r, tr₁, tr₂, rfl, h₁, h₂⟩ := onPool_onDb_bind h
  obtain ⟨s, rfl, rfl⟩ := onPool_stmt hi h₁
  exact ⟨s, tr₂, rfl, h₂⟩

/-- A check that was passed tells its condition. -/
theorem onPool_rejectIf {c : Bool} {e : AsterError} {f : Unit → OnConnection α} {a : α}
    (h : OnPool lib (onDb ((rejectIf c e).bind f)) tr a) :
    c = false ∧ OnPool lib (onDb (f ())) tr a := by
  cases c with
  | true => exact (onPool_err h).elim
  | false => exact ⟨rfl, h⟩

/-- An expected row was there. -/
theorem onPool_required {e : AsterError} {o : Option α} {f : α → OnConnection β} {b : β}
    (h : OnPool lib (onDb ((required e o).bind f)) tr b) :
    ∃ a, o = some a ∧ OnPool lib (onDb (f a)) tr b := by
  cases o with
  | none => exact (onPool_err h).elim
  | some a => exact ⟨a, rfl, h⟩

/-- A query at the end that has found its row. -/
theorem onPool_found {e : AsterError} {o : Option α} {a : α}
    (h : OnPool lib (onDb (required e o)) tr a) : tr = [] ∧ o = some a := by
  cases o with
  | none => exact (onPool_err h).elim
  | some a' =>
      obtain ⟨htr, rfl⟩ := onPool_ok h
      exact ⟨htr, rfl⟩

/-- A check at the end. -/
theorem onPool_passed {c : Bool} {e : AsterError} {u : Unit}
    (h : OnPool lib (onDb (rejectIf c e)) tr u) : tr = [] ∧ c = false := by
  cases c with
  | true => exact (onPool_err h).elim
  | false => exact ⟨(onPool_ok h).1, rfl⟩

/-- A pure check was passed. -/
theorem onPool_checked {y : Except AsterError α} {f : α → OnConnection β} {b : β}
    (h : OnPool lib (onDb ((checked y).bind f)) tr b) :
    ∃ a, y = .ok a ∧ OnPool lib (onDb (f a)) tr b := by
  cases y with
  | error e => exact (onPool_err h).elim
  | ok a => exact ⟨a, rfl, h⟩

/-- A computation at the end. -/
theorem onPool_computed {y : Except AsterError α} {a : α}
    (h : OnPool lib (onDb (checked y)) tr a) : tr = [] ∧ y = .ok a := by
  cases y with
  | error e => exact (onPool_err h).elim
  | ok a' =>
      obtain ⟨htr, rfl⟩ := onPool_ok h
      exact ⟨htr, rfl⟩

/-- A transaction of an operation. -/
theorem onPool_withTxn {t : AccountTxn} {a : t.Result} (h : OnPool lib (withTxn t) tr a) :
    ∃ s₀ mid s₁ writes,
      tr = (.begin, s₀) :: (mid ++ [(.commit s₀.next writes, s₁)]) ∧
      s₀.next ∉ s₁.closed ∧ InTxn s₀.next (t.body lib) [] mid writes a := by
  have hran := h.ran
  rw [inStore_withTxn] at hran
  obtain ⟨s₀, mid, s₁, writes, htr, hopen, hin⟩ := Store.ran_transaction hran
  exact ⟨s₀, mid, s₁, writes, htr, hopen, ⟨hin⟩⟩

end OnPool

/-! ## Programs of the store -/

section Statements

variable {α β : Type}

/-- A program on the pool that has returned `a` went through the trace. -/
structure Alone (p : StoreProg α) (tr : Trace accountStore.readCommitted) (a : α) : Prop where
  ran : (onPoolOf p).Ran accountStore.readCommitted tr (.ok a)

variable {tr : Trace accountStore.readCommitted}

/-- **A sequence** of statements on their own. -/
theorem alone_bind {p : StoreProg α} {f : α → StoreProg β} {b : β}
    (h : Alone (p.bind f) tr b) :
    ∃ a tr₁ tr₂, tr = tr₁ ++ tr₂ ∧ Alone p tr₁ a ∧ Alone (f a) tr₂ b := by
  have hran := h.ran
  unfold onPoolOf at hran
  rw [translate_bind] at hran
  obtain ⟨a, tr₁, tr₂, htr, h₁, h₂⟩ := ran_bind_ok.mp hran
  exact ⟨a, tr₁, tr₂, htr, ⟨h₁⟩, ⟨h₂⟩⟩

/-- A program that is over has sent nothing. -/
theorem alone_ok {a a' : α} (h : Alone (.ok a) tr a') : tr = [] ∧ a' = a := by
  obtain ⟨htr, heq⟩ := h.ran
  cases heq
  exact ⟨htr, rfl⟩

/-- A failed one returns nothing. -/
theorem alone_err {e : ServiceError} {a : α} (h : Alone (.err e) tr a) : False := by
  cases h.ran.2

/-- A statement is executed on what is committed. -/
theorem alone_stmt {i : StoreStmt} {r : i.Reply} (h : Alone (onStore i) tr r) :
    ∃ s, tr = [(.auto i, s)] ∧ r = (i.exec s.committed).1 := by
  obtain ⟨s, rest, rfl, rfl, heq⟩ := h.ran
  cases heq
  exact ⟨s, rfl, rfl⟩

/-- The same for programs on the accounts. -/
theorem alone_accounts_bind {p : OnConnection α} {f : α → OnConnection β} {b : β}
    (h : Alone (ofAccounts (p.bind f)) tr b) :
    ∃ a tr₁ tr₂, tr = tr₁ ++ tr₂ ∧ Alone (ofAccounts p) tr₁ a ∧
      Alone (ofAccounts (f a)) tr₂ b := by
  unfold ofAccounts onStatements at h
  rw [translate_bind] at h
  exact alone_bind h

/-- The account functions on the pool went through statements and their answers. -/
theorem alone_accounts {p : OnConnection α}
    (hp : p.Within fun i => AccountStmt.whole i = true) {a : α}
    (h : Alone (ofAccounts p) tr a) :
    ∃ seen, p.Ran accountMachine seen (.ok a) ∧
      ∀ ev ∈ seen, ∃ s, (.auto (.account ev.1), s) ∈ tr ∧ ev.2 = s.committed := by
  induction p generalizing tr with
  | ok a' =>
      obtain ⟨-, rfl⟩ := alone_ok h
      exact ⟨[], ⟨rfl, rfl⟩, by simp⟩
  | err e => exact (alone_err h).elim
  | act i k ih =>
      have hbind : ofAccounts (act i k) =
          (onStore (.account i)).bind fun r => ofAccounts (k r) := by
        rw [← expand_whole hp.1]
        rfl
      rw [hbind] at h
      obtain ⟨r, tr₁, tr₂, rfl, h₁, h₂⟩ := alone_bind h
      obtain ⟨s, rfl, rfl⟩ := alone_stmt h₁
      obtain ⟨seen, hseen, hstates⟩ := ih _ (hp.2 _) h₂
      refine ⟨(i, s.committed) :: seen, ⟨_, seen, rfl, hseen⟩, fun ev hev => ?_⟩
      rcases List.mem_cons.mp hev with rfl | hev
      · exact ⟨s, List.mem_cons_self .., rfl⟩
      · obtain ⟨s', hmem, hstate⟩ := hstates ev hev
        exact ⟨s', List.mem_cons_of_mem _ hmem, hstate⟩

/-- Transaction `x` went through a program of the store. -/
structure Inside (x : Nat) (p : StoreProg α) (buf : accountStore.Buffer)
    (tr : Trace accountStore.readCommitted) (buf' : accountStore.Buffer) (a : α) : Prop where
  ran : Store.RanIn x p buf tr buf' a

variable {x : Nat} {buf buf' : accountStore.Buffer}

/-- **A sequence** inside of a transaction of the store. -/
theorem inside_bind {p : StoreProg α} {f : α → StoreProg β} {b : β}
    (h : Inside x (p.bind f) buf tr buf' b) :
    ∃ a mid tr₁ tr₂, tr = tr₁ ++ tr₂ ∧ Inside x p buf tr₁ mid a ∧
      Inside x (f a) mid tr₂ buf' b := by
  obtain ⟨a, mid, tr₁, tr₂, htr, h₁, h₂⟩ := Store.ranIn_bind.mp h.ran
  exact ⟨a, mid, tr₁, tr₂, htr, ⟨h₁⟩, ⟨h₂⟩⟩

/-- The rule for one statement and what follows. -/
theorem inside_stmt_bind {i : StoreStmt} {f : i.Reply → StoreProg α} {a : α}
    (h : Inside x ((onStore i).bind f) buf tr buf' a) :
    ∃ s rest, tr = (.exec x buf i, s) :: rest ∧ x ∉ s.closed ∧
      Inside x (f (i.exec (accountStore.view buf s)).1)
        (buf ++ [(i, (accountStore.view buf s).now)]) rest buf' a := by
  obtain ⟨s, rest, htr, hopen, hrest⟩ := Store.ranIn_stmt_bind.mp h.ran
  exact ⟨s, rest, htr, hopen, ⟨hrest⟩⟩

/-- A check at the end. -/
theorem inside_passed {c : Bool} {e : ServiceError} {u : Unit}
    (h : Inside x (Prog.rejectIf c e) buf tr buf' u) : tr = [] ∧ buf' = buf := by
  cases c with
  | true => exact h.ran.elim
  | false => exact ⟨h.ran.1, h.ran.2.1⟩

/-- A loop went through its body for every element. -/
theorem inside_forEach {f : β → StoreProg Unit} {xs : List β}
    (h : Inside x (Prog.forEach xs f) buf tr buf' ()) {y : β} (hy : y ∈ xs) :
    ∃ b tr' b', Inside x (f y) b tr' b' () ∧ b' <+: buf' := by
  induction xs generalizing buf tr with
  | nil => cases hy
  | cons z zs ih =>
      obtain ⟨_, mid, tr₁, tr₂, -, hhead, htail⟩ := inside_bind h
      rcases List.mem_cons.mp hy with rfl | hy
      · exact ⟨buf, tr₁, mid, hhead, htail.ran.grows⟩
      · exact ih htail hy

end Statements

/-! ## Calls -/

/-- Call `i` of the run is `call`, and has returned `response`. -/
structure Returned (c : SiteConfig) (i : Nat) (call : SiteCall) (response : SiteResponse) :
    Prop where
  call : ∃ th, c.threads[i]? = some th ∧ th.call = call
  result : c.result? i = some (.ok response)

/-- Call `i` starts and makes `steps` steps. -/
def undisturbed (i : Nat) (call : SiteCall) (steps : Nat) : List (Action SiteCall) :=
  .spawn call :: List.replicate steps (.run i)

/-- What a run of the site returns, from what it computes to. -/
theorem returned_of {lib : Library} {s₀ : AccountShared} {sched : List (Action SiteCall)}
    {c : SiteConfig} (hc : c = (Config.initial s₀).runs (SiteCall.body lib) sched) {i : Nat}
    {call : SiteCall} {response : SiteResponse}
    (hcall : (sched.filterMap Action.call?)[i]? = some call)
    (hresult : c.result? i = some (.ok response)) : Returned c i call response := by
  have hcalls := @Config.runs_calls _ _ _ _ _ (SiteCall.body lib)
    (Config.initial s₀ : SiteConfig) sched
  rw [← hc] at hcalls
  have hsome : (c.threads.map Thread.call)[i]? = some call := by
    rw [hcalls]
    exact hcall
  rw [List.getElem?_map, Option.map_eq_some_iff] at hsome
  exact ⟨hsome, hresult⟩

/-- A call that has returned `a` went through the trace. -/
structure Went {α : Type} (p : AccountProg α) (tr : Trace accountStore.readCommitted) (a : α) :
    Prop where
  ran : p.Ran accountStore.readCommitted tr (.ok a)

/-- A call that has returned went through. -/
theorem Returned.went {lib : Library} {s₀ : AccountShared} {sched : List (Action SiteCall)}
    {c : SiteConfig} (hc : c = (Config.initial s₀).runs (SiteCall.body lib) sched) {i : Nat}
    {call : SiteCall} {response : SiteResponse} (h : Returned c i call response) :
    Went (call.body lib) (c.trace i) response := by
  obtain ⟨th, hth, rfl⟩ := h.call
  exact ⟨Config.ran_of_result hc hth h.result⟩

/-- An operation whose answer is converted at the end. -/
theorem Went.operation {α β : Type} {lib : Library} {tr : Trace accountStore.readCommitted}
    {p : ExternalProg α} {g : α → β} {b : β}
    (h : Went ((inStore lib p).bind fun a => .ok (g a)) tr b) :
    ∃ a, b = g a ∧ OnPool lib p tr a := by
  obtain ⟨a, tr₁, tr₂, rfl, hp, rfl, hb⟩ := ran_bind_ok.mp h.ran
  cases hb
  rw [List.append_nil]
  exact ⟨a, rfl, ⟨hp⟩⟩

/-- A program on the pool whose answer is converted at the end. -/
theorem Went.alone {α β : Type} {tr : Trace accountStore.readCommitted} {p : StoreProg α}
    {g : α → β} {b : β} (h : Went ((onPoolOf p).bind fun a => .ok (g a)) tr b) :
    ∃ a, b = g a ∧ Alone p tr a := by
  obtain ⟨a, tr₁, tr₂, rfl, hp, rfl, hb⟩ := ran_bind_ok.mp h.ran
  cases hb
  rw [List.append_nil]
  exact ⟨a, rfl, ⟨hp⟩⟩

/-- A call goes through part by part. -/
theorem Went.bind {α β : Type} {tr : Trace accountStore.readCommitted} {p : AccountProg α}
    {f : α → AccountProg β} {b : β} (h : Went (p.bind f) tr b) :
    ∃ a tr₁ tr₂, tr = tr₁ ++ tr₂ ∧ Went p tr₁ a ∧ Went (f a) tr₂ b := by
  obtain ⟨a, tr₁, tr₂, htr, h₁, h₂⟩ := ran_bind_ok.mp h.ran
  exact ⟨a, tr₁, tr₂, htr, ⟨h₁⟩, ⟨h₂⟩⟩

/-- At its end nothing is left. -/
theorem Went.done {α : Type} {tr : Trace accountStore.readCommitted} {a b : α}
    (h : Went (.ok a) tr b) : tr = [] ∧ b = a := by
  obtain ⟨htr, heq⟩ := h.ran
  cases heq
  exact ⟨htr, rfl⟩

/-- A pure check was passed. -/
theorem Went.checked {α : Type} {tr : Trace accountStore.readCommitted}
    {y : Except AsterError α} {a : α} (h : Went (onPoolOf (ofAccounts (checked y))) tr a) :
    y = .ok a := by
  cases y with
  | error e => cases h.ran.2
  | ok a' =>
      cases h.ran.2
      rfl

/-- A transaction of the site. -/
theorem Went.transaction {α : Type} {tr : Trace accountStore.readCommitted} {p : StoreProg α}
    {a : α} (h : Went (inTransaction p) tr a) :
    ∃ s₀ mid s₁ writes,
      tr = (.begin, s₀) :: (mid ++ [(.commit s₀.next writes, s₁)]) ∧
      s₀.next ∉ s₁.closed ∧ Inside s₀.next p [] mid writes a := by
  obtain ⟨s₀, mid, s₁, writes, htr, hopen, hin⟩ := Store.ran_transaction h.ran
  exact ⟨s₀, mid, s₁, writes, htr, hopen, ⟨hin⟩⟩

end AsterYggdrasil.External
