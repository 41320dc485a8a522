import AsterYggdrasil.Admin.OperatorScopes

/-!
# What an administrator's update leaves alone

Every call of `update_user` reads the account and its scopes, and some time
later runs a transaction.  `unmentioned_fields_kept` says what that
transaction does to the fields its call does not mention, in every
interleaving of any number of calls: name, email, password, status and the
`must_change_password` flag keep the value they have just before the
transaction.  Role and scopes do so too when they are still what the call has
read, up to the rules that tie them together: scopes make an administrator an
operator, and who is no operator has none.

The rules work on what was read and their outcome is always written.
`email_change_restores_role` is a run in which one call takes a role away and
another one, which only changes the email, gives it back.
-/

namespace AsterYggdrasil.Admin

open Interleave Relational
open Interleave.Prog Interleave.Config
open External (Library transposeMap)

/-! ## The rules for role and scopes -/

section Rules

variable {existing role : UserRole} {requested : Option UserRole}
  {given existingScopes : List OperatorScope} {scopes : Option (List OperatorScope)}

/-- A role that is not asked for is kept, unless an administrator is given
scopes. -/
theorem role_unasked {givenScopes : Option (List OperatorScope)}
    (h : normalizeUpdateRoleAndScopes existing none givenScopes existingScopes =
      (role, scopes)) :
    role = existing ∨ givenScopes.isSome ∧ existing = .admin ∧ role = .operator := by
  unfold normalizeUpdateRoleAndScopes at h
  cases givenScopes <;> cases existing <;> simp at h <;> simp [← h.1]

/-- Scopes that are not given are kept by an operator and emptied for everyone
else. -/
theorem scopes_ungiven
    (h : normalizeUpdateRoleAndScopes existing requested none existingScopes =
      (role, scopes)) :
    scopes = some existingScopes ∧ existing = .operator ∧ role = .operator ∨
      scopes = some [] ∧ (existing ≠ .operator ∨ role ≠ .operator) := by
  unfold normalizeUpdateRoleAndScopes at h
  rcases requested with _ | requested
  · cases existing <;> simp at h <;> simp [← h.1, ← h.2]
  · cases requested <;> cases existing <;> simp at h <;> simp [← h.1, ← h.2]

end Rules

/-! ## Scopes in the table -/

theorem mem_listForUser {s : AdminDb} {userId : Nat} {scope : OperatorScope} :
    scope ∈ s.listForUser userId ↔
      ∃ r ∈ s.operatorScopes.rows, r.userId = userId ∧ r.scope = scope := by
  simp [AdminDb.listForUser, and_assoc]

theorem mem_destutter' {α : Type} [DecidableEq α] {x : α} (l : List α) (a : α) :
    x ∈ l.destutter' (· ≠ ·) a ↔ x = a ∨ x ∈ l := by
  induction l generalizing a with
  | nil => simp
  | cons b l ih =>
      rw [List.destutter'_cons]
      split
      · rw [List.mem_cons, ih, List.mem_cons]
      · next h =>
          rw [ih, List.mem_cons, not_not.mp h]
          simp

theorem mem_destutter {α : Type} [DecidableEq α] {x : α} {l : List α} :
    x ∈ l.destutter (· ≠ ·) ↔ x ∈ l := by
  cases l with
  | nil => simp
  | cons a l => rw [List.destutter_cons', mem_destutter', List.mem_cons]

/-- A set has the elements of the list it is collected from. -/
theorem mem_uniqueScopes {scopes : List OperatorScope} {scope : OperatorScope} :
    scope ∈ uniqueScopes scopes ↔ scope ∈ scopes := by
  unfold uniqueScopes
  rw [mem_destutter, List.mem_insertionSort]

/-! ## The transaction -/

/-- The columns an update writes over a row. -/
def patchOf (input : AdminUpdateUser) (sessionVersion : Option Int) : UserPatch :=
  { username := input.username
    email := input.email
    passwordHash := input.passwordHash
    role := input.role
    status := input.status
    mustChangePassword := input.mustChangePassword
    sessionVersion := sessionVersion }

/-- The given columns are set in the row of the user, and the scopes stay. -/
structure Updated (id : Nat) (input : AdminUpdateUser) (s s' : AdminDb) : Prop where
  rows : ∃ v, s'.db.users.rows = s.db.users.rows.map fun u =>
    if u.id = id then Db.patchUser (patchOf input v) u else u
  scopes : s'.operatorScopes = s.operatorScopes

/-- The statements on the other tables, in the transaction. -/
abbrev dbPart : Machine dbSignature := adminDbMachine.pullback dbHom

theorem wp_required {α : Type} {K : α → AdminDb → Prop} {e : AsterError}
    {found : Option α} {s : AdminDb} (h : ∀ a, found = some a → K a s) :
    (DbProg.required e found).Wp dbPart (OnSuccess K) s := by
  cases found with
  | none => exact wp_err_success e
  | some a => exact wp_ok_success (h a rfl)

/-- What the `UPDATE` of a user answers and does. -/
theorem exec_userUpdate {id : Nat} {patch : UserPatch} {s : AdminDb} {u : User}
    (h : (dbPart.exec (.userUpdate id patch) s).1 = some u) :
    (dbPart.exec (.userUpdate id patch) s).2.db.users.rows =
        s.db.users.rows.map (fun u => if u.id = id then Db.patchUser patch u else u) ∧
      (dbPart.exec (.userUpdate id patch) s).2.operatorScopes = s.operatorScopes := by
  simp only [dbHom, AdminStmt.exec, DbStmt.exec] at h ⊢
  cases hfind : s.db.users.find? fun u => u.id = id with
  | none =>
      simp only [hfind] at h
      cases h
  | some u₀ =>
      simp only [hfind] at h ⊢
      cases hupdate : s.db.users.update? (fun u => u.id = id) (Db.patchUser patch)
          (fun _ => rfl) with
      | none =>
          simp only [hupdate] at h
          cases h
      | some users =>
          simp only
          refine ⟨?_, trivial⟩
          rw [(Table.update?_eq_some hupdate).1]
          simp

theorem wp_userUpdateAdmin (id : Nat) (input : AdminUpdateUser) (bump : Bool)
    (s : AdminDb) :
    (userUpdateAdmin id input bump).Wp dbPart
      (OnSuccess fun _ s' => Updated id input s s') s := by
  unfold userUpdateAdmin userFindById
  simp only [bind_eq, bind_assoc]
  refine wp_stmt_bind.mpr ?_
  refine Wp.bind_success (wp_required (K := fun _ s' => s' = s) fun _ _ => rfl) ?_
  rintro existing s' rfl
  refine wp_stmt_bind.mpr (wp_required fun u hu => ?_)
  obtain ⟨hrows, hscopes⟩ := exec_userUpdate hu
  exact ⟨⟨_, hrows⟩, hscopes⟩

theorem wp_ensureUsernameAvailable (username : String) (owner : Option Nat) (s : AdminDb) :
    (ensureUsernameAvailable username owner).Wp dbPart (OnSuccess fun _ s' => s' = s) s := by
  refine wp_stmt_bind.mpr (wp_rejectIf_success fun _ => wp_stmt_bind.mpr ?_)
  exact wp_rejectIf_last (fun _ => onSuccess_error _) fun _ _ _ => rfl

theorem wp_updateUserTxn (id : Nat) (input : AdminUpdateUser) (s : AdminDb) :
    (updateUserTxn id input).Wp dbPart (OnSuccess fun _ s' => Updated id input s s') s := by
  unfold updateUserTxn
  cases input.username with
  | none => exact wp_userUpdateAdmin id input _ s
  | some username =>
      refine Wp.bind_success (wp_ensureUsernameAvailable username (some id) s) ?_
      rintro _ s' rfl
      exact wp_userUpdateAdmin id input _ s'

/-- Rows of the user with these scopes have been added, and nothing else. -/
structure Added (userId : Nat) (scopes : List OperatorScope) (s s' : AdminDb) : Prop where
  db : s'.db = s.db
  rows : ∃ new : List UserOperatorScope,
    s'.operatorScopes.rows = s.operatorScopes.rows ++ new ∧
      (∀ r ∈ new, r.userId = userId) ∧ new.map UserOperatorScope.scope = scopes

theorem exec_scopeInsert {userId createdAt : Nat} {scope : OperatorScope} {s : AdminDb}
    {row : UserOperatorScope}
    (h : ((AdminStmt.scopeInsert userId scope createdAt).exec s).1 = some row) :
    Added userId [scope] s ((AdminStmt.scopeInsert userId scope createdAt).exec s).2 := by
  simp only [AdminStmt.exec] at h ⊢
  split at h
  next huser =>
    simp only [if_pos huser]
    cases hins : s.operatorScopes.nextId.2.insert?
        ⟨s.operatorScopes.nextId.1, userId, scope, createdAt⟩ with
    | none =>
        simp only [hins] at h
        cases h
    | some scopes =>
        simp only
        refine ⟨rfl, _, (Table.insert?_eq_some hins).1, ?_, rfl⟩
        intro r hr
        rw [List.mem_singleton.mp hr]
  next => cases h

/-- One insert of the loop. -/
theorem wp_insertScope (userId createdAt : Nat) (scope : OperatorScope) (s : AdminDb) :
    (insertScope userId createdAt scope).Wp adminDbMachine
      (OnSuccess fun _ s' => Added userId [scope] s s') s := by
  unfold insertScope
  refine wp_stmt_bind.mpr ?_
  cases hreply : ((AdminStmt.scopeInsert userId scope createdAt).exec s).1 with
  | none => exact wp_err_success _
  | some row => exact wp_ok_success (exec_scopeInsert hreply)

theorem Added.append {userId : Nat} {scopes scopes' : List OperatorScope}
    {s s' s'' : AdminDb} (h : Added userId scopes s s') (h' : Added userId scopes' s' s'') :
    Added userId (scopes ++ scopes') s s'' := by
  obtain ⟨new, hrows, huser, hscopes⟩ := h.rows
  obtain ⟨new', hrows', huser', hscopes'⟩ := h'.rows
  refine ⟨h'.db.trans h.db, new ++ new', ?_, ?_, ?_⟩
  · rw [hrows', hrows, List.append_assoc]
  · intro r hr
    exact (List.mem_append.mp hr).elim (huser r) (huser' r)
  · rw [List.map_append, hscopes, hscopes']

theorem wp_insertScopes (userId createdAt : Nat) (scopes : List OperatorScope)
    (s : AdminDb) :
    (forEach scopes (insertScope userId createdAt)).Wp adminDbMachine
      (OnSuccess fun _ s' => Added userId scopes s s') s := by
  induction scopes generalizing s with
  | nil => exact wp_ok_success ⟨rfl, [], by simp⟩
  | cons scope scopes ih =>
      have hone := wp_insertScope userId createdAt scope s
      refine Wp.bind_success hone fun _ s' hadded => ?_
      exact (ih s').mono fun r s'' h a ha => hadded.append (h a ha)

/-- The scopes of the user are replaced, and nothing else. -/
structure Replaced (userId : Nat) (scopes : List OperatorScope) (s s' : AdminDb) : Prop where
  db : s'.db = s.db
  scopes : ∀ scope, scope ∈ s'.listForUser userId ↔ scope ∈ scopes

theorem wp_replaceForUser (userId : Nat) (scopes : List OperatorScope) (s : AdminDb) :
    (replaceForUser userId scopes).Wp adminDbMachine
      (OnSuccess fun _ s' => Replaced userId scopes s s') s := by
  refine wp_stmt_bind.mpr (wp_stmt_bind.mpr ?_)
  have hloop := wp_insertScopes userId s.db.now (uniqueScopes scopes)
    { s with operatorScopes := s.operatorScopes.delete fun r => r.userId = userId }
  refine Wp.mono hloop fun r s' h a ha => ?_
  obtain ⟨hdb, new, hrows, huser, hscopes⟩ := h a ha
  refine ⟨hdb, fun scope => ?_⟩
  rw [mem_listForUser, hrows, ← mem_uniqueScopes, ← hscopes, List.mem_map]
  constructor
  · rintro ⟨r, hr, hid, rfl⟩
    rcases List.mem_append.mp hr with hr | hr
    · -- the deleted rows were all rows of the user
      rw [Table.delete_rows, List.mem_filter] at hr
      simp [hid] at hr
    · exact ⟨r, hr, rfl⟩
  · rintro ⟨r, hr, rfl⟩
    exact ⟨r, List.mem_append_right _ hr, huser r hr, rfl⟩

/-- What a committed transaction has done: the row is updated, and the scopes
are replaced if there is a list of them. -/
structure UpdateTxn.Done (t : UpdateTxn) (s s' : AdminDb) : Prop where
  rows : ∃ v, s'.db.users.rows = s.db.users.rows.map fun u =>
    if u.id = t.id then Db.patchUser (patchOf t.input v) u else u
  scopes : ∀ scopes, t.scopes = some scopes →
    ∀ scope, scope ∈ s'.listForUser t.id ↔ scope ∈ scopes

theorem wp_updateTxn (t : UpdateTxn) (s : AdminDb) :
    (updateTxn t.id t.input t.scopes).Wp adminDbMachine
      (OnSuccess fun _ s' => t.Done s s') s := by
  have hrow : ((updateUserTxn t.id t.input).hoist dbHom fun e => e).Wp adminDbMachine
      (OnSuccess fun _ s' => Updated t.id t.input s s') s := by
    refine wp_hoist.mpr ((wp_updateUserTxn t.id t.input s).mono ?_)
    intro r s' h a ha
    cases r with
    | ok u => exact h u rfl
    | error e => cases ha
  refine Wp.bind_success hrow fun user s' hupdated => ?_
  cases hscopes : t.scopes with
  | none =>
      refine wp_ok_success ⟨hupdated.rows, fun scopes h => ?_⟩
      rw [hscopes] at h
      cases h
  | some given =>
      refine Wp.bind_success (wp_replaceForUser t.id given s') fun _ s'' hreplaced => ?_
      refine wp_ok_success ⟨?_, fun scopes h => ?_⟩
      · rw [hreplaced.db]
        exact hupdated.rows
      · rw [hscopes] at h
        cases h
        exact hreplaced.scopes

/-- **Everything the transaction can do**: nothing, or the update. -/
theorem commit_cases (t : UpdateTxn) (s : AdminDb) :
    (∃ e, t.commit s = (.error e, s)) ∨
      ∃ user s', t.commit s = (.ok user, s') ∧ t.Done s s' := by
  have hbody := wp_updateTxn t s
  unfold UpdateTxn.commit
  cases hrun : (updateTxn t.id t.input t.scopes).run adminDbMachine s with
  | mk r s' =>
      cases r with
      | error e => exact Or.inl ⟨e, rfl⟩
      | ok user =>
          refine Or.inr ⟨user, s', rfl, ?_⟩
          have hdone := hbody user (by rw [hrun])
          rwa [hrun] at hdone

/-! ## What a call has read when its transaction runs -/

/-- Every transaction in the trace is the one that the reads before it and the
input determine. -/
def Planned (lib : Library) (id : Nat) (input : UpdateUserInput)
    (tr : Trace adminMachine) : Prop :=
  ∀ t s, (AdminServiceStmt.txn t, s) ∈ tr → t.id = id ∧
    ∃ (read listed : AdminDb) (existing : User) (role : UserRole),
      (AdminServiceStmt.sql (.db (.userFindById id)), read) ∈ tr ∧
      (AdminServiceStmt.sql (.scopesListForUser id), listed) ∈ tr ∧
      (read.db.users.find? fun u => u.id = id) = some existing ∧
      normalizeUpdateRoleAndScopes existing.role input.role input.operatorScopes
        (listed.listForUser id) = (role, t.scopes) ∧
      input.columns lib role = .ok t.input

theorem ensures_updateUser (lib : Library) (id : Nat) (input : UpdateUserInput)
    (s : AdminDb) :
    (updateUser lib id input).Ensures (.free adminMachine)
      (fun tr _ _ => Planned lib id input tr) [] s := by
  refine Ensures.observe fun read => ?_
  have hfind : (adminMachine.exec (.sql (.db (.userFindById id))) read).1 =
      read.db.users.find? fun u => u.id = id := rfl
  rw [hfind]
  cases hexisting : read.db.users.find? fun u => u.id = id with
  | none =>
      intro _ _ _ t s ht
      simp at ht
  | some existing =>
      refine Ensures.rejectIf (fun _ _ _ _ t s ht => by simp at ht) fun _ => ?_
      refine Ensures.observe fun listed => ?_
      have hlist : (adminMachine.exec (.sql (.scopesListForUser id)) listed).1 =
          listed.listForUser id := rfl
      rw [hlist]
      cases hrules : normalizeUpdateRoleAndScopes existing.role input.role
          input.operatorScopes (listed.listForUser id) with
      | mk role scopes =>
          simp only
          cases hcolumns : input.columns lib role with
          | error e =>
              intro _ _ _ t s ht
              simp at ht
          | ok columns =>
              refine Ensures.observe fun before => ?_
              have hplanned : Planned lib id input
                  ([] ++ [(.sql (.db (.userFindById id)), read)] ++
                    [(.sql (.scopesListForUser id), listed)] ++
                      [(.txn ⟨id, columns, scopes⟩, before)]) := by
                intro t s ht
                simp only [List.nil_append, List.cons_append, List.mem_cons, Prod.mk.injEq,
                  reduceCtorEq, false_and, List.not_mem_nil, or_false, false_or] at ht
                obtain ⟨ht, rfl⟩ := ht
                cases ht
                refine ⟨rfl, read, listed, existing, role, ?_, ?_, hexisting, hrules, hcolumns⟩
                · simp
                · simp
              cases (adminMachine.exec (.txn ⟨id, columns, scopes⟩) before).1 with
              | ok user => exact fun _ _ _ => hplanned
              | error e => exact fun _ _ _ => hplanned

/-! ## Runs -/

/-- The fields the input does not mention, but for role and scopes, are the
same in the two rows. -/
structure Unmentioned (input : UpdateUserInput) (u u' : User) : Prop where
  username : input.username = none → u'.username = u.username
  email : input.email = none → u'.email = u.email
  password : input.password = none → u'.passwordHash = u.passwordHash
  status : input.status = none → u'.status = u.status
  mustChangePassword :
    input.mustChangePassword = none → u'.mustChangePassword = u.mustChangePassword

/-- An unmentioned role is kept, unless the call gives scopes to an
administrator, who becomes an operator. -/
def RoleKept (input : UpdateUserInput) (u u' : User) : Prop :=
  input.role = none → u'.role = u.role ∨
    input.operatorScopes.isSome ∧ u.role = .admin ∧ u'.role = .operator

/-- Unmentioned scopes are kept, unless the user is not an operator before or
after and has none then. -/
def ScopesKept (input : UpdateUserInput) (u u' : User) (scopes scopes' : List OperatorScope) :
    Prop :=
  input.operatorScopes = none → (∀ scope, scope ∈ scopes' ↔ scope ∈ scopes) ∨
    (u.role ≠ .operator ∨ u'.role ≠ .operator) ∧ scopes' = []

/-- The calls of administrators that run concurrently. -/
abbrev AdminPool := Config adminMachine AsterError AdminCall (Option User)

/-- The role and the scopes of the user are what call `i` has read. -/
structure AsRead (c : AdminPool) (i id : Nat) (s : AdminDb) : Prop where
  role : ∀ read, (AdminServiceStmt.sql (.db (.userFindById id)), read) ∈ c.trace i →
    ∀ u ∈ read.db.users.rows, ∀ u' ∈ s.db.users.rows, u.id = id → u'.id = id →
      u'.role = u.role
  scopes : ∀ listed, (AdminServiceStmt.sql (.scopesListForUser id), listed) ∈ c.trace i →
    ∀ scope, scope ∈ listed.listForUser id ↔ scope ∈ s.listForUser id

/-- `P` relates the rows of the user before and after every transaction of call
`i`, and the states they stand in. -/
def OnUpdate (c : AdminPool) (i id : Nat)
    (P : AdminDb → AdminDb → User → User → Prop) : Prop :=
  ∀ e ∈ c.log, e.tid = i → e.stmt.isTxn = true →
    ∀ u ∈ e.pre.db.users.rows, ∀ u' ∈ e.post.db.users.rows, u.id = id → u'.id = id →
      P e.pre e.post u u'

/-- What call `i` leaves alone: always the fields other than role and scopes,
and role and scopes, up to their rules, if they are as the call has read
them. -/
def KeepsUnmentioned (c : AdminPool) (i id : Nat) (input : UpdateUserInput) : Prop :=
  OnUpdate c i id fun s s' u u' => Unmentioned input u u' ∧ (AsRead c i id s →
    RoleKept input u u' ∧
      ScopesKept input u u' (s.listForUser id) (s'.listForUser id))

/-- The row of the user after the transaction. -/
theorem UpdateTxn.Done.row {t : UpdateTxn} {s s' : AdminDb} (h : t.Done s s') {u u' : User}
    (hu : u ∈ s.db.users.rows) (hu' : u' ∈ s'.db.users.rows) (hid : u.id = t.id)
    (hid' : u'.id = t.id) : ∃ v, u' = Db.patchUser (patchOf t.input v) u := by
  obtain ⟨v, hrows⟩ := h.rows
  rw [hrows] at hu'
  obtain ⟨u₀, hu₀, rfl⟩ := List.mem_map.mp hu'
  have hsame : u₀.id = t.id := by
    by_cases heq : u₀.id = t.id
    · exact heq
    · rwa [if_neg heq] at hid'
  have heq : u₀ = u := s.db.users.eq_of_ident hu₀ hu (hsame.trans hid.symm)
  exact ⟨v, by rw [if_pos hsame, heq]⟩

/-- The columns of fields that are not mentioned are not set. -/
theorem columns_unmentioned {lib : Library} {input : UpdateUserInput} {role : UserRole}
    {columns : AdminUpdateUser} (h : input.columns lib role = .ok columns) (v : Option Int)
    (u : User) :
    Unmentioned input u (Db.patchUser (patchOf columns v) u) ∧ columns.role = some role := by
  obtain ⟨username, husername, h⟩ := except_bind_ok h
  obtain ⟨email, hemail, h⟩ := except_bind_ok h
  obtain ⟨passwordHash, hpassword, h⟩ := except_bind_ok h
  cases h
  refine ⟨⟨?_, ?_, ?_, ?_, ?_⟩, rfl⟩
  · intro hnone
    rw [hnone] at husername
    cases husername
    rfl
  · intro hnone
    rw [hnone] at hemail
    cases hemail
    rfl
  · intro hnone
    rw [hnone] at hpassword
    cases hpassword
    rfl
  · intro hnone
    simp [Db.patchUser, patchOf, hnone]
  · intro hnone
    simp [Db.patchUser, patchOf, hnone]

/-- **What a call does not mention keeps the value it has just before the
transaction of the call**, in every run of any number of updates. -/
theorem unmentioned_fields_kept (lib : Library) {s₀ : AdminDb}
    {sched : List (Action AdminCall)} {c : AdminPool}
    (hc : c = (initial s₀).runs (AdminCall.body lib) sched) {i id : Nat}
    {input : UpdateUserInput} {th : Thread adminSignature AsterError AdminCall (Option User)}
    (hth : c.threads[i]? = some th) (hcall : th.call = .update id input)
    {r : Except AsterError (Option User)} (hr : c.result? i = some r) :
    KeepsUnmentioned c i id input := by
  have hplanned : Planned lib id input (c.trace i) := by
    have hbody : ∀ call s, (AdminCall.body lib call).Ensures (.free adminMachine)
        (fun tr _ _ => ∀ id input, call = .update id input → Planned lib id input tr) [] s := by
      intro call s
      cases call with
      | tick ms => exact fun _ _ _ _ => ⟨trivial, fun _ _ _ _ _ h => by cases h⟩
      | update id input =>
          refine Ensures.bind trivial ((ensures_updateUser lib id input s).mono ?_)
          intro tr r s hplanned
          cases r with
          | ok user =>
              intro _ _ _ _ _ _ heq
              cases heq
              exact hplanned
          | error e =>
              intro _ _ heq
              cases heq
              exact hplanned
    exact result_of_free (Q := fun call tr _ _ =>
      ∀ id input, call = .update id input → Planned lib id input tr) hbody hc hth hr
        id input hcall
  intro e he htid htxn u hu u' hu' hid hid'
  obtain ⟨j, st, s⟩ := e
  cases st with
  | sql i => cases htxn
  | txn t =>
      have hmem : (AdminServiceStmt.txn t, s) ∈ c.trace i := mem_trace.mpr ⟨_, he, htid, rfl, rfl⟩
      obtain ⟨htid', read, listed, existing, role, hread, hlisted, hfind, hrules, hcolumns⟩ :=
        hplanned t s hmem
      obtain ⟨hexisting, hexistingId⟩ := Table.of_find? hfind
      rcases commit_cases t s with ⟨e, heq⟩ | ⟨user, s', heq, hdone⟩
      · -- a transaction that fails changes nothing
        have hpost : (Event.mk (M := adminMachine) j (.txn t) s).post = s := by
          change (t.commit s).2 = s
          rw [heq]
        rw [hpost] at hu' ⊢
        have hsame : u' = u := s.db.users.eq_of_ident hu' hu (hid'.trans hid.symm)
        rw [hsame]
        exact ⟨⟨fun _ => rfl, fun _ => rfl, fun _ => rfl, fun _ => rfl, fun _ => rfl⟩,
          fun _ => ⟨fun _ => Or.inl rfl, fun _ => Or.inl fun _ => Iff.rfl⟩⟩
      · have hpost : (Event.mk (M := adminMachine) j (.txn t) s).post = s' := by
          change (t.commit s).2 = s'
          rw [heq]
        rw [hpost] at hu' ⊢
        obtain ⟨v, hrow⟩ := hdone.row hu hu' (hid.trans htid'.symm) (hid'.trans htid'.symm)
        obtain ⟨hunmentioned, hrole⟩ := columns_unmentioned hcolumns v u
        have hu'role : u'.role = role := by
          rw [hrow]
          simp [Db.patchUser, patchOf, hrole]
        refine ⟨by rwa [hrow], fun hasread => ?_⟩
        have hsameRole : u.role = existing.role :=
          hasread.role read hread existing hexisting u hu (of_decide_eq_true hexistingId) hid
        refine ⟨fun hnone => ?_, fun hnone => ?_⟩
        · rw [hnone] at hrules
          rw [hu'role, hsameRole]
          exact role_unasked hrules
        · rw [hnone] at hrules
          rw [hu'role, hsameRole]
          rcases scopes_ungiven hrules with ⟨hscopes, -, -⟩ | ⟨hscopes, hno⟩
          · refine Or.inl fun scope => ?_
            have hnew := hdone.scopes _ hscopes scope
            rw [htid'] at hnew
            exact hnew.trans (hasread.scopes listed hlisted scope)
          · refine Or.inr ⟨hno, List.eq_nil_iff_forall_not_mem.mpr fun scope hscope => ?_⟩
            rw [← htid'] at hscope
            have hnew := (hdone.scopes _ hscopes scope).mp hscope
            cases hnew

/-! ## Small runs -/

/-- The pool after a schedule of updates. -/
def adminRun (sched : List (Action AdminCall)) : AdminPool :=
  (initial twoAdmins).runs (AdminCall.body External.plainLibrary) sched

/-- An update of the operator that only changes the email. -/
def emailOnly : UpdateUserInput := ⟨none, some "new@x", none, none, none, none, none⟩

/-- An update of the operator that only changes the role. -/
def demotion : UpdateUserInput := ⟨none, none, none, some .user, none, none, none⟩

/-- One update changes the name between the reads and the transaction of
another one, which changes the email. -/
theorem email_change_keeps_fields :
    KeepsUnmentioned (adminRun [.spawn (.update 2 emailOnly),
        .spawn (.update 2 ⟨some "olga2", none, none, none, none, none, none⟩), .run 0, .run 0,
        .run 1, .run 1, .run 1, .run 0]) 0 2 emailOnly :=
  unmentioned_fields_kept External.plainLibrary rfl rfl rfl (r := _) rfl

/-- Every field that the input does not mention is kept. -/
def KeepsEveryUnmentioned (c : AdminPool) (i id : Nat) (input : UpdateUserInput) : Prop :=
  OnUpdate c i id fun s s' u u' => Unmentioned input u u' ∧
    (input.role = none → u'.role = u.role) ∧
      (input.operatorScopes = none → s'.listForUser id = s.listForUser id)

/-- **A demotion empties the scopes**: the call mentions the role only, and the
operator's scopes are gone after it. -/
theorem demotion_empties_scopes :
    ¬ KeepsEveryUnmentioned (adminRun (.spawn (.update 2 demotion) ::
      List.replicate 3 (.run 0))) 0 2 demotion := by
  intro h
  have hlost : ∃ e ∈ (adminRun (.spawn (.update 2 demotion) ::
        List.replicate 3 (.run 0))).log, (e.tid = 0 ∧ e.stmt.isTxn = true) ∧
      ∃ u ∈ e.pre.db.users.rows, ∃ u' ∈ e.post.db.users.rows, (u.id = 2 ∧ u'.id = 2) ∧
        e.post.listForUser 2 ≠ e.pre.listForUser 2 := by
    decide +kernel
  obtain ⟨e, he, ⟨htid, htxn⟩, u, hu, u', hu', ⟨hid, hid'⟩, hne⟩ := hlost
  exact hne ((h e he htid htxn u hu u' hu' hid hid').2.2 rfl)

/-- **An email change gives a role back**: it reads the operator, the demotion
runs to its end, and then it writes the role it has read. -/
theorem email_change_restores_role :
    ∃ e ∈ (adminRun [.spawn (.update 2 emailOnly), .spawn (.update 2 demotion), .run 0, .run 0,
        .run 1, .run 1, .run 1, .run 0]).log, (e.tid = 0 ∧ e.stmt.isTxn = true) ∧
      ∃ u ∈ e.pre.db.users.rows, ∃ u' ∈ e.post.db.users.rows, (u.id = 2 ∧ u'.id = 2) ∧
        u.role = .user ∧ u'.role = .operator := by
  decide +kernel

end AsterYggdrasil.Admin
