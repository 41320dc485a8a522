import AsterYggdrasil.External.ProviderGate

/-!
# Whose account a login opens

A login with an external identity opens an account, and `FlowUse` only says that a
flow was used up for it.  Here is what the account has to do with the identity.
Either they had been linked before; or the account was made for this login; or the
call brought something that speaks for the account: an email the provider has verified
and is trusted with, a confirmed email, or the password.  In each case the account was
active and is linked to the identity afterwards (`login_granted`).
-/

namespace AsterYggdrasil.External

open Interleave Relational Prog

/-! ## What a program has seen -/

/-- Wherever it ran, the program went through `seen` and returned `a`. -/
structure Saw {α : Type} (p : OnConnection α) (seen : Trace storeMachine) (a : α) : Prop where
  ran : (onStatements p).Ran storeMachine seen (.ok a)

/-- It holds after one of the statements. -/
def Shown (P : AccountState → Prop) (seen : Trace storeMachine) : Prop :=
  ∃ ev ∈ seen, P (ev.1.exec ev.2).2

/-- What was shown once was shown. -/
theorem Shown.mono {P : AccountState → Prop} {seen seen' : Trace storeMachine}
    (h : Shown P seen) (hsub : seen ⊆ seen') : Shown P seen' := by
  obtain ⟨ev, hev, hP⟩ := h
  exact ⟨ev, hsub hev, hP⟩

section Saw

variable {α β : Type} {seen : Trace storeMachine}

/-- **A sequence** has seen what its parts have seen. -/
theorem saw_bind {p : OnConnection α} {f : α → OnConnection β} {b : β}
    (h : Saw (p.bind f) seen b) :
    ∃ a seen₁ seen₂, seen = seen₁ ++ seen₂ ∧ Saw p seen₁ a ∧ Saw (f a) seen₂ b := by
  have hran := h.ran
  unfold onStatements at hran
  rw [translate_bind] at hran
  obtain ⟨a, seen₁, seen₂, hseen, h₁, h₂⟩ := ran_bind_ok.mp hran
  exact ⟨a, seen₁, seen₂, hseen, ⟨h₁⟩, ⟨h₂⟩⟩

/-- A program that is over has seen nothing. -/
theorem saw_ok {a a' : α} (h : Saw (.ok a) seen a') : seen = [] ∧ a' = a := by
  obtain ⟨hseen, heq⟩ := h.ran
  cases heq
  exact ⟨hseen, rfl⟩

/-- A failed one returns nothing. -/
theorem saw_err {e : ServiceError} {a : α} (h : Saw (.err e) seen a) : False := by
  cases h.ran.2

/-- A statement has seen the state it was executed in. -/
theorem saw_stmt {i : AccountStmt} (hi : i.whole = true) {r : i.Reply}
    (h : Saw (onConn i) seen r) :
    ∃ s, seen = [(.account i, s)] ∧ r = (i.exec s).1 := by
  have heq : onStatements (onConn i) =
      (onStore (.account i)).bind fun r => onStatements (.ok r) := by
    rw [← expand_whole hi]
    rfl
  have hran := h.ran
  rw [heq] at hran
  obtain ⟨s, rest, rfl, hrest⟩ := ran_stmt_bind.mp hran
  obtain ⟨rfl, hr⟩ := hrest
  cases hr
  exact ⟨s, rfl, rfl⟩

/-- The rule for one statement and what follows. -/
theorem saw_stmt_bind {i : AccountStmt} (hi : i.whole = true) {f : i.Reply → OnConnection α}
    {a : α} (h : Saw ((onConn i).bind f) seen a) :
    ∃ s rest, seen = (.account i, s) :: rest ∧ Saw (f (i.exec s).1) rest a := by
  obtain ⟨r, seen₁, rest, rfl, h₁, h₂⟩ := saw_bind h
  obtain ⟨s, rfl, rfl⟩ := saw_stmt hi h₁
  exact ⟨s, rest, rfl, h₂⟩

/-- A check that was passed tells its condition. -/
theorem saw_rejectIf {c : Bool} {e : AsterError} {f : Unit → OnConnection α} {a : α}
    (h : Saw ((rejectIf c e).bind f) seen a) : c = false ∧ Saw (f ()) seen a := by
  cases c with
  | true => exact (saw_err h).elim
  | false => exact ⟨rfl, h⟩

/-- An expected row was there. -/
theorem saw_required {e : AsterError} {o : Option α} {f : α → OnConnection β} {b : β}
    (h : Saw ((required e o).bind f) seen b) : ∃ a, o = some a ∧ Saw (f a) seen b := by
  cases o with
  | none => exact (saw_err h).elim
  | some a => exact ⟨a, rfl, h⟩

/-- Two programs that went through one after the other. -/
theorem saw_of_bind {p : OnConnection α} {f : α → OnConnection β} {a : α} {b : β}
    {seen₁ seen₂ : Trace storeMachine} (h₁ : Saw p seen₁ a) (h₂ : Saw (f a) seen₂ b) :
    Saw (p.bind f) (seen₁ ++ seen₂) b := by
  constructor
  unfold onStatements
  rw [translate_bind]
  exact ran_bind_ok.mpr ⟨a, seen₁, seen₂, rfl, h₁.ran, h₂.ran⟩

/-- A query at the end that has found its row. -/
theorem saw_found {e : AsterError} {o : Option α} {a : α} (h : Saw (required e o) seen a) :
    seen = [] ∧ o = some a := by
  cases o with
  | none => exact (saw_err h).elim
  | some a' =>
      obtain ⟨hseen, rfl⟩ := saw_ok h
      exact ⟨hseen, rfl⟩

/-- A pure check was passed. -/
theorem saw_checked {y : Except AsterError α} {f : α → OnConnection β} {b : β}
    (h : Saw ((checked y).bind f) seen b) : ∃ a, y = .ok a ∧ Saw (f a) seen b := by
  cases y with
  | error e => exact (saw_err h).elim
  | ok a => exact ⟨a, rfl, h⟩

/-- A transaction has seen what its statements were executed on. -/
theorem InTxn.saw {x : Nat} {p : OnConnection α} {buf buf' : accountStore.Buffer}
    {tr : Trace accountStore.readCommitted} {a : α} (h : InTxn x p buf tr buf' a) :
    Saw p (accountStore.statements tr) a := ⟨h.ran.statements⟩

/-- The statement is no transaction. -/
def AccountStmt.single : AccountStmt → Bool
  | .service (.txn _) => false
  | _ => true

/-- A program without transactions of its own. -/
abbrev Single (p : OnConnection α) : Prop := Issues (fun i => AccountStmt.single i = true) p

/-- On a connection each statement is one of the store. -/
theorem inStore_onDb (lib : Library) {p : OnConnection α} (hp : Single p) :
    inStore lib (onDb p) = onPoolOf (onStatements p) := by
  induction p with
  | ok a => rfl
  | err e => rfl
  | act i k ih =>
      have hnotxn : ∀ t, i ≠ .service (.txn t) := by
        intro t heq
        subst heq
        cases hp.within.1
      have hrest : (fun r => inStore lib (onDb (k r))) = fun r => onPoolOf (onStatements (k r)) :=
        funext fun r => ih r ⟨hp.within.2 r⟩
      calc inStore lib (onDb (act i k))
          = (storeStep lib (.sql i)).bind fun r => inStore lib (onDb (k r)) := rfl
        _ = (onPoolOf (expand i)).bind fun r => onPoolOf (onStatements (k r)) := by
            rw [hrest, storeStep_sql lib hnotxn]
        _ = onPoolOf ((expand i).bind fun r => onStatements (k r)) :=
            (translate_bind _ _ _).symm

/-- A program on the pool has seen the committed rows. -/
theorem OnPool.saw {lib : Library} {p : OnConnection α}
    {tr : Trace accountStore.readCommitted} {a : α} (h : OnPool lib (onDb p) tr a)
    (hp : Single p) : Saw p (accountStore.statements tr) a := by
  have hran := h.ran
  rw [inStore_onDb lib hp] at hran
  exact ⟨Store.ran_auto hran⟩

/-- A caught success is a success. -/
theorem saw_attempt {p : OnConnection α} {a : α}
    (h : Saw (p.attempt : OnConnection (Except ServiceError α)) seen (.ok a)) :
    Saw p seen a := by
  induction p generalizing seen with
  | ok a' =>
      obtain ⟨rfl, heq⟩ := saw_ok h
      cases heq
      exact ⟨rfl, rfl⟩
  | err e => cases (saw_ok h).2
  | act i k ih =>
      have hbind : (act i k).attempt = (onConn i).bind fun r => (k r).attempt := rfl
      rw [hbind] at h
      obtain ⟨r, seen₁, seen₂, rfl, h₁, h₂⟩ := saw_bind h
      exact saw_of_bind (p := onConn i) h₁ (ih r h₂)

/-- The attempt that succeeded. -/
theorem saw_retry {attempt : Nat → OnConnection α} {ns : List Nat} {a : α}
    (h : Saw (retryOnUsernameConflict attempt ns) seen a) :
    ∃ n past now later, seen = past ++ now ++ later ∧ Saw (attempt n) now a := by
  induction ns generalizing seen with
  | nil => exact (saw_err h).elim
  | cons n rest ih =>
      obtain ⟨r, seen₁, seen₂, rfl, h₁, h₂⟩ := saw_bind h
      cases r with
      | ok a' =>
          obtain ⟨rfl, rfl⟩ := saw_ok h₂
          exact ⟨n, [], seen₁, [], by simp, saw_attempt h₁⟩
      | error e =>
          by_cases hconflict : usernameConflict e = true
          · simp only [hconflict, if_true] at h₂
            obtain ⟨m, past, now, later, rfl, hdone⟩ := ih h₂
            exact ⟨m, seen₁ ++ past, now, later, by simp, hdone⟩
          · simp only [hconflict] at h₂
            exact (saw_err h₂).elim

end Saw

/-! ## Accounts and identities -/

/-- The identity stands for the account. -/
def Identifies (identityNamespace subject : String) (userId : Nat) (s : AccountState) : Prop :=
  ∃ r ∈ s.identities.rows, r.identityNamespace = identityNamespace ∧ r.subject = subject ∧
    r.userId = userId

/-- The account is stored. -/
def Stored (u : User) (s : AccountState) : Prop := u ∈ s.users.rows

/-- The statements insert the account. -/
def Inserts (u : User) (seen : Trace storeMachine) : Prop :=
  ∃ id input s, (.userInsert id input, s) ∈ seen ∧
    (StoreStmt.exec (.userInsert id input) s).1 = some u

section Rows

variable {seen : Trace storeMachine}

/-- An account that was inserted under the key that was drawn for it. -/
theorem saw_userCreate {input : CreateAccount} {u : User}
    (h : Saw (onConn (.userCreate input)) seen (some u)) :
    Inserts u seen ∧ Shown (Stored u) seen ∧ ∃ id, u = newAccount id input := by
  obtain ⟨s, rest, rfl, s', rest', rfl, rfl, hreply⟩ := h.ran
  have hinserted : (StoreStmt.exec (.userInsert s.users.nextId.1 input) s').1 = some u :=
    (Except.ok.inj hreply).symm
  have hrows := hinserted
  simp only [StoreStmt.exec] at hrows
  split at hrows
  · next users hinsert =>
      cases hrows
      refine ⟨⟨_, _, s', List.mem_cons_of_mem _ (List.mem_singleton_self _), hinserted⟩,
        ⟨_, List.mem_cons_of_mem _ (List.mem_singleton_self _), ?_⟩, _, rfl⟩
      have hstored : Stored (newAccount s.users.nextId.1 input)
          ((StoreStmt.userInsert s.users.nextId.1 input).exec s').2 := by
        simp only [StoreStmt.exec, hinsert]
        change newAccount s.users.nextId.1 input ∈ users.rows
        rw [(Table.insert?_eq_some hinsert).1]
        exact List.mem_append_right _ (List.mem_singleton_self _)
      exact hstored
  · cases hrows

/-- An identity that was inserted under the key that was drawn for it. -/
theorem saw_identityCreate {input : CreateIdentity} {r : Identity}
    (h : Saw (onConn (.identityCreate input)) seen (some r)) :
    Shown (Identifies input.identityNamespace input.subject input.userId) seen := by
  obtain ⟨s, rest, rfl, s', rest', rfl, rfl, hreply⟩ := h.ran
  have hinserted : (StoreStmt.exec (.identityInsert s.identities.nextId.1 input) s').1 = some r :=
    (Except.ok.inj hreply).symm
  refine ⟨_, List.mem_cons_of_mem _ (List.mem_singleton_self _), ?_⟩
  have hidentifies : Identifies input.identityNamespace input.subject input.userId
      ((StoreStmt.identityInsert s.identities.nextId.1 input).exec s').2 := by
    simp only [StoreStmt.exec] at hinserted ⊢
    split at hinserted
    · next hrefs =>
        split at hinserted
        · next identities hinsert =>
            simp only [hrefs, if_true]
            refine ⟨newIdentity s.identities.nextId.1 input, ?_, rfl, rfl, rfl⟩
            exact (Table.insert?_eq_some hinsert).1 ▸
              List.mem_append_right _ (List.mem_singleton_self _)
        · cases hinserted
    · cases hinserted
  exact hidentifies

/-- `create_identity_for_claims` links the account. -/
theorem saw_createIdentityForClaims {userId now : Nat} {p : Provider} {claims : UserClaims}
    {metadata : Option String} {r : Identity}
    (h : Saw (createIdentityForClaims userId p claims now metadata) seen r) :
    Shown (Identifies claims.identityNamespace claims.subject userId) seen := by
  obtain ⟨row, seen₁, seen₂, rfl, hcreate, hrow⟩ := saw_bind h
  obtain ⟨rfl, rfl⟩ := saw_found hrow
  exact (saw_identityCreate hcreate).mono (List.subset_append_left _ _)

/-- The user was seen in the table. -/
theorem saw_userFindById {id : Nat} {u : User} (h : Saw (ofDb (userFindById id)) seen u) :
    Shown (Stored u) seen ∧ u.id = id := by
  obtain ⟨s, rest, rfl, hrest⟩ := saw_stmt_bind (i := .service (.db (.userFindById id))) rfl h
  cases hfound : ((AccountStmt.service (.db (.userFindById id))).exec s).1 with
  | none =>
      rw [hfound] at hrest
      exact (saw_err hrest).elim
  | some u' =>
      rw [hfound] at hrest
      obtain ⟨rfl, rfl⟩ := saw_ok hrest
      obtain ⟨hmem, hid⟩ := Table.of_find? hfound
      exact ⟨⟨_, List.mem_singleton_self _, hmem⟩, by simpa using hid⟩

end Rows

/-! ## Why a login is granted -/

/-- What entitles the identity to the account. -/
inductive Entitled (identityNamespace subject : String) (vouches : User → Prop)
    (seen : Trace storeMachine) : ResolvedUser → Prop
  | known {u : User} {i : StoreStmt} {s : AccountState} :
      (i, s) ∈ seen → Identifies identityNamespace subject u.id s →
      Entitled identityNamespace subject vouches seen ⟨u, false, false⟩
  | made {u : User} : Inserts u seen → u.role = .user →
      Entitled identityNamespace subject vouches seen ⟨u, true, true⟩
  | vouched {u : User} {linked : Bool} : vouches u →
      Entitled identityNamespace subject vouches seen ⟨u, linked, false⟩

/-- The login is granted: the account is active and stored, the identity stands for it
from then on, and the identity was entitled to it. -/
structure Granted (identityNamespace subject : String) (vouches : User → Prop)
    (seen : Trace storeMachine) (r : ResolvedUser) : Prop where
  active : r.user.status.isActive = true
  stored : Shown (Stored r.user) seen
  identified : Shown (Identifies identityNamespace subject r.user.id) seen
  entitled : Entitled identityNamespace subject vouches seen r

section Granted

variable {seen : Trace storeMachine} {identityNamespace subject : String}
  {vouches : User → Prop} {resolved : ResolvedUser}

/-- A login that was granted stays granted. -/
theorem Granted.mono (h : Granted identityNamespace subject vouches seen resolved)
    {seen' : Trace storeMachine} (hsub : seen ⊆ seen') :
    Granted identityNamespace subject vouches seen' resolved := by
  refine ⟨h.active, h.stored.mono hsub, h.identified.mono hsub, ?_⟩
  cases h.entitled with
  | known hmem hid => exact .known (hsub hmem) hid
  | made hinserts hrole =>
      obtain ⟨id, input, s, hmem, hreply⟩ := hinserts
      exact .made ⟨id, input, s, hsub hmem, hreply⟩ hrole
  | vouched hvouches => exact .vouched hvouches

/-- The login of an identity that was known. -/
theorem saw_loginWithIdentity {identity : Identity} {claims : UserClaims}
    {metadata : Option String} {now : Nat}
    (h : Saw (loginWithIdentity identity claims metadata now) seen resolved) :
    ∃ u, resolved = ⟨u, false, false⟩ ∧ u.id = identity.userId ∧
      u.status.isActive = true ∧ Shown (Stored u) seen := by
  obtain ⟨s, rest, rfl, h₁⟩ := saw_stmt_bind rfl h
  obtain ⟨u, seen₁, seen₂, rfl, huser, h₂⟩ := saw_bind h₁
  obtain ⟨hactive, h₃⟩ := saw_rejectIf h₂
  obtain ⟨rfl, rfl⟩ := saw_ok h₃
  obtain ⟨hstored, hid⟩ := saw_userFindById huser
  exact ⟨u, rfl, hid, by simpa using hactive, hstored.mono (by simp)⟩

/-- An identity that was found, and its login. -/
theorem granted_known {identity : Identity} {claims : UserClaims} {metadata : Option String}
    {now : Nat} {s : AccountState}
    (hfound : (s.identities.find? fun x => x.identityNamespace = claims.identityNamespace &&
      x.subject = claims.subject) = some identity)
    (h : Saw (loginWithIdentity identity claims metadata now) seen resolved) :
    Granted claims.identityNamespace claims.subject vouches
      ((.account (.identityFindByNamespaceSubject claims.identityNamespace claims.subject), s) ::
        seen) resolved := by
  obtain ⟨u, rfl, hid, hactive, hstored⟩ := saw_loginWithIdentity h
  obtain ⟨hmem, hkey⟩ := Table.of_find? hfound
  simp only [Bool.and_eq_true, decide_eq_true_eq] at hkey
  have hidentifies : Identifies claims.identityNamespace claims.subject u.id s :=
    ⟨identity, hmem, hkey.1, hkey.2, hid.symm⟩
  constructor
  · exact hactive
  · exact hstored.mono (List.subset_cons_self _ _)
  · exact ⟨_, List.mem_cons_self .., hidentifies⟩
  · exact .known (List.mem_cons_self ..) hidentifies

/-- The account of an insert that was asked for. -/
theorem saw_newAccount {input : CreateAccount} {u : User}
    (h : Saw ((onConn (.userCreate input)).bind fun row => required .databaseOperation row)
      seen u) :
    Inserts u seen ∧ Shown (Stored u) seen ∧ u.role = input.role ∧ u.status = input.status := by
  obtain ⟨row, seen₁, seen₂, rfl, hcreate, hrow⟩ := saw_bind h
  obtain ⟨rfl, rfl⟩ := saw_found hrow
  obtain ⟨hinserts, hstored, id, rfl⟩ := saw_userCreate hcreate
  rw [List.append_nil]
  exact ⟨hinserts, hstored, rfl, rfl⟩

/-- An insert that has happened has happened. -/
theorem Inserts.mono {u : User} {seen' : Trace storeMachine} (h : Inserts u seen)
    (hsub : seen ⊆ seen') : Inserts u seen' := by
  obtain ⟨id, input, s, hmem, hreply⟩ := h
  exact ⟨id, input, s, hsub hmem, hreply⟩

/-- `create_user_with_role` has inserted the user that it returns. -/
theorem saw_createUserWithRole {lib : Library} {input : CreateUserWithRole} {u : User}
    (h : Saw (createUserWithRole lib input) seen u) :
    Inserts u seen ∧ Shown (Stored u) seen ∧ u.role = input.role ∧ u.status = input.status := by
  obtain ⟨_, seen₁, rest₁, rfl, -, h⟩ := saw_bind h
  obtain ⟨email, -, h⟩ := saw_checked h
  obtain ⟨_, -, h⟩ := saw_checked h
  obtain ⟨_, -, h⟩ := saw_checked h
  obtain ⟨_, seen₂, rest₂, rfl, -, h⟩ := saw_bind h
  obtain ⟨_, seen₃, rest₃, rfl, -, h⟩ := saw_bind h
  obtain ⟨hash, -, h⟩ := saw_checked h
  obtain ⟨hinserts, hstored, hrole, hstatus⟩ := saw_newAccount h
  have hsub : rest₃ ⊆ seen₁ ++ (seen₂ ++ (seen₃ ++ rest₃)) := by
    intro ev hev
    simp [hev]
  exact ⟨hinserts.mono hsub, hstored.mono hsub, hrole, hstatus⟩

/-- So has its sibling for accounts without an address. -/
theorem saw_createUserWithoutEmail {lib : Library} {input : CreateUserWithoutEmail} {u : User}
    (h : Saw (createUserWithoutEmailWithRole lib input) seen u) :
    Inserts u seen ∧ Shown (Stored u) seen ∧ u.role = input.role ∧ u.status = input.status := by
  obtain ⟨_, seen₁, rest₁, rfl, -, h⟩ := saw_bind h
  obtain ⟨_, -, h⟩ := saw_checked h
  obtain ⟨_, seen₂, rest₂, rfl, -, h⟩ := saw_bind h
  obtain ⟨hash, -, h⟩ := saw_checked h
  obtain ⟨hinserts, hstored, hrole, hstatus⟩ := saw_newAccount h
  have hsub : rest₂ ⊆ seen₁ ++ (seen₂ ++ rest₂) := by
    intro ev hev
    simp [hev]
  exact ⟨hinserts.mono hsub, hstored.mono hsub, hrole, hstatus⟩

/-- An account that was made for the identity, and linked to it. -/
theorem saw_made {p : OnConnection User} {provider : Provider} {claims : UserClaims}
    {now : Nat} {metadata : Option String} {u : User}
    (hp : ∀ {seen : Trace storeMachine} {u : User}, Saw p seen u →
      Inserts u seen ∧ Shown (Stored u) seen ∧ u.role = .user ∧ u.status = .active)
    (h : Saw (p.bind fun user =>
      (createIdentityForClaims user.id provider claims now metadata).bind fun _ => .ok user)
      seen u) :
    Granted claims.identityNamespace claims.subject vouches seen ⟨u, true, true⟩ := by
  obtain ⟨u', seen₁, rest₁, rfl, hcreate, h₁⟩ := saw_bind h
  obtain ⟨row, seen₂, rest₂, rfl, hlink, h₂⟩ := saw_bind h₁
  obtain ⟨rfl, rfl⟩ := saw_ok h₂
  obtain ⟨hinserts, hstored, hrole, hstatus⟩ := hp hcreate
  have hsub : seen₁ ⊆ seen₁ ++ (seen₂ ++ []) := List.subset_append_left _ _
  constructor
  · rw [hstatus]
    rfl
  · exact hstored.mono hsub
  · exact (saw_createIdentityForClaims hlink).mono (by simp)
  · exact .made (hinserts.mono hsub) hrole

/-- **A provisioned user** was inserted together with the identity. -/
theorem saw_provisionTxn {lib : Library} {input : ProvisionAttempt} {u : User}
    (hrole : input.account.role = .user) (hstatus : input.account.status = .active)
    (h : Saw (provisionTxn lib input) seen u) :
    Granted input.claims.identityNamespace input.claims.subject vouches seen
      ⟨u, true, true⟩ := by
  obtain ⟨s, rest, rfl, h₁⟩ := saw_stmt_bind rfl h
  obtain ⟨-, h₂⟩ := saw_rejectIf h₁
  refine (saw_made (fun hcreate => ?_) h₂).mono (List.subset_cons_self _ _)
  obtain ⟨hinserts, hstored, hrole', hstatus'⟩ := saw_createUserWithRole hcreate
  exact ⟨hinserts, hstored, hrole'.trans hrole, hstatus'.trans hstatus⟩

/-- Without an address too. -/
theorem saw_provisionWithoutEmailTxn {lib : Library} {input : ProvisionWithoutEmail} {u : User}
    (hrole : input.account.role = .user) (hstatus : input.account.status = .active)
    (h : Saw (provisionWithoutEmailTxn lib input) seen u) :
    Granted input.claims.identityNamespace input.claims.subject vouches seen
      ⟨u, true, true⟩ := by
  refine saw_made (fun hcreate => ?_) h
  obtain ⟨hinserts, hstored, hrole', hstatus'⟩ := saw_createUserWithoutEmail hcreate
  exact ⟨hinserts, hstored, hrole'.trans hrole, hstatus'.trans hstatus⟩

/-- And behind a confirmed address. -/
theorem saw_createUserAndIdentityInConnection {lib : Library} {ctx : ProvisionContext}
    {provider : Provider} {claims : UserClaims} {now : Nat} {u : User}
    (h : Saw (createUserAndIdentityInConnection lib ctx provider claims now) seen u) :
    Granted claims.identityNamespace claims.subject vouches seen ⟨u, true, true⟩ := by
  obtain ⟨_, -, h₁⟩ := saw_checked h
  obtain ⟨email, -, h₂⟩ := saw_required h₁
  obtain ⟨_, -, h₃⟩ := saw_checked h₂
  obtain ⟨s, rest, rfl, h₄⟩ := saw_stmt_bind rfl h₃
  obtain ⟨-, h₅⟩ := saw_rejectIf h₄
  obtain ⟨n, past, seen', later, rfl, hattempt⟩ := saw_retry h₅
  refine (saw_made (fun hcreate => ?_) hattempt).mono (by intro ev hev; simp [hev])
  exact saw_createUserWithRole hcreate

/-- The user an email belongs to. -/
theorem saw_matched {u : User} {provider : Provider} {claims : UserClaims} {now : Nat}
    {metadata : Option String} (hactive : u.status.isActive = true) (hvouches : vouches u)
    (hstored : Shown (Stored u) seen) {row : Identity} {seen' : Trace storeMachine}
    (h : Saw (createIdentityForClaims u.id provider claims now metadata) seen' row) :
    Granted claims.identityNamespace claims.subject vouches (seen ++ seen')
      ⟨u, true, false⟩ where
  active := hactive
  stored := hstored.mono (List.subset_append_left _ _)
  identified := (saw_createIdentityForClaims h).mono (List.subset_append_right _ _)
  entitled := .vouched hvouches

/-- `resolve_external_auth_user_with_verified_email`: the email speaks for the account
it belongs to, when that account has verified it too. -/
theorem saw_resolveWithVerifiedEmail {lib : Library} {ctx : ProvisionContext}
    {provider : Provider} {claims : UserClaims} {now : Nat} {email : String}
    (hemail : claims.email = some email)
    (h : Saw (resolveWithVerifiedEmail lib ctx provider claims now) seen resolved) :
    Granted claims.identityNamespace claims.subject
      (fun u => u.email = some email ∧ u.emailVerifiedAt.isSome = true) seen resolved := by
  obtain ⟨email', hemail', h₁⟩ := saw_required h
  obtain rfl : email = email' := Option.some.inj (hemail.symm.trans hemail')
  obtain ⟨_, -, h₂⟩ := saw_checked h₁
  obtain ⟨s, rest, rfl, h₃⟩ := saw_stmt_bind rfl h₂
  cases hfound : ((AccountStmt.identityFindByNamespaceSubject claims.identityNamespace
      claims.subject).exec s).1 with
  | some identity =>
      rw [hfound] at h₃
      exact granted_known hfound h₃
  | none =>
      rw [hfound] at h₃
      obtain ⟨s', rest', rfl, h₄⟩ := saw_stmt_bind rfl h₃
      cases huser : ((AccountStmt.userFindByEmail email).exec s').1 with
      | some u =>
          rw [huser] at h₄
          obtain ⟨hactive, h₅⟩ := saw_rejectIf h₄
          obtain ⟨hverified, h₆⟩ := saw_rejectIf h₅
          obtain ⟨row, seen₁, seen₂, rfl, hlink, h₇⟩ := saw_bind h₆
          obtain ⟨rfl, rfl⟩ := saw_ok h₇
          obtain ⟨hmem, hkey⟩ := Table.of_find? huser
          have hsame : u.email = some email := by simpa using hkey
          have hstored : Shown (Stored u) [(.account (.identityFindByNamespaceSubject
              claims.identityNamespace claims.subject), s),
              (.account (.userFindByEmail email), s')] :=
            ⟨_, List.mem_cons_of_mem _ (List.mem_singleton_self _), hmem⟩
          have hvouches : u.email = some email ∧ u.emailVerifiedAt.isSome = true :=
            ⟨hsame, by simpa [Option.isSome_iff_ne_none] using hverified⟩
          refine (saw_matched (by simpa using hactive) hvouches hstored hlink).mono ?_
          intro ev hev
          simpa using hev
      | none =>
          rw [huser] at h₄
          obtain ⟨u, seen₁, seen₂, rfl, hcreate, h₅⟩ := saw_bind h₄
          obtain ⟨rfl, rfl⟩ := saw_ok h₅
          exact (saw_createUserAndIdentityInConnection hcreate).mono
            (by intro ev hev; simp [hev])

/-- `link_external_auth_identity_to_authenticated_user`. -/
theorem saw_linkIdentity {provider : Provider} {claims : UserClaims} {u : User} {now : Nat}
    (h : Saw (linkIdentityToAuthenticatedUser provider claims u now) seen resolved) :
    resolved.user = u ∧ resolved.autoProvisioned = false ∧
      Shown (Identifies claims.identityNamespace claims.subject u.id) seen := by
  obtain ⟨s, rest, rfl, h₁⟩ := saw_stmt_bind rfl h
  cases hfound : ((AccountStmt.identityFindByNamespaceSubject claims.identityNamespace
      claims.subject).exec s).1 with
  | some identity =>
      rw [hfound] at h₁
      obtain ⟨howner, h₂⟩ := saw_rejectIf h₁
      obtain ⟨s', rest', rfl, h₃⟩ := saw_stmt_bind rfl h₂
      obtain ⟨rfl, rfl⟩ := saw_ok h₃
      obtain ⟨hmem, hkey⟩ := Table.of_find? hfound
      simp only [Bool.and_eq_true, decide_eq_true_eq] at hkey
      have hid : identity.userId = u.id := by simpa using howner
      exact ⟨rfl, rfl, _, List.mem_cons_self .., identity, hmem, hkey.1, hkey.2, hid⟩
  | none =>
      rw [hfound] at h₁
      obtain ⟨row, seen₁, seen₂, rfl, hlink, h₂⟩ := saw_bind h₁
      obtain ⟨rfl, rfl⟩ := saw_ok h₂
      exact ⟨rfl, rfl, (saw_createIdentityForClaims hlink).mono (by intro ev hev; simp [hev])⟩

/-- Linking an account whose owner has been authenticated. -/
theorem granted_linked {provider : Provider} {claims : UserClaims} {u : User} {now : Nat}
    {seen' : Trace storeMachine} (hactive : u.status.isActive = true) (hvouches : vouches u)
    (hstored : Shown (Stored u) seen)
    (h : Saw (linkIdentityToAuthenticatedUser provider claims u now) seen' resolved) :
    Granted claims.identityNamespace claims.subject vouches (seen ++ seen') resolved := by
  obtain ⟨huser, hprovisioned, hidentified⟩ := saw_linkIdentity h
  cases resolved with
  | mk user linked autoProvisioned =>
      cases huser
      cases hprovisioned
      constructor
      · exact hactive
      · exact hstored.mono (List.subset_append_left _ _)
      · exact hidentified.mono (List.subset_append_right _ _)
      · exact .vouched hvouches

/-- **A user who was there** had the identity. -/
theorem saw_resolveExistingIdentity {claims : UserClaims} {now : Nat} {metadata : Option String}
    (h : Saw (resolveExistingIdentity claims now metadata) seen (some resolved)) :
    Granted claims.identityNamespace claims.subject vouches seen resolved := by
  obtain ⟨s, rest, rfl, h₁⟩ := saw_stmt_bind rfl h
  cases hfound : ((AccountStmt.identityFindByNamespaceSubject claims.identityNamespace
      claims.subject).exec s).1 with
  | none =>
      rw [hfound] at h₁
      cases (saw_ok h₁).2
  | some identity =>
      rw [hfound] at h₁
      obtain ⟨r, seen₁, seen₂, rfl, hlogin, h₂⟩ := saw_bind h₁
      obtain ⟨rfl, heq⟩ := saw_ok h₂
      cases heq
      rw [List.append_nil]
      exact granted_known hfound hlogin

end Granted

/-! ## Operations -/

section Operations

variable {lib : Library} {tr : Trace accountStore.readCommitted}
  {vouches : User → Prop} {resolved : ResolvedUser}

/-- Looking at an expected row is no transaction. -/
theorem single_required {α : Type} (e : AsterError) (o : Option α) :
    Single (required e o) := by
  cases o
  · exact issues_err
  · exact issues_ok

/-- A login with an identity issues statements only. -/
theorem single_loginWithIdentity (identity : Identity) (claims : UserClaims)
    (metadata : Option String) (now : Nat) :
    Single (loginWithIdentity identity claims metadata now) := by
  have hfind : Single (ofDb (userFindById identity.userId)) := by
    refine Issues.stmt_bind (S := accountSignature)
      (i := .service (.db (.userFindById identity.userId))) rfl fun found => ?_
    cases found
    · exact issues_err
    · exact issues_ok
  exact Issues.stmt_bind rfl fun _ => hfind.bind fun _ => issues_rejectIf.bind fun _ => issues_ok

/-- So does linking one. -/
theorem single_createIdentityForClaims (userId : Nat) (provider : Provider)
    (claims : UserClaims) (now : Nat) (metadata : Option String) :
    Single (createIdentityForClaims userId provider claims now metadata) :=
  Issues.stmt_bind rfl fun _ => single_required _ _

/-- And finding its user. -/
theorem single_resolveExistingIdentity (claims : UserClaims) (now : Nat)
    (metadata : Option String) : Single (resolveExistingIdentity claims now metadata) := by
  refine Issues.stmt_bind rfl fun found => ?_
  cases found with
  | none => exact issues_ok
  | some identity => exact (single_loginWithIdentity _ _ _ _).bind fun _ => issues_ok

/-- A caught success is a success. -/
theorem onPool_attempt {α : Type} {p : ExternalProg α} {a : α}
    (h : OnPool lib (p.attempt : ExternalProg (Except ServiceError α)) tr (.ok a)) :
    OnPool lib p tr a := by
  induction p generalizing tr with
  | ok a' =>
      obtain ⟨rfl, heq⟩ := onPool_ok h
      cases heq
      exact ⟨rfl, rfl⟩
  | err e => cases (onPool_ok h).2
  | act i k ih =>
      obtain ⟨r, tr₁, tr₂, rfl, h₁, h₂⟩ := onPool_bind (p := Prog.stmt i) h
      have hran : ((inStore lib (Prog.stmt i)).bind fun r => inStore lib (k r)).Ran
          accountStore.readCommitted (tr₁ ++ tr₂) (.ok a) :=
        ran_bind_ok.mpr ⟨r, tr₁, tr₂, rfl, h₁.ran, (ih r h₂).ran⟩
      rw [← inStore_bind] at hran
      exact ⟨hran⟩

/-- The attempt that succeeded. -/
theorem onPool_retry {α : Type} {attempt : Nat → ExternalProg α} {ns : List Nat} {a : α}
    (h : OnPool lib (retryOnUsernameConflict attempt ns) tr a) :
    ∃ n past now later, tr = past ++ now ++ later ∧ OnPool lib (attempt n) now a := by
  induction ns generalizing tr with
  | nil => exact (onPool_err h).elim
  | cons n rest ih =>
      obtain ⟨r, tr₁, tr₂, rfl, h₁, h₂⟩ := onPool_bind h
      cases r with
      | ok a' =>
          obtain ⟨rfl, rfl⟩ := onPool_ok h₂
          exact ⟨n, [], tr₁, [], by simp, onPool_attempt h₁⟩
      | error e =>
          by_cases hconflict : usernameConflict e = true
          · simp only [hconflict, if_true] at h₂
            obtain ⟨m, past, now, later, rfl, hdone⟩ := ih h₂
            exact ⟨m, tr₁ ++ past, now, later, by simp, hdone⟩
          · simp only [hconflict] at h₂
            exact (onPool_err h₂).elim

/-- A transaction of an operation has seen what its statements were executed on. -/
theorem onPool_txn_saw {t : AccountTxn} {a : t.Result} (h : OnPool lib (withTxn t) tr a) :
    ∃ mid, mid ⊆ tr ∧ Saw (t.body lib) (accountStore.statements mid) a := by
  obtain ⟨s₀, mid, s₁, writes, rfl, -, hin⟩ := onPool_withTxn h
  exact ⟨mid, fun ev hev => by simp [hev], hin.saw⟩

/-- What a part of the call shows, the call shows. -/
theorem Granted.during {identityNamespace subject : String}
    {part : Trace accountStore.readCommitted}
    (h : Granted identityNamespace subject vouches (accountStore.statements part) resolved)
    (hpart : part ⊆ tr) :
    Granted identityNamespace subject vouches (accountStore.statements tr) resolved :=
  h.mono (Store.statements_subset hpart)

/-- `create_external_auth_user_and_identity`. -/
theorem onPool_createUserAndIdentity {ctx : ProvisionContext} {provider : Provider}
    {claims : UserClaims} {now : Nat} {metadata : Option String} {options : ResolveOptions}
    (h : OnPool lib (createUserAndIdentity lib ctx provider claims now metadata options) tr
      resolved) :
    Granted claims.identityNamespace claims.subject vouches (accountStore.statements tr)
      resolved := by
  obtain ⟨_, tr₁, rest₁, rfl, -, h₁⟩ := onPool_bind h
  obtain ⟨email, tr₂, rest₂, rfl, -, h₂⟩ := onPool_bind h₁
  obtain ⟨_, tr₃, rest₃, rfl, -, h₃⟩ := onPool_bind h₂
  have hretry : ∃ rest, rest ⊆ rest₃ ∧ OnPool lib
      ((retryOnUsernameConflict (fun attempt => withTxn (.provision
        { account := provisionedAccount ctx provider (usernameCandidateForProvider ctx provider
            claims (externalAuthUsernameBase lib claims) attempt) email
            (if claims.emailVerified then some now else none) attempt
          provider := provider
          claims := claims
          now := now
          metadata := metadata })) usernameAttempts).bind fun user =>
            .ok ⟨user, true, true⟩) rest resolved := by
    by_cases henforce : options.enforceEmailDomain = true
    · simp only [henforce, if_true] at h₃
      obtain ⟨_, tr₄, rest₄, rfl, -, h₄⟩ := onPool_bind h₃
      exact ⟨rest₄, List.subset_append_right _ _, h₄⟩
    · simp only [henforce] at h₃
      exact ⟨rest₃, List.Subset.refl _, h₃⟩
  obtain ⟨rest, hrest, hretry⟩ := hretry
  obtain ⟨u, tr₅, rest₅, rfl, htries, h₅⟩ := onPool_bind hretry
  obtain ⟨rfl, rfl⟩ := onPool_ok h₅
  obtain ⟨n, past, now', later, rfl, htxn⟩ := onPool_retry htries
  obtain ⟨mid, hmid, hsaw⟩ := onPool_txn_saw htxn
  refine (saw_provisionTxn rfl rfl hsaw).during fun ev hev => ?_
  have hin : ev ∈ rest₃ := hrest (by simp [hmid hev])
  simp [hin]

/-- `resolve_external_auth_user_without_email`. -/
theorem onPool_resolveWithoutEmail {ctx : ProvisionContext} {provider : Provider}
    {claims : UserClaims} {metadata : Option String}
    (h : OnPool lib (resolveWithoutEmail lib ctx provider claims metadata) tr resolved) :
    Granted claims.identityNamespace claims.subject vouches (accountStore.statements tr)
      resolved := by
  obtain ⟨now, tr₁, rest₁, rfl, -, h₁⟩ := onPool_bind h
  obtain ⟨_, tr₂, rest₂, rfl, -, h₂⟩ := onPool_bind h₁
  obtain ⟨u, tr₃, rest₃, rfl, htries, h₃⟩ := onPool_bind h₂
  obtain ⟨rfl, rfl⟩ := onPool_ok h₃
  obtain ⟨n, past, now', later, rfl, htxn⟩ := onPool_retry htries
  obtain ⟨mid, hmid, hsaw⟩ := onPool_txn_saw htxn
  refine (saw_provisionWithoutEmailTxn rfl rfl hsaw).during fun ev hev => ?_
  simp [hmid hev]

/-- The provider is trusted with the emails it has verified, and this is one. -/
def VerifiedEmail (provider : Provider) (claims : UserClaims) (u : User) : Prop :=
  provider.autoLinkVerifiedEmailEnabled = true ∧ claims.emailVerified = true ∧
    u.email.isSome = true ∧ u.email = claims.email

/-- The account of a verified email. -/
theorem onPool_autoLinkCandidate {provider : Provider} {claims : UserClaims}
    {options : ResolveOptions} {u : User}
    (h : OnPool lib (autoLinkCandidate provider claims options) tr (some u)) :
    VerifiedEmail provider claims u ∧ Shown (Stored u) (accountStore.statements tr) := by
  unfold autoLinkCandidate at h
  by_cases hlink : (options.allowVerifiedEmailAutoLink && provider.autoLinkVerifiedEmailEnabled &&
      claims.emailVerified) = true
  · rw [if_pos hlink] at h
    simp only [Bool.and_eq_true] at hlink
    cases hemail : claims.email with
    | none =>
        simp only [hemail] at h
        cases (onPool_ok h).2
    | some email =>
        simp only [hemail] at h
        obtain ⟨s, rfl, hfound⟩ := onPool_stmt rfl h
        obtain ⟨hmem, hkey⟩ := Table.of_find? hfound.symm
        have hsame : u.email = some email := by simpa using hkey
        refine ⟨⟨hlink.1.2, hlink.2, by simp [hsame], hsame.trans hemail.symm⟩, ?_⟩
        exact ⟨_, Store.mem_statements_auto (List.mem_singleton_self _), hmem⟩
  · rw [if_neg hlink] at h
    cases (onPool_ok h).2

/-- Provisioning grants the login of the identity's user. -/
theorem onPool_autoProvision {ctx : ProvisionContext} {provider : Provider}
    {claims : UserClaims} {now : Nat} {metadata : Option String} {options : ResolveOptions}
    (h : OnPool lib (autoProvision lib ctx provider claims now metadata options) tr
      (some resolved)) :
    Granted claims.identityNamespace claims.subject vouches (accountStore.statements tr)
      resolved := by
  unfold autoProvision at h
  split at h
  · cases (onPool_ok h).2
  · split at h
    · cases (onPool_ok h).2
    · split at h
      · cases (onPool_ok h).2
      · obtain ⟨existing, tr₁, rest₁, rfl, -, h₁⟩ := onPool_bind h
        by_cases hexists : existing.isSome = true
        · simp only [hexists, if_true] at h₁
          cases (onPool_ok h₁).2
        · simp only [hexists] at h₁
          obtain ⟨r, tr₂, rest₂, rfl, hcreate, h₂⟩ := onPool_bind h₁
          obtain ⟨rfl, heq⟩ := onPool_ok h₂
          cases heq
          exact (onPool_createUserAndIdentity hcreate).during fun ev hev => by simp [hev]

/-- An identity that nobody has: its verified email may speak for an account, or an
account is made for it. -/
theorem onPool_resolveUnknown {ctx : ProvisionContext} {provider : Provider}
    {claims : UserClaims} {now : Nat} {metadata : Option String} {options : ResolveOptions}
    (h : OnPool lib ((autoLinkCandidate provider claims options).bind fun candidate =>
      match candidate with
      | some user => do
          onDb (rejectIf (!user.status.isActive) (.authForbidden none "account is disabled"))
          let _ ← onDb (createIdentityForClaims user.id provider claims now metadata)
          pure (some ⟨user, true, false⟩)
      | none =>
          if provider.autoProvisionEnabled then
            autoProvision lib ctx provider claims now metadata options
          else pure none) tr (some resolved)) :
    Granted claims.identityNamespace claims.subject (VerifiedEmail provider claims)
      (accountStore.statements tr) resolved := by
  obtain ⟨candidate, tr₁, rest₁, rfl, hcandidate, h₁⟩ := onPool_bind h
  cases candidate with
  | some u =>
      obtain ⟨hverified, hstored⟩ := onPool_autoLinkCandidate hcandidate
      obtain ⟨_, tr₂, rest₂, rfl, hcheck, h₂⟩ := onPool_bind h₁
      obtain ⟨rfl, hactive⟩ := onPool_passed hcheck
      obtain ⟨row, tr₃, rest₃, rfl, hlink, h₃⟩ := onPool_bind h₂
      obtain ⟨rfl, heq⟩ := onPool_ok h₃
      cases heq
      have hsaw := hlink.saw (single_createIdentityForClaims _ _ _ _ _)
      have hpart := saw_matched (by simpa using hactive) hverified hstored hsaw
      rw [← Store.statements_append] at hpart
      exact hpart.during fun ev hev => by simpa using hev
  | none =>
      by_cases hprovision : provider.autoProvisionEnabled = true
      · simp only [hprovision, if_true] at h₁
        exact (onPool_autoProvision h₁).during (List.subset_append_right _ _)
      · simp only [hprovision] at h₁
        cases (onPool_ok h₁).2

/-- `resolve_external_auth_user_with_options`. -/
theorem onPool_resolve {ctx : ProvisionContext} {provider : Provider} {claims : UserClaims}
    {metadata : Option String} {options : ResolveOptions}
    (h : OnPool lib (resolveExternalAuthUserWithOptions lib ctx provider claims metadata options)
      tr (some resolved)) :
    Granted claims.identityNamespace claims.subject (VerifiedEmail provider claims)
      (accountStore.statements tr) resolved := by
  obtain ⟨now, tr₁, rest₁, rfl, -, h₁⟩ := onPool_bind h
  obtain ⟨found, tr₂, rest₂, rfl, hfind, h₂⟩ := onPool_bind h₁
  obtain ⟨s, rfl, rfl⟩ := onPool_stmt rfl hfind
  cases hfound : ((AccountStmt.identityFindByNamespaceSubject claims.identityNamespace
      claims.subject).exec s.committed).1 with
  | some identity =>
      rw [hfound] at h₂
      obtain ⟨r, tr₃, rest₃, rfl, hlogin, h₃⟩ := onPool_bind h₂
      obtain ⟨rfl, heq⟩ := onPool_ok h₃
      cases heq
      have hsaw := hlogin.saw (single_loginWithIdentity _ _ _ _)
      have hpart : Granted claims.identityNamespace claims.subject (VerifiedEmail provider claims)
          (accountStore.statements ((.auto (.account (.identityFindByNamespaceSubject
            claims.identityNamespace claims.subject)), s) :: tr₃)) resolved :=
        granted_known hfound hsaw
      exact hpart.during fun ev hev => by simp_all
  | none =>
      rw [hfound] at h₂
      obtain ⟨_, tr₃, rest₃, rfl, -, h₃⟩ := onPool_bind h₂
      have hrest : rest₃ ⊆ tr₁ ++ ([(.auto (.account (.identityFindByNamespaceSubject
          claims.identityNamespace claims.subject)), s)] ++ (tr₃ ++ rest₃)) :=
        fun ev hev => by simp [hev]
      dsimp only at h₃
      split at h₃
      · obtain ⟨_, tr₄, rest₄, rfl, -, h₄⟩ := onPool_bind h₃
        exact (onPool_resolveUnknown h₄).during fun ev hev => hrest (by simp [hev])
      · exact (onPool_resolveUnknown h₃).during hrest

/-- A login of a call, with the claims it is about. -/
def LoginOf (claims : UserClaims) (vouches : User → Prop)
    (tr : Trace accountStore.readCommitted) (login : PrimaryLogin) : Prop :=
  login.issuer = claims.identityNamespace ∧ login.subject = claims.subject ∧
    Granted claims.identityNamespace claims.subject vouches (accountStore.statements tr)
      ⟨login.user, login.linked, login.autoProvisioned⟩

/-- A granted login is one of the claims. -/
theorem loginOf_primary {claims : UserClaims} {provider : Provider} {returnPath : Option String}
    (h : Granted claims.identityNamespace claims.subject vouches (accountStore.statements tr)
      resolved) :
    LoginOf claims vouches tr (primaryLogin resolved returnPath provider claims) :=
  ⟨rfl, rfl, h⟩

/-- What a part of the call has shown, the call has shown. -/
theorem LoginOf.during {claims : UserClaims} {part : Trace accountStore.readCommitted}
    {login : PrimaryLogin} (h : LoginOf claims vouches part login) (hpart : part ⊆ tr) :
    LoginOf claims vouches tr login := ⟨h.1, h.2.1, h.2.2.during hpart⟩

/-- A pending email verification is no login. -/
theorem onPool_pending {flowToken : String} {provider : Provider} {claims : UserClaims}
    {returnPath : Option String} {outcome : CallbackOutcome}
    (h : OnPool lib (onDb (createPendingEmailFlow lib flowToken provider claims returnPath)) tr
      outcome) : ∃ token path, outcome = .emailVerificationRequired token path := by
  obtain ⟨s, rest, rfl, h₁⟩ := onPool_utcNow_bind h
  obtain ⟨s', rest', rfl, h₂⟩ := onPool_stmt_bind rfl h₁
  obtain ⟨row, -, h₃⟩ := onPool_required h₂
  exact ⟨_, _, (onPool_ok h₃).2⟩

/-- The end of a login without an address. -/
theorem onPool_finishWithoutEmail {ctx : CallbackContext} {flow : LoginFlow}
    {provider : Provider} {claims : UserClaims} {metadata : Option String}
    {login : PrimaryLogin}
    (h : OnPool lib (finishWithoutEmail lib ctx flow provider claims metadata) tr
      (.login login)) : LoginOf claims vouches tr login := by
  obtain ⟨now, tr₁, rest₁, rfl, -, h₁⟩ := onPool_bind h
  obtain ⟨found, tr₂, rest₂, rfl, hfind, h₂⟩ := onPool_bind h₁
  cases found with
  | some r =>
      obtain ⟨rfl, heq⟩ := onPool_ok h₂
      cases heq
      have hsaw := hfind.saw (single_resolveExistingIdentity _ _ _)
      exact (loginOf_primary (saw_resolveExistingIdentity hsaw)).during fun ev hev => by
        simp [hev]
  | none =>
      by_cases hkind : provider.kind = .linuxDo
      · simp only [hkind, if_true] at h₂
        obtain ⟨r, tr₃, rest₃, rfl, hresolve, h₃⟩ := onPool_bind h₂
        obtain ⟨_, tr₄, rest₄, rfl, -, h₄⟩ := onPool_bind h₃
        obtain ⟨rfl, heq⟩ := onPool_ok h₄
        cases heq
        exact (loginOf_primary (onPool_resolveWithoutEmail hresolve)).during fun ev hev => by
          simp [hev]
      · simp only [hkind, if_false] at h₂
        obtain ⟨_, tr₃, rest₃, rfl, -, h₃⟩ := onPool_bind h₂
        obtain ⟨token, path, hpending⟩ := onPool_pending h₃
        cases hpending

/-- And with one. -/
theorem onPool_finishWithEmail {ctx : CallbackContext} {flow : LoginFlow} {provider : Provider}
    {claims : UserClaims} {metadata : Option String} {login : PrimaryLogin}
    (h : OnPool lib (finishWithEmail lib ctx flow provider claims metadata) tr (.login login)) :
    LoginOf claims (VerifiedEmail provider claims) tr login := by
  obtain ⟨found, tr₁, rest₁, rfl, hresolve, h₁⟩ := onPool_bind h
  cases found with
  | none =>
      obtain ⟨token, path, hpending⟩ := onPool_pending h₁
      cases hpending
  | some r =>
      obtain ⟨_, tr₂, rest₂, rfl, -, h₂⟩ := onPool_bind h₁
      obtain ⟨rfl, heq⟩ := onPool_ok h₂
      cases heq
      exact (loginOf_primary (onPool_resolve hresolve)).during (List.subset_append_left _ _)

/-! ## What a call presents -/

/-- What a call presents: the claims of an identity, and the accounts it speaks for.
The claims are what the provider answers to the code of a callback, or what the flow has
kept of them; an email speaks for its account, and so does a password. -/
inductive Presents (lib : Library) (seen : Trace storeMachine) :
    FlowCall → UserClaims → (User → Prop) → Prop
  | callback {ctx : CallbackContext} {req : CallbackRequest} {code state : String}
      {f : LoginFlow} {p : Provider} {claims : UserClaims} {metadata : Option String} :
      Shown (fun s => f ∈ s.loginFlows.rows) seen → Shown (fun s => p ∈ s.providers.rows) seen →
      state ∈ req.state → f.stateHash = lib.stateHash state → p.id = f.providerId →
      code ∈ req.code → exchangeClaims ctx code f p = .ok (claims, metadata) →
      Presents lib seen (.finishCallback ctx req) claims (VerifiedEmail p claims)
  | confirmation {ctx : ProvisionContext} {token email : String} {f : EmailFlow} :
      Shown (fun s => f ∈ s.emailFlows.rows) seen →
      f.verificationTokenHash = some (lib.tokenHash (trim token)) →
      f.targetEmail = some email →
      Presents lib seen (.confirmEmailVerification ctx token)
        (claimsWithVerifiedLocalEmail f email)
        fun u => u.email = some email ∧ u.emailVerifiedAt.isSome = true
  | password {req : PasswordLinkRequest} {token : String} {f : EmailFlow} :
      Shown (fun s => f ∈ s.emailFlows.rows) seen →
      lib.normalizeFlowToken req.flowToken = .ok token →
      f.flowTokenHash = lib.tokenHash token →
      Presents lib seen (.linkWithPassword req) (claimsWithoutProviderEmail f)
        fun u => lib.verifyPassword req.password u.passwordHash = .ok true ∧
          isEmailActivationSatisfied u = true

/-- What a statement on the pool was executed on, if it is a query. -/
theorem shown_auto {P : AccountState → Prop} {i : AccountStmt} {s : AccountShared}
    (hmem : (.auto (.account i), s) ∈ tr) (hquery : (i.exec s.committed).2 = s.committed)
    (h : P s.committed) : Shown P (accountStore.statements tr) :=
  ⟨_, Store.mem_statements_auto hmem, hquery.symm ▸ h⟩

/-- `finish_callback`. -/
theorem onPool_finishCallback {ctx : CallbackContext} {req : CallbackRequest}
    {login : PrimaryLogin} (h : OnPool lib (finishCallback lib ctx req) tr (.login login)) :
    ∃ claims vouches, Presents lib (accountStore.statements tr) (.finishCallback ctx req) claims
      vouches ∧ LoginOf claims vouches tr login := by
  obtain ⟨⟨code, f, p⟩, tr₁, rest₁, rfl, hconsume, h₁⟩ := onPool_bind h
  obtain ⟨⟨claims, metadata⟩, tr₂, rest₂, rfl, hexchange, h₂⟩ := onPool_bind h₁
  obtain ⟨rfl, hclaims⟩ := onPool_computed hexchange
  obtain ⟨hcode, hconsumed⟩ := onPool_consumeCallback hconsume
  obtain ⟨s₀, s₁, s₂, state, hstate, hsub, hf, hhash, -⟩ := hconsumed.flow
  obtain ⟨s₃, hread, hp, hpid⟩ := hconsumed.provider
  have hfind := hsub.subset (List.mem_cons_of_mem _ (List.mem_cons_self ..))
  refine ⟨claims, VerifiedEmail p claims, .callback
    (shown_auto (List.mem_append_left _ hfind) rfl hf)
    (shown_auto (List.mem_append_left _ hread) rfl hp) hstate hhash hpid hcode hclaims, ?_⟩
  dsimp only at h₂
  by_cases hmissing : claims.missingEmail = true
  · rw [if_pos hmissing] at h₂
    exact (onPool_finishWithoutEmail h₂).during (List.subset_append_right _ _)
  · rw [if_neg hmissing] at h₂
    exact (onPool_finishWithEmail h₂).during (List.subset_append_right _ _)

/-- `confirm_email_verification`. -/
theorem onPool_confirm {ctx : ProvisionContext} {token : String} {login : PrimaryLogin}
    (h : OnPool lib (confirmEmailVerification lib ctx token) tr login) :
    ∃ claims vouches, Presents lib (accountStore.statements tr)
      (.confirmEmailVerification ctx token) claims vouches ∧ LoginOf claims vouches tr login := by
  obtain ⟨f, p, email, s₀, past, rest, r, rfl, hbegun, htxn, rfl⟩ :=
    onPool_confirmEmailVerification h
  obtain ⟨s₁, s₂, rfl, hf, hp⟩ := hbegun.seen
  obtain ⟨mid, hmid, hsaw⟩ := onPool_txn_saw htxn
  obtain ⟨_, seen₁, seen₂, hseen, -, hresolve⟩ := saw_bind hsaw
  have hfind : (.auto (.account (.emailFlowFindActiveByVerificationToken
      (lib.tokenHash (trim token)) s₀.committed.now)), s₁) ∈ [clockRead s₀,
      (.auto (.account (.emailFlowFindActiveByVerificationToken (lib.tokenHash (trim token))
        s₀.committed.now)), s₁), (.auto (.account (.providerFindById f.providerId)), s₂)] ++
      rest := by simp
  refine ⟨_, _, .confirmation (shown_auto hfind rfl hf) hbegun.token hbegun.target,
    loginOf_primary ?_⟩
  have hgranted := saw_resolveWithVerifiedEmail rfl hresolve
  have hpart := hgranted.mono (List.subset_append_right seen₁ seen₂)
  rw [← hseen] at hpart
  exact hpart.during fun ev hev => by simp [hmid hev]

/-- `link_with_password`. -/
theorem onPool_link {req : PasswordLinkRequest} {login : PrimaryLogin}
    (h : OnPool lib (linkWithPassword lib req) tr login) :
    ∃ claims vouches, Presents lib (accountStore.statements tr) (.linkWithPassword req) claims
      vouches ∧ LoginOf claims vouches tr login := by
  obtain ⟨f, p, u, token, s₀, past, rest, r, rfl, hbegun, htxn, rfl⟩ := onPool_linkWithPassword h
  obtain ⟨s₁, s₂, s₃, rfl, hf, hp, hu⟩ := hbegun.seen
  obtain ⟨mid, hmid, hsaw⟩ := onPool_txn_saw htxn
  obtain ⟨_, seen₁, seen₂, hseen, -, hlink⟩ := saw_bind hsaw
  have hfind : (.auto (.account (.emailFlowFindActiveByFlowToken (lib.tokenHash token)
      s₀.committed.now)), s₁) ∈ [clockRead s₀, (.auto (.account
      (.emailFlowFindActiveByFlowToken (lib.tokenHash token) s₀.committed.now)), s₁),
      (.auto (.account (.providerFindById f.providerId)), s₂), (.auto (.account (.service (.db
        (.userFindByIdentifier (trim req.identifier))))), s₃)] := by simp
  have hread : (.auto (.account (.service (.db (.userFindByIdentifier
      (trim req.identifier))))), s₃) ∈ [clockRead s₀, (.auto (.account
      (.emailFlowFindActiveByFlowToken (lib.tokenHash token) s₀.committed.now)), s₁),
      (.auto (.account (.providerFindById f.providerId)), s₂), (.auto (.account (.service (.db
        (.userFindByIdentifier (trim req.identifier))))), s₃)] := by simp
  refine ⟨_, _, .password (shown_auto (List.mem_append_left _ hfind) rfl hf) hbegun.normal
    hbegun.token, loginOf_primary ?_⟩
  have hgranted : Granted f.identityNamespace f.subject (fun u =>
      lib.verifyPassword req.password u.passwordHash = .ok true ∧
        isEmailActivationSatisfied u = true) _ r :=
    granted_linked hbegun.active ⟨hbegun.password, hbegun.activated⟩ (shown_auto hread rfl hu)
      hlink
  refine hgranted.mono fun ev hev => ?_
  rw [Store.statements_append]
  rcases List.mem_append.mp hev with hev | hev
  · exact List.mem_append_left _ hev
  · have hmem : ev ∈ accountStore.statements mid := hseen ▸ List.mem_append_right _ hev
    exact List.mem_append_right _ (Store.statements_subset hmid hmem)

end Operations

/-! ## Logins -/

/-- **A login is granted for a reason.**  The identity it names is the one the call has
presented; its account was active and stored, and the identity stands for it since.
Either it did so before; or the account is a new one, made by the call itself as an
ordinary user; or the call has presented what speaks for the account. -/
theorem login_granted {lib : Library} {s₀ : AccountShared} {sched : List (Action SiteCall)}
    {c : SiteConfig} (hc : c = siteRun lib s₀ sched) {i : Nat} {call : FlowCall}
    {login : PrimaryLogin} (h : Returned c i (.flow call) (.flow (.login login))) :
    ∃ claims vouches, Presents lib (accountStore.statements (c.trace i)) call claims vouches ∧
      LoginOf claims vouches (c.trace i) login := by
  obtain ⟨response, hresponse, hcall⟩ := (h.went hc).operation
  cases hresponse
  cases call with
  | startLogin kind key path authorize =>
      obtain ⟨_, _, _, -, -, hend⟩ := onPool_bind hcall
      cases (onPool_ok hend).2
  | startEmailVerification policy newToken flowToken email =>
      obtain ⟨_, _, _, -, -, hend⟩ := onPool_bind hcall
      cases (onPool_ok hend).2
  | startMinecraftBinding userId kind key path authorize deviceCode =>
      obtain ⟨_, _, _, -, -, hend⟩ := onPool_bind hcall
      cases (onPool_ok hend).2
  | finishMinecraftBinding ctx req =>
      obtain ⟨_, _, _, -, -, hend⟩ := onPool_bind hcall
      cases (onPool_ok hend).2
  | checkDeviceCode ctx userId deviceCode =>
      obtain ⟨outcome, _, _, -, -, hend⟩ := onPool_bind hcall
      cases outcome with
      | none => cases (onPool_ok hend).2
      | some result => cases (onPool_ok hend).2
  | finishCallback ctx req =>
      obtain ⟨outcome, tr₁, tr₂, htr, hfinish, hend⟩ := onPool_bind hcall
      obtain ⟨rfl, hresponse⟩ := onPool_ok hend
      cases outcome with
      | login primary =>
          cases hresponse
          rw [htr, List.append_nil]
          exact onPool_finishCallback hfinish
      | emailVerificationRequired flowToken returnPath => cases hresponse
  | confirmEmailVerification ctx token =>
      obtain ⟨primary, tr₁, tr₂, htr, hconfirm, hend⟩ := onPool_bind hcall
      obtain ⟨rfl, hresponse⟩ := onPool_ok hend
      cases hresponse
      rw [htr, List.append_nil]
      exact onPool_confirm hconfirm
  | linkWithPassword req =>
      obtain ⟨primary, tr₁, tr₂, htr, hlink, hend⟩ := onPool_bind hcall
      obtain ⟨rfl, hresponse⟩ := onPool_ok hend
      cases hresponse
      rw [htr, List.append_nil]
      exact onPool_link hlink

/-- The login of a small run is granted: its account was made for it. -/
theorem presentedTwice_granted :
    ∃ claims vouches,
      Presents plainLibrary (accountStore.statements (presentedTwice.trace 1)) callback claims
        vouches ∧ LoginOf claims vouches (presentedTwice.trace 1) firstLogin :=
  have h : Returned presentedTwice 1 (.flow callback) (.flow (.login firstLogin)) :=
    returned_of rfl rfl (by decide +kernel)
  login_granted rfl h

end AsterYggdrasil.External
