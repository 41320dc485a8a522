import AsterYggdrasil.Interleave.Pool
import AsterYggdrasil.External.Operations
import Mathlib.Data.List.Destutter

/-!
# Administrators: `update_user`

An administrator edits an account and its operator scopes in one form.  Role
and scopes are normalised together: scopes make an administrator an operator,
and nobody but an operator keeps any.  The normalisation works on the row and
the scopes that were read before the transaction, and the transaction always
writes the role, and nearly always the scopes, that come out of it.

The steps are single statements on the pool and the whole transaction.
-/

namespace AsterYggdrasil.Admin

open Interleave Relational
open External (Library transposeMap normalizeUpdatedUsername hashUpdatedPassword)

/-! ## Operator scopes -/

inductive OperatorScope
  | overview | users | profiles | textureLibrary | audit | tasks | settings | externalAuth
  deriving DecidableEq, Repr

/-- The derived `Ord`. -/
def OperatorScope.rank : OperatorScope → Nat
  | .overview => 0
  | .users => 1
  | .profiles => 2
  | .textureLibrary => 3
  | .audit => 4
  | .tasks => 5
  | .settings => 6
  | .externalAuth => 7

/-- The text of the column. -/
def OperatorScope.text : OperatorScope → String
  | .overview => "overview"
  | .users => "users"
  | .profiles => "profiles"
  | .textureLibrary => "texture_library"
  | .audit => "audit"
  | .tasks => "tasks"
  | .settings => "settings"
  | .externalAuth => "external_auth"

/-- A row of `user_operator_scopes`. -/
structure UserOperatorScope where
  id : Nat
  userId : Nat
  scope : OperatorScope
  createdAt : Nat
  deriving DecidableEq, Repr

/-- Scopes are unique by id, and by user and scope. -/
def operatorScopeSchema : Schema UserOperatorScope where
  ident := UserOperatorScope.id
  clash a b := a.id = b.id || (a.userId = b.userId && a.scope = b.scope)
  clash_symm a b := by
    rw [Bool.eq_iff_iff]
    simp only [Bool.or_eq_true, Bool.and_eq_true, decide_eq_true_eq]
    grind
  clash_of_ident a b h := by simp [h]

/-! ## Statements -/

/-- The database with the table of operator scopes. -/
structure AdminDb where
  db : Db
  operatorScopes : Table operatorScopeSchema

inductive AdminStmt
  | db (i : DbStmt)
  | scopesListForUser (userId : Nat)
  | scopesDeleteForUser (userId : Nat)
  | scopeInsert (userId : Nat) (scope : OperatorScope) (createdAt : Nat)

@[reducible] def AdminStmt.Reply : AdminStmt → Type
  | .db i => i.Reply
  | .scopesListForUser _ => List OperatorScope
  | .scopesDeleteForUser _ => Unit
  | .scopeInsert _ _ _ => Option UserOperatorScope

@[reducible] def adminDbSignature : Signature := ⟨AdminStmt, AdminStmt.Reply⟩

/-- `list_for_user`. -/
def AdminDb.listForUser (s : AdminDb) (userId : Nat) : List OperatorScope :=
  ((s.operatorScopes.select fun r => r.userId = userId).insertionSort
    fun a b => a.scope.text ≤ b.scope.text).map UserOperatorScope.scope

/-- What the database does with one statement.  Scopes of a deleted user go
with it. -/
def AdminStmt.exec : (i : AdminStmt) → AdminDb → i.Reply × AdminDb
  | .db (.userDelete id), s =>
      ((DbStmt.exec (.userDelete id) s.db).1,
        { db := (DbStmt.exec (.userDelete id) s.db).2
          operatorScopes := s.operatorScopes.delete fun r => r.userId = id })
  | .db i, s => ((i.exec s.db).1, { s with db := (i.exec s.db).2 })
  | .scopesListForUser userId, s => (s.listForUser userId, s)
  | .scopesDeleteForUser userId, s =>
      ((), { s with operatorScopes := s.operatorScopes.delete fun r => r.userId = userId })
  | .scopeInsert userId scope createdAt, s =>
      let (id, scopes) := s.operatorScopes.nextId
      let row : UserOperatorScope := ⟨id, userId, scope, createdAt⟩
      if (s.db.users.find? fun u => u.id = userId).isSome then
        match scopes.insert? row with
        | some scopes => (some row, { s with operatorScopes := scopes })
        | none => (none, { s with operatorScopes := scopes })
      else (none, { s with operatorScopes := scopes })

@[reducible] def adminDbMachine : Machine adminDbSignature where
  State := AdminDb
  exec := AdminStmt.exec

/-! ## The transaction -/

abbrev AdminDbProg := Prog adminDbSignature AsterError

def adminSql (i : AdminStmt) : AdminDbProg i.Reply := Prog.stmt (S := adminDbSignature) i

/-- The statements on the other tables. -/
def dbHom : Signature.Hom dbSignature adminDbSignature := ⟨.db, fun _ r => r⟩

/-- `BTreeSet::from_iter`. -/
def uniqueScopes (scopes : List OperatorScope) : List OperatorScope :=
  (scopes.insertionSort fun a b => a.rank ≤ b.rank).destutter (· ≠ ·)

/-- Insert one scope, which has to be new. -/
def insertScope (userId createdAt : Nat) (scope : OperatorScope) : AdminDbProg Unit := do
  match ← adminSql (.scopeInsert userId scope createdAt) with
  | some _ => pure ()
  | none => .err .databaseOperation

/-- `replace_for_user`. -/
def replaceForUser (userId : Nat) (scopes : List OperatorScope) : AdminDbProg Unit := do
  adminSql (.scopesDeleteForUser userId)
  let now ← adminSql (.db .now)
  Prog.forEach (uniqueScopes scopes) (insertScope userId now)

/-- The transaction of `update_user`: the row, then the scopes if the
normalisation gives any list of them. -/
def updateTxn (id : Nat) (input : AdminUpdateUser) (scopes : Option (List OperatorScope)) :
    AdminDbProg User := do
  let user ← (updateUserTxn id input).hoist dbHom fun e => e
  match scopes with
  | some scopes => replaceForUser id scopes
  | none => pure ()
  pure user

structure UpdateTxn where
  id : Nat
  input : AdminUpdateUser
  scopes : Option (List OperatorScope)
  deriving DecidableEq, Repr

/-- Run the transaction: commit on success, roll back on failure. -/
def UpdateTxn.commit (t : UpdateTxn) (s : AdminDb) : Except AsterError User × AdminDb :=
  match (updateTxn t.id t.input t.scopes).run adminDbMachine s with
  | (.ok user, s') => (.ok user, s')
  | (.error e, _) => (.error e, s)

/-! ## Steps -/

/-- One step: a statement on the pool or the transaction. -/
inductive AdminServiceStmt
  | sql (i : AdminStmt)
  | txn (t : UpdateTxn)

def AdminServiceStmt.isTxn : AdminServiceStmt → Bool
  | .sql _ => false
  | .txn _ => true

@[reducible] def AdminServiceStmt.Reply : AdminServiceStmt → Type
  | .sql i => i.Reply
  | .txn _ => Except AsterError User

@[reducible] def adminSignature : Signature := ⟨AdminServiceStmt, AdminServiceStmt.Reply⟩

def AdminServiceStmt.exec : (i : AdminServiceStmt) → AdminDb → i.Reply × AdminDb
  | .sql i, s => i.exec s
  | .txn t, s => t.commit s

@[reducible] def adminMachine : Machine adminSignature where
  State := AdminDb
  exec := AdminServiceStmt.exec

abbrev AdminProg := Prog adminSignature AsterError

/-- A statement on the pool. -/
def query (i : AdminStmt) : AdminProg i.Reply := Prog.stmt (S := adminSignature) (.sql i)

/-! ## `update_user` -/

/-- `normalize_update_role_and_scopes`. -/
def normalizeUpdateRoleAndScopes (existingRole : UserRole) (requestedRole : Option UserRole)
    (requestedScopes : Option (List OperatorScope)) (existingScopes : List OperatorScope) :
    UserRole × Option (List OperatorScope) :=
  let baseRole := requestedRole.getD existingRole
  match requestedScopes with
  | some scopes =>
      match baseRole with
      | .admin => (.operator, some scopes)
      | .operator => (.operator, some scopes)
      | .user => (.user, some [])
  | none =>
      match baseRole with
      | .admin => (.admin, some [])
      | .user => (.user, some [])
      | .operator =>
          if requestedRole = some .operator ∧ existingRole ≠ .operator then
            (.operator, some [])
          else if existingRole = .operator then (.operator, some existingScopes)
          else (.operator, some [])

/-- `AdminUpdateUserInput`. -/
structure UpdateUserInput where
  username : Option String
  email : Option String
  password : Option String
  role : Option UserRole
  operatorScopes : Option (List OperatorScope)
  status : Option UserStatus
  mustChangePassword : Option Bool
  deriving DecidableEq, Repr

/-- The columns `update_user` sets. -/
def UpdateUserInput.columns (lib : Library) (input : UpdateUserInput) (role : UserRole) :
    Except AsterError AdminUpdateUser := do
  let username ← transposeMap normalizeUpdatedUsername input.username
  let email ← transposeMap lib.normalizeEmail input.email
  let passwordHash ← transposeMap (hashUpdatedPassword lib) input.password
  pure
    { username := username
      email := email
      passwordHash := passwordHash
      role := some role
      status := input.status
      mustChangePassword := input.mustChangePassword }

/-- `update_user`. -/
def updateUser (lib : Library) (id : Nat) (input : UpdateUserInput) : AdminProg User := do
  let found ← query (.db (.userFindById id))
  match found with
  | none => .err (.recordNotFound s!"user #{id}")
  | some existing =>
    Prog.rejectIf (id = superAdminUserId &&
        (input.role.any (fun r => r ≠ existing.role) ||
          input.status.any (fun st => st ≠ existing.status) ||
          input.operatorScopes.isSome))
      (.authForbidden none
        "super administrator role, status, and permissions cannot be changed")
    let existingScopes ← query (.scopesListForUser id)
    let (role, scopes) :=
      normalizeUpdateRoleAndScopes existing.role input.role input.operatorScopes
        existingScopes
    let columns ← Prog.ofExcept (input.columns lib role)
    Prog.ofExcept (← Prog.stmt (S := adminSignature) (.txn ⟨id, columns, scopes⟩))

/-- What runs concurrently: updates of one or several users, and the passing of
time. -/
inductive AdminCall
  | update (id : Nat) (input : UpdateUserInput)
  | tick (ms : Nat)

def AdminCall.body (lib : Library) : AdminCall → AdminProg (Option User)
  | .update id input => do
      let user ← updateUser lib id input
      pure (some user)
  | .tick ms => do
      query (.db (.advanceClock ms))
      pure none

/-- The database of small runs: an administrator, and an operator with one
scope. -/
def twoAdmins : AdminDb where
  db :=
    { users :=
        { rows :=
            [⟨1, "uuid-1", "root", some "r@x", "", .admin, .active, false, 0, none⟩,
              ⟨2, "uuid-2", "olga", some "o@x", "", .operator, .active, false, 0, none⟩]
          seq := 3
          unique := by decide
          fresh := by decide }
      profiles := .empty
      tokens := .empty
      bans := .empty
      profileTextures := []
      forwardServers := []
      now := 100 }
  operatorScopes :=
    { rows := [⟨1, 2, .audit, 50⟩]
      seq := 2
      unique := by decide
      fresh := by decide }

end AsterYggdrasil.Admin
