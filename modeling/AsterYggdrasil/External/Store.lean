import AsterYggdrasil.External.Operations
import AsterYggdrasil.Yggdrasil.Store

/-!
# Accounts as read-committed transactions

`externalMachine` executes a transaction in one step.  Here the same programs
run statement by statement over a transactional store.  A statement that draws
a primary key and inserts a row under it is two statements there, because
sequences are not under transaction control; `expand` takes such statements
apart, and `run_expand` says that a program that runs alone does not notice.

`inStore` is the translation of a whole operation: statements on the pool run
for themselves, and a transaction begins, locks what it writes, and commits or
rolls back.
-/

namespace AsterYggdrasil.External

open Interleave Relational

/-! ## Statements of the store -/

/-- One statement of the store. -/
inductive StoreStmt
  | account (i : AccountStmt)
  | userNextId
  | userInsert (id : Nat) (input : CreateAccount)
  | identityNextId
  | identityInsert (id : Nat) (input : CreateIdentity)
  | profileNextId
  | profileInsert (id : Nat) (input : CreateProfile)
  | invitationNextId
  | invitationInsert (row : Invitation)
  | invitationMarkRevokedIfPending (id : Nat)
  | invitationFindPendingByEmail (email : String)
  | invitationCount
  | invitationListAfter (cursor : Option (Nat × Nat)) (count : Nat)

@[reducible] def StoreStmt.Reply : StoreStmt → Type
  | .account i => i.Reply
  | .userNextId | .identityNextId | .profileNextId | .invitationNextId
  | .invitationCount => Nat
  | .userInsert _ _ => Option User
  | .identityInsert _ _ => Option Identity
  | .profileInsert _ _ => Option MinecraftProfile
  | .invitationInsert _ => Option Invitation
  | .invitationMarkRevokedIfPending _ => Bool
  | .invitationFindPendingByEmail _ | .invitationListAfter _ _ => List Invitation

@[reducible] def storeSignature : Signature := ⟨StoreStmt, StoreStmt.Reply⟩

/-- The order of a page: newest first, and the larger id first among rows of
one moment. -/
def Invitation.newerThan (a b : Invitation) : Prop :=
  b.createdAt < a.createdAt ∨ (a.createdAt = b.createdAt ∧ b.id ≤ a.id)

instance : DecidableRel Invitation.newerThan := fun a b =>
  inferInstanceAs (Decidable
    (b.createdAt < a.createdAt ∨ (a.createdAt = b.createdAt ∧ b.id ≤ a.id)))

/-- The rows after a cursor, which names the last row of the page before. -/
def Invitation.after (cursor : Option (Nat × Nat)) (r : Invitation) : Bool :=
  match cursor with
  | none => true
  | some (createdAt, id) =>
      r.createdAt < createdAt || (r.createdAt = createdAt && r.id < id)

namespace AccountState

def withProfiles (s : AccountState) (profiles : Table profileSchema) : AccountState :=
  { s with service := { s.service with db := { s.service.db with profiles := profiles } } }

/-- The state as it is at the time `now`. -/
def setNow (s : AccountState) (now : Nat) : AccountState :=
  { s with service := { s.service with db := { s.service.db with now := now } } }

end AccountState

/-- What the database does with one statement of the store. -/
def StoreStmt.exec : (i : StoreStmt) → AccountState → i.Reply × AccountState
  | .account i, s => i.exec s
  | .userNextId, s => (s.users.nextId.1, s.withUsers s.users.nextId.2)
  | .userInsert id input, s =>
      match s.users.insert? (newAccount id input) with
      | some users =>
          (some (newAccount id input),
            { s.withUsers users with
              pendingEmail := Function.update s.pendingEmail id none })
      | none => (none, s)
  | .identityNextId, s =>
      (s.identities.nextId.1, { s with identities := s.identities.nextId.2 })
  | .identityInsert id input, s =>
      if s.hasUser input.userId && s.hasProvider input.providerId then
        match s.identities.insert? (newIdentity id input) with
        | some identities =>
            (some (newIdentity id input), { s with identities := identities })
        | none => (none, s)
      else (none, s)
  | .profileNextId, s => (s.profiles.nextId.1, s.withProfiles s.profiles.nextId.2)
  | .profileInsert id input, s =>
      if s.hasUser input.userId then
        match s.profiles.insert? (Db.newProfile s.now id input) with
        | some profiles =>
            (some (Db.newProfile s.now id input), s.withProfiles profiles)
        | none => (none, s)
      else (none, s)
  | .invitationNextId, s =>
      (s.invitations.nextId.1, { s with invitations := s.invitations.nextId.2 })
  | .invitationInsert row, s =>
      match s.invitations.insert? row with
      | some invitations => (some row, { s with invitations := invitations })
      | none => (none, s)
  | .invitationMarkRevokedIfPending id, s =>
      s.markInvitation (fun i => i.id = id && i.status = .pending)
        (fun i => { i with status := .revoked, revokedAt := some s.now })
        (fun _ => rfl) (fun _ => rfl)
  | .invitationFindPendingByEmail email, s =>
      ((s.invitations.select fun i => i.email = email && i.status = .pending).insertionSort
        fun a b => b.createdAt ≤ a.createdAt, s)
  | .invitationCount, s => (s.invitations.rows.length, s)
  | .invitationListAfter cursor count, s =>
      (((s.invitations.select (Invitation.after cursor)).insertionSort
        Invitation.newerThan).take count, s)

@[reducible] def storeMachine : Machine storeSignature where
  State := AccountState
  exec := StoreStmt.exec

/-- Programs over the statements of the store. -/
abbrev StoreProg := Prog storeSignature ServiceError

/-- One statement of the store. -/
def onStore (i : StoreStmt) : StoreProg i.Reply := Prog.stmt (S := storeSignature) i

/-- Take a statement apart that draws a key and inserts a row under it. -/
def expand : (i : AccountStmt) → StoreProg i.Reply
  | .userCreate input => do
      let id ← onStore .userNextId
      onStore (.userInsert id input)
  | .identityCreate input => do
      let id ← onStore .identityNextId
      onStore (.identityInsert id input)
  | .service (.db (.profileInsert input)) => do
      let id ← onStore .profileNextId
      onStore (.profileInsert id input)
  | i => onStore (.account i)

/-- The insert of a profile, with its key drawn before. -/
theorem exec_profileInsert (input : CreateProfile) (s : AccountState) :
    (AccountStmt.service (.db (.profileInsert input))).exec s =
      if (s.service.db.users.find? fun u => u.id = input.userId).isSome then
        match s.profiles.nextId.2.insert? (Db.newProfile s.now s.profiles.nextId.1 input) with
        | some profiles =>
            (some (Db.newProfile s.now s.profiles.nextId.1 input), s.withProfiles profiles)
        | none => (none, s.withProfiles s.profiles.nextId.2)
      else (none, s.withProfiles s.profiles.nextId.2) := by
  simp only [AccountStmt.exec, ServiceStmt.exec, DbStmt.exec]
  cases s.service.db.users.find? fun u => u.id = input.userId with
  | none => rfl
  | some owner =>
      simp only [Option.isSome_some, if_true]
      unfold AccountState.profiles AccountState.now
      cases s.service.db.profiles.nextId.2.insert?
        (Db.newProfile s.service.db.now s.service.db.profiles.nextId.1 input) <;> rfl

/-- **Alone, a statement and its parts are the same.** -/
theorem run_expand (i : AccountStmt) (s : AccountState) :
    (expand i).run storeMachine s = (.ok (i.exec s).1, (i.exec s).2) := by
  unfold expand
  split
  · next input =>
      have hdrawn : (s.withUsers s.users.nextId.2).users = s.users.nextId.2 := rfl
      simp only [onStore, Prog.stmt, Prog.bind_eq, Prog.act_bind, Prog.ok_bind,
        Prog.run_act, Prog.run_ok, StoreStmt.exec, AccountStmt.exec, hdrawn]
      cases s.users.nextId.2.insert? (newAccount s.users.nextId.1 input) <;> rfl
  · rfl
  · next input =>
      have hdrawn : (s.withProfiles s.profiles.nextId.2).profiles = s.profiles.nextId.2 :=
        rfl
      have hnow : (s.withProfiles s.profiles.nextId.2).now = s.now := rfl
      have howner : (s.withProfiles s.profiles.nextId.2).hasUser input.userId =
          (s.service.db.users.find? fun u => u.id = input.userId).isSome := rfl
      simp only [onStore, Prog.stmt, Prog.bind_eq, Prog.act_bind, Prog.ok_bind,
        Prog.run_act, Prog.run_ok, StoreStmt.exec, hdrawn, howner, hnow]
      rw [exec_profileInsert]
      by_cases hfound : (s.service.db.users.find? fun u => u.id = input.userId).isSome
      · simp only [hfound, if_true]
        cases s.profiles.nextId.2.insert?
          (Db.newProfile s.now s.profiles.nextId.1 input) <;> rfl
      · simp only [hfound]
        rfl
  · rfl

/-- A program on a connection, with its statements taken apart. -/
def onStatements {α : Type} (p : OnConnection α) : StoreProg α := p.translate expand

/-- **Run on its own, a program taken apart does what it does whole.** -/
theorem run_onStatements {α : Type} (p : OnConnection α) (s : AccountState) :
    (onStatements p).run storeMachine s = p.run accountMachine s := by
  have hpart : ∀ (i : AccountStmt) (s : AccountState),
      ∃ s', (expand i).run storeMachine s = (.ok (i.exec s).1, s') ∧ s' = (i.exec s).2 :=
    fun i s => ⟨_, run_expand i s, rfl⟩
  obtain ⟨hresult, hstate⟩ := Prog.run_translate (M := accountMachine) (N := storeMachine)
    hpart p s
  exact Prod.ext hresult hstate

/-! ## Locks -/

/-- What a row lock or an entry of a unique index stands for. -/
inductive StoreKey
  | row (k : RowKey)
  | invitation (id : Nat)
  | invitationHash (hash : String)
  | provider (id : Nat)
  | providerName (kind : ProviderKind) (key : String)
  | identity (id : Nat)
  | identitySubject (identityNamespace subject : String)
  | providerSubject (providerId : Nat) (subject : String)
  | userProvider (userId providerId : Nat)
  | loginFlow (id : Nat)
  | loginState (hash : String)
  | bindingFlow (id : Nat)
  | bindingState (hash : String)
  | emailFlow (id : Nat)
  | emailToken (hash : String)
  deriving DecidableEq

/-- The index entries of an account. -/
def userKeys (u : User) : List StoreKey :=
  [.row (.user u.id), .row (.publicUuid u.publicUuid), .row (.username u.username)] ++
    (u.email.map fun email => .row (.email email)).toList

/-- The index entries of an identity. -/
def identityKeys (x : Identity) : List StoreKey :=
  [.identity x.id, .identitySubject x.identityNamespace x.subject,
    .providerSubject x.providerId x.subject, .userProvider x.userId x.providerId]

/-- The index entries of an invitation. -/
def invitationKeys (r : Invitation) : List StoreKey :=
  [.invitation r.id, .invitationHash r.tokenHash]

/-- The rows that go with the identities and flows that satisfy the
conditions. -/
def AccountState.dependents (s : AccountState) (identity : Identity → Bool)
    (loginFlow : LoginFlow → Bool) (bindingFlow : BindingFlow → Bool)
    (emailFlow : EmailFlow → Bool) : List StoreKey :=
  (s.identities.select identity).map (fun x => .identity x.id) ++
    (s.loginFlows.select loginFlow).map (fun f => .loginFlow f.id) ++
    (s.bindingFlows.select bindingFlow).map (fun f => .bindingFlow f.id) ++
    (s.emailFlows.select emailFlow).map fun f => .emailFlow f.id

/-- The rows and index entries a statement on a connection locks. -/
def AccountStmt.locks : AccountStmt → AccountState → List StoreKey
  | .service (.db i), s =>
      (i.locks s.service.db).map .row ++
        (match i with
          | .userDelete id =>
              s.dependents (fun x => x.userId = id) (fun _ => false)
                (fun f => f.userId = id) (fun _ => false)
          | _ => [])
  | .invitationMarkExpiredIfPending id, _ => [.invitation id]
  | .invitationMarkAcceptedIfPending id _, _ => [.invitation id]
  | .providerCreate row, _ => [.providerName row.kind row.key]
  | .providerUpdate id _, _ => [.provider id]
  | .providerDelete id, s =>
      .provider id :: s.dependents (fun x => x.providerId = id) (fun f => f.providerId = id)
        (fun f => f.providerId = id) (fun f => f.providerId = id)
  | .identityTouchLogin id _ _ _ _, _ => [.identity id]
  | .identityDeleteForUser id _, _ => [.identity id]
  | .loginFlowCreate input, _ => [.loginState input.stateHash]
  | .loginFlowConsume id _, _ => [.loginFlow id]
  | .loginFlowCleanupExpired now, s =>
      s.dependents (fun _ => false) (fun f => f.expiresAt < now) (fun _ => false)
        fun _ => false
  | .bindingFlowCreate _ input, _ => [.bindingState input.stateHash]
  | .bindingFlowConsume id _, _ => [.bindingFlow id]
  | .bindingFlowCleanupExpired now, s =>
      s.dependents (fun _ => false) (fun _ => false) (fun f => f.expiresAt < now)
        fun _ => false
  | .emailFlowCreate input, _ => [.emailToken input.flowTokenHash]
  | .emailFlowUpdateRequest id _ _ _, _ => [.emailFlow id]
  | .emailFlowConsume id _, _ => [.emailFlow id]
  | .emailFlowCleanupExpired now, s =>
      s.dependents (fun _ => false) (fun _ => false) (fun _ => false)
        fun f => f.expiresAt < now
  | _, _ => []

/-- The rows and index entries a statement of the store locks. -/
def StoreStmt.locks : StoreStmt → AccountState → List StoreKey
  | .account i, s => i.locks s
  | .userInsert id input, _ => userKeys (newAccount id input)
  | .identityInsert id input, _ => identityKeys (newIdentity id input)
  | .profileInsert id input, _ =>
      [.row (.profile id), .row (.profileUuid input.uuid),
        .row (.profileName (normalizeProfileName input.name))]
  | .invitationInsert row, _ => invitationKeys row
  | .invitationMarkRevokedIfPending id, _ => [.invitation id]
  | _, _ => []

/-- Sequences, the clock and the caches are outside of transaction control. -/
def StoreStmt.immediate : StoreStmt → Bool
  | .account (.service i) => i.immediate
  | .userNextId | .identityNextId | .profileNextId | .invitationNextId => true
  | _ => false

/-- A write laid over a later state writes the time at which it was made. -/
def StoreStmt.redo (i : StoreStmt) (now : Nat) (s : AccountState) : AccountState :=
  (i.exec (s.setNow now)).2.setNow s.now

/-- Accounts and external login as a store of read-committed transactions. -/
@[reducible] def accountStore : Store storeMachine where
  Key := StoreKey
  keyEq := inferInstance
  locks := StoreStmt.locks
  immediate := StoreStmt.immediate
  Stamp := Nat
  stamp := AccountState.now
  redo := StoreStmt.redo

/-- Committed state, locks and transactions. -/
abbrev AccountShared := accountStore.Shared

/-- Programs over the transactional store. -/
abbrev AccountProg := Prog accountStore.signature ServiceError

/-- A program on the pool: every statement runs for itself. -/
def onPoolOf {α : Type} (p : StoreProg α) : AccountProg α :=
  p.translate fun i => Store.auto (σ := accountStore) i

/-- A program in a transaction of its own. -/
def inTransaction {α : Type} (p : StoreProg α) : AccountProg α :=
  Store.transaction (σ := accountStore) (.aster .databaseOperation) p

/-- A transaction of the service on a connection. -/
def serviceTxn (t : Txn) : OnConnection t.Result := ofService (t.body.hoist poolHom id)

/-- One step of an operation. -/
def storeStep (lib : Library) : (i : ExternalStmt) → AccountProg i.Reply
  | .sql (.service (.txn t)) =>
      (Store.transaction (σ := accountStore) t.lost (onStatements (serviceTxn t))).attempt
  | .sql i => onPoolOf (expand i)
  | .txn t => (inTransaction (onStatements (t.body lib))).attempt

/-- Statements on the pool run for themselves. -/
theorem storeStep_sql (lib : Library) {i : AccountStmt}
    (hi : ∀ t, i ≠ .service (.txn t)) :
    storeStep lib (.sql i) = onPoolOf (expand i) := by
  cases i with
  | service i =>
      cases i with
      | txn t => exact absurd rfl (hi t)
      | _ => rfl
  | _ => rfl

/-- An operation, statement by statement. -/
def inStore {α : Type} (lib : Library) (p : ExternalProg α) : AccountProg α :=
  p.translate (storeStep lib)

@[simp] theorem inStore_bind {α β : Type} (lib : Library) (p : ExternalProg α)
    (f : α → ExternalProg β) :
    inStore lib (p.bind f) = (inStore lib p).bind fun a => inStore lib (f a) :=
  Prog.translate_bind (S := externalSignature) (storeStep lib) p f

/-- A transaction, statement by statement. -/
theorem inStore_withTxn (lib : Library) (t : AccountTxn) :
    inStore lib (withTxn t) = inTransaction (onStatements (t.body lib)) := by
  have hcaught := Prog.attempt_bind_ofExcept (inTransaction (onStatements (t.body lib)))
  simp only [inStore, withTxn, Prog.bind_eq, Prog.stmt, Prog.act_bind, Prog.ok_bind,
    Prog.translate_act, storeStep]
  refine Eq.trans ?_ hcaught
  congr 1
  funext r
  cases r <;> rfl

end AsterYggdrasil.External
