import AsterYggdrasil.External.Entities

/-!
# External login: the statements

The tables of external login stand beside those of the protocol service.  An
`AccountStmt` is one statement on any of them, and `AccountStmt.exec` is what
the database does with it: conditional updates report the number of rows they
hit, inserts respect unique indexes and foreign keys, and deleting a user or a
provider deletes what hangs on it.
-/

namespace AsterYggdrasil.External

open Interleave Relational

/-- All tables an account or an external login touches, with the service's
caches.  `pendingEmail` is the `pending_email` column of `users`. -/
structure AccountState where
  service : ServiceState
  pendingEmail : Nat → Option String
  invitations : Table invitationSchema
  providers : Table providerSchema
  identities : Table identitySchema
  loginFlows : Table loginFlowSchema
  bindingFlows : Table bindingFlowSchema
  emailFlows : Table emailFlowSchema

namespace AccountState

/-- `users`. -/
def users (s : AccountState) : Table userSchema := s.service.db.users

/-- `minecraft_profiles`. -/
def profiles (s : AccountState) : Table profileSchema := s.service.db.profiles

/-- `Utc::now()`. -/
def now (s : AccountState) : Nat := s.service.db.now

def withUsers (s : AccountState) (users : Table userSchema) : AccountState :=
  { s with service := { s.service with db := { s.service.db with users := users } } }

end AccountState

/-- The columns of a new account. -/
structure CreateAccount extends CreateUser where
  status : UserStatus
  mustChangePassword : Bool
  deriving DecidableEq, Repr

/-- The row an account insert writes. -/
def newAccount (id : Nat) (input : CreateAccount) : User :=
  { Db.newUser id input.toCreateUser with
    status := input.status
    mustChangePassword := input.mustChangePassword }

/-- `CreateExternalAuthIdentityInput`. -/
structure CreateIdentity where
  userId : Nat
  providerId : Nat
  identityNamespace : String
  subject : String
  emailSnapshot : Option String
  displayNameSnapshot : Option String
  metadata : Option String
  now : Nat
  deriving DecidableEq, Repr

/-- The row an identity insert writes. -/
def newIdentity (id : Nat) (input : CreateIdentity) : Identity where
  id := id
  userId := input.userId
  providerId := input.providerId
  identityNamespace := input.identityNamespace
  subject := input.subject
  emailSnapshot := input.emailSnapshot
  displayNameSnapshot := input.displayNameSnapshot
  metadata := input.metadata
  createdAt := input.now
  updatedAt := input.now
  lastLoginAt := some input.now

/-- The columns of a new login or binding flow. -/
structure CreateFlow where
  providerId : Nat
  stateHash : String
  nonce : Option String
  pkceVerifier : Option String
  redirectUri : String
  returnPath : Option String
  createdAt : Nat
  expiresAt : Nat
  deriving DecidableEq, Repr

/-- The row a login-flow insert writes. -/
def newLoginFlow (id : Nat) (input : CreateFlow) : LoginFlow where
  id := id
  providerId := input.providerId
  stateHash := input.stateHash
  nonce := input.nonce
  pkceVerifier := input.pkceVerifier
  redirectUri := input.redirectUri
  returnPath := input.returnPath
  createdAt := input.createdAt
  expiresAt := input.expiresAt
  consumedAt := none

/-- The row a binding-flow insert writes. -/
def newBindingFlow (id userId : Nat) (input : CreateFlow) : BindingFlow where
  id := id
  userId := userId
  providerId := input.providerId
  stateHash := input.stateHash
  nonce := input.nonce
  pkceVerifier := input.pkceVerifier
  redirectUri := input.redirectUri
  returnPath := input.returnPath
  createdAt := input.createdAt
  expiresAt := input.expiresAt
  consumedAt := none

/-- The columns of a new email-verification flow. -/
structure CreateEmailFlow where
  providerId : Nat
  identityNamespace : String
  subject : String
  displayNameSnapshot : Option String
  preferredUsernameSnapshot : Option String
  returnPath : Option String
  flowTokenHash : String
  createdAt : Nat
  expiresAt : Nat
  deriving DecidableEq, Repr

/-- The row an email-flow insert writes. -/
def newEmailFlow (id : Nat) (input : CreateEmailFlow) : EmailFlow where
  id := id
  providerId := input.providerId
  identityNamespace := input.identityNamespace
  subject := input.subject
  targetEmail := none
  displayNameSnapshot := input.displayNameSnapshot
  preferredUsernameSnapshot := input.preferredUsernameSnapshot
  returnPath := input.returnPath
  flowTokenHash := input.flowTokenHash
  verificationTokenHash := none
  emailRequestedAt := none
  createdAt := input.createdAt
  expiresAt := input.expiresAt
  consumedAt := none

/-- The columns `update_provider` sets; `none` leaves a column alone. -/
structure ProviderPatch where
  options : Option ProviderOptions
  clientSecret : Option (Option String)
  enabled : Option Bool
  autoProvisionEnabled : Option Bool
  autoLinkVerifiedEmailEnabled : Option Bool
  requireEmailVerified : Option Bool
  allowedDomains : Option (Option String)
  deriving DecidableEq, Repr

/-- The row `update_provider` writes over `p`.  Kind and key stay. -/
def patchProvider (patch : ProviderPatch) (p : Provider) : Provider :=
  { p with
    options := patch.options.getD p.options
    clientSecret := patch.clientSecret.getD p.clientSecret
    enabled := patch.enabled.getD p.enabled
    autoProvisionEnabled := patch.autoProvisionEnabled.getD p.autoProvisionEnabled
    autoLinkVerifiedEmailEnabled :=
      patch.autoLinkVerifiedEmailEnabled.getD p.autoLinkVerifiedEmailEnabled
    requireEmailVerified := patch.requireEmailVerified.getD p.requireEmailVerified
    allowedDomains := patch.allowedDomains.getD p.allowedDomains }

/-! ## Conditions of the flow queries -/

/-- `consumed_at IS NULL AND expires_at > ?`. -/
def unusedAt (expiresAt : Nat) (consumedAt : Option Nat) (now : Nat) : Bool :=
  consumedAt.isNone && decide (now < expiresAt)

def LoginFlow.unusedAt (now : Nat) (f : LoginFlow) : Bool :=
  External.unusedAt f.expiresAt f.consumedAt now

def BindingFlow.unusedAt (now : Nat) (f : BindingFlow) : Bool :=
  External.unusedAt f.expiresAt f.consumedAt now

def EmailFlow.unusedAt (now : Nat) (f : EmailFlow) : Bool :=
  External.unusedAt f.expiresAt f.consumedAt now

/-- `SET consumed_at = ?`. -/
def LoginFlow.consume (now : Nat) (f : LoginFlow) : LoginFlow :=
  { f with consumedAt := some now }

def BindingFlow.consume (now : Nat) (f : BindingFlow) : BindingFlow :=
  { f with consumedAt := some now }

def EmailFlow.consume (now : Nat) (f : EmailFlow) : EmailFlow :=
  { f with consumedAt := some now }

/-- The row `update_email_request` writes over `f`. -/
def EmailFlow.request (targetEmail verificationTokenHash : String) (now : Nat)
    (f : EmailFlow) : EmailFlow :=
  { f with
    targetEmail := some targetEmail
    verificationTokenHash := some verificationTokenHash
    emailRequestedAt := some now }

/-- The row `touch_login` writes over `i`. -/
def Identity.touch (emailSnapshot displayNameSnapshot metadata : Option String)
    (now : Nat) (i : Identity) : Identity :=
  { i with
    emailSnapshot := emailSnapshot.orElse fun _ => i.emailSnapshot
    displayNameSnapshot := displayNameSnapshot.orElse fun _ => i.displayNameSnapshot
    metadata := metadata.orElse fun _ => i.metadata
    lastLoginAt := some now
    updatedAt := now }

/-! ## Statements -/

/-- One statement. -/
inductive AccountStmt
  | service (i : ServiceStmt)
  | userCountAll
  | userFindByEmail (email : String)
  | userFindByPendingEmail (email : String)
  | userCreate (input : CreateAccount)
  | invitationFindById (id : Nat)
  | invitationFindByTokenHash (hash : String)
  | invitationMarkExpiredIfPending (id : Nat)
  | invitationMarkAcceptedIfPending (id acceptedUserId : Nat)
  | providerFindById (id : Nat)
  | providerFindByKindKey (kind : ProviderKind) (key : String)
  | providerFindEnabledByKind (kind : ProviderKind)
  | providerCreate (row : Provider)
  | providerUpdate (id : Nat) (patch : ProviderPatch)
  | providerDelete (id : Nat)
  | identityFindByNamespaceSubject (identityNamespace subject : String)
  | identityFindByProviderForUser (providerId userId : Nat)
  | identityFindByIdForUser (id userId : Nat)
  | identityTouchLogin (id : Nat)
      (emailSnapshot displayNameSnapshot metadata : Option String) (now : Nat)
  | identityCreate (input : CreateIdentity)
  | identityDeleteForUser (id userId : Nat)
  | loginFlowCreate (input : CreateFlow)
  | loginFlowFindActive (stateHash : String) (now : Nat)
  | loginFlowConsume (id now : Nat)
  | loginFlowCleanupExpired (now : Nat)
  | bindingFlowCreate (userId : Nat) (input : CreateFlow)
  | bindingFlowFindActive (stateHash : String) (now : Nat)
  | bindingFlowConsume (id now : Nat)
  | bindingFlowCleanupExpired (now : Nat)
  | emailFlowCreate (input : CreateEmailFlow)
  | emailFlowFindActiveByFlowToken (hash : String) (now : Nat)
  | emailFlowFindActiveByVerificationToken (hash : String) (now : Nat)
  | emailFlowUpdateRequest (id : Nat) (targetEmail verificationTokenHash : String)
      (now : Nat)
  | emailFlowConsume (id now : Nat)
  | emailFlowCleanupExpired (now : Nat)

/-- What each statement answers.  A conditional update answers whether it hit
one row, an insert that a constraint refuses answers `none`. -/
@[reducible] def AccountStmt.Reply : AccountStmt → Type
  | .service i => i.Reply
  | .userCountAll => Nat
  | .userFindByEmail _ | .userFindByPendingEmail _ | .userCreate _ => Option User
  | .invitationFindById _ | .invitationFindByTokenHash _ => Option Invitation
  | .invitationMarkExpiredIfPending _ | .invitationMarkAcceptedIfPending _ _ => Bool
  | .providerFindById _ | .providerFindByKindKey _ _ | .providerCreate _
  | .providerUpdate _ _ => Option Provider
  | .providerFindEnabledByKind _ => List Provider
  | .providerDelete _ => Unit
  | .identityFindByNamespaceSubject _ _ | .identityFindByProviderForUser _ _
  | .identityFindByIdForUser _ _ | .identityCreate _ => Option Identity
  | .identityTouchLogin _ _ _ _ _ | .identityDeleteForUser _ _ => Bool
  | .loginFlowCreate _ | .loginFlowFindActive _ _ => Option LoginFlow
  | .bindingFlowCreate _ _ | .bindingFlowFindActive _ _ => Option BindingFlow
  | .emailFlowCreate _ | .emailFlowFindActiveByFlowToken _ _
  | .emailFlowFindActiveByVerificationToken _ _ => Option EmailFlow
  | .loginFlowConsume _ _ | .bindingFlowConsume _ _ | .emailFlowConsume _ _
  | .emailFlowUpdateRequest _ _ _ _ => Bool
  | .loginFlowCleanupExpired _ | .bindingFlowCleanupExpired _
  | .emailFlowCleanupExpired _ => Nat

@[reducible] def accountSignature : Signature := ⟨AccountStmt, AccountStmt.Reply⟩

namespace AccountState

/-- What hangs on a deleted user goes with it. -/
def cascade (i : ServiceStmt) (s : AccountState) : AccountState :=
  match i with
  | .db (.userDelete id) =>
      { s with
        identities := s.identities.delete fun x => x.userId = id
        bindingFlows := s.bindingFlows.delete fun f => f.userId = id }
  | _ => s

/-- Deleting a provider deletes its identities and flows. -/
def deleteProvider (s : AccountState) (id : Nat) : AccountState :=
  { s with
    providers := s.providers.delete fun p => p.id = id
    identities := s.identities.delete fun x => x.providerId = id
    loginFlows := s.loginFlows.delete fun f => f.providerId = id
    bindingFlows := s.bindingFlows.delete fun f => f.providerId = id
    emailFlows := s.emailFlows.delete fun f => f.providerId = id }

/-- The provider row a foreign key points to. -/
def hasProvider (s : AccountState) (id : Nat) : Bool :=
  (s.providers.find? fun p => p.id = id).isSome

/-- The user row a foreign key points to. -/
def hasUser (s : AccountState) (id : Nat) : Bool :=
  (s.users.find? fun u => u.id = id).isSome

/-- `UPDATE external_auth_login_flows SET consumed_at = ? WHERE id = ? AND
consumed_at IS NULL AND expires_at > ?`. -/
def consumeLoginFlow (s : AccountState) (id now : Nat) : Bool × AccountState :=
  let p := fun f : LoginFlow => f.id = id && f.unusedAt now
  ((s.loginFlows.select p).length == 1,
    { s with
      loginFlows := s.loginFlows.modify p (LoginFlow.consume now) (fun _ => rfl)
        (fun _ _ => rfl) })

def consumeBindingFlow (s : AccountState) (id now : Nat) : Bool × AccountState :=
  let p := fun f : BindingFlow => f.id = id && f.unusedAt now
  ((s.bindingFlows.select p).length == 1,
    { s with
      bindingFlows := s.bindingFlows.modify p (BindingFlow.consume now) (fun _ => rfl)
        (fun _ _ => rfl) })

def consumeEmailFlow (s : AccountState) (id now : Nat) : Bool × AccountState :=
  let p := fun f : EmailFlow => f.id = id && f.unusedAt now
  ((s.emailFlows.select p).length == 1,
    { s with
      emailFlows := s.emailFlows.modify p (EmailFlow.consume now) (fun _ => rfl)
        (fun _ _ => rfl) })

/-- `UPDATE user_invitations SET status = ? WHERE p`. -/
def markInvitation (s : AccountState) (p : Invitation → Bool)
    (f : Invitation → Invitation) (hid : ∀ i, (f i).id = i.id)
    (hhash : ∀ i, (f i).tokenHash = i.tokenHash) : Bool × AccountState :=
  let hclash := fun a b : Invitation =>
    show invitationSchema.clash (f a) b = invitationSchema.clash a b by
      simp [invitationSchema, hid, hhash]
  ((s.invitations.select p).length == 1,
    { s with invitations := s.invitations.modify p f hid hclash })

end AccountState

/-- What the database does with one statement. -/
def AccountStmt.exec : (i : AccountStmt) → AccountState → i.Reply × AccountState
  | .service i, s =>
      ((i.exec s.service).1,
        AccountState.cascade i { s with service := (i.exec s.service).2 })
  | .userCountAll, s => (s.users.rows.length, s)
  | .userFindByEmail email, s => (s.users.find? fun u => u.email = some email, s)
  | .userFindByPendingEmail email, s =>
      (s.users.find? fun u => s.pendingEmail u.id = some email, s)
  | .userCreate input, s =>
      let (id, users) := s.users.nextId
      match users.insert? (newAccount id input) with
      | some users =>
          (some (newAccount id input),
            { s.withUsers users with
              pendingEmail := Function.update s.pendingEmail id none })
      | none => (none, s.withUsers users)
  | .invitationFindById id, s => (s.invitations.find? fun i => i.id = id, s)
  | .invitationFindByTokenHash hash, s =>
      (s.invitations.find? fun i => i.tokenHash = hash, s)
  | .invitationMarkExpiredIfPending id, s =>
      s.markInvitation (fun i => i.id = id && i.status = .pending)
        (fun i => { i with status := .expired }) (fun _ => rfl) (fun _ => rfl)
  | .invitationMarkAcceptedIfPending id userId, s =>
      s.markInvitation
        (fun i => i.id = id && i.status = .pending && decide (s.now < i.expiresAt))
        (fun i =>
          { i with
            status := .accepted
            acceptedUserId := some userId
            acceptedAt := some s.now })
        (fun _ => rfl) (fun _ => rfl)
  | .providerFindById id, s => (s.providers.find? fun p => p.id = id, s)
  | .providerFindByKindKey kind key, s =>
      (s.providers.find? fun p => p.kind = kind && p.key = key, s)
  | .providerFindEnabledByKind kind, s =>
      (s.providers.select fun p => p.kind = kind && p.enabled, s)
  | .providerCreate row, s =>
      let (id, providers) := s.providers.nextId
      match providers.insert? { row with id := id } with
      | some providers => (some { row with id := id }, { s with providers := providers })
      | none => (none, { s with providers := providers })
  | .providerUpdate id patch, s =>
      ((s.providers.find? fun p => p.id = id).map (patchProvider patch),
        { s with
          providers := s.providers.modify (fun p => p.id = id) (patchProvider patch)
            (fun _ => rfl) (fun _ _ => rfl) })
  | .providerDelete id, s => ((), s.deleteProvider id)
  | .identityFindByNamespaceSubject ns subject, s =>
      (s.identities.find? fun x => x.identityNamespace = ns && x.subject = subject, s)
  | .identityFindByProviderForUser providerId userId, s =>
      (s.identities.find? fun x => x.providerId = providerId && x.userId = userId, s)
  | .identityFindByIdForUser id userId, s =>
      (s.identities.find? fun x => x.id = id && x.userId = userId, s)
  | .identityTouchLogin id email display metadata now, s =>
      ((s.identities.find? fun x => x.id = id).isSome,
        { s with
          identities := s.identities.modify (fun x => x.id = id)
            (Identity.touch email display metadata now) (fun _ => rfl) (fun _ _ => rfl) })
  | .identityCreate input, s =>
      let (id, identities) := s.identities.nextId
      if s.hasUser input.userId && s.hasProvider input.providerId then
        match identities.insert? (newIdentity id input) with
        | some identities =>
            (some (newIdentity id input), { s with identities := identities })
        | none => (none, { s with identities := identities })
      else (none, { s with identities := identities })
  | .identityDeleteForUser id userId, s =>
      ((s.identities.select fun x => x.id = id && x.userId = userId).length == 1,
        { s with
          identities := s.identities.delete fun x => x.id = id && x.userId = userId })
  | .loginFlowCreate input, s =>
      let (id, flows) := s.loginFlows.nextId
      if s.hasProvider input.providerId then
        match flows.insert? (newLoginFlow id input) with
        | some flows => (some (newLoginFlow id input), { s with loginFlows := flows })
        | none => (none, { s with loginFlows := flows })
      else (none, { s with loginFlows := flows })
  | .loginFlowFindActive hash now, s =>
      (s.loginFlows.find? fun f => f.stateHash = hash && f.unusedAt now, s)
  | .loginFlowConsume id now, s => s.consumeLoginFlow id now
  | .loginFlowCleanupExpired now, s =>
      ((s.loginFlows.select fun f => f.expiresAt < now).length,
        { s with loginFlows := s.loginFlows.delete fun f => f.expiresAt < now })
  | .bindingFlowCreate userId input, s =>
      let (id, flows) := s.bindingFlows.nextId
      if s.hasUser userId && s.hasProvider input.providerId then
        match flows.insert? (newBindingFlow id userId input) with
        | some flows =>
            (some (newBindingFlow id userId input), { s with bindingFlows := flows })
        | none => (none, { s with bindingFlows := flows })
      else (none, { s with bindingFlows := flows })
  | .bindingFlowFindActive hash now, s =>
      (s.bindingFlows.find? fun f => f.stateHash = hash && f.unusedAt now, s)
  | .bindingFlowConsume id now, s => s.consumeBindingFlow id now
  | .bindingFlowCleanupExpired now, s =>
      ((s.bindingFlows.select fun f => f.expiresAt < now).length,
        { s with bindingFlows := s.bindingFlows.delete fun f => f.expiresAt < now })
  | .emailFlowCreate input, s =>
      let (id, flows) := s.emailFlows.nextId
      if s.hasProvider input.providerId then
        match flows.insert? (newEmailFlow id input) with
        | some flows => (some (newEmailFlow id input), { s with emailFlows := flows })
        | none => (none, { s with emailFlows := flows })
      else (none, { s with emailFlows := flows })
  | .emailFlowFindActiveByFlowToken hash now, s =>
      (s.emailFlows.find? fun f => f.flowTokenHash = hash && f.unusedAt now, s)
  | .emailFlowFindActiveByVerificationToken hash now, s =>
      (s.emailFlows.find? fun f =>
        f.verificationTokenHash = some hash && f.unusedAt now, s)
  | .emailFlowUpdateRequest id email hash now, s =>
      let p := fun f : EmailFlow =>
        f.id = id && f.verificationTokenHash.isNone && f.unusedAt now
      ((s.emailFlows.select p).length == 1,
        { s with
          emailFlows := s.emailFlows.modify p (EmailFlow.request email hash now)
            (fun _ => rfl) (fun _ _ => rfl) })
  | .emailFlowConsume id now, s => s.consumeEmailFlow id now
  | .emailFlowCleanupExpired now, s =>
      ((s.emailFlows.select fun f => f.expiresAt < now).length,
        { s with emailFlows := s.emailFlows.delete fun f => f.expiresAt < now })

/-- The statements of accounts and external login as a machine. -/
@[reducible] def accountMachine : Machine accountSignature where
  State := AccountState
  exec := AccountStmt.exec

/-- What runs on one connection. -/
abbrev OnConnection := Prog accountSignature ServiceError

/-- One statement on a connection. -/
def onConn (i : AccountStmt) : OnConnection i.Reply :=
  Prog.stmt (S := accountSignature) i

/-- The steps of the service on a connection. -/
def serviceHom : Signature.Hom serviceSignature accountSignature :=
  ⟨.service, fun _ r => r⟩

/-- A program of the service on a connection. -/
def ofService {α : Type} (p : Service α) : OnConnection α := p.hoist serviceHom id

/-- A repository call on a connection. -/
def ofDb {α : Type} (p : DbProg α) : OnConnection α := ofService (onPool .aster p)

/-- `Utc::now()`. -/
def utcNow : OnConnection Nat := onConn (.service (.db .now))

/-- A query that has to find a row, or a write that has to be accepted. -/
def required {α : Type} (e : AsterError) : Option α → OnConnection α
  | some a => .ok a
  | none => .err (.aster e)

/-- A check of the validation code. -/
def checked {α : Type} (r : Except AsterError α) : OnConnection α :=
  Prog.ofExcept (r.mapError .aster)

/-- Fail with a panel error if the condition holds. -/
def rejectIf (c : Bool) (e : AsterError) : OnConnection Unit :=
  Prog.rejectIf c (.aster e)

end AsterYggdrasil.External
