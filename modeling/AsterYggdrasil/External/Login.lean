import AsterYggdrasil.External.Resolution

/-!
# The operations of external login

`start_login` and `finish_callback`, the verification of an email address, the
link with a password, and the binding of a Minecraft account, statement by
statement.  A step is a statement on the pool or a whole transaction;
`externalMachine` executes transactions in one step, and `External.FlowUse`
takes them apart.  What a provider answers is part of the request.
-/

namespace AsterYggdrasil.External

open Interleave Relational

/-! ## Transactions -/

/-- The transactions of accounts and external login. -/
inductive AccountTxn
  | registerUser (input : CreateUserWithRole)
  | adminCreateUser (input : AdminCreateUser)
  | acceptInvitation (checkLocalEmail : String → Except AsterError Unit)
      (input : AcceptInvitation)
  | provision (input : ProvisionAttempt)
  | provisionWithoutEmail (input : ProvisionWithoutEmail)
  | startEmail (flowId : Nat) (email verificationTokenHash : String) (now : Nat)
  | confirmEmail (ctx : ProvisionContext) (provider : Provider) (claims : UserClaims)
      (flowId now : Nat)
  | passwordLink (provider : Provider) (claims : UserClaims) (user : User)
      (flowId now : Nat)
  | applyBinding (input : ApplyBinding)

@[reducible] def AccountTxn.Result : AccountTxn → Type
  | .registerUser _ | .adminCreateUser _ | .acceptInvitation _ _ | .provision _
  | .provisionWithoutEmail _ => User
  | .startEmail _ _ _ _ => Unit
  | .confirmEmail _ _ _ _ _ | .passwordLink _ _ _ _ _ => ResolvedUser
  | .applyBinding _ => BindingApplied

/-- `mark_consumed_if_unused`, which has to hit the flow. -/
def consumeEmailFlow (flowId now : Nat) (message : String) : OnConnection Unit := do
  let consumed ← onConn (.emailFlowConsume flowId now)
  rejectIf (!consumed) (.validation (some .contactVerificationInvalid) message)

/-- The transaction of `start_email_verification`, without its mail. -/
def startEmailTxn (flowId : Nat) (email verificationTokenHash : String) (now : Nat) :
    OnConnection Unit := do
  let updated ← onConn (.emailFlowUpdateRequest flowId email verificationTokenHash now)
  rejectIf (!updated) (.validation (some .contactVerificationInvalid)
    "external auth email verification request has already been started")

section Bodies

variable (lib : Library)

/-- The transaction of `confirm_email_verification`. -/
def confirmEmailTxn (ctx : ProvisionContext) (provider : Provider) (claims : UserClaims)
    (flowId now : Nat) : OnConnection ResolvedUser := do
  consumeEmailFlow flowId now
    "external auth email verification link has already been used"
  resolveWithVerifiedEmail lib ctx provider claims now

/-- The transaction of `link_with_password`. -/
def passwordLinkTxn (provider : Provider) (claims : UserClaims) (user : User)
    (flowId now : Nat) : OnConnection ResolvedUser := do
  consumeEmailFlow flowId now "external auth login flow has already been used"
  linkIdentityToAuthenticatedUser provider claims user now

/-- What a transaction executes. -/
def AccountTxn.body : (t : AccountTxn) → OnConnection t.Result
  | .registerUser input => createUserWithRole lib input
  | .adminCreateUser input => adminCreateUserTxn input
  | .acceptInvitation checkLocalEmail input =>
      acceptInvitationTxn lib checkLocalEmail input
  | .provision input => provisionTxn lib input
  | .provisionWithoutEmail input => provisionWithoutEmailTxn lib input
  | .startEmail flowId email hash now => startEmailTxn flowId email hash now
  | .confirmEmail ctx provider claims flowId now =>
      confirmEmailTxn lib ctx provider claims flowId now
  | .passwordLink provider claims user flowId now =>
      passwordLinkTxn provider claims user flowId now
  | .applyBinding input => applyBindingTxn input

/-- Run a transaction: commit on success, roll back on failure. -/
def AccountTxn.commit (t : AccountTxn) (s : AccountState) :
    Except ServiceError t.Result × AccountState :=
  match (t.body lib).run accountMachine s with
  | (.ok a, s') => (.ok a, s')
  | (.error e, _) => (.error e, s)

end Bodies

/-! ## Steps -/

/-- One step: a statement on the pool or a transaction. -/
inductive ExternalStmt
  | sql (i : AccountStmt)
  | txn (t : AccountTxn)

@[reducible] def ExternalStmt.Reply : ExternalStmt → Type
  | .sql i => i.Reply
  | .txn t => Except ServiceError t.Result

@[reducible] def externalSignature : Signature := ⟨ExternalStmt, ExternalStmt.Reply⟩

/-- What one step does. -/
def ExternalStmt.exec (lib : Library) :
    (i : ExternalStmt) → AccountState → i.Reply × AccountState
  | .sql i, s => i.exec s
  | .txn t, s => t.commit lib s

@[reducible] def externalMachine (lib : Library) : Machine externalSignature where
  State := AccountState
  exec := ExternalStmt.exec lib

/-- The operations of external login. -/
abbrev ExternalProg := Prog externalSignature ServiceError

/-- Statements on the pool. -/
def sqlHom : Signature.Hom accountSignature externalSignature := ⟨.sql, fun _ r => r⟩

/-- Run on the pool what could run in a transaction. -/
def onDb {α : Type} (p : OnConnection α) : ExternalProg α := p.hoist sqlHom id

/-- `with_transaction`. -/
def withTxn (t : AccountTxn) : ExternalProg t.Result := do
  match ← Prog.stmt (S := externalSignature) (.txn t) with
  | .ok a => .ok a
  | .error e => .err e

/-! ## Logging in -/

/-- `ExternalAuthPrimaryLogin`. -/
structure PrimaryLogin where
  user : User
  returnPath : String
  providerKey : String
  issuer : String
  subject : String
  linked : Bool
  autoProvisioned : Bool
  deriving DecidableEq, Repr

/-- `ExternalAuthCallbackOutcome`. -/
inductive CallbackOutcome
  | login (login : PrimaryLogin)
  | emailVerificationRequired (flowToken returnPath : String)
  deriving DecidableEq, Repr

/-- The query of a callback, with the provider its path names. -/
structure CallbackRequest where
  kind : ProviderKind
  providerKey : Option String
  error : Option String
  errorDescription : Option String
  code : Option String
  state : Option String
  deriving DecidableEq, Repr

/-- `LinuxDoUserInfo`.  The id is an unsigned integer. -/
structure LinuxDoUserInfo where
  id : Nat
  username : String
  name : Option String
  trustLevel : Option Int
  deriving DecidableEq, Repr

/-- What the providers answer to a callback, and what the call draws. -/
structure CallbackContext where
  exchangeCallback : Provider → LoginFlow → String → Except AsterError UserClaims
  exchangeLinuxdo : Provider → LoginFlow → String → Except AsterError LinuxDoUserInfo
  provision : ProvisionContext
  profile : ProfileContext
  newFlowToken : String

/-- `MICROSOFT_PROVIDER_PUBLIC_KEY`. -/
def microsoftProviderPublicKey : String := "microsoft"

/-- `provider_key_matches`. -/
def providerKeyMatches (kind : ProviderKind) (storedKey requestedKey : String) : Bool :=
  storedKey = requestedKey ||
    (kind = .microsoft && requestedKey = microsoftProviderPublicKey)

/-- The namespace of LinuxDO identities. -/
def linuxdoIdentityNamespace : String := "https://connect.linux.do"

/-- The profile `exchange_linuxdo_callback` makes of the answer. -/
def linuxdoClaims (info : LinuxDoUserInfo) : UserClaims where
  identityNamespace := linuxdoIdentityNamespace
  subject := toString info.id
  email := none
  emailVerified := false
  displayName := (info.name.filter fun n => !n.isEmpty).orElse fun _ => some info.username
  preferredUsername := some info.username

/-- `linuxdo_trust_level_metadata`. -/
def linuxdoTrustLevelMetadata (level : Int) : String :=
  "\x7b\"linuxdo_trust_level\":" ++ toString level ++ "\x7d"

/-- `EMAIL_VERIFICATION_FLOW_TTL_SECS` and `FLOW_TTL_SECS` on the clock. -/
def emailVerificationFlowTtl : Nat := 1800000

def flowTtl : Nat := 300000

/-- The text of an error that the provider reports. -/
def callbackError (error : String) (description : Option String) : AsterError :=
  .authInvalidCredentials ("external auth provider returned error: " ++
    (description.filter fun d => !isBlank d).getD error)

/-- `external_auth_provider_repo::find_by_id`. -/
def providerFindById (id : Nat) : OnConnection Provider := do
  required (.recordNotFound s!"external auth provider #{id}")
    (← onConn (.providerFindById id))

/-- `external_auth_login_flow_repo::consume_by_state_hash`. -/
def consumeLoginFlowByStateHash (stateHash : String) (now : Nat) :
    OnConnection (Option LoginFlow) := do
  match ← onConn (.loginFlowFindActive stateHash now) with
  | none => pure none
  | some flow =>
      let consumed ← onConn (.loginFlowConsume flow.id now)
      pure (if consumed then some flow else none)

/-- The provider of a callback is the one its flow was started for. -/
def ensureCallbackProvider (lib : Library) (req : CallbackRequest) (provider : Provider)
    (kindMessage keyMessage : String) : OnConnection Unit := do
  rejectIf (provider.kind ≠ req.kind) (.authInvalidCredentials kindMessage)
  match req.providerKey with
  | none => pure ()
  | some key =>
      let expected ← checked (lib.normalizeProviderKey key)
      rejectIf (!providerKeyMatches provider.kind provider.key expected)
        (.authInvalidCredentials keyMessage)

/-- The provider is switched on and may be used to log in. -/
def ensureLoginAllowed (provider : Provider) : OnConnection Unit := do
  rejectIf (!provider.enabled)
    (.authForbidden none "external auth provider is disabled")
  rejectIf (!provider.options.allowLogin)
    (.authForbidden (some .externalAuthProviderLoginDisabled)
      "external auth provider is not available for login")

/-- The code and the state of a callback. -/
def callbackParams (req : CallbackRequest) (noCode noState : String) :
    Except AsterError (String × String) :=
  match req.error with
  | some error => .error (callbackError error req.errorDescription)
  | none =>
      match req.code, req.state with
      | none, _ => .error (.authInvalidCredentials noCode)
      | some _, none => .error (.authInvalidCredentials noState)
      | some code, some state => .ok (code, state)

/-- The first half of `finish_callback`: the flow is consumed, and its provider
has to allow the login. -/
def consumeCallback (lib : Library) (req : CallbackRequest) :
    OnConnection (String × LoginFlow × Provider) := do
  let (code, state) ← checked (callbackParams req
    "external auth callback missing code" "external auth callback missing state")
  let now ← utcNow
  let flow ← required
    (.authInvalidCredentials "external auth state is invalid or expired")
    (← consumeLoginFlowByStateHash (lib.stateHash state) now)
  let provider ← providerFindById flow.providerId
  ensureCallbackProvider lib req provider
    "external auth callback provider kind does not match login flow"
    "external auth callback provider does not match login flow"
  ensureLoginAllowed provider
  pure (code, flow, provider)

/-- LinuxDO logins below the configured trust level are refused. -/
def checkTrustLevel (provider : Provider) (level : Option Int) :
    Except AsterError Unit :=
  match provider.options.linuxdo, level with
  | some opts, some level =>
      if level < opts.minTrustLevel then
        .error (.authForbidden none "LinuxDO trust level below minimum requirement")
      else .ok ()
  | _, _ => .ok ()

/-- The exchange of the code for claims, with the metadata of LinuxDO. -/
def exchangeClaims (ctx : CallbackContext) (code : String) (flow : LoginFlow)
    (provider : Provider) : Except AsterError (UserClaims × Option String) := do
  if provider.kind = .linuxDo then
    let info ← ctx.exchangeLinuxdo provider flow code
    checkTrustLevel provider info.trustLevel
    pure (linuxdoClaims info, info.trustLevel.map linuxdoTrustLevelMetadata)
  else
    let claims ← ctx.exchangeCallback provider flow code
    pure (claims, none)

/-- The answer of a login. -/
def primaryLogin (resolved : ResolvedUser) (returnPath : Option String)
    (provider : Provider) (claims : UserClaims) : PrimaryLogin where
  user := resolved.user
  returnPath := returnPath.getD "/"
  providerKey := provider.key
  issuer := claims.identityNamespace
  subject := claims.subject
  linked := resolved.linked
  autoProvisioned := resolved.autoProvisioned

/-- `create_pending_email_verification_flow`. -/
def createPendingEmailFlow (lib : Library) (flowToken : String) (provider : Provider)
    (claims : UserClaims) (returnPath : Option String) : OnConnection CallbackOutcome := do
  let now ← utcNow
  let row ← onConn (.emailFlowCreate
    { providerId := provider.id
      identityNamespace := claims.identityNamespace
      subject := claims.subject
      displayNameSnapshot := claims.displayName
      preferredUsernameSnapshot := claims.preferredUsername
      returnPath := returnPath
      flowTokenHash := lib.tokenHash flowToken
      createdAt := now
      expiresAt := now + emailVerificationFlowTtl })
  let _ ← required .databaseOperation row
  pure (.emailVerificationRequired flowToken (returnPath.getD "/"))

/-- `resolve_external_auth_user_without_email`. -/
def resolveWithoutEmail (lib : Library) (ctx : ProvisionContext) (provider : Provider)
    (claims : UserClaims) (metadata : Option String) : ExternalProg ResolvedUser := do
  let now ← onDb utcNow
  onDb (checked (ensureRegistrationOpen ctx.policy))
  let base := externalAuthUsernameBase lib claims
  let user ← retryOnUsernameConflict (fun attempt =>
    withTxn (.provisionWithoutEmail
      { account :=
          { publicUuid := ctx.publicUuid attempt
            username := usernameCandidateForProvider ctx provider claims base attempt
            password := ctx.password attempt
            role := .user
            status := .active
            mustChangePassword := false
            allowReservedLinuxdoUsername := provider.kind = .linuxDo }
        provider := provider
        claims := claims
        now := now
        metadata := metadata })) usernameAttempts
  pure ⟨user, true, true⟩

/-- `ResolveExternalAuthUserOptions`. -/
structure ResolveOptions where
  enforceEmailDomain : Bool
  allowVerifiedEmailAutoLink : Bool
  deriving DecidableEq, Repr

/-- `ResolveExternalAuthUserOptions::DEFAULT`. -/
def ResolveOptions.default : ResolveOptions := ⟨true, true⟩

/-- A provider that trusts emails only once they are verified. -/
def Provider.needsVerifiedEmail (p : Provider) : Bool :=
  p.requireEmailVerified || p.autoLinkVerifiedEmailEnabled

/-- `create_external_auth_user_and_identity`. -/
def createUserAndIdentity (lib : Library) (ctx : ProvisionContext) (provider : Provider)
    (claims : UserClaims) (now : Nat) (metadata : Option String)
    (options : ResolveOptions) : ExternalProg ResolvedUser := do
  onDb (checked (ensureRegistrationOpen ctx.policy))
  let email ← onDb (required
    (.authForbidden none "external auth auto provisioning requires an email claim")
    claims.email)
  onDb (rejectIf (provider.needsVerifiedEmail && !claims.emailVerified)
    (.authForbidden none "external auth auto provisioning requires verified email"))
  if options.enforceEmailDomain then
    onDb (checked (ensureDomainAllowed lib provider email))
  let base := externalAuthUsernameBase lib claims
  let user ← retryOnUsernameConflict (fun attempt =>
    withTxn (.provision
      { account := provisionedAccount ctx provider
          (usernameCandidateForProvider ctx provider claims base attempt) email
          (if claims.emailVerified then some now else none) attempt
        provider := provider
        claims := claims
        now := now
        metadata := metadata })) usernameAttempts
  pure ⟨user, true, true⟩

/-- The user whose account the claims' verified email is linked to without any
further question. -/
def autoLinkCandidate (provider : Provider) (claims : UserClaims)
    (options : ResolveOptions) : ExternalProg (Option User) :=
  if options.allowVerifiedEmailAutoLink && provider.autoLinkVerifiedEmailEnabled &&
      claims.emailVerified then
    match claims.email with
    | none => pure none
    | some email => onDb (onConn (.userFindByEmail email))
  else pure none

/-- The branch of `resolve_external_auth_user_with_options` that may create an
account. -/
def autoProvision (lib : Library) (ctx : ProvisionContext) (provider : Provider)
    (claims : UserClaims) (now : Nat) (metadata : Option String)
    (options : ResolveOptions) : ExternalProg (Option ResolvedUser) :=
  match claims.email.filter fun e => !e.isEmpty with
  | none => pure none
  | some email =>
      if provider.needsVerifiedEmail && !claims.emailVerified then pure none
      else if !ctx.policy.allowUserRegistration then pure none
      else do
        let existing ← onDb (onConn (.userFindByEmail email))
        if existing.isSome then pure none
        else
          let resolved ← createUserAndIdentity lib ctx provider claims now metadata options
          pure (some resolved)

/-- `resolve_external_auth_user_with_options`. -/
def resolveExternalAuthUserWithOptions (lib : Library) (ctx : ProvisionContext)
    (provider : Provider) (claims : UserClaims) (metadata : Option String)
    (options : ResolveOptions) : ExternalProg (Option ResolvedUser) := do
  let now ← onDb utcNow
  match ← onDb (onConn (.identityFindByNamespaceSubject claims.identityNamespace
      claims.subject)) with
  | some identity =>
      let resolved ← onDb (loginWithIdentity identity claims metadata now)
      pure (some resolved)
  | none =>
      onDb (checked (requireEmailIfConfigured provider claims))
      match options.enforceEmailDomain, claims.email with
      | true, some email => onDb (checked (ensureDomainAllowed lib provider email))
      | _, _ => pure ()
      match ← autoLinkCandidate provider claims options with
      | some user =>
          onDb (rejectIf (!user.status.isActive) (.authForbidden none "account is disabled"))
          let _ ← onDb (createIdentityForClaims user.id provider claims now metadata)
          pure (some ⟨user, true, false⟩)
      | none =>
          if provider.autoProvisionEnabled then
            autoProvision lib ctx provider claims now metadata options
          else pure none

/-- `resolve_external_auth_user`. -/
def resolveExternalAuthUser (lib : Library) (ctx : ProvisionContext)
    (provider : Provider) (claims : UserClaims) (metadata : Option String) :
    ExternalProg (Option ResolvedUser) :=
  resolveExternalAuthUserWithOptions lib ctx provider claims metadata .default

/-- The provider wants a profile for each new LinuxDO account. -/
def Provider.autoCreatesProfile (p : Provider) : Bool :=
  p.options.linuxdo.all LinuxDoOptions.autoCreateProfile

/-- `maybe_auto_create_linuxdo_profile`; a failure is only logged. -/
def maybeAutoCreateLinuxdoProfile (ctx : CallbackContext) (provider : Provider)
    (resolved : ResolvedUser) (claims : UserClaims) : ExternalProg Unit :=
  if provider.kind ≠ .linuxDo || !resolved.autoProvisioned ||
      !provider.autoCreatesProfile then pure ()
  else
    match claims.preferredUsername with
    | none => pure ()
    | some username => do
        let _ ← (onDb (ofService (createProfileForExternalAuth ctx.profile
          resolved.user.id resolved.user.role username
          (some ("linuxdo_" ++ claims.subject))))).attempt
        pure ()

/-- The answer to claims without an email. -/
def finishWithoutEmail (lib : Library) (ctx : CallbackContext) (flow : LoginFlow)
    (provider : Provider) (claims : UserClaims) (metadata : Option String) :
    ExternalProg CallbackOutcome := do
  let now ← onDb utcNow
  match ← onDb (resolveExistingIdentity claims now metadata) with
  | some resolved =>
      pure (.login (primaryLogin resolved flow.returnPath provider claims))
  | none =>
      if provider.kind = .linuxDo then
        let resolved ← resolveWithoutEmail lib ctx.provision provider claims metadata
        maybeAutoCreateLinuxdoProfile ctx provider resolved claims
        pure (.login (primaryLogin resolved flow.returnPath provider claims))
      else
        onDb (rejectIf (provider.kind = .gitHub && provider.requireEmailVerified)
          (.authForbidden none "GitHub provider requires a verified primary email"))
        onDb (createPendingEmailFlow lib ctx.newFlowToken provider claims flow.returnPath)

/-- The answer to claims with an email. -/
def finishWithEmail (lib : Library) (ctx : CallbackContext) (flow : LoginFlow)
    (provider : Provider) (claims : UserClaims) (metadata : Option String) :
    ExternalProg CallbackOutcome := do
  match ← resolveExternalAuthUser lib ctx.provision provider claims metadata with
  | none =>
      onDb (createPendingEmailFlow lib ctx.newFlowToken provider claims flow.returnPath)
  | some resolved =>
      maybeAutoCreateLinuxdoProfile ctx provider resolved claims
      pure (.login (primaryLogin resolved flow.returnPath provider claims))

/-- `finish_callback`. -/
def finishCallback (lib : Library) (ctx : CallbackContext) (req : CallbackRequest) :
    ExternalProg CallbackOutcome := do
  let (code, flow, provider) ← onDb (consumeCallback lib req)
  let (claims, metadata) ← onDb (checked (exchangeClaims ctx code flow provider))
  if claims.missingEmail then
    finishWithoutEmail lib ctx flow provider claims metadata
  else finishWithEmail lib ctx flow provider claims metadata

end AsterYggdrasil.External
