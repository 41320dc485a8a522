import AsterYggdrasil.External.Login

/-!
# Flows, links, bindings and accounts

The rest of the operations: starting logins and bindings, the verification of an
email, the link with a password, the two ways a Minecraft binding completes, the
administration of providers, and the account operations of the panel.
`FlowCall` collects the calls of external login, `AccountCall` everything that
creates, renames or deletes accounts and profiles.
-/

namespace AsterYggdrasil.External

open Interleave Relational

/-! ## Starting a flow -/

/-- What `start_authorization` returns, or a device-code request: the state to
hash, and the columns of the flow. -/
structure AuthorizationStart where
  state : String
  nonce : Option String
  pkceVerifier : Option String
  redirectUri : String
  ttl : Nat
  deriving DecidableEq, Repr

/-- `find_login_provider` and `find_minecraft_binding_provider`. -/
def findProvider (kind : ProviderKind) (key : String) : OnConnection Provider := do
  match ← onConn (.providerFindByKindKey kind key) with
  | some provider => pure provider
  | none =>
      let notFound : AsterError := .recordNotFound
        ("external auth provider '" ++ kind.asStr ++ ":" ++ key ++ "'")
      if kind = .microsoft && key = microsoftProviderPublicKey then
        match ← onConn (.providerFindEnabledByKind kind) with
        | [] => .err (.aster notFound)
        | [provider] => pure provider
        | _ => .err (.aster (.validation (some .externalAuthProviderMisconfigured)
            ("multiple enabled Microsoft providers are configured; keep only one " ++
              "enabled Microsoft provider for the fixed callback URL")))
      else .err (.aster notFound)

/-- The columns of a flow that starts now. -/
def startedFlow (lib : Library) (provider : Provider) (start : AuthorizationStart)
    (returnPath : String) (now : Nat) : CreateFlow where
  providerId := provider.id
  stateHash := lib.stateHash start.state
  nonce := start.nonce
  pkceVerifier := start.pkceVerifier
  redirectUri := start.redirectUri
  returnPath := some returnPath
  createdAt := now
  expiresAt := now + start.ttl

/-- `start_login`. -/
def startLogin (lib : Library) (kind : ProviderKind) (providerKey : String)
    (returnPath : Option String)
    (authorize : Provider → Except AsterError AuthorizationStart) :
    OnConnection Unit := do
  let key ← checked (lib.normalizeProviderKey providerKey)
  let provider ← findProvider kind key
  ensureLoginAllowed provider
  let returnPath ← checked (lib.normalizeReturnPath returnPath)
  let start ← checked (authorize provider)
  let now ← utcNow
  let row ← onConn (.loginFlowCreate
    (startedFlow lib provider { start with ttl := flowTtl } returnPath now))
  let _ ← required .databaseOperation row

/-- `ensure_minecraft_binding_provider_kind`. -/
def ensureMinecraftBindingProviderKind (kind : ProviderKind) : Except AsterError Unit :=
  if kind = .microsoft then .ok ()
  else .error (.validation (some .externalAuthProviderMisconfigured)
    "Minecraft account binding requires a Microsoft external auth provider")

/-- `ensure_provider_enabled`. -/
def ensureProviderEnabled (provider : Provider) : OnConnection Unit :=
  rejectIf (!provider.enabled)
    (.authForbidden (some .externalAuthProviderDisabled)
      "external auth provider is disabled")

/-- `provider_has_client_secret`. -/
def providerHasClientSecret (provider : Provider) : Bool :=
  provider.clientSecret.any fun secret => !isBlank secret

/-- `start_minecraft_binding`: with a client secret the authorization-code flow,
without one the device-code flow, whose lifetime Microsoft chooses within 15
minutes. -/
def startMinecraftBinding (lib : Library) (userId : Nat) (kind : ProviderKind)
    (providerKey : String) (returnPath : Option String)
    (authorize deviceCode : Provider → Except AsterError AuthorizationStart) :
    OnConnection Unit := do
  checked (ensureMinecraftBindingProviderKind kind)
  let key ← checked (lib.normalizeProviderKey providerKey)
  let provider ← findProvider kind key
  ensureProviderEnabled provider
  let returnPath ← checked (lib.normalizeReturnPath returnPath)
  let start ←
    if providerHasClientSecret provider then do
      let start ← checked (authorize provider)
      pure { start with ttl := flowTtl }
    else do
      let start ← checked (deviceCode provider)
      pure { start with ttl := max 1000 (min start.ttl 900000) }
  let now ← utcNow
  let row ← onConn (.bindingFlowCreate userId (startedFlow lib provider start returnPath now))
  let _ ← required .databaseOperation row

/-! ## Verifying an email -/

/-- A failed flow lookup. -/
def contactVerificationInvalid (message : String) : AsterError :=
  .validation (some .contactVerificationInvalid) message

/-- The provider is switched on. -/
def ensureEnabled (provider : Provider) : OnConnection Unit :=
  rejectIf (!provider.enabled) (.authForbidden none "external auth provider is disabled")

/-- An email may be verified for an active account with a verified email, or for
a new account while registration is open. -/
def ensureEmailUsable (policy : AuthPolicy) (email : String) : OnConnection Unit := do
  match ← onConn (.userFindByEmail email) with
  | some user =>
      rejectIf (!user.status.isActive) (.authForbidden none "account is disabled")
      rejectIf user.emailVerifiedAt.isNone
        (.authForbidden none "local account email is not verified")
  | none => checked (ensureRegistrationOpen policy)

/-- `normalize_email_for_external_auth`. -/
def normalizeEmailForExternalAuth (lib : Library) (email : String) :
    Except AsterError String := do
  let _ ← lib.normalizeEmail (trim email)
  pure (trim email)

/-- `start_email_verification`. -/
def startEmailVerification (lib : Library) (policy : AuthPolicy)
    (newVerificationToken flowToken email : String) : ExternalProg Unit := do
  let flowToken ← onDb (checked (lib.normalizeFlowToken flowToken))
  let email ← onDb (checked (normalizeEmailForExternalAuth lib email))
  let now ← onDb utcNow
  let found ← onDb (onConn (.emailFlowFindActiveByFlowToken (lib.tokenHash flowToken) now))
  let flow ← onDb (required
    (contactVerificationInvalid "external auth email verification flow is invalid") found)
  onDb (rejectIf flow.verificationTokenHash.isSome (contactVerificationInvalid
    "external auth email verification request has already been started"))
  let provider ← onDb (providerFindById flow.providerId)
  onDb (ensureEnabled provider)
  onDb (checked (ensureDomainAllowed lib provider email))
  onDb (ensureEmailUsable policy email)
  withTxn (.startEmail flow.id email (lib.tokenHash newVerificationToken) now)

/-- `confirm_email_verification`. -/
def confirmEmailVerification (lib : Library) (ctx : ProvisionContext) (token : String) :
    ExternalProg PrimaryLogin := do
  let token := trim token
  onDb (rejectIf token.isEmpty (contactVerificationInvalid
    "external auth email verification token is missing"))
  let now ← onDb utcNow
  let found ← onDb (onConn
    (.emailFlowFindActiveByVerificationToken (lib.tokenHash token) now))
  let flow ← onDb (required
    (contactVerificationInvalid "external auth email verification link is invalid") found)
  let email ← onDb (required
    (contactVerificationInvalid "external auth email verification target is missing")
    flow.targetEmail)
  let provider ← onDb (providerFindById flow.providerId)
  onDb (ensureEnabled provider)
  let claims := claimsWithVerifiedLocalEmail flow email
  let resolved ← withTxn (.confirmEmail ctx provider claims flow.id now)
  pure (primaryLogin resolved flow.returnPath provider claims)

/-! ## Linking with a password -/

/-- `ExternalAuthPasswordLinkRequest`. -/
structure PasswordLinkRequest where
  flowToken : String
  identifier : String
  password : String
  deriving DecidableEq, Repr

/-- `DUMMY_PASSWORD_HASH`. -/
def dummyPasswordHash : String :=
  "$argon2id$v=19$m=19456,t=2,p=1$c29tZXNhbHRmb3JkdW1teQ$" ++
    "uLpdZ2ciOQUUMGrye7Tyvz/vZ/saqtJiqQBvovmG6ms"

/-- The account an identifier and a password open. -/
def authenticateForLink (lib : Library) (identifier password : String) :
    OnConnection User := do
  let found ← onConn (.service (.db (.userFindByIdentifier identifier)))
  let hash := (found.map User.passwordHash).getD dummyPasswordHash
  let valid ← checked (lib.verifyPassword password hash)
  rejectIf (!valid) (.authInvalidCredentials "invalid credentials")
  let user ← required (.authInvalidCredentials "invalid credentials") found
  rejectIf (!user.status.isActive) (.authForbidden none "account is disabled")
  rejectIf (!isEmailActivationSatisfied user)
    (.authForbidden (some .authPendingActivation) "account pending activation")
  pure user

/-- `link_with_password`. -/
def linkWithPassword (lib : Library) (req : PasswordLinkRequest) :
    ExternalProg PrimaryLogin := do
  let flowToken ← onDb (checked (lib.normalizeFlowToken req.flowToken))
  let identifier := trim req.identifier
  onDb (rejectIf identifier.isEmpty (.validation none "identifier is required"))
  onDb (rejectIf req.password.isEmpty (.validation none "password is required"))
  let now ← onDb utcNow
  let found ← onDb (onConn (.emailFlowFindActiveByFlowToken (lib.tokenHash flowToken) now))
  let flow ← onDb (required
    (contactVerificationInvalid "external auth email verification flow is invalid") found)
  let provider ← onDb (providerFindById flow.providerId)
  onDb (ensureEnabled provider)
  let user ← onDb (authenticateForLink lib identifier req.password)
  let claims := claimsWithoutProviderEmail flow
  let resolved ← withTxn (.passwordLink provider claims user flow.id now)
  pure (primaryLogin resolved flow.returnPath provider claims)

/-! ## Completing a Minecraft binding -/

/-- `ExternalAuthMinecraftBindingCallbackResult`. -/
structure BindingResult where
  userId : Nat
  providerId : Nat
  identityId : Nat
  profile : MinecraftProfile
  identityLinked : Bool
  profileCreated : Bool
  returnPath : String
  deriving DecidableEq, Repr

/-- `DeviceCodeTokenStatus`. -/
inductive DeviceCodeTokenStatus
  | authorized (accessToken : String)
  | pending
  | slowDown
  | expired
  deriving DecidableEq, Repr

/-- What Microsoft answers, the profile policy, and the JSON text of
`minecraft_binding_metadata`. -/
structure BindingContext where
  exchangeCode : Provider → BindingFlow → String → Except AsterError MinecraftAccount
  pollDeviceCode : Provider → String → Except AsterError DeviceCodeTokenStatus
  exchangeToken : Provider → String → Except AsterError MinecraftAccount
  minecraftBindingMetadata : MinecraftAccount → String
  profile : ProfileContext

/-- `user_role_for_binding` and `apply_minecraft_binding`. -/
def applyMinecraftBinding (ctx : BindingContext) (provider : Provider)
    (flow : BindingFlow) (account : MinecraftAccount) : ExternalProg BindingResult := do
  let user ← onDb (ofDb (userFindById flow.userId))
  let applied ← withTxn (.applyBinding
    { provider := provider
      userId := flow.userId
      userRole := user.role
      account := account
      metadata := ctx.minecraftBindingMetadata account
      profileContext := ctx.profile })
  pure
    { userId := flow.userId
      providerId := provider.id
      identityId := applied.identity.id
      profile := applied.profile
      identityLinked := applied.identityLinked
      profileCreated := applied.profileCreated
      returnPath := flow.returnPath.getD "/account" }

/-- `external_auth_binding_flow_repo::consume_by_state_hash`. -/
def consumeBindingFlowByStateHash (stateHash : String) (now : Nat) :
    OnConnection (Option BindingFlow) := do
  match ← onConn (.bindingFlowFindActive stateHash now) with
  | none => pure none
  | some flow =>
      let consumed ← onConn (.bindingFlowConsume flow.id now)
      pure (if consumed then some flow else none)

/-- The first half of `finish_minecraft_binding_callback`. -/
def consumeBindingCallback (lib : Library) (req : CallbackRequest) :
    OnConnection (String × BindingFlow × Provider) := do
  checked (ensureMinecraftBindingProviderKind req.kind)
  let (code, state) ← checked (callbackParams req
    "external auth binding callback missing code"
    "external auth binding callback missing state")
  let now ← utcNow
  let flow ← required
    (.authInvalidCredentials "external auth binding state is invalid or expired")
    (← consumeBindingFlowByStateHash (lib.stateHash state) now)
  let provider ← providerFindById flow.providerId
  ensureCallbackProvider lib req provider
    "external auth binding callback provider kind does not match flow"
    "external auth binding callback provider does not match flow"
  ensureProviderEnabled provider
  pure (code, flow, provider)

/-- `finish_minecraft_binding_callback`. -/
def finishMinecraftBindingCallback (lib : Library) (ctx : BindingContext)
    (req : CallbackRequest) : ExternalProg BindingResult := do
  let (code, flow, provider) ← onDb (consumeBindingCallback lib req)
  let account ← onDb (checked (ctx.exchangeCode provider flow code))
  applyMinecraftBinding ctx provider flow account

/-- The part of `check_device_code_status` after Microsoft has authorized the
device: the flow is consumed, then the binding applied. -/
def finishDeviceCode (ctx : BindingContext) (provider : Provider) (flow : BindingFlow)
    (accessToken : String) : ExternalProg (Option BindingResult) := do
  let now ← onDb utcNow
  let consumed ← onDb (onConn (.bindingFlowConsume flow.id now))
  if consumed then
    let account ← onDb (checked (ctx.exchangeToken provider accessToken))
    let result ← applyMinecraftBinding ctx provider flow account
    pure (some result)
  else pure none

/-- `check_device_code_status`. -/
def checkDeviceCodeStatus (lib : Library) (ctx : BindingContext) (userId : Nat)
    (deviceCode : String) : ExternalProg (Option BindingResult) := do
  let now ← onDb utcNow
  match ← onDb (onConn (.bindingFlowFindActive (lib.stateHash deviceCode) now)) with
  | none => pure none
  | some flow =>
      onDb (rejectIf (flow.userId ≠ userId)
        (.authForbidden (some .externalAuthIdentityConflict)
          "Device code flow does not belong to this user"))
      let provider ← onDb (providerFindById flow.providerId)
      match ← onDb (checked (ctx.pollDeviceCode provider deviceCode)) with
      | .pending => pure none
      | .slowDown => pure none
      | .expired =>
          let now ← onDb utcNow
          let _ ← onDb (onConn (.bindingFlowConsume flow.id now))
          .err (.aster (.authInvalidCredentials "Microsoft device code has expired"))
      | .authorized accessToken => finishDeviceCode ctx provider flow accessToken

/-! ## The calls of external login -/

/-- The calls that start or complete a flow. -/
inductive FlowCall
  | startLogin (kind : ProviderKind) (providerKey : String) (returnPath : Option String)
      (authorize : Provider → Except AsterError AuthorizationStart)
  | finishCallback (ctx : CallbackContext) (req : CallbackRequest)
  | startEmailVerification (policy : AuthPolicy)
      (newVerificationToken flowToken email : String)
  | confirmEmailVerification (ctx : ProvisionContext) (token : String)
  | linkWithPassword (req : PasswordLinkRequest)
  | startMinecraftBinding (userId : Nat) (kind : ProviderKind) (providerKey : String)
      (returnPath : Option String)
      (authorize deviceCode : Provider → Except AsterError AuthorizationStart)
  | finishMinecraftBinding (ctx : BindingContext) (req : CallbackRequest)
  | checkDeviceCode (ctx : BindingContext) (userId : Nat) (deviceCode : String)

/-- What these calls answer. -/
inductive FlowResponse
  | done
  | emailVerificationRequired (flowToken returnPath : String)
  | login (login : PrimaryLogin)
  | bound (result : BindingResult)
  deriving DecidableEq, Repr

/-- The answer of `finish_callback`. -/
def CallbackOutcome.response : CallbackOutcome → FlowResponse
  | .login primary => .login primary
  | .emailVerificationRequired flowToken returnPath =>
      .emailVerificationRequired flowToken returnPath

/-- The program of a call. -/
def FlowCall.body (lib : Library) : FlowCall → ExternalProg FlowResponse
  | .startLogin kind key returnPath authorize => do
      onDb (External.startLogin lib kind key returnPath authorize)
      pure .done
  | .finishCallback ctx req => do
      let outcome ← External.finishCallback lib ctx req
      pure outcome.response
  | .startEmailVerification policy newToken flowToken email => do
      External.startEmailVerification lib policy newToken flowToken email
      pure .done
  | .confirmEmailVerification ctx token => do
      let login ← External.confirmEmailVerification lib ctx token
      pure (.login login)
  | .linkWithPassword req => do
      let login ← External.linkWithPassword lib req
      pure (.login login)
  | .startMinecraftBinding userId kind key returnPath authorize deviceCode => do
      onDb (External.startMinecraftBinding lib userId kind key returnPath authorize
        deviceCode)
      pure .done
  | .finishMinecraftBinding ctx req => do
      let result ← finishMinecraftBindingCallback lib ctx req
      pure (.bound result)
  | .checkDeviceCode ctx userId deviceCode => do
      match ← checkDeviceCodeStatus lib ctx userId deviceCode with
      | some result => pure (.bound result)
      | none => pure .done

/-! ## The panel's account operations -/

/-- `setup_first_admin`, up to the account. -/
def setupFirstAdmin (lib : Library) (publicUuid username email password : String) :
    OnConnection User := do
  let count ← onConn .userCountAll
  rejectIf (0 < count)
    (.validation (some .authSetupAlreadyCompleted) "system is already initialized")
  let _ ← checked (validateIdentityInput lib username email password)
  createUser lib publicUuid username email password .admin

/-- `register`, up to the account.  The first account is an administrator and
needs no activation. -/
def register (lib : Library) (policy : AuthPolicy)
    (publicUuid username email password : String) : ExternalProg User := do
  onDb (rejectIf (!policy.allowUserRegistration)
    (.authForbidden (some .authRegistrationDisabled) "registration is disabled"))
  onDb (rejectIf (!policy.allowLocalRegistration)
    (.authForbidden (some .authRegistrationDisabled) "local registration is disabled"))
  onDb (checked (policy.checkLocalEmail email))
  let count ← onDb (onConn .userCountAll)
  let role := if count = 0 then UserRole.admin else UserRole.user
  if policy.registerActivationEnabled && count ≠ 0 then
    withTxn (.registerUser
      { publicUuid := publicUuid
        username := username
        email := email
        password := password
        role := role
        status := .active
        mustChangePassword := false
        emailVerifiedAt := none
        allowReservedLinuxdoUsername := false })
  else onDb (createUser lib publicUuid username email password role)

/-- `accept_invitation`. -/
def acceptInvitation (lib : Library) (policy : AuthPolicy)
    (publicUuid token username password : String) : ExternalProg User := do
  onDb (rejectIf (trim token).isEmpty invitationInvalidError)
  withTxn (.acceptInvitation policy.checkLocalEmail
    ⟨lib.sha256Hex (trim token), username, password, publicUuid⟩)

/-- `AdminCreateUserInput`, with what the call draws. -/
structure AdminCreateRequest where
  username : String
  email : String
  password : Option String
  role : UserRole
  status : UserStatus
  mustChangePassword : Option Bool
  generatedPassword : String
  publicUuid : String
  deriving DecidableEq, Repr

/-- `create_user` of `admin_user_service`, with the role as normalised. -/
def adminCreateUser (lib : Library) (req : AdminCreateRequest) : ExternalProg User := do
  let explicit := (req.password.map trim).filter fun p => !p.isEmpty
  let password := explicit.getD req.generatedPassword
  let email ← onDb (checked
    (validateAdminIdentityInput lib req.username req.email password))
  let passwordHash ← onDb (checked (lib.hashPassword password))
  withTxn (.adminCreateUser
    { publicUuid := req.publicUuid
      username := req.username
      email := email
      passwordHash := passwordHash
      role := req.role
      status := req.status
      mustChangePassword := explicit.isNone || req.mustChangePassword.getD false })

/-- `AdminUpdateUserInput`, without operator scopes. -/
structure AdminUpdateRequest where
  username : Option String
  email : Option String
  password : Option String
  role : Option UserRole
  status : Option UserStatus
  mustChangePassword : Option Bool
  deriving DecidableEq, Repr

/-- A name an administrator gives. -/
def normalizeUpdatedUsername (username : String) : Except AsterError String := do
  validateUsername username
  validateReservedUsername username
  pure (trim username)

/-- A password an administrator gives, hashed. -/
def hashUpdatedPassword (lib : Library) (password : String) :
    Except AsterError String := do
  validatePassword password
  lib.hashPassword password

/-- `Option::map(f).transpose()`. -/
def transposeMap {α β : Type} (f : α → Except AsterError β) :
    Option α → Except AsterError (Option β)
  | none => .ok none
  | some a => (f a).map some

/-- `update_user` of `admin_user_service`. -/
def adminUpdateUser (lib : Library) (id : Nat) (req : AdminUpdateRequest) :
    OnConnection User := do
  let existing ← ofDb (userFindById id)
  rejectIf (id = superAdminUserId &&
      (req.role.any (fun r => r ≠ existing.role) ||
        req.status.any fun st => st ≠ existing.status))
    (.authForbidden none
      "super administrator role, status, and permissions cannot be changed")
  let username ← checked (transposeMap normalizeUpdatedUsername req.username)
  let email ← checked (transposeMap lib.normalizeEmail req.email)
  let passwordHash ← checked (transposeMap (hashUpdatedPassword lib) req.password)
  ofService (withTransaction (.updateUser id
    { username := username
      email := email
      passwordHash := passwordHash
      role := some (req.role.getD existing.role)
      status := req.status
      mustChangePassword := req.mustChangePassword }))

/-- Everything that creates, renames or deletes an account or a profile. -/
inductive AccountCall
  | flow (call : FlowCall)
  | setupFirstAdmin (publicUuid username email password : String)
  | register (policy : AuthPolicy) (publicUuid username email password : String)
  | acceptInvitation (policy : AuthPolicy) (publicUuid token username password : String)
  | adminCreateUser (req : AdminCreateRequest)
  | adminUpdateUser (id : Nat) (req : AdminUpdateRequest)
  | adminDeleteUser (id : Nat)
  | createProfile (ctx : ProfileContext) (userId : Nat) (userRole : UserRole)
      (name : String)
  | renameProfile (policy : RuntimeYggdrasilPolicy) (userId : Nat) (uuid newName : String)
  | adminRenameProfile (policy : RuntimeYggdrasilPolicy) (uuid newName : String)
  | deleteProfile (userId : Nat) (uuid : String)
  | wait (ms : Nat)

/-- The program of a call; its answer is not looked at. -/
def AccountCall.body (lib : Library) : AccountCall → ExternalProg Unit
  | .flow call => do
      let _ ← call.body lib
  | .setupFirstAdmin publicUuid username email password => do
      let _ ← onDb (External.setupFirstAdmin lib publicUuid username email password)
  | .register policy publicUuid username email password => do
      let _ ← External.register lib policy publicUuid username email password
  | .acceptInvitation policy publicUuid token username password => do
      let _ ← External.acceptInvitation lib policy publicUuid token username password
  | .adminCreateUser req => do
      let _ ← External.adminCreateUser lib req
  | .adminUpdateUser id req => do
      let _ ← onDb (External.adminUpdateUser lib id req)
  | .adminDeleteUser id => onDb (ofService (deleteUser id))
  | .createProfile ctx userId userRole name => do
      let _ ← onDb (ofService (AsterYggdrasil.createProfile ctx userId userRole name))
  | .renameProfile policy userId uuid newName => do
      let _ ← onDb (ofService (renameProfileForUser policy userId uuid newName))
  | .adminRenameProfile policy uuid newName => do
      let _ ← onDb (ofService (AsterYggdrasil.adminRenameProfile policy uuid newName))
  | .deleteProfile userId uuid => do
      let _ ← onDb (ofService (deleteProfileForUser userId uuid))
  | .wait ms => onDb (onConn (.service (.db (.advanceClock ms))))

/-! ## A site without accounts -/

/-- A database without accounts, with its providers and invitations. -/
def AccountState.fresh (providers : Table providerSchema)
    (invitations : Table invitationSchema) (now : Nat) : AccountState where
  service :=
    { db :=
        { users := .empty
          profiles := .empty
          tokens := .empty
          bans := .empty
          profileTextures := []
          forwardServers := []
          now := now }
      tokenCache := fun _ => none
      joinCache := fun _ => none
      forwardCache := none
      nameSummaries := fun _ => none }
  pendingEmail := fun _ => none
  invitations := invitations
  providers := providers
  identities := .empty
  loginFlows := .empty
  bindingFlows := .empty
  emailFlows := .empty

/-- The libraries of small runs: everything is well-formed, and a hash is its
input with a mark. -/
def plainLibrary : Library where
  normalizeEmail := .ok
  hashPassword password := .ok ("$argon2id$" ++ password)
  verifyPassword password hash := .ok (hash = "$argon2id$" ++ password)
  sha256Hex s := "sha256:" ++ s
  stateHash s := "state:" ++ s
  tokenHash s := "token:" ++ s
  normalizeProviderKey := .ok
  normalizeFlowToken := .ok
  normalizeReturnPath path := .ok (path.getD "/")
  emailDomainAllowed _ _ := .ok true

/-- A provider of small runs. -/
def plainProvider (id : Nat) (kind : ProviderKind) : Provider where
  id := id
  key := "p"
  kind := kind
  options := ⟨some ⟨0, true⟩, true, true⟩
  clientSecret := some "secret"
  enabled := true
  autoProvisionEnabled := true
  autoLinkVerifiedEmailEnabled := true
  requireEmailVerified := false
  allowedDomains := none

/-- What small runs draw. -/
def plainProvision : ProvisionContext where
  policy := ⟨true, true, false, fun _ => .ok ()⟩
  password _ := "drawn password"
  usernameSuffix _ := "a1b2"
  publicUuid n := "uuid" ++ toString n

/-- The profile policy of small runs, with one uuid to draw. -/
def plainProfile : ProfileContext :=
  ⟨⟨true, 7, 10, 3, 3, false, ""⟩, "profile", fun _ => .ok false⟩

/-- The callback of small runs. -/
def plainCallback (kind : ProviderKind) : CallbackRequest :=
  ⟨kind, none, none, none, some "code", some "state"⟩

/-- The start of a login of small runs. -/
def plainStart (kind : ProviderKind) : FlowCall :=
  .startLogin kind "p" none fun _ => .ok ⟨"state", none, none, "/callback", 0⟩

end AsterYggdrasil.External
