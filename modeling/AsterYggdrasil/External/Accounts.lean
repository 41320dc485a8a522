import AsterYggdrasil.External.Database

/-!
# Creating accounts

The validation of user names, emails and passwords, and the ways an account row
comes to be: `create_user_with_options` for local accounts, the two functions of
`auth_service::shared` for everything else, the administrator's form and the
acceptance of an invitation.  Each is written for one connection, which may be
the pool or a transaction.

Email normalisation, hashing and the normalisers of the login library are
third-party code; they enter as the fields of `Library`.
-/

namespace AsterYggdrasil.External

open Interleave Relational

/-- The libraries the account functions rest on. -/
structure Library where
  normalizeEmail : String → Except AsterError String
  hashPassword : String → Except AsterError String
  verifyPassword : String → String → Except AsterError Bool
  sha256Hex : String → String
  stateHash : String → String
  tokenHash : String → String
  normalizeProviderKey : String → Except AsterError String
  normalizeFlowToken : String → Except AsterError String
  normalizeReturnPath : Option String → Except AsterError String
  emailDomainAllowed : Option String → String → Except AsterError Bool

/-- The part of `RuntimeAuthPolicy` and `LocalEmailPolicy` the modelled functions
read. -/
structure AuthPolicy where
  allowUserRegistration : Bool
  allowLocalRegistration : Bool
  registerActivationEnabled : Bool
  checkLocalEmail : String → Except AsterError Unit

/-! ## Validation -/

/-- `str::trim`, on characters. -/
def trimChars (cs : List Char) : List Char :=
  ((cs.dropWhile isWhitespace).reverse.dropWhile isWhitespace).reverse

/-- `str::trim`. -/
def trim (s : String) : String := String.ofList (trimChars s.toList)

/-- `validate_username`. -/
def validateUsername (username : String) : Except AsterError Unit :=
  let username := trim username
  if username.utf8ByteSize < 4 then
    .error (.validation none "username must be 4-16 characters")
  else if 16 < username.utf8ByteSize then
    .error (.validation none "username must be 4-16 characters")
  else if username.toList.all fun c => isAsciiAlphanumeric c || c = '_' || c = '-' then
    .ok ()
  else
    .error (.validation none
      "username may only contain letters, numbers, underscores and hyphens")

/-- `validate_reserved_username`. -/
def validateReservedUsername (username : String) : Except AsterError Unit :=
  if isReservedLinuxdoProfileName (trim username) then
    .error (.validation none "username is reserved for LinuxDO identities")
  else .ok ()

/-- `validate_password`. -/
def validatePassword (password : String) : Except AsterError Unit :=
  if password.utf8ByteSize < 8 || 128 < password.utf8ByteSize then
    .error (.validation (some .authPasswordPolicyFailed)
      "password must be 8-128 characters")
  else .ok ()

/-- `validate_identity_input` of `auth_service`. -/
def validateIdentityInput (lib : Library) (username email password : String) :
    Except AsterError String := do
  validateUsername username
  let email ← lib.normalizeEmail email
  validatePassword password
  pure email

/-- `validate_identity_input` of `admin_user_service`, which also refuses
reserved names. -/
def validateAdminIdentityInput (lib : Library) (username email password : String) :
    Except AsterError String := do
  validateUsername username
  validateReservedUsername username
  let email ← lib.normalizeEmail email
  validatePassword password
  pure email

/-! ## Inserting an account -/

/-- `user_repo::create_with_options`.  `publicUuid` is what `unique_public_uuid`
draws. -/
def userCreateWithOptions (publicUuid username email passwordHash : String)
    (role : UserRole) (status : UserStatus) (mustChangePassword : Bool) :
    OnConnection User := do
  let now ← utcNow
  let row ← onConn (.userCreate
    { publicUuid := publicUuid
      username := username
      email := some email
      passwordHash := passwordHash
      role := role
      emailVerifiedAt := some now
      status := status
      mustChangePassword := mustChangePassword })
  required .databaseOperation row

/-- `create_user_with_options` of `auth_service`.  The name is validated without
its surrounding blanks and stored with them. -/
def createUserWithOptions (lib : Library) (publicUuid username email password : String)
    (role : UserRole) (status : UserStatus) (mustChangePassword : Bool) :
    OnConnection User := do
  let email ← checked (validateIdentityInput lib username email password)
  checked (validateReservedUsername username)
  ofDb (ensureUsernameAvailable username none)
  let passwordHash ← checked (lib.hashPassword password)
  userCreateWithOptions publicUuid username email passwordHash role status
    mustChangePassword

/-- `create_user`. -/
def createUser (lib : Library) (publicUuid username email password : String)
    (role : UserRole) : OnConnection User :=
  createUserWithOptions lib publicUuid username email password role .active false

/-- `CreateUserWithRoleInput`, with the uuid the call draws. -/
structure CreateUserWithRole where
  publicUuid : String
  username : String
  email : String
  password : String
  role : UserRole
  status : UserStatus
  mustChangePassword : Bool
  emailVerifiedAt : Option Nat
  allowReservedLinuxdoUsername : Bool
  deriving DecidableEq, Repr

/-- The checks of a name before an account is created under it. -/
def checkNewUsername (username : String) (allowReserved : Bool) : OnConnection Unit := do
  checked (validateUsername username)
  if allowReserved then pure () else checked (validateReservedUsername username)

/-- The email is neither in use nor about to be. -/
def ensureEmailUnclaimed (email : String) : OnConnection Unit := do
  let taken ← onConn (.userFindByEmail email)
  rejectIf taken.isSome (.validation (some .authEmailExists) "email already exists")
  let pending ← onConn (.userFindByPendingEmail email)
  rejectIf pending.isSome (.validation (some .authEmailExists) "email already exists")

/-- `shared::create_user_with_role`. -/
def createUserWithRole (lib : Library) (input : CreateUserWithRole) :
    OnConnection User := do
  checkNewUsername input.username input.allowReservedLinuxdoUsername
  let email ← checked (lib.normalizeEmail input.email)
  let _ ← checked (lib.normalizeEmail email)
  checked (validatePassword input.password)
  ofDb (ensureUsernameAvailable input.username none)
  ensureEmailUnclaimed email
  let passwordHash ← checked (lib.hashPassword input.password)
  let row ← onConn (.userCreate
    { publicUuid := input.publicUuid
      username := input.username
      email := some email
      passwordHash := passwordHash
      role := input.role
      emailVerifiedAt := input.emailVerifiedAt
      status := input.status
      mustChangePassword := input.mustChangePassword })
  required .databaseOperation row

/-- `CreateUserWithoutEmailWithRoleInput`, with the uuid the call draws. -/
structure CreateUserWithoutEmail where
  publicUuid : String
  username : String
  password : String
  role : UserRole
  status : UserStatus
  mustChangePassword : Bool
  allowReservedLinuxdoUsername : Bool
  deriving DecidableEq, Repr

/-- `shared::create_user_without_email_with_role`. -/
def createUserWithoutEmailWithRole (lib : Library) (input : CreateUserWithoutEmail) :
    OnConnection User := do
  checkNewUsername input.username input.allowReservedLinuxdoUsername
  checked (validatePassword input.password)
  ofDb (ensureUsernameAvailable input.username none)
  let passwordHash ← checked (lib.hashPassword input.password)
  let row ← onConn (.userCreate
    { publicUuid := input.publicUuid
      username := input.username
      email := none
      passwordHash := passwordHash
      role := input.role
      emailVerifiedAt := none
      status := input.status
      mustChangePassword := input.mustChangePassword })
  required .databaseOperation row

/-! ## The administrator's form -/

/-- `AdminCreateUserInput` after validation, with the drawn uuid. -/
structure AdminCreateUser where
  publicUuid : String
  username : String
  email : String
  passwordHash : String
  role : UserRole
  status : UserStatus
  mustChangePassword : Bool
  deriving DecidableEq, Repr

/-- The transaction of `create_user` of `admin_user_service`; the name is stored
without its surrounding blanks. -/
def adminCreateUserTxn (input : AdminCreateUser) : OnConnection User := do
  ofDb (ensureUsernameAvailable (trim input.username) none)
  userCreateWithOptions input.publicUuid (trim input.username) input.email
    input.passwordHash input.role input.status input.mustChangePassword

/-! ## Invitations -/

/-- `invitation_status_error`. -/
def invitationStatusError : InvitationStatus → AsterError
  | .pending =>
      .validation (some .authInvitationInvalid) "invitation is not usable"
  | .accepted =>
      .validation (some .authInvitationAccepted) "invitation has already been accepted"
  | .expired =>
      .validation (some .authInvitationExpired) "invitation has expired"
  | .revoked =>
      .validation (some .authInvitationRevoked) "invitation has been revoked"

/-- `invitation_invalid_error`. -/
def invitationInvalidError : AsterError :=
  .validation (some .authInvitationInvalid) "invitation token is invalid"

/-- `user_invitation_repo::find_by_id`. -/
def invitationFindById (id : Nat) : OnConnection Invitation := do
  required (.recordNotFound s!"user invitation #{id}")
    (← onConn (.invitationFindById id))

/-- `current_invitation_status_error`, as a failure. -/
def currentInvitationStatusError {α : Type} (id : Nat) : OnConnection α := do
  let invitation ← invitationFindById id
  .err (.aster (invitationStatusError invitation.status))

/-- `refresh_expired_status`. -/
def refreshExpiredStatus (invitation : Invitation) : OnConnection Invitation := do
  if invitation.status = .pending then
    let now ← utcNow
    if invitation.expiresAt ≤ now then
      let marked ← onConn (.invitationMarkExpiredIfPending invitation.id)
      if marked then pure { invitation with status := .expired }
      else invitationFindById invitation.id
    else pure invitation
  else pure invitation

/-- `ensure_invitation_not_expired`. -/
def ensureInvitationNotExpired (invitation : Invitation) : OnConnection Unit := do
  let now ← utcNow
  if now < invitation.expiresAt then pure ()
  else
    let marked ← onConn (.invitationMarkExpiredIfPending invitation.id)
    if marked then .err (.aster (invitationStatusError .expired))
    else currentInvitationStatusError invitation.id

/-- What an acceptance brings along. -/
structure AcceptInvitation where
  tokenHash : String
  username : String
  password : String
  publicUuid : String
  deriving DecidableEq, Repr

/-- The transaction of `accept_invitation`. -/
def acceptInvitationTxn (lib : Library)
    (checkLocalEmail : String → Except AsterError Unit) (input : AcceptInvitation) :
    OnConnection User := do
  let found ← onConn (.invitationFindByTokenHash input.tokenHash)
  let invitation ← required invitationInvalidError found
  let invitation ← refreshExpiredStatus invitation
  rejectIf (invitation.status ≠ .pending) (invitationStatusError invitation.status)
  ensureInvitationNotExpired invitation
  checked (checkLocalEmail invitation.email)
  let taken ← onConn (.userFindByEmail invitation.email)
  rejectIf taken.isSome (.validation (some .authEmailExists) "email already exists")
  let now ← utcNow
  let user ← createUserWithRole lib
    { publicUuid := input.publicUuid
      username := input.username
      email := invitation.email
      password := input.password
      role := .user
      status := .active
      mustChangePassword := false
      emailVerifiedAt := some now
      allowReservedLinuxdoUsername := false }
  let marked ← onConn (.invitationMarkAcceptedIfPending invitation.id user.id)
  if marked then pure user else currentInvitationStatusError invitation.id

end AsterYggdrasil.External
