import AsterYggdrasil.Panel.Sessions

/-!
# Logging in to the panel

`login`, `refresh`, `logout` and the revocation of sessions, the check of an
access token, and the operations that invalidate all tokens of a user: password
changes, the reset by mail, the administrator's update and the administrator's
revocation.  Everything follows `auth_service.rs` and `admin_user_service.rs`
statement by statement.

A token enters as the claims that the JWT library decodes from it, or the error
it reports; the random ids a call draws are part of its request.
-/

namespace AsterYggdrasil.Panel

open Interleave Relational

inductive TokenType
  | access | refresh
  deriving DecidableEq, Repr

def TokenType.asStr : TokenType → String
  | .access => "access"
  | .refresh => "refresh"

/-- What a token says.  The subject repeats the user id and is left out. -/
structure AccessClaims where
  userId : Nat
  sessionVersion : Int
  jti : Option String
  passwordChange : Bool
  tokenType : TokenType
  exp : Nat
  deriving DecidableEq, Repr

/-- What `decode_claims` makes of a presented token. -/
abbrev Decoded := Except AsterError AccessClaims

/-- What a request carries besides its body: the policy in force, the client, and
the ids the call draws. -/
structure SessionContext where
  allowLocalLogin : Bool
  accessTokenTtlSecs : Nat
  refreshTokenTtlSecs : Nat
  userAgent : Option String
  peerIp : Option String
  newRefreshJti : String
  newSessionId : String
  deriving DecidableEq, Repr

inductive AuthTokenStatus
  | authenticated | passwordChangeRequired
  deriving DecidableEq, Repr

/-- `AuthTokenBundle`, with the claims of the tokens in place of their encoding. -/
structure AuthTokenBundle where
  access : AccessClaims
  refresh : AccessClaims
  expiresIn : Nat
  status : AuthTokenStatus
  user : User
  deriving DecidableEq, Repr

/-! ## Tokens -/

/-- `u64::MAX`. -/
def u64Max : Nat := 18446744073709551615

/-- `create_token`: the claims and the time at which they expire.  `Duration::seconds`
panics where the milliseconds do not fit an `i64`. -/
def createToken (now : Nat) (user : User) (tokenType : TokenType) (ttlSecs : Nat)
    (jti : Option String) (passwordChange : Bool) : Except AsterError (AccessClaims × Nat) :=
  if u64Max < now / 1000 + ttlSecs then
    .error (.internal s!"jwt exp overflow: {now / 1000} + {ttlSecs}")
  else if i64Max < ttlSecs then .error (.numberOutOfRange "jwt ttl secs")
  else if i64Max < ttlSecs * 1000 then .error .panicked
  else if maxUtc < now + ttlSecs * 1000 then .error (.internal "jwt expires_at overflow")
  else
    .ok (⟨user.id, user.sessionVersion, jti, passwordChange, tokenType,
      now / 1000 + ttlSecs⟩, now + ttlSecs * 1000)

/-- The two tokens and what the session row needs of them. -/
structure IssuedTokens where
  access : AccessClaims
  refresh : AccessClaims
  sessionId : String
  refreshJti : String
  refreshExpiresAt : Nat
  accessExpiresIn : Nat
  deriving DecidableEq, Repr

/-- `create_token_pair`. -/
def createTokenPair (ctx : SessionContext) (user : User) (sessionId : Option String)
    (passwordChange : Bool) (now : Nat) : Except AsterError IssuedTokens := do
  let (access, _) ← createToken now user .access ctx.accessTokenTtlSecs none passwordChange
  let (refresh, expiresAt) ← createToken now user .refresh ctx.refreshTokenTtlSecs
    (some ctx.newRefreshJti) passwordChange
  pure
    { access := access
      refresh := refresh
      sessionId := sessionId.getD ctx.newSessionId
      refreshJti := ctx.newRefreshJti
      refreshExpiresAt := expiresAt
      accessExpiresIn := ctx.accessTokenTtlSecs }

/-- A pure result in a program. -/
def lift {α : Type} : Except AsterError α → PanelProg α
  | .ok a => .ok a
  | .error e => .err e

def IssuedTokens.bundle (tokens : IssuedTokens) (status : AuthTokenStatus) (user : User) :
    AuthTokenBundle :=
  ⟨tokens.access, tokens.refresh, tokens.accessExpiresIn, status, user⟩

/-- `persist_auth_session`. -/
def persistAuthSession (ctx : SessionContext) (userId : Nat) (tokens : IssuedTokens) :
    PanelProg AuthSession := do
  let now ← utcNow
  create
    { id := tokens.sessionId
      userId := userId
      currentRefreshJti := tokens.refreshJti
      refreshExpiresAt := tokens.refreshExpiresAt
      userAgent := ctx.userAgent
      ipAddress := ctx.peerIp
      createdAt := now }

/-- `issue_tokens`. -/
def issueTokens (ctx : SessionContext) (user : User) : PanelProg AuthTokenBundle := do
  let now ← utcNow
  let tokens ← lift (createTokenPair ctx user none user.mustChangePassword now)
  let _ ← persistAuthSession ctx user.id tokens
  pure (tokens.bundle
    (if user.mustChangePassword then .passwordChangeRequired else .authenticated) user)

/-- `issue_tokens_for_user_id`. -/
def issueTokensForUserId (ctx : SessionContext) (userId : Nat) :
    PanelProg AuthTokenBundle := do
  let user ← onAccounts (userFindById userId)
  issueTokens ctx user

/-- `rotate_tokens`. -/
def rotateTokens (ctx : SessionContext) (user : User) (session : AuthSession) :
    PanelProg AuthTokenBundle := do
  let now ← utcNow
  let tokens ← lift (createTokenPair ctx user (some session.id) false now)
  let lastSeenAt ← utcNow
  let rotated ← rotateRefresh session.currentRefreshJti tokens.refreshJti
    { refreshExpiresAt := tokens.refreshExpiresAt
      ipAddress := ctx.peerIp.or session.ipAddress
      userAgent := ctx.userAgent.or session.userAgent
      lastSeenAt := lastSeenAt }
  Prog.rejectIf (!rotated) (.authTokenInvalid "refresh token is stale")
  pure (tokens.bundle .authenticated user)

/-- `ensure_token_type`. -/
def ensureTokenType (claims : AccessClaims) (expected : TokenType) : PanelProg Unit :=
  Prog.rejectIf (claims.tokenType ≠ expected)
    (.authTokenInvalid s!"not an {expected.asStr} token")

/-- The jti of a refresh token. -/
def requireJti (claims : AccessClaims) : PanelProg String :=
  required (.authTokenInvalid "refresh token missing jti") claims.jti

/-- The session of a presented jti, unless it is revoked. -/
def liveSession (jti : String) : PanelProg AuthSession := do
  match (← sql (.sessionFindByRefreshJti jti)).filter (·.revokedAt.isNone) with
  | some session => pure session
  | none => do
      let reused ← sql (.sessionFindByPreviousRefreshJti jti)
      if reused.isSome then .err (.authTokenInvalid "refresh token is stale")
      else .err (.authTokenInvalid "invalid refresh token")

/-- The check of an account that `refresh` and `current_user` share. -/
def ensureActive (user : User) : PanelProg Unit :=
  Prog.rejectIf (!user.status.isActive)
    (.authForbidden (some .authUserDisabled) "user is disabled")

/-- `refresh`. -/
def refresh (decoded : Decoded) (ctx : SessionContext) : PanelProg AuthTokenBundle := do
  let claims ← lift decoded
  ensureTokenType claims .refresh
  let jti ← requireJti claims
  let session ← liveSession jti
  let now ← utcNow
  Prog.rejectIf (session.refreshExpiresAt ≤ now) (.authTokenExpired "refresh token expired")
  Prog.rejectIf (session.userId ≠ claims.userId) (.authTokenInvalid "invalid refresh token")
  let user ← onAccounts (userFindById claims.userId)
  ensureActive user
  Prog.rejectIf (claims.sessionVersion ≠ user.sessionVersion)
    (.authTokenInvalid "session is stale")
  Prog.rejectIf (user.mustChangePassword || claims.passwordChange)
    (.authForbidden (some .authPasswordChangeRequired) "password change required")
  rotateTokens ctx user session

/-- The errors of a token that `logout` takes for "nothing to do". -/
def AsterError.isTokenError : AsterError → Bool
  | .authTokenExpired _ | .authTokenInvalid _ => true
  | _ => false

/-- Revoke the session whose current refresh token carries this jti. -/
def logoutJti (jti : String) : PanelProg Bool := do
  let _ ← sql (.sessionFindByRefreshJti jti)
  revokeByRefreshJti jti

/-- `logout`. -/
def logout : Decoded → PanelProg Bool
  | .error e => if AsterError.isTokenError e then .ok false else .err e
  | .ok claims =>
      if claims.tokenType ≠ .refresh then .ok false
      else
        match claims.jti with
        | none => .ok false
        | some jti => logoutJti jti

/-- `refresh_jti_from_token`. -/
def refreshJtiFromToken (decoded : Decoded) : PanelProg String := do
  let claims ← lift decoded
  ensureTokenType claims .refresh
  requireJti claims

/-- `optional_refresh_jti_from_token`. -/
def optionalRefreshJtiFromToken : Option Decoded → Option String
  | some (.ok claims) => if claims.tokenType = .refresh then claims.jti else none
  | _ => none

/-- `revoke_session`. -/
def revokeSession (userId : Nat) (sessionId : String) (current : Option Decoded) :
    PanelProg Bool := do
  let session ← required (.recordNotFoundCode .authSessionNotFound
      s!"auth session '{sessionId}'") (← sql (.sessionFindByIdForUser userId sessionId))
  let now ← utcNow
  let _ ← revokeByIdForUser userId sessionId now
  pure (optionalRefreshJtiFromToken current = some session.currentRefreshJti)

/-- `revoke_other_sessions`. -/
def revokeOtherSessions (userId : Nat) (current : Decoded) : PanelProg Nat := do
  let jti ← refreshJtiFromToken current
  let session ← required (.authTokenInvalid "missing current session")
    (← sql (.sessionFindByRefreshJti jti))
  Prog.rejectIf (session.userId ≠ userId)
    (.authForbidden (some .authSessionRevocationFailed)
      "current session does not belong to user")
  Prog.rejectIf session.revokedAt.isSome (.authTokenInvalid "missing current session")
  let now ← utcNow
  sql (.sessionRevokeAllForUserExceptId userId session.id now)

/-- `cleanup_expired_auth_sessions`. -/
def cleanupExpiredAuthSessions : PanelProg Nat := do
  let now ← utcNow
  sql (.sessionDeleteExpired now)

/-! ## Access tokens -/

/-- `current_user`; `allowed` is `password_change_request_allowed` of the request. -/
def currentUser (decoded : Decoded) (allowed : Bool) : PanelProg User := do
  let claims ← lift decoded
  ensureTokenType claims .access
  let user ← onAccounts (userFindById claims.userId)
  ensureActive user
  Prog.rejectIf (user.sessionVersion ≠ claims.sessionVersion)
    (.authTokenInvalid "session is stale")
  Prog.rejectIf (user.mustChangePassword && !claims.passwordChange)
    (.authTokenInvalid "password change required")
  Prog.rejectIf (!user.mustChangePassword && claims.passwordChange)
    (.authTokenInvalid "password change session is no longer valid")
  Prog.rejectIf (claims.passwordChange && !allowed)
    (.authForbidden (some .authPasswordChangeRequired) "password change required")
  pure user

/-! ## Passwords -/

/-- `validate_password`. -/
def validatePassword (password : String) : Except AsterError Unit :=
  if password.utf8ByteSize < 8 || 128 < password.utf8ByteSize then
    .error (.validation (some .authPasswordPolicyFailed) "password must be 8-128 characters")
  else .ok ()

/-- `i64::saturating_add(1)`. -/
def saturatingSucc (n : Int) : Int := min (n + 1) i64Max

section Passwords

-- `verify_password` and `hash_password` of the cryptography library
variable (verifyPassword : String → String → Except AsterError Bool)
  (hashPassword : String → Except AsterError String)

/-- `login`. -/
def login (identifier password : String) (ctx : SessionContext) :
    PanelProg AuthTokenBundle := do
  Prog.rejectIf (!ctx.allowLocalLogin)
    (.authForbidden (some .authLocalLoginDisabled)
      "local password login is disabled by administrator policy")
  let user ← required (.authInvalidCredentials "invalid credentials")
    (← sql (.db (.userFindByIdentifier identifier)))
  ensureActive user
  Prog.rejectIf (!isEmailActivationSatisfied user)
    (.authForbidden (some .authPendingActivation) "account email activation is pending")
  let valid ← lift (verifyPassword password user.passwordHash)
  Prog.rejectIf (!valid) (.authInvalidCredentials "invalid credentials")
  issueTokens ctx user

/-- The new hash, for a password that the policy accepts. -/
def acceptedHash (newPassword : String) : Except AsterError String := do
  validatePassword newPassword
  hashPassword newPassword

/-- The columns `update_password_in_connection` writes. -/
def passwordPatch (user : User) (hash : String) : UserPatch where
  username := none
  email := none
  passwordHash := some hash
  role := none
  status := none
  mustChangePassword := some false
  sessionVersion := some (saturatingSucc user.sessionVersion)

/-- `update_password_in_connection`. -/
def updatePasswordInConnection (user : User) (newPassword : String) : PanelProg User := do
  let hash ← lift (acceptedHash hashPassword newPassword)
  required .databaseOperation (← sql (.db (.userUpdate user.id (passwordPatch user hash))))

/-- A new password, and all sessions revoked. -/
def replacePassword (user : User) (newPassword : String) : PanelProg User := do
  let updated ← updatePasswordInConnection hashPassword user newPassword
  let _ ← sql (.sessionRevokeAllForUser updated.id)
  pure updated

/-- `change_password`. -/
def changePassword (userId : Nat) (currentPassword newPassword : String) :
    PanelProg User := do
  let user ← onAccounts (userFindById userId)
  ensureActive user
  Prog.rejectIf (!isEmailActivationSatisfied user)
    (.authForbidden (some .authPendingActivation) "account email activation is pending")
  let valid ← lift (verifyPassword currentPassword user.passwordHash)
  Prog.rejectIf (!valid) (.authInvalidCredentials "wrong password")
  Prog.rejectIf (currentPassword = newPassword)
    (.validation none "new password must be different from current password")
  replacePassword hashPassword user newPassword

/-- `set_local_password`. -/
def setLocalPassword (userId : Nat) (newPassword : String) : PanelProg User := do
  let user ← onAccounts (userFindById userId)
  ensureActive user
  let external ← sql (.externalIdentityExists userId)
  Prog.rejectIf (!external)
    (.authForbidden (some .forbidden)
      "local password setup is only allowed for external auth accounts")
  let same ← lift (verifyPassword newPassword user.passwordHash)
  Prog.rejectIf same
    (.validation none "new password must be different from current password")
  replacePassword hashPassword user newPassword

/-- `confirm_password_reset`.  When hashing the new password fails after the link
was marked, the transaction is rolled back; so it is tried before the mark here. -/
def confirmPasswordReset (tokenHash newPassword : String) : PanelProg User := do
  lift (validatePassword newPassword)
  let record ← required
    (.validation (some .contactVerificationInvalid) "password reset link is invalid")
    (← sql (.contactTokenFindByHash tokenHash))
  Prog.rejectIf (record.purpose ≠ .passwordReset)
    (.validation (some .contactVerificationInvalid) "password reset link is invalid")
  Prog.rejectIf record.consumedAt.isSome
    (.validation (some .contactVerificationInvalid)
      "password reset link has already been used")
  let now ← utcNow
  Prog.rejectIf (record.expiresAt ≤ now)
    (.gone .contactVerificationExpired "password reset link has expired")
  let user ← onAccounts (userFindById record.userId)
  ensureActive user
  Prog.rejectIf (user.emailVerifiedAt.isNone || user.email ≠ some record.target)
    (.validation (some .contactVerificationInvalid)
      "password reset request no longer exists")
  let _ ← lift (acceptedHash hashPassword newPassword)
  let consumed ← sql (.contactTokenMarkConsumed record.id)
  Prog.rejectIf (!consumed)
    (.validation (some .contactVerificationInvalid)
      "password reset link has already been used")
  updatePasswordInConnection hashPassword user newPassword

end Passwords

/-! ## Administration -/

/-- `update_user`, for a request without operator scopes, from the normalised
input on. -/
def updateUser (id : Nat) (input : AdminUpdateUser) : PanelProg User := do
  let existing ← onAccounts (userFindById id)
  Prog.rejectIf (id = superAdminUserId &&
      (input.role.any (fun r => r ≠ existing.role) ||
        input.status.any fun st => st ≠ existing.status))
    (.authForbidden none
      "super administrator role, status, and permissions cannot be changed")
  onAccounts (updateUserTxn id { input with role := some (input.role.getD existing.role) })

/-- `user_repo::bump_session_version`. -/
def bumpSessionVersion (userId : Nat) : PanelProg Unit := do
  let user ← onAccounts (userFindById userId)
  let _ ← required .databaseOperation
    (← sql (.db (.userUpdate userId
      { username := none
        email := none
        passwordHash := none
        role := none
        status := none
        mustChangePassword := none
        sessionVersion := some (i64Add user.sessionVersion 1) })))

/-- `revoke_user_sessions`. -/
def revokeUserSessions (userId : Nat) : PanelProg Nat := do
  let _ ← onAccounts (userFindById userId)
  bumpSessionVersion userId
  sql (.sessionRevokeAllForUser userId)

/-- `delete_user`, on the tables of the panel. -/
def deleteUser (userId : Nat) : PanelProg Unit := do
  Prog.rejectIf (userId = superAdminUserId)
    (.authForbidden none "super administrator cannot be deleted")
  let _ ← onAccounts (userFindById userId)
  let _ ← sql (.sessionRevokeAllForUser userId)
  let _ ← onAccounts (userFindById userId)
  sql (.db (.userDelete userId))

/-! ## Everything a client can ask -/

/-- One request to the panel. -/
inductive Request
  | login (identifier password : String) (ctx : SessionContext)
  | issueTokensForUserId (userId : Nat) (ctx : SessionContext)
  | refresh (decoded : Decoded) (ctx : SessionContext)
  | logout (decoded : Decoded)
  | revokeSession (userId : Nat) (sessionId : String) (current : Option Decoded)
  | revokeOtherSessions (userId : Nat) (current : Decoded)
  | currentUser (decoded : Decoded) (allowed : Bool)
  | changePassword (userId : Nat) (currentPassword newPassword : String)
  | setLocalPassword (userId : Nat) (newPassword : String)
  | confirmPasswordReset (tokenHash newPassword : String)
  | updateUser (id : Nat) (input : AdminUpdateUser)
  | revokeUserSessions (userId : Nat)
  | deleteUser (userId : Nat)
  | cleanupExpired
  | wait (ms : Nat)

/-- What a request answers. -/
inductive Reply
  | tokens (bundle : AuthTokenBundle)
  | flag (value : Bool)
  | count (value : Nat)
  | user (user : User)
  | done
  deriving DecidableEq, Repr

/-- The program of a request. -/
def Request.body (verifyPassword : String → String → Except AsterError Bool)
    (hashPassword : String → Except AsterError String) : Request → PanelProg Reply
  | .login identifier password ctx => do
      pure (.tokens (← Panel.login verifyPassword identifier password ctx))
  | .issueTokensForUserId userId ctx => do
      pure (.tokens (← Panel.issueTokensForUserId ctx userId))
  | .refresh decoded ctx => do pure (.tokens (← Panel.refresh decoded ctx))
  | .logout decoded => do pure (.flag (← Panel.logout decoded))
  | .revokeSession userId sessionId current => do
      pure (.flag (← Panel.revokeSession userId sessionId current))
  | .revokeOtherSessions userId current => do
      pure (.count (← Panel.revokeOtherSessions userId current))
  | .currentUser decoded allowed => do pure (.user (← Panel.currentUser decoded allowed))
  | .changePassword userId current new => do
      pure (.user (← Panel.changePassword verifyPassword hashPassword userId current new))
  | .setLocalPassword userId new => do
      pure (.user (← Panel.setLocalPassword verifyPassword hashPassword userId new))
  | .confirmPasswordReset tokenHash new => do
      pure (.user (← Panel.confirmPasswordReset hashPassword tokenHash new))
  | .updateUser id input => do pure (.user (← Panel.updateUser id input))
  | .revokeUserSessions userId => do pure (.count (← Panel.revokeUserSessions userId))
  | .deleteUser userId => do Panel.deleteUser userId; pure .done
  | .cleanupExpired => do pure (.count (← cleanupExpiredAuthSessions))
  | .wait ms => do sql (.db (.advanceClock ms)); pure .done

end AsterYggdrasil.Panel
