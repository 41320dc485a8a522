import AsterYggdrasil.Yggdrasil.Service

/-!
# The authentication endpoints

`authenticate`, `refresh`, `validate`, `invalidate` and `signout` of the
protocol, statement by statement in the order of `auth.rs`.  Password
verification is the cryptography library's; it enters as a parameter.  The
runtime policy and the random values a call draws are part of its request.
-/

namespace AsterYggdrasil

open Interleave Relational

/-- `char::is_whitespace`. -/
def isWhitespace (c : Char) : Bool :=
  let n := c.toNat
  (9 ≤ n && n ≤ 13) || n = 32 || n = 0x85 || n = 0xA0 || n = 0x1680 ||
    (0x2000 ≤ n && n ≤ 0x200A) || n = 0x2028 || n = 0x2029 || n = 0x202F ||
    n = 0x205F || n = 0x3000

/-- `str::trim` leaves nothing. -/
def isBlank (s : String) : Bool := s.toList.all isWhitespace

/-- `YggdrasilUser`. -/
structure YggdrasilUser where
  id : String
  properties : List ProfileProperty
  deriving DecidableEq, Repr

structure Agent where
  name : String
  version : Int
  deriving DecidableEq, Repr

/-- What every request carries besides its body: the policy in force, the
client's user agent and address, and the short tokens the call draws. -/
structure RequestContext where
  policy : RuntimeYggdrasilPolicy
  userAgent : Option String
  ipAddress : Option String
  newAccessToken : String
  newClientToken : String
  deriving DecidableEq, Repr

structure AuthenticateReq where
  username : String
  password : String
  clientToken : Option String
  agent : Option Agent
  requestUser : Bool
  deriving DecidableEq, Repr

structure RefreshReq where
  accessToken : String
  clientToken : Option String
  selectedProfile : Option String
  requestUser : Bool
  deriving DecidableEq, Repr

structure TokenReq where
  accessToken : String
  clientToken : Option String
  deriving DecidableEq, Repr

structure AuthenticateResp where
  accessToken : String
  clientToken : String
  availableProfiles : List YggdrasilProfile
  selectedProfile : Option YggdrasilProfile
  user : Option YggdrasilUser
  deriving DecidableEq, Repr

structure RefreshResp where
  accessToken : String
  clientToken : String
  selectedProfile : Option YggdrasilProfile
  user : Option YggdrasilUser
  deriving DecidableEq, Repr

/-- `profile_summary`. -/
def profileSummary (p : MinecraftProfile) : YggdrasilProfile :=
  ⟨p.uuid, p.name, none, none⟩

/-- `user_info`. -/
def userInfo (u : User) : YggdrasilUser := ⟨u.publicUuid, []⟩

/-- `is_email_activation_satisfied`. -/
def isEmailActivationSatisfied (u : User) : Bool :=
  (match u.email with
    | none => true
    | some email => isBlank email) || u.emailVerifiedAt.isSome

structure LoginTarget where
  user : User
  forcedProfile : Option MinecraftProfile

/-- `resolve_login_target`. -/
def resolveLoginTarget (identifier : String) (policy : RuntimeYggdrasilPolicy) :
    Service LoginTarget := do
  match ← query (.userFindByIdentifier identifier) with
  | some user => pure ⟨user, none⟩
  | none =>
      Prog.rejectIf (!policy.allowProfileNameLogin) (.new .invalidCredentials)
      match ← query (.profileFindByName identifier) with
      | none => .err (.new .invalidCredentials)
      | some profile => do
          let user ← onPool .ofAster (userFindById profile.userId)
          pure ⟨user, some profile⟩

/-- The profile a new token is bound to: the one named at login, or the only
one the user has. -/
def selectProfile (forced : Option MinecraftProfile)
    (profiles : List MinecraftProfile) : Option Nat :=
  match forced with
  | some profile => some profile.id
  | none =>
      match profiles with
      | [profile] => some profile.id
      | _ => none

/-- The arguments the endpoints pass to the token issuer. -/
def RequestContext.issueArgs (ctx : RequestContext) (userId : Nat)
    (clientToken : String) (selectedProfileId : Option Nat) : IssueToken where
  userId := userId
  clientToken := clientToken
  selectedProfileId := selectedProfileId
  tokenTtlDays := ctx.policy.tokenTtlDays
  maxActiveTokens := ctx.policy.maxActiveTokens
  userAgent := ctx.userAgent
  ipAddress := ctx.ipAddress
  accessTokenHash := ctx.newAccessToken

/-- `client_token.filter(non-blank).unwrap_or_else(new_short_token)`. -/
def chooseClientToken (ctx : RequestContext) : Option String → String
  | some token => if isBlank token then ctx.newClientToken else token
  | none => ctx.newClientToken

section Endpoints

-- `verify_password` of the cryptography library
variable (verifyPassword : String → String → Except AsterError Bool)

/-- A wrong password and a stored hash that cannot be read. -/
def checkPassword (password : String) (user : User) : Service Unit :=
  match verifyPassword password user.passwordHash with
  | .error e => .err (.ofAster e)
  | .ok valid => Prog.rejectIf (!valid) (.new .invalidCredentials)

/-- `authenticate`. -/
def authenticate (body : AuthenticateReq) (ctx : RequestContext) :
    Service AuthenticateResp := do
  Prog.rejectIf (isBlank body.username || body.password.isEmpty)
    (.new .invalidCredentials)
  Prog.rejectIf (body.agent.any fun a => a.name ≠ "Minecraft" || a.version ≠ 1)
    (.new .unsupportedAgent)
  let target ← resolveLoginTarget body.username ctx.policy
  Prog.rejectIf (!target.user.status.isActive) (.new .invalidCredentials)
  Prog.rejectIf (!isEmailActivationSatisfied target.user) (.new .invalidCredentials)
  checkPassword verifyPassword body.password target.user
  let banned ← isUserBanned target.user.id .yggdrasilAccess
  Prog.rejectIf banned (.new .invalidCredentials)
  let profiles ← query (.profileListByUser target.user.id)
  let selectedProfileId := selectProfile target.forcedProfile profiles
  let clientToken := chooseClientToken ctx body.clientToken
  let issued ← issueToken (ctx.issueArgs target.user.id clientToken selectedProfileId)
  let selectedProfile :=
    selectedProfileId.bind fun id => profiles.find? fun p => p.id = id
  pure
    { accessToken := issued.accessTokenHash
      clientToken := clientToken
      availableProfiles := profiles.map profileSummary
      selectedProfile := selectedProfile.map profileSummary
      user := if body.requestUser then some (userInfo target.user) else none }

/-- `signout`. -/
def signout (username password : String) (policy : RuntimeYggdrasilPolicy) :
    Service Unit := do
  let target ← resolveLoginTarget username policy
  Prog.rejectIf (!target.user.status.isActive) (.new .invalidCredentials)
  checkPassword verifyPassword password target.user
  revokeAllForUser target.user.id

end Endpoints

/-- The profile the replacement token is bound to: a token without one may
select a profile of its user, a token with one keeps it. -/
def refreshSelection (existing : YggdrasilToken) (user : User) :
    Option String → Service (Option Nat)
  | none => pure existing.selectedProfileId
  | some selected => do
      Prog.rejectIf existing.selectedProfileId.isSome
        (.new .accessTokenAlreadyHasProfile)
      match ← query (.profileFindByUuid selected) with
      | none => .err (.new .forbiddenProfile)
      | some profile => do
          Prog.rejectIf (profile.userId ≠ user.id) (.new .forbiddenProfile)
          pure (some profile.id)

/-- `refresh`. -/
def refresh (body : RefreshReq) (ctx : RequestContext) : Service RefreshResp := do
  let existing ← refreshableToken body.accessToken body.clientToken
  let user ← onPool .ofAster (userFindById existing.userId)
  Prog.rejectIf (!user.status.isActive) (.new .invalidToken)
  let selectedProfileId ← refreshSelection existing user body.selectedProfile
  let issued ← refreshToken body.accessToken
    (ctx.issueArgs user.id existing.clientToken selectedProfileId)
  let selectedProfile ← loadSelectedProfile selectedProfileId
  pure
    { accessToken := issued.accessTokenHash
      clientToken := existing.clientToken
      selectedProfile := selectedProfile.map profileSummary
      user := if body.requestUser then some (userInfo user) else none }

/-- `validate`. -/
def validate (body : TokenReq) : Service Unit := do
  let _ ← activeToken body.accessToken body.clientToken
  pure ()

/-- `invalidate`; the client token of the request is not looked at. -/
def invalidate (body : TokenReq) : Service Unit := do
  let found ← (activeToken body.accessToken none).attempt
  let _ ← selectedProfileForToken found.toOption
  revokeByAccessToken body.accessToken

end AsterYggdrasil
