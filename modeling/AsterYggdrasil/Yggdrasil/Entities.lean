import AsterYggdrasil.Relational.Table

/-!
# Entities

The rows the protocol service works on, with the columns its functions read or
write, and the unique indexes the migrations put on them.  Ids are database
ids, times are milliseconds on one clock, and an access token is named by its
SHA-256 hash, which is all the server ever stores of it.
-/

namespace AsterYggdrasil

open Relational

inductive UserRole
  | admin | operator | user
  deriving DecidableEq, Repr

inductive UserStatus
  | active | disabled
  deriving DecidableEq, Repr

inductive UserBanScope
  | yggdrasilAccess | yggdrasilJoin | minecraftProfileManage | textureUpload
  | textureLibraryInteract
  deriving DecidableEq, Repr

inductive UserBanStatus
  | active | revoked | expired
  deriving DecidableEq, Repr

inductive MinecraftProfileSource
  | localProfile | microsoft
  deriving DecidableEq, Repr

inductive MinecraftTextureModel
  | default | slim
  deriving DecidableEq, Repr

/-- `YggdrasilSessionForwardProviderKind`. -/
inductive ForwardProviderKind
  | localProvider | remote
  deriving DecidableEq, Repr

/-- `YggdrasilSessionForwardEndpointKind`. -/
inductive ForwardEndpointKind
  | authlibInjector | mojangSession
  deriving DecidableEq, Repr

/-- A row of `users`. -/
structure User where
  id : Nat
  publicUuid : String
  username : String
  email : Option String
  passwordHash : String
  role : UserRole
  status : UserStatus
  mustChangePassword : Bool
  sessionVersion : Int
  emailVerifiedAt : Option Nat
  deriving DecidableEq, Repr

/-- A row of `minecraft_profiles`. -/
structure MinecraftProfile where
  id : Nat
  userId : Nat
  uuid : String
  name : String
  normalizedName : String
  source : MinecraftProfileSource
  textureModel : MinecraftTextureModel
  uploadableTextures : String
  renameCount : Int32
  createdAt : Nat
  updatedAt : Nat
  deriving DecidableEq, Repr

/-- A row of `yggdrasil_tokens`. -/
structure YggdrasilToken where
  id : Nat
  userId : Nat
  accessTokenHash : String
  clientToken : String
  selectedProfileId : Option Nat
  issuedAt : Nat
  expiresAt : Nat
  revokedAt : Option Nat
  temporarilyInvalidatedAt : Option Nat
  userAgent : Option String
  ipAddress : Option String
  deriving DecidableEq, Repr

/-- A row of `user_bans`. -/
structure UserBan where
  id : Nat
  userId : Nat
  scopes : List UserBanScope
  status : UserBanStatus
  startsAt : Nat
  expiresAt : Option Nat
  createdAt : Nat
  deriving DecidableEq, Repr

/-- A row of `yggdrasil_session_forward_servers`. -/
structure ForwardServer where
  id : Nat
  providerKind : ForwardProviderKind
  endpointKind : ForwardEndpointKind
  enabled : Bool
  priority : Int
  weight : Int
  textureForwardEnabled : Bool
  deriving DecidableEq, Repr

/-- `YggdrasilProfileProperty`. -/
structure ProfileProperty where
  name : String
  value : String
  signature : Option String
  deriving DecidableEq, Repr

/-- `YggdrasilProfile`: what a game server or a launcher sees of a profile. -/
structure YggdrasilProfile where
  id : String
  name : String
  source : Option MinecraftProfileSource
  properties : Option (List ProfileProperty)
  deriving DecidableEq, Repr

/-- `YggdrasilJoinSession`: what `join` leaves in the cache. -/
structure JoinSession where
  profileId : Nat
  profileUuid : String
  profileName : String
  serverId : String
  ipAddress : Option String
  deriving DecidableEq, Repr

def UserRole.isAdmin : UserRole → Bool
  | .admin => true
  | _ => false

def UserStatus.isActive : UserStatus → Bool
  | .active => true
  | .disabled => false

/-- `effective_condition`. -/
def UserBan.effectiveAt (b : UserBan) (now : Nat) : Bool :=
  b.status = .active && b.startsAt ≤ now &&
    (match b.expiresAt with
      | none => true
      | some e => now < e)

/-- `str::to_ascii_lowercase`. -/
def toAsciiLowercase (s : String) : String :=
  String.ofList (s.toList.map Char.toLower)

/-- `normalize_profile_name`. -/
def normalizeProfileName (name : String) : String := toAsciiLowercase name

/-! ## Unique indexes -/

/-- Users are unique by id, public uuid, username and email. -/
def userSchema : Schema User where
  ident := User.id
  clash a b := a.id = b.id || a.publicUuid = b.publicUuid ||
    a.username = b.username || (a.email.isSome && a.email = b.email)
  clash_symm a b := by
    rw [Bool.eq_iff_iff]
    simp only [Bool.or_eq_true, Bool.and_eq_true, decide_eq_true_eq]
    grind
  clash_of_ident a b h := by simp [h]

/-- Profiles are unique by id, uuid and normalized name. -/
def profileSchema : Schema MinecraftProfile where
  ident := MinecraftProfile.id
  clash a b := a.id = b.id || a.uuid = b.uuid ||
    a.normalizedName = b.normalizedName
  clash_symm a b := by
    rw [Bool.eq_iff_iff]
    simp only [Bool.or_eq_true, decide_eq_true_eq]
    grind
  clash_of_ident a b h := by simp [h]

/-- Tokens are unique by id and access-token hash. -/
def tokenSchema : Schema YggdrasilToken where
  ident := YggdrasilToken.id
  clash a b := a.id = b.id || a.accessTokenHash = b.accessTokenHash
  clash_symm a b := by
    rw [Bool.eq_iff_iff]
    simp only [Bool.or_eq_true, decide_eq_true_eq]
    grind
  clash_of_ident a b h := by simp [h]

/-- Bans are unique by id only. -/
def banSchema : Schema UserBan where
  ident := UserBan.id
  clash a b := a.id = b.id
  clash_symm a b := by simp [eq_comm]
  clash_of_ident a b h := by simp [h]

/-! ## Errors -/

/-- The `AsterErrorCode`s the modelled functions attach. -/
inductive AsterErrorCode
  | minecraftProfileLimitExceeded | minecraftProfileUuidTaken
  | minecraftProfileNameTaken | minecraftProfileNameReservedByMojang
  | minecraftProfileDeleteForbidden | minecraftProfileOfficialNameReadonly
  | minecraftProfileRenameLimitExceeded | userBanForbidden
  | authUsernameExists | authUserDisabled | authPasswordChangeRequired
  | authLocalLoginDisabled | authPendingActivation | authSessionNotFound
  | authSessionRevocationFailed | authPasswordPolicyFailed | forbidden
  | contactVerificationInvalid | contactVerificationExpired
  | authEmailExists | authRegistrationDisabled | authSetupAlreadyCompleted
  | authInvitationInvalid | authInvitationAccepted | authInvitationExpired
  | authInvitationRevoked | externalAuthProviderDisabled
  | externalAuthProviderLoginDisabled | externalAuthProviderUnlinkDisabled
  | externalAuthProviderMisconfigured | externalAuthIdentityConflict
  | userBanReasonInvalid | userBanDurationInvalid | userBanNotActive
  | userBanAlreadyActive | userBanNotFound
  | wardrobeTextureNotFound | wardrobeTextureNameInvalid | wardrobeTextureNameTaken
  | textureLibraryDisabled | textureLibraryTextureNotFound
  | textureLibraryTextureNotPublic | textureLibraryTextureNotPending
  | textureLibraryTextureNotPublished | textureLibraryReviewNoteInvalid
  | textureLibraryTagNotFound | textureReportNotFound | textureReportNotPending
  | textureReportMessageInvalid | textureReportTextureNotReportable
  | textureReportSelfReportNotAllowed | textureReportPendingExists
  | minecraftTextureNotFound | minecraftProfileNotFound | authEmailBlocked | authEmailNotAllowlisted
  deriving DecidableEq, Repr

/-- The errors of a call.  `panicked` is a panic, which drops the transaction of the
call; a build that aborts ends its run there. -/
inductive AsterError
  | databaseOperation
  | recordNotFound (what : String)
  | validation (code : Option AsterErrorCode) (message : String)
  | authForbidden (code : Option AsterErrorCode) (message : String)
  | numberOutOfRange (what : String)
  | authInvalidCredentials (message : String)
  | authTokenInvalid (message : String)
  | authTokenExpired (message : String)
  | recordNotFoundCode (code : AsterErrorCode) (what : String)
  | gone (code : AsterErrorCode) (message : String)
  | rateLimited (message : String)
  | internal (message : String)
  | panicked
  deriving DecidableEq, Repr

/-- `AsterError::message`; the text of a database error is the driver's, and a panic
has none. -/
def AsterError.message : AsterError → String
  | .databaseOperation => "database operation failed"
  | .recordNotFound what => what
  | .validation _ message => message
  | .authForbidden _ message => message
  | .numberOutOfRange what => what
  | .authInvalidCredentials message => message
  | .authTokenInvalid message => message
  | .authTokenExpired message => message
  | .recordNotFoundCode _ what => what
  | .gone _ message => message
  | .rateLimited message => message
  | .internal message => message
  | .panicked => ""

inductive YggdrasilErrorKind
  | invalidToken | invalidCredentials | accessTokenAlreadyHasProfile
  | forbiddenProfile | badRequest | unsupportedAgent
  | tooManyProfilesRequested | profileNotFound | internal
  deriving DecidableEq, Repr

structure YggdrasilError where
  kind : YggdrasilErrorKind
  detail : Option String
  deriving DecidableEq, Repr

/-- What a service call fails with: the protocol's own error or the panel's. -/
inductive ServiceError
  | yggdrasil (e : YggdrasilError)
  | aster (e : AsterError)
  deriving DecidableEq, Repr

/-- `YggdrasilError::new`. -/
def ServiceError.new (kind : YggdrasilErrorKind) : ServiceError :=
  .yggdrasil ⟨kind, none⟩

/-- `From<AsterError> for YggdrasilError`. -/
def ServiceError.ofAster (e : AsterError) : ServiceError :=
  .yggdrasil ⟨.internal, some e.message⟩

end AsterYggdrasil
