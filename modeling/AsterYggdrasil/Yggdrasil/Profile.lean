import AsterYggdrasil.Yggdrasil.Session

/-!
# Profile management and the calls of the service

Creating, renaming and deleting profiles (`profile.rs`), the automatic profile
of an external login, the account operations of the administrator that touch
the protocol tables, and `Call`: everything a client can ask of this service.
The lookup of a name at Mojang is a parameter of the request.
-/

namespace AsterYggdrasil

open Interleave Relational

/-! ## Names -/

/-- `byte.is_ascii_alphanumeric()`. -/
def isAsciiAlphanumeric (c : Char) : Bool := c.isAlphanum

/-- `validate_profile_name`. -/
def validProfileName (name : String) : Bool :=
  3 ≤ name.utf8ByteSize && name.utf8ByteSize ≤ 16 &&
    name.toList.all fun c => isAsciiAlphanumeric c || c = '_'

/-- `name.strip_prefix("linuxdo_")`, on characters. -/
def stripLinuxdo : List Char → Option (List Char)
  | 'l' :: 'i' :: 'n' :: 'u' :: 'x' :: 'd' :: 'o' :: '_' :: rest => some rest
  | _ => none

/-- `is_reserved_linuxdo_profile_name`. -/
def isReservedLinuxdoProfileName (name : String) : Bool :=
  match stripLinuxdo name.toList with
  | none => false
  | some subject => !subject.isEmpty && subject.all Char.isDigit

/-- The error of `validate_profile_name`. -/
def invalidProfileName : AsterError :=
  .validation none "profile name must be 3-16 ASCII letters, numbers, or underscores"

/-- The error of `validate_reserved_profile_name`. -/
def reservedProfileName : AsterError :=
  .validation none "profile name is reserved for LinuxDO fallback identities"

/-- `validate_profile_name` and `validate_reserved_profile_name` in a row. -/
def checkProfileName (name : String) (allowReserved : Bool) : Service Unit := do
  Prog.rejectIf (!validProfileName name) (.aster invalidProfileName)
  Prog.rejectIf (!allowReserved && isReservedLinuxdoProfileName name)
    (.aster reservedProfileName)

/-- `profile_name_taken`. -/
def profileNameTaken (name : String) (ownerUserId : Nat)
    (excludeProfileId : Option Nat) : Service Bool := do
  let profile ← query (.profileFindByName name)
  if profile.any fun p => some p.id ≠ excludeProfileId then pure true
  else do
    let user ← query (.userFindByUsernameCaseInsensitive name)
    pure (user.any fun u => u.id ≠ ownerUserId)

/-- The error of a capability ban. -/
def userBanForbidden (scope : String) : ServiceError :=
  .aster (.authForbidden (some .userBanForbidden) s!"user is banned from {scope}")

/-- `ensure_user_not_banned` for profile management. -/
def ensureMayManageProfiles (userId : Nat) : Service Unit := do
  let banned ← isUserBanned userId .minecraftProfileManage
  Prog.rejectIf banned (userBanForbidden "minecraft_profile_manage")

/-! ## Creating -/

/-- What a profile request carries besides its own fields: the policy, the
drawn uuid and what Mojang says about a name. -/
structure ProfileContext where
  policy : RuntimeYggdrasilPolicy
  newUuid : String
  mojangHasName : String → Except AsterError Bool

/-- `CreateProfileInput`. -/
structure CreateProfileInput where
  userId : Nat
  userRole : UserRole
  uuid : String
  name : String
  source : MinecraftProfileSource
  allowReservedLinuxdoName : Bool
  checkMojangName : Bool
  deriving DecidableEq, Repr

/-- `ensure_name_not_reserved_by_mojang`. -/
def ensureNameNotReservedByMojang (ctx : ProfileContext) (name : String) :
    Service Unit :=
  if ctx.policy.mojangNameCheckEnabled then
    match ctx.mojangHasName name with
    | .error e => .err (.aster e)
    | .ok found =>
        Prog.rejectIf found
          (.aster (.validation (some .minecraftProfileNameReservedByMojang)
            "profile name is already used by an official Minecraft account"))
  else pure ()

/-- Only local profiles are checked against Mojang, and only on request. -/
def checkMojangName (ctx : ProfileContext) (input : CreateProfileInput) :
    Service Unit :=
  if input.source = .localProfile && input.checkMojangName then
    ensureNameNotReservedByMojang ctx input.name
  else pure ()

/-- The quota check of a profile creation; administrators have none. -/
def checkProfileQuota (ctx : ProfileContext) (input : CreateProfileInput) :
    Service Unit :=
  if input.userRole.isAdmin then pure ()
  else do
    let existing ← query (.profileCountByUser input.userId)
    Prog.rejectIf (ctx.policy.maxProfilesPerUser ≤ existing)
      (.aster (.validation (some .minecraftProfileLimitExceeded)
        "profile limit reached for this user"))

/-- `create_profile_with_uuid_in_connection_inner`. -/
def createProfileWithUuid (ctx : ProfileContext) (input : CreateProfileInput) :
    Service MinecraftProfile := do
  ensureMayManageProfiles input.userId
  checkProfileQuota ctx input
  checkProfileName input.name input.allowReservedLinuxdoName
  checkMojangName ctx input
  let taken ← query (.profileFindByUuid input.uuid)
  Prog.rejectIf taken.isSome
    (.aster (.validation (some .minecraftProfileUuidTaken)
      "profile uuid already exists"))
  let nameTaken ← profileNameTaken input.name input.userId none
  Prog.rejectIf nameTaken
    (.aster (.validation (some .minecraftProfileNameTaken)
      "profile name already exists"))
  onPool .aster (profileCreateWithSource
    { userId := input.userId
      uuid := input.uuid
      name := input.name
      source := input.source
      textureModel := .default
      uploadableTextures := ctx.policy.uploadableTexturesValue })

/-- `create_profile_inner`. -/
def createProfileInner (ctx : ProfileContext) (userId : Nat) (userRole : UserRole)
    (name : String) (allowReserved : Bool) : Service MinecraftProfile :=
  createProfileWithUuid ctx
    { userId := userId
      userRole := userRole
      uuid := ctx.newUuid
      name := name
      source := .localProfile
      allowReservedLinuxdoName := allowReserved
      checkMojangName := true }

/-- `create_profile`. -/
def createProfile (ctx : ProfileContext) (userId : Nat) (userRole : UserRole)
    (name : String) : Service MinecraftProfile :=
  createProfileInner ctx userId userRole name false

/-- `ensure_minecraft_profile`: the profile of a bound Microsoft account, which
may not belong to anyone else, and whether it was created now. -/
def ensureMinecraftProfile (ctx : ProfileContext) (userId : Nat)
    (userRole : UserRole) (uuid name : String) : Service (MinecraftProfile × Bool) := do
  match ← query (.profileFindByUuid uuid) with
  | some existing => do
      Prog.rejectIf (existing.userId ≠ userId)
        (.aster (.validation (some .minecraftProfileUuidTaken)
          "Minecraft profile UUID is already bound to another user"))
      pure (existing, false)
  | none => do
      let profile ← createProfileWithUuid ctx
        { userId := userId
          userRole := userRole
          uuid := uuid
          name := name
          source := .microsoft
          allowReservedLinuxdoName := false
          checkMojangName := false }
      pure (profile, true)

/-! ## Profiles of external logins -/

/-- `trim_matches('_')`, on characters. -/
def trimUnderscores (cs : List Char) : List Char :=
  ((cs.dropWhile (· = '_')).reverse.dropWhile (· = '_')).reverse

/-- The characters `sanitize_external_username` keeps or replaces. -/
def sanitizeChar (c : Char) : Option Char :=
  if isAsciiAlphanumeric c then some c
  else if c = '_' || c = '-' || c = '.' || c = ' ' then some '_'
  else none

/-- `sanitize_external_username`. -/
def sanitizeExternalUsername (username : String) : Option String :=
  let sanitized := trimUnderscores (username.toList.filterMap sanitizeChar)
  let name :=
    if 16 < sanitized.length then trimUnderscores (sanitized.take 16) else sanitized
  if name.isEmpty then none
  else
    let padded := name ++ List.replicate (3 - name.length) '_'
    if padded.any isAsciiAlphanumeric then some (String.ofList padded) else none

/-- The candidate names of an external login, each with whether a reserved
LinuxDO name is allowed for it. -/
def externalProfileNames (externalUsername : String)
    (fallbackUsername : Option String) : List (String × Bool) :=
  let first :=
    match sanitizeExternalUsername externalUsername with
    | some name => [(name, false)]
    | none => []
  match fallbackUsername.bind sanitizeExternalUsername with
  | some fallback =>
      if first.any fun (name, _) =>
          toAsciiLowercase name = toAsciiLowercase fallback then first
      else first ++ [(fallback, true)]
  | none => first

/-- The first candidate that is neither reserved nor taken. -/
def firstFreeCandidate (userId : Nat) :
    List (String × Bool) → Service (Option (String × Bool))
  | [] => pure none
  | (name, allowReserved) :: rest =>
      if !allowReserved && isReservedLinuxdoProfileName name then
        firstFreeCandidate userId rest
      else do
        let taken ← profileNameTaken name userId none
        if taken then firstFreeCandidate userId rest
        else pure (some (name, allowReserved))

/-- The name with a numeric suffix, cut so that it stays within 16 bytes. -/
def suffixedName (profileName : String) (suffix : Nat) : String :=
  let digits := (toString suffix).toList
  String.ofList (profileName.toList.take (16 - digits.length) ++ digits)

/-- The first suffixed name that is not taken, or the last one tried. -/
def firstFreeSuffix (userId : Nat) (profileName : String) (candidate : String) :
    List Nat → Service String
  | [] => pure candidate
  | suffix :: rest => do
      let candidate := suffixedName profileName suffix
      let taken ← profileNameTaken candidate userId none
      if taken then firstFreeSuffix userId profileName candidate rest
      else pure candidate

/-- Create a profile under the first usable candidate name. -/
def createFromCandidates (ctx : ProfileContext) (userId : Nat) (userRole : UserRole)
    (names : List (String × Bool)) : Service MinecraftProfile :=
  match names.getLast? with
  | none =>
      .err (.aster (.validation none
        "external username cannot be converted to a valid profile name"))
  | some (profileName, allowReserved) => do
      match ← firstFreeCandidate userId names with
      | some (name, allow) => createProfileInner ctx userId userRole name allow
      | none => do
          let candidate ← firstFreeSuffix userId profileName profileName
            (List.range' 1 99)
          createProfileInner ctx userId userRole candidate allowReserved

/-- `create_profile_for_external_auth`. -/
def createProfileForExternalAuth (ctx : ProfileContext) (userId : Nat)
    (userRole : UserRole) (externalUsername : String)
    (fallbackUsername : Option String) : Service MinecraftProfile :=
  createFromCandidates ctx userId userRole
    (externalProfileNames externalUsername fallbackUsername)

/-! ## Renaming and deleting -/

/-- `u64::try_from`, of an `i32`. -/
def u64TryFrom (n : Int32) : Option Nat := if 0 ≤ n.toInt then some n.toInt.toNat else none

/-- `rename_profile`. -/
def renameProfile (policy : RuntimeYggdrasilPolicy) (profile : MinecraftProfile)
    (newName : String) : Service RenameResult := do
  checkProfileName newName false
  if profile.name = newName then pure ⟨profile, profile.name, 0⟩
  else do
    Prog.rejectIf (profile.source = .microsoft)
      (.aster (.validation (some .minecraftProfileOfficialNameReadonly)
        "official Minecraft profile name cannot be changed on this site"))
    Prog.rejectIf (policy.maxProfileRenames ≤ (u64TryFrom profile.renameCount).getD 0)
      (.aster (.validation (some .minecraftProfileRenameLimitExceeded)
        "profile rename limit reached"))
    let taken ← profileNameTaken newName profile.userId (some profile.id)
    Prog.rejectIf taken
      (.aster (.validation (some .minecraftProfileNameTaken)
        "profile name already exists"))
    let tokenHashes ← invalidateTokenCacheForSelectedProfile profile.id
    let result ← withTransaction (.renameProfile profile newName)
    invalidateTokenCacheHashes tokenHashes
    step (.deleteProfileNameSummary result.oldName)
    step (.deleteProfileNameSummary result.profile.name)
    pure result

/-- `rename_profile_for_user`. -/
def renameProfileForUser (policy : RuntimeYggdrasilPolicy) (userId : Nat)
    (uuid newName : String) : Service (Option RenameResult) := do
  ensureMayManageProfiles userId
  checkProfileName newName false
  match ← query (.profileFindByUuidForUser uuid userId) with
  | none => pure none
  | some profile => do
      let result ← renameProfile policy profile newName
      pure (some result)

/-- `rename_minecraft_profile` of the administrators' routes, which may rename the
profile of any user and asks for no ban. -/
def adminRenameProfile (policy : RuntimeYggdrasilPolicy) (uuid newName : String) :
    Service RenameResult := do
  match ← query (.profileFindByUuid uuid) with
  | none => .err (.aster (.recordNotFoundCode .minecraftProfileNotFound
      s!"minecraft profile '{uuid}'"))
  | some profile => renameProfile policy profile newName

/-- `DeleteMinecraftProfileResult`. -/
structure DeleteProfileResult where
  profile : MinecraftProfile
  deletedTextureCount : Nat
  revokedTokenCount : Nat
  deriving DecidableEq, Repr

/-- `delete_profile_for_user`.  The texture bindings are deleted in one step
here; they have their own table and no token function reads them. -/
def deleteProfileForUser (userId : Nat) (uuid : String) :
    Service (Option DeleteProfileResult) := do
  ensureMayManageProfiles userId
  match ← query (.profileFindByUuidForUser uuid userId) with
  | none => pure none
  | some profile => do
      Prog.rejectIf (profile.source = .microsoft)
        (.aster (.authForbidden (some .minecraftProfileDeleteForbidden)
          "official Minecraft profile cannot be deleted on this site"))
      let _ ← invalidateTokenCacheForSelectedProfile profile.id
      let deletedTextures ← query (.profileTexturesDelete profile.id)
      let revoked ← query (.tokenRevokeAllForSelectedProfile profile.id)
      let deleted ← onPool .aster (profileDeleteById profile.id)
      pure (some ⟨deleted.getD profile, deletedTextures, revoked⟩)

/-! ## Administration -/

/-- `SUPER_ADMIN_USER_ID`. -/
def superAdminUserId : Nat := 1

/-- `update_user`, from the normalised input on, for a request without operator
scopes.  The role and the status of the super administrator stay. -/
def updateUser (id : Nat) (input : AdminUpdateUser) : Service User := do
  let existing ← onPool .aster (userFindById id)
  Prog.rejectIf (id = superAdminUserId &&
      (input.role.any (fun r => r ≠ existing.role) ||
        input.status.any fun st => st ≠ existing.status))
    (.aster (.authForbidden none
      "super administrator role, status, and permissions cannot be changed"))
  withTransaction (.updateUser id { input with
    role := some (input.role.getD existing.role) })

/-- `delete_user`, on the tables of this model. -/
def deleteUser (userId : Nat) : Service Unit := do
  Prog.rejectIf (userId = superAdminUserId)
    (.aster (.authForbidden none "super administrator cannot be deleted"))
  let _ ← onPool .aster (userFindById userId)
  let profiles ← query (.profileListByUser userId)
  Prog.forEach profiles fun profile => do
    let _ ← deleteProfileForUser userId profile.uuid
    pure ()
  let hashes ← invalidateTokenCacheForUser userId
  let _ ← onPool .aster (revokeAllForUserReturningHashes userId)
  invalidateTokenCacheHashes hashes
  let _ ← onPool .aster (userFindById userId)
  query (.userDelete userId)

/-- Create an account for an external login, then its profile. -/
def provisionExternalUser (ctx : ProfileContext) (input : CreateUser)
    (externalUsername : String) (fallbackUsername : Option String) :
    Service MinecraftProfile := do
  let user ← onPool .aster (do
    DbProg.required .databaseOperation (← sql (.userInsert input)))
  createProfileForExternalAuth ctx user.id user.role externalUsername fallbackUsername

/-! ## Everything a client can ask -/

/-- The calls of the service. -/
inductive Call
  | authenticate (body : AuthenticateReq) (ctx : RequestContext)
  | refresh (body : RefreshReq) (ctx : RequestContext)
  | validate (body : TokenReq)
  | invalidate (body : TokenReq)
  | signout (username password : String) (policy : RuntimeYggdrasilPolicy)
  | join (body : JoinReq) (clientIp : Option String)
  | hasJoined (env : HasJoinedEnv) (req : HasJoinedReq)
  | tokenForOperation (accessToken : String) (clientToken : Option String)
      (allowTemporarilyInvalid : Bool)
  | createProfile (ctx : ProfileContext) (userId : Nat) (userRole : UserRole)
      (name : String)
  | ensureMinecraftProfile (ctx : ProfileContext) (userId : Nat)
      (userRole : UserRole) (uuid name : String)
  | renameProfile (policy : RuntimeYggdrasilPolicy) (userId : Nat)
      (uuid newName : String)
  | adminRenameProfile (policy : RuntimeYggdrasilPolicy) (uuid newName : String)
  | deleteProfile (userId : Nat) (uuid : String)
  | provisionExternalUser (ctx : ProfileContext) (input : CreateUser)
      (externalUsername : String) (fallbackUsername : Option String)
  | updateUser (id : Nat) (input : AdminUpdateUser)
  | deleteUser (userId : Nat)
  | createBan (input : CreateUserBan)
  | revokeBan (id : Nat)
  | wait (ms : Nat)

/-- What a call answers. -/
inductive Response
  | done
  | authenticated (resp : AuthenticateResp)
  | refreshed (resp : RefreshResp)
  | token (token : YggdrasilToken)
  | joined (profile : Option YggdrasilProfile)
  | profile (profile : MinecraftProfile)
  | renamed (result : Option RenameResult)
  | deleted (result : Option DeleteProfileResult)
  | user (user : User)
  deriving DecidableEq, Repr

/-- The program of a call. -/
def Call.body (verifyPassword : String → String → Except AsterError Bool) :
    Call → Service Response
  | .authenticate body ctx => do
      pure (.authenticated (← AsterYggdrasil.authenticate verifyPassword body ctx))
  | .refresh body ctx => do pure (.refreshed (← AsterYggdrasil.refresh body ctx))
  | .validate body => do AsterYggdrasil.validate body; pure .done
  | .invalidate body => do AsterYggdrasil.invalidate body; pure .done
  | .signout username password policy => do
      AsterYggdrasil.signout verifyPassword username password policy
      pure .done
  | .join body clientIp => do AsterYggdrasil.join body clientIp; pure .done
  | .hasJoined env req => do pure (.joined (← AsterYggdrasil.hasJoined env req))
  | .tokenForOperation access client allow => do
      pure (.token (← AsterYggdrasil.tokenForOperation access client allow))
  | .createProfile ctx userId userRole name => do
      pure (.profile (← AsterYggdrasil.createProfile ctx userId userRole name))
  | .ensureMinecraftProfile ctx userId userRole uuid name => do
      let (profile, _) ←
        AsterYggdrasil.ensureMinecraftProfile ctx userId userRole uuid name
      pure (.profile profile)
  | .renameProfile policy userId uuid newName => do
      pure (.renamed (← renameProfileForUser policy userId uuid newName))
  | .adminRenameProfile policy uuid newName => do
      pure (.renamed (some (← AsterYggdrasil.adminRenameProfile policy uuid newName)))
  | .deleteProfile userId uuid => do
      pure (.deleted (← deleteProfileForUser userId uuid))
  | .provisionExternalUser ctx input externalUsername fallbackUsername => do
      pure (.profile (← AsterYggdrasil.provisionExternalUser ctx input
        externalUsername fallbackUsername))
  | .updateUser id input => do pure (.user (← AsterYggdrasil.updateUser id input))
  | .deleteUser userId => do AsterYggdrasil.deleteUser userId; pure .done
  | .createBan input => do let _ ← query (.banInsert input); pure .done
  | .revokeBan id => do let _ ← query (.banSetRevoked id); pure .done
  | .wait ms => do query (.advanceClock ms); pure .done

end AsterYggdrasil
