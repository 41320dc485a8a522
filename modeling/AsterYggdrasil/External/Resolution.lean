import AsterYggdrasil.External.Accounts

/-!
# From claims to an account

What `resolution.rs` does on one connection: the user name derived from the
claims, the identity row, and the three ways the claims find an account (an
identity that exists, an account with the verified email, a new account).
Random passwords, suffixes and uuids are drawn by attempt number.
-/

namespace AsterYggdrasil.External

open Interleave Relational

/-- `ResolvedExternalAuthUser`. -/
structure ResolvedUser where
  user : User
  linked : Bool
  autoProvisioned : Bool
  deriving DecidableEq, Repr

/-- What a call that may create an account draws and reads besides its request. -/
structure ProvisionContext where
  policy : AuthPolicy
  password : Nat → String
  usernameSuffix : Nat → String
  publicUuid : Nat → String

/-! ## User names from claims -/

/-- `trim_matches('-')`, on characters. -/
def trimHyphens (cs : List Char) : List Char :=
  ((cs.dropWhile (· = '-')).reverse.dropWhile (· = '-')).reverse

/-- The characters `sanitize_username_piece` keeps or replaces. -/
def sanitizeUsernameChar (c : Char) : Option Char :=
  if isAsciiAlphanumeric c || c = '_' || c = '-' then some c.toLower
  else if c = '.' || c = ' ' then some '-'
  else none

/-- `sanitize_username_piece`. -/
def sanitizeUsernamePiece (value : String) : List Char :=
  trimHyphens (value.toList.filterMap sanitizeUsernameChar)

/-- A piece that is long enough to be a user name. -/
def usablePiece (value : String) : Option (List Char) :=
  let piece := sanitizeUsernamePiece value
  if 4 ≤ piece.length then some piece else none

/-- `external_auth_username_base`. -/
def externalAuthUsernameBase (lib : Library) (claims : UserClaims) : List Char :=
  let fromName := claims.preferredUsername.bind usablePiece
  let fromEmail := claims.email.bind fun email =>
    usablePiece (String.ofList (email.toList.takeWhile (· ≠ '@')))
  let base := (fromName.orElse fun _ => fromEmail).getD
    ("oidc".toList ++ (lib.sha256Hex claims.subject).toList.take 8)
  let base := if 16 < base.length then trimHyphens (base.take 16) else base
  base ++ List.replicate (4 - base.length) '0'

/-- `external_auth_username_candidate`. -/
def externalAuthUsernameCandidate (ctx : ProvisionContext) (base : List Char)
    (attempt : Nat) : List Char :=
  if attempt = 0 then base
  else
    let suffix := ctx.usernameSuffix attempt
    let stemMax := 16 - (suffix.utf8ByteSize + 1)
    let stem := if stemMax < base.length then trimHyphens (base.take stemMax) else base
    let stem := if stem.length < 4 then "oidc".toList else stem
    stem ++ '-' :: suffix.toList

/-- `LINUXDO_USERNAME_PREFIX`. -/
def linuxdoUsernamePrefix : List Char := "linuxdo_".toList

/-- `linuxdo_subject_username_candidate`. -/
def linuxdoSubjectUsernameCandidate (claims : UserClaims) : Option (List Char) :=
  let subject := sanitizeUsernamePiece claims.subject
  if subject.isEmpty then none
  else some (linuxdoUsernamePrefix ++ subject.take 8)

/-- `external_auth_username_candidate_for_provider`. -/
def usernameCandidateForProvider (ctx : ProvisionContext) (provider : Provider)
    (claims : UserClaims) (base : List Char) (attempt : Nat) : String :=
  if provider.kind ≠ .linuxDo then
    String.ofList (externalAuthUsernameCandidate ctx base attempt)
  else
    let username := (linuxdoSubjectUsernameCandidate claims).getD base
    String.ofList (externalAuthUsernameCandidate ctx username attempt)

/-- `external_auth_username_conflict`. -/
def usernameConflict : ServiceError → Bool
  | .aster (.validation (some .authUsernameExists) _) => true
  | _ => false

/-- Try the attempts in order; only a taken user name leads to the next one. -/
def retryOnUsernameConflict {S : Signature} {α : Type}
    (attempt : Nat → Prog S ServiceError α) : List Nat → Prog S ServiceError α
  | [] =>
      .err (.aster (.validation none
        "failed to allocate unique username for external auth user"))
  | n :: rest => do
      match ← (attempt n).attempt with
      | .ok a => .ok a
      | .error e =>
          if usernameConflict e then retryOnUsernameConflict attempt rest else .err e

/-- `0..UNIQUE_USERNAME_MAX_ATTEMPTS`. -/
def usernameAttempts : List Nat := List.range 5

/-! ## Claims -/

/-- `claims_with_verified_local_email`. -/
def claimsWithVerifiedLocalEmail (flow : EmailFlow) (email : String) : UserClaims where
  identityNamespace := flow.identityNamespace
  subject := flow.subject
  email := some email
  emailVerified := true
  displayName := flow.displayNameSnapshot
  preferredUsername := flow.preferredUsernameSnapshot

/-- `claims_without_provider_email`. -/
def claimsWithoutProviderEmail (flow : EmailFlow) : UserClaims where
  identityNamespace := flow.identityNamespace
  subject := flow.subject
  email := none
  emailVerified := false
  displayName := flow.displayNameSnapshot
  preferredUsername := flow.preferredUsernameSnapshot

/-- `external_auth_claims_missing_email`. -/
def UserClaims.missingEmail (claims : UserClaims) : Bool :=
  claims.email.all String.isEmpty

/-- `require_email_if_configured`. -/
def requireEmailIfConfigured (provider : Provider) (claims : UserClaims) :
    Except AsterError Unit :=
  if !provider.requireEmailVerified then .ok ()
  else if claims.missingEmail then
    .error (.authForbidden none
      "external auth provider requires a verified email but no email claim was returned")
  else if !claims.emailVerified then
    .error (.authForbidden none "external auth provider requires verified email")
  else .ok ()

/-- The email domain is one the provider is allowed to vouch for. -/
def ensureDomainAllowed (lib : Library) (provider : Provider) (email : String) :
    Except AsterError Unit := do
  if ← lib.emailDomainAllowed provider.allowedDomains email then .ok ()
  else .error (.authForbidden none
    "external auth email domain is not allowed for this provider")

/-! ## Identities -/

/-- `create_identity_for_claims`. -/
def createIdentityForClaims (userId : Nat) (provider : Provider) (claims : UserClaims)
    (now : Nat) (metadata : Option String) : OnConnection Identity := do
  let row ← onConn (.identityCreate
    { userId := userId
      providerId := provider.id
      identityNamespace := claims.identityNamespace
      subject := claims.subject
      emailSnapshot := claims.email
      displayNameSnapshot := claims.displayName
      metadata := metadata
      now := now })
  required .databaseOperation row

/-- The login of an identity that exists: its user has to be active. -/
def loginWithIdentity (identity : Identity) (claims : UserClaims)
    (metadata : Option String) (now : Nat) : OnConnection ResolvedUser := do
  let _ ← onConn (.identityTouchLogin identity.id claims.email claims.displayName
    metadata now)
  let user ← ofDb (userFindById identity.userId)
  rejectIf (!user.status.isActive) (.authForbidden none "account is disabled")
  pure ⟨user, false, false⟩

/-- `resolve_existing_external_auth_identity`. -/
def resolveExistingIdentity (claims : UserClaims) (now : Nat)
    (metadata : Option String) : OnConnection (Option ResolvedUser) := do
  match ← onConn (.identityFindByNamespaceSubject claims.identityNamespace
      claims.subject) with
  | none => pure none
  | some identity =>
      let resolved ← loginWithIdentity identity claims metadata now
      pure (some resolved)

/-- `link_external_auth_identity_to_authenticated_user`. -/
def linkIdentityToAuthenticatedUser (provider : Provider) (claims : UserClaims)
    (user : User) (now : Nat) : OnConnection ResolvedUser := do
  match ← onConn (.identityFindByNamespaceSubject claims.identityNamespace
      claims.subject) with
  | some identity =>
      rejectIf (identity.userId ≠ user.id)
        (.authForbidden none "external auth identity is already linked to another user")
      let _ ← onConn (.identityTouchLogin identity.id claims.email claims.displayName
        none now)
      pure ⟨user, false, false⟩
  | none =>
      let _ ← createIdentityForClaims user.id provider claims now none
      pure ⟨user, true, false⟩

/-! ## New accounts -/

/-- The account `create_external_auth_user_and_identity` asks for in one attempt. -/
def provisionedAccount (ctx : ProvisionContext) (provider : Provider)
    (username email : String) (emailVerifiedAt : Option Nat) (attempt : Nat) :
    CreateUserWithRole where
  publicUuid := ctx.publicUuid attempt
  username := username
  email := email
  password := ctx.password attempt
  role := .user
  status := .active
  mustChangePassword := false
  emailVerifiedAt := emailVerifiedAt
  allowReservedLinuxdoUsername := provider.kind = .linuxDo

/-- One attempt to create an account with an email. -/
structure ProvisionAttempt where
  account : CreateUserWithRole
  provider : Provider
  claims : UserClaims
  now : Nat
  metadata : Option String

/-- The transaction of one attempt of `create_external_auth_user_and_identity`. -/
def provisionTxn (lib : Library) (input : ProvisionAttempt) : OnConnection User := do
  let existing ← onConn (.userFindByEmail input.account.email)
  rejectIf existing.isSome
    (.validation none "account exists; automatic linking disabled")
  let user ← createUserWithRole lib input.account
  let _ ← createIdentityForClaims user.id input.provider input.claims input.now
    input.metadata
  pure user

/-- One attempt to create an account without an email. -/
structure ProvisionWithoutEmail where
  account : CreateUserWithoutEmail
  provider : Provider
  claims : UserClaims
  now : Nat
  metadata : Option String

/-- The transaction of one attempt of `resolve_external_auth_user_without_email`. -/
def provisionWithoutEmailTxn (lib : Library) (input : ProvisionWithoutEmail) :
    OnConnection User := do
  let user ← createUserWithoutEmailWithRole lib input.account
  let _ ← createIdentityForClaims user.id input.provider input.claims input.now
    input.metadata
  pure user

/-- Registration has to be open for a new account. -/
def ensureRegistrationOpen (policy : AuthPolicy) : Except AsterError Unit :=
  if policy.allowUserRegistration then .ok ()
  else .error (.authForbidden (some .authRegistrationDisabled)
    "new user registration is disabled")

/-- `create_external_auth_user_and_identity_in_connection`. -/
def createUserAndIdentityInConnection (lib : Library) (ctx : ProvisionContext)
    (provider : Provider) (claims : UserClaims) (now : Nat) : OnConnection User := do
  checked (ensureRegistrationOpen ctx.policy)
  let email ← required
    (.authForbidden none "external auth auto provisioning requires an email claim")
    claims.email
  checked (ensureDomainAllowed lib provider email)
  let existing ← onConn (.userFindByEmail email)
  rejectIf existing.isSome
    (.validation none "user email already exists but automatic email linking is disabled")
  let base := externalAuthUsernameBase lib claims
  retryOnUsernameConflict (fun attempt => do
    let user ← createUserWithRole lib
      (provisionedAccount ctx provider
        (usernameCandidateForProvider ctx provider claims base attempt) email (some now)
        attempt)
    let _ ← createIdentityForClaims user.id provider claims now none
    pure user) usernameAttempts

/-- `resolve_external_auth_user_with_verified_email`. -/
def resolveWithVerifiedEmail (lib : Library) (ctx : ProvisionContext)
    (provider : Provider) (claims : UserClaims) (now : Nat) :
    OnConnection ResolvedUser := do
  let email ← required
    (.authForbidden none "external auth email verification requires an email")
    claims.email
  checked (ensureDomainAllowed lib provider email)
  match ← onConn (.identityFindByNamespaceSubject claims.identityNamespace
      claims.subject) with
  | some identity => loginWithIdentity identity claims none now
  | none =>
      match ← onConn (.userFindByEmail email) with
      | some user =>
          rejectIf (!user.status.isActive) (.authForbidden none "account is disabled")
          rejectIf user.emailVerifiedAt.isNone
            (.authForbidden none "local account email is not verified")
          let _ ← createIdentityForClaims user.id provider claims now none
          pure ⟨user, true, false⟩
      | none =>
          let user ← createUserAndIdentityInConnection lib ctx provider claims now
          pure ⟨user, true, true⟩

/-! ## Minecraft accounts -/

/-- `MINECRAFT_IDENTITY_NAMESPACE`. -/
def minecraftIdentityNamespace : String :=
  "https://api.minecraftservices.com/minecraft/profile"

/-- What `apply_minecraft_binding` is called with. -/
structure ApplyBinding where
  provider : Provider
  userId : Nat
  userRole : UserRole
  account : MinecraftAccount
  metadata : String
  profileContext : ProfileContext

/-- `ApplyBindingResult`. -/
structure BindingApplied where
  identity : Identity
  profile : MinecraftProfile
  identityLinked : Bool
  profileCreated : Bool
  deriving DecidableEq, Repr

/-- `ensure_minecraft_identity`. -/
def ensureMinecraftIdentity (input : ApplyBinding) (now : Nat) :
    OnConnection (Identity × Bool) := do
  match ← onConn (.identityFindByNamespaceSubject minecraftIdentityNamespace
      input.account.uuid) with
  | some identity =>
      rejectIf (identity.userId ≠ input.userId)
        (.authForbidden (some .externalAuthIdentityConflict)
          "Minecraft account is already linked to another user")
      let _ ← onConn (.identityTouchLogin identity.id none (some input.account.name)
        (some input.metadata) now)
      pure (identity, false)
  | none =>
      match ← onConn (.identityFindByProviderForUser input.provider.id input.userId) with
      | some identity =>
          .err (.aster (.authForbidden (some .externalAuthIdentityConflict)
            ("user already linked a different account for external auth provider #" ++
              toString identity.providerId)))
      | none =>
          let row ← onConn (.identityCreate
            { userId := input.userId
              providerId := input.provider.id
              identityNamespace := minecraftIdentityNamespace
              subject := input.account.uuid
              emailSnapshot := none
              displayNameSnapshot := some input.account.name
              metadata := some input.metadata
              now := now })
          let identity ← required .databaseOperation row
          pure (identity, true)

/-- The transaction of `apply_minecraft_binding`. -/
def applyBindingTxn (input : ApplyBinding) : OnConnection BindingApplied := do
  let now ← utcNow
  let (identity, identityLinked) ← ensureMinecraftIdentity input now
  let (profile, profileCreated) ← ofService (ensureMinecraftProfile input.profileContext
    input.userId input.userRole input.account.uuid input.account.name)
  pure ⟨identity, profile, identityLinked, profileCreated⟩

end AsterYggdrasil.External
