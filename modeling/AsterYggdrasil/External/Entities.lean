import AsterYggdrasil.Yggdrasil.Profile

/-!
# External login: the rows

Providers, the identities they vouch for, the three kinds of flow a login or a
binding goes through, and invitations, with the columns the modelled functions
read or write and the unique indexes of the migrations.  Secrets are stored as
hashes; a flow is named by the hash of its state or token.
-/

namespace AsterYggdrasil.External

open Relational

inductive ProviderKind
  | oidc | genericOAuth2 | gitHub | google | microsoft | qq | linuxDo
  deriving DecidableEq, Repr

/-- `ExternalAuthProviderKind::as_str`. -/
def ProviderKind.asStr : ProviderKind → String
  | .oidc => "oidc"
  | .genericOAuth2 => "generic_oauth2"
  | .gitHub => "github"
  | .google => "google"
  | .microsoft => "microsoft"
  | .qq => "qq"
  | .linuxDo => "linuxdo"

/-- `LinuxDoExternalAuthProviderOptions`, normalised. -/
structure LinuxDoOptions where
  minTrustLevel : Int
  autoCreateProfile : Bool
  deriving DecidableEq, Repr

/-- `ExternalAuthProviderOptions`, as `parse_external_auth_provider_options`
returns them. -/
structure ProviderOptions where
  linuxdo : Option LinuxDoOptions
  allowLogin : Bool
  allowUnlink : Bool
  deriving DecidableEq, Repr

/-- A row of `external_auth_providers`. -/
structure Provider where
  id : Nat
  key : String
  kind : ProviderKind
  options : ProviderOptions
  clientSecret : Option String
  enabled : Bool
  autoProvisionEnabled : Bool
  autoLinkVerifiedEmailEnabled : Bool
  requireEmailVerified : Bool
  allowedDomains : Option String
  deriving DecidableEq, Repr

/-- A row of `external_auth_identities`. -/
structure Identity where
  id : Nat
  userId : Nat
  providerId : Nat
  identityNamespace : String
  subject : String
  emailSnapshot : Option String
  displayNameSnapshot : Option String
  metadata : Option String
  createdAt : Nat
  updatedAt : Nat
  lastLoginAt : Option Nat
  deriving DecidableEq, Repr

/-- A row of `external_auth_login_flows`. -/
structure LoginFlow where
  id : Nat
  providerId : Nat
  stateHash : String
  nonce : Option String
  pkceVerifier : Option String
  redirectUri : String
  returnPath : Option String
  createdAt : Nat
  expiresAt : Nat
  consumedAt : Option Nat
  deriving DecidableEq, Repr

/-- A row of `external_auth_binding_flows`: a login flow that belongs to a
user. -/
structure BindingFlow where
  id : Nat
  userId : Nat
  providerId : Nat
  stateHash : String
  nonce : Option String
  pkceVerifier : Option String
  redirectUri : String
  returnPath : Option String
  createdAt : Nat
  expiresAt : Nat
  consumedAt : Option Nat
  deriving DecidableEq, Repr

/-- A row of `external_auth_email_verification_flows`. -/
structure EmailFlow where
  id : Nat
  providerId : Nat
  identityNamespace : String
  subject : String
  targetEmail : Option String
  displayNameSnapshot : Option String
  preferredUsernameSnapshot : Option String
  returnPath : Option String
  flowTokenHash : String
  verificationTokenHash : Option String
  emailRequestedAt : Option Nat
  createdAt : Nat
  expiresAt : Nat
  consumedAt : Option Nat
  deriving DecidableEq, Repr

inductive InvitationStatus
  | pending | accepted | expired | revoked
  deriving DecidableEq, Repr

/-- A row of `user_invitations`. -/
structure Invitation where
  id : Nat
  email : String
  tokenHash : String
  status : InvitationStatus
  acceptedUserId : Option Nat
  expiresAt : Nat
  createdAt : Nat
  acceptedAt : Option Nat
  revokedAt : Option Nat
  deriving DecidableEq, Repr

/-- `ExternalAuthProfile`: what a provider says about the person who logs in. -/
structure UserClaims where
  identityNamespace : String
  subject : String
  email : Option String
  emailVerified : Bool
  displayName : Option String
  preferredUsername : Option String
  deriving DecidableEq, Repr

/-- `MicrosoftMinecraftAccount`, without its textures. -/
structure MinecraftAccount where
  uuid : String
  name : String
  xboxUserHash : Option String
  deriving DecidableEq, Repr

/-! ## Unique indexes -/

/-- Providers are unique by id and by kind and key. -/
def providerSchema : Schema Provider where
  ident := Provider.id
  clash a b := a.id = b.id || (a.kind = b.kind && a.key = b.key)
  clash_symm a b := by
    rw [Bool.eq_iff_iff]
    simp only [Bool.or_eq_true, Bool.and_eq_true, decide_eq_true_eq]
    grind
  clash_of_ident a b h := by simp [h]

/-- Identities are unique by id, by namespace and subject, by provider and
subject, and by user and provider. -/
def identitySchema : Schema Identity where
  ident := Identity.id
  clash a b := a.id = b.id ||
    (a.identityNamespace = b.identityNamespace && a.subject = b.subject) ||
    (a.providerId = b.providerId && a.subject = b.subject) ||
    (a.userId = b.userId && a.providerId = b.providerId)
  clash_symm a b := by
    rw [Bool.eq_iff_iff]
    simp only [Bool.or_eq_true, Bool.and_eq_true, decide_eq_true_eq]
    grind
  clash_of_ident a b h := by simp [h]

/-- Login flows are unique by id and state hash. -/
def loginFlowSchema : Schema LoginFlow where
  ident := LoginFlow.id
  clash a b := a.id = b.id || a.stateHash = b.stateHash
  clash_symm a b := by
    rw [Bool.eq_iff_iff]
    simp only [Bool.or_eq_true, decide_eq_true_eq]
    grind
  clash_of_ident a b h := by simp [h]

/-- Binding flows are unique by id and state hash. -/
def bindingFlowSchema : Schema BindingFlow where
  ident := BindingFlow.id
  clash a b := a.id = b.id || a.stateHash = b.stateHash
  clash_symm a b := by
    rw [Bool.eq_iff_iff]
    simp only [Bool.or_eq_true, decide_eq_true_eq]
    grind
  clash_of_ident a b h := by simp [h]

/-- Email-verification flows are unique by id and flow-token hash.  The index
on the verification token is not a unique one. -/
def emailFlowSchema : Schema EmailFlow where
  ident := EmailFlow.id
  clash a b := a.id = b.id || a.flowTokenHash = b.flowTokenHash
  clash_symm a b := by
    rw [Bool.eq_iff_iff]
    simp only [Bool.or_eq_true, decide_eq_true_eq]
    grind
  clash_of_ident a b h := by simp [h]

/-- Invitations are unique by id and token hash. -/
def invitationSchema : Schema Invitation where
  ident := Invitation.id
  clash a b := a.id = b.id || a.tokenHash = b.tokenHash
  clash_symm a b := by
    rw [Bool.eq_iff_iff]
    simp only [Bool.or_eq_true, decide_eq_true_eq]
    grind
  clash_of_ident a b h := by simp [h]

end AsterYggdrasil.External
