import AsterYggdrasil.External.Store
import AsterYggdrasil.Interleave.Locking

/-!
# The site

Everything that runs against the tables of accounts, invitations, providers and
flows, statement by statement: the calls of `FlowCall` and `AccountCall`, the
invitations of `user_invitation_service`, the administration of providers, the
removal of a link, the task that deletes expired flows, and the database that may
end any transaction at any moment.
-/

namespace AsterYggdrasil.External

open Interleave Relational

/-! ## Invitations -/

/-- A program of the account functions among the statements of the store. -/
def ofAccounts {α : Type} (p : OnConnection α) : StoreProg α := onStatements p

/-- A query that has to find a row, or a write that has to be accepted. -/
def requiredRow {α : Type} (e : AsterError) : Option α → StoreProg α
  | some a => .ok a
  | none => .err (.aster e)

/-- `ensure_email_available`. -/
def ensureEmailAvailable (email : String) : StoreProg Unit := do
  let taken ← onStore (.account (.userFindByEmail email))
  Prog.rejectIf taken.isSome
    (.aster (.validation (some .authEmailExists) "email already exists"))

/-- The row of a new invitation. -/
def newInvitation (id : Nat) (email tokenHash : String) (now expiresAt : Nat) :
    Invitation where
  id := id
  email := email
  tokenHash := tokenHash
  status := .pending
  acceptedUserId := none
  expiresAt := expiresAt
  createdAt := now
  acceptedAt := none
  revokedAt := none

/-- The transaction of `create_invitation`, without its mail. -/
def createInvitationTxn (email tokenHash : String) (now expiresAt : Nat) :
    StoreProg Invitation := do
  ensureEmailAvailable email
  let pending ← onStore (.invitationFindPendingByEmail email)
  Prog.forEach pending fun existing => do
    let _ ← onStore (.invitationMarkRevokedIfPending existing.id)
  let id ← onStore .invitationNextId
  let row ← onStore (.invitationInsert (newInvitation id email tokenHash now expiresAt))
  requiredRow .databaseOperation row

/-- `create_invitation`, with the token it draws. -/
def createInvitation (lib : Library) (policy : AuthPolicy) (email token : String)
    (ttlSecs : Nat) : AccountProg Invitation := do
  let email ← onPoolOf (ofAccounts (checked (lib.normalizeEmail email)))
  onPoolOf (ofAccounts (checked (policy.checkLocalEmail email)))
  let now ← onPoolOf (ofAccounts utcNow)
  Prog.rejectIf (i64Max < ttlSecs) (.aster (.numberOutOfRange "user invitation ttl"))
  Prog.rejectIf (maxUtc < now + ttlSecs * 1000) (.aster .panicked)
  inTransaction (createInvitationTxn email (lib.sha256Hex token) now
    (now + ttlSecs * 1000))

/-- `ensure_invitation_pending`. -/
def ensureInvitationPending (invitation : Invitation) : OnConnection Unit :=
  rejectIf (invitation.status ≠ .pending) (invitationStatusError invitation.status)

/-- `find_valid_invitation_by_token`, behind `verify_public_invitation`. -/
def findValidInvitationByToken (lib : Library) (token : String) :
    OnConnection Invitation := do
  rejectIf (trim token).isEmpty invitationInvalidError
  let found ← onConn (.invitationFindByTokenHash (lib.sha256Hex (trim token)))
  let invitation ← required invitationInvalidError found
  let invitation ← refreshExpiredStatus invitation
  ensureInvitationPending invitation
  ensureInvitationNotExpired invitation
  pure invitation

/-- `revoke_invitation`. -/
def revokeInvitation (id : Nat) : StoreProg Invitation := do
  let invitation ← ofAccounts (invitationFindById id)
  let invitation ← ofAccounts (refreshExpiredStatus invitation)
  ofAccounts (ensureInvitationPending invitation)
  let marked ← onStore (.invitationMarkRevokedIfPending invitation.id)
  if marked then ofAccounts (invitationFindById id)
  else ofAccounts (currentInvitationStatusError invitation.id)

/-- `invitation_list_view`. -/
def invitationListView (now : Nat) (r : Invitation) : Invitation :=
  if r.status = .pending ∧ r.expiresAt ≤ now then { r with status := .expired } else r

/-- `list_invitations`: the number of all invitations, a page, and whether there
are more. -/
def listInvitations (limit : Nat) (cursor : Option (Nat × Nat)) :
    StoreProg (Nat × List Invitation × Bool) := do
  let limit := max 1 (min limit 100)
  let total ← onStore .invitationCount
  let rows ← onStore (.invitationListAfter cursor (limit + 1))
  let now ← ofAccounts utcNow
  pure (total, (rows.take limit).map (invitationListView now), decide (limit < rows.length))

/-! ## Providers, links and expired flows -/

/-- `create_provider`, with its row. -/
def createProvider (row : Provider) : OnConnection Provider := do
  required .databaseOperation (← onConn (.providerCreate row))

/-- `update_provider`, with the columns it sets. -/
def updateProvider (id : Nat) (patch : ProviderPatch) : OnConnection Provider := do
  let existing ← providerFindById id
  required .databaseOperation (← onConn (.providerUpdate existing.id patch))

/-- `delete_provider`. -/
def deleteProvider (id : Nat) : OnConnection Unit := do
  let _ ← providerFindById id
  onConn (.providerDelete id)

/-- `external_auth_identity_can_unlink`. -/
def identityCanUnlink (kind : ProviderKind) (identityNamespace : String)
    (providerAllowsUnlink : Bool) : Bool :=
  if kind = .microsoft ∨ kind = .linuxDo then false
  else identityNamespace ≠ minecraftIdentityNamespace && providerAllowsUnlink

/-- `delete_link`. -/
def deleteLink (userId id : Nat) : OnConnection Bool := do
  match ← onConn (.identityFindByIdForUser id userId) with
  | none => pure false
  | some identity =>
      let provider ← providerFindById identity.providerId
      rejectIf (!identityCanUnlink provider.kind identity.identityNamespace
          provider.options.allowUnlink)
        (.authForbidden (some .externalAuthProviderUnlinkDisabled)
          "external auth identity cannot be unlinked")
      onConn (.identityDeleteForUser id userId)

/-- `cleanup_expired_flows`. -/
def cleanupExpiredFlows : OnConnection Nat := do
  let now ← utcNow
  let login ← onConn (.loginFlowCleanupExpired now)
  let binding ← onConn (.bindingFlowCleanupExpired now)
  let email ← onConn (.emailFlowCleanupExpired now)
  pure (login + binding + email)

/-! ## The calls -/

/-- A call of the site. -/
inductive SiteCall
  | flow (call : FlowCall)
  | setupFirstAdmin (publicUuid username email password : String)
  | register (policy : AuthPolicy) (publicUuid username email password : String)
  | acceptInvitation (policy : AuthPolicy) (publicUuid token username password : String)
  | createInvitation (policy : AuthPolicy) (email token : String) (ttlSecs : Nat)
  | verifyInvitation (token : String)
  | revokeInvitation (id : Nat)
  | listInvitations (limit : Nat) (cursor : Option (Nat × Nat))
  | adminCreateUser (req : AdminCreateRequest)
  | adminUpdateUser (id : Nat) (req : AdminUpdateRequest)
  | adminDeleteUser (id : Nat)
  | createProfile (ctx : ProfileContext) (userId : Nat) (userRole : UserRole)
      (name : String)
  | renameProfile (policy : RuntimeYggdrasilPolicy) (userId : Nat) (uuid newName : String)
  | adminRenameProfile (policy : RuntimeYggdrasilPolicy) (uuid newName : String)
  | deleteProfile (userId : Nat) (uuid : String)
  | createProvider (row : Provider)
  | updateProvider (id : Nat) (patch : ProviderPatch)
  | deleteProvider (id : Nat)
  | deleteLink (userId id : Nat)
  | cleanupExpiredFlows
  | wait (ms : Nat)
  | abort (x : Nat)

/-- What the calls answer, as far as somebody looks at it. -/
inductive SiteResponse
  | done
  | flow (response : FlowResponse)
  | user (user : User)
  | invitation (invitation : Invitation)
  | page (total : Nat) (items : List Invitation) (more : Bool)
  | unlinked (removed : Bool)
  deriving DecidableEq, Repr

/-- A program on the pool. -/
def onSite {α : Type} (lib : Library) (p : OnConnection α) : AccountProg α :=
  inStore lib (onDb p)

/-- The program of a call. -/
def SiteCall.body (lib : Library) : SiteCall → AccountProg SiteResponse
  | .flow call => do
      let response ← inStore lib (call.body lib)
      pure (.flow response)
  | .setupFirstAdmin publicUuid username email password => do
      let user ← onSite lib (External.setupFirstAdmin lib publicUuid username email password)
      pure (.user user)
  | .register policy publicUuid username email password => do
      let user ← inStore lib
        (External.register lib policy publicUuid username email password)
      pure (.user user)
  | .acceptInvitation policy publicUuid token username password => do
      let user ← inStore lib
        (External.acceptInvitation lib policy publicUuid token username password)
      pure (.user user)
  | .createInvitation policy email token ttlSecs => do
      let invitation ← External.createInvitation lib policy email token ttlSecs
      pure (.invitation invitation)
  | .verifyInvitation token => do
      let invitation ← onSite lib (findValidInvitationByToken lib token)
      pure (.invitation invitation)
  | .revokeInvitation id => do
      let invitation ← onPoolOf (External.revokeInvitation id)
      pure (.invitation invitation)
  | .listInvitations limit cursor => do
      let (total, items, more) ← onPoolOf (External.listInvitations limit cursor)
      pure (.page total items more)
  | .adminCreateUser req => do
      let user ← inStore lib (External.adminCreateUser lib req)
      pure (.user user)
  | .adminUpdateUser id req => do
      let user ← onSite lib (External.adminUpdateUser lib id req)
      pure (.user user)
  | .adminDeleteUser id => do
      onSite lib (ofService (deleteUser id))
      pure .done
  | .createProfile ctx userId userRole name => do
      let _ ← onSite lib (ofService (AsterYggdrasil.createProfile ctx userId userRole name))
      pure .done
  | .renameProfile policy userId uuid newName => do
      let _ ← onSite lib (ofService (renameProfileForUser policy userId uuid newName))
      pure .done
  | .adminRenameProfile policy uuid newName => do
      let _ ← onSite lib (ofService (AsterYggdrasil.adminRenameProfile policy uuid newName))
      pure .done
  | .deleteProfile userId uuid => do
      let _ ← onSite lib (ofService (deleteProfileForUser userId uuid))
      pure .done
  | .createProvider row => do
      let _ ← onSite lib (External.createProvider row)
      pure .done
  | .updateProvider id patch => do
      let _ ← onSite lib (External.updateProvider id patch)
      pure .done
  | .deleteProvider id => do
      onSite lib (External.deleteProvider id)
      pure .done
  | .deleteLink userId id => do
      let removed ← onSite lib (External.deleteLink userId id)
      pure (.unlinked removed)
  | .cleanupExpiredFlows => do
      let _ ← onSite lib External.cleanupExpiredFlows
      pure .done
  | .wait ms => do
      onSite lib (onConn (.service (.db (.advanceClock ms))))
      pure .done
  | .abort x => do
      Prog.stmt (S := accountStore.signature) (.rollback x)
      pure .done

/-- The site with its calls in progress. -/
abbrev SiteConfig :=
  Config accountStore.readCommitted ServiceError SiteCall SiteResponse

end AsterYggdrasil.External
