import AsterYggdrasil.Interleave.Program
import AsterYggdrasil.Yggdrasil.Entities
import Mathlib.Data.List.Dedup
import Mathlib.Data.List.Sort

/-!
# The database and its repositories

`Db` holds the tables of the protocol service and the clock.  A `DbStmt` is
one SQL statement as the repositories issue it; `DbStmt.exec` is what the
database does with it, unique indexes and foreign keys included.  A statement
that writes `Utc::now()` reads the clock in the same step.  The repository
functions that need more than one statement are programs over them.
-/

namespace AsterYggdrasil

open Interleave Relational

/-- The tables of the protocol service.  `profileTextures` holds the texture
bindings by the profile they belong to. -/
structure Db where
  users : Table userSchema
  profiles : Table profileSchema
  tokens : Table tokenSchema
  bans : Table banSchema
  profileTextures : List Nat
  forwardServers : List ForwardServer
  now : Nat

/-- The columns of a new profile (`create_with_source`). -/
structure CreateProfile where
  userId : Nat
  uuid : String
  name : String
  source : MinecraftProfileSource
  textureModel : MinecraftTextureModel
  uploadableTextures : String
  deriving DecidableEq, Repr

/-- `CreateYggdrasilToken`. -/
structure CreateYggdrasilToken where
  userId : Nat
  accessTokenHash : String
  clientToken : String
  selectedProfileId : Option Nat
  issuedAt : Nat
  expiresAt : Nat
  userAgent : Option String
  ipAddress : Option String
  deriving DecidableEq, Repr

/-- The columns of a new account. -/
structure CreateUser where
  publicUuid : String
  username : String
  email : Option String
  passwordHash : String
  role : UserRole
  emailVerifiedAt : Option Nat
  deriving DecidableEq, Repr

/-- The columns `update_admin` sets; `none` leaves a column alone. -/
structure UserPatch where
  username : Option String
  email : Option String
  passwordHash : Option String
  role : Option UserRole
  status : Option UserStatus
  mustChangePassword : Option Bool
  sessionVersion : Option Int
  deriving DecidableEq, Repr

/-- The columns of a new ban. -/
structure CreateUserBan where
  userId : Nat
  scopes : List UserBanScope
  startsAt : Nat
  expiresAt : Option Nat
  deriving DecidableEq, Repr

/-- One SQL statement. -/
inductive DbStmt
  | now
  | advanceClock (ms : Nat)
  | userFindById (id : Nat)
  | userFindByIdentifier (identifier : String)
  | userFindByUsernameCaseInsensitive (username : String)
  | userInsert (input : CreateUser)
  | userUpdate (id : Nat) (patch : UserPatch)
  | userDelete (id : Nat)
  | profileFindById (id : Nat)
  | profileFindByUuid (uuid : String)
  | profileFindByUuidForUser (uuid : String) (userId : Nat)
  | profileFindByName (name : String)
  | profileListByUser (userId : Nat)
  | profileCountByUser (userId : Nat)
  | profileInsert (input : CreateProfile)
  | profileUpdateName (id : Nat) (name : String) (renameCount : Int32)
  | profileDelete (id : Nat)
  | profileTexturesDelete (profileId : Nat)
  | tokenFindByAccessHash (hash : String)
  | tokenListActiveHashesForUser (userId : Nat)
  | tokenListActiveHashesForSelectedProfile (profileId : Nat)
  | tokenListRecentRevokedHashesForUser (userId : Nat) (revokedSince : Nat)
  | tokenListActiveByIssuedDesc (userId : Nat)
  | tokenNextId
  | tokenInsert (id : Nat) (input : CreateYggdrasilToken)
  | tokenSetRevoked (id : Nat)
  | tokenRevokeAllForUser (userId : Nat)
  | tokenRevokeAllForSelectedProfile (profileId : Nat)
  | tokenTemporarilyInvalidateAllForSelectedProfile (profileId : Nat)
  | banFindEffectiveForScope (userId : Nat) (scope : UserBanScope)
  | banInsert (input : CreateUserBan)
  | banSetRevoked (id : Nat)
  | forwardServerListEnabledOrdered

/-- What each statement answers.  An insert that a constraint refuses and an
update of a row that is gone answer `none` or `false`. -/
@[reducible] def DbStmt.Reply : DbStmt → Type
  | .now => Nat
  | .advanceClock _ => Unit
  | .userFindById _ | .userFindByIdentifier _
  | .userFindByUsernameCaseInsensitive _ | .userInsert _ | .userUpdate _ _ =>
      Option User
  | .userDelete _ => Unit
  | .profileFindById _ | .profileFindByUuid _ | .profileFindByUuidForUser _ _
  | .profileFindByName _ | .profileInsert _ | .profileUpdateName _ _ _ =>
      Option MinecraftProfile
  | .profileListByUser _ => List MinecraftProfile
  | .profileCountByUser _ => Nat
  | .profileDelete _ => Unit
  | .profileTexturesDelete _ => Nat
  | .tokenFindByAccessHash _ | .tokenInsert _ _ => Option YggdrasilToken
  | .tokenListActiveHashesForUser _
  | .tokenListActiveHashesForSelectedProfile _
  | .tokenListRecentRevokedHashesForUser _ _ => List String
  | .tokenListActiveByIssuedDesc _ => List YggdrasilToken
  | .tokenNextId => Nat
  | .tokenSetRevoked _ => Bool
  | .tokenRevokeAllForUser _ | .tokenRevokeAllForSelectedProfile _
  | .tokenTemporarilyInvalidateAllForSelectedProfile _ => Nat
  | .banFindEffectiveForScope _ _ | .banInsert _ => Option UserBan
  | .banSetRevoked _ => Bool
  | .forwardServerListEnabledOrdered => List ForwardServer

@[reducible] def dbSignature : Signature := ⟨DbStmt, DbStmt.Reply⟩

/-! ## Conditions of the token queries -/

/-- `revoked_at IS NULL`. -/
def YggdrasilToken.unrevoked (t : YggdrasilToken) : Bool := t.revokedAt.isNone

/-- `user_id = ? AND revoked_at IS NULL`. -/
def YggdrasilToken.activeFor (userId : Nat) (t : YggdrasilToken) : Bool :=
  t.userId = userId && t.unrevoked

/-- `selected_profile_id = ? AND revoked_at IS NULL`. -/
def YggdrasilToken.activeOn (profileId : Nat) (t : YggdrasilToken) : Bool :=
  t.selectedProfileId = some profileId && t.unrevoked

/-- `user_id = ? AND revoked_at >= ?`. -/
def YggdrasilToken.revokedSince (userId since : Nat) (t : YggdrasilToken) : Bool :=
  t.userId = userId &&
    (match t.revokedAt with
      | none => false
      | some r => since ≤ r)

/-- `SET revoked_at = ?`. -/
def YggdrasilToken.revoke (now : Nat) (t : YggdrasilToken) : YggdrasilToken :=
  { t with revokedAt := some now }

/-- `SET temporarily_invalidated_at = ?`. -/
def YggdrasilToken.temporarilyInvalidate (now : Nat) (t : YggdrasilToken) :
    YggdrasilToken :=
  { t with temporarilyInvalidatedAt := some now }

namespace Db

/-- Update token rows in columns outside of the two unique indexes. -/
def modifyTokens (db : Db) (p : YggdrasilToken → Bool)
    (f : YggdrasilToken → YggdrasilToken)
    (hid : ∀ t, (f t).id = t.id)
    (hhash : ∀ t, (f t).accessTokenHash = t.accessTokenHash) : Db :=
  let hclash := fun a b : YggdrasilToken =>
    show tokenSchema.clash (f a) b = tokenSchema.clash a b by
      simp [tokenSchema, hid, hhash]
  { db with tokens := db.tokens.modify p f hid hclash }

/-- `UPDATE yggdrasil_tokens SET revoked_at = now WHERE p`. -/
def revokeTokens (db : Db) (p : YggdrasilToken → Bool) : Db :=
  db.modifyTokens p (YggdrasilToken.revoke db.now) (fun _ => rfl) fun _ => rfl

/-- Deleting a profile sets the selection of its tokens to null and removes
its texture bindings (foreign keys). -/
def deleteProfiles (db : Db) (p : MinecraftProfile → Bool) : Db :=
  let gone := (db.profiles.select p).map MinecraftProfile.id
  let db := db.modifyTokens
    (fun t => t.selectedProfileId.any fun i => gone.contains i)
    (fun t => { t with selectedProfileId := none }) (fun _ => rfl) fun _ => rfl
  { db with
    profiles := db.profiles.delete p
    profileTextures := db.profileTextures.filter fun i => !gone.contains i }

/-- Deleting an account cascades to its profiles, tokens and bans. -/
def deleteUser (db : Db) (id : Nat) : Db :=
  let db := db.deleteProfiles fun p => p.userId = id
  { db with
    users := db.users.delete fun u => u.id = id
    tokens := db.tokens.delete fun t => t.userId = id
    bans := db.bans.delete fun b => b.userId = id }

/-- The row an account insert writes. -/
def newUser (id : Nat) (input : CreateUser) : User where
  id := id
  publicUuid := input.publicUuid
  username := input.username
  email := input.email
  passwordHash := input.passwordHash
  role := input.role
  status := .active
  mustChangePassword := false
  sessionVersion := 1
  emailVerifiedAt := input.emailVerifiedAt

/-- The row a profile insert writes. -/
def newProfile (now id : Nat) (input : CreateProfile) : MinecraftProfile where
  id := id
  userId := input.userId
  uuid := input.uuid
  name := input.name
  normalizedName := normalizeProfileName input.name
  source := input.source
  textureModel := input.textureModel
  uploadableTextures := input.uploadableTextures
  renameCount := 0
  createdAt := now
  updatedAt := now

/-- The row a token insert writes. -/
def newToken (id : Nat) (input : CreateYggdrasilToken) : YggdrasilToken where
  id := id
  userId := input.userId
  accessTokenHash := input.accessTokenHash
  clientToken := input.clientToken
  selectedProfileId := input.selectedProfileId
  issuedAt := input.issuedAt
  expiresAt := input.expiresAt
  revokedAt := none
  temporarilyInvalidatedAt := none
  userAgent := input.userAgent
  ipAddress := input.ipAddress

/-- The foreign keys of a token row: its user exists, and so does its profile
when it has one. -/
def tokenForeignKeys (db : Db) (input : CreateYggdrasilToken) : Bool :=
  (db.users.find? fun u => u.id = input.userId).isSome &&
    (match input.selectedProfileId with
      | none => true
      | some p => (db.profiles.find? fun q => q.id = p).isSome)

/-- The row `update_admin` writes over `u`. -/
def patchUser (patch : UserPatch) (u : User) : User :=
  { u with
    username := patch.username.getD u.username
    email := patch.email.orElse fun _ => u.email
    passwordHash := patch.passwordHash.getD u.passwordHash
    role := patch.role.getD u.role
    status := patch.status.getD u.status
    mustChangePassword := patch.mustChangePassword.getD u.mustChangePassword
    sessionVersion := patch.sessionVersion.getD u.sessionVersion }

/-- The row `update_name_by_id` writes over `p`. -/
def renamedProfile (now : Nat) (name : String) (renameCount : Int32)
    (p : MinecraftProfile) : MinecraftProfile :=
  { p with
    name := name
    normalizedName := normalizeProfileName name
    renameCount := renameCount
    updatedAt := now }

/-- `find_effective_for_scope`. -/
def findEffectiveBan (db : Db) (userId : Nat) (scope : UserBanScope) :
    Option UserBan :=
  let effective := db.bans.select fun b => b.userId = userId && b.effectiveAt db.now
  (effective.insertionSort fun a b => b.createdAt ≤ a.createdAt).find? fun b =>
    b.scopes.contains scope

/-- `list_enabled_ordered`. -/
def listEnabledForwardServers (db : Db) : List ForwardServer :=
  (db.forwardServers.filter fun f => f.enabled && 0 < f.weight).insertionSort
    fun a b => a.priority < b.priority ∨ (a.priority = b.priority ∧ a.id ≤ b.id)

end Db

/-- What the database does with one statement. -/
def DbStmt.exec : (i : DbStmt) → Db → i.Reply × Db
  | .now, db => (db.now, db)
  | .advanceClock ms, db => ((), { db with now := db.now + ms })
  | .userFindById id, db => (db.users.find? fun u => u.id = id, db)
  | .userFindByIdentifier s, db =>
      (db.users.find? fun u => u.username = s || u.email = some s, db)
  | .userFindByUsernameCaseInsensitive s, db =>
      (db.users.find? fun u => toAsciiLowercase u.username = toAsciiLowercase s, db)
  | .userInsert input, db =>
      let (id, users) := db.users.nextId
      match users.insert? (Db.newUser id input) with
      | some users => (some (Db.newUser id input), { db with users := users })
      | none => (none, { db with users := users })
  | .userUpdate id patch, db =>
      match db.users.find? fun u => u.id = id with
      | none => (none, db)
      | some u =>
          match db.users.update? (fun u => u.id = id) (Db.patchUser patch)
            (fun _ => rfl) with
          | some users => (some (Db.patchUser patch u), { db with users := users })
          | none => (none, db)
  | .userDelete id, db => ((), db.deleteUser id)
  | .profileFindById id, db => (db.profiles.find? fun p => p.id = id, db)
  | .profileFindByUuid uuid, db => (db.profiles.find? fun p => p.uuid = uuid, db)
  | .profileFindByUuidForUser uuid userId, db =>
      (db.profiles.find? fun p => p.uuid = uuid && p.userId = userId, db)
  | .profileFindByName name, db =>
      (db.profiles.find? fun p => p.normalizedName = normalizeProfileName name, db)
  | .profileListByUser userId, db =>
      ((db.profiles.select fun p => p.userId = userId).insertionSort
        fun a b => a.id ≤ b.id, db)
  | .profileCountByUser userId, db =>
      ((db.profiles.select fun p => p.userId = userId).length, db)
  | .profileInsert input, db =>
      -- the sequence moves even when the insert is refused
      let (id, profiles) := db.profiles.nextId
      let row := Db.newProfile db.now id input
      match db.users.find? fun u => u.id = input.userId with
      | none => (none, { db with profiles := profiles })
      | some _ =>
          match profiles.insert? row with
          | some profiles => (some row, { db with profiles := profiles })
          | none => (none, { db with profiles := profiles })
  | .profileUpdateName id name renameCount, db =>
      match db.profiles.find? fun p => p.id = id with
      | none => (none, db)
      | some p =>
          match db.profiles.update? (fun p => p.id = id)
            (Db.renamedProfile db.now name renameCount) (fun _ => rfl) with
          | some profiles =>
              (some (Db.renamedProfile db.now name renameCount p),
                { db with profiles := profiles })
          | none => (none, db)
  | .profileDelete id, db => ((), db.deleteProfiles fun p => p.id = id)
  | .profileTexturesDelete profileId, db =>
      (db.profileTextures.count profileId,
        { db with profileTextures := db.profileTextures.filter (· ≠ profileId) })
  | .tokenFindByAccessHash hash, db =>
      (db.tokens.find? fun t => t.accessTokenHash = hash, db)
  | .tokenListActiveHashesForUser userId, db =>
      ((db.tokens.select (YggdrasilToken.activeFor userId)).map (·.accessTokenHash), db)
  | .tokenListActiveHashesForSelectedProfile profileId, db =>
      ((db.tokens.select (YggdrasilToken.activeOn profileId)).map (·.accessTokenHash), db)
  | .tokenListRecentRevokedHashesForUser userId since, db =>
      ((db.tokens.select (YggdrasilToken.revokedSince userId since)).map (·.accessTokenHash), db)
  | .tokenListActiveByIssuedDesc userId, db =>
      ((db.tokens.select (YggdrasilToken.activeFor userId)).insertionSort
        fun a b => b.issuedAt ≤ a.issuedAt, db)
  | .tokenNextId, db =>
      (db.tokens.nextId.1, { db with tokens := db.tokens.nextId.2 })
  | .tokenInsert id input, db =>
      if db.tokenForeignKeys input then
        match db.tokens.insert? (Db.newToken id input) with
        | some tokens => (some (Db.newToken id input), { db with tokens := tokens })
        | none => (none, db)
      else (none, db)
  | .tokenSetRevoked id, db =>
      ((db.tokens.find? fun t => t.id = id).isSome,
        db.revokeTokens fun t => t.id = id)
  | .tokenRevokeAllForUser userId, db =>
      ((db.tokens.select (YggdrasilToken.activeFor userId)).length,
        db.revokeTokens (YggdrasilToken.activeFor userId))
  | .tokenRevokeAllForSelectedProfile profileId, db =>
      ((db.tokens.select (YggdrasilToken.activeOn profileId)).length,
        db.revokeTokens (YggdrasilToken.activeOn profileId))
  | .tokenTemporarilyInvalidateAllForSelectedProfile profileId, db =>
      let p := fun t : YggdrasilToken =>
        t.activeOn profileId && t.temporarilyInvalidatedAt.isNone
      ((db.tokens.select p).length,
        db.modifyTokens p (YggdrasilToken.temporarilyInvalidate db.now)
          (fun _ => rfl) fun _ => rfl)
  | .banFindEffectiveForScope userId scope, db =>
      (db.findEffectiveBan userId scope, db)
  | .banInsert input, db =>
      let (id, bans) := db.bans.nextId
      let row : UserBan :=
        ⟨id, input.userId, input.scopes, .active, input.startsAt, input.expiresAt,
          db.now⟩
      match db.users.find? fun u => u.id = input.userId with
      | none => (none, { db with bans := bans })
      | some _ =>
          match bans.insert? row with
          | some bans => (some row, { db with bans := bans })
          | none => (none, { db with bans := bans })
  | .banSetRevoked id, db =>
      ((db.bans.find? fun b => b.id = id).isSome,
        { db with
          bans := db.bans.modify (fun b => b.id = id)
            (fun b => { b with status := .revoked }) (fun _ => rfl)
            (fun _ _ => rfl) })
  | .forwardServerListEnabledOrdered, db => (db.listEnabledForwardServers, db)

/-- The database as a machine of single statements. -/
@[reducible] def dbMachine : Machine dbSignature where
  State := Db
  exec := DbStmt.exec

/-- Programs that talk to the database only. -/
abbrev DbProg := Prog dbSignature AsterError

/-- Issue one SQL statement. -/
def sql (i : DbStmt) : DbProg i.Reply := Prog.stmt (S := dbSignature) i

/-- A query that has to find a row, or a write that has to be accepted. -/
def DbProg.required {α : Type} (e : AsterError) : Option α → DbProg α
  | some a => .ok a
  | none => .err e

/-! ## Repositories -/

/-- `user_repo::find_by_id`. -/
def userFindById (id : Nat) : DbProg User := do
  DbProg.required (.recordNotFound s!"user #{id}") (← sql (.userFindById id))

/-- `minecraft_profile_repo::find_by_id`. -/
def profileFindById (id : Nat) : DbProg MinecraftProfile := do
  DbProg.required (.recordNotFound s!"minecraft profile #{id}")
    (← sql (.profileFindById id))

/-- `minecraft_profile_repo::create_with_source`. -/
def profileCreateWithSource (input : CreateProfile) : DbProg MinecraftProfile := do
  DbProg.required .databaseOperation (← sql (.profileInsert input))

/-- `minecraft_profile_repo::delete_by_id`. -/
def profileDeleteById (id : Nat) : DbProg (Option MinecraftProfile) := do
  match ← sql (.profileFindById id) with
  | none => pure none
  | some existing =>
      sql (.profileDelete id)
      pure (some existing)

/-- `minecraft_profile_repo::update_name_by_id`; in a release build the count wraps. -/
def profileUpdateNameById (id : Nat) (name : String) :
    DbProg (Option MinecraftProfile) := do
  match ← sql (.profileFindById id) with
  | none => pure none
  | some existing =>
      let updated ← DbProg.required .databaseOperation
        (← sql (.profileUpdateName id name (existing.renameCount + 1)))
      pure (some updated)

/-- `yggdrasil_token_repo::create`. -/
def tokenCreate (input : CreateYggdrasilToken) : DbProg YggdrasilToken := do
  let id ← sql .tokenNextId
  DbProg.required .databaseOperation (← sql (.tokenInsert id input))

/-- `UPDATE yggdrasil_tokens SET revoked_at = now WHERE id = ?`, which has to
find its row. -/
def tokenSetRevoked (id : Nat) : DbProg Unit := do
  if ← sql (.tokenSetRevoked id) then pure () else .err .databaseOperation

/-- `yggdrasil_token_repo::revoke_by_access_hash`. -/
def revokeByAccessHash (hash : String) : DbProg Bool := do
  match ← sql (.tokenFindByAccessHash hash) with
  | none => pure false
  | some token =>
      if token.revokedAt.isSome then
        pure false
      else do
        tokenSetRevoked token.id
        pure true

/-- Sort and drop repetitions. -/
def sortDedup (hashes : List String) : List String :=
  (hashes.insertionSort (· ≤ ·)).dedup

/-- `yggdrasil_token_repo::revoke_all_for_user_returning_hashes`. -/
def revokeAllForUserReturningHashes (userId : Nat) :
    DbProg (Nat × List String) := do
  let before ← sql (.tokenListActiveHashesForUser userId)
  let revokedSince := (← sql .now) - 10000
  let already ← sql (.tokenListRecentRevokedHashesForUser userId revokedSince)
  let rowsAffected ← sql (.tokenRevokeAllForUser userId)
  let recently ← sql (.tokenListRecentRevokedHashesForUser userId revokedSince)
  let hashes := before ++ recently.filter fun hash => !already.contains hash
  pure (rowsAffected, sortDedup hashes)

/-- `yggdrasil_token_repo::prune_oldest_for_user`. -/
def pruneOldestForUser (userId keepCount : Nat) : DbProg (List String) := do
  let tokens ← sql (.tokenListActiveByIssuedDesc userId)
  let pruned := tokens.drop keepCount
  Prog.forEach pruned fun token => tokenSetRevoked token.id
  pure (pruned.map (·.accessTokenHash))

end AsterYggdrasil
