import AsterYggdrasil.Yggdrasil.Database

/-!
# The token service

The service sees the database and the shared cache.  Its atomic steps are
single SQL statements on the connection pool, whole transactions, and single
cache operations; `serviceMachine` executes them.  A transaction that fails is
rolled back.

On top of it stands `token.rs`: `tokenForOperation` with its read-through
cache, issuing, refreshing and revoking.
-/

namespace AsterYggdrasil

open Interleave Relational

/-- The part of `RuntimeYggdrasilPolicy` the modelled functions read. -/
structure RuntimeYggdrasilPolicy where
  allowProfileNameLogin : Bool
  tokenTtlDays : Nat
  maxActiveTokens : Nat
  maxProfilesPerUser : Nat
  maxProfileRenames : Nat
  mojangNameCheckEnabled : Bool
  uploadableTexturesValue : String
  deriving DecidableEq, Repr

/-- The arguments of `issue_token_in_connection`.  `accessTokenHash` is the
hash of the token that `new_short_token` draws. -/
structure IssueToken where
  userId : Nat
  clientToken : String
  selectedProfileId : Option Nat
  tokenTtlDays : Nat
  maxActiveTokens : Nat
  userAgent : Option String
  ipAddress : Option String
  accessTokenHash : String
  deriving DecidableEq, Repr

structure IssuedToken where
  tokenId : Nat
  accessTokenHash : String
  deriving DecidableEq, Repr

/-- The columns `update_user` changes, after normalisation. -/
structure AdminUpdateUser where
  username : Option String
  email : Option String
  passwordHash : Option String
  role : Option UserRole
  status : Option UserStatus
  mustChangePassword : Option Bool
  deriving DecidableEq, Repr

/-- `RenameMinecraftProfileResult`. -/
structure RenameResult where
  profile : MinecraftProfile
  oldName : String
  temporarilyInvalidatedTokenCount : Nat
  deriving DecidableEq, Repr

/-! ## Transactions -/

/-- The transactions the service opens. -/
inductive Txn
  | issueToken (args : IssueToken)
  | refreshToken (oldAccessTokenHash : String) (args : IssueToken)
  | renameProfile (profile : MinecraftProfile) (newName : String)
  | updateUser (id : Nat) (input : AdminUpdateUser)

@[reducible] def Txn.Result : Txn → Type
  | .issueToken _ | .refreshToken _ _ => IssuedToken × List String
  | .renameProfile _ _ => RenameResult
  | .updateUser _ _ => User

/-- One day on the clock. -/
def msPerDay : Nat := 86400000

/-- `i64::MAX`. -/
def i64Max : Nat := 9223372036854775807

/-- The end of the calendar, `DateTime::<Utc>::MAX_UTC`.  Adding a duration to a time
panics behind it. -/
def maxUtc : Nat := 8210266876799999

/-- `issue_token_in_connection`.  The lifetime has to fit an `i64`, and to end within
the calendar. -/
def issueTokenInConnection (args : IssueToken) :
    DbProg (IssuedToken × List String) := do
  let now ← sql .now
  Prog.rejectIf (i64Max < args.tokenTtlDays)
    (.numberOutOfRange "yggdrasil token ttl days")
  Prog.rejectIf (maxUtc < now + args.tokenTtlDays * msPerDay) .panicked
  let token ← tokenCreate
    { userId := args.userId
      accessTokenHash := args.accessTokenHash
      clientToken := args.clientToken
      selectedProfileId := args.selectedProfileId
      issuedAt := now
      expiresAt := now + args.tokenTtlDays * msPerDay
      userAgent := args.userAgent
      ipAddress := args.ipAddress }
  let prunedHashes ← pruneOldestForUser args.userId args.maxActiveTokens
  pure (⟨token.id, args.accessTokenHash⟩, prunedHashes)

/-- The identity on the statements of the database. -/
def sqlHom : Signature.Hom dbSignature dbSignature := ⟨id, fun _ r => r⟩

/-- Convert the errors of a repository call. -/
def inTxn {α : Type} (g : AsterError → ServiceError) (p : DbProg α) :
    Prog dbSignature ServiceError α := p.hoist sqlHom g

/-- The statements of the refresh transaction. -/
def refreshTokenTxn (oldAccessTokenHash : String) (args : IssueToken) :
    Prog dbSignature ServiceError (IssuedToken × List String) := do
  let revoked ← inTxn .ofAster (revokeByAccessHash oldAccessTokenHash)
  Prog.rejectIf (!revoked) (.new .invalidToken)
  inTxn .ofAster (issueTokenInConnection args)

/-- The statements of the rename transaction. -/
def renameProfileTxn (profile : MinecraftProfile) (newName : String) :
    DbProg RenameResult := do
  let updated ← DbProg.required
    (.recordNotFound s!"minecraft profile '{profile.uuid}'")
    (← profileUpdateNameById profile.id newName)
  let count ← sql (.tokenTemporarilyInvalidateAllForSelectedProfile profile.id)
  pure ⟨updated, profile.name, count⟩

/-- `auth_service::shared::ensure_username_available`. -/
def ensureUsernameAvailable (username : String) (ownerUserId : Option Nat) :
    DbProg Unit := do
  let user ← sql (.userFindByUsernameCaseInsensitive username)
  Prog.rejectIf (user.any fun u => some u.id ≠ ownerUserId)
    (.validation (some .authUsernameExists) "username already exists")
  let profile ← sql (.profileFindByName username)
  Prog.rejectIf (profile.any fun p => some p.userId ≠ ownerUserId)
    (.validation (some .authUsernameExists) "username already exists")

/-- Addition on `i64` in a release build. -/
def i64Add (a b : Int) : Int :=
  (a + b + (i64Max + 1)) % (2 * (i64Max + 1)) - (i64Max + 1)

/-- `user_repo::update_admin`. -/
def userUpdateAdmin (id : Nat) (input : AdminUpdateUser) (bump : Bool) :
    DbProg User := do
  let existing ← userFindById id
  DbProg.required .databaseOperation
    (← sql (.userUpdate id
      { username := input.username
        email := input.email
        passwordHash := input.passwordHash
        role := input.role
        status := input.status
        mustChangePassword := input.mustChangePassword
        sessionVersion :=
          if bump then some (i64Add existing.sessionVersion 1) else none }))

/-- The statements of the admin update transaction. -/
def updateUserTxn (id : Nat) (input : AdminUpdateUser) : DbProg User := do
  match input.username with
  | none => pure ()
  | some username => ensureUsernameAvailable username (some id)
  userUpdateAdmin id input
    (input.passwordHash.isSome || input.status = some .disabled ||
      input.mustChangePassword.isSome)

/-- What a transaction executes. -/
def Txn.body : (t : Txn) → Prog dbSignature ServiceError t.Result
  | .issueToken args => inTxn .ofAster (issueTokenInConnection args)
  | .refreshToken old args => refreshTokenTxn old args
  | .renameProfile profile newName => inTxn .aster (renameProfileTxn profile newName)
  | .updateUser id input => inTxn .aster (updateUserTxn id input)

/-! ## The machine of the service -/

/-- Database and shared cache.  A join session carries the time until which it
is kept; token entries are kept. -/
structure ServiceState where
  db : Db
  tokenCache : String → Option YggdrasilToken
  joinCache : String → Option (JoinSession × Nat)
  forwardCache : Option (List ForwardServer)
  nameSummaries : String → Option YggdrasilProfile

/-- One atomic step of the service. -/
inductive ServiceStmt
  | db (i : DbStmt)
  | txn (t : Txn)
  | getToken (hash : String)
  | setToken (hash : String) (token : YggdrasilToken)
  | deleteToken (hash : String)
  | getJoinSession (serverId : String)
  | setJoinSession (serverId : String) (session : JoinSession)
  | getForwardServers
  | setForwardServers (servers : List ForwardServer)
  | deleteProfileNameSummary (name : String)

@[reducible] def ServiceStmt.Reply : ServiceStmt → Type
  | .db i => i.Reply
  | .txn t => Except ServiceError t.Result
  | .getToken _ => Option YggdrasilToken
  | .getJoinSession _ => Option JoinSession
  | .getForwardServers => Option (List ForwardServer)
  | .setToken _ _ | .deleteToken _ | .setJoinSession _ _ | .setForwardServers _
  | .deleteProfileNameSummary _ => Unit

@[reducible] def serviceSignature : Signature := ⟨ServiceStmt, ServiceStmt.Reply⟩

/-- `JOIN_SESSION_TTL_SECS` on the clock. -/
def joinSessionTtl : Nat := 30000

/-- Run a transaction: commit on success, roll back on failure. -/
def Txn.commit (t : Txn) (db : Db) : Except ServiceError t.Result × Db :=
  match t.body.run dbMachine db with
  | (.ok a, db') => (.ok a, db')
  | (.error e, _) => (.error e, db)

/-- What one step does. -/
def ServiceStmt.exec : (i : ServiceStmt) → ServiceState → i.Reply × ServiceState
  | .db i, s => ((i.exec s.db).1, { s with db := (i.exec s.db).2 })
  | .txn t, s => ((t.commit s.db).1, { s with db := (t.commit s.db).2 })
  | .getToken hash, s => (s.tokenCache hash, s)
  | .setToken hash token, s =>
      ((), { s with tokenCache := Function.update s.tokenCache hash (some token) })
  | .deleteToken hash, s =>
      ((), { s with tokenCache := Function.update s.tokenCache hash none })
  | .getJoinSession serverId, s =>
      ((s.joinCache serverId).bind fun (session, until_) =>
        if s.db.now < until_ then some session else none, s)
  | .setJoinSession serverId session, s =>
      ((), { s with
        joinCache := Function.update s.joinCache serverId
          (some (session, s.db.now + joinSessionTtl)) })
  | .getForwardServers, s => (s.forwardCache, s)
  | .setForwardServers servers, s => ((), { s with forwardCache := some servers })
  | .deleteProfileNameSummary name, s =>
      ((), { s with
        nameSummaries :=
          Function.update s.nameSummaries (toAsciiLowercase name) none })

@[reducible] def serviceMachine : Machine serviceSignature where
  State := ServiceState
  exec := ServiceStmt.exec

/-- Programs of the service. -/
abbrev Service := Prog serviceSignature ServiceError

/-- One atomic step. -/
def step (i : ServiceStmt) : Service i.Reply := Prog.stmt (S := serviceSignature) i

/-- One SQL statement on the connection pool. -/
def query (i : DbStmt) : Service i.Reply := step (.db i)

/-- SQL statements of the service, each on its own connection. -/
def poolHom : Signature.Hom dbSignature serviceSignature := ⟨.db, fun _ r => r⟩

/-- A repository call on the connection pool. -/
def onPool {α : Type} (g : AsterError → ServiceError) (p : DbProg α) : Service α :=
  p.hoist poolHom g

/-- `with_transaction`. -/
def withTransaction (t : Txn) : Service t.Result := do
  match ← step (.txn t) with
  | .ok a => .ok a
  | .error e => .err e

/-- `ban_service::is_user_banned`. -/
def isUserBanned (userId : Nat) (scope : UserBanScope) : Service Bool := do
  let ban ← query (.banFindEffectiveForScope userId scope)
  pure ban.isSome

/-! ## Tokens -/

/-- `invalidate_token_cache_hashes`. -/
def invalidateTokenCacheHashes (hashes : List String) : Service Unit :=
  Prog.forEach hashes fun hash => step (.deleteToken hash)

/-- The token of a hash, from the cache or else from the database. -/
def lookupToken (hash : String) : Service YggdrasilToken := do
  match ← step (.getToken hash) with
  | some token => pure token
  | none =>
      match ← query (.tokenFindByAccessHash hash) with
      | some token => pure token
      | none => .err (.new .invalidToken)

/-- `token_for_operation`. -/
def tokenForOperation (accessToken : String) (clientToken : Option String)
    (allowTemporarilyInvalid : Bool) : Service YggdrasilToken := do
  let token ← lookupToken accessToken
  let now ← query .now
  Prog.rejectIf (token.revokedAt.isSome || token.expiresAt ≤ now)
    (.new .invalidToken)
  step (.setToken accessToken token)
  Prog.rejectIf (token.temporarilyInvalidatedAt.isSome && !allowTemporarilyInvalid)
    (.new .invalidToken)
  Prog.rejectIf (clientToken.any fun c => token.clientToken ≠ c) (.new .invalidToken)
  let banned ← isUserBanned token.userId .yggdrasilAccess
  Prog.rejectIf banned (.new .invalidToken)
  pure token

/-- `active_token`. -/
def activeToken (accessToken : String) (clientToken : Option String) :
    Service YggdrasilToken := tokenForOperation accessToken clientToken false

/-- `refreshable_token`. -/
def refreshableToken (accessToken : String) (clientToken : Option String) :
    Service YggdrasilToken := tokenForOperation accessToken clientToken true

/-- `issue_token`. -/
def issueToken (args : IssueToken) : Service IssuedToken := do
  let (issued, prunedHashes) ← withTransaction (.issueToken args)
  invalidateTokenCacheHashes prunedHashes
  pure issued

/-- `refresh_token`. -/
def refreshToken (oldAccessToken : String) (args : IssueToken) :
    Service IssuedToken := do
  let (issued, prunedHashes) ← withTransaction (.refreshToken oldAccessToken args)
  invalidateTokenCacheHashes (prunedHashes ++ [oldAccessToken])
  pure issued

/-- The profile of an optional selection, which has to exist. -/
def loadSelectedProfile : Option Nat → Service (Option MinecraftProfile)
  | none => pure none
  | some profileId => do
      let profile ← onPool .ofAster (profileFindById profileId)
      pure (some profile)

/-- `selected_profile_for_token`. -/
def selectedProfileForToken (token : Option YggdrasilToken) :
    Service (Option MinecraftProfile) :=
  loadSelectedProfile (token.bind (·.selectedProfileId))

/-- `revoke_by_access_token`. -/
def revokeByAccessToken (accessToken : String) : Service Unit := do
  let _ ← onPool .ofAster (revokeByAccessHash accessToken)
  step (.deleteToken accessToken)

/-- `revoke_all_for_user`. -/
def revokeAllForUser (userId : Nat) : Service Unit := do
  let (_, hashes) ← onPool .ofAster (revokeAllForUserReturningHashes userId)
  invalidateTokenCacheHashes hashes

/-- `invalidate_token_cache_for_selected_profile`. -/
def invalidateTokenCacheForSelectedProfile (selectedProfileId : Nat) :
    Service (List String) := do
  let hashes ← query (.tokenListActiveHashesForSelectedProfile selectedProfileId)
  invalidateTokenCacheHashes hashes
  pure hashes

/-- `invalidate_token_cache_for_user`. -/
def invalidateTokenCacheForUser (userId : Nat) : Service (List String) := do
  let hashes ← query (.tokenListActiveHashesForUser userId)
  invalidateTokenCacheHashes hashes
  pure hashes

/-! ## Repository calls as steps of the service -/

section Pool

open Prog

variable (g : AsterError → ServiceError)

theorem onPool_tokenSetRevoked (id : Nat) :
    onPool g (tokenSetRevoked id) =
      (query (.tokenSetRevoked id)).bind fun found =>
        if found then .ok () else .err (g .databaseOperation) := by
  simp only [onPool, tokenSetRevoked, sql, query, step, bind_eq, hoist_bind]
  congr 1
  funext found
  cases found <;> rfl

theorem onPool_revokeByAccessHash (hash : String) :
    onPool g (revokeByAccessHash hash) =
      (query (.tokenFindByAccessHash hash)).bind fun found =>
        match found with
        | none => .ok false
        | some t =>
            if t.revokedAt.isSome then .ok false
            else (onPool g (tokenSetRevoked t.id)).bind fun _ => .ok true := by
  simp only [onPool, revokeByAccessHash, sql, query, step, bind_eq, hoist_bind]
  congr 1
  funext found
  cases found with
  | none => rfl
  | some t =>
      dsimp only
      split
      · rfl
      · simp

theorem onPool_revokeAllForUser (userId : Nat) :
    onPool g (revokeAllForUserReturningHashes userId) =
      (query (.tokenListActiveHashesForUser userId)).bind fun before =>
      (query .now).bind fun now =>
      (query (.tokenListRecentRevokedHashesForUser userId (now - 10000))).bind
        fun already =>
      (query (.tokenRevokeAllForUser userId)).bind fun rowsAffected =>
      (query (.tokenListRecentRevokedHashesForUser userId (now - 10000))).bind
        fun recently =>
      .ok (rowsAffected,
        sortDedup (before ++ recently.filter fun hash => !already.contains hash)) :=
  rfl

theorem onPool_userFindById (id : Nat) :
    onPool g (userFindById id) =
      (query (.userFindById id)).bind fun found =>
        match found with
        | some u => .ok u
        | none => .err (g (.recordNotFound s!"user #{id}")) := by
  simp only [onPool, userFindById, sql, query, step, bind_eq, hoist_bind]
  congr 1
  funext found
  cases found <;> rfl

theorem onPool_profileFindById (id : Nat) :
    onPool g (profileFindById id) =
      (query (.profileFindById id)).bind fun found =>
        match found with
        | some p => .ok p
        | none => .err (g (.recordNotFound s!"minecraft profile #{id}")) := by
  simp only [onPool, profileFindById, sql, query, step, bind_eq, hoist_bind]
  congr 1
  funext found
  cases found <;> rfl

end Pool

end AsterYggdrasil
