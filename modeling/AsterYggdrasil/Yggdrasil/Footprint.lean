import AsterYggdrasil.Yggdrasil.Profile

/-!
# What each function may touch

Every step of the service is of one kind: it binds a token, revokes tokens,
fills a cache entry that later decides a request, renames or deletes a profile,
changes or deletes an account, or it is *plain*.  Here every function of the service
gets the kinds of the steps it consists of, once (`Call.uses_body`); a proof
about a whole run then looks only at the kinds that matter to it.
-/

namespace AsterYggdrasil

open Interleave Relational Prog

/-- What a step does to tokens, join records, profiles and accounts. -/
inductive StepKind
  | plain | bindToken | revoke | setToken | setJoinSession | rename | deleteProfile
  | updateUser | deleteAccount
  deriving DecidableEq

def DbStmt.kind : DbStmt → StepKind
  | .tokenInsert _ _ => .bindToken
  | .tokenSetRevoked _ | .tokenRevokeAllForUser _
  | .tokenRevokeAllForSelectedProfile _ => .revoke
  | .tokenTemporarilyInvalidateAllForSelectedProfile _ | .profileUpdateName _ _ _ =>
      .rename
  | .profileDelete _ => .deleteProfile
  | .userUpdate _ _ => .updateUser
  | .userDelete _ => .deleteAccount
  | _ => .plain

def ServiceStmt.kind : ServiceStmt → StepKind
  | .db i => i.kind
  | .txn (.issueToken _) | .txn (.refreshToken _ _) => .bindToken
  | .txn (.renameProfile _ _) => .rename
  | .txn (.updateUser _ _) => .updateUser
  | .setToken _ _ => .setToken
  | .setJoinSession _ _ => .setJoinSession
  | .getToken _ | .deleteToken _ | .getJoinSession _ | .getForwardServers
  | .setForwardServers _ | .deleteProfileNameSummary _ => .plain

/-- A program of plain steps and steps of the given kinds. -/
abbrev Uses {α : Type} (kinds : List StepKind) (p : Service α) : Prop :=
  p.Within fun i : ServiceStmt => i.kind = .plain ∨ i.kind ∈ kinds

/-- A program of plain steps. -/
abbrev Plain {α : Type} (p : Service α) : Prop :=
  p.Within fun i : ServiceStmt => i.kind = .plain

/-- A plain program uses no special step. -/
theorem Plain.uses {α : Type} {p : Service α} (hp : Plain p) (kinds : List StepKind) :
    Uses kinds p := hp.mono fun _ h => Or.inl h

/-- More kinds may be named. -/
theorem Uses.mono {α : Type} {kinds kinds' : List StepKind} {p : Service α}
    (hp : Uses kinds p) (h : kinds ⊆ kinds') : Uses kinds' p :=
  Within.mono hp fun _ hi => hi.imp_right fun hk => h hk

/-- A step of such a program is of no other kind. -/
theorem ne_kind {kinds : List StepKind} {kind k : StepKind}
    (h : kind = .plain ∨ kind ∈ kinds) (hplain : k ≠ .plain) (hk : k ∉ kinds) :
    kind ≠ k := by
  rintro rfl
  exact h.elim hplain hk

/-! ## Transactions -/

/-- The kinds of statements of a transaction, besides plain ones. -/
def Txn.kinds : Txn → List StepKind
  | .issueToken _ | .refreshToken _ _ => [.bindToken, .revoke]
  | .renameProfile _ _ => [.rename]
  | .updateUser _ _ => [.updateUser]

/-- A program of plain statements and statements of the given kinds. -/
abbrev DbUses {ε α : Type} (kinds : List StepKind) (p : Prog dbSignature ε α) : Prop :=
  p.Within fun i : DbStmt => i.kind = .plain ∨ i.kind ∈ kinds

/-- An expected row is looked at. -/
theorem dbUses_required {α : Type} {kinds : List StepKind} (e : AsterError)
    (o : Option α) : DbUses kinds (DbProg.required e o) := by
  cases o <;> trivial

/-- Revoking one token. -/
theorem dbUses_tokenSetRevoked (id : Nat) {kinds : List StepKind}
    (h : .revoke ∈ kinds) : DbUses kinds (tokenSetRevoked id) := by
  refine ⟨Or.inr h, fun found => ?_⟩
  cases found <;> trivial

/-- Revoking it by its hash. -/
theorem dbUses_revokeByAccessHash (hash : String) {kinds : List StepKind}
    (h : .revoke ∈ kinds) : DbUses kinds (revokeByAccessHash hash) := by
  refine Within.stmt_bind (Or.inl rfl) fun found => ?_
  cases found with
  | none => trivial
  | some token =>
      dsimp only
      split
      · trivial
      · exact (dbUses_tokenSetRevoked _ h).bind fun _ => trivial

/-- Issuing binds the token and revokes those beyond the limit. -/
theorem dbUses_issueToken (args : IssueToken) :
    DbUses [.bindToken, .revoke] (issueTokenInConnection args) := by
  refine Within.stmt_bind (Or.inl rfl) fun now => Within.rejectIf.bind fun _ => ?_
  refine Within.rejectIf.bind fun _ => ?_
  refine Within.bind (Within.stmt_bind (Or.inl rfl) fun id => ?_) fun token => ?_
  · exact Within.stmt_bind (Or.inr (List.mem_cons_self ..)) fun r => dbUses_required _ r
  · refine Within.bind (Within.stmt_bind (Or.inl rfl) fun tokens => ?_) fun _ => trivial
    refine Within.bind (Within.forEach (fun t => ?_) _) fun _ => trivial
    exact dbUses_tokenSetRevoked _ (by decide)

/-- A rename is one transaction. -/
theorem dbUses_renameProfile (profile : MinecraftProfile) (newName : String) :
    DbUses [.rename] (renameProfileTxn profile newName) := by
  have hrename : ∀ {α : Type} {i : DbStmt} {f : i.Reply → DbProg α}, i.kind = .rename →
      (∀ r, DbUses [.rename] (f r)) → DbUses [.rename] ((sql i).bind f) :=
    fun hi hf => Within.stmt_bind (Or.inr (List.mem_singleton.mpr hi)) hf
  refine Within.bind (Within.stmt_bind (Or.inl rfl) fun found => ?_) fun found => ?_
  · cases found with
    | none => trivial
    | some existing =>
        exact hrename rfl fun r => (dbUses_required _ r).bind fun _ => trivial
  · exact (dbUses_required _ found).bind fun _ => hrename rfl fun _ => trivial

/-- So is an administrator's update. -/
theorem dbUses_updateUser (id : Nat) (input : AdminUpdateUser) :
    DbUses [.updateUser] (updateUserTxn id input) := by
  have hadmin : ∀ bump, DbUses [.updateUser] (userUpdateAdmin id input bump) := by
    intro bump
    refine Within.bind ⟨Or.inl rfl, fun r => dbUses_required _ r⟩ fun existing => ?_
    exact Within.stmt_bind (Or.inr (List.mem_singleton.mpr rfl)) fun r =>
      dbUses_required _ r
  unfold updateUserTxn
  cases input.username with
  | none => exact hadmin _
  | some username =>
      refine Within.bind ?_ fun _ => hadmin _
      refine Within.stmt_bind (Or.inl rfl) fun user => Within.rejectIf.bind fun _ => ?_
      exact Within.stmt_bind (Or.inl rfl) fun profile => Within.rejectIf

/-- The footprint of every transaction. -/
theorem Txn.uses_body (t : Txn) : DbUses t.kinds t.body := by
  cases t with
  | issueToken args => exact (dbUses_issueToken args).hoist
  | refreshToken old args =>
      have hrevoke : DbUses [.bindToken, .revoke] (revokeByAccessHash old) :=
        dbUses_revokeByAccessHash old (by decide)
      refine Within.bind hrevoke.hoist fun r => ?_
      exact Within.rejectIf.bind fun _ => (dbUses_issueToken args).hoist
  | renameProfile profile newName => exact (dbUses_renameProfile profile newName).hoist
  | updateUser id input => exact (dbUses_updateUser id input).hoist

/-- A relation that the statements of a transaction respect is respected by
its commit, and by its roll-back. -/
theorem Txn.commit_of_within (t : Txn) {r : Db → Db → Prop} (hrefl : ∀ db, r db db)
    (htrans : ∀ a b c, r a b → r b c → r a c)
    (hbody : t.body.Within fun i => ∀ db, r db (i.exec db).2) (db : Db) :
    r db (t.commit db).2 := by
  have hrun := Within.run_respects (M := dbMachine) hrefl htrans hbody db
  unfold Txn.commit
  generalize t.body.run dbMachine db = out at hrun ⊢
  obtain ⟨result, db'⟩ := out
  cases result with
  | ok a => exact hrun
  | error e => exact hrefl db

/-- **A commit obeys every preorder** that the statements of its transaction obey. -/
theorem Txn.commit_respects (t : Txn) {r : Db → Db → Prop} (hrefl : ∀ db, r db db)
    (htrans : ∀ a b c, r a b → r b c → r a c)
    (hstep : ∀ i : DbStmt, i.kind = .plain ∨ i.kind ∈ t.kinds →
      ∀ db, r db (i.exec db).2) (db : Db) : r db (t.commit db).2 :=
  t.commit_of_within hrefl htrans (t.uses_body.mono hstep) db

/-- A transaction that fails is rolled back. -/
theorem Txn.commit_error {t : Txn} {db : Db} {e : ServiceError}
    (h : (t.commit db).1 = .error e) : (t.commit db).2 = db := by
  unfold Txn.commit at h ⊢
  generalize t.body.run dbMachine db = out at h ⊢
  obtain ⟨result, db'⟩ := out
  cases result with
  | ok a => cases h
  | error e => rfl

/-- A transaction in a solo run. -/
theorem wp_withTransaction {α : Type} {t : Txn} {f : t.Result → Service α}
    {Q : Except ServiceError α → ServiceState → Prop} {s : ServiceState}
    (hok : ∀ out, (t.commit s.db).1 = .ok out →
      (f out).Wp serviceMachine Q ((ServiceStmt.txn t).exec s).2)
    (herr : ∀ e, Q (.error e) s) :
    ((withTransaction t).bind f).Wp serviceMachine Q s := by
  refine wp_bind.mpr (wp_stmt_bind.mpr ?_)
  cases hcommit : (serviceMachine.exec (.txn t) s).1 with
  | ok out => exact hok out hcommit
  | error e =>
      have hrolled : ((ServiceStmt.txn t).exec s).2 = s := by
        simp only [ServiceStmt.exec]
        rw [Txn.commit_error hcommit]
      have herr := herr e
      rw [← hrolled] at herr
      exact herr

/-! ## Repository calls -/

/-- An expected row is looked at. -/
theorem plain_required {α : Type} {g : AsterError → ServiceError} (e : AsterError)
    (o : Option α) : Plain (onPool g (DbProg.required e o)) := by
  cases o <;> trivial

/-- Finding a user is plain. -/
theorem plain_userFindById (g : AsterError → ServiceError) (id : Nat) :
    Plain (onPool g (userFindById id)) :=
  ⟨rfl, fun r => plain_required _ r⟩

/-- So is finding a profile. -/
theorem plain_profileFindById (g : AsterError → ServiceError) (id : Nat) :
    Plain (onPool g (profileFindById id)) :=
  ⟨rfl, fun r => plain_required _ r⟩

/-- And creating one. -/
theorem plain_profileCreate (g : AsterError → ServiceError) (input : CreateProfile) :
    Plain (onPool g (profileCreateWithSource input)) :=
  ⟨rfl, fun r => plain_required _ r⟩

/-- Deleting one is not. -/
theorem uses_profileDeleteById (g : AsterError → ServiceError) (id : Nat) :
    Uses [.deleteProfile] (onPool g (profileDeleteById id)) := by
  refine ⟨Or.inl rfl, fun r => ?_⟩
  cases r with
  | none => trivial
  | some existing => exact ⟨Or.inr (List.mem_singleton.mpr rfl), fun _ => trivial⟩

/-- The ban check is plain. -/
theorem plain_isUserBanned (userId : Nat) (scope : UserBanScope) :
    Plain (isUserBanned userId scope) := ⟨rfl, fun _ => trivial⟩

/-- So is loading the selected profile. -/
theorem plain_loadSelectedProfile (selected : Option Nat) :
    Plain (loadSelectedProfile selected) := by
  cases selected with
  | none => trivial
  | some profileId => exact (plain_profileFindById _ _).bind fun _ => trivial

/-- Evictions are plain. -/
theorem plain_invalidateTokenCacheHashes (hashes : List String) :
    Plain (invalidateTokenCacheHashes hashes) :=
  have hdelete : ∀ hash, Plain (step (.deleteToken hash)) := fun _ =>
    ⟨rfl, fun _ => trivial⟩
  Within.forEach hdelete hashes

/-- Those of a profile's tokens too. -/
theorem plain_invalidateForProfile (profileId : Nat) :
    Plain (invalidateTokenCacheForSelectedProfile profileId) :=
  Within.stmt_bind rfl fun hashes =>
    (plain_invalidateTokenCacheHashes hashes).bind fun _ => trivial

/-- And those of a user's. -/
theorem plain_invalidateForUser (userId : Nat) :
    Plain (invalidateTokenCacheForUser userId) :=
  Within.stmt_bind rfl fun hashes =>
    (plain_invalidateTokenCacheHashes hashes).bind fun _ => trivial

/-! ## Logging in -/

/-- Finding who logs in only looks. -/
theorem plain_resolveLoginTarget (identifier : String)
    (policy : RuntimeYggdrasilPolicy) :
    Plain (resolveLoginTarget identifier policy) := by
  refine Within.stmt_bind rfl fun user => ?_
  cases user with
  | some user => trivial
  | none =>
      refine Within.rejectIf.bind fun _ => Within.stmt_bind rfl fun profile => ?_
      cases profile with
      | none => trivial
      | some profile => exact (plain_userFindById _ _).bind fun _ => trivial

/-- Checking a password only looks. -/
theorem plain_checkPassword (verify : String → String → Except AsterError Bool)
    (password : String) (user : User) : Plain (checkPassword verify password user) := by
  unfold checkPassword
  cases verify password user.passwordHash with
  | error e => trivial
  | ok valid => exact Within.rejectIf

/-- Choosing the profile of a refreshed token only looks. -/
theorem plain_refreshSelection (existing : YggdrasilToken) (user : User)
    (selected : Option String) : Plain (refreshSelection existing user selected) := by
  cases selected with
  | none => trivial
  | some selected =>
      refine Within.rejectIf.bind fun _ => Within.stmt_bind rfl fun profile => ?_
      cases profile with
      | none => trivial
      | some profile => exact Within.rejectIf.bind fun _ => trivial

/-! ## hasJoined -/

/-- `has_joined` consumes no record. -/
theorem plain_localHasJoined (env : HasJoinedEnv) (req : HasJoinedReq) :
    Plain (localHasJoined env req) := by
  refine Within.stmt_bind rfl fun session => ?_
  cases session with
  | none => trivial
  | some session =>
      simp only
      split
      · refine (plain_profileFindById _ _).bind fun profile => ?_
        refine (plain_isUserBanned _ _).bind fun banned => ?_
        cases banned with
        | true => trivial
        | false =>
            refine Within.bind ?_ fun _ => trivial
            unfold profileWithProperties
            cases env.properties profile <;> trivial
      · trivial

/-- Asking another server changes nothing here. -/
theorem plain_askUpstream (env : HasJoinedEnv) (req : HasJoinedReq)
    (upstream : ForwardServer) : Plain (askUpstream env req upstream) := by
  unfold askUpstream
  cases upstream.providerKind with
  | localProvider =>
      exact (plain_localHasJoined env req).attempt.bind fun _ => trivial
  | remote => trivial

/-- Nor does checking its answer. -/
theorem plain_acceptsForwarded (upstream : ForwardServer)
    (profile : YggdrasilProfile) : Plain (acceptsForwarded upstream profile) := by
  unfold acceptsForwarded
  split
  · refine Within.stmt_bind rfl fun bound => ?_
    cases bound <;> trivial
  · trivial

/-- Server after server. -/
theorem plain_orchestratedLoop (env : HasJoinedEnv) (req : HasJoinedReq)
    (servers : List ForwardServer) : Plain (orchestratedLoop env req servers) := by
  induction servers with
  | nil => trivial
  | cons upstream rest ih =>
      refine (plain_askUpstream env req upstream).bind fun result => ?_
      match result with
      | .error _ => exact ih
      | .ok none => exact ih
      | .ok (some profile) =>
          refine (plain_acceptsForwarded upstream profile).bind fun accepted => ?_
          cases accepted with
          | true => trivial
          | false => exact ih

/-- So `has_joined` is plain as a whole. -/
theorem plain_hasJoined (env : HasJoinedEnv) (req : HasJoinedReq) :
    Plain (hasJoined env req) := by
  refine Within.bind ?_ fun servers => ?_
  · refine Within.stmt_bind rfl fun cached => ?_
    cases cached with
    | some servers => trivial
    | none =>
        exact Within.stmt_bind rfl fun servers => ⟨rfl, fun _ => trivial⟩
  · split
    · exact plain_localHasJoined env req
    · exact plain_orchestratedLoop env req _

/-! ## Profiles -/

/-- The ban check for profiles. -/
theorem plain_ensureMayManageProfiles (userId : Nat) :
    Plain (ensureMayManageProfiles userId) :=
  (plain_isUserBanned _ _).bind fun _ => Within.rejectIf

/-- Checking a name is pure. -/
theorem plain_checkProfileName (name : String) (allow : Bool) :
    Plain (checkProfileName name allow) :=
  Within.rejectIf.bind fun _ => Within.rejectIf

/-- Looking for a name only looks. -/
theorem plain_profileNameTaken (name : String) (owner : Nat) (exclude : Option Nat) :
    Plain (profileNameTaken name owner exclude) := by
  refine Within.stmt_bind rfl fun profile => ?_
  split
  · trivial
  · exact ⟨rfl, fun _ => trivial⟩

/-- Creating a profile is plain. -/
theorem plain_createProfileWithUuid (ctx : ProfileContext)
    (input : CreateProfileInput) : Plain (createProfileWithUuid ctx input) := by
  refine (plain_ensureMayManageProfiles _).bind fun _ => Within.bind ?_ fun _ => ?_
  · unfold checkProfileQuota
    split
    · trivial
    · exact Within.stmt_bind rfl fun _ => Within.rejectIf
  refine (plain_checkProfileName _ _).bind fun _ => Within.bind ?_ fun _ => ?_
  · unfold checkMojangName
    split
    · unfold ensureNameNotReservedByMojang
      split
      · cases ctx.mojangHasName input.name with
        | error e => trivial
        | ok found => exact Within.rejectIf
      · trivial
    · trivial
  refine Within.stmt_bind rfl fun taken => Within.rejectIf.bind fun _ => ?_
  refine (plain_profileNameTaken _ _ _).bind fun _ => Within.rejectIf.bind fun _ => ?_
  exact plain_profileCreate _ _

/-- So is making sure of a bound one. -/
theorem plain_ensureMinecraftProfile (ctx : ProfileContext) (userId : Nat)
    (userRole : UserRole) (uuid name : String) :
    Plain (ensureMinecraftProfile ctx userId userRole uuid name) := by
  refine Within.stmt_bind rfl fun found => ?_
  cases found with
  | some existing => exact Within.rejectIf.bind fun _ => trivial
  | none => exact (plain_createProfileWithUuid _ _).bind fun _ => trivial

/-- Looking for a free name only looks. -/
theorem plain_firstFreeCandidate (userId : Nat) (names : List (String × Bool)) :
    Plain (firstFreeCandidate userId names) := by
  induction names with
  | nil => trivial
  | cons head rest ih =>
      obtain ⟨name, allow⟩ := head
      unfold firstFreeCandidate
      split
      · exact ih
      · refine (plain_profileNameTaken _ _ _).bind fun taken => ?_
        cases taken with
        | true => exact ih
        | false => trivial

/-- With a suffix too. -/
theorem plain_firstFreeSuffix (userId : Nat) (name candidate : String)
    (suffixes : List Nat) : Plain (firstFreeSuffix userId name candidate suffixes) := by
  induction suffixes generalizing candidate with
  | nil => trivial
  | cons suffix rest ih =>
      refine (plain_profileNameTaken _ _ _).bind fun taken => ?_
      cases taken with
      | true => exact ih _
      | false => trivial

/-- A profile created at a login is plain. -/
theorem plain_createFromCandidates (ctx : ProfileContext) (userId : Nat)
    (userRole : UserRole) (names : List (String × Bool)) :
    Plain (createFromCandidates ctx userId userRole names) := by
  unfold createFromCandidates
  cases names.getLast? with
  | none => trivial
  | some last =>
      refine (plain_firstFreeCandidate _ _).bind fun free => ?_
      cases free with
      | some free => exact plain_createProfileWithUuid _ _
      | none =>
          exact (plain_firstFreeSuffix _ _ _ _).bind fun _ =>
            plain_createProfileWithUuid _ _

/-- A transaction is a step of its own kind. -/
theorem uses_withTransaction (t : Txn) :
    Uses [(ServiceStmt.txn t).kind] (withTransaction t) := by
  refine Within.stmt_bind (Or.inr (List.mem_singleton.mpr rfl)) fun r => ?_
  cases r <;> trivial

/-- A rename commits once, and then evicts. -/
theorem uses_renameProfile (policy : RuntimeYggdrasilPolicy) (profile : MinecraftProfile)
    (newName : String) : Uses [.rename] (renameProfile policy profile newName) := by
  refine ((plain_checkProfileName newName false).uses _).bind fun _ => ?_
  split
  · trivial
  · refine Within.rejectIf.bind fun _ => Within.rejectIf.bind fun _ => ?_
    refine ((plain_profileNameTaken _ _ _).uses _).bind fun _ => ?_
    refine Within.rejectIf.bind fun _ => ?_
    refine ((plain_invalidateForProfile _).uses _).bind fun hashes => ?_
    refine (uses_withTransaction (.renameProfile profile newName)).bind fun result => ?_
    refine ((plain_invalidateTokenCacheHashes hashes).uses _).bind fun _ => ?_
    exact ⟨Or.inl rfl, fun _ => ⟨Or.inl rfl, fun _ => trivial⟩⟩

/-- By its owner. -/
theorem uses_renameProfileForUser (policy : RuntimeYggdrasilPolicy) (userId : Nat)
    (uuid newName : String) :
    Uses [.rename] (renameProfileForUser policy userId uuid newName) := by
  refine ((plain_ensureMayManageProfiles _).uses _).bind fun _ => ?_
  refine ((plain_checkProfileName newName false).uses _).bind fun _ => ?_
  refine Within.stmt_bind (Or.inl rfl) fun found => ?_
  cases found with
  | none => trivial
  | some profile => exact (uses_renameProfile _ _ _).bind fun _ => trivial

/-- And by an administrator. -/
theorem uses_adminRenameProfile (policy : RuntimeYggdrasilPolicy) (uuid newName : String) :
    Uses [.rename] (adminRenameProfile policy uuid newName) := by
  refine Within.stmt_bind (Or.inl rfl) fun found => ?_
  cases found with
  | none => trivial
  | some profile => exact uses_renameProfile _ _ _

/-! ## Tokens -/

/-- Issuing a token binds one. -/
theorem uses_issueToken (args : IssueToken) : Uses [.bindToken] (issueToken args) :=
  (uses_withTransaction (.issueToken args)).bind fun out =>
    ((plain_invalidateTokenCacheHashes out.2).uses _).bind fun _ => trivial

/-- Refreshing does, in the transaction that revokes the old one. -/
theorem uses_refreshToken (old : String) (args : IssueToken) :
    Uses [.bindToken] (refreshToken old args) :=
  (uses_withTransaction (.refreshToken old args)).bind fun out =>
    ((plain_invalidateTokenCacheHashes (out.2 ++ [old])).uses _).bind fun _ => trivial

/-- Looking up a token only looks. -/
theorem plain_lookupToken (hash : String) : Plain (lookupToken hash) := by
  refine Within.stmt_bind rfl fun cached => ?_
  cases cached with
  | some token => trivial
  | none =>
      refine Within.stmt_bind rfl fun row => ?_
      cases row <;> trivial

/-- Whoever passes `token_for_operation` writes the token to the cache. -/
theorem uses_tokenForOperation (access : String) (client : Option String)
    (allow : Bool) : Uses [.setToken] (tokenForOperation access client allow) := by
  refine ((plain_lookupToken access).uses _).bind fun token => ?_
  refine Within.stmt_bind (Or.inl rfl) fun now => Within.rejectIf.bind fun _ => ?_
  refine Within.stmt_bind (Or.inr (List.mem_singleton.mpr rfl)) fun _ => ?_
  refine Within.rejectIf.bind fun _ => Within.rejectIf.bind fun _ => ?_
  exact ((plain_isUserBanned _ _).uses _).bind fun _ => Within.rejectIf.bind fun _ => trivial

/-- Revoking by access token. -/
theorem uses_revokeByAccessToken (access : String) :
    Uses [.revoke] (revokeByAccessToken access) :=
  Within.bind (dbUses_revokeByAccessHash access (by decide)).hoist
    fun _ => ⟨Or.inl rfl, fun _ => trivial⟩

/-- Revoking all tokens of a user. -/
theorem uses_revokeAllReturningHashes (g : AsterError → ServiceError) (userId : Nat) :
    Uses [.revoke] (onPool g (revokeAllForUserReturningHashes userId)) := by
  rw [onPool_revokeAllForUser]
  refine Within.stmt_bind (Or.inl rfl) fun _ => Within.stmt_bind (Or.inl rfl) fun _ => ?_
  refine Within.stmt_bind (Or.inl rfl) fun _ => ?_
  refine Within.stmt_bind (Or.inr (List.mem_singleton.mpr rfl)) fun _ => ?_
  exact Within.stmt_bind (Or.inl rfl) fun _ => trivial

/-! ## Endpoints -/

/-- `authenticate` issues a token. -/
theorem uses_authenticate (verify : String → String → Except AsterError Bool)
    (body : AuthenticateReq) (ctx : RequestContext) :
    Uses [.bindToken] (authenticate verify body ctx) := by
  refine Within.rejectIf.bind fun _ => Within.rejectIf.bind fun _ => ?_
  refine ((plain_resolveLoginTarget _ _).uses _).bind fun target => ?_
  refine Within.rejectIf.bind fun _ => Within.rejectIf.bind fun _ => ?_
  refine ((plain_checkPassword _ _ _).uses _).bind fun _ => ?_
  refine ((plain_isUserBanned _ _).uses _).bind fun _ => Within.rejectIf.bind fun _ => ?_
  exact Within.stmt_bind (Or.inl rfl) fun _ => (uses_issueToken _).bind fun _ => trivial

/-- `refresh` checks one and issues another. -/
theorem uses_refresh (body : RefreshReq) (ctx : RequestContext) :
    Uses [.setToken, .bindToken] (refresh body ctx) := by
  refine Within.bind ((uses_tokenForOperation _ _ _).mono (by decide)) fun existing => ?_
  refine ((plain_userFindById _ _).uses _).bind fun user => ?_
  refine Within.rejectIf.bind fun _ => ?_
  refine ((plain_refreshSelection _ _ _).uses _).bind fun selected => ?_
  refine Within.bind ((uses_refreshToken _ _).mono (by decide)) fun issued => ?_
  exact ((plain_loadSelectedProfile _).uses _).bind fun _ => trivial

/-- `validate` only checks. -/
theorem uses_validate (body : TokenReq) : Uses [.setToken] (validate body) :=
  (uses_tokenForOperation _ _ _).bind fun _ => trivial

/-- `invalidate` checks and revokes. -/
theorem uses_invalidate (body : TokenReq) :
    Uses [.setToken, .revoke] (invalidate body) := by
  have hfound : Uses [.setToken, .revoke] (activeToken body.accessToken none) :=
    (uses_tokenForOperation _ _ _).mono (by decide)
  refine Within.bind hfound.attempt fun found => ?_
  refine ((plain_loadSelectedProfile _).uses _).bind fun _ => ?_
  exact (uses_revokeByAccessToken _).mono (by decide)

/-- `signout` revokes. -/
theorem uses_signout (verify : String → String → Except AsterError Bool)
    (username password : String) (policy : RuntimeYggdrasilPolicy) :
    Uses [.revoke] (signout verify username password policy) := by
  refine ((plain_resolveLoginTarget _ _).uses _).bind fun target => ?_
  refine Within.rejectIf.bind fun _ => ?_
  refine ((plain_checkPassword _ _ _).uses _).bind fun _ => ?_
  refine (uses_revokeAllReturningHashes _ _).bind fun out => ?_
  exact (plain_invalidateTokenCacheHashes out.2).uses _

/-- A join presents its token; what follows fills no token cache. -/
theorem join_presents (body : JoinReq) (clientIp : Option String) :
    ∃ rest : YggdrasilToken → Service Unit,
      join body clientIp = (activeToken body.accessToken none).bind rest ∧
        ∀ token, Uses [.setJoinSession] (rest token) := by
  refine ⟨_, rfl, fun token => ?_⟩
  cases token.selectedProfileId with
  | none => trivial
  | some profileId =>
      refine ((plain_isUserBanned _ _).uses _).bind fun _ => ?_
      refine Within.rejectIf.bind fun _ => ?_
      refine ((plain_profileFindById _ _).uses _).bind fun profile => ?_
      exact Within.rejectIf.bind fun _ =>
        ⟨Or.inr (List.mem_singleton.mpr rfl), fun _ => trivial⟩

/-- `join` checks the token and stores a record. -/
theorem uses_join (body : JoinReq) (clientIp : Option String) :
    Uses [.setToken, .setJoinSession] (join body clientIp) := by
  obtain ⟨rest, hjoin, hrest⟩ := join_presents body clientIp
  rw [hjoin]
  exact Within.bind ((uses_tokenForOperation _ _ _).mono (by decide))
    fun token => (hrest token).mono (by decide)

/-- Deleting a profile revokes the tokens that select it. -/
theorem uses_deleteProfileForUser (userId : Nat) (uuid : String) :
    Uses [.revoke, .deleteProfile] (deleteProfileForUser userId uuid) := by
  refine ((plain_ensureMayManageProfiles _).uses _).bind fun _ => ?_
  refine Within.stmt_bind (Or.inl rfl) fun found => ?_
  cases found with
  | none => trivial
  | some profile =>
      refine Within.rejectIf.bind fun _ => ?_
      refine ((plain_invalidateForProfile _).uses _).bind fun _ => ?_
      refine Within.stmt_bind (Or.inl rfl) fun _ => ?_
      refine Within.stmt_bind (Or.inr (List.mem_cons_self ..)) fun _ => ?_
      exact ((uses_profileDeleteById _ _).mono (by decide)).bind fun _ => trivial

/-! ## Administration -/

/-- An administrator's update is one transaction. -/
theorem uses_updateUser (id : Nat) (input : AdminUpdateUser) :
    Uses [.updateUser] (updateUser id input) := by
  refine ((plain_userFindById _ _).uses _).bind fun _ => Within.rejectIf.bind fun _ => ?_
  exact uses_withTransaction (.updateUser id _)

/-- Deleting a user deletes the profiles first. -/
theorem uses_deleteUser (userId : Nat) :
    Uses [.revoke, .deleteProfile, .deleteAccount] (deleteUser userId) := by
  refine Within.rejectIf.bind fun _ => ?_
  refine ((plain_userFindById _ _).uses _).bind fun _ => ?_
  refine Within.stmt_bind (Or.inl rfl) fun profiles => ?_
  refine Within.bind (Within.forEach (fun profile => ?_) profiles) fun _ => ?_
  · exact Within.bind ((uses_deleteProfileForUser _ _).mono (by decide)) fun _ => trivial
  refine ((plain_invalidateForUser _).uses _).bind fun hashes => ?_
  refine Within.bind ((uses_revokeAllReturningHashes _ _).mono (by decide)) fun _ => ?_
  refine ((plain_invalidateTokenCacheHashes _).uses _).bind fun _ => ?_
  refine ((plain_userFindById _ _).uses _).bind fun _ => ?_
  exact ⟨Or.inr (by simp [ServiceStmt.kind, DbStmt.kind]), fun _ => trivial⟩

/-- Provisioning is plain. -/
theorem plain_provisionExternalUser (ctx : ProfileContext) (input : CreateUser)
    (external : String) (fallback : Option String) :
    Plain (provisionExternalUser ctx input external fallback) :=
  Within.bind ⟨rfl, fun r => plain_required _ r⟩ fun _ =>
    plain_createFromCandidates _ _ _ _

/-! ## Calls -/

/-- The kinds of steps of a call, besides plain ones. -/
def Call.kinds : Call → List StepKind
  | .authenticate _ _ => [.bindToken]
  | .refresh _ _ => [.setToken, .bindToken]
  | .validate _ | .tokenForOperation _ _ _ => [.setToken]
  | .invalidate _ => [.setToken, .revoke]
  | .signout _ _ _ => [.revoke]
  | .deleteProfile _ _ => [.revoke, .deleteProfile]
  | .join _ _ => [.setToken, .setJoinSession]
  | .renameProfile _ _ _ _ | .adminRenameProfile _ _ _ => [.rename]
  | .updateUser _ _ => [.updateUser]
  | .deleteUser _ => [.revoke, .deleteProfile, .deleteAccount]
  | .hasJoined _ _ | .createProfile _ _ _ _ | .ensureMinecraftProfile _ _ _ _ _
  | .provisionExternalUser _ _ _ _ | .createBan _ | .revokeBan _ | .wait _ => []

/-- **The footprint of every call.** -/
theorem Call.uses_body (verify : String → String → Except AsterError Bool)
    (call : Call) : Uses call.kinds (call.body verify) := by
  cases call with
  | authenticate body ctx => exact (uses_authenticate _ _ _).bind fun _ => trivial
  | refresh body ctx => exact (uses_refresh _ _).bind fun _ => trivial
  | validate body => exact (uses_validate _).bind fun _ => trivial
  | invalidate body => exact (uses_invalidate _).bind fun _ => trivial
  | signout username password policy =>
      exact (uses_signout _ _ _ _).bind fun _ => trivial
  | join body clientIp => exact (uses_join _ _).bind fun _ => trivial
  | hasJoined env req => exact ((plain_hasJoined env req).uses _).bind fun _ => trivial
  | tokenForOperation access client allow =>
      exact (uses_tokenForOperation _ _ _).bind fun _ => trivial
  | createProfile ctx userId userRole name =>
      exact ((plain_createProfileWithUuid _ _).uses _).bind fun _ => trivial
  | ensureMinecraftProfile ctx userId userRole uuid name =>
      exact ((plain_ensureMinecraftProfile _ _ _ _ _).uses _).bind fun _ => trivial
  | renameProfile policy userId uuid newName =>
      exact (uses_renameProfileForUser _ _ _ _).bind fun _ => trivial
  | adminRenameProfile policy uuid newName =>
      exact (uses_adminRenameProfile _ _ _).bind fun _ => trivial
  | deleteProfile userId uuid =>
      exact (uses_deleteProfileForUser _ _).bind fun _ => trivial
  | provisionExternalUser ctx input external fallback =>
      exact ((plain_provisionExternalUser _ _ _ _).uses _).bind fun _ => trivial
  | updateUser id input => exact (uses_updateUser _ _).bind fun _ => trivial
  | deleteUser userId => exact (uses_deleteUser _).bind fun _ => trivial
  | createBan input => exact ⟨Or.inl rfl, fun _ => trivial⟩
  | revokeBan id => exact ⟨Or.inl rfl, fun _ => trivial⟩
  | wait ms => exact ⟨Or.inl rfl, fun _ => trivial⟩

end AsterYggdrasil
