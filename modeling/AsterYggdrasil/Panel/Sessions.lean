import AsterYggdrasil.Yggdrasil.Profile

/-!
# The tables of the panel

The web panel logs users in with pairs of JSON web tokens.  A row of
`auth_sessions` stands for one login; the refresh token of the login carries the
row's current `jti`, and every refresh replaces it.  Here are the table, the
statements of its repository and the machine that executes them, next to the
accounts the tokens belong to.

Every statement is one atomic step, also inside a transaction: the transactions
of the panel that are modelled fail only before their first write.
-/

namespace AsterYggdrasil.Panel

open Interleave Relational

/-- A row of `auth_sessions`.  `rowId` is the place where the database keeps the
row; it is not a column. -/
structure AuthSession where
  rowId : Nat
  id : String
  userId : Nat
  currentRefreshJti : String
  previousRefreshJti : Option String
  refreshExpiresAt : Nat
  userAgent : Option String
  ipAddress : Option String
  createdAt : Nat
  lastSeenAt : Nat
  revokedAt : Option Nat
  deriving DecidableEq, Repr

/-- Sessions are unique by id and by current refresh jti. -/
def sessionSchema : Schema AuthSession where
  ident := AuthSession.rowId
  clash a b := a.rowId = b.rowId || a.id = b.id ||
    a.currentRefreshJti = b.currentRefreshJti
  clash_symm a b := by
    rw [Bool.eq_iff_iff]
    simp only [Bool.or_eq_true, decide_eq_true_eq]
    grind
  clash_of_ident a b h := by simp [h]

/-- The columns of a new session. -/
structure CreateAuthSession where
  id : String
  userId : Nat
  currentRefreshJti : String
  refreshExpiresAt : Nat
  userAgent : Option String
  ipAddress : Option String
  createdAt : Nat
  deriving DecidableEq, Repr

/-- The columns a rotation writes, besides the two jtis. -/
structure RotateRefresh where
  refreshExpiresAt : Nat
  ipAddress : Option String
  userAgent : Option String
  lastSeenAt : Nat
  deriving DecidableEq, Repr

inductive VerificationPurpose
  | registerActivation | contactChange | passwordReset
  deriving DecidableEq, Repr

/-- A row of `contact_verification_tokens`. -/
structure ContactVerificationToken where
  id : Nat
  userId : Nat
  purpose : VerificationPurpose
  target : String
  tokenHash : String
  consumedAt : Option Nat
  expiresAt : Nat
  deriving DecidableEq, Repr

/-- One SQL statement of the panel. -/
inductive PanelStmt
  | db (i : DbStmt)
  | sessionCreate (input : CreateAuthSession)
  | sessionFindByRefreshJti (jti : String)
  | sessionFindByPreviousRefreshJti (jti : String)
  | sessionFindByIdForUser (userId : Nat) (id : String)
  | sessionRotateRefresh (current next : String) (columns : RotateRefresh)
  | sessionRevokeByIdForUser (userId : Nat) (id : String) (now : Nat)
  | sessionRevokeByRefreshJti (jti : String)
  | sessionRevokeAllForUserExceptId (userId : Nat) (keep : String) (now : Nat)
  | sessionRevokeAllForUser (userId : Nat)
  | sessionDeleteExpired (now : Nat)
  | contactTokenFindByHash (hash : String)
  | contactTokenMarkConsumed (id : Nat)
  | externalIdentityExists (userId : Nat)

/-- What each statement answers.  An update answers with the number of rows it
changed; one that the unique index refuses answers `none`. -/
@[reducible] def PanelStmt.Reply : PanelStmt → Type
  | .db i => i.Reply
  | .sessionCreate _ | .sessionFindByRefreshJti _ | .sessionFindByPreviousRefreshJti _
  | .sessionFindByIdForUser _ _ => Option AuthSession
  | .sessionRotateRefresh _ _ _ => Option Nat
  | .sessionRevokeByIdForUser _ _ _ | .sessionRevokeByRefreshJti _
  | .sessionRevokeAllForUserExceptId _ _ _ | .sessionRevokeAllForUser _
  | .sessionDeleteExpired _ => Nat
  | .contactTokenFindByHash _ => Option ContactVerificationToken
  | .contactTokenMarkConsumed _ => Bool
  | .externalIdentityExists _ => Bool

@[reducible] def panelSignature : Signature := ⟨PanelStmt, PanelStmt.Reply⟩

/-- The accounts, the sessions, the links sent by mail, and the users with an
external identity. -/
structure PanelState where
  db : Db
  sessions : Table sessionSchema
  contactTokens : List ContactVerificationToken
  externalIdentities : List Nat

/-- The row an insert writes. -/
def newSession (rowId : Nat) (input : CreateAuthSession) : AuthSession where
  rowId := rowId
  id := input.id
  userId := input.userId
  currentRefreshJti := input.currentRefreshJti
  previousRefreshJti := none
  refreshExpiresAt := input.refreshExpiresAt
  userAgent := input.userAgent
  ipAddress := input.ipAddress
  createdAt := input.createdAt
  lastSeenAt := input.createdAt
  revokedAt := none

/-- The row a rotation writes over `r`. -/
def AuthSession.rotate (current next : String) (columns : RotateRefresh)
    (r : AuthSession) : AuthSession :=
  { r with
    currentRefreshJti := next
    previousRefreshJti := some current
    refreshExpiresAt := columns.refreshExpiresAt
    ipAddress := columns.ipAddress
    userAgent := columns.userAgent
    lastSeenAt := columns.lastSeenAt }

/-- `current_refresh_jti = jti AND revoked_at IS NULL`. -/
def AuthSession.isLive (jti : String) (r : AuthSession) : Bool :=
  r.currentRefreshJti = jti && r.revokedAt.isNone

/-- The rows that a revoking update of this statement hits. -/
def PanelStmt.revokes : PanelStmt → Option (AuthSession → Bool)
  | .sessionRevokeByIdForUser userId id _ =>
      some fun r => r.userId = userId && r.id = id && r.revokedAt.isNone
  | .sessionRevokeByRefreshJti jti => some (AuthSession.isLive jti)
  | .sessionRevokeAllForUserExceptId userId keep _ =>
      some fun r => r.userId = userId && r.id ≠ keep && r.revokedAt.isNone
  | .sessionRevokeAllForUser userId =>
      some fun r => r.userId = userId && r.revokedAt.isNone
  | _ => none

namespace PanelState

/-- The rows a condition selects. -/
def countSessions (s : PanelState) (p : AuthSession → Bool) : Nat :=
  (s.sessions.select p).length

/-- `UPDATE auth_sessions SET revoked_at = now WHERE p`. -/
def revokeSessions (s : PanelState) (p : AuthSession → Bool) (now : Nat) : PanelState :=
  { s with
    sessions := s.sessions.modify p (fun r => { r with revokedAt := some now })
      (fun _ => rfl) fun _ _ => rfl }

/-- A revoking update and the number of rows it changes. -/
def revoke (s : PanelState) (p : AuthSession → Bool) (now : Nat) : Nat × PanelState :=
  (s.countSessions p, s.revokeSessions p now)

/-- The rows that the foreign keys take along when users are deleted. -/
def cascade (s : PanelState) : DbStmt → PanelState
  | .userDelete userId =>
      { s with
        sessions := s.sessions.delete fun r => r.userId = userId
        contactTokens := s.contactTokens.filter fun t => t.userId ≠ userId
        externalIdentities := s.externalIdentities.filter fun u => u ≠ userId }
  | _ => s

end PanelState

/-- What the database does with one statement. -/
def PanelStmt.exec : (i : PanelStmt) → PanelState → i.Reply × PanelState
  | .db i, s => ((i.exec s.db).1, { s.cascade i with db := (i.exec s.db).2 })
  | .sessionCreate input, s =>
      let (rowId, sessions) := s.sessions.nextId
      match s.db.users.find? fun u => u.id = input.userId with
      | none => (none, { s with sessions := sessions })
      | some _ =>
          match sessions.insert? (newSession rowId input) with
          | some sessions =>
              (some (newSession rowId input), { s with sessions := sessions })
          | none => (none, { s with sessions := sessions })
  | .sessionFindByRefreshJti jti, s =>
      (s.sessions.find? fun r => r.currentRefreshJti = jti, s)
  | .sessionFindByPreviousRefreshJti jti, s =>
      (s.sessions.find? fun r => r.previousRefreshJti = some jti, s)
  | .sessionFindByIdForUser userId id, s =>
      (s.sessions.find? fun r => r.userId = userId && r.id = id, s)
  | .sessionRotateRefresh current next columns, s =>
      match s.sessions.update? (AuthSession.isLive current)
        (AuthSession.rotate current next columns) (fun _ => rfl) with
      | some sessions =>
          (some (s.countSessions (AuthSession.isLive current)), { s with sessions := sessions })
      | none => (none, s)
  | .sessionRevokeByIdForUser userId id now, s =>
      s.revoke (fun r => r.userId = userId && r.id = id && r.revokedAt.isNone) now
  | .sessionRevokeByRefreshJti jti, s => s.revoke (AuthSession.isLive jti) s.db.now
  | .sessionRevokeAllForUserExceptId userId keep now, s =>
      s.revoke (fun r => r.userId = userId && r.id ≠ keep && r.revokedAt.isNone) now
  | .sessionRevokeAllForUser userId, s =>
      s.revoke (fun r => r.userId = userId && r.revokedAt.isNone) s.db.now
  | .sessionDeleteExpired now, s =>
      (s.countSessions fun r => r.refreshExpiresAt < now,
        { s with sessions := s.sessions.delete fun r => r.refreshExpiresAt < now })
  | .contactTokenFindByHash hash, s =>
      (s.contactTokens.find? fun t => t.tokenHash = hash, s)
  | .contactTokenMarkConsumed id, s =>
      let p := fun t : ContactVerificationToken => t.id = id && t.consumedAt.isNone
      (s.contactTokens.any p,
        { s with
          contactTokens := s.contactTokens.map fun t =>
            if p t then { t with consumedAt := some s.db.now } else t })
  | .externalIdentityExists userId, s => (s.externalIdentities.contains userId, s)

@[reducible] def panelMachine : Machine panelSignature where
  State := PanelState
  exec := PanelStmt.exec

/-- Programs of the panel. -/
abbrev PanelProg := Prog panelSignature AsterError

/-- One SQL statement. -/
def sql (i : PanelStmt) : PanelProg i.Reply := Prog.stmt (S := panelSignature) i

/-- SQL statements on the accounts. -/
def accountsHom : Signature.Hom dbSignature panelSignature := ⟨.db, fun _ r => r⟩

/-- A repository call on the accounts. -/
def onAccounts {α : Type} (p : DbProg α) : PanelProg α := p.hoist accountsHom id

/-- `Utc::now`. -/
def utcNow : PanelProg Nat := sql (.db .now)

/-- A query that has to find a row, or a write that has to be accepted. -/
def required {α : Type} (e : AsterError) : Option α → PanelProg α
  | some a => .ok a
  | none => .err e

/-! ## auth_session_repo -/

/-- `auth_session_repo::create`. -/
def create (input : CreateAuthSession) : PanelProg AuthSession := do
  required .databaseOperation (← sql (.sessionCreate input))

/-- `auth_session_repo::rotate_refresh`. -/
def rotateRefresh (current next : String) (columns : RotateRefresh) : PanelProg Bool := do
  let rowsAffected ← required .databaseOperation
    (← sql (.sessionRotateRefresh current next columns))
  pure (rowsAffected = 1)

/-- `auth_session_repo::revoke_by_id_for_user`. -/
def revokeByIdForUser (userId : Nat) (id : String) (now : Nat) : PanelProg Bool := do
  let rowsAffected ← sql (.sessionRevokeByIdForUser userId id now)
  pure (rowsAffected = 1)

/-- `auth_session_repo::revoke_by_refresh_jti`. -/
def revokeByRefreshJti (jti : String) : PanelProg Bool := do
  let rowsAffected ← sql (.sessionRevokeByRefreshJti jti)
  pure (rowsAffected = 1)

end AsterYggdrasil.Panel
