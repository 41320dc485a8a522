import AsterYggdrasil.Ban.Records
import AsterYggdrasil.External.Accounts

/-!
# User bans: the service

`create_user_ban`, `update_user_ban` and `revoke_user_ban`.  Each reads what
it needs with statements on the pool, checks it, and then runs one transaction
that writes the ban and appends an event.  The previous values of the event
come from the row the call read before its transaction.
-/

namespace AsterYggdrasil.Bans

open Interleave Relational
open External (trim)

/-! ## Transactions -/

abbrev BanDbProg := Prog banDbSignature AsterError

def banSql (i : BanStmt) : BanDbProg i.Reply := Prog.stmt (S := banDbSignature) i

/-- A row that has to be there. -/
def required {S : Signature} {α : Type} (e : AsterError) :
    Option α → Prog S AsterError α
  | some a => .ok a
  | none => .err e

/-- `user_ban_repo::create`. -/
def banCreate (input : CreateUserBan) : BanDbProg UserBanRow := do
  let now ← banSql .now
  required .databaseOperation (← banSql (.banInsert input now))

/-- `UpdateUserBan` of the repository. -/
structure UpdateUserBan where
  scopes : Option (List UserBanScope)
  reason : Option String
  publicReason : Option (Option String)
  adminNote : Option (Option String)
  startsAt : Option Nat
  expiresAt : Option (Option Nat)
  deriving DecidableEq, Repr

/-- `user_ban_repo::update`. -/
def banUpdate (ban : UserBanRow) (input : UpdateUserBan) : BanDbProg UserBanRow := do
  let now ← banSql .now
  required .databaseOperation
    (← banSql (.banUpdate ban.id
      { scopes := input.scopes
        reason := input.reason
        publicReason := input.publicReason
        adminNote := input.adminNote
        startsAt := input.startsAt
        expiresAt := input.expiresAt
        updatedAt := now }))

/-- `user_ban_repo::revoke`. -/
def banRevoke (ban : UserBanRow) (revokedByUserId : Option Nat)
    (revokeNote : Option String) (revokedAt : Nat) : BanDbProg UserBanRow := do
  let now ← banSql .now
  required .databaseOperation
    (← banSql (.banUpdate ban.id
      { status := some .revoked
        revokedAt := some (some revokedAt)
        revokedByUserId := some revokedByUserId
        revokeNote := some revokeNote
        updatedAt := now }))

/-- `user_ban_repo::create_event`. -/
def createEvent (input : CreateUserBanEvent) : BanDbProg UserBanEvent := do
  let now ← banSql .now
  required .databaseOperation (← banSql (.eventInsert input now))

/-- `scope_error`. -/
def scopeError : UserBanScopesError → AsterError
  | .empty => .validation (some .userBanReasonInvalid) "ban scopes must not be empty"
  | .invalid => .validation (some .userBanReasonInvalid) "ban scopes are invalid"

/-- `normalize_scopes`, and `ban_scopes` of a stored list. -/
def normalizeScopes (scopes : List UserBanScope) :
    Except AsterError (List UserBanScope) :=
  (normalizeUserBanScopes scopes).mapError scopeError

/-- The transaction of `create_user_ban`. -/
def createTxn (actorUserId : Nat) (input : CreateUserBan) : BanDbProg UserBanRow := do
  let scopes ← Prog.ofExcept (normalizeScopes input.scopes)
  let ban ← banCreate { input with scopes := scopes }
  let _ ← createEvent
    { banId := ban.id
      actorUserId := some actorUserId
      eventType := .created
      previousStatus := none
      nextStatus := some ban.status
      previousScopes := none
      nextScopes := some ban.scopes
      previousExpiresAt := none
      nextExpiresAt := ban.expiresAt
      note := some ban.reason }
  pure ban

/-- The transaction of `update_user_ban`; `ban` is the row the call has
read. -/
def updateTxn (actorUserId : Nat) (ban : UserBanRow)
    (previousScopes : List UserBanScope) (input : UpdateUserBan) :
    BanDbProg UserBanRow := do
  let updated ← banUpdate ban input
  let previous ← Prog.ofExcept (normalizeScopes previousScopes)
  let _ ← createEvent
    { banId := updated.id
      actorUserId := some actorUserId
      eventType := .updated
      previousStatus := some ban.status
      nextStatus := some updated.status
      previousScopes := some previous
      nextScopes := some updated.scopes
      previousExpiresAt := ban.expiresAt
      nextExpiresAt := updated.expiresAt
      note := updated.adminNote }
  pure updated

/-- The transaction of `revoke_user_ban`; `ban` is the row the call has
read. -/
def revokeTxn (actorUserId : Nat) (ban : UserBanRow)
    (previousScopes : List UserBanScope) (revokeNote : Option String)
    (revokedAt : Nat) : BanDbProg UserBanRow := do
  let updated ← banRevoke ban (some actorUserId) revokeNote revokedAt
  let previous ← Prog.ofExcept (normalizeScopes previousScopes)
  let _ ← createEvent
    { banId := updated.id
      actorUserId := some actorUserId
      eventType := .revoked
      previousStatus := some ban.status
      nextStatus := some updated.status
      previousScopes := some previous
      nextScopes := some updated.scopes
      previousExpiresAt := ban.expiresAt
      nextExpiresAt := updated.expiresAt
      note := revokeNote }
  pure updated

inductive BanTxn
  | create (actorUserId : Nat) (input : CreateUserBan)
  | update (actorUserId : Nat) (ban : UserBanRow)
      (previousScopes : List UserBanScope) (input : UpdateUserBan)
  | revoke (actorUserId : Nat) (ban : UserBanRow)
      (previousScopes : List UserBanScope) (revokeNote : Option String)
      (revokedAt : Nat)

def BanTxn.body : BanTxn → BanDbProg UserBanRow
  | .create actor input => createTxn actor input
  | .update actor ban previousScopes input => updateTxn actor ban previousScopes input
  | .revoke actor ban previousScopes note revokedAt =>
      revokeTxn actor ban previousScopes note revokedAt

/-- Run a transaction: commit on success, roll back on failure. -/
def BanTxn.commit (t : BanTxn) (db : BanDb) : Except AsterError UserBanRow × BanDb :=
  match t.body.run banDbMachine db with
  | (.ok ban, db') => (.ok ban, db')
  | (.error e, _) => (.error e, db)

/-! ## Steps -/

/-- One step: a statement on the pool or a transaction. -/
inductive BanServiceStmt
  | sql (i : BanStmt)
  | txn (t : BanTxn)

@[reducible] def BanServiceStmt.Reply : BanServiceStmt → Type
  | .sql i => i.Reply
  | .txn _ => Except AsterError UserBanRow

@[reducible] def banSignature : Signature := ⟨BanServiceStmt, BanServiceStmt.Reply⟩

def BanServiceStmt.exec : (i : BanServiceStmt) → BanDb → i.Reply × BanDb
  | .sql i, db => i.exec db
  | .txn t, db => t.commit db

@[reducible] def banMachine : Machine banSignature where
  State := BanDb
  exec := BanServiceStmt.exec

abbrev BanProg := Prog banSignature AsterError

/-- A statement on the pool. -/
def query (i : BanStmt) : BanProg i.Reply := Prog.stmt (S := banSignature) (.sql i)

/-- `with_transaction`. -/
def withTransaction (t : BanTxn) : BanProg UserBanRow := do
  Prog.ofExcept (← Prog.stmt (S := banSignature) (.txn t))

/-! ## Checks -/

def reasonMaxChars : Nat := 128
def noteMaxChars : Nat := 1000

/-- `normalize_required_text`. -/
def normalizeRequiredText (value : String) (maxChars : Nat) (code : AsterErrorCode)
    (label : String) : Except AsterError String :=
  let value := trim value
  if value.isEmpty || maxChars < value.length then
    .error (.validation (some code) s!"{label} must be 1-{maxChars} characters")
  else .ok value

/-- `normalize_optional_text`. -/
def normalizeOptionalText (value : Option String) (maxChars : Nat)
    (code : AsterErrorCode) (label : String) : Except AsterError (Option String) :=
  match value with
  | none => .ok none
  | some value =>
      let value := trim value
      if value.isEmpty then .ok none
      else if maxChars < value.length then
        .error (.validation (some code)
          s!"{label} must not exceed {maxChars} characters")
      else .ok (some value)

/-- `NullablePatch`. -/
inductive NullablePatch (α : Type)
  | absent | null | value (a : α)
  deriving DecidableEq, Repr

/-- `normalize_nullable_text_patch`. -/
def normalizeNullableTextPatch (value : Option (NullablePatch String))
    (maxChars : Nat) (code : AsterErrorCode) (label : String) :
    Except AsterError (Option (Option String)) :=
  match value with
  | some .null => .ok (some none)
  | some (.value value) =>
      (normalizeOptionalText (some value) maxChars code label).map some
  | some .absent | none => .ok none

/-- `validate_time_range`. -/
def validateTimeRange (startsAt : Nat) (expiresAt : Option Nat) :
    Except AsterError Unit :=
  match expiresAt with
  | some expiresAt =>
      if expiresAt ≤ startsAt then
        .error (.validation (some .userBanDurationInvalid)
          "ban expires_at must be later than starts_at")
      else .ok ()
  | none => .ok ()

/-- `reject_duplicate_effective_scopes`. -/
def rejectDuplicateEffectiveScopes (userId : Nat) (scopes : List UserBanScope)
    (excludingBanId : Option Nat) : BanProg Unit :=
  Prog.forEach scopes fun scope => do
    let now ← query .now
    let found ← query (.banFindEffectiveForScope userId scope now)
    Prog.rejectIf (found.any fun ban => some ban.id ≠ excludingBanId)
      (.validation (some .userBanAlreadyActive)
        "an active user ban already exists for one of these scopes")

/-- `user_ban`. -/
def userBan (banId : Nat) : BanProg UserBanRow := do
  Prog.rejectIf (banId = 0) (.recordNotFoundCode .userBanNotFound "invalid user ban id")
  required (.recordNotFoundCode .userBanNotFound s!"user ban '{banId}'")
    (← query (.banFindById banId))

/-! ## Operations -/

/-- `CreateUserBanInput`. -/
structure CreateUserBanInput where
  targetUserId : Nat
  scopes : List UserBanScope
  reason : String
  publicReason : Option String
  adminNote : Option String
  startsAt : Option Nat
  expiresAt : Option Nat
  deriving DecidableEq, Repr

/-- What `create_user_ban` makes of its input at time `now`: the row to
insert. -/
def CreateUserBanInput.checked (input : CreateUserBanInput) (actorUserId now : Nat) :
    Except AsterError CreateUserBan := do
  let startsAt := input.startsAt.getD now
  validateTimeRange startsAt input.expiresAt
  let reason ← normalizeRequiredText input.reason reasonMaxChars
    .userBanReasonInvalid "ban reason"
  let publicReason ← normalizeOptionalText input.publicReason noteMaxChars
    .userBanReasonInvalid "public ban reason"
  let adminNote ← normalizeOptionalText input.adminNote noteMaxChars
    .userBanReasonInvalid "ban admin note"
  let scopes ← normalizeScopes input.scopes
  pure
    { userId := input.targetUserId
      scopes := scopes
      reason := reason
      publicReason := publicReason
      adminNote := adminNote
      createdByUserId := some actorUserId
      startsAt := startsAt
      expiresAt := input.expiresAt }

/-- `create_user_ban`. -/
def createUserBan (actorUserId : Nat) (input : CreateUserBanInput) :
    BanProg UserBanRow := do
  let _ ← required (.recordNotFound s!"user #{input.targetUserId}")
    (← query (.userFindById input.targetUserId))
  let now ← query .now
  let ban ← Prog.ofExcept (input.checked actorUserId now)
  rejectDuplicateEffectiveScopes input.targetUserId ban.scopes none
  withTransaction (.create actorUserId ban)

/-- `UpdateUserBanInput`. -/
structure UpdateUserBanInput where
  scopes : Option (List UserBanScope)
  reason : Option String
  publicReason : Option (NullablePatch String)
  adminNote : Option (NullablePatch String)
  startsAt : Option Nat
  expiresAt : Option (NullablePatch Nat)
  deriving DecidableEq, Repr

/-- The scopes and the period `update_user_ban` gives the ban. -/
structure NextValues where
  scopes : List UserBanScope
  startsAt : Nat
  expiresAt : Option Nat
  deriving DecidableEq, Repr

def UpdateUserBanInput.nextScopes (input : UpdateUserBanInput)
    (previousScopes : List UserBanScope) : Except AsterError (List UserBanScope) :=
  match input.scopes with
  | some scopes => normalizeScopes scopes
  | none => .ok previousScopes

def UpdateUserBanInput.nextExpiresAt (input : UpdateUserBanInput) (ban : UserBanRow) :
    Option Nat :=
  match input.expiresAt with
  | some .null => none
  | some (.value value) => some value
  | some .absent | none => ban.expiresAt

/-- `next_scopes`, `next_starts_at` and `next_expires_at`. -/
def UpdateUserBanInput.next (input : UpdateUserBanInput) (ban : UserBanRow)
    (previousScopes : List UserBanScope) : Except AsterError NextValues := do
  let scopes ← input.nextScopes previousScopes
  let startsAt := input.startsAt.getD ban.startsAt
  let expiresAt := input.nextExpiresAt ban
  validateTimeRange startsAt expiresAt
  pure ⟨scopes, startsAt, expiresAt⟩

/-- `input.reason.map(normalize_required_text).transpose()`. -/
def UpdateUserBanInput.nextReason (input : UpdateUserBanInput) :
    Except AsterError (Option String) :=
  match input.reason with
  | some value =>
      (normalizeRequiredText value reasonMaxChars .userBanReasonInvalid
        "ban reason").map some
  | none => .ok none

/-- The columns `update_user_ban` sets: texts that are given, and what differs
from the row it has read. -/
def UpdateUserBanInput.changes (input : UpdateUserBanInput) (ban : UserBanRow)
    (previousScopes : List UserBanScope) (next : NextValues) :
    Except AsterError UpdateUserBan := do
  let reason ← input.nextReason
  let publicReason ← normalizeNullableTextPatch input.publicReason noteMaxChars
    .userBanReasonInvalid "public ban reason"
  let adminNote ← normalizeNullableTextPatch input.adminNote noteMaxChars
    .userBanReasonInvalid "ban admin note"
  let nextScopesValue ← normalizeScopes next.scopes
  pure
    { scopes := if next.scopes ≠ previousScopes then some nextScopesValue else none
      reason := reason
      publicReason := publicReason
      adminNote := adminNote
      startsAt := input.startsAt
      expiresAt :=
        if next.expiresAt ≠ ban.expiresAt then some next.expiresAt else none }

/-- `update_user_ban`. -/
def updateUserBan (actorUserId banId : Nat) (input : UpdateUserBanInput) :
    BanProg UserBanRow := do
  let ban ← userBan banId
  let now ← query .now
  Prog.rejectIf (!ban.isEffective now)
    (.validation (some .userBanNotActive) "only active user bans can be updated")
  let previousScopes ← Prog.ofExcept (normalizeScopes ban.scopes)
  let next ← Prog.ofExcept (input.next ban previousScopes)
  if next.scopes ≠ previousScopes then
    rejectDuplicateEffectiveScopes ban.userId next.scopes (some ban.id)
  let changes ← Prog.ofExcept (input.changes ban previousScopes next)
  withTransaction (.update actorUserId ban previousScopes changes)

/-- `revoke_user_ban`. -/
def revokeUserBan (actorUserId banId : Nat) (revokeNote : Option String) :
    BanProg UserBanRow := do
  let ban ← userBan banId
  let now ← query .now
  Prog.rejectIf (!ban.isEffective now)
    (.validation (some .userBanNotActive) "only active user bans can be revoked")
  let revokeNote ← Prog.ofExcept (normalizeOptionalText revokeNote noteMaxChars
    .userBanReasonInvalid "ban revoke note")
  let previousScopes ← Prog.ofExcept (normalizeScopes ban.scopes)
  let revokedAt ← query .now
  withTransaction (.revoke actorUserId ban previousScopes revokeNote revokedAt)

/-- What is called, and the passing of time. -/
inductive BanCall
  | create (actorUserId : Nat) (input : CreateUserBanInput)
  | update (actorUserId banId : Nat) (input : UpdateUserBanInput)
  | revoke (actorUserId banId : Nat) (revokeNote : Option String)
  | tick (ms : Nat)

def BanCall.body : BanCall → BanProg (Option UserBanRow)
  | .create actor input => do
      let ban ← createUserBan actor input
      pure (some ban)
  | .update actor banId input => do
      let ban ← updateUserBan actor banId input
      pure (some ban)
  | .revoke actor banId note => do
      let ban ← revokeUserBan actor banId note
      pure (some ban)
  | .tick ms => do
      query (.advanceClock ms)
      pure none

/-- A database with two users and no ban, at time 100. -/
def twoUsers : BanDb where
  users :=
    { rows :=
        [⟨1, "uuid-1", "admin", none, "", .admin, .active, false, 0, none⟩,
          ⟨2, "uuid-2", "alice", none, "", .user, .active, false, 0, none⟩]
      seq := 3
      unique := by decide
      fresh := by decide }
  bans := .empty
  events := .empty
  now := 100

end AsterYggdrasil.Bans
