import AsterYggdrasil.Interleave.Program
import AsterYggdrasil.Yggdrasil.Database
import Mathlib.Data.List.Destutter
import Mathlib.Data.List.Sort

/-!
# User bans: rows, events and statements

A ban takes some capabilities, its *scopes*, away from a user for a period
that starts at `starts_at` and ends before `expires_at`, if at all.  Beside
the table of bans stands an append-only table of events, one for every change
of a ban, each with the status, scopes and expiry before and after it.

`BanStmt` is one statement on these tables and `BanStmt.exec` is what the
database does with it.
-/

namespace AsterYggdrasil.Bans

open Interleave Relational

/-! ## Scopes -/

inductive UserBanScopesError
  | empty | invalid
  deriving DecidableEq, Repr

/-- The derived `Ord` of `UserBanScope`: the order of its variants. -/
def UserBanScope.rank : UserBanScope → Nat
  | .yggdrasilAccess => 0
  | .yggdrasilJoin => 1
  | .minecraftProfileManage => 2
  | .textureUpload => 3
  | .textureLibraryInteract => 4

/-- `normalize_user_ban_scopes`: sort, drop repetitions, refuse an empty list. -/
def normalizeUserBanScopes (scopes : List UserBanScope) :
    Except UserBanScopesError (List UserBanScope) :=
  let sorted := scopes.insertionSort fun a b =>
    UserBanScope.rank a ≤ UserBanScope.rank b
  let deduped := sorted.destutter (· ≠ ·)
  if deduped.isEmpty then .error .empty else .ok deduped

/-- `UserBanScopes::contains`. -/
def scopesContain (scopes : List UserBanScope) (scope : UserBanScope) : Bool :=
  match normalizeUserBanScopes scopes with
  | .ok scopes => scopes.contains scope
  | .error _ => false

/-- Normalised scopes stay as they are. -/
theorem normalizeUserBanScopes_idem {scopes normal : List UserBanScope}
    (h : normalizeUserBanScopes scopes = .ok normal) :
    normalizeUserBanScopes normal = .ok normal := by
  unfold normalizeUserBanScopes at h
  simp only at h
  split at h
  · cases h
  next hne =>
  have hnormal := Except.ok.inj h
  have htotal : Std.Total fun a b : UserBanScope =>
      UserBanScope.rank a ≤ UserBanScope.rank b := ⟨fun a b => Nat.le_total _ _⟩
  have htrans : IsTrans UserBanScope fun a b : UserBanScope =>
      UserBanScope.rank a ≤ UserBanScope.rank b := ⟨fun a b c => Nat.le_trans⟩
  have hsorted : normal.Pairwise fun a b =>
      UserBanScope.rank a ≤ UserBanScope.rank b := by
    rw [← hnormal]
    exact (List.pairwise_insertionSort _ scopes).sublist (List.destutter_sublist _ _)
  have hchain : normal.IsChain (· ≠ ·) := by
    rw [← hnormal]
    exact List.isChain_destutter _ _
  unfold normalizeUserBanScopes
  simp only [hsorted.insertionSort_eq, List.destutter_of_isChain _ normal hchain]
  rw [hnormal] at hne
  rw [if_neg hne]

/-! ## Rows -/

/-- A row of `user_bans`, with the columns the protocol service does not
read. -/
structure UserBanRow extends UserBan where
  reason : String
  publicReason : Option String
  adminNote : Option String
  createdByUserId : Option Nat
  revokedAt : Option Nat
  revokedByUserId : Option Nat
  revokeNote : Option String
  updatedAt : Nat
  deriving DecidableEq, Repr

inductive UserBanEventType
  | created | updated | revoked
  deriving DecidableEq, Repr

/-- `CreateUserBanEvent`. -/
structure CreateUserBanEvent where
  banId : Nat
  actorUserId : Option Nat
  eventType : UserBanEventType
  previousStatus : Option UserBanStatus
  nextStatus : Option UserBanStatus
  previousScopes : Option (List UserBanScope)
  nextScopes : Option (List UserBanScope)
  previousExpiresAt : Option Nat
  nextExpiresAt : Option Nat
  note : Option String
  deriving DecidableEq, Repr

/-- A row of `user_ban_events`. -/
structure UserBanEvent extends CreateUserBanEvent where
  id : Nat
  createdAt : Nat
  deriving DecidableEq, Repr

/-- `is_effective`. -/
def UserBanRow.isEffective (b : UserBanRow) (now : Nat) : Bool :=
  b.status = .active && b.revokedAt.isNone && b.startsAt ≤ now &&
    b.expiresAt.all fun e => now < e

def UserBanRow.contains (b : UserBanRow) (scope : UserBanScope) : Bool :=
  scopesContain b.scopes scope

def banRowSchema : Schema UserBanRow where
  ident b := b.id
  clash a b := a.id = b.id
  clash_symm a b := by simp [eq_comm]
  clash_of_ident a b h := by simp [h]

def eventSchema : Schema UserBanEvent where
  ident := UserBanEvent.id
  clash a b := a.id = b.id
  clash_symm a b := by simp [eq_comm]
  clash_of_ident a b h := by simp [h]

/-- `CreateUserBan` of the repository. -/
structure CreateUserBan where
  userId : Nat
  scopes : List UserBanScope
  reason : String
  publicReason : Option String
  adminNote : Option String
  createdByUserId : Option Nat
  startsAt : Nat
  expiresAt : Option Nat
  deriving DecidableEq, Repr

/-- The row `create` inserts. -/
def newBan (id now : Nat) (input : CreateUserBan) : UserBanRow where
  id := id
  userId := input.userId
  scopes := input.scopes
  status := .active
  startsAt := input.startsAt
  expiresAt := input.expiresAt
  createdAt := now
  reason := input.reason
  publicReason := input.publicReason
  adminNote := input.adminNote
  createdByUserId := input.createdByUserId
  revokedAt := none
  revokedByUserId := none
  revokeNote := none
  updatedAt := now

/-- The row `create_event` inserts. -/
def newEvent (id now : Nat) (input : CreateUserBanEvent) : UserBanEvent :=
  { input with id := id, createdAt := now }

/-- The columns an `UPDATE` of a ban sets; `none` leaves a column alone. -/
structure BanPatch where
  scopes : Option (List UserBanScope) := none
  status : Option UserBanStatus := none
  reason : Option String := none
  publicReason : Option (Option String) := none
  adminNote : Option (Option String) := none
  startsAt : Option Nat := none
  expiresAt : Option (Option Nat) := none
  revokedAt : Option (Option Nat) := none
  revokedByUserId : Option (Option Nat) := none
  revokeNote : Option (Option String) := none
  updatedAt : Nat
  deriving DecidableEq, Repr

/-- The row an `UPDATE` writes over `b`. -/
def patchBan (patch : BanPatch) (b : UserBanRow) : UserBanRow :=
  { b with
    scopes := patch.scopes.getD b.scopes
    status := patch.status.getD b.status
    reason := patch.reason.getD b.reason
    publicReason := patch.publicReason.getD b.publicReason
    adminNote := patch.adminNote.getD b.adminNote
    startsAt := patch.startsAt.getD b.startsAt
    expiresAt := patch.expiresAt.getD b.expiresAt
    revokedAt := patch.revokedAt.getD b.revokedAt
    revokedByUserId := patch.revokedByUserId.getD b.revokedByUserId
    revokeNote := patch.revokeNote.getD b.revokeNote
    updatedAt := patch.updatedAt }

/-! ## Statements -/

/-- The tables of the ban service and the clock. -/
structure BanDb where
  users : Table userSchema
  bans : Table banRowSchema
  events : Table eventSchema
  now : Nat

inductive BanStmt
  | now
  | advanceClock (ms : Nat)
  | userFindById (id : Nat)
  | banFindById (id : Nat)
  | banFindEffectiveForScope (userId : Nat) (scope : UserBanScope) (instant : Nat)
  | banInsert (input : CreateUserBan) (createdAt : Nat)
  | banUpdate (id : Nat) (patch : BanPatch)
  | eventInsert (input : CreateUserBanEvent) (createdAt : Nat)

/-- A write that hits no row or that a constraint refuses answers `none`. -/
@[reducible] def BanStmt.Reply : BanStmt → Type
  | .now => Nat
  | .advanceClock _ => Unit
  | .userFindById _ => Option User
  | .banFindById _ | .banFindEffectiveForScope _ _ _ | .banInsert _ _
  | .banUpdate _ _ => Option UserBanRow
  | .eventInsert _ _ => Option UserBanEvent

@[reducible] def banDbSignature : Signature := ⟨BanStmt, BanStmt.Reply⟩

namespace BanDb

/-- The user row a foreign key points to, if the key is set. -/
def hasUser (db : BanDb) (id : Option Nat) : Bool :=
  id.all fun id => (db.users.find? fun u => u.id = id).isSome

/-- `find_effective_for_scope`. -/
def findEffectiveForScope (db : BanDb) (userId : Nat) (scope : UserBanScope)
    (now : Nat) : Option UserBanRow :=
  let effective := db.bans.select fun b =>
    b.userId = userId && b.toUserBan.effectiveAt now
  (effective.insertionSort fun a b => b.createdAt ≤ a.createdAt).find? fun b =>
    b.contains scope

/-- The events of a ban, oldest first. -/
def eventsOf (db : BanDb) (banId : Nat) : List UserBanEvent :=
  db.events.select fun e => e.banId = banId

end BanDb

/-- What the database does with one statement. -/
def BanStmt.exec : (i : BanStmt) → BanDb → i.Reply × BanDb
  | .now, db => (db.now, db)
  | .advanceClock ms, db => ((), { db with now := db.now + ms })
  | .userFindById id, db => (db.users.find? fun u => u.id = id, db)
  | .banFindById id, db => (db.bans.find? fun b => b.id = id, db)
  | .banFindEffectiveForScope userId scope instant, db =>
      (db.findEffectiveForScope userId scope instant, db)
  | .banInsert input createdAt, db =>
      let (id, bans) := db.bans.nextId
      let row := newBan id createdAt input
      if db.hasUser (some input.userId) && db.hasUser input.createdByUserId then
        match bans.insert? row with
        | some bans => (some row, { db with bans := bans })
        | none => (none, { db with bans := bans })
      else (none, { db with bans := bans })
  | .banUpdate id patch, db =>
      if db.hasUser patch.revokedByUserId.join then
        ((db.bans.find? fun b => b.id = id).map (patchBan patch),
          { db with
            bans := db.bans.modify (fun b => b.id = id) (patchBan patch)
              (fun _ => rfl) (fun _ _ => rfl) })
      else (none, db)
  | .eventInsert input createdAt, db =>
      let (id, events) := db.events.nextId
      let row := newEvent id createdAt input
      if (db.bans.find? fun b => b.id = input.banId).isSome &&
          db.hasUser input.actorUserId then
        match events.insert? row with
        | some events => (some row, { db with events := events })
        | none => (none, { db with events := events })
      else (none, { db with events := events })

/-- The database as a machine of single statements. -/
@[reducible] def banDbMachine : Machine banDbSignature where
  State := BanDb
  exec := BanStmt.exec

end AsterYggdrasil.Bans
