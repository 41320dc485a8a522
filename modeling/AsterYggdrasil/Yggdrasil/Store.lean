import AsterYggdrasil.Interleave.ReadCommitted
import AsterYggdrasil.Yggdrasil.Service

/-!
# The service as read-committed transactions

`serviceMachine` executes a transaction in one step.  Over `tokenStore` the
same programs run statement by statement: a write locks the rows it changes,
found or not, and an insert the entries it makes in the unique indexes
(`DbStmt.locks`); sequences, the clock and the cache are outside of transaction
control.  `inTokenStore` is the translation of a whole operation.
-/

namespace AsterYggdrasil

open Interleave Relational

/-- What a row lock or an entry of a unique index stands for. -/
inductive RowKey
  | user (id : Nat)
  | publicUuid (uuid : String)
  | username (name : String)
  | email (email : String)
  | profile (id : Nat)
  | profileUuid (uuid : String)
  | profileName (normalizedName : String)
  | profileTextures (profileId : Nat)
  | token (id : Nat)
  | tokenHash (hash : String)
  | ban (id : Nat)
  deriving DecidableEq

/-- The token rows that satisfy `p`. -/
def Db.tokenKeys (db : Db) (p : YggdrasilToken → Bool) : List RowKey :=
  (db.tokens.select p).map fun t => .token t.id

/-- The rows that deleting the profiles of `p` touches. -/
def Db.profileKeys (db : Db) (p : MinecraftProfile → Bool) : List RowKey :=
  let gone := (db.profiles.select p).map MinecraftProfile.id
  gone.flatMap (fun id => [.profile id, .profileTextures id]) ++
    db.tokenKeys fun t => t.selectedProfileId.any fun i => gone.contains i

/-- The rows and index entries a statement locks. -/
def DbStmt.locks : DbStmt → Db → List RowKey
  | .userInsert input, _ =>
      [.publicUuid input.publicUuid, .username input.username] ++
        (input.email.map RowKey.email).toList
  | .userUpdate id patch, _ =>
      .user id :: (patch.username.map RowKey.username).toList ++
        (patch.email.map RowKey.email).toList
  | .userDelete id, db =>
      .user id :: db.profileKeys (fun p => p.userId = id) ++
        db.tokenKeys (fun t => t.userId = id) ++
        (db.bans.select fun b => b.userId = id).map fun b => .ban b.id
  | .profileInsert input, _ =>
      [.profileUuid input.uuid, .profileName (normalizeProfileName input.name)]
  | .profileUpdateName id name _, _ =>
      [.profile id, .profileName (normalizeProfileName name)]
  | .profileDelete id, db => db.profileKeys fun p => p.id = id
  | .profileTexturesDelete profileId, _ => [.profileTextures profileId]
  | .tokenInsert id input, _ => [.token id, .tokenHash input.accessTokenHash]
  | .tokenSetRevoked id, _ => [.token id]
  | .tokenRevokeAllForUser userId, db =>
      db.tokenKeys (YggdrasilToken.activeFor userId)
  | .tokenRevokeAllForSelectedProfile profileId, db =>
      db.tokenKeys (YggdrasilToken.activeOn profileId)
  | .tokenTemporarilyInvalidateAllForSelectedProfile profileId, db =>
      db.tokenKeys fun t =>
        t.activeOn profileId && t.temporarilyInvalidatedAt.isNone
  | .banSetRevoked id, _ => [.ban id]
  | _, _ => []

/-- Sequences, the clock and the cache are outside of transaction control. -/
def ServiceStmt.immediate : ServiceStmt → Bool
  | .db .tokenNextId => true
  | .db (.advanceClock _) => true
  | .db _ | .txn _ => false
  | _ => true

/-- A write laid over a later state writes the time at which it was made. -/
def ServiceStmt.redo : ServiceStmt → Nat → ServiceState → ServiceState
  | .db i, now, s =>
      { s with db := { (i.exec { s.db with now := now }).2 with now := s.db.now } }
  | _, _, s => s

/-- The database and the cache as a store of read-committed transactions. -/
@[reducible] def tokenStore : Store serviceMachine where
  Key := RowKey
  keyEq := inferInstance
  locks i s :=
    match i with
    | .db i => i.locks s.db
    | _ => []
  immediate := ServiceStmt.immediate
  Stamp := Nat
  stamp s := s.db.now
  redo := ServiceStmt.redo

/-- Committed state, locks and transactions. -/
abbrev TokenShared := tokenStore.Shared

/-- Programs over the transactional store. -/
abbrev TokenProg := Prog tokenStore.signature ServiceError

/-- One statement outside of any transaction. -/
def auto (i : ServiceStmt) : TokenProg i.Reply := Store.auto (σ := tokenStore) i

/-- The error of a transaction that the database has aborted. -/
def Txn.lost : Txn → ServiceError
  | .issueToken _ | .refreshToken _ _ => .ofAster .databaseOperation
  | .renameProfile _ _ | .updateUser _ _ => .aster .databaseOperation

/-- A transaction of the service, statement by statement. -/
def txnSteps (t : Txn) : TokenProg t.Result :=
  Store.transaction t.lost (t.body.hoist poolHom id)

/-- One step of an operation. -/
def tokenStep : (i : ServiceStmt) → TokenProg i.Reply
  | .txn t => (txnSteps t).attempt
  | i => auto i

/-- An operation of the service, statement by statement. -/
def inTokenStore {α : Type} (p : Service α) : TokenProg α := p.translate tokenStep

section Translation

open Prog

variable {α β : Type}

@[simp] theorem inTokenStore_ok (a : α) : inTokenStore (.ok a) = .ok a := rfl
@[simp] theorem inTokenStore_err (e : ServiceError) :
    inTokenStore (.err e : Service α) = .err e := rfl

@[simp] theorem inTokenStore_bind (p : Service α) (f : α → Service β) :
    inTokenStore (p.bind f) = (inTokenStore p).bind fun a => inTokenStore (f a) :=
  translate_bind (S := serviceSignature) tokenStep p f

@[simp] theorem inTokenStore_rejectIf (c : Bool) (e : ServiceError) :
    inTokenStore (Prog.rejectIf c e) = Prog.rejectIf c e :=
  translate_rejectIf (S := serviceSignature) tokenStep c e

/-- A transaction, statement by statement. -/
theorem inTokenStore_withTransaction (t : Txn) :
    inTokenStore (withTransaction t) = txnSteps t := by
  have hcaught := attempt_bind_ofExcept (txnSteps t)
  simp only [inTokenStore, withTransaction, step, bind_eq, Prog.stmt, act_bind, ok_bind,
    translate_act, tokenStep]
  refine Eq.trans ?_ hcaught
  congr 1
  funext r
  cases r <;> rfl

end Translation

end AsterYggdrasil
