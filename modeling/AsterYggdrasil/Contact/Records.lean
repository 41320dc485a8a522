import AsterYggdrasil.Panel.Sessions

/-!
# Links sent by mail: the tables

An account proves that an address is its own by following a link that was sent
there.  A row of `contact_verification_tokens` stands for one link: what it is
for, the address it went to, and the SHA-256 hash of the secret in it.  Here are
the columns, the unique indexes, the statements of the repositories and what the
database does with each of them.

The link for a new account, the one for a changed address and the one for a
forgotten password live in the same table.  A unique index allows one unused link
per account and purpose, and issuing a link deletes the unused one before it.
-/

namespace AsterYggdrasil.Contact

open Interleave Relational
open AsterYggdrasil.Panel (VerificationPurpose)

/-- A row of `users`, with the columns of an email change. -/
structure Account extends User where
  pendingEmail : Option String
  updatedAt : Nat
  deriving DecidableEq, Repr

/-- Accounts are unique by id, public uuid, username, email and pending email. -/
def accountSchema : Schema Account where
  ident a := a.id
  clash a b := a.id = b.id || a.publicUuid = b.publicUuid || a.username = b.username ||
    (a.email.isSome && a.email = b.email) ||
    (a.pendingEmail.isSome && a.pendingEmail = b.pendingEmail)
  clash_symm a b := by
    rw [Bool.eq_iff_iff]
    simp only [Bool.or_eq_true, Bool.and_eq_true, decide_eq_true_eq]
    grind
  clash_of_ident a b h := by simp [h]

inductive VerificationChannel
  | email
  deriving DecidableEq, Repr

/-- A row of `contact_verification_tokens`. -/
structure ContactVerificationToken extends Panel.ContactVerificationToken where
  channel : VerificationChannel
  createdAt : Nat
  deriving DecidableEq, Repr

/-- Two links of one account and purpose that are both unused. -/
def sameActiveLink (a b : ContactVerificationToken) : Bool :=
  a.userId = b.userId && a.channel = b.channel && a.purpose = b.purpose &&
    a.consumedAt.isNone && b.consumedAt.isNone

/-- Links are unique by id and hash, and the unused ones by account, channel and
purpose. -/
def contactTokenSchema : Schema ContactVerificationToken where
  ident a := a.id
  clash a b := a.id = b.id || a.tokenHash = b.tokenHash || sameActiveLink a b
  clash_symm a b := by
    rw [Bool.eq_iff_iff]
    simp only [sameActiveLink, Bool.or_eq_true, Bool.and_eq_true, decide_eq_true_eq]
    grind
  clash_of_ident a b h := by simp [h]

/-- `MailTemplatePayload`, the templates that go to the owner of an account. -/
inductive MailTemplatePayload
  | registerActivation (username token siteName : String)
  | contactChangeConfirmation (username token siteName : String)
  | passwordReset (username token siteName : String)
  | passwordResetNotice (username siteName : String)
  | contactChangeNotice (username previousEmail newEmail siteName : String)
  deriving DecidableEq, Repr

/-- A row of `mail_outbox` as `enqueue` writes it. -/
structure MailOutbox where
  toAddress : String
  toName : Option String
  payload : MailTemplatePayload
  createdAt : Nat
  deriving DecidableEq, Repr

structure ContactState where
  accounts : Table accountSchema
  tokens : Table contactTokenSchema
  outbox : List MailOutbox
  now : Nat

/-- The columns an update of an account sets; `none` leaves a column alone. -/
structure AccountPatch extends UserPatch where
  emailVerifiedAt : Option (Option Nat)
  pendingEmail : Option (Option String)
  updatedAt : Nat
  deriving DecidableEq, Repr

/-- Nothing but the time of the update. -/
def AccountPatch.touch (now : Nat) : AccountPatch where
  username := none
  email := none
  passwordHash := none
  role := none
  status := none
  mustChangePassword := none
  sessionVersion := none
  emailVerifiedAt := none
  pendingEmail := none
  updatedAt := now

/-- The columns of a new account; every service writes an empty pending email. -/
structure CreateAccount where
  publicUuid : String
  username : String
  email : Option String
  passwordHash : String
  role : UserRole
  status : UserStatus
  mustChangePassword : Bool
  emailVerifiedAt : Option Nat
  deriving DecidableEq, Repr

/-- The columns of a new link. -/
structure CreateContactToken where
  userId : Nat
  channel : VerificationChannel
  purpose : VerificationPurpose
  target : String
  tokenHash : String
  expiresAt : Nat
  createdAt : Nat
  deriving DecidableEq, Repr

/-- One SQL statement.  An insert draws its primary key first, which is a step of
its own. -/
inductive ContactStmt
  | now
  | advanceClock (ms : Nat)
  | userFindById (id : Nat)
  | userFindByEmail (email : String)
  | userFindByPendingEmail (email : String)
  | userFindByIdentifier (identifier : String)
  | userNextId
  | userInsert (id : Nat) (input : CreateAccount)
  | userUpdate (id : Nat) (patch : AccountPatch)
  | userDelete (id : Nat)
  | tokenFindByHash (hash : String)
  | tokenFindLatestActive (userId : Nat) (channel : VerificationChannel)
      (purpose : VerificationPurpose)
  | tokenDeleteActive (userId : Nat) (channel : VerificationChannel)
      (purpose : VerificationPurpose)
  | tokenNextId
  | tokenInsert (id : Nat) (input : CreateContactToken)
  | tokenMarkConsumed (id : Nat)
  | tokenDeleteExpired
  | mailInsert (mail : MailOutbox)

/-- What each statement answers.  An insert or an update that a constraint refuses
answers `none`. -/
@[reducible] def ContactStmt.Reply : ContactStmt → Type
  | .now => Nat
  | .advanceClock _ | .userDelete _ | .tokenDeleteActive _ _ _ | .mailInsert _ => Unit
  | .userFindById _ | .userFindByEmail _ | .userFindByPendingEmail _
  | .userFindByIdentifier _ | .userInsert _ _ | .userUpdate _ _ => Option Account
  | .tokenFindByHash _ | .tokenFindLatestActive _ _ _ | .tokenInsert _ _ =>
      Option ContactVerificationToken
  | .userNextId | .tokenNextId | .tokenDeleteExpired => Nat
  | .tokenMarkConsumed _ => Bool

@[reducible] def contactSignature : Signature := ⟨ContactStmt, ContactStmt.Reply⟩

/-! ## Rows -/

/-- The row an account insert writes. -/
def newAccount (now id : Nat) (input : CreateAccount) : Account where
  id := id
  publicUuid := input.publicUuid
  username := input.username
  email := input.email
  passwordHash := input.passwordHash
  role := input.role
  status := input.status
  mustChangePassword := input.mustChangePassword
  sessionVersion := 1
  emailVerifiedAt := input.emailVerifiedAt
  pendingEmail := none
  updatedAt := now

/-- The row an update writes over `a`. -/
def patchAccount (patch : AccountPatch) (a : Account) : Account where
  toUser :=
    { Db.patchUser patch.toUserPatch a.toUser with
      emailVerifiedAt := patch.emailVerifiedAt.getD a.emailVerifiedAt }
  pendingEmail := patch.pendingEmail.getD a.pendingEmail
  updatedAt := patch.updatedAt

/-- The row a link insert writes. -/
def newContactToken (id : Nat) (input : CreateContactToken) : ContactVerificationToken where
  id := id
  userId := input.userId
  channel := input.channel
  purpose := input.purpose
  target := input.target
  tokenHash := input.tokenHash
  expiresAt := input.expiresAt
  consumedAt := none
  createdAt := input.createdAt

namespace ContactVerificationToken

/-- An unused link of this account, channel and purpose. -/
def unusedFor (userId : Nat) (channel : VerificationChannel) (purpose : VerificationPurpose)
    (t : ContactVerificationToken) : Bool :=
  t.userId = userId && t.channel = channel && t.purpose = purpose && t.consumedAt.isNone

/-- The row `mark_consumed_if_unused` writes. -/
def consume (now : Nat) (t : ContactVerificationToken) : ContactVerificationToken :=
  { t with consumedAt := some now }

/-- A used link leaves the index of the unused ones. -/
theorem clash_consume (now : Nat) (a b : ContactVerificationToken)
    (h : contactTokenSchema.clash a b = false) :
    contactTokenSchema.clash (a.consume now) b = false := by
  simp only [contactTokenSchema, sameActiveLink, Bool.or_eq_false_iff] at h ⊢
  refine ⟨h.1, ?_⟩
  simp [consume]

end ContactVerificationToken

/-- `ORDER BY created_at DESC`. -/
def newestFirst (a b : ContactVerificationToken) : Prop := b.createdAt ≤ a.createdAt

instance : DecidableRel newestFirst := fun a b =>
  inferInstanceAs (Decidable (b.createdAt ≤ a.createdAt))

namespace ContactState

/-- The account with this id. -/
def accountById (s : ContactState) (id : Nat) : Option Account :=
  s.accounts.find? fun a => a.id = id

/-- The link with this hash. -/
def tokenByHash (s : ContactState) (hash : String) : Option ContactVerificationToken :=
  s.tokens.find? fun t => t.tokenHash = hash

/-- `find_latest_active_for_user`. -/
def latestActive (s : ContactState) (userId : Nat) (channel : VerificationChannel)
    (purpose : VerificationPurpose) : Option ContactVerificationToken :=
  ((s.tokens.select fun t =>
    t.unusedFor userId channel purpose && s.now < t.expiresAt).insertionSort newestFirst).head?

/-- Delete an account; its links go with it. -/
def deleteAccount (s : ContactState) (id : Nat) : ContactState :=
  { s with
    accounts := s.accounts.delete fun a => a.id = id
    tokens := s.tokens.delete fun t => t.userId = id }

/-- Mark the link `id` as used, if it is unused. -/
def markConsumed (s : ContactState) (id : Nat) : ContactState :=
  { s with
    tokens := s.tokens.release (fun t => t.id = id && t.consumedAt.isNone)
      (ContactVerificationToken.consume s.now) (fun _ => rfl)
      (ContactVerificationToken.clash_consume s.now) }

end ContactState

/-- What the database does with one statement. -/
def ContactStmt.exec : (i : ContactStmt) → ContactState → i.Reply × ContactState
  | .now, s => (s.now, s)
  | .advanceClock ms, s => ((), { s with now := s.now + ms })
  | .userFindById id, s => (s.accountById id, s)
  | .userFindByEmail email, s => (s.accounts.find? fun a => a.email = some email, s)
  | .userFindByPendingEmail email, s =>
      (s.accounts.find? fun a => a.pendingEmail = some email, s)
  | .userFindByIdentifier identifier, s =>
      (s.accounts.find? fun a => a.username = identifier || a.email = some identifier, s)
  | .userNextId, s => (s.accounts.nextId.1, { s with accounts := s.accounts.nextId.2 })
  | .userInsert id input, s =>
      match s.accounts.insert? (newAccount s.now id input) with
      | some accounts => (some (newAccount s.now id input), { s with accounts := accounts })
      | none => (none, s)
  | .userUpdate id patch, s =>
      match s.accountById id with
      | none => (none, s)
      | some a =>
          match s.accounts.update? (fun a => a.id = id) (patchAccount patch)
            (fun _ => rfl) with
          | some accounts => (some (patchAccount patch a), { s with accounts := accounts })
          | none => (none, s)
  | .userDelete id, s => ((), s.deleteAccount id)
  | .tokenFindByHash hash, s => (s.tokenByHash hash, s)
  | .tokenFindLatestActive userId channel purpose, s =>
      (s.latestActive userId channel purpose, s)
  | .tokenDeleteActive userId channel purpose, s =>
      ((), { s with
        tokens := s.tokens.delete (ContactVerificationToken.unusedFor userId channel purpose) })
  | .tokenNextId, s => (s.tokens.nextId.1, { s with tokens := s.tokens.nextId.2 })
  | .tokenInsert id input, s =>
      if (s.accountById input.userId).isSome then
        match s.tokens.insert? (newContactToken id input) with
        | some tokens => (some (newContactToken id input), { s with tokens := tokens })
        | none => (none, s)
      else (none, s)
  | .tokenMarkConsumed id, s =>
      ((s.tokens.rows.any fun t => t.id = id && t.consumedAt.isNone), s.markConsumed id)
  | .tokenDeleteExpired, s =>
      ((s.tokens.select fun t => t.expiresAt < s.now).length,
        { s with tokens := s.tokens.delete fun t => t.expiresAt < s.now })
  | .mailInsert mail, s => ((), { s with outbox := s.outbox ++ [mail] })

@[reducible] def contactMachine : Machine contactSignature where
  State := ContactState
  exec := ContactStmt.exec

/-- Programs on one connection. -/
abbrev OnConnection := Prog contactSignature AsterError

/-- One statement. -/
def query (i : ContactStmt) : OnConnection i.Reply := Prog.stmt (S := contactSignature) i

/-- A row that must be there. -/
def required {α : Type} (e : AsterError) : Option α → OnConnection α
  | some a => .ok a
  | none => .err e

end AsterYggdrasil.Contact
