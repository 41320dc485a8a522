import AsterYggdrasil.Contact.Records
import AsterYggdrasil.Panel.AuthService

/-!
# Links sent by mail: the operations

Requesting and confirming a changed address, the link of a new account, and the
reset of a forgotten password, as in `auth_service.rs`.  The operations look at
the tables on the pool and write in a transaction of their own; a transaction is
one step here, undone as a whole when it fails.

The secret of a new link is drawn at random, so it is part of the call that draws
it.  A call reads the policy, the lists of allowed and blocked addresses and the
name of the site from the runtime configuration.
-/

namespace AsterYggdrasil.Contact

open Interleave Relational
open AsterYggdrasil.Panel (VerificationPurpose validatePassword saturatingSucc)

/-! ## Policies -/

/-- `EmailPolicyList` of the validation library: whether it has entries, and which
normalised addresses and domains it matches. -/
structure EmailPolicyList where
  isEmpty : Bool
  matched : String → String → Bool

structure LocalEmailPolicy where
  allowlist : EmailPolicyList
  blocklist : EmailPolicyList

/-- `RuntimeContactVerificationPolicy`. -/
structure ContactVerificationPolicy where
  registerActivationTtlSecs : Nat
  contactChangeTtlSecs : Nat
  resendCooldownSecs : Nat
  passwordResetTtlSecs : Nat
  passwordResetRequestCooldownSecs : Nat
  deriving DecidableEq, Repr

/-- What a call reads from the runtime configuration. -/
structure ContactConfig where
  policy : ContactVerificationPolicy
  localEmailPolicy : LocalEmailPolicy
  siteName : String

/-- The functions of other libraries: addresses, digests and password hashes. -/
structure ContactLibrary where
  normalizeEmail : String → Except AsterError String
  normalizedEmailAndDomain : String → Except AsterError (String × String)
  sha256Hex : String → String
  hashPassword : String → Except AsterError String

/-- `email_blocked_error`. -/
def emailBlockedError : AsterError :=
  .validation (some .authEmailBlocked) "email address is blocked by local account policy"

/-- `LocalEmailPolicy::check`. -/
def LocalEmailPolicy.check (lib : ContactLibrary) (p : LocalEmailPolicy) (email : String) :
    Except AsterError Unit := do
  let (normalized, domain) ← lib.normalizedEmailAndDomain email
  if p.blocklist.matched normalized domain then .error emailBlockedError
  else if !p.allowlist.isEmpty && !p.allowlist.matched normalized domain then
    .error (.validation (some .authEmailNotAllowlisted)
      "email address is not allowed by local account policy")
  else .ok ()

/-- `LocalEmailPolicy::check_not_blocked`. -/
def LocalEmailPolicy.checkNotBlocked (lib : ContactLibrary) (p : LocalEmailPolicy)
    (email : String) : Except AsterError Unit := do
  let (normalized, domain) ← lib.normalizedEmailAndDomain email
  if p.blocklist.matched normalized domain then .error emailBlockedError else .ok ()

/-! ## Statements -/

/-- `user_repo::find_by_id`. -/
def userFindById (id : Nat) : OnConnection Account := do
  required (.recordNotFound s!"user #{id}") (← query (.userFindById id))

/-- A pure result in a program. -/
def checked {α : Type} (r : Except AsterError α) : OnConnection α := Prog.ofExcept r

/-- `active.update(txn)`. -/
def userUpdate (id : Nat) (patch : AccountPatch) : OnConnection Account := do
  required .databaseOperation (← query (.userUpdate id patch))

/-- `is_email_verified`. -/
def isEmailVerified (user : Account) : Bool := user.emailVerifiedAt.isSome

/-- `require_user_email`. -/
def requireUserEmail (user : Account) : Except AsterError String :=
  match user.email with
  | some email => .ok email
  | none => .error (.validation none "account does not have an email address")

/-- The error of an address that is taken. -/
def emailExistsError : AsterError := .validation (some .authEmailExists) "email already exists"

/-- `ensure_email_available`. -/
def ensureEmailAvailable (email : String) (excludeUserId : Option Nat) :
    OnConnection Unit := do
  let existing ← query (.userFindByEmail email)
  Prog.rejectIf (existing.any fun a => some a.id ≠ excludeUserId) emailExistsError
  let existing ← query (.userFindByPendingEmail email)
  Prog.rejectIf (existing.any fun a => some a.id ≠ excludeUserId) emailExistsError

/-- `start + Duration::seconds(u64_to_i64(value, what)?)`, which panics behind the end
of the calendar. -/
def afterSeconds (start value : Nat) (what : String) : Except AsterError Nat :=
  if i64Max < value then .error (.numberOutOfRange what)
  else if maxUtc < start + value * 1000 then .error .panicked
  else .ok (start + value * 1000)

/-- The last link of this purpose is old enough for another one. -/
def sendAllowed (purpose : VerificationPurpose) (cooldownSecs : Nat) (what : String)
    (userId : Nat) : OnConnection Bool := do
  match ← query (.tokenFindLatestActive userId .email purpose) with
  | none => pure true
  | some latest => do
      let due ← checked (afterSeconds latest.createdAt cooldownSecs what)
      let now ← query .now
      pure (decide (due ≤ now))

/-- `password_reset_request_allowed`. -/
def passwordResetRequestAllowed (policy : ContactVerificationPolicy) (userId : Nat) :
    OnConnection Bool :=
  sendAllowed .passwordReset policy.passwordResetRequestCooldownSecs
    "password reset request cooldown" userId

/-- `register_activation_resend_allowed`. -/
def registerActivationResendAllowed (policy : ContactVerificationPolicy) (userId : Nat) :
    OnConnection Bool :=
  sendAllowed .registerActivation policy.resendCooldownSecs
    "contact verification resend cooldown" userId

/-- `issue_contact_verification_token`, with the secret it draws. -/
def issueContactVerificationToken (lib : ContactLibrary) (userId : Nat)
    (purpose : VerificationPurpose) (target : String) (ttlSecs : Nat) (token : String) :
    OnConnection String := do
  let now ← query .now
  query (.tokenDeleteActive userId .email purpose)
  let expiresAt ← checked (afterSeconds now ttlSecs "contact verification ttl")
  let id ← query .tokenNextId
  let row ← query (.tokenInsert id
    { userId := userId
      channel := .email
      purpose := purpose
      target := target
      tokenHash := lib.sha256Hex token
      expiresAt := expiresAt
      createdAt := now })
  let _ ← required .databaseOperation row
  pure token

/-- `mail_outbox_service::enqueue`. -/
def enqueue (toAddress : String) (toName : Option String) (payload : MailTemplatePayload) :
    OnConnection Unit := do
  let now ← query .now
  query (.mailInsert
    { toAddress := toAddress
      toName := toName
      payload := payload
      createdAt := now })

/-- The mail that carries a link. -/
def linkPayload (purpose : VerificationPurpose) (username token siteName : String) :
    MailTemplatePayload :=
  match purpose with
  | .registerActivation => .registerActivation username token siteName
  | .contactChange => .contactChangeConfirmation username token siteName
  | .passwordReset => .passwordReset username token siteName

/-- How long a link can be followed. -/
def ContactVerificationPolicy.ttlSecs (policy : ContactVerificationPolicy) :
    VerificationPurpose → Nat
  | .registerActivation => policy.registerActivationTtlSecs
  | .contactChange => policy.contactChangeTtlSecs
  | .passwordReset => policy.passwordResetTtlSecs

section Bodies

variable (lib : ContactLibrary) (cfg : ContactConfig)

/-- Issue a link and put it into the mail; the transactions that send a link end
with this. -/
def sendLink (purpose : VerificationPurpose) (user : Account) (address token : String) :
    OnConnection Unit := do
  let token ← issueContactVerificationToken lib user.id purpose address
    (cfg.policy.ttlSecs purpose) token
  enqueue address (some user.username) (linkPayload purpose user.username token cfg.siteName)

/-! ## Transactions -/

/-- The transaction of `request_email_change`. -/
def requestChangeBody (existing : Account) (normalizedEmail token : String) :
    OnConnection Account := do
  let now ← query .now
  let updated ← userUpdate existing.id
    { AccountPatch.touch now with pendingEmail := some (some normalizedEmail) }
  sendLink lib cfg .contactChange updated normalizedEmail token
  pure updated

/-- The transaction of `resend_email_change`. -/
def resendChangeBody (user : Account) (pendingEmail token : String) : OnConnection Unit :=
  sendLink lib cfg .contactChange user pendingEmail token

/-- The transaction of `request_password_reset`. -/
def requestResetBody (user : Account) (token : String) : OnConnection Unit := do
  let email ← checked (requireUserEmail user)
  sendLink lib cfg .passwordReset user email token

/-- The transaction of `resend_register_activation`. -/
def resendActivationBody (user : Account) (token : String) : OnConnection Unit := do
  let email ← checked (requireUserEmail user)
  sendLink lib cfg .registerActivation user email token

/-- The transaction of `register`, for an account that has to be activated, from
the checked input on. -/
def registerBody (input : CreateAccount) (token : String) : OnConnection Account := do
  let id ← query .userNextId
  let user ← required .databaseOperation (← query (.userInsert id input))
  let email ← checked (requireUserEmail user)
  sendLink lib cfg .registerActivation user email token
  pure user

/-- `contact_verification_invalid`. -/
def contactVerificationInvalid (message : String) : AsterError :=
  .validation (some .contactVerificationInvalid) message

/-- `contact_verification_expired`. -/
def contactVerificationExpired (message : String) : AsterError :=
  .gone .contactVerificationExpired message

/-- The check of an account that the confirmations share. -/
def ensureActive (user : Account) : OnConnection Unit :=
  Prog.rejectIf (!user.status.isActive)
    (.authForbidden (some .authUserDisabled) "user is disabled")

/-- The registration link has been followed. -/
def confirmActivation (user : Account) (target : String) (now : Nat) : OnConnection Unit := do
  Prog.rejectIf (user.email ≠ some target)
    (contactVerificationInvalid "contact verification target mismatch")
  if user.emailVerifiedAt.isNone then do
    let _ ← userUpdate user.id
      { AccountPatch.touch now with emailVerifiedAt := some (some now) }
    pure ()
  else pure ()

/-- The new address of a confirmed change. -/
def changedEmail (target : String) (now : Nat) : AccountPatch :=
  { AccountPatch.touch now with
    email := some target
    pendingEmail := some none
    emailVerifiedAt := some (some now) }

/-- The link of a changed address has been followed. -/
def confirmChange (user : Account) (target : String) (now : Nat) : OnConnection Unit := do
  Prog.rejectIf (user.email ≠ some target && user.pendingEmail ≠ some target)
    (contactVerificationInvalid "contact change request no longer exists")
  ensureEmailAvailable target (some user.id)
  if user.email ≠ some target then do
    let _ ← userUpdate user.id (changedEmail target now)
    -- the notice needs an address to go to
    let previousEmail ← checked (requireUserEmail user)
    enqueue previousEmail (some user.username)
      (.contactChangeNotice user.username previousEmail target cfg.siteName)
  else pure ()

/-- The transaction of `confirm_contact_verification`. -/
def confirmBody (record : ContactVerificationToken) : OnConnection Unit := do
  let user ← userFindById record.userId
  ensureActive user
  Prog.rejectIf (record.purpose = .passwordReset)
    (contactVerificationInvalid "password reset token cannot be confirmed from this endpoint")
  let consumed ← query (.tokenMarkConsumed record.id)
  Prog.rejectIf (!consumed)
    (contactVerificationInvalid "contact verification link has already been used")
  let now ← query .now
  match record.purpose with
  | .registerActivation => confirmActivation user record.target now
  | .contactChange => confirmChange cfg user record.target now
  | .passwordReset =>
      .err (contactVerificationInvalid
        "password reset token cannot be confirmed from this endpoint")

/-- The transaction of `confirm_password_reset`. -/
def confirmResetBody (record : ContactVerificationToken) (newPassword : String) :
    OnConnection Account := do
  let user ← userFindById record.userId
  ensureActive user
  Prog.rejectIf (!isEmailVerified user || user.email ≠ some record.target)
    (contactVerificationInvalid "password reset request no longer exists")
  let consumed ← query (.tokenMarkConsumed record.id)
  Prog.rejectIf (!consumed)
    (contactVerificationInvalid "password reset link has already been used")
  checked (validatePassword newPassword)
  let hash ← checked (lib.hashPassword newPassword)
  let now ← query .now
  let updated ← userUpdate user.id
    { AccountPatch.touch now with
      passwordHash := some hash
      mustChangePassword := some false
      sessionVersion := some (saturatingSucc user.sessionVersion) }
  let email ← checked (requireUserEmail updated)
  enqueue email (some updated.username) (.passwordResetNotice updated.username cfg.siteName)
  pure updated

end Bodies

/-- One transaction. -/
inductive ContactTxn
  | requestChange (existing : Account) (normalizedEmail token : String)
  | resendChange (user : Account) (pendingEmail token : String)
  | requestReset (user : Account) (token : String)
  | resendActivation (user : Account) (token : String)
  | register (input : CreateAccount) (token : String)
  | confirm (record : ContactVerificationToken)
  | confirmReset (record : ContactVerificationToken) (newPassword : String)

@[reducible] def ContactTxn.Result : ContactTxn → Type
  | .requestChange _ _ _ | .register _ _ | .confirmReset _ _ => Account
  | .resendChange _ _ _ | .requestReset _ _ | .resendActivation _ _ | .confirm _ => Unit

def ContactTxn.body (lib : ContactLibrary) (cfg : ContactConfig) :
    (t : ContactTxn) → OnConnection t.Result
  | .requestChange existing email token => requestChangeBody lib cfg existing email token
  | .resendChange user email token => resendChangeBody lib cfg user email token
  | .requestReset user token => requestResetBody lib cfg user token
  | .resendActivation user token => resendActivationBody lib cfg user token
  | .register input token => registerBody lib cfg input token
  | .confirm record => confirmBody cfg record
  | .confirmReset record newPassword => confirmResetBody lib cfg record newPassword

/-- A transaction in one step: a failure undoes its writes. -/
def ContactTxn.commit (lib : ContactLibrary) (cfg : ContactConfig) (t : ContactTxn)
    (s : ContactState) : Except AsterError t.Result × ContactState :=
  match (t.body lib cfg).run contactMachine s with
  | (.ok a, s') => (.ok a, s')
  | (.error e, _) => (.error e, s)

/-- A step of an operation: a statement on the pool, or a transaction. -/
inductive ContactStep
  | sql (i : ContactStmt)
  | txn (t : ContactTxn)

@[reducible] def ContactStep.Reply : ContactStep → Type
  | .sql i => i.Reply
  | .txn t => Except AsterError t.Result

@[reducible] def stepSignature : Signature := ⟨ContactStep, ContactStep.Reply⟩

section Operations

variable (lib : ContactLibrary) (cfg : ContactConfig)

def ContactStep.exec : (i : ContactStep) → ContactState → i.Reply × ContactState
  | .sql i, s => i.exec s
  | .txn t, s => t.commit lib cfg s

@[reducible] def stepMachine : Machine stepSignature where
  State := ContactState
  exec := ContactStep.exec lib cfg

/-- The operations. -/
abbrev ContactProg := Prog stepSignature AsterError

/-- How a statement is a step. -/
def sqlHom : Signature.Hom contactSignature stepSignature := ⟨.sql, fun _ r => r⟩

/-- Run on the pool what could run in a transaction. -/
def onPool {α : Type} (p : OnConnection α) : ContactProg α := p.hoist sqlHom id

/-- `with_transaction`. -/
def withTxn (t : ContactTxn) : ContactProg t.Result := do
  match ← Prog.stmt (S := stepSignature) (.txn t) with
  | .ok a => .ok a
  | .error e => .err e

/-! ## Operations -/

/-- The checks of an account that wants to change its address. -/
def ensureMayChangeEmail (user : Account) : OnConnection Unit := do
  ensureActive user
  Prog.rejectIf (!isEmailActivationSatisfied user.toUser)
    (.authForbidden (some .authPendingActivation)
      "account must be activated before changing email")

/-- `request_email_change`, up to its transaction: the account, and the address as
it will be stored. -/
def requestEmailChangeChecks (userId : Nat) (newEmail : String) :
    OnConnection (Account × String) := do
  let normalizedEmail ← checked (lib.normalizeEmail newEmail)
  let existing ← userFindById userId
  ensureMayChangeEmail existing
  Prog.rejectIf (existing.email = some normalizedEmail)
    (.validation none "new email must be different from current email")
  checked (cfg.localEmailPolicy.check lib normalizedEmail)
  ensureEmailAvailable normalizedEmail (some existing.id)
  if existing.pendingEmail = some normalizedEmail then do
    let allowed ← registerActivationResendAllowed cfg.policy existing.id
    Prog.rejectIf (!allowed) (.rateLimited "please wait before resending verification email")
    pure (existing, normalizedEmail)
  else pure (existing, normalizedEmail)

/-- `request_email_change`. -/
def requestEmailChange (userId : Nat) (newEmail token : String) : ContactProg Account := do
  let (existing, normalizedEmail) ← onPool (requestEmailChangeChecks lib cfg userId newEmail)
  withTxn (.requestChange existing normalizedEmail token)

/-- `resend_email_change`, up to its transaction: the account and its pending
address, unless the last link is too young. -/
def resendEmailChangeChecks (userId : Nat) : OnConnection (Option (Account × String)) := do
  let user ← userFindById userId
  let pendingEmail ← required (.validation none "no pending email change request")
    user.pendingEmail
  ensureMayChangeEmail user
  checked (cfg.localEmailPolicy.checkNotBlocked lib pendingEmail)
  ensureEmailAvailable pendingEmail (some user.id)
  let allowed ← registerActivationResendAllowed cfg.policy user.id
  pure (if allowed then some (user, pendingEmail) else none)

/-- `resend_email_change`. -/
def resendEmailChange (userId : Nat) (token : String) : ContactProg (Option Account) := do
  match ← onPool (resendEmailChangeChecks lib cfg userId) with
  | none => pure none
  | some (user, pendingEmail) => do
      let _ ← withTxn (.resendChange user pendingEmail token)
      pure (some user)

/-- `request_password_reset`, up to its transaction: the account that is named in
the answer, and whether a link is sent to it. -/
def requestPasswordResetChecks (email : String) : OnConnection (Option (Account × Bool)) := do
  let normalizedEmail ← checked (lib.normalizeEmail email)
  match ← query (.userFindByEmail normalizedEmail) with
  | none => pure none
  | some user =>
      if !user.status.isActive || !isEmailVerified user then pure none
      else do
        let allowed ← passwordResetRequestAllowed cfg.policy user.id
        pure (some (user, allowed))

/-- `request_password_reset`. -/
def requestPasswordReset (email token : String) : ContactProg (Option Account) := do
  match ← onPool (requestPasswordResetChecks lib cfg email) with
  | none => pure none
  | some (user, false) => pure (some user)
  | some (user, true) => do
      let _ ← withTxn (.requestReset user token)
      pure (some user)

/-- `RegisterActivationResendOutcome`. -/
inductive RegisterActivationResendOutcome
  | sent (user : Account)
  | emailNotFound
  | alreadyActive
  | accountDisabled
  | cooldown
  | emailPolicyRejected
  deriving DecidableEq, Repr

/-- `resend_register_activation`, up to its transaction: the account a link is sent
to, or the outcome without one. -/
def resendRegisterActivationChecks (identifier : String) :
    OnConnection (RegisterActivationResendOutcome ⊕ Account) := do
  match ← query (.userFindByIdentifier identifier) with
  | none => pure (.inl .emailNotFound)
  | some user =>
      if !user.status.isActive then pure (.inl .accountDisabled)
      else if isEmailVerified user then pure (.inl .alreadyActive)
      else do
        let email ← checked (requireUserEmail user)
        match cfg.localEmailPolicy.check lib email with
        | .error _ => pure (.inl .emailPolicyRejected)
        | .ok _ => do
            let allowed ← registerActivationResendAllowed cfg.policy user.id
            pure (if allowed then .inr user else .inl .cooldown)

/-- `resend_register_activation`. -/
def resendRegisterActivation (identifier token : String) :
    ContactProg RegisterActivationResendOutcome := do
  match ← onPool (resendRegisterActivationChecks lib cfg identifier) with
  | .inl outcome => pure outcome
  | .inr user => do
      let _ ← withTxn (.resendActivation user token)
      pure (.sent user)

/-- `ContactVerificationConfirmResult`. -/
structure ContactVerificationConfirmResult where
  purpose : VerificationPurpose
  userId : Nat
  target : String
  deriving DecidableEq, Repr

/-- The link of a secret, as long as it can be followed. -/
def followLink (token invalid used expired : String) :
    OnConnection ContactVerificationToken := do
  let record ← required (contactVerificationInvalid invalid)
    (← query (.tokenFindByHash (lib.sha256Hex token)))
  Prog.rejectIf record.consumedAt.isSome (contactVerificationInvalid used)
  let now ← query .now
  Prog.rejectIf (record.expiresAt ≤ now) (contactVerificationExpired expired)
  pure record

/-- `confirm_contact_verification`. -/
def confirmContactVerification (token : String) :
    ContactProg ContactVerificationConfirmResult := do
  let record ← onPool (followLink lib token "contact verification link is invalid"
    "contact verification link has already been used" "contact verification link has expired")
  withTxn (.confirm record)
  pure ⟨record.purpose, record.userId, record.target⟩

/-- `confirm_password_reset`. -/
def confirmPasswordReset (token newPassword : String) : ContactProg Account := do
  onPool (checked (validatePassword newPassword))
  let record ← onPool do
    let record ← required (contactVerificationInvalid "password reset link is invalid")
      (← query (.tokenFindByHash (lib.sha256Hex token)))
    Prog.rejectIf (record.purpose ≠ .passwordReset)
      (contactVerificationInvalid "password reset link is invalid")
    Prog.rejectIf record.consumedAt.isSome
      (contactVerificationInvalid "password reset link has already been used")
    let now ← query .now
    Prog.rejectIf (record.expiresAt ≤ now)
      (contactVerificationExpired "password reset link has expired")
    pure record
  withTxn (.confirmReset record newPassword)

/-- One statement on the pool. -/
def sql (i : ContactStmt) : ContactProg i.Reply := onPool (query i)

/-- `cleanup_expired_contact_verification_tokens`. -/
def cleanupExpiredContactVerificationTokens : ContactProg Nat := sql .tokenDeleteExpired

end Operations

/-! ## Calls -/

/-- A call that works on accounts and their links.  What the other services write
into `users` enters as the row they insert, the columns they update, and the
account they delete; they leave the pending address and the time of verification
alone. -/
inductive ContactCall
  | requestEmailChange (userId : Nat) (newEmail token : String)
  | resendEmailChange (userId : Nat) (token : String)
  | requestPasswordReset (email token : String)
  | resendRegisterActivation (identifier token : String)
  | confirmContactVerification (token : String)
  | confirmPasswordReset (token newPassword : String)
  | cleanupExpiredContactVerificationTokens
  | register (input : CreateAccount) (token : String)
  | createAccount (input : CreateAccount)
  | updateAccount (id : Nat) (patch : UserPatch)
  | deleteAccount (id : Nat)
  | tick (ms : Nat)

inductive ContactResponse
  | user (user : Account)
  | maybeUser (user : Option Account)
  | outcome (outcome : RegisterActivationResendOutcome)
  | confirmed (result : ContactVerificationConfirmResult)
  | deleted (rows : Nat)
  | done
  deriving DecidableEq, Repr

def ContactCall.body (lib : ContactLibrary) (cfg : ContactConfig) :
    ContactCall → ContactProg ContactResponse
  | .requestEmailChange userId newEmail token => do
      let user ← Contact.requestEmailChange lib cfg userId newEmail token
      pure (.user user)
  | .resendEmailChange userId token => do
      let user ← Contact.resendEmailChange lib cfg userId token
      pure (.maybeUser user)
  | .requestPasswordReset email token => do
      let user ← Contact.requestPasswordReset lib cfg email token
      pure (.maybeUser user)
  | .resendRegisterActivation identifier token => do
      let outcome ← Contact.resendRegisterActivation lib cfg identifier token
      pure (.outcome outcome)
  | .confirmContactVerification token => do
      let result ← Contact.confirmContactVerification lib token
      pure (.confirmed result)
  | .confirmPasswordReset token newPassword => do
      let user ← Contact.confirmPasswordReset lib token newPassword
      pure (.user user)
  | .cleanupExpiredContactVerificationTokens => do
      let rows ← Contact.cleanupExpiredContactVerificationTokens
      pure (.deleted rows)
  | .register input token => do
      let user ← withTxn (.register input token)
      pure (.user user)
  | .createAccount input => do
      let id ← sql .userNextId
      let user ← onPool (do required .databaseOperation (← query (.userInsert id input)))
      pure (.user user)
  | .updateAccount id patch => do
      let now ← sql .now
      let user ← onPool (userUpdate id { AccountPatch.touch now with toUserPatch := patch })
      pure (.user user)
  | .deleteAccount id => do
      sql (.userDelete id)
      pure .done
  | .tick ms => do
      sql (.advanceClock ms)
      pure .done

end AsterYggdrasil.Contact
