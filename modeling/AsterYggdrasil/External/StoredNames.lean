import AsterYggdrasil.External.Provisioning
import AsterYggdrasil.External.AccountNames
import AsterYggdrasil.Interleave.Calls

/-!
# The user names that are stored

Each way to create or rename an account checks the name without its surrounding
blanks.  The administrator's forms store it that way, and the names made for
external logins have no blanks; registration, setup and the acceptance of an
invitation store the text as it came.

`WritesOnly W` says of a statement that it writes no user name but one with `W`.
Every program gets it once, and with it every interleaving of calls keeps `W` of
all stored names (`stored_names`).
-/

namespace AsterYggdrasil.External

open Interleave Interleave.Config Relational Prog

/-! ## What a statement writes -/

/-- The statement writes no user name that is not a `W`.  No call of an account
runs the two token transactions. -/
def AccountStmt.WritesOnly (W : String → Prop) : AccountStmt → Prop
  | .service (.db (.userInsert input)) => W input.username
  | .service (.db (.userUpdate _ patch)) => ∀ name, patch.username = some name → W name
  | .service (.txn (.updateUser _ input)) => ∀ name, input.username = some name → W name
  | .service (.txn (.issueToken _)) | .service (.txn (.refreshToken _ _)) => False
  | .userCreate input => W input.username
  | _ => True

/-- Every stored user name is a `W`. -/
def NamesAre (W : String → Prop) (s : AccountState) : Prop :=
  ∀ u ∈ s.users.rows, W u.username

section Writes

variable {W : String → Prop} {s : AccountState}

/-- A quiet statement writes no username at all. -/
theorem AccountStmt.writesOnly_quiet {i : AccountStmt} (hi : i.quiet = true) :
    i.WritesOnly W := by
  cases i with
  | service i =>
    cases i with
    | db i =>
      cases i with
      | userInsert input => cases hi
      | userUpdate id patch =>
        intro name hname
        have hnone : patch.username = none := Option.isNone_iff_eq_none.mp hi
        rw [hnone] at hname
        cases hname
      | _ => trivial
    | txn t => cases hi
    | _ => trivial
  | userCreate input => cases hi
  | _ => trivial

/-- The names stay such when each is a new one of the kind or was there before. -/
theorem NamesAre.of_users {s' : AccountState} (h : NamesAre W s)
    (hs : ∀ u' ∈ s'.users.rows, W u'.username ∨
      ∃ u ∈ s.users.rows, u.username = u'.username) : NamesAre W s' := by
  intro u' hu'
  rcases hs u' hu' with hw | ⟨u, hu, hname⟩
  · exact hw
  · rw [← hname]
    exact h u hu

/-- They do where the users stay the same. -/
theorem NamesAre.of_eq {s' : AccountState} (h : NamesAre W s) (hs : s'.users = s.users) :
    NamesAre W s' := by
  intro u hu
  rw [hs] at hu
  exact h u hu

/-- And where nothing but other tables has changed. -/
theorem NamesAre.undisturbed {s' : AccountState} (h : NamesAre W s) (hs : Undisturbed s s') :
    NamesAre W s' := by
  refine h.of_users fun u' hu' => ?_
  obtain ⟨u, hu, -, hname⟩ := hs.users u' hu'
  exact Or.inr ⟨u, hu, hname⟩

/-- What an update of a user does to the names. -/
theorem NamesAre.userUpdate {id : Nat} {patch : UserPatch} (h : NamesAre W s)
    (hpatch : ∀ name, patch.username = some name → W name) :
    NamesAre W (s.withDb ((DbStmt.userUpdate id patch).exec s.service.db).2) := by
  obtain ⟨-, husers⟩ := exec_userUpdate id patch s.service.db
  refine h.of_users fun u' hu' => ?_
  rcases husers u' hu' with ⟨-, hname, -⟩ | ⟨u, hu, -, hname⟩
  · exact Or.inl (hpatch _ hname)
  · exact Or.inr ⟨u, hu, hname⟩

/-- The administrator's transaction. -/
theorem NamesAre.updateTxn {id : Nat} {input : AdminUpdateUser} (h : NamesAre W s)
    (hinput : ∀ name, input.username = some name → W name) :
    NamesAre W ((AccountStmt.service (.txn (.updateUser id input))).exec s).2 := by
  let r : Db → Db → Prop := fun db db' =>
    ∀ u' ∈ db'.users.rows, W u'.username ∨ ∃ u ∈ db.users.rows, u.username = u'.username
  have hrefl : ∀ db, r db db := fun db u hu => Or.inr ⟨u, hu, rfl⟩
  have htrans : ∀ a b c, r a b → r b c → r a c := by
    intro a b c hab hbc u hu
    rcases hbc u hu with hw | ⟨v, hv, hname⟩
    · exact Or.inl hw
    · rcases hab v hv with hw | ⟨w, hw, hname'⟩
      · exact Or.inl (hname ▸ hw)
      · exact Or.inr ⟨w, hw, hname'.trans hname⟩
  have hpatch : ∀ patch : UserPatch, patch.username = input.username →
      ∀ db, r db ((DbStmt.userUpdate id patch).exec db).2 := by
    intro patch heq db u' hu'
    obtain ⟨-, husers⟩ := exec_userUpdate id patch db
    rcases husers u' hu' with ⟨-, hname, -⟩ | ⟨u, hu, -, hname⟩
    · exact Or.inl (hinput _ (heq ▸ hname))
    · exact Or.inr ⟨u, hu, hname⟩
  have hcommit : r s.service.db ((Txn.updateUser id input).commit s.service.db).2 := by
    refine Txn.commit_of_within (.updateUser id input) hrefl htrans (Within.hoist ?_) _
    have hadmin : ∀ bump, (userUpdateAdmin id input bump).Within
        fun i : DbStmt => ∀ db, r db (i.exec db).2 := by
      intro bump
      refine Within.bind (Within.stmt_bind hrefl fun found => ?_) fun existing => ?_
      · cases found <;> trivial
      · refine Within.stmt_bind (hpatch _ rfl) fun row => ?_
        cases row <;> trivial
    unfold updateUserTxn
    cases input.username with
    | none => exact hadmin _
    | some name =>
      refine Within.bind ?_ fun _ => hadmin _
      exact Within.stmt_bind hrefl fun _ => Within.rejectIf.bind fun _ =>
        Within.stmt_bind hrefl fun _ => Within.rejectIf
  exact h.of_users hcommit

/-- **A statement that writes only such names keeps all names such.** -/
theorem AccountStmt.WritesOnly.exec {i : AccountStmt} (hi : i.WritesOnly W) (h : NamesAre W s) :
    NamesAre W (i.exec s).2 := by
  by_cases hquiet : i.quiet = true
  · exact h.undisturbed (undisturbed_exec hquiet s)
  cases i with
  | service i =>
    cases i with
    | db i =>
      cases i with
      | userInsert input =>
        simp only [AccountStmt.exec, ServiceStmt.exec, DbStmt.exec]
        split
        · next users hinsert =>
          obtain ⟨hrows, -, -, -⟩ := Table.insert?_eq_some hinsert
          refine h.of_users fun u hu => ?_
          change u ∈ users.rows at hu
          rw [hrows, List.mem_append, List.mem_singleton] at hu
          rcases hu with hu | rfl
          · exact Or.inr ⟨u, hu, rfl⟩
          · exact Or.inl hi
        · exact h
      | userUpdate id patch => exact h.userUpdate hi
      | profileInsert input =>
        refine h.of_eq ?_
        simp only [AccountStmt.exec, ServiceStmt.exec, DbStmt.exec]
        split
        · rfl
        · split <;> rfl
      | profileUpdateName id name count =>
        refine h.of_eq ?_
        exact (RenamedOnly.exec_update count s.service.db).users
      | _ => exact absurd rfl hquiet
    | txn t =>
      cases t with
      | updateUser id input => exact h.updateTxn hi
      | renameProfile profile name =>
        exact h.of_eq (RenamedOnly.commit profile name s.service.db).users
      | issueToken args => cases hi
      | refreshToken old args => cases hi
    | _ => exact absurd rfl hquiet
  | userCreate input =>
    obtain ⟨-, -, hrows⟩ := exec_userCreate input s
    refine h.of_users fun u hu => ?_
    rcases hrows with ⟨-, hrows⟩ | ⟨-, hrows⟩
    · exact Or.inr ⟨u, hrows ▸ hu, rfl⟩
    · rw [hrows, List.mem_append, List.mem_singleton] at hu
      rcases hu with hu | rfl
      · exact Or.inr ⟨u, hu, rfl⟩
      · exact Or.inl hi
  | emailFlowCreate input =>
    refine h.of_eq ?_
    simp only [AccountStmt.exec]
    split
    · split <;> rfl
    · rfl
  | providerCreate row =>
    refine h.of_eq ?_
    simp only [AccountStmt.exec]
    split <;> rfl
  | providerUpdate id patch => exact h
  | providerDelete id => exact h
  | identityDeleteForUser id userId => exact h
  | _ => exact absurd rfl hquiet

end Writes

/-! ## Programs on one connection -/

/-- The program issues only statements with `P`.  As a structure it does not
unfold together with the program. -/
structure Issues {S : Signature} {ε α : Type} (P : S.Stmt → Prop) (p : Prog S ε α) : Prop where
  within : p.Within P

section Issues

variable {S T : Signature} {ε ε' α β : Type} {P : S.Stmt → Prop}

/-- A program that is over issues nothing. -/
theorem issues_ok {a : α} : Issues P (.ok a : Prog S ε α) := ⟨trivial⟩

/-- Nor does a failed one. -/
theorem issues_err {e : ε} : Issues P (.err e : Prog S ε α) := ⟨trivial⟩

/-- A sequence issues what its parts issue. -/
theorem Issues.bind {p : Prog S ε α} {f : α → Prog S ε β} (hp : Issues P p)
    (hf : ∀ a, Issues P (f a)) : Issues P (p.bind f) :=
  ⟨hp.within.bind fun a => (hf a).within⟩

/-- The rule for one statement and what follows. -/
theorem Issues.stmt_bind {i : S.Stmt} {f : S.Reply i → Prog S ε α} (hi : P i)
    (hf : ∀ r, Issues P (f r)) : Issues P ((Prog.stmt i).bind f) :=
  ⟨Within.stmt_bind hi fun r => (hf r).within⟩

/-- A statement issues itself. -/
theorem issues_stmt {i : S.Stmt} (hi : P i) : Issues P (Prog.stmt i : Prog S ε (S.Reply i)) :=
  ⟨hi, fun _ => trivial⟩

/-- A check issues nothing. -/
theorem issues_rejectIf {c : Bool} {e : ε} : Issues P (Prog.rejectIf c e : Prog S ε Unit) :=
  ⟨Within.rejectIf⟩

/-- A result that is there already issues nothing. -/
theorem issues_ofExcept {r : Except ε α} : Issues P (Prog.ofExcept r : Prog S ε α) :=
  ⟨Within.ofExcept⟩

/-- What follows a check may use that it was passed. -/
theorem Issues.ofExcept_bind {r : Except ε α} {f : α → Prog S ε β}
    (hf : ∀ a, r = .ok a → Issues P (f a)) : Issues P ((Prog.ofExcept r).bind f) :=
  ⟨Within.ofExcept_bind fun a ha => (hf a ha).within⟩

/-- A hoisted program issues the images of its statements. -/
theorem Issues.hoist {P' : T.Stmt → Prop} {h : Signature.Hom S T} {g : ε → ε'}
    {p : Prog S ε α} (hp : Issues (fun i => P' (h.stmt i)) p) : Issues P' (p.hoist h g) :=
  ⟨Within.hoist hp.within⟩

/-- Catching an error issues nothing more. -/
theorem Issues.attempt {p : Prog S ε α} (hp : Issues P p) :
    Issues P (p.attempt : Prog S ε' (Except ε α)) :=
  ⟨hp.within.attempt⟩

end Issues

section Connection

variable {α : Type} {W : String → Prop}

/-- A program on a connection that writes no other user name than a `W`. -/
abbrev WritesNames (W : String → Prop) (p : OnConnection α) : Prop :=
  Issues (fun i : AccountStmt => i.WritesOnly W) p

/-- The same for a program of the service. -/
abbrev ServiceWritesNames (W : String → Prop) (p : Service α) : Prop :=
  Issues (fun i : ServiceStmt => (AccountStmt.service i).WritesOnly W) p

/-- What is quiet writes no username. -/
theorem Quiet.writes {p : Service α} (hp : Quiet p) : ServiceWritesNames W p :=
  ⟨hp.mono fun _ => AccountStmt.writesOnly_quiet⟩

/-- A program of the Yggdrasil services writes the names that it writes there. -/
theorem writes_ofService {p : Service α} (hp : ServiceWritesNames W p) :
    WritesNames W (ofService p) := Issues.hoist hp

/-- An expected row is looked at, not written. -/
theorem issues_dbRequired {P : DbStmt → Prop} {e : AsterError} {o : Option α} :
    Issues (S := dbSignature) P (DbProg.required e o) := by
  cases o with
  | none => exact issues_err
  | some a => exact issues_ok

/-- So it is on the connection of an account. -/
theorem writes_required {e : AsterError} {o : Option α} : WritesNames W (required e o) := by
  cases o
  · exact issues_err
  · exact issues_ok

/-- A pure check writes no username. -/
theorem writes_checked {r : Except AsterError α} : WritesNames W (checked r) :=
  issues_ofExcept

/-- Finding a user writes no username. -/
theorem writes_userFindById (id : Nat) : WritesNames W (ofDb (userFindById id)) :=
  writes_ofService (quiet_userFindById id).writes

/-- Nor does the check that a username is free. -/
theorem writes_ensureUsernameAvailable (name : String) (owner : Option Nat) :
    WritesNames W (ofDb (ensureUsernameAvailable name owner)) :=
  writes_ofService (Issues.hoist (Issues.stmt_bind trivial fun _ =>
    issues_rejectIf.bind fun _ => Issues.stmt_bind trivial fun _ => issues_rejectIf))

/-! ### Profiles -/

/-- Creating a profile writes a profile's name, not a username. -/
theorem writes_createProfileWithUuid (ctx : ProfileContext) (input : CreateProfileInput) :
    ServiceWritesNames W (createProfileWithUuid ctx input) := by
  refine (quiet_ensureMayManageProfiles _).writes.bind fun _ => ?_
  refine (quiet_checkProfileQuota _ _).writes.bind fun _ => ?_
  refine Issues.bind (issues_rejectIf.bind fun _ => issues_rejectIf) fun _ => ?_
  refine (quiet_checkMojangName _ _).writes.bind fun _ => ?_
  refine Issues.stmt_bind trivial fun taken => issues_rejectIf.bind fun _ => ?_
  refine (quiet_profileNameTaken _ _ _).writes.bind fun _ => issues_rejectIf.bind fun _ => ?_
  exact Issues.hoist (Issues.stmt_bind trivial fun row => issues_dbRequired)

/-- So does making sure of a bound profile. -/
theorem writes_ensureMinecraftProfile (ctx : ProfileContext) (userId : Nat)
    (userRole : UserRole) (uuid name : String) :
    ServiceWritesNames W (ensureMinecraftProfile ctx userId userRole uuid name) := by
  refine Issues.stmt_bind trivial fun found => ?_
  cases found with
  | some existing => exact issues_rejectIf.bind fun _ => issues_ok
  | none => exact (writes_createProfileWithUuid _ _).bind fun _ => issues_ok

/-- The search for a free name only looks. -/
theorem writes_firstFreeCandidate (userId : Nat) (names : List (String × Bool)) :
    ServiceWritesNames W (firstFreeCandidate userId names) := by
  induction names with
  | nil => exact issues_ok
  | cons head rest ih =>
    obtain ⟨name, allow⟩ := head
    unfold firstFreeCandidate
    split
    · exact ih
    · refine (quiet_profileNameTaken _ _ _).writes.bind fun taken => ?_
      cases taken with
      | true => exact ih
      | false => exact issues_ok

/-- With a suffix too. -/
theorem writes_firstFreeSuffix (userId : Nat) (name candidate : String) (suffixes : List Nat) :
    ServiceWritesNames W (firstFreeSuffix userId name candidate suffixes) := by
  induction suffixes generalizing candidate with
  | nil => exact issues_ok
  | cons suffix rest ih =>
    refine (quiet_profileNameTaken _ _ _).writes.bind fun taken => ?_
    cases taken with
    | true => exact ih _
    | false => exact issues_ok

/-- A profile created at a login leaves the usernames alone. -/
theorem writes_createProfileForExternalAuth (ctx : ProfileContext) (userId : Nat)
    (userRole : UserRole) (external : String) (fallback : Option String) :
    ServiceWritesNames W
      (createProfileForExternalAuth ctx userId userRole external fallback) := by
  unfold createProfileForExternalAuth createFromCandidates
  cases (externalProfileNames external fallback).getLast? with
  | none => exact issues_err
  | some last =>
    refine (writes_firstFreeCandidate _ _).bind fun free => ?_
    cases free with
    | some free => exact writes_createProfileWithUuid _ _
    | none =>
      exact (writes_firstFreeSuffix _ _ _ _).bind fun _ => writes_createProfileWithUuid _ _

/-- Renaming a profile leaves the usernames alone. -/
theorem writes_renameProfile (policy : RuntimeYggdrasilPolicy) (profile : MinecraftProfile)
    (newName : String) : ServiceWritesNames W (renameProfile policy profile newName) := by
  have hcheck : ServiceWritesNames W (checkProfileName newName false) :=
    issues_rejectIf.bind fun _ => issues_rejectIf
  refine hcheck.bind fun _ => ?_
  split
  · exact issues_ok
  · refine issues_rejectIf.bind fun _ => issues_rejectIf.bind fun _ => ?_
    refine (quiet_profileNameTaken _ _ _).writes.bind fun _ => issues_rejectIf.bind fun _ => ?_
    refine (quiet_invalidateForProfile _).writes.bind fun hashes => ?_
    refine Issues.bind (Issues.stmt_bind trivial fun r => ?_) fun result => ?_
    · cases r with
      | ok a => exact issues_ok
      | error e => exact issues_err
    refine (quiet_invalidateTokenCacheHashes hashes).writes.bind fun _ => ?_
    exact Issues.stmt_bind trivial fun _ => Issues.stmt_bind trivial fun _ => issues_ok

/-- By its owner. -/
theorem writes_renameProfileForUser (policy : RuntimeYggdrasilPolicy) (userId : Nat)
    (uuid newName : String) :
    ServiceWritesNames W (renameProfileForUser policy userId uuid newName) := by
  have hcheck : ServiceWritesNames W (checkProfileName newName false) :=
    issues_rejectIf.bind fun _ => issues_rejectIf
  refine (quiet_ensureMayManageProfiles _).writes.bind fun _ => hcheck.bind fun _ => ?_
  refine Issues.stmt_bind trivial fun found => ?_
  cases found with
  | none => exact issues_ok
  | some profile => exact Issues.bind (writes_renameProfile _ _ _) fun _ => issues_ok

/-- And by an administrator. -/
theorem writes_adminRenameProfile (policy : RuntimeYggdrasilPolicy) (uuid newName : String) :
    ServiceWritesNames W (AsterYggdrasil.adminRenameProfile policy uuid newName) := by
  refine Issues.stmt_bind trivial fun found => ?_
  cases found with
  | none => exact issues_err
  | some profile => exact writes_renameProfile _ _ _

/-! ### Accounts -/

/-- The insert of a user writes the username that it is given. -/
theorem writes_userCreateWithOptions (publicUuid username email hash : String)
    (role : UserRole) (status : UserStatus) (mustChange : Bool) (hw : W username) :
    WritesNames W
      (userCreateWithOptions publicUuid username email hash role status mustChange) :=
  Issues.stmt_bind trivial fun _ => Issues.stmt_bind hw fun _ => writes_required

/-- Behind the validation of the name it is known to be valid. -/
theorem writes_createUserWithOptions (lib : Library)
    (publicUuid username email password : String) (role : UserRole) (status : UserStatus)
    (mustChange : Bool) (hw : validateUsername username = .ok () → W username) :
    WritesNames W (createUserWithOptions lib publicUuid username email password role status
      mustChange) := by
  refine Issues.ofExcept_bind fun normal hvalid => ?_
  have hname : validateUsername username = .ok () := by
    cases hcheck : validateIdentityInput lib username email password with
    | error e =>
      rw [hcheck] at hvalid
      cases hvalid
    | ok out =>
      obtain ⟨_, hname, -⟩ := except_bind_ok hcheck
      exact hname
  refine writes_checked.bind fun _ => (writes_ensureUsernameAvailable _ _).bind fun _ => ?_
  exact writes_checked.bind fun _ =>
    writes_userCreateWithOptions _ _ _ _ _ _ _ (hw hname)

/-- What follows the checks of a new username may use that `validate_username` accepted it. -/
theorem writes_checkNewUsername_bind {β : Type} {name : String} {allow : Bool}
    {f : Unit → OnConnection β}
    (hf : validateUsername name = .ok () → WritesNames W (f ())) :
    WritesNames W ((checkNewUsername name allow).bind f) := by
  have hvalid : ∀ u, ((validateUsername name).mapError ServiceError.aster) = .ok u →
      validateUsername name = .ok () := by
    intro u h
    cases hname : validateUsername name with
    | error e =>
      rw [hname] at h
      cases h
    | ok _ => rfl
  unfold checkNewUsername
  rw [Prog.bind_eq, Prog.bind_assoc]
  refine Issues.ofExcept_bind fun u hu => ?_
  cases allow with
  | true => exact hf (hvalid u hu)
  | false =>
    rw [if_neg Bool.false_ne_true]
    exact writes_checked.bind fun _ => hf (hvalid u hu)

/-- Checking an address writes no username. -/
theorem writes_ensureEmailUnclaimed (email : String) :
    WritesNames W (ensureEmailUnclaimed email) :=
  Issues.stmt_bind trivial fun _ => issues_rejectIf.bind fun _ =>
    Issues.stmt_bind trivial fun _ => issues_rejectIf

/-- `create_user_with_role` writes a username that was validated. -/
theorem writes_createUserWithRole (lib : Library) (input : CreateUserWithRole)
    (hw : validateUsername input.username = .ok () → W input.username) :
    WritesNames W (createUserWithRole lib input) := by
  unfold createUserWithRole
  rw [Prog.bind_eq]
  refine writes_checkNewUsername_bind fun hvalid => ?_
  refine writes_checked.bind fun _ => writes_checked.bind fun _ => writes_checked.bind fun _ => ?_
  refine (writes_ensureUsernameAvailable _ _).bind fun _ => ?_
  refine (writes_ensureEmailUnclaimed _).bind fun _ => writes_checked.bind fun _ => ?_
  exact Issues.stmt_bind (hw hvalid) fun _ => writes_required

/-- So does its sibling for accounts without an address. -/
theorem writes_createUserWithoutEmail (lib : Library) (input : CreateUserWithoutEmail)
    (hw : validateUsername input.username = .ok () → W input.username) :
    WritesNames W (createUserWithoutEmailWithRole lib input) := by
  unfold createUserWithoutEmailWithRole
  rw [Prog.bind_eq]
  refine writes_checkNewUsername_bind fun hvalid => ?_
  refine writes_checked.bind fun _ => ?_
  refine (writes_ensureUsernameAvailable _ _).bind fun _ => writes_checked.bind fun _ => ?_
  exact Issues.stmt_bind (hw hvalid) fun _ => writes_required

/-- An administrator's account has the trimmed username. -/
theorem writes_adminCreateUserTxn (input : AdminCreateUser) (hw : W (trim input.username)) :
    WritesNames W (adminCreateUserTxn input) :=
  (writes_ensureUsernameAvailable _ _).bind fun _ =>
    writes_userCreateWithOptions _ _ _ _ _ _ _ hw

/-! ### Invitations -/

/-- Finding an invitation writes no username. -/
theorem writes_invitationFindById (id : Nat) : WritesNames W (invitationFindById id) :=
  Issues.stmt_bind trivial fun _ => writes_required

/-- Nor does the error about its status. -/
theorem writes_currentInvitationStatusError (id : Nat) :
    WritesNames W (currentInvitationStatusError id : OnConnection α) :=
  (writes_invitationFindById id).bind fun _ => issues_err

/-- Nor does marking it as expired. -/
theorem writes_refreshExpiredStatus (invitation : Invitation) :
    WritesNames W (refreshExpiredStatus invitation) := by
  unfold refreshExpiredStatus
  split
  · refine Issues.stmt_bind trivial fun now => ?_
    split
    · refine Issues.stmt_bind trivial fun marked => ?_
      cases marked with
      | true => exact issues_ok
      | false => exact writes_invitationFindById _
    · exact issues_ok
  · exact issues_ok

/-- Nor does the check of its expiry. -/
theorem writes_ensureInvitationNotExpired (invitation : Invitation) :
    WritesNames W (ensureInvitationNotExpired invitation) := by
  refine Issues.stmt_bind trivial fun now => ?_
  split
  · exact issues_ok
  · refine Issues.stmt_bind trivial fun marked => ?_
    cases marked with
    | true => exact issues_err
    | false => exact writes_currentInvitationStatusError _

/-- An invitation is accepted under a username that was validated. -/
theorem writes_acceptInvitationTxn (lib : Library)
    (checkLocalEmail : String → Except AsterError Unit) (input : AcceptInvitation)
    (hw : validateUsername input.username = .ok () → W input.username) :
    WritesNames W (acceptInvitationTxn lib checkLocalEmail input) := by
  refine Issues.stmt_bind trivial fun found => writes_required.bind fun _ => ?_
  refine (writes_refreshExpiredStatus _).bind fun invitation => issues_rejectIf.bind fun _ => ?_
  refine (writes_ensureInvitationNotExpired _).bind fun _ => writes_checked.bind fun _ => ?_
  refine Issues.stmt_bind trivial fun taken => issues_rejectIf.bind fun _ => ?_
  refine Issues.stmt_bind trivial fun now => ?_
  refine Issues.bind (writes_createUserWithRole lib _ ?_) fun user => ?_
  · exact hw
  refine Issues.stmt_bind trivial fun marked => ?_
  cases marked with
  | true => exact issues_ok
  | false => exact writes_currentInvitationStatusError _

/-! ### Identities -/

/-- Linking an identity writes no username. -/
theorem writes_createIdentityForClaims (userId : Nat) (provider : Provider)
    (claims : UserClaims) (now : Nat) (metadata : Option String) :
    WritesNames W (createIdentityForClaims userId provider claims now metadata) :=
  Issues.stmt_bind trivial fun _ => writes_required

/-- Nor does a login with it. -/
theorem writes_loginWithIdentity (identity : Identity) (claims : UserClaims)
    (metadata : Option String) (now : Nat) :
    WritesNames W (loginWithIdentity identity claims metadata now) := by
  refine Issues.stmt_bind trivial fun _ => (writes_userFindById _).bind fun _ => ?_
  exact issues_rejectIf.bind fun _ => issues_ok

/-- Nor does finding its user. -/
theorem writes_resolveExistingIdentity (claims : UserClaims) (now : Nat)
    (metadata : Option String) :
    WritesNames W (resolveExistingIdentity claims now metadata) := by
  refine Issues.stmt_bind trivial fun found => ?_
  cases found with
  | none => exact issues_ok
  | some identity => exact (writes_loginWithIdentity _ _ _ _).bind fun _ => issues_ok

/-- Nor does linking it to a user who is there. -/
theorem writes_linkIdentity (provider : Provider) (claims : UserClaims) (user : User)
    (now : Nat) :
    WritesNames W (linkIdentityToAuthenticatedUser provider claims user now) := by
  refine Issues.stmt_bind trivial fun found => ?_
  cases found with
  | some identity =>
    refine issues_rejectIf.bind fun _ => ?_
    exact Issues.stmt_bind trivial fun _ => issues_ok
  | none => exact (writes_createIdentityForClaims _ _ _ _ _).bind fun _ => issues_ok

/-- A Minecraft binding is no account. -/
theorem writes_applyBindingTxn (input : ApplyBinding) :
    WritesNames W (applyBindingTxn input) := by
  refine Issues.stmt_bind trivial fun now => Issues.bind ?_ fun out => ?_
  · refine Issues.stmt_bind trivial fun found => ?_
    cases found with
    | some identity =>
      refine issues_rejectIf.bind fun _ => ?_
      exact Issues.stmt_bind trivial fun _ => issues_ok
    | none =>
      refine Issues.stmt_bind trivial fun other => ?_
      cases other with
      | some identity => exact issues_err
      | none =>
        refine Issues.stmt_bind trivial fun row => ?_
        exact writes_required.bind fun _ => issues_ok
  · exact (writes_ofService (writes_ensureMinecraftProfile _ _ _ _ _)).bind fun _ => issues_ok

/-- The attempts of a retry issue what each of them issues. -/
theorem issues_retry {S : Signature} {P : S.Stmt → Prop}
    {attempt : Nat → Prog S ServiceError α} (h : ∀ n, Issues P (attempt n))
    (attempts : List Nat) : Issues P (retryOnUsernameConflict attempt attempts) := by
  induction attempts with
  | nil => exact issues_err
  | cons n rest ih =>
    refine (h n).attempt.bind fun r => ?_
    cases r with
    | ok a => exact issues_ok
    | error e =>
      change Issues P (if usernameConflict e then _ else _)
      split
      · exact ih
      · exact issues_err

end Connection

/-! ## Provisioning -/

section Provisioning

variable {W : String → Prop} {lib : Library} (hdigest : HexDigest lib)
  (hfits : ∀ name, FitsUsername isUsernameChar name.toList → W name)

include hdigest hfits

/-- The names that are tried obey the grammar. -/
theorem candidate_written {ctx : ProvisionContext} (hctx : DrawsSuffixes ctx)
    (provider : Provider) (claims : UserClaims) (attempt : Nat) :
    W (usernameCandidateForProvider ctx provider claims (externalAuthUsernameBase lib claims)
      attempt) :=
  hfits _ (candidate_fits hdigest hctx provider claims attempt).of_lower

/-- A provisioned account has a username that was validated. -/
theorem writes_createUserAndIdentityInConnection {ctx : ProvisionContext}
    (hctx : DrawsSuffixes ctx) (provider : Provider) (claims : UserClaims) (now : Nat) :
    WritesNames W (createUserAndIdentityInConnection lib ctx provider claims now) := by
  refine writes_checked.bind fun _ => writes_required.bind fun email => ?_
  refine writes_checked.bind fun _ => Issues.stmt_bind trivial fun existing => ?_
  refine issues_rejectIf.bind fun _ => issues_retry (fun attempt => ?_) _
  refine Issues.bind (writes_createUserWithRole lib _ fun _ => ?_) fun user => ?_
  · exact candidate_written hdigest hfits hctx provider claims attempt
  · exact (writes_createIdentityForClaims _ _ _ _ _).bind fun _ => issues_ok

/-- So has one behind a confirmed address. -/
theorem writes_resolveWithVerifiedEmail {ctx : ProvisionContext} (hctx : DrawsSuffixes ctx)
    (provider : Provider) (claims : UserClaims) (now : Nat) :
    WritesNames W (resolveWithVerifiedEmail lib ctx provider claims now) := by
  refine writes_required.bind fun email => writes_checked.bind fun _ => ?_
  refine Issues.stmt_bind trivial fun found => ?_
  cases found with
  | some identity => exact writes_loginWithIdentity _ _ _ _
  | none =>
    refine Issues.stmt_bind trivial fun existing => ?_
    cases existing with
    | some user =>
      refine issues_rejectIf.bind fun _ => issues_rejectIf.bind fun _ => ?_
      exact (writes_createIdentityForClaims _ _ _ _ _).bind fun _ => issues_ok
    | none =>
      exact (writes_createUserAndIdentityInConnection hdigest hfits hctx provider claims
        now).bind fun _ => issues_ok

end Provisioning

/-! ## Steps of external login -/

/-- The step writes no user name that is not a `W`. -/
def ExternalStmt.WritesOnly (lib : Library) (W : String → Prop) : ExternalStmt → Prop
  | .sql i => i.WritesOnly W
  | .txn t => WritesNames W (t.body lib)

section External

variable {α : Type} {lib : Library} {W : String → Prop}

abbrev ExternalWritesNames (lib : Library) (W : String → Prop) (p : ExternalProg α) : Prop :=
  Issues (fun i : ExternalStmt => i.WritesOnly lib W) p

/-- What an account's connection writes, the call writes. -/
theorem writes_onDb {p : OnConnection α} (hp : WritesNames W p) :
    ExternalWritesNames lib W (onDb p) := Issues.hoist hp

/-- A statement on the pool that writes no name. -/
theorem writes_sql {i : AccountStmt} (hi : i.WritesOnly W) :
    ExternalWritesNames lib W (onDb (onConn i)) := writes_onDb (issues_stmt hi)

/-- A transaction writes what its body writes. -/
theorem writes_withTxn {t : AccountTxn} (ht : WritesNames W (t.body lib)) :
    ExternalWritesNames lib W (withTxn t) := by
  refine Issues.stmt_bind ht fun r => ?_
  cases r with
  | ok a => exact issues_ok
  | error e => exact issues_err

/-- **One statement** that writes only such names keeps them. -/
theorem ExternalStmt.WritesOnly.exec {i : ExternalStmt} (hi : i.WritesOnly lib W)
    {s : AccountState} (h : NamesAre W s) : NamesAre W (i.exec lib s).2 := by
  cases i with
  | sql i => exact AccountStmt.WritesOnly.exec hi h
  | txn t =>
    have hbody : WritesNames W (t.body lib) := hi
    have hrun : NamesAre W ((t.body lib).run accountMachine s).2 := by
      have hkeeps := Within.keeps (M := accountMachine) (I := NamesAre W)
        (hbody.within.mono fun i hi s hs => AccountStmt.WritesOnly.exec hi hs)
      exact (hkeeps s h).1
    simp only [ExternalStmt.exec, AccountTxn.commit]
    generalize (t.body lib).run accountMachine s = out at hrun ⊢
    obtain ⟨r, s'⟩ := out
    cases r with
    | ok a => exact hrun
    | error e => exact h

/-! ### Logging in -/

/-- A pending confirmation has no username. -/
theorem writes_createPendingEmailFlow (token : String) (provider : Provider)
    (claims : UserClaims) (returnPath : Option String) :
    WritesNames W (createPendingEmailFlow lib token provider claims returnPath) :=
  Issues.stmt_bind trivial fun _ => Issues.stmt_bind trivial fun _ =>
    writes_required.bind fun _ => issues_ok

/-- Finding a provider writes no username. -/
theorem writes_providerFindById (id : Nat) : WritesNames W (providerFindById id) :=
  Issues.stmt_bind trivial fun _ => writes_required

/-- Nor do the checks of a callback. -/
theorem writes_ensureCallbackProvider (req : CallbackRequest) (provider : Provider)
    (kindMessage keyMessage : String) :
    WritesNames W (ensureCallbackProvider lib req provider kindMessage keyMessage) := by
  refine issues_rejectIf.bind fun _ => ?_
  cases req.providerKey with
  | none => exact issues_ok
  | some key => exact writes_checked.bind fun _ => issues_rejectIf

/-- Nor does the check that the provider allows logins. -/
theorem writes_ensureLoginAllowed (provider : Provider) :
    WritesNames W (ensureLoginAllowed provider) :=
  issues_rejectIf.bind fun _ => issues_rejectIf

/-- Consuming a login flow deletes a flow. -/
theorem writes_consumeCallback (req : CallbackRequest) :
    WritesNames W (consumeCallback lib req) := by
  refine writes_checked.bind fun params => Issues.stmt_bind trivial fun now => ?_
  refine Issues.bind ?_ fun found => ?_
  · refine Issues.stmt_bind trivial fun found => ?_
    cases found with
    | none => exact issues_ok
    | some flow => exact Issues.stmt_bind trivial fun _ => issues_ok
  · refine writes_required.bind fun flow => (writes_providerFindById _).bind fun provider => ?_
    refine (writes_ensureCallbackProvider _ _ _ _).bind fun _ => ?_
    exact (writes_ensureLoginAllowed _).bind fun _ => issues_ok

/-- The LinuxDo profile made at a login has a profile's name. -/
theorem writes_maybeAutoCreate (ctx : CallbackContext) (provider : Provider)
    (resolved : ResolvedUser) (claims : UserClaims) :
    ExternalWritesNames lib W (maybeAutoCreateLinuxdoProfile ctx provider resolved claims) := by
  unfold maybeAutoCreateLinuxdoProfile
  split
  · exact issues_ok
  · cases claims.preferredUsername with
    | none => exact issues_ok
    | some username =>
      have hprofile : ExternalWritesNames lib W (onDb (ofService (createProfileForExternalAuth
          ctx.profile resolved.user.id resolved.user.role username
          (some ("linuxdo_" ++ claims.subject))))) :=
        writes_onDb (writes_ofService (writes_createProfileForExternalAuth _ _ _ _ _))
      exact hprofile.attempt.bind fun _ => issues_ok

/-- Looking for a user to link writes nothing. -/
theorem writes_autoLinkCandidate (provider : Provider) (claims : UserClaims)
    (options : ResolveOptions) :
    ExternalWritesNames lib W (autoLinkCandidate provider claims options) := by
  unfold autoLinkCandidate
  split
  · cases claims.email with
    | none => exact issues_ok
    | some email => exact writes_sql (by trivial)
  · exact issues_ok

/-! ### The other flows -/

/-- Finding a provider by its key writes nothing. -/
theorem writes_findProvider (kind : ProviderKind) (key : String) :
    WritesNames W (findProvider kind key) := by
  refine Issues.stmt_bind trivial fun found => ?_
  cases found with
  | some provider => exact issues_ok
  | none =>
    dsimp only
    split
    · refine Issues.stmt_bind trivial fun enabled => ?_
      match enabled with
      | [] => exact issues_err
      | [provider] => exact issues_ok
      | _ :: _ :: _ => exact issues_err
    · exact issues_err

/-- Starting a login stores a flow. -/
theorem writes_startLogin (kind : ProviderKind) (key : String) (returnPath : Option String)
    (authorize : Provider → Except AsterError AuthorizationStart) :
    WritesNames W (startLogin lib kind key returnPath authorize) := by
  refine writes_checked.bind fun _ => (writes_findProvider _ _).bind fun _ => ?_
  refine (writes_ensureLoginAllowed _).bind fun _ => writes_checked.bind fun _ => ?_
  refine writes_checked.bind fun _ => Issues.stmt_bind trivial fun _ => ?_
  exact Issues.stmt_bind trivial fun _ => writes_required.bind fun _ => issues_ok

/-- Starting a binding stores a flow too. -/
theorem writes_startMinecraftBinding (userId : Nat) (kind : ProviderKind) (key : String)
    (returnPath : Option String)
    (authorize deviceCode : Provider → Except AsterError AuthorizationStart) :
    WritesNames W
      (startMinecraftBinding lib userId kind key returnPath authorize deviceCode) := by
  refine writes_checked.bind fun _ => writes_checked.bind fun _ => ?_
  refine (writes_findProvider _ _).bind fun provider => ?_
  refine issues_rejectIf.bind fun _ => writes_checked.bind fun _ => ?_
  extract_lets rest
  have hrest : ∀ start, WritesNames W (rest start) := by
    intro start
    refine Issues.stmt_bind trivial fun _ => Issues.stmt_bind trivial fun _ => ?_
    exact writes_required.bind fun _ => issues_ok
  split
  · exact writes_checked.bind fun _ => hrest _
  · exact writes_checked.bind fun _ => hrest _

/-- Checking an address writes no username. -/
theorem writes_ensureEmailUsable (policy : AuthPolicy) (email : String) :
    WritesNames W (ensureEmailUsable policy email) := by
  refine Issues.stmt_bind trivial fun found => ?_
  cases found with
  | some user => exact issues_rejectIf.bind fun _ => issues_rejectIf
  | none => exact writes_checked

/-- Consuming a confirmation deletes a flow. -/
theorem writes_consumeEmailFlow (flowId now : Nat) (message : String) :
    WritesNames W (consumeEmailFlow flowId now message) :=
  Issues.stmt_bind trivial fun _ => issues_rejectIf

/-- Asking for a confirmation stores a token. -/
theorem writes_startEmailVerification (policy : AuthPolicy)
    (newToken token email : String) :
    ExternalWritesNames lib W (startEmailVerification lib policy newToken token email) := by
  refine (writes_onDb writes_checked).bind fun _ => (writes_onDb writes_checked).bind fun _ => ?_
  refine (writes_sql (by trivial)).bind fun now => (writes_sql (by trivial)).bind fun found => ?_
  refine (writes_onDb writes_required).bind fun flow => ?_
  refine (writes_onDb issues_rejectIf).bind fun _ => ?_
  refine (writes_onDb (writes_providerFindById _)).bind fun provider => ?_
  refine (writes_onDb issues_rejectIf).bind fun _ => (writes_onDb writes_checked).bind fun _ => ?_
  refine (writes_onDb (writes_ensureEmailUsable _ _)).bind fun _ => ?_
  exact writes_withTxn (t := .startEmail _ _ _ _)
    (Issues.stmt_bind trivial fun _ => issues_rejectIf)

/-- Checking a password writes nothing. -/
theorem writes_authenticateForLink (identifier password : String) :
    WritesNames W (authenticateForLink lib identifier password) := by
  refine Issues.stmt_bind trivial fun found => writes_checked.bind fun valid => ?_
  refine issues_rejectIf.bind fun _ => writes_required.bind fun user => ?_
  exact issues_rejectIf.bind fun _ => issues_rejectIf.bind fun _ => issues_ok

/-- Linking by password writes an identity. -/
theorem writes_linkWithPassword (req : PasswordLinkRequest) :
    ExternalWritesNames lib W (linkWithPassword lib req) := by
  refine (writes_onDb writes_checked).bind fun _ => (writes_onDb issues_rejectIf).bind fun _ => ?_
  refine (writes_onDb issues_rejectIf).bind fun _ => (writes_sql (by trivial)).bind fun now => ?_
  refine (writes_sql (by trivial)).bind fun found => (writes_onDb writes_required).bind fun flow => ?_
  refine (writes_onDb (writes_providerFindById _)).bind fun provider => ?_
  refine (writes_onDb issues_rejectIf).bind fun _ => ?_
  refine (writes_onDb (writes_authenticateForLink _ _)).bind fun user => ?_
  refine (writes_withTxn (t := .passwordLink _ _ _ _ _) ?_).bind fun _ => issues_ok
  exact (writes_consumeEmailFlow _ _ _).bind fun _ => writes_linkIdentity _ _ _ _

/-- Applying a binding writes a profile and an identity. -/
theorem writes_applyMinecraftBinding (ctx : BindingContext) (provider : Provider)
    (flow : BindingFlow) (account : MinecraftAccount) :
    ExternalWritesNames lib W (applyMinecraftBinding ctx provider flow account) := by
  refine (writes_onDb (writes_userFindById _)).bind fun user => ?_
  exact (writes_withTxn (t := .applyBinding _) (writes_applyBindingTxn _)).bind
    fun _ => issues_ok

/-- Finishing one does no more. -/
theorem writes_finishMinecraftBinding (ctx : BindingContext) (req : CallbackRequest) :
    ExternalWritesNames lib W (finishMinecraftBindingCallback lib ctx req) := by
  refine Issues.bind (writes_onDb ?_) fun out => ?_
  · refine writes_checked.bind fun _ => writes_checked.bind fun params => ?_
    refine Issues.stmt_bind trivial fun now => Issues.bind ?_ fun found => ?_
    · refine Issues.stmt_bind trivial fun found => ?_
      cases found with
      | none => exact issues_ok
      | some flow => exact Issues.stmt_bind trivial fun _ => issues_ok
    · refine writes_required.bind fun flow => (writes_providerFindById _).bind fun provider => ?_
      refine (writes_ensureCallbackProvider _ _ _ _).bind fun _ => ?_
      exact issues_rejectIf.bind fun _ => issues_ok
  · obtain ⟨code, flow, provider⟩ := out
    refine (writes_onDb writes_checked).bind fun account => ?_
    exact writes_applyMinecraftBinding _ _ _ _

/-- With a device code too. -/
theorem writes_checkDeviceCodeStatus (ctx : BindingContext) (userId : Nat)
    (deviceCode : String) :
    ExternalWritesNames lib W (checkDeviceCodeStatus lib ctx userId deviceCode) := by
  refine (writes_sql (by trivial)).bind fun now => (writes_sql (by trivial)).bind fun found => ?_
  cases found with
  | none => exact issues_ok
  | some flow =>
    refine (writes_onDb issues_rejectIf).bind fun _ => ?_
    refine (writes_onDb (writes_providerFindById _)).bind fun provider => ?_
    refine (writes_onDb writes_checked).bind fun status => ?_
    cases status with
    | pending => exact issues_ok
    | slowDown => exact issues_ok
    | expired =>
      exact (writes_sql (by trivial)).bind fun now => (writes_sql (by trivial)).bind fun _ => issues_err
    | authorized accessToken =>
      refine (writes_sql (by trivial)).bind fun now => (writes_sql (by trivial)).bind fun consumed => ?_
      split
      · refine (writes_onDb writes_checked).bind fun account => ?_
        exact (writes_applyMinecraftBinding _ _ _ _).bind fun _ => issues_ok
      · exact issues_ok

end External

/-! ## Every call -/

/-- What the call draws for a new user name are suffixes. -/
def FlowCall.Draws : FlowCall → Prop
  | .finishCallback ctx _ => DrawsSuffixes ctx.provision
  | .confirmEmailVerification ctx _ => DrawsSuffixes ctx
  | _ => True

def AccountCall.Draws : AccountCall → Prop
  | .flow call => call.Draws
  | _ => True

/-- The user name that a call stores as it came. -/
def AccountCall.rawName : AccountCall → Option String
  | .setupFirstAdmin _ username _ _ | .register _ _ username _ _
  | .acceptInvitation _ _ _ username _ => some username
  | _ => none

section Calls

variable {lib : Library} {W : String → Prop} (hdigest : HexDigest lib)
  (hfits : ∀ name, FitsUsername isUsernameChar name.toList → W name)

include hdigest hfits

/-- Without an address, the account that is made has a validated username. -/
theorem writes_resolveWithoutEmail {ctx : ProvisionContext} (hctx : DrawsSuffixes ctx)
    (provider : Provider) (claims : UserClaims) (metadata : Option String) :
    ExternalWritesNames lib W (resolveWithoutEmail lib ctx provider claims metadata) := by
  refine (writes_sql (by trivial)).bind fun now => (writes_onDb writes_checked).bind fun _ => ?_
  refine (issues_retry (fun attempt => ?_) _).bind fun user => issues_ok
  refine writes_withTxn (t := .provisionWithoutEmail _) ?_
  refine Issues.bind (writes_createUserWithoutEmail lib _ fun _ => ?_) fun user => ?_
  · exact candidate_written hdigest hfits hctx provider claims attempt
  · exact (writes_createIdentityForClaims _ _ _ _ _).bind fun _ => issues_ok

/-- As it has in a transaction of its own. -/
theorem writes_createUserAndIdentity {ctx : ProvisionContext} (hctx : DrawsSuffixes ctx)
    (provider : Provider) (claims : UserClaims) (now : Nat) (metadata : Option String)
    (options : ResolveOptions) :
    ExternalWritesNames lib W
      (createUserAndIdentity lib ctx provider claims now metadata options) := by
  refine (writes_onDb writes_checked).bind fun _ => (writes_onDb writes_required).bind fun email => ?_
  refine (writes_onDb issues_rejectIf).bind fun _ => ?_
  extract_lets base rest
  have hrest : ∀ u, ExternalWritesNames lib W (rest u) := by
    intro u
    refine (issues_retry (fun attempt => ?_) _).bind fun _ => issues_ok
    refine writes_withTxn (t := .provision _) ?_
    refine Issues.stmt_bind trivial fun existing => issues_rejectIf.bind fun _ => ?_
    refine Issues.bind (writes_createUserWithRole lib _ fun _ => ?_) fun user => ?_
    · exact candidate_written hdigest hfits hctx provider claims attempt
    · exact (writes_createIdentityForClaims _ _ _ _ _).bind fun _ => issues_ok
  split
  · exact (writes_onDb writes_checked).bind fun u => hrest u
  · exact hrest ()

/-- Provisioning writes a validated username, or links. -/
theorem writes_autoProvision {ctx : ProvisionContext} (hctx : DrawsSuffixes ctx)
    (provider : Provider) (claims : UserClaims) (now : Nat) (metadata : Option String)
    (options : ResolveOptions) :
    ExternalWritesNames lib W
      (autoProvision lib ctx provider claims now metadata options) := by
  unfold autoProvision
  split
  · exact issues_ok
  · split
    · exact issues_ok
    · split
      · exact issues_ok
      · refine (writes_sql (by trivial)).bind fun existing => ?_
        split
        · exact issues_ok
        · exact (writes_createUserAndIdentity hdigest hfits hctx provider claims now metadata
            options).bind fun _ => issues_ok

/-- Whoever logs in: a user who is there, or a provisioned one. -/
theorem writes_resolveExternalAuthUser {ctx : ProvisionContext} (hctx : DrawsSuffixes ctx)
    (provider : Provider) (claims : UserClaims) (metadata : Option String) :
    ExternalWritesNames lib W (resolveExternalAuthUser lib ctx provider claims metadata) := by
  refine (writes_sql (by trivial)).bind fun now => (writes_sql (by trivial)).bind fun found => ?_
  cases found with
  | some identity =>
    exact (writes_onDb (writes_loginWithIdentity _ _ _ _)).bind fun _ => issues_ok
  | none =>
    refine (writes_onDb writes_checked).bind fun _ => ?_
    extract_lets rest
    have hrest : ∀ u, ExternalWritesNames lib W (rest u) := by
      intro u
      refine (writes_autoLinkCandidate _ _ _).bind fun candidate => ?_
      cases candidate with
      | some user =>
        refine (writes_onDb issues_rejectIf).bind fun _ => ?_
        exact (writes_onDb (writes_createIdentityForClaims _ _ _ _ _)).bind fun _ => issues_ok
      | none =>
        dsimp only
        split
        · exact writes_autoProvision hdigest hfits hctx provider claims now metadata _
        · exact issues_ok
    split
    · exact (writes_onDb writes_checked).bind fun u => hrest u
    · exact hrest ()

/-- The end of a login without an address. -/
theorem writes_finishWithoutEmail {ctx : CallbackContext} (hctx : DrawsSuffixes ctx.provision)
    (flow : LoginFlow) (provider : Provider) (claims : UserClaims) (metadata : Option String) :
    ExternalWritesNames lib W (finishWithoutEmail lib ctx flow provider claims metadata) := by
  refine (writes_sql (by trivial)).bind fun now => ?_
  refine (writes_onDb (writes_resolveExistingIdentity _ _ _)).bind fun found => ?_
  cases found with
  | some resolved => exact issues_ok
  | none =>
    dsimp only
    split
    · refine (writes_resolveWithoutEmail hdigest hfits hctx provider claims metadata).bind
        fun resolved => ?_
      exact (writes_maybeAutoCreate _ _ _ _).bind fun _ => issues_ok
    · refine (writes_onDb issues_rejectIf).bind fun _ => ?_
      exact writes_onDb (writes_createPendingEmailFlow _ _ _ _)

/-- And with one. -/
theorem writes_finishWithEmail {ctx : CallbackContext} (hctx : DrawsSuffixes ctx.provision)
    (flow : LoginFlow) (provider : Provider) (claims : UserClaims) (metadata : Option String) :
    ExternalWritesNames lib W (finishWithEmail lib ctx flow provider claims metadata) := by
  refine (writes_resolveExternalAuthUser hdigest hfits hctx provider claims metadata).bind
    fun resolved => ?_
  cases resolved with
  | none => exact writes_onDb (writes_createPendingEmailFlow _ _ _ _)
  | some resolved => exact (writes_maybeAutoCreate _ _ _ _).bind fun _ => issues_ok

/-- A whole callback writes a validated username at most. -/
theorem writes_finishCallback {ctx : CallbackContext} (hctx : DrawsSuffixes ctx.provision)
    (req : CallbackRequest) : ExternalWritesNames lib W (finishCallback lib ctx req) := by
  refine (writes_onDb (writes_consumeCallback req)).bind fun out => ?_
  obtain ⟨code, flow, provider⟩ := out
  refine (writes_onDb writes_checked).bind fun exchanged => ?_
  obtain ⟨claims, metadata⟩ := exchanged
  dsimp only
  split
  · exact writes_finishWithoutEmail hdigest hfits hctx flow provider claims metadata
  · exact writes_finishWithEmail hdigest hfits hctx flow provider claims metadata

/-- So does the confirmation of an address. -/
theorem writes_confirmEmailVerification {ctx : ProvisionContext} (hctx : DrawsSuffixes ctx)
    (token : String) :
    ExternalWritesNames lib W (confirmEmailVerification lib ctx token) := by
  refine (writes_onDb issues_rejectIf).bind fun _ => (writes_sql (by trivial)).bind fun now => ?_
  refine (writes_sql (by trivial)).bind fun found => (writes_onDb writes_required).bind fun flow => ?_
  refine (writes_onDb writes_required).bind fun email => ?_
  refine (writes_onDb (writes_providerFindById _)).bind fun provider => ?_
  refine (writes_onDb issues_rejectIf).bind fun _ => ?_
  refine (writes_withTxn (t := .confirmEmail _ _ _ _ _) ?_).bind fun _ => issues_ok
  exact (writes_consumeEmailFlow _ _ _).bind fun _ =>
    writes_resolveWithVerifiedEmail hdigest hfits hctx _ _ _

/-- **Every call of the flows** writes validated usernames only. -/
theorem FlowCall.writes_body {call : FlowCall} (hdraws : call.Draws) :
    ExternalWritesNames lib W (call.body lib) := by
  cases call with
  | startLogin kind key returnPath authorize =>
    exact (writes_onDb (writes_startLogin _ _ _ _)).bind fun _ => issues_ok
  | finishCallback ctx req =>
    have hcallback : ExternalWritesNames lib W (External.finishCallback lib ctx req) :=
      writes_finishCallback hdigest hfits hdraws req
    simp only [FlowCall.body, Prog.bind_eq]
    exact hcallback.bind fun _ => issues_ok
  | startEmailVerification policy newToken token email =>
    exact (writes_startEmailVerification _ _ _ _).bind fun _ => issues_ok
  | confirmEmailVerification ctx token =>
    have hconfirm : ExternalWritesNames lib W (External.confirmEmailVerification lib ctx token) :=
      writes_confirmEmailVerification hdigest hfits hdraws token
    simp only [FlowCall.body, Prog.bind_eq]
    exact hconfirm.bind fun _ => issues_ok
  | linkWithPassword req =>
    have hlink : ExternalWritesNames lib W (External.linkWithPassword lib req) :=
      writes_linkWithPassword req
    simp only [FlowCall.body, Prog.bind_eq]
    exact hlink.bind fun _ => issues_ok
  | startMinecraftBinding userId kind key returnPath authorize deviceCode =>
    exact (writes_onDb (writes_startMinecraftBinding _ _ _ _ _ _)).bind fun _ => issues_ok
  | finishMinecraftBinding ctx req =>
    exact (writes_finishMinecraftBinding _ _).bind fun _ => issues_ok
  | checkDeviceCode ctx userId deviceCode =>
    refine (writes_checkDeviceCodeStatus _ _ _).bind fun result => ?_
    cases result <;> exact issues_ok

end Calls

/-! ### Accounts of the panel -/

section Panel

variable {lib : Library} {W : String → Prop}

/-- Behind a check of the validation code its outcome is known. -/
theorem writes_checked_bind {α β : Type} {r : Except AsterError α} {f : α → OnConnection β}
    (hf : ∀ a, r = .ok a → WritesNames W (f a)) : WritesNames W ((checked r).bind f) := by
  cases r with
  | ok a => exact hf a rfl
  | error e => exact issues_err

/-- What follows a check may use that it was passed. -/
theorem writes_onDb_checked_bind {α β : Type} {r : Except AsterError α}
    {f : α → ExternalProg β} (hf : ∀ a, r = .ok a → ExternalWritesNames lib W (f a)) :
    ExternalWritesNames lib W ((onDb (checked r)).bind f) := by
  cases r with
  | ok a => exact hf a rfl
  | error e => exact issues_err

/-- The first administrator's username was validated. -/
theorem writes_setupFirstAdmin (publicUuid username email password : String)
    (hw : validateUsername username = .ok () → W username) :
    WritesNames W (setupFirstAdmin lib publicUuid username email password) := by
  refine Issues.stmt_bind trivial fun count => issues_rejectIf.bind fun _ => ?_
  exact writes_checked.bind fun _ => writes_createUserWithOptions lib _ _ _ _ _ _ _ hw

/-- So was that of a registration. -/
theorem writes_register (policy : AuthPolicy) (publicUuid username email password : String)
    (hw : validateUsername username = .ok () → W username) :
    ExternalWritesNames lib W (register lib policy publicUuid username email password) := by
  refine (writes_onDb issues_rejectIf).bind fun _ => (writes_onDb issues_rejectIf).bind fun _ => ?_
  refine (writes_onDb writes_checked).bind fun _ => (writes_sql (by trivial)).bind fun count => ?_
  dsimp only
  split
  · refine writes_withTxn (t := .registerUser _) (writes_createUserWithRole lib _ ?_)
    exact hw
  · exact writes_onDb (writes_createUserWithOptions lib _ _ _ _ _ _ _ hw)

/-- And that of an accepted invitation. -/
theorem writes_acceptInvitation (policy : AuthPolicy)
    (publicUuid token username password : String)
    (hw : validateUsername username = .ok () → W username) :
    ExternalWritesNames lib W (acceptInvitation lib policy publicUuid token username password) := by
  refine (writes_onDb issues_rejectIf).bind fun _ => ?_
  refine writes_withTxn (t := .acceptInvitation _ _) (writes_acceptInvitationTxn lib _ _ ?_)
  exact hw

variable (hfits : ∀ name, FitsUsername isUsernameChar name.toList → W name)

include hfits

/-- The administrator's forms store a name without its surrounding blanks. -/
theorem trimmed_written {name : String} (hname : validateUsername name = .ok ()) :
    W (trim name) := hfits _ (validateUsername_iff.mp hname)

/-- An administrator gives a validated username. -/
theorem writes_adminCreateUser (req : AdminCreateRequest) :
    ExternalWritesNames lib W (adminCreateUser lib req) := by
  refine writes_onDb_checked_bind fun email hvalid => ?_
  obtain ⟨_, hname, -⟩ := except_bind_ok hvalid
  refine (writes_onDb writes_checked).bind fun hash => ?_
  exact writes_withTxn (t := .adminCreateUser _)
    (writes_adminCreateUserTxn _ (trimmed_written hfits hname))

/-- An administrator's update writes no username. -/
theorem writes_adminUpdateUser (id : Nat) (req : AdminUpdateRequest) :
    WritesNames W (adminUpdateUser lib id req) := by
  refine (writes_userFindById _).bind fun existing => issues_rejectIf.bind fun _ => ?_
  refine writes_checked_bind fun username husername => writes_checked.bind fun _ => ?_
  refine writes_checked.bind fun _ => writes_ofService (Issues.stmt_bind ?_ fun r => ?_)
  · intro name hname
    change username = some name at hname
    cases hreq : req.username with
    | none =>
      rw [hreq, hname] at husername
      cases husername
    | some given =>
      rw [hreq, hname] at husername
      simp only [transposeMap] at husername
      cases hgiven : normalizeUpdatedUsername given with
      | error e =>
        rw [hgiven] at husername
        cases husername
      | ok stored =>
        rw [hgiven] at husername
        cases husername
        obtain ⟨_, hvalid, hrest⟩ := except_bind_ok hgiven
        obtain ⟨_, -, hrest⟩ := except_bind_ok hrest
        cases hrest
        exact trimmed_written hfits hvalid
  · cases r with
    | ok a => exact issues_ok
    | error e => exact issues_err

end Panel

/-- **What each call writes**: names that obey the grammar, and the name that it
stores as it came, once it is validated without its surrounding blanks. -/
theorem AccountCall.writes_body {lib : Library} {W : String → Prop} {call : AccountCall}
    (hdigest : HexDigest lib) (hdraws : call.Draws)
    (hfits : ∀ name, FitsUsername isUsernameChar name.toList → W name)
    (hraw : ∀ name, call.rawName = some name → validateUsername name = .ok () → W name) :
    ExternalWritesNames lib W (call.body lib) := by
  cases call with
  | flow call =>
    exact Issues.bind (FlowCall.writes_body hdigest hfits hdraws) fun _ => issues_ok
  | setupFirstAdmin publicUuid username email password =>
    have hsetup : WritesNames W (External.setupFirstAdmin lib publicUuid username email
        password) := writes_setupFirstAdmin _ _ _ _ (hraw username rfl)
    simp only [AccountCall.body, Prog.bind_eq]
    exact (writes_onDb hsetup).bind fun _ => issues_ok
  | register policy publicUuid username email password =>
    have hregister : ExternalWritesNames lib W (External.register lib policy publicUuid
        username email password) := writes_register _ _ _ _ _ (hraw username rfl)
    simp only [AccountCall.body, Prog.bind_eq]
    exact hregister.bind fun _ => issues_ok
  | acceptInvitation policy publicUuid token username password =>
    have haccept : ExternalWritesNames lib W (External.acceptInvitation lib policy publicUuid
        token username password) := writes_acceptInvitation _ _ _ _ _ (hraw username rfl)
    simp only [AccountCall.body, Prog.bind_eq]
    exact haccept.bind fun _ => issues_ok
  | adminCreateUser req =>
    have hcreate : ExternalWritesNames lib W (External.adminCreateUser lib req) :=
      writes_adminCreateUser hfits req
    simp only [AccountCall.body, Prog.bind_eq]
    exact hcreate.bind fun _ => issues_ok
  | adminUpdateUser id req =>
    have hupdate : WritesNames W (External.adminUpdateUser lib id req) :=
      writes_adminUpdateUser hfits id req
    simp only [AccountCall.body, Prog.bind_eq]
    exact (writes_onDb hupdate).bind fun _ => issues_ok
  | adminDeleteUser id =>
    have hdelete : ServiceWritesNames W (deleteUser id) := (quiet_deleteUser id).writes
    exact writes_onDb (writes_ofService hdelete)
  | createProfile ctx userId userRole name =>
    have hcreate : ServiceWritesNames W
        (AsterYggdrasil.createProfile ctx userId userRole name) :=
      writes_createProfileWithUuid _ _
    simp only [AccountCall.body, Prog.bind_eq]
    exact (writes_onDb (writes_ofService hcreate)).bind fun _ => issues_ok
  | renameProfile policy userId uuid newName =>
    have hrename : ServiceWritesNames W (renameProfileForUser policy userId uuid newName) :=
      writes_renameProfileForUser _ _ _ _
    simp only [AccountCall.body, Prog.bind_eq]
    exact (writes_onDb (writes_ofService hrename)).bind fun _ => issues_ok
  | adminRenameProfile policy uuid newName =>
    have hrename : ServiceWritesNames W
        (AsterYggdrasil.adminRenameProfile policy uuid newName) :=
      writes_adminRenameProfile _ _ _
    simp only [AccountCall.body, Prog.bind_eq]
    exact (writes_onDb (writes_ofService hrename)).bind fun _ => issues_ok
  | deleteProfile userId uuid =>
    have hdelete : ServiceWritesNames W (deleteProfileForUser userId uuid) :=
      (quiet_deleteProfileForUser _ _).writes
    simp only [AccountCall.body, Prog.bind_eq]
    exact (writes_onDb (writes_ofService hdelete)).bind fun _ => issues_ok
  | wait ms => exact writes_sql (by trivial)

/-! ## Runs -/

/-- Account calls in progress on a site. -/
abbrev SitePool (lib : Library) := Config (externalMachine lib) ServiceError AccountCall Unit

/-- The stored user names obey the grammar, and no two accounts differ only by
surrounding blanks. -/
structure WellNamed (s : AccountState) : Prop where
  grammar : ∀ u ∈ s.users.rows, FitsUsername isUsernameChar u.username.toList
  apart : ∀ u ∈ s.users.rows, ∀ v ∈ s.users.rows, trim u.username = trim v.username → u = v

/-- A call that brings no blanks around a name that is stored as it came. -/
def AccountCall.Trimmed (call : AccountCall) : Prop :=
  ∀ name, call.rawName = some name → trim name = name

/-- **In every run whose calls bring trimmed names** the stored names obey the
grammar. -/
theorem runs_grammar {lib : Library} (hdigest : HexDigest lib)
    {providers : Table providerSchema} {invitations : Table invitationSchema} {now : Nat}
    {sched : List (Action AccountCall)} {c : SitePool lib}
    (hc : c = (initial (AccountState.fresh providers invitations now)).runs (AccountCall.body lib)
      sched)
    (hdraws : ∀ call, .spawn call ∈ sched → call.Draws)
    (htrimmed : ∀ call, .spawn call ∈ sched → call.Trimmed) :
    NamesAre (fun name => FitsUsername isUsernameChar name.toList) c.shared := by
  let W : String → Prop := fun name => FitsUsername isUsernameChar name.toList
  have hbody : ∀ call, .spawn call ∈ sched →
      (AccountCall.body lib call).Within fun i : ExternalStmt => i.WritesOnly lib W := by
    intro call hcall
    refine (AccountCall.writes_body hdigest (hdraws call hcall) (fun _ h => h) ?_).within
    intro name hname hvalid
    have hfits := validateUsername_iff.mp hvalid
    rwa [htrimmed call hcall name hname] at hfits
  have hfresh : (initial (AccountState.fresh providers invitations now) : SitePool lib).Keeping
      (fun i : ExternalStmt => i.WritesOnly lib W) (NamesAre W) :=
    keeping_initial fun u hu => absurd hu List.not_mem_nil
  rw [hc]
  have hkept := runs_kept (M := externalMachine lib) (I := NamesAre W)
    (fun i s hi hs => ExternalStmt.WritesOnly.exec hi hs) hbody hfresh
  exact hkept.shared

/-- Names of the grammar are well formed. -/
theorem WellNamed.of_grammar {s : AccountState}
    (h : NamesAre (fun name => FitsUsername isUsernameChar name.toList) s) : WellNamed s := by
  refine ⟨h, fun u hu v hv heq => ?_⟩
  rw [(h u hu).trim_eq, (h v hv).trim_eq] at heq
  exact s.users.eq_of_clash hu hv (by simp [userSchema, heq])

/-! ## The names that are stored as they came -/

section Raw

variable {lib : Library} {s : AccountState}

/-- The account is stored, under this name, which was found valid. -/
structure StoredAs (name : String) (u : User) (s : AccountState) : Prop where
  row : u ∈ s.users.rows
  username : u.username = name
  valid : validateUsername name = .ok ()

/-- Nothing is to show about a result that may be anything. -/
theorem wp_anything {α : Type} {p : OnConnection α} :
    p.Wp accountMachine (OnSuccess fun _ _ => True) s := fun _ _ => trivial

/-- The insert at the end. -/
theorem wp_insert_stored {input : CreateAccount} {e : AsterError}
    (hvalid : validateUsername input.username = .ok ()) :
    ((onConn (.userCreate input)).bind (required e)).Wp accountMachine
      (OnSuccess (StoredAs input.username)) s := by
  obtain ⟨-, -, hrows⟩ := exec_userCreate input s
  refine wp_stmt_bind.mpr ?_
  rcases hrows with ⟨hreply, -⟩ | ⟨hreply, hrows⟩
  · have hnone : (accountMachine.exec (.userCreate input) s).1 = none := hreply
    rw [hnone]
    exact wp_err_success _
  · have hsome : (accountMachine.exec (.userCreate input) s).1 =
      some (newAccount s.users.seq input) := hreply
    rw [hsome]
    have hrow : newAccount s.users.seq input ∈
        ((AccountStmt.userCreate input).exec s).2.users.rows := by
      rw [hrows]
      exact List.mem_append_right _ (List.mem_singleton_self _)
    intro u hu
    cases hu
    exact ⟨hrow, rfl, hvalid⟩

/-- The row that comes back has the username that was asked for. -/
theorem wp_createUserWithOptions_stored (publicUuid username email password : String)
    (role : UserRole) (status : UserStatus) (mustChange : Bool) :
    (createUserWithOptions lib publicUuid username email password role status mustChange).Wp
      accountMachine (OnSuccess (StoredAs username)) s := by
  refine wp_ofExcept_success fun normal hvalid => ?_
  have hname : validateUsername username = .ok () := by
    cases hcheck : validateIdentityInput lib username email password with
    | error e =>
      rw [hcheck] at hvalid
      cases hvalid
    | ok out =>
      obtain ⟨_, hname, -⟩ := except_bind_ok hcheck
      exact hname
  refine Wp.bind_success wp_anything fun _ _ _ => Wp.bind_success wp_anything fun _ _ _ => ?_
  refine Wp.bind_success wp_anything fun _ _ _ => Wp.bind_success wp_anything fun _ _ _ => ?_
  exact wp_insert_stored hname

/-- Through `create_user_with_role` too. -/
theorem wp_createUserWithRole_stored (input : CreateUserWithRole) :
    (createUserWithRole lib input).Wp accountMachine
      (OnSuccess (StoredAs input.username)) s := by
  have hcheck : (checkNewUsername input.username input.allowReservedLinuxdoUsername).Wp
      accountMachine (OnSuccess fun _ _ => validateUsername input.username = .ok ()) s := by
    refine wp_ofExcept_success fun u hu => ?_
    cases hname : validateUsername input.username with
    | error e =>
      rw [hname] at hu
      cases hu
    | ok _ => exact fun _ _ => rfl
  refine Wp.bind_success hcheck fun _ _ hvalid => ?_
  refine Wp.bind_success wp_anything fun _ _ _ => Wp.bind_success wp_anything fun _ _ _ => ?_
  refine Wp.bind_success wp_anything fun _ _ _ => Wp.bind_success wp_anything fun _ _ _ => ?_
  refine Wp.bind_success wp_anything fun _ _ _ => Wp.bind_success wp_anything fun _ _ _ => ?_
  exact wp_insert_stored hvalid

/-- And by an invitation. -/
theorem wp_acceptInvitationTxn_stored (checkLocalEmail : String → Except AsterError Unit)
    (input : AcceptInvitation) :
    (acceptInvitationTxn lib checkLocalEmail input).Wp accountMachine
      (OnSuccess (StoredAs input.username)) s := by
  refine Wp.bind_success wp_anything fun _ _ _ => Wp.bind_success wp_anything fun _ _ _ => ?_
  refine Wp.bind_success wp_anything fun _ _ _ => Wp.bind_success wp_anything fun _ _ _ => ?_
  refine Wp.bind_success wp_anything fun _ _ _ => Wp.bind_success wp_anything fun _ _ _ => ?_
  refine Wp.bind_success wp_anything fun _ _ _ => Wp.bind_success wp_anything fun _ _ _ => ?_
  refine Wp.bind_success wp_anything fun _ _ _ => ?_
  refine Wp.bind_success (wp_createUserWithRole_stored _) fun user s' hstored => ?_
  refine wp_stmt_bind.mpr ?_
  split
  · exact wp_ok_success ⟨hstored.row, hstored.username, hstored.valid⟩
  · exact Wp.bind_success wp_anything fun _ _ _ => wp_err_success _

/-! ### The three calls -/

/-- Whatever account the call answers is stored under this name. -/
abbrev StoresOn (lib : Library) (name : String) (p : ExternalProg User) : Prop :=
  ∀ s : AccountState, p.Wp (externalMachine lib) (OnSuccess (StoredAs name)) s

/-- The row that a connection returns, the call returns. -/
theorem stores_onDb {name : String} {p : OnConnection User}
    (hp : ∀ s, p.Wp accountMachine (OnSuccess (StoredAs name)) s) :
    StoresOn lib name (onDb p) := by
  intro s
  refine wp_hoist.mpr ((hp s).mono ?_)
  intro r s' hr u hu
  cases r with
  | ok v => exact hr u hu
  | error e => cases hu

/-- What goes before does not matter. -/
theorem stores_after {α : Type} {name : String} {p : ExternalProg α} {f : α → ExternalProg User}
    (hf : ∀ a, StoresOn lib name (f a)) : StoresOn lib name (p.bind f) := fun _ =>
  Wp.bind_success (K := fun _ _ => True) (fun _ _ => trivial) fun a s' _ => hf a s'

/-- A transaction that succeeds has done what its body does. -/
theorem wp_withTxn_success {t : AccountTxn} {Q : t.Result → AccountState → Prop}
    (h : (t.body lib).Wp accountMachine (OnSuccess Q) s) :
    (withTxn t).Wp (externalMachine lib) (OnSuccess Q) s :=
  (wp_withTxn (I := fun _ => True) trivial h).mono fun _ _ hr u hu => hr.ok u hu

/-- The first administrator is stored under the name of the request. -/
theorem stores_setupFirstAdmin (publicUuid username email password : String) :
    StoresOn lib username (onDb (setupFirstAdmin lib publicUuid username email password)) := by
  refine stores_onDb fun s => Wp.bind_success wp_anything fun count _ _ => ?_
  refine Wp.bind_success wp_anything fun _ _ _ => Wp.bind_success wp_anything fun _ s' _ => ?_
  exact wp_createUserWithOptions_stored _ _ _ _ _ _ _

/-- So is a registration. -/
theorem stores_register (policy : AuthPolicy) (publicUuid username email password : String) :
    StoresOn lib username (register lib policy publicUuid username email password) := by
  refine stores_after fun _ => stores_after fun _ => stores_after fun _ => ?_
  refine stores_after fun count => ?_
  dsimp only
  split
  · exact fun s => wp_withTxn_success (t := .registerUser _) (wp_createUserWithRole_stored _)
  · exact stores_onDb fun s => wp_createUserWithOptions_stored _ _ _ _ _ _ _

/-- So is an invited user. -/
theorem stores_acceptInvitation (policy : AuthPolicy)
    (publicUuid token username password : String) :
    StoresOn lib username (acceptInvitation lib policy publicUuid token username password) :=
  stores_after fun _ _ =>
    wp_withTxn_success (t := .acceptInvitation _ _) (wp_acceptInvitationTxn_stored _ _)

end Raw

/-- Every account that the call answers is stored under the name as it came, and
this obeys the grammar exactly if it came without surrounding blanks. -/
def StoresRaw (lib : Library) (name : String) (p : ExternalProg User) : Prop :=
  ∀ s u s', p.run (externalMachine lib) s = (.ok u, s') →
    u ∈ s'.users.rows ∧ u.username = name ∧
      (FitsUsername isUsernameChar u.username.toList ↔ trim name = name)

/-- A program that stores on its connection stores under any schedule. -/
theorem StoresOn.raw {lib : Library} {name : String} {p : ExternalProg User}
    (hp : StoresOn lib name p) : StoresRaw lib name p := by
  intro s u s' hrun
  have hwp := hp s
  unfold Wp at hwp
  rw [hrun] at hwp
  have hstored := hwp u rfl
  refine ⟨hstored.row, hstored.username, ?_⟩
  rw [hstored.username]
  constructor
  · exact fun hfits => hfits.trim_eq
  · intro htrim
    have hfits := validateUsername_iff.mp hstored.valid
    rwa [htrim] at hfits

/-- **When the stored names obey the grammar.**  In every run, however the calls
interleave, in which registration, setup and the acceptance of an invitation are
given names without surrounding blanks, all stored names obey the grammar and no two
accounts differ only by surrounding blanks.  Each of the three calls stores its
name as it came, and so stores a name of the grammar exactly if there are no such
blanks. -/
theorem stored_names_obey_iff (lib : Library) (hdigest : HexDigest lib) :
    (∀ (providers : Table providerSchema) (invitations : Table invitationSchema) (now : Nat)
      (sched : List (Action AccountCall)) (c : SitePool lib),
      c = (initial (AccountState.fresh providers invitations now)).runs
        (AccountCall.body lib) sched →
      (∀ call, .spawn call ∈ sched → call.Draws) →
      (∀ call, .spawn call ∈ sched → call.Trimmed) → WellNamed c.shared) ∧
    (∀ publicUuid username email password, StoresRaw lib username
      (onDb (setupFirstAdmin lib publicUuid username email password))) ∧
    (∀ policy publicUuid username email password, StoresRaw lib username
      (register lib policy publicUuid username email password)) ∧
    ∀ policy publicUuid token username password, StoresRaw lib username
      (acceptInvitation lib policy publicUuid token username password) := by
  refine ⟨?_, ?_, ?_, ?_⟩
  · intro providers invitations now sched c hc hdraws htrimmed
    exact WellNamed.of_grammar (runs_grammar hdigest hc hdraws htrimmed)
  · exact fun _ _ _ _ => StoresOn.raw (stores_setupFirstAdmin _ _ _ _)
  · exact fun _ _ _ _ _ => StoresOn.raw (stores_register _ _ _ _ _)
  · exact fun _ _ _ _ _ => StoresOn.raw (stores_acceptInvitation _ _ _ _ _)

/-- A registration of small runs. -/
def registering (publicUuid username email : String) : AccountCall :=
  .register plainProvision.policy publicUuid username email "correct horse"

/-- The second of two people registers with this name, after `bobby`. -/
def afterBobby (username : String) : List (Action AccountCall) :=
  .spawn (registering "uuid1" "bobby" "bob@example.org") :: List.replicate 7 (.run 0) ++
    .spawn (registering "uuid2" username "eve@example.org") :: List.replicate 7 (.run 1)

/-- The site after that. -/
def bobbySite (username : String) : SitePool sevenLibrary :=
  (initial (AccountState.fresh .empty .empty 0)).runs (AccountCall.body sevenLibrary)
    (afterBobby username)

/-- The user names of the site. -/
def userNames (s : AccountState) : List String := s.users.rows.map User.username

/-- The calls of the example. -/
theorem mem_afterBobby {username : String} {call : AccountCall}
    (h : .spawn call ∈ afterBobby username) :
    call = registering "uuid1" "bobby" "bob@example.org" ∨
      call = registering "uuid2" username "eve@example.org" := by
  simpa [afterBobby, List.mem_replicate] using h

/-- None of them draws a suffix. -/
theorem draws_afterBobby {username : String} {call : AccountCall}
    (h : .spawn call ∈ afterBobby username) : call.Draws := by
  rcases mem_afterBobby h with rfl | rfl <;> trivial

/-- Two names of the grammar. -/
theorem distinct_names_stored :
    userNames (bobbySite "carol").shared = ["bobby", "carol"] ∧
    WellNamed (bobbySite "carol").shared := by
  have htrimmed : ∀ call, .spawn call ∈ afterBobby "carol" → call.Trimmed := by
    intro call hcall name hname
    rcases mem_afterBobby hcall with rfl | rfl <;> cases hname <;> decide +kernel
  exact ⟨by decide +kernel, (stored_names_obey_iff sevenLibrary hexDigest_seven).1 .empty .empty
    0 _ _ rfl (fun _ => draws_afterBobby) htrimmed⟩

/-- **Registration stores a blank**, and so two accounts that differ by nothing
else. -/
theorem registered_with_a_blank :
    userNames (bobbySite " bobby").shared = ["bobby", " bobby"] ∧
    ¬ ∀ (lib : Library), HexDigest lib →
      ∀ (sched : List (Action AccountCall)) (c : SitePool lib),
        c = (initial (AccountState.fresh .empty .empty 0)).runs (AccountCall.body lib) sched →
        (∀ call, .spawn call ∈ sched → call.Draws) → WellNamed c.shared := by
  have hnames : userNames (bobbySite " bobby").shared = ["bobby", " bobby"] := by
    decide +kernel
  refine ⟨hnames, fun hall => ?_⟩
  have hwell := hall sevenLibrary hexDigest_seven _ (bobbySite " bobby") rfl
    fun _ => draws_afterBobby
  have hmem : " bobby" ∈ userNames (bobbySite " bobby").shared := by
    rw [hnames]
    decide
  obtain ⟨u, hu, hname⟩ := List.mem_map.mp hmem
  have hfits := hwell.grammar u hu
  rw [hname] at hfits
  exact absurd (hfits.chars ' ' (by decide)) (by decide)

end AsterYggdrasil.External
