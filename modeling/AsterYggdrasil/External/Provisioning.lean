import AsterYggdrasil.External.NameGrammar
import AsterYggdrasil.External.AccountNames

/-!
# The names provisioning tries

A login that creates an account tries up to five names and goes on to the next
one when a name is taken.  A name that is turned down for another reason ends
the loop.  No candidate is turned down for its grammar
(`External.NameGrammar`); the first one can be a reserved name of LinuxDO, and
for the other providers the loop then stops before a name is tried that the
account could have.

`provisioning_finds_name_iff` is the exact condition under which the outcome is
not the name's fault.
-/

namespace AsterYggdrasil.External

open Interleave Relational Prog

/-! ## Outcomes -/

/-- The texts of the errors that turn a user name down. -/
def usernameMessages : List String :=
  ["username must be 4-16 characters",
    "username may only contain letters, numbers, underscores and hyphens",
    "username is reserved for LinuxDO identities",
    "username already exists",
    "failed to allocate unique username for external auth user"]

/-- The error turns the user name down. -/
def turnsNameDown : ServiceError → Bool
  | .aster (.validation code message) =>
      code = some .authUsernameExists || usernameMessages.contains message
  | _ => false

/-- If the outcome is a failure, it is not the name's fault. -/
def NotForItsName {α : Type} (r : Except ServiceError α) : Prop :=
  ∀ e, r = .error e → turnsNameDown e = false

/-- The libraries never speak of user names. -/
structure BlamesNoName (lib : Library) : Prop where
  email : ∀ s e, lib.normalizeEmail s = .error e → turnsNameDown (.aster e) = false
  hash : ∀ s e, lib.hashPassword s = .error e → turnsNameDown (.aster e) = false
  domain : ∀ domains s e, lib.emailDomainAllowed domains s = .error e →
    turnsNameDown (.aster e) = false

/-- A success turns no name down. -/
theorem notForItsName_ok {α : Type} (a : α) :
    NotForItsName (.ok a : Except ServiceError α) := fun _ h => by cases h

/-- Nor does an error that is about something else. -/
theorem notForItsName_error {α : Type} {e : ServiceError} (he : turnsNameDown e = false) :
    NotForItsName (.error e : Except ServiceError α) := fun _ h => by cases h; exact he

/-- A conflict of usernames turns a name down. -/
theorem usernameConflict_turnsDown {e : ServiceError} (h : turnsNameDown e = false) :
    usernameConflict e = false := by
  unfold turnsNameDown at h
  unfold usernameConflict
  split at h
  · next code message =>
    rw [Bool.or_eq_false_iff, decide_eq_false_iff_not] at h
    split
    · exact absurd (by cases ‹ServiceError.aster _ = _›; rfl) h.1
    · rfl
  · next hno =>
    split
    · next message => exact absurd rfl (hno _ message)
    · rfl

/-- The error of a reserved name. -/
def usernameReserved : AsterError :=
  .validation none "username is reserved for LinuxDO identities"

/-! ## Attempts -/

section Retry

variable {S : Signature} {M : Machine S} {α : Type} {attempt : Nat → Prog S ServiceError α}
  {s : M.State}

/-- The attempt finds its name taken, and leaves no trace. -/
def Taken (M : Machine S) (attempt : Nat → Prog S ServiceError α) (s : M.State) (n : Nat) :
    Prop :=
  ∃ e, usernameConflict e = true ∧ (attempt n).run M s = (.error e, s)

/-- The attempt ends for good, and not because of its name. -/
def Settled (M : Machine S) (attempt : Nat → Prog S ServiceError α) (s : M.State) (n : Nat) :
    Prop :=
  NotForItsName ((attempt n).run M s).1

/-- Catching errors changes nothing about the run. -/
theorem run_attempt {ε ε' : Type} (p : Prog S ε α) (s : M.State) :
    (p.attempt : Prog S ε' (Except ε α)).run M s = (.ok (p.run M s).1, (p.run M s).2) := by
  induction p generalizing s with
  | ok a => rfl
  | err e => rfl
  | act i k ih => exact ih _ _

/-- The next attempt follows a conflict, and nothing else. -/
theorem run_retry (n : Nat) (rest : List Nat) (s : M.State) :
    (retryOnUsernameConflict attempt (n :: rest)).run M s =
      match (attempt n).run M s with
      | (.ok a, s') => (.ok a, s')
      | (.error e, s') =>
        (if usernameConflict e then retryOnUsernameConflict attempt rest else .err e).run M s' := by
  change (Prog.bind _ _).run M s = _
  rw [run_bind, run_attempt]
  rcases (attempt n).run M s with ⟨r, s'⟩
  cases r <;> rfl

/-- **A loop of attempts settles** if each attempt is settled or finds its name
taken, and one of them is settled. -/
theorem retry_settles {attempts : List Nat}
    (h : ∀ n ∈ attempts, Taken M attempt s n ∨ Settled M attempt s n)
    (hsome : ∃ n ∈ attempts, Settled M attempt s n) :
    NotForItsName ((retryOnUsernameConflict attempt attempts).run M s).1 := by
  induction attempts with
  | nil =>
    obtain ⟨n, hn, -⟩ := hsome
    exact absurd hn List.not_mem_nil
  | cons n rest ih =>
    by_cases hsettled : Settled M attempt s n
    · obtain ⟨r, s', hrun⟩ : ∃ r s', (attempt n).run M s = (r, s') := ⟨_, _, rfl⟩
      unfold Settled at hsettled
      rw [hrun] at hsettled
      cases r with
      | ok a =>
        rw [run_retry, hrun]
        exact notForItsName_ok a
      | error e =>
        have he := hsettled e rfl
        rw [run_retry, hrun]
        simp only [usernameConflict_turnsDown he]
        exact notForItsName_error he
    · obtain ⟨e, hconflict, hrun⟩ := (h n (List.mem_cons_self ..)).resolve_right hsettled
      rw [run_retry, hrun]
      simp only [if_pos hconflict]
      refine ih (fun m hm => h m (List.mem_cons_of_mem _ hm)) ?_
      obtain ⟨m, hm, hmsettled⟩ := hsome
      rcases List.mem_cons.mp hm with rfl | hm
      · exact absurd hmsettled hsettled
      · exact ⟨m, hm, hmsettled⟩

/-- An attempt that is turned down for another reason ends the loop. -/
theorem retry_stops {n : Nat} (rest : List Nat) {e : ServiceError} {s' : M.State}
    (hrun : (attempt n).run M s = (.error e, s')) (hother : usernameConflict e = false) :
    (retryOnUsernameConflict attempt (n :: rest)).run M s = (.error e, s') := by
  rw [run_retry, hrun]
  simp only [hother]
  rfl

end Retry

/-! ## One attempt -/

/-- A program that never fails because of a name. -/
def Neutral {α : Type} (p : OnConnection α) : Prop :=
  ∀ s, NotForItsName (p.run accountMachine s).1

section Connection

variable {α β : Type} {s : AccountState}

/-- Neutral programs one after another. -/
theorem Neutral.bind {p : OnConnection α} {f : α → OnConnection β} (hp : Neutral p)
    (hf : ∀ a, Neutral (f a)) : Neutral (p.bind f) := by
  intro s
  have hps := hp s
  rw [run_bind]
  cases hrun : p.run accountMachine s with
  | mk r s' =>
    rw [hrun] at hps
    cases r with
    | ok a => exact hf a s'
    | error e => exact notForItsName_error (hps e rfl)

/-- A program that is over turns no name down. -/
theorem neutral_ok (a : α) : Neutral (.ok a) := fun _ => notForItsName_ok a

/-- Nor does a statement. -/
theorem neutral_stmt (i : AccountStmt) : Neutral (onConn i) := fun _ => notForItsName_ok _

/-- Nor does a missing row, whose error is about something else. -/
theorem neutral_required {e : AsterError} (he : turnsNameDown (.aster e) = false)
    (o : Option α) : Neutral (required e o) := by
  cases o with
  | none => exact fun _ => notForItsName_error he
  | some a => exact neutral_ok a

/-- Nor does a check with such an error. -/
theorem neutral_rejectIf {e : AsterError} (he : turnsNameDown (.aster e) = false) (c : Bool) :
    Neutral (rejectIf c e) := by
  cases c with
  | true => exact fun _ => notForItsName_error he
  | false => exact neutral_ok ()

/-- Nor does a pure one. -/
theorem neutral_checked {r : Except AsterError α}
    (hr : ∀ e, r = .error e → turnsNameDown (.aster e) = false) : Neutral (checked r) := by
  cases r with
  | ok a => exact neutral_ok a
  | error e => exact fun _ => notForItsName_error (hr e rfl)

/-- Addresses are not names. -/
theorem neutral_ensureEmailUnclaimed (email : String) : Neutral (ensureEmailUnclaimed email) :=
  (neutral_stmt _).bind fun _ => (neutral_rejectIf rfl _).bind fun _ =>
    (neutral_stmt _).bind fun _ => neutral_rejectIf rfl _

/-- Nor are identities. -/
theorem neutral_createIdentityForClaims (userId : Nat) (provider : Provider)
    (claims : UserClaims) (now : Nat) (metadata : Option String) :
    Neutral (createIdentityForClaims userId provider claims now metadata) :=
  (neutral_stmt _).bind fun _ => neutral_required rfl _

/-- How a program that creates an account under `name` ends, as far as the name
is concerned. -/
structure Judged (s : AccountState) (name : String) (permitted : Prop)
    (r : Except ServiceError α) : Prop where
  reserved : ¬ permitted → r = .error (.aster usernameReserved)
  taken : permitted → r = .error (.aster usernameExists) ∨ NotForItsName r
  free : permitted → NameFree s.service.db name none → NotForItsName r

/-- What turns no name down has judged the name rightly. -/
theorem Judged.of_neutral {name : String} {permitted : Prop} {r : Except ServiceError α}
    (hpermitted : permitted) (h : NotForItsName r) : Judged s name permitted r :=
  ⟨fun hno => absurd hpermitted hno, fun _ => Or.inr h, fun _ _ => h⟩

/-- What follows on success is nothing the name could be blamed for. -/
theorem Judged.bind {name : String} {permitted : Prop} {p : OnConnection α}
    {f : α → OnConnection β}
    (hp : p.Wp accountMachine (fun r _ => Judged s name permitted r) s)
    (hf : ∀ a, Neutral (f a)) :
    (p.bind f).Wp accountMachine (fun r _ => Judged s name permitted r) s := by
  refine wp_bind.mpr (hp.mono fun r s' hr => ?_)
  cases r with
  | ok a =>
    have hpermitted : permitted := by
      by_contra hno
      cases hr.reserved hno
    exact Judged.of_neutral hpermitted (hf a s')
  | error e =>
    refine ⟨fun hno => ?_, fun hyes => ?_, fun hyes hfree => ?_⟩
    · cases hr.reserved hno
      rfl
    · rcases hr.taken hyes with h | h
      · cases h
        exact Or.inl rfl
      · exact Or.inr (notForItsName_error (h e rfl))
    · exact notForItsName_error (hr.free hyes hfree e rfl)

/-- A check that speaks of something else, before the name is looked up. -/
theorem Judged.checked_bind {name : String} {permitted : Prop} {r : Except AsterError α}
    {f : α → OnConnection β} (hpermitted : permitted)
    (hr : ∀ e, r = .error e → turnsNameDown (.aster e) = false)
    (hf : ∀ a, (f a).Wp accountMachine (fun r _ => Judged s name permitted r) s) :
    ((checked r).bind f).Wp accountMachine (fun r _ => Judged s name permitted r) s := by
  cases r with
  | ok a => exact hf a
  | error e => exact Judged.of_neutral hpermitted (notForItsName_error (hr e rfl))

/-- The lookup of the name. -/
theorem Judged.wp_ensureUsernameAvailable {name : String} {permitted : Prop}
    {f : Unit → OnConnection α} (hpermitted : permitted) (hf : Neutral (f ())) :
    ((ofDb (ensureUsernameAvailable name none)).bind f).Wp accountMachine
      (fun r _ => Judged s name permitted r) s := by
  have hrest : (f ()).Wp accountMachine (fun r _ => Judged s name permitted r) s :=
    Judged.of_neutral hpermitted (hf s)
  have htaken : ¬ NameFree s.service.db name none →
      Judged (α := α) s name permitted (.error (.aster usernameExists)) := fun hno =>
    ⟨fun h => absurd hpermitted h, fun _ => Or.inl rfl, fun _ hfree => absurd hfree hno⟩
  refine wp_bind.mpr (wp_hoist.mpr (wp_hoist.mpr ?_))
  unfold ensureUsernameAvailable
  refine wp_stmt_bind.mpr (wp_rejectIf (fun huser => htaken fun hfree => ?_) fun _ => ?_)
  · obtain ⟨u, hfound, hother⟩ := (Option.any_eq_true _ _).mp huser
    obtain ⟨hu, hname⟩ := Table.of_find? hfound
    cases hfree.users u hu (of_decide_eq_true hname)
  · refine wp_stmt_bind.mpr (wp_rejectIf_last (fun hprofile => htaken fun hfree => ?_)
      fun _ => hrest)
    obtain ⟨p, hfound, hother⟩ := (Option.any_eq_true _ _).mp hprofile
    obtain ⟨hp, hname⟩ := Table.of_find? hfound
    cases hfree.profiles p hp (of_decide_eq_true hname)

/-- An account may have the name: it is not reserved, or the account has leave. -/
def MayUse (allowReserved : Bool) (name : String) : Prop :=
  allowReserved = true ∨ isReservedLinuxdoProfileName name = false

/-- The checks of a name that obeys the grammar. -/
theorem Judged.wp_checkNewUsername {name : String} {allow : Bool} {f : Unit → OnConnection α}
    (hfits : FitsUsername isUsernameChar name.toList)
    (hf : MayUse allow name →
      (f ()).Wp accountMachine (fun r _ => Judged s name (MayUse allow name) r) s) :
    ((checkNewUsername name allow).bind f).Wp accountMachine
      (fun r _ => Judged s name (MayUse allow name) r) s := by
  have htrim : trim name = name := hfits.trim_eq
  have hvalid : validateUsername name = .ok () :=
    validateUsername_iff.mpr (by rw [htrim]; exact hfits)
  unfold checkNewUsername
  rw [hvalid]
  cases allow with
  | true => exact hf (Or.inl rfl)
  | false =>
    cases hreserved : isReservedLinuxdoProfileName name with
    | false =>
      have hcheck : validateReservedUsername name = .ok () := by
        unfold validateReservedUsername
        rw [htrim, hreserved]
        rfl
      rw [hcheck]
      exact hf (Or.inr hreserved)
    | true =>
      have hcheck : validateReservedUsername name = .error usernameReserved := by
        unfold validateReservedUsername
        rw [htrim, hreserved]
        rfl
      rw [hcheck]
      have hno : ¬ MayUse false name := by
        rintro (h | h)
        · cases h
        · rw [hreserved] at h
          cases h
      exact ⟨fun _ => rfl, fun h => absurd h hno, fun h => absurd h hno⟩

/-- An error about the password turns no name down. -/
theorem validatePassword_neutral {password : String} {e : AsterError}
    (h : validatePassword password = .error e) : turnsNameDown (.aster e) = false := by
  unfold validatePassword at h
  split at h
  · cases h
    decide
  · cases h

variable {lib : Library} (hlib : BlamesNoName lib)

include hlib

/-- **`create_user_with_role`** turns a reserved name down, and another one only if it is
taken. -/
theorem judged_createUserWithRole (input : CreateUserWithRole)
    (hfits : FitsUsername isUsernameChar input.username.toList) :
    (createUserWithRole lib input).Wp accountMachine (fun r _ => Judged s input.username
      (MayUse input.allowReservedLinuxdoUsername input.username) r) s := by
  refine Judged.wp_checkNewUsername hfits fun hmay => ?_
  refine Judged.checked_bind hmay (hlib.email _) fun email => ?_
  refine Judged.checked_bind hmay (hlib.email _) fun _ => ?_
  refine Judged.checked_bind hmay (fun _ => validatePassword_neutral) fun _ => ?_
  refine Judged.wp_ensureUsernameAvailable hmay ?_
  refine (neutral_ensureEmailUnclaimed email).bind fun _ => ?_
  refine (neutral_checked (hlib.hash _)).bind fun hash => ?_
  exact (neutral_stmt _).bind fun _ => neutral_required rfl _

/-- So does its sibling for accounts without an address. -/
theorem judged_createUserWithoutEmail (input : CreateUserWithoutEmail)
    (hfits : FitsUsername isUsernameChar input.username.toList) :
    (createUserWithoutEmailWithRole lib input).Wp accountMachine (fun r _ =>
      Judged s input.username
        (MayUse input.allowReservedLinuxdoUsername input.username) r) s := by
  refine Judged.wp_checkNewUsername hfits fun hmay => ?_
  refine Judged.checked_bind hmay (fun _ => validatePassword_neutral) fun _ => ?_
  refine Judged.wp_ensureUsernameAvailable hmay ?_
  refine (neutral_checked (hlib.hash _)).bind fun hash => ?_
  exact (neutral_stmt _).bind fun _ => neutral_required rfl _

/-- Nobody has the email. -/
def EmailFree (s : AccountState) (email : String) : Prop :=
  ∀ u ∈ s.users.rows, u.email ≠ some email

/-- So does the transaction that makes a user. -/
theorem judged_provisionTxn (input : ProvisionAttempt)
    (hfits : FitsUsername isUsernameChar input.account.username.toList)
    (hemail : EmailFree s input.account.email) :
    (provisionTxn lib input).Wp accountMachine (fun r _ => Judged s input.account.username
      (MayUse input.account.allowReservedLinuxdoUsername input.account.username) r) s := by
  refine wp_stmt_bind.mpr ?_
  have hnone : s.users.find? (fun u => u.email = some input.account.email) = none := by
    refine Table.find?_eq_none.mpr fun u hu => ?_
    simpa using hemail u hu
  have hreply : (accountMachine.exec (.userFindByEmail input.account.email) s).1 = none := hnone
  rw [hreply]
  refine wp_rejectIf (fun h => by cases h) fun _ => ?_
  refine Judged.bind (judged_createUserWithRole hlib input.account hfits) fun user => ?_
  exact (neutral_createIdentityForClaims _ _ _ _ _).bind fun _ => neutral_ok _

/-- Without an address too. -/
theorem judged_provisionWithoutEmailTxn (input : ProvisionWithoutEmail)
    (hfits : FitsUsername isUsernameChar input.account.username.toList) :
    (provisionWithoutEmailTxn lib input).Wp accountMachine (fun r _ =>
      Judged s input.account.username
        (MayUse input.account.allowReservedLinuxdoUsername input.account.username) r) s := by
  refine Judged.bind (judged_createUserWithoutEmail hlib input.account hfits) fun user => ?_
  exact (neutral_createIdentityForClaims _ _ _ _ _).bind fun _ => neutral_ok _

end Connection

/-! ## The loop -/

section Loop

variable {lib : Library} {s : AccountState} {α : Type}

/-- A transaction whose body succeeds is committed. -/
theorem run_withTxn_ok {t : AccountTxn} {a : t.Result} {s' : AccountState}
    (h : (t.body lib).run accountMachine s = (.ok a, s')) :
    (withTxn t).run (externalMachine lib) s = (.ok a, s') := by
  have hcommit : t.commit lib s = (.ok a, s') := by
    unfold AccountTxn.commit
    rw [h]
  change (match (t.commit lib s).1 with
    | .ok a => (Prog.ok a : ExternalProg t.Result)
    | .error e => .err e).run (externalMachine lib) (t.commit lib s).2 = _
  rw [hcommit]
  rfl

/-- One whose body fails is rolled back. -/
theorem run_withTxn_error {t : AccountTxn} {e : ServiceError} {s' : AccountState}
    (h : (t.body lib).run accountMachine s = (.error e, s')) :
    (withTxn t).run (externalMachine lib) s = (.error e, s) := by
  have hcommit : t.commit lib s = (.error e, s) := by
    unfold AccountTxn.commit
    rw [h]
  change (match (t.commit lib s).1 with
    | .ok a => (Prog.ok a : ExternalProg t.Result)
    | .error e => .err e).run (externalMachine lib) (t.commit lib s).2 = _
  rw [hcommit]
  rfl

/-- How an attempt that is a transaction ends. -/
structure AttemptJudged (lib : Library) (s : AccountState) (attempt : Nat → ExternalProg α)
    (n : Nat) (name : String) (permitted : Prop) : Prop where
  reserved : ¬ permitted →
    (attempt n).run (externalMachine lib) s = (.error (.aster usernameReserved), s)
  taken : permitted →
    Taken (externalMachine lib) attempt s n ∨ Settled (externalMachine lib) attempt s n
  free : permitted → NameFree s.service.db name none →
    Settled (externalMachine lib) attempt s n

/-- An attempt that is a transaction. -/
theorem AttemptJudged.of_run {attempt : Nat → ExternalProg α} {n : Nat} {name : String}
    {permitted : Prop} (out : Except ServiceError α × AccountState)
    (hok : ∀ a s', out = (.ok a, s') →
      (attempt n).run (externalMachine lib) s = (.ok a, s'))
    (herr : ∀ e s', out = (.error e, s') →
      (attempt n).run (externalMachine lib) s = (.error e, s))
    (h : Judged s name permitted out.1) :
    AttemptJudged lib s attempt n name permitted := by
  obtain ⟨r, s'⟩ := out
  cases r with
  | ok a =>
    have hsettled : Settled (externalMachine lib) attempt s n := by
      unfold Settled
      rw [hok a s' rfl]
      exact notForItsName_ok a
    exact ⟨fun hno => (by cases h.reserved hno), fun _ => Or.inr hsettled,
      fun _ _ => hsettled⟩
  | error e =>
    have hrun := herr e s' rfl
    have hsettled : turnsNameDown e = false → Settled (externalMachine lib) attempt s n := by
      intro he
      unfold Settled
      rw [hrun]
      exact notForItsName_error he
    refine ⟨fun hno => ?_, fun hyes => ?_, fun hyes hfree => hsettled (h.free hyes hfree e rfl)⟩
    · cases h.reserved hno
      exact hrun
    · rcases h.taken hyes with heq | hneutral
      · cases heq
        exact Or.inl ⟨_, rfl, hrun⟩
      · exact Or.inr (hsettled (hneutral e rfl))

/-- **What decides about a loop of attempts** whose later names are all permitted
is whether the first one is. -/
theorem loop_iff {attempt : Nat → ExternalProg α} {name : Nat → String}
    {permitted : Nat → Prop}
    (h : ∀ n, AttemptJudged lib s attempt n (name n) (permitted n))
    (hlater : ∀ n, n ≠ 0 → permitted n)
    (hsome : ∃ n ∈ usernameAttempts, NameFree s.service.db (name n) none ∧ permitted n) :
    NotForItsName ((retryOnUsernameConflict attempt usernameAttempts).run
      (externalMachine lib) s).1 ↔ permitted 0 := by
  constructor
  · intro hout
    by_contra hno
    have hstops := retry_stops [1, 2, 3, 4] ((h 0).reserved hno) rfl
    have hrun : (retryOnUsernameConflict attempt usernameAttempts).run (externalMachine lib) s =
      (.error (.aster usernameReserved), s) := hstops
    rw [hrun] at hout
    have hfalse := hout _ rfl
    revert hfalse
    decide
  · intro hfirst
    have hall : ∀ n, permitted n := fun n => by
      by_cases hn : n = 0
      · rw [hn]
        exact hfirst
      · exact hlater n hn
    obtain ⟨n, hn, hfree, hyes⟩ := hsome
    exact retry_settles (fun m _ => (h m).taken (hall m)) ⟨n, hn, (h n).free hyes hfree⟩

end Loop

/-! ## The candidates -/

/-- The name an attempt tries. -/
def triedName (lib : Library) (ctx : ProvisionContext) (provider : Provider)
    (claims : UserClaims) (attempt : Nat) : String :=
  usernameCandidateForProvider ctx provider claims (externalAuthUsernameBase lib claims) attempt

/-- The accounts of the provider may have the name. -/
def Permitted (provider : Provider) (name : String) : Prop :=
  MayUse (provider.kind = .linuxDo) name

/-- One of the names is available, and permitted for the provider. -/
def SomeNameFits (lib : Library) (ctx : ProvisionContext) (provider : Provider)
    (claims : UserClaims) (s : AccountState) : Prop :=
  ∃ attempt ∈ usernameAttempts,
    NameFree s.service.db (triedName lib ctx provider claims attempt) none ∧
      Permitted provider (triedName lib ctx provider claims attempt)

/-- `create_external_auth_user_and_identity` gets as far as trying a name. -/
def EmailAccepted (lib : Library) (provider : Provider) (claims : UserClaims)
    (options : ResolveOptions) : Prop :=
  ∃ email, claims.email = some email ∧
    (provider.needsVerifiedEmail && !claims.emailVerified) = false ∧
    (options.enforceEmailDomain = true → ensureDomainAllowed lib provider email = .ok ())

section Candidates

variable {lib : Library} {ctx : ProvisionContext} {provider : Provider} {claims : UserClaims}
  {s : AccountState} {options : ResolveOptions} {now : Nat} {metadata : Option String}

/-- The later names carry a hyphen, and so they are not reserved. -/
theorem permitted_later (n : Nat) (hn : n ≠ 0) :
    Permitted provider (triedName lib ctx provider claims n) := by
  by_cases hkind : provider.kind = .linuxDo
  · exact Or.inl (decide_eq_true hkind)
  · right
    unfold triedName usernameCandidateForProvider externalAuthUsernameCandidate
    rw [if_pos hkind, if_neg hn]
    exact not_reserved_of_hyphen (by simp)

/-- Every name that is tried obeys the grammar. -/
theorem triedName_fits (hdigest : HexDigest lib) (hctx : DrawsSuffixes ctx) (n : Nat) :
    FitsUsername isUsernameChar (triedName lib ctx provider claims n).toList :=
  (candidate_fits hdigest hctx provider claims n).of_lower

/-- What is done with a success does not matter. -/
theorem notForItsName_bind_ok {α β : Type} {p : ExternalProg α} {g : α → β} :
    NotForItsName ((p.bind fun a => .ok (g a)).run (externalMachine lib) s).1 ↔
      NotForItsName (p.run (externalMachine lib) s).1 := by
  rw [run_bind]
  rcases p.run (externalMachine lib) s with ⟨r, s'⟩
  cases r with
  | ok a => exact ⟨fun _ => notForItsName_ok a, fun _ => notForItsName_ok _⟩
  | error e => exact ⟨fun h => notForItsName_error (h e rfl), fun h =>
      notForItsName_error (h e rfl)⟩

/-- Where users may register, the check is passed. -/
theorem ensureRegistrationOpen_ok {policy : AuthPolicy}
    (hopen : policy.allowUserRegistration = true) :
    ensureRegistrationOpen policy = .ok () := by
  unfold ensureRegistrationOpen
  rw [if_pos hopen]

/-- The attempts of `create_external_auth_user_and_identity`. -/
theorem createUserAndIdentity_loop (hblame : BlamesNoName lib) (hdigest : HexDigest lib)
    (hctx : DrawsSuffixes ctx) (hopen : ctx.policy.allowUserRegistration = true)
    (haccepted : EmailAccepted lib provider claims options)
    (hfree : ∀ email, claims.email = some email → EmailFree s email)
    (hsome : SomeNameFits lib ctx provider claims s) :
    NotForItsName ((createUserAndIdentity lib ctx provider claims now metadata options).run
      (externalMachine lib) s).1 ↔ Permitted provider (triedName lib ctx provider claims 0) := by
  obtain ⟨email, hemail, htrust, hdomain⟩ := haccepted
  let input : Nat → ProvisionAttempt := fun n =>
    { account := provisionedAccount ctx provider (triedName lib ctx provider claims n) email
        (if claims.emailVerified then some now else none) n
      provider := provider
      claims := claims
      now := now
      metadata := metadata }
  let attempt : Nat → ExternalProg User := fun n => withTxn (.provision (input n))
  have hprogram : createUserAndIdentity lib ctx provider claims now metadata options =
      (retryOnUsernameConflict attempt usernameAttempts).bind fun user => .ok ⟨user, true, true⟩ := by
    unfold createUserAndIdentity
    rw [ensureRegistrationOpen_ok hopen, hemail, htrust]
    cases henforce : options.enforceEmailDomain with
    | true =>
      change (onDb (checked (ensureDomainAllowed lib provider email))).bind _ = _
      rw [hdomain henforce]
      rfl
    | false => rfl
  rw [hprogram, notForItsName_bind_ok]
  refine loop_iff (fun n => ?_) permitted_later hsome
  refine AttemptJudged.of_run ((provisionTxn lib (input n)).run accountMachine s)
    (fun _ _ => run_withTxn_ok (t := .provision (input n)))
    (fun _ _ => run_withTxn_error (t := .provision (input n))) ?_
  exact judged_provisionTxn hblame (input n) (triedName_fits hdigest hctx n) (hfree email hemail)

/-- What stops `create_external_auth_user_and_identity` before the first name. -/
theorem createUserAndIdentity_refused (hblame : BlamesNoName lib)
    (hopen : ctx.policy.allowUserRegistration = true)
    (hrefused : ¬ EmailAccepted lib provider claims options) :
    NotForItsName ((createUserAndIdentity lib ctx provider claims now metadata options).run
      (externalMachine lib) s).1 := by
  unfold createUserAndIdentity
  rw [ensureRegistrationOpen_ok hopen]
  cases hemail : claims.email with
  | none => exact notForItsName_error rfl
  | some email =>
    cases htrust : provider.needsVerifiedEmail && !claims.emailVerified with
    | true => exact notForItsName_error rfl
    | false =>
      cases henforce : options.enforceEmailDomain with
      | false => exact absurd ⟨email, hemail, htrust, fun h => by rw [henforce] at h; cases h⟩ hrefused
      | true =>
        cases hdomain : ensureDomainAllowed lib provider email with
        | ok _ => exact absurd ⟨email, hemail, htrust, fun _ => hdomain⟩ hrefused
        | error e =>
          change NotForItsName (((onDb (checked (ensureDomainAllowed lib provider email))).bind
            _).run (externalMachine lib) s).1
          rw [hdomain]
          refine notForItsName_error ?_
          unfold ensureDomainAllowed at hdomain
          cases hallowed : lib.emailDomainAllowed provider.allowedDomains email with
          | error e' =>
            rw [hallowed] at hdomain
            cases hdomain
            exact hblame.domain _ _ _ hallowed
          | ok allowed =>
            rw [hallowed] at hdomain
            cases allowed <;> cases hdomain
            rfl

/-- The attempts of `resolve_external_auth_user_without_email`. -/
theorem resolveWithoutEmail_loop (hblame : BlamesNoName lib) (hdigest : HexDigest lib)
    (hctx : DrawsSuffixes ctx) (hopen : ctx.policy.allowUserRegistration = true)
    (hsome : SomeNameFits lib ctx provider claims s) :
    NotForItsName ((resolveWithoutEmail lib ctx provider claims metadata).run
      (externalMachine lib) s).1 ↔ Permitted provider (triedName lib ctx provider claims 0) := by
  let input : Nat → Nat → ProvisionWithoutEmail := fun now n =>
    { account :=
        { publicUuid := ctx.publicUuid n
          username := triedName lib ctx provider claims n
          password := ctx.password n
          role := .user
          status := .active
          mustChangePassword := false
          allowReservedLinuxdoUsername := provider.kind = .linuxDo }
      provider := provider
      claims := claims
      now := now
      metadata := metadata }
  let attempt : Nat → Nat → ExternalProg User := fun now n =>
    withTxn (.provisionWithoutEmail (input now n))
  have hprogram : resolveWithoutEmail lib ctx provider claims metadata =
      (onDb utcNow).bind fun now =>
        (retryOnUsernameConflict (attempt now) usernameAttempts).bind
          fun user => .ok ⟨user, true, true⟩ := by
    unfold resolveWithoutEmail
    rw [ensureRegistrationOpen_ok hopen]
    rfl
  have hnow : (onDb utcNow).run (externalMachine lib) s = (.ok s.now, s) := rfl
  rw [hprogram, run_bind, hnow]
  refine notForItsName_bind_ok.trans (loop_iff (fun n => ?_) permitted_later hsome)
  refine AttemptJudged.of_run
    ((provisionWithoutEmailTxn lib (input s.now n)).run accountMachine s)
    (fun _ _ => run_withTxn_ok (t := .provisionWithoutEmail (input s.now n)))
    (fun _ _ => run_withTxn_error (t := .provisionWithoutEmail (input s.now n))) ?_
  exact judged_provisionWithoutEmailTxn hblame (input s.now n) (triedName_fits hdigest hctx n)

end Candidates

/-- **When provisioning finds a name.**  Every candidate obeys the lower-case
grammar, for every provider, at every attempt and with every suffix.  While
registration is open, nobody has the email, and one of the candidates is available
and permitted, provisioning with an email does not fail because of the name if and
only if the first candidate is permitted, or the email is turned down before a name
is tried; and provisioning without an email if and only if the first candidate is
permitted. -/
theorem provisioning_finds_name_iff (lib : Library) (hdigest : HexDigest lib)
    (hblame : BlamesNoName lib) (ctx : ProvisionContext) (hctx : DrawsSuffixes ctx)
    (provider : Provider) (claims : UserClaims) :
    (∀ attempt, FitsUsername isLowerUsernameChar
      (triedName lib ctx provider claims attempt).toList) ∧
    ∀ s : AccountState, ctx.policy.allowUserRegistration = true →
      (∀ email, claims.email = some email → EmailFree s email) →
      SomeNameFits lib ctx provider claims s →
      (∀ now metadata options,
        NotForItsName ((createUserAndIdentity lib ctx provider claims now metadata options).run
          (externalMachine lib) s).1 ↔
            Permitted provider (triedName lib ctx provider claims 0) ∨
              ¬ EmailAccepted lib provider claims options) ∧
      ∀ metadata,
        NotForItsName ((resolveWithoutEmail lib ctx provider claims metadata).run
          (externalMachine lib) s).1 ↔
            Permitted provider (triedName lib ctx provider claims 0) := by
  refine ⟨candidate_fits hdigest hctx provider claims, fun s hopen hfree hsome => ?_⟩
  refine ⟨fun now metadata options => ?_, fun metadata => ?_⟩
  · by_cases haccepted : EmailAccepted lib provider claims options
    · have hloop : NotForItsName ((createUserAndIdentity lib ctx provider claims now metadata
          options).run (externalMachine lib) s).1 ↔
          Permitted provider (triedName lib ctx provider claims 0) :=
        createUserAndIdentity_loop hblame hdigest hctx hopen haccepted hfree hsome
      exact hloop.trans ⟨Or.inl, fun h => h.resolve_right fun hno => hno haccepted⟩
    · exact ⟨fun _ => Or.inr haccepted,
        fun _ => createUserAndIdentity_refused hblame hopen haccepted⟩
  · exact resolveWithoutEmail_loop hblame hdigest hctx hopen hsome

/-! ## Two logins -/

/-- The digest of the subject `7`. -/
def sevenDigest : String := "7902699be42c8a8e46fbbb4501726517e86b22c56a189f7625a6da49081b2451"

/-- The libraries of these logins, whose subject is `7`. -/
def sevenLibrary : Library := { plainLibrary with sha256Hex := fun _ => sevenDigest }

/-- The library of the example hashes to hex digits. -/
theorem hexDigest_seven : HexDigest sevenLibrary := by
  have hlength : sevenDigest.toList.length = 64 := by decide
  have hdigits : (sevenDigest.toList.all fun c => c.isDigit || ('a' ≤ c && c ≤ 'f')) = true := by
    decide
  exact ⟨fun _ => hlength, fun _ => List.all_eq_true.mp hdigits⟩

/-- And its errors are about other things than names. -/
theorem blamesNoName_seven : BlamesNoName sevenLibrary where
  email _ _ h := by cases h
  hash _ _ h := by cases h
  domain _ _ _ h := by cases h

/-- Six characters are drawn. -/
def sixProvision : ProvisionContext := { plainProvision with usernameSuffix := fun _ => "a1b2c3" }

/-- The context of the example draws suffixes of six digits. -/
theorem drawsSuffixes_six : DrawsSuffixes sixProvision := by
  have hlength : "a1b2c3".toList.length = 6 := by decide
  have hchars : ("a1b2c3".toList.all fun c => c.isLower || c.isDigit) = true := by decide
  exact ⟨fun _ => hlength, fun _ => List.all_eq_true.mp hchars⟩

/-- Subject `7` of an OpenID provider, who prefers to be called this. -/
def preferring (username : String) : UserClaims :=
  ⟨"https://id.example", "7", some "neo@example.org", true, none, some username⟩

/-- A site with that provider and without accounts. -/
def openIdSite : AccountState :=
  .fresh ⟨[plainProvider 1 .oidc], 2, by decide, by decide⟩ .empty 0

/-- On the site of the example every name is free. -/
theorem nameFree_openIdSite (name : String) : NameFree openIdSite.service.db name none :=
  ⟨fun _ h => absurd h List.not_mem_nil, fun _ h => absurd h List.not_mem_nil⟩

/-- So one of those that are tried fits. -/
theorem someNameFits_openIdSite (claims : UserClaims) :
    SomeNameFits sevenLibrary sixProvision (plainProvider 1 .oidc) claims openIdSite :=
  ⟨1, by decide, nameFree_openIdSite _, permitted_later 1 (by decide)⟩

/-- The preferred name `neo42` can be had. -/
theorem preferred_name_found :
    FitsUsername isLowerUsernameChar (triedName sevenLibrary sixProvision
      (plainProvider 1 .oidc) (preferring "neo42") 0).toList ∧
    NotForItsName ((createUserAndIdentity sevenLibrary sixProvision (plainProvider 1 .oidc)
      (preferring "neo42") 0 none .default).run (externalMachine sevenLibrary) openIdSite).1 := by
  have h := provisioning_finds_name_iff sevenLibrary hexDigest_seven blamesNoName_seven
    sixProvision drawsSuffixes_six (plainProvider 1 .oidc) (preferring "neo42")
  have hfree : ∀ email, (preferring "neo42").email = some email →
      EmailFree openIdSite email := fun _ _ _ hu => absurd hu List.not_mem_nil
  have hpermitted : Permitted (plainProvider 1 .oidc) (triedName sevenLibrary sixProvision
      (plainProvider 1 .oidc) (preferring "neo42") 0) := Or.inr (by decide +kernel)
  exact ⟨h.1 0, ((h.2 openIdSite rfl hfree (someNameFits_openIdSite _)).1 0 none
    .default).mpr (Or.inl hpermitted)⟩

/-- **A preferred name that is reserved stops provisioning**, although the next
candidate is available and permitted. -/
theorem reserved_preference_stops_provisioning :
    ¬ ∀ (lib : Library) (ctx : ProvisionContext) (provider : Provider) (claims : UserClaims)
      (s : AccountState), HexDigest lib → BlamesNoName lib → DrawsSuffixes ctx →
      ctx.policy.allowUserRegistration = true →
      (∀ email, claims.email = some email → EmailFree s email) →
      SomeNameFits lib ctx provider claims s →
      NotForItsName ((createUserAndIdentity lib ctx provider claims 0 none .default).run
        (externalMachine lib) s).1 := by
  intro hall
  have hout := hall sevenLibrary sixProvision (plainProvider 1 .oidc) (preferring "linuxdo_123")
    openIdSite hexDigest_seven blamesNoName_seven drawsSuffixes_six rfl
    (fun _ _ _ hu => absurd hu List.not_mem_nil) (someNameFits_openIdSite _)
  have hrun : ((createUserAndIdentity sevenLibrary sixProvision (plainProvider 1 .oidc)
      (preferring "linuxdo_123") 0 none .default).run (externalMachine sevenLibrary)
      openIdSite).1 = .error (.aster usernameReserved) := by
    decide +kernel
  have hfalse := hout _ hrun
  revert hfalse
  decide

end AsterYggdrasil.External
