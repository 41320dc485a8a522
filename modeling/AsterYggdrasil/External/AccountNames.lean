import AsterYggdrasil.External.ProfileNames

/-!
# Accounts and the rules for names

Every operation of the site keeps the rules for names: registration, setup,
invitations, the administrator's forms, logins that create an account, bindings,
and profiles.  An account is written under a name that was looked up just before;
only a LinuxDO login may take a reserved name, and it links the account in the
same transaction.
-/

namespace AsterYggdrasil.External

open Interleave Relational Prog

/-! ## On one connection -/

section Connection

variable {α : Type} {P : Table providerSchema} {ties : List (Nat × String)}
  {s : AccountState} {I : AccountState → Prop} {R : α → Prop}

/-- What the services keep, the account's connection keeps. -/
theorem keeps_ofService {p : Service α} (hp : p.Keeps onAccounts I R) :
    (ofService p).Keeps accountMachine I R := Keeps.hoist hp

/-- A program on a connection that writes no name. -/
abbrev QuietOn (p : OnConnection α) : Prop :=
  p.Within fun i : AccountStmt => i.quiet = true

/-- A quiet program keeps any stable invariant. -/
theorem QuietOn.keeps {p : OnConnection α} (hp : QuietOn p) (hI : Stable I) :
    p.Keeps accountMachine I fun _ => True :=
  Within.keeps (M := accountMachine)
    (hp.mono fun _ hi s hs => hI s _ hs (undisturbed_exec hi s))

/-- A pure check keeps everything, and tells that it was passed. -/
theorem keeps_checked {r : Except AsterError α} :
    (checked r).Keeps accountMachine I fun a => r = .ok a := by
  cases r with
  | ok a => exact keeps_ok rfl
  | error e => exact keeps_err _

/-- An expected row keeps everything, and was found. -/
theorem keeps_required {e : AsterError} {o : Option α} :
    (required e o).Keeps accountMachine I fun a => o = some a := by
  cases o with
  | none => exact keeps_err _
  | some a => exact keeps_ok rfl

/-- A statement that only reads. -/
theorem keeps_read {i : AccountStmt} (h : ∀ s, (i.exec s).2 = s) :
    (onConn i).Keeps accountMachine I fun _ => True := by
  refine keeps_stmt (M := accountMachine) (fun s hs => ?_) fun _ _ => trivial
  have hsame : (accountMachine.exec i s).2 = s := h s
  rw [hsame]
  exact hs

/-- So does a look at the clock. -/
theorem keeps_utcNow : utcNow.Keeps accountMachine I fun _ => True :=
  keeps_read fun _ => rfl

/-! ## Inserting an account -/

/-- The end of a program that either reaches `Q` or fails and keeps `J`. -/
structure Ends {State : Type} (J : State → Prop) (Q : α → State → Prop)
    (r : Except ServiceError α) (s : State) : Prop where
  ok : ∀ a, r = .ok a → Q a s
  error : ∀ e, r = .error e → J s

/-- A program that is over is at its end. -/
theorem ends_ok {State : Type} {J : State → Prop} {Q : α → State → Prop} {a : α}
    {s : State} (h : Q a s) : Ends J Q (.ok a) s := by
  constructor
  · intro b hb
    cases hb
    exact h
  · intro e he
    cases he

/-- A failed one has kept the invariant. -/
theorem ends_error {State : Type} {J : State → Prop} {Q : α → State → Prop}
    {e : ServiceError} {s : State} (h : J s) : Ends J Q (.error e) s := by
  constructor
  · intro a ha
    cases ha
  · exact fun _ _ => h

/-- Sequencing such programs. -/
theorem wp_ends_bind {β : Type} {S : Signature} {M : Machine S} {J : M.State → Prop}
    {Q : α → M.State → Prop} {Q' : β → M.State → Prop} {p : Prog S ServiceError α}
    {f : α → Prog S ServiceError β} {s : M.State} (hp : p.Wp M (Ends J Q) s)
    (hf : ∀ a s', Q a s' → (f a).Wp M (Ends J Q') s') :
    (p.bind f).Wp M (Ends J Q') s := by
  refine wp_bind.mpr (hp.mono ?_)
  intro r s' hr
  cases r with
  | ok a => exact hf a s' (hr.ok a rfl)
  | error e => exact ends_error (hr.error e rfl)

/-- The account has been inserted under a name that was free. -/
structure Created (s : AccountState) (name : String) (u : User) (s' : AccountState) :
    Prop where
  inserted : ∃ input : CreateAccount, input.username = name ∧
    s' = ((AccountStmt.userCreate input).exec s).2
  id : u.id = s.users.seq
  free : NameFree s.service.db name none

/-- What the functions that create an account end with. -/
def AccountMade (P : Table providerSchema) (s : AccountState) (name : String)
    (allowReserved : Bool) (r : Except ServiceError User) (s' : AccountState) : Prop :=
  Ends (NamesOk P []) (fun u s' => Created s name u s' ∧
    (allowReserved = false → isReservedLinuxdoProfileName name = false)) r s'

/-- **A created account** with a name that is not reserved leaves the names in order. -/
theorem Created.namesOk {name : String} {u : User} {s' : AccountState}
    (hc : Created s name u s') (h : NamesOk P [] s)
    (hname : isReservedLinuxdoProfileName name = false) : NamesOk P [] s' := by
  obtain ⟨input, rfl, rfl⟩ := hc.inserted
  refine h.userCreate hc.free (.of_eq rfl rfl rfl) rfl fun hres => ?_
  rw [hname] at hres
  cases hres

/-- The insert at the end of these functions. -/
theorem NamesOk.wp_insertAccount {input : CreateAccount} {name : String} {allow : Bool}
    (h : NamesOk P [] s) (hfree : NameFree s.service.db name none)
    (hname : allow = false → isReservedLinuxdoProfileName name = false)
    (hinput : input.username = name) :
    ((onConn (.userCreate input)).bind (required .databaseOperation)).Wp accountMachine
      (AccountMade P s name allow) s := by
  obtain ⟨hkept, hprofiles, hrows⟩ := exec_userCreate input s
  refine wp_stmt_bind.mpr ?_
  rcases hrows with ⟨hreply, hrows⟩ | ⟨hreply, hrows⟩
  · have hreply : (accountMachine.exec (.userCreate input) s).1 = none := hreply
    rw [hreply]
    exact ends_error (h.undisturbed (hkept.undisturbed
      (fun u hu => ⟨u, hrows ▸ hu, rfl, rfl⟩) fun p hp => hprofiles ▸ hp))
  · have hreply : (accountMachine.exec (.userCreate input) s).1 =
      some (newAccount s.users.seq input) := hreply
    rw [hreply]
    exact ends_ok ⟨⟨⟨input, hinput, rfl⟩, rfl, hfree⟩, hname⟩

/-- A step that leaves the state alone, and what follows it. -/
theorem wp_unchanged {β : Type} {Q : Except ServiceError β → AccountState → Prop}
    {p : OnConnection α} {f : α → OnConnection β}
    (hp : p.Keeps accountMachine (fun t => t = s) R) (herr : ∀ e, Q (.error e) s)
    (hok : ∀ a, R a → (f a).Wp accountMachine Q s) :
    (p.bind f).Wp accountMachine Q s := by
  refine hp.wp_bind rfl ?_ ?_
  · rintro e s' rfl
    exact herr e
  · rintro a s' rfl ha
    exact hok a ha

/-- The check of a reserved name tells that the name is not reserved. -/
theorem keeps_validateReserved {name : String} :
    (checked (validateReservedUsername name)).Keeps accountMachine I
      fun _ => isReservedLinuxdoProfileName name = false :=
  keeps_checked.mono fun _ h => not_reserved_of_trim (validateReservedUsername_ok h)

/-- So do the checks of a new username, unless reserved names are allowed. -/
theorem keeps_checkNewUsername {name : String} {allow : Bool} :
    (checkNewUsername name allow).Keeps accountMachine I
      fun _ => allow = false → isReservedLinuxdoProfileName name = false := by
  refine keeps_checked.bind fun _ _ => ?_
  cases allow with
  | true => exact keeps_ok fun h => by cases h
  | false => exact keeps_validateReserved.mono fun _ h _ => h

/-- Checking an address changes no name. -/
theorem keeps_ensureEmailUnclaimed {email : String} :
    (ensureEmailUnclaimed email).Keeps accountMachine I fun _ => True := by
  refine (keeps_read fun _ => rfl).bind fun _ _ => Keeps.bind keeps_rejectIf fun _ _ => ?_
  exact (keeps_read fun _ => rfl).bind fun _ _ => keeps_rejectIf.mono fun _ _ => trivial

/-- `create_user_with_role` makes an account with the name that it is given. -/
theorem NamesOk.wp_createUserWithRole (h : NamesOk P [] s) (lib : Library)
    (input : CreateUserWithRole) :
    (createUserWithRole lib input).Wp accountMachine
      (AccountMade P s input.username input.allowReservedLinuxdoUsername) s := by
  have herr : ∀ e, AccountMade P s input.username input.allowReservedLinuxdoUsername
      (.error e) s := fun _ => ends_error h
  refine wp_unchanged keeps_checkNewUsername herr fun _ hname => ?_
  refine wp_unchanged keeps_checked herr fun email _ => ?_
  refine wp_unchanged keeps_checked herr fun _ _ => ?_
  refine wp_unchanged keeps_checked herr fun _ _ => ?_
  refine h.wp_ofDb_ensureUsernameAvailable (herr _) fun hfree => ?_
  refine wp_unchanged keeps_ensureEmailUnclaimed herr fun _ _ => ?_
  refine wp_unchanged keeps_checked herr fun hash _ => ?_
  exact h.wp_insertAccount hfree hname rfl

/-- So does its sibling for accounts without an address. -/
theorem NamesOk.wp_createUserWithoutEmail (h : NamesOk P [] s) (lib : Library)
    (input : CreateUserWithoutEmail) :
    (createUserWithoutEmailWithRole lib input).Wp accountMachine
      (AccountMade P s input.username input.allowReservedLinuxdoUsername) s := by
  have herr : ∀ e, AccountMade P s input.username input.allowReservedLinuxdoUsername
      (.error e) s := fun _ => ends_error h
  refine wp_unchanged keeps_checkNewUsername herr fun _ hname => ?_
  refine wp_unchanged keeps_checked herr fun _ _ => ?_
  refine h.wp_ofDb_ensureUsernameAvailable (herr _) fun hfree => ?_
  refine wp_unchanged keeps_checked herr fun hash _ => ?_
  exact h.wp_insertAccount hfree hname rfl

/-- The insert itself, of a name that is free and not reserved. -/
theorem NamesOk.wp_userCreateWithOptions (h : NamesOk P [] s)
    (publicUuid username email hash : String) (role : UserRole) (status : UserStatus)
    (mustChange : Bool) (hfree : NameFree s.service.db username none)
    (hname : isReservedLinuxdoProfileName username = false) :
    (userCreateWithOptions publicUuid username email hash role status mustChange).Wp
      accountMachine (AccountMade P s username false) s := by
  refine wp_unchanged keeps_utcNow (fun _ => ends_error h) fun now _ => ?_
  exact h.wp_insertAccount hfree (fun _ => hname) rfl

/-- An account that may not have a reserved name keeps the rules. -/
theorem AccountMade.keeps (name : String) {p : OnConnection User}
    (hp : ∀ s, NamesOk P [] s → p.Wp accountMachine (AccountMade P s name false) s) :
    p.Keeps accountMachine (NamesOk P []) fun _ => True := by
  intro s hs
  refine (hp s hs).mono ?_
  intro r s' hr
  cases r with
  | ok u =>
      obtain ⟨hcreated, hname⟩ := hr.ok u rfl
      exact ⟨hcreated.namesOk hs (hname rfl), fun _ _ => trivial⟩
  | error e => exact ⟨hr.error e rfl, fun _ _ => trivial⟩

/-- Where reserved names are not allowed, the names stay in order. -/
theorem keeps_createUserWithRole (lib : Library) (input : CreateUserWithRole)
    (hallow : input.allowReservedLinuxdoUsername = false) :
    (createUserWithRole lib input).Keeps accountMachine (NamesOk P []) fun _ => True := by
  refine AccountMade.keeps input.username fun s hs => ?_
  rw [← hallow]
  exact hs.wp_createUserWithRole lib input

/-- So they do for the accounts of registration and setup. -/
theorem keeps_createUserWithOptions (lib : Library)
    (publicUuid username email password : String) (role : UserRole) (status : UserStatus)
    (mustChange : Bool) :
    (createUserWithOptions lib publicUuid username email password role status
      mustChange).Keeps accountMachine (NamesOk P []) fun _ => True := by
  refine AccountMade.keeps username fun s hs => ?_
  have herr : ∀ e, AccountMade P s username false (.error e) s := fun _ => ends_error hs
  refine wp_unchanged keeps_checked herr fun email _ => ?_
  refine wp_unchanged keeps_validateReserved herr fun _ hname => ?_
  refine hs.wp_ofDb_ensureUsernameAvailable (herr _) fun hfree => ?_
  refine wp_unchanged keeps_checked herr fun hash _ => ?_
  exact hs.wp_userCreateWithOptions _ _ _ _ _ _ _ hfree hname

/-- And for an administrator's, whose name was checked before. -/
theorem keeps_adminCreateUserTxn (input : AdminCreateUser)
    (hname : isReservedLinuxdoProfileName (trim input.username) = false) :
    (adminCreateUserTxn input).Keeps accountMachine (NamesOk P []) fun _ => True := by
  refine AccountMade.keeps (trim input.username) fun s hs => ?_
  refine hs.wp_ofDb_ensureUsernameAvailable (ends_error hs) fun hfree => ?_
  exact hs.wp_userCreateWithOptions _ _ _ _ _ _ _ hfree hname

/-- A quiet statement. -/
theorem keeps_quiet {i : AccountStmt} (hi : i.quiet = true) :
    (onConn i).Keeps accountMachine (NamesOk P ties) fun _ => True :=
  keeps_stmt (M := accountMachine) (fun _ hs => hs.quiet hi) fun _ _ => trivial

/-- Finding a user changes no name. -/
theorem keeps_userFindById (id : Nat) :
    (ofDb (userFindById id)).Keeps accountMachine (NamesOk P ties) fun _ => True :=
  keeps_ofService ((quiet_userFindById id).keeps (stable_namesOk P ties))

/-! ## Invitations -/

/-- Nor does finding an invitation. -/
theorem keeps_invitationFindById (id : Nat) :
    (invitationFindById id).Keeps accountMachine (NamesOk P ties) fun _ => True :=
  (keeps_quiet rfl).bind fun _ _ => keeps_required.mono fun _ _ => trivial

/-- Nor does the error about its status. -/
theorem keeps_currentInvitationStatusError (id : Nat) :
    (currentInvitationStatusError id : OnConnection α).Keeps accountMachine (NamesOk P ties)
      R :=
  (keeps_invitationFindById id).bind fun _ _ => keeps_err _

/-- Nor does marking it as expired. -/
theorem keeps_refreshExpiredStatus (invitation : Invitation) :
    (refreshExpiredStatus invitation).Keeps accountMachine (NamesOk P ties)
      fun _ => True := by
  unfold refreshExpiredStatus
  split
  · refine keeps_utcNow.bind fun now _ => ?_
    split
    · refine (keeps_quiet rfl).bind fun marked _ => ?_
      cases marked with
      | true => exact keeps_ok trivial
      | false => exact keeps_invitationFindById _
    · exact keeps_ok trivial
  · exact keeps_ok trivial

/-- Nor does the check of its expiry. -/
theorem keeps_ensureInvitationNotExpired (invitation : Invitation) :
    (ensureInvitationNotExpired invitation).Keeps accountMachine (NamesOk P ties)
      fun _ => True := by
  refine keeps_utcNow.bind fun now _ => ?_
  split
  · exact keeps_ok trivial
  · refine (keeps_quiet rfl).bind fun marked _ => ?_
    cases marked with
    | true => exact keeps_err _
    | false => exact keeps_currentInvitationStatusError _

/-- An invited user never gets a reserved name. -/
theorem keeps_acceptInvitationTxn (lib : Library)
    (checkLocalEmail : String → Except AsterError Unit) (input : AcceptInvitation) :
    (acceptInvitationTxn lib checkLocalEmail input).Keeps accountMachine (NamesOk P [])
      fun _ => True := by
  refine (keeps_quiet rfl).bind fun found _ => keeps_required.bind fun _ _ => ?_
  refine (keeps_refreshExpiredStatus _).bind fun invitation _ => ?_
  refine Keeps.bind keeps_rejectIf fun _ _ => ?_
  refine (keeps_ensureInvitationNotExpired _).bind fun _ _ => keeps_checked.bind fun _ _ => ?_
  refine (keeps_quiet rfl).bind fun taken _ => Keeps.bind keeps_rejectIf fun _ _ => ?_
  refine keeps_utcNow.bind fun now _ => ?_
  refine (keeps_createUserWithRole lib _ rfl).bind fun user _ => ?_
  refine (keeps_quiet rfl).bind fun marked _ => ?_
  cases marked with
  | true => exact keeps_ok trivial
  | false => exact keeps_currentInvitationStatusError _

/-! ## Identities -/

/-- Linking an identity changes no name. -/
theorem keeps_createIdentityForClaims (userId : Nat) (provider : Provider)
    (claims : UserClaims) (now : Nat) (metadata : Option String) :
    (createIdentityForClaims userId provider claims now metadata).Keeps accountMachine
      (NamesOk P ties) fun _ => True :=
  (keeps_quiet rfl).bind fun _ _ => keeps_required.mono fun _ _ => trivial

/-- Nor does a login with it. -/
theorem keeps_loginWithIdentity (identity : Identity) (claims : UserClaims)
    (metadata : Option String) (now : Nat) :
    (loginWithIdentity identity claims metadata now).Keeps accountMachine (NamesOk P ties)
      fun _ => True := by
  refine (keeps_quiet rfl).bind fun _ _ => (keeps_userFindById _).bind fun _ _ => ?_
  exact Keeps.bind keeps_rejectIf fun _ _ => keeps_ok trivial

/-- Nor does finding its user. -/
theorem keeps_resolveExistingIdentity (claims : UserClaims) (now : Nat)
    (metadata : Option String) :
    (resolveExistingIdentity claims now metadata).Keeps accountMachine (NamesOk P ties)
      fun _ => True := by
  refine (keeps_quiet rfl).bind fun found _ => ?_
  cases found with
  | none => exact keeps_ok trivial
  | some identity =>
      exact (keeps_loginWithIdentity _ _ _ _).bind fun _ _ => keeps_ok trivial

/-- Nor does linking it to a user who is there. -/
theorem keeps_linkIdentity (provider : Provider) (claims : UserClaims) (user : User)
    (now : Nat) :
    (linkIdentityToAuthenticatedUser provider claims user now).Keeps accountMachine
      (NamesOk P ties) fun _ => True := by
  refine (keeps_quiet rfl).bind fun found _ => ?_
  cases found with
  | some identity =>
      refine Keeps.bind keeps_rejectIf fun _ _ => ?_
      exact (keeps_quiet rfl).bind fun _ _ => keeps_ok trivial
  | none =>
      exact (keeps_createIdentityForClaims _ _ _ _ _).bind fun _ _ => keeps_ok trivial

/-- Attempts one after the other. -/
theorem wp_retry {S : Signature} {M : Machine S} {J : M.State → Prop}
    {Q : α → M.State → Prop} {attempt : Nat → Prog S ServiceError α}
    (h : ∀ n s, J s → (attempt n).Wp M (Ends J Q) s) (attempts : List Nat) {s : M.State}
    (hs : J s) : (retryOnUsernameConflict attempt attempts).Wp M (Ends J Q) s := by
  induction attempts generalizing s with
  | nil => exact ends_error hs
  | cons n rest ih =>
      refine wp_bind.mpr (wp_attempt.mpr ((h n s hs).mono ?_))
      intro r s' hr
      cases r with
      | ok a => exact hr
      | error e =>
          change Wp M _ (if usernameConflict e then _ else _) s'
          split
          · exact ih (hr.error e rfl)
          · exact hr

/-- Attempts that keep an invariant keep it together. -/
theorem keeps_retry {S : Signature} {M : Machine S} {J : M.State → Prop}
    {attempt : Nat → Prog S ServiceError α}
    (h : ∀ n, (attempt n).Keeps M J fun _ => True) (attempts : List Nat) :
    (retryOnUsernameConflict attempt attempts).Keeps M J fun _ => True := by
  intro s hs
  have hattempt : ∀ n s, J s → (attempt n).Wp M (Ends J fun _ => J) s := by
    intro n s hs
    exact (h n s hs).mono fun r s' hr => ⟨fun _ _ => hr.1, fun _ _ => hr.1⟩
  refine (wp_retry hattempt attempts hs).mono fun r s' hr => ⟨?_, fun _ _ => trivial⟩
  cases r with
  | ok a => exact hr.ok a rfl
  | error e => exact hr.error e rfl

/-- A provider other than LinuxDO has no leave for reserved names. -/
theorem keeps_createUserAndIdentityInConnection (lib : Library) (ctx : ProvisionContext)
    {provider : Provider} (claims : UserClaims) (now : Nat)
    (hkind : provider.kind ≠ .linuxDo) :
    (createUserAndIdentityInConnection lib ctx provider claims now).Keeps accountMachine
      (NamesOk P []) fun _ => True := by
  refine keeps_checked.bind fun _ _ => keeps_required.bind fun email _ => ?_
  refine keeps_checked.bind fun _ _ => (keeps_quiet rfl).bind fun existing _ => ?_
  refine Keeps.bind keeps_rejectIf fun _ _ => keeps_retry (fun attempt => ?_) _
  have haccount : (provisionedAccount ctx provider (usernameCandidateForProvider ctx
      provider claims (externalAuthUsernameBase lib claims) attempt) email (some now)
      attempt).allowReservedLinuxdoUsername = false := decide_eq_false hkind
  refine (keeps_createUserWithRole lib _ haccount).bind fun user _ => ?_
  exact (keeps_createIdentityForClaims _ _ _ _ _).bind fun _ _ => keeps_ok trivial

/-- An account behind a confirmed address, of another provider than LinuxDo, has no reserved
name. -/
theorem keeps_resolveWithVerifiedEmail (lib : Library) (ctx : ProvisionContext)
    {provider : Provider} (claims : UserClaims) (now : Nat)
    (hkind : provider.kind ≠ .linuxDo) :
    (resolveWithVerifiedEmail lib ctx provider claims now).Keeps accountMachine (NamesOk P [])
      fun _ => True := by
  refine keeps_required.bind fun email _ => keeps_checked.bind fun _ _ => ?_
  refine (keeps_quiet rfl).bind fun found _ => ?_
  cases found with
  | some identity => exact keeps_loginWithIdentity _ _ _ _
  | none =>
      refine (keeps_quiet rfl).bind fun existing _ => ?_
      cases existing with
      | some user =>
          refine Keeps.bind keeps_rejectIf fun _ _ => Keeps.bind keeps_rejectIf fun _ _ => ?_
          exact (keeps_createIdentityForClaims _ _ _ _ _).bind fun _ _ => keeps_ok trivial
      | none =>
          exact (keeps_createUserAndIdentityInConnection lib ctx claims now hkind).bind
            fun _ _ => keeps_ok trivial

/-- A Minecraft binding makes no account. -/
theorem keeps_applyBindingTxn (input : ApplyBinding) :
    (applyBindingTxn input).Keeps accountMachine (NamesOk P ties) fun _ => True := by
  refine keeps_utcNow.bind fun now _ => Keeps.bind (R := fun _ => True) ?_ fun out _ => ?_
  · refine (keeps_quiet rfl).bind fun found _ => ?_
    cases found with
    | some identity =>
        refine Keeps.bind keeps_rejectIf fun _ _ => ?_
        exact (keeps_quiet rfl).bind fun _ _ => keeps_ok trivial
    | none =>
        refine (keeps_quiet rfl).bind fun other _ => ?_
        cases other with
        | some identity => exact keeps_err _
        | none =>
            refine (keeps_quiet rfl).bind fun row _ => ?_
            exact keeps_required.bind fun _ _ => keeps_ok trivial
  · refine (keeps_ofService (keeps_ensureMinecraftProfile _ _ _ _ _)).bind fun out _ => ?_
    exact keeps_ok trivial

/-! ## The account of a LinuxDO login -/

/-- What an identity insert does. -/
theorem exec_identityCreate (input : CreateIdentity) (s : AccountState) :
    LinksKept s ((AccountStmt.identityCreate input).exec s).2 ∧
      ((AccountStmt.identityCreate input).exec s).2.service = s.service ∧
      ∀ x, ((AccountStmt.identityCreate input).exec s).1 = some x →
        x ∈ ((AccountStmt.identityCreate input).exec s).2.identities.rows ∧
          x = newIdentity s.identities.seq input := by
  simp only [AccountStmt.exec]
  split
  · split
    · next identities hinsert =>
        obtain ⟨hrows, -, -, -⟩ := Table.insert?_eq_some hinsert
        refine ⟨.of_rows (fun x hx => ?_) (fun f hf => ⟨f, hf, rfl⟩) rfl, rfl, fun x hx => ?_⟩
        · have hx' : x ∈ identities.rows := by
            rw [hrows]
            exact List.mem_append_left _ hx
          exact ⟨x, hx', rfl, rfl, rfl⟩
        · cases hx
          refine ⟨?_, rfl⟩
          change newIdentity _ input ∈ identities.rows
          rw [hrows]
          exact List.mem_append_right _ (List.mem_singleton_self _)
    · exact ⟨.of_rows (fun x hx => ⟨x, hx, rfl, rfl, rfl⟩) (fun f hf => ⟨f, hf, rfl⟩) rfl, rfl,
        fun _ h => by cases h⟩
  · exact ⟨.of_rows (fun x hx => ⟨x, hx, rfl, rfl, rfl⟩) (fun f hf => ⟨f, hf, rfl⟩) rfl, rfl,
      fun _ h => by cases h⟩

/-- A link that is stored may be remembered. -/
theorem NamesOk.tie {userId : Nat} {subject : String} (h : NamesOk P ties s)
    (hlink : Linked s userId subject) : NamesOk P ((userId, subject) :: ties) s := by
  refine { h with ties := fun t ht => ?_ }
  rcases List.mem_cons.mp ht with rfl | ht
  · exact Or.inl hlink
  · exact h.ties t ht

/-- And forgotten again. -/
theorem NamesOk.untie (h : NamesOk P ties s) : NamesOk P [] s :=
  { h with ties := fun _ ht => absurd ht List.not_mem_nil }

/-- An account that was inserted and is now linked keeps the rules. -/
theorem Created.linked {name subject : String} {u : User} {s₁ s₂ : AccountState}
    (hc : Created s name u s₁) (h : NamesOk P [] s) (hkept : LinksKept s₁ s₂)
    (hservice : s₂.service = s₁.service) (hlink : Linked s₂ u.id subject)
    (hname : isReservedLinuxdoProfileName name = true → name = linuxdoUsername subject) :
    NamesOk P [(u.id, subject)] s₂ := by
  obtain ⟨input, hinput, hs₁⟩ := hc.inserted
  subst hinput
  rw [hs₁] at hkept hservice
  refine NamesOk.tie (h.userCreate hc.free hkept hservice fun hres => ?_) hlink
  exact ⟨subject, hc.id ▸ hlink, hname hres⟩

/-- The link of a new LinuxDO account. -/
theorem Created.wp_link {name : String} {u : User} {s₁ : AccountState}
    (hc : Created s name u s₁) (h : NamesOk P [] s) (provider : Provider)
    (claims : UserClaims) (now : Nat) (metadata : Option String)
    (hspace : claims.identityNamespace = linuxdoIdentityNamespace)
    (hname : isReservedLinuxdoProfileName name = true →
      name = linuxdoUsername claims.subject) :
    (createIdentityForClaims u.id provider claims now metadata).Wp accountMachine
      (OnSuccess fun _ s' => NamesOk P [(u.id, claims.subject)] s') s₁ := by
  let input : CreateIdentity :=
    ⟨u.id, provider.id, claims.identityNamespace, claims.subject, claims.email,
      claims.displayName, metadata, now⟩
  obtain ⟨hkept, hservice, hrow⟩ := exec_identityCreate input s₁
  refine wp_stmt_bind.mpr ?_
  cases hreply : (accountMachine.exec (.identityCreate input) s₁).1 with
  | none => exact onSuccess_error _
  | some x =>
      obtain ⟨hx, hnew⟩ := hrow x hreply
      have hlink : Linked ((AccountStmt.identityCreate input).exec s₁).2 u.id
          claims.subject := by
        refine ⟨x, hx, ?_⟩
        rw [hnew]
        exact ⟨rfl, hspace, rfl⟩
      exact fun _ _ => hc.linked h hkept hservice hlink hname

/-- **The transaction that creates a LinuxDO account** links it to its subject,
and so it may take the reserved name. -/
theorem NamesOk.wp_provisionWithoutEmail (h : NamesOk P [] s) (lib : Library)
    (input : ProvisionWithoutEmail)
    (hspace : input.claims.identityNamespace = linuxdoIdentityNamespace)
    (hname : isReservedLinuxdoProfileName input.account.username = true →
      input.account.username = linuxdoUsername input.claims.subject) :
    (provisionWithoutEmailTxn lib input).Wp accountMachine
      (OnSuccess fun u s' => NamesOk P [(u.id, input.claims.subject)] s') s := by
  have hmade : (createUserWithoutEmailWithRole lib input.account).Wp accountMachine
      (OnSuccess fun u s₁ => Created s input.account.username u s₁) s := by
    exact (h.wp_createUserWithoutEmail lib input.account).mono
      fun r s₁ hr u hu => (hr.ok u hu).1
  refine Wp.bind_success hmade fun u s₁ hcreated => ?_
  have hlinked := hcreated.wp_link h input.provider input.claims input.now input.metadata
    hspace hname
  exact Wp.bind_success hlinked fun _ s' hs' => wp_ok_success hs'

end Connection

/-! ## Steps of external login -/

section External

variable {α : Type} {lib : Library} {P : Table providerSchema}
  {ties : List (Nat × String)} {s : AccountState} {I : AccountState → Prop} {R : α → Prop}

/-- What a connection keeps, the call keeps. -/
theorem keeps_onDb {p : OnConnection α} (hp : p.Keeps accountMachine I R) :
    (onDb p).Keeps (externalMachine lib) I R := Keeps.hoist hp

/-- What holds when a transaction succeeds, and held before, holds after it. -/
theorem AccountTxn.commit_ends {t : AccountTxn} {Q : t.Result → AccountState → Prop}
    (hs : I s) (h : (t.body lib).Wp accountMachine (OnSuccess Q) s) :
    Ends I Q (t.commit lib s).1 (t.commit lib s).2 := by
  unfold AccountTxn.commit
  unfold Wp at h
  generalize (t.body lib).run accountMachine s = out at h ⊢
  obtain ⟨result, s'⟩ := out
  cases result with
  | ok a => exact ends_ok (h a rfl)
  | error e => exact ends_error hs

/-- A transaction ends as its body does, or fails and changes nothing. -/
theorem wp_withTxn {t : AccountTxn} {Q : t.Result → AccountState → Prop} (hs : I s)
    (h : (t.body lib).Wp accountMachine (OnSuccess Q) s) :
    (withTxn t).Wp (externalMachine lib) (Ends I Q) s := by
  have hends := AccountTxn.commit_ends hs h
  refine wp_stmt_bind.mpr ?_
  cases hresult : ((externalMachine lib).exec (.txn t) s).1 with
  | ok a =>
      have hcommit : (t.commit lib s).1 = .ok a := hresult
      rw [hcommit] at hends
      exact hends
  | error e =>
      have hcommit : (t.commit lib s).1 = .error e := hresult
      rw [hcommit] at hends
      exact hends

/-- A transaction whose body keeps the invariant keeps it. -/
theorem keeps_withTxn {t : AccountTxn} {R : t.Result → Prop}
    (hbody : (t.body lib).Keeps accountMachine I R) :
    (withTxn t).Keeps (externalMachine lib) I fun _ => True := by
  intro s hs
  have hsuccess : (t.body lib).Wp accountMachine (OnSuccess fun _ => I) s :=
    (hbody s hs).mono fun _ _ hr _ _ => hr.1
  refine (wp_withTxn hs hsuccess).mono fun r s' hr => ⟨?_, fun _ _ => trivial⟩
  cases r with
  | ok a => exact hr.ok a rfl
  | error e => exact hr.error e rfl

/-- A provisioned account keeps the names in order. -/
theorem keeps_txn_provision (input : ProvisionAttempt)
    (hallow : input.account.allowReservedLinuxdoUsername = false) :
    (withTxn (.provision input)).Keeps (externalMachine lib) (NamesOk P [])
      fun _ => True := by
  refine keeps_withTxn (R := fun _ => True) ?_
  refine (keeps_quiet rfl).bind fun existing _ => Keeps.bind keeps_rejectIf fun _ _ => ?_
  refine (keeps_createUserWithRole lib _ hallow).bind fun user _ => ?_
  exact (keeps_createIdentityForClaims _ _ _ _ _).bind fun _ _ => keeps_ok trivial

/-- Consuming a confirmation changes no name. -/
theorem keeps_consumeEmailFlow (flowId now : Nat) (message : String) :
    (consumeEmailFlow flowId now message).Keeps accountMachine (NamesOk P ties)
      fun _ => True :=
  (keeps_quiet rfl).bind fun _ _ => keeps_rejectIf.mono fun _ _ => trivial

/-- The transaction behind a confirmed address. -/
theorem keeps_txn_confirmEmail (ctx : ProvisionContext) {provider : Provider}
    (claims : UserClaims) (flowId now : Nat) (hkind : provider.kind ≠ .linuxDo) :
    (withTxn (.confirmEmail ctx provider claims flowId now)).Keeps (externalMachine lib)
      (NamesOk P []) fun _ => True :=
  keeps_withTxn ((keeps_consumeEmailFlow _ _ _).bind fun _ _ =>
    keeps_resolveWithVerifiedEmail lib ctx claims now hkind)

/-- And the one that links by password. -/
theorem keeps_txn_passwordLink (provider : Provider) (claims : UserClaims) (user : User)
    (flowId now : Nat) :
    (withTxn (.passwordLink provider claims user flowId now)).Keeps (externalMachine lib)
      (NamesOk P []) fun _ => True :=
  keeps_withTxn ((keeps_consumeEmailFlow _ _ _).bind fun _ _ => keeps_linkIdentity _ _ _ _)

/-! ## Logging in -/

/-- A provider that is read comes from the table. -/
theorem keeps_providerFindById (id : Nat) :
    (providerFindById id).Keeps accountMachine (NamesOk P ties)
      fun p => p ∈ P.rows ∧ p.id = id := by
  refine Keeps.bind (R := fun found => ∀ p, found = some p → p ∈ P.rows ∧ p.id = id)
    (keeps_stmt (M := accountMachine) (fun s hs => hs) fun s hs p hp => ?_)
    fun found hfound => keeps_required.mono fun p hp => hfound p hp
  obtain ⟨hmem, hid⟩ := Table.of_find? hp
  have hrow : p ∈ s.providers.rows := hmem
  rw [hs.providers] at hrow
  exact ⟨hrow, of_decide_eq_true hid⟩

/-- The checks of a callback change nothing. -/
theorem keeps_ensureCallbackProvider (req : CallbackRequest) (provider : Provider)
    (kindMessage keyMessage : String) :
    (ensureCallbackProvider lib req provider kindMessage keyMessage).Keeps accountMachine I
      fun _ => True := by
  refine Keeps.bind keeps_rejectIf fun _ _ => ?_
  cases req.providerKey with
  | none => exact keeps_ok trivial
  | some key => exact keeps_checked.bind fun _ _ => keeps_rejectIf.mono fun _ _ => trivial

/-- Nor does the check that the provider allows logins. -/
theorem keeps_ensureLoginAllowed (provider : Provider) :
    (ensureLoginAllowed provider).Keeps accountMachine I fun _ => True :=
  Keeps.bind keeps_rejectIf fun _ _ => keeps_rejectIf.mono fun _ _ => trivial

/-- Consuming a login flow yields a provider of the site. -/
theorem keeps_consumeCallback (req : CallbackRequest) :
    (consumeCallback lib req).Keeps accountMachine (NamesOk P ties)
      fun out => out.2.2 ∈ P.rows := by
  refine keeps_checked.bind fun params _ => keeps_utcNow.bind fun now _ => ?_
  refine Keeps.bind (R := fun _ => True) ?_ fun found _ => ?_
  · refine (keeps_quiet rfl).bind fun found _ => ?_
    cases found with
    | none => exact keeps_ok trivial
    | some flow => exact (keeps_quiet rfl).bind fun _ _ => keeps_ok trivial
  · refine keeps_required.bind fun flow _ => ?_
    refine (keeps_providerFindById _).bind fun provider hprovider => ?_
    refine (keeps_ensureCallbackProvider _ _ _ _).bind fun _ _ => ?_
    exact (keeps_ensureLoginAllowed _).bind fun _ _ => keeps_ok hprovider.1

/-- LinuxDO vouches for a number in its own namespace, and for no email. -/
theorem exchangeClaims_linuxdo {ctx : CallbackContext} {code : String} {flow : LoginFlow}
    {provider : Provider} {out : UserClaims × Option String}
    (h : exchangeClaims ctx code flow provider = .ok out) (hkind : provider.kind = .linuxDo) :
    ∃ info, out.1 = linuxdoClaims info := by
  unfold exchangeClaims at h
  rw [if_pos hkind] at h
  obtain ⟨info, -, h⟩ := except_bind_ok h
  obtain ⟨_, -, h⟩ := except_bind_ok h
  cases h
  exact ⟨info, rfl⟩

/-- A flow for another provider than LinuxDO. -/
theorem keeps_createPendingEmailFlow (token : String) {provider : Provider}
    (claims : UserClaims) (returnPath : Option String) (hmem : provider ∈ P.rows)
    (hkind : provider.kind ≠ .linuxDo) :
    (createPendingEmailFlow lib token provider claims returnPath).Keeps accountMachine
      (NamesOk P ties) fun _ => True := by
  refine keeps_utcNow.bind fun now _ => ?_
  refine Keeps.bind (R := fun _ => True) (keeps_stmt (M := accountMachine)
    (fun s hs => hs.emailFlowCreate fun p hp hid => ?_) fun _ _ => trivial) fun row _ => ?_
  · rw [P.eq_of_ident hp hmem hid]
    exact hkind
  · exact keeps_required.bind fun _ _ => keeps_ok trivial

/-- **A LinuxDO login without an account creates one** and is tied to it. -/
theorem NamesOk.wp_resolveWithoutEmail (h : NamesOk P [] s) (ctx : ProvisionContext)
    {provider : Provider} (info : LinuxDoUserInfo) (metadata : Option String)
    (hkind : provider.kind = .linuxDo) :
    (resolveWithoutEmail lib ctx provider (linuxdoClaims info) metadata).Wp
      (externalMachine lib) (Ends (NamesOk P [])
        fun resolved s' => NamesOk P [(resolved.user.id, toString info.id)] s') s := by
  have hsubject : Digits (linuxdoClaims info).subject.toList := digits_toString info.id
  refine (keeps_onDb keeps_utcNow).wp_bind h (fun _ _ => ends_error) fun now s₁ h₁ _ => ?_
  refine (keeps_onDb keeps_checked).wp_bind h₁ (fun _ _ => ends_error) fun _ s₂ h₂ _ => ?_
  refine wp_ends_bind (Q := fun u s' => NamesOk P [(u.id, toString info.id)] s') ?_ ?_
  · refine wp_retry (M := externalMachine lib) (fun n s hs => ?_) _ h₂
    refine wp_withTxn (t := .provisionWithoutEmail _) hs ?_
    refine hs.wp_provisionWithoutEmail lib _ rfl ?_
    exact fun hres => usernameCandidate_reserved hkind hsubject hres
  · exact fun u s' hu => ends_ok hu

/-- The LinuxDo profile at a login is the one of the linked subject. -/
theorem keeps_maybeAutoCreate (ctx : CallbackContext) (provider : Provider)
    (resolved : ResolvedUser) (claims : UserClaims) (hsubject : Digits claims.subject.toList)
    (htie : (resolved.user.id, claims.subject) ∈ ties) :
    (maybeAutoCreateLinuxdoProfile ctx provider resolved claims).Keeps (externalMachine lib)
      (NamesOk P ties) fun _ => True := by
  unfold maybeAutoCreateLinuxdoProfile
  split
  · exact keeps_ok trivial
  · cases claims.preferredUsername with
    | none => exact keeps_ok trivial
    | some username =>
        have hprofile : (onDb (ofService (createProfileForExternalAuth ctx.profile
            resolved.user.id resolved.user.role username
            (some ("linuxdo_" ++ claims.subject))))).Keeps (externalMachine lib)
            (NamesOk P ties) fun _ => True :=
          keeps_onDb (keeps_ofService
            (keeps_createProfileForExternalAuth _ _ _ _ hsubject htie))
        exact hprofile.attempt.bind fun _ _ => keeps_ok trivial

/-- A login without an address keeps the names in order, at LinuxDo with the claims that
LinuxDo sends. -/
theorem keeps_finishWithoutEmail (ctx : CallbackContext) (flow : LoginFlow)
    {provider : Provider} {claims : UserClaims} (metadata : Option String)
    (hmem : provider ∈ P.rows)
    (hclaims : provider.kind = .linuxDo → ∃ info, claims = linuxdoClaims info) :
    (finishWithoutEmail lib ctx flow provider claims metadata).Keeps (externalMachine lib)
      (NamesOk P []) fun _ => True := by
  refine (keeps_onDb keeps_utcNow).bind fun now _ => ?_
  refine (keeps_onDb (keeps_resolveExistingIdentity _ _ _)).bind fun found _ => ?_
  cases found with
  | some resolved => exact keeps_ok trivial
  | none =>
      dsimp only
      split
      · next hkind =>
          obtain ⟨info, rfl⟩ := hclaims hkind
          intro s hs
          refine wp_bind.mpr ?_
          refine (hs.wp_resolveWithoutEmail ctx.provision info metadata hkind).mono ?_
          intro r s₁ hr
          cases r with
          | error e => exact ⟨hr.error e rfl, fun _ h => by cases h⟩
          | ok resolved =>
              have htied := hr.ok resolved rfl
              have hauto : (maybeAutoCreateLinuxdoProfile ctx provider resolved
                  (linuxdoClaims info)).Keeps (externalMachine lib)
                  (NamesOk P [(resolved.user.id, toString info.id)]) fun _ => True :=
                keeps_maybeAutoCreate ctx provider resolved (linuxdoClaims info)
                  (digits_toString info.id) (List.mem_singleton_self _)
              refine hauto.wp_bind htied (fun e s' h => ⟨h.untie, fun _ h => by cases h⟩) ?_
              exact fun _ s' h _ => ⟨h.untie, fun _ _ => trivial⟩
      · next hkind =>
          refine (keeps_onDb keeps_rejectIf).bind fun _ _ => ?_
          exact keeps_onDb (keeps_createPendingEmailFlow _ _ _ hmem hkind)

/-- A new account of another provider has no reserved name. -/
theorem keeps_createUserAndIdentity (ctx : ProvisionContext) {provider : Provider}
    (claims : UserClaims) (now : Nat) (metadata : Option String) (options : ResolveOptions)
    (hkind : provider.kind ≠ .linuxDo) :
    (createUserAndIdentity lib ctx provider claims now metadata options).Keeps
      (externalMachine lib) (NamesOk P []) fun _ => True := by
  refine (keeps_onDb keeps_checked).bind fun _ _ => ?_
  refine (keeps_onDb keeps_required).bind fun email _ => ?_
  refine (keeps_onDb keeps_rejectIf).bind fun _ _ => ?_
  extract_lets base rest
  have hrest : ∀ u, (rest u).Keeps (externalMachine lib) (NamesOk P []) fun _ => True := by
    intro u
    refine (keeps_retry (fun attempt => ?_) _).bind fun _ _ => keeps_ok trivial
    exact keeps_txn_provision _ (decide_eq_false hkind)
  split
  · exact (keeps_onDb keeps_checked).bind fun u _ => hrest u
  · exact hrest ()

/-- Looking for a user to link changes nothing. -/
theorem keeps_autoLinkCandidate (provider : Provider) (claims : UserClaims)
    (options : ResolveOptions) :
    (autoLinkCandidate provider claims options).Keeps (externalMachine lib) (NamesOk P ties)
      fun _ => True := by
  unfold autoLinkCandidate
  split
  · cases claims.email with
    | none => exact keeps_ok trivial
    | some email => exact keeps_onDb (keeps_quiet rfl)
  · exact keeps_ok trivial

/-- Provisioning by another provider keeps the names in order. -/
theorem keeps_autoProvision (ctx : ProvisionContext) {provider : Provider}
    (claims : UserClaims) (now : Nat) (metadata : Option String) (options : ResolveOptions)
    (hkind : provider.kind ≠ .linuxDo) :
    (autoProvision lib ctx provider claims now metadata options).Keeps (externalMachine lib)
      (NamesOk P []) fun _ => True := by
  unfold autoProvision
  split
  · exact keeps_ok trivial
  · split
    · exact keeps_ok trivial
    · split
      · exact keeps_ok trivial
      · refine (keeps_onDb (keeps_quiet rfl)).bind fun existing _ => ?_
        split
        · exact keeps_ok trivial
        · exact (keeps_createUserAndIdentity ctx claims now metadata options hkind).bind
            fun _ _ => keeps_ok trivial

/-- So does finding or making the user of a login. -/
theorem keeps_resolveExternalAuthUser (ctx : ProvisionContext) {provider : Provider}
    (claims : UserClaims) (metadata : Option String) (hkind : provider.kind ≠ .linuxDo) :
    (resolveExternalAuthUser lib ctx provider claims metadata).Keeps (externalMachine lib)
      (NamesOk P []) fun _ => True := by
  refine (keeps_onDb keeps_utcNow).bind fun now _ => ?_
  refine (keeps_onDb (keeps_quiet rfl)).bind fun found _ => ?_
  cases found with
  | some identity =>
      exact (keeps_onDb (keeps_loginWithIdentity _ _ _ _)).bind fun _ _ => keeps_ok trivial
  | none =>
      refine (keeps_onDb keeps_checked).bind fun _ _ => ?_
      extract_lets rest
      have hrest : ∀ u, (rest u).Keeps (externalMachine lib) (NamesOk P []) fun _ => True := by
        intro u
        refine (keeps_autoLinkCandidate _ _ _).bind fun candidate _ => ?_
        cases candidate with
        | some user =>
            refine (keeps_onDb keeps_rejectIf).bind fun _ _ => ?_
            exact (keeps_onDb (keeps_createIdentityForClaims _ _ _ _ _)).bind
              fun _ _ => keeps_ok trivial
        | none =>
            dsimp only
            split
            · exact keeps_autoProvision ctx claims now metadata _ hkind
            · exact keeps_ok trivial
      split
      · exact (keeps_onDb keeps_checked).bind fun u _ => hrest u
      · exact hrest ()

/-- So does the end of a login with an address. -/
theorem keeps_finishWithEmail (ctx : CallbackContext) (flow : LoginFlow)
    {provider : Provider} {claims : UserClaims} (metadata : Option String)
    (hmem : provider ∈ P.rows) (hkind : provider.kind ≠ .linuxDo) :
    (finishWithEmail lib ctx flow provider claims metadata).Keeps (externalMachine lib)
      (NamesOk P []) fun _ => True := by
  refine (keeps_resolveExternalAuthUser _ _ _ hkind).bind fun resolved _ => ?_
  cases resolved with
  | none => exact keeps_onDb (keeps_createPendingEmailFlow _ _ _ hmem hkind)
  | some resolved =>
      have hskip : maybeAutoCreateLinuxdoProfile ctx provider resolved claims = .ok () := by
        simp [maybeAutoCreateLinuxdoProfile, hkind]
      dsimp only
      rw [hskip]
      exact keeps_ok trivial

/-- **A callback keeps the rules**, whatever the provider answers. -/
theorem keeps_finishCallback (ctx : CallbackContext) (req : CallbackRequest) :
    (finishCallback lib ctx req).Keeps (externalMachine lib) (NamesOk P [])
      fun _ => True := by
  refine (keeps_onDb (keeps_consumeCallback req)).bind fun out hmem => ?_
  obtain ⟨code, flow, provider⟩ := out
  refine (keeps_onDb keeps_checked).bind fun exchanged hexchange => ?_
  obtain ⟨claims, metadata⟩ := exchanged
  have hclaims := exchangeClaims_linuxdo hexchange
  dsimp only
  split
  · exact keeps_finishWithoutEmail ctx flow metadata hmem hclaims
  · next hemail =>
      refine keeps_finishWithEmail ctx flow metadata hmem fun hkind => hemail ?_
      obtain ⟨info, hinfo⟩ := hclaims hkind
      rw [show claims = linuxdoClaims info from hinfo]
      rfl

/-! ## The other flows -/

/-- Finding a provider changes nothing. -/
theorem keeps_findProvider (kind : ProviderKind) (key : String) :
    (findProvider kind key).Keeps accountMachine (NamesOk P ties) fun _ => True := by
  refine (keeps_quiet rfl).bind fun found _ => ?_
  cases found with
  | some provider => exact keeps_ok trivial
  | none =>
      dsimp only
      split
      · refine (keeps_quiet rfl).bind fun enabled _ => ?_
        match enabled with
        | [] => exact keeps_err _
        | [provider] => exact keeps_ok trivial
        | _ :: _ :: _ => exact keeps_err _
      · exact keeps_err _

/-- Starting a login stores a flow. -/
theorem keeps_startLogin (kind : ProviderKind) (key : String) (returnPath : Option String)
    (authorize : Provider → Except AsterError AuthorizationStart) :
    (startLogin lib kind key returnPath authorize).Keeps accountMachine (NamesOk P ties)
      fun _ => True := by
  refine keeps_checked.bind fun _ _ => (keeps_findProvider _ _).bind fun _ _ => ?_
  refine (keeps_ensureLoginAllowed _).bind fun _ _ => keeps_checked.bind fun _ _ => ?_
  refine keeps_checked.bind fun _ _ => keeps_utcNow.bind fun _ _ => ?_
  exact (keeps_quiet rfl).bind fun _ _ => keeps_required.bind fun _ _ => keeps_ok trivial

/-- Starting a binding does too. -/
theorem keeps_startMinecraftBinding (userId : Nat) (kind : ProviderKind) (key : String)
    (returnPath : Option String)
    (authorize deviceCode : Provider → Except AsterError AuthorizationStart) :
    (startMinecraftBinding lib userId kind key returnPath authorize deviceCode).Keeps
      accountMachine (NamesOk P ties) fun _ => True := by
  refine keeps_checked.bind fun _ _ => keeps_checked.bind fun _ _ => ?_
  refine (keeps_findProvider _ _).bind fun provider _ => ?_
  refine Keeps.bind keeps_rejectIf fun _ _ => keeps_checked.bind fun _ _ => ?_
  extract_lets rest
  have hrest : ∀ start, (rest start).Keeps accountMachine (NamesOk P ties) fun _ => True := by
    intro start
    refine keeps_utcNow.bind fun _ _ => (keeps_quiet rfl).bind fun _ _ => ?_
    exact keeps_required.bind fun _ _ => keeps_ok trivial
  split
  · exact keeps_checked.bind fun _ _ => hrest _
  · exact keeps_checked.bind fun _ _ => hrest _

/-- Checking an address changes no name. -/
theorem keeps_ensureEmailUsable (policy : AuthPolicy) (email : String) :
    (ensureEmailUsable policy email).Keeps accountMachine (NamesOk P ties)
      fun _ => True := by
  refine (keeps_quiet rfl).bind fun found _ => ?_
  cases found with
  | some user =>
      exact Keeps.bind keeps_rejectIf fun _ _ => keeps_rejectIf.mono fun _ _ => trivial
  | none => exact keeps_checked.mono fun _ _ => trivial

/-- Asking for a confirmation stores a token. -/
theorem keeps_startEmailVerification (policy : AuthPolicy) (newToken token email : String) :
    (startEmailVerification lib policy newToken token email).Keeps (externalMachine lib)
      (NamesOk P []) fun _ => True := by
  refine (keeps_onDb keeps_checked).bind fun _ _ => (keeps_onDb keeps_checked).bind fun _ _ => ?_
  refine (keeps_onDb keeps_utcNow).bind fun now _ => ?_
  refine (keeps_onDb (keeps_quiet rfl)).bind fun found _ => ?_
  refine (keeps_onDb keeps_required).bind fun flow _ => ?_
  refine (keeps_onDb keeps_rejectIf).bind fun _ _ => ?_
  refine (keeps_onDb (keeps_providerFindById _)).bind fun provider _ => ?_
  refine (keeps_onDb keeps_rejectIf).bind fun _ _ => (keeps_onDb keeps_checked).bind fun _ _ => ?_
  refine (keeps_onDb (keeps_ensureEmailUsable _ _)).bind fun _ _ => ?_
  refine keeps_withTxn (t := .startEmail _ _ _ _) (R := fun _ => True) ?_
  exact (keeps_quiet rfl).bind fun _ _ => keeps_rejectIf.mono fun _ _ => trivial

/-- An email flow is never one of LinuxDO. -/
theorem keeps_confirmEmailVerification (ctx : ProvisionContext) (token : String) :
    (confirmEmailVerification lib ctx token).Keeps (externalMachine lib) (NamesOk P [])
      fun _ => True := by
  refine (keeps_onDb keeps_rejectIf).bind fun _ _ => ?_
  refine (keeps_onDb keeps_utcNow).bind fun now _ => ?_
  refine Keeps.bind (keeps_onDb (keeps_stmt (M := accountMachine)
    (R := fun found => ∀ f, found = some f → ∀ p ∈ P.rows, p.id = f.providerId →
      p.kind ≠ .linuxDo) (fun s hs => hs) fun s hs f hf => ?_)) fun found hfound => ?_
  · exact hs.flows f (Table.of_find? hf).1
  refine (keeps_onDb keeps_required).bind fun flow hflow => ?_
  refine (keeps_onDb keeps_required).bind fun email _ => ?_
  refine (keeps_onDb (keeps_providerFindById _)).bind fun provider hprovider => ?_
  refine (keeps_onDb keeps_rejectIf).bind fun _ _ => ?_
  have hkind := hfound flow hflow provider hprovider.1 hprovider.2
  exact (keeps_txn_confirmEmail ctx _ _ _ hkind).bind fun _ _ => keeps_ok trivial

/-- Checking a password changes nothing. -/
theorem keeps_authenticateForLink (identifier password : String) :
    (authenticateForLink lib identifier password).Keeps accountMachine (NamesOk P ties)
      fun _ => True := by
  refine (keeps_quiet rfl).bind fun found _ => keeps_checked.bind fun valid _ => ?_
  refine Keeps.bind keeps_rejectIf fun _ _ => keeps_required.bind fun user _ => ?_
  refine Keeps.bind keeps_rejectIf fun _ _ => Keeps.bind keeps_rejectIf fun _ _ => ?_
  exact keeps_ok trivial

/-- Linking by password changes no name. -/
theorem keeps_linkWithPassword (req : PasswordLinkRequest) :
    (linkWithPassword lib req).Keeps (externalMachine lib) (NamesOk P [])
      fun _ => True := by
  refine (keeps_onDb keeps_checked).bind fun _ _ => (keeps_onDb keeps_rejectIf).bind fun _ _ => ?_
  refine (keeps_onDb keeps_rejectIf).bind fun _ _ => (keeps_onDb keeps_utcNow).bind fun _ _ => ?_
  refine (keeps_onDb (keeps_quiet rfl)).bind fun found _ => ?_
  refine (keeps_onDb keeps_required).bind fun flow _ => ?_
  refine (keeps_onDb (keeps_providerFindById _)).bind fun provider _ => ?_
  refine (keeps_onDb keeps_rejectIf).bind fun _ _ => ?_
  refine (keeps_onDb (keeps_authenticateForLink _ _)).bind fun user _ => ?_
  exact (keeps_txn_passwordLink _ _ _ _ _).bind fun _ _ => keeps_ok trivial

/-- Applying a binding gives a profile the name of its Microsoft account. -/
theorem keeps_applyMinecraftBinding (ctx : BindingContext) (provider : Provider)
    (flow : BindingFlow) (account : MinecraftAccount) :
    (applyMinecraftBinding ctx provider flow account).Keeps (externalMachine lib)
      (NamesOk P []) fun _ => True := by
  refine (keeps_onDb (keeps_userFindById _)).bind fun user _ => ?_
  exact (keeps_withTxn (t := .applyBinding _) (keeps_applyBindingTxn _)).bind
    fun _ _ => keeps_ok trivial

/-- Finishing one does no more. -/
theorem keeps_finishMinecraftBinding (ctx : BindingContext) (req : CallbackRequest) :
    (finishMinecraftBindingCallback lib ctx req).Keeps (externalMachine lib) (NamesOk P [])
      fun _ => True := by
  refine Keeps.bind (R := fun _ => True) (keeps_onDb ?_) fun out _ => ?_
  · refine keeps_checked.bind fun _ _ => keeps_checked.bind fun params _ => ?_
    refine keeps_utcNow.bind fun now _ => ?_
    refine Keeps.bind (R := fun _ => True) ?_ fun found _ => ?_
    · refine (keeps_quiet rfl).bind fun found _ => ?_
      cases found with
      | none => exact keeps_ok trivial
      | some flow => exact (keeps_quiet rfl).bind fun _ _ => keeps_ok trivial
    · refine keeps_required.bind fun flow _ => (keeps_providerFindById _).bind fun provider _ => ?_
      refine (keeps_ensureCallbackProvider _ _ _ _).bind fun _ _ => ?_
      exact Keeps.bind keeps_rejectIf fun _ _ => keeps_ok trivial
  · obtain ⟨code, flow, provider⟩ := out
    refine (keeps_onDb keeps_checked).bind fun account _ => ?_
    exact keeps_applyMinecraftBinding _ _ _ _

/-- With a device code too. -/
theorem keeps_checkDeviceCodeStatus (ctx : BindingContext) (userId : Nat)
    (deviceCode : String) :
    (checkDeviceCodeStatus lib ctx userId deviceCode).Keeps (externalMachine lib)
      (NamesOk P []) fun _ => True := by
  refine (keeps_onDb keeps_utcNow).bind fun now _ => ?_
  refine (keeps_onDb (keeps_quiet rfl)).bind fun found _ => ?_
  cases found with
  | none => exact keeps_ok trivial
  | some flow =>
      refine (keeps_onDb keeps_rejectIf).bind fun _ _ => ?_
      refine (keeps_onDb (keeps_providerFindById _)).bind fun provider _ => ?_
      refine (keeps_onDb keeps_checked).bind fun status _ => ?_
      cases status with
      | pending => exact keeps_ok trivial
      | slowDown => exact keeps_ok trivial
      | expired =>
          refine (keeps_onDb keeps_utcNow).bind fun now _ => ?_
          exact (keeps_onDb (keeps_quiet rfl)).bind fun _ _ => keeps_err _
      | authorized accessToken =>
          refine (keeps_onDb keeps_utcNow).bind fun now _ => ?_
          refine (keeps_onDb (keeps_quiet rfl)).bind fun consumed _ => ?_
          split
          · refine (keeps_onDb keeps_checked).bind fun account _ => ?_
            exact (keeps_applyMinecraftBinding _ _ _ _).bind fun _ _ => keeps_ok trivial
          · exact keeps_ok trivial

/-- **Every call of the flows** keeps the names in order. -/
theorem FlowCall.keeps_body (call : FlowCall) :
    (call.body lib).Keeps (externalMachine lib) (NamesOk P []) fun _ => True := by
  cases call with
  | startLogin kind key returnPath authorize =>
      exact (keeps_onDb (keeps_startLogin _ _ _ _)).bind fun _ _ => keeps_ok trivial
  | finishCallback ctx req =>
      exact (keeps_finishCallback ctx req).bind fun _ _ => keeps_ok trivial
  | startEmailVerification policy newToken token email =>
      exact (keeps_startEmailVerification _ _ _ _).bind fun _ _ => keeps_ok trivial
  | confirmEmailVerification ctx token =>
      exact (keeps_confirmEmailVerification _ _).bind fun _ _ => keeps_ok trivial
  | linkWithPassword req =>
      exact (keeps_linkWithPassword _).bind fun _ _ => keeps_ok trivial
  | startMinecraftBinding userId kind key returnPath authorize deviceCode =>
      exact (keeps_onDb (keeps_startMinecraftBinding _ _ _ _ _ _)).bind
        fun _ _ => keeps_ok trivial
  | finishMinecraftBinding ctx req =>
      exact (keeps_finishMinecraftBinding _ _).bind fun _ _ => keeps_ok trivial
  | checkDeviceCode ctx userId deviceCode =>
      refine (keeps_checkDeviceCodeStatus _ _ _).bind fun result _ => ?_
      cases result <;> exact keeps_ok trivial

/-! ## Accounts of the panel -/

/-- An administrator's update changes no name. -/
theorem keeps_adminUpdateUser (id : Nat) (req : AdminUpdateRequest) :
    (adminUpdateUser lib id req).Keeps accountMachine (NamesOk P ties) fun _ => True := by
  refine (keeps_userFindById _).bind fun existing _ => Keeps.bind keeps_rejectIf fun _ _ => ?_
  refine keeps_checked.bind fun username husername => keeps_checked.bind fun _ _ => ?_
  refine keeps_checked.bind fun _ _ => keeps_ofService ?_
  have hname : ∀ n, username = some n → isReservedLinuxdoProfileName n = false := by
    intro n hn
    cases hreq : req.username with
    | none =>
        rw [hreq, hn] at husername
        cases husername
    | some given =>
        rw [hreq, hn] at husername
        simp only [transposeMap] at husername
        cases hgiven : normalizeUpdatedUsername given with
        | error e =>
            rw [hgiven] at husername
            cases husername
        | ok name =>
            rw [hgiven] at husername
            cases husername
            exact normalizeUpdatedUsername_ok hgiven
  intro s hs
  exact wp_txn_onAccounts (hs.updateTxn hname)

/-- A registration never gets a reserved name. -/
theorem keeps_register (policy : AuthPolicy) (publicUuid username email password : String) :
    (register lib policy publicUuid username email password).Keeps (externalMachine lib)
      (NamesOk P []) fun _ => True := by
  refine (keeps_onDb keeps_rejectIf).bind fun _ _ => ?_
  refine (keeps_onDb keeps_rejectIf).bind fun _ _ => ?_
  refine (keeps_onDb keeps_checked).bind fun _ _ => ?_
  refine (keeps_onDb (keeps_quiet rfl)).bind fun count _ => ?_
  dsimp only
  split
  · exact keeps_withTxn (t := .registerUser _) (keeps_createUserWithRole lib _ rfl)
  · exact keeps_onDb (keeps_createUserWithOptions lib _ _ _ _ _ _ _)

/-- Nor does an account that an administrator creates. -/
theorem keeps_adminCreateUser (req : AdminCreateRequest) :
    (adminCreateUser lib req).Keeps (externalMachine lib) (NamesOk P []) fun _ => True := by
  refine (keeps_onDb keeps_checked).bind fun email hvalid => ?_
  refine (keeps_onDb keeps_checked).bind fun hash _ => ?_
  refine keeps_withTxn (t := .adminCreateUser _) (keeps_adminCreateUserTxn _ ?_)
  exact validateAdminIdentityInput_ok hvalid

/-- **Every call keeps the rules for names.** -/
theorem AccountCall.keeps_body (call : AccountCall) :
    (call.body lib).Keeps (externalMachine lib) (NamesOk P []) fun _ => True := by
  cases call with
  | flow call => exact (call.keeps_body).bind fun _ _ => keeps_ok trivial
  | setupFirstAdmin publicUuid username email password =>
      refine Keeps.bind (R := fun _ => True) (keeps_onDb ?_) fun _ _ => keeps_ok trivial
      refine (keeps_quiet rfl).bind fun count _ => Keeps.bind keeps_rejectIf fun _ _ => ?_
      refine keeps_checked.bind fun _ _ => ?_
      exact keeps_createUserWithOptions lib _ _ _ _ _ _ _
  | register policy publicUuid username email password =>
      exact (keeps_register _ _ _ _ _).bind fun _ _ => keeps_ok trivial
  | acceptInvitation policy publicUuid token username password =>
      refine Keeps.bind (R := fun _ => True) ?_ fun _ _ => keeps_ok trivial
      refine (keeps_onDb keeps_rejectIf).bind fun _ _ => ?_
      exact keeps_withTxn (t := .acceptInvitation _ _) (keeps_acceptInvitationTxn lib _ _)
  | adminCreateUser req => exact (keeps_adminCreateUser req).bind fun _ _ => keeps_ok trivial
  | adminUpdateUser id req =>
      exact (keeps_onDb (keeps_adminUpdateUser id req)).bind fun _ _ => keeps_ok trivial
  | adminDeleteUser id =>
      exact keeps_onDb (keeps_ofService ((quiet_deleteUser id).keeps (stable_namesOk P [])))
  | createProfile ctx userId userRole name =>
      exact (keeps_onDb (keeps_ofService (keeps_createProfile _ _ _ _))).bind
        fun _ _ => keeps_ok trivial
  | renameProfile policy userId uuid newName =>
      exact (keeps_onDb (keeps_ofService (keeps_renameProfileForUser _ _ _ _))).bind
        fun _ _ => keeps_ok trivial
  | adminRenameProfile policy uuid newName =>
      exact (keeps_onDb (keeps_ofService (keeps_adminRenameProfile _ _ _))).bind
        fun _ _ => keeps_ok trivial
  | deleteProfile userId uuid =>
      exact (keeps_onDb (keeps_ofService ((quiet_deleteProfileForUser _ _).keeps
        (stable_namesOk P [])))).bind fun _ _ => keeps_ok trivial
  | wait ms => exact keeps_onDb (keeps_quiet rfl)

end External

end AsterYggdrasil.External
