import AsterYggdrasil.External.Names
import AsterYggdrasil.Yggdrasil.Footprint

/-!
# Profiles and the rules for names

The programs of the protocol service keep the rules for names.  A statement that
is quiet keeps them by itself, and where a name is written the check that stands
before it provides what the write needs.  A user may be renamed by an
administrator only, in a transaction of its own.
-/

namespace AsterYggdrasil.External

open Interleave Relational Prog

/-! ## Programs of the protocol service -/

/-- The steps of the service on the tables of accounts. -/
@[reducible] def onAccounts : Machine serviceSignature := accountMachine.pullback serviceHom

/-- What quiet statements keep. -/
def Stable (I : AccountState → Prop) : Prop := ∀ s s', I s → Undisturbed s s' → I s'

/-- The rules are about users, profiles, identities and flows only. -/
theorem stable_namesOk (P : Table providerSchema) (ties : List (Nat × String)) :
    Stable (NamesOk P ties) := fun _ _ h hs => h.undisturbed hs

/-- A program of the service that writes no name. -/
abbrev Quiet {α : Type} (p : Service α) : Prop :=
  p.Within fun i : ServiceStmt => (AccountStmt.service i).quiet = true

/-- A quiet program keeps what is stable. -/
theorem Quiet.keeps {α : Type} {p : Service α} {I : AccountState → Prop} (hp : Quiet p)
    (hI : Stable I) : p.Keeps onAccounts I fun _ => True :=
  Within.keeps (M := onAccounts)
    (hp.mono fun _ hi s hs => hI s _ hs (undisturbed_exec hi s))

/-- Looking at an expected row is quiet. -/
theorem quiet_required {α : Type} (e : AsterError) (o : Option α) :
    Quiet (onPool .aster (DbProg.required e o)) := by
  cases o <;> trivial

/-- So is finding a user. -/
theorem quiet_userFindById (id : Nat) : Quiet (onPool .aster (userFindById id)) :=
  ⟨rfl, fun r => quiet_required _ r⟩

/-- And the ban check. -/
theorem quiet_ensureMayManageProfiles (userId : Nat) :
    Quiet (ensureMayManageProfiles userId) :=
  Within.bind ⟨rfl, fun _ => trivial⟩ fun _ => Within.rejectIf

/-- Evictions are quiet. -/
theorem quiet_invalidateTokenCacheHashes (hashes : List String) :
    Quiet (invalidateTokenCacheHashes hashes) :=
  have hdelete : ∀ hash, Quiet (step (.deleteToken hash)) := fun _ =>
    ⟨rfl, fun _ => trivial⟩
  Within.forEach hdelete hashes

/-- Those of a profile's tokens too. -/
theorem quiet_invalidateForProfile (profileId : Nat) :
    Quiet (invalidateTokenCacheForSelectedProfile profileId) :=
  Within.stmt_bind rfl fun hashes =>
    (quiet_invalidateTokenCacheHashes hashes).bind fun _ => trivial

/-- Counting profiles is quiet. -/
theorem quiet_checkProfileQuota (ctx : ProfileContext) (input : CreateProfileInput) :
    Quiet (checkProfileQuota ctx input) := by
  unfold checkProfileQuota
  split
  · trivial
  · exact Within.stmt_bind rfl fun _ => Within.rejectIf

/-- Asking Mojang is quiet. -/
theorem quiet_checkMojangName (ctx : ProfileContext) (input : CreateProfileInput) :
    Quiet (checkMojangName ctx input) := by
  unfold checkMojangName ensureNameNotReservedByMojang
  split
  · split
    · cases ctx.mojangHasName input.name with
      | error e => trivial
      | ok found => exact Within.rejectIf
    · trivial
  · trivial

/-- Looking for a name is quiet. -/
theorem quiet_profileNameTaken (name : String) (owner : Nat) (exclude : Option Nat) :
    Quiet (profileNameTaken name owner exclude) := by
  refine Within.stmt_bind rfl fun profile => ?_
  split
  · trivial
  · exact ⟨rfl, fun _ => trivial⟩

/-- A deleted profile takes a name away, which breaks no rule. -/
theorem quiet_deleteProfileForUser (userId : Nat) (uuid : String) :
    Quiet (deleteProfileForUser userId uuid) := by
  refine (quiet_ensureMayManageProfiles _).bind fun _ => ?_
  refine Within.stmt_bind rfl fun found => ?_
  cases found with
  | none => trivial
  | some profile =>
      refine Within.rejectIf.bind fun _ => ?_
      refine (quiet_invalidateForProfile _).bind fun _ => ?_
      refine Within.stmt_bind rfl fun _ => Within.stmt_bind rfl fun _ => ?_
      refine Within.bind ?_ fun _ => trivial
      refine Within.stmt_bind rfl fun found => ?_
      cases found with
      | none => trivial
      | some existing => exact ⟨rfl, fun _ => trivial⟩

/-- Nor does a deleted user. -/
theorem quiet_deleteUser (userId : Nat) : Quiet (AsterYggdrasil.deleteUser userId) := by
  refine Within.rejectIf.bind fun _ => ?_
  refine (quiet_userFindById _).bind fun _ => ?_
  refine Within.stmt_bind rfl fun profiles => ?_
  refine Within.bind (Within.forEach (fun profile => ?_) profiles) fun _ => ?_
  · exact (quiet_deleteProfileForUser _ _).bind fun _ => trivial
  refine Within.bind ?_ fun hashes => ?_
  · exact Within.stmt_bind rfl fun hashes =>
      (quiet_invalidateTokenCacheHashes hashes).bind fun _ => trivial
  refine Within.bind ?_ fun _ => ?_
  · rw [onPool_revokeAllForUser]
    refine Within.stmt_bind rfl fun _ => Within.stmt_bind rfl fun _ => ?_
    refine Within.stmt_bind rfl fun _ => Within.stmt_bind rfl fun _ => ?_
    exact Within.stmt_bind rfl fun _ => trivial
  refine (quiet_invalidateTokenCacheHashes _).bind fun _ => ?_
  refine (quiet_userFindById _).bind fun _ => ?_
  exact ⟨rfl, fun _ => trivial⟩

/-! ## Profiles -/

/-- No other user has the name. -/
def NoOtherUser (s : AccountState) (name : String) (owner : Nat) : Prop :=
  ∀ u ∈ s.users.rows, toAsciiLowercase u.username = toAsciiLowercase name → u.id = owner

/-- A name that no other user has stays so. -/
theorem NoOtherUser.undisturbed {s s' : AccountState} {name : String} {owner : Nat}
    (h : NoOtherUser s name owner) (hs : Undisturbed s s') : NoOtherUser s' name owner := by
  intro u hu heq
  obtain ⟨v, hv, hid, hname⟩ := hs.users u hu
  rw [← hname] at heq
  exact hid.symm.trans (h v hv heq)

section Walk

variable {P : Table providerSchema} {ties : List (Nat × String)} {s : AccountState}

/-- What the case-insensitive lookup of a user name tells. -/
theorem NamesOk.noOtherUser (h : NamesOk P ties s) {name : String} {owner : Nat}
    (hfound : ((s.users.find? fun u =>
      toAsciiLowercase u.username = toAsciiLowercase name).any fun u => u.id ≠ owner) = false) :
    NoOtherUser s name owner := by
  intro u hu heq
  cases hfind : s.users.find? fun u => toAsciiLowercase u.username = toAsciiLowercase name with
  | none =>
      have hno := Table.find?_eq_none.mp hfind u hu
      simp [heq] at hno
  | some v =>
      obtain ⟨hv, hname⟩ := Table.of_find? hfind
      have hid : v.id = owner := by simpa [hfind] using hfound
      have hsame := h.users u hu v hv (heq.trans (of_decide_eq_true hname).symm)
      exact hsame.trans hid

/-- What `profile_name_taken` tells. -/
theorem NamesOk.wp_profileNameTaken {α : Type} {name : String} {owner : Nat}
    {exclude : Option Nat} {f : Bool → Service α}
    {Q : Except ServiceError α → AccountState → Prop} (h : NamesOk P ties s)
    (htaken : (f true).Wp onAccounts Q s)
    (hfree : NoOtherUser s name owner → (f false).Wp onAccounts Q s) :
    ((profileNameTaken name owner exclude).bind f).Wp onAccounts Q s := by
  unfold profileNameTaken
  refine wp_bind.mpr (wp_stmt_bind.mpr ?_)
  split
  · exact htaken
  · refine wp_act.mpr (wp_ok.mpr ?_)
    have hanswer : ∀ other, ((s.users.find? fun u =>
        toAsciiLowercase u.username = toAsciiLowercase name).any fun u => u.id ≠ owner) = other →
        (f other).Wp onAccounts Q s := by
      intro other hother
      cases other with
      | true => exact htaken
      | false => exact hfree (h.noOtherUser hother)
    exact hanswer _ rfl

/-- The check of a name tells that it is not reserved, unless that is allowed. -/
theorem keeps_checkProfileName {I : AccountState → Prop} (name : String) (allow : Bool) :
    (checkProfileName name allow).Keeps onAccounts I
      fun _ => allow = false → isReservedLinuxdoProfileName name = false := by
  refine Keeps.bind keeps_rejectIf fun _ _ => keeps_rejectIf.mono fun _ hname hallow => ?_
  simpa [hallow] using hname

/-- **Creating a profile keeps the rules**; a reserved name is for a user who is
tied to its subject. -/
theorem keeps_createProfileWithUuid (ctx : ProfileContext) (input : CreateProfileInput)
    (hreserved : input.allowReservedLinuxdoName = true →
      isReservedLinuxdoProfileName input.name = true → ∃ subject,
        (input.userId, subject) ∈ ties ∧ input.name ∈ linuxdoProfileNames subject) :
    (createProfileWithUuid ctx input).Keeps onAccounts (NamesOk P ties) fun _ => True := by
  have hstable := stable_namesOk P ties
  refine ((quiet_ensureMayManageProfiles _).keeps hstable).bind fun _ _ => ?_
  refine ((quiet_checkProfileQuota _ _).keeps hstable).bind fun _ _ => ?_
  refine (keeps_checkProfileName _ _).bind fun _ hname => ?_
  refine ((quiet_checkMojangName _ _).keeps hstable).bind fun _ _ => ?_
  refine Keeps.bind (keeps_stmt (R := fun _ => True) (fun s hs => hs.quiet rfl)
    fun _ _ => trivial) fun taken _ => ?_
  refine Keeps.bind keeps_rejectIf fun _ _ => ?_
  intro s hs
  refine hs.wp_profileNameTaken ⟨hs, fun _ hb => by cases hb⟩ fun hfree => ?_
  refine wp_act.mpr ?_
  have hinserted : NamesOk P ties (onAccounts.exec (.db (.profileInsert _)) s).2 :=
    hs.profileInsert ⟨input.userId, input.uuid, input.name, input.source, .default,
      ctx.policy.uploadableTexturesValue⟩ hfree fun hres => ?_
  · exact (quiet_required .databaseOperation _).keeps hstable _ hinserted
  · cases hallow : input.allowReservedLinuxdoName with
    | true => exact hreserved hallow hres
    | false => rw [hname hallow] at hres; cases hres

/-- Without leave for reserved names. -/
theorem keeps_createProfile (ctx : ProfileContext) (userId : Nat) (role : UserRole)
    (name : String) :
    (AsterYggdrasil.createProfile ctx userId role name).Keeps onAccounts (NamesOk P ties)
      fun _ => True :=
  keeps_createProfileWithUuid ctx _ fun h => by cases h

/-- A bound profile has a name that is not reserved. -/
theorem keeps_ensureMinecraftProfile (ctx : ProfileContext) (userId : Nat)
    (role : UserRole) (uuid name : String) :
    (ensureMinecraftProfile ctx userId role uuid name).Keeps onAccounts (NamesOk P ties)
      fun _ => True := by
  refine Keeps.bind (keeps_stmt (R := fun _ => True) (fun s hs => hs.quiet rfl)
    fun _ _ => trivial) fun found _ => ?_
  cases found with
  | some existing => exact Keeps.bind keeps_rejectIf fun _ _ => keeps_ok trivial
  | none =>
      exact (keeps_createProfileWithUuid ctx _ fun h => by cases h).bind
        fun _ _ => keeps_ok trivial

/-! ## The automatic profile of a LinuxDO login -/

/-- The free name is one of the candidates. -/
theorem keeps_firstFreeCandidate (userId : Nat) (names : List (String × Bool)) :
    (firstFreeCandidate userId names).Keeps onAccounts (NamesOk P ties)
      fun found => ∀ c, found = some c → c ∈ names := by
  induction names with
  | nil => exact keeps_ok fun c hc => by cases hc
  | cons head rest ih =>
      obtain ⟨name, allow⟩ := head
      have hrest : (firstFreeCandidate userId rest).Keeps onAccounts (NamesOk P ties)
          fun found => ∀ c, found = some c → c ∈ (name, allow) :: rest :=
        ih.mono fun found h c hc => List.mem_cons_of_mem _ (h c hc)
      unfold firstFreeCandidate
      split
      · exact hrest
      · refine ((quiet_profileNameTaken _ _ _).keeps (stable_namesOk P ties)).bind
          fun taken _ => ?_
        cases taken with
        | true => exact hrest
        | false => exact keeps_ok fun c hc => by cases hc; exact List.mem_cons_self ..

/-- Or a candidate with a suffix. -/
theorem keeps_firstFreeSuffix (userId : Nat) (name candidate : String)
    (suffixes : List Nat) :
    (firstFreeSuffix userId name candidate suffixes).Keeps onAccounts (NamesOk P ties)
      fun found => found = candidate ∨ found ∈ suffixes.map (suffixedName name) := by
  induction suffixes generalizing candidate with
  | nil => exact keeps_ok (Or.inl rfl)
  | cons suffix rest ih =>
      refine ((quiet_profileNameTaken _ _ _).keeps (stable_namesOk P ties)).bind
        fun taken _ => ?_
      cases taken with
      | true =>
          refine (ih (suffixedName name suffix)).mono fun found h => Or.inr ?_
          rcases h with rfl | h
          · exact List.mem_cons_self ..
          · exact List.mem_cons_of_mem _ h
      | false => exact keeps_ok (Or.inr (List.mem_cons_self ..))

/-- The candidates that may be reserved are the name of the subject. -/
theorem mem_externalProfileNames {subject : String} (external : String) (c : String × Bool)
    (hsubject : Digits subject.toList)
    (hc : c ∈ externalProfileNames external (some ("linuxdo_" ++ subject)))
    (hallow : c.2 = true) : c.1 = linuxdoUsername subject := by
  have hlast : c ∈ [(linuxdoUsername subject, true)] → c.1 = linuxdoUsername subject := by
    intro h
    cases List.mem_singleton.mp h
    rfl
  unfold externalProfileNames at hc
  rw [Option.bind_some, sanitizeExternalUsername_linuxdo hsubject] at hc
  cases hfirst : sanitizeExternalUsername external with
  | none =>
      rw [hfirst] at hc
      exact hlast hc
  | some name =>
      rw [hfirst] at hc
      -- the first candidate may not be reserved
      have hother : c ∉ [(name, false)] := by
        intro h
        cases List.mem_singleton.mp h
        cases hallow
      dsimp only at hc
      split at hc
      · exact absurd hc hother
      · exact hlast ((List.mem_append.mp hc).resolve_left hother)

/-- **The automatic profile** of a user who is tied to the subject. -/
theorem keeps_createProfileForExternalAuth (ctx : ProfileContext) (userId : Nat)
    (role : UserRole) (external : String) {subject : String}
    (hsubject : Digits subject.toList) (htie : (userId, subject) ∈ ties) :
    (createProfileForExternalAuth ctx userId role external
      (some ("linuxdo_" ++ subject))).Keeps onAccounts (NamesOk P ties) fun _ => True := by
  have hnames := fun c => mem_externalProfileNames external c hsubject
  unfold createProfileForExternalAuth createFromCandidates
  cases hlast : (externalProfileNames external (some ("linuxdo_" ++ subject))).getLast? with
  | none => exact keeps_err _
  | some last =>
      have hmem := List.mem_of_getLast? hlast
      refine (keeps_firstFreeCandidate _ _).bind fun found hfound => ?_
      cases found with
      | some c =>
          refine keeps_createProfileWithUuid ctx _ fun hallow _ => ⟨subject, htie, ?_⟩
          change c.1 ∈ linuxdoProfileNames subject
          rw [hnames c (hfound c rfl) hallow]
          exact List.mem_cons_self ..
      | none =>
          refine (keeps_firstFreeSuffix _ _ _ _).bind fun candidate hcandidate => ?_
          refine keeps_createProfileWithUuid ctx _ fun hallow _ => ⟨subject, htie, ?_⟩
          rw [hnames last hmem hallow] at hcandidate
          rcases hcandidate with rfl | hcandidate
          · exact List.mem_cons_self ..
          · exact List.mem_cons_of_mem _ hcandidate

/-! ## Renaming -/

/-- What a rename transaction does: the profile with this id gets the name. -/
structure RenamedOnly (id : Nat) (name : String) (db db' : Db) : Prop where
  users : db'.users = db.users
  profiles : ∀ p' ∈ db'.profiles.rows, p' ∈ db.profiles.rows ∨
    ∃ p ∈ db.profiles.rows, p.id = id ∧ p'.id = id ∧ p'.userId = p.userId ∧
      p'.name = name ∧ p'.normalizedName = toAsciiLowercase name

namespace RenamedOnly

variable {id : Nat} {name : String}

theorem refl (db : Db) : RenamedOnly id name db db := ⟨rfl, fun _ hp => Or.inl hp⟩

theorem trans {a b c : Db} (hab : RenamedOnly id name a b) (hbc : RenamedOnly id name b c) :
    RenamedOnly id name a c := by
  refine ⟨hbc.users.trans hab.users, fun p hp => ?_⟩
  rcases hbc.profiles p hp with hp | ⟨q, hq, hqid, hid, howner, hrest⟩
  · exact hab.profiles p hp
  · rcases hab.profiles q hq with hq | ⟨r, hr, hrid, -, howner', -⟩
    · exact Or.inr ⟨q, hq, hqid, hid, howner, hrest⟩
    · exact Or.inr ⟨r, hr, hrid, hid, howner.trans howner', hrest⟩

/-- The update of a name renames one profile. -/
theorem exec_update (renameCount : Int32) (db : Db) :
    RenamedOnly id name db ((DbStmt.profileUpdateName id name renameCount).exec db).2 := by
  simp only [DbStmt.exec]
  split
  · exact .refl db
  · split
    · next profiles hupdate =>
        obtain ⟨hrows, -⟩ := Table.update?_eq_some hupdate
        refine ⟨rfl, fun p' hp' => ?_⟩
        change p' ∈ profiles.rows at hp'
        rw [hrows] at hp'
        obtain ⟨p, hp, rfl⟩ := List.mem_map.mp hp'
        split
        · next hid =>
            have hid : p.id = id := of_decide_eq_true hid
            exact Or.inr ⟨p, hp, hid, hid, rfl, rfl, rfl⟩
        · exact Or.inl hp
    · exact .refl db

/-- So does the transaction of a rename. -/
theorem commit (profile : MinecraftProfile) (name : String) (db : Db) :
    RenamedOnly profile.id name db ((Txn.renameProfile profile name).commit db).2 := by
  refine Txn.commit_of_within (.renameProfile profile name) .refl (fun _ _ _ => .trans)
    (Within.hoist ?_) db
  refine Within.bind (Within.stmt_bind (fun db => .refl db) fun found => ?_)
    fun found => ?_
  · cases found with
    | none => trivial
    | some existing =>
        refine Within.stmt_bind (fun db => exec_update _ db) fun r => ?_
        cases r <;> trivial
  · cases found with
    | none => trivial
    | some updated => exact ⟨fun db => ⟨rfl, fun _ hp => Or.inl hp⟩, fun _ => trivial⟩

end RenamedOnly

/-- The row of the profile belongs to whom it did when it was read. -/
def OwnedAsRead (profile : MinecraftProfile) (s : AccountState) : Prop :=
  ∀ p ∈ s.profiles.rows, p.id = profile.id → p.userId = profile.userId

/-- What a rename counts on until its transaction. -/
def Renaming (P : Table providerSchema) (ties : List (Nat × String))
    (profile : MinecraftProfile) (s : AccountState) : Prop :=
  NamesOk P ties s ∧ OwnedAsRead profile s

/-- Nothing else disturbs a rename that has been checked. -/
theorem stable_renaming (P : Table providerSchema) (ties : List (Nat × String))
    (profile : MinecraftProfile) : Stable (Renaming P ties profile) :=
  fun _ _ h hs => ⟨h.1.undisturbed hs, fun p hp => h.2 p (hs.profiles p hp)⟩

/-- **The commit of a rename** to a name that no other user has keeps the rules. -/
theorem Renaming.commit {profile : MinecraftProfile} {name : String}
    (h : Renaming P ties profile s) (hfree : NoOtherUser s name profile.userId)
    (hname : isReservedLinuxdoProfileName name = false) :
    Renaming P ties profile
      ((AccountStmt.service (.txn (.renameProfile profile name))).exec s).2 := by
  have hdone := RenamedOnly.commit profile name s.service.db
  have howned : OwnedAsRead profile
      ((AccountStmt.service (.txn (.renameProfile profile name))).exec s).2 := by
    intro p hp hid
    rcases hdone.profiles p hp with hp | ⟨q, hq, hqid, -, howner, -⟩
    · exact h.2 p hp hid
    · exact howner.trans (h.2 q hq hqid)
  refine ⟨?_, howned⟩
  by_cases hgone : Gone s profile.userId
  · -- then there is no such profile either
    have husers : ((AccountStmt.service (.txn (.renameProfile profile name))).exec s).2.users =
        s.users := hdone.users
    refine h.1.undisturbed (LinksKept.undisturbed (.of_eq rfl rfl rfl)
      (fun u hu => ⟨u, husers ▸ hu, rfl, rfl⟩) fun p hp => ?_)
    rcases hdone.profiles p hp with hp | ⟨q, hq, hqid, -⟩
    · exact hp
    · exact absurd (h.2 q hq hqid) (hgone.2 q hq)
  · refine h.1.writeProfile profile.userId name (.of_eq rfl rfl rfl)
      hdone.users hfree (fun p hp => ?_) hgone fun hres => ?_
    · rcases hdone.profiles p hp with hp | ⟨q, hq, hqid, -, howner, hrest⟩
      · exact Or.inl hp
      · exact Or.inr ⟨howner.trans (h.2 q hq hqid), hrest⟩
    · rw [hname] at hres
      cases hres

/-- A transaction of the service. -/
theorem wp_txn_onAccounts {t : Txn} {I : AccountState → Prop}
    (hdone : I ((AccountStmt.service (.txn t)).exec s).2) :
    (withTransaction t).Wp onAccounts (fun r s' => I s' ∧ ∀ a, r = .ok a → True) s := by
  refine wp_stmt_bind.mpr ?_
  cases hresult : (onAccounts.exec (.txn t) s).1 with
  | ok out => exact ⟨hdone, fun _ _ => trivial⟩
  | error e => exact ⟨hdone, fun _ _ => trivial⟩

/-- So a rename keeps them. -/
theorem keeps_renameProfile (policy : RuntimeYggdrasilPolicy) (profile : MinecraftProfile)
    (name : String) :
    (renameProfile policy profile name).Keeps onAccounts (Renaming P ties profile)
      fun _ => True := by
  have hstable := stable_renaming P ties profile
  refine (keeps_checkProfileName _ _).bind fun _ hname => ?_
  split
  · exact keeps_ok trivial
  · refine Keeps.bind keeps_rejectIf fun _ _ => Keeps.bind keeps_rejectIf fun _ _ => ?_
    intro s hs
    refine hs.1.wp_profileNameTaken ⟨hs, fun _ h => by cases h⟩ fun hfree => ?_
    -- between the check and the write only the token cache is touched
    have hquiet := (quiet_invalidateForProfile profile.id).keeps
      (I := fun s => Renaming P ties profile s ∧ NoOtherUser s name profile.userId)
      fun s s' h hs => ⟨hstable s s' h.1 hs, h.2.undisturbed hs⟩
    refine wp_rejectIf (fun h => by cases h) fun _ => ?_
    refine wp_bind.mpr ((hquiet s ⟨hs, hfree⟩).mono ?_)
    intro r s' hr
    cases r with
    | error e => exact ⟨hr.1.1, fun _ h => by cases h⟩
    | ok hashes =>
        refine wp_bind.mpr ((wp_txn_onAccounts (hr.1.1.commit hr.1.2 (hname rfl))).mono ?_)
        intro result s' hdone
        cases result with
        | error e => exact ⟨hdone.1, fun _ h => by cases h⟩
        | ok out =>
        have hrest : Quiet ((invalidateTokenCacheHashes hashes).bind fun _ =>
            (step (.deleteProfileNameSummary out.oldName)).bind fun _ =>
            (step (.deleteProfileNameSummary out.profile.name)).bind fun _ => .ok out) :=
          (quiet_invalidateTokenCacheHashes hashes).bind fun _ =>
            Within.stmt_bind rfl fun _ => Within.stmt_bind rfl fun _ => trivial
        exact hrest.keeps hstable s' hdone.1

/-- By the owner too. -/
theorem keeps_renameProfileForUser (policy : RuntimeYggdrasilPolicy) (userId : Nat)
    (uuid name : String) :
    (renameProfileForUser policy userId uuid name).Keeps onAccounts (NamesOk P ties)
      fun _ => True := by
  refine ((quiet_ensureMayManageProfiles _).keeps (stable_namesOk P ties)).bind fun _ _ => ?_
  refine (keeps_checkProfileName _ _).bind fun _ _ => ?_
  intro s hs
  refine wp_stmt_bind.mpr ?_
  cases hfound : s.profiles.find? fun p => p.uuid = uuid && p.userId = userId with
  | none =>
      have hreply : (onAccounts.exec (.db (.profileFindByUuidForUser uuid userId)) s).1 =
        none := hfound
      rw [hreply]
      exact ⟨hs, fun _ _ => trivial⟩
  | some profile =>
      have hreply : (onAccounts.exec (.db (.profileFindByUuidForUser uuid userId)) s).1 =
        some profile := hfound
      rw [hreply]
      have howned : OwnedAsRead profile s := by
        intro p hp hid
        rw [s.profiles.eq_of_ident hp (Table.of_find? hfound).1 hid]
      refine wp_bind.mpr ((keeps_renameProfile policy profile name s ⟨hs, howned⟩).mono ?_)
      intro r s' hr
      cases r with
      | error e => exact ⟨hr.1.1, fun _ h => by cases h⟩
      | ok out => exact ⟨hr.1.1, fun _ _ => trivial⟩

/-- A profile is renamed as it is read. -/
theorem keeps_adminRenameProfile (policy : RuntimeYggdrasilPolicy) (uuid name : String) :
    (adminRenameProfile policy uuid name).Keeps onAccounts (NamesOk P ties)
      fun _ => True := by
  intro s hs
  refine wp_stmt_bind.mpr ?_
  cases hfound : s.profiles.find? fun p => p.uuid = uuid with
  | none =>
      have hreply : (onAccounts.exec (.db (.profileFindByUuid uuid)) s).1 = none := hfound
      rw [hreply]
      exact ⟨hs, fun _ h => by cases h⟩
  | some profile =>
      have hreply : (onAccounts.exec (.db (.profileFindByUuid uuid)) s).1 = some profile :=
        hfound
      rw [hreply]
      have howned : OwnedAsRead profile s := by
        intro p hp hid
        rw [s.profiles.eq_of_ident hp (Table.of_find? hfound).1 hid]
      exact (keeps_renameProfile policy profile name s ⟨hs, howned⟩).mono
        fun _ _ hr => ⟨hr.1.1, fun _ _ => trivial⟩

/-! ## User names -/

/-- What the two lookups of `ensure_username_available` tell. -/
theorem NamesOk.nameFree (h : NamesOk P ties s) {name : String} {owner : Option Nat}
    (huser : ((s.users.find? fun u =>
      toAsciiLowercase u.username = toAsciiLowercase name).any
        fun u => some u.id ≠ owner) = false)
    (hprofile : ((s.profiles.find? fun p =>
      p.normalizedName = normalizeProfileName name).any
        fun p => some p.userId ≠ owner) = false) :
    NameFree s.service.db name owner := by
  constructor
  · intro u hu heq
    cases hfind : s.users.find?
        fun u => toAsciiLowercase u.username = toAsciiLowercase name with
    | none =>
        have hno := Table.find?_eq_none.mp hfind u hu
        simp [heq] at hno
    | some v =>
        obtain ⟨hv, hname⟩ := Table.of_find? hfind
        have hid : some v.id = owner := by simpa [hfind] using huser
        rw [h.users u hu v hv (heq.trans (of_decide_eq_true hname).symm)]
        exact hid
  · intro p hp heq
    cases hfind : s.profiles.find? fun p => p.normalizedName = normalizeProfileName name with
    | none =>
        have hno := Table.find?_eq_none.mp hfind p hp
        simp [heq] at hno
    | some q =>
        obtain ⟨hq, hname⟩ := Table.of_find? hfind
        have hid : some q.userId = owner := by simpa [hfind] using hprofile
        have hclash : profileSchema.clash p q = true := by
          simp [profileSchema, heq, of_decide_eq_true hname]
        rw [s.profiles.eq_of_clash hp hq hclash]
        exact hid

/-- The error of a taken user name. -/
def usernameExists : AsterError := .validation (some .authUsernameExists) "username already exists"

/-- `ensure_username_available` in a transaction of the service. -/
theorem NamesOk.wp_ensureUsernameAvailable {α : Type} {name : String} {owner : Option Nat}
    {f : Unit → DbProg α} {Q : Except AsterError α → Db → Prop} (h : NamesOk P ties s)
    (herr : Q (.error usernameExists) s.service.db)
    (hfree : NameFree s.service.db name owner → (f ()).Wp dbMachine Q s.service.db) :
    ((ensureUsernameAvailable name owner).bind f).Wp dbMachine Q s.service.db := by
  unfold ensureUsernameAvailable
  refine wp_bind.mpr (wp_stmt_bind.mpr (wp_rejectIf (fun _ => herr) fun huser => ?_))
  refine wp_stmt_bind.mpr (wp_rejectIf_last (fun _ => herr) fun hprofile => ?_)
  exact hfree (h.nameFree huser hprofile)

/-- `ensure_username_available` on a connection. -/
theorem NamesOk.wp_ofDb_ensureUsernameAvailable {α : Type} {name : String}
    {owner : Option Nat} {f : Unit → OnConnection α}
    {Q : Except ServiceError α → AccountState → Prop} (h : NamesOk P ties s)
    (herr : Q (.error (.aster usernameExists)) s)
    (hfree : NameFree s.service.db name owner → (f ()).Wp accountMachine Q s) :
    ((ofDb (ensureUsernameAvailable name owner)).bind f).Wp accountMachine Q s := by
  refine wp_bind.mpr (wp_hoist.mpr (wp_hoist.mpr ?_))
  unfold ensureUsernameAvailable
  refine wp_stmt_bind.mpr (wp_rejectIf (fun _ => herr) fun huser => ?_)
  refine wp_stmt_bind.mpr (wp_rejectIf_last (fun _ => herr) fun hprofile => ?_)
  exact hfree (h.nameFree huser hprofile)

/-- What an update does to the users. -/
theorem exec_userUpdate (id : Nat) (patch : UserPatch) (db : Db) :
    ((DbStmt.userUpdate id patch).exec db).2.profiles = db.profiles ∧
      ∀ u' ∈ ((DbStmt.userUpdate id patch).exec db).2.users.rows,
        (u'.id = id ∧ patch.username = some u'.username ∧ ∃ u ∈ db.users.rows, u.id = id) ∨
          ∃ u ∈ db.users.rows, u.id = u'.id ∧ u.username = u'.username := by
  have hsame : ∀ u' ∈ db.users.rows, (u'.id = id ∧ patch.username = some u'.username ∧
        ∃ u ∈ db.users.rows, u.id = id) ∨
      ∃ u ∈ db.users.rows, u.id = u'.id ∧ u.username = u'.username :=
    fun u hu => Or.inr ⟨u, hu, rfl, rfl⟩
  simp only [DbStmt.exec]
  split
  · exact ⟨rfl, hsame⟩
  · split
    · next users hupdate =>
        obtain ⟨hrows, -⟩ := Table.update?_eq_some hupdate
        refine ⟨rfl, fun u' hu' => ?_⟩
        simp only [hrows, List.mem_map] at hu'
        obtain ⟨u, hu, rfl⟩ := hu'
        by_cases hid : u.id = id
        · cases hname : patch.username with
          | none => exact Or.inr ⟨u, hu, by simp [hid, Db.patchUser, hname]⟩
          | some name => exact Or.inl ⟨by simp [hid, Db.patchUser], by
              simp [hid, Db.patchUser, hname], u, hu, hid⟩
        · exact Or.inr ⟨u, hu, by simp [hid]⟩
    · exact ⟨rfl, hsame⟩

/-- What holds of a row that was there holds after looking at it. -/
theorem wp_dbRequired {α : Type} {K : α → Db → Prop} {e : AsterError} {o : Option α}
    {db : Db} (h : ∀ a, o = some a → K a db) :
    (DbProg.required e o).Wp dbMachine (OnSuccess K) db := by
  cases o with
  | none => exact wp_err_success e
  | some a => exact fun b hb => by cases hb; exact h a rfl

/-- What holds when a transaction succeeds, and held before, holds after it. -/
theorem Txn.commit_success {t : Txn} {K : Db → Prop} {db : Db} (hdb : K db)
    (h : t.body.Wp dbMachine (OnSuccess fun _ => K) db) : K (t.commit db).2 := by
  unfold Txn.commit
  unfold Wp at h
  generalize t.body.run dbMachine db = out at h ⊢
  obtain ⟨result, db'⟩ := out
  cases result with
  | ok a => exact h a rfl
  | error e => exact hdb

/-- The state with another database. -/
def AccountState.withDb (s : AccountState) (db : Db) : AccountState :=
  { s with service := { s.service with db := db } }

/-- A user is renamed, or updated in other columns. -/
theorem NamesOk.userUpdate {id : Nat} {patch : UserPatch} (h : NamesOk P ties s)
    (hname : ∀ n, patch.username = some n →
      NameFree s.service.db n (some id) ∧ isReservedLinuxdoProfileName n = false) :
    NamesOk P ties (s.withDb ((DbStmt.userUpdate id patch).exec s.service.db).2) := by
  obtain ⟨hprofiles, husers⟩ := exec_userUpdate id patch s.service.db
  cases hpatch : patch.username with
  | none =>
      refine h.undisturbed (LinksKept.undisturbed (.of_eq rfl rfl rfl) (fun u hu => ?_)
        fun p hp => (congrArg Table.rows hprofiles) ▸ hp)
      rcases husers u hu with ⟨-, hwrite, -⟩ | hold
      · rw [hpatch] at hwrite
        cases hwrite
      · exact hold
  | some name =>
      obtain ⟨hfree, hreserved⟩ := hname name hpatch
      by_cases hrow : ∃ u ∈ s.users.rows, u.id = id
      · refine h.writeUser id name (.of_eq rfl rfl rfl) hfree
          (fun u hu => ?_) hprofiles (fun _ _ _ => hrow) fun hres => ?_
        · rcases husers u hu with ⟨hid, hwrite, -⟩ | hold
          · rw [hpatch] at hwrite
            exact Or.inl ⟨hid, (Option.some.inj hwrite).symm⟩
          · exact Or.inr hold
        · rw [hreserved] at hres
          cases hres
      · refine h.undisturbed (LinksKept.undisturbed (.of_eq rfl rfl rfl) (fun u hu => ?_)
          fun p hp => (congrArg Table.rows hprofiles) ▸ hp)
        rcases husers u hu with ⟨-, -, hthere⟩ | hold
        · exact absurd hthere hrow
        · exact hold

/-- An administrator's update gives no reserved name. -/
theorem NamesOk.updateTxn {id : Nat} {input : AdminUpdateUser} (h : NamesOk P ties s)
    (hname : ∀ n, input.username = some n → isReservedLinuxdoProfileName n = false) :
    NamesOk P ties ((AccountStmt.service (.txn (.updateUser id input))).exec s).2 := by
  have hadmin : ∀ bump, (∀ n, input.username = some n →
        NameFree s.service.db n (some id)) →
      (userUpdateAdmin id input bump).Wp dbMachine
        (OnSuccess fun _ db => NamesOk P ties (s.withDb db)) s.service.db := by
    intro bump hfree
    refine wp_bind.mpr (wp_stmt_bind.mpr ?_)
    cases (dbMachine.exec (.userFindById id) s.service.db).1 with
    | none => exact fun _ h => by cases h
    | some existing =>
        refine wp_ok.mpr (wp_stmt_bind.mpr (wp_dbRequired fun _ _ => ?_))
        exact h.userUpdate fun n hn => ⟨hfree n hn, hname n hn⟩
  have hbody : (updateUserTxn id input).Wp dbMachine
      (OnSuccess fun _ db => NamesOk P ties (s.withDb db)) s.service.db := by
    unfold updateUserTxn
    cases huser : input.username with
    | none => exact hadmin _ fun n hn => by rw [huser] at hn; cases hn
    | some name =>
        refine h.wp_ensureUsernameAvailable (fun _ h => by cases h) fun hfree => ?_
        exact hadmin _ fun n hn => by rw [huser] at hn; cases hn; exact hfree
  refine Txn.commit_success (t := .updateUser id input)
    (K := fun db => NamesOk P ties (s.withDb db)) h ?_
  refine wp_hoist.mpr (Wp.mono hbody ?_)
  intro r db hr a ha
  cases r with
  | ok b => exact hr b rfl
  | error e => cases ha

end Walk

end AsterYggdrasil.External
