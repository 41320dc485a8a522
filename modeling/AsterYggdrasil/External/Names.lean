import AsterYggdrasil.External.ReservedNames

/-!
# The names of users and profiles

User names and profile names share one space: ignoring ASCII case no two users,
no two profiles, and no profile and the user of somebody else have the same
name.  Names `linuxdo_N` are kept for the accounts of LinuxDO logins.

`NamesOk` is both rules as one invariant.  No index enforces the first across
tables, and none enforces the second; they rest on the checks each operation
makes before it writes a name.  `Undisturbed` is what everything else does: it
may delete rows, and it leaves the names of the others alone.
-/

namespace AsterYggdrasil.External

open Interleave Relational Prog

/-! ## The invariant -/

/-- The user is linked to the LinuxDO identity with this subject. -/
def Linked (s : AccountState) (userId : Nat) (subject : String) : Prop :=
  ∃ x ∈ s.identities.rows, x.userId = userId ∧
    x.identityNamespace = linuxdoIdentityNamespace ∧ x.subject = subject

/-- Nothing of the user is left. -/
def Gone (s : AccountState) (userId : Nat) : Prop :=
  (∀ u ∈ s.users.rows, u.id ≠ userId) ∧ ∀ p ∈ s.profiles.rows, p.userId ≠ userId

/-- The user is linked to the subject for as long as there is a user. -/
def Tied (s : AccountState) (userId : Nat) (subject : String) : Prop :=
  Linked s userId subject ∨ Gone s userId

/-- **The rules for names**, while the providers are `P`.  `ties` are the links a
running call has made and counts on. -/
structure NamesOk (P : Table providerSchema) (ties : List (Nat × String))
    (s : AccountState) : Prop where
  providers : s.providers = P
  users : ∀ u ∈ s.users.rows, ∀ v ∈ s.users.rows,
    toAsciiLowercase u.username = toAsciiLowercase v.username → u.id = v.id
  normalized : ∀ p ∈ s.profiles.rows, p.normalizedName = toAsciiLowercase p.name
  owned : ∀ p ∈ s.profiles.rows, ∀ u ∈ s.users.rows,
    toAsciiLowercase p.name = toAsciiLowercase u.username → p.userId = u.id
  reservedUser : ∀ u ∈ s.users.rows, isReservedLinuxdoProfileName u.username = true →
    ∃ subject, Linked s u.id subject ∧ u.username = linuxdoUsername subject
  reservedProfile : ∀ p ∈ s.profiles.rows, isReservedLinuxdoProfileName p.name = true →
    ∃ subject, Linked s p.userId subject ∧ p.name ∈ linuxdoProfileNames subject
  flows : ∀ f ∈ s.emailFlows.rows, ∀ p ∈ P.rows, p.id = f.providerId → p.kind ≠ .linuxDo
  ties : ∀ t ∈ ties, Tied s t.1 t.2

/-- Links are made, none is broken, and nothing happens to flows and providers. -/
structure LinksKept (s s' : AccountState) : Prop where
  links : ∀ userId subject, Linked s userId subject → Linked s' userId subject
  flows : ∀ f' ∈ s'.emailFlows.rows, ∃ f ∈ s.emailFlows.rows,
    f.providerId = f'.providerId
  providers : s'.providers = s.providers

theorem LinksKept.of_eq {s s' : AccountState} (hids : s'.identities = s.identities)
    (hflows : s'.emailFlows = s.emailFlows) (hproviders : s'.providers = s.providers) :
    LinksKept s s' := by
  refine ⟨fun userId subject hlink => ?_, fun f hf => ⟨f, hflows ▸ hf, rfl⟩, hproviders⟩
  obtain ⟨x, hx, hrest⟩ := hlink
  exact ⟨x, hids ▸ hx, hrest⟩

theorem LinksKept.of_rows {s s' : AccountState}
    (hids : ∀ x ∈ s.identities.rows, ∃ x' ∈ s'.identities.rows, x'.userId = x.userId ∧
      x'.identityNamespace = x.identityNamespace ∧ x'.subject = x.subject)
    (hflows : ∀ f' ∈ s'.emailFlows.rows, ∃ f ∈ s.emailFlows.rows,
      f.providerId = f'.providerId)
    (hproviders : s'.providers = s.providers) : LinksKept s s' := by
  refine ⟨fun userId subject hlink => ?_, hflows, hproviders⟩
  obtain ⟨x, hx, huser, hns, hsubject⟩ := hlink
  obtain ⟨x', hx', huser', hns', hsubject'⟩ := hids x hx
  exact ⟨x', hx', huser'.trans huser, hns'.trans hns, hsubject'.trans hsubject⟩

theorem LinksKept.trans {a b c : AccountState} (hab : LinksKept a b)
    (hbc : LinksKept b c) : LinksKept a c := by
  refine ⟨fun userId subject h => hbc.links _ _ (hab.links _ _ h), fun f hf => ?_,
    hbc.providers.trans hab.providers⟩
  obtain ⟨g, hg, hid⟩ := hbc.flows f hf
  obtain ⟨k, hk, hid'⟩ := hab.flows g hg
  exact ⟨k, hk, hid'.trans hid⟩

/-- Rows may have been deleted, and the names of the others are as they were. -/
structure Undisturbed (s s' : AccountState) : Prop where
  users : ∀ u' ∈ s'.users.rows, ∃ u ∈ s.users.rows,
    u.id = u'.id ∧ u.username = u'.username
  profiles : ∀ p' ∈ s'.profiles.rows, p' ∈ s.profiles.rows
  links : ∀ userId subject, Linked s userId subject → Tied s' userId subject
  flows : ∀ f' ∈ s'.emailFlows.rows, ∃ f ∈ s.emailFlows.rows,
    f.providerId = f'.providerId
  providers : s'.providers = s.providers

theorem LinksKept.undisturbed {s s' : AccountState} (h : LinksKept s s')
    (husers : ∀ u' ∈ s'.users.rows, ∃ u ∈ s.users.rows,
      u.id = u'.id ∧ u.username = u'.username)
    (hprofiles : ∀ p ∈ s'.profiles.rows, p ∈ s.profiles.rows) : Undisturbed s s' :=
  ⟨husers, hprofiles, fun _ _ hlink => Or.inl (h.links _ _ hlink), h.flows, h.providers⟩

/-- Users and profiles are not written at all. -/
theorem LinksKept.undisturbed_of_eq {s s' : AccountState} (h : LinksKept s s')
    (hservice : s'.service = s.service) : Undisturbed s s' := by
  have husers : s'.users = s.users := congrArg (·.db.users) hservice
  have hprofiles : s'.profiles = s.profiles := congrArg (·.db.profiles) hservice
  exact h.undisturbed (fun u hu => ⟨u, husers ▸ hu, rfl, rfl⟩) fun p hp => hprofiles ▸ hp

namespace Undisturbed

variable {s s' : AccountState}

theorem gone (h : Undisturbed s s') {userId : Nat} (hgone : Gone s userId) :
    Gone s' userId := by
  refine ⟨fun u hu heq => ?_, fun p hp => hgone.2 p (h.profiles p hp)⟩
  obtain ⟨v, hv, hid, -⟩ := h.users u hu
  exact hgone.1 v hv (hid.trans heq)

theorem tied (h : Undisturbed s s') {userId : Nat} {subject : String}
    (htied : Tied s userId subject) : Tied s' userId subject := by
  rcases htied with hlink | hgone
  · exact h.links userId subject hlink
  · exact Or.inr (h.gone hgone)

end Undisturbed

section Kept

variable {P : Table providerSchema} {ties : List (Nat × String)} {s s' : AccountState}

/-- **The rules survive everything that writes no name.** -/
theorem NamesOk.undisturbed (h : NamesOk P ties s) (hs : Undisturbed s s') :
    NamesOk P ties s' := by
  refine ⟨hs.providers.trans h.providers, ?_, fun p hp => h.normalized p (hs.profiles p hp),
    ?_, ?_, ?_, ?_, fun t ht => hs.tied (h.ties t ht)⟩
  · intro u hu v hv heq
    obtain ⟨u₀, hu₀, hid, hname⟩ := hs.users u hu
    obtain ⟨v₀, hv₀, hid', hname'⟩ := hs.users v hv
    rw [← hname, ← hname'] at heq
    rw [← hid, ← hid']
    exact h.users u₀ hu₀ v₀ hv₀ heq
  · intro p hp u hu heq
    obtain ⟨u₀, hu₀, hid, hname⟩ := hs.users u hu
    rw [← hname] at heq
    rw [← hid]
    exact h.owned p (hs.profiles p hp) u₀ hu₀ heq
  · intro u hu hreserved
    obtain ⟨u₀, hu₀, hid, hname⟩ := hs.users u hu
    rw [← hname] at hreserved
    obtain ⟨subject, hlink, hsubject⟩ := h.reservedUser u₀ hu₀ hreserved
    rcases hs.links _ _ hlink with hlink | hgone
    · exact ⟨subject, hid ▸ hlink, hname ▸ hsubject⟩
    · exact absurd hid.symm (hgone.1 u hu)
  · intro p hp hreserved
    obtain ⟨subject, hlink, hsubject⟩ :=
      h.reservedProfile p (hs.profiles p hp) hreserved
    rcases hs.links _ _ hlink with hlink | hgone
    · exact ⟨subject, hlink, hsubject⟩
    · exact absurd rfl (hgone.2 p hp)
  · intro f hf p hp heq
    obtain ⟨f₀, hf₀, hid⟩ := hs.flows f hf
    exact h.flows f₀ hf₀ p hp (heq.trans hid.symm)

/-! ## Writing a name -/

/-- Nobody but the owner uses the name, as `ensure_username_available` asks. -/
structure NameFree (db : Db) (name : String) (owner : Option Nat) : Prop where
  users : ∀ u ∈ db.users.rows,
    toAsciiLowercase u.username = toAsciiLowercase name → some u.id = owner
  profiles : ∀ p ∈ db.profiles.rows,
    p.normalizedName = normalizeProfileName name → some p.userId = owner

/-- One user is added or renamed, under a name that was free. -/
theorem NamesOk.writeUser (h : NamesOk P ties s) (id : Nat) (name : String)
    (hs : LinksKept s s') (hfree : NameFree s.service.db name (some id))
    (husers : ∀ u' ∈ s'.users.rows, (u'.id = id ∧ u'.username = name) ∨
      ∃ u ∈ s.users.rows, u.id = u'.id ∧ u.username = u'.username)
    (hprofiles : s'.profiles = s.profiles)
    (hnew : ∀ t ∈ ties, t.1 = id → ∃ u ∈ s.users.rows, u.id = id)
    (hreserved : isReservedLinuxdoProfileName name = true →
      ∃ subject, Linked s' id subject ∧ name = linuxdoUsername subject) :
    NamesOk P ties s' := by
  refine ⟨hs.providers.trans h.providers, ?_, fun p hp => h.normalized p (hprofiles ▸ hp),
    ?_, ?_, ?_, ?_, ?_⟩
  · intro u hu v hv heq
    rcases husers u hu with ⟨hid, hname⟩ | ⟨u₀, hu₀, hid, hname⟩ <;>
      rcases husers v hv with ⟨hid', hname'⟩ | ⟨v₀, hv₀, hid', hname'⟩
    · exact hid.trans hid'.symm
    · rw [hname, ← hname'] at heq
      rw [hid, ← hid']
      exact (Option.some.inj (hfree.users v₀ hv₀ heq.symm)).symm
    · rw [hname', ← hname] at heq
      rw [hid', ← hid]
      exact Option.some.inj (hfree.users u₀ hu₀ heq)
    · rw [← hname, ← hname'] at heq
      rw [← hid, ← hid']
      exact h.users u₀ hu₀ v₀ hv₀ heq
  · intro p hp u hu heq
    rw [hprofiles] at hp
    rcases husers u hu with ⟨hid, hname⟩ | ⟨u₀, hu₀, hid, hname⟩
    · rw [hname] at heq
      rw [hid]
      exact Option.some.inj (hfree.profiles p hp ((h.normalized p hp).trans heq))
    · rw [← hname] at heq
      rw [← hid]
      exact h.owned p hp u₀ hu₀ heq
  · intro u hu hres
    rcases husers u hu with ⟨hid, hname⟩ | ⟨u₀, hu₀, hid, hname⟩
    · rw [hid, hname]
      exact hreserved (hname ▸ hres)
    · rw [← hname] at hres
      obtain ⟨subject, hlink, hsubject⟩ := h.reservedUser u₀ hu₀ hres
      exact ⟨subject, hid ▸ hs.links _ _ hlink, hname ▸ hsubject⟩
  · intro p hp hres
    rw [hprofiles] at hp
    obtain ⟨subject, hlink, hsubject⟩ := h.reservedProfile p hp hres
    exact ⟨subject, hs.links _ _ hlink, hsubject⟩
  · intro f hf p hp heq
    obtain ⟨f₀, hf₀, hid⟩ := hs.flows f hf
    exact h.flows f₀ hf₀ p hp (heq.trans hid.symm)
  · intro t ht
    rcases h.ties t ht with hlink | hgone
    · exact Or.inl (hs.links _ _ hlink)
    · refine Or.inr ⟨fun u hu heq => ?_, hprofiles ▸ hgone.2⟩
      rcases husers u hu with ⟨hid, -⟩ | ⟨u₀, hu₀, hid, -⟩
      · obtain ⟨v, hv, hvid⟩ := hnew t ht (heq.symm.trans hid)
        exact hgone.1 v hv (hvid.trans (hid.symm.trans heq))
      · exact hgone.1 u₀ hu₀ (hid.trans heq)

/-- One profile of a user is added or renamed, under a name no other user has. -/
theorem NamesOk.writeProfile (h : NamesOk P ties s) (userId : Nat) (name : String)
    (hs : LinksKept s s') (husers : s'.users = s.users)
    (hfree : ∀ u ∈ s.users.rows,
      toAsciiLowercase u.username = toAsciiLowercase name → u.id = userId)
    (hprofiles : ∀ p' ∈ s'.profiles.rows, p' ∈ s.profiles.rows ∨
      (p'.userId = userId ∧ p'.name = name ∧ p'.normalizedName = toAsciiLowercase name))
    (howner : ¬ Gone s userId)
    (hreserved : isReservedLinuxdoProfileName name = true →
      ∃ subject, Linked s userId subject ∧ name ∈ linuxdoProfileNames subject) :
    NamesOk P ties s' := by
  refine ⟨hs.providers.trans h.providers, husers ▸ h.users, ?_, ?_, ?_, ?_, ?_, ?_⟩
  · intro p hp
    rcases hprofiles p hp with hp | ⟨-, hname, hnorm⟩
    · exact h.normalized p hp
    · rw [hnorm, hname]
  · intro p hp u hu heq
    rw [husers] at hu
    rcases hprofiles p hp with hp | ⟨huser, hname, -⟩
    · exact h.owned p hp u hu heq
    · rw [hname] at heq
      exact huser.trans (hfree u hu heq.symm).symm
  · intro u hu hres
    obtain ⟨subject, hlink, hsubject⟩ := h.reservedUser u (husers ▸ hu) hres
    exact ⟨subject, hs.links _ _ hlink, hsubject⟩
  · intro p hp hres
    rcases hprofiles p hp with hp | ⟨huser, hname, -⟩
    · obtain ⟨subject, hlink, hsubject⟩ := h.reservedProfile p hp hres
      exact ⟨subject, hs.links _ _ hlink, hsubject⟩
    · obtain ⟨subject, hlink, hsubject⟩ := hreserved (hname ▸ hres)
      exact ⟨subject, huser ▸ hs.links _ _ hlink, hname ▸ hsubject⟩
  · intro f hf p hp heq
    obtain ⟨f₀, hf₀, hid⟩ := hs.flows f hf
    exact h.flows f₀ hf₀ p hp (heq.trans hid.symm)
  · intro t ht
    rcases h.ties t ht with hlink | hgone
    · exact Or.inl (hs.links _ _ hlink)
    · refine Or.inr ⟨husers ▸ hgone.1, fun p hp heq => ?_⟩
      rcases hprofiles p hp with hp | ⟨huser, -, -⟩
      · exact hgone.2 p hp heq
      · exact howner ((heq.symm.trans huser) ▸ hgone)

end Kept

/-! ## Statements that write no name -/

/-- The statement writes neither a user name nor a profile name. -/
def dbQuiet : DbStmt → Bool
  | .userInsert _ | .profileInsert _ | .profileUpdateName _ _ _ => false
  | .userUpdate _ patch => patch.username.isNone
  | _ => true

/-- The statement writes no name, and neither creates a flow nor changes a
provider nor unlinks anybody. -/
def AccountStmt.quiet : AccountStmt → Bool
  | .service (.db i) => dbQuiet i
  | .service (.txn _) => false
  | .userCreate _ | .emailFlowCreate _ | .providerCreate _ | .providerUpdate _ _
  | .providerDelete _ | .identityDeleteForUser _ _ => false
  | _ => true

/-- What a quiet statement does to the users. -/
theorem dbQuiet_users {i : DbStmt} (h : dbQuiet i = true) (db : Db) :
    ∀ u' ∈ (i.exec db).2.users.rows, ∃ u ∈ db.users.rows,
      u.id = u'.id ∧ u.username = u'.username := by
  have hsame : ∀ u' ∈ db.users.rows, ∃ u ∈ db.users.rows,
      u.id = u'.id ∧ u.username = u'.username := fun u hu => ⟨u, hu, rfl, rfl⟩
  cases i with
  | userInsert input => cases h
  | profileInsert input => cases h
  | profileUpdateName id name n => cases h
  | userUpdate id patch =>
      simp only [dbQuiet, Option.isNone_iff_eq_none] at h
      simp only [DbStmt.exec]
      split
      · exact hsame
      · split
        · next users hupdate =>
            obtain ⟨hrows, -⟩ := Table.update?_eq_some hupdate
            intro u' hu'
            simp only [hrows, List.mem_map] at hu'
            obtain ⟨u, hu, rfl⟩ := hu'
            refine ⟨u, hu, ?_⟩
            split
            · exact ⟨rfl, by simp [Db.patchUser, h]⟩
            · exact ⟨rfl, rfl⟩
        · exact hsame
  | userDelete id => exact fun u hu => ⟨u, (List.mem_filter.mp hu).1, rfl, rfl⟩
  | tokenInsert id input =>
      simp only [DbStmt.exec]
      split
      · split <;> exact hsame
      · exact hsame
  | banInsert input =>
      simp only [DbStmt.exec]
      split
      · exact hsame
      · split <;> exact hsame
  | _ => exact hsame

/-- What a quiet statement does to the profiles. -/
theorem dbQuiet_profiles {i : DbStmt} (h : dbQuiet i = true) (db : Db) :
    ∀ p ∈ (i.exec db).2.profiles.rows, p ∈ db.profiles.rows := by
  cases i with
  | userInsert input => cases h
  | profileInsert input => cases h
  | profileUpdateName id name n => cases h
  | profileDelete id => exact fun p hp => (List.mem_filter.mp hp).1
  | userDelete id => exact fun p hp => (List.mem_filter.mp hp).1
  | userUpdate id patch =>
      simp only [DbStmt.exec]
      split
      · exact fun _ hp => hp
      · split <;> exact fun _ hp => hp
  | tokenInsert id input =>
      simp only [DbStmt.exec]
      split
      · split <;> exact fun _ hp => hp
      · exact fun _ hp => hp
  | banInsert input =>
      simp only [DbStmt.exec]
      split
      · exact fun _ hp => hp
      · split <;> exact fun _ hp => hp
  | _ => exact fun _ hp => hp

/-- Deleting a user leaves nothing of it. -/
theorem gone_userDelete (id : Nat) (s : AccountState) :
    Gone ((AccountStmt.service (.db (.userDelete id))).exec s).2 id := by
  refine ⟨fun u hu => ?_, fun p hp => ?_⟩
  · have := (List.mem_filter.mp hu).2
    simpa using this
  · have := (List.mem_filter.mp hp).2
    simpa using this

theorem undisturbed_userDelete (id : Nat) (s : AccountState) :
    Undisturbed s ((AccountStmt.service (.db (.userDelete id))).exec s).2 := by
  refine ⟨dbQuiet_users (i := .userDelete id) rfl s.service.db,
    dbQuiet_profiles (i := .userDelete id) rfl s.service.db, ?_,
    fun f hf => ⟨f, hf, rfl⟩, rfl⟩
  intro userId subject hlink
  by_cases heq : userId = id
  · exact Or.inr (heq ▸ gone_userDelete id s)
  · obtain ⟨x, hx, huser, hrest⟩ := hlink
    have hkept : x ∈ ((AccountStmt.service (.db (.userDelete id))).exec s).2.identities.rows := by
      refine List.mem_filter.mpr ⟨hx, ?_⟩
      simp [huser, heq]
    exact Or.inl ⟨x, hkept, huser, hrest⟩

/-- A step of the service that does not delete a user leaves the tables of
external login alone. -/
theorem undisturbed_service {i : ServiceStmt} (s : AccountState)
    (hcascade : ∀ s, AccountState.cascade i s = s)
    (husers : ∀ u' ∈ (i.exec s.service).2.db.users.rows, ∃ u ∈ s.users.rows,
      u.id = u'.id ∧ u.username = u'.username)
    (hprofiles : ∀ p ∈ (i.exec s.service).2.db.profiles.rows, p ∈ s.profiles.rows) :
    Undisturbed s ((AccountStmt.service i).exec s).2 := by
  have hexec : ((AccountStmt.service i).exec s).2 =
      { s with service := (i.exec s.service).2 } := by
    simp only [AccountStmt.exec, hcascade]
  rw [hexec]
  exact LinksKept.undisturbed (s := s) (.of_eq rfl rfl rfl) husers hprofiles

theorem cascade_db {i : DbStmt} (h : ∀ id, i ≠ .userDelete id) (s : AccountState) :
    AccountState.cascade (.db i) s = s := by
  cases i with
  | userDelete id => exact absurd rfl (h id)
  | _ => rfl

theorem undisturbed_db {i : DbStmt} (h : dbQuiet i = true) (s : AccountState) :
    Undisturbed s ((AccountStmt.service (.db i)).exec s).2 := by
  by_cases hdelete : ∃ id, i = .userDelete id
  · obtain ⟨id, rfl⟩ := hdelete
    exact undisturbed_userDelete id s
  · exact undisturbed_service s (cascade_db fun id heq => hdelete ⟨id, heq⟩)
      (dbQuiet_users h s.service.db) (dbQuiet_profiles h s.service.db)

/-- **Quiet statements leave names alone.** -/
theorem undisturbed_exec {i : AccountStmt} (h : i.quiet = true) (s : AccountState) :
    Undisturbed s (i.exec s).2 := by
  have hsame : ∀ {s' : AccountState}, s'.service = s.service →
      s'.identities = s.identities → s'.emailFlows = s.emailFlows →
      s'.providers = s.providers → Undisturbed s s' := fun hservice hids hflows hproviders =>
    (LinksKept.of_eq hids hflows hproviders).undisturbed_of_eq hservice
  have hids : ∀ {s' : AccountState}, (∀ x ∈ s.identities.rows, ∃ x' ∈ s'.identities.rows,
        x'.userId = x.userId ∧ x'.identityNamespace = x.identityNamespace ∧
          x'.subject = x.subject) →
      s'.service = s.service → s'.emailFlows = s.emailFlows →
      s'.providers = s.providers → Undisturbed s s' := fun h hservice hflows hproviders =>
    (LinksKept.of_rows h (fun f hf => ⟨f, hflows ▸ hf, rfl⟩) hproviders).undisturbed_of_eq
      hservice
  have hflows : ∀ {s' : AccountState}, (∀ f' ∈ s'.emailFlows.rows,
        ∃ f ∈ s.emailFlows.rows, f.providerId = f'.providerId) →
      s'.service = s.service → s'.identities = s.identities →
      s'.providers = s.providers → Undisturbed s s' := fun h hservice hids hproviders =>
    (LinksKept.of_rows (fun x hx => ⟨x, hids ▸ hx, rfl, rfl, rfl⟩) h
      hproviders).undisturbed_of_eq hservice
  cases i with
  | service i =>
      cases i with
      | db i => exact undisturbed_db h s
      | txn t => cases h
      | _ =>
          exact undisturbed_service s (fun _ => rfl) (fun u hu => ⟨u, hu, rfl, rfl⟩)
            fun _ hp => hp
  | userCreate input => cases h
  | emailFlowCreate input => cases h
  | providerCreate row => cases h
  | providerUpdate id patch => cases h
  | providerDelete id => cases h
  | identityDeleteForUser id userId => cases h
  | identityTouchLogin id email display metadata now =>
      refine hids (fun x hx => ?_) rfl rfl rfl
      refine ⟨_, List.mem_map.mpr ⟨x, hx, rfl⟩, ?_⟩
      split <;> exact ⟨rfl, rfl, rfl⟩
  | identityCreate input =>
      simp only [AccountStmt.exec]
      split
      · split
        · next identities hinsert =>
            obtain ⟨hrows, -, -, -⟩ := Table.insert?_eq_some hinsert
            refine hids (fun x hx => ?_) rfl rfl rfl
            have hx' : x ∈ identities.rows := by
              rw [hrows]
              exact List.mem_append_left _ hx
            exact ⟨x, hx', rfl, rfl, rfl⟩
        · exact hids (fun x hx => ⟨x, hx, rfl, rfl, rfl⟩) rfl rfl rfl
      · exact hids (fun x hx => ⟨x, hx, rfl, rfl, rfl⟩) rfl rfl rfl
  | loginFlowCreate input =>
      simp only [AccountStmt.exec]
      split
      · split <;> exact hsame rfl rfl rfl rfl
      · exact hsame rfl rfl rfl rfl
  | bindingFlowCreate userId input =>
      simp only [AccountStmt.exec]
      split
      · split <;> exact hsame rfl rfl rfl rfl
      · exact hsame rfl rfl rfl rfl
  | emailFlowUpdateRequest id email hash now =>
      refine hflows (fun f hf => ?_) rfl rfl rfl
      obtain ⟨g, hg, rfl⟩ := List.mem_map.mp hf
      refine ⟨g, hg, ?_⟩
      split <;> rfl
  | emailFlowConsume id now =>
      refine hflows (fun f hf => ?_) rfl rfl rfl
      obtain ⟨g, hg, rfl⟩ := List.mem_map.mp hf
      refine ⟨g, hg, ?_⟩
      split <;> rfl
  | emailFlowCleanupExpired now =>
      exact hflows (fun f hf => ⟨f, (List.mem_filter.mp hf).1, rfl⟩) rfl rfl rfl
  | _ => exact hsame rfl rfl rfl rfl

/-! ## Statements that write one -/

section Writes

variable {P : Table providerSchema} {ties : List (Nat × String)} {s : AccountState}

theorem NamesOk.quiet {i : AccountStmt} (h : NamesOk P ties s) (hi : i.quiet = true) :
    NamesOk P ties (i.exec s).2 := h.undisturbed (undisturbed_exec hi s)

/-- What an account insert does. -/
theorem exec_userCreate (input : CreateAccount) (s : AccountState) :
    LinksKept s ((AccountStmt.userCreate input).exec s).2 ∧
      ((AccountStmt.userCreate input).exec s).2.profiles = s.profiles ∧
      (((AccountStmt.userCreate input).exec s).1 = none ∧
          ((AccountStmt.userCreate input).exec s).2.users.rows = s.users.rows ∨
        ((AccountStmt.userCreate input).exec s).1 = some (newAccount s.users.seq input) ∧
          ((AccountStmt.userCreate input).exec s).2.users.rows =
            s.users.rows ++ [newAccount s.users.seq input]) := by
  simp only [AccountStmt.exec]
  split
  · next users hinsert =>
      obtain ⟨hrows, -, -, -⟩ := Table.insert?_eq_some hinsert
      exact ⟨.of_eq rfl rfl rfl, rfl, Or.inr ⟨rfl, hrows⟩⟩
  · exact ⟨.of_eq rfl rfl rfl, rfl, Or.inl ⟨rfl, rfl⟩⟩

/-- An account under a free name, which is not a reserved one unless the account
is linked in the end. -/
theorem NamesOk.userCreate {input : CreateAccount} {s' : AccountState}
    (h : NamesOk P [] s) (hfree : NameFree s.service.db input.username none)
    (hs : LinksKept ((AccountStmt.userCreate input).exec s).2 s')
    (hservice : s'.service = ((AccountStmt.userCreate input).exec s).2.service)
    (hreserved : isReservedLinuxdoProfileName input.username = true →
      ∃ subject, Linked s' s.users.seq subject ∧
        input.username = linuxdoUsername subject) : NamesOk P [] s' := by
  obtain ⟨hkept, hprofiles, hrows⟩ := exec_userCreate input s
  have husers' : s'.users = ((AccountStmt.userCreate input).exec s).2.users :=
    congrArg (·.db.users) hservice
  have hprofiles' : s'.profiles = ((AccountStmt.userCreate input).exec s).2.profiles :=
    congrArg (·.db.profiles) hservice
  refine h.writeUser s.users.seq input.username (hkept.trans hs)
    ⟨fun u hu heq => ?_, fun p hp heq => ?_⟩ ?_ (hprofiles'.trans hprofiles)
    (fun t ht => absurd ht List.not_mem_nil) hreserved
  · cases hfree.users u hu heq
  · cases hfree.profiles p hp heq
  · intro u hu
    rw [husers'] at hu
    rcases hrows with ⟨-, hrows⟩ | ⟨-, hrows⟩
    · exact Or.inr ⟨u, hrows ▸ hu, rfl, rfl⟩
    · rw [hrows, List.mem_append, List.mem_singleton] at hu
      rcases hu with hu | rfl
      · exact Or.inr ⟨u, hu, rfl, rfl⟩
      · exact Or.inl ⟨rfl, rfl⟩

/-- A profile of a user, under a name no other user has. -/
theorem NamesOk.profileInsert (h : NamesOk P ties s) (input : CreateProfile)
    (hfree : ∀ u ∈ s.users.rows,
      toAsciiLowercase u.username = toAsciiLowercase input.name → u.id = input.userId)
    (hreserved : isReservedLinuxdoProfileName input.name = true →
      ∃ subject, (input.userId, subject) ∈ ties ∧
        input.name ∈ linuxdoProfileNames subject) :
    NamesOk P ties ((AccountStmt.service (.db (.profileInsert input))).exec s).2 := by
  -- a refused insert moves the sequence and nothing else
  have hrefused : ∀ {s' : AccountState}, LinksKept s s' → s'.users = s.users →
      s'.profiles.rows = s.profiles.rows → NamesOk P ties s' := by
    intro s' hkept husers hrows
    exact h.undisturbed (hkept.undisturbed (fun u hu => ⟨u, husers ▸ hu, rfl, rfl⟩)
      fun p hp => hrows ▸ hp)
  simp only [AccountStmt.exec, ServiceStmt.exec, DbStmt.exec, AccountState.cascade]
  split
  · exact hrefused (.of_eq rfl rfl rfl) rfl rfl
  · next user huser =>
      obtain ⟨hmem, hid⟩ := Table.of_find? huser
      have hthere : ¬ Gone s input.userId := fun hgone =>
        hgone.1 user hmem (of_decide_eq_true hid)
      split
      · next profiles hinsert =>
          obtain ⟨hrows, -, -, -⟩ := Table.insert?_eq_some hinsert
          refine h.writeProfile input.userId input.name (.of_eq rfl rfl rfl) rfl hfree ?_
            hthere ?_
          · intro p hp
            change p ∈ profiles.rows at hp
            rw [hrows, List.mem_append, List.mem_singleton] at hp
            rcases hp with hp | rfl
            · exact Or.inl hp
            · exact Or.inr ⟨rfl, rfl, rfl⟩
          · intro hres
            obtain ⟨subject, htie, hname⟩ := hreserved hres
            exact ⟨subject, (h.ties _ htie).resolve_right hthere, hname⟩
      · exact hrefused (.of_eq rfl rfl rfl) rfl rfl

/-- A flow of a provider that is not LinuxDO. -/
theorem NamesOk.emailFlowCreate {input : CreateEmailFlow} (h : NamesOk P ties s)
    (hkind : ∀ p ∈ P.rows, p.id = input.providerId → p.kind ≠ .linuxDo) :
    NamesOk P ties ((AccountStmt.emailFlowCreate input).exec s).2 := by
  have hflows : ∀ {flows : Table emailFlowSchema},
      (∀ f ∈ flows.rows, f ∈ s.emailFlows.rows ∨ f.providerId = input.providerId) →
      NamesOk P ties { s with emailFlows := flows } := by
    intro flows hrows
    refine ⟨h.providers, h.users, h.normalized, h.owned, h.reservedUser, h.reservedProfile,
      ?_, h.ties⟩
    intro f hf p hp heq
    rcases hrows f hf with hf | hid
    · exact h.flows f hf p hp heq
    · exact hkind p hp (heq.trans hid)
  simp only [AccountStmt.exec]
  split
  · split
    · next flows hinsert =>
        obtain ⟨hrows, -, -, -⟩ := Table.insert?_eq_some hinsert
        refine hflows fun f hf => ?_
        rw [hrows, List.mem_append, List.mem_singleton] at hf
        rcases hf with hf | rfl
        · exact Or.inl hf
        · exact Or.inr rfl
    · exact hflows fun f hf => Or.inl hf
  · exact hflows fun f hf => Or.inl hf

end Writes

end AsterYggdrasil.External
