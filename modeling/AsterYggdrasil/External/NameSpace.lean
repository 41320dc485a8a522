import AsterYggdrasil.External.AccountNames
import AsterYggdrasil.Interleave.Sequence

/-!
# One name space

What the rules for names say about a site that started without accounts, after
any sequence of calls: users and profiles share one name space, and the names
`linuxdo_N` belong to LinuxDO accounts.  A subject that is too long for a name
is cut.
-/

namespace AsterYggdrasil.External

open Interleave Relational Prog

/-- A site without accounts obeys the rules. -/
theorem namesOk_fresh (providers : Table providerSchema) (invitations : Table invitationSchema)
    (now : Nat) : NamesOk providers [] (.fresh providers invitations now) :=
  { providers := rfl
    users := fun _ h => absurd h List.not_mem_nil
    normalized := fun _ h => absurd h List.not_mem_nil
    owned := fun _ h => absurd h List.not_mem_nil
    reservedUser := fun _ h => absurd h List.not_mem_nil
    reservedProfile := fun _ h => absurd h List.not_mem_nil
    flows := fun _ h => absurd h List.not_mem_nil
    ties := fun _ h => absurd h List.not_mem_nil }

/-- The state after a sequence of calls on a site that started without accounts. -/
def siteAfter (lib : Library) (providers : Table providerSchema)
    (invitations : Table invitationSchema) (now : Nat) (calls : List AccountCall) :
    AccountState :=
  serve (externalMachine lib) (AccountCall.body lib) (.fresh providers invitations now) calls

/-- **The rules hold after every sequence of calls.** -/
theorem siteAfter_namesOk (lib : Library) (providers : Table providerSchema)
    (invitations : Table invitationSchema) (now : Nat) (calls : List AccountCall) :
    NamesOk providers [] (siteAfter lib providers invitations now calls) := by
  refine serve_induct (M := externalMachine lib) (G := fun _ _ => True)
    (P := fun _ s => NamesOk providers [] s) (namesOk_fresh providers invitations now) ?_
    (guarded_of_forall (fun _ _ => trivial) _ calls)
  intro done call hdone _
  exact (call.keeps_body _ hdone).1

/-- User names and profile names share one space. -/
structure OneNameSpace (s : AccountState) : Prop where
  users : ∀ u ∈ s.users.rows, ∀ v ∈ s.users.rows,
    toAsciiLowercase u.username = toAsciiLowercase v.username → u = v
  profiles : ∀ p ∈ s.profiles.rows, ∀ q ∈ s.profiles.rows,
    toAsciiLowercase p.name = toAsciiLowercase q.name → p = q
  across : ∀ p ∈ s.profiles.rows, ∀ u ∈ s.users.rows,
    toAsciiLowercase p.name = toAsciiLowercase u.username → p.userId = u.id

/-- **One name space.**  After any sequence of calls, ignoring ASCII case, no two
users have one name, no two profiles have one name, and no profile has the name
of a user other than its owner. -/
theorem names_share_one_space (lib : Library) (providers : Table providerSchema)
    (invitations : Table invitationSchema) (now : Nat) (calls : List AccountCall) :
    OneNameSpace (siteAfter lib providers invitations now calls) := by
  have h := siteAfter_namesOk lib providers invitations now calls
  refine ⟨fun u hu v hv heq => ?_, fun p hp q hq heq => ?_, h.owned⟩
  · exact Table.eq_of_ident _ hu hv (h.users u hu v hv heq)
  · have hclash : profileSchema.clash p q = true := by
      simp [profileSchema, h.normalized p hp, h.normalized q hq, heq]
    exact Table.eq_of_clash _ hp hq hclash

/-! ## Reserved names -/

/-- Exactly `linuxdo_` and one or more digits. -/
def linuxdoName (ds : List Char) : String := String.ofList (linuxdoUsernamePrefix ++ ds)

theorem isReserved_linuxdoName {ds : List Char} (hds : Digits ds) :
    isReservedLinuxdoProfileName (linuxdoName ds) = true :=
  isReserved_iff.mpr ⟨ds, hds, String.toList_ofList⟩

/-- **Reserved names belong to LinuxDO accounts.**  After any sequence of calls a
user named `linuxdo_N` is linked to a LinuxDO identity whose subject begins with
`N` (all of it, or its first eight digits), and a profile of such a name belongs to
a user who is linked to a LinuxDO identity that the name was made from. -/
theorem reserved_names_linked (lib : Library) (providers : Table providerSchema)
    (invitations : Table invitationSchema) (now : Nat) (calls : List AccountCall)
    (ds : List Char) (hds : Digits ds) :
    (∀ u ∈ (siteAfter lib providers invitations now calls).users.rows,
      u.username = linuxdoName ds → ∃ subject,
        Linked (siteAfter lib providers invitations now calls) u.id subject ∧
          ds = subject.toList.take 8) ∧
    (∀ p ∈ (siteAfter lib providers invitations now calls).profiles.rows,
      p.name = linuxdoName ds → ∃ subject,
        Linked (siteAfter lib providers invitations now calls) p.userId subject ∧
          p.name ∈ linuxdoProfileNames subject) := by
  have h := siteAfter_namesOk lib providers invitations now calls
  generalize siteAfter lib providers invitations now calls = s at h ⊢
  have hreserved := isReserved_linuxdoName hds
  constructor
  · intro u hu hname
    rw [← hname] at hreserved
    obtain ⟨subject, hlink, hsubject⟩ := h.reservedUser u hu hreserved
    refine ⟨subject, hlink, ?_⟩
    have hlists := congrArg String.toList (hname.symm.trans hsubject)
    rw [linuxdoName, linuxdoUsername, String.toList_ofList, String.toList_ofList] at hlists
    exact List.append_cancel_left hlists
  · intro p hp hname
    rw [← hname] at hreserved
    exact h.reservedProfile p hp hreserved

/-- A LinuxDO login with a subject of nine digits. -/
def longSubjectSite : AccountState :=
  siteAfter plainLibrary ⟨[plainProvider 1 .linuxDo], 2, by decide, by decide⟩ .empty 0
    [.flow (plainStart .linuxDo),
      .flow (.finishCallback
        ⟨fun _ _ _ => .error .databaseOperation,
          fun _ _ _ => .ok ⟨123456789, "neo", none, none⟩, plainProvision, plainProfile, "flow"⟩
        (plainCallback .linuxDo))]

theorem longSubjectSite_rows :
    (longSubjectSite.users.rows.map fun u => (u.id, u.username)) = [(1, "linuxdo_12345678")] ∧
      (longSubjectSite.profiles.rows.map fun p => (p.userId, p.name)) = [(1, "neo")] ∧
      (longSubjectSite.identities.rows.map fun x => (x.userId, x.subject)) =
        [(1, "123456789")] := by
  decide +kernel

/-- The eight digits that fit into the name. -/
def cutSubject : List Char := ['1', '2', '3', '4', '5', '6', '7', '8']

theorem digits_cutSubject : Digits cutSubject :=
  ⟨List.cons_ne_nil _ _, List.all_eq_true.mp rfl⟩

theorem longSubjectSite_user :
    ∃ u ∈ longSubjectSite.users.rows, u.id = 1 ∧ u.username = linuxdoName cutSubject := by
  have hrow : (1, "linuxdo_12345678") ∈
      longSubjectSite.users.rows.map fun u => (u.id, u.username) := by
    rw [longSubjectSite_rows.1]
    exact List.mem_singleton_self _
  obtain ⟨u, hu, heq⟩ := List.mem_map.mp hrow
  exact ⟨u, hu, congrArg Prod.fst heq, (congrArg Prod.snd heq).trans (by decide)⟩

/-- The user of that login is linked to the subject its name was cut from. -/
theorem long_subject_linked : ∃ subject, Linked longSubjectSite 1 subject ∧
    cutSubject = subject.toList.take 8 := by
  obtain ⟨u, hu, hid, hname⟩ := longSubjectSite_user
  obtain ⟨subject, hlink, hcut⟩ := (reserved_names_linked plainLibrary _ .empty 0 _ cutSubject
    digits_cutSubject).1 u hu hname
  exact ⟨subject, hid ▸ hlink, hcut⟩

/-- Reserved names, in whatever case, identify their subject exactly. -/
def NamesIdentifySubjects (s : AccountState) : Prop :=
  ∀ ds, Digits ds →
    (∀ u ∈ s.users.rows, toAsciiLowercase u.username = linuxdoName ds →
      Linked s u.id (String.ofList ds)) ∧
    ∀ p ∈ s.profiles.rows, toAsciiLowercase p.name = linuxdoName ds →
      Linked s p.userId (String.ofList ds)

/-- **A subject of nine digits is cut**: the account `linuxdo_12345678` is linked
to subject `123456789` and to no other. -/
theorem long_subject_cut : ¬ ∀ (lib : Library) (providers : Table providerSchema)
    (invitations : Table invitationSchema) (now : Nat) (calls : List AccountCall),
    NamesIdentifySubjects (siteAfter lib providers invitations now calls) := by
  intro hall
  have hexact : NamesIdentifySubjects longSubjectSite := hall _ _ _ _ _
  obtain ⟨u, hu, hid, hname⟩ := longSubjectSite_user
  have hlower : toAsciiLowercase u.username = linuxdoName cutSubject := by
    rw [hname]
    decide
  obtain ⟨x, hx, -, -, hsubject⟩ := (hexact cutSubject digits_cutSubject).1 u hu hlower
  have hrow : (x.userId, x.subject) ∈ [(1, "123456789")] := by
    rw [← longSubjectSite_rows.2.2]
    exact List.mem_map.mpr ⟨x, hx, rfl⟩
  have hlong : x.subject = "123456789" := congrArg Prod.snd (List.mem_singleton.mp hrow)
  rw [hlong] at hsubject
  revert hsubject
  decide

end AsterYggdrasil.External
