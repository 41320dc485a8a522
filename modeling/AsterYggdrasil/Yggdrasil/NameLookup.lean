import AsterYggdrasil.Interleave.Sequence
import AsterYggdrasil.Yggdrasil.Handshake
import AsterYggdrasil.Yggdrasil.TokenHistory

/-!
# Looking up profiles by name

`profiles_by_names` answers each requested name from the cache of name
summaries if it can, and asks the database once for all the others.  A rename
evicts the old and the new name; the deletion of a profile evicts nothing.

`current_after_calls` shows that this keeps the cache current as long as no call
deletes a profile whose name is cached: every entry is the summary of a row, filed
under its own name.  `profilesByNames_exact_iff` says when an answer is then the list of
the existing profiles with the requested names, each once: when no name that is cached
is requested twice.
-/

namespace AsterYggdrasil

open Interleave Relational

/-! ## The lookup -/

/-- The steps of a lookup by names, beside those of the service. -/
inductive LookupStmt
  | service (i : ServiceStmt)
  | getProfileNameSummary (name : String)
  | setProfileNameSummary (profile : YggdrasilProfile)
  | profileListByNames (names : List String)

@[reducible] def LookupStmt.Reply : LookupStmt → Type
  | .service i => i.Reply
  | .getProfileNameSummary _ => Option YggdrasilProfile
  | .setProfileNameSummary _ => Unit
  | .profileListByNames _ => List MinecraftProfile

@[reducible] def lookupSignature : Signature := ⟨LookupStmt, LookupStmt.Reply⟩

/-- `normalized_name IN (…)`. -/
def MinecraftProfile.namedOneOf (names : List String) (p : MinecraftProfile) : Bool :=
  (names.map normalizeProfileName).contains p.normalizedName

/-- What one step does.  A summary is filed under the lower-case name. -/
def LookupStmt.exec : (i : LookupStmt) → ServiceState → i.Reply × ServiceState
  | .service i, s => i.exec s
  | .getProfileNameSummary name, s => (s.nameSummaries (toAsciiLowercase name), s)
  | .setProfileNameSummary profile, s =>
      ((), { s with
        nameSummaries := Function.update s.nameSummaries (toAsciiLowercase profile.name)
          (some profile) })
  | .profileListByNames names, s =>
      ((s.db.profiles.select (MinecraftProfile.namedOneOf names)).insertionSort
        fun a b => a.id ≤ b.id, s)

@[reducible] def lookupMachine : Machine lookupSignature where
  State := ServiceState
  exec := LookupStmt.exec

/-- Programs that look up profiles by name. -/
abbrev LookupProg := Prog lookupSignature ServiceError

def lookupStep (i : LookupStmt) : LookupProg i.Reply := Prog.stmt (S := lookupSignature) i

/-- The loop over the requested names: the summaries found in the cache, and the
names that were not. -/
def cachedSummaries : List String → LookupProg (List YggdrasilProfile × List String)
  | [] => pure ([], [])
  | name :: names => do
      match ← lookupStep (.getProfileNameSummary name) with
      | some profile =>
          let (summaries, missed) ← cachedSummaries names
          pure (profile :: summaries, missed)
      | none =>
          let (summaries, missed) ← cachedSummaries names
          pure (summaries, name :: missed)

/-- `profiles_by_names`. -/
def profilesByNames (names : List String) : LookupProg (List YggdrasilProfile) := do
  Prog.rejectIf (100 < names.length) (.new .tooManyProfilesRequested)
  let (summaries, missed) ← cachedSummaries names
  if missed.isEmpty then pure summaries
  else
    let profiles ← lookupStep (.profileListByNames missed)
    Prog.forEach (profiles.map profileSummary) fun profile =>
      lookupStep (.setProfileNameSummary profile)
    pure (summaries ++ profiles.map profileSummary)

/-! ## Calls -/

/-- Lookups and all calls of the service. -/
inductive LookupCall
  | profilesByNames (names : List String)
  | request (call : Call)

/-- The steps of the service among those of a lookup. -/
def serviceHom : Signature.Hom serviceSignature lookupSignature :=
  ⟨.service, fun _ r => r⟩

section Body

-- `verify_password` of the cryptography library
variable (verifyPassword : String → String → Except AsterError Bool)

def LookupCall.body : LookupCall → LookupProg (List YggdrasilProfile)
  | .profilesByNames names => AsterYggdrasil.profilesByNames names
  | .request call => do
      let _ ← (call.body verifyPassword).hoist serviceHom id
      pure []

end Body

/-! ## The answer -/

section Answer

open Prog

variable {s : ServiceState} {names : List String}

/-- The cached summary of a name. -/
def ServiceState.summaryOf (s : ServiceState) (name : String) : Option YggdrasilProfile :=
  s.nameSummaries (toAsciiLowercase name)

/-- The requested names that are not in the cache. -/
def ServiceState.missedNames (s : ServiceState) (names : List String) : List String :=
  names.filter fun name => (s.summaryOf name).isNone

/-- The loop finds what is in the cache. -/
theorem run_cachedSummaries (names : List String) (s : ServiceState) :
    (cachedSummaries names).run lookupMachine s =
      (.ok (names.filterMap s.summaryOf, s.missedNames names), s) := by
  induction names with
  | nil => rfl
  | cons name names ih =>
      have hread : (LookupStmt.getProfileNameSummary name).exec s = (s.summaryOf name, s) :=
        rfl
      simp only [cachedSummaries, lookupStep, bind_eq, stmt, act_bind, ok_bind, run_act,
        hread]
      cases hfound : s.summaryOf name with
      | some profile => simp [run_bind, ih, ServiceState.missedNames, hfound]
      | none => simp [run_bind, ih, ServiceState.missedNames, hfound]

/-- Filing summaries does not fail. -/
theorem run_fileSummaries (profiles : List YggdrasilProfile) (s : ServiceState) :
    ∃ s', (Prog.forEach profiles fun profile =>
      lookupStep (.setProfileNameSummary profile)).run lookupMachine s = (.ok (), s') := by
  induction profiles generalizing s with
  | nil => exact ⟨s, rfl⟩
  | cons profile profiles ih => exact ih _

/-- The rows that the database is asked for. -/
def ServiceState.missedRows (s : ServiceState) (names : List String) :
    List MinecraftProfile :=
  (s.db.profiles.select (MinecraftProfile.namedOneOf (s.missedNames names))).insertionSort
    fun a b => a.id ≤ b.id

/-- **The answer of a lookup**: the cached summaries of the names that are in the
cache, one for each time the name is requested, and the rows of the others. -/
theorem run_profilesByNames (hlength : names.length ≤ 100) (s : ServiceState) :
    ((profilesByNames names).run lookupMachine s).1 =
      .ok (names.filterMap s.summaryOf ++ (s.missedRows names).map profileSummary) := by
  have hfew : decide (100 < names.length) = false := by
    rw [decide_eq_false_iff_not]
    omega
  simp only [profilesByNames, bind_eq, hfew, rejectIf_false, ok_bind]
  rw [run_bind, run_cachedSummaries]
  dsimp only
  split
  · next hempty =>
      have hnone : s.missedRows names = [] := by
        rw [List.isEmpty_iff] at hempty
        have hno : s.db.profiles.select (MinecraftProfile.namedOneOf []) = [] :=
          List.filter_eq_nil_iff.mpr fun _ _ => by simp [MinecraftProfile.namedOneOf]
        rw [ServiceState.missedRows, hempty, hno, List.insertionSort_nil]
      rw [hnone]
      simp
  · obtain ⟨s', hfiled⟩ := run_fileSummaries ((s.missedRows names).map profileSummary) s
    have hrun : ∀ f : Unit → LookupProg (List YggdrasilProfile),
        ((Prog.forEach ((s.missedRows names).map profileSummary) fun profile =>
          lookupStep (.setProfileNameSummary profile)).bind f).run lookupMachine s =
            (f ()).run lookupMachine s' := fun f => by
      rw [run_bind, hfiled]
    show (((Prog.forEach ((s.missedRows names).map profileSummary) fun profile =>
      lookupStep (.setProfileNameSummary profile)).bind _).run lookupMachine s).1 = _
    rw [hrun]
    rfl

end Answer

/-! ## The right answer -/

section Right

variable {s : ServiceState} {names : List String}

/-- The name of the profile equals a requested name, ignoring ASCII case. -/
def MinecraftProfile.wantedBy (names : List String) (p : MinecraftProfile) : Bool :=
  names.any fun name => toAsciiLowercase name = toAsciiLowercase p.name

/-- One summary for each existing profile whose name is requested. -/
def ServiceState.wantedSummaries (s : ServiceState) (names : List String) :
    List YggdrasilProfile :=
  (s.db.profiles.select (MinecraftProfile.wantedBy names)).map profileSummary

/-- Every profile is indexed under its lower-case name. -/
def NamesTidy (db : Db) : Prop :=
  ∀ p ∈ db.profiles.rows, p.normalizedName = toAsciiLowercase p.name

/-- Every summary is filed under its lower-case name. -/
def Filed (s : ServiceState) : Prop :=
  ∀ key p, s.nameSummaries key = some p → toAsciiLowercase p.name = key

/-- Every summary is that of a profile. -/
def Fresh (s : ServiceState) : Prop :=
  ∀ key p, s.nameSummaries key = some p → ∃ row ∈ s.db.profiles.rows, profileSummary row = p

/-- No name that is cached is requested twice, ignoring ASCII case. -/
def CachedOnce (s : ServiceState) (names : List String) : Prop :=
  ((names.filter fun name => (s.summaryOf name).isSome).map toAsciiLowercase).Nodup

instance (s : ServiceState) (names : List String) : Decidable (CachedOnce s names) :=
  inferInstanceAs (Decidable (List.Nodup _))

/-- The profile's name is cached. -/
def ServiceState.isCached (s : ServiceState) (p : MinecraftProfile) : Bool :=
  (s.summaryOf p.name).isSome

/-- The requested profiles whose names are cached. -/
def ServiceState.cachedRows (s : ServiceState) (names : List String) :
    List MinecraftProfile :=
  (s.db.profiles.select (MinecraftProfile.wantedBy names)).filter s.isCached

/-- One row per name. -/
theorem row_unique_name (htidy : NamesTidy s.db) {p q : MinecraftProfile}
    (hp : p ∈ s.db.profiles.rows) (hq : q ∈ s.db.profiles.rows)
    (h : toAsciiLowercase p.name = toAsciiLowercase q.name) : p = q := by
  refine s.db.profiles.eq_of_clash hp hq ?_
  simp [profileSchema, htidy p hp, htidy q hq, h]

/-- The database is asked for the others. -/
theorem wanted_split (htidy : NamesTidy s.db) (names : List String) :
    (s.db.profiles.select (MinecraftProfile.wantedBy names)).Perm
      (s.cachedRows names ++ s.missedRows names) := by
  have hmissed : (s.db.profiles.select (MinecraftProfile.wantedBy names)).filter
      (fun p => !s.isCached p) =
        s.db.profiles.select (MinecraftProfile.namedOneOf (s.missedNames names)) := by
    unfold Table.select
    rw [List.filter_filter]
    refine List.filter_congr fun p hp => ?_
    rw [Bool.eq_iff_iff]
    simp only [ServiceState.isCached, ServiceState.summaryOf, MinecraftProfile.wantedBy,
      MinecraftProfile.namedOneOf, ServiceState.missedNames, normalizeProfileName,
      htidy p hp, Bool.and_eq_true, Bool.not_eq_true', Option.isSome_eq_false_iff,
      List.any_eq_true, decide_eq_true_eq, List.contains_iff_mem, List.mem_map,
      List.mem_filter]
    constructor
    · rintro ⟨hnone, name, hname, heq⟩
      exact ⟨name, ⟨hname, heq ▸ hnone⟩, heq⟩
    · rintro ⟨name, ⟨hname, hnone⟩, heq⟩
      exact ⟨heq ▸ hnone, name, hname, heq⟩
  have hsplit := List.filter_append_perm s.isCached
    (s.db.profiles.select (MinecraftProfile.wantedBy names))
  have hsorted : (s.missedRows names).Perm
      (s.db.profiles.select (MinecraftProfile.namedOneOf (s.missedNames names))) :=
    List.perm_insertionSort _ _
  rw [hmissed] at hsplit
  exact hsplit.symm.trans (hsorted.symm.append_left _)

theorem mem_cachedRows {p : MinecraftProfile} :
    p ∈ s.cachedRows names ↔ p ∈ s.db.profiles.rows ∧
      (∃ name ∈ names, toAsciiLowercase name = toAsciiLowercase p.name) ∧
      (s.summaryOf p.name).isSome := by
  simp [ServiceState.cachedRows, MinecraftProfile.wantedBy, ServiceState.isCached, and_assoc]

/-- The names of the cached rows are different. -/
theorem cachedRows_nodup (htidy : NamesTidy s.db) (names : List String) :
    ((s.cachedRows names).map fun p => toAsciiLowercase p.name).Nodup := by
  have hrows : (s.cachedRows names).Nodup := by
    have hsub : (s.cachedRows names).Sublist s.db.profiles.rows :=
      List.filter_sublist.trans List.filter_sublist
    refine List.Nodup.sublist hsub (s.db.profiles.unique.imp fun {a b} hclash heq => ?_)
    simp [heq, profileSchema] at hclash
  refine hrows.map_on fun p hp q hq h => ?_
  exact row_unique_name htidy (mem_cachedRows.mp hp).1 (mem_cachedRows.mp hq).1 h

/-- The names under which the cached answers were found. -/
theorem map_name_cached (hfiled : Filed s) (names : List String) :
    (names.filterMap s.summaryOf).map (fun p => toAsciiLowercase p.name) =
      (names.filter fun name => (s.summaryOf name).isSome).map toAsciiLowercase := by
  induction names with
  | nil => rfl
  | cons name names ih =>
      cases hfound : s.summaryOf name with
      | none => simp [hfound, ih]
      | some p => simp [hfound, ih, hfiled _ _ hfound]

/-- **The cached part of the answer**, from a current cache, is right exactly when it
repeats no name. -/
theorem cached_perm_iff (htidy : NamesTidy s.db) (hfiled : Filed s) (hfresh : Fresh s)
    (names : List String) :
    (names.filterMap s.summaryOf).Perm ((s.cachedRows names).map profileSummary) ↔
      CachedOnce s names := by
  have hnames := map_name_cached hfiled names
  have hdistinct := cachedRows_nodup htidy names
  have hsummary : ((s.cachedRows names).map profileSummary).map
      (fun p => toAsciiLowercase p.name) =
        (s.cachedRows names).map fun p => toAsciiLowercase p.name := by
    rw [List.map_map]
    rfl
  constructor
  · intro hperm
    rw [CachedOnce, ← hnames, (hperm.map _).nodup_iff, hsummary]
    exact hdistinct
  · intro honce
    rw [CachedOnce, ← hnames] at honce
    rw [← hsummary] at hdistinct
    refine (List.perm_ext_iff_of_nodup (.of_map _ honce) (.of_map _ hdistinct)).mpr fun p => ?_
    constructor
    · intro hp
      obtain ⟨name, hname, hfound⟩ := List.mem_filterMap.mp hp
      obtain ⟨row, hrow, rfl⟩ := hfresh _ p hfound
      have hkey : toAsciiLowercase row.name = toAsciiLowercase name := hfiled _ _ hfound
      refine List.mem_map_of_mem (mem_cachedRows.mpr ⟨hrow, ⟨name, hname, hkey.symm⟩, ?_⟩)
      rw [ServiceState.summaryOf, hkey]
      exact Option.isSome_of_eq_some hfound
    · intro hp
      obtain ⟨row, hrow, rfl⟩ := List.mem_map.mp hp
      obtain ⟨hmem, ⟨name, hname, hkey⟩, hcached⟩ := mem_cachedRows.mp hrow
      obtain ⟨p, hfound⟩ := Option.isSome_iff_exists.mp hcached
      rw [ServiceState.summaryOf, ← hkey] at hfound
      obtain ⟨row', hrow', rfl⟩ := hfresh _ p hfound
      -- the entry is the summary of the row of this name
      have hname' : toAsciiLowercase row'.name = toAsciiLowercase row.name :=
        (hfiled _ _ hfound).trans hkey
      rw [row_unique_name htidy hrow' hmem hname'] at hfound
      exact List.mem_filterMap.mpr ⟨name, hname, hfound⟩

/-- **When a lookup is right**, from a current cache. -/
theorem answer_perm_iff (htidy : NamesTidy s.db) (hfiled : Filed s) (hfresh : Fresh s)
    (names : List String) :
    (names.filterMap s.summaryOf ++ (s.missedRows names).map profileSummary).Perm
      (s.wantedSummaries names) ↔ CachedOnce s names := by
  have hsplit := (wanted_split htidy names).map profileSummary
  rw [List.map_append] at hsplit
  rw [← cached_perm_iff htidy hfiled hfresh names, ServiceState.wantedSummaries,
    hsplit.congr_right, List.perm_append_right_iff]

end Right

/-! ## Sequences of calls -/

section Sequences

open Prog

/-- Rows are indexed and summaries filed under the lower-case name. -/
structure NamesFiled (s : ServiceState) : Prop where
  tidy : NamesTidy s.db
  filed : Filed s

theorem exec_namesTidy (i : DbStmt) {db : Db} (h : NamesTidy db) :
    NamesTidy (i.exec db).2 := by
  cases exec_profileEffect i db with
  | same seq rows => exact fun p hp => h p (rows ▸ hp)
  | delete which seq rows => exact fun p hp => h p (rows p hp)
  | insert row id seq rows named =>
      intro p hp
      rw [rows, List.mem_append, List.mem_singleton] at hp
      rcases hp with hp | rfl
      · exact h p hp
      · exact named
  | rename id name renameCount which seq rows =>
      intro p hp
      rw [rows] at hp
      obtain ⟨q, hq, rfl⟩ := List.mem_map.mp hp
      split
      · rfl
      · exact h q hq

/-- One step of the service. -/
theorem NamesFiled.service {s : ServiceState} (h : NamesFiled s) (i : ServiceStmt) :
    NamesFiled (i.exec s).2 := by
  cases i with
  | db i => exact ⟨exec_namesTidy i h.tidy, h.filed⟩
  | txn t =>
      have hcommit : NamesTidy s.db → NamesTidy (t.commit s.db).2 :=
        t.commit_respects (r := fun a b => NamesTidy a → NamesTidy b) (fun _ h => h)
          (fun _ _ _ hab hbc ha => hbc (hab ha)) (fun i _ _ => exec_namesTidy i) s.db
      exact ⟨hcommit h.tidy, h.filed⟩
  | deleteProfileNameSummary name =>
      refine ⟨h.tidy, fun key p hp => ?_⟩
      by_cases hkey : key = toAsciiLowercase name
      · simp [ServiceStmt.exec, hkey] at hp
      · simp only [ServiceStmt.exec, Function.update_of_ne hkey] at hp
        exact h.filed key p hp
  | _ => exact ⟨h.tidy, h.filed⟩

/-- One step of a lookup. -/
theorem NamesFiled.exec {s : ServiceState} (h : NamesFiled s) (i : LookupStmt) :
    NamesFiled (i.exec s).2 := by
  cases i with
  | service i => exact h.service i
  | setProfileNameSummary profile =>
      refine ⟨h.tidy, fun key p hp => ?_⟩
      by_cases hkey : key = toAsciiLowercase profile.name
      · simp only [LookupStmt.exec, hkey, Function.update_self, Option.some.injEq] at hp
        rw [hkey, hp]
      · simp only [LookupStmt.exec, Function.update_of_ne hkey] at hp
        exact h.filed key p hp
  | _ => exact h

variable {verifyPassword : String → String → Except AsterError Bool}

/-- A sequence of calls. -/
theorem filed_after_calls {s₀ : ServiceState} (h : NamesFiled s₀)
    (calls : List LookupCall) :
    NamesFiled (serve lookupMachine (LookupCall.body verifyPassword) s₀ calls) := by
  have hkeeps : ∀ call : LookupCall,
      (call.body verifyPassword).Keeps lookupMachine NamesFiled fun _ => True := fun call =>
    ((Within.trivial _).mono fun i _ s hs => hs.exec i).keeps
  induction calls generalizing s₀ with
  | nil => exact h
  | cons call calls ih => exact ih (hkeeps call s₀ h).1

/-! ### The cache stays current -/

variable {s s' : ServiceState}

/-- Filing the summaries of rows. -/
theorem fresh_fileSummaries {profiles : List YggdrasilProfile} (h : Fresh s)
    (hrows : ∀ p ∈ profiles, ∃ row ∈ s.db.profiles.rows, profileSummary row = p) :
    (Prog.forEach profiles fun profile =>
      lookupStep (.setProfileNameSummary profile)).Wp lookupMachine (fun _ s' => Fresh s') s := by
  induction profiles generalizing s with
  | nil => exact h
  | cons profile profiles ih =>
      refine ih ?_ fun p hp => hrows p (List.mem_cons_of_mem _ hp)
      intro key p hp
      by_cases hkey : key = toAsciiLowercase profile.name
      · simp only [LookupStmt.exec, hkey, Function.update_self, Option.some.injEq] at hp
        subst hp
        exact hrows _ (List.mem_cons_self ..)
      · simp only [LookupStmt.exec, Function.update_of_ne hkey] at hp
        exact h key p hp

/-- A lookup files what it has read. -/
theorem fresh_profilesByNames (h : Fresh s) (names : List String) :
    Fresh ((profilesByNames names).run lookupMachine s).2 := by
  have hrun : (profilesByNames names).Wp lookupMachine (fun _ s' => Fresh s') s := by
    refine wp_rejectIf (fun _ => h) fun _ => wp_bind_of_run (run_cachedSummaries names s) ?_
    by_cases hmissed : (s.missedNames names).isEmpty = true
    · simp only [hmissed, if_true]
      exact h
    · simp only [hmissed]
      refine wp_stmt_bind.mpr (wp_bind.mpr ((fresh_fileSummaries h fun p hp => ?_).mono ?_))
      · obtain ⟨row, hrow, rfl⟩ := List.mem_map.mp hp
        have hlisted := (List.mem_insertionSort _).mp hrow
        exact ⟨row, (Table.mem_select.mp hlisted).1, rfl⟩
      · intro r s' hfresh
        cases r <;> exact hfresh
  exact hrun

/-- A call of the service among those of a lookup. -/
theorem after_request (call : Call) :
    after lookupMachine (LookupCall.body verifyPassword) s (.request call) =
      after serviceMachine (Call.body verifyPassword) s call := by
  have hview (i) (s : ServiceState) :
      serviceHom.reply i (lookupMachine.exec (serviceHom.stmt i) s).1 =
          (serviceMachine.exec i (id s)).1 ∧
        id (lookupMachine.exec (serviceHom.stmt i) s).2 = (serviceMachine.exec i (id s)).2 :=
    ⟨rfl, rfl⟩
  have hstate := (run_hoist_part (M := serviceMachine) (N := lookupMachine) (h := serviceHom)
    (g := id) hview (call.body verifyPassword) s).2
  have hrun : ((call.body verifyPassword).hoist serviceHom id).Wp lookupMachine
      (fun _ s' => s' = after serviceMachine (Call.body verifyPassword) s call) s := hstate
  have hbody : (LookupCall.body verifyPassword (.request call)).Wp lookupMachine
      (fun _ s' => s' = after serviceMachine (Call.body verifyPassword) s call) s := by
    refine wp_bind.mpr (hrun.mono fun r s' h => ?_)
    cases r <;> exact h
  exact hbody

/-- The service files no summaries. -/
theorem summaries_after (call : Call) (s : ServiceState) {key : String} {p : YggdrasilProfile}
    (h : (after serviceMachine (Call.body verifyPassword) s call).nameSummaries key = some p) :
    s.nameSummaries key = some p := by
  refine Within.run_respects (M := serviceMachine)
    (r := fun s s' => ∀ key p, s'.nameSummaries key = some p → s.nameSummaries key = some p)
    (fun _ _ _ h => h) (fun _ _ _ hab hbc key p h => hab key p (hbc key p h))
    (Within.mono (Within.trivial (call.body verifyPassword)) fun i _ s key p h => ?_) s key p h
  cases i with
  | deleteProfileNameSummary name =>
      by_cases hkey : key = toAsciiLowercase name
      · simp [ServiceStmt.exec, hkey] at h
      · simp only [ServiceStmt.exec, Function.update_of_ne hkey] at h
        exact h
  | _ => exact h

/-! ### Deletions -/

section Deletions

variable {doomed : Nat → String → Prop}

theorem Txn.commit_staysBut (t : Txn) (db : Db) : StaysBut doomed db (t.commit db).2 := by
  have hkinds : .deleteProfile ∉ t.kinds ∧ .deleteAccount ∉ t.kinds := by
    cases t <;> simp [Txn.kinds]
  exact t.commit_respects .refl (fun _ _ _ => .trans) (fun i hi db =>
    exec_staysBut (ne_kind hi (by decide) hkinds.1) (ne_kind hi (by decide) hkinds.2) db) db

/-- A program that deletes neither a profile nor an account. -/
theorem Uses.staysBut {α : Type} {kinds : List StepKind} {p : Service α} (hp : Uses kinds p)
    (hprofile : .deleteProfile ∉ kinds) (haccount : .deleteAccount ∉ kinds)
    (s : ServiceState) : StaysBut doomed s.db (p.run serviceMachine s).2.db := by
  refine Within.run_respects (M := serviceMachine) (r := fun s s' => StaysBut doomed s.db s'.db)
    (fun s => .refl s.db) (fun _ _ _ => .trans) (Within.mono hp fun i hi s => ?_) s
  have hno := ne_kind hi (by decide) hprofile
  have hno' := ne_kind hi (by decide) haccount
  cases i with
  | db i => exact exec_staysBut hno hno' s.db
  | txn t => exact t.commit_staysBut s.db
  | _ => exact .refl s.db

/-- Sequencing after such a program; what follows may use that every profile is there. -/
theorem Uses.wp_staysBut {α β : Type} {kinds : List StepKind} {p : Service α}
    {f : α → Service β} {db₀ : Db} (hp : Uses kinds p) (hprofile : .deleteProfile ∉ kinds)
    (haccount : .deleteAccount ∉ kinds) (h : StaysBut doomed db₀ s.db)
    (hf : ∀ a s', StaysBut (fun _ _ => False) s.db s'.db → StaysBut doomed db₀ s'.db →
      (f a).Wp serviceMachine (fun _ s' => StaysBut doomed db₀ s'.db) s') :
    (p.bind f).Wp serviceMachine (fun _ s' => StaysBut doomed db₀ s'.db) s := by
  have hall : StaysBut (fun _ _ => False) s.db (p.run serviceMachine s).2.db :=
    hp.staysBut hprofile haccount s
  have hkept := h.trans (hp.staysBut hprofile haccount s)
  refine wp_run_bind (fun a s' hrun => ?_) fun e s' hrun => ?_
  · rw [hrun] at hall hkept
    exact hf a s' hall hkept
  · rw [hrun] at hkept
    exact hkept

/-- The row with the id, if there is one, is deleted. -/
theorem run_profileDeleteById {id : Nat} {db₀ : Db} (h : StaysBut doomed db₀ s.db)
    (hdoomed : ∀ p ∈ s.db.profiles.rows, p.id = id → doomed p.userId p.uuid) :
    (onPool ServiceError.aster (profileDeleteById id)).Wp serviceMachine
      (fun _ s' => StaysBut doomed db₀ s'.db) s := by
  refine wp_reply_bind (M := serviceMachine) fun found _ => ?_
  cases found with
  | none => exact h
  | some existing => exact h.trans (exec_profileDelete_staysBut hdoomed)

/-- **`delete_profile_for_user`** deletes the user's profile with the uuid at most. -/
theorem run_deleteProfileForUser (userId : Nat) (uuid : String) (s : ServiceState) :
    (deleteProfileForUser userId uuid).Wp serviceMachine
      (fun _ s' => StaysBut (fun owner id => owner = userId ∧ id = uuid) s.db s'.db) s := by
  refine ((plain_ensureMayManageProfiles _).uses []).wp_staysBut (by simp) (by simp) (.refl _)
    fun _ s₁ _ h₁ => wp_stmt_bind.mpr ?_
  have hread : (serviceMachine.exec (.db (.profileFindByUuidForUser uuid userId)) s₁).2 = s₁ :=
    rfl
  rw [hread]
  cases hfound : (serviceMachine.exec (.db (.profileFindByUuidForUser uuid userId)) s₁).1 with
  | none => exact h₁
  | some profile =>
      obtain ⟨hmem, hwhich⟩ := Table.of_find? hfound
      have hkey : profile.userId = userId ∧ profile.uuid = uuid := by
        simp at hwhich
        exact ⟨hwhich.2, hwhich.1⟩
      refine wp_rejectIf (fun _ => h₁) fun _ => ?_
      refine ((plain_invalidateForProfile _).uses []).wp_staysBut (by simp) (by simp) h₁
        fun _ s₂ h₁₂ h₂ => ?_
      -- the two statements on bindings and tokens leave the profiles alone
      refine wp_stmt_bind.mpr (wp_stmt_bind.mpr ?_)
      refine wp_bind.mpr (Wp.mono (M := serviceMachine) (Q := fun _ s' =>
        StaysBut (fun owner id => owner = userId ∧ id = uuid) s.db s'.db)
        (run_profileDeleteById ?_ ?_) fun r s' h => ?_)
      · exact h₂
      · intro q hq hid
        obtain ⟨p, hp, hpid, howner, huuid⟩ := h₁₂ profile hmem fun h => h
        have hsame : q = p := s₂.db.profiles.eq_of_ident hq hp (hid.trans hpid.symm)
        rw [hsame, howner, huuid]
        exact hkey
      · cases r <;> exact h

/-- `delete_user` deletes profiles of the user only. -/
theorem run_deleteUser (userId : Nat) (s : ServiceState) :
    (deleteUser userId).Wp serviceMachine
      (fun _ s' => StaysBut (fun owner _ => owner = userId) s.db s'.db) s := by
  refine wp_rejectIf (fun _ => .refl _) fun _ => ?_
  refine ((plain_userFindById _ _).uses []).wp_staysBut (by simp) (by simp) (.refl _)
    fun _ s₁ _ h₁ => wp_stmt_bind.mpr (wp_bind.mpr ?_)
  refine wp_forEach (M := serviceMachine)
    (fun _ s' => StaysBut (fun owner _ => owner = userId) s.db s'.db) ?_ ?_ h₁
  · intro profile rest s' h'
    refine wp_bind.mpr ((run_deleteProfileForUser userId profile.uuid s').mono ?_)
    intro r s'' h''
    have hkept := h'.trans (h''.mono fun _ _ hdoomed => hdoomed.1)
    cases r <;> exact hkept
  · intro s₂ h₂
    refine ((plain_invalidateForUser _).uses []).wp_staysBut (by simp) (by simp) h₂
      fun hashes s₃ _ h₃ => ?_
    refine (uses_revokeAllReturningHashes _ _).wp_staysBut (by simp) (by simp) h₃
      fun _ s₄ _ h₄ => ?_
    refine ((plain_invalidateTokenCacheHashes hashes).uses []).wp_staysBut (by simp) (by simp) h₄
      fun _ s₅ _ h₅ => ?_
    refine ((plain_userFindById _ _).uses []).wp_staysBut (by simp) (by simp) h₅
      fun _ s₆ _ h₆ => ?_
    exact h₆.trans (exec_userDelete_staysBut s₆.db userId)

/-- The profiles, by owner and uuid, that a call is asked to delete. -/
def LookupCall.deletes : LookupCall → Nat → String → Prop
  | .request (.deleteProfile userId uuid), owner, id => owner = userId ∧ id = uuid
  | .request (.deleteUser userId), owner, _ => owner = userId
  | _, _, _ => False

/-- **No call takes away another profile.** -/
theorem staysBut_after (call : Call) (s : ServiceState) :
    StaysBut (LookupCall.request call).deletes s.db
      (after serviceMachine (Call.body verifyPassword) s call).db := by
  by_cases hkinds : .deleteProfile ∈ call.kinds
  · cases call with
    | deleteProfile userId uuid =>
        have hbody : ((Call.deleteProfile userId uuid).body verifyPassword).Wp serviceMachine
            (fun _ s' => StaysBut (fun owner id => owner = userId ∧ id = uuid) s.db s'.db) s :=
          wp_bind_ok (run_deleteProfileForUser userId uuid s)
        exact hbody
    | deleteUser userId =>
        have hbody : ((Call.deleteUser userId).body verifyPassword).Wp serviceMachine
            (fun _ s' => StaysBut (fun owner _ => owner = userId) s.db s'.db) s :=
          wp_bind_ok (run_deleteUser userId s)
        exact hbody
    | _ => simp [Call.kinds] at hkinds
  · have haccount : .deleteAccount ∉ call.kinds := by
      cases call <;> simp [Call.kinds] at hkinds ⊢
    exact (call.uses_body verifyPassword).staysBut hkinds haccount s

end Deletions

/-- **The guard.**  A call deletes no profile whose name is cached. -/
def SparesCached (s : ServiceState) (call : LookupCall) : Prop :=
  ∀ p ∈ s.db.profiles.rows, call.deletes p.userId p.uuid → s.isCached p = false

/-- A call of the service keeps the cache current if the profiles whose names are cached
stay, with the summaries they had. -/
theorem Fresh.kept (h : Fresh s) (hfiled : Filed s)
    (hshrinks : ∀ key p, s'.nameSummaries key = some p → s.nameSummaries key = some p)
    (hstays : ∀ p ∈ s.db.profiles.rows, s.isCached p = true →
      ∃ p' ∈ s'.db.profiles.rows, p'.id = p.id)
    (hsame : ∀ p ∈ s.db.profiles.rows, s'.isCached p = true →
      ∀ p' ∈ s'.db.profiles.rows, p'.id = p.id → profileSummary p' = profileSummary p) :
    Fresh s' := by
  intro key p hp
  have hold := hshrinks key p hp
  obtain ⟨row, hrow, rfl⟩ := h key p hold
  have hkey : toAsciiLowercase row.name = key := hfiled _ _ hold
  have hcached : ∀ t : ServiceState, t.nameSummaries key = some (profileSummary row) →
      t.isCached row = true := by
    intro t ht
    rw [ServiceState.isCached, ServiceState.summaryOf, hkey]
    exact Option.isSome_of_eq_some ht
  obtain ⟨row', hrow', hid⟩ := hstays row hrow (hcached s hold)
  exact ⟨row', hrow', hsame row hrow (hcached s' hp) row' hrow' hid⟩

/-- A rename evicts the name that is not current any more. -/
theorem Renamed.summary {profile : MinecraftProfile} {result : RenameResult}
    (h : Renamed profile result s s') (hnamed : NamedIn s profile)
    (huuids : ColumnKept MinecraftProfile.uuid s.db s'.db) {p p' : MinecraftProfile}
    (hp : p ∈ s.db.profiles.rows) (hcached : s'.isCached p = true)
    (hp' : p' ∈ s'.db.profiles.rows) (hid : p'.id = p.id) :
    profileSummary p' = profileSummary p := by
  have hlt : p.id < s.db.profiles.seq := s.db.profiles.fresh p hp
  by_cases hwhich : p.id = profile.id
  · rw [ServiceState.isCached, ServiceState.summaryOf, hnamed p hp hwhich, h.evicted] at hcached
    cases hcached
  · have hname : p'.name = p.name := by
      rcases h.others.names.rows p' hp' with hother | hnew | ⟨q, hq, hqid, hname⟩
      · rw [h.id] at hother
        omega
      · omega
      · rw [s.db.profiles.eq_of_ident hp hq (hid.symm.trans hqid.symm)]
        exact hname.symm
    have huuid : p'.uuid = p.uuid := by
      rcases huuids.rows p' hp' with hnew | ⟨q, hq, hqid, huuid⟩
      · omega
      · rw [s.db.profiles.eq_of_ident hp hq (hid.symm.trans hqid.symm)]
        exact huuid.symm
    simp [profileSummary, hname, huuid]

/-- A profile whose name and UUID are kept is summarised as before. -/
theorem profileSummary_of_kept {db db' : Db} (hnames : NamesKept db db')
    (huuids : ColumnKept MinecraftProfile.uuid db db') {p p' : MinecraftProfile}
    (hp : p ∈ db.profiles.rows) (hp' : p' ∈ db'.profiles.rows) (hid : p'.id = p.id) :
    profileSummary p' = profileSummary p := by
  have hlt : p.id < db.profiles.seq := db.profiles.fresh p hp
  have hcolumn : ∀ {β : Type} {column : MinecraftProfile → β}, ColumnKept column db db' →
      column p' = column p := by
    intro β column hkept
    rcases hkept.rows p' hp' with hnew | ⟨q, hq, hqid, hcolumn⟩
    · omega
    · rw [db.profiles.eq_of_ident hp hq (hid.symm.trans hqid.symm)]
      exact hcolumn.symm
  simp [profileSummary, hcolumn hnames, hcolumn huuids]

/-- A cached profile outlives a call that spares the cached names. -/
theorem stays_of_spared {call : Call} (hG : SparesCached s (.request call)) :
    ∀ p ∈ s.db.profiles.rows, s.isCached p = true →
      ∃ p' ∈ (after serviceMachine (Call.body verifyPassword) s call).db.profiles.rows,
        p'.id = p.id := by
  intro p hp hcached
  have hspared : ¬ (LookupCall.request call).deletes p.userId p.uuid := by
    intro hdeletes
    rw [hG p hp hdeletes] at hcached
    cases hcached
  obtain ⟨p', hp', hid, -⟩ := staysBut_after call s p hp hspared
  exact ⟨p', hp', hid⟩

/-- A call that is no rename keeps the names. -/
theorem namesKept_after {call : Call} (hkinds : .rename ∉ call.kinds) :
    NamesKept s.db (after serviceMachine (Call.body verifyPassword) s call).db := by
  refine Within.run_respects (M := serviceMachine) (r := fun s s' => NamesKept s.db s'.db)
    (fun s => .refl s.db) (fun _ _ _ => .trans)
    (Within.mono (call.uses_body verifyPassword) fun i hi s => ?_) s
  have hrename : i.kind ≠ .rename := ne_kind hi (by decide) hkinds
  cases i with
  | db i => exact exec_namesKept hrename s.db
  | txn t =>
      apply Txn.commit_namesKept
      cases t with
      | renameProfile profile newName => exact absurd rfl hrename
      | _ => simp [Txn.kinds]
  | _ => exact .refl s.db

/-- One call of the service. -/
theorem fresh_request {call : Call} (h : Fresh s) (hfiled : Filed s)
    (hG : SparesCached s (.request call)) :
    Fresh (after serviceMachine (Call.body verifyPassword) s call) := by
  apply h.kept hfiled (fun key p => summaries_after call s) (stays_of_spared hG)
  intro p hp hcached p' hp' hid
  have huuids : ColumnKept MinecraftProfile.uuid s.db
      (after serviceMachine (Call.body verifyPassword) s call).db :=
    served_respects verifyPassword .refl (fun _ _ _ => .trans)
      (fun i db => (exec_profileEffect i db).columnKept fun _ _ _ _ _ => rfl) s [call]
  by_cases hkinds : .rename ∈ call.kinds
  · cases call with
    | renameProfile policy userId uuid newName =>
        have hafter : after serviceMachine (Call.body verifyPassword) s
            (.renameProfile policy userId uuid newName) =
              ((renameProfileForUser policy userId uuid newName).run
                serviceMachine s).2 := run_bind_ok_snd ..
        rw [hafter] at hcached hp' huuids
        rcases run_renameProfileForUser policy userId uuid newName s with
          hsame | ⟨profile, result, hnamed, -, hrenamed⟩
        · exact profileSummary_of_kept hsame.names huuids hp hp' hid
        · exact hrenamed.summary hnamed huuids hp hcached hp' hid
    | adminRenameProfile policy uuid newName =>
        have hafter : after serviceMachine (Call.body verifyPassword) s
            (.adminRenameProfile policy uuid newName) =
              ((adminRenameProfile policy uuid newName).run serviceMachine s).2 :=
          run_bind_ok_snd ..
        rw [hafter] at hcached hp' huuids
        rcases run_adminRenameProfile policy uuid newName s with
          hsame | ⟨profile, result, hnamed, -, hrenamed⟩
        · exact profileSummary_of_kept hsame.names huuids hp hp' hid
        · exact hrenamed.summary hnamed huuids hp hcached hp' hid
    | _ => simp [Call.kinds] at hkinds
  · exact profileSummary_of_kept (namesKept_after hkinds) huuids hp hp' hid

/-- **The cache stays current** in every sequence of calls that deletes no profile whose
name is cached. -/
theorem current_after_calls {s₀ : ServiceState} (h : NamesFiled s₀) (hfresh : Fresh s₀)
    {calls : List LookupCall}
    (hG : Guarded lookupMachine (LookupCall.body verifyPassword) SparesCached s₀ calls) :
    Fresh (serve lookupMachine (LookupCall.body verifyPassword) s₀ calls) := by
  refine serve_induct (P := fun _ s => Fresh s) hfresh ?_ hG
  intro done call hfresh hG
  cases call with
  | profilesByNames names => exact fresh_profilesByNames hfresh names
  | request call =>
      rw [after_request]
      exact fresh_request hfresh (filed_after_calls h done).filed hG

/-- The state after calls that start with one profile. -/
def playerAfter (calls : List LookupCall) : ServiceState :=
  serve lookupMachine (LookupCall.body plainPassword) onePlayer calls

/-- Alice is looked up, renamed and looked up under the new name. -/
def renamed : List LookupCall :=
  [.profilesByNames ["Alice"], .request (.renameProfile smallPolicy 1 "uuid1" "Robin"),
    .profilesByNames ["Robin"]]

theorem playerAfter_filed : NamesFiled onePlayer := by
  constructor
  · intro p hp
    rw [List.mem_singleton.mp hp]
    decide +kernel
  · intro key p hp
    cases hp

theorem playerAfter_fresh : Fresh onePlayer := by
  intro key p hp
  cases hp

end Sequences

end AsterYggdrasil
