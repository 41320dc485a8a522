import AsterYggdrasil.Interleave.Pool
import AsterYggdrasil.Yggdrasil.ProfileHistory
import AsterYggdrasil.Yggdrasil.TokenHistory

/-!
# Limits on profiles and renames

`create_profile` counts the profiles of its user and inserts some statements
later; `rename_profile` reads the profile, compares its `rename_count` with the
limit, and in its transaction reads the row once more and writes that count plus
one.  None of the writes looks at the count again.

Here the requests of one user run statement by statement, transactions included:
the statements of the rename transaction can only fail before the first write, so
there is nothing to roll back.  `limits_kept` is what holds as long as the counts
a request has read are still true when it writes; `limits_broken` are three
races, and a count that wraps.
-/

namespace AsterYggdrasil

open Interleave Relational Prog

/-! ## Transactions statement by statement -/

/-- A program with the statements of its transactions one by one. -/
def inline {α : Type} : Service α → Service α
  | .ok a => .ok a
  | .err e => .err e
  | .act (.txn t) k =>
      Prog.bind (t.body.hoist poolHom id).attempt fun r => inline (k r)
  | .act i k => .act i fun r => inline (k r)

/-- A step that is no transaction. -/
def ServiceStmt.single : ServiceStmt → Bool
  | .txn _ => false
  | _ => true

/-- A single statement stays where it is. -/
theorem inline_act {α : Type} {i : ServiceStmt} (hi : i.single = true)
    (k : i.Reply → Service α) :
    inline (.act i k) = .act i fun r => inline (k r) := by
  cases i with
  | txn t => cases hi
  | _ => rfl

/-- Programs are spread out one after another. -/
theorem inline_bind {α β : Type} (p : Service α) (f : α → Service β) :
    inline (p.bind f) = (inline p).bind fun a => inline (f a) := by
  induction p with
  | ok a => rfl
  | err e => rfl
  | act i k ih =>
      cases i with
      | txn t =>
          show Prog.bind _ (fun r => inline ((k r).bind f)) = _
          simp only [ih, inline, Prog.bind_assoc]
      | _ =>
          show Prog.act _ (fun r => inline ((k r).bind f)) = _
          simp only [ih]
          rfl

/-- A program without transactions is left alone. -/
theorem inline_eq {α : Type} {p : Service α}
    (hp : p.Within fun i : ServiceStmt => i.single = true) : inline p = p := by
  induction p with
  | ok a => rfl
  | err e => rfl
  | act i k ih =>
      rw [inline_act hp.1]
      congr 1
      funext r
      exact ih r (hp.2 r)

/-- A repository call in a transaction of its own is a repository call. -/
theorem inTxn_hoist {α : Type} (g : AsterError → ServiceError) (p : DbProg α) :
    (inTxn g p).hoist poolHom id = onPool g p := by
  induction p with
  | ok a => rfl
  | err e => rfl
  | act i k ih =>
      show Prog.act _ _ = Prog.act _ _
      congr 1
      funext r
      exact ih r

/-- Catching the error of a sequence. -/
theorem attempt_bind {α β : Type} (p : Service α) (f : α → Service β) :
    Prog.bind (p.attempt : Service (Except ServiceError α)) (fun r =>
      match r with
      | .ok a => f a
      | .error e => .err e) = p.bind f := by
  induction p with
  | ok a => rfl
  | err e => rfl
  | act i k ih =>
      show Prog.act _ _ = Prog.act _ _
      congr 1
      funext r
      exact ih r

/-- The statements of a transaction come in place of the transaction. -/
theorem inline_withTransaction {β : Type} (t : Txn) (f : t.Result → Service β) :
    inline ((withTransaction t).bind f) =
      (t.body.hoist poolHom id).bind fun a => inline (f a) := by
  refine Eq.trans ?_ (attempt_bind _ _)
  show Prog.bind _ _ = Prog.bind _ _
  congr 1
  funext r
  cases r <;> rfl

/-! ## Counts, and who reads and writes them -/

/-- `count_by_user`. -/
def profileCount (userId : Nat) (db : Db) : Nat :=
  (db.profiles.select fun p => p.userId = userId).length

/-- The `rename_count` of a profile. -/
def renameCountOf (id : Nat) (db : Db) : Option Int :=
  (db.profiles.find? fun p => p.id = id).map fun p => p.renameCount.toInt

/-- `i32::MAX`. -/
def i32Max : Int := 2147483647

/-- Below the maximum, adding one to an `i32` does not wrap. -/
theorem toInt_add_one {n : Int32} (h : n.toInt < i32Max) : (n + 1).toInt = n.toInt + 1 := by
  have hlow := n.le_toInt
  have hone : (1 : Int32).toInt = 1 := by decide
  unfold i32Max at h
  rw [Int32.toInt_add, hone, Int.bmod_eq_of_le (by omega) (by omega)]

def ServiceStmt.countsProfilesOf (userId : Nat) : ServiceStmt → Bool
  | .db (.profileCountByUser id) => id = userId
  | _ => false

def ServiceStmt.readsProfile : ServiceStmt → Bool
  | .db (.profileFindByUuidForUser _ _) | .db (.profileFindById _) => true
  | _ => false

/-- A step that leaves the profile rows alone. -/
def ServiceStmt.keepsProfiles : ServiceStmt → Bool
  | .db (.profileInsert _) | .db (.profileUpdateName _ _ _) | .db (.profileDelete _)
  | .db (.userDelete _) | .txn _ => false
  | _ => true

/-- A statement that keeps the profiles leaves their rows. -/
theorem exec_profiles {i : ServiceStmt} (hi : i.keepsProfiles = true) (s : ServiceState) :
    (i.exec s).2.db.profiles.rows = s.db.profiles.rows := by
  cases i with
  | db i =>
      cases i with
      | profileInsert | profileUpdateName | profileDelete | userDelete => cases hi
      | userInsert | userUpdate | tokenInsert | banInsert =>
          simp only [ServiceStmt.exec, DbStmt.exec]
          repeat' split
          all_goals rfl
      | _ => rfl
  | txn t => cases hi
  | _ => rfl

/-- And never lowers the next id. -/
theorem exec_profileSeq {i : ServiceStmt} (hi : i.keepsProfiles = true) (s : ServiceState) :
    s.db.profiles.seq ≤ (i.exec s).2.db.profiles.seq := by
  cases i with
  | db i =>
      cases exec_profileEffect i s.db with
      | same seq rows | delete which seq rows => exact seq
      | insert row id seq rows =>
          show s.db.profiles.seq ≤ (i.exec s.db).2.profiles.seq
          omega
      | rename id name renameCount which seq rows => exact Nat.le_of_eq seq.symm
  | txn t => cases hi
  | _ => exact Nat.le_refl _

/-- The profile that the step has renamed. -/
def ServiceStmt.renamed : ServiceStmt → ServiceState → Option Nat
  | .db (.profileUpdateName id name renameCount), s =>
      if ((DbStmt.profileUpdateName id name renameCount).exec s.db).1.isSome then some id
      else none
  | _, _ => none

/-- An insert adds a row with the next id, or none. -/
theorem exec_insert_rows (input : CreateProfile) (s : ServiceState) :
    s.db.profiles.seq < ((ServiceStmt.db (.profileInsert input)).exec s).2.db.profiles.seq ∧
    (((ServiceStmt.db (.profileInsert input)).exec s).2.db.profiles.rows = s.db.profiles.rows ∨
      ((ServiceStmt.db (.profileInsert input)).exec s).2.db.profiles.rows =
        s.db.profiles.rows ++ [Db.newProfile s.db.now s.db.profiles.seq input]) := by
  simp only [ServiceStmt.exec, DbStmt.exec]
  split
  · exact ⟨Nat.lt_succ_self _, Or.inl rfl⟩
  · split
    · next profiles hinsert =>
        obtain ⟨hrows, hseq, -, -⟩ := Table.insert?_eq_some hinsert
        exact ⟨by rw [hseq]; exact Nat.lt_succ_self _, Or.inr hrows⟩
    · exact ⟨Nat.lt_succ_self _, Or.inl rfl⟩

/-- An update of a name is refused, or writes the row of the profile. -/
theorem updateName_cases (id : Nat) (name : String) (renameCount : Int32) (db : Db) :
    (DbStmt.profileUpdateName id name renameCount).exec db = (none, db) ∨
    ∃ p profiles, p ∈ db.profiles.rows ∧ p.id = id ∧
      (DbStmt.profileUpdateName id name renameCount).exec db =
        (some (Db.renamedProfile db.now name renameCount p), { db with profiles := profiles }) ∧
      profiles.seq = db.profiles.seq ∧
      profiles.rows = db.profiles.rows.map fun q =>
        if q.id = id then Db.renamedProfile db.now name renameCount q else q := by
  simp only [DbStmt.exec]
  split
  · exact Or.inl rfl
  · next p hfind =>
      obtain ⟨hp, hid⟩ := Table.of_find? hfind
      split
      · next profiles hupdate =>
          obtain ⟨hrows, hseq⟩ := Table.update?_eq_some hupdate
          exact Or.inr ⟨p, profiles, hp, by simpa using hid, rfl, hseq, by simpa using hrows⟩
      · exact Or.inl rfl

/-- An update of a name changes one row, or nothing. -/
theorem exec_updateName_rows (id : Nat) (name : String) (renameCount : Int32) (s : ServiceState) :
    ((ServiceStmt.db (.profileUpdateName id name renameCount)).exec s).2.db.profiles.seq =
      s.db.profiles.seq ∧
    ((ServiceStmt.renamed (.db (.profileUpdateName id name renameCount)) s = none ∧
        ((ServiceStmt.db (.profileUpdateName id name renameCount)).exec s).2.db.profiles.rows =
          s.db.profiles.rows) ∨
      ServiceStmt.renamed (.db (.profileUpdateName id name renameCount)) s = some id ∧
        id < s.db.profiles.seq ∧
        ((ServiceStmt.db (.profileUpdateName id name renameCount)).exec s).2.db.profiles.rows =
          s.db.profiles.rows.map fun q =>
            if q.id = id then Db.renamedProfile s.db.now name renameCount q else q) := by
  rcases updateName_cases id name renameCount s.db with hnone | ⟨p, profiles, hp, hid, hsome, hseq,
    hrows⟩
  · simp [ServiceStmt.renamed, ServiceStmt.exec, hnone]
  · have hlt : p.id < s.db.profiles.seq := s.db.profiles.fresh p hp
    simp only [ServiceStmt.renamed, ServiceStmt.exec, hsome, Option.isSome_some, if_true]
    exact ⟨hseq, Or.inr ⟨trivial, hid ▸ hlt, hrows⟩⟩

/-- The user for whom the step inserts a profile. -/
def ServiceStmt.insertsFor : ServiceStmt → Option Nat
  | .db (.profileInsert input) => some input.userId
  | _ => none

/-- The profile whose name the step updates. -/
def ServiceStmt.updatesName : ServiceStmt → Option Nat
  | .db (.profileUpdateName id _ _) => some id
  | _ => none

/-- When a request inserts a profile, the user has no more profiles than the
request has counted; when it updates a name, the profile still has the
`rename_count` that the request has read, and it is below `i32::MAX`. -/
def CountsHold (tr : Trace serviceMachine) (i : ServiceStmt) (s : ServiceState) : Prop :=
  (∀ userId ∈ i.insertsFor, ∀ x ∈ tr, ServiceStmt.countsProfilesOf userId x.1 = true →
    profileCount userId s.db ≤ profileCount userId x.2.db) ∧
  ∀ id ∈ i.updatesName, (∀ count ∈ renameCountOf id s.db, count < i32Max) ∧
    ∀ x ∈ tr, ServiceStmt.readsProfile x.1 = true →
      renameCountOf id s.db = renameCountOf id x.2.db

instance (tr : Trace serviceMachine) (i : ServiceStmt) (s : ServiceState) :
    Decidable (CountsHold tr i s) :=
  inferInstanceAs (Decidable ((∀ userId ∈ i.insertsFor, ∀ x ∈ tr,
      ServiceStmt.countsProfilesOf userId x.1 = true →
      profileCount userId s.db ≤ profileCount userId x.2.db) ∧
    ∀ id ∈ i.updatesName, (∀ count ∈ renameCountOf id s.db, count < i32Max) ∧
      ∀ x ∈ tr, ServiceStmt.readsProfile x.1 = true →
        renameCountOf id s.db = renameCountOf id x.2.db))

section Requests

variable (policy : RuntimeYggdrasilPolicy)

/-- What a request does to profiles: it inserts one where there is room, or raises
a `rename_count` below the limit by one. -/
def WithinLimits : ServiceStmt → ServiceState → Prop
  | .db (.profileInsert input), s =>
      profileCount input.userId s.db < policy.maxProfilesPerUser
  | .db (.profileUpdateName id _ renameCount), s =>
      ∃ count, renameCountOf id s.db = some count ∧ renameCount.toInt = count + 1 ∧
        count < policy.maxProfileRenames
  | i, _ => i.keepsProfiles = true

def quotaDiscipline : Discipline serviceMachine where
  inv _ := True
  rely _ _ := True
  own := CountsHold
  guar _ i s := WithinLimits policy i s
  refl _ := trivial
  trans _ _ _ _ _ := trivial
  step _ _ _ _ _ _ := ⟨trivial, trivial⟩

/-- A program that leaves the profile rows alone. -/
abbrev KeepsProfiles {α : Type} (p : Service α) : Prop :=
  p.Within fun i : ServiceStmt => i.keepsProfiles = true

/-- So it violates no limit. -/
theorem keeps_withinLimits {i : ServiceStmt} (hi : i.keepsProfiles = true)
    (s : ServiceState) : WithinLimits policy i s := by
  cases i with
  | db i =>
      cases i with
      | profileInsert | profileUpdateName => cases hi
      | _ => exact hi
  | _ => exact hi

variable {policy} {tr : Trace serviceMachine} {s : ServiceState}

/-- Go past a program that leaves the profile rows alone. -/
theorem Ensures.past {α β : Type} {K : β → Trace serviceMachine → ServiceState → Prop}
    {p : Service α} {f : α → Service β} (hp : KeepsProfiles p)
    (hf : ∀ a tr' s', tr <+: tr' → (f a).Ensures (quotaDiscipline policy) (OnOk K) tr' s') :
    (p.bind f).Ensures (quotaDiscipline policy) (OnOk K) tr s :=
  Ensures.within_bind (fun _ _ s hi _ _ => keeps_withinLimits policy hi s) True.intro hp
    fun a tr' s' hpre _ _ => hf a tr' s' hpre

/-- Such a statement is no transaction. -/
theorem ServiceStmt.single_of_keeps {i : ServiceStmt} (hi : i.keepsProfiles = true) :
    i.single = true := by
  cases i with
  | txn t => cases hi
  | _ => rfl

/-- Statements that keep the profiles may go first. -/
theorem Ensures.past_inline {α β : Type} {K : β → Trace serviceMachine → ServiceState → Prop}
    {p : Service α} {f : α → Service β} (hp : KeepsProfiles p)
    (hf : ∀ a tr' s', tr <+: tr' →
      (inline (f a)).Ensures (quotaDiscipline policy) (OnOk K) tr' s') :
    (inline (p.bind f)).Ensures (quotaDiscipline policy) (OnOk K) tr s := by
  rw [inline_bind, inline_eq (hp.mono fun _ => ServiceStmt.single_of_keeps)]
  exact Ensures.past hp hf

/-- Or be all there is. -/
theorem Ensures.last {α : Type} {p : Service α} (hp : KeepsProfiles p) :
    p.Ensures (quotaDiscipline policy) (OnOk fun _ _ _ => True) tr s :=
  (Ensures.of_within (D := quotaDiscipline policy)
    (fun _ _ s hi _ _ => keeps_withinLimits policy hi s) hp tr s).mono
    fun _ _ _ _ _ _ => True.intro

/-- Looking at an expected row keeps the profiles. -/
theorem keeps_required {α : Type} (g : AsterError → ServiceError) (e : AsterError)
    (o : Option α) : KeepsProfiles (onPool g (DbProg.required e o)) := by
  cases o <;> trivial

/-- So does the ban check. -/
theorem keeps_ensureMayManageProfiles (userId : Nat) :
    KeepsProfiles (ensureMayManageProfiles userId) :=
  Within.bind ⟨rfl, fun _ => trivial⟩ fun _ => Within.rejectIf

/-- And the check of a name. -/
theorem keeps_checkProfileName (name : String) (allowReserved : Bool) :
    KeepsProfiles (checkProfileName name allowReserved) :=
  Within.rejectIf.bind fun _ => Within.rejectIf

/-- And the question to Mojang. -/
theorem keeps_checkMojangName (ctx : ProfileContext) (input : CreateProfileInput) :
    KeepsProfiles (checkMojangName ctx input) := by
  unfold checkMojangName ensureNameNotReservedByMojang
  split
  · split
    · split
      · trivial
      · exact Within.rejectIf
    · trivial
  · trivial

/-- And looking for a name. -/
theorem keeps_profileNameTaken (name : String) (ownerUserId : Nat)
    (excludeProfileId : Option Nat) :
    KeepsProfiles (profileNameTaken name ownerUserId excludeProfileId) := by
  refine Within.stmt_bind rfl fun profile => ?_
  split
  · trivial
  · exact ⟨rfl, fun _ => trivial⟩

/-- Evictions keep the profiles. -/
theorem keeps_invalidateTokenCacheHashes (hashes : List String) :
    KeepsProfiles (invalidateTokenCacheHashes hashes) :=
  have hdelete : ∀ hash, KeepsProfiles (step (.deleteToken hash)) := fun _ =>
    ⟨rfl, fun _ => trivial⟩
  Within.forEach hdelete hashes

/-- Those of a profile's tokens too. -/
theorem keeps_invalidateForProfile (profileId : Nat) :
    KeepsProfiles (invalidateTokenCacheForSelectedProfile profileId) :=
  Within.stmt_bind rfl fun hashes =>
    (keeps_invalidateTokenCacheHashes hashes).bind fun _ => trivial

/-! ## Creating -/

/-- The request has counted the profiles of the user, and there was room. -/
def CountedRoom (policy : RuntimeYggdrasilPolicy) (userId : Nat)
    (tr : Trace serviceMachine) : Prop :=
  ∃ x ∈ tr, ServiceStmt.countsProfilesOf userId x.1 = true ∧
    profileCount userId x.2.db < policy.maxProfilesPerUser

/-- A count that was read has been read. -/
theorem CountedRoom.mono {userId : Nat} {tr' : Trace serviceMachine}
    (h : CountedRoom policy userId tr) (hpre : tr <+: tr') : CountedRoom policy userId tr' := by
  obtain ⟨x, hx, hcounts⟩ := h
  exact ⟨x, hpre.subset hx, hcounts⟩

/-- **Whoever passes the quota check** has counted fewer profiles than the limit. -/
theorem ensures_checkProfileQuota {ctx : ProfileContext} {input : CreateProfileInput}
    (hrole : input.userRole.isAdmin = false) :
    (checkProfileQuota ctx input).Ensures (quotaDiscipline ctx.policy)
      (OnOk fun _ tr _ => CountedRoom ctx.policy input.userId tr) tr s := by
  unfold checkProfileQuota
  rw [hrole]
  refine Ensures.stmt_bind fun s' _ _ _ => ⟨rfl, fun _ => ?_⟩
  unfold Prog.rejectIf
  split
  · exact .err _ _ _
  · next hroom =>
      intro s'' _ _ _ _
      refine ⟨_, List.mem_append_right _ (List.mem_singleton_self _), ?_, ?_⟩
      · exact decide_eq_true rfl
      · have hlt := of_decide_eq_false (Bool.eq_false_iff.mpr hroom)
        exact Nat.lt_of_not_le hlt

/-- So a user's profile is created after such a count. -/
theorem ensures_createProfileWithUuid (ctx : ProfileContext) (input : CreateProfileInput)
    (hrole : input.userRole.isAdmin = false) :
    (createProfileWithUuid ctx input).Ensures (quotaDiscipline ctx.policy)
      (OnOk fun _ _ _ => True) tr s := by
  refine Ensures.past (keeps_ensureMayManageProfiles _) fun _ tr s _ => ?_
  refine Ensures.bind_ok True.intro (ensures_checkProfileQuota hrole) fun _ tr s _ hroom => ?_
  refine Ensures.past (keeps_checkProfileName _ _) fun _ tr₁ s hpre₁ => ?_
  refine Ensures.past (keeps_checkMojangName _ _) fun _ tr₂ s hpre₂ => ?_
  refine Ensures.past ⟨rfl, fun _ => trivial⟩ fun taken tr₃ s hpre₃ => ?_
  refine Ensures.rejectIf_ok fun _ => ?_
  refine Ensures.past (keeps_profileNameTaken _ _ _) fun nameTaken tr₄ s hpre₄ => ?_
  refine Ensures.rejectIf_ok fun _ => ?_
  have hroom₄ := hroom.mono (hpre₁.trans (hpre₂.trans (hpre₃.trans hpre₄)))
  intro s' _ _ hown
  obtain ⟨x, hx, hcounts, hlt⟩ := hroom₄
  have hle := hown.1 _ rfl x hx hcounts
  exact ⟨Nat.lt_of_le_of_lt hle hlt, Ensures.last (keeps_required _ _ _)⟩

/-! ## Renaming -/

/-- The request has read the profile, and with this `rename_count`. -/
def ReadCount (id : Nat) (count : Int) (tr : Trace serviceMachine) : Prop :=
  ∃ x ∈ tr, ServiceStmt.readsProfile x.1 = true ∧ renameCountOf id x.2.db = some count

/-- A number of renames that was read has been read. -/
theorem ReadCount.mono {id : Nat} {count : Int} {tr' : Trace serviceMachine}
    (h : ReadCount id count tr) (hpre : tr <+: tr') : ReadCount id count tr' := by
  obtain ⟨x, hx, hreads⟩ := h
  exact ⟨x, hpre.subset hx, hreads⟩

/-- The row of a profile is found by its id. -/
theorem renameCountOf_eq {db : Db} {q : MinecraftProfile} (hq : q ∈ db.profiles.rows) :
    renameCountOf q.id db = some q.renameCount.toInt := by
  unfold renameCountOf
  cases hfind : db.profiles.find? fun p => p.id = q.id with
  | none =>
      have hno := Table.find?_eq_none.mp hfind q hq
      simp at hno
  | some p =>
      obtain ⟨hp, hid⟩ := Table.of_find? hfind
      have hid : p.id = q.id := by simpa using hid
      rw [db.profiles.eq_of_ident hp hq hid]
      rfl

/-- A rename that has succeeded had nothing to do, or has renamed the profile. -/
def RenamedIn (result : RenameResult) (tr : Trace serviceMachine) : Prop :=
  result.profile.name = result.oldName ∨
    ∃ x ∈ tr, ServiceStmt.renamed x.1 x.2 = some result.profile.id

/-- A rename that has happened has happened. -/
theorem RenamedIn.mono {result : RenameResult} {tr' : Trace serviceMachine}
    (h : RenamedIn result tr) (hpre : tr <+: tr') : RenamedIn result tr' := by
  rcases h with h | ⟨x, hx, hrenamed⟩
  · exact Or.inl h
  · exact Or.inr ⟨x, hpre.subset hx, hrenamed⟩

/-- The row that an update returns is the one it was about. -/
theorem updateName_reply_id {id : Nat} {name : String} {renameCount : Int32} {db : Db}
    {updated : MinecraftProfile}
    (h : ((DbStmt.profileUpdateName id name renameCount).exec db).1 = some updated) :
    updated.id = id := by
  rcases updateName_cases id name renameCount db with hnone | ⟨p, profiles, -, hid, hsome, -, -⟩
  · rw [hnone] at h
    cases h
  · rw [hsome] at h
    cases h
    exact hid

/-- The statements of a rename. -/
theorem onPool_renameProfileTxn (g : AsterError → ServiceError) (profile : MinecraftProfile)
    (newName : String) :
    onPool g (renameProfileTxn profile newName) =
      (query (.profileFindById profile.id)).bind fun found =>
        match found with
        | none => .err (g (.recordNotFound s!"minecraft profile '{profile.uuid}'"))
        | some existing =>
            (query (.profileUpdateName profile.id newName (existing.renameCount + 1))).bind
              fun updated =>
                match updated with
                | none => .err (g .databaseOperation)
                | some updated =>
                    (query (.tokenTemporarilyInvalidateAllForSelectedProfile profile.id)).bind
                      fun count => .ok ⟨updated, profile.name, count⟩ := by
  show Prog.act _ _ = Prog.act _ _
  congr 1
  funext found
  cases found with
  | none => rfl
  | some existing =>
      show Prog.act _ _ = Prog.act _ _
      congr 1
      funext updated
      cases updated <;> rfl

/-- The transaction of a rename whose request has read the profile. -/
theorem ensures_renameProfileTxn (profile : MinecraftProfile) (newName : String)
    (hread : ReadCount profile.id profile.renameCount.toInt tr)
    (hlimit : profile.renameCount.toInt < policy.maxProfileRenames) :
    (onPool .aster (renameProfileTxn profile newName)).Ensures (quotaDiscipline policy)
      (OnOk fun result tr _ => RenamedIn result tr) tr s := by
  rw [onPool_renameProfileTxn]
  refine Ensures.stmt_bind fun s₁ _ _ _ => ⟨rfl, fun _ => ?_⟩
  have hfind : (serviceMachine.exec (.db (.profileFindById profile.id)) s₁).1 =
      s₁.db.profiles.find? fun p => p.id = profile.id := rfl
  rw [hfind]
  cases hfound : s₁.db.profiles.find? fun p => p.id = profile.id with
  | none => exact .err _ _ _
  | some existing =>
      refine Ensures.stmt_bind fun s₂ _ _ hown => ⟨?_, fun _ => ?_⟩
      · -- the row still has the count of both reads
        obtain ⟨x, hx, hreads, hcount⟩ := hread
        obtain ⟨hbelow, hsame⟩ := hown.2 _ rfl
        have hfirst := hsame x (List.mem_append_left _ hx) hreads
        have hsecond := hsame _ (List.mem_append_right _ (List.mem_singleton_self _)) rfl
        have hexisting : renameCountOf profile.id s₁.db = some existing.renameCount.toInt := by
          simp [renameCountOf, hfound]
        rw [hcount] at hfirst
        rw [hfirst, hexisting] at hsecond
        have heq : profile.renameCount.toInt = existing.renameCount.toInt :=
          Option.some.inj hsecond
        have hlt : existing.renameCount.toInt < i32Max := heq ▸ hbelow _ hfirst
        exact ⟨profile.renameCount.toInt, hfirst, by rw [toInt_add_one hlt, heq], hlimit⟩
      · have hupdate : (serviceMachine.exec (.db (.profileUpdateName profile.id newName
            (existing.renameCount + 1))) s₂).1 = ((DbStmt.profileUpdateName profile.id newName
            (existing.renameCount + 1)).exec s₂.db).1 := rfl
        rw [hupdate]
        cases hreply : ((DbStmt.profileUpdateName profile.id newName
            (existing.renameCount + 1)).exec s₂.db).1 with
        | none => exact .err _ _ _
        | some updated =>
            refine Ensures.stmt_bind fun s₃ _ _ _ => ⟨rfl, fun _ => ?_⟩
            intro s' _ _ result hresult
            cases hresult
            refine Or.inr ⟨_, List.mem_append_left _ (List.mem_append_right _
              (List.mem_singleton_self _)), ?_⟩
            have hrenamed : ServiceStmt.renamed (.db (.profileUpdateName profile.id newName
                (existing.renameCount + 1))) s₂ = some profile.id := by
              simp [ServiceStmt.renamed, hreply]
            rw [hrenamed, updateName_reply_id hreply]

/-- What follows a check may use that it was passed. -/
theorem Ensures.rejectIf_inline {β : Type} {K : β → Trace serviceMachine → ServiceState → Prop}
    {c : Bool} {e : ServiceError} {f : Unit → Service β}
    (hok : c = false → (inline (f ())).Ensures (quotaDiscipline policy) (OnOk K) tr s) :
    (inline ((Prog.rejectIf c e).bind f)).Ensures (quotaDiscipline policy) (OnOk K) tr s := by
  cases c with
  | true => exact .err e tr s
  | false => exact hok rfl

/-- A count that passes the check is below the limit. -/
theorem toInt_lt_of_u64TryFrom {n : Int32} {limit : Nat}
    (h : (u64TryFrom n).getD 0 < limit) : n.toInt < limit := by
  unfold u64TryFrom at h
  split at h
  · simp only [Option.getD_some] at h
    omega
  · simp only [Option.getD_none] at h
    omega

/-- **A rename** writes the successor of a number that is below the limit. -/
theorem ensures_renameProfile {profile : MinecraftProfile} (newName : String)
    (hread : ReadCount profile.id profile.renameCount.toInt tr) :
    (inline (renameProfile policy profile newName)).Ensures (quotaDiscipline policy)
      (OnOk fun result tr _ => RenamedIn result tr) tr s := by
  refine Ensures.past_inline (keeps_checkProfileName _ _) fun _ tr₁ s hpre₁ => ?_
  split
  · intro _ _ _ result hresult
    cases hresult
    exact Or.inl rfl
  · refine Ensures.rejectIf_inline fun _ => Ensures.rejectIf_inline fun hlimit => ?_
    refine Ensures.past_inline (keeps_profileNameTaken _ _ _) fun taken tr₂ s hpre₂ => ?_
    refine Ensures.rejectIf_inline fun _ => ?_
    refine Ensures.past_inline (keeps_invalidateForProfile _) fun hashes tr₃ s hpre₃ => ?_
    have hread₃ := hread.mono (hpre₁.trans (hpre₂.trans hpre₃))
    have hlt : profile.renameCount.toInt < policy.maxProfileRenames :=
      toInt_lt_of_u64TryFrom (Nat.lt_of_not_le (of_decide_eq_false hlimit))
    rw [bind_eq, inline_withTransaction]
    refine Ensures.bind_ok (K := fun result tr _ => RenamedIn result tr) True.intro ?_
      fun result tr s _ hrenamed => ?_
    · rw [Txn.body, inTxn_hoist]
      exact ensures_renameProfileTxn profile newName hread₃ hlt
    · refine Ensures.past_inline (keeps_invalidateTokenCacheHashes _) fun _ tr₁ s h₁ => ?_
      refine Ensures.past_inline ⟨rfl, fun _ => trivial⟩ fun _ tr₂ s h₂ => ?_
      refine Ensures.past_inline ⟨rfl, fun _ => trivial⟩ fun _ tr₃ s h₃ => ?_
      intro _ _ _ result hresult
      cases hresult
      exact hrenamed.mono (h₁.trans (h₂.trans h₃))

/-- By the owner, who reads the number before. -/
theorem ensures_renameProfileForUser (userId : Nat) (uuid newName : String) :
    (inline (renameProfileForUser policy userId uuid newName)).Ensures (quotaDiscipline policy)
      (OnOk fun found tr _ => ∀ result ∈ found, RenamedIn result tr) tr s := by
  refine Ensures.past_inline (keeps_ensureMayManageProfiles _) fun _ tr s _ => ?_
  refine Ensures.past_inline (keeps_checkProfileName _ _) fun _ tr s _ => ?_
  refine Ensures.stmt_bind fun s₁ _ _ _ => ⟨rfl, fun _ => ?_⟩
  have hfind : (serviceMachine.exec (.db (.profileFindByUuidForUser uuid userId)) s₁).1 =
      s₁.db.profiles.find? fun p => p.uuid = uuid && p.userId = userId := rfl
  rw [hfind]
  cases hfound : s₁.db.profiles.find? fun p => p.uuid = uuid && p.userId = userId with
  | none =>
      intro _ _ _ found hfound result hresult
      cases hfound
      cases hresult
  | some profile =>
      have hread : ReadCount profile.id profile.renameCount.toInt
          (tr ++ [(.db (.profileFindByUuidForUser uuid userId), s₁)]) := by
        refine ⟨_, List.mem_append_right _ (List.mem_singleton_self _), rfl, ?_⟩
        exact renameCountOf_eq (Table.of_find? hfound).1
      show (inline ((renameProfile policy profile newName).bind _)).Ensures _ _ _ _
      rw [inline_bind]
      refine Ensures.bind_ok True.intro (ensures_renameProfile newName hread)
        fun result tr s _ hrenamed => ?_
      intro _ _ _ found hfound result' hresult
      cases hfound
      cases hresult
      exact hrenamed

end Requests

/-! ## Every interleaving -/

/-- What the user asks, and the passing of time. -/
inductive QuotaCall
  | create (newUuid : String) (mojangHasName : String → Except AsterError Bool) (name : String)
  | rename (uuid newName : String)
  | wait (ms : Nat)

def QuotaCall.body (policy : RuntimeYggdrasilPolicy) (userId : Nat) (userRole : UserRole) :
    QuotaCall → Service Response
  | .create newUuid mojangHasName name => do
      pure (.profile (← createProfile ⟨policy, newUuid, mojangHasName⟩ userId userRole name))
  | .rename uuid newName => do
      pure (.renamed (← inline (renameProfileForUser policy userId uuid newName)))
  | .wait ms => do
      query (.advanceClock ms)
      pure .done

section Runs

open Config

variable {policy : RuntimeYggdrasilPolicy} {userId : Nat} {userRole : UserRole}

/-- What a request that has succeeded has done. -/
def QuotaPost (tr : Trace serviceMachine) (r : Except ServiceError Response)
    (_ : ServiceState) : Prop :=
  ∀ result, r = .ok (.renamed (some result)) → RenamedIn result tr

/-- So every call creates and renames within what it has read. -/
theorem ensures_quotaCall (hrole : userRole.isAdmin = false) (call : QuotaCall)
    (s : ServiceState) :
    (call.body policy userId userRole).Ensures (quotaDiscipline policy) QuotaPost [] s := by
  have hpost : ∀ (r : Response), (∀ result, r ≠ .renamed (some result)) →
      ∀ tr s, (Prog.ok r : Service Response).Ensures (quotaDiscipline policy)
        (OnOk fun a tr _ => ∀ result, a = .renamed (some result) → RenamedIn result tr) tr s := by
    intro r hr tr s _ _ _ a ha result hresult
    cases ha
    exact absurd hresult (hr result)
  refine Ensures.mono (Q := OnOk fun a tr _ =>
    ∀ result, a = .renamed (some result) → RenamedIn result tr) ?_
    fun tr r s h result hr => h _ hr result rfl
  cases call with
  | create newUuid mojangHasName name =>
      have hcreate : (createProfile ⟨policy, newUuid, mojangHasName⟩ userId userRole name).Ensures
          (quotaDiscipline policy) (OnOk fun _ _ _ => True) [] s :=
        ensures_createProfileWithUuid ⟨policy, newUuid, mojangHasName⟩
          ⟨userId, userRole, newUuid, name, .localProfile, false, true⟩ hrole
      exact Ensures.bind_ok True.intro hcreate fun profile tr s _ _ =>
        hpost (.profile profile) (fun _ => nofun) tr s
  | rename uuid newName =>
      refine Ensures.bind_ok True.intro (ensures_renameProfileForUser userId uuid newName)
        fun found tr s _ hrenamed => ?_
      intro _ _ _ a ha result hresult
      cases ha
      cases hresult
      exact hrenamed result rfl
  | wait ms => exact fun _ _ _ _ => ⟨rfl, hpost .done (fun _ => nofun) _ _⟩

/-- The requests of one user. -/
abbrev QuotaPool := Config serviceMachine ServiceError QuotaCall Response

/-- How often the profile was renamed. -/
def renames (id : Nat) (log : List (Event serviceMachine)) : Nat :=
  log.countP fun e => ServiceStmt.renamed e.stmt e.pre = some id

/-- Where the run has come from its first state. -/
structure WithinQuota (policy : RuntimeYggdrasilPolicy) (userId : Nat) (s₀ : ServiceState)
    (c : QuotaPool) : Prop where
  seq : s₀.db.profiles.seq ≤ c.shared.db.profiles.seq
  past : ∀ e ∈ c.log, ∀ id, ServiceStmt.renamed e.stmt e.pre = some id →
    id < c.shared.db.profiles.seq
  room : profileCount userId c.shared.db ≤
    max policy.maxProfilesPerUser (profileCount userId s₀.db)
  counted : ∀ q ∈ c.shared.db.profiles.rows,
    q.renameCount.toInt = (renameCountOf q.id s₀.db).getD 0 + renames q.id c.log
  limited : ∀ q ∈ c.shared.db.profiles.rows,
    q.renameCount.toInt ≤ max ↑policy.maxProfileRenames ((renameCountOf q.id s₀.db).getD 0)

variable {s₀ : ServiceState} {c : QuotaPool} {i : Nat} {st : ServiceStmt}
  {threads : List (Thread serviceSignature ServiceError QuotaCall Response)}

/-- A statement adds the rename that it is. -/
theorem renames_append (id : Nat) (log : List (Event serviceMachine))
    (e : Event serviceMachine) :
    renames id (log ++ [e]) = renames id log +
      (if ServiceStmt.renamed e.stmt e.pre = some id then 1 else 0) := by
  simp [renames, List.countP_append, List.countP_cons]

/-- Or nothing, where it is none. -/
theorem renames_append_none {e : Event serviceMachine}
    (h : ServiceStmt.renamed e.stmt e.pre = none) (id : Nat)
    (log : List (Event serviceMachine)) : renames id (log ++ [e]) = renames id log := by
  simp [renames_append, h]

/-- Ids that were not handed out have no row. -/
theorem renameCountOf_of_le {db : Db} {id : Nat} (h : db.profiles.seq ≤ id) :
    renameCountOf id db = none := by
  unfold renameCountOf
  rw [Option.map_eq_none_iff, Table.find?_eq_none]
  intro q hq
  have hlt : q.id < db.profiles.seq := db.profiles.fresh q hq
  exact decide_eq_false (by omega)

/-- A profile that did not exist was not renamed. -/
theorem renames_eq_zero {log : List (Event serviceMachine)} {n : Nat}
    (h : ∀ e ∈ log, ∀ id, ServiceStmt.renamed e.stmt e.pre = some id → id < n) :
    renames n log = 0 := by
  unfold renames
  rw [List.countP_eq_zero]
  intro e he heq
  exact Nat.lt_irrefl n (h e he n (of_decide_eq_true heq))

/-- A step that leaves the rows alone. -/
theorem WithinQuota.same (h : WithinQuota policy userId s₀ c)
    (hnone : ServiceStmt.renamed st c.shared = none)
    (hseq : c.shared.db.profiles.seq ≤ (st.exec c.shared).2.db.profiles.seq)
    (hrows : (st.exec c.shared).2.db.profiles.rows = c.shared.db.profiles.rows) :
    WithinQuota policy userId s₀
      ⟨(st.exec c.shared).2, threads, c.log ++ [⟨i, st, c.shared⟩]⟩ := by
  refine ⟨Nat.le_trans h.seq hseq, fun e he id hrenamed => ?_, ?_, fun q hq => ?_, fun q hq => ?_⟩
  · rcases List.mem_append.mp he with he | he
    · exact Nat.lt_of_lt_of_le (h.past e he id hrenamed) hseq
    · rw [List.mem_singleton.mp he] at hrenamed
      rw [hnone] at hrenamed
      cases hrenamed
  · have hroom := h.room
    unfold profileCount Table.select at hroom ⊢
    rw [hrows]
    exact hroom
  · rw [renames_append_none hnone]
    exact h.counted q (hrows ▸ hq)
  · exact h.limited q (hrows ▸ hq)

/-- A profile is added where there is room. -/
theorem WithinQuota.insert (h : WithinQuota policy userId s₀ c) (input : CreateProfile)
    (hroom : profileCount input.userId c.shared.db < policy.maxProfilesPerUser) :
    WithinQuota policy userId s₀
      ⟨((ServiceStmt.db (.profileInsert input)).exec c.shared).2, threads,
        c.log ++ [⟨i, .db (.profileInsert input), c.shared⟩]⟩ := by
  obtain ⟨hseq, hrows | hrows⟩ := exec_insert_rows input c.shared
  · exact h.same rfl (Nat.le_of_lt hseq) hrows
  · have hnone : ServiceStmt.renamed (.db (.profileInsert input)) c.shared = none := rfl
    refine ⟨Nat.le_trans h.seq (Nat.le_of_lt hseq), fun e he id hrenamed => ?_, ?_,
      fun q hq => ?_, fun q hq => ?_⟩
    · rcases List.mem_append.mp he with he | he
      · exact Nat.lt_trans (h.past e he id hrenamed) hseq
      · rw [List.mem_singleton.mp he] at hrenamed
        cases hrenamed
    · have hold := h.room
      unfold profileCount Table.select at hold hroom ⊢
      rw [hrows, List.filter_append, List.length_append]
      by_cases hmine : input.userId = userId
      · simp only [hmine] at hroom
        have hone : (List.filter (fun p : MinecraftProfile => decide (p.userId = userId))
            [Db.newProfile c.shared.db.now c.shared.db.profiles.seq input]).length ≤ 1 :=
          List.length_filter_le _ _
        omega
      · simp [Db.newProfile, hmine]
        omega
    · rw [renames_append_none hnone]
      rw [hrows, List.mem_append, List.mem_singleton] at hq
      rcases hq with hq | rfl
      · exact h.counted q hq
      · -- nobody has renamed a profile that did not exist
        show (0 : Int32).toInt = (renameCountOf c.shared.db.profiles.seq s₀.db).getD 0 +
          renames c.shared.db.profiles.seq c.log
        rw [renameCountOf_of_le h.seq, renames_eq_zero h.past]
        rfl
    · rw [hrows, List.mem_append, List.mem_singleton] at hq
      rcases hq with hq | rfl
      · exact h.limited q hq
      · exact Int.le_trans (Int.natCast_nonneg _) (Int.le_max_left _ _)

/-- A rename leaves each user as many profiles as before. -/
theorem profileCount_of_renamed {db db' : Db} {id : Nat} {name : String} {renameCount : Int32}
    {now : Nat}
    (hrows : db'.profiles.rows = db.profiles.rows.map fun q =>
      if q.id = id then Db.renamedProfile now name renameCount q else q) :
    profileCount userId db' = profileCount userId db := by
  have hsame : ((fun p : MinecraftProfile => decide (p.userId = userId)) ∘ fun q =>
      if q.id = id then Db.renamedProfile now name renameCount q else q) =
      fun p => decide (p.userId = userId) := by
    funext q
    simp only [Function.comp_apply]
    split <;> rfl
  unfold profileCount Table.select
  rw [hrows, ← List.countP_eq_length_filter, ← List.countP_eq_length_filter, List.countP_map,
    hsame]

/-- The `rename_count` of one profile is raised by one. -/
theorem WithinQuota.rename (h : WithinQuota policy userId s₀ c) (id : Nat) (name : String)
    {renameCount : Int32} {count : Int} (hcount : renameCountOf id c.shared.db = some count)
    (hraised : renameCount.toInt = count + 1) (hlimit : count < policy.maxProfileRenames) :
    WithinQuota policy userId s₀
      ⟨((ServiceStmt.db (.profileUpdateName id name renameCount)).exec c.shared).2, threads,
        c.log ++ [⟨i, .db (.profileUpdateName id name renameCount), c.shared⟩]⟩ := by
  obtain ⟨hseq, ⟨hnone, hrows⟩ | ⟨hsome, hlt, hrows⟩⟩ :=
    exec_updateName_rows id name renameCount c.shared
  · exact h.same hnone (Nat.le_of_eq hseq.symm) hrows
  · have hrow : ∀ q ∈ c.shared.db.profiles.rows, q.id = id → q.renameCount.toInt = count := by
      rintro q hq rfl
      rw [renameCountOf_eq hq] at hcount
      exact Option.some.inj hcount
    refine ⟨hseq ▸ h.seq, fun e he id' hrenamed => ?_, ?_, fun q' hq' => ?_, fun q' hq' => ?_⟩
    · show id' < ((ServiceStmt.db (.profileUpdateName id name renameCount)).exec
        c.shared).2.db.profiles.seq
      rw [hseq]
      rcases List.mem_append.mp he with he | he
      · exact h.past e he id' hrenamed
      · rw [List.mem_singleton.mp he, hsome] at hrenamed
        cases hrenamed
        exact hlt
    · rw [profileCount_of_renamed hrows]
      exact h.room
    · rw [hrows] at hq'
      obtain ⟨q, hq, rfl⟩ := List.mem_map.mp hq'
      have hcounted := h.counted q hq
      rw [renames_append]
      by_cases hid : q.id = id
      · have hq := hrow q hq hid
        rw [if_pos hid]
        have heq : ServiceStmt.renamed (.db (.profileUpdateName id name renameCount)) c.shared =
            some q.id := by rw [hsome, hid]
        show renameCount.toInt = (renameCountOf q.id s₀.db).getD 0 + ↑(renames q.id c.log +
          if ServiceStmt.renamed (.db (.profileUpdateName id name renameCount)) c.shared =
            some q.id then 1 else 0)
        rw [if_pos heq]
        omega
      · rw [if_neg hid]
        have hne : ServiceStmt.renamed (.db (.profileUpdateName id name renameCount)) c.shared ≠
            some q.id := by
          rw [hsome]
          exact fun heq => hid (Option.some.inj heq).symm
        rw [if_neg hne]
        exact hcounted
    · rw [hrows] at hq'
      obtain ⟨q, hq, rfl⟩ := List.mem_map.mp hq'
      by_cases hid : q.id = id
      · rw [if_pos hid]
        show renameCount.toInt ≤ _
        omega
      · rw [if_neg hid]
        exact h.limited q hq

/-- Every step that keeps to the limits keeps the pool within them. -/
theorem WithinQuota.step (h : WithinQuota policy userId s₀ c)
    (hguar : WithinLimits policy st c.shared) :
    WithinQuota policy userId s₀
      ⟨(st.exec c.shared).2, threads, c.log ++ [⟨i, st, c.shared⟩]⟩ := by
  have hkeeps : st.keepsProfiles = true → ServiceStmt.renamed st c.shared = none →
      WithinQuota policy userId s₀
        ⟨(st.exec c.shared).2, threads, c.log ++ [⟨i, st, c.shared⟩]⟩ :=
    fun hkeeps hnone => h.same hnone (exec_profileSeq hkeeps c.shared) (exec_profiles hkeeps c.shared)
  cases st with
  | db st =>
      cases st with
      | profileInsert input => exact h.insert input hguar
      | profileUpdateName id name renameCount =>
          obtain ⟨count, hcount, hraised, hlimit⟩ := hguar
          exact h.rename id name hcount hraised hlimit
      | _ => exact hkeeps hguar rfl
  | _ => exact hkeeps hguar rfl

/-- Nobody has made use of a limit at the start. -/
theorem withinQuota_initial (policy : RuntimeYggdrasilPolicy) (userId : Nat)
    (s₀ : ServiceState) : WithinQuota policy userId s₀ (initial s₀) := by
  have hrow : ∀ q ∈ s₀.db.profiles.rows, (renameCountOf q.id s₀.db).getD 0 =
      q.renameCount.toInt := by
    intro q hq
    rw [renameCountOf_eq hq]
    rfl
  refine ⟨Nat.le_refl _, by simp [initial], Nat.le_max_right _ _, fun q hq => ?_, fun q hq => ?_⟩
  · rw [hrow q hq]
    exact (Int.add_zero _).symm
  · rw [hrow q hq]
    exact Int.le_max_right _ _

/-- The counts that a request has read are still true when it writes, and can still be
raised. -/
abbrev ReadsHold (c : QuotaPool) (i : Nat) (st : ServiceStmt) : Prop :=
  CountsHold (c.trace i) st c.shared

/-- **The limits hold.**  In every interleaving of profile creations and renames of a
user in which the counts that a request has read are still true when it writes, and no
`rename_count` at `i32::MAX` is raised: no creation takes the user above
`max_profiles_per_user`, no rename takes a profile above `max_profile_renames`, every
`rename_count` has grown by exactly the number of renames, and every rename that has
succeeded is one of them. -/
theorem limits_kept (hrole : userRole.isAdmin = false) {sched : List (Action QuotaCall)}
    (hadm : Admissible (QuotaCall.body policy userId userRole) ReadsHold
      (initial s₀ : QuotaPool) sched)
    (hc : c = (initial s₀).runs (QuotaCall.body policy userId userRole) sched) :
    profileCount userId c.shared.db ≤
      max policy.maxProfilesPerUser (profileCount userId s₀.db) ∧
    (∀ q ∈ c.shared.db.profiles.rows, q.renameCount.toInt ≤
      max ↑policy.maxProfileRenames ((renameCountOf q.id s₀.db).getD 0)) ∧
    (∀ q ∈ c.shared.db.profiles.rows,
      q.renameCount.toInt = (renameCountOf q.id s₀.db).getD 0 + renames q.id c.log) ∧
    ∀ i result, c.result? i = some (.ok (.renamed (some result))) →
      result.profile.name = result.oldName ∨
        ∃ e ∈ c.log, e.tid = i ∧ ServiceStmt.renamed e.stmt e.pre = some result.profile.id := by
  have hgood : Good (quotaDiscipline policy) (fun _ _ => QuotaPost) c := by
    rw [hc]
    exact good_runs (fun _ _ _ hreads _ => hreads)
      (fun _ call s _ => ensures_quotaCall hrole call s) (good_initial True.intro) hadm
  have hquota : WithinQuota policy userId s₀ c := by
    rw [hc]
    refine good_runs_inv (D := quotaDiscipline policy) (Q := fun _ _ => QuotaPost)
      (fun _ _ _ hreads _ => hreads) (fun _ call s _ => ensures_quotaCall hrole call s) ?_ ?_
      (good_initial True.intro) ?_ hadm
    · intro c call h
      exact ⟨h.seq, h.past, h.room, h.counted, h.limited⟩
    · intro c i call st k _ h _ _ _ hguar
      exact h.step hguar
    · exact withinQuota_initial policy userId s₀
  refine ⟨hquota.room, hquota.limited, hquota.counted, fun i result hi => ?_⟩
  obtain ⟨th, hth, -⟩ : ∃ th, c.threads[i]? = some th ∧
      th.result? = some (.ok (.renamed (some result))) := by
    simpa [Config.result?, Option.bind_eq_some_iff] using hi
  rcases hgood.result hth hi result rfl with hname | ⟨⟨st, s⟩, hx, hrenamed⟩
  · exact Or.inl hname
  · obtain ⟨e, he, htid, rfl, rfl⟩ := mem_trace.mp hx
    exact Or.inr ⟨e, he, htid, hrenamed⟩

/-- A user may have two profiles here, and rename each once. -/
def tightPolicy : RuntimeYggdrasilPolicy := ⟨true, 7, 10, 2, 1, false, ""⟩

/-- The pool after requests of the user `alice`, who has one profile. -/
def aliceRun (sched : List (Action QuotaCall)) : QuotaPool :=
  (initial onePlayer).runs (QuotaCall.body tightPolicy 1 .user) sched

def createNamed (uuid name : String) : QuotaCall := .create uuid (fun _ => .ok false) name

/-- One creation after the other, then one rename. -/
def inTurn : List (Action QuotaCall) :=
  .spawn (createNamed "uuid2" "Second") :: List.replicate 6 (.run 0) ++
    .spawn (createNamed "uuid3" "Third") :: List.replicate 6 (.run 1) ++
    .spawn (.rename "uuid1" "Alicia") :: List.replicate 10 (.run 2)

/-- Two calls in turn keep both limits. -/
theorem limits_kept_in_turn :
    Admissible (QuotaCall.body tightPolicy 1 .user) ReadsHold (initial onePlayer : QuotaPool)
      inTurn ∧
    profileCount 1 (aliceRun inTurn).shared.db = 2 ∧
    (aliceRun inTurn).shared.db.profiles.rows.map MinecraftProfile.renameCount = [1, 0] ∧
    ∀ q ∈ (aliceRun inTurn).shared.db.profiles.rows,
      q.renameCount.toInt = (renameCountOf q.id onePlayer.db).getD 0 +
        renames q.id (aliceRun inTurn).log := by
  have hadm : Admissible (QuotaCall.body tightPolicy 1 .user) ReadsHold
      (initial onePlayer : QuotaPool) inTurn := by decide +kernel
  exact ⟨hadm, by decide +kernel, by decide +kernel, (limits_kept rfl hadm rfl).2.2.1⟩

/-- Two creations count before either of them inserts. -/
def createRace : List (Action QuotaCall) :=
  [.spawn (createNamed "uuid2" "Second"), .spawn (createNamed "uuid3" "Third"),
    .run 0, .run 0, .run 1, .run 1] ++ List.replicate 4 (.run 0) ++ List.replicate 4 (.run 1)

/-- Two renames read the profile, also in their transactions, before either of them
writes. -/
def renameRace : List (Action QuotaCall) :=
  [.spawn (.rename "uuid1" "Alicia"), .spawn (.rename "uuid1" "Alina")] ++
    List.replicate 6 (.run 0) ++ List.replicate 6 (.run 1) ++ List.replicate 4 (.run 0) ++
    List.replicate 4 (.run 1)

/-- The second rename has checked the limit before the first one is done. -/
def renameAfterCheck : List (Action QuotaCall) :=
  [.spawn (.rename "uuid1" "Alicia"), .spawn (.rename "uuid1" "Alina")] ++
    List.replicate 5 (.run 1) ++ List.replicate 10 (.run 0) ++ List.replicate 5 (.run 1)

/-- The profile of `alice` has been renamed as often as an `i32` can count. -/
def countedOut : ServiceState :=
  { onePlayer with
    db := { onePlayer.db with
      profiles := ⟨[⟨1, 1, "uuid1", "Alice", "alice", .localProfile, .default, "", 2147483647,
        0, 0⟩], 2, by decide, by decide⟩ } }

/-- A limit above `i32::MAX`, and one more rename. -/
def renameOnceMore : QuotaPool :=
  (initial countedOut).runs
    (QuotaCall.body { tightPolicy with maxProfileRenames := 2147483648 } 1 .user)
    (.spawn (.rename "uuid1" "Alicia") :: List.replicate 10 (.run 0))

/-- **The limits break**: a third profile where two are allowed, two successful
renames that count as one, a second rename where one is allowed, and a count that
wraps. -/
theorem limits_broken :
    tightPolicy.maxProfilesPerUser = 2 ∧ profileCount 1 (aliceRun createRace).shared.db = 3 ∧
    renames 1 (aliceRun renameRace).log = 2 ∧
    renameCountOf 1 (aliceRun renameRace).shared.db = some 1 ∧
    tightPolicy.maxProfileRenames = 1 ∧
    renameCountOf 1 (aliceRun renameAfterCheck).shared.db = some 2 ∧
    renames 1 renameOnceMore.log = 1 ∧
    renameCountOf 1 renameOnceMore.shared.db = some (-2147483648) := by
  decide +kernel

end Runs

end AsterYggdrasil
