import AsterYggdrasil.Yggdrasil.JoinRecords

/-!
# The join handshake across renames

A join record carries the name the profile had at the join, and
`local_has_joined` compares that name with the one it is asked for.  It then
answers with the profile as it is now.  `hasJoined_current` shows that in every
sequence of calls in which no profile with a live join record is renamed, the
answer is an existing profile of the name asked for, and goes back to a join
that has not expired and was made with a token of that profile.
`hasJoined_stale_name` is a sequence with such a rename.
-/

namespace AsterYggdrasil

open Interleave Relational Prog

/-! ## Renames -/

/-- The names of all profiles but one are as before. -/
structure NamesKeptBut (id : Nat) (db db' : Db) : Prop where
  seq : db.profiles.seq ≤ db'.profiles.seq
  rows : ∀ q' ∈ db'.profiles.rows, q'.id = id ∨ db.profiles.seq ≤ q'.id ∨
    ∃ q ∈ db.profiles.rows, q.id = q'.id ∧ q.name = q'.name

theorem NamesKept.but {db db' : Db} (h : NamesKept db db') (id : Nat) :
    NamesKeptBut id db db' :=
  ⟨h.seq, fun q' hq' => Or.inr (h.rows q' hq')⟩

theorem NamesKeptBut.trans {a b c : Db} {id : Nat} (hab : NamesKeptBut id a b)
    (hbc : NamesKeptBut id b c) : NamesKeptBut id a c := by
  refine ⟨Nat.le_trans hab.seq hbc.seq, fun q'' hq'' => ?_⟩
  rcases hbc.rows q'' hq'' with hid | hnew | ⟨q', hq', hid, hname⟩
  · exact Or.inl hid
  · exact Or.inr (Or.inl (Nat.le_trans hab.seq hnew))
  · rcases hab.rows q' hq' with hid' | hnew | ⟨q, hq, hid', hname'⟩
    · exact Or.inl (hid.symm.trans hid')
    · exact Or.inr (Or.inl (hid ▸ hnew))
    · exact Or.inr (Or.inr ⟨q, hq, hid'.trans hid, hname'.trans hname⟩)

/-- Join records are as before, and so are the names of all profiles but one. -/
structure SameJoinsBut (id : Nat) (s s' : ServiceState) : Prop
    extends SameRecords s s' where
  names : NamesKeptBut id s.db s'.db

theorem SameJoins.but {s s' : ServiceState} (h : SameJoins s s') (id : Nat) :
    SameJoinsBut id s s' := ⟨h.toSameRecords, h.names.but id⟩

theorem SameJoinsBut.trans {a b c : ServiceState} {id : Nat}
    (hab : SameJoinsBut id a b) (hbc : SameJoinsBut id b c) : SameJoinsBut id a c :=
  ⟨hab.toSameRecords.trans hbc.toSameRecords, hab.names.trans hbc.names⟩

/-- The update of a name answers with the renamed row. -/
theorem exec_profileUpdateName {id : Nat} {renameCount : Int32} {name : String} {db : Db}
    {q : MinecraftProfile}
    (h : ((DbStmt.profileUpdateName id name renameCount).exec db).1 = some q) :
    q.id = id ∧ q.name = name := by
  simp only [DbStmt.exec] at h
  split at h
  · cases h
  · next p hfind =>
      have hid := (Table.of_find? hfind).2
      simp only [decide_eq_true_eq] at hid
      split at h
      · cases h
        exact ⟨hid, rfl⟩
      · cases h

theorem namesKeptBut_rename (id : Nat) (name : String) (renameCount : Int32) (db : Db) :
    NamesKeptBut id db ((DbStmt.profileUpdateName id name renameCount).exec db).2 := by
  cases exec_profileEffect (.profileUpdateName id name renameCount) db with
  | same seq rows => exact ⟨seq, fun q hq => Or.inr (Or.inr ⟨q, rows ▸ hq, rfl, rfl⟩)⟩
  | delete which seq rows =>
      exact ⟨seq, fun q hq => Or.inr (Or.inr ⟨q, rows q hq, rfl, rfl⟩)⟩
  | insert row hid seq rows =>
      refine ⟨by omega, fun q hq => ?_⟩
      rw [rows, List.mem_append, List.mem_singleton] at hq
      rcases hq with hq | rfl
      · exact Or.inr (Or.inr ⟨q, hq, rfl, rfl⟩)
      · exact Or.inr (Or.inl (Nat.le_of_eq hid.symm))
  | rename id' name' renameCount' which seq rows =>
      cases which
      refine ⟨Nat.le_of_eq seq.symm, fun q' hq' => ?_⟩
      rw [rows] at hq'
      obtain ⟨q, hq, rfl⟩ := List.mem_map.mp hq'
      by_cases hid : q.id = id
      · simp only [hid, if_true]
        exact Or.inl hid
      · simp only [hid, if_false]
        exact Or.inr (Or.inr ⟨q, hq, rfl, rfl⟩)

/-- The rename transaction renames one profile. -/
theorem wp_renameProfileTxn (profile : MinecraftProfile) (newName : String) (db : Db) :
    (renameProfileTxn profile newName).Wp dbMachine (fun r db' =>
      ∀ result, r = .ok result → result.profile.id = profile.id ∧
        result.oldName = profile.name ∧ result.profile.name = newName ∧
          NamesKeptBut result.profile.id db db') db := by
  refine wp_bind.mpr (wp_stmt_bind.mpr ?_)
  have hread : (dbMachine.exec (.profileFindById profile.id) db).2 = db := rfl
  rw [hread]
  cases (dbMachine.exec (.profileFindById profile.id) db).1 with
  | none => exact fun result h => by cases h
  | some existing =>
      refine wp_stmt_bind.mpr ?_
      cases hupdate : (dbMachine.exec (.profileUpdateName profile.id newName
          (existing.renameCount + 1)) db).1 with
      | none => exact fun result h => by cases h
      | some updated =>
          obtain ⟨hid, hname⟩ := exec_profileUpdateName hupdate
          intro result h
          cases h
          refine ⟨hid, rfl, hname, ?_⟩
          have hrenamed : NamesKeptBut updated.id db ((DbStmt.profileUpdateName
              profile.id newName (existing.renameCount + 1)).exec db).2 := by
            rw [hid]
            exact namesKeptBut_rename _ _ _ _
          exact ⟨hrenamed.seq, hrenamed.rows⟩

/-- A commit of the rename transaction renames one profile. -/
theorem commit_renameProfile {profile : MinecraftProfile} {newName : String}
    {s : ServiceState} {result : RenameResult}
    (h : ((Txn.renameProfile profile newName).commit s.db).1 = .ok result) :
    result.profile.id = profile.id ∧ result.oldName = profile.name ∧
      result.profile.name = newName ∧ SameJoinsBut result.profile.id s
        ((ServiceStmt.txn (.renameProfile profile newName)).exec s).2 := by
  have hclock := (Txn.renameProfile profile newName).commit_now_le s.db
  have howners := (Txn.renameProfile profile newName).commit_ownersKept s.db
  have hrun : (Txn.renameProfile profile newName).body.Wp dbMachine (fun r db' =>
      ∀ result, r = .ok result → result.profile.id = profile.id ∧
        result.oldName = profile.name ∧ result.profile.name = newName ∧
          NamesKeptBut result.profile.id s.db db') s.db := by
    refine wp_inTxn.mpr ((wp_renameProfileTxn profile newName s.db).mono ?_)
    intro r db' hr result hresult
    cases r with
    | error e => cases hresult
    | ok result' =>
        cases hresult
        exact hr result rfl
  simp only [ServiceStmt.exec]
  unfold Txn.commit at h hclock howners ⊢
  unfold Wp at hrun
  generalize (Txn.renameProfile profile newName).body.run dbMachine s.db = out
    at h hclock howners hrun ⊢
  obtain ⟨r, db'⟩ := out
  cases r with
  | error e => cases h
  | ok result' =>
      cases h
      obtain ⟨hid, hold, hnew, hnames⟩ := hrun result rfl
      exact ⟨hid, hold, hnew, ⟨rfl, hclock, howners⟩, hnames⟩

/-- Sequencing after a program that touches neither names nor records. -/
theorem Plain.wp_bind {α β : Type} {p : Service α} {f : α → Service β}
    {Q : Except ServiceError β → ServiceState → Prop} {s : ServiceState} (hp : Plain p)
    (herr : ∀ e s', SameJoins s s' → Q (.error e) s')
    (hok : ∀ a s', SameJoins s s' → (f a).Wp serviceMachine Q s') :
    (p.bind f).Wp serviceMachine Q s := by
  have hsame := (hp.uses []).sameJoins (by simp) (by simp) s
  refine wp_run_bind (fun a s' hrun => ?_) fun e s' hrun => ?_
  · rw [hrun] at hsame
    exact hok a s' hsame
  · rw [hrun] at hsame
    exact herr e s' hsame

/-- Evictions cannot fail. -/
theorem run_invalidateTokenCacheHashes (hashes : List String) (s : ServiceState) :
    (invalidateTokenCacheHashes hashes).Wp serviceMachine
      (fun r s' => r = .ok () ∧ SameJoins s s') s := by
  refine wp_forEach (fun _ s' => SameJoins s s') ?_ ?_ (.refl s)
  · intro hash rest s' hsame
    have hdelete : SameJoins s' ((ServiceStmt.deleteToken hash).exec s').2 :=
      exec_sameJoins (by simp [ServiceStmt.kind]) (by simp [ServiceStmt.kind]) s'
    exact hsame.trans hdelete
  · exact fun s' hsame => ⟨rfl, hsame⟩

/-- The rename of the profile has succeeded: of the names only the one of the profile has
changed, and the cache of name summaries has nothing under the old name. -/
structure Renamed (profile : MinecraftProfile) (result : RenameResult) (s s' : ServiceState) :
    Prop where
  id : result.profile.id = profile.id
  changed : result.oldName ≠ result.profile.name
  others : SameJoinsBut result.profile.id s s'
  evicted : s'.nameSummaries (toAsciiLowercase profile.name) = none

/-- What a rename may have done: nothing to names and records, or it has
succeeded for one of the profiles. -/
def RenameEffect {α : Type} (found : RenameResult → α) (which : MinecraftProfile → Prop)
    (s : ServiceState) (r : Except ServiceError α) (s' : ServiceState) : Prop :=
  SameJoins s s' ∨ ∃ profile result, which profile ∧ r = .ok (found result) ∧
    Renamed profile result s s'

theorem run_renameProfile (policy : RuntimeYggdrasilPolicy) (profile : MinecraftProfile)
    (newName : String) (s : ServiceState) :
    (renameProfile policy profile newName).Wp serviceMachine
      (RenameEffect (fun result => result) (· = profile) s) s := by
  refine (plain_checkProfileName newName false).wp_bind
    (fun _ s' h => Or.inl h) fun _ s₁ h₁ => ?_
  split
  · exact Or.inl h₁
  · next hnew =>
      refine wp_rejectIf (fun _ => Or.inl h₁) fun _ => ?_
      refine wp_rejectIf (fun _ => Or.inl h₁) fun _ => ?_
      refine (plain_profileNameTaken _ _ _).wp_bind
        (fun _ s' h => Or.inl (h₁.trans h)) fun taken s₂ h₂ => ?_
      have h₂ := h₁.trans h₂
      refine wp_rejectIf (fun _ => Or.inl h₂) fun _ => ?_
      refine (plain_invalidateForProfile _).wp_bind
        (fun _ s' h => Or.inl (h₂.trans h)) fun hashes s₃ h₃ => ?_
      have h₃ := h₂.trans h₃
      refine wp_withTransaction (fun result hcommit => ?_) fun e => Or.inl h₃
      obtain ⟨hid, hold, hname, hrenamed⟩ := commit_renameProfile hcommit
      have hchanged : result.oldName ≠ result.profile.name := by
        rw [hold, hname]
        exact hnew
      have hbut := (h₃.but result.profile.id).trans hrenamed
      refine Prog.wp_bind.mpr ((run_invalidateTokenCacheHashes hashes _).mono ?_)
      rintro r s₄ ⟨rfl, h₄⟩
      have hbut := hbut.trans (h₄.but result.profile.id)
      refine Or.inr ⟨profile, result, rfl, rfl, hid, hchanged,
        ⟨⟨hbut.joins, hbut.clock, hbut.owners⟩, hbut.names⟩, ?_⟩
      rw [← hold]
      show Function.update (Function.update s₄.nameSummaries (toAsciiLowercase result.oldName)
        none) (toAsciiLowercase result.profile.name) none (toAsciiLowercase result.oldName) = none
      simp [Function.update_apply]

/-- The profile has in `s` the name it was read with. -/
def NamedIn (s : ServiceState) (profile : MinecraftProfile) : Prop :=
  ∀ q ∈ s.db.profiles.rows, q.id = profile.id → q.name = profile.name

/-- A profile that was read after `s` has the name it had there. -/
theorem namedIn_of_names {s s' : ServiceState} (h : NamesKept s.db s'.db)
    {profile : MinecraftProfile} (hmem : profile ∈ s'.db.profiles.rows) :
    NamedIn s profile := by
  intro q hq hid
  rcases h.rows _ hmem with hnew | ⟨q', hq', hid', hname⟩
  · have hlt : q.id < s.db.profiles.seq := s.db.profiles.fresh q hq
    omega
  · rw [s.db.profiles.eq_of_ident hq hq' (hid.trans hid'.symm)]
    exact hname

/-- The rename of a profile that was read after `s`. -/
theorem run_renameProfile_read (policy : RuntimeYggdrasilPolicy) {profile : MinecraftProfile}
    (newName : String) {s s₂ : ServiceState} (h₂ : SameJoins s s₂)
    (hmem : profile ∈ s₂.db.profiles.rows) :
    (renameProfile policy profile newName).Wp serviceMachine
      (RenameEffect (fun result => result) (NamedIn s) s) s₂ := by
  refine (run_renameProfile policy profile newName s₂).mono fun r s₃ heffect => ?_
  rcases heffect with hsame | ⟨_, result, rfl, rfl, hrenamed⟩
  · exact Or.inl (h₂.trans hsame)
  · exact Or.inr ⟨_, result, namedIn_of_names h₂.names hmem, rfl, hrenamed.id,
      hrenamed.changed, (h₂.but result.profile.id).trans hrenamed.others, hrenamed.evicted⟩

/-- **What `rename_profile` does** to names, records and name summaries. -/
theorem run_renameProfileForUser (policy : RuntimeYggdrasilPolicy) (userId : Nat)
    (uuid newName : String) (s : ServiceState) :
    (renameProfileForUser policy userId uuid newName).Wp serviceMachine
      (RenameEffect some (NamedIn s) s) s := by
  refine (plain_ensureMayManageProfiles userId).wp_bind
    (fun _ s' h => Or.inl h) fun _ s₁ h₁ => ?_
  refine (plain_checkProfileName newName false).wp_bind
    (fun _ s' h => Or.inl (h₁.trans h)) fun _ s₂ h₂ => ?_
  have h₂ := h₁.trans h₂
  refine wp_stmt_bind.mpr ?_
  have hread : (serviceMachine.exec
    (.db (.profileFindByUuidForUser uuid userId)) s₂).2 = s₂ := rfl
  rw [hread]
  cases hfound : (serviceMachine.exec (.db (.profileFindByUuidForUser uuid userId)) s₂).1 with
  | none => exact Or.inl h₂
  | some profile =>
      have hmem := (Table.of_find? hfound).1
      refine Prog.wp_bind.mpr ((run_renameProfile_read policy newName h₂ hmem).mono ?_)
      intro r s₃ heffect
      rcases heffect with hsame | ⟨_, result, hnamed, rfl, hrenamed⟩
      · cases r <;> exact Or.inl hsame
      · exact Or.inr ⟨_, result, hnamed, rfl, hrenamed⟩

/-- So does the route of the administrators. -/
theorem run_adminRenameProfile (policy : RuntimeYggdrasilPolicy) (uuid newName : String)
    (s : ServiceState) :
    (adminRenameProfile policy uuid newName).Wp serviceMachine
      (RenameEffect (fun result => result) (NamedIn s) s) s := by
  refine wp_stmt_bind.mpr ?_
  have hread : (serviceMachine.exec (.db (.profileFindByUuid uuid)) s).2 = s := rfl
  rw [hread]
  cases hfound : (serviceMachine.exec (.db (.profileFindByUuid uuid)) s).1 with
  | none => exact Or.inl (.refl s)
  | some profile =>
      exact run_renameProfile_read policy newName (.refl s) (Table.of_find? hfound).1

/-! ## Sequences of calls -/

/-- A live join record has the current name of its profile. -/
def NamesCurrent (s : ServiceState) : Prop :=
  ∀ serverId session expiry, s.joinCache serverId = some (session, expiry) →
    s.db.now < expiry → ∀ q ∈ s.db.profiles.rows, q.id = session.profileId →
      q.name = session.profileName

/-- No live join record names the profile, if the rename changes its name. -/
def Unrecorded (s : ServiceState) (result : RenameResult) : Prop :=
  result.oldName ≠ result.profile.name →
    ∀ serverId session expiry, s.joinCache serverId = some (session, expiry) →
      s.db.now < expiry → session.profileId ≠ result.profile.id

/-- A rename that changes a name happens while no live join record names the
profile. -/
def RenamesUnrecorded : ServiceState → Call → Prop
  | s, .renameProfile policy userId uuid newName =>
      ∀ result, ((renameProfileForUser policy userId uuid newName).run
          serviceMachine s).1 = .ok (some result) → Unrecorded s result
  | s, .adminRenameProfile policy uuid newName =>
      ∀ result, ((adminRenameProfile policy uuid newName).run serviceMachine s).1 =
        .ok result → Unrecorded s result
  | _, _ => True

section Sequences

variable {verify : String → String → Except AsterError Bool}
  {s₀ s s' : ServiceState} {calls : List Call}

/-- A call that renames no profile with a live record keeps names current. -/
theorem NamesCurrent.kept (h : NamesCurrent s) (hsame : SameRecords s s')
    (hnames : ∀ serverId session expiry,
      s.joinCache serverId = some (session, expiry) → s.db.now < expiry →
      ∀ q' ∈ s'.db.profiles.rows, q'.id = session.profileId →
        ∃ q ∈ s.db.profiles.rows, q.id = q'.id ∧ q.name = q'.name) :
    NamesCurrent s' := by
  intro serverId session expiry hcache hlive q' hq' hid'
  rw [hsame.joins] at hcache
  have hlive := Nat.lt_of_le_of_lt hsame.clock hlive
  obtain ⟨q, hq, hid, hname⟩ := hnames serverId session expiry hcache hlive q' hq' hid'
  rw [← hname]
  exact h serverId session expiry hcache hlive q hq (hid.trans hid')

theorem NamesCurrent.same (h : NamesCurrent s) (hrecords : RecordsOk verify s₀ calls s)
    (hsame : SameJoins s s') : NamesCurrent s' := by
  refine h.kept hsame.toSameRecords fun serverId session expiry hcache _ q' hq' hid' => ?_
  rcases hsame.names.rows q' hq' with hnew | hrow
  · have := (hrecords serverId session expiry hcache).known
    omega
  · exact hrow

/-- A join records the current name. -/
theorem namesCurrent_join {body : JoinReq} {clientIp : Option String}
    (h : NamesCurrent s) (hrecords : RecordsOk verify s₀ calls s) :
    NamesCurrent ((join body clientIp).run serviceMachine s).2 := by
  have hjoin := run_join body clientIp s
  unfold Wp at hjoin
  cases hresult : ((join body clientIp).run serviceMachine s).1 with
  | error e =>
      rw [hresult] at hjoin
      exact h.same hrecords hjoin
  | ok u =>
      rw [hresult] at hjoin
      obtain ⟨token, profile, s₁, -, -, hsame, hrow, hrecord⟩ := hjoin
      have hold := h.same hrecords hsame
      rw [hrecord]
      intro serverId session expiry hcache hlive q hq hid
      simp only [ServiceStmt.exec, Function.update_apply] at hcache
      split at hcache
      · cases hcache
        rw [s₁.db.profiles.eq_of_ident hq hrow hid]
        rfl
      · exact hold serverId session expiry hcache hlive q hq hid

/-- A rename that meets the condition keeps names current. -/
theorem namesCurrent_rename {α : Type} {p : Service α} {found : RenameResult → α}
    {which : MinecraftProfile → Prop} (h : NamesCurrent s)
    (hrecords : RecordsOk verify s₀ calls s)
    (heffect : p.Wp serviceMachine (RenameEffect found which s) s)
    (hG : ∀ result, (p.run serviceMachine s).1 = .ok (found result) → Unrecorded s result) :
    NamesCurrent (p.run serviceMachine s).2 := by
  rcases heffect with hsame | ⟨profile, result, -, hresult, hrenamed⟩
  · exact h.same hrecords hsame
  · refine h.kept hrenamed.others.toSameRecords ?_
    intro serverId session expiry hcache hlive q' hq' hid'
    have hother := hG result hresult hrenamed.changed serverId session expiry hcache hlive
    rcases hrenamed.others.names.rows q' hq' with hid | hnew | hrow
    · exact absurd (hid'.symm.trans hid) hother
    · have := (hrecords serverId session expiry hcache).known
      omega
    · exact hrow

/-- One call keeps names current. -/
theorem namesCurrent_step {call : Call} (h : NamesCurrent s)
    (hrecords : RecordsOk verify s₀ calls s) (hG : RenamesUnrecorded s call) :
    NamesCurrent (after serviceMachine (Call.body verify) s call) := by
  by_cases hkinds : .rename ∈ call.kinds ∨ .setJoinSession ∈ call.kinds
  · cases call with
    | join body clientIp =>
        rw [after_join]
        exact namesCurrent_join h hrecords
    | renameProfile policy userId uuid newName =>
        have hafter : after serviceMachine (Call.body verify) s
            (.renameProfile policy userId uuid newName) =
              ((renameProfileForUser policy userId uuid newName).run
                serviceMachine s).2 := run_bind_ok_snd ..
        rw [hafter]
        exact namesCurrent_rename h hrecords (run_renameProfileForUser _ _ _ _ s) hG
    | adminRenameProfile policy uuid newName =>
        have hafter : after serviceMachine (Call.body verify) s
            (.adminRenameProfile policy uuid newName) =
              ((adminRenameProfile policy uuid newName).run serviceMachine s).2 :=
          run_bind_ok_snd ..
        rw [hafter]
        exact namesCurrent_rename h hrecords (run_adminRenameProfile _ _ _ s) hG
    | _ => simp [Call.kinds] at hkinds
  · obtain ⟨hrename, hjoin⟩ := not_or.mp hkinds
    exact h.same hrecords ((call.uses_body verify).sameJoins hrename hjoin _)

end Sequences

/-- **Answers of `local_has_joined` are current.**  In every sequence of calls in
which no profile with a live join record is renamed, the profile answered with
exists, has the name asked for, and goes back to an earlier join to the same
server, not yet expired, with a token of that profile and from the address asked
for. -/
theorem hasJoined_current (verify : String → String → Except AsterError Bool)
    {s₀ : ServiceState} {calls : List Call} (hstart : ∀ serverId, s₀.joinCache serverId = none)
    (hG : Guarded serviceMachine (Call.body verify) RenamesUnrecorded s₀ calls)
    {env : HasJoinedEnv} {req : HasJoinedReq} {answer : YggdrasilProfile}
    (hanswer : ((localHasJoined env req).run serviceMachine
      (served verify s₀ calls)).1 = .ok (some answer)) :
    ∃ p ∈ (served verify s₀ calls).db.profiles.rows,
      answer.id = p.uuid ∧ answer.name = p.name ∧ p.name = req.username ∧
      ∃ clientIp expiry,
        JoinedBefore verify s₀ calls req.serverId clientIp p.id expiry ∧
        (served verify s₀ calls).db.now < expiry ∧
        ∀ ip, req.ip = some ip → clientIp = some ip := by
  have hrecords : ∀ calls, RecordsOk verify s₀ calls (served verify s₀ calls) :=
    records_origin hstart
  have hnames : NamesCurrent (served verify s₀ calls) := by
    refine serve_induct (P := fun _ s => NamesCurrent s) ?_ ?_ hG
    · intro serverId session expiry hcache
      rw [hstart] at hcache
      cases hcache
    · exact fun done call h hcall => namesCurrent_step h (hrecords done) hcall
  obtain ⟨-, hmatch⟩ := run_localHasJoined env req (served verify s₀ calls)
  rw [hanswer, answered_ok] at hmatch
  obtain ⟨session, profile, hlocal⟩ := of_localMatch hmatch.symm
  obtain ⟨expiry, hcache, hlive⟩ := hlocal.live
  have hrecord := hrecords calls _ _ _ hcache
  have hanswers := hlocal.answers
  simp only [JoinSession.answers, Bool.and_eq_true, decide_eq_true_eq] at hanswers
  obtain ⟨⟨-, hname⟩, hip⟩ := hanswers
  refine ⟨profile, hlocal.row, hlocal.answerId, hlocal.answerName, ?_,
    session.ipAddress, expiry, ?_, hlive, ?_⟩
  · rw [hnames _ _ _ hcache hlive profile hlocal.row hlocal.id, hname]
  · rw [hlocal.id]
    exact hrecord.origin
  · intro ip hask
    rw [hask] at hip
    simpa using hip

/-- Alice is renamed, logs in and joins. -/
def renameThenJoin : List Call :=
  [.renameProfile smallPolicy 1 "uuid1" "Alicia",
   .authenticate ⟨"alice", "pw", none, none, false⟩ (drawing "t"),
   .join ⟨"t", "uuid1", "server"⟩ none]

/-- Alice logs in, joins and is renamed. -/
def joinThenRename : List Call :=
  [.authenticate ⟨"alice", "pw", none, none, false⟩ (drawing "t"),
   .join ⟨"t", "uuid1", "server"⟩ none,
   .renameProfile smallPolicy 1 "uuid1" "Alicia"]

/-- Profiles without textures, and no forward server. -/
def quietEnv : HasJoinedEnv :=
  ⟨fun _ => .ok none, fun _ properties => properties, fun _ => .ok [], fun _ => 0⟩

/-- What a game server gets to hear about this name after these calls. -/
def nameOnServer (calls : List Call) (name : String) :
    Except ServiceError (Option YggdrasilProfile) :=
  ((localHasJoined quietEnv ⟨name, "server", none⟩).run serviceMachine
    (served plainPassword onePlayer calls)).1

/-- The rename comes first: the answer has the new name. -/
theorem hasJoined_renameThenJoin :
    nameOnServer renameThenJoin "Alicia" = .ok (some ⟨"uuid1", "Alicia", none, some []⟩) ∧
    ∃ p ∈ (served plainPassword onePlayer renameThenJoin).db.profiles.rows,
      p.name = "Alicia" := by
  have hanswer : nameOnServer renameThenJoin "Alicia" =
      .ok (some ⟨"uuid1", "Alicia", none, some []⟩) := by decide +kernel
  have hG : Guarded serviceMachine (Call.body plainPassword) RenamesUnrecorded onePlayer
      renameThenJoin := by
    refine ⟨?_, trivial, trivial, trivial⟩
    intro result _ _ serverId session expiry hcache
    cases hcache
  obtain ⟨p, hp, -, -, hname, -⟩ :=
    hasJoined_current plainPassword (fun _ => rfl) hG hanswer
  exact ⟨hanswer, p, hp, hname⟩

/-- **The rename comes second**: asked for the old name, the game server hears
of a profile with the new one. -/
theorem hasJoined_stale_name :
    nameOnServer joinThenRename "Alice" = .ok (some ⟨"uuid1", "Alicia", none, some []⟩) ∧
    ∀ p ∈ (served plainPassword onePlayer joinThenRename).db.profiles.rows,
      p.name ≠ "Alice" := by
  decide +kernel

end AsterYggdrasil
