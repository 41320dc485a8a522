import AsterYggdrasil.Interleave.Sequence
import AsterYggdrasil.Yggdrasil.HasJoined
import AsterYggdrasil.Yggdrasil.ProfileHistory

/-!
# Where join records come from

Only `join` writes join records, and it writes one only after it has accepted a
token and has found the profile that the token selects.  `recorded_since` and
`records_origin` say this for every sequence of calls: behind every record stands a
join among the calls, the record has stayed as that join left it, and it lasts as long
as that join set it to last.
-/

namespace AsterYggdrasil

open Interleave Relational Prog

/-! ## What leaves join records alone -/

/-- Join records are as before, and time has passed. -/
structure SameRecords (s s' : ServiceState) : Prop where
  joins : s'.joinCache = s.joinCache
  clock : s.db.now ≤ s'.db.now
  owners : OwnersKept s.db s'.db

theorem SameRecords.refl (s : ServiceState) : SameRecords s s :=
  ⟨rfl, Nat.le_refl _, .refl s.db⟩

theorem SameRecords.trans {a b c : ServiceState} (hab : SameRecords a b)
    (hbc : SameRecords b c) : SameRecords a c :=
  ⟨hbc.joins.trans hab.joins, Nat.le_trans hab.clock hbc.clock,
    hab.owners.trans hbc.owners⟩

/-- A step that writes no join record. -/
theorem exec_sameRecords {i : ServiceStmt} (hjoin : i.kind ≠ .setJoinSession)
    (s : ServiceState) : SameRecords s (i.exec s).2 := by
  cases i with
  | db i => exact ⟨rfl, exec_now_le i s.db, exec_ownersKept i s.db⟩
  | txn t => exact ⟨rfl, t.commit_now_le s.db, t.commit_ownersKept s.db⟩
  | setJoinSession serverId session => exact absurd rfl hjoin
  | _ => exact ⟨rfl, Nat.le_refl _, .refl s.db⟩

/-- A program of such steps. -/
theorem Uses.sameRecords {α : Type} {kinds : List StepKind} {p : Service α}
    (hp : Uses kinds p) (hjoin : .setJoinSession ∉ kinds) (s : ServiceState) :
    SameRecords s (p.run serviceMachine s).2 :=
  Within.run_respects (M := serviceMachine) .refl (fun _ _ _ => .trans)
    (Within.mono hp fun _ hi s => exec_sameRecords (ne_kind hi (by decide) hjoin) s) s

/-- Profile names are as before, too. -/
structure SameJoins (s s' : ServiceState) : Prop extends SameRecords s s' where
  names : NamesKept s.db s'.db

theorem SameJoins.refl (s : ServiceState) : SameJoins s s := ⟨.refl s, .refl s.db⟩

theorem SameJoins.trans {a b c : ServiceState} (hab : SameJoins a b)
    (hbc : SameJoins b c) : SameJoins a c :=
  ⟨hab.toSameRecords.trans hbc.toSameRecords, hab.names.trans hbc.names⟩

/-- A step that neither renames a profile nor writes a join record. -/
theorem exec_sameJoins {i : ServiceStmt} (hrename : i.kind ≠ .rename)
    (hjoin : i.kind ≠ .setJoinSession) (s : ServiceState) :
    SameJoins s (i.exec s).2 := by
  refine ⟨exec_sameRecords hjoin s, ?_⟩
  cases i with
  | db i => exact exec_namesKept hrename s.db
  | txn t =>
      refine Txn.commit_namesKept ?_ s.db
      cases t with
      | renameProfile profile newName => exact absurd rfl hrename
      | _ => simp [Txn.kinds]
  | _ => exact .refl s.db

/-- A program of such steps. -/
theorem Uses.sameJoins {α : Type} {kinds : List StepKind} {p : Service α}
    (hp : Uses kinds p) (hrename : .rename ∉ kinds) (hjoin : .setJoinSession ∉ kinds)
    (s : ServiceState) : SameJoins s (p.run serviceMachine s).2 :=
  Within.run_respects (M := serviceMachine) .refl (fun _ _ _ => .trans)
    (Within.mono hp fun _ hi s => exec_sameJoins (ne_kind hi (by decide) hrename)
      (ne_kind hi (by decide) hjoin) s) s

/-! ## Joining -/

/-- The record a join with this profile leaves. -/
def JoinReq.session (body : JoinReq) (clientIp : Option String)
    (profile : MinecraftProfile) : JoinSession where
  profileId := profile.id
  profileUuid := profile.uuid
  profileName := profile.name
  serverId := body.serverId
  ipAddress := clientIp

/-- What a join that succeeds from `s` has done when it ends in `s'`: it has
recorded the selected profile of the token it accepted. -/
def JoinRecorded (body : JoinReq) (clientIp : Option String) (s s' : ServiceState) :
    Prop :=
  ∃ token profile s₁,
    ((activeToken body.accessToken none).run serviceMachine s).1 = .ok token ∧
    token.selectedProfileId = some profile.id ∧ SameJoins s s₁ ∧
    profile ∈ s₁.db.profiles.rows ∧
    s' = ((ServiceStmt.setJoinSession body.serverId
      (body.session clientIp profile)).exec s₁).2

/-- **What `join` does**: it fails and leaves the records alone, or it records
the selected profile of the token it accepts. -/
theorem run_join (body : JoinReq) (clientIp : Option String) (s : ServiceState) :
    (join body clientIp).Wp serviceMachine (fun r s' =>
      match r with
      | .ok _ => JoinRecorded body clientIp s s'
      | .error _ => SameJoins s s') s := by
  have htoken : SameJoins s ((activeToken body.accessToken none).run serviceMachine s).2 :=
    (uses_tokenForOperation body.accessToken none false).sameJoins (by decide)
      (by decide) s
  refine wp_run_bind (fun token s₁ hrun => ?_) fun e s₁ hrun => ?_
  · rw [hrun] at htoken
    cases hselected : token.selectedProfileId with
    | none => exact htoken
    | some profileId =>
        refine wp_bind.mpr (wp_isUserBanned.mpr ?_)
        refine wp_rejectIf (fun _ => ?_) fun _ => ?_
        · exact htoken
        simp only [onPool_profileFindById]
        refine wp_bind.mpr (wp_stmt_bind.mpr ?_)
        cases hfind : (serviceMachine.exec (.db (.profileFindById profileId)) s₁).1 with
        | none => exact htoken
        | some profile =>
            obtain ⟨hrow, hid⟩ := Table.of_find? hfind
            simp only [decide_eq_true_eq] at hid
            refine (wp_ok (a := profile)).mpr (wp_rejectIf (fun _ => ?_) fun _ => ?_)
            · exact htoken
            exact ⟨token, profile, s₁, by rw [hrun], hid ▸ hselected, htoken, hrow, rfl⟩
  · rw [hrun] at htoken
    exact htoken

/-! ## Sequences of calls -/

section Sequences

variable (verify : String → String → Except AsterError Bool)

/-- The state after a sequence of calls. -/
abbrev served (s : ServiceState) (calls : List Call) : ServiceState :=
  serve serviceMachine (Call.body verify) s calls

/-- What every statement of the database does to it, a sequence of calls does. -/
theorem served_respects {r : Db → Db → Prop} (hrefl : ∀ db, r db db)
    (htrans : ∀ a b c, r a b → r b c → r a c) (hexec : ∀ (i : DbStmt) db, r db (i.exec db).2)
    (s : ServiceState) (calls : List Call) : r s.db (served verify s calls).db := by
  refine serve_induct (M := serviceMachine) (G := fun _ _ => True)
    (P := fun _ s' => r s.db s'.db) (hrefl s.db) ?_ (guarded_of_forall (fun _ _ => trivial) _ calls)
  intro done call h _
  refine htrans _ _ _ h (Within.run_respects (M := serviceMachine) (r := fun s s' => r s.db s'.db)
    (fun s => hrefl s.db) (fun _ _ _ => htrans _ _ _)
    (Within.mono (call.uses_body verify) fun i _ s => ?_) _)
  cases i with
  | db i => exact hexec i s.db
  | txn t => exact t.commit_respects hrefl htrans (fun i _ db => hexec i db) s.db
  | _ => exact hrefl s.db

/-- Owners stay, in every sequence of calls. -/
theorem ownersKept_served (s : ServiceState) (calls : List Call) :
    OwnersKept s.db (served verify s calls).db :=
  served_respects verify .refl (fun _ _ _ => .trans) exec_ownersKept s calls

theorem after_join (s : ServiceState) (body : JoinReq) (clientIp : Option String) :
    after serviceMachine (Call.body verify) s (.join body clientIp) =
      ((join body clientIp).run serviceMachine s).2 := run_bind_ok_snd ..

/-- The record of a server changes only in a join to this server that succeeds. -/
theorem join_of_change {s : ServiceState} {call : Call} {serverId : String}
    (h : (after serviceMachine (Call.body verify) s call).joinCache serverId ≠
      s.joinCache serverId) :
    ∃ body clientIp, call = .join body clientIp ∧ body.serverId = serverId ∧
      ((join body clientIp).run serviceMachine s).1 = .ok () ∧
      JoinRecorded body clientIp s (after serviceMachine (Call.body verify) s call) := by
  by_cases hkinds : .setJoinSession ∈ call.kinds
  · cases call with
    | join body clientIp =>
        have hjoin := run_join body clientIp s
        unfold Wp at hjoin
        rw [after_join] at h ⊢
        cases hresult : ((join body clientIp).run serviceMachine s).1 with
        | error e =>
            rw [hresult] at hjoin
            exact absurd (congrFun hjoin.joins serverId) h
        | ok u =>
            rw [hresult] at hjoin
            refine ⟨body, clientIp, rfl, ?_, hresult, hjoin⟩
            by_contra hother
            obtain ⟨token, profile, s₁, -, -, hsame, -, hrecord⟩ := hjoin
            rw [hrecord] at h
            have hkept : ((ServiceStmt.setJoinSession body.serverId
                (body.session clientIp profile)).exec s₁).2.joinCache serverId =
                s₁.joinCache serverId := Function.update_of_ne (Ne.symm hother) ..
            exact h (hkept.trans (congrFun hsame.joins serverId))
    | _ => simp [Call.kinds] at hkinds
  · exact absurd (congrFun ((call.uses_body verify).sameRecords hkinds s).joins serverId) h

/-- The join `body` from `clientIp`, made after the calls `pre`, succeeded, and the
record it left for its server has stayed there throughout the calls `post`. -/
structure RecordedBy (s₀ : ServiceState) (pre : List Call) (body : JoinReq)
    (clientIp : Option String) (post : List Call) : Prop where
  ok : ((join body clientIp).run serviceMachine (served verify s₀ pre)).1 = .ok ()
  recorded : JoinRecorded body clientIp (served verify s₀ pre)
    (served verify s₀ (pre ++ [.join body clientIp]))
  since : ∀ later, later <+: post →
    (served verify s₀ (pre ++ .join body clientIp :: later)).joinCache body.serverId =
      (served verify s₀ (pre ++ [.join body clientIp])).joinCache body.serverId

/-- **Behind every join record stands the join that left it.** -/
theorem recorded_since {s₀ : ServiceState} (hstart : ∀ serverId, s₀.joinCache serverId = none)
    {calls : List Call} {serverId : String} {record : JoinSession × Nat}
    (h : (served verify s₀ calls).joinCache serverId = some record) :
    ∃ pre body clientIp post, calls = pre ++ .join body clientIp :: post ∧
      body.serverId = serverId ∧ RecordedBy verify s₀ pre body clientIp post := by
  induction calls using List.reverseRecOn with
  | nil =>
      rw [show (served verify s₀ []).joinCache serverId = none from hstart serverId] at h
      cases h
  | append_singleton calls call ih =>
      have hafter : served verify s₀ (calls ++ [call]) =
          after serviceMachine (Call.body verify) (served verify s₀ calls) call := by
        rw [served, serve_append, serve_singleton]
      by_cases hsame : (served verify s₀ (calls ++ [call])).joinCache serverId =
          (served verify s₀ calls).joinCache serverId
      · rw [hsame] at h
        obtain ⟨pre, body, clientIp, post, rfl, rfl, hby⟩ := ih h
        refine ⟨pre, body, clientIp, post ++ [call], by simp, rfl, hby.ok, hby.recorded, ?_⟩
        intro later hlater
        rcases List.prefix_concat_iff.mp hlater with rfl | hlater
        · have hlast := hby.since post (List.prefix_refl post)
          rw [List.append_assoc, List.cons_append] at hsame
          exact hsame.trans hlast
        · exact hby.since later hlater
      · rw [hafter] at hsame
        obtain ⟨body, clientIp, rfl, hserver, hok, hrecorded⟩ := join_of_change verify hsame
        rw [← hafter] at hrecorded
        refine ⟨calls, body, clientIp, [], rfl, hserver, hok, hrecorded, fun later hlater => ?_⟩
        rw [List.prefix_nil.mp hlater]

/-- Among the calls there is a join to this server, from this address, that
succeeded with a token of this profile; its record lasts until `expiry`. -/
def JoinedBefore (s₀ : ServiceState) (calls : List Call) (serverId : String)
    (clientIp : Option String) (profileId expiry : Nat) : Prop :=
  ∃ pre body post, calls = pre ++ .join body clientIp :: post ∧
    body.serverId = serverId ∧
    ((join body clientIp).run serviceMachine (served verify s₀ pre)).1 = .ok () ∧
    (∃ token, ((activeToken body.accessToken none).run serviceMachine
        (served verify s₀ pre)).1 = .ok token ∧
      token.selectedProfileId = some profileId) ∧
    expiry = (served verify s₀ (pre ++ [.join body clientIp])).db.now + joinSessionTtl

/-- What is known about a join record. -/
structure RecordOk (s₀ : ServiceState) (calls : List Call) (s : ServiceState)
    (serverId : String) (session : JoinSession) (expiry : Nat) : Prop where
  server : session.serverId = serverId
  known : session.profileId < s.db.profiles.seq
  origin : JoinedBefore verify s₀ calls serverId session.ipAddress session.profileId
    expiry

/-- What is known about all join records. -/
def RecordsOk (s₀ : ServiceState) (calls : List Call) (s : ServiceState) : Prop :=
  ∀ serverId session expiry, s.joinCache serverId = some (session, expiry) →
    RecordOk verify s₀ calls s serverId session expiry

variable {verify} {s₀ : ServiceState}

/-- The record of a join and the time at which it expires. -/
theorem JoinRecorded.joinCache {body : JoinReq} {clientIp : Option String} {s s' : ServiceState}
    (h : JoinRecorded body clientIp s s') :
    ∃ token profile, ((activeToken body.accessToken none).run serviceMachine s).1 = .ok token ∧
      token.selectedProfileId = some profile.id ∧ profile ∈ s'.db.profiles.rows ∧
      s'.joinCache body.serverId =
        some (body.session clientIp profile, s'.db.now + joinSessionTtl) := by
  obtain ⟨token, profile, s₁, htoken, hselected, -, hrow, rfl⟩ := h
  exact ⟨token, profile, htoken, hselected, hrow, Function.update_self ..⟩

/-- **What the records of a server say** about the join behind them. -/
theorem records_origin (hstart : ∀ serverId, s₀.joinCache serverId = none)
    (calls : List Call) : RecordsOk verify s₀ calls (served verify s₀ calls) := by
  intro serverId session expiry hcache
  obtain ⟨pre, body, clientIp, post, rfl, rfl, hby⟩ := recorded_since verify hstart hcache
  obtain ⟨token, profile, htoken, hselected, hrow, hrecord⟩ := hby.recorded.joinCache
  rw [hby.since post (List.prefix_refl post), hrecord] at hcache
  cases hcache
  refine ⟨rfl, ?_, pre, body, post, rfl, rfl, hby.ok, ⟨token, htoken, hselected⟩, rfl⟩
  have hkept := ownersKept_served verify (served verify s₀ (pre ++ [.join body clientIp])) post
  have hsplit : served verify (served verify s₀ (pre ++ [.join body clientIp])) post =
      served verify s₀ (pre ++ .join body clientIp :: post) := by
    rw [served, served, served, ← serve_append, List.append_assoc, List.singleton_append]
  rw [hsplit] at hkept
  exact Nat.lt_of_lt_of_le (Table.fresh _ profile hrow) hkept.seq

end Sequences

end AsterYggdrasil
