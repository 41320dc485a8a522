import AsterYggdrasil.Yggdrasil.Footprint
import AsterYggdrasil.Yggdrasil.TokenHistory

/-!
# What `hasJoined` answers

A call of `has_joined` reads the forward servers, the join records, the profiles
and the bans, and changes nothing but the cached server list.  Its answer is
therefore a function of the state in which it starts: `run_hasJoined` says which
one.  The local provider leaves out every profile whose owner is banned from
joining; the answer of a remote server is passed on without a look at the bans,
and `hasJoined_unbanned_iff` says when this lets a banned player in.
-/

namespace AsterYggdrasil

open Interleave Relational Prog

/-- The profile in an answer. -/
def answered {ε α : Type} : Except ε (Option α) → Option α
  | .ok found => found
  | .error _ => none

@[simp] theorem answered_ok {ε α : Type} (found : Option α) :
    answered (.ok found : Except ε (Option α)) = found := rfl
@[simp] theorem answered_error {ε α : Type} (e : ε) :
    answered (.error e : Except ε (Option α)) = none := rfl

theorem answered_eq_some {ε α : Type} {r : Except ε (Option α)} {a : α} :
    answered r = some a ↔ r = .ok (some a) := by
  cases r with
  | ok found => simp
  | error e => simp

/-! ## Answers as functions of the state -/

/-- The join record of a server, while it lives. -/
def ServiceState.liveJoin (s : ServiceState) (serverId : String) : Option JoinSession :=
  (s.joinCache serverId).bind fun (session, expiry) =>
    if s.db.now < expiry then some session else none

/-- The profile a live record answers with, unless its owner is banned. -/
def localMatch (env : HasJoinedEnv) (req : HasJoinedReq) (s : ServiceState) :
    Option YggdrasilProfile := do
  let session ← s.liveJoin req.serverId
  guard (session.answers req)
  let profile ← s.db.profiles.find? fun p => p.id = session.profileId
  guard ((s.db.findEffectiveBan profile.userId .yggdrasilJoin).isNone)
  let properties ← (env.properties profile).toOption
  pure ⟨profile.uuid, profile.name, none, some properties⟩

/-- The answer of this upstream may be passed on. -/
def ServiceState.accepts (s : ServiceState) (upstream : ForwardServer)
    (profile : YggdrasilProfile) : Bool :=
  !requiresBoundMicrosoftProfile upstream ||
    (s.db.profiles.find? fun p => p.uuid = profile.id).any fun p => p.source = .microsoft

/-- What one upstream contributes. -/
def upstreamMatch (env : HasJoinedEnv) (req : HasJoinedReq) (s : ServiceState)
    (upstream : ForwardServer) : Option YggdrasilProfile :=
  match upstream.providerKind with
  | .localProvider => localMatch env req s
  | .remote => (answered (env.remote upstream)).filter (s.accepts upstream)

/-- The forward servers a call sees. -/
def ServiceState.forwardServers (s : ServiceState) : List ForwardServer :=
  s.forwardCache.getD s.db.listEnabledForwardServers

/-- The first match in the order of the call. -/
def firstMatch (env : HasJoinedEnv) (req : HasJoinedReq) (s : ServiceState) :
    Option YggdrasilProfile :=
  if s.forwardServers.isEmpty then localMatch env req s
  else (weightedForwardOrder env.draws s.forwardServers).findSome? fun upstream =>
    (upstreamMatch env req s upstream).map (forwardProfile env upstream)

/-! ## The calls compute them -/

/-- A ban check reads only. -/
theorem wp_isUserBanned {userId : Nat} {scope : UserBanScope}
    {Q : Except ServiceError Bool → ServiceState → Prop} {s : ServiceState} :
    (isUserBanned userId scope).Wp serviceMachine Q s ↔
      Q (.ok (s.db.findEffectiveBan userId scope).isSome) s := Iff.rfl

/-- **`local_has_joined`** reads only. -/
theorem run_localHasJoined (env : HasJoinedEnv) (req : HasJoinedReq)
    (s : ServiceState) :
    (localHasJoined env req).Wp serviceMachine (fun r s' =>
      s' = s ∧ answered r = localMatch env req s) s := by
  refine wp_stmt_bind.mpr ?_
  have hread : (serviceMachine.exec (.getJoinSession req.serverId) s).2 = s := rfl
  have hlive : (serviceMachine.exec (.getJoinSession req.serverId) s).1 =
    s.liveJoin req.serverId := rfl
  unfold localMatch
  rw [hread, hlive]
  cases s.liveJoin req.serverId with
  | none => exact ⟨rfl, rfl⟩
  | some session =>
      dsimp only
      cases hanswers : session.answers req with
      | false => exact ⟨rfl, by simp [hanswers]⟩
      | true =>
          simp only [onPool_profileFindById, if_true]
          refine wp_bind.mpr (wp_stmt_bind.mpr ?_)
          have hread : (serviceMachine.exec (.db (.profileFindById session.profileId)) s).2 = s :=
            rfl
          have hrow : (serviceMachine.exec (.db (.profileFindById session.profileId)) s).1 =
            s.db.profiles.find? fun p => p.id = session.profileId := rfl
          rw [hread, hrow]
          cases hfind : s.db.profiles.find? fun p => p.id = session.profileId with
          | none => exact ⟨rfl, by simp [hanswers, hfind]⟩
          | some profile =>
              refine (wp_ok (a := profile)).mpr (wp_bind.mpr (wp_isUserBanned.mpr ?_))
              dsimp only
              cases hban : s.db.findEffectiveBan profile.userId .yggdrasilJoin with
              | some ban => exact ⟨rfl, by simp [hanswers, hfind, hban]⟩
              | none =>
                  unfold profileWithProperties
                  cases hprops : env.properties profile with
                  | error e =>
                      refine ⟨rfl, ?_⟩
                      simp [hanswers, hfind, hban, hprops, Except.toOption]
                  | ok properties =>
                      refine ⟨rfl, ?_⟩
                      simp [hanswers, hfind, hban, hprops, Except.toOption]

/-- One upstream, and whether its answer is passed on. -/
theorem run_askUpstream (env : HasJoinedEnv) (req : HasJoinedReq)
    (upstream : ForwardServer) (s : ServiceState) :
    (askUpstream env req upstream).Wp serviceMachine (fun r s' => s' = s ∧
      ∃ answer, r = .ok answer ∧
        (answered answer).filter (s.accepts upstream) =
          upstreamMatch env req s upstream) s := by
  unfold askUpstream upstreamMatch
  cases hkind : upstream.providerKind with
  | remote => exact ⟨rfl, _, rfl, rfl⟩
  | localProvider =>
      have haccepts : s.accepts upstream = fun _ => true := by
        funext profile
        simp [ServiceState.accepts, requiresBoundMicrosoftProfile, hkind]
      refine wp_bind.mpr (wp_attempt.mpr ((run_localHasJoined env req s).mono ?_))
      rintro r s' ⟨rfl, hlocal⟩
      refine ⟨rfl, _, rfl, ?_⟩
      rw [haccepts, ← hlocal]
      cases r with
      | error e => rfl
      | ok found => cases found <;> rfl

/-- A forwarded answer is passed on as `accepts` says. -/
theorem wp_acceptsForwarded {upstream : ForwardServer} {profile : YggdrasilProfile}
    {Q : Except ServiceError Bool → ServiceState → Prop} {s : ServiceState} :
    (acceptsForwarded upstream profile).Wp serviceMachine Q s ↔
      Q (.ok (s.accepts upstream profile)) s := by
  unfold acceptsForwarded ServiceState.accepts
  cases requiresBoundMicrosoftProfile upstream with
  | false => exact Iff.rfl
  | true =>
      have hrow : (serviceMachine.exec (.db (.profileFindByUuid profile.id)) s).1 =
        s.db.profiles.find? fun p => p.uuid = profile.id := rfl
      unfold forwardedMojangProfileIsBound
      simp only [if_true]
      refine wp_stmt_bind.trans ?_
      rw [hrow]
      cases s.db.profiles.find? fun p => p.uuid = profile.id with
      | none => exact Iff.rfl
      | some bound => exact Iff.rfl

/-- **The loop over the upstreams** finds the first match. -/
theorem run_orchestratedLoop (env : HasJoinedEnv) (req : HasJoinedReq)
    (servers : List ForwardServer) (s : ServiceState) :
    (orchestratedLoop env req servers).Wp serviceMachine (fun r s' => s' = s ∧
      r = .ok (servers.findSome? fun upstream =>
        (upstreamMatch env req s upstream).map (forwardProfile env upstream))) s := by
  induction servers with
  | nil => exact ⟨rfl, rfl⟩
  | cons upstream rest ih =>
      refine wp_bind.mpr ((run_askUpstream env req upstream s).mono ?_)
      rintro r s' ⟨rfl, answer, rfl, hmatch⟩
      rw [List.findSome?_cons, ← hmatch]
      match answer with
      | .error e => exact ih
      | .ok none => exact ih
      | .ok (some profile) =>
          refine wp_bind.mpr (wp_acceptsForwarded.mpr ?_)
          cases haccepts : s'.accepts upstream profile with
          | false => simpa [haccepts, Option.filter_some] using ih
          | true => exact ⟨rfl, by simp [haccepts, Option.filter_some]⟩

/-- The list of forward servers is read, and cached if it was not. -/
theorem wp_enabledServers {α : Type} {f : List ForwardServer → Service α}
    {Q : Except ServiceError α → ServiceState → Prop} {s : ServiceState}
    (h : ∀ s', s'.db = s.db → s'.joinCache = s.joinCache →
      (f s.forwardServers).Wp serviceMachine Q s') :
    (enabledSessionForwardServers.bind f).Wp serviceMachine Q s := by
  unfold ServiceState.forwardServers at h
  refine wp_bind.mpr (wp_stmt_bind.mpr ?_)
  have hcached : (serviceMachine.exec .getForwardServers s).1 = s.forwardCache := rfl
  rw [hcached]
  cases hservers : s.forwardCache with
  | some servers =>
      rw [hservers] at h
      exact h s rfl rfl
  | none =>
      rw [hservers] at h
      exact h _ rfl rfl

theorem localMatch_congr {s s' : ServiceState} (hdb : s'.db = s.db)
    (hjoins : s'.joinCache = s.joinCache) (env : HasJoinedEnv) (req : HasJoinedReq) :
    localMatch env req s' = localMatch env req s := by
  simp only [localMatch, ServiceState.liveJoin, hdb, hjoins]

theorem upstreamMatch_congr {s s' : ServiceState} (hdb : s'.db = s.db)
    (hjoins : s'.joinCache = s.joinCache) (env : HasJoinedEnv) (req : HasJoinedReq)
    (upstream : ForwardServer) :
    upstreamMatch env req s' upstream = upstreamMatch env req s upstream := by
  have haccepts : s'.accepts upstream = s.accepts upstream := by
    funext profile
    simp only [ServiceState.accepts, hdb]
  simp only [upstreamMatch, localMatch_congr hdb hjoins, haccepts]

/-- **`has_joined`** answers with the first match and changes no row. -/
theorem run_hasJoined (env : HasJoinedEnv) (req : HasJoinedReq) (s : ServiceState) :
    (hasJoined env req).Wp serviceMachine (fun r s' =>
      s'.db = s.db ∧ answered r = firstMatch env req s) s := by
  refine wp_enabledServers fun s' hdb hjoins => ?_
  unfold firstMatch
  split
  · refine (run_localHasJoined env req s').mono ?_
    rintro r s'' ⟨rfl, hmatch⟩
    exact ⟨hdb, hmatch.trans (localMatch_congr hdb hjoins env req)⟩
  · refine (run_orchestratedLoop env req _ s').mono ?_
    rintro r s'' ⟨rfl, rfl⟩
    refine ⟨hdb, ?_⟩
    simp only [answered_ok, upstreamMatch_congr hdb hjoins]

/-! ## Who answered -/

@[simp] theorem forwardProfile_id (env : HasJoinedEnv) (upstream : ForwardServer)
    (profile : YggdrasilProfile) : (forwardProfile env upstream profile).id = profile.id := by
  unfold forwardProfile
  split <;> rfl

/-- When the first upstream with a match is a remote one, the uuid it names
satisfies the condition. -/
def RemoteMatches (env : HasJoinedEnv) (req : HasJoinedReq) (s : ServiceState)
    (P : String → Prop) : Prop :=
  ∀ earlier upstream later,
    weightedForwardOrder env.draws s.forwardServers = earlier ++ upstream :: later →
    (∀ u ∈ earlier, upstreamMatch env req s u = none) →
    upstream.providerKind = .remote →
    ∀ profile, env.remote upstream = .ok (some profile) →
      s.accepts upstream profile = true → P profile.id

section Answers

variable {env : HasJoinedEnv} {req : HasJoinedReq} {s : ServiceState}

/-- An accepted answer of the first remote server with a match is passed on. -/
theorem firstMatch_remote {earlier later : List ForwardServer} {upstream : ForwardServer}
    {profile : YggdrasilProfile}
    (horder : weightedForwardOrder env.draws s.forwardServers =
      earlier ++ upstream :: later)
    (hearlier : ∀ u ∈ earlier, upstreamMatch env req s u = none)
    (hkind : upstream.providerKind = .remote)
    (hremote : env.remote upstream = .ok (some profile))
    (haccepts : s.accepts upstream profile = true) :
    firstMatch env req s = some (forwardProfile env upstream profile) := by
  have hmatch : upstreamMatch env req s upstream = some profile := by
    simp [upstreamMatch, hkind, hremote, haccepts, Option.filter_some]
  unfold firstMatch
  split
  · next hempty =>
      rw [List.isEmpty_iff.mp hempty] at horder
      simp [weightedForwardOrder, weightedForwardLoop] at horder
  · refine List.findSome?_eq_some_iff.mpr ⟨earlier, upstream, later, horder, ?_, ?_⟩
    · simp [hmatch]
    · intro u hu
      simp [hearlier u hu]

/-- What holds of every local match and of a first remote match holds of the
answer. -/
theorem firstMatch_elim {P : String → Prop} {answer : YggdrasilProfile}
    (hlocal : ∀ profile, localMatch env req s = some profile → P profile.id)
    (hremote : RemoteMatches env req s P) (h : firstMatch env req s = some answer) :
    P answer.id := by
  unfold firstMatch at h
  split at h
  · exact hlocal answer h
  · obtain ⟨earlier, upstream, later, horder, hmatch, hearlier⟩ :=
      List.findSome?_eq_some_iff.mp h
    obtain ⟨profile, hprofile, rfl⟩ := Option.map_eq_some_iff.mp hmatch
    rw [forwardProfile_id]
    unfold upstreamMatch at hprofile
    cases hkind : upstream.providerKind with
    | localProvider =>
        rw [hkind] at hprofile
        exact hlocal profile hprofile
    | remote =>
        rw [hkind] at hprofile
        obtain ⟨hfound, haccepts⟩ := Option.filter_eq_some_iff.mp hprofile
        exact hremote earlier upstream later horder
          (fun u hu => by simpa using hearlier u hu) hkind profile
          (answered_eq_some.mp hfound) haccepts

end Answers

/-! ## Bans -/

/-- The uuid belongs to a profile whose owner is banned from joining. -/
def JoinBanned (db : Db) (uuid : String) : Prop :=
  ∃ p ∈ db.profiles.rows, p.uuid = uuid ∧
    (db.findEffectiveBan p.userId .yggdrasilJoin).isSome

instance (db : Db) (uuid : String) : Decidable (JoinBanned db uuid) :=
  inferInstanceAs (Decidable (∃ _ ∈ _, _))

/-- What a match of the local provider is. -/
structure LocalAnswer (req : HasJoinedReq) (s : ServiceState)
    (answer : YggdrasilProfile) (session : JoinSession) (profile : MinecraftProfile) :
    Prop where
  live : ∃ expiry, s.joinCache req.serverId = some (session, expiry) ∧ s.db.now < expiry
  answers : session.answers req = true
  row : profile ∈ s.db.profiles.rows
  id : profile.id = session.profileId
  answerId : answer.id = profile.uuid
  answerName : answer.name = profile.name
  unbanned : s.db.findEffectiveBan profile.userId .yggdrasilJoin = none

theorem of_liveJoin {s : ServiceState} {serverId : String} {session : JoinSession}
    (h : s.liveJoin serverId = some session) :
    ∃ expiry, s.joinCache serverId = some (session, expiry) ∧ s.db.now < expiry := by
  obtain ⟨⟨session', expiry⟩, hcache, hif⟩ := Option.bind_eq_some_iff.mp h
  dsimp only at hif
  split at hif
  · next hnow => cases hif; exact ⟨expiry, hcache, hnow⟩
  · cases hif

/-- A match of the local provider goes back to a live record of an existing
profile, and the owner of that profile is not banned. -/
theorem of_localMatch {env : HasJoinedEnv} {req : HasJoinedReq} {s : ServiceState}
    {answer : YggdrasilProfile} (h : localMatch env req s = some answer) :
    ∃ session profile, LocalAnswer req s answer session profile := by
  simp only [localMatch, Option.bind_eq_bind, Option.bind_eq_some_iff,
    Option.guard_eq_some', exists_const] at h
  obtain ⟨session, hlive, hanswers, profile, hfind, hban, properties, -, hanswer⟩ := h
  obtain ⟨hrow, hid⟩ := Table.of_find? hfind
  simp only [decide_eq_true_eq] at hid
  cases hanswer
  exact ⟨session, profile, of_liveJoin hlive, hanswers, hrow, hid, rfl, rfl,
    Option.isNone_iff_eq_none.mp hban⟩

/-- The local provider checks the bans. -/
theorem localMatch_unbanned {env : HasJoinedEnv} {req : HasJoinedReq}
    {s : ServiceState} {answer : YggdrasilProfile}
    (h : localMatch env req s = some answer) : ¬ JoinBanned s.db answer.id := by
  obtain ⟨session, profile, hlocal⟩ := of_localMatch h
  rintro ⟨p, hp, huuid, hban⟩
  have hclash : profileSchema.clash p profile = true := by
    simp [profileSchema, huuid, hlocal.answerId]
  rw [s.db.profiles.eq_of_clash hp hlocal.row hclash, hlocal.unbanned] at hban
  cases hban

/-- **When bans hold in the join handshake.**  A call of `has_joined` names no
profile of a player banned from joining exactly when the first match does not
come from a remote server that names one. -/
theorem hasJoined_unbanned_iff (env : HasJoinedEnv) (req : HasJoinedReq)
    (s : ServiceState) :
    (∀ answer, ((hasJoined env req).run serviceMachine s).1 = .ok (some answer) →
      ¬ JoinBanned ((hasJoined env req).run serviceMachine s).2.db answer.id) ↔
    RemoteMatches env req s fun uuid => ¬ JoinBanned s.db uuid := by
  obtain ⟨hdb, hanswer⟩ := run_hasJoined env req s
  simp only [hdb, ← answered_eq_some, hanswer]
  constructor
  · intro h earlier upstream later horder hearlier hkind profile hremote haccepts
    have hfirst := firstMatch_remote horder hearlier hkind hremote haccepts
    simpa using h _ hfirst
  · intro h answer hfirst
    exact firstMatch_elim (fun _ => localMatch_unbanned) h hfirst

/-- A player with a bound Microsoft profile, banned from joining, behind a Mojang
session server. -/
def bannedPlayer : ServiceState :=
  { onePlayer with
    db :=
      { onePlayer.db with
        profiles :=
          ⟨[⟨1, 1, "uuid1", "Alice", "alice", .microsoft, .default, "", 0, 0, 0⟩], 2,
            by decide, by decide⟩
        bans := ⟨[⟨1, 1, [.yggdrasilJoin], .active, 0, none, 5⟩], 2, by decide, by decide⟩
        forwardServers := [⟨1, .remote, .mojangSession, true, 0, 1, false⟩] } }

/-- Mojang knows the player. -/
def mojangEnv : HasJoinedEnv where
  remote := fun _ => .ok (some ⟨"uuid1", "Alice", none, some []⟩)
  rewriteTextureUrls := fun _ properties => properties
  properties := fun _ => .ok []
  draws := fun _ => 0

/-- The banned player is let in. -/
theorem hasJoined_banned_player :
    ((hasJoined mojangEnv ⟨"Alice", "server", none⟩).run serviceMachine bannedPlayer).1 =
      .ok (some ⟨"uuid1", "Alice", none, some []⟩) ∧
    JoinBanned ((hasJoined mojangEnv ⟨"Alice", "server", none⟩).run serviceMachine
      bannedPlayer).2.db "uuid1" := by
  decide +kernel

end AsterYggdrasil
