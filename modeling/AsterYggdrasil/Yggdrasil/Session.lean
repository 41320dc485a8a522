import AsterYggdrasil.Yggdrasil.Auth
import Mathlib

/-!
# The join handshake

`join` leaves a record of the player in the cache; `hasJoined` looks it up for
the game server, or forwards the question.  With no forward server enabled the
local record decides; otherwise the local provider and the remote servers are
asked in a weighted random order and the first accepted answer is returned.

The answers of the remote servers, the random draws, the texture URL rewriting
and the signed property list of a profile come from outside of this model and
are parameters (`HasJoinedEnv`).
-/

namespace AsterYggdrasil

open Interleave Relational

structure JoinReq where
  accessToken : String
  selectedProfile : String
  serverId : String
  deriving DecidableEq, Repr

/-- `join`; `clientIp` is `real_join_client_ip` of the request. -/
def join (body : JoinReq) (clientIp : Option String) : Service Unit := do
  let token ← activeToken body.accessToken none
  match token.selectedProfileId with
  | none => .err (.new .invalidToken)
  | some selectedProfileId => do
      let banned ← isUserBanned token.userId .yggdrasilJoin
      Prog.rejectIf banned (.new .invalidToken)
      let profile ← onPool .ofAster (profileFindById selectedProfileId)
      Prog.rejectIf (profile.uuid ≠ body.selectedProfile) (.new .invalidToken)
      step (.setJoinSession body.serverId
        { profileId := profile.id
          profileUuid := profile.uuid
          profileName := profile.name
          serverId := body.serverId
          ipAddress := clientIp })

/-- `YggdrasilError::protocol_message`. -/
def YggdrasilError.protocolMessage (e : YggdrasilError) : String :=
  match e.kind with
  | .invalidToken => "Invalid token."
  | .invalidCredentials => "Invalid credentials. Invalid username or password."
  | .accessTokenAlreadyHasProfile => "Access token already has a profile assigned."
  | .forbiddenProfile => "Profile does not belong to this user."
  | .badRequest => e.detail.getD "Invalid request."
  | .unsupportedAgent => "Unsupported Yggdrasil agent."
  | .tooManyProfilesRequested => "Too many profile names requested."
  | .profileNotFound => "Profile not found."
  | .internal => e.detail.getD "Internal server error."

/-- The message of a failed call. -/
def ServiceError.protocolMessage : ServiceError → String
  | .yggdrasil e => e.protocolMessage
  | .aster e => e.message

/-! ## The order of the forward servers -/

/-- `server.weight.max(1)`. -/
def ForwardServer.ticketWeight (f : ForwardServer) : Int := max f.weight 1

/-- The index at which the ticket falls; the first server when none does. -/
def selectIndex (ticket : Int) (index : Nat) : List ForwardServer → Nat
  | [] => 0
  | f :: rest =>
      if ticket - f.ticketWeight < 0 then index
      else selectIndex (ticket - f.ticketWeight) (index + 1) rest

/-- The loop of `weighted_group_order`, for `n` more picks; the `k`-th pick
uses the `k`-th draw. -/
def weightedGroupLoop (draws : Nat → Nat) :
    Nat → Nat → List ForwardServer → List ForwardServer
  | 0, _, _ => []
  | n + 1, k, servers =>
      let totalWeight := (servers.map ForwardServer.ticketWeight).sum
      let selected := selectIndex (draws k % totalWeight) 0 servers
      match servers[selected]? with
      | none => []
      | some f => f :: weightedGroupLoop draws n (k + 1) (servers.eraseIdx selected)

/-- `weighted_group_order`. -/
def weightedGroupOrder (draws : Nat → Nat) (k : Nat) (servers : List ForwardServer) :
    List ForwardServer :=
  weightedGroupLoop draws servers.length k servers

/-- The loop of `weighted_forward_order` over groups of equal priority. -/
def weightedForwardLoop (draws : Nat → Nat) :
    Nat → Nat → List ForwardServer → List ForwardServer
  | 0, _, _ => []
  | _, _, [] => []
  | n + 1, k, f :: rest =>
      let group := f :: rest.takeWhile fun g => g.priority = f.priority
      weightedGroupOrder draws k group ++
        weightedForwardLoop draws n (k + group.length)
          (rest.dropWhile fun g => g.priority = f.priority)

/-- `weighted_forward_order`. -/
def weightedForwardOrder (draws : Nat → Nat) (servers : List ForwardServer) :
    List ForwardServer :=
  let sorted := servers.insertionSort fun a b =>
    a.priority < b.priority ∨ (a.priority = b.priority ∧ a.id ≤ b.id)
  weightedForwardLoop draws sorted.length 0 sorted

/-! ## hasJoined -/

/-- What a `hasJoined` call takes from outside of the model. -/
structure HasJoinedEnv where
  /-- The accepted answer of `query_forward_server`. -/
  remote : ForwardServer → Except String (Option YggdrasilProfile)
  /-- `rewrite_forwarded_texture_urls` on the property list. -/
  rewriteTextureUrls : ForwardServer → List ProfileProperty → List ProfileProperty
  /-- The property list of `profile_with_properties`. -/
  properties : MinecraftProfile → Except ServiceError (List ProfileProperty)
  /-- The draws of the random number generator. -/
  draws : Nat → Nat

/-- The question of a game server. -/
structure HasJoinedReq where
  username : String
  serverId : String
  ip : Option String
  deriving DecidableEq, Repr

/-- `properties::profile_with_properties`. -/
def profileWithProperties (env : HasJoinedEnv) (profile : MinecraftProfile) :
    Service YggdrasilProfile :=
  match env.properties profile with
  | .error e => .err e
  | .ok properties => .ok ⟨profile.uuid, profile.name, none, some properties⟩

/-- The cached session answers this question. -/
def JoinSession.answers (session : JoinSession) (req : HasJoinedReq) : Bool :=
  session.serverId = req.serverId && session.profileName = req.username &&
    (match req.ip with
      | none => true
      | some ip => session.ipAddress = some ip)

/-- `local_has_joined`. -/
def localHasJoined (env : HasJoinedEnv) (req : HasJoinedReq) :
    Service (Option YggdrasilProfile) := do
  match ← step (.getJoinSession req.serverId) with
  | none => pure none
  | some session =>
      if session.answers req then do
        let profile ← onPool .ofAster (profileFindById session.profileId)
        let banned ← isUserBanned profile.userId .yggdrasilJoin
        if banned then pure none
        else do
          let answer ← profileWithProperties env profile
          pure (some answer)
      else pure none

/-- `requires_bound_microsoft_profile`. -/
def requiresBoundMicrosoftProfile (upstream : ForwardServer) : Bool :=
  upstream.providerKind = .remote && upstream.endpointKind = .mojangSession

/-- `forwarded_mojang_profile_is_bound`. -/
def forwardedMojangProfileIsBound (profile : YggdrasilProfile) : Service Bool := do
  match ← query (.profileFindByUuid profile.id) with
  | none => pure false
  | some bound => pure (bound.source = .microsoft)

/-- The answer of a Mojang endpoint counts only for a bound profile. -/
def acceptsForwarded (upstream : ForwardServer) (profile : YggdrasilProfile) :
    Service Bool :=
  if requiresBoundMicrosoftProfile upstream then forwardedMojangProfileIsBound profile
  else pure true

/-- Ask one upstream. -/
def askUpstream (env : HasJoinedEnv) (req : HasJoinedReq) (upstream : ForwardServer) :
    Service (Except String (Option YggdrasilProfile)) :=
  match upstream.providerKind with
  | .localProvider => do
      let result ← (localHasJoined env req).attempt
      pure (result.mapError ServiceError.protocolMessage)
  | .remote => pure (env.remote upstream)

/-- The texture URLs of a forwarded profile, rewritten where the upstream asks
for it. -/
def forwardProfile (env : HasJoinedEnv) (upstream : ForwardServer)
    (profile : YggdrasilProfile) : YggdrasilProfile :=
  if upstream.textureForwardEnabled then
    { profile with
      properties := profile.properties.map (env.rewriteTextureUrls upstream) }
  else profile

/-- The loop of `orchestrated_has_joined`. -/
def orchestratedLoop (env : HasJoinedEnv) (req : HasJoinedReq) :
    List ForwardServer → Service (Option YggdrasilProfile)
  | [] => pure none
  | upstream :: rest => do
      match ← askUpstream env req upstream with
      | .ok (some profile) =>
          let accepted ← acceptsForwarded upstream profile
          if accepted then pure (some (forwardProfile env upstream profile))
          else orchestratedLoop env req rest
      | .ok none => orchestratedLoop env req rest
      | .error _ => orchestratedLoop env req rest

/-- `enabled_session_forward_servers`. -/
def enabledSessionForwardServers : Service (List ForwardServer) := do
  match ← step .getForwardServers with
  | some servers => pure servers
  | none => do
      let servers ← query .forwardServerListEnabledOrdered
      step (.setForwardServers servers)
      pure servers

/-- `has_joined`. -/
def hasJoined (env : HasJoinedEnv) (req : HasJoinedReq) :
    Service (Option YggdrasilProfile) := do
  let servers ← enabledSessionForwardServers
  if servers.isEmpty then localHasJoined env req
  else orchestratedLoop env req (weightedForwardOrder env.draws servers)

end AsterYggdrasil
