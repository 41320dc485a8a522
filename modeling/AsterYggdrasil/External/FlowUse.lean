import AsterYggdrasil.External.SiteHistory

/-!
# Every flow completes at most once

A login, the confirmation of an email, the link with a password and the two ways a
binding completes each rest on a flow that was started before.  Whoever completes
one has used up its flow: it was open and had not expired when the call took it, and
no other call of the run takes it (`completion_takes_flow`), whatever the others do
and however often the credentials are presented.
-/

namespace AsterYggdrasil.External

open Interleave Relational Prog

/-! ## Flows that are taken -/

/-- A flow of one of the three tables. -/
inductive FlowRef
  | login (id : Nat)
  | binding (id : Nat)
  | email (id : Nat)
  deriving DecidableEq, Repr

/-- The flow has been handed out and used, or is gone. -/
def FlowRef.Taken : FlowRef → AccountState → Prop
  | .login id, s => s.loginFlows.Spent (fun f => f.consumedAt.isSome = true) id
  | .binding id, s => s.bindingFlows.Spent (fun f => f.consumedAt.isSome = true) id
  | .email id, s => s.emailFlows.Spent (fun f => f.consumedAt.isSome = true) id

/-- A flow that is taken is taken for ever. -/
theorem Ages.taken {s s' : AccountState} (h : Ages s s') {ref : FlowRef}
    (hs : ref.Taken s) : ref.Taken s' := by
  cases ref with
  | login id =>
      apply Table.Spent.evolves hs h.loginFlows
      intro f f' hages hused
      rwa [hages.used hused]
  | binding id =>
      apply Table.Spent.evolves hs h.bindingFlows
      intro f f' hages hused
      rwa [hages.used hused]
  | email id =>
      apply Table.Spent.evolves hs h.emailFlows
      intro f f' hages hused
      rwa [hages.used hused]

/-- The call presents the credentials of the flow, which is open at the time `now`. -/
def FlowCall.Opens (lib : Library) (now : Nat) (s : AccountState) : FlowCall → FlowRef → Prop
  | .finishCallback _ req, .login id => ∃ f ∈ s.loginFlows.rows, f.id = id ∧
      f.unusedAt now = true ∧ ∃ state ∈ req.state, f.stateHash = lib.stateHash state
  | .finishMinecraftBinding _ req, .binding id => ∃ f ∈ s.bindingFlows.rows, f.id = id ∧
      f.unusedAt now = true ∧ ∃ state ∈ req.state, f.stateHash = lib.stateHash state
  | .checkDeviceCode _ userId code, .binding id => ∃ f ∈ s.bindingFlows.rows, f.id = id ∧
      f.unusedAt now = true ∧ f.userId = userId ∧ f.stateHash = lib.stateHash code
  | .confirmEmailVerification _ token, .email id => ∃ f ∈ s.emailFlows.rows, f.id = id ∧
      f.unusedAt now = true ∧ f.verificationTokenHash = some (lib.tokenHash (trim token))
  | .linkWithPassword req, .email id => ∃ f ∈ s.emailFlows.rows, f.id = id ∧
      f.unusedAt now = true ∧ ∃ token, lib.normalizeFlowToken req.flowToken = .ok token ∧
        f.flowTokenHash = lib.tokenHash token
  | _, _ => False

/-- Call `i` has taken the flow with its credentials; by a clock it has read, the flow
had not expired. -/
def TakesWith (lib : Library) (c : SiteConfig) (i : Nat) (call : FlowCall) (ref : FlowRef) :
    Prop :=
  ∃ e ∈ c.log, e.tid = i ∧ ref.Taken e.post.committed ∧
    ∃ clock ∈ c.trace i, call.Opens lib clock.2.committed.now e.pre.committed ref

/-- The flow was started for this provider. -/
def FlowRef.StartedFor (providerId : Nat) (s : AccountState) : FlowRef → Prop
  | .login id => ∃ f ∈ s.loginFlows.rows, f.id = id ∧ f.providerId = providerId
  | .binding id => ∃ f ∈ s.bindingFlows.rows, f.id = id ∧ f.providerId = providerId
  | .email id => ∃ f ∈ s.emailFlows.rows, f.id = id ∧ f.providerId = providerId

/-- The provider lets the call complete: every completion but that of a device wants
an enabled provider, a callback one of its own kind, and a login one that allows
logins. -/
def FlowCall.Permits (p : Provider) : FlowCall → Prop
  | .finishCallback _ req =>
      p.kind = req.kind ∧ p.enabled = true ∧ p.options.allowLogin = true
  | .finishMinecraftBinding _ _ => p.kind = .microsoft ∧ p.enabled = true
  | .confirmEmailVerification _ _ | .linkWithPassword _ => p.enabled = true
  | _ => True

/-- Call `i` has read the provider of the flow, which let it complete. -/
def PassesGate (c : SiteConfig) (i : Nat) (call : FlowCall) (ref : FlowRef) : Prop :=
  ∃ ev ∈ c.trace i, ∃ p ∈ ev.2.committed.providers.rows, call.Permits p ∧
    ∃ ev' ∈ c.trace i, ref.StartedFor p.id ev'.2.committed

section Open

variable {lib : Library} {now : Nat} {s : AccountState} {call : FlowCall} {ref : FlowRef}

theorem not_used_of_open {expiresAt now : Nat} {consumedAt : Option Nat}
    (h : unusedAt expiresAt consumedAt now = true) : ¬ consumedAt.isSome = true := by
  rw [(notUsed_of_unusedAt h).1]
  decide

/-- What a call can open is not taken. -/
theorem FlowCall.Opens.not_taken (h : call.Opens lib now s ref) : ¬ ref.Taken s := by
  cases ref with
  | login id =>
      cases call with
      | finishCallback ctx req =>
          obtain ⟨f, hf, rfl, hopen, -⟩ := h
          exact Table.not_spent_of_mem hf (not_used_of_open hopen)
      | _ => exact h.elim
  | binding id =>
      cases call with
      | finishMinecraftBinding ctx req =>
          obtain ⟨f, hf, rfl, hopen, -⟩ := h
          exact Table.not_spent_of_mem hf (not_used_of_open hopen)
      | checkDeviceCode ctx userId code =>
          obtain ⟨f, hf, rfl, hopen, -⟩ := h
          exact Table.not_spent_of_mem hf (not_used_of_open hopen)
      | _ => exact h.elim
  | email id =>
      cases call with
      | confirmEmailVerification ctx token =>
          obtain ⟨f, hf, rfl, hopen, -⟩ := h
          exact Table.not_spent_of_mem hf (not_used_of_open hopen)
      | linkWithPassword req =>
          obtain ⟨f, hf, rfl, hopen, -⟩ := h
          exact Table.not_spent_of_mem hf (not_used_of_open hopen)
      | _ => exact h.elim

end Open

/-- **A flow is taken at most once.** -/
theorem takesWith_unique {lib : Library} {c : SiteConfig}
    (hc : c.Good siteDiscipline fun _ _ _ _ _ => True) {i j : Nat} {call call' : FlowCall}
    {ref : FlowRef} (h : TakesWith lib c i call ref) (h' : TakesWith lib c j call' ref) :
    j = i := by
  obtain ⟨e, he, rfl, hpost, _, -, hopen⟩ := h
  obtain ⟨e', he', rfl, hpost', _, -, hopen'⟩ := h'
  have hstable : ∀ s s' : AccountShared, siteDiscipline.rely s s' →
      ref.Taken s.committed → ref.Taken s'.committed := fun _ _ hrely hs => hrely.2.taken hs
  rw [hc.flip_unique hstable he' he hopen'.not_taken hpost' hopen.not_taken hpost]

/-! ## Flows that are used on the pool -/

section Pool

variable {lib : Library} {tr : Trace accountStore.readCommitted}

/-- The call has read the clock. -/
def clockRead (s : AccountShared) : accountStore.Stmt × AccountShared :=
  (.auto (.account (.service (.db .now))), s)

theorem onPool_utcNow_bind {α : Type} {f : Nat → OnConnection α} {a : α}
    (h : OnPool lib (onDb (utcNow.bind f)) tr a) :
    ∃ s rest, tr = clockRead s :: rest ∧ OnPool lib (onDb (f s.committed.now)) rest a :=
  onPool_stmt_bind rfl h

/-- A login flow that was consumed by its state. -/
theorem onPool_consumeLoginFlow {hash : String} {now : Nat} {f : LoginFlow}
    (h : OnPool lib (onDb (consumeLoginFlowByStateHash hash now)) tr (some f)) :
    ∃ s₁ s₂, tr = [(.auto (.account (.loginFlowFindActive hash now)), s₁),
        (.auto (.account (.loginFlowConsume f.id now)), s₂)] ∧
      f ∈ s₁.committed.loginFlows.rows ∧ f.stateHash = hash ∧
      ∃ f' ∈ s₂.committed.loginFlows.rows, f'.id = f.id ∧ f'.unusedAt now = true := by
  obtain ⟨s₁, rest, rfl, hrest⟩ := onPool_stmt_bind rfl h
  cases hfound : ((AccountStmt.loginFlowFindActive hash now).exec s₁.committed).1 with
  | none =>
      rw [hfound] at hrest
      cases (onPool_ok hrest).2
  | some f₁ =>
      rw [hfound] at hrest
      obtain ⟨s₂, rest', rfl, hdone⟩ := onPool_stmt_bind rfl hrest
      obtain ⟨rfl, hconsumed⟩ := onPool_ok hdone
      obtain ⟨hf, hopen⟩ := Table.of_find? hfound
      simp only [Bool.and_eq_true, decide_eq_true_eq] at hopen
      split at hconsumed
      · next hhit =>
          cases hconsumed
          obtain ⟨f', hf', hopen'⟩ := exists_of_select hhit
          simp only [Bool.and_eq_true, decide_eq_true_eq] at hopen'
          exact ⟨s₁, s₂, rfl, hf, hopen.1, f', hf', hopen'⟩
      · cases hconsumed

/-- A binding flow that was consumed by its state. -/
theorem onPool_consumeBindingFlow {hash : String} {now : Nat} {f : BindingFlow}
    (h : OnPool lib (onDb (consumeBindingFlowByStateHash hash now)) tr (some f)) :
    ∃ s₁ s₂, tr = [(.auto (.account (.bindingFlowFindActive hash now)), s₁),
        (.auto (.account (.bindingFlowConsume f.id now)), s₂)] ∧
      f ∈ s₁.committed.bindingFlows.rows ∧ f.stateHash = hash ∧
      ∃ f' ∈ s₂.committed.bindingFlows.rows, f'.id = f.id ∧ f'.unusedAt now = true := by
  obtain ⟨s₁, rest, rfl, hrest⟩ := onPool_stmt_bind rfl h
  cases hfound : ((AccountStmt.bindingFlowFindActive hash now).exec s₁.committed).1 with
  | none =>
      rw [hfound] at hrest
      cases (onPool_ok hrest).2
  | some f₁ =>
      rw [hfound] at hrest
      obtain ⟨s₂, rest', rfl, hdone⟩ := onPool_stmt_bind rfl hrest
      obtain ⟨rfl, hconsumed⟩ := onPool_ok hdone
      obtain ⟨hf, hopen⟩ := Table.of_find? hfound
      simp only [Bool.and_eq_true, decide_eq_true_eq] at hopen
      split at hconsumed
      · next hhit =>
          cases hconsumed
          obtain ⟨f', hf', hopen'⟩ := exists_of_select hhit
          simp only [Bool.and_eq_true, decide_eq_true_eq] at hopen'
          exact ⟨s₁, s₂, rfl, hf, hopen.1, f', hf', hopen'⟩
      · cases hconsumed

/-- The code and the state of a callback are the ones of its query. -/
theorem callbackParams_ok {req : CallbackRequest} {noCode noState code state : String}
    (h : callbackParams req noCode noState = .ok (code, state)) :
    code ∈ req.code ∧ state ∈ req.state := by
  unfold callbackParams at h
  split at h
  · cases h
  · split at h
    · cases h
    · cases h
    · next hcode hstate =>
        cases h
        exact ⟨hcode, hstate⟩

/-- The provider a call has read. -/
theorem onPool_providerFindById {id : Nat} {p : Provider}
    (h : OnPool lib (onDb (providerFindById id)) tr p) :
    ∃ s, tr = [(.auto (.account (.providerFindById id)), s)] ∧
      p ∈ s.committed.providers.rows ∧ p.id = id := by
  obtain ⟨s, rest, rfl, hrest⟩ := onPool_stmt_bind rfl h
  obtain ⟨rfl, hfound⟩ := onPool_found hrest
  obtain ⟨hp, hid⟩ := Table.of_find? hfound
  exact ⟨s, rfl, hp, by simpa using hid⟩

/-- What a login callback went through: it consumed a flow of its state, and the
provider it read afterwards allows the login. -/
structure CallbackConsumed (lib : Library) (req : CallbackRequest)
    (tr : Trace accountStore.readCommitted) (f : LoginFlow) (p : Provider) : Prop where
  flow : ∃ s₀ s₁ s₂ state, state ∈ req.state ∧
    [clockRead s₀, (.auto (.account (.loginFlowFindActive (lib.stateHash state)
        s₀.committed.now)), s₁),
      (.auto (.account (.loginFlowConsume f.id s₀.committed.now)), s₂)].Sublist tr ∧
    f ∈ s₁.committed.loginFlows.rows ∧ f.stateHash = lib.stateHash state ∧
    ∃ f' ∈ s₂.committed.loginFlows.rows, f'.id = f.id ∧
      f'.unusedAt s₀.committed.now = true
  provider : ∃ s₃, (.auto (.account (.providerFindById f.providerId)), s₃) ∈ tr ∧
    p ∈ s₃.committed.providers.rows ∧ p.id = f.providerId
  kind : p.kind = req.kind
  enabled : p.enabled = true
  allowLogin : p.options.allowLogin = true

theorem onPool_consumeCallback {req : CallbackRequest} {code : String} {f : LoginFlow}
    {p : Provider} (h : OnPool lib (onDb (consumeCallback lib req)) tr (code, f, p)) :
    code ∈ req.code ∧ CallbackConsumed lib req tr f p := by
  obtain ⟨⟨code', state⟩, hparams, h₁⟩ := onPool_checked h
  obtain ⟨s₀, rest, rfl, h₂⟩ := onPool_utcNow_bind h₁
  obtain ⟨found, tr₁, tr₂, rfl, hconsume, h₃⟩ := onPool_onDb_bind h₂
  obtain ⟨f₁, rfl, h₄⟩ := onPool_required h₃
  obtain ⟨p₁, tr₃, tr₄, rfl, hprovider, h₅⟩ := onPool_onDb_bind h₄
  obtain ⟨_, tr₅, tr₆, rfl, hcallback, h₆⟩ := onPool_onDb_bind h₅
  obtain ⟨_, tr₇, tr₈, rfl, hallowed, h₇⟩ := onPool_onDb_bind h₆
  cases (onPool_ok h₇).2
  obtain ⟨henabled, hallowed'⟩ := onPool_rejectIf hallowed
  obtain ⟨-, hlogin⟩ := onPool_passed hallowed'
  obtain ⟨hkind, -⟩ := onPool_rejectIf hcallback
  obtain ⟨s₁, s₂, rfl, hf, hhash, f', hf', hid, hopen⟩ := onPool_consumeLoginFlow hconsume
  obtain ⟨s₃, rfl, hp, hpid⟩ := onPool_providerFindById hprovider
  obtain ⟨hcode, hstate⟩ := callbackParams_ok hparams
  refine ⟨hcode, ?_⟩
  constructor
  · exact ⟨s₀, s₁, s₂, state, hstate, by simp, hf, hhash, f', hf', hid, hopen⟩
  · exact ⟨s₃, by simp, hp, hpid⟩
  · simpa using hkind
  · simpa using henabled
  · simpa using hlogin

/-- What a binding callback went through. -/
structure BindingConsumed (lib : Library) (req : CallbackRequest)
    (tr : Trace accountStore.readCommitted) (f : BindingFlow) (p : Provider) : Prop where
  flow : ∃ s₀ s₁ s₂ state, state ∈ req.state ∧
    [clockRead s₀, (.auto (.account (.bindingFlowFindActive (lib.stateHash state)
        s₀.committed.now)), s₁),
      (.auto (.account (.bindingFlowConsume f.id s₀.committed.now)), s₂)].Sublist tr ∧
    f ∈ s₁.committed.bindingFlows.rows ∧ f.stateHash = lib.stateHash state ∧
    ∃ f' ∈ s₂.committed.bindingFlows.rows, f'.id = f.id ∧
      f'.unusedAt s₀.committed.now = true
  provider : ∃ s₃, (.auto (.account (.providerFindById f.providerId)), s₃) ∈ tr ∧
    p ∈ s₃.committed.providers.rows ∧ p.id = f.providerId
  kind : p.kind = .microsoft
  enabled : p.enabled = true

theorem onPool_consumeBindingCallback {req : CallbackRequest} {code : String}
    {f : BindingFlow} {p : Provider}
    (h : OnPool lib (onDb (consumeBindingCallback lib req)) tr (code, f, p)) :
    BindingConsumed lib req tr f p := by
  obtain ⟨_, hmicrosoft, h₀⟩ := onPool_checked h
  obtain ⟨⟨code', state⟩, hparams, h₁⟩ := onPool_checked h₀
  obtain ⟨s₀, rest, rfl, h₂⟩ := onPool_utcNow_bind h₁
  obtain ⟨found, tr₁, tr₂, rfl, hconsume, h₃⟩ := onPool_onDb_bind h₂
  obtain ⟨f₁, rfl, h₄⟩ := onPool_required h₃
  obtain ⟨p₁, tr₃, tr₄, rfl, hprovider, h₅⟩ := onPool_onDb_bind h₄
  obtain ⟨_, tr₅, tr₆, rfl, hcallback, h₆⟩ := onPool_onDb_bind h₅
  obtain ⟨_, tr₇, tr₈, rfl, henabled, h₇⟩ := onPool_onDb_bind h₆
  cases (onPool_ok h₇).2
  obtain ⟨-, henabled⟩ := onPool_passed henabled
  obtain ⟨hkind, -⟩ := onPool_rejectIf hcallback
  obtain ⟨s₁, s₂, rfl, hf, hhash, f', hf', hid, hopen⟩ := onPool_consumeBindingFlow hconsume
  obtain ⟨s₃, rfl, hp, hpid⟩ := onPool_providerFindById hprovider
  constructor
  · exact ⟨s₀, s₁, s₂, state, (callbackParams_ok hparams).2, by simp, hf, hhash, f', hf', hid,
      hopen⟩
  · exact ⟨s₃, by simp, hp, hpid⟩
  · have hsame : p.kind = req.kind := by simpa using hkind
    rw [hsame]
    unfold ensureMinecraftBindingProviderKind at hmicrosoft
    split at hmicrosoft
    · assumption
    · cases hmicrosoft
  · simpa using henabled

/-- What the status check of a device went through when Microsoft had authorized it. -/
structure DeviceConsumed (lib : Library) (userId : Nat) (deviceCode : String)
    (tr : Trace accountStore.readCommitted) (f : BindingFlow) (p : Provider) : Prop where
  flow : ∃ s₁ s₂ s₃ now, [(.auto (.account (.bindingFlowFindActive
        (lib.stateHash deviceCode) now)), s₁), clockRead s₂,
      (.auto (.account (.bindingFlowConsume f.id s₂.committed.now)), s₃)].Sublist tr ∧
    f ∈ s₁.committed.bindingFlows.rows ∧ f.stateHash = lib.stateHash deviceCode ∧
    ∃ f' ∈ s₃.committed.bindingFlows.rows, f'.id = f.id ∧
      f'.unusedAt s₂.committed.now = true
  provider : ∃ s, (.auto (.account (.providerFindById f.providerId)), s) ∈ tr ∧
    p ∈ s.committed.providers.rows ∧ p.id = f.providerId
  owner : f.userId = userId

theorem onPool_utcNow_bind' {α : Type} {f : Nat → ExternalProg α} {a : α}
    (h : OnPool lib ((onDb utcNow).bind f) tr a) :
    ∃ s rest, tr = clockRead s :: rest ∧ OnPool lib (f s.committed.now) rest a := by
  obtain ⟨now, tr₁, tr₂, rfl, h₁, h₂⟩ := onPool_bind h
  obtain ⟨s, rfl, rfl⟩ := onPool_stmt rfl h₁
  exact ⟨s, tr₂, rfl, h₂⟩

theorem onPool_checkDeviceCode {ctx : BindingContext} {userId : Nat} {deviceCode : String}
    {result : BindingResult}
    (h : OnPool lib (checkDeviceCodeStatus lib ctx userId deviceCode) tr (some result)) :
    ∃ f p, DeviceConsumed lib userId deviceCode tr f p := by
  obtain ⟨s₀, rest, rfl, h₁⟩ := onPool_utcNow_bind' h
  obtain ⟨found, tr₁, tr₂, rfl, hfind, h₂⟩ := onPool_bind h₁
  obtain ⟨s₁, rfl, rfl⟩ := onPool_stmt rfl hfind
  cases hfound : ((AccountStmt.bindingFlowFindActive (lib.stateHash deviceCode)
      s₀.committed.now).exec s₁.committed).1 with
  | none =>
      rw [hfound] at h₂
      cases (onPool_ok h₂).2
  | some f =>
      rw [hfound] at h₂
      obtain ⟨_, tr₃, tr₄, rfl, howner, h₃⟩ := onPool_bind h₂
      obtain ⟨p, tr₅, tr₆, rfl, hprovider, h₄⟩ := onPool_bind h₃
      obtain ⟨s₄, rfl, hp, hpid⟩ := onPool_providerFindById hprovider
      obtain ⟨status, tr₇, tr₈, rfl, -, h₅⟩ := onPool_bind h₄
      obtain ⟨-, howner⟩ := onPool_passed howner
      obtain ⟨hf, hactive⟩ := Table.of_find? hfound
      simp only [Bool.and_eq_true, decide_eq_true_eq] at hactive
      cases status with
      | pending => cases (onPool_ok h₅).2
      | slowDown => cases (onPool_ok h₅).2
      | expired =>
          obtain ⟨_, _, _, -, -, h₆⟩ := onPool_bind h₅
          obtain ⟨_, _, _, -, -, h₇⟩ := onPool_bind h₆
          exact (onPool_err h₇).elim
      | authorized accessToken =>
          obtain ⟨s₂, rest₂, rfl, h₆⟩ := onPool_utcNow_bind' h₅
          obtain ⟨consumed, tr₉, tr₁₀, rfl, hconsume, h₇⟩ := onPool_bind h₆
          obtain ⟨s₃, rfl, rfl⟩ := onPool_stmt rfl hconsume
          cases hhit : ((AccountStmt.bindingFlowConsume f.id
              s₂.committed.now).exec s₃.committed).1 with
          | false =>
              rw [hhit] at h₇
              cases (onPool_ok h₇).2
          | true =>
              obtain ⟨f', hf', hopen⟩ := exists_of_select hhit
              simp only [Bool.and_eq_true, decide_eq_true_eq] at hopen
              refine ⟨f, p, ⟨s₁, s₂, s₃, s₀.committed.now, ?_, hf, hactive.1, f', hf', hopen⟩,
                ⟨s₄, by simp, hp, hpid⟩, by simpa using howner⟩
              refine .cons _ (.cons_cons _ ?_)
              apply List.Sublist.trans _ (List.sublist_append_right tr₃ _)
              apply List.Sublist.trans _ (List.sublist_append_right [_] _)
              apply List.Sublist.trans _ (List.sublist_append_right tr₇ _)
              exact .cons_cons _ (.cons_cons _ (List.nil_sublist _))

end Pool

/-! ## Flows that are used in a transaction -/

/-- An ordinary statement changes email flows one by one. -/
theorem exec_emailFlows {i : StoreStmt} (hi : i.ordinary = true) (s : AccountState) :
    (i.exec s).2.emailFlows.rows =
      s.emailFlows.rows.map fun f => (i.changeEmail f).getD f := by
  have hsame : ∀ {t : Table emailFlowSchema}, t.rows = s.emailFlows.rows →
      t.rows = s.emailFlows.rows.map fun f => f := fun h => by rw [h, List.map_id']
  by_cases htouch : i.touchesFlows = false
  · have hnone : i.changeEmail = some := by
      funext f
      cases i with
      | account i => cases i <;> first | rfl | cases htouch
      | _ => rfl
    rw [(sameFlows_exec htouch s).emailFlows, hnone]
    exact hsame rfl
  · cases i with
    | account i =>
        cases i with
        | service i =>
            cases i with
            | db i => cases i <;> first | exact absurd rfl htouch | cases hi
            | _ => exact absurd rfl htouch
        | emailFlowConsume id now => rfl
        | emailFlowUpdateRequest id email hash now => rfl
        | _ => first | exact hsame rfl | exact absurd rfl htouch | cases hi
    | invitationInsert row =>
        simp only [StoreStmt.exec]
        split <;> exact hsame rfl
    | _ => first | exact hsame rfl | exact absurd rfl htouch

/-- The email flows under the writes of a transaction. -/
@[reducible] def emailRows :
    Store.Rows accountStore siteProtection fun i => StoreStmt.ordinary i = true where
  Row := EmailFlow
  rows s := s.emailFlows.rows
  key f := .emailFlow f.id
  mark i _ f := (i.changeEmail f).getD f
  redo i now s hi := exec_emailFlows hi (s.setNow now)
  immediate i _ f hi himm := by
    have hunwritten : .emailFlow f.id ∉ i.writes := by
      cases i with
      | account i =>
          cases i with
          | service i => exact List.not_mem_nil
          | _ => cases himm
      | _ => first | exact List.not_mem_nil | cases himm
    rw [changeEmail_unwritten hi hunwritten]
    rfl
  same _ _ f h hf := h f hf rfl

theorem changeEmail_getD_ages (i : StoreStmt) (f : EmailFlow) :
    f.Ages ((i.changeEmail f).getD f) ∧ ((i.changeEmail f).getD f).id = f.id := by
  cases h : i.changeEmail f with
  | none => exact ⟨.refl f, rfl⟩
  | some f' =>
      obtain ⟨hid, hages⟩ := i.changeEmail_ages f f' h
      exact ⟨hages, hid.symm⟩

/-- What the writes of a transaction make of an email flow. -/
theorem emailMarks_ages (buf : accountStore.Buffer) (f : EmailFlow) :
    f.Ages (emailRows.marks buf f) ∧ (emailRows.marks buf f).id = f.id := by
  induction buf generalizing f with
  | nil => exact ⟨.refl f, rfl⟩
  | cons w buf ih =>
      obtain ⟨hages, hid⟩ := changeEmail_getD_ages w.1 f
      obtain ⟨hages', hid'⟩ := ih ((w.1.changeEmail f).getD f)
      exact ⟨hages.trans hages', hid'.trans hid⟩

section Email

variable {lib : Library} {x : Nat} {tr : Trace accountStore.readCommitted}
  {writes : accountStore.Buffer}

/-- A transaction that begins by consuming an email flow. -/
theorem inTxn_consumeEmailFlow {α : Type} {id now : Nat} {message : String}
    {p : Unit → OnConnection α} {a : α}
    (h : InTxn x ((consumeEmailFlow id now message).bind p) [] tr writes a) :
    ∃ s₁ rest t, tr = (.exec x [] (.account (.emailFlowConsume id now)), s₁) :: rest ∧
      x ∉ s₁.closed ∧ [(.account (.emailFlowConsume id now), t)] <+: writes ∧
      ∃ f ∈ s₁.committed.emailFlows.rows, f.id = id ∧ f.unusedAt now = true := by
  obtain ⟨_, mid, tr₁, tr₂, rfl, hconsume, hrest⟩ := inTxn_bind h
  obtain ⟨s₁, rest₁, rfl, hopen, hchecked⟩ := inTxn_stmt_bind rfl hconsume
  have hgrows := hchecked.ran.grows.trans hrest.ran.grows
  cases hhit : ((AccountStmt.emailFlowConsume id now).exec (accountStore.view [] s₁)).1 with
  | false =>
      rw [hhit] at hchecked
      exact (inTxn_err hchecked).elim
  | true =>
      obtain ⟨f, hf, hunused⟩ := exists_of_select hhit
      simp only [Bool.and_eq_true, decide_eq_true_eq] at hunused
      exact ⟨s₁, _, _, rfl, hopen, hgrows, f, hf, hunused⟩

/-- **The commit of a transaction that has consumed an email flow.**  The flow is
still open when it commits, and taken from then on. -/
theorem emailFlow_committed {s₁ s₂ : AccountShared} {f : EmailFlow} {now t : Nat}
    (hf : f ∈ s₁.committed.emailFlows.rows) (hunused : f.unusedAt now = true)
    (hopen₁ : x ∉ s₁.closed) (hopen₂ : x ∉ s₂.closed)
    (hwrites : [(.account (.emailFlowConsume f.id now), t)] <+: writes)
    (hordinary : ∀ w ∈ writes, StoreStmt.ordinary w.1 = true)
    (hrely : siteProtection.Undisturbed (accountStore.exec (.exec x []
      (.account (.emailFlowConsume f.id now))) s₁).2 s₂) :
    f ∈ s₂.committed.emailFlows.rows ∧
      (FlowRef.email f.id).Taken (accountStore.exec (.commit x writes) s₂).2.committed := by
  obtain ⟨hstill, hpost⟩ := emailRows.committed (r := f) (b := writes) rfl hopen₁ hopen₂
    hrely (List.mem_singleton_self _) hf hordinary
  refine ⟨hstill, ?_⟩
  obtain ⟨rest, rfl⟩ := hwrites
  have hconsumed : emailRows.mark (.account (.emailFlowConsume f.id now)) t f =
      f.consume now := by
    simp [StoreStmt.changeEmail, hunused]
  rw [List.singleton_append, Store.Rows.marks_cons, hconsumed] at hpost
  obtain ⟨hages, hid⟩ := emailMarks_ages rest (f.consume now)
  rw [hages.used rfl] at hpost
  exact Table.spent_of_mem hpost rfl

end Email

/-- What a call went through that takes an email flow in a transaction: it read the
clock, found the flow, and consumed it first of all in the transaction. -/
structure EmailConsumed (key : EmailFlow → Prop) (tr : Trace accountStore.readCommitted)
    (f : EmailFlow) (p : Provider) : Prop where
  flow : ∃ s₀ find s₁ x s₂ writes s₃ t,
    [clockRead s₀, (find, s₁),
      (.exec x [] (.account (.emailFlowConsume f.id s₀.committed.now)), s₂),
      (.commit x writes, s₃)].Sublist tr ∧
    f ∈ s₁.committed.emailFlows.rows ∧ key f ∧ x ∉ s₂.closed ∧ x ∉ s₃.closed ∧
    [(.account (.emailFlowConsume f.id s₀.committed.now), t)] <+: writes ∧
    (∀ w ∈ writes, StoreStmt.ordinary w.1 = true) ∧
    ∃ f' ∈ s₂.committed.emailFlows.rows, f'.id = f.id ∧
      f'.unusedAt s₀.committed.now = true
  provider : ∃ s, (.auto (.account (.providerFindById f.providerId)), s) ∈ tr ∧
    p ∈ s.committed.providers.rows ∧ p.id = f.providerId
  enabled : p.enabled = true

section Email

variable {lib : Library} {tr : Trace accountStore.readCommitted}

/-- The transaction, after what the call did before it. -/
theorem EmailConsumed.of_txn (key : EmailFlow → Prop)
    (past : Trace accountStore.readCommitted) {f : EmailFlow} {p : Provider}
    {s₀ s₁ s₄ : AccountShared} {find : accountStore.Stmt} {t : AccountTxn} {a : t.Result}
    {message : String} {q : Unit → OnConnection t.Result}
    (hbody : t.body lib = (consumeEmailFlow f.id s₀.committed.now message).bind q)
    (htxn : OnPool lib (withTxn t) tr a)
    (hpast : [clockRead s₀, (find, s₁)].Sublist past)
    (hf : f ∈ s₁.committed.emailFlows.rows) (hkey : key f)
    (hprovider : (.auto (.account (.providerFindById f.providerId)), s₄) ∈ past)
    (hp : p ∈ s₄.committed.providers.rows) (hpid : p.id = f.providerId)
    (henabled : p.enabled = true) : EmailConsumed key (past ++ tr) f p := by
  obtain ⟨b, mid, s₃, writes, rfl, hopen₃, hin⟩ := onPool_withTxn htxn
  have hordinary := hin.ran.within (within_statements (ordinary_body lib t)) (by simp)
  rw [hbody] at hin
  obtain ⟨s₂, rest, stamp, rfl, hopen₂, hwrites, f', hf', hid, hopen⟩ :=
    inTxn_consumeEmailFlow hin
  constructor
  · refine ⟨s₀, find, s₁, b.next, s₂, writes, s₃, stamp, ?_, hf, hkey, hopen₂, hopen₃, hwrites,
      hordinary, f', hf', hid, hopen⟩
    exact hpast.append (.cons _ (.cons_cons _ (List.sublist_append_right rest _)))
  · exact ⟨s₄, List.mem_append_left _ hprovider, hp, hpid⟩
  · exact henabled

/-- What a confirmation did before its transaction. -/
structure ConfirmBegun (lib : Library) (token : String)
    (past : Trace accountStore.readCommitted) (f : EmailFlow) (p : Provider) (email : String)
    (s₀ : AccountShared) : Prop where
  seen : ∃ s₁ s₂, past = [clockRead s₀, (.auto (.account
      (.emailFlowFindActiveByVerificationToken (lib.tokenHash (trim token))
        s₀.committed.now)), s₁), (.auto (.account (.providerFindById f.providerId)), s₂)] ∧
    f ∈ s₁.committed.emailFlows.rows ∧ p ∈ s₂.committed.providers.rows
  token : f.verificationTokenHash = some (lib.tokenHash (trim token))
  target : f.targetEmail = some email
  provider : p.id = f.providerId
  enabled : p.enabled = true

theorem onPool_confirmEmailVerification {ctx : ProvisionContext} {token : String}
    {login : PrimaryLogin} (h : OnPool lib (confirmEmailVerification lib ctx token) tr login) :
    ∃ f p email s₀ past rest resolved, tr = past ++ rest ∧
      ConfirmBegun lib token past f p email s₀ ∧
      OnPool lib (withTxn (.confirmEmail ctx p (claimsWithVerifiedLocalEmail f email) f.id
        s₀.committed.now)) rest resolved ∧
      login = primaryLogin resolved f.returnPath p (claimsWithVerifiedLocalEmail f email) := by
  obtain ⟨_, tr₁, tr₂, rfl, htoken, h₁⟩ := onPool_bind h
  obtain ⟨rfl, -⟩ := onPool_passed htoken
  obtain ⟨s₀, rest, rfl, h₂⟩ := onPool_utcNow_bind' h₁
  obtain ⟨found, tr₃, tr₄, rfl, hfind, h₃⟩ := onPool_bind h₂
  obtain ⟨s₁, rfl, rfl⟩ := onPool_stmt rfl hfind
  obtain ⟨f, tr₅, tr₆, rfl, hfound, h₄⟩ := onPool_bind h₃
  obtain ⟨rfl, hflow⟩ := onPool_found hfound
  obtain ⟨email, tr₇, tr₈, rfl, htarget, h₅⟩ := onPool_bind h₄
  obtain ⟨rfl, hemail⟩ := onPool_found htarget
  obtain ⟨p, tr₉, tr₁₀, rfl, hprovider, h₆⟩ := onPool_bind h₅
  obtain ⟨s₂, rfl, hp, hpid⟩ := onPool_providerFindById hprovider
  obtain ⟨_, tr₁₁, tr₁₂, rfl, hswitch, h₇⟩ := onPool_bind h₆
  obtain ⟨rfl, henabled⟩ := onPool_passed hswitch
  obtain ⟨resolved, tr₁₃, tr₁₄, rfl, htxn, hend⟩ := onPool_bind h₇
  obtain ⟨rfl, hlogin⟩ := onPool_ok hend
  obtain ⟨hf, hkey⟩ := Table.of_find? hflow
  simp only [Bool.and_eq_true, decide_eq_true_eq] at hkey
  exact ⟨f, p, email, s₀, _, tr₁₃, resolved, by simp,
    ⟨⟨s₁, s₂, rfl, hf, hp⟩, hkey.1, hemail, hpid, by simpa using henabled⟩, htxn, hlogin⟩

theorem onPool_confirmEmail {ctx : ProvisionContext} {token : String} {login : PrimaryLogin}
    (h : OnPool lib (confirmEmailVerification lib ctx token) tr login) :
    ∃ f p, EmailConsumed (fun f => f.verificationTokenHash = some (lib.tokenHash (trim token)))
      tr f p := by
  obtain ⟨f, p, email, s₀, past, rest, resolved, rfl, hbegun, htxn, -⟩ :=
    onPool_confirmEmailVerification h
  obtain ⟨s₁, s₂, rfl, hf, hp⟩ := hbegun.seen
  exact ⟨f, p, EmailConsumed.of_txn _ _ rfl htxn
    (.cons_cons _ (.cons_cons _ (List.nil_sublist _))) hf hbegun.token
    (List.mem_cons_of_mem _ (List.mem_cons_of_mem _ (List.mem_singleton_self _))) hp
    hbegun.provider hbegun.enabled⟩

/-- The account an identifier and a password open. -/
theorem onPool_authenticateForLink {identifier password : String} {u : User}
    (h : OnPool lib (onDb (authenticateForLink lib identifier password)) tr u) :
    ∃ s, tr = [(.auto (.account (.service (.db (.userFindByIdentifier identifier)))), s)] ∧
      u ∈ s.committed.users.rows ∧ u.status.isActive = true ∧
      isEmailActivationSatisfied u = true ∧
      lib.verifyPassword password u.passwordHash = .ok true := by
  obtain ⟨s, rest, rfl, h₁⟩ := onPool_stmt_bind rfl h
  obtain ⟨valid, hvalid, h₂⟩ := onPool_checked h₁
  obtain ⟨hyes, h₃⟩ := onPool_rejectIf h₂
  obtain ⟨u', hfound, h₄⟩ := onPool_required h₃
  obtain ⟨hactive, h₅⟩ := onPool_rejectIf h₄
  obtain ⟨hactivated, h₆⟩ := onPool_rejectIf h₅
  obtain ⟨rfl, rfl⟩ := onPool_ok h₆
  refine ⟨s, rfl, (Table.of_find? hfound).1, by simpa using hactive, by simpa using hactivated,
    ?_⟩
  rw [hfound] at hvalid
  have htrue : valid = true := by simpa using hyes
  rw [htrue] at hvalid
  exact hvalid

/-- What a link with a password did before its transaction. -/
structure LinkBegun (lib : Library) (req : PasswordLinkRequest)
    (past : Trace accountStore.readCommitted) (f : EmailFlow) (p : Provider) (u : User)
    (token : String) (s₀ : AccountShared) : Prop where
  seen : ∃ s₁ s₂ s₃, past = [clockRead s₀, (.auto (.account
      (.emailFlowFindActiveByFlowToken (lib.tokenHash token) s₀.committed.now)), s₁),
      (.auto (.account (.providerFindById f.providerId)), s₂), (.auto (.account
        (.service (.db (.userFindByIdentifier (trim req.identifier))))), s₃)] ∧
    f ∈ s₁.committed.emailFlows.rows ∧ p ∈ s₂.committed.providers.rows ∧
    u ∈ s₃.committed.users.rows
  normal : lib.normalizeFlowToken req.flowToken = .ok token
  token : f.flowTokenHash = lib.tokenHash token
  provider : p.id = f.providerId
  enabled : p.enabled = true
  active : u.status.isActive = true
  activated : isEmailActivationSatisfied u = true
  password : lib.verifyPassword req.password u.passwordHash = .ok true

theorem onPool_linkWithPassword {req : PasswordLinkRequest} {login : PrimaryLogin}
    (h : OnPool lib (linkWithPassword lib req) tr login) :
    ∃ f p u token s₀ past rest resolved, tr = past ++ rest ∧
      LinkBegun lib req past f p u token s₀ ∧
      OnPool lib (withTxn (.passwordLink p (claimsWithoutProviderEmail f) u f.id
        s₀.committed.now)) rest resolved ∧
      login = primaryLogin resolved f.returnPath p (claimsWithoutProviderEmail f) := by
  obtain ⟨token, tr₁, tr₂, rfl, hnormal, h₁⟩ := onPool_bind h
  obtain ⟨rfl, htoken⟩ := onPool_computed hnormal
  obtain ⟨_, tr₃, tr₄, rfl, hidentifier, h₂⟩ := onPool_bind h₁
  obtain ⟨rfl, -⟩ := onPool_passed hidentifier
  obtain ⟨_, tr₅, tr₆, rfl, hpassword, h₃⟩ := onPool_bind h₂
  obtain ⟨rfl, -⟩ := onPool_passed hpassword
  obtain ⟨s₀, rest, rfl, h₄⟩ := onPool_utcNow_bind' h₃
  obtain ⟨found, tr₇, tr₈, rfl, hfind, h₅⟩ := onPool_bind h₄
  obtain ⟨s₁, rfl, rfl⟩ := onPool_stmt rfl hfind
  obtain ⟨f, tr₉, tr₁₀, rfl, hfound, h₆⟩ := onPool_bind h₅
  obtain ⟨rfl, hflow⟩ := onPool_found hfound
  obtain ⟨p, tr₁₁, tr₁₂, rfl, hprovider, h₇⟩ := onPool_bind h₆
  obtain ⟨s₂, rfl, hp, hpid⟩ := onPool_providerFindById hprovider
  obtain ⟨_, tr₁₃, tr₁₄, rfl, hswitch, h₈⟩ := onPool_bind h₇
  obtain ⟨rfl, henabled⟩ := onPool_passed hswitch
  obtain ⟨u, tr₁₅, tr₁₆, rfl, huser, h₉⟩ := onPool_bind h₈
  obtain ⟨s₃, rfl, hu, hactive, hactivated, hvalid⟩ := onPool_authenticateForLink huser
  obtain ⟨resolved, tr₁₇, tr₁₈, rfl, htxn, hend⟩ := onPool_bind h₉
  obtain ⟨rfl, hlogin⟩ := onPool_ok hend
  obtain ⟨hf, hkey⟩ := Table.of_find? hflow
  simp only [Bool.and_eq_true, decide_eq_true_eq] at hkey
  exact ⟨f, p, u, token, s₀, _, tr₁₇, resolved, by simp,
    ⟨⟨s₁, s₂, s₃, rfl, hf, hp, hu⟩, htoken, hkey.1, hpid, by simpa using henabled, hactive,
      hactivated, hvalid⟩, htxn, hlogin⟩

theorem onPool_passwordLink {req : PasswordLinkRequest} {login : PrimaryLogin}
    (h : OnPool lib (linkWithPassword lib req) tr login) :
    ∃ f p token, lib.normalizeFlowToken req.flowToken = .ok token ∧
      EmailConsumed (fun f => f.flowTokenHash = lib.tokenHash token) tr f p := by
  obtain ⟨f, p, u, token, s₀, past, rest, resolved, rfl, hbegun, htxn, -⟩ :=
    onPool_linkWithPassword h
  obtain ⟨s₁, s₂, s₃, rfl, hf, hp, hu⟩ := hbegun.seen
  exact ⟨f, p, token, hbegun.normal, EmailConsumed.of_txn _ _ rfl htxn
    (.cons_cons _ (.cons_cons _ (List.nil_sublist _))) hf hbegun.token
    (List.mem_cons_of_mem _ (List.mem_cons_of_mem _ (List.mem_cons_self ..))) hp
    hbegun.provider hbegun.enabled⟩

end Email

/-! ## Completions -/

section Completions

variable {lib : Library} {c : SiteConfig} {i : Nat} {tr : Trace accountStore.readCommitted}

/-- The statement that consumes a login flow takes it. -/
theorem loginFlow_taken {id now : Nat} {s : AccountShared} {f : LoginFlow}
    (hmem : (.auto (.account (.loginFlowConsume id now)), s) ∈ c.trace i)
    (hf : f ∈ s.committed.loginFlows.rows) (hid : f.id = id) (hopen : f.unusedAt now = true) :
    ∃ e ∈ c.log, e.tid = i ∧ (FlowRef.login id).Taken e.post.committed ∧ e.pre = s := by
  obtain ⟨e, he, htid, hstmt, hpre⟩ := Config.mem_trace.mp hmem
  have hused : f.consume now ∈ e.post.committed.loginFlows.rows := by
    unfold Event.post
    rw [hstmt, hpre]
    refine List.mem_map.mpr ⟨f, hf, ?_⟩
    simp [hid, hopen]
  have htaken := Table.spent_of_mem (p := fun f => f.consumedAt.isSome = true) hused rfl
  rw [← hid]
  exact ⟨e, he, htid, htaken, hpre⟩

/-- The statement that consumes a binding flow takes it. -/
theorem bindingFlow_taken {id now : Nat} {s : AccountShared} {f : BindingFlow}
    (hmem : (.auto (.account (.bindingFlowConsume id now)), s) ∈ c.trace i)
    (hf : f ∈ s.committed.bindingFlows.rows) (hid : f.id = id)
    (hopen : f.unusedAt now = true) :
    ∃ e ∈ c.log, e.tid = i ∧ (FlowRef.binding id).Taken e.post.committed ∧ e.pre = s := by
  obtain ⟨e, he, htid, hstmt, hpre⟩ := Config.mem_trace.mp hmem
  have hused : f.consume now ∈ e.post.committed.bindingFlows.rows := by
    unfold Event.post
    rw [hstmt, hpre]
    refine List.mem_map.mpr ⟨f, hf, ?_⟩
    simp [hid, hopen]
  have htaken := Table.spent_of_mem (p := fun f => f.consumedAt.isSome = true) hused rfl
  rw [← hid]
  exact ⟨e, he, htid, htaken, hpre⟩

variable (hc : c.Good siteDiscipline fun _ _ _ _ _ => True)

include hc

/-- A login callback takes its flow. -/
theorem CallbackConsumed.takes {req : CallbackRequest} {f : LoginFlow} {p : Provider}
    (h : CallbackConsumed lib req tr f p) (htr : tr.Sublist (c.trace i))
    (ctx : CallbackContext) : TakesWith lib c i (.finishCallback ctx req) (.login f.id) := by
  obtain ⟨s₀, s₁, s₂, state, hstate, hsub, hf, hhash, f', hf', hid, hopen⟩ := h.flow
  have hsteps := hsub.trans htr
  have hlater := List.pairwise_cons.mp ((trace_later hc i).sublist hsteps).of_cons
  have hages := (hlater.1 _ (List.mem_singleton_self _)).before.loginFlows.row hf hf' hid.symm
  obtain ⟨e, he, htid, htaken, hpre⟩ := loginFlow_taken (hsteps.subset (by simp)) hf' hid hopen
  refine ⟨e, he, htid, htaken, clockRead s₀, hsteps.subset (by simp), ?_⟩
  rw [hpre]
  exact ⟨f', hf', hid, hopen, state, hstate, hages.stateHash.trans hhash⟩

/-- A binding callback takes its flow. -/
theorem BindingConsumed.takes {req : CallbackRequest} {f : BindingFlow} {p : Provider}
    (h : BindingConsumed lib req tr f p) (htr : tr.Sublist (c.trace i))
    (ctx : BindingContext) :
    TakesWith lib c i (.finishMinecraftBinding ctx req) (.binding f.id) := by
  obtain ⟨s₀, s₁, s₂, state, hstate, hsub, hf, hhash, f', hf', hid, hopen⟩ := h.flow
  have hsteps := hsub.trans htr
  have hlater := List.pairwise_cons.mp ((trace_later hc i).sublist hsteps).of_cons
  have hages :=
    (hlater.1 _ (List.mem_singleton_self _)).before.bindingFlows.row hf hf' hid.symm
  obtain ⟨e, he, htid, htaken, hpre⟩ :=
    bindingFlow_taken (hsteps.subset (by simp)) hf' hid hopen
  refine ⟨e, he, htid, htaken, clockRead s₀, hsteps.subset (by simp), ?_⟩
  rw [hpre]
  exact ⟨f', hf', hid, hopen, state, hstate, hages.stateHash.trans hhash⟩

/-- A device that Microsoft has authorized takes its flow. -/
theorem DeviceConsumed.takes {userId : Nat} {deviceCode : String} {f : BindingFlow}
    {p : Provider} (h : DeviceConsumed lib userId deviceCode tr f p) (htr : tr.Sublist (c.trace i))
    (ctx : BindingContext) :
    TakesWith lib c i (.checkDeviceCode ctx userId deviceCode) (.binding f.id) := by
  obtain ⟨s₁, s₂, s₃, now, hsub, hf, hhash, f', hf', hid, hopen⟩ := h.flow
  have hsteps := hsub.trans htr
  have hlater := List.pairwise_cons.mp ((trace_later hc i).sublist hsteps)
  have hages := (hlater.1 _ (List.mem_cons_of_mem _ (List.mem_singleton_self _))).before
    |>.bindingFlows.row hf hf' hid.symm
  obtain ⟨e, he, htid, htaken, hpre⟩ :=
    bindingFlow_taken (hsteps.subset (by simp)) hf' hid hopen
  refine ⟨e, he, htid, htaken, clockRead s₂, hsteps.subset (by simp), ?_⟩
  rw [hpre]
  exact ⟨f', hf', hid, hopen, hages.userId.trans h.owner, hages.stateHash.trans hhash⟩

/-- A transaction that consumes an email flow takes it. -/
theorem EmailConsumed.takes {key : EmailFlow → Prop} {f : EmailFlow} {p : Provider}
    (h : EmailConsumed key tr f p) (htr : tr.Sublist (c.trace i))
    (hkey : ∀ f f' : EmailFlow, f.Ages f' → key f → key f') :
    ∃ e ∈ c.log, e.tid = i ∧ (FlowRef.email f.id).Taken e.post.committed ∧
      ∃ clock ∈ c.trace i, ∃ f' ∈ e.pre.committed.emailFlows.rows, f'.id = f.id ∧
        f'.unusedAt clock.2.committed.now = true ∧ key f' := by
  obtain ⟨s₀, find, s₁, x, s₂, writes, s₃, t, hsub, hf, hmatch, hopen₂, hopen₃, hwrites,
    hordinary, f', hf', hid, hopen⟩ := h.flow
  have hsteps := hsub.trans htr
  have hlater := List.pairwise_cons.mp ((trace_later hc i).sublist hsteps).of_cons
  have hages := (hlater.1 _ (List.mem_cons_self ..)).before.emailFlows.row hf hf' hid.symm
  have hrely := ((List.pairwise_cons.mp hlater.2).1 _ (List.mem_singleton_self _)).undisturbed
  rw [← hid] at hrely hwrites
  obtain ⟨hstill, htaken⟩ :=
    emailFlow_committed hf' hopen hopen₂ hopen₃ hwrites hordinary hrely
  obtain ⟨e, he, htid, hstmt, hpre⟩ := Config.mem_trace.mp
    (hsteps.subset (by simp) : (.commit x writes, s₃) ∈ c.trace i)
  refine ⟨e, he, htid, ?_, clockRead s₀, hsteps.subset (by simp), f', ?_, hid, hopen,
    hkey f f' hages hmatch⟩
  · unfold Event.post
    rw [hstmt, hpre, ← hid]
    exact htaken
  · rw [hpre]
    exact hstill

end Completions

section Gates

variable {lib : Library} {c : SiteConfig} {i : Nat} {tr : Trace accountStore.readCommitted}

theorem CallbackConsumed.passes {req : CallbackRequest} {f : LoginFlow} {p : Provider}
    (h : CallbackConsumed lib req tr f p) (htr : tr.Sublist (c.trace i))
    (ctx : CallbackContext) : PassesGate c i (.finishCallback ctx req) (.login f.id) := by
  obtain ⟨_, s₁, _, _, -, hsub, hf, -⟩ := h.flow
  obtain ⟨s₃, hread, hp, hpid⟩ := h.provider
  have hfind := (hsub.trans htr).subset (List.mem_cons_of_mem _ (List.mem_cons_self ..))
  exact ⟨_, htr.subset hread, p, hp, ⟨h.kind, h.enabled, h.allowLogin⟩, _, hfind, f, hf, rfl,
    hpid.symm⟩

theorem BindingConsumed.passes {req : CallbackRequest} {f : BindingFlow} {p : Provider}
    (h : BindingConsumed lib req tr f p) (htr : tr.Sublist (c.trace i))
    (ctx : BindingContext) :
    PassesGate c i (.finishMinecraftBinding ctx req) (.binding f.id) := by
  obtain ⟨_, s₁, _, _, -, hsub, hf, -⟩ := h.flow
  obtain ⟨s₃, hread, hp, hpid⟩ := h.provider
  have hfind := (hsub.trans htr).subset (List.mem_cons_of_mem _ (List.mem_cons_self ..))
  exact ⟨_, htr.subset hread, p, hp, ⟨h.kind, h.enabled⟩, _, hfind, f, hf, rfl, hpid.symm⟩

theorem DeviceConsumed.passes {userId : Nat} {deviceCode : String} {f : BindingFlow}
    {p : Provider} (h : DeviceConsumed lib userId deviceCode tr f p)
    (htr : tr.Sublist (c.trace i)) (ctx : BindingContext) :
    PassesGate c i (.checkDeviceCode ctx userId deviceCode) (.binding f.id) := by
  obtain ⟨s₁, _, _, _, hsub, hf, -⟩ := h.flow
  obtain ⟨s₃, hread, hp, hpid⟩ := h.provider
  have hfind := (hsub.trans htr).subset (List.mem_cons_self ..)
  exact ⟨_, htr.subset hread, p, hp, trivial, _, hfind, f, hf, rfl, hpid.symm⟩

theorem EmailConsumed.passes {key : EmailFlow → Prop} {f : EmailFlow} {p : Provider}
    (h : EmailConsumed key tr f p) (htr : tr.Sublist (c.trace i)) {call : FlowCall}
    (hcall : p.enabled = true → call.Permits p) : PassesGate c i call (.email f.id) := by
  obtain ⟨_, _, s₁, _, _, _, _, _, hsub, hf, -⟩ := h.flow
  obtain ⟨s₃, hread, hp, hpid⟩ := h.provider
  have hfind := (hsub.trans htr).subset (List.mem_cons_of_mem _ (List.mem_cons_self ..))
  exact ⟨_, htr.subset hread, p, hp, hcall h.enabled, _, hfind, f, hf, rfl, hpid.symm⟩

end Gates

section Runs

variable {lib : Library} {s₀ : AccountShared} {sched : List (Action SiteCall)}
  {c : SiteConfig}

/-- A completion has taken a flow, and the provider of the flow has let it complete. -/
theorem completion (hc : c = (Config.initial s₀).runs (SiteCall.body lib) sched) {i : Nat}
    {call : FlowCall} {response : FlowResponse}
    (h : Returned c i (.flow call) (.flow response)) (hdone : response ≠ .done) :
    ∃ ref, TakesWith lib c i call ref ∧ PassesGate c i call ref := by
  have hgood := good_site lib hc
  obtain ⟨response', hresponse, hcall⟩ := (h.went hc).operation
  cases hresponse
  cases call with
  | startLogin kind key path authorize =>
      obtain ⟨_, _, _, -, -, hend⟩ := onPool_bind hcall
      exact absurd (onPool_ok hend).2 hdone
  | startEmailVerification policy newToken flowToken email =>
      obtain ⟨_, _, _, -, -, hend⟩ := onPool_bind hcall
      exact absurd (onPool_ok hend).2 hdone
  | startMinecraftBinding userId kind key path authorize deviceCode =>
      obtain ⟨_, _, _, -, -, hend⟩ := onPool_bind hcall
      exact absurd (onPool_ok hend).2 hdone
  | finishCallback ctx req =>
      obtain ⟨outcome, tr₁, tr₂, htr, hfinish, -⟩ := onPool_bind hcall
      obtain ⟨⟨code, f, p⟩, tr₃, tr₄, rfl, hconsume, -⟩ := onPool_bind hfinish
      have hsub : tr₃.Sublist (c.trace i) := by
        rw [htr, List.append_assoc]
        exact List.sublist_append_left _ _
      obtain ⟨-, hconsumed⟩ := onPool_consumeCallback hconsume
      exact ⟨_, hconsumed.takes hgood hsub ctx, hconsumed.passes hsub ctx⟩
  | finishMinecraftBinding ctx req =>
      obtain ⟨outcome, tr₁, tr₂, htr, hfinish, -⟩ := onPool_bind hcall
      obtain ⟨⟨code, f, p⟩, tr₃, tr₄, rfl, hconsume, -⟩ := onPool_bind hfinish
      have hsub : tr₃.Sublist (c.trace i) := by
        rw [htr, List.append_assoc]
        exact List.sublist_append_left _ _
      have hconsumed := onPool_consumeBindingCallback hconsume
      exact ⟨_, hconsumed.takes hgood hsub ctx, hconsumed.passes hsub ctx⟩
  | checkDeviceCode ctx userId deviceCode =>
      obtain ⟨outcome, tr₁, tr₂, htr, hcheck, hend⟩ := onPool_bind hcall
      cases outcome with
      | none => exact absurd (onPool_ok hend).2 hdone
      | some result =>
          obtain ⟨f, p, hconsumed⟩ := onPool_checkDeviceCode hcheck
          have hsub : tr₁.Sublist (c.trace i) := by
            rw [htr]
            exact List.sublist_append_left _ _
          exact ⟨_, hconsumed.takes hgood hsub ctx, hconsumed.passes hsub ctx⟩
  | confirmEmailVerification ctx token =>
      obtain ⟨login, tr₁, tr₂, htr, hconfirm, -⟩ := onPool_bind hcall
      obtain ⟨f, p, hconsumed⟩ := onPool_confirmEmail hconfirm
      have hsub : tr₁.Sublist (c.trace i) := by
        rw [htr]
        exact List.sublist_append_left _ _
      obtain ⟨e, he, htid, htaken, clock, hclock, f', hf', hid, hopen, hkey⟩ :=
        hconsumed.takes hgood hsub fun f f' hages hkey =>
          (hages.requested (by rw [hkey]; rfl)).1.trans hkey
      exact ⟨.email f.id, ⟨e, he, htid, htaken, clock, hclock, f', hf', hid, hopen, hkey⟩,
        hconsumed.passes hsub id⟩
  | linkWithPassword req =>
      obtain ⟨login, tr₁, tr₂, htr, hlink, -⟩ := onPool_bind hcall
      obtain ⟨f, p, token, htoken, hconsumed⟩ := onPool_passwordLink hlink
      have hsub : tr₁.Sublist (c.trace i) := by
        rw [htr]
        exact List.sublist_append_left _ _
      obtain ⟨e, he, htid, htaken, clock, hclock, f', hf', hid, hopen, hkey⟩ :=
        hconsumed.takes hgood hsub fun f f' hages hkey => hages.flowTokenHash.trans hkey
      exact ⟨.email f.id, ⟨e, he, htid, htaken, clock, hclock, f', hf', hid, hopen, token,
        htoken, hkey⟩, hconsumed.passes hsub id⟩

/-- **Every completion takes a flow of its own.**  A login, a confirmed email, a link
with a password or a binding that has succeeded has taken a flow whose credentials the
call presented; the flow was open and, by a clock the call has read, had not expired;
the provider of the flow, as the call has read it, lets it complete; and no other call
of the run takes the flow. -/
theorem completion_takes_flow
    (hc : c = (Config.initial s₀).runs (SiteCall.body lib) sched) {i : Nat}
    {call : FlowCall} {response : FlowResponse}
    (h : Returned c i (.flow call) (.flow response)) (hdone : response ≠ .done) :
    ∃ ref, TakesWith lib c i call ref ∧ PassesGate c i call ref ∧
      ∀ j call', TakesWith lib c j call' ref → j = i := by
  obtain ⟨ref, htakes, hpasses⟩ := completion hc h hdone
  exact ⟨ref, htakes, hpasses,
    fun j call' h' => takesWith_unique (good_site lib hc) htakes h'⟩

end Runs

/-! ## One state, presented twice -/

/-- The provider answers with an email that nobody has. -/
def unknownSubject : CallbackContext where
  exchangeCallback _ _ _ :=
    .ok ⟨"https://id.example", "7", some "neo@example.org", true, none, some "neo42"⟩
  exchangeLinuxdo _ _ _ := .error .databaseOperation
  provision := plainProvision
  profile := plainProfile
  newFlowToken := "flow"

/-- The callback of the state. -/
def callback : FlowCall := .finishCallback unknownSubject (plainCallback .oidc)

/-- A site with one provider. -/
def openIdStart : AccountShared :=
  accountStore.start (.fresh
    ((Table.empty.nextId.2.insert? (plainProvider 1 .oidc)).getD .empty) .empty 0)

/-- A login is started, and its state presented twice. -/
def presentedTwice : SiteConfig :=
  (Config.initial openIdStart).runs (SiteCall.body plainLibrary)
    (undisturbed 0 (.flow (plainStart .oidc)) 3 ++ undisturbed 1 (.flow callback) 19 ++
      undisturbed 2 (.flow callback) 2)

/-- The answer to the first callback. -/
def firstLogin : PrimaryLogin where
  user := newAccount 1
    { publicUuid := "uuid0"
      username := "neo42"
      email := some "neo@example.org"
      passwordHash := "$argon2id$drawn password"
      role := .user
      emailVerifiedAt := some 0
      status := .active
      mustChangePassword := false }
  returnPath := "/"
  providerKey := "p"
  issuer := "https://id.example"
  subject := "7"
  linked := true
  autoProvisioned := true

/-- The first callback takes the flow, and nobody else does. -/
theorem presentedTwice_taken :
    ∃ ref, TakesWith plainLibrary presentedTwice 1 callback ref ∧
      PassesGate presentedTwice 1 callback ref ∧
      ∀ j call', TakesWith plainLibrary presentedTwice j call' ref → j = 1 :=
  have h : Returned presentedTwice 1 (.flow callback) (.flow (.login firstLogin)) :=
    returned_of rfl rfl (by decide +kernel)
  completion_takes_flow rfl h (by decide)

/-- The second callback is turned down. -/
example : presentedTwice.result? 2 = some (.error (.aster (.authInvalidCredentials
    "external auth state is invalid or expired"))) := by decide +kernel

end AsterYggdrasil.External
