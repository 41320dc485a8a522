import AsterYggdrasil.External.FlowUse

/-!
# A provider that is switched off

An administrator switches a provider off to stop logins and bindings through it at
once, also those that have been started before.  `FlowUse` says that whoever completes
a flow has read a provider that lets the call complete.  While a provider is off there
is no such row to read, so nothing completes with one of its flows
(`completes_elsewhere`), whatever is running.

The poll of a device code is not among these calls: it does not look whether the
provider is switched on.
-/

namespace AsterYggdrasil.External

open Interleave Relational

/-- The provider `n` is switched off, or gone. -/
def SwitchedOff (n : Nat) (s : AccountShared) : Prop :=
  ∀ p ∈ s.committed.providers.rows, p.id = n → p.enabled = false

instance (n : Nat) (s : AccountShared) : Decidable (SwitchedOff n s) :=
  inferInstanceAs (Decidable (∀ p ∈ s.committed.providers.rows, p.id = n → p.enabled = false))

/-- The call looks whether the provider of its flow is switched on. -/
def FlowCall.looksAtProvider : FlowCall → Bool
  | .finishCallback _ _ | .finishMinecraftBinding _ _ | .confirmEmailVerification _ _
  | .linkWithPassword _ => true
  | _ => false

/-- It completes only if the provider is. -/
theorem FlowCall.Permits.enabled {call : FlowCall} {p : Provider} (h : call.Permits p)
    (hcall : call.looksAtProvider = true) : p.enabled = true := by
  cases call with
  | finishCallback ctx req => exact h.2.1
  | finishMinecraftBinding ctx req => exact h.2
  | confirmEmailVerification ctx token => exact h
  | linkWithPassword req => exact h
  | _ => cases hcall

/-! ## The provider of a flow -/

/-- A flow stays with its provider. -/
theorem Ages.startedFor {s s' : AccountState} (h : Ages s s') {ref : FlowRef} {m n : Nat}
    (hs : ref.StartedFor m s) (hs' : ref.StartedFor n s') : m = n := by
  cases ref with
  | login id =>
      obtain ⟨f, hf, hid, rfl⟩ := hs
      obtain ⟨f', hf', hid', rfl⟩ := hs'
      exact (h.loginFlows.row hf hf' (hid.trans hid'.symm)).providerId.symm
  | binding id =>
      obtain ⟨f, hf, hid, rfl⟩ := hs
      obtain ⟨f', hf', hid', rfl⟩ := hs'
      exact (h.bindingFlows.row hf hf' (hid.trans hid'.symm)).providerId.symm
  | email id =>
      obtain ⟨f, hf, hid, rfl⟩ := hs
      obtain ⟨f', hf', hid', rfl⟩ := hs'
      exact (h.emailFlows.row hf hf' (hid.trans hid'.symm)).providerId.symm

/-- Whenever call `i` looks, the flow belongs to the provider `n`. -/
structure BelongsTo (c : SiteConfig) (i : Nat) (ref : FlowRef) (n : Nat) : Prop where
  seen : ∃ ev ∈ c.trace i, ref.StartedFor n ev.2.committed
  only : ∀ ev ∈ c.trace i, ∀ m, ref.StartedFor m ev.2.committed → m = n

/-- The provider a call has seen its flow with is the provider of the flow. -/
theorem belongsTo {c : SiteConfig} (hc : c.Good siteDiscipline fun _ _ _ _ _ => True)
    {i n : Nat} {ref : FlowRef} {ev : accountStore.Stmt × AccountShared}
    (hev : ev ∈ c.trace i) (h : ref.StartedFor n ev.2.committed) : BelongsTo c i ref n := by
  refine ⟨⟨ev, hev, h⟩, fun ev' hev' m h' => ?_⟩
  have hage : Ages ev.2.committed ev'.2.committed ∨ Ages ev'.2.committed ev.2.committed := by
    obtain ⟨k, hk, rfl⟩ := List.getElem_of_mem hev
    obtain ⟨l, hl, rfl⟩ := List.getElem_of_mem hev'
    have hpair := List.pairwise_iff_getElem.mp (trace_later hc i)
    rcases Nat.lt_trichotomy k l with hlt | heq | hgt
    · exact Or.inl (hpair k l hk hl hlt).before
    · subst heq
      exact Or.inl (.refl _)
    · exact Or.inr (hpair l k hl hk hgt).before
  rcases hage with hage | hage
  · exact (hage.startedFor h h').symm
  · exact hage.startedFor h' h

/-! ## Nothing completes through it -/

/-- The site after a schedule. -/
def siteRun (lib : Library) (s₀ : AccountShared) (sched : List (Action SiteCall)) : SiteConfig :=
  (Config.initial s₀).runs (SiteCall.body lib) sched

/-- **While a provider is off, nothing completes through it.**  From some moment of a
run on, the provider `n` is switched off or gone.  A login, a confirmed email, a link
with a password or a binding by callback that was begun after that moment and has
succeeded has taken a flow of another provider. -/
theorem completes_elsewhere {lib : Library} {s₀ : AccountShared}
    {past later : List (Action SiteCall)} {c : SiteConfig} {n : Nat}
    (hc : c = siteRun lib s₀ (past ++ later))
    (hoff : Config.Throughout (SiteCall.body lib) (SwitchedOff n) (siteRun lib s₀ past) later)
    {i : Nat} (hi : (siteRun lib s₀ past).threads.length ≤ i)
    {call : FlowCall} {response : FlowResponse}
    (h : Returned c i (.flow call) (.flow response)) (hdone : response ≠ .done)
    (hcall : call.looksAtProvider = true) :
    ∃ ref m, TakesWith lib c i call ref ∧ BelongsTo c i ref m ∧ m ≠ n := by
  obtain ⟨ref, htakes, ev, hev, p, hp, hpermits, ev', hev', hstarted⟩ := completion hc h hdone
  refine ⟨ref, p.id, htakes, belongsTo (good_site lib hc) hev' hstarted, ?_⟩
  intro hn
  have hclosed := hoff.trace hc hi ev hev p hp hn
  rw [hpermits.enabled hcall] at hclosed
  cases hclosed

/-! ## Two providers -/

/-- The second provider of a small site. -/
def otherProvider : Provider := { plainProvider 2 .oidc with key := "q" }

/-- A site with two providers. -/
def twoProviders : AccountShared :=
  let first := (Table.empty.nextId.2.insert? (plainProvider 1 .oidc)).getD .empty
  accountStore.start (.fresh ((first.nextId.2.insert? otherProvider).getD .empty) .empty 0)

/-- An administrator switches a provider off. -/
def switchOff (id : Nat) : SiteCall :=
  .updateProvider id ⟨none, none, some false, none, none, none, none⟩

/-- A login is started through the first provider; then provider `id` is switched
off. -/
def startedThenOff (id : Nat) : List (Action SiteCall) :=
  undisturbed 0 (.flow (plainStart .oidc)) 3 ++ undisturbed 1 (switchOff id) 2

/-- With the second provider off, the login goes through the first. -/
theorem loginElsewhere :
    ∃ ref m, TakesWith plainLibrary
        (siteRun plainLibrary twoProviders
          (startedThenOff 2 ++ undisturbed 2 (.flow callback) 19)) 2 callback ref ∧
      BelongsTo (siteRun plainLibrary twoProviders
          (startedThenOff 2 ++ undisturbed 2 (.flow callback) 19)) 2 ref m ∧ m ≠ 2 :=
  have h : Returned (siteRun plainLibrary twoProviders
      (startedThenOff 2 ++ undisturbed 2 (.flow callback) 19)) 2 (.flow callback)
      (.flow (.login firstLogin)) := returned_of rfl rfl (by decide +kernel)
  completes_elsewhere rfl (by decide +kernel) (by decide +kernel) h (by decide) rfl

/-- With the first one off, it is turned down. -/
example : (siteRun plainLibrary twoProviders
    (startedThenOff 1 ++ undisturbed 2 (.flow callback) 4)).result? 2 =
      some (.error (.aster (.authForbidden none "external auth provider is disabled"))) := by
  decide +kernel

end AsterYggdrasil.External
