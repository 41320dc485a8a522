import AsterYggdrasil.Task.Lease

/-!
# The capacity of a lane

A claim counts the tasks of its lane that are being processed under an unexpired
lease, and claims no more than the limit leaves.  The count and the claims stand
in one transaction under a row lock, so no two dispatchers share one count.

A heartbeat, however, extends the lease of a task that still has its token, also
when the lease has run out and was counted as free.  `lane_capacity` is the bound
for every run in which leases are extended before they run out; `revived_lease` is
a run with one task too many.
-/

namespace AsterYggdrasil.Task

open Interleave Relational Prog

/-- How many tasks of the lane are being processed under a lease that is unexpired
at this time. -/
def activeAt (lane : TaskLaneConfig) (now : Nat) (s : TaskState) : Nat :=
  (s.tasks.select (BackgroundTask.activeProcessing now lane.kinds)).length

theorem activeAt_eq_countP (lane : TaskLaneConfig) (now : Nat) (s : TaskState) :
    activeAt lane now s =
      s.tasks.rows.countP (BackgroundTask.activeProcessing now lane.kinds) := by
  rw [activeAt, Table.select, List.countP_eq_length_filter]

theorem activeProcessing_mono {kinds : List BackgroundTaskKind} {t now : Nat} (h : t ≤ now)
    {r : BackgroundTask} (hr : r.activeProcessing now kinds = true) :
    r.activeProcessing t kinds = true := by
  simp only [BackgroundTask.activeProcessing, Bool.and_eq_true, Option.any_eq_true,
    decide_eq_true_eq] at hr ⊢
  obtain ⟨⟨hstatus, lease, hlease, hlt⟩, hkind⟩ := hr
  exact ⟨⟨hstatus, lease, hlease, by omega⟩, hkind⟩

/-- Leases only run out. -/
theorem activeAt_mono (lane : TaskLaneConfig) {t now : Nat} (h : t ≤ now) (s : TaskState) :
    activeAt lane now s ≤ activeAt lane t s := by
  rw [activeAt_eq_countP, activeAt_eq_countP]
  exact List.countP_mono_left fun r _ hr => activeProcessing_mono h hr

/-! ## What one step does to the count -/

/-- The lease that a heartbeat or a progress update extends. -/
def TaskStmt.extended : TaskStmt → Option TaskLease
  | .write (.touchHeartbeat lease _ _) | .write (.markProgress lease _) => some lease
  | _ => none

/-- A lease is unexpired when it is extended. -/
def ExtendsLive (st : TaskStmt) (s : TaskState) : Prop :=
  ∀ lease ∈ st.extended, ∀ r ∈ s.tasks.rows, r.leasedTo lease = true →
    r.leaseExpiresAt.any (fun t => s.now < t) = true

instance (st : TaskStmt) (s : TaskState) : Decidable (ExtendsLive st s) :=
  inferInstanceAs (Decidable (∀ lease ∈ st.extended, ∀ r ∈ s.tasks.rows,
    r.leasedTo lease = true → r.leaseExpiresAt.any (fun t => s.now < t) = true))

/-- An update that is no claim makes no task active. -/
theorem TaskWrite.active_of_sets {w : TaskWrite} {s : TaskState} {r : BackgroundTask}
    (hr : r ∈ s.tasks.rows) (hhit : w.hits r = true) (hsound : w.Sound)
    (hclaim : ∀ id expected now next lease, w ≠ .tryClaim id expected now next lease)
    (hlive : ExtendsLive (.write w) s) {t : Nat} (ht : t ≤ s.now)
    {kinds : List BackgroundTaskKind} (h : (w.sets r).activeProcessing t kinds = true) :
    r.activeProcessing t kinds = true := by
  have hrevive : ∀ {lease : TaskLease}, r.leasedTo lease = true →
      r.leaseExpiresAt.any (fun t => s.now < t) = true → kinds.contains r.kind = true →
      r.activeProcessing t kinds = true := by
    intro lease hleased hany hkind
    refine activeProcessing_mono ht ?_
    simp only [BackgroundTask.activeProcessing, Bool.and_eq_true, decide_eq_true_eq]
    exact ⟨⟨(leasedTo_iff.mp hleased).2.1, hany⟩, hkind⟩
  have hkind : kinds.contains r.kind = true := by
    simp only [BackgroundTask.activeProcessing, Bool.and_eq_true] at h
    rw [w.sets_kind] at h
    exact h.2
  cases w with
  | tryClaim id expected now next leaseExpiresAt => exact absurd rfl (hclaim _ _ _ _ _)
  | touchHeartbeat lease now leaseExpiresAt => exact hrevive hhit (hlive lease rfl r hr hhit) hkind
  | markProgress lease update => exact hrevive hhit (hlive lease rfl r hr hhit) hkind
  | setRuntimeJson lease runtimeJson now => exact h
  | setDisplayName lease displayName now => exact h
  | releaseProcessing lease now status =>
      have hstatus : status ≠ .processing := hsound
      simp [BackgroundTask.activeProcessing, TaskWrite.sets, hstatus] at h
  | _ => cases h

/-- A step that is no claim does not raise the count. -/
theorem activeAt_exec_le {lane : TaskLaneConfig} {i : TaskStmt} {s : TaskState}
    (hclaim : ∀ id expected now next lease, i ≠ .write (.tryClaim id expected now next lease))
    (hsound : i.Sound) (hlive : ExtendsLive i s) {t : Nat} (ht : t ≤ s.now) :
    activeAt lane t (i.exec s).2 ≤ activeAt lane t s := by
  rw [activeAt_eq_countP, activeAt_eq_countP]
  cases i with
  | write w =>
      have hclaim : ∀ id expected now next lease, w ≠ .tryClaim id expected now next lease :=
        fun id expected now next lease heq => hclaim id expected now next lease (heq ▸ rfl)
      show (s.tasks.rows.map fun r => if w.hits r then w.sets r else r).countP _ ≤ _
      rw [List.countP_map]
      refine List.countP_mono_left fun r hr h => ?_
      simp only [Function.comp_apply] at h
      split at h
      · next hhit => exact w.active_of_sets hr hhit hsound hclaim hlive ht h
      · exact h
  | create input =>
      simp only [TaskStmt.exec]
      split
      · next tasks hinsert =>
          rw [(Table.insert?_eq_some hinsert).1, List.countP_append]
          have hnew : List.countP (BackgroundTask.activeProcessing t lane.kinds)
              [newTask s.tasks.nextId.1 input] = 0 := by
            simp [BackgroundTask.activeProcessing, newTask]
          rw [hnew]
          exact Nat.le_refl _
      · exact Nat.le_refl _
  | deleteTerminalByFilters filters =>
      exact List.Sublist.countP_le List.filter_sublist
  | _ => exact Nat.le_refl _

/-- A claim takes at most one task. -/
theorem length_claim_le_one (s : TaskState) (id : Nat) (expected : Int) (now : Nat)
    (next : Int) (leaseExpiresAt : Nat) :
    (s.tasks.select (TaskWrite.tryClaim id expected now next leaseExpiresAt).hits).length ≤ 1 := by
  refine s.tasks.length_select_le_one fun a b ha hb => ?_
  simp only [TaskWrite.hits, Bool.and_eq_true, decide_eq_true_eq] at ha hb
  simp [taskSchema, ha.1.1, hb.1.1]

/-- A claim that fails leaves the count, and one that succeeds raises it by at most
one. -/
theorem activeAt_claim_le (lane : TaskLaneConfig) (s : TaskState) (t id : Nat)
    (expected : Int) (now : Nat) (next : Int) (leaseExpiresAt : Nat) :
    activeAt lane t (s.update (.tryClaim id expected now next leaseExpiresAt)) ≤
      activeAt lane t s +
        (s.tasks.select (TaskWrite.tryClaim id expected now next leaseExpiresAt).hits).length := by
  rw [activeAt_eq_countP, activeAt_eq_countP]
  exact s.tasks.countP_update_le _ _ _

/-! ## Where a dispatcher is -/

/-- A dispatcher has not begun its transaction or has ended it, holds the lock, or
has counted and may still claim so many tasks. -/
inductive LanePhase
  | outside
  | locked
  | counted (claimedAt quota : Nat)
  deriving DecidableEq

section Phase

variable (forge : Forge) (lane : TaskLaneConfig)

def LanePhase.next (p : LanePhase) (x : TaskStmt × TaskState) : LanePhase :=
  match x.1 with
  | .lockByKey => .locked
  | .commit => .outside
  | .countActiveProcessingByKinds now _ =>
      .counted now (forge.availableLaneCapacity lane.limit (activeAt lane now x.2))
  | i =>
      match p, i.claimed x.2 with
      | .counted claimedAt quota, some _ => .counted claimedAt (quota - 1)
      | p, _ => p

/-- Where the statements of a trace have led. -/
def lanePhase (tr : Trace taskMachine) : LanePhase :=
  tr.foldl (LanePhase.next forge lane) .outside

theorem lanePhase_append (tr : Trace taskMachine) (i : TaskStmt) (s : TaskState) :
    lanePhase forge lane (tr ++ [(i, s)]) = (lanePhase forge lane tr).next forge lane (i, s) := by
  simp [lanePhase]

/-- A statement that belongs to the transaction of a claim stands at its place. -/
def InPhase (tr : Trace taskMachine) (i : TaskStmt) (s : TaskState) : Prop :=
  match i with
  | .lockByKey => lanePhase forge lane tr = .outside
  | .countActiveProcessingByKinds now kinds =>
      lanePhase forge lane tr = .locked ∧ now ≤ s.now ∧ kinds = lane.kinds
  | .write (.tryClaim _ _ now _ _) =>
      ∃ quota, lanePhase forge lane tr = .counted now (quota + 1)
  | .commit => lanePhase forge lane tr ≠ .outside
  | _ => True

/-- The clock does not go back; everybody keeps to the order of a claim. -/
def laneDiscipline : Discipline taskMachine where
  inv _ := True
  rely := TaskState.Passes
  own _ _ _ := True
  guar tr i s := TaskStmt.Sound i ∧ InPhase forge lane tr i s
  refl := TaskState.Passes.refl
  trans := TaskState.Passes.trans
  step _ i s _ _ _ := ⟨True.intro, exec_now_le i s⟩

variable {forge lane} {tr : Trace taskMachine} {s : TaskState}

theorem TaskStmt.Ordinary.inPhase {i : TaskStmt} (h : i.Ordinary forge) :
    InPhase forge lane tr i s := by
  cases i with
  | write w =>
      cases w with
      | tryClaim => exact h.elim
      | _ => trivial
  | lockByKey | commit | countActiveProcessingByKinds => exact h.elim
  | _ => trivial

/-- A claim takes from the quota what it adds to the count. -/
theorem lanePhase_claim {t quota : Nat} (h : lanePhase forge lane tr = .counted t quota)
    (id : Nat) (expected : Int) (now : Nat) (next : Int) (leaseExpiresAt : Nat) :
    lanePhase forge lane
        (tr ++ [(.write (.tryClaim id expected now next leaseExpiresAt), s)]) =
      .counted t (quota - (s.tasks.select
        (TaskWrite.tryClaim id expected now next leaseExpiresAt).hits).length) := by
  have hle := length_claim_le_one s id expected now next leaseExpiresAt
  rw [lanePhase_append, h]
  by_cases hone : (s.tasks.select
      (TaskWrite.tryClaim id expected now next leaseExpiresAt).hits).length = 1
  · simp [LanePhase.next, TaskStmt.claimed, TaskStmt.update, hone]
  · have hzero : (s.tasks.select
        (TaskWrite.tryClaim id expected now next leaseExpiresAt).hits).length = 0 := by omega
    simp [LanePhase.next, TaskStmt.claimed, TaskStmt.update, hzero]

/-- An update that is no claim leaves everybody where they are. -/
theorem LanePhase.next_write (p : LanePhase) {w : TaskWrite}
    (hclaim : ∀ id expected now next lease, w ≠ .tryClaim id expected now next lease) :
    p.next forge lane (.write w, s) = p := by
  have hnone : TaskStmt.claimed (.write w) s = none := by
    unfold TaskStmt.claimed
    split
    · next hupdate =>
        obtain ⟨heq, -⟩ := TaskStmt.of_update hupdate
        cases heq
        exact absurd rfl (hclaim _ _ _ _ _)
    · rfl
  simp only [LanePhase.next, hnone]

/-- While the loop runs, the quota is what is left of the capacity. -/
theorem inPhase_claimLoop (available claimedAt leaseExpiresAt : Nat)
    (candidates : List TaskClaimCandidate) (claimed : List TaskLease)
    (hphase : lanePhase forge lane tr = .counted claimedAt (available - claimed.length)) :
    (claimLoop available claimedAt leaseExpiresAt candidates claimed).Ensures
      (laneDiscipline forge lane)
      (OnOk fun _ tr _ => lanePhase forge lane tr ≠ .outside) tr s := by
  induction candidates generalizing claimed tr s with
  | nil =>
      intro _ _ _ _ _
      rw [hphase]
      exact nofun
  | cons candidate rest ih =>
      have hdone : lanePhase forge lane tr ≠ .outside := by
        rw [hphase]
        exact nofun
      unfold claimLoop
      split
      · exact fun _ _ _ _ _ => hdone
      · next hroom =>
          refine Ensures.stmt_bind fun s' _ _ _ => ⟨⟨candidate.next_eq, ?_⟩, fun _ => ?_⟩
          · refine ⟨available - claimed.length - 1, ?_⟩
            rw [hphase]
            congr 1
            omega
          · refine ih _ ?_
            rw [lanePhase_claim hphase]
            congr 1
            have hle := length_claim_le_one s' candidate.taskId
              candidate.expectedProcessingToken claimedAt candidate.nextProcessingToken
              leaseExpiresAt
            split
            · next hclaim =>
                rw [of_decide_eq_true hclaim, List.length_append, List.length_singleton]
                omega
            · next hclaim =>
                have hne := of_decide_eq_false (Bool.eq_false_iff.mpr hclaim)
                omega

theorem inPhase_claimCandidates (candidates : List TaskClaimCandidate)
    (claimedAt leaseExpiresAt : Nat) (hphase : lanePhase forge lane tr = .outside)
    (hnow : claimedAt ≤ s.now) :
    (claimCandidatesForLane forge lane candidates claimedAt leaseExpiresAt).Ensures
      (laneDiscipline forge lane) (OnOk fun _ _ _ => True) tr s := by
  unfold claimCandidatesForLane
  split
  · exact fun _ _ _ _ _ => True.intro
  · refine Ensures.stmt_bind fun s₁ hs₁ _ _ => ⟨⟨True.intro, hphase⟩, fun _ => ?_⟩
    have hlocked : lanePhase forge lane (tr ++ [(.lockByKey, s₁)]) = .locked :=
      lanePhase_append forge lane tr _ s₁
    have hs₁ : s.now ≤ s₁.now := hs₁
    refine Ensures.stmt_bind fun s₂ hs₂ _ _ => ?_
    have hs₂ : s₁.now ≤ s₂.now := hs₂
    refine ⟨⟨True.intro, hlocked, by omega, rfl⟩, fun _ => ?_⟩
    refine Ensures.bind_ok True.intro
      (inPhase_claimLoop _ claimedAt leaseExpiresAt candidates [] (lanePhase_append ..))
      fun claimed tr s _ hinside => ?_
    exact Ensures.stmt_bind fun s₃ _ _ _ =>
      ⟨⟨True.intro, hinside⟩, fun _ _ _ _ _ _ => True.intro⟩

/-- Every call keeps to the order of a claim. -/
theorem inPhase_call (call : Call) (s : TaskState) :
    (call.body forge lane).Ensures (laneDiscipline forge lane) (fun _ _ _ => True) [] s := by
  by_cases h : ∃ candidates, call = .claimDue candidates
  · obtain ⟨candidates, rfl⟩ := h
    refine Ensures.mono (Q := OnOk fun _ _ _ => True) ?_ fun _ _ _ _ => True.intro
    refine Ensures.stmt_bind fun s₁ _ _ _ => ⟨⟨True.intro, True.intro⟩, fun _ => ?_⟩
    refine Ensures.bind_ok True.intro
      (inPhase_claimCandidates candidates s₁.now _ (lanePhase_append ..) (Nat.le_refl _))
      fun claimed tr s _ _ => ?_
    exact fun _ _ _ _ => ⟨⟨True.intro, True.intro⟩, fun _ _ _ _ _ => True.intro⟩
  · refine Ensures.of_within (D := laneDiscipline forge lane) (P := TaskStmt.Ordinary forge)
      (fun tr i s hi _ _ => ⟨hi.sound forge, hi.inPhase⟩) ?_ [] s
    exact ordinary_call forge lane fun candidates heq => h ⟨candidates, heq⟩

end Phase

/-! ## Every interleaving -/

section Runs

open Config

variable {forge : Forge} {lane : TaskLaneConfig}

/-- One dispatcher at a time is in the transaction, and what it may still claim
fits into the lane. -/
structure WithinLimit (forge : Forge) (lane : TaskLaneConfig) (c : TaskPool) : Prop where
  locked : ∀ i, lanePhase forge lane (c.trace i) ≠ .outside → c.shared.locked = true
  alone : ∀ i j, lanePhase forge lane (c.trace i) ≠ .outside →
    lanePhase forge lane (c.trace j) ≠ .outside → i = j
  quota : ∀ i claimedAt quota, lanePhase forge lane (c.trace i) = .counted claimedAt quota →
    0 < quota → claimedAt ≤ c.shared.now ∧
      activeAt lane claimedAt c.shared + quota ≤ lane.limit
  active : activeAt lane c.shared.now c.shared ≤ lane.limit

/-- The configuration after one statement of call `i`. -/
abbrev after (c : TaskPool) (i : Nat) (st : TaskStmt)
    (threads : List (Thread taskSignature TaskError Call Unit)) : TaskPool :=
  ⟨(st.exec c.shared).2, threads, c.log ++ [⟨i, st, c.shared⟩]⟩

section Step

variable {c : TaskPool} {i : Nat} {st : TaskStmt}
  {threads : List (Thread taskSignature TaskError Call Unit)}

theorem lanePhase_self : lanePhase forge lane ((after c i st threads).trace i) =
    (lanePhase forge lane (c.trace i)).next forge lane (st, c.shared) := by
  rw [trace_append, if_pos rfl]
  exact lanePhase_append forge lane _ st c.shared

theorem lanePhase_other {j : Nat} (hj : i ≠ j) :
    lanePhase forge lane ((after c i st threads).trace j) =
      lanePhase forge lane (c.trace j) := by
  rw [trace_append, if_neg hj, List.append_nil]
  rfl

/-- While one dispatcher is in the transaction, everybody else is not. -/
theorem WithinLimit.others_outside (h : WithinLimit forge lane c)
    (hi : lanePhase forge lane (c.trace i) ≠ .outside) {j : Nat} (hj : i ≠ j) :
    lanePhase forge lane (c.trace j) = .outside := by
  by_contra hne
  exact hj (h.alone i j hi hne)

/-- A statement after which only call `i` can be in the transaction. -/
theorem WithinLimit.of_others_outside
    (hothers : ∀ j, i ≠ j → lanePhase forge lane (c.trace j) = .outside)
    (hlocked : lanePhase forge lane ((after c i st threads).trace i) ≠ .outside →
      (st.exec c.shared).2.locked = true)
    (hquota : ∀ claimedAt quota,
      lanePhase forge lane ((after c i st threads).trace i) = .counted claimedAt quota →
      0 < quota → claimedAt ≤ (st.exec c.shared).2.now ∧
        activeAt lane claimedAt (st.exec c.shared).2 + quota ≤ lane.limit)
    (hactive : activeAt lane (st.exec c.shared).2.now (st.exec c.shared).2 ≤ lane.limit) :
    WithinLimit forge lane (after c i st threads) := by
  have hself : ∀ j, lanePhase forge lane ((after c i st threads).trace j) ≠ .outside →
      j = i := by
    intro j hj
    by_contra hne
    rw [lanePhase_other (Ne.symm hne)] at hj
    exact hj (hothers j (Ne.symm hne))
  refine ⟨fun j hj => ?_, fun j k hj hk => ?_, fun j claimedAt quota hj hpos => ?_, hactive⟩
  · rw [hself j hj] at hj
    exact hlocked hj
  · rw [hself j hj, hself k hk]
  · have hne : lanePhase forge lane ((after c i st threads).trace j) ≠ .outside := by
      rw [hj]
      exact nofun
    rw [hself j hne] at hj
    exact hquota claimedAt quota hj hpos

theorem WithinLimit.lock (h : WithinLimit forge lane c) (hen : c.shared.locked = false) :
    WithinLimit forge lane (after c i .lockByKey threads) := by
  refine .of_others_outside (fun j _ => ?_) (fun _ => rfl) (fun claimedAt quota hj _ => ?_)
    h.active
  · by_contra hne
    rw [h.locked j hne] at hen
    cases hen
  · rw [lanePhase_self] at hj
    cases hj

theorem WithinLimit.commit (h : WithinLimit forge lane c)
    (hi : lanePhase forge lane (c.trace i) ≠ .outside) :
    WithinLimit forge lane (after c i .commit threads) := by
  refine .of_others_outside (fun j hj => h.others_outside hi hj) (fun hj => ?_)
    (fun claimedAt quota hj _ => ?_) h.active
  · rw [lanePhase_self] at hj
    exact absurd rfl hj
  · rw [lanePhase_self] at hj
    cases hj

theorem WithinLimit.count
    (hcapacity : ∀ limit active, forge.availableLaneCapacity limit active ≤ limit - active)
    (h : WithinLimit forge lane c) (hi : lanePhase forge lane (c.trace i) = .locked)
    {now : Nat} (hnow : now ≤ c.shared.now) (kinds : List BackgroundTaskKind) :
    WithinLimit forge lane (after c i (.countActiveProcessingByKinds now kinds) threads) := by
  have hinside : lanePhase forge lane (c.trace i) ≠ .outside := by
    rw [hi]
    exact nofun
  refine .of_others_outside (fun j hj => h.others_outside hinside hj)
    (fun _ => h.locked i hinside) (fun claimedAt quota hj hpos => ?_) h.active
  rw [lanePhase_self] at hj
  have hle := hcapacity lane.limit (activeAt lane now c.shared)
  obtain ⟨rfl, rfl⟩ : now = claimedAt ∧
      forge.availableLaneCapacity lane.limit (activeAt lane now c.shared) = quota := by
    simpa [LanePhase.next] using hj
  refine ⟨hnow, ?_⟩
  show activeAt lane now c.shared + _ ≤ lane.limit
  omega

theorem WithinLimit.claim (h : WithinLimit forge lane c) {now quota : Nat}
    (hi : lanePhase forge lane (c.trace i) = .counted now (quota + 1)) (id : Nat)
    (expected next : Int) (leaseExpiresAt : Nat) :
    WithinLimit forge lane
      (after c i (.write (.tryClaim id expected now next leaseExpiresAt)) threads) := by
  have hinside : lanePhase forge lane (c.trace i) ≠ .outside := by
    rw [hi]
    exact nofun
  obtain ⟨hnow, hfits⟩ := h.quota i now (quota + 1) hi (by omega)
  have hone := length_claim_le_one c.shared id expected now next leaseExpiresAt
  have hrise := activeAt_claim_le lane c.shared now id expected now next leaseExpiresAt
  refine .of_others_outside (fun j hj => h.others_outside hinside hj)
    (fun _ => h.locked i hinside) (fun claimedAt quota' hj hpos => ?_) ?_
  · have hself := lanePhase_claim (s := c.shared) hi id expected now next leaseExpiresAt
    rw [lanePhase_append] at hself
    rw [lanePhase_self, hself] at hj
    cases hj
    refine ⟨hnow, ?_⟩
    show activeAt lane now (c.shared.update _) + _ ≤ lane.limit
    omega
  · have hmono := activeAt_mono lane hnow
      (c.shared.update (.tryClaim id expected now next leaseExpiresAt))
    show activeAt lane c.shared.now (c.shared.update _) ≤ lane.limit
    omega

/-- A statement outside of the transaction of a claim. -/
theorem WithinLimit.ordinary (h : WithinLimit forge lane c) (hsound : st.Sound)
    (hclaim : ∀ id expected now next lease, st ≠ .write (.tryClaim id expected now next lease))
    (hphase : ∀ p : LanePhase, p.next forge lane (st, c.shared) = p)
    (hlocked : (st.exec c.shared).2.locked = c.shared.locked)
    (hlive : ExtendsLive st c.shared) : WithinLimit forge lane (after c i st threads) := by
  have hsame : ∀ j, lanePhase forge lane ((after c i st threads).trace j) =
      lanePhase forge lane (c.trace j) := by
    intro j
    by_cases hj : i = j
    · subst hj
      rw [lanePhase_self, hphase]
    · exact lanePhase_other hj
  refine ⟨fun j hj => ?_, fun j k hj hk => ?_, fun j claimedAt quota hj hpos => ?_, ?_⟩
  · rw [hsame] at hj
    exact hlocked.trans (h.locked j hj)
  · rw [hsame] at hj hk
    exact h.alone j k hj hk
  · rw [hsame] at hj
    obtain ⟨hnow, hfits⟩ := h.quota j claimedAt quota hj hpos
    have hle : activeAt lane claimedAt (st.exec c.shared).2 ≤ activeAt lane claimedAt c.shared :=
      activeAt_exec_le hclaim hsound hlive hnow
    refine ⟨Nat.le_trans hnow (exec_now_le st c.shared), ?_⟩
    show activeAt lane claimedAt (st.exec c.shared).2 + quota ≤ lane.limit
    omega
  · have hle : activeAt lane c.shared.now (st.exec c.shared).2 ≤
        activeAt lane c.shared.now c.shared :=
      activeAt_exec_le hclaim hsound hlive (Nat.le_refl _)
    have hmono := activeAt_mono lane (exec_now_le st c.shared) (st.exec c.shared).2
    have hactive := h.active
    show activeAt lane (st.exec c.shared).2.now (st.exec c.shared).2 ≤ lane.limit
    omega

end Step

/-- Every step that extends only unexpired leases keeps the pool within the limit. -/
theorem WithinLimit.step
    (hcapacity : ∀ limit active, forge.availableLaneCapacity limit active ≤ limit - active)
    {c : TaskPool} (h : WithinLimit forge lane c) {i : Nat} {st : TaskStmt}
    {threads : List (Thread taskSignature TaskError Call Unit)}
    (hen : st.enabled c.shared = true) (hlive : ExtendsLive st c.shared) (hsound : st.Sound)
    (hguar : InPhase forge lane (c.trace i) st c.shared) :
    WithinLimit forge lane (after c i st threads) := by
  cases st with
  | lockByKey => exact h.lock (by simpa [TaskStmt.enabled] using hen)
  | commit => exact h.commit hguar
  | countActiveProcessingByKinds now kinds => exact h.count hcapacity hguar.1 hguar.2.1 kinds
  | write w =>
      cases w with
      | tryClaim id expected now next leaseExpiresAt =>
          obtain ⟨quota, hi⟩ := hguar
          exact h.claim hi id expected next leaseExpiresAt
      | _ =>
          refine h.ordinary hsound (by simp) (fun p => ?_) rfl hlive
          exact p.next_write (by simp)
  | create =>
      refine h.ordinary hsound (by simp) (fun p => ?_) ?_ hlive
      · cases p <;> rfl
      · simp only [TaskStmt.exec]
        split <;> rfl
  | _ =>
      refine h.ordinary hsound (by simp) (fun p => ?_) rfl hlive
      cases p <;> rfl

/-- Every lease that is extended is unexpired. -/
abbrev LeasesExtendedLive (c : TaskPool) (_ : Nat) (st : TaskStmt) : Prop :=
  ExtendsLive st c.shared

/-- **The capacity of a lane.**  Where the library never reports more capacity than
the limit leaves, and every lease is extended before it runs out, no interleaving of
dispatchers, workers and administrators has more tasks of the lane under an
unexpired lease than the limit. -/
theorem lane_capacity
    (hcapacity : ∀ limit active, forge.availableLaneCapacity limit active ≤ limit - active)
    {s₀ : TaskState} (hstart : activeAt lane s₀.now s₀ ≤ lane.limit)
    {sched : List (Action Call)}
    (hadm : Admissible (Call.body forge lane) LeasesExtendedLive (initial s₀ : TaskPool) sched)
    {c : TaskPool} (hc : c = (initial s₀).runs (Call.body forge lane) sched) :
    activeAt lane c.shared.now c.shared ≤ lane.limit := by
  rw [hc]
  refine (good_runs_inv (D := laneDiscipline forge lane) (Q := fun _ _ _ _ _ => True)
    (P := WithinLimit forge lane) (fun _ _ _ _ _ => True.intro)
    (fun _ call s _ => inPhase_call call s) ?_ ?_ (good_initial True.intro) ?_ hadm).active
  · intro c call h
    exact ⟨h.locked, h.alone, h.quota, h.active⟩
  · intro c i call st k _ h _ hen hlive hguar
    exact h.step hcapacity hen hlive hguar.1 hguar.2
  · have houtside : ∀ i, lanePhase forge lane ((initial s₀ : TaskPool).trace i) = .outside :=
      fun i => rfl
    refine ⟨fun i hi => absurd (houtside i) hi, fun i _ hi => absurd (houtside i) hi,
      fun i claimedAt quota hi => ?_, hstart⟩
    rw [houtside i] at hi
    cases hi

/-- Two tasks, a dispatcher that claims the first, and the worker that takes it. -/
def oneOfTwo : List (Action Call) :=
  [.spawn (.create dueTask), .run 0, .spawn (.create dueTask), .run 1, .spawn firstClaim] ++
    List.replicate 6 (.run 2) ++ [.spawn (.worker 0 [.heartbeat]), .run 3, .run 3]

/-- After some time another dispatcher tries to claim the second. -/
def secondClaim (ms : Nat) : List (Action Call) :=
  [.spawn (.wait ms), .run 4, .spawn (.claimDue [unclaimed 2])] ++ List.replicate 6 (.run 5)

/-- The heartbeat comes in time, and there is no room for the second task. -/
def heartbeatInTime : List (Action Call) :=
  oneOfTwo ++ List.replicate 3 (.run 3) ++ secondClaim 50000

theorem lane_capacity_in_time :
    Admissible (Call.body plainForge smallLane) LeasesExtendedLive (initial noTasks : TaskPool)
      heartbeatInTime ∧
    activeAt smallLane (taskRun heartbeatInTime).shared.now (taskRun heartbeatInTime).shared = 1 ∧
    activeAt smallLane (taskRun heartbeatInTime).shared.now (taskRun heartbeatInTime).shared ≤
      smallLane.limit := by
  have hadm : Admissible (Call.body plainForge smallLane) LeasesExtendedLive
      (initial noTasks : TaskPool) heartbeatInTime := by decide +kernel
  exact ⟨hadm, by decide +kernel,
    lane_capacity (fun _ _ => Nat.le_refl _) (by decide +kernel) hadm rfl⟩

/-- The heartbeat comes after the lease has run out and the second task was claimed
in its place. -/
def heartbeatTooLate : List (Action Call) :=
  oneOfTwo ++ secondClaim 60000 ++ List.replicate 3 (.run 3)

/-- **A heartbeat revives a lease that was counted as free.** -/
theorem revived_lease :
    smallLane.limit = 1 ∧
    activeAt smallLane (taskRun heartbeatTooLate).shared.now
      (taskRun heartbeatTooLate).shared = 2 := by
  decide +kernel

end Runs

end AsterYggdrasil.Task
