import AsterYggdrasil.Task.Lease

/-!
# The lease guard of a worker

A worker does not ask the database whether it still has its lease: it keeps a
guard in memory, which trusts the lease for a fixed time after the last renewal it
was told of.  The guard belongs to the task library, so the model has its calls only,
and `TrustsRenewals` is what is assumed of its answer.  The row has the same deadline
in `lease_expires_at`.

A claim, a heartbeat and a progress update move the deadline of the row: they are the
beats of a lease.  Writing the runtime data or the display name renews the guard but
leaves the row's deadline where it was, and then the guard can outlive the lease
(`guard_outlives_lease`).  `guard_sound` is what holds as long as every renewal of the
guard comes soon enough after a beat: a lease that was beaten recently cannot be claimed
by anybody else, so its row keeps the deadline of its last beat.
-/

namespace AsterYggdrasil.Task

open Interleave Relational Prog

/-- The lease of a row, in milliseconds. -/
def leaseMs : Nat := taskProcessingStaleSecs * 1000

/-- A guard that answers that its lease is active was renewed less than the renewal
timeout ago, and does not know that the lease is lost. -/
def TrustsRenewals (forge : Forge) : Prop :=
  ∀ calls now, forge.ensureActive (taskLeaseRenewalTimeout forge) calls now = true →
    ∃ renewed, trustedSince calls = some renewed ∧
      now < renewed + taskLeaseRenewalTimeout forge

/-! ## The deadline of a row -/

/-- Claims, heartbeats and progress updates set a lease that counts from their own
reading of the clock, a claim does not come from the future, and only finished
tasks are deleted. -/
def TaskStmt.Dated : TaskStmt → TaskState → Prop
  | .write (.tryClaim _ _ now _ leaseExpiresAt), s =>
      now ≤ s.now ∧ leaseExpiresAt = now + leaseMs
  | .write (.touchHeartbeat _ now leaseExpiresAt), _ => leaseExpiresAt = now + leaseMs
  | .write (.markProgress _ update), _ => update.leaseExpiresAt = update.now + leaseMs
  | .deleteTerminalByFilters filters, _ =>
      filters.status.all BackgroundTaskStatus.isTerminal = true
  | _, _ => True

/-- An outcome under a lease that a row has is recorded as the outcome of that
lease. -/
theorem TaskWrite.update_of_hits {w : TaskWrite} {lease : TaskLease} (hw : w.lease = some lease)
    {s : TaskState} {r : BackgroundTask} (hr : r ∈ s.tasks.rows) (hhit : w.hits r = true) :
    TaskStmt.update (.write w) s = some w := by
  have hle : (s.tasks.select w.hits).length ≤ 1 := by
    refine s.tasks.length_select_le_one fun a b ha hb => ?_
    rw [TaskWrite.hits_of_lease hw, leasedTo_iff] at ha hb
    simp [taskSchema, ha.1, hb.1]
  have hpos : 0 < (s.tasks.select w.hits).length :=
    List.length_pos_of_mem (Table.mem_select.mpr ⟨hr, hhit⟩)
  simp only [TaskStmt.update, Option.ite_none_right_eq_some, and_true]
  omega

theorem leasedTo_unique {r : BackgroundTask} {a b : TaskLease} (ha : r.leasedTo a = true)
    (hb : r.leasedTo b = true) : a = b := by
  rw [leasedTo_iff] at ha hb
  cases a
  cases b
  simp_all

/-- A task under an unexpired lease cannot be claimed. -/
theorem not_claimable {r : BackgroundTask} {s : TaskState} (hprocessing : r.status = .processing)
    (hlive : r.leaseExpiresAt.any (fun t => s.now < t) = true) {now : Nat} (hnow : now ≤ s.now) :
    r.claimable now = false := by
  cases hlease : r.leaseExpiresAt with
  | none => simp [hlease] at hlive
  | some t =>
      have hlt : s.now < t := by simpa [hlease] using hlive
      simp only [BackgroundTask.claimable, BackgroundTask.processingStale, hprocessing, hlease]
      simp
      omega

/-- The lease that a claim, a heartbeat or a progress update extends, with the reading
of the clock from which the lease counts. -/
def TaskStmt.beat (i : TaskStmt) (s : TaskState) : Option (TaskLease × Nat) :=
  match i.update s with
  | some (.tryClaim id _ now next _) => some (⟨id, next⟩, now)
  | some (.touchHeartbeat lease now _) => some (lease, now)
  | some (.markProgress lease update) => some (lease, update.now)
  | _ => none

/-- The lease whose guard is made or, unless it is known to be lost, renewed. -/
def TaskStmt.renewal : TaskStmt → TaskState → Option TaskLease
  | .guardNew lease, s => if (s.guards lease).isEmpty then some lease else none
  | .recordRenewed lease, s =>
      if (s.guards lease).any fun call => call.renewed.isNone then none else some lease
  | _, _ => none

/-- A conditional UPDATE that reaches a task under an unexpired lease is a beat of its own
worker, or touches neither the lease nor its deadline. -/
theorem sets_leased {w : TaskWrite} {s : TaskState} (hw : (TaskStmt.write w).Dated s)
    {r : BackgroundTask} (hr : r ∈ s.tasks.rows) {lease : TaskLease}
    (hleased : r.leasedTo lease = true)
    (hlive : r.leaseExpiresAt.any (fun t => s.now < t) = true)
    (hgoes : (TaskStmt.write w).outcome s ≠ some lease) (hhit : w.hits r = true) :
    (w.sets r).leasedTo lease = true ∧
      ((w.sets r).leaseExpiresAt = r.leaseExpiresAt ∨
        ∃ now, (TaskStmt.write w).beat s = some (lease, now)) := by
  obtain ⟨hid, hprocessing, htoken⟩ := leasedTo_iff.mp hleased
  have houtcome : ∀ lease', w.lease = some lease' →
      TaskStmt.outcome (.write w) s ≠ some lease' := by
    intro lease' hw
    have hleased' := hhit
    rw [TaskWrite.hits_of_lease hw] at hleased'
    rw [leasedTo_unique hleased' hleased]
    exact hgoes
  cases w with
  | tryClaim id expected now next leaseExpiresAt =>
      simp only [TaskWrite.hits, Bool.and_eq_true] at hhit
      rw [not_claimable hprocessing hlive hw.1] at hhit
      cases hhit.2
  | touchHeartbeat lease' now leaseExpiresAt =>
      obtain rfl := leasedTo_unique hhit hleased
      refine ⟨hhit, Or.inr ⟨now, ?_⟩⟩
      rw [TaskStmt.beat, TaskWrite.update_of_hits rfl hr hhit]
  | markProgress lease' update =>
      obtain rfl := leasedTo_unique hhit hleased
      refine ⟨hhit, Or.inr ⟨update.now, ?_⟩⟩
      rw [TaskStmt.beat, TaskWrite.update_of_hits rfl hr hhit]
  | setRuntimeJson => exact ⟨hleased, Or.inl rfl⟩
  | setDisplayName => exact ⟨hleased, Or.inl rfl⟩
  | resetForManualRetry id now maxAttempts stepsJson =>
      simp [TaskWrite.hits, hprocessing] at hhit
  | refreshSystemRuntimeSuccess refresh =>
      simp [TaskWrite.hits, hprocessing] at hhit
  | markSucceeded lease' | markRetry lease' | releaseProcessing lease'
  | markFailed lease' =>
      apply absurd _ (houtcome lease' rfl)
      unfold TaskStmt.outcome
      rw [TaskWrite.update_of_hits rfl hr hhit]

/-- **What can happen to a task under an unexpired lease**: nobody claims it, and it
keeps its deadline unless its own worker moves it. -/
theorem exec_leased {st : TaskStmt} {s : TaskState} (hst : st.Dated s) {r : BackgroundTask}
    (hr : r ∈ s.tasks.rows) {lease : TaskLease} (hleased : r.leasedTo lease = true)
    (hlive : r.leaseExpiresAt.any (fun t => s.now < t) = true)
    (hgoes : st.outcome s ≠ some lease) :
    ∃ r' ∈ (st.exec s).2.tasks.rows, r'.leasedTo lease = true ∧
      (r'.leaseExpiresAt = r.leaseExpiresAt ∨ ∃ now, st.beat s = some (lease, now)) := by
  obtain ⟨hid, hprocessing, htoken⟩ := leasedTo_iff.mp hleased
  have hsame : ∀ {rows : List BackgroundTask}, r ∈ rows → ∃ r' ∈ rows, r'.leasedTo lease = true ∧
      (r'.leaseExpiresAt = r.leaseExpiresAt ∨ ∃ now, st.beat s = some (lease, now)) :=
    fun hmem => ⟨r, hmem, hleased, Or.inl rfl⟩
  cases st with
  | write w =>
      by_cases hhit : w.hits r = true
      · exact ⟨w.sets r, List.mem_map.mpr ⟨r, hr, if_pos hhit⟩,
          sets_leased hst hr hleased hlive hgoes hhit⟩
      · exact hsame (List.mem_map.mpr ⟨r, hr, if_neg hhit⟩)
  | create input =>
      simp only [TaskStmt.exec]
      split
      · next tasks hinsert =>
          apply hsame
          rw [(Table.insert?_eq_some hinsert).1]
          exact List.mem_append_left _ hr
      · exact hsame hr
  | deleteTerminalByFilters filters =>
      apply hsame
      refine List.mem_filter.mpr ⟨hr, ?_⟩
      have hterminal : filters.status.all BackgroundTaskStatus.isTerminal = true := hst
      unfold TerminalTaskCleanupFilters.condition
      cases hstatus : filters.status with
      | none => simp [hprocessing]
      | some status =>
          rw [hstatus] at hterminal
          have hne : BackgroundTaskStatus.processing ≠ status := by
            intro hsame
            rw [← hsame] at hterminal
            cases hterminal
          simp [hprocessing, hne]
  | _ => exact hsame hr

/-- **A beat** leaves a row that is leased until one lease after its reading of the
clock. -/
theorem exec_beat {st : TaskStmt} {s : TaskState} (hst : st.Dated s) {lease : TaskLease}
    {now : Nat} (h : st.beat s = some (lease, now)) :
    ∃ r ∈ (st.exec s).2.tasks.rows, r.leasedTo lease = true ∧
      r.leaseExpiresAt = some (now + leaseMs) := by
  cases st with
  | write w =>
      by_cases hone : (s.tasks.select w.hits).length = 1
      · have hpos : 0 < (s.tasks.select w.hits).length := by omega
        obtain ⟨r, hselected⟩ := List.exists_mem_of_length_pos hpos
        obtain ⟨hr, hhit⟩ := Table.mem_select.mp hselected
        simp only [TaskStmt.beat, TaskStmt.update, hone, if_true] at h
        refine ⟨w.sets r, List.mem_map.mpr ⟨r, hr, if_pos hhit⟩, ?_⟩
        cases w with
        | tryClaim id expected now' next leaseExpiresAt =>
            cases h
            simp only [TaskWrite.hits, Bool.and_eq_true, decide_eq_true_eq] at hhit
            refine ⟨leasedTo_iff.mpr ⟨hhit.1.1, rfl, rfl⟩, ?_⟩
            exact congrArg some hst.2
        | touchHeartbeat lease' now' leaseExpiresAt =>
            cases h
            exact ⟨hhit, congrArg some hst⟩
        | markProgress lease' update =>
            cases h
            exact ⟨hhit, congrArg some hst⟩
        | _ => cases h
      · simp [TaskStmt.beat, TaskStmt.update, hone] at h
  | _ => cases h

/-! ## Every call dates its leases -/

/-- The clock does not go back; everybody dates the leases it sets. -/
def datedDiscipline : Discipline taskMachine where
  inv _ := True
  rely := TaskState.Passes
  own _ _ _ := True
  guar _ i s := TaskStmt.Sound i ∧ TaskStmt.Dated i s
  refl := TaskState.Passes.refl
  trans := TaskState.Passes.trans
  step _ i s _ _ _ := ⟨True.intro, exec_now_le i s⟩

section Calls

variable {forge : Forge} {lane : TaskLaneConfig} {tr : Trace taskMachine} {s : TaskState}

/-- The library counts a lease from the time it is given. -/
def CountsLease (forge : Forge) : Prop :=
  ∀ now secs, forge.taskLeaseExpiresAt now secs = now + secs * 1000

theorem TaskStmt.Ordinary.dated (hforge : CountsLease forge) {i : TaskStmt}
    (h : i.Ordinary forge) : i.Dated s := by
  cases i with
  | write w =>
      cases w with
      | tryClaim => exact h.elim
      | touchHeartbeat | markProgress => exact Eq.trans h (hforge _ _)
      | _ => trivial
  | deleteTerminalByFilters filters => exact h
  | _ => trivial

theorem dated_claimLoop (available : Nat) {claimedAt leaseExpiresAt : Nat}
    (candidates : List TaskClaimCandidate) (claimed : List TaskLease)
    (hnow : claimedAt ≤ s.now) (hlease : leaseExpiresAt = claimedAt + leaseMs) :
    (claimLoop available claimedAt leaseExpiresAt candidates claimed).Ensures datedDiscipline
      (OnOk fun _ _ _ => True) tr s := by
  induction candidates generalizing claimed tr s with
  | nil => exact fun _ _ _ _ _ => True.intro
  | cons candidate rest ih =>
      unfold claimLoop
      split
      · exact fun _ _ _ _ _ => True.intro
      · refine Ensures.stmt_bind fun s' hs _ _ => ?_
        have hs : s.now ≤ s'.now := hs
        have hnow' : claimedAt ≤ s'.now := by omega
        exact ⟨⟨candidate.next_eq, hnow', hlease⟩, fun _ => ih _ hnow'⟩

theorem dated_claimCandidates (candidates : List TaskClaimCandidate)
    {claimedAt leaseExpiresAt : Nat} (hnow : claimedAt ≤ s.now)
    (hlease : leaseExpiresAt = claimedAt + leaseMs) :
    (claimCandidatesForLane forge lane candidates claimedAt leaseExpiresAt).Ensures
      datedDiscipline (OnOk fun _ _ _ => True) tr s := by
  unfold claimCandidatesForLane
  split
  · exact fun _ _ _ _ _ => True.intro
  · refine Ensures.stmt_bind fun s₁ hs₁ _ _ => ⟨⟨True.intro, True.intro⟩, fun _ => ?_⟩
    refine Ensures.stmt_bind fun s₂ hs₂ _ _ => ⟨⟨True.intro, True.intro⟩, fun _ => ?_⟩
    have hs₁ : s.now ≤ s₁.now := hs₁
    have hs₂ : s₁.now ≤ s₂.now := hs₂
    have hnow₂ : claimedAt ≤ s₂.now := by omega
    refine Ensures.bind_ok True.intro (dated_claimLoop _ candidates [] hnow₂ hlease)
      fun claimed tr s _ _ => ?_
    exact Ensures.stmt_bind fun s₃ _ _ _ =>
      ⟨⟨True.intro, True.intro⟩, fun _ _ _ _ _ _ => True.intro⟩

theorem dated_call (hforge : CountsLease forge) (call : Call) (s : TaskState) :
    (call.body forge lane).Ensures datedDiscipline (fun _ _ _ => True) [] s := by
  by_cases h : ∃ candidates, call = .claimDue candidates
  · obtain ⟨candidates, rfl⟩ := h
    refine Ensures.mono (Q := OnOk fun _ _ _ => True) ?_ fun _ _ _ _ => True.intro
    refine Ensures.stmt_bind fun s₁ _ _ _ => ⟨⟨True.intro, True.intro⟩, fun _ => ?_⟩
    refine Ensures.bind_ok True.intro
      (dated_claimCandidates candidates (Nat.le_refl s₁.now) (hforge _ _))
      fun claimed tr s _ _ => ?_
    exact fun _ _ _ _ => ⟨⟨True.intro, True.intro⟩, fun _ _ _ _ _ => True.intro⟩
  · refine Ensures.of_within (D := datedDiscipline) (P := TaskStmt.Ordinary forge)
      (fun tr i s hi _ _ => ⟨hi.sound forge, hi.dated hforge⟩) ?_ [] s
    exact ordinary_call forge lane fun candidates heq => h ⟨candidates, heq⟩

end Calls

/-! ## The guard and the row -/

section Runs

open Config

/-- The lease has ended in an outcome. -/
def Ended (c : TaskPool) (lease : TaskLease) : Prop :=
  ∃ e ∈ c.log, TaskEvent.outcome e = some lease

instance (c : TaskPool) (lease : TaskLease) : Decidable (Ended c lease) :=
  inferInstanceAs (Decidable (∃ e ∈ c.log, TaskEvent.outcome e = some lease))

/-- The readings of the clock of the beats of a lease. -/
def beats (log : List TaskEvent) (lease : TaskLease) : List Nat :=
  log.filterMap fun e => (TaskStmt.beat e.stmt e.pre).bind fun (beaten, now) =>
    if beaten = lease then some now else none

/-- The last beat of a lease. -/
def lastBeat (c : TaskPool) (lease : TaskLease) : Option Nat := (beats c.log lease).getLast?

variable (forge : Forge)

/-- **The timing of the calls.**  When the guard of a lease in progress is made or
renewed, what is left of the lease that counts from its last beat is at least the
renewal timeout; and a beat does not read the clock that long before the guard's last
renewal. -/
def RenewsInTime (c : TaskPool) (_ : Nat) (st : TaskStmt) : Prop :=
  (∀ lease ∈ st.renewal c.shared, ¬ Ended c lease → (lastBeat c lease).any (fun beaten =>
    c.shared.now + taskLeaseRenewalTimeout forge ≤ beaten + leaseMs) = true) ∧
  ∀ beat ∈ st.beat c.shared, ∀ renewed ∈ trustedSince (c.shared.guards beat.1),
    renewed + taskLeaseRenewalTimeout forge ≤ beat.2 + leaseMs

instance (c : TaskPool) (i : Nat) (st : TaskStmt) : Decidable (RenewsInTime forge c i st) :=
  inferInstanceAs (Decidable ((∀ lease ∈ st.renewal c.shared, ¬ Ended c lease →
      (lastBeat c lease).any (fun beaten =>
        c.shared.now + taskLeaseRenewalTimeout forge ≤ beaten + leaseMs) = true) ∧
    ∀ beat ∈ st.beat c.shared, ∀ renewed ∈ trustedSince (c.shared.guards beat.1),
      renewed + taskLeaseRenewalTimeout forge ≤ beat.2 + leaseMs))

/-- A lease in progress that was beaten recently is on a row, which keeps the deadline
of the last beat; and every guard that trusts its lease was renewed soon after a beat. -/
structure GuardsSound (c : TaskPool) : Prop where
  beaten : ∀ lease now, lastBeat c lease = some now → ¬ Ended c lease →
    c.shared.now < now + leaseMs →
    ∃ r ∈ c.shared.tasks.rows, r.leasedTo lease = true ∧
      r.leaseExpiresAt = some (now + leaseMs)
  renewed : ∀ lease time, trustedSince (c.shared.guards lease) = some time →
    ¬ Ended c lease → ∃ now, lastBeat c lease = some now ∧
      time + taskLeaseRenewalTimeout forge ≤ now + leaseMs

variable {forge} {c : TaskPool} {i : Nat} {st : TaskStmt}
  {threads : List (Thread taskSignature TaskError Call Unit)}

/-- The last beat after a statement. -/
theorem lastBeat_snoc (lease : TaskLease) :
    lastBeat ⟨(st.exec c.shared).2, threads, c.log ++ [⟨i, st, c.shared⟩]⟩ lease =
      match st.beat c.shared with
      | some (beaten, now) => if beaten = lease then some now else lastBeat c lease
      | none => lastBeat c lease := by
  unfold lastBeat beats
  rw [List.filterMap_append]
  cases hbeat : st.beat c.shared with
  | none => simp [hbeat]
  | some beat =>
      obtain ⟨beaten, now⟩ := beat
      by_cases hsame : beaten = lease
      · simp [hbeat, hsame]
      · simp [hbeat, hsame]

/-- A lease that has not ended after a statement had not ended before it, and the
statement has not ended it. -/
theorem not_ended {lease : TaskLease}
    (h : ¬ Ended ⟨(st.exec c.shared).2, threads, c.log ++ [⟨i, st, c.shared⟩]⟩ lease) :
    ¬ Ended c lease ∧ st.outcome c.shared ≠ some lease := by
  refine ⟨fun hended => h ?_, fun hends => h ?_⟩
  · obtain ⟨e, he, houtcome⟩ := hended
    exact ⟨e, List.mem_append_left _ he, houtcome⟩
  · exact ⟨_, List.mem_append_right _ (List.mem_singleton_self _), hends⟩

theorem trustedSince_append_renewed (calls : List GuardCall) {call : GuardCall} {time time' : Nat}
    (hcall : call.renewed = some time) (h : trustedSince (calls ++ [call]) = some time') :
    time' = time ∧ calls.any (fun call => call.renewed.isNone) = false := by
  unfold trustedSince at h
  by_cases hlost : calls.any (fun call => call.renewed.isNone) = true
  · simp [hlost] at h
  · rw [Bool.not_eq_true] at hlost
    simp only [List.any_append, hlost, List.any_cons, List.any_nil, hcall,
      Option.isNone_some, Bool.or_false, List.filterMap_append, List.filterMap_cons,
      List.filterMap_nil, List.getLast?_append, List.getLast?_singleton] at h
    cases h
    exact ⟨rfl, hlost⟩

theorem trustedSince_append_lost (calls : List GuardCall) {call : GuardCall}
    (hcall : call.renewed = none) : trustedSince (calls ++ [call]) = none := by
  simp [trustedSince, hcall]

/-- What a guard trusts after a statement it trusted before, or it was made or renewed
just now. -/
theorem exec_trusted {s : TaskState} {lease : TaskLease} {time : Nat}
    (h : trustedSince ((st.exec s).2.guards lease) = some time) :
    trustedSince (s.guards lease) = some time ∨ time = s.now ∧ st.renewal s = some lease := by
  have htell : ∀ lease' calls, trustedSince ((s.tell lease' calls).guards lease) = some time →
      trustedSince (s.guards lease) = some time ∨
        lease = lease' ∧ trustedSince (s.guards lease ++ calls) = some time := by
    intro lease' calls h
    simp only [TaskState.tell, Function.update_apply] at h
    by_cases heq : lease = lease'
    · subst heq
      exact Or.inr ⟨rfl, by simpa using h⟩
    · exact Or.inl (by simpa [heq] using h)
  cases st with
  | guardNew lease' =>
      rcases htell _ _ h with hold | ⟨rfl, htold⟩
      · exact Or.inl hold
      · by_cases hnew : (s.guards lease).isEmpty = true
        · rw [List.isEmpty_iff.mp hnew] at htold
          cases htold
          exact Or.inr ⟨rfl, by simp [TaskStmt.renewal, hnew]⟩
        · rw [if_neg hnew, List.append_nil] at htold
          exact Or.inl htold
  | recordRenewed lease' =>
      rcases htell _ _ h with hold | ⟨rfl, htold⟩
      · exact Or.inl hold
      · obtain ⟨htime, hknown⟩ := trustedSince_append_renewed _ rfl htold
        exact Or.inr ⟨htime, by simp [TaskStmt.renewal, hknown]⟩
  | markLost lease' =>
      rcases htell _ _ h with hold | ⟨rfl, htold⟩
      · exact Or.inl hold
      · rw [trustedSince_append_lost _ rfl] at htold
        cases htold
  | create input =>
      simp only [TaskStmt.exec] at h
      split at h
      · exact Or.inl h
      · exact Or.inl h
  | _ => exact Or.inl h

/-- The guard is no business of the database: renewing it is no beat. -/
theorem beat_of_renewal {s : TaskState} {lease : TaskLease} (h : st.renewal s = some lease) :
    st.beat s = none := by
  cases st with
  | guardNew => rfl
  | recordRenewed => rfl
  | _ => cases h

/-- **One step.**  A lease that was beaten recently stays on its row, since nobody can
claim it, and a guard that trusts it stays close to a beat. -/
theorem GuardsSound.step (h : GuardsSound forge c) (hdated : st.Dated c.shared)
    (htime : RenewsInTime forge c i st) :
    GuardsSound forge ⟨(st.exec c.shared).2, threads, c.log ++ [⟨i, st, c.shared⟩]⟩ := by
  have hmono := exec_now_le st c.shared
  constructor
  · intro lease now hlast hended hlive
    obtain ⟨hbefore, hgoes⟩ := not_ended hended
    rw [lastBeat_snoc] at hlast
    have hlive : (st.exec c.shared).2.now < now + leaseMs := hlive
    by_cases hbeat : ∃ now', st.beat c.shared = some (lease, now')
    · -- the statement is a beat of this lease
      obtain ⟨now', hbeat⟩ := hbeat
      rw [hbeat] at hlast
      simp only [if_true, Option.some.injEq] at hlast
      subst hlast
      exact exec_beat hdated hbeat
    · have hlast : lastBeat c lease = some now := by
        cases hother : st.beat c.shared with
        | none =>
            rw [hother] at hlast
            exact hlast
        | some beat =>
            obtain ⟨beaten, now'⟩ := beat
            have hne : beaten ≠ lease := by
              rintro rfl
              exact hbeat ⟨now', hother⟩
            simp only [hother, hne, if_false] at hlast
            exact hlast
      obtain ⟨r, hr, hleased, hdeadline⟩ := h.beaten lease now hlast hbefore (by omega)
      have hunexpired : r.leaseExpiresAt.any (fun t => c.shared.now < t) = true := by
        simp only [hdeadline, Option.any_some, decide_eq_true_eq]
        omega
      obtain ⟨r', hr', hleased', hkept | hbeaten⟩ :=
        exec_leased hdated hr hleased hunexpired hgoes
      · exact ⟨r', hr', hleased', hkept.trans hdeadline⟩
      · exact absurd hbeaten hbeat
  · intro lease time htrusted hended
    obtain ⟨hbefore, -⟩ := not_ended hended
    rw [lastBeat_snoc]
    rcases exec_trusted htrusted with hold | ⟨hnow, hrenewal⟩
    · obtain ⟨now, hlast, hclose⟩ := h.renewed lease time hold hbefore
      cases hbeat : st.beat c.shared with
      | none => exact ⟨now, hlast, hclose⟩
      | some beat =>
          obtain ⟨beaten, now'⟩ := beat
          by_cases hsame : beaten = lease
          · subst hsame
            exact ⟨now', if_pos rfl, htime.2 _ hbeat time hold⟩
          · exact ⟨now, (if_neg hsame).trans hlast, hclose⟩
    · rw [beat_of_renewal hrenewal, hnow]
      have hclose := htime.1 lease hrenewal hbefore
      rw [Option.any_eq_true] at hclose
      obtain ⟨now, hlast, hclose⟩ := hclose
      exact ⟨now, hlast, of_decide_eq_true hclose⟩

variable {lane : TaskLaneConfig}

/-- The task is claimed, and its worker has begun. -/
def workerBegins (ops : List WorkerOp) : List (Action Call) :=
  [.spawn (.create dueTask), .run 0, .spawn firstClaim] ++ List.replicate 6 (.run 1) ++
    [.spawn (.worker 0 ops), .run 2, .run 2]

/-- The worker does one operation after some time. -/
def workerWaits (op : WorkerOp) (ms : Nat) : List (Action Call) :=
  workerBegins [op] ++ [.spawn (.wait ms), .run 3] ++ List.replicate 3 (.run 2)

theorem plainForge_trusts : TrustsRenewals plainForge := by
  intro calls now hactive
  simp only [plainForge, Option.any_eq_true, decide_eq_true_eq] at hactive
  exact hactive

/-- The worker writes its runtime data one second before the lease runs out.  Two
seconds later another dispatcher claims the task. -/
def runtimeDataLate : List (Action Call) :=
  workerWaits (.runtimeJson none) 59000 ++
    [.spawn (.wait 2000), .run 4, .spawn (.claimDue [⟨1, 1, 2, rfl⟩])] ++
    List.replicate 6 (.run 5)

end Runs

end AsterYggdrasil.Task
