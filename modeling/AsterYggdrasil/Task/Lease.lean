import AsterYggdrasil.Task.Service

/-!
# The lease of a task

A claim raises the token of a task by one, and every write of a worker names the
token of its own claim.  `lease_safety` collects what follows from this for every
interleaving of dispatchers, workers and administrators: tokens only grow, a lease
has one holder, a write with an old token changes nothing, a claim ends in at most
one outcome, and a finished task starts again only by a manual retry of a failure.

`Advances` is what one update can do to the token and the status of a row.
-/

namespace AsterYggdrasil.Task

open Interleave Relational Prog

/-! ## What an update does to a row -/

/-- The token has grown, or it is the same and a lease that has ended has not come
back. -/
def Advances (r r' : BackgroundTask) : Prop :=
  r.processingToken < r'.processingToken ∨
    r.processingToken = r'.processingToken ∧
      (r.status ≠ .processing → r'.status ≠ .processing)

/-- A task has not moved. -/
theorem Advances.refl (r : BackgroundTask) : Advances r r := Or.inr ⟨rfl, id⟩

/-- Advances add up. -/
theorem Advances.trans (a b c : BackgroundTask) (hab : Advances a b) (hbc : Advances b c) :
    Advances a c := by
  rcases hab with hlt | ⟨heq, hstatus⟩
  · rcases hbc with hlt' | ⟨heq', -⟩
    · exact Or.inl (by omega)
    · exact Or.inl (by omega)
  · rcases hbc with hlt' | ⟨heq', hstatus'⟩
    · exact Or.inl (by omega)
    · exact Or.inr ⟨heq.trans heq', fun h => hstatus' (hstatus h)⟩

/-- A processing token never shrinks. -/
theorem Advances.token_le {r r' : BackgroundTask} (h : Advances r r') :
    r.processingToken ≤ r'.processingToken := by
  rcases h with h | ⟨h, -⟩
  · omega
  · omega

/-- A claim writes the token after the one it expects, and a release does not keep
the task. -/
def TaskWrite.Sound : TaskWrite → Prop
  | .tryClaim _ expected _ next _ => next = expected + 1
  | .releaseProcessing _ _ status => status ≠ .processing
  | _ => True

/-- A row is leased exactly to whoever has its token while it is processed. -/
theorem leasedTo_iff {lease : TaskLease} {r : BackgroundTask} :
    r.leasedTo lease = true ↔ r.id = lease.taskId ∧ r.status = .processing ∧
      r.processingToken = lease.processingToken := by
  simp [BackgroundTask.leasedTo, and_assoc]

/-- A write under a lease hits the leased row. -/
theorem TaskWrite.hits_of_lease {w : TaskWrite} {lease : TaskLease}
    (h : w.lease = some lease) (r : BackgroundTask) : w.hits r = r.leasedTo lease := by
  cases w <;> cases h <;> rfl

/-- An update under a lease keeps the token. -/
theorem TaskWrite.sets_token {w : TaskWrite} {lease : TaskLease} (h : w.lease = some lease)
    (r : BackgroundTask) : (w.sets r).processingToken = r.processingToken := by
  cases w <;> cases h <;> rfl

/-- **A sound write** advances the rows that it hits. -/
theorem TaskWrite.advances {w : TaskWrite} (hw : w.Sound) {r : BackgroundTask}
    (hr : w.hits r = true) : Advances r (w.sets r) := by
  cases hlease : w.lease with
  | some lease =>
      have hprocessing : r.status = .processing := by
        rw [TaskWrite.hits_of_lease hlease] at hr
        exact (leasedTo_iff.mp hr).2.1
      exact Or.inr ⟨(TaskWrite.sets_token hlease r).symm, fun h => absurd hprocessing h⟩
  | none =>
      cases w with
      | tryClaim id expected now next leaseExpiresAt =>
          have hnext : next = expected + 1 := hw
          have htoken : r.processingToken = expected := by
            simp only [TaskWrite.hits, Bool.and_eq_true, decide_eq_true_eq] at hr
            exact hr.1.2
          refine Or.inl ?_
          show r.processingToken < next
          omega
      | resetForManualRetry id now maxAttempts stepsJson => exact Or.inr ⟨rfl, fun _ => nofun⟩
      | refreshSystemRuntimeSuccess refresh => exact Or.inr ⟨rfl, fun _ => nofun⟩
      | _ => cases hlease

/-- A statement whose update is sound. -/
def TaskStmt.Sound : TaskStmt → Prop
  | .write w => w.Sound
  | _ => True

/-- Rows only advance. -/
abbrev TasksAdvance (s s' : TaskState) : Prop := Table.Evolves Advances s.tasks s'.tasks

/-- So does a sound statement, with all tasks. -/
theorem exec_advances {i : TaskStmt} (hi : i.Sound) (s : TaskState) :
    TasksAdvance s (i.exec s).2 := by
  have hsame : ∀ {tasks : Table taskSchema}, tasks = s.tasks →
      Table.Evolves Advances s.tasks tasks := by
    rintro tasks rfl
    exact .refl Advances.refl _
  cases i with
  | write w =>
      refine .of_map rfl rfl fun r _ => ?_
      split
      · next hr => exact ⟨w.sets_id r, w.advances hi hr⟩
      · exact ⟨rfl, Advances.refl r⟩
  | create input =>
      cases hinsert : s.tasks.nextId.2.insert? (newTask s.tasks.seq input) with
      | none =>
          refine .of_subset Advances.refl ?_ ?_
          · simp [TaskStmt.exec, hinsert]
          · simp [TaskStmt.exec, hinsert]
      | some tasks =>
          obtain ⟨hrows, hseq, -, -⟩ := Table.insert?_eq_some hinsert
          refine .of_append Advances.refl (newTask s.tasks.seq input) ?_ (Nat.le_refl _) ?_
          · simp [TaskStmt.exec, hinsert, hseq]
          · simp [TaskStmt.exec, hinsert, hrows]
  | deleteTerminalByFilters filters =>
      exact .of_subset Advances.refl (Nat.le_refl _) fun r hr => (List.mem_filter.mp hr).1
  | _ => exact hsame rfl

/-! ## Everything but claims -/

/-- The steps of workers and administrators. -/
def TaskStmt.Ordinary (forge : Forge) : TaskStmt → Prop
  | .write (.tryClaim _ _ _ _ _) => False
  | .write (.touchHeartbeat _ now leaseExpiresAt) =>
      leaseExpiresAt = taskLeaseExpiresAt forge now
  | .write (.markProgress _ update) =>
      update.leaseExpiresAt = taskLeaseExpiresAt forge update.now
  | .write w => w.Sound
  | .deleteTerminalByFilters filters => filters.status.all BackgroundTaskStatus.isTerminal = true
  | .lockByKey | .commit | .handOver _ | .countActiveProcessingByKinds _ _ => False
  | _ => True

section Ordinary

variable (forge : Forge)

/-- The statements of the workers and administrators are sound. -/
theorem TaskStmt.Ordinary.sound {i : TaskStmt} (h : i.Ordinary forge) : i.Sound := by
  cases i with
  | write w =>
      cases w with
      | tryClaim => exact h.elim
      | touchHeartbeat | markProgress => trivial
      | _ => exact h
  | _ => trivial

/-- What follows a write issues such statements. -/
theorem ordinary_afterWrite (lease : TaskLease) (updated : Bool) :
    (afterWrite lease updated).Within (TaskStmt.Ordinary forge) := by
  cases updated with
  | true => exact ⟨True.intro, fun _ => trivial⟩
  | false => exact Within.stmt_bind True.intro fun _ => trivial

/-- So does whatever a worker does under its lease. -/
theorem ordinary_workerOp (lease : TaskLease) (op : WorkerOp) :
    (op.body forge lease).Within (TaskStmt.Ordinary forge) := by
  cases op with
  | retry => exact Within.stmt_bind True.intro fun _ => Within.stmt_bind True.intro fun _ => trivial
  | fail => exact Within.stmt_bind True.intro fun _ => Within.stmt_bind True.intro fun _ => trivial
  | release =>
      refine Within.stmt_bind True.intro fun now => Within.bind ?_ fun _ => trivial
      exact Within.rejectIf.bind fun _ => ⟨nofun, fun _ => trivial⟩
  | heartbeat | progress =>
      refine Within.stmt_bind True.intro fun now => Within.stmt_bind rfl fun updated => ?_
      exact ordinary_afterWrite forge lease updated
  | _ =>
      refine Within.stmt_bind True.intro fun now => Within.stmt_bind True.intro fun updated => ?_
      exact ordinary_afterWrite forge lease updated

/-- And the worker as a whole. -/
theorem ordinary_worker (n : Nat) (ops : List WorkerOp) :
    (worker forge n ops).Within (TaskStmt.Ordinary forge) := by
  refine Within.stmt_bind True.intro fun lease => ?_
  cases lease with
  | none => trivial
  | some lease =>
      exact Within.stmt_bind True.intro fun _ =>
        Within.forEach (fun op => ordinary_workerOp forge lease op) ops

/-- So does a retry. -/
theorem ordinary_retryTaskForAdmin (taskId : Nat) (stepsJson : String) (maxAttempts : Int) :
    (retryTaskForAdmin taskId stepsJson maxAttempts).Within (TaskStmt.Ordinary forge) := by
  refine Within.stmt_bind True.intro fun task => ?_
  cases task with
  | none => trivial
  | some task =>
      refine Within.rejectIf.bind fun _ => Within.rejectIf.bind fun _ => ?_
      refine Within.stmt_bind True.intro fun now => Within.stmt_bind True.intro fun reset => ?_
      exact Within.rejectIf

/-- And a cleanup. -/
theorem ordinary_cleanupTasksForAdmin (filters : TerminalTaskCleanupFilters) :
    (cleanupTasksForAdmin filters).Within (TaskStmt.Ordinary forge) := by
  unfold cleanupTasksForAdmin
  cases hstatus : filters.status.any fun status => !status.isTerminal with
  | true => trivial
  | false =>
      refine ⟨?_, fun _ => trivial⟩
      show filters.status.all BackgroundTaskStatus.isTerminal = true
      cases hfilter : filters.status with
      | none => rfl
      | some status => simpa [hfilter] using hstatus

/-- Every call but a claim. -/
theorem ordinary_call (lane : TaskLaneConfig) {call : Call}
    (h : ∀ candidates, call ≠ .claimDue candidates) :
    (call.body forge lane).Within (TaskStmt.Ordinary forge) := by
  cases call with
  | claimDue candidates => exact absurd rfl (h candidates)
  | worker n ops => exact ordinary_worker forge n ops
  | retryForAdmin taskId stepsJson maxAttempts =>
      exact ordinary_retryTaskForAdmin forge taskId stepsJson maxAttempts
  | cleanup filters =>
      exact (ordinary_cleanupTasksForAdmin forge filters).bind fun _ => trivial
  | create input => exact Within.stmt_bind True.intro fun _ => trivial
  | refreshRuntime refresh => exact Within.stmt_bind True.intro fun _ => trivial
  | wait ms => exact ⟨True.intro, fun _ => trivial⟩

end Ordinary

/-! ## Events -/

abbrev TaskEvent := Event taskMachine

/-- The update that the statement makes, if it changes exactly one row. -/
def TaskStmt.update : TaskStmt → TaskState → Option TaskWrite
  | .write w, s => if (s.tasks.select w.hits).length = 1 then some w else none
  | _, _ => none

/-- The lease that the statement claims. -/
def TaskStmt.claimed (i : TaskStmt) (s : TaskState) : Option TaskLease :=
  match i.update s with
  | some (.tryClaim id _ _ next _) => some ⟨id, next⟩
  | _ => none

/-- The lease that the statement ends with an outcome: success, another try, a
failure, or its return to the dispatcher. -/
def TaskStmt.outcome (i : TaskStmt) (s : TaskState) : Option TaskLease :=
  match i.update s with
  | some (.markSucceeded lease _) | some (.markRetry lease _) | some (.markFailed lease _)
  | some (.releaseProcessing lease _ _) => some lease
  | _ => none

def TaskEvent.claimed (e : TaskEvent) : Option TaskLease := TaskStmt.claimed e.stmt e.pre

def TaskEvent.outcome (e : TaskEvent) : Option TaskLease := TaskStmt.outcome e.stmt e.pre

/-- An update is a write that hits a row. -/
theorem TaskStmt.of_update {i : TaskStmt} {s : TaskState} {w : TaskWrite}
    (h : i.update s = some w) : i = .write w ∧ ∃ r ∈ s.tasks.rows, w.hits r = true := by
  cases i with
  | write w' =>
      simp only [TaskStmt.update, Option.ite_none_right_eq_some, Option.some.injEq] at h
      obtain ⟨hone, rfl⟩ := h
      have hpos : 0 < (s.tasks.select w'.hits).length := by omega
      obtain ⟨r, hr⟩ := List.exists_mem_of_length_pos hpos
      exact ⟨rfl, r, Table.mem_select.mp hr⟩
  | _ => cases h

/-- A claim has found the token before its own, and has written its own. -/
theorem TaskStmt.of_claimed {i : TaskStmt} (hi : i.Sound) {s : TaskState} {lease : TaskLease}
    (h : i.claimed s = some lease) :
    (∃ r ∈ s.tasks.rows, r.id = lease.taskId ∧
      r.processingToken + 1 = lease.processingToken) ∧
    ∃ r' ∈ (i.exec s).2.tasks.rows, r'.id = lease.taskId ∧
      r'.processingToken = lease.processingToken := by
  unfold TaskStmt.claimed at h
  split at h
  · next id expected now next leaseExpiresAt hupdate =>
      cases h
      obtain ⟨rfl, r, hr, hhit⟩ := TaskStmt.of_update hupdate
      have hnext : next = expected + 1 := hi
      have hcond := hhit
      simp only [TaskWrite.hits, Bool.and_eq_true, decide_eq_true_eq] at hcond
      refine ⟨⟨r, hr, hcond.1.1, ?_⟩, _, List.mem_map.mpr ⟨r, hr, if_pos hhit⟩, hcond.1.1, rfl⟩
      show r.processingToken + 1 = next
      omega
  · cases h

/-- After an outcome the lease has ended. -/
theorem TaskStmt.of_outcome {i : TaskStmt} (hi : i.Sound) {s : TaskState} {lease : TaskLease}
    (h : i.outcome s = some lease) :
    (∃ r ∈ s.tasks.rows, r.leasedTo lease = true) ∧
    ∃ r' ∈ (i.exec s).2.tasks.rows, r'.id = lease.taskId ∧
      r'.processingToken = lease.processingToken ∧ r'.status ≠ .processing := by
  obtain ⟨w, hupdate, hlease, hended⟩ : ∃ w, i.update s = some w ∧ w.lease = some lease ∧
      ∀ r, w.Sound → (w.sets r).status ≠ .processing := by
    unfold TaskStmt.outcome at h
    split at h <;> cases h
    · next hupdate => exact ⟨_, hupdate, rfl, fun _ _ => nofun⟩
    · next hupdate => exact ⟨_, hupdate, rfl, fun _ _ => nofun⟩
    · next hupdate => exact ⟨_, hupdate, rfl, fun _ _ => nofun⟩
    · next hupdate => exact ⟨_, hupdate, rfl, fun _ hsound => hsound⟩
  obtain ⟨rfl, r, hr, hhit⟩ := TaskStmt.of_update hupdate
  have hleased := hhit
  rw [TaskWrite.hits_of_lease hlease] at hleased
  obtain ⟨hid, -, htoken⟩ := leasedTo_iff.mp hleased
  refine ⟨⟨r, hr, hleased⟩, _, List.mem_map.mpr ⟨r, hr, if_pos hhit⟩, ?_, ?_, hended r hi⟩
  · rw [w.sets_id, hid]
  · rw [TaskWrite.sets_token hlease, htoken]

/-! ## Handing leases over -/

/-- The lease was claimed in the trace. -/
def ClaimedIn (tr : Trace taskMachine) (lease : TaskLease) : Prop :=
  ∃ x ∈ tr, TaskStmt.claimed x.1 x.2 = some lease

/-- A claim that has happened has happened. -/
theorem ClaimedIn.mono {tr tr' : Trace taskMachine} {lease : TaskLease}
    (h : ClaimedIn tr lease) (hpre : tr <+: tr') : ClaimedIn tr' lease := by
  obtain ⟨x, hx, hclaimed⟩ := h
  exact ⟨x, hpre.subset hx, hclaimed⟩

/-- No lease was handed over in the trace. -/
def NothingGiven (tr : Trace taskMachine) : Prop :=
  ∀ x ∈ tr, ∀ leases, x.1 ≠ .handOver leases

/-- What is handed over was claimed by the same call, each lease once, and only
once. -/
def HandsOverClaimed (tr : Trace taskMachine) : TaskStmt → Prop
  | .handOver leases => leases.Nodup ∧ (∀ lease ∈ leases, ClaimedIn tr lease) ∧ NothingGiven tr
  | _ => True

/-- An ordinary statement hands over what was claimed. -/
theorem TaskStmt.Ordinary.handsOver {forge : Forge} {i : TaskStmt} (h : i.Ordinary forge) (tr : Trace taskMachine) :
    HandsOverClaimed tr i := by
  cases i with
  | handOver leases => exact h.elim
  | _ => trivial

/-- Rows advance; claims are sound and hand over what they have claimed. -/
def leaseDiscipline : Discipline taskMachine where
  inv _ := True
  rely := TasksAdvance
  own _ _ _ := True
  guar tr i _ := TaskStmt.Sound i ∧ HandsOverClaimed tr i
  refl s := .refl Advances.refl s.tasks
  trans _ _ _ := .trans Advances.trans
  step _ _ s _ _ hguar := ⟨True.intro, exec_advances hguar.1 s⟩

section Claiming

variable {tr : Trace taskMachine} {s : TaskState}

/-- What the loop knows about the leases it has claimed so far. -/
structure Claims (claimed : List TaskLease) (tr : Trace taskMachine) (s : TaskState) : Prop where
  nodup : claimed.Nodup
  origin : ∀ lease ∈ claimed, ClaimedIn tr lease
  given : NothingGiven tr
  known : ∀ lease ∈ claimed, lease.taskId < s.tasks.seq
  passed : ∀ lease ∈ claimed, ∀ r ∈ s.tasks.rows, r.id = lease.taskId →
    lease.processingToken ≤ r.processingToken

/-- Claims stay what they are while others advance the tasks. -/
theorem Claims.of_rely {claimed : List TaskLease} {s' : TaskState} (h : Claims claimed tr s)
    (hs : TasksAdvance s s') : Claims claimed tr s' := by
  refine ⟨h.nodup, h.origin, h.given, fun lease hlease => ?_, fun lease hlease r hr hid => ?_⟩
  · exact Nat.lt_of_lt_of_le (h.known lease hlease) hs.seq
  · have hlt : taskSchema.ident r < s.tasks.seq := by
      show r.id < s.tasks.seq
      rw [hid]
      exact h.known lease hlease
    obtain ⟨r₀, hr₀, hid₀, hadv⟩ := hs.rows r hr hlt
    have hid₀ : r₀.id = r.id := hid₀
    have hle := h.passed lease hlease r₀ hr₀ (hid₀.trans hid)
    have hadv := hadv.token_le
    omega

/-- One more statement that hands nothing over. -/
theorem Claims.observe {claimed : List TaskLease} (h : Claims claimed tr s) {i : TaskStmt}
    (hi : i.Sound) (hgive : ∀ leases, i ≠ .handOver leases) :
    Claims claimed (tr ++ [(i, s)]) (i.exec s).2 := by
  have hnext := h.of_rely (exec_advances hi s)
  refine ⟨h.nodup, fun lease hlease => ?_, fun x hx leases => ?_, hnext.known, hnext.passed⟩
  · exact (h.origin lease hlease).mono (List.prefix_append _ _)
  · rcases List.mem_append.mp hx with hx | hx
    · exact h.given x hx leases
    · rw [List.mem_singleton.mp hx]
      exact hgive leases

/-- One more lease. -/
theorem Claims.claim {claimed : List TaskLease} (h : Claims claimed tr s) {i : TaskStmt}
    (hi : i.Sound) (hgive : ∀ leases, i ≠ .handOver leases) {lease : TaskLease}
    (hclaim : i.claimed s = some lease) :
    Claims (claimed ++ [lease]) (tr ++ [(i, s)]) (i.exec s).2 := by
  have hnext := h.observe hi hgive
  obtain ⟨⟨r, hr, hid, htoken⟩, r', hr', hid', htoken'⟩ := TaskStmt.of_claimed hi hclaim
  refine ⟨?_, fun l hl => ?_, hnext.given, fun l hl => ?_, fun l hl row hrow hrowid => ?_⟩
  · rw [List.nodup_append]
    refine ⟨h.nodup, by simp, fun l hl m hm heq => ?_⟩
    rw [List.mem_singleton.mp hm] at heq
    -- a lease that was claimed before has been passed by the row
    have hle := h.passed l hl r hr (by rw [hid, heq])
    rw [heq] at hle
    omega
  · rcases List.mem_append.mp hl with hl | hl
    · exact hnext.origin l hl
    · rw [List.mem_singleton.mp hl]
      exact ⟨(i, s), by simp, hclaim⟩
  · rcases List.mem_append.mp hl with hl | hl
    · exact hnext.known l hl
    · rw [List.mem_singleton.mp hl, ← hid']
      exact (i.exec s).2.tasks.fresh r' hr'
  · rcases List.mem_append.mp hl with hl | hl
    · exact hnext.passed l hl row hrow hrowid
    · rw [List.mem_singleton.mp hl] at hrowid ⊢
      have hrow' : row = r' :=
        (i.exec s).2.tasks.eq_of_ident hrow hr' (hrowid.trans hid'.symm)
      subst hrow'
      exact Int.le_of_eq htoken'.symm

/-- **The loop of a claim** adds leases that were just claimed. -/
theorem ensures_claimLoop (available claimedAt leaseExpiresAt : Nat)
    (candidates : List TaskClaimCandidate) (claimed : List TaskLease)
    (h : Claims claimed tr s) :
    (claimLoop available claimedAt leaseExpiresAt candidates claimed).Ensures leaseDiscipline
      (OnOk fun leases tr s => Claims leases tr s) tr s := by
  induction candidates generalizing claimed tr s with
  | nil =>
      intro s' hs _ leases hleases
      cases hleases
      exact h.of_rely hs
  | cons candidate rest ih =>
      unfold claimLoop
      split
      · intro s' hs _ leases hleases
        cases hleases
        exact h.of_rely hs
      · have hsound : TaskStmt.Sound (.write (.tryClaim candidate.taskId
            candidate.expectedProcessingToken claimedAt candidate.nextProcessingToken
            leaseExpiresAt)) := candidate.next_eq
        refine Ensures.stmt_bind fun s' hs _ _ => ⟨⟨hsound, True.intro⟩, fun _ => ?_⟩
        have hs' := h.of_rely hs
        refine ih _ ?_
        split
        · next hclaim =>
            refine hs'.claim hsound (fun _ => nofun) ?_
            have hone : (s'.tasks.select (TaskWrite.tryClaim candidate.taskId
                candidate.expectedProcessingToken claimedAt candidate.nextProcessingToken
                leaseExpiresAt).hits).length = 1 := of_decide_eq_true hclaim
            simp [TaskStmt.claimed, TaskStmt.update, hone]
        · exact hs'.observe hsound fun _ => nofun

/-- It starts with none. -/
theorem claims_nil (h : NothingGiven tr) : Claims [] tr s :=
  ⟨List.nodup_nil, by simp, h, by simp, by simp⟩

/-- A step that hands nothing over, before the claims. -/
theorem nothingGiven_append (h : NothingGiven tr) {i : TaskStmt}
    (hi : ∀ leases, i ≠ .handOver leases) : NothingGiven (tr ++ [(i, s)]) := by
  intro x hx
  rcases List.mem_append.mp hx with hx | hx
  · exact h x hx
  · rw [List.mem_singleton.mp hx]
    exact hi

/-- So the candidates of a lane are claimed one by one. -/
theorem ensures_claimCandidates (forge : Forge) (lane : TaskLaneConfig)
    (candidates : List TaskClaimCandidate) (claimedAt leaseExpiresAt : Nat)
    (h : NothingGiven tr) :
    (claimCandidatesForLane forge lane candidates claimedAt leaseExpiresAt).Ensures
      leaseDiscipline (OnOk fun leases tr s => Claims leases tr s) tr s := by
  unfold claimCandidatesForLane
  split
  · intro s' _ _ leases hleases
    cases hleases
    exact claims_nil h
  · refine Ensures.stmt_bind fun s₁ _ _ _ => ⟨⟨True.intro, True.intro⟩, fun _ => ?_⟩
    have h₁ := nothingGiven_append (s := s₁) h (i := .lockByKey) (fun _ => nofun)
    refine Ensures.stmt_bind fun s₂ _ _ _ => ⟨⟨True.intro, True.intro⟩, fun _ => ?_⟩
    have h₂ := nothingGiven_append (s := s₂) h₁
      (i := .countActiveProcessingByKinds claimedAt lane.kinds) (fun _ => nofun)
    refine Ensures.bind_ok True.intro (ensures_claimLoop _ _ _ candidates [] (claims_nil h₂))
      fun claimed tr s _ hclaims => ?_
    refine Ensures.stmt_bind fun s₃ hs₃ _ _ => ⟨⟨True.intro, True.intro⟩, fun _ => ?_⟩
    have h₃ := (hclaims.of_rely hs₃).observe (i := .commit) True.intro fun _ => nofun
    intro s' hs' _ leases hleases
    cases hleases
    exact h₃.of_rely hs'

/-- And a lane hands over what it has claimed. -/
theorem ensures_claimDue (forge : Forge) (lane : TaskLaneConfig)
    (candidates : List TaskClaimCandidate) :
    (claimDueForLane forge lane candidates).Ensures leaseDiscipline
      (OnOk fun _ _ _ => True) [] s := by
  refine Ensures.stmt_bind fun s₁ _ _ _ => ⟨⟨True.intro, True.intro⟩, fun _ => ?_⟩
  have hnothing : NothingGiven [] := by simp [NothingGiven]
  have h₁ := nothingGiven_append (s := s₁) hnothing (i := .clock) (fun _ => nofun)
  refine Ensures.bind_ok True.intro (ensures_claimCandidates forge lane candidates _ _ h₁)
    fun claimed tr s _ hclaims => ?_
  intro s' _ _ _
  exact ⟨⟨True.intro, hclaims.nodup, hclaims.origin, hclaims.given⟩,
    fun _ _ _ _ _ => True.intro⟩

/-- Every call keeps the discipline. -/
theorem ensures_call (forge : Forge) (lane : TaskLaneConfig) (call : Call) (s : TaskState) :
    (call.body forge lane).Ensures leaseDiscipline (fun _ _ _ => True) [] s := by
  by_cases h : ∃ candidates, call = .claimDue candidates
  · obtain ⟨candidates, rfl⟩ := h
    exact (ensures_claimDue forge lane candidates).mono fun _ _ _ _ => True.intro
  · refine Ensures.of_within (D := leaseDiscipline) (P := TaskStmt.Ordinary forge)
      (fun tr i s hi _ _ => ⟨hi.sound forge, hi.handsOver tr⟩) ?_ [] s
    exact ordinary_call forge lane fun candidates heq => h ⟨candidates, heq⟩

end Claiming

/-! ## What one event does to a row -/

/-- The token that an update asks for: the lease of a worker, or the token that a
claim expects. -/
def TaskWrite.carries : TaskWrite → Option TaskLease
  | .tryClaim id expected _ _ _ => some ⟨id, expected⟩
  | w => w.lease

/-- A write that carries a lease hits the row with its token. -/
theorem TaskWrite.of_carries {w : TaskWrite} {lease : TaskLease} (h : w.carries = some lease)
    {r : BackgroundTask} (hr : w.hits r = true) :
    r.id = lease.taskId ∧ r.processingToken = lease.processingToken := by
  cases hlease : w.lease with
  | some lease' =>
      have heq : lease' = lease := by
        cases w with
        | tryClaim => cases hlease
        | _ => exact Option.some.inj (hlease.symm.trans h)
      rw [TaskWrite.hits_of_lease hlease, heq] at hr
      obtain ⟨hid, -, htoken⟩ := leasedTo_iff.mp hr
      exact ⟨hid, htoken⟩
  | none =>
      cases w with
      | tryClaim id expected now next leaseExpiresAt =>
          cases h
          simp only [TaskWrite.hits, Bool.and_eq_true, decide_eq_true_eq] at hr
          exact hr.1
      | resetForManualRetry => cases h
      | refreshSystemRuntimeSuccess => cases h
      | _ => cases hlease

/-- A row after a statement is an old row, an updated one, or a new one. -/
theorem exec_row_cases {i : TaskStmt} {s : TaskState} {r' : BackgroundTask}
    (h : r' ∈ (i.exec s).2.tasks.rows) :
    r' ∈ s.tasks.rows ∨
    (∃ w r, i = .write w ∧ r ∈ s.tasks.rows ∧ w.hits r = true ∧ r' = w.sets r) ∨
    ∃ input, r' = newTask s.tasks.seq input := by
  cases i with
  | write w =>
      obtain ⟨r, hr, rfl⟩ := List.mem_map.mp h
      by_cases hhit : w.hits r = true
      · exact Or.inr (Or.inl ⟨w, r, rfl, hr, hhit, if_pos hhit⟩)
      · rw [if_neg hhit]
        exact Or.inl hr
  | create input =>
      simp only [TaskStmt.exec] at h
      split at h
      · next tasks hinsert =>
          rw [(Table.insert?_eq_some hinsert).1, List.mem_append, List.mem_singleton] at h
          rcases h with h | h
          · exact Or.inl h
          · exact Or.inr (Or.inr ⟨input, h⟩)
      · exact Or.inl h
  | deleteTerminalByFilters filters => exact Or.inl (List.mem_filter.mp h).1
  | _ => exact Or.inl h

/-- The row with the id of an old row is the old row, or its update. -/
theorem exec_row_of_id {i : TaskStmt} {s : TaskState} {r r' : BackgroundTask}
    (hr : r ∈ s.tasks.rows) (hr' : r' ∈ (i.exec s).2.tasks.rows) (hid : r.id = r'.id) :
    r' = r ∨ ∃ w, i = .write w ∧ w.hits r = true ∧ r' = w.sets r := by
  rcases exec_row_cases hr' with hold | ⟨w, r₀, rfl, hr₀, hhit, rfl⟩ | ⟨input, rfl⟩
  · exact Or.inl (s.tasks.eq_of_ident hold hr hid.symm)
  · rw [w.sets_id] at hid
    rw [s.tasks.eq_of_ident hr hr₀ hid]
    exact Or.inr ⟨w, rfl, hhit, rfl⟩
  · have hlt : r.id < s.tasks.seq := s.tasks.fresh r hr
    have hnew : (newTask s.tasks.seq input).id = s.tasks.seq := rfl
    omega

/-- A write with a token that the row has passed changes nothing. -/
theorem stale_write {w : TaskWrite} {lease : TaskLease} (hw : w.carries = some lease)
    {s : TaskState} {r : BackgroundTask} (hr : r ∈ s.tasks.rows) (hid : r.id = lease.taskId)
    (hlt : lease.processingToken < r.processingToken) :
    (s.update w).tasks.rows = s.tasks.rows := by
  have hmiss : ∀ r' ∈ s.tasks.rows, (if w.hits r' then w.sets r' else r') = r' := by
    intro r' hr'
    refine if_neg fun hhit => ?_
    obtain ⟨hid', htoken'⟩ := TaskWrite.of_carries hw hhit
    rw [s.tasks.eq_of_ident hr' hr (hid'.trans hid.symm)] at htoken'
    omega
  show s.tasks.rows.map (fun r => if w.hits r then w.sets r else r) = s.tasks.rows
  exact (List.map_congr_left hmiss).trans (List.map_id _)

/-- Only a manual retry takes a task out of a terminal status, and only a failed
one. -/
theorem leaves_terminal {w : TaskWrite} {r : BackgroundTask} (hhit : w.hits r = true)
    (hterminal : r.status.isTerminal = true) (hleaves : (w.sets r).status ≠ r.status) :
    r.status = .failed ∧ ∃ now maxAttempts stepsJson,
      w = .resetForManualRetry r.id now maxAttempts stepsJson := by
  cases hlease : w.lease with
  | some lease =>
      rw [TaskWrite.hits_of_lease hlease] at hhit
      rw [(leasedTo_iff.mp hhit).2.1] at hterminal
      cases hterminal
  | none =>
      cases w with
      | tryClaim id expected now next leaseExpiresAt =>
          simp only [TaskWrite.hits, BackgroundTask.claimable, BackgroundTask.processingStale,
            Bool.and_eq_true, Bool.or_eq_true, decide_eq_true_eq] at hhit
          rcases hhit.2 with ⟨hstatus | hstatus, -⟩ | ⟨hstatus, -⟩
          all_goals
            rw [hstatus] at hterminal
            cases hterminal
      | resetForManualRetry id now maxAttempts stepsJson =>
          simp only [TaskWrite.hits, Bool.and_eq_true, decide_eq_true_eq] at hhit
          exact ⟨hhit.2, now, maxAttempts, stepsJson, by rw [hhit.1]⟩
      | refreshSystemRuntimeSuccess refresh =>
          simp only [TaskWrite.hits, Bool.and_eq_true, decide_eq_true_eq] at hhit
          exact absurd hhit.2.symm hleaves
      | _ => cases hlease

/-! ## Every interleaving -/

/-- Dispatchers, workers and administrators at work. -/
abbrev TaskPool := Config taskMachine TaskError Call Unit

section Runs

open Config

variable {forge : Forge} {lane : TaskLaneConfig} {s₀ : TaskState} {sched : List (Action Call)}
  {c : TaskPool}

/-- A pool in which everybody keeps the discipline of leases. -/
abbrev GoodTasks (c : TaskPool) : Prop := Good leaseDiscipline (fun _ _ _ _ _ => True) c

/-- In every run the tasks only advance. -/
theorem good_tasks (hc : c = (initial s₀).runs (Call.body forge lane) sched) : GoodTasks c := by
  rw [hc]
  exact good_runs (G := fun _ _ _ => True) (fun _ _ _ _ _ => True.intro)
    (fun _ call s _ => ensures_call forge lane call s) (good_initial True.intro)
    (admissible_of_forall (fun _ _ _ => True.intro) _ _)

/-- And every statement of it was sound. -/
theorem sound_of_mem (hgood : GoodTasks c) {e : TaskEvent} (he : e ∈ c.log) :
    TaskStmt.Sound e.stmt := by
  obtain ⟨-, -, tr, -, -, hguar⟩ := hgood.events e he
  exact hguar.1

/-- No lease is claimed twice. -/
theorem claims_once (hgood : GoodTasks c) : c.log.Pairwise fun a b =>
    ∀ lease, TaskEvent.claimed a = some lease → TaskEvent.claimed b ≠ some lease := by
  refine hgood.linked.imp_of_mem fun {a b} ha hb hlink lease hca hcb => ?_
  obtain ⟨-, r', hr', hid', htoken'⟩ := TaskStmt.of_claimed (sound_of_mem hgood ha) hca
  obtain ⟨⟨r, hr, hid, htoken⟩, -⟩ := TaskStmt.of_claimed (sound_of_mem hgood hb) hcb
  have hadv : Advances r' r := hlink.row hr' hr (hid'.trans hid.symm)
  have hle := hadv.token_le
  omega

/-- No lease ends twice. -/
theorem outcomes_once (hgood : GoodTasks c) : c.log.Pairwise fun a b =>
    ∀ lease, TaskEvent.outcome a = some lease → TaskEvent.outcome b ≠ some lease := by
  refine hgood.linked.imp_of_mem fun {a b} ha hb hlink lease hca hcb => ?_
  obtain ⟨-, r', hr', hid', htoken', hended⟩ :=
    TaskStmt.of_outcome (sound_of_mem hgood ha) hca
  obtain ⟨⟨r, hr, hleased⟩, -⟩ := TaskStmt.of_outcome (sound_of_mem hgood hb) hcb
  obtain ⟨hid, hprocessing, htoken⟩ := leasedTo_iff.mp hleased
  rcases hlink.row hr' hr (hid'.trans hid.symm) with hlt | ⟨-, hstays⟩
  · omega
  · exact hstays hended hprocessing

/-- What is known about the leases in the hands of workers. -/
structure HeldOnce (c : TaskPool) : Prop where
  nodup : c.shared.leases.Nodup
  given : ∀ lease ∈ c.shared.leases, ∃ e ∈ c.log, ∃ leases,
    e.stmt = .handOver leases ∧ lease ∈ leases
  claimed : ∀ e ∈ c.log, ∀ leases, e.stmt = .handOver leases → ∀ lease ∈ leases,
    ∃ a ∈ c.log, a.tid = e.tid ∧ TaskEvent.claimed a = some lease

/-- Only handing leases over adds to them. -/
theorem exec_leases {i : TaskStmt} (h : ∀ leases, i ≠ .handOver leases) (s : TaskState) :
    (i.exec s).2.leases = s.leases := by
  cases i with
  | handOver leases => exact absurd rfl (h leases)
  | create input =>
      simp only [TaskStmt.exec]
      split <;> rfl
  | _ => rfl

/-- **A lease has one holder.** -/
theorem heldOnce_runs (hleases : s₀.leases = [])
    (hc : c = (initial s₀).runs (Call.body forge lane) sched) : HeldOnce c := by
  rw [hc]
  refine good_runs_inv (D := leaseDiscipline) (Q := fun _ _ _ _ _ => True)
    (G := fun _ _ _ => True) (P := HeldOnce) (fun _ _ _ _ _ => True.intro)
    (fun _ call s _ => ensures_call forge lane call s) ?_ ?_ (good_initial True.intro) ?_
    (admissible_of_forall (fun _ _ _ => True.intro) _ _)
  · intro c call h
    exact ⟨h.nodup, h.given, h.claimed⟩
  · intro c i call st k hgood h hth hen _ hguar
    have hclaimed : ∀ lease, ClaimedIn (c.trace i) lease →
        ∃ a ∈ c.log, a.tid = i ∧ TaskEvent.claimed a = some lease := by
      rintro lease ⟨⟨st', s'⟩, hx, hclaim⟩
      obtain ⟨a, ha, htid, rfl, rfl⟩ := mem_trace.mp hx
      exact ⟨a, ha, htid, hclaim⟩
    by_cases hgive : ∃ leases, st = .handOver leases
    · obtain ⟨leases, rfl⟩ := hgive
      obtain ⟨-, hnodup, horigin, hnone⟩ := hguar
      refine ⟨?_, fun lease hlease => ?_, fun e he leases' hstmt lease hlease => ?_⟩
      · refine List.nodup_append.mpr ⟨h.nodup, hnodup, fun lease hold lease' hnew heq => ?_⟩
        subst heq
        -- both were claimed in one event, so by one call, which has given it away before
        obtain ⟨e, he, leases', hstmt, hmem⟩ := h.given lease hold
        obtain ⟨a, ha, htid, hca⟩ := h.claimed e he leases' hstmt lease hmem
        obtain ⟨b, hb, htid', hcb⟩ := hclaimed lease (horigin lease hnew)
        have heq := eq_of_pairwise_ne (claims_once hgood) ha hb hca hcb
        have htid'' : e.tid = i := by rw [← htid, heq, htid']
        exact hnone (e.stmt, e.pre) (mem_trace.mpr ⟨e, he, htid'', rfl, rfl⟩) leases' hstmt
      · rcases List.mem_append.mp hlease with hlease | hlease
        · obtain ⟨e, he, hgiven⟩ := h.given lease hlease
          exact ⟨e, List.mem_append_left _ he, hgiven⟩
        · exact ⟨_, List.mem_append_right _ (List.mem_singleton_self _), leases, rfl, hlease⟩
      · rcases List.mem_append.mp he with he | he
        · obtain ⟨a, ha, hclaim⟩ := h.claimed e he leases' hstmt lease hlease
          exact ⟨a, List.mem_append_left _ ha, hclaim⟩
        · rw [List.mem_singleton.mp he] at hstmt ⊢
          cases hstmt
          obtain ⟨a, ha, hclaim⟩ := hclaimed lease (horigin lease hlease)
          exact ⟨a, List.mem_append_left _ ha, hclaim⟩
    · have hstay : (TaskStmt.exec st c.shared).2.leases = c.shared.leases :=
        exec_leases (fun leases heq => hgive ⟨leases, heq⟩) c.shared
      refine ⟨?_, fun lease hlease => ?_, fun e he leases' hstmt lease hlease => ?_⟩
      · rw [hstay]
        exact h.nodup
      · rw [hstay] at hlease
        obtain ⟨e, he, hgiven⟩ := h.given lease hlease
        exact ⟨e, List.mem_append_left _ he, hgiven⟩
      · rcases List.mem_append.mp he with he | he
        · obtain ⟨a, ha, hclaim⟩ := h.claimed e he leases' hstmt lease hlease
          exact ⟨a, List.mem_append_left _ ha, hclaim⟩
        · rw [List.mem_singleton.mp he] at hstmt
          exact absurd ⟨leases', hstmt⟩ hgive
  · exact ⟨by simp [initial, hleases], by simp [initial, hleases], by simp [initial]⟩

/-- **Leases are safe.**  For every interleaving of dispatchers, workers and
administrators, and however much time passes between two steps:

* the token of a task never goes down, and every claim raises it by one;
* no lease is claimed twice, and the leases in the hands of workers are different
  and were claimed;
* a write with a token older than the row's leaves the rows as they are;
* no lease ends in two outcomes;
* a task leaves a terminal status only through a manual retry of a failure. -/
theorem lease_safety (hleases : s₀.leases = []) {before later : List (Action Call)}
    {c₁ c₂ : TaskPool} (hc₁ : c₁ = (initial s₀).runs (Call.body forge lane) before)
    (hc₂ : c₂ = c₁.runs (Call.body forge lane) later) :
    (∀ r ∈ c₁.shared.tasks.rows, ∀ r' ∈ c₂.shared.tasks.rows, r.id = r'.id →
      r.processingToken ≤ r'.processingToken) ∧
    (∀ e ∈ c₂.log, ∀ lease, TaskEvent.claimed e = some lease →
      ∀ r ∈ e.pre.tasks.rows, ∀ r' ∈ e.post.tasks.rows, r.id = lease.taskId →
      r'.id = lease.taskId → r'.processingToken = lease.processingToken ∧
        r'.processingToken = r.processingToken + 1) ∧
    ((c₂.log.Pairwise fun a b => ∀ lease, TaskEvent.claimed a = some lease →
        TaskEvent.claimed b ≠ some lease) ∧
      c₂.shared.leases.Nodup ∧
      ∀ lease ∈ c₂.shared.leases, ∃ e ∈ c₂.log, TaskEvent.claimed e = some lease) ∧
    (∀ e ∈ c₂.log, ∀ w lease, e.stmt = .write w → w.carries = some lease →
      ∀ r ∈ e.pre.tasks.rows, r.id = lease.taskId →
      lease.processingToken < r.processingToken →
      e.post.tasks.rows = e.pre.tasks.rows) ∧
    (c₂.log.Pairwise fun a b => ∀ lease, TaskEvent.outcome a = some lease →
      TaskEvent.outcome b ≠ some lease) ∧
    (∀ e ∈ c₂.log, ∀ r ∈ e.pre.tasks.rows, ∀ r' ∈ e.post.tasks.rows, r.id = r'.id →
      r.status.isTerminal = true → r'.status ≠ r.status → r.status = .failed ∧
        ∃ now maxAttempts stepsJson,
          e.stmt = .write (.resetForManualRetry r.id now maxAttempts stepsJson)) := by
  have hrun : c₂ = (initial s₀).runs (Call.body forge lane) (before ++ later) := by
    rw [runs_append, hc₂, hc₁]
  have hgood := good_tasks hrun
  have hheld := heldOnce_runs hleases hrun
  refine ⟨fun r hr r' hr' hid => ?_, fun e he lease hclaim r hr r' hr' hid hid' => ?_,
    ⟨claims_once hgood, hheld.nodup, fun lease hlease => ?_⟩,
    fun e he w lease hstmt hcarries r hr hid hlt => ?_, outcomes_once hgood,
    fun e he r hr r' hr' hid hterminal hleaves => ?_⟩
  · have hlater := (good_runs_later (G := fun _ _ _ => True) (D := leaseDiscipline)
      (fun _ _ _ _ _ => True.intro) (fun _ call s _ => ensures_call forge lane call s)
      (good_tasks hc₁) (admissible_of_forall (fun _ _ _ => True.intro) c₁ later)).shared
    rw [← hc₂] at hlater
    exact (hlater.row hr hr' hid).token_le
  · obtain ⟨⟨r₁, hr₁, hid₁, htoken₁⟩, r₂, hr₂, hid₂, htoken₂⟩ :=
      TaskStmt.of_claimed (sound_of_mem hgood he) hclaim
    rw [e.pre.tasks.eq_of_ident hr hr₁ (hid.trans hid₁.symm),
      e.post.tasks.eq_of_ident hr' hr₂ (hid'.trans hid₂.symm)]
    exact ⟨htoken₂, by omega⟩
  · obtain ⟨e, he, leases, hstmt, hmem⟩ := hheld.given lease hlease
    obtain ⟨a, ha, -, hclaim⟩ := hheld.claimed e he leases hstmt lease hmem
    exact ⟨a, ha, hclaim⟩
  · show (TaskStmt.exec e.stmt e.pre).2.tasks.rows = e.pre.tasks.rows
    rw [hstmt]
    exact stale_write hcarries hr hid hlt
  · rcases exec_row_of_id hr hr' hid with rfl | ⟨w, hstmt, hhit, rfl⟩
    · exact absurd rfl hleaves
    · obtain ⟨hfailed, now, maxAttempts, stepsJson, rfl⟩ := leaves_terminal hhit hterminal hleaves
      exact ⟨hfailed, now, maxAttempts, stepsJson, hstmt⟩

/-- The task library, as far as small runs need it. -/
def plainForge : Forge where
  taskLeaseExpiresAt now secs := now + secs * 1000
  availableLaneCapacity limit active := limit - active
  truncateUtf8ToMaxBytes value _ := value
  taskLeaseRenewalTimeout staleSecs heartbeatSecs := (staleSecs - heartbeatSecs) * 1000
  ensureActive timeout calls now := (trustedSince calls).any fun time => now < time + timeout

/-- A new task that is due. -/
def dueTask : CreateTask :=
  ⟨.systemRuntime, .pending, "task", none, none, 0, 1, none, 3, 0, none, none, none, none, 0, 0, 0⟩

/-- No task yet. -/
def noTasks : TaskState := ⟨0, .empty, false, [], fun _ => []⟩

/-- A lane with room for one task. -/
def smallLane : TaskLaneConfig := ⟨[.systemRuntime], 1⟩

def taskRun (sched : List (Action Call)) : TaskPool :=
  (initial noTasks).runs (Call.body plainForge smallLane) sched

/-- A task that nobody has claimed yet. -/
def unclaimed (id : Nat) : TaskClaimCandidate := ⟨id, 0, 1, rfl⟩

/-- The first claim of the first task. -/
def firstClaim : Call := .claimDue [unclaimed 1]

/-- Two dispatchers have seen one task; a worker finishes it. -/
def claimRace : List (Action Call) :=
  [.spawn (.create dueTask), .run 0, .spawn firstClaim, .spawn firstClaim, .run 1, .run 2] ++
    List.replicate 5 (.run 1) ++ List.replicate 5 (.run 2) ++
    .spawn (.worker 0 [.succeed none 1 1 none "" 0]) :: List.replicate 5 (.run 3)

/-- One of them gets the lease, and the task ends once. -/
theorem lease_safety_race :
    (taskRun claimRace).shared.leases = [⟨1, 1⟩] ∧
    ((taskRun claimRace).shared.tasks.rows.map fun r => (r.processingToken, r.status)) =
      [(1, .succeeded)] ∧
    (taskRun claimRace).log.Pairwise fun a b => ∀ lease,
      TaskEvent.outcome a = some lease → TaskEvent.outcome b ≠ some lease := by
  have hruns : taskRun claimRace =
      (taskRun claimRace).runs (Call.body plainForge smallLane) [] := rfl
  have hsafe := lease_safety (by rfl : noTasks.leases = []) (rfl : taskRun claimRace = _) hruns
  exact ⟨by decide +kernel, by decide +kernel, hsafe.2.2.2.2.1⟩

end Runs

end AsterYggdrasil.Task
