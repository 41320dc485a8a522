import AsterYggdrasil.Task.Rows

/-!
# Dispatchers and workers

A dispatcher claims due tasks of a lane in one transaction that holds a row lock;
the claimed leases are handed to workers.  A worker writes progress, its runtime
data and finally the outcome under its lease, and keeps a lease guard in memory
that it renews with every write that went through.

The guard, the choice of the candidates and the loop around a worker belong to the
task library.  What the library computes is a parameter here (`Forge`); what it
chooses (the candidates of a claim, the order of a worker's calls) is part of the
call.
-/

namespace AsterYggdrasil.Task

open Interleave Relational

/-- The functions of the task library.  `ensureActive` is the answer of a guard, made
with this renewal timeout, after these calls and at this time. -/
structure Forge where
  taskLeaseExpiresAt : Nat → Nat → Nat
  availableLaneCapacity : Nat → Nat → Nat
  truncateUtf8ToMaxBytes : String → Nat → String
  taskLeaseRenewalTimeout : Nat → Nat → Nat
  ensureActive : Nat → List GuardCall → Nat → Bool

inductive TaskError
  | leaseLost (lease : TaskLease)
  | recordNotFound (message : String)
  | validation (message : String)
  | internal (message : String)
  deriving DecidableEq, Repr

/-- Programs of dispatchers and workers. -/
abbrev TaskProg := Prog taskSignature TaskError

/-- One step. -/
def sql (i : TaskStmt) : TaskProg i.Reply := Prog.stmt (S := taskSignature) i

/-- `Utc::now`. -/
def utcNow : TaskProg Nat := sql .clock

/-- `TASK_PROCESSING_STALE_SECS`. -/
def taskProcessingStaleSecs : Nat := 60

/-- `TASK_HEARTBEAT_INTERVAL_SECS`. -/
def taskHeartbeatIntervalSecs : Nat := 10

def taskDisplayNameMaxLen : Nat := 512

def taskStatusTextMaxLen : Nat := 255

/-! ## Claiming -/

/-- A task that a dispatcher has seen; the next token is the token read plus one. -/
structure TaskClaimCandidate where
  taskId : Nat
  expectedProcessingToken : Int
  nextProcessingToken : Int
  next_eq : nextProcessingToken = expectedProcessingToken + 1

structure TaskLaneConfig where
  kinds : List BackgroundTaskKind
  limit : Nat
  deriving DecidableEq, Repr

section Forge

variable (forge : Forge)

/-- The loop of `claim_candidates_for_lane`: claim until the capacity is used up. -/
def claimLoop (available claimedAt leaseExpiresAt : Nat) :
    List TaskClaimCandidate → List TaskLease → TaskProg (List TaskLease)
  | [], claimed => .ok claimed
  | candidate :: rest, claimed =>
      if available ≤ claimed.length then .ok claimed
      else do
        let didClaim ← sql (.write (.tryClaim candidate.taskId
          candidate.expectedProcessingToken claimedAt candidate.nextProcessingToken
          leaseExpiresAt))
        claimLoop available claimedAt leaseExpiresAt rest
          (if didClaim then claimed ++ [⟨candidate.taskId, candidate.nextProcessingToken⟩]
            else claimed)

/-- `claim_candidates_for_lane`. -/
def claimCandidatesForLane (lane : TaskLaneConfig) (candidates : List TaskClaimCandidate)
    (claimedAt leaseExpiresAt : Nat) : TaskProg (List TaskLease) :=
  if candidates.isEmpty then .ok []
  else do
    sql .lockByKey
    let active ← sql (.countActiveProcessingByKinds claimedAt lane.kinds)
    let claimed ← claimLoop (forge.availableLaneCapacity lane.limit active) claimedAt
      leaseExpiresAt candidates []
    sql .commit
    pure claimed

/-- `claim_due_for_lane`, from the choice of the candidates on, and the start of the
workers. -/
def claimDueForLane (lane : TaskLaneConfig) (candidates : List TaskClaimCandidate) :
    TaskProg Unit := do
  let claimedAt ← utcNow
  let claimed ← claimCandidatesForLane forge lane candidates claimedAt
    (forge.taskLeaseExpiresAt claimedAt taskProcessingStaleSecs)
  sql (.handOver claimed)

/-! ## Working -/

/-- `task_lease_expires_at`. -/
def taskLeaseExpiresAt (now : Nat) : Nat :=
  forge.taskLeaseExpiresAt now taskProcessingStaleSecs

/-- `task_lease_renewal_timeout`, in milliseconds: how long a guard trusts a lease. -/
def taskLeaseRenewalTimeout : Nat :=
  forge.taskLeaseRenewalTimeout taskProcessingStaleSecs taskHeartbeatIntervalSecs

/-- After a write under a lease: the guard is renewed, or the lease is lost. -/
def afterWrite (lease : TaskLease) (updated : Bool) : TaskProg Unit :=
  if updated then sql (.recordRenewed lease)
  else do
    sql (.markLost lease)
    .err (.leaseLost lease)

/-- `truncate_status_text`. -/
def truncateStatusText (value : String) : String :=
  String.ofList (value.toList.take taskStatusTextMaxLen)

/-- `touch_task_heartbeat`, as the heartbeat loop calls it. -/
def touchTaskHeartbeat (lease : TaskLease) : TaskProg Unit := do
  let now ← utcNow
  let updated ← sql (.write (.touchHeartbeat lease now (taskLeaseExpiresAt forge now)))
  afterWrite lease updated

/-- `update_task_progress_db`. -/
def updateTaskProgressDb (lease : TaskLease) (current total : Int)
    (statusText : Option String) (stepsJson : String) : TaskProg Unit := do
  let now ← utcNow
  let updated ← sql (.write (.markProgress lease
    { now := now
      leaseExpiresAt := taskLeaseExpiresAt forge now
      current := current
      total := total
      statusText := statusText.map truncateStatusText
      stepsJson := some stepsJson }))
  afterWrite lease updated

/-- `set_task_runtime_json`. -/
def setTaskRuntimeJson (lease : TaskLease) (runtimeJson : Option String) :
    TaskProg Unit := do
  let now ← utcNow
  let updated ← sql (.write (.setRuntimeJson lease runtimeJson now))
  afterWrite lease updated

/-- `set_task_display_name`. -/
def setTaskDisplayName (lease : TaskLease) (displayName : String) : TaskProg Unit := do
  let now ← utcNow
  let updated ← sql (.write (.setDisplayName lease
    (forge.truncateUtf8ToMaxBytes displayName taskDisplayNameMaxLen) now))
  afterWrite lease updated

/-- `mark_task_succeeded`; `expiresIn` is the retention of the configuration. -/
def markTaskSucceeded (lease : TaskLease) (resultJson : Option String) (current total : Int)
    (statusText : Option String) (stepsJson : String) (expiresIn : Nat) : TaskProg Unit := do
  let now ← utcNow
  let updated ← sql (.write (.markSucceeded lease
    { resultJson := resultJson
      stepsJson := some stepsJson
      current := current
      total := total
      statusText := statusText.map truncateStatusText
      finishedAt := now
      expiresAt := now + expiresIn }))
  afterWrite lease updated

/-- `release_processing`. -/
def releaseProcessing (lease : TaskLease) (now : Nat) (status : BackgroundTaskStatus) :
    TaskProg Bool := do
  Prog.rejectIf (status ≠ .pending && status ≠ .retry)
    (.internal "released background task status must be pending or retry")
  sql (.write (.releaseProcessing lease now status))

/-- What a worker, or the library on its behalf, can do next. -/
inductive WorkerOp
  | heartbeat
  | progress (current total : Int) (statusText : Option String) (stepsJson : String)
  | runtimeJson (runtimeJson : Option String)
  | displayName (displayName : String)
  | succeed (resultJson : Option String) (current total : Int) (statusText : Option String)
      (stepsJson : String) (expiresIn : Nat)
  | retry (attemptCount : Int) (delay : Nat) (lastError : String) (stepsJson : Option String)
  | fail (attemptCount : Int) (lastError : String) (expiresIn : Nat)
      (stepsJson : Option String) (failureCanRetry : Bool)
  | release

def WorkerOp.body (lease : TaskLease) : WorkerOp → TaskProg Unit
  | .heartbeat => touchTaskHeartbeat forge lease
  | .progress current total statusText stepsJson =>
      updateTaskProgressDb forge lease current total statusText stepsJson
  | .runtimeJson json => setTaskRuntimeJson lease json
  | .displayName name => setTaskDisplayName forge lease name
  | .succeed resultJson current total statusText stepsJson expiresIn =>
      markTaskSucceeded lease resultJson current total statusText stepsJson expiresIn
  | .retry attemptCount delay lastError stepsJson => do
      let now ← utcNow
      let _ ← sql (.write (.markRetry lease
        ⟨attemptCount, now + delay, lastError, stepsJson, now⟩))
      pure ()
  | .fail attemptCount lastError expiresIn stepsJson failureCanRetry => do
      let now ← utcNow
      let _ ← sql (.write (.markFailed lease
        ⟨attemptCount, lastError, now, now + expiresIn, stepsJson, failureCanRetry⟩))
      pure ()
  | .release => do
      let now ← utcNow
      let _ ← releaseProcessing lease now .retry
      pure ()

/-- A worker takes one of the claimed leases and does its operations in order.  Two
workers on one lease are the heartbeat loop next to the processing of the task. -/
def worker (n : Nat) (ops : List WorkerOp) : TaskProg Unit := do
  match ← sql (.takeLease n) with
  | none => pure ()
  | some lease => do
      sql (.guardNew lease)
      Prog.forEach ops (WorkerOp.body forge lease)

end Forge

/-! ## Administration -/

/-- `task_can_retry`. -/
def taskCanRetry (task : BackgroundTask) : Bool :=
  task.status = .failed && task.failureCanRetry.getD true

/-- `retry_task_for_admin`; the steps and the attempts come from the registry. -/
def retryTaskForAdmin (taskId : Nat) (stepsJson : String) (maxAttempts : Int) :
    TaskProg Unit := do
  match ← sql (.findById taskId) with
  | none => .err (.recordNotFound s!"background_task #{taskId}")
  | some task => do
      Prog.rejectIf (task.status ≠ .failed) (.validation "only failed tasks can be retried")
      Prog.rejectIf (!taskCanRetry task) (.validation "this task failure cannot be retried")
      let now ← utcNow
      let reset ← sql (.write (.resetForManualRetry task.id now maxAttempts (some stepsJson)))
      Prog.rejectIf (!reset) (.internal s!"failed to reset task #{taskId} for retry")

/-- `cleanup_tasks_for_admin`. -/
def cleanupTasksForAdmin (filters : TerminalTaskCleanupFilters) : TaskProg Nat := do
  Prog.rejectIf (filters.status.any fun status => !status.isTerminal)
    (.validation "only completed task statuses can be cleaned up")
  sql (.deleteTerminalByFilters filters)

/-! ## Everything that happens to the table -/

inductive Call
  | claimDue (candidates : List TaskClaimCandidate)
  | worker (n : Nat) (ops : List WorkerOp)
  | retryForAdmin (taskId : Nat) (stepsJson : String) (maxAttempts : Int)
  | cleanup (filters : TerminalTaskCleanupFilters)
  | create (input : CreateTask)
  | refreshRuntime (refresh : SystemRuntimeSuccessRefresh)
  | wait (ms : Nat)

/-- The program of a call, with the lane the dispatchers serve. -/
def Call.body (forge : Forge) (lane : TaskLaneConfig) : Call → TaskProg Unit
  | .claimDue candidates => claimDueForLane forge lane candidates
  | .worker n ops => Task.worker forge n ops
  | .retryForAdmin taskId stepsJson maxAttempts =>
      retryTaskForAdmin taskId stepsJson maxAttempts
  | .cleanup filters => do
      let _ ← cleanupTasksForAdmin filters
      pure ()
  | .create input => do
      let _ ← sql (.create input)
      pure ()
  | .refreshRuntime refresh => do
      let _ ← sql (.write (.refreshSystemRuntimeSuccess refresh))
      pure ()
  | .wait ms => sql (.advanceClock ms)

end AsterYggdrasil.Task
