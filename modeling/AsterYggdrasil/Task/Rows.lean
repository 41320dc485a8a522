import AsterYggdrasil.Interleave.Pool
import AsterYggdrasil.Relational.Table
import Mathlib.Logic.Function.Basic

/-!
# The table of background tasks

A row of `background_tasks` is a task and, while somebody works on it, the lease
of that worker: a `processing_token` that grows with every claim, and the time at
which the lease runs out.  Every write of the repository is one update with its
own condition; `TaskWrite.hits` is the condition and `TaskWrite.sets` the columns,
so that the conditions can be compared.

Next to the table stand the row lock that serialises the claims of a lane, the
leases that were handed to workers, and what the workers have told the lease guards
they keep in memory.
-/

namespace AsterYggdrasil.Task

open Interleave Relational

inductive BackgroundTaskKind
  | systemRuntime
  deriving DecidableEq, Repr

inductive BackgroundTaskStatus
  | pending | processing | retry | succeeded | failed | canceled
  deriving DecidableEq, Repr

/-- `is_terminal`. -/
def BackgroundTaskStatus.isTerminal : BackgroundTaskStatus → Bool
  | .succeeded | .failed | .canceled => true
  | _ => false

/-- A row of `background_tasks`.  Times are milliseconds. -/
structure BackgroundTask where
  id : Nat
  kind : BackgroundTaskKind
  status : BackgroundTaskStatus
  displayName : String
  resultJson : Option String
  runtimeJson : Option String
  stepsJson : Option String
  progressCurrent : Int
  progressTotal : Int
  statusText : Option String
  attemptCount : Int
  maxAttempts : Int
  nextRunAt : Nat
  processingToken : Int
  processingStartedAt : Option Nat
  lastHeartbeatAt : Option Nat
  leaseExpiresAt : Option Nat
  startedAt : Option Nat
  finishedAt : Option Nat
  lastError : Option String
  failureCanRetry : Option Bool
  expiresAt : Nat
  createdAt : Nat
  updatedAt : Nat
  deriving DecidableEq, Repr

def taskSchema : Schema BackgroundTask where
  ident := BackgroundTask.id
  clash a b := a.id = b.id
  clash_symm a b := by
    rw [Bool.eq_iff_iff]
    simp [eq_comm]
  clash_of_ident a b h := by simpa using h

/-- What a worker shows for a write: the task and the token of its claim. -/
structure TaskLease where
  taskId : Nat
  processingToken : Int
  deriving DecidableEq, Repr

structure TaskProgressUpdate where
  now : Nat
  leaseExpiresAt : Nat
  current : Int
  total : Int
  statusText : Option String
  stepsJson : Option String
  deriving DecidableEq, Repr

structure TaskSuccessUpdate where
  resultJson : Option String
  stepsJson : Option String
  current : Int
  total : Int
  statusText : Option String
  finishedAt : Nat
  expiresAt : Nat
  deriving DecidableEq, Repr

structure TaskRetryUpdate where
  attemptCount : Int
  nextRunAt : Nat
  lastError : String
  stepsJson : Option String
  now : Nat
  deriving DecidableEq, Repr

structure TaskFailureUpdate where
  attemptCount : Int
  lastError : String
  finishedAt : Nat
  expiresAt : Nat
  stepsJson : Option String
  failureCanRetry : Bool
  deriving DecidableEq, Repr

structure SystemRuntimeSuccessRefresh where
  id : Nat
  resultJson : String
  statusText : Option String
  nextRunAt : Nat
  startedAt : Nat
  finishedAt : Nat
  expiresAt : Nat
  deriving DecidableEq, Repr

/-- The updates of the repository. -/
inductive TaskWrite
  | tryClaim (id : Nat) (expected : Int) (now : Nat) (next : Int) (leaseExpiresAt : Nat)
  | touchHeartbeat (lease : TaskLease) (now leaseExpiresAt : Nat)
  | markProgress (lease : TaskLease) (update : TaskProgressUpdate)
  | setRuntimeJson (lease : TaskLease) (runtimeJson : Option String) (now : Nat)
  | setDisplayName (lease : TaskLease) (displayName : String) (now : Nat)
  | markSucceeded (lease : TaskLease) (success : TaskSuccessUpdate)
  | markRetry (lease : TaskLease) (update : TaskRetryUpdate)
  | releaseProcessing (lease : TaskLease) (now : Nat) (status : BackgroundTaskStatus)
  | markFailed (lease : TaskLease) (update : TaskFailureUpdate)
  | resetForManualRetry (id now : Nat) (maxAttempts : Int) (stepsJson : Option String)
  | refreshSystemRuntimeSuccess (refresh : SystemRuntimeSuccessRefresh)
  deriving DecidableEq, Repr

/-- `processing_stale_condition`. -/
def BackgroundTask.processingStale (now : Nat) (r : BackgroundTask) : Bool :=
  r.status = .processing && r.leaseExpiresAt.any (fun t => t ≤ now)

/-- `claimable_condition`. -/
def BackgroundTask.claimable (now : Nat) (r : BackgroundTask) : Bool :=
  ((r.status = .pending || r.status = .retry) && r.nextRunAt ≤ now) ||
    r.processingStale now

/-- `active_processing_by_kinds_condition`. -/
def BackgroundTask.activeProcessing (now : Nat) (kinds : List BackgroundTaskKind)
    (r : BackgroundTask) : Bool :=
  r.status = .processing && r.leaseExpiresAt.any (fun t => now < t) && kinds.contains r.kind

/-- `id = ? AND status = 'processing' AND processing_token = ?`. -/
def BackgroundTask.leasedTo (lease : TaskLease) (r : BackgroundTask) : Bool :=
  r.id = lease.taskId && r.status = .processing && r.processingToken = lease.processingToken

/-- The lease whose token the update carries, if it is a worker's. -/
def TaskWrite.lease : TaskWrite → Option TaskLease
  | .touchHeartbeat lease _ _ | .markProgress lease _ | .setRuntimeJson lease _ _
  | .setDisplayName lease _ _ | .markSucceeded lease _ | .markRetry lease _
  | .releaseProcessing lease _ _ | .markFailed lease _ => some lease
  | _ => none

/-- The rows an update changes. -/
def TaskWrite.hits (w : TaskWrite) (r : BackgroundTask) : Bool :=
  match w with
  | .tryClaim id expected now _ _ =>
      r.id = id && r.processingToken = expected && r.claimable now
  | .touchHeartbeat lease _ _ | .markProgress lease _ | .setRuntimeJson lease _ _
  | .setDisplayName lease _ _ | .markSucceeded lease _ | .markRetry lease _
  | .releaseProcessing lease _ _ | .markFailed lease _ => r.leasedTo lease
  | .resetForManualRetry id _ _ _ => r.id = id && r.status = .failed
  | .refreshSystemRuntimeSuccess refresh =>
      r.id = refresh.id && r.kind = .systemRuntime && r.status = .succeeded

/-- The columns that every update which ends a lease clears. -/
def BackgroundTask.withoutLease (r : BackgroundTask) : BackgroundTask :=
  { r with processingStartedAt := none, lastHeartbeatAt := none, leaseExpiresAt := none }

/-- What an update writes over a row. -/
def TaskWrite.sets (w : TaskWrite) (r : BackgroundTask) : BackgroundTask :=
  match w with
  | .tryClaim _ _ now next leaseExpiresAt =>
      { r with
        status := .processing
        processingStartedAt := some now
        lastHeartbeatAt := some now
        processingToken := next
        leaseExpiresAt := some leaseExpiresAt
        startedAt := some (r.startedAt.getD now)
        updatedAt := now }
  | .touchHeartbeat _ now leaseExpiresAt =>
      { r with lastHeartbeatAt := some now, leaseExpiresAt := some leaseExpiresAt }
  | .markProgress _ update =>
      { r with
        progressCurrent := update.current
        progressTotal := update.total
        statusText := update.statusText
        lastHeartbeatAt := some update.now
        leaseExpiresAt := some update.leaseExpiresAt
        updatedAt := update.now
        stepsJson := update.stepsJson.orElse fun _ => r.stepsJson }
  | .setRuntimeJson _ runtimeJson now =>
      { r with runtimeJson := runtimeJson, updatedAt := now }
  | .setDisplayName _ displayName now =>
      { r with displayName := displayName, updatedAt := now }
  | .markSucceeded _ success =>
      { r.withoutLease with
        status := .succeeded
        resultJson := success.resultJson
        progressCurrent := success.current
        progressTotal := success.total
        statusText := success.statusText
        finishedAt := some success.finishedAt
        expiresAt := success.expiresAt
        updatedAt := success.finishedAt
        stepsJson := success.stepsJson.orElse fun _ => r.stepsJson }
  | .markRetry _ update =>
      { r.withoutLease with
        status := .retry
        attemptCount := update.attemptCount
        nextRunAt := update.nextRunAt
        statusText := none
        lastError := some update.lastError
        updatedAt := update.now
        stepsJson := update.stepsJson.orElse fun _ => r.stepsJson }
  | .releaseProcessing _ now status =>
      { r.withoutLease with
        status := status
        nextRunAt := now
        statusText := none
        updatedAt := now }
  | .markFailed _ update =>
      { r.withoutLease with
        status := .failed
        attemptCount := update.attemptCount
        statusText := none
        lastError := some update.lastError
        failureCanRetry := some update.failureCanRetry
        finishedAt := some update.finishedAt
        expiresAt := update.expiresAt
        updatedAt := update.finishedAt
        stepsJson := update.stepsJson.orElse fun _ => r.stepsJson }
  | .resetForManualRetry _ now maxAttempts stepsJson =>
      { r.withoutLease with
        status := .pending
        attemptCount := 0
        progressCurrent := 0
        maxAttempts := maxAttempts
        nextRunAt := now
        startedAt := none
        finishedAt := none
        statusText := none
        lastError := none
        resultJson := none
        failureCanRetry := none
        updatedAt := now
        stepsJson := stepsJson.orElse fun _ => r.stepsJson }
  | .refreshSystemRuntimeSuccess refresh =>
      { r.withoutLease with
        status := .succeeded
        resultJson := some refresh.resultJson
        progressCurrent := 1
        progressTotal := 1
        statusText := refresh.statusText
        nextRunAt := refresh.nextRunAt
        startedAt := some refresh.startedAt
        finishedAt := some refresh.finishedAt
        lastError := none
        failureCanRetry := none
        expiresAt := refresh.expiresAt
        updatedAt := refresh.finishedAt }

@[simp] theorem TaskWrite.sets_id (w : TaskWrite) (r : BackgroundTask) :
    (w.sets r).id = r.id := by
  cases w <;> rfl

@[simp] theorem TaskWrite.sets_kind (w : TaskWrite) (r : BackgroundTask) :
    (w.sets r).kind = r.kind := by
  cases w <;> rfl

/-- The columns of a new task that are not fixed by `into_active_model`. -/
structure CreateTask where
  kind : BackgroundTaskKind
  status : BackgroundTaskStatus
  displayName : String
  resultJson : Option String
  stepsJson : Option String
  progressCurrent : Int
  progressTotal : Int
  statusText : Option String
  maxAttempts : Int
  nextRunAt : Nat
  startedAt : Option Nat
  finishedAt : Option Nat
  lastError : Option String
  failureCanRetry : Option Bool
  expiresAt : Nat
  createdAt : Nat
  updatedAt : Nat
  deriving DecidableEq, Repr

/-- The row an insert writes. -/
def newTask (id : Nat) (input : CreateTask) : BackgroundTask where
  id := id
  kind := input.kind
  status := input.status
  displayName := input.displayName
  resultJson := input.resultJson
  runtimeJson := none
  stepsJson := input.stepsJson
  progressCurrent := input.progressCurrent
  progressTotal := input.progressTotal
  statusText := input.statusText
  attemptCount := 0
  maxAttempts := input.maxAttempts
  nextRunAt := input.nextRunAt
  processingToken := 0
  processingStartedAt := none
  lastHeartbeatAt := none
  leaseExpiresAt := none
  startedAt := input.startedAt
  finishedAt := input.finishedAt
  lastError := input.lastError
  failureCanRetry := input.failureCanRetry
  expiresAt := input.expiresAt
  createdAt := input.createdAt
  updatedAt := input.updatedAt

/-- `TerminalTaskCleanupFilters`. -/
structure TerminalTaskCleanupFilters where
  finishedBefore : Nat
  kind : Option BackgroundTaskKind
  status : Option BackgroundTaskStatus
  deriving DecidableEq, Repr

/-- `terminal_cleanup_condition`. -/
def TerminalTaskCleanupFilters.condition (filters : TerminalTaskCleanupFilters)
    (r : BackgroundTask) : Bool :=
  (match filters.status with
    | some status => r.status = status
    | none => r.status = .succeeded || r.status = .failed || r.status = .canceled) &&
  filters.kind.all (fun kind => r.kind = kind) &&
  (match r.finishedAt with
    | some finishedAt => finishedAt ≤ filters.finishedBefore
    | none => r.updatedAt ≤ filters.finishedBefore)

/-! ## The machine -/

/-- What a worker tells the lease guard it keeps in memory, and when.  What the guard
makes of it is up to the task library. -/
inductive GuardCall
  | new (time : Nat)
  | recordRenewed (time : Nat)
  | markLost (time : Nat)
  deriving DecidableEq, Repr

/-- A guard that is made counts as renewed. -/
def GuardCall.renewed : GuardCall → Option Nat
  | .new time | .recordRenewed time => some time
  | .markLost _ => none

/-- The last renewal a guard was told of, unless it was also told that the lease is
lost. -/
def trustedSince (calls : List GuardCall) : Option Nat :=
  if calls.any fun call => call.renewed.isNone then none
  else (calls.filterMap GuardCall.renewed).getLast?

/-- One step of a dispatcher or a worker. -/
inductive TaskStmt
  | clock
  | advanceClock (ms : Nat)
  | findById (id : Nat)
  | countActiveProcessingByKinds (now : Nat) (kinds : List BackgroundTaskKind)
  | write (w : TaskWrite)
  | create (input : CreateTask)
  | deleteTerminalByFilters (filters : TerminalTaskCleanupFilters)
  | lockByKey
  | commit
  | handOver (leases : List TaskLease)
  | takeLease (n : Nat)
  | guardNew (lease : TaskLease)
  | recordRenewed (lease : TaskLease)
  | markLost (lease : TaskLease)

@[reducible] def TaskStmt.Reply : TaskStmt → Type
  | .clock => Nat
  | .findById _ => Option BackgroundTask
  | .countActiveProcessingByKinds _ _ => Nat
  | .write _ => Bool
  | .create _ => Option BackgroundTask
  | .deleteTerminalByFilters _ => Nat
  | .takeLease _ => Option TaskLease
  | .advanceClock _ | .lockByKey | .commit | .handOver _ | .guardNew _ | .recordRenewed _
  | .markLost _ => Unit

@[reducible] def taskSignature : Signature := ⟨TaskStmt, TaskStmt.Reply⟩

/-- The clock, the table, the row lock of the lane, the leases that were handed to
workers, and what was told to the guard of each lease, the oldest call first. -/
structure TaskState where
  now : Nat
  tasks : Table taskSchema
  locked : Bool
  leases : List TaskLease
  guards : TaskLease → List GuardCall

/-- `UPDATE background_tasks SET .. WHERE ..`. -/
def TaskState.update (s : TaskState) (w : TaskWrite) : TaskState :=
  { s with
    tasks := s.tasks.modify w.hits w.sets w.sets_id fun a b => by
      simp [taskSchema] }

/-- The guard of a lease is told something. -/
def TaskState.tell (s : TaskState) (lease : TaskLease) (calls : List GuardCall) : TaskState :=
  { s with guards := Function.update s.guards lease (s.guards lease ++ calls) }

/-- What one step does.  An update reports whether it has changed exactly one row.  A
claim has one guard, which its loops share. -/
def TaskStmt.exec : (i : TaskStmt) → TaskState → i.Reply × TaskState
  | .clock, s => (s.now, s)
  | .advanceClock ms, s => ((), { s with now := s.now + ms })
  | .findById id, s => (s.tasks.find? fun r => r.id = id, s)
  | .countActiveProcessingByKinds now kinds, s =>
      ((s.tasks.select (BackgroundTask.activeProcessing now kinds)).length, s)
  | .write w, s => (decide ((s.tasks.select w.hits).length = 1), s.update w)
  | .create input, s =>
      let (id, tasks) := s.tasks.nextId
      match tasks.insert? (newTask id input) with
      | some tasks => (some (newTask id input), { s with tasks := tasks })
      | none => (none, { s with tasks := tasks })
  | .deleteTerminalByFilters filters, s =>
      ((s.tasks.select filters.condition).length,
        { s with tasks := s.tasks.delete filters.condition })
  | .lockByKey, s => ((), { s with locked := true })
  | .commit, s => ((), { s with locked := false })
  | .handOver leases, s => ((), { s with leases := s.leases ++ leases })
  | .takeLease n, s => (s.leases[n]?, s)
  | .guardNew lease, s =>
      ((), s.tell lease (if (s.guards lease).isEmpty then [.new s.now] else []))
  | .recordRenewed lease, s => ((), s.tell lease [.recordRenewed s.now])
  | .markLost lease, s => ((), s.tell lease [.markLost s.now])

/-- The lock of the lane waits for whoever holds it. -/
def TaskStmt.enabled : TaskStmt → TaskState → Bool
  | .lockByKey, s => !s.locked
  | _, _ => true

/-- The clock does not go back. -/
theorem exec_now_le (i : TaskStmt) (s : TaskState) : s.now ≤ (i.exec s).2.now := by
  cases i with
  | advanceClock ms => exact Nat.le_add_right _ _
  | create input =>
      simp only [TaskStmt.exec]
      split
      · exact Nat.le_refl _
      · exact Nat.le_refl _
  | _ => exact Nat.le_refl _

/-- The clock has not gone back. -/
def TaskState.Passes (s s' : TaskState) : Prop := s.now ≤ s'.now

theorem TaskState.Passes.refl (s : TaskState) : s.Passes s := Nat.le_refl s.now

theorem TaskState.Passes.trans (a b c : TaskState) (hab : a.Passes b) (hbc : b.Passes c) :
    a.Passes c := Nat.le_trans hab hbc

@[reducible] def taskMachine : Machine taskSignature where
  State := TaskState
  exec := TaskStmt.exec
  enabled := TaskStmt.enabled

end AsterYggdrasil.Task
