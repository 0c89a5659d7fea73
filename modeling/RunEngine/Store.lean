import RunEngine.KeyProducer

/-! The relational store the run engine works on: runs, their append-only execution
snapshots, waitpoints, the `TaskRunWaitpoint` join and task queues. Rows have natural
number ids; a list of snapshots is kept newest first. -/

namespace RunEngine

open Keys (AuthenticatedEnvironment)

/-- Modelled from the spec: the schema's `TaskRunStatus` is not under src/. -/
inductive TaskRunStatus where
  | DELAYED
  | PENDING
  | EXECUTING
  | WAITING_TO_RESUME
  | COMPLETED_SUCCESSFULLY
  | COMPLETED_WITH_ERRORS
  | SYSTEM_FAILURE
  | CRASHED
  | EXPIRED
  | CANCELED
  deriving DecidableEq, Repr

/-- The statuses the spec calls terminal. -/
def TaskRunStatus.isFinal : TaskRunStatus → Bool
  | .COMPLETED_SUCCESSFULLY | .COMPLETED_WITH_ERRORS | .SYSTEM_FAILURE | .CRASHED | .EXPIRED
  | .CANCELED => true
  | .DELAYED | .PENDING | .EXECUTING | .WAITING_TO_RESUME => false

/-- Modelled from the spec: the schema's `TaskRunExecutionStatus` is not under src/. -/
inductive TaskRunExecutionStatus where
  | RUN_CREATED
  | QUEUED
  | DEQUEUED_FOR_EXECUTION
  | EXECUTING
  | EXECUTING_WITH_WAITPOINTS
  | BLOCKED_BY_WAITPOINTS
  | PENDING_EXECUTING
  | PENDING_CANCEL
  | SUSPENDED
  | FINISHED
  deriving DecidableEq, Repr

/-- The status as the schema spells it. -/
def TaskRunExecutionStatus.name : TaskRunExecutionStatus → String
  | .RUN_CREATED => "RUN_CREATED"
  | .QUEUED => "QUEUED"
  | .DEQUEUED_FOR_EXECUTION => "DEQUEUED_FOR_EXECUTION"
  | .EXECUTING => "EXECUTING"
  | .EXECUTING_WITH_WAITPOINTS => "EXECUTING_WITH_WAITPOINTS"
  | .BLOCKED_BY_WAITPOINTS => "BLOCKED_BY_WAITPOINTS"
  | .PENDING_EXECUTING => "PENDING_EXECUTING"
  | .PENDING_CANCEL => "PENDING_CANCEL"
  | .SUSPENDED => "SUSPENDED"
  | .FINISHED => "FINISHED"

inductive WaitpointType where
  | RUN
  | DATETIME
  | MANUAL
  deriving DecidableEq, Repr

inductive WaitpointStatus where
  | PENDING
  | COMPLETED
  deriving DecidableEq, Repr

/-- The `TaskRun` columns the engine reads back; `runtimeEnvironment` is the relation
that `#completeWaitpoint` includes. -/
structure TaskRun where
  id : Nat
  status : TaskRunStatus
  runtimeEnvironment : AuthenticatedEnvironment
  taskIdentifier : String
  queue : String
  masterQueue : String
  concurrencyKey : Option String
  delayUntil : Option Nat
  ttl : Option String
  deriving DecidableEq, Repr

/-- `worker` is the relation `#getLatestExecutionSnapshot` includes. -/
structure TaskRunExecutionSnapshot where
  id : Nat
  runId : Nat
  executionStatus : TaskRunExecutionStatus
  description : String
  runStatus : TaskRunStatus
  worker : Option String
  deriving DecidableEq, Repr

structure Waitpoint where
  id : Nat
  type : WaitpointType
  status : WaitpointStatus
  projectId : String
  completedByTaskRunId : Option Nat
  completedAfter : Option Nat
  deriving DecidableEq, Repr

structure TaskRunWaitpoint where
  taskRunId : Nat
  waitpointId : Nat
  projectId : String
  deriving DecidableEq, Repr

structure TaskQueue where
  id : Nat
  name : String
  runtimeEnvironmentId : String
  concurrencyLimit : Option Int
  deriving DecidableEq, Repr

structure Db where
  runs : List TaskRun
  snapshots : List TaskRunExecutionSnapshot
  waitpoints : List Waitpoint
  runWaitpoints : List TaskRunWaitpoint
  taskQueues : List TaskQueue
  deriving DecidableEq, Repr

namespace Db

def empty : Db := ⟨[], [], [], [], []⟩

/-- `#getLatestExecutionSnapshot`: `findFirst` ordered by `createdAt` descending. -/
def latestSnapshot (db : Db) (runId : Nat) : Option TaskRunExecutionSnapshot :=
  db.snapshots.find? (·.runId == runId)

def findWaitpoint (db : Db) (id : Nat) : Option Waitpoint :=
  db.waitpoints.find? (·.id == id)

/-- `taskRunWaitpoint.findMany({ where: { waitpointId } })`. -/
def blockersOf (db : Db) (waitpointId : Nat) : List TaskRunWaitpoint :=
  db.runWaitpoints.filter (·.waitpointId == waitpointId)

/-- Whether any `TaskRunWaitpoint` row blocks the run. -/
def isBlocked (db : Db) (runId : Nat) : Bool :=
  db.runWaitpoints.any (·.taskRunId == runId)

def addSnapshot (db : Db) (snapshot : TaskRunExecutionSnapshot) : Db :=
  { db with snapshots := snapshot :: db.snapshots }

def addWaitpoint (db : Db) (waitpoint : Waitpoint) : Db :=
  { db with waitpoints := db.waitpoints ++ [waitpoint] }

def addRunWaitpoint (db : Db) (row : TaskRunWaitpoint) : Db :=
  { db with runWaitpoints := db.runWaitpoints ++ [row] }

/-- `taskRunWaitpoint.deleteMany({ where: { waitpointId } })`. -/
def deleteRunWaitpoints (db : Db) (waitpointId : Nat) : Db :=
  { db with runWaitpoints := db.runWaitpoints.filter (·.waitpointId != waitpointId) }

/-- `waitpoint.update({ where: { id }, data: { status } })`. -/
def setWaitpointStatus (db : Db) (id : Nat) (status : WaitpointStatus) : Db :=
  { db with waitpoints := db.waitpoints.map fun w => if w.id = id then { w with status } else w }

/-- The `taskRun.findMany` of `#completeWaitpoint`: runs among `ids` with no blocking row
and status `PENDING` or `WAITING_TO_RESUME`. -/
def runsToResume (db : Db) (ids : List Nat) : List TaskRun :=
  db.runs.filter fun run =>
    ids.contains run.id && !db.isBlocked run.id &&
      (run.status == .PENDING || run.status == .WAITING_TO_RESUME)

@[simp] theorem addSnapshot_runWaitpoints (db : Db) (snapshot : TaskRunExecutionSnapshot) :
    (db.addSnapshot snapshot).runWaitpoints = db.runWaitpoints := rfl

@[simp] theorem addSnapshot_waitpoints (db : Db) (snapshot : TaskRunExecutionSnapshot) :
    (db.addSnapshot snapshot).waitpoints = db.waitpoints := rfl

@[simp] theorem addSnapshot_runs (db : Db) (snapshot : TaskRunExecutionSnapshot) :
    (db.addSnapshot snapshot).runs = db.runs := rfl

@[simp] theorem latestSnapshot_addSnapshot (db : Db) (snapshot : TaskRunExecutionSnapshot)
    (runId : Nat) : (db.addSnapshot snapshot).latestSnapshot runId =
      if snapshot.runId = runId then some snapshot else db.latestSnapshot runId := by
  by_cases same : snapshot.runId = runId <;> simp [latestSnapshot, addSnapshot, same]

end Db

end RunEngine
