import RunEngine.Waitpoints

/-! `trigger` and `dequeueFromMasterQueue`. Without a caller transaction every statement of
`trigger` commits on its own, so a throw keeps what was written before it. -/

namespace RunEngine

open Keys (AuthenticatedEnvironment truthy)

/-- The part of `QueueOptions` that `trigger` reads. -/
structure QueueOptions where
  concurrencyLimit : Option Int
  deriving DecidableEq, Repr

/-- The fields of `TriggerParams` that `trigger` stores and reads back or branches on. -/
structure TriggerParams where
  environment : AuthenticatedEnvironment
  taskIdentifier : String
  concurrencyKey : Option String
  masterQueue : String
  queueName : String
  queue : Option QueueOptions
  delayUntil : Option Nat
  ttl : Option String
  parentTaskRunId : Option Nat
  resumeParentOnCompletion : Bool
  deriving DecidableEq, Repr

namespace Db

def addRun (db : Db) (run : TaskRun) : Db :=
  { db with runs := db.runs ++ [run] }

/-- `taskQueue.findFirst({ where: { runtimeEnvironmentId, name } })`. -/
def findTaskQueue (db : Db) (environmentId name : String) : Option TaskQueue :=
  db.taskQueues.find? fun taskQueue =>
    taskQueue.runtimeEnvironmentId == environmentId && taskQueue.name == name

/-- `taskQueue.update({ where: { id }, data: { concurrencyLimit } })`: Prisma leaves a
column whose value is `undefined` as it is. -/
def updateTaskQueue (db : Db) (id : Nat) (concurrencyLimit : Option Int) : Db :=
  { db with taskQueues := db.taskQueues.map fun taskQueue =>
      if taskQueue.id = id then
        { taskQueue with concurrencyLimit := concurrencyLimit.or taskQueue.concurrencyLimit }
      else taskQueue }

def addTaskQueue (db : Db) (taskQueue : TaskQueue) : Db :=
  { db with taskQueues := db.taskQueues ++ [taskQueue] }

end Db

/-- The `taskRun.create` of `trigger`, with the nested `RUN_CREATED` snapshot. -/
def createTaskRun (params : TriggerParams) (status : TaskRunStatus) : Engine TaskRun := do
  let id ← freshId
  let taskRun : TaskRun := ⟨id, status, params.environment, params.taskIdentifier,
    params.queueName, params.masterQueue, params.concurrencyKey, params.delayUntil, params.ttl⟩
  let snapshotId ← freshId
  writeDb fun db => (db.addRun taskRun).addSnapshot
    ⟨snapshotId, id, .RUN_CREATED, "Run was created", status, none⟩
  return taskRun

theorem createTaskRun_eq (params : TriggerParams) (status : TaskRunStatus) (s : State) :
    createTaskRun params status s = .ok ⟨s.nextId, status, params.environment,
      params.taskIdentifier, params.queueName, params.masterQueue, params.concurrencyKey,
      params.delayUntil, params.ttl⟩ (finalState (createTaskRun params status s)) := rfl

def taskQueueNotFound : String := "Record to update not found."

/-- `taskQueue.update`, returning the updated row. -/
def updateTaskQueue (id : Nat) (concurrencyLimit : Option Int) : Engine TaskQueue := do
  writeDb (·.updateTaskQueue id concurrencyLimit)
  let some taskQueue := (← readDb).taskQueues.find? (·.id == id)
    | throw (.error taskQueueNotFound)
  return taskQueue

/-- `taskQueue.create`; an undefined limit is stored as `null`. -/
def createTaskQueue (name : String) (concurrencyLimit : Option Int) (environmentId : String) :
    Engine TaskQueue := do
  let id ← freshId
  let taskQueue : TaskQueue := ⟨id, name, environmentId, concurrencyLimit⟩
  writeDb (·.addTaskQueue taskQueue)
  return taskQueue

/-- The last statement of `trigger`'s queue block: the row's limit goes to the Run Queue. -/
def pushQueueConcurrencyLimit (env : AuthenticatedEnvironment) (taskQueue : TaskQueue) :
    Engine Unit :=
  match taskQueue.concurrencyLimit with
  | some limit => updateQueueConcurrencyLimits env taskQueue.name limit
  | none => removeQueueConcurrencyLimits env taskQueue.name

/-- The `if (queue)` block of `trigger`: upsert the task queue, then push its limit. -/
def upsertTaskQueue (env : AuthenticatedEnvironment) (queueName : String) (queue : QueueOptions) :
    Engine Unit := do
  let concurrencyLimit := queue.concurrencyLimit.map (max 0)
  let taskQueue ← match (← readDb).findTaskQueue env.id queueName with
    | some taskQueue => updateTaskQueue taskQueue.id concurrencyLimit
    | none => createTaskQueue queueName concurrencyLimit env.id
  pushQueueConcurrencyLimit env taskQueue

/-- `#enqueueRun`. -/
def enqueueRun (run : TaskRun) (env : AuthenticatedEnvironment) : Engine Unit := do
  let _ ← createExecutionSnapshot run.id run.status .QUEUED "Run was QUEUED"
  enqueueMessage (runQueueMessage run env)

/-- `trigger(params)` without a caller transaction. `parseNaturalLanguageDuration` is the
library's TTL parser (not under src/); `lock` is what the run's lock meets. -/
def trigger (parseNaturalLanguageDuration : String → Option Nat) (params : TriggerParams)
    (lock : LockOutcome) : Engine TaskRun := do
  let status : TaskRunStatus := if params.delayUntil.isSome then .DELAYED else .PENDING
  let taskRun ← createTaskRun params status
  let env := params.environment
  redlockUsing lock taskRun.id fun aborted => do
    let associatedWaitpoint ← createRunAssociatedWaitpoint env.projectId taskRun.id
    if params.resumeParentOnCompletion then
      if let some parentTaskRunId := params.parentTaskRunId then
        let _ ← blockRunWithWaitpoint parentTaskRunId associatedWaitpoint
    if aborted 0 then throw (.lockLost taskRun.id)
    if let some queue := params.queue then
      upsertTaskQueue env params.queueName queue
    if let some delayUntil := taskRun.delayUntil then
      let delayWaitpoint ← createDateTimeWaitpoint env.projectId delayUntil
      writeDb (·.addRunWaitpoint ⟨taskRun.id, delayWaitpoint.id, delayWaitpoint.projectId⟩)
    if taskRun.delayUntil.isNone then
      if let some ttl := truthy taskRun.ttl then
        if (parseNaturalLanguageDuration ttl).isSome then
          workerEnqueue none (.expireRun taskRun.id) (← get).now
    if aborted 1 then throw (.lockLost taskRun.id)
    if taskRun.delayUntil.isNone then
      enqueueRun taskRun env
  return taskRun

/-- `dequeueFromMasterQueue({ consumerId, masterQueue })`; `pick` is the Run Queue's
choice and `lock` what the run's lock meets. -/
def dequeueFromMasterQueue (masterQueue : String) (pick : Option Nat) (lock : LockOutcome) :
    Engine (Option TaskRunExecutionSnapshot) := do
  let some message ← dequeueMessageInSharedQueue masterQueue pick | return none
  redlockUsing lock message.runId fun _ => do
    let some snapshot ← getLatestExecutionSnapshot .prisma (some message.runId)
      | throw (.error ("RunEngine.dequeueFromMasterQueue(): No snapshot found for run: " ++
          toString message.runId))
    if !(snapshot.executionStatus == .QUEUED ||
        snapshot.executionStatus == .BLOCKED_BY_WAITPOINTS) then
      throw (.error ("RunEngine.dequeueFromMasterQueue(): Run is not in a valid state to be " ++
        "dequeued: " ++ toString message.runId ++ "\n " ++ toString snapshot.id ++ ":" ++
        snapshot.executionStatus.name))
    let newSnapshot ← createExecutionSnapshot message.runId snapshot.runStatus
      .DEQUEUED_FOR_EXECUTION "Run was dequeued for execution"
    return some newSnapshot

end RunEngine
