import RunEngine.Runtime

/-! The snapshot log: `#createExecutionSnapshot` appends a snapshot and schedules its
stall check, and `#handleStalledSnapshot` is the check when it fires. -/

namespace RunEngine

def heartbeatJobId (snapshotId : Nat) : String :=
  "heartbeatSnapshot." ++ toString snapshotId

/-- `#startHeartbeating`. -/
def startHeartbeating (runId snapshotId intervalSeconds : Nat) : Engine Unit := do
  workerEnqueue (some (heartbeatJobId snapshotId)) (.heartbeatSnapshot runId snapshotId)
    ((← get).now + intervalSeconds * 1000)

/-- The `switch` of `#createExecutionSnapshot`: the stall-check interval in seconds. -/
def heartbeatInterval : TaskRunExecutionStatus → Option Nat
  | .RUN_CREATED | .QUEUED | .BLOCKED_BY_WAITPOINTS | .FINISHED | .DEQUEUED_FOR_EXECUTION =>
    some 60
  | .EXECUTING => some (60 * 15)
  | .EXECUTING_WITH_WAITPOINTS | .PENDING_EXECUTING | .PENDING_CANCEL | .SUSPENDED => none

/-- `#createExecutionSnapshot(prisma, { run, snapshot })`. -/
def createExecutionSnapshot (runId : Nat) (runStatus : TaskRunStatus)
    (executionStatus : TaskRunExecutionStatus) (description : String) :
    Engine TaskRunExecutionSnapshot := do
  let id ← freshId
  let newSnapshot : TaskRunExecutionSnapshot :=
    ⟨id, runId, executionStatus, description, runStatus, none⟩
  writeDb (·.addSnapshot newSnapshot)
  if let some intervalSeconds := heartbeatInterval executionStatus then
    startHeartbeating runId newSnapshot.id intervalSeconds
  return newSnapshot

/-- The state `#createExecutionSnapshot` leaves: the snapshot with the next id, and its
stall-check job when the status has an interval. -/
def State.appendSnapshot (s : State) (runId : Nat) (runStatus : TaskRunStatus)
    (executionStatus : TaskRunExecutionStatus) (description : String) : State :=
  let snapshot : TaskRunExecutionSnapshot :=
    ⟨s.nextId, runId, executionStatus, description, runStatus, none⟩
  let jobs := match heartbeatInterval executionStatus with
    | some intervalSeconds =>
      scheduleJob s.jobs ⟨some (heartbeatJobId s.nextId), .heartbeatSnapshot runId s.nextId,
        s.now + intervalSeconds * 1000⟩
    | none => s.jobs
  { s with db := s.db.addSnapshot snapshot, jobs, nextId := s.nextId + 1 }

theorem createExecutionSnapshot_eq (runId : Nat) (runStatus : TaskRunStatus)
    (executionStatus : TaskRunExecutionStatus) (description : String) (s : State) :
    createExecutionSnapshot runId runStatus executionStatus description s =
      .ok ⟨s.nextId, runId, executionStatus, description, runStatus, none⟩
        (s.appendSnapshot runId runStatus executionStatus description) := by
  cases interval : heartbeatInterval executionStatus <;>
    simp [createExecutionSnapshot, State.appendSnapshot, interval, startHeartbeating,
      workerEnqueue, freshId, writeDb]

/-- The first argument `#getLatestExecutionSnapshot` receives. `#handleStalledSnapshot`
passes its run id there, a string on which `.taskRunExecutionSnapshot` is undefined. -/
inductive ClientArgument where
  | prisma
  | runId (id : Nat)
  deriving DecidableEq, Repr

def undefinedFindFirst : String :=
  "Cannot read properties of undefined (reading \x27findFirst\x27)"

/-- `#getLatestExecutionSnapshot(prisma, runId)` with the arguments as passed; an undefined
`runId` leaves Prisma's filter empty. -/
def getLatestExecutionSnapshot (client : ClientArgument) (runId : Option Nat) :
    Engine (Option TaskRunExecutionSnapshot) := do
  match client, runId with
  | .prisma, some runId => return (← readDb).latestSnapshot runId
  | .prisma, none => return (← readDb).snapshots.head?
  | .runId _, _ => throw (.typeError undefinedFindFirst)

/-- The body of `#handleStalledSnapshot`, given the call that reads the latest snapshot.
Every case of its recovery switch still throws. -/
def handleStalledSnapshotWith (latest : Engine (Option TaskRunExecutionSnapshot))
    (snapshotId : Nat) : Engine Unit := do
  let some latestSnapshot ← latest | return
  if latestSnapshot.id != snapshotId then
    workerAck (heartbeatJobId snapshotId)
    return
  match latestSnapshot.executionStatus with
  | .BLOCKED_BY_WAITPOINTS => throw (.notImplemented "Not implemented BLOCKED_BY_WAITPOINTS")
  | .DEQUEUED_FOR_EXECUTION => throw (.notImplemented "Not implemented DEQUEUED_FOR_EXECUTION")
  | .QUEUED => throw (.notImplemented "Not implemented QUEUED")
  | .EXECUTING => throw (.notImplemented "Not implemented EXECUTING")
  | .FINISHED => throw (.notImplemented "Not implemented FINISHED")
  | .RUN_CREATED => throw (.notImplemented "Not implemented RUN_CREATED")
  | _ => throw (.error "Unhandled discriminated union member")

/-- `#handleStalledSnapshot({ runId, snapshotId })`, which reads the latest snapshot with
`this.#getLatestExecutionSnapshot(runId)`. -/
def handleStalledSnapshot (runId snapshotId : Nat) : Engine Unit :=
  handleStalledSnapshotWith (getLatestExecutionSnapshot (.runId runId) none) snapshotId

/-- Every stall check throws before it compares snapshot ids, and changes nothing. -/
theorem handleStalledSnapshot_eq (runId snapshotId : Nat) (s : State) :
    handleStalledSnapshot runId snapshotId s = .error (.typeError undefinedFindFirst) s := by
  simp [handleStalledSnapshot, handleStalledSnapshotWith, getLatestExecutionSnapshot]

theorem handleStalledSnapshotWith_stale {runId snapshotId : Nat} {s : State}
    {latest : TaskRunExecutionSnapshot} (found : s.db.latestSnapshot runId = some latest)
    (stale : latest.id ≠ snapshotId) :
    handleStalledSnapshotWith (getLatestExecutionSnapshot .prisma (some runId)) snapshotId s =
      .ok () { s with jobs := s.jobs.filter (·.id != some (heartbeatJobId snapshotId)) } := by
  simp [handleStalledSnapshotWith, getLatestExecutionSnapshot, readDb, found, stale, workerAck]

theorem handleStalledSnapshotWith_switch {runId snapshotId : Nat} {s s' : State}
    {e : EngineError}
    (threw : handleStalledSnapshotWith (getLatestExecutionSnapshot .prisma (some runId))
      snapshotId s = .error e s') :
    s' = s ∧ ∃ latest, s.db.latestSnapshot runId = some latest ∧ latest.id = snapshotId := by
  cases found : s.db.latestSnapshot runId with
  | none => simp [handleStalledSnapshotWith, getLatestExecutionSnapshot, readDb, found] at threw
  | some latest =>
    by_cases same : latest.id = snapshotId
    · refine ⟨?_, latest, rfl, same⟩
      cases status : latest.executionStatus <;>
        simp [handleStalledSnapshotWith, getLatestExecutionSnapshot, readDb, found, same, status]
          at threw <;>
        exact threw.2.symm
    · simp [handleStalledSnapshotWith, getLatestExecutionSnapshot, readDb, found, same,
        workerAck] at threw

/-! ## The other calls on a run's latest snapshot -/

/-- `#extendHeartbeatTimeout({ runId, snapshotId, intervalSeconds })`, given the call that
reads the latest snapshot: the job of a snapshot no longer the latest is acknowledged, the
latest one's is enqueued again. -/
def extendHeartbeatTimeoutWith (latest : Engine (Option TaskRunExecutionSnapshot))
    (runId snapshotId intervalSeconds : Nat) : Engine Unit := do
  let latestSnapshot ← latest
  if latestSnapshot.map (·.id) != some snapshotId then
    workerAck (heartbeatJobId snapshotId)
    return
  startHeartbeating runId snapshotId intervalSeconds

/-- `#extendHeartbeatTimeout`, which reads the latest snapshot with
`this.#getLatestExecutionSnapshot(runId)`, as the stall check does. -/
def extendHeartbeatTimeout (runId snapshotId intervalSeconds : Nat) : Engine Unit :=
  extendHeartbeatTimeoutWith (getLatestExecutionSnapshot (.runId runId) none) runId snapshotId
    intervalSeconds

/-- So every extension throws the same `TypeError` and changes nothing. -/
theorem extendHeartbeatTimeout_eq (runId snapshotId intervalSeconds : Nat) (s : State) :
    extendHeartbeatTimeout runId snapshotId intervalSeconds s =
      .error (.typeError undefinedFindFirst) s := by
  simp [extendHeartbeatTimeout, extendHeartbeatTimeoutWith, getLatestExecutionSnapshot]

/-- `systemFailure({ runId, error, tx })`: its body is empty. -/
def systemFailure (_runId : Nat) : Engine Unit := pure ()

/-- `createRunAttempt({ runId, snapshotId, tx })`: it reads the run's latest snapshot and
calls `systemFailure` when there is none. -/
def createRunAttempt (runId _snapshotId : Nat) : Engine Unit := do
  let some _ ← getLatestExecutionSnapshot .prisma (some runId) | systemFailure runId
  return

/-- It creates no attempt: whatever the store holds, it returns with the state unchanged. -/
theorem createRunAttempt_eq (runId snapshotId : Nat) (s : State) :
    createRunAttempt runId snapshotId s = .ok () s := by
  simp only [createRunAttempt, getLatestExecutionSnapshot, readDb, systemFailure,
    Engine.bind_apply, Engine.get_apply, Engine.pure_apply]
  cases s.db.latestSnapshot runId <;> rfl

/-- Run 0 gets snapshot 0 (`QUEUED`) and then snapshot 1 (`DEQUEUED_FOR_EXECUTION`); the
stall check of snapshot 0 is still waiting. -/
def staleHeartbeatState : State :=
  (State.empty.appendSnapshot 0 .PENDING .QUEUED "Run was QUEUED").appendSnapshot 0 .PENDING
    .DEQUEUED_FOR_EXECUTION "Run was dequeued for execution"

theorem stale_heartbeat_not_acknowledged :
    handleStalledSnapshot 0 0 staleHeartbeatState =
        .error (.typeError undefinedFindFirst) staleHeartbeatState ∧
      staleHeartbeatState.db.latestSnapshot 0 ≠ none ∧
      (∃ job ∈ staleHeartbeatState.jobs, job.job = .heartbeatSnapshot 0 0) := by
  refine ⟨handleStalledSnapshot_eq 0 0 _, by decide, ?_⟩
  exact ⟨⟨some (heartbeatJobId 0), .heartbeatSnapshot 0 0, 60 * 1000⟩, by decide, rfl⟩

end RunEngine
