import RunEngine.Snapshots

/-! Waitpoints: creating them, blocking runs on them, and `#completeWaitpoint`, which
deletes a waitpoint's blocking rows in a transaction and continues the runs left
unblocked. Run Queue and worker writes of `#continueRun` are not rolled back. -/

namespace RunEngine

open Keys (AuthenticatedEnvironment)

/-- `#createRunAssociatedWaitpoint`. -/
def createRunAssociatedWaitpoint (projectId : String) (completedByTaskRunId : Nat) :
    Engine Waitpoint := do
  let id ← freshId
  let waitpoint : Waitpoint := ⟨id, .RUN, .PENDING, projectId, some completedByTaskRunId, none⟩
  writeDb (·.addWaitpoint waitpoint)
  return waitpoint

def waitpointCompleteDateTimeJobId (waitpointId : Nat) : String :=
  "waitpointCompleteDateTime." ++ toString waitpointId

/-- `#createDateTimeWaitpoint`: the waitpoint, and the job that completes it. -/
def createDateTimeWaitpoint (projectId : String) (completedAfter : Nat) : Engine Waitpoint := do
  let id ← freshId
  let waitpoint : Waitpoint := ⟨id, .DATETIME, .PENDING, projectId, none, some completedAfter⟩
  writeDb (·.addWaitpoint waitpoint)
  workerEnqueue (some (waitpointCompleteDateTimeJobId id)) (.waitpointCompleteDateTime id)
    completedAfter
  return waitpoint

/-- `#blockRunWithWaitpoint`: it throws before writing its row. -/
def blockRunWithWaitpoint (_runId : Nat) (_waitpoint : Waitpoint) : Engine TaskRunWaitpoint :=
  throw (.notImplemented "Not implemented #blockRunWithWaitpoint")

/-- The message `#enqueueRun` and `#continueRun` put on the Run Queue. -/
def runQueueMessage (run : TaskRun) (env : AuthenticatedEnvironment) : RunQueueMessage :=
  ⟨run.id, run.taskIdentifier, env.organizationId, env.projectId, env.id, env.type, run.queue,
    run.concurrencyKey, run.masterQueue⟩

def noSnapshotToContinue (runId : Nat) : String :=
  "RunEngine.#continueRun(): No snapshot found for run: " ++ toString runId

def continueNotImplemented : String :=
  "RunEngine.#continueRun(): continue executing run, not implemented yet"

/-- `#continueRun(run, env, tx)`. -/
def continueRun (lock : LockOutcome) (run : TaskRun) (env : AuthenticatedEnvironment) :
    Engine Unit :=
  redlockUsing lock run.id fun _ => do
    let some snapshot ← getLatestExecutionSnapshot .prisma (some run.id)
      | throw (.error (noSnapshotToContinue run.id))
    if snapshot.executionStatus = .EXECUTING ∧ snapshot.worker.isSome then
      let _ ← createExecutionSnapshot run.id run.status .EXECUTING
        "Run was continued, whilst still executing."
      throw (.notImplemented continueNotImplemented)
    let _ ← createExecutionSnapshot run.id run.status .QUEUED
      "Run was QUEUED, because it needs to be continued."
    enqueueMessage (runQueueMessage run env)

def waitpointNotFound (id : Nat) : String :=
  "Waitpoint " ++ toString id ++ " not found"

def noTaskRunWaitpoints (id : Nat) : String :=
  "No TaskRunWaitpoints found for waitpoint " ++ toString id

/-- The statements `#completeWaitpoint` runs inside its transaction. -/
def completeWaitpointTransaction (locks : Nat → LockOutcome) (id : Nat) : Engine Unit := do
  let affectedTaskRuns := (← readDb).blockersOf id
  if affectedTaskRuns.length = 0 then
    throw (.error (noTaskRunWaitpoints id))
  writeDb (·.deleteRunWaitpoints id)
  writeDb (·.setWaitpointStatus id .COMPLETED)
  let taskRunsToResume := (← readDb).runsToResume (affectedTaskRuns.map (·.taskRunId))
  taskRunsToResume.forM fun run => continueRun (locks run.id) run run.runtimeEnvironment

/-- `#completeWaitpoint(id)`; `locks` gives the lock outcome of each run it continues. -/
def completeWaitpoint (locks : Nat → LockOutcome) (id : Nat) : Engine Unit := do
  let some waitpoint := (← readDb).findWaitpoint id
    | throw (.error (waitpointNotFound id))
  if waitpoint.status = .COMPLETED then return
  transaction (completeWaitpointTransaction locks id)

end RunEngine

namespace RunEngine

open Keys (AuthenticatedEnvironment)

theorem continueRun_held_eq (run : TaskRun) (env : AuthenticatedEnvironment) (s : State) :
    continueRun .held run env s =
      match s.db.latestSnapshot run.id with
      | none => .error (.error (noSnapshotToContinue run.id)) s
      | some snapshot =>
        if snapshot.executionStatus = .EXECUTING ∧ snapshot.worker.isSome then
          .error (.notImplemented continueNotImplemented)
            (s.appendSnapshot run.id run.status .EXECUTING
              "Run was continued, whilst still executing.")
        else
          .ok () ((s.appendSnapshot run.id run.status .QUEUED
            "Run was QUEUED, because it needs to be continued.").enqueue
              (runQueueMessage run env)) := by
  simp only [continueRun, redlockUsing, getLatestExecutionSnapshot, readDb, Engine.bind_apply,
    Engine.get_apply, Engine.pure_apply]
  cases s.db.latestSnapshot run.id with
  | none => rfl
  | some snapshot =>
    by_cases executing : snapshot.executionStatus = .EXECUTING ∧ snapshot.worker.isSome <;>
      simp [executing, createExecutionSnapshot_eq, enqueueMessage]

theorem continueRun_lost_eq (check : Nat) (run : TaskRun) (env : AuthenticatedEnvironment)
    (s : State) :
    continueRun (.lostBefore check) run env s =
      .error (.lockLost run.id) (finalState (continueRun .held run env s)) := rfl

/-- The errors `#continueRun` throws. -/
def ContinueRunError (e : EngineError) : Prop :=
  (∃ runId, e = .lockRefused runId ∨ e = .lockLost runId) ∨
    (∃ runId, e = .error (noSnapshotToContinue runId)) ∨
    e = .notImplemented continueNotImplemented

/-- `after` differs from `before` in its snapshots at most. -/
structure SnapshotsOnly (before after : Db) : Prop where
  runs : after.runs = before.runs
  waitpoints : after.waitpoints = before.waitpoints
  runWaitpoints : after.runWaitpoints = before.runWaitpoints
  taskQueues : after.taskQueues = before.taskQueues

theorem SnapshotsOnly.refl (db : Db) : SnapshotsOnly db db := ⟨rfl, rfl, rfl, rfl⟩

theorem SnapshotsOnly.trans {first second third : Db} (early : SnapshotsOnly first second)
    (late : SnapshotsOnly second third) : SnapshotsOnly first third :=
  ⟨late.1.trans early.1, late.2.trans early.2, late.3.trans early.3, late.4.trans early.4⟩

/-- What the `#continueRun` calls for the runs `resumed` may change outside the store:
they queue messages of those runs and schedule the stall checks of the snapshots they
create for them, under fresh ids. -/
structure RedisFrame (resumed : List Nat) (before after : State) : Prop where
  inFlight : after.runQueue.inFlight = before.runQueue.inFlight
  currentConcurrency : after.runQueue.currentConcurrency = before.runQueue.currentConcurrency
  concurrencyLimits : after.runQueue.concurrencyLimits = before.runQueue.concurrencyLimits
  queuedKept : ∀ message ∈ before.runQueue.queued, message.runId ∉ resumed →
    message ∈ after.runQueue.queued
  queuedAdded : ∀ message ∈ after.runQueue.queued,
    message ∈ before.runQueue.queued ∨ message.runId ∈ resumed
  jobsKept : ∀ job ∈ before.jobs,
    job ∈ after.jobs ∨ ∃ n, before.nextId ≤ n ∧ job.id = some (heartbeatJobId n)
  jobsAdded : ∀ job ∈ after.jobs, job ∈ before.jobs ∨ ∃ runId ∈ resumed, ∃ snapshotId,
    before.nextId ≤ snapshotId ∧ snapshotId < after.nextId ∧
      job.id = some (heartbeatJobId snapshotId) ∧ job.job = .heartbeatSnapshot runId snapshotId
  nextId : before.nextId ≤ after.nextId

namespace RedisFrame

theorem refl (resumed : List Nat) (s : State) : RedisFrame resumed s s :=
  ⟨rfl, rfl, rfl, fun _ kept _ => kept, fun _ kept => .inl kept, fun _ kept => .inl kept,
    fun _ kept => .inl kept, le_refl _⟩

theorem trans {resumed : List Nat} {first second third : State}
    (early : RedisFrame resumed first second) (late : RedisFrame resumed second third) :
    RedisFrame resumed first third where
  inFlight := late.inFlight.trans early.inFlight
  currentConcurrency := late.currentConcurrency.trans early.currentConcurrency
  concurrencyLimits := late.concurrencyLimits.trans early.concurrencyLimits
  queuedKept _ kept other := late.queuedKept _ (early.queuedKept _ kept other) other
  queuedAdded _ added := (late.queuedAdded _ added).elim (early.queuedAdded _) .inr
  jobsKept _ kept := (early.jobsKept _ kept).elim
    (fun middle => (late.jobsKept _ middle).imp_right fun ⟨n, fresh, named⟩ =>
      ⟨n, early.nextId.trans fresh, named⟩) .inr
  jobsAdded _ added := (late.jobsAdded _ added).elim
    (fun middle => (early.jobsAdded _ middle).imp_right fun ⟨runId, resuming, n, fresh, below, named⟩ =>
      ⟨runId, resuming, n, fresh, Nat.lt_of_lt_of_le below late.nextId, named⟩)
    fun ⟨runId, resuming, n, fresh, below, named⟩ =>
      .inr ⟨runId, resuming, n, early.nextId.trans fresh, below, named⟩
  nextId := early.nextId.trans late.nextId

theorem mono {resumed more : List Nat} {before after : State} (frame : RedisFrame resumed before after)
    (sub : resumed ⊆ more) : RedisFrame more before after where
  __ := frame
  queuedKept _ kept other := frame.queuedKept _ kept fun inside => other (sub inside)
  queuedAdded _ added := (frame.queuedAdded _ added).imp_right fun inside => sub inside
  jobsAdded _ added := (frame.jobsAdded _ added).imp_right fun ⟨runId, resuming, rest⟩ =>
    ⟨runId, sub resuming, rest⟩

end RedisFrame

theorem RedisFrame.withDb {resumed : List Nat} {before after : State}
    (frame : RedisFrame resumed before after) (first second : Db) :
    RedisFrame resumed { before with db := first } { after with db := second } :=
  ⟨frame.1, frame.2, frame.3, frame.4, frame.5, frame.6, frame.7, frame.8⟩

theorem mem_scheduleJob {jobs : List ScheduledJob} {job other : ScheduledJob} :
    other ∈ scheduleJob jobs job ↔ (other ∈ jobs ∧ (job.id.isNone ∨ other.id ≠ job.id)) ∨
      other = job := by
  simp [scheduleJob]

theorem appendSnapshot_frames {resumed : List Nat} (s : State) {runId : Nat}
    (resuming : runId ∈ resumed) (runStatus : TaskRunStatus)
    (executionStatus : TaskRunExecutionStatus) (description : String) :
    SnapshotsOnly s.db (s.appendSnapshot runId runStatus executionStatus description).db ∧
      RedisFrame resumed s (s.appendSnapshot runId runStatus executionStatus description) := by
  refine ⟨⟨rfl, rfl, rfl, rfl⟩, rfl, rfl, rfl, fun _ kept _ => kept, fun _ kept => .inl kept, ?_,
    ?_, by simp [State.appendSnapshot]⟩
  all_goals
    intro job member
    cases interval : heartbeatInterval executionStatus <;>
      simp only [State.appendSnapshot, interval, mem_scheduleJob] at member ⊢
  · exact .inl member
  · by_cases named : job.id = some (heartbeatJobId s.nextId)
    · exact .inr ⟨s.nextId, le_refl _, named⟩
    · exact .inl (.inl ⟨member, .inr named⟩)
  · exact .inl member
  · rcases member with ⟨kept, _⟩ | rfl
    · exact .inl kept
    · exact .inr ⟨runId, resuming, s.nextId, le_refl _, Nat.lt_succ_self _, rfl, rfl⟩

theorem enqueue_frames {resumed : List Nat} (s : State) (message : RunQueueMessage)
    (resuming : message.runId ∈ resumed) :
    SnapshotsOnly s.db (s.enqueue message).db ∧ RedisFrame resumed s (s.enqueue message) := by
  refine ⟨SnapshotsOnly.refl _, rfl, rfl, rfl, ?_, ?_, fun _ kept => .inl kept,
    fun _ kept => .inl kept, le_refl _⟩
  · intro other kept different
    have : other.runId ≠ message.runId := fun same => different (same ▸ resuming)
    simp [State.enqueue, kept, this]
  · intro other added
    simp only [State.enqueue, List.mem_append, List.mem_filter, List.mem_singleton] at added
    rcases added with ⟨kept, _⟩ | rfl
    · exact .inl kept
    · exact .inr resuming

/-- One `#continueRun` changes only snapshots in the store and, outside it, only what
`RedisFrame` allows; it throws only the errors of `ContinueRunError`. -/
theorem continueRun_frames (lock : LockOutcome) (run : TaskRun) (env : AuthenticatedEnvironment)
    (s : State) :
    SnapshotsOnly s.db (finalState (continueRun lock run env s)).db ∧
      RedisFrame [run.id] s (finalState (continueRun lock run env s)) ∧
      ∀ e s', continueRun lock run env s = .error e s' → ContinueRunError e := by
  have resuming := List.mem_singleton_self run.id
  have held : SnapshotsOnly s.db (finalState (continueRun .held run env s)).db ∧
      RedisFrame [run.id] s (finalState (continueRun .held run env s)) ∧
      ∀ e s', continueRun .held run env s = .error e s' → ContinueRunError e := by
    rw [continueRun_held_eq]
    cases s.db.latestSnapshot run.id with
    | none =>
      exact ⟨SnapshotsOnly.refl _, RedisFrame.refl _ _,
        fun e _ threw => .inr (.inl ⟨run.id, by cases threw; rfl⟩)⟩
    | some snapshot =>
      dsimp only
      split
      · obtain ⟨store, redis⟩ := appendSnapshot_frames s resuming run.status .EXECUTING
          "Run was continued, whilst still executing."
        exact ⟨store, redis, fun e _ threw => .inr (.inr (by cases threw; rfl))⟩
      · obtain ⟨store, redis⟩ := appendSnapshot_frames s resuming run.status .QUEUED
          "Run was QUEUED, because it needs to be continued."
        obtain ⟨store', redis'⟩ := enqueue_frames (s.appendSnapshot run.id run.status .QUEUED
          "Run was QUEUED, because it needs to be continued.") (runQueueMessage run env) resuming
        exact ⟨store.trans store', redis.trans redis', fun e _ threw => by cases threw⟩
  cases lock with
  | refused =>
    exact ⟨SnapshotsOnly.refl _, RedisFrame.refl _ _,
      fun e _ threw => .inl ⟨run.id, .inl (by cases threw; rfl)⟩⟩
  | held => exact held
  | lostBefore check =>
    rw [continueRun_lost_eq]
    exact ⟨held.1, held.2.1, fun e _ threw => .inl ⟨run.id, .inr (by cases threw; rfl)⟩⟩

theorem continueRuns_frames (locks : Nat → LockOutcome) (runs : List TaskRun) (s : State) :
    let result := runs.forM fun run => continueRun (locks run.id) run run.runtimeEnvironment
    SnapshotsOnly s.db (finalState (result s)).db ∧
      RedisFrame (runs.map (·.id)) s (finalState (result s)) ∧
      ∀ e s', result s = .error e s' → ContinueRunError e := by
  induction runs generalizing s with
  | nil => exact ⟨SnapshotsOnly.refl _, RedisFrame.refl _ _, fun _ _ threw => by cases threw⟩
  | cons run rest ih =>
    have wider : ∀ id ∈ [run.id], id ∈ (run :: rest).map (·.id) := by simp
    have narrower : ∀ id ∈ rest.map (·.id), id ∈ (run :: rest).map (·.id) := by simp_all
    obtain ⟨store, redis, errors⟩ := continueRun_frames (locks run.id) run run.runtimeEnvironment s
    simp only [List.forM_cons']
    cases first : continueRun (locks run.id) run run.runtimeEnvironment s with
    | ok _ s₁ =>
      rw [first, finalState] at store redis
      rw [Engine.bind_of_ok first]
      obtain ⟨store', redis', errors'⟩ := ih s₁
      exact ⟨store.trans store', (redis.mono wider).trans (redis'.mono narrower), errors'⟩
    | error e s₁ =>
      rw [first, finalState] at store redis
      rw [Engine.bind_of_error first]
      exact ⟨store, redis.mono wider, fun _ _ threw => by cases threw; exact errors e s₁ first⟩

namespace Db

@[simp] theorem findWaitpoint_setWaitpointStatus (db : Db) (id : Nat) (status : WaitpointStatus) :
    (db.setWaitpointStatus id status).findWaitpoint id =
      (db.findWaitpoint id).map ({ · with status }) := by
  simp only [findWaitpoint, setWaitpointStatus]
  induction db.waitpoints with
  | nil => rfl
  | cons waitpoint rest ih =>
    by_cases same : waitpoint.id = id <;> simp [same, ih]

theorem findWaitpoint_setWaitpointStatus_eq_map (db : Db) (id other : Nat)
    (status : WaitpointStatus) : (db.setWaitpointStatus id status).findWaitpoint other =
      (db.findWaitpoint other).map fun w => if w.id = id then { w with status } else w := by
  simp only [findWaitpoint, setWaitpointStatus, List.find?_map]
  congr 2
  funext w
  simp only [Function.comp]
  split <;> rfl

theorem findWaitpoint_addWaitpoint_of_eq_some {db : Db} {waitpoint found : Waitpoint} {id : Nat}
    (lookup : db.findWaitpoint id = some found) :
    (db.addWaitpoint waitpoint).findWaitpoint id = some found := by
  rw [findWaitpoint, addWaitpoint, List.find?_append, ← findWaitpoint, lookup]
  rfl

@[simp] theorem findWaitpoint_deleteRunWaitpoints (db : Db) (waitpointId id : Nat) :
    (db.deleteRunWaitpoints waitpointId).findWaitpoint id = db.findWaitpoint id := rfl

@[simp] theorem blockersOf_deleteRunWaitpoints (db : Db) (id : Nat) :
    (db.deleteRunWaitpoints id).blockersOf id = [] := by
  simp [blockersOf, deleteRunWaitpoints]

theorem mem_runsToResume {db : Db} {ids : List Nat} {run : TaskRun}
    (member : run ∈ db.runsToResume ids) : run.id ∈ ids := by
  simp only [runsToResume, List.mem_filter, Bool.and_eq_true, List.elem_iff] at member
  exact member.2.1.1

end Db

/-- The store after the three statements before `#completeWaitpoint`'s loop. -/
def State.clearWaitpoint (s : State) (id : Nat) : State :=
  { s with db := (s.db.deleteRunWaitpoints id).setWaitpointStatus id .COMPLETED }

/-- The runs `#completeWaitpoint` continues, in order. -/
def runsResumedBy (s : State) (id : Nat) : List TaskRun :=
  (s.clearWaitpoint id).db.runsToResume ((s.db.blockersOf id).map (·.taskRunId))

theorem completeWaitpointTransaction_eq (locks : Nat → LockOutcome) (id : Nat) (s : State) :
    completeWaitpointTransaction locks id s =
      if s.db.blockersOf id = [] then .error (.error (noTaskRunWaitpoints id)) s
      else (runsResumedBy s id).forM
        (fun run => continueRun (locks run.id) run run.runtimeEnvironment) (s.clearWaitpoint id) := by
  by_cases empty : s.db.blockersOf id = []
  · simp [completeWaitpointTransaction, readDb, empty]
  · simp [completeWaitpointTransaction, readDb, writeDb, empty, runsResumedBy,
      State.clearWaitpoint]

theorem completeWaitpoint_of_pending {locks : Nat → LockOutcome} {id : Nat} {s : State}
    {waitpoint : Waitpoint} (found : s.db.findWaitpoint id = some waitpoint)
    (pending : waitpoint.status = .PENDING) :
    completeWaitpoint locks id s = transaction (completeWaitpointTransaction locks id) s := by
  simp [completeWaitpoint, readDb, found, pending]

/-- The effect a completion promises: the waitpoint is `COMPLETED`, none of its rows is
left, and the rows of every other waitpoint are those of `before`. -/
structure Completed (id : Nat) (before after : State) : Prop where
  status : (after.db.findWaitpoint id).map (·.status) = some .COMPLETED
  cleared : after.db.blockersOf id = []
  others : ∀ row : TaskRunWaitpoint, row.waitpointId ≠ id →
    (row ∈ after.db.runWaitpoints ↔ row ∈ before.db.runWaitpoints)

theorem SnapshotsOnly.findWaitpoint {before after : Db} (frame : SnapshotsOnly before after)
    (id : Nat) : after.findWaitpoint id = before.findWaitpoint id := by
  simp [Db.findWaitpoint, frame.waitpoints]

theorem SnapshotsOnly.blockersOf {before after : Db} (frame : SnapshotsOnly before after)
    (id : Nat) : after.blockersOf id = before.blockersOf id := by
  simp [Db.blockersOf, frame.runWaitpoints]

theorem completeWaitpoint_of_completed {locks : Nat → LockOutcome} {id : Nat} {s : State}
    {waitpoint : Waitpoint} (found : s.db.findWaitpoint id = some waitpoint)
    (completed : waitpoint.status = .COMPLETED) : completeWaitpoint locks id s = .ok () s := by
  simp [completeWaitpoint, readDb, found, completed]

theorem clearWaitpoint_completed {s after : State} {id : Nat} {waitpoint : Waitpoint}
    (found : s.db.findWaitpoint id = some waitpoint)
    (frame : SnapshotsOnly (s.clearWaitpoint id).db after.db) :
    after.db.findWaitpoint id = some { waitpoint with status := .COMPLETED } ∧
      Completed id s after := by
  have foundAfter : after.db.findWaitpoint id = some { waitpoint with status := .COMPLETED } := by
    rw [frame.findWaitpoint]
    simp [State.clearWaitpoint, found]
  refine ⟨foundAfter, ⟨by simp [foundAfter], ?_, fun row other => ?_⟩⟩
  · rw [frame.blockersOf]
    exact Db.blockersOf_deleteRunWaitpoints s.db id
  · rw [frame.runWaitpoints]
    simp [State.clearWaitpoint, Db.setWaitpointStatus, Db.deleteRunWaitpoints, other]

theorem forM_error {β : Type} {f : β → Engine PUnit} {items : List β} {s s' : State}
    {e : EngineError} (threw : items.forM f s = .error e s') :
    ∃ done item rest s₁, items = done ++ item :: rest ∧ done.forM f s = .ok () s₁ ∧
      f item s₁ = .error e s' := by
  induction items generalizing s with
  | nil => cases threw
  | cons item rest ih =>
    rw [List.forM_cons'] at threw
    cases first : f item s with
    | ok _ s₁ =>
      rw [Engine.bind_of_ok first] at threw
      obtain ⟨done, failing, after, s₂, split, ran, failed⟩ := ih threw
      exact ⟨item :: done, failing, after, s₂, by rw [split]; rfl,
        by rw [List.forM_cons', Engine.bind_of_ok first]; exact ran, failed⟩
    | error =>
      rw [Engine.bind_of_error first] at threw
      cases threw
      exact ⟨[], item, rest, s, rfl, rfl, first⟩

/-- `#completeWaitpoint` on an existing waitpoint. A completed waitpoint is left alone; a
pending one that blocks no run raises and changes nothing; a pending one that blocks runs
is completed, and calling again then changes nothing, unless one of its `#continueRun` calls
throws: the calls before it returned, and the call raises that error with the store as it
was. -/
theorem completeWaitpoint_spec (locks : Nat → LockOutcome) {id : Nat} {s : State}
    {waitpoint : Waitpoint} (found : s.db.findWaitpoint id = some waitpoint) :
    (waitpoint.status = .COMPLETED → completeWaitpoint locks id s = .ok () s) ∧
    (waitpoint.status = .PENDING → s.db.blockersOf id = [] →
      completeWaitpoint locks id s = .error (.error (noTaskRunWaitpoints id)) s) ∧
    (waitpoint.status = .PENDING → s.db.blockersOf id ≠ [] →
      (∃ s', completeWaitpoint locks id s = .ok () s' ∧ Completed id s s' ∧
        ∀ again : Nat → LockOutcome, completeWaitpoint again id s' = .ok () s') ∨
      ∃ done run rest s₁ e s₂, runsResumedBy s id = done ++ run :: rest ∧
        done.forM (fun run => continueRun (locks run.id) run run.runtimeEnvironment)
          (s.clearWaitpoint id) = .ok () s₁ ∧
        continueRun (locks run.id) run run.runtimeEnvironment s₁ = .error e s₂ ∧
        completeWaitpoint locks id s = .error e { s₂ with db := s.db }) := by
  refine ⟨completeWaitpoint_of_completed found, fun pending empty => ?_,
    fun pending blocked => ?_⟩
  · rw [completeWaitpoint_of_pending found pending, transaction, completeWaitpointTransaction_eq]
    simp [empty]
  · rw [completeWaitpoint_of_pending found pending, transaction,
      completeWaitpointTransaction_eq, if_neg blocked]
    obtain ⟨store, -, -⟩ := continueRuns_frames locks (runsResumedBy s id) (s.clearWaitpoint id)
    cases loop : (runsResumedBy s id).forM
        (fun run => continueRun (locks run.id) run run.runtimeEnvironment) (s.clearWaitpoint id) with
    | ok _ after =>
      rw [loop, finalState] at store
      obtain ⟨foundAfter, completed⟩ := clearWaitpoint_completed found store
      exact .inl ⟨after, rfl, completed,
        fun again => completeWaitpoint_of_completed foundAfter rfl⟩
    | error e after =>
      obtain ⟨done, run, rest, s₁, split, ran, failed⟩ := forM_error loop
      exact .inr ⟨done, run, rest, s₁, e, after, split, ran, failed, rfl⟩

def exampleEnvironment : AuthenticatedEnvironment := ⟨"env1", "org1", "proj1", .PRODUCTION⟩

/-- Waitpoint 0 blocks run 1, whose latest snapshot is queued. -/
def queuedBlockerState : State where
  db := {
    runs := [⟨1, .PENDING, exampleEnvironment, "task", "queue", "masterQueue", none, none, none⟩]
    snapshots := [⟨3, 1, .QUEUED, "Run was QUEUED", .PENDING, none⟩]
    waitpoints := [⟨0, .MANUAL, .PENDING, "proj1", none, none⟩]
    runWaitpoints := [⟨1, 0, "proj1"⟩]
    taskQueues := [] }
  runQueue := ⟨[], [], [], []⟩
  jobs := []
  nextId := 4
  now := 0

theorem completeWaitpoint_spec_queuedBlocker :
    ∃ s', completeWaitpoint (fun _ => .held) 0 queuedBlockerState = .ok () s' ∧
      Completed 0 queuedBlockerState s' ∧
      ∀ again : Nat → LockOutcome, completeWaitpoint again 0 s' = .ok () s' :=
  ((completeWaitpoint_spec (fun _ => .held)
      (show queuedBlockerState.db.findWaitpoint 0 = some ⟨0, .MANUAL, .PENDING, "proj1", none, none⟩
        from rfl)).2.2 rfl (by decide)).resolve_right
    fun ⟨_, _, _, _, _, _, _, _, _, failed⟩ => by
      cases failed.symm.trans (show completeWaitpoint (fun _ => .held) 0 queuedBlockerState =
        .ok () (finalState (completeWaitpoint (fun _ => .held) 0 queuedBlockerState)) from rfl)

/-- Waitpoint 0 blocks run 1, whose latest snapshot is queued, and run 2, whose latest
snapshot is executing on a worker. -/
def partialResumeState : State where
  db := {
    runs := [⟨1, .PENDING, exampleEnvironment, "task", "queue", "masterQueue", none, none, none⟩,
      ⟨2, .WAITING_TO_RESUME, exampleEnvironment, "task", "queue", "masterQueue", none, none,
        none⟩]
    snapshots := [⟨4, 2, .EXECUTING, "Attempt started", .WAITING_TO_RESUME, some "worker1"⟩,
      ⟨3, 1, .QUEUED, "Run was QUEUED", .PENDING, none⟩]
    waitpoints := [⟨0, .MANUAL, .PENDING, "proj1", none, none⟩]
    runWaitpoints := [⟨1, 0, "proj1"⟩, ⟨2, 0, "proj1"⟩]
    taskQueues := [] }
  runQueue := ⟨[], [], [], []⟩
  jobs := []
  nextId := 5
  now := 0

/-- A pending waitpoint that blocks no run: the associated waitpoint of run 1 while no
parent waits on it. -/
def unblockingWaitpointState : State :=
  { State.empty with
    db := { Db.empty with waitpoints := [⟨0, .RUN, .PENDING, "proj1", some 1, none⟩] }
    nextId := 1 }

theorem completeWaitpoint_fails_without_blocked_runs :
    unblockingWaitpointState.db.findWaitpoint 0 ≠ none ∧
      completeWaitpoint (fun _ => .held) 0 unblockingWaitpointState =
        .error (.error (noTaskRunWaitpoints 0)) unblockingWaitpointState :=
  ⟨by decide, rfl⟩

/-- A failed `#completeWaitpoint` leaves the store as it was; outside it, what remains is
what its `#continueRun` calls wrote for runs the waitpoint was blocking. -/
theorem completeWaitpoint_error_frames {locks : Nat → LockOutcome} {id : Nat} {s s' : State}
    {e : EngineError} (failed : completeWaitpoint locks id s = .error e s') :
    s'.db = s.db ∧ RedisFrame ((s.db.blockersOf id).map (·.taskRunId)) s s' := by
  cases found : s.db.findWaitpoint id with
  | none =>
    simp only [completeWaitpoint, readDb, found, Engine.bind_apply, Engine.get_apply,
      Engine.pure_apply, Engine.throw_apply, EStateM.Result.error.injEq] at failed
    obtain ⟨-, rfl⟩ := failed
    exact ⟨rfl, RedisFrame.refl _ _⟩
  | some waitpoint =>
    cases status : waitpoint.status with
    | COMPLETED => rw [completeWaitpoint_of_completed found status] at failed; cases failed
    | PENDING =>
      rw [completeWaitpoint_of_pending found status, transaction,
        completeWaitpointTransaction_eq] at failed
      by_cases empty : s.db.blockersOf id = []
      · simp only [empty, if_true, EStateM.Result.error.injEq] at failed
        obtain ⟨-, rfl⟩ := failed
        exact ⟨rfl, RedisFrame.refl _ _⟩
      · simp only [empty, if_false] at failed
        obtain ⟨-, redis, -⟩ := continueRuns_frames locks (runsResumedBy s id)
          (s.clearWaitpoint id)
        have resumedBlocked : ∀ runId ∈ (runsResumedBy s id).map (·.id),
            runId ∈ (s.db.blockersOf id).map (·.taskRunId) := by
          simp only [List.mem_map]
          rintro _ ⟨run, member, rfl⟩
          simpa using Db.mem_runsToResume member
        split at failed <;> cases failed
        rename_i after loop
        rw [loop, finalState] at redis
        exact ⟨rfl, (redis.mono resumedBlocked).withDb s.db s.db⟩

theorem partialResume_error_frames :
    ∃ e s', completeWaitpoint (fun _ => .held) 0 partialResumeState = .error e s' ∧
      s'.db = partialResumeState.db ∧ RedisFrame [1, 2] partialResumeState s' :=
  ⟨_, _, rfl, @completeWaitpoint_error_frames (fun _ => .held) 0 partialResumeState _ _ rfl⟩

/-- Run 1 is continued before run 2's `#continueRun` throws: the store is rolled back, but
run 1's message and both stall checks stay. -/
theorem failed_completion_keeps_queue_writes :
    ∃ e s', completeWaitpoint (fun _ => .held) 0 partialResumeState = .error e s' ∧
      s'.runQueue.queued ≠ partialResumeState.runQueue.queued ∧
      s'.jobs ≠ partialResumeState.jobs :=
  ⟨_, _, rfl, by decide, by decide⟩

end RunEngine
