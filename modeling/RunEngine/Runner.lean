import RunEngine.Store

/-! The runner side: `ManagedRunController` as continuations suspended at their `await`s
over one controller state. JavaScript runs one continuation at a time, from an `await` to
the next; a schedule says which continuation resumes and what the platform, the task run
process or a timer answers it, or which poller or socket event fires. -/

namespace RunEngine.Runner

/-- `Run`; friendly ids are numbers here. -/
structure Run where
  friendlyId : Nat
  attemptNumber : Option Nat
  deriving DecidableEq, Repr

inductive Phase where
  | IDLE
  | WARM_START
  | RUN (run : Run) (snapshot : Nat)
  deriving DecidableEq, Repr

def Phase.name : Phase → String
  | .IDLE => "IDLE"
  | .WARM_START => "WARM_START"
  | .RUN _ _ => "RUN"

/-- A `TaskRunExecutionResult`: the run of the attempt that produced it, whether it
succeeded, and a failure's retry delay. -/
structure Completion where
  runId : Nat
  ok : Bool
  retryDelay : Option Nat
  deriving DecidableEq, Repr

inductive AttemptStatus where
  | RUN_FINISHED
  | RUN_PENDING_CANCEL
  | RETRY_QUEUED
  | RETRY_IMMEDIATELY
  deriving DecidableEq, Repr

/-- `CompleteRunAttemptResult`. -/
structure CompletionResult where
  attemptStatus : AttemptStatus
  snapshot : Nat
  run : Run
  deriving DecidableEq, Repr

/-- The `execution` of a `getRunExecutionData` response. -/
structure ExecutionData where
  run : Run
  snapshot : Nat
  executionStatus : TaskRunExecutionStatus
  completedWaitpoints : Nat
  deriving DecidableEq, Repr

/-- What the controller does that others see: socket emits, platform requests, and calls
on the task run process, named by the run it executes. -/
inductive Effect where
  | runStart (runId snapshotId : Nat)
  | runStop (runId snapshotId : Nat)
  | startRunAttempt (runId snapshotId : Nat)
  | completeRunAttempt (runId snapshotId : Nat) (completion : Completion)
  | getRunExecutionData (runId : Nat)
  | continueRunExecution (runId snapshotId : Nat)
  | kill (processRunId : Nat)
  | cleanup (processRunId : Nat)
  | cancel (processRunId : Nat)
  | waitpointsCompleted (processRunId count : Nat)
  deriving DecidableEq, Repr

/-- A continuation suspended at an `await`, with the locals it resumes with. -/
inductive Task where
  -- `startAndExecuteRunAttempt`, awaiting `startRunAttempt`.
  | startAttempt (runId snapshotId : Nat)
  -- `executeRun`, awaiting the process's `initialize` and `execute`.
  | execute (run : Run) (snapshot : Nat)
  -- `executeRun`, awaiting `cleanup(true)` after the attempt.
  | cleanup (completion : Completion)
  -- `executeRun`, awaiting `completeRunAttempt`.
  | submit (completion : Completion)
  -- The `catch` of `startAndExecuteRunAttempt`, awaiting `completeRunAttempt`.
  | submitAfterError (completion : Completion)
  -- `handleCompletionResult`, sleeping before an immediate retry.
  | retrySleep (runId : Nat)
  -- `waitForNextRun`, awaiting `kill` on the process it held, if any.
  | kill (processRunId : Option Nat)
  -- `waitForNextRun`, awaiting the warm-start long poll.
  | longPoll
  -- The snapshot poller or `run:notify`, awaiting `getRunExecutionData`.
  | fetchExecutionData
  -- `handleSnapshotChange` on `PENDING_CANCEL`, awaiting `cancelAttempt`.
  | cancel
  -- `handleSnapshotChange` on `EXECUTING_WITH_WAITPOINTS`, awaiting `cleanup(false)`.
  | suspendCleanup (snapshot : Nat)
  -- Then its 200 ms sleep, after which every branch returns.
  | suspendSleep
  -- `handleSnapshotChange` on `PENDING_EXECUTING`, sleeping 100 ms.
  | continueSleep (runId snapshot : Nat)
  -- Then awaiting `continueRunExecution`.
  | continueExecution
  deriving DecidableEq, Repr

/-- What resumes a continuation: a platform response (`none` when unsuccessful), the task
run process settling, or a timer or process call settling. -/
inductive Response where
  | started (result : Option (Run × Nat))
  | executed (result : Option (Bool × Option Nat))
  | completed (result : Option CompletionResult)
  | executionData (result : Option ExecutionData)
  | nextRun (result : Option (Nat × Nat))
  | continued (success : Bool)
  | settled (success : Bool)
  deriving DecidableEq, Repr

/-- The controller's fields and the continuations waiting on it; `taskRunProcess` is the
run whose process it holds, `effects` what it has done so far. -/
structure Controller where
  phase : Phase
  taskRunProcess : Option Nat
  pollerStarted : Bool
  handleSnapshotChangeLock : Bool
  waitForNextRunLock : Bool
  exited : Bool
  tasks : List Task
  effects : List Effect
  deriving DecidableEq, Repr

namespace Controller

def idle : Controller := ⟨.IDLE, none, false, false, false, false, [], []⟩

def emit (c : Controller) (effect : Effect) : Controller :=
  { c with effects := c.effects ++ [effect] }

/-- A call on `this.taskRunProcess?`. -/
def onProcess (c : Controller) (effect : Nat → Effect) : Controller :=
  match c.taskRunProcess with
  | some processRunId => c.emit (effect processRunId)
  | none => c

def suspend (c : Controller) (task : Task) : Controller :=
  { c with tasks := c.tasks ++ [task] }

def unlock (c : Controller) : Controller :=
  { c with handleSnapshotChangeLock := false }

def runFriendlyId (c : Controller) : Option Nat :=
  match c.phase with
  | .RUN run _ => some run.friendlyId
  | _ => none

def snapshotFriendlyId (c : Controller) : Option Nat :=
  match c.phase with
  | .RUN _ snapshot => some snapshot
  | _ => none

/-- `onExitRunPhase(newRun)`: leaving the run stops the poller and emits `run:stop`. -/
def onExitRunPhase (c : Controller) (newRun : Option Nat) : Controller :=
  match c.phase with
  | .RUN run snapshot =>
    if newRun = some run.friendlyId then c
    else { c with pollerStarted := false }.emit (.runStop run.friendlyId snapshot)
  | _ => c

def enterRunPhase (c : Controller) (run : Run) (snapshot : Nat) : Controller :=
  { c.onExitRunPhase (some run.friendlyId) with phase := .RUN run snapshot, pollerStarted := true }

def enterWarmStartPhase (c : Controller) : Controller :=
  { c.onExitRunPhase none with phase := .WARM_START }

/-- `updateRunPhase(run, snapshot)`, with the messages of its throws. -/
def updateRunPhase (c : Controller) (run : Run) (snapshot : Nat) : Except String Controller :=
  match c.phase with
  | .RUN current currentSnapshot =>
    if current.friendlyId ≠ run.friendlyId then .error "Mismatched run IDs"
    else if currentSnapshot = snapshot then .ok c
    else if current.attemptNumber ≠ run.attemptNumber then .error "Attempt number changed"
    else .ok { c with phase := .RUN run snapshot }
  | phase => .error ("Invalid phase for updating snapshot: " ++ phase.name)

/-- `waitForNextRun()` up to its first `await`. -/
def waitForNextRun (c : Controller) : Controller :=
  if c.waitForNextRunLock then c
  else ({ c.enterWarmStartPhase with waitForNextRunLock := true }.onProcess .kill).suspend
    (.kill c.taskRunProcess)

/-- `startAndExecuteRunAttempt(...)` up to its first `await`: it subscribes to the run's
notifications before the attempt is started. -/
def startAndExecuteRunAttempt (c : Controller) (runId snapshotId : Nat) : Controller :=
  ((c.emit (.runStart runId snapshotId)).emit (.startRunAttempt runId snapshotId)).suspend
    (.startAttempt runId snapshotId)

/-- `handleCompletionResult(completion, result)` up to its first `await`; its throws reach
the caller's `catch`, which waits for the next run. -/
def handleCompletionResult (c : Controller) (completion : Completion)
    (result : CompletionResult) : Controller :=
  match c.updateRunPhase result.run result.snapshot with
  | .error _ => c.waitForNextRun
  | .ok c =>
    match result.attemptStatus with
    | .RUN_FINISHED | .RETRY_QUEUED => c.waitForNextRun
    | .RUN_PENDING_CANCEL => c
    | .RETRY_IMMEDIATELY =>
      if completion.ok then c.waitForNextRun
      else if completion.retryDelay.isNone then c.waitForNextRun
      else c.suspend (.retrySleep result.run.friendlyId)

/-- `handleSnapshotChange(data)` up to its first `await`. The lock is taken on entry and
released in `finally`, so it stays taken only across an `await`. -/
def handleSnapshotChange (c : Controller) (data : ExecutionData) : Controller :=
  if c.handleSnapshotChangeLock then c
  else match c.snapshotFriendlyId with
  | none => c
  | some current =>
    if current = data.snapshot then c
    else match c.updateRunPhase data.run data.snapshot with
    | .error _ => c.waitForNextRun
    | .ok c =>
      let locked := { c with handleSnapshotChangeLock := true }
      match data.executionStatus with
      | .PENDING_CANCEL => (locked.onProcess .cancel).suspend .cancel
      | .EXECUTING_WITH_WAITPOINTS =>
        (locked.onProcess .cleanup).suspend (.suspendCleanup data.snapshot)
      | .SUSPENDED => c.waitForNextRun
      | .PENDING_EXECUTING =>
        if data.completedWaitpoints = 0 then c
        else locked.suspend (.continueSleep data.run.friendlyId data.snapshot)
      | .EXECUTING =>
        if data.completedWaitpoints = 0 then c
        else c.onProcess (.waitpointsCompleted · data.completedWaitpoints)
      | .FINISHED | .RUN_CREATED | .QUEUED | .DEQUEUED_FOR_EXECUTION
      | .BLOCKED_BY_WAITPOINTS => c

/-- A continuation resumes with a response of its kind. -/
def resume (c : Controller) : Task → Response → Option Controller
  | .startAttempt _ _, .started none => some c.waitForNextRun
  | .startAttempt _ _, .started (some (run, snapshot)) =>
    let c := c.enterRunPhase run snapshot
    some ({ c with pollerStarted := true, taskRunProcess := some run.friendlyId }.suspend
      (.execute run snapshot))
  | .execute run snapshot, .executed none =>
    let completion : Completion := ⟨run.friendlyId, false, none⟩
    let snapshotId := c.snapshotFriendlyId.getD snapshot
    some ((c.emit (.completeRunAttempt run.friendlyId snapshotId completion)).suspend
      (.submitAfterError completion))
  | .execute run _, .executed (some (ok, retryDelay)) =>
    some ((c.onProcess .cleanup).suspend (.cleanup ⟨run.friendlyId, ok, retryDelay⟩))
  | .cleanup completion, .settled _ =>
    match c.runFriendlyId, c.snapshotFriendlyId with
    | some runId, some snapshotId =>
      some ((c.emit (.completeRunAttempt runId snapshotId completion)).suspend
        (.submit completion))
    | _, _ => some c.waitForNextRun
  | .submit _, .completed none => some c.waitForNextRun
  | .submit completion, .completed (some result) => some (c.handleCompletionResult completion result)
  | .submitAfterError _, .completed none => some c.waitForNextRun
  | .submitAfterError completion, .completed (some result) =>
    some (c.handleCompletionResult completion result)
  | .retrySleep runId, .settled _ =>
    match c.snapshotFriendlyId with
    | none => some c.waitForNextRun
    | some snapshotId => some (c.startAndExecuteRunAttempt runId snapshotId)
  | .kill process, .settled killed =>
    if process.isSome ∧ killed = false then some { c with exited := true }
    else some (c.suspend .longPoll)
  | .longPoll, .nextRun none => some { c with exited := true }
  | .longPoll, .nextRun (some (runId, snapshotId)) =>
    some { c.startAndExecuteRunAttempt runId snapshotId with waitForNextRunLock := false }
  | .fetchExecutionData, .executionData none => some c
  | .fetchExecutionData, .executionData (some data) => some (c.handleSnapshotChange data)
  | .cancel, .settled true => some c.unlock
  | .cancel, .settled false => some c.waitForNextRun.unlock
  | .suspendCleanup snapshot, .settled _ =>
    if c.snapshotFriendlyId = some snapshot then some (c.suspend .suspendSleep) else some c.unlock
  | .suspendSleep, .settled _ => some c.unlock
  | .continueSleep runId snapshot, .settled _ =>
    some ((c.emit (.continueRunExecution runId snapshot)).suspend .continueExecution)
  | .continueExecution, .continued true => some c.unlock
  | .continueExecution, .continued false => some c.waitForNextRun.unlock
  | _, _ => none

/-- A snapshot poll: the poller's heartbeat asks for the current run's execution data. -/
def pollTick (c : Controller) : Controller :=
  match c.runFriendlyId with
  | some runId => (c.emit (.getRunExecutionData runId)).suspend .fetchExecutionData
  | none => c

/-- The `run:notify` handler. -/
def runNotify (c : Controller) (runId : Nat) : Controller :=
  match c.runFriendlyId with
  | some current =>
    if runId = current then (c.emit (.getRunExecutionData current)).suspend .fetchExecutionData
    else c
  | none => c

/-- The socket's `connect` handler re-subscribes to the current run. -/
def connect (c : Controller) : Controller :=
  match c.phase with
  | .RUN run snapshot => c.emit (.runStart run.friendlyId snapshot)
  | _ => c

/-- `start()`: a cold start with the run and snapshot ids of the environment, or a wait
for the next run. -/
def start (coldStart : Option (Nat × Nat)) : Controller :=
  match coldStart with
  | some (runId, snapshotId) => idle.startAndExecuteRunAttempt runId snapshotId
  | none => idle.waitForNextRun

end Controller

/-- What can happen next: a suspended continuation resumes, the started poller fires, a
`run:notify` for a run arrives, or the socket connects. -/
inductive Event where
  | resume (index : Nat) (response : Response)
  | pollTick
  | runNotify (runId : Nat)
  | connect
  deriving DecidableEq, Repr

/-- One event; `none` when it cannot happen, and after the process has exited. -/
def Controller.step (c : Controller) (event : Event) : Option Controller :=
  if c.exited then none
  else match event with
  | .resume index response => do
    let task ← c.tasks.get? index
    { c with tasks := c.tasks.eraseIdx index }.resume task response
  | .pollTick => if c.pollerStarted then some c.pollTick else none
  | .runNotify runId => some (c.runNotify runId)
  | .connect => some c.connect

def Controller.run (c : Controller) : List Event → Option Controller
  | [] => some c
  | event :: rest => (c.step event).bind (·.run rest)

/-! ## Subscriptions -/

/-- The runs with a `run:start` and no later `run:stop`, the last subscribed first. -/
def Controller.subscribed (c : Controller) : List Nat :=
  c.effects.foldl (fun subscribed effect =>
    match effect with
    | .runStart runId _ => runId :: subscribed.filter (· != runId)
    | .runStop runId _ => subscribed.filter (· != runId)
    | _ => subscribed) []

/-- The subscribed runs are at most the run of the current `RUN` phase, and none outside it. -/
def SubscriptionsFollowPhase (c : Controller) : Prop :=
  ∀ runId ∈ c.subscribed, c.runFriendlyId = some runId

instance : DecidablePred SubscriptionsFollowPhase := fun c =>
  inferInstanceAs (Decidable (∀ runId ∈ c.subscribed, c.runFriendlyId = some runId))

namespace Controller

@[simp] theorem runFriendlyId_emit (c : Controller) (effect : Effect) :
    (c.emit effect).runFriendlyId = c.runFriendlyId := rfl

@[simp] theorem runFriendlyId_suspend (c : Controller) (task : Task) :
    (c.suspend task).runFriendlyId = c.runFriendlyId := rfl

@[simp] theorem runFriendlyId_unlock (c : Controller) : c.unlock.runFriendlyId = c.runFriendlyId :=
  rfl

@[simp] theorem runFriendlyId_onProcess (c : Controller) (effect : Nat → Effect) :
    (c.onProcess effect).runFriendlyId = c.runFriendlyId := by
  unfold onProcess; split <;> rfl

@[simp] theorem runFriendlyId_startAndExecuteRunAttempt (c : Controller) (runId snapshotId : Nat) :
    (c.startAndExecuteRunAttempt runId snapshotId).runFriendlyId = c.runFriendlyId := rfl

theorem subscribed_emit (c : Controller) (effect : Effect) :
    (c.emit effect).subscribed = match effect with
      | .runStart runId _ => runId :: c.subscribed.filter (· != runId)
      | .runStop runId _ => c.subscribed.filter (· != runId)
      | _ => c.subscribed := by
  simp only [subscribed, emit, List.foldl_append, List.foldl_cons, List.foldl_nil]

@[simp] theorem subscribed_suspend (c : Controller) (task : Task) :
    (c.suspend task).subscribed = c.subscribed := rfl

@[simp] theorem subscribed_unlock (c : Controller) : c.unlock.subscribed = c.subscribed := rfl

theorem subscribed_onProcess (c : Controller) (effect : Nat → Effect)
    (quiet : ∀ runId, (c.emit (effect runId)).subscribed = c.subscribed) :
    (c.onProcess effect).subscribed = c.subscribed := by
  unfold onProcess; split
  · exact quiet _
  · rfl

theorem updateRunPhase_runFriendlyId {c c' : Controller} {run : Run} {snapshot : Nat}
    (updated : c.updateRunPhase run snapshot = .ok c') : c'.runFriendlyId = c.runFriendlyId := by
  unfold updateRunPhase at updated
  split at updated
  · rename_i current _ _
    split at updated
    · cases updated
    split at updated
    · cases updated; rfl
    split at updated
    · cases updated
    · cases updated; simp_all [runFriendlyId]
  · cases updated

end Controller

/-- From `before` to `after` the controller either keeps its run, or that run is no longer
subscribed. -/
def Unsubscribes (before after : Controller) : Prop :=
  after.runFriendlyId = before.runFriendlyId ∨
    ∀ runId, before.runFriendlyId = some runId → runId ∉ after.subscribed

theorem Unsubscribes.of_keeps {before after : Controller}
    (keeps : after.runFriendlyId = before.runFriendlyId) : Unsubscribes before after :=
  .inl keeps

theorem Unsubscribes.after_keeps {before middle after : Controller}
    (keeps : middle.runFriendlyId = before.runFriendlyId) (next : Unsubscribes middle after) :
    Unsubscribes before after := by
  rcases next with same | gone
  · exact .inl (same.trans keeps)
  · exact .inr fun runId running => gone runId (keeps ▸ running)

theorem Unsubscribes.unlock {before after : Controller} (next : Unsubscribes before after) :
    Unsubscribes before after.unlock :=
  next

theorem onExitRunPhase_unsubscribes (c : Controller) (newRun : Option Nat) :
    (c.onExitRunPhase newRun).runFriendlyId = c.runFriendlyId ∧
      ∀ runId, c.runFriendlyId = some runId → newRun ≠ some runId →
        runId ∉ (c.onExitRunPhase newRun).subscribed := by
  obtain ⟨phase, process, poller, lock, waitLock, exited, tasks, effects⟩ := c
  cases phase with
  | IDLE | WARM_START => simp [Controller.onExitRunPhase, Controller.runFriendlyId]
  | RUN run snapshot =>
    by_cases same : newRun = some run.friendlyId
    · simp_all [Controller.onExitRunPhase, Controller.runFriendlyId]
    · simp only [Controller.onExitRunPhase, if_neg same]
      refine ⟨rfl, ?_⟩
      rintro runId ⟨⟩ -
      simp [Controller.subscribed_emit]

theorem waitForNextRun_unsubscribes (c : Controller) : Unsubscribes c c.waitForNextRun := by
  unfold Controller.waitForNextRun
  split
  · exact .inl rfl
  · refine .inr fun runId running => ?_
    rw [Controller.subscribed_suspend,
      Controller.subscribed_onProcess _ Effect.kill fun _ => by rw [Controller.subscribed_emit]]
    exact (onExitRunPhase_unsubscribes c none).2 runId running (by simp)

theorem enterRunPhase_unsubscribes (c : Controller) (run : Run) (snapshot : Nat) :
    Unsubscribes c (c.enterRunPhase run snapshot) := by
  by_cases same : c.runFriendlyId = some run.friendlyId
  · exact .inl (by rw [same]; rfl)
  · refine .inr fun runId running => ?_
    have other : some run.friendlyId ≠ some runId := fun equal => same (running.trans equal.symm)
    exact (onExitRunPhase_unsubscribes c (some run.friendlyId)).2 runId running other

theorem handleCompletionResult_unsubscribes (c : Controller) (completion : Completion)
    (result : CompletionResult) : Unsubscribes c (c.handleCompletionResult completion result) := by
  unfold Controller.handleCompletionResult
  split
  · exact waitForNextRun_unsubscribes c
  · rename_i updated
    have keeps := Controller.updateRunPhase_runFriendlyId updated
    repeat' split
    all_goals first
      | exact (waitForNextRun_unsubscribes _).after_keeps keeps
      | (apply Unsubscribes.of_keeps; simpa using keeps)

theorem handleSnapshotChange_unsubscribes (c : Controller) (data : ExecutionData) :
    Unsubscribes c (c.handleSnapshotChange data) := by
  unfold Controller.handleSnapshotChange
  split; · exact .of_keeps rfl
  split; · exact .of_keeps rfl
  split; · exact .of_keeps rfl
  split
  · exact waitForNextRun_unsubscribes c
  · rename_i updated
    have keeps := Controller.updateRunPhase_runFriendlyId updated
    repeat' split
    all_goals first
      | exact (waitForNextRun_unsubscribes _).after_keeps keeps
      | (apply Unsubscribes.of_keeps; simpa using keeps)

theorem resume_unsubscribes {c c' : Controller} {task : Task} {response : Response}
    (resumed : c.resume task response = some c') : Unsubscribes c c' := by
  cases task <;>
    rcases response with (_ | ⟨run, snapshot⟩) | (_ | ⟨ok, retryDelay⟩) | (_ | result) |
      (_ | data) | (_ | ⟨runId, snapshotId⟩) | success | success <;> try cases resumed
  case startAttempt.started.some => exact enterRunPhase_unsubscribes c run snapshot
  case startAttempt.started.none | submit.completed.none | submitAfterError.completed.none =>
    exact waitForNextRun_unsubscribes c
  case submit.completed.some | submitAfterError.completed.some =>
    exact handleCompletionResult_unsubscribes c _ _
  case fetchExecutionData.executionData.some => exact handleSnapshotChange_unsubscribes c _
  case execute.executed.some => exact .of_keeps (by simp)
  case cleanup.settled | retrySleep.settled | suspendCleanup.settled =>
    unfold Controller.resume at resumed; dsimp only at resumed
    split at resumed <;> cases resumed
    all_goals first
      | exact waitForNextRun_unsubscribes c
      | exact .of_keeps rfl
  case cancel.settled | continueExecution.continued =>
    cases success <;> cases resumed
    · exact (waitForNextRun_unsubscribes c).unlock
    · exact .of_keeps rfl
  case kill.settled =>
    unfold Controller.resume at resumed; dsimp only at resumed
    split at resumed <;> cases resumed <;> exact .of_keeps rfl
  -- the other continuations keep the phase
  all_goals exact .of_keeps rfl

theorem step_unsubscribes {c c' : Controller} {event : Event} (stepped : c.step event = some c') :
    Unsubscribes c c' := by
  unfold Controller.step at stepped
  by_cases exited : c.exited
  · simp [exited] at stepped
  rw [if_neg exited] at stepped
  cases event with
  | resume index response =>
    obtain ⟨task, -, resumed⟩ := Option.bind_eq_some.mp stepped
    exact (resume_unsubscribes resumed).after_keeps rfl
  | pollTick =>
    by_cases started : c.pollerStarted
    · simp only [started, if_true, Option.some.injEq] at stepped
      subst stepped
      apply Unsubscribes.of_keeps
      unfold Controller.pollTick; split <;> simp
    · simp [started] at stepped
  | runNotify runId =>
    cases stepped
    apply Unsubscribes.of_keeps
    unfold Controller.runNotify; repeat' split
    all_goals simp
  | connect =>
    cases stepped
    apply Unsubscribes.of_keeps
    unfold Controller.connect; split <;> simp

/-- Whenever a step moves the controller off a run, that run is no longer subscribed:
leaving a `RUN` phase always emits its `run:stop`. -/
theorem step_leaves_run_unsubscribed {c c' : Controller} {event : Event} {runId : Nat}
    (stepped : c.step event = some c') (running : c.runFriendlyId = some runId)
    (left : c'.runFriendlyId ≠ some runId) : runId ∉ c'.subscribed :=
  (step_unsubscribes stepped).elim (fun same => absurd (same.trans running) left)
    (· runId running)

theorem finished_run_unsubscribed :
    ∃ c c', (Controller.start (some (1, 10))).run
        [.resume 0 (.started (some (⟨1, some 1⟩, 11))), .resume 0 (.executed (some (true, none))),
          .resume 0 (.settled true)] = some c ∧
      c.step (.resume 0 (.completed (some ⟨.RUN_FINISHED, 12, ⟨1, some 1⟩⟩))) = some c' ∧
      1 ∉ c'.subscribed :=
  ⟨_, _, (Option.some_get (by decide)).symm, (Option.some_get (by decide)).symm,
    step_leaves_run_unsubscribed (Option.some_get (by decide)).symm (by decide) (by decide)⟩

/-- A cold start of run 1 whose attempt the platform refuses; the warm start then gets run 2. -/
def failedStartSchedule : List Event :=
  [.resume 0 (.started none), .resume 0 (.settled true), .resume 0 (.nextRun (some (2, 20))),
    .resume 0 (.started (some (⟨2, some 1⟩, 21)))]

theorem failed_start_never_unsubscribes :
    ∃ final, (Controller.start (some (1, 10))).run failedStartSchedule = some final ∧
      final.phase = .RUN ⟨2, some 1⟩ 21 ∧ final.subscribed = [2, 1] ∧
      ¬ SubscriptionsFollowPhase final :=
  ⟨_, (Option.some_get (by decide)).symm, by decide, by decide, by decide⟩

/-! ## Runs crossing -/

/-- Run 1 starts and a snapshot poll for it goes out; the attempt finishes, and the warm
start gets run 2 and starts it, all before the poll is answered. -/
def stalePollPrefix : List Event :=
  [.resume 0 (.started (some (⟨1, some 1⟩, 11))), .pollTick,
    .resume 0 (.executed (some (true, none))), .resume 1 (.settled true),
    .resume 1 (.completed (some ⟨.RUN_FINISHED, 12, ⟨1, some 1⟩⟩)), .resume 1 (.settled true),
    .resume 1 (.nextRun (some (2, 20))), .resume 1 (.started (some (⟨2, some 1⟩, 21)))]

/-- Run 1 starts; a poll finds it suspended, and the runner moves to run 2 while run 1's
process has not settled. -/
def lateSettlePrefix : List Event :=
  [.resume 0 (.started (some (⟨1, some 1⟩, 11))), .pollTick,
    .resume 1 (.executionData (some ⟨⟨1, some 1⟩, 12, .SUSPENDED, 0⟩)), .resume 1 (.settled true),
    .resume 1 (.nextRun (some (2, 20))), .resume 1 (.started (some (⟨2, some 1⟩, 21)))]

theorem stale_run_data_crosses_runs :
    (∃ before final, (Controller.start (some (1, 10))).run stalePollPrefix = some before ∧
      before.phase = .RUN ⟨2, some 1⟩ 21 ∧
      before.step (.resume 0 (.executionData (some ⟨⟨1, some 1⟩, 12, .FINISHED, 0⟩))) =
        some final ∧
      final.phase = .WARM_START ∧ final.effects = before.effects ++ [.runStop 2 21, .kill 2]) ∧
    (∃ before final, (Controller.start (some (1, 10))).run lateSettlePrefix = some before ∧
      before.phase = .RUN ⟨2, some 1⟩ 21 ∧ before.tasks.head? = some (.execute ⟨1, some 1⟩ 11) ∧
      before.run [.resume 0 (.executed (some (true, none))), .resume 1 (.settled true)] =
        some final ∧
      final.effects = before.effects ++ [.cleanup 2, .completeRunAttempt 2 21 ⟨1, true, none⟩]) :=
  ⟨⟨_, _, (Option.some_get (by decide)).symm, by decide, (Option.some_get (by decide)).symm,
      by decide, by decide⟩,
    ⟨_, _, (Option.some_get (by decide)).symm, by decide, by decide,
      (Option.some_get (by decide)).symm, by decide⟩⟩

end RunEngine.Runner
