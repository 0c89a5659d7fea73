import RunEngine.Trigger

/-! The engine as a state machine: the calls it serves and the jobs its worker runs, one
at a time. `Reachable` is every state a sequence of them leaves behind, from an empty
store, whether each call returned or threw. -/

namespace RunEngine

/-- `expire(runId)`: its body is empty. -/
def expire (_runId : Nat) : Engine Unit := pure ()

/-- The handler `workerCatalog` gives a job. -/
def runJob (locks : Nat → LockOutcome) : WorkerJob → Engine Unit
  | .waitpointCompleteDateTime waitpointId => completeWaitpoint locks waitpointId
  | .heartbeatSnapshot runId snapshotId => handleStalledSnapshot runId snapshotId
  | .expireRun runId => expire runId

/-- The worker runs a due job: acknowledged when its handler returns, left for a retry
when it throws. -/
def processJob (locks : Nat → LockOutcome) (job : ScheduledJob) : Engine Unit := fun s =>
  match runJob locks job.job s with
  | .ok _ s' => .ok () { s' with jobs := s'.jobs.erase job }
  | .error e s' => .error e s'

/-- What can happen next: a call of the engine, the worker taking a job, or time passing.
A trigger carries the TTL parser it meets and each call what its locks meet. -/
inductive Operation where
  | trigger (parseNaturalLanguageDuration : String → Option Nat) (params : TriggerParams)
      (lock : LockOutcome)
  | dequeueFromMasterQueue (masterQueue : String) (pick : Option Nat) (lock : LockOutcome)
  | processJob (job : ScheduledJob) (locks : Nat → LockOutcome)
  | tick (elapsed : Nat)

def Operation.run : Operation → Engine Unit
  | .trigger parse params lock => discard (RunEngine.trigger parse params lock)
  | .dequeueFromMasterQueue masterQueue pick lock =>
    discard (RunEngine.dequeueFromMasterQueue masterQueue pick lock)
  | .processJob job locks => RunEngine.processJob locks job
  | .tick elapsed => modify fun s => { s with now := s.now + elapsed }

/-- The state a sequence of operations leaves behind, each run on what the one before left. -/
def Operation.runAll : List Operation → State → State
  | [], s => s
  | op :: ops, s => runAll ops (finalState (op.run s))

/-- The worker only takes a job that is waiting and due. -/
def Operation.Enabled (s : State) : Operation → Prop
  | .processJob job _ => job ∈ s.jobs ∧ job.availableAt ≤ s.now
  | _ => True

/-- The states calls leave when each runs to its end before the next starts. Invariants
proved over `Reachable` are of such serial runs; the statements of the queue block and of
`#completeWaitpoint` also interleave with another call's, and are modelled statement by
statement in `interleaveQueueBlocks` and `ReadCommitted.World`. -/
inductive Reachable : State → Prop
  | empty : Reachable State.empty
  | step {s : State} (op : Operation) : Reachable s → op.Enabled s →
      Reachable (finalState (op.run s))

/-! ## Where a run is -/

def State.isQueued (s : State) (runId : Nat) : Bool :=
  s.runQueue.queued.any (·.runId == runId)

def State.isInFlight (s : State) (runId : Nat) : Bool :=
  s.runQueue.inFlight.any (·.runId == runId)

/-- The places a run can be in: queued, in flight, blocked by a `TaskRunWaitpoint` row. -/
def State.places (s : State) (runId : Nat) : List Bool :=
  [s.isQueued runId, s.isInFlight runId, s.db.isBlocked runId]

/-- Every run whose status is not final is in exactly one place. -/
def InOnePlace (s : State) : Prop :=
  ∀ run ∈ s.db.runs, run.status.isFinal = false → (s.places run.id).count true = 1

instance : DecidablePred InOnePlace := fun s =>
  inferInstanceAs (Decidable (∀ run ∈ s.db.runs, run.status.isFinal = false → _))

/-- A delayed run in the default queue of the example environment. -/
def delayedParams : TriggerParams where
  environment := exampleEnvironment
  taskIdentifier := "task"
  concurrencyKey := none
  masterQueue := "main"
  queueName := "task/task"
  queue := none
  delayUntil := some 10
  ttl := none
  parentTaskRunId := none
  resumeParentOnCompletion := false

/-- After the delayed trigger: run 0 with its `RUN_CREATED` snapshot 1, its waitpoint 2,
and the delay waitpoint 3 that blocks it. -/
def delayedTriggerState : State :=
  finalState ((Operation.trigger (fun _ => none) delayedParams .held).run State.empty)

def delayJob : ScheduledJob :=
  ⟨some (waitpointCompleteDateTimeJobId 3), .waitpointCompleteDateTime 3, 10⟩

/-- After the delay has passed and the worker has completed the delay waitpoint. -/
def delayElapsedState : State :=
  finalState ((Operation.processJob delayJob fun _ => .held).run
    (finalState ((Operation.tick 10).run delayedTriggerState)))

theorem delayed_run_in_no_place : Reachable delayElapsedState ∧ ¬ InOnePlace delayElapsedState :=
  ⟨.step _ (.step _ (.step _ .empty trivial) trivial) ⟨by decide, by decide⟩, by decide⟩

/-! ## Stall checks -/

/-- Whether the run's latest snapshot is `FINISHED` or has its stall-check job waiting. -/
def State.stallChecked (s : State) (runId : Nat) : Bool :=
  match s.db.latestSnapshot runId with
  | none => true
  | some snapshot =>
    snapshot.executionStatus == .FINISHED ||
      s.jobs.any (·.id == some (heartbeatJobId snapshot.id))

theorem delayed_run_without_stall_check :
    Reachable delayedTriggerState ∧
      ∃ run ∈ delayedTriggerState.db.runs, delayedTriggerState.stallChecked run.id = false :=
  ⟨.step _ .empty trivial, by decide⟩

end RunEngine
