import RunEngine.Store

/-! What the engine touches besides the store: the Run Queue and the delayed-job worker
(both in Redis, outside every transaction), the run locks, and the engine monad. A
transaction rolls back the store and nothing else. -/

namespace RunEngine

open Keys (AuthenticatedEnvironment RuntimeEnvironmentType)

/-- The `message` of `runQueue.enqueueMessage`, with the master queue it is put on. -/
structure RunQueueMessage where
  runId : Nat
  taskIdentifier : String
  orgId : String
  projectId : String
  environmentId : String
  environmentType : RuntimeEnvironmentType
  queue : String
  concurrencyKey : Option String
  masterQueue : String
  deriving DecidableEq, Repr

/-- The environment a message was enqueued for. -/
def RunQueueMessage.environment (message : RunQueueMessage) : AuthenticatedEnvironment :=
  ⟨message.environmentId, message.orgId, message.projectId, message.environmentType⟩

/-- The current-concurrency sets a dequeued message is counted in: its environment's, its
queue's and its task's. -/
def RunQueueMessage.concurrencySets (message : RunQueueMessage) : List String :=
  [Keys.envCurrentConcurrencyKey message.environment,
    Keys.currentConcurrencyKey message.environment message.queue message.concurrencyKey,
    Keys.currentTaskIdentifierKey message.orgId message.projectId message.taskIdentifier
      message.environmentId]

/-- Modelled from the spec: `RunQueue` (`../run-queue`) is not under src/. A message waits
in its queue until a consumer dequeues it, then stays in flight until acknowledged or nacked;
queue limits are stored under `queueConcurrencyLimitKey`, and the current-concurrency sets
as their members, a set key with a message's run id. -/
structure RunQueue where
  queued : List RunQueueMessage
  inFlight : List RunQueueMessage
  concurrencyLimits : List (String × Int)
  currentConcurrency : List (String × Nat)
  deriving DecidableEq, Repr

/-- The jobs of `workerCatalog`, with their payloads. -/
inductive WorkerJob where
  | waitpointCompleteDateTime (waitpointId : Nat)
  | heartbeatSnapshot (runId snapshotId : Nat)
  | expireRun (runId : Nat)
  deriving DecidableEq, Repr

def WorkerJob.isHeartbeat : WorkerJob → Bool
  | .heartbeatSnapshot _ _ => true
  | _ => false

/-- Modelled from the spec: the worker (`@internal/redis-worker`) is not under src/. A job
waits until it is acknowledged; enqueueing under an id already waiting replaces that job. -/
structure ScheduledJob where
  id : Option String
  job : WorkerJob
  availableAt : Nat
  deriving DecidableEq, Repr

structure State where
  db : Db
  runQueue : RunQueue
  jobs : List ScheduledJob
  nextId : Nat
  now : Nat
  deriving DecidableEq, Repr

/-- The state before the engine's first call. -/
def State.empty : State := ⟨Db.empty, ⟨[], [], [], []⟩, [], 0, 0⟩

/-- The errors the engine's code throws: `Error`, `NotImplementedError`, the lock's errors,
and the `TypeError` of reading a property of `undefined`. -/
inductive EngineError where
  | error (message : String)
  | notImplemented (message : String)
  | lockRefused (resource : Nat)
  | lockLost (resource : Nat)
  | typeError (message : String)
  deriving DecidableEq, Repr

abbrev Engine := EStateM EngineError State

namespace Engine

@[simp] theorem bind_apply (x : Engine α) (f : α → Engine β) (s : State) :
    (x >>= f) s = match x s with
      | .ok a s' => f a s'
      | .error e s' => .error e s' := by
  show EStateM.bind x f s = _
  unfold EStateM.bind
  cases x s <;> rfl

@[simp] theorem map_apply (f : α → β) (x : Engine α) (s : State) :
    (f <$> x) s = match x s with
      | .ok a s' => .ok (f a) s'
      | .error e s' => .error e s' := by
  show EStateM.map f x s = _
  unfold EStateM.map
  cases x s <;> rfl

@[simp] theorem pure_apply (a : α) (s : State) : (pure a : Engine α) s = .ok a s := rfl

@[simp] theorem get_apply (s : State) : (get : Engine State) s = .ok s s := rfl

@[simp] theorem set_apply (s s' : State) : (set s' : Engine PUnit) s = .ok ⟨⟩ s' := rfl

@[simp] theorem modify_apply (f : State → State) (s : State) :
    (modify f : Engine PUnit) s = .ok ⟨⟩ (f s) := rfl

@[simp] theorem modifyGet_apply (f : State → α × State) (s : State) :
    (modifyGet f : Engine α) s = .ok (f s).1 (f s).2 := rfl

@[simp] theorem throw_apply (e : EngineError) (s : State) :
    (throw e : Engine α) s = .error e s := rfl

theorem bind_of_ok {x : Engine α} {f : α → Engine β} {s s' : State} {a : α}
    (ran : x s = .ok a s') : (x >>= f) s = f a s' := by
  simp [ran]

theorem bind_of_error {x : Engine α} {f : α → Engine β} {s s' : State} {e : EngineError}
    (ran : x s = .error e s') : (x >>= f) s = .error e s' := by
  simp [ran]

end Engine

/-- The state an engine call leaves behind, whether it returned or threw. -/
def finalState : EStateM.Result EngineError State α → State
  | .ok _ s => s
  | .error _ s => s

def freshId : Engine Nat :=
  modifyGet fun s => (s.nextId, { s with nextId := s.nextId + 1 })

def readDb : Engine Db := do
  return (← get).db

def writeDb (change : Db → Db) : Engine Unit :=
  modify fun s => { s with db := change s.db }

/-- `$transaction(prisma, body, ...)`: on a throw the store is rolled back and the error
rethrown; Run Queue and worker writes made by the body stay. -/
def transaction (body : Engine α) : Engine α := fun s =>
  match body s with
  | .ok a s' => .ok a s'
  | .error e s' => .error e { s' with db := s.db }

/-- What `redlock.using` meets: the lock is refused after its retries, or acquired and
held throughout, or acquired and lost (its extension fails) before the given
`signal.aborted` check. -/
inductive LockOutcome where
  | refused
  | held
  | lostBefore (check : Nat)
  deriving DecidableEq, Repr

/-- `signal.aborted` at the given check. -/
def LockOutcome.aborted : LockOutcome → Nat → Bool
  | .lostBefore lost, check => lost ≤ check
  | _, _ => false

/-- `redlock.using([resource], 5000, body)`. Its `finally` awaits `lock.release()`, which
throws redlock's `ExecutionError` once the lock is lost: that error replaces whatever the body
returned or threw, after the body's writes. The body's own `signal.error` is the
`ExecutionError` of the same lock, so both are `lockLost resource`. -/
def redlockUsing (outcome : LockOutcome) (resource : Nat) (body : (Nat → Bool) → Engine α) :
    Engine α :=
  match outcome with
  | .refused => throw (.lockRefused resource)
  | .held => body outcome.aborted
  | .lostBefore _ => fun s => .error (.lockLost resource) (finalState (body outcome.aborted s))

theorem finalState_redlockUsing {outcome : LockOutcome} (acquired : outcome ≠ .refused)
    (resource : Nat) (body : (Nat → Bool) → Engine α) (s : State) :
    finalState (redlockUsing outcome resource body s) = finalState (body outcome.aborted s) := by
  cases outcome
  case refused => contradiction
  all_goals rfl

/-- The state after `runQueue.enqueueMessage`: the message (re)placed in its queue. -/
def State.enqueue (s : State) (message : RunQueueMessage) : State :=
  let queued := s.runQueue.queued.filter (·.runId != message.runId) ++ [message]
  { s with runQueue := { s.runQueue with queued } }

theorem State.mem_enqueue {s : State} {message other : RunQueueMessage}
    (member : other ∈ (s.enqueue message).runQueue.queued) :
    other ∈ s.runQueue.queued ∨ other = message := by
  simp only [State.enqueue, List.mem_append, List.mem_filter, List.mem_singleton] at member
  exact member.imp And.left id

/-- `runQueue.enqueueMessage`. -/
def enqueueMessage (message : RunQueueMessage) : Engine Unit :=
  modify (·.enqueue message)

/-- `runQueue.dequeueMessageInSharedQueue`: the priority strategy's pick among the queued
messages of the master queue, given by its run id, moves in flight and is counted in its
current-concurrency sets. -/
def dequeueMessageInSharedQueue (masterQueue : String) (pick : Option Nat) :
    Engine (Option RunQueueMessage) := do
  let s ← get
  match s.runQueue.queued.find? fun m => m.masterQueue == masterQueue && some m.runId == pick with
  | none => return none
  | some message =>
    let queued := s.runQueue.queued.filter (·.runId != message.runId)
    let inFlight := s.runQueue.inFlight ++ [message]
    let currentConcurrency := s.runQueue.currentConcurrency ++
      message.concurrencySets.map (·, message.runId)
    set { s with runQueue := { s.runQueue with queued, inFlight, currentConcurrency } }
    return some message

/-- `runQueue.updateQueueConcurrencyLimits`. -/
def updateQueueConcurrencyLimits (env : AuthenticatedEnvironment) (queue : String) (limit : Int) :
    Engine Unit :=
  let key := Keys.queueConcurrencyLimitKey env queue
  modify fun s =>
    let limits := (key, limit) :: s.runQueue.concurrencyLimits.filter (·.1 != key)
    { s with runQueue := { s.runQueue with concurrencyLimits := limits } }

/-- `runQueue.removeQueueConcurrencyLimits`. -/
def removeQueueConcurrencyLimits (env : AuthenticatedEnvironment) (queue : String) :
    Engine Unit :=
  let key := Keys.queueConcurrencyLimitKey env queue
  modify fun s =>
    let limits := s.runQueue.concurrencyLimits.filter (·.1 != key)
    { s with runQueue := { s.runQueue with concurrencyLimits := limits } }

/-- The worker's queue after `worker.enqueue({ id, job, payload, availableAt })`. -/
def scheduleJob (jobs : List ScheduledJob) (job : ScheduledJob) : List ScheduledJob :=
  jobs.filter (fun waiting => job.id.isNone || waiting.id != job.id) ++ [job]

/-- `worker.enqueue({ id, job, payload, availableAt })`. -/
def workerEnqueue (id : Option String) (job : WorkerJob) (availableAt : Nat) : Engine Unit :=
  modify fun s => { s with jobs := scheduleJob s.jobs ⟨id, job, availableAt⟩ }

/-- `worker.ack(id)`. -/
def workerAck (id : String) : Engine Unit :=
  modify fun s => { s with jobs := s.jobs.filter (·.id != some id) }

end RunEngine
