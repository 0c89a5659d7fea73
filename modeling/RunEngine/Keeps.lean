import Mathlib.Order.Defs.Unbundled
import Mathlib.Tactic.LiftLets
import RunEngine.Reachable

/-! What a computation of the engine keeps, whether it returns or throws: `Keeps inv rel x`
says that `x`, run from a state satisfying `inv`, leaves one that satisfies it and that `rel`
relates to the first. The combinators follow the shapes of the engine's code: sequencing,
`if`, `redlock.using`, `$transaction` and loops. -/

namespace RunEngine

def Keeps (inv : State → Prop) (rel : State → State → Prop) (x : Engine α) : Prop :=
  ∀ s, inv s → inv (finalState (x s)) ∧ rel s (finalState (x s))

section Combinators

variable {inv : State → Prop} {rel : State → State → Prop}

theorem Keeps.ite {c : Prop} [Decidable c] {x y : Engine α} (yes : Keeps inv rel x)
    (no : Keeps inv rel y) : Keeps inv rel (if c then x else y) := by
  split
  · exact yes
  · exact no

theorem finalState_discard (x : Engine α) (s : State) :
    finalState (Functor.discard x s) = finalState (x s) := by
  show finalState (EStateM.map _ x s) = _
  unfold EStateM.map
  cases x s <;> rfl

theorem Keeps.discard {x : Engine α} (inner : Keeps inv rel x) :
    Keeps inv rel (Functor.discard x) := fun s holds => by
  rw [finalState_discard]
  exact inner s holds

theorem Keeps.transaction {body : Engine α}
    (rollback : ∀ s s', inv s → rel s s' →
      inv { s' with db := s.db } ∧ rel s { s' with db := s.db })
    (inner : Keeps inv rel body) : Keeps inv rel (transaction body) := by
  intro s holds
  obtain ⟨holds', related⟩ := inner s holds
  unfold RunEngine.transaction
  cases ran : body s with
  | ok a s' => rw [ran] at holds' related; exact ⟨holds', related⟩
  | error e s' =>
    rw [ran] at related
    exact rollback s s' holds related

theorem Keeps.weaken {x : Engine α} {weaker : State → State → Prop} (kept : Keeps inv rel x)
    (implies : ∀ before after, rel before after → weaker before after) : Keeps inv weaker x :=
  fun s holds => (kept s holds).imp_right (implies s _)

theorem Keeps.holds_of_ok {x : Engine α} (kept : Keeps inv rel x) {s s' : State} {a : α}
    (holds : inv s) (ran : x s = .ok a s') : inv s' := by
  simpa only [ran] using (kept s holds).1

variable [IsPreorder State rel]

theorem Keeps.bind_into {x : Engine α} {f : α → Engine β} {Q : α → State → Prop}
    (first : Keeps inv rel x) (start : ∀ s a s', inv s → x s = .ok a s' → Q a s')
    (finish : ∀ a s, Q a s → inv s) (rest : ∀ a, Keeps (Q a) rel (f a)) :
    Keeps inv rel (x >>= f) := by
  intro s holds
  obtain ⟨holds₁, related₁⟩ := first s holds
  cases ran : x s with
  | ok a s₁ =>
    rw [ran] at related₁
    obtain ⟨holds₂, related₂⟩ := rest a s₁ (start s a s₁ holds ran)
    rw [Engine.bind_of_ok ran]
    exact ⟨finish a _ holds₂, trans_of rel related₁ related₂⟩
  | error e s₁ =>
    rw [ran] at holds₁ related₁
    rw [Engine.bind_of_error ran]
    exact ⟨holds₁, related₁⟩

theorem Keeps.bind {x : Engine α} {f : α → Engine β} (first : Keeps inv rel x)
    (rest : ∀ a, Keeps inv rel (f a)) : Keeps inv rel (x >>= f) :=
  first.bind_into (fun _ _ _ => first.holds_of_ok) (fun _ _ holds => holds) rest

theorem Keeps.of_unchanged {x : Engine α} (unchanged : ∀ s, finalState (x s) = s) :
    Keeps inv rel x := fun s holds => by
  rw [unchanged]
  exact ⟨holds, refl_of rel s⟩

theorem keeps_pure (a : α) : Keeps inv rel (pure a : Engine α) := .of_unchanged fun _ => rfl

theorem keeps_throw (e : EngineError) : Keeps inv rel (throw e : Engine α) :=
  .of_unchanged fun _ => rfl

theorem keeps_readDb : Keeps inv rel readDb := .of_unchanged fun _ => rfl

theorem keeps_get : Keeps inv rel (get : Engine State) := .of_unchanged fun _ => rfl

theorem keeps_getLatestExecutionSnapshot (client : ClientArgument) (runId : Option Nat) :
    Keeps inv rel (getLatestExecutionSnapshot client runId) :=
  .of_unchanged fun _ => by cases client <;> cases runId <;> rfl

theorem Keeps.when {c : Prop} [Decidable c] {x : Engine PUnit} {rest : PUnit → Engine α}
    (stmt : Keeps inv rel x) (kept : ∀ y, Keeps inv rel (rest y)) :
    Keeps inv rel (if c then x >>= rest else pure PUnit.unit >>= rest) :=
  .ite (stmt.bind kept) ((keeps_pure _).bind kept)

theorem Keeps.redlockUsing {body : (Nat → Bool) → Engine α}
    (inner : ∀ aborted, Keeps inv rel (body aborted)) (outcome : LockOutcome) (resource : Nat) :
    Keeps inv rel (redlockUsing outcome resource body) := by
  cases outcome
  case refused => exact .of_unchanged fun _ => rfl
  all_goals exact inner _

theorem Keeps.forM {f : β → Engine PUnit} (each : ∀ b, Keeps inv rel (f b)) :
    ∀ items : List β, Keeps inv rel (items.forM f)
  | [] => .of_unchanged fun _ => rfl
  | b :: rest => (each b).bind fun _ => Keeps.forM each rest

theorem Keeps.processJob {locks : Nat → LockOutcome} {job : ScheduledJob}
    (handler : Keeps inv rel (runJob locks job.job))
    (acked : ∀ s a s', runJob locks job.job s = .ok a s' → inv s' →
      inv { s' with jobs := s'.jobs.erase job } ∧ rel s' { s' with jobs := s'.jobs.erase job }) :
    Keeps inv rel (processJob locks job) := fun s holds => by
  obtain ⟨ran, related⟩ := handler s holds
  unfold RunEngine.processJob
  cases returned : runJob locks job.job s with
  | ok a s' =>
    rw [returned] at ran related
    obtain ⟨held, step⟩ := acked s a s' returned ran
    exact ⟨held, trans_of rel related step⟩
  | error _ s' => rw [returned] at ran related; exact ⟨ran, related⟩

end Combinators

/-! ## The engine's functions, from what their statements keep

Each lemma follows the body of one function and asks only for what the engine's own
statements keep; an invariant proves those once and gets every function. -/

/-- What the engine's statements that write neither an execution snapshot nor a Run Queue
message keep: new ids, waitpoints, task queues and their limits, `#completeWaitpoint`'s
updates and the worker's jobs. -/
structure StoreStatements (inv : State → Prop) (rel : State → State → Prop) : Prop where
  fresh : Keeps inv rel freshId
  addWaitpoint : ∀ waitpoint, Keeps inv rel (writeDb (·.addWaitpoint waitpoint))
  updateQueue : ∀ id concurrencyLimit,
    Keeps inv rel (writeDb (·.updateTaskQueue id concurrencyLimit))
  addQueue : ∀ taskQueue, Keeps inv rel (writeDb (·.addTaskQueue taskQueue))
  deleteRows : ∀ id, Keeps inv rel (writeDb (·.deleteRunWaitpoints id))
  complete : ∀ id, Keeps inv rel (writeDb (·.setWaitpointStatus id .COMPLETED))
  pushLimit : ∀ env taskQueue, Keeps inv rel (pushQueueConcurrencyLimit env taskQueue)
  scheduleDateTime : ∀ id availableAt, Keeps inv rel
    (workerEnqueue (some (waitpointCompleteDateTimeJobId id)) (.waitpointCompleteDateTime id)
      availableAt)
  scheduleExpiry : ∀ runId availableAt,
    Keeps inv rel (workerEnqueue none (.expireRun runId) availableAt)

/-- What the engine's statements keep: its writes to the store, the Run Queue and the
worker. -/
structure Statements (inv : State → Prop) (rel : State → State → Prop)
    extends StoreStatements inv rel : Prop where
  snapshot : ∀ runId runStatus executionStatus description,
    Keeps inv rel (createExecutionSnapshot runId runStatus executionStatus description)
  enqueue : ∀ message, Keeps inv rel (enqueueMessage message)
  dequeue : ∀ masterQueue pick, Keeps inv rel (dequeueMessageInSharedQueue masterQueue pick)

section Transfer

variable {frame rel : State → State → Prop} {inv : State → Prop}
  (stable : ∀ before after, inv before → frame before after → inv after ∧ rel before after)
include stable

theorem Keeps.transfer {x : Engine α} (kept : Keeps (fun _ => True) frame x) : Keeps inv rel x :=
  fun s holds => stable s _ holds (kept s trivial).2

theorem StoreStatements.transfer (statements : StoreStatements (fun _ => True) frame) :
    StoreStatements inv rel where
  fresh := statements.fresh.transfer stable
  addWaitpoint _ := (statements.addWaitpoint _).transfer stable
  updateQueue _ _ := (statements.updateQueue _ _).transfer stable
  addQueue _ := (statements.addQueue _).transfer stable
  deleteRows _ := (statements.deleteRows _).transfer stable
  complete _ := (statements.complete _).transfer stable
  pushLimit _ _ := (statements.pushLimit _ _).transfer stable
  scheduleDateTime _ _ := (statements.scheduleDateTime _ _).transfer stable
  scheduleExpiry _ _ := (statements.scheduleExpiry _ _).transfer stable

theorem Statements.transfer (statements : Statements (fun _ => True) frame) :
    Statements inv rel :=
  { statements.toStoreStatements.transfer stable with
    snapshot := fun _ _ _ _ => (statements.snapshot _ _ _ _).transfer stable
    enqueue := fun _ => (statements.enqueue _).transfer stable
    dequeue := fun _ _ => (statements.dequeue _ _).transfer stable }

end Transfer

section StoreFunctions

variable {inv : State → Prop} {rel : State → State → Prop} [IsPreorder State rel]
  (statements : StoreStatements inv rel)
include statements

theorem keeps_createRunAssociatedWaitpoint (projectId : String) (completedByTaskRunId : Nat) :
    Keeps inv rel (createRunAssociatedWaitpoint projectId completedByTaskRunId) :=
  statements.fresh.bind fun _ => (statements.addWaitpoint _).bind fun _ => keeps_pure _

theorem keeps_createDateTimeWaitpoint (projectId : String) (completedAfter : Nat) :
    Keeps inv rel (createDateTimeWaitpoint projectId completedAfter) :=
  statements.fresh.bind fun _ => (statements.addWaitpoint _).bind fun _ =>
    (statements.scheduleDateTime _ _).bind fun _ => keeps_pure _

theorem keeps_updateTaskQueue (id : Nat) (concurrencyLimit : Option Int) :
    Keeps inv rel (updateTaskQueue id concurrencyLimit) :=
  (statements.updateQueue _ _).bind fun _ => keeps_readDb.bind fun db => by
    cases db.taskQueues.find? (·.id == id)
    · exact keeps_throw _
    · exact keeps_pure _

theorem keeps_createTaskQueue (name : String) (concurrencyLimit : Option Int)
    (environmentId : String) :
    Keeps inv rel (createTaskQueue name concurrencyLimit environmentId) :=
  statements.fresh.bind fun _ => (statements.addQueue _).bind fun _ => keeps_pure _

theorem keeps_upsertTaskQueue (env : Keys.AuthenticatedEnvironment) (queueName : String)
    (queue : QueueOptions) : Keeps inv rel (upsertTaskQueue env queueName queue) := by
  unfold upsertTaskQueue
  dsimp only
  refine keeps_readDb.bind fun db => ?_
  cases db.findTaskQueue env.id queueName
  · exact (keeps_createTaskQueue statements _ _ _).bind fun _ => statements.pushLimit _ _
  · exact (keeps_updateTaskQueue statements _ _).bind fun _ => statements.pushLimit _ _

end StoreFunctions

section Dequeue

variable {inv : State → Prop} {rel : State → State → Prop} [IsPreorder State rel]

theorem keeps_dequeueFromMasterQueue_into {Q : Option RunQueueMessage → State → Prop}
    {masterQueue : String} {pick : Option Nat} (lock : LockOutcome)
    (dequeue : Keeps inv rel (dequeueMessageInSharedQueue masterQueue pick))
    (start : ∀ s taken s', inv s →
      dequeueMessageInSharedQueue masterQueue pick s = .ok taken s' → Q taken s')
    (finish : ∀ taken s, Q taken s → inv s)
    (snapshot : ∀ message runStatus, Keeps (Q (some message)) rel
      (createExecutionSnapshot message.runId runStatus .DEQUEUED_FOR_EXECUTION
        "Run was dequeued for execution")) :
    Keeps inv rel (dequeueFromMasterQueue masterQueue pick lock) := by
  unfold dequeueFromMasterQueue
  refine dequeue.bind_into start finish fun message => ?_
  cases message
  · exact keeps_pure _
  refine .redlockUsing (fun _ =>
    (keeps_getLatestExecutionSnapshot _ _).bind fun latest => ?_) _ _
  cases latest
  · exact keeps_throw _
  · exact .when (keeps_throw _) fun _ => (snapshot _ _).bind fun _ => keeps_pure _

end Dequeue

section Functions

variable {inv : State → Prop} {rel : State → State → Prop} [IsPreorder State rel]
  (statements : Statements inv rel)
include statements

theorem keeps_enqueueRun (run : TaskRun) (env : Keys.AuthenticatedEnvironment) :
    Keeps inv rel (enqueueRun run env) :=
  (statements.snapshot _ _ _ _).bind fun _ => statements.enqueue _

theorem keeps_dequeueFromMasterQueue (masterQueue : String) (pick : Option Nat)
    (lock : LockOutcome) : Keeps inv rel (dequeueFromMasterQueue masterQueue pick lock) :=
  keeps_dequeueFromMasterQueue_into (Q := fun _ => inv) lock (statements.dequeue _ _)
    (fun _ _ _ => (statements.dequeue _ _).holds_of_ok) (fun _ _ holds => holds)
    fun _ _ => statements.snapshot _ _ _ _

theorem keeps_continueRun (lock : LockOutcome) (run : TaskRun)
    (env : Keys.AuthenticatedEnvironment) : Keeps inv rel (continueRun lock run env) := by
  unfold continueRun
  refine .redlockUsing (fun _ =>
    (keeps_getLatestExecutionSnapshot _ _).bind fun latest => ?_) _ _
  cases latest
  · exact keeps_throw _
  · exact .ite ((statements.snapshot _ _ _ _).bind fun _ => (keeps_throw _).bind fun _ =>
        (statements.snapshot _ _ _ _).bind fun _ => statements.enqueue _)
      ((keeps_pure _).bind fun _ => (statements.snapshot _ _ _ _).bind fun _ =>
        statements.enqueue _)

theorem keeps_completeWaitpointTransaction (locks : Nat → LockOutcome) (id : Nat) :
    Keeps inv rel (completeWaitpointTransaction locks id) := by
  unfold completeWaitpointTransaction
  exact keeps_readDb.bind fun _ => .when (keeps_throw _) fun _ =>
    (statements.deleteRows _).bind fun _ => (statements.complete _).bind fun _ =>
      keeps_readDb.bind fun _ => Keeps.forM (fun run => keeps_continueRun statements _ run _) _

variable (rollback : ∀ s s', inv s → rel s s' →
  inv { s' with db := s.db } ∧ rel s { s' with db := s.db })
include rollback

theorem keeps_completeWaitpoint (locks : Nat → LockOutcome) (id : Nat) :
    Keeps inv rel (completeWaitpoint locks id) := by
  unfold completeWaitpoint
  refine keeps_readDb.bind fun db => ?_
  cases db.findWaitpoint id
  · exact keeps_throw _
  · exact .ite (keeps_pure _) ((keeps_pure _).bind fun _ =>
      .transaction rollback (keeps_completeWaitpointTransaction statements locks id))

theorem keeps_runJob (locks : Nat → LockOutcome) (job : WorkerJob) :
    Keeps inv rel (runJob locks job) := by
  cases job
  case waitpointCompleteDateTime => exact keeps_completeWaitpoint statements rollback _ _
  case heartbeatSnapshot =>
    exact .of_unchanged fun s => by simp only [runJob, handleStalledSnapshot_eq]; rfl
  case expireRun => exact keeps_pure _

end Functions

section Trigger

variable {inv : State → Prop} {rel : State → State → Prop} [IsPreorder State rel]

/-- What `trigger`'s locked block asks of its statements, each keeping `Q taskRun` for the
run `createTaskRun` has just stored: the run's waitpoint, the queue block, the delay's waitpoint
and its row ahead of the rest of the block, the expiry job and `#enqueueRun`. -/
structure TriggerSteps (Q : TaskRun → State → Prop) (rel : State → State → Prop)
    (params : TriggerParams) : Prop where
  associated : ∀ taskRun, Keeps (Q taskRun) rel
    (createRunAssociatedWaitpoint params.environment.projectId taskRun.id)
  queued : ∀ taskRun queue, Keeps (Q taskRun) rel
    (upsertTaskQueue params.environment params.queueName queue)
  delayed : ∀ taskRun delayUntil, taskRun.delayUntil = some delayUntil →
    ∀ rest : Unit → Engine Unit, (∀ y, Keeps (Q taskRun) rel (rest y)) →
      Keeps (Q taskRun) rel (createDateTimeWaitpoint params.environment.projectId delayUntil >>=
        fun waitpoint => writeDb (·.addRunWaitpoint ⟨taskRun.id, waitpoint.id,
          waitpoint.projectId⟩) >>= rest)
  expiry : ∀ taskRun availableAt,
    Keeps (Q taskRun) rel (workerEnqueue none (.expireRun taskRun.id) availableAt)
  enqueued : ∀ taskRun, Keeps (Q taskRun) rel (enqueueRun taskRun params.environment)

theorem trigger_steps_ensures {Q : TaskRun → State → Prop}
    (parseNaturalLanguageDuration : String → Option Nat) (params : TriggerParams)
    (lock : LockOutcome) (steps : TriggerSteps Q rel params) {s s₁ : State} {taskRun : TaskRun}
    (created : createTaskRun params (if params.delayUntil.isSome then .DELAYED else .PENDING) s =
      .ok taskRun s₁)
    (holds : Q taskRun s₁) :
    Q taskRun (finalState (trigger parseNaturalLanguageDuration params lock s)) ∧
      rel s₁ (finalState (trigger parseNaturalLanguageDuration params lock s)) := by
  unfold trigger
  rw [Engine.bind_of_ok created]
  refine (?_ : Keeps (Q taskRun) rel _) s₁ holds
  refine (Keeps.redlockUsing (fun aborted => ?_) lock _).bind fun _ => keeps_pure _
  refine (steps.associated taskRun).bind fun waitpoint => ?_
  -- the block's join points, from its last statement back to its first check
  lift_lets
  intro enqueueStep secondCheck ttlStep delayStep queueStep firstCheck
  have enqueued : ∀ y, Keeps (Q taskRun) rel (enqueueStep y) := fun _ =>
    .ite (steps.enqueued taskRun) (keeps_pure _)
  have checked : ∀ y, Keeps (Q taskRun) rel (secondCheck y) := fun _ =>
    .when (keeps_throw _) enqueued
  have expiring : ∀ y, Keeps (Q taskRun) rel (ttlStep y) := fun _ => by
    simp only [ttlStep]
    refine .ite ?_ ((keeps_pure _).bind checked)
    split
    · exact .ite (keeps_get.bind fun _ => (steps.expiry _ _).bind checked)
        ((keeps_pure _).bind checked)
    · exact (keeps_pure _).bind checked
  have delayed : ∀ y, Keeps (Q taskRun) rel (delayStep y) := fun _ => by
    simp only [delayStep]
    split
    · rename_i delay
      exact steps.delayed taskRun _ delay _ expiring
    · exact (keeps_pure _).bind expiring
  have queued : ∀ y, Keeps (Q taskRun) rel (queueStep y) := fun _ => by
    simp only [queueStep]
    split
    · exact (steps.queued _ _).bind delayed
    · exact (keeps_pure _).bind delayed
  have locked : ∀ y, Keeps (Q taskRun) rel (firstCheck y) := fun _ =>
    .when (keeps_throw _) queued
  refine .ite ?_ ((keeps_pure _).bind locked)
  split
  · exact (keeps_throw _).bind fun _ => (keeps_pure _).bind locked
  · exact (keeps_pure _).bind locked

theorem trigger_ensures {Q : TaskRun → State → Prop}
    (parseNaturalLanguageDuration : String → Option Nat) (params : TriggerParams)
    (lock : LockOutcome) (statements : ∀ taskRun, StoreStatements (Q taskRun) rel)
    (enqueued : ∀ taskRun, Keeps (Q taskRun) rel (enqueueRun taskRun params.environment))
    (delayRow : ∀ taskRun delayUntil waitpointId projectId,
      taskRun.delayUntil = some delayUntil →
        Keeps (Q taskRun) rel
          (writeDb (·.addRunWaitpoint ⟨taskRun.id, waitpointId, projectId⟩)))
    {s s₁ : State} {taskRun : TaskRun}
    (created : createTaskRun params (if params.delayUntil.isSome then .DELAYED else .PENDING) s =
      .ok taskRun s₁)
    (holds : Q taskRun s₁) :
    Q taskRun (finalState (trigger parseNaturalLanguageDuration params lock s)) ∧
      rel s₁ (finalState (trigger parseNaturalLanguageDuration params lock s)) :=
  trigger_steps_ensures parseNaturalLanguageDuration params lock
    { associated := fun taskRun => keeps_createRunAssociatedWaitpoint (statements taskRun) _ _
      queued := fun taskRun _ => keeps_upsertTaskQueue (statements taskRun) _ _ _
      delayed := fun taskRun _ delay _ rest => (keeps_createDateTimeWaitpoint (statements taskRun)
        _ _).bind fun _ => (delayRow taskRun _ _ _ delay).bind rest
      expiry := fun taskRun _ => (statements taskRun).scheduleExpiry _ _
      enqueued } created holds

theorem keeps_trigger {Q : TaskRun → State → Prop}
    (parseNaturalLanguageDuration : String → Option Nat) (params : TriggerParams)
    (lock : LockOutcome)
    (create : Keeps inv rel
      (createTaskRun params (if params.delayUntil.isSome then .DELAYED else .PENDING)))
    (start : ∀ s taskRun s', inv s →
      createTaskRun params (if params.delayUntil.isSome then .DELAYED else .PENDING) s =
        .ok taskRun s' → Q taskRun s')
    (finish : ∀ taskRun s, Q taskRun s → inv s)
    (statements : ∀ taskRun, StoreStatements (Q taskRun) rel)
    (enqueued : ∀ taskRun, Keeps (Q taskRun) rel (enqueueRun taskRun params.environment))
    (delayRow : ∀ taskRun delayUntil waitpointId projectId,
      taskRun.delayUntil = some delayUntil →
        Keeps (Q taskRun) rel
          (writeDb (·.addRunWaitpoint ⟨taskRun.id, waitpointId, projectId⟩))) :
    Keeps inv rel (trigger parseNaturalLanguageDuration params lock) := fun s holds => by
  have created := createTaskRun_eq params
    (if params.delayUntil.isSome then .DELAYED else .PENDING) s
  obtain ⟨kept, later⟩ := trigger_ensures parseNaturalLanguageDuration params lock statements
    enqueued delayRow created (start s _ _ holds created)
  exact ⟨finish _ _ kept, trans_of rel (create s holds).2 later⟩

end Trigger

end RunEngine
