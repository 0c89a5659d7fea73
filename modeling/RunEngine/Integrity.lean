import RunEngine.QueueLimits
import RunEngine.StallChecks
import RunEngine.Dequeue

/-! The store's integrity over every reachable state. The ids drawn from `nextId` are primary
keys, task queues are unique per environment and name, every `TaskRunWaitpoint` row names a
pending waitpoint, and every pending `DATETIME` waitpoint keeps the worker job that completes
it: no timer is lost, whether a call returns or throws. -/

namespace RunEngine

/-! ## Timers -/

theorem waitpointCompleteDateTimeJobId_injective :
    Function.Injective waitpointCompleteDateTimeJobId := by
  intro n m same
  apply toString_injective
  have := congrArg String.data same
  simp only [waitpointCompleteDateTimeJobId, String.data_append,
    List.append_cancel_left_eq] at this
  exact String.ext this

/-- The job that completes the `DATETIME` waitpoint is waiting. -/
def HasTimer (jobs : List ScheduledJob) (waitpointId : Nat) : Prop :=
  ∃ job ∈ jobs, job.id = some (waitpointCompleteDateTimeJobId waitpointId) ∧
    job.job = .waitpointCompleteDateTime waitpointId

theorem HasTimer.scheduleJob {jobs : List ScheduledJob} {job : ScheduledJob} {waitpointId : Nat}
    (waiting : HasTimer jobs waitpointId)
    (other : job.id ≠ some (waitpointCompleteDateTimeJobId waitpointId)) :
    HasTimer (scheduleJob jobs job) waitpointId := by
  obtain ⟨timer, member, named, completes⟩ := waiting
  exact ⟨timer, mem_scheduleJob.mpr (.inl ⟨member, .inr (named ▸ other.symm)⟩), named,
    completes⟩

theorem HasTimer.erase {jobs : List ScheduledJob} {job : ScheduledJob} {waitpointId : Nat}
    (waiting : HasTimer jobs waitpointId)
    (other : job.job ≠ .waitpointCompleteDateTime waitpointId) :
    HasTimer (jobs.erase job) waitpointId := by
  obtain ⟨timer, member, named, completes⟩ := waiting
  exact ⟨timer, (List.mem_erase_of_ne fun same : timer = job => other (same ▸ completes)).mpr
    member, named, completes⟩

/-! ## The invariant -/

/-- Ids drawn from `nextId`: distinct and below it. -/
structure FreshIds (ids : List Nat) (nextId : Nat) : Prop where
  nodup : ids.Nodup
  below : ∀ id ∈ ids, id < nextId

theorem FreshIds.mono {ids : List Nat} {nextId later : Nat} (fresh : FreshIds ids nextId)
    (grown : nextId ≤ later) : FreshIds ids later :=
  ⟨fresh.nodup, fun id member => Nat.lt_of_lt_of_le (fresh.below id member) grown⟩

theorem FreshIds.push {ids : List Nat} {nextId : Nat} (fresh : FreshIds ids nextId) :
    FreshIds (ids ++ [nextId]) (nextId + 1) where
  nodup := fresh.nodup.append (List.nodup_singleton _) fun id old new =>
    Nat.lt_irrefl _ ((List.mem_singleton.mp new) ▸ fresh.below id old)
  below id member := by
    rcases List.mem_append.mp member with old | new
    · exact Nat.lt_succ_of_lt (fresh.below id old)
    · exact (List.mem_singleton.mp new) ▸ Nat.lt_succ_self _

/-- The key a task queue is unique under: its environment and its name. -/
def TaskQueue.key (taskQueue : TaskQueue) : String × String :=
  (taskQueue.runtimeEnvironmentId, taskQueue.name)

/-- Run, waitpoint and task queue ids are primary keys drawn from `nextId`; no two task queues
share an environment and a name; every `TaskRunWaitpoint` row names a pending waitpoint; and
every pending `DATETIME` waitpoint has its completion job waiting. -/
structure Integrity (s : State) : Prop where
  runs : FreshIds (s.db.runs.map (·.id)) s.nextId
  waitpoints : FreshIds (s.db.waitpoints.map (·.id)) s.nextId
  queues : QueueIds s
  queueKeys : (s.db.taskQueues.map TaskQueue.key).Nodup
  rowsPending : ∀ row ∈ s.db.runWaitpoints, ∃ waitpoint ∈ s.db.waitpoints,
    waitpoint.id = row.waitpointId ∧ waitpoint.status = .PENDING
  timers : ∀ waitpoint ∈ s.db.waitpoints, waitpoint.type = .DATETIME →
    waitpoint.status = .PENDING → HasTimer s.jobs waitpoint.id

/-- From `before` to `after` ids only grow and no waiting timer is lost. -/
structure TimersKept (before after : State) : Prop where
  nextId : before.nextId ≤ after.nextId
  timers : ∀ waitpointId, HasTimer before.jobs waitpointId → HasTimer after.jobs waitpointId

instance : IsPreorder State TimersKept where
  refl _ := ⟨Nat.le_refl _, fun _ waiting => waiting⟩
  trans _ _ _ early late := ⟨Nat.le_trans early.nextId late.nextId,
    fun id waiting => late.timers id (early.timers id waiting)⟩

theorem QueueIds.mono {s s' : State} (ids : QueueIds s) (sameQueues : s'.db.taskQueues = s.db.taskQueues)
    (grown : s.nextId ≤ s'.nextId) : QueueIds s' :=
  ⟨sameQueues ▸ ids.nodup, fun taskQueue member =>
    Nat.lt_of_lt_of_le (ids.fresh taskQueue (sameQueues ▸ member)) grown⟩

theorem Integrity.of_frame {before after : State} (holds : Integrity before)
    (store : SnapshotsOnly before.db after.db) (kept : TimersKept before after) :
    Integrity after where
  runs := store.runs ▸ holds.runs.mono kept.nextId
  waitpoints := store.waitpoints ▸ holds.waitpoints.mono kept.nextId
  queues := holds.queues.mono store.taskQueues kept.nextId
  queueKeys := store.taskQueues ▸ holds.queueKeys
  rowsPending := store.runWaitpoints ▸ store.waitpoints ▸ holds.rowsPending
  timers waitpoint member dateTime pending :=
    kept.timers _ (holds.timers waitpoint (store.waitpoints ▸ member) dateTime pending)

/-- Run from an intact store, the computation leaves one, and loses no timer, whether it
returns or throws. -/
abbrev KeepsIntegrity (x : Engine α) : Prop := Keeps Integrity TimersKept x

/-! ## Statements outside the rows -/

theorem TimersKept.of_redisFrame {resumed : List Nat} {before after : State}
    (frame : RedisFrame resumed before after) : TimersKept before after where
  nextId := frame.nextId
  timers id := fun ⟨timer, member, named, completes⟩ =>
    match frame.jobsKept timer member with
    | .inl kept => ⟨timer, kept, named, completes⟩
    | .inr ⟨n, _, heartbeat⟩ =>
      absurd (Option.some.inj (heartbeat.symm.trans named)) (heartbeatJobId_ne_dateTime n id)

theorem KeepsIntegrity.of_redisFrame {x : Engine α}
    (frame : ∀ s, ∃ resumed, SnapshotsOnly s.db (finalState (x s)).db ∧
      RedisFrame resumed s (finalState (x s))) : KeepsIntegrity x := fun s holds =>
  let ⟨_, store, redis⟩ := frame s
  have kept := TimersKept.of_redisFrame redis
  ⟨holds.of_frame store kept, kept⟩

theorem KeepsIntegrity.of_sameStore {x : Engine α}
    (frame : ∀ s, (finalState (x s)).db = s.db ∧ (finalState (x s)).jobs = s.jobs ∧
      (finalState (x s)).nextId = s.nextId) : KeepsIntegrity x := fun s holds => by
  obtain ⟨sameDb, sameJobs, sameNext⟩ := frame s
  have kept : TimersKept s (finalState (x s)) := ⟨sameNext ▸ Nat.le_refl _, fun _ => sameJobs ▸ id⟩
  exact ⟨holds.of_frame (sameDb ▸ SnapshotsOnly.refl _) kept, kept⟩

theorem keepsIntegrity_createExecutionSnapshot (runId : Nat) (runStatus : TaskRunStatus)
    (executionStatus : TaskRunExecutionStatus) (description : String) :
    KeepsIntegrity (createExecutionSnapshot runId runStatus executionStatus description) :=
  .of_redisFrame fun s => ⟨[runId], by
    rw [createExecutionSnapshot_eq]
    exact appendSnapshot_frames s (List.mem_singleton_self _) runStatus executionStatus
      description⟩

theorem keepsIntegrity_enqueueMessage (message : RunQueueMessage) :
    KeepsIntegrity (enqueueMessage message) :=
  .of_redisFrame fun s => ⟨[message.runId], enqueue_frames s message (List.mem_singleton_self _)⟩

theorem keepsIntegrity_continueRun (lock : LockOutcome) (run : TaskRun)
    (env : Keys.AuthenticatedEnvironment) : KeepsIntegrity (continueRun lock run env) :=
  .of_redisFrame fun s => ⟨[run.id], (continueRun_frames lock run env s).1,
    (continueRun_frames lock run env s).2.1⟩

theorem keepsIntegrity_dequeueMessageInSharedQueue (masterQueue : String) (pick : Option Nat) :
    KeepsIntegrity (dequeueMessageInSharedQueue masterQueue pick) :=
  .of_sameStore fun s => by
    unfold dequeueMessageInSharedQueue
    simp only [Engine.bind_apply, Engine.get_apply]
    cases s.runQueue.queued.find? fun m => m.masterQueue == masterQueue && some m.runId == pick <;>
      exact ⟨rfl, rfl, rfl⟩

theorem keepsIntegrity_pushQueueConcurrencyLimit (env : Keys.AuthenticatedEnvironment)
    (taskQueue : TaskQueue) : KeepsIntegrity (pushQueueConcurrencyLimit env taskQueue) :=
  .of_sameStore fun _ => by
    unfold pushQueueConcurrencyLimit; cases taskQueue.concurrencyLimit <;> exact ⟨rfl, rfl, rfl⟩

theorem keepsIntegrity_expiry (runId availableAt : Nat) :
    KeepsIntegrity (workerEnqueue none (.expireRun runId) availableAt) := fun s holds =>
  have kept : TimersKept s (finalState (workerEnqueue none (.expireRun runId) availableAt s)) :=
    ⟨Nat.le_refl _, fun _ waiting => waiting.scheduleJob Option.noConfusion⟩
  ⟨holds.of_frame (SnapshotsOnly.refl _) kept, kept⟩

theorem keepsIntegrity_enqueueRun (run : TaskRun) (env : Keys.AuthenticatedEnvironment) :
    KeepsIntegrity (enqueueRun run env) :=
  (keepsIntegrity_createExecutionSnapshot _ _ _ _).bind fun _ => keepsIntegrity_enqueueMessage _

/-! ## Rows under new ids -/

theorem keepsIntegrity_createTaskRun (params : TriggerParams) (status : TaskRunStatus) :
    KeepsIntegrity (createTaskRun params status) := fun s holds =>
  have kept : TimersKept s (finalState (createTaskRun params status s)) :=
    ⟨Nat.le_add_right _ 2, fun _ waiting => waiting⟩
  ⟨{ runs := by
      show FreshIds ((s.db.runs ++ [_]).map TaskRun.id) (s.nextId + 1 + 1)
      rw [List.map_append, List.map_singleton]
      exact holds.runs.push.mono (Nat.le_succ _)
     waitpoints := holds.waitpoints.mono kept.nextId
     queues := holds.queues.mono rfl kept.nextId
     queueKeys := holds.queueKeys
     rowsPending := holds.rowsPending
     timers := holds.timers }, kept⟩

theorem Integrity.addWaitpoint {s : State} (holds : Integrity s) {waitpoint : Waitpoint}
    (named : waitpoint.id = s.nextId) {jobs : List ScheduledJob}
    (kept : ∀ id, HasTimer s.jobs id → HasTimer jobs id)
    (timer : waitpoint.type = .DATETIME → waitpoint.status = .PENDING →
      HasTimer jobs waitpoint.id) :
    Integrity { s with db := s.db.addWaitpoint waitpoint, jobs, nextId := s.nextId + 1 } where
  runs := holds.runs.mono (Nat.le_succ _)
  waitpoints := by
    show FreshIds ((s.db.waitpoints ++ [waitpoint]).map Waitpoint.id) (s.nextId + 1)
    rw [List.map_append, List.map_singleton, named]
    exact holds.waitpoints.push
  queues := holds.queues.mono rfl (Nat.le_succ _)
  queueKeys := holds.queueKeys
  rowsPending row member :=
    let ⟨old, stored, same, pending⟩ := holds.rowsPending row member
    ⟨old, List.mem_append_left _ stored, same, pending⟩
  timers other member dateTime pending := by
    rcases List.mem_append.mp member with old | new
    · exact kept _ (holds.timers other old dateTime pending)
    · obtain rfl := List.mem_singleton.mp new
      exact timer dateTime pending

theorem keepsIntegrity_createRunAssociatedWaitpoint (projectId : String)
    (completedByTaskRunId : Nat) :
    KeepsIntegrity (createRunAssociatedWaitpoint projectId completedByTaskRunId) := fun _ holds =>
  ⟨holds.addWaitpoint rfl (fun _ waiting => waiting) (fun dateTime => nomatch dateTime),
    Nat.le_succ _, fun _ waiting => waiting⟩

theorem keepsIntegrity_delay (projectId : String) (completedAfter runId : Nat)
    {rest : Unit → Engine Unit} (kept : ∀ y, KeepsIntegrity (rest y)) :
    KeepsIntegrity (createDateTimeWaitpoint projectId completedAfter >>= fun waitpoint =>
      writeDb (·.addRunWaitpoint ⟨runId, waitpoint.id, waitpoint.projectId⟩) >>= rest) :=
  fun s holds => by
    let timer : ScheduledJob := ⟨some (waitpointCompleteDateTimeJobId s.nextId),
      .waitpointCompleteDateTime s.nextId, completedAfter⟩
    let waitpoint : Waitpoint :=
      ⟨s.nextId, .DATETIME, .PENDING, projectId, none, some completedAfter⟩
    have created : createDateTimeWaitpoint projectId completedAfter s = .ok waitpoint
        { s with db := s.db.addWaitpoint waitpoint, jobs := scheduleJob s.jobs timer,
                 nextId := s.nextId + 1 } := rfl
    have own : HasTimer (scheduleJob s.jobs timer) s.nextId :=
      ⟨timer, mem_scheduleJob.mpr (.inr rfl), rfl, rfl⟩
    have others : ∀ id, HasTimer s.jobs id → HasTimer (scheduleJob s.jobs timer) id :=
      fun id waiting => by
        by_cases same : id = s.nextId
        · exact same ▸ own
        · exact waiting.scheduleJob fun named =>
            same (waitpointCompleteDateTimeJobId_injective (Option.some.inj named)).symm
    have stored : Integrity
        { s with db := s.db.addWaitpoint waitpoint, jobs := scheduleJob s.jobs timer,
                 nextId := s.nextId + 1 } :=
      holds.addWaitpoint rfl others fun _ _ => own
    rw [Engine.bind_of_ok created, Engine.bind_of_ok (x := writeDb _) rfl]
    have blocked : Integrity { s with
        db := (s.db.addWaitpoint waitpoint).addRunWaitpoint ⟨runId, s.nextId, projectId⟩,
        jobs := scheduleJob s.jobs timer, nextId := s.nextId + 1 } :=
      { stored with
        queues := stored.queues.mono rfl (Nat.le_refl _)
        rowsPending := fun row member => by
          rcases List.mem_append.mp member with old | new
          · exact stored.rowsPending row old
          · exact ⟨waitpoint, List.mem_append_right _ (List.mem_singleton_self _),
              by rw [List.mem_singleton.mp new], rfl⟩ }
    exact (kept () _ blocked).imp_right (trans_of TimersKept ⟨Nat.le_succ _, others⟩)

/-! ## The queue block -/

theorem Integrity.updateTaskQueue {s : State} (holds : Integrity s) (id : Nat)
    (concurrencyLimit : Option Int) :
    Integrity { s with db := s.db.updateTaskQueue id concurrencyLimit } where
  runs := holds.runs
  waitpoints := holds.waitpoints
  queues := holds.queues.update id concurrencyLimit
  queueKeys := by
    have same : (s.db.updateTaskQueue id concurrencyLimit).taskQueues.map TaskQueue.key =
        s.db.taskQueues.map TaskQueue.key := by
      simp [Db.updateTaskQueue_taskQueues, Function.comp_def, apply_ite, TaskQueue.key]
    exact same ▸ holds.queueKeys
  rowsPending := holds.rowsPending
  timers := holds.timers

theorem Integrity.createTaskQueue {s : State} (holds : Integrity s) {environmentId name : String}
    (absent : s.db.findTaskQueue environmentId name = none) (concurrencyLimit : Option Int) :
    Integrity { s with
      db := s.db.addTaskQueue ⟨s.nextId, name, environmentId, concurrencyLimit⟩,
      nextId := s.nextId + 1 } where
  runs := holds.runs.mono (Nat.le_succ _)
  waitpoints := holds.waitpoints.mono (Nat.le_succ _)
  queues := holds.queues.create name concurrencyLimit environmentId
  queueKeys := by
    show ((s.db.taskQueues ++ [_]).map TaskQueue.key).Nodup
    rw [List.map_append, List.map_singleton]
    refine holds.queueKeys.append (List.nodup_singleton _) fun key old new => ?_
    obtain ⟨taskQueue, member, rfl⟩ := List.mem_map.mp old
    have other := List.find?_eq_none.mp absent taskQueue member
    simp only [TaskQueue.key, List.mem_singleton, Prod.mk.injEq] at new
    simp [new] at other
  rowsPending := holds.rowsPending
  timers := holds.timers

theorem keepsIntegrity_upsertTaskQueue (env : Keys.AuthenticatedEnvironment) (queueName : String)
    (queue : QueueOptions) : KeepsIntegrity (upsertTaskQueue env queueName queue) :=
  fun s holds => by
    let limit := queue.concurrencyLimit.map (max 0)
    cases found : s.db.findTaskQueue env.id queueName with
    | none =>
      have kept : TimersKept s { s with
          db := s.db.addTaskQueue ⟨s.nextId, queueName, env.id, limit⟩,
          nextId := s.nextId + 1 } := ⟨Nat.le_succ _, fun _ waiting => waiting⟩
      simp only [upsertTaskQueue, readDb, Engine.bind_apply, Engine.get_apply,
        Engine.pure_apply, found, createTaskQueue_eq]
      exact (keepsIntegrity_pushQueueConcurrencyLimit _ _ _
        (holds.createTaskQueue found limit)).imp_right (trans_of TimersKept kept)
    | some row =>
      have kept : TimersKept s { s with db := s.db.updateTaskQueue row.id limit } :=
        ⟨Nat.le_refl _, fun _ waiting => waiting⟩
      simp only [upsertTaskQueue, readDb, Engine.bind_apply, Engine.get_apply,
        Engine.pure_apply, found,
        updateTaskQueue_of_mem holds.queues (List.mem_of_find?_eq_some found)]
      exact (keepsIntegrity_pushQueueConcurrencyLimit _ _ _
        (holds.updateTaskQueue row.id limit)).imp_right (trans_of TimersKept kept)

/-! ## `#completeWaitpoint` -/

theorem Integrity.clearWaitpoint {s : State} (holds : Integrity s) (id : Nat) :
    Integrity (s.clearWaitpoint id) where
  runs := holds.runs
  waitpoints := by
    show FreshIds ((s.db.waitpoints.map _).map Waitpoint.id) s.nextId
    simpa [Function.comp_def, apply_ite] using holds.waitpoints
  queues := holds.queues.mono rfl (Nat.le_refl _)
  queueKeys := holds.queueKeys
  rowsPending row member := by
    simp only [State.clearWaitpoint, Db.setWaitpointStatus, Db.deleteRunWaitpoints,
      List.mem_filter, bne_iff_ne, ne_eq] at member
    obtain ⟨waitpoint, stored, same, pending⟩ := holds.rowsPending row member.1
    have other : waitpoint.id ≠ id := fun completed => member.2 (same ▸ completed)
    exact ⟨waitpoint, List.mem_map.mpr ⟨waitpoint, stored, if_neg other⟩, same, pending⟩
  timers waitpoint member dateTime pending := by
    obtain ⟨old, stored, rfl⟩ := List.mem_map.mp member
    by_cases completed : old.id = id
    · rw [if_pos completed] at pending; cases pending
    · rw [if_neg completed] at dateTime pending ⊢
      exact holds.timers old stored dateTime pending

theorem keepsIntegrity_completeWaitpointTransaction (locks : Nat → LockOutcome) (id : Nat) :
    KeepsIntegrity (completeWaitpointTransaction locks id) := fun s holds => by
  rw [completeWaitpointTransaction_eq]
  split
  · exact ⟨holds, refl_of TimersKept s⟩
  · have cleared : TimersKept s (s.clearWaitpoint id) := ⟨Nat.le_refl _, fun _ waiting => waiting⟩
    exact (Keeps.forM (fun run => keepsIntegrity_continueRun _ run _) _ _
      (holds.clearWaitpoint id)).imp_right (trans_of TimersKept cleared)

theorem integrity_rollback (s s' : State) (holds : Integrity s) (kept : TimersKept s s') :
    Integrity { s' with db := s.db } ∧ TimersKept s { s' with db := s.db } :=
  have back : TimersKept s { s' with db := s.db } := ⟨kept.nextId, kept.timers⟩
  ⟨holds.of_frame (SnapshotsOnly.refl _) back, back⟩

theorem keepsIntegrity_completeWaitpoint (locks : Nat → LockOutcome) (id : Nat) :
    KeepsIntegrity (completeWaitpoint locks id) := by
  unfold completeWaitpoint
  refine keeps_readDb.bind fun db => ?_
  cases db.findWaitpoint id
  · exact keeps_throw _
  · exact .ite (keeps_pure _) ((keeps_pure _).bind fun _ =>
      .transaction integrity_rollback (keepsIntegrity_completeWaitpointTransaction locks id))

theorem completeWaitpoint_returned {locks : Nat → LockOutcome} {id : Nat} {s s' : State}
    (returned : completeWaitpoint locks id s = .ok () s') :
    ∃ waitpoint, s'.db.findWaitpoint id = some waitpoint ∧ waitpoint.status = .COMPLETED := by
  cases found : s.db.findWaitpoint id with
  | none => simp [completeWaitpoint, readDb, found] at returned
  | some waitpoint =>
    cases status : waitpoint.status with
    | COMPLETED =>
      rw [completeWaitpoint_of_completed found status] at returned
      cases returned
      exact ⟨waitpoint, found, status⟩
    | PENDING =>
      rw [completeWaitpoint_of_pending found status] at returned
      unfold transaction at returned
      cases body : completeWaitpointTransaction locks id s with
      | error => rw [body] at returned; cases returned
      | ok _ s₁ =>
        rw [body] at returned
        cases returned
        rw [completeWaitpointTransaction_eq] at body
        split at body
        · cases body
        · obtain ⟨store, -⟩ := continueRuns_frames locks (runsResumedBy s id) (s.clearWaitpoint id)
          rw [body] at store
          exact ⟨_, (clearWaitpoint_completed found store).1, rfl⟩

/-- `#completeWaitpoint` is idempotent: once a call returns, calling it again for the same
waitpoint, as a worker that runs the job twice does, returns at once and changes nothing,
whatever the locks. -/
theorem completeWaitpoint_idempotent {locks locks' : Nat → LockOutcome} {id : Nat}
    {s s' : State} (returned : completeWaitpoint locks id s = .ok () s') :
    completeWaitpoint locks' id s' = .ok () s' :=
  let ⟨_, found, completed⟩ := completeWaitpoint_returned returned
  completeWaitpoint_of_completed found completed

theorem delay_completion_idempotent :
    completeWaitpoint (fun _ => .refused) 3
        (finalState (completeWaitpoint (fun _ => .held) 3 delayedTriggerState)) =
      .ok () (finalState (completeWaitpoint (fun _ => .held) 3 delayedTriggerState)) :=
  completeWaitpoint_idempotent
    (show completeWaitpoint (fun _ => .held) 3 delayedTriggerState =
      .ok () (finalState (completeWaitpoint (fun _ => .held) 3 delayedTriggerState)) from rfl)

theorem keepsIntegrity_runJob (locks : Nat → LockOutcome) (job : WorkerJob) :
    KeepsIntegrity (runJob locks job) := by
  cases job
  case waitpointCompleteDateTime => exact keepsIntegrity_completeWaitpoint _ _
  case heartbeatSnapshot =>
    exact .of_unchanged fun s => by simp only [runJob, handleStalledSnapshot_eq]; rfl
  case expireRun => exact keeps_pure _

theorem Integrity.acknowledge {s s' : State} {locks : Nat → LockOutcome} {job : ScheduledJob}
    (holds : Integrity s') (returned : runJob locks job.job s = .ok () s') :
    Integrity { s' with jobs := s'.jobs.erase job } :=
  { holds with
    queues := holds.queues.mono rfl (Nat.le_refl _)
    timers := fun waitpoint member dateTime pending =>
      (holds.timers waitpoint member dateTime pending).erase fun timer => by
        rw [timer] at returned
        obtain ⟨completed, found, status⟩ := completeWaitpoint_returned returned
        have named : completed.id = waitpoint.id := by simpa using List.find?_some found
        rw [List.inj_on_of_nodup_map holds.waitpoints.nodup (List.mem_of_find?_eq_some found)
          member named, pending] at status
        cases status }

theorem keepsIntegrity_processJob (locks : Nat → LockOutcome) (job : ScheduledJob) :
    Keeps Integrity IdsGrow (processJob locks job) :=
  .processJob ((keepsIntegrity_runJob locks job.job).weaken fun _ _ kept => kept.nextId)
    fun _ _ _ returned holds => ⟨holds.acknowledge returned, Nat.le_refl _⟩

/-! ## The engine's calls -/

theorem integritySteps (params : TriggerParams) :
    TriggerSteps (fun _ => Integrity) TimersKept params where
  associated _ := keepsIntegrity_createRunAssociatedWaitpoint _ _
  queued _ _ := keepsIntegrity_upsertTaskQueue _ _ _
  delayed taskRun _ _ _ rest := keepsIntegrity_delay _ _ taskRun.id rest
  expiry _ _ := keepsIntegrity_expiry _ _
  enqueued _ := keepsIntegrity_enqueueRun _ _

theorem keepsIntegrity_trigger (parseNaturalLanguageDuration : String → Option Nat)
    (params : TriggerParams) (lock : LockOutcome) :
    KeepsIntegrity (trigger parseNaturalLanguageDuration params lock) := fun s holds => by
  have created := createTaskRun_eq params
    (if params.delayUntil.isSome then .DELAYED else .PENDING) s
  obtain ⟨stored, kept⟩ := keepsIntegrity_createTaskRun params _ s holds
  obtain ⟨after, later⟩ := trigger_steps_ensures parseNaturalLanguageDuration params lock
    (integritySteps params) created stored
  exact ⟨after, trans_of TimersKept kept later⟩

theorem keepsIntegrity_dequeueFromMasterQueue (masterQueue : String) (pick : Option Nat)
    (lock : LockOutcome) : KeepsIntegrity (dequeueFromMasterQueue masterQueue pick lock) :=
  keeps_dequeueFromMasterQueue_into (Q := fun _ => Integrity) lock
    (keepsIntegrity_dequeueMessageInSharedQueue _ _)
    (fun _ _ _ => (keepsIntegrity_dequeueMessageInSharedQueue _ _).holds_of_ok)
    (fun _ _ holds => holds) fun _ _ => keepsIntegrity_createExecutionSnapshot _ _ _ _

theorem Integrity.run {s : State} (holds : Integrity s) (op : Operation) :
    Integrity (finalState (op.run s)) := by
  cases op
  case trigger => exact ((keepsIntegrity_trigger _ _ _).discard s holds).1
  case dequeueFromMasterQueue =>
    exact ((keepsIntegrity_dequeueFromMasterQueue _ _ _).discard s holds).1
  case processJob job locks => exact (keepsIntegrity_processJob locks job s holds).1
  case tick => exact { holds with queues := holds.queues.mono rfl (Nat.le_refl _) }

theorem integrity_empty : Integrity State.empty where
  runs := ⟨List.nodup_nil, fun _ member => absurd member (List.not_mem_nil _)⟩
  waitpoints := ⟨List.nodup_nil, fun _ member => absurd member (List.not_mem_nil _)⟩
  queues := ⟨List.nodup_nil, fun _ member => absurd member (List.not_mem_nil _)⟩
  queueKeys := List.nodup_nil
  rowsPending _ member := absurd member (List.not_mem_nil _)
  timers _ member := absurd member (List.not_mem_nil _)

/-- Every reachable state is intact. -/
theorem Reachable.integrity {s : State} (reachable : Reachable s) : Integrity s := by
  induction reachable with
  | empty => exact integrity_empty
  | step op _ _ holds => exact holds.run op

/-! ## Every run has a snapshot -/

/-- Every stored run has an execution snapshot. -/
def RunsHaveSnapshots (s : State) : Prop :=
  ∀ run ∈ s.db.runs, ∃ snapshot ∈ s.db.snapshots, snapshot.runId = run.id

/-- The runs stay, no snapshot is lost, and ids only grow. -/
structure SnapshotsKept (before after : State) : Prop where
  runs : after.db.runs = before.db.runs
  snapshots : ∀ snapshot ∈ before.db.snapshots, snapshot ∈ after.db.snapshots
  nextId : before.nextId ≤ after.nextId

instance : IsPreorder State SnapshotsKept where
  refl _ := ⟨rfl, fun _ kept => kept, Nat.le_refl _⟩
  trans _ _ _ early late :=
    ⟨late.runs.trans early.runs, fun snapshot kept => late.snapshots snapshot
      (early.snapshots snapshot kept), Nat.le_trans early.nextId late.nextId⟩

theorem SnapshotsKept.of_db {x : Engine α}
    (same : ∀ s, (finalState (x s)).db.runs = s.db.runs ∧
      (finalState (x s)).db.snapshots = s.db.snapshots ∧ s.nextId ≤ (finalState (x s)).nextId) :
    Keeps (fun _ => True) SnapshotsKept x := fun s _ =>
  ⟨trivial, (same s).1, fun _ kept => (same s).2.1 ▸ kept, (same s).2.2⟩

/-- No statement of the engine other than `createTaskRun` adds a run, and none deletes a
snapshot: `$transaction` rolls back snapshots with the runs. -/
theorem snapshotsStatements : Statements (fun _ => True) SnapshotsKept where
  fresh := SnapshotsKept.of_db fun _ => ⟨rfl, rfl, Nat.le_succ _⟩
  addWaitpoint _ := SnapshotsKept.of_db fun _ => ⟨rfl, rfl, Nat.le_refl _⟩
  updateQueue _ _ := SnapshotsKept.of_db fun _ => ⟨rfl, rfl, Nat.le_refl _⟩
  addQueue _ := SnapshotsKept.of_db fun _ => ⟨rfl, rfl, Nat.le_refl _⟩
  deleteRows _ := SnapshotsKept.of_db fun _ => ⟨rfl, rfl, Nat.le_refl _⟩
  complete _ := SnapshotsKept.of_db fun _ => ⟨rfl, rfl, Nat.le_refl _⟩
  pushLimit _ taskQueue := SnapshotsKept.of_db fun _ => by
    unfold pushQueueConcurrencyLimit
    cases taskQueue.concurrencyLimit <;> exact ⟨rfl, rfl, Nat.le_refl _⟩
  scheduleDateTime _ _ := SnapshotsKept.of_db fun _ => ⟨rfl, rfl, Nat.le_refl _⟩
  scheduleExpiry _ _ := SnapshotsKept.of_db fun _ => ⟨rfl, rfl, Nat.le_refl _⟩
  snapshot _ _ _ _ s _ := by
    rw [createExecutionSnapshot_eq]
    exact ⟨trivial, rfl, fun _ kept => List.mem_cons_of_mem _ kept, Nat.le_succ _⟩
  enqueue _ := SnapshotsKept.of_db fun _ => ⟨rfl, rfl, Nat.le_refl _⟩
  dequeue masterQueue pick := SnapshotsKept.of_db fun s => by
    obtain ⟨_, _, ran, sameDb, sameId, -⟩ := dequeueMessageInSharedQueue_spec masterQueue pick s
    rw [ran]
    exact ⟨congrArg Db.runs sameDb, congrArg Db.snapshots sameDb, sameId.ge⟩

theorem RunsHaveSnapshots.of_kept {before after : State} (holds : RunsHaveSnapshots before)
    (kept : SnapshotsKept before after) : RunsHaveSnapshots after := fun run member => by
  obtain ⟨snapshot, stored, named⟩ := holds run (kept.runs ▸ member)
  exact ⟨snapshot, kept.snapshots snapshot stored, named⟩

theorem haveSnapshotsStatements : Statements RunsHaveSnapshots IdsGrow :=
  snapshotsStatements.transfer fun _ _ holds kept => ⟨holds.of_kept kept, kept.nextId⟩

theorem runsHaveSnapshots_rollback (s s' : State) (holds : RunsHaveSnapshots s)
    (grew : IdsGrow s s') :
    RunsHaveSnapshots { s' with db := s.db } ∧ IdsGrow s { s' with db := s.db } :=
  ⟨holds, grew⟩

theorem keepsSnapshots_createTaskRun (params : TriggerParams) (status : TaskRunStatus) :
    Keeps RunsHaveSnapshots IdsGrow (createTaskRun params status) := fun s holds => by
  refine ⟨fun run member => ?_, Nat.le_add_right _ 2⟩
  change run ∈ s.db.runs ++ [_] at member
  rcases List.mem_append.mp member with old | created
  · obtain ⟨snapshot, stored, named⟩ := holds run old
    exact ⟨snapshot, List.mem_cons_of_mem _ stored, named⟩
  · exact ⟨_, List.mem_cons_self _ _, by rw [List.mem_singleton.mp created]⟩

theorem keepsSnapshots_run (op : Operation) : Keeps RunsHaveSnapshots IdsGrow op.run := by
  cases op
  case trigger =>
    exact (keeps_trigger (Q := fun _ => RunsHaveSnapshots) _ _ _
      (keepsSnapshots_createTaskRun _ _)
      (fun _ _ _ holds => (keepsSnapshots_createTaskRun _ _).holds_of_ok holds)
      (fun _ _ holds => holds) (fun _ => haveSnapshotsStatements.toStoreStatements)
      (fun _ => keeps_enqueueRun haveSnapshotsStatements _ _)
      fun _ _ _ _ _ => (SnapshotsKept.of_db (x := writeDb (·.addRunWaitpoint _))
        fun _ => ⟨rfl, rfl, Nat.le_refl _⟩).transfer
        fun _ _ holds kept => ⟨holds.of_kept kept, kept.nextId⟩).discard
  case dequeueFromMasterQueue =>
    exact (keeps_dequeueFromMasterQueue haveSnapshotsStatements _ _ _).discard
  case processJob job locks =>
    exact .processJob (keeps_runJob haveSnapshotsStatements runsHaveSnapshots_rollback locks
      job.job) fun _ _ _ _ holds => ⟨holds, Nat.le_refl _⟩
  case tick => exact fun _ holds => ⟨holds, Nat.le_refl _⟩

theorem Reachable.runsHaveSnapshots {s : State} (reachable : Reachable s) :
    RunsHaveSnapshots s := by
  induction reachable with
  | empty => exact fun _ member => absurd member (List.not_mem_nil _)
  | step op _ _ holds => exact (keepsSnapshots_run op _ holds).1

/-! ## What every reachable store satisfies -/

/-- A pending `DATETIME` waitpoint always has its completion job waiting under the id
`waitpointCompleteDateTime.<id>`: no delay is left without the timer that ends it. -/
theorem Reachable.dateTime_waitpoint_scheduled {s : State} (reachable : Reachable s) :
    ∀ waitpoint ∈ s.db.waitpoints, waitpoint.type = .DATETIME → waitpoint.status = .PENDING →
      ∃ job ∈ s.jobs, job.id = some (waitpointCompleteDateTimeJobId waitpoint.id) ∧
        job.job = .waitpointCompleteDateTime waitpoint.id :=
  reachable.integrity.timers

theorem delayed_trigger_dateTime_waitpoint_scheduled :
    ∃ job ∈ delayedTriggerState.jobs,
      job.id = some (waitpointCompleteDateTimeJobId 3) ∧ job.job = .waitpointCompleteDateTime 3 :=
  Reachable.dateTime_waitpoint_scheduled (.step _ .empty trivial : Reachable delayedTriggerState)
    { id := 3, type := .DATETIME, status := .PENDING, projectId := "proj1",
      completedByTaskRunId := none, completedAfter := some 10 } (by decide) rfl rfl

/-- Every `TaskRunWaitpoint` row names a stored waitpoint that is still pending: completing a
waitpoint deletes its rows in the same transaction. -/
theorem Reachable.runWaitpoints_pending {s : State} (reachable : Reachable s) :
    ∀ row ∈ s.db.runWaitpoints, ∃ waitpoint ∈ s.db.waitpoints,
      waitpoint.id = row.waitpointId ∧ waitpoint.status = .PENDING :=
  reachable.integrity.rowsPending

theorem delayed_trigger_runWaitpoints_pending :
    ∃ waitpoint ∈ delayedTriggerState.db.waitpoints, waitpoint.id = 3 ∧ waitpoint.status = .PENDING :=
  Reachable.runWaitpoints_pending (.step _ .empty trivial : Reachable delayedTriggerState)
    { taskRunId := 0, waitpointId := 3, projectId := "proj1" } (by decide)

/-- Every stored run has a latest execution snapshot: `#getLatestExecutionSnapshot` finds one
for it, so `createRunAttempt` never reaches `systemFailure` for a stored run. -/
theorem Reachable.latestSnapshot_isSome {s : State} (reachable : Reachable s) :
    ∀ run ∈ s.db.runs, (s.db.latestSnapshot run.id).isSome := fun run member => by
  obtain ⟨snapshot, stored, named⟩ := reachable.runsHaveSnapshots run member
  exact List.find?_isSome.mpr ⟨snapshot, stored, by simp [named]⟩

theorem delayed_trigger_latestSnapshot_isSome :
    (delayedTriggerState.db.latestSnapshot 0).isSome :=
  Reachable.latestSnapshot_isSome (.step _ .empty trivial : Reachable delayedTriggerState)
    (delayedTriggerState.db.runs.head (by decide)) (List.head_mem _)

end RunEngine
