import Mathlib.Data.List.Nodup
import RunEngine.Trigger

/-! The queue block of `trigger`: find the task queue row, update or create it, then push
its limit to the Run Queue. Run one block at a time, the row and the Run Queue end with the
limit of the last options that give one; the statements of two blocks can interleave. -/

namespace RunEngine

open Keys (AuthenticatedEnvironment)

/-- The task queue rows of an environment with the given name. -/
def Db.queueRows (db : Db) (environmentId name : String) : List TaskQueue :=
  db.taskQueues.filter fun taskQueue =>
    taskQueue.runtimeEnvironmentId == environmentId && taskQueue.name == name

/-- The limit of the queue's row, `null` when there is none. -/
def Db.rowLimit (db : Db) (environmentId name : String) : Option Int :=
  (db.queueRows environmentId name).head?.bind (·.concurrencyLimit)

/-- The limit the Run Queue holds under the queue's limit key. -/
def State.queueLimit (s : State) (env : AuthenticatedEnvironment) (queueName : String) :
    Option Int :=
  (s.runQueue.concurrencyLimits.find? (·.1 == Keys.queueConcurrencyLimitKey env queueName)).map
    (·.2)

/-- Task queue ids are distinct and below the next id, as primary keys drawn from it. -/
structure QueueIds (s : State) : Prop where
  nodup : (s.db.taskQueues.map (·.id)).Nodup
  fresh : ∀ taskQueue ∈ s.db.taskQueues, taskQueue.id < s.nextId

/-- The limit options leave on a row, applied in order: a number sets it, clamped at 0,
and options without one keep it. -/
def appliedLimit (current : Option Int) (options : List QueueOptions) : Option Int :=
  options.foldl (fun limit queue => (queue.concurrencyLimit.map (max 0)).or limit) current

theorem Db.findTaskQueue_eq_head (db : Db) (environmentId name : String) :
    db.findTaskQueue environmentId name = (db.queueRows environmentId name).head? :=
  (List.filter_head? _ _).symm

theorem pushQueueConcurrencyLimit_spec (env : AuthenticatedEnvironment) (taskQueue : TaskQueue)
    (s : State) :
    ∃ s', pushQueueConcurrencyLimit env taskQueue s = .ok () s' ∧ s'.db = s.db ∧
      s'.nextId = s.nextId ∧ s'.queueLimit env taskQueue.name = taskQueue.concurrencyLimit := by
  unfold pushQueueConcurrencyLimit
  cases taskQueue.concurrencyLimit <;>
    simp [updateQueueConcurrencyLimits, removeQueueConcurrencyLimits, State.queueLimit,
      List.find?_filter]

private theorem find?_id_of_nodup {rows : List TaskQueue} {row : TaskQueue}
    (nodup : (rows.map (·.id)).Nodup) (member : row ∈ rows) :
    rows.find? (·.id == row.id) = some row := by
  cases found : rows.find? (·.id == row.id) with
  | none => simpa using List.find?_eq_none.mp found row member
  | some first =>
    have same : first.id = row.id := by simpa using List.find?_some found
    rw [List.inj_on_of_nodup_map nodup (List.mem_of_find?_eq_some found) member same]

/-- The row `taskQueue.update` writes: an undefined limit keeps the stored one. -/
def TaskQueue.updateLimit (taskQueue : TaskQueue) (concurrencyLimit : Option Int) : TaskQueue :=
  { taskQueue with concurrencyLimit := concurrencyLimit.or taskQueue.concurrencyLimit }

@[simp] theorem TaskQueue.updateLimit_id (taskQueue : TaskQueue) (limit : Option Int) :
    (taskQueue.updateLimit limit).id = taskQueue.id := rfl

@[simp] theorem TaskQueue.updateLimit_name (taskQueue : TaskQueue) (limit : Option Int) :
    (taskQueue.updateLimit limit).name = taskQueue.name := rfl

@[simp] theorem TaskQueue.updateLimit_runtimeEnvironmentId (taskQueue : TaskQueue)
    (limit : Option Int) :
    (taskQueue.updateLimit limit).runtimeEnvironmentId = taskQueue.runtimeEnvironmentId := rfl

theorem Db.updateTaskQueue_taskQueues (db : Db) (id : Nat) (concurrencyLimit : Option Int) :
    (db.updateTaskQueue id concurrencyLimit).taskQueues =
      db.taskQueues.map fun taskQueue =>
        if taskQueue.id = id then taskQueue.updateLimit concurrencyLimit else taskQueue :=
  rfl

theorem updateTaskQueue_of_mem {s : State} {row : TaskQueue} (ids : QueueIds s)
    (member : row ∈ s.db.taskQueues) (concurrencyLimit : Option Int) :
    updateTaskQueue row.id concurrencyLimit s =
      .ok (row.updateLimit concurrencyLimit)
        { s with db := s.db.updateTaskQueue row.id concurrencyLimit } := by
  have found := find?_id_of_nodup ids.nodup member
  simp only [updateTaskQueue, writeDb, readDb, Engine.bind_apply, Engine.modify_apply,
    Engine.get_apply, Engine.pure_apply, Db.updateTaskQueue_taskQueues, List.find?_map]
  simp [Function.comp_def, apply_ite, found]

theorem createTaskQueue_eq (name : String) (concurrencyLimit : Option Int)
    (environmentId : String) (s : State) :
    createTaskQueue name concurrencyLimit environmentId s =
      .ok ⟨s.nextId, name, environmentId, concurrencyLimit⟩
        { s with db := s.db.addTaskQueue ⟨s.nextId, name, environmentId, concurrencyLimit⟩,
                 nextId := s.nextId + 1 } :=
  rfl

theorem Db.queueRows_updateTaskQueue (db : Db) (id : Nat) (concurrencyLimit : Option Int)
    (environmentId name : String) :
    (db.updateTaskQueue id concurrencyLimit).queueRows environmentId name =
      (db.queueRows environmentId name).map fun taskQueue =>
        if taskQueue.id = id then taskQueue.updateLimit concurrencyLimit else taskQueue := by
  simp [queueRows, updateTaskQueue_taskQueues, List.filter_map, Function.comp_def, apply_ite]

theorem Db.queueRows_addTaskQueue (db : Db) (taskQueue : TaskQueue) :
    (db.addTaskQueue taskQueue).queueRows taskQueue.runtimeEnvironmentId taskQueue.name =
      db.queueRows taskQueue.runtimeEnvironmentId taskQueue.name ++ [taskQueue] := by
  simp [queueRows, addTaskQueue, List.filter_append]

theorem QueueIds.of_same {s s' : State} (ids : QueueIds s) (sameDb : s'.db = s.db)
    (sameNext : s'.nextId = s.nextId) : QueueIds s' :=
  ⟨sameDb ▸ ids.nodup, by rw [sameDb, sameNext]; exact ids.fresh⟩

theorem QueueIds.update {s : State} (ids : QueueIds s) (id : Nat)
    (concurrencyLimit : Option Int) :
    QueueIds { s with db := s.db.updateTaskQueue id concurrencyLimit } := by
  constructor
  · simpa [Db.updateTaskQueue_taskQueues, Function.comp_def, apply_ite] using ids.nodup
  · simpa only [Db.updateTaskQueue_taskQueues, List.forall_mem_map, apply_ite,
      TaskQueue.updateLimit_id, ite_self] using ids.fresh

theorem QueueIds.create {s : State} (ids : QueueIds s) (name : String)
    (concurrencyLimit : Option Int) (environmentId : String) :
    QueueIds { s with db := s.db.addTaskQueue ⟨s.nextId, name, environmentId, concurrencyLimit⟩,
                      nextId := s.nextId + 1 } := by
  constructor
  · simp only [Db.addTaskQueue, List.map_append, List.map_cons, List.map_nil]
    exact ids.nodup.append (List.nodup_singleton _) fun id old new => by
      simp only [List.mem_singleton] at new
      obtain ⟨taskQueue, member, same⟩ := List.mem_map.mp old
      exact absurd (same ▸ new ▸ ids.fresh taskQueue member) (Nat.lt_irrefl _)
  · intro taskQueue member
    simp only [Db.addTaskQueue, List.mem_append, List.mem_singleton] at member
    rcases member with old | rfl
    · exact Nat.lt_succ_of_lt (ids.fresh taskQueue old)
    · exact Nat.lt_succ_self _

/-- One queue block on a store with at most one row for the queue: it returns, and leaves
exactly one row, holding the options' limit, and the same limit in the Run Queue. -/
theorem upsertTaskQueue_spec (env : AuthenticatedEnvironment) (queueName : String)
    (queue : QueueOptions) {s : State} (ids : QueueIds s)
    (single : (s.db.queueRows env.id queueName).length ≤ 1) :
    ∃ s', upsertTaskQueue env queueName queue s = .ok () s' ∧ QueueIds s' ∧
      ∃ row, s'.db.queueRows env.id queueName = [row] ∧
        row.concurrencyLimit = appliedLimit (s.db.rowLimit env.id queueName) [queue] ∧
        s'.queueLimit env queueName = row.concurrencyLimit := by
  match rows : s.db.queueRows env.id queueName, single with
  | [], _ =>
    let created : TaskQueue := ⟨s.nextId, queueName, env.id, queue.concurrencyLimit.map (max 0)⟩
    obtain ⟨s', pushed, sameDb, sameNext, limit⟩ := pushQueueConcurrencyLimit_spec env created
      { s with db := s.db.addTaskQueue created, nextId := s.nextId + 1 }
    refine ⟨s', ?_, ?_, created, ?_, ?_, limit⟩
    · simp [upsertTaskQueue, readDb, Db.findTaskQueue_eq_head, rows, createTaskQueue_eq, pushed]
    · exact (ids.create queueName (queue.concurrencyLimit.map (max 0)) env.id).of_same sameDb
        sameNext
    · rw [sameDb, Db.queueRows_addTaskQueue s.db created, rows]; rfl
    · simp [Db.rowLimit, rows, appliedLimit, created]
  | [row], _ =>
    obtain ⟨member, matching⟩ :=
      List.mem_filter.mp (show row ∈ s.db.queueRows env.id queueName by simp [rows])
    have named : row.name = queueName := by simp at matching; exact matching.2
    let limit := queue.concurrencyLimit.map (max 0)
    obtain ⟨s', pushed, sameDb, sameNext, pushedLimit⟩ :=
      pushQueueConcurrencyLimit_spec env (row.updateLimit limit)
        { s with db := s.db.updateTaskQueue row.id limit }
    refine ⟨s', ?_, ?_, row.updateLimit limit, ?_, ?_, named ▸ pushedLimit⟩
    · simp [upsertTaskQueue, readDb, Db.findTaskQueue_eq_head, rows,
        updateTaskQueue_of_mem ids member, pushed]
    · exact (ids.update row.id limit).of_same sameDb sameNext
    · simp [sameDb, Db.queueRows_updateTaskQueue, rows]
    · simp [Db.rowLimit, rows, appliedLimit, TaskQueue.updateLimit, limit]
  | _ :: _ :: _, long => simp at long

theorem upsertTaskQueue_sequence (env : AuthenticatedEnvironment) (queueName : String)
    (first : QueueOptions) (rest : List QueueOptions) {s : State} (ids : QueueIds s)
    (single : (s.db.queueRows env.id queueName).length ≤ 1) :
    ∃ s', (first :: rest).forM (upsertTaskQueue env queueName) s = .ok () s' ∧
      ∃ row, s'.db.queueRows env.id queueName = [row] ∧
        row.concurrencyLimit = appliedLimit (s.db.rowLimit env.id queueName) (first :: rest) ∧
        s'.queueLimit env queueName = row.concurrencyLimit := by
  induction rest generalizing first s with
  | nil =>
    obtain ⟨s', ran, -, found⟩ := upsertTaskQueue_spec env queueName first ids single
    exact ⟨s', by simp [ran], found⟩
  | cons next rest more =>
    obtain ⟨s₁, ran, ids₁, row₁, rows₁, limit₁, -⟩ :=
      upsertTaskQueue_spec env queueName first ids single
    obtain ⟨s', ranRest, row, rows, limit, queued⟩ := more next ids₁ (by simp [rows₁])
    refine ⟨s', (Engine.bind_of_ok ran).trans ranRest, row, rows, ?_, queued⟩
    have before : s₁.db.rowLimit env.id queueName =
        appliedLimit (s.db.rowLimit env.id queueName) [first] := by
      simp [Db.rowLimit, rows₁, limit₁]
    rw [limit, before]
    rfl

/-- The queue `task/task` of the example environment with limit 1, in its row and in the
Run Queue. -/
def limitedQueueState : State where
  db := { Db.empty with taskQueues := [⟨0, "task/task", "env1", some 1⟩] }
  runQueue := ⟨[], [], [(Keys.queueConcurrencyLimitKey exampleEnvironment "task/task", 1)], []⟩
  jobs := []
  nextId := 1
  now := 0

theorem limitedQueue_sequence :
    QueueIds limitedQueueState ∧
      (limitedQueueState.db.queueRows "env1" "task/task").length ≤ 1 ∧
      ∃ s', [⟨some 5⟩, ⟨none⟩].forM (upsertTaskQueue exampleEnvironment "task/task")
          limitedQueueState = .ok () s' ∧
        ∃ row, s'.db.queueRows "env1" "task/task" = [row] ∧
          row.concurrencyLimit = appliedLimit (some 1) [⟨some 5⟩, ⟨none⟩] ∧
          s'.queueLimit exampleEnvironment "task/task" = row.concurrencyLimit :=
  ⟨⟨by decide, by decide⟩, by decide,
    upsertTaskQueue_sequence exampleEnvironment "task/task" ⟨some 5⟩ [⟨none⟩]
      ⟨by decide, by decide⟩ (by decide)⟩

/-- The statement a queue block runs next, with what it has read. -/
inductive QueueStatement where
  | findFirst
  | write (found : Option Nat)
  | push (taskQueue : TaskQueue)
  | finished
  deriving DecidableEq, Repr

/-- One statement of a queue block with options `queue`. -/
def QueueStatement.run (env : AuthenticatedEnvironment) (queueName : String)
    (queue : QueueOptions) : QueueStatement → Engine QueueStatement
  | .findFirst => do
    return .write (((← readDb).findTaskQueue env.id queueName).map (·.id))
  | .write (some id) => .push <$> updateTaskQueue id (queue.concurrencyLimit.map (max 0))
  | .write none => .push <$> createTaskQueue queueName (queue.concurrencyLimit.map (max 0)) env.id
  | .push taskQueue => do
    pushQueueConcurrencyLimit env taskQueue
    return .finished
  | .finished => return .finished

theorem upsertTaskQueue_eq_statements (env : AuthenticatedEnvironment) (queueName : String)
    (queue : QueueOptions) :
    upsertTaskQueue env queueName queue = (do
      let write ← QueueStatement.findFirst.run env queueName queue
      let push ← write.run env queueName queue
      let _ ← push.run env queueName queue
      return ()) := by
  simp only [upsertTaskQueue, QueueStatement.run, readDb, bind_assoc, pure_bind]
  congr 1
  funext s
  cases s.db.findTaskQueue env.id queueName <;>
    simp only [Option.map, QueueStatement.run, map_eq_pure_bind, bind_assoc, pure_bind,
      bind_pure_unit]

/-- Queue blocks run statement by statement in the order a schedule of block indices gives;
`none` when the schedule names no block or a statement throws. -/
def interleaveQueueBlocks (env : AuthenticatedEnvironment) (queueName : String) :
    State → List (QueueOptions × QueueStatement) → List Nat →
      Option (State × List (QueueOptions × QueueStatement))
  | s, blocks, [] => some (s, blocks)
  | s, blocks, i :: rest => do
    let (queue, statement) ← blocks.get? i
    match statement.run env queueName queue s with
    | .ok next s' => interleaveQueueBlocks env queueName s' (blocks.set i (queue, next)) rest
    | .error _ _ => none

/-- A trigger of the example environment's `task/task` queue with the given options. -/
def queueParams (queue : QueueOptions) : TriggerParams where
  environment := exampleEnvironment
  taskIdentifier := "task"
  concurrencyKey := none
  masterQueue := "main"
  queueName := "task/task"
  queue := some queue
  delayUntil := none
  ttl := none
  parentTaskRunId := none
  resumeParentOnCompletion := false

/-- A trigger without a limit on the limited queue, run alone. -/
def unlimitedTriggerState : State :=
  finalState (trigger (fun _ => none) (queueParams ⟨none⟩) .held limitedQueueState)

/-- Both blocks find the row; the first updates it to 5, the second updates it to 7 and
pushes 7, and the first pushes 5 last. -/
def racingQueueSchedule : List Nat := [0, 1, 0, 1, 1, 0]

theorem queue_limit_not_last_applied :
    (unlimitedTriggerState.db.rowLimit "env1" "task/task" = some 1 ∧
      unlimitedTriggerState.queueLimit exampleEnvironment "task/task" = some 1) ∧
    ∃ final, interleaveQueueBlocks exampleEnvironment "task/task" limitedQueueState
        [(⟨some 5⟩, .findFirst), (⟨some 7⟩, .findFirst)] racingQueueSchedule = some final ∧
      final.2.all (·.2 == .finished) ∧ final.1.db.rowLimit "env1" "task/task" = some 7 ∧
      final.1.queueLimit exampleEnvironment "task/task" = some 5 :=
  ⟨by decide, (interleaveQueueBlocks exampleEnvironment "task/task" limitedQueueState
      [(⟨some 5⟩, .findFirst), (⟨some 7⟩, .findFirst)] racingQueueSchedule).get (by decide),
    (Option.some_get _).symm, by decide, by decide, by decide⟩

end RunEngine
