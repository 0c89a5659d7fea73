import Mathlib.Tactic.LiftLets
import RunEngine.Keeps

/-! `#completeWaitpoint` continues no run in any reachable state. The only `TaskRunWaitpoint`
rows the engine writes block the `DELAYED` run that `trigger` has just created
(`#blockRunWithWaitpoint` throws before writing its row), no call changes a run's status, and
`#completeWaitpoint` continues only `PENDING` and `WAITING_TO_RESUME` runs. -/

namespace RunEngine

/-! ## Runs kept -/

/-- From `before` to `after` the runs are the same, no `TaskRunWaitpoint` row is added and
ids only grow. -/
structure RunsKept (before after : State) : Prop where
  runs : after.db.runs = before.db.runs
  rows : ∀ row ∈ after.db.runWaitpoints, row ∈ before.db.runWaitpoints
  nextId : before.nextId ≤ after.nextId

instance : IsPreorder State RunsKept where
  refl _ := ⟨rfl, fun _ member => member, Nat.le_refl _⟩
  trans _ _ _ early late := ⟨late.runs.trans early.runs,
    fun row member => early.rows row (late.rows row member),
    Nat.le_trans early.nextId late.nextId⟩

/-- The computation keeps the runs and adds no row, whether it returns or throws. -/
abbrev KeepsRuns (x : Engine α) : Prop := Keeps (fun _ => True) RunsKept x

theorem KeepsRuns.of_frame {x : Engine α} (frame : ∀ s, RunsKept s (finalState (x s))) :
    KeepsRuns x := fun s _ => ⟨trivial, frame s⟩

theorem KeepsRuns.of_sameStore {x : Engine α}
    (frame : ∀ s, (finalState (x s)).db = s.db ∧ (finalState (x s)).nextId = s.nextId) :
    KeepsRuns x :=
  .of_frame fun s => by
    obtain ⟨sameDb, sameNext⟩ := frame s
    exact ⟨by rw [sameDb], fun _ member => sameDb ▸ member, sameNext ▸ Nat.le_refl _⟩

theorem keepsRuns_freshId : KeepsRuns freshId :=
  .of_frame fun _ => ⟨rfl, fun _ member => member, Nat.le_succ _⟩

theorem keepsRuns_writeDb {change : Db → Db} (runs : ∀ db, (change db).runs = db.runs)
    (rows : ∀ db, ∀ row ∈ (change db).runWaitpoints, row ∈ db.runWaitpoints) :
    KeepsRuns (writeDb change) :=
  .of_frame fun s => ⟨runs s.db, rows s.db, Nat.le_refl _⟩

theorem keepsRuns_enqueueMessage (message : RunQueueMessage) : KeepsRuns (enqueueMessage message) :=
  .of_sameStore fun _ => ⟨rfl, rfl⟩

theorem keepsRuns_dequeueMessageInSharedQueue (masterQueue : String) (pick : Option Nat) :
    KeepsRuns (dequeueMessageInSharedQueue masterQueue pick) :=
  .of_sameStore fun s => by
    unfold dequeueMessageInSharedQueue
    simp only [Engine.bind_apply, Engine.get_apply]
    cases s.runQueue.queued.find? fun m => m.masterQueue == masterQueue && some m.runId == pick <;>
      exact ⟨rfl, rfl⟩

theorem keepsRuns_pushQueueConcurrencyLimit (env : Keys.AuthenticatedEnvironment)
    (taskQueue : TaskQueue) : KeepsRuns (pushQueueConcurrencyLimit env taskQueue) :=
  .of_sameStore fun _ => by
    unfold pushQueueConcurrencyLimit; cases taskQueue.concurrencyLimit <;> exact ⟨rfl, rfl⟩

theorem keepsRuns_workerEnqueue (id : Option String) (job : WorkerJob) (availableAt : Nat) :
    KeepsRuns (workerEnqueue id job availableAt) :=
  .of_sameStore fun _ => ⟨rfl, rfl⟩

theorem keepsRuns_createExecutionSnapshot (runId : Nat) (runStatus : TaskRunStatus)
    (executionStatus : TaskRunExecutionStatus) (description : String) :
    KeepsRuns (createExecutionSnapshot runId runStatus executionStatus description) :=
  .of_frame fun s => by
    rw [createExecutionSnapshot_eq]
    exact ⟨rfl, fun _ member => member, Nat.le_succ _⟩

theorem runsStatements : Statements (fun _ => True) RunsKept where
  fresh := keepsRuns_freshId
  addWaitpoint _ := keepsRuns_writeDb (fun _ => rfl) fun _ _ member => member
  updateQueue _ _ := keepsRuns_writeDb (fun _ => rfl) fun _ _ member => member
  addQueue _ := keepsRuns_writeDb (fun _ => rfl) fun _ _ member => member
  deleteRows _ := keepsRuns_writeDb (fun _ => rfl) fun _ _ member => List.mem_of_mem_filter member
  complete _ := keepsRuns_writeDb (fun _ => rfl) fun _ _ member => member
  pushLimit := keepsRuns_pushQueueConcurrencyLimit
  snapshot := keepsRuns_createExecutionSnapshot
  enqueue := keepsRuns_enqueueMessage
  dequeue := keepsRuns_dequeueMessageInSharedQueue
  scheduleDateTime _ _ := keepsRuns_workerEnqueue _ _ _
  scheduleExpiry _ _ := keepsRuns_workerEnqueue _ _ _

/-! ## The invariant -/

/-- Run ids and the runs rows name are below the next id, and every run a row names is
`DELAYED`. -/
structure RowsBlockDelayed (s : State) : Prop where
  fresh : ∀ run ∈ s.db.runs, run.id < s.nextId
  rowsFresh : ∀ row ∈ s.db.runWaitpoints, row.taskRunId < s.nextId
  delayed : ∀ row ∈ s.db.runWaitpoints, ∀ run ∈ s.db.runs, run.id = row.taskRunId →
    run.status = .DELAYED

theorem RowsBlockDelayed.of_kept {before after : State} (holds : RowsBlockDelayed before)
    (kept : RunsKept before after) : RowsBlockDelayed after where
  fresh run member := Nat.lt_of_lt_of_le (holds.fresh run (kept.runs ▸ member)) kept.nextId
  rowsFresh row member :=
    Nat.lt_of_lt_of_le (holds.rowsFresh row (kept.rows row member)) kept.nextId
  delayed row blocking run member :=
    holds.delayed row (kept.rows row blocking) run (kept.runs ▸ member)

def IdsGrow (before after : State) : Prop := before.nextId ≤ after.nextId

instance : IsPreorder State IdsGrow where
  refl _ := Nat.le_refl _
  trans _ _ _ := Nat.le_trans

theorem rowsStatements : Statements RowsBlockDelayed IdsGrow :=
  runsStatements.transfer fun _ _ holds kept => ⟨holds.of_kept kept, kept.nextId⟩

theorem rowsBlockDelayed_rollback (s s' : State) (holds : RowsBlockDelayed s)
    (grew : IdsGrow s s') :
    RowsBlockDelayed { s' with db := s.db } ∧ IdsGrow s { s' with db := s.db } :=
  ⟨⟨fun run member => Nat.lt_of_lt_of_le (holds.fresh run member) grew,
    fun row member => Nat.lt_of_lt_of_le (holds.rowsFresh row member) grew, holds.delayed⟩,
    grew⟩

/-- What `trigger` knows of the run it has created: the run is stored, its id names no
other run's status, and it is `DELAYED` when it has a delay. -/
structure CreatedRun (taskRun : TaskRun) (s : State) : Prop where
  stored : taskRun ∈ s.db.runs
  alone : ∀ run ∈ s.db.runs, run.id = taskRun.id → run.status = taskRun.status
  delayed : taskRun.delayUntil.isSome → taskRun.status = .DELAYED

/-- The invariant inside `trigger`'s locked block. -/
def Creating (taskRun : TaskRun) (s : State) : Prop := RowsBlockDelayed s ∧ CreatedRun taskRun s

theorem CreatedRun.of_kept {taskRun : TaskRun} {before after : State}
    (created : CreatedRun taskRun before) (kept : RunsKept before after) :
    CreatedRun taskRun after :=
  ⟨kept.runs ▸ created.stored, fun run member => created.alone run (kept.runs ▸ member),
    created.delayed⟩

theorem keepsRows_createTaskRun (params : TriggerParams) (status : TaskRunStatus) :
    Keeps RowsBlockDelayed IdsGrow (createTaskRun params status) := fun s holds => by
  have runs : ∀ run ∈ (finalState (createTaskRun params status s)).db.runs,
      run ∈ s.db.runs ∨ run.id = s.nextId := fun run member => by
    change run ∈ s.db.runs ++ [_] at member
    rcases List.mem_append.mp member with old | created
    · exact .inl old
    · exact .inr (by rw [List.mem_singleton.mp created])
  refine ⟨⟨fun run member => ?_, fun row member => ?_,
    fun row blocking run member same => ?_⟩, Nat.le_add_right _ 2⟩
  · show run.id < s.nextId + 1 + 1
    rcases runs run member with old | named
    · exact Nat.lt_add_right 2 (holds.fresh run old)
    · omega
  · exact Nat.lt_add_right 2 (holds.rowsFresh row member)
  · rcases runs run member with old | named
    · exact holds.delayed row blocking run old same
    · exact absurd (holds.rowsFresh row blocking) (by rw [← same, named]; exact Nat.lt_irrefl _)

theorem keepsRows_addRunWaitpoint {taskRun : TaskRun} {delayUntil : Nat}
    (delay : taskRun.delayUntil = some delayUntil) (waitpointId : Nat) (projectId : String) :
    Keeps (Creating taskRun) IdsGrow
      (writeDb (·.addRunWaitpoint ⟨taskRun.id, waitpointId, projectId⟩)) :=
  fun s ⟨holds, created⟩ => by
    have status := created.delayed (by rw [delay]; rfl)
    have rows :
        ∀ row ∈ (s.db.addRunWaitpoint ⟨taskRun.id, waitpointId, projectId⟩).runWaitpoints,
          row ∈ s.db.runWaitpoints ∨ row.taskRunId = taskRun.id := fun row member => by
      rcases List.mem_append.mp member with old | added
      · exact .inl old
      · exact .inr (by rw [List.mem_singleton.mp added])
    refine ⟨⟨⟨holds.fresh, fun row member => ?_, fun row blocking run member same => ?_⟩,
      ⟨created.stored, created.alone, created.delayed⟩⟩, Nat.le_refl _⟩
    · rcases rows row member with old | named
      · exact holds.rowsFresh row old
      · rw [named]; exact holds.fresh taskRun created.stored
    · rcases rows row blocking with old | named
      · exact holds.delayed row old run member same
      · exact (created.alone run member (same.trans named)).trans status

theorem creatingStatements {taskRun : TaskRun} : Statements (Creating taskRun) IdsGrow :=
  runsStatements.transfer fun _ _ ⟨holds, created⟩ kept =>
    ⟨⟨holds.of_kept kept, created.of_kept kept⟩, kept.nextId⟩

theorem keepsRows_trigger (parseNaturalLanguageDuration : String → Option Nat)
    (params : TriggerParams) (lock : LockOutcome) :
    Keeps RowsBlockDelayed IdsGrow (trigger parseNaturalLanguageDuration params lock) := by
  refine keeps_trigger (Q := Creating) _ _ _ (keepsRows_createTaskRun _ _)
    (fun s taskRun s' holds created => ⟨(keepsRows_createTaskRun _ _).holds_of_ok holds created,
      ?_⟩) (fun _ _ creating => creating.1)
    (fun _ => creatingStatements.toStoreStatements)
    (fun _ => keeps_enqueueRun creatingStatements _ _)
    fun _ _ _ _ delay => keepsRows_addRunWaitpoint delay _ _
  rw [createTaskRun_eq] at created
  cases created
  refine ⟨List.mem_append_right _ (List.mem_singleton_self _), fun run member same => ?_,
    fun delay => if_pos delay⟩
  rcases List.mem_append.mp member with old | created
  · exact absurd same (Nat.ne_of_lt (holds.fresh run old))
  · rw [List.mem_singleton.mp created]

theorem keepsRows_processJob (locks : Nat → LockOutcome) (job : ScheduledJob) :
    Keeps RowsBlockDelayed IdsGrow (processJob locks job) :=
  .processJob (keeps_runJob rowsStatements rowsBlockDelayed_rollback locks job.job)
    fun _ _ _ _ holds => ⟨⟨holds.fresh, holds.rowsFresh, holds.delayed⟩, Nat.le_refl _⟩

theorem keepsRows_run (op : Operation) : Keeps RowsBlockDelayed IdsGrow op.run := by
  cases op
  case trigger => exact (keepsRows_trigger _ _ _).discard
  case dequeueFromMasterQueue =>
    exact (keeps_dequeueFromMasterQueue rowsStatements _ _ _).discard
  case processJob => exact keepsRows_processJob _ _
  case tick =>
    exact fun _ holds => ⟨⟨holds.fresh, holds.rowsFresh, holds.delayed⟩, Nat.le_refl _⟩

theorem rowsBlockDelayed_empty : RowsBlockDelayed State.empty where
  fresh _ member := nomatch member
  rowsFresh _ member := nomatch member
  delayed _ member := nomatch member

theorem Reachable.rowsBlockDelayed {s : State} (reachable : Reachable s) : RowsBlockDelayed s := by
  induction reachable with
  | empty => exact rowsBlockDelayed_empty
  | step op _ _ holds => exact (keepsRows_run op _ holds).1

theorem RowsBlockDelayed.nothingResumed {s : State} (holds : RowsBlockDelayed s) (id : Nat) :
    runsResumedBy s id = [] := by
  refine List.filter_eq_nil_iff.mpr fun run member => ?_
  simp only [Bool.and_eq_true, Bool.or_eq_true, beq_iff_eq, List.elem_iff, List.mem_map,
    not_and]
  rintro ⟨⟨row, blocking, named⟩, -⟩
  have status := holds.delayed row (List.mem_of_mem_filter blocking) run member named.symm
  rw [status]
  decide

/-- In every reachable state `#completeWaitpoint` continues no run: the runs its loop would
continue are all `DELAYED`. -/
theorem runsResumedBy_eq_nil {s : State} (reachable : Reachable s) (id : Nat) :
    runsResumedBy s id = [] :=
  reachable.rowsBlockDelayed.nothingResumed id

theorem delay_waitpoint_resumes_nothing : runsResumedBy delayedTriggerState 3 = [] :=
  runsResumedBy_eq_nil (.step _ .empty trivial : Reachable delayedTriggerState) 3

end RunEngine
