import RunEngine.Dequeue

/-! The life of a run as an automaton over execution statuses, and the engine as its
refinement: in every reachable state the snapshots of each run, oldest first, are a path of
the automaton. A run is created once, queued, and dequeued for execution at most once, and
only once the Run Queue has handed it out. A waitpoint, once completed, is never reopened. -/

namespace RunEngine

/-- The moves of a run's life: `lifecycleStep last status` says whether a snapshot with
`status` may follow one with `last` (`none` before the first). A run is created, queued,
possibly queued again, and dequeued for execution. -/
def lifecycleStep : Option TaskRunExecutionStatus → TaskRunExecutionStatus → Bool
  | none, .RUN_CREATED => true
  | some .RUN_CREATED, .QUEUED => true
  | some .QUEUED, .QUEUED => true
  | some .QUEUED, .DEQUEUED_FOR_EXECUTION => true
  | _, _ => false

/-- Whether the statuses, oldest first, are a path of the automaton after `last`. -/
def followsLifecycle : Option TaskRunExecutionStatus → List TaskRunExecutionStatus → Bool
  | _, [] => true
  | last, status :: rest => lifecycleStep last status && followsLifecycle (some status) rest

theorem followsLifecycle_append (last : Option TaskRunExecutionStatus)
    (history : List TaskRunExecutionStatus) (status : TaskRunExecutionStatus) :
    followsLifecycle last (history ++ [status]) =
      (followsLifecycle last history && lifecycleStep (history.getLast?.or last) status) := by
  induction history generalizing last with
  | nil => simp [followsLifecycle]
  | cons first rest more =>
    have after : rest.getLast?.or (some first) = some (rest.getLast?.getD first) := by
      cases rest.getLast? <;> rfl
    simp [followsLifecycle, more, Bool.and_assoc, List.getLast?_cons, after]

theorem count_dequeued_le_one {last : Option TaskRunExecutionStatus}
    {history : List TaskRunExecutionStatus} (follows : followsLifecycle last history = true) :
    history.count .DEQUEUED_FOR_EXECUTION ≤ 1 := by
  induction history generalizing last with
  | nil => simp
  | cons status rest more =>
    simp only [followsLifecycle, Bool.and_eq_true] at follows
    by_cases dequeued : status = .DEQUEUED_FOR_EXECUTION
    · subst dequeued
      cases rest with
      | nil => simp
      | cons next _ => cases next <;> cases follows.2
    · rw [List.count_cons_of_ne (Ne.symm dequeued)]
      exact more follows.2

/-! ## Histories -/

/-- The execution statuses of a run's snapshots, oldest first. -/
def Db.history (db : Db) (runId : Nat) : List TaskRunExecutionStatus :=
  ((db.snapshots.filter (·.runId == runId)).map (·.executionStatus)).reverse

@[simp] theorem Db.history_addSnapshot (db : Db) (snapshot : TaskRunExecutionSnapshot)
    (runId : Nat) : (db.addSnapshot snapshot).history runId =
      if snapshot.runId = runId then db.history runId ++ [snapshot.executionStatus]
      else db.history runId := by
  by_cases same : snapshot.runId = runId <;> simp [history, addSnapshot, List.filter_cons, same]

theorem Db.latestSnapshot_history (db : Db) (runId : Nat) :
    (db.latestSnapshot runId).map (·.executionStatus) = (db.history runId).getLast? := by
  simp [latestSnapshot, history, ← List.filter_head?, List.head?_map]

/-- Every snapshot names a run created before, and every run's snapshots follow its life. -/
structure RunsFollowLifecycle (s : State) : Prop where
  created : ∀ snapshot ∈ s.db.snapshots, snapshot.runId < s.nextId
  follows : ∀ runId, followsLifecycle none (s.db.history runId) = true

theorem RunsFollowLifecycle.of_snapshots {before after : State}
    (holds : RunsFollowLifecycle before) (snapshots : after.db.snapshots = before.db.snapshots)
    (grew : before.nextId ≤ after.nextId) : RunsFollowLifecycle after where
  created snapshot member :=
    Nat.lt_of_lt_of_le (holds.created snapshot (snapshots ▸ member)) grew
  follows runId := by simp only [Db.history, snapshots]; exact holds.follows runId

theorem RunsFollowLifecycle.of_kept {before after : State} (holds : RunsFollowLifecycle before)
    (kept : QueueKept before after) : RunsFollowLifecycle after :=
  holds.of_snapshots kept.snapshots kept.nextId

theorem RunsFollowLifecycle.history_nextId {s : State} (holds : RunsFollowLifecycle s) :
    s.db.history s.nextId = [] := by
  simp only [Db.history, List.reverse_eq_nil_iff, List.map_eq_nil_iff, List.filter_eq_nil_iff,
    beq_iff_eq]
  exact fun snapshot member => Nat.ne_of_lt (holds.created snapshot member)

theorem RunsFollowLifecycle.appendSnapshot {s : State} (holds : RunsFollowLifecycle s)
    (runId : Nat) (runStatus : TaskRunStatus) (executionStatus : TaskRunExecutionStatus)
    (description : String) (created : runId < s.nextId)
    (step : lifecycleStep (s.db.history runId).getLast? executionStatus = true) :
    RunsFollowLifecycle (s.appendSnapshot runId runStatus executionStatus description) where
  created snapshot member := by
    rcases List.mem_cons.mp member with rfl | old
    · exact Nat.lt_succ_of_lt created
    · exact Nat.lt_succ_of_lt (holds.created snapshot old)
  follows other := by
    simp only [State.appendSnapshot, Db.history_addSnapshot]
    split
    · next same =>
      subst same
      rw [followsLifecycle_append, holds.follows, Option.or_none, step]; rfl
    · exact holds.follows other

/-! ## The engine's calls and jobs -/

theorem keepsLifecycle_createTaskRun (params : TriggerParams) (status : TaskRunStatus) :
    Keeps RunsFollowLifecycle IdsGrow (createTaskRun params status) := fun s holds => by
  refine ⟨⟨fun snapshot member => ?_, fun runId => ?_⟩, Nat.le_add_right _ 2⟩
  · change snapshot ∈ _ :: s.db.snapshots at member
    rcases List.mem_cons.mp member with rfl | old
    · show s.nextId < s.nextId + 1 + 1
      omega
    · exact Nat.lt_add_right 2 (holds.created snapshot old)
  · change followsLifecycle none (((s.db.addRun _).addSnapshot
      ⟨s.nextId + 1, s.nextId, .RUN_CREATED, _, _, _⟩).history runId) = true
    rw [Db.history_addSnapshot]
    split
    · next same =>
      subst same
      show followsLifecycle none (s.db.history s.nextId ++ [.RUN_CREATED]) = true
      rw [holds.history_nextId]; rfl
    · exact holds.follows runId

/-- Inside `trigger`'s locked block: the run just created may be queued next. -/
def Queueable (taskRun : TaskRun) (s : State) : Prop :=
  RunsFollowLifecycle s ∧ taskRun.id < s.nextId ∧
    lifecycleStep (s.db.history taskRun.id).getLast? .QUEUED = true

theorem keepsLifecycle_enqueueRun (run : TaskRun) (env : Keys.AuthenticatedEnvironment) :
    Keeps (Queueable run) IdsGrow (enqueueRun run env) := fun s ⟨holds, created, queueable⟩ => by
  have queued := holds.appendSnapshot run.id run.status .QUEUED "Run was QUEUED" created queueable
  have last : (((s.appendSnapshot run.id run.status .QUEUED "Run was QUEUED").enqueue
      (runQueueMessage run env)).db.history run.id).getLast? = some .QUEUED := by
    simp [State.appendSnapshot, State.enqueue]
  simp only [enqueueRun, Engine.bind_apply, createExecutionSnapshot_eq, enqueueMessage,
    Engine.modify_apply, finalState]
  exact ⟨⟨queued.of_snapshots rfl (Nat.le_refl _), Nat.lt_succ_of_lt created,
    by rw [last]; rfl⟩, Nat.le_succ _⟩

theorem keepsLifecycle_trigger (parseNaturalLanguageDuration : String → Option Nat)
    (params : TriggerParams) (lock : LockOutcome) :
    Keeps RunsFollowLifecycle IdsGrow (trigger parseNaturalLanguageDuration params lock) := by
  have stable : ∀ (taskRun : TaskRun) before after, Queueable taskRun before →
      QueueKept before after → Queueable taskRun after ∧ IdsGrow before after :=
    fun _ _ _ ⟨holds, created, queueable⟩ kept =>
      ⟨⟨holds.of_kept kept, Nat.lt_of_lt_of_le created kept.nextId,
        by simp only [Db.history, kept.snapshots]; exact queueable⟩, kept.nextId⟩
  refine keeps_trigger (Q := Queueable) _ _ _ (keepsLifecycle_createTaskRun _ _)
    (fun s taskRun s' holds created => ⟨
      (keepsLifecycle_createTaskRun _ _).holds_of_ok holds created, ?_⟩)
    (fun _ _ inside => inside.1) (fun taskRun => queueStatements.transfer (stable taskRun))
    (fun _ => keepsLifecycle_enqueueRun _ _)
    fun taskRun _ _ _ _ => Keeps.transfer (stable taskRun) (keepsQueue_writeDb fun _ => by rfl)
  rw [createTaskRun_eq] at created
  cases created
  refine ⟨by show s.nextId < s.nextId + 1 + 1; omega, ?_⟩
  show lifecycleStep (((s.db.addRun _).addSnapshot
    ⟨s.nextId + 1, s.nextId, .RUN_CREATED, _, _, _⟩).history s.nextId).getLast? .QUEUED = true
  rw [Db.history_addSnapshot, if_pos rfl]
  show lifecycleStep (s.db.history s.nextId ++ [TaskRunExecutionStatus.RUN_CREATED]).getLast?
    .QUEUED = true
  rw [holds.history_nextId]; rfl

/-- `dequeueFromMasterQueue` writes `DEQUEUED_FOR_EXECUTION` only for a run whose latest
snapshot is `QUEUED`. -/
theorem RunsFollowLifecycle.dequeueFromMasterQueue {s : State} (holds : RunsFollowLifecycle s)
    (queued : QueuedRunsQueued s) (masterQueue : String) (pick : Option Nat) (lock : LockOutcome) :
    RunsFollowLifecycle (finalState (dequeueFromMasterQueue masterQueue pick lock s)) := by
  obtain ⟨taken, s₁, ran, sameDb, sameNext, -, -, waiting⟩ :=
    dequeueMessageInSharedQueue_spec masterQueue pick s
  have moved : RunsFollowLifecycle s₁ := holds.of_snapshots (by rw [sameDb]) sameNext.ge
  simp only [RunEngine.dequeueFromMasterQueue, Engine.bind_apply, ran]
  cases taken with
  | none => exact moved
  | some message =>
    have member := (waiting message rfl).1
    obtain ⟨snapshot, found, status⟩ := Option.map_eq_some'.mp (queued.queued message member)
    have last : (s₁.db.history message.runId).getLast? = some .QUEUED := by
      rw [← Db.latestSnapshot_history, sameDb, found, Option.map_some', status]
    cases lock with
    | refused => exact moved
    | held | lostBefore =>
      simp only [redlockUsing, getLatestExecutionSnapshot, readDb, Engine.bind_apply,
        Engine.get_apply, Engine.pure_apply, sameDb, found, status, createExecutionSnapshot_eq]
      exact moved.appendSnapshot _ _ _ _ (sameNext ▸ queued.created message member)
        (by rw [last]; rfl)

theorem RunsFollowLifecycle.run {s : State} (rows : RowsBlockDelayed s)
    (queued : QueuedRunsQueued s) (holds : RunsFollowLifecycle s) (op : Operation) :
    RunsFollowLifecycle (finalState (op.run s)) := by
  cases op
  case trigger => exact ((keepsLifecycle_trigger _ _ _).discard s holds).1
  case dequeueFromMasterQueue =>
    rw [Operation.run, finalState_discard]
    exact holds.dequeueFromMasterQueue queued _ _ _
  case processJob => exact holds.of_kept (queueKept_processJob rows _ _)
  case tick => exact holds.of_kept ⟨rfl, rfl, rfl, Nat.le_refl _⟩

/-- The engine refines the lifecycle automaton: in every reachable state each run's
snapshots, oldest first, are a path of it. -/
theorem Reachable.runsFollowLifecycle {s : State} (reachable : Reachable s) :
    RunsFollowLifecycle s := by
  induction reachable with
  | empty => exact ⟨fun snapshot member => absurd member (List.not_mem_nil snapshot), fun _ => rfl⟩
  | step op reachable _ holds =>
    exact holds.run reachable.rowsBlockDelayed reachable.queuedRunsQueued op

/-- In every reachable state each snapshot belongs to a run created before, and each run's
statuses, oldest first, are a path of the lifecycle: `RUN_CREATED`, `QUEUED` once or more, then
at most one `DEQUEUED_FOR_EXECUTION`, after which nothing. -/
theorem Reachable.history_followsLifecycle {s : State} (reachable : Reachable s) :
    (∀ snapshot ∈ s.db.snapshots, snapshot.runId < s.nextId) ∧
      ∀ runId, followsLifecycle none (s.db.history runId) = true :=
  ⟨reachable.runsFollowLifecycle.created, reachable.runsFollowLifecycle.follows⟩

theorem dequeued_run_follows_lifecycle :
    followsLifecycle none (dequeuedRunState.db.history 0) = true :=
  (Reachable.history_followsLifecycle
    (.step _ (.step _ .empty trivial) trivial : Reachable dequeuedRunState)).2 0

/-- No run is dequeued for execution twice: in every reachable state a run has at most one
`DEQUEUED_FOR_EXECUTION` snapshot. -/
theorem Reachable.dequeued_at_most_once {s : State} (reachable : Reachable s) (runId : Nat) :
    (s.db.history runId).count .DEQUEUED_FOR_EXECUTION ≤ 1 :=
  count_dequeued_le_one (reachable.runsFollowLifecycle.follows runId)

theorem dequeued_run_dequeued_at_most_once :
    (dequeuedRunState.db.history 0).count .DEQUEUED_FOR_EXECUTION ≤ 1 :=
  Reachable.dequeued_at_most_once
    (.step _ (.step _ .empty trivial) trivial : Reachable dequeuedRunState) 0

/-! ## Snapshots and the Run Queue -/

/-- Every run with a `DEQUEUED_FOR_EXECUTION` snapshot has its message in flight: the engine
records a run as dequeued only once the Run Queue has handed it out. -/
def DequeuedInFlight (s : State) : Prop :=
  ∀ runId, TaskRunExecutionStatus.DEQUEUED_FOR_EXECUTION ∈ s.db.history runId →
    ∃ message ∈ s.runQueue.inFlight, message.runId = runId

theorem DequeuedInFlight.of_kept {before after : State} (holds : DequeuedInFlight before)
    (kept : QueueKept before after) : DequeuedInFlight after := fun runId dequeued => by
  simp only [Db.history, kept.snapshots] at dequeued
  rw [kept.inFlight]
  exact holds runId dequeued

theorem DequeuedInFlight.appendSnapshot {s : State} (holds : DequeuedInFlight s) (runId : Nat)
    (runStatus : TaskRunStatus) (executionStatus : TaskRunExecutionStatus) (description : String)
    (allowed : executionStatus = .DEQUEUED_FOR_EXECUTION →
      ∃ message ∈ s.runQueue.inFlight, message.runId = runId) :
    DequeuedInFlight (s.appendSnapshot runId runStatus executionStatus description) :=
  fun other dequeued => by
    simp only [State.appendSnapshot, Db.history_addSnapshot] at dequeued
    split at dequeued
    · next same =>
      rcases List.mem_append.mp dequeued with old | new
      · exact holds other old
      · subst same
        exact allowed (List.mem_singleton.mp new).symm
    · exact holds other dequeued

theorem keepsInFlight_createTaskRun (params : TriggerParams) (status : TaskRunStatus) :
    Keeps DequeuedInFlight IdsGrow (createTaskRun params status) := fun s holds => by
  refine ⟨fun runId dequeued => holds runId ?_, Nat.le_add_right _ 2⟩
  change _ ∈ ((s.db.addRun _).addSnapshot
    ⟨s.nextId + 1, s.nextId, .RUN_CREATED, _, _, _⟩).history runId at dequeued
  rw [Db.history_addSnapshot] at dequeued
  split at dequeued
  · simpa using dequeued
  · exact dequeued

theorem keepsInFlight_enqueueRun (run : TaskRun) (env : Keys.AuthenticatedEnvironment) :
    Keeps DequeuedInFlight IdsGrow (enqueueRun run env) := fun s holds => by
  simp only [enqueueRun, Engine.bind_apply, createExecutionSnapshot_eq, enqueueMessage,
    Engine.modify_apply, finalState]
  exact ⟨holds.appendSnapshot _ _ _ _ nofun, Nat.le_succ _⟩

theorem keepsInFlight_trigger (parseNaturalLanguageDuration : String → Option Nat)
    (params : TriggerParams) (lock : LockOutcome) :
    Keeps DequeuedInFlight IdsGrow (trigger parseNaturalLanguageDuration params lock) := by
  have stable : ∀ before after, DequeuedInFlight before → QueueKept before after →
      DequeuedInFlight after ∧ IdsGrow before after :=
    fun _ _ holds kept => ⟨holds.of_kept kept, kept.nextId⟩
  exact keeps_trigger (Q := fun _ => DequeuedInFlight) _ _ _ (keepsInFlight_createTaskRun _ _)
    (fun _ _ _ holds created => (keepsInFlight_createTaskRun _ _).holds_of_ok holds created)
    (fun _ _ holds => holds) (fun _ => queueStatements.transfer stable)
    (fun _ => keepsInFlight_enqueueRun _ _)
    fun _ _ _ _ _ => Keeps.transfer stable (keepsQueue_writeDb fun _ => by rfl)

theorem keepsInFlight_dequeueFromMasterQueue (masterQueue : String) (pick : Option Nat)
    (lock : LockOutcome) :
    Keeps DequeuedInFlight IdsGrow (dequeueFromMasterQueue masterQueue pick lock) := by
  have taking : ∀ s taken s', DequeuedInFlight s →
      dequeueMessageInSharedQueue masterQueue pick s = .ok taken s' →
        DequeuedInFlight s' ∧ ∀ message ∈ taken, message ∈ s'.runQueue.inFlight := by
    intro s taken s' holds ran
    obtain ⟨sameDb, -, inFlight, -⟩ := dequeueMessageInSharedQueue_ok ran
    refine ⟨fun runId dequeued => ?_, fun message taken => ?_⟩
    · rw [sameDb] at dequeued
      obtain ⟨message, member, same⟩ := holds runId dequeued
      exact ⟨message, by rw [inFlight]; exact List.mem_append_left _ member, same⟩
    · rw [inFlight]
      exact List.mem_append_right _ (Option.mem_toList.mpr taken)
  exact keeps_dequeueFromMasterQueue_into lock
    (keeps_dequeueMessageInSharedQueue fun s taken s' holds ran => (taking s taken s' holds ran).1)
    taking (fun _ _ inside => inside.1) fun message _ s ⟨holds, flying⟩ => by
      rw [createExecutionSnapshot_eq]
      exact ⟨⟨holds.appendSnapshot _ _ _ _ fun _ => ⟨message, flying message rfl, rfl⟩, flying⟩,
        Nat.le_succ _⟩

theorem DequeuedInFlight.run {s : State} (rows : RowsBlockDelayed s) (holds : DequeuedInFlight s)
    (op : Operation) : DequeuedInFlight (finalState (op.run s)) := by
  cases op
  case trigger => exact ((keepsInFlight_trigger _ _ _).discard s holds).1
  case dequeueFromMasterQueue =>
    exact ((keepsInFlight_dequeueFromMasterQueue _ _ _).discard s holds).1
  case processJob => exact holds.of_kept (queueKept_processJob rows _ _)
  case tick => exact holds.of_kept ⟨rfl, rfl, rfl, Nat.le_refl _⟩

theorem Reachable.dequeuedInFlight {s : State} (reachable : Reachable s) : DequeuedInFlight s := by
  induction reachable with
  | empty => exact fun _ dequeued => absurd dequeued (List.not_mem_nil _)
  | step op reachable _ holds => exact holds.run reachable.rowsBlockDelayed op

/-- The two levels agree: in every reachable state a run dequeued for execution was handed
out by the Run Queue exactly once. -/
theorem Reachable.dequeued_handed_out_once {s : State} (reachable : Reachable s) {runId : Nat}
    (dequeued : TaskRunExecutionStatus.DEQUEUED_FOR_EXECUTION ∈ s.db.history runId) :
    (s.runQueue.inFlight.map (·.runId)).count runId = 1 := by
  obtain ⟨message, member, rfl⟩ := reachable.dequeuedInFlight runId dequeued
  exact List.count_eq_one_of_mem reachable.handedOutOnce.distinct (List.mem_map_of_mem _ member)

theorem dequeued_run_handed_out_once :
    TaskRunExecutionStatus.DEQUEUED_FOR_EXECUTION ∈ dequeuedRunState.db.history 0 ∧
      (dequeuedRunState.runQueue.inFlight.map (·.runId)).count 0 = 1 :=
  ⟨by decide, Reachable.dequeued_handed_out_once
    (.step _ (.step _ .empty trivial) trivial : Reachable dequeuedRunState) (by decide)⟩

/-! ## Waitpoints -/

/-- From `before` to `after` every completed waitpoint stays completed. -/
def CompletedStay (before after : State) : Prop :=
  ∀ id, (before.db.findWaitpoint id).map (·.status) = some .COMPLETED →
    (after.db.findWaitpoint id).map (·.status) = some .COMPLETED

instance : IsPreorder State CompletedStay where
  refl _ _ completed := completed
  trans _ _ _ early late id completed := late id (early id completed)

/-- The computation keeps every completed waitpoint completed, returning or throwing. -/
abbrev KeepsCompleted (x : Engine α) : Prop := Keeps (fun _ => True) CompletedStay x

theorem KeepsCompleted.of_waitpoints {x : Engine α}
    (same : ∀ s, (finalState (x s)).db.waitpoints = s.db.waitpoints) : KeepsCompleted x :=
  fun s _ => ⟨trivial, fun id completed => by rwa [Db.findWaitpoint, same s]⟩

theorem completedStatements : Statements (fun _ => True) CompletedStay where
  fresh := KeepsCompleted.of_waitpoints fun _ => rfl
  addWaitpoint waitpoint s _ := ⟨trivial, fun id completed => by
    obtain ⟨found, lookup, status⟩ := Option.map_eq_some'.mp completed
    show ((s.db.addWaitpoint waitpoint).findWaitpoint id).map _ = _
    rw [Db.findWaitpoint_addWaitpoint_of_eq_some lookup, Option.map_some', status]⟩
  updateQueue _ _ := KeepsCompleted.of_waitpoints fun _ => rfl
  addQueue _ := KeepsCompleted.of_waitpoints fun _ => rfl
  deleteRows _ := KeepsCompleted.of_waitpoints fun _ => rfl
  complete id s _ := ⟨trivial, fun other completed => by
    obtain ⟨found, lookup, status⟩ := Option.map_eq_some'.mp completed
    show ((s.db.setWaitpointStatus id .COMPLETED).findWaitpoint other).map _ = _
    rw [Db.findWaitpoint_setWaitpointStatus_eq_map, lookup, Option.map_some', Option.map_some']
    split
    · rfl
    · exact congrArg some status⟩
  pushLimit _ taskQueue := KeepsCompleted.of_waitpoints fun _ => by
    unfold pushQueueConcurrencyLimit
    cases taskQueue.concurrencyLimit <;> rfl
  scheduleDateTime _ _ := KeepsCompleted.of_waitpoints fun _ => rfl
  scheduleExpiry _ _ := KeepsCompleted.of_waitpoints fun _ => rfl
  snapshot _ _ _ _ := KeepsCompleted.of_waitpoints fun _ => by rw [createExecutionSnapshot_eq]; rfl
  enqueue _ := KeepsCompleted.of_waitpoints fun _ => rfl
  dequeue masterQueue pick := KeepsCompleted.of_waitpoints fun s => by
    obtain ⟨_, _, ran, sameDb, -⟩ := dequeueMessageInSharedQueue_spec masterQueue pick s
    rw [ran]
    exact congrArg Db.waitpoints sameDb

theorem keepsCompleted_processJob (locks : Nat → LockOutcome) (job : ScheduledJob) :
    KeepsCompleted (processJob locks job) :=
  .processJob (keeps_runJob completedStatements
    (fun _ _ _ _ => ⟨trivial, fun _ completed => completed⟩) locks job.job)
    fun _ _ _ _ _ => ⟨trivial, fun _ completed => completed⟩

theorem keepsCompleted_run (op : Operation) : KeepsCompleted op.run := by
  cases op
  case trigger =>
    exact (keeps_trigger (Q := fun _ _ => True) _ _ _ (KeepsCompleted.of_waitpoints fun _ => rfl)
      (fun _ _ _ _ _ => trivial) (fun _ _ _ => trivial)
      (fun _ => completedStatements.toStoreStatements)
      (fun _ => keeps_enqueueRun completedStatements _ _)
      fun _ _ _ _ _ => KeepsCompleted.of_waitpoints fun _ => rfl).discard
  case dequeueFromMasterQueue =>
    exact (keeps_dequeueFromMasterQueue completedStatements _ _ _).discard
  case processJob => exact keepsCompleted_processJob _ _
  case tick => exact KeepsCompleted.of_waitpoints fun _ => rfl

/-- A completed waitpoint is never reopened: from any state, whatever the engine does next,
a waitpoint found `COMPLETED` is found `COMPLETED` after. -/
theorem Operation.completedStay (op : Operation) (s : State) :
    CompletedStay s (finalState (op.run s)) :=
  (keepsCompleted_run op s trivial).2

/-- Nor over a whole run: after any sequence of operations, from any state. -/
theorem Operation.runAll_completedStay (ops : List Operation) (s : State) :
    CompletedStay s (Operation.runAll ops s) := by
  induction ops generalizing s with
  | nil => exact refl s
  | cons op ops more => exact trans_of CompletedStay (op.completedStay s) (more _)

end RunEngine
