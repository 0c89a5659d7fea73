import Mathlib.Data.List.Nodup
import RunEngine.Resume

/-! The Run Queue's waiting messages and the snapshot log agree: in every reachable state the
run of each queued message has a `QUEUED` latest snapshot. `#enqueueRun` writes that snapshot
before it queues the message, `dequeueFromMasterQueue` takes the message off before it writes
`DEQUEUED_FOR_EXECUTION`, and `#completeWaitpoint` continues no run. So
`dequeueFromMasterQueue` throws only when the run's lock is refused. The queue also hands
each run out at most once. -/

namespace RunEngine

/-- Every message waiting in the Run Queue belongs to a run created before, and the run's
latest snapshot is `QUEUED`. -/
structure QueuedRunsQueued (s : State) : Prop where
  created : ∀ message ∈ s.runQueue.queued, message.runId < s.nextId
  queued : ∀ message ∈ s.runQueue.queued,
    (s.db.latestSnapshot message.runId).map (·.executionStatus) = some .QUEUED

/-! ## Computations that keep the waiting messages and the snapshots -/

/-- From `before` to `after` the Run Queue's messages and the snapshots are the same and ids
only grow. -/
structure QueueKept (before after : State) : Prop where
  queued : after.runQueue.queued = before.runQueue.queued
  inFlight : after.runQueue.inFlight = before.runQueue.inFlight
  snapshots : after.db.snapshots = before.db.snapshots
  nextId : before.nextId ≤ after.nextId

instance : IsPreorder State QueueKept where
  refl _ := ⟨rfl, rfl, rfl, Nat.le_refl _⟩
  trans _ _ _ early late := ⟨late.queued.trans early.queued, late.inFlight.trans early.inFlight,
    late.snapshots.trans early.snapshots, Nat.le_trans early.nextId late.nextId⟩

theorem QueuedRunsQueued.of_kept {before after : State} (holds : QueuedRunsQueued before)
    (kept : QueueKept before after) : QueuedRunsQueued after where
  created message member :=
    Nat.lt_of_lt_of_le (holds.created message (kept.queued ▸ member)) kept.nextId
  queued message member := by
    simp only [Db.latestSnapshot, kept.snapshots]
    exact holds.queued message (kept.queued ▸ member)

/-- The computation keeps the Run Queue's messages and the snapshots, returning or throwing. -/
abbrev KeepsQueue (x : Engine α) : Prop := Keeps (fun _ => True) QueueKept x

theorem KeepsQueue.of_frame {x : Engine α} (frame : ∀ s, QueueKept s (finalState (x s))) :
    KeepsQueue x := fun s _ => ⟨trivial, frame s⟩

theorem keepsQueue_writeDb {change : Db → Db}
    (snapshots : ∀ db, (change db).snapshots = db.snapshots) : KeepsQueue (writeDb change) :=
  .of_frame fun s => ⟨rfl, rfl, snapshots s.db, Nat.le_refl _⟩

theorem keepsQueue_freshId : KeepsQueue freshId :=
  .of_frame fun _ => ⟨rfl, rfl, rfl, Nat.le_succ _⟩

theorem keepsQueue_pushQueueConcurrencyLimit (env : Keys.AuthenticatedEnvironment)
    (taskQueue : TaskQueue) : KeepsQueue (pushQueueConcurrencyLimit env taskQueue) :=
  .of_frame fun _ => by
    unfold pushQueueConcurrencyLimit
    cases taskQueue.concurrencyLimit <;> exact ⟨rfl, rfl, rfl, le_rfl⟩

theorem keepsQueue_workerEnqueue (id : Option String) (job : WorkerJob) (availableAt : Nat) :
    KeepsQueue (workerEnqueue id job availableAt) :=
  .of_frame fun _ => ⟨rfl, rfl, rfl, Nat.le_refl _⟩

theorem queueStatements : StoreStatements (fun _ => True) QueueKept where
  fresh := keepsQueue_freshId
  addWaitpoint _ := keepsQueue_writeDb fun _ => rfl
  updateQueue _ _ := keepsQueue_writeDb fun _ => rfl
  addQueue _ := keepsQueue_writeDb fun _ => rfl
  deleteRows _ := keepsQueue_writeDb fun _ => rfl
  complete _ := keepsQueue_writeDb fun _ => rfl
  pushLimit := keepsQueue_pushQueueConcurrencyLimit
  scheduleDateTime _ _ := keepsQueue_workerEnqueue _ _ _
  scheduleExpiry _ _ := keepsQueue_workerEnqueue _ _ _

/-! ## Snapshots and messages -/

theorem QueuedRunsQueued.appendSnapshot {s : State} (holds : QueuedRunsQueued s) (runId : Nat)
    (runStatus : TaskRunStatus) (executionStatus : TaskRunExecutionStatus) (description : String)
    (allowed : executionStatus = .QUEUED ∨ ∀ message ∈ s.runQueue.queued, message.runId ≠ runId) :
    QueuedRunsQueued (s.appendSnapshot runId runStatus executionStatus description) where
  created message member := Nat.lt_succ_of_lt (holds.created message member)
  queued message member := by
    simp only [State.appendSnapshot, Db.latestSnapshot_addSnapshot]
    split
    · next same =>
      rcases allowed with queued | absent
      · rw [queued]; rfl
      · exact absurd same.symm (absent message member)
    · exact holds.queued message member

theorem QueuedRunsQueued.enqueue {s : State} (holds : QueuedRunsQueued s)
    {message : RunQueueMessage} (created : message.runId < s.nextId)
    (latest : (s.db.latestSnapshot message.runId).map (·.executionStatus) = some .QUEUED) :
    QueuedRunsQueued (s.enqueue message) := by
  refine ⟨fun other member => ?_, fun other member => ?_⟩
  all_goals rcases State.mem_enqueue member with old | rfl
  · exact holds.created other old
  · exact created
  · exact holds.queued other old
  · exact latest

/-! ## The engine's calls and jobs -/

theorem keepsQueued_createTaskRun (params : TriggerParams) (status : TaskRunStatus) :
    Keeps QueuedRunsQueued IdsGrow (createTaskRun params status) := fun s holds => by
  refine ⟨⟨fun message member => Nat.lt_add_right 2 (holds.created message member),
    fun message member => ?_⟩, Nat.le_add_right _ 2⟩
  have other : s.nextId ≠ message.runId := Nat.ne_of_gt (holds.created message member)
  change (((s.db.addRun _).addSnapshot
    ⟨s.nextId + 1, s.nextId, .RUN_CREATED, _, _, _⟩).latestSnapshot message.runId).map _ = _
  rw [Db.latestSnapshot_addSnapshot, if_neg other]
  exact holds.queued message member

theorem keepsQueued_enqueueRun (run : TaskRun) (env : Keys.AuthenticatedEnvironment) :
    Keeps (fun s => QueuedRunsQueued s ∧ run.id < s.nextId) IdsGrow (enqueueRun run env) :=
  fun s ⟨holds, created⟩ => by
    have snapshotted := holds.appendSnapshot run.id run.status .QUEUED "Run was QUEUED" (.inl rfl)
    have latest : ((s.appendSnapshot run.id run.status .QUEUED "Run was QUEUED").db.latestSnapshot
        run.id).map (·.executionStatus) = some .QUEUED := by
      simp [State.appendSnapshot]
    simp only [enqueueRun, Engine.bind_apply, createExecutionSnapshot_eq, enqueueMessage,
      Engine.modify_apply, finalState]
    exact ⟨⟨snapshotted.enqueue (Nat.lt_succ_of_lt created) latest, Nat.lt_succ_of_lt created⟩,
      Nat.le_succ _⟩

theorem keepsQueued_trigger (parseNaturalLanguageDuration : String → Option Nat)
    (params : TriggerParams) (lock : LockOutcome) :
    Keeps QueuedRunsQueued IdsGrow (trigger parseNaturalLanguageDuration params lock) := by
  have stable : ∀ (taskRun : TaskRun) before after,
      QueuedRunsQueued before ∧ taskRun.id < before.nextId → QueueKept before after →
        (QueuedRunsQueued after ∧ taskRun.id < after.nextId) ∧ IdsGrow before after :=
    fun _ _ _ ⟨holds, created⟩ kept =>
      ⟨⟨holds.of_kept kept, Nat.lt_of_lt_of_le created kept.nextId⟩, kept.nextId⟩
  refine keeps_trigger (Q := fun taskRun s => QueuedRunsQueued s ∧ taskRun.id < s.nextId) _ _ _
    (keepsQueued_createTaskRun _ _) (fun s taskRun s' holds created => ⟨
      (keepsQueued_createTaskRun _ _).holds_of_ok holds created, ?_⟩) (fun _ _ inside => inside.1)
    (fun taskRun => queueStatements.transfer (stable taskRun))
    (fun _ => keepsQueued_enqueueRun _ _)
    fun taskRun _ _ _ _ => Keeps.transfer (stable taskRun) (keepsQueue_writeDb fun _ => by rfl)
  rw [createTaskRun_eq] at created
  cases created
  show s.nextId < s.nextId + 1 + 1
  omega

/-- `runQueue.dequeueMessageInSharedQueue` returns and keeps the store and the next id; it
only takes messages off the queue, and the one it returns was waiting, is now in flight and
leaves no message of its run behind. -/
theorem dequeueMessageInSharedQueue_spec (masterQueue : String) (pick : Option Nat)
    (s : State) : ∃ taken s', dequeueMessageInSharedQueue masterQueue pick s = .ok taken s' ∧
      s'.db = s.db ∧ s'.nextId = s.nextId ∧
      s'.runQueue.inFlight = s.runQueue.inFlight ++ taken.toList ∧
      (∀ other ∈ s'.runQueue.queued, other ∈ s.runQueue.queued) ∧
      ∀ message ∈ taken, message ∈ s.runQueue.queued ∧
        ∀ other ∈ s'.runQueue.queued, other.runId ≠ message.runId := by
  unfold dequeueMessageInSharedQueue
  simp only [Engine.bind_apply, Engine.get_apply]
  cases found :
      s.runQueue.queued.find? fun m => m.masterQueue == masterQueue && some m.runId == pick
  case none =>
    exact ⟨none, s, rfl, rfl, rfl, (List.append_nil _).symm, fun _ member => member, nofun⟩
  case some message =>
    refine ⟨some message, _, rfl, rfl, rfl, rfl, fun _ member => List.mem_of_mem_filter member, ?_⟩
    rintro _ ⟨⟩
    refine ⟨List.mem_of_find?_eq_some found, fun other member => ?_⟩
    simpa using (List.mem_filter.mp member).2

theorem dequeueMessageInSharedQueue_ok {masterQueue : String} {pick : Option Nat}
    {s s' : State} {taken : Option RunQueueMessage}
    (ran : dequeueMessageInSharedQueue masterQueue pick s = .ok taken s') :
    s'.db = s.db ∧ s'.nextId = s.nextId ∧
      s'.runQueue.inFlight = s.runQueue.inFlight ++ taken.toList ∧
      (∀ other ∈ s'.runQueue.queued, other ∈ s.runQueue.queued) ∧
      ∀ message ∈ taken, message ∈ s.runQueue.queued ∧
        ∀ other ∈ s'.runQueue.queued, other.runId ≠ message.runId := by
  obtain ⟨_, _, ran', facts⟩ := dequeueMessageInSharedQueue_spec masterQueue pick s
  rw [ran] at ran'
  cases ran'
  exact facts

theorem keeps_dequeueMessageInSharedQueue {inv : State → Prop} {masterQueue : String}
    {pick : Option Nat} (taking : ∀ s taken s', inv s →
      dequeueMessageInSharedQueue masterQueue pick s = .ok taken s' → inv s') :
    Keeps inv IdsGrow (dequeueMessageInSharedQueue masterQueue pick) := fun s holds => by
  obtain ⟨taken, s', ran, -, sameNext, -⟩ := dequeueMessageInSharedQueue_spec masterQueue pick s
  rw [ran]
  exact ⟨taking s taken s' holds ran, sameNext.ge⟩

/-- The invariant once `dequeueFromMasterQueue` has taken `taken` off the queue: no message
of its run is left waiting. -/
def Dequeued (taken : Option RunQueueMessage) (s : State) : Prop :=
  QueuedRunsQueued s ∧
    ∀ message ∈ taken, ∀ other ∈ s.runQueue.queued, other.runId ≠ message.runId

theorem keepsDequeued_createExecutionSnapshot (message : RunQueueMessage)
    (runStatus : TaskRunStatus) (executionStatus : TaskRunExecutionStatus) (description : String) :
    Keeps (Dequeued (some message)) IdsGrow
      (createExecutionSnapshot message.runId runStatus executionStatus description) :=
  fun s ⟨holds, absent⟩ => by
    rw [createExecutionSnapshot_eq]
    exact ⟨⟨holds.appendSnapshot _ _ _ _ (.inr (absent message rfl)), absent⟩, Nat.le_succ _⟩

theorem keepsQueued_dequeueFromMasterQueue (masterQueue : String) (pick : Option Nat)
    (lock : LockOutcome) :
    Keeps QueuedRunsQueued IdsGrow (dequeueFromMasterQueue masterQueue pick lock) := by
  have taking : ∀ s taken s', QueuedRunsQueued s →
      dequeueMessageInSharedQueue masterQueue pick s = .ok taken s' → Dequeued taken s' := by
    intro s taken s' holds ran
    obtain ⟨sameDb, sameNext, -, kept, absent⟩ := dequeueMessageInSharedQueue_ok ran
    refine ⟨⟨fun other member => sameNext ▸ holds.created other (kept other member),
      fun other member => sameDb ▸ holds.queued other (kept other member)⟩,
      fun message taken => (absent message taken).2⟩
  exact keeps_dequeueFromMasterQueue_into lock
    (keeps_dequeueMessageInSharedQueue fun s taken s' holds ran => (taking s taken s' holds ran).1)
    taking (fun _ _ dequeued => dequeued.1)
    fun message _ => keepsDequeued_createExecutionSnapshot message _ _ _

theorem completeWaitpoint_of_nothingResumed (locks : Nat → LockOutcome) {id : Nat} {s : State}
    (nothing : runsResumedBy s id = []) :
    finalState (completeWaitpoint locks id s) = s ∨
      finalState (completeWaitpoint locks id s) = s.clearWaitpoint id := by
  cases found : s.db.findWaitpoint id with
  | none => left; simp [completeWaitpoint, readDb, found]; rfl
  | some waitpoint =>
    cases status : waitpoint.status with
    | COMPLETED => left; rw [completeWaitpoint_of_completed found status]; rfl
    | PENDING =>
      rw [completeWaitpoint_of_pending found status, transaction, completeWaitpointTransaction_eq,
        nothing]
      by_cases empty : s.db.blockersOf id = []
      · left; rw [if_pos empty]; rfl
      · right; rw [if_neg empty]; rfl

theorem queueKept_processJob {s : State} (rows : RowsBlockDelayed s) (locks : Nat → LockOutcome)
    (job : ScheduledJob) : QueueKept s (finalState (processJob locks job s)) := by
  have ran : QueueKept s (finalState (runJob locks job.job s)) := by
    cases job.job with
    | waitpointCompleteDateTime id =>
      show QueueKept s (finalState (completeWaitpoint locks id s))
      rcases completeWaitpoint_of_nothingResumed locks (rows.nothingResumed id) with same | cleared
      · rw [same]; exact refl s
      · rw [cleared]; exact ⟨rfl, rfl, rfl, Nat.le_refl _⟩
    | heartbeatSnapshot runId snapshotId =>
      simp only [runJob, handleStalledSnapshot_eq]; exact refl s
    | expireRun => exact refl s
  unfold processJob
  cases returned : runJob locks job.job s with
  | ok _ s' => rw [returned] at ran; exact ⟨ran.queued, ran.inFlight, ran.snapshots, ran.nextId⟩
  | error _ s' => rw [returned] at ran; exact ran

theorem QueuedRunsQueued.run {s : State} (rows : RowsBlockDelayed s) (holds : QueuedRunsQueued s)
    (op : Operation) : QueuedRunsQueued (finalState (op.run s)) := by
  cases op
  case trigger => exact ((keepsQueued_trigger _ _ _).discard s holds).1
  case dequeueFromMasterQueue =>
    exact ((keepsQueued_dequeueFromMasterQueue _ _ _).discard s holds).1
  case processJob => exact holds.of_kept (queueKept_processJob rows _ _)
  case tick => exact holds.of_kept ⟨rfl, rfl, rfl, Nat.le_refl _⟩

/-- In every reachable state each message waiting in the Run Queue belongs to a run whose
latest snapshot is `QUEUED`. -/
theorem Reachable.queuedRunsQueued {s : State} (reachable : Reachable s) : QueuedRunsQueued s := by
  induction reachable with
  | empty => exact ⟨nofun, nofun⟩
  | step op reachable _ holds => exact holds.run reachable.rowsBlockDelayed op

/-- Run 0 of the example environment, triggered without delay: its message waits on the
master queue `main`. -/
def undelayedTriggerState : State :=
  finalState ((Operation.trigger (fun _ => none) { delayedParams with delayUntil := none }
    .held).run State.empty)

/-- Then taken off `main` with its lock held. -/
def dequeuedRunState : State :=
  finalState ((Operation.dequeueFromMasterQueue "main" (some 0) .held).run undelayedTriggerState)

/-- The Run Queue and the store agree: in every reachable state each message waiting in the
Run Queue belongs to a run created before, and that run's latest snapshot is `QUEUED`. -/
theorem Reachable.waiting_message_queued {s : State} (reachable : Reachable s) :
    ∀ message ∈ s.runQueue.queued, message.runId < s.nextId ∧
      (s.db.latestSnapshot message.runId).map (·.executionStatus) = some .QUEUED :=
  fun message waiting => ⟨reachable.queuedRunsQueued.created message waiting,
    reachable.queuedRunsQueued.queued message waiting⟩

theorem undelayed_run_waits_queued :
    (undelayedTriggerState.db.latestSnapshot 0).map (·.executionStatus) = some .QUEUED :=
  (Reachable.waiting_message_queued (.step _ .empty trivial : Reachable undelayedTriggerState)
    (undelayedTriggerState.runQueue.queued.head (by decide)) (List.head_mem _)).2

/-- The Run Queue hands each run out at most once: every message belongs to a run created
before, the messages in flight belong to distinct runs, and none of those runs has a message
waiting. -/
structure HandedOutOnce (s : State) : Prop where
  created : ∀ message ∈ s.runQueue.queued ++ s.runQueue.inFlight, message.runId < s.nextId
  distinct : (s.runQueue.inFlight.map (·.runId)).Nodup
  notWaiting : ∀ message ∈ s.runQueue.inFlight, ∀ other ∈ s.runQueue.queued,
    other.runId ≠ message.runId

theorem HandedOutOnce.of_messages {before after : State} (holds : HandedOutOnce before)
    (queued : after.runQueue.queued = before.runQueue.queued)
    (inFlight : after.runQueue.inFlight = before.runQueue.inFlight)
    (grew : before.nextId ≤ after.nextId) : HandedOutOnce after where
  created message member := by
    rw [queued, inFlight] at member
    exact Nat.lt_of_lt_of_le (holds.created message member) grew
  distinct := inFlight ▸ holds.distinct
  notWaiting message member other waiting :=
    holds.notWaiting message (inFlight ▸ member) other (queued ▸ waiting)

theorem HandedOutOnce.of_kept {before after : State} (holds : HandedOutOnce before)
    (kept : QueueKept before after) : HandedOutOnce after :=
  holds.of_messages kept.queued kept.inFlight kept.nextId

theorem HandedOutOnce.enqueue {s : State} (holds : HandedOutOnce s) {message : RunQueueMessage}
    (created : message.runId < s.nextId)
    (idle : ∀ flying ∈ s.runQueue.inFlight, flying.runId ≠ message.runId) :
    HandedOutOnce (s.enqueue message) := by
  refine ⟨fun other member => ?_, holds.distinct, fun flying member other waiting => ?_⟩
  · rcases List.mem_append.mp member with waiting | flying
    · rcases State.mem_enqueue waiting with old | rfl
      · exact holds.created other (List.mem_append_left _ old)
      · exact created
    · exact holds.created other (List.mem_append_right _ flying)
  · rcases State.mem_enqueue waiting with old | rfl
    · exact holds.notWaiting flying member other old
    · exact (idle flying member).symm

theorem keepsHandedOut_dequeueMessageInSharedQueue (masterQueue : String) (pick : Option Nat) :
    Keeps HandedOutOnce IdsGrow (dequeueMessageInSharedQueue masterQueue pick) :=
  keeps_dequeueMessageInSharedQueue fun s taken s' holds ran => by
    obtain ⟨-, sameNext, inFlight, kept, waiting⟩ := dequeueMessageInSharedQueue_ok ran
    have flying : ∀ message ∈ s'.runQueue.inFlight,
        message ∈ s.runQueue.inFlight ∨ message ∈ taken := fun message member => by
      rwa [inFlight, List.mem_append, Option.mem_toList] at member
    refine ⟨fun message member => ?_, ?_, fun message member other left => ?_⟩
    · rw [sameNext]
      rcases List.mem_append.mp member with left | flew
      · exact holds.created message (List.mem_append_left _ (kept message left))
      · rcases flying message flew with old | new
        · exact holds.created message (List.mem_append_right _ old)
        · exact holds.created message (List.mem_append_left _ (waiting message new).1)
    · rw [inFlight, List.map_append, List.nodup_append]
      refine ⟨holds.distinct, by cases taken <;> simp, fun runId old new => ?_⟩
      obtain ⟨flying, member, rfl⟩ := List.mem_map.mp old
      obtain ⟨message, taken, same⟩ := List.mem_map.mp new
      exact holds.notWaiting flying member message
        (waiting message (Option.mem_toList.mp taken)).1 same
    · rcases flying message member with old | new
      · exact holds.notWaiting message old other (kept other left)
      · exact (waiting message new).2 other left

theorem keepsHandedOut_createExecutionSnapshot (runId : Nat) (runStatus : TaskRunStatus)
    (executionStatus : TaskRunExecutionStatus) (description : String) :
    Keeps HandedOutOnce IdsGrow
      (createExecutionSnapshot runId runStatus executionStatus description) :=
  fun s holds => by
    rw [createExecutionSnapshot_eq]
    exact ⟨holds.of_messages rfl rfl (Nat.le_succ _), Nat.le_succ _⟩

theorem keepsHandedOut_dequeueFromMasterQueue (masterQueue : String) (pick : Option Nat)
    (lock : LockOutcome) :
    Keeps HandedOutOnce IdsGrow (dequeueFromMasterQueue masterQueue pick lock) :=
  keeps_dequeueFromMasterQueue_into (Q := fun _ => HandedOutOnce) lock
    (keepsHandedOut_dequeueMessageInSharedQueue masterQueue pick)
    (fun _ _ _ => (keepsHandedOut_dequeueMessageInSharedQueue masterQueue pick).holds_of_ok)
    (fun _ _ holds => holds) fun _ _ => keepsHandedOut_createExecutionSnapshot _ _ _ _

/-- Inside `trigger`'s locked block: the run just created has no message in flight. -/
def Unsent (taskRun : TaskRun) (s : State) : Prop :=
  HandedOutOnce s ∧ taskRun.id < s.nextId ∧
    ∀ flying ∈ s.runQueue.inFlight, flying.runId ≠ taskRun.id

theorem keepsHandedOut_createTaskRun (params : TriggerParams) (status : TaskRunStatus) :
    Keeps HandedOutOnce IdsGrow (createTaskRun params status) := fun _ holds =>
  ⟨holds.of_messages rfl rfl (Nat.le_add_right _ 2), Nat.le_add_right _ 2⟩

theorem keepsHandedOut_enqueueRun (run : TaskRun) (env : Keys.AuthenticatedEnvironment) :
    Keeps (Unsent run) IdsGrow (enqueueRun run env) := fun s ⟨holds, created, idle⟩ => by
  have snapshotted : HandedOutOnce (s.appendSnapshot run.id run.status .QUEUED "Run was QUEUED") :=
    holds.of_messages rfl rfl (Nat.le_succ _)
  simp only [enqueueRun, Engine.bind_apply, createExecutionSnapshot_eq, enqueueMessage,
    Engine.modify_apply, finalState]
  exact ⟨⟨snapshotted.enqueue (Nat.lt_succ_of_lt created) idle, Nat.lt_succ_of_lt created, idle⟩,
    Nat.le_succ _⟩

theorem keepsHandedOut_trigger (parseNaturalLanguageDuration : String → Option Nat)
    (params : TriggerParams) (lock : LockOutcome) :
    Keeps HandedOutOnce IdsGrow (trigger parseNaturalLanguageDuration params lock) := by
  have stable : ∀ (taskRun : TaskRun) before after, Unsent taskRun before →
      QueueKept before after → Unsent taskRun after ∧ IdsGrow before after :=
    fun _ _ _ ⟨holds, created, idle⟩ kept =>
      ⟨⟨holds.of_kept kept, Nat.lt_of_lt_of_le created kept.nextId, kept.inFlight ▸ idle⟩,
        kept.nextId⟩
  refine keeps_trigger (Q := Unsent) _ _ _ (keepsHandedOut_createTaskRun _ _)
    (fun s taskRun s' holds created => ⟨
      (keepsHandedOut_createTaskRun _ _).holds_of_ok holds created, ?_⟩)
    (fun _ _ inside => inside.1) (fun taskRun => queueStatements.transfer (stable taskRun))
    (fun _ => keepsHandedOut_enqueueRun _ _)
    fun taskRun _ _ _ _ => Keeps.transfer (stable taskRun) (keepsQueue_writeDb fun _ => by rfl)
  rw [createTaskRun_eq] at created
  cases created
  refine ⟨by show s.nextId < s.nextId + 1 + 1; omega, fun flying member => ?_⟩
  exact Nat.ne_of_lt (holds.created flying (List.mem_append_right _ member))

theorem HandedOutOnce.run {s : State} (rows : RowsBlockDelayed s) (holds : HandedOutOnce s)
    (op : Operation) : HandedOutOnce (finalState (op.run s)) := by
  cases op
  case trigger => exact ((keepsHandedOut_trigger _ _ _).discard s holds).1
  case dequeueFromMasterQueue =>
    exact ((keepsHandedOut_dequeueFromMasterQueue _ _ _).discard s holds).1
  case processJob => exact holds.of_kept (queueKept_processJob rows _ _)
  case tick => exact holds.of_kept ⟨rfl, rfl, rfl, Nat.le_refl _⟩

theorem Reachable.handedOutOnce {s : State} (reachable : Reachable s) : HandedOutOnce s := by
  induction reachable with
  | empty => exact ⟨nofun, .nil, nofun⟩
  | step op reachable _ holds => exact holds.run reachable.rowsBlockDelayed op

/-- No run is handed out twice: in every reachable state at most one message in flight
belongs to a given run, whether or not its lock was taken. -/
theorem Reachable.handed_out_at_most_once {s : State} (reachable : Reachable s) (runId : Nat) :
    (s.runQueue.inFlight.map (·.runId)).count runId ≤ 1 :=
  List.nodup_iff_count_le_one.mp reachable.handedOutOnce.distinct runId

theorem dequeued_run_handed_out_at_most_once :
    (dequeuedRunState.runQueue.inFlight.map (·.runId)).count 0 ≤ 1 :=
  Reachable.handed_out_at_most_once
    (.step _ (.step _ .empty trivial) trivial : Reachable dequeuedRunState) 0

/-- No run is waiting and in flight at once: in every reachable state a message in flight
belongs to a run with no message waiting, so no run can be handed out a second time. -/
theorem Reachable.in_flight_not_waiting {s : State} (reachable : Reachable s) :
    ∀ message ∈ s.runQueue.inFlight, ∀ other ∈ s.runQueue.queued, other.runId ≠ message.runId :=
  reachable.handedOutOnce.notWaiting

/-- Then a second run, triggered without delay: its message waits while run 0's is in
flight. -/
def secondRunState : State :=
  finalState ((Operation.trigger (fun _ => none) { delayedParams with delayUntil := none }
    .held).run dequeuedRunState)

theorem second_run_not_in_flight :
    (secondRunState.runQueue.queued.head (by decide)).runId ≠
      (secondRunState.runQueue.inFlight.head (by decide)).runId :=
  Reachable.in_flight_not_waiting
    (.step _ (.step _ (.step _ .empty trivial) trivial) trivial : Reachable secondRunState)
    _ (List.head_mem _) _ (List.head_mem _)

end RunEngine
