import RunEngine.Dequeue

/-! What a failed call leaves behind. When `dequeueFromMasterQueue` throws, nothing
acknowledges or nacks the message it has taken: it stays in flight and counted. `trigger`
runs in no transaction and compensates nothing: the rows and jobs it wrote before a throw
stay. -/

namespace RunEngine

/-! ## The current-concurrency sets -/

theorem dequeueMessageInSharedQueue_currentConcurrency {masterQueue : String}
    {pick : Option Nat} {s s' : State} {taken : Option RunQueueMessage}
    (ran : dequeueMessageInSharedQueue masterQueue pick s = .ok taken s') :
    s'.runQueue.currentConcurrency = s.runQueue.currentConcurrency ++
      taken.toList.flatMap fun message => message.concurrencySets.map (·, message.runId) := by
  unfold dequeueMessageInSharedQueue at ran
  cases found : s.runQueue.queued.find? fun m =>
      m.masterQueue == masterQueue && some m.runId == pick <;>
    simp only [Engine.bind_apply, Engine.get_apply, found] at ran <;> cases ran <;> simp

/-- Each member of a current-concurrency set is the run of a message in flight. -/
def CountedInFlight (s : State) : Prop :=
  ∀ member ∈ s.runQueue.currentConcurrency, ∃ message ∈ s.runQueue.inFlight,
    message.runId = member.2

/-- From `before` to `after` the messages in flight and the sets are the same. -/
structure FlightKept (before after : State) : Prop where
  inFlight : after.runQueue.inFlight = before.runQueue.inFlight
  currentConcurrency : after.runQueue.currentConcurrency = before.runQueue.currentConcurrency

instance : IsPreorder State FlightKept where
  refl _ := ⟨rfl, rfl⟩
  trans _ _ _ early late := ⟨late.inFlight.trans early.inFlight,
    late.currentConcurrency.trans early.currentConcurrency⟩

theorem CountedInFlight.of_kept {before after : State} (holds : CountedInFlight before)
    (kept : FlightKept before after) : CountedInFlight after := by
  rw [CountedInFlight, kept.inFlight, kept.currentConcurrency]
  exact holds

theorem keepsFlight_of_runQueue {x : Engine α}
    (same : ∀ s, (finalState (x s)).runQueue = s.runQueue) :
    Keeps (fun _ => True) FlightKept x := fun s _ =>
  ⟨trivial, congrArg RunQueue.inFlight (same s), congrArg RunQueue.currentConcurrency (same s)⟩

theorem keepsFlight_enqueueRun (run : TaskRun) (env : Keys.AuthenticatedEnvironment) :
    Keeps (fun _ => True) FlightKept (enqueueRun run env) :=
  (keepsFlight_of_runQueue fun s => by rw [createExecutionSnapshot_eq]; rfl).bind fun _ =>
    fun _ _ => ⟨trivial, rfl, rfl⟩

theorem flightStatements : StoreStatements (fun _ => True) FlightKept where
  fresh := keepsFlight_of_runQueue fun _ => rfl
  addWaitpoint _ := keepsFlight_of_runQueue fun _ => rfl
  updateQueue _ _ := keepsFlight_of_runQueue fun _ => rfl
  addQueue _ := keepsFlight_of_runQueue fun _ => rfl
  deleteRows _ := keepsFlight_of_runQueue fun _ => rfl
  complete _ := keepsFlight_of_runQueue fun _ => rfl
  pushLimit _ taskQueue := fun _ _ => by
    unfold pushQueueConcurrencyLimit
    cases taskQueue.concurrencyLimit <;> exact ⟨trivial, rfl, rfl⟩
  scheduleDateTime _ _ := keepsFlight_of_runQueue fun _ => rfl
  scheduleExpiry _ _ := keepsFlight_of_runQueue fun _ => rfl

theorem keepsFlight_trigger (parseNaturalLanguageDuration : String → Option Nat)
    (params : TriggerParams) (lock : LockOutcome) :
    Keeps (fun _ => True) FlightKept (trigger parseNaturalLanguageDuration params lock) :=
  keeps_trigger (Q := fun _ _ => True) _ _ _ (keepsFlight_of_runQueue fun _ => rfl)
    (fun _ _ _ _ _ => trivial) (fun _ _ _ => trivial) (fun _ => flightStatements)
    (fun _ => keepsFlight_enqueueRun _ _) fun _ _ _ _ _ => keepsFlight_of_runQueue fun _ => rfl

theorem keepsCounted_dequeueFromMasterQueue (masterQueue : String) (pick : Option Nat)
    (lock : LockOutcome) :
    Keeps CountedInFlight IdsGrow (dequeueFromMasterQueue masterQueue pick lock) := by
  have taking : ∀ s taken s', CountedInFlight s →
      dequeueMessageInSharedQueue masterQueue pick s = .ok taken s' → CountedInFlight s' := by
    intro s taken s' holds ran
    obtain ⟨-, -, inFlight, -⟩ := dequeueMessageInSharedQueue_ok ran
    intro member counted
    rw [dequeueMessageInSharedQueue_currentConcurrency ran, List.mem_append] at counted
    rw [inFlight]
    rcases counted with old | new
    · obtain ⟨message, flying, same⟩ := holds member old
      exact ⟨message, List.mem_append_left _ flying, same⟩
    · obtain ⟨message, taken, named⟩ := List.mem_flatMap.mp new
      obtain ⟨set, -, rfl⟩ := List.mem_map.mp named
      exact ⟨message, List.mem_append_right _ taken, rfl⟩
  exact keeps_dequeueFromMasterQueue_into (Q := fun _ => CountedInFlight) lock
    (keeps_dequeueMessageInSharedQueue taking) taking (fun _ _ holds => holds)
    fun _ _ s holds => by rw [createExecutionSnapshot_eq]; exact ⟨holds, Nat.le_succ _⟩

theorem runQueue_processJob {s : State} (rows : RowsBlockDelayed s) (locks : Nat → LockOutcome)
    (job : ScheduledJob) : (finalState (processJob locks job s)).runQueue = s.runQueue := by
  have ran : (finalState (runJob locks job.job s)).runQueue = s.runQueue := by
    cases job.job with
    | waitpointCompleteDateTime id =>
      show (finalState (completeWaitpoint locks id s)).runQueue = _
      rcases completeWaitpoint_of_nothingResumed locks (rows.nothingResumed id) with same | cleared
      · rw [same]
      · rw [cleared]; rfl
    | heartbeatSnapshot => simp only [runJob, handleStalledSnapshot_eq]; rfl
    | expireRun => rfl
  unfold processJob
  cases returned : runJob locks job.job s with
  | ok _ s' => rw [returned] at ran; exact ran
  | error _ s' => rw [returned] at ran; exact ran

theorem CountedInFlight.run {s : State} (rows : RowsBlockDelayed s) (holds : CountedInFlight s)
    (op : Operation) : CountedInFlight (finalState (op.run s)) := by
  cases op
  case trigger => exact holds.of_kept ((keepsFlight_trigger _ _ _).discard s trivial).2
  case dequeueFromMasterQueue =>
    exact ((keepsCounted_dequeueFromMasterQueue _ _ _).discard s holds).1
  case processJob job locks =>
    have same := runQueue_processJob rows locks job
    exact holds.of_kept ⟨congrArg RunQueue.inFlight same, congrArg RunQueue.currentConcurrency same⟩
  case tick => exact holds.of_kept ⟨rfl, rfl⟩

/-- In every reachable state only runs in flight are counted. -/
theorem Reachable.countedInFlight {s : State} (reachable : Reachable s) : CountedInFlight s := by
  induction reachable with
  | empty => exact fun _ counted => absurd counted (List.not_mem_nil _)
  | step op reachable _ holds => exact holds.run reachable.rowsBlockDelayed op

/-! ## A failed dequeue -/

/-- `dequeueFromMasterQueue` throws only once `dequeueMessageInSharedQueue` has taken a
message, and its own writes leave the Run Queue as that dequeue left it: before a throw the
body writes at most the `DEQUEUED_FOR_EXECUTION` snapshot, when the lock is lost. -/
theorem dequeueFromMasterQueue_error {masterQueue : String} {pick : Option Nat}
    {lock : LockOutcome} {s s' : State} {e : EngineError}
    (threw : dequeueFromMasterQueue masterQueue pick lock s = .error e s') :
    ∃ message s₁, dequeueMessageInSharedQueue masterQueue pick s = .ok (some message) s₁ ∧
      s'.runQueue = s₁.runQueue := by
  obtain ⟨taken, s₁, ran, -⟩ := dequeueMessageInSharedQueue_spec masterQueue pick s
  simp only [RunEngine.dequeueFromMasterQueue, Engine.bind_apply, ran] at threw
  cases taken with
  | none => cases threw
  | some message =>
    refine ⟨message, s₁, ran, ?_⟩
    cases lock with
    | refused => cases threw; rfl
    | held | lostBefore _ =>
      have ended := congrArg finalState threw
      rw [finalState_redlockUsing (by simp)] at ended
      rw [show s' = _ from ended.symm]
      cases latest : s₁.db.latestSnapshot message.runId <;>
        simp only [getLatestExecutionSnapshot, readDb, latest, Engine.bind_apply, Engine.get_apply,
          Engine.pure_apply]
      · rfl
      · split <;> simp [createExecutionSnapshot_eq, finalState, State.appendSnapshot]

/-- In every reachable state, when `dequeueFromMasterQueue` throws, the message it took
stays in flight and counted in its three current-concurrency sets, where it was not before:
no branch acknowledges or nacks it. -/
theorem Reachable.failed_dequeue_keeps_message {s s' : State} (reachable : Reachable s)
    {masterQueue : String} {pick : Option Nat} {lock : LockOutcome} {e : EngineError}
    (threw : dequeueFromMasterQueue masterQueue pick lock s = .error e s') :
    ∃ message, message ∉ s.runQueue.inFlight ∧ message ∈ s'.runQueue.inFlight ∧
      ∀ set ∈ message.concurrencySets,
        (set, message.runId) ∉ s.runQueue.currentConcurrency ∧
          (set, message.runId) ∈ s'.runQueue.currentConcurrency := by
  obtain ⟨message, s₁, ran, sameQueue⟩ := dequeueFromMasterQueue_error threw
  obtain ⟨-, -, inFlight, -, taken⟩ := dequeueMessageInSharedQueue_ok ran
  have absent : ∀ other ∈ s.runQueue.inFlight, other.runId ≠ message.runId :=
    fun other flying =>
      (reachable.handedOutOnce.notWaiting other flying message (taken message rfl).1).symm
  refine ⟨message, fun flying => absent message flying rfl, ?_, fun set named => ⟨?_, ?_⟩⟩
  · rw [sameQueue, inFlight]
    exact List.mem_append_right _ (List.mem_singleton_self _)
  · intro counted
    obtain ⟨other, flying, same⟩ := reachable.countedInFlight _ counted
    exact absent other flying same
  · rw [sameQueue, dequeueMessageInSharedQueue_currentConcurrency ran]
    exact List.mem_append_right _ (by simpa using named)

/-- Run 0 of the example environment, triggered on the empty engine and waiting on the
master queue `main`. -/
def queuedRunState : State :=
  finalState ((Operation.trigger (fun _ => none) { delayedParams with delayUntil := none }
    .held).run State.empty)

/-- Dequeuing run 0 with its lock refused throws, and leaves its message in flight and the run
in its three current-concurrency sets, none of which held it before. -/
theorem refused_dequeue_keeps_message :
    ∃ s', dequeueFromMasterQueue "main" (some 0) .refused queuedRunState =
        .error (.lockRefused 0) s' ∧
      ∃ message, message ∉ queuedRunState.runQueue.inFlight ∧ message ∈ s'.runQueue.inFlight ∧
        ∀ set ∈ message.concurrencySets,
          (set, message.runId) ∉ queuedRunState.runQueue.currentConcurrency ∧
            (set, message.runId) ∈ s'.runQueue.currentConcurrency :=
  have threw : dequeueFromMasterQueue "main" (some 0) .refused queuedRunState =
      .error (.lockRefused 0) (finalState (dequeueFromMasterQueue "main" (some 0) .refused
        queuedRunState)) := rfl
  ⟨_, threw, Reachable.failed_dequeue_keeps_message (.step _ .empty trivial) threw⟩

/-! ## A failed trigger -/

/-- Whatever `trigger` meets, the run `createTaskRun` stored under the next id stays stored:
no statement after it deletes a run. -/
theorem trigger_keeps_created_run (parseNaturalLanguageDuration : String → Option Nat)
    (params : TriggerParams) (lock : LockOutcome) (s : State) :
    ∃ taskRun ∈ (finalState (trigger parseNaturalLanguageDuration params lock s)).db.runs,
      taskRun.id = s.nextId := by
  have stable : ∀ (taskRun : TaskRun) before after, taskRun ∈ before.db.runs →
      RunsKept before after → taskRun ∈ after.db.runs ∧ IdsGrow before after :=
    fun _ _ _ stored kept => ⟨kept.runs ▸ stored, kept.nextId⟩
  have created := createTaskRun_eq params
    (if params.delayUntil.isSome then .DELAYED else .PENDING) s
  have statements : ∀ taskRun, StoreStatements (fun s => taskRun ∈ s.db.runs) IdsGrow :=
    fun taskRun => runsStatements.toStoreStatements.transfer (stable taskRun)
  refine ⟨_, (trigger_ensures parseNaturalLanguageDuration params lock statements
    (fun taskRun => keeps_enqueueRun (runsStatements.transfer (stable taskRun)) _ _)
    (fun _ _ _ _ _ _ stored => ⟨stored, Nat.le_refl _⟩) created ?_).1, rfl⟩
  exact List.mem_append_right _ (List.mem_singleton_self _)

/-- In every reachable state a `trigger` that throws leaves a new run behind: no
transaction rolls its row back. -/
theorem Reachable.failed_trigger_keeps_run {s s' : State} (reachable : Reachable s)
    {parseNaturalLanguageDuration : String → Option Nat} {params : TriggerParams}
    {lock : LockOutcome} {e : EngineError}
    (threw : trigger parseNaturalLanguageDuration params lock s = .error e s') :
    ∃ taskRun ∈ s'.db.runs, taskRun ∉ s.db.runs ∧ taskRun.id = s.nextId := by
  obtain ⟨taskRun, stored, named⟩ := trigger_keeps_created_run parseNaturalLanguageDuration
    params lock s
  rw [threw] at stored
  exact ⟨taskRun, stored,
    fun old => Nat.lt_irrefl _ (named ▸ reachable.rowsBlockDelayed.fresh taskRun old), named⟩

/-- An undelayed run with a ttl, whose lock is lost before `trigger`'s second check: the
call throws once it has scheduled the run's expiry, and the job stays scheduled. -/
theorem trigger_lost_keeps_expiry (parseNaturalLanguageDuration : String → Option Nat)
    (params : TriggerParams) (s : State) (ttl : String) (undelayed : params.delayUntil = none)
    (unparented : params.resumeParentOnCompletion = false) (unqueued : params.queue = none)
    (expiring : Keys.truthy params.ttl = some ttl)
    (parsed : (parseNaturalLanguageDuration ttl).isSome) :
    ∃ s', trigger parseNaturalLanguageDuration params (.lostBefore 1) s =
        .error (.lockLost s.nextId) s' ∧
      (⟨none, .expireRun s.nextId, s.now⟩ : ScheduledJob) ∈ s'.jobs := by
  have created := createTaskRun_eq params
    (if params.delayUntil.isSome then .DELAYED else .PENDING) s
  unfold trigger
  rw [Engine.bind_of_ok created]
  simp [redlockUsing, LockOutcome.aborted, createRunAssociatedWaitpoint, freshId, writeDb,
    workerEnqueue, undelayed, unparented, unqueued, expiring, parsed]
  exact List.mem_append_right _ (List.mem_singleton_self _)

/-- An undelayed run with a one-hour ttl in the default queue of the example environment. -/
def expiringParams : TriggerParams := { delayedParams with delayUntil := none, ttl := some "1h" }

/-- Triggering it on the empty engine with the lock lost before the second check throws, and
leaves the new run 0 and its expiry job behind. -/
theorem lost_lock_trigger_keeps_writes :
    ∃ s', trigger (fun _ => some 3600000) expiringParams (.lostBefore 1) State.empty =
        .error (.lockLost 0) s' ∧
      (∃ taskRun ∈ s'.db.runs, taskRun ∉ State.empty.db.runs ∧ taskRun.id = 0) ∧
      (⟨none, .expireRun 0, 0⟩ : ScheduledJob) ∈ s'.jobs :=
  let ⟨s', threw, scheduled⟩ := trigger_lost_keeps_expiry (fun _ => some 3600000)
    expiringParams State.empty "1h" rfl rfl rfl (by decide) rfl
  ⟨s', threw, Reachable.failed_trigger_keeps_run .empty threw, scheduled⟩

end RunEngine
