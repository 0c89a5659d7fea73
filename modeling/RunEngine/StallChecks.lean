import Mathlib.Data.Nat.Digits
import Mathlib.Tactic.LiftLets
import RunEngine.Keeps

/-! Stall checks over every reachable state. Every snapshot with a stall-check interval
has its `heartbeatSnapshot` job waiting, except the `RUN_CREATED` snapshot that `trigger`
writes together with its run. Each engine function keeps this and never loses a waiting
check, whether it returns or throws; a job id names its snapshot, as decimal ids are
injective. -/

namespace RunEngine

/-! ## Job ids -/

/-- The number a list of decimal digits spells, most significant first. -/
private def decimalValue (digits : List Char) (start : Nat) : Nat :=
  digits.foldl (fun value digit => value * 10 + (digit.toNat - 48)) start

private theorem decimalValue_start (digits : List Char) (start : Nat) :
    decimalValue digits start = start * 10 ^ digits.length + decimalValue digits 0 := by
  induction digits generalizing start with
  | nil => simp [decimalValue]
  | cons digit rest more =>
    simp only [decimalValue, List.foldl_cons] at more ⊢
    rw [more, more (0 * 10 + _)]
    simp only [List.length_cons, Nat.pow_succ, Nat.add_mul, Nat.zero_mul, Nat.zero_add]
    ac_rfl

private theorem digitChar_value {d : Nat} (small : d < 10) : (Nat.digitChar d).toNat - 48 = d := by
  have : ∀ d < 10, (Nat.digitChar d).toNat - 48 = d := by decide
  exact this d small

private theorem decimalValue_toDigitsCore (fuel n : Nat) (digits : List Char) (enough : n < fuel) :
    decimalValue (Nat.toDigitsCore 10 fuel n digits) 0 =
      n * 10 ^ digits.length + decimalValue digits 0 := by
  induction fuel generalizing n digits with
  | zero => omega
  | succ fuel more =>
    have low := digitChar_value (Nat.mod_lt n (by decide : 10 > 0))
    have split := Nat.div_add_mod n 10
    simp only [Nat.toDigitsCore]
    split
    · rename_i high
      rw [decimalValue, List.foldl_cons, ← decimalValue, decimalValue_start, low]
      have : n % 10 = n := by omega
      rw [this, Nat.zero_mul, Nat.zero_add]
    · rw [more (n / 10) _ (by omega), decimalValue, List.foldl_cons, ← decimalValue,
        decimalValue_start, low]
      conv_rhs => rw [← split]
      simp only [List.length_cons, Nat.pow_succ, Nat.add_mul, Nat.zero_mul, Nat.zero_add]
      ac_rfl

theorem toString_injective : Function.Injective (toString : Nat → String) := by
  intro n m same
  have digits : Nat.toDigits 10 n = Nat.toDigits 10 m := by
    have := congrArg String.data same
    simpa [toString, Nat.repr, List.asString] using this
  have value := congrArg (decimalValue · 0) digits
  simp only [Nat.toDigits] at value
  rw [decimalValue_toDigitsCore _ _ _ (Nat.lt_succ_self n),
    decimalValue_toDigitsCore _ _ _ (Nat.lt_succ_self m)] at value
  simpa [decimalValue] using value

theorem heartbeatJobId_injective : Function.Injective heartbeatJobId := by
  intro n m same
  apply toString_injective
  have := congrArg String.data same
  simp only [heartbeatJobId, String.data_append, List.append_cancel_left_eq] at this
  exact String.ext this

theorem heartbeatJobId_ne_dateTime (snapshotId waitpointId : Nat) :
    heartbeatJobId snapshotId ≠ waitpointCompleteDateTimeJobId waitpointId := fun same => by
  have := congrArg (fun id => id.data.head?) same
  simp [heartbeatJobId, waitpointCompleteDateTimeJobId] at this


/-! ## The invariant -/

/-- A `heartbeatSnapshot` job for the snapshot is waiting. -/
def HasStallCheck (s : State) (snapshotId : Nat) : Prop :=
  ∃ job ∈ s.jobs, job.id = some (heartbeatJobId snapshotId) ∧ job.job.isHeartbeat = true

/-- Snapshot ids are below the next id, and every snapshot with an interval, other than a
`RUN_CREATED` one, has its stall check waiting. -/
structure StallChecks (s : State) : Prop where
  fresh : ∀ snapshot ∈ s.db.snapshots, snapshot.id < s.nextId
  checked : ∀ snapshot ∈ s.db.snapshots, snapshot.executionStatus ≠ .RUN_CREATED →
    (heartbeatInterval snapshot.executionStatus).isSome → HasStallCheck s snapshot.id

/-- From `before` to `after` ids only grow and no waiting stall check of an earlier
snapshot is lost. -/
structure KeepsStallChecks (before after : State) : Prop where
  nextId : before.nextId ≤ after.nextId
  kept : ∀ snapshotId < before.nextId, HasStallCheck before snapshotId →
    HasStallCheck after snapshotId

theorem KeepsStallChecks.refl (s : State) : KeepsStallChecks s s :=
  ⟨Nat.le_refl _, fun _ _ waiting => waiting⟩

theorem KeepsStallChecks.trans {first second third : State}
    (early : KeepsStallChecks first second) (late : KeepsStallChecks second third) :
    KeepsStallChecks first third :=
  ⟨Nat.le_trans early.nextId late.nextId, fun snapshotId below waiting =>
    late.kept snapshotId (Nat.lt_of_lt_of_le below early.nextId)
      (early.kept snapshotId below waiting)⟩

theorem StallChecks.of_keeps {before after : State} (checks : StallChecks before)
    (snapshots : after.db.snapshots = before.db.snapshots) (keeps : KeepsStallChecks before after) :
    StallChecks after where
  fresh snapshot member :=
    Nat.lt_of_lt_of_le (checks.fresh snapshot (snapshots ▸ member)) keeps.nextId
  checked snapshot member created interval :=
    keeps.kept _ (checks.fresh snapshot (snapshots ▸ member))
      (checks.checked snapshot (snapshots ▸ member) created interval)

instance : IsPreorder State KeepsStallChecks where
  refl := KeepsStallChecks.refl
  trans _ _ _ := KeepsStallChecks.trans

/-- Run from a state with its stall checks, the computation leaves one with its stall
checks and loses none, whether it returns or throws. -/
abbrev KeepsChecks (x : Engine α) : Prop := Keeps StallChecks KeepsStallChecks x

theorem KeepsChecks.of_frame {x : Engine α}
    (frame : ∀ s, (finalState (x s)).db.snapshots = s.db.snapshots ∧
      KeepsStallChecks s (finalState (x s))) : KeepsChecks x := fun s checks =>
  ⟨checks.of_keeps (frame s).1 (frame s).2, (frame s).2⟩

/-! ## Primitives -/

theorem keepsChecks_freshId : KeepsChecks freshId :=
  .of_frame fun _ => ⟨rfl, Nat.le_succ _, fun _ _ waiting => waiting⟩

theorem keepsChecks_writeDb {change : Db → Db}
    (snapshots : ∀ db, (change db).snapshots = db.snapshots) :
    KeepsChecks (writeDb change) :=
  .of_frame fun s => ⟨snapshots s.db, Nat.le_refl _, fun _ _ waiting => waiting⟩

theorem KeepsChecks.of_sameStore {x : Engine α}
    (frame : ∀ s, (finalState (x s)).db = s.db ∧ (finalState (x s)).jobs = s.jobs ∧
      (finalState (x s)).nextId = s.nextId) : KeepsChecks x :=
  .of_frame fun s => by
    obtain ⟨sameDb, sameJobs, sameNext⟩ := frame s
    exact ⟨by rw [sameDb], by rw [sameNext], fun _ _ ⟨job, member, named⟩ =>
      ⟨job, sameJobs ▸ member, named⟩⟩

theorem keepsChecks_enqueueMessage (message : RunQueueMessage) :
    KeepsChecks (enqueueMessage message) :=
  .of_sameStore fun _ => ⟨rfl, rfl, rfl⟩

theorem keepsChecks_dequeueMessageInSharedQueue (masterQueue : String) (pick : Option Nat) :
    KeepsChecks (dequeueMessageInSharedQueue masterQueue pick) :=
  .of_sameStore fun s => by
    unfold dequeueMessageInSharedQueue
    simp only [Engine.bind_apply, Engine.get_apply]
    cases s.runQueue.queued.find? fun m => m.masterQueue == masterQueue && some m.runId == pick <;>
      exact ⟨rfl, rfl, rfl⟩

theorem keepsChecks_pushQueueConcurrencyLimit (env : Keys.AuthenticatedEnvironment)
    (taskQueue : TaskQueue) : KeepsChecks (pushQueueConcurrencyLimit env taskQueue) :=
  .of_sameStore fun _ => by
    unfold pushQueueConcurrencyLimit; cases taskQueue.concurrencyLimit <;> exact ⟨rfl, rfl, rfl⟩

theorem hasStallCheck_scheduleJob {s : State} {job : ScheduledJob} {snapshotId : Nat}
    (waiting : HasStallCheck s snapshotId) (other : job.id ≠ some (heartbeatJobId snapshotId)) :
    HasStallCheck { s with jobs := scheduleJob s.jobs job } snapshotId := by
  obtain ⟨check, member, named, heartbeat⟩ := waiting
  exact ⟨check, mem_scheduleJob.mpr (.inl ⟨member, .inr (named ▸ other.symm)⟩), named,
    heartbeat⟩

theorem keepsChecks_workerEnqueue {id : Option String} (job : WorkerJob) (availableAt : Nat)
    (other : ∀ snapshotId, id ≠ some (heartbeatJobId snapshotId)) :
    KeepsChecks (workerEnqueue id job availableAt) :=
  .of_frame fun _ => ⟨rfl, Nat.le_refl _, fun snapshotId _ waiting =>
    hasStallCheck_scheduleJob waiting (other snapshotId)⟩

section AppendSnapshot

variable (s : State) (runId : Nat) (runStatus : TaskRunStatus)
  (executionStatus : TaskRunExecutionStatus) (description : String)

theorem keepsStallChecks_appendSnapshot :
    KeepsStallChecks s (s.appendSnapshot runId runStatus executionStatus description) := by
  refine ⟨Nat.le_succ _, fun snapshotId below waiting => ?_⟩
  unfold State.appendSnapshot
  cases heartbeatInterval executionStatus with
  | none => exact waiting
  | some _ => exact hasStallCheck_scheduleJob waiting fun same =>
      Nat.ne_of_gt below (heartbeatJobId_injective (Option.some.inj same))

theorem hasStallCheck_appendSnapshot (interval : (heartbeatInterval executionStatus).isSome) :
    HasStallCheck (s.appendSnapshot runId runStatus executionStatus description) s.nextId := by
  obtain ⟨_, scheduled⟩ := Option.isSome_iff_exists.mp interval
  simp only [State.appendSnapshot, scheduled]
  exact ⟨_, mem_scheduleJob.mpr (.inr rfl), rfl, rfl⟩

theorem StallChecks.appendSnapshot {s : State} (checks : StallChecks s) :
    StallChecks (s.appendSnapshot runId runStatus executionStatus description) where
  fresh snapshot member := by
    rcases List.mem_cons.mp member with rfl | old
    · exact Nat.lt_succ_self _
    · exact Nat.lt_succ_of_lt (checks.fresh snapshot old)
  checked snapshot member created interval := by
    rcases List.mem_cons.mp member with rfl | old
    · exact hasStallCheck_appendSnapshot s runId runStatus _ description interval
    · exact (keepsStallChecks_appendSnapshot s runId runStatus executionStatus description).kept _
        (checks.fresh snapshot old) (checks.checked snapshot old created interval)

end AppendSnapshot

theorem keepsChecks_createExecutionSnapshot (runId : Nat) (runStatus : TaskRunStatus)
    (executionStatus : TaskRunExecutionStatus) (description : String) :
    KeepsChecks (createExecutionSnapshot runId runStatus executionStatus description) :=
  fun s checks => by
    rw [createExecutionSnapshot_eq]
    exact ⟨checks.appendSnapshot .., keepsStallChecks_appendSnapshot ..⟩

theorem keepsChecks_createTaskRun (params : TriggerParams) (status : TaskRunStatus) :
    KeepsChecks (createTaskRun params status) := fun s checks => by
  let created : TaskRunExecutionSnapshot :=
    ⟨s.nextId + 1, s.nextId, .RUN_CREATED, "Run was created", status, none⟩
  have kept : KeepsStallChecks s (finalState (createTaskRun params status s)) :=
    ⟨Nat.le_add_right _ 2, fun _ _ waiting => waiting⟩
  refine ⟨⟨fun snapshot member => ?_, fun snapshot member notCreated interval => ?_⟩, kept⟩
  all_goals
    change snapshot ∈ created :: s.db.snapshots at member
    rcases List.mem_cons.mp member with rfl | old
  · exact Nat.lt_succ_self _
  · exact Nat.lt_add_right 2 (checks.fresh snapshot old)
  · exact absurd rfl notCreated
  · exact kept.kept _ (checks.fresh snapshot old) (checks.checked snapshot old notCreated interval)

theorem stallStatements : Statements StallChecks KeepsStallChecks where
  fresh := keepsChecks_freshId
  addWaitpoint _ := keepsChecks_writeDb fun _ => rfl
  updateQueue _ _ := keepsChecks_writeDb fun _ => rfl
  addQueue _ := keepsChecks_writeDb fun _ => rfl
  deleteRows _ := keepsChecks_writeDb fun _ => rfl
  complete _ := keepsChecks_writeDb fun _ => rfl
  pushLimit := keepsChecks_pushQueueConcurrencyLimit
  snapshot := keepsChecks_createExecutionSnapshot
  enqueue := keepsChecks_enqueueMessage
  dequeue := keepsChecks_dequeueMessageInSharedQueue
  scheduleDateTime id _ := keepsChecks_workerEnqueue _ _ fun snapshotId same =>
    heartbeatJobId_ne_dateTime snapshotId id (Option.some.inj same).symm
  scheduleExpiry _ _ := keepsChecks_workerEnqueue _ _ fun _ => Option.noConfusion

theorem stallChecks_rollback (s s' : State) (checks : StallChecks s)
    (kept : KeepsStallChecks s s') :
    StallChecks { s' with db := s.db } ∧ KeepsStallChecks s { s' with db := s.db } :=
  have keeps := ⟨kept.nextId, kept.kept⟩
  ⟨checks.of_keeps rfl keeps, keeps⟩

/-! ## The engine's calls and jobs -/

theorem keepsChecks_trigger (parseNaturalLanguageDuration : String → Option Nat)
    (params : TriggerParams) (lock : LockOutcome) :
    KeepsChecks (trigger parseNaturalLanguageDuration params lock) :=
  keeps_trigger (Q := fun _ => StallChecks) _ _ _ (keepsChecks_createTaskRun _ _)
    (fun _ _ _ => (keepsChecks_createTaskRun _ _).holds_of_ok) (fun _ _ checks => checks)
    (fun _ => stallStatements.toStoreStatements) (fun _ => keeps_enqueueRun stallStatements _ _)
    fun _ _ _ _ _ => keepsChecks_writeDb fun _ => rfl

theorem keepsChecks_processJob (locks : Nat → LockOutcome) (job : ScheduledJob) :
    KeepsChecks (processJob locks job) :=
  .processJob (keeps_runJob stallStatements stallChecks_rollback locks job.job)
    fun s _ s' returned checks => by
      have other : job.job.isHeartbeat = false := by
        cases kind : job.job with
        | heartbeatSnapshot runId snapshotId =>
          rw [kind, runJob, handleStalledSnapshot_eq] at returned
          cases returned
        | _ => rfl
      have acked : KeepsStallChecks s' { s' with jobs := s'.jobs.erase job } :=
        ⟨Nat.le_refl _, fun _ _ ⟨check, member, named, heartbeat⟩ =>
          ⟨check, (List.mem_erase_of_ne fun (same : check = job) =>
            Bool.false_ne_true (other.symm.trans (same ▸ heartbeat))).mpr member, named,
            heartbeat⟩⟩
      exact ⟨checks.of_keeps rfl acked, acked⟩

theorem keepsChecks_run (op : Operation) : KeepsChecks op.run := by
  cases op
  case trigger => exact (keepsChecks_trigger _ _ _).discard
  case dequeueFromMasterQueue =>
    exact (keeps_dequeueFromMasterQueue stallStatements _ _ _).discard
  case processJob => exact keepsChecks_processJob _ _
  case tick => exact .of_sameStore fun _ => ⟨rfl, rfl, rfl⟩

theorem stallChecks_empty : StallChecks State.empty where
  fresh _ member := nomatch member
  checked _ member := nomatch member

/-- Every reachable state has its stall checks. -/
theorem Reachable.stallChecks {s : State} (reachable : Reachable s) : StallChecks s := by
  induction reachable with
  | empty => exact stallChecks_empty
  | step op _ _ checks => exact (keepsChecks_run op _ checks).1

/-- A run whose latest snapshot is not `RUN_CREATED` and has a stall-check interval has
its stall check waiting. -/
theorem stallChecked_of_reachable {s : State} {runId : Nat} {snapshot : TaskRunExecutionSnapshot}
    (reachable : Reachable s) (latest : s.db.latestSnapshot runId = some snapshot)
    (created : snapshot.executionStatus ≠ .RUN_CREATED)
    (interval : (heartbeatInterval snapshot.executionStatus).isSome) :
    s.stallChecked runId = true := by
  obtain ⟨check, member, named, _⟩ := reachable.stallChecks.checked snapshot
    (List.mem_of_find?_eq_some latest) created interval
  simp only [State.stallChecked, latest, Bool.or_eq_true, List.any_eq_true, beq_iff_eq]
  exact .inr ⟨check, member, named⟩

theorem undelayed_run_stall_checked :
    (finalState ((Operation.trigger (fun _ => none) { delayedParams with delayUntil := none }
      .held).run State.empty)).stallChecked 0 = true :=
  stallChecked_of_reachable (.step _ .empty trivial) rfl (by decide) rfl

end RunEngine
