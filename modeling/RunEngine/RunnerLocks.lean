import RunEngine.Runner

/-! The controller's two locks over every interleaving. `handleSnapshotChangeLock` is held
exactly while one continuation of `handleSnapshotChange` that took it is pending, and
`waitForNextRunLock` exactly while one of `waitForNextRun`'s is, until the process exits:
snapshot changes are handled one at a time, and no lock is held with no continuation left
to release it. -/

namespace RunEngine.Runner

/-- The continuations of `handleSnapshotChange` once it holds its lock. -/
def Task.holdsSnapshotLock : Task → Bool
  | .cancel | .suspendCleanup _ | .suspendSleep | .continueSleep _ _ | .continueExecution => true
  | _ => false

/-- The continuations of `waitForNextRun` once it holds its lock. -/
def Task.holdsRunLock : Task → Bool
  | .kill _ | .longPoll => true
  | _ => false

def lockCount (held : Bool) : Nat := if held then 1 else 0

@[simp] theorem lockCount_true : lockCount true = 1 := rfl

@[simp] theorem lockCount_false : lockCount false = 0 := rfl

theorem lockCount_le_one (held : Bool) : lockCount held ≤ 1 := by
  cases held <;> decide

/-- What the locks depend on: the two flags, whether the process has exited, and how many
pending continuations hold each lock. -/
structure LockState where
  snapshotLock : Bool
  runLock : Bool
  exited : Bool
  snapshotTasks : Nat
  runTasks : Nat
  deriving DecidableEq, Repr

/-- Each lock is held exactly while one continuation holding it is pending; the run lock
until the process exits. -/
def LockState.Consistent (l : LockState) : Prop :=
  l.snapshotTasks = lockCount l.snapshotLock ∧
    (l.exited = false → l.runTasks = lockCount l.runLock)

instance : DecidablePred LockState.Consistent := fun _ =>
  inferInstanceAs (Decidable (_ ∧ _))

/-- The lock state once `task` is pending too. -/
def LockState.add (l : LockState) (task : Task) : LockState :=
  { l with
    snapshotTasks := l.snapshotTasks + lockCount task.holdsSnapshotLock
    runTasks := l.runTasks + lockCount task.holdsRunLock }

namespace LockState

variable {l : LockState} {task : Task}

/-- `waitForNextRun` takes the run lock and leaves one continuation holding it, unless the
lock is held already. -/
def waitForNextRun (l : LockState) : LockState :=
  if l.runLock then l else { l with runLock := true, runTasks := l.runTasks + 1 }

theorem add_of_free (task : Task) (snapshotFree : task.holdsSnapshotLock = false)
    (runFree : task.holdsRunLock = false) : l.add task = l := by
  simp [add, snapshotFree, runFree, lockCount]

theorem add_waitForNextRun : (l.add task).waitForNextRun = l.waitForNextRun.add task := by
  by_cases held : l.runLock <;> simp [waitForNextRun, add, held]
  omega

theorem Consistent.waitForNextRun (consistent : l.Consistent) : l.waitForNextRun.Consistent := by
  unfold LockState.waitForNextRun
  split
  · exact consistent
  · next free =>
    exact ⟨consistent.1, fun running => by simp [consistent.2 running, free, lockCount]⟩

theorem Consistent.takeSnapshotLock (consistent : l.Consistent) (free : l.snapshotLock = false)
    (holds : task.holdsSnapshotLock = true) (runFree : task.holdsRunLock = false) :
    ({ l with snapshotLock := true }.add task).Consistent :=
  ⟨by simp [add, consistent.1, free, holds, lockCount], fun running => by
    simpa [add, runFree, lockCount] using consistent.2 running⟩

theorem Consistent.releaseSnapshotLock (consistent : (l.add task).Consistent)
    (holds : task.holdsSnapshotLock = true) (runFree : task.holdsRunLock = false) :
    { l with snapshotLock := false }.Consistent := by
  obtain ⟨snapshot, run⟩ := consistent
  simp only [add, holds, runFree, lockCount_true, lockCount_false, Nat.add_zero] at snapshot run
  have := lockCount_le_one l.snapshotLock
  exact ⟨show l.snapshotTasks = 0 by omega, run⟩

theorem Consistent.releaseRunLock (consistent : (l.add task).Consistent)
    (holds : task.holdsRunLock = true) (snapshotFree : task.holdsSnapshotLock = false) :
    { l with runLock := false }.Consistent := by
  obtain ⟨snapshot, run⟩ := consistent
  simp only [add, holds, snapshotFree, lockCount_true, lockCount_false, Nat.add_zero]
    at snapshot run
  have := lockCount_le_one l.runLock
  exact ⟨snapshot, fun running => show l.runTasks = 0 by have := run running; omega⟩

theorem Consistent.exit (consistent : (l.add task).Consistent)
    (snapshotFree : task.holdsSnapshotLock = false) : { l with exited := true }.Consistent :=
  ⟨by simpa [add, snapshotFree, lockCount] using consistent.1, nofun⟩

end LockState

theorem countP_eraseIdx {l : List α} {i : Nat} {a : α} (found : l.get? i = some a)
    (p : α → Bool) : (l.eraseIdx i).countP p + lockCount (p a) = l.countP p := by
  induction l generalizing i with
  | nil => cases found
  | cons b rest more =>
    cases i with
    | zero =>
      cases found
      simp [List.countP_cons, lockCount]
    | succ i =>
      have := more found
      simp only [List.eraseIdx_cons_succ, List.countP_cons]
      omega

namespace Controller

@[simps]
def lockState (c : Controller) : LockState :=
  ⟨c.handleSnapshotChangeLock, c.waitForNextRunLock, c.exited,
    c.tasks.countP Task.holdsSnapshotLock, c.tasks.countP Task.holdsRunLock⟩

variable (c : Controller)

@[simp] theorem lockState_emit (effect : Effect) : (c.emit effect).lockState = c.lockState := rfl

@[simp] theorem lockState_suspend (task : Task) :
    (c.suspend task).lockState = c.lockState.add task := by
  simp [lockState, suspend, LockState.add, lockCount, List.countP_cons]

@[simp] theorem lockState_unlock :
    c.unlock.lockState = { c.lockState with snapshotLock := false } := rfl

@[simp] theorem lockState_waitForNextRunLock (held : Bool) :
    { c with waitForNextRunLock := held }.lockState = { c.lockState with runLock := held } :=
  rfl

@[simp] theorem lockState_onProcess (effect : Nat → Effect) :
    (c.onProcess effect).lockState = c.lockState := by
  unfold onProcess; split <;> rfl

@[simp] theorem lockState_onExitRunPhase (newRun : Option Nat) :
    (c.onExitRunPhase newRun).lockState = c.lockState := by
  unfold onExitRunPhase; repeat' split
  all_goals rfl

@[simp] theorem lockState_enterRunPhase (run : Run) (snapshot : Nat) :
    (c.enterRunPhase run snapshot).lockState = c.lockState :=
  lockState_onExitRunPhase c _

@[simp] theorem lockState_enterWarmStartPhase :
    c.enterWarmStartPhase.lockState = c.lockState :=
  lockState_onExitRunPhase c none

@[simp] theorem lockState_startAndExecuteRunAttempt (runId snapshotId : Nat) :
    (c.startAndExecuteRunAttempt runId snapshotId).lockState = c.lockState := by
  rw [startAndExecuteRunAttempt, lockState_suspend,
    LockState.add_of_free (.startAttempt runId snapshotId) rfl rfl]
  rfl

theorem lockState_updateRunPhase {c' : Controller} {run : Run} {snapshot : Nat}
    (updated : c.updateRunPhase run snapshot = .ok c') : c'.lockState = c.lockState := by
  unfold updateRunPhase at updated
  repeat' split at updated
  all_goals cases updated
  all_goals rfl

@[simp] theorem lockState_waitForNextRun :
    c.waitForNextRun.lockState = c.lockState.waitForNextRun := by
  unfold waitForNextRun LockState.waitForNextRun
  split
  · next held => simp [held]
  · next free =>
    rw [lockState_suspend, lockState_onProcess, lockState_waitForNextRunLock,
      lockState_enterWarmStartPhase]
    simp only [lockState_runLock, free]
    rfl

/-- Each lock of the controller is held exactly while one continuation that took it is
pending; `waitForNextRunLock` until the process exits. -/
def LocksHeld (c : Controller) : Prop := c.lockState.Consistent

namespace LocksHeld

variable {c c' : Controller} (held : c.LocksHeld)
include held

theorem of_lockState (same : c'.lockState = c.lockState) : c'.LocksHeld := by
  unfold LocksHeld; rw [same]; exact held

theorem waitForNextRun : c.waitForNextRun.LocksHeld := by
  unfold LocksHeld; rw [lockState_waitForNextRun]; exact LockState.Consistent.waitForNextRun held

theorem suspend {task : Task} (snapshotFree : task.holdsSnapshotLock = false)
    (runFree : task.holdsRunLock = false) : (c.suspend task).LocksHeld :=
  held.of_lockState (by rw [lockState_suspend, LockState.add_of_free task snapshotFree runFree])

theorem handleCompletionResult (completion : Completion) (result : CompletionResult) :
    (c.handleCompletionResult completion result).LocksHeld := by
  unfold Controller.handleCompletionResult
  split
  · exact held.waitForNextRun
  · next c' updated =>
    have updated : c'.LocksHeld := held.of_lockState (lockState_updateRunPhase c updated)
    repeat' split
    all_goals first
      | exact updated
      | exact updated.waitForNextRun
      | exact updated.suspend rfl rfl

theorem takeSnapshotLock (free : c.handleSnapshotChangeLock = false) {task : Task}
    (locked : c'.lockState = { c.lockState with snapshotLock := true })
    (holds : task.holdsSnapshotLock = true) (runFree : task.holdsRunLock = false) :
    (c'.suspend task).LocksHeld := by
  unfold LocksHeld; rw [lockState_suspend, locked]
  exact LockState.Consistent.takeSnapshotLock held free holds runFree

theorem handleSnapshotChange (data : ExecutionData) :
    (c.handleSnapshotChange data).LocksHeld := by
  unfold Controller.handleSnapshotChange
  split
  · exact held
  next free =>
  split
  · exact held
  split
  · exact held
  split
  · exact held.waitForNextRun
  next c' updated =>
  have same := lockState_updateRunPhase c updated
  have updated : c'.LocksHeld := held.of_lockState same
  have free : c'.handleSnapshotChangeLock = false := by
    simpa [free] using congrArg LockState.snapshotLock same
  repeat' split
  all_goals first
    | exact updated
    | exact updated.waitForNextRun
    | exact updated.takeSnapshotLock free (lockState_onProcess _ _) rfl rfl
    | exact updated.takeSnapshotLock free rfl rfl rfl
    | exact updated.of_lockState (lockState_onProcess _ _)

end LocksHeld

section Release

variable {c : Controller} {task : Task}

theorem LocksHeld.of_free (held : (c.lockState.add task).Consistent)
    (snapshotFree : task.holdsSnapshotLock = false) (runFree : task.holdsRunLock = false) :
    c.LocksHeld := by
  rwa [LockState.add_of_free task snapshotFree runFree] at held

theorem LocksHeld.unlock (held : (c.lockState.add task).Consistent)
    (holds : task.holdsSnapshotLock = true) (runFree : task.holdsRunLock = false) :
    c.unlock.LocksHeld :=
  held.releaseSnapshotLock holds runFree

theorem LocksHeld.waitForNextRun_unlock (held : (c.lockState.add task).Consistent)
    (holds : task.holdsSnapshotLock = true) (runFree : task.holdsRunLock = false) :
    c.waitForNextRun.unlock.LocksHeld := by
  unfold LocksHeld; rw [lockState_unlock, lockState_waitForNextRun]
  exact (LockState.add_waitForNextRun ▸ held.waitForNextRun).releaseSnapshotLock holds runFree

theorem LocksHeld.pass {next : Task} (held : (c.lockState.add task).Consistent)
    (snapshot : next.holdsSnapshotLock = task.holdsSnapshotLock)
    (run : next.holdsRunLock = task.holdsRunLock) : (c.suspend next).LocksHeld := by
  unfold LocksHeld LockState.add at *; rwa [lockState_suspend, LockState.add, snapshot, run]

end Release

theorem LocksHeld.resume {c c' : Controller} {task : Task} {response : Response}
    (held : (c.lockState.add task).Consistent) (resumed : c.resume task response = some c') :
    c'.LocksHeld := by
  cases task <;>
    rcases response with (_ | ⟨run, snapshot⟩) | (_ | ⟨ok, retryDelay⟩) | (_ | result) |
      (_ | data) | (_ | ⟨runId, snapshotId⟩) | success | success <;> try cases resumed
  case startAttempt.started.none | submit.completed.none | submitAfterError.completed.none =>
    exact (LocksHeld.of_free held rfl rfl).waitForNextRun
  case startAttempt.started.some =>
    exact ((LocksHeld.of_free held rfl rfl).of_lockState
      (lockState_enterRunPhase c run snapshot)).suspend rfl rfl
  case execute.executed.none => exact (LocksHeld.of_free held rfl rfl).suspend rfl rfl
  case execute.executed.some =>
    exact ((LocksHeld.of_free held rfl rfl).of_lockState (lockState_onProcess _ _)).suspend rfl rfl
  case cleanup.settled =>
    unfold Controller.resume at resumed; dsimp only at resumed
    split at resumed <;> cases resumed
    · exact (LocksHeld.of_free held rfl rfl).suspend rfl rfl
    · exact (LocksHeld.of_free held rfl rfl).waitForNextRun
  case submit.completed.some | submitAfterError.completed.some =>
    exact (LocksHeld.of_free held rfl rfl).handleCompletionResult _ _
  case retrySleep.settled =>
    unfold Controller.resume at resumed; dsimp only at resumed
    split at resumed <;> cases resumed
    · exact (LocksHeld.of_free held rfl rfl).waitForNextRun
    · exact (LocksHeld.of_free held rfl rfl).of_lockState
        (lockState_startAndExecuteRunAttempt _ _ _)
  case continueSleep.settled => exact LocksHeld.pass held rfl rfl
  case kill.settled =>
    unfold Controller.resume at resumed; dsimp only at resumed
    split at resumed <;> cases resumed
    · exact held.exit rfl
    · exact LocksHeld.pass held rfl rfl
  case longPoll.nextRun.none => exact held.exit rfl
  case longPoll.nextRun.some =>
    unfold LocksHeld
    rw [lockState_waitForNextRunLock, lockState_startAndExecuteRunAttempt]
    exact held.releaseRunLock rfl rfl
  case fetchExecutionData.executionData.none => exact LocksHeld.of_free held rfl rfl
  case fetchExecutionData.executionData.some =>
    exact (LocksHeld.of_free held rfl rfl).handleSnapshotChange _
  case cancel.settled | continueExecution.continued =>
    cases success <;> cases resumed
    · exact LocksHeld.waitForNextRun_unlock held rfl rfl
    · exact LocksHeld.unlock held rfl rfl
  case suspendCleanup.settled =>
    unfold Controller.resume at resumed; dsimp only at resumed
    split at resumed <;> cases resumed
    · exact LocksHeld.pass held rfl rfl
    · exact LocksHeld.unlock held rfl rfl
  case suspendSleep.settled => exact LocksHeld.unlock held rfl rfl

theorem lockState_eraseIdx {c : Controller} {index : Nat} {task : Task}
    (found : c.tasks.get? index = some task) :
    c.lockState = { c with tasks := c.tasks.eraseIdx index }.lockState.add task := by
  simp only [lockState, LockState.add, countP_eraseIdx found]

section Step

variable {c c' : Controller} (held : c.LocksHeld)
include held

theorem LocksHeld.pollTick : c.pollTick.LocksHeld := by
  unfold Controller.pollTick; split
  · exact held.suspend rfl rfl
  · exact held

theorem LocksHeld.runNotify (runId : Nat) : (c.runNotify runId).LocksHeld := by
  unfold Controller.runNotify; repeat' split
  · exact held.suspend rfl rfl
  all_goals exact held

theorem LocksHeld.connect : c.connect.LocksHeld := by
  unfold Controller.connect; split <;> exact held

/-- One event keeps each lock held by exactly the continuations that took it. -/
theorem LocksHeld.step {event : Event} (stepped : c.step event = some c') : c'.LocksHeld := by
  have running : ¬c.exited = true := fun exited => by simp [Controller.step, exited] at stepped
  unfold Controller.step at stepped; rw [if_neg running] at stepped
  cases event with
  | resume index response =>
    obtain ⟨task, found, resumed⟩ := Option.bind_eq_some.mp stepped
    exact LocksHeld.resume (lockState_eraseIdx found ▸ held) resumed
  | pollTick =>
    simp only [Option.ite_none_right_eq_some, Option.some.injEq] at stepped
    cases stepped.2
    exact held.pollTick
  | runNotify runId => cases stepped; exact held.runNotify runId
  | connect => cases stepped; exact held.connect

theorem LocksHeld.run {events : List Event} (ran : c.run events = some c') : c'.LocksHeld := by
  induction events generalizing c with
  | nil => cases ran; exact held
  | cons event rest more =>
    obtain ⟨following, stepped, ran⟩ := Option.bind_eq_some.mp ran
    exact more (held.step stepped) ran

end Step

theorem LocksHeld.start (coldStart : Option (Nat × Nat)) :
    (Controller.start coldStart).LocksHeld := by
  have idle : idle.LocksHeld := ⟨rfl, fun _ => rfl⟩
  unfold Controller.start; split
  · exact idle.of_lockState (lockState_startAndExecuteRunAttempt _ _ _)
  · exact idle.waitForNextRun

/-- From `start()`, over any interleaving of continuations, poller ticks, notifications and
reconnections, each lock is held exactly while one continuation that took it is pending:
`handleSnapshotChange` runs one change at a time, and a held lock always has a
continuation left to release it. -/
theorem locksHeld_of_run {coldStart : Option (Nat × Nat)} {events : List Event} {c : Controller}
    (ran : (start coldStart).run events = some c) : c.LocksHeld :=
  (LocksHeld.start coldStart).run ran

/-- Snapshot changes are handled one at a time: at most one continuation of
`handleSnapshotChange` is pending, and its lock is held exactly when one is. -/
theorem snapshotChange_exclusive {coldStart : Option (Nat × Nat)} {events : List Event}
    {c : Controller} (ran : (start coldStart).run events = some c) :
    c.tasks.countP Task.holdsSnapshotLock ≤ 1 ∧
      (c.handleSnapshotChangeLock = true ↔
        ∃ task ∈ c.tasks, task.holdsSnapshotLock = true) := by
  have counted : c.tasks.countP Task.holdsSnapshotLock = lockCount c.handleSnapshotChangeLock :=
    (locksHeld_of_run ran).1
  rw [← List.countP_pos_iff, counted]
  exact ⟨lockCount_le_one _, by cases c.handleSnapshotChangeLock <;> decide⟩

theorem stalePoll_snapshotChange_exclusive :
    ∃ c, (start (some (1, 10))).run stalePollPrefix = some c ∧
      c.tasks.countP Task.holdsSnapshotLock ≤ 1 ∧
      (c.handleSnapshotChangeLock = true ↔ ∃ task ∈ c.tasks, task.holdsSnapshotLock = true) :=
  ⟨_, (Option.some_get (by decide)).symm, snapshotChange_exclusive (Option.some_get (by decide)).symm⟩

/-- Nor does the controller wait for two next runs at once: until the process exits, at most
one continuation of `waitForNextRun` is pending, and its lock is held exactly when one is. -/
theorem nextRun_exclusive {coldStart : Option (Nat × Nat)} {events : List Event}
    {c : Controller} (ran : (start coldStart).run events = some c) (running : c.exited = false) :
    c.tasks.countP Task.holdsRunLock ≤ 1 ∧
      (c.waitForNextRunLock = true ↔ ∃ task ∈ c.tasks, task.holdsRunLock = true) := by
  have counted : c.tasks.countP Task.holdsRunLock = lockCount c.waitForNextRunLock :=
    (locksHeld_of_run ran).2 running
  rw [← List.countP_pos_iff, counted]
  exact ⟨lockCount_le_one _, by cases c.waitForNextRunLock <;> decide⟩

theorem stalePoll_nextRun_exclusive :
    ∃ c, (start (some (1, 10))).run stalePollPrefix = some c ∧ c.exited = false ∧
      c.tasks.countP Task.holdsRunLock ≤ 1 ∧
      (c.waitForNextRunLock = true ↔ ∃ task ∈ c.tasks, task.holdsRunLock = true) :=
  ⟨_, (Option.some_get (by decide)).symm, by decide,
    nextRun_exclusive (Option.some_get (by decide)).symm (by decide)⟩

end Controller

end RunEngine.Runner
