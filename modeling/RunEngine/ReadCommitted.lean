import RunEngine.Waitpoints

/-! Concurrent `#completeWaitpoint` calls, statement by statement, under READ COMMITTED: a
statement reads the committed store with its own transaction's writes on top, and a write
to a row another open transaction has written waits until that transaction commits. A
`#continueRun` is recorded as the call it is: its writes touch neither the
`TaskRunWaitpoint` rows nor the run statuses these statements read. -/

namespace RunEngine.ReadCommitted

/-- The statement a call of `#completeWaitpoint` runs next, with what it has read. -/
inductive Pc where
  | findWaitpoint
  | findRows
  | deleteRows (affected : List Nat)
  | updateWaitpoint (affected : List Nat)
  | findRuns (affected : List Nat)
  | continueRuns (toResume : List Nat)
  | commit
  | returned
  | threw (message : String)
  deriving DecidableEq, Repr

/-- A call: the waitpoint it completes, its next statement, and its uncommitted writes. -/
structure Call where
  waitpointId : Nat
  pc : Pc
  deleted : List TaskRunWaitpoint
  completed : Bool
  deriving DecidableEq, Repr

def Call.start (waitpointId : Nat) : Call := ⟨waitpointId, .findWaitpoint, [], false⟩

def Call.finished (call : Call) : Bool :=
  match call.pc with
  | .returned | .threw _ => true
  | _ => false

/-- The store as the call's statements see it: the committed store with its own writes. -/
def Call.view (call : Call) (committed : Db) : Db :=
  let db := { committed with
    runWaitpoints := committed.runWaitpoints.filter (!call.deleted.contains ·) }
  if call.completed then db.setWaitpointStatus call.waitpointId .COMPLETED else db

structure World where
  committed : Db
  calls : List Call
  -- The run ids passed to `#continueRun`, in the order of the calls.
  continued : List Nat
  deriving DecidableEq, Repr

/-- Whether a call other than `i` has deleted the row and not committed. -/
def World.rowLocked (w : World) (i : Nat) (row : TaskRunWaitpoint) : Bool :=
  w.calls.enum.any fun (j, other) => j != i && other.deleted.contains row

/-- Whether a call other than `i` has updated the waitpoint and not committed. -/
def World.waitpointLocked (w : World) (i id : Nat) : Bool :=
  w.calls.enum.any fun (j, other) => j != i && other.completed && other.waitpointId == id

/-- Call `i` runs its next statement; `none` while it waits for a lock or once it has
finished. -/
def World.step (w : World) (i : Nat) : Option World := do
  let call ← w.calls.get? i
  let view := call.view w.committed
  let id := call.waitpointId
  let replace (call : Call) : World := { w with calls := w.calls.set i call }
  let moveTo (pc : Pc) : World := replace { call with pc }
  match call.pc with
  | .findWaitpoint =>
    match w.committed.findWaitpoint id with
    | none => some (moveTo (.threw (waitpointNotFound id)))
    | some waitpoint =>
      some (moveTo (if waitpoint.status = .COMPLETED then .returned else .findRows))
  | .findRows =>
    let affected := view.blockersOf id
    if affected.length = 0 then some (moveTo (.threw (noTaskRunWaitpoints id)))
    else some (moveTo (.deleteRows (affected.map (·.taskRunId))))
  | .deleteRows affected =>
    let rows := view.blockersOf id
    if rows.any (w.rowLocked i) then none
    else
      some (replace { call with pc := .updateWaitpoint affected, deleted := call.deleted ++ rows })
  | .updateWaitpoint affected =>
    if w.waitpointLocked i id then none
    else some (replace { call with pc := .findRuns affected, completed := true })
  | .findRuns affected => some (moveTo (.continueRuns ((view.runsToResume affected).map (·.id))))
  | .continueRuns [] => some (moveTo .commit)
  | .continueRuns (runId :: rest) =>
    some { moveTo (.continueRuns rest) with continued := w.continued ++ [runId] }
  | .commit =>
    some { replace ⟨id, .returned, [], false⟩ with committed := view }
  | .returned | .threw _ => none

/-- The calls' statements in the order a schedule of call indices gives. -/
def World.run (w : World) : List Nat → Option World
  | [] => some w
  | i :: rest => (w.step i).bind (·.run rest)

def World.finished (w : World) : Bool :=
  w.calls.all (·.finished)

/-- The runs whose last blocking row was deleted, with a status that lets them resume. -/
def resumable (initial final : Db) : List TaskRun :=
  initial.runs.filter fun run =>
    initial.isBlocked run.id && !final.isBlocked run.id &&
      (run.status == .PENDING || run.status == .WAITING_TO_RESUME)

/-- Every run the calls unblocked was passed to `#continueRun` exactly once. -/
def ContinuedOnce (initial : Db) (final : World) : Prop :=
  ∀ run ∈ resumable initial final.committed, final.continued.count run.id = 1

instance (initial : Db) : DecidablePred (ContinuedOnce initial) := fun final =>
  inferInstanceAs (Decidable (∀ run ∈ resumable initial final.committed, _))

/-! ## A call that runs alone

With no other call holding a write, a call's statements never wait, and the call does what
the engine's `#completeWaitpoint` does: it commits the store the engine leaves, up to the
snapshots of `#continueRun`, continues the runs of `runsResumedBy`, and throws the engine's
messages. Interleaving alone causes the failures below. -/

theorem World.run_cons {w w' : World} {i : Nat} (rest : List Nat) (stepped : w.step i = some w') :
    w.run (i :: rest) = w'.run rest := by
  simp [World.run, stepped]

theorem World.run_append (w : World) (first rest : List Nat) :
    w.run (first ++ rest) = (w.run first).bind (·.run rest) := by
  induction first generalizing w with
  | nil => rfl
  | cons i first more =>
    simp only [World.run, List.cons_append]
    cases w.step i with
    | none => rfl
    | some w' => exact more w'

/-- Call `i` is `call`, and no other call holds an uncommitted write. -/
structure Alone (calls : List Call) (i : Nat) (call : Call) : Prop where
  current : calls.get? i = some call
  idle : ∀ j other, j ≠ i → calls.get? j = some other →
    other.deleted = [] ∧ other.completed = false

section Alone

variable {w : World} {i : Nat} {call : Call}

theorem Alone.set {calls : List Call} (alone : Alone calls i call) (following : Call) :
    Alone (calls.set i following) i following where
  current := by
    have bound := (List.get?_eq_some.mp alone.current).1
    rw [List.get?_eq_getElem?, List.getElem?_set_self bound]
  idle j other different found := by
    rw [List.get?_eq_getElem?, List.getElem?_set_ne (Ne.symm different)] at found
    exact alone.idle j other different (by rwa [List.get?_eq_getElem?])

theorem Alone.single (call : Call) : Alone [call] 0 call where
  current := rfl
  idle j _ different found := by
    cases j with
    | zero => exact absurd rfl different
    | succ j => cases found

theorem Alone.idle_of_enum {calls : List Call} (alone : Alone calls i call) {j : Nat}
    {other : Call} (member : (j, other) ∈ calls.enum) (different : j ≠ i) :
    other.deleted = [] ∧ other.completed = false := by
  obtain ⟨bound, entry⟩ := List.mem_enum member
  exact alone.idle j other different
    (by rw [entry, List.get?_eq_getElem?, List.getElem?_eq_getElem bound])

theorem Alone.rowLocked (alone : Alone w.calls i call) (row : TaskRunWaitpoint) :
    w.rowLocked i row = false := by
  simp only [World.rowLocked, List.any_eq_false, Prod.forall]
  intro j other member
  by_cases same : j = i
  · simp [same]
  · simp [(alone.idle_of_enum member same).1]

theorem Alone.waitpointLocked (alone : Alone w.calls i call) (id : Nat) :
    w.waitpointLocked i id = false := by
  simp only [World.waitpointLocked, List.any_eq_false, Prod.forall]
  intro j other member
  by_cases same : j = i
  · simp [same]
  · simp [(alone.idle_of_enum member same).2]

end Alone

theorem Call.view_start (db : Db) (id : Nat) (pc : Pc) :
    (⟨id, pc, [], false⟩ : Call).view db = db := by
  simp [Call.view]

theorem Call.view_cleared (db : Db) (id : Nat) (pc : Pc) :
    (⟨id, pc, db.blockersOf id, true⟩ : Call).view db =
      (db.deleteRunWaitpoints id).setWaitpointStatus id .COMPLETED := by
  simp only [Call.view, if_true, Db.deleteRunWaitpoints]
  congr 2
  apply List.filter_congr
  intro row member
  by_cases same : row.waitpointId = id <;> simp [Db.blockersOf, member, same]

theorem World.run_continueRuns {w : World} {i : Nat} {call : Call}
    (current : w.calls.get? i = some call) (ids : List Nat) (pc : call.pc = .continueRuns ids) :
    w.run (List.replicate (ids.length + 1) i) = some { w with
      calls := w.calls.set i { call with pc := .commit }, continued := w.continued ++ ids } := by
  induction ids generalizing w call with
  | nil => simp only [List.length_nil, List.replicate, World.run, World.step, current, pc,
      Option.bind_eq_bind, Option.some_bind, List.append_nil]
  | cons runId rest more =>
    have bound := (List.get?_eq_some.mp current).1
    let following : Call := { call with pc := .continueRuns rest }
    have stepped : w.step i = some
        { w with calls := w.calls.set i following, continued := w.continued ++ [runId] } := by
      simp only [World.step, current, pc, Option.bind_eq_bind, Option.some_bind]
    rw [List.length_cons, List.replicate_succ, World.run_cons _ stepped,
      more (by rw [List.get?_eq_getElem?, List.getElem?_set_self bound]) rfl]
    simp [following]

section Steps

variable {w : World} {i : Nat} {call : Call}

theorem Alone.step_deleteRows {affected : List Nat} (alone : Alone w.calls i call)
    (pc : call.pc = .deleteRows affected) :
    w.step i = some { w with
      calls := w.calls.set i { call with
        pc := .updateWaitpoint affected
        deleted := call.deleted ++ (call.view w.committed).blockersOf call.waitpointId } } := by
  have free : ((call.view w.committed).blockersOf call.waitpointId).any (w.rowLocked i) = false :=
    List.any_eq_false.mpr fun row _ => by rw [alone.rowLocked row]; decide
  simp only [World.step, alone.current, pc, Option.bind_eq_bind, Option.some_bind, free,
    Bool.false_eq_true, if_false]

theorem Alone.step_updateWaitpoint {affected : List Nat} (alone : Alone w.calls i call)
    (pc : call.pc = .updateWaitpoint affected) :
    w.step i = some
      { w with
        calls := w.calls.set i { call with pc := .findRuns affected, completed := true } } := by
  simp only [World.step, alone.current, pc, Option.bind_eq_bind, Option.some_bind,
    alone.waitpointLocked, Bool.false_eq_true, if_false]

end Steps

/-- The statements of a lone call for a pending waitpoint with blocking rows, one after
another: it commits the engine's cleared store and continues the runs of `runsResumedBy`. -/
theorem World.run_alone {w : World} {i : Nat} {s : State} {id : Nat} {waitpoint : Waitpoint}
    (alone : Alone w.calls i (Call.start id)) (store : w.committed = s.db)
    (found : s.db.findWaitpoint id = some waitpoint) (pending : waitpoint.status ≠ .COMPLETED)
    (blocked : s.db.blockersOf id ≠ []) :
    w.run (List.replicate ((runsResumedBy s id).length + 7) i) = some
      { committed := (s.clearWaitpoint id).db
        calls := w.calls.set i ⟨id, .returned, [], false⟩
        continued := w.continued ++ (runsResumedBy s id).map (·.id) } := by
  obtain ⟨committed, calls, continued⟩ := w
  dsimp only at alone store
  subst store
  let rows := s.db.blockersOf id
  let affected := rows.map (·.taskRunId)
  let resumed := (runsResumedBy s id).map (·.id)
  let callAt (pc : Pc) (deleted : List TaskRunWaitpoint) (completed : Bool) : World :=
    ⟨s.db, calls.set i ⟨id, pc, deleted, completed⟩, continued⟩
  have findWaitpoint :
      World.step ⟨s.db, calls, continued⟩ i = some (callAt .findRows [] false) := by
    simp only [World.step, alone.current, Call.start, Option.bind_eq_bind, Option.some_bind, found,
      if_neg pending]
  have findRows :
      (callAt .findRows [] false).step i = some (callAt (.deleteRows affected) [] false) := by
    simp only [World.step, (alone.set _).current, Option.bind_eq_bind, Option.some_bind,
      Call.view_start, List.length_eq_zero, if_neg blocked, List.set_set]
  have deleteRows : (callAt (.deleteRows affected) [] false).step i =
      some (callAt (.updateWaitpoint affected) rows false) := by
    rw [Alone.step_deleteRows (w := callAt _ _ _) (alone.set _) rfl]
    simp only [Call.view_start, List.nil_append, List.set_set]
  have updateWaitpoint : (callAt (.updateWaitpoint affected) rows false).step i =
      some (callAt (.findRuns affected) rows true) := by
    rw [Alone.step_updateWaitpoint (w := callAt _ _ _) (alone.set _) rfl]
    simp only [List.set_set]
  have findRuns : (callAt (.findRuns affected) rows true).step i =
      some (callAt (.continueRuns resumed) rows true) := by
    simp only [World.step, (alone.set _).current, Option.bind_eq_bind, Option.some_bind, rows,
      Call.view_cleared, List.set_set]
    rfl
  have loop := World.run_continueRuns (w := callAt (.continueRuns resumed) rows true)
    (alone.set _).current resumed rfl
  have commit :
      (World.mk s.db (calls.set i ⟨id, .commit, rows, true⟩) (continued ++ resumed)).step i =
        some ⟨(s.clearWaitpoint id).db, calls.set i ⟨id, .returned, [], false⟩,
          continued ++ resumed⟩ := by
    simp only [World.step, (alone.set _).current, Option.bind_eq_bind, Option.some_bind, rows,
      Call.view_cleared, List.set_set]
    rfl
  have beforeLoop : World.run ⟨s.db, calls, continued⟩ (List.replicate 5 i) =
      some (callAt (.continueRuns resumed) rows true) := by
    simp only [List.replicate, World.run, findWaitpoint, findRows, deleteRows, updateWaitpoint,
      findRuns, Option.some_bind]
  rw [show (runsResumedBy s id).length + 7 = 5 + (resumed.length + 1) + 1 by
      simp only [resumed, List.length_map]; omega,
    List.replicate_add, List.replicate_add, World.run_append, World.run_append, beforeLoop,
    Option.some_bind, loop, Option.some_bind]
  simp only [callAt, List.replicate, World.run, List.set_set, commit, Option.some_bind]

/-- A store whose one waitpoint blocks a run it does not hold. -/
def loneBlockerState : State :=
  { State.empty with
    db := { Db.empty with
      waitpoints := [⟨0, .DATETIME, .PENDING, "proj1", none, some 10⟩],
      runWaitpoints := [⟨1, 0, "proj1"⟩] } }

/-- When `#completeWaitpoint` returns, a call running alone returns too, having committed
the engine's store up to the snapshots written by `#continueRun`. -/
theorem completeWaitpoint_alone {locks : Nat → LockOutcome} {id : Nat} {s s' : State}
    {w : World} {i : Nat} (returned : completeWaitpoint locks id s = .ok () s')
    (alone : Alone w.calls i (Call.start id)) (store : w.committed = s.db) :
    ∃ k final, w.run (List.replicate k i) = some final ∧
      final.calls = w.calls.set i ⟨id, .returned, [], false⟩ ∧
      SnapshotsOnly final.committed s'.db := by
  cases found : s.db.findWaitpoint id with
  | none => simp [completeWaitpoint, readDb, found] at returned
  | some waitpoint =>
    by_cases completed : waitpoint.status = .COMPLETED
    · rw [completeWaitpoint_of_completed found completed] at returned
      cases returned
      refine ⟨1, { w with calls := w.calls.set i ⟨id, .returned, [], false⟩ }, ?_, rfl,
        store ▸ SnapshotsOnly.refl _⟩
      simp only [List.replicate, World.run, World.step, alone.current, Call.start, store, found,
        completed, Option.bind_eq_bind, Option.some_bind, if_true]
    · have pending : waitpoint.status = .PENDING := by
        cases status : waitpoint.status
        · rfl
        · exact absurd status completed
      rw [completeWaitpoint_of_pending found pending] at returned
      unfold transaction at returned
      cases body : completeWaitpointTransaction locks id s with
      | error => rw [body] at returned; cases returned
      | ok _ s₁ =>
        rw [body] at returned
        cases returned
        rw [completeWaitpointTransaction_eq] at body
        split at body
        · cases body
        · rename_i blocked
          obtain ⟨store', -, -⟩ :=
            continueRuns_frames locks (runsResumedBy s id) (s.clearWaitpoint id)
          rw [body] at store'
          exact ⟨_, _, World.run_alone alone store found completed blocked, rfl, store'⟩

theorem lone_completion_commits :
    ∃ k final, (⟨loneBlockerState.db, [Call.start 0], []⟩ : World).run (List.replicate k 0) =
        some final ∧
      final.calls = [Call.start 0].set 0 ⟨0, .returned, [], false⟩ ∧
      SnapshotsOnly final.committed
        (finalState (completeWaitpoint (fun _ => .held) 0 loneBlockerState)).db :=
  completeWaitpoint_alone
    (show completeWaitpoint (fun _ => .held) 0 loneBlockerState =
      .ok () (finalState (completeWaitpoint (fun _ => .held) 0 loneBlockerState)) from rfl)
    (Alone.single _) rfl

/-- A pending run of the example environment. -/
def pendingRun : TaskRun :=
  ⟨1, .PENDING, exampleEnvironment, "task", "task/task", "main", none, none, none⟩

def dateTimeWaitpoint (id : Nat) : Waitpoint :=
  ⟨id, .DATETIME, .PENDING, "proj1", none, some 10⟩

/-- One waitpoint blocks the run; its job is delivered twice. -/
def redeliveredWorld : World where
  committed := { Db.empty with
    runs := [pendingRun], waitpoints := [dateTimeWaitpoint 0],
    runWaitpoints := [⟨1, 0, "proj1"⟩] }
  calls := [Call.start 0, Call.start 0]
  continued := []

/-- The second call reads the rows before the first commits, and its run query after. -/
def redeliverySchedule : List Nat := [0, 1, 0, 1, 0, 0, 0, 0, 0, 0, 1, 1, 1, 1, 1, 1]

/-- Two waitpoints block the run; each is completed by its own call. -/
def sharedRunWorld : World where
  committed := { Db.empty with
    runs := [pendingRun], waitpoints := [dateTimeWaitpoint 0, dateTimeWaitpoint 2],
    runWaitpoints := [⟨1, 0, "proj1"⟩, ⟨1, 2, "proj1"⟩] }
  calls := [Call.start 0, Call.start 2]
  continued := []

/-- Each call deletes its row and runs its run query before the other commits. -/
def sharedRunSchedule : List Nat := [0, 1, 0, 1, 0, 1, 0, 1, 0, 1, 0, 0, 1, 1]

theorem concurrent_completions_misresume :
    (∃ final, redeliveredWorld.run redeliverySchedule = some final ∧ final.finished ∧
      final.continued = [1, 1] ∧ ¬ ContinuedOnce redeliveredWorld.committed final) ∧
    (∃ final, sharedRunWorld.run sharedRunSchedule = some final ∧ final.finished ∧
      final.continued = [] ∧ ¬ ContinuedOnce sharedRunWorld.committed final) :=
  ⟨⟨(redeliveredWorld.run redeliverySchedule).get (by decide), (Option.some_get _).symm,
      by decide, by decide, by decide⟩,
    ⟨(sharedRunWorld.run sharedRunSchedule).get (by decide), (Option.some_get _).symm,
      by decide, by decide, by decide⟩⟩

end RunEngine.ReadCommitted
