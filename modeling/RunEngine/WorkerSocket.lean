import Mathlib.Data.Finset.Basic

/-! The run notification subscriptions between the supervisor and the platform's `/worker`
socket namespace: the messages `SupervisorSession` emits and what the namespace's handlers
do with them. The supervisor sends `runFriendlyIds`; the handlers destructure `runIds`. -/

namespace RunEngine.Worker

/-- A field value of the two messages: a string, or an array of strings. -/
inductive Value where
  | string (value : String)
  | strings (values : List String)
  deriving DecidableEq, Repr

/-- A socket event with its JSON object payload, as the payload's fields in order. -/
structure Message where
  event : String
  payload : List (String × Value)
  deriving DecidableEq, Repr

/-- `SupervisorSession.subscribeToRunNotifications(runFriendlyIds)`: the message it emits
when it has a socket. The debug logs it sends afterwards are left out. -/
def subscribeToRunNotifications (connected : Bool) (runFriendlyIds : List String) :
    Option Message :=
  if connected then
    some ⟨"run:subscribe", [("version", .string "1"), ("runFriendlyIds", .strings runFriendlyIds)]⟩
  else none

/-- `SupervisorSession.unsubscribeFromRunNotifications(runFriendlyIds)`. -/
def unsubscribeFromRunNotifications (connected : Bool) (runFriendlyIds : List String) :
    Option Message :=
  if connected then
    some ⟨"run:unsubscribe",
      [("version", .string "1"), ("runFriendlyIds", .strings runFriendlyIds)]⟩
  else none

/-- `roomFromRunId(runId)`. -/
def roomFromRunId (runId : String) : String := "run:" ++ runId

/-- A connected worker socket as its connection handler sees it: the socket.io rooms it
has joined, and the handler's own `rooms` set. -/
structure WorkerSocket where
  joined : Finset String
  rooms : Finset String
  deriving DecidableEq

/-- The destructured `runIds` as `runIds.map` reads it: an array maps; a missing field is
`undefined`, and reading `map` from it throws a `TypeError`, as it does on a string. -/
def runIdsOf (payload : List (String × Value)) : Except String (List String) :=
  match payload.lookup "runIds" with
  | some (.strings runIds) => .ok runIds
  | some (.string _) => .error "runIds.map is not a function"
  | none => .error "Cannot read properties of undefined (reading 'map')"

/-- One `runIds.map` step of `run:subscribe`: `socket.join(room)` and `rooms.add(room)`. -/
def WorkerSocket.join (socket : WorkerSocket) (runId : String) : WorkerSocket :=
  ⟨insert (roomFromRunId runId) socket.joined, insert (roomFromRunId runId) socket.rooms⟩

/-- One `runIds.map` step of `run:unsubscribe`: `socket.leave(room)` and `rooms.delete(room)`. -/
def WorkerSocket.leave (socket : WorkerSocket) (runId : String) : WorkerSocket :=
  ⟨socket.joined.erase (roomFromRunId runId), socket.rooms.erase (roomFromRunId runId)⟩

/-- The `/worker` namespace's handler of a message from a connected socket. Other events
(`disconnect`, `error`) touch no room. -/
def WorkerSocket.handle (socket : WorkerSocket) (message : Message) :
    Except String WorkerSocket :=
  if message.event = "run:subscribe" then
    (runIdsOf message.payload).map fun runIds => runIds.foldl WorkerSocket.join socket
  else if message.event = "run:unsubscribe" then
    (runIdsOf message.payload).map fun runIds => runIds.foldl WorkerSocket.leave socket
  else .ok socket

/-- The socket after its handler ran: a handler that throws rejects its promise before any
`runIds.map` step, and the socket stays as it was. -/
def WorkerSocket.process (socket : WorkerSocket) (message : Message) : WorkerSocket :=
  match socket.handle message with
  | .ok after => after
  | .error _ => socket

/-! ## What the handlers do with `runIds` -/

theorem foldl_join (runIds : List String) (socket : WorkerSocket) :
    runIds.foldl WorkerSocket.join socket =
      ⟨socket.joined ∪ (runIds.map roomFromRunId).toFinset,
        socket.rooms ∪ (runIds.map roomFromRunId).toFinset⟩ := by
  induction runIds generalizing socket with
  | nil => simp
  | cons runId rest ih =>
    simp only [List.foldl_cons, ih, WorkerSocket.join, List.map_cons, List.toFinset_cons,
      Finset.insert_union, Finset.union_insert]

theorem foldl_leave (runIds : List String) (socket : WorkerSocket) :
    runIds.foldl WorkerSocket.leave socket =
      ⟨socket.joined \ (runIds.map roomFromRunId).toFinset,
        socket.rooms \ (runIds.map roomFromRunId).toFinset⟩ := by
  induction runIds generalizing socket with
  | nil => simp
  | cons runId rest ih =>
    simp only [List.foldl_cons, ih, WorkerSocket.leave, List.map_cons, List.toFinset_cons,
      Finset.sdiff_insert, Finset.erase_sdiff_comm]

theorem handle_subscribe_runIds (socket : WorkerSocket) (payload : List (String × Value))
    (runIds : List String) (carried : payload.lookup "runIds" = some (.strings runIds)) :
    socket.handle ⟨"run:subscribe", payload⟩ =
      .ok ⟨socket.joined ∪ (runIds.map roomFromRunId).toFinset,
        socket.rooms ∪ (runIds.map roomFromRunId).toFinset⟩ := by
  simp [WorkerSocket.handle, runIdsOf, carried, foldl_join, Except.map]

theorem handle_unsubscribe_runIds (socket : WorkerSocket) (payload : List (String × Value))
    (runIds : List String) (carried : payload.lookup "runIds" = some (.strings runIds)) :
    socket.handle ⟨"run:unsubscribe", payload⟩ =
      .ok ⟨socket.joined \ (runIds.map roomFromRunId).toFinset,
        socket.rooms \ (runIds.map roomFromRunId).toFinset⟩ := by
  simp [WorkerSocket.handle, runIdsOf, carried, foldl_leave, Except.map]

/-! ## What they do with the supervisor's messages -/

/-- The supervisor's messages carry no `runIds`: every one of them makes its handler throw,
whatever the runs and the socket. -/
theorem handle_supervisor_message (socket : WorkerSocket) (connected : Bool)
    (runFriendlyIds : List String) (message : Message)
    (emitted : subscribeToRunNotifications connected runFriendlyIds = some message ∨
      unsubscribeFromRunNotifications connected runFriendlyIds = some message) :
    socket.handle message = .error "Cannot read properties of undefined (reading 'map')" := by
  cases connected <;>
    rcases emitted with emitted | emitted <;>
    simp only [subscribeToRunNotifications, unsubscribeFromRunNotifications, if_true,
      Bool.false_eq_true, if_false, reduceCtorEq, Option.some.injEq] at emitted <;>
    subst emitted <;> rfl

theorem process_supervisor_message (socket : WorkerSocket) (connected : Bool)
    (runFriendlyIds : List String) (message : Message)
    (emitted : subscribeToRunNotifications connected runFriendlyIds = some message ∨
      unsubscribeFromRunNotifications connected runFriendlyIds = some message) :
    socket.process message = socket := by
  simp only [WorkerSocket.process, handle_supervisor_message socket connected runFriendlyIds
    message emitted]

/-- Subscribing a connected supervisor's socket, in no room yet, to the run `run_1`: the
platform's socket does not join the run's room. -/
theorem subscription_joins_no_room :
    ∃ message, subscribeToRunNotifications true ["run_1"] = some message ∧
      roomFromRunId "run_1" ∉ (WorkerSocket.process ⟨∅, ∅⟩ message).joined :=
  ⟨_, rfl, by
    rw [process_supervisor_message ⟨∅, ∅⟩ true ["run_1"] _ (.inl rfl)]
    exact Finset.not_mem_empty _⟩

end RunEngine.Worker
