import RunEngine.Runner

/-! `longPoll`, with which `waitForNextRun` asks for the next run: requests one after another
until the deadline. A timer aborts each request at `timeoutMs` unless its headers come first;
the timer is then cleared and the body is read with no timer, so the poll ends in time only
when the bodies do. -/

namespace RunEngine.Runner

/-- How `response.json()` settles: parsed after some milliseconds, failing to parse after
some milliseconds, or never. -/
inductive Body (α : Type) where
  | parsed (after : Nat) (data : α)
  | malformed (after : Nat)
  | hangs
  deriving DecidableEq, Repr

/-- How one `fetch` settles when nothing aborts it: with the headers of a response, whose
body is read only when it is `ok`, or with a network error. -/
inductive Settled (α : Type) where
  | response (ok : Bool) (status : Nat) (body : Body α)
  | failed
  deriving DecidableEq, Repr

/-- A request of the poll: how it settles, and after how many milliseconds. -/
structure Fetch (α : Type) where
  duration : Nat
  settled : Settled α
  deriving DecidableEq, Repr

/-- What `longPoll` resolves to. -/
inductive PollResult (α : Type) where
  | ok (data : α)
  | error (message : String)
  deriving DecidableEq, Repr

def serverError (status : Nat) : String := "Server error: " ++ toString status

def totalDurationExceeded : String := "TotalDurationExceeded"

variable {α : Type}

/-- One turn of the loop from `now`: the time it ends, and the poll's result when the turn
ends the poll; `none` when the turn never ends. The timer aborts the fetch at `timeoutMs`
unless the headers come first, and the loop retries at once. An `ok` response's body is read
with no timer: it ends the poll with its data, or, when it does not parse, `response.json()`
throws and the catch retries after `sleep(1000)`, as for a network error. A response that is
not `ok` ends the poll with `Server error: <status>`. -/
def pollTurn (timeoutMs now : Nat) (fetch : Fetch α) : Option (Nat × Option (PollResult α)) :=
  if fetch.duration < timeoutMs then
    match fetch.settled with
    | .response true _ (.parsed after data) => some (now + fetch.duration + after, some (.ok data))
    | .response true _ (.malformed after) => some (now + fetch.duration + after + 1000, none)
    | .response true _ .hangs => none
    | .response false status _ => some (now + fetch.duration, some (.error (serverError status)))
    | .failed => some (now + fetch.duration + 1000, none)
  else some (now + timeoutMs, none)

/-- The `while (Date.now() < endTime)` loop from the time `now`, its requests settling as
`fetches` says: the time it resolves at and what it resolves to; `none` when a turn never
ends or the requests run out before the loop does. -/
def longPollFrom (timeoutMs endTime : Nat) : Nat → List (Fetch α) → Option (Nat × PollResult α)
  | now, [] => if now < endTime then none else some (now, .error totalDurationExceeded)
  | now, fetch :: rest =>
    if now < endTime then
      match pollTurn timeoutMs now fetch with
      | none => none
      | some (after, some result) => some (after, result)
      | some (after, none) => longPollFrom timeoutMs endTime after rest
    else some (now, .error totalDurationExceeded)

/-- `longPoll(url, requestInit, { timeoutMs, totalDurationMs })` called at `start`. -/
def longPoll (timeoutMs totalDurationMs start : Nat) (fetches : List (Fetch α)) :
    Option (Nat × PollResult α) :=
  longPollFrom timeoutMs (start + totalDurationMs) start fetches

section Turn

variable {timeoutMs bodyMs now after : Nat} {fetch : Fetch α}

end Turn

/-! ## The loop -/

section Loop

variable {timeoutMs bodyMs endTime now after : Nat} {fetch : Fetch α}

end Loop

/-! ## `longPoll` -/

/-- The response `waitForNextRun` resumes with: the run and snapshot `DequeuedMessage.parse`
reads from the poll's data, or none when the poll fails (`process.exit(0)`) or the parse
throws (the catch's `process.exit(1)`). -/
def PollResult.nextRun (parse : α → Option (Nat × Nat)) : PollResult α → Response
  | .ok data => .nextRun (parse data)
  | .error _ => .nextRun none

/-- Whatever the long poll resolves to, the controller waiting on it takes the answer: it
exits when the poll fails or its data does not parse, and otherwise starts the run it got. -/
theorem step_longPoll {c : Controller} {index : Nat} (running : c.exited = false)
    (waiting : c.tasks.get? index = some .longPoll) (parse : α → Option (Nat × Nat))
    (result : PollResult α) :
    ∃ c', c.step (.resume index (result.nextRun parse)) = some c' ∧
      (c'.exited = true ↔ ∀ data, result = .ok data → parse data = none) := by
  simp only [Controller.step, running, waiting, Bool.false_eq_true, if_false,
    Option.bind_eq_bind, Option.some_bind]
  cases result with
  | ok data =>
    cases parsed : parse data with
    | none => exact ⟨_, by simp only [PollResult.nextRun, parsed]; rfl, by simp [parsed]⟩
    | some pair =>
      exact ⟨_, by simp only [PollResult.nextRun, parsed]; rfl, by
        simp [parsed, Controller.startAndExecuteRunAttempt, Controller.suspend, Controller.emit,
          running]⟩
  | error message => exact ⟨_, rfl, by simp⟩

end RunEngine.Runner
