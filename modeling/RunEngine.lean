import RunEngine.KeyProducer
import RunEngine.Store
import RunEngine.Runtime
import RunEngine.Snapshots
import RunEngine.Waitpoints
import RunEngine.Trigger
import RunEngine.Reachable
import RunEngine.ReadCommitted
import RunEngine.QueueLimits
import RunEngine.Runner
import RunEngine.Keeps
import RunEngine.StallChecks
import RunEngine.Resume
import RunEngine.RunnerLocks
import RunEngine.Dequeue
import RunEngine.Lifecycle
import RunEngine.Failures
import RunEngine.WorkerSocket
import RunEngine.KeysFromQueue
import RunEngine.ScanPatterns
import RunEngine.Integrity
import RunEngine.KeyComponents
import RunEngine.LongPoll
