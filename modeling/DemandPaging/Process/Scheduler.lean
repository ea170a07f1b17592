import DemandPaging.Parameters
import DemandPaging.Process.Queue

/-! # Scheduler

The scheduler keeps processes in a running queue, a ready queue and one bucket per priority, the last
bucket also for everything less urgent. It only knows who is where; the order in which processes run
is up to its user. A search by id looks at the running queue, the ready queue and the buckets in
ascending order, and finds the first process there.
-/

namespace DemandPaging

structure Scheduler (σ : Type) where
  running : ProcessQueue σ := []
  ready : ProcessQueue σ := []
  buckets : List (ProcessQueue σ) := List.replicate Parameters.priorityBuckets []
deriving Inhabited

namespace Scheduler

variable {σ : Type}

/-- The bucket of a priority. -/
def bucketOf (scheduler : Scheduler σ) (priority : Nat) : Nat :=
  min priority (scheduler.buckets.length - 1)

/-- Puts a process on the ready queue. -/
def enroll (scheduler : Scheduler σ) (process : Process σ) : Scheduler σ :=
  { scheduler with ready := scheduler.ready.enqueue process }

/-- Puts a process into the bucket of its priority. -/
def enrollByPriority (scheduler : Scheduler σ) (process : Process σ) : Scheduler σ :=
  { scheduler with
    buckets := scheduler.buckets.modify (scheduler.bucketOf process.priority) (·.enqueue process) }

/-- Takes a process out of the first of several queues that holds its id. -/
def purgeFirst? (pid : Nat) : List (ProcessQueue σ) → Option (Process σ × List (ProcessQueue σ))
  | [] => none
  | queue :: queues =>
    match queue.purge? pid with
    | some (process, queue) => some (process, queue :: queues)
    | none => (purgeFirst? pid queues).map fun (process, queues) => (process, queue :: queues)

/-- Moves a process from the ready queue, or else from a bucket, to the running queue. -/
def start? (scheduler : Scheduler σ) (pid : Nat) : Option (Process σ × Scheduler σ) :=
  match scheduler.ready.purge? pid with
  | some (process, ready) =>
    some (process, { scheduler with running := scheduler.running.enqueue process, ready })
  | none =>
    (purgeFirst? pid scheduler.buckets).map fun (process, buckets) =>
      (process, { scheduler with running := scheduler.running.enqueue process, buckets })

/-- Takes a process off the running queue. -/
def finish? (scheduler : Scheduler σ) (pid : Nat) : Option (Process σ × Scheduler σ) :=
  (scheduler.running.purge? pid).map fun (process, running) => (process, { scheduler with running })

/-- All queues in the order in which they are searched. -/
def queues (scheduler : Scheduler σ) : List (ProcessQueue σ) :=
  scheduler.running :: scheduler.ready :: scheduler.buckets

def processes (scheduler : Scheduler σ) : List (Process σ) := scheduler.queues.flatten

def find? (scheduler : Scheduler σ) (pid : Nat) : Option (Process σ) :=
  scheduler.queues.findSome? (·.find? pid)

/-- Replaces the memory of the first process with an id in several queues. -/
def replaceFirst (pid : Nat) (memory : σ) : List (ProcessQueue σ) → List (ProcessQueue σ)
  | [] => []
  | queue :: queues =>
    match queue.replace? pid memory with
    | some queue => queue :: queues
    | none => queue :: replaceFirst pid memory queues

/-- Replaces the memory of the process that a search for an id finds. -/
def replace (scheduler : Scheduler σ) (pid : Nat) (memory : σ) : Scheduler σ :=
  match scheduler.running.replace? pid memory with
  | some running => { scheduler with running }
  | none =>
    match scheduler.ready.replace? pid memory with
    | some ready => { scheduler with ready }
    | none => { scheduler with buckets := replaceFirst pid memory scheduler.buckets }

end Scheduler

end DemandPaging
