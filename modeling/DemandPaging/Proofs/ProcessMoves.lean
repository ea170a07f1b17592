import DemandPaging.Proofs.Processes

/-! # Where processes go

A scheduler is asked to enroll a process, on the ready queue or in the bucket of its priority, to start the
process with an id, and to finish one. Whatever it is asked, it holds every process as often as it was enrolled
and not finished since, over all of its queues together. A search by id and a start go through the waiting
queues in the same order, so they agree on the process even if several have its id, and a process that was
started is the one that a search finds from then on. A request moves one process at most, and the processes
that it does not move keep their order in every queue.
-/

namespace DemandPaging

/-- What a scheduler can be asked to do. -/
inductive SchedulerRequest (σ : Type) where
  | enroll (process : Process σ)
  | enrollByPriority (process : Process σ)
  | start (pid : Nat)
  | finish (pid : Nat)
deriving DecidableEq, Repr, Inhabited

namespace SchedulerRequest

variable {σ : Type}

/-- The process that a request brings to the scheduler. -/
def enrolled? : SchedulerRequest σ → Option (Process σ)
  | .enroll process | .enrollByPriority process => some process
  | .start _ | .finish _ => none

def isFinish : SchedulerRequest σ → Bool
  | .finish _ => true
  | _ => false

/-- The processes that requests bring to the scheduler, the first one first. -/
def enrolled (requests : List (SchedulerRequest σ)) : List (Process σ) := requests.filterMap enrolled?

end SchedulerRequest

namespace ProcessQueue

variable {σ : Type} {pid : Nat} {queue rest : ProcessQueue σ} {found : Process σ} {moved : Option (Process σ)}

/-- What a request that moves one process at most does to a queue: nothing, or the process joins it at the end,
or the process leaves it, in which it was the first with its id. -/
inductive Shifted (moved : Option (Process σ)) : ProcessQueue σ → ProcessQueue σ → Prop where
  | kept (queue : ProcessQueue σ) : Shifted moved queue queue
  | joined (queue : ProcessQueue σ) {process : Process σ} (same : moved = some process) :
    Shifted moved queue (queue ++ [process])
  | left (before after : List (Process σ)) {process : Process σ} (same : moved = some process)
    (first : ∀ other ∈ before, other.pid ≠ process.pid) :
    Shifted moved (before ++ process :: after) (before ++ after)

theorem shifted_kept (queues : List (ProcessQueue σ)) : List.Forall₂ (Shifted moved) queues queues := by
  rw [List.forall₂_same]
  intro queue _
  exact .kept queue

theorem shifted_of_purge? (taken : queue.purge? pid = some (found, rest)) : Shifted (some found) queue rest := by
  have split : ∃ before after, queue = before ++ found :: after ∧ rest = before ++ after ∧
      ∀ other ∈ before, other.pid ≠ found.pid := by
    have named := (purge?_eq_some taken).1
    induction queue generalizing rest with
    | nil => contradiction
    | cons process others ih =>
      unfold purge? at taken
      split at taken
      · obtain ⟨rfl, rfl⟩ := Prod.mk.inj (Option.some.inj taken)
        exact ⟨[], others, rfl, rfl, List.forall_mem_nil _⟩
      · next other =>
        obtain ⟨⟨inner, tail⟩, inside, same⟩ := Option.map_eq_some_iff.mp taken
        obtain ⟨rfl, rfl⟩ := Prod.mk.inj same
        obtain ⟨before, after, rfl, rfl, first⟩ := ih inside
        refine ⟨process :: before, after, rfl, rfl, ?_⟩
        rw [List.forall_mem_cons, named]
        exact ⟨other, named ▸ first⟩
  obtain ⟨before, after, rfl, rfl, first⟩ := split
  exact .left before after rfl first

theorem find?_eq_some (search : queue.find? pid = some found) : found.pid = pid ∧ found ∈ queue := by
  unfold find? at search
  constructor
  · have named := List.find?_some search
    simpa using named
  · exact List.mem_of_find?_eq_some search

theorem find?_enqueue (absent : ∀ process ∈ queue, process.pid ≠ pid) (named : found.pid = pid) :
    (queue.enqueue found).find? pid = some found := by
  have none : List.find? (fun process => process.pid == pid) queue = none := by
    rw [List.find?_eq_none]
    intro process member
    simpa using absent process member
  unfold find? enqueue
  rw [List.find?_append, none]
  simp [named]

end ProcessQueue

namespace Scheduler

variable {σ : Type} {scheduler next : Scheduler σ} {process : Process σ} {pid : Nat}
  {queues : List (ProcessQueue σ)}

/-- The process that was moved and the scheduler afterwards, which is the old one if there was none to move. -/
def settled (scheduler : Scheduler σ) : Option (Process σ × Scheduler σ) → Option (Process σ) × Scheduler σ
  | some (process, next) => (some process, next)
  | none => (none, scheduler)

/-- The process that a request moves, if any, and the scheduler afterwards. -/
def handle (scheduler : Scheduler σ) : SchedulerRequest σ → Option (Process σ) × Scheduler σ
  | .enroll process => (some process, scheduler.enroll process)
  | .enrollByPriority process => (some process, scheduler.enrollByPriority process)
  | .start pid => scheduler.settled (scheduler.start? pid)
  | .finish pid => scheduler.settled (scheduler.finish? pid)

def afterRequests (scheduler : Scheduler σ) (requests : List (SchedulerRequest σ)) : Scheduler σ :=
  requests.foldl (fun scheduler request => (scheduler.handle request).2) scheduler

/-- The process that a request takes from the scheduler for good. -/
def finished? (scheduler : Scheduler σ) (request : SchedulerRequest σ) : Option (Process σ) :=
  if request.isFinish then (scheduler.handle request).1 else none

/-- The processes that were returned as finished, the first one first. -/
def finished (scheduler : Scheduler σ) : List (SchedulerRequest σ) → List (Process σ)
  | [] => []
  | request :: rest => (scheduler.finished? request).toList ++ (scheduler.handle request).2.finished rest

section Searches

theorem purgeFirst?_fst (pid : Nat) (queues : List (ProcessQueue σ)) :
    (purgeFirst? pid queues).map Prod.fst = queues.findSome? (·.find? pid) := by
  induction queues with
  | nil => rfl
  | cons queue queues ih =>
    rw [List.findSome?_cons, ← ProcessQueue.purge?_fst, purgeFirst?]
    cases queue.purge? pid with
    | some pair => rfl
    | none =>
      rw [← ih, Option.map_map]
      rfl

/-- A process that is not running is started from where a search finds it. -/
theorem start?_fst (absent : ∀ process ∈ scheduler.running, process.pid ≠ pid) :
    (scheduler.start? pid).map Prod.fst = scheduler.find? pid := by
  have idle : scheduler.running.find? pid = none := by
    rw [← ProcessQueue.purge?_fst, ProcessQueue.purge?_eq_none_iff.mpr absent]
    rfl
  simp only [find?, queues, List.findSome?_cons, idle]
  rw [← ProcessQueue.purge?_fst, ← purgeFirst?_fst, start?]
  cases scheduler.ready.purge? pid with
  | some pair => rfl
  | none =>
    rw [Option.map_map]
    rfl

theorem start?_eq_some (started : scheduler.start? pid = some (process, next)) :
    process.pid = pid ∧ next.running = scheduler.running.enqueue process := by
  unfold start? at started
  split at started
  · next taken =>
    obtain ⟨rfl, rfl⟩ := Prod.mk.inj (Option.some.inj started)
    exact ⟨(ProcessQueue.purge?_eq_some taken).1, rfl⟩
  · obtain ⟨pair, taken, same⟩ := Option.map_eq_some_iff.mp started
    obtain ⟨rfl, rfl⟩ := Prod.mk.inj same
    exact ⟨(purgeFirst?_eq_some taken).1, rfl⟩

theorem find?_eq_some (search : scheduler.find? pid = some process) :
    process.pid = pid ∧ ∃ queue ∈ scheduler.queues, process ∈ queue := by
  obtain ⟨queue, member, inside⟩ := List.exists_of_findSome?_eq_some search
  obtain ⟨named, held⟩ := ProcessQueue.find?_eq_some inside
  exact ⟨named, queue, member, held⟩

theorem isSome_find?_iff (scheduler : Scheduler σ) (pid : Nat) :
    (scheduler.find? pid).isSome ↔ ∃ queue ∈ scheduler.queues, ∃ process ∈ queue, process.pid = pid := by
  simp only [find?, List.isSome_findSome?, List.any_eq_true, ProcessQueue.find?, List.find?_isSome, beq_iff_eq]

end Searches

section Moves

theorem shifted_of_purgeFirst? {rest : List (ProcessQueue σ)}
    (taken : purgeFirst? pid queues = some (process, rest)) :
    List.Forall₂ (ProcessQueue.Shifted (some process)) queues rest := by
  induction queues generalizing rest with
  | nil => contradiction
  | cons queue queues ih =>
    unfold purgeFirst? at taken
    split at taken
    · next purged =>
      obtain ⟨rfl, rfl⟩ := Prod.mk.inj (Option.some.inj taken)
      exact .cons (ProcessQueue.shifted_of_purge? purged) (ProcessQueue.shifted_kept queues)
    · obtain ⟨⟨found, others⟩, inside, same⟩ := Option.map_eq_some_iff.mp taken
      obtain ⟨rfl, rfl⟩ := Prod.mk.inj same
      exact .cons (.kept queue) (ih inside)

theorem shifted_modify (index : Nat) (process : Process σ) (queues : List (ProcessQueue σ)) :
    List.Forall₂ (ProcessQueue.Shifted (some process)) queues
      (queues.modify index fun queue => queue.enqueue process) := by
  induction queues generalizing index with
  | nil =>
    rw [List.modify_nil]
    exact .nil
  | cons queue queues ih =>
    cases index with
    | zero => exact .cons (.joined queue rfl) (ProcessQueue.shifted_kept queues)
    | succ index => exact .cons (.kept queue) (ih index)

/-- A request moves one process at most, and all others keep their order. -/
theorem shifted_handle (scheduler : Scheduler σ) (request : SchedulerRequest σ) :
    List.Forall₂ (ProcessQueue.Shifted (scheduler.handle request).1) scheduler.queues
      (scheduler.handle request).2.queues := by
  cases request with
  | enroll process =>
    exact .cons (.kept scheduler.running) (.cons (.joined scheduler.ready rfl) (ProcessQueue.shifted_kept _))
  | enrollByPriority process =>
    exact .cons (.kept scheduler.running) (.cons (.kept scheduler.ready) (shifted_modify _ process _))
  | start pid =>
    simp only [handle]
    cases started : scheduler.start? pid with
    | none => exact ProcessQueue.shifted_kept scheduler.queues
    | some pair =>
      unfold start? at started
      split at started
      · next taken =>
        obtain rfl := Option.some.inj started
        exact .cons (.joined scheduler.running rfl)
          (.cons (ProcessQueue.shifted_of_purge? taken) (ProcessQueue.shifted_kept _))
      · obtain ⟨_, taken, rfl⟩ := Option.map_eq_some_iff.mp started
        exact .cons (.joined scheduler.running rfl) (.cons (.kept scheduler.ready) (shifted_of_purgeFirst? taken))
  | finish pid =>
    simp only [handle]
    cases finished : scheduler.finish? pid with
    | none => exact ProcessQueue.shifted_kept scheduler.queues
    | some pair =>
      obtain ⟨_, taken, rfl⟩ := Option.map_eq_some_iff.mp finished
      exact .cons (ProcessQueue.shifted_of_purge? taken) (ProcessQueue.shifted_kept _)

theorem length_buckets_handle (scheduler : Scheduler σ) (request : SchedulerRequest σ) :
    (scheduler.handle request).2.buckets.length = scheduler.buckets.length := by
  have lengths := (scheduler.shifted_handle request).length_eq
  simp only [queues, List.length_cons, Nat.add_right_cancel_iff] at lengths
  exact lengths.symm

/-- What comes with a request is what leaves and what is held in addition. -/
theorem perm_handle (bucketed : 0 < scheduler.buckets.length) (request : SchedulerRequest σ) :
    ((scheduler.finished? request).toList ++ (scheduler.handle request).2.processes).Perm
      (request.enrolled?.toList ++ scheduler.processes) := by
  cases request with
  | enroll process => exact scheduler.perm_enroll process
  | enrollByPriority process =>
    have bound : scheduler.bucketOf process.priority < scheduler.buckets.length := by
      unfold bucketOf
      omega
    have bucket := (flatten_modify_enqueue bound process).append_left (scheduler.running ++ scheduler.ready)
    simp only [List.append_assoc] at bucket
    apply bucket.trans
    rw [← List.append_assoc]
    apply List.perm_middle.trans
    rw [List.append_assoc]
    exact .refl _
  | start pid =>
    simp only [handle]
    cases started : scheduler.start? pid with
    | none => exact .refl _
    | some pair => exact perm_start? started
  | finish pid =>
    simp only [finished?, handle, SchedulerRequest.isFinish, if_true]
    cases finished : scheduler.finish? pid with
    | none => exact .refl _
    | some pair => exact (perm_finish? finished).symm

end Moves

section Requests

theorem length_buckets_afterRequests (scheduler : Scheduler σ) (requests : List (SchedulerRequest σ)) :
    (scheduler.afterRequests requests).buckets.length = scheduler.buckets.length := by
  induction requests generalizing scheduler with
  | nil => rfl
  | cons request rest ih => exact (ih _).trans (scheduler.length_buckets_handle request)

theorem perm_afterRequests (bucketed : 0 < scheduler.buckets.length) (requests : List (SchedulerRequest σ)) :
    (scheduler.finished requests ++ (scheduler.afterRequests requests).processes).Perm
      (SchedulerRequest.enrolled requests ++ scheduler.processes) := by
  induction requests generalizing scheduler with
  | nil => exact .refl _
  | cons request rest ih =>
    have kept : 0 < (scheduler.handle request).2.buckets.length := by
      rw [length_buckets_handle]
      exact bucketed
    have now := perm_handle bucketed request
    have enrolled : SchedulerRequest.enrolled (request :: rest) =
        request.enrolled?.toList ++ SchedulerRequest.enrolled rest := by
      unfold SchedulerRequest.enrolled
      rw [List.filterMap_cons]
      cases request.enrolled? <;> rfl
    rw [enrolled, finished, List.append_assoc, List.append_assoc]
    apply ((ih kept).append_left _).trans
    apply (List.perm_append_comm_assoc ..).trans
    apply (now.append_left _).trans
    exact List.perm_append_comm_assoc ..

/-- After any requests a scheduler holds the processes that were enrolled and not finished since, each as often;
a search finds a process with an id just when there is one; a start takes the process that a search finds, which
is then found among the running ones; and a request leaves the order of all processes that it does not move. -/
theorem processes_conserved {requests : List (SchedulerRequest σ)}
    (reached : ({} : Scheduler σ).afterRequests requests = scheduler) :
    scheduler.queues.length = 142 ∧
    (({} : Scheduler σ).finished requests ++ scheduler.processes).Perm (SchedulerRequest.enrolled requests) ∧
    (∀ pid, (scheduler.find? pid).isSome ↔ ∃ queue ∈ scheduler.queues, ∃ process ∈ queue, process.pid = pid) ∧
    (∀ pid process, scheduler.find? pid = some process →
      process.pid = pid ∧ ∃ queue ∈ scheduler.queues, process ∈ queue) ∧
    (∀ pid, (∀ process ∈ scheduler.running, process.pid ≠ pid) →
      (scheduler.start? pid).map Prod.fst = scheduler.find? pid ∧
      ∀ process next, scheduler.start? pid = some (process, next) →
        next.running.find? pid = some process ∧ next.find? pid = some process) ∧
    ∀ request, List.Forall₂ (ProcessQueue.Shifted (scheduler.handle request).1) scheduler.queues
      (scheduler.handle request).2.queues := by
  have buckets : scheduler.buckets.length = 140 := by
    rw [← reached, length_buckets_afterRequests, List.length_replicate]
    rfl
  refine ⟨?queues, ?held, scheduler.isSome_find?_iff, fun pid process => find?_eq_some, ?started,
    scheduler.shifted_handle⟩
  case queues => rw [queues, List.length_cons, List.length_cons, buckets]
  case held =>
    have bucketed : 0 < ({} : Scheduler σ).buckets.length := by
      rw [List.length_replicate]
      decide
    have perm := perm_afterRequests bucketed requests
    have none : ({} : Scheduler σ).processes = [] := List.flatten_replicate_nil
    rw [reached, none, List.append_nil] at perm
    exact perm
  case started =>
    intro pid absent
    refine ⟨start?_fst absent, ?_⟩
    intro process next started
    obtain ⟨named, running⟩ := start?_eq_some started
    have found : next.running.find? pid = some process := by
      rw [running]
      exact ProcessQueue.find?_enqueue absent named
    refine ⟨found, ?_⟩
    rw [find?, queues, List.findSome?_cons, found]

/-- Two processes share an id, the one with the greater priority number in the last bucket. -/
def namesakes : List (SchedulerRequest Unit) :=
  [.enrollByPriority ⟨7, 10000, ()⟩, .enrollByPriority ⟨7, 3, ()⟩, .enroll ⟨8, 2, ()⟩, .start 8, .finish 8]

theorem processes_conserved_of_namesakes :
    ∃ scheduler next, ({} : Scheduler Unit).afterRequests namesakes = scheduler ∧
      [⟨8, 2, ()⟩, ⟨7, 3, ()⟩, ⟨7, 10000, ()⟩].Perm (SchedulerRequest.enrolled namesakes) ∧
      (∀ process ∈ scheduler.running, process.pid ≠ 7) ∧
      scheduler.start? 7 = some (⟨7, 3, ()⟩, next) ∧ next.find? 7 = some ⟨7, 3, ()⟩ := by
  have reached : ({} : Scheduler Unit).afterRequests namesakes = _ := rfl
  obtain ⟨-, held, -, -, started, -⟩ := processes_conserved reached
  have finished : ({} : Scheduler Unit).finished namesakes = [⟨8, 2, ()⟩] := by decide +kernel
  have left : (({} : Scheduler Unit).afterRequests namesakes).processes = [⟨7, 3, ()⟩, ⟨7, 10000, ()⟩] := by
    decide +kernel
  have absent : ∀ process ∈ (({} : Scheduler Unit).afterRequests namesakes).running, process.pid ≠ 7 := by
    decide +kernel
  have found : ((({} : Scheduler Unit).afterRequests namesakes).start? 7).map Prod.fst = some ⟨7, 3, ()⟩ := by
    decide +kernel
  obtain ⟨⟨process, next⟩, start, rfl⟩ := Option.map_eq_some_iff.mp found
  rw [finished, left] at held
  exact ⟨_, next, reached, held, absent, start, ((started 7 absent).2 _ next start).2⟩

end Requests

end Scheduler

end DemandPaging
