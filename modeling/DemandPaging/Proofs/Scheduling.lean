import DemandPaging.Proofs.Executing
import DemandPaging.Proofs.StableSorting
import DemandPaging.Proofs.Starts
import DemandPaging.Simulation

/-! # Jobs that wait

Between two jobs of a simulation no process runs and none is ready: the buckets hold a process without pages
for each job still to come, and all devices are free. Starting a job finds its process, which then has the
machine to itself; when the job is done, its process gives back all that it has, and the other jobs wait as
before. How a job ends depends on nothing that earlier jobs left behind, since its process is a peer of the
process of any other job that waits with the same program on devices of one configuration.
-/

namespace DemandPaging

namespace ProcessQueue

variable {σ : Type} {pid : Nat} {queue : ProcessQueue σ}

theorem purge?_eq_none_iff : queue.purge? pid = none ↔ ∀ process ∈ queue, process.pid ≠ pid := by
  have found := purge?_fst pid queue
  rw [find?] at found
  rw [← Option.map_eq_none_iff (f := fun pair : Process σ × ProcessQueue σ => pair.1), found, List.find?_eq_none]
  simp only [beq_iff_eq, ne_eq]

end ProcessQueue

namespace Scheduler

variable {σ : Type} {pid : Nat} {queues : List (ProcessQueue σ)}

theorem purgeFirst?_eq_some {found : Process σ} {rest : List (ProcessQueue σ)}
    (taken : purgeFirst? pid queues = some (found, rest)) :
    found.pid = pid ∧ queues.flatten.Perm (found :: rest.flatten) ∧ rest.length = queues.length := by
  induction queues generalizing rest with
  | nil => contradiction
  | cons queue queues ih =>
    unfold purgeFirst? at taken
    cases purged : queue.purge? pid with
    | some pair =>
      rw [purged] at taken
      obtain ⟨rfl, rfl⟩ := Prod.mk.inj (Option.some.inj taken)
      obtain ⟨named, perm⟩ := ProcessQueue.purge?_eq_some purged
      exact ⟨named, perm.append_right queues.flatten, rfl⟩
    | none =>
      rw [purged] at taken
      obtain ⟨⟨process, others⟩, inside, same⟩ := Option.map_eq_some_iff.mp taken
      obtain ⟨rfl, rfl⟩ := Prod.mk.inj same
      obtain ⟨named, perm, length⟩ := ih inside
      refine ⟨named, (perm.append_left queue).trans List.perm_middle, congrArg Nat.succ length⟩

theorem purgeFirst?_ne_none {process : Process σ} (member : process ∈ queues.flatten) :
    purgeFirst? process.pid queues ≠ none := by
  induction queues with
  | nil => contradiction
  | cons queue queues ih =>
    unfold purgeFirst?
    cases purged : queue.purge? process.pid with
    | some pair => exact Option.some_ne_none _
    | none =>
      have elsewhere := (List.mem_append.mp (List.flatten_cons ▸ member)).resolve_left fun inside =>
        ProcessQueue.purge?_eq_none_iff.mp purged process inside rfl
      simpa only [ne_eq, Option.map_eq_none_iff] using ih elsewhere

theorem flatten_modify_enqueue {index : Nat} (bound : index < queues.length) (process : Process σ) :
    (queues.modify index fun queue => queue.enqueue process).flatten.Perm (process :: queues.flatten) := by
  induction queues generalizing index with
  | nil => contradiction
  | cons queue queues ih =>
    cases index with
    | zero =>
      simp only [List.modify_zero_cons, List.flatten_cons, ProcessQueue.enqueue, List.append_assoc,
        List.singleton_append]
      exact List.perm_middle
    | succ index =>
      rw [List.modify_succ_cons, List.flatten_cons, List.flatten_cons]
      exact ((ih (Nat.lt_of_succ_lt_succ bound)).append_left queue).trans List.perm_middle

end Scheduler

/-- What the devices of a configuration are like. -/
def MemoryConfig.layout (config : MemoryConfig) : DeviceSet.Layout where
  geometry := config.geometry
  ramSize := config.ramSize
  swapSizes := config.swapSizes
  active := 0

/-- The devices of a configuration, with nothing in use. -/
structure Machine.Idle (config : MemoryConfig) (machine : Machine) : Prop where
  sound : machine.devices.Sound
  unused : ∀ home, ¬ machine.devices.InUse home
  layout : machine.devices.layout = config.layout

namespace Machine.Idle

variable {config : MemoryConfig} {machine : Machine}

theorem of_build (built : config.build = .ok machine) (word : config.ramSize < Word.limit) : machine.Idle config where
  sound := MemoryConfig.sound_of_build built word
  unused := MemoryConfig.not_inUse_of_build built
  layout := by
    obtain ⟨-, -, devices⟩ := MemoryConfig.devices_of_build built
    rw [devices, DeviceSet.layout, MemoryConfig.layout, List.map_map]
    simp [Function.comp_def]

/-- Where nothing is in use, everything is free. -/
theorem freeCount_eq (idle : machine.Idle config) {id : DeviceId} {device : Device}
    (found : machine.devices.get? id = some device) : device.freeCount = device.frames := by
  refine (idle.sound.pools id device found).freeCount_add List.nodup_nil fun frame => ?_
  refine iff_of_false List.not_mem_nil fun held => idle.unused (id, frame) ?_
  exact (DeviceSet.inUse_iff found frame).mpr held

end Machine.Idle

/-- The process that is to run a job. -/
def Job.process (populate : Populate) (job : Job) : Process (Space FlatTable) where
  pid := job.pid
  priority := job.program.priority
  memory := Space.empty populate

theorem Job.process_pid (populate : Populate) (job : Job) : (job.process populate).pid = job.pid := rfl

/-- Jobs wait on a kernel on which nothing runs. -/
structure Kernel.Waiting (config : MemoryConfig) (jobs : List Job) (kernel : Kernel FlatTable) : Prop where
  machine : kernel.toMachine.Idle config
  running : kernel.scheduler.running = []
  ready : kernel.scheduler.ready = []
  bucketed : 0 < kernel.scheduler.buckets.length
  waiting : kernel.scheduler.buckets.flatten.Perm (jobs.map (Job.process config.populate))
  distinct : (jobs.map Job.pid).Nodup

namespace Kernel.Waiting

variable {config : MemoryConfig} {kernel : Kernel FlatTable} {job : Job} {jobs rest : List Job}

theorem perm (waits : kernel.Waiting config jobs) (perm : jobs.Perm rest) : kernel.Waiting config rest :=
  { waits with
    waiting := waits.waiting.trans (perm.map _)
    distinct := (perm.map Job.pid).nodup_iff.mp waits.distinct }

/-- One more job waits. -/
theorem enroll (waits : kernel.Waiting config jobs) (new : job.pid ∉ jobs.map Job.pid) (event : Event) :
    ((kernel.emit event).enrollByPriority (job.process config.populate)).Waiting config (job :: jobs) where
  machine := ⟨waits.machine.sound, waits.machine.unused, waits.machine.layout⟩
  running := waits.running
  ready := waits.ready
  bucketed := by
    show 0 < (kernel.scheduler.buckets.modify _ _).length
    rw [List.length_modify]
    exact waits.bucketed
  waiting := by
    have bound : kernel.scheduler.bucketOf job.program.priority < kernel.scheduler.buckets.length := by
      have bucketed := waits.bucketed
      unfold Scheduler.bucketOf
      omega
    exact (Scheduler.flatten_modify_enqueue bound _).trans (waits.waiting.cons _)
  distinct := List.nodup_cons.mpr ⟨new, waits.distinct⟩

/-- The process of a job is found, and what is left of it when it is done lets the others wait. -/
theorem start (waits : kernel.Waiting config (job :: rest)) : ∃ seat : Seat FlatTable, seat.pid = job.pid ∧
    (Kernel.start job.pid).run kernel = (some (job.process config.populate),
      seat.kernel { kernel.toMachine with space := Space.empty config.populate }) ∧
    ∀ machine : Machine, machine.Idle config →
      Kernel.Waiting config rest ⟨machine, { seat.waiting with running := [] }⟩ := by
  have listed (process : Process (Space FlatTable)) : process ∈ kernel.scheduler.buckets.flatten ↔
      process ∈ (job :: rest).map (Job.process config.populate) := waits.waiting.mem_iff
  have member := (listed (job.process config.populate)).mpr (List.mem_cons_self ..)
  obtain ⟨⟨found, buckets⟩, taken⟩ := Option.ne_none_iff_exists'.mp (Scheduler.purgeFirst?_ne_none member)
  rw [Job.process_pid] at taken
  obtain ⟨named, perm, length⟩ := Scheduler.purgeFirst?_eq_some taken
  have same : found = job.process config.populate := by
    obtain ⟨other, inside, rfl⟩ := List.mem_map.mp ((listed found).mp (perm.mem_iff.mpr (List.mem_cons_self ..)))
    rw [List.inj_on_of_nodup_map waits.distinct inside (List.mem_cons_self ..) named]
  subst same
  refine ⟨⟨job.pid, job.program.priority, { kernel.scheduler with buckets }⟩, rfl, ?_, fun machine idle => ?_⟩
  · have started : kernel.scheduler.start? job.pid = some (job.process config.populate,
        { kernel.scheduler with running := [job.process config.populate], buckets }) := by
      simp only [Scheduler.start?, waits.ready, ProcessQueue.purge?, waits.running, taken, Option.map_some]
      rfl
    simp only [StateT.run, Kernel.start, started]
    rfl
  · refine ⟨idle, rfl, waits.ready, length ▸ waits.bucketed, ?_, (List.nodup_cons.mp waits.distinct).2⟩
    exact (perm.symm.trans waits.waiting).cons_inv

end Kernel.Waiting

/-- Whether a job is to run before another one. -/
def Job.Before (first second : Job) : Prop :=
  first.program.priority < second.program.priority ∨
    first.program.priority = second.program.priority ∧ first.pid < second.pid

namespace Simulation

variable {config : MemoryConfig} {kernel : Kernel FlatTable} {pid : Nat} {programs : List Program}

/-- The jobs for programs in the order of the command line, numbered from `pid` on. -/
def jobsFrom (pid : Nat) : List Program → List Job
  | [] => []
  | program :: programs => { pid, program } :: jobsFrom (pid + 1) programs

theorem le_of_mem_jobsFrom {job : Job} (member : job ∈ jobsFrom pid programs) : pid ≤ job.pid := by
  induction programs generalizing pid with
  | nil => contradiction
  | cons program programs ih =>
    rcases List.mem_cons.mp member with rfl | later
    · exact le_rfl
    · exact (Nat.le_succ pid).trans (ih later)

theorem pairwise_jobsFrom (pid : Nat) (programs : List Program) :
    (jobsFrom pid programs).Pairwise fun first second => first.pid < second.pid := by
  induction programs generalizing pid with
  | nil => exact .nil
  | cons program programs ih => exact .cons (fun job member => le_of_mem_jobsFrom member) (ih (pid + 1))

theorem order_perm (jobs : List Job) : (order jobs).Perm jobs := List.mergeSort_perm ..

/-- Jobs run in ascending priority, and equals as they are numbered. -/
theorem pairwise_order {jobs : List Job} (numbered : jobs.Pairwise fun first second => first.pid < second.pid) :
    (order jobs).Pairwise Job.Before :=
  (stableSort_mergeSort (fun job : Job => job.program.priority) jobs).pairwise numbered

/-- Jobs have only one order. -/
theorem order_eq_of_pairwise {jobs sorted : List Job}
    (numbered : jobs.Pairwise fun first second => first.pid < second.pid) (same : sorted.Perm jobs)
    (inTurn : sorted.Pairwise Job.Before) : order jobs = sorted := by
  refine List.Perm.eq_of_pairwise (fun first second _ _ one other => ?_) (pairwise_order numbered) inTurn
    ((order_perm jobs).trans same.symm)
  unfold Job.Before at one other
  omega

/-- A program that was read gets its process before the next file is read. -/
theorem load_cons {file : ProgramFile} {program : Program} (found : read file = .ok program) (populate : Populate)
    (files : List ProgramFile) : load populate pid (file :: files) kernel =
      (load populate (pid + 1) files >>= fun jobs => pure ({ pid, program } :: jobs))
        ((kernel.emit (.programLoaded file.path pid program)).enrollByPriority
          (Job.process populate { pid, program })) := by
  show (settle (read file) >>= _) kernel = _
  rw [found]
  rfl

/-- Where every file has a program, every program gets a job that waits. -/
theorem load_of_waiting {files : List ProgramFile}
    (parsed : List.Forall₂ (fun file program => read file = .ok program) files programs)
    {waiting : List Job} (waits : kernel.Waiting config waiting) (below : ∀ job ∈ waiting, job.pid < pid) :
    ∃ after, load config.populate pid files kernel = .ok (jobsFrom pid programs) after ∧
      after.Waiting config (jobsFrom pid programs ++ waiting) := by
  induction parsed generalizing kernel pid waiting with
  | nil => exact ⟨kernel, rfl, waits⟩
  | @cons file program files programs found _ ih =>
    have new : pid ∉ waiting.map Job.pid := by
      rintro member
      obtain ⟨job, inside, same⟩ := List.mem_map.mp member
      exact absurd (below job inside) (by omega)
    have enrolled : Kernel.Waiting config (⟨pid, program⟩ :: waiting) _ :=
      waits.enroll new (.programLoaded file.path pid program)
    have still : ∀ job ∈ ({ pid, program } : Job) :: waiting, job.pid < pid + 1 := by
      intro job member
      rcases List.mem_cons.mp member with rfl | old
      · exact Nat.lt_succ_self pid
      · exact (below job old).trans (Nat.lt_succ_self pid)
    obtain ⟨after, loaded, waits⟩ := ih enrolled still
    refine ⟨after, ?_, waits.perm List.perm_middle⟩
    simp only [load_cons found, bind, EStateM.bind, loaded]
    rfl

/-- The kernel before any program is loaded. -/
def booted (options : Options) (machine : Machine) : Kernel FlatTable where
  toMachine := { machine with log := machine.log ++ [.optionsRead options] }

theorem waiting_booted {options : Options} {machine : Machine} (idle : machine.Idle config) :
    (booted options machine).Waiting config [] where
  machine := ⟨idle.sound, idle.unused, idle.layout⟩
  running := rfl
  ready := rfl
  bucketed := by
    show 0 < (List.replicate Parameters.priorityBuckets []).length
    rw [List.length_replicate]
    decide
  waiting := .of_eq List.flatten_replicate_nil
  distinct := List.nodup_nil

end Simulation

end DemandPaging
