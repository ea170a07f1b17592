import DemandPaging.Proofs.Scheduling

/-! # Programs run as if alone

A simulation builds the devices, loads all programs and runs them in the order of their priorities, equals in
the order of the command line. Each job finds its process, and finds all frames and swap slots free, since the
process before it gave back everything, whatever failed on the way. All that is left of earlier programs is the
order of the free frames and the bytes in them, and a process can tell neither: its report is the one that its
program gets when it is run alone. Only a program that writes to RAM past its pages may end with other
registers, since which of its pages it hits depends on the order of the frames.
-/

namespace DemandPaging

variable {config : MemoryConfig}

/-- A new process on free devices can be told from another one only by the order of the free frames. -/
theorem Machine.Idle.peers {machine mirror : Machine} (idle : machine.Idle config) (also : mirror.Idle config)
    (faithful : Prop) :
    Stage.Peers config.layout faithful ({ machine with space := Space.empty config.populate } : Stage FlatTable)
      { mirror with space := Space.empty config.populate } := by
  have blank (machine : Machine) (page : Nat) :
      ({ machine with space := Space.empty config.populate } : Stage FlatTable).memory.homeOf page = none := by
    have read : PageTable.lookup (∅ : FlatTable) page = .zero := FlatTable.lookup_ofPages _ page
    show Space.home? (PageTable.lookup (∅ : FlatTable) page) = none
    rw [read]
    rfl
  have solo {machine : Machine} (idle : machine.Idle config) :
      ({ machine with space := Space.empty config.populate } : Stage FlatTable).Solo config.layout :=
    .of_blank idle.layout idle.sound idle.unused (FlatTable.wellFormed_ofPages _) (blank machine)
      (Host.laid_ofTable config.populate ∅ _) PageQueue.toList_empty Nat.zero_lt_one
  refine ⟨⟨.refl _, also.layout.trans idle.layout.symm, rfl, rfl, fun page => ?_, fun _ address => ?_⟩,
    solo idle, solo also⟩
  · rw [Memory.deviceOf, blank, Memory.deviceOf, blank]
  · rw [Memory.byteAt_of_empty (Memory.content_eq_empty (blank mirror _)),
      Memory.byteAt_of_empty (Memory.content_eq_empty (blank machine _))]

/-- A process that had the machine to itself leaves it idle. -/
theorem Stage.Solo.idle_reclaim {stage : Stage FlatTable} (solo : stage.Solo config.layout)
    {process : Process (Space FlatTable)} (memory : process.memory = stage.space) :
    (Kernel.reclaim process stage.toMachine).Idle config := by
  have ends := Space.ends_teardown solo.custody
  unfold Kernel.reclaim
  rw [memory]
  unfold Ends at ends
  cases ran : Space.teardown stage with
  | error reason after => simp [ran] at ends
  | ok answer after =>
    simp only [ran] at ends
    refine ⟨ends.custody.sound, fun home used => ?_, ends.keeps.memory.layout.trans solo.layout⟩
    obtain ⟨page, named⟩ := ((ends.custody.accounts.inUse_iff home).mp used).resolve_left (Set.notMem_empty _)
    rw [ends.homeOf page] at named
    contradiction

namespace Simulation

/-- A job that was started is run to its end and reported on, and then its process is gone. -/
theorem runJob_of_started {kernel : Kernel FlatTable} {job : Job} {process : Process (Space FlatTable)}
    {seat : Seat FlatTable} {stage after : Stage FlatTable} {processor : Processor} {summary : RunSummary}
    {usage : AreaUsage} (named : seat.pid = job.pid)
    (started : (Kernel.start job.pid).run kernel = (some process, seat.kernel stage))
    (ran : (Processor.run job.pid {} job.program).run (seat.kernel stage) = ((processor, summary), seat.kernel after))
    (used : after.space.usage 0 = .ok usage) :
    (runJob job).run kernel =
      (.ok (some ⟨job.pid, summary, usage, after.space.resident.size, processor.registers⟩),
        ⟨Kernel.reclaim ⟨seat.pid, seat.priority, after.space⟩ after.toMachine,
          { seat.waiting with running := [] }⟩) := by
  have found := seat.find?_kernel after
  rw [named] at found
  have finished : (seat.kernel after).scheduler.finish? job.pid =
      some (⟨seat.pid, seat.priority, after.space⟩, { seat.waiting with running := [] }) := by
    simp [Scheduler.finish?, Seat.kernel, ProcessQueue.purge?, named]
  simp only [StateT.run] at started ran
  simp only [StateT.run, runJob, bind, StateT.bind, started, ran, get, getThe, MonadStateOf.get, StateT.get, pure,
    found, used, Kernel.finish, finished]
  rfl

end Simulation

/-- Two reports on one program say the same, but for the registers if the program strikes RAM. -/
structure RunReport.SameRun (program : Program) (one other : RunReport) : Prop where
  summary : other.summary = one.summary
  usage : other.usage = one.usage
  resident : other.resident = one.resident
  registers : program.strikesRam = false → other.registers = one.registers

namespace Simulation

variable {kernel mirror : Kernel FlatTable} {job twin : Job} {rest others : List Job}

/-- Jobs with one program that wait on devices of one configuration are run and reported on alike. -/
theorem runJob_of_waiting (waits : kernel.Waiting config (job :: rest)) (also : mirror.Waiting config (twin :: others))
    (program : twin.program = job.program) : ∃ report after own next,
      (runJob job).run kernel = (.ok (some report), after) ∧ after.Waiting config rest ∧
      (runJob twin).run mirror = (.ok (some own), next) ∧ next.Waiting config others ∧
      report.pid = job.pid ∧ report.summary.executed = job.program.code.length ∧
      report.SameRun job.program own := by
  obtain ⟨pid, code⟩ := twin
  obtain rfl : code = job.program := program
  obtain ⟨seat, named, started, left⟩ := waits.start
  obtain ⟨place, called, begun, remaining⟩ := also.start
  -- The two processes are peers, and faithfully so if the program never strikes RAM.
  have struck : job.program.strikesRam = true → ¬ job.program.strikesRam = false := fun strikes => by simp [strikes]
  have agree : Agree (Seated config.layout (job.program.strikesRam = false) seat place) _
      (Processor.run seat.pid {} job.program) (Processor.run place.pid {} job.program) :=
    Processor.agree_run job.program struck
  obtain ⟨⟨counts, registers⟩, stage, echo, ran, mirrored, peers⟩ :=
    agree _ _ ⟨_, _, rfl, rfl, waits.machine.peers also.machine _⟩
  have executed := Processor.executed_runAll seat.pid job.program.code ({}, {})
    (seat.kernel { kernel.toMachine with space := Space.empty config.populate })
  obtain ⟨usage, used⟩ := peers.here.usage_zero
  have usedAgain : echo.space.usage 0 = .ok usage := (peers.outline.usage 0).trans used
  rw [named] at counts registers ran executed
  rw [called] at counts registers mirrored
  have done := runJob_of_started named started (Prod.ext rfl ran) used
  have doneAgain := runJob_of_started called begun (Prod.ext rfl mirrored) usedAgain
  refine ⟨_, _, _, _, done, left _ (peers.here.idle_reclaim rfl), doneAgain, remaining _ (peers.there.idle_reclaim rfl),
    rfl, ?_, ?_⟩
  · exact executed.trans (Nat.zero_add _)
  · refine ⟨counts.symm, rfl, ?_, fun quiet => (registers quiet).symm⟩
    rw [← PageQueue.length_toList, ← PageQueue.length_toList, peers.resident]

/-- What a report says of a job: it was run to its end, and as any job with its program that waits on its own. -/
structure Reported (config : MemoryConfig) (job : Job) (report : RunReport) : Prop where
  pid : report.pid = job.pid
  executed : report.summary.executed = job.program.code.length
  again : ∀ (twin : Job) (mirror : Kernel FlatTable), twin.program = job.program → mirror.Waiting config [twin] →
    ∃ own next, (runJob twin).run mirror = (.ok (some own), next) ∧ report.SameRun job.program own

theorem runJobs_of_waiting {jobs : List Job} (waits : kernel.Waiting config (jobs ++ rest)) : ∃ reports after,
    (runJobs jobs).run kernel = ((reports, none), after) ∧ after.Waiting config rest ∧
      List.Forall₂ (Reported config) jobs reports := by
  induction jobs generalizing kernel with
  | nil => exact ⟨[], kernel, rfl, waits, .nil⟩
  | cons job jobs ih =>
    obtain ⟨report, middle, -, -, ran, left, -, -, named, executed, -⟩ := runJob_of_waiting waits waits rfl
    obtain ⟨reports, after, rest_ran, remaining, reported⟩ := ih left
    refine ⟨report :: reports, after, ?_, remaining,
      .cons ⟨named, executed, fun twin mirror program also => ?_⟩ reported⟩
    · simp only [StateT.run] at ran
      simp only [StateT.run, runJobs, bind, StateT.bind, ran]
      rw [show runJobs jobs middle = _ from rest_ran]
      rfl
    · -- Only the job is run anew, against any other one with its program: its report is still the same.
      obtain ⟨same, _, own, next, sameRan, -, doneAgain, -, -, -, alike⟩ := runJob_of_waiting waits also program
      obtain ⟨answered, -⟩ := Prod.mk.inj (sameRan.symm.trans ran)
      obtain rfl := Option.some.inj (Except.ok.inj answered)
      exact ⟨own, next, doneAgain, alike⟩

/-- A simulation that was built and loaded runs and reports on every job, in order. -/
theorem run_of_parsed {options : Options} {machine : Machine} {files : List ProgramFile} {programs : List Program}
    (built : options.config.build = .ok machine) (word : options.config.ramSize < Word.limit)
    (parsed : List.Forall₂ (fun file program => read file = .ok program) files programs) : ∃ kernel after,
    load options.config.populate 1 files (booted options machine) = .ok (jobsFrom 1 programs) kernel ∧
      kernel.Waiting options.config (order (jobsFrom 1 programs)) ∧
      (runJobs (order (jobsFrom 1 programs))).run kernel = (((run FlatTable options files).reports, none), after) ∧
      (run FlatTable options files).failure = none ∧
      List.Forall₂ (Reported options.config) (order (jobsFrom 1 programs)) (run FlatTable options files).reports := by
  have booting : (booted options machine).Waiting options.config [] := waiting_booted (.of_build built word)
  obtain ⟨kernel, loaded, waits⟩ := load_of_waiting parsed booting (fun _ member => absurd member List.not_mem_nil)
  rw [List.append_nil] at waits
  have ordered := waits.perm (order_perm (jobsFrom 1 programs)).symm
  have whole : kernel.Waiting options.config (order (jobsFrom 1 programs) ++ []) := by rwa [List.append_nil]
  obtain ⟨reports, after, ran, -, reported⟩ := runJobs_of_waiting whole
  have finished : run FlatTable options files =
      { log := (Event.deviceDump after.devices.ram).reverse ++ after.log, reports, failure := none } := by
    unfold booted at loaded
    simp only [run, built, runOn, loaded, complete, ran]
  rw [finished]
  exact ⟨kernel, after, loaded, ordered, ran, rfl, reported⟩

/-- A job starts on a kernel that knows its process, and has all frames of all devices free. -/
structure StartsOn (config : MemoryConfig) (job : Job) (kernel : Kernel FlatTable) : Prop where
  known : ((Kernel.start job.pid).run kernel).1 = some (job.process config.populate)
  free : ∀ id device, kernel.devices.get? id = some device → device.freeCount = device.frames

/-- A report tells of a run to the end, and the same of the job as when its program is all that is run. -/
structure AsAlone (config : MemoryConfig) (job : Job) (report : RunReport) : Prop where
  pid : report.pid = job.pid
  executed : report.summary.executed = job.program.code.length
  alone : ∀ (options : Options) (file : ProgramFile), options.config = config → read file = .ok job.program →
    ∃ own, (run FlatTable options [file]).reports = [own] ∧ report.SameRun job.program own

/-- Every program runs once and in its turn, from free devices, and its report is the one that it gets alone. -/
theorem run_as_alone {options : Options} {files : List ProgramFile} {programs : List Program}
    (valid : options.config.validate = .ok ()) (word : options.config.ramSize < Word.limit)
    (parsed : List.Forall₂ (fun file program => read file = .ok program) files programs) :
    (order (jobsFrom 1 programs)).Perm (jobsFrom 1 programs) ∧ (order (jobsFrom 1 programs)).Pairwise Job.Before ∧
    (∃ machine kernel after, options.config.build = .ok machine ∧
      load options.config.populate 1 files (booted options machine) = .ok (jobsFrom 1 programs) kernel ∧
      (runJobs (order (jobsFrom 1 programs))).run kernel = (((run FlatTable options files).reports, none), after) ∧
      ∀ done job rest, order (jobsFrom 1 programs) = done ++ job :: rest →
        StartsOn options.config job ((runJobs done).run kernel).2) ∧
    (run FlatTable options files).failure = none ∧
    List.Forall₂ (AsAlone options.config) (order (jobsFrom 1 programs)) (run FlatTable options files).reports := by
  obtain ⟨machine, built⟩ := MemoryConfig.exists_build_of_validate valid
  obtain ⟨kernel, after, loaded, waits, ran, succeeded, reported⟩ := run_of_parsed built word parsed
  refine ⟨order_perm _, pairwise_order (pairwise_jobsFrom 1 programs),
    ⟨machine, kernel, after, built, loaded, ran, fun done job rest split => ?_⟩, succeeded, ?_⟩
  · obtain ⟨reports, before, ranDone, left, -⟩ := runJobs_of_waiting (split ▸ waits)
    obtain ⟨seat, -, started, -⟩ := left.start
    rw [ranDone]
    exact ⟨congrArg Prod.fst started, fun id device found => left.machine.freeCount_eq found⟩
  · refine reported.imp fun job report told => ⟨told.pid, told.executed, fun alone file same found => ?_⟩
    obtain ⟨lone, _, -, waits, ran, -⟩ := run_of_parsed (same ▸ built) (same ▸ word) (.cons found .nil)
    have single : order (jobsFrom 1 [job.program]) = [⟨1, job.program⟩] := List.mergeSort_singleton _
    rw [single] at waits ran
    obtain ⟨own, next, ranOwn, alike⟩ := told.again ⟨1, job.program⟩ lone rfl (same ▸ waits)
    refine ⟨own, ?_, alike⟩
    simp only [StateT.run] at ranOwn ran
    simp only [runJobs, bind, StateT.bind, ranOwn] at ran
    exact (Prod.mk.inj (Prod.mk.inj ran).1).1.symm

/-- Two frames of RAM and two swap slots. -/
def tight : Options := { config := { ramSize := 512, swapSizes := [512] } }

/-- A program with a page too many for RAM, which frees nothing and fails once. -/
def hoarder : ProgramFile :=
  ⟨"hoarder", .ok "3 6\nalloc 768 0\nwrite 7 0 0\nwrite 8 0 256\nread 0 512 1\nread 3 0 1\nread 0 0 2\n"⟩

def hoarding : Program where
  priority := 3
  code := [.alloc 768 0, .write 7 0 0, .write 8 0 256, .read 0 512 1, .read 3 0 1, .read 0 0 2]

/-- A program that writes to RAM past all pages. -/
def striker : ProgramFile := ⟨"striker", .ok "1 1\nsyscall 17 5 0 9\n"⟩

def striking : Program where
  priority := 1
  code := [.syscall 17 5 0 9]

private theorem read_hoarder : read hoarder = .ok hoarding := by rfl

private theorem read_striker : read striker = .ok striking := by rfl

private theorem order_of_tight : order [⟨1, hoarding⟩, ⟨2, striking⟩] = [⟨2, striking⟩, ⟨1, hoarding⟩] :=
  order_eq_of_pairwise (by decide) (.swap ..) (by simp [Job.Before, hoarding, striking])

private theorem reports_of_tight : (run FlatTable tight [hoarder, striker]).reports =
    [⟨2, ⟨1, 0⟩, ⟨0, 0, 0, 0⟩, 0, #v[0, 0, 0, 0, 0, 0, 0, 0, 0, 0]⟩,
      ⟨1, ⟨6, 1⟩, ⟨768, 768, 0, 0⟩, 2, #v[0, 0, 7, 0, 0, 0, 0, 0, 0, 0]⟩] := by
  -- Sorting does not compute, so that it is done first.
  simp only [run, show tight.config.build = .ok _ from rfl, runOn, load_cons read_hoarder, load_cons read_striker,
    bind, EStateM.bind]
  simp only [load, pure, EStateM.pure, complete, Nat.reduceAdd, order_of_tight]
  decide +kernel

/-- The hoarder runs second, on frames of which one was struck, and reports what it reports alone. -/
theorem run_as_alone_of_tight : tight.config.validate = .ok () ∧ read hoarder = .ok hoarding ∧
    read striker = .ok striking ∧ (run FlatTable tight [hoarder, striker]).reports.map RunReport.pid = [2, 1] ∧
    ∃ own, (run FlatTable tight [hoarder]).reports = [own] ∧ own.summary = ⟨6, 1⟩ ∧ own.usage = ⟨768, 768, 0, 0⟩ ∧
      own.resident = 2 ∧ own.registers = #v[0, 0, 7, 0, 0, 0, 0, 0, 0, 0] := by
  have valid : tight.config.validate = .ok () := rfl
  have parsed : List.Forall₂ (fun file program => read file = .ok program) [hoarder, striker] [hoarding, striking] :=
    .cons read_hoarder (.cons read_striker .nil)
  obtain ⟨-, -, -, -, reported⟩ := run_as_alone valid (by decide) parsed
  rw [show jobsFrom 1 [hoarding, striking] = [⟨1, hoarding⟩, ⟨2, striking⟩] from rfl, order_of_tight,
    reports_of_tight] at reported
  obtain ⟨-, reported⟩ := List.forall₂_cons.mp reported
  obtain ⟨own, ran, same⟩ := (List.forall₂_cons.mp reported).1.alone tight hoarder rfl read_hoarder
  refine ⟨valid, read_hoarder, read_striker, ?_, own, ran, same.summary, same.usage, same.resident, same.registers rfl⟩
  rw [reports_of_tight]
  rfl

end Simulation

end DemandPaging
