import DemandPaging.Kernel
import DemandPaging.Proofs.Scheduling

/-! # The processes of a kernel

The processes of a kernel own spaces that share one machine, as the spaces of a host do: the processes in the
order in which they are searched are the spaces in the order of their numbers. So custody over the spaces of a
host is custody over the processes of a kernel. It does not depend on the order, since no home is named twice,
so a process may move from queue to queue; and an operation on the memory of a process is one on the space
whose number is the place of the first process with that id.
-/

namespace DemandPaging

namespace ProcessQueue

variable {σ : Type} {pid : Nat} {memory : σ}

theorem replace?_append (first second : ProcessQueue σ) :
    replace? pid memory (first ++ second) =
      match replace? pid memory first with
      | some next => some (next ++ second)
      | none => (replace? pid memory second).map (first ++ ·) := by
  induction first with
  | nil => simp only [List.nil_append, replace?, Option.map_id']
  | cons process rest ih =>
    rw [List.cons_append, replace?, replace?, ih]
    by_cases same : process.pid = pid
    · simp only [same, if_true, List.cons_append]
    · simp only [same, if_false]
      cases replace? pid memory rest with
      | some next => rfl
      | none => cases replace? pid memory second <;> rfl

/-- The process replaced is the first one with the id. -/
theorem replace?_of_first {before after : List (Process σ)} {process : Process σ} (named : process.pid = pid)
    (first : ∀ other ∈ before, other.pid ≠ pid) :
    replace? pid memory (before ++ process :: after) = some (before ++ { process with memory } :: after) := by
  induction before with
  | nil => rw [List.nil_append, replace?, if_pos named, List.nil_append]
  | cons head rest ih =>
    rw [List.forall_mem_cons] at first
    rw [List.cons_append, replace?, if_neg first.1, ih first.2]
    rfl

/-- What the place of a process in a queue shows besides its memory. -/
def tags (queue : ProcessQueue σ) : List (Nat × Nat) := queue.map fun process => (process.pid, process.priority)

theorem tags_of_replace? {queue next : ProcessQueue σ} (replaced : replace? pid memory queue = some next) :
    next.tags = queue.tags := by
  induction queue generalizing next with
  | nil => contradiction
  | cons process rest ih =>
    unfold replace? at replaced
    split at replaced
    · obtain rfl := Option.some.inj replaced
      rfl
    · obtain ⟨others, inside, rfl⟩ := Option.map_eq_some_iff.mp replaced
      exact congrArg ((process.pid, process.priority) :: ·) (ih inside)

end ProcessQueue

namespace Scheduler

variable {σ : Type} {scheduler next : Scheduler σ} {process : Process σ} {pid : Nat} {memory : σ}

theorem flatten_replaceFirst {queues : List (ProcessQueue σ)} {next : List (Process σ)}
    (replaced : ProcessQueue.replace? pid memory queues.flatten = some next) :
    (replaceFirst pid memory queues).flatten = next := by
  induction queues generalizing next with
  | nil => contradiction
  | cons queue queues ih =>
    rw [List.flatten_cons, ProcessQueue.replace?_append] at replaced
    unfold replaceFirst
    cases found : queue.replace? pid memory with
    | some queue =>
      rw [found] at replaced
      exact Option.some.inj replaced
    | none =>
      rw [found] at replaced
      obtain ⟨others, inside, rfl⟩ := Option.map_eq_some_iff.mp replaced
      exact congrArg (queue ++ ·) (ih inside)

theorem tags_replaceFirst (queues : List (ProcessQueue σ)) :
    (replaceFirst pid memory queues).map ProcessQueue.tags = queues.map ProcessQueue.tags := by
  induction queues with
  | nil => rfl
  | cons queue queues ih =>
    unfold replaceFirst
    cases found : queue.replace? pid memory with
    | some next => rw [List.map_cons, List.map_cons, ProcessQueue.tags_of_replace? found]
    | none => rw [List.map_cons, List.map_cons, ih]

/-- Who is where, queue by queue. -/
def places (scheduler : Scheduler σ) : List (List (Nat × Nat)) := scheduler.queues.map ProcessQueue.tags

theorem queues_replace (scheduler : Scheduler σ) (pid : Nat) (memory : σ) :
    (scheduler.replace pid memory).queues = replaceFirst pid memory scheduler.queues := by
  unfold replace
  simp only [queues, replaceFirst]
  cases scheduler.running.replace? pid memory with
  | some running => rfl
  | none =>
    cases scheduler.ready.replace? pid memory with
    | some ready => rfl
    | none => rfl

theorem places_replace (scheduler : Scheduler σ) (pid : Nat) (memory : σ) :
    (scheduler.replace pid memory).places = scheduler.places := by
  rw [places, queues_replace, tags_replaceFirst, places]

/-- The first process with an id, by its place among all. -/
structure Place (scheduler : Scheduler σ) (pid : Nat) (process : Process σ) (number : Nat) : Prop where
  found : scheduler.processes[number]? = some process
  named : process.pid = pid
  first : ∀ other ∈ scheduler.processes.take number, other.pid ≠ pid

theorem place_of_find? (found : scheduler.find? pid = some process) :
    ∃ number, scheduler.Place pid process number ∧ ∀ memory,
      (scheduler.replace pid memory).processes = scheduler.processes.set number { process with memory } := by
  have search : scheduler.processes.find? (fun process => process.pid == pid) = some process := by
    rw [processes, List.find?_flatten]
    exact found
  obtain ⟨named, before, after, split, first⟩ := List.find?_eq_some_iff_append.mp search
  have pid_eq : process.pid = pid := beq_iff_eq.mp named
  have others (other : Process σ) (member : other ∈ before) : other.pid ≠ pid := by
    intro same
    have away := first other member
    simp only [same, BEq.rfl, Bool.not_true, Bool.false_eq_true] at away
  refine ⟨before.length, ⟨?_, pid_eq, ?_⟩, fun memory => ?_⟩
  · rw [split, List.getElem?_append_right le_rfl, Nat.sub_self, List.getElem?_cons_zero]
  · rw [split, List.take_left]
    exact others
  · have replaced : (scheduler.replace pid memory).processes = before ++ { process with memory } :: after := by
      rw [processes, queues_replace]
      apply flatten_replaceFirst
      rw [← processes, split]
      exact ProcessQueue.replace?_of_first pid_eq others
    rw [replaced, split, List.set_append_right _ _ le_rfl, Nat.sub_self, List.set_cons_zero]

/-- Only the process at one place has another memory. -/
theorem getElem?_of_replaced {number other : Nat} {kin : Process σ}
    (found : scheduler.processes[number]? = some process)
    (replaced : next.processes = scheduler.processes.set number { process with memory })
    (present : scheduler.processes[other]? = some kin) :
    (other = number ∧ kin = process ∧ next.processes[other]? = some { process with memory }) ∨
      (other ≠ number ∧ next.processes[other]? = some kin) := by
  rw [replaced]
  by_cases same : other = number
  · subst same
    have bound := (List.getElem?_eq_some_iff.mp found).1
    exact .inl ⟨rfl, Option.some.inj (present.symm.trans found), List.getElem?_set_self bound⟩
  · exact .inr ⟨same, (List.getElem?_set_ne (Ne.symm same)).trans present⟩

theorem perm_enroll (scheduler : Scheduler σ) (process : Process σ) :
    (scheduler.enroll process).processes.Perm (process :: scheduler.processes) := by
  show (scheduler.running ++ ((scheduler.ready ++ [process]) ++ scheduler.buckets.flatten)).Perm
    (process :: (scheduler.running ++ (scheduler.ready ++ scheduler.buckets.flatten)))
  rw [List.append_assoc, List.singleton_append]
  exact (List.perm_middle.append_left scheduler.running).trans List.perm_middle

/-- Without buckets there is no place for a process. -/
theorem perm_enrollByPriority (scheduler : Scheduler σ) (process : Process σ) :
    (scheduler.enrollByPriority process).processes.Perm (process :: scheduler.processes) ∨
      (scheduler.enrollByPriority process).processes = scheduler.processes := by
  by_cases bound : scheduler.bucketOf process.priority < scheduler.buckets.length
  · have bucketed := flatten_modify_enqueue bound process
    refine .inl ?_
    exact ((bucketed.append_left scheduler.ready).trans List.perm_middle).append_left scheduler.running |>.trans
      List.perm_middle
  · refine .inr ?_
    show (scheduler.running :: scheduler.ready :: scheduler.buckets.modify _ _).flatten = _
    rw [List.modify_eq_self (Nat.le_of_not_lt bound)]
    rfl

theorem perm_start? (started : scheduler.start? pid = some (process, next)) :
    next.processes.Perm scheduler.processes := by
  have queued (running others : ProcessQueue σ) :
      (running.enqueue process ++ others).Perm (running ++ (process :: others)) := by
    rw [ProcessQueue.enqueue, List.append_assoc, List.singleton_append]
  unfold start? at started
  cases purged : scheduler.ready.purge? pid with
  | some pair =>
    rw [purged] at started
    obtain ⟨rfl, rfl⟩ := Prod.mk.inj (Option.some.inj started)
    obtain ⟨-, perm⟩ := ProcessQueue.purge?_eq_some purged
    refine (queued scheduler.running _).trans (List.Perm.append_left scheduler.running ?_)
    exact (perm.append_right scheduler.buckets.flatten).symm
  | none =>
    rw [purged] at started
    obtain ⟨⟨found, buckets⟩, inside, same⟩ := Option.map_eq_some_iff.mp started
    obtain ⟨rfl, rfl⟩ := Prod.mk.inj same
    obtain ⟨-, perm, -⟩ := purgeFirst?_eq_some inside
    refine (queued scheduler.running _).trans (List.Perm.append_left scheduler.running ?_)
    exact List.perm_middle.symm.trans (perm.symm.append_left scheduler.ready)

theorem perm_finish? (finished : scheduler.finish? pid = some (process, next)) :
    scheduler.processes.Perm (process :: next.processes) := by
  obtain ⟨⟨found, running⟩, purged, same⟩ := Option.map_eq_some_iff.mp finished
  obtain ⟨rfl, rfl⟩ := Prod.mk.inj same
  exact (ProcessQueue.purge?_eq_some purged).2.append_right _

end Scheduler

/-- Spaces that share a machine: each has what it names, and no home is named twice. -/
structure Machine.Lodges {T : Type} [PageTable T] [LawfulTable T] (machine : Machine) (spaces : List (Space T)) :
    Prop where
  sound : machine.devices.Sound
  formed : ∀ space ∈ spaces, LawfulTable.WellFormed space.table
  laid : ∀ space ∈ spaces, space.Laid machine.devices.geometry
  inUse : ∀ space ∈ spaces, ∀ page home, Space.home? (PageTable.lookup space.table page) = some home →
    machine.devices.InUse home
  unshared : ∀ space ∈ spaces, ∀ page other home, Space.home? (PageTable.lookup space.table page) = some home →
    Space.home? (PageTable.lookup space.table other) = some home → page = other
  apart : spaces.Pairwise fun one other => ∀ page place home,
    Space.home? (PageTable.lookup one.table page) = some home →
      Space.home? (PageTable.lookup other.table place) ≠ some home

namespace Machine.Lodges

variable {T : Type} [PageTable T] [LawfulTable T] {machine : Machine} {spaces : List (Space T)}

theorem perm {others : List (Space T)} (lodges : machine.Lodges spaces) (perm : others.Perm spaces) :
    machine.Lodges others where
  sound := lodges.sound
  formed space member := lodges.formed space (perm.mem_iff.mp member)
  laid space member := lodges.laid space (perm.mem_iff.mp member)
  inUse space member := lodges.inUse space (perm.mem_iff.mp member)
  unshared space member := lodges.unshared space (perm.mem_iff.mp member)
  apart := by
    refine (perm.pairwise_iff ?_).mpr lodges.apart
    intro one other apart page place home named same
    exact apart place page home same named

theorem tail {space : Space T} (lodges : machine.Lodges (space :: spaces)) : machine.Lodges spaces where
  sound := lodges.sound
  formed other member := lodges.formed other (List.mem_cons_of_mem _ member)
  laid other member := lodges.laid other (List.mem_cons_of_mem _ member)
  inUse other member := lodges.inUse other (List.mem_cons_of_mem _ member)
  unshared other member := lodges.unshared other (List.mem_cons_of_mem _ member)
  apart := (List.pairwise_cons.mp lodges.apart).2

/-- A space without homes finds a place on every machine. -/
theorem cons {space : Space T} (lodges : machine.Lodges spaces) (formed : LawfulTable.WellFormed space.table)
    (laid : space.Laid machine.devices.geometry)
    (blank : ∀ page, Space.home? (PageTable.lookup space.table page) = none) : machine.Lodges (space :: spaces) where
  sound := lodges.sound
  formed := List.forall_mem_cons.mpr ⟨formed, lodges.formed⟩
  laid := List.forall_mem_cons.mpr ⟨laid, lodges.laid⟩
  inUse := by
    refine List.forall_mem_cons.mpr ⟨fun page home named => ?_, lodges.inUse⟩
    rw [blank] at named
    contradiction
  unshared := by
    refine List.forall_mem_cons.mpr ⟨fun page other home named => ?_, lodges.unshared⟩
    rw [blank] at named
    contradiction
  apart := by
    refine List.pairwise_cons.mpr ⟨fun other _ page place home named => ?_, lodges.apart⟩
    rw [blank] at named
    contradiction

/-- The machine may change as long as what is named stays in use. -/
theorem of_machine (lodges : machine.Lodges spaces) {after : Machine} (sound : after.devices.Sound)
    (geometry : after.devices.geometry = machine.devices.geometry)
    (inUse : ∀ space ∈ spaces, ∀ page home, Space.home? (PageTable.lookup space.table page) = some home →
      after.devices.InUse home) : after.Lodges spaces where
  sound := sound
  formed := lodges.formed
  laid := by
    rw [geometry]
    exact lodges.laid
  inUse := inUse
  unshared := lodges.unshared
  apart := lodges.apart

end Machine.Lodges

namespace Host

variable {T : Type} [PageTable T] {machine : Machine} {spaces : List (Space T)}

omit [PageTable T] in
theorem space?_map_some (number : Nat) : (⟨machine, spaces.map some⟩ : Host T).space? number = spaces[number]? := by
  rw [space?, List.getElem?_map]
  cases spaces[number]? <;> rfl

theorem homeOf_map_some_iff {number page : Nat} {home : Home} :
    (⟨machine, spaces.map some⟩ : Host T).homeOf (number, page) = some home ↔
      ∃ space, spaces[number]? = some space ∧ Space.home? (PageTable.lookup space.table page) = some home := by
  rw [homeOf, space?_map_some]
  exact Option.bind_eq_some_iff

theorem lodges_of_custody [LawfulTable T] (custody : (⟨machine, spaces.map some⟩ : Host T).Custody) :
    machine.Lodges spaces := by
  have numbered {space : Space T} (member : space ∈ spaces) :
      ∃ number, (⟨machine, spaces.map some⟩ : Host T).space? number = some space := by
    obtain ⟨number, found⟩ := List.mem_iff_getElem?.mp member
    exact ⟨number, (space?_map_some number).trans found⟩
  have owned {number page : Nat} {space : Space T} {home : Home}
      (found : (⟨machine, spaces.map some⟩ : Host T).space? number = some space)
      (named : Space.home? (PageTable.lookup space.table page) = some home) :
      (⟨machine, spaces.map some⟩ : Host T).homeOf (number, page) = some home :=
    homeOf_map_some_iff.mpr ⟨space, (space?_map_some number).symm.trans found, named⟩
  refine ⟨custody.sound, fun space member => ?formed, fun space member => ?laid,
    fun space member page home named => ?inUse, fun space member page other home named same => ?unshared, ?apart⟩
  case formed =>
    obtain ⟨number, found⟩ := numbered member
    exact custody.formed number space found
  case laid =>
    obtain ⟨number, found⟩ := numbered member
    exact custody.laid number space found
  case inUse =>
    obtain ⟨number, found⟩ := numbered member
    exact custody.inUse _ home (owned found named)
  case unshared =>
    obtain ⟨number, found⟩ := numbered member
    exact (Prod.mk.inj (custody.unshared _ _ home (owned found named) (owned found same))).2
  case apart =>
    rw [List.pairwise_iff_getElem]
    intro number other bound within before page place home named same
    have numbers := custody.unshared (number, page) (other, place) home
      (homeOf_map_some_iff.mpr ⟨_, List.getElem?_eq_getElem bound, named⟩)
      (homeOf_map_some_iff.mpr ⟨_, List.getElem?_eq_getElem within, same⟩)
    exact Nat.ne_of_lt before (Prod.mk.inj numbers).1

theorem custody_of_lodges [LawfulTable T] (lodges : machine.Lodges spaces) :
    (⟨machine, spaces.map some⟩ : Host T).Custody := by
  have listed {number : Nat} {space : Space T}
      (found : (⟨machine, spaces.map some⟩ : Host T).space? number = some space) : space ∈ spaces :=
    List.mem_of_getElem? ((space?_map_some number).symm.trans found)
  refine ⟨lodges.sound, fun number space found => lodges.formed space (listed found),
    fun number space found => lodges.laid space (listed found), fun index home named => ?inUse, ?unshared⟩
  case inUse =>
    obtain ⟨space, found, named⟩ := homeOf_map_some_iff.mp named
    exact lodges.inUse space (List.mem_of_getElem? found) index.2 home named
  case unshared =>
    rintro ⟨number, page⟩ ⟨other, place⟩ home named same
    obtain ⟨space, found, named⟩ := homeOf_map_some_iff.mp named
    obtain ⟨kept, present, same⟩ := homeOf_map_some_iff.mp same
    obtain ⟨bound, rfl⟩ := List.getElem?_eq_some_iff.mp found
    obtain ⟨within, rfl⟩ := List.getElem?_eq_some_iff.mp present
    have apart := List.pairwise_iff_getElem.mp lodges.apart
    rcases Nat.lt_trichotomy number other with before | rfl | before
    · exact (apart number other bound within before page place home named same).elim
    · rw [lodges.unshared _ (List.getElem_mem bound) page place home named same]
    · exact (apart other number within bound before place page home same named).elim

/-- Custody over the spaces of a host, said without their numbers. -/
theorem custody_iff_lodges [LawfulTable T] :
    (⟨machine, spaces.map some⟩ : Host T).Custody ↔ machine.Lodges spaces :=
  ⟨lodges_of_custody, custody_of_lodges⟩

end Host

end DemandPaging
