import DemandPaging.Proofs.Scheduling

/-! # Draining by urgency

Taking the most urgent process, the earliest of equals, leaves the others in their order. So the processes that
are taken one after the other until the queue is empty come in the order of a stable sort by priority, which is
the order in which a simulation runs its jobs.
-/

namespace DemandPaging

namespace ProcessQueue

variable {σ : Type} {queue rest : ProcessQueue σ} {process : Process σ}

/-- What is taken from a queue by urgency, and what is left of it. -/
inductive MostUrgent : ProcessQueue σ → Option (Process σ × ProcessQueue σ) → Prop where
  | nothing : MostUrgent [] none
  | taken {before behind : ProcessQueue σ} {process : Process σ}
    (urgent : ∀ other ∈ before, process.priority < other.priority)
    (earliest : ∀ other ∈ behind, process.priority ≤ other.priority) :
    MostUrgent (before ++ process :: behind) (some (process, before ++ behind))

theorem mostUrgent_dequeueMostUrgent? (queue : ProcessQueue σ) : MostUrgent queue queue.dequeueMostUrgent? := by
  induction queue with
  | nil => exact .nothing
  | cons process rest ih =>
    unfold dequeueMostUrgent?
    generalize ProcessQueue.dequeueMostUrgent? rest = found at ih ⊢
    cases ih with
    | nothing => exact MostUrgent.taken (List.forall_mem_nil _) (List.forall_mem_nil _)
    | @taken before behind chosen urgent earliest =>
      dsimp only
      split
      · next first =>
        refine MostUrgent.taken (List.forall_mem_nil _) fun other member => first.trans ?_
        rcases List.mem_append.mp member with ahead | later
        · exact (urgent other ahead).le
        · rcases List.mem_cons.mp later with rfl | later
          · exact le_rfl
          · exact earliest other later
      · next later =>
        have passed : ∀ other ∈ process :: before, chosen.priority < other.priority :=
          List.forall_mem_cons.mpr ⟨Nat.lt_of_not_le later, urgent⟩
        exact MostUrgent.taken passed earliest

theorem length_of_dequeueMostUrgent? (taken : queue.dequeueMostUrgent? = some (process, rest)) :
    queue.length = rest.length + 1 := by
  have urgent := mostUrgent_dequeueMostUrgent? queue
  rw [taken] at urgent
  cases urgent
  simp only [List.length_append, List.length_cons, Nat.add_assoc]

/-- The processes that are taken by urgency until none is left, the first one first. -/
def drain (queue : ProcessQueue σ) : List (Process σ) :=
  match taken : queue.dequeueMostUrgent? with
  | none => []
  | some (process, rest) =>
    have := length_of_dequeueMostUrgent? taken
    process :: drain rest
termination_by queue.length

theorem drain_nil : drain ([] : ProcessQueue σ) = [] := by
  rw [drain]
  rfl

theorem drain_of_taken (taken : queue.dequeueMostUrgent? = some (process, rest)) :
    queue.drain = process :: rest.drain := by
  rw [drain]
  split
  · next empty =>
    rw [taken] at empty
    contradiction
  · next found =>
    obtain ⟨rfl, rfl⟩ := Prod.mk.inj (Option.some.inj (taken.symm.trans found))
    rfl

/-- Taking the most urgent process first and sorting the others stably is sorting stably. -/
theorem stableSort_cons {before behind sorted : ProcessQueue σ}
    (urgent : ∀ other ∈ before, process.priority < other.priority)
    (earliest : ∀ other ∈ behind, process.priority ≤ other.priority)
    (sorts : StableSort Process.priority (before ++ behind) sorted) :
    StableSort Process.priority (before ++ process :: behind) (process :: sorted) where
  perm := (sorts.perm.cons process).trans List.perm_middle.symm
  ascending := by
    refine List.pairwise_cons.mpr ⟨fun other member => ?_, sorts.ascending⟩
    rcases List.mem_append.mp (sorts.perm.mem_iff.mp member) with ahead | later
    · exact (urgent other ahead).le
    · exact earliest other later
  stable value := by
    have others := sorts.stable value
    rw [List.filter_append] at others
    rw [List.filter_append, List.filter_cons, List.filter_cons, others]
    split
    · next level =>
      have none : before.filter (Process.priority · = value) = [] := by
        refine List.filter_eq_nil_iff.mpr fun other member => ?_
        have less := urgent other member
        rw [decide_eq_true_eq] at level ⊢
        omega
      rw [none, List.nil_append, List.nil_append]
    · rfl

theorem stableSort_drain (queue : ProcessQueue σ) : StableSort Process.priority queue queue.drain := by
  induction queue using drain.induct with
  | case1 queue empty =>
    obtain rfl := dequeueMostUrgent?_eq_none_iff.mp empty
    rw [drain_nil]
    exact ⟨.nil, .nil, fun value => rfl⟩
  | case2 queue process rest taken _ ih =>
    rw [drain_of_taken taken]
    have urgent := mostUrgent_dequeueMostUrgent? queue
    rw [taken] at urgent
    cases urgent with
    | taken urgent earliest => exact stableSort_cons urgent earliest ih

end ProcessQueue

/-- Jobs run in the order in which the queue of their processes would be drained. -/
theorem Simulation.drain_processes (populate : Populate) (jobs : List Job) :
    ProcessQueue.drain (jobs.map (Job.process populate)) = (order jobs).map (Job.process populate) :=
  have sorted := stableSort_mergeSort (fun job : Job => job.program.priority) jobs
  (ProcessQueue.stableSort_drain _).unique (StableSort.map sorted)

/-- Each call takes the most urgent process, the earliest of equals, and keeps the others in order; all calls until
none is left give the processes in the order of a stable sort by priority, in which a simulation runs its jobs. -/
theorem ProcessQueue.drained_by_urgency {σ : Type} (queue : ProcessQueue σ) :
    MostUrgent queue queue.dequeueMostUrgent? ∧ StableSort Process.priority queue queue.drain ∧
      ∀ populate jobs, drain (jobs.map (Job.process populate)) = (Simulation.order jobs).map (Job.process populate) :=
  ⟨mostUrgent_dequeueMostUrgent? queue, stableSort_drain queue, Simulation.drain_processes⟩

example : (ProcessQueue.drain [⟨1, 3, ()⟩, ⟨2, 1, ()⟩, ⟨3, 1, ()⟩, ⟨4, 2, ()⟩]).map Process.pid = [2, 3, 4, 1] := by cbv

end DemandPaging
