import DemandPaging.Proofs.Disciplined

/-! # The queue in the order of page-ins

The history of a disciplined run lists its page-ins: the pages that faults brought in and those that growth
mapped at once, in the order in which they came. The queue of every space lists its present pages once each,
by the time of their last page-in. So a page that leaves for another one is the one that came in first.
-/

namespace DemandPaging

/-- When a page came in last, counted from one; zero if it never came in. -/
def pageInTime (history : List (Nat × Nat)) (index : Nat × Nat) : Nat :=
  history.length - history.reverse.idxOf index

theorem pageInTime_le (history : List (Nat × Nat)) (index : Nat × Nat) :
    pageInTime history index ≤ history.length := Nat.sub_le ..

theorem pageInTime_concat_self (history : List (Nat × Nat)) (index : Nat × Nat) :
    pageInTime (history ++ [index]) index = history.length + 1 := by
  rw [pageInTime, List.reverse_concat, List.idxOf_cons_self, List.length_append, List.length_singleton]
  rfl

theorem pageInTime_concat_of_ne {history : List (Nat × Nat)} {index other : Nat × Nat} (away : index ≠ other) :
    pageInTime (history ++ [index]) other = pageInTime history other := by
  rw [pageInTime, List.reverse_concat, List.idxOf_cons_ne _ away, List.length_append, List.length_singleton,
    Nat.succ_eq_add_one, Nat.add_sub_add_right, pageInTime]

/-- The pages of a queue have come in, one after the other. -/
structure Dated (history : List (Nat × Nat)) (number : Nat) (queue : List Nat) : Prop where
  arrived : ∀ page ∈ queue, (number, page) ∈ history
  ordered : queue.Pairwise fun one other => pageInTime history (number, one) < pageInTime history (number, other)

namespace Dated

variable {history : List (Nat × Nat)} {number : Nat} {queue fewer : List Nat}

theorem nil : Dated history number [] := ⟨List.forall_mem_nil _, .nil⟩

theorem sublist (dated : Dated history number queue) (sublist : fewer.Sublist queue) : Dated history number fewer where
  arrived page member := dated.arrived page (sublist.subset member)
  ordered := dated.ordered.sublist sublist

/-- A page-in of another page does not matter. -/
theorem elsewhere (dated : Dated history number queue) {index : Nat × Nat}
    (away : ∀ page ∈ queue, index ≠ (number, page)) : Dated (history ++ [index]) number queue where
  arrived page member := List.mem_append_left _ (dated.arrived page member)
  ordered := dated.ordered.imp_of_mem fun first second before => by
    rwa [pageInTime_concat_of_ne (away _ first), pageInTime_concat_of_ne (away _ second)]

/-- A page comes in as the newest. -/
theorem push (dated : Dated history number queue) {page : Nat} (away : page ∉ queue) :
    Dated (history ++ [(number, page)]) number (queue ++ [page]) where
  arrived other member := by
    rcases List.mem_append.mp member with old | new
    · exact List.mem_append_left _ (dated.arrived other old)
    · rw [List.mem_singleton.mp new]
      exact List.mem_append_right _ (List.mem_singleton_self _)
  ordered := by
    have distinct (other) (member : other ∈ queue) : (number, page) ≠ (number, other) := by
      rintro same
      exact away ((Prod.mk.inj same).2 ▸ member)
    refine List.pairwise_append.mpr ⟨(dated.elsewhere distinct).ordered, List.pairwise_singleton _ _, ?_⟩
    intro other old newest new
    rw [List.mem_singleton.mp new, pageInTime_concat_self, pageInTime_concat_of_ne (distinct other old)]
    exact Nat.lt_succ_of_le (pageInTime_le history _)

/-- Pages come in one after the other. -/
theorem arrive {come : List Nat} (dated : Dated history number queue) (nodup : (queue ++ come).Nodup) :
    Dated (history ++ come.map fun page => (number, page)) number (queue ++ come) := by
  induction come generalizing history queue with
  | nil => simpa using dated
  | cons page rest ih =>
    rw [List.append_cons] at nodup
    have away : page ∉ queue := fun member => by
      have first := (List.nodup_append.mp nodup).1
      exact (List.nodup_append.mp first).2.2 page member page (List.mem_singleton_self page) rfl
    rw [List.map_cons, List.append_cons, List.append_cons queue]
    exact ih (dated.push away) nodup

/-- Pages of other spaces come in. -/
theorem others {arrivals : List (Nat × Nat)} (dated : Dated history number queue)
    (away : ∀ index ∈ arrivals, index.1 ≠ number) : Dated (history ++ arrivals) number queue := by
  induction arrivals generalizing history with
  | nil => simpa using dated
  | cons first rest ih =>
    rw [List.forall_mem_cons] at away
    rw [List.append_cons]
    refine ih (dated.elsewhere fun page _ same => away.1 ?_) away.2
    rw [same]

end Dated

namespace Host

/-- The page-ins of one step: those of a call that succeeds. -/
def pageInsOf (host : Host StandardTable) : Operation → List (Nat × Nat)
  | .call number call =>
    match host.space? number, (host.step (.call number call)).space? number, host.answer? number call with
    | some before, some after, some (.ok _) =>
      (call.pagesIn before after host.machine.devices.geometry).map fun page => (number, page)
    | _, _, _ => []
  | _ => []

/-- The page-ins of a run by space and page, the first one first. -/
def pageIns (host : Host StandardTable) (run : List Operation) : List (Nat × Nat) := host.history pageInsOf run

variable {host : Host StandardTable} {history : List (Nat × Nat)} {number : Nat} {space : Space StandardTable}

theorem pageInsOf_called {call : Call} {outcome : Except MemoryError Answer} {after : Stage StandardTable}
    (found : host.space? number = some space)
    (ran : onStage call.perform (host.stage space) = (outcome, after)) :
    host.pageInsOf (.call number call) =
      (if outcome.isOk then call.pagesIn space after.space host.machine.devices.geometry else []).map
        fun page => (number, page) := by
  have answer : host.answer? number call = some outcome := by rw [answer?, run_eq found, ran]
  have next : (host.step (.call number call)).space? number = some after.space := by
    rw [step, run_eq found, ran]
    exact space?_put found after
  simp only [pageInsOf, found, next, answer]
  cases outcome <;> rfl

/-- Only a call on a space brings pages of that space in. -/
theorem call_of_mem_pageInsOf {operation : Operation} {index : Nat × Nat}
    (member : index ∈ host.pageInsOf operation) :
    ∃ call, operation = .call index.1 call := by
  cases operation with
  | call number call =>
    simp only [pageInsOf] at member
    split at member
    · obtain ⟨page, -, rfl⟩ := List.mem_map.mp member
      exact ⟨call, rfl⟩
    · exact (List.not_mem_nil member).elim
  | add populate kind => exact (List.not_mem_nil member).elim
  | drop number => exact (List.not_mem_nil member).elim
  | activate index => exact (List.not_mem_nil member).elim

/-- Every queue of a host is dated by a history. -/
def Dated (host : Host StandardTable) (history : List (Nat × Nat)) : Prop :=
  ∀ number space, host.space? number = some space → DemandPaging.Dated history number space.resident.toList

theorem Dated.step (dated : host.Dated history) (tidy : host.Tidy) {operation : Operation}
    (inside : host.InArea operation) : (host.step operation).Dated (history ++ host.pageInsOf operation) := by
  intro number space present
  cases tidy.custody.origin present with
  | kept found uncalled =>
    refine (dated number space found).others ?_
    rintro index member rfl
    obtain ⟨call, same⟩ := call_of_mem_pageInsOf member
    exact uncalled call same
  | @called call before outcome after found ran =>
    obtain ⟨⟨gone, turned, -⟩, -⟩ := tidy.turned found inside ran
    have nodup := turned.tidy.nodup
    rw [turned.resident] at nodup
    rw [pageInsOf_called found ran, turned.resident]
    exact ((dated number before found).sublist List.filter_sublist).arrive nodup
  | added new =>
    rw [show host.pageInsOf (.add _ _) = [] from rfl, List.append_nil]
    exact .nil

theorem dated_of_disciplined {config : MemoryConfig} {machine : Machine} (built : config.build = .ok machine)
    (word : config.ramSize < Word.limit) {run : List Operation} (disciplined : (start machine).Disciplined run) :
    ((start machine).after run).Tidy ∧ ((start machine).after run).Dated ((start machine).pageIns run) := by
  refine disciplined_induction (motive := fun run host => host.Tidy ∧ host.Dated ((start machine).pageIns run))
    ⟨tidy_start built word, fun number space found => ?_⟩ ?_ disciplined
  · rw [space?_start] at found
    contradiction
  · rintro run operation ⟨tidy, dated⟩ inside
    rw [after_concat, pageIns, history_concat]
    exact ⟨tidy.step inside, dated.step tidy inside⟩

/-- The queue of a space lists its present pages once each, by the time of their last page-in. -/
structure InOrder (history : List (Nat × Nat)) (number : Nat) (space : Space StandardTable) : Prop
    extends DemandPaging.Dated history number space.resident.toList where
  nodup : space.resident.toList.Nodup
  present : ∀ page, page ∈ space.resident.toList ↔
    ∃ frame dirty, (PageTable.lookup space.table page).state = .present frame dirty

/-- A page leaves its queue in a range eviction of its space, or in a call before which it was the page
that came in first of all. -/
def OldestFirst (host : Host StandardTable) (history : List (Nat × Nat)) (operation : Operation) : Prop :=
  ∀ number before after page, host.space? number = some before →
    (host.step operation).space? number = some after →
    page ∈ before.resident.toList → page ∉ after.resident.toList →
      ∃ call, operation = .call number call ∧
        (call.evicts ∨ ∀ other ∈ before.resident.toList, other ≠ page →
          pageInTime history (number, page) < pageInTime history (number, other))

theorem Tidy.inOrder (tidy : host.Tidy) (dated : host.Dated history) (found : host.space? number = some space) :
    InOrder history number space where
  toDated := dated number space found
  nodup := (tidy.spaces number space found).nodup
  present page := by
    refine ((tidy.spaces number space found).listed page).trans (exists_congr fun frame => ?_)
    rw [Memory.homeOf_eq_ram_iff, Entry.frame?_eq_some_iff]
    rfl

theorem Tidy.oldestFirst (tidy : host.Tidy) (dated : host.Dated history) {operation : Operation}
    (inside : host.InArea operation) : host.OldestFirst history operation := by
  intro number before after page found present held left
  cases tidy.custody.origin present with
  | kept kept uncalled =>
    obtain rfl := Option.some.inj (kept.symm.trans found)
    exact (left held).elim
  | @called call space outcome after same ran =>
    obtain rfl := Option.some.inj (same.symm.trans found)
    obtain ⟨⟨gone, turned, oldest⟩, -⟩ := tidy.turned found inside ran
    have went : page ∈ gone := by
      by_contra stayed
      refine left ?_
      rw [turned.resident]
      exact List.mem_append_left _ (List.mem_filter.mpr ⟨held, decide_eq_true stayed⟩)
    refine ⟨call, rfl, ?_⟩
    cases evicts : call.evicts with
    | true => exact .inl rfl
    | false =>
      obtain ⟨single, rest, queue⟩ := oldest evicts
      obtain rfl : gone = [page] := by
        obtain ⟨only, rfl⟩ := List.length_eq_one_iff.mp (single.antisymm (List.length_pos_of_mem went))
        rw [List.mem_singleton.mp went]
      have ordered := (dated number space found).ordered
      rw [← queue] at ordered ⊢
      refine .inr fun other member distinct => ?_
      exact List.rel_of_pairwise_cons ordered ((List.mem_cons.mp member).resolve_left distinct)
  | added new => exact (Nat.ne_of_lt (lt_length found) new).elim

theorem Tidy.answer?_notStale (tidy : host.Tidy) {call : Call} (inside : host.InArea (.call number call))
    (page : Nat) :
    host.answer? number call ≠ some (.error (.staleVictim page)) := by
  cases found : host.space? number with
  | none =>
    rw [answer?, run_absent found]
    exact nofun
  | some space =>
    rw [answer?, run_eq found]
    intro stale
    have notStale := (tidy.turned found inside rfl).2 _ (Option.some.inj stale)
    contradiction

variable {config : MemoryConfig} {machine : Machine}

/-- In a disciplined run every queue is in the order of page-ins, the oldest page is the one that goes, and
the queue is never found stale. -/
theorem queues_in_pageIn_order (built : config.build = .ok machine) (word : config.ramSize < Word.limit)
    {run : List Operation} (disciplined : (start machine).Disciplined run) :
    (∀ number space, ((start machine).after run).space? number = some space →
      InOrder ((start machine).pageIns run) number space) ∧
    (∀ operation, ((start machine).after run).InArea operation →
      ((start machine).after run).OldestFirst ((start machine).pageIns run) operation) ∧
    ∀ number call page, ((start machine).after run).InArea (.call number call) →
      ((start machine).after run).answer? number call ≠ some (.error (.staleVictim page)) := by
  obtain ⟨tidy, dated⟩ := dated_of_disciplined built word disciplined
  exact ⟨fun _ _ found => tidy.inOrder dated found, fun _ inside => tidy.oldestFirst dated inside,
    fun _ _ page inside => tidy.answer?_notStale inside page⟩

/-- Three pages are written to in turn on a machine of one frame. -/
def rotatingRun : List Operation :=
  [.add .onDemand (.flat 4), .call 0 (.allocate 0 0 1024), .call 0 (.writeByte 0 0 7), .call 0 (.writeByte 0 256 8),
    .call 0 (.resolve 0)]

theorem queues_in_pageIn_order_of_rotating :
    ∃ machine, MemoryConfig.cramped.build = .ok machine ∧ (start machine).Disciplined rotatingRun ∧
      (start machine).pageIns rotatingRun = [(0, 0), (0, 1), (0, 0)] ∧
      (∀ number space, ((start machine).after rotatingRun).space? number = some space →
        InOrder ((start machine).pageIns rotatingRun) number space) ∧
      (∀ operation, ((start machine).after rotatingRun).InArea operation →
        ((start machine).after rotatingRun).OldestFirst ((start machine).pageIns rotatingRun) operation) ∧
      ∀ number call page, ((start machine).after rotatingRun).InArea (.call number call) →
        ((start machine).after rotatingRun).answer? number call ≠ some (.error (.staleVictim page)) :=
  ⟨_, rfl, by decide +kernel, by decide +kernel,
    queues_in_pageIn_order (show MemoryConfig.cramped.build = .ok _ from rfl) (by decide) (by decide +kernel)⟩

end Host

end DemandPaging
