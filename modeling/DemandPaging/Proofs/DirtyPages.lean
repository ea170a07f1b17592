import DemandPaging.Proofs.EagerGrowth
import DemandPaging.Proofs.PageInOrder
import DemandPaging.Proofs.ReadBack

/-! # Dirty pages

A resident page is dirty exactly if a byte of it was written since it came in last. A page comes in by a fault
or with the growth of an area, and it is clean then; a write that succeeds makes its page dirty, also one that
had to bring the page in first. No other call on the space changes the mark of a page that stays, and no call on
another space does, so the history of a run tells which pages are dirty.
-/

namespace DemandPaging

/-- The mark of a resident page becomes dirty. -/
theorem Entry.state_markDirty {entry : Entry} {frame : Nat} {dirty : Bool} (present : entry.state = .present frame dirty) :
    entry.markDirty.state = .present frame true := by
  obtain ⟨frameOrSlot, device, spare, mark, swapped, here⟩ := entry
  cases swapped <;> cases here <;> simp_all [markDirty, state]

variable {T : Type} [PageTable T]

/-- What becomes of the marks: the pages that came in are clean, the page that was written to is dirty, and the
others are marked as before. -/
structure Remarks (before : Stage T) (come : List Nat) (written : Option Nat) (after : Stage T) : Prop where
  arrived : ∀ page ∈ come, ∃ frame,
    (after.memory.lookup page).state = .present frame (decide (written = some page))
  others : ∀ page frame dirty, page ∉ come → (after.memory.lookup page).state = .present frame dirty →
    ∃ mark, (before.memory.lookup page).state = .present frame mark ∧ dirty = (mark || decide (written = some page))

/-- A page that stayed is dirty if it was, and else if it was written to. -/
theorem Remarks.mark_eq {before after : Stage T} {come : List Nat} {written : Option Nat}
    (remarks : Remarks before come written after) {page frame place : Nat} {dirty mark : Bool} (stayed : page ∉ come)
    (present : (before.memory.lookup page).state = .present frame dirty)
    (present_then : (after.memory.lookup page).state = .present place mark) :
    mark = (dirty || decide (written = some page)) := by
  obtain ⟨old, present_before, tells⟩ := remarks.others page place mark stayed present_then
  obtain ⟨-, rfl⟩ := EntryState.present.inj (present_before.symm.trans present)
  exact tells

namespace Space

variable {before after : Stage T} {reserved : Set Home}

/-- Pages leave or stay as they are. -/
theorem remarks_of_lookup (kept : ∀ page, after.memory.lookup page = before.memory.lookup page ∨
    (after.memory.lookup page).frame? = none) : Remarks before [] none after where
  arrived := List.forall_mem_nil _
  others page frame dirty _ present := by
    rcases kept page with same | gone
    · exact ⟨dirty, same ▸ present, by simp⟩
    · rw [Entry.frame?_eq_some_iff.mpr ⟨dirty, present⟩] at gone
      contradiction

theorem remarks_of_memory (same : after.memory = before.memory) : Remarks before [] none after :=
  remarks_of_lookup fun page => .inl (by rw [same])

variable [TotalTable T]

theorem Resolved.remarks {page frame : Nat} (resolved : Resolved before reserved page frame after) :
    Remarks before (before.space.faultOn page) none after := by
  rcases resolved.change with unmoved | ⟨victim, paged⟩
  · have held : (before.memory.lookup page).frame? = some frame :=
      Memory.homeOf_eq_ram_iff.mp (unmoved.memory ▸ resolved.homeOf)
    have none : before.space.faultOn page = [] := if_neg (Option.ne_none_iff_exists'.mpr ⟨frame, held⟩)
    rw [none]
    exact remarks_of_memory unmoved.memory
  · have missing : before.space.faultOn page = [page] := if_pos paged.away
    rw [missing]
    constructor
    case arrived =>
      rw [List.forall_mem_singleton, paged.entry]
      exact ⟨frame, resolved.custody.sound.state_ofFrame (resolved.custody.inUse resolved.homeOf)⟩
    case others =>
      intro other place dirty away present
      have elsewhere : other ≠ page := fun same => away (List.mem_singleton.mpr same)
      have stays : victim ≠ some other := by
        intro same
        obtain ⟨slot, swapped⟩ := paged.swapped other same
        rw [Memory.homeOf_eq_swap_iff, present] at swapped
        contradiction
      rw [paged.others other elsewhere stays] at present
      exact ⟨dirty, present, by simp⟩

/-- The page of a write is dirty, whether or not it came in for it. -/
theorem Written.remarks {address : Nat} {value : UInt8} (written : Written before reserved address value after) :
    Remarks before (before.space.faultOn (before.devices.geometry.pageOf address))
      (some (before.devices.geometry.pageOf address)) after := by
  obtain ⟨frame, middle, resolved, lookup, -⟩ := written.marked
  have remarks := resolved.remarks
  generalize before.devices.geometry.pageOf address = target at *
  obtain ⟨mark, held⟩ := Entry.frame?_eq_some_iff.mp (Memory.homeOf_eq_ram_iff.mp resolved.homeOf)
  constructor
  case arrived =>
    intro page came
    obtain rfl : page = target := by
      unfold faultOn at came
      split at came
      · exact List.mem_singleton.mp came
      · exact (List.not_mem_nil came).elim
    rw [lookup, if_pos rfl, decide_eq_true rfl]
    exact ⟨frame, Entry.state_markDirty held⟩
  case others =>
    intro page place dirty away present
    rw [lookup] at present
    split at present
    · next same =>
      subst same
      obtain ⟨rfl, rfl⟩ := EntryState.present.inj ((Entry.state_markDirty held).symm.trans present)
      obtain ⟨old, before_present, -⟩ := remarks.others page _ _ away held
      exact ⟨old, before_present, by simp⟩
    · next other =>
      obtain ⟨old, before_present, same⟩ := remarks.others page place dirty away present
      exact ⟨old, before_present, by simp [same, Ne.symm other]⟩

theorem Extended.remarks {pages : List Nat} (extended : Extended before reserved pages after) :
    Remarks before pages none after where
  arrived := extended.mapped.clean
  others page _ dirty away present := ⟨dirty, extended.mapped.others page away ▸ present, by simp⟩

theorem RangeEvicted.remarks {gone : List Nat} (evicted : RangeEvicted before reserved gone after) :
    Remarks before [] none after :=
  remarks_of_lookup fun page => by
    by_cases left : page ∈ gone
    · obtain ⟨slot, swapped⟩ := evicted.swapped page left
      refine .inr (not_not.mp fun held => ?_)
      exact Memory.not_resident_of_swapped swapped (Memory.resident_iff.mpr held)
    · exact .inl (evicted.others page left)

theorem Stamped.remarks (stamped : Stamped before reserved after) : Remarks before [] none after :=
  remarks_of_lookup fun page => by
    by_cases homed : before.memory.homeOf page = none
    · refine .inr (not_not.mp fun held => ?_)
      obtain ⟨frame, named⟩ := Memory.resident_iff.mpr held
      rw [stamped.homeOf, homed] at named
      contradiction
    · exact .inl (stamped.homed page homed)

end Space

namespace Call

variable [TotalTable T] {stage : Stage T} {reserved : Set Home}

/-- The page that a call writes to when it succeeds. -/
def writtenPage? (call : Call) (space : Space T) (geometry : Geometry) : Option Nat :=
  (call.written? space).map fun (address, _) => geometry.pageOf address

theorem ends_remarks (custody : stage.memory.Custody reserved) (laid : stage.space.Laid stage.devices.geometry)
    (call : Call) :
    Ends call.perform
      (fun _ after => Remarks stage (call.pagesIn stage.space after.space stage.devices.geometry)
        (call.writtenPage? stage.space stage.devices.geometry) after)
      (fun _ after => Remarks stage [] none after) stage := by
  apply (ends_done custody laid call).mono
  · intro _ after done
    cases done with
    | allocated regrown extended | grown regrown extended =>
      rw [pagesIn, regrown.reshapes.grownPages_eq]
      exact extended.remarks
    | released extended | created extended => exact extended.remarks
    | resolved resolved => exact resolved.remarks
    | read named resolved =>
      simp only [pagesIn, named]
      exact resolved.remarks
    | written named written =>
      simp only [pagesIn, writtenPage?, written?, named, Option.map_some]
      exact written.remarks
    | evicted evicted => exact evicted.remarks
    | stamped stamped => exact stamped.remarks
    | looked looks unmoved =>
      rw [pagesIn_of_looks looks, writtenPage?, written?_of_looks looks]
      exact Space.remarks_of_memory unmoved.memory
  · intro _ after failed
    cases failed with
    | rejected rejected => exact Space.remarks_of_memory rejected.memory
    | declined declined => exact Space.remarks_of_memory declined.memory
    | stamped stamped _ => exact stamped.remarks

end Call

/-- Something that happens to a page of a space, which is known by the number of the space and its own. -/
inductive PageEvent where
  | pagedIn (index : Nat × Nat)
  | written (index : Nat × Nat)
deriving DecidableEq, Repr, Inhabited

def PageEvent.index : PageEvent → Nat × Nat
  | pagedIn index | written index => index

/-- The page has come in, and `dirty` says whether it was written to since it came in last. -/
def MarkedBy (history : List PageEvent) (index : Nat × Nat) (dirty : Bool) : Prop :=
  ∃ before after, history = before ++ .pagedIn index :: after ∧ .pagedIn index ∉ after ∧
    (dirty = true ↔ .written index ∈ after)

namespace MarkedBy

variable {history more : List PageEvent} {index : Nat × Nat} {dirty : Bool}

/-- What happens to other pages does not matter. -/
theorem elsewhere (marked : MarkedBy history index dirty) (away : ∀ event ∈ more, event.index ≠ index) :
    MarkedBy (history ++ more) index dirty := by
  obtain ⟨before, after, rfl, last, tells⟩ := marked
  refine ⟨before, after ++ more, by rw [List.append_assoc, List.cons_append], ?_, ?_⟩
  · rw [List.mem_append, not_or]
    exact ⟨last, fun member => away _ member rfl⟩
  · rw [tells, List.mem_append, or_iff_left]
    exact fun member => away _ member rfl

theorem pageIn (history : List PageEvent) (index : Nat × Nat) : MarkedBy (history ++ [.pagedIn index]) index false :=
  ⟨history, [], rfl, List.not_mem_nil, by simp⟩

/-- Pages come in one after the other, and this one is clean or comes in too. -/
theorem pageIns {come : List (Nat × Nat)} (clean : index ∈ come ∨ MarkedBy history index false) :
    MarkedBy (history ++ come.map .pagedIn) index false := by
  induction come generalizing history with
  | nil =>
    rw [List.map_nil, List.append_nil]
    exact clean.resolve_left List.not_mem_nil
  | cons first rest ih =>
    rw [List.map_cons, List.append_cons]
    apply ih
    by_cases same : index = first
    · exact .inr (same ▸ pageIn history first)
    · rcases clean with member | marked
      · exact .inl ((List.mem_cons.mp member).resolve_left same)
      · refine .inr (marked.elsewhere fun event single => ?_)
        rw [List.mem_singleton.mp single]
        exact Ne.symm same

theorem write (marked : MarkedBy history index dirty) : MarkedBy (history ++ [.written index]) index true := by
  obtain ⟨before, after, rfl, last, -⟩ := marked
  refine ⟨before, after ++ [.written index], by rw [List.append_assoc, List.cons_append], ?_, ?_⟩
  · rw [List.mem_append, not_or, List.mem_singleton]
    exact ⟨last, PageEvent.noConfusion⟩
  · exact iff_of_true rfl (List.mem_append_right _ (List.mem_singleton_self _))

end MarkedBy

/-- The marks after a call, by the history with its page-ins and its write. -/
theorem Remarks.markedBy {before after : Stage T} {come : List Nat} {written : Option Nat}
    (remarks : Remarks before come written after) {history : List PageEvent} {number : Nat}
    (marked : ∀ page frame dirty, (before.memory.lookup page).state = .present frame dirty →
      MarkedBy history (number, page) dirty)
    {page frame : Nat} {dirty : Bool} (present : (after.memory.lookup page).state = .present frame dirty) :
    MarkedBy (history ++ (come.map fun page => (number, page)).map .pagedIn ++
      (written.map fun page => .written (number, page)).toList) (number, page) dirty := by
  have paged : ∃ mark, MarkedBy (history ++ (come.map fun page => (number, page)).map .pagedIn) (number, page) mark ∧
      dirty = (mark || decide (written = some page)) := by
    by_cases came : page ∈ come
    · obtain ⟨place, clean⟩ := remarks.arrived page came
      obtain ⟨-, rfl⟩ := EntryState.present.inj (clean.symm.trans present)
      exact ⟨false, .pageIns (.inl (List.mem_map_of_mem came)), (Bool.false_or _).symm⟩
    · obtain ⟨mark, old, same⟩ := remarks.others page frame dirty came present
      refine ⟨mark, (marked page frame mark old).elsewhere fun event member => ?_, same⟩
      obtain ⟨_, inside, rfl⟩ := List.mem_map.mp member
      obtain ⟨other, arrived, rfl⟩ := List.mem_map.mp inside
      rintro same
      exact came ((Prod.mk.inj same).2 ▸ arrived)
  obtain ⟨mark, marked_then, rfl⟩ := paged
  cases written with
  | none =>
    rw [Option.map_none, Option.toList_none, List.append_nil, decide_eq_false (Option.some_ne_none _).symm, Bool.or_false]
    exact marked_then
  | some target =>
    rw [Option.map_some, Option.toList_some]
    by_cases same : target = page
    · rw [same, decide_eq_true rfl, Bool.or_true]
      exact marked_then.write
    · rw [decide_eq_false fun equal => same (Option.some.inj equal), Bool.or_false]
      refine marked_then.elsewhere fun event single => ?_
      rw [List.mem_singleton.mp single]
      exact fun equal => same (Prod.mk.inj equal).2

namespace Host

/-- What one step does to pages: the page-ins of a call that succeeds, and then its write. -/
def pageEventsOf (host : Host StandardTable) (operation : Operation) : List PageEvent :=
  (host.pageInsOf operation).map .pagedIn ++ (host.writesOf operation).map fun write =>
    .written (write.number, host.machine.devices.geometry.pageOf write.address)

/-- What a run does to pages, the first event first. -/
def pageEvents (host : Host StandardTable) (run : List Operation) : List PageEvent := host.history pageEventsOf run

variable {host : Host StandardTable} {history : List PageEvent} {number : Nat} {space : Space StandardTable}

theorem pageEventsOf_called {call : Call} {outcome : Except MemoryError Answer} {after : Stage StandardTable}
    (found : host.space? number = some space)
    (ran : onStage call.perform (host.stage space) = (outcome, after)) :
    host.pageEventsOf (.call number call) =
      ((if outcome.isOk then call.pagesIn space after.space host.machine.devices.geometry else []).map
        fun page => (number, page)).map .pagedIn ++
      ((if outcome.isOk then call.writtenPage? space host.machine.devices.geometry else none).map
        fun page => .written (number, page)).toList := by
  rw [pageEventsOf, pageInsOf_called found ran, writesOf_called found ran, Call.writtenPage?]
  cases outcome with
  | error reason => rfl
  | ok answer =>
    simp only [Except.isOk, Except.toBool, if_true]
    cases call.written? space <;> rfl

/-- Only a call on a space does something to its pages. -/
theorem call_of_mem_pageEventsOf {operation : Operation} {event : PageEvent}
    (member : event ∈ host.pageEventsOf operation) : ∃ call, operation = .call event.index.1 call := by
  rcases List.mem_append.mp member with came | written
  · obtain ⟨index, inside, rfl⟩ := List.mem_map.mp came
    exact call_of_mem_pageInsOf inside
  · obtain ⟨write, inside, rfl⟩ := List.mem_map.mp written
    obtain ⟨call, _, same, -⟩ := call_of_mem_writesOf inside
    exact ⟨call, same⟩

theorem Custody.remarks (custody : host.Custody) {call : Call} {outcome : Except MemoryError Answer}
    {after : Stage StandardTable} (found : host.space? number = some space)
    (ran : onStage call.perform (host.stage space) = (outcome, after)) :
    Remarks (host.stage space)
      (if outcome.isOk then call.pagesIn space after.space host.machine.devices.geometry else [])
      (if outcome.isOk then call.writtenPage? space host.machine.devices.geometry else none) after := by
  have ends := call.ends_remarks (custody.stage found) (custody.laid number space found)
  rcases onStage_of_ends ends with ⟨answer, _, same, remarks⟩ | ⟨reason, _, same, remarks⟩
  · obtain ⟨rfl, rfl⟩ := Prod.mk.inj (same.symm.trans ran)
    exact remarks
  · obtain ⟨rfl, rfl⟩ := Prod.mk.inj (same.symm.trans ran)
    exact remarks

/-- The marks of all resident pages are those that a history tells. -/
def MarkedBy (host : Host StandardTable) (history : List PageEvent) : Prop :=
  ∀ number space page frame dirty, host.space? number = some space →
    (PageTable.lookup space.table page).state = .present frame dirty →
      DemandPaging.MarkedBy history (number, page) dirty

theorem MarkedBy.step (marked : host.MarkedBy history) (custody : host.Custody) (operation : Operation) :
    (host.step operation).MarkedBy (history ++ host.pageEventsOf operation) := by
  intro number space page frame dirty there present
  cases custody.origin there with
  | kept found uncalled =>
    refine (marked number space page frame dirty found present).elsewhere ?_
    rintro event member same
    obtain ⟨call, called⟩ := call_of_mem_pageEventsOf member
    rw [same] at called
    exact uncalled call called
  | called found ran =>
    rw [pageEventsOf_called found ran, ← List.append_assoc]
    exact (custody.remarks found ran).markedBy (fun page frame dirty => marked number _ page frame dirty found) present
  | @added populate kind new =>
    rw [show PageTable.lookup (Space.ofTable populate kind.empty).table page = .zero from
      StandardTable.lookup_empty kind page, Entry.state_zero] at present
    contradiction

variable {config : MemoryConfig} {machine : Machine}

theorem markedBy_after (built : config.build = .ok machine) (word : config.ramSize < Word.limit)
    (run : List Operation) : ((start machine).after run).MarkedBy ((start machine).pageEvents run) := by
  induction run using List.reverseRecOn with
  | nil =>
    intro number space page frame dirty found
    rw [after_nil, space?_start] at found
    contradiction
  | append_singleton run operation ih =>
    rw [after_concat, pageEvents, history_concat]
    exact ih.step (custody_after built word run) operation

/-- A call can bring in a page that is resident only if it grows an area over it. -/
theorem grown_of_mem_pagesIn {call : Call} {before after : Space StandardTable} {geometry : Geometry}
    {page frame : Nat} (held : (PageTable.lookup before.table page).frame? = some frame)
    (came : page ∈ call.pagesIn before after geometry) :
    ∃ id, call.grows? = some id ∧ page ∈ before.grownPages after geometry id := by
  have resident (target : Nat) : page ∉ before.faultOn target := by
    unfold Space.faultOn
    split
    · next away =>
      rw [List.mem_singleton]
      rintro rfl
      rw [away] at held
      contradiction
    · exact List.not_mem_nil
  cases call with
  | allocate id _ _ => exact ⟨id, rfl, came⟩
  | grow id _ => exact ⟨id, rfl, came⟩
  | resolve target => exact absurd came (resident target)
  | readByte id offset | writeByte id offset _ =>
    simp only [Call.pagesIn] at came
    split at came
    · exact absurd came (resident _)
    · exact (List.not_mem_nil came).elim
  | _ => exact (List.not_mem_nil came).elim

/-- The mark of a page that stays is changed only by a call on its space that succeeds, and either writes to the
page or grows an area over it. -/
theorem Custody.mark_changed (custody : host.Custody) {operation : Operation} {next : Space StandardTable}
    {page frame place : Nat} {dirty mark : Bool} (found : host.space? number = some space)
    (there : (host.step operation).space? number = some next)
    (present : (PageTable.lookup space.table page).state = .present frame dirty)
    (present_then : (PageTable.lookup next.table page).state = .present place mark) (changed : mark ≠ dirty) :
    ∃ call answer, operation = .call number call ∧ host.answer? number call = some (.ok answer) ∧
      (call.writtenPage? space host.machine.devices.geometry = some page ∨
        ∃ id, call.grows? = some id ∧ page ∈ space.grownPages next host.machine.devices.geometry id) := by
  cases custody.origin there with
  | kept kept _ =>
    obtain rfl := Option.some.inj (kept.symm.trans found)
    obtain ⟨-, rfl⟩ := EntryState.present.inj (present.symm.trans present_then)
    exact absurd rfl changed
  | @called call before outcome after same ran =>
    obtain rfl := Option.some.inj (same.symm.trans found)
    have remarks := custody.remarks found ran
    have answered : host.answer? number call = some outcome := by rw [answer?, run_eq found, ran]
    have held := Entry.frame?_eq_some_iff.mpr ⟨dirty, present⟩
    cases outcome with
    | error reason =>
      have still : Remarks (host.stage before) [] none after := remarks
      have tells := still.mark_eq List.not_mem_nil present present_then
      rw [decide_eq_false (Option.some_ne_none page).symm, Bool.or_false] at tells
      exact absurd tells changed
    | ok answer =>
      have made : Remarks (host.stage before) (call.pagesIn before after.space host.machine.devices.geometry)
        (call.writtenPage? before host.machine.devices.geometry) after := remarks
      refine ⟨call, answer, rfl, answered, ?_⟩
      by_cases came : page ∈ call.pagesIn before after.space host.machine.devices.geometry
      · exact .inr (grown_of_mem_pagesIn held came)
      · refine .inl (by_contra fun unwritten => ?_)
        have tells := made.mark_eq came present present_then
        rw [decide_eq_false unwritten, Bool.or_false] at tells
        exact changed tells
  | added new => exact (Nat.ne_of_lt (lt_length found) new).elim

/-- In every state of every run, a resident page is dirty exactly if it was written to since it came in last, and
no other step than such a write or a new mapping of the page changes its mark. -/
theorem dirty_iff_written_since_pageIn (built : config.build = .ok machine) (word : config.ramSize < Word.limit)
    (run : List Operation) :
    (∀ number space page frame dirty, ((start machine).after run).space? number = some space →
      (PageTable.lookup space.table page).state = .present frame dirty →
        ∃ before after, (start machine).pageEvents run = before ++ .pagedIn (number, page) :: after ∧
          .pagedIn (number, page) ∉ after ∧ (dirty = true ↔ .written (number, page) ∈ after)) ∧
    ∀ operation number space next page frame place dirty mark,
      ((start machine).after run).space? number = some space →
      (((start machine).after run).step operation).space? number = some next →
      (PageTable.lookup space.table page).state = .present frame dirty →
      (PageTable.lookup next.table page).state = .present place mark → mark ≠ dirty →
        ∃ call answer, operation = .call number call ∧
          ((start machine).after run).answer? number call = some (.ok answer) ∧
          (call.writtenPage? space ((start machine).after run).machine.devices.geometry = some page ∨
            ∃ id, call.grows? = some id ∧
              page ∈ space.grownPages next ((start machine).after run).machine.devices.geometry id) :=
  ⟨markedBy_after built word run, fun _ _ _ _ _ _ _ _ _ found there present present_then changed =>
    (custody_after built word run).mark_changed found there present present_then changed⟩

/-- A page that was written to and evicted comes back clean, and the next write to it changes that. -/
theorem dirty_iff_written_since_pageIn_of_rotating :
    ∃ machine space next, MemoryConfig.cramped.build = .ok machine ∧
      (start machine).pageEvents rotatingRun =
        [.pagedIn (0, 0), .written (0, 0), .pagedIn (0, 1), .written (0, 1), .pagedIn (0, 0)] ∧
      ((start machine).after rotatingRun).space? 0 = some space ∧
      (PageTable.lookup space.table 0).state = .present 0 false ∧
      (∃ before after, (start machine).pageEvents rotatingRun = before ++ .pagedIn (0, 0) :: after ∧
        .pagedIn (0, 0) ∉ after ∧ (false = true ↔ .written (0, 0) ∈ after)) ∧
      (((start machine).after rotatingRun).step (.call 0 (.writeByte 0 0 9))).space? 0 = some next ∧
      (PageTable.lookup next.table 0).state = .present 0 true ∧
      ∃ call answer, .call 0 (.writeByte 0 0 9) = Operation.call 0 call ∧
        ((start machine).after rotatingRun).answer? 0 call = some (.ok answer) ∧
        (call.writtenPage? space ((start machine).after rotatingRun).machine.devices.geometry = some 0 ∨
          ∃ id, call.grows? = some id ∧
            0 ∈ space.grownPages next ((start machine).after rotatingRun).machine.devices.geometry id) := by
  have built : MemoryConfig.cramped.build = .ok _ := rfl
  obtain ⟨tells, changes⟩ := dirty_iff_written_since_pageIn built (by decide) rotatingRun
  exact ⟨_, _, _, rfl, by decide +kernel, rfl, by decide +kernel, tells 0 _ 0 0 false rfl (by decide +kernel), rfl,
    by decide +kernel, changes (.call 0 (.writeByte 0 0 9)) 0 _ _ 0 0 0 false true rfl rfl (by decide +kernel)
      (by decide +kernel) (by decide)⟩

end Host

end DemandPaging
