import DemandPaging.Proofs.ReadBack
import DemandPaging.Proofs.Twins

/-! # Spaces do not interfere

A space that asks the same of two hosts hears the same from both, whatever the other spaces do there and
whichever swap device is active, unless it is told that the devices are short of something. The two hosts
start on the same devices; where the pages of the space lie and when they move may be different from the
first fault on. What is compared all along are the stages on which the space acts: they stay twins. A step
that is not a call of the space leaves what it can tell apart as it was, and a call leads from twins to twins.
-/

namespace DemandPaging

/-- The call that an operation makes on a space, if it makes one. -/
def Operation.callOn? (number : Nat) : Operation → Option Call
  | .call other asked => if other = number then some asked else none
  | _ => none

/-- The space is neither called nor dropped. -/
def Operation.Silent (number : Nat) (operation : Operation) : Prop :=
  operation.callOn? number = none ∧ operation ≠ .drop number

theorem Operation.callOn?_eq_some_iff {number : Nat} {operation : Operation} {call : Call} :
    operation.callOn? number = some call ↔ operation = .call number call := by
  cases operation <;> simp [callOn?]

namespace Host

/-- What a space hears in one step. -/
def heardOf (number : Nat) (host : Host StandardTable) (operation : Operation) :
    List (Call × Except MemoryError Answer) :=
  match operation.callOn? number with
  | some call => ((host.answer? number call).map (call, ·)).toList
  | none => []

/-- What can be told of an answer wherever pages lie. -/
def veiled (heard : Call × Except MemoryError Answer) : Call × Except MemoryError Answer :=
  (heard.1, heard.2.map heard.1.veil)

section Silence

variable {host : Host StandardTable} {number : Nat} {space : Space StandardTable} {operation : Operation}

theorem Custody.space?_silent (custody : host.Custody) (found : host.space? number = some space)
    (silent : operation.Silent number) : (host.step operation).space? number = some space := by
  have stepped := custody.stepped operation
  generalize host.step operation = next at stepped
  cases stepped with
  | unknownCall absent => exact found
  | @called other call _ _ _ met ran =>
    have away : number ≠ other := by
      rintro rfl
      simpa [Operation.callOn?] using silent.1
    rwa [Host.put, space?_set _ _ (lt_length met), if_neg away]
  | added => rwa [space?_add, if_neg (lt_length found).ne]
  | unknownDrop absent => exact found
  | @dropped other _ after met left =>
    have away : number ≠ other := by
      rintro rfl
      exact silent.2 rfl
    rwa [Host.forget, space?_set _ _ (lt_length (space?_put met after)), if_neg away, Host.put,
      space?_set _ _ (lt_length met), if_neg away]
  | activated devices => exact found

/-- What others do is not seen. -/
theorem Custody.alike_silent (custody : host.Custody) (found : host.space? number = some space)
    (silent : operation.Silent number) : (host.stage space).Alike ((host.step operation).stage space) where
  outline := .refl _
  geometry := custody.geometry_step operation
  capacity := rfl
  blank _ := Iff.rfl
  byteAt := by
    refine custody.byteAt_kept found ?_ (custody.space?_silent found silent)
    rintro call rfl
    simpa [Operation.callOn?] using silent.1

end Silence

/-- Two hosts in custody, each with a space on whose stage the two cannot be told apart. -/
structure Twinned (size : Geometry) (limit : Nat) (number mirrored : Nat) (one other : Host StandardTable) : Prop where
  custody : one.Custody
  echoed : other.Custody
  twins : ∃ space mirror, one.space? number = some space ∧ other.space? mirrored = some mirror ∧
    (one.stage space).Twins size limit (other.stage mirror)

namespace Twinned

variable {size : Geometry} {limit number mirrored : Nat} {one other : Host StandardTable}
  (twinned : Twinned size limit number mirrored one other)
include twinned

theorem symm : Twinned size limit mirrored number other one := by
  obtain ⟨custody, echoed, space, mirror, found, met, twins⟩ := twinned
  exact ⟨echoed, custody, mirror, space, met, found, twins.symm⟩

theorem step_silent {operation : Operation} (silent : operation.Silent number) :
    Twinned size limit number mirrored (one.step operation) other := by
  obtain ⟨custody, echoed, space, mirror, found, met, twins⟩ := twinned
  have present := custody.space?_silent found silent
  have alike := custody.alike_silent found silent
  refine ⟨custody.step operation, echoed, space, mirror, present, met, ?_⟩
  exact twins.next (alike.symm.trans twins.toAlike) alike.geometry alike.capacity
    ((custody.step operation).stage present) (echoed.stage met)

/-- A call of both spaces is answered alike, unless one of them is in contention. -/
theorem step_call (call : Call) : ∃ outcome echo, one.answer? number call = some outcome ∧
    other.answer? mirrored call = some echo ∧
    ((∃ reason, (outcome = .error reason ∨ echo = .error reason) ∧ reason.isContended = true) ∨
      echo.map call.veil = outcome.map call.veil ∧
        Twinned size limit number mirrored (one.step (.call number call)) (other.step (.call mirrored call))) := by
  obtain ⟨custody, echoed, space, mirror, found, met, twins⟩ := twinned
  have laid := custody.laid number space found
  have stepped := custody.step (.call number call)
  have mirrors := echoed.step (.call mirrored call)
  have paired := Call.paired_perform twins (twins.sized ▸ laid) call
  simp only [answer?, step, run_eq found, run_eq met] at stepped mirrors ⊢
  refine ⟨_, _, rfl, rfl, ?_⟩
  unfold onStage at stepped mirrors ⊢
  generalize call.perform (one.stage space) = result at paired stepped
  generalize call.perform (other.stage mirror) = reflection at paired mirrors
  cases paired with
  | answered ended =>
    refine .inr ⟨congrArg Except.ok ended.1.symm, stepped, mirrors, _, _, ?_, ?_, ended.2⟩
    · exact space?_put found _
    · exact space?_put met _
  | failed ended =>
    refine .inr ⟨congrArg Except.error ended.1.symm, stepped, mirrors, _, _, ?_, ?_, ended.2⟩
    · exact space?_put found _
    · exact space?_put met _
  | excused contended => exact .inl ⟨_, .inl rfl, contended⟩
  | excusedOther contended => exact .inl ⟨_, .inr rfl, contended⟩

end Twinned

/-- The calls of a run on one space. -/
def calls (number : Nat) (run : List Operation) : List Call := run.filterMap (Operation.callOn? number)

/-- What a space hears in a run, with the calls that it made. -/
def heard (host : Host StandardTable) (number : Nat) (run : List Operation) :
    List (Call × Except MemoryError Answer) := host.history (heardOf number) run

section Hearing

variable {host : Host StandardTable} {number : Nat} {operation : Operation} {rest : List Operation}

theorem calls_silent (silent : operation.Silent number) : calls number (operation :: rest) = calls number rest :=
  List.filterMap_cons_none silent.1

theorem calls_call (call : Call) : calls number (.call number call :: rest) = call :: calls number rest :=
  List.filterMap_cons_some (by simp [Operation.callOn?])

theorem heard_silent (silent : operation.Silent number) :
    host.heard number (operation :: rest) = (host.step operation).heard number rest := by
  rw [heard, history, heardOf, silent.1]
  rfl

theorem heard_call {call : Call} {outcome : Except MemoryError Answer}
    (answered : host.answer? number call = some outcome) : host.heard number (.call number call :: rest) =
      (call, outcome) :: (host.step (.call number call)).heard number rest := by
  have called : (Operation.call number call).callOn? number = some call := Operation.callOn?_eq_some_iff.mpr rfl
  rw [heard, history, heardOf, called]
  simp only [answered]
  rfl

theorem silent_or_call (kept : .drop number ∉ operation :: rest) :
    operation.Silent number ∨ ∃ call, operation = .call number call := by
  cases asked : operation.callOn? number with
  | some call => exact .inr ⟨call, Operation.callOn?_eq_some_iff.mp asked⟩
  | none => exact .inl ⟨asked, fun drop => kept (drop ▸ List.mem_cons_self)⟩

end Hearing

/-- Nothing that was heard tells of contention. -/
def Calm (heard : List (Call × Except MemoryError Answer)) : Prop :=
  ∀ call reason, (call, .error reason) ∈ heard → reason.isContended = false

/-- What two spaces hear is the same where it can be told, and the hosts they leave behind are twinned again. -/
theorem Twinned.heard_eq {size : Geometry} {limit number mirrored : Nat} {one other : Host StandardTable}
    (twinned : Twinned size limit number mirrored one other) {run echo : List Operation}
    (kept : .drop number ∉ run) (spared : .drop mirrored ∉ echo) (same : calls mirrored echo = calls number run)
    (calm : Calm (one.heard number run)) (still : Calm (other.heard mirrored echo)) :
    (one.heard number run).map Prod.fst = calls number run ∧
      (other.heard mirrored echo).map veiled = (one.heard number run).map veiled ∧
      Twinned size limit number mirrored (one.after run) (other.after echo) := by
  -- The silent steps of either side are taken alone; a call is taken on both sides at once.
  induction run generalizing one other echo with
  | nil =>
    induction echo generalizing other with
    | nil => exact ⟨rfl, rfl, twinned⟩
    | cons operation rest ih =>
      rcases silent_or_call spared with silent | ⟨call, rfl⟩
      · rw [calls_silent silent] at same
        rw [heard_silent silent] at still ⊢
        exact ih (twinned.symm.step_silent silent).symm (List.not_mem_of_not_mem_cons spared) same still
      · rw [calls_call] at same
        contradiction
  | cons operation rest ih =>
    rcases silent_or_call kept with silent | ⟨call, rfl⟩
    · rw [calls_silent silent] at same ⊢
      rw [heard_silent silent] at calm ⊢
      exact ih (twinned.step_silent silent) (List.not_mem_of_not_mem_cons kept) spared same calm still
    · induction echo generalizing other with
      | nil =>
        rw [calls_call] at same
        contradiction
      | cons operation others skip =>
        rcases silent_or_call spared with silent | ⟨echoed, rfl⟩
        · rw [calls_silent silent] at same
          rw [heard_silent silent] at still ⊢
          exact skip (twinned.symm.step_silent silent).symm (List.not_mem_of_not_mem_cons spared) still same
        · rw [calls_call, calls_call] at same
          obtain ⟨rfl, tails⟩ := List.cons.inj same
          obtain ⟨outcome, reply, answered, replied, ended⟩ := twinned.step_call echoed
          rw [heard_call answered] at calm ⊢
          rw [heard_call replied] at still ⊢
          rcases ended with ⟨reason, failed, contended⟩ | ⟨veil, next⟩
          · exfalso
            rcases failed with rfl | rfl
            · exact Bool.eq_false_iff.mp (calm _ _ List.mem_cons_self) contended
            · exact Bool.eq_false_iff.mp (still _ _ List.mem_cons_self) contended
          · obtain ⟨answered, told, end_twinned⟩ := ih next (List.not_mem_of_not_mem_cons kept)
              (List.not_mem_of_not_mem_cons spared) tails (fun _ _ member => calm _ _ (List.mem_cons_of_mem _ member))
              fun _ _ member => still _ _ (List.mem_cons_of_mem _ member)
            refine ⟨?_, ?_, end_twinned⟩
            · rw [calls_call, List.map_cons, answered]
            · rw [List.map_cons, List.map_cons, told]
              exact congrArg (· :: _) (congrArg (Prod.mk echoed) veil)

/-- A run seen from one of its spaces: what happens before the space is added, and what happens from then on. -/
structure Course where
  before : List Operation
  populate : Populate
  kind : TableKind
  after : List Operation

namespace Course

variable (course : Course) (machine : Machine)

/-- The number of the space. -/
def number : Nat := ((start machine).after course.before).spaces.length

/-- The host on which the space is new. -/
def origin : Host StandardTable := ((start machine).after course.before).step (.add course.populate course.kind)

/-- The host at the end. -/
def finish : Host StandardTable := (course.origin machine).after course.after

/-- The calls of the space. -/
def calls : List Call := Host.calls (course.number machine) course.after

/-- The calls of the space with what it hears. -/
def heard : List (Call × Except MemoryError Answer) :=
  (course.origin machine).heard (course.number machine) course.after

end Course

section Courses

variable {config : MemoryConfig} {machine : Machine}

theorem geometry_after (built : config.build = .ok machine) (word : config.ramSize < Word.limit)
    (run : List Operation) : ((start machine).after run).machine.devices.geometry = machine.devices.geometry := by
  induction run using List.reverseRecOn with
  | nil => rfl
  | append_singleton run operation ih => rw [after_concat, (custody_after built word run).geometry_step, ih]

/-- New spaces of one kind are twins, whatever happened before. -/
theorem twinned_origin (built : config.build = .ok machine) (word : config.ramSize < Word.limit) {one other : Course}
    (populate : other.populate = one.populate) (kind : other.kind = one.kind) :
    Twinned machine.devices.geometry (PageTable.capacity one.kind.empty) (one.number machine) (other.number machine)
      (one.origin machine) (other.origin machine) := by
  have added (course : Course) : (course.origin machine).Custody ∧
      (course.origin machine).space? (course.number machine) = some (.ofTable course.populate course.kind.empty) ∧
      (course.origin machine).machine.devices.geometry = machine.devices.geometry :=
    ⟨(custody_after built word course.before).step _, (space?_add _ _ _).trans (if_pos rfl),
      geometry_after built word course.before⟩
  obtain ⟨custody, found, sized⟩ := added one
  obtain ⟨echoed, met, also⟩ := added other
  rw [populate, kind] at met
  have blank (host : Host StandardTable) (page : Nat) :
      (host.stage (.ofTable one.populate one.kind.empty)).memory.homeOf page = none := home?_lookup_empty one.kind page
  have zero (host : Host StandardTable) (address : Nat) :
      (host.stage (.ofTable one.populate one.kind.empty)).memory.byteAt address = 0 :=
    Memory.byteAt_of_empty (Memory.content_eq_empty (blank host _))
  refine ⟨custody, echoed, _, _, found, met, ⟨.refl _, also.trans sized.symm, rfl, fun page => ?_, fun address => ?_⟩,
    sized, rfl, ⟨_, custody.stage found⟩, ⟨_, echoed.stage met⟩⟩
  · rw [blank, blank]
  · rw [zero, zero]

/-- Two spaces that make the same calls hear the same and reserve the same, as long as neither hears of contention. -/
theorem heard_eq_of_calls_eq (built : config.build = .ok machine) (word : config.ramSize < Word.limit)
    {one other : Course} (populate : other.populate = one.populate) (kind : other.kind = one.kind)
    (calls : other.calls machine = one.calls machine) (kept : .drop (one.number machine) ∉ one.after)
    (spared : .drop (other.number machine) ∉ other.after) (calm : Calm (one.heard machine))
    (still : Calm (other.heard machine)) :
    (one.heard machine).map Prod.fst = one.calls machine ∧
      (other.heard machine).map veiled = (one.heard machine).map veiled ∧
      ∃ space mirror, (one.finish machine).space? (one.number machine) = some space ∧
        (other.finish machine).space? (other.number machine) = some mirror ∧
        mirror.areas = space.areas ∧ mirror.regions = space.regions := by
  obtain ⟨answered, told, ended⟩ :=
    (twinned_origin built word populate kind).heard_eq kept spared calls calm still
  obtain ⟨-, -, space, mirror, found, met, twins⟩ := ended
  exact ⟨answered, told, space, mirror, found, met, twins.outline.areas, twins.outline.regions⟩

/-- Two frames and two swap devices. -/
def narrow : MemoryConfig := { ramSize := 512, swapSizes := [512, 512] }

/-- A space on its own, which has both frames. -/
def quiet : Course where
  before := []
  populate := .onDemand
  kind := .flat 4
  after := [.call 0 (.allocate 0 0 512), .call 0 (.writeByte 0 0 7), .call 0 (.writeByte 0 256 9),
    .call 0 (.evictPages 0 1), .call 0 (.readByte 0 0), .call 0 (.resolve 1)]

/-- The same calls when another space has a frame: the second write already evicts the page of the first. -/
def crowded : Course where
  before := [.add .onDemand .radix, .call 0 (.allocate 0 0 256), .call 0 (.writeByte 0 0 5)]
  populate := .onDemand
  kind := .flat 4
  after := [.call 1 (.allocate 0 0 512), .call 1 (.writeByte 0 0 7), .activate 1, .call 0 (.readByte 0 0),
    .call 1 (.writeByte 0 256 9), .call 1 (.evictPages 0 1), .call 1 (.readByte 0 0), .drop 0, .call 1 (.resolve 1)]

/-- What either space hears, but for the count of evicted pages and a frame. -/
private def heardOfBoth (evicted frame : Nat) : List (Call × Except MemoryError Answer) :=
  [(.allocate 0 0 512, .ok (.number 0)), (.writeByte 0 0 7, .ok .done), (.writeByte 0 256 9, .ok .done),
    (.evictPages 0 1, .ok (.number evicted)), (.readByte 0 0, .ok (.byte 7)), (.resolve 1, .ok (.number frame))]

private theorem heard_of_both : ∃ machine, narrow.build = .ok machine ∧
    quiet.number machine = 0 ∧ crowded.number machine = 1 ∧
    quiet.heard machine = heardOfBoth 1 1 ∧ crowded.heard machine = heardOfBoth 0 0 :=
  ⟨_, rfl, rfl, by decide +kernel, by decide +kernel, by decide +kernel⟩

private theorem calm_heardOfBoth (evicted frame : Nat) : Calm (heardOfBoth evicted frame) := by
  intro call reason member
  simp [heardOfBoth] at member

theorem heard_eq_of_calls_eq_of_crowded :
    ∃ machine, narrow.build = .ok machine ∧ (quiet.heard machine).map veiled = (crowded.heard machine).map veiled ∧
      (.resolve 1, .ok (.number 1)) ∈ quiet.heard machine ∧ (.resolve 1, .ok (.number 0)) ∈ crowded.heard machine ∧
      ∃ space mirror, (quiet.finish machine).space? (quiet.number machine) = some space ∧
        (crowded.finish machine).space? (crowded.number machine) = some mirror ∧
        mirror.areas = space.areas ∧ mirror.regions = space.regions := by
  obtain ⟨machine, built, first, second, left, right⟩ := heard_of_both
  have populate : crowded.populate = quiet.populate := rfl
  have kind : crowded.kind = quiet.kind := rfl
  have calls : crowded.calls machine = quiet.calls machine := by
    rw [Course.calls, Course.calls, first, second]
    rfl
  have kept : .drop (quiet.number machine) ∉ quiet.after := by
    rw [first]
    decide
  have spared : .drop (crowded.number machine) ∉ crowded.after := by
    rw [second]
    decide
  obtain ⟨-, told, same⟩ := heard_eq_of_calls_eq built (by decide) populate kind calls kept spared
    (left ▸ calm_heardOfBoth 1 1) (right ▸ calm_heardOfBoth 0 0)
  exact ⟨machine, built, told.symm, by rw [left]; decide, by rw [right]; decide, same⟩

end Courses

end Host

end DemandPaging
