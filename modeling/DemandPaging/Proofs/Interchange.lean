import DemandPaging.Proofs.Mirroring
import DemandPaging.Proofs.Starts

/-! # Radix tables in the place of flat ones

Take any run and give every new space a radix table instead of the one it asks for. As long as no reply in the
run with the tables asked for is a failure at their limits, every reply is the same, and so is at every point
what can be seen of the spaces and of the devices. The flat tables may be of any sizes up to that of a radix
table. A larger one holds pages that a radix table refuses, and then the two can be told apart.
-/

namespace DemandPaging

/-- The operation with a radix table for a new space. -/
def Operation.onRadix : Operation → Operation
  | .add populate _ => .add populate .radix
  | operation => operation

/-- No table is asked for with more pages than a radix table has. -/
def Operation.FitsRadix : Operation → Prop
  | .add _ (.flat pages) => pages ≤ Parameters.radixPages
  | _ => True

instance : DecidablePred Operation.FitsRadix
  | .add _ (.flat _) => inferInstanceAs (Decidable (_ ≤ _))
  | .add _ .radix | .call _ _ | .drop _ | .activate _ => .isTrue trivial

/-- Two spaces that show the same. -/
structure Space.SameView {T : Type} [PageTable T] (one other : Space T) : Prop extends one.SameOutline other where
  resident : other.resident = one.resident
  mapped : PageTable.mapped other.table = PageTable.mapped one.table

namespace Host

/-- Hosts on equal devices whose spaces show the same. -/
structure SameView (one other : Host StandardTable) : Prop where
  devices : other.machine.devices = one.machine.devices
  absent : ∀ number, one.space? number = none → other.space? number = none
  present : ∀ number space, one.space? number = some space →
    ∃ mirror, other.space? number = some mirror ∧ space.SameView mirror

/-- The reply to any operation. -/
def reply (host : Host StandardTable) : Operation → Option (Except MemoryError Answer)
  | .call number call => host.answer? number call
  | .add _ _ => some (.ok (.number host.spaces.length))
  | .drop number => if (host.drop number).1 then some (.ok .done) else none
  | .activate index =>
    match (host.onMachine (Machine.activate index)).1 with
    | .ok () => some (.ok .done)
    | .error reason => some (.error (.device reason))

/-- The replies along a run. -/
def replies (host : Host StandardTable) (run : List Operation) : List (Option (Except MemoryError Answer)) :=
  host.history (fun host operation => [host.reply operation]) run

/-- Whether a reply is a failure at the limit of a table. -/
def hitsLimit : Option (Except MemoryError Answer) → Bool
  | some (.error reason) => reason.isLimit
  | _ => false

/-- Hosts on equal devices whose spaces are mirrored number by number. -/
structure Mirrors (size : Geometry) (one other : Host StandardTable) : Prop where
  machine : one.machine.SameDevices size other.machine
  length : other.spaces.length = one.spaces.length
  absent : ∀ number, one.space? number = none → other.space? number = none
  present : ∀ number space, one.space? number = some space →
    ∃ mirror limit, other.space? number = some mirror ∧ space.Mirrors limit mirror

/-- An operation that needs no excuse has the same outcome on the other stage. -/
theorem onStage_of_mirrored {α : Type} {size : Geometry} {limit : Nat} {excuse : MemoryError → Prop} {known : α → Prop}
    {operation : Paging StandardTable α} {one other : Stage StandardTable}
    (mirrored : Paging.Mirrored size limit excuse known operation) (mirrors : one.Mirrors size limit other)
    (calm : ∀ reason, (onStage operation one).1 = .error reason → ¬ excuse reason) :
    (onStage operation other).1 = (onStage operation one).1 ∧
      (onStage operation one).2.Mirrors size limit (onStage operation other).2 := by
  have ends := mirrored one other mirrors
  unfold Ends at ends
  unfold onStage at *
  cases ran : operation one with
  | ok answer after =>
    rw [ran] at ends
    obtain ⟨-, next, echo, left⟩ := ends
    rw [echo]
    exact ⟨rfl, left⟩
  | error reason after =>
    rw [ran] at ends calm
    obtain ⟨next, echo, left⟩ := ends.resolve_left (calm reason rfl)
    rw [echo]
    exact ⟨rfl, left⟩

namespace Mirrors

variable {size : Geometry} {one other : Host StandardTable} (mirrors : one.Mirrors size other)
include mirrors

theorem sameView : one.SameView other where
  devices := mirrors.machine.devices
  absent := mirrors.absent
  present number space found := by
    obtain ⟨mirror, limit, also, mirrored⟩ := mirrors.present number space found
    exact ⟨mirror, also, mirrored.outline, mirrored.resident, mirrored.mapped⟩

/-- One space on each side is replaced or forgotten. -/
theorem set {number : Nat} {left right : Machine} {slot echo : Option (Space StandardTable)}
    (bound : number < one.spaces.length) (machine : left.SameDevices size right) (absent : slot = none → echo = none)
    (present : ∀ space, slot = some space → ∃ mirror limit, echo = some mirror ∧ Space.Mirrors limit space mirror) :
    Mirrors size ⟨left, one.spaces.set number slot⟩ ⟨right, other.spaces.set number echo⟩ where
  machine := machine
  length := by rw [List.length_set, List.length_set, mirrors.length]
  absent index gone := by
    rw [space?_set _ _ (mirrors.length ▸ bound)]
    rw [space?_set _ _ bound] at gone
    split at gone
    · next here => rw [if_pos here, absent gone]
    · next away => rw [if_neg away, mirrors.absent index gone]
  present index space found := by
    rw [space?_set _ _ (mirrors.length ▸ bound)]
    rw [space?_set _ _ bound] at found
    split at found
    · next here =>
      rw [if_pos here]
      exact present space found
    · next away =>
      rw [if_neg away]
      exact mirrors.present index space found

/-- A stage takes the place of its space on each side. -/
theorem put {number limit : Nat} {space : Space StandardTable} {after next : Stage StandardTable}
    (found : one.space? number = some space) (stages : after.Mirrors size limit next) :
    (one.put number after).Mirrors size (other.put number next) := by
  apply mirrors.set (lt_length found) stages.machine (fun never => (Option.some_ne_none _ never).elim)
  rintro _ ⟨⟩
  exact ⟨_, limit, rfl, stages.toMirrors⟩

theorem run {α : Type} {excuse : MemoryError → Prop} {known : α → Prop} {operation : Paging StandardTable α}
    (mirrored : ∀ limit, Paging.Mirrored size limit excuse known operation) {number : Nat}
    (calm : ∀ reason, (one.run number operation).1 = some (.error reason) → ¬ excuse reason) :
    (other.run number operation).1 = (one.run number operation).1 ∧
      (one.run number operation).2.Mirrors size (other.run number operation).2 := by
  cases found : one.space? number with
  | none =>
    rw [run_absent found, run_absent (mirrors.absent number found)]
    exact ⟨rfl, mirrors⟩
  | some space =>
    obtain ⟨mirror, limit, also, related⟩ := mirrors.present number space found
    rw [run_eq found] at calm
    rw [run_eq found, run_eq also]
    have stages : (one.stage space).Mirrors size limit (other.stage mirror) := ⟨related, mirrors.machine⟩
    obtain ⟨same, left⟩ := onStage_of_mirrored (mirrored limit) stages fun reason failed =>
      calm reason (congrArg some failed)
    exact ⟨congrArg some same, mirrors.put found left⟩

theorem called {number : Nat} {call : Call} (calm : hitsLimit (one.answer? number call) = false) :
    other.answer? number call = one.answer? number call ∧
      (one.step (.call number call)).Mirrors size (other.step (.call number call)) := by
  apply mirrors.run fun limit => call.mirrored_perform
  intro reason failed excused
  rw [answer?, failed, hitsLimit, excused] at calm
  contradiction

theorem forget {number : Nat} (bound : number < one.spaces.length) :
    (one.forget number).Mirrors size (other.forget number) :=
  mirrors.set bound mirrors.machine (fun _ => rfl) fun _ never => (Option.some_ne_none _ never.symm).elim

theorem dropped (number : Nat) :
    (other.drop number).1 = (one.drop number).1 ∧ (one.drop number).2.Mirrors size (other.drop number).2 := by
  unfold drop
  cases found : one.space? number with
  | none =>
    rw [run_absent found, run_absent (mirrors.absent number found)]
    exact ⟨rfl, mirrors⟩
  | some space =>
    obtain ⟨mirror, limit, also, related⟩ := mirrors.present number space found
    rw [run_eq found, run_eq also]
    have torn : Paging.Mirrored (T := StandardTable) size limit (fun _ => False) (fun _ => True) Space.teardown :=
      Space.mirrored_teardown
    have stages : (one.stage space).Mirrors size limit (other.stage mirror) := ⟨related, mirrors.machine⟩
    obtain ⟨-, left⟩ := onStage_of_mirrored torn stages fun _ _ => id
    refine ⟨rfl, (mirrors.put found left).forget ?_⟩
    rw [Host.put, List.length_set]
    exact lt_length found

theorem activated (index : Nat) :
    (other.onMachine (Machine.activate index)).1 = (one.onMachine (Machine.activate index)).1 ∧
      (one.onMachine (Machine.activate index)).2.Mirrors size (other.onMachine (Machine.activate index)).2 := by
  have ends := Machine.logless_activate index one.machine other.machine mirrors.machine
  have moved {left right : Machine} (machine : left.SameDevices size right) :
      Mirrors size { one with machine := left } { other with machine := right } :=
    ⟨machine, mirrors.length, mirrors.absent, mirrors.present⟩
  unfold Ends at ends
  unfold onMachine
  cases ran : Machine.activate index one.machine with
  | ok answer left =>
    rw [ran] at ends
    obtain ⟨-, right, echo, machine⟩ := ends
    rw [echo]
    exact ⟨rfl, moved machine⟩
  | error reason left =>
    rw [ran] at ends
    obtain ⟨right, echo, machine⟩ := ends.resolve_left id
    rw [echo]
    exact ⟨rfl, moved machine⟩

theorem add {limit : Nat} {space mirror : Space StandardTable} (related : space.Mirrors limit mirror) :
    (one.add space).Mirrors size (other.add mirror) where
  machine := mirrors.machine
  length := by rw [Host.add, Host.add, List.length_append, List.length_append, mirrors.length, List.length_singleton,
    List.length_singleton]
  absent number gone := by
    rw [space?_add] at gone ⊢
    rw [mirrors.length]
    split at gone
    · contradiction
    · next old => rw [if_neg old, mirrors.absent number gone]
  present number kept found := by
    rw [space?_add] at found ⊢
    rw [mirrors.length]
    split at found
    · next new =>
      obtain rfl := Option.some.inj found
      exact ⟨mirror, limit, if_pos new, related⟩
    · next old =>
      rw [if_neg old]
      exact mirrors.present number kept found

omit mirrors in
/-- An empty table reads as an empty radix table. -/
theorem ofTable_mirrors {kind : TableKind} (populate : Populate) (fits : (Operation.add populate kind).FitsRadix) :
    Space.Mirrors (PageTable.capacity kind.empty) (Space.ofTable populate kind.empty)
      (Space.ofTable populate TableKind.radix.empty) where
  outline := ⟨rfl, rfl, rfl⟩
  resident := rfl
  lookup page := (StandardTable.lookup_empty .radix page).trans (StandardTable.lookup_empty kind page).symm
  formed := StandardTable.wellFormed_empty kind
  echoed := StandardTable.wellFormed_empty .radix
  limited := rfl
  roomy := by
    cases kind with
    | flat pages => exact fits
    | radix => exact le_rfl

/-- One step on both sides. -/
theorem step {operation : Operation} (fits : operation.FitsRadix) (calm : hitsLimit (one.reply operation) = false) :
    other.reply operation.onRadix = one.reply operation ∧
      (one.step operation).Mirrors size (other.step operation.onRadix) := by
  cases operation with
  | call number call => exact mirrors.called calm
  | add populate kind =>
    refine ⟨?_, mirrors.add (ofTable_mirrors populate fits)⟩
    show (some (.ok (.number other.spaces.length)) : Option (Except MemoryError Answer)) = _
    rw [mirrors.length]
    rfl
  | drop number =>
    obtain ⟨same, left⟩ := mirrors.dropped number
    refine ⟨?_, left⟩
    simp only [reply, Operation.onRadix, same]
  | activate index =>
    obtain ⟨same, left⟩ := mirrors.activated index
    refine ⟨?_, left⟩
    simp only [reply, Operation.onRadix, same]

/-- A whole run on both sides, with all states on the way. -/
theorem along {run : List Operation} (fits : ∀ operation ∈ run, operation.FitsRadix)
    (calm : ∀ reply ∈ one.replies run, hitsLimit reply = false) :
    other.replies (run.map .onRadix) = one.replies run ∧
      ∀ before, before <+: run → (one.after before).Mirrors size (other.after (before.map .onRadix)) := by
  induction run generalizing one other with
  | nil =>
    refine ⟨rfl, fun before start => ?_⟩
    rw [List.prefix_nil.mp start]
    exact mirrors
  | cons operation rest ih =>
    rw [List.forall_mem_cons] at fits
    have replied : one.replies (operation :: rest) = one.reply operation :: (one.step operation).replies rest := rfl
    rw [replied, List.forall_mem_cons] at calm
    obtain ⟨same, left⟩ := mirrors.step fits.1 calm.1
    obtain ⟨others, states⟩ := ih left fits.2 calm.2
    refine ⟨congrArg₂ List.cons same others, fun before start => ?_⟩
    rcases List.prefix_cons_iff.mp start with rfl | ⟨later, rfl, inside⟩
    · exact mirrors
    · exact states later inside

end Mirrors

theorem mirrors_start (machine : Machine) : (start machine).Mirrors machine.devices.geometry (start machine) where
  machine := ⟨rfl, rfl⟩
  length := rfl
  absent _ gone := gone
  present number space found := by
    rw [space?_start] at found
    contradiction

/-- A run with radix tables goes as the run with the tables asked for, whatever the devices, unless that one comes
to the limits of its tables. -/
theorem replies_onRadix (machine : Machine) {run : List Operation} (fits : ∀ operation ∈ run, operation.FitsRadix)
    (calm : ∀ reply ∈ (start machine).replies run, hitsLimit reply = false) :
    (start machine).replies (run.map .onRadix) = (start machine).replies run ∧
      ∀ before, before <+: run →
        ((start machine).after before).SameView ((start machine).after (before.map .onRadix)) := by
  obtain ⟨same, states⟩ := (mirrors_start machine).along fits calm
  exact ⟨same, fun before start => (states before start).sameView⟩

/-- Two pages take turns in the only frame and are evicted, another space finds no frames for two pages, and when
the first one is gone it finds one. -/
def handoverRun : List Operation :=
  [.add .onDemand (.flat 4), .call 0 (.allocate 0 0 512), .call 0 (.writeByte 0 0 7), .call 0 (.writeByte 0 256 9),
    .call 0 (.evictPages 0 2), .call 0 (.installPattern 0 2), .add .eager (.flat 8), .call 1 (.grow 0 512),
    .call 0 (.readByte 0 0), .call 0 (.dumpTable 0 512), .drop 0, .activate 3, .call 1 (.grow 0 256)]

theorem replies_onRadix_of_handover :
    ∃ machine, MemoryConfig.cramped.build = .ok machine ∧
      some (.ok (.byte 7)) ∈ (start machine).replies handoverRun ∧
      (start machine).replies (handoverRun.map .onRadix) = (start machine).replies handoverRun ∧
      ∀ before, before <+: handoverRun →
        ((start machine).after before).SameView ((start machine).after (before.map .onRadix)) :=
  ⟨_, rfl, by decide +kernel, replies_onRadix _ (by decide) (by decide +kernel)⟩

/-- A flat table of one page more than a radix table takes a page that the radix table refuses. -/
def oversizedRun : List Operation :=
  [.add .onDemand (.flat (Parameters.radixPages + 1)), .call 0 (.resolve Parameters.radixPages)]

theorem replies_onRadix_ne_of_oversized :
    ∃ machine, MemoryConfig.cramped.build = .ok machine ∧
      (∀ reply ∈ (start machine).replies oversizedRun, hitsLimit reply = false) ∧
      (start machine).replies (oversizedRun.map .onRadix) ≠ (start machine).replies oversizedRun ∧
      (start machine).replies oversizedRun = [some (.ok (.number 0)), some (.ok (.number 0))] ∧
      (start machine).replies (oversizedRun.map .onRadix) = [some (.ok (.number 0)),
        some (.error (.table (.outOfRange Parameters.radixPages Parameters.radixPages)))] :=
  ⟨_, rfl, by decide +kernel, by decide +kernel, by decide +kernel, by decide +kernel⟩

end Host

end DemandPaging
