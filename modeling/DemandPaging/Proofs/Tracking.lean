import DemandPaging.Proofs.Alike
import Mathlib.Data.List.Sort

/-! # A table of few pages and one of more

An action tracks another one if from related states both end alike, with the same answer or for the same reason,
in related states again; but where the tracked one fails for an excused reason, nothing is asked of the other.
Unlike two runs in lockstep only one side has excuses. Here the states are two stages on equal devices whose
spaces differ in nothing but their tables, which read alike, and one of which may have fewer pages. A write
below the fewer pages succeeds on both tables, so the excuse is never made there.
-/

namespace DemandPaging

/-- The other action ends as the one does, unless that fails for an excused reason. -/
def Tracks {ε σ τ α : Type} (states : σ → τ → Prop) (excuse : ε → Prop) (known : α → Prop) (one : EStateM ε σ α)
    (other : EStateM ε τ α) : Prop :=
  ∀ state mirror, states state mirror → Ends one
    (fun answer after => known answer ∧ ∃ next, other mirror = .ok answer next ∧ states after next)
    (fun reason after => excuse reason ∨ ∃ next, other mirror = .error reason next ∧ states after next) state

namespace Tracks

variable {ε σ τ α β : Type} {states : σ → τ → Prop} {excuse : ε → Prop} {known : α → Prop} {inner : β → Prop}

theorem pure {answer : α} (holds : known answer) :
    Tracks states excuse known (Pure.pure answer) (Pure.pure answer) :=
  fun _ mirror related => ⟨holds, mirror, rfl, related⟩

theorem throw (reason : ε) : Tracks states excuse known (MonadExcept.throw reason) (MonadExcept.throw reason) :=
  fun _ mirror related => .inr ⟨mirror, rfl, related⟩

theorem throw_bind (reason : ε) {next : β → EStateM ε σ α} {rest : β → EStateM ε τ α} :
    Tracks states excuse known (MonadExcept.throw reason >>= next) (MonadExcept.throw reason >>= rest) :=
  fun _ mirror related => .inr ⟨mirror, rfl, related⟩

theorem throw_of_excused {reason : ε} {other : EStateM ε τ α} (excused : excuse reason) :
    Tracks states excuse known (MonadExcept.throw reason) other := fun _ _ _ => .inl excused

theorem throw_bind_of_excused {reason : ε} {next : β → EStateM ε σ α} {other : EStateM ε τ α}
    (excused : excuse reason) : Tracks states excuse known (MonadExcept.throw reason >>= next) other :=
  fun _ _ _ => .inl excused

theorem settle (outcome : Except ε α) :
    Tracks states excuse (fun _ => True) (DemandPaging.settle outcome) (DemandPaging.settle outcome) := by
  cases outcome with
  | ok answer => exact .pure trivial
  | error reason => exact .throw reason

theorem modify {change : σ → σ} {alter : τ → τ}
    (keeps : ∀ state mirror, states state mirror → states (change state) (alter mirror)) :
    Tracks states excuse (fun _ => True) (modify change) (modify alter) :=
  fun state mirror related => ⟨trivial, alter mirror, rfl, keeps state mirror related⟩

theorem bind {one : EStateM ε σ β} {other : EStateM ε τ β} {next : β → EStateM ε σ α} {rest : β → EStateM ε τ α}
    (first : Tracks states excuse inner one other)
    (follows : ∀ answer, inner answer → Tracks states excuse known (next answer) (rest answer)) :
    Tracks states excuse known (one >>= next) (other >>= rest) := by
  intro state mirror related
  rw [ends_bind]
  refine (first state mirror related).mono ?_ ?_
  · rintro answer after ⟨holds, reflection, ran, left⟩
    have continued : (other >>= rest) mirror = rest answer reflection := by
      simp only [Bind.bind, EStateM.bind, ran]
    rw [continued]
    exact follows answer holds after reflection left
  · rintro reason after (excused | ⟨reflection, ran, left⟩)
    · exact .inl excused
    · refine .inr ⟨reflection, ?_, left⟩
      simp only [Bind.bind, EStateM.bind, ran]

theorem map {one : EStateM ε σ β} {other : EStateM ε τ β} {change : β → α}
    (first : Tracks states excuse inner one other) :
    Tracks states excuse (fun _ => True) (change <$> one) (change <$> other) := by
  have mapped : Tracks states excuse (fun _ => True) (one >>= fun answer => Pure.pure (change answer))
      (other >>= fun answer => Pure.pure (change answer)) := first.bind fun _ _ => .pure trivial
  rwa [← map_eq_pure_bind, ← map_eq_pure_bind] at mapped

/-- The states are looked at. -/
theorem bind_get {next : σ → EStateM ε σ α} {rest : τ → EStateM ε τ α}
    (follows : ∀ state mirror, states state mirror → Tracks states excuse known (next state) (rest mirror)) :
    Tracks states excuse known (get >>= next) (get >>= rest) :=
  fun state mirror related => follows state mirror related state mirror related

theorem bind_settle {outcome : Except ε β} {next : β → EStateM ε σ α} {rest : β → EStateM ε τ α}
    (follows : ∀ answer, outcome = .ok answer → Tracks states excuse known (next answer) (rest answer)) :
    Tracks states excuse known (DemandPaging.settle outcome >>= next) (DemandPaging.settle outcome >>= rest) := by
  cases outcome with
  | error reason => exact fun _ mirror related => .inr ⟨mirror, rfl, related⟩
  | ok answer => exact follows answer rfl

/-- What is attempted must not need an excuse, as its failure may be forgotten. -/
theorem attempt {one : EStateM ε σ α} {other : EStateM ε τ α} (tried : Tracks states (fun _ => False) known one other) :
    Tracks states excuse (fun outcome => ∀ answer, outcome = .ok answer → known answer) (DemandPaging.attempt one)
      (DemandPaging.attempt other) := by
  intro state mirror related
  rw [ends_attempt]
  refine (tried state mirror related).mono ?_ ?_
  · rintro answer after ⟨holds, reflection, ran, left⟩
    refine ⟨?_, reflection, ?_, left⟩
    · rintro _ ⟨⟩
      exact holds
    · simp only [DemandPaging.attempt, ran]
  · rintro reason after (never | ⟨reflection, ran, left⟩)
    · exact never.elim
    · refine ⟨fun _ answered => ?_, reflection, ?_, left⟩
      · contradiction
      · simp only [DemandPaging.attempt, ran]

theorem forM {one : β → EStateM ε σ PUnit} {other : β → EStateM ε τ PUnit} {items : List β}
    (each : ∀ item ∈ items, Tracks states excuse (fun _ => True) (one item) (other item)) :
    Tracks states excuse (fun _ => True) (items.forM one) (items.forM other) := by
  induction items with
  | nil => exact .pure trivial
  | cons item rest ih =>
    rw [List.forall_mem_cons] at each
    exact each.1.bind fun _ _ => ih each.2

theorem foldlM {one : α → β → EStateM ε σ α} {other : α → β → EStateM ε τ α} {items : List β}
    (each : ∀ item ∈ items, ∀ result, Tracks states excuse (fun _ => True) (one result item) (other result item))
    (start : α) : Tracks states excuse (fun _ => True) (items.foldlM one start) (items.foldlM other start) := by
  induction items generalizing start with
  | nil => exact .pure trivial
  | cons item rest ih =>
    rw [List.forall_mem_cons] at each
    exact (each.1 start).bind fun result _ => ih each.2 result

end Tracks

namespace Machine

/-- Two machines of one page size that differ at most in their logs. -/
structure SameDevices (size : Geometry) (one other : Machine) : Prop where
  devices : other.devices = one.devices
  sized : one.devices.geometry = size

/-- What an action does depends on the devices, and not on the log. -/
abbrev Logless {α : Type} (size : Geometry) (action : DeviceAction α) : Prop :=
  Tracks (SameDevices size) (fun _ => False) (fun _ => True) action action

variable {size : Geometry} (id : DeviceId)

theorem logless_device : Logless size (device id) :=
  .bind_get fun one other same => by
    rw [same.devices]
    exact .settle _

theorem logless_putDevice (device : Device) : Logless size (putDevice id device) :=
  .modify fun one other same => by
    refine ⟨congrArg (DeviceSet.set · id device) same.devices, ?_⟩
    cases id <;> exact same.sized

theorem logless_emit (event : Event) : Logless size (emit event) := .modify fun _ _ same => ⟨same.devices, same.sized⟩

theorem logless_acquire : Logless size (acquire id) := by
  refine (logless_device id).bind fun device _ => ?_
  cases device.acquire? with
  | none => exact .pure trivial
  | some pair => exact (logless_putDevice id _).bind fun _ _ => (logless_emit _).bind fun _ _ => .pure trivial

theorem logless_acquireMany (count : Nat) : Logless size (acquireMany id count) := by
  refine (logless_device id).bind fun device _ => ?_
  cases device.acquireMany? count with
  | none => exact .pure trivial
  | some pair => exact (logless_putDevice id _).bind fun _ _ => (logless_emit _).bind fun _ _ => .pure trivial

theorem logless_release (frame : Nat) : Logless size (release id frame) :=
  (logless_device id).bind fun _ _ => .bind (.settle _) fun _ _ =>
    (logless_putDevice id _).bind fun _ _ => logless_emit _

theorem logless_read (address : Nat) : Logless size (read id address) := (logless_device id).bind fun _ _ => .settle _

theorem logless_write (address : Nat) (value : UInt8) : Logless size (write id address value) :=
  (logless_device id).bind fun _ _ => .bind (.settle _) fun _ _ => logless_putDevice id _

theorem logless_zeroFrame (frame : Nat) : Logless size (zeroFrame frame) :=
  (logless_device .ram).bind fun _ _ => .bind (.settle _) fun _ _ => logless_putDevice .ram _

theorem logless_copyFrame (frame : Nat) (target : DeviceId) (slot : Nat) :
    Logless size (copyFrame id frame target slot) :=
  (logless_device id).bind fun _ _ => (logless_device target).bind fun _ _ =>
    .bind (.settle _) fun _ _ => logless_putDevice target _

theorem logless_activeSwap : Logless size activeSwap :=
  .bind_get fun one other same => by
    rw [same.devices]
    exact (logless_device _).bind fun _ _ => .pure trivial

theorem logless_activate (index : Nat) : Logless size (activate index) :=
  .bind_get fun one other same => by
    rw [same.devices]
    refine .bind_settle fun devices chosen => .bind (.modify fun _ _ now => ⟨rfl, ?_⟩) fun _ _ => logless_emit _
    unfold DeviceSet.activate at chosen
    split at chosen
    · obtain rfl := Except.ok.inj chosen
      exact same.sized
    · contradiction

end Machine

section Mirrors

variable {T : Type} [PageTable T] [LawfulTable T]

/-- Two spaces with tables that read alike, the one of exactly `limit` pages and the other of no fewer. -/
structure Space.Mirrors (limit : Nat) (one other : Space T) : Prop where
  outline : one.SameOutline other
  resident : other.resident = one.resident
  lookup : ∀ page, PageTable.lookup other.table page = PageTable.lookup one.table page
  formed : LawfulTable.WellFormed one.table
  echoed : LawfulTable.WellFormed other.table
  limited : PageTable.capacity one.table = limit
  roomy : limit ≤ PageTable.capacity other.table

/-- Mirrored spaces on equal devices. -/
structure Stage.Mirrors (size : Geometry) (limit : Nat) (one other : Stage T) : Prop
    extends one.space.Mirrors limit other.space where
  machine : one.toMachine.SameDevices size other.toMachine

namespace Space.Mirrors

variable {limit : Nat} {one other : Space T} (mirrors : one.Mirrors limit other)
include mirrors

theorem lt_of_lookup {page : Nat} (written : PageTable.lookup one.table page ≠ .zero) : page < limit :=
  (LawfulTable.lt_capacity_of_lookup mirrors.formed written).trans_eq mirrors.limited

theorem lt_of_frame {page frame : Nat} (framed : (PageTable.lookup one.table page).frame? = some frame) :
    page < limit := by
  apply mirrors.lt_of_lookup
  intro zero
  rw [zero] at framed
  contradiction

/-- Tables that read alike show the same entries. -/
theorem mapped : PageTable.mapped other.table = PageTable.mapped one.table := by
  have ascend := LawfulTable.mapped_ascend mirrors.formed
  have also := LawfulTable.mapped_ascend mirrors.echoed
  have members (slot : Nat × Entry) : slot ∈ PageTable.mapped other.table ↔ slot ∈ PageTable.mapped one.table := by
    rw [LawfulTable.mem_mapped_iff mirrors.formed, LawfulTable.mem_mapped_iff mirrors.echoed, mirrors.lookup]
  have : Std.Irrefl fun one other : Nat × Entry => one.1 < other.1 := ⟨fun _ => Nat.lt_irrefl _⟩
  have : Std.Antisymm fun one other : Nat × Entry => one.1 < other.1 :=
    ⟨fun _ _ before after => absurd before (Nat.lt_asymm after)⟩
  exact also.eq_of_mem_iff ascend members

end Space.Mirrors

end Mirrors

namespace Paging

variable {T α β : Type} [PageTable T] [TotalTable T] {size : Geometry} {limit : Nat} {excuse : MemoryError → Prop}
  {known : α → Prop}

/-- On the stage with fewer pages an operation goes as it does on the other one. -/
abbrev Mirrored (size : Geometry) (limit : Nat) (excuse : MemoryError → Prop) (known : α → Prop)
    (operation : Paging T α) : Prop :=
  Tracks (Stage.Mirrors size limit) excuse known operation operation

theorem mirrored_onMachine {action : DeviceAction α} (logless : Machine.Logless size action) :
    Mirrored (T := T) size limit excuse (fun _ => True) (onMachine action) := by
  intro one other mirrors
  rw [ends_onMachine]
  refine (logless one.toMachine other.toMachine mirrors.machine).mono ?_ ?_
  · rintro answer machine ⟨holds, next, ran, same⟩
    refine ⟨holds, { other with toMachine := next }, ?_, mirrors.toMirrors, same⟩
    simp only [onMachine, ran]
  · rintro reason machine (never | ⟨next, ran, same⟩)
    · exact never.elim
    · refine .inr ⟨{ other with toMachine := next }, ?_, mirrors.toMirrors, same⟩
      simp only [onMachine, ran]

theorem mirrored_emit (event : Event) : Mirrored (T := T) size limit excuse (fun _ => True) (emit event) :=
  .modify fun _ _ mirrors => ⟨mirrors.toMirrors, mirrors.machine.devices, mirrors.machine.sized⟩

theorem mirrored_reporting {action : Paging T β} (event : MemoryError → Event)
    (tracks : Mirrored size limit (fun _ => False) (fun _ => True) action) :
    Mirrored size limit excuse (fun _ => True) (reporting action event) := by
  refine tracks.attempt.bind fun outcome _ => ?_
  cases outcome with
  | ok answer => exact .pure trivial
  | error reason => exact mirrored_emit _

theorem mirrored_bind_geometry {next rest : Geometry → Paging T α}
    (follows : Tracks (Stage.Mirrors size limit) excuse known (next size) (rest size)) :
    Tracks (Stage.Mirrors size limit) excuse known (geometry >>= next) (geometry >>= rest) := by
  intro one other mirrors
  have sized : one.devices.geometry = size := mirrors.machine.sized
  have also : other.devices.geometry = size := (congrArg DeviceSet.geometry mirrors.machine.devices).trans sized
  have looked : (geometry >>= rest) other = rest size other := by
    rw [← also]
    rfl
  show Ends (next one.devices.geometry) _ _ _
  rw [looked, sized]
  exact follows one other mirrors

theorem mirrored_bind_space {next rest : Space T → Paging T α} (follows : ∀ one other : Space T,
      one.Mirrors limit other → Tracks (Stage.Mirrors size limit) excuse known (next one) (rest other)) :
    Tracks (Stage.Mirrors size limit) excuse known (space >>= next) (space >>= rest) :=
  fun one other mirrors => follows one.space other.space mirrors.toMirrors one other mirrors

/-- Only pages below the limit have entries. -/
theorem mirrored_bind_lookup {next : Entry → Paging T α} {page : Nat}
    (follows : ∀ entry, (entry ≠ .zero → page < limit) → Mirrored size limit excuse known (next entry)) :
    Mirrored size limit excuse known (lookup page >>= next) := by
  intro one other mirrors
  have looked : (lookup page >>= next) other = next (PageTable.lookup one.space.table page) other := by
    rw [← mirrors.lookup page]
    rfl
  show Ends (next (PageTable.lookup one.space.table page)) _ _ _
  rw [looked]
  exact follows _ mirrors.lt_of_lookup one other mirrors

/-- The outlines change together, and the queues. -/
theorem mirrored_modifySpace {change : Space T → Space T}
    (outline : ∀ one other : Space T, one.SameOutline other → (change one).SameOutline (change other))
    (resident : ∀ one other : Space T,
      other.resident = one.resident → (change other).resident = (change one).resident)
    (table : ∀ space, (change space).table = space.table) :
    Mirrored size limit excuse (fun _ => True) (modifySpace change) := by
  refine .modify fun one other mirrors => ⟨⟨?_, ?_, ?_, ?_, ?_, ?_, ?_⟩, mirrors.machine⟩
  · exact outline _ _ mirrors.outline
  · exact resident _ _ mirrors.resident
  · rw [table, table]
    exact mirrors.lookup
  · rw [table]
    exact mirrors.formed
  · rw [table]
    exact mirrors.echoed
  · rw [table]
    exact mirrors.limited
  · rw [table]
    exact mirrors.roomy

theorem mirrored_queue (change : PageQueue → PageQueue) :
    Mirrored (T := T) size limit excuse (fun _ => True)
      (modifySpace fun space => { space with resident := change space.resident }) :=
  mirrored_modifySpace (fun _ _ same => ⟨same.populate, same.areas, same.regions⟩)
    (fun _ _ same => congrArg change same) fun _ => rfl

/-- One entry is made for one page in both tables. -/
theorem mirrors_of_entered {page : Nat} {entry : Entry} {one other after next : Stage T}
    (mirrors : one.Mirrors size limit other) (entered : Entered one page entry after)
    (echoed : Entered other page entry next) : after.Mirrors size limit next where
  outline := (entered.outline.symm.trans mirrors.outline).trans echoed.outline
  resident := by rw [entered.resident, echoed.resident, mirrors.resident]
  lookup index := by
    have left := entered.writes.lookup index
    have right := echoed.writes.lookup index
    rw [show other.memory.lookup index = one.memory.lookup index from mirrors.lookup index] at right
    exact right.trans left.symm
  formed := entered.writes.formed mirrors.formed
  echoed := echoed.writes.formed mirrors.echoed
  limited := entered.writes.capacity.trans mirrors.limited
  roomy := mirrors.roomy.trans_eq echoed.writes.capacity.symm
  machine := by
    have same : after.devices = one.devices := entered.writes.devices
    refine ⟨?_, (congrArg DeviceSet.geometry same).trans mirrors.machine.sized⟩
    rw [same, ← mirrors.machine.devices]
    exact echoed.writes.devices

/-- A write below the limit succeeds on both sides. -/
theorem mirrored_write {page : Nat} (entry : Entry) (fits : page < limit ∨ ∀ refusal, excuse (.table refusal)) :
    Mirrored (T := T) size limit excuse (fun _ => True) (write page entry) := by
  intro one other mirrors
  by_cases inside : page < limit
  · have within : page < one.memory.capacity := inside.trans_eq mirrors.limited.symm
    have also : page < other.memory.capacity := inside.trans_le mirrors.roomy
    obtain ⟨_, next, ran, echoed⟩ := (ends_write_of_lt also entry).exists_ok
    apply (ends_write_of_lt within entry).sure
    intro _ after entered
    exact ⟨trivial, next, ran, mirrors_of_entered mirrors entered echoed⟩
  · have excused := fits.resolve_left inside
    cases written : PageTable.write one.space.table page entry with
    | error refusal =>
      simp only [write, ends_bind, ends_space, written]
      exact .inl (excused refusal)
    | ok table => exact absurd (mirrors.limited ▸ LawfulTable.lt_capacity_of_write written) inside

omit [TotalTable T] in
/-- Marking a page in a frame is a write. -/
theorem markDirty_of_frame {page frame : Nat} {stage : Stage T}
    (framed : (PageTable.lookup stage.space.table page).frame? = some frame) :
    markDirty page stage = write page (PageTable.lookup stage.space.table page).markDirty stage := by
  show commit page (PageTable.markDirty stage.space.table page) stage = _
  rw [PageTable.markDirty]
  simp only [framed]
  rfl

omit [TotalTable T] in
/-- Marking any other page does nothing. -/
theorem ends_markDirty_of_no_frame {page : Nat} {stage : Stage T}
    (unframed : (PageTable.lookup stage.space.table page).frame? = none) :
    Ends (markDirty page) (fun _ after => after = stage) (fun _ _ => False) stage := by
  have still : PageTable.growth? stage.space.table stage.space.table page = none := by
    rw [PageTable.growth?, Nat.sub_self, if_pos rfl]
  simp only [markDirty, PageTable.markDirty, unframed, commit, ends_bind, ends_space, ends_modifySpace, still,
    ends_pure]

theorem mirrored_markDirty (page : Nat) : Mirrored (T := T) size limit excuse (fun _ => True) (markDirty page) := by
  intro one other mirrors
  have same := mirrors.lookup page
  cases framed : (PageTable.lookup one.space.table page).frame? with
  | none =>
    have also := (congrArg Entry.frame? same).trans framed
    obtain ⟨_, next, ran, rfl⟩ := (ends_markDirty_of_no_frame also).exists_ok
    apply (ends_markDirty_of_no_frame framed).sure
    rintro _ _ rfl
    exact ⟨trivial, next, ran, mirrors⟩
  | some frame =>
    unfold Ends
    rw [markDirty_of_frame framed, markDirty_of_frame ((congrArg Entry.frame? same).trans framed), same]
    exact mirrored_write _ (.inl (mirrors.lt_of_frame framed)) one other mirrors

theorem mirrored_eachUntilFailure {action : β → Paging T Unit} {items : List β}
    (each : ∀ item ∈ items, Mirrored size limit (fun _ => False) (fun _ => True) (action item)) :
    Mirrored size limit excuse (fun result => result.1 ⊆ items) (eachUntilFailure action items) := by
  induction items with
  | nil => exact .pure (List.Subset.refl [])
  | cons item rest ih =>
    rw [List.forall_mem_cons] at each
    refine each.1.attempt.bind fun outcome _ => ?_
    cases outcome with
    | error reason => exact .pure (List.nil_subset _)
    | ok answer =>
      refine (ih each.2).bind fun result inside => .pure ?_
      exact List.cons_subset_cons item inside

end Paging

end DemandPaging
