import DemandPaging.Proofs.CallEffects

/-! # What every machine leaves alone

Nothing is asked of the devices here: they may be of any size and in any state. `Maintains` says that an
action keeps a condition however it ends, and what its failures are. The rules follow the way actions are
put together. A fault, an eviction or an access keeps the outline of its space, the page size, the capacity
of the table and its form; and the table of a well-formed space refuses no page below its capacity.
-/

namespace DemandPaging

/-- The action keeps a condition, and what it fails with is one of `fails`. -/
def Maintains {ε σ α : Type} (invariant : σ → Prop) (fails : ε → Prop) (action : EStateM ε σ α) : Prop :=
  ∀ state, invariant state →
    Ends action (fun _ => invariant) (fun reason after => fails reason ∧ invariant after) state

namespace Maintains

variable {ε σ α β : Type} {invariant : σ → Prop} {fails : ε → Prop}

theorem pure (answer : α) : Maintains invariant fails (Pure.pure answer : EStateM ε σ α) := fun _ holds => holds

theorem throw {reason : ε} (allowed : fails reason) :
    Maintains invariant fails (MonadExcept.throw reason : EStateM ε σ α) := fun _ holds => ⟨allowed, holds⟩

theorem settle {outcome : Except ε α} (allowed : ∀ reason, outcome = .error reason → fails reason) :
    Maintains invariant fails (DemandPaging.settle outcome : EStateM ε σ α) := fun _ holds =>
  (ends_settle outcome).mpr ⟨fun _ _ => holds, fun reason failed => ⟨allowed reason failed, holds⟩⟩

theorem modify {change : σ → σ} (keeps : ∀ state, invariant state → invariant (change state)) :
    Maintains invariant fails (modify change : EStateM ε σ Unit) := keeps

theorem bind {action : EStateM ε σ β} {next : β → EStateM ε σ α} (first : Maintains invariant fails action)
    (rest : ∀ answer, Maintains invariant fails (next answer)) : Maintains invariant fails (action >>= next) :=
  fun state holds => (ends_bind action next).mpr ((first state holds).answers fun answer after => rest answer after)

/-- What a state is asked for may depend on the condition. -/
theorem bind_get {next : σ → EStateM ε σ α} (rest : ∀ state, invariant state → Maintains invariant fails (next state)) :
    Maintains invariant fails (get >>= next) := fun state holds => rest state holds state holds

theorem bind_settle {outcome : Except ε β} {next : β → EStateM ε σ α}
    (rest : ∀ answer, outcome = .ok answer → Maintains invariant fails (next answer))
    (allowed : ∀ reason, outcome = .error reason → fails reason) :
    Maintains invariant fails (DemandPaging.settle outcome >>= next) := fun state holds =>
  (ends_bind _ _).mpr ((ends_settle outcome).mpr
    ⟨fun answer done => rest answer done state holds, fun reason failed => ⟨allowed reason failed, holds⟩⟩)

theorem attempt {action : EStateM ε σ α} {others : ε → Prop} (tried : Maintains invariant others action) :
    Maintains invariant fails (DemandPaging.attempt action) := fun state holds =>
  (ends_attempt action).mpr ((tried state holds).mono (fun _ _ kept => kept) fun _ _ kept => kept.2)

/-- An attempt whose failure is looked at. -/
theorem bind_attempt {action : EStateM ε σ β} {next : Except ε β → EStateM ε σ α}
    (tried : Maintains invariant fails action) (done : ∀ answer, Maintains invariant fails (next (.ok answer)))
    (failed : ∀ reason, fails reason → Maintains invariant fails (next (.error reason))) :
    Maintains invariant fails (DemandPaging.attempt action >>= next) := fun state holds =>
  (ends_bind _ _).mpr ((ends_attempt action).mpr ((tried state holds).mono (fun answer after => done answer after)
    fun reason after kept => failed reason kept.1 after kept.2))

theorem forM {action : α → EStateM ε σ PUnit} (each : ∀ item, Maintains invariant fails (action item))
    (items : List α) : Maintains invariant fails (items.forM action) := by
  induction items with
  | nil => exact .pure _
  | cons item rest ih => exact (each item).bind fun _ => ih

theorem foldlM {step : β → α → EStateM ε σ β} (each : ∀ result item, Maintains invariant fails (step result item))
    (items : List α) (start : β) : Maintains invariant fails (items.foldlM step start) := by
  induction items generalizing start with
  | nil => exact .pure _
  | cons item rest ih => exact (each start item).bind fun result => ih result

end Maintains

namespace Machine

/-- A machine of a page size. -/
def Sized (geometry : Geometry) (machine : Machine) : Prop := machine.devices.geometry = geometry

variable {geometry : Geometry} (id : DeviceId) (frame : Nat)

theorem maintains_device : Maintains (Sized geometry) (fun _ => True) (device id) :=
  .bind_get fun _ _ => .settle fun _ _ => trivial

theorem maintains_putDevice (device : Device) : Maintains (Sized geometry) (fun _ => True) (putDevice id device) :=
  .modify fun machine sized => by
    cases id <;> exact sized

theorem maintains_emit (event : Event) : Maintains (Sized geometry) (fun _ => True) (emit event) :=
  .modify fun _ sized => sized

theorem maintains_acquire : Maintains (Sized geometry) (fun _ => True) (acquire id) := by
  refine (maintains_device id).bind fun device => ?_
  cases device.acquire? with
  | none => exact .pure _
  | some pair => exact (maintains_putDevice id _).bind fun _ => (maintains_emit _).bind fun _ => .pure _

theorem maintains_acquireMany (count : Nat) :
    Maintains (Sized geometry) (fun _ => True) (acquireMany id count) := by
  refine (maintains_device id).bind fun device => ?_
  cases device.acquireMany? count with
  | none => exact .pure _
  | some pair => exact (maintains_putDevice id _).bind fun _ => (maintains_emit _).bind fun _ => .pure _

theorem maintains_release : Maintains (Sized geometry) (fun _ => True) (release id frame) :=
  (maintains_device id).bind fun _ => .bind (.settle fun _ _ => trivial) fun _ =>
    (maintains_putDevice id _).bind fun _ => maintains_emit _

theorem maintains_read (address : Nat) : Maintains (Sized geometry) (fun _ => True) (read id address) :=
  (maintains_device id).bind fun _ => .settle fun _ _ => trivial

theorem maintains_write (address : Nat) (value : UInt8) :
    Maintains (Sized geometry) (fun _ => True) (write id address value) :=
  (maintains_device id).bind fun _ => .bind (.settle fun _ _ => trivial) fun _ => maintains_putDevice id _

theorem maintains_zeroFrame : Maintains (Sized geometry) (fun _ => True) (zeroFrame frame) :=
  (maintains_device .ram).bind fun _ => .bind (.settle fun _ _ => trivial) fun _ => maintains_putDevice .ram _

theorem maintains_copyFrame (target : DeviceId) (slot : Nat) :
    Maintains (Sized geometry) (fun _ => True) (copyFrame id frame target slot) :=
  (maintains_device id).bind fun _ => (maintains_device target).bind fun _ =>
    .bind (.settle fun _ _ => trivial) fun _ => maintains_putDevice target _

theorem maintains_activeSwap : Maintains (Sized geometry) (fun _ => True) activeSwap :=
  .bind_get fun _ _ => (maintains_device _).bind fun _ => .pure _

theorem maintains_activate (index : Nat) : Maintains (Sized geometry) (fun _ => True) (activate index) := by
  refine .bind_get fun machine sized => .bind_settle (fun devices chosen => ?_) fun _ _ => trivial
  refine .bind (.modify fun _ _ => ?_) fun _ => maintains_emit _
  unfold DeviceSet.activate at chosen
  split at chosen
  · obtain rfl := Except.ok.inj chosen
    exact sized
  · contradiction

end Machine

namespace Paging

variable {T α : Type} {invariant : Stage T → Prop} {fails others : MemoryError → Prop}

theorem maintains_reporting {action : Paging T α} (tried : Maintains invariant others action)
    (emits : ∀ event, Maintains invariant fails (emit event)) (event : MemoryError → Event) :
    Maintains invariant fails (reporting action event) := by
  refine .bind (.attempt tried) fun outcome => ?_
  cases outcome with
  | ok answer => exact .pure _
  | error reason => exact emits _

/-- A loop of attempts. -/
theorem maintains_eachUntilFailure {action : α → Paging T Unit} (each : ∀ item, Maintains invariant others (action item))
    (items : List α) : Maintains invariant fails (eachUntilFailure action items) := by
  induction items with
  | nil => exact .pure _
  | cons item rest ih =>
    refine .bind (.attempt (each item)) fun outcome => ?_
    cases outcome with
    | ok answer => exact ih.bind fun _ => .pure _
    | error reason => exact .pure _

end Paging

section Outline

open Paging

variable {T α : Type} {origin : Space T}

/-- Whatever table the space has, and whatever the table refuses, the outline stays. -/
abbrev KeepsOutline (origin : Space T) (action : Paging T α) : Prop :=
  Maintains (fun stage => origin.SameOutline stage.space) (fun _ => True) action

theorem keepsOutline_onMachine (action : DeviceAction α) : KeepsOutline origin (onMachine action) := fun _ same =>
  (ends_onMachine action).mpr (Ends.anyhow.mono (fun _ _ _ => same) fun _ _ _ => ⟨trivial, same⟩)

theorem keepsOutline_emit (event : Event) : KeepsOutline origin (emit event) := .modify fun _ same => same

theorem keepsOutline_commit [PageTable T] (page : Nat) (written : Except TableError T) :
    KeepsOutline origin (commit page written) := fun stage same => by
  refine (ends_commit page written).mono ?_ ?_
  · rintro _ after ⟨table, -, -, space⟩
    rw [space]
    exact ⟨same.populate, same.areas, same.regions⟩
  · rintro _ after ⟨rfl, -⟩
    exact ⟨trivial, same⟩

theorem keepsOutline_mapRange [PageTable T] (start stop : Nat) : KeepsOutline origin (Space.mapRange start stop) := by
  refine .bind_get fun stage _ => (keepsOutline_onMachine _).bind fun drawn => ?_
  cases drawn with
  | error reason => exact (keepsOutline_emit _).bind fun _ => .throw trivial
  | ok frames =>
    have each (pair : Nat × Nat) : KeepsOutline origin (Space.mapZeroed pair.1 pair.2) :=
      (keepsOutline_onMachine _).bind fun _ => .bind_get fun _ _ => keepsOutline_commit _ _
    have clears (page : Nat) : KeepsOutline origin (clear page) := .bind_get fun _ _ => keepsOutline_commit _ _
    have queue (change : Space T → PageQueue) :
        KeepsOutline origin (modifySpace fun space => { space with resident := change space }) :=
      .modify fun _ same => ⟨same.populate, same.areas, same.regions⟩
    refine .bind (maintains_eachUntilFailure each _) fun result => ?_
    obtain ⟨done, _ | ⟨_, reason⟩⟩ := result
    · exact (queue _).bind fun _ => keepsOutline_emit _
    · refine .bind (.forM (fun pair => ?_) _) fun _ => .bind (.forM (fun frame => ?_) _) fun _ => .throw trivial
      · exact maintains_reporting (clears pair.1) keepsOutline_emit _
      · exact maintains_reporting (keepsOutline_onMachine _) keepsOutline_emit _

end Outline

/-- What every operation leaves alone that reserves nothing. -/
structure Stage.Steady {T : Type} [PageTable T] [LawfulTable T] (before after : Stage T) : Prop where
  outline : before.space.SameOutline after.space
  geometry : after.devices.geometry = before.devices.geometry
  capacity : PageTable.capacity after.space.table = PageTable.capacity before.space.table
  formed : LawfulTable.WellFormed before.space.table → LawfulTable.WellFormed after.space.table

namespace Stage.Steady

variable {T : Type} [PageTable T] [LawfulTable T] {origin stage after : Stage T}

theorem refl (stage : Stage T) : stage.Steady stage := ⟨.refl _, rfl, rfl, id⟩

/-- Only the devices changed, and not their page size. -/
theorem onMachine (steady : origin.Steady stage) {machine : Machine} (sized : machine.Sized stage.devices.geometry) :
    origin.Steady { stage with toMachine := machine } :=
  ⟨steady.outline, Eq.trans sized steady.geometry, steady.capacity, steady.formed⟩

/-- The queue may change. -/
theorem queue (steady : origin.Steady stage) (resident : PageQueue) :
    origin.Steady { stage with space := { stage.space with resident } } :=
  ⟨⟨steady.outline.populate, steady.outline.areas, steady.outline.regions⟩, steady.geometry, steady.capacity,
    steady.formed⟩

end Stage.Steady

/-- The table refuses a page only if it lies beyond the capacity. -/
def Stage.Refuses {T : Type} [PageTable T] (origin : Stage T) (page : Nat) (reason : MemoryError) : Prop :=
  ∀ refusal, reason = .table refusal → PageTable.capacity origin.space.table ≤ page

namespace Paging

variable {T : Type} [PageTable T] [TotalTable T] {origin : Stage T} {page : Nat} {α : Type}

/-- An operation of this kind leaves a stage steady; of the pages it is about, `page` is the highest. -/
abbrev Spares (origin : Stage T) (page : Nat) (action : Paging T α) : Prop :=
  Maintains origin.Steady (origin.Refuses page) action

theorem spares_onMachine {action : DeviceAction α}
    (kept : ∀ geometry, Maintains (Machine.Sized geometry) (fun _ => True) action) :
    Spares origin page (onMachine action) := fun stage steady =>
  (ends_onMachine action).mpr ((kept _ stage.toMachine rfl).mono (fun _ _ sized => steady.onMachine sized)
    fun _ _ sized => ⟨nofun, steady.onMachine sized.2⟩)

theorem spares_emit (event : Event) : Spares origin page (emit event) :=
  .modify fun _ steady => ⟨steady.outline, steady.geometry, steady.capacity, steady.formed⟩

theorem spares_reporting {action : Paging T α} (other : Nat) (spares : Spares origin other action)
    (event : MemoryError → Event) : Spares origin page (reporting action event) :=
  maintains_reporting spares spares_emit event

/-- Queues come and go. -/
theorem spares_queue (change : Space T → PageQueue) :
    Spares origin page (modifySpace fun space => { space with resident := change space }) :=
  .modify fun _ steady => steady.queue _

theorem spares_write {target : Nat} (entry : Entry)
    (allowed : PageTable.capacity origin.space.table ≤ target → PageTable.capacity origin.space.table ≤ page) :
    Spares origin page (write target entry) := fun stage steady => by
  refine (ends_write target entry).mono ?_ ?_
  · rintro _ after ⟨writes, outline, -⟩
    exact ⟨steady.outline.trans outline, (congrArg DeviceSet.geometry writes.devices).trans steady.geometry,
      writes.capacity.trans steady.capacity, fun formed => writes.formed (steady.formed formed)⟩
  · rintro _ after ⟨rfl, refusal, -, refused⟩
    refine ⟨fun _ _ => allowed (Nat.le_of_not_lt fun fits => ?_), steady⟩
    rw [← steady.capacity] at fits
    obtain ⟨next, written⟩ := TotalTable.write_of_lt after.space.table entry fits
    rw [written] at refused
    contradiction

theorem spares_bind_space {β : Type} {next : Space T → Paging T β}
    (rest : ∀ stage, origin.Steady stage → Spares origin page (next stage.space)) :
    Spares origin page (space >>= next) := fun stage steady => rest stage steady stage steady

theorem spares_bind_geometry {β : Type} {next : Geometry → Paging T β}
    (rest : Spares origin page (next origin.devices.geometry)) : Spares origin page (geometry >>= next) :=
  fun stage steady => (congrArg (fun size => Ends (next size) _ _ stage) steady.geometry).mpr (rest stage steady)

theorem spares_bind_lookup {β : Type} {target : Nat} {next : Entry → Paging T β}
    (rest : ∀ stage, origin.Steady stage → Spares origin page (next (PageTable.lookup stage.space.table target))) :
    Spares origin page (lookup target >>= next) := fun stage steady => rest stage steady stage steady

theorem spares_markDirty : Spares origin page (markDirty page) := fun stage steady => by
  rw [markDirty, ends_bind, ends_space, PageTable.markDirty]
  cases (PageTable.lookup stage.space.table page).frame? with
  | some frame => exact spares_write _ id stage steady
  | none =>
    rw [commit]
    simp only [ends_bind, ends_space, ends_modifySpace]
    cases PageTable.growth? stage.space.table stage.space.table page with
    | none => exact steady
    | some event => exact ⟨steady.outline, steady.geometry, steady.capacity, steady.formed⟩

end Paging

namespace Space

open Paging

variable {T : Type} [PageTable T] [TotalTable T] {origin : Stage T} {page : Nat}

/-- No table refuses a page that has a frame. -/
theorem lt_capacity_of_frame (formed : LawfulTable.WellFormed origin.space.table) {stage : Stage T}
    (steady : origin.Steady stage) (held : Nat)
    (frame : (PageTable.lookup stage.space.table held).frame? ≠ none) :
    held < PageTable.capacity origin.space.table := by
  rw [← steady.capacity]
  refine LawfulTable.lt_capacity_of_lookup (steady.formed formed) fun zero => frame ?_
  rw [zero]
  rfl

theorem spares_writeOut {held : Nat} (frame device slot : Nat)
    (allowed : PageTable.capacity origin.space.table ≤ held → PageTable.capacity origin.space.table ≤ page) :
    Spares origin page (writeOut held frame device slot) :=
  (spares_onMachine fun _ => Machine.maintains_copyFrame _ _ _ _).bind fun _ => spares_write _ allowed

theorem spares_release (id : DeviceId) (frame : Nat) (event : MemoryError → Event) :
    Spares origin page (reporting (onMachine (Machine.release id frame)) event) :=
  spares_reporting page (spares_onMachine fun _ => Machine.maintains_release id frame) event

theorem spares_swapOut {held : Nat} (fits : held < PageTable.capacity origin.space.table) (frame : Nat) :
    Spares origin page (swapOut held frame) := by
  refine (spares_onMachine fun _ => Machine.maintains_activeSwap).bind fun device => ?_
  refine (spares_onMachine fun _ => Machine.maintains_acquire _).bind fun taken => ?_
  cases taken with
  | none => exact .throw nofun
  | some slot =>
    have written : Spares origin page (writeOut held frame device slot) :=
      spares_writeOut _ _ _ fun beyond => absurd fits (Nat.not_lt.mpr beyond)
    refine .bind_attempt written (fun _ => .pure _) fun reason refuses => ?_
    exact (spares_release _ _ _).bind fun _ => .throw refuses

theorem spares_evictOldest (formed : LawfulTable.WellFormed origin.space.table) :
    Spares origin page evictOldest := by
  refine spares_bind_space fun stage _ => ?_
  cases stage.space.resident.takeOldest? with
  | none => exact .throw nofun
  | some pair =>
    obtain ⟨victim, rest⟩ := pair
    refine (spares_queue fun _ => rest).bind fun _ => spares_bind_lookup fun now steady => ?_
    cases held : (PageTable.lookup now.space.table victim).frame? with
    | none => exact (spares_emit _).bind fun _ => .throw nofun
    | some frame =>
      have fits := lt_capacity_of_frame formed steady victim (by rw [held]; nofun)
      refine .bind_attempt (spares_swapOut fits frame) (fun copy => ?_) fun reason refuses => ?_
      · exact (spares_emit _).bind fun _ => .pure _
      · exact (spares_queue _).bind fun _ => .throw refuses

theorem spares_claimFrame (formed : LawfulTable.WellFormed origin.space.table) :
    Spares origin page claimFrame := by
  refine (spares_onMachine fun _ => Machine.maintains_acquire _).bind fun taken => ?_
  cases taken with
  | some frame => exact .pure _
  | none => exact (spares_evictOldest formed).bind fun _ => .pure _

theorem spares_fill (source : Option SwapSlot) (frame : Nat) : Spares origin page (fill source frame) := by
  cases source with
  | none => exact spares_onMachine fun _ => Machine.maintains_zeroFrame _
  | some copy => exact spares_onMachine fun _ => Machine.maintains_copyFrame _ _ _ _

theorem spares_undoFault (frame : Nat) (eviction : Option Eviction) :
    Spares origin page (undoFault frame eviction) := by
  cases eviction with
  | none => exact spares_release _ _ _
  | some eviction =>
    refine .bind_attempt (spares_onMachine fun _ => Machine.maintains_copyFrame _ _ _ _) (fun _ => ?_)
      fun reason _ => ?_
    · refine .bind (spares_reporting eviction.victim (spares_write _ id) _) fun _ => ?_
      exact (spares_release _ _ _).bind fun _ => spares_queue _
    · exact (spares_emit _).bind fun _ => spares_release _ _ _

theorem spares_enlist (held frame : Nat) (source : Option SwapSlot) :
    Spares origin page (enlist held frame source) := by
  cases source with
  | none => exact (spares_emit _).bind fun _ => spares_queue _
  | some copy => exact (spares_release _ _ _).bind fun _ => (spares_emit _).bind fun _ => spares_queue _

theorem spares_faultIn (formed : LawfulTable.WellFormed origin.space.table) (source : Option SwapSlot) :
    Spares origin page (faultIn page source) := by
  refine spares_bind_space fun stage steady => ?_
  rw [steady.capacity]
  simp only
  split
  · next beyond => exact .throw fun _ _ => beyond
  · refine (spares_claimFrame formed).bind fun claimed => ?_
    obtain ⟨frame, eviction⟩ := claimed
    refine .bind_attempt ((spares_fill source frame).bind fun _ => spares_write _ id) (fun _ => ?_)
      fun reason refuses => ?_
    · exact (spares_enlist _ _ _).bind fun _ => .pure _
    · exact (spares_emit _).bind fun _ => (spares_undoFault _ _).bind fun _ => .throw refuses

/-- Only a page beyond the capacity meets a refusal of the table. -/
theorem spares_resolve (formed : LawfulTable.WellFormed origin.space.table) (page : Nat) :
    Spares origin page (resolve page) := by
  refine spares_bind_lookup fun stage _ => ?_
  cases (PageTable.lookup stage.space.table page).state with
  | present frame _ => exact (spares_emit _).bind fun _ => .pure _
  | absent => exact spares_faultIn formed _
  | swapped device slot => exact spares_faultIn formed _

omit [TotalTable T] [PageTable T] in
theorem region?_ne_table {space : Space T} {id : Nat} {reason : MemoryError}
    (failed : space.region? id = .error reason) (refusal : TableError) : reason ≠ .table refusal := by
  unfold region? live? slot? at failed
  cases slot : space.regions[id]? with
  | none =>
    obtain rfl : MemoryError.invalidRegionId id = reason := by simpa [slot, bind, Except.bind] using failed
    nofun
  | some held =>
    cases held with
    | none =>
      obtain rfl : MemoryError.regionNotLive id = reason := by
        simpa [slot, bind, Except.bind, throw, throwThe, MonadExceptOf.throw] using failed
      nofun
    | some live => simp [slot, bind, Except.bind, pure, Except.pure] at failed

/-- An access is refused by the table only if the page of the address that it names lies beyond the capacity. -/
def RefusesAt (origin : Stage T) (id offset : Nat) (reason : MemoryError) : Prop :=
  ∀ refusal, reason = .table refusal → ∃ address, origin.space.address? id offset = some address ∧
    PageTable.capacity origin.space.table ≤ origin.devices.geometry.pageOf address

omit [TotalTable T] in
theorem refusesAt_of_refuses {id offset address : Nat} {reason : MemoryError}
    (named : origin.space.address? id offset = some address)
    (refuses : origin.Refuses (origin.devices.geometry.pageOf address) reason) : RefusesAt origin id offset reason :=
  fun refusal table => ⟨address, named, refuses refusal table⟩

section Access

variable (formed : LawfulTable.WellFormed origin.space.table) (id offset : Nat)
include formed

theorem spares_locate :
    Ends (locate id offset)
      (fun place after => origin.Steady after ∧ ∃ address, origin.space.address? id offset = some address ∧
        place.1 = origin.devices.geometry.pageOf address)
      (fun reason after => RefusesAt origin id offset reason ∧ origin.Steady after) origin := by
  simp only [locate, ends_bind, ends_space, ends_settle]
  refine ⟨fun region found => ?_, fun reason failed => ⟨fun refusal table => ?_, .refl _⟩⟩
  · simp only [ends_bind, ends_ite, ends_throw, ends_geometry]
    refine ⟨fun _ => ⟨by rintro _ ⟨⟩, .refl _⟩, fun inside => ?_⟩
    have named : origin.space.address? id offset = some (region.start + offset) := by
      simp only [address?, found, Nat.lt_of_not_le inside, if_true]
    refine (spares_resolve formed _ origin (.refl _)).mono (fun _ _ steady => ⟨steady, _, named, rfl⟩) ?_
    exact fun _ _ failed => ⟨refusesAt_of_refuses named failed.1, failed.2⟩
  · exact absurd table (region?_ne_table failed refusal)

theorem spares_readByte :
    Ends (readByte id offset) (fun _ after => origin.Steady after)
      (fun reason after => RefusesAt origin id offset reason ∧ origin.Steady after) origin := by
  rw [readByte, ends_bind]
  apply (spares_locate formed id offset).answers
  rintro ⟨page, address⟩ stage ⟨steady, named, at_address, -⟩
  have rest : Spares origin (origin.devices.geometry.pageOf named) _ :=
    (spares_onMachine fun _ => Machine.maintains_read .ram address).bind fun value =>
      (spares_emit (.byteRead id offset address value)).bind fun _ => .pure value
  exact (rest stage steady).mono (fun _ _ kept => kept)
    fun _ _ failed => ⟨refusesAt_of_refuses at_address failed.1, failed.2⟩

theorem spares_writeByte (value : UInt8) :
    Ends (writeByte id offset value) (fun _ after => origin.Steady after)
      (fun reason after => RefusesAt origin id offset reason ∧ origin.Steady after) origin := by
  rw [writeByte, ends_bind]
  apply (spares_locate formed id offset).answers
  rintro ⟨_, address⟩ stage ⟨steady, named, at_address, rfl⟩
  have rest : Spares origin (origin.devices.geometry.pageOf named) _ :=
    (spares_onMachine fun _ => Machine.maintains_write .ram address value).bind fun _ =>
      spares_markDirty.bind fun _ => spares_emit (.byteWritten id offset address value)
  exact (rest stage steady).mono (fun _ _ kept => kept)
    fun _ _ failed => ⟨refusesAt_of_refuses at_address failed.1, failed.2⟩

end Access

section Ranges

omit [TotalTable T] in
/-- Every failure is allowed for a page at the capacity. -/
theorem refuses_capacity (origin : Stage T) (reason : MemoryError) :
    origin.Refuses (PageTable.capacity origin.space.table) reason := fun _ _ => le_rfl

variable (origin)

theorem steadies_installPattern (start pages : Nat) :
    Spares origin (PageTable.capacity origin.space.table) (installPattern start pages) := by
  refine spares_bind_space fun stage _ => spares_bind_geometry ?_
  refine .bind (.settle fun _ _ => refuses_capacity _ _) fun first => .bind ?_ fun _ =>
    (spares_emit _).bind fun _ => .pure _
  refine .foldlM (fun count page => spares_bind_lookup fun now _ => ?_) _ _
  split
  · exact (spares_write _ fun _ => le_rfl).bind fun _ => .pure _
  · exact .pure _

theorem steadies_writeOutAll (device : Nat) (pairs : List (ResidentPage × Nat)) :
    Spares origin (PageTable.capacity origin.space.table) (writeOutAll device pairs) := by
  have each (pair : ResidentPage × Nat) : Spares origin (PageTable.capacity origin.space.table)
      (writeOut pair.1.page pair.1.frame device pair.2) := spares_writeOut _ _ _ fun _ => le_rfl
  refine .bind (maintains_eachUntilFailure each _) fun result => ?_
  obtain ⟨done, _ | ⟨_, reason⟩⟩ := result
  · exact .pure _
  · refine (spares_emit _).bind fun _ => .bind (.forM (fun pair => ?_) _) fun _ =>
      .bind (.forM (fun pair => spares_release _ _ _) _) fun _ => .throw (refuses_capacity _ _)
    exact spares_reporting pair.1.page (spares_write _ id) _

theorem steadies_evictPages (start pages : Nat) :
    Spares origin (PageTable.capacity origin.space.table) (evictPages start pages) := by
  refine spares_bind_space fun stage _ => spares_bind_geometry ?_
  refine .bind (.settle fun _ _ => refuses_capacity _ _) fun first => spares_bind_space fun now _ => ?_
  simp only
  split
  · exact .pure _
  refine (spares_onMachine fun _ => Machine.maintains_activeSwap).bind fun device => ?_
  refine (spares_onMachine fun _ => Machine.maintains_acquireMany _ _).bind fun drawn => ?_
  cases drawn with
  | error reason => exact .throw nofun
  | ok slots =>
    refine (steadies_writeOutAll origin device _).bind fun _ => (spares_queue _).bind fun _ => ?_
    refine .bind (.forM (fun pair => ?_) _) fun _ => .pure _
    exact (spares_release _ _ _).bind fun _ => spares_emit _

theorem steadies_mapRange (start stop : Nat) :
    Spares origin (PageTable.capacity origin.space.table) (mapRange start stop) := by
  refine spares_bind_geometry (.bind (spares_onMachine fun _ => Machine.maintains_acquireMany _ _) fun drawn => ?_)
  cases drawn with
  | error reason => exact (spares_emit _).bind fun _ => .throw (refuses_capacity _ _)
  | ok frames =>
    have each (pair : Nat × Nat) : Spares origin (PageTable.capacity origin.space.table)
        (mapZeroed pair.1 pair.2) :=
      (spares_onMachine fun _ => Machine.maintains_zeroFrame _).bind fun _ => spares_write _ fun _ => le_rfl
    refine .bind (maintains_eachUntilFailure each _) fun result => ?_
    obtain ⟨done, _ | ⟨_, reason⟩⟩ := result
    · exact (spares_queue _).bind fun _ => spares_emit _
    · refine .bind (.forM (fun pair => ?_) _) fun _ => .bind (.forM (fun frame => spares_release _ _ _) _) fun _ =>
        .throw (refuses_capacity _ _)
      exact spares_reporting pair.1 (spares_write _ id) _

theorem steadies_teardown : Spares origin (PageTable.capacity origin.space.table) teardown := by
  refine spares_bind_space fun stage _ => .bind (.forM (fun slot => ?_) _) fun _ =>
    (spares_queue _).bind fun _ => spares_emit _
  obtain ⟨page, entry⟩ := slot
  simp only [releaseEntry]
  split
  · exact .pure _
  · exact (spares_release _ _ _).bind fun _ => spares_reporting page (spares_write _ id) _

end Ranges

end Space

end DemandPaging
