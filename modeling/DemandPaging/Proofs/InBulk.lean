import DemandPaging.Proofs.MachineActions
import DemandPaging.Proofs.Rollback

/-! # Frames in bulk

Some operations take all the frames they will need at once, fill them one by one, and give frames back
one by one. While frames are in hand, nothing but their own bytes changes. Frames that go back come to
the front of the free list one after the other, so a bulk that goes back is free again in the reverse
order: which frames are free is as before, and only the order may differ.
-/

namespace DemandPaging

namespace DeviceSet

variable {devices first second next : DeviceSet} {id : DeviceId} {frame : Nat} {frames : List Nat}

/-- Nothing but the bytes of some frames of one device has changed. -/
structure Fills (devices : DeviceSet) (id : DeviceId) (frames : List Nat) (next : DeviceSet) : Prop where
  sound : next.Sound
  layout : next.layout = devices.layout
  free : ∀ other, next.freeOf other = devices.freeOf other
  inUse : ∀ home, next.InUse home ↔ devices.InUse home
  bytes : ∀ home, (home.1 = id → home.2 ∉ frames) → next.bytesAt home = devices.bytesAt home

theorem Fills.refl (sound : devices.Sound) : devices.Fills id frames devices :=
  ⟨sound, rfl, fun _ => rfl, fun _ => Iff.rfl, fun _ _ => rfl⟩

theorem Fills.stores {bytes : FrameBytes} (fills : devices.Fills id frames first)
    (stores : first.Stores (id, frame) bytes second) (member : frame ∈ frames) : devices.Fills id frames second where
  sound := stores.sound
  layout := stores.layout.trans fills.layout
  free other := (stores.free other).trans (fills.free other)
  inUse home := (stores.inUse home).trans (fills.inUse home)
  bytes home away := by
    have distinct : home ≠ (id, frame) := by
      rintro rfl
      exact away rfl member
    rw [stores.bytes, if_neg distinct, fills.bytes home away]

/-- Frames of one device went back one after the other. -/
structure ReturnsAll (devices : DeviceSet) (id : DeviceId) (frames : List Nat) (next : DeviceSet) : Prop where
  sound : next.Sound
  layout : next.layout = devices.layout
  free : next.freeOf id = frames.reverse ++ devices.freeOf id
  free_other : ∀ other, other ≠ id → next.freeOf other = devices.freeOf other
  inUse : ∀ home, next.InUse home ↔ ¬ (home.1 = id ∧ home.2 ∈ frames) ∧ devices.InUse home
  bytes : ∀ home, next.bytesAt home = devices.bytesAt home

theorem ReturnsAll.nil (sound : devices.Sound) : devices.ReturnsAll id [] devices where
  sound := sound
  layout := rfl
  free := rfl
  free_other _ _ := rfl
  inUse home := by simp
  bytes _ := rfl

theorem Returns.cons (returns : devices.Returns (id, frame) first) (all : first.ReturnsAll id frames second) :
    devices.ReturnsAll id (frame :: frames) second where
  sound := all.sound
  layout := all.layout.trans returns.layout
  free := by
    rw [all.free, returns.free, List.reverse_cons, List.append_assoc]
    rfl
  free_other other distinct := (all.free_other other distinct).trans (returns.free_other other distinct)
  inUse home := by
    rw [all.inUse, returns.inUse, List.mem_cons, ne_eq, Prod.ext_iff]
    tauto
  bytes home := (all.bytes home).trans (returns.bytes home)

/-- Nothing that a user of the devices can see has changed but the order of the free frames of one device. -/
structure Reorders (devices : DeviceSet) (id : DeviceId) (next : DeviceSet) : Prop where
  layout : next.layout = devices.layout
  free : (next.freeOf id).Perm (devices.freeOf id)
  free_other : ∀ other, other ≠ id → next.freeOf other = devices.freeOf other
  inUse : ∀ home, next.InUse home ↔ devices.InUse home
  bytes : ∀ home, devices.InUse home → next.bytesAt home = devices.bytesAt home
  bytes_other : ∀ home, home.1 ≠ id → next.bytesAt home = devices.bytesAt home

theorem Reorders.refl (devices : DeviceSet) (id : DeviceId) : devices.Reorders id devices :=
  ⟨rfl, .refl _, fun _ _ => rfl, fun _ => Iff.rfl, fun _ _ => rfl, fun _ _ => rfl⟩

/-- Frames that were taken, filled and given back were never missed. -/
theorem Takes.reorders (takes : devices.Takes id frames first) (fills : first.Fills id frames second)
    (returns : second.ReturnsAll id frames next) : devices.Reorders id next where
  layout := returns.layout.trans (fills.layout.trans takes.layout)
  free := by
    rw [returns.free, fills.free, takes.free]
    exact (List.reverse_perm frames).append_right _
  free_other other distinct := by
    rw [returns.free_other other distinct, fills.free, takes.free_other other distinct]
  inUse home := by
    rw [returns.inUse, fills.inUse, takes.inUse]
    constructor
    · rintro ⟨away, taken | held⟩
      · exact absurd taken away
      · exact held
    · intro held
      refine ⟨?_, .inr held⟩
      rintro ⟨rfl, member⟩
      exact takes.fresh _ member held
  bytes home held := by
    rw [returns.bytes, fills.bytes, takes.bytes]
    rintro rfl member
    exact takes.fresh _ member held
  bytes_other home distinct := by
    rw [returns.bytes, fills.bytes, takes.bytes]
    exact fun same => absurd same distinct

end DeviceSet

namespace Paging

variable {T α : Type} {stage : Stage T} {id : DeviceId} {action : α → Paging T Unit} {items : List α}

/-- A loop that gives back one frame for each item gives back all of them. -/
theorem ends_returnAll (frame : α → Nat)
    (step : ∀ item (stage : Stage T), stage.devices.Sound → stage.devices.InUse (id, frame item) →
      Ends (action item)
        (fun _ after => stage.devices.Returns (id, frame item) after.devices ∧ after.space = stage.space)
        (fun _ _ => False) stage)
    (sound : stage.devices.Sound) (held : ∀ item ∈ items, stage.devices.InUse (id, frame item))
    (distinct : (items.map frame).Nodup) :
    Ends (items.forM action)
      (fun _ after => stage.devices.ReturnsAll id (items.map frame) after.devices ∧ after.space = stage.space)
      (fun _ _ => False) stage := by
  induction items generalizing stage with
  | nil => exact ⟨.nil sound, rfl⟩
  | cons item rest ih =>
    rw [List.forall_mem_cons] at held
    rw [List.map_cons, List.nodup_cons] at distinct
    show Ends (action item >>= fun _ => rest.forM action) _ _ stage
    rw [ends_bind]
    apply (step item stage sound held.1).sure
    rintro _ middle ⟨returns, space⟩
    have held_now : ∀ other ∈ rest, middle.devices.InUse (id, frame other) := by
      intro other member
      refine (returns.inUse _).mpr ⟨?_, held.2 other member⟩
      intro same
      exact distinct.1 (List.mem_map.mpr ⟨other, member, (Prod.mk.inj same).2⟩)
    apply (ih returns.sound held_now distinct.2).sure
    rintro _ after ⟨all, same⟩
    exact ⟨returns.cons all, same.trans space⟩

end Paging

namespace Space

open Paging

variable {T α : Type} [PageTable T]

/-- A write behind a guard is made, or the guard refused it, or the table has no such page. -/
theorem ends_write_of_guard [TotalTable T] {stage : Stage (GuardedTable T)} (page : Nat) (entry : Entry) :
    Ends (write page entry)
      (fun _ after => ∃ table, PageTable.write stage.space.table page entry = .ok table ∧
        after.devices = stage.devices ∧ after.space = { stage.space with table })
      (fun reason after => after = stage ∧
        (stage.space.table.refuses page entry = true ∧ reason = .table (.outOfRange page page) ∨
          PageTable.capacity stage.space.table ≤ page)) stage := by
  cases refused : stage.space.table.refuses page entry with
  | true =>
    have stopped : PageTable.write stage.space.table page entry = .error (.outOfRange page page) :=
      GuardedTable.write_refused refused
    simp only [write, ends_bind, ends_space, stopped]
    exact ⟨rfl, .inl ⟨trivial, rfl⟩⟩
  | false =>
    simp only [write, ends_bind, ends_space]
    apply (ends_commit page _).mono
    · exact fun _ _ done => done
    · rintro _ _ ⟨rfl, never⟩
      refine ⟨rfl, .inr (Nat.le_of_not_lt fun fits => ?_)⟩
      obtain ⟨table, written⟩ := GuardedTable.write_of_accepted fits refused
      exact never table written

/-- Some pages of a guarded table have the entries that they were to have. -/
structure Rewritten (before : Stage (GuardedTable T)) (pages : List Nat) (entries : Nat → Entry)
    (after : Stage (GuardedTable T)) : Prop where
  devices : after.devices = before.devices
  lookup : ∀ page, PageTable.lookup after.space.table page =
    if page ∈ pages then entries page else PageTable.lookup before.space.table page
  guard : GuardedTable.SameGuard before.space.table after.space.table
  space : after.space = { before.space with table := after.space.table }

variable [TotalTable T] {stage : Stage (GuardedTable T)} {items : List α} {action : α → Paging (GuardedTable T) Unit}

/-- Entries are written one after the other; where the guard refuses one, the page keeps the entry that it has. -/
theorem ends_rewriteAll_of_guard (page : α → Nat) (entries : Nat → Entry) (event : α → MemoryError → Event)
    (each : ∀ item ∈ items, action item = reporting (write (page item) (entries (page item))) (event item))
    (fits : ∀ item ∈ items, page item < PageTable.capacity stage.space.table) :
    Ends (items.forM action)
      (fun _ after => Rewritten stage
        ((items.map page).filter fun page => !stage.space.table.refuses page (entries page)) entries after)
      (fun _ _ => False) stage := by
  induction items generalizing stage with
  | nil => exact ⟨rfl, fun _ => rfl, .refl _, rfl⟩
  | cons item rest ih =>
    rw [List.forall_mem_cons] at each fits
    show Ends (action item >>= fun _ => rest.forM action) _ _ stage
    simp only [each.1, ends_bind, ends_reporting]
    apply (ends_write_of_guard (page item) _).mono
    · rintro _ middle ⟨table, written, devices, space⟩
      have guard : GuardedTable.SameGuard stage.space.table middle.space.table := by
        rw [space]
        exact (GuardedTable.SameGuard.refl _).write written
      have lookup (other : Nat) : PageTable.lookup middle.space.table other =
          if other = page item then entries (page item) else PageTable.lookup stage.space.table other := by
        rw [space]
        exact LawfulTable.lookup_write written other
      have fits_now : ∀ item ∈ rest, page item < PageTable.capacity middle.space.table := by
        rw [guard.capacity]
        exact fits.2
      have accepted := (GuardedTable.write_eq_ok_iff.mp written).1
      simp only [List.map_cons, List.filter_cons, accepted, Bool.not_false, if_true]
      apply (ih each.2 fits_now).sure
      intro _ after rewritten
      constructor
      case devices => exact rewritten.devices.trans devices
      case lookup =>
        intro other
        rw [rewritten.lookup, lookup, guard.refuses]
        by_cases same : other = page item
        · simp only [same, if_true, ite_self, List.mem_cons_self]
        · simp only [same, if_false, List.mem_cons, false_or]
      case guard => exact ⟨rewritten.guard.capacity.trans guard.capacity, rewritten.guard.refuses.trans guard.refuses⟩
      case space => rw [rewritten.space, space]
    · rintro _ stage ⟨rfl, ⟨refused, -⟩ | beyond⟩
      · simp only [List.map_cons, List.filter_cons, refused, Bool.not_true, Bool.false_eq_true, if_false]
        refine (ih each.2 ?_).sure ?_
        · exact fits.2
        · rintro _ after ⟨devices, lookup, guard, space⟩
          exact ⟨devices, lookup, guard, space⟩
      · exact absurd fits.1 (Nat.not_lt.mpr beyond)

/-- Entries that the guard lets pass are written one after the other, and none of the writes fails. -/
theorem ends_rewriteAll (page : α → Nat) (entries : Nat → Entry) (event : α → MemoryError → Event)
    (each : ∀ item ∈ items, action item = reporting (write (page item) (entries (page item))) (event item))
    (fits : ∀ item ∈ items, page item < PageTable.capacity stage.space.table)
    (accepted : ∀ item ∈ items, stage.space.table.refuses (page item) (entries (page item)) = false) :
    Ends (items.forM action) (fun _ after => Rewritten stage (items.map page) entries after) (fun _ _ => False)
      stage := by
  have all : ((items.map page).filter fun page => !stage.space.table.refuses page (entries page)) =
      items.map page := by
    rw [List.filter_eq_self, List.forall_mem_map]
    intro item member
    rw [accepted item member, Bool.not_false]
  have rewrites := ends_rewriteAll_of_guard page entries event each fits
  rwa [all] at rewrites

end Space

end DemandPaging
