import DemandPaging.Proofs.FirstFit
import DemandPaging.Proofs.GuardedMapping
import DemandPaging.Proofs.RangeEviction

/-! # Eager growth is all or nothing

Under eager population a growth takes a frame for each of its pages before it maps the first of them. A
guard may refuse any of the mappings. The pages that were mapped by then are cleared again, which no guard
here refuses, and every frame goes back: what has changed by then is the order of the free frames of RAM.
If no mapping is refused, each new page has a zeroed frame that was free before and no other page has, and
nothing else has changed. An allocation that has to grow inherits this, as its carve comes after the growth.
-/

namespace DemandPaging

/-- Nothing was reserved, and all that may differ is the order of the free frames of RAM. -/
structure Stage.Withdrawn {T : Type} [PageTable T] (before after : Stage T) : Prop where
  devices : before.devices.Reorders .ram after.devices
  resident : after.space.resident.toList = before.space.resident.toList
  lookup : ∀ page, PageTable.lookup after.space.table page = PageTable.lookup before.space.table page
  outline : before.space.SameOutline after.space

/-- Pages are mapped when they are reserved, the frames they have are in use, and each can be cleared. -/
structure Stage.Eager {T : Type} [PageTable T] (stage : Stage (GuardedTable T)) : Prop where
  sound : stage.devices.Sound
  eager : stage.space.populate = .eager
  inUse : ∀ page frame, (PageTable.lookup stage.space.table page).frame? = some frame →
    stage.devices.InUse (.ram, frame)
  clears : ∀ page, stage.space.table.refuses page .zero = false

/-- All of an area but its end. -/
def Area.withoutStop (area : Area) : Nat × Nat × Nat × FreeList := (area.id, area.start, area.brk, area.free)

/-- Symbols, breaks and free lists are as they were. -/
structure Stage.Unallotted {T : Type} (before after : Stage T) : Prop where
  regions : after.space.regions = before.space.regions
  areas : after.space.areas.map Area.withoutStop = before.space.areas.map Area.withoutStop

namespace Stage.Withdrawn

variable {T : Type} [PageTable T] {stage after : Stage T}

theorem refl (stage : Stage T) : stage.Withdrawn stage := ⟨.refl _ _, rfl, fun _ => rfl, .refl _⟩

theorem of_unmoved (unmoved : Space.Unmoved stage after) : stage.Withdrawn after where
  devices := by
    rw [show after.devices = stage.devices from congrArg Memory.devices unmoved.memory]
    exact .refl _ _
  resident := unmoved.resident
  lookup page := congrArg (fun memory => memory.lookup page) unmoved.memory
  outline := unmoved.outline

theorem unallotted (withdrawn : stage.Withdrawn after) : stage.Unallotted after := by
  refine ⟨withdrawn.outline.regions, ?_⟩
  rw [withdrawn.outline.areas]

end Stage.Withdrawn

/-- Growth moves an end and nothing else of an area. -/
theorem Space.Grew.unallotted {T : Type} {before after : Stage T} {id size bytes : Nat} {area : Area}
    (grew : Grew before id size bytes area after) (found : before.space.areas[id]? = some area) :
    before.Unallotted after := by
  refine ⟨grew.regions, ?_⟩
  obtain ⟨bound, rfl⟩ := List.getElem?_eq_some_iff.mp found
  have mapped : id < (before.space.areas.map Area.withoutStop).length := by
    rwa [List.length_map]
  rw [grew.areas, List.map_set]
  show (before.space.areas.map Area.withoutStop).set id (before.space.areas[id].withoutStop) = _
  rw [← List.getElem_map Area.withoutStop (h := mapped)]
  exact List.set_getElem_self mapped

namespace Space

open Paging

/-- The pages have zeroed frames, which were free and which no other page has, and end the queue. -/
structure Populated {T : Type} [PageTable T] (before : Stage T) (pages frames : List Nat) (after : Stage T) :
    Prop where
  length : frames.length = pages.length
  distinct : frames.Nodup
  fresh : ∀ frame ∈ frames, ¬ before.devices.InUse (.ram, frame)
  free : before.devices.freeOf .ram = frames ++ after.devices.freeOf .ram
  free_other : ∀ id, id ≠ .ram → after.devices.freeOf id = before.devices.freeOf id
  inUse : ∀ home, after.devices.InUse home ↔ (home.1 = .ram ∧ home.2 ∈ frames) ∨ before.devices.InUse home
  mapped : ∀ pair ∈ pages.zip frames, (PageTable.lookup after.space.table pair.1).state = .present pair.2 false
  zeroed : ∀ frame ∈ frames, after.devices.bytesAt (.ram, frame) = ∅
  own : ∀ pair ∈ pages.zip frames, ∀ page, (PageTable.lookup after.space.table page).frame? = some pair.2 →
    page = pair.1
  bytes : ∀ home, before.devices.InUse home → after.devices.bytesAt home = before.devices.bytesAt home
  others : ∀ page, page ∉ pages → PageTable.lookup after.space.table page = PageTable.lookup before.space.table page
  resident : after.space.resident.toList = before.space.resident.toList ++ pages
  layout : after.devices.layout = before.devices.layout

section Growth

variable {T : Type} [PageTable T] [TotalTable T] {stage : Stage (GuardedTable T)}

omit [TotalTable T] in
/-- Frames that were taken, zeroed and put behind pages without entries. -/
theorem Populated.of_installed {pages frames : List Nat} {machine : Machine} {after : Stage (GuardedTable T)}
    (eager : stage.Eager) (length : frames.length = pages.length)
    (takes : stage.devices.Takes .ram frames machine.devices)
    (installed : Installed { stage with toMachine := machine } (pages.zip frames) (pages.zip frames) after)
    (log : List Event) :
    Populated stage pages frames
      { after with log, space := { after.space with resident := after.space.resident.pushAll pages } } := by
  have firsts : (pages.zip frames).map Prod.fst = pages := List.map_fst_zip length.ge
  have seconds : (pages.zip frames).map Prod.snd = frames := List.map_snd_zip length.le
  have fills := installed.devices
  rw [seconds] at fills
  have others := installed.others
  rw [firsts] at others
  have state (pair) (member : pair ∈ pages.zip frames) :
      (PageTable.lookup after.space.table pair.1).state = .present pair.2 false := by
    rw [installed.mapped pair member]
    exact fills.sound.state_ofFrame ((fills.inUse _).mpr ((takes.inUse _).mpr (.inl ⟨rfl, (List.of_mem_zip member).2⟩)))
  constructor
  case length => exact length
  case distinct => exact takes.nodup
  case fresh => exact takes.fresh
  case free =>
    rw [show after.devices.freeOf .ram = machine.devices.freeOf .ram from fills.free .ram]
    exact takes.free
  case free_other => exact fun id other => (fills.free id).trans (takes.free_other id other)
  case inUse => exact fun home => (fills.inUse home).trans (takes.inUse home)
  case mapped => exact state
  case zeroed =>
    intro frame member
    rw [← seconds] at member
    obtain ⟨pair, inside, rfl⟩ := List.mem_map.mp member
    exact installed.zeroed pair inside
  case own =>
    intro pair member page framed
    by_cases inside : page ∈ pages
    · rw [← firsts] at inside
      obtain ⟨other, also, rfl⟩ := List.mem_map.mp inside
      obtain ⟨_, present⟩ := Entry.frame?_eq_some_iff.mp framed
      have same := (state other also).symm.trans present
      have frames_nodup : ((pages.zip frames).map Prod.snd).Nodup := by
        rw [seconds]
        exact takes.nodup
      exact congrArg Prod.fst (List.inj_on_of_nodup_map frames_nodup also member (EntryState.present.inj same).1)
    · -- What was named before was in use, and the frame of the pair was not.
      have named : (PageTable.lookup stage.space.table page).frame? = some pair.2 :=
        (congrArg Entry.frame? (others page inside)).symm.trans framed
      exact absurd (eager.inUse page _ named) (takes.fresh _ (List.of_mem_zip member).2)
  case bytes =>
    intro home held
    refine (fills.bytes home fun ram member => ?_).trans (takes.bytes home)
    exact takes.fresh _ member (show stage.devices.InUse (.ram, home.2) from ram ▸ held)
  case others => exact others
  case resident =>
    rw [PageQueue.toList_pushAll, installed.space]
  case layout => exact fills.layout.trans takes.layout

omit [TotalTable T] in
/-- Where every page can be cleared, a mapping that was cut short is taken back. -/
theorem CutShort.withdrawn {pages frames : List Nat} {done : List (Nat × Nat)} {item : Nat × Nat}
    {after : Stage (GuardedTable T)} (cut : CutShort stage pages frames done item after)
    (clears : ∀ page, stage.space.table.refuses page .zero = false)
    (blank : ∀ page ∈ pages, PageTable.lookup stage.space.table page = .zero) : stage.Withdrawn after where
  devices := cut.devices
  resident := by rw [cut.space]
  lookup page := by
    by_cases mapped : page ∈ done.map Prod.fst
    · obtain ⟨pair, member, rfl⟩ := List.mem_map.mp mapped
      have inside := cut.split.subset (List.mem_append_left _ member)
      rw [cut.cleared pair member (clears pair.1), blank pair.1 (List.of_mem_zip inside).1]
    · exact cut.others page mapped
  outline := by
    rw [cut.space]
    exact ⟨rfl, rfl, rfl⟩

theorem ends_mapRange_of_eager {start stop : Nat} (eager : stage.Eager)
    (fits : ∀ page ∈ pagesBetween stage.devices.geometry start stop, page < PageTable.capacity stage.space.table)
    (blank : ∀ page ∈ pagesBetween stage.devices.geometry start stop,
      PageTable.lookup stage.space.table page = .zero) :
    Ends (mapRange start stop)
      (fun _ after => stage.space.SameOutline after.space ∧
        ∃ frames, Populated stage (pagesBetween stage.devices.geometry start stop) frames after)
      (fun _ after => stage.Withdrawn after) stage := by
  apply (ends_mapRange_of_guard eager.sound fits).mono
  · rintro _ _ ⟨frames, machine, middle, log, length, takes, installed, rfl⟩
    refine ⟨?_, frames, .of_installed eager length takes installed log⟩
    rw [installed.space]
    exact ⟨rfl, rfl, rfl⟩
  · rintro _ after (⟨-, log, rfl⟩ | ⟨frames, done, item, -, cut⟩)
    · exact ⟨.refl _ _, rfl, fun _ => rfl, .refl _⟩
    · exact cut.withdrawn eager.clears blank

omit [TotalTable T] in
/-- The areas and the log are of no matter to what was mapped. -/
theorem Populated.onto {pages frames : List Nat} {after next : Stage (GuardedTable T)}
    (populated : Populated stage pages frames after) (devices : next.devices = after.devices)
    (table : next.space.table = after.space.table) (resident : next.space.resident = after.space.resident) :
    Populated stage pages frames next := by
  obtain ⟨length, distinct, fresh, free, free_other, inUse, mapped, zeroed, own, bytes, others, queue, layout⟩ :=
    populated
  rw [← devices] at free free_other inUse zeroed bytes layout
  rw [← table] at mapped own others
  rw [← resident] at queue
  exact ⟨length, distinct, fresh, free, free_other, inUse, mapped, zeroed, own, bytes, others, queue, layout⟩

/-- The pages by which an area would grow have no entries yet. -/
def GrowsBlank (space : Space (GuardedTable T)) (geometry : Geometry) (id size : Nat) : Prop :=
  ∀ area bytes stop, space.areas[id]? = some area → space.growth? geometry area.stop size = some (bytes, stop) →
    ∀ page ∈ pagesBetween geometry area.stop stop, PageTable.lookup space.table page = .zero

/-- An area grew by whole pages, and each new page has a zeroed frame. -/
structure GrewEagerly (before : Stage (GuardedTable T)) (id size bytes : Nat) (area : Area) (frames : List Nat)
    (after : Stage (GuardedTable T)) : Prop extends Grew before id size bytes area after where
  populated : Populated before (pagesBetween before.devices.geometry area.stop (area.stop + bytes)) frames after

theorem ends_grow_of_eager (eager : stage.Eager) {id size : Nat}
    (blank : stage.space.GrowsBlank stage.devices.geometry id size) :
    Ends (grow id size)
      (fun answer after => ∃ area bytes frames, stage.space.areas[id]? = some area ∧ answer = area.stop ∧
        area.stop + bytes < Word.limit ∧ GrewEagerly stage id size bytes area frames after)
      (fun _ after => stage.Withdrawn after) stage := by
  refine (ends_grow_of_mapping eager.eager (fun area bytes stop found growth => ends_mapRange_of_eager eager ?_
    (blank area bytes stop found growth))).mono ?_ ?_
  · intro page member
    obtain ⟨ordered, below⟩ := stop_of_growth? growth
    exact lt_of_mem_pagesBetween ordered below member
  · rintro _ _ ⟨area, bytes, stop, middle, log, found, growth, rfl, ⟨outline, frames, populated⟩, rfl⟩
    obtain ⟨aligned, rfl, small, -⟩ := growth?_eq_some_iff.mp growth
    have rounded := Geometry.roundsUp_of_alignUp? aligned
    refine ⟨area, bytes, frames, found, rfl, small, ?_⟩
    exact ⟨⟨rounded, congrArg (List.set · id _) outline.areas, outline.regions, outline.populate⟩,
      populated.onto rfl rfl rfl⟩
  · rintro _ after (unmoved | ⟨area, bytes, stop, found, growth, withdrawn⟩)
    · exact .of_unmoved unmoved
    · exact withdrawn

theorem ends_carve_of_eager (eager : stage.Eager) {owner size : Nat}
    (blank : stage.space.GrowsBlank stage.devices.geometry owner size) :
    Ends (carve owner size)
      (fun region after => (∃ start, region = ⟨start, start + size⟩) ∧ after.space.regions = stage.space.regions)
      (fun _ after => stage.Unallotted after ∧
        ((∀ area ∈ stage.space.areas, area.brk ≤ area.stop) → stage.Withdrawn after)) stage := by
  have grows := ends_grow_of_eager eager blank
  have same := Stage.Withdrawn.refl stage
  cases found : stage.space.areas[owner]? with
  | none =>
    have absent : stage.space.area? owner = .error (.noSuchArea owner) := by
      rw [area?, found]
    simp only [carve, ends_bind, ends_space, absent, ends_settle, reduceCtorEq, false_implies, implies_true, true_and]
    exact fun _ _ => ⟨same.unallotted, fun _ => same⟩
  | some area =>
    rw [ends_carve_of_area found]
    split
    · next region free fit =>
      obtain ⟨before, whole, rest, -, -, rfl, -⟩ := FreeList.takeFirstFit?_eq_some fit
      exact ⟨⟨_, rfl⟩, rfl⟩
    · split
      · next region shaped taken =>
        obtain ⟨-, -, rfl, -⟩ := takeFromBreak?_eq_some_iff.mp taken
        exact ⟨⟨_, rfl⟩, rfl⟩
      · by_cases ordered : area.brk ≤ area.stop
        · apply ends_carveGrown_of_grew found ordered
          refine grows.mono ?_ fun _ _ withdrawn => ⟨withdrawn.unallotted, fun _ => withdrawn⟩
          rintro _ middle ⟨grown, bytes, frames, placed, -, small, grew⟩
          obtain rfl := Option.some.inj (found.symm.trans placed)
          exact ⟨bytes, small, grew.toGrew, ⟨_, rfl⟩, grew.regions⟩
        · -- No area of a space is like this; its break stays where it is all the same.
          rw [carveGrown, ends_bind]
          refine grows.mono ?_ fun _ _ withdrawn => ⟨withdrawn.unallotted, fun _ => withdrawn⟩
          rintro _ middle ⟨grown, bytes, frames, placed, -, small, grew⟩
          have unallotted := grew.toGrew.unallotted placed
          have excess : ¬ ∀ area ∈ stage.space.areas, area.brk ≤ area.stop :=
            fun all => ordered (all area (List.mem_of_getElem? found))
          simp only [ends_bind, ends_space, ends_settle]
          refine ⟨fun area _ => ?_, fun _ _ => ⟨unallotted, fun all => absurd all excess⟩⟩
          cases taken : area.takeFromBreak? size with
          | none => exact ⟨unallotted, fun all => absurd all excess⟩
          | some pair =>
            obtain ⟨-, -, same, -⟩ := takeFromBreak?_eq_some_iff.mp taken
            exact ⟨⟨_, same⟩, grew.regions⟩

/-- A region of an area is stored under an id that was not used, and the other ids keep theirs. -/
structure Stored (before : Stage (GuardedTable T)) (owner id size start : Nat) (after : Stage (GuardedTable T)) :
    Prop where
  unused : before.space.regions[id]? = some none
  regions : after.space.regions = before.space.regions.setIfInBounds id (some ⟨owner, ⟨start, start + size⟩⟩)

theorem ends_allocate_of_eager (eager : stage.Eager) {owner size : Nat}
    (blank : stage.space.GrowsBlank stage.devices.geometry owner size) (id : Nat) :
    Ends (allocate owner id size) (fun start after => Stored stage owner id size start after)
      (fun _ after => stage.Unallotted after ∧
        ((∀ area ∈ stage.space.areas, area.brk ≤ area.stop) → stage.Withdrawn after)) stage := by
  have same := Stage.Withdrawn.refl stage
  have unmoved := And.intro same.unallotted fun (_ : ∀ area ∈ stage.space.areas, area.brk ≤ area.stop) => same
  simp only [allocate, ends_bind, ends_space, ends_settle]
  refine ⟨fun slot found => ?_, fun _ _ => unmoved⟩
  cases slot with
  | some live => exact unmoved
  | none =>
    simp only [ends_ite, ends_bind, ends_throw]
    refine ⟨fun _ => unmoved, fun _ => ?_⟩
    apply (ends_carve_of_eager eager blank).answers
    rintro _ middle ⟨⟨start, rfl⟩, regions⟩
    simp only [ends_bind, ends_modifySpace, ends_emit, ends_pure]
    exact ⟨slot?_eq_ok_iff.mp found, congrArg (Vector.setIfInBounds · id _) regions⟩

/-- Growth under eager population, and any allocation that depends on it, succeeds as a whole or not at all. -/
theorem growth_all_or_none (eager : stage.Eager) (owner size : Nat)
    (blank : stage.space.GrowsBlank stage.devices.geometry owner size) :
    (∀ reason after, grow owner size stage = .error reason after → stage.Withdrawn after) ∧
    (∀ answer after, grow owner size stage = .ok answer after →
      ∃ area bytes frames, stage.space.areas[owner]? = some area ∧ answer = area.stop ∧
        GrewEagerly stage owner size bytes area frames after) ∧
    ∀ id, (∀ reason after, allocate owner id size stage = .error reason after → stage.Unallotted after ∧
        ((∀ area ∈ stage.space.areas, area.brk ≤ area.stop) → stage.Withdrawn after)) ∧
      ∀ start after, allocate owner id size stage = .ok start after → Stored stage owner id size start after := by
  have grows := ends_grow_of_eager eager blank
  have allocates := ends_allocate_of_eager eager blank
  refine ⟨fun reason after failed => grows.of_error failed, fun answer after grown => ?_, fun id =>
    ⟨fun reason after failed => (allocates id).of_error failed, fun start after stored => (allocates id).of_ok stored⟩⟩
  obtain ⟨area, bytes, frames, found, stop, -, grew⟩ := grows.of_ok grown
  exact ⟨area, bytes, frames, found, stop, grew⟩

end Growth

end Space

namespace Host

/-- A space that maps its pages when they are reserved, and no page yet. -/
def eagerRun : List Operation := [.add .eager (.flat 4)]

private theorem growths_after_eager :
    ∃ machine space, MemoryConfig.twofold.build = .ok machine ∧
      ((start machine).after eagerRun).space? 0 = some space ∧ space.populate = .eager ∧
      space.table = .flat (.ofPages 4) ∧
      (onStage (Space.grow 0 512) ((((start machine).after eagerRun).stage space).guardedBy
        (Refusal.anyOf [⟨1, .present⟩]))).1 = .error (.table (.outOfRange 1 1)) ∧
      (onStage (Space.grow 0 512) ((((start machine).after eagerRun).stage space).guardedBy
        (Refusal.anyOf [⟨1, .dirty⟩]))).1 = .ok 0 :=
  ⟨_, _, rfl, rfl, rfl, rfl, by decide +kernel, by decide +kernel⟩

/-- When page 1 cannot be mapped, the frame of page 0 goes back too; under another guard both pages are mapped. -/
theorem growth_all_or_none_of_eager :
    ∃ machine space, MemoryConfig.twofold.build = .ok machine ∧
      ((start machine).after eagerRun).space? 0 = some space ∧
      (∃ stage after, stage = (((start machine).after eagerRun).stage space).guardedBy (Refusal.anyOf [⟨1, .present⟩]) ∧
        Space.grow 0 512 stage = .error (.table (.outOfRange 1 1)) after ∧ stage.Withdrawn after) ∧
      ∃ stage after area bytes frames,
        stage = (((start machine).after eagerRun).stage space).guardedBy (Refusal.anyOf [⟨1, .dirty⟩]) ∧
        Space.grow 0 512 stage = .ok 0 after ∧ Space.GrewEagerly stage 0 512 bytes area frames after := by
  obtain ⟨machine, space, built, found, populate, table, failed, grown⟩ := growths_after_eager
  have sound := (custody_after built (by decide) eagerRun).sound
  refine ⟨machine, space, built, found, ?_⟩
  generalize (start machine).after eagerRun = host at *
  have blank (page : Nat) : PageTable.lookup space.table page = .zero := by
    rw [table]
    exact FlatTable.lookup_ofPages 4 page
  have eager (pattern) (member : pattern ∈ [EntryClass.present, .dirty]) :
      ((host.stage space).guardedBy (Refusal.anyOf [⟨1, pattern⟩])).Eager := by
    refine ⟨sound, populate, fun page frame named => ?_, fun page => ?_⟩
    · have zero : PageTable.lookup ((host.stage space).guardedBy (Refusal.anyOf [⟨1, pattern⟩])).space.table page =
          .zero := blank page
      rw [zero, Entry.frame?, Entry.state_zero] at named
      contradiction
    · by_cases same : page = 1
      · subst same
        show Refusal.anyOf [⟨1, pattern⟩] 1 .zero = false
        revert pattern
        decide
      · exact Space.anyOf_of_ne same _
  have blank_growth (refuses : Nat → Entry → Bool) :
      ((host.stage space).guardedBy refuses).space.GrowsBlank host.machine.devices.geometry 0 512 :=
    fun _ _ _ _ _ page _ => blank page
  have stopped := Space.growth_all_or_none (eager .present (by decide)) 0 512 (blank_growth _)
  have passed := Space.growth_all_or_none (eager .dirty (by decide)) 0 512 (blank_growth _)
  constructor
  · have ran := ran_of_onStage_error failed
    exact ⟨_, _, rfl, ran, stopped.1 _ _ ran⟩
  · have ran := ran_of_onStage_ok grown
    obtain ⟨area, bytes, frames, -, -, grew⟩ := passed.2.1 _ _ ran
    exact ⟨_, _, area, bytes, frames, rfl, ran, grew⟩

end Host

end DemandPaging
