import DemandPaging.Proofs.InBulk
import DemandPaging.Proofs.Reserving

/-! # Mapping behind a guard

Mapping a range takes a frame for each of its pages and puts the frames behind the pages one by one, whatever
entries they had. A guard that refuses one of the pages cuts this short. The pages before it are then cleared,
where the guard lets them, and all the frames go back, also the frame of a page that could not be cleared. No
page outside the range is touched, and the queue learns of the pages only when all are mapped.
-/

namespace DemandPaging.Space

open Paging

variable {T : Type} [PageTable T] {before after stage middle : Stage (GuardedTable T)} {pairs done : List (Nat × Nat)}

/-- Pages of the table, each with a frame in hand. -/
structure Backed (stage : Stage (GuardedTable T)) (pairs : List (Nat × Nat)) : Prop where
  held : ∀ pair ∈ pairs, stage.devices.InUse (.ram, pair.2)
  pages : (pairs.map Prod.fst).Nodup
  frames : (pairs.map Prod.snd).Nodup
  fits : ∀ pair ∈ pairs, pair.1 < PageTable.capacity stage.space.table

/-- Some of the pages have their frames; no other frame than those in hand was written. -/
structure Installed (before : Stage (GuardedTable T)) (pairs done : List (Nat × Nat))
    (after : Stage (GuardedTable T)) : Prop where
  devices : before.devices.Fills .ram (pairs.map Prod.snd) after.devices
  accepted : ∀ pair ∈ done, before.space.table.refuses pair.1 (.ofFrame pair.2) = false
  zeroed : ∀ pair ∈ done, after.devices.bytesAt (.ram, pair.2) = ∅
  mapped : ∀ pair ∈ done, PageTable.lookup after.space.table pair.1 = .ofFrame pair.2
  others : ∀ page, page ∉ done.map Prod.fst →
    PageTable.lookup after.space.table page = PageTable.lookup before.space.table page
  guard : GuardedTable.SameGuard before.space.table after.space.table
  space : after.space = { before.space with table := after.space.table }

/-- Mapping the pages was refused at an item. The pages before it are cleared, or still have the frames that
they were given if the guard refuses to clear them, and the frames are free again. -/
structure CutShort (before : Stage (GuardedTable T)) (pages frames : List Nat) (done : List (Nat × Nat))
    (item : Nat × Nat) (after : Stage (GuardedTable T)) : Prop where
  length : frames.length = pages.length
  split : done ++ [item] <+: pages.zip frames
  accepted : ∀ pair ∈ done, before.space.table.refuses pair.1 (.ofFrame pair.2) = false
  refused : before.space.table.refuses item.1 (.ofFrame item.2) = true
  cleared : ∀ pair ∈ done, before.space.table.refuses pair.1 .zero = false →
    PageTable.lookup after.space.table pair.1 = .zero
  stuck : ∀ pair ∈ done, before.space.table.refuses pair.1 .zero = true →
    (PageTable.lookup after.space.table pair.1).state = .present pair.2 false
  others : ∀ page, page ∉ done.map Prod.fst →
    PageTable.lookup after.space.table page = PageTable.lookup before.space.table page
  free : ∃ rest, before.devices.freeOf .ram = frames ++ rest ∧ after.devices.freeOf .ram = frames.reverse ++ rest
  devices : before.devices.Reorders .ram after.devices
  space : after.space = { before.space with table := after.space.table }

theorem Installed.start (sound : stage.devices.Sound) : Installed stage pairs [] stage where
  devices := .refl sound
  accepted := List.forall_mem_nil _
  zeroed := List.forall_mem_nil _
  mapped := List.forall_mem_nil _
  others _ _ := rfl
  guard := .refl _
  space := rfl

variable [TotalTable T]

/-- One more page has its frame, or its frame alone is zeroed and the guard refused the page. -/
theorem ends_mapZeroed_of_backed (backed : Backed stage pairs) {item : Nat × Nat}
    {rest : List (Nat × Nat)} (split : pairs = done ++ item :: rest) (installed : Installed stage pairs done middle) :
    Ends (mapZeroed item.1 item.2) (fun _ after => Installed stage pairs (done ++ [item]) after)
      (fun reason after => Installed stage pairs done after ∧
        stage.space.table.refuses item.1 (.ofFrame item.2) = true ∧ reason = .table (.outOfRange item.1 item.1))
      middle := by
  have member : item ∈ pairs := by
    rw [split]
    exact List.mem_append_right _ List.mem_cons_self
  have frame_mem : item.2 ∈ pairs.map Prod.snd := List.mem_map_of_mem member
  have pages := backed.pages
  simp only [split, List.map_append, List.map_cons, List.nodup_append, List.nodup_cons] at pages
  have page_new (pair) (before : pair ∈ done) : pair.1 ≠ item.1 :=
    pages.2.2 _ (List.mem_map_of_mem before) _ List.mem_cons_self
  have held := (installed.devices.inUse _).mpr (backed.held item member)
  rw [mapZeroed, ends_bind, ends_onMachine]
  apply (Machine.ends_writeFrame installed.devices.sound held ∅).sure
  intro _ machine stores
  -- Zeroing a frame leaves the frames zeroed that were zeroed before.
  have zeroed (pair) (before : pair ∈ done) : machine.devices.bytesAt (.ram, pair.2) = ∅ := by
    rw [stores.bytes, installed.zeroed pair before, ite_self]
  show Ends (write item.1 (.ofFrame item.2)) _ _ _
  apply (ends_write_of_guard item.1 _).mono
  · rintro _ after ⟨table, written, devices, space⟩
    have lookup (page : Nat) : PageTable.lookup after.space.table page =
        if page = item.1 then .ofFrame item.2 else PageTable.lookup middle.space.table page := by
      rw [space]
      exact LawfulTable.lookup_write written page
    constructor
    case devices =>
      rw [devices]
      exact installed.devices.stores stores frame_mem
    case accepted =>
      rw [List.forall_mem_append, List.forall_mem_singleton]
      refine ⟨installed.accepted, ?_⟩
      rw [← installed.guard.refuses]
      exact (GuardedTable.write_eq_ok_iff.mp written).1
    case zeroed =>
      rw [devices, List.forall_mem_append, List.forall_mem_singleton]
      exact ⟨zeroed, by rw [stores.bytes, if_pos rfl]⟩
    case mapped =>
      rw [List.forall_mem_append, List.forall_mem_singleton]
      constructor
      · intro pair before
        rw [lookup, if_neg (page_new pair before), installed.mapped pair before]
      · rw [lookup, if_pos rfl]
    case others =>
      intro page away
      rw [List.map_append, List.mem_append, not_or] at away
      rw [lookup, if_neg, installed.others page away.1]
      rintro rfl
      exact away.2 (List.mem_singleton_self _)
    case guard =>
      rw [space]
      exact installed.guard.write written
    case space => rw [space, installed.space]
  · rintro _ after ⟨rfl, ⟨refused, rfl⟩ | beyond⟩
    · have refused_by : stage.space.table.refuses item.1 (.ofFrame item.2) = true := by
        rw [← installed.guard.refuses]
        exact refused
      refine ⟨?_, refused_by, rfl⟩
      constructor
      case devices => exact installed.devices.stores stores frame_mem
      case accepted => exact installed.accepted
      case zeroed => exact zeroed
      case mapped => exact installed.mapped
      case others => exact installed.others
      case guard => exact installed.guard
      case space => exact installed.space
    · have fits : item.1 < PageTable.capacity middle.space.table := by
        rw [installed.guard.capacity]
        exact backed.fits item member
      exact absurd fits (Nat.not_lt.mpr beyond)

/-- The pages that have frames are cleared where the guard lets them, and all frames go back. -/
theorem ends_withdraw (reason : MemoryError) (backed : Backed stage pairs) (subset : done ⊆ pairs)
    (installed : Installed stage pairs done middle) :
    Ends (do
        done.forM fun (page, _) => reporting (clear page) (.pageRollbackFailed page)
        (pairs.map Prod.snd).forM fun frame =>
          reporting (onMachine (Machine.release .ram frame)) (.frameRollbackFailed frame)
        throw reason : Paging (GuardedTable T) Unit)
      (fun _ _ => False)
      (fun failure after => failure = reason ∧
        (∃ filled, stage.devices.Fills .ram (pairs.map Prod.snd) filled ∧
          filled.ReturnsAll .ram (pairs.map Prod.snd) after.devices) ∧
        (∀ page, PageTable.lookup after.space.table page =
          if page ∈ done.map Prod.fst ∧ stage.space.table.refuses page .zero = false then .zero
          else PageTable.lookup middle.space.table page) ∧
        after.space = { stage.space with table := after.space.table }) middle := by
  have fits : ∀ pair ∈ done, pair.1 < PageTable.capacity middle.space.table := by
    intro pair member
    rw [installed.guard.capacity]
    exact backed.fits pair (subset member)
  rw [ends_bind]
  apply (ends_rewriteAll_of_guard Prod.fst (fun _ => .zero) (fun pair => .pageRollbackFailed pair.1)
    (fun _ _ => rfl) fits).sure
  intro _ back cleared
  have sound : back.devices.Sound := cleared.devices ▸ installed.devices.sound
  have held : ∀ frame ∈ pairs.map Prod.snd, back.devices.InUse (.ram, frame) := by
    intro frame member
    obtain ⟨pair, inside, rfl⟩ := List.mem_map.mp member
    rw [cleared.devices]
    exact (installed.devices.inUse _).mpr (backed.held pair inside)
  have frames : ((pairs.map Prod.snd).map id).Nodup := by
    rw [List.map_id]
    exact backed.frames
  rw [ends_bind]
  refine (ends_returnAll id (fun frame now sound held => ?_) sound held frames).sure ?_
  · rw [ends_reporting, ends_onMachine]
    apply (Machine.ends_release sound held).sure
    exact fun _ _ returns => ⟨returns, rfl⟩
  · rintro _ after ⟨returns, space⟩
    rw [List.map_id] at returns
    rw [ends_throw]
    refine ⟨rfl, ⟨_, cleared.devices ▸ installed.devices, returns⟩, fun page => ?_, ?_⟩
    · simp only [space, cleared.lookup, List.mem_filter, installed.guard.refuses, Bool.not_eq_true']
    · rw [space, cleared.space, installed.space]

omit [TotalTable T] in
/-- What was withdrawn is free in the reverse order, and only what could not be cleared is still mapped. -/
theorem CutShort.of_withdrawn {pages frames : List Nat} {item : Nat × Nat} {machine : Machine}
    {filled : DeviceSet} (length : frames.length = pages.length)
    (split : done ++ [item] <+: pages.zip frames) (takes : before.devices.Takes .ram frames machine.devices)
    (installed : Installed { before with toMachine := machine } (pages.zip frames) done middle)
    (refused : before.space.table.refuses item.1 (.ofFrame item.2) = true)
    (fills : machine.devices.Fills .ram frames filled) (returns : filled.ReturnsAll .ram frames after.devices)
    (lookup : ∀ page, PageTable.lookup after.space.table page =
      if page ∈ done.map Prod.fst ∧ before.space.table.refuses page .zero = false then .zero
      else PageTable.lookup middle.space.table page)
    (space : after.space = { before.space with table := after.space.table }) :
    CutShort before pages frames done item after := by
  have inside {pair} (member : pair ∈ done) : pair ∈ pages.zip frames :=
    split.subset (List.mem_append_left _ member)
  constructor
  case length => exact length
  case split => exact split
  case accepted => exact installed.accepted
  case refused => exact refused
  case cleared =>
    intro pair member passes
    rw [lookup, if_pos ⟨List.mem_map_of_mem member, passes⟩]
  case stuck =>
    intro pair member stays
    have held : machine.devices.InUse (.ram, pair.2) :=
      (takes.inUse _).mpr (.inl ⟨rfl, (List.of_mem_zip (inside member)).2⟩)
    rw [lookup, if_neg, installed.mapped pair member]
    · exact takes.sound.state_ofFrame held
    · rw [stays]
      exact fun both => Bool.noConfusion both.2
  case others =>
    intro page away
    rw [lookup, if_neg fun both => away both.1]
    exact installed.others page away
  case free =>
    refine ⟨machine.devices.freeOf .ram, takes.free, ?_⟩
    rw [returns.free, fills.free]
  case devices => exact takes.reorders fills returns
  case space => exact space

theorem ends_mapRange_of_guard {start stop : Nat} (sound : stage.devices.Sound)
    (fits : ∀ page ∈ pagesBetween stage.devices.geometry start stop, page < PageTable.capacity stage.space.table) :
    Ends (mapRange start stop)
      (fun _ after => ∃ frames machine middle log,
        frames.length = (pagesBetween stage.devices.geometry start stop).length ∧
        stage.devices.Takes .ram frames machine.devices ∧
        Installed { stage with toMachine := machine } ((pagesBetween stage.devices.geometry start stop).zip frames)
          ((pagesBetween stage.devices.geometry start stop).zip frames) middle ∧
        after = { middle with
          log
          space := { middle.space with
            resident := middle.space.resident.pushAll (pagesBetween stage.devices.geometry start stop) } })
      (fun reason after =>
        Shortage stage (pagesBetween stage.devices.geometry start stop).length reason ∧
            (∃ log, after = { stage with log }) ∨
          ∃ frames done item, reason = .table (.outOfRange item.1 item.1) ∧
            CutShort stage (pagesBetween stage.devices.geometry start stop) frames done item after) stage := by
  simp only [mapRange, ends_bind, ends_geometry, ends_onMachine]
  have acquires := Machine.ends_acquireMany sound (show stage.devices.get? .ram = some _ from rfl)
  apply (acquires _).sure
  rintro _ machine (⟨rfl, rfl, short⟩ | ⟨frames, rfl, length, takes⟩)
  · refine .inl ⟨?_, _, rfl⟩
    rw [pagesBetween, List.length_range']
    exact ⟨short, rfl⟩
  · generalize pages_eq : pagesBetween stage.devices.geometry start stop = pages at *
    have same : List.range' (stage.devices.geometry.pageOf start)
      (Address.distance start stop >>> stage.devices.geometry.shift) = pages := pages_eq
    have lengths : frames.length = pages.length := by rw [← same, List.length_range', length]
    have firsts : (pages.zip frames).map Prod.fst = pages := List.map_fst_zip lengths.ge
    have seconds : (pages.zip frames).map Prod.snd = frames := List.map_snd_zip lengths.le
    have backed : Backed { stage with toMachine := machine } (pages.zip frames) := by
      constructor
      case held => exact fun pair member => (takes.inUse _).mpr (.inl ⟨rfl, (List.of_mem_zip member).2⟩)
      case pages =>
        rw [firsts, ← same]
        exact List.nodup_range' 1
      case frames =>
        rw [seconds]
        exact takes.nodup
      case fits => exact fun pair member => fits pair.1 (List.of_mem_zip member).1
    rw [same, ends_bind]
    refine (ends_eachUntilFailure (Installed { stage with toMachine := machine } (pages.zip frames))
      (fun done item reason after => Installed { stage with toMachine := machine } (pages.zip frames) done after ∧
        stage.space.table.refuses item.1 (.ofFrame item.2) = true ∧ reason = .table (.outOfRange item.1 item.1))
      (fun _ _ _ split _ installed => ends_mapZeroed_of_backed backed split installed) (.start takes.sound)).sure ?_
    rintro _ middle (⟨rfl, installed⟩ | ⟨done, item, rest, _, split, rfl, installed, refused, rfl⟩)
    · simp only [ends_bind, ends_modifySpace, ends_emit]
      exact ⟨frames, machine, middle, _, lengths, takes, installed, rfl⟩
    · have subset : done ⊆ pages.zip frames := split ▸ List.subset_append_left _ _
      have withdraws := ends_withdraw (.table (.outOfRange item.1 item.1)) backed subset installed
      rw [seconds] at withdraws
      apply withdraws.mono
      · exact fun _ _ never => never.elim
      · rintro _ after ⟨rfl, ⟨filled, fills, returns⟩, lookup, space⟩
        have cut : done ++ [item] <+: pages.zip frames := by
          rw [split, List.prefix_append_right_inj]
          exact List.prefix_append [item] rest
        exact .inr ⟨frames, done, item, rfl,
          .of_withdrawn lengths cut takes installed refused fills returns lookup space⟩

omit [TotalTable T] in
/-- A growth that maps the new pages at once goes on as their mapping does. -/
theorem ends_grow_of_mapping {stage : Stage T} {id size : Nat} (eager : stage.space.populate = .eager)
    {mapped : Area → Nat → Stage T → Prop} {stopped : Area → Nat → MemoryError → Stage T → Prop}
    (maps : ∀ area bytes stop, stage.space.areas[id]? = some area →
      stage.space.growth? stage.devices.geometry area.stop size = some (bytes, stop) →
      Ends (mapRange area.stop stop) (fun _ after => mapped area stop after) (stopped area stop) stage) :
    Ends (grow id size)
      (fun answer after => ∃ area bytes stop middle log, stage.space.areas[id]? = some area ∧
        stage.space.growth? stage.devices.geometry area.stop size = some (bytes, stop) ∧ answer = area.stop ∧
        mapped area stop middle ∧ after = { middle with log, space := middle.space.setArea id { area with stop } })
      (fun reason after => Unmoved stage after ∨
        ∃ area bytes stop, stage.space.areas[id]? = some area ∧
          stage.space.growth? stage.devices.geometry area.stop size = some (bytes, stop) ∧
          stopped area stop reason after) stage := by
  have same : Unmoved stage stage := ⟨rfl, .refl _, rfl⟩
  simp only [grow, ends_bind, ends_ite, ends_throw, ends_space, ends_settle, ends_geometry]
  refine ⟨fun _ => .inl same, fun _ => ⟨fun area found => ?_, fun _ _ => .inl same⟩⟩
  have at_id := area?_eq_ok_iff.mp found
  cases growth : stage.space.growth? stage.devices.geometry area.stop size with
  | none => exact .inl same
  | some pair =>
    obtain ⟨bytes, stop⟩ := pair
    have maps_range := maps area bytes stop at_id growth
    simp only [ends_bind]
    refine (ends_checkOverlap id area.stop stop).mono ?_ fun _ _ rejected => .inl rejected.toUnmoved
    rintro _ stage ⟨rfl, -⟩
    rw [if_pos eager, ends_bind]
    apply maps_range.mono
    · intro _ middle done
      simp only [ends_bind, ends_modifySpace, ends_emit, ends_pure]
      exact ⟨area, bytes, stop, middle, _, at_id, growth, rfl, done, rfl⟩
    · exact fun _ after failed => .inr ⟨area, bytes, stop, at_id, growth, failed⟩

end DemandPaging.Space
