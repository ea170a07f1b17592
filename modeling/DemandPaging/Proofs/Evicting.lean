import DemandPaging.Proofs.Accessing
import DemandPaging.Space.Evict

/-! # Evictions from outside

Evicting a range writes its resident pages to slots that were taken for all of them at once, and then
gives their frames back. No write can fail while the slots are in hand, so an eviction fails before it
changes anything or not at all; no content changes. What changes is that the pages of the range are
swapped and have left the queue, where the others keep their order.
-/

namespace DemandPaging.Space

open Paging

variable {T : Type} [PageTable T]

section Resident

variable {table : T} {first pages : Nat}

theorem mem_residentIn {held : ResidentPage} (member : held ∈ residentIn table first pages) :
    (PageTable.lookup table held.page).frame? = some held.frame := by
  obtain ⟨page, -, found⟩ := List.mem_filterMap.mp member
  obtain ⟨frame, read, rfl⟩ := Option.map_eq_some_iff.mp found
  exact read

theorem entry_of_mem_residentIn {held : ResidentPage} (member : held ∈ residentIn table first pages) :
    held.entry = PageTable.lookup table held.page := by
  obtain ⟨page, -, found⟩ := List.mem_filterMap.mp member
  obtain ⟨frame, -, rfl⟩ := Option.map_eq_some_iff.mp found
  rfl

theorem home?_of_mem_residentIn {held : ResidentPage} (member : held ∈ residentIn table first pages) :
    home? (PageTable.lookup table held.page) = some (.ram, held.frame) := by
  obtain ⟨dirty, state⟩ := Entry.frame?_eq_some_iff.mp (mem_residentIn member)
  simp only [home?, state]

/-- The pages of a range that are resident, in ascending order. -/
def residentPages (table : T) (first pages : Nat) : List Nat := (residentIn table first pages).map ResidentPage.page

theorem residentPages_nodup : (residentPages table first pages).Nodup := by
  rw [List.Nodup, residentPages, List.pairwise_map, residentIn, List.pairwise_filterMap]
  refine (List.nodup_range' (s := first) (n := pages) 1).imp fun distinct one found other present => ?_
  obtain ⟨_, -, rfl⟩ := Option.map_eq_some_iff.mp found
  obtain ⟨_, -, rfl⟩ := Option.map_eq_some_iff.mp present
  exact distinct

theorem residentPages_eq_filter : residentPages table first pages =
    (List.range' first pages).filter fun page => (PageTable.lookup table page).frame?.isSome := by
  rw [residentPages, residentIn, List.map_filterMap, ← List.filterMap_eq_filter]
  apply List.filterMap_congr
  intro page _
  simp only [Option.map_map, Function.comp_def, Option.guard]
  split
  · next there =>
    obtain ⟨frame, read⟩ := Option.isSome_iff_exists.mp there
    rw [read, Option.map_some]
  · next away => rw [Option.not_isSome_iff_eq_none.mp away, Option.map_none]

omit [PageTable T]

/-- Pages that do not share frames have frames of their own. -/
theorem frames_nodup {held : List ResidentPage} (pages : (held.map ResidentPage.page).Nodup)
    (apart : ∀ one ∈ held, ∀ other ∈ held, one.frame = other.frame → one.page = other.page) :
    (held.map ResidentPage.frame).Nodup := by
  rw [List.Nodup, List.pairwise_map] at pages ⊢
  exact pages.imp_of_mem fun first second distinct same => distinct (apart _ first _ second same)

/-- What is read off the pages of a pairing is read off the pages. -/
theorem map_zip_fst {α : Type} {held : List ResidentPage} {slots : List Nat} (length : slots.length = held.length)
    (read : ResidentPage → α) : (held.zip slots).map (fun pair => read pair.1) = held.map read := by
  have firsts : (held.zip slots).map Prod.fst = held := List.map_fst_zip length.ge
  rw [← congrArg (List.map read) firsts, List.map_map]
  rfl

end Resident

variable [TotalTable T] {stage : Stage T} {reserved : Set Home}

/-- Every page was written to its slot; the frames of all of them are in hand. -/
structure AllWrittenOut (before : Stage T) (reserved : Set Home) (device : Nat)
    (pairs : List (ResidentPage × Nat)) (after : Stage T) : Prop where
  custody : after.memory.Custody (homesOn .ram (pairs.map fun pair => pair.1.frame) ∪ reserved)
  keeps : before.Keeps reserved ∅ after
  resident : after.space.resident = before.space.resident
  swapped : ∀ pair ∈ pairs, after.memory.homeOf pair.1.page = some (.swap device, pair.2)
  others : ∀ page, (∀ pair ∈ pairs, pair.1.page ≠ page) →
    after.memory.lookup page = before.memory.lookup page

/-- One page was written out, and then the others were. -/
private theorem AllWrittenOut.cons {before middle after : Stage T} {device slot : Nat} {item : ResidentPage}
    {rest : List (ResidentPage × Nat)} {others : Set Home} (superset : reserved ⊆ others)
    (written : WrittenOut before others item.page item.frame ⟨device, slot⟩ middle)
    (all : AllWrittenOut middle (insert (.ram, item.frame) reserved) device rest after)
    (distinct : ∀ pair ∈ rest, pair.1.page ≠ item.page) :
    AllWrittenOut before reserved device ((item, slot) :: rest) after := by
  refine ⟨?_, ?_, ?_, ?_, fun page away => ?_⟩
  · have custody := all.custody
    rwa [Set.union_insert, ← Set.insert_union, ← homesOn_cons] at custody
  · have keeps := written.keeps.mono superset subset_rfl
    exact keeps.trans (all.keeps.mono (Set.subset_insert _ _) subset_rfl)
  · rw [all.resident, written.resident]
  · rw [List.forall_mem_cons]
    refine ⟨?_, all.swapped⟩
    have kept := all.others item.page distinct
    rw [Memory.homeOf, kept, written.lookup, if_pos rfl]
    simp only [home?, written.state]
  · rw [List.forall_mem_cons] at away
    rw [all.others page away.2, written.lookup, if_neg away.1.symm]

private theorem ends_eachWriteOut {device : Nat} {pairs : List (ResidentPage × Nat)}
    (custody : stage.memory.Custody (homesOn (.swap device) (pairs.map Prod.snd) ∪ reserved))
    (apart : ∀ pair ∈ pairs, (.swap device, pair.2) ∉ reserved) (slots : (pairs.map Prod.snd).Nodup)
    (held : ∀ pair ∈ pairs, stage.memory.homeOf pair.1.page = some (.ram, pair.1.frame))
    (pages : (pairs.map fun pair => pair.1.page).Nodup) :
    Ends (eachUntilFailure (fun (held, slot) => writeOut held.page held.frame device slot) pairs)
      (fun result after => result.2 = none ∧ AllWrittenOut stage reserved device pairs after)
      (fun _ _ => False) stage := by
  induction pairs generalizing stage reserved with
  | nil =>
    rw [List.map_nil, homesOn_nil, Set.empty_union] at custody
    refine ⟨rfl, ?_, .refl _, rfl, List.forall_mem_nil _, fun _ _ => rfl⟩
    rwa [List.map_nil, homesOn_nil, Set.empty_union]
  | cons pair rest ih =>
    obtain ⟨item, slot⟩ := pair
    simp only [List.map_cons, List.nodup_cons, List.forall_mem_cons] at slots pages held apart custody
    rw [homesOn_cons, Set.insert_union] at custody
    have fresh : (.swap device, slot) ∉ homesOn (.swap device) (rest.map Prod.snd) ∪ reserved := by
      rintro (member | member)
      · exact slots.1 member.2
      · exact apart.1 member
    simp only [eachUntilFailure, ends_bind, ends_attempt]
    apply (ends_writeOut custody fresh held.1).sure
    intro _ middle written
    have custody_now := written.custody
    rw [← Set.union_insert] at custody_now
    have distinct (pair) (member : pair ∈ rest) : pair.1.page ≠ item.page :=
      fun same => pages.1 (List.mem_map.mpr ⟨pair, member, same⟩)
    have apart_now : ∀ pair ∈ rest, (.swap device, pair.2) ∉ insert (DeviceId.ram, item.frame) reserved := by
      rintro pair member (same | kept)
      · cases same
      · exact apart.2 pair member kept
    have held_now : ∀ pair ∈ rest, middle.memory.homeOf pair.1.page = some (.ram, pair.1.frame) := by
      intro pair member
      rw [Memory.homeOf, written.lookup, if_neg (distinct pair member)]
      exact held.2 pair member
    rw [ends_bind]
    apply (ih custody_now apart_now slots.2 held_now pages.2).sure
    rintro ⟨_, _⟩ after ⟨rfl, all⟩
    exact ⟨rfl, .cons Set.subset_union_right written all distinct⟩

theorem ends_writeOutAll {device : Nat} {pairs : List (ResidentPage × Nat)}
    (custody : stage.memory.Custody (homesOn (.swap device) (pairs.map Prod.snd) ∪ reserved))
    (apart : ∀ pair ∈ pairs, (.swap device, pair.2) ∉ reserved) (slots : (pairs.map Prod.snd).Nodup)
    (held : ∀ pair ∈ pairs, stage.memory.homeOf pair.1.page = some (.ram, pair.1.frame))
    (pages : (pairs.map fun pair => pair.1.page).Nodup) :
    Ends (writeOutAll device pairs) (fun _ after => AllWrittenOut stage reserved device pairs after)
      (fun _ _ => False) stage := by
  rw [writeOutAll, ends_bind]
  apply (ends_eachWriteOut custody apart slots held pages).sure
  rintro ⟨_, _⟩ after ⟨rfl, all⟩
  exact all

/-- The frames of pages that were written out go back one after the other. -/
theorem ends_retireAll (device : Nat) {pairs : List (ResidentPage × Nat)}
    (custody : stage.memory.Custody (homesOn .ram (pairs.map fun pair => pair.1.frame) ∪ reserved))
    (apart : ∀ pair ∈ pairs, (.ram, pair.1.frame) ∉ reserved)
    (frames : (pairs.map fun pair => pair.1.frame).Nodup) :
    Ends (pairs.forM fun (held, slot) => retire device held slot)
      (fun _ after => after.memory.Custody reserved ∧ DeviceMove stage reserved after)
      (fun _ _ => False) stage := by
  induction pairs generalizing stage with
  | nil =>
    rw [List.map_nil, homesOn_nil, Set.empty_union] at custody
    exact ⟨custody, rfl, .refl _⟩
  | cons pair rest ih =>
    obtain ⟨item, slot⟩ := pair
    simp only [List.map_cons, List.nodup_cons, List.forall_mem_cons] at frames apart custody
    rw [homesOn_cons, Set.insert_union] at custody
    have fresh : (.ram, item.frame) ∉ homesOn .ram (rest.map fun pair => pair.1.frame) ∪ reserved := by
      rintro (member | member)
      · exact frames.1 member.2
      · exact apart.1 member
    show Ends (retire device item slot >>= fun _ => rest.forM _) _ _ stage
    simp only [retire, ends_bind, ends_reporting, ends_emit]
    apply (ends_release custody fresh).sure
    intro _ middle returned
    let logged : Stage T := { middle with log := .pageEvicted item.page device slot :: middle.log }
    apply (ih (show logged.memory.Custody _ from returned.custody) apart.2 frames.2).sure
    intro _ after back
    exact ⟨back.1, back.2.space.trans returned.space,
      (returned.keeps.mono Set.subset_union_right subset_rfl).trans ⟨back.2.keeps.memory, back.2.keeps.outline⟩⟩

/-- The pages `gone` are swapped and left the queue. -/
structure RangeEvicted (before : Stage T) (reserved : Set Home) (gone : List Nat) (after : Stage T) : Prop where
  custody : after.memory.Custody reserved
  keeps : before.Keeps reserved ∅ after
  resident : after.space.resident.toList = before.space.resident.toList.filter fun page => page ∉ gone
  held : ∀ page ∈ gone, ∃ frame, before.memory.homeOf page = some (.ram, frame)
  swapped : ∀ page ∈ gone, ∃ slot, after.memory.homeOf page = some (.swap before.devices.active, slot)
  others : ∀ page, page ∉ gone → after.memory.lookup page = before.memory.lookup page

/-- The part of an eviction that comes after its slots were taken. -/
private theorem ends_evictTo {before : Stage T} {held : List ResidentPage} {slots : List Nat} {device : Nat}
    (taken : Taken before reserved (.swap device) slots stage) (custody : before.memory.Custody reserved)
    (active : device = before.devices.active) (length : slots.length = held.length)
    (pages : (held.map ResidentPage.page).Nodup)
    (named : ∀ item ∈ held, before.memory.homeOf item.page = some (.ram, item.frame)) :
    Ends (do
        writeOutAll device (held.zip slots)
        modifySpace fun space =>
          { space with resident := space.resident.without (held.map ResidentPage.page) }
        (held.zip slots).forM fun (held, slot) => retire device held slot
        return held.length)
      (fun _ after => RangeEvicted before reserved (held.map ResidentPage.page) after)
      (fun _ _ => False) stage := by
  have seconds : (held.zip slots).map Prod.snd = slots := List.map_snd_zip length.le
  have member (pair) (member : pair ∈ held.zip slots) : pair.1 ∈ held ∧ pair.2 ∈ slots := List.of_mem_zip member
  have pages_eq := map_zip_fst length ResidentPage.page
  have frames_eq := map_zip_fst length ResidentPage.frame
  have frames : (held.map ResidentPage.frame).Nodup := by
    apply frames_nodup pages
    intro one first other second same
    exact custody.accounts.unshared _ _ _ (named one first) (same ▸ named other second)
  have held_now (pair) (inside : pair ∈ held.zip slots) :
      stage.memory.homeOf pair.1.page = some (.ram, pair.1.frame) :=
    (taken.homeOf _).trans (named _ (member pair inside).1)
  rw [ends_bind]
  refine (ends_writeOutAll (by rw [seconds]; exact taken.custody)
    (fun pair inside => taken.apart _ (member pair inside).2) (by rw [seconds]; exact taken.takes.nodup) held_now
    (by rw [pages_eq]; exact pages)).sure fun _ written all => ?_
  simp only [ends_bind, ends_modifySpace]
  let resident := written.space.resident.without (held.map ResidentPage.page)
  let queued : Stage T := { written with space := { written.space with resident } }
  have retired := ends_retireAll device (show queued.memory.Custody _ from all.custody)
    (fun pair inside => custody.accounts.apart _ _ (named _ (member pair inside).1))
    (by rw [frames_eq]; exact frames)
  apply retired.sure
  intro _ after back
  obtain ⟨custody_now, move⟩ := back
  have homeOf (page : Nat) : after.memory.homeOf page = written.memory.homeOf page := move.homeOf page
  refine ⟨custody_now, ?_, ?_, ?_, ?_, fun page away => ?_⟩
  · refine (taken.keeps.trans all.keeps).trans ⟨move.keeps.memory, ?_⟩
    exact ⟨move.keeps.outline.populate, move.keeps.outline.areas, move.keeps.outline.regions⟩
  · rw [move.space, PageQueue.toList_without, all.resident, taken.space]
  · intro page gone
    obtain ⟨item, inside, rfl⟩ := List.mem_map.mp gone
    exact ⟨_, named item inside⟩
  · intro page gone
    rw [← pages_eq] at gone
    obtain ⟨pair, inside, rfl⟩ := List.mem_map.mp gone
    exact ⟨pair.2, active ▸ (homeOf _).trans (all.swapped pair inside)⟩
  · have elsewhere : ∀ pair ∈ held.zip slots, pair.1.page ≠ page := by
      rintro pair inside rfl
      exact away (List.mem_map_of_mem (member pair inside).1)
    exact (move.lookup page).trans ((all.others page elsewhere).trans (taken.lookup page))

/-- Why a range cannot be evicted, if it cannot. -/
def evictionShortage? (stage : Stage T) (first pages : Nat) : Option MemoryError :=
  if residentPages stage.space.table first pages = [] then none
  else stage.devices.shortage? (residentPages stage.space.table first pages).length

omit [TotalTable T] in
/-- A range that is no range of an area stops an eviction before it changes anything. -/
theorem ends_evictPages_of_refused {start pages : Nat} {reason : MemoryError}
    (refused : stage.space.pageRange stage.devices.geometry start pages = .error reason) :
    Ends (evictPages start pages) (fun _ _ => False) (fun failure after => failure = reason ∧ after = stage) stage := by
  simp only [evictPages, ends_bind, ends_space, ends_geometry, refused, ends_settle_error, and_self]

/-- Past the check of its range, an eviction fails only for want of a device or of slots on it. -/
theorem ends_evictPages_of_pageRange (custody : stage.memory.Custody reserved) {start pages first : Nat}
    (range : stage.space.pageRange stage.devices.geometry start pages = .ok first) :
    Ends (evictPages start pages)
      (fun _ after => evictionShortage? stage first pages = none ∧
        RangeEvicted stage reserved (residentPages stage.space.table first pages) after)
      (fun reason after => evictionShortage? stage first pages = some reason ∧ Rejected stage reason after) stage := by
  simp only [evictPages, ends_bind, ends_space, ends_geometry, range, ends_settle_ok, ends_ite, ends_pure]
  obtain ⟨held, listed⟩ : ∃ held, residentIn stage.space.table first pages = held := ⟨_, rfl⟩
  have shortage : evictionShortage? stage first pages =
      if held = [] then none else stage.devices.shortage? held.length := by
    simp only [evictionShortage?, residentPages, listed, List.map_eq_nil_iff, List.length_map]
  rw [shortage, residentPages, listed]
  refine ⟨fun idle => ?_, fun busy => ?_⟩
  · obtain rfl := List.isEmpty_iff.mp idle
    exact ⟨rfl, custody, .refl _, by simp, by simp, by simp, fun _ _ => rfl⟩
  · have some_held : held ≠ [] := fun none => busy (List.isEmpty_iff.mpr none)
    rw [ends_onMachine, Machine.ends_activeSwap]
    cases found : stage.devices.get? (.swap stage.devices.active) with
    | none => exact ⟨by simp [some_held, DeviceSet.shortage?, found], .refl rfl⟩
    | some device =>
      simp only [ends_bind]
      apply (ends_acquireMany custody found _).sure
      rintro _ middle (⟨rfl, rfl, short⟩ | ⟨slots, rfl, length, taken⟩)
      · exact ⟨by simp [some_held, DeviceSet.shortage?, found, short], .refl rfl⟩
      · have room : held.length ≤ (stage.devices.freeOf (.swap stage.devices.active)).length := by
          rw [taken.takes.free, List.length_append]
          omega
        have nodup : (held.map ResidentPage.page).Nodup := listed ▸ residentPages_nodup
        refine (ends_evictTo taken custody rfl length nodup fun item member => ?_).sure fun _ _ evicted => ⟨?_, evicted⟩
        · exact Memory.homeOf_eq_ram_iff.mpr (mem_residentIn (listed ▸ member))
        · simp [some_held, DeviceSet.shortage?, found, room]

theorem ends_evictPages (custody : stage.memory.Custody reserved) (start pages : Nat) :
    Ends (evictPages start pages) (fun _ after => ∃ gone, RangeEvicted stage reserved gone after)
      (fun reason after => Rejected stage reason after) stage := by
  cases range : stage.space.pageRange stage.devices.geometry start pages with
  | ok first =>
    exact (ends_evictPages_of_pageRange custody range).mono (fun _ _ evicted => ⟨_, evicted.2⟩)
      fun _ _ failed => failed.2
  | error reason =>
    refine (ends_evictPages_of_refused range).mono (fun _ _ never => never.elim) ?_
    rintro _ _ ⟨rfl, rfl⟩
    exact .refl (pageRange_notStale range)

end DemandPaging.Space
