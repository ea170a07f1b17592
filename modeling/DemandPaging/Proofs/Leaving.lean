import DemandPaging.Proofs.Reserving

/-! # Teardown from outside

A teardown goes through the mapped entries of a table and gives back the home of each before it clears
it. As no two pages share a home, no release is refused; as every page of the table can be written, no
clear is. What remains is a space without homes, on devices where exactly the reserved homes are in use.
-/

namespace DemandPaging.Space

open Paging

variable {T : Type} [PageTable T]

/-- No page has a home, and the reserved homes are as they were. -/
structure Left [LawfulTable T] (before : Stage T) (reserved : Set Home) (after : Stage T) : Prop where
  custody : after.memory.Custody reserved
  keeps : before.Keeps reserved Set.univ after
  homeOf : ∀ page, after.memory.homeOf page = none

/-- A teardown with some entries still to come. -/
structure Leaving [LawfulTable T] (before : Stage T) (reserved : Set Home) (entries : List (Nat × Entry))
    (now : Stage T) : Prop where
  custody : now.memory.Custody reserved
  keeps : before.Keeps reserved Set.univ now
  listed : ∀ slot ∈ entries, now.memory.lookup slot.1 = slot.2
  others : ∀ page, now.memory.homeOf page ≠ none → page ∈ entries.map Prod.fst
  distinct : (entries.map Prod.fst).Nodup

variable [TotalTable T] {stage : Stage T} {reserved : Set Home}

theorem ends_releaseEntry {before : Stage T} {page : Nat} {entry : Entry} {rest : List (Nat × Entry)}
    (leaving : Leaving before reserved ((page, entry) :: rest) stage) :
    Ends (releaseEntry page entry) (fun _ after => Leaving before reserved rest after)
      (fun _ _ => False) stage := by
  obtain ⟨custody, keeps, listed, others, distinct⟩ := leaving
  rw [List.forall_mem_cons] at listed
  rw [List.map_cons, List.nodup_cons] at distinct
  have read : stage.memory.homeOf page = home? entry := by rw [Memory.homeOf, listed.1]
  unfold releaseEntry
  cases named : home? entry with
  | none =>
    refine ⟨custody, keeps, listed.2, fun other homed => ?_, distinct.2⟩
    rcases List.mem_cons.mp (others other homed) with rfl | later
    · exact (homed (read.trans named)).elim
    · exact later
  | some home =>
    obtain ⟨device, frame⟩ := home
    have owned : stage.memory.homeOf page = some (device, frame) := read.trans named
    simp only [ends_bind, ends_reporting, ends_onMachine]
    apply (Machine.ends_release custody.sound (custody.inUse owned)).sure
    intro _ machine returns
    have fits := custody.lt_capacity owned
    let returned : Stage T := { stage with toMachine := machine }
    apply (ends_write_of_lt (show page < returned.memory.capacity from fits) .zero).sure
    intro _ after entered
    have devices : after.devices = machine.devices := entered.writes.devices
    have moved (other : Nat) : after.memory.homeOf other = if other = page then none else stage.memory.homeOf other :=
      entered.writes.homeOf other
    have away (slot) (member : slot ∈ rest) : slot.1 ≠ page :=
      fun same => distinct.1 (List.mem_map.mpr ⟨slot, member, same⟩)
    refine ⟨⟨?_, entered.writes.formed custody.formed, ?_⟩, ?_, fun slot member => ?_, fun other homed => ?_,
      distinct.2⟩
    · rw [Stage.memory, devices]
      exact returns.sound
    · rw [Stage.memory, devices]
      exact custody.accounts.leaves owned returns moved
    · refine keeps.trans ⟨⟨?_, entered.writes.capacity, fun home _ => ?_, fun other none => (none trivial).elim⟩,
        entered.outline⟩
      · rw [Stage.memory, devices]
        exact returns.layout
      · rw [Stage.memory, devices]
        exact returns.bytes home
    · refine (entered.writes.lookup slot.1).trans ?_
      rw [if_neg (away slot member)]
      exact listed.2 slot member
    · rw [moved] at homed
      split at homed
      · exact (homed rfl).elim
      · next elsewhere =>
        rcases List.mem_cons.mp (others other homed) with same | later
        · exact (elsewhere same).elim
        · exact later

theorem ends_teardown (custody : stage.memory.Custody reserved) :
    Ends teardown (fun _ after => Left stage reserved after) (fun _ _ => False) stage := by
  simp only [teardown, ends_bind, ends_space]
  have start : Leaving stage reserved (PageTable.mapped stage.space.table) stage := by
    have distinct := LawfulTable.mapped_pages_nodup custody.formed
    refine ⟨custody, .refl _, fun slot member => ?_, fun page homed => ?_, distinct⟩
    · exact ((LawfulTable.mem_mapped_iff custody.formed).mp member).1
    · refine List.mem_map.mpr ⟨(page, stage.memory.lookup page), ?_, rfl⟩
      refine (LawfulTable.mem_mapped_iff custody.formed).mpr ⟨rfl, fun zero => homed ?_⟩
      rw [Memory.homeOf, zero]
      rfl
  refine (ends_forM (Leaving stage reserved) (fun slot rest now leaving => ?_) start).sure ?_
  · exact ends_releaseEntry leaving
  · intro _ after left
    simp only [ends_bind, ends_modifySpace, ends_emit]
    refine ⟨left.custody, ⟨left.keeps.memory, ⟨left.keeps.outline.populate, left.keeps.outline.areas,
      left.keeps.outline.regions⟩⟩, fun page => ?_⟩
    by_contra homed
    exact (List.not_mem_nil (left.others page homed)).elim

end DemandPaging.Space
