import DemandPaging.Proofs.EagerMapping

/-! # Frames stranded by a growth

A page is stranded on a frame that it still names when the frame is free again: the next page-in that needs a
frame may be given the same one. A growth that a guard cuts short gives back all of its frames, also that of a
page whose clearing the guard refuses. So the pages that were mapped and cannot be cleared are stranded, and no
others are; if the guard lets every page be cleared, or stops the growth before the first page, none is.
-/

namespace DemandPaging

/-- A page names a frame of RAM that is free. -/
structure Stage.Stranded {T : Type} [PageTable T] (stage : Stage T) (page frame : Nat) : Prop where
  named : (PageTable.lookup stage.space.table page).frame? = some frame
  free : frame ∈ stage.devices.freeOf .ram

namespace Space

section Guarded

variable {T : Type} [PageTable T] {stage after : Stage (GuardedTable T)} {pages frames : List Nat}
  {done : List (Nat × Nat)} {item : Nat × Nat}

theorem Unmoved.stranded_iff {T : Type} [PageTable T] {stage after : Stage T} (unmoved : Unmoved stage after)
    (page frame : Nat) : after.Stranded page frame ↔ stage.Stranded page frame := by
  have lookup : PageTable.lookup after.space.table page = PageTable.lookup stage.space.table page :=
    congrArg (fun memory => memory.lookup page) unmoved.memory
  have devices : after.devices = stage.devices := congrArg Memory.devices unmoved.memory
  constructor
  · rintro ⟨named, free⟩
    exact ⟨lookup ▸ named, devices ▸ free⟩
  · rintro ⟨named, free⟩
    exact ⟨lookup.symm ▸ named, devices.symm ▸ free⟩

/-- The pages that were mapped and cannot be cleared are stranded on the frames that they were given. -/
theorem CutShort.stranded_iff (cut : CutShort stage pages frames done item after)
    (unstranded : ∀ page frame, ¬ stage.Stranded page frame) (page frame : Nat) :
    after.Stranded page frame ↔ (page, frame) ∈ done ∧ stage.space.table.refuses page .zero = true := by
  constructor
  · rintro ⟨named, free⟩
    by_cases mapped : page ∈ done.map Prod.fst
    · obtain ⟨pair, member, rfl⟩ := List.mem_map.mp mapped
      cases refused : stage.space.table.refuses pair.1 .zero with
      | true =>
        obtain ⟨_, present⟩ := Entry.frame?_eq_some_iff.mp named
        obtain ⟨rfl, -⟩ := EntryState.present.inj ((cut.stuck pair member refused).symm.trans present)
        exact ⟨member, rfl⟩
      | false =>
        rw [cut.cleared pair member refused, Entry.frame?, Entry.state_zero] at named
        contradiction
    · rw [cut.others page mapped] at named
      exact absurd ⟨named, cut.devices.free.mem_iff.mp free⟩ (unstranded page frame)
  · rintro ⟨member, refused⟩
    obtain ⟨rest, -, free⟩ := cut.free
    have inside := List.of_mem_zip (cut.split.subset (List.mem_append_left _ member))
    refine ⟨Entry.frame?_eq_some_iff.mpr ⟨false, cut.stuck _ member refused⟩, ?_⟩
    rw [free, List.mem_append, List.mem_reverse]
    exact .inl inside.2

theorem ends_grow_of_guard [TotalTable T] (sound : stage.devices.Sound) (eager : stage.space.populate = .eager)
    (id size : Nat) :
    Ends (grow id size) (fun _ _ => True)
      (fun reason after => Unmoved stage after ∨
        ∃ area bytes stop frames done item, stage.space.areas[id]? = some area ∧
          stage.space.growth? stage.devices.geometry area.stop size = some (bytes, stop) ∧
          reason = .table (.outOfRange item.1 item.1) ∧
          CutShort stage (pagesBetween stage.devices.geometry area.stop stop) frames done item after) stage := by
  refine (ends_grow_of_mapping eager fun area bytes stop _ growth => ends_mapRange_of_guard sound ?_).mono
    (fun _ _ _ => trivial) ?_
  · intro page member
    obtain ⟨ordered, below⟩ := stop_of_growth? growth
    exact lt_of_mem_pagesBetween ordered below member
  · rintro _ after (unmoved | ⟨area, bytes, stop, found, growth, ⟨-, log, rfl⟩ | ⟨frames, done, item, named, cut⟩⟩)
    · exact .inl unmoved
    · exact .inl ⟨rfl, .refl _, rfl⟩
    · exact .inr ⟨area, bytes, stop, frames, done, item, found, growth, named, cut⟩

/-- After a growth that failed either all is as before, or a page could not be mapped. The pages before it
are then stranded exactly if they cannot be cleared. -/
theorem stranded_after_growth [TotalTable T] (sound : stage.devices.Sound) (eager : stage.space.populate = .eager)
    (unstranded : ∀ page frame, ¬ stage.Stranded page frame) {id size : Nat} {reason : MemoryError}
    (failed : grow id size stage = .error reason after) :
    (Unmoved stage after ∧ ∀ page frame, ¬ after.Stranded page frame) ∨
      ∃ area bytes stop frames done item, stage.space.areas[id]? = some area ∧
        stage.space.growth? stage.devices.geometry area.stop size = some (bytes, stop) ∧
        reason = .table (.outOfRange item.1 item.1) ∧
        CutShort stage (pagesBetween stage.devices.geometry area.stop stop) frames done item after ∧
        (∀ page frame, after.Stranded page frame ↔
          (page, frame) ∈ done ∧ stage.space.table.refuses page .zero = true) ∧
        ((∀ page frame, ¬ after.Stranded page frame) ↔
          ∀ pair ∈ done, stage.space.table.refuses pair.1 .zero = false) := by
  rcases (ends_grow_of_guard sound eager id size).of_error failed with unmoved |
    ⟨area, bytes, stop, frames, done, item, found, growth, named, cut⟩
  · refine .inl ⟨unmoved, fun page frame => ?_⟩
    rw [unmoved.stranded_iff]
    exact unstranded page frame
  · have strands := cut.stranded_iff unstranded
    refine .inr ⟨area, bytes, stop, frames, done, item, found, growth, named, cut, strands, ?_⟩
    simp only [strands, not_and, Bool.not_eq_true, Prod.forall]

end Guarded

end Space

namespace Host

/-- A space without pages, behind a guard that lets page 1 not be mapped and page 0 not be cleared. -/
def unclearable (machine : Machine) (space : Space StandardTable) : Stage (GuardedTable StandardTable) :=
  (((start machine).after eagerRun).stage space).guardedBy (Refusal.anyOf [⟨1, .present⟩, ⟨0, .absent⟩])

private theorem growth_of_unclearable :
    ∃ machine space after middle, MemoryConfig.twofold.build = .ok machine ∧
      ((start machine).after eagerRun).space? 0 = some space ∧
      (unclearable machine space).space.populate = .eager ∧ space.table = .flat (.ofPages 4) ∧
      after = (onStage (Space.grow 0 512) (unclearable machine space)).2 ∧
      middle = (onStage (Space.resolve 2) after).2 ∧
      (onStage (Space.grow 0 512) (unclearable machine space)).1 = .error (.table (.outOfRange 1 1)) ∧
      (PageTable.lookup after.space.table 0).frame? = some 0 ∧ 0 ∈ after.devices.freeOf .ram ∧
      (onStage (Space.resolve 2) after).1 = .ok 1 ∧ (onStage (Space.resolve 3) middle).1 = .ok 0 ∧
      (PageTable.lookup (onStage (Space.resolve 3) middle).2.space.table 0).frame? = some 0 ∧
      (PageTable.lookup (onStage (Space.resolve 3) middle).2.space.table 3).frame? = some 0 :=
  ⟨_, _, _, _, rfl, rfl, rfl, rfl, rfl, rfl, by decide +kernel, by decide +kernel, by decide +kernel,
    by decide +kernel, by decide +kernel, by decide +kernel, by decide +kernel⟩

private theorem unstranded_of_blank {machine : Machine} {space : Space StandardTable}
    (table : space.table = .flat (.ofPages 4)) (page frame : Nat) :
    ¬ (unclearable machine space).Stranded page frame := by
  rintro ⟨named, -⟩
  have blank : PageTable.lookup (unclearable machine space).space.table page = .zero := by
    show PageTable.lookup space.table page = .zero
    rw [table]
    exact FlatTable.lookup_ofPages 4 page
  rw [blank, Entry.frame?, Entry.state_zero] at named
  contradiction

/-- Page 1 cannot be mapped, and page 0 is stranded as it cannot be cleared. -/
theorem stranded_after_growth_of_unclearable :
    ∃ machine space after, MemoryConfig.twofold.build = .ok machine ∧
      ((start machine).after eagerRun).space? 0 = some space ∧
      (unclearable machine space).devices.Sound ∧ (unclearable machine space).space.populate = .eager ∧
      (∀ page frame, ¬ (unclearable machine space).Stranded page frame) ∧
      Space.grow 0 512 (unclearable machine space) = .error (.table (.outOfRange 1 1)) after ∧
      ∃ pages frames done item, Space.CutShort (unclearable machine space) pages frames done item after ∧
        ∀ page frame, after.Stranded page frame ↔
          (page, frame) ∈ done ∧ (unclearable machine space).space.table.refuses page .zero = true := by
  obtain ⟨machine, space, after, middle, built, found, eager, table, rfl, -, failed, named, free, -⟩ :=
    growth_of_unclearable
  have sound : (unclearable machine space).devices.Sound := (custody_after built (by decide) eagerRun).sound
  have unstranded (page frame : Nat) : ¬ (unclearable machine space).Stranded page frame :=
    unstranded_of_blank table page frame
  have ran := ran_of_onStage_error failed
  refine ⟨machine, space, _, built, found, sound, eager, unstranded, ran, ?_⟩
  rcases Space.stranded_after_growth sound eager unstranded ran with
    ⟨-, none⟩ | ⟨area, bytes, stop, frames, done, item, -, -, -, cut, strands, -⟩
  · exact absurd ⟨named, free⟩ (none 0 0)
  · exact ⟨_, frames, done, item, cut, strands⟩

/-- After a growth that failed, page 0 names a frame that is free, and the second page-in is given it. -/
theorem frame_shared_after_failed_growth :
    ∃ machine space reason after middle last, MemoryConfig.twofold.build = .ok machine ∧
      ((start machine).after eagerRun).space? 0 = some space ∧
      (∀ page frame, ¬ (unclearable machine space).Stranded page frame) ∧
      Space.grow 0 512 (unclearable machine space) = .error reason after ∧ after.Stranded 0 0 ∧
      Space.resolve 2 after = .ok 1 middle ∧ Space.resolve 3 middle = .ok 0 last ∧
      (PageTable.lookup last.space.table 0).frame? = some 0 ∧
      (PageTable.lookup last.space.table 3).frame? = some 0 := by
  obtain ⟨machine, space, after, middle, built, found, -, table, rfl, rfl, failed, named, free, first, second, page_0,
    page_3⟩ := growth_of_unclearable
  exact ⟨machine, space, _, _, _, _, built, found, unstranded_of_blank table, ran_of_onStage_error failed,
    ⟨named, free⟩, ran_of_onStage_ok first, ran_of_onStage_ok second, page_0, page_3⟩

end Host

end DemandPaging
