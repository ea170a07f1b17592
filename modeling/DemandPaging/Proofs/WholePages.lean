import DemandPaging.Proofs.FirstFit
import DemandPaging.Proofs.PageArithmetic

/-! # Only whole pages

A size becomes addresses of an area only by rounding, and a range of pages is served only after a check of
its start. As rounding gives the least multiple of the page size and alignment is being rounded already,
an area never ends inside a page once it has started at one, and no range that is served begins or ends
inside a page. None of this depends on the table or on what it refuses.
-/

namespace DemandPaging

variable {T : Type} [PageTable T]

/-- Areas grow by whole pages, and ranges are made of whole pages. -/
structure Stage.InWholePages (stage : Stage T) : Prop where
  /-- An area grows by the least multiple of the page size that holds the bytes, or no area changes. -/
  grow : ∀ id size, Ends (Space.grow id size)
    (fun answer after => ∃ area bytes, stage.space.areas[id]? = some area ∧ answer = area.stop ∧
      area.stop + bytes < Word.limit ∧ IsLeast (stage.devices.geometry.multiplesFrom size) bytes ∧
      after.space.areas = stage.space.areas.set id { area with stop := area.stop + bytes })
    (fun _ after => after.space.areas = stage.space.areas) stage
  /-- So ends that lie between pages stay between pages, whether the growth succeeds or not. -/
  stops : (∀ area ∈ stage.space.areas, stage.devices.geometry.isAligned area.stop = true) →
    ∀ id size, Ends (Space.grow id size)
      (fun _ after => ∀ area ∈ after.space.areas, stage.devices.geometry.isAligned area.stop = true)
      (fun _ after => ∀ area ∈ after.space.areas, stage.devices.geometry.isAligned area.stop = true) stage
  /-- A range is accepted exactly if it starts with a page and its pages lie in one area. -/
  range : ∀ start pages first, stage.space.pageRange stage.devices.geometry start pages = .ok first ↔
    first * stage.devices.geometry.pageSize = start ∧
      (first + pages) * stage.devices.geometry.pageSize < Word.limit ∧
      ∃ area ∈ stage.space.areas, area.start ≤ first * stage.devices.geometry.pageSize ∧
        (first + pages) * stage.devices.geometry.pageSize ≤ area.stop

namespace Space

variable {stage : Stage T}

theorem ends_grow_least (id size : Nat) :
    Ends (grow id size)
      (fun answer after => ∃ area bytes, stage.space.areas[id]? = some area ∧ answer = area.stop ∧
        area.stop + bytes < Word.limit ∧ IsLeast (stage.devices.geometry.multiplesFrom size) bytes ∧
        after.space.areas = stage.space.areas.set id { area with stop := area.stop + bytes })
      (fun _ after => after.space.areas = stage.space.areas) stage := by
  apply (ends_grow_grew id size).mono
  · rintro _ after ⟨area, bytes, found, rfl, small, grew⟩
    exact ⟨area, bytes, found, rfl, small, grew.rounded.isLeast, grew.areas⟩
  · exact fun _ _ same => same.areas

theorem ends_grow_aligned (aligned : ∀ area ∈ stage.space.areas, stage.devices.geometry.isAligned area.stop = true)
    (id size : Nat) :
    Ends (grow id size)
      (fun _ after => ∀ area ∈ after.space.areas, stage.devices.geometry.isAligned area.stop = true)
      (fun _ after => ∀ area ∈ after.space.areas, stage.devices.geometry.isAligned area.stop = true) stage := by
  apply (ends_grow_least id size).mono
  · rintro _ after ⟨area, bytes, found, rfl, -, least, areas⟩ other member
    rw [areas] at member
    rcases List.mem_or_eq_of_mem_set member with kept | rfl
    · exact aligned other kept
    · have before := aligned area (List.mem_of_getElem? found)
      rw [Geometry.isAligned_iff, ← Nat.dvd_iff_mod_eq_zero] at before ⊢
      exact Nat.dvd_add before least.1.1
  · intro _ after areas
    rwa [areas]

omit [PageTable T] in
/-- The pages of an accepted range, counted from the first. -/
theorem pageRange_eq_ok_iff_pages {space : Space T} {geometry : Geometry} {start pages first : Nat} :
    space.pageRange geometry start pages = .ok first ↔
      first * geometry.pageSize = start ∧ (first + pages) * geometry.pageSize < Word.limit ∧
        ∃ area ∈ space.areas, area.start ≤ first * geometry.pageSize ∧
          (first + pages) * geometry.pageSize ≤ area.stop := by
  rw [pageRange_eq_ok_iff, Geometry.isAligned_iff, Nat.add_mul]
  constructor
  · rintro ⟨aligned, rfl, inside⟩
    rw [Geometry.pageOf_mul aligned]
    exact ⟨rfl, inside⟩
  · rintro ⟨rfl, inside⟩
    rw [Nat.mul_mod_left, Geometry.pageOf_eq_div, Nat.mul_div_cancel _ geometry.pageSize_pos]
    exact ⟨rfl, rfl, inside⟩

end Space

theorem Stage.inWholePages (stage : Stage T) : stage.InWholePages where
  grow := Space.ends_grow_least
  stops := Space.ends_grow_aligned
  range _ _ _ := Space.pageRange_eq_ok_iff_pages

/-- Page arithmetic is exact on every word, and so areas and ranges are made of whole pages. -/
theorem Geometry.exact_on_words : (∀ geometry : Geometry, geometry.Masked ∧ geometry.Exact) ∧
    ∀ (T : Type) [PageTable T] (stage : Stage T), stage.InWholePages :=
  ⟨fun geometry => ⟨geometry.masked, geometry.exact⟩, fun _ _ stage => stage.inWholePages⟩

/-- The last page of all words is kept as it is, and a byte more is refused. -/
example : Geometry.standard.alignUp? (2 ^ 64 - 256) = some (2 ^ 64 - 256) ∧
    Geometry.standard.alignUp? (2 ^ 64 - 255) = none ∧ Geometry.standard.pagesFor? (2 ^ 64 - 511) = some (2 ^ 56 - 1) := by
  decide

end DemandPaging
