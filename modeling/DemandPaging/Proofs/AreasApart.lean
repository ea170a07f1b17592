import DemandPaging.Proofs.Partition

/-! # Areas are apart and can be mapped

In every state that a run can reach, on any devices and over a table of any capacity, no two areas claim a
common address, each area stands at its id, and every page of an area is below the capacity of the table,
also where the reach of the table is cut off at the last word. So no access through a live region is
refused by the table. Nothing that a reservation or an access adds up leaves the word, and nothing that it
subtracts is larger than what it is subtracted from.
-/

namespace DemandPaging

namespace Space

variable {T : Type} [PageTable T] {space : Space T} {geometry : Geometry}

/-- The unchecked sums stay within the word, and the unchecked differences have their larger side first. -/
structure InWord (space : Space T) (geometry : Geometry) : Prop where
  /-- The end of the range that is checked for a new area. -/
  created (start : Nat) : start < space.reach geometry → start + 1 < Word.limit
  /-- The end of what an area claims. -/
  claimed (area : Area) : area ∈ space.areas → area.claimedStop < Word.limit
  /-- The length of a free region. -/
  free (area : Area) (region : Region) : area ∈ space.areas → region ∈ area.free →
    region.start ≤ region.stop ∧ region.stop < Word.limit
  /-- The end of what is taken from a free region. -/
  taken (area : Area) (size : Nat) (region : Region) (rest : FreeList) : area ∈ space.areas →
    area.free.takeFirstFit? size = some (region, rest) →
      region.start + size = region.stop ∧ region.stop < Word.limit
  /-- The length of a growth, and the numbers of its pages. -/
  grown (area : Area) (size bytes stop : Nat) : area ∈ space.areas →
    space.growth? geometry area.stop size = some (bytes, stop) →
      area.stop ≤ stop ∧ ∀ page ∈ pagesBetween geometry area.stop stop, page < Word.limit
  /-- The length of a live region. -/
  live (id : Nat) (live : LiveRegion) : space.live? id = .ok live →
    live.region.start ≤ live.region.stop ∧ live.region.stop < Word.limit
  /-- The address of a byte in a live region. -/
  located (id offset address : Nat) : space.address? id offset = some address → address < Word.limit

/-- How the areas of a space lie. -/
structure Mappable (space : Space T) (geometry : Geometry) : Prop where
  numbered (id : Nat) (area : Area) : space.areas[id]? = some area → area.id = id
  apart (id other : Nat) (area rival : Area) : space.areas[id]? = some area → space.areas[other]? = some rival →
    id ≠ other → area.claim.Apart rival.claim
  fits (page : Nat) : space.Covers geometry page → page < PageTable.capacity space.table
  inWord : space.InWord geometry

namespace Partitioned

variable (partitioned : space.Partitioned geometry)
include partitioned

theorem stop_lt {area : Area} (member : area ∈ space.areas) : area.stop < Word.limit :=
  (partitioned.laid.areas area member).stop_le.trans_lt (reach_lt space geometry)

/-- A page has at least two bytes, so a page does not start at the last word. -/
theorem claimedStop_lt {area : Area} (member : area ∈ space.areas) : area.claimedStop < Word.limit := by
  have laid := partitioned.laid.areas area member
  have below := partitioned.stop_lt member
  have ordered := laid.start_le.trans laid.brk_le
  have even : 2 ∣ area.start := by
    have whole := Nat.dvd_of_mod_eq_zero laid.start_whole
    rw [Geometry.pageSize_eq] at whole
    exact (dvd_pow_self 2 (Nat.ne_of_gt geometry.shift_pos)).trans whole
  have words : 2 ∣ Word.limit := by decide
  unfold Area.claimedStop
  split
  · exact below
  · omega

theorem inWord : space.InWord geometry := by
  have reach := reach_lt space geometry
  have within {area : Area} (member : area ∈ space.areas) {region : Region}
      (inside : region.Within area.start area.brk) : region.start ≤ region.stop ∧ region.stop < Word.limit := by
    have brk_le := (partitioned.laid.areas area member).brk_le
    exact ⟨inside.ordered, (inside.le_high.trans brk_le).trans_lt (partitioned.stop_lt member)⟩
  have live (id : Nat) (live : LiveRegion) (held : space.live? id = .ok live) :
      live.region.start ≤ live.region.stop ∧ live.region.stop < Word.limit := by
    obtain ⟨area, found, inside⟩ := partitioned.laid.live id live held
    exact within (List.mem_of_getElem? found) inside
  constructor
  case created =>
    intro start below
    exact (Nat.succ_le_of_lt below).trans_lt reach
  case claimed =>
    intro area member
    exact partitioned.claimedStop_lt member
  case free =>
    intro area region member inside
    exact within member ((partitioned.laid.areas area member).free region inside)
  case taken =>
    intro area size region rest member taken
    obtain ⟨inside, -⟩ := FreeList.takeFirstFit?_within (partitioned.laid.areas area member).free taken
    obtain ⟨before, whole, after, -, -, rfl, -⟩ := FreeList.takeFirstFit?_eq_some taken
    exact ⟨rfl, (within member inside).2⟩
  case grown =>
    intro area size bytes stop member growth
    have whole := (partitioned.laid.areas area member).stop_whole
    obtain ⟨size_le, aligned, stop_le⟩ := growth?_eq_some whole growth
    refine ⟨(Nat.le_add_right ..).trans size_le, fun page inside => ?_⟩
    have below := ((mem_pagesBetween whole aligned).mp inside).2
    calc
      page ≤ page * geometry.pageSize := Nat.le_mul_of_pos_right page geometry.pageSize_pos
      _ < stop := below
      _ ≤ space.reach geometry := stop_le
      _ < Word.limit := reach
  case live => exact live
  case located =>
    intro id offset address named
    obtain ⟨held, found, inside, rfl⟩ := address?_eq_some named
    obtain ⟨ordered, below⟩ := live id held found
    unfold Region.size at inside
    omega

theorem mappable : space.Mappable geometry where
  numbered := partitioned.laid.ids
  apart := partitioned.apart
  fits _ covered := partitioned.laid.lt_capacity covered
  inWord := partitioned.inWord

end Partitioned

end Space

namespace Host

/-- A call that is answered with an error ended with it. -/
theorem failure_of_answer? {host : Host StandardTable} {number : Nat} {space : Space StandardTable}
    (found : host.space? number = some space) {call : Call} {ok : Answer → Stage StandardTable → Prop}
    {fail : MemoryError → Stage StandardTable → Prop} (ends : Ends call.perform ok fail (host.stage space))
    {reason : MemoryError} (answer : host.answer? number call = some (.error reason)) :
    ∃ after, fail reason after := by
  rw [answer?, run_eq found] at answer
  rcases onStage_of_ends ends with ⟨_, _, ran, -⟩ | ⟨_, after, ran, failed⟩
  · rw [ran] at answer
    cases Option.some.inj answer
  · rw [ran] at answer
    obtain rfl := Except.error.inj (Option.some.inj answer)
    exact ⟨after, failed⟩

theorem areas_mappable (machine : Machine) (run : List Operation) {number : Nat} {space : Space StandardTable}
    (found : ((start machine).after run).space? number = some space) :
    space.Mappable machine.devices.geometry ∧
      (∀ id offset refusal,
        ((start machine).after run).answer? number (.readByte id offset) ≠ some (.error (.table refusal))) ∧
      ∀ id offset value refusal,
        ((start machine).after run).answer? number (.writeByte id offset value) ≠ some (.error (.table refusal)) := by
  have host := partitioned_after machine run
  have partitioned := host.spaces number space found
  let stage := ((start machine).after run).stage space
  have formed : LawfulTable.WellFormed stage.space.table := host.formed number space found
  -- The page of every address that a live region holds is mappable, so the table cannot have refused it.
  have spared {id offset : Nat} {reason : MemoryError} {refusal : TableError}
      (refuses : Space.RefusesAt stage id offset reason) : reason ≠ .table refusal := by
    intro table
    obtain ⟨address, named, beyond⟩ := refuses refusal table
    have fits := partitioned.laid.lt_capacity (partitioned.laid.covers_of_address named)
    rw [← show ((start machine).after run).machine.devices.geometry = machine.devices.geometry from host.sized] at fits
    exact absurd fits (Nat.not_lt.mpr beyond)
  refine ⟨partitioned.mappable, fun id offset refusal answer => ?_, fun id offset value refusal answer => ?_⟩
  · have ends : Ends (Call.readByte id offset).perform (fun _ _ => True)
        (fun reason _ => Space.RefusesAt stage id offset reason) stage := by
      rw [Call.perform, ends_map]
      exact (Space.spares_readByte formed id offset).mono (fun _ _ _ => trivial) fun _ _ failed => failed.1
    obtain ⟨_, refuses⟩ := failure_of_answer? found ends answer
    exact spared refuses rfl
  · have ends : Ends (Call.writeByte id offset value).perform (fun _ _ => True)
        (fun reason _ => Space.RefusesAt stage id offset reason) stage := by
      rw [Call.perform, ends_map]
      exact (Space.spares_writeByte formed id offset value).mono (fun _ _ _ => trivial) fun _ _ failed => failed.1
    obtain ⟨_, refuses⟩ := failure_of_answer? found ends answer
    exact spared refuses rfl

/-- A machine of two frames of a mebibyte. -/
def broadMachine : Machine where
  devices := {
    geometry := ⟨20, by decide, by decide⟩
    ram := { kind := .ram, geometry := ⟨20, by decide, by decide⟩, size := 2 ^ 21 }
    swaps := [] }

/-- Two areas at the end of the word, over a radix table whose pages reach beyond the word. -/
def highRun : List Operation :=
  [.add .onDemand .radix, .call 0 (.createArea (Word.limit - 2 ^ 21)), .call 0 (.grow 1 200),
    .call 0 (.createArea (Word.limit - 2 ^ 20)), .call 0 (.allocate 1 0 256), .call 0 (.writeByte 0 255 7)]

private theorem areas_after_high :
    (((start broadMachine).after highRun).space? 0).map Space.areas =
      some [⟨0, 0, 0, 0, []⟩, ⟨1, Word.limit - 2 ^ 21, Word.limit - 2 ^ 20, Word.limit - 2 ^ 21 + 256, []⟩,
        ⟨2, Word.limit - 2 ^ 20, Word.limit - 2 ^ 20, Word.limit - 2 ^ 20, []⟩] := by
  decide +kernel

theorem areas_mappable_of_high :
    ∃ space, ((start broadMachine).after highRun).space? 0 = some space ∧ space.areas.length = 3 ∧
      space.Mappable broadMachine.devices.geometry ∧
      (∀ id offset refusal,
        ((start broadMachine).after highRun).answer? 0 (.readByte id offset) ≠ some (.error (.table refusal))) ∧
      ∀ id offset value refusal,
        ((start broadMachine).after highRun).answer? 0 (.writeByte id offset value) ≠
          some (.error (.table refusal)) := by
  obtain ⟨space, found, areas⟩ := Option.map_eq_some_iff.mp areas_after_high
  refine ⟨space, found, ?_, areas_mappable broadMachine highRun found⟩
  rw [areas]
  rfl

end Host

end DemandPaging
