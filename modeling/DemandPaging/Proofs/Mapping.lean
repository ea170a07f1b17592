import DemandPaging.Proofs.Evicting
import DemandPaging.Space.Reserve

/-! # Eager mappings from outside

Mapping a range puts a zeroed frame behind each of its pages. A page of the range that had a home is
moved to its new frame, and its old home belongs to no page from then on; the content of every page of
the range is empty, and no other content changes. On a total table only the shortage of frames stops a
mapping, and nothing has changed then.
-/

namespace DemandPaging.Space

open Paging

variable {T : Type} [PageTable T]

/-- The homes of some pages. -/
def homesOf (memory : Memory T) (pages : List Nat) : Set Home :=
  {home | ∃ page ∈ pages, memory.homeOf page = some home}

theorem homesOf_nil (memory : Memory T) : homesOf memory [] = ∅ := by
  simp only [homesOf, List.not_mem_nil, false_and, exists_false, Set.ofPred_false]

/-- The pages have zeroed frames and stand at the end of the queue; the homes they had are lost. -/
structure Mapped [LawfulTable T] (before : Stage T) (reserved : Set Home) (pages : List Nat)
    (after : Stage T) : Prop where
  custody : after.memory.Custody (homesOf before.memory pages ∪ reserved)
  keeps : before.memory.Keeps reserved {page | page ∈ pages} after.memory
  resident : after.space.resident.toList = before.space.resident.toList ++ pages
  homeOf : ∀ page ∈ pages, ∃ frame, after.memory.homeOf page = some (.ram, frame)
  clean : ∀ page ∈ pages, ∃ frame, (after.memory.lookup page).state = .present frame false
  blank : ∀ page ∈ pages, after.memory.content page = ∅
  others : ∀ page, page ∉ pages → after.memory.lookup page = before.memory.lookup page
  free : (after.devices.freeOf .ram).length + pages.length = (before.devices.freeOf .ram).length

/-- The pages of a list of pairs have the frames that they are paired with. -/
structure Zeroed [LawfulTable T] (before : Stage T) (reserved : Set Home) (pairs : List (Nat × Nat))
    (after : Stage T) : Prop where
  custody : after.memory.Custody (homesOf before.memory (pairs.map Prod.fst) ∪ reserved)
  keeps : before.Keeps reserved {page | page ∈ pairs.map Prod.fst} after
  resident : after.space.resident = before.space.resident
  homeOf : ∀ pair ∈ pairs, after.memory.homeOf pair.1 = some (.ram, pair.2)
  clean : ∀ page ∈ pairs.map Prod.fst, ∃ frame, (after.memory.lookup page).state = .present frame false
  blank : ∀ page ∈ pairs.map Prod.fst, after.memory.content page = ∅
  others : ∀ page, page ∉ pairs.map Prod.fst → after.memory.lookup page = before.memory.lookup page
  free : ∀ id, after.devices.freeOf id = before.devices.freeOf id

variable [TotalTable T] {stage : Stage T} {reserved : Set Home}

theorem ends_mapZeroed {page frame : Nat} (custody : stage.memory.Custody (insert (.ram, frame) reserved))
    (apart : (.ram, frame) ∉ reserved) (fits : page < stage.memory.capacity) :
    Ends (mapZeroed page frame) (fun _ after => Zeroed stage reserved [(page, frame)] after)
      (fun _ _ => False) stage := by
  rw [mapZeroed, ends_bind]
  apply (ends_zeroFrame custody apart).sure
  intro _ middle filled
  have within : page < middle.memory.capacity := filled.keeps.memory.capacity.symm ▸ fits
  apply (ends_write_of_lt within (.ofFrame frame)).sure
  intro _ after entered
  have held := filled.custody.accounts.inUse_of_mem (Set.mem_insert _ reserved)
  have entry := filled.custody.sound.home?_ofFrame held
  have named : after.memory.homeOf page = some (.ram, frame) := by
    rw [entered.writes.homeOf, if_pos rfl, entry]
  have written : middle.Keeps reserved {page} after := ⟨entered.writes.touches, entered.outline⟩
  have devices : after.devices = middle.devices := entered.writes.devices
  refine ⟨?_, ?_, ?_, ?_, ?_, ?_, ?_, fun id => by rw [devices, filled.free]⟩
  · have moved := filled.custody.enters apart entered entry
    rw [filled.homeOf] at moved
    simpa only [homesOf, List.map_cons, List.map_nil, List.mem_singleton, exists_eq_left] using moved
  · refine (filled.keeps.mono subset_rfl (Set.empty_subset _)).trans (written.mono subset_rfl ?_)
    rintro _ rfl
    exact List.mem_singleton_self _
  · rw [entered.resident, filled.space]
  · simpa only [List.mem_singleton, forall_eq] using named
  · simp only [List.map_cons, List.map_nil, List.mem_singleton, forall_eq]
    rw [entered.writes.lookup, if_pos rfl]
    exact ⟨frame, filled.custody.sound.state_ofFrame held⟩
  · simp only [List.map_cons, List.map_nil, List.mem_singleton, forall_eq]
    rw [Memory.content_eq_bytesAt named, entered.writes.devices]
    exact filled.bytes
  · intro other away
    rw [entered.writes.lookup, if_neg (by simpa using away), filled.lookup]

omit [TotalTable T] in
private theorem homesOf_cons (memory : Memory T) (page : Nat) (pages : List Nat) :
    homesOf memory (page :: pages) = homesOf memory pages ∪ homesOf memory [page] := by
  ext home
  simp only [homesOf, Set.mem_union, Set.mem_ofPred_eq, List.mem_cons, List.not_mem_nil, or_false,
    exists_eq_or_imp, exists_eq_left]
  exact or_comm

omit [TotalTable T] in
private theorem homesOf_congr {one other : Memory T} {pages : List Nat}
    (same : ∀ page ∈ pages, one.homeOf page = other.homeOf page) : homesOf one pages = homesOf other pages := by
  ext home
  constructor
  · rintro ⟨page, member, named⟩
    exact ⟨page, member, (same page member).symm.trans named⟩
  · rintro ⟨page, member, named⟩
    exact ⟨page, member, (same page member).trans named⟩

/-- One page has its frame, and then the others have theirs. -/
private theorem Zeroed.cons {before middle after : Stage T} {page frame : Nat} {rest : List (Nat × Nat)}
    (one : Zeroed before (homesOn .ram (rest.map Prod.snd) ∪ reserved) [(page, frame)] middle)
    (all : Zeroed middle (homesOf before.memory [page] ∪ reserved) rest after)
    (distinct : page ∉ rest.map Prod.fst) : Zeroed before reserved ((page, frame) :: rest) after := by
  have others (other) (away : other ≠ page) : middle.memory.lookup other = before.memory.lookup other :=
    one.others other (by simpa using away)
  refine ⟨?_, ?_, ?_, ?_, ?_, ?_, ?_, fun id => by rw [all.free, one.free]⟩
  · have custody := all.custody
    have same : homesOf middle.memory (rest.map Prod.fst) = homesOf before.memory (rest.map Prod.fst) := by
      apply homesOf_congr
      intro other member
      rw [Memory.homeOf, others other fun same => distinct (same ▸ member), Memory.homeOf]
    rw [same, ← Set.union_assoc] at custody
    rw [List.map_cons, homesOf_cons]
    exact custody
  · refine (one.keeps.mono Set.subset_union_right ?_).trans (all.keeps.mono Set.subset_union_right ?_)
    · intro other member
      simp only [List.map_cons, List.map_nil, List.mem_singleton, Set.mem_ofPred_eq] at member ⊢
      exact member ▸ List.mem_cons_self ..
    · intro other member
      exact List.mem_cons_of_mem _ member
  · rw [all.resident, one.resident]
  · rw [List.forall_mem_cons]
    refine ⟨?_, all.homeOf⟩
    rw [Memory.homeOf, all.others page distinct]
    exact one.homeOf _ (List.mem_singleton_self _)
  · rw [List.map_cons, List.forall_mem_cons]
    refine ⟨?_, all.clean⟩
    rw [all.others page distinct]
    exact one.clean page (List.mem_singleton_self _)
  · rw [List.map_cons, List.forall_mem_cons]
    refine ⟨?_, all.blank⟩
    rw [all.keeps.memory.content page distinct]
    exact one.blank page (List.mem_singleton_self _)
  · intro other away
    rw [List.map_cons, List.mem_cons, not_or] at away
    rw [all.others other away.2, others other away.1]

private theorem ends_eachMapZeroed {pairs : List (Nat × Nat)}
    (custody : stage.memory.Custody (homesOn .ram (pairs.map Prod.snd) ∪ reserved))
    (apart : ∀ pair ∈ pairs, (.ram, pair.2) ∉ reserved) (frames : (pairs.map Prod.snd).Nodup)
    (pages : (pairs.map Prod.fst).Nodup) (fits : ∀ pair ∈ pairs, pair.1 < stage.memory.capacity) :
    Ends (eachUntilFailure (fun (page, frame) => mapZeroed page frame) pairs)
      (fun result after => result.2 = none ∧ Zeroed stage reserved pairs after)
      (fun _ _ => False) stage := by
  induction pairs generalizing stage reserved with
  | nil =>
    rw [List.map_nil, homesOn_nil, Set.empty_union] at custody
    refine ⟨rfl, ?_, .refl _, rfl, ?_, ?_, ?_, fun _ _ => rfl, fun _ => rfl⟩
    · rwa [List.map_nil, homesOf_nil, Set.empty_union]
    all_goals exact List.forall_mem_nil _
  | cons pair rest ih =>
    obtain ⟨page, frame⟩ := pair
    simp only [List.map_cons, List.nodup_cons, List.forall_mem_cons] at frames pages fits apart custody
    rw [homesOn_cons, Set.insert_union] at custody
    have fresh : (.ram, frame) ∉ homesOn .ram (rest.map Prod.snd) ∪ reserved := by
      rintro (member | member)
      · exact frames.1 member.2
      · exact apart.1 member
    simp only [eachUntilFailure, ends_bind, ends_attempt]
    apply (ends_mapZeroed custody fresh fits.1).sure
    intro _ middle one
    have custody_now := one.custody
    rw [Set.union_left_comm] at custody_now
    have apart_now : ∀ pair ∈ rest, (.ram, pair.2) ∉ homesOf stage.memory [page] ∪ reserved := by
      rintro pair member (⟨_, same, named⟩ | kept)
      · refine custody.accounts.apart _ _ named (.inr (.inl ⟨rfl, ?_⟩))
        exact List.mem_map_of_mem member
      · exact apart.2 pair member kept
    have fits_now : ∀ pair ∈ rest, pair.1 < middle.memory.capacity := by
      rw [one.keeps.memory.capacity]
      exact fits.2
    rw [ends_bind]
    apply (ih custody_now apart_now frames.2 pages.2 fits_now).sure
    rintro ⟨_, _⟩ after ⟨rfl, all⟩
    exact ⟨rfl, one.cons all pages.1⟩

/-- The first page of a range and its successors, as many as the range has. -/
def pagesBetween (geometry : Geometry) (start stop : Nat) : List Nat :=
  List.range' (geometry.pageOf start) (Address.distance start stop >>> geometry.shift)

/-- RAM has fewer free frames than are asked for, and the reason says so. -/
structure Shortage (before : Stage T) (wanted : Nat) (reason : MemoryError) : Prop where
  few : (before.devices.freeOf .ram).length < wanted
  reason : reason = .frames (.insufficient wanted (before.devices.freeOf .ram).length)

theorem ends_mapRange {start stop : Nat} (custody : stage.memory.Custody reserved)
    (fits : ∀ page ∈ pagesBetween stage.devices.geometry start stop, page < stage.memory.capacity) :
    Ends (mapRange start stop)
      (fun _ after => stage.space.SameOutline after.space ∧
        Mapped stage reserved (pagesBetween stage.devices.geometry start stop) after)
      (fun reason after => Shortage stage (pagesBetween stage.devices.geometry start stop).length reason ∧
        Rejected stage reason after) stage := by
  simp only [mapRange, ends_bind, ends_geometry]
  have acquires := ends_acquireMany custody (show stage.devices.get? .ram = some _ from rfl)
  apply (acquires _).sure
  rintro _ middle (⟨rfl, rfl, short⟩ | ⟨frames, rfl, length, taken⟩)
  · refine ⟨?_, ⟨rfl, .refl _, rfl⟩, rfl⟩
    rw [pagesBetween, List.length_range']
    exact ⟨short, rfl⟩
  · generalize pages_eq : pagesBetween stage.devices.geometry start stop = pages at fits
    have same : List.range' (stage.devices.geometry.pageOf start)
      (Address.distance start stop >>> stage.devices.geometry.shift) = pages := pages_eq
    rw [same]
    have lengths : pages.length = frames.length := by rw [← same, List.length_range', length]
    have firsts : (pages.zip frames).map Prod.fst = pages := List.map_fst_zip lengths.le
    have seconds : (pages.zip frames).map Prod.snd = frames := List.map_snd_zip lengths.ge
    have member (pair) (inside : pair ∈ pages.zip frames) : pair.1 ∈ pages ∧ pair.2 ∈ frames :=
      List.of_mem_zip inside
    rw [ends_bind]
    refine (ends_eachMapZeroed (by rw [seconds]; exact taken.custody)
      (fun pair inside => taken.apart _ (member pair inside).2) (by rw [seconds]; exact taken.takes.nodup)
      (by rw [firsts, ← same]; exact List.nodup_range' 1)
      (fun pair inside => by rw [taken.keeps.memory.capacity]; exact fits _ (member pair inside).1)).sure ?_
    rintro ⟨_, _⟩ after ⟨rfl, all⟩
    simp only [ends_bind, ends_modifySpace, ends_emit]
    obtain ⟨custody_now, keeps, resident, homeOf, clean, blank, others, free⟩ := all
    rw [firsts] at custody_now keeps clean blank others
    rw [homesOf_congr fun page _ => taken.homeOf page] at custody_now
    have kept := (taken.keeps.mono subset_rfl (Set.empty_subset _)).trans keeps
    refine ⟨⟨kept.outline.populate, kept.outline.areas, kept.outline.regions⟩, custody_now, kept.memory, ?_, ?_,
      clean, blank, ?_, ?_⟩
    · rw [PageQueue.toList_pushAll, resident, taken.space]
    · intro page inside
      rw [← firsts] at inside
      obtain ⟨pair, paired, rfl⟩ := List.mem_map.mp inside
      exact ⟨pair.2, homeOf pair paired⟩
    · intro page away
      exact (others page away).trans (taken.lookup page)
    · show (after.devices.freeOf .ram).length + pages.length = _
      rw [free, taken.takes.free, List.length_append, lengths, Nat.add_comm]

end DemandPaging.Space
