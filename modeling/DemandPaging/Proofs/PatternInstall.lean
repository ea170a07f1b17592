import DemandPaging.Proofs.RangeEviction

/-! # How a pattern install stops

A pattern install stamps the absent pages of its range in ascending order and has no way back. When the guard
refuses to stamp one of them, the install ends there and the pages before it keep their stamps. So a failed
install leaves the entries as they were exactly if the pages it passed were mapped, swapped out or stamped
already. Everything but the table is as before in any case.
-/

namespace DemandPaging.Space

open Paging

variable {T : Type} [PageTable T] {stage middle : Stage (GuardedTable T)} {done : List Nat}

/-- The absent pages among some pages are stamped, which the guard let pass. -/
structure StampedOn (before : Stage (GuardedTable T)) (pages : List Nat) (after : Stage (GuardedTable T)) : Prop where
  accepted : ∀ page ∈ pages, (PageTable.lookup before.space.table page).state = .absent →
    before.space.table.refuses page .poison = false
  lookup : ∀ page, PageTable.lookup after.space.table page =
    if page ∈ pages ∧ (PageTable.lookup before.space.table page).state = .absent then .poison
    else PageTable.lookup before.space.table page
  guard : GuardedTable.SameGuard before.space.table after.space.table
  devices : after.devices = before.devices
  space : after.space = { before.space with table := after.space.table }

theorem StampedOn.nil (stage : Stage (GuardedTable T)) : StampedOn stage [] stage where
  accepted := List.forall_mem_nil _
  lookup page := by simp
  guard := .refl _
  devices := rfl
  space := rfl

/-- A stamp leaves a page as absent as it was. -/
theorem StampedOn.absent_iff (stamped : StampedOn stage done middle) (page : Nat) :
    (PageTable.lookup middle.space.table page).state = .absent ↔
      (PageTable.lookup stage.space.table page).state = .absent := by
  rw [stamped.lookup]
  split
  · next absent => simp only [Entry.state_poison, absent.2]
  · rfl

/-- A stop leaves no trace in the entries if there was nothing left to stamp before it. -/
theorem StampedOn.unchanged_iff (stamped : StampedOn stage done middle) :
    (∀ page, PageTable.lookup middle.space.table page = PageTable.lookup stage.space.table page) ↔
      ∀ page ∈ done, (PageTable.lookup stage.space.table page).state = .absent →
        PageTable.lookup stage.space.table page = .poison := by
  constructor
  · intro unchanged page member absent
    rw [← unchanged page, stamped.lookup, if_pos ⟨member, absent⟩]
  · intro all page
    rw [stamped.lookup]
    split
    · next absent => exact (all page absent.1 absent.2).symm
    · rfl

/-- A page that is not absent needs no stamp. -/
theorem StampedOn.passed (stamped : StampedOn stage done middle) {page : Nat}
    (named : (PageTable.lookup stage.space.table page).state ≠ .absent) : StampedOn stage (done ++ [page]) middle where
  accepted := by
    rw [List.forall_mem_append, List.forall_mem_singleton]
    exact ⟨stamped.accepted, fun absent => absurd absent named⟩
  lookup other := by
    rw [stamped.lookup]
    congr 1
    rw [List.mem_append, List.mem_singleton, or_and_right, eq_iff_iff]
    constructor
    · exact .inl
    · rintro (before | ⟨rfl, absent⟩)
      · exact before
      · exact absurd absent named
  guard := stamped.guard
  devices := stamped.devices
  space := stamped.space

variable [TotalTable T]

theorem StampedOn.stamped (stamped : StampedOn stage done middle) {page : Nat} {after : Stage (GuardedTable T)}
    (absent : (PageTable.lookup stage.space.table page).state = .absent)
    (written : PageTable.write middle.space.table page .poison = .ok after.space.table)
    (devices : after.devices = middle.devices)
    (space : after.space = { middle.space with table := after.space.table }) :
    StampedOn stage (done ++ [page]) after where
  accepted := by
    rw [List.forall_mem_append, List.forall_mem_singleton]
    refine ⟨stamped.accepted, fun _ => ?_⟩
    rw [← stamped.guard.refuses]
    exact (GuardedTable.write_eq_ok_iff.mp written).1
  lookup other := by
    rw [LawfulTable.lookup_write written, stamped.lookup]
    simp only [List.mem_append, List.mem_singleton]
    by_cases same : other = page
    · subst same
      rw [if_pos rfl, if_pos ⟨.inr rfl, absent⟩]
    · simp only [same, if_false, or_false]
  guard := stamped.guard.write written
  devices := devices.trans stamped.devices
  space := by rw [space, stamped.space]

theorem ends_stamp_of_stampedOn (stamped : StampedOn stage done middle) (count page : Nat) :
    Ends (stamp count page)
      (fun answer after => StampedOn stage (done ++ [page]) after ∧
        answer = if (PageTable.lookup stage.space.table page).state = .absent then count + 1 else count)
      (fun _ after => StampedOn stage done after ∧ (PageTable.lookup stage.space.table page).state = .absent ∧
        (stage.space.table.refuses page .poison = true ∨ PageTable.capacity stage.space.table ≤ page)) middle := by
  have passes (named : (PageTable.lookup middle.space.table page).state ≠ .absent) :
      StampedOn stage (done ++ [page]) middle ∧
        count = if (PageTable.lookup stage.space.table page).state = .absent then count + 1 else count := by
    have away := (stamped.absent_iff page).not.mp named
    exact ⟨stamped.passed away, (if_neg away).symm⟩
  simp only [stamp, ends_bind, ends_lookup]
  cases state : (PageTable.lookup middle.space.table page).state with
  | present frame dirty => exact passes (by simp [state])
  | swapped device slot => exact passes (by simp [state])
  | absent =>
    have absent := (stamped.absent_iff page).mp state
    rw [ends_bind]
    apply (ends_write_of_guard page .poison).mono
    · rintro _ after ⟨table, written, devices, space⟩
      have same : after.space.table = table := by rw [space]
      rw [← same] at written space
      exact ⟨stamped.stamped absent written devices space, (if_pos absent).symm⟩
    · rintro _ _ ⟨rfl, refused⟩
      rw [stamped.guard.refuses, stamped.guard.capacity] at refused
      exact ⟨stamped, absent, refused.imp_left And.left⟩

/-- How many of some pages are absent. -/
def absentIn (table : GuardedTable T) (pages : List Nat) : Nat :=
  pages.countP fun page => (PageTable.lookup table page).state = .absent

omit [TotalTable T] in
theorem absentIn_concat (table : GuardedTable T) (pages : List Nat) (page : Nat) :
    absentIn table (pages ++ [page]) =
      if (PageTable.lookup table page).state = .absent then absentIn table pages + 1 else absentIn table pages := by
  simp only [absentIn, List.countP_append, List.countP_singleton, decide_eq_true_eq]
  split <;> rfl

/-- An install over a guarded table stamps every absent page of its range, or only those before the first one that
cannot be stamped. -/
theorem ends_installPattern_of_guarded (start pages : Nat) :
    Ends (installPattern start pages)
      (fun count after => ∃ first, stage.space.pageRange stage.devices.geometry start pages = .ok first ∧
        StampedOn stage (List.range' first pages) after ∧ count = absentIn stage.space.table (List.range' first pages))
      (fun reason after =>
        (stage.space.pageRange stage.devices.geometry start pages = .error reason ∧ after = stage) ∨
          ∃ first before page rest, stage.space.pageRange stage.devices.geometry start pages = .ok first ∧
            List.range' first pages = before ++ page :: rest ∧
            (PageTable.lookup stage.space.table page).state = .absent ∧
            (stage.space.table.refuses page .poison = true ∨ PageTable.capacity stage.space.table ≤ page) ∧
            StampedOn stage before after) stage := by
  cases range : stage.space.pageRange stage.devices.geometry start pages with
  | error reason =>
    refine (ends_installPattern_of_refused range).mono (fun _ _ never => never.elim) ?_
    rintro _ _ ⟨rfl, rfl⟩
    exact .inl ⟨rfl, rfl⟩
  | ok first =>
    simp only [installPattern, ends_bind, ends_space, ends_geometry, range, ends_settle_ok]
    apply (ends_foldlM_upTo
      (fun done count after => StampedOn stage done after ∧ count = absentIn stage.space.table done)
      (fun before page _ after => StampedOn stage before after ∧
        (PageTable.lookup stage.space.table page).state = .absent ∧
        (stage.space.table.refuses page .poison = true ∨ PageTable.capacity stage.space.table ≤ page)) ?_
      ⟨.nil stage, rfl⟩).mono
    · rintro count after ⟨stamped, counted⟩
      simp only [ends_bind, ends_emit, ends_pure]
      exact ⟨first, rfl, { stamped with }, counted⟩
    · rintro reason after ⟨before, page, rest, split, stamped, absent, refused⟩
      exact .inr ⟨first, before, page, rest, rfl, split, absent, refused, stamped⟩
    · rintro before page rest - count middle ⟨stamped, rfl⟩
      apply (ends_stamp_of_stampedOn stamped _ page).answers
      rintro _ after ⟨next, rfl⟩
      exact ⟨next, (absentIn_concat ..).symm⟩

/-- An install that failed was refused its range, or it stopped at a page that could not be stamped. It left the
entries as they were exactly if it had nothing left to stamp before that page. -/
theorem installPattern_stopped {start pages : Nat} {reason : MemoryError} {after : Stage (GuardedTable T)}
    (failed : installPattern start pages stage = .error reason after) :
    (stage.space.pageRange stage.devices.geometry start pages = .error reason ∧ after = stage) ∨
      ∃ first before page rest, stage.space.pageRange stage.devices.geometry start pages = .ok first ∧
        List.range' first pages = before ++ page :: rest ∧
        (PageTable.lookup stage.space.table page).state = .absent ∧
        (stage.space.table.refuses page .poison = true ∨ PageTable.capacity stage.space.table ≤ page) ∧
        StampedOn stage before after ∧
        ((∀ page, PageTable.lookup after.space.table page = PageTable.lookup stage.space.table page) ↔
          ∀ page ∈ before, (PageTable.lookup stage.space.table page).state = .absent →
            PageTable.lookup stage.space.table page = .poison) := by
  rcases (ends_installPattern_of_guarded start pages).of_error failed with
    refused | ⟨first, before, page, rest, range, split, absent, refused, stamped⟩
  · exact .inl refused
  · exact .inr ⟨first, before, page, rest, range, split, absent, refused, stamped, stamped.unchanged_iff⟩

open Host in
private theorem installs_behind_guard :
    ∃ machine grown, MemoryConfig.twofold.build = .ok machine ∧
      grown = (onStage (grow 0 768) (behindGuard machine [⟨1, .absent⟩])).2 ∧
      (onStage (grow 0 768) (behindGuard machine [⟨1, .absent⟩])).1 = .ok 0 ∧
      (onStage (installPattern 0 3) grown).1 = .error (.table (.outOfRange 1 1)) ∧
      PageTable.lookup grown.space.table 0 = .zero ∧
      PageTable.lookup (onStage (installPattern 0 3) grown).2.space.table 0 = .poison :=
  ⟨_, _, rfl, rfl, by decide +kernel, by decide +kernel, by decide +kernel, by decide +kernel⟩

/-- The second of three pages cannot be stamped, and the first one keeps its stamp. -/
theorem installPattern_stopped_of_guard :
    ∃ machine stage after, MemoryConfig.twofold.build = .ok machine ∧
      grow 0 768 (behindGuard machine [⟨1, .absent⟩]) = .ok 0 stage ∧
      installPattern 0 3 stage = .error (.table (.outOfRange 1 1)) after ∧
      ∃ first before page rest, List.range' first 3 = before ++ page :: rest ∧ StampedOn stage before after := by
  obtain ⟨machine, grown, built, rfl, answered, failed, blank, stamped⟩ := installs_behind_guard
  have ran := Host.ran_of_onStage_error failed
  refine ⟨machine, _, _, built, Host.ran_of_onStage_ok answered, ran, ?_⟩
  rcases installPattern_stopped ran with ⟨-, same⟩ | ⟨first, before, page, rest, -, split, -, -, left, -⟩
  · rw [same, blank] at stamped
    exact absurd stamped (by decide)
  · exact ⟨first, before, page, rest, split, left⟩

/-- An install that failed left a stamp behind. -/
theorem stamp_left_by_failed_install :
    ∃ machine stage reason after, MemoryConfig.twofold.build = .ok machine ∧
      grow 0 768 (behindGuard machine [⟨1, .absent⟩]) = .ok 0 stage ∧
      installPattern 0 3 stage = .error reason after ∧
      PageTable.lookup after.space.table 0 ≠ PageTable.lookup stage.space.table 0 := by
  obtain ⟨machine, grown, built, rfl, answered, failed, blank, stamped⟩ := installs_behind_guard
  refine ⟨machine, _, _, _, built, Host.ran_of_onStage_ok answered, Host.ran_of_onStage_error failed, ?_⟩
  rw [blank, stamped]
  decide

end DemandPaging.Space
