import DemandPaging.Proofs.TableLaws
import DemandPaging.Table.Guarded

/-! # Laws of guarded tables

A guard changes which writes are refused and nothing else, so a guarded table is lawful if the table
behind it is. It is not total: below its capacity it takes exactly the writes that its guard lets pass.
The guard itself is never changed, so an entry that was let pass once is let pass again.
-/

namespace DemandPaging.GuardedTable

variable {T : Type} [PageTable T] {table next : GuardedTable T} {page : Nat} {entry : Entry}

theorem write_eq_ok_iff : PageTable.write table page entry = .ok next ↔
    table.refuses page entry = false ∧
      ∃ inner, PageTable.write table.inner page entry = .ok inner ∧ next = { table with inner } := by
  show table.write page entry = .ok next ↔ _
  cases refused : table.refuses page entry with
  | true => simp [write_refused refused]
  | false =>
    simp only [write, refused, Bool.false_eq_true, ↓reduceIte, true_and]
    cases PageTable.write table.inner page entry with
    | error reason => simp [Except.map]
    | ok inner => simp [Except.map, eq_comm]

theorem refuses_write (done : PageTable.write table page entry = .ok next) : next.refuses = table.refuses := by
  obtain ⟨-, inner, -, rfl⟩ := write_eq_ok_iff.mp done
  rfl

instance [LawfulTable T] : LawfulTable (GuardedTable T) where
  WellFormed table := LawfulTable.WellFormed table.inner
  wellFormed_write formed done := by
    obtain ⟨-, inner, written, rfl⟩ := write_eq_ok_iff.mp done
    exact LawfulTable.wellFormed_write (T := T) formed written
  capacity_write done := by
    obtain ⟨-, inner, written, rfl⟩ := write_eq_ok_iff.mp done
    exact LawfulTable.capacity_write (T := T) written
  lt_capacity_of_write done := by
    obtain ⟨-, inner, written, rfl⟩ := write_eq_ok_iff.mp done
    exact LawfulTable.lt_capacity_of_write (T := T) written
  lookup_write done := by
    obtain ⟨-, inner, written, rfl⟩ := write_eq_ok_iff.mp done
    exact LawfulTable.lookup_write (T := T) written
  lookup_of_capacity_le formed beyond := LawfulTable.lookup_of_capacity_le (T := T) formed beyond
  mem_mapped_iff formed := LawfulTable.mem_mapped_iff (T := T) formed
  mapped_ascend formed := LawfulTable.mapped_ascend (T := T) formed

/-- The guard is the only one that refuses below the capacity. -/
theorem write_of_accepted [TotalTable T] (fits : page < PageTable.capacity table)
    (accepted : table.refuses page entry = false) : ∃ next, PageTable.write table page entry = .ok next := by
  obtain ⟨inner, written⟩ := TotalTable.write_of_lt table.inner entry fits
  exact ⟨_, write_eq_ok_iff.mpr ⟨accepted, inner, written, rfl⟩⟩

/-- The two tables have the same guard and the same capacity. -/
structure SameGuard (one other : GuardedTable T) : Prop where
  capacity : PageTable.capacity other = PageTable.capacity one
  refuses : other.refuses = one.refuses

theorem SameGuard.refl (table : GuardedTable T) : SameGuard table table := ⟨rfl, rfl⟩

theorem SameGuard.write [LawfulTable T] {origin : GuardedTable T} (same : SameGuard origin table)
    (done : PageTable.write table page entry = .ok next) : SameGuard origin next where
  capacity := (LawfulTable.capacity_write done).trans same.capacity
  refuses := (refuses_write done).trans same.refuses

end DemandPaging.GuardedTable
