import DemandPaging.Table.Basic
import Std.Data.ExtTreeMap

/-! # Flat page tables

A flat table has a fixed number of pages and maps page numbers to entries directly. All entries start
at zero, so the table keeps the entries that were written and reads every other page as zero; a write
costs the same whether or not an older version of the table is still at hand. `mem_mapped_iff` says
that the mapped entries are exactly those that read as non-zero.
-/

namespace DemandPaging

structure FlatTable where
  pages : Nat
  /-- The last entry written to each page. -/
  written : Std.ExtTreeMap Nat Entry := ∅
deriving Inhabited

namespace FlatTable

/-- A table of `pages` zero entries. -/
def ofPages (pages : Nat) : FlatTable := { pages }

instance : EmptyCollection FlatTable := ⟨ofPages Parameters.flatPages⟩

def lookup (table : FlatTable) (page : Nat) : Entry :=
  table.written[page]?.getD .zero

def write (table : FlatTable) (page : Nat) (entry : Entry) : Except TableError FlatTable :=
  if page < table.pages then .ok { table with written := table.written.insert page entry }
  else .error (.outOfRange page table.pages)

def mapped (table : FlatTable) : List (Nat × Entry) :=
  table.written.toList.filter fun slot => !slot.2.isZero

instance : PageTable FlatTable where
  capacity := pages
  lookup := lookup
  write := write
  mapped := mapped

theorem lookup_ofPages (pages page : Nat) : (ofPages pages).lookup page = .zero := by
  simp [lookup, ofPages]

theorem write_eq_ok_iff {table next : FlatTable} {page : Nat} {entry : Entry} :
    table.write page entry = .ok next ↔
      page < table.pages ∧ next = { table with written := table.written.insert page entry } := by
  unfold write
  split <;> simp [*, eq_comm]

theorem pages_write {table next : FlatTable} {page : Nat} {entry : Entry}
    (done : table.write page entry = .ok next) : next.pages = table.pages := by
  obtain ⟨_, rfl⟩ := write_eq_ok_iff.mp done
  rfl

theorem lookup_write {table next : FlatTable} {page : Nat} {entry : Entry}
    (done : table.write page entry = .ok next) (other : Nat) :
    next.lookup other = if other = page then entry else table.lookup other := by
  obtain ⟨_, rfl⟩ := write_eq_ok_iff.mp done
  simp only [lookup, Std.ExtTreeMap.getElem?_insert, Std.compare_eq_iff_eq, eq_comm (a := page)]
  split <;> rfl

theorem mem_mapped_iff {table : FlatTable} {page : Nat} {entry : Entry} :
    (page, entry) ∈ table.mapped ↔ table.lookup page = entry ∧ entry ≠ .zero := by
  simp only [mapped, lookup, List.mem_filter, Std.ExtTreeMap.mem_toList_iff_getElem?_eq_some,
    Bool.not_eq_true', ← Bool.not_eq_true, Entry.isZero_iff]
  cases table.written[page]? with
  | none => simp [eq_comm]
  | some kept => simp

end FlatTable

end DemandPaging
