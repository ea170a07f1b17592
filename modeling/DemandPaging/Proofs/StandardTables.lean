import DemandPaging.Proofs.RadixLaws

/-! # Tables of either kind

The spaces of one host may use tables of different kinds: flat ones, each of a size of its own, and radix
ones. A standard table is one or the other and behaves as the table that it is, so it is total.
-/

namespace DemandPaging

/-- A flat or a radix table. -/
inductive StandardTable where
  | flat (table : FlatTable)
  | radix (table : RadixTable)

/-- What a new table is to be: flat with so many pages, or radix. -/
inductive TableKind where
  | flat (pages : Nat)
  | radix
deriving DecidableEq, Repr, Inhabited

/-- The empty table of a kind. -/
def TableKind.empty : TableKind → StandardTable
  | .flat pages => .flat (.ofPages pages)
  | .radix => .radix .empty

namespace StandardTable

def write : StandardTable → Nat → Entry → Except TableError StandardTable
  | .flat table, page, entry => (PageTable.write table page entry).map .flat
  | .radix table, page, entry => (PageTable.write table page entry).map .radix

instance : PageTable StandardTable where
  capacity
    | .flat table => PageTable.capacity table
    | .radix table => PageTable.capacity table
  lookup
    | .flat table => PageTable.lookup table
    | .radix table => PageTable.lookup table
  write := write
  mapped
    | .flat table => PageTable.mapped table
    | .radix table => PageTable.mapped table
  nodes
    | .flat table => PageTable.nodes table
    | .radix table => PageTable.nodes table

private theorem map_eq_ok {T : Type} {wrap : T → StandardTable} {written : Except TableError T}
    {next : StandardTable} (done : written.map wrap = .ok next) :
    ∃ inner, written = .ok inner ∧ next = wrap inner := by
  cases written with
  | error reason => contradiction
  | ok inner => exact ⟨inner, rfl, (Except.ok.inj done).symm⟩

def WellFormed : StandardTable → Prop
  | .flat table => LawfulTable.WellFormed table
  | .radix table => LawfulTable.WellFormed table

instance : TotalTable StandardTable where
  WellFormed := WellFormed
  wellFormed_write {table next page entry} formed done := by
    cases table <;> obtain ⟨inner, written, rfl⟩ := map_eq_ok done
    · exact LawfulTable.wellFormed_write (T := FlatTable) formed written
    · exact LawfulTable.wellFormed_write (T := RadixTable) formed written
  capacity_write {table next page entry} done := by
    cases table <;> obtain ⟨inner, written, rfl⟩ := map_eq_ok done
    · exact LawfulTable.capacity_write (T := FlatTable) written
    · exact LawfulTable.capacity_write (T := RadixTable) written
  lt_capacity_of_write {table next page entry} done := by
    cases table <;> obtain ⟨inner, written, rfl⟩ := map_eq_ok done
    · exact LawfulTable.lt_capacity_of_write (T := FlatTable) written
    · exact LawfulTable.lt_capacity_of_write (T := RadixTable) written
  lookup_write {table next page entry} done := by
    cases table <;> obtain ⟨inner, written, rfl⟩ := map_eq_ok done
    · exact LawfulTable.lookup_write (T := FlatTable) written
    · exact LawfulTable.lookup_write (T := RadixTable) written
  lookup_of_capacity_le {table page} formed beyond := by
    cases table with
    | flat table => exact LawfulTable.lookup_of_capacity_le (T := FlatTable) formed beyond
    | radix table => exact LawfulTable.lookup_of_capacity_le (T := RadixTable) formed beyond
  mem_mapped_iff {table page entry} formed := by
    cases table with
    | flat table => exact LawfulTable.mem_mapped_iff (T := FlatTable) formed
    | radix table => exact LawfulTable.mem_mapped_iff (T := RadixTable) formed
  mapped_ascend {table} formed := by
    cases table with
    | flat table => exact LawfulTable.mapped_ascend (T := FlatTable) formed
    | radix table => exact LawfulTable.mapped_ascend (T := RadixTable) formed
  write_of_lt table page entry fits := by
    cases table with
    | flat table =>
      obtain ⟨next, written⟩ := TotalTable.write_of_lt table entry fits
      exact ⟨.flat next, congrArg (Except.map StandardTable.flat) written⟩
    | radix table =>
      obtain ⟨next, written⟩ := TotalTable.write_of_lt table entry fits
      exact ⟨.radix next, congrArg (Except.map StandardTable.radix) written⟩

theorem wellFormed_empty (kind : TableKind) : LawfulTable.WellFormed kind.empty := by
  cases kind with
  | flat pages => exact FlatTable.wellFormed_ofPages pages
  | radix => exact Subtree.bounded_empty _

theorem lookup_empty (kind : TableKind) (page : Nat) : PageTable.lookup kind.empty page = .zero := by
  cases kind with
  | flat pages => exact FlatTable.lookup_ofPages pages page
  | radix => exact RadixTable.lookup_empty page

end StandardTable

end DemandPaging
