import DemandPaging.Table.Flat

/-! # Laws of page tables

The engine relies on few facts about its page tables. A write that succeeds changes the entry of its
page and of no other, pages beyond the capacity have the zero entry, and the mapped entries are those
other than zero, in ascending page order. A total table moreover refuses no write below its capacity;
a table that refuses some is lawful without being total. Flat tables are total.
-/

namespace DemandPaging

class LawfulTable (T : Type) [PageTable T] where
  /-- Holds of every table that writes make from an empty one. -/
  WellFormed : T → Prop
  wellFormed_write {table next : T} {page : Nat} {entry : Entry} :
    WellFormed table → PageTable.write table page entry = .ok next → WellFormed next
  capacity_write {table next : T} {page : Nat} {entry : Entry} :
    PageTable.write table page entry = .ok next → PageTable.capacity next = PageTable.capacity table
  lt_capacity_of_write {table next : T} {page : Nat} {entry : Entry} :
    PageTable.write table page entry = .ok next → page < PageTable.capacity table
  lookup_write {table next : T} {page : Nat} {entry : Entry} :
    PageTable.write table page entry = .ok next → ∀ other,
      PageTable.lookup next other = if other = page then entry else PageTable.lookup table other
  lookup_of_capacity_le {table : T} {page : Nat} :
    WellFormed table → PageTable.capacity table ≤ page → PageTable.lookup table page = .zero
  mem_mapped_iff {table : T} {page : Nat} {entry : Entry} : WellFormed table →
    ((page, entry) ∈ PageTable.mapped table ↔ PageTable.lookup table page = entry ∧ entry ≠ .zero)
  mapped_ascend {table : T} :
    WellFormed table → (PageTable.mapped table).Pairwise fun one other => one.1 < other.1

/-- A table that can write every page below its capacity. -/
class TotalTable (T : Type) [PageTable T] extends LawfulTable T where
  write_of_lt (table : T) {page : Nat} (entry : Entry) :
    page < PageTable.capacity table → ∃ next, PageTable.write table page entry = .ok next

namespace LawfulTable

variable {T : Type} [PageTable T] [LawfulTable T] {table : T}

theorem lt_capacity_of_lookup (formed : WellFormed table) {page : Nat}
    (written : PageTable.lookup table page ≠ .zero) : page < PageTable.capacity table :=
  Nat.lt_of_not_le fun beyond => written (lookup_of_capacity_le formed beyond)

theorem mapped_pages_nodup (formed : WellFormed table) :
    ((PageTable.mapped table).map Prod.fst).Nodup := by
  rw [List.Nodup, List.pairwise_map]
  exact (mapped_ascend formed).imp fun before => Nat.ne_of_lt before

end LawfulTable

namespace FlatTable

/-- Only pages of the table were written. -/
def WellFormed (table : FlatTable) : Prop := ∀ page entry, table.written[page]? = some entry → page < table.pages

theorem wellFormed_ofPages (pages : Nat) : (ofPages pages).WellFormed := by
  intro page entry written
  simp [ofPages] at written

theorem mapped_ascend (table : FlatTable) : table.mapped.Pairwise fun one other => one.1 < other.1 := by
  have ordered := Std.ExtTreeMap.ordered_keys_toList (t := table.written)
  exact (ordered.imp fun before => Nat.compare_eq_lt.mp before).filter _

instance : TotalTable FlatTable where
  WellFormed := WellFormed
  wellFormed_write {table next page entry} formed done := by
    obtain ⟨fits, rfl⟩ := write_eq_ok_iff.mp done
    intro other kept written
    simp only [Std.ExtTreeMap.getElem?_insert, Std.compare_eq_iff_eq] at written
    split at written
    · next same => exact same ▸ fits
    · exact formed other kept written
  capacity_write := pages_write
  lt_capacity_of_write done := (write_eq_ok_iff.mp done).1
  lookup_write := lookup_write
  lookup_of_capacity_le {table page} formed beyond := by
    show table.lookup page = .zero
    unfold lookup
    cases written : table.written[page]? with
    | none => rfl
    | some entry => exact (Nat.not_lt.mpr beyond (formed page entry written)).elim
  mem_mapped_iff _ := mem_mapped_iff
  mapped_ascend _ := mapped_ascend _
  write_of_lt table page entry fits := ⟨_, write_eq_ok_iff.mpr ⟨fits, rfl⟩⟩

end FlatTable

end DemandPaging
