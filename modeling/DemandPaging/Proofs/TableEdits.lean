import DemandPaging.Proofs.RadixLaws
import Mathlib.Data.List.Induction

/-! # Tables are finite maps

Whatever is done to a table is a sequence of edits, each of which writes the entry of one page or
nothing at all. The journal of a sequence lists the writes that went through, without any table: it is
all that a total table remembers. A radix table splits page numbers, builds paths and walks them, and
none of it shows, on any page and after any sequence of edits.
-/

namespace DemandPaging

inductive TableEdit where
  | write (page : Nat) (entry : Entry)
  | install (page frame : Nat)
  | markSwapped (page device slot : Nat)
  | markDirty (page : Nat)
  | clear (page : Nat)
deriving DecidableEq, Repr, Inhabited

namespace TableEdit

def page : TableEdit → Nat
  | write page _ | install page _ | markSwapped page _ _ | markDirty page | clear page => page

/-- What an edit writes at its page, given the entry that is there. -/
def written? (kept : Entry) : TableEdit → Option Entry
  | write _ entry => some entry
  | install _ frame => some (.ofFrame frame)
  | markSwapped _ device slot => some (.ofSlot device slot)
  | markDirty _ => kept.frame?.map fun _ => kept.markDirty
  | clear _ => some .zero

end TableEdit

section Journal

/-- The writes that went through, newest first. -/
abbrev Journal := List (Nat × Entry)

/-- The last entry written at a page, zero if there is none. -/
def Journal.entryAt (journal : Journal) (page : Nat) : Entry := (List.lookup page journal).getD .zero

theorem Journal.entryAt_cons (page : Nat) (entry : Entry) (journal : Journal) (other : Nat) :
    Journal.entryAt ((page, entry) :: journal) other = if other = page then entry else journal.entryAt other := by
  unfold Journal.entryAt
  rw [List.lookup_cons]
  by_cases same : other = page
  · simp [same]
  · simp [same, beq_false_of_ne same]

/-- An edit is written down if its page is below the capacity and it writes at all. -/
def Journal.record (capacity : Nat) (journal : Journal) (edit : TableEdit) : Journal :=
  match edit.written? (journal.entryAt edit.page) with
  | some entry => if edit.page < capacity then (edit.page, entry) :: journal else journal
  | none => journal

def Journal.ofEdits (capacity : Nat) (edits : List TableEdit) : Journal := edits.foldl (record capacity) []

theorem Journal.ofEdits_concat (capacity : Nat) (edits : List TableEdit) (edit : TableEdit) :
    Journal.ofEdits capacity (edits ++ [edit]) = (Journal.ofEdits capacity edits).record capacity edit := by
  simp only [ofEdits, List.foldl_append, List.foldl_cons, List.foldl_nil]

end Journal

section Edits

variable {T : Type} [PageTable T]

def TableEdit.perform (edit : TableEdit) (table : T) : Except TableError T :=
  match edit with
  | write page entry => PageTable.write table page entry
  | install page frame => PageTable.install table page frame
  | markSwapped page device slot => PageTable.markSwapped table page device slot
  | markDirty page => PageTable.markDirty table page
  | clear page => PageTable.clear table page

/-- The table after an edit; a refused edit leaves it as it was. -/
def TableEdit.after (table : T) (edit : TableEdit) : T :=
  match edit.perform table with
  | .ok next => next
  | .error _ => table

def edited (table : T) (edits : List TableEdit) : T := edits.foldl TableEdit.after table

theorem edited_concat (table : T) (edits : List TableEdit) (edit : TableEdit) :
    edited table (edits ++ [edit]) = edit.after (edited table edits) := by
  simp only [edited, List.foldl_append, List.foldl_cons, List.foldl_nil]

namespace TableEdit

/-- Every edit is one write, or none. -/
theorem perform_eq (edit : TableEdit) (table : T) : edit.perform table =
    match edit.written? (PageTable.lookup table edit.page) with
    | some entry => PageTable.write table edit.page entry
    | none => .ok table := by
  cases edit with
  | markDirty page =>
    simp only [perform, PageTable.markDirty, written?, TableEdit.page]
    cases (PageTable.lookup table page).frame? <;> rfl
  | _ => rfl

theorem after_eq_of_error {edit : TableEdit} {table : T} {reason : TableError}
    (refused : edit.perform table = .error reason) : edit.after table = table := by
  unfold after
  rw [refused]

theorem after_eq_of_written? {edit : TableEdit} {table : T}
    (silent : edit.written? (PageTable.lookup table edit.page) = none) : edit.after table = table := by
  unfold after
  rw [perform_eq, silent]

theorem after_eq_of_write {edit : TableEdit} {table next : T} {entry : Entry}
    (writes : edit.written? (PageTable.lookup table edit.page) = some entry)
    (written : PageTable.write table edit.page entry = .ok next) : edit.after table = next := by
  unfold after
  rw [perform_eq, writes]
  simp only [written]

/-- An edit leaves the table as it is, or it is a write that went through. -/
theorem after_cases (edit : TableEdit) (table : T) : edit.after table = table ∨
    ∃ entry, PageTable.write table edit.page entry = .ok (edit.after table) := by
  cases writes : edit.written? (PageTable.lookup table edit.page) with
  | none => exact .inl (after_eq_of_written? writes)
  | some entry =>
    cases written : PageTable.write table edit.page entry with
    | ok next =>
      right
      exact ⟨entry, (after_eq_of_write writes written).symm ▸ written⟩
    | error reason =>
      have refused : edit.perform table = .error reason := by
        rw [perform_eq, writes]
        exact written
      exact .inl (after_eq_of_error refused)

theorem lookup_after_of_ne [LawfulTable T] (edit : TableEdit) (table : T) {other : Nat}
    (distinct : other ≠ edit.page) :
    PageTable.lookup (edit.after table) other = PageTable.lookup table other := by
  obtain same | ⟨entry, written⟩ := edit.after_cases table
  · rw [same]
  · rw [LawfulTable.lookup_write written, if_neg distinct]

end TableEdit

/-- A table has the entries of a journal. -/
structure Journal.Describes [LawfulTable T] (journal : Journal) (table : T) : Prop where
  formed : LawfulTable.WellFormed table
  lookup : ∀ page, PageTable.lookup table page = journal.entryAt page

theorem Journal.Describes.write [LawfulTable T] {journal : Journal} {table next : T} {page : Nat} {entry : Entry}
    (describes : journal.Describes table) (written : PageTable.write table page entry = .ok next) :
    Journal.Describes ((page, entry) :: journal) next where
  formed := LawfulTable.wellFormed_write describes.formed written
  lookup other := by
    rw [LawfulTable.lookup_write written, Journal.entryAt_cons, describes.lookup]

variable [TotalTable T]

/-- A total table takes the edits that the journal writes down, and refuses the others. -/
theorem Journal.Describes.after {journal : Journal} {table : T} (describes : journal.Describes table)
    (edit : TableEdit) : Journal.Describes (journal.record (PageTable.capacity table) edit) (edit.after table) := by
  unfold Journal.record
  rw [← describes.lookup]
  cases writes : edit.written? (PageTable.lookup table edit.page) with
  | none =>
    rw [TableEdit.after_eq_of_written? writes]
    exact describes
  | some entry =>
    by_cases fits : edit.page < PageTable.capacity table
    · obtain ⟨next, written⟩ := TotalTable.write_of_lt table entry fits
      rw [TableEdit.after_eq_of_write writes written]
      simp only [fits, if_true]
      exact describes.write written
    · obtain same | ⟨_, written⟩ := edit.after_cases table
      · rw [same]
        simp only [fits, if_false]
        exact describes
      · exact absurd (LawfulTable.lt_capacity_of_write written) fits

omit [TotalTable T] in
theorem capacity_edited [LawfulTable T] (table : T) (edits : List TableEdit) :
    PageTable.capacity (edited table edits) = PageTable.capacity table := by
  induction edits using List.reverseRecOn with
  | nil => rfl
  | append_singleton edits edit ih =>
    rw [edited_concat, ← ih]
    obtain same | ⟨_, written⟩ := edit.after_cases (edited table edits)
    · rw [same]
    · exact LawfulTable.capacity_write written

/-- Along a sequence of edits a table that was blank is its journal. -/
theorem describes_edited {table : T} (formed : LawfulTable.WellFormed table)
    (blank : ∀ page, PageTable.lookup table page = .zero) (edits : List TableEdit) :
    (Journal.ofEdits (PageTable.capacity table) edits).Describes (edited table edits) := by
  induction edits using List.reverseRecOn with
  | nil => exact ⟨formed, blank⟩
  | append_singleton edits edit ih =>
    rw [edited_concat, Journal.ofEdits_concat, ← capacity_edited table edits]
    rw [← capacity_edited table edits] at ih
    exact ih.after edit

end Edits

namespace RadixTable

theorem write_eq_error_iff {table : RadixTable} {page : Nat} {entry : Entry} {reason : TableError} :
    table.write page entry = .error reason ↔
      reason = .outOfRange page Parameters.radixPages ∧ Parameters.radixPages ≤ page := by
  unfold write
  by_cases beyond : Parameters.radixPages ≤ page
  · simp only [beyond, if_true, and_true, Except.error.injEq]
    exact eq_comm
  · simp only [beyond, if_false, and_false, iff_false]
    split <;> nofun

/-- Only marking a page dirty depends on what is there. -/
theorem perform_eq_error_iff {edit : TableEdit} {table : RadixTable} {reason : TableError} :
    edit.perform table = .error reason ↔
      reason = .outOfRange edit.page Parameters.radixPages ∧ Parameters.radixPages ≤ edit.page ∧
        (edit = .markDirty edit.page → (PageTable.lookup table edit.page).frame? ≠ none) := by
  have refused {entry : Entry} : PageTable.write table edit.page entry = .error reason ↔
      reason = .outOfRange edit.page Parameters.radixPages ∧ Parameters.radixPages ≤ edit.page := write_eq_error_iff
  cases edit with
  | markDirty page =>
    rw [TableEdit.perform_eq]
    simp only [TableEdit.written?, TableEdit.page] at refused ⊢
    cases (PageTable.lookup table page).frame? with
    | none => simp
    | some frame => simpa using refused
  | _ =>
    rw [TableEdit.perform_eq]
    simpa [TableEdit.written?] using refused

/-- After any edits, a radix table that started empty is the map that the edits describe. -/
theorem edited_is_finite_map (edits : List TableEdit) :
    let table := edited (∅ : RadixTable) edits
    (∀ page, PageTable.lookup table page = (Journal.ofEdits (2 ^ 45) edits).entryAt page) ∧
    (∀ edit other, other ≠ TableEdit.page edit →
      PageTable.lookup (edit.after table) other = PageTable.lookup table other) ∧
    (∀ edit reason, TableEdit.perform edit table = .error reason ↔
      reason = .outOfRange edit.page (2 ^ 45) ∧ 2 ^ 45 ≤ edit.page ∧
        (edit = .markDirty edit.page → (PageTable.lookup table edit.page).frame? ≠ none)) ∧
    (∀ edit, 2 ^ 45 ≤ TableEdit.page edit → edit.after table = table) ∧
    (∀ page entry, (page, entry) ∈ PageTable.mapped table ↔
      PageTable.lookup table page = entry ∧ entry ≠ .zero) ∧
    (PageTable.mapped table).Pairwise fun one other => one.1 < other.1 := by
  intro table
  have reach : Parameters.radixPages = 2 ^ 45 := by decide
  have describes : (Journal.ofEdits (2 ^ 45) edits).Describes table := by
    rw [← reach]
    exact describes_edited (Subtree.bounded_empty _) lookup_empty edits
  constructor
  · exact describes.lookup
  constructor
  · exact fun edit other distinct => edit.lookup_after_of_ne table distinct
  constructor
  · intro edit reason
    rw [← reach]
    exact perform_eq_error_iff
  constructor
  · intro edit beyond
    obtain same | ⟨entry, written⟩ := edit.after_cases table
    · exact same
    · have fits : edit.page < Parameters.radixPages := LawfulTable.lt_capacity_of_write written
      omega
  constructor
  · exact fun page entry => LawfulTable.mem_mapped_iff describes.formed
  · exact LawfulTable.mapped_ascend describes.formed

end RadixTable

end DemandPaging
