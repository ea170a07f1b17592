import DemandPaging.Entry
import DemandPaging.Event

/-! # Page tables

A page table maps the page numbers below its capacity to entries. Reading is total: a page that was
never written, or lies beyond the table, has the zero entry. Writing is the one operation that can be
refused, and a refused write leaves no new table behind. Installing a frame, marking a page swapped
or dirty and clearing it are writes of particular entries, so they are defined once for all tables.
-/

namespace DemandPaging

inductive TableError where
  | outOfRange (page limit : Nat)
deriving DecidableEq, Repr, Inhabited

def TableError.message : TableError → String
  | .outOfRange page limit => s!"page {page} outside the table (limit {limit} pages)"

class PageTable (T : Type) where
  /-- Page numbers below the capacity can be mapped. -/
  capacity : T → Nat
  lookup : T → Nat → Entry
  write : T → Nat → Entry → Except TableError T
  /-- Every entry other than zero, in ascending page order. -/
  mapped : T → List (Nat × Entry)
  /-- Nodes built below the top, none for a table without levels. -/
  nodes : T → Nat := fun _ => 0

namespace PageTable

variable {T : Type} [PageTable T]

/-- Maps `page` to a RAM frame, clean. -/
def install (table : T) (page frame : Nat) : Except TableError T :=
  write table page (.ofFrame frame)

/-- Records that `page` lives in a slot of a swap device. -/
def markSwapped (table : T) (page device slot : Nat) : Except TableError T :=
  write table page (.ofSlot device slot)

/-- Sets the dirty flag of a resident page; any other page is left alone. -/
def markDirty (table : T) (page : Nat) : Except TableError T :=
  let entry := lookup table page
  match entry.frame? with
  | some _ => write table page entry.markDirty
  | none => .ok table

def clear (table : T) (page : Nat) : Except TableError T :=
  write table page .zero

end PageTable

end DemandPaging
