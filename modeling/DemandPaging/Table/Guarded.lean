import DemandPaging.Table.Basic

/-! # Guarded page tables

A guard refuses some writes to a table, chosen by page and entry; everything else goes to the table
behind it. A refused write is reported as out of range, with the page itself as the limit. Guards
stand for tables whose writes can fail part-way through an operation.
-/

namespace DemandPaging

/-- The kinds of entry that a refusal rule can pick out. -/
inductive EntryClass where
  | any | absent | swapped | present | dirty
deriving DecidableEq, Repr, Inhabited

namespace EntryClass

def all : List EntryClass := [.any, .absent, .swapped, .present, .dirty]

def name : EntryClass → String
  | .any => "any"
  | .absent => "absent"
  | .swapped => "swapped"
  | .present => "present"
  | .dirty => "dirty"

def ofName? (name : String) : Option EntryClass :=
  all.find? fun pattern => pattern.name == name

def picks (pattern : EntryClass) (entry : Entry) : Bool :=
  match pattern, entry.state with
  | .any, _ => true
  | .absent, .absent => true
  | .swapped, .swapped _ _ => true
  | .present, .present _ _ => true
  | .dirty, .present _ written => written
  | _, _ => false

end EntryClass

/-- Refuses the entries of one class at one page. -/
structure Refusal where
  page : Nat
  pattern : EntryClass
deriving DecidableEq, Repr, Inhabited

/-- Whether some rule refuses an entry at a page. -/
def Refusal.anyOf (rules : List Refusal) (page : Nat) (entry : Entry) : Bool :=
  rules.any fun rule => rule.page == page && rule.pattern.picks entry

structure GuardedTable (T : Type) where
  inner : T
  refuses : Nat → Entry → Bool

namespace GuardedTable

variable {T : Type} [PageTable T]

def write (table : GuardedTable T) (page : Nat) (entry : Entry) :
    Except TableError (GuardedTable T) :=
  if table.refuses page entry then .error (.outOfRange page page)
  else (PageTable.write table.inner page entry).map fun inner => { table with inner }

instance : PageTable (GuardedTable T) where
  capacity table := PageTable.capacity table.inner
  lookup table := PageTable.lookup table.inner
  write := write
  mapped table := PageTable.mapped table.inner
  nodes table := PageTable.nodes table.inner

instance [EmptyCollection T] : EmptyCollection (GuardedTable T) := ⟨⟨∅, fun _ _ => false⟩⟩

theorem write_refused {table : GuardedTable T} {page : Nat} {entry : Entry}
    (refused : table.refuses page entry = true) :
    table.write page entry = .error (.outOfRange page page) := by
  simp only [write, refused, ↓reduceIte]

end GuardedTable

end DemandPaging
