import DemandPaging.Space.Evict

/-! # Access through regions

A byte is named by a live region and an offset inside it. Reading or writing it resolves its page and
then touches the frame; writing also sets the dirty flag of the page. A pattern install stamps a
poison word over the absent entries of a range, which stay absent.
-/

namespace DemandPaging

open Text

namespace Event

def byteRead (id offset address : Nat) (value : UInt8) : Event where
  severity := .trace
  source := .access
  message := s!"read region {id}+{offset} ({Address.text address}) = " ++
    s!"0x{Hexadecimal.lower 2 value.toNat}"

def byteWritten (id offset address : Nat) (value : UInt8) : Event where
  severity := .trace
  source := .access
  message := s!"write region {id}+{offset} ({Address.text address}) = " ++
    s!"0x{Hexadecimal.lower 2 value.toNat}"

def patternInstalled (count first : Nat) : Event where
  severity := .debug
  source := .access
  message := s!"stamped {count} entr(ies) from {Address.pageTag first} with " ++
    Hexadecimal.short Parameters.poisonWord

/-- A dump of entries tells how many there are, then each of them. -/
def tableDump (start stop : Nat) (entries : List (Nat × Entry)) : List Event :=
  ⟨.debug, .access, s!"page table [{Address.virtualTag start}..{Address.virtualTag stop}): " ++
    s!"{entries.length} entr(ies)"⟩ ::
    entries.map fun (page, entry) => ⟨.debug, .access, s!"  {Address.pageTag page} -> {entry.tag}"⟩

end Event

namespace Space

open Paging

variable {T : Type} [PageTable T]

/-- Resolves the page of a byte and gives the page and the byte's physical address. -/
def locate (id offset : Nat) : Paging T (Nat × Nat) := do
  let region ← settle ((← space).region? id)
  if region.size ≤ offset then throw (.offsetOutOfRange offset region.size)
  let geometry ← geometry
  let (page, inPage) := geometry.split (region.start + offset)
  let frame ← resolve page
  return (page, geometry.physical frame inPage)

def readByte (id offset : Nat) : Paging T UInt8 := do
  let (_, address) ← locate id offset
  let value ← onMachine (Machine.read .ram address)
  emit (.byteRead id offset address value)
  return value

def writeByte (id offset : Nat) (value : UInt8) : Paging T Unit := do
  let (page, address) ← locate id offset
  onMachine (Machine.write .ram address value)
  markDirty page
  emit (.byteWritten id offset address value)

/-- Stamps the entry of one page if it is absent, and counts it. -/
def stamp (count page : Nat) : Paging T Nat := do
  match (← lookup page).state with
  | .absent =>
    write page .poison
    return count + 1
  | _ => return count

/-- Stamps the absent entries of an aligned range inside one area and gives their number. A refused
write ends the operation. -/
def installPattern (start pages : Nat) : Paging T Nat := do
  let first ← settle ((← space).pageRange (← geometry) start pages)
  let count ← (List.range' first pages).foldlM stamp 0
  emit (.patternInstalled count first)
  return count

/-- The entries of the pages from that of `start` up to that of `stop`; they also go to the log. -/
def dumpTable (start stop : Nat) : Paging T (List (Nat × Entry)) := do
  let geometry ← geometry
  let first := geometry.pageOf start
  let last := geometry.pageOf stop
  let entries := (PageTable.mapped (← space).table).filter fun slot => first ≤ slot.1 && slot.1 < last
  modify fun stage => { stage with log := (Event.tableDump start stop entries).reverse ++ stage.log }
  return entries

end Space

end DemandPaging
