import DemandPaging.Table.Basic
import DemandPaging.Text.Record
import Std.Data.ExtTreeMap

/-! # Radix page tables

A page number is cut into five indices of nine bits, outermost first. A node of the tree maps the
index of its level to a child; the lowest nodes map it to an entry. A node exists from the first
write of a non-zero entry below it on: reading walks existing nodes only, and writing the zero entry
never builds one. The table counts the nodes it has built below the top.
-/

namespace DemandPaging

open Std (ExtTreeMap)

/-- A subtree with `level` indices left to walk; with none left it is an entry. -/
def Subtree : Nat → Type
  | 0 => Entry
  | level + 1 => ExtTreeMap Nat (Subtree level)

namespace Subtree

/-- The index that selects a child of a subtree with `level + 1` indices left. -/
def index (level page : Nat) : Nat :=
  page >>> (Parameters.radixIndexBits * level) % Parameters.radixFanout

/-- The indices of a page, outermost first. -/
def path (page : Nat) : List Nat :=
  (List.range Parameters.radixLevels).reverse.map fun level => index level page

def empty : (level : Nat) → Subtree level
  | 0 => Entry.zero
  | level + 1 => (ExtTreeMap.empty : ExtTreeMap Nat (Subtree level) compare)

def child? {level : Nat} (node : Subtree (level + 1)) (page : Nat) : Option (Subtree level) :=
  ExtTreeMap.get? node (index level page)

def setChild {level : Nat} (node : Subtree (level + 1)) (page : Nat) (child : Subtree level) :
    Subtree (level + 1) :=
  ExtTreeMap.insert node (index level page) child

def lookup : {level : Nat} → Subtree level → Nat → Entry
  | 0, entry, _ => entry
  | _ + 1, node, page =>
    match node.child? page with
    | some child => child.lookup page
    | none => .zero

/-- Writes an entry along a path that is built where it is missing, and counts the nodes built. -/
def write : {level : Nat} → Subtree level → Nat → Entry → Subtree level × Nat
  | 0, _, _, entry => (entry, 0)
  | level + 1, node, page, entry =>
    match node.child? page with
    | some child =>
      let (child, built) := child.write page entry
      (node.setChild page child, built)
    | none =>
      let (child, built) := (empty level).write page entry
      (node.setChild page child, built + if level = 0 then 0 else 1)

/-- Zeroes an entry if its path exists. -/
def clear : {level : Nat} → Subtree level → Nat → Subtree level
  | 0, _, _ => Entry.zero
  | _ + 1, node, page =>
    match node.child? page with
    | some child => node.setChild page (child.clear page)
    | none => node

/-- The non-zero entries below a node whose pages start with the digits of `start`. -/
def mapped : {level : Nat} → Subtree level → (start : Nat) → List (Nat × Entry)
  | 0, entry, start => if Entry.isZero entry then [] else [(start, entry)]
  | _ + 1, node, start =>
    (ExtTreeMap.toList node).flatMap fun slot =>
      slot.2.mapped (start * Parameters.radixFanout + slot.1)

end Subtree

structure RadixTable where
  top : Subtree Parameters.radixLevels
  built : Nat

namespace RadixTable

def empty : RadixTable := ⟨Subtree.empty Parameters.radixLevels, 0⟩

instance : EmptyCollection RadixTable := ⟨empty⟩

instance : Inhabited RadixTable := ⟨empty⟩

def lookup (table : RadixTable) (page : Nat) : Entry :=
  if page < Parameters.radixPages then table.top.lookup page else .zero

def write (table : RadixTable) (page : Nat) (entry : Entry) : Except TableError RadixTable :=
  if Parameters.radixPages ≤ page then .error (.outOfRange page Parameters.radixPages)
  else if entry.isZero then .ok { table with top := table.top.clear page }
  else
    let (top, built) := table.top.write page entry
    .ok ⟨top, table.built + built⟩

instance : PageTable RadixTable where
  capacity _ := Parameters.radixPages
  lookup := lookup
  write := write
  mapped table := table.top.mapped 0
  nodes table := table.built

end RadixTable

/-- Tells how many nodes a write to `page` built, if it built any. -/
def PageTable.growth? {T : Type} [PageTable T] (before after : T) (page : Nat) : Option Event :=
  let built := PageTable.nodes after - PageTable.nodes before
  if built = 0 then none
  else
    let path := Text.sequence ((Subtree.path page).map toString)
    some ⟨.trace, .radix, s!"radix table: allocated {built} node(s) for path {path}"⟩

end DemandPaging
