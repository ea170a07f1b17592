import DemandPaging.Proofs.TableLaws
import DemandPaging.Table.Radix
import Mathlib.Algebra.Group.Nat.Defs

/-! # Radix tables are total

Two pages below the reach of the tree are equal exactly when all their indices are, so a write along
one path is read back on that page and leaves the entries of all others alone. Listing a subtree whose
indices stay within the fan-out gives its non-zero entries in ascending page order. Both facts are
inductions on the level, for any subtree at any place of the tree.
-/

namespace DemandPaging

open Parameters (radixFanout radixIndexBits radixLevels radixPages)

namespace Subtree

/-- Whether two pages take the same way through a subtree. -/
def SamePath : (level one other : Nat) → Prop
  | 0, _, _ => True
  | level + 1, one, other => index level one = index level other ∧ SamePath level one other

instance SamePath.decidable : (level one other : Nat) → Decidable (SamePath level one other)
  | 0, _, _ => .isTrue trivial
  | level + 1, one, other =>
    have := SamePath.decidable level one other
    inferInstanceAs (Decidable (_ ∧ _))

/-- The children of a node by index. -/
def children {level : Nat} (node : Subtree (level + 1)) : Std.ExtTreeMap Nat (Subtree level) := node

/-- Every index below a node is less than the fan-out. -/
def Bounded : {level : Nat} → Subtree level → Prop
  | 0, _ => True
  | _ + 1, node => ∀ key child, node.children[key]? = some child → key < radixFanout ∧ child.Bounded

theorem index_lt (level page : Nat) : index level page < radixFanout :=
  Nat.mod_lt _ (by decide)

theorem index_eq (level page : Nat) :
    index level page = page / radixFanout ^ level % radixFanout := by
  have fanout : radixFanout = 2 ^ radixIndexBits := rfl
  rw [index, Nat.shiftRight_eq_div_pow, fanout, ← Nat.pow_mul]

/-- The part of a page that the indices below a level select. -/
theorem mod_succ (level page : Nat) :
    page % radixFanout ^ (level + 1) =
      index level page * radixFanout ^ level + page % radixFanout ^ level := by
  rw [index_eq, Nat.pow_succ, Nat.mod_mul, Nat.mul_comm (radixFanout ^ level), Nat.add_comm]

theorem samePath_iff (level one other : Nat) :
    SamePath level one other ↔ one % radixFanout ^ level = other % radixFanout ^ level := by
  induction level with
  | zero => simp [SamePath, Nat.mod_one]
  | succ level ih =>
    have positive : 0 < radixFanout ^ level := Nat.pow_pos (by decide)
    have small (page : Nat) : page % radixFanout ^ level < radixFanout ^ level :=
      Nat.mod_lt _ positive
    rw [SamePath, ih, mod_succ, mod_succ]
    constructor
    · rintro ⟨top, rest⟩
      rw [top, rest]
    · intro same
      have rest : one % radixFanout ^ level = other % radixFanout ^ level := by
        have cut := congrArg (· % radixFanout ^ level) same
        simpa [Nat.mul_add_mod_self_right, Nat.mod_eq_of_lt (small _)] using cut
      exact ⟨Nat.eq_of_mul_eq_mul_right positive (by omega), rest⟩

/-- All indices together name a page within the reach of the tree. -/
theorem samePath_iff_eq {one other : Nat} (oneFits : one < radixPages) (otherFits : other < radixPages) :
    SamePath radixLevels one other ↔ one = other := by
  have reach : radixPages = radixFanout ^ radixLevels := by decide
  rw [samePath_iff, ← reach, Nat.mod_eq_of_lt oneFits, Nat.mod_eq_of_lt otherFits]

theorem child?_empty (level page : Nat) : (empty (level + 1)).child? page = none := by
  simp [child?, empty]

theorem child?_setChild {level : Nat} (node : Subtree (level + 1)) (page other : Nat)
    (child : Subtree level) :
    (node.setChild page child).child? other =
      if index level other = index level page then some child else node.child? other := by
  show (node.children.insert (index level page) child)[index level other]? = _
  simp only [Std.ExtTreeMap.getElem?_insert, Std.compare_eq_iff_eq, eq_comm (a := index level page)]
  rfl

theorem lookup_empty (level page : Nat) : (empty level).lookup page = .zero := by
  cases level with
  | zero => rfl
  | succ level => simp only [lookup, child?_empty]

theorem lookup_write {level : Nat} (node : Subtree level) (page other : Nat) (entry : Entry) :
    (node.write page entry).1.lookup other =
      if SamePath level other page then entry else node.lookup other := by
  induction level with
  | zero => simp [write, lookup, SamePath]
  | succ level ih =>
    have same (child : Subtree level) (top : index level other = index level page) :
        (if SamePath (level + 1) other page then entry else child.lookup other) =
          (child.write page entry).1.lookup other := by
      simp only [ih, SamePath, top, true_and]
    cases found : node.child? page with
    | some child =>
      simp only [write, found, lookup, child?_setChild]
      by_cases top : index level other = index level page
      · have kept : node.child? other = some child := by rw [child?, top]; exact found
        simp only [top, if_true, kept]
        exact (same child top).symm
      · simp only [top, SamePath, false_and, if_false]
    | none =>
      simp only [write, found, lookup, child?_setChild]
      by_cases top : index level other = index level page
      · have kept : node.child? other = none := by rw [child?, top]; exact found
        simp only [top, if_true, kept]
        rw [← same (empty level) top, lookup_empty]
      · simp only [top, SamePath, false_and, if_false]

theorem lookup_clear {level : Nat} (node : Subtree level) (page other : Nat) :
    (node.clear page).lookup other =
      if SamePath level other page then .zero else node.lookup other := by
  induction level with
  | zero => simp [clear, lookup, SamePath]
  | succ level ih =>
    cases found : node.child? page with
    | some child =>
      simp only [clear, found, lookup, child?_setChild]
      by_cases top : index level other = index level page
      · have kept : node.child? other = some child := by rw [child?, top]; exact found
        simp only [top, if_true, kept, SamePath, true_and, ih]
      · simp only [top, SamePath, false_and, if_false]
    | none =>
      simp only [clear, found]
      by_cases top : index level other = index level page
      · have kept : node.child? other = none := by rw [child?, top]; exact found
        simp only [lookup, kept, ite_self]
      · simp only [top, SamePath, false_and, if_false]

theorem bounded_empty (level : Nat) : (empty level).Bounded := by
  cases level with
  | zero => trivial
  | succ level =>
    intro key child found
    simp [empty, children] at found

theorem bounded_child? {level : Nat} {node : Subtree (level + 1)} (bounded : node.Bounded)
    {page : Nat} {child : Subtree level} (found : node.child? page = some child) : child.Bounded :=
  (bounded _ child found).2

theorem bounded_setChild {level : Nat} {node : Subtree (level + 1)} (bounded : node.Bounded)
    (page : Nat) {child : Subtree level} (fits : child.Bounded) : (node.setChild page child).Bounded := by
  intro key other found
  change (node.children.insert (index level page) child)[key]? = some other at found
  simp only [Std.ExtTreeMap.getElem?_insert, Std.compare_eq_iff_eq] at found
  split at found
  · next same =>
    cases found
    exact ⟨same ▸ index_lt level page, fits⟩
  · exact bounded key other found

theorem bounded_write {level : Nat} {node : Subtree level} (bounded : node.Bounded) (page : Nat)
    (entry : Entry) : (node.write page entry).1.Bounded := by
  induction level with
  | zero => trivial
  | succ level ih =>
    cases found : node.child? page with
    | some child =>
      simp only [write, found]
      exact bounded_setChild bounded page (ih (bounded_child? bounded found))
    | none =>
      simp only [write, found]
      exact bounded_setChild bounded page (ih (bounded_empty level))

theorem bounded_clear {level : Nat} {node : Subtree level} (bounded : node.Bounded) (page : Nat) :
    (node.clear page).Bounded := by
  induction level with
  | zero => trivial
  | succ level ih =>
    cases found : node.child? page with
    | some child =>
      simp only [clear, found]
      exact bounded_setChild bounded page (ih (bounded_child? bounded found))
    | none =>
      simp only [clear, found]
      exact bounded

/-- A page below `start` is listed by the child that its next index selects. -/
private theorem start_child {start key page level : Nat} (small : key < radixFanout) :
    page / radixFanout ^ level = start * radixFanout + key ↔
      page / radixFanout ^ (level + 1) = start ∧ key = index level page := by
  rw [index_eq, Nat.pow_succ, ← Nat.div_div_eq_div_mul]
  generalize page / radixFanout ^ level = top
  have cut := Nat.div_add_mod top radixFanout
  constructor
  · rintro rfl
    rw [Nat.mul_comm start, Nat.mul_add_div (by decide), Nat.div_eq_of_lt small,
      Nat.mul_add_mod, Nat.mod_eq_of_lt small]
    exact ⟨rfl, rfl⟩
  · rintro ⟨rfl, rfl⟩
    rw [Nat.mul_comm]
    exact cut.symm

theorem mapped_succ {level : Nat} (node : Subtree (level + 1)) (start : Nat) :
    node.mapped start =
      node.children.toList.flatMap fun slot => slot.2.mapped (start * radixFanout + slot.1) := rfl

theorem mem_mapped_iff {level : Nat} {node : Subtree level} (bounded : node.Bounded)
    {start page : Nat} {entry : Entry} :
    (page, entry) ∈ node.mapped start ↔
      page / radixFanout ^ level = start ∧ node.lookup page = entry ∧ entry ≠ .zero := by
  induction level generalizing start with
  | zero =>
    by_cases blank : Entry.isZero node
    · have zero := (Entry.isZero_iff node).mp blank
      simp only [mapped, blank, if_true, List.not_mem_nil, lookup, Nat.pow_zero, Nat.div_one, false_iff]
      rintro ⟨-, rfl, written⟩
      exact written zero
    · have written : node ≠ Entry.zero := fun zero => blank ((Entry.isZero_iff node).mpr zero)
      simp only [mapped, blank, if_false, Bool.false_eq_true, List.mem_singleton, lookup, Nat.pow_zero,
        Nat.div_one]
      constructor
      · intro same
        obtain ⟨rfl, rfl⟩ := Prod.mk.inj same
        exact ⟨rfl, rfl, written⟩
      · rintro ⟨rfl, rfl, -⟩
        rfl
  | succ level ih =>
    have listed (key : Nat) (child : Subtree level) :
        (key, child) ∈ node.children.toList ↔ node.children[key]? = some child :=
      Std.ExtTreeMap.mem_toList_iff_getElem?_eq_some
    simp only [mapped_succ, List.mem_flatMap, Prod.exists]
    constructor
    · rintro ⟨key, child, member, below⟩
      have found := (listed key child).mp member
      obtain ⟨small, fits⟩ := bounded key child found
      obtain ⟨place, read, written⟩ := (ih fits).mp below
      obtain ⟨top, rfl⟩ := (start_child small).mp place
      have selected : node.child? page = some child := found
      exact ⟨top, by simp only [lookup, selected, read], written⟩
    · rintro ⟨top, read, written⟩
      cases selected : node.child? page with
      | none =>
        simp only [lookup, selected] at read
        exact (written read.symm).elim
      | some child =>
        simp only [lookup, selected] at read
        obtain ⟨small, fits⟩ := bounded _ child selected
        refine ⟨index level page, child, (listed _ _).mpr selected, (ih fits).mpr ⟨?_, read, written⟩⟩
        exact (start_child small).mpr ⟨top, rfl⟩

theorem mapped_ascend {level : Nat} {node : Subtree level} (bounded : node.Bounded) (start : Nat) :
    (node.mapped start).Pairwise fun one other => one.1 < other.1 := by
  induction level generalizing start with
  | zero =>
    unfold mapped
    split
    · exact .nil
    · exact List.pairwise_singleton _ _
  | succ level ih =>
    have listed (key : Nat) (child : Subtree level) :
        (key, child) ∈ node.children.toList → key < radixFanout ∧ child.Bounded := fun member =>
      bounded key child (Std.ExtTreeMap.mem_toList_iff_getElem?_eq_some.mp member)
    have ordered := Std.ExtTreeMap.ordered_keys_toList (t := node.children)
    rw [mapped_succ]
    refine List.pairwise_flatMap.mpr ⟨fun slot member => ih (listed slot.1 slot.2 member).2 _, ?_⟩
    refine ordered.imp_of_mem ?_
    rintro ⟨key, child⟩ ⟨later, sibling⟩ member present before ⟨page, entry⟩ below ⟨other, kept⟩ beyond
    have first := ((mem_mapped_iff (listed _ _ member).2).mp below).1
    have second := ((mem_mapped_iff (listed _ _ present).2).mp beyond).1
    have less : page / radixFanout ^ level < other / radixFanout ^ level := by
      rw [first, second]
      exact Nat.add_lt_add_left (Nat.compare_eq_lt.mp before) _
    exact Nat.lt_of_not_le fun reversed => Nat.not_lt.mpr (Nat.div_le_div_right reversed) less

end Subtree

namespace RadixTable

theorem write_eq_ok {table next : RadixTable} {page : Nat} {entry : Entry}
    (done : table.write page entry = .ok next) :
    page < radixPages ∧
      next.top = if entry.isZero then table.top.clear page else (table.top.write page entry).1 := by
  unfold write at done
  split at done
  · contradiction
  · next fits =>
    refine ⟨Nat.lt_of_not_le fits, ?_⟩
    split at done
    · next blank =>
      cases done
      exact (if_pos blank).symm
    · next written =>
      cases done
      exact (if_neg written).symm

theorem lookup_write {table next : RadixTable} {page : Nat} {entry : Entry}
    (done : table.write page entry = .ok next) (other : Nat) :
    next.lookup other = if other = page then entry else table.lookup other := by
  obtain ⟨fits, top⟩ := write_eq_ok done
  by_cases within : other < radixPages
  · simp only [lookup, within, if_true, top]
    by_cases blank : entry.isZero
    · simp only [blank, if_true, Subtree.lookup_clear, Subtree.samePath_iff_eq within fits]
      rw [(Entry.isZero_iff entry).mp blank]
    · simp only [blank, Bool.false_eq_true, if_false, Subtree.lookup_write,
        Subtree.samePath_iff_eq within fits]
  · have distinct : other ≠ page := fun same => within (same ▸ fits)
    simp only [lookup, within, if_false, distinct]

theorem mem_mapped_iff {table : RadixTable} (bounded : table.top.Bounded) {page : Nat} {entry : Entry} :
    (page, entry) ∈ table.top.mapped 0 ↔ table.lookup page = entry ∧ entry ≠ .zero := by
  have reach : radixPages = radixFanout ^ radixLevels := by decide
  rw [Subtree.mem_mapped_iff bounded, ← reach, Nat.div_eq_zero_iff_lt (by decide), lookup]
  constructor
  · rintro ⟨within, read⟩
    simpa only [within, if_true] using read
  · rintro ⟨read, written⟩
    split at read
    · next within => exact ⟨within, read, written⟩
    · exact (written read.symm).elim

instance : TotalTable RadixTable where
  WellFormed table := table.top.Bounded
  wellFormed_write {table next page entry} bounded done := by
    rw [(write_eq_ok done).2]
    split
    · exact Subtree.bounded_clear bounded page
    · exact Subtree.bounded_write bounded page entry
  capacity_write _ := rfl
  lt_capacity_of_write done := (write_eq_ok done).1
  lookup_write := lookup_write
  lookup_of_capacity_le {table page} _ beyond := if_neg (Nat.not_lt.mpr beyond)
  mem_mapped_iff bounded := mem_mapped_iff bounded
  mapped_ascend bounded := Subtree.mapped_ascend bounded 0
  write_of_lt table page entry fits := by
    show ∃ next, table.write page entry = .ok next
    unfold write
    have within : ¬ radixPages ≤ page := Nat.not_le.mpr fits
    rw [if_neg within]
    split <;> exact ⟨_, rfl⟩

theorem lookup_empty (page : Nat) : empty.lookup page = .zero := by
  unfold lookup empty
  rw [Subtree.lookup_empty, ite_self]

end RadixTable

end DemandPaging
