import DemandPaging.Proofs.TableEdits
import Mathlib.Data.Finset.Union
import Mathlib.Order.Interval.Finset.Nat

/-! # Nodes of a radix table

A node stands at the place that the indices leading to it spell. No two nodes share a place, and only a
write of an entry other than zero builds nodes: one at each place on the way to its page that had none, and
the counter goes up by as many. Nothing takes a node away. Along any requests the counter is therefore the
number of nodes below the top, and these stand at the prefixes of the paths of all pages that were ever
given an entry, wherever the paths meet and whatever became of the entries.
-/

namespace DemandPaging

open Parameters (radixLevels radixPages)

namespace Subtree

/-- The places of the nodes of a subtree, by the indices that lead to them; an entry is no node. -/
def places : {level : Nat} → Subtree level → List (List Nat)
  | 0, _ => []
  | _ + 1, node => [] :: node.children.toList.flatMap fun slot => slot.2.places.map (slot.1 :: ·)

/-- The places of the nodes on the way to a page. -/
def stops : (level page : Nat) → List (List Nat)
  | 0, _ => []
  | level + 1, page => [] :: (stops level page).map (index level page :: ·)

/-- The child on the way to a page, a new one where there is none. -/
def childOn {level : Nat} (node : Subtree (level + 1)) (page : Nat) : Subtree level :=
  (node.child? page).getD (empty level)

/-- The nodes on the way to a page stand at the prefixes of its path, the whole path excepted. -/
theorem stops_eq (page : Nat) : stops radixLevels page = (List.range 5).map fun length => (path page).take length := rfl

theorem path_ne_nil (page : Nat) : path page ≠ [] := List.cons_ne_nil _ _

theorem length_stops (level page : Nat) : (stops level page).length = level := by
  induction level with
  | zero => rfl
  | succ level ih => rw [stops, List.length_cons, List.length_map, ih]

theorem nodup_stops (level page : Nat) : (stops level page).Nodup := by
  induction level with
  | zero => exact List.nodup_nil
  | succ level ih =>
    rw [stops, List.nodup_cons]
    exact ⟨by simp, ih.map List.cons_injective⟩

theorem cons_mem_stops {level page key : Nat} {place : List Nat} :
    key :: place ∈ stops (level + 1) page ↔ key = index level page ∧ place ∈ stops level page := by
  simp only [stops, List.mem_cons, reduceCtorEq, false_or, List.mem_map, List.cons.injEq]
  constructor
  · rintro ⟨_, inside, rfl, rfl⟩
    exact ⟨rfl, inside⟩
  · rintro ⟨rfl, inside⟩
    exact ⟨place, inside, rfl, rfl⟩

section Places

variable {level : Nat} {node : Subtree (level + 1)} {page : Nat}

theorem nil_mem_places (node : Subtree (level + 1)) : [] ∈ node.places := List.mem_cons_self

theorem cons_mem_places {key : Nat} {place : List Nat} :
    key :: place ∈ node.places ↔ ∃ child, node.children[key]? = some child ∧ place ∈ child.places := by
  simp only [places, List.mem_cons, reduceCtorEq, false_or, List.mem_flatMap, List.mem_map, Prod.exists,
    Std.ExtTreeMap.mem_toList_iff_getElem?_eq_some, List.cons.injEq]
  constructor
  · rintro ⟨_, child, found, _, inside, rfl, rfl⟩
    exact ⟨child, found, inside⟩
  · rintro ⟨child, found, inside⟩
    exact ⟨key, child, found, place, inside, rfl, rfl⟩

theorem cons_mem_places_of_child? {child : Subtree level} (found : node.child? page = some child)
    {place : List Nat} : index level page :: place ∈ node.places ↔ place ∈ child.places := by
  have at_index : node.children[index level page]? = some child := found
  rw [cons_mem_places, at_index]
  simp

theorem cons_notMem_places_of_child? (missing : node.child? page = none) (place : List Nat) :
    index level page :: place ∉ node.places := by
  have at_index : node.children[index level page]? = none := missing
  rw [cons_mem_places, at_index]
  simp

theorem cons_mem_places_setChild {child : Subtree level} {key : Nat} {place : List Nat} :
    key :: place ∈ (node.setChild page child).places ↔
      if key = index level page then place ∈ child.places else key :: place ∈ node.places := by
  have read : (node.setChild page child).children[key]? =
      if key = index level page then some child else node.children[key]? := by
    show (node.children.insert (index level page) child)[key]? = _
    simp only [Std.ExtTreeMap.getElem?_insert, Std.compare_eq_iff_eq, eq_comm (a := index level page)]
  rw [cons_mem_places, read]
  split
  · simp
  · exact cons_mem_places.symm

theorem write_eq_setChild (entry : Entry) :
    (node.write page entry).1 = node.setChild page ((node.childOn page).write page entry).1 := by
  cases found : node.child? page <;> simp only [write, childOn, found, Option.getD_none, Option.getD_some]

end Places

/-- A new node stands alone, and there is none where an entry is. -/
theorem mem_stops_of_mem_empty {level : Nat} (page : Nat) {place : List Nat} (inside : place ∈ (empty level).places) :
    place ∈ stops level page := by
  cases level with
  | zero => contradiction
  | succ level =>
    cases place with
    | nil => exact List.mem_cons_self
    | cons key place =>
      obtain ⟨child, found, -⟩ := cons_mem_places.mp inside
      simp [empty, children] at found

theorem nodup_places {level : Nat} (node : Subtree level) : node.places.Nodup := by
  induction level with
  | zero => exact List.nodup_nil
  | succ level ih =>
    have ordered := Std.ExtTreeMap.ordered_keys_toList (t := node.children)
    rw [places, List.nodup_cons, List.nodup_flatMap]
    refine ⟨by simp, fun slot _ => (ih slot.2).map List.cons_injective, ordered.imp fun before => ?_⟩
    intro place one other
    obtain ⟨_, -, rfl⟩ := List.mem_map.mp one
    obtain ⟨_, -, same⟩ := List.mem_map.mp other
    exact (Nat.compare_eq_lt.mp before).ne' (List.cons.inj same).1

/-- A write leaves nodes on the way to its page, and all that were there. -/
theorem mem_places_write {level : Nat} (node : Subtree level) (page : Nat) (entry : Entry) {place : List Nat} :
    place ∈ (node.write page entry).1.places ↔ place ∈ node.places ∨ place ∈ stops level page := by
  induction level generalizing place with
  | zero => simp [places, stops]
  | succ level ih =>
    rw [write_eq_setChild]
    cases place with
    | nil => simp [nil_mem_places]
    | cons key place =>
      rw [cons_mem_places_setChild, cons_mem_stops]
      by_cases top : key = index level page
      · rw [if_pos top, ih, top, childOn]
        cases found : node.child? page with
        | some child => rw [Option.getD_some, cons_mem_places_of_child? found, eq_self, true_and]
        | none =>
          have new := cons_notMem_places_of_child? found place
          simp only [Option.getD_none, new, false_or, true_and, or_iff_right_iff_imp]
          exact mem_stops_of_mem_empty page
      · rw [if_neg top, or_iff_left fun both => top both.1]

theorem mem_places_clear {level : Nat} (node : Subtree level) (page : Nat) {place : List Nat} :
    place ∈ (node.clear page).places ↔ place ∈ node.places := by
  induction level generalizing place with
  | zero => exact Iff.rfl
  | succ level ih =>
    cases found : node.child? page with
    | none => simp only [clear, found]
    | some child =>
      simp only [clear, found]
      cases place with
      | nil => simp only [nil_mem_places]
      | cons key place =>
        rw [cons_mem_places_setChild]
        split
        · next top => rw [ih, top, cons_mem_places_of_child? found]
        · exact Iff.rfl

/-- How many nodes are missing on the way to a page. -/
def missing {level : Nat} (node : Subtree level) (page : Nat) : Nat := (stops level page).countP (· ∉ node.places)

theorem missing_succ {level : Nat} (node : Subtree (level + 1)) (page : Nat) :
    node.missing page = (stops level page).countP fun place => index level page :: place ∉ node.places := by
  simp only [missing, stops, List.countP_cons, List.countP_map, nil_mem_places, not_true_eq_false, decide_false,
    Bool.false_eq_true, if_false, Nat.add_zero]
  rfl

theorem missing_le {level : Nat} (node : Subtree (level + 1)) (page : Nat) : node.missing page ≤ level := by
  rw [missing_succ]
  exact List.countP_le_length.trans (length_stops level page).le

theorem missing_of_child? {level : Nat} {node : Subtree (level + 1)} {page : Nat} {child : Subtree level}
    (found : node.child? page = some child) : node.missing page = child.missing page := by
  rw [missing_succ]
  simp only [missing, cons_mem_places_of_child? found]

/-- Where the way ends at once, all of its nodes but the first are missing. -/
theorem missing_of_no_child {level : Nat} {node : Subtree (level + 1)} {page : Nat} (gone : node.child? page = none) :
    node.missing page = level := by
  rw [missing_succ, List.countP_eq_length.mpr, length_stops]
  exact fun place _ => decide_eq_true (cons_notMem_places_of_child? gone place)

/-- A write builds the nodes that are missing on the way to its page. -/
theorem built_write {level : Nat} (node : Subtree level) (page : Nat) (entry : Entry) :
    (node.write page entry).2 = node.missing page := by
  induction level with
  | zero => rfl
  | succ level ih =>
    cases found : node.child? page with
    | some child =>
      simp only [write, found, ih, missing_of_child? found]
    | none =>
      simp only [write, found, ih, missing_of_no_child found]
      cases level with
      | zero => rfl
      | succ level => rw [missing_of_no_child (child?_empty level page), if_neg (Nat.succ_ne_zero level)]

theorem length_places_write {level : Nat} (node : Subtree level) (page : Nat) (entry : Entry) :
    (node.write page entry).1.places.length = node.places.length + (node.write page entry).2 := by
  have grown : (node.write page entry).1.places.Perm
      (node.places ++ (stops level page).filter (· ∉ node.places)) := by
    have apart : node.places.Disjoint ((stops level page).filter (· ∉ node.places)) := fun place here new =>
      of_decide_eq_true (List.mem_filter.mp new).2 here
    refine (List.perm_ext_iff_of_nodup (nodup_places _)
      ((nodup_places node).append ((nodup_stops level page).filter _) apart)).mpr fun place => ?_
    rw [mem_places_write, List.mem_append, List.mem_filter, decide_eq_true_iff]
    tauto
  rw [grown.length_eq, List.length_append, built_write, missing, List.countP_eq_length_filter]

end Subtree

/-- The prefixes of one to four indices of the paths of some pages. -/
def prefixes (pages : List Nat) : Finset (List Nat) :=
  pages.toFinset.biUnion fun page => (Finset.Icc 1 4).image fun length => (Subtree.path page).take length

theorem mem_prefixes {pages : List Nat} {place : List Nat} :
    place ∈ prefixes pages ↔ place ≠ [] ∧ ∃ page ∈ pages, place ∈ Subtree.stops radixLevels page := by
  have cut (page length : Nat) : (Subtree.path page).take length ≠ [] ↔ 1 ≤ length := by
    rw [ne_eq, List.take_eq_nil_iff, Nat.one_le_iff_ne_zero, or_iff_left (Subtree.path_ne_nil page)]
  simp only [prefixes, Finset.mem_biUnion, List.mem_toFinset, Finset.mem_image, Finset.mem_Icc, Subtree.stops_eq,
    List.mem_map, List.mem_range]
  constructor
  · rintro ⟨page, member, length, ⟨positive, le⟩, rfl⟩
    exact ⟨(cut page length).mpr positive, page, member, length, Nat.lt_succ_of_le le, rfl⟩
  · rintro ⟨proper, page, member, length, below, rfl⟩
    exact ⟨page, member, length, ⟨(cut page length).mp proper, Nat.le_of_lt_succ below⟩, rfl⟩

/-- What can be asked of a table. -/
inductive TableRequest where
  | edit (change : TableEdit)
  | lookup (page : Nat)
  | mapped
deriving DecidableEq, Repr, Inhabited

section Requests

variable {T : Type} [PageTable T]

namespace TableRequest

/-- The table after a request; looking at it leaves it as it is. -/
def after (table : T) : TableRequest → T
  | edit change => change.after table
  | lookup _ | mapped => table

/-- The page at which a request wrote an entry other than zero, if the table took it. -/
def planted? (table : T) : TableRequest → Option Nat
  | edit change =>
    match change.perform table, change.written? (PageTable.lookup table change.page) with
    | .ok _, some entry => if entry.isZero then none else some change.page
    | _, _ => none
  | lookup _ | mapped => none

end TableRequest

/-- Requests that look, that write nothing but zero, or that lie beyond the reach of a radix table. -/
inductive TableRequest.Sparing : TableRequest → Prop where
  | lookup (page : Nat) : Sparing (.lookup page)
  | mapped : Sparing .mapped
  | clear (page : Nat) : Sparing (.edit (.clear page))
  | writeZero (page : Nat) : Sparing (.edit (.write page .zero))
  | beyond {change : TableEdit} (far : radixPages ≤ change.page) : Sparing (.edit change)

def requested (table : T) (requests : List TableRequest) : T := requests.foldl TableRequest.after table

/-- The pages at which requests wrote entries other than zero, in this order. -/
def planted (table : T) : List TableRequest → List Nat
  | [] => []
  | request :: rest => (request.planted? table).toList ++ planted (request.after table) rest

end Requests

namespace RadixTable

/-- The places of the nodes below the top. -/
def places (table : RadixTable) : List (List Nat) := table.top.places.tail

variable {table next : RadixTable} {page : Nat} {entry : Entry} {place : List Nat}

theorem length_places (table : RadixTable) : table.top.places.length = table.places.length + 1 := rfl

theorem mem_places_iff : place ∈ table.places ↔ place ≠ [] ∧ place ∈ table.top.places := by
  have top : table.top.places = [] :: table.places := rfl
  have apart := (List.nodup_cons.mp (top ▸ table.top.nodup_places)).1
  rw [top, List.mem_cons]
  constructor
  · exact fun inside => ⟨fun same => apart (same ▸ inside), .inr inside⟩
  · exact fun inside => inside.2.resolve_left inside.1

theorem nodup_places (table : RadixTable) : table.places.Nodup := table.top.nodup_places.tail

/-- No node was built or taken away. -/
structure KeepsNodes (table next : RadixTable) : Prop where
  counted : next.built = table.built
  placed : next.places.Perm table.places

/-- Each place on the way to a page has a node, and the counter went up by as many as had none. -/
structure Plants (table : RadixTable) (page : Nat) (next : RadixTable) : Prop where
  counted : next.built = table.built + table.top.missing page
  length : next.places.length = table.places.length + table.top.missing page
  placed : ∀ place, place ∈ next.places ↔ place ∈ table.places ∨ place ∈ prefixes [page]

theorem keepsNodes_refl (table : RadixTable) : table.KeepsNodes table := ⟨rfl, .refl _⟩

theorem built_of_write (done : table.write page entry = .ok next) :
    next.built = table.built + if entry.isZero then 0 else table.top.missing page := by
  obtain ⟨fits, -⟩ := write_eq_ok done
  rw [write, if_neg (Nat.not_le.mpr fits)] at done
  split at done
  · next blank =>
    obtain rfl := Except.ok.inj done
    rw [if_pos blank, Nat.add_zero]
  · next written =>
    rw [if_neg written, ← table.top.built_write page entry]
    exact (congrArg built (Except.ok.inj done)).symm

theorem keepsNodes_of_write (done : table.write page entry = .ok next) (blank : entry.isZero) :
    table.KeepsNodes next := by
  obtain ⟨-, top⟩ := write_eq_ok done
  rw [if_pos blank] at top
  constructor
  · rw [built_of_write done, if_pos blank, Nat.add_zero]
  · refine (List.perm_ext_iff_of_nodup (nodup_places _) (nodup_places _)).mpr fun place => ?_
    rw [mem_places_iff, mem_places_iff, top, Subtree.mem_places_clear]

theorem plants_of_write (done : table.write page entry = .ok next) (written : ¬ entry.isZero) :
    table.Plants page next := by
  obtain ⟨-, top⟩ := write_eq_ok done
  rw [if_neg written] at top
  constructor
  case counted => rw [built_of_write done, if_neg written]
  case length =>
    have grown := table.top.length_places_write page entry
    rw [Subtree.built_write, ← top, length_places, length_places] at grown
    omega
  case placed =>
    intro place
    rw [mem_places_iff, mem_places_iff, top, Subtree.mem_places_write, mem_prefixes]
    simp only [List.mem_singleton, exists_eq_left]
    tauto

/-- A request builds nodes exactly if it plants a page. -/
theorem after_cases (table : RadixTable) (request : TableRequest) :
    (request.planted? table = none ∧ table.KeepsNodes (request.after table)) ∨
      ∃ page, request.planted? table = some page ∧ table.Plants page (request.after table) := by
  cases request with
  | lookup | mapped => exact .inl ⟨rfl, keepsNodes_refl table⟩
  | edit edit =>
    simp only [TableRequest.planted?, TableRequest.after, TableEdit.after]
    cases outcome : edit.perform table with
    | error reason => exact .inl ⟨rfl, keepsNodes_refl table⟩
    | ok next =>
      rw [TableEdit.perform_eq] at outcome
      cases writes : edit.written? (PageTable.lookup table edit.page) with
      | none =>
        rw [writes] at outcome
        obtain rfl := Except.ok.inj outcome
        exact .inl ⟨rfl, keepsNodes_refl table⟩
      | some entry =>
        rw [writes] at outcome
        by_cases blank : entry.isZero
        · exact .inl ⟨if_pos blank, keepsNodes_of_write outcome blank⟩
        · exact .inr ⟨edit.page, if_neg blank, plants_of_write outcome blank⟩

/-- The counter tells the nodes below the top, and these stand on the ways to some pages. -/
structure Grown (table : RadixTable) (pages : List Nat) : Prop where
  counted : table.built = table.places.length
  placed : ∀ place, place ∈ table.places ↔ place ∈ prefixes pages

theorem grown_empty : Grown ∅ [] := ⟨rfl, fun _ => by rw [mem_prefixes]; simp [show places ∅ = [] from rfl]⟩

theorem Grown.after {pages : List Nat} (grown : table.Grown pages) (request : TableRequest) :
    (request.after table).Grown (pages ++ (request.planted? table).toList) := by
  obtain ⟨none, keeps⟩ | ⟨page, some, plants⟩ := table.after_cases request
  · rw [none, Option.toList_none, List.append_nil]
    constructor
    · rw [keeps.counted, grown.counted, keeps.placed.length_eq]
    · exact fun place => keeps.placed.mem_iff.trans (grown.placed place)
  · rw [some, Option.toList_some]
    constructor
    · rw [plants.counted, grown.counted, plants.length]
    · intro place
      rw [plants.placed, grown.placed]
      simp only [mem_prefixes, List.mem_append, List.mem_singleton, or_and_right, exists_or, exists_eq_left, ← and_or_left]

/-- Along any requests the counter tells the nodes. -/
theorem Grown.requested {pages : List Nat} (grown : table.Grown pages) (requests : List TableRequest) :
    (requested table requests).Grown (pages ++ planted table requests) := by
  induction requests generalizing table pages with
  | nil =>
    rw [planted, List.append_nil]
    exact grown
  | cons request rest ih =>
    rw [planted, ← List.append_assoc]
    exact ih (grown.after request)

theorem planted?_of_sparing (table : RadixTable) {request : TableRequest} (sparing : request.Sparing) :
    request.planted? table = none := by
  cases sparing with
  | lookup | mapped => rfl
  | clear | writeZero =>
    simp only [TableRequest.planted?, TableEdit.written?]
    split
    · next written =>
      obtain rfl := Option.some.inj written
      rfl
    · rfl
  | @beyond change far =>
    simp only [TableRequest.planted?]
    split
    · next done written =>
      rw [TableEdit.perform_eq, written] at done
      exact absurd (LawfulTable.lt_capacity_of_write done) (Nat.not_lt.mpr far)
    · rfl

theorem keepsNodes_of_sparing (table : RadixTable) {request : TableRequest} (sparing : request.Sparing) :
    table.KeepsNodes (request.after table) := by
  obtain ⟨-, keeps⟩ | ⟨page, some, -⟩ := table.after_cases request
  · exact keeps
  · rw [planted?_of_sparing table sparing] at some
    contradiction

/-- The top stands already, and four nodes are below it on the way to a page. -/
theorem missing_top_le (table : RadixTable) (page : Nat) : table.top.missing page ≤ 4 :=
  @Subtree.missing_le 4 table.top page

theorem built_after (table : RadixTable) (request : TableRequest) :
    table.built ≤ (request.after table).built ∧ (request.after table).built ≤ table.built + 4 := by
  obtain ⟨-, keeps⟩ | ⟨page, -, plants⟩ := table.after_cases request
  · have same := keeps.counted
    omega
  · have more := plants.counted
    have few := table.missing_top_le page
    omega

/-- The counter is the number of nodes below the top, and these stand at the prefixes of the planted pages. -/
theorem nodes_at_prefixes (requests : List TableRequest) :
    let table := requested (∅ : RadixTable) requests
    PageTable.nodes table = table.places.length ∧
    table.places.toFinset = prefixes (planted (∅ : RadixTable) requests) ∧
    PageTable.nodes table = (prefixes (planted (∅ : RadixTable) requests)).card ∧
    (∀ request, TableRequest.Sparing request →
      PageTable.nodes (request.after table) = PageTable.nodes table ∧
        (request.after table).places.Perm table.places) ∧
    ∀ request, PageTable.nodes table ≤ PageTable.nodes (TableRequest.after table request) ∧
      PageTable.nodes (TableRequest.after table request) ≤ PageTable.nodes table + 4 := by
  intro table
  have grown : table.Grown (planted (∅ : RadixTable) requests) := grown_empty.requested requests
  have stands : table.places.toFinset = prefixes (planted (∅ : RadixTable) requests) := by
    ext place
    rw [List.mem_toFinset, grown.placed]
  refine ⟨grown.counted, stands, ?_, ?_, table.built_after⟩
  · rw [← stands, List.toFinset_card_of_nodup table.nodup_places]
    exact grown.counted
  · intro request sparing
    have keeps := table.keepsNodes_of_sparing sparing
    exact ⟨keeps.counted, keeps.placed⟩

/-- Pages 1 and 2 share all their nodes, page 512 has a lowest node of its own. -/
example : (prefixes [1]).card = 4 ∧ (prefixes [1, 2]).card = 4 ∧ (prefixes [1, 2, 512]).card = 5 := by decide

end RadixTable

end DemandPaging
