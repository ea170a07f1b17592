import DemandPaging.Proofs.Reserving
import Mathlib.Order.Interval.Finset.Nat

/-! # Tilings

Regions tile a range of addresses when none of them is empty, no two of them meet, and they cover the
range exactly. The order of the regions does not matter. A tile can be cut in two, and a tiling grows by a
tile at its upper end; allocation does one or the other to the live and the free regions of an area, and a
release only hands a tile from the former to the latter. As no address is counted twice, the sizes of the
tiles add up to the size of the range.
-/

namespace DemandPaging

namespace Region

def Holds (region : Region) (address : Nat) : Prop := region.start ≤ address ∧ address < region.stop

/-- No address lies in both regions. -/
def Apart (one other : Region) : Prop := ∀ address, one.Holds address → ¬ other.Holds address

structure Tiles (pieces : List Region) (low high : Nat) : Prop where
  solid : ∀ piece ∈ pieces, piece.start < piece.stop
  apart : pieces.Pairwise Apart
  covers : ∀ address, (∃ piece ∈ pieces, piece.Holds address) ↔ low ≤ address ∧ address < high

theorem Apart.symm {one other : Region} (apart : one.Apart other) : other.Apart one :=
  fun address inside => mt (apart address) (not_not_intro inside)

theorem Apart.mono {one other part : Region} (apart : one.Apart other)
    (inside : ∀ address, part.Holds address → one.Holds address) : part.Apart other :=
  fun address held => apart address (inside address held)

theorem tiles_nil (low : Nat) : Tiles [] low low where
  solid := List.forall_mem_nil _
  apart := .nil
  covers address := by
    simp only [List.not_mem_nil, false_and, exists_false, false_iff]
    omega

namespace Tiles

variable {pieces others : List Region} {low high : Nat}

theorem perm (tiles : Tiles pieces low high) (same : pieces.Perm others) : Tiles others low high where
  solid piece member := tiles.solid piece (same.mem_iff.mpr member)
  apart := (same.pairwise_iff Apart.symm).mp tiles.apart
  covers address := by
    rw [← tiles.covers]
    simp only [same.mem_iff]

theorem within (tiles : Tiles pieces low high) {piece : Region} (member : piece ∈ pieces) :
    piece.Within low high := by
  have solid := tiles.solid piece member
  have first := (tiles.covers piece.start).mp ⟨piece, member, le_rfl, solid⟩
  have last := (tiles.covers (piece.stop - 1)).mp ⟨piece, member, by omega, by omega⟩
  refine ⟨first.1, solid.le, ?_⟩
  omega

/-- A tile is cut in two. -/
theorem divide {start stop : Nat} (tiles : Tiles (⟨start, stop⟩ :: pieces) low high) (middle : Nat)
    (above : start < middle) (below : middle < stop) :
    Tiles (⟨start, middle⟩ :: ⟨middle, stop⟩ :: pieces) low high := by
  have apart := List.pairwise_cons.mp tiles.apart
  have front (address) (held : (⟨start, middle⟩ : Region).Holds address) :
      (⟨start, stop⟩ : Region).Holds address := ⟨held.1, held.2.trans below⟩
  have back (address) (held : (⟨middle, stop⟩ : Region).Holds address) :
      (⟨start, stop⟩ : Region).Holds address := ⟨above.le.trans held.1, held.2⟩
  refine ⟨?_, ?_, fun address => ?_⟩
  · simp only [List.forall_mem_cons] at *
    exact ⟨above, below, (List.forall_mem_cons.mp tiles.solid).2⟩
  · refine .cons (List.forall_mem_cons.mpr ⟨?_, fun other member => ?_⟩)
      (.cons (fun other member => ?_) apart.2)
    · exact fun address held => fun meets => absurd held.2 (Nat.not_lt.mpr meets.1)
    · exact (apart.1 other member).mono front
    · exact (apart.1 other member).mono back
  · rw [← tiles.covers]
    simp only [List.mem_cons, exists_eq_or_imp]
    rw [← or_assoc]
    refine or_congr_left ⟨?_, fun held => ?_⟩
    · rintro (held | held)
      · exact front address held
      · exact back address held
    · rcases Nat.lt_or_ge address middle with left | right
      · exact .inl ⟨held.1, left⟩
      · exact .inr ⟨right, held.2⟩

/-- A tile is added at the upper end of the range. -/
theorem extend {higher : Nat} (tiles : Tiles pieces low high) (le : low ≤ high) (above : high < higher) :
    Tiles (⟨high, higher⟩ :: pieces) low higher := by
  refine ⟨List.forall_mem_cons.mpr ⟨above, tiles.solid⟩, .cons (fun piece member => ?_) tiles.apart,
    fun address => ?_⟩
  · have le_high := (tiles.within member).le_high
    exact fun address new old => absurd (old.2.trans_le le_high) (Nat.not_lt.mpr new.1)
  · simp only [List.mem_cons, exists_eq_or_imp]
    rw [tiles.covers]
    simp only [Holds]
    omega

end Tiles

/-- Regions that share no address have as many bytes as there are addresses in them. -/
theorem totalSize_eq_card {pieces : List Region} (solid : ∀ piece ∈ pieces, piece.start < piece.stop)
    (apart : pieces.Pairwise Apart) (addresses : Finset Nat)
    (same : ∀ address, address ∈ addresses ↔ ∃ piece ∈ pieces, piece.Holds address) :
    totalSize pieces = addresses.card := by
  induction pieces generalizing addresses with
  | nil =>
    have none : addresses = ∅ := Finset.eq_empty_of_forall_notMem fun address member => by
      simpa using (same address).mp member
    rw [none]
    rfl
  | cons piece rest ih =>
    obtain ⟨away, apart⟩ := List.pairwise_cons.mp apart
    obtain ⟨-, solid⟩ := List.forall_mem_cons.mp solid
    have part : Finset.Ico piece.start piece.stop ⊆ addresses := fun address member =>
      (same address).mpr ⟨piece, List.mem_cons_self, Finset.mem_Ico.mp member⟩
    have others : totalSize rest = (addresses \ Finset.Ico piece.start piece.stop).card := by
      refine ih solid apart _ fun address => ?_
      rw [Finset.mem_sdiff, same, Finset.mem_Ico]
      simp only [List.mem_cons, exists_eq_or_imp]
      constructor
      · rintro ⟨held | held, outside⟩
        · exact absurd held outside
        · exact held
      · rintro ⟨other, member, held⟩
        exact ⟨.inr ⟨other, member, held⟩, fun first => away other member address first held⟩
    have whole := Finset.card_le_card part
    rw [Finset.card_sdiff_of_subset part, Nat.card_Ico] at others
    rw [Nat.card_Ico] at whole
    rw [totalSize, others, size]
    omega

theorem Tiles.totalSize {pieces : List Region} {low high : Nat} (tiles : Tiles pieces low high) :
    Region.totalSize pieces = high - low := by
  rw [totalSize_eq_card tiles.solid tiles.apart (Finset.Ico low high) fun address => ?_, Nat.card_Ico]
  rw [Finset.mem_Ico, tiles.covers]

theorem totalSize_append (pieces others : List Region) :
    totalSize (pieces ++ others) = totalSize pieces + totalSize others := by
  induction pieces with
  | nil => rw [List.nil_append, totalSize, Nat.zero_add]
  | cons piece rest ih => rw [List.cons_append, totalSize, ih, totalSize, Nat.add_assoc]

end Region

namespace FreeList

open Region

/-- A fit comes from one region of the list, of which only the front is taken. -/
theorem takeFirstFit?_eq_some {size : Nat} {free rest : FreeList} {region : Region}
    (taken : takeFirstFit? size free = some (region, rest)) :
    ∃ before whole after, free = before ++ whole :: after ∧ size ≤ whole.size ∧
      region = ⟨whole.start, whole.start + size⟩ ∧
      rest = before ++ if whole.size = size then after else ⟨whole.start + size, whole.stop⟩ :: after := by
  induction free generalizing rest with
  | nil => contradiction
  | cons head tail ih =>
    rw [takeFirstFit?] at taken
    split at taken
    · next fits =>
      refine ⟨[], head, tail, rfl, fits, ?_⟩
      split at taken
      · next exact_fit =>
        obtain ⟨rfl, rfl⟩ := Prod.mk.inj (Option.some.inj taken)
        exact ⟨rfl, by rw [if_pos exact_fit, List.nil_append]⟩
      · next larger =>
        obtain ⟨rfl, rfl⟩ := Prod.mk.inj (Option.some.inj taken)
        exact ⟨rfl, by rw [if_neg larger, List.nil_append]⟩
    · obtain ⟨⟨carved, others⟩, fit, same⟩ := Option.map_eq_some_iff.mp taken
      obtain ⟨rfl, rfl⟩ := Prod.mk.inj same
      obtain ⟨before, whole, after, rfl, fits, rfl, rfl⟩ := ih fit
      exact ⟨head :: before, whole, after, rfl, fits, rfl, rfl⟩

/-- What a fit takes and what it leaves tile what the list tiled. -/
theorem tiles_of_takeFirstFit? {size low high : Nat} {live : List Region} {free rest : FreeList} {region : Region}
    (tiles : Tiles (live ++ free) low high) (positive : 0 < size)
    (taken : takeFirstFit? size free = some (region, rest)) : Tiles (region :: (live ++ rest)) low high := by
  obtain ⟨before, ⟨start, stop⟩, after, rfl, fits, rfl, rfl⟩ := takeFirstFit?_eq_some taken
  have front : Tiles (⟨start, stop⟩ :: (live ++ before ++ after)) low high := by
    refine tiles.perm ?_
    rw [← List.append_assoc]
    exact List.perm_middle
  rw [Region.size] at *
  simp only at *
  split
  · next exact_fit =>
    have same : start + size = stop := by omega
    rw [same, ← List.append_assoc]
    exact front
  · next larger =>
    have cut := front.divide (start + size) (by omega) (by omega)
    refine cut.perm (.cons _ ?_)
    rw [← List.append_assoc]
    exact List.perm_middle.symm

theorem tiles_push {low high : Nat} {live : List Region} {free : FreeList} {region : Region}
    (tiles : Tiles (region :: (live ++ free)) low high) : Tiles (live ++ free.push region) low high := by
  have solid := tiles.solid region List.mem_cons_self
  have positive : ¬ region.size = 0 := by
    rw [Region.size]
    omega
  rw [push, if_neg positive]
  exact tiles.perm List.perm_middle.symm

end FreeList

end DemandPaging
