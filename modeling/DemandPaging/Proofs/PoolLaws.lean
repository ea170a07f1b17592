import DemandPaging.FramePool
import Mathlib.Data.List.Perm.Basic
import Mathlib.Data.Set.Card

/-! # Sound pools

In a sound pool the free frames are listed once each and are exactly the frames of the device that are
not in use. Handing out frames takes a prefix of that list and giving one back puts it in front, so
both keep a pool sound; a pool that is sound accounts for every frame.
-/

namespace DemandPaging.FramePool

variable {frames : Nat} {pool rest next : FramePool frames}

structure Sound (pool : FramePool frames) : Prop where
  free_nodup : pool.free.Nodup
  mem_free_iff : ∀ frame, frame ∈ pool.free ↔ frame < frames ∧ frame ∉ pool.inUse
  inUse_lt : ∀ frame ∈ pool.inUse, frame < frames

/-- The frames `taken` were handed out. -/
structure Hands (pool : FramePool frames) (taken : List Nat) (rest : FramePool frames) : Prop where
  free : pool.free = taken ++ rest.free
  inUse : ∀ frame, frame ∈ rest.inUse ↔ frame ∈ taken ∨ frame ∈ pool.inUse

theorem sound_default : ({} : FramePool frames).Sound where
  free_nodup := by
    rw [free_default]
    exact List.nodup_range
  mem_free_iff frame := by
    rw [free_default, List.mem_range]
    simp
  inUse_lt frame held := by simp at held

theorem hands_of_acquire? {frame : Nat} (taken : pool.acquire? = some (frame, rest)) :
    pool.Hands [frame] rest := by
  obtain ⟨free, held⟩ := acquire?_eq_some taken
  refine ⟨free, fun other => ?_⟩
  rw [held, Std.ExtTreeSet.mem_insert, Std.compare_eq_iff_eq, List.mem_singleton, eq_comm]

theorem hands_of_acquireMany? {count : Nat} {taken : List Nat}
    (drawn : pool.acquireMany? count = some (taken, rest)) :
    pool.Hands taken rest ∧ taken.length = count := by
  have enough : ¬ pool.free.length < count := fun short => by
    rw [acquireMany?_eq_none_iff.mpr short] at drawn
    contradiction
  obtain ⟨prefixed, free, held⟩ := acquireMany?_eq_some drawn
  refine ⟨⟨by rw [prefixed, free, List.take_append_drop], fun frame => ?_⟩, ?_⟩
  · rw [held, Std.ExtTreeSet.mem_insertMany_list, List.contains_iff_mem, or_comm]
  · rw [prefixed, List.length_take]
    omega

namespace Hands

variable {taken : List Nat}

theorem nodup (hands : pool.Hands taken rest) (sound : pool.Sound) : taken.Nodup := by
  have whole := sound.free_nodup
  rw [hands.free] at whole
  exact (List.nodup_append.mp whole).1

theorem fresh (hands : pool.Hands taken rest) (sound : pool.Sound) {frame : Nat}
    (member : frame ∈ taken) : frame < frames ∧ frame ∉ pool.inUse := by
  rw [← sound.mem_free_iff, hands.free]
  exact List.mem_append_left _ member

theorem sound (hands : pool.Hands taken rest) (sound : pool.Sound) : rest.Sound := by
  have whole := sound.free_nodup
  rw [hands.free] at whole
  obtain ⟨-, others, apart⟩ := List.nodup_append.mp whole
  refine ⟨others, fun frame => ?_, fun frame held => ?_⟩
  · rw [hands.inUse, not_or]
    constructor
    · intro member
      have before := (sound.mem_free_iff frame).mp (hands.free ▸ List.mem_append_right _ member)
      exact ⟨before.1, fun again => apart frame again frame member rfl, before.2⟩
    · rintro ⟨fits, untaken, unused⟩
      have before := (sound.mem_free_iff frame).mpr ⟨fits, unused⟩
      rw [hands.free] at before
      exact (List.mem_append.mp before).resolve_left untaken
  · rcases (hands.inUse frame).mp held with member | before
    · exact (hands.fresh sound member).1
    · exact sound.inUse_lt frame before

end Hands

theorem Sound.release_eq_ok (sound : pool.Sound) {frame : Nat} (held : frame ∈ pool.inUse) :
    ∃ next, pool.release frame = .ok next := by
  have fits : ¬ frames ≤ frame := Nat.not_le.mpr (sound.inUse_lt frame held)
  have contained : pool.inUse.contains frame = true := Std.ExtTreeSet.contains_iff_mem.mpr held
  unfold FramePool.release
  rw [if_neg fits, if_pos contained]
  exact ⟨_, rfl⟩

theorem mem_inUse_release {frame other : Nat} (done : pool.release frame = .ok next) :
    other ∈ next.inUse ↔ other ≠ frame ∧ other ∈ pool.inUse := by
  rw [(FramePool.release_eq_ok done).2.1, Std.ExtTreeSet.mem_erase, Ne, Std.compare_eq_iff_eq, eq_comm]

theorem Sound.release (sound : pool.Sound) {frame : Nat} (done : pool.release frame = .ok next) :
    next.Sound := by
  obtain ⟨free, -, fits, held⟩ := FramePool.release_eq_ok done
  have listed : frame ∉ pool.free := fun member => ((sound.mem_free_iff frame).mp member).2 held
  refine ⟨?_, fun other => ?_, fun other present => ?_⟩
  · rw [free]
    exact List.nodup_cons.mpr ⟨listed, sound.free_nodup⟩
  · rw [free, List.mem_cons, sound.mem_free_iff, mem_inUse_release done]
    constructor
    · rintro (rfl | ⟨within, unused⟩)
      · exact ⟨fits, fun kept => kept.1 rfl⟩
      · exact ⟨within, fun kept => unused kept.2⟩
    · rintro ⟨within, unused⟩
      by_cases same : other = frame
      · exact .inl same
      · exact .inr ⟨within, fun present => unused ⟨same, present⟩⟩
  · exact sound.inUse_lt other ((mem_inUse_release done).mp present).2

/-- The free frames and the frames in use, each counted once, are all frames. -/
theorem Sound.freeCount_add (sound : pool.Sound) {held : List Nat} (nodup : held.Nodup)
    (exact : ∀ frame, frame ∈ held ↔ frame ∈ pool.inUse) : pool.freeCount + held.length = frames := by
  have apart : (pool.free ++ held).Nodup := by
    refine List.nodup_append.mpr ⟨sound.free_nodup, nodup, fun frame member other present same => ?_⟩
    exact ((sound.mem_free_iff frame).mp member).2 ((exact frame).mp (same ▸ present))
  have all : (pool.free ++ held).Perm (List.range frames) := by
    refine (List.perm_ext_iff_of_nodup apart List.nodup_range).mpr fun frame => ?_
    rw [List.mem_append, sound.mem_free_iff, exact, List.mem_range]
    constructor
    · rintro (⟨fits, -⟩ | present)
      · exact fits
      · exact sound.inUse_lt frame present
    · intro fits
      by_cases present : frame ∈ pool.inUse
      · exact .inr present
      · exact .inl ⟨fits, present⟩
  have counted := all.length_eq
  rwa [List.length_append, length_free, List.length_range] at counted

theorem Sound.freeCount_add_ncard (sound : pool.Sound) :
    pool.freeCount + {frame | frame ∈ pool.inUse}.ncard = frames := by
  have listed (frame : Nat) : frame ∈ pool.inUse.toList ↔ frame ∈ pool.inUse := Std.ExtTreeSet.mem_toList
  have nodup : pool.inUse.toList.Nodup :=
    Std.ExtTreeSet.distinct_toList.imp fun distinct same => distinct (Std.compare_eq_iff_eq.mpr same)
  have used : {frame | frame ∈ pool.inUse} = ↑pool.inUse.toList.toFinset := by
    ext frame
    rw [Set.mem_ofPred_eq, Finset.mem_coe, List.mem_toFinset, listed]
  rw [used, Set.ncard_coe_finset, List.toFinset_card_of_nodup nodup]
  exact sound.freeCount_add nodup listed

end DemandPaging.FramePool
