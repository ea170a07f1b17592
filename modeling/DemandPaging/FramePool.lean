import Std.Data.ExtTreeSet

/-! # Frame pools

The frames of a device are numbered from zero and handed out one by one. Free frames form a stack:
the frame released last is handed out next, and the frames that were never handed out lie below all
released ones in ascending order, so a fresh pool hands out zero first. The stack is kept as the
released frames and the first fresh one; `free` is the whole of it, and the lemmas state every
operation through `free`. A pool also knows which frames are in use, so releasing a frame that is
free or does not exist is refused.
-/

namespace DemandPaging

structure FramePool (frames : Nat) where
  /-- Free frames that were in use before, the last released first. -/
  released : List Nat := []
  /-- The first frame that was never handed out. -/
  fresh : Nat := 0
  inUse : Std.ExtTreeSet Nat := ∅
deriving Inhabited

namespace FramePool

variable {frames : Nat}

/-- Why a frame cannot be given back. -/
inductive ReleaseError where
  | invalid
  | alreadyFree
deriving DecidableEq, Repr, Inhabited

/-- The free frames in the order in which they are handed out. -/
def free (pool : FramePool frames) : List Nat :=
  pool.released ++ List.range' pool.fresh (frames - pool.fresh)

def freeCount (pool : FramePool frames) : Nat :=
  pool.released.length + (frames - pool.fresh)

/-- Hands out the first free frame. -/
def acquire? (pool : FramePool frames) : Option (Nat × FramePool frames) :=
  match pool.released with
  | frame :: rest => some (frame, { pool with released := rest, inUse := pool.inUse.insert frame })
  | [] =>
    if pool.fresh < frames then
      some (pool.fresh, { pool with fresh := pool.fresh + 1, inUse := pool.inUse.insert pool.fresh })
    else none

/-- Hands out the first `count` free frames, or none of them. -/
def acquireMany? (pool : FramePool frames) (count : Nat) : Option (List Nat × FramePool frames) :=
  if pool.freeCount < count then none
  else
    let reused := pool.released.take count
    let taken := reused ++ List.range' pool.fresh (count - reused.length)
    some (taken,
      { released := pool.released.drop count
        fresh := pool.fresh + (count - reused.length)
        inUse := pool.inUse.insertMany taken })

/-- Puts a frame that is in use on top of the free ones. -/
def release (pool : FramePool frames) (frame : Nat) : Except ReleaseError (FramePool frames) :=
  if frames ≤ frame then .error .invalid
  else if pool.inUse.contains frame then
    .ok { pool with released := frame :: pool.released, inUse := pool.inUse.erase frame }
  else .error .alreadyFree

private theorem take_range' (start length count : Nat) :
    (List.range' start length).take count = List.range' start (min count length) := by
  induction count generalizing start length with
  | zero => simp
  | succ count ih =>
    cases length with
    | zero => simp
    | succ length => simp [List.range'_succ, ih, Nat.succ_min_succ]

theorem free_default : ({} : FramePool frames).free = List.range frames := by
  simp [free, List.range_eq_range']

theorem length_free (pool : FramePool frames) : pool.free.length = pool.freeCount := by
  simp [free, freeCount]

theorem acquire?_eq_none_iff {pool : FramePool frames} : pool.acquire? = none ↔ pool.free = [] := by
  unfold acquire? free
  cases pool.released with
  | cons frame rest => simp
  | nil =>
    by_cases room : pool.fresh < frames <;> simp [room] <;> omega

theorem acquire?_eq_some {pool rest : FramePool frames} {frame : Nat}
    (taken : pool.acquire? = some (frame, rest)) :
    pool.free = frame :: rest.free ∧ rest.inUse = pool.inUse.insert frame := by
  unfold acquire? at taken
  cases stack : pool.released with
  | cons first others =>
    simp only [stack, Option.some.injEq, Prod.mk.injEq] at taken
    obtain ⟨rfl, rfl⟩ := taken
    simp [free, stack]
  | nil =>
    simp only [stack] at taken
    split at taken
    · next room =>
      simp only [Option.some.injEq, Prod.mk.injEq] at taken
      obtain ⟨rfl, rfl⟩ := taken
      have length : frames - pool.fresh = (frames - (pool.fresh + 1)) + 1 := by omega
      simp [free, stack, length, List.range'_succ]
    · contradiction

theorem acquireMany?_eq_none_iff {pool : FramePool frames} {count : Nat} :
    pool.acquireMany? count = none ↔ pool.free.length < count := by
  unfold acquireMany?
  rw [length_free]
  split <;> simp [*]

theorem acquireMany?_eq_some {pool rest : FramePool frames} {count : Nat} {taken : List Nat}
    (drawn : pool.acquireMany? count = some (taken, rest)) :
    taken = pool.free.take count ∧ rest.free = pool.free.drop count ∧
      rest.inUse = pool.inUse.insertMany taken := by
  unfold acquireMany? at drawn
  split at drawn
  · contradiction
  · next enough =>
    simp only [Option.some.injEq, Prod.mk.injEq] at drawn
    obtain ⟨rfl, rfl⟩ := drawn
    simp only [freeCount] at enough
    refine ⟨?_, ?_, rfl⟩
    · simp only [free, List.take_append, take_range', List.length_take]
      congr 2
      omega
    · simp only [free, List.drop_append, List.drop_range', List.length_take, Nat.mul_one]
      congr 2 <;> omega

theorem release_eq_ok {pool next : FramePool frames} {frame : Nat}
    (done : pool.release frame = .ok next) :
    next.free = frame :: pool.free ∧ next.inUse = pool.inUse.erase frame ∧
      frame < frames ∧ frame ∈ pool.inUse := by
  unfold release at done
  split at done
  · contradiction
  · split at done
    · next held =>
      simp only [Except.ok.injEq] at done
      subst done
      exact ⟨rfl, rfl, by omega, Std.ExtTreeSet.contains_iff_mem.mp held⟩
    · contradiction

end FramePool

end DemandPaging
