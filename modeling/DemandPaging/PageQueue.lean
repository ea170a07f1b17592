import Std.Data.ExtTreeSet

/-! # Page queues

A page queue holds the resident pages of a space in the order in which they came in. The oldest page
is the first to leave, and goes back in front if it cannot be evicted; a range eviction takes its
pages out of the middle. The queue is kept as its older pages and its newer ones, the latter newest
first, so that both ends are at hand; `toList` is the whole of it, and the lemmas state every
operation through `toList`.
-/

namespace DemandPaging

structure PageQueue where
  /-- The pages that came in first, oldest first. -/
  older : List Nat := []
  /-- The pages that came in after all older ones, newest first. -/
  newer : List Nat := []
deriving Inhabited

namespace PageQueue

instance : EmptyCollection PageQueue := ⟨{}⟩

/-- The pages in the order in which they came in. -/
def toList (queue : PageQueue) : List Nat := queue.older ++ queue.newer.reverse

def size (queue : PageQueue) : Nat := queue.older.length + queue.newer.length

/-- Adds a page as the newest. -/
def push (queue : PageQueue) (page : Nat) : PageQueue :=
  { queue with newer := page :: queue.newer }

/-- Adds pages that come in one after the other. -/
def pushAll (queue : PageQueue) (pages : List Nat) : PageQueue :=
  { queue with newer := pages.reverse ++ queue.newer }

/-- Takes the oldest page. -/
def takeOldest? (queue : PageQueue) : Option (Nat × PageQueue) :=
  match queue.older with
  | page :: rest => some (page, { queue with older := rest })
  | [] =>
    match queue.newer.reverse with
    | page :: rest => some (page, { older := rest })
    | [] => none

/-- Puts a page back as the oldest. -/
def putBack (queue : PageQueue) (page : Nat) : PageQueue :=
  { queue with older := page :: queue.older }

/-- Takes pages out wherever they stand; the others keep their order. -/
def without (queue : PageQueue) (pages : List Nat) : PageQueue :=
  let gone := Std.ExtTreeSet.ofList pages
  { older := queue.older.filter fun page => !gone.contains page
    newer := queue.newer.filter fun page => !gone.contains page }

theorem toList_empty : (∅ : PageQueue).toList = [] := rfl

theorem length_toList (queue : PageQueue) : queue.toList.length = queue.size := by
  simp [toList, size]

theorem toList_push (queue : PageQueue) (page : Nat) :
    (queue.push page).toList = queue.toList ++ [page] := by
  simp [toList, push]

theorem toList_pushAll (queue : PageQueue) (pages : List Nat) :
    (queue.pushAll pages).toList = queue.toList ++ pages := by
  simp [toList, pushAll]

theorem toList_putBack (queue : PageQueue) (page : Nat) :
    (queue.putBack page).toList = page :: queue.toList := rfl

theorem toList_without (queue : PageQueue) (pages : List Nat) :
    (queue.without pages).toList = queue.toList.filter fun page => page ∉ pages := by
  simp [toList, without, Std.ExtTreeSet.contains_ofList]

theorem takeOldest?_eq_none_iff {queue : PageQueue} :
    queue.takeOldest? = none ↔ queue.toList = [] := by
  unfold takeOldest? toList
  cases queue.older with
  | cons page rest => simp
  | nil => cases queue.newer.reverse <;> simp

theorem takeOldest?_eq_some {queue rest : PageQueue} {page : Nat}
    (taken : queue.takeOldest? = some (page, rest)) : queue.toList = page :: rest.toList := by
  unfold takeOldest? at taken
  split at taken
  · next stack =>
    obtain ⟨rfl, rfl⟩ := Prod.mk.inj (Option.some.inj taken)
    simp [toList, stack]
  · next stack =>
    split at taken
    · next turned =>
      obtain ⟨rfl, rfl⟩ := Prod.mk.inj (Option.some.inj taken)
      simp [toList, stack, turned]
    · contradiction

end PageQueue

end DemandPaging
