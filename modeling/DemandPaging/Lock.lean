import DemandPaging.Text.Record
import DemandPaging.Word

/-! # Locks

A lock guards a value and is either held or not. An attempt to take it succeeds exactly when it is
not held; every attempt that does not keep the lock ends in a release, the refused one included, so a
refused attempt leaves the lock free. A section runs with the lock held and frees it however it ends.
-/

namespace DemandPaging

open Text

structure Lock (α : Type) where
  value : α
  held : Bool := false
deriving DecidableEq, Repr, Inhabited

namespace Lock

variable {α : Type}

def release (lock : Lock α) : Lock α := { lock with held := false }

/-- Takes the lock if it is not held, and frees it otherwise; tells whether it was taken. -/
def tryTake (lock : Lock α) : Bool × Lock α :=
  if lock.held then (false, lock.release) else (true, { lock with held := true })

/-- Changes the value through a hold on the lock. -/
def put (lock : Lock α) (value : α) : Lock α := { lock with value }

/-- Runs a section that may fail. Its changes stay, and the lock is free afterwards. -/
def runSection {ε β : Type} (lock : Lock α) (body : EStateM ε α β) : Except ε β × Lock α :=
  match body lock.value with
  | .ok answer value => (.ok answer, { value })
  | .error reason value => (.error reason, { value })

/-- How a lock is described, for which it has to be taken for a moment. -/
def describe (describeValue : α → String) (lock : Lock α) : String × Lock α :=
  match lock.tryTake with
  | (true, taken) =>
    (record "SpinLock" [("data", describeValue taken.value)], taken.release)
  | (false, refused) => ("SpinLock \x7b <locked> \x7d", refused)

theorem held_runSection {ε β : Type} (lock : Lock α) (body : EStateM ε α β) :
    (lock.runSection body).2.held = false := by
  unfold runSection
  split <;> rfl

theorem value_tryTake (lock : Lock α) : lock.tryTake.2.value = lock.value := by
  unfold tryTake
  split <;> rfl

end Lock

end DemandPaging
