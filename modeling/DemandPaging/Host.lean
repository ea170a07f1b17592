import DemandPaging.Call

/-! # Hosts

A host is one machine with all the spaces that share it, each under its number; the number of a
space that was dropped is not used again. Running an operation on a space brings that space and the
machine on stage and leaves every other space as it is. Dropping a space tears it down first.
-/

namespace DemandPaging

structure Host (T : Type) where
  machine : Machine
  spaces : List (Option (Space T)) := []

namespace Host

variable {T : Type}

/-- The space of a number, unless it was dropped or never added. -/
def space? (host : Host T) (number : Nat) : Option (Space T) :=
  host.spaces[number]?.join

/-- Adds a space under the next number. -/
def add (host : Host T) (space : Space T) : Host T :=
  { host with spaces := host.spaces ++ [some space] }

/-- The outcome of an operation on a stage, with the stage it leaves behind. -/
def onStage {α : Type} (operation : Paging T α) (stage : Stage T) : Except MemoryError α × Stage T :=
  match operation stage with
  | .ok answer stage => (.ok answer, stage)
  | .error reason stage => (.error reason, stage)

/-- Runs an operation on a space, if it is there. -/
def run {α : Type} (host : Host T) (number : Nat) (operation : Paging T α) :
    Option (Except MemoryError α) × Host T :=
  match host.space? number with
  | none => (none, host)
  | some space =>
    let (outcome, stage) := onStage operation { host.machine with space }
    (some outcome,
      { machine := stage.toMachine, spaces := host.spaces.set number (some stage.space) })

/-- Runs an action on the machine. -/
def onMachine {α : Type} (host : Host T) (action : DeviceAction α) :
    Except DeviceError α × Host T :=
  match action host.machine with
  | .ok answer machine => (.ok answer, { host with machine })
  | .error reason machine => (.error reason, { host with machine })

/-- Tears a space down and forgets it; tells whether it was there. -/
def drop [PageTable T] (host : Host T) (number : Nat) : Bool × Host T :=
  match host.run number Space.teardown with
  | (none, host) => (false, host)
  | (some _, host) => (true, { host with spaces := host.spaces.set number none })

/-- Drops every space in the order of their numbers. -/
def dropAll [PageTable T] (host : Host T) : Host T :=
  (List.range host.spaces.length).foldl (fun host number => (host.drop number).2) host

theorem space?_add_of_lt {host : Host T} {number : Nat} (old : number < host.spaces.length)
    (space : Space T) : (host.add space).space? number = host.space? number := by
  simp [add, space?, List.getElem?_append_left old]

theorem run_other {α : Type} (host : Host T) (operation : Paging T α) {number other : Nat}
    (distinct : number ≠ other) : ((host.run number operation).2).space? other = host.space? other := by
  unfold run
  split
  · rfl
  · simp [space?, List.getElem?_set_ne distinct]

end Host

end DemandPaging
