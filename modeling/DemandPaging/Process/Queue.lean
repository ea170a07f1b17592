/-! # Process queues

A process is a process id with a priority, lower meaning more urgent, and the memory it owns. A queue
keeps processes in the order in which they came. Besides its head, the most urgent process can be
taken, the earliest of equals, or the first with a given id; the others keep their order. Ids need
not be unique, and every search by id finds the first.
-/

namespace DemandPaging

structure Process (σ : Type) where
  pid : Nat
  priority : Nat
  memory : σ
deriving DecidableEq, Repr, Inhabited

abbrev ProcessQueue (σ : Type) := List (Process σ)

namespace ProcessQueue

variable {σ : Type}

def enqueue (queue : ProcessQueue σ) (process : Process σ) : ProcessQueue σ := queue ++ [process]

def dequeue? : ProcessQueue σ → Option (Process σ × ProcessQueue σ)
  | [] => none
  | process :: rest => some (process, rest)

/-- Takes the most urgent process, and of equals the earliest. -/
def dequeueMostUrgent? : ProcessQueue σ → Option (Process σ × ProcessQueue σ)
  | [] => none
  | process :: rest =>
    match dequeueMostUrgent? rest with
    | none => some (process, rest)
    | some (urgent, others) =>
      if process.priority ≤ urgent.priority then some (process, rest)
      else some (urgent, process :: others)

/-- Takes the first process with an id. -/
def purge? (pid : Nat) : ProcessQueue σ → Option (Process σ × ProcessQueue σ)
  | [] => none
  | process :: rest =>
    if process.pid = pid then some (process, rest)
    else (purge? pid rest).map fun (found, rest) => (found, process :: rest)

def find? (pid : Nat) (queue : ProcessQueue σ) : Option (Process σ) :=
  List.find? (fun process => process.pid == pid) queue

/-- Replaces the memory of the first process with an id. -/
def replace? (pid : Nat) (memory : σ) : ProcessQueue σ → Option (ProcessQueue σ)
  | [] => none
  | process :: rest =>
    if process.pid = pid then some ({ process with memory } :: rest)
    else (replace? pid memory rest).map (process :: ·)

theorem dequeueMostUrgent?_eq_none_iff {queue : ProcessQueue σ} :
    queue.dequeueMostUrgent? = none ↔ queue = [] := by
  cases queue with
  | nil => simp [dequeueMostUrgent?]
  | cons process rest =>
    simp only [dequeueMostUrgent?, reduceCtorEq, iff_false]
    split
    · simp
    · split <;> simp

theorem purge?_eq_some {pid : Nat} {queue rest : ProcessQueue σ} {found : Process σ}
    (taken : purge? pid queue = some (found, rest)) : found.pid = pid ∧ queue.Perm (found :: rest) := by
  induction queue generalizing rest with
  | nil => simp [purge?] at taken
  | cons process others ih =>
    unfold purge? at taken
    split at taken
    · next same =>
      simp only [Option.some.injEq, Prod.mk.injEq] at taken
      obtain ⟨rfl, rfl⟩ := taken
      exact ⟨same, .refl _⟩
    · obtain ⟨⟨inner, tail⟩, inside, same⟩ := Option.map_eq_some_iff.mp taken
      simp only [Prod.mk.injEq] at same
      obtain ⟨rfl, rfl⟩ := same
      exact ⟨(ih inside).1, ((ih inside).2.cons process).trans (.swap _ _ _)⟩

theorem purge?_fst (pid : Nat) (queue : ProcessQueue σ) :
    (purge? pid queue).map (·.1) = queue.find? pid := by
  induction queue with
  | nil => rfl
  | cons process rest ih =>
    by_cases same : process.pid = pid
    · simp [purge?, find?, same]
    · have other : (process.pid == pid) = false := by simp [same]
      simp only [purge?, same, ↓reduceIte, find?, List.find?_cons, other, Option.map_map] at ih ⊢
      exact ih

end ProcessQueue

end DemandPaging
