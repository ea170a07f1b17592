import DemandPaging.Host
import DemandPaging.Proofs.StandardTables
import Mathlib.Data.List.Induction

/-! # Runs of a host

A run is a list of operations on the spaces of one host in the order in which they happen, whatever space
each is on: calls, new spaces, dropped spaces, and changes of the active swap device. Every run starts on
a machine without spaces. A space is known by its number for good, as no number is given twice.
-/

namespace DemandPaging

/-- One step of a host. -/
inductive Operation where
  | call (number : Nat) (call : Call)
  /-- A new space with an empty table. -/
  | add (populate : Populate) (kind : TableKind)
  | drop (number : Nat)
  /-- Another swap device receives the evictions from now on. -/
  | activate (index : Nat)
deriving DecidableEq, Repr, Inhabited

namespace Host

/-- What a space answers to a call, if the space is there. -/
def answer? (host : Host StandardTable) (number : Nat) (call : Call) : Option (Except MemoryError Answer) :=
  (host.run number call.perform).1

def step (host : Host StandardTable) : Operation → Host StandardTable
  | .call number call => (host.run number call.perform).2
  | .add populate kind => host.add (Space.ofTable populate kind.empty)
  | .drop number => (host.drop number).2
  | .activate index => (host.onMachine (Machine.activate index)).2

/-- The host that a run leaves behind. -/
def after (host : Host StandardTable) (run : List Operation) : Host StandardTable := run.foldl step host

@[simp] theorem after_nil (host : Host StandardTable) : host.after [] = host := rfl

theorem after_concat (host : Host StandardTable) (run : List Operation) (operation : Operation) :
    host.after (run ++ [operation]) = (host.after run).step operation := by
  simp only [after, List.foldl_append, List.foldl_cons, List.foldl_nil]

/-- What a start has and every step keeps, the end of every run has. -/
theorem after_induction {invariant : Host StandardTable → Prop} {host : Host StandardTable}
    (start : invariant host) (step : ∀ host operation, invariant host → invariant (host.step operation))
    (run : List Operation) : invariant (host.after run) := by
  induction run using List.reverseRecOn with
  | nil => exact start
  | append_singleton run operation ih =>
    rw [after_concat]
    exact step _ operation ih

/-- What the steps of a run leave on record, the first one first. -/
def history {α : Type} (record : Host StandardTable → Operation → List α) (host : Host StandardTable) :
    List Operation → List α
  | [] => []
  | operation :: rest => record host operation ++ history record (host.step operation) rest

theorem history_concat {α : Type} (record : Host StandardTable → Operation → List α) (host : Host StandardTable)
    (run : List Operation) (operation : Operation) :
    history record host (run ++ [operation]) = history record host run ++ record (host.after run) operation := by
  induction run generalizing host with
  | nil => simp [history]
  | cons first rest ih => simp only [List.cons_append, history, ih, List.append_assoc, after, List.foldl_cons]

end Host

end DemandPaging
