import DemandPaging.Proofs.Starts
import DemandPaging.Proofs.Turnover

/-! # Disciplined runs

A run is disciplined when it resolves only pages that lie in an area of their space; accesses and growth do
so by themselves. A page in no area can be resolved too, and growth then maps over it, which loses its home
and lists it twice. In a disciplined run that cannot happen: every space stays tidy, and no home is lost.
-/

namespace DemandPaging

instance (area : Area) (geometry : Geometry) (page : Nat) : Decidable (area.Covers geometry page) :=
  inferInstanceAs (Decidable (_ ∧ _))

instance {T : Type} (space : Space T) (geometry : Geometry) (page : Nat) : Decidable (space.Covers geometry page) :=
  inferInstanceAs (Decidable (∃ area ∈ space.areas, _))

instance {T : Type} (call : Call) (space : Space T) (geometry : Geometry) : Decidable (call.InArea space geometry) :=
  inferInstanceAs (Decidable (∀ page ∈ call.resolves?, _))

section Stages

variable {T : Type} [PageTable T]

/-- A space whose queue is empty and whose pages have no homes. -/
theorem Stage.Tidy.of_blank {stage : Stage T} (resident : stage.space.resident.toList = [])
    (blank : ∀ page, stage.memory.homeOf page = none) : stage.Tidy where
  nodup := by
    rw [resident]
    exact List.nodup_nil
  listed page := by
    rw [resident, Memory.Resident, blank]
    simp
  covered page homed := (homed (blank page)).elim

/-- The machine behind a space matters only for its geometry. -/
theorem Stage.Tidy.of_machine {stage : Stage T} (tidy : stage.Tidy) {machine : Machine}
    (geometry : machine.devices.geometry = stage.devices.geometry) :
    Stage.Tidy { machine with space := stage.space } where
  nodup := tidy.nodup
  listed := tidy.listed
  covered page homed := by
    show stage.space.Covers machine.devices.geometry page
    rw [geometry]
    exact tidy.covered page homed

/-- Pages in no area have no homes. -/
theorem Stage.Tidy.homesOf_eq_empty {stage : Stage T} (tidy : stage.Tidy) {pages : List Nat}
    (fresh : ∀ page ∈ pages, ¬ stage.space.Covers stage.devices.geometry page) :
    Space.homesOf stage.memory pages = ∅ := by
  refine Set.eq_empty_iff_forall_notMem.mpr fun home => ?_
  rintro ⟨page, member, named⟩
  refine fresh page member (tidy.covered page ?_)
  rw [named]
  exact Option.some_ne_none home

end Stages

namespace Host

/-- A page that an operation resolves by its number lies in an area of its space. -/
def InArea (host : Host StandardTable) : Operation → Prop
  | .call number call => ∀ space ∈ host.space? number, call.InArea space host.machine.devices.geometry
  | _ => True

instance (host : Host StandardTable) : (operation : Operation) → Decidable (host.InArea operation)
  | .call number call => inferInstanceAs (Decidable (∀ space ∈ host.space? number, call.InArea space _))
  | .add _ _ | .drop _ | .activate _ => .isTrue trivial

def Disciplined (host : Host StandardTable) : List Operation → Prop
  | [] => True
  | operation :: rest => host.InArea operation ∧ (host.step operation).Disciplined rest

instance decidableDisciplined (host : Host StandardTable) : (run : List Operation) → Decidable (host.Disciplined run)
  | [] => .isTrue trivial
  | operation :: rest =>
    have := decidableDisciplined (host.step operation) rest
    inferInstanceAs (Decidable (_ ∧ _))

theorem disciplined_concat {host : Host StandardTable} {run : List Operation} {operation : Operation} :
    host.Disciplined (run ++ [operation]) ↔ host.Disciplined run ∧ (host.after run).InArea operation := by
  induction run generalizing host with
  | nil => simp [Disciplined]
  | cons first rest ih => simp only [List.cons_append, Disciplined, ih, and_assoc, after, List.foldl_cons]

/-- What a start has and every step in a disciplined run keeps, the end of the run has. -/
theorem disciplined_induction {motive : List Operation → Host StandardTable → Prop} {host : Host StandardTable}
    (start : motive [] host)
    (step : ∀ run operation, motive run (host.after run) → (host.after run).InArea operation →
      motive (run ++ [operation]) (host.after (run ++ [operation])))
    {run : List Operation} (disciplined : host.Disciplined run) : motive run (host.after run) := by
  induction run using List.reverseRecOn with
  | nil => exact start
  | append_singleton run operation ih =>
    obtain ⟨before, inside⟩ := disciplined_concat.mp disciplined
    exact step run operation (ih before) inside

/-- A host in custody whose spaces are tidy. -/
structure Tidy (host : Host StandardTable) : Prop where
  custody : host.Custody
  spaces : ∀ number space, host.space? number = some space → (host.stage space).Tidy

namespace Tidy

variable {host : Host StandardTable} {number : Nat} {space : Space StandardTable} (tidy : host.Tidy)
include tidy

/-- What a call that was performed did to the queue of its space. -/
theorem turned {call : Call} {outcome : Except MemoryError Answer} {after : Stage StandardTable}
    (found : host.space? number = some space) (inside : host.InArea (.call number call))
    (ran : onStage call.perform (host.stage space) = (outcome, after)) :
    (∃ gone, Turned (host.stage space) gone
        (if outcome.isOk then call.pagesIn space after.space host.machine.devices.geometry else []) after ∧
      (call.evicts = false → gone.length ≤ 1 ∧ gone <+: space.resident.toList)) ∧
    ∀ reason, outcome = .error reason → reason.isStale = false := by
  have ends := call.ends_turned (tidy.custody.stage found) (tidy.custody.laid number space found)
    (tidy.spaces number space found) (inside space found)
  rcases onStage_of_ends ends with ⟨answer, _, same, turned⟩ | ⟨reason, _, same, turned, notStale⟩
  · obtain ⟨rfl, rfl⟩ := Prod.mk.inj (same.symm.trans ran)
    exact ⟨turned, fun _ never => nomatch never⟩
  · obtain ⟨rfl, rfl⟩ := Prod.mk.inj (same.symm.trans ran)
    refine ⟨⟨[], turned, fun _ => ⟨Nat.zero_le _, List.nil_prefix⟩⟩, ?_⟩
    rintro _ ⟨⟩
    exact notStale

/-- A call on a tidy host loses no home. -/
theorem custody_called {call : Call} {outcome : Except MemoryError Answer} {after : Stage StandardTable}
    (found : host.space? number = some space)
    (ran : onStage call.perform (host.stage space) = (outcome, after)) :
    after.memory.Custody (host.elsewhere number) ∧ after.devices.layout = host.machine.devices.layout := by
  obtain ⟨mapped, effect⟩ := tidy.custody.effect found ran
  have custody := effect.custody
  rw [(tidy.spaces number space found).homesOf_eq_empty effect.fresh, Set.empty_union] at custody
  exact ⟨custody, effect.layout⟩

theorem step {operation : Operation} (inside : host.InArea operation) : (host.step operation).Tidy where
  custody := tidy.custody.step operation
  spaces number space present := by
    have geometry := tidy.custody.geometry_step operation
    cases tidy.custody.origin present with
    | kept found uncalled => exact (tidy.spaces number space found).of_machine geometry
    | called found ran =>
      obtain ⟨⟨gone, turned, -⟩, -⟩ := tidy.turned found inside ran
      have layout := (tidy.custody_called found ran).2
      exact turned.tidy.of_machine (geometry.trans (congrArg DeviceSet.Layout.geometry layout).symm)
    | @added populate kind new =>
      exact .of_blank rfl (home?_lookup_empty kind)

end Tidy

theorem tidy_start {config : MemoryConfig} {machine : Machine} (built : config.build = .ok machine)
    (word : config.ramSize < Word.limit) : (start machine).Tidy where
  custody := custody_start built word
  spaces number space found := by
    rw [space?_start] at found
    contradiction

end Host

end DemandPaging
