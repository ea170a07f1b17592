import DemandPaging.Proofs.GuardedTables
import DemandPaging.Proofs.Tracking
import DemandPaging.Space.Access

/-! # What succeeds behind a guard succeeds without it

A guard can only make an operation fail. When an operation over a guarded table succeeds, no write of it was
refused, so over the table behind the guard it goes the same way, with the same answer, and leaves the same
devices, queue and entries. A write that is refused is met by an attempt at times, but whatever is done after
such a failure ends in a failure. So all that is known of total tables is known of the successes here.
-/

namespace DemandPaging

variable {T : Type}

/-- A space without the guard of its table. -/
def Space.unguarded (space : Space (GuardedTable T)) : Space T where
  populate := space.populate
  areas := space.areas
  regions := space.regions
  resident := space.resident
  table := space.table.inner

def Stage.unguarded (stage : Stage (GuardedTable T)) : Stage T :=
  { stage.toMachine with space := stage.space.unguarded }

/-- A stage with a given guard, and the same one without it. -/
structure Stage.Sheds (refuses : Nat → Entry → Bool) (stage : Stage (GuardedTable T)) (bare : Stage T) : Prop where
  bare : bare = stage.unguarded
  guard : stage.space.table.refuses = refuses

namespace Paging

variable {α β : Type} {refuses : Nat → Entry → Bool} {excuse : MemoryError → Prop}

/-- Without the guard an operation goes as with it, unless that fails for an excused reason. -/
abbrev Unguards (refuses : Nat → Entry → Bool) (excuse : MemoryError → Prop) (guarded : Paging (GuardedTable T) α)
    (free : Paging T α) : Prop :=
  Tracks (Stage.Sheds refuses) excuse (fun _ => True) guarded free

theorem unguards_emit (event : Event) : Unguards (T := T) refuses excuse (emit event) (emit event) :=
  .modify fun _ _ sheds => by
    rw [sheds.bare]
    exact ⟨rfl, sheds.guard⟩

theorem unguards_modifySpace {change : Space (GuardedTable T) → Space (GuardedTable T)} {alter : Space T → Space T}
    (commutes : ∀ space, alter space.unguarded = (change space).unguarded)
    (keeps : ∀ space, space.table.refuses = refuses → (change space).table.refuses = refuses) :
    Unguards refuses excuse (modifySpace change) (modifySpace alter) := by
  refine .modify ?_
  rintro stage _ ⟨rfl, guard⟩
  refine ⟨?_, keeps stage.space guard⟩
  show ({ stage.toMachine with space := alter stage.space.unguarded } : Stage T) = _
  rw [commutes]
  rfl

theorem unguards_queue (change : PageQueue → PageQueue) :
    Unguards (T := T) refuses excuse (modifySpace fun space => { space with resident := change space.resident })
      (modifySpace fun space => { space with resident := change space.resident }) :=
  unguards_modifySpace (fun _ => rfl) fun _ guard => guard

theorem unguards_bind_space {next : Space (GuardedTable T) → Paging (GuardedTable T) α} {rest : Space T → Paging T α}
    (follows : ∀ space, space.table.refuses = refuses →
      Unguards refuses excuse (next space) (rest space.unguarded)) :
    Unguards refuses excuse (space >>= next) (space >>= rest) := by
  rintro stage _ ⟨rfl, guard⟩
  exact follows stage.space guard stage _ ⟨rfl, guard⟩

theorem unguards_bind_geometry {next : Geometry → Paging (GuardedTable T) α} {rest : Geometry → Paging T α}
    (follows : ∀ geometry, Unguards refuses excuse (next geometry) (rest geometry)) :
    Unguards refuses excuse (geometry >>= next) (geometry >>= rest) := by
  rintro stage _ ⟨rfl, guard⟩
  exact follows stage.devices.geometry stage _ ⟨rfl, guard⟩

theorem unguards_onMachine (action : DeviceAction α) :
    Unguards (T := T) refuses excuse (onMachine action) (onMachine action) := by
  rintro stage _ ⟨rfl, guard⟩
  rw [ends_onMachine]
  apply (Ends.self action stage.toMachine).mono
  · intro answer machine ran
    refine ⟨trivial, { stage.unguarded with toMachine := machine }, ?_, rfl, guard⟩
    simp only [onMachine, Stage.unguarded, ran]
  · intro reason machine ran
    refine .inr ⟨{ stage.unguarded with toMachine := machine }, ?_, rfl, guard⟩
    simp only [onMachine, Stage.unguarded, ran]

theorem unguards_reporting (action : DeviceAction β) (event : MemoryError → Event) :
    Unguards (T := T) refuses excuse (reporting (onMachine action) event) (reporting (onMachine action) event) := by
  refine (unguards_onMachine action).attempt.bind fun outcome _ => ?_
  cases outcome with
  | ok answer => exact .pure trivial
  | error reason => exact unguards_emit _

/-- What cleans up and then fails does not succeed. -/
theorem ends_doomed (cleanup : Paging T β) (reason : MemoryError) (stage : Stage T) :
    Ends (cleanup >>= fun _ => throw reason : Paging T α) (fun _ _ => False) (fun _ _ => True) stage := by
  rw [ends_bind]
  apply Ends.anyhow.mono
  · exact fun _ _ _ => trivial
  · exact fun _ _ _ => trivial

/-- An attempt whose failure ends in a failure may be met by the guard. -/
theorem unguards_bind_attempt {guarded : Paging (GuardedTable T) β} {free : Paging T β}
    {next : Except MemoryError β → Paging (GuardedTable T) α} {rest : Except MemoryError β → Paging T α}
    (tried : Unguards refuses (fun _ => True) guarded free)
    (answered : ∀ answer, Unguards refuses (fun _ => True) (next (.ok answer)) (rest (.ok answer)))
    (doomed : ∀ reason stage, Ends (next (.error reason)) (fun _ _ => False) (fun _ _ => True) stage) :
    Unguards refuses (fun _ => True) (attempt guarded >>= next) (attempt free >>= rest) := by
  rintro stage _ ⟨rfl, guard⟩
  rw [ends_bind, ends_attempt]
  apply (tried stage _ ⟨rfl, guard⟩).mono
  · rintro answer after ⟨-, _, ran, rfl, kept⟩
    have continued : (attempt free >>= rest) stage.unguarded = rest (.ok answer) after.unguarded := by
      simp only [Bind.bind, EStateM.bind, attempt, ran]
    rw [continued]
    exact answered answer after _ ⟨rfl, kept⟩
  · rintro reason failed -
    apply (doomed reason failed).mono
    · exact fun _ _ never => never.elim
    · exact fun _ _ _ => .inl trivial

variable [PageTable T]

theorem unguards_bind_lookup {page : Nat} {next : Entry → Paging (GuardedTable T) α} {rest : Entry → Paging T α}
    (follows : ∀ entry, Unguards refuses excuse (next entry) (rest entry)) :
    Unguards refuses excuse (lookup page >>= next) (lookup page >>= rest) := by
  rintro stage _ ⟨rfl, guard⟩
  exact follows (PageTable.lookup stage.space.table page) stage _ ⟨rfl, guard⟩

/-- The write may be refused, and otherwise it is made behind the guard. -/
theorem unguards_write (page : Nat) (entry : Entry) :
    Unguards (T := T) refuses (fun _ => True) (write page entry) (write page entry) := by
  refine unguards_bind_space fun space guard => ?_
  cases written : PageTable.write space.table page entry with
  | error refusal => exact .throw_of_excused trivial
  | ok table =>
    obtain ⟨-, inner, done, rfl⟩ := GuardedTable.write_eq_ok_iff.mp written
    rw [show PageTable.write space.unguarded.table page entry = .ok inner from done]
    have entered : Unguards (T := T) refuses (fun _ => True)
        (modifySpace fun now => { now with table := { space.table with inner } })
        (modifySpace fun now => { now with table := inner }) :=
      unguards_modifySpace (fun _ => rfl) fun _ _ => guard
    refine unguards_bind_space fun old _ => entered.bind fun _ _ => ?_
    rw [show PageTable.growth? old.unguarded.table inner page =
      PageTable.growth? old.table { space.table with inner } page from rfl]
    cases PageTable.growth? old.table { space.table with inner } page with
    | none => exact .pure trivial
    | some event => exact unguards_emit event

end Paging

namespace Space

open Paging

theorem unguards_fill (source : Option SwapSlot) (frame : Nat) :
    Unguards (T := T) refuses excuse (fill source frame) (fill source frame) := by
  cases source with
  | none => exact unguards_onMachine _
  | some copy => exact unguards_onMachine _

theorem unguards_enlist (page frame : Nat) (source : Option SwapSlot) :
    Unguards (T := T) refuses excuse (enlist page frame source) (enlist page frame source) := by
  have listed : Unguards (T := T) refuses excuse _ _ := unguards_queue fun resident => resident.push page
  cases source with
  | none => exact (unguards_emit _).bind fun _ _ => listed
  | some copy => exact (unguards_reporting _ _).bind fun _ _ => (unguards_emit _).bind fun _ _ => listed

variable [PageTable T]

theorem unguards_writeOut (page frame device slot : Nat) :
    Unguards (T := T) refuses (fun _ => True) (writeOut page frame device slot) (writeOut page frame device slot) :=
  (unguards_onMachine _).bind fun _ _ => unguards_write page _

theorem unguards_swapOut (page frame : Nat) :
    Unguards (T := T) refuses (fun _ => True) (swapOut page frame) (swapOut page frame) := by
  refine (unguards_onMachine _).bind fun device _ => (unguards_onMachine _).bind fun answer _ => ?_
  cases answer with
  | none => exact .throw_of_excused trivial
  | some slot =>
    apply unguards_bind_attempt (unguards_writeOut page frame device slot)
    · exact fun _ => .pure trivial
    · exact fun reason => ends_doomed _ reason

theorem unguards_evictOldest : Unguards (T := T) refuses (fun _ => True) evictOldest evictOldest := by
  refine unguards_bind_space fun space _ => ?_
  rw [show space.unguarded.resident = space.resident from rfl]
  cases space.resident.takeOldest? with
  | none => exact .throw_of_excused trivial
  | some pair =>
    obtain ⟨victim, rest⟩ := pair
    refine (unguards_queue fun _ => rest).bind fun _ _ => unguards_bind_lookup fun entry => ?_
    cases entry.frame? with
    | none => exact (unguards_emit _).bind fun _ _ => .throw_of_excused trivial
    | some frame =>
      apply unguards_bind_attempt (unguards_swapOut victim frame)
      · exact fun copy => (unguards_emit _).bind fun _ _ => .pure trivial
      · exact fun reason => ends_doomed _ reason

theorem unguards_claimFrame : Unguards (T := T) refuses (fun _ => True) claimFrame claimFrame := by
  refine (unguards_onMachine _).bind fun answer _ => ?_
  cases answer with
  | some frame => exact .pure trivial
  | none => exact unguards_evictOldest.bind fun _ _ => .pure trivial

theorem unguards_faultIn (page : Nat) (source : Option SwapSlot) :
    Unguards (T := T) refuses (fun _ => True) (faultIn page source) (faultIn page source) := by
  refine unguards_bind_space fun space _ => ?_
  rw [show PageTable.capacity space.unguarded.table = PageTable.capacity space.table from rfl]
  dsimp only
  split
  · exact .throw_bind_of_excused trivial
  · refine unguards_claimFrame.bind fun claim _ => ?_
    apply unguards_bind_attempt ((unguards_fill source claim.1).bind fun _ _ => unguards_write page _)
    · exact fun _ => (unguards_enlist page claim.1 source).bind fun _ _ => .pure trivial
    · exact fun reason => ends_doomed _ reason

theorem unguards_resolve (page : Nat) : Unguards (T := T) refuses (fun _ => True) (resolve page) (resolve page) := by
  refine unguards_bind_lookup fun entry => ?_
  cases entry.state with
  | present frame dirty => exact (unguards_emit _).bind fun _ _ => .pure trivial
  | absent => exact unguards_faultIn page none
  | swapped device slot => exact unguards_faultIn page (some ⟨device, slot⟩)

theorem unguards_locate (id offset : Nat) :
    Unguards (T := T) refuses (fun _ => True) (locate id offset) (locate id offset) := by
  refine unguards_bind_space fun space _ => ?_
  rw [show space.unguarded.region? id = space.region? id from rfl]
  refine .bind_settle fun region _ => ?_
  dsimp only
  split
  · exact .throw_bind_of_excused trivial
  · exact unguards_bind_geometry fun geometry => (unguards_resolve _).bind fun _ _ => .pure trivial

theorem unguards_readByte (id offset : Nat) :
    Unguards (T := T) refuses (fun _ => True) (readByte id offset) (readByte id offset) :=
  (unguards_locate id offset).bind fun _ _ => (unguards_onMachine _).bind fun _ _ =>
    (unguards_emit _).bind fun _ _ => .pure trivial

end Space

end DemandPaging
