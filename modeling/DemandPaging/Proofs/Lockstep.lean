import DemandPaging.Proofs.Maintaining

/-! # Two runs in lockstep

Two actions are in lockstep for a relation of states if, from related states, both answer alike or both
fail alike and the states they leave are related again. A failure can be excused, and then nothing is said
of the other side. The rules follow the way actions are put together, so an operation that was built in one
way on both sides is taken apart once. The operations that reserve addresses decide by the outline of a
space and the reach of its table alone; whatever relation fixes these, and is kept by the mapping of new
pages, is kept by all of them.
-/

namespace DemandPaging

/-- Both outcomes are answers, or both are failures, unless one is an excused failure. -/
inductive Paired {ε σ τ α β : Type} (excuse : ε → Prop) (ok : α → σ → β → τ → Prop) (fail : ε → σ → ε → τ → Prop) :
    EStateM.Result ε σ α → EStateM.Result ε τ β → Prop
  | answered {answer : α} {state : σ} {other : β} {mirror : τ} (related : ok answer state other mirror) :
    Paired excuse ok fail (.ok answer state) (.ok other mirror)
  | failed {reason : ε} {state : σ} {other : ε} {mirror : τ} (related : fail reason state other mirror) :
    Paired excuse ok fail (.error reason state) (.error other mirror)
  | excused {reason : ε} {state : σ} {result : EStateM.Result ε τ β} (excused : excuse reason) :
    Paired excuse ok fail (.error reason state) result
  | excusedOther {reason : ε} {state : τ} {result : EStateM.Result ε σ α} (excused : excuse reason) :
    Paired excuse ok fail result (.error reason state)

namespace Paired

variable {ε σ τ α β : Type} {excuse : ε → Prop} {ok : α → σ → β → τ → Prop} {fail : ε → σ → ε → τ → Prop}
  {one : EStateM.Result ε σ α} {other : EStateM.Result ε τ β}

theorem mono {weaker : α → σ → β → τ → Prop} {milder : ε → σ → ε → τ → Prop} (paired : Paired excuse ok fail one other)
    (onOk : ∀ answer state other mirror, ok answer state other mirror → weaker answer state other mirror)
    (onFail : ∀ reason state other mirror, fail reason state other mirror → milder reason state other mirror) :
    Paired excuse weaker milder one other := by
  cases paired with
  | answered related => exact .answered (onOk _ _ _ _ related)
  | failed related => exact .failed (onFail _ _ _ _ related)
  | excused excused => exact .excused excused
  | excusedOther excused => exact .excusedOther excused

theorem map {γ δ : Type} {first : EStateM ε σ α} {second : EStateM ε τ β} {state : σ} {mirror : τ} {change : α → γ}
    {alter : β → δ} {changed : γ → σ → δ → τ → Prop} (paired : Paired excuse ok fail (first state) (second mirror))
    (related : ∀ answer after other next, ok answer after other next →
      changed (change answer) after (alter other) next) :
    Paired excuse changed fail ((change <$> first) state) ((alter <$> second) mirror) := by
  simp only [Functor.map, EStateM.map]
  generalize first state = result at paired
  generalize second mirror = reflection at paired
  cases paired with
  | answered ended => exact .answered (related _ _ _ _ ended)
  | failed ended => exact .failed ended
  | excused excused => exact .excused excused
  | excusedOther excused => exact .excusedOther excused

/-- Two actions whose ends are known are paired if every combination of their ends is accounted for. -/
theorem of_ends {first : EStateM ε σ α} {second : EStateM ε τ β} {state : σ} {mirror : τ}
    {okOne : α → σ → Prop} {failOne : ε → σ → Prop} {okOther : β → τ → Prop} {failOther : ε → τ → Prop}
    (ends : Ends first okOne failOne state) (also : Ends second okOther failOther mirror)
    (answered : ∀ answer after other next, okOne answer after → okOther other next → ok answer after other next)
    (failed : ∀ reason after other next, failOne reason after → failOther other next →
      excuse reason ∨ excuse other ∨ fail reason after other next)
    (left : ∀ reason after other next, failOne reason after → okOther other next → excuse reason)
    (right : ∀ answer after reason next, okOne answer after → failOther reason next → excuse reason) :
    Paired excuse ok fail (first state) (second mirror) := by
  unfold Ends at ends also
  cases ran : first state with
  | ok answer after =>
    simp only [ran] at ends
    cases ranOther : second mirror with
    | ok other next =>
      simp only [ranOther] at also
      exact .answered (answered _ _ _ _ ends also)
    | error reason next =>
      simp only [ranOther] at also
      exact .excusedOther (right _ _ _ _ ends also)
  | error reason after =>
    simp only [ran] at ends
    cases ranOther : second mirror with
    | ok other next =>
      simp only [ranOther] at also
      exact .excused (left _ _ _ _ ends also)
    | error other next =>
      simp only [ranOther] at also
      rcases failed _ _ _ _ ends also with excused | excused | related
      · exact .excused excused
      · exact .excusedOther excused
      · exact .failed related

/-- What each side is known to leave behind besides. -/
theorem and_ends {first : EStateM ε σ α} {second : EStateM ε τ β} {state : σ} {mirror : τ}
    {okOne : α → σ → Prop} {failOne : ε → σ → Prop} {okOther : β → τ → Prop} {failOther : ε → τ → Prop}
    (paired : Paired excuse ok fail (first state) (second mirror)) (ends : Ends first okOne failOne state)
    (also : Ends second okOther failOther mirror) :
    Paired excuse
      (fun answer after other next => ok answer after other next ∧ okOne answer after ∧ okOther other next)
      (fun reason after other next => fail reason after other next ∧ failOne reason after ∧ failOther other next)
      (first state) (second mirror) := by
  unfold Ends at ends also
  generalize first state = result at paired ends
  generalize second mirror = reflection at paired also
  cases paired with
  | answered related => exact .answered ⟨related, ends, also⟩
  | failed related => exact .failed ⟨related, ends, also⟩
  | excused excused => exact .excused excused
  | excusedOther excused => exact .excusedOther excused

/-- Both sides fail at once and for one reason. -/
theorem of_refusals {first : EStateM ε σ α} {second : EStateM ε τ β} {state : σ} {mirror : τ} {reason : ε}
    {states : σ → τ → Prop} (related : states state mirror)
    (ends : Ends first (fun _ _ => False) (fun failure after => failure = reason ∧ after = state) state)
    (also : Ends second (fun _ _ => False) (fun failure next => failure = reason ∧ next = mirror) mirror) :
    Paired excuse ok (fun failure after echo next => failure = echo ∧ states after next) (first state)
      (second mirror) := by
  refine .of_ends ends also (fun _ _ _ _ never => never.elim) ?_ (fun _ _ _ _ _ never => never.elim)
    fun _ _ _ _ never => never.elim
  rintro _ _ _ _ ⟨rfl, rfl⟩ ⟨rfl, rfl⟩
  exact .inr (.inr ⟨rfl, related⟩)

end Paired

/-- What relates two runs: their states, the failures that excuse everything, and the failures that are alike. -/
structure Relation (ε σ τ : Type) where
  states : σ → τ → Prop
  excuse : ε → Prop
  failures : ε → ε → Prop

/-- From related states both actions end alike in related states. -/
def Lockstep {ε σ τ α β : Type} (relation : Relation ε σ τ) (answers : α → β → Prop) (one : EStateM ε σ α)
    (other : EStateM ε τ β) : Prop :=
  ∀ state mirror, relation.states state mirror →
    Paired relation.excuse (fun answer after other next => answers answer other ∧ relation.states after next)
      (fun reason after other next => relation.failures reason other ∧ relation.states after next)
      (one state) (other mirror)

namespace Lockstep

variable {ε σ τ α β γ δ : Type} {relation : Relation ε σ τ} {answers : α → β → Prop} {inner : γ → δ → Prop}

theorem pure {answer : α} {other : β} (related : answers answer other) :
    Lockstep relation answers (Pure.pure answer) (Pure.pure other) := fun _ _ states => .answered ⟨related, states⟩

theorem throw {reason other : ε} (alike : relation.failures reason other) :
    Lockstep relation answers (MonadExcept.throw reason) (MonadExcept.throw other) :=
  fun _ _ states => .failed ⟨alike, states⟩

theorem bind {one : EStateM ε σ γ} {other : EStateM ε τ δ} {next : γ → EStateM ε σ α} {rest : δ → EStateM ε τ β}
    (first : Lockstep relation inner one other)
    (follows : ∀ answer mirror, inner answer mirror → Lockstep relation answers (next answer) (rest mirror)) :
    Lockstep relation answers (one >>= next) (other >>= rest) := by
  intro state mirror states
  have paired := first state mirror states
  simp only [Bind.bind, EStateM.bind]
  generalize one state = result at paired
  generalize other mirror = reflection at paired
  cases paired with
  | answered related => exact follows _ _ related.1 _ _ related.2
  | failed related => exact .failed related
  | excused excused => exact .excused excused
  | excusedOther excused => exact .excusedOther excused

theorem map {one : EStateM ε σ γ} {other : EStateM ε τ δ} {change : γ → α} {alter : δ → β}
    (first : Lockstep relation inner one other)
    (related : ∀ answer mirror, inner answer mirror → answers (change answer) (alter mirror)) :
    Lockstep relation answers (change <$> one) (alter <$> other) := fun state mirror states =>
  (first state mirror states).map fun _ _ _ _ ended => ⟨related _ _ ended.1, ended.2⟩

theorem bind_get {next : σ → EStateM ε σ α} {rest : τ → EStateM ε τ β}
    (follows : ∀ state mirror, relation.states state mirror → Lockstep relation answers (next state) (rest mirror)) :
    Lockstep relation answers (get >>= next) (get >>= rest) :=
  fun state mirror states => follows state mirror states state mirror states

theorem modify {change : σ → σ} {alter : τ → τ}
    (keeps : ∀ state mirror, relation.states state mirror → relation.states (change state) (alter mirror)) :
    Lockstep relation (fun _ _ => True) (modify change) (modify alter) :=
  fun state mirror states => .answered ⟨trivial, keeps state mirror states⟩

theorem throw_bind {reason other : ε} {next : γ → EStateM ε σ α} {rest : δ → EStateM ε τ β}
    (alike : relation.failures reason other) :
    Lockstep relation answers (MonadExcept.throw reason >>= next) (MonadExcept.throw other >>= rest) :=
  fun _ _ states => .failed ⟨alike, states⟩

/-- Both sides settle the same outcome. -/
theorem bind_settle {outcome : Except ε γ} {next : γ → EStateM ε σ α} {rest : γ → EStateM ε τ β}
    (alike : ∀ reason, relation.failures reason reason)
    (follows : ∀ answer, outcome = .ok answer → Lockstep relation answers (next answer) (rest answer)) :
    Lockstep relation answers (settle outcome >>= next) (settle outcome >>= rest) := by
  cases outcome with
  | error reason => exact fun _ _ states => .failed ⟨alike reason, states⟩
  | ok answer => exact follows answer rfl

theorem foldlM {ι : Type} {step : α → ι → EStateM ε σ α} {echo : β → ι → EStateM ε τ β} {items : List ι}
    (each : ∀ item ∈ items, ∀ result other, answers result other →
      Lockstep relation answers (step result item) (echo other item))
    {start : α} {mirrored : β} (related : answers start mirrored) :
    Lockstep relation answers (items.foldlM step start) (items.foldlM echo mirrored) := by
  induction items generalizing start mirrored with
  | nil => exact .pure related
  | cons item rest ih =>
    rw [List.forall_mem_cons] at each
    exact (each.1 start mirrored related).bind fun _ _ next => ih each.2 next

end Lockstep

namespace Paging

variable {T : Type} {α β : Type} {relation : Relation MemoryError (Stage T) (Stage T)} {answers : α → β → Prop}

theorem lockstep_bind_space {next rest : Space T → Paging T _}
    (follows : ∀ state mirror, relation.states state mirror →
      Lockstep relation answers (next state.space) (rest mirror.space)) :
    Lockstep relation answers (space >>= next) (space >>= rest) :=
  fun state mirror states => follows state mirror states state mirror states

end Paging

namespace Space

open Paging

variable {T : Type} [PageTable T]

/-- The relation fixes what reservations depend on, and neither the log nor a new outline breaks it. -/
structure Reservable (relation : Relation MemoryError (Stage T) (Stage T)) (size : Geometry) (limit : Nat) : Prop where
  alike (reason : MemoryError) : relation.failures reason reason
  outline {state mirror : Stage T} : relation.states state mirror → state.space.SameOutline mirror.space
  sized {state mirror : Stage T} : relation.states state mirror →
    state.devices.geometry = size ∧ mirror.devices.geometry = size
  capacity {state mirror : Stage T} : relation.states state mirror →
    PageTable.capacity state.space.table = limit ∧ PageTable.capacity mirror.space.table = limit
  logged {state mirror : Stage T} : relation.states state mirror → ∀ log other,
    relation.states { state with log } { mirror with log := other }
  redrawn {state mirror : Stage T} : relation.states state mirror → ∀ one other : Space T, one.SameOutline other →
    one.table = state.space.table → one.resident = state.space.resident →
    other.table = mirror.space.table → other.resident = mirror.space.resident →
      relation.states { state with space := one } { mirror with space := other }
  mapped {start stop : Nat} : (∀ page ∈ pagesBetween size start stop, page < limit) →
    Lockstep relation (fun _ _ => True) (mapRange start stop) (mapRange start stop)

namespace Reservable

variable {relation : Relation MemoryError (Stage T) (Stage T)} {size : Geometry} {limit : Nat}
  (reservable : Reservable relation size limit)
include reservable

theorem lockstep_emit (event other : Event) : Lockstep relation (fun _ _ => True) (emit event) (emit other) :=
  .modify fun _ _ states => reservable.logged states _ _

theorem lockstep_bind_geometry {α β : Type} {answers : α → β → Prop} {next : Geometry → Paging T α}
    {rest : Geometry → Paging T β} (follows : Lockstep relation answers (next size) (rest size)) :
    Lockstep relation answers (Paging.geometry >>= next) (Paging.geometry >>= rest) := by
  have known : Lockstep relation (fun one other => one = size ∧ other = size) Paging.geometry
      Paging.geometry := fun _ _ states => .answered ⟨reservable.sized states, states⟩
  refine known.bind ?_
  rintro _ _ ⟨rfl, rfl⟩
  exact follows

/-- Both spaces change their outlines in the same way, and nothing else. -/
theorem lockstep_modifySpace {one other : Space T → Space T}
    (outline : ∀ space mirror : Space T, space.SameOutline mirror → (one space).SameOutline (other mirror))
    (left : ∀ space, (one space).table = space.table ∧ (one space).resident = space.resident)
    (right : ∀ space, (other space).table = space.table ∧ (other space).resident = space.resident) :
    Lockstep relation (fun _ _ => True) (modifySpace one) (modifySpace other) :=
  .modify fun _ _ states => reservable.redrawn states _ _ (outline _ _ (reservable.outline states))
    (left _).1 (left _).2 (right _).1 (right _).2

theorem lockstep_setArea (id : Nat) (area : Area) :
    Lockstep relation (fun _ _ => True) (modifySpace fun space => space.setArea id area)
      (modifySpace fun space => space.setArea id area) := by
  refine reservable.lockstep_modifySpace (fun space mirror same => ?_) (fun _ => ⟨rfl, rfl⟩) fun _ => ⟨rfl, rfl⟩
  exact ⟨same.populate, congrArg (List.set · id area) same.areas, same.regions⟩

theorem lockstep_checkOverlap (id start stop : Nat) :
    Lockstep relation (fun _ _ => True) (checkOverlap id start stop) (checkOverlap id start stop) := by
  refine lockstep_bind_space fun state mirror states => ?_
  rw [(reservable.outline states).areas]
  cases state.space.areas.find? fun area => area.id != id && area.overlaps start stop with
  | none => exact .pure trivial
  | some area => exact (reservable.lockstep_emit _ _).bind fun _ _ _ => .throw (reservable.alike _)

theorem area?_eq {state mirror : Stage T} (states : relation.states state mirror) (id : Nat) :
    mirror.space.area? id = state.space.area? id := by
  rw [area?, area?, (reservable.outline states).areas]

theorem lockstep_grow (id bytes : Nat) : Lockstep relation Eq (grow id bytes) (grow id bytes) := by
  rw [grow]
  split
  · exact .throw_bind (reservable.alike _)
  · refine lockstep_bind_space fun state mirror states => ?_
    obtain ⟨left, right⟩ := reservable.capacity states
    rw [reservable.area?_eq states]
    refine .bind_settle reservable.alike fun area found => reservable.lockstep_bind_geometry ?_
    rw [growth?_congr (right.trans left.symm)]
    cases growth : state.space.growth? size area.stop bytes with
    | none => exact .throw (reservable.alike _)
    | some pair =>
      obtain ⟨rounded, newStop⟩ := pair
      obtain ⟨ordered, below⟩ := stop_of_growth? growth
      rw [left] at below
      have finish : Lockstep relation Eq
          (do modifySpace fun space => space.setArea id { area with stop := newStop }
              emit (.areaGrown id rounded area.stop newStop)
              return area.stop)
          (do modifySpace fun space => space.setArea id { area with stop := newStop }
              emit (.areaGrown id rounded area.stop newStop)
              return area.stop) :=
        (reservable.lockstep_setArea _ _).bind fun _ _ _ => (reservable.lockstep_emit _ _).bind fun _ _ _ => .pure rfl
      refine (reservable.lockstep_checkOverlap _ _ _).bind fun _ _ _ => ?_
      rw [(reservable.outline states).populate]
      split
      · exact (reservable.mapped fun page => lt_of_mem_pagesBetween ordered below).bind fun _ _ _ => finish
      · exact finish

theorem lockstep_carveGrown (id bytes : Nat) :
    Lockstep relation Eq (carveGrown id bytes) (carveGrown id bytes) := by
  refine (reservable.lockstep_grow id bytes).bind fun _ _ _ => lockstep_bind_space fun state mirror states => ?_
  rw [reservable.area?_eq states]
  refine .bind_settle reservable.alike fun area _ => ?_
  cases area.takeFromBreak? bytes with
  | none => exact .throw (reservable.alike _)
  | some pair => exact (reservable.lockstep_setArea _ _).bind fun _ _ _ => .pure rfl

theorem lockstep_carve (id bytes : Nat) : Lockstep relation Eq (carve id bytes) (carve id bytes) := by
  refine lockstep_bind_space fun state mirror states => ?_
  rw [reservable.area?_eq states]
  refine .bind_settle reservable.alike fun area _ => ?_
  cases area.free.takeFirstFit? bytes with
  | some pair => exact (reservable.lockstep_setArea _ _).bind fun _ _ _ => .pure rfl
  | none =>
    cases area.takeFromBreak? bytes with
    | some pair => exact (reservable.lockstep_setArea _ _).bind fun _ _ _ => .pure rfl
    | none => exact reservable.lockstep_carveGrown id bytes

theorem lockstep_allocate (owner id bytes : Nat) :
    Lockstep relation Eq (allocate owner id bytes) (allocate owner id bytes) := by
  refine lockstep_bind_space fun state mirror states => ?_
  rw [show mirror.space.slot? id = state.space.slot? id by rw [slot?, slot?, (reservable.outline states).regions]]
  refine .bind_settle reservable.alike fun slot _ => ?_
  cases slot with
  | some live => exact .throw (reservable.alike _)
  | none =>
    simp only
    split
    · exact .throw_bind (reservable.alike _)
    · refine (reservable.lockstep_carve owner bytes).bind ?_
      rintro region _ rfl
      refine .bind (reservable.lockstep_modifySpace ?_ (fun _ => ⟨rfl, rfl⟩) fun _ => ⟨rfl, rfl⟩) fun _ _ _ =>
        (reservable.lockstep_emit _ _).bind fun _ _ _ => .pure rfl
      intro space mirror same
      exact ⟨same.populate, same.areas, congrArg (Vector.setIfInBounds · id _) same.regions⟩

theorem lockstep_release (id : Nat) : Lockstep relation Eq (release id) (release id) := by
  refine lockstep_bind_space fun state mirror states => ?_
  rw [show mirror.space.live? id = state.space.live? id by
    rw [live?, live?, slot?, slot?, (reservable.outline states).regions]]
  refine .bind_settle reservable.alike fun live _ => ?_
  refine .bind (reservable.lockstep_modifySpace ?_ (fun _ => ⟨rfl, rfl⟩) fun _ => ⟨rfl, rfl⟩) fun _ _ _ =>
    (reservable.lockstep_emit _ _).bind fun _ _ _ => .pure rfl
  intro space mirror same
  exact ⟨same.populate, congrArg (List.modify · live.area _) same.areas,
    congrArg (Vector.setIfInBounds · id _) same.regions⟩

theorem lockstep_createArea (start : Nat) : Lockstep relation Eq (createArea start) (createArea start) := by
  refine reservable.lockstep_bind_geometry ?_
  split
  · exact .throw_bind (reservable.alike _)
  · refine lockstep_bind_space fun state mirror states => ?_
    obtain ⟨left, right⟩ := reservable.capacity states
    have reach : mirror.space.reach size = state.space.reach size := by rw [Space.reach, Space.reach, right, left]
    rw [reach, (reservable.outline states).areas]
    simp only
    split
    · exact .throw_bind (reservable.alike _)
    · refine (reservable.lockstep_checkOverlap _ _ _).bind fun _ _ _ => ?_
      refine .bind (reservable.lockstep_modifySpace ?_ (fun _ => ⟨rfl, rfl⟩) fun _ => ⟨rfl, rfl⟩) fun _ _ _ =>
        (reservable.lockstep_emit _ _).bind fun _ _ _ => .pure rfl
      intro space mirror same
      exact ⟨same.populate, congrArg (· ++ _) same.areas, same.regions⟩

end Reservable

end Space

end DemandPaging
