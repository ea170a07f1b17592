import DemandPaging.Proofs.CallEffects
import DemandPaging.Proofs.Runs

/-! # Custody over all spaces

A host is in custody when its devices are sound, its tables well formed, its spaces laid out, and each
home that some page of some space names is in use and named by that page alone. Seen from one space, the
homes in use that it does not name are reserved, so an operation on one space leaves the bytes of all
others alone. Every step keeps custody, whatever the operation and whether or not it fails.
-/

namespace DemandPaging.Host

variable {T : Type} [PageTable T] {host : Host T} {number : Nat} {space : Space T}

/-- Where the bytes of a page of a space are kept, if they are kept anywhere. -/
def homeOf (host : Host T) (index : Nat × Nat) : Option Home :=
  (host.space? index.1).bind fun space => Space.home? (PageTable.lookup space.table index.2)

/-- The machine with one space in front of it. -/
def stage (host : Host T) (space : Space T) : Stage T := { host.machine with space }

/-- The homes in use that a space does not name. -/
def elsewhere (host : Host T) (number : Nat) : Set Home :=
  {home | host.machine.devices.InUse home ∧ ∀ page, host.homeOf (number, page) ≠ some home}

/-- A stage takes the place of its space and of the machine. -/
def put (host : Host T) (number : Nat) (stage : Stage T) : Host T :=
  { machine := stage.toMachine, spaces := host.spaces.set number (some stage.space) }

/-- A space is gone. -/
def forget (host : Host T) (number : Nat) : Host T := { host with spaces := host.spaces.set number none }

structure Custody [LawfulTable T] (host : Host T) : Prop where
  sound : host.machine.devices.Sound
  formed : ∀ number space, host.space? number = some space → LawfulTable.WellFormed space.table
  laid : ∀ number space, host.space? number = some space → space.Laid host.machine.devices.geometry
  inUse : ∀ index home, host.homeOf index = some home → host.machine.devices.InUse home
  unshared : ∀ index other home, host.homeOf index = some home → host.homeOf other = some home → index = other

/-- Custody of the homes, however the spaces are laid out. -/
structure Exclusive [LawfulTable T] (host : Host T) : Prop where
  sound : host.machine.devices.Sound
  formed : ∀ number space, host.space? number = some space → LawfulTable.WellFormed space.table
  inUse : ∀ index home, host.homeOf index = some home → host.machine.devices.InUse home
  unshared : ∀ index other home, host.homeOf index = some home → host.homeOf other = some home → index = other

theorem Custody.exclusive [LawfulTable T] (custody : host.Custody) : host.Exclusive :=
  ⟨custody.sound, custody.formed, custody.inUse, custody.unshared⟩

section Spaces

omit [PageTable T] in
theorem space?_eq_some_iff : host.space? number = some space ↔ host.spaces[number]? = some (some space) :=
  Option.join_eq_some_iff

omit [PageTable T] in
theorem lt_length (found : host.space? number = some space) : number < host.spaces.length :=
  (List.getElem?_eq_some_iff.mp (space?_eq_some_iff.mp found)).1

theorem homeOf_eq_some_iff {index : Nat × Nat} {home : Home} :
    host.homeOf index = some home ↔ ∃ space, host.space? index.1 = some space ∧
      Space.home? (PageTable.lookup space.table index.2) = some home := Option.bind_eq_some_iff

omit [PageTable T] in
theorem space?_set (host : Host T) (machine : Machine) (bound : number < host.spaces.length)
    (slot : Option (Space T)) (other : Nat) :
    (⟨machine, host.spaces.set number slot⟩ : Host T).space? other =
      if other = number then slot else host.space? other := by
  unfold space?
  split
  · next same => rw [same, List.getElem?_set_self bound, Option.join_some]
  · next distinct => rw [List.getElem?_set_ne (Ne.symm distinct)]

theorem homeOf_set (host : Host T) (machine : Machine) (bound : number < host.spaces.length)
    (slot : Option (Space T)) (index : Nat × Nat) :
    (⟨machine, host.spaces.set number slot⟩ : Host T).homeOf index =
      if index.1 = number then slot.bind fun space => Space.home? (PageTable.lookup space.table index.2)
      else host.homeOf index := by
  unfold homeOf
  rw [space?_set _ _ bound]
  split <;> rfl

omit [PageTable T] in
theorem run_eq {α : Type} (found : host.space? number = some space) (operation : Paging T α) :
    host.run number operation =
      ((some (onStage operation (host.stage space)).1), host.put number (onStage operation (host.stage space)).2) := by
  simp only [run, found, stage, put]

omit [PageTable T] in
theorem run_absent {α : Type} (absent : host.space? number = none) (operation : Paging T α) :
    host.run number operation = (none, host) := by
  simp only [run, absent]

omit [PageTable T] in
/-- How an operation ends, it ends on the stage of a host. -/
theorem onStage_of_ends {α : Type} {operation : Paging T α} {ok : α → Stage T → Prop}
    {fail : MemoryError → Stage T → Prop} {stage : Stage T} (ends : Ends operation ok fail stage) :
    (∃ answer after, onStage operation stage = (.ok answer, after) ∧ ok answer after) ∨
      ∃ reason after, onStage operation stage = (.error reason, after) ∧ fail reason after := by
  unfold Ends at ends
  unfold onStage
  cases ran : operation stage with
  | ok answer after =>
    rw [ran] at ends
    exact .inl ⟨answer, after, rfl, ends⟩
  | error reason after =>
    rw [ran] at ends
    exact .inr ⟨reason, after, rfl, ends⟩

omit [PageTable T] in
theorem ran_of_onStage_ok {α : Type} {operation : Paging T α} {stage : Stage T} {answer : α}
    (answered : (onStage operation stage).1 = .ok answer) :
    operation stage = .ok answer (onStage operation stage).2 := by
  unfold onStage at *
  cases ran : operation stage with
  | ok other after =>
    rw [ran] at answered
    rw [Except.ok.inj answered]
  | error reason after =>
    rw [ran] at answered
    contradiction

omit [PageTable T] in
theorem ran_of_onStage_error {α : Type} {operation : Paging T α} {stage : Stage T} {reason : MemoryError}
    (failed : (onStage operation stage).1 = .error reason) :
    operation stage = .error reason (onStage operation stage).2 := by
  unfold onStage at *
  cases ran : operation stage with
  | ok answer after =>
    rw [ran] at failed
    contradiction
  | error other after =>
    rw [ran] at failed
    rw [Except.error.inj failed]

omit [PageTable T] in
theorem space?_add (host : Host T) (space : Space T) (other : Nat) :
    (host.add space).space? other = if other = host.spaces.length then some space else host.space? other := by
  unfold space? add
  rcases Nat.lt_trichotomy other host.spaces.length with old | rfl | beyond
  · rw [if_neg (Nat.ne_of_lt old), List.getElem?_append_left old]
  · simp
  · rw [if_neg (Nat.ne_of_gt beyond), List.getElem?_eq_none, List.getElem?_eq_none beyond.le]
    rw [List.length_append, List.length_singleton]
    exact beyond

theorem homeOf_add (host : Host T) (space : Space T) (index : Nat × Nat) :
    (host.add space).homeOf index =
      if index.1 = host.spaces.length then Space.home? (PageTable.lookup space.table index.2)
      else host.homeOf index := by
  unfold homeOf
  rw [space?_add]
  split <;> rfl

omit [PageTable T] in
theorem space?_put (found : host.space? number = some space) (stage : Stage T) :
    (host.put number stage).space? number = some stage.space := by
  rw [put, space?_set _ _ (lt_length found), if_pos rfl]

theorem homeOf_put (found : host.space? number = some space) (stage : Stage T) (index : Nat × Nat) :
    (host.put number stage).homeOf index =
      if index.1 = number then stage.memory.homeOf index.2 else host.homeOf index :=
  homeOf_set host _ (lt_length found) _ index

theorem homeOf_stage (found : host.space? number = some space) (page : Nat) :
    (host.stage space).memory.homeOf page = host.homeOf (number, page) := by
  simp only [homeOf, found, Option.bind_some]
  rfl

end Spaces

/-- The homes in use elsewhere are reserved for a space. -/
theorem Exclusive.stage [LawfulTable T] (exclusive : host.Exclusive) (found : host.space? number = some space) :
    (host.stage space).memory.Custody (host.elsewhere number) where
  sound := exclusive.sound
  formed := exclusive.formed number space found
  accounts := {
    inUse_iff := fun home => by
      simp only [homeOf_stage found]
      constructor
      · intro held
        by_cases named : ∃ page, host.homeOf (number, page) = some home
        · exact .inr named
        · exact .inl ⟨held, not_exists.mp named⟩
      · rintro (⟨held, -⟩ | ⟨page, named⟩)
        · exact held
        · exact exclusive.inUse _ _ named
    apart := fun page home named member => member.2 page ((homeOf_stage found page).symm.trans named)
    unshared := fun page other home first second => by
      rw [homeOf_stage found] at first second
      exact (Prod.mk.inj (exclusive.unshared _ _ _ first second)).2 }

namespace Custody

variable [LawfulTable T]

theorem stage (custody : host.Custody) (found : host.space? number = some space) :
    (host.stage space).memory.Custody (host.elsewhere number) := custody.exclusive.stage found

/-- An operation that keeps what is reserved leaves the host in custody. -/
theorem put (custody : host.Custody) (found : host.space? number = some space) {stage : Stage T}
    {lost : Set Home} (held : stage.memory.Custody (lost ∪ host.elsewhere number))
    (laid : stage.space.Laid host.machine.devices.geometry)
    (layout : stage.devices.layout = host.machine.devices.layout) : (host.put number stage).Custody := by
  have geometry : stage.devices.geometry = host.machine.devices.geometry :=
    congrArg DeviceSet.Layout.geometry layout
  have reserved {index : Nat × Nat} {home : Home} (away : index.1 ≠ number)
      (named : host.homeOf index = some home) : home ∈ lost ∪ host.elsewhere number :=
    .inr ⟨custody.inUse _ _ named, fun page same =>
      away (congrArg Prod.fst (custody.unshared _ _ _ named same))⟩
  refine ⟨held.sound, fun other kept present => ?_, fun other kept present => ?_, fun index home named => ?_,
    fun index other home first second => ?_⟩
  · rw [Host.put, space?_set _ _ (lt_length found)] at present
    split at present
    · obtain rfl := Option.some.inj present
      exact held.formed
    · exact custody.formed other kept present
  · rw [Host.put, space?_set _ _ (lt_length found)] at present
    show kept.Laid stage.devices.geometry
    rw [geometry]
    split at present
    · obtain rfl := Option.some.inj present
      exact laid
    · exact custody.laid other kept present
  · rw [homeOf_put found] at named
    split at named
    · exact held.inUse named
    · next away => exact held.accounts.inUse_of_mem (reserved away named)
  · rw [homeOf_put found] at first second
    split at first
    · next here =>
      split at second
      · next also =>
        exact Prod.ext (here.trans also.symm) (held.accounts.unshared _ _ _ first second)
      · next away => exact (held.accounts.apart _ _ first (reserved away second)).elim
    · next away =>
      split at second
      · exact (held.accounts.apart _ _ second (reserved away first)).elim
      · exact custody.unshared _ _ _ first second

theorem forget (custody : host.Custody) (found : host.space? number = some space) :
    (host.forget number).Custody := by
  have named {index : Nat × Nat} {home : Home} (named : (host.forget number).homeOf index = some home) :
      host.homeOf index = some home := by
    rw [Host.forget, homeOf_set _ _ (lt_length found)] at named
    split at named
    · contradiction
    · exact named
  have present {other : Nat} {kept : Space T} (present : (host.forget number).space? other = some kept) :
      host.space? other = some kept := by
    rw [Host.forget, space?_set _ _ (lt_length found)] at present
    split at present
    · contradiction
    · exact present
  exact ⟨custody.sound, fun other kept at_other => custody.formed other kept (present at_other),
    fun other kept at_other => custody.laid other kept (present at_other),
    fun index home homed => custody.inUse index home (named homed),
    fun index other home first second => custody.unshared index other home (named first) (named second)⟩

theorem add (custody : host.Custody) (formed : LawfulTable.WellFormed space.table)
    (laid : space.Laid host.machine.devices.geometry)
    (blank : ∀ page, Space.home? (PageTable.lookup space.table page) = none) : (host.add space).Custody := by
  have named {index : Nat × Nat} {home : Home} (named : (host.add space).homeOf index = some home) :
      host.homeOf index = some home := by
    rw [homeOf_add, blank] at named
    split at named
    · contradiction
    · exact named
  refine ⟨custody.sound, fun other kept present => ?_, fun other kept present => ?_,
    fun index home homed => custody.inUse index home (named homed),
    fun index other home first second => custody.unshared index other home (named first) (named second)⟩
  · rw [space?_add] at present
    split at present
    · exact Option.some.inj present ▸ formed
    · exact custody.formed other kept present
  · rw [space?_add] at present
    split at present
    · exact Option.some.inj present ▸ laid
    · exact custody.laid other kept present

/-- The machine may change as long as the devices are sound and what is in use stays in use. -/
theorem of_machine (custody : host.Custody) {machine : Machine} (sound : machine.devices.Sound)
    (geometry : machine.devices.geometry = host.machine.devices.geometry)
    (inUse : ∀ home, host.machine.devices.InUse home → machine.devices.InUse home) :
    ({ host with machine } : Host T).Custody where
  sound := sound
  formed := custody.formed
  laid := by rw [geometry]; exact custody.laid
  inUse index home named := inUse home (custody.inUse index home named)
  unshared := custody.unshared

end Custody

/-- Only a configured swap device becomes the active one. -/
theorem ends_activate (machine : Machine) (index : Nat) :
    Ends (Machine.activate index)
      (fun _ after => index < machine.devices.swaps.length ∧ after.devices = { machine.devices with active := index })
      (fun _ after => after = machine) machine := by
  simp only [Machine.activate, ends_bind, ends_get, ends_settle]
  refine ⟨fun devices chosen => ?_, fun _ _ => trivial⟩
  unfold DeviceSet.activate at chosen
  split at chosen
  · next configured =>
    obtain rfl := Except.ok.inj chosen
    exact ⟨configured, rfl⟩
  · contradiction

/-- The active swap device stays as it is, or another one that is configured takes its place. -/
theorem step_activate (host : Host StandardTable) (index : Nat) :
    ∃ active machine, host.step (.activate index) = { host with machine } ∧
      machine.devices = { host.machine.devices with active } ∧
      (active = host.machine.devices.active ∨ active < host.machine.devices.swaps.length) := by
  have ends := ends_activate host.machine index
  have stepped : host.step (.activate index) = (host.onMachine (Machine.activate index)).2 := rfl
  rw [stepped, Host.onMachine]
  unfold Ends at ends
  cases ran : Machine.activate index host.machine with
  | ok answer machine =>
    rw [ran] at ends
    exact ⟨index, machine, rfl, ends.2, .inr ends.1⟩
  | error reason machine =>
    rw [ran] at ends
    subst ends
    exact ⟨_, _, rfl, rfl, .inl rfl⟩

/-- What a step makes of a host. -/
inductive Stepped (host : Host StandardTable) : Operation → Host StandardTable → Prop where
  | unknownCall {number : Nat} {call : Call} (absent : host.space? number = none) :
    Stepped host (.call number call) host
  | called {number : Nat} {call : Call} {space : Space StandardTable} {outcome : Except MemoryError Answer}
    {after : Stage StandardTable} (found : host.space? number = some space)
    (ran : onStage call.perform (host.stage space) = (outcome, after)) :
    Stepped host (.call number call) (host.put number after)
  | added {populate : Populate} {kind : TableKind} :
    Stepped host (.add populate kind) (host.add (Space.ofTable populate kind.empty))
  | unknownDrop {number : Nat} (absent : host.space? number = none) : Stepped host (.drop number) host
  | dropped {number : Nat} {space : Space StandardTable} {after : Stage StandardTable}
    (found : host.space? number = some space) (left : Space.Left (host.stage space) (host.elsewhere number) after) :
    Stepped host (.drop number) ((host.put number after).forget number)
  | activated {index active : Nat} {machine : Machine}
    (devices : machine.devices = { host.machine.devices with active }) :
    Stepped host (.activate index) { host with machine }

theorem Custody.stepped {host : Host StandardTable} (custody : host.Custody) (operation : Operation) :
    Stepped host operation (host.step operation) := by
  cases operation with
  | call number call =>
    cases found : host.space? number with
    | none =>
      have stepped : host.step (.call number call) = host := congrArg Prod.snd (run_absent found call.perform)
      rw [stepped]
      exact .unknownCall found
    | some space =>
      have stepped : host.step (.call number call) = host.put number (onStage call.perform (host.stage space)).2 :=
        congrArg Prod.snd (run_eq found call.perform)
      rw [stepped]
      exact .called found rfl
  | add populate kind => exact .added
  | drop number =>
    cases found : host.space? number with
    | none =>
      have stepped : host.step (.drop number) = host := by
        show (host.drop number).2 = host
        rw [drop, run_absent found]
      rw [stepped]
      exact .unknownDrop found
    | some space =>
      have stepped : host.step (.drop number) =
          (host.put number (onStage Space.teardown (host.stage space)).2).forget number := by
        show (host.drop number).2 = _
        rw [drop, run_eq found]
        rfl
      rw [stepped]
      have ends := onStage_of_ends (Space.ends_teardown (custody.stage found))
      rcases ends with ⟨_, after, ran, left⟩ | ⟨_, _, _, never⟩
      · rw [ran]
        exact .dropped found left
      · exact never.elim
  | activate index =>
    obtain ⟨active, machine, stepped, devices, -⟩ := step_activate host index
    rw [stepped]
    exact .activated devices

/-- Where a space that is there after a step comes from. -/
inductive Origin (host : Host StandardTable) (number : Nat) : Operation → Space StandardTable → Prop where
  | kept {operation : Operation} {space : Space StandardTable} (found : host.space? number = some space)
    (uncalled : ∀ call, operation ≠ .call number call) : Origin host number operation space
  | called {call : Call} {before : Space StandardTable} {outcome : Except MemoryError Answer}
    {after : Stage StandardTable} (found : host.space? number = some before)
    (ran : onStage call.perform (host.stage before) = (outcome, after)) :
    Origin host number (.call number call) after.space
  | added {populate : Populate} {kind : TableKind} (new : number = host.spaces.length) :
    Origin host number (.add populate kind) (Space.ofTable populate kind.empty)

theorem Custody.origin {host : Host StandardTable} (custody : host.Custody) {operation : Operation} {number : Nat}
    {space : Space StandardTable} (present : (host.step operation).space? number = some space) :
    Origin host number operation space := by
  have stepped := custody.stepped operation
  generalize host.step operation = next at stepped present
  cases stepped with
  | unknownCall absent =>
    refine .kept present ?_
    rintro _ ⟨⟩
    rw [absent] at present
    contradiction
  | called found ran =>
    rw [Host.put, space?_set _ _ (lt_length found)] at present
    split at present
    · next same =>
      obtain rfl := Option.some.inj present
      subst same
      exact .called found ran
    · next away =>
      refine .kept present ?_
      rintro _ ⟨⟩
      exact away rfl
  | added =>
    rw [space?_add] at present
    split at present
    · next new =>
      obtain rfl := Option.some.inj present
      exact .added new
    · exact .kept present fun _ same => nomatch same
  | unknownDrop absent => exact .kept present fun _ same => nomatch same
  | @dropped dropped _ after found left =>
    rw [Host.forget, space?_set _ _ (lt_length (space?_put found after))] at present
    split at present
    · contradiction
    · next away =>
      rw [Host.put, space?_set _ _ (lt_length found), if_neg away] at present
      exact .kept present fun _ same => nomatch same
  | activated devices => exact .kept present fun _ same => nomatch same

theorem home?_lookup_empty (kind : TableKind) (page : Nat) :
    Space.home? (PageTable.lookup kind.empty page) = none := by
  rw [StandardTable.lookup_empty]
  rfl

/-- The layout of a space that is new. -/
theorem laid_ofTable (populate : Populate) (table : T) (geometry : Geometry) :
    (Space.ofTable populate table).Laid geometry where
  ids index area found := by
    unfold Space.ofTable at found
    rw [List.getElem?_singleton] at found
    split at found
    · next first => exact Option.some.inj found ▸ first.symm
    · contradiction
  areas area member := by
    obtain rfl := List.mem_singleton.mp member
    exact ⟨Nat.zero_mod _, Nat.zero_mod _, le_rfl, le_rfl, Nat.zero_le _, List.forall_mem_nil _⟩
  live id live found := by
    rw [Space.live?_eq_ok_iff] at found
    obtain ⟨_, at_id⟩ := Vector.getElem?_eq_some_iff.mp found
    unfold Space.ofTable at at_id
    rw [Vector.getElem_replicate] at at_id
    contradiction

/-- What a call that was performed changed. -/
theorem Custody.effect {host : Host StandardTable} (custody : host.Custody) {number : Nat}
    {space : Space StandardTable} (found : host.space? number = some space) {call : Call}
    {outcome : Except MemoryError Answer} {after : Stage StandardTable}
    (ran : onStage call.perform (host.stage space) = (outcome, after)) :
    ∃ mapped, Effect (host.stage space) (host.elsewhere number)
      (if outcome.isOk then call.written? space else none) mapped after := by
  have ends := call.ends_perform (custody.stage found) (custody.laid number space found)
  rcases onStage_of_ends ends with ⟨answer, _, same, mapped, effect⟩ | ⟨reason, _, same, effect⟩
  · obtain ⟨rfl, rfl⟩ := Prod.mk.inj (same.symm.trans ran)
    exact ⟨mapped, effect⟩
  · obtain ⟨rfl, rfl⟩ := Prod.mk.inj (same.symm.trans ran)
    exact ⟨[], effect⟩

/-- Every step keeps custody. -/
theorem Custody.step {host : Host StandardTable} (custody : host.Custody) (operation : Operation) :
    (host.step operation).Custody := by
  have stepped := custody.stepped operation
  generalize host.step operation = next at stepped
  cases stepped with
  | unknownCall absent => exact custody
  | called found ran =>
    obtain ⟨mapped, effect⟩ := custody.effect found ran
    exact custody.put found effect.custody effect.laid effect.layout
  | added =>
    rename_i populate kind
    exact custody.add (StandardTable.wellFormed_empty kind) (laid_ofTable populate kind.empty _)
      (home?_lookup_empty kind)
  | unknownDrop absent => exact custody
  | dropped found left =>
    have held := left.custody
    rw [← Set.empty_union (host.elsewhere _)] at held
    have laid := (custody.laid _ _ found).of_outline left.keeps.outline left.keeps.memory.capacity
    exact (custody.put found held laid left.keeps.memory.layout).forget (space?_put found _)
  | activated devices =>
    refine custody.of_machine ?_ (by rw [devices]) fun home held => ?_
    · rw [devices]
      exact { custody.sound with }
    · rw [devices]
      exact held

/-- No number is given back. -/
theorem Custody.length_le_step {host : Host StandardTable} (custody : host.Custody) (operation : Operation) :
    host.spaces.length ≤ (host.step operation).spaces.length := by
  have stepped := custody.stepped operation
  generalize host.step operation = next at stepped
  cases stepped with
  | unknownCall absent => exact le_rfl
  | called found ran => exact List.length_set.ge
  | added =>
    rw [Host.add, List.length_append]
    exact Nat.le_add_right ..
  | unknownDrop absent => exact le_rfl
  | dropped found left =>
    rw [Host.forget, Host.put, List.length_set, List.length_set]
  | activated devices => exact le_rfl

/-- A step changes no more of the layout than the active swap device. -/
theorem Custody.layout_step {host : Host StandardTable} (custody : host.Custody) (operation : Operation) :
    ∃ active, (host.step operation).machine.devices.layout = { host.machine.devices.layout with active } ∧
      (active = host.machine.devices.active ∨ active < host.machine.devices.swaps.length) := by
  cases operation with
  | activate index =>
    obtain ⟨active, machine, stepped, devices, chosen⟩ := step_activate host index
    rw [stepped, devices]
    exact ⟨active, rfl, chosen⟩
  | call number call =>
    have stepped := custody.stepped (.call number call)
    generalize host.step (.call number call) = next at stepped
    cases stepped with
    | unknownCall absent => exact ⟨_, rfl, .inl rfl⟩
    | called found ran =>
      obtain ⟨mapped, effect⟩ := custody.effect found ran
      exact ⟨_, effect.layout, .inl rfl⟩
  | drop number =>
    have stepped := custody.stepped (.drop number)
    generalize host.step (.drop number) = next at stepped
    cases stepped with
    | unknownDrop absent => exact ⟨_, rfl, .inl rfl⟩
    | dropped found left => exact ⟨_, left.keeps.memory.layout, .inl rfl⟩
  | add populate kind => exact ⟨_, rfl, .inl rfl⟩

theorem Custody.geometry_step {host : Host StandardTable} (custody : host.Custody) (operation : Operation) :
    (host.step operation).machine.devices.geometry = host.machine.devices.geometry := by
  obtain ⟨active, layout, -⟩ := custody.layout_step operation
  exact congrArg DeviceSet.Layout.geometry layout

end DemandPaging.Host
