import DemandPaging.Proofs.Starts

/-! # Swapping is invisible

The bytes of a space are those that were last written to it, and zero elsewhere. Neither the devices, which
are shared and reused, nor the ways of a page between RAM and swap can be seen through them, and no space
sees the bytes of another. The history of a run is its successful writes by space and virtual address, so a
region that is carved where another one was shows what was written through that one. The invariant ties the
byte at every address of every space to that history, and all writes to pages of areas, which growth never
clears.
-/

namespace DemandPaging

/-- A byte written at a virtual address of a space. -/
structure Write where
  number : Nat
  address : Nat
  value : UInt8
deriving DecidableEq, Repr, Inhabited

/-- The byte last written at an address of a space, or zero if there was none. -/
def lastWritten (writes : List Write) (number address : Nat) : UInt8 :=
  writes.foldl (fun value write =>
    if write.number = number ∧ write.address = address then write.value else value) 0

theorem lastWritten_concat (writes : List Write) (write : Write) (number address : Nat) :
    lastWritten (writes ++ [write]) number address =
      if write.number = number ∧ write.address = address then write.value
      else lastWritten writes number address := by
  simp only [lastWritten, List.foldl_append, List.foldl_cons, List.foldl_nil]

theorem lastWritten_of_forall_ne {writes : List Write} {number address : Nat}
    (never : ∀ write ∈ writes, write.number = number → write.address ≠ address) :
    lastWritten writes number address = 0 := by
  induction writes using List.reverseRecOn with
  | nil => rfl
  | append_singleton writes write ih =>
    rw [lastWritten_concat, if_neg]
    · exact ih fun earlier member => never earlier (List.mem_append_left _ member)
    · rintro ⟨same, also⟩
      exact never write (List.mem_append_right _ (List.mem_singleton_self write)) same also

/-- Bytes depend on the homes of the pages and on what is stored there. -/
theorem Memory.byteAt_congr {T : Type} [PageTable T] (one other : Memory T) (table : other.table = one.table)
    (geometry : other.devices.geometry = one.devices.geometry)
    (bytes : ∀ page home, one.homeOf page = some home →
      other.devices.bytesAt home = one.devices.bytesAt home) (address : Nat) :
    other.byteAt address = one.byteAt address := by
  have content (page : Nat) : other.content page = one.content page := by
    have same : other.homeOf page = one.homeOf page := by rw [homeOf, lookup, table, homeOf, lookup]
    cases named : one.homeOf page with
    | none => rw [content_eq_empty named, content_eq_empty (same.trans named)]
    | some home => rw [content_eq_bytesAt named, content_eq_bytesAt (same.trans named), bytes page home named]
  rw [byteAt, byteAt, geometry, content]

namespace Call

variable {T : Type} [PageTable T]

/-- A call writes only to pages in areas. -/
theorem covers_of_written? {call : Call} {space : Space T} {geometry : Geometry} {address : Nat} {value : UInt8}
    (laid : space.Laid geometry) (written : call.written? space = some (address, value)) :
    space.Covers geometry (geometry.pageOf address) := by
  cases call with
  | writeByte id offset byte =>
    obtain ⟨place, named, same⟩ := Option.map_eq_some_iff.mp written
    obtain ⟨rfl, rfl⟩ := Prod.mk.inj same
    exact laid.covers_of_address named
  | _ => contradiction

end Call

namespace Host

/-- The writes of one step: that of a call that succeeds. -/
def writesOf (host : Host StandardTable) : Operation → List Write
  | .call number call =>
    match host.space? number, host.answer? number call with
    | some space, some (.ok _) =>
      ((call.written? space).map fun (address, value) => ⟨number, address, value⟩).toList
    | _, _ => []
  | _ => []

/-- The writes of a run, the first one first. -/
def writes (host : Host StandardTable) (run : List Operation) : List Write := host.history writesOf run

/-- A host whose spaces show the writes of a history. -/
structure Remembers (host : Host StandardTable) (writes : List Write) : Prop where
  custody : host.Custody
  bytes : ∀ number space, host.space? number = some space → ∀ address,
    (host.stage space).memory.byteAt address = lastWritten writes number address
  numbered : ∀ write ∈ writes, write.number < host.spaces.length
  covered : ∀ write ∈ writes, ∀ space, host.space? write.number = some space →
    space.Covers host.machine.devices.geometry (host.machine.devices.geometry.pageOf write.address)

variable {host : Host StandardTable} {writes : List Write} {number : Nat} {space : Space StandardTable}

/-- The bytes of a space survive what is done on the stage of another. -/
theorem Custody.byteAt_other (custody : host.Custody) {other : Nat} {kept : Space StandardTable}
    (present : host.space? other = some kept) (away : other ≠ number) {after : Stage StandardTable}
    (layout : after.devices.layout = host.machine.devices.layout)
    (bytes : ∀ home ∈ host.elsewhere number, after.devices.bytesAt home = host.machine.devices.bytesAt home)
    (address : Nat) :
    (⟨after.devices, kept.table⟩ : Memory StandardTable).byteAt address =
      (host.stage kept).memory.byteAt address := by
  apply Memory.byteAt_congr (host.stage kept).memory ⟨after.devices, kept.table⟩ rfl
  · exact congrArg DeviceSet.Layout.geometry layout
  · intro page home named
    rw [homeOf_stage present] at named
    apply bytes home
    refine ⟨custody.inUse _ _ named, fun page same => away ?_⟩
    exact congrArg Prod.fst (custody.unshared _ _ _ named same)

/-- The bytes of a space survive every operation that is not a call on it. -/
theorem Custody.byteAt_kept (custody : host.Custody) {operation : Operation}
    (found : host.space? number = some space) (uncalled : ∀ call, operation ≠ .call number call)
    (present : (host.step operation).space? number = some space) (address : Nat) :
    ((host.step operation).stage space).memory.byteAt address = (host.stage space).memory.byteAt address := by
  have stepped := custody.stepped operation
  generalize host.step operation = next at stepped present
  cases stepped with
  | unknownCall absent => rfl
  | @called other call _ _ after met ran =>
    have away : number ≠ other := by
      rintro rfl
      exact uncalled call rfl
    obtain ⟨mapped, effect⟩ := custody.effect met ran
    exact custody.byteAt_other found away effect.layout effect.reserved address
  | added => rfl
  | unknownDrop absent => rfl
  | @dropped other _ after met left =>
    have away : number ≠ other := by
      rintro rfl
      rw [Host.forget, space?_set _ _ (lt_length (space?_put met after)), if_pos rfl] at present
      contradiction
    exact custody.byteAt_other found away left.keeps.memory.layout left.keeps.memory.reserved address
  | @activated _ active machine devices =>
    apply Memory.byteAt_congr (host.stage space).memory ⟨machine.devices, space.table⟩ rfl
    · rw [devices]
      rfl
    · intro page home _
      rw [devices]
      rfl

theorem writesOf_called {call : Call} {outcome : Except MemoryError Answer} {after : Stage StandardTable}
    (found : host.space? number = some space)
    (ran : onStage call.perform (host.stage space) = (outcome, after)) :
    host.writesOf (.call number call) = ((if outcome.isOk then call.written? space else none).map
      fun (address, value) => ⟨number, address, value⟩).toList := by
  have answer : host.answer? number call = some outcome := by rw [answer?, run_eq found, ran]
  simp only [writesOf, found, answer]
  cases outcome <;> rfl

/-- Only a call on a space writes to it. -/
theorem call_of_mem_writesOf {operation : Operation} {write : Write} (member : write ∈ host.writesOf operation) :
    ∃ call space, operation = .call write.number call ∧ host.space? write.number = some space ∧
      call.written? space = some (write.address, write.value) := by
  cases operation with
  | call number call =>
    simp only [writesOf] at member
    split at member
    · next space answer found _ =>
      obtain ⟨⟨address, value⟩, written, rfl⟩ := Option.map_eq_some_iff.mp (Option.mem_toList.mp member)
      exact ⟨call, space, rfl, found, written⟩
    · exact (List.not_mem_nil member).elim
  | add populate kind => exact (List.not_mem_nil member).elim
  | drop number => exact (List.not_mem_nil member).elim
  | activate index => exact (List.not_mem_nil member).elim

/-- The writes of others do not matter. -/
theorem lastWritten_append_of_forall_ne {more : List Write} {address : Nat}
    (away : ∀ write ∈ more, write.number ≠ number) :
    lastWritten (writes ++ more) number address = lastWritten writes number address := by
  induction more using List.reverseRecOn with
  | nil => rw [List.append_nil]
  | append_singleton more write ih =>
    rw [← List.append_assoc, lastWritten_concat, if_neg, ih]
    · exact fun earlier member => away earlier (List.mem_append_left _ member)
    · intro same
      exact away write (List.mem_append_right _ (List.mem_singleton_self write)) same.1

namespace Remembers

variable (remembers : host.Remembers writes)
include remembers

/-- The bytes of a space after a call, by the history with the write of the call. -/
private theorem bytes_called (found : host.space? number = some space) {reserved : Set Home}
    {written : Option (Nat × UInt8)} {mapped : List Nat} {after : Stage StandardTable}
    (effect : Effect (host.stage space) reserved written mapped after)
    (covered : ∀ place value, written = some (place, value) →
      space.Covers host.machine.devices.geometry (host.machine.devices.geometry.pageOf place)) (address : Nat) :
    after.memory.byteAt address = lastWritten
      (writes ++ (written.map fun (address, value) => ⟨number, address, value⟩).toList) number address := by
  by_cases inside : host.machine.devices.geometry.pageOf address ∈ mapped
  · rw [effect.cleared address inside, lastWritten_of_forall_ne]
    rintro write member same rfl
    apply effect.fresh _ inside
    rcases List.mem_append.mp member with earlier | new
    · exact remembers.covered write earlier space (same ▸ found)
    · obtain ⟨⟨place, value⟩, named, made⟩ := Option.map_eq_some_iff.mp (Option.mem_toList.mp new)
      rw [← made]
      exact covered place value named
  · rw [effect.byteAt address inside]
    cases written with
    | none =>
      rw [Option.map_none, Option.toList_none, List.append_nil]
      exact remembers.bytes number space found address
    | some pair =>
      rw [Option.map_some, Option.toList_some, lastWritten_concat]
      simp only [true_and, eq_comm (a := address), remembers.bytes number space found address]

theorem bytes_step {operation : Operation} (present : (host.step operation).space? number = some space)
    (address : Nat) : ((host.step operation).stage space).memory.byteAt address =
      lastWritten (writes ++ host.writesOf operation) number address := by
  cases remembers.custody.origin present with
  | kept found uncalled =>
    rw [remembers.custody.byteAt_kept found uncalled present, remembers.bytes number space found,
      lastWritten_append_of_forall_ne]
    rintro write member rfl
    obtain ⟨call, _, same, -⟩ := call_of_mem_writesOf member
    exact uncalled call same
  | @called call before outcome after found ran =>
    have devices : (host.step (.call number call)).machine = after.toMachine := by
      rw [step, run_eq found, ran]
      rfl
    obtain ⟨mapped, effect⟩ := remembers.custody.effect found ran
    rw [stage, devices, writesOf_called found ran]
    apply remembers.bytes_called found effect
    intro place value written
    split at written
    · exact Call.covers_of_written? (remembers.custody.laid number before found) written
    · contradiction
  | @added populate kind new =>
    rw [lastWritten_of_forall_ne]
    · exact Memory.byteAt_of_empty (Memory.content_eq_empty (home?_lookup_empty kind _))
    · intro write member same
      rcases List.mem_append.mp member with earlier | silent
      · exact absurd (remembers.numbered write earlier) (by omega)
      · exact (List.not_mem_nil silent).elim

/-- What was written stays in an area. -/
theorem covered_step {operation : Operation} {write : Write} (member : write ∈ writes ++ host.writesOf operation)
    (present : (host.step operation).space? write.number = some space) :
    space.Covers host.machine.devices.geometry (host.machine.devices.geometry.pageOf write.address) := by
  rcases List.mem_append.mp member with earlier | new
  · cases remembers.custody.origin present with
    | kept found uncalled => exact remembers.covered write earlier space found
    | called found ran =>
      obtain ⟨mapped, effect⟩ := remembers.custody.effect found ran
      exact effect.covers _ (remembers.covered write earlier _ found)
    | added fresh => exact absurd (remembers.numbered write earlier) (by omega)
  · obtain ⟨call, before, same, found, written⟩ := call_of_mem_writesOf new
    have covered := Call.covers_of_written? (remembers.custody.laid _ before found) written
    cases remembers.custody.origin present with
    | kept _ uncalled => exact (uncalled call same).elim
    | called met ran =>
      obtain rfl := Option.some.inj (met.symm.trans found)
      obtain ⟨mapped, effect⟩ := remembers.custody.effect found ran
      exact effect.covers _ covered
    | added fresh => contradiction

theorem step (operation : Operation) : (host.step operation).Remembers (writes ++ host.writesOf operation) where
  custody := remembers.custody.step operation
  bytes _ _ present address := remembers.bytes_step present address
  numbered write member := by
    apply Nat.lt_of_lt_of_le _ (remembers.custody.length_le_step operation)
    rcases List.mem_append.mp member with earlier | new
    · exact remembers.numbered write earlier
    · obtain ⟨_, _, -, found, -⟩ := call_of_mem_writesOf new
      exact lt_length found
  covered write member space present := by
    rw [remembers.custody.geometry_step operation]
    exact remembers.covered_step member present

end Remembers

theorem remembers_after {config : MemoryConfig} {machine : Machine} (built : config.build = .ok machine)
    (word : config.ramSize < Word.limit) (run : List Operation) :
    ((start machine).after run).Remembers ((start machine).writes run) := by
  induction run using List.reverseRecOn with
  | nil =>
    refine ⟨custody_start built word, fun number space present => ?_, List.forall_mem_nil _,
      List.forall_mem_nil _⟩
    rw [after_nil, space?_start] at present
    contradiction
  | append_singleton run operation ih =>
    rw [after_concat, writes, history_concat]
    exact ih.step operation

/-- Whatever byte a read answers was the last written by its space to its virtual address, or is zero if
there was no such write. -/
theorem readByte_eq_lastWritten {config : MemoryConfig} {machine : Machine} (built : config.build = .ok machine)
    (word : config.ramSize < Word.limit) (run : List Operation) {number id offset : Nat} {value : UInt8}
    (read : ((start machine).after run).answer? number (.readByte id offset) = some (.ok (.byte value))) :
    ∃ space address, ((start machine).after run).space? number = some space ∧
      space.address? id offset = some address ∧
      value = lastWritten ((start machine).writes run) number address := by
  have remembers := remembers_after built word run
  generalize (start machine).after run = host at read remembers
  cases found : host.space? number with
  | none =>
    rw [answer?, run_absent found] at read
    contradiction
  | some space =>
    rw [answer?, run_eq found] at read
    have ends := Space.ends_readByte (remembers.custody.stage found) id offset
    have mapped : Ends (Call.perform (.readByte id offset))
        (fun answer _ => ∃ address, space.address? id offset = some address ∧
          answer = .byte ((host.stage space).memory.byteAt address)) (fun _ _ => True) (host.stage space) := by
      rw [Call.perform, ends_map]
      refine ends.mono ?_ fun _ _ _ => trivial
      rintro _ after ⟨address, _, named, rfl, -⟩
      exact ⟨address, named, rfl⟩
    rcases onStage_of_ends mapped with ⟨_, after, ran, address, named, rfl⟩ | ⟨reason, after, ran, -⟩
    · rw [ran] at read
      have same := Answer.byte.inj (Except.ok.inj (Option.some.inj read))
      exact ⟨space, address, rfl, named, by rw [← same, remembers.bytes number space found]⟩
    · rw [ran] at read
      cases Option.some.inj read

/-- Two pages take turns in the only frame; the first one is read back from its swap slot. -/
def turnsRun : List Operation :=
  [.add .onDemand (.flat 4), .call 0 (.allocate 0 0 512), .call 0 (.writeByte 0 0 7), .call 0 (.writeByte 0 256 9)]

theorem readByte_eq_lastWritten_of_turns :
    ∃ machine, MemoryConfig.cramped.build = .ok machine ∧
      ((start machine).after turnsRun).answer? 0 (.readByte 0 0) = some (.ok (.byte 7)) ∧
      ∃ space address, ((start machine).after turnsRun).space? 0 = some space ∧
        space.address? 0 0 = some address ∧ 7 = lastWritten ((start machine).writes turnsRun) 0 address :=
  ⟨_, rfl, rfl, readByte_eq_lastWritten (show MemoryConfig.cramped.build = .ok _ from rfl) (by decide) turnsRun rfl⟩

end Host

end DemandPaging
