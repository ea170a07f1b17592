import DemandPaging.Proofs.CallEndings
import DemandPaging.Proofs.Leaving

/-! # What a call changes

Seen through its bytes, a space is changed by two things only: a write that succeeds replaces one byte of
a page in an area, and growth clears pages that were in no area. Every other call, and every call that
fails, leaves each byte as it was. All calls keep the memory in custody; a home is lost only if growth maps
a page that had one.
-/

namespace DemandPaging

variable {T : Type} [PageTable T] [TotalTable T]

/-- The change that a call makes to its space, with the byte that it writes and the pages that it maps. -/
structure Effect (before : Stage T) (reserved : Set Home) (written : Option (Nat × UInt8))
    (mapped : List Nat) (after : Stage T) : Prop where
  custody : after.memory.Custody (Space.homesOf before.memory mapped ∪ reserved)
  layout : after.devices.layout = before.devices.layout
  reserved : ∀ home ∈ reserved, after.devices.bytesAt home = before.devices.bytesAt home
  laid : after.space.Laid before.devices.geometry
  covers : ∀ page, before.space.Covers before.devices.geometry page →
    after.space.Covers before.devices.geometry page
  fresh : ∀ page ∈ mapped, ¬ before.space.Covers before.devices.geometry page
  cleared : ∀ address, before.devices.geometry.pageOf address ∈ mapped → after.memory.byteAt address = 0
  byteAt : ∀ address, before.devices.geometry.pageOf address ∉ mapped → after.memory.byteAt address =
    match written with
    | some (place, value) => if address = place then value else before.memory.byteAt address
    | none => before.memory.byteAt address

namespace Effect

variable {before after : Stage T} {reserved : Set Home}

theorem of_keeps (custody : after.memory.Custody reserved) (keeps : before.Keeps reserved ∅ after)
    (laid : before.space.Laid before.devices.geometry) : Effect before reserved none [] after where
  custody := by rwa [Space.homesOf_nil, Set.empty_union]
  layout := keeps.memory.layout
  reserved := keeps.memory.reserved
  laid := laid.of_outline keeps.outline keeps.memory.capacity
  covers page covered := by
    unfold Space.Covers
    rwa [keeps.outline.areas]
  fresh _ none := (List.not_mem_nil none).elim
  cleared _ none := (List.not_mem_nil none).elim
  byteAt address _ := keeps.memory.byteAt (Set.notMem_empty _)

theorem of_unmoved (custody : before.memory.Custody reserved)
    (laid : before.space.Laid before.devices.geometry) (unmoved : Space.Unmoved before after) :
    Effect before reserved none [] after :=
  of_keeps (unmoved.memory ▸ custody) ⟨unmoved.memory ▸ .refl _, unmoved.outline⟩ laid

theorem of_written {address : Nat} {value : UInt8} (written : Space.Written before reserved address value after)
    (laid : before.space.Laid before.devices.geometry) :
    Effect before reserved (some (address, value)) [] after where
  custody := by
    rw [Space.homesOf_nil, Set.empty_union]
    exact written.custody
  layout := written.memory.layout
  reserved := written.memory.reserved
  laid := laid.of_outline written.outline written.memory.capacity
  covers page covered := by
    unfold Space.Covers
    rwa [written.outline.areas]
  fresh _ none := (List.not_mem_nil none).elim
  cleared _ none := (List.not_mem_nil none).elim
  byteAt other _ := written.byteAt other

theorem of_extended {pages : List Nat} (extended : Space.Extended before reserved pages after) :
    Effect before reserved none pages after where
  custody := extended.mapped.custody
  layout := extended.mapped.keeps.layout
  reserved := extended.mapped.keeps.reserved
  laid := extended.laid
  covers := extended.covers
  fresh := extended.fresh
  cleared address inside := by
    refine Memory.byteAt_of_empty ?_
    rw [extended.mapped.keeps.geometry]
    exact extended.mapped.blank _ inside
  byteAt address away := extended.mapped.keeps.byteAt away

end Effect

namespace Call

omit [TotalTable T] in
/-- The byte that a call writes when it succeeds. -/
def written? (call : Call) (space : Space T) : Option (Nat × UInt8) :=
  match call with
  | .writeByte id offset value => (space.address? id offset).map fun address => (address, value)
  | _ => none

omit [PageTable T] [TotalTable T] in
theorem written?_of_looks {call : Call} (looks : call.looks = true) (space : Space T) : call.written? space = none := by
  cases call <;> first | rfl | contradiction

variable {stage : Stage T} {reserved : Set Home}

theorem ends_perform (custody : stage.memory.Custody reserved) (laid : stage.space.Laid stage.devices.geometry)
    (call : Call) :
    Ends call.perform
      (fun _ after => ∃ mapped, Effect stage reserved (call.written? stage.space) mapped after)
      (fun _ after => Effect stage reserved none [] after) stage := by
  apply (ends_done custody laid call).mono
  · intro _ after done
    cases done with
    | allocated _ extended | grown _ extended | released extended | created extended =>
      exact ⟨_, .of_extended extended⟩
    | resolved resolved | read _ resolved => exact ⟨_, .of_keeps resolved.custody resolved.keeps laid⟩
    | written named written =>
      rw [written?, named]
      exact ⟨_, .of_written written laid⟩
    | evicted evicted => exact ⟨_, .of_keeps evicted.custody evicted.keeps laid⟩
    | stamped stamped => exact ⟨_, .of_keeps stamped.custody stamped.keeps laid⟩
    | looked looks unmoved =>
      rw [written?_of_looks looks]
      exact ⟨_, .of_unmoved custody laid unmoved⟩
  · intro _ after failed
    cases failed with
    | rejected rejected => exact .of_unmoved custody laid rejected.toUnmoved
    | declined declined => exact .of_keeps (declined.custody custody) declined.keeps laid
    | stamped stamped _ => exact .of_keeps stamped.custody stamped.keeps laid

end Call

end DemandPaging
